import OxideArb.Lib.Transition
import OxideArb.Risk.Validation

/-!
# Cooldowns of the circuit breaker

The cooldown of a session trip doubles with the trips counted before it, up to the maximum; a
completed observation clears the count. A failed probe opens the breaker for twice the level's
cooldown, cut at the same maximum.
-/

namespace OxideArb.Risk

inductive BreakerEvent
  | trip (level : CircuitBreakerLevel) (reason : String)
  | tick
  | tradeResult (success : Bool)
deriving DecidableEq, Repr

def CircuitBreakerConfig.cooldownSecs (config : CircuitBreakerConfig) :
    CircuitBreakerLevel → Nat
  | .trade => config.l1CooldownSecs
  | .session => config.l2CooldownSecs
  | .daily => config.l3CooldownSecs
  | .system => config.l4CooldownSecs

def BreakerState.openFor : BreakerState → Option Duration
  | .opened _ _ trippedAt cooldownUntil => some (cooldownUntil - trippedAt)
  | _ => none

namespace CircuitBreaker

variable {b : CircuitBreaker} {config : CircuitBreakerConfig}

def react (b : CircuitBreaker) (event : DateTime × BreakerEvent) : CircuitBreaker :=
  match event.2 with
  | .trip level reason => b.trip event.1 level reason
  | .tick => (b.tick event.1).2
  | .tradeResult success => b.onTradeResult event.1 success

def Unobserved (b : CircuitBreaker) (event : DateTime × BreakerEvent) : Prop :=
  event.2 = .tick → ∀ enteredAt observationUntil,
    b.state = .recovered enteredAt observationUntil → event.1 < observationUntil

def sessionCooldown (config : CircuitBreakerConfig) (count : Nat) : Nat :=
  min (min (config.l2CooldownSecs * min (2 ^ (count - 1)) u64Max) u64Max) config.maxCooldownSecs

theorem cooldownForLevel_session (b : CircuitBreaker) :
    b.cooldownForLevel .session = sessionCooldown b.config b.l2TripCount :=
  rfl

theorem sessionCooldown_mono {n m : Nat} (h : n ≤ m) :
    sessionCooldown config n ≤ sessionCooldown config m := by
  have hpow : 2 ^ (n - 1) ≤ 2 ^ (m - 1) := Nat.pow_le_pow_right (by decide) (by omega)
  unfold sessionCooldown
  gcongr

theorem sessionCooldown_le_max (n : Nat) : sessionCooldown config n ≤ config.maxCooldownSecs :=
  min_le_right _ _

theorem le_sessionCooldown (hmax : config.l2CooldownSecs ≤ config.maxCooldownSecs)
    (hword : config.l2CooldownSecs ≤ u64Max) (n : Nat) :
    config.l2CooldownSecs ≤ sessionCooldown config n := by
  have hpow : 1 ≤ min (2 ^ (n - 1)) u64Max := le_min Nat.one_le_two_pow (by decide)
  exact le_min (le_min (Nat.le_mul_of_pos_right _ hpow) hword) hmax

theorem le_cooldownForLevel (hmax : b.config.l2CooldownSecs ≤ b.config.maxCooldownSecs)
    (hword : b.config.l2CooldownSecs ≤ u64Max) (level : CircuitBreakerLevel) :
    b.config.cooldownSecs level ≤ b.cooldownForLevel level := by
  cases level with
  | session => exact le_sessionCooldown hmax hword _
  | trade => exact le_rfl
  | daily => exact le_rfl
  | system => exact le_rfl

/-! ## What one event does -/

structure Reaction (b : CircuitBreaker) (event : DateTime × BreakerEvent) (b' : CircuitBreaker) :
    Prop where
  config : b'.config = b.config
  count_le : b'.l2TripCount ≤ b.l2TripCount + 1
  le_count : b.Unobserved event → b.l2TripCount ≤ b'.l2TripCount
  opened : ∀ level reason at_ until_, b'.state = .opened level reason at_ until_ →
    b.state = .opened level reason at_ until_ ∨ ∃ secs, until_ = at_ + durationSecs secs ∧
      (secs = b.cooldownForLevel level ∨
        secs = min (b.cooldownForLevel level * 2) b.config.maxCooldownSecs)

theorem Reaction.refl (b : CircuitBreaker) (event : DateTime × BreakerEvent) :
    Reaction b event b where
  config := rfl
  count_le := Nat.le_succ _
  le_count _ := le_rfl
  opened _ _ _ _ h := .inl h

theorem reaction (b : CircuitBreaker) (event : DateTime × BreakerEvent) :
    Reaction b event (b.react event) := by
  obtain ⟨now, event⟩ := event
  cases event with
  | trip level reason =>
    have hcount : b.l2TripCount ≤ (if level = .session then b.l2TripCount + 1 else b.l2TripCount) ∧
        (if level = .session then b.l2TripCount + 1 else b.l2TripCount) ≤ b.l2TripCount + 1 := by
      split <;> omega
    simp only [react, trip]
    split
    · refine ⟨rfl, hcount.2, fun _ => hcount.1, ?_⟩
      rintro _ _ _ _ ⟨⟩
      exact .inr ⟨_, rfl, .inl rfl⟩
    · exact ⟨rfl, hcount.2, fun _ => hcount.1, fun _ _ _ _ h => .inl h⟩
  | tick =>
    simp only [react, tick]
    split
    · split
      · exact { Reaction.refl b _ with opened := fun _ _ _ _ h => by cases h }
      · exact .refl b _
    · next enteredAt observationUntil hstate =>
      split
      · next hdue =>
        refine ⟨rfl, Nat.zero_le _, fun h => ?_, fun _ _ _ _ h => by cases h⟩
        exact absurd hdue (not_le.mpr (h rfl enteredAt observationUntil hstate))
      · exact .refl b _
    · exact .refl b _
  | tradeResult success =>
    simp only [react, onTradeResult]
    split
    · split
      · split
        · exact { Reaction.refl b _ with opened := fun _ _ _ _ h => by cases h }
        · exact { Reaction.refl b _ with opened := fun _ _ _ _ h => by cases h }
      · refine { Reaction.refl b _ with opened := ?_ }
        rintro _ _ _ _ ⟨⟩
        exact .inr ⟨_, rfl, .inr rfl⟩
    · exact .refl b _

/-! ## Runs -/

theorem durationSecs_mono {n m : Nat} (h : n ≤ m) : (durationSecs n : Int) ≤ durationSecs m := by
  have hcut : min (n : Int) i64Max ≤ min (m : Int) i64Max := by omega
  change min (n : Int) i64Max * 1000000000 ≤ min (m : Int) i64Max * 1000000000
  omega

/-- An open breaker has at least the cooldown of its level before it, unless the maximum is
less. -/
structure Cooling (config : CircuitBreakerConfig) (b : CircuitBreaker) : Prop where
  unchanged : b.config = config
  opened : ∀ level reason at_ until_, b.state = .opened level reason at_ until_ →
    at_ + durationSecs (min (config.cooldownSecs level) config.maxCooldownSecs) ≤ until_

theorem Cooling.react (h : Cooling config b) (hmax : config.l2CooldownSecs ≤ config.maxCooldownSecs)
    (hword : config.l2CooldownSecs ≤ u64Max) (event : DateTime × BreakerEvent) :
    Cooling config (b.react event) := by
  have hreaction := b.reaction event
  obtain ⟨rfl, hopened⟩ := h
  refine ⟨hreaction.config, fun level reason at_ until_ hstate => ?_⟩
  rcases hreaction.opened level reason at_ until_ hstate with hold | ⟨secs, rfl, hsecs⟩
  · exact hopened level reason at_ until_ hold
  · have hlevel := le_cooldownForLevel hmax hword level
    have hle : min (b.config.cooldownSecs level) b.config.maxCooldownSecs ≤ secs := by omega
    have hduration := durationSecs_mono hle
    exact Int.add_le_add_left hduration at_

theorem cooling_run (hmax : config.l2CooldownSecs ≤ config.maxCooldownSecs)
    (hword : config.l2CooldownSecs ≤ u64Max) (now : DateTime)
    (events : List (DateTime × BreakerEvent)) :
    Cooling config (events.foldl react (.new config now)) :=
  List.foldlRecOn events react ⟨rfl, nofun⟩ fun _ h event _ => Cooling.react h hmax hword event

theorem count_run_le (b : CircuitBreaker) (events : List (DateTime × BreakerEvent)) :
    (events.foldl react b).l2TripCount ≤ b.l2TripCount + events.length := by
  induction events generalizing b with
  | nil => exact le_rfl
  | cons event events ih =>
    have hstep := (b.reaction event).count_le
    have hrest := ih (b.react event)
    rw [List.foldl_cons, List.length_cons]
    omega

theorem cooldown_run_mono {events : List (DateTime × BreakerEvent)}
    (h : Transition.Meets (fun b e => some (react b e)) Unobserved b events) :
    b.cooldownForLevel .session ≤ (events.foldl react b).cooldownForLevel .session := by
  have hrun := Transition.foldl_invariant
    (fun b' : CircuitBreaker => b'.config = b.config ∧ b.l2TripCount ≤ b'.l2TripCount)
    (fun b' event hb hok => ⟨(b'.reaction event).config.trans hb.1,
      hb.2.trans ((b'.reaction event).le_count hok)⟩) ⟨rfl, le_rfl⟩ h
  rw [cooldownForLevel_session, cooldownForLevel_session, hrun.1]
  exact sessionCooldown_mono hrun.2

theorem tick_leaves_opened {level : CircuitBreakerLevel} {reason : String}
    {at_ until_ now : DateTime} (hstate : b.state = .opened level reason at_ until_)
    (h : (b.tick now).1 = true) : until_ ≤ now := by
  unfold tick at h
  rw [hstate] at h
  by_contra hearly
  simp [hearly] at h

end CircuitBreaker

end OxideArb.Risk
