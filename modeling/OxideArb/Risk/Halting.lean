import OxideArb.Risk.LossCaps
import OxideArb.Risk.PreTrade
import OxideArb.Risk.Published

/-!
# A stopped engine stays stopped

The published snapshot is never more permissive than the locked state (`Engine.Guarded`), so an
engine whose breaker is halted or open denies every trade. A halt is kept by every step except
the two that release the breaker.
-/

namespace OxideArb.Risk

open CircuitBreaker (Sticky sticky_haltedAt sticky_blocked)

/-! ## The snapshot against the locked state -/

def Engine.Guarded (e : Engine) : Prop :=
  e.allowsTrading = true → e.circuitBreaker.state.allowsTrading = true

variable {e : Engine}

theorem Engine.Published.guarded (h : e.Published) : e.Guarded := by
  intro hallowed
  unfold Engine.allowsTrading at hallowed
  rw [h] at hallowed
  exact (Bool.and_eq_true_iff.mp hallowed).1

theorem Engine.Guarded.denies (h : e.Guarded) (hshut : e.circuitBreaker.state.allowsTrading = false) :
    e.allowsTrading = false := by
  by_contra hno
  have hopen := h (Bool.eq_true_of_not_eq_false hno)
  rw [hshut] at hopen
  cases hopen

theorem CircuitBreaker.allowsTrading_tick {b : CircuitBreaker} (now : DateTime)
    (h : b.state.allowsTrading = true) : (b.tick now).2.state.allowsTrading = true := by
  unfold CircuitBreaker.tick
  cases hs : b.state with
  | closed => simp [hs, BreakerState.allowsTrading]
  | halfOpen => simp [hs, BreakerState.allowsTrading]
  | opened => rw [hs] at h; cases h
  | recovered => rw [hs] at h; cases h
  | halted => rw [hs] at h; cases h

theorem guarded_step (effect : Effect) (a : Answer) (w : World) (h : w.engine.Guarded) :
    (effect.apply (w.advance a)).engine.Guarded := by
  by_cases ht : effect = .tick
  · subst ht
    exact fun hp => CircuitBreaker.allowsTrading_tick _ (h hp)
  · obtain hnew | ⟨hcopy, hstate⟩ := step_publishes ht (w.advance a)
    · exact hnew.guarded
    · intro hallowed
      unfold Engine.allowsTrading at hallowed
      rw [hcopy] at hallowed
      have hsame := congrArg (fun snap : RiskSnapshot => snap.circuitBreaker.allowsTrading) hstate
      exact hsame.trans (h hallowed)

/-! ## What keeps a sticky property -/

section Keeps

variable {P : BreakerState → Bool}

theorem keeps_tradeEffects (hP : Sticky P) {w : World} (phase : TradeAccountingPhase)
    (trade : PostTradeInput) (readings : Readings)
    (h : P w.engine.circuitBreaker.state = true) :
    P (w.tradeEffects phase trade readings).2.engine.circuitBreaker.state = true := by
  cases phase with
  | fill => exact Engine.keeps_applyCommonChecks hP h
  | settlement => exact Engine.keeps_applyCommonChecks hP (Engine.keeps_lossCaps hP h)

theorem keeps_onExecutionEvent (hP : Sticky P) {e : Engine} (now : DateTime)
    (event : ExecutionRiskEvent) (h : P e.circuitBreaker.state = true) :
    P (e.onExecutionEvent now event).circuitBreaker.state = true := by
  cases event with
  | heartbeatFailure =>
    have hfailed := hP.onHeartbeatFailure now e.config.heartbeatMaxFailures h
    unfold Engine.onExecutionEvent
    dsimp only
    split <;> exact hfailed
  | heartbeatSuccess => exact h
  | fokFailure marketId tokenId consecutive =>
    unfold Engine.onExecutionEvent
    dsimp only
    split
    · exact hP.trip now .session _ h
    · exact h
  | tradeFailed => exact h
  | depthDrop => exact h

theorem keeps_step (hP : Sticky P) {effect : Effect} {a : Answer} {w : World}
    (hrelease : effect.releases = false)
    (htick : effect = .tick →
      P (w.engine.circuitBreaker.tick (w.advance a).clock).2.state = true)
    (h : P w.engine.circuitBreaker.state = true) :
    P (effect.apply (w.advance a)).engine.circuitBreaker.state = true := by
  cases effect with
  | tick => exact htick rfl
  | bump mutation readings =>
    cases mutation with
    | none => exact h
    | fill trade readings' =>
      have hcounted : P ((w.advance a).countTrade trade).engine.circuitBreaker.state = true := h
      exact keeps_tradeEffects hP .fill trade readings' hcounted
    | settlement trade readings' => exact keeps_tradeEffects hP .settlement trade readings' h
    | drift mismatches => exact hP.halt _ .system _ h
    | reset => cases hrelease
    | resolve id => exact h
  | acknowledge => cases hrelease
  | execution event => exact keeps_onExecutionEvent hP _ event h
  | failClosed => exact hP.system (Engine.haltInternal_haltedAt _ _ _)
  | rollback => exact hP.system (Engine.haltInternal_haltedAt _ _ _)
  | haltStale => exact hP.system (Engine.haltInternal_haltedAt _ _ _)
  | halt => exact hP.system (Engine.haltInternal_haltedAt _ _ _)
  | idle => exact h
  | recordEmergency => exact h
  | setBlacklist => exact h
  | reload => exact h
  | publish => exact h
  | discard => exact h
  | takeDebounced => exact h
  | write => exact h
  | commit => simpa [Effect.apply, World.advance] using h
  | resolve => simpa [Effect.apply, World.advance] using h
  | updateDebounced => simpa [Effect.apply, World.advance] using h

end Keeps

/-! ## Runs -/

def Engine.DeniesTrades (e : Engine) : Prop :=
  ∀ (ω μ : Type) (now : DateTime) (params : EngineParams ω μ) (request : ω) (zeroed metrics : μ)
    (mode : ReportMode),
    (preTradeCheckCore e now params request zeroed metrics mode).allowed = false

theorem Engine.Guarded.deniesTrades (h : e.Guarded)
    (hblocked : e.circuitBreaker.state.blocked = true) : e.DeniesTrades :=
  fun _ _ now params request zeroed metrics mode =>
    preTradeCheckCore_denies (h.denies (BreakerState.allowsTrading_of_blocked hblocked)) now params
      request zeroed metrics mode

theorem Boot.restart_guarded {boot : Boot} {db : Database} (h : boot.restart db = .ok e) :
    e.Guarded :=
  (boot.restart_published h).guarded

section Runs

variable {κ : Type} [DecidableEq κ] {calls : κ → Call}
  {S : Routine.System κ Answer World String Unit}

theorem run_guarded (hS : S.Within fun j => StepOf (calls j)) (h : S.state.engine.Guarded)
    (schedule : List (κ × Answer)) : (S.run schedule).state.engine.Guarded :=
  run_invariant hS (I := fun w => w.engine.Guarded)
    (fun s _ effect w _ hw => guarded_step effect s.2 w hw) h

theorem run_haltedAt (hS : S.Within fun j => StepOf (calls j)) {level : CircuitBreakerLevel}
    {schedule : List (κ × Answer)} (hcalls : ∀ s ∈ schedule, (calls s.1).releases = false)
    (h : S.state.engine.circuitBreaker.state.haltedAt level = true) :
    (S.run schedule).state.engine.circuitBreaker.state.haltedAt level = true := by
  refine run_invariant hS (I := fun w => w.engine.circuitBreaker.state.haltedAt level = true)
    ?_ h
  intro s hs effect w hof hw
  refine keeps_step (sticky_haltedAt level) (hof.releases (hcalls s hs)) (fun _ => ?_) hw
  rw [CircuitBreaker.tick_of_isHalted (BreakerState.isHalted_of_haltedAt hw)]
  exact hw

/-- The step releases no breaker and does not begin a tick at or after the end of a running
cooldown. -/
def CoolingStep (calls : κ → Call) (S : Routine.System κ Answer World String Unit)
    (s : κ × Answer) : Prop :=
  (calls s.1).releases = false ∧
    (S.routines s.1 = tick →
      ∀ end_ ∈ S.state.engine.circuitBreaker.state.cooldownUntil,
        (S.state.advance s.2).clock < end_)

def TickAhead (c : Call) (t : Op Unit) : Prop :=
  (c = .tick ∧ t = tick) ∨ t.Within (StepIn fun effect => effect.Of c ∧ effect ≠ .tick)

theorem tickAhead_op (c : Call) : TickAhead c c.op := by
  by_cases hc : c = .tick
  · subst hc
    exact .inl ⟨rfl, rfl⟩
  · refine .inr (c.op_within.mono ?_)
    rintro a w _ ⟨effect, hof, rfl⟩
    refine ⟨effect, ⟨hof, ?_⟩, rfl⟩
    rintro rfl
    exact hc hof

theorem TickAhead.advance {c : Call} {t : Op Unit} (h : TickAhead c t) (a : Answer) (w : World) :
    TickAhead c (t.advance a w).2 := by
  obtain ⟨rfl, rfl⟩ | h := h
  · right
    have hcommon : Common fun effect => effect.Of .tick ∧ effect ≠ .tick :=
      { idle := ⟨trivial, nofun⟩
        failClosed := fun _ => ⟨trivial, nofun⟩
        recordEmergency := fun _ => ⟨trivial, nofun⟩
        write := fun _ => ⟨trivial, nofun⟩
        discard := fun _ => ⟨trivial, nofun⟩ }
    exact afterTick_within hcommon (fun _ => ⟨rfl, nofun⟩) (fun _ _ => ⟨rfl, nofun⟩) _
  · exact .inr (h.advance a w).2

theorem resume_blocked (hS : ∀ j, TickAhead (calls j) (S.routines j)) {s : κ × Answer}
    (hcool : CoolingStep calls S s) (h : S.state.engine.circuitBreaker.state.blocked = true) :
    (S.resume s).state.engine.circuitBreaker.state.blocked = true := by
  obtain ⟨-, hbegin⟩ | hrest := hS s.1
  · have hstate : (S.resume s).state = (S.state.advance s.2).tickSection.2 := by
      unfold Routine.System.resume
      rw [hbegin]
      rfl
    rw [hstate]
    exact CircuitBreaker.blocked_tick h (hcool.2 hbegin)
  · obtain ⟨hstay | ⟨effect, ⟨hof, hne⟩, hmove⟩, -⟩ := hrest.advance s.2 S.state
    · have hstate : (S.resume s).state = S.state := hstay
      rwa [hstate]
    · have hstate : (S.resume s).state = effect.apply (S.state.advance s.2) := hmove
      rw [hstate]
      exact keeps_step sticky_blocked (hof.releases hcool.1) (fun ht => absurd ht hne) h

theorem run_blocked (hS : ∀ j, TickAhead (calls j) (S.routines j)) {schedule : List (κ × Answer)}
    (hcool : Transition.Meets (fun S s => some (S.resume s)) (CoolingStep calls) S schedule)
    (h : S.state.engine.circuitBreaker.state.blocked = true) :
    (S.run schedule).state.engine.circuitBreaker.state.blocked = true := by
  have hinv := Transition.foldl_invariant
    (fun S : Routine.System κ Answer World String Unit =>
      (∀ j, TickAhead (calls j) (S.routines j)) ∧
        S.state.engine.circuitBreaker.state.blocked = true)
    (fun S s hS hs =>
      ⟨Routine.System.resume_routines (fun _ _ a w ht => ht.advance a w) hS.1 s,
        resume_blocked hS.1 hs hS.2⟩)
    ⟨hS, h⟩ hcool
  exact hinv.2

end Runs

/-- From every state that a run of calls reaches: a halted breaker stays halted, at its level
or a higher one, and all trades are denied, while no call releases it; and an open breaker
denies all trades until a tick begins at or after the end of the cooldown. -/
theorem stopped_engine_denies {κ : Type} [DecidableEq κ] {boot : Boot} {db : Database}
    {e : Engine} (hboot : boot.restart db = .ok e) (calls : κ → Call)
    (before : List (κ × Answer)) :
    let S := (start (World.initial e db boot.now) calls).run before
    (∀ level, S.state.engine.circuitBreaker.state.haltedAt level = true →
      ∀ after : List (κ × Answer), (∀ s ∈ after, (calls s.1).releases = false) →
        (S.run after).state.engine.circuitBreaker.state.haltedAt level = true ∧
          (S.run after).state.engine.DeniesTrades) ∧
    (S.state.engine.circuitBreaker.state.blocked = true →
      ∀ after : List (κ × Answer),
        Transition.Meets (fun S s => some (S.resume s)) (CoolingStep calls) S after →
          (S.run after).state.engine.DeniesTrades) := by
  intro S
  have hwithin : S.Within fun j => StepOf (calls j) := (start_within _ calls).run before
  have hguarded : S.state.engine.Guarded :=
    run_guarded (start_within _ calls) (boot.restart_guarded hboot) before
  have hahead : ∀ j, TickAhead (calls j) (S.routines j) :=
    Routine.System.run_routines (fun _ _ a w ht => ht.advance a w)
      (fun j => tickAhead_op (calls j)) before
  constructor
  · intro level hlevel after hcalls
    have hstays := run_haltedAt hwithin hcalls hlevel
    refine ⟨hstays, (run_guarded hwithin hguarded after).deniesTrades ?_⟩
    exact BreakerState.blocked_of_isHalted (BreakerState.isHalted_of_haltedAt hstays)
  · intro hblocked after hcool
    exact (run_guarded hwithin hguarded after).deniesTrades (run_blocked hahead hcool hblocked)

/-- An operator halt, then a tick: the breaker stays at the system level. -/
theorem operator_halt_denies :
    let calls : Bool → Call := fun isTick => if isTick then .tick else .halt "operator"
    let S := (start World.first calls).run [(false, default)]
    S.state.engine.circuitBreaker.state.haltedAt .system = true ∧
      (S.run [(true, default)]).state.engine.DeniesTrades := by
  intro calls S
  have hhalted : S.state.engine.circuitBreaker.state.haltedAt .system = true := by decide +kernel
  have hruns := stopped_engine_denies Boot.first.restart_seed calls [(false, default)]
  exact ⟨hhalted, (hruns.1 .system hhalted [(true, default)] (by decide)).2⟩

end OxideArb.Risk
