import Mathlib.Order.Basic
import OxideArb.Types.Basic

/-!
# The circuit breaker

Five states and four severity levels. A halted breaker stays halted under everything but an
acknowledgement and a reset (`haltedAt`); a blocked one under everything but these two and a tick
at or after the end of the cooldown (`blocked`).
-/

namespace OxideArb.Risk

inductive CircuitBreakerLevel
  | trade
  | session
  | daily
  | system
deriving DecidableEq, Repr

namespace CircuitBreakerLevel

def asU8 : CircuitBreakerLevel → Nat
  | .trade => 1
  | .session => 2
  | .daily => 3
  | .system => 4

theorem asU8_injective : Function.Injective asU8 := by
  intro a b h
  cases a <;> cases b <;> first | rfl | cases h

instance : LinearOrder CircuitBreakerLevel := LinearOrder.lift' asU8 asU8_injective

def display : CircuitBreakerLevel → String
  | .trade => "trade"
  | .session => "session"
  | .daily => "daily"
  | .system => "system"

theorem le_system (level : CircuitBreakerLevel) : level ≤ .system := by
  cases level <;> decide

end CircuitBreakerLevel

inductive BreakerState
  | closed
  | opened (level : CircuitBreakerLevel) (reason : String) (trippedAt cooldownUntil : DateTime)
  | halfOpen (level : CircuitBreakerLevel) (enteredAt : DateTime)
      (successfulProbes requiredProbes : Nat)
  | recovered (enteredAt observationUntil : DateTime)
  | halted (level : CircuitBreakerLevel) (reason : String) (haltedAt : DateTime)
deriving DecidableEq, Repr

inductive BreakerStateName
  | closed
  | opened
  | halfOpen
  | recovered
  | halted
deriving DecidableEq, Repr

namespace BreakerState

def toName : BreakerState → BreakerStateName
  | .closed => .closed
  | .opened .. => .opened
  | .halfOpen .. => .halfOpen
  | .recovered .. => .recovered
  | .halted .. => .halted

def allowsTrading : BreakerState → Bool
  | .closed | .halfOpen .. => true
  | _ => false

def isProbeMode : BreakerState → Bool
  | .halfOpen .. => true
  | _ => false

def isHalted : BreakerState → Bool
  | .halted .. => true
  | _ => false

def haltedAt (level : CircuitBreakerLevel) : BreakerState → Bool
  | .halted current .. => level ≤ current
  | _ => false

def blocked : BreakerState → Bool
  | .opened .. | .halted .. => true
  | _ => false

def cooldownUntil : BreakerState → Option DateTime
  | .opened _ _ _ cooldownUntil => some cooldownUntil
  | _ => none

variable {st : BreakerState} {level : CircuitBreakerLevel}

theorem isHalted_iff : st.isHalted = true ↔ ∃ level reason at_, st = .halted level reason at_ := by
  cases st <;> simp [isHalted]

theorem haltedAt_iff : st.haltedAt level = true ↔
      ∃ current reason at_, st = .halted current reason at_ ∧ level ≤ current := by
  cases st <;> simp [haltedAt]

theorem isHalted_of_haltedAt (h : st.haltedAt level = true) : st.isHalted = true := by
  obtain ⟨current, reason, at_, rfl, -⟩ := haltedAt_iff.mp h
  rfl

theorem haltedAt_mono {level' : CircuitBreakerLevel} (hle : level ≤ level')
    (h : st.haltedAt level' = true) : st.haltedAt level = true := by
  obtain ⟨current, reason, at_, rfl, hcurrent⟩ := haltedAt_iff.mp h
  exact decide_eq_true (hle.trans hcurrent)

theorem blocked_of_isHalted (h : st.isHalted = true) : st.blocked = true := by
  obtain ⟨level, reason, at_, rfl⟩ := isHalted_iff.mp h
  rfl

theorem allowsTrading_of_blocked (h : st.blocked = true) : st.allowsTrading = false := by
  cases st <;> first | rfl | cases h

theorem isProbeMode_of_isHalted (h : st.isHalted = true) : st.isProbeMode = false := by
  obtain ⟨level, reason, at_, rfl⟩ := isHalted_iff.mp h
  rfl

end BreakerState

structure CircuitBreakerConfig where
  l1CooldownSecs : Nat
  l2CooldownSecs : Nat
  l3CooldownSecs : Nat
  l4CooldownSecs : Nat
  maxCooldownSecs : Nat
  halfOpenProbes : Nat
  recoveryObservationSecs : Nat
deriving DecidableEq, Repr

def CircuitBreakerConfig.default : CircuitBreakerConfig where
  l1CooldownSecs := 60
  l2CooldownSecs := 900
  l3CooldownSecs := 3600
  l4CooldownSecs := 7200
  maxCooldownSecs := 14400
  halfOpenProbes := 2
  recoveryObservationSecs := 300

structure CircuitBreaker where
  config : CircuitBreakerConfig
  state : BreakerState
  l2TripCount : Nat
  heartbeatFailures : Nat
  lastTransitionAt : DateTime
deriving DecidableEq, Repr

/-- `Duration::seconds` of a `u64`, which is cut to an `i64` first. -/
def durationSecs (secs : Nat) : Duration := Duration.seconds (min secs i64Max)

namespace CircuitBreaker

def new (config : CircuitBreakerConfig) (now : DateTime) : CircuitBreaker where
  config := config
  state := .closed
  l2TripCount := 0
  heartbeatFailures := 0
  lastTransitionAt := now

/-- The state, the trip counter and a running cooldown are kept. -/
def setConfig (b : CircuitBreaker) (config : CircuitBreakerConfig) : CircuitBreaker :=
  { b with config }

/-- The cooldown of a level in seconds; at the session level it doubles with every trip. -/
def cooldownForLevel (b : CircuitBreaker) : CircuitBreakerLevel → Nat
  | .trade => b.config.l1CooldownSecs
  | .session =>
    let power := min (2 ^ (b.l2TripCount - 1)) u64Max
    let multiplied := min (b.config.l2CooldownSecs * power) u64Max
    min multiplied b.config.maxCooldownSecs
  | .daily => b.config.l3CooldownSecs
  | .system => b.config.l4CooldownSecs

def shouldTrip (level : CircuitBreakerLevel) : BreakerState → Bool
  | .halted .. => false
  | .opened current .. => current ≤ level
  | _ => true

def trip (b : CircuitBreaker) (now : DateTime) (level : CircuitBreakerLevel) (reason : String) :
    CircuitBreaker :=
  -- the cooldown is computed before the trip is counted
  let cooldownUntil := now + durationSecs (b.cooldownForLevel level)
  let b := { b with l2TripCount := if level = .session then b.l2TripCount + 1 else b.l2TripCount }
  if shouldTrip level b.state then
    { b with state := .opened level reason now cooldownUntil, lastTransitionAt := now }
  else b

def shouldHalt (level : CircuitBreakerLevel) : BreakerState → Bool
  | .halted current .. => current < level
  | _ => true

def halt (b : CircuitBreaker) (now : DateTime) (level : CircuitBreakerLevel) (reason : String) :
    CircuitBreaker :=
  if shouldHalt level b.state then
    { b with state := .halted level reason now, lastTransitionAt := now }
  else b

def acknowledgeAndResume (b : CircuitBreaker) (now : DateTime) : Bool × CircuitBreaker :=
  if b.state.isHalted then
    (true, { b with state := .closed, l2TripCount := 0, lastTransitionAt := now })
  else (false, b)

/-- The time-based transitions, with whether one was made. -/
def tick (b : CircuitBreaker) (now : DateTime) : Bool × CircuitBreaker :=
  match b.state with
  | .opened level _ _ cooldownUntil =>
    if cooldownUntil ≤ now then
      (true, { b with
        state := .halfOpen level now 0 b.config.halfOpenProbes, lastTransitionAt := now })
    else (false, b)
  | .recovered _ observationUntil =>
    if observationUntil ≤ now then
      (true, { b with state := .closed, l2TripCount := 0, lastTransitionAt := now })
    else (false, b)
  | _ => (false, b)

def onTradeResult (b : CircuitBreaker) (now : DateTime) (success : Bool) : CircuitBreaker :=
  match b.state with
  | .halfOpen level enteredAt successfulProbes requiredProbes =>
    if success then
      let probes := successfulProbes + 1
      if requiredProbes ≤ probes then
        { b with
          state := .recovered now (now + durationSecs b.config.recoveryObservationSecs)
          lastTransitionAt := now }
      else { b with state := .halfOpen level enteredAt probes requiredProbes }
    else
      let cooldownSecs := min (b.cooldownForLevel level * 2) b.config.maxCooldownSecs
      { b with
        state := .opened level "probe trade failed in HalfOpen" now
          (now + durationSecs cooldownSecs)
        lastTransitionAt := now }
  | _ => b

def reset (b : CircuitBreaker) (now : DateTime) : CircuitBreaker :=
  { b with state := .closed, l2TripCount := 0, lastTransitionAt := now }

def onHeartbeatFailure (b : CircuitBreaker) (now : DateTime) (maxFailures : Nat) :
    Bool × CircuitBreaker :=
  let b := { b with heartbeatFailures := min (b.heartbeatFailures + 1) u32Max }
  if maxFailures ≤ b.heartbeatFailures then
    (true, b.halt now .system s!"{b.heartbeatFailures} consecutive heartbeat failures")
  else (false, b)

def onHeartbeatSuccess (b : CircuitBreaker) : CircuitBreaker := { b with heartbeatFailures := 0 }

/-! ## Halted stays halted -/

variable {b : CircuitBreaker} {level : CircuitBreakerLevel}

theorem trip_of_isHalted (h : b.state.isHalted = true) (now : DateTime)
    (level : CircuitBreakerLevel) (reason : String) :
    (b.trip now level reason).state = b.state := by
  obtain ⟨current, why, at_, hs⟩ := BreakerState.isHalted_iff.mp h
  simp [trip, hs, shouldTrip]

theorem tick_of_isHalted (h : b.state.isHalted = true) (now : DateTime) :
    b.tick now = (false, b) := by
  obtain ⟨current, why, at_, hs⟩ := BreakerState.isHalted_iff.mp h
  simp [tick, hs]

theorem onTradeResult_of_not_probe (h : b.state.isProbeMode = false) (now : DateTime)
    (success : Bool) : b.onTradeResult now success = b := by
  unfold onTradeResult
  split
  next hs => rw [hs] at h; cases h
  next => rfl

theorem halt_haltedAt (b : CircuitBreaker) (now : DateTime) (level : CircuitBreakerLevel)
    (reason : String) : (b.halt now level reason).state.haltedAt level = true := by
  unfold halt
  split
  · exact decide_eq_true le_rfl
  next hno =>
    cases hs : b.state <;> simp_all [shouldHalt, BreakerState.haltedAt]

theorem haltedAt_halt (h : b.state.haltedAt level = true) (now : DateTime)
    (level' : CircuitBreakerLevel) (reason : String) :
    (b.halt now level' reason).state.haltedAt level = true := by
  obtain ⟨current, why, at_, hs, hle⟩ := BreakerState.haltedAt_iff.mp h
  unfold halt
  split
  next hyes =>
    rw [hs] at hyes
    have hlt : current < level' := of_decide_eq_true hyes
    exact decide_eq_true (hle.trans hlt.le)
  next => exact h

theorem isHalted_halt (b : CircuitBreaker) (now : DateTime) (level : CircuitBreakerLevel)
    (reason : String) : (b.halt now level reason).state.isHalted = true :=
  BreakerState.isHalted_of_haltedAt (b.halt_haltedAt now level reason)

theorem haltedAt_trip (h : b.state.haltedAt level = true) (now : DateTime)
    (level' : CircuitBreakerLevel) (reason : String) :
    (b.trip now level' reason).state.haltedAt level = true := by
  rw [trip_of_isHalted (BreakerState.isHalted_of_haltedAt h)]
  exact h

theorem isHalted_tick (b : CircuitBreaker) (now : DateTime) :
    (b.tick now).2.state.isHalted = b.state.isHalted := by
  unfold tick
  split
  next hs => split <;> simp [hs, BreakerState.isHalted]
  next hs => split <;> simp [hs, BreakerState.isHalted]
  next => rfl

theorem isHalted_trip (b : CircuitBreaker) (now : DateTime) (level : CircuitBreakerLevel)
    (reason : String) : (b.trip now level reason).state.isHalted = b.state.isHalted := by
  by_cases h : b.state.isHalted = true
  · rw [trip_of_isHalted h]
  · unfold trip
    dsimp only
    split
    · simpa [BreakerState.isHalted] using h
    · rfl

theorem isHalted_acknowledgeAndResume (b : CircuitBreaker) (now : DateTime) :
    (b.acknowledgeAndResume now).2.state.isHalted = false := by
  unfold acknowledgeAndResume
  split
  · rfl
  next h => simpa using h

/-! ## Blocked stays blocked -/

theorem trip_blocked (b : CircuitBreaker) (now : DateTime) (level : CircuitBreakerLevel)
    (reason : String) : (b.trip now level reason).state.blocked = true := by
  unfold trip
  dsimp only
  split
  · rfl
  next hno => cases hs : b.state <;> simp_all [shouldTrip, BreakerState.blocked]

theorem halt_blocked (b : CircuitBreaker) (now : DateTime) (level : CircuitBreakerLevel)
    (reason : String) : (b.halt now level reason).state.blocked = true :=
  BreakerState.blocked_of_isHalted (b.isHalted_halt now level reason)

theorem blocked_onTradeResult (h : b.state.blocked = true) (now : DateTime) (success : Bool) :
    (b.onTradeResult now success).state.blocked = true := by
  rw [onTradeResult_of_not_probe]
  · exact h
  · cases hs : b.state <;> simp_all [BreakerState.blocked, BreakerState.isProbeMode]

theorem blocked_tick (h : b.state.blocked = true) {now : DateTime}
    (hearly : ∀ t ∈ b.state.cooldownUntil, now < t) : (b.tick now).2.state.blocked = true := by
  unfold tick
  cases hs : b.state with
  | opened level reason at_ cooldownUntil =>
    rw [hs] at hearly
    simp [not_le.mpr (hearly cooldownUntil rfl), hs, BreakerState.blocked]
  | halted => simp [hs, BreakerState.blocked]
  | closed => rw [hs] at h; cases h
  | halfOpen => rw [hs] at h; cases h
  | recovered => rw [hs] at h; cases h

/-! ## What a trade cannot undo -/

/-- A property of the breaker that every system-level halt gives it and that no halt, trip
or probe trade takes from it. -/
structure Sticky (P : BreakerState → Bool) : Prop where
  system : ∀ {st : BreakerState}, st.haltedAt .system = true → P st = true
  halt : ∀ {b : CircuitBreaker} (now level reason), P b.state = true →
    P (b.halt now level reason).state = true
  trip : ∀ {b : CircuitBreaker} (now level reason), P b.state = true →
    P (b.trip now level reason).state = true
  onTradeResult : ∀ {b : CircuitBreaker} (now success), P b.state = true →
    P (b.onTradeResult now success).state = true

theorem sticky_haltedAt (level : CircuitBreakerLevel) : Sticky (BreakerState.haltedAt level) where
  system h := BreakerState.haltedAt_mono level.le_system h
  halt now level' reason h := haltedAt_halt h now level' reason
  trip now level' reason h := haltedAt_trip h now level' reason
  onTradeResult now success h := by
    have hprobe := BreakerState.isProbeMode_of_isHalted (BreakerState.isHalted_of_haltedAt h)
    rw [onTradeResult_of_not_probe hprobe]
    exact h

theorem sticky_blocked : Sticky BreakerState.blocked where
  system h := BreakerState.blocked_of_isHalted (BreakerState.isHalted_of_haltedAt h)
  halt _ _ _ _ := halt_blocked ..
  trip _ _ _ _ := trip_blocked ..
  onTradeResult now success h := blocked_onTradeResult h now success

theorem Sticky.onHeartbeatFailure {P : BreakerState → Bool} (hP : Sticky P) (now : DateTime)
    (maxFailures : Nat) (h : P b.state = true) :
    P (b.onHeartbeatFailure now maxFailures).2.state = true := by
  let counted := { b with heartbeatFailures := min (b.heartbeatFailures + 1) u32Max }
  have hcounted : P counted.state = true := h
  unfold CircuitBreaker.onHeartbeatFailure
  dsimp only
  split
  · exact hP.halt now .system _ hcounted
  · exact h

end CircuitBreaker

end OxideArb.Risk
