import OxideArb.Execution.Fsm
import OxideArb.Risk.Halting

/-!
# The trading gate

New trades pass when the kill switch is clear and the risk engine allows trading. Resuming
acknowledges the halt first and does not take it back when a later stage fails. Calls run here
without interruption.
-/

namespace OxideArb.Risk

/-! ## The acknowledgement -/

def Fault.reported : Fault → Option String
  | .none => Option.none
  | .failed error | .lost error => some error

theorem acknowledgeAndResume_run (w : World) (acknowledged audited rehalted : Answer) :
    let w' := (w.advance acknowledged).acknowledgeAndResume.advance audited
    acknowledgeAndResume.toProg w [acknowledged, audited, rehalted] =
      match audited.fault.reported with
      | none => (.ok (), w', [rehalted])
      | some e => (.error e, (w'.advance rehalted).failClosed s!"resume audit failed: {e}", []) := by
  obtain ⟨now, readings, fault⟩ := audited
  cases fault <;> rfl

namespace CircuitBreaker

variable (b : CircuitBreaker)

variable (now : DateTime)

theorem acknowledgeAndResume_eq_self_iff :
    (b.acknowledgeAndResume now).2 = b ↔ b.state.isHalted = false := by
  unfold acknowledgeAndResume
  split
  next hhalted =>
    refine ⟨fun h => ?_, fun h => absurd hhalted (by rw [h]; decide)⟩
    rw [← h]
    rfl
  next hno => exact ⟨fun _ => Bool.eq_false_of_not_eq_true hno, fun _ => rfl⟩

theorem acknowledgeAndResume_not_halted :
    (b.acknowledgeAndResume now).2.state.isHalted = false := by
  unfold acknowledgeAndResume
  split
  next => rfl
  next hno => exact Bool.eq_false_of_not_eq_true hno

theorem halt_of_not_halted {b : CircuitBreaker} (h : b.state.isHalted = false) (now : DateTime)
    (level : CircuitBreakerLevel) (reason : String) :
    b.halt now level reason =
      { b with state := .halted level reason now, lastTransitionAt := now } := by
  unfold halt
  cases hs : b.state with
  | halted => rw [hs] at h; cases h
  | _ => rfl

theorem rehalt_eq_self_iff (now' : DateTime) (reason : String) :
    (b.acknowledgeAndResume now).2.halt now' .system reason = b ↔
      b.state = .halted .system reason now' ∧ b.l2TripCount = 0 ∧ b.lastTransitionAt = now' := by
  rw [halt_of_not_halted (b.acknowledgeAndResume_not_halted now)]
  constructor
  · intro h
    have hstate : b.state = .halted .system reason now' := by rw [← h]
    have hack : (b.acknowledgeAndResume now).2.l2TripCount = 0 := by
      simp [acknowledgeAndResume, hstate, BreakerState.isHalted]
    refine ⟨hstate, ?_, by rw [← h]⟩
    rw [← h]
    exact hack
  · rintro ⟨hstate, htrips, hlast⟩
    obtain ⟨config, state, trips, failures, last⟩ := b
    simp only at hstate htrips hlast
    subst hstate htrips hlast
    rfl

end CircuitBreaker

theorem Engine.Published.allowsTrading_congr {e e' : Engine} (h : e.Published)
    (h' : e'.Published) (hb : e'.circuitBreaker = e.circuitBreaker) :
    e'.allowsTrading = e.allowsTrading := by
  unfold Engine.allowsTrading
  rw [h, h']
  simp only [Engine.compileRiskSnapshot, hb]

end OxideArb.Risk

namespace OxideArb.Control

open Risk (Answer CircuitBreaker Engine Fault World)

/-! ## The runtime -/

structure KillSwitch where
  emergency : Bool
  cls : EmergencyClass
  lastEmergencyReason : Option String
deriving DecidableEq, Repr

namespace KillSwitch

def enterEmergency (cls : EmergencyClass) (reason : String) : KillSwitch :=
  { emergency := true, cls, lastEmergencyReason := some reason }

def enterPlannedHalt (reason : String) : KillSwitch :=
  { emergency := true, cls := .venueFault, lastEmergencyReason := some reason }

def clearEmergency : KillSwitch :=
  { emergency := false, cls := .venueFault, lastEmergencyReason := none }

end KillSwitch

structure SystemRuntimeState where
  executionMode : ExecutionMode
  changedBy : String
  reason : String
  changedAt : DateTime
deriving DecidableEq, Repr

structure Runtime where
  risk : World
  fsm : KillSwitch
  blockingCount : Nat
  blockingTrades : Nat
  executionMode : ExecutionMode
  systemRuntimeState : SystemRuntimeState

namespace Runtime

def Halted (r : Runtime) : Prop := r.fsm.emergency = true ∨ r.risk.engine.allowsTrading = false

instance (r : Runtime) : Decidable r.Halted :=
  inferInstanceAs (Decidable (r.fsm.emergency = true ∨ r.risk.engine.allowsTrading = false))

/-- `refresh_async`: the counts are read, then the new snapshot is published. -/
def refreshAsync (r : Runtime) : Except String Unit → Except String Unit × Runtime
  | .error e => (.error e, r)
  | .ok () => (.ok (), { r with blockingCount := min r.blockingTrades u32Max })

end Runtime

/-! ## Resuming -/

/-- What `resume_trading` meets: the answers to the acknowledgement (its section, its audit
event, and the halt that follows a failed audit) and the reply to the refresh. -/
structure ResumeEnv where
  acknowledged : Answer
  audited : Answer
  rehalted : Answer
  refresh : Except String Unit

def ResumeEnv.answers (env : ResumeEnv) : List Answer :=
  [env.acknowledged, env.audited, env.rehalted]

inductive ResumeError
  | risk (error : String)
  | storage (error : String)
  | blockingTradesUnresolved (count : Nat)
deriving DecidableEq, Repr

/-- `resume_trading` from the refresh on. -/
def finishResume (r : Runtime) (refresh : Except String Unit) :
    Except ResumeError Unit × Runtime :=
  match r.refreshAsync refresh with
  | (.error e, r) => (.error (.storage e), r)
  | (.ok (), r) =>
    if 0 < r.blockingCount then (.error (.blockingTradesUnresolved r.blockingCount), r)
    else if r.risk.engine.allowsTrading && r.fsm.cls.allowsAutoRecover then
      (.ok (), { r with fsm := .clearEmergency })
    else (.ok (), r)

def resumeTrading (r : Runtime) (env : ResumeEnv) : Except ResumeError Unit × Runtime :=
  match Risk.acknowledgeAndResume.toProg r.risk env.answers with
  | (.error e, risk, _) => (.error (.risk e), { r with risk })
  | (.ok (), risk, _) => finishResume { r with risk } env.refresh

/-! ## Heartbeats -/

/-- What one heartbeat meets: the reply to the refresh, the balance call that probes the
venue, and the answer to the event for the risk engine. -/
structure Beat where
  refresh : Except String Unit
  collateralBalance : Except String Unit
  answer : Answer

namespace Runtime

def onExecutionEvent (r : Runtime) (event : Risk.ExecutionRiskEvent) (a : Answer) : Runtime :=
  { r with risk := r.risk.perform (.execution event, [a]) }

def tryAutoRecover (r : Runtime) : Bool × Runtime :=
  if !r.fsm.emergency then (false, r)
  else if !r.fsm.cls.allowsAutoRecover then (false, r)
  else if 0 < r.blockingCount then (false, r)
  else if r.risk.engine.allowsTrading then (true, { r with fsm := .clearEmergency })
  else (false, r)

/-- One round of the heartbeat loop, which idles outside Live. -/
def heartbeat (r : Runtime) (beat : Beat) : Runtime :=
  if r.executionMode ≠ .live then r
  else
    let r := (r.refreshAsync beat.refresh).2
    match beat.collateralBalance with
    | .ok () => ((r.onExecutionEvent .heartbeatSuccess beat.answer).tryAutoRecover).2
    | .error _ =>
      let r := r.onExecutionEvent .heartbeatFailure beat.answer
      if !r.risk.engine.allowsTrading && !r.fsm.emergency then
        { r with fsm := .enterEmergency .venueFault Fsm.beatReason }
      else r

end Runtime

/-! ## What a failed resume leaves -/

namespace ResumeEnv

variable (env : ResumeEnv)

def resumed (w : World) : World :=
  (w.advance env.acknowledged).acknowledgeAndResume.advance env.audited

def rehaltedAt (w : World) : DateTime :=
  ((env.resumed w).advance env.rehalted).clock

/-- What the breaker must be for a failed call to leave it alone: not halted, and when the
audit fails, halted already as the failed audit halts it. -/
def LeavesBreaker (w : World) : Prop :=
  match env.audited.fault.reported with
  | none => w.engine.circuitBreaker.state.isHalted = false
  | some e =>
    w.engine.circuitBreaker.state =
        .halted .system s!"resume audit failed: {e}" (env.rehaltedAt w) ∧
      w.engine.circuitBreaker.l2TripCount = 0 ∧
      w.engine.circuitBreaker.lastTransitionAt = env.rehaltedAt w

end ResumeEnv

/-- The breaker and the kill switch are the same, in memory and in the database. -/
structure Runtime.SameGate (r r' : Runtime) : Prop where
  breaker : r'.risk.engine.circuitBreaker = r.risk.engine.circuitBreaker
  fsm : r'.fsm = r.fsm
  stored : r'.risk.db = r.risk.db

variable {r : Runtime} {env : ResumeEnv} {e : ResumeError}

theorem resumeTrading_error (h : (resumeTrading r env).1 = .error e) :
    (∃ error, env.audited.fault.reported = some error ∧
      (resumeTrading r env).2 = { r with
        risk := ((env.resumed r.risk).advance env.rehalted).failClosed
          s!"resume audit failed: {error}" }) ∨
    (env.audited.fault.reported = none ∧
      ∃ count, (count = r.blockingCount ∨ 0 < count) ∧
        (resumeTrading r env).2 = { r with
          risk := env.resumed r.risk
          blockingCount := count }) := by
  unfold resumeTrading ResumeEnv.answers at h ⊢
  rw [Risk.acknowledgeAndResume_run] at h ⊢
  cases haudit : env.audited.fault.reported with
  | some error => exact .inl ⟨error, rfl, rfl⟩
  | none =>
    rw [haudit] at h
    right
    refine ⟨rfl, ?_⟩
    simp only [finishResume] at h ⊢
    cases hrefresh : env.refresh with
    | error _ => exact ⟨r.blockingCount, .inl rfl, rfl⟩
    | ok _ =>
      simp only [hrefresh, Runtime.refreshAsync] at h ⊢
      by_cases hblocked : 0 < min r.blockingTrades u32Max
      · simp only [hblocked, if_true]
        exact ⟨_, .inr hblocked, rfl⟩
      · simp only [hblocked, if_false] at h
        split at h <;> cases h

theorem sameGate_iff_leavesBreaker (h : (resumeTrading r env).1 = .error e) :
    r.SameGate (resumeTrading r env).2 ↔ env.LeavesBreaker r.risk := by
  unfold ResumeEnv.LeavesBreaker
  obtain ⟨error, haudit, hrun⟩ | ⟨haudit, count, -, hrun⟩ := resumeTrading_error h
  · rw [hrun, haudit]
    have hbreaker := r.risk.engine.circuitBreaker.rehalt_eq_self_iff
      (r.risk.advance env.acknowledged).clock (env.rehaltedAt r.risk)
      s!"resume audit failed: {error}"
    exact ⟨fun hsame => hbreaker.mp hsame.breaker, fun hb => ⟨hbreaker.mpr hb, rfl, rfl⟩⟩
  · rw [hrun, haudit]
    have hbreaker := r.risk.engine.circuitBreaker.acknowledgeAndResume_eq_self_iff
      (r.risk.advance env.acknowledged).clock
    exact ⟨fun hsame => hbreaker.mp hsame.breaker, fun hb => ⟨hbreaker.mpr hb, rfl, rfl⟩⟩

/-! ## The next heartbeat -/

theorem published_of_resume_error (h : (resumeTrading r env).1 = .error e) :
    (resumeTrading r env).2.risk.engine.Published := by
  obtain ⟨error, -, hrun⟩ | ⟨-, count, -, hrun⟩ := resumeTrading_error h
  · rw [hrun]
    rfl
  · rw [hrun]
    rfl

theorem tryAutoRecover_clear_iff (r : Runtime) :
    r.tryAutoRecover.2.fsm.emergency = false ↔
      r.fsm.emergency = false ∨
        (r.fsm.cls.allowsAutoRecover = true ∧ r.blockingCount = 0 ∧
          r.risk.engine.allowsTrading = true) := by
  unfold Runtime.tryAutoRecover
  cases hswitch : r.fsm.emergency with
  | false => simp [hswitch]
  | true =>
    cases r.fsm.cls.allowsAutoRecover with
    | false => simp [hswitch]
    | true =>
      by_cases hblocked : 0 < r.blockingCount
      · simp [hswitch, hblocked, Nat.ne_of_gt hblocked]
      · cases r.risk.engine.allowsTrading with
        | false => simp [hswitch, hblocked]
        | true => simpa [hblocked, KillSwitch.clearEmergency] using Nat.eq_zero_of_not_pos hblocked

theorem heartbeat_clear_iff (r : Runtime) (beat : Beat)
    (hok : beat.collateralBalance = .ok ()) :
    (r.heartbeat beat).fsm.emergency = false ↔
      r.fsm.emergency = false ∨
        (r.executionMode = .live ∧ r.fsm.cls.allowsAutoRecover = true ∧
          (r.refreshAsync beat.refresh).2.blockingCount = 0 ∧
          r.risk.engine.allowsTrading = true) := by
  unfold Runtime.heartbeat
  by_cases hlive : r.executionMode = .live
  · simp only [hlive, ne_eq, not_true, if_false, hok, true_and]
    rw [tryAutoRecover_clear_iff]
    -- the success of a heartbeat is not published and leaves the switch alone
    cases beat.refresh <;> exact Iff.rfl
  · simp [hlive]

theorem resume_error_frame (h : (resumeTrading r env).1 = .error e) (reply : Except String Unit) :
    (resumeTrading r env).2.executionMode = r.executionMode ∧
      (((resumeTrading r env).2.refreshAsync reply).2.blockingCount = 0 →
        (r.refreshAsync reply).2.blockingCount = 0) := by
  obtain ⟨error, -, hrun⟩ | ⟨-, count, hcount, hrun⟩ := resumeTrading_error h
  · rw [hrun]
    cases reply <;> exact ⟨rfl, id⟩
  · rw [hrun]
    refine ⟨rfl, ?_⟩
    cases reply with
    | ok _ => exact id
    | error _ =>
      intro hzero
      have hzero : count = 0 := hzero
      rcases hcount with hsame | hpos
      · exact hsame.symm.trans hzero
      · exact absurd hzero (Nat.ne_of_gt hpos)

/-- A call that leaves the gate alone lends nothing to a later heartbeat: one that clears the
switch after the call would have cleared it without. -/
theorem heartbeat_clear_of_sameGate (h : (resumeTrading r env).1 = .error e)
    (hsame : r.SameGate (resumeTrading r env).2) (hpublished : r.risk.engine.Published)
    {beat : Beat} (hok : beat.collateralBalance = .ok ())
    (hclear : ((resumeTrading r env).2.heartbeat beat).fsm.emergency = false) :
    (r.heartbeat beat).fsm.emergency = false := by
  have hallows := hpublished.allowsTrading_congr (published_of_resume_error h) hsame.breaker
  obtain ⟨hmode, hcount⟩ := resume_error_frame h beat.refresh
  rw [heartbeat_clear_iff _ _ hok, hsame.fsm, hallows, hmode] at hclear
  rw [heartbeat_clear_iff _ _ hok]
  refine hclear.imp_right ?_
  rintro ⟨hlive, hcls, hblocking, htrading⟩
  exact ⟨hlive, hcls, hcount hblocking, htrading⟩

/-- A call that fails leaves the breaker and the kill switch as they were, in memory and in
the database, exactly if the breaker was not halted, or, when the audit fails, was halted
already as the failed audit halts it. Then no heartbeat clears the switch on its account. -/
theorem failed_resume_keeps_gate_iff (r : Runtime) (env : ResumeEnv) {e : ResumeError}
    (h : (resumeTrading r env).1 = .error e) :
    (r.SameGate (resumeTrading r env).2 ↔ env.LeavesBreaker r.risk) ∧
      (env.LeavesBreaker r.risk → r.risk.engine.Published →
        ∀ beat : Beat, beat.collateralBalance = .ok () →
          ((resumeTrading r env).2.heartbeat beat).fsm.emergency = false →
            (r.heartbeat beat).fsm.emergency = false) := by
  have hiff := sameGate_iff_leavesBreaker h
  exact ⟨hiff, fun hleaves hpublished _ hok hclear =>
    heartbeat_clear_of_sameGate h (hiff.mpr hleaves) hpublished hok hclear⟩

/-! ## One blocking trade -/

def Runtime.blockedBy (risk : World) (fsm : KillSwitch) : Runtime where
  risk := risk
  fsm := fsm
  blockingCount := 0
  blockingTrades := 1
  executionMode := .live
  systemRuntimeState :=
    { executionMode := .live, changedBy := "boot", reason := "boot", changedAt := 0 }

def ResumeEnv.quiet : ResumeEnv where
  acknowledged := default
  audited := default
  rehalted := default
  refresh := .ok ()

def Beat.healthy : Beat where
  refresh := .ok ()
  collateralBalance := .ok ()
  answer := default

/-- After a venue fault that the engine was not halted for, the refusal changes nothing. -/
theorem failed_resume_keeps_gate_iff_venueFault :
    let r := Runtime.blockedBy .first (.enterEmergency .venueFault "venue")
    r.SameGate (resumeTrading r .quiet).2 := by
  intro r
  have herror : (resumeTrading r .quiet).1 = .error (.blockingTradesUnresolved 1) := by
    decide +kernel
  have hclosed : World.first.engine.circuitBreaker.state.isHalted = false := by decide +kernel
  exact (failed_resume_keeps_gate_iff r .quiet herror).1.mpr hclosed

/-- An operator has halted the engine. The resume is refused for the blocking trade, and when
the trade is resolved the next heartbeat lets trading start; without the refused call it
would not. -/
theorem refused_resume_starts_trading :
    let r := Runtime.blockedBy (World.first.perform (.halt "operator", []))
      (.enterEmergency .venueFault "operator")
    let refused := (resumeTrading r .quiet).2
    (resumeTrading r .quiet).1 = .error (.blockingTradesUnresolved 1) ∧
      ¬ r.SameGate refused ∧
      refused.risk.engine.circuitBreaker.state = .closed ∧
      ¬ ({ refused with blockingTrades := 0 }.heartbeat .healthy).Halted ∧
      ({ r with blockingTrades := 0 }.heartbeat .healthy).Halted := by
  refine ⟨by decide +kernel, fun hsame => ?_, by decide +kernel, by decide +kernel,
    by decide +kernel⟩
  exact absurd hsame.breaker (by decide +kernel)

end OxideArb.Control
