import OxideArb.Control.TradingGate

/-!
# Switching the execution mode

A switch goes through five stages: preflight, halt and quiesce, commit, activation and resume.
A commit that fails in the database leaves the new mode in memory; a resume that fails after
the acknowledgement leaves the breaker closed and a kill switch that heartbeats clear.
-/

namespace OxideArb

def ExecutionMode.display : ExecutionMode → String
  | .dryRun => "dry_run"
  | .paper => "paper"
  | .live => "live"

namespace Control

open Risk (Answer CircuitBreaker Effect Engine Fault World)

inductive RuntimeControlError
  | precondition (message : String)
  | quiesceTimeout (waitedSecs : Nat) (detail : String)
  | activation (message : String)
  | engine (message : String)
  | blockingTrades (count : Nat)
deriving DecidableEq, Repr

def ResumeError.toControlError : ResumeError → RuntimeControlError
  | .risk error | .storage error => .engine error
  | .blockingTradesUnresolved count => .blockingTrades count

structure ModeTransitionReport where
  from_ : ExecutionMode
  to_ : ExecutionMode
deriving DecidableEq, Repr

/-! ## Preflight -/

inductive OperationalDegradeReason
  | breakerOpen
  | breakerHalfOpen
  | marketDataStale
  | marketDataCoverageDegraded
  | subsystemUnhealthy (name : String)
  | controlFactorLiveWarn
  | controlFactorSnapshotExpired
deriving DecidableEq, Repr

inductive OperationalPhase
  | catalogWarming
  | marketDataConnecting
  | operational
  | degraded (reasons : List OperationalDegradeReason)
  | halted
deriving DecidableEq, Repr

def OperationalPhase.allowsLiveTrading : OperationalPhase → Bool
  | .operational => true
  | _ => false

def OperationalDegradeReason.debug : OperationalDegradeReason → String
  | .breakerOpen => "BreakerOpen"
  | .breakerHalfOpen => "BreakerHalfOpen"
  | .marketDataStale => "MarketDataStale"
  | .marketDataCoverageDegraded => "MarketDataCoverageDegraded"
  | .subsystemUnhealthy name => "SubsystemUnhealthy \x7b name: " ++ name.quote ++ " \x7d"
  | .controlFactorLiveWarn => "ControlFactorLiveWarn"
  | .controlFactorSnapshotExpired => "ControlFactorSnapshotExpired"

def OperationalPhase.debug : OperationalPhase → String
  | .catalogWarming => "CatalogWarming"
  | .marketDataConnecting => "MarketDataConnecting"
  | .operational => "Operational"
  | .degraded reasons =>
    "Degraded \x7b reasons: [" ++ ", ".intercalate (reasons.map (·.debug)) ++ "] \x7d"
  | .halted => "Halted"

/-- What the preflight reads: the verdicts on the deployment and on the runtime
configuration (the report, if it has errors), the clients loaded at boot, and the status. -/
structure Deployment where
  ensureValidForMode : ExecutionMode → Except String Unit
  validateRuntimeForMode : ExecutionMode → Option String
  hasClobClient : Bool
  hasCtfRedeem : Bool
  holderAddress : String
  operationalPhase : OperationalPhase
  marketDataReady : Bool

def Deployment.preflightLive (d : Deployment) : Except RuntimeControlError Unit :=
  if !d.hasClobClient then
    .error (.precondition "entering Live requires a CLOB client, but none was loaded at boot")
  else if !d.hasCtfRedeem then
    .error (.precondition
      "entering Live requires a CTF redeem client, but none was loaded at boot")
  else if d.holderAddress = "unavailable" then
    .error (.precondition "entering Live requires a configured holder address")
  else if !d.operationalPhase.allowsLiveTrading then
    let phase := d.operationalPhase.debug
    let ready := d.marketDataReady
    .error (.precondition
      s!"cannot enter Live while operational_phase is {phase}; market_data_ready={ready}")
  else .ok ()

def Deployment.preflight (d : Deployment) (target : ExecutionMode) :
    Except RuntimeControlError Unit :=
  match d.ensureValidForMode target with
  | .error e => .error (.precondition e)
  | .ok () =>
    match d.validateRuntimeForMode target with
    | some report => .error (.precondition report)
    | none => if target = .live then d.preflightLive else .ok ()

/-! ## The call -/

inductive RiskMetricsSource
  | neverRefreshed
  | authoritativeClob
  | simulatedPaper
  | simulatedDryRun
deriving DecidableEq, Repr

/-- What a switch meets: the check of the pending redeems, the answers to the halt, the
reservations counted at each poll and at the deadline, the end of the call that stores the
mode, the reply to the metrics refresh with the source it leaves, and the resume. -/
structure SwitchEnv where
  pendingRedeems : Except String Unit
  halt : List Answer
  polls : List Nat
  lastPoll : Nat
  persist : Fault
  persistedAt : DateTime
  refresh : Except String RiskMetricsSource
  resume : ResumeEnv

namespace Runtime

/-- `halt_trading_and_cancel_open_orders`; cancelling the orders has no part in this state. -/
def haltTradingAndCancelOpenOrders (r : Runtime) (reason : String) (cls : EmergencyClass)
    (answers : List Answer) : Runtime :=
  { r with
    risk := r.risk.perform (.halt reason, answers)
    fsm := .enterEmergency cls reason }

def quiesceTimeoutSecs : Nat := 30

def quiesce (r : Runtime) (lastPoll : Nat) : List Nat → Except RuntimeControlError Unit
  | [] =>
    if !r.risk.engine.allowsTrading && lastPoll = 0 then .ok ()
    else .error (.quiesceTimeout quiesceTimeoutSecs s!"active_reservations={lastPoll}")
  | reservations :: polls =>
    if !r.risk.engine.allowsTrading && reservations = 0 then .ok ()
    else r.quiesce lastPoll polls

/-- `upsert_execution_mode`, by the way the call ends. -/
def upsertExecutionMode (r : Runtime) (mode : ExecutionMode) (changedBy reason : String)
    (changedAt : DateTime) : Fault → Except String Unit × Runtime
  | .none =>
    (.ok (), { r with
      systemRuntimeState := { executionMode := mode, changedBy, reason, changedAt } })
  | .failed e => (.error e, r)
  | .lost e =>
    (.error e, { r with
      systemRuntimeState := { executionMode := mode, changedBy, reason, changedAt } })

end Runtime

def expectedSource : ExecutionMode → RiskMetricsSource
  | .live => .authoritativeClob
  | .dryRun => .simulatedDryRun
  | .paper => .simulatedPaper

def activate (target : ExecutionMode) :
    Except String RiskMetricsSource → Except RuntimeControlError Unit
  | .error e => .error (.activation e)
  | .ok source =>
    if source ≠ expectedSource target then
      let mode := target.display
      .error (.activation s!"metrics source mismatch after refresh for {mode}")
    else .ok ()

def commitMode (r : Runtime) (target : ExecutionMode) (operatorAck : String) (env : SwitchEnv) :
    Except RuntimeControlError Unit × Runtime :=
  -- every reader sees the new mode from here on
  let r := { r with executionMode := target }
  match r.upsertExecutionMode target operatorAck "runtime mode transition" env.persistedAt
      env.persist with
  | (.error e, r) => (.error (.activation s!"persist execution mode: {e}"), r)
  | (.ok (), r) =>
    match activate target env.refresh with
    | .error e => (.error e, r)
    | .ok () =>
      match resumeTrading r env.resume with
      | (.error e, r) => (.error e.toControlError, r)
      | (.ok (), r) => (.ok (), r)

def SwitchEnv.preflight (env : SwitchEnv) (d : Deployment) (target : ExecutionMode) :
    Except RuntimeControlError Unit :=
  match d.preflight target with
  | .error e => .error e
  | .ok () =>
    if target = .live then
      match env.pendingRedeems with
      | .error e => .error (.precondition e)
      | .ok () => .ok ()
    else .ok ()

def transitionReason (from_ target : ExecutionMode) : String :=
  let old := from_.display
  let new := target.display
  s!"execution mode transition {old} -> {new}"

def switchExecutionMode (d : Deployment) (r : Runtime) (target : ExecutionMode)
    (operatorAck : String) (env : SwitchEnv) :
    Except RuntimeControlError ModeTransitionReport × Runtime :=
  let from_ := r.executionMode
  if from_ = target then (.ok ⟨from_, target⟩, r)
  else
    match env.preflight d target with
    | .error e => (.error e, r)
    | .ok () =>
      let r := r.haltTradingAndCancelOpenOrders (transitionReason from_ target) .venueFault
        env.halt
      match r.quiesce env.lastPoll env.polls with
      | .error e => (.error e, r)
      | .ok () =>
        match commitMode r target operatorAck env with
        | (.error e, r) => (.error e, r)
        | (.ok (), r) => (.ok ⟨from_, target⟩, r)

/-! ## After the call -/

/-- What happens without an operator: heartbeats, steps of the risk engine's operations that
do not release the breaker, faults, refreshes, and changes of the trade table. -/
inductive Background
  | heartbeat (beat : Beat)
  | risk (effect : Effect) (keeps : effect.releases = false) (a : Answer)
  | enterEmergency (cls : EmergencyClass) (reason : String)
  | enterPlannedHalt (reason : String)
  | refresh (reply : Except String Unit)
  | trades (blocking : Nat)

def Runtime.background (r : Runtime) : Background → Runtime
  | .heartbeat beat => r.heartbeat beat
  | .risk effect _ a => { r with risk := effect.apply (r.risk.advance a) }
  | .enterEmergency cls reason => { r with fsm := .enterEmergency cls reason }
  | .enterPlannedHalt reason => { r with fsm := .enterPlannedHalt reason }
  | .refresh reply => (r.refreshAsync reply).2
  | .trades blocking => { r with blockingTrades := blocking }

def Runtime.StaysHalted (r : Runtime) : Prop :=
  ∀ steps : List Background, (steps.foldl Runtime.background r).Halted

variable {r : Runtime} {w : World} {d : Deployment} {target : ExecutionMode} {operatorAck : String}
  {env : SwitchEnv} {e : RuntimeControlError}

theorem Runtime.staysHalted_of_invariant (I : Runtime → Prop)
    (hstep : ∀ r s, I r → I (r.background s)) (hhalted : ∀ r, I r → r.Halted) (h : I r) :
    r.StaysHalted := by
  intro steps
  induction steps generalizing r with
  | nil => exact hhalted r h
  | cons s steps ih => exact ih (hstep r s h)

/-! ### A halted breaker -/

structure Stopped (w : World) : Prop where
  halted : w.engine.circuitBreaker.state.haltedAt .system = true
  guarded : w.engine.Guarded

theorem Stopped.denies (h : Stopped w) : w.engine.allowsTrading = false :=
  h.guarded.denies (Risk.BreakerState.allowsTrading_of_blocked
    (Risk.BreakerState.blocked_of_isHalted (Risk.BreakerState.isHalted_of_haltedAt h.halted)))

theorem stopped_haltInternal (w : World) (now : DateTime) (reason : String) :
    Stopped (w.onEngine (·.haltInternal now reason)) where
  halted := Engine.haltInternal_haltedAt _ _ _
  guarded := Engine.Published.guarded rfl

theorem Stopped.effect (h : Stopped w) (effect : Effect) (hkeeps : effect.releases = false)
    (a : Answer) : Stopped (effect.apply (w.advance a)) where
  halted := by
    refine Risk.keeps_step (CircuitBreaker.sticky_haltedAt .system) hkeeps (fun _ => ?_) h.halted
    rw [CircuitBreaker.tick_of_isHalted (Risk.BreakerState.isHalted_of_haltedAt h.halted)]
    exact h.halted
  guarded := Risk.guarded_step effect a w h.guarded

theorem Stopped.perform (h : Stopped w) {c : Risk.Call} (hc : c.releases = false)
    (answers : List Answer) : Stopped (w.perform (c, answers)) :=
  Risk.perform_invariant (fun effect a _ hof hw => hw.effect effect (hof.releases hc) a) answers h

theorem tryAutoRecover_risk (r : Runtime) : r.tryAutoRecover.2.risk = r.risk := by
  unfold Runtime.tryAutoRecover
  repeat' split
  all_goals rfl

theorem refreshAsync_risk (r : Runtime) (reply : Except String Unit) :
    (r.refreshAsync reply).2.risk = r.risk := by
  cases reply <;> rfl

theorem Stopped.heartbeat (h : Stopped r.risk) (beat : Beat) : Stopped (r.heartbeat beat).risk := by
  have hrefreshed : Stopped (r.refreshAsync beat.refresh).2.risk := by rwa [refreshAsync_risk]
  unfold Runtime.heartbeat
  split
  · exact h
  · dsimp only
    split
    · rw [tryAutoRecover_risk]
      exact hrefreshed.perform rfl _
    · split <;> exact hrefreshed.perform rfl _

theorem staysHalted_of_stopped (h : Stopped r.risk) : r.StaysHalted := by
  refine Runtime.staysHalted_of_invariant (fun r => Stopped r.risk) ?_ (fun r hr => .inr hr.denies) h
  intro r s hr
  cases s with
  | heartbeat beat => exact hr.heartbeat beat
  | risk effect hkeeps a => exact hr.effect effect hkeeps a
  | enterEmergency cls reason => exact hr
  | enterPlannedHalt reason => exact hr
  | refresh reply => exact (refreshAsync_risk r reply).symm ▸ hr
  | trades blocking => exact hr

/-! ### An engaged switch outside Live -/

theorem staysHalted_of_switch (hswitch : r.fsm.emergency = true) (hmode : r.executionMode ≠ .live) :
    r.StaysHalted := by
  refine Runtime.staysHalted_of_invariant
    (fun r => r.fsm.emergency = true ∧ r.executionMode ≠ .live) ?_ (fun r hr => .inl hr.1)
    ⟨hswitch, hmode⟩
  rintro r s ⟨hswitch, hmode⟩
  cases s with
  | heartbeat beat =>
    have hidle : r.heartbeat beat = r := if_pos hmode
    simpa [Runtime.background, hidle] using ⟨hswitch, hmode⟩
  | risk effect hkeeps a => exact ⟨hswitch, hmode⟩
  | enterEmergency cls reason => exact ⟨rfl, hmode⟩
  | enterPlannedHalt reason => exact ⟨rfl, hmode⟩
  | refresh reply => cases reply <;> exact ⟨hswitch, hmode⟩
  | trades blocking => exact ⟨hswitch, hmode⟩

theorem not_staysHalted (hmode : r.executionMode = .live)
    (hcls : r.fsm.cls.allowsAutoRecover = true) (hallows : r.risk.engine.allowsTrading = true) :
    ¬ r.StaysHalted := by
  intro hstays
  have hhalted := hstays [.trades 0, .heartbeat .healthy]
  simp only [List.foldl_cons, List.foldl_nil, Runtime.background] at hhalted
  have hclear := (heartbeat_clear_iff { r with blockingTrades := 0 } .healthy rfl).mpr
    (.inr ⟨hmode, hcls, rfl, hallows⟩)
  have hopen : ({ r with blockingTrades := 0 }.heartbeat .healthy).risk.engine.allowsTrading =
      true := by
    unfold Runtime.heartbeat
    simp only [hmode, ne_eq, not_true, if_false, Beat.healthy, tryAutoRecover_risk]
    exact hallows
  rcases hhalted with hengaged | hdenied
  · rw [hclear] at hengaged
    cases hengaged
  · rw [hopen] at hdenied
    cases hdenied

/-! ## How a switch fails -/

def SwitchEnv.Drained (env : SwitchEnv) : Prop := 0 ∈ env.polls ∨ env.lastPoll = 0

instance (env : SwitchEnv) : Decidable env.Drained :=
  inferInstanceAs (Decidable (0 ∈ env.polls ∨ env.lastPoll = 0))

theorem quiesce_ok_iff (h : r.risk.engine.allowsTrading = false) (lastPoll : Nat) (polls : List Nat) :
    r.quiesce lastPoll polls = .ok () ↔ 0 ∈ polls ∨ lastPoll = 0 := by
  induction polls with
  | nil => by_cases hlast : lastPoll = 0 <;> simp [Runtime.quiesce, h, hlast]
  | cons reservations polls ih =>
    unfold Runtime.quiesce
    by_cases hdrained : reservations = 0
    · simp [h, hdrained]
    · simp [h, hdrained, ih, Ne.symm hdrained]

def SwitchEnv.halted (env : SwitchEnv) (r : Runtime) (target : ExecutionMode) : Runtime :=
  r.haltTradingAndCancelOpenOrders (transitionReason r.executionMode target) .venueFault env.halt

theorem stopped_halted (env : SwitchEnv) (r : Runtime) (target : ExecutionMode) :
    Stopped (env.halted r target).risk := by
  have hsection := stopped_haltInternal (r.risk.advance (env.halt.headD default))
    (r.risk.advance (env.halt.headD default)).clock (transitionReason r.executionMode target)
  have haudit := hsection.effect .idle rfl (env.halt.tail.headD default)
  change Stopped (r.risk.perform (.halt (transitionReason r.executionMode target), env.halt))
  rw [Risk.perform_halt]
  exact haudit

def SwitchEnv.Commits (env : SwitchEnv) (d : Deployment) (target : ExecutionMode) : Prop :=
  env.preflight d target = .ok () ∧ env.Drained

def SwitchEnv.row (env : SwitchEnv) (target : ExecutionMode) (operatorAck : String) :
    SystemRuntimeState where
  executionMode := target
  changedBy := operatorAck
  reason := "runtime mode transition"
  changedAt := env.persistedAt

theorem switch_early (h : (switchExecutionMode d r target operatorAck env).1 = .error e)
    (hearly : ¬ env.Commits d target) : (switchExecutionMode d r target operatorAck env).2 =
      if env.preflight d target = .ok () then env.halted r target else r := by
  unfold switchExecutionMode at h ⊢
  by_cases hsame : r.executionMode = target
  · simp [hsame] at h
  · simp only [hsame, if_false] at h ⊢
    cases hpre : env.preflight d target with
    | error _ => rfl
    | ok _ =>
      have hbusy : ¬ env.Drained := fun hd => hearly ⟨hpre, hd⟩
      have hquiesce := mt (quiesce_ok_iff (stopped_halted env r target).denies _ _).mp hbusy
      cases hq : (env.halted r target).quiesce env.lastPoll env.polls with
      | ok _ => exact absurd hq hquiesce
      | error _ =>
        simp only [SwitchEnv.halted] at hq
        simp [hq, SwitchEnv.halted]

theorem switch_commits (h : (switchExecutionMode d r target operatorAck env).1 = .error e)
    (hcommits : env.Commits d target) : commitMode (env.halted r target) target operatorAck env =
      (.error e, (switchExecutionMode d r target operatorAck env).2) := by
  unfold switchExecutionMode at h ⊢
  by_cases hsame : r.executionMode = target
  · simp [hsame] at h
  · have hquiesce := (quiesce_ok_iff (stopped_halted env r target).denies _ _).mpr hcommits.2
    simp only [SwitchEnv.halted] at hquiesce
    simp only [hsame, if_false, hcommits.1, hquiesce] at h ⊢
    rcases hrun : commitMode (env.halted r target) target operatorAck env with ⟨_ | _, r'⟩
    · simp only [SwitchEnv.halted] at hrun
      simp only [hrun] at h ⊢
      cases h
      rfl
    · simp only [SwitchEnv.halted] at hrun
      simp [hrun] at h

theorem commitMode_error {r' : Runtime} (h : commitMode r target operatorAck env = (.error e, r')) :
    (∃ error, env.persist = .failed error ∧ r' = { r with executionMode := target }) ∨
    (∃ error, env.persist = .lost error ∧
      r' = { r with
        executionMode := target
        systemRuntimeState := env.row target operatorAck }) ∨
    (env.persist = .none ∧
      let committed := { r with
        executionMode := target
        systemRuntimeState := env.row target operatorAck }
      (env.refresh ≠ .ok (expectedSource target) ∧ r' = committed) ∨
      (env.refresh = .ok (expectedSource target) ∧
        ∃ error, resumeTrading committed env.resume = (.error error, r'))) := by
  unfold commitMode at h
  cases hpersist : env.persist with
  | failed error =>
    simp only [hpersist, Runtime.upsertExecutionMode, Prod.mk.injEq] at h
    exact .inl ⟨error, rfl, h.2.symm⟩
  | lost error =>
    simp only [hpersist, Runtime.upsertExecutionMode, Prod.mk.injEq] at h
    exact .inr (.inl ⟨error, rfl, h.2.symm⟩)
  | none =>
    simp only [hpersist, Runtime.upsertExecutionMode] at h
    refine .inr (.inr ⟨rfl, ?_⟩)
    by_cases hsource : env.refresh = .ok (expectedSource target)
    · have hactive : activate target env.refresh = .ok () := by simp [activate, hsource]
      simp only [hactive] at h
      split at h
      next error r'' hresume =>
        rw [Prod.mk.injEq] at h
        exact .inr ⟨hsource, error, h.2 ▸ hresume⟩
      next => simp at h
    · obtain ⟨error, hinactive⟩ : ∃ error, activate target env.refresh = .error error := by
        unfold activate
        split
        · exact ⟨_, rfl⟩
        next source hreply =>
          have hne : source ≠ expectedSource target := fun hs => hsource (hs ▸ hreply)
          exact ⟨_, if_pos hne⟩
      simp only [hinactive, Prod.mk.injEq] at h
      exact .inl ⟨hsource, h.2.symm⟩

/-! ## What a failed switch leaves -/

def StoredAlike (r : Runtime) : Prop := r.executionMode = r.systemRuntimeState.executionMode

namespace SwitchEnv

/-- The modes agree after a failure: before the commit if they did before the call, after it
if the row has the target mode, because the store took effect or it had been there. -/
def ModesAgree (env : SwitchEnv) (d : Deployment) (r : Runtime) (target : ExecutionMode) : Prop :=
  (env.Commits d target →
    (∀ error, env.persist ≠ .failed error) ∨ r.systemRuntimeState.executionMode = target) ∧
  (¬ env.Commits d target → StoredAlike r)

/-- The switch to Live comes to the resume, and the resume gets past its acknowledgement. -/
structure Reopens (env : SwitchEnv) (d : Deployment) (target : ExecutionMode) : Prop where
  live : target = .live
  commits : env.Commits d target
  persisted : env.persist = .none
  activated : env.refresh = .ok (expectedSource target)
  acknowledged : env.resume.audited.fault.reported = none

end SwitchEnv

theorem resumed_allowsTrading (h : Stopped w) (env : ResumeEnv) :
    (env.resumed w).engine.allowsTrading = true := by
  have hhalted := Risk.BreakerState.isHalted_of_haltedAt h.halted
  have hclosed : ∀ now, (w.engine.circuitBreaker.acknowledgeAndResume now).2.state = .closed := by
    intro now
    unfold CircuitBreaker.acknowledgeAndResume
    rw [if_pos hhalted]
  unfold ResumeEnv.resumed World.acknowledgeAndResume Engine.allowsTrading
  simp only [World.onEngine, World.advance, Engine.publishRiskSnapshot, Engine.compileRiskSnapshot,
    hclosed]
  rfl

theorem storedAlike_resume_error {env : ResumeEnv} {e : ResumeError}
    (h : (resumeTrading r env).1 = .error e) :
    StoredAlike (resumeTrading r env).2 ↔ StoredAlike r := by
  obtain ⟨error, -, hrun⟩ | ⟨-, count, -, hrun⟩ := resumeTrading_error h
  · rw [hrun]
    exact Iff.rfl
  · rw [hrun]
    exact Iff.rfl

theorem failed_switch_modes (h : (switchExecutionMode d r target operatorAck env).1 = .error e) :
    StoredAlike (switchExecutionMode d r target operatorAck env).2 ↔ env.ModesAgree d r target := by
  unfold SwitchEnv.ModesAgree
  by_cases hcommits : env.Commits d target
  · simp only [hcommits, forall_const, not_true, false_imp_iff, and_true]
    obtain ⟨error, hpersist, hr'⟩ | ⟨error, hpersist, hr'⟩ |
      ⟨hpersist, ⟨-, hr'⟩ | ⟨-, error, hresume⟩⟩ := commitMode_error (switch_commits h hcommits)
    · rw [hr', hpersist]
      have hrow : (env.halted r target).systemRuntimeState = r.systemRuntimeState := rfl
      simp [StoredAlike, hrow, eq_comm]
    · rw [hr', hpersist]
      simp [StoredAlike, SwitchEnv.row]
    · rw [hr', hpersist]
      simp [StoredAlike, SwitchEnv.row]
    · have hkept := storedAlike_resume_error (congrArg Prod.fst hresume)
      rw [congrArg Prod.snd hresume] at hkept
      rw [hkept, hpersist]
      simp [StoredAlike, SwitchEnv.row]
  · rw [switch_early h hcommits]
    simp only [hcommits, false_imp_iff, true_and, not_false_iff, forall_const]
    split <;> exact Iff.rfl

theorem failed_switch_staysHalted
    (h : (switchExecutionMode d r target operatorAck env).1 = .error e)
    (hpre : env.preflight d target = .ok ()) :
    (switchExecutionMode d r target operatorAck env).2.StaysHalted ↔ ¬ env.Reopens d target := by
  have hstopped := stopped_halted env r target
  by_cases hcommits : env.Commits d target
  · obtain ⟨error, hpersist, hr'⟩ | ⟨error, hpersist, hr'⟩ |
      ⟨hpersist, ⟨hsource, hr'⟩ | ⟨hsource, error, hresume⟩⟩ :=
        commitMode_error (switch_commits h hcommits)
    · rw [hr']
      refine iff_of_true (staysHalted_of_stopped hstopped) fun hopen => ?_
      cases hpersist.symm.trans hopen.persisted
    · rw [hr']
      refine iff_of_true (staysHalted_of_stopped hstopped) fun hopen => ?_
      cases hpersist.symm.trans hopen.persisted
    · rw [hr']
      exact iff_of_true (staysHalted_of_stopped hstopped) fun hopen => hsource hopen.activated
    · have hstate := congrArg Prod.snd hresume
      rw [← hstate]
      obtain ⟨error, haudit, hrun⟩ | ⟨haudit, count, -, hrun⟩ :=
        resumeTrading_error (congrArg Prod.fst hresume)
      · rw [hrun]
        refine iff_of_true (staysHalted_of_stopped ?_) fun hopen => ?_
        · exact ⟨Engine.haltInternal_haltedAt _ _ _, Engine.Published.guarded rfl⟩
        · cases haudit.symm.trans hopen.acknowledged
      · rw [hrun]
        by_cases hlive : target = .live
        · refine iff_of_false (not_staysHalted hlive rfl (resumed_allowsTrading hstopped _)) ?_
          exact not_not_intro ⟨hlive, hcommits, hpersist, hsource, haudit⟩
        · exact iff_of_true (staysHalted_of_switch rfl hlive) fun hopen => hlive hopen.live
  · rw [switch_early h hcommits, if_pos hpre]
    exact iff_of_true (staysHalted_of_stopped hstopped) fun hopen => hcommits hopen.commits

/-- A switch that fails leaves equal modes in memory and in the database, and a system that
is halted until an operator acts if it got as far as the halt, exactly if two things hold:
the row has the mode that memory has (the store took effect, or it was there before), and
the switch is not one to Live whose resume fails after its acknowledgement. -/
theorem failed_switch_commits_wholly_iff (d : Deployment) (r : Runtime) (target : ExecutionMode)
    (operatorAck : String) (env : SwitchEnv) {e : RuntimeControlError}
    (h : (switchExecutionMode d r target operatorAck env).1 = .error e) :
    let r' := (switchExecutionMode d r target operatorAck env).2
    (r'.executionMode = r'.systemRuntimeState.executionMode ∧
      (env.preflight d target = .ok () → r'.StaysHalted)) ↔
    env.ModesAgree d r target ∧ ¬ env.Reopens d target := by
  refine and_congr (failed_switch_modes h) ?_
  by_cases hpre : env.preflight d target = .ok ()
  · simp only [hpre, forall_const]
    exact failed_switch_staysHalted h hpre
  · exact iff_of_true (fun hok => absurd hok hpre) fun hopen => hpre hopen.commits.1

/-! ## Two failures -/

def Deployment.ready : Deployment where
  ensureValidForMode _ := .ok ()
  validateRuntimeForMode _ := none
  hasClobClient := true
  hasCtfRedeem := true
  holderAddress := "0x1"
  operationalPhase := .operational
  marketDataReady := true

def Runtime.paper (blockingTrades : Nat) : Runtime where
  risk := .first
  fsm := .clearEmergency
  blockingCount := 0
  blockingTrades := blockingTrades
  executionMode := .paper
  systemRuntimeState :=
    { executionMode := .paper, changedBy := "boot", reason := "boot", changedAt := 0 }

def SwitchEnv.persisting (target : ExecutionMode) (persist : Fault) : SwitchEnv where
  pendingRedeems := .ok ()
  halt := []
  polls := [1]
  lastPoll := 0
  persist := persist
  persistedAt := 1
  refresh := .ok (expectedSource target)
  resume := .quiet

/-- The store fails: readers see Live, a restart would see the paper mode. With a trade that
blocks, the resume fails instead: the modes agree, and trading starts without an operator. -/
theorem partial_switches :
    let unstored := switchExecutionMode .ready (.paper 0) .live "operator"
      (.persisting .live (.failed "timeout"))
    let refused := switchExecutionMode .ready (.paper 1) .live "operator"
      (.persisting .live .none)
    let later : List Background := [.trades 0, .heartbeat .healthy]
    unstored.1 = .error (.activation "persist execution mode: timeout") ∧
      unstored.2.executionMode = .live ∧
      unstored.2.systemRuntimeState.executionMode = .paper ∧
      refused.1 = .error (.blockingTrades 1) ∧
      ¬ (later.foldl Runtime.background refused.2).Halted := by
  decide +kernel

/-- A blocking trade refuses the resume after a switch from the paper mode to dry runs. -/
theorem failed_switch_commits_wholly_iff_dryRun :
    let call := switchExecutionMode .ready (.paper 1) .dryRun "operator"
      (.persisting .dryRun .none)
    call.2.executionMode = call.2.systemRuntimeState.executionMode ∧ call.2.StaysHalted := by
  intro call
  have herror : call.1 = .error (.blockingTrades 1) := by decide +kernel
  have hwhole := (failed_switch_commits_wholly_iff .ready (.paper 1) .dryRun "operator"
    (.persisting .dryRun .none) herror).mpr
      ⟨⟨fun _ => .inl fun _ => nofun, fun _ => rfl⟩, fun hopen => nomatch hopen.live⟩
  exact ⟨hwhole.1, hwhole.2 rfl⟩

end Control

end OxideArb
