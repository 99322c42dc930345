import OxideArb.Lib.Transition
import OxideArb.Risk.Endings

/-!
# What a restart keeps

The engine before a restart against the one built from the row and the ledger. No write reaches
the column of the lifetime total (`perform_total`). A halt comes back when an operation stored it
or when stale entries caused it (`survives_endings`).
-/

namespace OxideArb.Risk

/-! ## The lifetime total -/

theorem total_step (effect : Effect) (a : Answer) (w : World) :
    (effect.apply (w.advance a)).db.row.totalRealizedPnl = w.db.row.totalRealizedPnl := by
  cases effect with
  | commit trade p =>
    change ((w.advance a).commitFill trade p).2.db.row.totalRealizedPnl = _
    unfold World.commitFill
    dsimp only
    split <;> rfl
  | resolve id =>
    change ((w.advance a).resolvePotentialLoss id).2.db.row.totalRealizedPnl = _
    unfold World.resolvePotentialLoss
    dsimp only
    split <;> rfl
  | updateDebounced readings =>
    change ((w.advance a).updateDebounced readings).db.row.totalRealizedPnl = _
    rw [World.updateDebounced_db]
    rfl
  | bump mutation readings => cases mutation <;> rfl
  | _ => rfl

theorem perform_total (w : World) (step : Call × List Answer) :
    (w.perform step).db.row.totalRealizedPnl = w.db.row.totalRealizedPnl :=
  perform_invariant (I := fun v => v.db.row.totalRealizedPnl = w.db.row.totalRealizedPnl)
    (fun effect a v _ hv => (total_step effect a v).trans hv) step.2 rfl

variable {db : Database} {config : RiskConfig} {w : World}

theorem Boot.restart_lifetime {boot : Boot} {e : Engine} (h : boot.restart db = .ok e) :
    e.lifetimeRealized = db.row.totalRealizedPnl := by
  obtain ⟨breaker, -, -, rfl⟩ := Boot.restart_ok_iff.mp h
  rfl

def World.settle (w : World) (settlements : List (PostTradeInput × List Answer)) : World :=
  settlements.foldl (fun w s => w.perform (.settlement s.1, s.2)) w

theorem settle_total (w : World) (settlements : List (PostTradeInput × List Answer)) :
    (w.settle settlements).db.row.totalRealizedPnl = w.db.row.totalRealizedPnl := by
  unfold World.settle
  induction settlements generalizing w with
  | nil => rfl
  | cons s settlements ih => exact (ih _).trans (perform_total w _)

def realizedPnl (settlements : List (PostTradeInput × List Answer)) : Usd :=
  (settlements.map fun s => s.1.netProfitUsd.getD 0).sum

def RestartsHalted (db : Database) (config : RiskConfig) (clock : DateTime) : Prop :=
  ∀ (boot : Boot) (e : Engine), clock ≤ boot.now → boot.config = config →
    boot.restart db = .ok e → e.circuitBreaker.state.isHalted = true

theorem RestartsHalted.later {clock clock' : DateTime} (h : RestartsHalted db config clock)
    (hle : clock ≤ clock') : RestartsHalted db config clock' :=
  fun boot e hnow => h boot e (hle.trans hnow)

namespace Boot

theorem startBreaker_of_halted (boot : Boot) {breaker : CircuitBreaker} (ledger : Ledger)
    (h : breaker.state.isHalted = true) :
    (boot.startBreaker breaker ledger).state.isHalted = true := by
  unfold startBreaker
  split
  · exact h
  · rw [if_pos h]
    exact h

theorem startBreaker_of_stale (boot : Boot) (breaker : CircuitBreaker) {ledger : Ledger}
    (h : 0 < ledger.entries.rows.countP boot.isStale) :
    (boot.startBreaker breaker ledger).state.isHalted = true := by
  have hreason : (boot.safeStartReason breaker ledger).isSome = true := by
    unfold safeStartReason
    simp only [if_pos h]
    split
    · rfl
    · split <;> rfl
    · rfl
  obtain ⟨reason, hreason⟩ := Option.isSome_iff_exists.mp hreason
  unfold startBreaker
  rw [hreason]
  dsimp only
  split
  next hhalted => exact hhalted
  next => exact CircuitBreaker.isHalted_halt ..

end Boot

theorem CircuitBreaker.fromSnapshot_halted {config : CircuitBreakerConfig} {row : EngineState}
    {b : CircuitBreaker} (hrow : row.breakerState = .halted)
    (h : CircuitBreaker.fromSnapshot config row = .ok b) : b.state.isHalted = true := by
  unfold fromSnapshot BreakerState.ofRow at h
  rw [hrow] at h
  dsimp only at h
  cases hlevel : row.breakerLevel with
  | none => simp [hlevel] at h
  | some level =>
    cases hreason : row.haltReason with
    | none => simp [hlevel, hreason] at h
    | some reason =>
      simp only [hlevel, hreason, Except.ok.injEq] at h
      subst h
      rfl

theorem restartsHalted_of_row (h : db.row.breakerState = .halted) (config : RiskConfig)
    (clock : DateTime) : RestartsHalted db config clock := by
  intro boot e _ _ hrestart
  obtain ⟨breaker, hbreaker, -, rfl⟩ := Boot.restart_ok_iff.mp hrestart
  exact boot.startBreaker_of_halted _ (CircuitBreaker.fromSnapshot_halted h hbreaker)

theorem isStale_of_overdue {boot : Boot} {entry : LedgerEntry} {clock : DateTime}
    (hnow : clock ≤ boot.now) (hactive : entry.isActive = true)
    (hold : entry.createdAt < clock - durationSecs boot.config.potentialLossEscalationSecs) :
    boot.isStale entry = true := by
  unfold Boot.isStale
  rw [hactive, Bool.true_and, decide_eq_true_eq]
  unfold durationSecs Duration.seconds at hold
  unfold Duration.numSeconds
  have hsecs : 0 ≤ min (boot.config.potentialLossEscalationSecs : Int) i64Max :=
    le_min (Int.natCast_nonneg _) (by decide)
  generalize min (boot.config.potentialLossEscalationSecs : Int) i64Max = secs at hold hsecs ⊢
  have hage : secs * 1000000000 ≤ boot.now - entry.createdAt := by linarith
  rw [Int.tdiv_eq_ediv_of_nonneg (by omega)]
  exact Int.le_ediv_of_mul_le (by decide) hage

theorem restartsHalted_of_stale (h : 0 < w.staleCount config.potentialLossEscalationSecs) :
    RestartsHalted w.db config w.clock := by
  intro boot e hnow hconfig hrestart
  obtain ⟨breaker, -, -, rfl⟩ := Boot.restart_ok_iff.mp hrestart
  refine boot.startBreaker_of_stale breaker ?_
  unfold World.staleCount at h
  rw [List.countP_pos_iff] at h ⊢
  obtain ⟨entry, hentry, hstale⟩ := h
  rw [Bool.and_eq_true, decide_eq_true_eq] at hstale
  refine ⟨entry, List.mem_filter.mpr ⟨hentry, hstale.1⟩, ?_⟩
  exact isStale_of_overdue hnow hstale.1 (hconfig ▸ hstale.2)

/-- A halt survives a restart from now on, unless a failed write has caused it. -/
def World.HaltSurvives (w : World) : Prop :=
  w.engine.circuitBreaker.state.isHalted = true →
    w.failedClosed = true ∨ RestartsHalted w.db w.engine.config w.clock

theorem World.HaltSurvives.advance (h : w.HaltSurvives) (a : Answer) : (w.advance a).HaltSurvives :=
  fun hhalted => (h hhalted).imp_right fun hrestart => hrestart.later (le_max_left _ _)

theorem failClosed_survives (w : World) (reason : String) : (w.failClosed reason).HaltSurvives :=
  fun _ => .inl rfl

/-- A halt that is stored survives, and so does one for stale entries, which the next start
finds by itself. -/
theorem survives_endings : Endings World.HaltSurvives (fun _ => True) World.HaltSurvives
    World.HaltSurvives where
  idle := fun a _ h => h.advance a
  tick := by
    intro w h hhalted
    have hbefore : w.engine.circuitBreaker.state.isHalted = true :=
      (w.engine.circuitBreaker.isHalted_tick w.clock).symm.trans hhalted
    exact h hbefore
  setBlacklist := fun _ _ h => h
  begun := fun _ h => h
  wait := fun a _ h => h.advance a
  emergency := fun _ _ h => h
  step := fun _ _ _ _ _ => trivial
  stored := by
    intro w _ hstored hhalted
    obtain ⟨level, reason, at_, hs⟩ := BreakerState.isHalted_iff.mp hhalted
    have hrow : w.db.row.breakerState = .halted := by
      rw [hstored.breaker, hs]
      rfl
    exact .inr (restartsHalted_of_row hrow _ _)
  stale := fun w _ _ _ _ hstale _ =>
    .inr ((restartsHalted_of_stale (w := w) hstale).later (le_max_left _ _))
  returned := fun _ _ h => h
  failed := fun w reason _ => failClosed_survives w reason
  rolledBack := fun _ _ _ _ _ _ => failClosed_survives _ _

/-! ### Operations that store nothing -/

theorem perform_stores_survives {c : Call} (hc : c.stores = true) (answers : List Answer)
    (h : w.HaltSurvives) : (w.perform (c, answers)).HaltSurvives :=
  Routine.spec_exec
    (((survives_endings.call hc).pre fun _ hw => ⟨trivial, hw⟩).post (fun _ _ hw => hw.2)
      fun _ _ hw => hw) answers h

theorem perform_acknowledge_survives (answers : List Answer) (w : World) :
    (w.perform (.acknowledge, answers)).HaltSurvives := by
  have hack : Prog.Spec (sync fun _ w => ((), w.acknowledgeAndResume)).toProg (fun _ => True)
      (fun _ w => True ∧ w.HaltSurvives) (fun _ => World.HaltSurvives) := by
    refine Routine.spec_atomically fun a w _ => ⟨trivial, fun hhalted => ?_⟩
    have hresumed := w.engine.circuitBreaker.isHalted_acknowledgeAndResume (w.advance a).clock
    exact absurd hhalted (hresumed ▸ Bool.false_ne_true)
  have hall : Prog.Spec Risk.acknowledgeAndResume.toProg (fun _ => True)
      (fun _ => World.HaltSurvives) (fun _ => World.HaltSurvives) := by
    unfold Risk.acknowledgeAndResume
    rw [Routine.toProg_bind]
    refine Prog.Spec.bind hack fun _ => ?_
    exact (survives_endings.recordOrHalt survives_endings.idle _).post (fun _ _ hw => hw.2)
      fun _ _ hw => hw
  exact Routine.spec_exec hall answers trivial

theorem perform_halt_survives_iff (reason : String) (answers : List Answer) (w : World) :
    (w.perform (.halt reason, answers)).HaltSurvives ↔
      w.failedClosed = true ∨
        RestartsHalted w.db w.engine.config (w.perform (.halt reason, answers)).clock := by
  have hrun := perform_halt w reason answers
  have hhalted : (w.perform (.halt reason, answers)).engine.circuitBreaker.state.isHalted = true :=
    by rw [hrun]; exact CircuitBreaker.isHalted_halt ..
  unfold World.HaltSurvives
  rw [hrun] at hhalted ⊢
  exact ⟨fun h => h hhalted, fun h _ => h⟩

theorem perform_reload_survives_iff (config : RiskConfig) (answers : List Answer) (w : World) :
    (w.perform (.reload config, answers)).HaltSurvives ↔
      (w.engine.circuitBreaker.state.isHalted = true →
        w.failedClosed = true ∨
          RestartsHalted w.db config (w.perform (.reload config, answers)).clock) :=
  Iff.rfl

theorem onExecutionEvent_config (e : Engine) (now : DateTime) (event : ExecutionRiskEvent) :
    (e.onExecutionEvent now event).config = e.config := by
  obtain ⟨breaker, version, snapshot, blacklist, hevent⟩ := e.onExecutionEvent_frame now event
  rw [hevent]

theorem perform_execution_survives_iff (event : ExecutionRiskEvent) (answers : List Answer)
    (w : World) :
    (w.perform (.execution event, answers)).HaltSurvives ↔
      ((w.engine.onExecutionEvent (w.perform (.execution event, answers)).clock
          event).circuitBreaker.state.isHalted = true →
        w.failedClosed = true ∨
          RestartsHalted w.db w.engine.config (w.perform (.execution event, answers)).clock) := by
  have hconfig : (w.perform (.execution event, answers)).engine.config = w.engine.config :=
    onExecutionEvent_config ..
  unfold World.HaltSurvives
  rw [hconfig]
  exact Iff.rfl

def CircuitBreaker.nextHeartbeatFailures (b : CircuitBreaker) : Nat :=
  min (b.heartbeatFailures + 1) u32Max

theorem onExecutionEvent_isHalted (e : Engine) (now : DateTime) (event : ExecutionRiskEvent) :
    (e.onExecutionEvent now event).circuitBreaker.state.isHalted = true ↔
      e.circuitBreaker.state.isHalted = true ∨ event = .heartbeatFailure ∧
        e.config.heartbeatMaxFailures ≤ e.circuitBreaker.nextHeartbeatFailures := by
  cases event with
  | heartbeatFailure =>
    unfold Engine.onExecutionEvent CircuitBreaker.onHeartbeatFailure
      CircuitBreaker.nextHeartbeatFailures
    dsimp only
    split
    next hlimit =>
      simp only [hlimit, and_self, or_true, iff_true]
      exact CircuitBreaker.isHalted_halt ..
    next hlimit => simp [hlimit]
  | fokFailure marketId tokenId consecutive =>
    unfold Engine.onExecutionEvent
    dsimp only
    split
    · simp only [reduceCtorEq, false_and, or_false]
      exact Bool.eq_iff_iff.mp (CircuitBreaker.isHalted_trip ..)
    · simp
  | heartbeatSuccess => simp [Engine.onExecutionEvent, CircuitBreaker.onHeartbeatSuccess]
  | tradeFailed => simp [Engine.onExecutionEvent]
  | depthDrop => simp [Engine.onExecutionEvent]

/-! ### Histories -/

def Call.ofEngine : Call → Bool
  | .updateDebounced | .flushDebounced => false
  | _ => true

abbrev EngineCall := { c : Call // c.ofEngine = true }

def World.operate (w : World) (step : EngineCall × List Answer) : World :=
  w.perform (step.1.1, step.2)

def World.unstoredHalt (w : World) : Call → Option RiskConfig
  | .halt _ => some w.engine.config
  | .execution .heartbeatFailure =>
    if w.engine.config.heartbeatMaxFailures ≤ w.engine.circuitBreaker.nextHeartbeatFailures then
      some w.engine.config
    else none
  | .reload config => if w.engine.circuitBreaker.state.isHalted then some config else none
  | _ => none

/-- Such a call does no harm where a failed write has halted the engine before, or where the
database brings it up halted anyway. -/
def World.HaltKept (w : World) (step : EngineCall × List Answer) : Prop :=
  ∀ config, w.unstoredHalt step.1.1 = some config →
    w.failedClosed = true ∨ RestartsHalted w.db config (w.operate step).clock

theorem operate_survives_iff (h : w.HaltSurvives) (step : EngineCall × List Answer) :
    (w.operate step).HaltSurvives ↔ w.HaltKept step := by
  obtain ⟨⟨c, hc⟩, answers⟩ := step
  unfold World.HaltKept World.operate
  dsimp only
  by_cases hstores : c.stores = true
  · have hnone : w.unstoredHalt c = none := by
      cases c with
      | halt | reload | execution | acknowledge => cases hstores
      | _ => rfl
    simp only [hnone, reduceCtorEq, false_implies, implies_true, iff_true]
    exact perform_stores_survives hstores answers h
  · cases c with
    | halt reason => simpa [World.unstoredHalt] using perform_halt_survives_iff reason answers w
    | reload config =>
      simpa [World.unstoredHalt] using perform_reload_survives_iff config answers w
    | acknowledge =>
      simpa [World.unstoredHalt] using perform_acknowledge_survives answers w
    | execution event =>
      have hlater : w.engine.circuitBreaker.state.isHalted = true → w.failedClosed = true ∨
          RestartsHalted w.db w.engine.config (w.perform (.execution event, answers)).clock :=
        fun hhalted => (h hhalted).imp_right fun hrestart => hrestart.later (le_max_left _ _)
      rw [perform_execution_survives_iff, onExecutionEvent_isHalted]
      cases event with
      | heartbeatFailure =>
        simp only [World.unstoredHalt, true_and]
        split
        next hlimit => simp [hlimit]
        next hlimit => simpa [hlimit] using hlater
      | _ => simpa [World.unstoredHalt] using hlater
    | updateDebounced | flushDebounced => cases hc
    | _ => exact absurd rfl hstores

end OxideArb.Risk
