import OxideArb.Risk.Operations

/-!
# What the steps of the operations do

Every step of every operation is one of a few effects on the world (`Effect.apply`). An invariant
is proved by one case for each effect and holds then after every sequence of calls
(`perform_invariant`) and under every interleaving (`run_invariant`).
-/

namespace OxideArb.Risk

inductive Mutation
  | none
  | fill (trade : PostTradeInput) (readings : Readings)
  | settlement (trade : PostTradeInput) (readings : Readings)
  | drift (mismatches : Nat)
  | reset
  | resolve (id : TradeId)

def Mutation.apply (w : World) : Mutation → World
  | .none => w
  | .fill trade readings => (w.countTrade trade).tradeEffects .fill trade readings |>.2
  | .settlement trade readings => (w.tradeEffects .settlement trade readings).2
  | .drift mismatches => w.haltDrift mismatches
  | .reset => w.resetBreaker
  | .resolve id => w.resolveEntry id

inductive Effect
  | idle
  | failClosed (reason : String)
  | rollback (image : World.MutableRiskState) (reason : String)
  | recordEmergency (reason : String)
  | tick
  | haltStale (count secs : Nat)
  | halt (reason : String)
  | acknowledge
  | setBlacklist (change : BlacklistManager → BlacklistManager)
  | reload (config : RiskConfig)
  | execution (event : ExecutionRiskEvent)
  | publish (readings : Readings)
  | bump (mutation : Mutation) (readings : Readings)
  | write (p : Pending)
  | discard (ticket : Nat)
  | commit (trade : PostTradeInput) (p : Pending)
  | resolve (id : TradeId)
  | updateDebounced (readings : Readings)
  | takeDebounced

namespace Effect

def apply (w : World) : Effect → World
  | .idle => w
  | .failClosed reason => w.failClosed reason
  | .rollback image reason => w.rollbackFill image reason
  | .recordEmergency reason => w.recordEmergency reason
  | .tick => w.tickSection.2
  | .haltStale count secs => w.haltStale count secs
  | .halt reason => w.onEngine (·.haltInternal w.clock reason)
  | .acknowledge => w.acknowledgeAndResume
  | .setBlacklist change => w.setBlacklist change
  | .reload config => w.onEngine (·.reload w.clock config)
  | .execution event => w.onEngine (·.onExecutionEvent w.clock event)
  | .publish readings => (w.publishAndCapture readings).2
  | .bump mutation readings => ((mutation.apply w).bump readings).2
  | .write p => (w.writeState p).drop p.ticket
  | .discard ticket => w.drop ticket
  | .commit trade p => (w.commitFill trade p).2.drop p.ticket
  | .resolve id => (w.resolvePotentialLoss id).2
  | .updateDebounced readings => w.updateDebounced readings
  | .takeDebounced => w.takeDebounced.2

def Of (c : Call) : Effect → Prop
  | .idle | .failClosed _ | .recordEmergency _ | .write _ | .discard _ => True
  | .bump (.fill trade _) _ | .commit trade _ => c = .fill trade
  | .rollback .. => ∃ trade, c = .fill trade
  | .bump (.settlement trade _) _ => c = .settlement trade
  | .resolve id => ∃ trade, c = .settlement trade ∧ trade.tradeId = id
  | .tick | .haltStale .. | .publish _ => c = .tick
  | .bump (.drift mismatches) _ => c = .reconciliation .critical mismatches
  | .halt reason => c = .halt reason
  | .acknowledge => c = .acknowledge
  | .bump .reset _ => c = .reset
  | .setBlacklist _ | .bump .none _ =>
    (∃ marketId reason, c = .addBlacklist marketId reason) ∨
      ∃ marketId, c = .removeBlacklist marketId
  | .bump (.resolve id) _ => c = .resolvePotentialLoss id
  | .reload config => c = .reload config
  | .execution event => c = .execution event
  | .updateDebounced _ => c = .updateDebounced
  | .takeDebounced => c = .flushDebounced

def releases : Effect → Bool
  | .acknowledge | .bump .reset _ => true
  | _ => false

theorem Of.releases {c : Call} {effect : Effect} (h : effect.Of c) (hc : c.releases = false) :
    effect.releases = false := by
  cases effect with
  | acknowledge => cases h; cases hc
  | bump mutation readings =>
    cases mutation with
    | reset => cases h; cases hc
    | _ => rfl
  | _ => rfl

theorem apply_clock (w : World) (effect : Effect) : (effect.apply w).clock = w.clock := by
  cases effect with
  | commit trade p => exact w.commitFill_clock trade p
  | resolve id => exact w.resolvePotentialLoss_clock id
  | updateDebounced readings => exact w.updateDebounced_clock readings
  | bump mutation readings => cases mutation <;> rfl
  | _ => rfl

end Effect

/-- A step: the clock moves on, then one of the effects `P`. -/
def StepIn (P : Effect → Prop) (a : Answer) (w w' : World) : Prop :=
  ∃ effect : Effect, P effect ∧ w' = effect.apply (w.advance a)

abbrev StepOf (c : Call) : Answer → World → World → Prop := StepIn (Effect.Of c)

/-! ## Building blocks -/

/-- The effects of sections and calls that write no snapshot are among `P`. -/
structure Quiet (P : Effect → Prop) : Prop where
  idle : P .idle
  failClosed : ∀ reason, P (.failClosed reason)
  recordEmergency : ∀ reason, P (.recordEmergency reason)

/-- The effects that come with every call are among `P`. -/
structure Common (P : Effect → Prop) : Prop extends Quiet P where
  write : ∀ p, P (.write p)
  discard : ∀ ticket, P (.discard ticket)

theorem common_of (c : Call) : Common (Effect.Of c) where
  idle := trivial
  failClosed := fun _ => trivial
  recordEmergency := fun _ => trivial
  write := fun _ => trivial
  discard := fun _ => trivial

section Blocks

variable {P : Effect → Prop} {α : Type}

theorem sync_within {f : Readings → World → α × World}
    (h : ∀ r w, ∃ effect : Effect, P effect ∧ (f r w).2 = effect.apply w) :
    (sync f).Within (StepIn P) :=
  Routine.within_atomically fun a w => h a.readings (w.advance a)

theorem call_within {f : World → Except String α × World} (hP : Quiet P)
    (h : ∀ w, ∃ effect : Effect, P effect ∧ (f w).2 = effect.apply w) :
    (call f).Within (StepIn P) := by
  refine Routine.within_atomically fun a w => ?_
  cases a.fault with
  | none => exact h _
  | failed error => exact ⟨.idle, hP.idle, rfl⟩
  | lost error => exact h _

theorem read_within (hP : Quiet P) (f : World → Except String α) :
    (call fun w => (f w, w)).Within (StepIn P) :=
  call_within hP fun _ => ⟨.idle, hP.idle, rfl⟩

theorem writeCall_within (hP : Common P) {p : Pending} {f : World → Except String Unit × World}
    (h : ∀ w, ∃ effect : Effect, P effect ∧ (f w).2.drop p.ticket = effect.apply w) :
    (writeCall p f).Within (StepIn P) := by
  refine Routine.within_atomically fun a w => ?_
  cases a.fault with
  | none => exact h _
  | failed error => exact ⟨.discard p.ticket, hP.discard _, rfl⟩
  | lost error => exact h _

theorem failClosed_within (hP : Quiet P) (reason : String) :
    (failClosed reason).Within (StepIn P) :=
  sync_within fun _ _ => ⟨.failClosed reason, hP.failClosed reason, rfl⟩

theorem record_within (hP : Quiet P) : record.Within (StepIn P) := read_within hP fun _ => .ok ()

theorem upsertState_within (hP : Common P) (p : Pending) : (upsertState p).Within (StepIn P) :=
  writeCall_within hP fun _ => ⟨.write p, hP.write p, rfl⟩

theorem orHalt_within (hP : Quiet P) (what : String) (r : Except String Unit) :
    (orHalt what r).Within (StepIn P) := by
  cases r with
  | ok => exact Routine.within_pure ()
  | error e => exact Routine.within_bind (failClosed_within hP _) fun _ => Routine.within_throw e

theorem persistAndAudit_within (hP : Common P) (p : Pending) :
    (persistAndAudit p).Within (StepIn P) := by
  refine Routine.within_bind (upsertState_within hP p) fun r => ?_
  refine Routine.within_bind (orHalt_within hP.toQuiet _ r) fun _ => ?_
  exact Routine.within_bind (record_within hP.toQuiet) fun r => orHalt_within hP.toQuiet _ r

theorem recordEmergency_within (hP : Quiet P) (reason : String) :
    (sync fun _ w => ((), w.recordEmergency reason)).Within (StepIn P) :=
  sync_within fun _ _ => ⟨.recordEmergency reason, hP.recordEmergency reason, rfl⟩

theorem recordTrip_within (hP : Quiet P) (report : PostTradeReport) :
    (recordTrip report).Within (StepIn P) := by
  unfold recordTrip
  split
  · have hreason : (sync fun _ w => (w.tripReason, w)).Within (StepIn P) :=
      sync_within fun _ _ => ⟨.idle, hP.idle, rfl⟩
    refine Routine.within_bind hreason fun reason => ?_
    refine Routine.within_bind (record_within hP) fun _ => ?_
    refine Routine.within_bind (recordEmergency_within hP reason) fun _ => ?_
    exact Routine.within_bind (record_within hP) fun _ => Routine.within_pure _
  · exact Routine.within_pure _

theorem persistPostTradeFollowups_within (hP : Quiet P) (report : PostTradeReport) :
    (persistPostTradeFollowups report).Within (StepIn P) := by
  refine Routine.within_bind (recordTrip_within hP report) fun _ => ?_
  split
  · exact Routine.within_bind (record_within hP) fun r => orHalt_within hP _ r
  · exact Routine.within_pure _

theorem finishFill_within (hP : Quiet P) (hrollback : ∀ image reason, P (.rollback image reason))
    (image : World.MutableRiskState) (report : PostTradeReport) (r : Except String Unit) :
    (finishFill image report r).Within (StepIn P) := by
  cases r with
  | error e =>
    have hundo : (sync fun _ w =>
        ((), w.rollbackFill image s!"risk fill commit failed: {e}")).Within (StepIn P) :=
      sync_within fun _ _ => ⟨.rollback image _, hrollback image _, rfl⟩
    exact Routine.within_bind hundo fun _ => Routine.within_throw e
  | ok => exact persistPostTradeFollowups_within hP report

theorem persistSettlementPotentialLoss_within (hP : Quiet P) {trade : PostTradeInput}
    (hresolve : P (.resolve trade.tradeId)) :
    (persistSettlementPotentialLoss trade).Within (StepIn P) := by
  unfold persistSettlementPotentialLoss
  split
  · have hcall : (call (·.resolvePotentialLoss trade.tradeId)).Within (StepIn P) :=
      call_within hP fun _ => ⟨.resolve trade.tradeId, hresolve, rfl⟩
    exact Routine.within_bind hcall fun r => orHalt_within hP _ r
  · exact Routine.within_pure _

theorem recordIf_within (hP : Quiet P) (condition : Bool) :
    (recordIf condition).Within (StepIn P) := by
  unfold recordIf
  split
  · exact Routine.within_bind (record_within hP) fun _ => Routine.within_pure _
  · exact Routine.within_pure _

theorem escalateStale_within (hP : Quiet P) {count secs : Nat} (hhalt : P (.haltStale count secs)) :
    (escalateStale count secs).Within (StepIn P) := by
  have hstale : (sync fun _ w => ((), w.haltStale count secs)).Within (StepIn P) :=
    sync_within fun _ _ => ⟨.haltStale count secs, hhalt, rfl⟩
  refine Routine.within_bind hstale fun _ => ?_
  refine Routine.within_bind (record_within hP) fun r => ?_
  cases r with
  | error e => exact Routine.within_throw e
  | ok => exact Routine.within_pure _

theorem afterTick_within (hP : Common P) (hpublish : ∀ readings, P (.publish readings))
    (hhalt : ∀ count secs, P (.haltStale count secs)) (report : TickReport) :
    (afterTick report).Within (StepIn P) := by
  refine Routine.within_bind (read_within hP.toQuiet _) fun stale => ?_
  rcases stale with e | _ | n
  · exact Routine.within_throw e
  · have hpersist : (persistTick report).Within (StepIn P) := by
      unfold persistTick
      split
      · have hcapture : (sync fun readings w => w.publishAndCapture readings).Within (StepIn P) :=
          sync_within fun readings _ => ⟨.publish readings, hpublish readings, rfl⟩
        refine Routine.within_bind hcapture fun p => ?_
        exact Routine.within_bind (upsertState_within hP p) fun r => orHalt_within hP.toQuiet _ r
      · exact Routine.within_pure _
    refine Routine.within_bind hpersist fun _ => ?_
    refine Routine.within_bind (recordIf_within hP.toQuiet _) fun _ => ?_
    refine Routine.within_bind (recordIf_within hP.toQuiet _) fun _ => ?_
    exact Routine.within_bind (recordIf_within hP.toQuiet _) fun _ => recordIf_within hP.toQuiet _
  · exact escalateStale_within hP.toQuiet (hhalt _ _)

end Blocks

/-! ## The calls -/

theorem onFill_within (trade : PostTradeInput) : (onFill trade).Within (StepOf (.fill trade)) := by
  have hP := common_of (.fill trade)
  refine Routine.within_bind (read_within hP.toQuiet _) fun claim => ?_
  rcases claim with e | _ | _
  · exact Routine.within_bind (failClosed_within hP.toQuiet _) fun _ => Routine.within_throw e
  · have hfill : (sync fun readings w => w.fillSection trade readings).Within
        (StepOf (.fill trade)) :=
      sync_within fun readings _ => ⟨.bump (.fill trade readings) readings, rfl, rfl⟩
    refine Routine.within_bind hfill fun applied => ?_
    have hcommit : (writeCall applied.2.snapshot (·.commitFill trade applied.2.snapshot)).Within
        (StepOf (.fill trade)) :=
      writeCall_within hP fun _ => ⟨.commit trade applied.2.snapshot, rfl, rfl⟩
    refine Routine.within_bind hcommit fun committed => ?_
    exact finishFill_within hP.toQuiet (fun _ _ => ⟨trade, rfl⟩) applied.1 applied.2 committed
  · exact Routine.within_pure _

theorem onSettlement_within (trade : PostTradeInput) :
    (onSettlement trade).Within (StepOf (.settlement trade)) := by
  have hP := common_of (.settlement trade)
  have hresolve : (persistSettlementPotentialLoss trade).Within (StepOf (.settlement trade)) :=
    persistSettlementPotentialLoss_within hP.toQuiet ⟨trade, rfl, rfl⟩
  have hsettle : (sync fun readings w => w.applyTradeResult .settlement trade readings).Within
      (StepOf (.settlement trade)) :=
    sync_within fun readings _ => ⟨.bump (.settlement trade readings) readings, rfl, rfl⟩
  refine Routine.within_bind hresolve fun _ => ?_
  refine Routine.within_bind hsettle fun report => ?_
  refine Routine.within_bind (persistAndAudit_within hP report.snapshot) fun _ => ?_
  exact persistPostTradeFollowups_within hP.toQuiet report

theorem tick_within : tick.Within (StepOf .tick) := by
  have hsection : (sync fun _ w => w.tickSection).Within (StepOf .tick) :=
    sync_within fun _ _ => ⟨.tick, rfl, rfl⟩
  refine Routine.within_bind hsection fun report => ?_
  exact afterTick_within (common_of .tick) (fun _ => rfl) (fun _ _ => rfl) report

theorem onReconciliationResult_within (status : ReconciliationStatus) (mismatches : Nat) :
    (onReconciliationResult status mismatches).Within
      (StepOf (.reconciliation status mismatches)) := by
  have hP := common_of (.reconciliation status mismatches)
  refine Routine.within_bind (record_within hP.toQuiet) fun r => ?_
  refine Routine.within_bind (orHalt_within hP.toQuiet _ r) fun _ => ?_
  refine Routine.within_bind (record_within hP.toQuiet) fun r => ?_
  refine Routine.within_bind (orHalt_within hP.toQuiet _ r) fun _ => ?_
  split
  next hcritical =>
    subst hcritical
    have hdrift : (sync fun readings w => (w.haltDrift mismatches).bump readings).Within
        (StepOf (.reconciliation .critical mismatches)) :=
      sync_within fun readings _ => ⟨.bump (.drift mismatches) readings, rfl, rfl⟩
    refine Routine.within_bind hdrift fun p => ?_
    refine Routine.within_bind (upsertState_within hP p) fun r => ?_
    refine Routine.within_bind (orHalt_within hP.toQuiet _ r) fun _ => ?_
    refine Routine.within_bind (recordEmergency_within hP.toQuiet _) fun _ => ?_
    exact Routine.within_bind (record_within hP.toQuiet) fun _ => Routine.within_pure _
  next => exact Routine.within_pure _

theorem halt_within (reason : String) : (halt reason).Within (StepOf (.halt reason)) := by
  have hP := common_of (.halt reason)
  have hhalt : (sync fun _ w => ((), w.onEngine (·.haltInternal w.clock reason))).Within
      (StepOf (.halt reason)) :=
    sync_within fun _ _ => ⟨.halt reason, rfl, rfl⟩
  refine Routine.within_bind hhalt fun _ => ?_
  exact Routine.within_bind (record_within hP.toQuiet) fun _ => Routine.within_pure _

theorem acknowledgeAndResume_within : acknowledgeAndResume.Within (StepOf .acknowledge) := by
  have hP := common_of .acknowledge
  have hack : (sync fun _ w => ((), w.acknowledgeAndResume)).Within (StepOf .acknowledge) :=
    sync_within fun _ _ => ⟨.acknowledge, rfl, rfl⟩
  refine Routine.within_bind hack fun _ => ?_
  exact Routine.within_bind (record_within hP.toQuiet) fun r => orHalt_within hP.toQuiet _ r

theorem resetCircuitBreaker_within : resetCircuitBreaker.Within (StepOf .reset) := by
  have hP := common_of .reset
  have hreset : (sync fun readings w => w.resetBreaker.bump readings).Within (StepOf .reset) :=
    sync_within fun readings _ => ⟨.bump .reset readings, rfl, rfl⟩
  exact Routine.within_bind hreset fun p => persistAndAudit_within hP p

theorem changeBlacklist_within {c : Call} (what : String)
    (change : DateTime → BlacklistManager → BlacklistManager)
    (hc : (∃ marketId reason, c = .addBlacklist marketId reason) ∨
      ∃ marketId, c = .removeBlacklist marketId) :
    (changeBlacklist what change).Within (StepOf c) := by
  have hP := common_of c
  have hset : (sync fun _ w => ((), w.setBlacklist (change w.clock))).Within (StepOf c) :=
    sync_within fun _ w => ⟨.setBlacklist (change w.clock), hc, rfl⟩
  have hbump : (sync fun readings w => w.bump readings).Within (StepOf c) :=
    sync_within fun readings _ => ⟨.bump .none readings, hc, rfl⟩
  refine Routine.within_bind hset fun _ => ?_
  refine Routine.within_bind (record_within hP.toQuiet) fun r => ?_
  refine Routine.within_bind (orHalt_within hP.toQuiet _ r) fun _ => ?_
  exact Routine.within_bind hbump fun p => persistAndAudit_within hP p

theorem resolvePotentialLoss_within (id : TradeId) :
    (resolvePotentialLoss id).Within (StepOf (.resolvePotentialLoss id)) := by
  have hP := common_of (.resolvePotentialLoss id)
  have hresolve : (sync fun readings w => (w.resolveEntry id).bump readings).Within
      (StepOf (.resolvePotentialLoss id)) :=
    sync_within fun readings _ => ⟨.bump (.resolve id) readings, rfl, rfl⟩
  refine Routine.within_bind hresolve fun p => ?_
  exact Routine.within_bind (upsertState_within hP p) fun r => orHalt_within hP.toQuiet _ r

theorem reload_within (config : RiskConfig) : (reload config).Within (StepOf (.reload config)) := by
  unfold reload
  exact sync_within fun _ _ => ⟨.reload config, rfl, rfl⟩

theorem onExecutionEvent_within (event : ExecutionRiskEvent) :
    (onExecutionEvent event).Within (StepOf (.execution event)) := by
  unfold onExecutionEvent
  exact sync_within fun _ _ => ⟨.execution event, rfl, rfl⟩

theorem updateDebounced_within : updateDebounced.Within (StepOf .updateDebounced) := by
  unfold updateDebounced
  exact sync_within fun readings _ => ⟨.updateDebounced readings, rfl, rfl⟩

theorem flushDebounced_within : flushDebounced.Within (StepOf .flushDebounced) := by
  have hP := common_of .flushDebounced
  have htake : (sync fun _ w => w.takeDebounced).Within (StepOf .flushDebounced) :=
    sync_within fun _ _ => ⟨.takeDebounced, rfl, rfl⟩
  refine Routine.within_bind htake fun taken => ?_
  cases taken with
  | none => exact Routine.within_pure _
  | some p =>
    exact Routine.within_bind (upsertState_within hP p) fun _ => Routine.within_pure _

/-- Every step of a call is an effect of that call. -/
theorem Call.op_within (c : Call) : c.op.Within (StepOf c) := by
  cases c with
  | fill trade => exact onFill_within trade
  | settlement trade => exact onSettlement_within trade
  | tick => exact tick_within
  | reconciliation status mismatches => exact onReconciliationResult_within status mismatches
  | halt reason => exact halt_within reason
  | acknowledge => exact acknowledgeAndResume_within
  | reset => exact resetCircuitBreaker_within
  | addBlacklist marketId reason =>
    unfold Call.op Risk.addBlacklist
    exact changeBlacklist_within _ _ (.inl ⟨marketId, reason, rfl⟩)
  | removeBlacklist marketId =>
    unfold Call.op Risk.removeBlacklist
    exact changeBlacklist_within _ _ (.inr ⟨marketId, rfl⟩)
  | resolvePotentialLoss id => exact resolvePotentialLoss_within id
  | reload config => exact reload_within config
  | execution event => exact onExecutionEvent_within event
  | updateDebounced => exact updateDebounced_within
  | flushDebounced => exact flushDebounced_within

/-! ## Invariants -/

theorem perform_invariant {I : World → Prop} {c : Call}
    (hstep : ∀ (effect : Effect) a w, effect.Of c → I w → I (effect.apply (w.advance a)))
    (answers : List Answer) {w : World} (h : I w) : I (w.perform (c, answers)) := by
  refine c.op_within.exec_invariant ?_ answers h
  rintro a w _ hw ⟨effect, hof, rfl⟩
  exact hstep effect a w hof hw

theorem perform_halt (w : World) (reason : String) (answers : List Answer) :
    let first := w.advance (answers.headD default)
    w.perform (.halt reason, answers) =
      (first.onEngine (·.haltInternal first.clock reason)).advance
        (answers.tail.headD default) := by
  change (Risk.halt reason).exec answers w = _
  unfold Risk.halt sync record call
  rw [Routine.exec_atomically_bind, Routine.exec_atomically_bind]
  cases (answers.tail.headD default).fault <;> rfl

theorem start_within {κ : Type} (w : World) (calls : κ → Call) :
    (start w calls).Within fun j => StepOf (calls j) :=
  fun j => (calls j).op_within

theorem run_invariant {κ : Type} [DecidableEq κ] {calls : κ → Call}
    {S : Routine.System κ Answer World String Unit}
    (hS : S.Within fun j => StepOf (calls j)) {I : World → Prop} {schedule : List (κ × Answer)}
    (hstep : ∀ e ∈ schedule, ∀ (effect : Effect) w, effect.Of (calls e.1) → I w →
      I (effect.apply (w.advance e.2)))
    (h : I S.state) : I (S.run schedule).state := by
  refine hS.run_invariant ?_ h
  rintro e he w _ hw ⟨effect, hof, rfl⟩
  exact hstep e he effect w hof hw

end OxideArb.Risk
