import OxideArb.Risk.Recovery

/-!
# How operations end

An operation ends having stored the state it leaves, having stored nothing, or with a failed call
and a halted engine. `Endings` has the rules that derive a statement about the end of every
operation from these ways.
-/

namespace OxideArb.Risk

/-! ## A stored state -/

def Engine.AccountingIn (e : Engine) (row : EngineState) : Prop :=
  row.toRiskEngineState =
    { (e.snapshot row.snapshotAt ⟨0, 0, 0, 0⟩ 0).toRiskEngineState with
      totalRealizedPnl := row.totalRealizedPnl }

def EngineState.Decodes (row : EngineState) : Prop :=
  ∀ config, ∃ b, CircuitBreaker.fromSnapshot config row = .ok b

def World.Captured (w : World) (p : Pending) : Prop :=
  ∃ now readings misses, p.state = w.engine.snapshot now readings misses

structure World.JustStored (w : World) : Prop where
  breaker : w.db.row.breakerState = w.engine.circuitBreaker.state.toName
  decodes : w.db.row.Decodes
  accounting : w.engine.AccountingIn w.db.row
  time : w.db.row.snapshotAt = w.clock

theorem Engine.snapshot_decodes (e : Engine) (now : DateTime) (readings : Readings)
    (misses : Nat) : (e.snapshot now readings misses).Decodes := by
  intro config
  unfold CircuitBreaker.fromSnapshot BreakerState.ofRow Engine.snapshot
  dsimp only
  cases e.circuitBreaker.state <;> exact ⟨_, rfl⟩

theorem World.Captured.writeState {w : World} {p : Pending} (h : w.Captured p) :
    (w.writeState p).JustStored := by
  obtain ⟨now, readings, misses, hp⟩ := h
  have hrow : (w.writeState p).db.row = w.db.row.upsert p.state w.clock := rfl
  rw [EngineState.upsert_eq, hp] at hrow
  constructor
  · rw [hrow]
    rfl
  · rw [hrow]
    intro config
    obtain ⟨b, hb⟩ := w.engine.snapshot_decodes w.clock readings misses config
    exact ⟨b, hb⟩
  · unfold Engine.AccountingIn
    rw [hrow]
    rfl
  · rw [hrow]
    rfl

theorem World.Captured.commitFill {w : World} {p : Pending} (h : w.Captured p)
    {trade : PostTradeInput} (hok : (w.commitFill trade p).1 = .ok ()) :
    (w.commitFill trade p).2.JustStored := by
  obtain ⟨hbreaker, hdecodes, haccounting, htime⟩ := h.writeState
  unfold World.commitFill at hok ⊢
  dsimp only at hok ⊢
  split at hok
  · cases hok
  · exact ⟨hbreaker, hdecodes, haccounting, htime⟩

theorem World.JustStored.drop {w : World} (h : w.JustStored) (ticket : Nat) :
    (w.drop ticket).JustStored :=
  ⟨h.breaker, h.decodes, h.accounting, h.time⟩

theorem World.bump_captured (w : World) (readings : Readings) :
    (w.bump readings).2.Captured (w.bump readings).1 :=
  ⟨_, _, _, rfl⟩

theorem World.publishAndCapture_captured (w : World) (readings : Readings) :
    (w.publishAndCapture readings).2.Captured (w.publishAndCapture readings).1 :=
  ⟨_, _, _, rfl⟩

/-! ## The three ways -/

def Effect.isRollback : Effect → Bool
  | .rollback .. => true
  | _ => false

/-- `K` holds throughout, `N` until something is stored, `I` when the operation returns, and
`F` when it fails. -/
structure Endings (N K I F : World → Prop) : Prop where
  idle : ∀ a w, N w → N (w.advance a)
  tick : ∀ w, N w → N w.tickSection.2
  setBlacklist : ∀ w change, N w → N (w.setBlacklist change)
  begun : ∀ w, N w → I w
  wait : ∀ a w, I w → I (w.advance a)
  emergency : ∀ w reason, I w → I (w.recordEmergency reason)
  step : ∀ (effect : Effect) a w, effect.isRollback = false → K w → K (effect.apply (w.advance a))
  stored : ∀ w, K w → w.JustStored → I w
  stale : ∀ w a count, K w → N w →
    0 < w.staleCount w.engine.config.potentialLossEscalationSecs →
      I ((w.advance a).haltStale count w.engine.config.potentialLossEscalationSecs)
  returned : ∀ w, K w → I w → F w
  failed : ∀ w reason, K w → F (w.failClosed reason)
  rolledBack : ∀ (w w' : World) reason, K w → w.clock ≤ w'.clock →
    w'.engine.config = w.engine.config → F (w'.rollbackFill w.captureMutableState reason)

namespace Endings

variable {N K I F : World → Prop}

section Blocks

variable {Q : World → Prop} {E : String → World → Prop}

theorem record (H : Endings N K I F) (hQ : ∀ a w, Q w → Q (w.advance a)) :
    Prog.Spec Risk.record.toProg (fun w => K w ∧ Q w) (fun _ w => K w ∧ Q w) E := by
  refine Routine.spec_atomically fun a w h => ?_
  have hstep : K (w.advance a) ∧ Q (w.advance a) := ⟨H.step .idle a w rfl h.1, hQ a w h.2⟩
  cases a.fault <;> exact hstep

theorem orHalt (H : Endings N K I F) (what : String) (r : Except String Unit) :
    Prog.Spec (Risk.orHalt what r).toProg (fun w => K w ∧ (r = .ok () → Q w))
      (fun _ w => K w ∧ Q w) (fun _ => F) := by
  cases r with
  | ok => exact Prog.Spec.pure fun w h => ⟨h.1, h.2 rfl⟩
  | error e =>
    unfold Risk.orHalt
    rw [Routine.toProg_bind]
    refine Prog.Spec.bind (R := fun _ => F) ?_ fun _ => Prog.Spec.throw fun _ h => h
    exact Routine.spec_atomically fun a w h => H.failed _ _ (H.step .idle a w rfl h.1)

theorem recordOrHalt (H : Endings N K I F) (hQ : ∀ a w, Q w → Q (w.advance a)) (what : String) :
    Prog.Spec (Risk.record >>= Risk.orHalt what).toProg (fun w => K w ∧ Q w)
      (fun _ w => K w ∧ Q w) (fun _ => F) := by
  rw [Routine.toProg_bind]
  refine Prog.Spec.bind (H.record hQ) fun r => ?_
  exact (H.orHalt what r).pre fun w h => ⟨h.1, fun _ => h.2⟩

theorem upsertState (H : Endings N K I F) (p : Pending) :
    Prog.Spec (Risk.upsertState p).toProg (fun w => K w ∧ w.Captured p)
      (fun r w => K w ∧ (r = .ok () → I w)) E := by
  refine Routine.spec_atomically fun a w h => ?_
  have hwrite := H.step (.write p) a w rfl h.1
  have hcaptured : (w.advance a).Captured p := h.2
  cases a.fault with
  | none =>
    exact ⟨hwrite, fun _ => H.stored _ hwrite (hcaptured.writeState.drop p.ticket)⟩
  | failed error => exact ⟨H.step (.discard p.ticket) a w rfl h.1, nofun⟩
  | lost error => exact ⟨hwrite, nofun⟩

theorem upsertOrHalt (H : Endings N K I F) (p : Pending) (what : String) :
    Prog.Spec (Risk.upsertState p >>= Risk.orHalt what).toProg (fun w => K w ∧ w.Captured p)
      (fun _ w => K w ∧ I w) (fun _ => F) := by
  rw [Routine.toProg_bind]
  exact Prog.Spec.bind (H.upsertState p) fun r => H.orHalt what r

theorem persistAndAudit (H : Endings N K I F) (p : Pending) :
    Prog.Spec (Risk.persistAndAudit p).toProg (fun w => K w ∧ w.Captured p)
      (fun _ w => K w ∧ I w) (fun _ => F) := by
  unfold Risk.persistAndAudit
  rw [Routine.toProg_bind]
  refine Prog.Spec.bind (H.upsertState p) fun r => ?_
  rw [Routine.toProg_bind]
  exact Prog.Spec.bind (H.orHalt _ r) fun _ => H.recordOrHalt H.wait _

theorem recordEmergency (H : Endings N K I F) (reason : String) :
    Prog.Spec (sync fun _ w => ((), w.recordEmergency reason)).toProg (fun w => K w ∧ I w)
      (fun _ w => K w ∧ I w) E :=
  Routine.spec_atomically fun a w h =>
    ⟨H.step (.recordEmergency reason) a w rfl h.1, H.emergency _ reason (H.wait a w h.2)⟩

theorem recordTrip (H : Endings N K I F) (report : PostTradeReport) :
    Prog.Spec (Risk.recordTrip report).toProg (fun w => K w ∧ I w) (fun _ w => K w ∧ I w)
      (fun _ => F) := by
  unfold Risk.recordTrip
  split
  · have hreason : Prog.Spec (sync fun _ w => (w.tripReason, w)).toProg (fun w => K w ∧ I w)
        (fun _ w => K w ∧ I w) (fun _ => F) :=
      Routine.spec_atomically fun a w h => ⟨H.step .idle a w rfl h.1, H.wait a w h.2⟩
    simp only [Routine.toProg_bind, Routine.toProg_pure]
    refine Prog.Spec.bind hreason fun reason => ?_
    refine Prog.Spec.bind (H.record H.wait) fun _ => ?_
    refine Prog.Spec.bind (H.recordEmergency reason) fun _ => ?_
    exact Prog.Spec.bind (H.record H.wait) fun _ => Prog.Spec.pure fun _ h => h
  · exact Prog.Spec.pure fun _ h => h

theorem persistPostTradeFollowups (H : Endings N K I F) (report : PostTradeReport) :
    Prog.Spec (Risk.persistPostTradeFollowups report).toProg (fun w => K w ∧ I w)
      (fun _ w => K w ∧ I w) (fun _ => F) := by
  unfold Risk.persistPostTradeFollowups
  rw [Routine.toProg_bind]
  refine Prog.Spec.bind (H.recordTrip report) fun _ => ?_
  split
  · exact H.recordOrHalt H.wait _
  · exact Prog.Spec.pure fun _ h => h

theorem recordIf (H : Endings N K I F) (condition : Bool) :
    Prog.Spec (Risk.recordIf condition).toProg (fun w => K w ∧ I w) (fun _ w => K w ∧ I w) E := by
  unfold Risk.recordIf
  split
  · rw [Routine.toProg_bind]
    exact Prog.Spec.bind (H.record H.wait) fun _ => Prog.Spec.pure fun _ h => h
  · exact Prog.Spec.pure fun _ h => h

end Blocks

/-! ## Trades -/

/-- What a fill knows between its section and its end: the image is that of a world it has
been in, and nothing has changed the configuration since. -/
def Imaged (K : World → Prop) (image : World.MutableRiskState) (w : World) : Prop :=
  ∃ v : World, K v ∧ v.clock ≤ w.clock ∧ w.engine.config = v.engine.config ∧
    image = v.captureMutableState

variable {E : String → World → Prop}

theorem commitCall (H : Endings N K I F) (trade : PostTradeInput) (image : World.MutableRiskState)
    (p : Pending) : Prog.Spec (writeCall p (·.commitFill trade p)).toProg
      (fun w => K w ∧ Imaged K image w ∧ w.Captured p)
      (fun r w => K w ∧ Imaged K image w ∧ (r = .ok () → I w)) E := by
  refine Routine.spec_atomically fun a w h => ?_
  obtain ⟨hK, ⟨v, hv, hclock, hconfig, himage⟩, hp⟩ := h
  have hcommit := H.step (.commit trade p) a w rfl hK
  have hframe : ((w.advance a).commitFill trade p).2.clock = (w.advance a).clock ∧
      ((w.advance a).commitFill trade p).2.engine = w.engine :=
    ⟨World.commitFill_clock .., World.commitFill_engine ..⟩
  have himaged : ∀ w' : World, w'.clock = (w.advance a).clock → w'.engine = w.engine →
      Imaged K image w' := fun w' hc he =>
    ⟨v, hv, hc ▸ le_max_of_le_left hclock, by rw [he]; exact hconfig, himage⟩
  cases a.fault with
  | none =>
    have hcaptured : (w.advance a).Captured p := hp
    refine ⟨hcommit, himaged _ hframe.1 hframe.2, fun hok => H.stored _ hcommit ?_⟩
    exact (hcaptured.commitFill hok).drop p.ticket
  | failed error =>
    exact ⟨H.step (.discard p.ticket) a w rfl hK, himaged _ rfl rfl, nofun⟩
  | lost error => exact ⟨hcommit, himaged _ hframe.1 hframe.2, nofun⟩

theorem finishFill (H : Endings N K I F) (image : World.MutableRiskState)
    (report : PostTradeReport) (r : Except String Unit) :
    Prog.Spec (Risk.finishFill image report r).toProg
      (fun w => K w ∧ Imaged K image w ∧ (r = .ok () → I w)) (fun _ w => K w ∧ I w)
      (fun _ => F) := by
  cases r with
  | ok =>
    exact (H.persistPostTradeFollowups report).pre fun w h => ⟨h.1, h.2.2 rfl⟩
  | error e =>
    unfold Risk.finishFill
    rw [Routine.toProg_bind]
    refine Prog.Spec.bind (R := fun _ => F) ?_ fun _ => Prog.Spec.throw fun _ h => h
    refine Routine.spec_atomically fun a w h => ?_
    obtain ⟨-, ⟨v, hv, hclock, hconfig, rfl⟩, -⟩ := h
    exact H.rolledBack v _ _ hv (le_max_of_le_left hclock) hconfig

theorem onFill (H : Endings N K I F) (trade : PostTradeInput) :
    Prog.Spec (Risk.onFill trade).toProg (fun w => K w ∧ N w) (fun _ w => K w ∧ I w)
      (fun _ => F) := by
  have hclaim : Prog.Spec (beginFill trade.tradeId).toProg (fun w => K w ∧ N w)
      (fun _ w => K w ∧ N w) (fun _ => F) := by
    refine Routine.spec_atomically fun a w h => ?_
    have hstep : K (w.advance a) ∧ N (w.advance a) :=
      ⟨H.step .idle a w rfl h.1, H.idle a w h.2⟩
    cases a.fault <;> exact hstep
  unfold Risk.onFill
  rw [Routine.toProg_bind]
  refine Prog.Spec.bind hclaim fun claim => ?_
  rcases claim with e | _ | _
  · have hfail : Prog.Spec (failClosed s!"risk fill marker claim failed: {e}").toProg
        (fun w => K w ∧ N w) (fun _ => F) (fun _ => F) :=
      Routine.spec_atomically fun a w h => H.failed _ _ (H.step .idle a w rfl h.1)
    rw [Routine.toProg_bind]
    exact Prog.Spec.bind hfail fun _ => Prog.Spec.throw fun _ h => h
  · have hsection : Prog.Spec (sync fun readings w => w.fillSection trade readings).toProg
        (fun w => K w ∧ N w)
        (fun applied w => K w ∧ Imaged K applied.1 w ∧ w.Captured applied.2.snapshot)
        (fun _ => F) := by
      refine Routine.spec_atomically fun a w h => ⟨?_, ?_, World.bump_captured ..⟩
      · exact H.step (.bump (.fill trade a.readings) a.readings) a w rfl h.1
      · exact ⟨w.advance a, H.step .idle a w rfl h.1, le_refl _, rfl, rfl⟩
    unfold claimedFill
    simp only [Routine.toProg_bind]
    refine Prog.Spec.bind hsection fun applied => ?_
    refine Prog.Spec.bind (H.commitCall trade applied.1 applied.2.snapshot) fun r => ?_
    exact H.finishFill applied.1 applied.2 r
  · exact Prog.Spec.pure fun w h => ⟨h.1, H.begun w h.2⟩

theorem onSettlement (H : Endings N K I F) (trade : PostTradeInput) :
    Prog.Spec (Risk.onSettlement trade).toProg (fun w => K w ∧ N w) (fun _ w => K w ∧ I w)
      (fun _ => F) := by
  have hresolve : Prog.Spec (persistSettlementPotentialLoss trade).toProg (fun w => K w ∧ N w)
      (fun _ w => K w ∧ True) (fun _ => F) := by
    unfold persistSettlementPotentialLoss
    split
    · rw [Routine.toProg_bind]
      refine Prog.Spec.bind (R := fun _ w => K w ∧ True) ?_ fun r =>
        (H.orHalt _ r).pre fun w h => ⟨h.1, fun _ => trivial⟩
      refine Routine.spec_atomically fun a w h => ⟨?_, trivial⟩
      cases a.fault with
      | none => exact H.step (.resolve trade.tradeId) a w rfl h.1
      | failed error => exact H.step .idle a w rfl h.1
      | lost error => exact H.step (.resolve trade.tradeId) a w rfl h.1
    · exact Prog.Spec.pure fun w h => ⟨h.1, trivial⟩
  have hsection : Prog.Spec
      (sync fun readings w => w.applyTradeResult .settlement trade readings).toProg
      (fun w => K w ∧ True) (fun report w => K w ∧ w.Captured report.snapshot) (fun _ => F) :=
    Routine.spec_atomically fun a w h =>
      ⟨H.step (.bump (.settlement trade a.readings) a.readings) a w rfl h.1,
        World.bump_captured ..⟩
  unfold Risk.onSettlement
  simp only [Routine.toProg_bind]
  refine Prog.Spec.bind hresolve fun _ => ?_
  refine Prog.Spec.bind hsection fun report => ?_
  refine Prog.Spec.bind (H.persistAndAudit report.snapshot) fun _ => ?_
  exact H.persistPostTradeFollowups report

/-! ## The other operations -/

theorem bump (H : Endings N K I F) (mutation : Mutation) {Q : World → Prop} :
    Prog.Spec (sync fun readings w => (mutation.apply w).bump readings).toProg
      (fun w => K w ∧ Q w) (fun p w => K w ∧ w.Captured p) E :=
  Routine.spec_atomically fun a w h =>
    ⟨H.step (.bump mutation a.readings) a w rfl h.1, World.bump_captured ..⟩

theorem findStale (H : Endings N K I F) (secs : Nat) :
    Prog.Spec (Risk.findStale secs).toProg
      (fun w => (K w ∧ N w) ∧ w.engine.config.potentialLossEscalationSecs = secs)
      (fun r w => (K w ∧ N w) ∧ w.engine.config.potentialLossEscalationSecs = secs ∧
        ∀ n, r = .ok n → w.staleCount secs = n) (fun _ => F) := by
  refine Routine.spec_atomically fun a w h => ?_
  have hstep : (K (w.advance a) ∧ N (w.advance a)) ∧
      (w.advance a).engine.config.potentialLossEscalationSecs = secs :=
    ⟨⟨H.step .idle a w rfl h.1.1, H.idle a w h.1.2⟩, h.2⟩
  cases a.fault with
  | none => exact ⟨hstep.1, hstep.2, fun n hn => Except.ok.inj hn⟩
  | failed error => exact ⟨hstep.1, hstep.2, nofun⟩
  | lost error => exact ⟨hstep.1, hstep.2, nofun⟩

theorem persistTick (H : Endings N K I F) (report : TickReport) :
    Prog.Spec (Risk.persistTick report).toProg (fun w => K w ∧ N w) (fun _ w => K w ∧ I w)
      (fun _ => F) := by
  unfold Risk.persistTick
  split
  · have hsection : Prog.Spec (sync fun readings w => w.publishAndCapture readings).toProg
        (fun w => K w ∧ N w) (fun p w => K w ∧ w.Captured p) (fun _ => F) :=
      Routine.spec_atomically fun a w h =>
        ⟨H.step (.publish a.readings) a w rfl h.1, World.publishAndCapture_captured ..⟩
    rw [Routine.toProg_bind]
    exact Prog.Spec.bind hsection fun p => H.upsertOrHalt p _
  · exact Prog.Spec.pure fun w h => ⟨h.1, H.begun w h.2⟩

theorem finishTick (H : Endings N K I F) (report : TickReport) :
    Prog.Spec (Risk.finishTick report).toProg (fun w => K w ∧ N w) (fun _ w => K w ∧ I w)
      (fun _ => F) := by
  unfold Risk.finishTick
  simp only [Routine.toProg_bind]
  refine Prog.Spec.bind (H.persistTick report) fun _ => ?_
  refine Prog.Spec.bind (H.recordIf _) fun _ => ?_
  refine Prog.Spec.bind (H.recordIf _) fun _ => ?_
  exact Prog.Spec.bind (H.recordIf _) fun _ => H.recordIf _

theorem escalateStale (H : Endings N K I F) {count secs : Nat} :
    Prog.Spec (Risk.escalateStale count secs).toProg
      (fun w => (K w ∧ N w) ∧ w.engine.config.potentialLossEscalationSecs = secs ∧
        0 < w.staleCount secs)
      (fun _ w => K w ∧ I w) (fun _ => F) := by
  have hsection : Prog.Spec (sync fun _ w => ((), w.haltStale count secs)).toProg
      (fun w => (K w ∧ N w) ∧ w.engine.config.potentialLossEscalationSecs = secs ∧
        0 < w.staleCount secs)
      (fun _ w => K w ∧ I w) (fun _ => F) := by
    refine Routine.spec_atomically fun a w h => ?_
    obtain ⟨⟨hK, hN⟩, rfl, hstale⟩ := h
    exact ⟨H.step (.haltStale count _) a w rfl hK, H.stale w a count hK hN hstale⟩
  unfold Risk.escalateStale
  simp only [Routine.toProg_bind]
  refine Prog.Spec.bind hsection fun _ => ?_
  refine Prog.Spec.bind (H.record H.wait) fun r => ?_
  cases r with
  | error e => exact Prog.Spec.throw fun w h => H.returned w h.1 h.2
  | ok => exact Prog.Spec.pure fun _ h => h

theorem onTick (H : Endings N K I F) :
    Prog.Spec Risk.tick.toProg (fun w => K w ∧ N w) (fun _ w => K w ∧ I w) (fun _ => F) := by
  have hsection : Prog.Spec (sync fun _ w => w.tickSection).toProg (fun w => K w ∧ N w)
      (fun report w => (K w ∧ N w) ∧
        w.engine.config.potentialLossEscalationSecs = report.escalationSecs) (fun _ => F) :=
    Routine.spec_atomically fun a w h =>
      ⟨⟨H.step .tick a w rfl h.1, H.tick _ (H.idle a w h.2)⟩, rfl⟩
  unfold Risk.tick afterTick
  simp only [Routine.toProg_bind]
  refine Prog.Spec.bind hsection fun report => ?_
  refine Prog.Spec.bind (H.findStale report.escalationSecs) fun stale => ?_
  rcases stale with e | _ | n
  · exact Prog.Spec.throw fun w h => H.returned w h.1.1 (H.begun w h.1.2)
  · exact (H.finishTick report).pre fun w h => h.1
  · refine H.escalateStale.pre fun w h => ⟨h.1, h.2.1, ?_⟩
    rw [h.2.2 (n + 1) rfl]
    exact n.succ_pos

theorem onReconciliationResult (H : Endings N K I F) (status : ReconciliationStatus)
    (mismatches : Nat) :
    Prog.Spec (Risk.onReconciliationResult status mismatches).toProg (fun w => K w ∧ N w)
      (fun _ w => K w ∧ I w) (fun _ => F) := by
  unfold Risk.onReconciliationResult
  rw [Routine.toProg_bind]
  refine Prog.Spec.bind (H.record H.idle) fun r => ?_
  rw [Routine.toProg_bind]
  refine Prog.Spec.bind ((H.orHalt _ r).pre fun w h => ⟨h.1, fun _ => h.2⟩) fun _ => ?_
  rw [Routine.toProg_bind]
  refine Prog.Spec.bind (H.record H.idle) fun r => ?_
  rw [Routine.toProg_bind]
  refine Prog.Spec.bind ((H.orHalt _ r).pre fun w h => ⟨h.1, fun _ => h.2⟩) fun _ => ?_
  split
  · unfold haltOnDrift
    rw [Routine.toProg_bind]
    refine Prog.Spec.bind (H.bump (.drift mismatches)) fun p => ?_
    rw [Routine.toProg_bind]
    refine Prog.Spec.bind (H.upsertState p) fun r => ?_
    simp only [Routine.toProg_bind, Routine.toProg_pure]
    refine Prog.Spec.bind (H.orHalt _ r) fun _ => ?_
    refine Prog.Spec.bind (H.recordEmergency _) fun _ => ?_
    exact Prog.Spec.bind (H.record H.wait) fun _ => Prog.Spec.pure fun _ h => h
  · exact Prog.Spec.pure fun w h => ⟨h.1, H.begun w h.2⟩

theorem resetCircuitBreaker (H : Endings N K I F) :
    Prog.Spec Risk.resetCircuitBreaker.toProg (fun w => K w ∧ N w) (fun _ w => K w ∧ I w)
      (fun _ => F) := by
  unfold Risk.resetCircuitBreaker
  rw [Routine.toProg_bind]
  exact Prog.Spec.bind (H.bump .reset) fun p => H.persistAndAudit p

theorem changeBlacklist (H : Endings N K I F) (what : String)
    (change : DateTime → BlacklistManager → BlacklistManager) :
    Prog.Spec (Risk.changeBlacklist what change).toProg (fun w => K w ∧ N w)
      (fun _ w => K w ∧ I w) (fun _ => F) := by
  have hset : Prog.Spec (sync fun _ w => ((), w.setBlacklist (change w.clock))).toProg
      (fun w => K w ∧ N w) (fun _ w => K w ∧ N w) (fun _ => F) :=
    Routine.spec_atomically fun a w h =>
      ⟨H.step (.setBlacklist (change (w.advance a).clock)) a w rfl h.1,
        H.setBlacklist _ _ (H.idle a w h.2)⟩
  unfold Risk.changeBlacklist
  simp only [Routine.toProg_bind]
  refine Prog.Spec.bind hset fun _ => ?_
  refine Prog.Spec.bind (H.record H.idle) fun r => ?_
  refine Prog.Spec.bind ((H.orHalt _ r).pre fun w h => ⟨h.1, fun _ => h.2⟩) fun _ => ?_
  exact Prog.Spec.bind (H.bump .none) fun p => H.persistAndAudit p

theorem resolvePotentialLoss (H : Endings N K I F) (id : TradeId) :
    Prog.Spec (Risk.resolvePotentialLoss id).toProg (fun w => K w ∧ N w) (fun _ w => K w ∧ I w)
      (fun _ => F) := by
  unfold Risk.resolvePotentialLoss
  rw [Routine.toProg_bind]
  exact Prog.Spec.bind (H.bump (.resolve id)) fun p => H.upsertOrHalt p _

theorem call (H : Endings N K I F) {c : Call} (hc : c.stores = true) :
    Prog.Spec c.op.toProg (fun w => K w ∧ N w) (fun _ w => K w ∧ I w) (fun _ => F) := by
  cases c with
  | fill trade => exact H.onFill trade
  | settlement trade => exact H.onSettlement trade
  | tick => exact H.onTick
  | reconciliation status mismatches => exact H.onReconciliationResult status mismatches
  | reset => exact H.resetCircuitBreaker
  | addBlacklist marketId reason =>
    unfold Call.op Risk.addBlacklist
    exact H.changeBlacklist _ _
  | removeBlacklist marketId =>
    unfold Call.op Risk.removeBlacklist
    exact H.changeBlacklist _ _
  | resolvePotentialLoss id => exact H.resolvePotentialLoss id
  | _ => cases hc

end Endings

end OxideArb.Risk
