import OxideArb.Lib.Tickets
import OxideArb.Lib.Transition
import OxideArb.Risk.Recovery

/-!
# The order in which snapshots reach the row

Nothing in the row says how old its content is. Every operation follows the protocol of `Tickets`
(`Call.op_carries`), so the row never goes back if each write takes the oldest snapshot in flight.
-/

namespace OxideArb.Risk

def World.tickets (w : World) : Tickets where
  steps := w.steps
  inFlight := w.inFlight
  slot := w.debounced.map Pending.ticket
  written := w.written

def TicketStep (a : Answer) (w w' : World) (held held' : Option Nat) : Prop :=
  (w.advance a).tickets.Move w'.tickets held held'

/-! ## Building blocks -/

def Effect.Still (effect : Effect) : Prop := ∀ w, (effect.apply w).tickets = w.tickets

theorem quiet_still : Quiet Effect.Still where
  idle := fun _ => rfl
  failClosed := fun _ _ => rfl
  recordEmergency := fun _ _ => rfl

section Blocks

variable {α : Type}

theorem still_carries {t : Op α} (ht : t.Within (StepIn Effect.Still)) {Q : α → Option Nat → Prop}
    {held : Option Nat} (hQ : ∀ a, Q a held) : t.Carries TicketStep Q held := by
  refine ht.carries ?_ hQ
  rintro a w _ ⟨effect, hstill, rfl⟩
  unfold TicketStep
  rw [hstill]
  exact .still held

theorem still_bind {β : Type} {t : Op α} (ht : t.Within (StepIn Effect.Still)) {k : α → Op β}
    {Q : β → Option Nat → Prop} {held : Option Nat}
    (hk : ∀ a, (k a).Carries TicketStep Q held) : (t >>= k).Carries TicketStep Q held := by
  have hstill : t.Carries TicketStep (fun _ held' => held' = held) held :=
    still_carries ht fun _ => rfl
  refine Routine.carries_bind hstill ?_
  rintro a _ rfl
  exact hk a

theorem capture_carries {f : Readings → World → α × World} {p : α → Pending}
    (h : ∀ r w, (f r w).2.tickets = { w.tickets with inFlight := w.steps :: w.inFlight } ∧
      (p (f r w).1).ticket = w.steps) :
    (sync f).Carries TicketStep (fun a held => held = some (p a).ticket) none := by
  refine Routine.carries_atomically fun a w => ?_
  obtain ⟨htickets, hp⟩ := h a.readings (w.advance a)
  refine ⟨some (w.advance a).steps, ?_, by rw [hp]⟩
  unfold TicketStep
  rw [htickets]
  exact .issue

theorem writeCall_carries {p : Pending} {f : World → Except String Unit × World}
    (h : ∀ w, (f w).2.tickets = w.tickets ∨
      (f w).2.tickets = { w.tickets with written := p.ticket :: w.written }) :
    (writeCall p f).Carries TicketStep (fun _ held => held = none) (some p.ticket) := by
  refine Routine.carries_atomically fun a w => ⟨none, ?_, rfl⟩
  have happly : (a.fault.apply f (w.advance a)).2.tickets = (w.advance a).tickets ∨
      (a.fault.apply f (w.advance a)).2.tickets =
        { (w.advance a).tickets with written := p.ticket :: w.written } := by
    cases a.fault with
    | none => exact h (w.advance a)
    | failed error => exact .inl rfl
    | lost error => exact h (w.advance a)
  change Tickets.Move _ { (a.fault.apply f (w.advance a)).2.tickets with
    inFlight := (a.fault.apply f (w.advance a)).2.tickets.inFlight.filter (· ≠ p.ticket) } _ _
  rcases happly with hsame | hwritten
  · rw [hsame]
    exact .discard p.ticket
  · rw [hwritten]
    exact .write p.ticket

theorem upsertState_carries (p : Pending) :
    (upsertState p).Carries TicketStep (fun _ held => held = none) (some p.ticket) :=
  writeCall_carries fun _ => .inr rfl

theorem capture_upsert_carries {f : Readings → World → Pending × World}
    (h : ∀ r w, (f r w).2.tickets = { w.tickets with inFlight := w.steps :: w.inFlight } ∧
      (f r w).1.ticket = w.steps)
    {rest : Except String Unit → Op α} {Q : α → Option Nat → Prop}
    (hrest : ∀ r, (rest r).Carries TicketStep Q none) :
    (sync f >>= fun p => upsertState p >>= rest).Carries TicketStep Q none := by
  refine Routine.carries_bind (capture_carries (p := id) h) ?_
  rintro p _ rfl
  refine Routine.carries_bind (upsertState_carries p) ?_
  rintro r _ rfl
  exact hrest r

theorem audit_within (r : Except String Unit) :
    (orHalt "persist failed" r >>= fun _ => record >>= orHalt "audit failed").Within
      (StepIn Effect.Still) := by
  refine Routine.within_bind (orHalt_within quiet_still _ r) fun _ => ?_
  exact Routine.within_bind (record_within quiet_still) fun r => orHalt_within quiet_still _ r

end Blocks

/-! ## The calls -/

theorem onFill_carries (trade : PostTradeInput) :
    (onFill trade).Carries TicketStep (fun _ _ => True) none := by
  refine still_bind (read_within quiet_still _) fun claim => ?_
  rcases claim with e | _ | _
  · have hfail := Routine.within_bind
      (failClosed_within quiet_still s!"risk fill marker claim failed: {e}")
      fun _ => Routine.within_throw (α := Unit) e
    exact still_carries hfail fun _ => trivial
  · have hsection := capture_carries (f := fun readings w => w.fillSection trade readings)
      (p := fun applied => applied.2.snapshot) fun _ _ => ⟨rfl, rfl⟩
    refine Routine.carries_bind hsection ?_
    rintro applied _ rfl
    have hcommit : ∀ w : World,
        (w.commitFill trade applied.2.snapshot).2.tickets = w.tickets ∨
          (w.commitFill trade applied.2.snapshot).2.tickets =
            { w.tickets with written := applied.2.snapshot.ticket :: w.written } := by
      intro w
      unfold World.commitFill
      dsimp only
      split
      · exact .inl rfl
      · exact .inr rfl
    refine Routine.carries_bind (writeCall_carries hcommit) ?_
    rintro committed _ rfl
    exact still_carries (finishFill_within quiet_still (fun _ _ _ => rfl) _ _ committed)
      fun _ => trivial
  · exact Routine.carries_pure trivial

theorem onSettlement_carries (trade : PostTradeInput) :
    (onSettlement trade).Carries TicketStep (fun _ _ => True) none := by
  have hresolve : (Effect.resolve trade.tradeId).Still := by
    intro w
    change (w.resolvePotentialLoss trade.tradeId).2.tickets = w.tickets
    unfold World.resolvePotentialLoss
    dsimp only
    split <;> rfl
  refine still_bind (persistSettlementPotentialLoss_within quiet_still hresolve) fun _ => ?_
  have hsection := capture_carries
    (f := fun readings w => w.applyTradeResult .settlement trade readings)
    (p := PostTradeReport.snapshot) fun _ _ => ⟨rfl, rfl⟩
  refine Routine.carries_bind hsection ?_
  rintro report _ rfl
  unfold persistAndAudit
  rw [bind_assoc]
  refine Routine.carries_bind (upsertState_carries report.snapshot) ?_
  rintro r _ rfl
  refine still_bind (audit_within r) fun _ => ?_
  exact still_carries (persistPostTradeFollowups_within quiet_still report) fun _ => trivial

theorem tick_carries : tick.Carries TicketStep (fun _ _ => True) none := by
  have hsection : (sync fun _ w => w.tickSection).Within (StepIn Effect.Still) :=
    sync_within fun _ _ => ⟨.tick, fun _ => rfl, rfl⟩
  refine still_bind hsection fun report => ?_
  refine still_bind (read_within quiet_still _) fun stale => ?_
  rcases stale with e | _ | n
  · exact Routine.carries_throw e
  · have hpersist : (persistTick report).Carries TicketStep (fun _ held => held = none) none := by
      unfold persistTick
      split
      · exact capture_upsert_carries (fun _ _ => ⟨rfl, rfl⟩) fun r =>
          still_carries (orHalt_within quiet_still _ r) fun _ => rfl
      · exact Routine.carries_pure rfl
    refine Routine.carries_bind hpersist ?_
    rintro _ _ rfl
    have hrecords := Routine.within_bind (recordIf_within quiet_still report.dailyRolled) fun _ =>
      Routine.within_bind (recordIf_within quiet_still report.weeklyRolled) fun _ =>
        Routine.within_bind (recordIf_within quiet_still report.hourlyRolled) fun _ =>
          recordIf_within quiet_still report.breakerRecovered
    exact still_carries hrecords fun _ => trivial
  · exact still_carries (escalateStale_within quiet_still fun _ => rfl) fun _ => trivial

theorem onReconciliationResult_carries (status : ReconciliationStatus) (mismatches : Nat) :
    (onReconciliationResult status mismatches).Carries TicketStep (fun _ _ => True) none := by
  refine still_bind (record_within quiet_still) fun r => ?_
  refine still_bind (orHalt_within quiet_still _ r) fun _ => ?_
  refine still_bind (record_within quiet_still) fun r => ?_
  refine still_bind (orHalt_within quiet_still _ r) fun _ => ?_
  split
  · refine capture_upsert_carries (fun _ _ => ⟨rfl, rfl⟩) fun r => ?_
    refine still_bind (orHalt_within quiet_still _ r) fun _ => ?_
    refine still_bind (recordEmergency_within quiet_still _) fun _ => ?_
    exact still_bind (record_within quiet_still) fun _ => Routine.carries_pure trivial
  · exact Routine.carries_pure trivial

theorem halt_carries (reason : String) :
    (halt reason).Carries TicketStep (fun _ _ => True) none := by
  have hhalt : (sync fun _ w => ((), w.onEngine (·.haltInternal w.clock reason))).Within
      (StepIn Effect.Still) :=
    sync_within fun _ _ => ⟨.halt reason, fun _ => rfl, rfl⟩
  refine still_bind hhalt fun _ => ?_
  exact still_bind (record_within quiet_still) fun _ => Routine.carries_pure trivial

theorem acknowledgeAndResume_carries :
    acknowledgeAndResume.Carries TicketStep (fun _ _ => True) none := by
  have hack : (sync fun _ w => ((), w.acknowledgeAndResume)).Within (StepIn Effect.Still) :=
    sync_within fun _ _ => ⟨.acknowledge, fun _ => rfl, rfl⟩
  refine still_bind hack fun _ => ?_
  refine still_bind (record_within quiet_still) fun r => ?_
  exact still_carries (orHalt_within quiet_still _ r) fun _ => trivial

theorem resetCircuitBreaker_carries :
    resetCircuitBreaker.Carries TicketStep (fun _ _ => True) none :=
  capture_upsert_carries (fun _ _ => ⟨rfl, rfl⟩) fun r =>
    still_carries (audit_within r) fun _ => trivial

theorem changeBlacklist_carries (what : String)
    (change : DateTime → BlacklistManager → BlacklistManager) :
    (changeBlacklist what change).Carries TicketStep (fun _ _ => True) none := by
  have hset : (sync fun _ w => ((), w.setBlacklist (change w.clock))).Within
      (StepIn Effect.Still) :=
    sync_within fun _ w => ⟨.setBlacklist (change w.clock), fun _ => rfl, rfl⟩
  refine still_bind hset fun _ => ?_
  refine still_bind (record_within quiet_still) fun r => ?_
  refine still_bind (orHalt_within quiet_still _ r) fun _ => ?_
  exact capture_upsert_carries (fun _ _ => ⟨rfl, rfl⟩) fun r =>
    still_carries (audit_within r) fun _ => trivial

theorem resolvePotentialLoss_carries (id : TradeId) :
    (resolvePotentialLoss id).Carries TicketStep (fun _ _ => True) none :=
  capture_upsert_carries (fun _ _ => ⟨rfl, rfl⟩) fun r =>
    still_carries (orHalt_within quiet_still _ r) fun _ => trivial

theorem updateDebounced_carries :
    updateDebounced.Carries TicketStep (fun _ _ => True) none := by
  refine Routine.carries_atomically fun a w => ⟨none, ?_, trivial⟩
  have hoffer : ((w.advance a).updateDebounced a.readings).tickets =
      { (w.advance a).tickets with
        inFlight := (w.advance a).tickets.steps :: (w.advance a).tickets.inFlight.filter
          (fun t => (w.advance a).tickets.slot ≠ some t)
        slot := some (w.advance a).tickets.steps } := by
    unfold World.updateDebounced
    cases hd : (w.advance a).debounced with
    | none => simp [World.tickets, World.capture, hd]
    | some p => simp [World.tickets, World.capture, World.drop, hd, eq_comm]
  unfold TicketStep
  rw [hoffer]
  exact .offer

theorem flushDebounced_carries :
    flushDebounced.Carries TicketStep (fun _ _ => True) none := by
  have htake : (sync fun _ w => w.takeDebounced).Carries TicketStep
      (fun taken held => held = taken.map Pending.ticket) none :=
    Routine.carries_atomically fun a w => ⟨_, .fetch, rfl⟩
  refine Routine.carries_bind htake ?_
  rintro taken _ rfl
  cases taken with
  | none => exact Routine.carries_pure trivial
  | some p =>
    exact Routine.carries_bind (upsertState_carries p) fun _ _ _ => Routine.carries_pure trivial

/-- Every call follows the protocol of the tickets. -/
theorem Call.op_carries (c : Call) : c.op.Carries TicketStep (fun _ _ => True) none := by
  cases c with
  | fill trade => exact onFill_carries trade
  | settlement trade => exact onSettlement_carries trade
  | tick => exact tick_carries
  | reconciliation status mismatches => exact onReconciliationResult_carries status mismatches
  | halt reason => exact halt_carries reason
  | acknowledge => exact acknowledgeAndResume_carries
  | reset => exact resetCircuitBreaker_carries
  | addBlacklist marketId reason =>
    unfold Call.op Risk.addBlacklist
    exact changeBlacklist_carries _ _
  | removeBlacklist marketId =>
    unfold Call.op Risk.removeBlacklist
    exact changeBlacklist_carries _ _
  | resolvePotentialLoss id => exact resolvePotentialLoss_carries id
  | reload config =>
    unfold Call.op Risk.reload
    exact still_carries (sync_within fun _ _ => ⟨.reload config, fun _ => rfl, rfl⟩)
      fun _ => trivial
  | execution event =>
    unfold Call.op onExecutionEvent
    exact still_carries (sync_within fun _ _ => ⟨.execution event, fun _ => rfl, rfl⟩)
      fun _ => trivial
  | updateDebounced => exact updateDebounced_carries
  | flushDebounced => exact flushDebounced_carries

/-! ## The row -/

section Run

variable {κ : Type} [DecidableEq κ]

/-- The step writes nothing, or the oldest snapshot in flight. -/
def WritesOldest (S : Routine.System κ Answer World String Unit) (s : κ × Answer) : Prop :=
  ∀ t, (S.resume s).state.written = t :: S.state.written → ∀ u ∈ S.state.inFlight, t ≤ u

instance (S : Routine.System κ Answer World String Unit) (s : κ × Answer) :
    Decidable (WritesOldest S s) :=
  decidable_of_iff
    (∀ t ∈ (S.resume s).state.written, (S.resume s).state.written = t :: S.state.written →
      ∀ u ∈ S.state.inFlight, t ≤ u)
    ⟨fun h t ht => h t (ht ▸ List.mem_cons_self) ht, fun h t _ ht => h t ht⟩

def Ticketed (S : Routine.System κ Answer World String Unit) : Prop :=
  ∃ tasks : κ → Option Nat, S.Carries TicketStep (fun _ _ => True) tasks ∧
    Tickets.Kept (Tickets.holds tasks S.state.tickets.slot) S.state.tickets

theorem resume_ticketed {S : Routine.System κ Answer World String Unit} (hS : Ticketed S)
    {s : κ × Answer} (hs : WritesOldest S s) : Ticketed (S.resume s) := by
  obtain ⟨tasks, hcarries, hkept⟩ := hS
  obtain ⟨held, hstep, hrest⟩ := hcarries.resume s
  refine ⟨_, hrest, ?_⟩
  rcases hstep with ⟨hstay, rfl⟩ | hmove
  · rw [hstay, Function.update_eq_self]
    exact hkept
  · exact hkept.move hmove hs

end Run

/-- As long as every write takes the oldest snapshot in flight, the row never goes back,
whichever operations run and however their steps mix. -/
theorem row_in_order {κ : Type} [DecidableEq κ] (engine : Engine) (db : Database) (now : DateTime)
    (calls : κ → Call) (schedule : List (κ × Answer))
    (hoff : Transition.Meets (fun S s => some (S.resume s)) WritesOldest
      (start (.initial engine db now) calls) schedule) :
    Transition.Along Routine.System.resume (fun S => Tickets.InOrder S.state.written)
      (start (.initial engine db now) calls) schedule := by
  refine Transition.along_of_meets Ticketed ?_ (fun _ _ hS hs => resume_ticketed hS hs) ?_ hoff
  · rintro S ⟨tasks, -, hkept⟩
    exact hkept.inOrder
  · refine ⟨fun _ => none, fun j => (calls j).op_carries, Tickets.Kept.start ?_ 0⟩
    intro o
    cases o <;> rfl

def debouncedSettlement : Nat → Call
  | 0 => .fill lostPosition
  | 1 => .updateDebounced
  | 2 => .settlement lostPosition
  | _ => .flushDebounced

/-- A position is opened, a snapshot goes to the debounced writer, the position is settled
with a loss and stored, and the writer stores its snapshot: the loss of the day is gone from
the row. -/
theorem old_snapshot_overwrites :
    let settled := (start World.first debouncedSettlement).run
      ((List.replicate 3 0 ++ [1] ++ List.replicate 4 2).map fun j => (j, default))
    let flushed := settled.run [(3, default), (3, default)]
    settled.state.db.row.dailyLossUsd = 20 ∧ flushed.state.engine.daily.stats.loss = 20 ∧
      flushed.state.db.row.dailyLossUsd = 0 ∧ ¬ Tickets.InOrder flushed.state.written := by
  decide +kernel

/-- The same tasks with the writer's turn before the settlement. -/
theorem row_in_order_flushed_first :
    let schedule := (List.replicate 3 0 ++ [1, 3, 3] ++ List.replicate 4 2).map fun j =>
      (j, (default : Answer))
    Transition.Along Routine.System.resume (fun S => Tickets.InOrder S.state.written)
      (start World.first debouncedSettlement) schedule := by
  intro schedule
  exact row_in_order Boot.first.seeded (.seed 0) 0 debouncedSettlement schedule
    (by decide +kernel)

end OxideArb.Risk
