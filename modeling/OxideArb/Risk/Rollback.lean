import OxideArb.Risk.Recovery

/-!
# A fill that is rolled back

A fill changes the engine before its commit and keeps an image of what the engine was. When the
commit fails, the image is put back whole: what the fill changed outside the image stays, and
what other operations did to the parts of the image meanwhile is lost.
-/

namespace OxideArb.Risk

/-! ## One fill alone -/

/-- The commit of a fill, with its answer. -/
def World.commitCall (w : World) (trade : PostTradeInput) (p : Pending) (a : Answer) :
    Except String Unit × World :=
  a.fault.apply (·.commitFill trade p) (w.advance a)

def World.fillStep (w : World) (trade : PostTradeInput) (a : Answer) :
    (World.MutableRiskState × PostTradeReport) × World :=
  (w.advance a).fillSection trade a.readings

namespace World

@[simp] theorem commitFill_counters (w : World) (trade : PostTradeInput) (p : Pending) :
    (w.commitFill trade p).2.counters = w.counters := by
  unfold commitFill
  dsimp only
  split <;> rfl

theorem commitCall_engine (w : World) (trade : PostTradeInput) (p : Pending) (a : Answer) :
    (w.commitCall trade p a).2.engine = w.engine := by
  unfold commitCall
  cases a.fault with
  | none => exact commitFill_engine _ trade p
  | failed error => rfl
  | lost error => exact commitFill_engine _ trade p

theorem commitCall_counters (w : World) (trade : PostTradeInput) (p : Pending) (a : Answer) :
    (w.commitCall trade p a).2.counters = w.counters := by
  unfold commitCall
  cases a.fault with
  | none => exact commitFill_counters _ trade p
  | failed error => rfl
  | lost error => exact commitFill_counters _ trade p

end World

theorem exec_failed_commit (w : World) (trade : PostTradeInput) (image : World.MutableRiskState)
    (report : PostTradeReport) (answers : List Answer) {e : String}
    (hfail : (w.commitCall trade report.snapshot (answers.headD default)).1 = .error e) :
    (writeCall report.snapshot (·.commitFill trade report.snapshot) >>=
        finishFill image report).exec answers w =
      (((w.commitCall trade report.snapshot (answers.headD default)).2.drop
        report.snapshot.ticket).advance (answers.tail.headD default)).rollbackFill image
          s!"risk fill commit failed: {e}" := by
  unfold writeCall
  rw [Routine.exec_atomically_bind]
  change (finishFill image report
    (w.commitCall trade report.snapshot (answers.headD default)).1).exec _ _ = _
  rw [hfail]
  rfl

theorem perform_claimed (w : World) {trade : PostTradeInput} (answers : List Answer)
    (hclaim : (answers.headD default).fault = .none)
    (hnew : w.db.fillsApplied.contains trade.tradeId = false) :
    w.perform (.fill trade, answers) =
      (claimedFill trade).exec answers.tail (w.advance (answers.headD default)) := by
  unfold World.perform
  change (onFill trade).exec answers w = _
  unfold onFill beginFill call
  rw [Routine.exec_atomically_bind]
  have hmarker : (w.advance (answers.headD default)).db.fillsApplied.contains trade.tradeId =
      false := hnew
  simp only [hclaim, Fault.apply, hmarker]

theorem perform_failed_fill (w : World) {trade : PostTradeInput}
    {claim applied commit undone : Answer} {e : String} (hclaim : claim.fault = .none)
    (hnew : w.db.fillsApplied.contains trade.tradeId = false)
    (hfail : (((w.advance claim).fillStep trade applied).2.commitCall trade
      ((w.advance claim).fillStep trade applied).1.2.snapshot commit).1 = .error e)
    (rest : List Answer) :
    ∃ w' : World, w'.engine = ((w.advance claim).fillStep trade applied).2.engine ∧
      w'.counters = ((w.advance claim).fillStep trade applied).2.counters ∧
      w.perform (.fill trade, claim :: applied :: commit :: undone :: rest) =
        w'.rollbackFill ((w.advance claim).advance applied).captureMutableState
          s!"risk fill commit failed: {e}" := by
  have hrun := exec_failed_commit ((w.advance claim).fillStep trade applied).2 trade
    ((w.advance claim).fillStep trade applied).1.1 ((w.advance claim).fillStep trade applied).1.2
    (commit :: undone :: rest) hfail
  refine ⟨_, ?_, ?_,
    (perform_claimed w (claim :: applied :: commit :: undone :: rest) hclaim hnew).trans hrun⟩
  · exact World.commitCall_engine ..
  · exact World.commitCall_counters ..

/-- What is to be undone of a fill, with the trades of the day read at `now`. -/
structure FillUndone (now : DateTime) (w w' : World) : Prop where
  daily : w'.engine.daily = w.engine.daily
  weekly : w'.engine.weekly = w.engine.weekly
  hourly : w'.engine.hourly = w.engine.hourly
  lifetimeRealized : w'.engine.lifetimeRealized = w.engine.lifetimeRealized
  potentialLoss : w'.engine.potentialLoss = w.engine.potentialLoss
  drawdown : w'.engine.drawdown = w.engine.drawdown
  blacklist : w'.engine.blacklist.entries = w.engine.blacklist.entries
  marketMisses : w'.counters.marketMisses = w.counters.marketMisses
  dailyDirectionalTrades : ∀ side,
    w'.counters.dailyDirectionalTrades now side = w.counters.dailyDirectionalTrades now side
  halted : w'.engine.circuitBreaker.state.isHalted = true

theorem World.fillStep_counters (w : World) (trade : PostTradeInput) (a : Answer) :
    (w.fillStep trade a).2.counters =
      w.counters.recordTradeOutcome (w.advance a).clock trade.side trade.marketId trade.isMiss :=
  rfl

section FailedFill

variable {w : World} {trade : PostTradeInput} {claim applied commit undone : Answer} {e : String}

theorem failed_fill_restores (hclaim : claim.fault = .none)
    (hnew : w.db.fillsApplied.contains trade.tradeId = false)
    (hfail : (((w.advance claim).fillStep trade applied).2.commitCall trade
      ((w.advance claim).fillStep trade applied).1.2.snapshot commit).1 = .error e)
    (rest : List Answer) :
    let w' := w.perform (.fill trade, claim :: applied :: commit :: undone :: rest)
    w'.captureMutableState =
      { w.captureMutableState with circuitBreaker := w'.engine.circuitBreaker } ∧
      w'.engine.lifetimeRealized = w.engine.lifetimeRealized ∧
      w'.engine.circuitBreaker.state.haltedAt .system = true := by
  intro w'
  obtain ⟨v, hengine, -, hrun⟩ := perform_failed_fill w hclaim hnew hfail rest
  change w' = _ at hrun
  have hlifetime := congrArg Engine.lifetimeRealized hengine
  rw [hrun]
  exact ⟨rfl, hlifetime, (v.restoreMutableState _).engine.haltInternal_haltedAt _ _⟩

theorem failed_fill_counters (hclaim : claim.fault = .none)
    (hnew : w.db.fillsApplied.contains trade.tradeId = false)
    (hfail : (((w.advance claim).fillStep trade applied).2.commitCall trade
      ((w.advance claim).fillStep trade applied).1.2.snapshot commit).1 = .error e)
    (rest : List Answer) :
    (w.perform (.fill trade, claim :: applied :: commit :: undone :: rest)).counters =
      w.counters.recordTradeOutcome ((w.advance claim).advance applied).clock trade.side
        trade.marketId trade.isMiss := by
  obtain ⟨v, -, hcounters, hrun⟩ := perform_failed_fill w hclaim hnew hfail rest
  rw [hrun]
  exact hcounters.trans ((w.advance claim).fillStep_counters trade applied)

end FailedFill

/-- A fill whose commit fails is never undone in full: its trade counts for the day. -/
theorem failed_fill_not_undone (w : World) (trade : PostTradeInput)
    (claim applied commit undone : Answer) (rest : List Answer) {e : String}
    (hclaim : claim.fault = .none) (hnew : w.db.fillsApplied.contains trade.tradeId = false)
    (hfail : (((w.advance claim).fillStep trade applied).2.commitCall trade
      ((w.advance claim).fillStep trade applied).1.2.snapshot commit).1 = .error e) :
    ¬ FillUndone ((w.advance claim).advance applied).clock w
      (w.perform (.fill trade, claim :: applied :: commit :: undone :: rest)) := by
  intro hundone
  have hcount := hundone.dailyDirectionalTrades trade.side
  rw [failed_fill_counters hclaim hnew hfail rest,
    TradeCounters.dailyDirectionalTrades_record] at hcount
  omega

def missedTrade : PostTradeInput where
  tradeId := ⟨1⟩
  marketId := ⟨"market-1"⟩
  side := .buy
  outcome := .miss
  costUsd := 1
  feeUsd := 0
  netProfitUsd := none

/-- The commit fails once and the fill is replayed: two trades of the day, two misses in a
row. -/
theorem replayed_fill_counts_twice :
    let failed := World.first.perform
      (.fill missedTrade, [default, default, .timed 0 (.failed "connection lost"), default])
    let replayed := failed.perform (.fill missedTrade, [])
    let single := World.first.perform (.fill missedTrade, [])
    ¬ FillUndone 0 World.first failed ∧
      replayed.counters.dailyDirectionalTrades 0 .buy = 2 ∧
      replayed.counters.marketMisses missedTrade.marketId = 2 ∧
      single.counters.dailyDirectionalTrades 0 .buy = 1 ∧
      single.counters.marketMisses missedTrade.marketId = 1 := by
  intro failed replayed single
  refine ⟨fun h => ?_, ?_⟩
  · have hcount := h.dailyDirectionalTrades .buy
    revert hcount
    decide +kernel
  · decide +kernel

/-- A miss whose commit loses its connection. -/
theorem failed_miss_not_undone :
    ¬ FillUndone 0 World.first (World.first.perform (.fill missedTrade,
      [default, default, .timed 0 (.failed "connection lost"), default])) :=
  failed_fill_not_undone World.first missedTrade default default
    (.timed 0 (.failed "connection lost")) default [] rfl (by decide +kernel)
    (show _ = Except.error "connection lost" from rfl)

/-- The same miss leaves the halt as the only trace in the engine's own state. -/
theorem failed_fill_restores_miss :
    let failed := World.first.perform (.fill missedTrade,
      [default, default, .timed 0 (.failed "connection lost"), default])
    failed.captureMutableState =
        { World.first.captureMutableState with circuitBreaker := failed.engine.circuitBreaker } ∧
      failed.engine.circuitBreaker.state.haltedAt .system = true := by
  intro failed
  obtain ⟨hstate, -, hhalted⟩ := @failed_fill_restores World.first missedTrade default default
    (.timed 0 (.failed "connection lost")) default _ rfl (by decide +kernel)
    (show _ = Except.error "connection lost" from rfl) []
  exact ⟨hstate, hhalted⟩

/-! ## Operations during the commit -/

/-- Whether each entry of the table is there, and is active. -/
def LedgerTable.status (t : LedgerTable) (id : TradeId) : Option Bool :=
  (t.get id).map LedgerEntry.isActive

namespace LedgerTable

variable {t : LedgerTable} {trade : PostTradeInput}

theorem status_insert {t' : LedgerTable} {now : DateTime}
    (h : t.insert (trade.potentialLoss now) = some t') :
    status t' = Function.update (status t) trade.tradeId (some true) := by
  funext id
  unfold status
  by_cases hid : id = trade.tradeId
  · subst hid
    rw [show t'.get trade.tradeId = _ from Table.get_insert h, Function.update_self]
    rfl
  · rw [Table.get_insert_ne h hid, Function.update_of_ne hid]

theorem insert_eq_none {now : DateTime} :
    t.insert (trade.potentialLoss now) = none ↔ (status t trade.tradeId).isSome = true := by
  unfold status
  rw [t.insert_eq_none_iff, Option.isSome_map]
  rfl

theorem resolve_hit (t : LedgerTable) (id : TradeId) (now : DateTime) :
    (t.updateKey id LedgerEntry.isActive (.resolve now) (LedgerEntry.resolve_key now)).1 =
      ((status t id).getD false) := by
  rw [Table.updateKey_hit]
  unfold status
  cases t.get id <;> rfl

theorem status_resolve {id : TradeId} (now : DateTime) (h : status t id = some true) :
    status (t.updateKey id LedgerEntry.isActive (.resolve now) (LedgerEntry.resolve_key now)).2 =
      Function.update (status t) id (some false) := by
  obtain ⟨entry, hentry, hactive⟩ := Option.map_eq_some_iff.mp h
  funext id'
  unfold status
  by_cases hid : id' = id
  · subst hid
    rw [Table.get_updateKey, hentry, Function.update_self]
    simp only [Option.map_some, hactive, if_true]
    rfl
  · rw [Table.get_updateKey_ne t hid, Function.update_of_ne hid]

end LedgerTable

/-- The lifetime total and what decides how it changes: the status of each entry in the table
of potential losses, and the fills that are applied. -/
def World.books (w : World) : Usd × (TradeId → Option Bool) × List TradeId :=
  (w.engine.lifetimeRealized, LedgerTable.status w.db.potentialLoss, w.db.fillsApplied)

def Effect.keepsBooks : Effect → Bool
  | .bump (.settlement ..) _ | .commit .. | .resolve _ => false
  | _ => true

theorem books_step {effect : Effect} (h : effect.keepsBooks = true) (a : Answer) (w : World) :
    (effect.apply (w.advance a)).books = w.books := by
  cases effect with
  | execution event =>
    obtain ⟨breaker, version, snapshot, blacklist, hevent⟩ :=
      (w.advance a).engine.onExecutionEvent_frame (w.advance a).clock event
    have hlifetime := congrArg Engine.lifetimeRealized hevent
    exact Prod.ext hlifetime rfl
  | bump mutation readings =>
    cases mutation with
    | settlement trade readings => cases h
    | _ => rfl
  | commit trade p => cases h
  | resolve id => cases h
  | updateDebounced readings =>
    change ((w.advance a).updateDebounced readings).books = _
    unfold World.books
    rw [World.updateDebounced_engine, World.updateDebounced_db]
    rfl
  | _ => rfl

theorem inert_of_within {α : Type} {t : Op α} {P : Effect → Prop}
    (hP : ∀ effect, P effect → effect.keepsBooks = true) (ht : t.Within (StepIn P)) :
    t.Inert World.books := by
  refine ht.mono ?_
  rintro a w _ ⟨effect, heffect, rfl⟩
  exact books_step (hP effect heffect) a w

theorem common_keepsBooks : Common fun effect => effect.keepsBooks = true where
  idle := rfl
  failClosed := fun _ => rfl
  recordEmergency := fun _ => rfl
  write := fun _ => rfl
  discard := fun _ => rfl

variable {w : World}

theorem commitFill_books {w' : World} (h : w.books = w'.books) (trade : PostTradeInput)
    (p p' : Pending) : (w.commitFill trade p).1 = (w'.commitFill trade p').1 ∧
      (w.commitFill trade p).2.books = (w'.commitFill trade p').2.books := by
  obtain ⟨hlifetime, hstatus, hfills⟩ : _ ∧ _ ∧ _ := by simpa [World.books] using h
  unfold World.commitFill
  by_cases hsuccess : trade.isSuccess = true
  · simp only [hsuccess, if_true]
    cases ht : w.db.potentialLoss.insert (trade.potentialLoss w.clock) with
    | none =>
      rw [LedgerTable.insert_eq_none, hstatus] at ht
      rw [LedgerTable.insert_eq_none.mpr ht]
      exact ⟨rfl, h⟩
    | some t =>
      cases ht' : w'.db.potentialLoss.insert (trade.potentialLoss w'.clock) with
      | none =>
        rw [LedgerTable.insert_eq_none, ← hstatus, ← LedgerTable.insert_eq_none, ht] at ht'
        cases ht'
      | some t' =>
        refine ⟨rfl, ?_⟩
        unfold World.books
        dsimp only [World.writeState]
        rw [LedgerTable.status_insert ht, LedgerTable.status_insert ht', hlifetime, hstatus, hfills]
  · simp only [if_neg hsuccess]
    refine ⟨trivial, ?_⟩
    unfold World.books
    dsimp only [World.writeState]
    rw [hlifetime, hstatus, hfills]

theorem resolvePotentialLoss_books {w' : World} (h : w.books = w'.books) (id : TradeId) :
    (w.resolvePotentialLoss id).1 = (w'.resolvePotentialLoss id).1 ∧
      (w.resolvePotentialLoss id).2.books = (w'.resolvePotentialLoss id).2.books := by
  obtain ⟨hlifetime, hstatus, hfills⟩ : _ ∧ _ ∧ _ := by simpa [World.books] using h
  unfold World.resolvePotentialLoss
  simp only [LedgerTable.resolve_hit, hstatus]
  by_cases hactive : LedgerTable.status w'.db.potentialLoss id = some true
  · have hactive' : LedgerTable.status w.db.potentialLoss id = some true := hstatus ▸ hactive
    simp only [hactive, Option.getD_some, if_true, World.books,
      LedgerTable.status_resolve _ hactive, LedgerTable.status_resolve _ hactive']
    rw [hlifetime, hstatus, hfills]
    exact ⟨trivial, rfl⟩
  · have hmiss : (LedgerTable.status w'.db.potentialLoss id).getD false = false := by
      rcases hs : LedgerTable.status w'.db.potentialLoss id with _ | _ | _
      · rfl
      · rfl
      · exact absurd hs hactive
    rw [hmiss]
    exact ⟨rfl, h⟩

theorem Fault.apply_books {α : Type} {f f' : World → Except String α × World}
    (hf : ∀ w w', w.books = w'.books → (f w).1 = (f' w').1 ∧ (f w).2.books = (f' w').2.books)
    (fault : Fault) {v : World} (h : w.books = v.books) :
    (fault.apply f w).1 = (fault.apply f' v).1 ∧
      (fault.apply f w).2.books = (fault.apply f' v).2.books := by
  cases fault with
  | none => exact hf w v h
  | failed error => exact ⟨rfl, h⟩
  | lost error => exact ⟨rfl, (hf w v h).2⟩

theorem agree_call_bind {α β : Type} {f f' : World → Except String α × World}
    (hf : ∀ w w', w.books = w'.books → (f w).1 = (f' w').1 ∧ (f w).2.books = (f' w').2.books)
    {g g' : Except String α → Op β} (hg : ∀ r, Routine.Agree World.books (g r) (g' r)) :
    Routine.Agree World.books (call f >>= g) (call f' >>= g') := by
  refine Routine.agree_atomically_bind (fun a w w' h => ?_) fun a w w' h => ?_
  · exact (a.fault.apply_books hf (w := w.advance a) (v := w'.advance a) h).2
  · rw [(a.fault.apply_books hf (w := w.advance a) (v := w'.advance a) h).1]
    exact hg _

theorem agree_writeCall_bind {p p' : Pending} {f f' : World → Except String Unit × World}
    (hf : ∀ w w', w.books = w'.books → (f w).1 = (f' w').1 ∧ (f w).2.books = (f' w').2.books)
    {β : Type} {g g' : Except String Unit → Op β}
    (hg : ∀ r, Routine.Agree World.books (g r) (g' r)) :
    Routine.Agree World.books (writeCall p f >>= g) (writeCall p' f' >>= g') := by
  refine Routine.agree_atomically_bind (fun a w w' h => ?_) fun a w w' h => ?_
  · exact (a.fault.apply_books hf (w := w.advance a) (v := w'.advance a) h).2
  · dsimp only
    rw [(a.fault.apply_books hf (w := w.advance a) (v := w'.advance a) h).1]
    exact hg _

theorem finishFill_inert (image : World.MutableRiskState) (report : PostTradeReport)
    (r : Except String Unit) : (finishFill image report r).Inert World.books :=
  inert_of_within (fun _ => id)
    (finishFill_within common_keepsBooks.toQuiet (fun _ _ => rfl) image report r)

variable (trade : PostTradeInput)

theorem onFill_agree : Routine.Agree World.books (onFill trade) (onFill trade) := by
  have hbegin : ∀ w w' : World, w.books = w'.books →
      (Except.ok (w.db.fillsApplied.contains trade.tradeId) : Except String Bool) =
        .ok (w'.db.fillsApplied.contains trade.tradeId) ∧ w.books = w'.books := by
    intro w w' h
    have hfills : w.db.fillsApplied = w'.db.fillsApplied := congrArg (·.2.2) h
    exact ⟨by rw [hfills], h⟩
  refine agree_call_bind hbegin fun claim => ?_
  rcases claim with e | _ | _
  · have hfail : (failClosed s!"risk fill marker claim failed: {e}" >>= fun _ =>
        (Routine.throw e : Op Unit)).Inert World.books :=
      inert_of_within (fun _ => id) (Routine.within_bind
        (failClosed_within common_keepsBooks.toQuiet _) fun _ => Routine.within_throw e)
    exact .inert hfail hfail
  · refine Routine.agree_atomically_bind (fun _ _ _ h => h) fun a w w' _ => ?_
    refine agree_writeCall_bind (fun _ _ h => commitFill_books h trade _ _) fun r => ?_
    exact .inert (finishFill_inert _ _ r) (finishFill_inert _ _ r)
  · exact .inert (Routine.within_pure ()) (Routine.within_pure ())

theorem World.settlement_books {v : World} (h : w.books = v.books) (trade : PostTradeInput)
    (readings : Readings) : (w.applyTradeResult .settlement trade readings).2.books =
      (v.applyTradeResult .settlement trade readings).2.books := by
  obtain ⟨hlifetime, htables⟩ : _ ∧ _ := Prod.ext_iff.mp h
  refine Prod.ext ?_ htables
  exact congrArg (· + trade.netProfitUsd.getD 0) hlifetime

theorem settled_agree : Routine.Agree World.books
      (sync (fun readings w => w.applyTradeResult .settlement trade readings) >>= fun report =>
        persistAndAudit report.snapshot >>= fun _ => persistPostTradeFollowups report)
      (sync (fun readings w => w.applyTradeResult .settlement trade readings) >>= fun report =>
        persistAndAudit report.snapshot >>= fun _ => persistPostTradeFollowups report) := by
  have hrest : ∀ report : PostTradeReport,
      (persistAndAudit report.snapshot >>= fun _ =>
        persistPostTradeFollowups report).Inert World.books := fun report =>
    inert_of_within (fun _ => id)
      (Routine.within_bind (persistAndAudit_within common_keepsBooks report.snapshot)
        fun _ => persistPostTradeFollowups_within common_keepsBooks.toQuiet report)
  refine Routine.agree_atomically_bind (fun a w w' h => ?_) fun a w w' _ => ?_
  · exact World.settlement_books (w := w.advance a) (v := w'.advance a) h trade a.readings
  · exact .inert (hrest _) (hrest _)

theorem onSettlement_agree :
    Routine.Agree World.books (onSettlement trade) (onSettlement trade) := by
  unfold onSettlement persistSettlementPotentialLoss
  split
  · have hresolve : ∀ w w' : World, w.books = w'.books →
        (w.resolvePotentialLoss trade.tradeId).1 = (w'.resolvePotentialLoss trade.tradeId).1 ∧
          (w.resolvePotentialLoss trade.tradeId).2.books =
            (w'.resolvePotentialLoss trade.tradeId).2.books :=
      fun w w' h => resolvePotentialLoss_books h trade.tradeId
    rw [bind_assoc]
    refine agree_call_bind hresolve fun r => ?_
    cases r with
    | ok => exact settled_agree trade
    | error e =>
      -- the halt ends the settlement
      have hhalt : Routine.Inert World.books
          (orHalt "potential loss resolve failed" (.error e)) :=
        inert_of_within (fun _ => id) (orHalt_within common_keepsBooks.toQuiet _ _)
      exact .inert hhalt hhalt
  · exact settled_agree trade

theorem Call.op_agree (c : Call) : Routine.Agree World.books c.op c.op := by
  have hinert : (∀ effect : Effect, effect.Of c → effect.keepsBooks = true) →
      Routine.Agree World.books c.op c.op := fun h =>
    .inert (inert_of_within h c.op_within) (inert_of_within h c.op_within)
  cases c with
  | fill trade => exact onFill_agree trade
  | settlement trade => exact onSettlement_agree trade
  | _ =>
    refine hinert fun effect heffect => ?_
    cases effect with
    | bump mutation readings =>
      cases mutation with
      | settlement => cases heffect
      | _ => rfl
    | commit => cases heffect
    | resolve => obtain ⟨_, hc, -⟩ := heffect; cases hc
    | _ => rfl

def Reached {κ : Type} [DecidableEq κ] (S : Routine.System κ Answer World String Unit) : Prop :=
  ∃ w calls schedule, S = (start w calls).run schedule

/-- The books after a schedule follow from the books before it: two systems that resume the
routines of a reached one. -/
theorem run_books {κ : Type} [DecidableEq κ] {S T U : Routine.System κ Answer World String Unit}
    (hS : Reached S) (h : T.state.books = U.state.books) {schedule : List (κ × Answer)}
    (hT : ∀ s ∈ schedule, T.routines s.1 = S.routines s.1)
    (hU : ∀ s ∈ schedule, U.routines s.1 = S.routines s.1) :
    (T.run schedule).state.books = (U.run schedule).state.books := by
  refine Routine.System.run_agree h fun s hs => ?_
  rw [hT s hs, hU s hs]
  obtain ⟨w, calls, before, rfl⟩ := hS
  exact Routine.System.run_routines (P := fun _ r => Routine.Agree World.books r r)
    (fun _ _ _ _ hr => (hr.advance _ rfl).2) (fun j => (calls j).op_agree) before s.1

structure SameUpToHalt (now : DateTime) (reason : String) (others e : Engine) : Prop where
  daily : e.daily = others.daily
  weekly : e.weekly = others.weekly
  hourly : e.hourly = others.hourly
  lifetimeRealized : e.lifetimeRealized = others.lifetimeRealized
  potentialLoss : e.potentialLoss = others.potentialLoss
  drawdown : e.drawdown = others.drawdown
  circuitBreaker : e.circuitBreaker = others.circuitBreaker.halt now .system reason

/-- Others have not changed what the image of a fill has, the breaker up to the halt. -/
structure ImageUntouched (now : DateTime) (reason : String) (e others : Engine) : Prop where
  daily : others.daily = e.daily
  weekly : others.weekly = e.weekly
  hourly : others.hourly = e.hourly
  potentialLoss : others.potentialLoss = e.potentialLoss
  drawdown : others.drawdown = e.drawdown
  circuitBreaker :
    others.circuitBreaker.halt now .system reason = e.circuitBreaker.halt now .system reason

section Interleaved

variable {κ : Type} [DecidableEq κ] {S : Routine.System κ Answer World String Unit} {j : κ}
variable {trade : PostTradeInput}

theorem resume_claimedFill (hfill : S.routines j = claimedFill trade) (applied : Answer) :
    (S.resume (j, applied)).state = (S.state.fillStep trade applied).2 ∧
      (S.resume (j, applied)).routines j =
        (writeCall (S.state.fillStep trade applied).1.2.snapshot
            (·.commitFill trade (S.state.fillStep trade applied).1.2.snapshot) >>=
          finishFill S.state.captureMutableState (S.state.fillStep trade applied).1.2) := by
  unfold Routine.System.resume
  dsimp only
  rw [hfill, Function.update_self]
  exact ⟨rfl, rfl⟩

theorem resume_failed_commit {image : World.MutableRiskState} {report : PostTradeReport}
    (hcommit : S.routines j =
      (writeCall report.snapshot (·.commitFill trade report.snapshot) >>= finishFill image report))
    {commit : Answer} {e : String}
    (hfail : (S.state.commitCall trade report.snapshot commit).1 = .error e) (undone : Answer) :
    ((S.resume (j, commit)).resume (j, undone)).state =
      (((S.state.commitCall trade report.snapshot commit).2.drop report.snapshot.ticket).advance
        undone).rollbackFill image s!"risk fill commit failed: {e}" := by
  have hstep : (S.resume (j, commit)).state =
      (S.state.commitCall trade report.snapshot commit).2.drop report.snapshot.ticket ∧
      (S.resume (j, commit)).routines j = finishFill image report (.error e) := by
    unfold Routine.System.resume
    dsimp only
    rw [hcommit, Function.update_self, ← hfail]
    exact ⟨rfl, rfl⟩
  unfold Routine.System.resume at hstep ⊢
  dsimp only at hstep ⊢
  rw [hstep.1, hstep.2]
  rfl

/-- The engine after a fill has been rolled back: the image that was taken before its section,
halted, with the lifetime total that others have made. -/
theorem rollback_engine (hfill : S.routines j = claimedFill trade) {gap : List (κ × Answer)}
    (hgap : ∀ s ∈ gap, s.1 ≠ j) {applied commit : Answer} {e : String}
    (hfail : (((S.resume (j, applied)).run gap).state.commitCall trade
      (S.state.fillStep trade applied).1.2.snapshot commit).1 = .error e) (undone : Answer) :
    let met := (S.resume (j, applied)).run gap
    let final := ((met.resume (j, commit)).resume (j, undone)).state
    final.engine.lifetimeRealized = met.state.engine.lifetimeRealized ∧
      final.captureMutableState =
        { S.state.captureMutableState with
          circuitBreaker := S.state.engine.circuitBreaker.halt final.clock .system
            s!"risk fill commit failed: {e}" } := by
  intro met final
  obtain ⟨-, hroutine⟩ := resume_claimedFill hfill applied
  have hmet : met.routines j = _ := (Routine.System.run_routines_of_ne _ hgap).trans hroutine
  have hfinal : final = _ := resume_failed_commit hmet hfail undone
  have hlifetime := congrArg Engine.lifetimeRealized (met.state.commitCall_engine trade
    (S.state.fillStep trade applied).1.2.snapshot commit)
  rw [hfinal]
  exact ⟨hlifetime, rfl⟩

end Interleaved

/-- A fill is rolled back after others have run during its commit. Their work is still there
exactly when, run without the fill, they change nothing that is put back. -/
theorem rollback_keeps_others_iff {κ : Type} [DecidableEq κ]
    {S : Routine.System κ Answer World String Unit} (hS : Reached S) {j : κ}
    {trade : PostTradeInput} (hfill : S.routines j = claimedFill trade)
    {gap : List (κ × Answer)} (hgap : ∀ s ∈ gap, s.1 ≠ j) {applied commit : Answer} {e : String}
    (hfail : (((S.resume (j, applied)).run gap).state.commitCall trade
      (S.state.fillStep trade applied).1.2.snapshot commit).1 = .error e) (undone : Answer) :
    let others := (Routine.System.run { S with state := S.state.advance applied } gap).state
    let final := ((((S.resume (j, applied)).run gap).resume (j, commit)).resume (j, undone)).state
    SameUpToHalt final.clock s!"risk fill commit failed: {e}" others.engine final.engine ↔
      ImageUntouched final.clock s!"risk fill commit failed: {e}" S.state.engine
        others.engine := by
  intro others final
  obtain ⟨hlifetime, himage⟩ := rollback_engine hfill hgap hfail undone
  change final.engine.lifetimeRealized = _ at hlifetime
  change final.captureMutableState = _ at himage
  simp only [World.captureMutableState, World.MutableRiskState.mk.injEq] at himage
  obtain ⟨hbreaker, hdaily, hweekly, hhourly, hledger, hdrawdown, -⟩ := himage
  have hothers : final.engine.lifetimeRealized = others.engine.lifetimeRealized := by
    have hstart : (S.resume (j, applied)).state.books = (S.state.advance applied).books := by
      rw [(resume_claimedFill hfill applied).1]
      rfl
    have hsame : ∀ s ∈ gap, (S.resume (j, applied)).routines s.1 = S.routines s.1 :=
      fun s hs => Function.update_of_ne (hgap s hs) _ _
    have hbooks := run_books hS (U := { S with state := S.state.advance applied }) hstart hsame
      fun _ _ => rfl
    exact hlifetime.trans (congrArg Prod.fst hbooks)
  constructor
  · intro h
    exact
      { daily := h.daily.symm.trans hdaily
        weekly := h.weekly.symm.trans hweekly
        hourly := h.hourly.symm.trans hhourly
        potentialLoss := h.potentialLoss.symm.trans hledger
        drawdown := h.drawdown.symm.trans hdrawdown
        circuitBreaker := h.circuitBreaker.symm.trans hbreaker }
  · intro h
    exact
      { daily := hdaily.trans h.daily.symm
        weekly := hweekly.trans h.weekly.symm
        hourly := hhourly.trans h.hourly.symm
        lifetimeRealized := hothers
        potentialLoss := hledger.trans h.potentialLoss.symm
        drawdown := hdrawdown.trans h.drawdown.symm
        circuitBreaker := hbreaker.trans h.circuitBreaker.symm }

/-- The settlement of `lostPosition` runs while the commit of another fill is on its way and
then fails. Its loss is gone from the windows, and the settled position counts as a potential
loss again. -/
theorem settlement_lost_by_rollback :
    let w := World.first.perform (.fill lostPosition, [])
    let S := (start w fun settles => if settles then .settlement lostPosition
      else .fill missedTrade).run [(false, default)]
    let gap := List.replicate 4 (true, default)
    let others := (Routine.System.run { S with state := S.state.advance default } gap).state
    let final := ((((S.resume (false, default)).run gap).resume
      (false, .timed 0 (.failed "connection lost"))).resume (false, default)).state
    others.engine.daily.stats.loss = 20 ∧ others.engine.potentialLoss.runningTotal = 0 ∧
      final.engine.daily.stats.loss = 0 ∧ final.engine.potentialLoss.runningTotal = 20 ∧
      ∀ now reason, ¬ SameUpToHalt now reason others.engine final.engine := by
  intro w S gap others final
  have hloss : others.engine.daily.stats.loss = 20 ∧ final.engine.daily.stats.loss = 0 := by
    decide +kernel
  have htotal : others.engine.potentialLoss.runningTotal = 0 ∧
      final.engine.potentialLoss.runningTotal = 20 := by
    decide +kernel
  refine ⟨hloss.1, htotal.1, hloss.2, htotal.2, fun now reason h => ?_⟩
  have hdaily := congrArg (·.stats.loss) h.daily
  simp only [hloss.1, hloss.2] at hdaily
  norm_num at hdaily

/-- A change of the blacklist during the commit survives the rollback. -/
theorem blacklist_kept_by_rollback :
    let S := (start World.first fun lists => if lists then .addBlacklist ⟨"market-2"⟩ .manual
      else .fill missedTrade).run [(false, default)]
    let gap := [(true, default), (true, default)]
    let others := (Routine.System.run { S with state := S.state.advance default } gap).state
    let error := "connection lost"
    let final := ((((S.resume (false, default)).run gap).resume
      (false, .timed 0 (.failed error))).resume (false, default)).state
    SameUpToHalt final.clock s!"risk fill commit failed: {error}" others.engine final.engine :=
  (rollback_keeps_others_iff ⟨World.first, _, _, rfl⟩ rfl (by decide)
    (show _ = Except.error "connection lost" from rfl) default).mpr
    ⟨rfl, rfl, rfl, rfl, rfl, rfl⟩

end OxideArb.Risk
