import Mathlib.Logic.Relation
import OxideArb.Trade.Repository

/-!
# The life of a trade row

What one call does to a row is said once (`TradeOp.row_cases`). The graph in the documentation of
`TradeState` ends at `Orphaned`; the edges out of it are `reconciles`.
-/

namespace OxideArb

namespace TradeState

def documented : TradeState → TradeState → Bool
  | .intent, .submitted => true
  | .submitted, .fillObserved => true
  | .submitted, .missObserved => true
  | .submitted, .failObserved => true
  | .fillObserved, .fillProcessing => true
  | .missObserved, .missProcessing => true
  | .failObserved, .failProcessing => true
  | .fillProcessing, .settled => true
  | .missProcessing, .missed => true
  | .failProcessing, .failed => true
  | .submitted, .orphaned => true
  | _, _ => false

def reconciles : TradeState → TradeState → Bool
  | .orphaned, .fillObserved => true
  | .orphaned, .missObserved => true
  | .orphaned, .failObserved => true
  | .orphaned, .failed => true
  | _, _ => false

def isTerminal : TradeState → Bool
  | .settled => true
  | .missed => true
  | .failed => true
  | _ => false

def Moves (a b : TradeState) : Prop := a.documented b = true ∨ a.reconciles b = true

variable {a b : TradeState} {o : TradeBusinessOutcome}

theorem Moves.not_terminal (h : a.Moves b) : a.isTerminal = false := by
  cases a <;> first | rfl | (cases b <;> rcases h with h | h <;> cases h)

theorem Moves.outcome (h : a.Moves b) (ho : a.businessOutcome = some o) :
    b.businessOutcome = some o := by
  cases a <;> cases ho <;> cases b <;> rcases h with h | h <;> first | rfl | cases h

theorem moves_of_unprocessed (h : a.isUnprocessed = true) :
    submitted.Moves a ∧ orphaned.Moves a := by
  cases a <;> first | exact ⟨.inl rfl, .inr rfl⟩ | cases h

theorem moves_claimed (a : TradeState) : a.claimed = a ∨ a.Moves a.claimed := by
  cases a <;> first | exact .inl rfl | exact .inr (.inl rfl)

theorem claimed_outcome (a : TradeState) : a.claimed.businessOutcome = a.businessOutcome := by
  cases a <;> rfl

theorem moves_processedTerminal (h : a.isProcessing = true) (hb : a.processedTerminal = some b) :
    a.Moves b := by
  cases a <;> cases h <;> cases hb <;> exact .inl rfl

theorem eq_of_terminal (h : Relation.ReflTransGen Moves a b) (ha : a.isTerminal = true) :
    b = a := by
  induction h with
  | refl => rfl
  | tail _ hmove ih =>
    subst ih
    rw [hmove.not_terminal] at ha
    cases ha

theorem outcome_of_moves (h : Relation.ReflTransGen Moves a b) (ho : a.businessOutcome = some o) :
    b.businessOutcome = some o := by
  induction h with
  | refl => exact ho
  | tail _ hmove ih => exact hmove.outcome ih

end TradeState

theorem TradeWrite.set_reservationId (w : TradeWrite) (row : TradeInfo) :
    (w.set row).reservationId = row.reservationId := by
  cases w <;> rfl

/-- A call of the repository that writes: to one row, or the relay's claim. -/
inductive TradeOp
  | write (w : TradeWrite)
  | claimUnprocessed (limit : Nat) (locked : List TradeId) (owner : String)
      (claimedAt leaseExpiredBefore : DateTime)
deriving DecidableEq, Repr

namespace TradeOp

variable (db : TradeDb)

def apply : TradeOp → TradeDb
  | .write w => TradeWrite.apply db w
  | .claimUnprocessed limit locked owner claimedAt leaseExpiredBefore =>
    (TradeDb.claimUnprocessed db limit locked owner claimedAt leaseExpiredBefore).2

/-- What the callers ask for: the relay moves a row it has claimed to the terminal state
of the state it read, the other calls have any arguments. -/
def Issued : TradeOp → Prop
  | .write (.advanceState _ source target) =>
    source.isProcessing = true ∧ source.processedTerminal = some target
  | _ => True

def run (ops : List TradeOp) : TradeDb := ops.foldl apply .empty

variable {id : TradeId} {row : TradeInfo}

/-- What a call makes of a row: nothing, what the write sets, or a claimed row. -/
theorem row_cases (op : TradeOp) (hrow : db.get id = some row) :
    ∃ row', (op.apply db).get id = some row' ∧
      (row' = row ∨
        (∃ w, op = .write w ∧ w.tradeId = id ∧ w.accepts row = true ∧ row' = w.set row) ∨
        ∃ limit locked owner claimedAt lease,
          op = .claimUnprocessed limit locked owner claimedAt lease ∧
            TradeDb.claimableCondition lease row = true ∧
            row' = TradeDb.claimInto row.state.claimed owner claimedAt row) := by
  have hid : row.tradeId = id := (db.get_eq_some_iff.mp hrow).2
  cases op with
  | write w =>
    refine ⟨_, by rw [apply, TradeWrite.get_apply, hrow], ?_⟩
    split
    next hhit =>
      rw [Bool.and_eq_true, decide_eq_true_eq, hid] at hhit
      exact .inr (.inl ⟨w, rfl, hhit.1.symm, hhit.2, rfl⟩)
    next => exact .inl rfl
  | claimUnprocessed limit locked owner claimedAt lease =>
    refine ⟨_, by rw [apply, TradeDb.get_claimUnprocessed, hrow, Option.map_some], ?_⟩
    split
    next hsel =>
      exact .inr (.inr ⟨limit, locked, owner, claimedAt, lease, rfl,
        (TradeDb.mem_claimable hsel).2, rfl⟩)
    next => exact .inl rfl

theorem row_new (op : TradeOp) (hnone : db.get id = none) (hrow : (op.apply db).get id = some row) :
    ∃ new : NewTrade, op = .write (.create new) ∧ new.tradeId = id ∧ row = new.toRow := by
  cases op with
  | write w =>
    rw [apply, TradeWrite.get_apply, hnone] at hrow
    cases w with
    | create new =>
      simp only [TradeWrite.inserts, Option.filter_eq_some_iff, decide_eq_true_eq] at hrow
      obtain ⟨hrow, hid⟩ := hrow
      cases hrow
      exact ⟨new, rfl, hid, rfl⟩
    | _ => cases hrow
  | claimUnprocessed limit locked owner claimedAt lease =>
    rw [apply, TradeDb.get_claimUnprocessed, hnone] at hrow
    cases hrow

theorem apply_ids (op : TradeOp) (hrow : db.get id = some row) :
    ∃ row', (op.apply db).get id = some row' ∧ row'.reservationId = row.reservationId := by
  obtain ⟨row', hrow', rfl | ⟨w, -, -, -, rfl⟩ | ⟨_, _, _, _, _, -, -, rfl⟩⟩ :=
    row_cases db op hrow
  · exact ⟨row', hrow', rfl⟩
  · exact ⟨_, hrow', w.set_reservationId row⟩
  · exact ⟨_, hrow', rfl⟩

end TradeOp

/-! ## Consistent columns -/

/-- The columns that follow the state. -/
structure TradeInfo.Consistent (row : TradeInfo) : Prop where
  outcome : row.businessOutcome = row.state.businessOutcome
  reconcile : row.needsReconcile = true → row.state = .orphaned

theorem NewTrade.consistent (new : NewTrade) : new.toRow.Consistent := ⟨rfl, nofun⟩

namespace TradeInfo.Consistent

variable {row : TradeInfo}

theorem not_flagged (h : row.Consistent) (hstate : row.state ≠ .orphaned) :
    row.needsReconcile = false := by
  by_contra hflag
  exact hstate (h.reconcile (Bool.not_eq_false _ ▸ hflag))

theorem moved (h : row.Consistent) (hstate : row.state ≠ .orphaned) {row' : TradeInfo}
    (houtcome : row'.businessOutcome = row'.state.businessOutcome)
    (hflag : row'.needsReconcile = row.needsReconcile) : row'.Consistent := by
  refine ⟨houtcome, fun hf => ?_⟩
  rw [hflag, h.not_flagged hstate] at hf
  cases hf

end TradeInfo.Consistent

variable {row : TradeInfo} {db : TradeDb} {ops : List TradeOp}

theorem TradeWrite.set_step {w : TradeWrite} (hissued : (TradeOp.write w).Issued)
    (hrow : row.Consistent) (haccepts : w.accepts row = true) : (w.set row).Consistent ∧
      ((w.set row).state = row.state ∨ row.state.Moves (w.set row).state) := by
  cases w with
  | create new => cases haccepts
  | markSubmitted tid ts =>
    have hstate : row.state = .intent := of_decide_eq_true haccepts
    refine ⟨hrow.moved (by simp [hstate]) ?_ rfl, .inr ?_⟩
    · change row.businessOutcome = _
      rw [hrow.outcome, hstate]
      rfl
    · rw [hstate]
      exact .inl rfl
  | setPreSubmitCtfBalance tid balance => exact ⟨⟨hrow.outcome, hrow.reconcile⟩, .inl rfl⟩
  | markObserved tid obs =>
    rw [accepts, Bool.and_eq_true, decide_eq_true_eq] at haccepts
    refine ⟨hrow.moved (by simp [haccepts.2]) rfl rfl, .inr ?_⟩
    rw [haccepts.2]
    exact (TradeState.moves_of_unprocessed haccepts.1).1
  | markOrphaned tid =>
    have hstate : row.state = .submitted := of_decide_eq_true haccepts
    refine ⟨⟨rfl, fun _ => rfl⟩, .inr ?_⟩
    rw [hstate]
    exact .inl rfl
  | markReconciledObserved tid obs resolution note ts =>
    simp only [accepts, TradeDb.pendingReconcile, Bool.and_eq_true, decide_eq_true_eq] at haccepts
    refine ⟨⟨rfl, fun h => by cases h⟩, .inr ?_⟩
    rw [haccepts.2.1.1]
    exact (TradeState.moves_of_unprocessed haccepts.1).2
  | recordReconcileDefer tid deferUntil note => exact ⟨⟨hrow.outcome, hrow.reconcile⟩, .inl rfl⟩
  | closeUnresolvableTerminal tid note operator ts =>
    simp only [accepts, TradeDb.pendingReconcile, Bool.and_eq_true, decide_eq_true_eq] at haccepts
    refine ⟨⟨rfl, fun h => by cases h⟩, .inr ?_⟩
    rw [haccepts.1.1]
    exact .inr rfl
  | advanceState tid source target =>
    obtain rfl : row.state = source := of_decide_eq_true haccepts
    refine ⟨hrow.moved ?_ rfl rfl, .inr (TradeState.moves_processedTerminal hissued.1 hissued.2)⟩
    intro horphaned
    rw [horphaned] at hissued
    cases hissued.1
  | markReconciled tid resolution note ts => exact ⟨⟨hrow.outcome, hrow.reconcile⟩, .inl rfl⟩

theorem TradeDb.claim_step {lease : DateTime} (hrow : row.Consistent)
    (hclaim : claimableCondition lease row = true) (owner : String) (claimedAt : DateTime) :
    (claimInto row.state.claimed owner claimedAt row).Consistent ∧
      (row.state.claimed = row.state ∨ row.state.Moves row.state.claimed) := by
  have hstate := claimable_state hclaim
  refine ⟨hrow.moved ?_ (hrow.outcome.trans (TradeState.claimed_outcome _).symm) rfl,
    TradeState.moves_claimed _⟩
  intro horphaned
  rw [horphaned] at hstate
  rcases hstate with h | h <;> cases h

theorem TradeOp.row_step (db : TradeDb) {op : TradeOp} (hissued : op.Issued) {id : TradeId}
    (hrow : db.get id = some row) (hcons : row.Consistent) :
    ∃ row', (op.apply db).get id = some row' ∧ row'.Consistent ∧
      (row'.state = row.state ∨ row.state.Moves row'.state) := by
  obtain ⟨row', hrow', rfl | ⟨w, rfl, -, haccepts, rfl⟩ |
    ⟨_, _, owner, claimedAt, _, rfl, hclaim, rfl⟩⟩ := row_cases db op hrow
  · exact ⟨row', hrow', hcons, .inl rfl⟩
  · exact ⟨_, hrow', TradeWrite.set_step hissued hcons haccepts⟩
  · exact ⟨_, hrow', TradeDb.claim_step hcons hclaim owner claimedAt⟩

/-! ## Sequences of calls -/

def TradeDb.Consistent (db : TradeDb) : Prop := ∀ id row, db.get id = some row → row.Consistent

theorem TradeOp.consistent_apply {op : TradeOp} (hissued : op.Issued) (h : db.Consistent) :
    TradeDb.Consistent (op.apply db) := by
  intro id row' hrow'
  cases hget : db.get id with
  | none =>
    obtain ⟨new, -, -, rfl⟩ := row_new db op hget hrow'
    exact new.consistent
  | some row =>
    obtain ⟨row'', hrow'', hcons, -⟩ := row_step db hissued hget (h id row hget)
    cases hrow''.symm.trans hrow'
    exact hcons

theorem TradeOp.consistent_foldl (hissued : ∀ op ∈ ops, op.Issued) (h : db.Consistent) :
    TradeDb.Consistent (ops.foldl apply db) :=
  List.foldlRecOn ops apply h fun _ hdb op hop => consistent_apply (hissued op hop) hdb

theorem TradeOp.row_foldl (hissued : ∀ op ∈ ops, op.Issued) {id : TradeId}
    (hrow : db.get id = some row) (hcons : row.Consistent) :
    ∃ row', (ops.foldl apply db).get id = some row' ∧ row'.Consistent ∧
      Relation.ReflTransGen TradeState.Moves row.state row'.state := by
  induction ops generalizing db row with
  | nil => exact ⟨row, hrow, hcons, .refl⟩
  | cons op ops ih =>
    obtain ⟨next, hnext, hcons', hmove⟩ :=
      row_step db (hissued op List.mem_cons_self) hrow hcons
    obtain ⟨row', hrow', hlast, hpath⟩ :=
      ih (fun o ho => hissued o (List.mem_cons_of_mem _ ho)) hnext hcons'
    refine ⟨row', hrow', hlast, ?_⟩
    rcases hmove with hsame | hmove
    · rw [← hsame]
      exact hpath
    · exact hpath.head hmove

theorem TradeOp.consistent_run (hissued : ∀ op ∈ ops, op.Issued) : TradeDb.Consistent (run ops) :=
  consistent_foldl hissued fun _ _ hrow => by
    rw [Table.get_empty] at hrow
    cases hrow

/-- In every sequence of the callers' calls a row's outcome and flag follow its state;
the next call moves the state along a documented edge or resolves an orphan; and
whatever else is called, a terminal state is never left and a recorded outcome never
changed. -/
theorem trade_rows_follow_lifecycle {ops later : List TradeOp}
    (hissued : ∀ op ∈ ops ++ later, op.Issued) {id : TradeId} {row : TradeInfo}
    (hrow : (TradeOp.run ops).get id = some row) :
    row.businessOutcome = row.state.businessOutcome ∧
    (row.needsReconcile = true → row.state = .orphaned) ∧
    (∀ op : TradeOp, op.Issued → ∃ row', (op.apply (TradeOp.run ops)).get id = some row' ∧
      (row'.state ≠ row.state →
        row.state.documented row'.state = true ∨ row.state.reconciles row'.state = true)) ∧
    ∃ row', (TradeOp.run (ops ++ later)).get id = some row' ∧
      (row.state.isTerminal = true → row'.state = row.state) ∧
      ∀ o, row.businessOutcome = some o → row'.businessOutcome = some o := by
  rw [List.forall_mem_append] at hissued
  have hcons := TradeOp.consistent_run hissued.1 id row hrow
  refine ⟨hcons.outcome, hcons.reconcile, fun op hop => ?_, ?_⟩
  · obtain ⟨row', hrow', -, hmove⟩ := TradeOp.row_step _ hop hrow hcons
    exact ⟨row', hrow', fun hne => hmove.resolve_left hne⟩
  · obtain ⟨row', hrow', hcons', hpath⟩ := TradeOp.row_foldl hissued.2 hrow hcons
    refine ⟨row', ?_, TradeState.eq_of_terminal hpath, fun o ho => ?_⟩
    · rw [TradeOp.run, List.foldl_append]
      exact hrow'
    · rw [hcons.outcome] at ho
      rw [hcons'.outcome]
      exact TradeState.outcome_of_moves hpath ho

def sampleNewTrade : NewTrade :=
  { tradeId := ⟨1⟩, reservationId := ⟨"r"⟩, marketId := ⟨"m"⟩, tokenId := ⟨"yes"⟩, side := .buy
    shares := 10, price := 97 / 100, costUsd := 97 / 10, feeUsd := 0
    resolutionProb := some (99 / 100), category := .sports, executionMode := .live }

def sampleFillObservation : TradeObservation :=
  { state := .fillObserved, shares := 10, price := 97 / 100, costUsd := 97 / 10, feeUsd := 0
    orderId := none, txHash := none, netProfitUsd := none, errorMessage := none, confirmedAt := 1 }

/-- A trade is submitted, filled, claimed by the relay and settled. -/
theorem filled_trade_follows_lifecycle :
    let ops : List TradeOp :=
      [.write (.create sampleNewTrade), .write (.markSubmitted ⟨1⟩ 0),
        .write (.markObserved ⟨1⟩ sampleFillObservation)]
    let later : List TradeOp :=
      [.claimUnprocessed 10 [] "relay" 2 0,
        .write (.advanceState ⟨1⟩ .fillProcessing .settled)]
    ((TradeOp.run ops).get ⟨1⟩).map (·.state) = some .fillObserved ∧
      ∃ row', (TradeOp.run (ops ++ later)).get ⟨1⟩ = some row' ∧
        row'.businessOutcome = some .success := by
  intro ops later
  have hstate : ((TradeOp.run ops).get ⟨1⟩).map (·.state) = some .fillObserved := by
    decide +kernel
  obtain ⟨row, hrow, hfill⟩ := Option.map_eq_some_iff.mp hstate
  have hissued : ∀ op ∈ ops ++ later, op.Issued := by
    simp [ops, later, TradeOp.Issued, TradeState.isProcessing, TradeState.processedTerminal]
  obtain ⟨houtcome, -, -, row', hrow', -, hkept⟩ := trade_rows_follow_lifecycle hissued hrow
  refine ⟨hstate, row', hrow', hkept .success ?_⟩
  rw [houtcome, hfill]
  rfl

/-- A fill found for an orphaned trade moves the row from `Orphaned` to `FillObserved`,
which the documented graph does not have. -/
theorem orphan_leaves_documented_graph :
    let ops : List TradeOp :=
      [.write (.create sampleNewTrade), .write (.markSubmitted ⟨1⟩ 0), .write (.markOrphaned ⟨1⟩)]
    let resolve : TradeOp := .write (.markReconciledObserved ⟨1⟩ sampleFillObservation .filled "L1" 9)
    (∀ op ∈ resolve :: ops, op.Issued) ∧
      ((TradeOp.run ops).get ⟨1⟩).map (·.state) = some .orphaned ∧
      ((resolve.apply (TradeOp.run ops)).get ⟨1⟩).map (·.state) = some .fillObserved ∧
      TradeState.documented .orphaned .fillObserved = false := by
  refine ⟨by simp [TradeOp.Issued], by decide +kernel, by decide +kernel, rfl⟩

end OxideArb
