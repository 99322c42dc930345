import OxideArb.Execution.PreSubmit
import OxideArb.Trade.Lifecycle

/-!
# Rows of executions that end before dispatch

An execution that fails between the insert of its row and the dispatch leaves the row in
`Intent`. Admission counts that row, and only the execution's own submit marker moves it on.
-/

namespace OxideArb

namespace PreSubmit

open TradeDb (blockingAdmissionFilter claimableCondition pendingReconcile reconcilable
  staleSubmitted)

/-- Some operation accepts the row, now or at a later time: the relay's claim, the scan for
stale orders, the reconciliation, or the operator's close. -/
def Movable (row : TradeInfo) : Prop :=
  (∃ leaseExpiredBefore, claimableCondition leaseExpiredBefore row = true) ∨
    (∃ olderThan, staleSubmitted olderThan row = true) ∨
    (∃ now, reconcilable now row = true) ∨ pendingReconcile row = true

def Env.captureFails {id : TradeId} (env : Env id) : Bool :=
  env.mode = .live &&
    match env.ctfRedeem with
    | none => false
    | some (.ok _) => env.setBalanceError.isSome
    | some (.error _) => true

/-- What may reach the table after the execution has returned: the calls of the other tasks,
the balance that was still on its way, and the submit marker if its call was made and came
back with an error. No task calls `mark_reconciled`. -/
def Later {id : TradeId} (env : Env id) : TradeOp → Prop
  | .write (.markSubmitted tid submittedAt) =>
    tid = id →
      submittedAt = env.now ∧ env.captureFails = false ∧ env.markSubmittedError.isSome
  | .write (.markReconciled tid _ _ _) => tid ≠ id
  | op => op.Issued

/-! ## The row at the end of the execution -/

variable (new : NewTrade)

theorem not_accepts_new {w : TradeWrite}
    (hmark : ∀ submittedAt, w ≠ .markSubmitted new.tradeId submittedAt)
    (hadvance : ∀ source target, w = .advanceState new.tradeId source target →
      source.isProcessing = true) (hid : w.tradeId = new.tradeId) :
    w.accepts new.toRow = false := by
  cases w with
  | create _ => rfl
  | markSubmitted tid submittedAt => exact absurd (by rw [← hid]; rfl) (hmark submittedAt)
  | setPreSubmitCtfBalance tid balance => rfl
  | markObserved tid obs => simp [TradeWrite.accepts, NewTrade.toRow]
  | markOrphaned tid => rfl
  | markReconciledObserved tid obs resolution note ts =>
    simp [TradeWrite.accepts, TradeDb.pendingReconcile, NewTrade.toRow]
  | recordReconcileDefer tid deferUntil note => rfl
  | closeUnresolvableTerminal tid note operator ts => rfl
  | advanceState tid source target =>
    have hsource := hadvance source target (by rw [← hid]; rfl)
    refine decide_eq_false ?_
    rintro rfl
    cases hsource
  | markReconciled tid resolution note ts => rfl

theorem get_apply_new {new : NewTrade} {db : TradeDb} (hrow : db.get new.tradeId = some new.toRow)
    {w : TradeWrite} (h : w.tradeId = new.tradeId → w.accepts new.toRow = false) :
    (TradeWrite.apply db w).get new.tradeId = some new.toRow := by
  rw [TradeWrite.get_apply, hrow]
  refine congrArg some (if_neg ?_)
  rw [Bool.and_eq_true, decide_eq_true_eq]
  rintro ⟨hid, haccepts⟩
  rw [h hid.symm] at haccepts
  cases haccepts

theorem OtherWrites.get_run {new : NewTrade} (o : OtherWrites new.tradeId) {db : TradeDb}
    (hrow : db.get new.tradeId = some new.toRow) :
    (o.run db).get new.tradeId = some new.toRow := by
  refine List.foldlRecOn o.writes TradeWrite.apply
    (motive := fun db => db.get new.tradeId = some new.toRow) hrow fun _ hdb w hw => ?_
  refine get_apply_new hdb (not_accepts_new new ?_ ?_)
  · rintro submittedAt rfl
    exact o.foreign _ hw rfl
  · rintro source target rfl
    exact ((o.foreign _ hw).resolve_left (· rfl)).1

theorem capture_new {new : NewTrade} (env : Env new.tradeId) {db : TradeDb}
    (hrow : db.get new.tradeId = some new.toRow) :
    (capturePreSubmitCtfBalance env db).2.get new.tradeId = some new.toRow := by
  unfold capturePreSubmitCtfBalance
  split
  · exact hrow
  · split
    · exact hrow
    · exact get_apply_new (w := .setPreSubmitCtfBalance new.tradeId _) hrow fun _ => rfl
  · exact hrow

theorem mark_new {new : NewTrade} {env : Env new.tradeId} {db db' : TradeDb} {abort : Abort}
    (hrow : db.get new.tradeId = some new.toRow)
    (h : markSubmittedOrAbort env db = (.error abort, db')) : db' = db := by
  have hhit : (TradeDb.markSubmitted db new.tradeId env.now).1 = true := by
    rw [TradeDb.markSubmitted, Table.updateKey_hit, hrow]
    rfl
  unfold markSubmittedOrAbort at h
  split at h
  · exact (Prod.mk.inj h).2.symm
  · split at h
    · cases (Prod.mk.inj h).1
    next hmiss =>
      rw [hmiss] at hhit
      cases hhit

theorem persist_new {new : NewTrade} {env : Env new.tradeId} {db db' : TradeDb} {abort : Abort}
    (hrow : db.get new.tradeId = some new.toRow)
    (h : persistPreSubmitState env db = (.error abort, db')) :
    db'.get new.tradeId = some new.toRow := by
  have hcaptured : (if env.mode = .live then capturePreSubmitCtfBalance env db
      else ((.ok (), db) : Except Abort Unit × TradeDb)).2.get new.tradeId =
        some new.toRow := by
    split
    · exact capture_new env hrow
    · exact hrow
  unfold persistPreSubmitState at h
  simp only at h
  split at h
  next heq =>
    rw [heq] at hcaptured
    rw [← (Prod.mk.inj h).2]
    exact hcaptured
  next heq =>
    rw [heq] at hcaptured
    have hsame := env.afterBalance.get_run hcaptured
    rw [mark_new hsame h]
    exact hsame

theorem abort_leaves_new {new : NewTrade} {env : Env new.tradeId} {db db₁ db' : TradeDb}
    {abort : Abort} (hinserted : TradeDb.create db new = some db₁)
    (habort : executeToDispatch new env db = (.error abort, db')) :
    db'.get new.tradeId = some new.toRow := by
  unfold executeToDispatch at habort
  rw [hinserted] at habort
  simp only at habort
  split at habort
  next heq =>
    rw [← (Prod.mk.inj habort).2]
    exact persist_new (env.afterCreate.get_run (Table.get_insert hinserted)) heq
  next => cases (Prod.mk.inj habort).1

/-! ## The row from then on -/

/-- A row that the stale scan, the reconciliation and the operator take on from `Submitted`,
or one that has left the states that block. -/
def Onward (row : TradeInfo) : Prop :=
  (row.state = .submitted ∧ row.submittedAt.isSome ∧ row.needsReconcile = false ∧
      row.reconcileResolution = none) ∨
    pendingReconcile row = true ∨ blockingAdmissionFilter row = false

theorem Onward.movable {row : TradeInfo} (h : Onward row)
    (hblocks : blockingAdmissionFilter row = true) : Movable row := by
  rcases h with ⟨hstate, hsubmitted, -, -⟩ | hpending | hfree
  · obtain ⟨submittedAt, hat⟩ := Option.isSome_iff_exists.mp hsubmitted
    refine .inr (.inl ⟨submittedAt + 1, ?_⟩)
    simp [staleSubmitted, hstate, hat]
  · exact .inr (.inr (.inr hpending))
  · rw [hfree] at hblocks
    cases hblocks

theorem blocking_eq_false {row : TradeInfo} :
    blockingAdmissionFilter row = false ↔
      row.state.businessOutcome.isSome ∧ row.needsReconcile = false := by
  cases hstate : row.state <;> simp [blockingAdmissionFilter, hstate, TradeState.businessOutcome]

theorem outcome_of_observed {state : TradeState}
    (h : state.isUnprocessed = true ∨ state.isProcessing = true) :
    state.businessOutcome.isSome := by
  cases state <;> first | rfl | (rcases h with h | h <;> cases h)

theorem Onward.state_ne_intent {row : TradeInfo} (h : Onward row) : row.state ≠ .intent := by
  rcases h with ⟨hstate, -⟩ | hpending | hfree
  · simp [hstate]
  · simp only [pendingReconcile, Bool.and_eq_true, decide_eq_true_eq] at hpending
    simp [hpending.1.1]
  · intro hstate
    simp [blocking_eq_false, hstate, TradeState.businessOutcome] at hfree

theorem Onward.of_submitted {row : TradeInfo} (h : Onward row) (hstate : row.state = .submitted) :
    row.needsReconcile = false ∧ row.reconcileResolution = none := by
  rcases h with ⟨-, -, hflag, hnone⟩ | hpending | hfree
  · exact ⟨hflag, hnone⟩
  · simp [pendingReconcile, hstate] at hpending
  · simp [blocking_eq_false, hstate, TradeState.businessOutcome] at hfree

theorem Onward.of_outcome {row : TradeInfo} (h : Onward row)
    (houtcome : row.state.businessOutcome.isSome) : row.needsReconcile = false := by
  rcases h with ⟨-, -, hflag, -⟩ | hpending | hfree
  · exact hflag
  · simp only [pendingReconcile, Bool.and_eq_true, decide_eq_true_eq] at hpending
    rw [hpending.1.1] at houtcome
    cases houtcome
  · exact (blocking_eq_false.mp hfree).2

theorem Onward.set {row : TradeInfo} (h : Onward row) {w : TradeWrite}
    (hissued : (TradeOp.write w).Issued)
    (hreconciled : ∀ tid resolution note ts, w ≠ .markReconciled tid resolution note ts)
    (haccepts : w.accepts row = true) : Onward (w.set row) := by
  cases w with
  | create new => cases haccepts
  | markSubmitted tid ts => exact absurd (of_decide_eq_true haccepts) h.state_ne_intent
  | setPreSubmitCtfBalance tid balance => exact h
  | markObserved tid obs =>
    rw [TradeWrite.accepts, Bool.and_eq_true, decide_eq_true_eq] at haccepts
    exact .inr (.inr (blocking_eq_false.mpr
      ⟨outcome_of_observed (.inl haccepts.1), (h.of_submitted haccepts.2).1⟩))
  | markOrphaned tid =>
    have hnone := (h.of_submitted (of_decide_eq_true haccepts)).2
    exact .inr (.inl (by simp [TradeWrite.set, pendingReconcile, hnone]))
  | markReconciledObserved tid obs resolution note ts =>
    rw [TradeWrite.accepts, Bool.and_eq_true] at haccepts
    exact .inr (.inr (blocking_eq_false.mpr ⟨outcome_of_observed (.inl haccepts.1), rfl⟩))
  | recordReconcileDefer tid deferUntil note => exact h
  | closeUnresolvableTerminal tid note operator ts => exact .inr (.inr rfl)
  | advanceState tid source target =>
    obtain rfl : row.state = source := of_decide_eq_true haccepts
    have houtcome := outcome_of_observed (.inr hissued.1)
    obtain ⟨outcome, ho⟩ := Option.isSome_iff_exists.mp houtcome
    have hmove := TradeState.moves_processedTerminal hissued.1 hissued.2
    refine .inr (.inr (blocking_eq_false.mpr ⟨?_, h.of_outcome houtcome⟩))
    exact Option.isSome_iff_exists.mpr ⟨outcome, hmove.outcome ho⟩
  | markReconciled tid resolution note ts => exact absurd rfl (hreconciled tid resolution note ts)

theorem Onward.claim {row : TradeInfo} (h : Onward row) {lease : DateTime}
    (hclaim : claimableCondition lease row = true) (owner : String) (claimedAt : DateTime) :
    Onward (TradeDb.claimInto row.state.claimed owner claimedAt row) := by
  have houtcome := outcome_of_observed (TradeDb.claimable_state hclaim)
  refine .inr (.inr (blocking_eq_false.mpr ⟨?_, h.of_outcome houtcome⟩))
  rwa [← TradeState.claimed_outcome] at houtcome

theorem Onward.apply {id : TradeId} {env : Env id} {op : TradeOp} (hop : Later env op)
    {db : TradeDb} (h : db.Holds id Onward) : (op.apply db).Holds id Onward := by
  obtain ⟨row, hrow, honward⟩ := h
  obtain ⟨row', hrow', rfl | ⟨w, rfl, hid, haccepts, rfl⟩ |
    ⟨_, _, owner, claimedAt, _, rfl, hclaim, rfl⟩⟩ := TradeOp.row_cases db op hrow
  · exact ⟨row', hrow', honward⟩
  · refine ⟨_, hrow', ?_⟩
    cases w with
    | markSubmitted tid ts => exact absurd (of_decide_eq_true haccepts) honward.state_ne_intent
    | markReconciled tid resolution note ts => exact absurd hid hop
    | _ => exact honward.set hop nofun haccepts
  · exact ⟨_, hrow', honward.claim hclaim owner claimedAt⟩

theorem get_apply_later {new : NewTrade} {env : Env new.tradeId} {op : TradeOp}
    (hop : Later env op) (hmark : op ≠ .write (.markSubmitted new.tradeId env.now)) {db : TradeDb}
    (hrow : db.get new.tradeId = some new.toRow) :
    (op.apply db).get new.tradeId = some new.toRow := by
  obtain ⟨row', hrow', rfl | ⟨w, rfl, hid, haccepts, rfl⟩ |
    ⟨_, _, owner, claimedAt, _, rfl, hclaim, rfl⟩⟩ := TradeOp.row_cases db op hrow
  · exact hrow'
  · refine absurd haccepts ?_
    rw [not_accepts_new new ?_ ?_ hid]
    · exact Bool.false_ne_true
    · rintro submittedAt rfl
      exact hmark (by rw [(hop rfl).1])
    · rintro source target rfl
      exact hop.1
  · rcases TradeDb.claimable_state hclaim with h | h <;> cases h

theorem Onward.foldl {id : TradeId} {env : Env id} {ops : List TradeOp}
    (hops : ∀ op ∈ ops, Later env op) {db : TradeDb} (h : db.Holds id Onward) :
    (ops.foldl TradeOp.apply db).Holds id Onward :=
  List.foldlRecOn ops TradeOp.apply (motive := fun db => db.Holds id Onward) h
    fun _ hdb op hop => Onward.apply (hops op hop) hdb

theorem onward_markSubmitted (submittedAt : DateTime) {db : TradeDb}
    (hrow : db.get new.tradeId = some new.toRow) :
    (TradeWrite.apply db (.markSubmitted new.tradeId submittedAt)).Holds new.tradeId Onward := by
  refine ⟨_, by rw [TradeWrite.get_apply, hrow], ?_⟩
  rw [if_pos (by simp [TradeWrite.tradeId, TradeWrite.accepts, NewTrade.toRow])]
  exact .inl ⟨rfl, rfl, rfl, rfl⟩

theorem later_row {new : NewTrade} {env : Env new.tradeId} {later : List TradeOp}
    (hlater : ∀ op ∈ later, Later env op) {db : TradeDb}
    (hrow : db.get new.tradeId = some new.toRow) :
    (.write (.markSubmitted new.tradeId env.now) ∉ later ∧
        (later.foldl TradeOp.apply db).get new.tradeId = some new.toRow) ∨
      (.write (.markSubmitted new.tradeId env.now) ∈ later ∧
        (later.foldl TradeOp.apply db).Holds new.tradeId Onward) := by
  induction later generalizing db with
  | nil => exact .inl ⟨List.not_mem_nil, hrow⟩
  | cons op ops ih =>
    have hops : ∀ o ∈ ops, Later env o := fun o ho => hlater o (List.mem_cons_of_mem _ ho)
    by_cases hmark : op = .write (.markSubmitted new.tradeId env.now)
    · subst hmark
      exact .inr ⟨List.mem_cons_self, Onward.foldl hops (onward_markSubmitted new env.now hrow)⟩
    · have hnext := get_apply_later (hlater op List.mem_cons_self) hmark hrow
      refine (ih hops hnext).imp ?_ ?_
      · exact fun ⟨hnot, h⟩ => ⟨List.not_mem_cons_of_ne_of_not_mem (Ne.symm hmark) hnot, h⟩
      · exact fun ⟨hmem, h⟩ => ⟨List.mem_cons_of_mem _ hmem, h⟩

theorem not_movable_new : ¬ Movable new.toRow := by
  rintro (⟨lease, h⟩ | ⟨olderThan, h⟩ | ⟨now, h⟩ | h) <;> cases h

/-- **A row left in `Intent` blocks admission for good.** Whenever an execution has inserted
its row and returned before dispatch, then after any further calls of the other tasks the
row blocks nothing or some operation can still move it on exactly if the failed call for
the submit marker has reached the table after all. -/
theorem abandoned_row_movable_iff {new : NewTrade} {env : Env new.tradeId}
    {db db₁ db' : TradeDb} {abort : Abort} (hinserted : TradeDb.create db new = some db₁)
    (habort : executeToDispatch new env db = (.error abort, db')) {later : List TradeOp}
    (hlater : ∀ op ∈ later, Later env op) :
    (∃ row, (later.foldl TradeOp.apply db').get new.tradeId = some row ∧
        (blockingAdmissionFilter row = true → Movable row)) ↔
      .write (.markSubmitted new.tradeId env.now) ∈ later := by
  have habandoned := abort_leaves_new hinserted habort
  rcases later_row hlater habandoned with ⟨hnot, hrow⟩ | ⟨hmem, hrow⟩
  · refine iff_of_false ?_ hnot
    rintro ⟨row, hget, hmovable⟩
    cases hget.symm.trans hrow
    exact not_movable_new new (hmovable rfl)
  · refine iff_of_true ?_ hmem
    obtain ⟨row, hget, honward⟩ := hrow
    exact ⟨row, hget, honward.movable⟩

def unreadableBalance : Env sampleTrade.tradeId :=
  { sampleEnv with ctfRedeem := some (.error "rpc timeout") }

def unansweredMark : Env sampleTrade.tradeId :=
  { sampleEnv with markSubmittedError := some "connection reset" }

/-- The failed marker arrives, the scan finds the order and hands it to the operator. -/
def markArrives : List TradeOp :=
  [.write (.markSubmitted sampleTrade.tradeId 0), .write (.markOrphaned sampleTrade.tradeId)]

theorem abandoned_row_movable_iff_markArrives :
    ∃ db', executeToDispatch sampleTrade unansweredMark .empty =
        (.error ⟨"submit_persist", "connection reset",
          some (.persistenceFault, "mark submitted failed")⟩, db') ∧
      ∃ row, (markArrives.foldl TradeOp.apply db').get sampleTrade.tradeId = some row ∧
        (blockingAdmissionFilter row = true → Movable row) := by
  have hcreate : (TradeDb.create .empty sampleTrade).isSome := by decide +kernel
  obtain ⟨db₁, hinserted⟩ := Option.isSome_iff_exists.mp hcreate
  have hlater : ∀ op ∈ markArrives, Later unansweredMark op := by
    simp only [markArrives, List.forall_mem_cons]
    exact ⟨fun _ => ⟨rfl, rfl, rfl⟩, trivial, List.forall_mem_nil _⟩
  have habort : (executeToDispatch sampleTrade unansweredMark .empty).1 =
      .error ⟨"submit_persist", "connection reset",
        some (.persistenceFault, "mark submitted failed")⟩ := by
    decide +kernel
  cases hresult : executeToDispatch sampleTrade unansweredMark .empty with
  | mk outcome db' =>
    rw [hresult] at habort
    obtain rfl : outcome = _ := habort
    exact ⟨db', rfl, (abandoned_row_movable_iff hinserted hresult hlater).mpr
      List.mem_cons_self⟩

/-- After a failed read of the balance the row blocks admission and no operation takes it. -/
theorem unreadable_balance_blocks :
    let result := executeToDispatch sampleTrade unreadableBalance .empty
    result.1 = .error ⟨"submit_persist", "rpc timeout",
        some (.venueFault, "pre-submit CTF balance read failed")⟩ ∧
      ∃ row, result.2.get sampleTrade.tradeId = some row ∧ row.state = .intent ∧
        blockingAdmissionFilter row = true ∧ ¬ Movable row := by
  refine ⟨by decide +kernel, sampleTrade.toRow, ?_, rfl, rfl, not_movable_new sampleTrade⟩
  decide +kernel

end PreSubmit

end OxideArb
