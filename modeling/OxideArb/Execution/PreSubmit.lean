import OxideArb.Execution.Fsm
import OxideArb.Trade.Repository

/-!
# From the intent row to venue dispatch

An execution inserts its row, takes a snapshot of the balance (Live only), marks the row
submitted and dispatches. The balance update expects the state `Submitted`, which the row
reaches only in the next step.
-/

namespace OxideArb

namespace PreSubmit

/-- A write of another task, seen from the trade `id`: only its own execution
submits it and writes its balance, and the relay advances processing rows. -/
def Foreign (id : TradeId) : TradeWrite → Prop
  | .markSubmitted tid _ => tid ≠ id
  | .setPreSubmitCtfBalance tid _ => tid ≠ id
  | .advanceState tid source target =>
    tid ≠ id ∨ source.isProcessing = true ∧ target ≠ .submitted
  | _ => True

structure OtherWrites (id : TradeId) where
  writes : List TradeWrite
  foreign : ∀ w ∈ writes, Foreign id w

def OtherWrites.run {id : TradeId} (o : OtherWrites id) (db : TradeDb) : TradeDb :=
  o.writes.foldl TradeWrite.apply db

/-- What an execution meets: the mode, the redeem client's balance answer (`none`
without a client), storage failures, and the other tasks' writes after the insert,
after the balance update and after the submit marker. -/
structure Env (id : TradeId) where
  mode : ExecutionMode
  ctfRedeem : Option (Except String Shares)
  setBalanceError : Option String
  markSubmittedError : Option String
  now : DateTime
  afterCreate : OtherWrites id
  afterBalance : OtherWrites id
  afterSubmit : OtherWrites id

/-- An aborted execution. Every abort of the pre-submit steps releases the
reservation and enters an emergency. -/
structure Abort where
  stage : String
  reason : String
  emergency : Option (EmergencyClass × String)
deriving DecidableEq, Repr

def capturePreSubmitCtfBalance {id : TradeId} (env : Env id) (db : TradeDb) :
    Except Abort Unit × TradeDb :=
  match env.ctfRedeem with
  | none => (.ok (), db)
  | some (.ok balance) =>
    match env.setBalanceError with
    | some error =>
      (.error ⟨"submit_persist", error,
        some (.persistenceFault, "pre-submit CTF balance snapshot failed")⟩, db)
    | none => (.ok (), (TradeDb.setPreSubmitCtfBalance db id balance).2)
  | some (.error error) =>
    (.error ⟨"submit_persist", error,
      some (.venueFault, "pre-submit CTF balance read failed")⟩, db)

def markSubmittedOrAbort {id : TradeId} (env : Env id) (db : TradeDb) :
    Except Abort Unit × TradeDb :=
  match env.markSubmittedError with
  | some error =>
    (.error ⟨"submit_persist", error, some (.persistenceFault, "mark submitted failed")⟩, db)
  | none =>
    match TradeDb.markSubmitted db id env.now with
    | (true, db') => (.ok (), db')
    | (false, db') =>
      (.error ⟨"submit_persist", "trade was not in intent state",
        some (.persistenceFault, "mark submitted skipped")⟩, db')

def persistPreSubmitState {id : TradeId} (env : Env id) (db : TradeDb) :
    Except Abort Unit × TradeDb :=
  let captured :=
    if env.mode = .live then capturePreSubmitCtfBalance env db else (.ok (), db)
  match captured with
  | (.error abort, db') => (.error abort, db')
  | (.ok (), db') => markSubmittedOrAbort env (env.afterBalance.run db')

/-- `execute` from the insert of the trade row to venue dispatch; `ok` means that
the order strategy is called next. -/
def executeToDispatch (new : NewTrade) (env : Env new.tradeId) (db : TradeDb) :
    Except Abort Unit × TradeDb :=
  match TradeDb.create db new with
  | none => (.error ⟨"trade_persist", "duplicate trade id", none⟩, db)
  | some db' =>
    match persistPreSubmitState env (env.afterCreate.run db') with
    | (.error abort, db'') => (.error abort, db'')
    | (.ok (), db'') => (.ok (), env.afterSubmit.run db'')

/-! ## The row never carries the balance -/

def Unsnapshotted (row : TradeInfo) : Prop := row.preSubmitCtfBalance = none

def Unsubmitted (row : TradeInfo) : Prop := Unsnapshotted row ∧ row.state ≠ .submitted

/-- A property of rows that other tasks cannot break: it survives every change that
keeps the balance and does not submit. -/
def Stable (P : TradeInfo → Prop) : Prop :=
  ∀ row row', row'.preSubmitCtfBalance = row.preSubmitCtfBalance →
    (row.state ≠ .submitted → row'.state ≠ .submitted) → P row → P row'

theorem stable_unsnapshotted : Stable Unsnapshotted :=
  fun _ _ hb _ h => hb.trans h

theorem stable_unsubmitted : Stable Unsubmitted :=
  fun _ _ hb hs h => ⟨hb.trans h.1, hs h.2⟩

theorem ne_submitted_of_isUnprocessed {st : TradeState} (h : st.isUnprocessed = true) :
    st ≠ .submitted := by
  rintro rfl
  cases h

variable {id : TradeId} {db : TradeDb} {P : TradeInfo → Prop}

theorem Foreign.keeps {w : TradeWrite} (hw : Foreign id w) {row : TradeInfo} (hid : w.tradeId = id)
    (haccepts : w.accepts row = true) : (w.set row).preSubmitCtfBalance = row.preSubmitCtfBalance ∧
      (row.state ≠ .submitted → (w.set row).state ≠ .submitted) := by
  cases w with
  | create new => cases haccepts
  | markSubmitted tid ts => exact absurd hid hw
  | setPreSubmitCtfBalance tid balance => exact absurd hid hw
  | markObserved tid obs =>
    rw [TradeWrite.accepts, Bool.and_eq_true] at haccepts
    exact ⟨rfl, fun _ => ne_submitted_of_isUnprocessed haccepts.1⟩
  | markOrphaned tid => exact ⟨rfl, fun _ => by simp [TradeWrite.set]⟩
  | markReconciledObserved tid obs resolution note ts =>
    rw [TradeWrite.accepts, Bool.and_eq_true] at haccepts
    exact ⟨rfl, fun _ => ne_submitted_of_isUnprocessed haccepts.1⟩
  | recordReconcileDefer tid deferUntil note => exact ⟨rfl, fun hs => hs⟩
  | closeUnresolvableTerminal tid note operator ts =>
    exact ⟨rfl, fun _ => by simp [TradeWrite.set]⟩
  | advanceState tid source target =>
    refine ⟨rfl, fun _ => ?_⟩
    rcases hw with hne | ⟨-, htarget⟩
    · exact absurd hid hne
    · exact htarget
  | markReconciled tid resolution note ts => exact ⟨rfl, fun hs => hs⟩

theorem Foreign.holds {w : TradeWrite} (hw : Foreign id w) (hP : Stable P) (h : db.Holds id P) :
    (TradeWrite.apply db w).Holds id P := by
  obtain ⟨row, hrow, hp⟩ := h
  have hid : row.tradeId = id := (db.get_eq_some_iff.mp hrow).2
  refine ⟨_, by rw [TradeWrite.get_apply, hrow], ?_⟩
  split
  next hhit =>
    rw [Bool.and_eq_true, decide_eq_true_eq, hid] at hhit
    obtain ⟨hbalance, hstate⟩ := hw.keeps hhit.1.symm hhit.2
    exact hP row _ hbalance hstate hp
  next => exact hp

theorem OtherWrites.holds (o : OtherWrites id) (hP : Stable P) (h : db.Holds id P) :
    (o.run db).Holds id P := by
  obtain ⟨writes, hw⟩ := o
  unfold OtherWrites.run
  induction writes generalizing db with
  | nil => exact h
  | cons w ws ih =>
    exact ih ((hw w List.mem_cons_self).holds hP h) fun x hx => hw x (List.mem_cons_of_mem _ hx)

theorem capture_holds {env : Env id} (h : db.Holds id Unsubmitted) :
    (capturePreSubmitCtfBalance env db).2.Holds id Unsubmitted := by
  unfold capturePreSubmitCtfBalance
  split
  · exact h
  · split
    · exact h
    · simp only [TradeDb.setPreSubmitCtfBalance]
      refine Table.Holds.updateKey h _ ?_
      intro _ row hp hq
      exact absurd (of_decide_eq_true hq) hp.2
  · exact h

theorem markSubmitted_holds {env : Env id} (h : db.Holds id Unsnapshotted) :
    (markSubmittedOrAbort env db).2.Holds id Unsnapshotted := by
  have hmark : (TradeDb.markSubmitted db id env.now).2.Holds id Unsnapshotted := by
    unfold TradeDb.markSubmitted
    exact Table.Holds.updateKey h _ fun _ _ hp _ => hp
  unfold markSubmittedOrAbort
  split
  · exact h
  · split
    · rename_i db' heq
      rw [heq] at hmark
      exact hmark
    · rename_i db' heq
      rw [heq] at hmark
      exact hmark

theorem persistPreSubmitState_holds (env : Env id) (h : db.Holds id Unsubmitted) :
    (persistPreSubmitState env db).2.Holds id Unsnapshotted := by
  have hcap : (if env.mode = .live then capturePreSubmitCtfBalance env db
      else ((.ok (), db) : Except Abort Unit × TradeDb)).2.Holds id Unsubmitted := by
    split
    · exact capture_holds h
    · exact h
  unfold persistPreSubmitState
  simp only
  split
  · rename_i abort db' heq
    rw [heq] at hcap
    exact hcap.imp fun _ hp => hp.1
  · rename_i db' heq
    rw [heq] at hcap
    exact markSubmitted_holds
      ((env.afterBalance.holds stable_unsubmitted hcap).imp fun _ hp => hp.1)

/-- **No dispatched trade carries its balance snapshot.** Whatever the storage, the
client and the other tasks do, an execution that reaches dispatch finds its row
without the balance that was read. -/
theorem dispatched_without_balance (new : NewTrade) (env : Env new.tradeId) (db : TradeDb)
    (hreach : (executeToDispatch new env db).1 = .ok ()) :
    ∃ row, (executeToDispatch new env db).2.get new.tradeId = some row ∧
      row.preSubmitCtfBalance = none ∧
      ∀ balance, env.mode = .live → env.ctfRedeem = some (.ok balance) →
        ¬ (row.state = .submitted ∧ row.preSubmitCtfBalance = some balance) := by
  have hrow : (executeToDispatch new env db).2.Holds new.tradeId Unsnapshotted := by
    unfold executeToDispatch at hreach ⊢
    cases hc : TradeDb.create db new with
    | none =>
      rw [hc] at hreach
      cases hreach
    | some db' =>
      rw [hc] at hreach
      simp only at hreach ⊢
      have hnew : db'.Holds new.tradeId Unsubmitted :=
        ⟨new.toRow, Table.get_insert hc, rfl, by simp [NewTrade.toRow]⟩
      have hpers := persistPreSubmitState_holds env
        (env.afterCreate.holds stable_unsubmitted hnew)
      split
      · rename_i abort db'' heq
        rw [heq] at hpers
        exact hpers
      · rename_i db'' heq
        rw [heq] at hpers
        exact env.afterSubmit.holds stable_unsnapshotted hpers
  obtain ⟨row, hr, hp⟩ := hrow
  refine ⟨row, hr, hp, ?_⟩
  rintro balance - - ⟨-, hb⟩
  rw [hp] at hb
  cases hb

def sampleTrade : NewTrade :=
  { tradeId := ⟨1⟩, reservationId := ⟨"r"⟩, marketId := ⟨"m"⟩, tokenId := ⟨"yes"⟩, side := .buy
    shares := 10, price := 97 / 100, costUsd := 97 / 10, feeUsd := 0
    resolutionProb := some (99 / 100)
    category := .sports, executionMode := .live }

/-- Nothing fails, nobody else writes, and the client reads a balance of five. -/
def sampleEnv : Env sampleTrade.tradeId :=
  { mode := .live, ctfRedeem := some (.ok 5), setBalanceError := none, markSubmittedError := none
    now := 0, afterCreate := ⟨[], by simp⟩, afterBalance := ⟨[], by simp⟩
    afterSubmit := ⟨[], by simp⟩ }

theorem dispatched_without_balance_sample :
    ∃ row, (executeToDispatch sampleTrade sampleEnv .empty).2.get ⟨1⟩ = some row ∧
      row.preSubmitCtfBalance = none := by
  obtain ⟨row, hr, hb, -⟩ := dispatched_without_balance sampleTrade sampleEnv .empty
    (by decide +kernel)
  exact ⟨row, hr, hb⟩

/-- The undisturbed execution reaches dispatch with the row submitted and the balance
of five lost. -/
theorem live_dispatch_loses_balance :
    (executeToDispatch sampleTrade sampleEnv .empty).1 = .ok () ∧
      sampleEnv.ctfRedeem = some (.ok 5) ∧
      ((executeToDispatch sampleTrade sampleEnv .empty).2.get ⟨1⟩).map
        (fun row => (row.state, row.preSubmitCtfBalance)) = some (.submitted, none) := by
  refine ⟨?_, rfl, ?_⟩ <;> decide +kernel

end PreSubmit

end OxideArb
