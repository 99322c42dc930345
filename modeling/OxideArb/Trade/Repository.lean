import Mathlib.Data.List.Sort
import OxideArb.Lib.Table
import OxideArb.Types.Market

/-!
# Trade rows and their repository

The trade row is driven by conditional updates. `TradeWrite` lists the writes that address one
row (`TradeWrite.get_apply`); the relay's claim writes several. New rows are appended, so the
order of the rows is that of `created_at`.
-/

namespace OxideArb

inductive TradeState
  | intent
  | submitted
  | fillObserved
  | missObserved
  | failObserved
  | fillProcessing
  | missProcessing
  | failProcessing
  | settled
  | missed
  | failed
  | orphaned
deriving DecidableEq, Repr

def TradeState.isUnprocessed : TradeState → Bool
  | .fillObserved => true
  | .missObserved => true
  | .failObserved => true
  | _ => false

def TradeState.isProcessing : TradeState → Bool
  | .fillProcessing => true
  | .missProcessing => true
  | .failProcessing => true
  | _ => false

def TradeState.processedTerminal : TradeState → Option TradeState
  | .fillObserved => some .settled
  | .fillProcessing => some .settled
  | .missObserved => some .missed
  | .missProcessing => some .missed
  | .failObserved => some .failed
  | .failProcessing => some .failed
  | _ => none

def TradeState.businessOutcome : TradeState → Option TradeBusinessOutcome
  | .fillObserved | .fillProcessing | .settled => some .success
  | .missObserved | .missProcessing | .missed => some .miss
  | .failObserved | .failProcessing | .failed => some .failed
  | .intent | .submitted | .orphaned => none

def TradeState.claimed : TradeState → TradeState
  | .fillObserved => .fillProcessing
  | .missObserved => .missProcessing
  | .failObserved => .failProcessing
  | state => state

inductive TradeReconcileResolution
  | filled
  | miss
  | unresolvable
deriving DecidableEq, Repr

/-- A trade row. `resolutionProb` is the probability in the frozen snapshot, `none`
when the snapshot does not decode. -/
structure TradeInfo where
  tradeId : TradeId
  reservationId : ReservationId
  marketId : MarketId
  tokenId : TokenId
  side : Side
  shares : Shares
  price : Price
  costUsd : Usd
  feeUsd : Usd
  netProfitUsd : Option Usd
  orderId : Option OrderId
  txHash : Option String
  state : TradeState
  businessOutcome : Option TradeBusinessOutcome
  resolutionProb : Option Decimal
  category : MarketCategory
  needsReconcile : Bool
  reconcileResolution : Option TradeReconcileResolution
  reconciledAt : Option DateTime
  reconcileNote : Option String
  preSubmitCtfBalance : Option Shares
  reconcileAttempts : Int
  reconcileDeferUntil : Option DateTime
  postTradeClaimOwner : Option String
  postTradeClaimedAt : Option DateTime
  postTradeAttempts : Int
  executionMode : ExecutionMode
  errorMessage : Option String
  submittedAt : Option DateTime
  confirmedAt : Option DateTime
deriving DecidableEq, Repr

structure NewTrade where
  tradeId : TradeId
  reservationId : ReservationId
  marketId : MarketId
  tokenId : TokenId
  side : Side
  shares : Shares
  price : Price
  costUsd : Usd
  feeUsd : Usd
  resolutionProb : Option Decimal
  category : MarketCategory
  executionMode : ExecutionMode
deriving DecidableEq, Repr

/-- Venue result written when an outcome becomes known. -/
structure TradeObservation where
  state : TradeState
  shares : Shares
  price : Price
  costUsd : Usd
  feeUsd : Usd
  orderId : Option OrderId
  txHash : Option String
  netProfitUsd : Option Usd
  errorMessage : Option String
  confirmedAt : DateTime
deriving DecidableEq, Repr

abbrev TradeDb := Table TradeInfo.tradeId

/-- A new row, as inserted: state `Intent`, nothing submitted or reconciled. -/
def NewTrade.toRow (new : NewTrade) : TradeInfo :=
  { tradeId := new.tradeId, reservationId := new.reservationId, marketId := new.marketId
    tokenId := new.tokenId, side := new.side
    shares := new.shares, price := new.price, costUsd := new.costUsd, feeUsd := new.feeUsd
    netProfitUsd := none, orderId := none, txHash := none, state := .intent
    businessOutcome := none, resolutionProb := new.resolutionProb, category := new.category
    needsReconcile := false
    reconcileResolution := none, reconciledAt := none, reconcileNote := none
    preSubmitCtfBalance := none, reconcileAttempts := 0, reconcileDeferUntil := none
    postTradeClaimOwner := none, postTradeClaimedAt := none, postTradeAttempts := 0
    executionMode := new.executionMode
    errorMessage := none, submittedAt := none, confirmedAt := none }

def TradeInfo.observe (trade : TradeInfo) (obs : TradeObservation) : TradeInfo :=
  { trade with
    state := obs.state, businessOutcome := obs.state.businessOutcome
    shares := obs.shares, price := obs.price, costUsd := obs.costUsd
    feeUsd := obs.feeUsd, orderId := obs.orderId, txHash := obs.txHash
    netProfitUsd := obs.netProfitUsd, errorMessage := obs.errorMessage
    confirmedAt := some obs.confirmedAt }

def TradeInfo.resolve (trade : TradeInfo) (obs : TradeObservation)
    (resolution : TradeReconcileResolution) (note : String) (reconciledAt : DateTime) :
    TradeInfo :=
  { trade.observe obs with
    needsReconcile := false, reconcileResolution := some resolution
    reconciledAt := some reconciledAt, reconcileNote := some note }

theorem TradeInfo.observe_tradeId (obs : TradeObservation) (trade : TradeInfo) :
    (trade.observe obs).tradeId = trade.tradeId := rfl

theorem TradeInfo.resolve_tradeId (obs : TradeObservation) (resolution : TradeReconcileResolution)
    (note : String) (reconciledAt : DateTime) (trade : TradeInfo) :
    (trade.resolve obs resolution note reconciledAt).tradeId = trade.tradeId := rfl

namespace TradeDb

def create (db : TradeDb) (new : NewTrade) : Option TradeDb := db.insert new.toRow

def markSubmitted (db : TradeDb) (tradeId : TradeId) (submittedAt : DateTime) : Bool × TradeDb :=
  db.updateKey tradeId (fun t => t.state = .intent)
    (fun t => { t with state := .submitted, submittedAt := some submittedAt }) fun _ => rfl

def setPreSubmitCtfBalance (db : TradeDb) (tradeId : TradeId) (balance : Shares) :
    Bool × TradeDb :=
  db.updateKey tradeId (fun t => t.state = .submitted)
    (fun t => { t with preSubmitCtfBalance := some balance }) fun _ => rfl

def markObserved (db : TradeDb) (tradeId : TradeId) (obs : TradeObservation) : Bool × TradeDb :=
  if obs.state.isUnprocessed then
    db.updateKey tradeId (fun t => t.state = .submitted) (·.observe obs)
      (TradeInfo.observe_tradeId obs)
  else (false, db)

def markOrphaned (db : TradeDb) (tradeId : TradeId) : Bool × TradeDb :=
  db.updateKey tradeId (fun t => t.state = .submitted)
    (fun t => { t with state := .orphaned, businessOutcome := none, needsReconcile := true })
    fun _ => rfl

/-- The filter of the reconciliation updates. -/
def pendingReconcile (t : TradeInfo) : Bool :=
  t.state = .orphaned && t.needsReconcile && t.reconcileResolution = none

/-- `mark_reconciled_observed`: only orphaned rows without a resolution. -/
def markReconciledObserved (db : TradeDb) (tradeId : TradeId) (obs : TradeObservation)
    (resolution : TradeReconcileResolution) (note : String) (reconciledAt : DateTime) :
    Bool × TradeDb :=
  if obs.state.isUnprocessed then
    db.updateKey tradeId pendingReconcile (·.resolve obs resolution note reconciledAt)
      (TradeInfo.resolve_tradeId obs resolution note reconciledAt)
  else (false, db)

def recordReconcileDefer (db : TradeDb) (tradeId : TradeId) (deferUntil : DateTime)
    (note : String) : Bool × TradeDb :=
  db.updateKey tradeId (fun t => t.needsReconcile && t.reconcileResolution = none)
    (fun t => { t with
      reconcileAttempts := t.reconcileAttempts + 1
      reconcileDeferUntil := some deferUntil, reconcileNote := some note }) fun _ => rfl

def closeUnresolvableTerminal (db : TradeDb) (tradeId : TradeId) (note operator : String)
    (closedAt : DateTime) : Bool × TradeDb :=
  db.updateKey tradeId pendingReconcile
    (fun t => { t with
      state := .failed, businessOutcome := TradeState.failed.businessOutcome
      needsReconcile := false, reconcileResolution := some .unresolvable
      reconciledAt := some closedAt, reconcileNote := some (operator ++ ": " ++ note)
      reconcileDeferUntil := none }) fun _ => rfl

/-- `advance_state`: the move of a row out of the state it was read in; the lease ends. -/
def advanceState (db : TradeDb) (tradeId : TradeId) (source target : TradeState) :
    Bool × TradeDb :=
  db.updateKey tradeId (fun t => t.state = source)
    (fun t => { t with
      state := target, businessOutcome := target.businessOutcome
      postTradeClaimOwner := none, postTradeClaimedAt := none }) fun _ => rfl

/-- `mark_reconciled`: a resolution without a change of state. -/
def markReconciled (db : TradeDb) (tradeId : TradeId) (resolution : TradeReconcileResolution)
    (note : String) (reconciledAt : DateTime) : Bool × TradeDb :=
  db.updateKey tradeId (fun t => t.needsReconcile && t.reconcileResolution = none)
    (fun t => { t with
      reconcileResolution := some resolution, reconciledAt := some reconciledAt
      reconcileNote := some note }) fun _ => rfl

/-- The filter of `count_competing_pending_reconcile`. -/
def competes (marketId : MarketId) (submittedAt : Option DateTime) (t : TradeInfo) : Bool :=
  t.marketId = marketId && t.needsReconcile && t.reconcileResolution = none &&
    match submittedAt with
    | some ts => t.submittedAt = some ts
    | none => true

def countCompetingPendingReconcile (db : TradeDb) (marketId : MarketId)
    (submittedAt : Option DateTime) : Nat :=
  db.rows.countP (competes marketId submittedAt)

/-! ### Claims of the post-trade relay -/

def claimableCondition (leaseExpiredBefore : DateTime) (t : TradeInfo) : Bool :=
  t.state.isUnprocessed ||
    (t.state.isProcessing && t.postTradeClaimedAt.any (· < leaseExpiredBefore))

def claimInto (processing : TradeState) (owner : String) (claimedAt : DateTime) (t : TradeInfo) :
    TradeInfo :=
  { t with
    state := processing, postTradeClaimOwner := some owner, postTradeClaimedAt := some claimedAt
    postTradeAttempts := t.postTradeAttempts + 1 }

@[simp] theorem claimInto_tradeId (processing : TradeState) (owner : String)
    (claimedAt : DateTime) (t : TradeInfo) :
    (claimInto processing owner claimedAt t).tradeId = t.tradeId := rfl

def updateClaimedGroup (db : TradeDb) (ids : List TradeId) (processing : TradeState)
    (owner : String) (claimedAt : DateTime) : TradeDb :=
  db.updateWhere (fun t => t.tradeId ∈ ids) (claimInto processing owner claimedAt)
    (claimInto_tradeId processing owner claimedAt)

/-- The rows a claim selects: the oldest claimable ones that no other transaction has
locked. -/
def claimable (db : TradeDb) (limit : Nat) (locked : List TradeId)
    (leaseExpiredBefore : DateTime) : List TradeInfo :=
  (db.rows.filter fun t => claimableCondition leaseExpiredBefore t && t.tradeId ∉ locked).take
    limit

def groupOf (rows : List TradeInfo) (observed processing : TradeState) : List TradeId :=
  (rows.filter fun t => t.state = observed || t.state = processing).map (·.tradeId)

/-- `claim_unprocessed`: the claimed rows, as they are after the claim, and the table. -/
def claimUnprocessed (db : TradeDb) (limit : Nat) (locked : List TradeId) (owner : String)
    (claimedAt leaseExpiredBefore : DateTime) : List TradeInfo × TradeDb :=
  let rows := claimable db limit locked leaseExpiredBefore
  let fills := updateClaimedGroup db (groupOf rows .fillObserved .fillProcessing)
    .fillProcessing owner claimedAt
  let misses := updateClaimedGroup fills (groupOf rows .missObserved .missProcessing)
    .missProcessing owner claimedAt
  let claimed := updateClaimedGroup misses (groupOf rows .failObserved .failProcessing)
    .failProcessing owner claimedAt
  (rows.filterMap fun t => claimed.get t.tradeId, claimed)

/-! ### Filters of the queries -/

def staleSubmitted (olderThan : DateTime) (t : TradeInfo) : Bool :=
  t.state = .submitted && t.submittedAt.any (· < olderThan)

/-- The filter of `find_needs_reconcile`. -/
def reconcilable (now : DateTime) (t : TradeInfo) : Bool :=
  t.needsReconcile && t.reconcileResolution = none && t.reconcileDeferUntil.all (· ≤ now)

def blockingAdmissionFilter (t : TradeInfo) : Bool :=
  t.state = .intent || t.state = .submitted || t.state = .orphaned || t.needsReconcile

def reservationObligationFilter (t : TradeInfo) : Bool :=
  t.state = .intent || t.state = .submitted || t.state = .orphaned || t.state = .fillObserved ||
    t.state = .fillProcessing || t.needsReconcile

def findReservationObligations (db : TradeDb) (limit : Nat) : List TradeInfo :=
  (db.rows.filter reservationObligationFilter).take limit

/-! ### What the writes do -/

variable {db : TradeDb} {id : TradeId} {obs : TradeObservation}
  {resolution : TradeReconcileResolution} {note : String} {ts : DateTime}

theorem markReconciledObserved_hit (hobs : obs.state.isUnprocessed = true) :
    (markReconciledObserved db id obs resolution note ts).1 = true ↔
      db.Holds id fun row => pendingReconcile row = true := by
  unfold markReconciledObserved
  rw [if_pos hobs, Table.updateKey_hit, Option.any_eq_true]
  rfl

theorem markReconciledObserved_row {db' : TradeDb}
    (h : markReconciledObserved db id obs resolution note ts = (true, db')) :
    db'.Holds id fun row => row.shares = obs.shares := by
  unfold markReconciledObserved at h
  split at h
  · have hdb : (Table.updateKey db id pendingReconcile (·.resolve obs resolution note ts)
        (TradeInfo.resolve_tradeId obs resolution note ts)).2 = db' := by rw [h]
    have hit := congrArg Prod.fst h
    rw [Table.updateKey_hit, Option.any_eq_true] at hit
    obtain ⟨row, hr, hq⟩ := hit
    refine ⟨row.resolve obs resolution note ts, ?_, rfl⟩
    rw [← hdb, Table.get_updateKey, hr]
    simp [hq]
  · cases h

theorem count_markReconciledObserved {db' : TradeDb}
    (h : markReconciledObserved db id obs resolution note ts = (true, db')) (marketId : MarketId)
    (submittedAt : Option DateTime) : countCompetingPendingReconcile db' marketId submittedAt =
      countCompetingPendingReconcile (db.without id) marketId submittedAt := by
  unfold markReconciledObserved at h
  split at h
  · have hdb : (Table.updateKey db id pendingReconcile (·.resolve obs resolution note ts)
        (TradeInfo.resolve_tradeId obs resolution note ts)).2 = db' := by rw [h]
    rw [← hdb]
    exact Table.countP_updateKey db _ (by rw [h]) fun row => by simp [competes, TradeInfo.resolve]
  · cases h

end TradeDb

namespace TradeDb

section Claims

variable {db : TradeDb} {limit : Nat} {locked : List TradeId} {owner : String}
  {claimedAt leaseExpiredBefore : DateTime}

variable {row : TradeInfo}

theorem mem_claimable (h : row ∈ claimable db limit locked leaseExpiredBefore) :
    row ∈ db.rows ∧ claimableCondition leaseExpiredBefore row = true := by
  have hmem := List.mem_of_mem_take h
  rw [List.mem_filter, Bool.and_eq_true] at hmem
  exact ⟨hmem.1, hmem.2.1⟩

theorem claimable_state (h : claimableCondition leaseExpiredBefore row = true) :
    row.state.isUnprocessed = true ∨ row.state.isProcessing = true := by
  rw [claimableCondition, Bool.or_eq_true, Bool.and_eq_true] at h
  exact h.imp_right And.left

theorem mem_groupOf {id : TradeId} (hrow : db.get id = some row) (observed processing : TradeState) :
    row.tradeId ∈ groupOf (claimable db limit locked leaseExpiredBefore) observed processing ↔
      row ∈ claimable db limit locked leaseExpiredBefore ∧
        (row.state = observed ∨ row.state = processing) := by
  simp only [groupOf, List.mem_map, List.mem_filter, Bool.or_eq_true, decide_eq_true_eq]
  constructor
  · rintro ⟨t, ⟨ht, hstate⟩, hid⟩
    -- the id identifies the row
    have hget := db.get_eq_some_iff.mpr ⟨(mem_claimable ht).1, hid⟩
    have hkey : row.tradeId = id := (db.get_eq_some_iff.mp hrow).2
    rw [hkey, hrow] at hget
    cases hget
    exact ⟨ht, hstate⟩
  · rintro ⟨ht, hstate⟩
    exact ⟨row, ⟨ht, hstate⟩, rfl⟩

theorem get_updateClaimedGroup (db : TradeDb) (ids : List TradeId) (processing : TradeState)
    (id : TradeId) :
    (updateClaimedGroup db ids processing owner claimedAt).get id =
      (db.get id).map fun row =>
        if row.tradeId ∈ ids then claimInto processing owner claimedAt row else row := by
  unfold updateClaimedGroup
  rw [Table.get_updateWhere]
  simp only [decide_eq_true_eq]

theorem get_claimUnprocessed (id : TradeId) :
    (claimUnprocessed db limit locked owner claimedAt leaseExpiredBefore).2.get id =
      (db.get id).map fun row =>
        if row ∈ claimable db limit locked leaseExpiredBefore then
          claimInto row.state.claimed owner claimedAt row
        else row := by
  simp only [claimUnprocessed, get_updateClaimedGroup]
  cases hrow : db.get id with
  | none => rfl
  | some row =>
    simp only [Option.map_some]
    by_cases hsel : row ∈ claimable db limit locked leaseExpiredBefore
    · have hstate := claimable_state (mem_claimable hsel).2
      -- the state of the row decides which of the three groups it is in
      cases hs : row.state <;>
        simp_all [mem_groupOf hrow, TradeState.claimed, TradeState.isUnprocessed,
          TradeState.isProcessing]
    · simp [mem_groupOf hrow, hsel]

end Claims

end TradeDb

/-! ## One row under all writes -/

inductive TradeWrite
  | create (new : NewTrade)
  | markSubmitted (tradeId : TradeId) (submittedAt : DateTime)
  | setPreSubmitCtfBalance (tradeId : TradeId) (balance : Shares)
  | markObserved (tradeId : TradeId) (obs : TradeObservation)
  | markOrphaned (tradeId : TradeId)
  | markReconciledObserved (tradeId : TradeId) (obs : TradeObservation)
      (resolution : TradeReconcileResolution) (note : String) (reconciledAt : DateTime)
  | recordReconcileDefer (tradeId : TradeId) (deferUntil : DateTime) (note : String)
  | closeUnresolvableTerminal (tradeId : TradeId) (note operator : String) (closedAt : DateTime)
  | advanceState (tradeId : TradeId) (source target : TradeState)
  | markReconciled (tradeId : TradeId) (resolution : TradeReconcileResolution) (note : String)
      (reconciledAt : DateTime)
deriving DecidableEq, Repr

namespace TradeWrite

def tradeId : TradeWrite → TradeId
  | .create new => new.tradeId
  | .markSubmitted id _ => id
  | .setPreSubmitCtfBalance id _ => id
  | .markObserved id _ => id
  | .markOrphaned id => id
  | .markReconciledObserved id _ _ _ _ => id
  | .recordReconcileDefer id _ _ => id
  | .closeUnresolvableTerminal id _ _ _ => id
  | .advanceState id _ _ => id
  | .markReconciled id _ _ _ => id

def apply (db : TradeDb) : TradeWrite → TradeDb
  | .create new => (TradeDb.create db new).getD db
  | .markSubmitted id ts => (TradeDb.markSubmitted db id ts).2
  | .setPreSubmitCtfBalance id balance => (TradeDb.setPreSubmitCtfBalance db id balance).2
  | .markObserved id obs => (TradeDb.markObserved db id obs).2
  | .markOrphaned id => (TradeDb.markOrphaned db id).2
  | .markReconciledObserved id obs resolution note ts =>
    (TradeDb.markReconciledObserved db id obs resolution note ts).2
  | .recordReconcileDefer id deferUntil note =>
    (TradeDb.recordReconcileDefer db id deferUntil note).2
  | .closeUnresolvableTerminal id note operator ts =>
    (TradeDb.closeUnresolvableTerminal db id note operator ts).2
  | .advanceState id source target => (TradeDb.advanceState db id source target).2
  | .markReconciled id resolution note ts => (TradeDb.markReconciled db id resolution note ts).2

/-- The rows of its trade that a write changes. -/
def accepts : TradeWrite → TradeInfo → Bool
  | .create _ => fun _ => false
  | .markSubmitted _ _ => fun t => t.state = .intent
  | .setPreSubmitCtfBalance _ _ => fun t => t.state = .submitted
  | .markObserved _ obs => fun t => obs.state.isUnprocessed && t.state = .submitted
  | .markOrphaned _ => fun t => t.state = .submitted
  | .markReconciledObserved _ obs _ _ _ => fun t =>
    obs.state.isUnprocessed && TradeDb.pendingReconcile t
  | .recordReconcileDefer _ _ _ => fun t => t.needsReconcile && t.reconcileResolution = none
  | .closeUnresolvableTerminal _ _ _ _ => TradeDb.pendingReconcile
  | .advanceState _ source _ => fun t => t.state = source
  | .markReconciled _ _ _ _ => fun t => t.needsReconcile && t.reconcileResolution = none

def set : TradeWrite → TradeInfo → TradeInfo
  | .create _ => id
  | .markSubmitted _ ts => fun t => { t with state := .submitted, submittedAt := some ts }
  | .setPreSubmitCtfBalance _ balance => fun t => { t with preSubmitCtfBalance := some balance }
  | .markObserved _ obs => (·.observe obs)
  | .markOrphaned _ => fun t =>
    { t with state := .orphaned, businessOutcome := none, needsReconcile := true }
  | .markReconciledObserved _ obs resolution note ts => (·.resolve obs resolution note ts)
  | .recordReconcileDefer _ deferUntil note => fun t =>
    { t with
      reconcileAttempts := t.reconcileAttempts + 1
      reconcileDeferUntil := some deferUntil, reconcileNote := some note }
  | .closeUnresolvableTerminal _ note operator ts => fun t =>
    { t with
      state := .failed, businessOutcome := TradeState.failed.businessOutcome
      needsReconcile := false, reconcileResolution := some .unresolvable
      reconciledAt := some ts, reconcileNote := some (operator ++ ": " ++ note)
      reconcileDeferUntil := none }
  | .advanceState _ _ target => fun t =>
    { t with
      state := target, businessOutcome := target.businessOutcome
      postTradeClaimOwner := none, postTradeClaimedAt := none }
  | .markReconciled _ resolution note ts => fun t =>
    { t with
      reconcileResolution := some resolution, reconciledAt := some ts
      reconcileNote := some note }

def inserts : TradeWrite → Option TradeInfo
  | .create new => some new.toRow
  | _ => none

/-- A write inserts a row of its trade if there is none, and else changes the row if it
accepts it. -/
theorem get_apply (db : TradeDb) (w : TradeWrite) (id : TradeId) :
    (apply db w).get id =
      match db.get id with
      | none => w.inserts.filter (·.tradeId = id)
      | some row => some (if row.tradeId = w.tradeId && w.accepts row then w.set row else row) := by
  -- an update by key, with its condition and its columns
  have hupdate : ∀ (k : TradeId) (q : TradeInfo → Bool) (f : TradeInfo → TradeInfo)
      (hf : ∀ r, (f r).tradeId = r.tradeId), (Table.updateKey db k q f hf).2.get id =
        match db.get id with
        | none => none
        | some row => some (if row.tradeId = k && q row then f row else row) := by
    intro k q f hf
    unfold Table.updateKey
    rw [Table.get_updateWhere]
    cases db.get id <;> rfl
  -- an observation that is not claimable changes nothing
  have hskip : db.get id =
      match db.get id with
      | none => none
      | some row => some row := by
    cases db.get id <;> rfl
  cases w with
  | create new =>
    simp only [apply, TradeDb.create, inserts]
    cases hi : db.insert new.toRow with
    | none =>
      have htaken := (db.insert_eq_none_iff new.toRow).mp hi
      rw [Option.getD_none]
      cases hget : db.get id with
      | none =>
        have hne : new.toRow.tradeId ≠ id := by
          rintro rfl
          rw [hget] at htaken
          cases htaken
        simp [Option.filter, hne]
      | some row => simp [accepts]
    | some db' =>
      rw [Option.getD_some]
      by_cases hid : new.toRow.tradeId = id
      · subst hid
        rw [Table.get_insert hi, Table.get_eq_none_of_insert hi]
        simp [Option.filter]
      · rw [Table.get_insert_ne hi (Ne.symm hid)]
        cases db.get id with
        | none => simp [Option.filter, hid]
        | some row => simp [accepts]
  | markObserved tid obs =>
    simp only [apply, TradeDb.markObserved, inserts, accepts, set, tradeId]
    by_cases hobs : obs.state.isUnprocessed = true
    · simp only [hobs, if_true, Bool.true_and]
      exact hupdate tid _ _ (TradeInfo.observe_tradeId obs)
    · simpa [hobs] using hskip
  | markReconciledObserved tid obs resolution note ts =>
    simp only [apply, TradeDb.markReconciledObserved, inserts, accepts, set, tradeId]
    by_cases hobs : obs.state.isUnprocessed = true
    · simp only [hobs, if_true, Bool.true_and]
      exact hupdate tid _ _ (TradeInfo.resolve_tradeId obs resolution note ts)
    · simpa [hobs] using hskip
  | _ => exact hupdate _ _ _ _

theorem get_apply_ne (db : TradeDb) (w : TradeWrite) {id : TradeId} (h : id ≠ w.tradeId) :
    (apply db w).get id = db.get id := by
  rw [get_apply]
  cases hget : db.get id with
  | none =>
    cases w with
    | create new =>
      have hne : new.toRow.tradeId ≠ id := fun heq => h heq.symm
      simp [inserts, Option.filter, hne]
    | _ => rfl
  | some row =>
    have hrow : row.tradeId = id := (db.get_eq_some_iff.mp hget).2
    have hne : row.tradeId ≠ w.tradeId := by rw [hrow]; exact h
    simp [hne]

end TradeWrite

end OxideArb
