import OxideArb.Lib.Table
import OxideArb.Types.Position

/-!
# The position repository

An update addresses one row by its id, whatever state it is in; no row of that id is an error.
-/

namespace OxideArb

abbrev PositionDb := Table PositionInfo.positionId

namespace PositionDb

/-! ## Queries -/

variable (db : PositionDb)

def findOpenByMarket (marketId : MarketId) : List PositionInfo :=
  db.rows.filter fun r => r.marketId = marketId && r.status = .opened

/-- `find_open_for_resolved_markets_q`, given the markets that are resolved and not
active. -/
def findOpenForResolvedMarkets (resolved : List MarketId) : List PositionInfo :=
  db.rows.filter fun r => r.status = .opened && r.marketId ∈ resolved

def findRedeemRetryCandidates (maxAttempts : Nat) : List PositionInfo :=
  db.rows.filter fun r =>
    r.status = .opened && (r.redeemStatus = .pending || r.redeemStatus = .failed) &&
      r.redeemAttempts < i32OfU32 maxAttempts

def findAccountingRetryCandidates (maxAttempts : Nat) : List PositionInfo :=
  db.rows.filter fun r =>
    r.status = .opened && r.settlementAccountingStatus = .failed &&
      r.redeemAttempts < i32OfU32 maxAttempts

end PositionDb

/-! ## Updates of a row -/

structure MarkRedeemedParams where
  winningTokenId : TokenId
  settlementPayoutUsd : Usd
  realizedPnl : Usd
  redeemTxHash : Option String
  redeemStatus : RedeemStatus
  settlementTrigger : SettlementTrigger
  redeemTerminalReason : Option String
  redeemGasPaidUsd : Option Usd
deriving DecidableEq, Repr

namespace PositionInfo

def markRedeemed (params : MarkRedeemedParams) (pos : PositionInfo) : PositionInfo :=
  { pos with
    winningTokenId := some params.winningTokenId
    settlementPayoutUsd := some params.settlementPayoutUsd
    realizedPnl := params.realizedPnl
    redeemTxHash := params.redeemTxHash
    redeemStatus := params.redeemStatus
    settlementTrigger := some params.settlementTrigger
    redeemTerminalReason := params.redeemTerminalReason
    redeemGasPaidUsd := params.redeemGasPaidUsd
    settlementAccountingStatus := .redeemed }

def markAccounted (accountedAt : DateTime) (pos : PositionInfo) : PositionInfo :=
  { pos with
    status := .settled
    settlementAccountingStatus := .accounted
    settlementAccountingError := none
    settlementAccountedAt := some accountedAt
    settledAt := some accountedAt }

def markAccountingFailed (error : String) (pos : PositionInfo) : PositionInfo :=
  { pos with
    settlementAccountingStatus := .failed
    settlementAccountingError := some error }

def recordRedeemFailure (attempts : Nat) (winningTokenId : TokenId)
    (settlementTrigger : SettlementTrigger) (pos : PositionInfo) : PositionInfo :=
  { pos with
    redeemStatus := .failed
    redeemAttempts := i32OfU32 attempts
    winningTokenId := some winningTokenId
    settlementTrigger := some settlementTrigger }

def markRedeemTerminal (attempts : Nat) (winningTokenId : TokenId)
    (settlementTrigger : SettlementTrigger) (reason : String) (pos : PositionInfo) :
    PositionInfo :=
  { pos with
    redeemStatus := .failed
    redeemAttempts := i32OfU32 attempts
    winningTokenId := some winningTokenId
    settlementTrigger := some settlementTrigger
    settlementAccountingStatus := .failed
    settlementAccountingError := some reason
    redeemTerminalReason := some reason }

structure Patch where
  run : PositionInfo → PositionInfo
  positionId_run : ∀ pos, (run pos).positionId = pos.positionId
  tradeId_run : ∀ pos, (run pos).tradeId = pos.tradeId

end PositionInfo

namespace PositionDb

/-- `patch_position_q`: the row written and the table, or nothing without such a row. -/
def patch (db : PositionDb) (id : PositionId) (f : PositionInfo.Patch) :
    Option (PositionInfo × PositionDb) :=
  (db.get id).map fun row =>
    (f.run row, (db.updateKey id (fun _ => true) f.run f.positionId_run).2)

variable {db db' : PositionDb} {id p : PositionId} {f : PositionInfo.Patch} {row : PositionInfo}

theorem patch_eq_some (h : db.patch id f = some (row, db')) :
    ∃ old, db.get id = some old ∧ row = f.run old ∧ db'.get id = some row := by
  unfold patch at h
  rw [Option.map_eq_some_iff] at h
  obtain ⟨old, hold, h⟩ := h
  obtain ⟨rfl, rfl⟩ := Prod.mk.inj h
  refine ⟨old, hold, rfl, ?_⟩
  rw [Table.get_updateKey, hold]
  rfl

theorem get_patch_ne (h : db.patch id f = some (row, db')) (hp : p ≠ id) :
    db'.get p = db.get p := by
  unfold patch at h
  rw [Option.map_eq_some_iff] at h
  obtain ⟨old, hold, h⟩ := h
  obtain ⟨rfl, rfl⟩ := Prod.mk.inj h
  exact Table.get_updateKey_ne _ hp _ _

theorem get_patch {r : PositionInfo} (h : db.patch id f = some (row, db')) (hr : db'.get p = some r) :
    ∃ old, db.get p = some old ∧ (p ≠ id ∧ r = old ∨ p = id ∧ r = f.run old) := by
  by_cases hp : p = id
  · subst hp
    obtain ⟨old, hold, rfl, hnew⟩ := patch_eq_some h
    exact ⟨old, hold, .inr ⟨rfl, Option.some.inj (hr.symm.trans hnew)⟩⟩
  · rw [get_patch_ne h hp] at hr
    exact ⟨r, hr, .inl ⟨hp, rfl⟩⟩

theorem Holds.patch {P Q : PositionInfo → Prop} (h : db.patch id f = some (row, db'))
    (hp : db.Holds p P) (hself : id = p → ∀ old, db.get p = some old → P old → Q (f.run old))
    (hother : ∀ r, P r → Q r) : db'.Holds p Q := by
  obtain ⟨r, hr, hP⟩ := hp
  by_cases hid : p = id
  · subst hid
    obtain ⟨old, hold, rfl, hnew⟩ := patch_eq_some h
    obtain rfl : old = r := Option.some.inj (hold.symm.trans hr)
    exact ⟨_, hnew, hself rfl old hold hP⟩
  · exact ⟨r, (get_patch_ne h hid).trans hr, hother r hP⟩

end PositionDb

end OxideArb
