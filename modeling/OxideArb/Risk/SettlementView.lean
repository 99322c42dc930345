import OxideArb.Risk.Recovery

/-!
# Settlement accounting as a view of the engine

The settlement model (`RiskEngine`) is a view of the engine (`Engine.accounting`): settlement,
snapshot, write and start do to the figures what that model says.
-/

namespace OxideArb.Risk

/-! ## The ledger -/

def LedgerTable.infos (t : LedgerTable) : PotentialLossDb :=
  Table.map t LedgerEntry.toPotentialLossInfo fun _ => rfl

variable (ledger : Ledger)

def Ledger.info : PotentialLossLedger where
  entries := LedgerTable.infos ledger.entries
  runningTotal := ledger.runningTotal

theorem LedgerTable.infos_findActive (db : Database) :
    LedgerTable.infos db.findActive = (LedgerTable.infos db.potentialLoss).findActive :=
  Table.filter_map _ _ fun _ => rfl

theorem Ledger.info_fromEntries (entries : LedgerTable) :
    (Ledger.fromEntries entries).info = .fromEntries (LedgerTable.infos entries) := by
  unfold Ledger.info Ledger.fromEntries PotentialLossLedger.fromEntries
  congr 1
  change _ = (((entries.rows.map LedgerEntry.toPotentialLossInfo).filter
    PotentialLossInfo.isActive).map (·.maxLossUsd)).sum
  rw [List.filter_map, List.map_map]
  rfl

theorem Ledger.activeCount_info : ledger.info.activeCount = ledger.activeCount := by
  change (ledger.entries.rows.map LedgerEntry.toPotentialLossInfo).countP
    PotentialLossInfo.isActive = _
  rw [List.countP_map]
  rfl

theorem Ledger.info_resolve (now : DateTime) (id : TradeId) :
    (ledger.resolve now id).info = ledger.info.resolve id := by
  have hget : ledger.info.entries.get id =
      (ledger.entries.get id).map LedgerEntry.toPotentialLossInfo :=
    Table.get_map (fun _ => rfl) _ id
  unfold Ledger.resolve PotentialLossLedger.resolve
  rw [hget]
  cases ledger.entries.get id with
  | none => rfl
  | some entry =>
    have hentries : LedgerTable.infos (ledger.entries.updateKey id (fun _ => true)
          (LedgerEntry.resolve now) (LedgerEntry.resolve_key now)).2 =
        ((LedgerTable.infos ledger.entries).updateKey id (fun _ => true)
          PotentialLossInfo.resolve PotentialLossInfo.resolve_ledgerId).2 := by
      unfold LedgerTable.infos
      refine Table.updateKey_map _ _ id ?_ _ _ ?_
      · exact fun _ => rfl
      · exact fun _ => rfl
    exact congrArg₂ PotentialLossLedger.mk hentries rfl

/-! ## The engine -/

def Engine.accounting (e : Engine) (booked : Account → List Booking) : RiskEngine where
  lifetimeRealized := e.lifetimeRealized
  daily := e.daily
  weekly := e.weekly
  hourly := e.hourly
  potentialLoss := e.potentialLoss.info
  booked := booked

theorem settlement_accounting (w : World) {trade : PostTradeInput}
    (hsuccess : trade.outcome = .success) (readings : Readings) (position : PositionId)
    (booked : Account → List Booking) :
    let netProfit := trade.netProfitUsd.getD 0
    (w.applyTradeResult .settlement trade readings).2.engine.accounting
        (fun account => ⟨position, netProfit⟩ :: booked account) =
      (w.engine.accounting booked).applySettlement w.clock position trade.tradeId netProfit := by
  intro netProfit
  have hledger := w.engine.potentialLoss.info_resolve w.clock trade.tradeId
  unfold RiskEngine.applySettlement
  rw [← hsuccess, show (w.engine.accounting booked).potentialLoss.resolve trade.tradeId = _ from
    hledger.symm]
  rfl

theorem snapshot_accounting (e : Engine) (booked : Account → List Booking) (now : DateTime)
    (readings : Readings) (misses : Nat) :
    (e.snapshot now readings misses).toRiskEngineState = (e.accounting booked).snapshot now :=
  rfl

theorem upsert_accounting (row state : EngineState) (stored booked : Account → List Booking)
    (updatedAt : DateTime) :
    (row.upsert state updatedAt).toRiskEngineState =
      (StoredRiskState.upsert ⟨row.toRiskEngineState, stored⟩ state.toRiskEngineState booked
        updatedAt).row :=
  rfl

/-! ## A start -/

/-- What the settlement model sees of a start; the error of the breaker is an input there. -/
def Boot.settlement (boot : Boot) (row : EngineState) : OxideArb.Boot where
  now := boot.now
  dailyBudgetUsd := boot.config.dailyBudgetUsd
  openPositions := boot.openPositions
  breakerError :=
    match CircuitBreaker.fromSnapshot boot.config.circuitBreaker row with
    | .error e => some e
    | .ok _ => none

/-- A start brings the figures up that the settlement model recovers, or fails with its error. -/
theorem restart_accounting (boot : Boot) (db : Database) (booked : Account → List Booking) :
    (boot.restart db).map (·.accounting booked) =
      OxideArb.recoverState (boot.settlement db.row) ⟨db.row.toRiskEngineState, booked⟩
        (LedgerTable.infos db.potentialLoss).findActive := by
  rw [← LedgerTable.infos_findActive]
  unfold Boot.restart Boot.build Boot.recoverState OxideArb.recoverState Boot.settlement
  dsimp only
  simp only [← Ledger.info_fromEntries, Ledger.activeCount_info]
  cases CircuitBreaker.fromSnapshot boot.config.circuitBreaker db.row with
  | error e => rfl
  | ok breaker =>
    unfold Boot.recoveryError
    dsimp only
    split_ifs with hdate hdaily hweekly hhourly hnone hmore
    · rfl
    · rfl
    · rfl
    · rfl
    · simp only [Except.map, String.append_assoc]
      rfl
    · simp only [Except.map, String.append_assoc]
      rfl
    · rfl

end OxideArb.Risk
