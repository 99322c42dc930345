import OxideArb.Lib.Table
import OxideArb.Risk.Accounting

/-!
# Settlement accounting of the risk engine

The engine's accounting figures in memory, the row they are stored in and the potential-loss
ledger. Each figure carries, as a ghost, the additions it rests on (`booked`).
-/

namespace OxideArb

/-! ## The potential-loss ledger -/

inductive LedgerStatus
  | active
  | resolved
  | expired
deriving DecidableEq, Repr

structure PotentialLossInfo where
  ledgerId : TradeId
  maxLossUsd : Usd
  status : LedgerStatus
deriving DecidableEq, Repr

variable (entry : PotentialLossInfo) (e : RiskEngine) (now : DateTime)

def PotentialLossInfo.isActive : Bool := entry.status = .active

def PotentialLossInfo.resolve : PotentialLossInfo :=
  { entry with status := .resolved }

theorem PotentialLossInfo.resolve_ledgerId : entry.resolve.ledgerId = entry.ledgerId :=
  rfl

abbrev PotentialLossDb := Table PotentialLossInfo.ledgerId

namespace PotentialLossDb

variable (db : PotentialLossDb) (id : TradeId)

/-- `do_update`: resolve an entry that is active. -/
def resolve : Bool × PotentialLossDb :=
  db.updateKey id PotentialLossInfo.isActive PotentialLossInfo.resolve
    PotentialLossInfo.resolve_ledgerId

def findActive : PotentialLossDb := db.filter PotentialLossInfo.isActive

def Active : Prop :=
  (db.get id).any PotentialLossInfo.isActive

theorem resolve_hit : (db.resolve id).1 = true ↔ db.Active id := by
  unfold resolve Active
  rw [Table.updateKey_hit]

theorem not_active_resolve : ¬ (db.resolve id).2.Active id := by
  unfold resolve Active
  rw [Table.get_updateKey]
  cases db.get id with
  | none => simp
  | some entry =>
    simp only [Option.map_some, Option.any_some]
    split
    · simp [PotentialLossInfo.resolve, PotentialLossInfo.isActive]
    · assumption

theorem Active.of_resolve {db : PotentialLossDb} {id id' : TradeId}
    (h : (db.resolve id).2.Active id') : db.Active id' := by
  by_cases hid : id' = id
  · subst hid
    exact absurd h (not_active_resolve db id')
  · unfold Active resolve at *
    rw [Table.get_updateKey_ne _ hid] at h
    exact h

end PotentialLossDb

structure PotentialLossLedger where
  entries : PotentialLossDb
  runningTotal : Usd

namespace PotentialLossLedger

def fromEntries (entries : PotentialLossDb) : PotentialLossLedger where
  entries := entries
  runningTotal := ((entries.rows.filter PotentialLossInfo.isActive).map (·.maxLossUsd)).sum

def resolve (ledger : PotentialLossLedger) (id : TradeId) : PotentialLossLedger :=
  match ledger.entries.get id with
  | none => ledger
  | some entry =>
    { entries := (ledger.entries.updateKey id (fun _ => true) PotentialLossInfo.resolve
        PotentialLossInfo.resolve_ledgerId).2
      runningTotal :=
        if entry.isActive then max (ledger.runningTotal - entry.maxLossUsd) 0
        else ledger.runningTotal }

def activeCount (ledger : PotentialLossLedger) : Nat :=
  ledger.entries.rows.countP PotentialLossInfo.isActive

end PotentialLossLedger

/-! ## Figures and what they rest on -/

inductive Account
  | lifetime
  | daily
  | weekly
  | hourly
deriving DecidableEq, Repr

structure Booking where
  position : PositionId
  pnl : Usd
deriving DecidableEq, Repr

def timesBooked (bookings : List Booking) (p : PositionId) : Nat :=
  bookings.countP (·.position = p)

/-- The accounting state of `RiskEngine`, with the additions each figure rests on. -/
structure RiskEngine where
  lifetimeRealized : Usd
  daily : DailyAccounting
  weekly : WeeklyAccounting
  hourly : HourlyAccounting
  potentialLoss : PotentialLossLedger
  booked : Account → List Booking

/-- `apply_settlement`: the profit of a settled trade flows into all figures. -/
def RiskEngine.applySettlement (position : PositionId) (tradeId : TradeId) (netProfit : Usd) :
    RiskEngine where
  lifetimeRealized := e.lifetimeRealized + netProfit
  daily := e.daily.recordTrade now netProfit 0 0 .success
  weekly := e.weekly.recordTrade now netProfit 0 .success
  hourly := e.hourly.recordTrade now netProfit 0 .success
  potentialLoss := e.potentialLoss.resolve tradeId
  booked := fun account => ⟨position, netProfit⟩ :: e.booked account

theorem RiskEngine.applySettlement_adds (position : PositionId) (tradeId : TradeId)
    (netProfit : Usd) : let e' := e.applySettlement now position tradeId netProfit
    e'.lifetimeRealized = e.lifetimeRealized + netProfit ∧
      e'.daily.stats.pnl = (e.daily.maybeRollover now).stats.pnl + netProfit ∧
      e'.weekly.stats.pnl = (e.weekly.maybeRollover now).stats.pnl + netProfit ∧
      e'.hourly.stats.pnl = (e.hourly.maybeRollover now).stats.pnl + netProfit ∧
      ∀ account, e'.booked account = ⟨position, netProfit⟩ :: e.booked account :=
  ⟨rfl, e.daily.recordTrade_pnl .., e.weekly.recordTrade_pnl .., e.hourly.recordTrade_pnl ..,
    fun _ => rfl⟩

/-! ## The stored state -/

/-- The accounting columns of `risk_engine_state`. `snapshotAt` is the time of a
snapshot; read back from the row it is the row's `updated_at`. -/
structure RiskEngineState where
  hourlyLossUsd : Usd
  hourlyFeeUsd : Usd
  hourlyTradeCount : Int
  hourlySuccessCount : Int
  hourlyMissCount : Int
  hourlyWindowStart : DateTime
  dailyPnl : Usd
  dailyLossUsd : Usd
  dailyFeeUsd : Usd
  dailyBudgetSpent : Usd
  dailyTradeCount : Int
  dailySuccessCount : Int
  dailyMissCount : Int
  dailyWindowStart : NaiveDate
  weeklyLossUsd : Usd
  weeklyTradeCount : Int
  weeklyWindowStart : NaiveDate
  totalRealizedPnl : Usd
  snapshotAt : DateTime
deriving DecidableEq, Repr

def RiskEngine.snapshot : RiskEngineState where
  hourlyLossUsd := e.hourly.stats.loss
  hourlyFeeUsd := e.hourly.stats.fees
  hourlyTradeCount := i32OfU32 e.hourly.stats.tradeCount
  hourlySuccessCount := i32OfU32 e.hourly.stats.successCount
  hourlyMissCount := i32OfU32 e.hourly.stats.missCount
  hourlyWindowStart := e.hourly.windowStart
  dailyPnl := e.daily.stats.pnl
  dailyLossUsd := e.daily.stats.loss
  dailyFeeUsd := e.daily.stats.fees
  dailyBudgetSpent := e.daily.budgetSpent
  dailyTradeCount := i32OfU32 e.daily.stats.tradeCount
  dailySuccessCount := i32OfU32 e.daily.stats.successCount
  dailyMissCount := i32OfU32 e.daily.stats.missCount
  dailyWindowStart := e.daily.windowStart
  weeklyLossUsd := e.weekly.stats.loss
  weeklyTradeCount := i32OfU32 e.weekly.stats.tradeCount
  weeklyWindowStart := e.weekly.weekStart
  totalRealizedPnl := e.lifetimeRealized
  snapshotAt := now

/-- The row `risk_engine_state` and the additions its figures rest on. The row is
seeded when the database is set up, so it always exists. -/
structure StoredRiskState where
  row : RiskEngineState
  booked : Account → List Booking

/-- `do_upsert` on the existing row: the columns that the conflict clause updates, with
`updated_at` set by the database. -/
def StoredRiskState.upsert (stored : StoredRiskState) (state : RiskEngineState)
    (booked : Account → List Booking) (updatedAt : DateTime) : StoredRiskState where
  row := { stored.row with
    hourlyLossUsd := state.hourlyLossUsd
    hourlyFeeUsd := state.hourlyFeeUsd
    hourlyTradeCount := state.hourlyTradeCount
    hourlySuccessCount := state.hourlySuccessCount
    hourlyMissCount := state.hourlyMissCount
    hourlyWindowStart := state.hourlyWindowStart
    dailyLossUsd := state.dailyLossUsd
    dailyFeeUsd := state.dailyFeeUsd
    dailyPnl := state.dailyPnl
    dailyBudgetSpent := state.dailyBudgetSpent
    dailyTradeCount := state.dailyTradeCount
    dailySuccessCount := state.dailySuccessCount
    dailyMissCount := state.dailyMissCount
    dailyWindowStart := state.dailyWindowStart
    weeklyLossUsd := state.weeklyLossUsd
    weeklyTradeCount := state.weeklyTradeCount
    weeklyWindowStart := state.weeklyWindowStart
    snapshotAt := updatedAt }
  booked
    | .lifetime => stored.booked .lifetime
    | .daily => booked .daily
    -- there are no columns for these two profits
    | .weekly => []
    | .hourly => []

/-! ## Restart -/

/-- What a start of the process meets: the clock, the configured daily budget, the number
of open positions, and an error of the breaker's own recovery. -/
structure Boot where
  now : DateTime
  dailyBudgetUsd : Usd
  openPositions : Nat
  breakerError : Option String

/-- `recover_state` and `RiskEngineBuilder::build`: the engine a start brings up. -/
def recoverState (boot : Boot) (stored : StoredRiskState) (entries : PotentialLossDb) :
    Except String RiskEngine :=
  let snapshot := stored.row
  let today := DateTime.dateNaive boot.now
  let snapshotDate := DateTime.dateNaive snapshot.snapshotAt
  let potentialLoss := PotentialLossLedger.fromEntries entries
  let active := potentialLoss.activeCount
  match boot.breakerError with
  | some error => .error error
  | none =>
    if today < snapshotDate then
      .error s!"snapshot date {snapshotDate} is in the future (today: {today})"
    else if snapshot.dailyLossUsd < 0 then .error "snapshot daily_loss is negative"
    else if snapshot.weeklyLossUsd < 0 then .error "snapshot weekly_loss is negative"
    else if snapshot.hourlyLossUsd < 0 then .error "snapshot hourly_loss is negative"
    else if 0 < active && boot.openPositions = 0 then
      .error s!"recovery invariant failed: {active} active potential-loss entries but no open positions"
    else if boot.openPositions < active then
      .error s!"recovery invariant failed: {active} active potential-loss entries exceed {boot.openPositions} open positions"
    else
      .ok
        { lifetimeRealized := snapshot.totalRealizedPnl
          daily :=
            (DailyAccounting.fromSnapshot snapshotDate
              { loss := snapshot.dailyLossUsd
                pnl := snapshot.dailyPnl
                fees := snapshot.dailyFeeUsd
                tradeCount := u32OfI32 0 snapshot.dailyTradeCount
                successCount := u32OfI32 0 snapshot.dailySuccessCount
                missCount := u32OfI32 0 snapshot.dailyMissCount }
              boot.dailyBudgetUsd snapshot.dailyBudgetSpent).maybeRollover boot.now
          weekly :=
            WeeklyAccounting.maybeRollover
              { weekStart := snapshotDate
                stats :=
                  { loss := snapshot.weeklyLossUsd
                    tradeCount := u32OfI32 0 snapshot.weeklyTradeCount } }
              boot.now
          hourly :=
            HourlyAccounting.maybeRollover
              { windowStartHour := DateTime.hour snapshot.snapshotAt
                windowStartDate := snapshotDate
                stats :=
                  { loss := snapshot.hourlyLossUsd
                    fees := snapshot.hourlyFeeUsd
                    tradeCount := u32OfI32 0 snapshot.hourlyTradeCount
                    successCount := u32OfI32 0 snapshot.hourlySuccessCount
                    missCount := u32OfI32 0 snapshot.hourlyMissCount } }
              boot.now
          potentialLoss := potentialLoss
          booked := stored.booked }

theorem recoverState_ok {boot : Boot} {stored : StoredRiskState} {entries : PotentialLossDb}
    {e : RiskEngine} (h : recoverState boot stored entries = .ok e) :
    e.lifetimeRealized = stored.row.totalRealizedPnl ∧ e.booked = stored.booked := by
  simp only [recoverState] at h
  repeat' split at h
  all_goals cases h
  exact ⟨rfl, rfl⟩

end OxideArb
