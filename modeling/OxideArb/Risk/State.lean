import OxideArb.Lib.Routine
import OxideArb.Risk.Parts

/-!
# State of the risk engine

The engine's locked state, the published snapshot, the stored row and the world around them. A
snapshot is written by the task that holds it (`Pending`); its ticket is the number of the step it
was taken at. `inFlight` and `written` record the order of these writes.
-/

namespace OxideArb.Risk

/-! ## What is published -/

structure CircuitBreakerGate where
  allowsTrading : Bool
  isProbe : Bool
deriving DecidableEq, Repr

inductive ManualHaltGate
  | clear
  | halted (reason : String)
deriving DecidableEq, Repr

def ManualHaltGate.allowsTrading : ManualHaltGate → Bool
  | .clear => true
  | .halted _ => false

structure RiskSnapshot where
  circuitBreaker : CircuitBreakerGate
  manualHalt : ManualHaltGate
  dailyLoss : Usd
  dailyFee : Usd
  dailyPnl : Usd
  dailyBudgetRemaining : Usd
  weeklyLoss : Usd
  hourlyLoss : Usd
  hourlyFee : Usd
  drawdownHwm : Usd
  maxDrawdownPct : Decimal
  reductionFactor : Decimal
  totalPotentialLoss : Usd
deriving DecidableEq, Repr

def RiskSnapshot.zeroed : RiskSnapshot where
  circuitBreaker := { allowsTrading := true, isProbe := false }
  manualHalt := .clear
  dailyLoss := 0
  dailyFee := 0
  dailyPnl := 0
  dailyBudgetRemaining := 0
  weeklyLoss := 0
  hourlyLoss := 0
  hourlyFee := 0
  drawdownHwm := 0
  maxDrawdownPct := 0
  reductionFactor := 1
  totalPotentialLoss := 0

/-! ## The engine -/

structure Engine where
  circuitBreaker : CircuitBreaker
  daily : DailyAccounting
  weekly : WeeklyAccounting
  hourly : HourlyAccounting
  potentialLoss : Ledger
  lifetimeRealized : Usd
  config : RiskConfig
  riskSnapshot : RiskSnapshot
  publishedBlacklist : BlacklistKey → Option BlacklistInfo
  blacklist : BlacklistManager
  drawdown : DrawdownGuard
  stateVersion : Nat
  lastEmergency : Option (DateTime × String)

namespace Engine

variable (e : Engine) (now : DateTime)

def compileRiskSnapshot : RiskSnapshot where
  circuitBreaker :=
    { allowsTrading := e.circuitBreaker.state.allowsTrading
      isProbe := e.circuitBreaker.state.isProbeMode }
  manualHalt :=
    match e.circuitBreaker.state with
    | .halted _ reason _ => .halted reason
    | _ => .clear
  dailyLoss := e.daily.stats.loss
  dailyFee := e.daily.stats.fees
  dailyPnl := e.daily.stats.pnl
  dailyBudgetRemaining := e.daily.budgetRemaining
  weeklyLoss := e.weekly.stats.loss
  hourlyLoss := e.hourly.stats.loss
  hourlyFee := e.hourly.stats.fees
  drawdownHwm := e.drawdown.hwm
  maxDrawdownPct := e.config.maxDrawdownPct
  reductionFactor := e.config.drawdownReductionFactor
  totalPotentialLoss := e.potentialLoss.runningTotal

def publishRiskSnapshot : Engine :=
  { e with
    riskSnapshot := e.compileRiskSnapshot
    publishedBlacklist := fun key => (e.blacklist.entries key).filter fun b => !b.isExpired now }

def incrementVersion : Engine := { e with stateVersion := e.stateVersion + 1 }

def haltInternal (reason : String) : Engine :=
  publishRiskSnapshot
    { e with circuitBreaker := e.circuitBreaker.halt now .system reason } now

def allowsTrading : Bool :=
  e.riskSnapshot.circuitBreaker.allowsTrading && e.riskSnapshot.manualHalt.allowsTrading

theorem allowsTrading_publish {e : Engine} (h : e.circuitBreaker.state.allowsTrading = false)
    (now : DateTime) : (e.publishRiskSnapshot now).allowsTrading = false := by
  simp [allowsTrading, publishRiskSnapshot, compileRiskSnapshot, h]

theorem haltInternal_haltedAt (reason : String) :
    (e.haltInternal now reason).circuitBreaker.state.haltedAt .system = true :=
  e.circuitBreaker.halt_haltedAt now .system reason

end Engine

/-! ## The stored row -/

/-- All columns of `risk_engine_state`, beyond the accounting columns. -/
structure EngineState extends RiskEngineState where
  breakerState : BreakerStateName
  breakerLevel : Option CircuitBreakerLevel
  isHalted : Bool
  haltReason : Option String
  cooldownUntil : Option DateTime
  totalExposure : Usd
  consecutiveMisses : Int
  cooldownMultiplier : Int
  hwmEquity : Usd
  lastEmergencyAt : Option DateTime
  lastEmergencyReason : Option String
deriving DecidableEq, Repr

def EngineState.seed (now : DateTime) : EngineState where
  breakerState := .closed
  breakerLevel := none
  isHalted := false
  haltReason := none
  cooldownUntil := none
  totalExposure := 0
  hourlyLossUsd := 0
  hourlyFeeUsd := 0
  hourlyTradeCount := 0
  hourlySuccessCount := 0
  hourlyMissCount := 0
  hourlyWindowStart := now
  dailyPnl := 0
  dailyLossUsd := 0
  dailyFeeUsd := 0
  dailyBudgetSpent := 0
  dailyTradeCount := 0
  dailySuccessCount := 0
  dailyMissCount := 0
  dailyWindowStart := DateTime.dateNaive now
  weeklyLossUsd := 0
  weeklyTradeCount := 0
  weeklyWindowStart := DateTime.dateNaive now
  consecutiveMisses := 0
  cooldownMultiplier := 1
  hwmEquity := 0
  totalRealizedPnl := 0
  lastEmergencyAt := none
  lastEmergencyReason := none
  snapshotAt := now

structure Readings where
  totalExposure : Usd
  equity : Usd
  apiRequestCount : Nat
  apiErrorCount : Nat
deriving Repr

def Engine.snapshot (e : Engine) (now : DateTime) (readings : Readings) (globalMisses : Nat) :
    EngineState where
  breakerState := e.circuitBreaker.state.toName
  breakerLevel := match e.circuitBreaker.state with
    | .opened level .. | .halfOpen level .. | .halted level .. => some level
    | _ => none
  isHalted := e.circuitBreaker.state.isHalted
  haltReason := match e.circuitBreaker.state with
    | .opened _ reason .. | .halted _ reason _ => some reason
    | _ => none
  cooldownUntil := e.circuitBreaker.state.cooldownUntil
  totalExposure := readings.totalExposure
  hourlyLossUsd := e.hourly.stats.loss
  hourlyFeeUsd := e.hourly.stats.fees
  hourlyTradeCount := i32OfU32 e.hourly.stats.tradeCount
  hourlySuccessCount := i32OfU32 e.hourly.stats.successCount
  hourlyMissCount := i32OfU32 e.hourly.stats.missCount
  hourlyWindowStart := e.hourly.windowStart
  dailyPnl := e.daily.stats.pnl
  dailyLossUsd := e.daily.stats.loss
  dailyFeeUsd := e.daily.stats.fees
  dailyBudgetSpent := e.daily.budgetSpent
  dailyTradeCount := i32OfU32 e.daily.stats.tradeCount
  dailySuccessCount := i32OfU32 e.daily.stats.successCount
  dailyMissCount := i32OfU32 e.daily.stats.missCount
  dailyWindowStart := e.daily.windowStart
  weeklyLossUsd := e.weekly.stats.loss
  weeklyTradeCount := i32OfU32 e.weekly.stats.tradeCount
  weeklyWindowStart := e.weekly.weekStart
  -- a count too large for the column is stored as zero
  consecutiveMisses := if (globalMisses : Int) ≤ i32Max then globalMisses else 0
  cooldownMultiplier := i32OfU32 e.circuitBreaker.l2TripCount
  hwmEquity := e.drawdown.hwm
  totalRealizedPnl := e.lifetimeRealized
  lastEmergencyAt := e.lastEmergency.map Prod.fst
  lastEmergencyReason := e.lastEmergency.map Prod.snd
  snapshotAt := now

/-- `do_upsert` on the existing row: the columns that the conflict clause lists, with
`updated_at` set by the database. The lifetime total is not listed. -/
def EngineState.upsert (row state : EngineState) (updatedAt : DateTime) : EngineState :=
  { row with
    breakerState := state.breakerState
    breakerLevel := state.breakerLevel
    isHalted := state.isHalted
    haltReason := state.haltReason
    consecutiveMisses := state.consecutiveMisses
    cooldownUntil := state.cooldownUntil
    cooldownMultiplier := state.cooldownMultiplier
    totalExposure := state.totalExposure
    hourlyLossUsd := state.hourlyLossUsd
    hourlyFeeUsd := state.hourlyFeeUsd
    hourlyTradeCount := state.hourlyTradeCount
    hourlySuccessCount := state.hourlySuccessCount
    hourlyMissCount := state.hourlyMissCount
    hourlyWindowStart := state.hourlyWindowStart
    dailyLossUsd := state.dailyLossUsd
    dailyFeeUsd := state.dailyFeeUsd
    dailyPnl := state.dailyPnl
    dailyBudgetSpent := state.dailyBudgetSpent
    dailyTradeCount := state.dailyTradeCount
    dailySuccessCount := state.dailySuccessCount
    dailyMissCount := state.dailyMissCount
    dailyWindowStart := state.dailyWindowStart
    weeklyLossUsd := state.weeklyLossUsd
    weeklyTradeCount := state.weeklyTradeCount
    weeklyWindowStart := state.weeklyWindowStart
    hwmEquity := state.hwmEquity
    lastEmergencyAt := state.lastEmergencyAt
    lastEmergencyReason := state.lastEmergencyReason
    snapshotAt := updatedAt }

theorem EngineState.upsert_eq (row state : EngineState) (updatedAt : DateTime) :
    row.upsert state updatedAt =
      { state with totalRealizedPnl := row.totalRealizedPnl, snapshotAt := updatedAt } :=
  rfl

/-! ## The world of the engine -/

structure Database where
  row : EngineState
  potentialLoss : LedgerTable
  fillsApplied : List TradeId

structure Pending where
  ticket : Nat
  state : EngineState

structure World where
  engine : Engine
  counters : TradeCounters
  db : Database
  clock : DateTime
  steps : Nat
  inFlight : List Nat
  debounced : Option Pending
  written : List Nat
  failedClosed : Bool

def World.initial (engine : Engine) (db : Database) (now : DateTime) : World where
  engine := engine
  counters := .new now
  db := db
  clock := now
  steps := 0
  inFlight := []
  debounced := none
  written := []
  failedClosed := false

/-- How a call to the database ends; a lost reply is an error to the caller although the
call took effect. -/
inductive Fault
  | none
  | failed (error : String)
  | lost (error : String)
deriving DecidableEq, Repr

/-- What the environment supplies to one step. -/
structure Answer where
  now : DateTime
  readings : Readings
  fault : Fault
deriving Repr

instance : Inhabited Answer := ⟨⟨0, ⟨0, 0, 0, 0⟩, .none⟩⟩

/-- An answer at a time, from metrics that are all zero. -/
def Answer.timed (now : DateTime) (fault : Fault) : Answer := { (default : Answer) with now, fault }

namespace World

variable (w : World) (trade : PostTradeInput) (p : Pending)

/-- The clock does not run backwards. -/
def advance (a : Answer) : World :=
  { w with clock := max w.clock a.now, steps := w.steps + 1 }

def onEngine (f : Engine → Engine) : World := { w with engine := f w.engine }

/-- A snapshot taken now, as `UpsertRiskEngineState`. -/
def capture (readings : Readings) : Pending × World :=
  ({ ticket := w.steps
     state := w.engine.snapshot w.clock readings (w.counters.marketMisses ⟨"_global_"⟩) },
   { w with inFlight := w.steps :: w.inFlight })

def drop (ticket : Nat) : World :=
  { w with inFlight := w.inFlight.filter (· ≠ ticket) }

def writeState : World :=
  { w with
    db := { w.db with row := w.db.row.upsert p.state w.clock }
    written := p.ticket :: w.written }

/-- The fill's transaction: the marker, the potential loss and the state, or nothing. -/
def commitFill : Except String Unit × World :=
  let potentialLoss :=
    if trade.isSuccess then w.db.potentialLoss.insert (trade.potentialLoss w.clock)
    else some w.db.potentialLoss
  match potentialLoss with
  | none => (.error "potential_loss_ledger: duplicate key", w)
  | some potentialLoss =>
    (.ok (), { w.writeState p with
      db := { (w.writeState p).db with
        potentialLoss
        fillsApplied := trade.tradeId :: w.db.fillsApplied } })

def resolvePotentialLoss (id : TradeId) : Except String Unit × World :=
  let (hit, potentialLoss) := w.db.potentialLoss.updateKey id LedgerEntry.isActive
    (LedgerEntry.resolve w.clock) (LedgerEntry.resolve_key w.clock)
  if hit then (.ok (), { w with db := { w.db with potentialLoss } })
  else (.error s!"potential_loss_ledger {id.raw} not found", w)

/-- The active entries older than `secs` seconds. -/
def staleCount (secs : Nat) : Nat :=
  w.db.potentialLoss.rows.countP fun entry =>
    entry.isActive && entry.createdAt < w.clock - durationSecs secs

@[simp] theorem drop_engine (ticket : Nat) : (w.drop ticket).engine = w.engine := rfl

@[simp] theorem commitFill_engine : (w.commitFill trade p).2.engine = w.engine := by
  unfold commitFill
  dsimp only
  split <;> rfl

@[simp] theorem commitFill_clock : (w.commitFill trade p).2.clock = w.clock := by
  unfold commitFill
  dsimp only
  split <;> rfl

@[simp] theorem resolvePotentialLoss_engine (id : TradeId) :
    (w.resolvePotentialLoss id).2.engine = w.engine := by
  unfold resolvePotentialLoss
  dsimp only
  split <;> rfl

@[simp] theorem resolvePotentialLoss_clock (id : TradeId) :
    (w.resolvePotentialLoss id).2.clock = w.clock := by
  unfold resolvePotentialLoss
  dsimp only
  split <;> rfl

/-- A failed write halts the engine. -/
def failClosed (reason : String) : World :=
  { w with engine := w.engine.haltInternal w.clock reason, failedClosed := true }

end World

/-! ## Steps of an operation -/

abbrev Op := Routine Answer World String

def sync {α : Type} (f : Readings → World → α × World) : Op α :=
  Routine.atomically fun a w => f a.readings (w.advance a)

def Fault.apply {α : Type} (f : World → Except String α × World) (w : World) :
    Fault → Except String α × World
  | .none => f w
  | .failed error => (.error error, w)
  | .lost error => (.error error, (f w).2)

/-- A call to the database, which runs on its own. -/
def call {α : Type} (f : World → Except String α × World) : Op (Except String α) :=
  Routine.atomically fun a w => a.fault.apply f (w.advance a)

/-- A call that writes a snapshot. Whatever becomes of the call, the snapshot is no longer
in flight after it. -/
def writeCall (p : Pending) (f : World → Except String Unit × World) :
    Op (Except String Unit) :=
  Routine.atomically fun a w =>
    let r := a.fault.apply f (w.advance a)
    (r.1, r.2.drop p.ticket)

end OxideArb.Risk
