import OxideArb.Risk.Steps

/-!
# Building the engine from what is stored

At a start the engine is built from the row `risk_engine_state` and the active entries of the
ledger. The windows come back dated by the row's `updated_at` and are then rolled over.
-/

namespace OxideArb.Risk

/-! ## The parts of the row -/

def BreakerState.ofRow (config : CircuitBreakerConfig) (row : EngineState) :
    Except String BreakerState :=
  match row.breakerState with
  | .closed => .ok .closed
  | .opened =>
    match row.breakerLevel, row.haltReason, row.cooldownUntil with
    | none, _, _ => .error "corrupt breaker snapshot: Open state missing breaker_level"
    | _, none, _ => .error "corrupt breaker snapshot: Open state missing halt_reason"
    | _, _, none => .error "corrupt breaker snapshot: Open state missing cooldown_until"
    | some level, some reason, some cooldownUntil =>
      .ok (.opened level reason row.snapshotAt cooldownUntil)
  | .halfOpen =>
    match row.breakerLevel with
    | none => .error "corrupt breaker snapshot: HalfOpen state missing breaker_level"
    | some level => .ok (.halfOpen level row.snapshotAt 0 config.halfOpenProbes)
  | .recovered =>
    .ok (.recovered row.snapshotAt
      (row.snapshotAt + durationSecs config.recoveryObservationSecs))
  | .halted =>
    match row.breakerLevel, row.haltReason with
    | none, _ => .error "corrupt breaker snapshot: Halted state missing breaker_level"
    | _, none => .error "corrupt breaker snapshot: Halted state missing halt_reason"
    | some level, some reason => .ok (.halted level reason row.snapshotAt)

def CircuitBreaker.fromSnapshot (config : CircuitBreakerConfig) (row : EngineState) :
    Except String CircuitBreaker :=
  match BreakerState.ofRow config row with
  | .error e => .error e
  | .ok state => .ok
    { config, state
      l2TripCount := u32OfI32 0 row.cooldownMultiplier
      heartbeatFailures := 0
      lastTransitionAt := row.snapshotAt }

namespace EngineState

variable (row : EngineState)

def daily (budget : Usd) : DailyAccounting :=
  DailyAccounting.fromSnapshot (DateTime.dateNaive row.snapshotAt)
    { loss := row.dailyLossUsd
      pnl := row.dailyPnl
      fees := row.dailyFeeUsd
      tradeCount := u32OfI32 0 row.dailyTradeCount
      successCount := u32OfI32 0 row.dailySuccessCount
      missCount := u32OfI32 0 row.dailyMissCount }
    budget row.dailyBudgetSpent

/-- The row has no columns for the week's fees, successes and misses, and the week is dated by
the day of the write. -/
def weekly : WeeklyAccounting where
  weekStart := DateTime.dateNaive row.snapshotAt
  stats :=
    { loss := row.weeklyLossUsd
      tradeCount := u32OfI32 0 row.weeklyTradeCount }

def hourly : HourlyAccounting where
  windowStartHour := DateTime.hour row.snapshotAt
  windowStartDate := DateTime.dateNaive row.snapshotAt
  stats :=
    { loss := row.hourlyLossUsd
      fees := row.hourlyFeeUsd
      tradeCount := u32OfI32 0 row.hourlyTradeCount
      successCount := u32OfI32 0 row.hourlySuccessCount
      missCount := u32OfI32 0 row.hourlyMissCount }

end EngineState

/-! ## Recovery -/

structure Boot where
  now : DateTime
  config : RiskConfig
  openPositions : Nat
  equity : Usd
  blacklist : List BlacklistInfo

structure RecoveredState where
  breaker : CircuitBreaker
  daily : DailyAccounting
  weekly : WeeklyAccounting
  hourly : HourlyAccounting
  potentialLoss : Ledger
  drawdownHwm : Usd

namespace Boot

variable (boot : Boot) (row : EngineState) (entries : LedgerTable)

def recoveryError (ledger : Ledger) : Option String :=
  let today := DateTime.dateNaive boot.now
  let snapshotDate := DateTime.dateNaive row.snapshotAt
  let active := ledger.activeCount
  if today < snapshotDate then
    some s!"snapshot date {snapshotDate} is in the future (today: {today})"
  else if row.dailyLossUsd < 0 then some "snapshot daily_loss is negative"
  else if row.weeklyLossUsd < 0 then some "snapshot weekly_loss is negative"
  else if row.hourlyLossUsd < 0 then some "snapshot hourly_loss is negative"
  else if 0 < active && boot.openPositions = 0 then
    some (s!"recovery invariant failed: {active} active potential-loss entries " ++
      "but no open positions")
  else if boot.openPositions < active then
    some (s!"recovery invariant failed: {active} active potential-loss entries " ++
      s!"exceed {boot.openPositions} open positions")
  else none

/-- What a row and the ledger are recovered to, with the breaker at hand. -/
def recovered (breaker : CircuitBreaker) : RecoveredState where
  breaker := breaker
  daily := (row.daily boot.config.dailyBudgetUsd).maybeRollover boot.now
  weekly := row.weekly.maybeRollover boot.now
  hourly := row.hourly.maybeRollover boot.now
  potentialLoss := .fromEntries entries
  drawdownHwm := if 0 < row.hwmEquity then row.hwmEquity else boot.equity

def recoverState : Except String RecoveredState :=
  match CircuitBreaker.fromSnapshot boot.config.circuitBreaker row with
  | .error e => .error e
  | .ok breaker =>
    match boot.recoveryError row (.fromEntries entries) with
    | some e => .error e
    | none => .ok (boot.recovered row entries breaker)

def isStale (entry : LedgerEntry) : Bool :=
  entry.isActive &&
    min (boot.config.potentialLossEscalationSecs : Int) i64Max ≤
      Duration.numSeconds (boot.now - entry.createdAt)

def safeStartReason (breaker : CircuitBreaker) (ledger : Ledger) : Option String :=
  let stale := ledger.entries.rows.countP boot.isStale
  let staleReason :=
    if 0 < stale then some s!"safe-start: {stale} stale active potential-loss entries at boot"
    else none
  match breaker.state with
  | .halted level reason _ =>
    some s!"safe-start: breaker is Halted (level={level.display}, reason={reason})"
  | .opened level reason _ cooldownUntil =>
    if boot.now < cooldownUntil then
      some s!"safe-start: breaker is Open (level={level.display}, reason={reason})"
    else staleReason
  | _ => staleReason

def startBreaker (breaker : CircuitBreaker) (ledger : Ledger) : CircuitBreaker :=
  match boot.safeStartReason breaker ledger with
  | none => breaker
  | some reason =>
    if breaker.state.isHalted then breaker else breaker.halt boot.now .system reason

def engine (recovered : RecoveredState) : Engine :=
  Engine.publishRiskSnapshot
    { circuitBreaker := boot.startBreaker recovered.breaker recovered.potentialLoss
      daily := recovered.daily
      weekly := recovered.weekly
      hourly := recovered.hourly
      potentialLoss := recovered.potentialLoss
      lifetimeRealized := row.totalRealizedPnl
      config := boot.config
      riskSnapshot := .zeroed
      publishedBlacklist := fun _ => none
      blacklist := (BlacklistManager.new boot.config boot.now).loadEntries boot.blacklist boot.now
      drawdown :=
        { hwm := recovered.drawdownHwm
          maxDrawdownPct := boot.config.maxDrawdownPct
          reductionFactor := boot.config.drawdownReductionFactor }
      stateVersion := 0
      lastEmergency :=
        match row.lastEmergencyAt, row.lastEmergencyReason with
        | some at_, some reason => some (at_, reason)
        | _, _ => none } boot.now

/-- `RiskEngineBuilder::build` from a stored row. -/
def build : Except String Engine :=
  match boot.recoverState row entries with
  | .error e => .error e
  | .ok recovered => .ok (boot.engine row recovered)

end Boot

def Database.findActive (db : Database) : LedgerTable :=
  db.potentialLoss.filter LedgerEntry.isActive

variable (boot : Boot)

def Boot.restart (db : Database) : Except String Engine :=
  boot.build db.row db.findActive

theorem Boot.restart_ok_iff {boot : Boot} {db : Database} {e : Engine} :
    boot.restart db = .ok e ↔
      ∃ breaker, CircuitBreaker.fromSnapshot boot.config.circuitBreaker db.row = .ok breaker ∧
        boot.recoveryError db.row (.fromEntries db.findActive) = none ∧
        e = boot.engine db.row (boot.recovered db.row db.findActive breaker) := by
  unfold restart build recoverState
  cases hb : CircuitBreaker.fromSnapshot boot.config.circuitBreaker db.row with
  | error err => simp
  | ok breaker =>
    cases hr : boot.recoveryError db.row (.fromEntries db.findActive) with
    | some err => simp
    | none => simp [eq_comm]

/-! ## The first start -/

def Database.seed (now : DateTime) : Database where
  row := .seed now
  potentialLoss := .empty
  fillsApplied := []

def Boot.seededBreaker : CircuitBreaker where
  config := boot.config.circuitBreaker
  state := .closed
  l2TripCount := 1
  heartbeatFailures := 0
  lastTransitionAt := boot.now

def Boot.seeded : Engine :=
  boot.engine (.seed boot.now) (boot.recovered (.seed boot.now) .empty boot.seededBreaker)

theorem Boot.restart_seed : boot.restart (.seed boot.now) = .ok boot.seeded := by
  refine restart_ok_iff.mpr ⟨boot.seededBreaker, rfl, ?_, rfl⟩
  simp [recoveryError, Database.findActive, Database.seed, EngineState.seed, Ledger.activeCount,
    Ledger.fromEntries, Table.empty, Table.filter]

/-- A first start at the epoch with the default configuration. -/
def Boot.first : Boot where
  now := 0
  config := .default
  openPositions := 0
  equity := 1000
  blacklist := []

def World.first : World := .initial Boot.first.seeded (.seed Boot.first.now) Boot.first.now

def lostPosition : PostTradeInput where
  tradeId := ⟨2⟩
  marketId := ⟨"market-2"⟩
  side := .buy
  outcome := .success
  costUsd := 20
  feeUsd := 0
  netProfitUsd := some (-20)

end OxideArb.Risk
