import OxideArb.Risk.State

/-!
# Operations of the risk engine

Each operation is a routine: synchronous sections on the engine, and calls to the database
between them during which other operations may run.
-/

namespace OxideArb.Risk

/-! ## Applying a trade -/

def escalate (current : Option CircuitBreakerLevel) (new : CircuitBreakerLevel) :
    Option CircuitBreakerLevel :=
  some (current.elim new (max · new))

abbrev Checked := Option CircuitBreakerLevel × CircuitBreaker

def haltIf (now : DateTime) (level : CircuitBreakerLevel) (breached : Bool) (reason : String)
    (c : Checked) : Checked :=
  if breached then (escalate c.1 level, c.2.halt now level reason) else c

def tripIf (now : DateTime) (level : CircuitBreakerLevel) (breached : Bool) (reason : String)
    (c : Checked) : Checked :=
  if breached then (escalate c.1 level, c.2.trip now level reason) else c

namespace Engine

variable (e : Engine) (now : DateTime) (trade : PostTradeInput)

def applyFill : Engine :=
  { e with
    daily := e.daily.recordTrade now 0 trade.feeUsd trade.costUsd trade.outcome
    weekly := e.weekly.recordTrade now 0 trade.feeUsd trade.outcome
    hourly := e.hourly.recordTrade now 0 trade.feeUsd trade.outcome
    potentialLoss :=
      if trade.isSuccess then e.potentialLoss.recordEntry (trade.potentialLoss now)
      else e.potentialLoss }

def applySettlement : Engine :=
  let netProfit := trade.netProfitUsd.getD 0
  { e with
    lifetimeRealized := e.lifetimeRealized + netProfit
    daily := e.daily.recordTrade now netProfit 0 0 trade.outcome
    weekly := e.weekly.recordTrade now netProfit 0 trade.outcome
    hourly := e.hourly.recordTrade now netProfit 0 trade.outcome
    potentialLoss := e.potentialLoss.resolve now trade.tradeId }

def lossCaps (c : Checked) : Checked :=
  let dailyLoss := e.daily.stats.loss
  let weeklyLoss := e.weekly.stats.loss
  let maxSingle := e.daily.stats.maxSingleLoss
  let dailyFee := e.daily.stats.fees
  let hourlyLoss := e.hourly.stats.loss
  let c := haltIf now .daily (e.config.maxDailyLossUsd ≤ dailyLoss)
    s!"daily loss cap breached: {dailyLoss}" c
  let c := haltIf now .system (e.config.maxWeeklyLossUsd ≤ weeklyLoss)
    s!"weekly loss cap breached: {weeklyLoss}" c
  let c := haltIf now .daily (e.config.maxSingleLossUsd ≤ maxSingle)
    s!"single loss cap breached: {maxSingle}" c
  let c := haltIf now .daily (e.config.maxDailyFeeSpendUsd ≤ dailyFee)
    s!"daily fee spend cap breached: {dailyFee}" c
  tripIf now .session (e.config.maxHourlyLossUsd ≤ hourlyLoss)
    s!"hourly loss cap breached: {hourlyLoss}" c

def checkLossCaps : Option CircuitBreakerLevel × Engine :=
  let c := e.lossCaps now (none, e.circuitBreaker)
  (c.1, { e with circuitBreaker := c.2 })

def probe (b : CircuitBreaker) (now : DateTime) (success : Bool) : CircuitBreaker :=
  if b.state.isProbeMode then b.onTradeResult now success else b

def commonCaps (readings : Readings) (misses : Nat) (c : Checked) : Checked :=
  let dailyFee := e.daily.stats.fees
  let hourlyFee := e.hourly.stats.fees
  let errorRate : Decimal := readings.apiErrorCount / readings.apiRequestCount
  let c := tripIf now .session (e.config.maxConsecutiveMisses ≤ misses)
    s!"consecutive misses: {misses} >= {e.config.maxConsecutiveMisses}" c
  -- the source assigns the level here, which is at least the one it replaces
  let c := haltIf now .daily (e.config.maxDailyFeeSpendUsd ≤ dailyFee)
    s!"daily fee spend cap breached: {dailyFee}" c
  let c := tripIf now .session (e.config.maxHourlyFeeSpendUsd ≤ hourlyFee)
    s!"hourly fee spend cap breached: {hourlyFee}" c
  tripIf now .session
    (0 < readings.apiRequestCount && e.config.apiErrorRateThreshold ≤ errorRate)
    s!"API error rate {errorRate} >= threshold {e.config.apiErrorRateThreshold}" c

def applyCommonChecks (readings : Readings) (misses : Nat) : Option CircuitBreakerLevel × Engine :=
  let c := e.commonCaps now readings misses
    (none, probe e.circuitBreaker now trade.isSuccess)
  (c.1, { e with
    circuitBreaker := c.2
    drawdown := e.drawdown.updateEquity readings.equity })

end Engine

structure PostTradeReport where
  breakerTripped : Option CircuitBreakerLevel
  autoBlacklisted : Option BlacklistInfo
  snapshot : Pending

namespace World

variable (w : World) (phase : TradeAccountingPhase) (trade : PostTradeInput)

def applyPhase : Option CircuitBreakerLevel × Engine :=
  match phase with
  | .fill => (none, w.engine.applyFill w.clock trade)
  | .settlement => (w.engine.applySettlement w.clock trade).checkLossCaps w.clock

def autoBlacklist : Option BlacklistInfo × BlacklistManager :=
  if trade.isMiss then
    w.engine.blacklist.maybeAutoBlacklist w.clock trade.marketId
      (w.counters.marketMisses trade.marketId)
  else (none, w.engine.blacklist)

def publishAndCapture (readings : Readings) : Pending × World :=
  (w.onEngine (·.publishRiskSnapshot w.clock)).capture readings

/-- How a change is published: a new version, a new snapshot, and one for the database. -/
def bump (readings : Readings) : Pending × World :=
  (w.onEngine (·.incrementVersion)).publishAndCapture readings

def tradeEffects (readings : Readings) :
    (Option CircuitBreakerLevel × Option BlacklistInfo) × World :=
  let phased := w.applyPhase phase trade
  let listed := w.autoBlacklist trade
  let checked := { phased.2 with blacklist := listed.2 }.applyCommonChecks w.clock trade readings
    (w.counters.marketMisses trade.marketId)
  ((checked.1.elim phased.1 (escalate phased.1), listed.1), { w with engine := checked.2 })

def applyTradeResult (readings : Readings) : PostTradeReport × World :=
  let changed := w.tradeEffects phase trade readings
  let bumped := changed.2.bump readings
  ({ breakerTripped := changed.1.1
     autoBlacklisted := changed.1.2
     snapshot := bumped.1 }, bumped.2)

structure MutableRiskState where
  circuitBreaker : CircuitBreaker
  daily : DailyAccounting
  weekly : WeeklyAccounting
  hourly : HourlyAccounting
  potentialLoss : Ledger
  drawdown : DrawdownGuard
  stateVersion : Nat

def captureMutableState : MutableRiskState where
  circuitBreaker := w.engine.circuitBreaker
  daily := w.engine.daily
  weekly := w.engine.weekly
  hourly := w.engine.hourly
  potentialLoss := w.engine.potentialLoss
  drawdown := w.engine.drawdown
  stateVersion := w.engine.stateVersion

def restoreMutableState (image : MutableRiskState) : World :=
  w.onEngine fun e =>
    { e with
      circuitBreaker := image.circuitBreaker
      daily := image.daily
      weekly := image.weekly
      hourly := image.hourly
      potentialLoss := image.potentialLoss
      drawdown := image.drawdown
      stateVersion := image.stateVersion }.publishRiskSnapshot w.clock

def countTrade : World :=
  { w with
    counters := w.counters.recordTradeOutcome w.clock trade.side trade.marketId trade.isMiss }

def fillSection (readings : Readings) : (MutableRiskState × PostTradeReport) × World :=
  let applied := (w.countTrade trade).applyTradeResult .fill trade readings
  ((w.captureMutableState, applied.1), applied.2)

def rollbackFill (image : MutableRiskState) (reason : String) : World :=
  (w.restoreMutableState image).failClosed reason

def recordEmergency (reason : String) : World :=
  w.onEngine fun e => { e with lastEmergency := some (w.clock, reason) }

def tripReason : String :=
  match w.engine.circuitBreaker.state with
  | .opened _ reason .. | .halted _ reason _ => reason
  | _ => "loss cap breached"

end World

/-! ## Trades -/

def failClosed (reason : String) : Op Unit := sync fun _ w => ((), w.failClosed reason)

def beginFill (tradeId : TradeId) : Op (Except String Bool) :=
  call fun w => (.ok (w.db.fillsApplied.contains tradeId), w)

/-- Audit events, reconciliation reports, emergencies and blacklist entries: rows that
nothing modelled here reads. -/
def record : Op (Except String Unit) := call fun w => (.ok (), w)

def upsertState (p : Pending) : Op (Except String Unit) :=
  writeCall p fun w => (.ok (), w.writeState p)

def orHalt (what : String) (r : Except String Unit) : Op Unit :=
  match r with
  | .ok () => pure ()
  | .error e => do
    failClosed s!"{what}: {e}"
    Routine.throw e

def persistAndAudit (p : Pending) : Op Unit := do
  orHalt "persist failed" (← upsertState p)
  orHalt "audit failed" (← record)

def recordTrip (report : PostTradeReport) : Op Unit :=
  if report.breakerTripped.isSome then do
    let reason ← sync fun _ w => (w.tripReason, w)
    let _ ← record
    sync fun _ w => ((), w.recordEmergency reason)
    let _ ← record
  else pure ()

def persistPostTradeFollowups (report : PostTradeReport) : Op Unit := do
  recordTrip report
  if report.autoBlacklisted.isSome then
    orHalt "auto-blacklist persist failed" (← record)

variable (trade : PostTradeInput) (report : TickReport) (e : Engine)

def persistSettlementPotentialLoss : Op Unit :=
  if trade.isSuccess then do
    orHalt "potential loss resolve failed" (← call (·.resolvePotentialLoss trade.tradeId))
  else pure ()

def finishFill (image : World.MutableRiskState) (report : PostTradeReport) :
    Except String Unit → Op Unit
  | .error e => do
    sync fun _ w => ((), w.rollbackFill image s!"risk fill commit failed: {e}")
    Routine.throw e
  | .ok () => persistPostTradeFollowups report

def claimedFill : Op Unit := do
  let applied ← sync fun readings w => w.fillSection trade readings
  let p := applied.2.snapshot
  finishFill applied.1 applied.2 (← writeCall p (·.commitFill trade p))

def onFill : Op Unit := do
  match ← beginFill trade.tradeId with
  | .error e =>
    failClosed s!"risk fill marker claim failed: {e}"
    Routine.throw e
  | .ok true => pure ()
  | .ok false => claimedFill trade

def onSettlement : Op Unit := do
  persistSettlementPotentialLoss trade
  let report ← sync fun readings w => w.applyTradeResult .settlement trade readings
  persistAndAudit report.snapshot
  persistPostTradeFollowups report

def onTradeResult : TradeAccountingPhase → PostTradeInput → Op Unit
  | .fill => onFill
  | .settlement => onSettlement

/-! ## The periodic tick -/

structure TickReport where
  breakerMoved : Bool
  breakerRecovered : Bool
  dailyRolled : Bool
  weeklyRolled : Bool
  hourlyRolled : Bool
  escalationSecs : Nat

def TickReport.anyChange : Bool :=
  report.breakerMoved || report.dailyRolled || report.weeklyRolled || report.hourlyRolled

/-- The time-based changes; nothing is published here. -/
def Engine.tick (now : DateTime) : Engine :=
  { e with
    circuitBreaker := (e.circuitBreaker.tick now).2
    daily := e.daily.maybeRollover now
    weekly := e.weekly.maybeRollover now
    hourly := e.hourly.maybeRollover now
    blacklist := e.blacklist.gc now }

def Engine.tickReport (now : DateTime) : TickReport where
  breakerMoved := (e.circuitBreaker.tick now).1
  breakerRecovered :=
    e.circuitBreaker.state.toName = .recovered &&
      (e.circuitBreaker.tick now).2.state.toName = .closed
  dailyRolled := e.daily.windowStart < DateTime.dateNaive now
  weeklyRolled := e.weekly.weekStart < WeeklyAccounting.currentMonday now
  hourlyRolled := e.hourly.shouldRollover now
  escalationSecs := e.config.potentialLossEscalationSecs

namespace World

def tickSection (w : World) : TickReport × World :=
  (w.engine.tickReport w.clock, w.onEngine (·.tick w.clock))

def haltStale (w : World) (count secs : Nat) : World :=
  let reason := s!"{count} stale potential-loss entries exceeded {secs}s"
  (w.onEngine (·.haltInternal w.clock reason)).recordEmergency reason

end World

def findStale (secs : Nat) : Op (Except String Nat) := call fun w => (.ok (w.staleCount secs), w)

def recordIf (condition : Bool) : Op Unit :=
  if condition then do
    let _ ← record
  else pure ()

def escalateStale (count secs : Nat) : Op Unit := do
  sync fun _ w => ((), w.haltStale count secs)
  match ← record with
  | .error e => Routine.throw e
  | .ok () => pure ()

def persistTick : Op Unit :=
  if report.anyChange then do
    let p ← sync fun readings w => w.publishAndCapture readings
    orHalt "tick persist failed" (← upsertState p)
  else pure ()

def finishTick : Op Unit := do
  persistTick report
  recordIf report.dailyRolled
  recordIf report.weeklyRolled
  recordIf report.hourlyRolled
  recordIf report.breakerRecovered

def afterTick : Op Unit := do
  match ← findStale report.escalationSecs with
  | .error e => Routine.throw e
  | .ok 0 => finishTick report
  | .ok stale => escalateStale stale report.escalationSecs

def tick : Op Unit := do
  let report ← sync fun _ w => w.tickSection
  afterTick report

/-! ## Reconciliation, operator actions and events -/

inductive ReconciliationStatus
  | ok
  | warning
  | critical
deriving DecidableEq, Repr

inductive ExecutionRiskEvent
  | fokFailure (marketId : MarketId) (tokenId : TokenId) (consecutive : Nat)
  | tradeFailed (marketId : MarketId) (tokenId : TokenId)
  | depthDrop (marketId : MarketId) (pctDrop : Decimal)
  | heartbeatFailure
  | heartbeatSuccess
deriving DecidableEq, Repr

def Engine.onExecutionEvent (now : DateTime) : ExecutionRiskEvent → Engine
  | .heartbeatFailure =>
    let failed := e.circuitBreaker.onHeartbeatFailure now e.config.heartbeatMaxFailures
    let e := { e with circuitBreaker := failed.2 }
    if failed.1 then e.incrementVersion.publishRiskSnapshot now else e
  | .heartbeatSuccess => { e with circuitBreaker := e.circuitBreaker.onHeartbeatSuccess }
  | .fokFailure marketId _ consecutive =>
    if e.config.maxConsecutiveMisses ≤ consecutive then
      { e with
        circuitBreaker := e.circuitBreaker.trip now .session
          (s!"consecutive FOK failures on {marketId.raw}: " ++
            s!"{consecutive} >= {e.config.maxConsecutiveMisses}")
        stateVersion := e.stateVersion + 1 }.publishRiskSnapshot now
    else e
  | .tradeFailed .. | .depthDrop .. => e

theorem Engine.onExecutionEvent_frame (now : DateTime) (event : ExecutionRiskEvent) :
    ∃ breaker version snapshot blacklist, e.onExecutionEvent now event =
      { e with
        circuitBreaker := breaker
        stateVersion := version
        riskSnapshot := snapshot
        publishedBlacklist := blacklist } := by
  cases event with
  | heartbeatFailure =>
    unfold onExecutionEvent
    dsimp only
    split <;> exact ⟨_, _, _, _, rfl⟩
  | fokFailure marketId tokenId consecutive =>
    unfold onExecutionEvent
    dsimp only
    split <;> exact ⟨_, _, _, _, rfl⟩
  | _ => exact ⟨_, _, _, _, rfl⟩

def Engine.reload (now : DateTime) (config : RiskConfig) : Engine :=
  { e with
    circuitBreaker := e.circuitBreaker.setConfig config.circuitBreaker
    drawdown := e.drawdown.setParams config.maxDrawdownPct config.drawdownReductionFactor
    daily := e.daily.setBudget config.dailyBudgetUsd
    blacklist := e.blacklist.reload config now
    config := config
    stateVersion := e.stateVersion + 1 }.publishRiskSnapshot now

namespace World

variable (w : World) (readings : Readings)

def haltDrift (mismatches : Nat) : World :=
  w.onEngine fun e =>
    { e with
      circuitBreaker := e.circuitBreaker.halt w.clock .system
        s!"reconciliation critical drift: {mismatches} mismatches" }

def acknowledgeAndResume : World :=
  { w.onEngine fun e =>
      { e with
        circuitBreaker := (e.circuitBreaker.acknowledgeAndResume w.clock).2
        stateVersion := e.stateVersion + 1 }.publishRiskSnapshot w.clock with
    failedClosed := false }

def resetBreaker : World :=
  { w.onEngine fun e => { e with circuitBreaker := e.circuitBreaker.reset w.clock } with
    failedClosed := false }

def setBlacklist (change : BlacklistManager → BlacklistManager) : World :=
  w.onEngine fun e => { e with blacklist := change e.blacklist }

def resolveEntry (id : TradeId) : World :=
  w.onEngine fun e => { e with potentialLoss := e.potentialLoss.resolve w.clock id }

def updateDebounced : World :=
  let dropped := w.debounced.elim w fun p => w.drop p.ticket
  let captured := dropped.capture readings
  { captured.2 with debounced := some captured.1 }

@[simp] theorem updateDebounced_engine : (w.updateDebounced readings).engine = w.engine := by
  unfold updateDebounced
  cases w.debounced <;> rfl

@[simp] theorem updateDebounced_db : (w.updateDebounced readings).db = w.db := by
  unfold updateDebounced
  cases w.debounced <;> rfl

@[simp] theorem updateDebounced_clock : (w.updateDebounced readings).clock = w.clock := by
  unfold updateDebounced
  cases w.debounced <;> rfl

def takeDebounced : Option Pending × World :=
  (w.debounced, { w with debounced := none })

end World

def haltOnDrift (mismatches : Nat) : Op Unit := do
  let p ← sync fun readings w => (w.haltDrift mismatches).bump readings
  orHalt "reconciliation breaker persist failed" (← upsertState p)
  sync fun _ w =>
    ((), w.recordEmergency s!"reconciliation critical drift: {mismatches} mismatches")
  let _ ← record

def onReconciliationResult (status : ReconciliationStatus) (mismatches : Nat) : Op Unit := do
  orHalt "reconciliation report persist failed" (← record)
  orHalt "audit persist failed" (← record)
  if status = .critical then haltOnDrift mismatches

/-- `halt`. The halt is audited; the row is not written. -/
def halt (reason : String) : Op Unit := do
  sync fun _ w => ((), w.onEngine (·.haltInternal w.clock reason))
  let _ ← record

/-- `acknowledge_and_resume`. The row is not written. -/
def acknowledgeAndResume : Op Unit := do
  sync fun _ w => ((), w.acknowledgeAndResume)
  orHalt "resume audit failed" (← record)

def resetCircuitBreaker : Op Unit := do
  let p ← sync fun readings w => w.resetBreaker.bump readings
  persistAndAudit p

def changeBlacklist (what : String)
    (change : DateTime → BlacklistManager → BlacklistManager) : Op Unit := do
  sync fun _ w => ((), w.setBlacklist (change w.clock))
  orHalt what (← record)
  let p ← sync fun readings w => w.bump readings
  persistAndAudit p

def addBlacklist (marketId : MarketId) (reason : BlacklistReason) : Op Unit :=
  changeBlacklist "blacklist persist failed" fun now m => m.addPermanent now marketId reason

def removeBlacklist (marketId : MarketId) : Op Unit :=
  changeBlacklist "blacklist remove persist failed" fun _ m => m.remove marketId

/-- `resolve_potential_loss` of the engine, which leaves the table alone. -/
def resolvePotentialLoss (id : TradeId) : Op Unit := do
  let p ← sync fun readings w => (w.resolveEntry id).bump readings
  orHalt "potential loss resolve persist failed" (← upsertState p)

def reload (config : RiskConfig) : Op Unit :=
  sync fun _ w => ((), w.onEngine (·.reload w.clock config))

def onExecutionEvent (event : ExecutionRiskEvent) : Op Unit :=
  sync fun _ w => ((), w.onEngine (·.onExecutionEvent w.clock event))

/-! ## The debounced writer -/

def updateDebounced : Op Unit := sync fun readings w => ((), w.updateDebounced readings)

def flushDebounced : Op Unit := do
  match ← sync fun _ w => w.takeDebounced with
  | none => pure ()
  | some p =>
    let _ ← upsertState p

/-! ## Calls -/

inductive Call
  | fill (trade : PostTradeInput)
  | settlement (trade : PostTradeInput)
  | tick
  | reconciliation (status : ReconciliationStatus) (mismatches : Nat)
  | halt (reason : String)
  | acknowledge
  | reset
  | addBlacklist (marketId : MarketId) (reason : BlacklistReason)
  | removeBlacklist (marketId : MarketId)
  | resolvePotentialLoss (id : TradeId)
  | reload (config : RiskConfig)
  | execution (event : ExecutionRiskEvent)
  | updateDebounced
  | flushDebounced
deriving DecidableEq, Repr

namespace Call

def op : Call → Op Unit
  | .fill trade => onTradeResult .fill trade
  | .settlement trade => onTradeResult .settlement trade
  | .tick => Risk.tick
  | .reconciliation status mismatches => onReconciliationResult status mismatches
  | .halt reason => Risk.halt reason
  | .acknowledge => acknowledgeAndResume
  | .reset => resetCircuitBreaker
  | .addBlacklist marketId reason => Risk.addBlacklist marketId reason
  | .removeBlacklist marketId => Risk.removeBlacklist marketId
  | .resolvePotentialLoss id => Risk.resolvePotentialLoss id
  | .reload config => Risk.reload config
  | .execution event => onExecutionEvent event
  | .updateDebounced => Risk.updateDebounced
  | .flushDebounced => Risk.flushDebounced

def releases : Call → Bool
  | .acknowledge | .reset => true
  | _ => false

/-- The calls that store the state they leave. -/
def stores : Call → Bool
  | .fill _ | .settlement _ | .tick | .reconciliation .. | .reset | .addBlacklist ..
  | .removeBlacklist _ | .resolvePotentialLoss _ => true
  | _ => false

end Call

def World.perform (w : World) (step : Call × List Answer) : World := step.1.op.exec step.2 w

def start {κ : Type} (w : World) (calls : κ → Call) :
    Routine.System κ Answer World String Unit where
  state := w
  routines := fun j => (calls j).op

end OxideArb.Risk
