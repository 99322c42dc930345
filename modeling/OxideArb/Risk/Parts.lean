import OxideArb.Risk.CircuitBreaker
import OxideArb.Risk.Engine

/-!
# Parts of the risk engine

The configuration of the engine and the parts it owns besides the breaker and the windows.
-/

namespace OxideArb.Risk

/-! ## Configuration -/

structure RiskConfig where
  maxConsecutiveMisses : Nat
  maxHourlyLossUsd : Decimal
  maxHourlyFeeSpendUsd : Decimal
  maxDailyLossUsd : Decimal
  maxDailyFeeSpendUsd : Decimal
  maxSingleLossUsd : Decimal
  maxWeeklyLossUsd : Decimal
  dailyBudgetUsd : Decimal
  marketMissBlacklistCount : Nat
  marketMissBlacklistDurationSecs : Nat
  permanentBlacklistMarkets : List MarketId
  permanentBlacklistTokens : List TokenId
  circuitBreaker : CircuitBreakerConfig
  maxDrawdownPct : Decimal
  drawdownReductionFactor : Decimal
  apiErrorRateThreshold : Decimal
  heartbeatMaxFailures : Nat
  potentialLossEscalationSecs : Nat
deriving DecidableEq, Repr

def RiskConfig.default : RiskConfig where
  maxConsecutiveMisses := 3
  maxHourlyLossUsd := 30
  maxHourlyFeeSpendUsd := 10
  maxDailyLossUsd := 75
  maxDailyFeeSpendUsd := 25
  maxSingleLossUsd := 30
  maxWeeklyLossUsd := 120
  dailyBudgetUsd := 50
  marketMissBlacklistCount := 3
  marketMissBlacklistDurationSecs := 3600
  permanentBlacklistMarkets := []
  permanentBlacklistTokens := []
  circuitBreaker := .default
  maxDrawdownPct := 10
  drawdownReductionFactor := 1 / 2
  apiErrorRateThreshold := 1 / 10
  heartbeatMaxFailures := 3
  potentialLossEscalationSecs := 3600

/-! ## Trades -/

inductive TradeAccountingPhase
  | fill
  | settlement
deriving DecidableEq, Repr

structure PostTradeInput where
  tradeId : TradeId
  marketId : MarketId
  side : Side
  outcome : TradeBusinessOutcome
  costUsd : Usd
  feeUsd : Usd
  netProfitUsd : Option Usd
deriving DecidableEq, Repr

namespace PostTradeInput

def isSuccess (trade : PostTradeInput) : Bool := trade.outcome = .success

def isMiss (trade : PostTradeInput) : Bool := trade.outcome = .miss

end PostTradeInput

/-! ## Drawdown -/

structure DrawdownGuard where
  hwm : Usd
  maxDrawdownPct : Decimal
  reductionFactor : Decimal
deriving DecidableEq, Repr

namespace DrawdownGuard

def updateEquity (g : DrawdownGuard) (equity : Usd) : DrawdownGuard :=
  if g.hwm < equity then { g with hwm := equity } else g

/-- The high-water mark is kept. -/
def setParams (g : DrawdownGuard) (maxDrawdownPct reductionFactor : Decimal) : DrawdownGuard :=
  { g with maxDrawdownPct, reductionFactor }

end DrawdownGuard

/-! ## Potential losses -/

structure LedgerEntry extends PotentialLossInfo where
  createdAt : DateTime
  resolvedAt : Option DateTime
deriving DecidableEq, Repr

namespace LedgerEntry

def key (entry : LedgerEntry) : TradeId := entry.ledgerId

def isActive (entry : LedgerEntry) : Bool := entry.toPotentialLossInfo.isActive

def resolve (now : DateTime) (entry : LedgerEntry) : LedgerEntry :=
  { entry with status := .resolved, resolvedAt := some now }

theorem resolve_key (now : DateTime) (entry : LedgerEntry) :
    (entry.resolve now).key = entry.key :=
  rfl

end LedgerEntry

/-- The entry a successful fill opens: the most the trade can lose. -/
def PostTradeInput.potentialLoss (trade : PostTradeInput) (now : DateTime) : LedgerEntry where
  ledgerId := trade.tradeId
  maxLossUsd := trade.costUsd + trade.feeUsd
  status := .active
  createdAt := now
  resolvedAt := none

/-- The table of potential losses; it is also the map the ledger keeps in memory. -/
abbrev LedgerTable := Table LedgerEntry.key

structure Ledger where
  entries : LedgerTable
  runningTotal : Usd

namespace Ledger

def fromEntries (entries : LedgerTable) : Ledger where
  entries := entries
  runningTotal := ((entries.rows.filter LedgerEntry.isActive).map (·.maxLossUsd)).sum

variable (ledger : Ledger)

/-- An entry whose id is known already is ignored. -/
def recordEntry (entry : LedgerEntry) : Ledger :=
  match ledger.entries.insert entry with
  | none => ledger
  | some entries =>
    { entries
      runningTotal :=
        if entry.isActive then ledger.runningTotal + entry.maxLossUsd else ledger.runningTotal }

def resolve (now : DateTime) (id : TradeId) : Ledger :=
  match ledger.entries.get id with
  | none => ledger
  | some entry =>
    { entries := (ledger.entries.updateKey id (fun _ => true) (LedgerEntry.resolve now)
        (LedgerEntry.resolve_key now)).2
      runningTotal :=
        if entry.isActive then max (ledger.runningTotal - entry.maxLossUsd) 0
        else ledger.runningTotal }

def activeCount : Nat := ledger.entries.rows.countP LedgerEntry.isActive

end Ledger

/-! ## Blacklist -/

inductive BlacklistKey
  | market (id : MarketId)
  | token (id : TokenId)
deriving DecidableEq, Repr

inductive BlacklistScope
  | dataPath
  | tradingPath
  | full
deriving DecidableEq, Repr

/-- A higher scope includes the lower ones. -/
def BlacklistScope.rank : BlacklistScope → Nat
  | .dataPath => 0
  | .tradingPath => 1
  | .full => 2

inductive BlacklistReason
  | consecutiveFokFailures
  | tradeFailedAfterMatched
  | depthDrop
  | tickChange
  | manual
  | dataNotFound
deriving DecidableEq, Repr

structure BlacklistInfo where
  marketId : MarketId
  tokenId : Option TokenId
  scope : BlacklistScope
  reason : BlacklistReason
  expiresAt : Option DateTime
  missCount : Int
  createdAt : DateTime
  updatedAt : DateTime
deriving DecidableEq, Repr

namespace BlacklistInfo

variable (entry : BlacklistInfo)

def isExpired (now : DateTime) : Bool := entry.expiresAt.any (· ≤ now)

def isPermanent : Bool := entry.expiresAt.isNone

def permanent (marketId : MarketId) (tokenId : Option TokenId) (reason : BlacklistReason)
    (now : DateTime) : BlacklistInfo where
  marketId := marketId
  tokenId := tokenId
  scope := .full
  reason := reason
  expiresAt := none
  missCount := 0
  createdAt := now
  updatedAt := now

def key : BlacklistKey :=
  match entry.tokenId with
  | none => .market entry.marketId
  | some token => .token token

end BlacklistInfo

structure BlacklistManager where
  entries : BlacklistKey → Option BlacklistInfo
  marketMissBlacklistCount : Nat
  marketMissBlacklistDurationSecs : Nat

namespace BlacklistManager

variable (m : BlacklistManager) (now : DateTime) (marketId : MarketId)

def insert (key : BlacklistKey) (entry : BlacklistInfo) : BlacklistManager :=
  { m with entries := Function.update m.entries key (some entry) }

/-- An entry of the configuration, added unless its key is taken. -/
def insertNew (entry : BlacklistInfo) : BlacklistManager :=
  if (m.entries entry.key).isSome then m else m.insert entry.key entry

def mergePermanentEntries (config : RiskConfig) (now : DateTime) : BlacklistManager :=
  let markets := config.permanentBlacklistMarkets.map fun id =>
    BlacklistInfo.permanent id none .manual now
  let tokens := config.permanentBlacklistTokens.map fun id =>
    BlacklistInfo.permanent ⟨"_token_blacklist_"⟩ (some id) .manual now
  (markets ++ tokens).foldl insertNew m

def new (config : RiskConfig) (now : DateTime) : BlacklistManager :=
  mergePermanentEntries
    { entries := fun _ => none
      marketMissBlacklistCount := config.marketMissBlacklistCount
      marketMissBlacklistDurationSecs := config.marketMissBlacklistDurationSecs } config now

/-- Entries are added, never removed. -/
def reload (config : RiskConfig) (now : DateTime) : BlacklistManager :=
  mergePermanentEntries
    { m with
      marketMissBlacklistCount := config.marketMissBlacklistCount
      marketMissBlacklistDurationSecs := config.marketMissBlacklistDurationSecs } config now

def loadEntries (entries : List BlacklistInfo) (now : DateTime) : BlacklistManager :=
  (entries.filter fun e => !e.isExpired now).foldl (fun m e => m.insert e.key e) m

/-- A lifetime in seconds as a duration; one too long for the clock becomes an hour. -/
def ttl (secs : Nat) : Duration :=
  if (secs : Int) * 1000 ≤ i64Max then Duration.seconds secs else Duration.seconds 3600

def addTemporary (tokenId : Option TokenId) (scope : BlacklistScope) (reason : BlacklistReason)
    (durationSecs missCount : Nat) : BlacklistInfo × BlacklistManager :=
  let expiresAt := now + ttl durationSecs
  let fresh : BlacklistInfo :=
    { marketId, tokenId, scope, reason, expiresAt := some expiresAt
      missCount := i32OfU32 missCount, createdAt := now, updatedAt := now }
  match m.entries fresh.key with
  | none => (fresh, m.insert fresh.key fresh)
  | some existing =>
    match existing.expiresAt with
    | none => (existing, m)
    | some until_ =>
      let extended :=
        { existing with
          scope := if existing.scope.rank < scope.rank then scope else existing.scope
          expiresAt := some (max until_ expiresAt)
          missCount := i32OfU32 missCount }
      (extended, m.insert fresh.key extended)

def addPermanent (reason : BlacklistReason) : BlacklistManager :=
  let entry := BlacklistInfo.permanent marketId none reason now
  m.insert entry.key entry

def remove : BlacklistManager :=
  { m with entries := Function.update m.entries (.market marketId) none }

def gc : BlacklistManager :=
  { m with entries := fun key => (m.entries key).filter fun e => e.isPermanent || !e.isExpired now }

/-- A market that has missed often enough and is not listed yet is listed for a while. -/
def maybeAutoBlacklist (consecutiveMisses : Nat) : Option BlacklistInfo × BlacklistManager :=
  if consecutiveMisses < m.marketMissBlacklistCount then (none, m)
  else if (m.entries (.market marketId)).isSome then (none, m)
  else
    let (entry, m) := m.addTemporary now marketId none .tradingPath .consecutiveFokFailures
      m.marketMissBlacklistDurationSecs consecutiveMisses
    (some entry, m)

end BlacklistManager

/-! ## Counters of trade outcomes -/

/-- The counters of `RiskMetricsState` that fills feed: trades of the day by side, and
misses in a row by market. -/
structure TradeCounters where
  dailyBuyTrades : Nat
  dailySellTrades : Nat
  dailyRolloverDate : NaiveDate
  marketMisses : MarketId → Nat

namespace TradeCounters

variable (c : TradeCounters) (now : DateTime)

def new : TradeCounters where
  dailyBuyTrades := 0
  dailySellTrades := 0
  dailyRolloverDate := DateTime.dateNaive now
  marketMisses := fun _ => 0

def checkDailyRollover : TradeCounters :=
  if c.dailyRolloverDate = DateTime.dateNaive now then c
  else
    { c with
      dailyRolloverDate := DateTime.dateNaive now
      dailyBuyTrades := 0
      dailySellTrades := 0 }

def dailyDirectionalTrades (side : Side) : Nat :=
  match side with
  | .buy => (c.checkDailyRollover now).dailyBuyTrades
  | .sell => (c.checkDailyRollover now).dailySellTrades

def recordTradeOutcome (side : Side) (marketId : MarketId) (wasMiss : Bool) : TradeCounters :=
  let c := c.checkDailyRollover now
  { c with
    dailyBuyTrades := if side = .buy then c.dailyBuyTrades + 1 else c.dailyBuyTrades
    dailySellTrades := if side = .sell then c.dailySellTrades + 1 else c.dailySellTrades
    marketMisses := Function.update c.marketMisses marketId
      (if wasMiss then c.marketMisses marketId + 1 else 0) }

theorem checkDailyRollover_date :
    (c.checkDailyRollover now).dailyRolloverDate = DateTime.dateNaive now := by
  unfold checkDailyRollover
  split
  next h => exact h
  next => rfl

theorem checkDailyRollover_of_date {c : TradeCounters} {now : DateTime}
    (h : c.dailyRolloverDate = DateTime.dateNaive now) : c.checkDailyRollover now = c :=
  if_pos h

theorem dailyDirectionalTrades_record (side : Side) (marketId : MarketId) (wasMiss : Bool) :
    (c.recordTradeOutcome now side marketId wasMiss).dailyDirectionalTrades now side =
      c.dailyDirectionalTrades now side + 1 := by
  have hsame : (c.recordTradeOutcome now side marketId wasMiss).checkDailyRollover now =
      c.recordTradeOutcome now side marketId wasMiss :=
    checkDailyRollover_of_date (c.checkDailyRollover_date now)
  unfold dailyDirectionalTrades
  rw [hsame]
  cases side <;> rfl

end TradeCounters

end OxideArb.Risk
