import OxideArb.ControlFactor.Live
import OxideArb.Risk.PreTrade
import OxideArb.Settlement.Redemption

/-!
# What a pre-trade decision reads

The request of one trade, the live metrics and the accessors of the decision context. The first
phase of the evaluation runs on `RiskMetricsSnapshot.zeroed`.
-/

namespace OxideArb.Risk

open ControlFactor (FactorDecisionContext)

structure ProbabilityInput where
  calibratedWinProb : Decimal
  fillProb : Decimal
  calibrationConfidence : Decimal
  sampleSize : Nat
  modelStalenessSecs : Nat
  expectedSlippagePct : Decimal
  expectedFailureCostPct : Decimal
deriving DecidableEq, Repr

structure RiskMetricsSnapshot where
  cashBalance : Usd
  equity : Usd
  totalExposure : Usd
  marketExposure : Usd
  openPositionCount : Nat
  reservedUsd : Usd
  openDirectionalCountBuy : Nat
  openDirectionalCountSell : Nat
  dailyDirectionalTradesBuy : Nat
  dailyDirectionalTradesSell : Nat
  marketWsDisconnectSecs : Nat
  wsDisconnectSecs : Nat
  apiErrorCount : Nat
  apiRequestCount : Nat
  isStale : Bool
  metricsAgeSecs : Nat
  isAuthoritative : Bool
deriving DecidableEq, Repr

namespace RiskMetricsSnapshot

def zeroed : RiskMetricsSnapshot where
  cashBalance := 0
  equity := 0
  totalExposure := 0
  marketExposure := 0
  openPositionCount := 0
  reservedUsd := 0
  openDirectionalCountBuy := 0
  openDirectionalCountSell := 0
  dailyDirectionalTradesBuy := 0
  dailyDirectionalTradesSell := 0
  marketWsDisconnectSecs := 0
  wsDisconnectSecs := 0
  apiErrorCount := 0
  apiRequestCount := 0
  isStale := true
  metricsAgeSecs := u64Max
  isAuthoritative := false

def openDirectionalCount (metrics : RiskMetricsSnapshot) : Side → Nat
  | .buy => metrics.openDirectionalCountBuy
  | .sell => metrics.openDirectionalCountSell

def dailyDirectionalTrades (metrics : RiskMetricsSnapshot) : Side → Nat
  | .buy => metrics.dailyDirectionalTradesBuy
  | .sell => metrics.dailyDirectionalTradesSell

end RiskMetricsSnapshot

/-! ## Redeem routing -/

inductive StandardRedeemRoute
  | standardCtf
  | ctfCollateralAdapter
deriving DecidableEq, Repr

inductive NegRiskRedeemRoute
  | negRiskLegacyAdapter
  | negRiskCollateralAdapter
deriving DecidableEq, Repr

def StandardRedeemRoute.resolved : StandardRedeemRoute → ResolvedRedeemRoute
  | .standardCtf => .standardCtf
  | .ctfCollateralAdapter => .ctfCollateralAdapter

def NegRiskRedeemRoute.resolved : NegRiskRedeemRoute → ResolvedRedeemRoute
  | .negRiskLegacyAdapter => .negRiskLegacyAdapter
  | .negRiskCollateralAdapter => .negRiskCollateralAdapter

structure StandardRedeemPolicy where
  route : StandardRedeemRoute
  holderAddress : Option String
deriving DecidableEq, Repr

structure NegRiskRedeemPolicy where
  route : NegRiskRedeemRoute
  holderAddress : Option String
deriving DecidableEq, Repr

inductive RedeemClassPolicy
  | standard (policy : StandardRedeemPolicy)
  | negRisk (policy : NegRiskRedeemPolicy)
deriving DecidableEq, Repr

namespace RedeemClassPolicy

def expectsNegRisk : RedeemClassPolicy → Bool
  | .standard _ => false
  | .negRisk _ => true

def route : RedeemClassPolicy → ResolvedRedeemRoute
  | .standard policy => policy.route.resolved
  | .negRisk policy => policy.route.resolved

def holderAddress : RedeemClassPolicy → Option String
  | .standard policy => policy.holderAddress
  | .negRisk policy => policy.holderAddress

end RedeemClassPolicy

inductive RedeemResolutionSource
  | override
  | classStandard
  | classNegRisk
deriving DecidableEq, Repr

structure ResolvedRedeemPlan where
  route : ResolvedRedeemRoute
  holderAddress : Option String
  negRisk : Bool
  gasLimit : Nat
  resolution : RedeemResolutionSource
deriving DecidableEq, Repr

structure RedeemRoutingPolicy where
  standard : Option StandardRedeemPolicy
  negRisk : Option NegRiskRedeemPolicy
  overrides : MarketId → Option RedeemClassPolicy
  gasLimit : Nat

/-- An override of the market wins over the policy of its class. -/
def RedeemRoutingPolicy.resolve (policy : RedeemRoutingPolicy) (marketId : MarketId)
    (negRisk : Bool) : Option ResolvedRedeemPlan :=
  let plan (p : RedeemClassPolicy) (resolution : RedeemResolutionSource) : ResolvedRedeemPlan :=
    { route := p.route, holderAddress := p.holderAddress, negRisk, gasLimit := policy.gasLimit
      resolution }
  match policy.overrides marketId with
  | some override =>
    if override.expectsNegRisk ≠ negRisk then none else some (plan override .override)
  | none =>
    if negRisk then policy.negRisk.map fun p => plan (.negRisk p) .classNegRisk
    else policy.standard.map fun p => plan (.standard p) .classStandard

/-! ## The context -/

structure SettlementGateInput where
  mode : ExecutionMode
  marketNegRisk : Option Bool
  redeemPolicy : Option RedeemRoutingPolicy

structure TradeIntegritySnapshot where
  blockingCount : Nat
deriving DecidableEq, Repr

def TradeIntegritySnapshot.blocksAdmission (snapshot : TradeIntegritySnapshot) :
    ExecutionMode → Bool
  | .live | .paper => 0 < snapshot.blockingCount
  | .dryRun => false

structure SizedIntent where
  betUsd : Usd
  feeUsd : Usd
deriving DecidableEq, Repr

structure TradeRequest where
  opportunity : Opportunity
  probability : ProbabilityInput
  factorContext : Option FactorDecisionContext
  settlementGate : SettlementGateInput
  integrity : TradeIntegritySnapshot
  sizedIntent : Option SizedIntent

abbrev TradeContext := PreTradeContext TradeRequest RiskMetricsSnapshot

namespace TradeContext

variable (ctx : TradeContext)

def intendedCostUsd : Usd :=
  ctx.request.sizedIntent.elim ctx.request.opportunity.totalCost (·.betUsd)

def intendedFeeUsd : Usd :=
  ctx.request.sizedIntent.elim ctx.request.opportunity.totalFees (·.feeUsd)

def wsDisconnectSecs : Nat :=
  if ctx.metrics.wsDisconnectSecs < ctx.metrics.marketWsDisconnectSecs then
    ctx.metrics.marketWsDisconnectSecs
  else ctx.metrics.wsDisconnectSecs

def drawdown : DrawdownGuard :=
  { hwm := ctx.snap.drawdownHwm, maxDrawdownPct := ctx.snap.maxDrawdownPct
    reductionFactor := ctx.snap.reductionFactor }

end TradeContext

/-! ## Drawdown -/

inductive DrawdownAction
  | normal
  | reduce
  | halt
deriving DecidableEq, Repr

namespace DrawdownGuard

def evaluate (guard : DrawdownGuard) (currentEquity : Usd) : Decimal × DrawdownAction :=
  if guard.hwm ≤ 0 then (0, .normal)
  else
    let drawdown := guard.hwm - currentEquity
    let drawdownPct := if 0 < drawdown then drawdown * 100 / guard.hwm else 0
    if guard.maxDrawdownPct ≤ drawdownPct then (drawdownPct, .halt)
    else if 0 < drawdownPct then (drawdownPct, .reduce)
    else (drawdownPct, .normal)

def sizingFactor (guard : DrawdownGuard) (currentEquity : Usd) : Decimal :=
  let (drawdownPct, action) := guard.evaluate currentEquity
  match action with
  | .normal => 1
  | .reduce => 1 - drawdownPct / guard.maxDrawdownPct * (1 - guard.reductionFactor)
  | .halt => 0

end DrawdownGuard

end OxideArb.Risk
