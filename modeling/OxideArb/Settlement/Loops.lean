import OxideArb.Settlement.Service

/-!
# The loops of the settlement service

`settle_market` and the three loops of `retry_pending` hand an error of one position to the caller
at once.
-/

namespace OxideArb

open Service

/-- The loops over positions. -/
inductive SettlementLoop
  | settleMarket (req : MarketSettlementRequest)
  | retryResolved
  | retryRedeem
  | retryAccounting

/-- What a loop does for one position. -/
def SettlementLoop.body : SettlementLoop → PositionInfo → Service Unit
  | .settleMarket req => settlePosition req
  | .retryResolved => Service.retryResolved
  | .retryRedeem => Service.retryRedeem
  | .retryAccounting => Service.retryAccounting

/-- The loops of `retry_pending` in order, each with its query. -/
def retryPhases : List (Service Unit) := [retryResolvedMarkets, retryRedeems, retryAccountings]

end OxideArb
