import OxideArb.Types.Basic

/-!
# Positions

The position row as the settlement and valuation services see it.
-/

namespace OxideArb

inductive PositionStatus
  | opened
  | closed
  | settled
deriving DecidableEq, Repr

inductive RedeemStatus
  | notRequired
  | pending
  | completed
  | failed
deriving DecidableEq, Repr

inductive SettlementAccountingStatus
  | pending
  | redeemed
  | accounted
  | failed
deriving DecidableEq, Repr

inductive SettlementTrigger
  | ws
  | periodicRetry
  | manual
deriving DecidableEq, Repr

def RedeemStatus.initialForMode : ExecutionMode → RedeemStatus
  | .live => .pending
  | .dryRun => .notRequired
  | .paper => .notRequired

def RedeemStatus.settledForMode : ExecutionMode → RedeemStatus
  | .live => .completed
  | .dryRun => .notRequired
  | .paper => .notRequired

structure PositionInfo where
  positionId : PositionId
  tradeId : TradeId
  marketId : MarketId
  tokenId : TokenId
  shares : Shares
  avgEntryPrice : Price
  totalCostUsd : Usd
  totalFeesUsd : Usd
  realizedPnl : Usd
  status : PositionStatus
  settledAt : Option DateTime
  winningTokenId : Option TokenId
  settlementPayoutUsd : Option Usd
  redeemTxHash : Option String
  redeemStatus : RedeemStatus
  redeemAttempts : Int
  settlementTrigger : Option SettlementTrigger
  settlementAccountingStatus : SettlementAccountingStatus
  settlementAccountingError : Option String
  settlementAccountedAt : Option DateTime
  redeemTerminalReason : Option String
  redeemNegRisk : Bool
  redeemRoute : String
  redeemGasLimit : Int
  redeemGasPaidUsd : Option Usd
deriving DecidableEq, Repr

end OxideArb
