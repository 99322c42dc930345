import OxideArb.Types.Position

/-!
# Redeeming a position and valuing its settlement

What the settlement service computes without storage.
-/

namespace OxideArb

/-! ## Redeeming -/

inductive RedeemError
  | invalidAddress (value reason : String)
  | invalidConditionId (value reason : String)
  | unsupportedRoute (route reason : String)
  | wrongHolder (holder signer : String)
  | rpcTimeout (text : String)
  | insufficientGas (text : String)
  | contractRevert (text : String)
  | alreadyRedeemed (text : String)
  | transactionFailed (txHash : Option String) (reason : String)
deriving DecidableEq, Repr

def RedeemError.isTerminalSuccessEquivalent : RedeemError → Bool
  | .alreadyRedeemed _ => true
  | _ => false

structure RedeemOutcome where
  txHash : Option String
  simulated : Bool
  gasPaidUsd : Option Usd
deriving DecidableEq, Repr

/-- `trim_start_matches("0x")`. -/
def trimHexMarks : List Char → List Char
  | '0' :: 'x' :: rest => trimHexMarks rest
  | s => s

def RedeemOutcome.dryRun : RedeemOutcome := ⟨none, true, some 0⟩

def RedeemOutcome.paper (conditionId : MarketId) : RedeemOutcome :=
  ⟨some ("0xpaper" ++ String.ofList (trimHexMarks conditionId.raw.toList)), true, some 0⟩

inductive ResolvedRedeemRoute
  | standardCtf
  | ctfCollateralAdapter
  | negRiskLegacyAdapter
  | negRiskCollateralAdapter
deriving DecidableEq, Repr

namespace ResolvedRedeemRoute

def asStr : ResolvedRedeemRoute → String
  | .standardCtf => "standard_ctf"
  | .ctfCollateralAdapter => "ctf_collateral_adapter"
  | .negRiskLegacyAdapter => "neg_risk_legacy_adapter"
  | .negRiskCollateralAdapter => "neg_risk_collateral_adapter"

def fromStr (value : String) : Option ResolvedRedeemRoute :=
  if value = "standard_ctf" then some .standardCtf
  else if value = "ctf_collateral_adapter" then some .ctfCollateralAdapter
  else if value = "neg_risk_legacy_adapter" then some .negRiskLegacyAdapter
  else if value = "neg_risk_collateral_adapter" then some .negRiskCollateralAdapter
  else none

def expectsNegRisk : ResolvedRedeemRoute → Bool
  | .negRiskLegacyAdapter => true
  | .negRiskCollateralAdapter => true
  | _ => false

end ResolvedRedeemRoute

variable (pos : PositionInfo)

/-- `redeem_plan`, as far as the service reads it: the route. -/
def PositionInfo.redeemPlan : Except RedeemError ResolvedRedeemRoute :=
  match ResolvedRedeemRoute.fromStr pos.redeemRoute with
  | none => .error (.unsupportedRoute pos.redeemRoute "unknown snapshotted redeem route")
  | some route =>
    if pos.redeemGasLimit < 0 then
      .error (.unsupportedRoute pos.redeemRoute
        s!"invalid snapshotted gas_limit={pos.redeemGasLimit}")
    else .ok route

structure SettlementMarket where
  tokenYes : TokenId
  tokenNo : TokenId
  outcome : Option String
deriving DecidableEq, Repr

structure MarketSettlementRequest where
  marketId : MarketId
  winningTokenId : TokenId
  source : SettlementTrigger
deriving DecidableEq, Repr

/-- `position_redeem_mode`: the mode to redeem a position in, by its redeem status. -/
def positionRedeemMode : ExecutionMode :=
  match pos.redeemStatus with
  | .pending => .live
  | _ => .dryRun

/-- `redeem_position`, given the registry's entry and the client's answer (`none` without a
client). -/
def redeemPosition (req : MarketSettlementRequest) (pos : PositionInfo)
    (market : Option SettlementMarket) (client : Option (Except RedeemError RedeemOutcome)) :
    Except RedeemError RedeemOutcome := do
  let route ← pos.redeemPlan
  let yesTokenId := market.elim req.winningTokenId (·.tokenYes)
  let noTokenId := market.elim req.winningTokenId (·.tokenNo)
  if market.isNone && yesTokenId = noTokenId && route.expectsNegRisk then
    .error (.unsupportedRoute route.asStr
      "registry miss: cannot resolve YES/NO token ids for neg-risk redeem")
  else
    match positionRedeemMode pos with
    | .dryRun => .ok .dryRun
    | .paper => .ok (.paper req.marketId)
    | .live =>
      match client with
      | none => .error (.rpcTimeout "CTF redeem client unavailable in Live mode")
      | some result => result

structure SettlementEconomics where
  won : Bool
  payoutUsd : Usd
  realizedPnlUsd : Usd
deriving DecidableEq, Repr

def computeSettlementEconomics (gasPaidUsd : Usd) (winningTokenId : TokenId) :
    SettlementEconomics :=
  let won : Bool := pos.tokenId = winningTokenId
  let payoutUsd : Usd := if won then pos.shares * 1 else 0
  { won, payoutUsd
    realizedPnlUsd := payoutUsd - pos.totalCostUsd - pos.totalFeesUsd - gasPaidUsd }

/-! ## The winning token of a retry -/

def trimOutcome (s : String) : String :=
  String.ofList ((s.toList.dropWhile Char.isWhitespace).reverse.dropWhile Char.isWhitespace).reverse

def eqIgnoreAsciiCase (a b : String) : Bool := a.toLower = b.toLower

/-- `winning_token_for_retry`, given the outcomes of the latest resolution events (of the
source `ws`, and of any source), the registry's entry and the oracle's verdict. -/
def winningTokenForRetry (position : PositionInfo) (wsEvent anyEvent : Option String)
    (market : Option SettlementMarket) (oracle : Option Bool) : Option TokenId :=
  match position.winningTokenId with
  | some tokenId => some tokenId
  | none =>
    let latest := wsEvent.orElse fun _ => anyEvent
    market.bind fun market =>
      let named := (latest.map trimOutcome).filter fun outcome => outcome ≠ ""
      let outcome := (named.orElse fun _ => market.outcome).getD ""
      if eqIgnoreAsciiCase outcome "yes" then some market.tokenYes
      else if eqIgnoreAsciiCase outcome "no" then some market.tokenNo
      else oracle.map fun actualYes => if actualYes then market.tokenYes else market.tokenNo

end OxideArb
