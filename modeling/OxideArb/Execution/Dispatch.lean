import OxideArb.Detection.Detector
import OxideArb.Execution.LiveOrder
import OxideArb.Execution.PreSubmit

/-!
# From an approved size to a dispatched plan

An execution reserves the approved size, prices its plan and inserts the trade row. The row has
the approved size as its cost and the quoted fee beside it; the reservation has no fee.
-/

namespace OxideArb

open Fees

namespace PlanBuilder

def sharesForSize (opp : Opportunity) (approvedSize : Usd) : Shares :=
  if opp.entryPrice ≤ 0 then 0
  else ⌊approvedSize / opp.entryPrice * 10 ^ 2⌋ / 10 ^ 2

end PlanBuilder

/-- The fee calculator, and the registry's answer whether a market is a neg-risk one. -/
structure PlanBuilder where
  feeCalculator : FeeCalculator
  negRisk : MarketId → Option Bool

structure PricedPlan extends ExecutionPlan where
  estimatedFee : Usd
deriving DecidableEq, Repr

namespace PlanBuilder

def previewFee (builder : PlanBuilder) (mode : ExecutionMode) (opp : Opportunity)
    (approvedSize : Usd) : Except FeeQuoteError Usd :=
  (builder.feeCalculator.quoteForMode mode
    { marketId := opp.marketId, tokenId := opp.tokenId, category := opp.category, side := opp.side
      liquidityRole := .taker, shares := sharesForSize opp approvedSize, price := opp.entryPrice
      allowCategoryFallback := mode ≠ .live }).map (·.feeUsd)

def build (builder : PlanBuilder) (mode : ExecutionMode) (opp : Opportunity) (approvedSize : Usd)
    (reservationId : ReservationId) : Except FeeQuoteError PricedPlan :=
  (builder.previewFee mode opp approvedSize).map fun fee =>
    { marketId := opp.marketId, tokenId := opp.tokenId, side := opp.side
      shares := sharesForSize opp approvedSize, limitPrice := opp.entryPrice
      estimatedCost := approvedSize, estimatedFee := fee, category := opp.category
      negRisk := (builder.negRisk opp.marketId).getD false, reservationId }

theorem build_ok {builder : PlanBuilder} {mode : ExecutionMode} {opp : Opportunity}
    {approvedSize : Usd} {reservationId : ReservationId} {plan : PricedPlan}
    (h : builder.build mode opp approvedSize reservationId = .ok plan) :
    plan.estimatedCost = approvedSize ∧ plan.reservationId = reservationId := by
  unfold build at h
  cases hfee : builder.previewFee mode opp approvedSize with
  | error e =>
    rw [hfee] at h
    cases h
  | ok fee =>
    rw [hfee] at h
    cases h
    exact ⟨rfl, rfl⟩

end PlanBuilder

def buildPendingTrade (tradeId : TradeId) (plan : PricedPlan) (opp : Opportunity)
    (resolutionProb : Decimal) (mode : ExecutionMode) : NewTrade :=
  { tradeId, reservationId := plan.reservationId, marketId := opp.marketId
    tokenId := opp.tokenId, side := opp.side, shares := plan.shares, price := plan.limitPrice
    costUsd := plan.estimatedCost, feeUsd := plan.estimatedFee
    resolutionProb := some resolutionProb, category := plan.category, executionMode := mode }

def ReservationError.display : ReservationError → String
  | .exceedsLimit current requested max =>
    s!"exposure limit exceeded: current={current} requested={requested} max={max}"
  | .notFound id => s!"reservation not found: {id.raw}"
  | .backend message => s!"reservation backend error: {message}"

namespace Dispatch

/-- What a dispatch meets: its mode and ids, the limits and the lifetime of a reservation, the
probability in the snapshot or why it does not serialize, and what the store says if the insert
fails, which it may do for no reason of the row's. -/
structure Env where
  mode : ExecutionMode
  planBuilder : PlanBuilder
  tradeId : TradeId
  reservationId : ReservationId
  config : ExposureReservationConfig
  now : DateTime
  ttl : Duration
  snapshot : Except String Decimal
  createFails : Bool
  createText : String

structure PreparedDispatch where
  tradeId : TradeId
  plan : PricedPlan
deriving DecidableEq, Repr

def persistDispatchPlan (env : Env) (opp : Opportunity) (approvedSize : Usd)
    (held : InMemoryExposureReservation) (db : TradeDb) :
    Except PreSubmit.Abort PreparedDispatch × InMemoryExposureReservation × TradeDb :=
  match held.tryReserveSync env.config env.reservationId env.now opp.marketId approvedSize
      env.ttl with
  | .error e => (.error ⟨"reservation", e.display, none⟩, held, db)
  | .ok reserved =>
    -- the failures below give the capital back
    let released := (reserved.releaseSync env.reservationId).toOption.getD reserved
    match env.planBuilder.build env.mode opp approvedSize env.reservationId with
    | .error e => (.error ⟨"fee_quote", e.display, none⟩, released, db)
    | .ok plan =>
      match env.snapshot with
      | .error e =>
        (.error ⟨"trade_persist", e,
          some (.persistenceFault, "scored snapshot serialization failed")⟩, released, db)
      | .ok resolutionProb =>
        let pending := buildPendingTrade env.tradeId plan opp resolutionProb env.mode
        match if env.createFails then none else TradeDb.create db pending with
        | none => (.error ⟨"trade_persist", env.createText, none⟩, released, db)
        | some db' => (.ok ⟨env.tradeId, plan⟩, reserved, db')

/-- The capital and the row of a dispatched plan: the reservation has the approved size, the
row the approved size and the fee. -/
theorem persistDispatchPlan_ok {env : Env} {opp : Opportunity} {approvedSize : Usd}
    {held held' : InMemoryExposureReservation} {db db' : TradeDb} {prepared : PreparedDispatch}
    (h : persistDispatchPlan env opp approvedSize held db = (.ok prepared, held', db')) :
    (∃ entry, held'.reservations.get prepared.plan.reservationId = some entry ∧
      usdToCents approvedSize = .ok entry.amountCents) ∧
    ∃ row, db'.get prepared.tradeId = some row ∧ row.state = .intent ∧
      row.costUsd = approvedSize ∧ row.reservationId = prepared.plan.reservationId := by
  unfold persistDispatchPlan at h
  split at h
  · cases h
  next reserved hreserve =>
    dsimp only at h
    split at h
    · cases h
    next plan hplan =>
      split at h
      · cases h
      next prob hsnapshot =>
        split at h
        · cases h
        next after hcreate =>
          cases h
          obtain ⟨hcost, hid⟩ := PlanBuilder.build_ok hplan
          obtain ⟨entry, -, hcents, hget⟩ :=
            InMemoryExposureReservation.tryReserveSync_get hreserve
          refine ⟨⟨entry, ?_, hcents⟩, ?_⟩
          · rw [hget, if_pos hid]
          · split at hcreate
            · cases hcreate
            · exact ⟨_, Table.get_insert hcreate, rfl, hcost, rfl⟩

end Dispatch

end OxideArb
