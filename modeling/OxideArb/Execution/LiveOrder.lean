import OxideArb.Execution.Fsm
import OxideArb.Exposure.InMemory
import OxideArb.Types.Market

/-!
# Live fill-or-kill orders

The venue's answer becomes an order response and the response an execution outcome, which
decides about the reserved capital. A fill without a fee quote is reported as a failure.
-/

namespace OxideArb

/-! ## Fee quotes -/

def MarketCategory.display : MarketCategory → String
  | .geopolitics => "geopolitics"
  | .sports => "sports"
  | .politics => "politics"
  | .finance => "finance"
  | .tech => "tech"
  | .culture => "culture"
  | .weather => "weather"
  | .economics => "economics"
  | .crypto => "crypto"
  | .other => "other"

namespace Fees

inductive FeeLiquidityRole
  | maker
  | taker
deriving DecidableEq, Repr

structure MarketFeeSchedule where
  feesEnabled : Bool
  feeRate : Decimal
  exponent : Decimal
deriving DecidableEq, Repr

structure CategoryFeeParams where
  feeRate : Decimal
  exponent : Decimal
deriving DecidableEq, Repr

structure FeeSnapshot where
  marketSchedules : MarketId → Option MarketFeeSchedule
  categoryDefaults : MarketCategory → Option CategoryFeeParams

def FeeSnapshot.categoryDefaultSchedule (snapshot : FeeSnapshot) (category : MarketCategory) :
    Option MarketFeeSchedule :=
  ((snapshot.categoryDefaults category).or (snapshot.categoryDefaults .other)).map fun params =>
    { feesEnabled := decide ((0 : Decimal) < params.feeRate)
      feeRate := params.feeRate
      exponent := params.exponent }

structure FeeCalculator where
  rateCache : FeeSnapshot
  calculateFee : Shares → Price → Decimal → Decimal → Usd

structure FeeQuoteInput where
  marketId : MarketId
  tokenId : TokenId
  category : MarketCategory
  side : Side
  liquidityRole : FeeLiquidityRole
  shares : Shares
  price : Price
  allowCategoryFallback : Bool
deriving DecidableEq, Repr

structure FeeQuote where
  feeUsd : Usd
  schedule : MarketFeeSchedule
deriving DecidableEq, Repr

structure FeeQuoteError where
  marketId : MarketId
  detail : String
deriving DecidableEq, Repr

def FeeQuoteError.display (e : FeeQuoteError) : String :=
  s!"missing fee schedule for market {e.marketId.raw}: {e.detail}"

namespace FeeCalculator

variable (fees : FeeCalculator) (input : FeeQuoteInput)

def schedule : Except FeeQuoteError MarketFeeSchedule :=
  match fees.rateCache.marketSchedules input.marketId with
  | some schedule => .ok schedule
  | none =>
    if input.allowCategoryFallback then
      match fees.rateCache.categoryDefaultSchedule input.category with
      | some schedule => .ok schedule
      | none => .error ⟨input.marketId, s!"no category fallback for {input.category.display}"⟩
    else .error ⟨input.marketId, "category fallback disabled"⟩

def quote : Except FeeQuoteError FeeQuote := do
  let schedule ← fees.schedule input
  let feeUsd :=
    if !schedule.feesEnabled || input.liquidityRole = .maker then 0
    else fees.calculateFee input.shares input.price schedule.feeRate schedule.exponent
  return { feeUsd, schedule }

/-- Live mode never falls back on the category's default schedule. -/
def quoteForMode (mode : ExecutionMode) (input : FeeQuoteInput) : Except FeeQuoteError FeeQuote :=
  fees.quote (if mode = .live then { input with allowCategoryFallback := false } else input)

theorem quoteForMode_live : (∃ q, fees.quoteForMode .live input = .ok q) ↔
      (fees.rateCache.marketSchedules input.marketId).isSome := by
  cases h : fees.rateCache.marketSchedules input.marketId with
  | none => simp [quoteForMode, quote, schedule, h, bind, Except.bind]
  | some s => simp [quoteForMode, quote, schedule, h, bind, Except.bind, pure, Except.pure]

end FeeCalculator

end Fees

open Fees

/-! ## Orders and responses -/

inductive OrderStatus
  | filled
  | partiallyFilled
  | rejected
  | cancelled
  | opened
  | expired
deriving DecidableEq, Repr

def OrderStatus.display : OrderStatus → String
  | .filled => "filled"
  | .partiallyFilled => "partially_filled"
  | .rejected => "rejected"
  | .cancelled => "cancelled"
  | .opened => "open"
  | .expired => "expired"

inductive OrderType
  | fok
  | gtc
  | gtd (expiration : Nat)
deriving DecidableEq, Repr

inductive OrderAmount
  | usd (value : Usd)
  | shares (value : Shares)
deriving DecidableEq, Repr

namespace OrderAmount

def asUsd : OrderAmount → Option Usd
  | .usd value => some value
  | .shares _ => none

def asShares : OrderAmount → Option Shares
  | .shares value => some value
  | .usd _ => none

end OrderAmount

structure OrderRequest where
  marketId : MarketId
  tokenId : TokenId
  side : Side
  amount : OrderAmount
  price : Price
  orderType : OrderType
  negRisk : Bool
deriving DecidableEq, Repr

structure PostOrderResponse where
  success : Bool
  makingAmount : Decimal
  takingAmount : Decimal
  orderId : OrderId
  transactionHashes : List String
deriving DecidableEq, Repr

/-- What a taker on this side gets in shares. -/
def PostOrderResponse.sharesFor (resp : PostOrderResponse) : Side → Shares
  | .buy => resp.takingAmount
  | .sell => resp.makingAmount

def PostOrderResponse.cashFor (resp : PostOrderResponse) : Side → Decimal
  | .buy => resp.makingAmount
  | .sell => resp.takingAmount

structure OrderResponse where
  orderId : OrderId
  status : OrderStatus
  txHash : Option String
  filledShares : Shares
  avgFillPrice : Option Price
  feePaid : Usd
deriving DecidableEq, Repr

/-- `map_post_order_response`. A fill-or-kill order and any other are told filled from
partially filled by the same test. -/
def mapPostOrderResponse (req : OrderRequest) (orderAmount : OrderAmount)
    (resp : PostOrderResponse) : OrderResponse :=
  let filledShares := resp.sharesFor req.side
  let cashAmount := resp.cashFor req.side
  { orderId := resp.orderId
    status :=
      if !resp.success || filledShares ≤ 0 then .rejected
      else if orderAmount.asShares.any (· ≤ filledShares) || orderAmount.asUsd.any (· ≤ cashAmount)
      then .filled
      else .partiallyFilled
    txHash := resp.transactionHashes.head?
    filledShares
    avgFillPrice := if 0 < filledShares then some (cashAmount / filledShares) else none
    feePaid := 0 }

/-! ## Outcomes -/

inductive ExecutionOutcome
  | filled (orderId : OrderId) (filledShares : Shares) (avgFillPrice : Option Price)
      (feePaid : Usd) (txHash : Option String) (mode : ExecutionMode) (latencyMs : Nat)
  | miss (reason : String) (mode : ExecutionMode)
  | failed (error : String) (mode : ExecutionMode)
  | unknown (reason : String) (mode : ExecutionMode)
deriving DecidableEq, Repr

/-- The outcomes under which the order may have traded. -/
def ExecutionOutcome.mayHaveTraded : ExecutionOutcome → Bool
  | .filled .. | .unknown .. => true
  | .miss .. | .failed .. => false

structure ExecutionPlan where
  marketId : MarketId
  tokenId : TokenId
  side : Side
  shares : Shares
  limitPrice : Price
  estimatedCost : Usd
  category : MarketCategory
  negRisk : Bool
  reservationId : ReservationId
deriving DecidableEq, Repr

def ExecutionPlan.feeInput (plan : ExecutionPlan) (mode : ExecutionMode) (tokenId : TokenId)
    (shares : Shares) (price : Price) : FeeQuoteInput where
  marketId := plan.marketId
  tokenId := tokenId
  category := plan.category
  side := plan.side
  liquidityRole := .taker
  shares := shares
  price := price
  allowCategoryFallback := mode ≠ .live

def mapOrderResponse (fees : FeeCalculator) (resp : OrderResponse) (plan : ExecutionPlan)
    (mode : ExecutionMode) (latencyMs : Nat) (tokenId : TokenId) : ExecutionOutcome :=
  match resp.status with
  | .partiallyFilled =>
    .unknown
      s!"FOK partial fill {resp.filledShares} of {plan.shares} shares for order {resp.orderId.raw}"
      mode
  | .filled =>
    if resp.filledShares ≤ 0 then .miss s!"order {resp.orderId.raw} returned zero fill" mode
    else if resp.filledShares < plan.shares then
      .unknown
        s!"FOK underfill {resp.filledShares} of {plan.shares} shares for order {resp.orderId.raw}"
        mode
    else
      let fillPrice := resp.avgFillPrice.getD plan.limitPrice
      match fees.quoteForMode mode (plan.feeInput mode tokenId resp.filledShares fillPrice) with
      | .ok quote =>
        .filled resp.orderId resp.filledShares (some fillPrice) quote.feeUsd resp.txHash mode
          latencyMs
      | .error error => .failed error.display mode
  | .rejected | .cancelled | .expired =>
    .miss s!"order {resp.orderId.raw} {resp.status.display}" mode
  | .opened =>
    .miss s!"order {resp.orderId.raw} resting open — FOK expected immediate fill or kill" mode

/-- A posted order: the venue's answer or a client error, how long it took, and whether
the dispatcher's timeout came first. -/
structure Posted where
  answer : Except String PostOrderResponse
  elapsedMs : Nat
  timedOut : Bool
deriving Repr

structure FokOrderStrategy where
  clobClient : Option (OrderRequest → Posted)
  fees : FeeCalculator
  dispatcherTimeoutMs : Nat

namespace FokOrderStrategy

def request (plan : ExecutionPlan) : OrderRequest where
  marketId := plan.marketId
  tokenId := plan.tokenId
  side := plan.side
  amount := match plan.side with
    | .buy => .usd plan.estimatedCost
    | .sell => .shares plan.shares
  price := plan.limitPrice
  orderType := .fok
  negRisk := plan.negRisk

def executeLiveFok (strategy : FokOrderStrategy) (plan : ExecutionPlan) : ExecutionOutcome :=
  match strategy.clobClient with
  | none => .failed "ClobClient unavailable in Live mode" .live
  | some clob =>
    let req := request plan
    let posted := clob req
    if posted.timedOut then
      .unknown s!"CLOB FOK order timeout after {strategy.dispatcherTimeoutMs}ms" .live
    else
      match posted.answer with
      | .error e => .failed e .live
      | .ok resp =>
        mapOrderResponse strategy.fees (mapPostOrderResponse req req.amount resp) plan .live
          posted.elapsedMs plan.tokenId

end FokOrderStrategy

/-- The reservations after the outcome is known, and the emergency it enters if any. -/
def settleReservation (outcome : ExecutionOutcome) (held : InMemoryExposureReservation)
    (id : ReservationId) : InMemoryExposureReservation × Option (EmergencyClass × String) :=
  match outcome with
  | .miss .. | .failed .. =>
    match held.releaseSync id with
    | .ok held' => (held', none)
    | .error _ => (held, some (.reservationFault, "reservation release failed"))
  | .filled .. | .unknown .. => (held, none)

/-! ## A filled order and its capital -/

theorem settleReservation_of_mayHaveTraded {outcome : ExecutionOutcome}
    (h : outcome.mayHaveTraded = true) (held : InMemoryExposureReservation) (id : ReservationId) :
    settleReservation outcome held id = (held, none) := by
  cases outcome with
  | filled => rfl
  | unknown => rfl
  | miss => cases h
  | failed => cases h

theorem mapPostOrderResponse_status {plan : ExecutionPlan} {resp : PostOrderResponse}
    (hsuccess : resp.success = true) (hpos : 0 < plan.shares)
    (hfill : plan.shares ≤ resp.sharesFor plan.side) :
    (mapPostOrderResponse (FokOrderStrategy.request plan) (FokOrderStrategy.request plan).amount
        resp).status =
      if plan.side = .buy ∧ resp.cashFor .buy < plan.estimatedCost then .partiallyFilled
      else .filled := by
  have hfilled : ¬ resp.sharesFor plan.side ≤ 0 := by linarith
  cases hside : plan.side with
  | buy =>
    rw [hside] at hfilled
    simp [mapPostOrderResponse, FokOrderStrategy.request, hside, hsuccess, hfilled,
      OrderAmount.asShares, OrderAmount.asUsd]
    grind
  | sell =>
    rw [hside] at hfilled hfill
    simp [mapPostOrderResponse, FokOrderStrategy.request, hside, hsuccess, hfilled, hfill,
      OrderAmount.asShares, OrderAmount.asUsd]

theorem mapOrderResponse_filled {fees : FeeCalculator} {resp : OrderResponse}
    {plan : ExecutionPlan} (hstatus : resp.status = .filled) (hpos : 0 < plan.shares)
    (hfill : plan.shares ≤ resp.filledShares) (latencyMs : Nat) (tokenId : TokenId) :
    (mapOrderResponse fees resp plan .live latencyMs tokenId).mayHaveTraded = true ↔
      (fees.rateCache.marketSchedules plan.marketId).isSome := by
  have hzero : ¬ resp.filledShares ≤ 0 := by linarith
  have hunder : ¬ resp.filledShares < plan.shares := not_lt.mpr hfill
  refine Iff.trans ?_ (fees.quoteForMode_live (plan.feeInput .live tokenId resp.filledShares
    (resp.avgFillPrice.getD plan.limitPrice)))
  simp only [mapOrderResponse, hstatus, hzero, hunder, if_false]
  split
  next quote hquote => exact iff_of_true rfl ⟨quote, hquote⟩
  next error herror =>
    refine iff_of_false (by simp [ExecutionOutcome.mayHaveTraded]) ?_
    rintro ⟨quote, hquote⟩
    cases herror.symm.trans hquote

/-- An accepted order that filled as planned keeps its capital exactly when the answer
came too late to be read, the market has a fee schedule, or the purchase took less cash
than was planned. -/
theorem executeLiveFok_keeps_capital_iff {strategy : FokOrderStrategy} {plan : ExecutionPlan}
    {clob : OrderRequest → Posted} {resp : PostOrderResponse}
    (hclient : strategy.clobClient = some clob)
    (hanswer : (clob (FokOrderStrategy.request plan)).answer = .ok resp)
    (hsuccess : resp.success = true) (hpos : 0 < plan.shares)
    (hfill : plan.shares ≤ resp.sharesFor plan.side) (held : InMemoryExposureReservation) :
    ((strategy.executeLiveFok plan).mayHaveTraded = true ∧
        settleReservation (strategy.executeLiveFok plan) held plan.reservationId = (held, none)) ↔
      ((clob (FokOrderStrategy.request plan)).timedOut = true ∨
        (strategy.fees.rateCache.marketSchedules plan.marketId).isSome ∨
        (plan.side = .buy ∧ resp.cashFor .buy < plan.estimatedCost)) := by
  have hkept : ((strategy.executeLiveFok plan).mayHaveTraded = true ∧
      settleReservation (strategy.executeLiveFok plan) held plan.reservationId = (held, none)) ↔
        (strategy.executeLiveFok plan).mayHaveTraded = true :=
    and_iff_left_of_imp fun h => settleReservation_of_mayHaveTraded h held plan.reservationId
  rw [hkept]
  simp only [FokOrderStrategy.executeLiveFok, hclient, hanswer]
  by_cases hlate : (clob (FokOrderStrategy.request plan)).timedOut = true
  · simp [hlate, ExecutionOutcome.mayHaveTraded]
  · simp only [hlate, Bool.false_eq_true, if_false, false_or]
    have hstatus := mapPostOrderResponse_status hsuccess hpos hfill
    split_ifs at hstatus with hcheap
    · simp [mapOrderResponse, hstatus, ExecutionOutcome.mayHaveTraded, hcheap]
    · rw [mapOrderResponse_filled hstatus hpos hfill, or_iff_left hcheap]

def samplePlan : ExecutionPlan where
  marketId := ⟨"market"⟩
  tokenId := ⟨"yes"⟩
  side := .buy
  shares := 10
  limitPrice := 97 / 100
  estimatedCost := 97 / 10
  category := .other
  negRisk := false
  reservationId := ⟨"reservation"⟩

def sampleFill : PostOrderResponse where
  success := true
  makingAmount := 97 / 10
  takingAmount := 10
  orderId := ⟨"order"⟩
  transactionHashes := []

def sampleStrategy (schedule : Option MarketFeeSchedule) : FokOrderStrategy where
  clobClient := some fun _ => { answer := .ok sampleFill, elapsedMs := 80, timedOut := false }
  fees :=
    { rateCache := { marketSchedules := fun _ => schedule, categoryDefaults := fun _ => none }
      calculateFee := fun _ _ _ _ => 0 }
  dispatcherTimeoutMs := 500

def sampleReservations : InMemoryExposureReservation where
  reservations :=
    ⟨[{ id := ⟨"reservation"⟩, marketId := ⟨"market"⟩, amountCents := 970, expiresAt := 0
        reconcilePinned := false }], by decide⟩
  totalReservedCents := 970
  perMarketCents := fun m => if m = ⟨"market"⟩ then some 970 else none

theorem executeLiveFok_keeps_capital_with_schedule :
    let strategy := sampleStrategy (some ⟨true, 2 / 100, 1⟩)
    (strategy.executeLiveFok samplePlan).mayHaveTraded = true ∧
      settleReservation (strategy.executeLiveFok samplePlan) sampleReservations
        samplePlan.reservationId = (sampleReservations, none) :=
  (@executeLiveFok_keeps_capital_iff (sampleStrategy (some ⟨true, 2 / 100, 1⟩)) samplePlan _
    sampleFill rfl rfl rfl (by decide +kernel) (by decide +kernel) sampleReservations).mpr
    (Or.inr (Or.inl rfl))

/-- Without a schedule the filled order is reported as failed, and its reservation is gone. -/
theorem filled_order_reported_failed :
    let outcome := (sampleStrategy none).executeLiveFok samplePlan
    samplePlan.shares ≤ sampleFill.sharesFor samplePlan.side ∧
      outcome = .failed "missing fee schedule for market market: category fallback disabled" .live ∧
      sampleReservations.reservations.get samplePlan.reservationId ≠ none ∧
      (settleReservation outcome sampleReservations samplePlan.reservationId).1.reservations.get
        samplePlan.reservationId = none := by
  decide +kernel

end OxideArb
