import OxideArb.Book.BookStore
import OxideArb.Calibration.Calibrator
import OxideArb.Detection.Walker

/-!
# The endgame detector

Once a market has converged for long enough inside its settlement window, the detector walks
the asks of the converged token and emits an opportunity to buy it. The tracker's cache may drop
entries at any time, so results hold for every tracker.
-/

namespace OxideArb

structure EndgameBookPair where
  yes : BookSnapshot
  no : BookSnapshot
deriving DecidableEq, Repr

inductive ConvergenceDirection
  | yesLikely
  | noLikely
deriving DecidableEq, Repr

/-! ## Confidence -/

structure ConfidenceFusion where
  priorStrength : Nat
  pFloor : MicroProb
  pCeiling : MicroProb
deriving DecidableEq, Repr

namespace ConfidenceFusion

def new (config : CalibrationConfig) : ConfidenceFusion :=
  { priorStrength := config.fusionPriorStrength
    pFloor := (Micro.tryFromDecimal config.fusedPFloor).getD 0
    pCeiling := (Micro.tryFromDecimal config.fusedPCeiling).getD MICRO_SCALE }

def fuse (fusion : ConfidenceFusion) (pCalibrator pRealtime : MicroProb) (sampleCount : Nat) :
    MicroProb :=
  let denom := satAddU32 sampleCount fusion.priorStrength
  let blended :=
    if denom = 0 then pRealtime else pRealtime.blend pCalibrator sampleCount denom
  blended.clampProb fusion.pFloor fusion.pCeiling

end ConfidenceFusion

/-- `duration_confidence_factor`: piecewise linear. -/
def durationConfidenceFactor (secs : Nat) : MicroProb :=
  MicroProb.fromMicro <|
    if secs ≤ 300 then (secs * 200000 / 300 : Nat)
    else if secs ≤ 3600 then 200000 + ((secs - 300) * 400000 / 3300 : Nat)
    else if secs ≤ 21600 then 600000 + ((secs - 3600) * 250000 / 18000 : Nat)
    else if secs ≤ 86400 then 850000 + ((secs - 21600) * 150000 / 64800 : Nat)
    else MICRO_SCALE

/-- `compute_realtime_confidence`: 70% price, 30% duration, within `[0.50, 0.995]`. -/
def computeRealtimeConfidence (entryPrice : MicroPrice) (convergenceSecs : Nat)
    (highThreshold : MicroPrice) : MicroProb :=
  let range := MICRO_SCALE - highThreshold
  let priceConf :=
    if range ≤ 0 then MicroProb.fromMicro 990000
    else
      let excess := entryPrice - highThreshold
      MicroProb.fromMicro (800000 + (excess * 190000).tdiv range)
  let durationConf := durationConfidenceFactor convergenceSecs
  let raw := (priceConf * 700000 + durationConf * 300000).tdiv MICRO_SCALE
  (MicroProb.fromMicro raw).clampProb (MicroProb.fromMicro 500000) (MicroProb.fromMicro 995000)

/-! ## Convergence tracking -/

structure ConvergenceEntry where
  direction : ConvergenceDirection
  firstSeen : DateTime
deriving DecidableEq, Repr

structure ConvergenceTracker where
  entries : MarketId → Option ConvergenceEntry

namespace ConvergenceTracker

/-- `update_and_get`: the seconds of convergence; a new direction starts over. -/
def updateAndGet (tracker : ConvergenceTracker) (marketId : MarketId)
    (direction : ConvergenceDirection) (now : DateTime) : Nat × ConvergenceTracker :=
  let restart : Nat × ConvergenceTracker :=
    (0, ⟨Function.update tracker.entries marketId (some ⟨direction, now⟩)⟩)
  match tracker.entries marketId with
  | some existing =>
    if existing.direction = direction then
      ((max (Duration.numSeconds (now - existing.firstSeen)) 0).toNat, tracker)
    else restart
  | none => restart

def remove (tracker : ConvergenceTracker) (marketId : MarketId) : ConvergenceTracker :=
  ⟨Function.update tracker.entries marketId none⟩

end ConvergenceTracker

/-! ## Detection -/

structure EndgameDetectionConfig where
  settlementWindowHours : Nat
  highThreshold : Decimal
  minConvergenceDurationSecs : Nat
  minProfitPerShare : Decimal
  maxInvestmentUsd : Decimal
deriving DecidableEq, Repr

def EndgameDetectionConfig.default : EndgameDetectionConfig :=
  { settlementWindowHours := 24, highThreshold := 95 / 100, minConvergenceDurationSecs := 300
    minProfitPerShare := 5 / 1000, maxInvestmentUsd := 500 }

structure DetectorParams where
  settlementWindowHours : Nat
  minConvergenceDurationSecs : Nat
  highThreshold : MicroPrice
  maxInvestmentUsd : MicroUsd
  minProfitPerShare : MicroPrice
  fusion : ConfidenceFusion
deriving DecidableEq, Repr

def DetectorParams.fromConfig (config : EndgameDetectionConfig) (calibration : CalibrationConfig) :
    DetectorParams :=
  { settlementWindowHours := config.settlementWindowHours
    minConvergenceDurationSecs := config.minConvergenceDurationSecs
    highThreshold := (Micro.tryFromDecimal config.highThreshold).getD 0
    maxInvestmentUsd := (Micro.tryFromDecimal config.maxInvestmentUsd).getD 0
    minProfitPerShare := (Micro.tryFromDecimal config.minProfitPerShare).getD 0
    fusion := ConfidenceFusion.new calibration }

structure EndgameDetectInput where
  marketId : MarketId
  eventId : EventId
  tokenYes : TokenId
  tokenNo : TokenId
  book : EndgameBookPair
  direction : ConvergenceDirection
  category : MarketCategory
  staleness : StalenessLevel
  settlementDeadline : Option DateTime
deriving DecidableEq, Repr

inductive DetectionRejectReason
  | marketAnomaly
  | emissionCooldown
  | stalenessExpired
  | noConvergenceDirection
  | outsideSettlementWindow
  | convergenceInsufficient (elapsedSecs requiredSecs : Nat)
  | walkFailed
  | minProfitPerShare
  | bucketRiskBlocked
  | bucketRiskEdgeFloor
  | minProfitThreshold
  | maxDepthUsage
  | minScore
deriving DecidableEq, Repr

structure DirectionalSettlement where
  projectedPayoutIfCorrect : Usd
  expectedPayout : Usd
  predictedSide : Side
deriving DecidableEq, Repr

structure EndgameMeta where
  predictedYes : Bool
  confidence : Decimal
  convergenceDurationSecs : Nat
  priceZone : PriceZone
  durationBucket : DurationBucket
  settlementDeadline : Option DateTime
deriving DecidableEq, Repr

structure CalibrationSnapshot where
  bucketKey : BucketKey
  posteriorMean : Decimal
  sampleSize : Nat
  alphaPrior : Decimal
  betaPrior : Decimal
  fallbackTier : Nat
  fusedProbability : Decimal
deriving DecidableEq, Repr

def CalibrationEntry.toSnapshot (entry : CalibrationEntry) (fusedProbability : Decimal) :
    CalibrationSnapshot :=
  { bucketKey := entry.bucketKey, posteriorMean := entry.posteriorMean
    sampleSize := entry.totalCount, alphaPrior := entry.alphaPrior, betaPrior := entry.betaPrior
    fallbackTier := entry.fallbackTier, fusedProbability }

/-- A detected opportunity; its random id is left out. -/
structure Opportunity where
  marketId : MarketId
  eventId : EventId
  tokenId : TokenId
  side : Side
  payoutModel : DirectionalSettlement
  shares : Shares
  entryPrice : Price
  totalCost : Usd
  totalFees : Usd
  netProfit : Usd
  expectedNetProfit : Usd
  edgeBps : Int
  resolutionAdjust : Decimal
  depthUsedPct : Decimal
  staleness : StalenessLevel
  category : MarketCategory
  info : EndgameMeta
  calibration : CalibrationSnapshot
  detectedAt : DateTime
deriving DecidableEq, Repr

structure EndgameDetector where
  params : DetectorParams
  convergence : ConvergenceTracker
  calibrator : ResolutionCalibrator
  estimateFee : Shares → Price → MarketCategory → TokenId → Usd

namespace EndgameDetector

def detectDirection (det : EndgameDetector) (book : EndgameBookPair) :
    Option ConvergenceDirection :=
  let reaches (asks : List BookLevel) : Bool :=
    asks.head?.any fun level => det.params.highThreshold ≤ level.price
  if reaches book.yes.asks then some .yesLikely
  else if reaches book.no.asks then some .noLikely
  else none

/-- The asks and the token a direction buys. -/
def target (input : EndgameDetectInput) : BookSnapshot × TokenId :=
  match input.direction with
  | .yesLikely => (input.book.yes, input.tokenYes)
  | .noLikely => (input.book.no, input.tokenNo)

def buildOpportunity (det : EndgameDetector) (input : EndgameDetectInput) (walk : WalkResult)
    (targetToken : TokenId) (entryPrice : Price) (convergenceSecs : Nat) (deadline now : DateTime) :
    Opportunity :=
  let shares := Micro.toDecimal walk.shares
  let totalCost := Micro.toDecimal walk.totalCost
  let bucketKey : BucketKey :=
    { category := input.category, priceZone := PriceZone.fromPrice entryPrice
      durationBucket := DurationBucket.fromSecs convergenceSecs }
  let calEntry := det.calibrator.lookup bucketKey
  let entryPriceMicro := (Micro.tryFromDecimal entryPrice).getD 0
  let realtimeConf :=
    computeRealtimeConfidence entryPriceMicro convergenceSecs det.params.highThreshold
  let fusedP := det.params.fusion.fuse ((Micro.tryFromDecimal calEntry.posteriorMean).getD 0)
    realtimeConf calEntry.totalCount
  let fusedPDec := Micro.toDecimal fusedP
  let fees := det.estimateFee shares entryPrice input.category targetToken
  let netProfit := shares - totalCost - fees
  let expectedPayout := shares * fusedPDec
  let expectedNetProfit := expectedPayout - totalCost - fees
  let costPlusFees := totalCost + fees
  let edgeBps :=
    if costPlusFees = 0 then 0 else roundHalfEven (expectedNetProfit / costPlusFees * 10000)
  { marketId := input.marketId, eventId := input.eventId, tokenId := targetToken, side := .buy
    payoutModel := { projectedPayoutIfCorrect := shares, expectedPayout, predictedSide := .buy }
    shares, entryPrice, totalCost, totalFees := fees, netProfit, expectedNetProfit, edgeBps
    resolutionAdjust := fusedPDec, depthUsedPct := walk.depthUsedPct, staleness := input.staleness
    category := input.category
    info :=
      { predictedYes := input.direction = .yesLikely, confidence := fusedPDec
        convergenceDurationSecs := convergenceSecs, priceZone := bucketKey.priceZone
        durationBucket := bucketKey.durationBucket, settlementDeadline := some deadline }
    calibration := calEntry.toSnapshot fusedPDec, detectedAt := now }

def detectWithDirection (det : EndgameDetector) (input : EndgameDetectInput) (now : DateTime) :
    Except DetectionRejectReason Opportunity × ConvergenceTracker :=
  match input.settlementDeadline with
  | none => (.error .outsideSettlementWindow, det.convergence)
  | some deadline =>
    let hoursRemaining := Duration.numHours (deadline - now)
    if hoursRemaining < 0 ∨ min (det.params.settlementWindowHours : Int) i64Max < hoursRemaining then
      (.error .outsideSettlementWindow, det.convergence.remove input.marketId)
    else
      let (convergenceSecs, tracker) :=
        det.convergence.updateAndGet input.marketId input.direction now
      if convergenceSecs < det.params.minConvergenceDurationSecs then
        (.error (.convergenceInsufficient convergenceSecs det.params.minConvergenceDurationSecs),
          tracker)
      else
        let (targetBook, targetToken) := target input
        match walkAsksByCost targetBook.asks det.params.maxInvestmentUsd
          det.params.highThreshold targetBook.totalAskDepthUsd with
        | none => (.error .walkFailed, tracker)
        | some walk =>
          if MICRO_SCALE - walk.vwap < det.params.minProfitPerShare then
            (.error .minProfitPerShare, tracker)
          else
            (.ok (det.buildOpportunity input walk targetToken (Micro.toDecimal walk.vwap)
              convergenceSecs deadline now), tracker)

variable {det : EndgameDetector} {input : EndgameDetectInput} {now : DateTime} {opp : Opportunity}

/-- All that an emission implies: the deadline is inside the window in whole hours, the
convergence lasted long enough, and the walk leaves the configured edge. -/
theorem detectWithDirection_emits (h : (det.detectWithDirection input now).1 = .ok opp) :
    ∃ deadline walk,
      input.settlementDeadline = some deadline ∧
      0 ≤ Duration.numHours (deadline - now) ∧
      Duration.numHours (deadline - now) ≤ min (det.params.settlementWindowHours : Int) i64Max ∧
      det.params.minConvergenceDurationSecs ≤
        (det.convergence.updateAndGet input.marketId input.direction now).1 ∧
      walkAsksByCost (target input).1.asks det.params.maxInvestmentUsd
        det.params.highThreshold (target input).1.totalAskDepthUsd = some walk ∧
      det.params.minProfitPerShare ≤ MICRO_SCALE - walk.vwap ∧
      opp = det.buildOpportunity input walk (target input).2 (Micro.toDecimal walk.vwap)
        (det.convergence.updateAndGet input.marketId input.direction now).1 deadline now := by
  unfold detectWithDirection at h
  split at h
  · cases h
  · rename_i deadline hdeadline
    simp only at h
    split at h
    · cases h
    · rename_i hwindow
      rw [not_or, not_lt, not_lt] at hwindow
      split at h
      · cases h
      · rename_i hsecs
        split at h
        · cases h
        · rename_i walk hwalk
          split at h
          · cases h
          · rename_i hprofit
            cases h
            exact ⟨deadline, walk, hdeadline, hwindow.1, hwindow.2, not_lt.mp hsecs, hwalk,
              not_lt.mp hprofit, rfl⟩

/-- **What an emitted opportunity is**: a purchase of the direction's token, priced by
the walk over that token's asks. -/
theorem detectWithDirection_ok (h : (det.detectWithDirection input now).1 = .ok opp) :
    opp.side = .buy ∧ opp.tokenId = (target input).2 ∧
      ∃ walk, walkAsksByCost (target input).1.asks det.params.maxInvestmentUsd
          det.params.highThreshold (target input).1.totalAskDepthUsd = some walk ∧
        opp.entryPrice = Micro.toDecimal walk.vwap ∧
        opp.totalCost = Micro.toDecimal walk.totalCost ∧
        det.params.minProfitPerShare ≤ MICRO_SCALE - walk.vwap := by
  obtain ⟨deadline, walk, -, -, -, -, hwalk, hprofit, rfl⟩ := detectWithDirection_emits h
  exact ⟨rfl, rfl, walk, hwalk, rfl, rfl, hprofit⟩

end EndgameDetector

end OxideArb
