import OxideArb.Book.BookStore
import OxideArb.Calibration.Calibrator
import OxideArb.Types.Position

/-!
# Portfolio equity

An open position is marked with the calibrated probability of the zone of its best bid, with the
bid when the market's context is missing, or with its cost when there is no fresh bid.
-/

namespace OxideArb

def maxMarkBookStalenessMs : Nat := 30000

inductive MarkSource
  | calibrated
  | bookBid
  | costBasis
deriving DecidableEq, Repr

structure PerPositionMark where
  position : PositionInfo
  mark : Price
  value : Usd
  stale : Bool
  source : MarkSource
deriving DecidableEq, Repr

structure EquityValuator where
  registry : MarketRegistry
  bookStore : BookStore
  calibrator : ResolutionCalibrator

/-- `Decimal::clamp(0, 1)`. -/
def clampUnit (d : Decimal) : Decimal := if d < 0 then 0 else if 1 < d then 1 else d

namespace EquityValuator

variable (v : EquityValuator) (positions : List PositionInfo) (now : DateTime)

def freshBestBid (position : PositionInfo) (nowMs : Nat) : Option Price :=
  match v.bookStore.load position.tokenId with
  | none => none
  | some snapshot =>
    if snapshot.timestampMs = 0 ∨ maxMarkBookStalenessMs < nowMs - snapshot.timestampMs then none
    else snapshot.bestBid

def bucketKey (market : MarketRegistryInfo) (endDate : DateTime) (bid : Price) (now : DateTime) :
    BucketKey :=
  { category := market.feeCategory
    priceZone := PriceZone.fromPrice bid
    durationBucket := DurationBucket.fromSecs (Duration.numSeconds (endDate - now)).toNat }

def markPosition (position : PositionInfo) (now : DateTime) (nowMs : Nat) :
    Price × Bool × MarkSource :=
  match v.freshBestBid position nowMs with
  | none => (position.avgEntryPrice, true, .costBasis)
  | some bid =>
    match v.registry.getMarket position.marketId with
    | none => (bid, false, .bookBid)
    | some market =>
      match market.endDate with
      | none => (bid, false, .bookBid)
      | some endDate =>
        let calibrated := (v.calibrator.lookup (bucketKey market endDate bid now)).posteriorMean
        (clampUnit calibrated, false, .calibrated)

def valueOne (acc : Usd × List PerPositionMark) (position : PositionInfo) :
    Usd × List PerPositionMark :=
  let (mark, stale, source) := v.markPosition position now (timestampMillis now)
  let value := position.shares * mark
  (acc.1 + value, acc.2 ++ [{ position, mark, value, stale, source }])

def value : Usd × List PerPositionMark :=
  positions.foldl (v.valueOne now) (0, [])

/-- What a position with fresh bid `b` is marked from: a lookup in the zone that
covers the bid, or the bid itself. -/
def MarkedFrom (cal : ResolutionCalibrator) (b : Price) (mark : Price) (source : MarkSource) :
    Prop :=
  (source = .calibrated ∧ ∃ key : BucketKey, key.priceZone.Covers b ∧
    mark = clampUnit (cal.lookup key).posteriorMean) ∨
  (source = .bookBid ∧ mark = b)

variable {position : PositionInfo}

theorem markPosition_agreesOn {cal : ResolutionCalibrator} {now : DateTime} {nowMs : Nat}
    (h : ∀ b zone, v.freshBestBid position nowMs = some b → zone.Covers b →
      AgreesOn zone v.calibrator cal) :
    ({ v with calibrator := cal }).markPosition position now nowMs =
      v.markPosition position now nowMs := by
  have hbid : ({ v with calibrator := cal }).freshBestBid position nowMs =
      v.freshBestBid position nowMs := rfl
  unfold markPosition
  rw [hbid]
  cases hb : v.freshBestBid position nowMs with
  | none => rfl
  | some b =>
    simp only
    cases v.registry.getMarket position.marketId with
    | none => rfl
    | some market =>
      simp only
      cases market.endDate with
      | none => rfl
      | some endDate =>
        have hcover : (PriceZone.fromPrice b).Covers b :=
          (PriceZone.fromPrice_eq_iff b _).mp rfl
        have hlookup : v.calibrator.lookup (bucketKey market endDate b now) =
            cal.lookup (bucketKey market endDate b now) :=
          AgreesOn.lookup (h b _ hb hcover)
        simp only [hlookup]

theorem markPosition_markedFrom {v : EquityValuator} {now : DateTime} {nowMs : Nat} {b : Price}
    (hb : v.freshBestBid position nowMs = some b) :
    MarkedFrom v.calibrator b (v.markPosition position now nowMs).1
      (v.markPosition position now nowMs).2.2 := by
  unfold markPosition
  rw [hb]
  simp only
  cases v.registry.getMarket position.marketId with
  | none => exact Or.inr ⟨rfl, rfl⟩
  | some market =>
    simp only
    cases market.endDate with
    | none => exact Or.inr ⟨rfl, rfl⟩
    | some endDate =>
      exact Or.inl ⟨rfl, bucketKey market endDate b now,
        (PriceZone.fromPrice_eq_iff b _).mp rfl, rfl⟩

def markOf (position : PositionInfo) : PerPositionMark :=
  let (mark, stale, source) := v.markPosition position now (timestampMillis now)
  { position, mark, value := position.shares * mark, stale, source }

theorem valueOne_eq (acc : Usd × List PerPositionMark) (position : PositionInfo) :
    v.valueOne now acc position =
      (acc.1 + (v.markOf now position).value, acc.2 ++ [v.markOf now position]) := rfl

theorem value_marks : (v.value positions now).2 = positions.map (v.markOf now) := by
  unfold value
  induction positions using List.reverseRecOn with
  | nil => rfl
  | append_singleton positions position ih =>
    rw [List.foldl_append, List.foldl_cons, List.foldl_nil, valueOne_eq, ih, List.map_append]
    rfl

theorem value_total :
    (v.value positions now).1 = (positions.map fun p => (v.markOf now p).value).sum := by
  unfold value
  induction positions using List.reverseRecOn with
  | nil => rfl
  | append_singleton positions position ih =>
    rw [List.foldl_append, List.foldl_cons, List.foldl_nil, valueOne_eq, ih, List.map_append,
      List.sum_append, List.map_cons, List.map_nil, List.sum_singleton]

/-- **Marks come from the zone of the bid.** The valuation does not change when the
calibrator is replaced by one that agrees with it on the zones covering the fresh
bids, whatever it holds elsewhere; and a position with a fresh bid is marked from
that zone or with the bid itself. -/
theorem value_agreesOn (v : EquityValuator) (cal : ResolutionCalibrator)
    (positions : List PositionInfo) (now : DateTime)
    (h : ∀ position ∈ positions, ∀ b zone,
      v.freshBestBid position (timestampMillis now) = some b → zone.Covers b →
        AgreesOn zone v.calibrator cal) :
    ({ v with calibrator := cal }).value positions now = v.value positions now ∧
      ∀ m ∈ (v.value positions now).2, ∀ b,
        v.freshBestBid m.position (timestampMillis now) = some b →
          MarkedFrom v.calibrator b m.mark m.source := by
  have hmark : ∀ position ∈ positions,
      ({ v with calibrator := cal }).markOf now position = v.markOf now position := by
    intro position hp
    unfold markOf
    rw [markPosition_agreesOn v (h position hp)]
  constructor
  · refine Prod.ext ?_ ?_
    · rw [value_total, value_total]
      congr 1
      refine List.map_congr_left fun position hp => ?_
      rw [hmark position hp]
    · rw [value_marks, value_marks]
      exact List.map_congr_left hmark
  · intro m hm b hb
    rw [value_marks] at hm
    obtain ⟨position, -, rfl⟩ := List.mem_map.mp hm
    exact markPosition_markedFrom hb

def sampleMarket : MarketRegistryInfo :=
  { marketId := ⟨"m"⟩, tokenYes := ⟨"yes"⟩, tokenNo := ⟨"no"⟩, categories := ⟨0⟩, negRisk := false
    endDate := some (Duration.seconds 4600) }

def samplePosition : PositionInfo :=
  { positionId := ⟨1⟩, tradeId := ⟨1⟩, marketId := ⟨"m"⟩, tokenId := ⟨"yes"⟩, shares := 100
    avgEntryPrice := 97 / 100, totalCostUsd := 97, totalFeesUsd := 0, realizedPnl := 0
    status := .opened, settledAt := none, winningTokenId := none, settlementPayoutUsd := none
    redeemTxHash := none, redeemStatus := .pending, redeemAttempts := 0
    settlementTrigger := none, settlementAccountingStatus := .pending
    settlementAccountingError := none, settlementAccountedAt := none
    redeemTerminalReason := none, redeemNegRisk := false, redeemRoute := "", redeemGasLimit := 0
    redeemGasPaidUsd := none }

def sampleCalibrator : ResolutionCalibrator :=
  .fromEntries
    [{ bucketKey := ⟨.other, .z95, .medium⟩, totalCount := 100, correctCount := 98
       alphaPrior := 2, betaPrior := 1 / 5, fallbackTier := 1 }] .default

def sampleValuator (bid : MicroPrice) : EquityValuator :=
  { registry := ⟨fun id => if id = ⟨"m"⟩ then some sampleMarket else none⟩
    bookStore := BookStore.new.applySnapshot ⟨"yes"⟩ [⟨bid, 1000000⟩] [] 1000000
    calibrator := sampleCalibrator }

/-- A position bid at 0.955 keeps its mark when an outcome is recorded in `Z99`. -/
theorem value_agreesOn_otherZone :
    let v := sampleValuator 955000
    let cal := v.calibrator.recordOutcome ⟨.other, .z99, .medium⟩ false
    v.freshBestBid samplePosition (timestampMillis (Duration.seconds 1000)) = some (955 / 1000) ∧
    ({ v with calibrator := cal }).value [samplePosition] (Duration.seconds 1000) =
      v.value [samplePosition] (Duration.seconds 1000) ∧
    ∀ m ∈ (v.value [samplePosition] (Duration.seconds 1000)).2, ∀ b,
      v.freshBestBid m.position (timestampMillis (Duration.seconds 1000)) = some b →
        MarkedFrom v.calibrator b m.mark m.source := by
  have hbid : (sampleValuator 955000).freshBestBid samplePosition
      (timestampMillis (Duration.seconds 1000)) = some (955 / 1000) := by
    decide +kernel
  refine ⟨hbid, value_agreesOn _ _ [samplePosition] _ ?_⟩
  intro position hp b zone hb hcover
  rw [List.mem_singleton.mp hp, hbid, Option.some.injEq] at hb
  subst hb
  have hz : zone = .z95 := by
    rw [← (PriceZone.fromPrice_eq_iff _ zone).mpr hcover]
    decide +kernel
  subst hz
  exact agreesOn_recordOutcome _ (by decide) _

/-- A position whose bid has fallen to 0.50 is marked from `Z95`, far above its bid. -/
theorem collapsed_bid_marked_above :
    (sampleValuator 500000).freshBestBid samplePosition
        (timestampMillis (Duration.seconds 1000)) = some (1 / 2) ∧
      ((sampleValuator 500000).value [samplePosition] (Duration.seconds 1000)).2.map
        (fun m => (m.source, m.mark)) = [(.calibrated, 500 / 511)] ∧
      (1 / 2 : Price) < 95 / 100 ∧ (1 / 2 : Price) < 500 / 511 := by
  refine ⟨?_, ?_, ?_, ?_⟩ <;> decide +kernel

end EquityValuator

end OxideArb
