import OxideArb.Types.Market

/-!
# The resolution calibrator

Observed resolution counts live in buckets keyed by category, price zone and duration. A lookup
falls back to coarser aggregates of the same zone: calibrators that agree on a zone answer
alike in it (`AgreesOn.lookup`).
-/

namespace OxideArb

inductive PriceZone
  | z95
  | z96
  | z97
  | z98
  | z99
deriving DecidableEq, Repr

namespace PriceZone

def fromPrice (price : Price) : PriceZone :=
  if 99 / 100 ≤ price then .z99
  else if 98 / 100 ≤ price then .z98
  else if 97 / 100 ≤ price then .z97
  else if 96 / 100 ≤ price then .z96
  else .z95

/-- The prices `from_price` puts into a zone. The lowest zone takes everything
below it as well. -/
def Covers : PriceZone → Price → Prop
  | .z95, p => p < 96 / 100
  | .z96, p => 96 / 100 ≤ p ∧ p < 97 / 100
  | .z97, p => 97 / 100 ≤ p ∧ p < 98 / 100
  | .z98, p => 98 / 100 ≤ p ∧ p < 99 / 100
  | .z99, p => 99 / 100 ≤ p

theorem fromPrice_eq_iff (price : Price) (zone : PriceZone) :
    fromPrice price = zone ↔ zone.Covers price := by
  unfold fromPrice
  constructor
  · rintro rfl
    split_ifs with h99 h98 h97 h96
    · exact h99
    · exact ⟨h98, not_le.mp h99⟩
    · exact ⟨h97, not_le.mp h98⟩
    · exact ⟨h96, not_le.mp h97⟩
    · exact not_le.mp h96
  · intro h
    cases zone with
    | z95 =>
      have h96 : ¬ 96 / 100 ≤ price := not_le.mpr h
      rw [if_neg (by linarith), if_neg (by linarith), if_neg (by linarith), if_neg h96]
    | z96 =>
      have h97 : ¬ 97 / 100 ≤ price := not_le.mpr h.2
      rw [if_neg (by linarith), if_neg (by linarith), if_neg h97, if_pos h.1]
    | z97 =>
      have h98 : ¬ 98 / 100 ≤ price := not_le.mpr h.2
      rw [if_neg (by linarith), if_neg h98, if_pos h.1]
    | z98 => rw [if_neg (not_le.mpr h.2), if_pos h.1]
    | z99 => exact if_pos h

end PriceZone

inductive DurationBucket
  | short
  | medium
  | long
  | veryLong
deriving DecidableEq, Repr

def DurationBucket.fromSecs (secs : Nat) : DurationBucket :=
  if secs < 3600 then .short
  else if secs < 21600 then .medium
  else if secs < 86400 then .long
  else .veryLong

structure BucketKey where
  category : MarketCategory
  priceZone : PriceZone
  durationBucket : DurationBucket
deriving DecidableEq, Repr

structure CalibrationEntry where
  bucketKey : BucketKey
  totalCount : Nat
  correctCount : Nat
  alphaPrior : Decimal
  betaPrior : Decimal
  fallbackTier : Nat
deriving DecidableEq, Repr

namespace CalibrationEntry

def posteriorMean (entry : CalibrationEntry) : Decimal :=
  let alpha := entry.alphaPrior + entry.correctCount
  let beta := entry.betaPrior + ((entry.totalCount - entry.correctCount : Nat) : Decimal)
  let denominator := alpha + beta
  if denominator = 0 then entry.alphaPrior / (entry.alphaPrior + entry.betaPrior)
  else alpha / denominator

def isCredible (entry : CalibrationEntry) (minSamples : Nat) : Bool :=
  minSamples ≤ entry.totalCount

end CalibrationEntry

structure AggregatedCalibration where
  totalCount : Nat
  correctCount : Nat
  alphaPrior : Decimal
  betaPrior : Decimal
  bucketCount : Nat
deriving DecidableEq, Repr

def satAddU32 (a b : Nat) : Nat := min (a + b) u32Max

namespace AggregatedCalibration

/-- First bucket of an aggregate (`or_insert`). -/
def single (entry : CalibrationEntry) : AggregatedCalibration :=
  { totalCount := entry.totalCount
    correctCount := entry.correctCount
    alphaPrior := entry.alphaPrior
    betaPrior := entry.betaPrior
    bucketCount := 1 }

/-- A further bucket (`and_modify`): counts add up, priors average. -/
def merge (agg : AggregatedCalibration) (entry : CalibrationEntry) : AggregatedCalibration :=
  let oldN := agg.bucketCount
  let newN := oldN + 1
  { totalCount := satAddU32 agg.totalCount entry.totalCount
    correctCount := satAddU32 agg.correctCount entry.correctCount
    alphaPrior := (agg.alphaPrior * oldN + entry.alphaPrior) / newN
    betaPrior := (agg.betaPrior * oldN + entry.betaPrior) / newN
    bucketCount := newN }

def bump (wasCorrect : Bool) (agg : AggregatedCalibration) : AggregatedCalibration :=
  { agg with
    totalCount := satAddU32 agg.totalCount 1
    correctCount := if wasCorrect then satAddU32 agg.correctCount 1 else agg.correctCount }

def toEntry (agg : AggregatedCalibration) (bucketKey : BucketKey) (fallbackTier : Nat) :
    CalibrationEntry :=
  { bucketKey
    totalCount := agg.totalCount
    correctCount := agg.correctCount
    alphaPrior := agg.alphaPrior
    betaPrior := agg.betaPrior
    fallbackTier }

end AggregatedCalibration

structure FallbackIndexes where
  byCategoryZone : MarketCategory × PriceZone → Option AggregatedCalibration
  byZone : PriceZone → Option AggregatedCalibration

def mergeInto {κ : Type} [DecidableEq κ] (map : κ → Option AggregatedCalibration) (key : κ)
    (entry : CalibrationEntry) : κ → Option AggregatedCalibration :=
  Function.update map key
    (some (match map key with
      | some agg => agg.merge entry
      | none => .single entry))

namespace FallbackIndexes

def default : FallbackIndexes := ⟨fun _ => none, fun _ => none⟩

def addEntry (indexes : FallbackIndexes) (key : BucketKey) (entry : CalibrationEntry) :
    FallbackIndexes :=
  { byCategoryZone := mergeInto indexes.byCategoryZone (key.category, key.priceZone) entry
    byZone := mergeInto indexes.byZone key.priceZone entry }

/-- `rebuild`, over the buckets in iteration order. -/
def rebuild (buckets : List (BucketKey × CalibrationEntry)) : FallbackIndexes :=
  buckets.foldl (fun indexes bucket => indexes.addEntry bucket.1 bucket.2) default

def bumpOutcome (indexes : FallbackIndexes) (key : BucketKey) (wasCorrect : Bool) :
    FallbackIndexes :=
  { byCategoryZone := Function.update indexes.byCategoryZone (key.category, key.priceZone)
      ((indexes.byCategoryZone (key.category, key.priceZone)).map (·.bump wasCorrect))
    byZone := Function.update indexes.byZone key.priceZone
      ((indexes.byZone key.priceZone).map (·.bump wasCorrect)) }

end FallbackIndexes

structure CalibrationConfig where
  minSampleSize : Nat
  bootstrapAlpha : Decimal
  bootstrapBeta : Decimal
  fusionPriorStrength : Nat
  fusedPFloor : Decimal
  fusedPCeiling : Decimal
deriving DecidableEq, Repr

def CalibrationConfig.default : CalibrationConfig :=
  { minSampleSize := 30, bootstrapAlpha := 2, bootstrapBeta := 2 / 10, fusionPriorStrength := 20
    fusedPFloor := 80 / 100, fusedPCeiling := 995 / 1000 }

structure ResolutionCalibrator where
  buckets : List (BucketKey × CalibrationEntry)
  indexes : FallbackIndexes
  config : CalibrationConfig

variable (buckets : List (BucketKey × CalibrationEntry))

def getBucket (key : BucketKey) : Option CalibrationEntry :=
  (buckets.find? fun bucket => bucket.1 = key).map (·.2)

def insertBucket (entry : CalibrationEntry) : List (BucketKey × CalibrationEntry) :=
  buckets.filter (fun bucket => bucket.1 ≠ entry.bucketKey) ++ [(entry.bucketKey, entry)]

def lookupWithFallback (indexes : FallbackIndexes) (key : BucketKey) (minSamples : Nat)
    (bootstrapAlpha bootstrapBeta : Decimal) : CalibrationEntry :=
  let tier1 := ((getBucket buckets key).filter (·.isCredible minSamples)).map fun entry =>
    { entry with bucketKey := key, fallbackTier := 1 }
  let tier2 := ((indexes.byCategoryZone (key.category, key.priceZone)).map
    (·.toEntry key 2)).filter (·.isCredible minSamples)
  let tier3 := ((indexes.byZone key.priceZone).map (·.toEntry key 3)).filter
    (·.isCredible minSamples)
  let tier4 : CalibrationEntry :=
    { bucketKey := key, totalCount := 0, correctCount := 0
      alphaPrior := bootstrapAlpha, betaPrior := bootstrapBeta, fallbackTier := 4 }
  ((tier1.or tier2).or tier3).getD tier4

namespace ResolutionCalibrator

def fromEntries (entries : List CalibrationEntry) (config : CalibrationConfig) :
    ResolutionCalibrator :=
  let buckets := entries.foldl insertBucket []
  { buckets, indexes := FallbackIndexes.rebuild buckets, config }

variable (cal : ResolutionCalibrator)

def lookup (key : BucketKey) : CalibrationEntry :=
  lookupWithFallback cal.buckets cal.indexes key cal.config.minSampleSize
    cal.config.bootstrapAlpha cal.config.bootstrapBeta

def recordOutcome (key : BucketKey) (wasCorrect : Bool) : ResolutionCalibrator :=
  match getBucket cal.buckets key with
  | some _ =>
    { cal with
      buckets := cal.buckets.map fun bucket =>
        if bucket.1 = key then
          (bucket.1, { bucket.2 with
            totalCount := satAddU32 bucket.2.totalCount 1
            correctCount :=
              if wasCorrect then satAddU32 bucket.2.correctCount 1 else bucket.2.correctCount })
        else bucket
      indexes := cal.indexes.bumpOutcome key wasCorrect }
  | none =>
    let entry : CalibrationEntry :=
      { bucketKey := key, totalCount := 1, correctCount := if wasCorrect then 1 else 0
        alphaPrior := cal.config.bootstrapAlpha, betaPrior := cal.config.bootstrapBeta
        fallbackTier := 1 }
    { cal with
      buckets := insertBucket cal.buckets entry
      indexes := cal.indexes.addEntry key entry }

end ResolutionCalibrator

/-! ## What a zone's answers depend on -/

/-- Two calibrators hold the same buckets and aggregates of a zone. -/
structure AgreesOn (zone : PriceZone) (cal cal' : ResolutionCalibrator) : Prop where
  config : cal.config = cal'.config
  bucket : ∀ key, key.priceZone = zone → getBucket cal.buckets key = getBucket cal'.buckets key
  byCategoryZone : ∀ category,
    cal.indexes.byCategoryZone (category, zone) = cal'.indexes.byCategoryZone (category, zone)
  byZone : cal.indexes.byZone zone = cal'.indexes.byZone zone

variable {key : BucketKey}

/-- **A lookup reads its own zone only.** -/
theorem AgreesOn.lookup {cal cal' : ResolutionCalibrator} (h : AgreesOn key.priceZone cal cal') :
    cal.lookup key = cal'.lookup key := by
  unfold ResolutionCalibrator.lookup lookupWithFallback
  rw [h.config, h.bucket key rfl, h.byCategoryZone, h.byZone]

theorem mergeInto_ne {κ : Type} [DecidableEq κ] (map : κ → Option AggregatedCalibration)
    {key key' : κ} (h : key' ≠ key) (entry : CalibrationEntry) :
    mergeInto map key entry key' = map key' := by
  simp [mergeInto, h]

theorem getBucket_insertBucket_ne {entry : CalibrationEntry} (h : key ≠ entry.bucketKey) :
    getBucket (insertBucket buckets entry) key = getBucket buckets key := by
  unfold getBucket insertBucket
  rw [List.find?_append, List.find?_filter]
  have hlast : [(entry.bucketKey, entry)].find? (fun bucket => bucket.1 = key) = none := by
    simp [h.symm]
  rw [hlast, Option.or_none]
  congr 2
  funext bucket
  by_cases hb : bucket.1 = key <;> simp [hb, h]

theorem getBucket_insertBucket_self (entry : CalibrationEntry) :
    getBucket (insertBucket buckets entry) entry.bucketKey = some entry := by
  have hnone : (buckets.filter fun bucket => bucket.1 ≠ entry.bucketKey).find?
      (fun bucket => bucket.1 = entry.bucketKey) = none := by
    simp [List.find?_eq_none]
  unfold getBucket insertBucket
  rw [List.find?_append, hnone]
  simp

theorem getBucket_map {f : BucketKey × CalibrationEntry → BucketKey × CalibrationEntry}
    (hf : ∀ bucket, (f bucket).1 = bucket.1) (key : BucketKey) :
    getBucket (buckets.map f) key =
      (getBucket buckets key).map fun entry => (f (key, entry)).2 := by
  have hpred : ((fun bucket : BucketKey × CalibrationEntry => decide (bucket.1 = key)) ∘ f) =
      fun bucket => decide (bucket.1 = key) := by
    funext bucket
    rw [Function.comp_apply, hf]
  unfold getBucket
  rw [List.find?_map, hpred]
  cases hfind : buckets.find? (fun bucket => decide (bucket.1 = key)) with
  | none => rfl
  | some bucket =>
    have hkey : bucket.1 = key := by simpa using List.find?_some hfind
    subst hkey
    rfl

/-- One more outcome in a bucket. -/
def CalibrationEntry.bump (wasCorrect : Bool) (entry : CalibrationEntry) : CalibrationEntry :=
  { entry with
    totalCount := satAddU32 entry.totalCount 1
    correctCount := if wasCorrect then satAddU32 entry.correctCount 1 else entry.correctCount }

theorem getBucket_recordOutcome (cal : ResolutionCalibrator) (key key' : BucketKey)
    (wasCorrect : Bool) :
    getBucket (cal.recordOutcome key wasCorrect).buckets key' =
      if key' = key then
        some (match getBucket cal.buckets key with
          | some entry => entry.bump wasCorrect
          | none =>
            { bucketKey := key, totalCount := 1, correctCount := if wasCorrect then 1 else 0
              alphaPrior := cal.config.bootstrapAlpha, betaPrior := cal.config.bootstrapBeta
              fallbackTier := 1 })
      else getBucket cal.buckets key' := by
  unfold ResolutionCalibrator.recordOutcome
  split
  · rename_i entry hentry
    dsimp only
    rw [getBucket_map _ (fun bucket => by split <;> rfl)]
    by_cases hk : key' = key
    · subst hk
      simp [hentry, CalibrationEntry.bump]
    · simp [hk]
  · by_cases hk : key' = key
    · subst hk
      rw [if_pos rfl]
      exact getBucket_insertBucket_self cal.buckets _
    · rw [if_neg hk]
      exact getBucket_insertBucket_ne cal.buckets hk

theorem agreesOn_recordOutcome (cal : ResolutionCalibrator) {zone : PriceZone}
    (h : key.priceZone ≠ zone) (wasCorrect : Bool) :
    AgreesOn zone cal (cal.recordOutcome key wasCorrect) := by
  have hcz : ∀ category, ((category, zone) : MarketCategory × PriceZone) ≠
      (key.category, key.priceZone) := by
    intro category heq
    exact h (Prod.mk.inj heq).2.symm
  have hkey : ∀ key' : BucketKey, key'.priceZone = zone → key' ≠ key := by
    rintro key' hz rfl
    exact h hz
  refine ⟨?_, fun key' hz => ?_, ?_, ?_⟩
  · unfold ResolutionCalibrator.recordOutcome
    split <;> rfl
  · rw [getBucket_recordOutcome, if_neg (hkey key' hz)]
  · intro category
    unfold ResolutionCalibrator.recordOutcome
    split
    · simp [FallbackIndexes.bumpOutcome, hcz category]
    · exact (mergeInto_ne _ (hcz category) _).symm
  · unfold ResolutionCalibrator.recordOutcome
    split
    · simp [FallbackIndexes.bumpOutcome, h.symm]
    · exact (mergeInto_ne _ h.symm _).symm

end OxideArb
