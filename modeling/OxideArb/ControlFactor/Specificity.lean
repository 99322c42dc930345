import OxideArb.ControlFactor.Restrictions
import OxideArb.ControlFactor.TradingPath
import OxideArb.Lib.Checked

/-!
# Which bucket-risk factor is applied

A factor may leave dimensions open, and the lookup relaxes its key dimension by dimension. The
detection pipeline asks with a key that has none of the optional dimensions, so only the factors
that leave all of them open are ever found.
-/

namespace OxideArb

open ControlFactor Risk

/-! ## Matching -/

namespace ControlFactor

structure Unclassified where
  hoursToSettlementBucket : TimeToSettlementBucket
  negRisk : Bool
  feeProfile : FeeProfileBucket
  latencyBucket : LatencyBucket

def OptionMatches {α : Type} (dim : Option α) (value : α) : Prop := ∀ v ∈ dim, v = value

def BucketRiskDimensions.Matches (dims : BucketRiskDimensions) (here : Situation)
    (rest : Unclassified) : Prop :=
  dims.category = here.category ∧ dims.priceZone = here.priceZone ∧
    dims.durationBucket = here.durationBucket ∧
    OptionMatches dims.hoursToSettlementBucket rest.hoursToSettlementBucket ∧
    OptionMatches dims.negRisk rest.negRisk ∧ OptionMatches dims.feeProfile rest.feeProfile

end ControlFactor

structure Opportunity.In (opp : Opportunity) (here : Situation) : Prop where
  market : opp.marketId = here.marketId
  event : opp.eventId = here.eventId
  category : opp.category = here.category
  priceZone : opp.info.priceZone = here.priceZone
  durationBucket : opp.info.durationBucket = here.durationBucket
  staleness : opp.staleness = here.stalenessLevel

end OxideArb

namespace OxideArb.ControlFactor

open Checked

/-- How many of the optional dimensions are set. -/
def BucketRiskDimensions.specified (dims : BucketRiskDimensions) : Nat :=
  dims.hoursToSettlementBucket.toList.length + dims.negRisk.toList.length +
    dims.feeProfile.toList.length

/-- A living bucket-risk factor with these dimensions, and they match. -/
def ControlFactorValue.Describes (f : ControlFactorValue) (now : DateTime) (here : Situation)
    (rest : Unclassified) (dims : BucketRiskDimensions) : Prop :=
  now < f.expiresAt ∧ f.dimensions = .bucketRisk dims ∧ dims.Matches here rest

/-- The factor that was found matches, and no matching factor sets more dimensions. -/
def MostSpecific (factors : List ControlFactorValue) (now : DateTime) (here : Situation)
    (rest : Unclassified) (found : IndexedFactor BucketRiskPayload) : Prop :=
  ∃ f ∈ factors, ∃ dims, f.Describes now here rest dims ∧ f.factorId = found.factorId ∧
    ∀ g ∈ factors, ∀ d, g.Describes now here rest d → d.specified ≤ dims.specified

variable {here : Situation} {rest : Unclassified} {dims : BucketRiskDimensions} {now : DateTime}
  {f : ControlFactorValue} {factors : List ControlFactorValue} {failClosed : Bool}
  {s s' : ControlFactorSnapshot} {publication : ControlFactorPublication}
  {found : IndexedFactor BucketRiskPayload} {opp : Opportunity}

theorem Situation.matches_bucketKey (here : Situation) (rest : Unclassified) :
    here.bucketKey.Matches here rest := ⟨rfl, rfl, rfl, nofun, nofun, nofun⟩

theorem BucketRiskDimensions.Matches.eq_bucketKey (h : dims.Matches here rest)
    (h0 : dims.specified = 0) : dims = here.bucketKey := by
  obtain ⟨h₁, h₂, h₃, -, -, -⟩ := h
  cases dims
  simp only [specified, Nat.add_eq_zero_iff, List.length_eq_zero_iff, Option.toList_eq_nil_iff]
    at h0 h₁ h₂ h₃
  simp [Situation.bucketKey, coarse, h₁, h₂, h₃, h0]

namespace ControlFactorSnapshot

theorem route_entries (h : s.route f = .ok s') (d : BucketRiskDimensions) :
    (f.dimensions = .bucketRisk d ∧
        ∃ p, s'.bucketRisk.entries d = some ⟨f.factorId, p⟩) ∨
      (f.dimensions ≠ .bucketRisk d ∧ s'.bucketRisk.entries d = s.bucketRisk.entries d) := by
  unfold route at h
  cases hd : f.dimensions <;> cases hp : f.payload <;> rw [hd, hp] at h <;> cases h <;> try simp
  next dims p =>
    by_cases hk : dims = d
    · simp [hk, BucketRiskIndex.insert]
    · simp [hk, BucketRiskIndex.insert, Function.update_of_ne (Ne.symm hk)]

/-- Each entry is a living factor's, and the key of each living factor has an entry. -/
theorem foldlM_entries (h : factors.foldlM (compileFactor now failClosed) s = .ok s')
    (d : BucketRiskDimensions) :
    (∀ found, s'.bucketRisk.entries d = some found → s.bucketRisk.entries d = some found ∨
      ∃ f ∈ factors, now < f.expiresAt ∧ f.dimensions = .bucketRisk d ∧
        f.factorId = found.factorId) ∧
    ((s.bucketRisk.entries d).isSome ∨
        (∃ f ∈ factors, now < f.expiresAt ∧ f.dimensions = .bucketRisk d) →
      (s'.bucketRisk.entries d).isSome) := by
  induction factors generalizing s with
  | nil =>
    cases h
    simp
  | cons f factors ih =>
    rw [List.foldlM_cons] at h
    obtain ⟨s₁, h₁, h⟩ := bind_eq_ok.mp h
    obtain ⟨hfrom, hinto⟩ := ih h
    simp only [List.exists_mem_cons_iff]
    obtain ⟨hexp, rfl⟩ | ⟨hlive, hroute⟩ := compileFactor_ok h₁
    · have hnot : ¬ now < f.expiresAt := not_lt.mpr hexp
      simpa [hnot] using And.intro hfrom hinto
    · obtain ⟨hd, p, he⟩ | ⟨hd, he⟩ := route_entries hroute d
      · refine ⟨fun found hf => ?_, fun _ => hinto (.inl (by simp [he]))⟩
        rcases hfrom found hf with hs | hr
        · rw [he] at hs
          cases hs
          exact .inr (.inl ⟨hlive, hd, rfl⟩)
        · exact .inr (.inr hr)
      · simpa [hd, he] using And.intro hfrom hinto

end ControlFactorSnapshot

theorem bucketFactor_eq_entries (hin : opp.In here) :
    bucketFactor s opp = s.bucketRisk.entries here.bucketKey := by
  unfold bucketFactor
  rw [hin.category, hin.priceZone, hin.durationBucket]
  exact BucketRiskIndex.lookup_coarse _ _ _ _

/-- The lookup of the pipeline finds a most specific one of the matching factors exactly when
none of them sets an optional dimension. -/
theorem bucketFactor_mostSpecific_iff
    (hc : ControlFactorSnapshot.compile publication factors now failClosed = .ok s)
    (hids : (factors.map (·.factorId)).Nodup) (hin : opp.In here)
    (hm : ∃ f ∈ factors, ∃ d, f.Describes now here rest d) :
    (∃ found, bucketFactor s opp = some found ∧ MostSpecific factors now here rest found) ↔
      ∀ f ∈ factors, ∀ d, f.Describes now here rest d → d.specified = 0 := by
  obtain ⟨hfrom, hinto⟩ := ControlFactorSnapshot.foldlM_entries hc here.bucketKey
  have hempty : ∀ found, s.bucketRisk.entries here.bucketKey = some found →
      ∃ f ∈ factors, f.Describes now here rest here.bucketKey ∧ f.factorId = found.factorId := by
    intro found hfound
    obtain ⟨f, hf, hlive, hd, hid⟩ := (hfrom found hfound).resolve_left nofun
    exact ⟨f, hf, ⟨hlive, hd, here.matches_bucketKey rest⟩, hid⟩
  rw [bucketFactor_eq_entries hin]
  constructor
  · rintro ⟨found, hfound, f, hf, dims, hdesc, hid, hmax⟩ g hg d hgd
    -- the factor that was found is the one with the key of the lookup
    obtain ⟨f', hf', hdesc', hid'⟩ := hempty found hfound
    have hff : f = f' := List.inj_on_of_nodup_map hids hf hf' (hid.trans hid'.symm)
    subst hff
    have hkey : dims = here.bucketKey :=
      FactorDimensions.bucketRisk.inj (hdesc.2.1.symm.trans hdesc'.2.1)
    have hle := hmax g hg d hgd
    rw [hkey] at hle
    exact Nat.le_zero.mp hle
  · intro hall
    obtain ⟨f, hf, d, hd⟩ := hm
    have hkey := hd.2.2.eq_bucketKey (hall f hf d hd)
    obtain ⟨found, hfound⟩ := Option.isSome_iff_exists.mp
      (hinto (.inr ⟨f, hf, hd.1, hkey ▸ hd.2.1⟩))
    obtain ⟨g, hg, hdesc, hid⟩ := hempty found hfound
    refine ⟨found, hfound, g, hg, _, hdesc, hid, fun g' hg' d' hd' => ?_⟩
    rw [hall g' hg' d' hd']
    exact Nat.zero_le _

/-! ### A factor for one fee profile -/

def feeDims (fee : Option FeeProfileBucket) : BucketRiskDimensions :=
  { BucketRiskDimensions.coarse .politics (PriceZone.fromPrice (96 / 100))
      (DurationBucket.fromSecs 600) with feeProfile := fee }

def feeFactor (fee : Option FeeProfileBucket) : ControlFactorValue :=
  sampleFactor "f" (.bucketRisk (feeDims fee)) (.bucketRisk ⟨9 / 10, 1, 0, true⟩)

def standardFee : Unclassified := ⟨.sixToTwentyFourHours, false, .standard, .unknown⟩

def Opportunity.situation (opp : Opportunity) : Situation :=
  { sampleSituation with
    marketId := opp.marketId, eventId := opp.eventId, category := opp.category
    priceZone := opp.info.priceZone, durationBucket := opp.info.durationBucket
    stalenessLevel := opp.staleness }

/-- The sample opportunity and the snapshot of the factor, when the factor's bucket is the
opportunity's and it is or is not found. -/
def feeRun (fee : Option FeeProfileBucket) (isFound : Bool) :
    Option (Opportunity × ControlFactorSnapshot) := do
  let opp ← sampleDetected.toOption
  let s ← (ControlFactorSnapshot.compile samplePublication [feeFactor fee] 10 true).toOption
  if (feeDims fee).category = opp.category ∧ (feeDims fee).priceZone = opp.info.priceZone ∧
      (feeDims fee).durationBucket = opp.info.durationBucket ∧
      (bucketFactor s opp).isSome = isFound then
    some (opp, s)
  else none

theorem feeRun_describes {fee : Option FeeProfileBucket} {isFound : Bool}
    (h : (feeRun fee isFound).isSome = true) (hfee : OptionMatches fee .standard) :
    ∃ opp s, sampleDetected = .ok opp ∧
      ControlFactorSnapshot.compile samplePublication [feeFactor fee] 10 true = .ok s ∧
      (feeFactor fee).Describes 10 (Opportunity.situation opp) standardFee (feeDims fee) ∧
      (bucketFactor s opp).isSome = isFound := by
  obtain ⟨x, h⟩ := Option.isSome_iff_exists.mp h
  obtain ⟨opp, hopp, h⟩ := Option.bind_eq_some_iff.mp h
  obtain ⟨s, hs, h⟩ := Option.bind_eq_some_iff.mp h
  split at h
  next hdims =>
    obtain ⟨h₁, h₂, h₃, hfound⟩ := hdims
    exact ⟨opp, s, toOption_eq_some.mp hopp, toOption_eq_some.mp hs,
      ⟨(by decide : (10 : Int) < 100), rfl, h₁, h₂, h₃, nofun, nofun, hfee⟩, hfound⟩
  next => cases h

/-- A factor for the standard fee profile blocks its bucket, and is not found for an opportunity
of that bucket and profile. -/
theorem fee_factor_not_found :
    ∃ opp s, sampleDetected = .ok opp ∧ ControlFactorSnapshot.compile samplePublication
        [feeFactor (some .standard)] 10 true = .ok s ∧
      (feeFactor (some .standard)).Describes 10 (Opportunity.situation opp) standardFee
        (feeDims (some .standard)) ∧
      (bucketFactor s opp).isSome = false :=
  feeRun_describes (by decide +kernel) (by rintro _ ⟨⟩; rfl)

theorem bucketFactor_mostSpecific_coarse :
    ∃ opp s, ControlFactorSnapshot.compile samplePublication [feeFactor none] 10 true = .ok s ∧
      ((∃ found, bucketFactor s opp = some found ∧
          MostSpecific [feeFactor none] 10 (Opportunity.situation opp) standardFee found) ↔
        ∀ f ∈ [feeFactor none], ∀ d,
          f.Describes 10 (Opportunity.situation opp) standardFee d → d.specified = 0) := by
  obtain ⟨opp, s, -, hs, hd, -⟩ := @feeRun_describes none true (by decide +kernel) nofun
  exact ⟨opp, s, hs, bucketFactor_mostSpecific_iff hs (by decide) ⟨rfl, rfl, rfl, rfl, rfl, rfl⟩
    ⟨_, List.mem_singleton_self _, _, hd⟩⟩

end OxideArb.ControlFactor
