import OxideArb.Detection.Pipeline
import OxideArb.Lib.Transition

/-!
# When opportunities are emitted

The settlement window is tested on whole hours, truncated towards zero. The convergence of a
market is timed from the entry of the tracker, which scans that stop before the detector or show
no direction leave where it is (`Fresh`).
-/

open Transition

namespace OxideArb

open ControlFactor (ControlFactorSnapshot)

/-! ## The settlement window -/

namespace Duration

def hours (n : Int) : Duration := n * 3600000000000

theorem numHours_mem_iff {d n : Int} (hn : 0 ≤ n) :
    (0 ≤ numHours d ∧ numHours d ≤ n) ↔ (hours (-1) < d ∧ d < hours (n + 1)) := by
  unfold numHours numSeconds hours
  change _ ↔ ((-1 * 3600000000000 : Int) < d ∧ d < (n + 1) * 3600000000000)
  rcases le_total 0 d with hd | hd
  · have hsecs : (0 : Int) ≤ d / 1000000000 := Int.ediv_nonneg hd (by decide)
    rw [Int.tdiv_eq_ediv_of_nonneg hd, Int.tdiv_eq_ediv_of_nonneg hsecs]
    omega
  · -- a negative duration is the negation of one that truncates downwards
    obtain ⟨e, rfl⟩ : ∃ e : Int, d = -e := ⟨-d, (neg_neg d).symm⟩
    have he : 0 ≤ e := neg_nonpos.mp hd
    have hsecs : (0 : Int) ≤ e / 1000000000 := Int.ediv_nonneg he (by decide)
    rw [Int.neg_tdiv, Int.tdiv_eq_ediv_of_nonneg he, Int.neg_tdiv,
      Int.tdiv_eq_ediv_of_nonneg hsecs]
    omega

end Duration

/-- The deadline is less than an hour before `now`, or less than an hour behind the window. -/
def InTruncatedHour (windowHours : Nat) (now deadline : DateTime) : Prop :=
  (now + Duration.hours (-1) < deadline ∧ deadline < now) ∨
    (now + Duration.hours windowHours < deadline ∧
      deadline < now + Duration.hours (windowHours + 1))

/-- **An emission lies in the settlement window** exactly when its deadline is in neither
of the two truncated hours. -/
theorem emission_in_window_iff {p : OpportunityPipeline} {input : MarketScanInput}
    {now clock : DateTime} {scored : ScoredOpportunity}
    (h : (p.processRef input now clock).1 = .ok scored) :
    ∃ deadline, input.settlementDeadline = some deadline ∧
      ((now ≤ deadline ∧ deadline ≤ now + Duration.hours p.detector.params.settlementWindowHours) ↔
        ¬ InTruncatedHour p.detector.params.settlementWindowHours now deadline) := by
  obtain ⟨-, direction, detected, -, hdetected, -⟩ := OpportunityPipeline.processRef_ok h
  obtain ⟨deadline, walk, hdeadline, hlow, hhigh, -⟩ :=
    EndgameDetector.detectWithDirection_emits hdetected
  refine ⟨deadline, hdeadline, ?_⟩
  obtain ⟨habove, hbelow⟩ := (Duration.numHours_mem_iff (Int.natCast_nonneg _)).mp
    ⟨hlow, hhigh.trans (min_le_left _ _)⟩
  unfold InTruncatedHour
  simp only [Duration.hours] at habove hbelow ⊢
  generalize (p.detector.params.settlementWindowHours : Int) = window at habove hbelow ⊢
  constructor
  · rintro ⟨hnow, hend⟩ (⟨-, hpast⟩ | ⟨hbeyond, -⟩) <;> linarith
  · intro hgap
    rw [not_or, not_and, not_and, not_lt, not_lt] at hgap
    constructor
    · exact hgap.1 (by linarith)
    · by_contra hbeyond
      have := hgap.2 (not_le.mp hbeyond)
      linarith

/-! ## Sample scans -/

def sampleDetectionConfig : DetectionConfig :=
  { minProfitThresholdUsd := 1 / 2
    endgame := { EndgameDetectionConfig.default with maxInvestmentUsd := 50 }
    scorer := { minScore := 1 / 10, maxDepthUsagePct := 50, categoryWeights := fun _ => none }
    fillProbability := .default
    emissionCooldown := { baseCooldownSecs := 30, maxMultiplier := 16 }
    calibration := { CalibrationConfig.default with fusedPFloor := 99 / 100 } }

def samplePipeline : OpportunityPipeline :=
  .new sampleDetectionConfig (.fromEntries [] sampleDetectionConfig.calibration)
    (fun _ _ _ _ => 0) (.neutral 0)

def sampleScan (offered : Bool) (deadline : DateTime) : MarketScanInput :=
  { marketId := ⟨"m"⟩, eventId := ⟨"e"⟩, tokenYes := ⟨"yes"⟩, tokenNo := ⟨"no"⟩
    book :=
      { yes := .new [] (if offered then [⟨960000, 200000000⟩] else []) 0 1
        no := .new [] [] 0 1 }
    category := .politics, staleness := .fresh, settlementDeadline := some deadline }

def sampleSeen (deadline : DateTime) : OpportunityPipeline :=
  (samplePipeline.processRef (sampleScan true deadline) 0 0).2

def sampleEmission (deadline : DateTime) : Except DetectionRejectReason ScoredOpportunity :=
  ((sampleSeen deadline).processRef (sampleScan true deadline) (Duration.seconds 600)
    (Duration.seconds 600)).1

/-- With a window of 24 hours, a market that settled half an hour ago is emitted, and so is
one that settles in 24 and a half hours. -/
theorem emission_outside_window :
    (sampleEmission (Duration.seconds (600 - 1800))).toOption.isSome ∧
      (sampleEmission (Duration.seconds (600 + 24 * 3600 + 1800))).toOption.isSome := by
  decide +kernel

theorem emission_in_window_iff_twelve_hours :
    ∃ deadline, (sampleScan true (Duration.hours 12)).settlementDeadline = some deadline ∧
      ((Duration.seconds 600 ≤ deadline ∧ deadline ≤ Duration.seconds 600 +
          Duration.hours (sampleSeen (Duration.hours 12)).detector.params.settlementWindowHours) ↔
        ¬ InTruncatedHour (sampleSeen (Duration.hours 12)).detector.params.settlementWindowHours
          (Duration.seconds 600) deadline) := by
  have hemits : (sampleEmission (Duration.hours 12)).toOption.isSome = true := by decide +kernel
  cases h : sampleEmission (Duration.hours 12) with
  | error reason =>
    rw [h] at hemits
    cases hemits
  | ok scored => exact emission_in_window_iff h

/-! ## Convergence over runs of scans -/

structure Sighting where
  marketId : MarketId
  now : DateTime
  shown : Option ConvergenceDirection
deriving DecidableEq, Repr

/-- The pipeline with the sightings of the past, newest first. -/
structure Watch where
  pipeline : OpportunityPipeline
  past : List Sighting

/-- A scan under the factors published at the time, or a cache losing entries. -/
inductive WatchEvent
  | scan (input : MarketScanInput) (now clock : DateTime) (snapshot : ControlFactorSnapshot)
  | expire (marketId : MarketId)
  | cooldownChanges (cooldown : EmissionCooldown)

namespace Watch

def sighting (w : Watch) (input : MarketScanInput) (now : DateTime) : Sighting :=
  ⟨input.marketId, now, w.pipeline.detector.detectDirection input.book⟩

def scan (w : Watch) (input : MarketScanInput) (now clock : DateTime)
    (snapshot : ControlFactorSnapshot) :
    Except DetectionRejectReason ScoredOpportunity × OpportunityPipeline :=
  { w.pipeline with snapshot }.processRef input now clock

def next (w : Watch) : WatchEvent → Watch
  | .scan input now clock snapshot =>
    { pipeline := (w.scan input now clock snapshot).2, past := w.sighting input now :: w.past }
  | .expire marketId =>
    { w with
      pipeline.detector.convergence := w.pipeline.detector.convergence.remove marketId }
  | .cooldownChanges cooldown => { w with pipeline.cooldown := cooldown }

end Watch

/-- The time of the last sighting that broke a convergence in the given direction. -/
def lastBreak (past : List Sighting) (marketId : MarketId) (direction : ConvergenceDirection) :
    Option DateTime :=
  (past.find? fun s => s.marketId = marketId ∧ s.shown ≠ some direction).map (·.now)

/-- No entry of the tracker is older than the last break of its direction. -/
def Watch.Fresh (w : Watch) : Prop :=
  ∀ marketId entry, w.pipeline.detector.convergence.entries marketId = some entry →
    ∀ u ∈ lastBreak w.past marketId entry.direction, u ≤ entry.firstSeen

/-- A break reaches the tracker: a scan without a direction finds no entry, one in the
opposite direction of the entry passes the gates and has a deadline. Time does not run
backwards. -/
def Watch.BreaksSeen (w : Watch) : WatchEvent → Prop
  | .scan input now clock snapshot =>
    (∀ s ∈ w.past, s.now ≤ now) ∧
      ∀ entry, w.pipeline.detector.convergence.entries input.marketId = some entry →
        w.pipeline.detector.detectDirection input.book ≠ some entry.direction →
          (w.pipeline.detector.detectDirection input.book).isSome ∧
            { w.pipeline with snapshot }.Admits input clock ∧ input.settlementDeadline.isSome
  | _ => True

/-! ### The tracker -/

theorem EndgameDetector.detectWithDirection_convergence (det : EndgameDetector)
    (input : EndgameDetectInput) (now : DateTime) :
    (input.settlementDeadline = none ∧
        (det.detectWithDirection input now).2 = det.convergence) ∨
      (det.detectWithDirection input now).2 = det.convergence.remove input.marketId ∨
      (det.detectWithDirection input now).2 =
        (det.convergence.updateAndGet input.marketId input.direction now).2 := by
  unfold detectWithDirection
  split
  · rename_i hnone
    exact .inl ⟨hnone, rfl⟩
  · right
    dsimp only
    split
    · exact .inl rfl
    · right
      split
      · rfl
      · split
        · rfl
        · split <;> rfl

namespace ConvergenceTracker

theorem updateAndGet_entries_ne (tracker : ConvergenceTracker) {marketId other : MarketId}
    (h : other ≠ marketId) (direction : ConvergenceDirection) (now : DateTime) :
    (tracker.updateAndGet marketId direction now).2.entries other = tracker.entries other := by
  unfold updateAndGet
  dsimp only
  split
  · split
    · rfl
    · exact Function.update_of_ne h _ _
  · exact Function.update_of_ne h _ _

theorem updateAndGet_entry {tracker : ConvergenceTracker} {marketId : MarketId}
    {direction : ConvergenceDirection} {now : DateTime} {entry : ConvergenceEntry}
    (h : (tracker.updateAndGet marketId direction now).2.entries marketId = some entry) :
    entry.direction = direction ∧
      (tracker.entries marketId = some entry ∨ entry.firstSeen = now) := by
  unfold updateAndGet at h
  cases hold : tracker.entries marketId with
  | none =>
    simp only [hold, Function.update_self, Option.some.injEq] at h
    subst h
    exact ⟨rfl, .inr rfl⟩
  | some existing =>
    simp only [hold] at h
    split at h
    · rename_i hsame
      rw [hold, Option.some.injEq] at h
      subst h
      exact ⟨hsame, .inl rfl⟩
    · simp only [Function.update_self, Option.some.injEq] at h
      subst h
      exact ⟨rfl, .inr rfl⟩

theorem updateAndGet_secs (tracker : ConvergenceTracker) (marketId : MarketId)
    (direction : ConvergenceDirection) (now : DateTime) :
    (∃ entry, tracker.entries marketId = some entry ∧ entry.direction = direction ∧
        (tracker.updateAndGet marketId direction now).1 =
          (max (Duration.numSeconds (now - entry.firstSeen)) 0).toNat) ∨
      ((∀ entry, tracker.entries marketId = some entry → entry.direction ≠ direction) ∧
        (tracker.updateAndGet marketId direction now).1 = 0) := by
  unfold updateAndGet
  cases hold : tracker.entries marketId with
  | none => exact .inr ⟨fun _ h => absurd h nofun, rfl⟩
  | some existing =>
    by_cases hsame : existing.direction = direction
    · exact .inl ⟨existing, rfl, hsame, by simp [hsame]⟩
    · refine .inr ⟨?_, by simp [hsame]⟩
      rintro entry ⟨⟩
      exact hsame

end ConvergenceTracker

/-! ### Entries and breaks -/

variable {past : List Sighting} {marketId : MarketId} {direction : ConvergenceDirection}

theorem lastBreak_cons_same {s : Sighting} (h : s.marketId = marketId → s.shown = some direction) :
    lastBreak (s :: past) marketId direction = lastBreak past marketId direction := by
  unfold lastBreak
  rw [List.find?_cons_of_neg]
  simpa using h

theorem lastBreak_le {now : DateTime} (h : ∀ s ∈ past, s.now ≤ now) {u : DateTime}
    (hu : u ∈ lastBreak past marketId direction) : u ≤ now := by
  obtain ⟨s, hs, rfl⟩ := Option.mem_map.mp hu
  exact h s (List.mem_of_find?_eq_some hs)

namespace Watch

theorem scan_convergence (w : Watch) (input : MarketScanInput) (now clock : DateTime)
    (snapshot : ControlFactorSnapshot) :
    ((w.scan input now clock snapshot).2.detector.convergence = w.pipeline.detector.convergence ∧
        (¬ { w.pipeline with snapshot }.Admits input clock ∨
          w.pipeline.detector.detectDirection input.book = none)) ∨
      ∃ direction, w.pipeline.detector.detectDirection input.book = some direction ∧
        (w.scan input now clock snapshot).2.detector.convergence =
          (w.pipeline.detector.detectWithDirection (input.detectInput direction) now).2 := by
  unfold scan
  by_cases hadmits : { w.pipeline with snapshot }.Admits input clock
  · have hdetector := (OpportunityPipeline.processRef_admitted hadmits now).2
    rw [hdetector]
    cases hdirection : w.pipeline.detector.detectDirection input.book with
    | none => exact .inl ⟨rfl, .inr rfl⟩
    | some direction => exact .inr ⟨direction, rfl, rfl⟩
  · obtain ⟨reason, hblocked⟩ := OpportunityPipeline.processRef_blocked hadmits now
    rw [hblocked]
    exact .inl ⟨rfl, .inl hadmits⟩

theorem scan_entries_ne (w : Watch) (input : MarketScanInput) (now clock : DateTime)
    (snapshot : ControlFactorSnapshot) {other : MarketId} (h : other ≠ input.marketId) :
    (w.scan input now clock snapshot).2.detector.convergence.entries other =
      w.pipeline.detector.convergence.entries other := by
  rcases w.scan_convergence input now clock snapshot with ⟨hsame, -⟩ | ⟨direction, -, hdetect⟩
  · rw [hsame]
  · rw [hdetect]
    rcases w.pipeline.detector.detectWithDirection_convergence (input.detectInput direction) now
      with ⟨-, heq⟩ | heq | heq <;> rw [heq]
    · exact Function.update_of_ne h _ _
    · exact ConvergenceTracker.updateAndGet_entries_ne _ h _ _

theorem scan_entry {w : Watch} {input : MarketScanInput} {now clock : DateTime}
    {snapshot : ControlFactorSnapshot} {entry : ConvergenceEntry}
    (h : (w.scan input now clock snapshot).2.detector.convergence.entries input.marketId =
      some entry) :
    (w.pipeline.detector.detectDirection input.book = some entry.direction ∧
        entry.firstSeen = now) ∨
      (w.pipeline.detector.convergence.entries input.marketId = some entry ∧
        (w.pipeline.detector.detectDirection input.book = some entry.direction ∨
          w.pipeline.detector.detectDirection input.book = none ∨
          ¬ { w.pipeline with snapshot }.Admits input clock ∨
          input.settlementDeadline = none)) := by
  rcases w.scan_convergence input now clock snapshot with
    ⟨hsame, hwhy⟩ | ⟨direction, hdirection, hdetect⟩
  · rw [hsame] at h
    rcases hwhy with hblocked | hnone
    · exact .inr ⟨h, .inr (.inr (.inl hblocked))⟩
    · exact .inr ⟨h, .inr (.inl hnone)⟩
  · rw [hdetect] at h
    rcases w.pipeline.detector.detectWithDirection_convergence (input.detectInput direction) now
      with ⟨hnone, heq⟩ | heq | heq
    · rw [heq] at h
      exact .inr ⟨h, .inr (.inr (.inr hnone))⟩
    · rw [heq] at h
      simp [ConvergenceTracker.remove, MarketScanInput.detectInput] at h
    · rw [heq] at h
      obtain ⟨hdir, hold | hnew⟩ := ConvergenceTracker.updateAndGet_entry h
      · exact .inr ⟨hold, .inl (hdirection.trans (congrArg some hdir.symm))⟩
      · exact .inl ⟨hdirection.trans (congrArg some hdir.symm), hnew⟩

theorem Fresh.next {w : Watch} (h : w.Fresh) {event : WatchEvent} (hok : w.BreaksSeen event) :
    (w.next event).Fresh := by
  cases event with
  | cooldownChanges cooldown => exact h
  | expire marketId =>
    intro m entry hentry
    by_cases hm : m = marketId
    · subst hm
      simp [Watch.next, ConvergenceTracker.remove] at hentry
    · refine h m entry ?_
      simpa [Watch.next, ConvergenceTracker.remove, hm] using hentry
  | scan input now clock snapshot =>
    obtain ⟨htime, hbreak⟩ := hok
    intro m entry hentry u hu
    by_cases hm : m = input.marketId
    · subst hm
      -- in every case that is left the scan showed the direction of the entry
      have hshown : w.pipeline.detector.detectDirection input.book = some entry.direction := by
        rcases scan_entry hentry with ⟨hshown, -⟩ | ⟨hold, hwhy⟩
        · exact hshown
        · by_contra hne
          obtain ⟨hsome, hadmits, hdeadline⟩ := hbreak entry hold hne
          rcases hwhy with hsame | hnone | hblocked | hnone
          · exact hne hsame
          · rw [hnone] at hsome
            cases hsome
          · exact hblocked hadmits
          · rw [hnone] at hdeadline
            cases hdeadline
      have hlast : u ∈ lastBreak w.past input.marketId entry.direction := by
        rwa [Watch.next, lastBreak_cons_same (fun _ => hshown)] at hu
      rcases scan_entry hentry with ⟨-, hnew⟩ | ⟨hold, -⟩
      · rw [hnew]
        exact lastBreak_le htime hlast
      · exact h _ entry hold u hlast
    · have hold : w.pipeline.detector.convergence.entries m = some entry :=
        (w.scan_entries_ne input now clock snapshot hm).symm.trans hentry
      have hlast : u ∈ lastBreak w.past m entry.direction := by
        rwa [Watch.next, lastBreak_cons_same (fun heq => absurd heq.symm hm)] at hu
      exact h m entry hold u hlast

end Watch

/-! ### Durations -/

theorem emission_secs {p : OpportunityPipeline} {input : MarketScanInput} {now clock : DateTime}
    {scored : ScoredOpportunity} (h : (p.processRef input now clock).1 = .ok scored) :
    ∃ direction, p.detector.detectDirection input.book = some direction ∧
      scored.opportunity.info.convergenceDurationSecs =
        (p.detector.convergence.updateAndGet input.marketId direction now).1 := by
  obtain ⟨-, direction, detected, hdirection, hdetected, hemit⟩ :=
    OpportunityPipeline.processRef_ok h
  obtain ⟨trace, hbucket, -⟩ := OpportunityPipeline.emit_ok hemit
  obtain ⟨deadline, walk, -, -, -, -, -, -, rfl⟩ :=
    EndgameDetector.detectWithDirection_emits hdetected
  refine ⟨direction, hdirection, ?_⟩
  rw [applyBucketRisk_ok hbucket]
  rfl

theorem seconds_since_le_iff {f now u : Int} (h : u ≤ now) :
    Duration.seconds ((max (Duration.numSeconds (now - f)) 0).toNat : Int) ≤ now - u ↔
      u ≤ f + (now - f) % 1000000000 := by
  unfold Duration.seconds Duration.numSeconds
  change (((max ((now - f).tdiv 1000000000) 0).toNat : Int)) * 1000000000 ≤ now - u ↔ _
  rw [Int.toNat_of_nonneg (le_max_right _ _)]
  rcases le_total f now with hf | hf
  · rw [Int.tdiv_eq_ediv_of_nonneg (by omega), max_eq_left (Int.ediv_nonneg (by omega) (by decide))]
    omega
  · have hneg : (now - f).tdiv 1000000000 ≤ 0 := by
      rw [← neg_sub, Int.neg_tdiv, Int.tdiv_eq_ediv_of_nonneg (by omega)]
      omega
    rw [max_eq_right hneg]
    omega

/-- The tracker holds no entry of the direction that is older than the break, but for the
fraction of a second that whole seconds drop. -/
def NoOlderEntry (p : OpportunityPipeline) (marketId : MarketId) (direction : ConvergenceDirection)
    (now u : DateTime) : Prop :=
  ∀ entry, p.detector.convergence.entries marketId = some entry → entry.direction = direction →
    u ≤ entry.firstSeen + (now - entry.firstSeen) % 1000000000

/-- **The duration an emission carries** fits into the time since the last break exactly
when no older entry is left in the tracker, and always does in a run whose breaks all
reach the tracker. -/
theorem emission_since_break {w₀ : Watch} (h₀ : w₀.past = []) (events : List WatchEvent)
    {input : MarketScanInput} {now clock : DateTime} {snapshot : ControlFactorSnapshot}
    {scored : ScoredOpportunity}
    (hemit : ((events.foldl Watch.next w₀).scan input now clock snapshot).1 = .ok scored)
    (htime : ∀ s ∈ (events.foldl Watch.next w₀).past, s.now ≤ now) :
    ∃ direction,
      (events.foldl Watch.next w₀).pipeline.detector.detectDirection input.book =
        some direction ∧
      ∀ u ∈ lastBreak (events.foldl Watch.next w₀).past input.marketId direction,
        (Duration.seconds scored.opportunity.info.convergenceDurationSecs ≤ now - u ↔
          NoOlderEntry (events.foldl Watch.next w₀).pipeline input.marketId direction now u) ∧
        (Meets (fun w event => some (w.next event)) Watch.BreaksSeen w₀ events →
          Duration.seconds scored.opportunity.info.convergenceDurationSecs ≤ now - u) := by
  obtain ⟨direction, hdirection, hsecs⟩ := emission_secs hemit
  refine ⟨direction, hdirection, fun u hu => ?_⟩
  have hun : u ≤ now := lastBreak_le htime hu
  have hiff : Duration.seconds scored.opportunity.info.convergenceDurationSecs ≤ now - u ↔
      NoOlderEntry (events.foldl Watch.next w₀).pipeline input.marketId direction now u := by
    rw [hsecs]
    rcases ConvergenceTracker.updateAndGet_secs
        (events.foldl Watch.next w₀).pipeline.detector.convergence input.marketId direction now
      with ⟨entry, hentry, hsame, heq⟩ | ⟨hnone, heq⟩
    · refine Iff.trans (Iff.trans (by rw [← heq]) (seconds_since_le_iff hun)) ?_
      constructor
      · rintro hle other hother -
        rw [hentry, Option.some.injEq] at hother
        rwa [← hother]
      · exact fun hall => hall entry hentry hsame
    · refine iff_of_true ?_ fun entry hentry hsame => absurd hsame (hnone entry hentry)
      have hzero : (0 : Int) ≤ now - u := sub_nonneg.mpr hun
      refine le_trans (le_of_eq ?_) hzero
      change Duration.seconds
        (((events.foldl Watch.next w₀).pipeline.detector.convergence.updateAndGet input.marketId
          direction now).1 : Int) = 0
      rw [heq]
      rfl
  refine ⟨hiff, fun hmeets => hiff.mpr fun entry hentry hsame => ?_⟩
  have hfresh : (events.foldl Watch.next w₀).Fresh := by
    refine foldl_invariant Watch.Fresh (fun w event h hok => h.next hok) ?_ hmeets
    intro m entry _ u hu
    rw [h₀] at hu
    cases hu
  have hle := hfresh input.marketId entry hentry u (hsame ▸ hu)
  have hmod : (0 : Int) ≤ (now - entry.firstSeen) % 1000000000 := Int.emod_nonneg _ (by decide)
  linarith

def sampleWatchScan (offered : Bool) (secs : Int) : WatchEvent :=
  .scan (sampleScan offered (Duration.hours 12)) (Duration.seconds secs) (Duration.seconds secs)
    (.neutral 0)

def sampleWatch (events : List (Bool × Int)) : Watch :=
  (events.map fun e => sampleWatchScan e.1 e.2).foldl Watch.next ⟨samplePipeline, []⟩

def sampleWatchEmission (events : List (Bool × Int)) :
    Except DetectionRejectReason ScoredOpportunity :=
  ((sampleWatch events).scan (sampleScan true (Duration.hours 12)) (Duration.seconds 600)
    (Duration.seconds 600) (.neutral 0)).1

/-- In the zone at 0 s and out of it at 200 s, a market is emitted at 600 s with a
convergence of 600 s, not 400 s. -/
theorem emission_counts_over_break :
    (sampleWatchEmission [(true, 0), (false, 200)]).toOption.map
        (·.opportunity.info.convergenceDurationSecs) = some 600 ∧
      lastBreak (sampleWatch [(true, 0), (false, 200)]).past ⟨"m"⟩ .yesLikely =
        some (Duration.seconds 200) := by
  decide +kernel

theorem emission_since_break_in_zone :
    ∃ scored, sampleWatchEmission [(false, 0), (true, 200)] = .ok scored ∧
      ∃ direction, ∀ u ∈ lastBreak (sampleWatch [(false, 0), (true, 200)]).past ⟨"m"⟩ direction,
        (Duration.seconds scored.opportunity.info.convergenceDurationSecs ≤
            Duration.seconds 600 - u ↔
          NoOlderEntry (sampleWatch [(false, 0), (true, 200)]).pipeline ⟨"m"⟩ direction
            (Duration.seconds 600) u) := by
  have hemits : (sampleWatchEmission [(false, 0), (true, 200)]).toOption.isSome = true := by
    decide +kernel
  cases h : sampleWatchEmission [(false, 0), (true, 200)] with
  | error reason =>
    rw [h] at hemits
    cases hemits
  | ok scored =>
    obtain ⟨direction, -, hall⟩ := @emission_since_break ⟨samplePipeline, []⟩ rfl
      [sampleWatchScan false 0, sampleWatchScan true 200] _ _ _ _ _ h (by decide +kernel)
    exact ⟨scored, rfl, direction, fun u hu => (hall u hu).1⟩

end OxideArb
