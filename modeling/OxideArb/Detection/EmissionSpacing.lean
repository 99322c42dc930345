import OxideArb.Detection.EmissionTiming

/-!
# The spacing of a market's emissions

The cooldown of a market is reset when its price leaves the zone, and the cache forgets an entry
after its time to live. Neither shortens a cooldown that is running: the reset stands behind the
cooldown's own gate, and the time to live is the longest cooldown there is. Emissions of one market
are therefore a fixed time apart in every run of scans, whatever resets happen in between.

The runs have one cooldown configuration and a cache below its capacity.
-/

namespace OxideArb

open ControlFactor OpportunityPipeline Transition

namespace EmissionCooldownConfig

variable (config : EmissionCooldownConfig)

/-- `entry_ttl`, in seconds. -/
def entryTtl : Nat :=
  let maxMultSecs := if 0 ≤ ⌈config.maxMultiplier⌉ ∧ ⌈config.maxMultiplier⌉ ≤ u64Max
    then ⌈config.maxMultiplier⌉.toNat else 16
  min (config.baseCooldownSecs * maxMultSecs) u64Max

/-- The shortest time between two emissions, in nanoseconds: the cooldown of the first hit. -/
def gap : Decimal :=
  config.baseCooldownSecs * 1000000000 * EmissionCooldown.effectiveMultiplier 1 config.maxMultiplier

/-- The time to live is computed without saturation. -/
def Fits : Prop :=
  0 ≤ config.maxMultiplier ∧ ⌈config.maxMultiplier⌉ ≤ u64Max ∧
    config.baseCooldownSecs * ⌈config.maxMultiplier⌉.toNat ≤ u64Max

instance : Decidable config.Fits := inferInstanceAs (Decidable (_ ∧ _ ∧ _))

variable {config}

theorem effectiveMultiplier_mono {maxMultiplier : Decimal} {m n : Nat} (h : m ≤ n) :
    EmissionCooldown.effectiveMultiplier m maxMultiplier ≤
      EmissionCooldown.effectiveMultiplier n maxMultiplier :=
  min_le_min_right _ (pow_le_pow_right₀ (by decide) (min_le_min_right _ h))

theorem Fits.gap_le (h : config.Fits) : config.gap ≤ (config.entryTtl : Decimal) * 1000000000 := by
  obtain ⟨hnonneg, hceil, hmul⟩ := h
  have hceil0 : 0 ≤ ⌈config.maxMultiplier⌉ := Int.ceil_nonneg hnonneg
  have httl : config.entryTtl = config.baseCooldownSecs * ⌈config.maxMultiplier⌉.toNat := by
    rw [entryTtl, if_pos ⟨hceil0, hceil⟩, min_eq_left hmul]
  have hmult : EmissionCooldown.effectiveMultiplier 1 config.maxMultiplier ≤
      (⌈config.maxMultiplier⌉.toNat : Decimal) := by
    refine (min_le_right _ _).trans ?_
    rw [← Int.cast_natCast, Int.toNat_of_nonneg hceil0]
    exact Int.le_ceil _
  rw [gap, httl, Nat.cast_mul, mul_right_comm _ _ (1000000000 : Decimal)]
  exact mul_le_mul_of_nonneg_left hmult (by positivity)

end EmissionCooldownConfig

/-! ## What one scan does to the cooldown -/

namespace OpportunityPipeline

variable {p : OpportunityPipeline} {input : MarketScanInput} {now clock : DateTime}

/-- A scan that emits sets the market's entry; any other leaves the cooldown alone or, past its
gate, resets it. -/
inductive CooldownAfter (p : OpportunityPipeline) (input : MarketScanInput) (clock : DateTime) :
    Bool → EmissionCooldown → Prop
  | same : CooldownAfter p input clock false p.cooldown
  | reset (h : p.Admits input clock) :
      CooldownAfter p input clock false (p.cooldown.reset input.marketId)
  | emitted (h : p.Admits input clock) (hits : Nat) :
      CooldownAfter p input clock true
        { p.cooldown with
          entries := Function.update p.cooldown.entries input.marketId (some ⟨clock, hits + 1⟩) }

theorem resetMarket_after (h : p.Admits input clock) (now : DateTime)
    (direction : Option ConvergenceDirection) :
    CooldownAfter p input clock false (p.resetMarket input direction now).cooldown := by
  unfold resetMarket
  split
  · exact .reset h
  · exact .same

/-- The entry is written over the one that a reset may have removed. -/
theorem recordEmission_after (h : p.Admits input clock) (now : DateTime)
    (direction : Option ConvergenceDirection) :
    CooldownAfter p input clock true
      ((p.resetMarket input direction now).cooldown.recordEmission input.marketId clock) := by
  unfold resetMarket
  split <;> simp only [EmissionCooldown.recordEmission, EmissionCooldown.reset,
    Function.update_idem] <;> exact .emitted h _

theorem processRef_cooldown :
    CooldownAfter p input clock (p.processRef input now clock).1.isOk
      (p.processRef input now clock).2.cooldown := by
  by_cases hadmits : p.Admits input clock
  · have hleft := resetMarket_after hadmits now
    have hwritten := recordEmission_after hadmits now
    obtain ⟨hanomaly, hcooldown, hstale⟩ := hadmits
    unfold processRef
    simp only [hanomaly, hcooldown, hstale, Bool.false_eq_true, if_false, Bool.not_true]
    generalize p.detector.detectDirection input.book = direction
    cases direction with
    | none => exact hleft none
    | some direction =>
      dsimp only
      split
      · exact hleft (some direction)
      · exact hwritten (some direction)
  · obtain ⟨reason, hblocked⟩ := processRef_blocked hadmits now
    rw [hblocked]
    exact .same

end OpportunityPipeline

/-! ## Runs of scans -/

structure MarketEmission where
  marketId : MarketId
  clock : DateTime
deriving DecidableEq, Repr

/-- The pipeline with the monotonic clock and the emissions so far, newest first. -/
structure EmissionRun where
  pipeline : OpportunityPipeline
  clock : DateTime
  emissions : List MarketEmission

inductive EmissionEvent
  | scan (input : MarketScanInput) (now clock : DateTime) (snapshot : ControlFactorSnapshot)
  /-- The cache drops the market's entry. -/
  | expire (marketId : MarketId) (clock : DateTime)

namespace EmissionRun

def step (r : EmissionRun) : EmissionEvent → EmissionRun
  | .scan input now clock snapshot =>
    let (outcome, pipeline) := { r.pipeline with snapshot }.processRef input now clock
    { pipeline, clock
      emissions :=
        if outcome.isOk then ⟨input.marketId, clock⟩ :: r.emissions else r.emissions }
  | .expire marketId clock =>
    { r with pipeline.cooldown := r.pipeline.cooldown.reset marketId, clock }

/-- The clock does not run backwards, and an entry expires only after its time to live. -/
def Timely (r : EmissionRun) : EmissionEvent → Prop
  | .scan _ _ clock _ => r.clock ≤ clock
  | .expire marketId clock => r.clock ≤ clock ∧
      ∀ entry ∈ r.pipeline.cooldown.entries marketId,
        entry.emittedAt + Duration.seconds r.pipeline.cooldown.config.entryTtl ≤ clock

instance (r : EmissionRun) : ∀ e, Decidable (r.Timely e)
  | .scan .. => inferInstanceAs (Decidable (_ ≤ _))
  | .expire .. => inferInstanceAs (Decidable (_ ∧ ∀ entry ∈ _, _ ≤ _))

variable {config : EmissionCooldownConfig} {r : EmissionRun}

/-- An emission whose time is not over still has its entry in the cache. -/
structure Inv (config : EmissionCooldownConfig) (r : EmissionRun) : Prop where
  configured : r.pipeline.cooldown.config = config
  held : ∀ e ∈ r.emissions, config.gap ≤ (r.clock - e.clock : Int) ∨
    ∃ hits, r.pipeline.cooldown.entries e.marketId = some ⟨e.clock, hits + 1⟩
  spaced : r.emissions.Pairwise fun later earlier => later.marketId = earlier.marketId →
    config.gap ≤ (later.clock - earlier.clock : Int)

/-- A market past its gate has waited since each of its emissions. -/
theorem Inv.waited (h : Inv config r) {clock : DateTime} (hclock : r.clock ≤ clock)
    {marketId : MarketId} (hmay : r.pipeline.cooldown.mayEmit marketId clock = true)
    {e : MarketEmission} (he : e ∈ r.emissions) (hmarket : e.marketId = marketId) :
    config.gap ≤ (clock - e.clock : Int) := by
  rcases h.held e he with hwaited | ⟨hits, hentry⟩
  · refine hwaited.trans (Int.cast_le.mpr ?_)
    exact Int.sub_le_sub_right hclock e.clock
  · rw [EmissionCooldown.mayEmit, ← hmarket, hentry, h.configured, Option.all_some,
      decide_eq_true_eq] at hmay
    refine le_trans (mul_le_mul_of_nonneg_left ?_ (by positivity)) hmay
    exact EmissionCooldownConfig.effectiveMultiplier_mono (Nat.le_add_left 1 hits)

/-- Time passes and other markets' entries change. -/
theorem Inv.held_later (h : Inv config r) {clock : DateTime} (hclock : r.clock ≤ clock)
    {cooldown : EmissionCooldown} (marketId : MarketId)
    (hothers : ∀ other, other ≠ marketId →
      cooldown.entries other = r.pipeline.cooldown.entries other)
    (hover : ∀ e ∈ r.emissions, e.marketId = marketId → config.gap ≤ (clock - e.clock : Int)) :
    ∀ e ∈ r.emissions, config.gap ≤ (clock - e.clock : Int) ∨
      ∃ hits, cooldown.entries e.marketId = some ⟨e.clock, hits + 1⟩ := by
  intro e he
  by_cases hmarket : e.marketId = marketId
  · exact .inl (hover e he hmarket)
  · rcases h.held e he with hwaited | hentry
    · exact .inl (hwaited.trans (Int.cast_le.mpr (Int.sub_le_sub_right hclock e.clock)))
    · rw [hothers e.marketId hmarket]
      exact .inr hentry

/-- The outcomes of a scan, one by one. -/
theorem Inv.scan (h : Inv config r) {input : MarketScanInput} {clock : DateTime}
    {snapshot : ControlFactorSnapshot} (hclock : r.clock ≤ clock) {emitted : Bool}
    {pipeline : OpportunityPipeline}
    (hafter : CooldownAfter { r.pipeline with snapshot } input clock emitted pipeline.cooldown) :
    Inv config ⟨pipeline, clock,
      if emitted then ⟨input.marketId, clock⟩ :: r.emissions else r.emissions⟩ := by
  generalize hcooldown : pipeline.cooldown = cooldown at hafter
  cases hafter with
  | same =>
    refine ⟨by simpa [hcooldown] using h.configured, ?_, h.spaced⟩
    intro e he
    rcases h.held e he with hwaited | hentry
    · exact .inl (hwaited.trans (Int.cast_le.mpr (Int.sub_le_sub_right hclock e.clock)))
    · exact .inr (by simpa [hcooldown] using hentry)
  | reset hadmits =>
    refine ⟨by simpa [hcooldown, EmissionCooldown.reset] using h.configured, ?_, h.spaced⟩
    refine h.held_later hclock input.marketId ?_ fun e he hmarket =>
      h.waited hclock hadmits.2.1 he hmarket
    intro other hother
    rw [hcooldown]
    exact Function.update_of_ne hother _ _
  | emitted hadmits hits =>
    have hwaited := fun e he hmarket => h.waited (e := e) hclock hadmits.2.1 he hmarket
    refine ⟨by simpa [hcooldown] using h.configured, ?_, ?_⟩
    · intro e he
      rcases List.mem_cons.mp he with rfl | he
      · refine .inr ⟨hits, ?_⟩
        rw [hcooldown]
        exact Function.update_self ..
      · refine h.held_later hclock input.marketId ?_ hwaited e he
        intro other hother
        rw [hcooldown]
        exact Function.update_of_ne hother _ _
    · exact List.pairwise_cons.mpr ⟨fun e he hmarket => hwaited e he hmarket.symm, h.spaced⟩

theorem Inv.expire (hfits : config.Fits) (h : Inv config r) {marketId : MarketId}
    {clock : DateTime} (hok : r.Timely (.expire marketId clock)) :
    Inv config (r.step (.expire marketId clock)) := by
  obtain ⟨hclock, hlived⟩ := hok
  refine ⟨h.configured, ?_, h.spaced⟩
  refine h.held_later hclock marketId (fun other hother =>
    Function.update_of_ne hother _ _) ?_
  intro e he hmarket
  rcases h.held e he with hwaited | ⟨hits, hentry⟩
  · exact hwaited.trans (Int.cast_le.mpr (Int.sub_le_sub_right hclock e.clock))
  · have hover := hlived _ (hmarket ▸ hentry)
    rw [h.configured, Duration.seconds] at hover
    refine hfits.gap_le.trans ?_
    have hlong : (config.entryTtl : Int) * 1000000000 ≤ clock - e.clock := by
      exact Int.le_sub_left_of_add_le hover
    exact_mod_cast (Int.cast_le (R := Decimal)).mpr hlong

theorem step_inv (hfits : config.Fits) (h : Inv config r) {e : EmissionEvent}
    (hok : r.Timely e) : Inv config (r.step e) := by
  cases e with
  | scan input now clock snapshot => exact h.scan hok processRef_cooldown
  | expire marketId clock => exact h.expire hfits hok

end EmissionRun

/-- Two emissions of one market are at least the cooldown of a first hit apart, in every run of
scans from any pipeline, whatever the books, factors and resets in between, as long as the clock
does not run backwards and entries leave the cache only after their time to live. -/
theorem emissions_spaced (pipeline : OpportunityPipeline) (clock : DateTime)
    (events : List EmissionEvent) (hfits : pipeline.cooldown.config.Fits)
    (htimely : Meets (fun r e => some (EmissionRun.step r e)) EmissionRun.Timely
      ⟨pipeline, clock, []⟩ events) :
    (events.foldl EmissionRun.step ⟨pipeline, clock, []⟩).emissions.Pairwise
      fun later earlier => later.marketId = earlier.marketId →
        pipeline.cooldown.config.gap ≤ (later.clock - earlier.clock : Int) := by
  have hstart : EmissionRun.Inv pipeline.cooldown.config ⟨pipeline, clock, []⟩ :=
    ⟨rfl, fun _ h => absurd h List.not_mem_nil, .nil⟩
  exact (foldl_invariant (EmissionRun.Inv pipeline.cooldown.config)
    (fun r e h hok => EmissionRun.step_inv hfits h hok) hstart htimely).spaced

def sampleEmissionScan (offered : Bool) (secs : Int) : EmissionEvent :=
  .scan (sampleScan offered (Duration.hours 12)) (Duration.seconds secs) (Duration.seconds secs)
    (.neutral 0)

def sampleEmissionRun : List EmissionEvent :=
  [sampleEmissionScan true 0, sampleEmissionScan true 600, sampleEmissionScan true 630,
    sampleEmissionScan false 660, sampleEmissionScan true 661]

/-- Emitted at 600 s and, after a reset at 660 s, again at 661 s. -/
theorem emissions_spaced_reset :
    (sampleEmissionRun.foldl EmissionRun.step ⟨samplePipeline, 0, []⟩).emissions.map (·.clock) =
        [Duration.seconds 661, Duration.seconds 600] ∧
      (sampleEmissionRun.foldl EmissionRun.step ⟨samplePipeline, 0, []⟩).emissions.Pairwise
        fun later earlier => later.marketId = earlier.marketId →
          samplePipeline.cooldown.config.gap ≤ (later.clock - earlier.clock : Int) := by
  refine ⟨by decide +kernel, emissions_spaced samplePipeline 0 sampleEmissionRun ?_ ?_⟩
  · decide +kernel
  · decide +kernel

end OxideArb
