import Mathlib.Algebra.Order.BigOperators.Group.List
import OxideArb.Detection.Walker

/-!
# What the walk takes

`fills` lists the levels the walk takes from. Costs are truncated at every level and the
remainder is carried forward: at the first level that is not taken in full at most one
micro-dollar of the budget is left.
-/

namespace OxideArb

namespace WalkState

def fill (s : WalkState) (level : BookLevel) : MicroShares :=
  min (MicroPrice.affordableShares level.price s.remainingBudget) level.size

/-- The levels the loop takes from, each with its shares. -/
def fills (priceFloor : MicroPrice) : List BookLevel → WalkState → List (BookLevel × MicroShares)
  | [], _ => []
  | level :: rest, s =>
    if level.price ≤ 0 ∨ level.size ≤ 0 then fills priceFloor rest s
    else if level.price < priceFloor then []
    else if s.remainingBudget ≤ 0 then []
    else (level, s.fill level) :: fills priceFloor rest (s.take level)

end WalkState

/-- Every level in full. -/
def wholeLevels (levels : List BookLevel) : List (BookLevel × MicroShares) :=
  (levels.filter fun level => 0 < level.size).map fun level => (level, level.size)

/-! ## Truncation -/

theorem Micro.saturate_of_le {v : Int} (h : v ≤ i64Max) : saturate v = v := if_pos h

namespace MicroPrice

variable {price shares budget cost : Int}

theorem mulShares_bounds (hp : 0 ≤ price) (hone : price ≤ MICRO_SCALE) (hs : 0 ≤ shares)
    (hmax : shares ≤ i64Max) :
    mulShares price shares * MICRO_SCALE ≤ price * shares ∧
      price * shares < (mulShares price shares + 1) * MICRO_SCALE := by
  have hnonneg : 0 ≤ price * shares := mul_nonneg hp hs
  have hle : price * shares / MICRO_SCALE ≤ shares := by
    refine Int.ediv_le_of_le_mul (by decide) ?_
    rw [mul_comm]
    exact mul_le_mul_of_nonneg_left hone hs
  unfold mulShares
  rw [Int.tdiv_eq_ediv_of_nonneg hnonneg, Micro.saturate_of_le (hle.trans hmax)]
  exact ⟨Int.ediv_mul_le _ (by decide), Int.lt_ediv_add_one_mul_self _ (by decide)⟩

/-- Where the budget does not buy the whole level, less than one share unit more would pass it. -/
theorem affordableShares_lt (hp : 0 < price) (hb : 0 ≤ budget)
    (h : affordableShares price budget < shares) (hmax : shares ≤ i64Max) :
    budget * MICRO_SCALE < price * (affordableShares price budget + 1) := by
  have hnonneg : 0 ≤ budget * MICRO_SCALE := mul_nonneg hb (by decide)
  unfold affordableShares at h ⊢
  rw [if_neg (not_le.mpr hp), Int.tdiv_eq_ediv_of_nonneg hnonneg] at h ⊢
  have hfits : budget * MICRO_SCALE / price ≤ i64Max := by
    by_contra hover
    rw [Micro.saturate, if_neg hover] at h
    exact absurd hmax (not_le.mpr h)
  rw [Micro.saturate_of_le hfits, mul_comm price]
  exact Int.lt_ediv_add_one_mul_self _ hp

theorem two_mul_abs_sub_le {v n d : Int} (hlow : v * d ≤ n + d / 2)
    (hhigh : n + d / 2 < v * d + d) : 2 * |v * d - n| ≤ d := by
  rcases abs_cases (v * d - n) with ⟨h, -⟩ | ⟨h, -⟩ <;> rw [h] <;> omega

theorem vwapFromCost_near (hc : 0 ≤ cost) (h : cost ≤ shares) (hs : 0 < shares) :
    2 * |vwapFromCost cost shares * shares - cost * MICRO_SCALE| ≤ shares := by
  have hmem := (vwapFromCost_mem hc h hs).2
  have hnum : 0 ≤ cost * MICRO_SCALE + shares / 2 :=
    add_nonneg (mul_nonneg hc (by decide)) (Int.ediv_nonneg hs.le (by decide))
  unfold vwapFromCost at hmem ⊢
  rw [if_neg (not_le.mpr hs), Int.tdiv_eq_ediv_of_nonneg hs.le,
    Int.tdiv_eq_ediv_of_nonneg hnum] at hmem ⊢
  have hfits : (cost * MICRO_SCALE + shares / 2) / shares ≤ i64Max := by
    by_contra hover
    rw [Micro.saturate, if_neg hover] at hmem
    exact absurd hmem (by decide)
  rw [Micro.saturate_of_le hfits]
  have hlow := Int.ediv_mul_le (cost * MICRO_SCALE + shares / 2) hs.ne'
  have hhigh := Int.lt_ediv_add_one_mul_self (cost * MICRO_SCALE + shares / 2) hs
  rw [add_mul, one_mul] at hhigh
  exact two_mul_abs_sub_le hlow hhigh

end MicroPrice

/-! ## One level -/

namespace WalkState

variable {s : WalkState} {level : BookLevel}

theorem fill_nonneg (hb : 0 ≤ s.remainingBudget) (hs : 0 < level.size) : 0 ≤ s.fill level :=
  le_min (MicroPrice.affordableShares_nonneg _ hb) hs.le

theorem take_remaining (hp : 0 < level.price) (hb : 0 ≤ s.remainingBudget) (hs : 0 < level.size) :
    0 ≤ (s.take level).remainingBudget ∧
      (s.take level).remainingBudget ≤ s.remainingBudget := by
  have hfill := fill_nonneg hb hs
  have hcost := MicroPrice.mulShares_le_budget hp hb hfill (min_le_left _ _)
  have hnonneg := MicroPrice.mulShares_nonneg hp.le hfill
  change 0 ≤ s.remainingBudget - MicroPrice.mulShares level.price (s.fill level) ∧
    s.remainingBudget - MicroPrice.mulShares level.price (s.fill level) ≤ s.remainingBudget
  constructor <;> linarith

theorem take_full_or_spent (hp : 0 < level.price) (hone : level.price ≤ MICRO_SCALE)
    (hs : 0 < level.size) (hmax : level.size ≤ i64Max) (hb : 0 ≤ s.remainingBudget) :
    s.fill level = level.size ∨ (s.take level).remainingBudget ≤ 1 := by
  rcases le_or_gt level.size (MicroPrice.affordableShares level.price s.remainingBudget) with
    hfull | hpart
  · exact .inl (min_eq_right hfull)
  · right
    have hmost := MicroPrice.affordableShares_lt hp hb hpart hmax
    have hcost := (MicroPrice.mulShares_bounds hp.le hone (fill_nonneg hb hs)
      ((min_le_right _ _).trans hmax)).2
    change s.remainingBudget - MicroPrice.mulShares level.price (s.fill level) ≤ 1
    have hfill : s.fill level = MicroPrice.affordableShares level.price s.remainingBudget :=
      min_eq_left hpart.le
    rw [hfill] at hcost ⊢
    have hless : s.remainingBudget * MICRO_SCALE <
        (MicroPrice.mulShares level.price
          (MicroPrice.affordableShares level.price s.remainingBudget) + 1 + 1) * MICRO_SCALE := by
      linarith
    have hscale : (0 : Int) ≤ MICRO_SCALE := by decide
    exact sub_le_iff_le_add'.mpr (Int.lt_add_one_iff.mp (lt_of_mul_lt_mul_right hless hscale))

end WalkState

/-! ## The walk -/

namespace WalkState

/-- What the loop adds up is what it takes. -/
theorem walk_eq_fills (priceFloor : MicroPrice) (levels : List BookLevel) (s : WalkState) :
    let fs := fills priceFloor levels s
    let t := walk priceFloor levels s
    t.totalShares = s.totalShares + (fs.map (·.2)).sum ∧
      t.totalCost = s.totalCost + (fs.map fun f => MicroPrice.mulShares f.1.price f.2).sum ∧
      t.levelsConsumed = s.levelsConsumed + fs.length := by
  induction levels generalizing s with
  | nil => simp [fills, walk]
  | cons level rest ih =>
    unfold fills walk
    split
    · exact ih s
    split
    · simp
    split
    · simp
    obtain ⟨hshares, hcost, hlevels⟩ := ih (s.take level)
    simp only [List.map_cons, List.sum_cons, List.length_cons]
    rw [hshares, hcost, hlevels]
    refine ⟨?_, ?_, ?_⟩
    · exact add_assoc s.totalShares (s.fill level) _
    · exact add_assoc s.totalCost (MicroPrice.mulShares level.price (s.fill level)) _
    · exact Nat.add_right_comm s.levelsConsumed 1 _

variable {priceFloor : MicroPrice} {levels : List BookLevel} {s : WalkState}

theorem fills_sublist : ((fills priceFloor levels s).map (·.1)).Sublist levels := by
  induction levels generalizing s with
  | nil => exact .slnil
  | cons level rest ih =>
    unfold fills
    split
    · exact ih.cons level
    split
    · exact List.nil_sublist _
    split
    · exact List.nil_sublist _
    · exact ih.cons_cons level

theorem mem_fills (hb : 0 ≤ s.remainingBudget) {f : BookLevel × MicroShares}
    (hf : f ∈ fills priceFloor levels s) :
    0 < f.1.price ∧ priceFloor ≤ f.1.price ∧ 0 ≤ f.2 ∧ f.2 ≤ f.1.size := by
  induction levels generalizing s with
  | nil => cases hf
  | cons level rest ih =>
    unfold fills at hf
    split at hf
    · exact ih hb hf
    rename_i hpos
    rw [not_or, not_le, not_le] at hpos
    split at hf
    · cases hf
    rename_i hfloor
    split at hf
    · cases hf
    rcases List.mem_cons.mp hf with rfl | hf
    · exact ⟨hpos.1, not_lt.mp hfloor, fill_nonneg hb hpos.2, min_le_right _ _⟩
    · exact ih (take_remaining hpos.1 hb hpos.2).1 hf

/-- A walk that takes anything meets no level below the floor: the levels ascend. -/
theorem floor_le_of_fills (hasc : levels.Pairwise fun a b => a.price ≤ b.price)
    (hprice : ∀ level ∈ levels, 0 < level.price) (h : fills priceFloor levels s ≠ []) :
    ∀ level ∈ levels, 0 < level.size → priceFloor ≤ level.price := by
  induction levels with
  | nil => exact fun _ hl => absurd hl List.not_mem_nil
  | cons first rest ih =>
    obtain ⟨hfirst, hrest⟩ := List.pairwise_cons.mp hasc
    unfold fills at h
    split at h
    · rename_i hskip
      intro level hl hsize
      rcases List.mem_cons.mp hl with rfl | hl
      · exact absurd hskip (not_or.mpr ⟨not_le.mpr (hprice _ List.mem_cons_self), not_le.mpr hsize⟩)
      · exact ih hrest (fun l hl => hprice l (List.mem_cons_of_mem _ hl)) h level hl hsize
    split at h
    · exact absurd rfl h
    rename_i hfloor
    intro level hl _
    rcases List.mem_cons.mp hl with rfl | hl
    · exact not_lt.mp hfloor
    · exact (not_lt.mp hfloor).trans (hfirst level hl)

theorem walk_remaining_le (hb : 0 ≤ s.remainingBudget) :
    (walk priceFloor levels s).remainingBudget ≤ s.remainingBudget := by
  induction levels generalizing s with
  | nil => exact le_rfl
  | cons level rest ih =>
    unfold walk
    split
    · exact ih hb
    rename_i hpos
    rw [not_or, not_le, not_le] at hpos
    split
    · exact le_rfl
    split
    · exact le_rfl
    obtain ⟨hnonneg, hle⟩ := take_remaining hpos.1 hb hpos.2
    exact (ih hnonneg).trans hle

theorem whole_or_spent (hprice : ∀ level ∈ levels, 0 < level.price ∧ level.price ≤ MICRO_SCALE)
    (hsize : ∀ level ∈ levels, level.size ≤ i64Max)
    (hfloor : ∀ level ∈ levels, 0 < level.size → priceFloor ≤ level.price)
    (hb : 0 ≤ s.remainingBudget) :
    fills priceFloor levels s = wholeLevels levels ∨
      (walk priceFloor levels s).remainingBudget ≤ 1 := by
  induction levels generalizing s with
  | nil => exact .inl rfl
  | cons level rest ih =>
    obtain ⟨hp, hone⟩ := hprice level List.mem_cons_self
    have ih' := fun {t : WalkState} => @ih t (fun l hl => hprice l (List.mem_cons_of_mem _ hl))
      (fun l hl => hsize l (List.mem_cons_of_mem _ hl))
      (fun l hl => hfloor l (List.mem_cons_of_mem _ hl))
    unfold fills walk wholeLevels
    by_cases hs : 0 < level.size
    · have hskip : ¬ (level.price ≤ 0 ∨ level.size ≤ 0) :=
        not_or.mpr ⟨not_le.mpr hp, not_le.mpr hs⟩
      have hbelow : ¬ level.price < priceFloor := not_lt.mpr (hfloor level List.mem_cons_self hs)
      rw [if_neg hskip, if_neg hbelow, if_neg hskip, if_neg hbelow]
      split
      · rename_i hspent
        exact .inr (hspent.trans (by decide))
      have hleft := (take_remaining hp hb hs).1
      rcases take_full_or_spent hp hone hs (hsize level List.mem_cons_self) hb with hfull | hspent
      · rw [hfull, List.filter_cons_of_pos (by simpa using hs), List.map_cons]
        exact (ih' hleft).imp_left (congrArg _)
      · exact .inr ((walk_remaining_le hleft).trans hspent)
    · rw [if_pos (.inr (not_lt.mp hs)), if_pos (.inr (not_lt.mp hs)),
        List.filter_cons_of_neg (by simpa using hs)]
      exact ih' hb

end WalkState

/-- The exact cost of what was taken, in units of a micro-dollar over `MICRO_SCALE`. -/
def exactCost (fs : List (BookLevel × MicroShares)) : Int := (fs.map fun f => f.1.price * f.2).sum

theorem exactCost_bounds {fs : List (BookLevel × MicroShares)}
    (h : ∀ f ∈ fs, 0 ≤ f.1.price ∧ f.1.price ≤ MICRO_SCALE ∧ 0 ≤ f.2 ∧ f.2 ≤ i64Max) :
    (fs.map fun f => MicroPrice.mulShares f.1.price f.2).sum * MICRO_SCALE ≤ exactCost fs ∧
      (fs ≠ [] → exactCost fs <
        ((fs.map fun f => MicroPrice.mulShares f.1.price f.2).sum + fs.length) * MICRO_SCALE) := by
  induction fs with
  | nil => exact ⟨le_rfl, fun h => absurd rfl h⟩
  | cons f fs ih =>
    obtain ⟨hp, hone, hs, hmax⟩ := h f List.mem_cons_self
    obtain ⟨hlow, hhigh⟩ := MicroPrice.mulShares_bounds hp hone hs hmax
    obtain ⟨ihlow, ihhigh⟩ := ih fun f hf => h f (List.mem_cons_of_mem _ hf)
    unfold exactCost at ihlow ihhigh ⊢
    simp only [List.map_cons, List.sum_cons, List.length_cons, Nat.cast_add, Nat.cast_one]
    refine ⟨by linarith, fun _ => ?_⟩
    rcases eq_or_ne fs [] with rfl | hne
    · simp only [List.map_nil, List.sum_nil, List.length_nil, Nat.cast_zero]
      linarith
    · linarith [ihhigh hne]

/-- **The walk is greedy.** -/
theorem walkAsksByCost_greedy {asks : List BookLevel} {maxCostUsd depth : MicroUsd}
    {priceFloor : MicroPrice} {r : WalkResult}
    (hasc : asks.Pairwise fun a b => a.price ≤ b.price)
    (hprice : ∀ level ∈ asks, 0 < level.price ∧ level.price ≤ MICRO_SCALE)
    (hsizes : (asks.map fun level => max level.size 0).sum ≤ i64Max) (hbudget : 0 < maxCostUsd)
    (h : walkAsksByCost asks maxCostUsd priceFloor depth = some r) :
    let fs := WalkState.fills priceFloor asks ⟨maxCostUsd, 0, 0, 0⟩
    r.shares = (fs.map (·.2)).sum ∧ r.levelsConsumed = fs.length ∧
      (fs.map (·.1)).Sublist asks ∧ (∀ f ∈ fs, priceFloor ≤ f.1.price ∧ f.2 ≤ f.1.size) ∧
      r.totalCost ≤ maxCostUsd ∧
      (r.totalCost * MICRO_SCALE ≤ exactCost fs ∧
        exactCost fs < (r.totalCost + r.levelsConsumed) * MICRO_SCALE) ∧
      2 * |r.vwap * r.shares - r.totalCost * MICRO_SCALE| ≤ r.shares ∧
      (fs = wholeLevels asks ∨ maxCostUsd - r.totalCost ≤ 1) := by
  intro fs
  have hone : ∀ level ∈ asks, level.price ≤ MICRO_SCALE := fun l hl => (hprice l hl).2
  have hsize : ∀ level ∈ asks, level.size ≤ i64Max := by
    intro level hl
    have hsum := List.single_le_sum (l := asks.map fun level => max level.size 0)
      (by simp) (max level.size 0) (List.mem_map_of_mem hl)
    exact (le_max_left _ _).trans (hsum.trans hsizes)
  have hasks : ∀ f ∈ fs, f.1 ∈ asks := fun f hf =>
    WalkState.fills_sublist.subset (List.mem_map_of_mem hf)
  have hfs : ∀ f ∈ fs, 0 < f.1.price ∧ priceFloor ≤ f.1.price ∧ 0 ≤ f.2 ∧ f.2 ≤ f.1.size :=
    fun f hf => WalkState.mem_fills hbudget.le hf
  have hend : WalkState.Within maxCostUsd (WalkState.walk priceFloor asks ⟨maxCostUsd, 0, 0, 0⟩) :=
    WalkState.Within.walk priceFloor hone ⟨add_zero _, hbudget.le, le_rfl, le_rfl⟩
  obtain ⟨hshares, htotal, hlevels⟩ :=
    WalkState.walk_eq_fills priceFloor asks ⟨maxCostUsd, 0, 0, 0⟩
  simp only [zero_add] at hshares htotal hlevels
  unfold walkAsksByCost at h
  simp only at h
  split at h
  · cases h
  rename_i hne
  cases h
  obtain ⟨hsplit, hleft, hcost, hle⟩ := hend
  have hpos := lt_of_le_of_ne (hcost.trans hle) (Ne.symm hne)
  have hsome : fs ≠ [] := by
    intro hnil
    rw [hshares, show WalkState.fills priceFloor asks ⟨maxCostUsd, 0, 0, 0⟩ = [] from hnil] at hne
    exact hne rfl
  have hexact := @exactCost_bounds fs fun f hf =>
    ⟨(hfs f hf).1.le, hone _ (hasks f hf), (hfs f hf).2.2.1,
      (hfs f hf).2.2.2.trans (hsize _ (hasks f hf))⟩
  rw [← htotal, ← hlevels] at hexact
  refine ⟨hshares, hlevels, WalkState.fills_sublist,
    fun f hf => ⟨(hfs f hf).2.1, (hfs f hf).2.2.2⟩, by linarith, ⟨hexact.1, hexact.2 hsome⟩,
    MicroPrice.vwapFromCost_near hcost hle hpos, ?_⟩
  have hfloor := WalkState.floor_le_of_fills hasc (fun l hl => (hprice l hl).1) hsome
  refine (WalkState.whole_or_spent hprice hsize hfloor hbudget.le).imp_right fun hspent => ?_
  linarith

/-- Three micro-dollars and two levels: the second one is not taken in full. -/
theorem walkAsksByCost_greedy_two_levels :
    let asks : List BookLevel := [⟨960000, 2⟩, ⟨970000, 5⟩]
    ∃ r, walkAsksByCost asks 3 950000 7 = some r ∧
      (WalkState.fills 950000 asks ⟨3, 0, 0, 0⟩ = wholeLevels asks ∨ 3 - r.totalCost ≤ 1) := by
  refine ⟨⟨4, 500000, 2, 2, true, 28⟩, by decide +kernel, ?_⟩
  have hprices : ∀ level ∈ ([⟨960000, 2⟩, ⟨970000, 5⟩] : List BookLevel),
      0 < level.price ∧ level.price ≤ MICRO_SCALE := by decide
  exact (@walkAsksByCost_greedy _ 3 7 950000 _ (by decide) hprices (by decide) (by decide)
    (by decide +kernel)).2.2.2.2.2.2.2

end OxideArb
