import OxideArb.Book.OrderBook

/-!
# Walking the asks

The walk simulates a purchase level by level. Its accumulators split the budget exactly
(`WalkState.Within`), and a walk over prices of at most one never reports a price above one.
-/

namespace OxideArb

structure WalkResult where
  shares : MicroShares
  vwap : MicroPrice
  totalCost : MicroUsd
  levelsConsumed : Nat
  fullyFilled : Bool
  depthUsedPct : Int
deriving DecidableEq, Repr

structure WalkState where
  remainingBudget : MicroUsd
  totalShares : MicroShares
  totalCost : MicroUsd
  levelsConsumed : Nat
deriving DecidableEq, Repr

namespace WalkState

def take (s : WalkState) (level : BookLevel) : WalkState :=
  let affordable := MicroPrice.affordableShares level.price s.remainingBudget
  let fill := min affordable level.size
  let cost := MicroPrice.mulShares level.price fill
  { remainingBudget := s.remainingBudget - cost
    totalShares := s.totalShares + fill
    totalCost := s.totalCost + cost
    levelsConsumed := s.levelsConsumed + 1 }

/-- The loop over the levels: levels of no price or size are skipped, a level below
the floor or an exhausted budget ends the walk. -/
def walk (priceFloor : MicroPrice) : List BookLevel → WalkState → WalkState
  | [], s => s
  | level :: rest, s =>
    if level.price ≤ 0 ∨ level.size ≤ 0 then walk priceFloor rest s
    else if level.price < priceFloor then s
    else if s.remainingBudget ≤ 0 then s
    else walk priceFloor rest (s.take level)

end WalkState

def walkAsksByCost (asks : List BookLevel) (maxCostUsd : MicroUsd) (priceFloor : MicroPrice)
    (totalAskDepthUsd : MicroUsd) : Option WalkResult :=
  let s := WalkState.walk priceFloor asks
    { remainingBudget := maxCostUsd, totalShares := 0, totalCost := 0, levelsConsumed := 0 }
  if s.totalShares = 0 then none
  else some
    { shares := s.totalShares
      vwap := MicroPrice.vwapFromCost s.totalCost s.totalShares
      totalCost := s.totalCost
      levelsConsumed := s.levelsConsumed
      fullyFilled := 0 < s.remainingBudget
      depthUsedPct := MicroUsd.percentOf s.totalCost totalAskDepthUsd }

namespace Micro

theorem saturate_le (v : Int) : saturate v ≤ v := by
  unfold saturate
  split <;> omega

theorem saturate_nonneg {v : Int} (h : 0 ≤ v) : 0 ≤ saturate v := by
  unfold saturate
  split
  · exact h
  · decide

end Micro

namespace MicroPrice

variable {price : MicroPrice} {shares : MicroShares} {budget : MicroUsd}

theorem mulShares_nonneg (hp : 0 ≤ price) (hs : 0 ≤ shares) : 0 ≤ mulShares price shares :=
  Micro.saturate_nonneg (Int.tdiv_nonneg (mul_nonneg hp hs) (by decide))

theorem affordableShares_nonneg (price : MicroPrice) (hb : 0 ≤ budget) :
    0 ≤ affordableShares price budget := by
  unfold affordableShares
  split
  · exact le_rfl
  · rename_i hp
    exact Micro.saturate_nonneg (Int.tdiv_nonneg (mul_nonneg hb (by decide)) (not_le.mp hp).le)

theorem mulShares_le_budget (hp : 0 < price) (hb : 0 ≤ budget) (hs : 0 ≤ shares)
    (h : shares ≤ affordableShares price budget) : mulShares price shares ≤ budget := by
  have hscale : (0 : Int) < MICRO_SCALE := by decide
  have haff : shares ≤ (budget * MICRO_SCALE).tdiv price := by
    unfold affordableShares at h
    rw [if_neg (not_le.mpr hp)] at h
    exact h.trans (Micro.saturate_le _)
  rw [Int.tdiv_eq_ediv_of_nonneg (mul_nonneg hb hscale.le)] at haff
  have hcost : price * shares ≤ budget * MICRO_SCALE := by
    rw [mul_comm]
    exact (Int.le_ediv_iff_mul_le hp).mp haff
  refine (Micro.saturate_le _).trans ?_
  rw [Int.tdiv_eq_ediv_of_nonneg (mul_nonneg hp.le hs)]
  exact Int.ediv_le_of_le_mul hscale hcost

theorem mulShares_le_shares (hp : 0 ≤ price) (hone : price ≤ MICRO_SCALE) (hs : 0 ≤ shares) :
    mulShares price shares ≤ shares := by
  refine (Micro.saturate_le _).trans ?_
  rw [Int.tdiv_eq_ediv_of_nonneg (mul_nonneg hp hs)]
  refine Int.ediv_le_of_le_mul (by decide) ?_
  rw [mul_comm]
  exact mul_le_mul_of_nonneg_left hone hs

theorem vwapFromCost_mem {cost : MicroUsd} (hc : 0 ≤ cost) (h : cost ≤ shares) (hs : 0 < shares) :
    0 ≤ vwapFromCost cost shares ∧ vwapFromCost cost shares ≤ MICRO_SCALE := by
  unfold vwapFromCost
  rw [if_neg (not_le.mpr hs)]
  have hhalf : 0 ≤ shares.tdiv 2 := Int.tdiv_nonneg hs.le (by decide)
  have hnum : 0 ≤ cost * MICRO_SCALE + shares.tdiv 2 :=
    add_nonneg (mul_nonneg hc (by decide)) hhalf
  refine ⟨Micro.saturate_nonneg (Int.tdiv_nonneg hnum hs.le), (Micro.saturate_le _).trans ?_⟩
  rw [Int.tdiv_eq_ediv_of_nonneg hnum]
  -- the rounding adds less than one unit
  refine Int.lt_add_one_iff.mp (Int.ediv_lt_of_lt_mul hs ?_)
  have hround : shares.tdiv 2 < shares := by
    rw [Int.tdiv_eq_ediv_of_nonneg hs.le]
    exact Int.ediv_lt_of_lt_mul (by decide) (by linarith)
  calc cost * MICRO_SCALE + shares.tdiv 2
      < shares * MICRO_SCALE + shares :=
        add_lt_add_of_le_of_lt (mul_le_mul_of_nonneg_right h (by decide)) hround
    _ = (MICRO_SCALE + 1) * shares := by ring

end MicroPrice

structure WalkState.Within (budget : MicroUsd) (s : WalkState) : Prop where
  split : s.remainingBudget + s.totalCost = budget
  remaining_nonneg : 0 ≤ s.remainingBudget
  cost_nonneg : 0 ≤ s.totalCost
  cost_le_shares : s.totalCost ≤ s.totalShares

theorem WalkState.Within.take {budget : MicroUsd} {s : WalkState} (h : s.Within budget)
    {level : BookLevel} (hp : 0 < level.price) (hone : level.price ≤ MICRO_SCALE)
    (hs : 0 < level.size) : (s.take level).Within budget := by
  have haff := MicroPrice.affordableShares_nonneg level.price h.remaining_nonneg
  have hfill : 0 ≤ min (MicroPrice.affordableShares level.price s.remainingBudget) level.size :=
    le_min haff hs.le
  have hbudget := MicroPrice.mulShares_le_budget hp h.remaining_nonneg hfill (min_le_left _ _)
  have hshares := MicroPrice.mulShares_le_shares hp.le hone hfill
  have hcost := MicroPrice.mulShares_nonneg hp.le hfill
  obtain ⟨hsplit, hrem, hc, hcs⟩ := h
  constructor <;> simp only [WalkState.take] <;> linarith

theorem WalkState.Within.walk {budget : MicroUsd} (priceFloor : MicroPrice)
    {levels : List BookLevel} (hone : ∀ level ∈ levels, level.price ≤ MICRO_SCALE)
    {s : WalkState} (h : s.Within budget) :
    (WalkState.walk priceFloor levels s).Within budget := by
  induction levels generalizing s with
  | nil => exact h
  | cons level rest ih =>
    have hrest := fun l hl => hone l (List.mem_cons_of_mem level hl)
    unfold WalkState.walk
    split
    · exact ih hrest h
    · rename_i hpos
      split
      · exact h
      · split
        · exact h
        · rw [not_or, not_le, not_le] at hpos
          exact ih hrest (h.take hpos.1 (hone level List.mem_cons_self) hpos.2)

end OxideArb
