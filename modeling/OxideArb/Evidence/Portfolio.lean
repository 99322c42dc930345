import Mathlib.Algebra.Order.BigOperators.Group.List
import Mathlib.Data.List.Dedup
import Mathlib.Data.List.Sort
import Mathlib.Order.Bounds.Basic
import OxideArb.Lib.Table
import OxideArb.Lib.Transition
import OxideArb.Types.Basic

/-!
# Peak potential loss of a window

The portfolio evidence adds up the entries that are active at the start of the window and those
that change in it. The sum bounds the loss at every time of the window; the greatest of these
losses it is only when all counted entries overlap.
-/

namespace OxideArb.Evidence

structure TimeWindowSpec where
  fromTime : DateTime
  toTime : DateTime
deriving DecidableEq, Repr

def TimeWindowSpec.holds (window : TimeWindowSpec) (time : DateTime) : Bool :=
  window.fromTime ≤ time ∧ time < window.toTime

/-- A row of the potential-loss ledger. The loss is the cost of a trade with its fee. -/
structure PotentialLossInfo where
  ledgerId : String
  maxLossUsd : Usd
  createdAt : DateTime
  resolvedAt : Option DateTime
  nonneg : 0 ≤ maxLossUsd
deriving DecidableEq

namespace PotentialLossInfo

variable (entry : PotentialLossInfo)

def activeAsOf (time : DateTime) : Bool :=
  entry.createdAt ≤ time ∧ entry.resolvedAt.all (time < ·)

def changedBetween (window : TimeWindowSpec) : Bool :=
  window.holds entry.createdAt || entry.resolvedAt.any window.holds

end PotentialLossInfo

/-- The rows of the bundle that the evidence of the portfolio reads for its losses. -/
structure PotentialLossRows where
  baseline : List PotentialLossInfo
  changes : List PotentialLossInfo
deriving DecidableEq

/-- The rows come from the two queries, in any order. -/
structure PotentialLossRows.Of (rows : PotentialLossRows) (ledger : List PotentialLossInfo)
    (window : TimeWindowSpec) : Prop where
  baseline : rows.baseline.Perm (ledger.filter (·.activeAsOf window.fromTime))
  changes : rows.changes.Perm (ledger.filter (·.changedBetween window))

inductive EvidenceMetric (α : Type)
  | available (value : α)
  | unavailable (code reason : String)
deriving DecidableEq, Repr

def portfolioPeakPotentialLoss (rows : PotentialLossRows) : Usd :=
  ((rows.baseline ++ rows.changes).map (·.maxLossUsd)).sum

def peakPotentialLossUsd (rows : PotentialLossRows) : EvidenceMetric Usd :=
  if rows.baseline.isEmpty && rows.changes.isEmpty then
    .unavailable "risk.potential_loss_timeline_missing"
      "peak potential loss requires historical potential-loss ledger events"
  else .available (portfolioPeakPotentialLoss rows)

/-! ## The loss at a time of the window -/

def lossAt (ledger : List PotentialLossInfo) (time : DateTime) : Usd :=
  ((ledger.filter (·.activeAsOf time)).map (·.maxLossUsd)).sum

/-- How often the report counts an entry. -/
def PotentialLossInfo.timesCounted (entry : PotentialLossInfo) (window : TimeWindowSpec) : ℚ :=
  (if entry.activeAsOf window.fromTime then 1 else 0) +
    if entry.changedBetween window then 1 else 0

variable {ledger : List PotentialLossInfo} {window : TimeWindowSpec} {rows : PotentialLossRows}
  {entry : PotentialLossInfo} {time : DateTime}

theorem sum_filter_losses (p : PotentialLossInfo → Bool) (l : List PotentialLossInfo) :
    ((l.filter p).map (·.maxLossUsd)).sum =
      (l.map fun entry => (if p entry then 1 else 0) * entry.maxLossUsd).sum := by
  induction l with
  | nil => rfl
  | cons entry l ih =>
    rw [List.filter_cons, List.map_cons, List.sum_cons]
    split
    · rw [List.map_cons, List.sum_cons, ih, one_mul]
    · rw [ih, zero_mul, zero_add]

theorem portfolioPeakPotentialLoss_eq (h : rows.Of ledger window) :
    portfolioPeakPotentialLoss rows =
      (ledger.map fun entry => entry.timesCounted window * entry.maxLossUsd).sum := by
  unfold portfolioPeakPotentialLoss PotentialLossInfo.timesCounted
  rw [List.map_append, List.sum_append, (h.baseline.map _).sum_eq, (h.changes.map _).sum_eq,
    sum_filter_losses, sum_filter_losses, ← List.sum_map_add]
  exact congrArg _ (List.map_congr_left fun entry _ => (add_mul _ _ _).symm)

/-- An entry active at a time of the window is active from its start on, or created in it. -/
theorem one_le_timesCounted (htime : window.holds time = true)
    (h : entry.activeAsOf time = true) : 1 ≤ entry.timesCounted window := by
  obtain ⟨hfrom, hto⟩ := of_decide_eq_true htime
  obtain ⟨hcreated, hresolved⟩ := of_decide_eq_true h
  unfold PotentialLossInfo.timesCounted
  by_cases hbefore : entry.createdAt ≤ window.fromTime
  · have hactive : entry.activeAsOf window.fromTime = true := by
      refine decide_eq_true ⟨hbefore, ?_⟩
      cases hcase : entry.resolvedAt with
      | none => rfl
      | some resolved =>
        rw [hcase] at hresolved
        exact decide_eq_true (hfrom.trans_lt (of_decide_eq_true hresolved))
    rw [if_pos hactive]
    split <;> norm_num
  · have hchanged : entry.changedBetween window = true := by
      refine Bool.or_eq_true_iff.mpr (.inl (decide_eq_true ⟨?_, hcreated.trans_lt hto⟩))
      exact (not_le.mp hbefore).le
    rw [if_pos hchanged]
    split <;> norm_num

/-- The entry is counted once exactly if it is active, whenever it weighs. -/
def PotentialLossInfo.CountedOnce (entry : PotentialLossInfo) (window : TimeWindowSpec)
    (time : DateTime) : Prop :=
  (entry.activeAsOf window.fromTime = true ∨ entry.changedBetween window = true →
      entry.activeAsOf time = true) ∧
    ¬ (entry.activeAsOf window.fromTime = true ∧ entry.changedBetween window = true)

instance : Decidable (entry.CountedOnce window time) := inferInstanceAs (Decidable (_ ∧ _))

theorem timesCounted_eq_iff (htime : window.holds time = true) :
    (if entry.activeAsOf time then (1 : ℚ) else 0) = entry.timesCounted window ↔
      entry.CountedOnce window time := by
  have hone : entry.activeAsOf time = true → 1 ≤ entry.timesCounted window :=
    one_le_timesCounted htime
  unfold PotentialLossInfo.CountedOnce
  revert hone
  unfold PotentialLossInfo.timesCounted
  cases entry.activeAsOf time <;> cases entry.activeAsOf window.fromTime <;>
    cases entry.changedBetween window <;> norm_num

theorem lossAt_term_le (htime : window.holds time = true) :
    (if entry.activeAsOf time then 1 else 0) * entry.maxLossUsd ≤
      entry.timesCounted window * entry.maxLossUsd := by
  refine mul_le_mul_of_nonneg_right ?_ entry.nonneg
  split
  · rename_i hactive
    exact one_le_timesCounted htime hactive
  · unfold PotentialLossInfo.timesCounted
    positivity

/-- The report bounds the loss at every time of the window. -/
theorem lossAt_le (h : rows.Of ledger window) (htime : window.holds time = true) :
    lossAt ledger time ≤ portfolioPeakPotentialLoss rows := by
  unfold lossAt
  rw [portfolioPeakPotentialLoss_eq h, sum_filter_losses]
  exact List.sum_le_sum fun entry _ => lossAt_term_le htime

theorem sum_map_eq_iff {α : Type} {f g : α → ℚ} {l : List α} (h : ∀ a ∈ l, f a ≤ g a) :
    (l.map f).sum = (l.map g).sum ↔ ∀ a ∈ l, f a = g a := by
  induction l with
  | nil => exact ⟨fun _ a ha => absurd ha List.not_mem_nil, fun _ => rfl⟩
  | cons a l ih =>
    obtain ⟨ha, hl⟩ := List.forall_mem_cons.mp h
    have hrest : (l.map f).sum ≤ (l.map g).sum := List.sum_le_sum hl
    rw [List.forall_mem_cons, ← ih hl, List.map_cons, List.map_cons, List.sum_cons, List.sum_cons]
    constructor
    · intro hsum
      exact ⟨by linarith, by linarith⟩
    · rintro ⟨hhead, htail⟩
      rw [hhead, htail]

theorem lossAt_eq_iff (h : rows.Of ledger window) (htime : window.holds time = true) :
    lossAt ledger time = portfolioPeakPotentialLoss rows ↔
      ∀ entry ∈ ledger, entry.maxLossUsd ≠ 0 → entry.CountedOnce window time := by
  unfold lossAt
  rw [portfolioPeakPotentialLoss_eq h, sum_filter_losses,
    sum_map_eq_iff fun entry _ => lossAt_term_le htime]
  refine forall₂_congr fun entry _ => ?_
  rw [mul_eq_mul_right_iff, timesCounted_eq_iff htime, or_comm, Classical.or_iff_not_imp_left]

/-- The report does not depend on the order of the rows, and is the greatest loss over the times
of the window exactly if at some time of it every counted entry is active, none counted twice. -/
theorem peakPotentialLossUsd_iff (h : rows.Of ledger window) {reported : Usd}
    (havailable : peakPotentialLossUsd rows = .available reported) :
    (∀ other : PotentialLossRows, other.Of ledger window →
        peakPotentialLossUsd other = .available reported) ∧
      (IsGreatest {loss | ∃ time, window.holds time = true ∧ lossAt ledger time = loss} reported ↔
        ∃ time, window.holds time = true ∧
          ∀ entry ∈ ledger, entry.maxLossUsd ≠ 0 → entry.CountedOnce window time) := by
  have hreported : portfolioPeakPotentialLoss rows = reported := by
    unfold peakPotentialLossUsd at havailable
    split at havailable
    · cases havailable
    · exact EvidenceMetric.available.inj havailable
  constructor
  · intro other hother
    have hbaseline := (hother.baseline.trans h.baseline.symm).isEmpty_eq
    have hchanges := (hother.changes.trans h.changes.symm).isEmpty_eq
    unfold peakPotentialLossUsd at havailable ⊢
    rw [hbaseline, hchanges, portfolioPeakPotentialLoss_eq hother,
      ← portfolioPeakPotentialLoss_eq h]
    exact havailable
  · subst hreported
    constructor
    · rintro ⟨⟨time, htime, hloss⟩, -⟩
      exact ⟨time, htime, (lossAt_eq_iff h htime).mp hloss⟩
    · rintro ⟨time, htime, hcounted⟩
      refine ⟨⟨time, htime, (lossAt_eq_iff h htime).mpr hcounted⟩, ?_⟩
      rintro _ ⟨other, hother, rfl⟩
      exact lossAt_le h hother

/-- One open entry is its own peak. -/
theorem open_entry_is_peak :
    let entry : PotentialLossInfo := ⟨"a", 10, 0, none, by decide⟩
    peakPotentialLossUsd ⟨[entry], []⟩ = .available 10 ∧
      IsGreatest {loss | ∃ time, (⟨1, 10⟩ : TimeWindowSpec).holds time = true ∧
        lossAt [entry] time = loss} (10 : Usd) := by
  intro entry
  have hrows : PotentialLossRows.Of ⟨[entry], []⟩ [entry] ⟨1, 10⟩ := ⟨by decide, by decide⟩
  have havailable : peakPotentialLossUsd ⟨[entry], []⟩ = .available 10 := by decide +kernel
  exact ⟨havailable, (peakPotentialLossUsd_iff hrows havailable).2.mpr ⟨1, by decide, by decide⟩⟩

/-- An entry of 10 is resolved before one of 20 is made. The report counts the first one twice and
comes to 40; no time of the window has a loss over 20. -/
theorem consecutive_entries_add_up :
    let first : PotentialLossInfo := ⟨"a", 10, 0, some 5, by decide⟩
    let second : PotentialLossInfo := ⟨"b", 20, 6, none, by decide⟩
    PotentialLossRows.Of ⟨[first], [first, second]⟩ [first, second] ⟨1, 10⟩ ∧
      peakPotentialLossUsd ⟨[first], [first, second]⟩ = .available 40 ∧
      ¬ IsGreatest {loss | ∃ time, (⟨1, 10⟩ : TimeWindowSpec).holds time = true ∧
        lossAt [first, second] time = loss} (40 : Usd) := by
  intro first second
  refine ⟨⟨by decide, by decide⟩, by decide +kernel, ?_⟩
  rintro ⟨⟨time, -, hloss⟩, -⟩
  unfold lossAt at hloss
  rw [sum_filter_losses, List.map_cons, List.map_cons, List.map_nil, List.sum_cons, List.sum_cons,
    List.sum_nil] at hloss
  revert hloss
  cases first.activeAsOf time <;> cases second.activeAsOf time <;> norm_num [first, second]

end OxideArb.Evidence
