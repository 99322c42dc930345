import OxideArb.Lib.Transition
import OxideArb.Risk.Parts

/-!
# The total of the potential-loss ledger

The total is kept beside the map of entries. Loading sums every listed entry, also one whose id
is listed again, and resolving an entry cuts the total at zero.
-/

namespace OxideArb.Risk

def LedgerEntry.activeLoss (entry : LedgerEntry) : Usd :=
  if entry.isActive then entry.maxLossUsd else 0

/-- The potential loss of the active entries of a list. -/
def activeLosses (entries : List LedgerEntry) : Usd :=
  ((entries.filter LedgerEntry.isActive).map (·.maxLossUsd)).sum

section Sums

variable {entry : LedgerEntry} {l : List LedgerEntry}

@[simp]
theorem activeLosses_nil : activeLosses [] = 0 := rfl

@[simp]
theorem activeLosses_cons : activeLosses (entry :: l) = entry.activeLoss + activeLosses l := by
  unfold activeLosses LedgerEntry.activeLoss
  cases hactive : entry.isActive <;> simp [hactive]

theorem activeLosses_perm {l' : List LedgerEntry} (h : l.Perm l') :
    activeLosses l = activeLosses l' :=
  ((h.filter _).map _).sum_eq

end Sums

namespace Ledger

/-- `from_entries` of a list: the map keeps the last entry of each id. -/
def fromEntryList (entries : List LedgerEntry) : Ledger where
  entries := entries.foldl Table.put .empty
  runningTotal := activeLosses entries

/-- The entries that are replaced while a list is collected into a map. -/
def replaced : LedgerTable → List LedgerEntry → List LedgerEntry
  | _, [] => []
  | map, entry :: entries => (map.get entry.key).toList ++ replaced (map.put entry) entries

/-- The total is the loss of the active entries. -/
def Balanced (ledger : Ledger) : Prop :=
  ledger.runningTotal = activeLosses ledger.entries.rows

theorem activeLosses_put (map : LedgerTable) (entry : LedgerEntry) :
    activeLosses (map.put entry).rows + activeLosses (map.get entry.key).toList =
      activeLosses map.rows + entry.activeLoss := by
  have hput : activeLosses (map.put entry).rows =
      entry.activeLoss + activeLosses (map.without entry.key).rows := by
    rw [← activeLosses_cons]
    exact activeLosses_perm (List.perm_append_singleton _ _)
  rw [hput]
  cases hget : map.get entry.key with
  | none =>
    rw [map.without_of_get_eq_none hget]
    simp [add_comm]
  | some old =>
    rw [activeLosses_perm (map.perm_without hget)]
    simp
    ring

theorem activeLosses_foldl_put (map : LedgerTable) (entries : List LedgerEntry) :
    activeLosses (entries.foldl Table.put map).rows + activeLosses (replaced map entries) =
      activeLosses map.rows + activeLosses entries := by
  induction entries generalizing map with
  | nil => simp [replaced]
  | cons entry entries ih =>
    have happend : activeLosses (replaced map (entry :: entries)) =
        activeLosses (map.get entry.key).toList + activeLosses (replaced (map.put entry) entries) := by
      simp [replaced, activeLosses]
    have hput := activeLosses_put map entry
    have hrest := ih (map.put entry)
    rw [List.foldl_cons, happend, activeLosses_cons]
    linarith

theorem fromEntryList_balanced_iff (entries : List LedgerEntry) :
    (fromEntryList entries).Balanced ↔ activeLosses (replaced .empty entries) = 0 := by
  have hsum := activeLosses_foldl_put .empty entries
  have hempty : activeLosses (Table.empty : LedgerTable).rows = 0 := rfl
  rw [hempty] at hsum
  change activeLosses entries = activeLosses (entries.foldl Table.put .empty).rows ↔ _
  constructor <;> intro h <;> linarith

/-! ## Runs -/

variable {ledger : Ledger}

theorem Balanced.recordEntry (h : ledger.Balanced) (entry : LedgerEntry) :
    (ledger.recordEntry entry).Balanced := by
  unfold Ledger.recordEntry
  split
  · exact h
  · next entries hinsert =>
    have hsum : activeLosses entries.rows =
        entry.activeLoss + activeLosses ledger.entries.rows := by
      rw [Table.rows_insert hinsert, ← activeLosses_cons]
      exact activeLosses_perm (List.perm_append_singleton _ _)
    unfold Balanced at *
    rw [hsum, h, LedgerEntry.activeLoss]
    split <;> ring

/-- The total covers the entry, if it is active: it is not cut at zero. -/
def Covers (ledger : Ledger) (id : TradeId) : Prop :=
  ∀ entry ∈ ledger.entries.get id, entry.isActive = true → entry.maxLossUsd ≤ ledger.runningTotal

theorem Balanced.resolve_iff (h : ledger.Balanced) (now : DateTime) (id : TradeId) :
    (ledger.resolve now id).Balanced ↔ ledger.Covers id := by
  unfold Ledger.resolve Covers
  cases hget : ledger.entries.get id with
  | none => simpa using h
  | some entry =>
    have hrest : activeLosses (ledger.entries.updateKey id (fun _ => true) (LedgerEntry.resolve now)
        (LedgerEntry.resolve_key now)).2.rows = activeLosses (ledger.entries.without id).rows := by
      rw [activeLosses_perm (ledger.entries.perm_updateKey _ hget rfl), activeLosses_cons]
      exact zero_add _
    have hall : ledger.runningTotal =
        entry.activeLoss + activeLosses (ledger.entries.without id).rows := by
      rw [h, activeLosses_perm (ledger.entries.perm_without hget), activeLosses_cons]
    simp only [Balanced, hrest, Option.mem_some_iff, forall_eq']
    cases hactive : entry.isActive with
    | false => simpa [LedgerEntry.activeLoss, hactive] using hall
    | true =>
      rw [LedgerEntry.activeLoss, if_pos hactive] at hall
      have hdiff : ledger.runningTotal - entry.maxLossUsd =
          activeLosses (ledger.entries.without id).rows := by linarith
      simp only [if_true, true_implies, ← hdiff, max_eq_left_iff, sub_nonneg]

end Ledger

inductive LedgerOp
  | record (entry : LedgerEntry)
  | resolve (now : DateTime) (id : TradeId)

namespace LedgerOp

def apply (ledger : Ledger) : LedgerOp → Ledger
  | .record entry => ledger.recordEntry entry
  | .resolve now id => ledger.resolve now id

/-- A resolution is of an entry that the total covers. -/
def Covered (ledger : Ledger) : LedgerOp → Prop
  | .record _ => True
  | .resolve _ id => ledger.Covers id

end LedgerOp

theorem Ledger.Balanced.apply_iff {ledger : Ledger} (h : ledger.Balanced) (op : LedgerOp) :
    (op.apply ledger).Balanced ↔ op.Covered ledger := by
  cases op with
  | record entry => exact iff_of_true (h.recordEntry entry) trivial
  | resolve now id => exact h.resolve_iff now id

/-- **The total is the sum over the active entries along a run** exactly when the entries
replaced at loading add up to zero and every resolved entry is covered by the total. -/
theorem ledger_balanced_along_iff (entries : List LedgerEntry) (ops : List LedgerOp) :
    Transition.Along LedgerOp.apply Ledger.Balanced (.fromEntryList entries) ops ↔
      activeLosses (Ledger.replaced .empty entries) = 0 ∧
        Transition.Meets (fun ledger op => some (LedgerOp.apply ledger op)) LedgerOp.Covered
          (.fromEntryList entries) ops := by
  rw [← Ledger.fromEntryList_balanced_iff]
  refine ⟨fun h => ⟨h.start, ?_⟩, fun ⟨hstart, h⟩ => ?_⟩
  · exact (Transition.along_iff_meets Ledger.Balanced (fun _ hb => hb)
      (fun _ op hb => (hb.apply_iff op).mpr) (fun _ op hb => mt (hb.apply_iff op).mp)
      h.start).mp h
  · exact Transition.along_of_meets Ledger.Balanced (fun _ hb => hb)
      (fun _ op hb => (hb.apply_iff op).mpr) hstart h

/-- One id listed twice: the total is twice the loss of the only active entry. -/
theorem listed_twice_counted_twice :
    let entry : LedgerEntry := ⟨⟨⟨1⟩, 10, .active⟩, 0, none⟩
    (Ledger.fromEntryList [entry, entry]).runningTotal = 20 ∧
      activeLosses (Ledger.fromEntryList [entry, entry]).entries.rows = 10 := by
  decide +kernel

end OxideArb.Risk
