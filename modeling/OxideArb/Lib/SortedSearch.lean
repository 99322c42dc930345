import Mathlib.Data.List.Basic
import Mathlib.Order.Basic

/-!
# Binary search in a sorted list, and lookups by key

`binarySearchBy` follows the slice search of the Rust standard library; the rest is about
lookups by key.
-/

namespace SortedSearch

variable {α κ : Type*}

/-- Answer of a search: the index of a hit, or where to insert. -/
inductive Search
  | found (i : Nat)
  | missing (i : Nat)
deriving DecidableEq, Repr

/-- The halving loop: `size` elements from `base` on are still in the window. -/
def narrow (f : α → Ordering) (l : List α) : Nat → Nat → Nat → Nat
  | 0, _, base => base
  | fuel + 1, size, base =>
    if size ≤ 1 then base
    else
      let half := size / 2
      let mid := base + half
      let base := match l[mid]? with
        | some x => if f x = .gt then base else mid
        | none => base
      narrow f l fuel (size - half) base

def binarySearchBy (f : α → Ordering) (l : List α) : Search :=
  if l.length = 0 then .missing 0
  else
    let base := narrow f l l.length l.length 0
    match l[base]? with
    | some x =>
      match f x with
      | .eq => .found base
      | .lt => .missing (base + 1)
      | .gt => .missing base
    | none => .missing base

/-! ## Keyed lists -/

section Keyed

variable (key : α → κ)

def lookup [DecidableEq κ] (k : κ) (l : List α) : Option α := l.find? fun x => key x = k

variable {key} [DecidableEq κ]

theorem lookup_eq_some_iff {l : List α} (h : (l.map key).Nodup) {k : κ} {x : α} :
    lookup key k l = some x ↔ x ∈ l ∧ key x = k := by
  induction l with
  | nil => simp [lookup]
  | cons y l ih =>
    rw [List.map_cons, List.nodup_cons] at h
    by_cases hy : key y = k
    · have hx : x ∈ l → key x ≠ k := fun hx he =>
        h.1 (by rw [hy, ← he]; exact List.mem_map_of_mem hx)
      simp only [lookup, List.find?_cons, hy, decide_true, Option.some.injEq, List.mem_cons]
      constructor
      · rintro rfl
        exact ⟨Or.inl rfl, hy⟩
      · rintro ⟨rfl | hm, he⟩
        · rfl
        · exact absurd he (hx hm)
    · have hne : x = y → key x ≠ k := fun he => he ▸ hy
      have := ih h.2
      unfold lookup at this ⊢
      rw [List.find?_cons]
      simp only [hy, decide_false, List.mem_cons]
      rw [this]
      constructor
      · rintro ⟨hm, he⟩
        exact ⟨Or.inr hm, he⟩
      · rintro ⟨rfl | hm, he⟩
        · exact absurd he hy
        · exact ⟨hm, he⟩

end Keyed

end SortedSearch
