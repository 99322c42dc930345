import Mathlib.Algebra.BigOperators.Group.List.Basic
import Mathlib.Algebra.GroupWithZero.Nat
import OxideArb.Lib.Table

/-!
# Grouping by a key

A list of groups is built one item at a time (`upsert`). Grouping commutes with filtering by key
(`group_filter`), and a count over the items is the same count over the groups (`tally_group`).
`tally w xs` adds up the weight of the elements of a list.
-/

section Tally

variable {α : Type*}

def tally (w : α → Nat) (xs : List α) : Nat := (xs.map w).sum

@[simp] theorem tally_nil (w : α → Nat) : tally w [] = 0 := rfl

@[simp] theorem tally_cons (w : α → Nat) (x : α) (xs : List α) :
    tally w (x :: xs) = w x + tally w xs := by
  simp [tally]

theorem tally_one (xs : List α) : tally (fun _ => 1) xs = xs.length := by
  induction xs with
  | nil => rfl
  | cons x xs ih => rw [tally_cons, ih, List.length_cons, Nat.add_comm]

end Tally

variable {α β κ : Type*} [DecidableEq κ]

/-- Combine a value into that of its key, or append it. -/
def upsert (op : β → β → β) (k : κ) (b : β) : List (κ × β) → List (κ × β)
  | [] => [(k, b)]
  | (k', b') :: rest => if k' = k then (k', op b' b) :: rest else (k', b') :: upsert op k b rest

def group (key : α → κ) (val : α → β) (op : β → β → β) (items : List α) : List (κ × β) :=
  items.foldl (fun groups x => upsert op (key x) (val x) groups) []

variable {op : β → β → β} {key : α → κ} {val : α → β}

theorem upsert_filter (op : β → β → β) (p : κ → Bool) (k : κ) (b : β) (groups : List (κ × β)) :
    (upsert op k b groups).filter (fun g => p g.1) =
      if p k then upsert op k b (groups.filter fun g => p g.1)
      else groups.filter fun g => p g.1 := by
  induction groups with
  | nil => cases hk : p k <;> simp [upsert, hk]
  | cons g rest ih =>
    obtain ⟨k', b'⟩ := g
    by_cases hkey : k' = k
    · subst hkey
      cases hk : p k' <;> simp [upsert, hk]
    · cases hk' : p k' <;> cases hk : p k <;> simp [upsert, hkey, hk', hk, ih]

theorem group_filter (p : κ → Bool) (items : List α) :
    group key val op (items.filter fun x => p (key x)) =
      (group key val op items).filter fun g => p g.1 := by
  unfold group
  suffices h : ∀ groups : List (κ × β),
      (items.filter fun x => p (key x)).foldl (fun gs x => upsert op (key x) (val x) gs)
        (groups.filter fun g => p g.1) =
      (items.foldl (fun gs x => upsert op (key x) (val x) gs) groups).filter fun g => p g.1 from
    h []
  induction items with
  | nil => exact fun _ => rfl
  | cons x items ih =>
    intro groups
    have hone := upsert_filter op p (key x) (val x) groups
    rw [List.foldl_cons, ← ih]
    cases hx : p (key x) with
    | true =>
      rw [hx, if_pos rfl] at hone
      rw [List.filter_cons_of_pos (by simpa using hx), List.foldl_cons, hone]
    | false =>
      rw [hx, if_neg (by simp)] at hone
      rw [List.filter_cons_of_neg (by simp [hx]), hone]

theorem mem_keys_upsert {k k' : κ} {b : β} {groups : List (κ × β)} :
    k' ∈ (upsert op k b groups).map Prod.fst ↔ k' = k ∨ k' ∈ groups.map Prod.fst := by
  induction groups with
  | nil => simp [upsert]
  | cons g rest ih =>
    obtain ⟨k₁, b₁⟩ := g
    unfold upsert
    split
    next heq => simp [heq]
    next => rw [List.map_cons, List.mem_cons, ih, List.map_cons, List.mem_cons, or_left_comm]

theorem nodup_upsert {k : κ} {b : β} {groups : List (κ × β)}
    (h : (groups.map Prod.fst).Nodup) : ((upsert op k b groups).map Prod.fst).Nodup := by
  induction groups with
  | nil => simp [upsert]
  | cons g rest ih =>
    obtain ⟨k₁, b₁⟩ := g
    rw [List.map_cons, List.nodup_cons] at h
    unfold upsert
    split
    next => exact List.nodup_cons.mpr h
    next hne =>
      refine List.nodup_cons.mpr ⟨fun hmem => ?_, ih h.2⟩
      rcases mem_keys_upsert.mp hmem with heq | hold
      · exact hne heq
      · exact h.1 hold

theorem nodup_group (items : List α) : ((group key val op items).map Prod.fst).Nodup := by
  unfold group
  exact List.foldlRecOn (motive := fun groups : List (κ × β) => (groups.map Prod.fst).Nodup)
    items _
    List.nodup_nil fun groups h x _ => nodup_upsert h

theorem mem_keys_group {k : κ} (items : List α) :
    k ∈ (group key val op items).map Prod.fst ↔ ∃ x ∈ items, key x = k := by
  unfold group
  suffices h : ∀ groups : List (κ × β),
      k ∈ (items.foldl (fun gs x => upsert op (key x) (val x) gs) groups).map Prod.fst ↔
        (∃ x ∈ items, key x = k) ∨ k ∈ groups.map Prod.fst by
    simpa using h []
  induction items with
  | nil => simp
  | cons x items ih =>
    intro groups
    rw [List.foldl_cons, ih, mem_keys_upsert, List.exists_mem_cons_iff, eq_comm (a := k), or_assoc,
      or_left_comm]

theorem tally_upsert {f : β → Nat} (hop : ∀ a b, f (op a b) = f a + f b) (k : κ) (b : β)
    (groups : List (κ × β)) :
    tally (fun g => f g.2) (upsert op k b groups) = tally (fun g => f g.2) groups + f b := by
  induction groups with
  | nil => simp [upsert]
  | cons g rest ih =>
    obtain ⟨k', b'⟩ := g
    unfold upsert
    split
    · simp only [tally_cons, hop]
      omega
    · simp only [tally_cons, ih]
      omega

theorem tally_group {f : β → Nat} (hop : ∀ a b, f (op a b) = f a + f b) (items : List α) :
    tally (fun g => f g.2) (group key val op items) = tally (fun x => f (val x)) items := by
  unfold group
  suffices h : ∀ groups : List (κ × β),
      tally (fun g => f g.2) (items.foldl (fun gs x => upsert op (key x) (val x) gs) groups) =
        tally (fun g => f g.2) groups + tally (fun x => f (val x)) items by
    simpa using h []
  induction items with
  | nil => simp
  | cons x items ih =>
    intro groups
    rw [List.foldl_cons, ih, tally_upsert hop, tally_cons]
    omega

theorem filter_key_of_nodup {groups : List (κ × β)} (h : (groups.map Prod.fst).Nodup) {g : κ × β}
    (hg : g ∈ groups) : (groups.filter fun g' => g'.1 = g.1) = [g] := by
  induction groups with
  | nil => cases hg
  | cons g' rest ih =>
    rw [List.map_cons, List.nodup_cons] at h
    rcases List.mem_cons.mp hg with rfl | hg
    · rw [List.filter_cons_of_pos (by simp), List.filter_eq_nil_iff.mpr]
      intro g'' hg'' hkey
      exact h.1 (List.mem_map.mpr ⟨g'', hg'', of_decide_eq_true hkey⟩)
    · have hne : g'.1 ≠ g.1 := fun heq => h.1 (List.mem_map.mpr ⟨g, hg, heq.symm⟩)
      rw [List.filter_cons_of_neg (by simpa using hne), ih h.2 hg]

theorem value_of_mem_group {f : β → Nat} (hop : ∀ a b, f (op a b) = f a + f b) {items : List α}
    {g : κ × β} (hg : g ∈ group key val op items) :
    f g.2 = tally (fun x => f (val x)) (items.filter fun x => key x = g.1) := by
  have hone : group key val op (items.filter fun x => key x = g.1) = [g] := by
    rw [group_filter (fun k => decide (k = g.1)), filter_key_of_nodup (nodup_group items) hg]
  calc f g.2
    _ = tally (fun g => f g.2) [g] := by rw [tally_cons, tally_nil, Nat.add_zero]
    _ = tally (fun g => f g.2) (group key val op (items.filter fun x => key x = g.1)) := by
        rw [hone]
    _ = tally (fun x => f (val x)) (items.filter fun x => key x = g.1) := tally_group hop _
