import Mathlib.Data.List.Chain
import Mathlib.Data.List.Nodup
import Mathlib.Data.List.Sort

/-!
# Lists that change at one place, and loops over lists

What is at an index after one element has been replaced, and what a loop gathers.
-/

variable {α : Type*}

namespace List

theorem getElem?_set_cases {l : List α} {i j : Nat} {a b : α} (h : (l.set i a)[j]? = some b) :
    j = i ∧ b = a ∨ j ≠ i ∧ l[j]? = some b := by
  by_cases hji : j = i
  · subst hji
    rw [getElem?_set_self'] at h
    obtain ⟨-, -, rfl⟩ := Option.map_eq_some_iff.mp h
    exact .inl ⟨rfl, rfl⟩
  · rw [getElem?_set_ne (Ne.symm hji)] at h
    exact .inr ⟨hji, h⟩

theorem isChain_congr {L R R' : α → α → Prop} (h : ∀ a b, L a b → (R a b ↔ R' a b)) {l : List α}
    (hl : l.IsChain L) : l.IsChain R ↔ l.IsChain R' := by
  induction hl with
  | nil => exact iff_of_true .nil .nil
  | singleton a => exact iff_of_true (.singleton a) (.singleton a)
  | cons_cons hab _ ih => rw [isChain_cons_cons, isChain_cons_cons, h _ _ hab, ih]

theorem foldl_of_or {σ : Type*} {f : σ → α → σ} (P : σ → Prop) {adds : α → Prop}
    (h : ∀ s a, P s ∨ adds a → P (f s a)) {l : List α} {s : σ} (hs : P s ∨ ∃ a ∈ l, adds a) :
    P (l.foldl f s) := by
  induction l generalizing s with
  | nil => simpa using hs
  | cons a l ih =>
    refine ih ?_
    rcases hs with hs | ⟨b, hb, hadds⟩
    · exact .inl (h s a (.inl hs))
    · rcases mem_cons.mp hb with rfl | hb
      · exact .inl (h s b (.inr hadds))
      · exact .inr ⟨b, hb, hadds⟩

theorem or_of_foldl {σ : Type*} {f : σ → α → σ} (P : σ → Prop) {adds : α → Prop}
    {l : List α} {s : σ} (hs : P (l.foldl f s)) (h : ∀ s a, P (f s a) → P s ∨ adds a) :
    P s ∨ ∃ a ∈ l, adds a := by
  induction l generalizing s with
  | nil => exact .inl hs
  | cons a l ih =>
    rcases ih hs with hs | ⟨b, hb, hadds⟩
    · exact (h s a hs).imp_right fun hadds => ⟨a, mem_cons_self, hadds⟩
    · exact .inr ⟨b, mem_cons_of_mem a hb, hadds⟩

end List
