import Mathlib.Data.List.MinMax

/-!
# Heaps with lazy deletion

A heap is the list of its keys, and its top a greatest one under `order`. Keys die without
leaving the heap; the dead ones fall away when they come to the top.
-/

namespace LazyHeap

variable {κ ω : Type*} [DecidableEq κ] [LinearOrder ω] (order : κ → ω) (live : κ → Bool)

/-- Drop dead keys until the top is alive. -/
def skim : Nat → List κ → List κ
  | 0, heap => heap
  | fuel + 1, heap =>
    match heap.argmax order with
    | none => heap
    | some top => if live top then heap else skim fuel (heap.erase top)

/-- Pop keys until one is alive. -/
def popLive : Nat → List κ → Option κ × List κ
  | 0, heap => (none, heap)
  | fuel + 1, heap =>
    match heap.argmax order with
    | none => (none, heap)
    | some top =>
      if live top then (some top, heap.erase top) else popLive fuel (heap.erase top)

variable {order live} {fuel : Nat} {heap rest : List κ} {top : κ}

theorem perm_erase_top (h : heap.argmax order = some top) : heap.Perm (top :: heap.erase top) :=
  List.perm_cons_erase (List.argmax_mem h)

theorem length_erase_top (h : heap.argmax order = some top) :
    (heap.erase top).length + 1 = heap.length :=
  (perm_erase_top h).length_eq.symm

theorem filter_erase_dead (h : heap.argmax order = some top) (hdead : live top = false) :
    ((heap.erase top).filter live).Perm (heap.filter live) := by
  have hperm := (perm_erase_top h).filter live
  rw [List.filter_cons_of_neg (by rw [hdead]; exact Bool.false_ne_true)] at hperm
  exact hperm.symm

theorem skim_filter (fuel : Nat) (heap : List κ) :
    ((skim order live fuel heap).filter live).Perm (heap.filter live) := by
  induction fuel generalizing heap with
  | zero => exact .refl _
  | succ fuel ih =>
    unfold skim
    split
    · exact .refl _
    · rename_i top htop
      split
      · exact .refl _
      · rename_i hdead
        exact (ih _).trans (filter_erase_dead htop (Bool.eq_false_of_not_eq_true hdead))

theorem skim_sublist (fuel : Nat) (heap : List κ) :
    (skim order live fuel heap).Sublist heap := by
  induction fuel generalizing heap with
  | zero => exact .refl _
  | succ fuel ih =>
    unfold skim
    split
    · exact .refl _
    · split
      · exact .refl _
      · exact (ih _).trans List.erase_sublist

theorem skim_top (hfuel : heap.length ≤ fuel)
    (h : (skim order live fuel heap).argmax order = some top) : live top = true := by
  induction fuel generalizing heap with
  | zero =>
    rw [List.length_eq_zero_iff.mp (Nat.le_zero.mp hfuel)] at h
    cases h
  | succ fuel ih =>
    unfold skim at h
    split at h
    · rename_i hempty
      rw [hempty] at h
      cases h
    · rename_i first hfirst
      split at h
      · rename_i hlive
        rw [hfirst] at h
        cases h
        exact hlive
      · have hlength := length_erase_top hfirst
        exact ih (by omega) h

theorem popLive_none (hfuel : heap.length ≤ fuel)
    (h : popLive order live fuel heap = (none, rest)) : heap.filter live = [] ∧ rest = [] := by
  induction fuel generalizing heap with
  | zero =>
    cases h
    exact ⟨by rw [List.length_eq_zero_iff.mp (Nat.le_zero.mp hfuel)]; rfl,
      List.length_eq_zero_iff.mp (Nat.le_zero.mp hfuel)⟩
  | succ fuel ih =>
    unfold popLive at h
    split at h
    · rename_i hempty
      cases h
      rw [List.argmax_eq_none.mp hempty]
      exact ⟨rfl, rfl⟩
    · rename_i first hfirst
      split at h
      · cases h
      · rename_i hdead
        have hlength := length_erase_top hfirst
        obtain ⟨hnone, hrest⟩ := ih (by omega) h
        have hperm := filter_erase_dead hfirst (Bool.eq_false_of_not_eq_true hdead)
        rw [hnone] at hperm
        exact ⟨hperm.nil_eq.symm, hrest⟩

/-- What a pop takes: a greatest of the keys alive, and with it only dead ones. -/
structure Takes (order : κ → ω) (live : κ → Bool) (heap : List κ) (top : κ) (rest : List κ) :
    Prop where
  perm : (heap.filter live).Perm (top :: rest.filter live)
  greatest : ∀ key ∈ heap.filter live, order key ≤ order top
  sublist : rest.Sublist heap
  length : rest.length + 1 ≤ heap.length

theorem popLive_some (h : popLive order live fuel heap = (some top, rest)) :
    Takes order live heap top rest := by
  induction fuel generalizing heap with
  | zero => cases h
  | succ fuel ih =>
    unfold popLive at h
    split at h
    · cases h
    · rename_i first hfirst
      have hlength := length_erase_top hfirst
      split at h
      · rename_i hlive
        cases h
        constructor
        · have hperm := (perm_erase_top hfirst).filter live
          rwa [List.filter_cons_of_pos hlive] at hperm
        · exact fun key hkey => List.le_of_mem_argmax (List.mem_of_mem_filter hkey) hfirst
        · exact List.erase_sublist
        · exact hlength.le
      · rename_i hdead
        have hperm := filter_erase_dead hfirst (Bool.eq_false_of_not_eq_true hdead)
        have htakes := ih h
        exact ⟨hperm.symm.trans htakes.perm,
          fun key hkey => htakes.greatest key (hperm.mem_iff.mpr hkey),
          htakes.sublist.trans List.erase_sublist, by have := htakes.length; omega⟩

end LazyHeap
