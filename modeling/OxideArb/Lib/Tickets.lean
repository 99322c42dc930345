import Mathlib.Logic.Equiv.Basic
import OxideArb.Lib.Prog

/-!
# Tickets

A copy of a changing state is known by a ticket, the number of the step it was taken in. What has
been written last is the newest copy written if every write takes the oldest ticket in flight
(`Tickets.Kept.move`).
-/

/-- Tickets are numbered by the step they are issued in. -/
structure Tickets where
  steps : Nat
  inFlight : List Nat
  slot : Option Nat
  written : List Nat

namespace Tickets

def advance (s : Tickets) : Tickets := { s with steps := s.steps + 1 }

/-- One step of a task, with the ticket it holds before and after. -/
inductive Move (s : Tickets) : Tickets → Option Nat → Option Nat → Prop
  | still (held : Option Nat) : Move s s held held
  | issue : Move s { s with inFlight := s.steps :: s.inFlight } none (some s.steps)
  | write (t : Nat) :
      Move s { s with inFlight := s.inFlight.filter (· ≠ t), written := t :: s.written }
        (some t) none
  | discard (t : Nat) : Move s { s with inFlight := s.inFlight.filter (· ≠ t) } (some t) none
  /-- A new ticket for the slot; the one in it is dropped. -/
  | offer :
      Move s
        { s with
          inFlight := s.steps :: s.inFlight.filter (fun t => s.slot ≠ some t)
          slot := some s.steps } none none
  | fetch : Move s { s with slot := none } none s.slot

/-- No write is older than one before it. -/
def InOrder (written : List Nat) : Prop :=
  Log.Every (fun t earlier => ∀ u ∈ earlier, u ≤ t) written

instance (written : List Nat) : Decidable (InOrder written) :=
  inferInstanceAs (Decidable (Log.Every _ written))

/-- Each holder's ticket is in flight and no one else's, and nothing in flight is older than
what has been written. -/
structure Kept {ο : Type} (holds : ο → Option Nat) (s : Tickets) : Prop where
  inFlight : ∀ o t, holds o = some t → t ∈ s.inFlight
  unique : ∀ o o' t, holds o = some t → holds o' = some t → o = o'
  issued : ∀ t ∈ s.inFlight, t ≤ s.steps
  newer : ∀ t ∈ s.written, ∀ u ∈ s.inFlight, t ≤ u
  past : ∀ t ∈ s.written, t ≤ s.steps
  inOrder : InOrder s.written

namespace Kept

variable {ο : Type} {holds : ο → Option Nat} {s : Tickets}

theorem start (h : ∀ o, holds o = none) (steps : Nat) :
    Kept holds { steps, inFlight := [], slot := none, written := [] } where
  inFlight := by simp [h]
  unique := by simp [h]
  issued := by simp
  newer := by simp
  past := by simp
  inOrder := trivial

theorem advance (h : Kept holds s) : Kept holds s.advance where
  inFlight := h.inFlight
  unique := h.unique
  issued := fun t ht => Nat.le_succ_of_le (h.issued t ht)
  newer := h.newer
  past := fun t ht => Nat.le_succ_of_le (h.past t ht)
  inOrder := h.inOrder

theorem setSlot (h : Kept holds s) (held : Option Nat) :
    Kept holds { s with slot := held } where
  inFlight := h.inFlight
  unique := h.unique
  issued := h.issued
  newer := h.newer
  past := h.past
  inOrder := h.inOrder

theorem permute (h : Kept holds s) (e : ο ≃ ο) : Kept (holds ∘ e) s where
  inFlight := fun o t ht => h.inFlight (e o) t ht
  unique := fun o o' t ht ht' => e.injective (h.unique (e o) (e o') t ht ht')
  issued := h.issued
  newer := h.newer
  past := h.past
  inOrder := h.inOrder

variable [DecidableEq ο]

theorem issue (h : Kept holds s) (o : ο) :
    Kept (Function.update holds o (some (s.steps + 1)))
      { s.advance with inFlight := (s.steps + 1) :: s.inFlight } where
  inFlight := by
    intro o' t ht
    by_cases ho : o' = o
    · subst ho
      rw [Function.update_self] at ht
      exact List.mem_cons.mpr (.inl (Option.some.inj ht).symm)
    · rw [Function.update_of_ne ho] at ht
      exact List.mem_cons_of_mem _ (h.inFlight o' t ht)
  unique := by
    -- a ticket that was held before is not the new one
    have hold : ∀ o' t, holds o' = some t → t ≠ s.steps + 1 := fun o' t ht =>
      Nat.ne_of_lt (Nat.lt_succ_of_le (h.issued t (h.inFlight o' t ht)))
    intro o₁ o₂ t h₁ h₂
    by_cases ho₁ : o₁ = o <;> by_cases ho₂ : o₂ = o
    · rw [ho₁, ho₂]
    · subst ho₁
      rw [Function.update_self] at h₁
      rw [Function.update_of_ne ho₂] at h₂
      exact absurd (Option.some.inj h₁).symm (hold o₂ t h₂)
    · subst ho₂
      rw [Function.update_self] at h₂
      rw [Function.update_of_ne ho₁] at h₁
      exact absurd (Option.some.inj h₂).symm (hold o₁ t h₁)
    · rw [Function.update_of_ne ho₁] at h₁
      rw [Function.update_of_ne ho₂] at h₂
      exact h.unique o₁ o₂ t h₁ h₂
  issued := by
    intro t ht
    rcases List.mem_cons.mp ht with rfl | ht
    · exact Nat.le_refl _
    · exact Nat.le_succ_of_le (h.issued t ht)
  newer := by
    intro t ht u hu
    rcases List.mem_cons.mp hu with rfl | hu
    · exact Nat.le_succ_of_le (h.past t ht)
    · exact h.newer t ht u hu
  past := fun t ht => Nat.le_succ_of_le (h.past t ht)
  inOrder := h.inOrder

theorem release (h : Kept holds s) {o : ο} {t : Nat} (ht : holds o = some t) :
    Kept (Function.update holds o none) { s with inFlight := s.inFlight.filter (· ≠ t) } where
  inFlight := by
    intro o' u hu
    have ho : o' ≠ o := by
      rintro rfl
      rw [Function.update_self] at hu
      cases hu
    rw [Function.update_of_ne ho] at hu
    have hne : u ≠ t := by
      rintro rfl
      exact ho (h.unique o' o u hu ht)
    exact List.mem_filter.mpr ⟨h.inFlight o' u hu, by simpa using hne⟩
  unique := by
    intro o₁ o₂ u h₁ h₂
    have hold : ∀ o', Function.update holds o none o' = some u → holds o' = some u := by
      intro o' hu
      by_cases ho : o' = o
      · subst ho
        rw [Function.update_self] at hu
        cases hu
      · rwa [Function.update_of_ne ho] at hu
    exact h.unique o₁ o₂ u (hold o₁ h₁) (hold o₂ h₂)
  issued := fun u hu => h.issued u (List.mem_of_mem_filter hu)
  newer := fun u hu v hv => h.newer u hu v (List.mem_of_mem_filter hv)
  past := h.past
  inOrder := h.inOrder

theorem write (h : Kept holds s) {o : ο} {t : Nat} (ht : holds o = some t)
    (holdest : ∀ u ∈ s.inFlight, t ≤ u) :
    Kept (Function.update holds o none)
      { s with inFlight := s.inFlight.filter (· ≠ t), written := t :: s.written } where
  inFlight := (h.release ht).inFlight
  unique := (h.release ht).unique
  issued := (h.release ht).issued
  newer := by
    intro u hu v hv
    have hv' := List.mem_of_mem_filter hv
    rcases List.mem_cons.mp hu with rfl | hu
    · exact holdest v hv'
    · exact h.newer u hu v hv'
  past := by
    intro u hu
    rcases List.mem_cons.mp hu with rfl | hu
    · exact h.issued u (h.inFlight o u ht)
    · exact h.past u hu
  inOrder := ⟨fun u hu => h.newer u hu t (h.inFlight o t ht), h.inOrder⟩

end Kept

/-! ## Tasks and the slot -/

variable {κ : Type} [DecidableEq κ]

/-- The holders: the tasks, and the slot. -/
def holds (tasks : κ → Option Nat) (slot : Option Nat) (o : Option κ) : Option Nat :=
  o.elim slot tasks

theorem holds_update (tasks : κ → Option Nat) (slot : Option Nat) (j : κ)
    (held : Option Nat) :
    holds (Function.update tasks j held) slot =
      Function.update (holds tasks slot) (some j) held := by
  funext o
  cases o with
  | none => rfl
  | some i => by_cases hi : i = j <;> simp [holds, Function.update, hi]

theorem holds_slot (tasks : κ → Option Nat) (slot held : Option Nat) :
    holds tasks held = Function.update (holds tasks slot) none held := by
  funext o
  cases o <;> rfl

theorem holds_fetch {tasks : κ → Option Nat} {j : κ} (hj : tasks j = none)
    (slot : Option Nat) :
    holds (Function.update tasks j slot) none =
      holds tasks slot ∘ Equiv.swap none (some j) := by
  funext o
  cases o with
  | none => simp [holds, hj]
  | some i =>
    by_cases hi : i = j
    · subst hi
      simp [holds]
    · simp [holds, hi, Equiv.swap_apply_of_ne_of_ne]

theorem Kept.drop {tasks : κ → Option Nat} {s : Tickets}
    (h : Kept (holds tasks s.slot) s) :
    Kept (Function.update (holds tasks s.slot) none none)
      { s with inFlight := s.inFlight.filter fun t => s.slot ≠ some t } := by
  rcases hd : s.slot with _ | t
  · have hall : s.inFlight.filter (fun t => (none : Option Nat) ≠ some t) = s.inFlight := by simp
    have hnone : Function.update (holds tasks none) none none = holds tasks none :=
      Function.update_eq_self none _
    rw [hall, hnone, ← hd]
    exact h
  · have hrest : s.inFlight.filter (fun u => some t ≠ some u) = s.inFlight.filter (· ≠ t) := by
      simp [eq_comm]
    rw [hrest, ← hd]
    exact h.release hd

/-- A step keeps the tickets in order, if what it writes is the oldest in flight. -/
theorem Kept.move {tasks : κ → Option Nat} {s s' : Tickets} {j : κ} {held : Option Nat}
    (h : Kept (holds tasks s.slot) s) (hmove : Move s.advance s' (tasks j) held)
    (holdest : ∀ t, s'.written = t :: s.written → ∀ u ∈ s.inFlight, t ≤ u) :
    Kept (holds (Function.update tasks j held) s'.slot) s' := by
  generalize hbefore : tasks j = before at hmove
  cases hmove with
  | still =>
    rw [← hbefore, Function.update_eq_self]
    exact h.advance
  | issue =>
    rw [holds_update]
    exact h.issue (some j)
  | write t =>
    rw [holds_update]
    exact h.advance.write hbefore (holdest t rfl)
  | discard t =>
    rw [holds_update]
    exact h.advance.release hbefore
  | offer =>
    rw [← hbefore, Function.update_eq_self]
    change Kept (holds tasks (some (s.steps + 1))) _
    rw [holds_slot tasks s.slot]
    have hkept := (h.drop.issue none).setSlot (some (s.steps + 1))
    rw [Function.update_idem] at hkept
    exact hkept
  | fetch =>
    rw [holds_fetch hbefore]
    exact (h.advance.permute (Equiv.swap none (some j))).setSlot none

end Tickets
