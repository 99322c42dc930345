import Mathlib.Logic.Function.Basic

/-!
# Runs of a step function

A system is a partial step function `next : σ → ι → Option σ`; a run takes the labels of a list in
order (`exec`). `Meets` says that every step of a run meets a condition on its state and label.
`exec_invariant` is the induction rule of the safety proofs.
-/

namespace Transition

variable {σ ι : Type*} (next : σ → ι → Option σ)

def exec : σ → List ι → Option σ
  | s, [] => some s
  | s, i :: is => (next s i).bind (exec · is)

/-- Every step of the run from `s` meets `ok` in the state it is taken from. -/
def Meets (ok : σ → ι → Prop) : σ → List ι → Prop
  | _, [] => True
  | s, i :: is => ok s i ∧
      match next s i with
      | none => True
      | some t => Meets ok t is

instance Meets.decidable (ok : σ → ι → Prop) [∀ s i, Decidable (ok s i)] :
    ∀ (s : σ) (is : List ι), Decidable (Meets next ok s is)
  | _, [] => isTrue trivial
  | s, i :: is =>
    match h : next s i with
    | none => decidable_of_iff (ok s i) (by simp [Meets, h])
    | some t =>
      have := Meets.decidable ok t is
      decidable_of_iff (ok s i ∧ Meets next ok t is) (by simp [Meets, h])

variable {next}

theorem exec_cons {s u : σ} {i : ι} {is : List ι} (h : exec next s (i :: is) = some u) :
    ∃ t, next s i = some t ∧ exec next t is = some u := by
  simp only [exec, Option.bind_eq_some_iff] at h
  exact h

theorem Meets.head {ok : σ → ι → Prop} {s : σ} {i : ι} {is : List ι}
    (h : Meets next ok s (i :: is)) : ok s i :=
  h.1

theorem Meets.tail {ok : σ → ι → Prop} {s t : σ} {i : ι} {is : List ι}
    (h : Meets next ok s (i :: is)) (ht : next s i = some t) : Meets next ok t is := by
  have h2 := h.2
  rw [ht] at h2
  exact h2

/-- An invariant of the admissible steps holds at the end of every run whose
steps are all admissible. -/
theorem exec_invariant {ok : σ → ι → Prop} (Inv : σ → Prop)
    (hstep : ∀ s i t, Inv s → ok s i → next s i = some t → Inv t) :
    ∀ {is : List ι} {s u : σ}, Inv s → Meets next ok s is → exec next s is = some u → Inv u := by
  intro is
  induction is with
  | nil =>
    intro s u hs _ h
    simp only [exec, Option.some.injEq] at h
    exact h ▸ hs
  | cons i is ih =>
    intro s u hs hm h
    obtain ⟨t, ht, hu⟩ := exec_cons h
    exact ih (hstep s i t hs hm.head ht) (hm.tail ht) hu

theorem exec_preserves (Inv : σ → Prop) (hstep : ∀ s i t, Inv s → next s i = some t → Inv t) :
    ∀ {is : List ι} {s u : σ}, Inv s → exec next s is = some u → Inv u := by
  intro is
  induction is with
  | nil =>
    intro s u hs h
    simp only [exec, Option.some.injEq] at h
    exact h ▸ hs
  | cons i is ih =>
    intro s u hs h
    obtain ⟨t, ht, hu⟩ := exec_cons h
    exact ih (hstep s i t hs ht) hu

/-- A fact that a step keeps exactly when it meets `ok` holds at the end of a run
exactly when it holds at the start and every step meets `ok`. -/
theorem exec_iff_meets {ok : σ → ι → Prop} (Inv P : σ → Prop)
    (hstep : ∀ s i t, Inv s → next s i = some t → Inv t)
    (hiff : ∀ s i t, Inv s → next s i = some t → (P t ↔ P s ∧ ok s i)) :
    ∀ {is : List ι} {s u : σ}, Inv s → exec next s is = some u →
      (P u ↔ P s ∧ Meets next ok s is) := by
  intro is
  induction is with
  | nil =>
    intro s u _ h
    simp only [exec, Option.some.injEq] at h
    subst h
    exact (and_iff_left trivial).symm
  | cons i is ih =>
    intro s u hs h
    obtain ⟨t, ht, hu⟩ := exec_cons h
    rw [ih (hstep s i t hs ht) hu, hiff s i t hs ht, and_assoc]
    simp only [Meets, ht]

theorem exec_total (f : σ → ι → σ) (s : σ) (is : List ι) :
    exec (fun s i => some (f s i)) s is = some (is.foldl f s) := by
  induction is generalizing s with
  | nil => rfl
  | cons i is ih => exact ih (f s i)

theorem meets_append {ok : σ → ι → Prop} {f : σ → ι → σ} {is js : List ι} {s : σ} :
    Meets (fun s i => some (f s i)) ok s (is ++ js) ↔
      Meets (fun s i => some (f s i)) ok s is ∧
        Meets (fun s i => some (f s i)) ok (is.foldl f s) js := by
  induction is generalizing s with
  | nil => exact (and_iff_right trivial).symm
  | cons i is ih => exact (and_congr_right fun _ => ih).trans and_assoc.symm

theorem foldl_invariant {ok : σ → ι → Prop} {f : σ → ι → σ} (Inv : σ → Prop)
    (hstep : ∀ s i, Inv s → ok s i → Inv (f s i)) {is : List ι} {s : σ} (hs : Inv s)
    (hm : Meets (fun s i => some (f s i)) ok s is) : Inv (is.foldl f s) := by
  refine exec_invariant Inv ?_ hs hm (exec_total f s is)
  intro s i t hi hok ht
  rw [← Option.some.inj ht]
  exact hstep s i hi hok

/-- `P` holds in every state of the run of a total step function. -/
def Along (f : σ → ι → σ) (P : σ → Prop) : σ → List ι → Prop
  | s, [] => P s
  | s, i :: is => P s ∧ Along f P (f s i) is

theorem Along.start {f : σ → ι → σ} {P : σ → Prop} {s : σ} {is : List ι} (h : Along f P s is) :
    P s := by
  cases is with
  | nil => exact h
  | cons i is => exact h.1

theorem Along.last {f : σ → ι → σ} {P : σ → Prop} {is : List ι} {s : σ}
    (h : Along f P s is) : P (is.foldl f s) := by
  induction is generalizing s with
  | nil => exact h
  | cons i is ih => exact ih h.2

theorem along_of_meets {ok : σ → ι → Prop} {f : σ → ι → σ} {P : σ → Prop} (Inv : σ → Prop)
    (hP : ∀ s, Inv s → P s) (hstep : ∀ s i, Inv s → ok s i → Inv (f s i)) :
    ∀ {is : List ι} {s : σ}, Inv s → Meets (fun s i => some (f s i)) ok s is →
      Along f P s is := by
  intro is
  induction is with
  | nil => exact fun hs _ => hP _ hs
  | cons i is ih => exact fun hs hm => ⟨hP _ hs, ih (hstep _ i hs hm.1) hm.2⟩

/-- When admissible steps keep an invariant that implies `P` and any other step taken
under the invariant breaks `P`, then `P` holds along a run exactly if all its steps
are admissible. -/
theorem along_iff_meets {ok : σ → ι → Prop} {f : σ → ι → σ} {P : σ → Prop} (Inv : σ → Prop)
    (hP : ∀ s, Inv s → P s) (hstep : ∀ s i, Inv s → ok s i → Inv (f s i))
    (hbreak : ∀ s i, Inv s → ¬ ok s i → ¬ P (f s i)) :
    ∀ {is : List ι} {s : σ}, Inv s →
      (Along f P s is ↔ Meets (fun s i => some (f s i)) ok s is) := by
  intro is s hs
  refine ⟨fun h => ?_, along_of_meets Inv hP hstep hs⟩
  induction is generalizing s with
  | nil => trivial
  | cons i is ih =>
    have hok : ok s i := by
      by_contra hno
      exact hbreak s i hs hno h.2.start
    exact ⟨hok, ih (hstep s i hs hok) h.2⟩

end Transition
