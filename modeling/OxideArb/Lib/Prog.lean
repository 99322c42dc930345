import Mathlib.Data.List.Basic

/-!
# Programs over a state, fed by answers of the environment

A program `Prog ι σ ε α` works on a state, takes the answers of its environment from a list, and
ends with a value or an error; a statement about all lists is one about all environments.
`Spec m P Q E`: started in `P`, the program ends with a value in `Q` or an error in `E`.
-/

/-- A program that reads answers `ι`, works on a state `σ` and may end with an error. -/
def Prog (ι σ ε α : Type) := σ → List ι → Except ε α × σ × List ι

namespace Prog

variable {ι σ ε δ α β : Type}

instance : Monad (Prog ι σ ε) where
  pure a := fun s is => (.ok a, s, is)
  bind m f := fun s is =>
    match m s is with
    | (.ok a, s', is') => f a s' is'
    | (.error e, s', is') => (.error e, s', is')

def throw (e : ε) : Prog ι σ ε α := fun s is => (.error e, s, is)

def next [Inhabited ι] : Prog ι σ ε ι := fun s is => (.ok (is.headD default), s, is.tail)

def act (f : σ → Except ε α × σ) : Prog ι σ ε α := fun s is => ((f s).1, (f s).2, is)

def modify (f : σ → σ) : Prog ι σ ε Unit := act fun s => (.ok (), f s)

/-- Hand the errors that `sel` selects over as values; the others end the program. -/
def attempt (sel : ε → Option δ) (m : Prog ι σ ε α) : Prog ι σ ε (Except δ α) := fun s is =>
  match m s is with
  | (.ok a, s', is') => (.ok (.ok a), s', is')
  | (.error e, s', is') =>
    match sel e with
    | some d => (.ok (.error d), s', is')
    | none => (.error e, s', is')

/-- Run a program for each element of a list, up to the first error. -/
def forEach : List α → (α → Prog ι σ ε Unit) → Prog ι σ ε Unit
  | [], _ => pure ()
  | a :: as, f => do
    f a
    forEach as f

/-- The elements for which the loop starts the program. -/
def started : List α → (α → Prog ι σ ε Unit) → σ → List ι → List α
  | [], _, _, _ => []
  | a :: as, f, s, is => a ::
      match f a s is with
      | (.ok _, s', is') => started as f s' is'
      | (.error _, _, _) => []

theorem forEach_cons (a : α) (as : List α) (f : α → Prog ι σ ε Unit) (s : σ) (is : List ι) :
    forEach (a :: as) f s is = match f a s is with
      | (.ok _, s', is') => forEach as f s' is'
      | (.error e, s', is') => (.error e, s', is') := by
  change (f a >>= fun _ => forEach as f) s is = _
  rcases hrun : f a s is with ⟨_ | _, s', is'⟩ <;> simp only [bind, hrun]

theorem forEach_started (as : List α) (f : α → Prog ι σ ε Unit) (s : σ) (is : List ι) :
    forEach (started as f s is) f s is = forEach as f s is := by
  induction as generalizing s is with
  | nil => rfl
  | cons a as ih =>
    simp only [started, forEach_cons]
    rcases f a s is with ⟨_ | _, s', is'⟩
    · rfl
    · exact ih s' is'

/-- Every element is started exactly when none before the last one fails. -/
theorem started_eq_self_iff (as : List α) (f : α → Prog ι σ ε Unit) (s : σ) (is : List ι) :
    started as f s is = as ↔ (forEach as.dropLast f s is).1 = .ok () := by
  induction as generalizing s is with
  | nil => exact iff_of_true rfl rfl
  | cons a as ih =>
    cases as with
    | nil =>
      simp only [started]
      rcases f a s is with ⟨_ | _, s', is'⟩ <;> exact iff_of_true rfl rfl
    | cons b bs =>
      rw [List.dropLast_cons_cons, forEach_cons, started]
      rcases f a s is with ⟨_ | _, s', is'⟩
      · simp
      · rw [List.cons_inj_right]
        exact ih s' is'

/-! ## The program logic -/

/-- From `P`, the program ends with a value in `Q` or with an error in `E`. -/
def Spec (m : Prog ι σ ε α) (P : σ → Prop) (Q : α → σ → Prop) (E : ε → σ → Prop) : Prop :=
  ∀ s is, P s → match m s is with
    | (.ok a, s', _) => Q a s'
    | (.error e, s', _) => E e s'

variable {P P' : σ → Prop} {Q Q' : α → σ → Prop} {E E' : ε → σ → Prop}

theorem Spec.pre {m : Prog ι σ ε α} (h : Spec m P Q E) (hP : ∀ s, P' s → P s) : Spec m P' Q E :=
  fun s is hs => h s is (hP s hs)

theorem Spec.post {m : Prog ι σ ε α} (h : Spec m P Q E) (hQ : ∀ a s, Q a s → Q' a s)
    (hE : ∀ e s, E e s → E' e s) : Spec m P Q' E' := by
  intro s is hs
  have hm := h s is hs
  revert hm
  rcases m s is with ⟨_ | _, _, _⟩
  · exact hE _ _
  · exact hQ _ _

theorem Spec.of_and {m : Prog ι σ ε α} {p : Prop} (h : p → Spec m P Q E) :
    Spec m (fun s => p ∧ P s) Q E :=
  fun s is hs => h hs.1 s is hs.2

theorem Spec.pure {a : α} (h : ∀ s, P s → Q a s) : Spec (pure a : Prog ι σ ε α) P Q E :=
  fun s _ hs => h s hs

theorem Spec.throw {e : ε} (h : ∀ s, P s → E e s) : Spec (throw e : Prog ι σ ε α) P Q E :=
  fun s _ hs => h s hs

theorem Spec.bind {m : Prog ι σ ε β} {f : β → Prog ι σ ε α} {R : β → σ → Prop}
    (hm : Spec m P R E) (hf : ∀ b, Spec (f b) (R b) Q E) : Spec (m >>= f) P Q E := by
  intro s is hs
  have h := hm s is hs
  change match (match m s is with
    | (.ok b, s', is') => f b s' is'
    | (.error e, s', is') => (.error e, s', is')) with
    | (.ok a, s', _) => Q a s'
    | (.error e, s', _) => E e s'
  revert h
  rcases m s is with ⟨e | b, s', is'⟩
  · exact id
  · exact hf b s' is'

theorem Spec.next [Inhabited ι] {Q : ι → σ → Prop} (h : ∀ a s, P s → Q a s) :
    Spec (next : Prog ι σ ε ι) P Q E :=
  fun s _ hs => h _ s hs

theorem Spec.act {f : σ → Except ε α × σ}
    (h : ∀ s, P s → match f s with | (.ok a, s') => Q a s' | (.error e, s') => E e s') :
    Spec (act f : Prog ι σ ε α) P Q E := by
  intro s is hs
  have hf := h s hs
  simp only [Prog.act]
  revert hf
  rcases f s with ⟨_ | _, _⟩ <;> exact id

theorem Spec.modify {f : σ → σ} {Q : Unit → σ → Prop} (h : ∀ s, P s → Q () (f s)) :
    Spec (modify f : Prog ι σ ε Unit) P Q E :=
  Spec.act h

theorem Spec.attempt {sel : ε → Option δ} {m : Prog ι σ ε α} {Q : Except δ α → σ → Prop}
    (h : Spec m P (fun a => Q (.ok a))
      (fun e s => match sel e with | some d => Q (.error d) s | none => E e s)) :
    Spec (attempt sel m) P Q E := by
  intro s is hs
  have hm := h s is hs
  unfold Prog.attempt
  revert hm
  rcases m s is with ⟨e | a, s', is'⟩
  · dsimp only
    cases sel e <;> exact id
  · exact id

theorem Spec.forEach {as : List α} {f : α → Prog ι σ ε Unit}
    (h : ∀ a ∈ as, Spec (f a) P (fun _ => P) E) : Spec (forEach as f) P (fun _ => P) E := by
  induction as with
  | nil => exact Spec.pure fun _ hs => hs
  | cons a as ih =>
    refine Spec.bind (h a List.mem_cons_self) fun _ => ?_
    exact ih fun b hb => h b (List.mem_cons_of_mem a hb)

end Prog

/-! ## Logs -/

namespace Log

variable {η : Type*}

/-- Every event of the log stands in `R` to the events before it. -/
def Every (R : η → List η → Prop) : List η → Prop
  | [] => True
  | e :: earlier => R e earlier ∧ Every R earlier

instance Every.decidable (R : η → List η → Prop) [∀ e l, Decidable (R e l)] :
    ∀ log, Decidable (Every R log)
  | [] => isTrue trivial
  | e :: earlier =>
    have := Every.decidable R earlier
    inferInstanceAs (Decidable (R e earlier ∧ Every R earlier))

theorem Every.earlier {R : η → List η → Prop} {e : η} {log : List η} (h : Every R (e :: log)) :
    Every R log :=
  h.2

theorem Every.newest {R : η → List η → Prop} {e : η} {log : List η} (h : Every R (e :: log)) :
    R e log :=
  h.1

end Log
