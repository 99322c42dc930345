import Mathlib.Logic.Function.Basic
import OxideArb.Lib.Prog

/-!
# Routines that run concurrently

A routine is a program cut at its suspension points; a schedule interleaves the steps of several
(`System.run`). `Within R t` says that every step of `t` stands in `R`, `Carries` does so for
steps that move a value of the routine's own, and `Agree μ` compares two versions of a routine
on a part `μ` of the state.
-/

/-- A program that works on a shared state step by step and may be suspended in between. -/
inductive Routine (ι σ ε α : Type) : Type
  | done (result : Except ε α)
  | step (f : ι → σ → σ) (next : ι → σ → Routine ι σ ε α)

namespace Routine

variable {ι σ ε α β M : Type}

def bind : Routine ι σ ε α → (α → Routine ι σ ε β) → Routine ι σ ε β
  | done (.ok a), g => g a
  | done (.error e), _ => done (.error e)
  | step f next, g => step f fun i s => (next i s).bind g

instance : Monad (Routine ι σ ε) where
  pure a := done (.ok a)
  bind := bind

theorem bind_done (t : Routine ι σ ε α) : t.bind (fun a => done (.ok a)) = t := by
  induction t with
  | done r => cases r <;> rfl
  | step f next ih => exact congrArg (step f) (funext fun i => funext fun s => ih i s)

theorem bind_bind {γ : Type} (t : Routine ι σ ε α) (g : α → Routine ι σ ε β)
    (k : β → Routine ι σ ε γ) : (t.bind g).bind k = t.bind fun a => (g a).bind k := by
  induction t with
  | done r => cases r <;> rfl
  | step f next ih => exact congrArg (step f) (funext fun i => funext fun s => ih i s)

instance : LawfulMonad (Routine ι σ ε) :=
  LawfulMonad.mk' _ (fun t => t.bind_done) (fun _ _ => rfl) fun t g k => t.bind_bind g k

def throw (e : ε) : Routine ι σ ε α := done (.error e)

/-- One step, with a value computed from the state it is taken in. -/
def atomically (f : ι → σ → α × σ) : Routine ι σ ε α :=
  step (fun i s => (f i s).2) fun i s => done (.ok (f i s).1)

/-! ## Alone -/

/-- The routine run to its end with nothing in between. -/
def toProg [Inhabited ι] : Routine ι σ ε α → Prog ι σ ε α
  | done r => fun s is => (r, s, is)
  | step f next => fun s is =>
    (next (is.headD default) s).toProg (f (is.headD default) s) is.tail

/-- The state a routine leaves when it runs alone. -/
def exec [Inhabited ι] (t : Routine ι σ ε α) (is : List ι) (s : σ) : σ := (t.toProg s is).2.1

@[simp] theorem toProg_pure [Inhabited ι] (a : α) :
    (pure a : Routine ι σ ε α).toProg = pure a :=
  rfl

@[simp] theorem toProg_bind [Inhabited ι] (t : Routine ι σ ε α) (g : α → Routine ι σ ε β) :
    (t >>= g).toProg = t.toProg >>= fun a => (g a).toProg := by
  change (t.bind g).toProg = _
  induction t with
  | done r =>
    cases r with
    | ok a => rfl
    | error e => rfl
  | step f next ih =>
    funext s is
    exact congrFun (congrFun (ih (is.headD default) s) (f (is.headD default) s)) is.tail

theorem exec_atomically_bind [Inhabited ι] (f : ι → σ → α × σ) (g : α → Routine ι σ ε β)
    (is : List ι) (s : σ) :
    (atomically f >>= g).exec is s =
      (g (f (is.headD default) s).1).exec is.tail (f (is.headD default) s).2 :=
  rfl

theorem spec_atomically [Inhabited ι] {f : ι → σ → α × σ} {P : σ → Prop} {Q : α → σ → Prop}
    {E : ε → σ → Prop} (h : ∀ i s, P s → Q (f i s).1 (f i s).2) :
    Prog.Spec (atomically f : Routine ι σ ε α).toProg P Q E :=
  fun s _ hs => h _ s hs

theorem spec_exec [Inhabited ι] {t : Routine ι σ ε α} {P Q : σ → Prop}
    (h : Prog.Spec t.toProg P (fun _ => Q) (fun _ => Q)) (is : List ι) {s : σ} (hs : P s) :
    Q (t.exec is s) := by
  have hrun := h s is hs
  unfold exec
  revert hrun
  rcases t.toProg s is with ⟨_ | _, _, _⟩ <;> exact id

theorem spec_exec_ok [Inhabited ι] {t : Routine ι σ ε α} {P : σ → Prop} {Q : α → σ → Prop}
    {E : ε → σ → Prop} (h : Prog.Spec t.toProg P Q E) {is : List ι} {s : σ} {a : α}
    (hok : (t.toProg s is).1 = .ok a) (hs : P s) : Q a (t.exec is s) := by
  have hrun := h s is hs
  unfold exec
  rcases hresult : t.toProg s is with ⟨r, s', is'⟩
  rw [hresult] at hrun hok
  subst hok
  exact hrun

/-! ## What the steps of a routine can do -/

/-- One step: the state after it and the rest of the routine. A routine that has ended
stays as it is. -/
def advance : Routine ι σ ε α → ι → σ → σ × Routine ι σ ε α
  | done r, _, s => (s, done r)
  | step f next, i, s => (f i s, next i s)

/-- Every step of the routine stands in `R`, with the answer it reads. -/
def Within (R : ι → σ → σ → Prop) : Routine ι σ ε α → Prop
  | done _ => True
  | step f next => ∀ i s, R i s (f i s) ∧ (next i s).Within R

section Within

variable {R : ι → σ → σ → Prop}

theorem within_pure (a : α) : (pure a : Routine ι σ ε α).Within R := trivial

theorem within_throw (e : ε) : (throw e : Routine ι σ ε α).Within R := trivial

theorem within_atomically {f : ι → σ → α × σ} (h : ∀ i s, R i s (f i s).2) :
    (atomically f : Routine ι σ ε α).Within R :=
  fun i s => ⟨h i s, trivial⟩

theorem within_bind {t : Routine ι σ ε α} {g : α → Routine ι σ ε β} (ht : t.Within R)
    (hg : ∀ a, (g a).Within R) : (t >>= g).Within R := by
  change (t.bind g).Within R
  induction t with
  | done r =>
    cases r with
    | ok a => exact hg a
    | error e => trivial
  | step f next ih => exact fun i s => ⟨(ht i s).1, ih i s (ht i s).2⟩

theorem Within.mono {R' : ι → σ → σ → Prop} (h : ∀ i s s', R i s s' → R' i s s')
    {t : Routine ι σ ε α} (ht : t.Within R) : t.Within R' := by
  induction t with
  | done r => trivial
  | step f next ih => exact fun i s => ⟨h i s _ (ht i s).1, ih i s (ht i s).2⟩

theorem Within.advance {t : Routine ι σ ε α} (ht : t.Within R) (i : ι) (s : σ) :
    ((t.advance i s).1 = s ∨ R i s (t.advance i s).1) ∧ (t.advance i s).2.Within R := by
  cases t with
  | done r => exact ⟨.inl rfl, trivial⟩
  | step f next => exact ⟨.inr (ht i s).1, (ht i s).2⟩

theorem Within.spec [Inhabited ι] {Inv : σ → Prop}
    (hstep : ∀ i s s', Inv s → R i s s' → Inv s') {t : Routine ι σ ε α} (ht : t.Within R) :
    Prog.Spec t.toProg Inv (fun _ => Inv) (fun _ => Inv) := by
  intro s is hs
  induction t generalizing is s with
  | done r => cases r <;> exact hs
  | step f next ih =>
    have h := ht (is.headD default) s
    exact ih _ _ h.2 _ is.tail (hstep _ _ _ hs h.1)

theorem Within.exec_invariant [Inhabited ι] {Inv : σ → Prop}
    (hstep : ∀ i s s', Inv s → R i s s' → Inv s') {t : Routine ι σ ε α} (ht : t.Within R)
    (is : List ι) {s : σ} (hs : Inv s) : Inv (t.exec is s) :=
  spec_exec (ht.spec hstep) is hs

end Within

/-- The routine leaves the part `μ` of the state alone. -/
def Inert (μ : σ → M) (t : Routine ι σ ε α) : Prop := t.Within fun _ s s' => μ s' = μ s

theorem Inert.advance {μ : σ → M} {t : Routine ι σ ε α} (ht : t.Inert μ) (i : ι) (s : σ) :
    μ (t.advance i s).1 = μ s ∧ (t.advance i s).2.Inert μ := by
  obtain ⟨hstep, hrest⟩ := Within.advance ht i s
  refine ⟨?_, hrest⟩
  rcases hstep with hstay | hmove
  · rw [hstay]
  · exact hmove

/-! ## A value that a routine carries -/

/-- The routine carries a value: each of its steps stands in `R` with the values before and
after it, and when the routine returns `a`, its value is one of `Q a`. -/
def Carries {γ : Type} (R : ι → σ → σ → γ → γ → Prop) (Q : α → γ → Prop) :
    γ → Routine ι σ ε α → Prop
  | g, done (.ok a) => Q a g
  | _, done (.error _) => True
  | g, step f next => ∀ i s, ∃ g', R i s (f i s) g g' ∧ Carries R Q g' (next i s)

section Carries

variable {γ : Type} {R : ι → σ → σ → γ → γ → Prop} {Q : α → γ → Prop} {g : γ}

theorem carries_pure {a : α} (h : Q a g) : (pure a : Routine ι σ ε α).Carries R Q g := h

theorem carries_throw (e : ε) : (throw e : Routine ι σ ε α).Carries R Q g := trivial

theorem carries_atomically {f : ι → σ → α × σ}
    (h : ∀ i s, ∃ g', R i s (f i s).2 g g' ∧ Q (f i s).1 g') :
    (atomically f : Routine ι σ ε α).Carries R Q g :=
  h

theorem carries_bind {Q' : β → γ → Prop} {t : Routine ι σ ε α} {k : α → Routine ι σ ε β}
    (ht : t.Carries R Q g) (hk : ∀ a g', Q a g' → (k a).Carries R Q' g') :
    (t >>= k).Carries R Q' g := by
  change (t.bind k).Carries R Q' g
  induction t generalizing g with
  | done r =>
    cases r with
    | ok a => exact hk a g ht
    | error e => trivial
  | step f next ih =>
    intro i s
    obtain ⟨g', hstep, hnext⟩ := ht i s
    exact ⟨g', hstep, ih i s hnext⟩

theorem Within.carries {R₀ : ι → σ → σ → Prop} (h : ∀ i s s', R₀ i s s' → R i s s' g g)
    (hQ : ∀ a, Q a g) {t : Routine ι σ ε α} (ht : t.Within R₀) : t.Carries R Q g := by
  induction t with
  | done r =>
    cases r with
    | ok a => exact hQ a
    | error e => trivial
  | step f next ih => exact fun i s => ⟨g, h i s _ (ht i s).1, ih i s (ht i s).2⟩

theorem Carries.advance {t : Routine ι σ ε α} (ht : t.Carries R Q g) (i : ι) (s : σ) :
    ∃ g', ((t.advance i s).1 = s ∧ g' = g ∨ R i s (t.advance i s).1 g g') ∧
      (t.advance i s).2.Carries R Q g' := by
  cases t with
  | done r => exact ⟨g, .inl ⟨rfl, rfl⟩, ht⟩
  | step f next =>
    obtain ⟨g', hstep, hnext⟩ := ht i s
    exact ⟨g', .inr hstep, hnext⟩

end Carries

/-! ## Two versions of a routine -/

/-- The routines treat the part `μ` of the state alike, step by step, until neither changes
it any more. -/
inductive Agree (μ : σ → M) : Routine ι σ ε α → Routine ι σ ε α → Prop
  | inert {t t' : Routine ι σ ε α} (h : t.Inert μ) (h' : t'.Inert μ) : Agree μ t t'
  | step {f f' : ι → σ → σ} {next next' : ι → σ → Routine ι σ ε α}
      (hμ : ∀ i s s', μ s = μ s' → μ (f i s) = μ (f' i s'))
      (hnext : ∀ i s s', μ s = μ s' → Agree μ (next i s) (next' i s')) :
      Agree μ (step f next) (step f' next')

theorem Agree.advance {μ : σ → M} {t t' : Routine ι σ ε α} (h : Agree μ t t') (i : ι) {s s' : σ}
    (hμ : μ s = μ s') :
    μ (t.advance i s).1 = μ (t'.advance i s').1 ∧
      Agree μ (t.advance i s).2 (t'.advance i s').2 := by
  cases h with
  | inert ht ht' =>
    obtain ⟨h1, h2⟩ := ht.advance i s
    obtain ⟨h1', h2'⟩ := ht'.advance i s'
    exact ⟨h1.trans (hμ.trans h1'.symm), .inert h2 h2'⟩
  | step hf hnext => exact ⟨hf i s s' hμ, hnext i s s' hμ⟩

theorem agree_atomically_bind {μ : σ → M} {f f' : ι → σ → α × σ} {g g' : α → Routine ι σ ε β}
    (hμ : ∀ i s s', μ s = μ s' → μ (f i s).2 = μ (f' i s').2)
    (hnext : ∀ i s s', μ s = μ s' → Agree μ (g (f i s).1) (g' (f' i s').1)) :
    Agree μ (atomically f >>= g) (atomically f' >>= g') :=
  .step hμ hnext

/-! ## Together -/

/-- Routines that share a state. -/
structure System (κ ι σ ε α : Type) where
  state : σ
  routines : κ → Routine ι σ ε α

namespace System

variable {κ : Type} [DecidableEq κ]

/-- One step of one routine. -/
def resume (S : System κ ι σ ε α) (e : κ × ι) : System κ ι σ ε α where
  state := ((S.routines e.1).advance e.2 S.state).1
  routines := Function.update S.routines e.1 ((S.routines e.1).advance e.2 S.state).2

def run (S : System κ ι σ ε α) (schedule : List (κ × ι)) : System κ ι σ ε α :=
  schedule.foldl resume S

theorem resume_routines {P : κ → Routine ι σ ε α → Prop}
    (hstep : ∀ j r i s, P j r → P j (r.advance i s).2) {S : System κ ι σ ε α}
    (h : ∀ j, P j (S.routines j)) (e : κ × ι) : ∀ j, P j ((S.resume e).routines j) := by
  intro j
  by_cases hj : j = e.1
  · subst hj
    simpa [resume] using hstep e.1 _ e.2 S.state (h e.1)
  · simpa [resume, hj] using h j

theorem run_routines {P : κ → Routine ι σ ε α → Prop}
    (hstep : ∀ j r i s, P j r → P j (r.advance i s).2) {S : System κ ι σ ε α}
    (h : ∀ j, P j (S.routines j)) (schedule : List (κ × ι)) :
    ∀ j, P j ((S.run schedule).routines j) := by
  induction schedule generalizing S with
  | nil => exact h
  | cons e schedule ih => exact ih (resume_routines hstep h e)

/-- Every step of the routine `j` stands in `R j`. -/
def Within (R : κ → ι → σ → σ → Prop) (S : System κ ι σ ε α) : Prop :=
  ∀ j, (S.routines j).Within (R j)

variable {R : κ → ι → σ → σ → Prop} {S : System κ ι σ ε α}

theorem Within.resume (h : S.Within R) (e : κ × ι) :
    ((S.resume e).state = S.state ∨ R e.1 e.2 S.state (S.resume e).state) ∧
      (S.resume e).Within R :=
  ⟨((h e.1).advance e.2 S.state).1,
    resume_routines (fun _ _ i s hr => (hr.advance i s).2) h e⟩

theorem Within.run (h : S.Within R) (schedule : List (κ × ι)) : (S.run schedule).Within R :=
  run_routines (fun _ _ i s hr => (hr.advance i s).2) h schedule

theorem Within.run_invariant (h : S.Within R) {Inv : σ → Prop} {schedule : List (κ × ι)}
    (hstep : ∀ e ∈ schedule, ∀ s s', Inv s → R e.1 e.2 s s' → Inv s') (hS : Inv S.state) :
    Inv (S.run schedule).state := by
  induction schedule generalizing S with
  | nil => exact hS
  | cons e schedule ih =>
    obtain ⟨hmove, hrest⟩ := h.resume e
    refine ih hrest (fun e' he' => hstep e' (List.mem_cons_of_mem e he')) ?_
    rcases hmove with hstay | hmove
    · rw [hstay]
      exact hS
    · exact hstep e List.mem_cons_self _ _ hS hmove

theorem run_routines_of_ne (S : System κ ι σ ε α) {j : κ} {schedule : List (κ × ι)}
    (h : ∀ e ∈ schedule, e.1 ≠ j) : (S.run schedule).routines j = S.routines j := by
  induction schedule generalizing S with
  | nil => rfl
  | cons e schedule ih =>
    have hne : j ≠ e.1 := (h e List.mem_cons_self).symm
    have hstep : (S.resume e).routines j = S.routines j := Function.update_of_ne hne _ _
    exact (ih (S.resume e) fun e' he' => h e' (List.mem_cons_of_mem e he')).trans hstep

/-- The routine `j` carries the value `h j`. -/
def Carries {γ : Type} (R : ι → σ → σ → γ → γ → Prop) (Q : α → γ → Prop) (h : κ → γ)
    (S : System κ ι σ ε α) : Prop :=
  ∀ j, (S.routines j).Carries R Q (h j)

theorem Carries.resume {γ : Type} {R : ι → σ → σ → γ → γ → Prop} {Q : α → γ → Prop} {h : κ → γ}
    (hS : S.Carries R Q h) (e : κ × ι) :
    ∃ g', ((S.resume e).state = S.state ∧ g' = h e.1 ∨
        R e.2 S.state (S.resume e).state (h e.1) g') ∧
      (S.resume e).Carries R Q (Function.update h e.1 g') := by
  obtain ⟨g', hstep, hnext⟩ := (hS e.1).advance e.2 S.state
  refine ⟨g', hstep, fun j => ?_⟩
  by_cases hj : j = e.1
  · subst hj
    simpa [System.resume] using hnext
  · simpa [System.resume, hj] using hS j

/-- Two systems that start with equal parts `μ` keep them equal under a schedule, if the
routines it resumes agree on `μ`. -/
theorem run_agree {μ : σ → M} {S S' : System κ ι σ ε α} (hμ : μ S.state = μ S'.state)
    {schedule : List (κ × ι)}
    (h : ∀ e ∈ schedule, Agree μ (S.routines e.1) (S'.routines e.1)) :
    μ (S.run schedule).state = μ (S'.run schedule).state := by
  induction schedule generalizing S S' with
  | nil => exact hμ
  | cons e schedule ih =>
    obtain ⟨hstate, hrest⟩ := (h e List.mem_cons_self).advance e.2 hμ
    refine ih hstate fun e' he' => ?_
    by_cases hj : e'.1 = e.1
    · rw [hj]
      simpa [System.resume] using hrest
    · simpa [System.resume, hj] using h e' (List.mem_cons_of_mem e he')

end System

end Routine
