import OxideArb.Lib.Transition

/-!
# Acquiring a materialization run

A worker acquires a queued run in a transaction of three statements: it reads the run, updates
it where it is still queued, and reads it again. The number of updated rows is not looked at.
-/

open Transition

namespace OxideArb.ControlFactor

inductive MaterializationRunStatus
  | queued
  | running
  | completed
  | completedWithRejectedFactors
  | reportOnly
  | failed
  | cancelled
deriving DecidableEq, Repr

def isTerminalRunStatus : MaterializationRunStatus → Bool
  | .queued | .running => false
  | _ => true

namespace Acquisition

/-- The committed row of the run; the number of times it was put into the queue is not a
column. -/
structure RunRow where
  status : MaterializationRunStatus
  queuings : Nat
deriving DecidableEq, Repr

/-- `AcquireMaterializationRunOutcome`; `acquired` with the queuing the worker executes. -/
inductive Outcome
  | acquired (queuing : Nat)
  | notQueued
  | notFound
deriving DecidableEq, Repr

/-- What a worker has done of `try_acquire_materialization_run`; `hit` says whether its update
changed the row. -/
inductive Phase
  | idle
  | sawQueued
  | updated (hit : Bool)
  | decided (hit : Bool) (outcome : Outcome)
deriving DecidableEq, Repr

/-- The run, the transaction that holds its row lock, the workers, and the workers that were
answered `Acquired`, each with the queuing. -/
structure State where
  row : Option RunRow
  writer : Option Nat
  workers : Nat → Phase
  told : List (Nat × Nat)

def State.empty : State := ⟨none, none, fun _ => .idle, []⟩

inductive Step
  | enqueue
  /-- `retry_materialization_run`, which has read `seen`. -/
  | retry (seen : MaterializationRunStatus)
  /-- `transition_materialization_run` of a run that ends, and a cancellation. -/
  | finish (expected target : MaterializationRunStatus)
  | read (worker : Nat)
  | update (worker : Nat)
  | reread (worker : Nat)
  | commit (worker : Nat)
  | commitUnheard (worker : Nat)
  | rollback (worker : Nat)
deriving DecidableEq, Repr

namespace State

variable (s : State)

def goto (worker : Nat) (phase : Phase) : State :=
  { s with workers := Function.update s.workers worker phase }

def updateWhere (expected : MaterializationRunStatus) (f : RunRow → RunRow) : Option State :=
  if s.writer.isSome then none
  else some { s with row := s.row.map fun row => if row.status = expected then f row else row }

def reread (hit : Bool) : Outcome :=
  match s.row with
  | none => .notFound
  | some row => if hit ∨ row.status = .running then .acquired row.queuings else .notQueued

def endTransaction (worker : Nat) (hit written : Bool) : State :=
  let ended := s.goto worker .idle
  if hit then
    { ended with
      writer := none
      row := if written then s.row.map fun row => { row with status := .running } else s.row }
  else ended

def next : Step → Option State
  | .enqueue => if s.row.isNone then some { s with row := some ⟨.queued, 1⟩ } else none
  | .retry seen =>
    if seen = .failed ∨ seen = .cancelled then
      s.updateWhere seen fun row => { status := .queued, queuings := row.queuings + 1 }
    else none
  | .finish expected target =>
    if !isTerminalRunStatus expected ∧ isTerminalRunStatus target then
      s.updateWhere expected fun row => { row with status := target }
    else none
  | .read worker =>
    -- any other answer ends the call at once
    if s.workers worker = .idle ∧ s.row.any (·.status = .queued) then
      some (s.goto worker .sawQueued)
    else none
  | .update worker =>
    if s.workers worker = .sawQueued ∧ s.writer.isNone then
      if s.row.any (·.status = .queued) then
        some { s.goto worker (.updated true) with writer := some worker }
      else some (s.goto worker (.updated false))
    else none
  | .reread worker =>
    match s.workers worker with
    | .updated hit => some (s.goto worker (.decided hit (s.reread hit)))
    | _ => none
  | .commit worker =>
    match s.workers worker with
    | .decided hit (.acquired queuing) =>
      some { s.endTransaction worker hit true with told := (worker, queuing) :: s.told }
    | .decided hit _ => some (s.endTransaction worker hit true)
    | _ => none
  | .commitUnheard worker =>
    match s.workers worker with
    | .decided hit _ => some (s.endTransaction worker hit true)
    | _ => none
  | .rollback worker =>
    match s.workers worker with
    | .idle => none
    | .sawQueued => some (s.goto worker .idle)
    | .updated hit | .decided hit _ => some (s.endTransaction worker hit false)

/-- No two workers were told that they acquired the same queuing of the run. -/
def AtMostOnce : Prop := (s.told.map Prod.snd).Nodup

/-- A worker whose update changed nothing is not told that it acquired what another one was
told it acquired. -/
def Unrivalled : Step → Prop
  | .commit worker =>
    match s.workers worker with
    | .decided false (.acquired queuing) => queuing ∉ s.told.map Prod.snd
    | _ => True
  | _ => True

instance (s : State) : ∀ step, Decidable (s.Unrivalled step)
  | .commit worker =>
    match h : s.workers worker with
    | .decided false (.acquired queuing) =>
      decidable_of_iff (queuing ∉ s.told.map Prod.snd) (by simp [Unrivalled, h])
    | .decided false .notQueued | .decided false .notFound | .decided true _ | .idle
    | .sawQueued | .updated _ => isTrue (by simp [Unrivalled, h])
  | .enqueue | .retry _ | .finish .. | .read _ | .update _ | .reread _ | .commitUnheard _
  | .rollback _ => isTrue trivial

/-! ## The invariant -/

def Taken (queuing : Nat) : Prop :=
  ∃ row, s.row = some row ∧
    (queuing < row.queuings ∨ queuing = row.queuings ∧ row.status ≠ .queued)

end State

def Phase.hits : Phase → Bool
  | .updated hit | .decided hit _ => hit
  | _ => false

structure Inv (s : State) : Prop where
  writer : ∀ worker, (s.workers worker).hits = true ↔ s.writer = some worker
  locked : s.writer.isSome = true → ∃ row, s.row = some row ∧ row.status = .queued
  hitter : ∀ worker outcome, s.workers worker = .decided true outcome →
    ∃ row, s.row = some row ∧ outcome = .acquired row.queuings
  misser : ∀ worker queuing, s.workers worker = .decided false (.acquired queuing) →
    s.Taken queuing
  told : ∀ answer ∈ s.told, s.Taken answer.2

def RunRow.Precedes (row after : RunRow) : Prop :=
  row.queuings < after.queuings ∨
    row.queuings = after.queuings ∧ (row.status ≠ .queued → after.status ≠ .queued)

theorem RunRow.Precedes.refl (row : RunRow) : row.Precedes row := .inr ⟨rfl, id⟩

namespace State

variable {s t : State} {queuing : Nat}

theorem Taken.mono (h : s.Taken queuing)
    (hrow : ∀ row, s.row = some row → ∃ after, t.row = some after ∧ row.Precedes after) :
    t.Taken queuing := by
  obtain ⟨row, hs, htaken⟩ := h
  obtain ⟨after, ht, hprecedes⟩ := hrow row hs
  refine ⟨after, ht, ?_⟩
  rcases htaken with hlt | ⟨heq, hleft⟩ <;> rcases hprecedes with hnext | ⟨hsame, hkeeps⟩
  · exact .inl (Nat.lt_trans hlt hnext)
  · exact .inl (hsame ▸ hlt)
  · exact .inl (heq ▸ hnext)
  · exact .inr ⟨heq.trans hsame, hkeeps hleft⟩

theorem updateWhere_eq_some {expected : MaterializationRunStatus} {f : RunRow → RunRow}
    (h : s.updateWhere expected f = some t) :
    s.writer = none ∧
      t = { s with row := s.row.map fun row => if row.status = expected then f row else row } := by
  unfold updateWhere at h
  split at h
  · cases h
  · rename_i hfree
    exact ⟨Option.not_isSome_iff_eq_none.mp hfree, (Option.some.inj h).symm⟩

theorem endTransaction_told (s : State) (worker : Nat) (hit written : Bool) :
    (s.endTransaction worker hit written).told = s.told := by
  cases hit <;> rfl

theorem told_next {step : Step} (hstep : ∀ worker, step ≠ .commit worker)
    (ht : s.next step = some t) : t.told = s.told := by
  cases step <;> simp only [next] at ht
  case commit worker => exact absurd rfl (hstep worker)
  case retry seen =>
    split at ht
    · obtain ⟨-, rfl⟩ := updateWhere_eq_some ht
      rfl
    · cases ht
  case finish expected target =>
    split at ht
    · obtain ⟨-, rfl⟩ := updateWhere_eq_some ht
      rfl
    · cases ht
  case update worker =>
    split at ht
    · split at ht <;> cases ht <;> rfl
    · cases ht
  all_goals
    split at ht <;> cases ht <;> first | rfl | exact endTransaction_told ..

end State

namespace Inv

variable {s t : State} {worker : Nat}

theorem empty : Inv .empty where
  writer _ := iff_of_false nofun nofun
  locked h := nomatch h
  hitter _ _ h := nomatch h
  misser _ _ h := nomatch h
  told _ h := absurd h List.not_mem_nil

theorem setRow (h : Inv s) (hfree : s.writer = none) {row : Option RunRow}
    (hrow : ∀ before, s.row = some before → ∃ after, row = some after ∧ before.Precedes after) :
    Inv { s with row } where
  writer := h.writer
  locked hlocked := by
    have hnone : s.writer.isSome = true := hlocked
    rw [hfree] at hnone
    cases hnone
  hitter worker outcome hphase := by
    have hwriter := (h.writer worker).mp (by rw [hphase]; rfl)
    rw [hfree] at hwriter
    cases hwriter
  misser worker queuing hphase := (h.misser worker queuing hphase).mono hrow
  told answer hanswer := (h.told answer hanswer).mono hrow

theorem updateWhere (h : Inv s) {expected : MaterializationRunStatus} {f : RunRow → RunRow}
    (hf : ∀ row : RunRow, row.status = expected → row.Precedes (f row))
    (ht : s.updateWhere expected f = some t) : Inv t := by
  obtain ⟨hfree, rfl⟩ := State.updateWhere_eq_some ht
  refine h.setRow hfree fun before hbefore =>
    ⟨if before.status = expected then f before else before, by rw [hbefore]; rfl, ?_⟩
  split
  · rename_i hstatus
    exact hf before hstatus
  · exact .refl before

theorem move (h : Inv s) {phase : Phase} {writer : Option Nat}
    (hself : phase.hits = true ↔ writer = some worker)
    (hothers : ∀ other, other ≠ worker → ((s.workers other).hits = true ↔ writer = some other))
    (hlocked : writer.isSome = true → ∃ row, s.row = some row ∧ row.status = .queued)
    (hhit : ∀ outcome, phase = .decided true outcome →
      ∃ row, s.row = some row ∧ outcome = .acquired row.queuings)
    (hmiss : ∀ queuing, phase = .decided false (.acquired queuing) → s.Taken queuing) :
    Inv { s.goto worker phase with writer } where
  writer other := by
    by_cases hother : other = worker
    · rw [hother]
      simpa only [State.goto, Function.update_self] using hself
    · simpa only [State.goto, Function.update_of_ne hother] using hothers other hother
  locked := hlocked
  hitter other outcome hdecided := by
    by_cases hother : other = worker
    · rw [hother] at hdecided
      simp only [State.goto, Function.update_self] at hdecided
      exact hhit outcome hdecided
    · simp only [State.goto, Function.update_of_ne hother] at hdecided
      exact h.hitter other outcome hdecided
  misser other queuing hdecided := by
    by_cases hother : other = worker
    · rw [hother] at hdecided
      simp only [State.goto, Function.update_self] at hdecided
      exact hmiss queuing hdecided
    · simp only [State.goto, Function.update_of_ne hother] at hdecided
      exact h.misser other queuing hdecided
  told := h.told

variable {hit : Bool} {queuing : Nat}

theorem holds_iff (h : Inv s) (hhit : (s.workers worker).hits = hit) :
    hit = true ↔ s.writer = some worker :=
  hhit ▸ h.writer worker

theorem goto (h : Inv s) (hout : (s.workers worker).hits = false) {phase : Phase}
    (hphase : phase.hits = false)
    (hmiss : ∀ queuing, phase = .decided false (.acquired queuing) → s.Taken queuing) :
    Inv (s.goto worker phase) := by
  refine h.move ?_ (fun other _ => h.writer other) h.locked ?_ hmiss
  · rw [hphase]
    exact h.holds_iff hout
  · rintro outcome rfl
    cases hphase

theorem lock (h : Inv s) (hfree : s.writer = none) {row : RunRow} (hrow : s.row = some row)
    (hqueued : row.status = .queued) :
    Inv { s.goto worker (.updated true) with writer := some worker } := by
  refine h.move (iff_of_true rfl rfl) (fun other hother => ?_) (fun _ => ⟨row, hrow, hqueued⟩)
    nofun nofun
  rw [h.writer other, hfree, Option.some.injEq]
  exact iff_of_false nofun (Ne.symm hother)

theorem decide (h : Inv s) (hphase : s.workers worker = .updated true) {row : RunRow}
    (hrow : s.row = some row) :
    Inv (s.goto worker (.decided true (.acquired row.queuings))) := by
  refine h.move ?_ (fun other _ => h.writer other) h.locked ?_ nofun
  · exact h.holds_iff (by rw [hphase]; rfl)
  · rintro outcome houtcome
    cases houtcome
    exact ⟨row, hrow, rfl⟩

theorem unlock (h : Inv s) (hholds : s.writer = some worker) :
    Inv { s.goto worker .idle with writer := none } := by
  refine h.move (iff_of_false nofun nofun) (fun other hother => ?_) nofun nofun nofun
  rw [h.writer other, hholds, Option.some.injEq]
  exact iff_of_false (Ne.symm hother) nofun

theorem endTransaction (h : Inv s) (hhit : (s.workers worker).hits = hit) (written : Bool) :
    Inv (s.endTransaction worker hit written) := by
  cases hit with
  | false => exact h.goto hhit rfl nofun
  | true =>
    have hunlocked := h.unlock ((h.writer worker).mp hhit)
    cases written with
    | false => exact hunlocked
    | true =>
      refine hunlocked.setRow rfl fun before hbefore => ⟨{ before with status := .running }, ?_, ?_⟩
      · have hrow : s.row = some before := hbefore
        rw [if_pos rfl, hrow]
        rfl
      · exact .inr ⟨rfl, fun _ => nofun⟩

theorem reread (h : Inv s) (hphase : s.workers worker = .updated hit) :
    Inv (s.goto worker (.decided hit (s.reread hit))) := by
  cases hit with
  | true =>
    obtain ⟨row, hrow, -⟩ := h.locked (by rw [(h.writer worker).mp (by rw [hphase]; rfl)]; rfl)
    have hdecided := h.decide hphase hrow
    unfold State.reread
    rw [hrow]
    simpa using hdecided
  | false =>
    refine h.goto (by rw [hphase]; rfl) rfl fun queuing houtcome => ?_
    have hacquired : s.reread false = .acquired queuing := (Phase.decided.inj houtcome).2
    unfold State.reread at hacquired
    split at hacquired
    · cases hacquired
    · rename_i row hrow
      split at hacquired
      · rename_i hrunning
        cases hacquired
        refine ⟨row, hrow, .inr ⟨rfl, ?_⟩⟩
        rw [hrunning.resolve_left Bool.false_ne_true]
        nofun
      · cases hacquired

theorem taken_of_decided (h : Inv s) (hphase : s.workers worker = .decided hit (.acquired queuing)) :
    (s.endTransaction worker hit true).Taken queuing := by
  cases hit with
  | true =>
    obtain ⟨row, hrow, houtcome⟩ := h.hitter worker _ hphase
    cases houtcome
    refine ⟨{ row with status := .running }, ?_, .inr ⟨rfl, nofun⟩⟩
    simp [State.endTransaction, hrow]
  | false => exact h.misser worker queuing hphase

theorem tell (h : Inv t) (htaken : t.Taken queuing) :
    Inv { t with told := (worker, queuing) :: t.told } where
  writer := h.writer
  locked := h.locked
  hitter := h.hitter
  misser := h.misser
  told answer hanswer := by
    rcases List.mem_cons.mp hanswer with rfl | hold
    · exact htaken
    · exact h.told answer hold

theorem not_told (h : Inv s) (hphase : s.workers worker = .decided true (.acquired queuing)) :
    queuing ∉ s.told.map Prod.snd := by
  obtain ⟨row, hrow, houtcome⟩ := h.hitter worker _ hphase
  cases houtcome
  intro hmem
  obtain ⟨answer, hanswer, hsame⟩ := List.mem_map.mp hmem
  obtain ⟨found, hfound, htaken⟩ := h.told answer hanswer
  obtain ⟨locked, hlocked, hqueued⟩ := h.locked
    (by rw [(h.writer worker).mp (by rw [hphase]; rfl)]; rfl)
  rw [hrow, Option.some.injEq] at hfound hlocked
  subst hfound hlocked
  rcases htaken with hlt | ⟨-, hleft⟩
  · exact absurd hsame (Nat.ne_of_lt hlt)
  · exact hleft hqueued

theorem next (h : Inv s) {step : Step} (ht : s.next step = some t) : Inv t := by
  cases step with
  | enqueue =>
    simp only [State.next] at ht
    split at ht
    · rename_i hnone
      rw [Option.isNone_iff_eq_none] at hnone
      cases ht
      have hnot : ∀ before, s.row ≠ some before := fun before hbefore => by
        rw [hnone] at hbefore
        cases hbefore
      refine h.setRow ?_ fun before hbefore => absurd hbefore (hnot before)
      rw [← Option.not_isSome_iff_eq_none]
      intro hlocked
      obtain ⟨row, hrow, -⟩ := h.locked hlocked
      exact hnot row hrow
    · cases ht
  | retry seen =>
    simp only [State.next] at ht
    split at ht
    · exact h.updateWhere (fun row _ => .inl (Nat.lt_succ_self _)) ht
    · cases ht
  | finish expected target =>
    simp only [State.next] at ht
    split at ht
    · rename_i hends
      refine h.updateWhere ?_ ht
      refine fun row _ => .inr ⟨rfl, fun _ hqueued => ?_⟩
      have htarget : target = .queued := hqueued
      rw [htarget] at hends
      exact absurd hends.2 Bool.false_ne_true
    · cases ht
  | read worker =>
    simp only [State.next] at ht
    split at ht
    · rename_i hidle
      cases ht
      exact h.goto (by rw [hidle.1]; rfl) rfl nofun
    · cases ht
  | update worker =>
    simp only [State.next] at ht
    split at ht
    · rename_i hready
      split at ht
      · rename_i hqueued
        cases ht
        obtain ⟨row, hrow, hstatus⟩ := (Option.any_eq_true ..).mp hqueued
        exact h.lock (Option.isNone_iff_eq_none.mp hready.2) hrow (by simpa using hstatus)
      · cases ht
        exact h.goto (by rw [hready.1]; rfl) rfl nofun
    · cases ht
  | reread worker =>
    simp only [State.next] at ht
    split at ht
    · rename_i hit hphase
      cases ht
      exact h.reread hphase
    · cases ht
  | commit worker =>
    simp only [State.next] at ht
    split at ht
    · rename_i hit queuing hphase
      cases ht
      have hended : Inv (s.endTransaction worker hit true) :=
        h.endTransaction (by rw [hphase]; rfl) true
      simpa only [State.endTransaction_told] using hended.tell (h.taken_of_decided hphase)
    · rename_i hit outcome _ hphase
      cases ht
      exact h.endTransaction (by rw [hphase]; rfl) true
    · cases ht
  | commitUnheard worker =>
    simp only [State.next] at ht
    split at ht
    · rename_i hit outcome hphase
      cases ht
      exact h.endTransaction (by rw [hphase]; rfl) true
    · cases ht
  | rollback worker =>
    simp only [State.next] at ht
    split at ht
    · cases ht
    · rename_i hphase
      cases ht
      exact h.goto (by rw [hphase]; rfl) rfl nofun
    · rename_i hit hphase
      cases ht
      exact h.endTransaction (by rw [hphase]; rfl) false
    · rename_i hit outcome hphase
      cases ht
      exact h.endTransaction (by rw [hphase]; rfl) false

end Inv

/-! ## Runs -/

/-- A step keeps the answers apart exactly when it is unrivalled. -/
theorem Inv.atMostOnce_next {s t : State} (h : Inv s) {step : Step} (ht : s.next step = some t) :
    t.AtMostOnce ↔ s.AtMostOnce ∧ s.Unrivalled step := by
  have hquiet : t.told = s.told → s.Unrivalled step →
      (t.AtMostOnce ↔ s.AtMostOnce ∧ s.Unrivalled step) := fun htold hok => by
    unfold State.AtMostOnce
    rw [htold]
    exact (and_iff_left hok).symm
  by_cases hcommit : ∃ worker, step = .commit worker
  · obtain ⟨worker, rfl⟩ := hcommit
    simp only [State.next] at ht
    split at ht
    · rename_i hit queuing hphase
      cases ht
      have hnodup : State.AtMostOnce
            { s.endTransaction worker hit true with told := (worker, queuing) :: s.told } ↔
          s.AtMostOnce ∧ queuing ∉ s.told.map Prod.snd := by
        unfold State.AtMostOnce
        rw [List.map_cons, List.nodup_cons]
        exact and_comm
      rw [hnodup]
      simp only [State.Unrivalled, hphase]
      cases hit with
      | true => exact and_congr_right fun _ => iff_of_true (h.not_told hphase) trivial
      | false => exact Iff.rfl
    · rename_i hit outcome hother hphase
      cases ht
      refine hquiet (State.endTransaction_told ..) ?_
      simp only [State.Unrivalled, hphase]
      split
      · rename_i queuing hacquired
        cases hacquired
        exact absurd rfl (hother queuing)
      · trivial
    · cases ht
  · have hstep : ∀ worker, step ≠ .commit worker := fun worker hw => hcommit ⟨worker, hw⟩
    refine hquiet (State.told_next hstep ht) ?_
    unfold State.Unrivalled
    split
    · exact absurd rfl (hstep _)
    · trivial

/-- One worker after the other: the second finds the run taken. -/
def sampleTurns : List Step :=
  [.enqueue, .read 0, .update 0, .reread 0, .commit 0, .finish .running .failed, .retry .failed,
    .read 1, .update 1, .reread 1, .commit 1]

end Acquisition

end OxideArb.ControlFactor
