import OxideArb.ControlFactor.Membership

/-!
# Governed transactions under read committed

Each statement of a transaction sees what is committed when it runs. A factor is read and
checked, and later written without a condition on its status; the row is locked from the write to
the end of the transaction. The two publication locks exclude publications and rollbacks of one
mode; rejections and the expiry sweep take neither. The lock of the audit chain is held from the
first append to the end.
-/

open Checked Transition

namespace OxideArb.ControlFactor.ReadCommitted

inductive Mutation
  | publish (publication : ControlFactorPublication) (audit : NewControlFactorAuditEvent)
  | rollback (target : ControlFactorPublication) (audit : NewControlFactorAuditEvent)
  | reject (factorId : ControlFactorId) (audit : NewControlFactorAuditEvent)
  | expire (envelope : AuditActor) (now : DateTime)
  | runtimeConfig (audit : NewControlFactorAuditEvent)
deriving DecidableEq

namespace Mutation

def lockMode : Mutation → Option PublicationMode
  | publish p _ | rollback p _ => some p.mode
  | _ => none

def target : Mutation → Option FactorStatus
  | publish p _ | rollback p _ => some p.mode.targetFactorStatus
  | reject _ _ => some .rejected
  | expire _ _ => some .expired
  | runtimeConfig _ => none

/-- The factors that are read one by one. -/
def factorIds : Mutation → List ControlFactorId
  | publish p _ | rollback p _ => p.factorIds
  | reject id _ => [id]
  | _ => []

def accepts : Mutation → ControlFactorValue → Bool
  | publish p _, f => (p.validateMember f).isOk
  | rollback p _, f => (f.validateForTransition p.mode.targetFactorStatus).isOk
  | reject _ _, f => (f.validateForTransition .rejected).isOk
  | _, _ => false

/-- The events of the mutation: one, or for the sweep one for each factor it has read. -/
def events : Mutation → List ControlFactorValue → List NewControlFactorAuditEvent
  | publish _ a, _ | rollback _ a, _ | reject _ a, _ | runtimeConfig a, _ => [a]
  | expire envelope _, reads => reads.map (RegistryDb.expiryEvent envelope)

end Mutation

structure Txn where
  id : Nat
  mutation : Mutation
  reads : List ControlFactorValue
  writes : List ControlFactorId
  due : List NewControlFactorAuditEvent
  rows : AuditLog
  locked : Bool

def Txn.start (id : Nat) (m : Mutation) : Txn := ⟨id, m, [], [], m.events [], [], false⟩

/-- A committed change of a status. -/
structure Change where
  factorId : ControlFactorId
  old : FactorStatus
  new : FactorStatus
deriving DecidableEq, Repr

/-- A committed mutation, with the audit rows of its own. -/
structure Committed where
  mutation : Mutation
  reads : List ControlFactorValue
  rows : AuditLog

/-- What is committed, the open transactions, and the record of the commits. -/
structure State where
  factors : Factors
  audit : AuditLog
  txns : Table Txn.id
  changes : List Change
  mutations : List Committed

inductive Label
  | start (id : Nat) (mutation : Mutation)
  | read (id : Nat) (factorId : ControlFactorId)
  | sweep (id : Nat)
  | write (id : Nat) (factorId : ControlFactorId)
  | append (id : Nat) (now : DateTime)
  | commit (id : Nat)
  | abort (id : Nat)

namespace State

variable (digest : CanonicalDigest) (s : State)

def put (t : Txn) : State := { s with txns := s.txns.put t }

def begin (t : Txn) : Option State :=
  if (s.txns.get t.id).isSome ∨ ∃ u ∈ s.txns.rows, u.mutation.lockMode.isSome ∧
      u.mutation.lockMode = t.mutation.lockMode then none
  else some (s.put t)

def read (t : Txn) (factorId : ControlFactorId) : Option State :=
  (s.factors.get factorId).bind fun f =>
    if factorId ∈ t.mutation.factorIds ∧ t.writes = [] ∧ t.mutation.accepts f then
      some (s.put { t with reads := t.reads ++ [f] })
    else none

/-- The one query of `expire_factors`. -/
def sweep (t : Txn) : Option State :=
  match t.mutation with
  | .expire _ now =>
    let found := RegistryDb.dueFactors ⟨.empty, s.factors, []⟩ now
    if t.reads = [] then some (s.put { t with reads := found, due := t.mutation.events found })
    else none
  | _ => none

/-- The row must be free; every member has been read before the first write. -/
def write (t : Txn) (factorId : ControlFactorId) : Option State :=
  if factorId ∈ t.reads.map (·.factorId) ∧
      (∀ id ∈ t.mutation.factorIds, id ∈ t.reads.map (·.factorId)) ∧
      ∀ u ∈ s.txns.rows, u.id ≠ t.id → factorId ∉ u.writes then
    some (s.put { t with writes := t.writes ++ [factorId] })
  else none

/-- `append_audit_event_chained_q` sees the committed events and those of its transaction. -/
def append (t : Txn) (now : DateTime) : Option State :=
  match t.due with
  | [] => none
  | e :: due =>
    if ∃ u ∈ s.txns.rows, u.id ≠ t.id ∧ u.locked = true then none
    else ((s.audit ++ t.rows).appendChained digest e now).toOption.map fun r =>
      s.put { t with due, rows := r.2.drop s.audit.length, locked := true }

def changesOf (t : Txn) : List Change :=
  t.writes.flatMap fun id => (s.factors.get id).toList.flatMap fun f =>
    t.mutation.target.toList.map fun status => ⟨id, f.status, status⟩

def committed (t : Txn) : State :=
  { factors := t.mutation.target.elim s.factors (s.factors.setStatuses t.writes)
    audit := s.audit ++ t.rows
    txns := s.txns.without t.id
    changes := s.changes ++ s.changesOf t
    mutations := s.mutations ++ [⟨t.mutation, t.reads, t.rows⟩] }

def commit (t : Txn) : Option State :=
  if t.due = [] ∧ (∀ id ∈ t.mutation.factorIds, id ∈ t.writes) ∧
      ∀ f ∈ t.reads, f.factorId ∈ t.writes then
    some (s.committed t)
  else none

def aborted (t : Txn) : State := { s with txns := s.txns.without t.id }

def next : Label → Option State
  | .start id m => s.begin (.start id m)
  | .read id factorId => (s.txns.get id).bind (s.read · factorId)
  | .sweep id => (s.txns.get id).bind s.sweep
  | .write id factorId => (s.txns.get id).bind (s.write · factorId)
  | .append id now => (s.txns.get id).bind (s.append digest · now)
  | .commit id => (s.txns.get id).bind s.commit
  | .abort id => (s.txns.get id).map s.aborted

/-! ## What a step does -/

inductive Stepped (digest : CanonicalDigest) (s : State) : Label → State → Prop
  | start (id : Nat) (m : Mutation) : Stepped digest s (.start id m) (s.put (.start id m))
  | read {t : Txn} {f : ControlFactorValue} (factorId : ControlFactorId)
      (ht : s.txns.get t.id = some t) (hf : t.mutation.accepts f = true) :
      Stepped digest s (.read t.id factorId) (s.put { t with reads := t.reads ++ [f] })
  | sweep {t : Txn} {envelope : AuditActor} {now : DateTime} (ht : s.txns.get t.id = some t)
      (hm : t.mutation = .expire envelope now) (hr : t.reads = []) :
      Stepped digest s (.sweep t.id) (s.put { t with
        reads := RegistryDb.dueFactors ⟨.empty, s.factors, []⟩ now
        due := t.mutation.events (RegistryDb.dueFactors ⟨.empty, s.factors, []⟩ now) })
  | write {t : Txn} {factorId : ControlFactorId} (ht : s.txns.get t.id = some t)
      (hread : ∃ f ∈ t.reads, f.factorId = factorId)
      (hfree : ∀ k u, s.txns.get k = some u → k ≠ t.id → factorId ∉ u.writes) :
      Stepped digest s (.write t.id factorId) (s.put { t with writes := t.writes ++ [factorId] })
  | append {t : Txn} {e : NewControlFactorAuditEvent} {due : List NewControlFactorAuditEvent}
      {now : DateTime} {r : ControlFactorAuditEvent × AuditLog} (ht : s.txns.get t.id = some t)
      (hdue : t.due = e :: due)
      (hlock : ∀ k u, s.txns.get k = some u → u.locked = true → k = t.id)
      (happ : (s.audit ++ t.rows).appendChained digest e now = .ok r) :
      Stepped digest s (.append t.id now)
        (s.put { t with due, rows := r.2.drop s.audit.length, locked := true })
  | commit {t : Txn} (ht : s.txns.get t.id = some t) (hdue : t.due = []) :
      Stepped digest s (.commit t.id) (s.committed t)
  | abort {t : Txn} (ht : s.txns.get t.id = some t) :
      Stepped digest s (.abort t.id) (s.aborted t)

variable {digest : CanonicalDigest} {s s' : State} {t u : Txn} {f : ControlFactorValue} {k : Nat}
  {l : Label}

theorem bind_txn {g : Txn → Option State} (h : (s.txns.get k).bind g = some s') :
    ∃ t, t.id = k ∧ s.txns.get t.id = some t ∧ g t = some s' := by
  obtain ⟨t, ht, h⟩ := Option.bind_eq_some_iff.mp h
  have hid := (s.txns.get_eq_some_iff.mp ht).2
  exact ⟨t, hid, hid ▸ ht, h⟩

theorem next_stepped (h : s.next digest l = some s') : Stepped digest s l s' := by
  cases l with
  | start id m =>
    obtain ⟨-, h⟩ := Option.ite_none_left_eq_some.mp h
    cases h
    exact .start id m
  | read id factorId =>
    obtain ⟨t, rfl, ht, h⟩ := bind_txn h
    obtain ⟨f, -, h⟩ := Option.bind_eq_some_iff.mp h
    obtain ⟨hacc, h⟩ := Option.ite_none_right_eq_some.mp h
    cases h
    exact .read factorId ht hacc.2.2
  | sweep id =>
    obtain ⟨t, rfl, ht, h⟩ := bind_txn h
    unfold sweep at h
    split at h
    next envelope now hm =>
      obtain ⟨hr, h⟩ := Option.ite_none_right_eq_some.mp h
      cases h
      exact .sweep ht hm hr
    · cases h
  | write id factorId =>
    obtain ⟨t, rfl, ht, h⟩ := bind_txn h
    obtain ⟨⟨hread, -, hfree⟩, h⟩ := Option.ite_none_right_eq_some.mp h
    cases h
    refine .write ht (List.mem_map.mp hread) fun k u hu hk => ?_
    have hmem := s.txns.get_eq_some_iff.mp hu
    exact hfree u hmem.1 (hmem.2 ▸ hk)
  | append id now =>
    obtain ⟨t, rfl, ht, h⟩ := bind_txn h
    unfold State.append at h
    split at h
    · cases h
    next e due hdue =>
      obtain ⟨hlock, h⟩ := Option.ite_none_left_eq_some.mp h
      obtain ⟨r, hr, rfl⟩ := Option.map_eq_some_iff.mp h
      refine .append ht hdue (fun k u hu hl => ?_) (toOption_eq_some.mp hr)
      have hmem := s.txns.get_eq_some_iff.mp hu
      by_contra hk
      exact hlock ⟨u, hmem.1, hmem.2 ▸ hk, hl⟩
  | commit id =>
    obtain ⟨t, rfl, ht, h⟩ := bind_txn h
    obtain ⟨hdue, h⟩ := Option.ite_none_right_eq_some.mp h
    cases h
    exact .commit ht hdue.1
  | abort id =>
    obtain ⟨t, ht, rfl⟩ := Option.map_eq_some_iff.mp h
    obtain rfl : t.id = id := (s.txns.get_eq_some_iff.mp ht).2
    exact .abort ht

theorem get_put (t : Txn) (k : Nat) :
    (s.put t).txns.get k = if k = t.id then some t else s.txns.get k :=
  s.txns.get_put t k

theorem get_of_without {id : Nat} (h : (s.txns.without id).get k = some u) :
    k ≠ id ∧ s.txns.get k = some u := by
  by_cases hk : k = id
  · rw [hk, s.txns.get_without_self] at h
    cases h
  · exact ⟨hk, by rwa [s.txns.get_without_ne hk] at h⟩

/-! ## Changes of a status -/

/-- A transaction writes a factor while its status is still the one it has read. -/
def WritesCurrent (s : State) : Label → Prop
  | .write id factorId => ∀ t ∈ s.txns.get id, ∀ f ∈ t.reads, f.factorId = factorId →
      ∃ g ∈ s.factors.get factorId, g.status = f.status
  | _ => True

instance (s : State) : (l : Label) → Decidable (s.WritesCurrent l)
  | .write id factorId => inferInstanceAs (Decidable (∀ t ∈ s.txns.get id, ∀ f ∈ t.reads,
      f.factorId = factorId → ∃ g ∈ s.factors.get factorId, g.status = f.status))
  | .start .. | .read .. | .sweep .. | .append .. | .commit .. | .abort .. => isTrue trivial

def Edge (old new : FactorStatus) : Prop := FactorLifecycle.canTransition old new = true

structure Inv (s : State) : Prop where
  reads : ∀ k t, s.txns.get k = some t → ∀ f ∈ t.reads, ∀ st ∈ t.mutation.target, Edge f.status st
  writes : ∀ k t, s.txns.get k = some t → ∀ id ∈ t.writes, ∀ st ∈ t.mutation.target,
    ∀ f, s.factors.get id = some f → Edge f.status st
  apart : ∀ k t, s.txns.get k = some t → ∀ k' t', s.txns.get k' = some t' → k ≠ k' →
    ∀ id ∈ t.writes, id ∉ t'.writes
  changes : ∀ c ∈ s.changes, Edge c.old c.new

theorem accepts_edge {m : Mutation} (h : m.accepts f = true) :
    ∀ st ∈ m.target, Edge f.status st := by
  have hok {ε : Type} {x : Except ε Unit} (h : x.isOk = true) : x = .ok () := by
    cases x with
    | error e => cases h
    | ok u => rfl
  rintro st hst
  cases m with
  | publish p a =>
    cases hst
    have hm := hok h
    unfold ControlFactorPublication.validateMember at hm
    obtain ⟨-, hm⟩ := exit_eq_ok.mp hm
    obtain ⟨-, hm⟩ := exit_eq_ok.mp hm
    exact RegistryDb.canTransition_of_valid (mapError_eq_ok.mp hm)
  | rollback p a =>
    cases hst
    exact RegistryDb.canTransition_of_valid (hok h)
  | reject id a =>
    cases hst
    exact RegistryDb.canTransition_of_valid (hok h)
  | expire envelope now => cases h
  | runtimeConfig a => cases h

theorem dueFactors_edge {db : RegistryDb} {now : DateTime} (h : f ∈ db.dueFactors now) :
    Edge f.status .expired := by
  obtain ⟨-, h⟩ := List.mem_filter.mp h
  simp only [Bool.and_eq_true, Bool.or_eq_true, decide_eq_true_eq] at h
  obtain ⟨-, ((h | h) | h) | h⟩ := h <;> rw [h] <;> rfl

namespace Inv

variable (h : s.Inv)

include h

theorem put (hr : ∀ f ∈ t.reads, ∀ st ∈ t.mutation.target, Edge f.status st)
    (hw : ∀ id ∈ t.writes, ∀ st ∈ t.mutation.target, ∀ f, s.factors.get id = some f →
      Edge f.status st)
    (ha : ∀ k u, s.txns.get k = some u → k ≠ t.id → ∀ id ∈ t.writes, id ∉ u.writes) :
    (s.put t).Inv := by
  refine ⟨fun k u hu => ?_, fun k u hu => ?_, fun k u hu k' u' hu' hne id hid hid' => ?_,
    h.changes⟩
  · rw [get_put] at hu
    split at hu
    · cases hu
      exact hr
    · exact h.reads k u hu
  · rw [get_put] at hu
    split at hu
    · cases hu
      exact hw
    · exact h.writes k u hu
  · rw [get_put] at hu hu'
    split at hu
    next hk =>
      cases hu
      rw [if_neg (hk ▸ hne.symm)] at hu'
      exact ha k' u' hu' (hk ▸ hne.symm) id hid hid'
    next hk =>
      split at hu'
      · cases hu'
        exact ha k u hu hk id hid' hid
      · exact h.apart k u hu k' u' hu' hne id hid hid'

/-- The transaction goes on with the rows it has written so far. -/
theorem put_same (hu : s.txns.get u.id = some u) (hid : t.id = u.id)
    (hm : t.mutation = u.mutation) (hw : t.writes = u.writes)
    (hr : ∀ f ∈ t.reads, ∀ st ∈ t.mutation.target, Edge f.status st) : (s.put t).Inv := by
  refine h.put hr ?_ fun k v hv hk => ?_
  · rw [hw, hm]
    exact h.writes _ u hu
  · rw [hw]
    exact h.apart _ u hu k v hv (hid ▸ hk.symm)

theorem drop (id : Nat) : Inv { s with txns := s.txns.without id } where
  reads k u hu := h.reads k u (get_of_without hu).2
  writes k u hu := h.writes k u (get_of_without hu).2
  apart k u hu k' u' hu' := h.apart k u (get_of_without hu).2 k' u' (get_of_without hu').2
  changes := h.changes

theorem committed (ht : s.txns.get t.id = some t) : (s.committed t).Inv := by
  have hdrop := h.drop t.id
  refine ⟨hdrop.reads, fun k u hu id hid st hst f hf => ?_, hdrop.apart, fun c hc => ?_⟩
  · obtain ⟨hk, hu'⟩ := get_of_without hu
    -- the rows of another transaction are not written
    have hid' : id ∉ t.writes := fun hw => h.apart _ t ht k u hu' (Ne.symm hk) id hw hid
    refine hdrop.writes k u hu id hid st hst f ?_
    unfold State.committed at hf
    cases hm : t.mutation.target with
    | none => simpa [hm] using hf
    | some st' => simpa [hm, Factors.get_setStatuses, hid'] using hf
  · rcases List.mem_append.mp hc with hc | hc
    · exact h.changes c hc
    · simp only [changesOf, List.mem_flatMap, List.mem_map, Option.mem_toList] at hc
      obtain ⟨id, hid, f, hf, st, hst, rfl⟩ := hc
      exact h.writes _ t ht id hid st hst f hf

theorem stepped (hok : s.WritesCurrent l) (hs : Stepped digest s l s') : s'.Inv := by
  cases hs with
  | start id m =>
    exact h.put (fun _ hf => nomatch hf) (fun _ hw => nomatch hw) fun _ _ _ _ _ hw => nomatch hw
  | read _ ht hf =>
    refine h.put_same ht rfl rfl rfl fun g hg => ?_
    rcases List.mem_append.mp hg with hg | hg
    · exact h.reads _ _ ht g hg
    · rw [List.mem_singleton.mp hg]
      exact accepts_edge hf
  | sweep ht hm _ =>
    refine h.put_same ht rfl rfl rfl fun g hg st hst => ?_
    simp only [hm, Mutation.target, Option.mem_some] at hst
    exact hst ▸ dueFactors_edge hg
  | write ht hread hfree =>
    refine h.put (fun g hg => h.reads _ _ ht g hg) (fun id hid st hst f hf => ?_)
      fun k u hu hk id hid => ?_
    · rcases List.mem_append.mp hid with hid | hid
      · exact h.writes _ _ ht id hid st hst f hf
      · cases List.mem_singleton.mp hid
        obtain ⟨g, hg, rfl⟩ := hread
        obtain ⟨f', hf', hstatus⟩ := hok _ ht g hg rfl
        cases hf.symm.trans hf'
        exact hstatus ▸ h.reads _ _ ht g hg st hst
    · rcases List.mem_append.mp hid with hid | hid
      · exact h.apart _ _ ht k u hu hk.symm id hid
      · cases List.mem_singleton.mp hid
        exact hfree k u hu hk
  | append ht _ _ _ => exact h.put_same ht rfl rfl rfl fun g hg => h.reads _ _ ht g hg
  | commit ht _ => exact h.committed ht
  | abort _ => exact h.drop _

end Inv

/-- Nothing is open and nothing has been recorded. -/
def initial (factors : Factors) (audit : AuditLog) : State := ⟨factors, audit, .empty, [], []⟩

/-- **Every committed change of a status is an edge of the lifecycle** in each interleaving in
which a factor still has the status its writer has read. -/
theorem changes_edges {factors : Factors} {audit : AuditLog} {labels : List Label}
    (hok : Meets (next digest) WritesCurrent (initial factors audit) labels)
    (hrun : exec (next digest) (initial factors audit) labels = some s) :
    ∀ c ∈ s.changes, Edge c.old c.new ∧
      ((c.old = .rejected ∨ c.old = .expired) → c.new ≠ .published ∧ c.new ≠ .shadow) := by
  have hstart : (initial factors audit).Inv := by
    refine ⟨?_, ?_, ?_, fun c hc => nomatch hc⟩
    all_goals
      intro k t ht
      cases ht
  have hinv :=
    exec_invariant Inv (fun _ _ _ h hok hn => h.stepped hok (next_stepped hn)) hstart hok hrun
  refine fun c hc => ⟨hinv.changes c hc, ?_⟩
  have hedge := hinv.changes c hc
  rintro (h | h) <;> rw [h] at hedge <;> constructor <;> intro hnew <;> rw [hnew] at hedge <;>
    cases hedge

/-! ## Audit events -/

/-- What makes a request a repeated one. -/
def rowKey (row : ControlFactorAuditEvent) : String × ControlAuditEventType × String :=
  (row.requestId, row.eventType, row.resourceId)

def eventKey (e : NewControlFactorAuditEvent) : String × ControlAuditEventType × String :=
  (e.requestId, e.eventType, e.resourceId)

/-- The event that is appended is not a repeated one. -/
def AppendsFresh (s : State) : Label → Prop
  | .append id _ => ∀ t ∈ s.txns.get id, ∀ e ∈ t.due.head?, (s.audit ++ t.rows).Fresh e
  | _ => True

/-- The committed rows are those of the committed mutations, in order; at most one transaction
holds the lock of the chain and has rows to add. -/
structure Chained (s : State) : Prop where
  audit : s.audit = (s.mutations.map (·.rows)).flatten
  view : ∀ k t, s.txns.get k = some t → AuditLog.Linked (s.audit ++ t.rows)
  idle : ∀ k t, s.txns.get k = some t → t.locked = false → t.rows = []
  one : ∀ k t, s.txns.get k = some t → t.locked = true →
    ∀ k' t', s.txns.get k' = some t' → t'.locked = true → k = k'
  linked : s.audit.Linked

/-- Each transaction has a row for each of its events that is not due any more. -/
structure Eventful (s : State) : Prop where
  txns : ∀ k t, s.txns.get k = some t →
    t.rows.map rowKey ++ t.due.map eventKey = (t.mutation.events t.reads).map eventKey
  mutations : ∀ c ∈ s.mutations, c.rows.map rowKey = (c.mutation.events c.reads).map eventKey

theorem drop_appendChained {log rows : AuditLog} {e : NewControlFactorAuditEvent} {now : DateTime}
    {r : ControlFactorAuditEvent × AuditLog}
    (h : (log ++ rows).appendChained digest e now = .ok r) : log ++ r.2.drop log.length = r.2 := by
  obtain ⟨-, hr⟩ | ⟨-, -, hr⟩ := AuditLog.appendChained_cases h <;> simp [hr]

namespace Chained

variable (h : s.Chained)

include h

theorem put (hv : AuditLog.Linked (s.audit ++ t.rows)) (hi : t.locked = false → t.rows = [])
    (ho : t.locked = true → ∀ k u, s.txns.get k = some u → u.locked = true → k = t.id) :
    (s.put t).Chained := by
  refine ⟨h.audit, fun k u hu => ?_, fun k u hu => ?_, fun k u hu hl k' u' hu' hl' => ?_, h.linked⟩
  · rw [get_put] at hu
    split at hu
    · cases hu
      exact hv
    · exact h.view k u hu
  · rw [get_put] at hu
    split at hu
    · cases hu
      exact hi
    · exact h.idle k u hu
  · rw [get_put] at hu hu'
    split at hu <;> split at hu'
    next hk hk' => exact hk.trans hk'.symm
    next hk _ =>
      cases hu
      exact hk.trans (ho hl k' u' hu' hl').symm
    next hk' =>
      cases hu'
      exact (ho hl' k u hu hl).trans hk'.symm
    next => exact h.one k u hu hl k' u' hu' hl'

theorem put_same (hu : s.txns.get u.id = some u) (hid : t.id = u.id) (hr : t.rows = u.rows)
    (hl : t.locked = u.locked) : (s.put t).Chained := by
  refine h.put (hr ▸ h.view _ u hu) ?_ fun hlock k v hv hl' => ?_
  · rw [hl, hr]
    exact h.idle _ u hu
  · rw [hid]
    exact h.one k v hv hl' _ u hu (hl ▸ hlock)

theorem stepped (hs : Stepped digest s l s') : s'.Chained := by
  cases hs with
  | start id m => exact h.put (by simpa [Txn.start] using h.linked) (fun _ => rfl) nofun
  | read _ ht _ => exact h.put_same ht rfl rfl rfl
  | sweep ht _ _ => exact h.put_same ht rfl rfl rfl
  | write ht _ _ => exact h.put_same ht rfl rfl rfl
  | append ht _ hlock happ =>
    refine h.put ?_ nofun fun _ => hlock
    rw [drop_appendChained happ]
    exact (h.view _ _ ht).appendChained happ
  | @commit t ht _ =>
    refine ⟨by simp [State.committed, ← h.audit], fun k u hu => ?_, fun k u hu => ?_,
      fun k u hu hl k' u' hu' => ?_, h.view _ t ht⟩
    · obtain ⟨hk, hu⟩ := get_of_without hu
      change AuditLog.Linked (s.audit ++ t.rows ++ u.rows)
      cases hl : u.locked with
      | false =>
        rw [h.idle k u hu hl, List.append_nil]
        exact h.view _ t ht
      | true =>
        have htl : t.locked = false :=
          Bool.eq_false_iff.mpr fun htl => hk (h.one k u hu hl _ t ht htl)
        rw [h.idle _ t ht htl, List.append_nil]
        exact h.view k u hu
    · exact h.idle k u (get_of_without hu).2
    · exact h.one k u (get_of_without hu).2 hl k' u' (get_of_without hu').2
  | abort _ =>
    exact ⟨h.audit, fun k u hu => h.view k u (get_of_without hu).2,
      fun k u hu => h.idle k u (get_of_without hu).2,
      fun k u hu hl k' u' hu' => h.one k u (get_of_without hu).2 hl k' u' (get_of_without hu').2,
      h.linked⟩

end Chained

namespace Eventful

variable (h : s.Eventful)

include h

theorem put (ht : t.rows.map rowKey ++ t.due.map eventKey =
    (t.mutation.events t.reads).map eventKey) : (s.put t).Eventful := by
  refine ⟨fun k u hu => ?_, h.mutations⟩
  rw [get_put] at hu
  split at hu
  · cases hu
    exact ht
  · exact h.txns k u hu

theorem stepped (hok : s.AppendsFresh l) (hs : Stepped digest s l s') : s'.Eventful := by
  cases hs with
  | start id m => exact h.put rfl
  | @read t f _ ht hf =>
    have hsame : t.mutation.events (t.reads ++ [f]) = t.mutation.events t.reads := by
      cases hm : t.mutation with
      | expire _ _ =>
        rw [hm] at hf
        cases hf
      | publish _ _ | rollback _ _ | reject _ _ | runtimeConfig _ => rfl
    refine h.put ?_
    dsimp only
    rw [hsame]
    exact h.txns _ t ht
  | sweep ht hm hr =>
    have hnone := h.txns _ _ ht
    rw [hm, hr] at hnone
    have hrows := (List.append_eq_nil_iff.mp hnone).1
    refine h.put ?_
    dsimp only
    rw [hrows, List.nil_append]
  | @write t _ ht _ _ => exact h.put (h.txns _ t ht)
  | @append t e due now r ht hdue _ happ =>
    have hrow := h.txns _ t ht
    rw [hdue] at hrow
    have hfresh : (s.audit ++ t.rows).Fresh e := hok t ht e (by simp [hdue])
    obtain ⟨hfound, -⟩ | ⟨-, -, hr⟩ := AuditLog.appendChained_cases happ
    · cases hfresh.symm.trans hfound
    · refine h.put ?_
      simp only [hr, List.append_assoc, List.drop_left, ← hrow, List.map_append, List.map_cons]
      rfl
  | @commit t ht hdue =>
    refine ⟨fun k u hu => h.txns k u (get_of_without hu).2, fun c hc => ?_⟩
    rcases List.mem_append.mp hc with hc | hc
    · exact h.mutations c hc
    · rw [List.mem_singleton.mp hc]
      simpa [hdue] using h.txns _ t ht
  | abort _ => exact ⟨fun k u hu => h.txns k u (get_of_without hu).2, h.mutations⟩

end Eventful

theorem sequences_of_linked {log : AuditLog} (h : log.Linked) :
    log.map (·.sequence) = List.range' 1 log.length := by
  have hrun : ∀ (log : AuditLog) (a : Nat), log.IsChain AuditChain.Follows →
      (∀ row ∈ log.head?, row.sequence = a) → log.map (·.sequence) = List.range' a log.length := by
    intro log
    induction log with
    | nil => intros; rfl
    | cons row rest ih =>
      intro a hchain hhead
      have ha := hhead row rfl
      rw [List.map_cons, List.length_cons, List.range'_succ, ← ha]
      refine congrArg _ (ih _ hchain.tail fun next hnext => ?_)
      exact (hchain.rel_head? hnext).1
  exact hrun log 1 h.chain fun row hrow => (h.genesis row hrow).1

end State

/-! ### A rejection between read and write -/

def shadowFactors : Factors :=
  ⟨["a", "b"].map fun id => { sampleBucketFactor id true with status := .shadow }, by decide⟩

def publishA : Mutation :=
  .publish { samplePublication with factorIds := [⟨"a"⟩] }
    (sampleEnvelope.publicationAudit .publicationCreated ⟨"p1"⟩ [])

def rejectA : Mutation := .reject ⟨"a"⟩ (sampleEnvelope.factorAudit .factorRejected ⟨"a"⟩)

/-- Rollbacks of `p2` to publications of one factor, all under one request id. -/
def rollbackTo (factorId : String) : Mutation :=
  .rollback { samplePublication with factorIds := [⟨factorId⟩] }
    (sampleEnvelope.publicationAudit .publicationRolledBack ⟨"p2"⟩ [])

def firstHalf (id : Nat) (m : Mutation) (factorId : String) : List Label :=
  [.start id m, .read id ⟨factorId⟩]

def secondHalf (id : Nat) (factorId : String) : List Label :=
  [.write id ⟨factorId⟩, .append id 1000, .commit id]

/-- The factor is rejected after the publication has read it, and becomes `Published`. -/
theorem rejected_factor_published :
    ((exec (State.next sampleDigest) (.initial shadowFactors [])
        (firstHalf 1 publishA "a" ++ firstHalf 2 rejectA "a" ++ secondHalf 2 "a" ++
          secondHalf 1 "a")).map (·.changes)) =
      some [⟨⟨"a"⟩, .shadow, .rejected⟩, ⟨⟨"a"⟩, .rejected, .published⟩] := by
  decide +kernel

theorem changes_edges_serial :
    ∃ s, exec (State.next sampleDigest) (.initial shadowFactors [])
        (firstHalf 1 publishA "a" ++ secondHalf 1 "a") = some s ∧
      s.changes = [⟨⟨"a"⟩, .shadow, .published⟩] ∧ ∀ c ∈ s.changes, State.Edge c.old c.new := by
  have hchanges : ((exec (State.next sampleDigest) (.initial shadowFactors [])
      (firstHalf 1 publishA "a" ++ secondHalf 1 "a")).map (·.changes)) =
        some [⟨⟨"a"⟩, .shadow, .published⟩] := by
    decide +kernel
  obtain ⟨s, hs, hc⟩ := Option.map_eq_some_iff.mp hchanges
  exact ⟨s, hs, hc, fun c hmem => (State.changes_edges (by decide +kernel) hs c hmem).1⟩

end OxideArb.ControlFactor.ReadCommitted
