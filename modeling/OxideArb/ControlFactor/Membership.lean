import OxideArb.ControlFactor.Registry

/-!
# Published factors and the active publication

A publication or a rollback writes the status of its own members only. The members of the
publication that leaves keep their status, so that a factor can be `Published` without being a
member of the active publication.
-/

open Checked Transition

namespace OxideArb.ControlFactor

/-- The two calls that move publications. -/
inductive PublicationCall
  | publish (draft : PublicationDraft) (audit : NewControlFactorAuditEvent)
  | rollback (envelope : AuditActor) (activeId targetId : FactorPublicationId)

def PublicationCall.op : PublicationCall → RegistryOp
  | publish draft audit => .publish draft audit
  | rollback envelope activeId targetId => .rollback envelope activeId targetId

namespace RegistryDb

def PublishedFactor (db : RegistryDb) (id : ControlFactorId) : Prop :=
  db.factors.Holds id (·.status = .published)

/-- The factor is a member of the active publication of the published mode. -/
def ActiveMember (db : RegistryDb) (id : ControlFactorId) : Prop :=
  ∃ k, db.publications.ActiveIn .published k ∧ db.publications.Holds k (id ∈ ·.factorIds)

def PublishedAgree (db : RegistryDb) : Prop := ∀ id, db.PublishedFactor id ↔ db.ActiveMember id

/-- A call that fails changes nothing. -/
def publicationStep (digest : CanonicalDigest) (db : RegistryDb)
    (call : PublicationCall × DateTime) : RegistryDb :=
  (db.next digest (call.1.op, call.2)).getD db

/-- The call leaves no published factor behind. -/
def Covers (digest : CanonicalDigest) (db : RegistryDb) (call : PublicationCall × DateTime) :
    Prop :=
  (db.next digest (call.1.op, call.2)).isSome = true →
    match call.1 with
    | .publish draft _ =>
      draft.mode = .published →
        db.publications.findByIdempotency draft.idempotencyKey = none →
          ∀ id, ¬ db.PublishedFactor id
    | .rollback _ activeId targetId =>
      ∀ target, db.publications.get targetId = some target →
        if target.mode = .published then ∀ id, db.PublishedFactor id → id ∈ target.factorIds
        else ¬ db.publications.ActiveIn .published activeId

variable {digest : CanonicalDigest} {db after : RegistryDb} {audit : NewControlFactorAuditEvent}
  {now : DateTime} {publication target : PublicationRow} {ids : List ControlFactorId}
  {activeId targetId : FactorPublicationId} {id : ControlFactorId} {factors : Factors}
  {members : List ControlFactorValue}

theorem loadMembers_mem (h : factors.loadMembers ids = .ok members) (hid : id ∈ ids) :
    ∃ f ∈ members, factors.get id = some f := by
  replace h := Factors.loadMembers_ok.mp h
  induction h with
  | nil => cases hid
  | cons hget _ ih =>
    rcases List.mem_cons.mp hid with rfl | hid
    · exact ⟨_, List.mem_cons_self, hget⟩
    · obtain ⟨f, hf, hget⟩ := ih hid
      exact ⟨f, List.mem_cons_of_mem _ hf, hget⟩

theorem publishedFactor_setStatuses {status : FactorStatus}
    (h : after.factors = db.factors.setStatuses ids status) :
    after.PublishedFactor id ↔
      (id ∈ ids ∧ status = .published ∧ (db.factors.get id).isSome) ∨
        (id ∉ ids ∧ db.PublishedFactor id) := by
  simp only [PublishedFactor, Table.Holds, h, Factors.get_setStatuses]
  cases db.factors.get id with
  | none => simp
  | some f => by_cases hid : id ∈ ids <;> simp [hid]

/-! ### A publication -/

theorem Activated.member (h : db.Activated digest publication audit now after)
    (hid : id ∈ publication.factorIds) :
    db.factors.Holds id (·.status = publication.mode.requiredMemberStatus) := by
  obtain ⟨members, hload, hvalid⟩ := h.members
  unfold ControlFactorPublication.validateForActivation at hvalid
  obtain ⟨-, hvalid⟩ := exit_eq_ok.mp hvalid
  obtain ⟨-, hvalid⟩ := exit_eq_ok.mp hvalid
  obtain ⟨-, hvalid⟩ := exit_eq_ok.mp hvalid
  obtain ⟨f, hf, hget⟩ := loadMembers_mem hload hid
  have hmember := forM_eq_ok.mp hvalid f hf
  unfold ControlFactorPublication.validateMember at hmember
  obtain ⟨-, hmember⟩ := exit_eq_ok.mp hmember
  obtain ⟨hstatus, -⟩ := exit_eq_ok.mp hmember
  exact ⟨f, hget, not_not.mp hstatus⟩

theorem Activated.publishedFactor_iff (h : db.Activated digest publication audit now after) :
    after.PublishedFactor id ↔
      (publication.mode = .published ∧ id ∈ publication.factorIds) ∨ db.PublishedFactor id := by
  rw [publishedFactor_setStatuses h.factors]
  by_cases hid : id ∈ publication.factorIds
  · obtain ⟨f, hget, hstatus⟩ := h.member hid
    simp only [hid, PublishedFactor, Table.Holds, hget]
    cases hm : publication.mode <;>
      simp [hm, hstatus, PublicationMode.targetFactorStatus, PublicationMode.requiredMemberStatus]
  · simp [hid]

theorem Activated.activeMember_iff (h : db.Activated digest publication audit now after) :
    after.ActiveMember id ↔
      if publication.mode = .published then id ∈ publication.factorIds
      else db.ActiveMember id := by
  unfold ActiveMember
  simp only [h.activeIn_iff, eq_comm (a := PublicationMode.published)]
  split
  next hm =>
    simp only [exists_eq_left, Table.Holds, h.publications, if_pos]
    simp [PublicationRow.setStatus, PublicationRow.stored]
  next hm =>
    refine exists_congr fun k => and_congr_right fun hactive => ?_
    have hk : k ≠ publication.id := by
      rintro rfl
      obtain ⟨row, hrow, -⟩ := hactive
      rw [h.fresh] at hrow
      cases hrow
    obtain ⟨row, hrow, hmode, -⟩ := hactive
    have hkeep : ¬ (row.mode = publication.mode ∧ row.status = .active) :=
      fun hs => hm (hs.1.symm.trans hmode)
    simp [Table.Holds, h.publications, hk, hrow, hkeep]

/-! ### A rollback -/

theorem canTransition_of_valid {f : ControlFactorValue} {status : FactorStatus}
    (h : f.validateForTransition status = .ok ()) :
    FactorLifecycle.canTransition f.status status = true := by
  unfold ControlFactorValue.validateForTransition FactorLifecycle.assertTransition at h
  obtain ⟨_, h, -⟩ := bind_eq_ok.mp h
  exact (ite_ok_eq_ok.mp h).1

/-- The call, with the members of its target checked. -/
structure RolledBackTo (digest : CanonicalDigest) (db : RegistryDb)
    (activeId targetId : FactorPublicationId) (target : PublicationRow) (after : RegistryDb) :
    Prop where
  rolled : ∃ audit now, db.RolledBack digest activeId targetId audit now target after
  member : ∀ id ∈ target.factorIds, db.factors.Holds id fun f =>
    FactorLifecycle.canTransition f.status target.mode.targetFactorStatus = true

theorem rollback_ok {envelope : AuditActor}
    (h : db.rollback digest envelope activeId targetId now = .ok after) :
    ∃ target, db.RolledBackTo digest activeId targetId target after := by
  obtain ⟨target, hrolled⟩ := rollback_stepped h
  refine ⟨target, ⟨_, _, hrolled⟩, fun id hid => ?_⟩
  obtain ⟨_, -, h⟩ := bind_eq_ok.mp h
  obtain ⟨_, h, -⟩ := map_eq_ok.mp h
  obtain ⟨target', htarget, h⟩ := bind_eq_ok.mp (mapError_eq_ok.mp h)
  unfold loadPublication at htarget
  rw [hrolled.loaded] at htarget
  cases htarget
  obtain ⟨members, hload, h⟩ := bind_eq_ok.mp h
  obtain ⟨_, hvalid, -⟩ := bind_eq_ok.mp h
  obtain ⟨f, hf, hget⟩ := loadMembers_mem hload hid
  exact ⟨f, hget, canTransition_of_valid (mapError_eq_ok.mp (forM_eq_ok.mp hvalid f hf))⟩

namespace RolledBackTo

variable (h : db.RolledBackTo digest activeId targetId target after)

include h

theorem publishedFactor_iff :
    after.PublishedFactor id ↔
      (target.mode = .published ∧ id ∈ target.factorIds) ∨ db.PublishedFactor id := by
  obtain ⟨audit, now, hrolled⟩ := h.rolled
  rw [publishedFactor_setStatuses hrolled.factors]
  by_cases hid : id ∈ target.factorIds
  · obtain ⟨f, hget, hedge⟩ := h.member id hid
    simp only [hid, PublishedFactor, Table.Holds, hget]
    cases hm : target.mode with
    | published => simp [PublicationMode.targetFactorStatus]
    | shadow =>
      -- a published factor has no way back to shadow
      have hstatus : f.status ≠ .published := by
        rintro hs
        rw [hm, hs] at hedge
        cases hedge
      simp [PublicationMode.targetFactorStatus, hstatus]
  · simp [hid]

theorem activeMember_iff (hone : db.publications.OneActive) :
    after.ActiveMember id ↔
      if target.mode = .published then id ∈ target.factorIds
      else db.ActiveMember id ∧ ¬ db.publications.ActiveIn .published activeId := by
  obtain ⟨audit, now, hrolled⟩ := h.rolled
  unfold ActiveMember
  simp only [hrolled.activeIn_iff, eq_comm (a := PublicationMode.published)]
  split
  next hm =>
    have hnone : ∀ k, ¬ (k ≠ targetId ∧ k ≠ activeId ∧ db.publications.ActiveIn .published k) :=
      fun k hk => (hrolled.unrivalled k (hm ▸ hk.2.2)).elim hk.2.1 hk.1
    simp [hm, hnone, Table.Holds, hrolled.publications, hrolled.loaded, PublicationRow.setStatus]
  next hm =>
    have htarget : ¬ db.publications.ActiveIn .published targetId :=
      fun ha => hm (mode_eq_of_activeIn ha hrolled.loaded)
    simp only [hm, and_false, false_or]
    constructor
    · rintro ⟨k, ⟨hk, hk', ha⟩, hin⟩
      refine ⟨⟨k, ha, ?_⟩, fun hb => hk' (hone _ _ _ ha hb)⟩
      simpa [Table.Holds, hrolled.publications, hk, hk'] using hin
    · rintro ⟨⟨k, ha, hin⟩, hnot⟩
      have hk : k ≠ targetId := fun heq => htarget (heq ▸ ha)
      have hk' : k ≠ activeId := fun heq => hnot (heq ▸ ha)
      refine ⟨k, ⟨hk, hk', ha⟩, ?_⟩
      simpa [Table.Holds, hrolled.publications, hk, hk'] using hin

end RolledBackTo

/-! ### Histories -/

/-- Every publication has members. -/
def NonEmpty (db : RegistryDb) : Prop :=
  ∀ k row, db.publications.get k = some row → row.factorIds ≠ []

theorem Stepped.nonEmpty {call : RegistryOp × DateTime} (h : db.Stepped digest call after)
    (hne : db.NonEmpty) : after.NonEmpty := by
  intro k row hrow
  obtain ⟨op, now⟩ := call
  cases h.publications with
  | kept hkept _ => exact hne k row (hkept ▸ hrow)
  | activated _ hact =>
    rw [hact.publications] at hrow
    split at hrow
    · cases hrow
      obtain ⟨members, -, hvalid⟩ := hact.members
      unfold ControlFactorPublication.validateForActivation at hvalid
      obtain ⟨hsome, -⟩ := exit_eq_ok.mp hvalid
      change (PublicationDraft.sealed _ digest).factorIds ≠ []
      simpa using hsome
    · obtain ⟨old, hold, rfl⟩ := Option.map_eq_some_iff.mp hrow
      have hkeep := hne k old hold
      split <;> exact hkeep
  | rolledBack hrolled =>
    rw [hrolled.publications] at hrow
    obtain ⟨old, hold, rfl⟩ := Option.map_eq_some_iff.mp hrow
    have hkeep := hne k old hold
    split
    · exact hkeep
    · split <;> exact hkeep

theorem Activated.agree_iff (h : db.Activated digest publication audit now after)
    (hagree : db.PublishedAgree) :
    after.PublishedAgree ↔ (publication.mode = .published → ∀ id, ¬ db.PublishedFactor id) := by
  simp only [PublishedAgree, h.publishedFactor_iff, h.activeMember_iff]
  cases hm : publication.mode with
  | shadow => simpa [PublishedAgree] using hagree
  | published =>
    simp only [true_and, if_true, forall_const, or_iff_left_iff_imp]
    refine ⟨fun hall id hp => ?_, fun hnone id hp => absurd hp (hnone id)⟩
    -- a member was in shadow
    obtain ⟨f, hget, hstatus⟩ := h.member (hall id hp)
    obtain ⟨f', hget', hstatus'⟩ := hp
    rw [hget] at hget'
    cases hget'
    rw [hm, hstatus'] at hstatus
    cases hstatus

theorem RolledBackTo.agree_iff (h : db.RolledBackTo digest activeId targetId target after)
    (hone : db.publications.OneActive) (hne : db.NonEmpty) (hagree : db.PublishedAgree) :
    after.PublishedAgree ↔
      if target.mode = .published then ∀ id, db.PublishedFactor id → id ∈ target.factorIds
      else ¬ db.publications.ActiveIn .published activeId := by
  simp only [PublishedAgree, h.publishedFactor_iff, h.activeMember_iff hone]
  cases hm : target.mode with
  | published => simp only [true_and, if_true, or_iff_left_iff_imp]
  | shadow =>
    simp only [reduceCtorEq, false_and, false_or, if_false]
    refine ⟨fun hall hactive => ?_, fun hnot id => ?_⟩
    · obtain ⟨row, hrow, -⟩ := id hactive
      obtain ⟨id, hid⟩ := List.exists_mem_of_ne_nil _ (hne _ row hrow)
      have hpub := (hagree id).mpr ⟨activeId, hactive, row, hrow, hid⟩
      exact ((hall id).mp hpub).2 hactive
    · rw [hagree id, and_iff_left hnot]

theorem agree_step_iff (hone : db.publications.OneActive) (hne : db.NonEmpty)
    (hagree : db.PublishedAgree) (call : PublicationCall × DateTime) :
    (db.publicationStep digest call).PublishedAgree ↔ db.Covers digest call := by
  obtain ⟨call, now⟩ := call
  unfold publicationStep Covers
  cases hn : db.next digest (call.op, now) with
  | none => simpa using hagree
  | some after =>
    simp only [Option.getD_some, Option.isSome_some, forall_const]
    have hok := toOption_eq_some.mp hn
    cases call with
    | publish draft audit =>
      obtain ⟨⟨outcome, result⟩, hpublish, hresult⟩ := map_eq_ok.mp hok
      cases hresult
      obtain ⟨existing, hfound, -, rfl⟩ | ⟨hnone, hact⟩ :=
        publishPublication_cases (mapError_eq_ok.mp hpublish)
      · exact iff_of_true hagree fun _ hnone => by cases hnone.symm.trans hfound
      · rw [hact.agree_iff hagree]
        exact imp_congr_right fun _ => ⟨fun h _ => h, fun h => h hnone⟩
    | rollback envelope activeId targetId =>
      obtain ⟨target, hto⟩ := rollback_ok hok
      obtain ⟨_, _, hrolled⟩ := hto.rolled
      rw [hto.agree_iff hone hne hagree]
      simp [hrolled.loaded]

/-- **Published factors are the members of the active publication** in every state of a history
of publications and rollbacks exactly when each published-mode publication is made while no
factor is published, each rollback to a published-mode target has all published factors among
the target's members, and no rollback to a shadow target names the active published one. -/
theorem publishedAgree_along_iff {history : List (RegistryOp × DateTime)}
    (hrun : exec (next digest) .empty history = some db) (hagree : db.PublishedAgree)
    (calls : List (PublicationCall × DateTime)) :
    Along (publicationStep digest) PublishedAgree db calls ↔
      Meets (fun db call => some (db.publicationStep digest call)) (Covers digest) db calls := by
  have hkeep : ∀ db call, (db.publications.OneActive ∧ db.NonEmpty) →
      (publicationStep digest db call).publications.OneActive ∧
        (publicationStep digest db call).NonEmpty := by
    intro db call hdb
    unfold publicationStep
    cases hn : db.next digest (call.1.op, call.2) with
    | none => exact hdb
    | some after =>
      have hs := next_stepped hn
      exact ⟨hs.oneActive hdb.1, hs.nonEmpty hdb.2⟩
  have hempty : RegistryDb.empty.NonEmpty := by
    intro k row hrow
    cases hrow
  have hne : db.NonEmpty := exec_preserves NonEmpty
    (fun _ _ _ hne hstep => (next_stepped hstep).nonEmpty hne) hempty hrun
  refine along_iff_meets
    (fun db : RegistryDb => (db.publications.OneActive ∧ db.NonEmpty) ∧ db.PublishedAgree)
    (fun _ h => h.2) ?_ ?_ ⟨⟨oneActive_of_exec hrun, hne⟩, hagree⟩
  · intro db call h hok
    exact ⟨hkeep db call h.1, (agree_step_iff h.1.1 h.1.2 h.2 call).mpr hok⟩
  · intro db call h hno hp
    exact hno ((agree_step_iff h.1.1 h.1.2 h.2 call).mp hp)

theorem publishedAgree_of_none (hf : ∀ f ∈ db.factors.rows, f.status ≠ .published)
    (hp : ∀ row ∈ db.publications.rows, row.status ≠ .active) : db.PublishedAgree := by
  refine fun id => iff_of_false ?_ ?_
  · rintro ⟨f, hget, hstatus⟩
    exact hf f (db.factors.get_eq_some_iff.mp hget).1 hstatus
  · rintro ⟨k, ⟨row, hget, -, hactive⟩, -⟩
    exact hp row (db.publications.get_eq_some_iff.mp hget).1 hactive

end RegistryDb

def sampleCreated : RegistryDb :=
  ((RegistryDb.next sampleDigest .empty (sampleCreate "a"))).getD .empty

theorem publishedAgree_along_iff_created :
    Along (RegistryDb.publicationStep sampleDigest) RegistryDb.PublishedAgree sampleCreated
        [(.publish (sampleDraft "s" .shadow [⟨"a"⟩])
          (sampleEnvelope.publicationAudit .publicationCreated ⟨"s"⟩ []), 1000)] ↔
      Meets (fun db call => some (db.publicationStep sampleDigest call))
        (RegistryDb.Covers sampleDigest) sampleCreated
        [(.publish (sampleDraft "s" .shadow [⟨"a"⟩])
          (sampleEnvelope.publicationAudit .publicationCreated ⟨"s"⟩ []), 1000)] := by
  have hsome : (RegistryDb.next sampleDigest .empty (sampleCreate "a")).isSome = true := by
    decide +kernel
  have hrun : exec (RegistryDb.next sampleDigest) .empty [sampleCreate "a"] =
      some sampleCreated := by
    obtain ⟨db, hdb⟩ := Option.isSome_iff_exists.mp hsome
    simp only [exec, sampleCreated, hdb, Option.bind_some, Option.getD_some]
  exact RegistryDb.publishedAgree_along_iff hrun
    (RegistryDb.publishedAgree_of_none (by decide +kernel) (by decide +kernel)) _

/-- After `b` is published, `a` is still `Published` and no longer a member of the active
publication. -/
theorem superseded_member_stays_published :
    (sampleRegistry.factors.get ⟨"a"⟩).map (·.status) = some .published ∧
      (sampleRegistry.publications.loadActive .published).map (·.factorIds) = some [⟨"b"⟩] := by
  decide +kernel

end OxideArb.ControlFactor
