import OxideArb.ControlFactor.Registry

/-!
# Stored hashes against stored values

Every committed call keeps the stored hashes acceptable exactly when the timestamps it hashes
are whole microseconds (`Stepped.verifies_iff`).
-/

open Checked Transition

namespace OxideArb.ControlFactor

/-! ## Publications -/

namespace PublicationRow

/-- The publication is accepted, in whatever order its members are loaded. -/
def Verifies (digest : CanonicalDigest) (row : PublicationRow) : Prop :=
  ∀ members : List ControlFactorId, members.Perm row.factorIds →
    PublicationHasher.verify digest
      { row.toControlFactorPublication with factorIds := members } = .ok ()

variable {digest : CanonicalDigest}

variable {row : PublicationRow} {status : PublicationStatus}

theorem verifies_iff : row.Verifies digest ↔
      row.publicationHash = PublicationHasher.compute digest row.toControlFactorPublication := by
  constructor
  · intro h
    exact PublicationHasher.verify_ok_iff.mp (h row.factorIds (List.Perm.refl _))
  · intro h members hperm
    refine PublicationHasher.verify_ok_iff.mpr (h.trans ?_)
    unfold PublicationHasher.compute
    rw [PublicationHasher.canonicalInput_perm hperm]

theorem setStatus_verifies_iff : (row.setStatus status).Verifies digest ↔ row.Verifies digest := by
  rw [verifies_iff, verifies_iff]
  exact Iff.rfl

theorem ite_setStatus_verifies_iff {c : Prop} [Decidable c] :
    (if c then row.setStatus status else row).Verifies digest ↔ row.Verifies digest := by
  split
  · exact setStatus_verifies_iff
  · exact Iff.rfl

theorem stored_sealed_verifies_iff (hdigest : digest.TellsRounding) (draft : PublicationDraft) :
    (draft.sealed digest).stored.Verifies digest ↔
      WholeMicros draft.effectiveFrom ∧ WholeMicros draft.expiresAt := by
  let input := PublicationHasher.canonicalInput (draft.sealed digest).toControlFactorPublication
  have hinput : input.stored = input ↔
      WholeMicros draft.effectiveFrom ∧ WholeMicros draft.expiresAt :=
    PublicationCanonicalInput.stored_eq_iff
  rw [verifies_iff, ← hinput]
  change "blake3:" ++ digest.publicationHex input =
      "blake3:" ++ digest.publicationHex input.stored ↔
    input.stored = input
  constructor
  · intro h
    exact hdigest.publication input ((String.append_right_inj _).mp h).symm
  · intro h
    rw [h]

end PublicationRow

/-! ## The chain -/

namespace AuditLog

variable {digest : CanonicalDigest} {log log' : AuditLog} {now : DateTime}

theorem Fresh.of_appendChained {event other : NewControlFactorAuditEvent}
    {row : ControlFactorAuditEvent} (h : log.appendChained digest event now = .ok (row, log'))
    (hfresh : log'.Fresh other) : log.Fresh other := by
  obtain ⟨-, rfl⟩ | ⟨-, -, rfl⟩ := appendChained_cases h
  · exact hfresh
  · unfold Fresh findByIdempotency at hfresh ⊢
    rw [List.find?_append, Option.or_eq_none_iff] at hfresh
    exact hfresh.1

variable {events : List NewControlFactorAuditEvent}

theorem intact_appendAll_iff (hdigest : digest.TellsRounding)
    (h : RegistryDb.appendAll digest log events now = .ok log') : log'.Intact digest ↔
      log.Intact digest ∧ ∀ event ∈ events, log.Fresh event → WholeMicros now := by
  induction events generalizing log with
  | nil =>
    cases h
    exact (and_iff_left fun _ hmem => absurd hmem List.not_mem_nil).symm
  | cons event events ih =>
    obtain ⟨row, next, hrow, hrest⟩ := RegistryDb.appendAll_cons.mp h
    rw [ih hrest, intact_appendChained_iff hdigest hrow, List.forall_mem_cons, and_assoc]
    refine and_congr_right fun _ => and_congr_right fun hevent => ?_
    refine forall₂_congr fun other _ => ?_
    constructor
    · intro hwhole hfresh
      obtain ⟨-, rfl⟩ | ⟨hnone, -, -⟩ := appendChained_cases hrow
      · exact hwhole hfresh
      -- the event itself was written, which asks for the same
      · exact hevent hnone
    · exact fun hwhole hfresh => hwhole (hfresh.of_appendChained hrow)

theorem Linked.appendAll (hlog : log.Linked)
    (h : RegistryDb.appendAll digest log events now = .ok log') : log'.Linked := by
  induction events generalizing log with
  | nil =>
    cases h
    exact hlog
  | cons event events ih =>
    obtain ⟨row, next, hrow, hrest⟩ := RegistryDb.appendAll_cons.mp h
    exact ih (hlog.appendChained hrow) hrest

end AuditLog

/-! ## The registry -/

/-- Every stored publication and every slice of the chain is accepted. -/
structure RegistryDb.Verifies (digest : CanonicalDigest) (db : RegistryDb) : Prop where
  publications : ∀ id row, db.publications.get id = some row → row.Verifies digest
  audit : ∀ fromSequence limit,
    AuditChain.verify digest (db.audit.loadChain fromSequence limit) = .ok ()

def RegistryOp.insertedDraft (db : RegistryDb) : RegistryOp → Option PublicationDraft
  | .publish draft _ =>
    if (db.publications.findByIdempotency draft.idempotencyKey).isSome then none else some draft
  | _ => none

def RegistryOp.HashesWholeMicros (db : RegistryDb) (call : RegistryOp × DateTime) : Prop :=
  (∀ draft ∈ call.1.insertedDraft db,
      WholeMicros draft.effectiveFrom ∧ WholeMicros draft.expiresAt) ∧
    ∀ event ∈ call.1.events db call.2, db.audit.Fresh event → WholeMicros call.2

instance (log : AuditLog) (event : NewControlFactorAuditEvent) : Decidable (log.Fresh event) :=
  inferInstanceAs (Decidable (log.findByIdempotency event = none))

instance (db : RegistryDb) (call : RegistryOp × DateTime) :
    Decidable (RegistryOp.HashesWholeMicros db call) :=
  inferInstanceAs (Decidable ((∀ draft ∈ call.1.insertedDraft db,
      WholeMicros draft.effectiveFrom ∧ WholeMicros draft.expiresAt) ∧
    ∀ event ∈ call.1.events db call.2, db.audit.Fresh event → WholeMicros call.2))

namespace RegistryDb

variable {digest : CanonicalDigest} {db after : RegistryDb} {call : RegistryOp × DateTime}

theorem Stepped.publications_verify_iff (hdigest : digest.TellsRounding)
    (h : db.Stepped digest call after) :
    (∀ id row, after.publications.get id = some row → row.Verifies digest) ↔
      (∀ id row, db.publications.get id = some row → row.Verifies digest) ∧
      ∀ draft ∈ call.1.insertedDraft db,
        WholeMicros draft.effectiveFrom ∧ WholeMicros draft.expiresAt := by
  obtain ⟨op, now⟩ := call
  cases h.publications with
  | kept hpublications hrepeated =>
    have hnone : op.insertedDraft db = none := by
      cases op with
      | publish draft audit => exact if_pos (hrepeated draft audit rfl)
      | _ => rfl
    rw [hpublications, hnone]
    exact (and_iff_left fun _ hmem => nomatch hmem).symm
  | @activated draft audit hfresh hactivated =>
    have hget := hactivated.publications
    have hinserted : (RegistryOp.publish draft audit).insertedDraft db = some draft :=
      if_neg (by rw [hfresh]; exact Bool.false_ne_true)
    rw [hinserted]
    constructor
    · intro hall
      refine ⟨fun k row hrow => ?_, fun draft' hmem => ?_⟩
      · have hk : k ≠ (draft.sealed digest).id := by
          rintro rfl
          rw [hactivated.fresh] at hrow
          cases hrow
        have hafter := hget k
        rw [if_neg hk, hrow, Option.map_some] at hafter
        exact PublicationRow.ite_setStatus_verifies_iff.mp (hall k _ hafter)
      · cases hmem
        have hnew := hget (draft.sealed digest).id
        rw [if_pos rfl] at hnew
        refine (PublicationRow.stored_sealed_verifies_iff hdigest draft).mp ?_
        exact PublicationRow.setStatus_verifies_iff.mp (hall _ _ hnew)
    · rintro ⟨hdb, hwhole⟩ k row hrow
      rw [hget k] at hrow
      by_cases hk : k = (draft.sealed digest).id
      · rw [if_pos hk] at hrow
        cases hrow
        refine PublicationRow.setStatus_verifies_iff.mpr ?_
        exact (PublicationRow.stored_sealed_verifies_iff hdigest draft).mpr
          (hwhole draft rfl)
      · rw [if_neg hk] at hrow
        obtain ⟨old, hold, rfl⟩ := Option.map_eq_some_iff.mp hrow
        exact PublicationRow.ite_setStatus_verifies_iff.mpr (hdb k old hold)
  | rolledBack hrolled =>
    have hget := hrolled.publications
    have hmarked : ∀ {k activeId targetId : FactorPublicationId} {row : PublicationRow},
        (if k = targetId then row.setStatus .active
          else if k = activeId then row.setStatus .rolledBack else row).Verifies digest ↔
        row.Verifies digest := by
      intro k activeId targetId row
      split
      · exact PublicationRow.setStatus_verifies_iff
      · exact PublicationRow.ite_setStatus_verifies_iff
    constructor
    · intro hall
      refine ⟨fun k row hrow => ?_, fun _ hmem => nomatch hmem⟩
      have hafter := hget k
      rw [hrow, Option.map_some] at hafter
      exact hmarked.mp (hall k _ hafter)
    · rintro ⟨hdb, -⟩ k row hrow
      rw [hget k] at hrow
      obtain ⟨old, hold, rfl⟩ := Option.map_eq_some_iff.mp hrow
      exact hmarked.mpr (hdb k old hold)

/-- **A committed call keeps everything accepted** exactly when what it hashes is whole
microseconds. -/
theorem Stepped.verifies_iff (hdigest : digest.TellsRounding) (hlog : db.audit.Linked)
    (h : db.Stepped digest call after) :
    after.Verifies digest ↔ db.Verifies digest ∧ RegistryOp.HashesWholeMicros db call := by
  have haudit := AuditLog.intact_appendAll_iff hdigest h.audit
  rw [← (hlog.appendAll h.audit).verify_iff digest, ← hlog.verify_iff digest] at haudit
  have hpublications := h.publications_verify_iff hdigest
  constructor
  · rintro ⟨hrows, hchain⟩
    obtain ⟨hrows, hwindow⟩ := hpublications.mp hrows
    obtain ⟨hchain, hevents⟩ := haudit.mp hchain
    exact ⟨⟨hrows, hchain⟩, hwindow, hevents⟩
  · rintro ⟨⟨hrows, hchain⟩, hwindow, hevents⟩
    exact ⟨hpublications.mpr ⟨hrows, hwindow⟩, haudit.mpr ⟨hchain, hevents⟩⟩

theorem verifies_empty (digest : CanonicalDigest) : RegistryDb.empty.Verifies digest :=
  ⟨(fun _ _ h => nomatch h),
    (AuditLog.Linked.nil.verify_iff digest).mpr fun _ hmem => nomatch hmem⟩

end RegistryDb

/-- **What the registry holds is accepted** exactly when every timestamp that went into a hash
was a whole microsecond. -/
theorem stored_verifies_iff {digest : CanonicalDigest} (hdigest : digest.TellsRounding)
    {calls : List (RegistryOp × DateTime)} {db : RegistryDb}
    (hrun : exec (RegistryDb.next digest) .empty calls = some db) :
    db.Verifies digest ↔
      Meets (RegistryDb.next digest) RegistryOp.HashesWholeMicros .empty calls := by
  have hiff := exec_iff_meets (fun db : RegistryDb => db.audit.Linked) (RegistryDb.Verifies digest)
    (fun _ _ _ hlog hstep => hlog.appendAll (RegistryDb.next_stepped hstep).audit)
    (fun _ _ _ hlog hstep => (RegistryDb.next_stepped hstep).verifies_iff hdigest hlog)
    AuditLog.Linked.nil hrun
  rw [hiff]
  exact and_iff_right (RegistryDb.verifies_empty digest)

theorem sampleDigest_tellsRounding : sampleDigest.TellsRounding := by
  have hmark : ∀ text : String, "" ++ text ≠ "~" ++ text := by
    intro text h
    have hlength := congrArg String.length h
    simp at hlength
  constructor
  · intro input h
    by_contra hne
    have hidem : input.stored.stored = input.stored := by
      rw [PublicationCanonicalInput.stored_eq_iff]
      exact ⟨wholeMicros_storeTimestamp _, wholeMicros_storeTimestamp _⟩
    simp only [sampleDigest, hidem, hne, if_true, if_false] at h
    exact hmark _ h
  · intro content h
    by_contra hne
    have hidem : content.stored.stored = content.stored := by
      rw [AuditEventContent.stored_eq_iff]
      exact wholeMicros_storeTimestamp _
    simp only [sampleDigest, hidem, hne, if_true, if_false] at h
    exact hmark _ h

/-- The sample history runs on whole microseconds. -/
theorem stored_verifies_iff_sample :
    sampleRegistry.Verifies sampleDigest :=
  (stored_verifies_iff sampleDigest_tellsRounding sampleRegistry_run).mpr (by decide +kernel)

/-- A factor is created and put in shadow, effective one nanosecond past a whole second: the
event of its creation and the publication are both refused when they are read back. -/
theorem stored_refused_after_rounding :
    (exec (RegistryDb.next sampleDigest) .empty
        [((sampleCreate "a").1, 1000000001),
          (.publish { sampleDraft "s1" .shadow [⟨"a"⟩] with
              effectiveFrom := 1000000001, expiresAt := 2000000000 }
            (sampleEnvelope.publicationAudit .publicationCreated ⟨"s1"⟩ []), 1000002000)]).map
      (fun db => ((AuditChain.verify sampleDigest (db.audit.loadChain 1 1000)).isOk,
        db.publications.rows.map fun row =>
          (PublicationHasher.verify sampleDigest row.toControlFactorPublication).isOk)) =
      some (false, [false]) := by
  decide +kernel

end OxideArb.ControlFactor
