import OxideArb.ControlFactor.Audit
import OxideArb.ControlFactor.Restrictions
import OxideArb.Lib.Checked
import OxideArb.Lib.Table
import OxideArb.Lib.Transition

/-!
# The registry of publications and factors

Every governed change is one atomic transaction on the publications, the factors and the audit
chain. A publication supersedes the active one of its own mode; a rollback takes both rows from
its caller and only the target's mode is looked at.
-/

open Checked Transition

namespace OxideArb.ControlFactor

structure PublicationRow extends ControlFactorPublication where
  idempotencyKey : String
deriving DecidableEq, Repr

def PublicationRow.id (row : PublicationRow) : FactorPublicationId := row.publicationId

variable (row : PublicationRow) (id : String)

def PublicationRow.setStatus (status : PublicationStatus) : PublicationRow :=
  { row with status }

@[simp] theorem PublicationRow.setStatus_id (status : PublicationStatus) :
    (row.setStatus status).id = row.id := rfl

/-- The row as it is read back. -/
def PublicationRow.stored : PublicationRow :=
  { row with
    effectiveFrom := storeTimestamp row.effectiveFrom
    expiresAt := storeTimestamp row.expiresAt }

abbrev Publications := Table PublicationRow.id

abbrev Factors := Table ControlFactorValue.factorId

structure RegistryDb where
  publications : Publications
  factors : Factors
  audit : AuditLog

def RegistryDb.empty : RegistryDb := ⟨.empty, .empty, []⟩

namespace Publications

variable (publications : Publications)

def findByIdempotency (key : String) : Option PublicationRow :=
  publications.rows.find? (·.idempotencyKey = key)

def loadActive (mode : PublicationMode) : Option PublicationRow :=
  publications.rows.find? fun row => row.mode = mode && row.status = .active

def insertPending (row : PublicationRow) : Except StorageError Publications :=
  match publications.insert (row.stored.setStatus .pending) with
  | none => .error (.uniqueViolation "control_factor_publication_pkey")
  | some inserted =>
    if row.factorIds.Nodup then .ok inserted
    else .error (.uniqueViolation "control_factor_publication_factor_pkey")

/-- `UPDATE .. SET status = 'superseded' WHERE mode = .. AND status = 'active'`. -/
def supersedeActive (mode : PublicationMode) : Publications :=
  publications.updateWhere (fun row => row.mode = mode && row.status = .active)
    (·.setStatus .superseded) (·.setStatus_id .superseded)

/-- `UPDATE .. SET status = .. WHERE publication_id = ..`. -/
def setStatus (id : FactorPublicationId) (status : PublicationStatus) : Publications :=
  (publications.updateKey id (fun _ => true) (·.setStatus status) (·.setStatus_id status)).2

/-- `UPDATE .. SET status = 'active' WHERE publication_id = ..`, under the unique index of
active rows. -/
def activate (id : FactorPublicationId) : Except StorageError Publications :=
  if (publications.get id).any fun row => publications.rows.any fun other =>
      other.id ≠ id && other.mode = row.mode && other.status = .active then
    .error (.uniqueViolation "idx_control_factor_publication_active_mode")
  else .ok (publications.setStatus id .active)

end Publications

namespace Factors

variable (factors : Factors)

def setStatus (id : ControlFactorId) (status : FactorStatus) : Factors :=
  (factors.updateKey id (fun _ => true) (fun factor => { factor with status }) fun _ => rfl).2

def setStatuses (ids : List ControlFactorId) (status : FactorStatus) : Factors :=
  ids.foldl (setStatus · · status) factors

/-- One read by id after the other. -/
def loadMembers (ids : List ControlFactorId) : Except StorageError (List ControlFactorValue) :=
  ids.mapM fun id =>
    match factors.get id with
    | none => .error (.notFound "control_factor_value" id.raw)
    | some factor => .ok factor

end Factors

/-! ## Transactions -/

inductive PublishPublicationOutcome
  | published (value : PublicationRow) (auditSequence : Nat)
  | alreadyApplied (value : PublicationRow)
deriving DecidableEq, Repr

namespace RegistryDb

variable (digest : CanonicalDigest) (db : RegistryDb)

/-- `load_publication_info_q`, of a row that must be there. -/
def loadPublication (publications : Publications) (id : FactorPublicationId) :
    Except StorageError PublicationRow :=
  match publications.get id with
  | none => .error (.notFound "control_factor_publication" id.raw)
  | some row => .ok row

/-- The part of `publish_publication_q` after the idempotency checks. -/
def activateNew (publication : PublicationRow) (audit : NewControlFactorAuditEvent)
    (now : DateTime) : Except StorageError (PublishPublicationOutcome × RegistryDb) := do
  let members ← db.factors.loadMembers publication.factorIds
  (publication.toControlFactorPublication.validateForActivation members).mapError .conflict
  let inserted ← db.publications.insertPending publication
  let publications ← (inserted.supersedeActive publication.mode).activate publication.id
  let factors := db.factors.setStatuses publication.factorIds publication.mode.targetFactorStatus
  let (event, log) ← db.audit.appendChained digest audit now
  let info ← loadPublication publications publication.id
  return (.published info event.sequence, ⟨publications, factors, log⟩)

def publishPublication (publication : PublicationRow) (audit : NewControlFactorAuditEvent)
    (now : DateTime) : Except StorageError (PublishPublicationOutcome × RegistryDb) :=
  if publication.factorIds.isEmpty then
    .error (.codec "control-factor publication must contain at least one factor")
  else match db.publications.findByIdempotency publication.idempotencyKey with
    | some existing => .ok (.alreadyApplied existing, db)
    | none => db.activateNew digest publication audit now

def rollbackPublication (activeId targetId : FactorPublicationId)
    (audit : NewControlFactorAuditEvent) (now : DateTime) :
    Except StorageError (PublicationRow × Nat × RegistryDb) := do
  let target ← loadPublication db.publications targetId
  let members ← db.factors.loadMembers target.factorIds
  let status := target.mode.targetFactorStatus
  members.forM fun factor =>
    (factor.validateForTransition status).mapError (.conflict ∘ .factorValue)
  let publications ← (db.publications.setStatus activeId .rolledBack).activate targetId
  let factors := db.factors.setStatuses target.factorIds status
  let (event, log) ← db.audit.appendChained digest audit now
  let info ← loadPublication publications targetId
  return (info, event.sequence, ⟨publications, factors, log⟩)

def createFactor (factor : ControlFactorValue) (audit : NewControlFactorAuditEvent)
    (now : DateTime) : Except StorageError (ControlFactorValue × RegistryDb) :=
  let stored : ControlFactorValue :=
    { factor with
      generatedAt := storeTimestamp factor.generatedAt
      expiresAt := storeTimestamp factor.expiresAt }
  match db.factors.insert stored with
  | none => .error (.uniqueViolation "control_factor_value_pkey")
  | some factors => do
    let (_, log) ← db.audit.appendChained digest audit now
    return (stored, { db with factors, audit := log })

def rejectFactor (factorId : ControlFactorId) (audit : NewControlFactorAuditEvent)
    (now : DateTime) : Except StorageError (Option Nat × RegistryDb) :=
  match db.factors.get factorId with
  | none => .ok (none, db)
  | some factor => do
    (factor.validateForTransition .rejected).mapError (.conflict ∘ .factorValue)
    let (event, log) ← db.audit.appendChained digest audit now
    return (some event.sequence,
      { db with factors := db.factors.setStatus factorId .rejected, audit := log })

end RegistryDb

/-! ## Audit envelopes -/

structure AuditActor where
  actor : String
  actorRole : String
  requestId : String
  reason : String
deriving DecidableEq, Repr

inductive RegistryError
  | governance (source : GovernanceError)
  | missingField (field : String)
  | missingReason
  | storage (source : StorageError)
deriving DecidableEq, Repr

namespace AuditActor

variable (envelope : AuditActor) (eventType : ControlAuditEventType)

def validate : Except RegistryError Unit :=
  if envelope.actor.toList.all isWhitespace then .error (.missingField "actor")
  else if envelope.requestId.toList.all isWhitespace then .error (.missingField "request_id")
  else if envelope.reason.toList.all isWhitespace then .error .missingReason
  else .ok ()

def event (resourceType : AuditResourceType) (resourceId : String)
    (diff : List (String × DiffValue)) : NewControlFactorAuditEvent :=
  { eventType, actor := envelope.actor, actorRole := envelope.actorRole, resourceType, resourceId
    requestId := envelope.requestId, reason := envelope.reason, beforeHash := none
    afterHash := none, diff }

def factorAudit (factorId : ControlFactorId) : NewControlFactorAuditEvent :=
  envelope.event eventType .factor factorId.raw [("reason", .text envelope.reason)]

def publicationAudit (publicationId : FactorPublicationId) (diff : List (String × DiffValue)) :
    NewControlFactorAuditEvent :=
  envelope.event eventType .publication publicationId.raw diff

end AuditActor

namespace RegistryDb

variable (digest : CanonicalDigest) (db : RegistryDb)

def dueFactors (now : DateTime) : List ControlFactorValue :=
  db.factors.rows.filter fun factor => factor.expiresAt ≤ now &&
    (factor.status = .candidate || factor.status = .shadow || factor.status = .published ||
      factor.status = .reportOnly)

def expiryEvent (envelope : AuditActor) (factor : ControlFactorValue) :
    NewControlFactorAuditEvent :=
  envelope.event .factorExpired .factor factor.factorId.raw
    [("from_status", .text factor.status.asStr), ("to_status", .text FactorStatus.expired.asStr),
      ("expires_at", .time factor.expiresAt)]

def appendAll (log : AuditLog) (events : List NewControlFactorAuditEvent) (now : DateTime) :
    Except StorageError AuditLog :=
  events.foldlM (fun log event => (·.2) <$> log.appendChained digest event now) log

def expireFactors (now : DateTime) (envelope : AuditActor) :
    Except StorageError (List ControlFactorId × RegistryDb) := do
  let due := db.dueFactors now
  let log ← appendAll digest db.audit (due.map (expiryEvent envelope)) now
  let ids := due.map (·.factorId)
  return (ids, { db with factors := db.factors.setStatuses ids .expired, audit := log })

end RegistryDb

/-! ## Governance calls -/

structure PublicationDraft where
  publicationId : FactorPublicationId
  mode : PublicationMode
  factorIds : List ControlFactorId
  previousPublicationId : Option FactorPublicationId
  effectiveFrom : DateTime
  expiresAt : DateTime
  approvedBy : String
  approvalReason : String
  idempotencyKey : String
deriving DecidableEq, Repr

def PublicationDraft.sealed (draft : PublicationDraft) (digest : CanonicalDigest) :
    PublicationRow :=
  { PublicationHasher.sealPublication digest
      { publicationId := draft.publicationId, mode := draft.mode, factorIds := draft.factorIds
        previousPublicationId := draft.previousPublicationId, status := .pending
        effectiveFrom := draft.effectiveFrom, expiresAt := draft.expiresAt
        approvedBy := some draft.approvedBy, approvalReason := draft.approvalReason
        publicationHash := "" } with
    idempotencyKey := draft.idempotencyKey }

/-- The changes that are committed; `publish` is the last step of a publication. -/
inductive RegistryOp
  | createFactor (factor : ControlFactorValue) (audit : NewControlFactorAuditEvent)
  | rejectFactor (envelope : AuditActor) (factorId : ControlFactorId)
  | expireFactors (envelope : AuditActor)
  | publish (draft : PublicationDraft) (audit : NewControlFactorAuditEvent)
  | rollback (envelope : AuditActor) (activeId targetId : FactorPublicationId)
  | appendAuditEvent (event : NewControlFactorAuditEvent)

namespace RegistryDb

variable (digest : CanonicalDigest) (db : RegistryDb)

def rollback (envelope : AuditActor) (activeId targetId : FactorPublicationId) (now : DateTime) :
    Except RegistryError RegistryDb := do
  envelope.validate
  let audit := envelope.publicationAudit .publicationRolledBack activeId
    [("target_publication_id", .text targetId.raw)]
  (fun outcome => outcome.2.2) <$>
    (db.rollbackPublication digest activeId targetId audit now).mapError .storage

/-- One committed change, at the time of its transaction. -/
def apply (now : DateTime) : RegistryOp → Except RegistryError RegistryDb
  | .createFactor factor audit =>
    (·.2) <$> (db.createFactor digest factor audit now).mapError .storage
  | .rejectFactor envelope factorId => do
    envelope.validate
    (·.2) <$> (db.rejectFactor digest factorId (envelope.factorAudit .factorRejected factorId)
      now).mapError .storage
  | .expireFactors envelope => do
    envelope.validate
    (·.2) <$> (db.expireFactors digest now envelope).mapError .storage
  | .publish draft audit =>
    (·.2) <$> (db.publishPublication digest (draft.sealed digest) audit now).mapError .storage
  | .rollback envelope activeId targetId => db.rollback digest envelope activeId targetId now
  | .appendAuditEvent event =>
    (fun outcome => { db with audit := outcome.2 }) <$>
      (db.audit.appendChained digest event now).mapError .storage

/-- A call that fails changes nothing, so that only the others are steps. -/
def next (db : RegistryDb) (call : RegistryOp × DateTime) : Option RegistryDb :=
  (db.apply digest call.2 call.1).toOption

end RegistryDb

/-! ## What the updates do to a row -/

namespace Publications

variable {publications after : Publications}

theorem get_setStatus (publications : Publications) (id k : FactorPublicationId)
    (status : PublicationStatus) :
    (publications.setStatus id status).get k =
      (publications.get k).map fun row => if k = id then row.setStatus status else row := by
  unfold setStatus
  by_cases hk : k = id
  · subst hk
    rw [Table.get_updateKey]
    simp
  · rw [Table.get_updateKey_ne _ hk]
    simp [hk]

theorem get_supersedeActive (publications : Publications) (mode : PublicationMode)
    (k : FactorPublicationId) :
    (publications.supersedeActive mode).get k = (publications.get k).map fun row =>
      if row.mode = mode ∧ row.status = .active then row.setStatus .superseded else row := by
  unfold supersedeActive
  rw [Table.get_updateWhere]
  simp only [Bool.and_eq_true, decide_eq_true_eq]

def ActiveIn (publications : Publications) (mode : PublicationMode) (id : FactorPublicationId) :
    Prop :=
  publications.Holds id fun row => row.mode = mode ∧ row.status = .active

theorem activate_ok {id : FactorPublicationId} (h : publications.activate id = .ok after) :
    after = publications.setStatus id .active ∧
      ∀ row, publications.get id = some row → ∀ k, publications.ActiveIn row.mode k → k = id := by
  unfold activate at h
  split at h
  · cases h
  · rename_i hnone
    cases h
    refine ⟨rfl, ?_⟩
    rintro row hrow k ⟨other, hother, hmode, hactive⟩
    by_contra hne
    obtain ⟨hmem, hkey⟩ := publications.get_eq_some_iff.mp hother
    refine hnone ?_
    rw [hrow, Option.any_some, List.any_eq_true]
    exact ⟨other, hmem, by simp [hkey, hne, hmode, hactive]⟩

theorem insertPending_ok {row : PublicationRow} (h : publications.insertPending row = .ok after) :
    publications.get row.id = none ∧ row.factorIds.Nodup ∧
      ∀ k, after.get k = if k = row.id then some (row.stored.setStatus .pending)
        else publications.get k := by
  unfold insertPending at h
  cases hinsert : publications.insert (row.stored.setStatus .pending) with
  | none =>
    simp only [hinsert] at h
    cases h
  | some inserted =>
    simp only [hinsert] at h
    split at h
    · rename_i hnodup
      cases h
      have hfresh := Table.get_eq_none_of_insert hinsert
      refine ⟨hfresh, hnodup, fun k => ?_⟩
      by_cases hk : k = row.id
      · rw [if_pos hk, hk]
        exact Table.get_insert hinsert
      · rw [if_neg hk]
        exact Table.get_insert_ne hinsert hk
    · cases h

end Publications

namespace Factors

theorem get_setStatus (factors : Factors) (id k : ControlFactorId) (status : FactorStatus) :
    (factors.setStatus id status).get k =
      (factors.get k).map fun factor => if k = id then { factor with status } else factor := by
  unfold setStatus
  by_cases hk : k = id
  · subst hk
    rw [Table.get_updateKey]
    simp
  · rw [Table.get_updateKey_ne _ hk]
    simp [hk]

theorem get_setStatuses (factors : Factors) (ids : List ControlFactorId) (status : FactorStatus)
    (k : ControlFactorId) :
    (factors.setStatuses ids status).get k =
      (factors.get k).map fun factor => if k ∈ ids then { factor with status } else factor := by
  unfold setStatuses
  induction ids generalizing factors with
  | nil => simp
  | cons id ids ih =>
    rw [List.foldl_cons, ih, get_setStatus, Option.map_map]
    congr 1
    funext factor
    by_cases hk : k = id
    · subst hk
      simp
    · by_cases hmem : k ∈ ids <;> simp [hk, hmem]

variable {factors : Factors} {ids : List ControlFactorId}

theorem loadMembers_ok {members : List ControlFactorValue} : factors.loadMembers ids = .ok members ↔
      List.Forall₂ (fun id factor => factors.get id = some factor) ids members := by
  have hread : ∀ (id : ControlFactorId) (factor : ControlFactorValue),
      (match factors.get id with
        | none => Except.error (StorageError.notFound "control_factor_value" id.raw)
        | some found => .ok found) = .ok factor ↔ factors.get id = some factor := by
    intro id factor
    cases factors.get id with
    | none => exact ⟨nofun, nofun⟩
    | some found =>
      exact ⟨fun h => congrArg _ (Except.ok.inj h), fun h => congrArg _ (Option.some.inj h)⟩
  unfold loadMembers
  rw [mapM_eq_ok]
  exact ⟨.imp fun id factor => (hread id factor).mp, .imp fun id factor => (hread id factor).mpr⟩

end Factors

/-! ## What a publication and a rollback do -/

namespace RegistryDb

variable {digest : CanonicalDigest} {db after : RegistryDb} {audit : NewControlFactorAuditEvent}
  {now : DateTime}

structure Activated (digest : CanonicalDigest) (db : RegistryDb) (publication : PublicationRow)
    (audit : NewControlFactorAuditEvent) (now : DateTime) (after : RegistryDb) : Prop where
  fresh : db.publications.get publication.id = none
  members : ∃ members, db.factors.loadMembers publication.factorIds = .ok members ∧
    publication.toControlFactorPublication.validateForActivation members = .ok ()
  publications : ∀ k, after.publications.get k =
    if k = publication.id then some (publication.stored.setStatus .active)
    else (db.publications.get k).map fun row =>
      if row.mode = publication.mode ∧ row.status = .active then row.setStatus .superseded else row
  factors : after.factors =
    db.factors.setStatuses publication.factorIds publication.mode.targetFactorStatus
  audit : ∃ event, db.audit.appendChained digest audit now = .ok (event, after.audit)

variable {publication : PublicationRow} {outcome : PublishPublicationOutcome}

theorem activateNew_ok (h : db.activateNew digest publication audit now = .ok (outcome, after)) :
    db.Activated digest publication audit now after := by
  obtain ⟨members, hmembers, h⟩ := bind_eq_ok.mp h
  obtain ⟨_, hvalid, h⟩ := bind_eq_ok.mp h
  obtain ⟨inserted, hinserted, h⟩ := bind_eq_ok.mp h
  obtain ⟨publications, hactivated, h⟩ := bind_eq_ok.mp h
  obtain ⟨⟨event, log⟩, haudit, h⟩ := bind_eq_ok.mp h
  obtain ⟨info, -, h⟩ := bind_eq_ok.mp h
  cases h
  obtain ⟨hfresh, -, hget⟩ := Publications.insertPending_ok hinserted
  obtain ⟨rfl, -⟩ := Publications.activate_ok hactivated
  refine ⟨hfresh, ⟨members, hmembers, mapError_eq_ok.mp hvalid⟩, fun k => ?_, rfl, event, haudit⟩
  rw [Publications.get_setStatus, Publications.get_supersedeActive, hget]
  by_cases hk : k = publication.id
  · rw [if_pos hk, if_pos hk, Option.map_some, Option.map_some, if_pos hk,
      if_neg (fun hpending => nomatch hpending.2)]
    rfl
  · rw [if_neg hk, if_neg hk, Option.map_map]
    congr 1
    funext row
    exact if_neg hk

theorem publishPublication_cases
    (h : db.publishPublication digest publication audit now = .ok (outcome, after)) :
    (∃ existing, db.publications.findByIdempotency publication.idempotencyKey = some existing ∧
        outcome = .alreadyApplied existing ∧ after = db) ∨
      (db.publications.findByIdempotency publication.idempotencyKey = none ∧
        db.Activated digest publication audit now after) := by
  unfold publishPublication at h
  split at h
  · cases h
  · split at h
    · rename_i existing hfound
      cases h
      exact .inl ⟨existing, hfound, rfl, rfl⟩
    · rename_i hnone
      exact .inr ⟨hnone, activateNew_ok h⟩

structure RolledBack (digest : CanonicalDigest) (db : RegistryDb)
    (activeId targetId : FactorPublicationId) (audit : NewControlFactorAuditEvent)
    (now : DateTime) (target : PublicationRow) (after : RegistryDb) : Prop where
  loaded : db.publications.get targetId = some target
  unrivalled : ∀ k, db.publications.ActiveIn target.mode k → k = activeId ∨ k = targetId
  publications : ∀ k, after.publications.get k = (db.publications.get k).map fun row =>
    if k = targetId then row.setStatus .active
    else if k = activeId then row.setStatus .rolledBack else row
  factors : after.factors =
    db.factors.setStatuses target.factorIds target.mode.targetFactorStatus
  audit : ∃ event, db.audit.appendChained digest audit now = .ok (event, after.audit)

theorem rollbackPublication_ok {activeId targetId : FactorPublicationId}
    {info : PublicationRow} {sequence : Nat}
    (h : db.rollbackPublication digest activeId targetId audit now =
      .ok (info, sequence, after)) :
    ∃ target, db.RolledBack digest activeId targetId audit now target after := by
  obtain ⟨target, htarget, h⟩ := bind_eq_ok.mp h
  obtain ⟨_, -, h⟩ := bind_eq_ok.mp h
  obtain ⟨_, -, h⟩ := bind_eq_ok.mp h
  obtain ⟨publications, hactivated, h⟩ := bind_eq_ok.mp h
  obtain ⟨⟨event, log⟩, haudit, h⟩ := bind_eq_ok.mp h
  obtain ⟨_, -, h⟩ := bind_eq_ok.mp h
  cases h
  have hget : db.publications.get targetId = some target := by
    unfold loadPublication at htarget
    split at htarget
    · cases htarget
    · rename_i hrow
      cases htarget
      exact hrow
  obtain ⟨rfl, hrivals⟩ := Publications.activate_ok hactivated
  refine ⟨target, hget, ?_, fun k => ?_, rfl, event, haudit⟩
  · rintro k ⟨row, hrow, hmode, hactive⟩
    by_cases hk : k = activeId
    · exact .inl hk
    -- the update of the active id has left the row as it was
    · have hafter : (db.publications.setStatus activeId .rolledBack).get k = some row := by
        rw [Publications.get_setStatus, hrow, Option.map_some, if_neg hk]
      have htarget' : ∃ row, (db.publications.setStatus activeId .rolledBack).get targetId =
          some row ∧ row.mode = target.mode := by
        rw [Publications.get_setStatus, hget, Option.map_some]
        refine ⟨_, rfl, ?_⟩
        split <;> rfl
      obtain ⟨loaded, hloaded, hsame⟩ := htarget'
      exact .inr (hrivals loaded hloaded k ⟨row, hafter, hmode.trans hsame.symm, hactive⟩)
  · rw [Publications.get_setStatus, Publications.get_setStatus, Option.map_map]
    congr 1
    funext row
    by_cases hk : k = targetId
    · simp only [Function.comp, if_pos hk]
      split <;> rfl
    · simp only [Function.comp, if_neg hk]

end RegistryDb

/-! ## One active publication for each mode -/

/-- `idx_control_factor_publication_active_mode`. -/
def Publications.OneActive (publications : Publications) : Prop :=
  ∀ mode a b, publications.ActiveIn mode a → publications.ActiveIn mode b → a = b

namespace RegistryDb

variable {digest : CanonicalDigest} {db after : RegistryDb} {audit : NewControlFactorAuditEvent}
  {now : DateTime}

variable {publication target : PublicationRow} {mode : PublicationMode}
  {k activeId targetId : FactorPublicationId} {event : NewControlFactorAuditEvent}

theorem Activated.activeIn_iff (h : db.Activated digest publication audit now after) :
    after.publications.ActiveIn mode k ↔
      if mode = publication.mode then k = publication.id else db.publications.ActiveIn mode k := by
  unfold Publications.ActiveIn Table.Holds
  rw [h.publications k]
  by_cases hk : k = publication.id
  · have hmode : (∃ row, some (publication.stored.setStatus .active) = some row ∧
        row.mode = mode ∧ row.status = .active) ↔ publication.mode = mode := by
      constructor
      · rintro ⟨_, hrow, hmode, -⟩
        cases hrow
        exact hmode
      · exact fun hmode => ⟨_, rfl, hmode, rfl⟩
    rw [if_pos hk, hmode, hk, h.fresh]
    split
    · rename_i hsame
      exact iff_of_true hsame.symm rfl
    · rename_i hne
      refine iff_of_false (Ne.symm hne) ?_
      rintro ⟨row, hrow, -⟩
      exact absurd hrow.symm (Option.some_ne_none row)
  · rw [if_neg hk]
    cases hrow : db.publications.get k with
    | none => simp [hk]
    | some row =>
      simp only [Option.map_some, Option.some.injEq, exists_eq_left', hk]
      by_cases hsuperseded : row.mode = publication.mode ∧ row.status = .active
      · rw [if_pos hsuperseded]
        split
        · exact iff_of_false nofun id
        · rename_i hne
          exact iff_of_false nofun fun hactive => hne (hactive.1.symm.trans hsuperseded.1)
      · rw [if_neg hsuperseded]
        split
        · rename_i hsame
          subst hsame
          exact iff_of_false hsuperseded id
        · exact Iff.rfl

theorem RolledBack.activeIn_iff (h : db.RolledBack digest activeId targetId audit now target after) :
    after.publications.ActiveIn mode k ↔
      (k = targetId ∧ mode = target.mode) ∨
        (k ≠ targetId ∧ k ≠ activeId ∧ db.publications.ActiveIn mode k) := by
  unfold Publications.ActiveIn Table.Holds
  rw [h.publications k]
  by_cases hk : k = targetId
  · subst hk
    rw [h.loaded]
    simp [PublicationRow.setStatus, eq_comm]
  · cases hrow : db.publications.get k with
    | none => simp [hk]
    | some row =>
      simp only [Option.map_some, Option.some.injEq, exists_eq_left', hk, if_false, false_and,
        false_or, not_false_eq_true, true_and, ne_eq]
      by_cases hactive : k = activeId
      · simp [hactive, PublicationRow.setStatus]
      · simp [hactive]

theorem Activated.oneActive (h : db.Activated digest publication audit now after)
    (hone : db.publications.OneActive) : after.publications.OneActive := by
  intro mode a b ha hb
  rw [h.activeIn_iff] at ha hb
  split at ha
  · rw [if_pos (by assumption)] at hb
    exact ha.trans hb.symm
  · rw [if_neg (by assumption)] at hb
    exact hone mode a b ha hb

theorem RolledBack.oneActive (h : db.RolledBack digest activeId targetId audit now target after)
    (hone : db.publications.OneActive) : after.publications.OneActive := by
  -- a second active row of the target's mode would have kept the target from being activated
  have hunrivalled : ∀ k, k ≠ targetId → k ≠ activeId → ¬ db.publications.ActiveIn target.mode k :=
    fun k hk hactive hin => (h.unrivalled k hin).elim hactive hk
  intro mode a b ha hb
  rw [h.activeIn_iff] at ha hb
  obtain ⟨ha, hmode⟩ | ⟨ha, ha', hina⟩ := ha <;> obtain ⟨hb, hmode'⟩ | ⟨hb, hb', hinb⟩ := hb
  · exact ha.trans hb.symm
  · exact absurd (hmode ▸ hinb) (hunrivalled b hb hb')
  · exact absurd (hmode' ▸ hina) (hunrivalled a ha ha')
  · exact hone mode a b hina hinb

/-! ## Steps -/

theorem appendAll_cons {log log' : AuditLog} {events : List NewControlFactorAuditEvent} :
    appendAll digest log (event :: events) now = .ok log' ↔
      ∃ row next, log.appendChained digest event now = .ok (row, next) ∧
        appendAll digest next events now = .ok log' := by
  unfold appendAll
  rw [List.foldlM_cons, bind_eq_ok]
  constructor
  · rintro ⟨next, hnext, h⟩
    obtain ⟨⟨row, _⟩, hrow, rfl⟩ := map_eq_ok.mp hnext
    exact ⟨row, _, hrow, h⟩
  · rintro ⟨row, next, hrow, h⟩
    exact ⟨next, map_eq_ok.mpr ⟨_, hrow, rfl⟩, h⟩

theorem appendAll_singleton {log log' : AuditLog} {row : ControlFactorAuditEvent}
    (h : log.appendChained digest event now = .ok (row, log')) :
    appendAll digest log [event] now = .ok log' :=
  appendAll_cons.mpr ⟨row, log', h, rfl⟩

end RegistryDb

/-- The events that a call writes when it commits. -/
def RegistryOp.events (db : RegistryDb) (now : DateTime) :
    RegistryOp → List NewControlFactorAuditEvent
  | .createFactor _ audit => [audit]
  | .rejectFactor envelope factorId =>
    if (db.factors.get factorId).isSome then [envelope.factorAudit .factorRejected factorId] else []
  | .expireFactors envelope => (db.dueFactors now).map (RegistryDb.expiryEvent envelope)
  | .publish draft audit =>
    if (db.publications.findByIdempotency draft.idempotencyKey).isSome then [] else [audit]
  | .rollback envelope activeId targetId =>
    [envelope.publicationAudit .publicationRolledBack activeId
      [("target_publication_id", .text targetId.raw)]]
  | .appendAuditEvent event => [event]

namespace RegistryDb

variable {digest : CanonicalDigest} {db after : RegistryDb} {call : RegistryOp × DateTime}

def FactorsKept (db after : RegistryDb) : Prop :=
  ∀ id factor, db.factors.get id = some factor →
    ∃ status, after.factors.get id = some { factor with status }

theorem factorsKept_setStatuses {ids : List ControlFactorId} {status : FactorStatus}
    (h : after.factors = db.factors.setStatuses ids status) : db.FactorsKept after := by
  intro id factor hfactor
  rw [h, Factors.get_setStatuses, hfactor, Option.map_some]
  split
  · exact ⟨status, rfl⟩
  · exact ⟨factor.status, rfl⟩

inductive PublicationsStep (digest : CanonicalDigest) (db : RegistryDb) (now : DateTime)
    (after : RegistryDb) : RegistryOp → Prop
  | kept {op : RegistryOp} (hpublications : after.publications = db.publications)
      (hrepeated : ∀ draft audit, op = .publish draft audit →
        (db.publications.findByIdempotency draft.idempotencyKey).isSome = true) :
      PublicationsStep digest db now after op
  | activated {draft : PublicationDraft} {audit : NewControlFactorAuditEvent}
      (hfresh : db.publications.findByIdempotency draft.idempotencyKey = none)
      (h : db.Activated digest (draft.sealed digest) audit now after) :
      PublicationsStep digest db now after (.publish draft audit)
  | rolledBack {envelope : AuditActor} {activeId targetId : FactorPublicationId}
      {audit : NewControlFactorAuditEvent} {target : PublicationRow}
      (h : db.RolledBack digest activeId targetId audit now target after) :
      PublicationsStep digest db now after (.rollback envelope activeId targetId)

structure Stepped (digest : CanonicalDigest) (db : RegistryDb) (call : RegistryOp × DateTime)
    (after : RegistryDb) : Prop where
  audit : appendAll digest db.audit (call.1.events db call.2) call.2 = .ok after.audit
  publications : PublicationsStep digest db call.2 after call.1
  factors : db.FactorsKept after

variable {now : DateTime}

variable {audit : NewControlFactorAuditEvent} {envelope : AuditActor}

theorem createFactor_stepped {factor stored : ControlFactorValue}
    (h : db.createFactor digest factor audit now = .ok (stored, after)) :
    db.Stepped digest (.createFactor factor audit, now) after := by
  unfold createFactor at h
  cases hinsert : db.factors.insert { factor with
      generatedAt := storeTimestamp factor.generatedAt
      expiresAt := storeTimestamp factor.expiresAt } with
  | none =>
    simp only [hinsert] at h
    cases h
  | some factors =>
    simp only [hinsert] at h
    obtain ⟨⟨row, log⟩, hrow, hstored⟩ := bind_eq_ok.mp h
    cases hstored
    refine ⟨appendAll_singleton hrow, .kept rfl (fun _ _ h => nomatch h),
      fun id old hold => ⟨old.status, ?_⟩⟩
    have hkept : db.factors.Holds id (· = old) := ⟨old, hold, rfl⟩
    obtain ⟨found, hfound, rfl⟩ := hkept.insert hinsert
    exact hfound

theorem rejectFactor_stepped {factorId : ControlFactorId} {sequence : Option Nat}
    (h : db.rejectFactor digest factorId (envelope.factorAudit .factorRejected factorId) now =
      .ok (sequence, after)) : db.Stepped digest (.rejectFactor envelope factorId, now) after := by
  unfold rejectFactor at h
  cases hfactor : db.factors.get factorId with
  | none =>
    simp only [hfactor] at h
    cases h
    refine ⟨?_, .kept rfl (fun _ _ h => by cases h), fun id old hold => ⟨old.status, hold⟩⟩
    simp only [RegistryOp.events, hfactor]
    rfl
  | some factor =>
    simp only [hfactor] at h
    obtain ⟨_, -, h⟩ := bind_eq_ok.mp h
    obtain ⟨⟨row, log⟩, hrow, hresult⟩ := bind_eq_ok.mp h
    cases hresult
    refine ⟨?_, .kept rfl (fun _ _ h => by cases h), ?_⟩
    · simp only [RegistryOp.events, hfactor]
      exact appendAll_singleton hrow
    · exact @factorsKept_setStatuses db _ [factorId] .rejected rfl

theorem publish_stepped {draft : PublicationDraft} {outcome : PublishPublicationOutcome}
    (h : db.publishPublication digest (draft.sealed digest) audit now = .ok (outcome, after)) :
    db.Stepped digest (.publish draft audit, now) after := by
  obtain ⟨existing, hfound, -, rfl⟩ | ⟨hnone, hactivated⟩ := publishPublication_cases h
  · have hsome : (after.publications.findByIdempotency draft.idempotencyKey).isSome = true :=
      Option.isSome_iff_exists.mpr ⟨existing, hfound⟩
    refine ⟨?_, .kept rfl ?_, fun id old hold => ⟨old.status, hold⟩⟩
    · simp only [RegistryOp.events, hsome, if_true]
      rfl
    · intro draft' audit' heq
      cases heq
      exact hsome
  · obtain ⟨event, hevent⟩ := hactivated.audit
    have hfresh : db.publications.findByIdempotency draft.idempotencyKey = none := hnone
    refine ⟨?_, .activated hfresh hactivated, factorsKept_setStatuses hactivated.factors⟩
    simp only [RegistryOp.events, hfresh]
    exact appendAll_singleton hevent

theorem rollback_stepped {activeId targetId : FactorPublicationId}
    (h : db.rollback digest envelope activeId targetId now = .ok after) :
    ∃ target, db.RolledBack digest activeId targetId
      (envelope.publicationAudit .publicationRolledBack activeId
        [("target_publication_id", .text targetId.raw)]) now target after := by
  obtain ⟨_, -, h⟩ := bind_eq_ok.mp h
  obtain ⟨⟨info, sequence, result⟩, hrollback, hresult⟩ := map_eq_ok.mp h
  cases hresult
  exact rollbackPublication_ok (mapError_eq_ok.mp hrollback)

theorem apply_stepped {op : RegistryOp} (h : db.apply digest now op = .ok after) :
    db.Stepped digest (op, now) after := by
  cases op with
  | createFactor factor audit =>
    obtain ⟨⟨stored, result⟩, hcreate, hresult⟩ := map_eq_ok.mp h
    cases hresult
    exact createFactor_stepped (mapError_eq_ok.mp hcreate)
  | rejectFactor envelope factorId =>
    obtain ⟨_, -, h⟩ := bind_eq_ok.mp h
    obtain ⟨⟨sequence, result⟩, hreject, hresult⟩ := map_eq_ok.mp h
    cases hresult
    exact rejectFactor_stepped (mapError_eq_ok.mp hreject)
  | expireFactors envelope =>
    obtain ⟨_, -, h⟩ := bind_eq_ok.mp h
    obtain ⟨⟨ids, result⟩, hexpire, hresult⟩ := map_eq_ok.mp h
    cases hresult
    obtain ⟨log, hlog, hswept⟩ := bind_eq_ok.mp (mapError_eq_ok.mp hexpire)
    cases hswept
    exact ⟨hlog, .kept rfl (fun _ _ h => nomatch h), factorsKept_setStatuses rfl⟩
  | publish draft audit =>
    obtain ⟨⟨outcome, result⟩, hpublish, hresult⟩ := map_eq_ok.mp h
    cases hresult
    exact publish_stepped (mapError_eq_ok.mp hpublish)
  | rollback envelope activeId targetId =>
    obtain ⟨target, hrolled⟩ := rollback_stepped h
    obtain ⟨event, hevent⟩ := hrolled.audit
    exact ⟨appendAll_singleton hevent, .rolledBack hrolled,
      factorsKept_setStatuses hrolled.factors⟩
  | appendAuditEvent event =>
    obtain ⟨⟨row, log⟩, hrow, hresult⟩ := map_eq_ok.mp h
    cases hresult
    exact ⟨appendAll_singleton (mapError_eq_ok.mp hrow), .kept rfl (fun _ _ h => nomatch h),
      fun id old hold => ⟨old.status, hold⟩⟩

theorem next_stepped (h : db.next digest call = some after) : db.Stepped digest call after :=
  apply_stepped (toOption_eq_some.mp h)

theorem Stepped.oneActive (h : db.Stepped digest call after) (hone : db.publications.OneActive) :
    after.publications.OneActive := by
  obtain ⟨op, now⟩ := call
  cases h.publications with
  | kept hpublications _ => exact hpublications ▸ hone
  | activated _ hactivated => exact hactivated.oneActive hone
  | rolledBack hrolled => exact hrolled.oneActive hone

theorem oneActive_empty : RegistryDb.empty.publications.OneActive := by
  rintro mode a b ⟨row, hrow, -⟩ -
  cases hrow

/-- **At every point of a history each mode has at most one active publication.** -/
theorem oneActive_of_exec {calls : List (RegistryOp × DateTime)}
    (h : exec (next digest) .empty calls = some db) : db.publications.OneActive :=
  exec_preserves (fun db => db.publications.OneActive)
    (fun _ _ _ hone hstep => (next_stepped hstep).oneActive hone) oneActive_empty h

end RegistryDb

/-! ## Rollbacks -/

/-- What a rollback is for: the active publication of the target's mode is rolled back, no
other one is, and the target takes its place. -/
structure Publications.RollsBack (before after : Publications) (mode : PublicationMode)
    (targetId : FactorPublicationId) : Prop where
  moved : ∀ k, before.Holds k (·.status ≠ .rolledBack) ∧ after.Holds k (·.status = .rolledBack) ↔
    before.ActiveIn mode k
  only : ∀ k, after.ActiveIn mode k ↔ k = targetId
  other : ∀ otherMode, otherMode ≠ mode → ∀ k,
    after.ActiveIn otherMode k ↔ before.ActiveIn otherMode k

namespace RegistryDb

variable {digest : CanonicalDigest} {db after : RegistryDb} {audit : NewControlFactorAuditEvent}
  {now : DateTime} {activeId targetId : FactorPublicationId} {target : PublicationRow}

variable {k : FactorPublicationId} {publications : Publications} {mode : PublicationMode}

theorem RolledBack.moved_iff (h : db.RolledBack digest activeId targetId audit now target after) :
    db.publications.Holds k (·.status ≠ .rolledBack) ∧
        after.publications.Holds k (·.status = .rolledBack) ↔
      k = activeId ∧ k ≠ targetId ∧ db.publications.Holds k (·.status ≠ .rolledBack) := by
  constructor
  · rintro ⟨⟨row, hrow, hstatus⟩, row', hrow', hstatus'⟩
    rw [h.publications k, hrow] at hrow'
    cases hrow'
    by_cases hk : k = targetId
    · simp only [if_pos hk] at hstatus'
      cases hstatus'
    · simp only [if_neg hk] at hstatus'
      by_cases hactive : k = activeId
      · exact ⟨hactive, hk, row, hrow, hstatus⟩
      · simp only [if_neg hactive] at hstatus'
        exact absurd hstatus' hstatus
  · rintro ⟨rfl, hk, row, hrow, hstatus⟩
    refine ⟨⟨row, hrow, hstatus⟩, row.setStatus .rolledBack, ?_, rfl⟩
    rw [h.publications k, hrow, Option.map_some, if_neg hk, if_pos rfl]

theorem holds_of_activeIn (h : publications.ActiveIn mode k) :
    publications.Holds k (·.status ≠ .rolledBack) := by
  refine h.imp ?_
  rintro row ⟨-, hactive⟩ hrolled
  rw [hactive] at hrolled
  cases hrolled

theorem mode_eq_of_activeIn (h : publications.ActiveIn mode k) {row : PublicationRow}
    (hrow : publications.get k = some row) : row.mode = mode := by
  obtain ⟨found, hfound, hmode, -⟩ := h
  rw [hfound] at hrow
  cases hrow
  exact hmode

theorem RolledBack.activeIn_other_iff
    (h : db.RolledBack digest activeId targetId audit now target after) (hmode : mode ≠ target.mode)
    (hmarked : activeId = targetId ∨ ¬ db.publications.ActiveIn mode activeId) :
    after.publications.ActiveIn mode k ↔ db.publications.ActiveIn mode k := by
  rw [h.activeIn_iff]
  constructor
  · rintro (⟨-, hsame⟩ | ⟨-, -, hin⟩)
    · exact absurd hsame hmode
    · exact hin
  · intro hin
    have htarget : k ≠ targetId := by
      rintro rfl
      exact hmode (mode_eq_of_activeIn hin h.loaded).symm
    refine .inr ⟨htarget, ?_, hin⟩
    rintro rfl
    exact hmarked.elim htarget fun hnot => hnot hin

/-- The two ids fit: the first is the active publication of the target's mode, or the mode has
none and the first id marks nothing. -/
def NamesActive (publications : Publications) (mode : PublicationMode)
    (activeId targetId : FactorPublicationId) : Prop :=
  (publications.ActiveIn mode activeId ∧ activeId ≠ targetId) ∨
    ((∀ k, ¬ publications.ActiveIn mode k) ∧
      (activeId = targetId ∨ ¬ publications.Holds activeId (·.status ≠ .rolledBack)))

theorem RolledBack.rollsBack_iff
    (h : db.RolledBack digest activeId targetId audit now target after)
    (hone : db.publications.OneActive) :
    db.publications.RollsBack after.publications target.mode targetId ↔
      NamesActive db.publications target.mode activeId targetId := by
  constructor
  · intro hback
    by_cases hnone : ∀ k, ¬ db.publications.ActiveIn target.mode k
    · refine .inr ⟨hnone, ?_⟩
      by_contra hmarks
      rw [not_or, not_not] at hmarks
      exact hnone activeId ((hback.moved activeId).mp (h.moved_iff.mpr ⟨rfl, hmarks⟩))
    · rw [not_forall] at hnone
      obtain ⟨k, hk⟩ := hnone
      rw [not_not] at hk
      obtain ⟨rfl, hne, -⟩ := h.moved_iff.mp ((hback.moved k).mpr hk)
      exact .inl ⟨hk, hne⟩
  · rintro (⟨hactive, hne⟩ | ⟨hnone, hunmarked⟩)
    · have hmoded : ∀ mode, mode ≠ target.mode → ¬ db.publications.ActiveIn mode activeId := by
        rintro mode hmode hin
        obtain ⟨row, hrow, hrowMode, -⟩ := hactive
        exact hmode ((mode_eq_of_activeIn hin hrow).symm.trans hrowMode)
      refine ⟨fun k => ?_, fun k => ?_,
        fun mode hmode k => h.activeIn_other_iff hmode (.inr (hmoded mode hmode))⟩
      · rw [h.moved_iff]
        constructor
        · rintro ⟨rfl, -, -⟩
          exact hactive
        · intro hk
          obtain rfl := hone _ _ _ hk hactive
          exact ⟨rfl, hne, holds_of_activeIn hk⟩
      · rw [h.activeIn_iff]
        constructor
        · rintro (⟨hk, -⟩ | ⟨-, hk, hin⟩)
          · exact hk
          · exact absurd (hone _ _ _ hin hactive) hk
        · exact fun hk => .inl ⟨hk, rfl⟩
    · have hidle : ∀ mode, activeId = targetId ∨ ¬ db.publications.ActiveIn mode activeId :=
        fun mode => hunmarked.imp_right fun hnot hin => hnot (holds_of_activeIn hin)
      refine ⟨fun k => ?_, fun k => ?_, fun mode hmode k => h.activeIn_other_iff hmode (hidle mode)⟩
      · rw [h.moved_iff]
        refine iff_of_false ?_ (hnone k)
        rintro ⟨rfl, hk, hholds⟩
        exact hunmarked.elim hk fun hnot => hnot hholds
      · rw [h.activeIn_iff]
        constructor
        · rintro (⟨hk, -⟩ | ⟨-, -, hin⟩)
          · exact hk
          · exact absurd hin (hnone k)
        · exact fun hk => .inl ⟨hk, rfl⟩

end RegistryDb

/-- **A rollback restores the target's mode and nothing else** exactly when its caller names
the active publication of that mode, or the mode has none and nothing is there to be marked. -/
theorem rollback_restores_iff {digest : CanonicalDigest} {calls : List (RegistryOp × DateTime)}
    {db after : RegistryDb} (hrun : exec (RegistryDb.next digest) .empty calls = some db)
    {envelope : AuditActor} {activeId targetId : FactorPublicationId} {now : DateTime}
    (h : db.rollback digest envelope activeId targetId now = .ok after) :
    ∃ target, db.publications.get targetId = some target ∧
      (db.publications.RollsBack after.publications target.mode targetId ↔
        RegistryDb.NamesActive db.publications target.mode activeId targetId) := by
  obtain ⟨target, hrolled⟩ := RegistryDb.rollback_stepped h
  exact ⟨target, hrolled.loaded, hrolled.rollsBack_iff (RegistryDb.oneActive_of_exec hrun)⟩

/-- A digest that marks what storing would round. -/
def sampleDigest : CanonicalDigest where
  publicationHex input := (if input.stored = input then "" else "~") ++ input.publicationId
  eventHex content := (if content.stored = content then "" else "~") ++ toString content.sequence

def sampleEnvelope : AuditActor := ⟨"op", "operator", "req", "review"⟩

def sampleCandidate : ControlFactorValue :=
  { sampleBucketFactor id true with status := .candidate }

def sampleCreate : RegistryOp × DateTime :=
  (.createFactor (sampleCandidate id) (sampleEnvelope.factorAudit .factorCreated ⟨id⟩), 1000)

def sampleDraft (mode : PublicationMode) (factorIds : List ControlFactorId) : PublicationDraft :=
  { publicationId := ⟨id⟩, mode, factorIds, previousPublicationId := none, effectiveFrom := 0
    expiresAt := 1000000, approvedBy := "op", approvalReason := "review", idempotencyKey := id }

def samplePublish (mode : PublicationMode) (factorIds : List ControlFactorId) :
    RegistryOp × DateTime :=
  (.publish (sampleDraft id mode factorIds)
    (sampleEnvelope.publicationAudit .publicationCreated ⟨id⟩ []), 1000)

/-- Two factors go through shadow and are published one after the other. -/
def sampleHistory : List (RegistryOp × DateTime) :=
  [sampleCreate "a", sampleCreate "b", samplePublish "s1" .shadow [⟨"a"⟩],
    samplePublish "s2" .shadow [⟨"b"⟩], samplePublish "p1" .published [⟨"a"⟩],
    samplePublish "p2" .published [⟨"b"⟩]]

def sampleRegistry : RegistryDb :=
  (exec (RegistryDb.next sampleDigest) .empty sampleHistory).getD .empty

theorem sampleRegistry_run :
    exec (RegistryDb.next sampleDigest) .empty sampleHistory = some sampleRegistry := by
  have hsome : (exec (RegistryDb.next sampleDigest) .empty sampleHistory).isSome = true := by
    decide +kernel
  obtain ⟨db, hdb⟩ := Option.isSome_iff_exists.mp hsome
  rw [sampleRegistry, hdb]
  rfl

/-- The status of each publication, with its mode. -/
def RegistryDb.statuses (db : RegistryDb) : List (String × PublicationMode × PublicationStatus) :=
  db.publications.rows.map fun row => (row.publicationId.raw, row.mode, row.status)

theorem rollback_restores_iff_named :
    ∃ after, sampleRegistry.rollback sampleDigest sampleEnvelope ⟨"p2"⟩ ⟨"p1"⟩ 2000 = .ok after ∧
      sampleRegistry.publications.RollsBack after.publications .published ⟨"p1"⟩ := by
  have hok : (sampleRegistry.rollback sampleDigest sampleEnvelope ⟨"p2"⟩ ⟨"p1"⟩
      2000).toOption.isSome = true := by
    decide +kernel
  have htargetMode : (sampleRegistry.publications.get ⟨"p1"⟩).map (·.mode) = some .published := by
    decide +kernel
  have hactive : (sampleRegistry.publications.get ⟨"p2"⟩).any
      (fun row => row.mode = .published && row.status = .active) = true := by
    decide +kernel
  obtain ⟨after, hafter⟩ := exists_ok_of_isSome hok
  obtain ⟨target, htarget, hiff⟩ := rollback_restores_iff sampleRegistry_run hafter
  rw [htarget] at htargetMode
  have hmode : target.mode = .published := Option.some.inj htargetMode
  rw [hmode] at hiff
  obtain ⟨row, hrow, hrowActive⟩ := (Option.any_eq_true ..).mp hactive
  refine ⟨after, hafter, hiff.mpr (.inl ⟨⟨row, hrow, ?_⟩, by decide⟩)⟩
  simpa using hrowActive

/-- Rolling back to the published publication, with the shadow one named as active: the
shadow mode is left without one. -/
theorem rollback_marks_shadow :
    (exec (RegistryDb.next sampleDigest) .empty sampleHistory).isSome = true ∧
    sampleRegistry.statuses =
      [("s1", .shadow, .superseded), ("s2", .shadow, .active), ("p1", .published, .superseded),
        ("p2", .published, .active)] ∧
    (sampleRegistry.rollback sampleDigest sampleEnvelope ⟨"s2"⟩ ⟨"p2"⟩ 2000).toOption.map
        RegistryDb.statuses =
      some [("s1", .shadow, .superseded), ("s2", .shadow, .rolledBack),
        ("p1", .published, .superseded), ("p2", .published, .active)] := by
  decide +kernel

end OxideArb.ControlFactor
