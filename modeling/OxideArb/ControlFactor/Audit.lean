import Mathlib.Data.List.Chain
import Mathlib.Data.List.Sort
import Mathlib.Data.String.Basic
import OxideArb.ControlFactor.Publication

/-!
# Sealed publications and the audit chain

Publications are sealed and audit events chained by digests of the values in memory, timestamps
to the nanosecond; the database keeps microseconds (`storeTimestamp`). The digest is a
parameter.
-/

namespace OxideArb.ControlFactor

/-! ## Stored timestamps -/

def postgresEpoch : DateTime := 946684800000000000

def storeTimestamp (t : DateTime) : DateTime :=
  postgresEpoch + Int.tdiv (t - postgresEpoch) 1000 * 1000

def WholeMicros (t : DateTime) : Prop := (1000 : Int) ∣ t

instance (t : DateTime) : Decidable (WholeMicros t) :=
  inferInstanceAs (Decidable ((1000 : Int) ∣ t))

theorem storeTimestamp_eq_iff {t : DateTime} : storeTimestamp t = t ↔ WholeMicros t := by
  have hepoch : (1000 : Int) ∣ postgresEpoch := by decide
  unfold storeTimestamp WholeMicros
  rw [← dvd_sub_left hepoch]
  constructor
  · intro h
    exact ⟨Int.tdiv (t - postgresEpoch) 1000, by linarith⟩
  · intro h
    rw [Int.tdiv_mul_cancel h]
    exact add_sub_cancel _ _

theorem wholeMicros_storeTimestamp (t : DateTime) : WholeMicros (storeTimestamp t) :=
  dvd_add (by decide) (dvd_mul_left _ _)

/-! ## Hashed content -/

structure PublicationCanonicalInput where
  publicationId : String
  mode : String
  factorIds : List String
  previousPublicationId : Option String
  effectiveFrom : DateTime
  expiresAt : DateTime
  approvedBy : Option String
  approvalReason : String
deriving DecidableEq, Repr

inductive ControlAuditEventType
  | factorCreated
  | factorTransitioned
  | factorRejected
  | factorExpired
  | publicationCreated
  | publicationActivated
  | publicationRolledBack
  | publicationExpired
  | runtimeConfigVersionCreated
  | runtimeConfigActivated
  | runtimeConfigRolledBack
  | snapshotLoadFailed
deriving DecidableEq, Repr

inductive AuditResourceType
  | factor
  | publication
  | materializationRun
  | runtimeConfigVersion
  | snapshot
deriving DecidableEq, Repr

inductive DiffValue
  | text (value : String)
  | texts (values : List String)
  | flag (value : Bool)
  | time (value : DateTime)
deriving DecidableEq, Repr

structure AuditEventContent where
  sequence : Nat
  eventType : ControlAuditEventType
  actor : String
  actorRole : String
  resourceType : AuditResourceType
  resourceId : String
  requestId : String
  reason : String
  beforeHash : Option String
  afterHash : Option String
  diff : List (String × DiffValue)
  prevEventHash : Option String
  createdAt : DateTime
deriving DecidableEq, Repr

/-- What is recomputed from after the timestamps were stored. -/
def PublicationCanonicalInput.stored (input : PublicationCanonicalInput) :
    PublicationCanonicalInput :=
  { input with
    effectiveFrom := storeTimestamp input.effectiveFrom
    expiresAt := storeTimestamp input.expiresAt }

def AuditEventContent.stored (content : AuditEventContent) : AuditEventContent :=
  { content with createdAt := storeTimestamp content.createdAt }

theorem PublicationCanonicalInput.stored_eq_iff {input : PublicationCanonicalInput} :
    input.stored = input ↔ WholeMicros input.effectiveFrom ∧ WholeMicros input.expiresAt := by
  rw [← storeTimestamp_eq_iff, ← storeTimestamp_eq_iff]
  cases input
  simp [stored]

theorem AuditEventContent.stored_eq_iff {content : AuditEventContent} :
    content.stored = content ↔ WholeMicros content.createdAt := by
  rw [← storeTimestamp_eq_iff]
  cases content
  simp [stored]

/-- `raw_hex` of the JSON of each kind of content. -/
structure CanonicalDigest where
  publicationHex : PublicationCanonicalInput → String
  eventHex : AuditEventContent → String

structure CanonicalDigest.TellsRounding (digest : CanonicalDigest) : Prop where
  publication : ∀ input : PublicationCanonicalInput,
    digest.publicationHex input.stored = digest.publicationHex input → input.stored = input
  event : ∀ content : AuditEventContent,
    digest.eventHex content.stored = digest.eventHex content → content.stored = content

/-! ## Publications -/

namespace PublicationHasher

variable (digest : CanonicalDigest)

/-- The members are hashed in order of their ids. -/
def canonicalInput (publication : ControlFactorPublication) : PublicationCanonicalInput :=
  { publicationId := publication.publicationId.raw, mode := publication.mode.asStr
    factorIds := (publication.factorIds.map (·.raw)).mergeSort (· ≤ ·)
    previousPublicationId := publication.previousPublicationId.map (·.raw)
    effectiveFrom := publication.effectiveFrom, expiresAt := publication.expiresAt
    approvedBy := publication.approvedBy, approvalReason := publication.approvalReason }

def compute (publication : ControlFactorPublication) : String :=
  "blake3:" ++ digest.publicationHex (canonicalInput publication)

def verify (publication : ControlFactorPublication) : Except GovernanceError Unit :=
  if publication.publicationHash.isEmpty then
    .error (.publicationHashMismatch "<non-empty>" "")
  else if publication.publicationHash = compute digest publication then .ok ()
  else .error (.publicationHashMismatch (compute digest publication) publication.publicationHash)

/-- `seal`, which Lean reserves. -/
def sealPublication (publication : ControlFactorPublication) : ControlFactorPublication :=
  { publication with publicationHash := compute digest publication }

variable {digest}

variable {publication : ControlFactorPublication}

theorem verify_ok_iff : verify digest publication = .ok () ↔
      publication.publicationHash = compute digest publication := by
  unfold verify
  constructor
  · intro h
    split at h
    · cases h
    · split at h
      · assumption
      · cases h
  · intro h
    have hne : publication.publicationHash.isEmpty = false := by
      rw [h]
      simp [compute]
    rw [hne, if_pos h]
    rfl

theorem canonicalInput_perm {members : List ControlFactorId}
    (h : members.Perm publication.factorIds) :
    canonicalInput { publication with factorIds := members } = canonicalInput publication := by
  have hsorted : (members.map (·.raw)).mergeSort (· ≤ ·) =
      (publication.factorIds.map (·.raw)).mergeSort (· ≤ ·) := by
    have hperm := ((List.mergeSort_perm _ (· ≤ ·)).trans (h.map (·.raw))).trans
      (List.mergeSort_perm _ (· ≤ ·)).symm
    exact hperm.eq_of_pairwise' (List.pairwise_mergeSort' _ _) (List.pairwise_mergeSort' _ _)
  unfold canonicalInput
  rw [hsorted]

end PublicationHasher

/-! ## Audit events -/

structure NewControlFactorAuditEvent where
  eventType : ControlAuditEventType
  actor : String
  actorRole : String
  resourceType : AuditResourceType
  resourceId : String
  requestId : String
  reason : String
  beforeHash : Option String
  afterHash : Option String
  diff : List (String × DiffValue)
deriving DecidableEq, Repr

structure ControlFactorAuditEvent extends AuditEventContent where
  eventHash : String
deriving DecidableEq, Repr

inductive AuditChainError
  | hashMismatch (sequence : Nat) (expected actual : String)
  | sequenceGap (expected actual : Nat)
  | brokenLink (sequence : Nat)
  | genesisPrevNotNull (sequence : Nat)
deriving DecidableEq, Repr

inductive StorageError
  | codec (message : String)
  | notFound (entity id : String)
  | conflict (source : GovernanceError)
  | uniqueViolation (constraint : String)
deriving DecidableEq, Repr

def CanonicalDigest.eventHash (digest : CanonicalDigest) (content : AuditEventContent) : String :=
  "blake3:" ++ digest.eventHex content

abbrev AuditLog := List ControlFactorAuditEvent

namespace AuditLog

variable (digest : CanonicalDigest) (log : AuditLog)

variable (event : NewControlFactorAuditEvent) (now : DateTime)

def findByIdempotency : Option ControlFactorAuditEvent :=
  log.find? fun row => row.requestId = event.requestId && row.eventType = event.eventType &&
    row.resourceId = event.resourceId

def nextContent : AuditEventContent :=
  { sequence := log.getLast?.elim 1 (·.sequence + 1), eventType := event.eventType
    actor := event.actor, actorRole := event.actorRole, resourceType := event.resourceType
    resourceId := event.resourceId, requestId := event.requestId, reason := event.reason
    beforeHash := event.beforeHash, afterHash := event.afterHash, diff := event.diff
    prevEventHash := log.getLast?.map (·.eventHash), createdAt := now }

def nextRow : ControlFactorAuditEvent :=
  { log.nextContent event now with
    createdAt := storeTimestamp now
    eventHash := digest.eventHash (log.nextContent event now) }

/-- `append_audit_event_chained_q`: a repeated request returns its event. -/
def appendChained : Except StorageError (ControlFactorAuditEvent × AuditLog) :=
  match log.findByIdempotency event with
  | some existing => .ok (existing, log)
  | none =>
    let row := log.nextRow digest event now
    if log.any (·.eventHash = row.eventHash) then
      .error (.uniqueViolation "audit event hash uniqueness")
    else .ok (row, log ++ [row])

def loadChain (fromSequence limit : Nat) : List ControlFactorAuditEvent :=
  (log.filter (fromSequence ≤ ·.sequence)).take limit

end AuditLog

/-! ## Verification of a chain -/

namespace AuditChain

def checkLink : Option ControlFactorAuditEvent → ControlFactorAuditEvent →
    Except AuditChainError Unit
  | some previous, event =>
    if event.sequence ≠ previous.sequence + 1 then
      .error (.sequenceGap (previous.sequence + 1) event.sequence)
    else if event.prevEventHash ≠ some previous.eventHash then .error (.brokenLink event.sequence)
    else .ok ()
  | none, event =>
    if event.sequence = 1 ∧ event.prevEventHash.isSome then
      .error (.genesisPrevNotNull event.sequence)
    else .ok ()

def checkHash (digest : CanonicalDigest) (event : ControlFactorAuditEvent) :
    Except AuditChainError Unit :=
  let recomputed := digest.eventHash event.toAuditEventContent
  if recomputed ≠ event.eventHash then
    .error (.hashMismatch event.sequence recomputed event.eventHash)
  else .ok ()

/-- The loop of `verify`, from the event before the rest of the slice. -/
def verifyFrom (digest : CanonicalDigest) : Option ControlFactorAuditEvent →
    List ControlFactorAuditEvent → Except AuditChainError Unit
  | _, [] => .ok ()
  | previous, event :: rest => do
    checkLink previous event
    checkHash digest event
    verifyFrom digest (some event) rest

def verify (digest : CanonicalDigest) (events : List ControlFactorAuditEvent) :
    Except AuditChainError Unit :=
  verifyFrom digest none events

def Follows (previous event : ControlFactorAuditEvent) : Prop :=
  event.sequence = previous.sequence + 1 ∧ event.prevEventHash = some previous.eventHash

variable {event : ControlFactorAuditEvent} {digest : CanonicalDigest}

theorem checkLink_some {previous : ControlFactorAuditEvent} :
    checkLink (some previous) event = .ok () ↔ Follows previous event := by
  unfold checkLink Follows
  by_cases hsequence : event.sequence = previous.sequence + 1
  · by_cases hprev : event.prevEventHash = some previous.eventHash
    · simp [hsequence, hprev]
    · simp [hsequence, hprev]
  · simp [hsequence]

theorem checkHash_ok : checkHash digest event = .ok () ↔
      digest.eventHash event.toAuditEventContent = event.eventHash := by
  unfold checkHash
  by_cases hhash : digest.eventHash event.toAuditEventContent = event.eventHash
  · simp [hhash]
  · simp [hhash]

/-- **A linked slice verifies** exactly when the hash of each event is that of its content. -/
theorem verifyFrom_ok_iff {events : List ControlFactorAuditEvent} (hchain : events.IsChain Follows)
    {previous : Option ControlFactorAuditEvent}
    (hhead : ∀ event ∈ events.head?, checkLink previous event = .ok ()) :
    verifyFrom digest previous events = .ok () ↔
      ∀ event ∈ events, digest.eventHash event.toAuditEventContent = event.eventHash := by
  induction events generalizing previous with
  | nil => exact iff_of_true rfl (fun _ h => absurd h List.not_mem_nil)
  | cons event rest ih =>
    have hnext : ∀ next ∈ rest.head?, checkLink (some event) next = .ok () :=
      fun next hnext => checkLink_some.mpr (hchain.rel_head? hnext)
    rw [verifyFrom, bind_ok, bind_ok, checkHash_ok, ih hchain.tail hnext, List.forall_mem_cons]
    exact and_iff_right (hhead event rfl)

end AuditChain

/-! ## The stored chain -/

namespace AuditLog

structure Linked (log : AuditLog) : Prop where
  chain : log.IsChain AuditChain.Follows
  genesis : ∀ event ∈ log.head?, event.sequence = 1 ∧ event.prevEventHash = none

theorem Linked.nil : Linked [] :=
  ⟨.nil, fun event h => absurd h (Option.not_mem_none event)⟩

theorem Linked.append {log : AuditLog} (h : log.Linked) (digest : CanonicalDigest)
    (event : NewControlFactorAuditEvent) (now : DateTime) :
    Linked (log ++ [log.nextRow digest event now]) := by
  constructor
  · refine h.chain.append (.singleton _) ?_
    intro tip htip row hrow
    cases hrow
    unfold nextRow nextContent
    rw [Option.mem_def.mp htip]
    exact ⟨rfl, rfl⟩
  · intro first hfirst
    cases log with
    | nil =>
      cases hfirst
      exact ⟨rfl, rfl⟩
    | cons head rest => exact h.genesis first hfirst

theorem Linked.ascending {log : AuditLog} (h : log.Linked) :
    log.Pairwise (·.sequence < ·.sequence) := by
  have hlt : log.IsChain (·.sequence < ·.sequence) := by
    refine h.chain.imp ?_
    rintro a b ⟨hnext, -⟩
    omega
  exact hlt.pairwise

theorem Linked.prevEventHash_of_one {log : AuditLog} (h : log.Linked)
    {event : ControlFactorAuditEvent} (hmem : event ∈ log) (hone : event.sequence = 1) :
    event.prevEventHash = none := by
  have hascending := h.ascending
  cases log with
  | nil => exact absurd hmem List.not_mem_nil
  | cons head rest =>
    obtain ⟨hhead, hprev⟩ := h.genesis head rfl
    rcases List.mem_cons.mp hmem with rfl | hrest
    · exact hprev
    · have hlt := List.rel_of_pairwise_cons hascending hrest
      omega

theorem filter_sequence_suffix {log : AuditLog} (h : log.Pairwise (·.sequence < ·.sequence))
    (fromSequence : Nat) : log.filter (fromSequence ≤ ·.sequence) <:+ log := by
  induction log with
  | nil => exact List.suffix_rfl
  | cons event rest ih =>
    by_cases hfrom : fromSequence ≤ event.sequence
    · have hall : ∀ e ∈ event :: rest, decide (fromSequence ≤ e.sequence) = true := by
        intro e he
        rcases List.mem_cons.mp he with rfl | hrest
        · exact decide_eq_true hfrom
        · exact decide_eq_true (hfrom.trans (List.rel_of_pairwise_cons h hrest).le)
      exact ⟨[], List.filter_eq_self.mpr hall⟩
    · rw [List.filter_cons_of_neg (by simpa using hfrom)]
      exact (ih h.of_cons).trans (List.suffix_cons event rest)

theorem loadChain_subset (log : AuditLog) (fromSequence limit : Nat) :
    log.loadChain fromSequence limit ⊆ log :=
  fun _ hmem => List.mem_of_mem_filter (List.mem_of_mem_take hmem)

/-- **A slice of the stored chain verifies** exactly when each of its hashes is that of what
was stored. -/
theorem Linked.verify_loadChain {log : AuditLog} (h : log.Linked) (digest : CanonicalDigest)
    (fromSequence limit : Nat) :
    AuditChain.verify digest (log.loadChain fromSequence limit) = .ok () ↔
      ∀ event ∈ log.loadChain fromSequence limit,
        digest.eventHash event.toAuditEventContent = event.eventHash := by
  have hchain : (log.loadChain fromSequence limit).IsChain AuditChain.Follows :=
    (h.chain.suffix (filter_sequence_suffix h.ascending fromSequence)).take limit
  refine AuditChain.verifyFrom_ok_iff hchain fun first hfirst => ?_
  have hmem := log.loadChain_subset fromSequence limit (List.mem_of_mem_head? hfirst)
  refine if_neg ?_
  rintro ⟨hone, hprev⟩
  rw [h.prevEventHash_of_one hmem hone] at hprev
  cases hprev

def Intact (digest : CanonicalDigest) (log : AuditLog) : Prop :=
  ∀ event ∈ log, digest.eventHash event.toAuditEventContent = event.eventHash

theorem Linked.verify_iff {log : AuditLog} (h : log.Linked) (digest : CanonicalDigest) :
    (∀ fromSequence limit,
      AuditChain.verify digest (log.loadChain fromSequence limit) = .ok ()) ↔
        log.Intact digest := by
  constructor
  · intro hverify event hmem
    refine (h.verify_loadChain digest 0 log.length).mp (hverify 0 log.length) event ?_
    unfold loadChain
    rw [List.filter_eq_self.mpr (fun _ _ => decide_eq_true (Nat.zero_le _)), List.take_length]
    exact hmem
  · intro hintact fromSequence limit
    refine (h.verify_loadChain digest fromSequence limit).mpr fun event hmem => ?_
    exact hintact event (log.loadChain_subset fromSequence limit hmem)

/-! ## Appending -/

variable {digest : CanonicalDigest} {log log' : AuditLog} {event : NewControlFactorAuditEvent}
  {now : DateTime} {row : ControlFactorAuditEvent}

theorem appendChained_cases (h : log.appendChained digest event now = .ok (row, log')) :
    (log.findByIdempotency event = some row ∧ log' = log) ∨
      (log.findByIdempotency event = none ∧ row = log.nextRow digest event now ∧
        log' = log ++ [log.nextRow digest event now]) := by
  unfold appendChained at h
  cases hfind : log.findByIdempotency event with
  | some existing =>
    simp only [hfind] at h
    cases h
    exact .inl ⟨rfl, rfl⟩
  | none =>
    simp only [hfind] at h
    split at h
    · cases h
    · cases h
      exact .inr ⟨rfl, rfl, rfl⟩

theorem Linked.appendChained (hlog : log.Linked)
    (h : log.appendChained digest event now = .ok (row, log')) : log'.Linked := by
  obtain ⟨-, rfl⟩ | ⟨-, -, rfl⟩ := appendChained_cases h
  · exact hlog
  · exact hlog.append digest event now

theorem nextRow_hash_iff (hdigest : digest.TellsRounding) :
    digest.eventHash (log.nextRow digest event now).toAuditEventContent =
        (log.nextRow digest event now).eventHash ↔ WholeMicros now := by
  change digest.eventHash (log.nextContent event now).stored =
    digest.eventHash (log.nextContent event now) ↔ WholeMicros (log.nextContent event now).createdAt
  rw [← AuditEventContent.stored_eq_iff]
  constructor
  · intro h
    exact hdigest.event _ (String.append_right_inj _ |>.mp h)
  · intro h
    rw [h]

/-- The event is not a repeated one, so that it is written. -/
def Fresh (log : AuditLog) (event : NewControlFactorAuditEvent) : Prop :=
  log.findByIdempotency event = none

/-- **An append keeps the chain intact** exactly when it writes nothing or at a whole
microsecond. -/
theorem intact_appendChained_iff (hdigest : digest.TellsRounding)
    (h : log.appendChained digest event now = .ok (row, log')) :
    log'.Intact digest ↔ log.Intact digest ∧ (log.Fresh event → WholeMicros now) := by
  obtain ⟨hfind, rfl⟩ | ⟨hfind, -, rfl⟩ := appendChained_cases h
  · unfold Fresh
    rw [hfind]
    exact (and_iff_left fun hnone => absurd hnone (Option.some_ne_none _)).symm
  · unfold Intact Fresh
    rw [List.forall_mem_append, List.forall_mem_singleton, nextRow_hash_iff hdigest]
    exact and_congr_right fun _ => ⟨fun h _ => h, fun h => h hfind⟩

end AuditLog

end OxideArb.ControlFactor
