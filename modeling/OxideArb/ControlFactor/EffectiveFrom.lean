import OxideArb.ControlFactor.Registry

/-!
# From when a publication is in force

A publication is activated when it is committed, and the refresher compiles whatever is active.
Neither looks at `effective_from`.
-/

open Checked Transition

namespace OxideArb.ControlFactor

/-! ## The refresher -/

/-- A snapshot of `FactorSnapshotStore`, with the publication hash it was compiled for. -/
structure Slot where
  snapshot : ControlFactorSnapshot
  version : Option String

def Slot.applyNeutral (slot : Slot) (now : DateTime) : Slot :=
  if slot.version.isNone then slot else ⟨.neutral now, none⟩

inductive RefreshError
  | unverified (source : GovernanceError)
  | unreadable
  | missingMember (factorId : String)
  | build (source : SnapshotBuildError)
deriving DecidableEq, Repr

/-- `FactorRefresher::compile`; `readable` says that the members could be read and that their
stored hashes verify. -/
def RegistryDb.compileActive (db : RegistryDb) (digest : CanonicalDigest) (row : PublicationRow)
    (readable failClosed : Bool) (now : DateTime) :
    Except RefreshError ControlFactorSnapshot := do
  (PublicationHasher.verify digest row.toControlFactorPublication).mapError .unverified
  if readable then
    let factors := db.factors.rows.filter (·.factorId ∈ row.factorIds)
    match row.factorIds.find? fun member => !factors.any (·.factorId = member) with
    | some member => .error (.missingMember member.raw)
    | none =>
      (ControlFactorSnapshot.compile row.toControlFactorPublication factors now
        (row.mode = .published && failClosed)).mapError .build
  else .error .unreadable

/-- The publication that the call activates is due. -/
def RegistryDb.Due (db : RegistryDb) (now : DateTime) : RegistryOp → Prop
  | .publish draft _ =>
    db.publications.findByIdempotency draft.idempotencyKey = none →
      storeTimestamp draft.effectiveFrom ≤ now
  | .rollback _ _ targetId => db.publications.Holds targetId (·.effectiveFrom ≤ now)
  | .createFactor .. | .rejectFactor .. | .expireFactors _ | .appendAuditEvent _ => True

/-- The registry and the process that reads it; `loaded` is a publication between its query and
its compilation. -/
structure Live where
  db : RegistryDb
  clock : DateTime
  slots : PublicationMode → Slot
  loaded : Option PublicationRow

inductive LiveEvent
  | commit (op : RegistryOp)
  | load (mode : PublicationMode)
  | store (readable failClosed : Bool)
  | restart

namespace Live

variable (s : Live)

def setSlot (mode : PublicationMode) (slot : Slot) : Live :=
  { s with slots := Function.update s.slots mode slot }

/-- `refresh_mode` to the check of the version. -/
def load (mode : PublicationMode) : Live :=
  match s.db.publications.loadActive mode with
  | none => s.setSlot mode ((s.slots mode).applyNeutral s.clock)
  | some row =>
    if (s.slots mode).version = some row.publicationHash then s else { s with loaded := some row }

/-- The rest of `refresh_mode`: the snapshot is retained when the compilation fails. -/
def store (digest : CanonicalDigest) (readable failClosed : Bool) : Live :=
  match s.loaded with
  | none => s
  | some row =>
    match s.db.compileActive digest row readable failClosed s.clock with
    | .error _ => { s with loaded := none }
    | .ok snapshot =>
      { s.setSlot row.mode ⟨snapshot, some row.publicationHash⟩ with loaded := none }

def restart : Live := { s with slots := fun _ => ⟨.neutral s.clock, none⟩, loaded := none }

/-- A call that fails changes nothing. -/
def commit (digest : CanonicalDigest) (op : RegistryOp) : Live :=
  { s with db := (s.db.next digest (op, s.clock)).getD s.db }

def apply (digest : CanonicalDigest) : LiveEvent → Live
  | .commit op => s.commit digest op
  | .load mode => s.load mode
  | .store readable failClosed => s.store digest readable failClosed
  | .restart => s.restart

def elapse (wait : Nat) : Live := { s with clock := s.clock + (wait : Int) }

/-- An event, some time after the last one. -/
def step (digest : CanonicalDigest) (s : Live) (event : Nat × LiveEvent) : Live :=
  (s.elapse event.1).apply digest event.2

def Effective (id : FactorPublicationId) : Prop :=
  s.db.publications.Holds id (·.effectiveFrom ≤ s.clock)

/-- No publication is active or in a snapshot before its `effective_from`. -/
structure Timely : Prop where
  active : ∀ mode id, s.db.publications.ActiveIn mode id → s.Effective id
  slots : ∀ mode id, (s.slots mode).snapshot.publicationId = some id → s.Effective id

/-- A committed call activates no publication before its `effective_from`. -/
def ActivatesDue (digest : CanonicalDigest) (s : Live) : Nat × LiveEvent → Prop
  | (wait, .commit op) =>
    (s.db.next digest (op, (s.elapse wait).clock)).isSome = true →
      s.db.Due (s.elapse wait).clock op
  | (_, .load _) | (_, .store ..) | (_, .restart) => True

end Live

/-! ## Steps -/

namespace RegistryDb

variable {digest : CanonicalDigest} {db after : RegistryDb} {call : RegistryOp × DateTime}
  {k : FactorPublicationId} {t : DateTime}

/-- Nothing changes the `effective_from` of a publication. -/
theorem Stepped.effectiveFrom (h : db.Stepped digest call after)
    (hk : db.publications.Holds k (·.effectiveFrom ≤ t)) :
    after.publications.Holds k (·.effectiveFrom ≤ t) := by
  obtain ⟨row, hrow, hle⟩ := hk
  obtain ⟨op, now⟩ := call
  unfold Table.Holds
  cases h.publications with
  | kept hkept _ => exact ⟨row, hkept ▸ hrow, hle⟩
  | activated _ hact =>
    rw [hact.publications, hrow]
    split
    next hid =>
      rw [hid, hact.fresh] at hrow
      cases hrow
    next =>
      refine ⟨_, rfl, ?_⟩
      dsimp only
      split <;> exact hle
  | rolledBack hrolled =>
    rw [hrolled.publications, hrow]
    refine ⟨_, rfl, ?_⟩
    dsimp only
    split
    · exact hle
    · split <;> exact hle

variable {publication : PublicationRow} {audit : NewControlFactorAuditEvent} {now : DateTime}

theorem Activated.effectiveFrom_iff (h : db.Activated digest publication audit now after) :
    after.publications.Holds publication.id (·.effectiveFrom ≤ t) ↔
      storeTimestamp publication.effectiveFrom ≤ t := by
  unfold Table.Holds
  rw [h.publications, if_pos rfl]
  simp [PublicationRow.setStatus, PublicationRow.stored]

theorem RolledBack.effectiveFrom_iff {activeId targetId : FactorPublicationId}
    {target : PublicationRow} (h : db.RolledBack digest activeId targetId audit now target after) :
    after.publications.Holds targetId (·.effectiveFrom ≤ t) ↔
      db.publications.Holds targetId (·.effectiveFrom ≤ t) := by
  unfold Table.Holds
  rw [h.publications, h.loaded]
  simp [PublicationRow.setStatus]

/-- A committed call leaves only due publications active exactly if it activates a due one. -/
theorem active_due_iff {op : RegistryOp}
    (hold : ∀ mode k, db.publications.ActiveIn mode k →
      db.publications.Holds k (·.effectiveFrom ≤ now))
    (hn : db.next digest (op, now) = some after) :
    (∀ mode k, after.publications.ActiveIn mode k →
      after.publications.Holds k (·.effectiveFrom ≤ now)) ↔ db.Due now op := by
  have hs := next_stepped hn
  have hkept : after.publications = db.publications → (∀ mode k,
      after.publications.ActiveIn mode k → after.publications.Holds k (·.effectiveFrom ≤ now)) :=
    fun heq => by rwa [heq]
  have hok := toOption_eq_some.mp hn
  cases op with
  | publish draft audit =>
    obtain ⟨⟨outcome, result⟩, hpublish, hresult⟩ := map_eq_ok.mp hok
    cases hresult
    obtain ⟨existing, hfound, -, rfl⟩ | ⟨hnone, hact⟩ :=
      publishPublication_cases (mapError_eq_ok.mp hpublish)
    · exact iff_of_true hold fun hnone => nomatch hnone.symm.trans hfound
    · refine ⟨fun hall _ => ?_, fun hdue mode k hk => ?_⟩
      · exact hact.effectiveFrom_iff.mp (hall _ _ (hact.activeIn_iff.mpr (by rw [if_pos rfl])))
      · rw [hact.activeIn_iff] at hk
        split at hk
        · rw [hk]
          exact hact.effectiveFrom_iff.mpr (hdue hnone)
        · exact hs.effectiveFrom (hold mode k hk)
  | rollback envelope activeId targetId =>
    obtain ⟨target, hrolled⟩ := rollback_stepped hok
    refine ⟨fun hall => ?_, fun hdue mode k hk => ?_⟩
    · exact hrolled.effectiveFrom_iff.mp (hall _ _ (hrolled.activeIn_iff.mpr (.inl ⟨rfl, rfl⟩)))
    · obtain ⟨rfl, -⟩ | ⟨-, -, hk⟩ := hrolled.activeIn_iff.mp hk
      · exact hrolled.effectiveFrom_iff.mpr hdue
      · exact hs.effectiveFrom (hold mode k hk)
  | createFactor _ _ | rejectFactor _ _ | expireFactors _ | appendAuditEvent _ =>
    cases hs.publications with
    | kept heq _ => exact iff_of_true (hkept heq) trivial

theorem compileActive_publicationId {row : PublicationRow} {readable failClosed : Bool}
    {snapshot : ControlFactorSnapshot}
    (h : db.compileActive digest row readable failClosed now = .ok snapshot) :
    snapshot.publicationId = some row.id := by
  obtain ⟨_, -, h⟩ := bind_eq_ok.mp h
  dsimp only at h
  split at h
  · split at h
    · cases h
    · exact ControlFactorSnapshot.foldlM_publicationId (mapError_eq_ok.mp h)
  · cases h

end RegistryDb

namespace Live

variable {s : Live} {digest : CanonicalDigest}

/-- With what has been loaded. -/
structure Inv (s : Live) : Prop extends s.Timely where
  loaded : ∀ row ∈ s.loaded, s.Effective row.id

theorem Effective.elapse {id : FactorPublicationId} (h : s.Effective id) (wait : Nat) :
    (s.elapse wait).Effective id :=
  h.imp fun row hrow => by
    have hlater : s.clock ≤ s.clock + (wait : Int) := Int.le_add_of_nonneg_right (by simp)
    exact le_trans hrow hlater

theorem effective_of_loadActive (h : s.Timely) {mode : PublicationMode} {row : PublicationRow}
    (hrow : s.db.publications.loadActive mode = some row) : s.Effective row.id := by
  have hmem := List.mem_of_find?_eq_some hrow
  have hactive := List.find?_some hrow
  simp only [Bool.and_eq_true, decide_eq_true_eq] at hactive
  exact h.active mode row.id ⟨row, s.db.publications.get_eq_some_iff.mpr ⟨hmem, rfl⟩, hactive⟩

theorem setSlot_publicationId {mode mode' : PublicationMode} {slot : Slot}
    {id : FactorPublicationId}
    (h : ((s.setSlot mode slot).slots mode').snapshot.publicationId = some id) :
    slot.snapshot.publicationId = some id ∨ (s.slots mode').snapshot.publicationId = some id := by
  unfold setSlot at h
  by_cases hm : mode' = mode
  · subst hm
    exact .inl (by simpa using h)
  · exact .inr (by simpa [hm] using h)

namespace Inv

variable (h : s.Inv)

include h

theorem load (mode : PublicationMode) : (s.load mode).Inv := by
  unfold Live.load
  split
  · refine ⟨⟨h.active, fun mode' id hid => ?_⟩, h.loaded⟩
    obtain hid | hid := setSlot_publicationId hid
    · unfold Slot.applyNeutral at hid
      split at hid
      · exact h.slots mode id hid
      · cases hid
    · exact h.slots mode' id hid
  · rename_i row hrow
    split
    · exact h
    · refine ⟨⟨h.active, h.slots⟩, fun row' hrow' => ?_⟩
      cases hrow'
      exact effective_of_loadActive h.toTimely hrow

theorem store (readable failClosed : Bool) : (s.store digest readable failClosed).Inv := by
  unfold Live.store
  split
  · exact h
  · rename_i row hrow
    split
    · refine ⟨⟨h.active, h.slots⟩, fun row' hrow' => ?_⟩
      cases hrow'
    · rename_i snapshot hcompiled
      refine ⟨⟨h.active, fun mode id hid => ?_⟩, fun row' hrow' => ?_⟩
      · obtain hid | hid := setSlot_publicationId hid
        · rw [RegistryDb.compileActive_publicationId hcompiled] at hid
          cases hid
          exact h.loaded row hrow
        · exact h.slots mode id hid
      · cases hrow'

theorem restart : s.restart.Inv := by
  refine ⟨⟨h.active, fun mode id hid => ?_⟩, fun row hrow => ?_⟩
  · cases hid
  · cases hrow

theorem elapse (wait : Nat) : (s.elapse wait).Inv where
  active mode id hid := (h.active mode id hid).elapse wait
  slots mode id hid := (h.slots mode id hid).elapse wait
  loaded row hrow := (h.loaded row hrow).elapse wait

theorem commit {op : RegistryOp}
    (hdue : (s.db.next digest (op, s.clock)).isSome = true → s.db.Due s.clock op) :
    (s.commit digest op).Inv := by
  unfold Live.commit
  cases hn : s.db.next digest (op, s.clock) with
  | none => exact h
  | some after =>
    have hs := RegistryDb.next_stepped hn
    refine ⟨⟨(RegistryDb.active_due_iff h.active hn).mpr (hdue (by rw [hn]; rfl)), ?_⟩, ?_⟩
    · exact fun mode id hid => hs.effectiveFrom (h.slots mode id hid)
    · exact fun row hrow => hs.effectiveFrom (h.loaded row hrow)

theorem due_of_commit {op : RegistryOp} (ht : (s.commit digest op).Timely)
    (hsome : (s.db.next digest (op, s.clock)).isSome = true) : s.db.Due s.clock op := by
  obtain ⟨after, hn⟩ := Option.isSome_iff_exists.mp hsome
  refine (RegistryDb.active_due_iff h.active hn).mp fun mode id hid => ?_
  have heff := ht.active mode id
  simp only [Live.commit, hn, Option.getD_some] at heff
  exact heff hid

end Inv

/-- **A publication is in force only from its `effective_from` on**, active or in a snapshot, at
every time of a run exactly when each committed call activates a publication that is due. -/
theorem timely_along_iff (h : s.Inv) (events : List (Nat × LiveEvent)) :
    Along (step digest) Timely s events ↔
      Meets (fun s event => some (s.step digest event)) (ActivatesDue digest) s events := by
  refine along_iff_meets Inv (fun s hs => hs.toTimely) ?_ ?_ h
  · rintro s ⟨wait, event⟩ hs hdue
    replace hs := hs.elapse wait
    cases event with
    | commit op => exact hs.commit hdue
    | load mode => exact hs.load mode
    | store readable failClosed => exact hs.store readable failClosed
    | restart => exact hs.restart
  · rintro s ⟨wait, event⟩ hs hnot ht
    cases event with
    | commit op => exact hnot ((hs.elapse wait).due_of_commit ht)
    | load _ | store _ _ | restart => exact hnot trivial

end Live

/-! ### A publication for later -/

def Live.initial : Live := ⟨.empty, 1000, fun _ => ⟨.neutral 1000, none⟩, none⟩

def livingFactor (id : String) (blockNewEntries : Bool) : RegistryOp :=
  .createFactor
    { sampleBucketFactor id blockNewEntries with status := .candidate, expiresAt := 1000000 }
    (sampleEnvelope.factorAudit .factorCreated ⟨id⟩)

def publishFrom (id : String) (mode : PublicationMode) (factorId : String)
    (effectiveFrom : DateTime) : RegistryOp :=
  .publish { sampleDraft id mode [⟨factorId⟩] with effectiveFrom }
    (sampleEnvelope.publicationAudit .publicationCreated ⟨id⟩ [])

/-- Two factors of one bucket, the first of which blocks it and is published. -/
def blockedSetup : List (Nat × LiveEvent) :=
  ([livingFactor "a" true, livingFactor "b" false, publishFrom "s1" .shadow "a" 0,
    publishFrom "s2" .shadow "b" 0, publishFrom "p1" .published "a" 0].map
      fun op => (0, .commit op)) ++ [(0, .load .published), (0, .store true true)]

def laterEvents : List (Nat × LiveEvent) :=
  [(1000, .commit (publishFrom "p2" .published "b" 500000)), (0, .load .published),
    (0, .store true true)]

/-- The time, the publication in the snapshot and whether its bucket is blocked. -/
def Live.view (s : Live) : DateTime × Option String × Option Bool :=
  let snapshot := (s.slots .published).snapshot
  (s.clock, snapshot.publicationId.map (·.raw),
    (snapshot.restrictions sampleSituation).bucket.map (·.blockNewEntries))

/-- A publication effective from 500000 lifts the block at time 2000. -/
theorem later_publication_displaces :
    (blockedSetup.foldl (Live.step sampleDigest) .initial).view =
        (1000, some "p1", some true) ∧
      ((blockedSetup ++ laterEvents).foldl (Live.step sampleDigest) .initial).view =
        (2000, some "p2", some false) := by
  decide +kernel

theorem timely_along_iff_blocked :
    Along (Live.step sampleDigest) Live.Timely .initial blockedSetup := by
  have hinv : Live.initial.Inv := by
    refine ⟨⟨fun mode id hid => ?_, fun mode id hid => ?_⟩, fun row hrow => ?_⟩
    · obtain ⟨row, hrow, -⟩ := hid
      cases hrow
    · cases hid
    · cases hrow
  refine (Live.timely_along_iff hinv blockedSetup).mpr ?_
  have hdue : storeTimestamp 0 ≤ 1000 := by decide
  exact ⟨fun _ => trivial, fun _ => trivial, fun _ _ => hdue, fun _ _ => hdue, fun _ _ => hdue,
    trivial, trivial, trivial⟩

end OxideArb.ControlFactor
