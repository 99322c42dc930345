import OxideArb.Lib.Table
import OxideArb.Lib.Transition
import OxideArb.Types.Basic

/-!
# Activation of a configuration version

A request records a durable activation and then applies the configuration; when the live system
refuses, a second activation points back to the version that was current before. Requests
interleave call by call.
-/

namespace OxideArb.Web

open Transition

structure RuntimeConfigVersionId where
  text : String
deriving DecidableEq, Repr

inductive RuntimeConfigActivationKind
  | initial
  | promote
  | rollback
deriving DecidableEq, Repr

structure RuntimeConfigActivation where
  versionId : RuntimeConfigVersionId
  activatedAt : DateTime
  kind : RuntimeConfigActivationKind
  previousVersionId : Option RuntimeConfigVersionId
  rollbackTargetVersionId : Option RuntimeConfigVersionId
deriving DecidableEq, Repr

/-- The versions with their parsed configuration, and the semantic validation. -/
structure VersionStore (Config : Type) where
  load : RuntimeConfigVersionId → Option Config
  valid : Config → Bool

inductive VersionStage (Config : Type)
  | loadVersion
  | loadCurrent (config : Config)
  | activate (config : Config) (activation : RuntimeConfigActivation)
  | apply (config : Config) (activation : RuntimeConfigActivation)
  | revert (activation : RuntimeConfigActivation)
deriving DecidableEq, Repr

structure VersionRequest (Config : Type) where
  id : Nat
  versionId : RuntimeConfigVersionId
  kind : RuntimeConfigActivationKind
  stage : VersionStage Config
deriving DecidableEq, Repr

/-- What a step meets: whether its call succeeds, whether the live money state passes the
preflight, the version that is read as the current one, and the time. -/
structure VersionAnswer where
  ok : Bool
  preflight : Bool
  current : Option RuntimeConfigVersionId
  now : DateTime

/-- The live store, the durable activations and the requests in progress. -/
structure ConfigState (Config : Type) where
  live : Config
  activations : List RuntimeConfigActivation
  requests : Table (@VersionRequest.id Config)
  revertFailed : Bool

inductive ConfigEvent
  | request (id : Nat) (versionId : RuntimeConfigVersionId) (kind : RuntimeConfigActivationKind)
  | advance (id : Nat) (answer : VersionAnswer)

/-- None of the activations is later. -/
def RuntimeConfigActivation.IsLatest (row : RuntimeConfigActivation)
    (rows : List RuntimeConfigActivation) : Prop :=
  ∀ r ∈ rows, r.activatedAt ≤ row.activatedAt

instance (row : RuntimeConfigActivation) (rows : List RuntimeConfigActivation) :
    Decidable (row.IsLatest rows) :=
  inferInstanceAs (Decidable (∀ r ∈ rows, r.activatedAt ≤ row.activatedAt))

/-- `load_current`: the version of a latest activation, if there is any. -/
def LoadsCurrent (rows : List RuntimeConfigActivation) :
    Option RuntimeConfigVersionId → Prop
  | none => rows = []
  | some id => ∃ row ∈ rows, row.versionId = id ∧ row.IsLatest rows

instance (rows : List RuntimeConfigActivation) :
    (current : Option RuntimeConfigVersionId) → Decidable (LoadsCurrent rows current)
  | none => inferInstanceAs (Decidable (rows = []))
  | some id => inferInstanceAs (Decidable (∃ row ∈ rows, row.versionId = id ∧ row.IsLatest rows))

namespace VersionRequest

variable {Config : Type}

def activation (t : VersionRequest Config) (previous : Option RuntimeConfigVersionId)
    (now : DateTime) : RuntimeConfigActivation where
  versionId := t.versionId
  activatedAt := now
  kind := t.kind
  previousVersionId := previous
  rollbackTargetVersionId := if t.kind = .rollback then some t.versionId else none

def compensation (failed : RuntimeConfigActivation) (previous : RuntimeConfigVersionId)
    (now : DateTime) : RuntimeConfigActivation where
  versionId := previous
  activatedAt := now
  kind := .rollback
  previousVersionId := some failed.versionId
  rollbackTargetVersionId := some previous

end VersionRequest

namespace ConfigState

variable {Config : Type}

def goto (s : ConfigState Config) (t : VersionRequest Config) (stage : VersionStage Config) :
    ConfigState Config :=
  { s with requests := s.requests.put { t with stage } }

def finish (s : ConfigState Config) (t : VersionRequest Config) : ConfigState Config :=
  { s with requests := s.requests.without t.id }

def record (s : ConfigState Config) (row : RuntimeConfigActivation) : ConfigState Config :=
  { s with activations := s.activations ++ [row] }

/-- `transition_version` and `revert_unapplied_activation`, from one call to the next. -/
def advance (v : VersionStore Config) (s : ConfigState Config) (t : VersionRequest Config)
    (a : VersionAnswer) : ConfigState Config :=
  match t.stage with
  | .loadVersion =>
    match v.load t.versionId with
    | none => s.finish t
    | some config =>
      if a.ok && v.valid config && a.preflight then s.goto t (.loadCurrent config)
      else s.finish t
  | .loadCurrent config =>
    if !a.ok then s.finish t
    else if LoadsCurrent s.activations a.current then
      s.goto t (.activate config (t.activation a.current a.now))
    else s
  | .activate config activation =>
    if a.ok then (s.record activation).goto t (.apply config activation) else s.finish t
  | .apply config activation =>
    if a.ok then { s.finish t with live := config }
    else
      match activation.previousVersionId with
      | none => s.finish t
      | some previous => s.goto t (.revert (VersionRequest.compensation activation previous a.now))
  | .revert activation =>
    if a.ok then (s.record activation).finish t else { s.finish t with revertFailed := true }

/-- An event that cannot happen is passed over. -/
def step (v : VersionStore Config) (s : ConfigState Config) : ConfigEvent → ConfigState Config
  | .request id versionId kind =>
    match s.requests.insert ⟨id, versionId, kind, .loadVersion⟩ with
    | none => s
    | some requests => { s with requests }
  | .advance id a =>
    match s.requests.get id with
    | none => s
    | some t => s.advance v t a

/-! ## The live configuration and the current version -/

/-- The live configuration is that of the latest activation. -/
def Agrees (v : VersionStore Config) (s : ConfigState Config) : Prop :=
  ∀ row ∈ s.activations, row.IsLatest s.activations → v.load row.versionId = some s.live

/-- They agree when nothing is in progress and no compensation has failed. -/
def Settled (v : VersionStore Config) (s : ConfigState Config) : Prop :=
  s.requests.rows = [] → s.revertFailed = false → s.Agrees v

end ConfigState

/-! ## Requests one after the other -/

def VersionStage.critical {Config : Type} : VersionStage Config → Bool
  | .loadVersion | .loadCurrent _ => false
  | .activate _ _ | .apply _ _ | .revert _ => true

namespace ConfigState

variable {Config : Type} {v : VersionStore Config} {s : ConfigState Config}

/-- A request reads the current version while no other is between this reading and its
end, and the times it draws are later than those of the activations so far. -/
def Ready (s : ConfigState Config) (id : Nat) (a : VersionAnswer) : VersionStage Config → Prop
  | .loadCurrent _ =>
    (∀ o ∈ (s.requests.without id).rows, o.stage.critical = false) ∧
      ∀ row ∈ s.activations, row.activatedAt < a.now
  | .apply _ _ => a.ok = false → ∀ row ∈ s.activations, row.activatedAt < a.now
  | _ => True

instance (id : Nat) (a : VersionAnswer) : DecidablePred (s.Ready id a)
  | .loadVersion | .activate _ _ | .revert _ => inferInstanceAs (Decidable True)
  | .loadCurrent _ =>
    inferInstanceAs (Decidable (_ ∧ ∀ row ∈ s.activations, row.activatedAt < a.now))
  | .apply _ _ =>
    inferInstanceAs (Decidable (a.ok = false → ∀ row ∈ s.activations, row.activatedAt < a.now))

/-- The requests take turns. -/
def Exclusive (s : ConfigState Config) : ConfigEvent → Prop
  | .request .. => True
  | .advance id a => ∀ t ∈ s.requests.get id, s.Ready id a t.stage

instance : DecidablePred s.Exclusive
  | .request .. => inferInstanceAs (Decidable True)
  | .advance id a => inferInstanceAs (Decidable (∀ t ∈ s.requests.get id, s.Ready id a t.stage))

def Returns (v : VersionStore Config) (s : ConfigState Config)
    (activation : RuntimeConfigActivation) : Prop :=
  ∃ previous, activation.previousVersionId = some previous ∧ v.load previous = some s.live

/-- What holds of the activations and the live configuration while a request is between its
reading of the current version and its end. -/
def Holds (v : VersionStore Config) (s : ConfigState Config) : VersionStage Config → Prop
  | .loadVersion | .loadCurrent _ => True
  | .activate _ activation =>
    s.Agrees v ∧ s.Returns v activation ∧
      ∀ row ∈ s.activations, row.activatedAt < activation.activatedAt
  | .apply _ activation =>
    s.Returns v activation ∧ activation ∈ s.activations ∧
      ∀ row ∈ s.activations, row = activation ∨ row.activatedAt < activation.activatedAt
  | .revert activation =>
    v.load activation.versionId = some s.live ∧
      ∀ row ∈ s.activations, row.activatedAt < activation.activatedAt

def Loaded (v : VersionStore Config) (t : VersionRequest Config) : Prop :=
  match t.stage with
  | .loadVersion | .revert _ => True
  | .loadCurrent config => v.load t.versionId = some config
  | .activate config activation | .apply config activation =>
    v.load t.versionId = some config ∧ activation.versionId = t.versionId

structure Inv (v : VersionStore Config) (s : ConfigState Config) : Prop where
  nonempty : s.activations ≠ []
  loaded : ∀ id t, s.requests.get id = some t → Loaded v t
  sole : ∀ i j a b, s.requests.get i = some a → s.requests.get j = some b →
    a.stage.critical = true → b.stage.critical = true → i = j
  holds : s.revertFailed = false → ∀ id t, s.requests.get id = some t → s.Holds v t.stage
  agrees : s.revertFailed = false →
    (∀ id t, s.requests.get id = some t → t.stage.critical = false) → s.Agrees v

theorem Inv.settled (h : s.Inv v) : s.Settled v := by
  intro hrows hreverts
  refine h.agrees hreverts fun id t ht => ?_
  have hmem := (s.requests.get_eq_some_iff.mp ht).1
  rw [hrows] at hmem
  cases hmem

theorem holds_of_not_critical {t : VersionRequest Config} (h : t.stage.critical = false) :
    s.Holds v t.stage := by
  cases hstage : t.stage with
  | loadVersion | loadCurrent => trivial
  | activate | apply | revert =>
    rw [hstage] at h
    cases h

/-! ### The steps of one request -/

section Request

variable {t : VersionRequest Config} (h : s.Inv v) (ht : s.requests.get t.id = some t)

def Alone (s : ConfigState Config) (t : VersionRequest Config) : Prop :=
  ∀ id o, s.requests.get id = some o → id ≠ t.id → o.stage.critical = false

include h ht in
theorem Inv.alone (hcritical : t.stage.critical = true) : s.Alone t := by
  intro id o ho hne
  by_contra hcontra
  rw [Bool.not_eq_false] at hcontra
  exact hne (h.sole id t.id o t ho ht hcontra hcritical)

theorem get_goto (stage : VersionStage Config) (id : Nat) :
    (s.goto t stage).requests.get id =
      if id = t.id then some { t with stage } else s.requests.get id :=
  s.requests.get_put { t with stage } id

theorem get_finish {id : Nat} {o : VersionRequest Config}
    (ho : (s.finish t).requests.get id = some o) : id ≠ t.id ∧ s.requests.get id = some o := by
  by_cases hid : id = t.id
  · subst hid
    change (s.requests.without t.id).get t.id = some o at ho
    rw [Table.get_without_self] at ho
    cases ho
  · refine ⟨hid, ?_⟩
    change (s.requests.without t.id).get id = some o at ho
    rwa [Table.get_without_ne _ hid] at ho

include h in
theorem Inv.finish_early (hcritical : t.stage.critical = false)
    (ht : s.requests.get t.id = some t) : (s.finish t).Inv v where
  nonempty := h.nonempty
  loaded := fun id o ho => h.loaded id o (get_finish ho).2
  sole := fun i j a b ha hb => h.sole i j a b (get_finish ha).2 (get_finish hb).2
  holds := fun hreverts id o ho => h.holds hreverts id o (get_finish ho).2
  agrees := fun hreverts hall => h.agrees hreverts fun id o ho => by
    by_cases hid : id = t.id
    · subst hid
      rw [ht] at ho
      cases ho
      exact hcritical
    · refine hall id o ?_
      change (s.requests.without t.id).get id = some o
      rwa [Table.get_without_ne _ hid]

include h in
theorem Inv.prepare {config : Config} (hcritical : t.stage.critical = false)
    (ht : s.requests.get t.id = some t) (hload : v.load t.versionId = some config) :
    (s.goto t (.loadCurrent config)).Inv v := by
  have hget : ∀ {id o}, (s.goto t (.loadCurrent config)).requests.get id = some o →
      o = { t with stage := .loadCurrent config } ∨ id ≠ t.id ∧ s.requests.get id = some o := by
    intro id o ho
    rw [get_goto] at ho
    split at ho
    next => exact .inl (Option.some.inj ho).symm
    next hne => exact .inr ⟨hne, ho⟩
  refine ⟨h.nonempty, fun id o ho => ?_, fun i j a b ha hb hca hcb => ?_,
    fun hreverts id o ho => ?_, fun hreverts hall => ?_⟩
  · rcases hget ho with rfl | ⟨-, ho⟩
    · exact hload
    · exact h.loaded id o ho
  · rcases hget ha with rfl | ⟨-, ha⟩
    · cases hca
    · rcases hget hb with rfl | ⟨-, hb⟩
      · cases hcb
      · exact h.sole i j a b ha hb hca hcb
  · rcases hget ho with rfl | ⟨-, ho⟩
    · trivial
    · exact h.holds hreverts id o ho
  · refine h.agrees hreverts fun id o ho => ?_
    by_cases hid : id = t.id
    · subst hid
      rw [ht] at ho
      cases ho
      exact hcritical
    · refine hall id o ?_
      rw [get_goto, if_neg hid]
      exact ho

include h in
theorem Inv.goto (halone : s.Alone t) (stage : VersionStage Config)
    (hcritical : stage.critical = true) (hloaded : Loaded v { t with stage })
    {s' : ConfigState Config} (hrequests : s'.requests = (s.goto t stage).requests)
    (hnonempty : s'.activations ≠ [])
    (hholds : s'.revertFailed = false → s'.Holds v stage) : s'.Inv v := by
  have hget : ∀ {id o}, s'.requests.get id = some o →
      id = t.id ∧ o = { t with stage } ∨
        id ≠ t.id ∧ s.requests.get id = some o ∧ o.stage.critical = false := by
    intro id o ho
    rw [hrequests, get_goto] at ho
    split at ho
    next heq => exact .inl ⟨heq, (Option.some.inj ho).symm⟩
    next hne => exact .inr ⟨hne, ho, halone id o ho hne⟩
  refine ⟨hnonempty, fun id o ho => ?_, fun i j a b ha hb hca hcb => ?_,
    fun hreverts id o ho => ?_, fun hreverts hall => ?_⟩
  · rcases hget ho with ⟨-, rfl⟩ | ⟨-, ho, -⟩
    · exact hloaded
    · exact h.loaded id o ho
  · rcases hget ha with ⟨rfl, -⟩ | ⟨-, -, hquiet⟩
    · rcases hget hb with ⟨rfl, -⟩ | ⟨-, -, hquiet⟩
      · rfl
      · rw [hquiet] at hcb
        cases hcb
    · rw [hquiet] at hca
      cases hca
  · rcases hget ho with ⟨-, rfl⟩ | ⟨-, -, hquiet⟩
    · exact hholds hreverts
    · exact holds_of_not_critical hquiet
  · have hself := hall t.id { t with stage } (by rw [hrequests, get_goto, if_pos rfl])
    rw [hcritical] at hself
    cases hself

include h in
theorem Inv.finish (halone : s.Alone t) {s' : ConfigState Config}
    (hrequests : s'.requests = (s.finish t).requests) (hnonempty : s'.activations ≠ [])
    (hagrees : s'.revertFailed = false → s'.Agrees v) : s'.Inv v := by
  have hget : ∀ {id o}, s'.requests.get id = some o →
      s.requests.get id = some o ∧ o.stage.critical = false := by
    intro id o ho
    rw [hrequests] at ho
    obtain ⟨hne, ho⟩ := get_finish ho
    exact ⟨ho, halone id o ho hne⟩
  refine ⟨hnonempty, fun id o ho => h.loaded id o (hget ho).1, fun i j a b ha _ hca => ?_,
    fun hreverts id o ho => holds_of_not_critical (hget ho).2, fun hreverts _ => hagrees hreverts⟩
  rw [(hget ha).2] at hca
  cases hca

end Request

theorem agrees_record {row : RuntimeConfigActivation} {s : ConfigState Config}
    (hlater : ∀ r ∈ s.activations, r.activatedAt < row.activatedAt)
    (hload : v.load row.versionId = some s.live) : (s.record row).Agrees v := by
  intro r hr hlatest
  rcases List.mem_append.mp hr with hold | hnew
  · have hle := hlatest row (List.mem_append_right _ (List.mem_singleton_self row))
    exact absurd (hlater r hold) (not_lt.mpr hle)
  · rw [List.mem_singleton.mp hnew]
    exact hload

theorem Agrees.loadsCurrent (h : s.Agrees v) (hnonempty : s.activations ≠ [])
    {current : Option RuntimeConfigVersionId} (hcurrent : LoadsCurrent s.activations current) :
    ∃ previous, current = some previous ∧ v.load previous = some s.live := by
  cases current with
  | none => exact absurd hcurrent hnonempty
  | some previous =>
    obtain ⟨row, hrow, rfl, hlatest⟩ := hcurrent
    exact ⟨_, rfl, h row hrow hlatest⟩

theorem Inv.advance (h : s.Inv v) {t : VersionRequest Config}
    (ht : s.requests.get t.id = some t) {a : VersionAnswer}
    (hexclusive : s.Exclusive (.advance t.id a)) : (s.advance v t a).Inv v := by
  have hloaded := h.loaded t.id t ht
  have hmeets := hexclusive t ht
  unfold ConfigState.advance
  cases hstage : t.stage with
  | loadVersion =>
    have hearly : t.stage.critical = false := by rw [hstage]; rfl
    dsimp only
    split
    next => exact h.finish_early hearly ht
    next config hload =>
      split
      · exact h.prepare hearly ht hload
      · exact h.finish_early hearly ht
  | loadCurrent config =>
    have hearly : t.stage.critical = false := by rw [hstage]; rfl
    rw [hstage] at hmeets
    obtain ⟨hothers, hlater⟩ := hmeets
    have halone : s.Alone t := by
      intro id o ho hne
      have hrest : (s.requests.without t.id).get id = some o := by
        rwa [Table.get_without_ne _ hne]
      exact hothers o (((s.requests.without t.id).get_eq_some_iff).mp hrest).1
    have hconfig : v.load t.versionId = some config := by
      unfold Loaded at hloaded
      rwa [hstage] at hloaded
    dsimp only
    split
    next => exact h.finish_early hearly ht
    next =>
      split
      next hcurrent =>
        refine h.goto halone (.activate config (t.activation a.current a.now)) rfl
          ⟨hconfig, rfl⟩ rfl h.nonempty fun hreverts => ?_
        have hagrees : s.Agrees v := by
          refine h.agrees hreverts fun id o ho => ?_
          by_cases hid : id = t.id
          · subst hid
            rw [ht] at ho
            cases ho
            exact hearly
          · exact halone id o ho hid
        exact ⟨hagrees, hagrees.loadsCurrent h.nonempty hcurrent, hlater⟩
      next => exact h
  | activate config activation =>
    have halone := h.alone ht (by rw [hstage]; rfl)
    have hholds : s.revertFailed = false → s.Holds v (.activate config activation) :=
      fun hreverts => hstage ▸ h.holds hreverts t.id t ht
    unfold Loaded at hloaded
    rw [hstage] at hloaded
    dsimp only
    split
    next =>
      refine h.goto halone (.apply config activation) rfl hloaded rfl
        (by simp [ConfigState.record, ConfigState.goto]) fun hreverts => ?_
      obtain ⟨-, hreturns, hlater⟩ := hholds hreverts
      refine ⟨hreturns, List.mem_append_right _ (List.mem_singleton_self activation),
        fun row hrow => ?_⟩
      rcases List.mem_append.mp hrow with hold | hnew
      · exact .inr (hlater row hold)
      · exact .inl (List.mem_singleton.mp hnew)
    next => exact h.finish halone rfl h.nonempty fun hreverts => (hholds hreverts).1
  | apply config activation =>
    have halone := h.alone ht (by rw [hstage]; rfl)
    have hholds : s.revertFailed = false → s.Holds v (.apply config activation) :=
      fun hreverts => hstage ▸ h.holds hreverts t.id t ht
    unfold Loaded at hloaded
    rw [hstage] at hloaded hmeets
    obtain ⟨hload, hversion⟩ := hloaded
    dsimp only
    split
    next =>
      refine h.finish halone rfl h.nonempty fun hreverts row hrow hlatest => ?_
      obtain ⟨-, hthere, hlast⟩ := hholds hreverts
      rcases hlast row hrow with rfl | hearlier
      · rw [hversion]
        exact hload
      · exact absurd hearlier (not_lt.mpr (hlatest activation hthere))
    next hfail =>
      split
      next hnone =>
        refine h.finish halone rfl h.nonempty fun hreverts => ?_
        obtain ⟨⟨previous, hprevious, -⟩, -⟩ := hholds hreverts
        rw [hnone] at hprevious
        cases hprevious
      next previous hprevious =>
        refine h.goto halone
          (.revert (VersionRequest.compensation activation previous a.now)) rfl trivial rfl
          h.nonempty fun hreverts => ?_
        obtain ⟨⟨previous', hprevious', hlive⟩, -⟩ := hholds hreverts
        rw [hprevious] at hprevious'
        cases hprevious'
        exact ⟨hlive, hmeets (by simpa using hfail)⟩
  | revert activation =>
    have halone := h.alone ht (by rw [hstage]; rfl)
    have hholds : s.revertFailed = false → s.Holds v (.revert activation) :=
      fun hreverts => hstage ▸ h.holds hreverts t.id t ht
    dsimp only
    split
    next =>
      refine h.finish halone rfl (by simp [ConfigState.record, ConfigState.finish])
        fun hreverts => ?_
      obtain ⟨hlive, hlater⟩ := hholds hreverts
      exact agrees_record hlater hlive
    next => exact h.finish halone rfl h.nonempty fun hreverts => nomatch hreverts

theorem Inv.step (h : s.Inv v) {event : ConfigEvent} (hexclusive : s.Exclusive event) :
    (s.step v event).Inv v := by
  cases event with
  | request id versionId kind =>
    simp only [ConfigState.step]
    split
    · exact h
    next requests hinsert =>
      have hget : ∀ {j o}, requests.get j = some o →
          o = ⟨id, versionId, kind, .loadVersion⟩ ∨ s.requests.get j = some o := by
        intro j o ho
        by_cases hid : j = id
        · subst hid
          rw [show requests.get j = _ from Table.get_insert hinsert] at ho
          exact .inl (Option.some.inj ho).symm
        · rw [Table.get_insert_ne hinsert hid] at ho
          exact .inr ho
      refine ⟨h.nonempty, fun j o ho => ?_, fun i j a b ha hb hca hcb => ?_,
        fun hreverts j o ho => ?_, fun hreverts hall => h.agrees hreverts fun j o ho => ?_⟩
      · rcases hget ho with rfl | ho
        · trivial
        · exact h.loaded j o ho
      · rcases hget ha with rfl | ha
        · cases hca
        · rcases hget hb with rfl | hb
          · cases hcb
          · exact h.sole i j a b ha hb hca hcb
      · rcases hget ho with rfl | ho
        · trivial
        · exact h.holds hreverts j o ho
      · refine hall j o ?_
        have hne : j ≠ id := by
          rintro rfl
          have hnone := Table.get_eq_none_of_insert hinsert
          rw [show s.requests.get j = none from hnone] at ho
          cases ho
        change requests.get j = some o
        rwa [Table.get_insert_ne hinsert hne]
  | advance id a =>
    simp only [ConfigState.step]
    split
    · exact h
    next t ht =>
      obtain rfl : t.id = id := (s.requests.get_eq_some_iff.mp ht).2
      exact h.advance ht hexclusive

end ConfigState

/-- A process after its start: there is an activation, and the live configuration is that of
the latest one. -/
structure BootedConfig {Config : Type} (v : VersionStore Config) where
  live : Config
  activations : List RuntimeConfigActivation
  nonempty : activations ≠ []
  current : ∀ row ∈ activations, row.IsLatest activations → v.load row.versionId = some live

namespace BootedConfig

variable {Config : Type} {v : VersionStore Config}

def start (b : BootedConfig v) : ConfigState Config where
  live := b.live
  activations := b.activations
  requests := .empty
  revertFailed := false

theorem inv_start (b : BootedConfig v) : b.start.Inv v where
  nonempty := b.nonempty
  loaded := fun _ _ h => nomatch h
  sole := fun _ _ _ _ h => nomatch h
  holds := fun _ _ _ h => nomatch h
  agrees := fun _ _ => b.current

/-- When each request reads the current version while no other is between its own reading
and its end, and the clock goes on, then the live configuration is that of the latest
activation whenever nothing is in progress and no compensation has failed. -/
theorem settled_of_exclusive (b : BootedConfig v) {events : List ConfigEvent}
    (h : Meets (fun s event => some (s.step v event)) ConfigState.Exclusive b.start events) :
    Along (ConfigState.step v) (ConfigState.Settled v) b.start events :=
  along_of_meets (ConfigState.Inv v) (fun _ => ConfigState.Inv.settled)
    (fun _ _ hinv hexclusive => hinv.step hexclusive) b.inv_start h

def numbered : VersionStore Nat where
  load id := [("v0", 0), ("v1", 1), ("v2", 2)].lookup id.text
  valid _ := true

def bootedZero : BootedConfig numbered where
  live := 0
  activations := [⟨⟨"v0"⟩, 0, .initial, none, none⟩]
  nonempty := by simp
  current := by
    rintro row hrow -
    rw [List.mem_singleton.mp hrow]
    rfl

/-- A request is answered as the list says: success, the version read as current, time. -/
def answers (id : Nat) (list : List (Bool × String × DateTime)) : List ConfigEvent :=
  list.map fun a => .advance id ⟨a.1, true, some ⟨a.2.1⟩, a.2.2⟩

/-- A promotion succeeds. The next one is refused by the live system and taken back. -/
theorem settled_of_exclusive_two_requests :
    let events : List ConfigEvent :=
      .request 0 ⟨"v1"⟩ .promote ::
        answers 0 [(true, "", 1), (true, "v0", 2), (true, "", 3), (true, "", 4)] ++
      .request 1 ⟨"v2"⟩ .promote ::
        answers 1 [(true, "", 5), (true, "v1", 6), (true, "", 7), (false, "", 8), (true, "", 9)]
    let last := events.foldl (ConfigState.step numbered) bootedZero.start
    (last.requests.rows = [] ∧ last.revertFailed = false ∧ last.live = 1 ∧
        last.activations.map (·.versionId.text) = ["v0", "v1", "v2", "v1"]) ∧
      Along (ConfigState.step numbered) (ConfigState.Settled numbered) bootedZero.start
        events := by
  intro events last
  refine ⟨by decide +kernel, settled_of_exclusive bootedZero ?_⟩
  decide +kernel

/-- Two promotions overlap, and all their calls succeed. The first one is applied last: the
live configuration is its, while the latest activation is the second one's. -/
theorem overlapping_promotions_diverge :
    let events : List ConfigEvent :=
      [.request 0 ⟨"v1"⟩ .promote, .request 1 ⟨"v2"⟩ .promote] ++
        answers 0 [(true, "", 1), (true, "v0", 2), (true, "", 3)] ++
        answers 1 [(true, "", 4), (true, "v1", 5), (true, "", 6), (true, "", 7)] ++
        answers 0 [(true, "", 8)]
    let last := events.foldl (ConfigState.step numbered) bootedZero.start
    (last.requests.rows = [] ∧ last.revertFailed = false ∧ last.live = 1 ∧
        LoadsCurrent last.activations (some ⟨"v2"⟩) ∧ numbered.load ⟨"v2"⟩ = some 2) ∧
      ¬ last.Settled numbered := by
  intro events last
  have hlast : last.requests.rows = [] ∧ last.revertFailed = false ∧ last.live = 1 ∧
      LoadsCurrent last.activations (some ⟨"v2"⟩) ∧ numbered.load ⟨"v2"⟩ = some 2 := by
    decide +kernel
  refine ⟨hlast, fun hsettled => ?_⟩
  obtain ⟨hquiet, hreverts, hlive, ⟨row, hrow, hversion, hlatest⟩, hload⟩ := hlast
  have hagrees := hsettled hquiet hreverts row hrow hlatest
  rw [hversion, hload, hlive] at hagrees
  cases hagrees

end BootedConfig

end OxideArb.Web
