import OxideArb.Risk.Probes

/-!
# Versions of the published snapshot

A halt and a tick publish under the version in force, and a rollback restores the version from
before its fill; every other operation publishes what it has changed with a new version.
-/

namespace OxideArb.Risk

/-- What the hot path reads. -/
def Engine.content (e : Engine) : RiskSnapshot × (BlacklistKey → Option BlacklistInfo) :=
  (e.riskSnapshot, e.publishedBlacklist)

/-- A later engine has published nothing new since the earlier one, or has a larger version. -/
def Engine.Fresh (e e' : Engine) : Prop :=
  e.stateVersion < e'.stateVersion ∨ e'.content = e.content ∧ e.stateVersion ≤ e'.stateVersion

namespace Engine.Fresh

variable {e e' e'' : Engine}

theorem refl (e : Engine) : e.Fresh e := .inr ⟨rfl, le_rfl⟩

theorem trans (h : e.Fresh e') (h' : e'.Fresh e'') : e.Fresh e'' := by
  rcases h with h | ⟨hcontent, h⟩
  · rcases h' with h' | ⟨-, h'⟩
    · exact .inl (h.trans h')
    · exact .inl (h.trans_le h')
  · rcases h' with h' | ⟨hcontent', h'⟩
    · exact .inl (h.trans_lt h')
    · exact .inr ⟨hcontent'.trans hcontent, h.trans h'⟩

theorem lt_of_content_ne (h : e.Fresh e') (hne : e'.content ≠ e.content) :
    e.stateVersion < e'.stateVersion :=
  h.resolve_right fun hsame => hne hsame.1

theorem iff_of_version_eq (h : e'.stateVersion = e.stateVersion) :
    e.Fresh e' ↔ e'.content = e.content := by
  simp [Engine.Fresh, h]

end Engine.Fresh

theorem Engine.onExecutionEvent_fresh (e : Engine) (now : DateTime) (event : ExecutionRiskEvent) :
    e.Fresh (e.onExecutionEvent now event) := by
  cases event with
  | heartbeatFailure =>
    unfold Engine.onExecutionEvent
    dsimp only
    split
    · exact .inl (Nat.lt_succ_self _)
    · exact .refl e
  | fokFailure marketId tokenId consecutive =>
    unfold Engine.onExecutionEvent
    dsimp only
    split
    · exact .inl (Nat.lt_succ_self _)
    · exact .refl e
  | _ => exact .refl e

theorem Mutation.apply_version (mutation : Mutation) (w : World) :
    (mutation.apply w).engine.stateVersion = w.engine.stateVersion := by
  cases mutation <;> rfl

/-- The step publishes nothing new without a larger version. -/
def World.Versioned (w : World) (step : EngineStep) : Prop :=
  match step.2 with
  | .failClosed _ | .halt _ | .haltStale .. | .publish _ =>
    (w.take step).engine.content = w.engine.content
  | .rollback image _ =>
    w.engine.stateVersion < image.stateVersion ∨
      (w.take step).engine.content = w.engine.content ∧
        w.engine.stateVersion ≤ image.stateVersion
  | _ => True

theorem World.take_fresh_iff (w : World) (step : EngineStep) :
    w.engine.Fresh (w.take step).engine ↔ w.Versioned step := by
  obtain ⟨a, effect⟩ := step
  have hsame : ∀ {e : Engine}, e.content = w.engine.content →
      e.stateVersion = w.engine.stateVersion → (w.engine.Fresh e ↔ True) :=
    fun hcontent hversion => iff_true_intro (.inr ⟨hcontent, hversion.ge⟩)
  cases effect with
  | failClosed reason => exact Engine.Fresh.iff_of_version_eq rfl
  | halt reason => exact Engine.Fresh.iff_of_version_eq rfl
  | haltStale count secs => exact Engine.Fresh.iff_of_version_eq rfl
  | publish readings => exact Engine.Fresh.iff_of_version_eq rfl
  | rollback image reason => exact Iff.rfl
  | acknowledge => exact iff_true_intro (.inl (Nat.lt_succ_self _))
  | reload config => exact iff_true_intro (.inl (Nat.lt_succ_self _))
  | bump mutation readings =>
    refine iff_true_intro (.inl ?_)
    change w.engine.stateVersion < (mutation.apply (w.advance a)).engine.stateVersion + 1
    rw [mutation.apply_version]
    exact Nat.lt_succ_self _
  | execution event => exact iff_true_intro (w.engine.onExecutionEvent_fresh _ event)
  | commit trade p =>
    have hengine : (w.take (a, .commit trade p)).engine = w.engine :=
      (w.advance a).commitFill_engine trade p
    exact hsame (by rw [hengine]) (by rw [hengine])
  | resolve id =>
    have hengine : (w.take (a, .resolve id)).engine = w.engine :=
      (w.advance a).resolvePotentialLoss_engine id
    exact hsame (by rw [hengine]) (by rw [hengine])
  | updateDebounced readings =>
    have hengine : (w.take (a, .updateDebounced readings)).engine = w.engine :=
      (w.advance a).updateDebounced_engine readings
    exact hsame (by rw [hengine]) (by rw [hengine])
  | idle => exact hsame rfl rfl
  | recordEmergency reason => exact hsame rfl rfl
  | tick => exact hsame rfl rfl
  | setBlacklist change => exact hsame rfl rfl
  | write p => exact hsame rfl rfl
  | discard ticket => exact hsame rfl rfl
  | takeDebounced => exact hsame rfl rfl

theorem World.run_fresh {w : World} {steps : List EngineStep}
    (h : Transition.Meets (fun w s => some (World.take w s)) World.Versioned w steps) :
    w.engine.Fresh (w.run steps).engine :=
  Transition.foldl_invariant (fun v : World => w.engine.Fresh v.engine)
    (fun v step hv hstep => hv.trans ((v.take_fresh_iff step).mpr hstep)) (.refl _) h

theorem World.runs_fresh_iff (w : World) (steps : List EngineStep) :
    (∀ before after rest, steps = before ++ after ++ rest →
        (w.run before).engine.Fresh (w.run (before ++ after)).engine) ↔
      Transition.Meets (fun w s => some (World.take w s)) World.Versioned w steps := by
  constructor
  · intro h
    induction steps generalizing w with
    | nil => trivial
    | cons step steps ih =>
      refine ⟨(w.take_fresh_iff step).mp (h [] [step] steps rfl), ih (w.take step) ?_⟩
      rintro before after rest rfl
      exact h (step :: before) after rest rfl
  · rintro h before after rest rfl
    have hafter := (Transition.meets_append.mp (Transition.meets_append.mp h).1).2
    have hrun : w.run (before ++ after) = (w.run before).run after := List.foldl_append
    rw [hrun]
    exact World.run_fresh hafter

end OxideArb.Risk
