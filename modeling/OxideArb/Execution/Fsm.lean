import OxideArb.Lib.Transition

/-!
# The execution kill switch

`ExecutionFSM` keeps an emergency flag, the class of the fault and its reason in separate cells,
and the model interleaves the loads and stores of any number of threads. The class cell
remembers the last writer only; without an overwrite of a strong class (`Undisturbed`) the
switch holds until an acknowledgement.
-/

namespace OxideArb

open Transition

inductive EmergencyClass
  | venueFault
  | reservationFault
  | persistenceFault
deriving DecidableEq, Repr

namespace EmergencyClass

def allowsAutoRecover : EmergencyClass → Bool
  | .venueFault => true
  | _ => false

def requiresOperatorAck (c : EmergencyClass) : Bool := !c.allowsAutoRecover

end EmergencyClass

namespace Fsm

/-- Calls on the kill switch. `heartbeatFailure` is the failing branch of the
heartbeat loop, which may enter an emergency itself. -/
inductive Call
  | enterEmergency (cls : EmergencyClass) (reason : String)
  | enterPlannedHalt (reason : String)
  | tryAutoRecover
  | ackOperatorEmergency
  | resumeTrading
  | heartbeatFailure
deriving DecidableEq, Repr

inductive Clearer
  | recovery
  | operator
deriving DecidableEq, Repr

inductive Pc
  | idle
  | storeFlag (cls : EmergencyClass) (reason : String)
  | storeClass (cls : EmergencyClass) (reason : String)
  | storeReason (reason : String)
  | recoverLoadFlag
  | recoverLoadClass
  | recoverLoadBlocking
  | recoverAskRisk
  | ackLoadFlag
  | ackLoadClass
  | ackRefresh
  | ackLoadBlocking
  | ackAskRisk
  | resumeAcknowledge
  | resumeRefresh
  | resumeLoadBlocking
  | resumeAskRisk
  | resumeLoadClass
  | beatAskRisk
  | beatLoadFlag
  | clearFlag (who : Clearer)
  | clearClass (who : Clearer)
  | clearReason
deriving DecidableEq, Repr

/-- The three cells, the threads, and the record of an unacknowledged strong
fault, which the code does not keep. -/
structure State where
  emergency : Bool
  cls : EmergencyClass
  lastEmergencyReason : Option String
  threads : List Pc
  unacked : Bool
deriving DecidableEq, Repr

def State.new (n : Nat) : State :=
  { emergency := false, cls := .venueFault, lastEmergencyReason := none
    threads := List.replicate n .idle, unacked := false }

structure Answers where
  blockingCount : Nat
  allowsTrading : Bool
  succeeds : Bool
deriving DecidableEq, Repr

inductive Label
  | call (tid : Nat) (c : Call)
  | step (tid : Nat) (answers : Answers)
deriving DecidableEq, Repr

def Call.entry : Call → Pc
  | .enterEmergency cls reason => .storeFlag cls reason
  | .enterPlannedHalt reason => .storeFlag .venueFault reason
  | .tryAutoRecover => .recoverLoadFlag
  | .ackOperatorEmergency => .ackLoadFlag
  | .resumeTrading => .resumeAcknowledge
  | .heartbeatFailure => .beatAskRisk

def beatReason : String := "risk circuit breaker blocking trades"

def State.goto (s : State) (tid : Nat) (pc : Pc) : State :=
  { s with threads := s.threads.set tid pc }

/-- One atomic step of a thread at `pc`. -/
def stepAt (s : State) (tid : Nat) (a : Answers) : Pc → Option State
  | .idle => none
  | .storeFlag cls reason => some ({ s with emergency := true }.goto tid (.storeClass cls reason))
  | .storeClass cls reason =>
    some ({ s with cls, unacked := s.unacked || cls.requiresOperatorAck }.goto tid
      (.storeReason reason))
  | .storeReason reason => some ({ s with lastEmergencyReason := some reason }.goto tid .idle)
  -- try_auto_recover
  | .recoverLoadFlag => some (s.goto tid (if s.emergency then .recoverLoadClass else .idle))
  | .recoverLoadClass =>
    some (s.goto tid (if s.cls.allowsAutoRecover then .recoverLoadBlocking else .idle))
  | .recoverLoadBlocking =>
    some (s.goto tid (if 0 < a.blockingCount then .idle else .recoverAskRisk))
  | .recoverAskRisk => some (s.goto tid (if a.allowsTrading then .clearFlag .recovery else .idle))
  -- ack_operator_emergency
  | .ackLoadFlag => some (s.goto tid (if s.emergency then .ackLoadClass else .idle))
  | .ackLoadClass => some (s.goto tid (if s.cls.allowsAutoRecover then .idle else .ackRefresh))
  | .ackRefresh => some (s.goto tid (if a.succeeds then .ackLoadBlocking else .idle))
  | .ackLoadBlocking => some (s.goto tid (if 0 < a.blockingCount then .idle else .ackAskRisk))
  | .ackAskRisk => some (s.goto tid (if a.allowsTrading then .clearFlag .operator else .idle))
  -- resume_trading; the class is not read when the risk engine still blocks
  | .resumeAcknowledge => some (s.goto tid (if a.succeeds then .resumeRefresh else .idle))
  | .resumeRefresh => some (s.goto tid (if a.succeeds then .resumeLoadBlocking else .idle))
  | .resumeLoadBlocking =>
    some (s.goto tid (if 0 < a.blockingCount then .idle else .resumeAskRisk))
  | .resumeAskRisk => some (s.goto tid (if a.allowsTrading then .resumeLoadClass else .idle))
  | .resumeLoadClass =>
    some (s.goto tid (if s.cls.allowsAutoRecover then .clearFlag .recovery else .idle))
  -- failing heartbeat
  | .beatAskRisk => some (s.goto tid (if a.allowsTrading then .idle else .beatLoadFlag))
  | .beatLoadFlag =>
    some (s.goto tid (if s.emergency then .idle
      else .storeFlag .venueFault beatReason))
  -- clear_emergency
  | .clearFlag who =>
    some ({ s with emergency := false, unacked := s.unacked && who == Clearer.recovery }.goto tid
      (.clearClass who))
  | .clearClass _ => some ({ s with cls := .venueFault }.goto tid .clearReason)
  | .clearReason => some ({ s with lastEmergencyReason := none }.goto tid .idle)

def next (s : State) : Label → Option State
  | .call tid c => if s.threads[tid]? = some .idle then some (s.goto tid c.entry) else none
  | .step tid a => s.threads[tid]?.bind (stepAt s tid a)

/-! ## What disturbs a strong fault -/

inductive Intent
  | none
  | strong
  | weak
  | recover
  | ack
  | acked
deriving DecidableEq, Repr

/-- Between its first check of the class and its last store, a call intends to enter
a strong or a weak fault, or to clear; `acked` is an acknowledgement that has
cleared the flag already. -/
def Pc.intent : Pc → Intent
  | .storeFlag cls _ => if cls.requiresOperatorAck then .strong else .weak
  | .storeClass cls _ => if cls.requiresOperatorAck then .strong else .weak
  | .recoverLoadBlocking => .recover
  | .recoverAskRisk => .recover
  | .clearFlag .recovery => .recover
  | .clearClass .recovery => .recover
  | .ackRefresh => .ack
  | .ackLoadBlocking => .ack
  | .ackAskRisk => .ack
  | .clearFlag .operator => .ack
  | .clearClass .operator => .acked
  | _ => .none

def State.free (s : State) (i : Intent) : Prop := ∀ pc ∈ s.threads, pc.intent ≠ i

instance (s : State) (i : Intent) : Decidable (s.free i) := by
  unfold State.free
  infer_instance

/-- What a thread that comes to `pc` must find: a strong fault is entered while no
thread is entering a weak one or clearing; a weak fault is entered while no strong
one is being entered or unacked; and a call passes its class check while no strong
fault is being entered. -/
def Undisturbed (s : State) (pc : Pc) : Prop :=
  match pc.intent with
  | .none => True
  | .strong => s.free .weak ∧ s.free .recover ∧ s.free .ack ∧ s.free .acked
  | .weak => s.unacked = false ∧ s.free .strong
  | .recover => s.free .strong
  | .ack => s.free .strong
  | .acked => True

def arrival (s : State) : Label → Option Pc
  | .call _ c => some c.entry
  | .step tid _ =>
    match s.threads[tid]? with
    | some .recoverLoadClass => if s.cls.allowsAutoRecover then some .recoverLoadBlocking else none
    | some .ackLoadClass => if s.cls.allowsAutoRecover then none else some .ackRefresh
    | some .resumeLoadClass => if s.cls.allowsAutoRecover then some (.clearFlag .recovery) else none
    | some .beatLoadFlag => if s.emergency then none else some (.storeFlag .venueFault beatReason)
    | _ => none

def stepUndisturbed (s : State) (l : Label) : Prop :=
  match arrival s l with
  | some pc => Undisturbed s pc
  | none => True

instance (s : State) (pc : Pc) : Decidable (Undisturbed s pc) := by
  unfold Undisturbed
  cases pc.intent <;> infer_instance

instance (s : State) (l : Label) : Decidable (stepUndisturbed s l) := by
  unfold stepUndisturbed
  cases arrival s l <;> infer_instance

/-! ## The switch holds -/

/-- Threads that enter a strong fault are alone with each other; while a strong
fault is unacked the flag and the class stand, and only acknowledgements are on
their way to clear them; a strong fault about to store its class has set the flag. -/
structure Held (s : State) : Prop where
  apart : ∀ pc ∈ s.threads, pc.intent = .strong →
    s.free .weak ∧ s.free .recover ∧ s.free .ack ∧ s.free .acked
  held : s.unacked = true → s.emergency = true ∧ s.cls.requiresOperatorAck = true ∧
    s.free .weak ∧ s.free .recover ∧ s.free .acked
  flagged : ∀ cls reason, .storeClass cls reason ∈ s.threads → cls.requiresOperatorAck = true →
    s.emergency = true

theorem Held.new (n : Nat) : Held (State.new n) := by
  have hidle : ∀ pc ∈ (State.new n).threads, pc = .idle := fun pc h => List.eq_of_mem_replicate h
  refine ⟨?_, ?_, ?_⟩
  · intro pc h hs
    rw [hidle pc h] at hs
    cases hs
  · intro h
    cases h
  · intro cls reason h
    have := hidle _ h
    cases this

variable {s : State} {tid : Nat} {pc : Pc} {cls : EmergencyClass}

theorem free_goto {i : Intent} (h : s.free i) (hpc : pc.intent ≠ i) : (s.goto tid pc).free i := by
  intro p hp
  rcases List.mem_or_eq_of_mem_set hp with hp | rfl
  · exact h p hp
  · exact hpc

theorem Held.goto (h : Held s) (tid : Nat)
    (hstrong : pc.intent = .strong → s.free .weak ∧ s.free .recover ∧ s.free .ack ∧ s.free .acked)
    (hother : pc.intent ≠ .strong → pc.intent ≠ .none → s.free .strong)
    (hunacked : s.unacked = true → pc.intent ≠ .weak ∧ pc.intent ≠ .recover ∧ pc.intent ≠ .acked)
    (hflag : ∀ cls reason, pc = .storeClass cls reason → cls.requiresOperatorAck = true →
      s.emergency = true) : Held (s.goto tid pc) := by
  refine ⟨?_, ?_, ?_⟩
  · intro p hp hs
    rcases List.mem_or_eq_of_mem_set hp with hp | rfl
    · -- another thread enters a strong fault: the new point has no intent or the same one
      have hpc : pc.intent = .strong ∨ pc.intent = .none := by
        by_contra hne
        rw [not_or] at hne
        exact hother hne.1 hne.2 p hp hs
      obtain ⟨h1, h2, h3, h4⟩ := h.apart p hp hs
      rcases hpc with hpc | hpc
      · exact ⟨free_goto h1 (by simp [hpc]), free_goto h2 (by simp [hpc]),
          free_goto h3 (by simp [hpc]), free_goto h4 (by simp [hpc])⟩
      · exact ⟨free_goto h1 (by simp [hpc]), free_goto h2 (by simp [hpc]),
          free_goto h3 (by simp [hpc]), free_goto h4 (by simp [hpc])⟩
    · obtain ⟨h1, h2, h3, h4⟩ := hstrong hs
      exact ⟨free_goto h1 (by simp [hs]), free_goto h2 (by simp [hs]),
        free_goto h3 (by simp [hs]), free_goto h4 (by simp [hs])⟩
  · intro hu
    obtain ⟨he, hc, h1, h2, h3⟩ := h.held hu
    obtain ⟨g1, g2, g3⟩ := hunacked hu
    exact ⟨he, hc, free_goto h1 g1, free_goto h2 g2, free_goto h3 g3⟩
  · intro cls reason hp hc
    rcases List.mem_or_eq_of_mem_set hp with hp | hp
    · exact h.flagged cls reason hp hc
    · exact hflag cls reason hp.symm hc

theorem Held.leave (h : Held s) (tid : Nat) (hpc : pc.intent = .none) : Held (s.goto tid pc) := by
  refine h.goto tid (by simp [hpc]) (by simp [hpc]) (by simp [hpc]) ?_
  rintro cls reason rfl hc
  simp [Pc.intent, hc] at hpc

theorem Held.free_strong (h : Held s) (hm : pc ∈ s.threads) (h0 : pc.intent ≠ .none)
    (h1 : pc.intent ≠ .strong) : s.free .strong := by
  intro p hp hs
  obtain ⟨g1, g2, g3, g4⟩ := h.apart p hp hs
  cases hi : pc.intent with
  | none => exact h0 hi
  | strong => exact h1 hi
  | weak => exact g1 pc hm hi
  | recover => exact g2 pc hm hi
  | ack => exact g3 pc hm hi
  | acked => exact g4 pc hm hi

theorem Held.not_unacked (h : Held s) (hm : pc ∈ s.threads)
    (hi : pc.intent = .weak ∨ pc.intent = .recover ∨ pc.intent = .acked) : s.unacked = false := by
  rw [← Bool.not_eq_true]
  intro hu
  obtain ⟨-, -, g1, g2, g3⟩ := h.held hu
  rcases hi with hi | hi | hi
  · exact g1 pc hm hi
  · exact g2 pc hm hi
  · exact g3 pc hm hi

theorem Held.follow {pc' : Pc} (h : Held s) (tid : Nat) (hm : pc ∈ s.threads)
    (hi : pc'.intent = pc.intent)
    (hflag : ∀ cls reason, pc' = .storeClass cls reason → cls.requiresOperatorAck = true →
      s.emergency = true) : Held (s.goto tid pc') := by
  refine h.goto tid ?_ ?_ ?_ hflag
  · intro hs
    exact h.apart pc hm (hi ▸ hs)
  · intro h1 h0
    exact h.free_strong hm (hi ▸ h0) (hi ▸ h1)
  · intro hu
    rw [hi]
    obtain ⟨-, -, g1, g2, g3⟩ := h.held hu
    exact ⟨g1 pc hm, g2 pc hm, g3 pc hm⟩

theorem Held.arrive (h : Held s) (tid : Nat) (hok : Undisturbed s pc) (hacked : pc.intent ≠ .acked)
    (hrec : pc.intent = .recover → s.unacked = false)
    (hclass : ∀ cls reason, pc ≠ .storeClass cls reason) : Held (s.goto tid pc) := by
  unfold Undisturbed at hok
  refine h.goto tid ?_ ?_ ?_ (fun cls reason he => absurd he (hclass cls reason))
  · intro hs
    rw [hs] at hok
    exact hok
  · intro h1 h0
    cases hi : pc.intent with
    | none => exact absurd hi h0
    | strong => exact absurd hi h1
    | weak => rw [hi] at hok; exact hok.2
    | recover => rw [hi] at hok; exact hok
    | ack => rw [hi] at hok; exact hok
    | acked => exact absurd hi hacked
  · intro hu
    refine ⟨?_, ?_, hacked⟩
    · intro hi
      rw [hi] at hok
      rw [hok.1] at hu
      cases hu
    · intro hi
      rw [hrec hi] at hu
      cases hu

theorem Held.unacked_of_auto (h : Held s) (hc : s.cls.allowsAutoRecover = true) :
    s.unacked = false := by
  rw [← Bool.not_eq_true]
  intro hu
  have := (h.held hu).2.1
  simp [EmergencyClass.requiresOperatorAck, hc] at this

theorem Held.storeFlag (h : Held s) {reason : String} (hm : Pc.storeFlag cls reason ∈ s.threads) :
    Held ({ s with emergency := true }.goto tid (.storeClass cls reason)) := by
  have hflag : Held { s with emergency := true } :=
    ⟨h.apart, fun hu => ⟨rfl, (h.held hu).2⟩, fun _ _ _ _ => rfl⟩
  exact hflag.follow tid hm rfl (fun _ _ _ _ => rfl)

theorem Held.storeClass (h : Held s) {reason : String} (hm : Pc.storeClass cls reason ∈ s.threads) :
    Held ({ s with cls, unacked := s.unacked || cls.requiresOperatorAck }.goto tid
      (.storeReason reason)) := by
  refine Held.leave ?_ tid rfl
  cases hc : cls.requiresOperatorAck with
  | true =>
    -- a strong class: the flag is up, and nobody else is between check and store
    obtain ⟨g1, g2, g3, g4⟩ := h.apart _ hm (by simp [Pc.intent, hc])
    exact ⟨h.apart, fun _ => ⟨h.flagged cls reason hm hc, hc, g1, g2, g4⟩, h.flagged⟩
  | false =>
    have hu : s.unacked = false := h.not_unacked hm (Or.inl (by simp [Pc.intent, hc]))
    refine ⟨h.apart, ?_, h.flagged⟩
    intro hu'
    simp [hu] at hu'

theorem Held.clearFlag (h : Held s) {who : Clearer} (hm : Pc.clearFlag who ∈ s.threads) :
    Held ({ s with emergency := false, unacked := s.unacked && who == Clearer.recovery }.goto tid
      (.clearClass who)) := by
  have hfree : s.free .strong := by
    cases who <;> exact h.free_strong hm (by simp [Pc.intent]) (by simp [Pc.intent])
  have hunacked : (s.unacked && who == Clearer.recovery) = false := by
    cases who with
    | recovery => rw [h.not_unacked hm (Or.inr (Or.inl rfl))]; rfl
    | operator => cases s.unacked <;> rfl
  have hdown : Held { s with
      emergency := false, unacked := s.unacked && who == Clearer.recovery } := by
    refine ⟨h.apart, ?_, ?_⟩
    · intro hu
      simp only [hunacked, Bool.false_eq_true] at hu
    · intro cls reason hp hc
      exact absurd (show (Pc.storeClass cls reason).intent = .strong by simp [Pc.intent, hc])
        (hfree _ hp)
  refine hdown.goto tid ?_ (fun _ _ => hfree) ?_ (by simp)
  · intro hs
    cases who <;> cases hs
  · intro hu
    simp only [hunacked, Bool.false_eq_true] at hu

theorem Held.clearClass (h : Held s) {who : Clearer} (hm : Pc.clearClass who ∈ s.threads) :
    Held ({ s with cls := .venueFault }.goto tid .clearReason) := by
  have hu : s.unacked = false := by
    cases who with
    | recovery => exact h.not_unacked hm (Or.inr (Or.inl rfl))
    | operator => exact h.not_unacked hm (Or.inr (Or.inr rfl))
  refine Held.leave ?_ tid rfl
  refine ⟨h.apart, ?_, h.flagged⟩
  intro hu'
  rw [show s.unacked = true from hu'] at hu
  cases hu

/-- **Every undisturbed step keeps the switch held.** -/
theorem Held.next (s : State) (l : Label) (t : State) (h : Held s) (hok : stepUndisturbed s l)
    (ht : next s l = some t) : Held t := by
  cases l with
  | call tid c =>
    simp only [Fsm.next] at ht
    split at ht
    · cases ht
      refine h.arrive tid hok ?_ ?_ ?_
      · cases c <;> simp only [Call.entry, Pc.intent] <;> (try split) <;> simp
      · cases c <;> simp only [Call.entry, Pc.intent] <;> (try split) <;> simp
      · cases c <;> simp [Call.entry]
    · cases ht
  | step tid a =>
    simp only [Fsm.next, Option.bind_eq_some_iff] at ht
    obtain ⟨pc, hpc, ht⟩ := ht
    have hm : pc ∈ s.threads := List.mem_of_getElem? hpc
    simp only [stepUndisturbed, arrival, hpc] at hok
    cases pc with
    | idle => cases ht
    | storeFlag cls reason => cases ht; exact h.storeFlag hm
    | storeClass cls reason => cases ht; exact h.storeClass hm
    | storeReason reason =>
      cases ht
      refine Held.leave ?_ tid rfl
      exact ⟨h.apart, h.held, h.flagged⟩
    | recoverLoadFlag => cases ht; split <;> exact h.leave tid rfl
    | recoverLoadClass =>
      cases ht
      split
      · rename_i hc
        simp only [hc, if_true] at hok
        exact h.arrive tid hok (by simp [Pc.intent]) (fun _ => h.unacked_of_auto hc) (by simp)
      · exact h.leave tid rfl
    | recoverLoadBlocking =>
      cases ht
      split
      · exact h.leave tid rfl
      · exact h.follow tid hm rfl (by simp)
    | recoverAskRisk =>
      cases ht
      split
      · exact h.follow tid hm rfl (by simp)
      · exact h.leave tid rfl
    | ackLoadFlag => cases ht; split <;> exact h.leave tid rfl
    | ackLoadClass =>
      cases ht
      split
      · exact h.leave tid rfl
      · rename_i hc
        simp only [hc, Bool.false_eq_true, if_false] at hok
        exact h.arrive tid hok (by simp [Pc.intent]) (by simp [Pc.intent]) (by simp)
    | ackRefresh =>
      cases ht
      split
      · exact h.follow tid hm rfl (by simp)
      · exact h.leave tid rfl
    | ackLoadBlocking =>
      cases ht
      split
      · exact h.leave tid rfl
      · exact h.follow tid hm rfl (by simp)
    | ackAskRisk =>
      cases ht
      split
      · exact h.follow tid hm rfl (by simp)
      · exact h.leave tid rfl
    | resumeAcknowledge => cases ht; split <;> exact h.leave tid rfl
    | resumeRefresh => cases ht; split <;> exact h.leave tid rfl
    | resumeLoadBlocking => cases ht; split <;> exact h.leave tid rfl
    | resumeAskRisk => cases ht; split <;> exact h.leave tid rfl
    | resumeLoadClass =>
      cases ht
      split
      · rename_i hc
        simp only [hc, if_true] at hok
        exact h.arrive tid hok (by simp [Pc.intent]) (fun _ => h.unacked_of_auto hc) (by simp)
      · exact h.leave tid rfl
    | beatAskRisk => cases ht; split <;> exact h.leave tid rfl
    | beatLoadFlag =>
      cases ht
      split
      · exact h.leave tid rfl
      · rename_i he
        simp only [he, Bool.false_eq_true, if_false] at hok
        exact h.arrive tid hok (by simp [Pc.intent, EmergencyClass.requiresOperatorAck,
          EmergencyClass.allowsAutoRecover]) (by simp [Pc.intent,
          EmergencyClass.requiresOperatorAck, EmergencyClass.allowsAutoRecover]) (by simp)
    | clearFlag who => cases ht; exact h.clearFlag hm
    | clearClass who => cases ht; exact h.clearClass hm
    | clearReason =>
      cases ht
      refine Held.leave ?_ tid rfl
      exact ⟨h.apart, h.held, h.flagged⟩

/-- **A strong fault holds the switch until it is acknowledged**, in every
interleaving whose steps are undisturbed. -/
theorem unacked_emergency (n : Nat) (labels : List Label) (s : State)
    (hrun : exec next (State.new n) labels = some s)
    (hok : Meets next stepUndisturbed (State.new n) labels) (hu : s.unacked = true) :
    s.emergency = true := by
  have h : Held s := exec_invariant Held Held.next (Held.new n) hok hrun
  exact (h.held hu).1

/-- A call run to its end without interruption, with every answer favourable. -/
def whole (tid : Nat) (c : Call) (steps : Nat) : List Label :=
  .call tid c :: List.replicate steps
    (.step tid { blockingCount := 0, allowsTrading := true, succeeds := true })

/-- A persistence fault, a heartbeat that fails to recover it, and a resume. -/
def strongFaultRun : List Label :=
  whole 0 (.enterEmergency .persistenceFault "x") 3 ++ whole 1 .tryAutoRecover 2 ++
    whole 2 .resumeTrading 5

/-- The same with a planned halt before the heartbeat. -/
def plannedHaltRun : List Label :=
  whole 0 (.enterEmergency .persistenceFault "x") 3 ++ whole 0 (.enterPlannedHalt "mode switch") 3 ++
    whole 1 .tryAutoRecover 7

/-- The fault survives the heartbeat and the resume. -/
theorem unacked_emergency_strongFault :
    ∃ s, exec next (State.new 3) strongFaultRun = some s ∧ s.unacked = true ∧
      s.threads = [.idle, .idle, .idle] ∧ s.emergency = true := by
  obtain ⟨s, hs⟩ : ∃ s, exec next (State.new 3) strongFaultRun = some s :=
    Option.isSome_iff_exists.mp (by decide)
  have h : ∀ u ∈ exec next (State.new 3) strongFaultRun,
      u.unacked = true ∧ u.threads = [.idle, .idle, .idle] := by
    decide
  obtain ⟨hu, hidle⟩ := h s hs
  exact ⟨s, hs, hu, hidle, unacked_emergency 3 strongFaultRun s hs (by decide) hu⟩

/-- A planned halt hides the persistence fault, and the heartbeat clears it. -/
theorem plannedHalt_clears_fault :
    exec next (State.new 2) plannedHaltRun = some
      { emergency := false, cls := .venueFault, lastEmergencyReason := none
        threads := [.idle, .idle], unacked := true } := by
  decide

end Fsm

end OxideArb
