import Mathlib.Data.List.Perm.Basic
import OxideArb.Types.Basic

/-!
# The voting oracle

A verdict is the tally of what the sources answer. It depends on nothing but the number of votes
for either side, and asks for the votes of the yes side first.
-/

namespace OxideArb

namespace Oracle

/-! ## Votes and verdicts -/

structure SourceVote where
  sourceId : String
  actualYes : Bool
  confidence : Decimal
  reportedAt : DateTime
deriving DecidableEq

inductive ResolutionVerdict
  | resolved (actualYes : Bool) (votes : List SourceVote)
  | disputed (votes : List SourceVote)
  | unresolved (reason : String)
deriving DecidableEq

inductive AllSourcesDownStrategy
  | conservativeReject
  | manualAck
deriving DecidableEq, Repr

structure OracleState where
  quorum : Nat
  allSourcesDown : AllSourcesDownStrategy
deriving DecidableEq, Repr

/-- What `validate` accepts as `voting_quorum`. -/
def ValidVotingQuorum (votingQuorum : Nat) : Prop := ¬ (votingQuorum = 0 ∨ 3 < votingQuorum)

instance (votingQuorum : Nat) : Decidable (ValidVotingQuorum votingQuorum) :=
  inferInstanceAs (Decidable (¬ _))

def tallyVotes (votes : List SourceVote) (quorum : Nat) : ResolutionVerdict :=
  let yesVotes := (votes.filter SourceVote.actualYes).length
  let noVotes := votes.length - yesVotes
  if quorum ≤ yesVotes then .resolved true votes
  else if quorum ≤ noVotes then .resolved false votes
  else if quorum ≤ votes.length then .disputed votes
  else .unresolved s!"Insufficient agreeing votes: yes={yesVotes}, no={noVotes}, need {quorum}"

def verdictAllSourcesDown (state : OracleState) (sourceErrors : Nat) : ResolutionVerdict :=
  .unresolved <|
    match state.allSourcesDown with
    | .conservativeReject =>
      s!"conservative_reject: no oracle votes ({sourceErrors} source errors)"
    | .manualAck => s!"manual_ack_required: no oracle votes ({sourceErrors} source errors)"

/-- A source's answer to `query_resolution`. -/
abbrev Answer := Except String (Option SourceVote)

def Answer.vote : Answer → Option SourceVote
  | .ok vote => vote
  | .error _ => none

def Answer.failed : Answer → Bool
  | .ok _ => false
  | .error _ => true

def resolve (state : OracleState) (answers : List Answer) : ResolutionVerdict :=
  let votes := answers.filterMap Answer.vote
  let sourceErrors := (answers.filter Answer.failed).length
  match tallyVotes votes state.quorum with
  | .unresolved reason =>
    if votes.isEmpty then verdictAllSourcesDown state sourceErrors else .unresolved reason
  | verdict => verdict

/-! ## Decisions -/

/-- A verdict without the votes and the reason it carries. -/
inductive Decision
  | resolved (actualYes : Bool)
  | disputed
  | unresolved
deriving DecidableEq, Repr

def ResolutionVerdict.decision : ResolutionVerdict → Decision
  | .resolved actualYes _ => .resolved actualYes
  | .disputed _ => .disputed
  | .unresolved _ => .unresolved

def Decision.negate : Decision → Decision
  | .resolved actualYes => .resolved !actualYes
  | .disputed => .disputed
  | .unresolved => .unresolved

def SourceVote.negate (vote : SourceVote) : SourceVote := { vote with actualYes := !vote.actualYes }

def Answer.negate (answer : Answer) : Answer := answer.map (Option.map SourceVote.negate)

/-- The votes among the answers that say `x`. -/
def votesFor (x : Bool) (answers : List Answer) : Nat :=
  (answers.filterMap Answer.vote).countP (·.actualYes == x)

def decisionOf (quorum yes no : Nat) : Decision :=
  if quorum ≤ yes then .resolved true
  else if quorum ≤ no then .resolved false
  else if quorum ≤ yes + no then .disputed
  else .unresolved

theorem tallyVotes_decision (votes : List SourceVote) (quorum : Nat) :
    (tallyVotes votes quorum).decision =
      decisionOf quorum (votes.countP (·.actualYes == true)) (votes.countP (·.actualYes == false)) := by
  have hyes : (votes.filter SourceVote.actualYes).length = votes.countP (·.actualYes == true) := by
    rw [← List.countP_eq_length_filter]
    exact List.countP_congr fun vote _ => by simp
  have htotal : votes.countP (·.actualYes == true) + votes.countP (·.actualYes == false) =
      votes.length := by
    rw [List.length_eq_countP_add_countP (·.actualYes == true) (l := votes)]
    congr 1
    exact List.countP_congr fun vote _ => by simp
  have hno : votes.length - votes.countP (·.actualYes == true) =
      votes.countP (·.actualYes == false) := by omega
  unfold tallyVotes decisionOf
  dsimp only
  rw [hyes, hno, htotal]
  split
  · rfl
  · split
    · rfl
    · split <;> rfl

theorem resolve_decision (state : OracleState) (answers : List Answer) :
    (resolve state answers).decision =
      decisionOf state.quorum (votesFor true answers) (votesFor false answers) := by
  have htally := tallyVotes_decision (answers.filterMap Answer.vote) state.quorum
  unfold votesFor
  rw [← htally]
  unfold resolve
  dsimp only
  generalize tallyVotes (answers.filterMap Answer.vote) state.quorum = verdict
  cases verdict with
  | resolved actualYes votes => rfl
  | disputed votes => rfl
  | unresolved reason =>
    dsimp only
    split <;> rfl

theorem votesFor_perm {answers answers' : List Answer} (h : answers'.Perm answers) (x : Bool) :
    votesFor x answers' = votesFor x answers :=
  (h.filterMap Answer.vote).countP_eq _

theorem votesFor_negate (answers : List Answer) (x : Bool) :
    votesFor x (answers.map Answer.negate) = votesFor (!x) answers := by
  unfold votesFor
  rw [List.countP_filterMap, List.countP_filterMap, List.countP_map]
  refine List.countP_congr fun answer _ => ?_
  rcases answer with error | vote
  · rfl
  · cases vote with
    | none => rfl
    | some vote => cases x <;> simp [Answer.negate, Answer.vote, Except.map, SourceVote.negate]

theorem decisionOf_swap {quorum yes no : Nat} (h : ¬ (quorum ≤ yes ∧ quorum ≤ no)) :
    decisionOf quorum no yes = (decisionOf quorum yes no).negate := by
  unfold decisionOf
  rw [Nat.add_comm no yes]
  by_cases hyes : quorum ≤ yes
  · rw [if_pos hyes, if_pos hyes, if_neg fun hno => h ⟨hyes, hno⟩]
    rfl
  · rw [if_neg hyes, if_neg hyes]
    split
    · rfl
    · split <;> rfl

/-- **When both sides have the quorum the yes side wins**; otherwise, and only then, a resolution
has a quorum on its side alone, the order of the sources plays no role and neither do the names
of the sides. -/
theorem resolve_fair_iff (state : OracleState) (answers : List Answer) :
    ((∀ x, (resolve state answers).decision = .resolved x →
        state.quorum ≤ votesFor x answers ∧ votesFor (!x) answers < state.quorum) ∧
      (∀ answers', answers'.Perm answers →
        (resolve state answers').decision = (resolve state answers).decision) ∧
      (resolve state (answers.map Answer.negate)).decision =
        (resolve state answers).decision.negate) ↔
      ¬ (state.quorum ≤ votesFor true answers ∧ state.quorum ≤ votesFor false answers) := by
  constructor
  · rintro ⟨hquorum, -, -⟩ ⟨hyes, hno⟩
    have hresolved : (resolve state answers).decision = .resolved true := by
      rw [resolve_decision, decisionOf, if_pos hyes]
    exact absurd (hquorum true hresolved).2 (not_lt.mpr hno)
  · intro h
    refine ⟨fun x hx => ?_, fun answers' hperm => ?_, ?_⟩
    · rw [resolve_decision, decisionOf] at hx
      split at hx
      · rename_i hyes
        cases hx
        exact ⟨hyes, not_le.mp fun hno => h ⟨hyes, hno⟩⟩
      · rename_i hyes
        split at hx
        · rename_i hno
          cases hx
          exact ⟨hno, not_le.mp hyes⟩
        · split at hx <;> cases hx
    · rw [resolve_decision, resolve_decision, votesFor_perm hperm, votesFor_perm hperm]
    · rw [resolve_decision, resolve_decision, votesFor_negate, votesFor_negate]
      exact decisionOf_swap h

/-- With a quorum of one, one vote for either side resolves to yes, and so do the opposite
votes. -/
theorem resolve_prefers_yes :
    let state : OracleState := ⟨1, .conservativeReject⟩
    let answers : List Answer :=
      [.ok (some ⟨"gamma", true, 1, 0⟩), .ok (some ⟨"ctf", false, 1, 0⟩)]
    ValidVotingQuorum state.quorum ∧ (resolve state answers).decision = .resolved true ∧
      votesFor false answers = state.quorum ∧
      (resolve state (answers.map Answer.negate)).decision = .resolved true := by
  decide +kernel

end Oracle

end OxideArb
