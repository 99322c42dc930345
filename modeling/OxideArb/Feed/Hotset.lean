import Mathlib.Data.List.Destutter
import Mathlib.Data.String.Basic
import OxideArb.Catalog.Gamma
import OxideArb.Types.Market

/-!
# The hotset of the engine's subscriptions

Only a bounded part of the catalog is subscribed: the active markets of the enabled categories that
end soon. The first tier ends within the detection window and may use four fifths of the tokens;
the second tier ends within the longer prewarm window. In each tier the markets that end first are
taken first.

The length that the second tier's budget is compared with counts the tokens of the first tier, which
the budget has left out already, so that each market of the first tier takes four tokens from the
second tier.
-/

namespace OxideArb.Hotset

structure Market extends MarketRegistryInfo where
  status : Catalog.MarketStatus
deriving DecidableEq

structure Registry where
  activeMarkets : List MarketId
  getMarket : MarketId → Option Market

/-- `MarketUniverseFilter::is_enabled`: the empty filter admits every market. -/
def isEnabled (enabled categories : CategorySet) : Bool :=
  enabled.bits = 0 || enabled.bits &&& categories.bits ≠ 0

inductive HotsetCandidateKind
  | pastDeadline
  | futureDetect
  | futurePrewarm
  | noEndDate
deriving DecidableEq, Repr

structure HotsetSelectionStats where
  candidates : HotsetCandidateKind → Nat
  selectedFutureDetect : Nat
  selectedFuturePrewarm : Nat
  selectedTokens : Nat

namespace HotsetSelectionStats

def zero : HotsetSelectionStats := ⟨fun _ => 0, 0, 0, 0⟩

def recordCandidate (stats : HotsetSelectionStats) (kind : HotsetCandidateKind) :
    HotsetSelectionStats :=
  { stats with candidates := Function.update stats.candidates kind (stats.candidates kind + 1) }

def recordSelected (stats : HotsetSelectionStats) (kind : HotsetCandidateKind) (pairs : Nat) :
    HotsetSelectionStats :=
  { stats with
    selectedFutureDetect := stats.selectedFutureDetect + if kind = .futureDetect then pairs else 0
    selectedFuturePrewarm :=
      stats.selectedFuturePrewarm + if kind = .futurePrewarm then pairs else 0
    selectedTokens := stats.selectedTokens + pairs * 2 }

end HotsetSelectionStats

structure Candidate where
  market : Market
  rankMs : Int
deriving DecidableEq

structure Policy where
  maxSubscriptionTokens : Nat
  endgameWindowHours : Nat
deriving DecidableEq, Repr

def tier1TokenBudgetPct : Nat := 80

structure Tiers where
  tier1 : List Candidate
  tier2 : List Candidate
  stats : HotsetSelectionStats

section

variable (policy : Policy) (enabled : CategorySet) (now : DateTime) (detectionWindowHours : Nat)

def cutoff (hours : Nat) : DateTime := now + Duration.seconds (3600 * min (hours : Int) i64Max)

/-- What a market of the active list is to the selection: nothing, or a candidate of a kind. -/
def classify (market : Market) : Option (HotsetCandidateKind × Int) :=
  if market.status ≠ .active ∨ isEnabled enabled market.categories = false then none
  else
    match market.endDate with
    | none => some (.noEndDate, 0)
    | some endDate =>
      if endDate ≤ now then some (.pastDeadline, 0)
      else if cutoff now policy.endgameWindowHours < endDate then none
      else
        let rankMs := (endDate - now).tdiv 1000000
        if endDate ≤ cutoff now detectionWindowHours then some (.futureDetect, rankMs)
        else some (.futurePrewarm, rankMs)

def partitionOne (tiers : Tiers) (market : Market) : Tiers :=
  match classify policy enabled now detectionWindowHours market with
  | none => tiers
  | some (kind, rankMs) =>
    { tier1 := if kind = .futureDetect then tiers.tier1 ++ [⟨market, rankMs⟩] else tiers.tier1
      tier2 := if kind = .futurePrewarm then tiers.tier2 ++ [⟨market, rankMs⟩] else tiers.tier2
      stats := tiers.stats.recordCandidate kind }

def partitionCandidates (registry : Registry) : Tiers :=
  (registry.activeMarkets.filterMap registry.getMarket).foldl
    (partitionOne policy enabled now detectionWindowHours) ⟨[], [], .zero⟩

end

/-- The order within a tier: what ends first, then the market's name. -/
def before (left right : Candidate) : Bool :=
  left.rankMs < right.rankMs ∨
    left.rankMs = right.rankMs ∧ left.market.marketId.raw ≤ right.market.marketId.raw

def sortTier (candidates : List Candidate) : List Candidate := candidates.mergeSort before

def takeTier (budget : Nat) (kind : HotsetCandidateKind) :
    List Candidate → List TokenId × HotsetSelectionStats → List TokenId × HotsetSelectionStats
  | [], acc => acc
  | candidate :: rest, (tokens, stats) =>
    if budget < tokens.length + 2 then (tokens, stats)
    else takeTier budget kind rest
      (tokens ++ [candidate.market.tokenYes, candidate.market.tokenNo],
        stats.recordSelected kind 1)

def appendTier (acc : List TokenId × HotsetSelectionStats) (candidates : List Candidate)
    (budget : Nat) (kind : HotsetCandidateKind) : List TokenId × HotsetSelectionStats :=
  if budget = 0 then acc else takeTier budget kind (sortTier candidates) acc

def Policy.tier1Budget (policy : Policy) : Nat :=
  min (policy.maxSubscriptionTokens * tier1TokenBudgetPct) u64Max / 100

/-- `sort_by` and `dedup_by` on the tokens' names. -/
def sortDedup (tokens : List TokenId) : List TokenId :=
  (tokens.mergeSort fun a b => a.raw ≤ b.raw).destutter (· ≠ ·)

def selectTokensWithStats (policy : Policy) (registry : Registry) (enabled : CategorySet)
    (detectionWindowHours : Nat) (now : DateTime) : List TokenId × HotsetSelectionStats :=
  let tiers := partitionCandidates policy enabled now detectionWindowHours registry
  let first := appendTier ([], tiers.stats) tiers.tier1 policy.tier1Budget .futureDetect
  let remaining := policy.maxSubscriptionTokens - first.1.length
  let (tokens, stats) := appendTier first tiers.tier2 remaining .futurePrewarm
  (sortDedup tokens, stats)

/-! ## What a tier adds -/

def pair (candidate : Candidate) : List TokenId :=
  [candidate.market.tokenYes, candidate.market.tokenNo]

theorem length_flatMap_pair (candidates : List Candidate) :
    (candidates.flatMap pair).length = 2 * candidates.length := by
  induction candidates with
  | nil => rfl
  | cons candidate candidates ih =>
    rw [List.flatMap_cons, List.length_append, ih, List.length_cons]
    simp [pair]
    omega

theorem recordSelected_recordSelected (stats : HotsetSelectionStats) (kind : HotsetCandidateKind)
    (m n : Nat) :
    (stats.recordSelected kind m).recordSelected kind n = stats.recordSelected kind (m + n) := by
  cases kind <;> simp [HotsetSelectionStats.recordSelected, Nat.add_mul, Nat.add_assoc]

theorem recordSelected_zero (stats : HotsetSelectionStats) (kind : HotsetCandidateKind) :
    stats.recordSelected kind 0 = stats := by
  simp [HotsetSelectionStats.recordSelected]

/-- How many markets of a tier fit a budget, with `used` tokens taken before it. -/
def fitting (candidates : List Candidate) (budget used : Nat) : Nat :=
  min candidates.length ((budget - used) / 2)

/-- The loop takes as many markets as the budget holds pairs beyond the tokens it starts with. -/
theorem takeTier_eq (budget : Nat) (kind : HotsetCandidateKind) (candidates : List Candidate)
    (tokens : List TokenId) (stats : HotsetSelectionStats) :
    takeTier budget kind candidates (tokens, stats) =
      (tokens ++ (candidates.take (fitting candidates budget tokens.length)).flatMap pair,
        stats.recordSelected kind (fitting candidates budget tokens.length)) := by
  induction candidates generalizing tokens stats with
  | nil => simp [takeTier, fitting, recordSelected_zero]
  | cons candidate rest ih =>
    rw [takeTier]
    split
    · next hfull =>
      have hnone : fitting (candidate :: rest) budget tokens.length = 0 := by
        rw [fitting, List.length_cons]
        omega
      rw [hnone, List.take_zero, List.flatMap_nil, List.append_nil, recordSelected_zero]
    · next hroom =>
      have hone : fitting (candidate :: rest) budget tokens.length =
          1 + fitting rest budget (tokens.length + 2) := by
        rw [fitting, fitting, List.length_cons]
        omega
      have hlength : (tokens ++ [candidate.market.tokenYes, candidate.market.tokenNo]).length =
          tokens.length + 2 := by simp
      rw [ih, hlength, hone, recordSelected_recordSelected, List.append_assoc]
      simp [Nat.add_comm 1, pair]

theorem appendTier_eq (tokens : List TokenId) (stats : HotsetSelectionStats)
    (candidates : List Candidate) (budget : Nat) (kind : HotsetCandidateKind) :
    appendTier (tokens, stats) candidates budget kind =
      (tokens ++
          ((sortTier candidates).take (fitting candidates budget tokens.length)).flatMap pair,
        stats.recordSelected kind (fitting candidates budget tokens.length)) := by
  have hfitting : fitting (sortTier candidates) budget tokens.length =
      fitting candidates budget tokens.length := by
    rw [fitting, fitting, sortTier, List.length_mergeSort]
  rw [appendTier]
  split
  · next hzero =>
    have hnone : fitting candidates budget tokens.length = 0 := by
      rw [fitting, hzero]
      omega
    rw [hnone, List.take_zero, List.flatMap_nil, List.append_nil, recordSelected_zero]
  · rw [takeTier_eq, hfitting]

instance : Std.Antisymm fun a b : TokenId => a.raw ≤ b.raw where
  antisymm := fun a b hab hba => by
    cases a
    cases b
    exact congrArg TokenId.mk (le_antisymm hab hba)

theorem sortDedup_eq_dedup (tokens : List TokenId) :
    sortDedup tokens = (tokens.mergeSort fun a b => a.raw ≤ b.raw).dedup := by
  have hsorted : (tokens.mergeSort fun a b => a.raw ≤ b.raw).Pairwise
      fun a b => decide (a.raw ≤ b.raw) = true :=
    List.pairwise_mergeSort
      (fun a b c hab hbc => by simpa using le_trans (by simpa using hab) (by simpa using hbc))
      (fun a b => by simpa using le_total a.raw b.raw) tokens
  simp only [decide_eq_true_eq] at hsorted
  exact hsorted.destutter_eq_dedup

theorem mem_sortDedup {tokens : List TokenId} {token : TokenId} :
    token ∈ sortDedup tokens ↔ token ∈ tokens := by
  rw [sortDedup_eq_dedup, List.mem_dedup, List.mem_mergeSort]

theorem sortDedup_nodup (tokens : List TokenId) : (sortDedup tokens).Nodup := by
  rw [sortDedup_eq_dedup]
  exact List.nodup_dedup _

theorem sortDedup_length_le (tokens : List TokenId) :
    (sortDedup tokens).length ≤ tokens.length := by
  rw [sortDedup_eq_dedup]
  exact (List.dedup_sublist _).length_le.trans_eq (List.length_mergeSort _)

theorem Policy.tier1Budget_le (policy : Policy) :
    policy.tier1Budget ≤ policy.maxSubscriptionTokens := by
  rw [tier1Budget, tier1TokenBudgetPct]
  omega

/-! ## The partition -/

section

variable (policy : Policy) (enabled : CategorySet) (now : DateTime) (hours : Nat)

def candidateOf (kind : HotsetCandidateKind) (market : Market) : Option Candidate :=
  (classify policy enabled now hours market).bind fun (found, rankMs) =>
    if found = kind then some ⟨market, rankMs⟩ else none

/-- The active markets that count as candidates of a kind. -/
def candidates (registry : Registry) (kind : HotsetCandidateKind) : List Candidate :=
  (registry.activeMarkets.filterMap registry.getMarket).filterMap
    (candidateOf policy enabled now hours kind)

theorem foldl_partitionOne (markets : List Market) (tiers : Tiers) :
    markets.foldl (partitionOne policy enabled now hours) tiers =
      { tier1 := tiers.tier1 ++
          markets.filterMap (candidateOf policy enabled now hours .futureDetect)
        tier2 := tiers.tier2 ++
          markets.filterMap (candidateOf policy enabled now hours .futurePrewarm)
        stats := { tiers.stats with
          candidates := fun kind => tiers.stats.candidates kind +
            (markets.filterMap (candidateOf policy enabled now hours kind)).length } } := by
  induction markets generalizing tiers with
  | nil => simp
  | cons market markets ih =>
    rw [List.foldl_cons, ih, partitionOne]
    cases hclass : classify policy enabled now hours market with
    | none => simp [candidateOf, hclass]
    | some found =>
      obtain ⟨kind, rankMs⟩ := found
      have hcount : ∀ other, (market :: markets).filterMap
          (candidateOf policy enabled now hours other) =
            (if kind = other then [⟨market, rankMs⟩] else []) ++
              markets.filterMap (candidateOf policy enabled now hours other) := by
        intro other
        rw [List.filterMap_cons]
        simp only [candidateOf, hclass, Option.bind_some]
        split <;> simp_all
      simp only [hcount, List.length_append, HotsetSelectionStats.recordCandidate]
      congr 1
      · split <;> simp
      · split <;> simp
      · congr 1
        funext other
        by_cases hkind : other = kind
        · subst hkind
          simp [Nat.add_assoc]
        · simp [hkind, Ne.symm hkind]

theorem partitionCandidates_eq (registry : Registry) :
    partitionCandidates policy enabled now hours registry =
      { tier1 := candidates policy enabled now hours registry .futureDetect
        tier2 := candidates policy enabled now hours registry .futurePrewarm
        stats :=
          { HotsetSelectionStats.zero with
            candidates := fun kind =>
              (candidates policy enabled now hours registry kind).length } } := by
  rw [partitionCandidates, foldl_partitionOne]
  simp [HotsetSelectionStats.zero, candidates]

end

/-! ## The selection -/

section

variable (policy : Policy) (enabled : CategorySet) (now : DateTime) (hours : Nat)
  (registry : Registry)

/-- A tier in the order in which its markets are taken. -/
def ranked (kind : HotsetCandidateKind) : List Candidate :=
  sortTier (candidates policy enabled now hours registry kind)

def firstCount : Nat :=
  min (candidates policy enabled now hours registry .futureDetect).length (policy.tier1Budget / 2)

def secondCount : Nat :=
  min (candidates policy enabled now hours registry .futurePrewarm).length
    ((policy.maxSubscriptionTokens - 4 * firstCount policy enabled now hours registry) / 2)

def selected : List Candidate :=
  (ranked policy enabled now hours registry .futureDetect).take
      (firstCount policy enabled now hours registry) ++
    (ranked policy enabled now hours registry .futurePrewarm).take
      (secondCount policy enabled now hours registry)

theorem length_ranked (kind : HotsetCandidateKind) :
    (ranked policy enabled now hours registry kind).length =
      (candidates policy enabled now hours registry kind).length :=
  List.length_mergeSort _

theorem firstCount_le : firstCount policy enabled now hours registry ≤
    (candidates policy enabled now hours registry .futureDetect).length :=
  min_le_left _ _

theorem secondCount_le : secondCount policy enabled now hours registry ≤
    (candidates policy enabled now hours registry .futurePrewarm).length :=
  min_le_left _ _

theorem selectTokensWithStats_eq :
    selectTokensWithStats policy registry enabled hours now =
      (sortDedup ((selected policy enabled now hours registry).flatMap pair),
        { candidates := fun kind => (candidates policy enabled now hours registry kind).length
          selectedFutureDetect := firstCount policy enabled now hours registry
          selectedFuturePrewarm := secondCount policy enabled now hours registry
          selectedTokens := 2 * (firstCount policy enabled now hours registry +
            secondCount policy enabled now hours registry) }) := by
  have hlength : (((ranked policy enabled now hours registry .futureDetect).take
      (firstCount policy enabled now hours registry)).flatMap pair).length =
        2 * firstCount policy enabled now hours registry := by
    rw [length_flatMap_pair, List.length_take, length_ranked,
      min_eq_left (firstCount_le policy enabled now hours registry)]
  have hfirst : fitting (candidates policy enabled now hours registry .futureDetect)
      policy.tier1Budget 0 = firstCount policy enabled now hours registry := rfl
  have hsecond : fitting (candidates policy enabled now hours registry .futurePrewarm)
      (policy.maxSubscriptionTokens - 2 * firstCount policy enabled now hours registry)
      (2 * firstCount policy enabled now hours registry) =
        secondCount policy enabled now hours registry := by
    rw [fitting, secondCount, Nat.sub_sub, ← Nat.add_mul]
  unfold selectTokensWithStats
  simp only [partitionCandidates_eq, appendTier_eq, List.nil_append, List.length_nil, hfirst]
  rw [← ranked, ← ranked, hlength, hsecond, selected, List.flatMap_append]
  simp [HotsetSelectionStats.recordSelected, HotsetSelectionStats.zero, Nat.mul_add, Nat.mul_comm]

theorem selected_length :
    (selected policy enabled now hours registry).length =
      firstCount policy enabled now hours registry +
        secondCount policy enabled now hours registry := by
  rw [selected, List.length_append, List.length_take, List.length_take, length_ranked,
    length_ranked, min_eq_left (firstCount_le policy enabled now hours registry),
    min_eq_left (secondCount_le policy enabled now hours registry)]

theorem selected_length_le :
    2 * (selected policy enabled now hours registry).length ≤ policy.maxSubscriptionTokens := by
  have hbudget := policy.tier1Budget_le
  have hfirst : firstCount policy enabled now hours registry ≤ policy.tier1Budget / 2 :=
    min_le_right _ _
  have hsecond : secondCount policy enabled now hours registry ≤
      (policy.maxSubscriptionTokens - 4 * firstCount policy enabled now hours registry) / 2 :=
    min_le_right _ _
  rw [selected_length]
  omega

variable {policy enabled now hours registry} {kind : HotsetCandidateKind} {candidate : Candidate}

theorem mem_candidates (h : candidate ∈ candidates policy enabled now hours registry kind) :
    classify policy enabled now hours candidate.market = some (kind, candidate.rankMs) ∧
      ∃ id ∈ registry.activeMarkets, registry.getMarket id = some candidate.market := by
  simp only [candidates, List.mem_filterMap, candidateOf, Option.bind_eq_some_iff] at h
  obtain ⟨market, ⟨id, hid, hmarket⟩, ⟨found, rankMs⟩, hclass, hfound⟩ := h
  split at hfound
  · next hkind =>
    cases hfound
    exact ⟨hkind ▸ hclass, id, hid, hmarket⟩
  · cases hfound

theorem before_trans (a b c : Candidate) (hab : before a b = true) (hbc : before b c = true) :
    before a c = true := by
  simp only [before, decide_eq_true_eq] at hab hbc ⊢
  rcases hab with hab | ⟨hab, hab'⟩ <;> rcases hbc with hbc | ⟨hbc, hbc'⟩
  · exact .inl (hab.trans hbc)
  · exact .inl (hbc ▸ hab)
  · exact .inl (hab ▸ hbc)
  · exact .inr ⟨hab.trans hbc, hab'.trans hbc'⟩

theorem before_total (a b : Candidate) : (before a b || before b a) = true := by
  simp only [before, Bool.or_eq_true, decide_eq_true_eq]
  rcases lt_trichotomy a.rankMs b.rankMs with h | h | h
  · exact .inl (.inl h)
  · rcases le_total a.market.marketId.raw b.market.marketId.raw with hle | hle
    · exact .inl (.inr ⟨h, hle⟩)
    · exact .inr (.inr ⟨h.symm, hle⟩)
  · exact .inr (.inl h)

theorem ranked_pairwise (kind : HotsetCandidateKind) :
    (ranked policy enabled now hours registry kind).Pairwise fun a b => before a b = true :=
  List.pairwise_mergeSort before_trans before_total _

theorem mem_ranked : candidate ∈ ranked policy enabled now hours registry kind ↔
    candidate ∈ candidates policy enabled now hours registry kind :=
  List.mem_mergeSort

/-- Of a list in order, what a cut takes comes before what it leaves out. -/
theorem before_of_take {l : List Candidate} (h : l.Pairwise fun a b => before a b = true) {n : Nat}
    {a b : Candidate} (ha : a ∈ l.take n) (hb : b ∈ l) (hout : b ∉ l.take n) :
    before a b = true := by
  rw [← List.take_append_drop n l] at h hb
  exact (List.pairwise_append.mp h).2.2 a ha b ((List.mem_append.mp hb).resolve_left hout)

/-- A candidate of one tier that is selected was taken from that tier. -/
theorem mem_selected (hmem : candidate ∈ candidates policy enabled now hours registry kind)
    (h : candidate ∈ selected policy enabled now hours registry) :
    ∃ n, candidate ∈ (ranked policy enabled now hours registry kind).take n ∧
      ∀ other ∈ (ranked policy enabled now hours registry kind).take n,
        other ∈ selected policy enabled now hours registry := by
  have hkind : ∀ other, candidate ∈ ranked policy enabled now hours registry other →
      other = kind := by
    intro other hother
    have hclass := (mem_candidates (mem_ranked.mp hother)).1
    rw [(mem_candidates hmem).1] at hclass
    exact (Prod.mk.inj (Option.some.inj hclass)).1.symm
  rcases List.mem_append.mp h with htake | htake
  · cases hkind _ (List.mem_of_mem_take htake)
    exact ⟨_, htake, fun other hother => List.mem_append_left _ hother⟩
  · cases hkind _ (List.mem_of_mem_take htake)
    exact ⟨_, htake, fun other hother => List.mem_append_right _ hother⟩

end

/-- The engine's tokens are those of the markets selected: the detection tier's, as many as four
fifths of the budget hold, and the prewarm tier's, as many as the budget holds when each market
before counts four tokens. The budget is kept, no token occurs twice, and a candidate that is left
out comes after every one of its tier that is taken. -/
theorem hotset_selected (policy : Policy) (enabled : CategorySet) (now : DateTime) (hours : Nat)
    (registry : Registry) :
    (selectTokensWithStats policy registry enabled hours now).1.Nodup ∧
      (selectTokensWithStats policy registry enabled hours now).1.length ≤
        policy.maxSubscriptionTokens ∧
      (∀ token, token ∈ (selectTokensWithStats policy registry enabled hours now).1 ↔
        ∃ candidate ∈ selected policy enabled now hours registry,
          token = candidate.market.tokenYes ∨ token = candidate.market.tokenNo) ∧
      (selectTokensWithStats policy registry enabled hours now).2.selectedTokens =
        2 * (selected policy enabled now hours registry).length ∧
      ∀ kind, ∀ left ∈ candidates policy enabled now hours registry kind,
        ∀ right ∈ candidates policy enabled now hours registry kind,
          left ∈ selected policy enabled now hours registry →
          right ∉ selected policy enabled now hours registry → before left right = true := by
  rw [selectTokensWithStats_eq]
  refine ⟨sortDedup_nodup _, ?_, ?_, ?_, ?_⟩
  · refine (sortDedup_length_le _).trans ?_
    rw [length_flatMap_pair]
    exact selected_length_le policy enabled now hours registry
  · intro token
    simp [mem_sortDedup, pair]
  · rw [selected_length]
  · intro kind left hleft right hright hin hout
    obtain ⟨n, htake, hsub⟩ := mem_selected hleft hin
    exact before_of_take (ranked_pairwise kind) htake (mem_ranked.mpr hright)
      fun hmem => hout (hsub right hmem)

/-- A market is registered under its own id. -/
def Registry.Keyed (registry : Registry) : Prop :=
  ∀ id market, registry.getMarket id = some market → market.marketId = id

theorem ranked_of_perm (policy : Policy) (enabled : CategorySet) (now : DateTime) (hours : Nat)
    {registry : Registry} {active : List MarketId} (hkeyed : registry.Keyed)
    (hperm : active.Perm registry.activeMarkets) (kind : HotsetCandidateKind) :
    ranked policy enabled now hours { registry with activeMarkets := active } kind =
      ranked policy enabled now hours registry kind := by
  have hcandidates : (candidates policy enabled now hours
      { registry with activeMarkets := active } kind).Perm
        (candidates policy enabled now hours registry kind) :=
    (hperm.filterMap _).filterMap _
  refine List.Perm.eq_of_pairwise ?_ (ranked_pairwise kind) (ranked_pairwise kind)
    (((List.mergeSort_perm _ _).trans hcandidates).trans (List.mergeSort_perm _ _).symm)
  intro a b ha hb hab hba
  obtain ⟨-, ida, -, hida⟩ := mem_candidates (mem_ranked.mp ha)
  obtain ⟨-, idb, -, hidb⟩ := mem_candidates (mem_ranked.mp hb)
  simp only [before, decide_eq_true_eq] at hab hba
  obtain ⟨hrank, hname⟩ : a.rankMs = b.rankMs ∧
      a.market.marketId.raw = b.market.marketId.raw := by
    rcases hab with hab | ⟨hab, hab'⟩
    · rcases hba with hba | ⟨hba, -⟩
      · exact absurd hab hba.not_gt
      · exact absurd hba hab.ne'
    · rcases hba with hba | ⟨-, hba'⟩
      · exact absurd hab hba.ne'
      · exact ⟨hab, le_antisymm hab' hba'⟩
  have hid : a.market.marketId = b.market.marketId := by
    cases ha' : a.market.marketId
    cases hb' : b.market.marketId
    rw [ha', hb'] at hname
    exact congrArg MarketId.mk hname
  rw [hkeyed ida _ hida, hkeyed idb _ hidb] at hid
  have hmarket : a.market = b.market := Option.some.inj (hida.symm.trans (hid ▸ hidb))
  cases a
  cases b
  cases hmarket
  cases hrank
  rfl

def sampleMarket (name : String) (endDate : DateTime) : Market :=
  { marketId := ⟨name⟩, tokenYes := ⟨name ++ "-yes"⟩, tokenNo := ⟨name ++ "-no"⟩
    categories := ⟨0⟩, negRisk := false, endDate := some endDate, status := .active }

def sampleRegistry : Registry where
  activeMarkets := [⟨"b"⟩, ⟨"a"⟩]
  getMarket := fun id => some { sampleMarket id.raw (Duration.seconds 60) with marketId := id }

end OxideArb.Hotset
