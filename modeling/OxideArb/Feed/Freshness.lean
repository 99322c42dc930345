import OxideArb.Feed.Events

/-!
# The freshness of tokens

A shard marks the tokens of an event on the freshness board and then offers the event to a
bounded channel. The board tells what was received, whether or not the channel took it.
-/

namespace OxideArb

/-! ## The board -/

/-- `TokenFreshnessBoard`: when each token last received an event. -/
abbrev TokenFreshnessBoard := TokenId → Option DateTime

namespace TokenFreshnessBoard

def markToken (board : TokenFreshnessBoard) (tokenId : TokenId) (receivedAt : DateTime) :
    TokenFreshnessBoard :=
  Function.update board tokenId (some receivedAt)

/-- Milliseconds since the last event of the token. -/
def tokenAgeMs (board : TokenFreshnessBoard) (tokenId : TokenId) (now : DateTime) : Option Nat :=
  (board tokenId).map fun lastMessageAt => timestampMillis (now - lastMessageAt)

def pruneTokens (board : TokenFreshnessBoard) (activeTokens : List TokenId) :
    TokenFreshnessBoard :=
  fun tokenId => if tokenId ∈ activeTokens then board tokenId else none

end TokenFreshnessBoard

/-- The tokens `mark_event_tokens` marks. -/
def PipelineEvent.marked (event : PipelineEvent) : List TokenId :=
  match event.assetId with
  | some tokenId => [tokenId]
  | none =>
    match event with
    | .marketResolved _ _ _ assetIds _ => assetIds
    | _ => []

def markEventTokens (board : TokenFreshnessBoard) (event : PipelineEvent) (receivedAt : DateTime) :
    TokenFreshnessBoard :=
  event.marked.foldl (fun board tokenId => board.markToken tokenId receivedAt) board

theorem markEventTokens_apply (board : TokenFreshnessBoard) (event : PipelineEvent)
    (receivedAt : DateTime) (tokenId : TokenId) :
    markEventTokens board event receivedAt tokenId =
      if tokenId ∈ event.marked then some receivedAt else board tokenId := by
  unfold markEventTokens
  induction event.marked generalizing board with
  | nil => rfl
  | cons marked rest ih =>
    rw [List.foldl_cons, ih]
    by_cases hrest : tokenId ∈ rest
    · rw [if_pos hrest, if_pos (List.mem_cons_of_mem _ hrest)]
    · rw [if_neg hrest, TokenFreshnessBoard.markToken, Function.update_apply]
      simp only [List.mem_cons, hrest, or_false]

/-! ## Dispatch -/

/-- An event offered to the channel, and whether the channel took it. -/
structure Offer where
  event : PipelineEvent
  receivedAt : DateTime
  sent : Bool
deriving DecidableEq

/-- The channel of the shards with the events in it, the board, and all that was offered. -/
structure ShardOutput where
  capacity : Nat
  outputTx : List PipelineEvent
  lastMessageAt : Option DateTime
  tokenFreshness : TokenFreshnessBoard
  eventsDropped : Nat
  offers : List Offer

namespace ShardOutput

def new (capacity : Nat) : ShardOutput :=
  { capacity, outputTx := [], lastMessageAt := none, tokenFreshness := fun _ => none
    eventsDropped := 0, offers := [] }

/-- One turn of the loop of `dispatch_events`. -/
def dispatchEvent (receivedAt : DateTime) (s : ShardOutput) (event : PipelineEvent) :
    ShardOutput :=
  let s := { s with tokenFreshness := markEventTokens s.tokenFreshness event receivedAt }
  if s.outputTx.length < s.capacity then
    { s with outputTx := s.outputTx ++ [event], offers := ⟨event, receivedAt, true⟩ :: s.offers }
  else
    { s with
      eventsDropped := s.eventsDropped + 1
      offers := ⟨event, receivedAt, false⟩ :: s.offers }

def dispatchEvents (s : ShardOutput) (receivedAt : DateTime) (events : List PipelineEvent) :
    ShardOutput :=
  events.foldl (dispatchEvent receivedAt)
    (if events.isEmpty then s else { s with lastMessageAt := some receivedAt })

def emitStatus (s : ShardOutput) (shardId : Nat) (status : ShardConnectionStatus) :
    ShardOutput :=
  if s.outputTx.length < s.capacity then
    { s with outputTx := s.outputTx ++ [.shardStatus shardId status] }
  else s

/-- A message of some shard, a change of its connection, the pipeline taking events, or a change
of the subscriptions. -/
inductive Input
  | message (receivedAt : DateTime) (events : List PipelineEvent)
  | status (shardId : Nat) (status : ShardConnectionStatus)
  | drain (taken : Nat)
  | prune (activeTokens : List TokenId)

def step (s : ShardOutput) : Input → ShardOutput
  | .message receivedAt events => s.dispatchEvents receivedAt events
  | .status shardId status => s.emitStatus shardId status
  | .drain taken => { s with outputTx := s.outputTx.drop taken }
  | .prune activeTokens =>
    { s with tokenFreshness := s.tokenFreshness.pruneTokens activeTokens }

/-! ## What the board tells -/

/-- Every time on the board is that of an event of the token that was offered then. -/
def Offered (s : ShardOutput) : Prop :=
  ∀ tokenId receivedAt, s.tokenFreshness tokenId = some receivedAt →
    ∃ offer ∈ s.offers, tokenId ∈ offer.event.marked ∧ offer.receivedAt = receivedAt

theorem dispatchEvent_offers (receivedAt : DateTime) (s : ShardOutput) (event : PipelineEvent) :
    ∃ sent, (s.dispatchEvent receivedAt event).offers = ⟨event, receivedAt, sent⟩ :: s.offers := by
  unfold dispatchEvent
  dsimp only
  split <;> exact ⟨_, rfl⟩

theorem dispatchEvent_tokenFreshness (receivedAt : DateTime) (s : ShardOutput)
    (event : PipelineEvent) (tokenId : TokenId) :
    (s.dispatchEvent receivedAt event).tokenFreshness tokenId =
      if tokenId ∈ event.marked then some receivedAt else s.tokenFreshness tokenId := by
  rw [← markEventTokens_apply]
  unfold dispatchEvent
  dsimp only
  split <;> rfl

theorem Offered.dispatchEvent {s : ShardOutput} (h : s.Offered) (receivedAt : DateTime)
    (event : PipelineEvent) : (s.dispatchEvent receivedAt event).Offered := by
  obtain ⟨sent, hoffers⟩ := s.dispatchEvent_offers receivedAt event
  intro tokenId time htime
  rw [dispatchEvent_tokenFreshness] at htime
  rw [hoffers]
  split at htime
  · rename_i hmarked
    cases htime
    exact ⟨_, List.mem_cons_self, hmarked, rfl⟩
  · obtain ⟨offer, hoffer, hprops⟩ := h tokenId time htime
    exact ⟨offer, List.mem_cons_of_mem _ hoffer, hprops⟩

theorem Offered.step {s : ShardOutput} (h : s.Offered) (input : Input) :
    (s.step input).Offered := by
  cases input with
  | message receivedAt events =>
    have hstart : (if events.isEmpty then s
        else { s with lastMessageAt := some receivedAt }).Offered := by
      split
      · exact h
      · exact h
    unfold ShardOutput.step dispatchEvents
    exact List.foldlRecOn events _ hstart fun _ hs event _ => hs.dispatchEvent receivedAt event
  | status shardId status =>
    unfold ShardOutput.step emitStatus
    dsimp only
    split <;> exact h
  | drain taken => exact h
  | prune activeTokens =>
    intro tokenId time htime
    unfold ShardOutput.step TokenFreshnessBoard.pruneTokens at htime
    dsimp only at htime
    split at htime
    · exact h tokenId time htime
    · cases htime

theorem foldl_tokenFreshness (receivedAt : DateTime) (tokenId : TokenId)
    (events : List PipelineEvent) (s : ShardOutput) :
    (events.foldl (dispatchEvent receivedAt) s).tokenFreshness tokenId =
      if ∃ event ∈ events, tokenId ∈ event.marked then some receivedAt
      else s.tokenFreshness tokenId := by
  induction events generalizing s with
  | nil => simp
  | cons event events ih =>
    rw [List.foldl_cons, ih, dispatchEvent_tokenFreshness]
    simp only [List.mem_cons, exists_eq_or_imp]
    by_cases hrest : ∃ event ∈ events, tokenId ∈ event.marked
    · rw [if_pos hrest, if_pos (.inr hrest)]
    · rw [if_neg hrest]
      simp only [hrest, or_false]

/-- **The board tells what was offered**: an age is that of an event of the token received then,
sent or dropped, and every event received refreshes its tokens. -/
theorem tokenAge_of_offered (capacity : Nat) (inputs : List Input) :
    let s := inputs.foldl step (new capacity)
    (∀ tokenId receivedAt, s.tokenFreshness tokenId = some receivedAt →
      ∃ offer ∈ s.offers, tokenId ∈ offer.event.marked ∧ offer.receivedAt = receivedAt) ∧
    (∀ tokenId now age, s.tokenFreshness.tokenAgeMs tokenId now = some age →
      ∃ offer ∈ s.offers, tokenId ∈ offer.event.marked ∧
        age = timestampMillis (now - offer.receivedAt)) ∧
    ∀ receivedAt events, ∀ event ∈ events, ∀ tokenId ∈ event.marked,
      (s.step (.message receivedAt events)).tokenFreshness tokenId = some receivedAt := by
  intro s
  have hoffered : s.Offered :=
    List.foldlRecOn inputs step (fun _ _ h => by cases h) fun _ hs input _ => hs.step input
  refine ⟨hoffered, fun tokenId now age hage => ?_, fun receivedAt events event hevent tokenId
    htoken => ?_⟩
  · obtain ⟨time, htime, rfl⟩ := Option.map_eq_some_iff.mp hage
    obtain ⟨offer, hoffer, hmarked, rfl⟩ := hoffered tokenId time htime
    exact ⟨offer, hoffer, hmarked, rfl⟩
  · exact (foldl_tokenFreshness receivedAt tokenId events _).trans
      (if_pos ⟨event, hevent, htoken⟩)

/-- The second event finds the channel full: nothing of its token was ever sent, and the board
has it as fresh. -/
theorem dropped_event_refreshes :
    let s := (new 1).step (.message 5
      [.tickSizeChange ⟨"a"⟩ .tenth .hundredth, .tickSizeChange ⟨"b"⟩ .tenth .hundredth])
    s.tokenFreshness ⟨"b"⟩ = some 5 ∧
      ∀ offer ∈ s.offers, offer.sent = true → ⟨"b"⟩ ∉ offer.event.marked := by
  decide +kernel

end ShardOutput

end OxideArb
