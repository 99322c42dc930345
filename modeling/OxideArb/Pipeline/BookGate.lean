import Mathlib.Data.List.Induction
import OxideArb.Detection.Detector
import OxideArb.Feed.Events

/-!
# The book gate

Before detection the two published books of a market pass a gate: no side empty, neither book
crossed or too old. What a book was built from is stored nowhere, so deltas alone may fill one.
-/

namespace OxideArb

/-! ## The gate -/

namespace EndgameBookPair

def maxStalenessMs (pair : EndgameBookPair) (nowMs : Nat) : Nat :=
  let a := nowMs - pair.yes.timestampMs
  let b := nowMs - pair.yes.timestampMs
  let c := nowMs - pair.no.timestampMs
  let d := nowMs - pair.no.timestampMs
  max (max (max a b) c) d

end EndgameBookPair

namespace BookGate

def isCrossed (bids asks : List BookLevel) : Bool :=
  match bids.head?.map (·.priceDecimal), asks.head?.map (·.priceDecimal) with
  | some bid, some ask => ask ≤ bid
  | _, _ => false

def pass (pair : EndgameBookPair) (nowMs acceptableThresholdMs : Nat) : Bool :=
  if pair.yes.bids.isEmpty || pair.yes.asks.isEmpty || pair.no.bids.isEmpty ||
      pair.no.asks.isEmpty then false
  else if isCrossed pair.yes.bids pair.yes.asks || isCrossed pair.no.bids pair.no.asks then false
  else pair.maxStalenessMs nowMs ≤ acceptableThresholdMs

structure TwoSided (bids asks : List BookLevel) : Prop where
  hasBids : bids ≠ []
  hasAsks : asks ≠ []
  uncrossed : isCrossed bids asks = false

theorem pass_iff (pair : EndgameBookPair) (nowMs acceptableThresholdMs : Nat) :
    pass pair nowMs acceptableThresholdMs = true ↔
      TwoSided pair.yes.bids pair.yes.asks ∧ TwoSided pair.no.bids pair.no.asks ∧
        pair.maxStalenessMs nowMs ≤ acceptableThresholdMs := by
  unfold pass
  constructor
  · intro h
    split at h
    · cases h
    next hsides =>
      split at h
      · cases h
      next hcross =>
        simp only [Bool.or_eq_true, List.isEmpty_iff, not_or] at hsides
        simp only [Bool.or_eq_true, not_or, Bool.not_eq_true] at hcross
        obtain ⟨⟨⟨hyesBids, hyesAsks⟩, hnoBids⟩, hnoAsks⟩ := hsides
        exact ⟨⟨hyesBids, hyesAsks, hcross.1⟩, ⟨hnoBids, hnoAsks, hcross.2⟩, of_decide_eq_true h⟩
  · rintro ⟨⟨hyesBids, hyesAsks, hyes⟩, ⟨hnoBids, hnoAsks, hno⟩, hage⟩
    simp [hyesBids, hyesAsks, hyes, hnoBids, hnoAsks, hno, hage]

end BookGate

namespace BookStore

variable (store : BookStore)

def remove (tokenId : TokenId) : BookStore :=
  ⟨Function.update store.books tokenId none⟩

def loadPair (tokenYes tokenNo : TokenId) : Option EndgameBookPair :=
  match store.load tokenYes, store.load tokenNo with
  | some yes, some no => some { yes, no }
  | _, _ => none

/-- The check of `scan_market`: a pair is assembled and passes the gate. -/
def passesGate (tokenYes tokenNo : TokenId) (nowMs acceptableBookAgeMs : Nat) : Bool :=
  match store.loadPair tokenYes tokenNo with
  | none => false
  | some pair => BookGate.pass pair nowMs acceptableBookAgeMs

end BookStore

/-! ## Histories -/

/-- What happens to the store: events of the feed, and the removal of a token's state. -/
inductive StoreOp
  | event (e : PipelineEvent)
  | remove (tokenId : TokenId)
deriving DecidableEq, Repr

def StoreOp.apply (store : BookStore) : StoreOp → BookStore
  | .event e => handleEvent store e
  | .remove tokenId => store.remove tokenId

variable (ops : List StoreOp)

def runStore : BookStore := ops.foldl StoreOp.apply BookStore.new

def StoreOp.extend (t : TokenId) (history : List PipelineEvent) : StoreOp → List PipelineEvent
  | .event e => if e.ofToken t then history ++ [e] else history
  | .remove tokenId => if tokenId = t then [] else history

/-- The book events of a token since its state was created. -/
def history (t : TokenId) (ops : List StoreOp) : List PipelineEvent :=
  ops.foldl (StoreOp.extend t) []

def OrderBook.applyEvent (book : OrderBook) : PipelineEvent → OrderBook
  | .bookSnapshot cmd => book.applySnapshotArc cmd.bids cmd.asks cmd.timestampMs
  | .priceDelta cmd =>
    book.applyDeltaCow (cmd.changes.map fun d => (d.side, d.price, d.size)) cmd.timestampMs
  | _ => book

def replay (t : TokenId) (events : List PipelineEvent) : OrderBook :=
  events.foldl OrderBook.applyEvent (OrderBook.new t)

theorem replay_concat (t : TokenId) (events : List PipelineEvent) (e : PipelineEvent) :
    replay t (events ++ [e]) = (replay t events).applyEvent e := by
  unfold replay
  rw [List.foldl_append]
  rfl

def replayState (t : TokenId) (events : List PipelineEvent) : Option TokenBookState :=
  if events = [] then none
  else some
    { live := replay t events
      published := (replay t events).publishCow events.length
      version := events.length }

variable {store : BookStore} {t : TokenId} {events : List PipelineEvent}

theorem handleEvent_replayState (h : store.books t = replayState t events) {e : PipelineEvent}
    (he : e.ofToken t = true) : (handleEvent store e).books t = replayState t (events ++ [e]) := by
  have hlive : (store.getOrCreateState t).live = replay t events ∧
      (store.getOrCreateState t).version = events.length := by
    unfold BookStore.getOrCreateState
    rw [h]
    unfold replayState
    split
    next hnil =>
      subst hnil
      exact ⟨rfl, rfl⟩
    · exact ⟨rfl, rfl⟩
  have hstate : replayState t (events ++ [e]) =
      some ((store.getOrCreateState t).bumpAndPublish ((replay t events).applyEvent e)) := by
    unfold replayState TokenBookState.bumpAndPublish
    rw [if_neg (List.append_ne_nil_of_right_ne_nil events (List.cons_ne_nil e [])), replay_concat,
      List.length_append, hlive.2]
    rfl
  rw [hstate]
  cases e with
  | bookSnapshot cmd =>
    have ht : cmd.assetId = t := by
      simpa [PipelineEvent.ofToken, PipelineEvent.isBookCoalescable, PipelineEvent.assetId] using he
    subst ht
    simp only [handleEvent, BookStore.applySnapshot, BookStore.setState_same, hlive.1,
      OrderBook.applyEvent]
  | priceDelta cmd =>
    have ht : cmd.assetId = t := by
      simpa [PipelineEvent.ofToken, PipelineEvent.isBookCoalescable, PipelineEvent.assetId] using he
    subst ht
    simp only [handleEvent, BookStore.applyDelta, BookStore.setState_same, hlive.1,
      OrderBook.applyEvent]
  | bestBidAsk => cases he
  | tickSizeChange => cases he
  | lastTradePrice => cases he
  | marketResolved => cases he
  | shardStatus => cases he

theorem apply_replayState (h : store.books t = replayState t events) (op : StoreOp) :
    (op.apply store).books t = replayState t (op.extend t events) := by
  cases op with
  | event e =>
    by_cases he : e.ofToken t = true
    · simp only [StoreOp.apply, StoreOp.extend, he, if_true]
      exact handleEvent_replayState h he
    · rw [Bool.not_eq_true] at he
      simp only [StoreOp.apply, StoreOp.extend, he, Bool.false_eq_true, if_false]
      rw [handleEvent_not_ofToken store he]
      exact h
  | remove tokenId =>
    by_cases ht : tokenId = t
    · subst ht
      simp [StoreOp.apply, StoreOp.extend, BookStore.remove, replayState]
    · simp only [StoreOp.apply, StoreOp.extend, BookStore.remove, ht, if_false,
        Function.update_of_ne (Ne.symm ht)]
      exact h

theorem books_run (t : TokenId) (ops : List StoreOp) :
    (runStore ops).books t = replayState t (history t ops) := by
  induction ops using List.reverseRecOn with
  | nil => rfl
  | append_singleton ops op ih =>
    unfold runStore history at ih ⊢
    rw [List.foldl_append, List.foldl_append]
    exact apply_replayState ih op

theorem load_run (t : TokenId) (ops : List StoreOp) :
    (runStore ops).load t =
      if history t ops = [] then none
      else some ((replay t (history t ops)).publishCow (history t ops).length) := by
  unfold BookStore.load
  rw [books_run]
  unfold replayState
  split <;> rfl

/-! ## Full books -/

def PipelineEvent.isSnapshot : PipelineEvent → Bool
  | .bookSnapshot _ => true
  | _ => false

/-- The history of the token has a full book message. -/
def HasFullBook (t : TokenId) : Prop :=
  ∃ e ∈ history t ops, e.isSnapshot = true

instance (ops : List StoreOp) (t : TokenId) : Decidable (HasFullBook ops t) :=
  inferInstanceAs (Decidable (∃ e ∈ history t ops, e.isSnapshot = true))

/-- The published book is a full book message of the history with the deltas after it. -/
def BuiltFromFullBook (t : TokenId) : Prop :=
  ∃ earlier cmd deltas, history t ops = earlier ++ .bookSnapshot cmd :: deltas ∧
    (∀ e ∈ deltas, e.isSnapshot = false) ∧
    ∃ snap, (runStore ops).load t = some snap ∧
      let book := deltas.foldl OrderBook.applyEvent
        ((OrderBook.new t).applySnapshotArc cmd.bids cmd.asks cmd.timestampMs)
      snap.bids = book.bids ∧ snap.asks = book.asks

theorem exists_last_snapshot (h : ∃ e ∈ events, e.isSnapshot = true) :
    ∃ earlier cmd deltas, events = earlier ++ .bookSnapshot cmd :: deltas ∧
      ∀ e ∈ deltas, e.isSnapshot = false := by
  induction events using List.reverseRecOn with
  | nil => simp at h
  | append_singleton events e ih =>
    cases hlast : e.isSnapshot with
    | true =>
      cases e with
      | bookSnapshot cmd => exact ⟨events, cmd, [], rfl, nofun⟩
      | _ => cases hlast
    | false =>
      obtain ⟨x, hx, hsnap⟩ := h
      have hmem : x ∈ events := by
        rcases List.mem_append.mp hx with hx | hx
        · exact hx
        · rw [List.mem_singleton.mp hx, hlast] at hsnap
          cases hsnap
      obtain ⟨earlier, cmd, deltas, rfl, hdeltas⟩ := ih ⟨x, hmem, hsnap⟩
      refine ⟨earlier, cmd, deltas ++ [e], by simp, fun d hd => ?_⟩
      rcases List.mem_append.mp hd with hd | hd
      · exact hdeltas d hd
      · rwa [List.mem_singleton.mp hd]

theorem applyEvent_tokenId (book : OrderBook) (e : PipelineEvent) :
    (book.applyEvent e).tokenId = book.tokenId := by
  cases e <;> rfl

theorem replay_tokenId (t : TokenId) (events : List PipelineEvent) :
    (replay t events).tokenId = t := by
  induction events using List.reverseRecOn with
  | nil => rfl
  | append_singleton events e ih => rw [replay_concat, applyEvent_tokenId, ih]

theorem replay_last_snapshot (t : TokenId) (earlier deltas : List PipelineEvent)
    (cmd : BookSnapshotCmd) :
    replay t (earlier ++ .bookSnapshot cmd :: deltas) =
      deltas.foldl OrderBook.applyEvent
        ((OrderBook.new t).applySnapshotArc cmd.bids cmd.asks cmd.timestampMs) := by
  have hbase : (replay t earlier).applyEvent (.bookSnapshot cmd) =
      (OrderBook.new t).applySnapshotArc cmd.bids cmd.asks cmd.timestampMs := by
    simp only [OrderBook.applyEvent, OrderBook.applySnapshotArc, OrderBook.new, replay_tokenId]
  rw [← hbase]
  unfold replay
  rw [List.foldl_append]
  rfl

theorem builtFromFullBook_iff (t : TokenId) : BuiltFromFullBook ops t ↔ HasFullBook ops t := by
  constructor
  · rintro ⟨earlier, cmd, deltas, hhistory, -, -⟩
    refine ⟨.bookSnapshot cmd, ?_, rfl⟩
    rw [hhistory]
    exact List.mem_append_right _ List.mem_cons_self
  · intro h
    obtain ⟨earlier, cmd, deltas, hhistory, hdeltas⟩ := exists_last_snapshot h
    have hne : history t ops ≠ [] := by
      rw [hhistory]
      exact List.append_ne_nil_of_right_ne_nil _ (List.cons_ne_nil _ _)
    refine ⟨earlier, cmd, deltas, hhistory, hdeltas, _, (load_run t ops).trans (if_neg hne), ?_⟩
    rw [hhistory, replay_last_snapshot]
    exact ⟨rfl, rfl⟩

/-! ## What passes -/

/-- The books of the two tokens as their histories make them have two sides each. -/
def BothTwoSided (tokenYes tokenNo : TokenId) : Prop :=
  let yes := replay tokenYes (history tokenYes ops)
  let no := replay tokenNo (history tokenNo ops)
  BookGate.TwoSided yes.bids yes.asks ∧ BookGate.TwoSided no.bids no.asks

theorem history_ne_nil {ops : List StoreOp} (h : (replay t (history t ops)).bids ≠ []) :
    history t ops ≠ [] := by
  intro hnil
  rw [hnil] at h
  exact h rfl

theorem exists_passesGate_iff (tokenYes tokenNo : TokenId) : (∃ nowMs acceptableMs,
      (runStore ops).passesGate tokenYes tokenNo nowMs acceptableMs = true) ↔
      BothTwoSided ops tokenYes tokenNo := by
  unfold BookStore.passesGate BookStore.loadPair
  constructor
  · rintro ⟨nowMs, acceptableMs, hpass⟩
    rw [load_run, load_run] at hpass
    split at hpass
    · cases hpass
    next pair hpair =>
      obtain ⟨hyes, hno, -⟩ := (BookGate.pass_iff pair nowMs acceptableMs).mp hpass
      by_cases hny : history tokenYes ops = []
      · simp [hny] at hpair
      · by_cases hnn : history tokenNo ops = []
        · simp [hny, hnn] at hpair
        · simp only [hny, hnn, if_false, Option.some.injEq] at hpair
          subst hpair
          exact ⟨hyes, hno⟩
  · rintro ⟨hyes, hno⟩
    refine ⟨0, 0, ?_⟩
    rw [load_run, load_run, if_neg (history_ne_nil hyes.hasBids), if_neg (history_ne_nil hno.hasBids)]
    refine (BookGate.pass_iff _ _ _).mpr ⟨hyes, hno, ?_⟩
    simp [EndgameBookPair.maxStalenessMs]

/-- For every sequence of operations and every market: what the gate passes, at whatever time
and threshold, was built from a full book message followed by deltas, exactly if both tokens
have had a full book message since their states were created, or one of the two books has an
empty side or is crossed. -/
theorem passesGate_full_books_iff (ops : List StoreOp) (tokenYes tokenNo : TokenId) :
    (∀ nowMs acceptableMs,
      (runStore ops).passesGate tokenYes tokenNo nowMs acceptableMs = true →
        BuiltFromFullBook ops tokenYes ∧ BuiltFromFullBook ops tokenNo) ↔
    (HasFullBook ops tokenYes ∧ HasFullBook ops tokenNo) ∨
      ¬ BothTwoSided ops tokenYes tokenNo := by
  rw [builtFromFullBook_iff, builtFromFullBook_iff, ← exists_passesGate_iff]
  constructor
  · intro h
    by_cases hpass : ∃ nowMs acceptableMs,
        (runStore ops).passesGate tokenYes tokenNo nowMs acceptableMs = true
    · obtain ⟨nowMs, acceptableMs, hpass⟩ := hpass
      exact .inl (h nowMs acceptableMs hpass)
    · exact .inr hpass
  · rintro (hfull | hnone) nowMs acceptableMs hpass
    · exact hfull
    · exact absurd ⟨nowMs, acceptableMs, hpass⟩ hnone

def quoteDelta (t : TokenId) (bid ask : Price) : StoreOp :=
  .event (.priceDelta
    { assetId := t
      changes := [{ price := bid, size := 10, side := .buy },
        { price := ask, size := 10, side := .sell }]
      timestampMs := 1000 })

/-- One delta for each token, and no full book: the market passes. -/
theorem deltas_alone_pass :
    let ops := [quoteDelta ⟨"yes"⟩ (95 / 100) (96 / 100), quoteDelta ⟨"no"⟩ (4 / 100) (5 / 100)]
    (runStore ops).passesGate ⟨"yes"⟩ ⟨"no"⟩ 1000 0 = true ∧
      ¬ BuiltFromFullBook ops ⟨"yes"⟩ ∧ ¬ BuiltFromFullBook ops ⟨"no"⟩ := by
  intro ops
  rw [builtFromFullBook_iff, builtFromFullBook_iff]
  decide +kernel

end OxideArb
