import OxideArb.Book.OrderBook
import Mathlib.Logic.Function.Basic

/-!
# The book store

One book per token. A writer changes the live book and publishes it with a bumped version;
readers load the published snapshot.
-/

namespace OxideArb

structure TokenBookState where
  live : OrderBook
  published : BookSnapshot
  version : Nat
deriving DecidableEq, Repr

structure BookStore where
  books : TokenId → Option TokenBookState

structure TopOfBook where
  yesBestBid : Option Price
  yesBestAsk : Option Price
  noBestBid : Option Price
  noBestAsk : Option Price
  maxStalenessMs : Nat
  yesVersion : Nat
  noVersion : Nat
deriving DecidableEq, Repr

namespace TokenBookState

def fresh (tokenId : TokenId) : TokenBookState :=
  { live := OrderBook.new tokenId
    published := BookSnapshot.new [] [] 0 0
    version := 0 }

def bumpAndPublish (state : TokenBookState) (book : OrderBook) : TokenBookState :=
  { live := book
    published := book.publishCow (state.version + 1)
    version := state.version + 1 }

end TokenBookState

namespace BookStore

def new : BookStore := ⟨fun _ => none⟩

def getOrCreateState (store : BookStore) (tokenId : TokenId) : TokenBookState :=
  (store.books tokenId).getD (TokenBookState.fresh tokenId)

def load (store : BookStore) (tokenId : TokenId) : Option BookSnapshot :=
  (store.books tokenId).map (·.published)

def setState (store : BookStore) (tokenId : TokenId) (state : TokenBookState) : BookStore :=
  ⟨Function.update store.books tokenId (some state)⟩

def applySnapshot (store : BookStore) (tokenId : TokenId) (bids asks : List BookLevel)
    (timestampMs : Nat) : BookStore :=
  let state := store.getOrCreateState tokenId
  store.setState tokenId
    (state.bumpAndPublish (state.live.applySnapshotArc bids asks timestampMs))

def applyDelta (store : BookStore) (tokenId : TokenId) (changes : List (Side × Price × Shares))
    (timestampMs : Nat) : BookStore :=
  let state := store.getOrCreateState tokenId
  store.setState tokenId (state.bumpAndPublish (state.live.applyDeltaCow changes timestampMs))

def topOfBookTokens (store : BookStore) (tokenYes tokenNo : TokenId) (nowMs : Nat) :
    Option TopOfBook :=
  match store.load tokenYes, store.load tokenNo with
  | some yes, some no =>
    some {
      yesBestBid := yes.bestBid
      yesBestAsk := yes.bestAsk
      noBestBid := no.bestBid
      noBestAsk := no.bestAsk
      maxStalenessMs := max (nowMs - yes.timestampMs) (nowMs - no.timestampMs)
      yesVersion := yes.version
      noVersion := no.version }
  | _, _ => none

@[simp] theorem setState_same (store : BookStore) (t : TokenId) (state : TokenBookState) :
    (store.setState t state).books t = some state := by
  simp [setState]

variable {t t' : TokenId} {store store' : BookStore}

theorem setState_ne (store : BookStore) (h : t' ≠ t) (state : TokenBookState) :
    (store.setState t state).books t' = store.books t' := by
  simp [setState, h]

theorem applySnapshot_ne (store : BookStore) (h : t' ≠ t) (bids asks : List BookLevel) (ts : Nat) :
    (store.applySnapshot t bids asks ts).books t' = store.books t' :=
  setState_ne store h _

theorem applyDelta_ne (store : BookStore) (h : t' ≠ t) (changes : List (Side × Price × Shares))
    (ts : Nat) : (store.applyDelta t changes ts).books t' = store.books t' :=
  setState_ne store h _

end BookStore

end OxideArb
