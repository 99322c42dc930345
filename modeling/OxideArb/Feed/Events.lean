import OxideArb.Book.BookStore

/-!
# Pipeline events and their effect on the book store

Only snapshots and deltas write books, each to that of its own token
(`handleEvent_not_ofToken`).
-/

namespace OxideArb

inductive TickSize
  | tenth
  | hundredth
  | thousandth
  | tenThousandth
deriving DecidableEq, Repr

inductive ShardConnectionStatus
  | connected
  | disconnected
  | reconnecting (attempt : Nat)
deriving DecidableEq, Repr

/-- A change to a price level (`size = 0` means removal). -/
structure PriceLevelDelta where
  price : Price
  size : Shares
  side : Side
deriving DecidableEq, Repr

structure BookSnapshotCmd where
  assetId : TokenId
  bids : List BookLevel
  asks : List BookLevel
  timestampMs : Nat
deriving DecidableEq, Repr

structure PriceDeltaCmd where
  assetId : TokenId
  changes : List PriceLevelDelta
  timestampMs : Nat
deriving DecidableEq, Repr

inductive PipelineEvent
  | bookSnapshot (cmd : BookSnapshotCmd)
  | priceDelta (cmd : PriceDeltaCmd)
  | bestBidAsk (assetId : TokenId) (bestBid bestAsk : Price) (timestampMs : Nat)
  | tickSizeChange (assetId : TokenId) (oldTick newTick : TickSize)
  | lastTradePrice (assetId : TokenId) (price : Price) (timestampMs : Nat)
  | marketResolved (marketId : MarketId) (winningTokenId : TokenId) (winningOutcome : String)
      (assetIds : List TokenId) (timestampMs : Nat)
  | shardStatus (shardId : Nat) (status : ShardConnectionStatus)
deriving DecidableEq, Repr

namespace PipelineEvent

/-- `is_book_coalescable`: the variants that write books. -/
def isBookCoalescable : PipelineEvent → Bool
  | .bookSnapshot _ => true
  | .priceDelta _ => true
  | _ => false

/-- `asset_id`: the token used for sharding and coalescing. -/
def assetId : PipelineEvent → Option TokenId
  | .bookSnapshot cmd => some cmd.assetId
  | .priceDelta cmd => some cmd.assetId
  | .bestBidAsk assetId _ _ _ => some assetId
  | .tickSizeChange assetId _ _ => some assetId
  | .lastTradePrice assetId _ _ => some assetId
  | .marketResolved .. => none
  | .shardStatus .. => none

def ofToken (t : TokenId) (e : PipelineEvent) : Bool :=
  e.isBookCoalescable && e.assetId == some t

end PipelineEvent

variable (store : BookStore)

/-- `handle_event`, as far as it writes books: fact writers, metrics, alerts and
the settlement hand-off leave the store alone. -/
def handleEvent : PipelineEvent → BookStore
  | .bookSnapshot cmd => store.applySnapshot cmd.assetId cmd.bids cmd.asks cmd.timestampMs
  | .priceDelta cmd =>
    store.applyDelta cmd.assetId (cmd.changes.map fun d => (d.side, d.price, d.size))
      cmd.timestampMs
  | _ => store

variable {t : TokenId}

theorem handleEvent_not_ofToken {e : PipelineEvent} (h : e.ofToken t = false) :
    (handleEvent store e).books t = store.books t := by
  cases e with
  | bookSnapshot cmd =>
    refine BookStore.applySnapshot_ne store ?_ _ _ _
    rintro rfl
    simp [PipelineEvent.ofToken, PipelineEvent.isBookCoalescable, PipelineEvent.assetId] at h
  | priceDelta cmd =>
    refine BookStore.applyDelta_ne store ?_ _ _
    rintro rfl
    simp [PipelineEvent.ofToken, PipelineEvent.isBookCoalescable, PipelineEvent.assetId] at h
  | _ => rfl

end OxideArb
