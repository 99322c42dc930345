import OxideArb.Types.Micro
import OxideArb.Lib.SortedSearch
import Mathlib.Data.List.Induction

/-!
# The single-token order book

`OrderBook` is the writer-side book of one token. A delta files every change under a side and
merges level by level.
-/

namespace OxideArb

open SortedSearch

structure BookLevel where
  price : MicroPrice
  size : MicroShares
deriving DecidableEq, Repr

namespace BookLevel

/-- `from_decimal`: the price must lie in `(0, 1]`, both values must fit. -/
def fromDecimal (price : Price) (size : Shares) : Option BookLevel :=
  if price ≤ 0 ∨ 1 < price then none
  else
    match Micro.tryFromDecimal price, Micro.tryFromDecimal size with
    | some p, some s => some ⟨p, s⟩
    | _, _ => none

variable (level : BookLevel)

def priceDecimal : Price := Micro.toDecimal level.price

def depthUsd : MicroUsd := MicroPrice.mulShares level.price level.size

end BookLevel

def totalDepthUsd (levels : List BookLevel) : MicroUsd :=
  levels.foldl (fun acc l => MicroUsd.satAdd acc l.depthUsd) 0

structure BookSnapshot where
  bids : List BookLevel
  asks : List BookLevel
  timestampMs : Nat
  version : Nat
  totalAskDepthUsd : MicroUsd
  totalBidDepthUsd : MicroUsd
deriving DecidableEq, Repr

namespace BookSnapshot

def new (bids asks : List BookLevel) (timestampMs version : Nat) : BookSnapshot :=
  { bids, asks, timestampMs, version
    totalAskDepthUsd := totalDepthUsd asks
    totalBidDepthUsd := totalDepthUsd bids }

def bestBid (snap : BookSnapshot) : Option Price := snap.bids.head?.map (·.priceDecimal)

def bestAsk (snap : BookSnapshot) : Option Price := snap.asks.head?.map (·.priceDecimal)

end BookSnapshot

structure OrderBook where
  bids : List BookLevel
  asks : List BookLevel
  lastUpdateMs : Nat
  tokenId : TokenId
deriving DecidableEq, Repr

def probeLevel (descending : Bool) (price : MicroPrice) (probe : BookLevel) : Ordering :=
  if descending then (compare probe.price price).swap else compare probe.price price

def findLevel (levels : List BookLevel) (price : MicroPrice) (descending : Bool) : Search :=
  binarySearchBy (probeLevel descending price) levels

def holdsLevel (levels : List BookLevel) (price : MicroPrice) (descending : Bool) : Bool :=
  match findLevel levels price descending with
  | .found _ => true
  | .missing _ => false

/-- `apply_level_delta`: update, remove or insert one level. -/
def applyLevelDelta (descending : Bool) (levels : List BookLevel) (level : BookLevel) :
    List BookLevel :=
  match findLevel levels level.price descending with
  | .found idx =>
    if 0 < level.size then levels.modify idx fun l => { l with size := level.size }
    else levels.eraseIdx idx
  | .missing idx =>
    if 0 < level.size then levels.insertIdx idx level
    else levels

/-- `apply_side_deltas`. The copy-on-write of the source is not visible here:
lists are values. -/
def applySideDeltas (side : List BookLevel) (changes : List BookLevel) (descending : Bool) :
    List BookLevel :=
  if changes.isEmpty then side
  else changes.foldl (applyLevelDelta descending) side

namespace OrderBook

def new (tokenId : TokenId) : OrderBook :=
  { bids := [], asks := [], lastUpdateMs := 0, tokenId }

variable (book : OrderBook)

def bestBid : Option Price := book.bids.head?.map (·.priceDecimal)

def bestAsk : Option Price := book.asks.head?.map (·.priceDecimal)

def applySnapshotArc (bids asks : List BookLevel) (timestampMs : Nat) : OrderBook :=
  { book with bids, asks, lastUpdateMs := timestampMs }

def shouldPlaceOnBids (price : Price) : Bool :=
  match book.bestBid, book.bestAsk with
  | some bid, some ask => price < (bid + ask) / 2
  | some bid, none => price ≤ bid
  | none, some ask => price < ask
  | none, none => true

/-- The side `apply_delta_cow` files a change under, if any. A change lands on a
side it names or on which its price is already held; bids win over asks. -/
def placeChange (side : Side) (price : Price) (level : BookLevel) : Option Side :=
  let onBids := side == .buy || holdsLevel book.bids level.price true
  let onAsks := side == .sell || holdsLevel book.asks level.price false
  if onBids && !onAsks then some .buy
  else if onAsks && !onBids then some .sell
  else if onBids then some .buy
  else if onAsks then some .sell
  else if 0 < level.size then
    if side == .buy || book.shouldPlaceOnBids price then some .buy else some .sell
  else none

def fileChange (acc : List BookLevel × List BookLevel) (change : Side × Price × Shares) :
    List BookLevel × List BookLevel :=
  match BookLevel.fromDecimal change.2.1 change.2.2 with
  | none => acc
  | some level =>
    match book.placeChange change.1 change.2.1 level with
    | some .buy => (acc.1 ++ [level], acc.2)
    | some .sell => (acc.1, acc.2 ++ [level])
    | none => acc

def applyDeltaCow (changes : List (Side × Price × Shares)) (timestampMs : Nat) : OrderBook :=
  let filed := changes.foldl book.fileChange ([], [])
  { book with
    bids := applySideDeltas book.bids filed.1 true
    asks := applySideDeltas book.asks filed.2 false
    lastUpdateMs := timestampMs }

def publishCow (version : Nat) : BookSnapshot :=
  BookSnapshot.new book.bids book.asks book.lastUpdateMs version

end OrderBook

end OxideArb
