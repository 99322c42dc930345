import Mathlib.Data.Finset.Option
import Mathlib.Data.Finset.Union
import OxideArb.Web.Session

/-!
# Fan-out of events to the subscribed sessions

An event is mapped to a subscription key; the broadcaster looks for the key's channel without its
market. The book-update coalescer emits updates for the markets that some session watches.
-/

namespace OxideArb.Web

inductive EventKind
  | opportunityDetected | tradeFilled | tradeSettled | pnlUpdate | systemStatusChanged
  | circuitBreakerChanged | positionChanged
  | marketBookUpdate (marketId : MarketId)
  | marketResolved (marketId : MarketId)
  | controlPublished | configActivated | alert | materializationRunUpdated
deriving DecidableEq, Repr

/-- An event with its payload in serialized form, which is absent when serialization fails. -/
structure CoreEvent (Data : Type) where
  kind : EventKind
  data : Option Data
deriving DecidableEq, Repr

structure WsEnvelope (Data : Type) where
  kind : WsChannel
  timestamp : DateTime
  data : Data
deriving DecidableEq, Repr

/-- The channel of an event and its market scope; a resolved market rides in the payload. -/
def EventKind.target : EventKind → WsChannel × Option MarketId
  | .systemStatusChanged => (.systemStatus, none)
  | .alert => (.systemAlert, none)
  | .circuitBreakerChanged => (.riskCircuitBreaker, none)
  | .positionChanged => (.riskPositionUpdate, none)
  | .marketResolved _ => (.marketResolved, none)
  | .marketBookUpdate marketId => (.marketBookUpdate, some marketId)
  | .controlPublished => (.controlPublished, none)
  | .configActivated => (.configActivated, none)
  | .opportunityDetected => (.opportunityDetected, none)
  | .tradeFilled => (.tradeFilled, none)
  | .tradeSettled => (.tradeSettled, none)
  | .pnlUpdate => (.pnlUpdate, none)
  | .materializationRunUpdated => (.materializationRunUpdate, none)

variable {Data : Type}

def eventEnvelope (now : DateTime) (event : CoreEvent Data) :
    Option (SubscriptionKey × WsEnvelope Data) :=
  event.data.map fun data =>
    let (channel, market) := event.kind.target
    (.new channel market, { kind := channel, timestamp := now, data })

def SubscriptionKey.scoped (channel : WsChannel) (market : MarketId) : SubscriptionKey :=
  ⟨channel, some market⟩

structure SessionHandle (Data : Type) where
  outbound : List (WsEnvelope Data)
  capacity : Nat
  subscriptions : Finset SubscriptionKey
deriving DecidableEq

namespace SessionHandle

def receive (handle : SessionHandle Data) (frame : WsEnvelope Data) : SessionHandle Data :=
  { handle with outbound := handle.outbound ++ [frame] }

/-- `outbound.try_send`, which drops the frame when the queue is full. -/
def trySend (handle : SessionHandle Data) (frame : WsEnvelope Data) : SessionHandle Data :=
  if handle.outbound.length < handle.capacity then handle.receive frame else handle

def bookMarkets (handle : SessionHandle Data) : Finset MarketId :=
  (handle.subscriptions.filter (·.channel = .marketBookUpdate)).biUnion (·.market.toFinset)

end SessionHandle

abbrev SessionRegistry (Data : Type) := List (SessionHandle Data)

namespace SessionRegistry

variable (registry : SessionRegistry Data)

def fanout (key : SubscriptionKey) (frame : WsEnvelope Data) : SessionRegistry Data :=
  registry.map fun handle =>
    if key ∈ handle.subscriptions then handle.trySend frame else handle

def fanoutChannel (channel : WsChannel) (frame : WsEnvelope Data) : SessionRegistry Data :=
  if channel.alwaysOn then registry.map (·.trySend frame)
  else fanout registry (.global channel) frame

/-- One turn of `spawn_ws_broadcaster`. -/
def broadcast (now : DateTime) (event : CoreEvent Data) : SessionRegistry Data :=
  match eventEnvelope now event with
  | none => registry
  | some (key, frame) => fanoutChannel registry key.channel frame

def subscribedMarkets : Finset MarketId :=
  registry.foldr (fun handle markets => handle.bookMarkets ∪ markets) ∅

/-- The frame goes to the sessions that hold the event's own key, and on an always-on channel to
all. -/
def Delivers (now : DateTime) (event : CoreEvent Data) : Prop :=
  ∀ key frame, eventEnvelope now event = some (key, frame) →
    broadcast registry now event = registry.map fun handle =>
      if key ∈ handle.subscriptions ∨ key.channel.alwaysOn then handle.receive frame else handle

end SessionRegistry

/-! ## The book-update coalescer -/

/-- What the coalescer reads: the tokens of a market, the version of a token's book (zero when
there is none) and the view it publishes. -/
structure BookFeed (Data : Type) where
  tokenPair : MarketId → Option (TokenId × TokenId)
  bookVersion : TokenId → Nat
  view : MarketId → TokenId → TokenId → Data

abbrev LastVersions := MarketId → Option (Nat × Nat)

namespace BookFeed

variable (feed : BookFeed Data)

/-- The versions of a watched market's two books, when they are to be sent. -/
def changed (last : LastVersions) (market : MarketId) :
    Option ((TokenId × TokenId) × (Nat × Nat)) :=
  match feed.tokenPair market with
  | none => none
  | some (yes, no) =>
    let versions := (feed.bookVersion yes, feed.bookVersion no)
    if versions = (0, 0) ∨ last market = some versions then none else some ((yes, no), versions)

/-- One pass over the watched markets, in the order in which the set is iterated. -/
def tick (last : LastVersions) (watched : List MarketId) :
    List (CoreEvent Data) × LastVersions :=
  let last : LastVersions := fun market => if market ∈ watched then last market else none
  (watched.filterMap fun market => (feed.changed last market).map fun (tokens, _) =>
      { kind := .marketBookUpdate market, data := some (feed.view market tokens.1 tokens.2) },
    fun market =>
      if market ∈ watched then ((feed.changed last market).map (·.2)).or (last market) else none)

end BookFeed

/-! ## Who gets a frame -/

theorem SessionHandle.receive_ne (handle : SessionHandle Data) (frame : WsEnvelope Data) :
    handle.receive frame ≠ handle := by
  intro h
  have hlength := congrArg (·.outbound.length) h
  simp [receive] at hlength

theorem ite_eq_ite_iff {α : Type} {p q : Prop} [Decidable p] [Decidable q] {x y : α} (h : x ≠ y) :
    (if p then x else y) = (if q then x else y) ↔ (p ↔ q) := by
  by_cases hp : p <;> by_cases hq : q <;> simp [hp, hq, h, h.symm]

namespace SessionRegistry

variable {registry : SessionRegistry Data} {now : DateTime} {event : CoreEvent Data}

theorem broadcast_eq {key : SubscriptionKey} {frame : WsEnvelope Data}
    (hroom : ∀ handle ∈ registry, handle.outbound.length < handle.capacity)
    (h : eventEnvelope now event = some (key, frame)) :
    broadcast registry now event = registry.map fun handle =>
      if SubscriptionKey.global key.channel ∈ handle.subscriptions ∨ key.channel.alwaysOn then
        handle.receive frame
      else handle := by
  have hsend : ∀ handle ∈ registry, handle.trySend frame = handle.receive frame :=
    fun handle hmem => if_pos (hroom handle hmem)
  unfold broadcast
  rw [h]
  simp only [fanoutChannel, fanout]
  split
  next hon =>
    refine List.map_congr_left fun handle hmem => ?_
    rw [hsend handle hmem, if_pos (.inr hon)]
  next hon =>
    refine List.map_congr_left fun handle hmem => ?_
    rw [hsend handle hmem]
    exact if_congr (or_iff_left hon).symm rfl rfl

theorem delivers_iff {data : Data} (hdata : event.data = some data)
    (hroom : ∀ handle ∈ registry, handle.outbound.length < handle.capacity) :
    Delivers registry now event ↔ ∀ handle ∈ registry,
      (SubscriptionKey.global event.kind.target.1 ∈ handle.subscriptions ∨
          event.kind.target.1.alwaysOn ↔
        SubscriptionKey.new event.kind.target.1 event.kind.target.2 ∈ handle.subscriptions ∨
          event.kind.target.1.alwaysOn) := by
  have henvelope : eventEnvelope now event =
      some (.new event.kind.target.1 event.kind.target.2,
        { kind := event.kind.target.1, timestamp := now, data }) := by
    rw [eventEnvelope, hdata]
    rfl
  have hone : Delivers registry now event ↔
      broadcast registry now event = registry.map fun handle =>
      if SubscriptionKey.new event.kind.target.1 event.kind.target.2 ∈ handle.subscriptions ∨
          event.kind.target.1.alwaysOn then
        handle.receive { kind := event.kind.target.1, timestamp := now, data }
      else handle := by
    refine ⟨fun h => h _ _ henvelope, fun h key frame heq => ?_⟩
    cases henvelope.symm.trans heq
    exact h
  rw [hone, broadcast_eq hroom henvelope, List.map_inj_left]
  exact forall₂_congr fun handle _ => ite_eq_ite_iff (SessionHandle.receive_ne handle _)

/-- With room in every queue, an event reaches the sessions that hold its key (all of them on an
always-on channel) exactly when it is no book update, or every session holds the update's key
exactly when it holds the channel's key without a market. -/
theorem broadcast_delivers_iff
    (hroom : ∀ handle ∈ registry, handle.outbound.length < handle.capacity)
    (hdata : event.data.isSome) :
    Delivers registry now event ↔
      ∀ market, event.kind = .marketBookUpdate market → ∀ handle ∈ registry,
        (SubscriptionKey.scoped .marketBookUpdate market ∈ handle.subscriptions ↔
          SubscriptionKey.global .marketBookUpdate ∈ handle.subscriptions) := by
  obtain ⟨data, hdata⟩ := Option.isSome_iff_exists.mp hdata
  rw [delivers_iff hdata hroom]
  cases hkind : event.kind with
  | marketBookUpdate market =>
    simp only [EventKind.marketBookUpdate.injEq, forall_eq']
    refine forall₂_congr fun handle _ => ?_
    change (SubscriptionKey.global .marketBookUpdate ∈ handle.subscriptions ∨ false = true ↔
      SubscriptionKey.scoped .marketBookUpdate market ∈ handle.subscriptions ∨ false = true) ↔ _
    rw [or_iff_left (by simp), or_iff_left (by simp)]
    exact iff_comm
  | _ => exact iff_of_true (fun _ _ => Iff.rfl) (fun _ h => by cases h)

/-! A session watches one market, another one the whole channel. -/

def watchesMarket : SessionHandle Unit :=
  { outbound := [], capacity := 8
    subscriptions := {.new .marketBookUpdate (some ⟨"m1"⟩), .new .pnlUpdate none} }

def watchesChannel : SessionHandle Unit :=
  { outbound := [], capacity := 8, subscriptions := {.new .marketBookUpdate none} }

theorem pnl_update_delivered :
    Delivers [watchesMarket, watchesChannel] 0 { kind := .pnlUpdate, data := some () } :=
  (broadcast_delivers_iff (by decide) rfl).mpr fun _ h => by cases h

def sampleFeed : BookFeed Unit :=
  { tokenPair := fun m => some (⟨m.raw ++ "-yes"⟩, ⟨m.raw ++ "-no"⟩), bookVersion := fun _ => 1
    view := fun _ _ _ => () }

/-- The coalescer emits the update of a watched market; the session that watches the market does
not get it, a session that watches no market does. -/
theorem book_update_misses_its_market :
    subscribedMarkets [watchesMarket, watchesChannel] = {⟨"m1"⟩} ∧
    (sampleFeed.tick (fun _ => none) [⟨"m1"⟩]).1 =
      [{ kind := .marketBookUpdate ⟨"m1"⟩, data := some () }] ∧
    broadcast [watchesMarket, watchesChannel] 0
        { kind := .marketBookUpdate ⟨"m1"⟩, data := some () } =
      [watchesMarket,
        watchesChannel.receive { kind := .marketBookUpdate, timestamp := 0, data := () }] ∧
    ¬ Delivers [watchesMarket, watchesChannel] 0
        { kind := .marketBookUpdate ⟨"m1"⟩, data := some () } := by
  refine ⟨by decide, by decide, by decide, fun h => ?_⟩
  have heq := h _ _ rfl
  revert heq
  decide

end SessionRegistry

end OxideArb.Web
