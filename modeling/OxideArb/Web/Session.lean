import OxideArb.Lib.Transition
import OxideArb.Web.Rbac

/-!
# What the broadcaster sends to WebSocket sessions

Subscriptions are checked against the policy when they are made; the broadcaster looks at neither
policy, token nor account again. `Keeps` says what a run must not take from an open session.
-/

namespace OxideArb.Web

open Transition

inductive WsChannel
  | systemStatus | systemAlert | riskCircuitBreaker | riskPositionUpdate | marketResolved
  | marketBookUpdate | controlPublished | configActivated | opportunityDetected | tradeFilled
  | tradeSettled | pnlUpdate | materializationRunUpdate
deriving DecidableEq, Repr

inductive ChannelScope
  | global
  | market
deriving DecidableEq, Repr

namespace WsChannel

def resource : WsChannel → ResourceType
  | systemStatus | systemAlert => .system
  | riskCircuitBreaker | riskPositionUpdate => .risk
  | marketResolved | marketBookUpdate => .market
  | controlPublished | materializationRunUpdate => .controlFactor
  | configActivated => .runtimeConfig
  | opportunityDetected => .opportunity
  | tradeFilled | tradeSettled => .trade
  | pnlUpdate => .pnl

def scope : WsChannel → ChannelScope
  | marketBookUpdate => .market
  | _ => .global

def alwaysOn : WsChannel → Bool
  | systemStatus | systemAlert => true
  | _ => false

end WsChannel

structure SubscriptionKey where
  channel : WsChannel
  market : Option MarketId
deriving DecidableEq, Repr

namespace SubscriptionKey

/-- A market is kept for a market-scoped channel only. -/
def new (channel : WsChannel) (market : Option MarketId) : SubscriptionKey where
  channel := channel
  market := match channel.scope with
    | .market => market
    | .global => none

def global (channel : WsChannel) : SubscriptionKey := ⟨channel, none⟩

end SubscriptionKey

inductive ClientCommand
  | subscribe (channel : WsChannel) (marketId : Option MarketId)
  | unsubscribe (channel : WsChannel) (marketId : Option MarketId)
  | sync
  | ping
deriving DecidableEq, Repr

/-- What a command is answered with at once; a snapshot names the resources it covers. -/
inductive Reply
  | forbidden (channel : WsChannel)
  | snapshot (sections : List ResourceType)
  | pong
deriving DecidableEq, Repr

structure Session where
  id : Nat
  claims : Claims
  subscriptions : Finset SubscriptionKey
  pending : Option SubscriptionKey

structure Hub where
  web : WebState
  now : DateTime
  /-- The claims of upgrades that passed the token checks, before their session registers. -/
  handshakes : List Claims
  sessions : List Session
  nextId : Nat

namespace Hub

def canRead (h : Hub) (session : Session) (resource : ResourceType) : Bool :=
  h.web.enforcer.enforce session.claims.sub resource .read

def snapshotSections : List ResourceType :=
  [.system, .risk, .pnl, .opportunity, .controlFactor]

def handleCommand (h : Hub) (session : Session) : ClientCommand → Session × Option Reply
  | .subscribe channel marketId =>
    if h.canRead session channel.resource then
      ({ session with pending := some (.new channel marketId) }, none)
    else (session, some (.forbidden channel))
  | .unsubscribe channel marketId =>
    ({ session with subscriptions := session.subscriptions.erase (.new channel marketId) }, none)
  | .sync => (session, some (.snapshot (snapshotSections.filter (h.canRead session))))
  | .ping => (session, some .pong)

def fanout (h : Hub) (key : SubscriptionKey) : List Session :=
  h.sessions.filter fun session => key ∈ session.subscriptions

def fanoutChannel (h : Hub) (channel : WsChannel) : List Session :=
  if channel.alwaysOn then h.sessions else h.fanout (.global channel)

end Hub

inductive HubStep
  | tick (elapsed : Nat)
  | web (step : WebStep)
  | upgrade (token : Option Claims) (decodedAt : DateTime) (reachable : Bool)
  | register (index : Nat)
  | command (id : Nat) (command : ClientCommand)
  | subscribed (id : Nat)
  | disconnect (id : Nat)

namespace Hub

variable (jwt : JwtService)

def updateSession (h : Hub) (id : Nat) (f : Session → Session) : Hub :=
  { h with sessions := h.sessions.map fun session => if session.id = id then f session else session }

def step (h : Hub) : HubStep → Hub
  | .tick elapsed => { h with now := h.now + elapsed }
  | .web step => { h with web := h.web.step step }
  | .upgrade token decodedAt reachable =>
    match jwt.accept h.web.blacklist token .access decodedAt h.now reachable with
    | .ok claims => { h with handshakes := h.handshakes ++ [claims] }
    | .error _ => h
  | .register index =>
    match h.handshakes[index]? with
    | none => h
    | some claims =>
      { h with
        handshakes := h.handshakes.eraseIdx index
        sessions := h.sessions ++ [⟨h.nextId, claims, ∅, none⟩]
        nextId := h.nextId + 1 }
  | .command id command =>
    h.updateSession id fun session =>
      -- the loop takes the next message when it is done with the last one
      match session.pending with
      | none => (h.handleCommand session command).1
      | some _ => session
  | .subscribed id =>
    h.updateSession id fun session =>
      match session.pending with
      | none => session
      | some key =>
        { session with subscriptions := insert key session.subscriptions, pending := none }
  | .disconnect id => { h with sessions := h.sessions.filter (·.id ≠ id) }

variable (web : WebState) (now : DateTime)

/-- The user of the token may read the resource: by the policy, with a token that is not
revoked and an active account. -/
def MayRead (claims : Claims) (resource : ResourceType) : Prop :=
  web.enforcer.enforce claims.sub resource .read = true ∧
    web.blacklist.isRevoked claims.jti now = false ∧
    (web.db.users.get ⟨claims.sub⟩).any (·.status = .active) = true

def Receives (session : Session) (channel : WsChannel) : Prop :=
  channel.alwaysOn = true ∨ SubscriptionKey.global channel ∈ session.subscriptions

/-- Whatever event comes next, its frame is offered only to users who may read its channel. -/
def Authorized (h : Hub) : Prop :=
  ∀ channel, ∀ session ∈ h.fanoutChannel channel, MayRead h.web h.now session.claims channel.resource

/-- The step withdraws no permission that an open session uses. -/
def Keeps (h : Hub) : HubStep → Prop
  | .web step => ∀ session ∈ h.sessions, ∀ channel, Receives session channel →
      MayRead (h.web.step step) h.now session.claims channel.resource
  | .register index => ∀ claims, h.handshakes[index]? = some claims →
      MayRead h.web h.now claims .system
  | .subscribed id => ∀ session ∈ h.sessions, session.id = id → ∀ channel,
      session.pending = some (.global channel) → MayRead h.web h.now session.claims channel.resource
  | _ => True

variable {h : Hub}

theorem mem_fanoutChannel {channel : WsChannel} {session : Session} :
    session ∈ h.fanoutChannel channel ↔ session ∈ h.sessions ∧ Receives session channel := by
  unfold fanoutChannel fanout Receives
  split
  next hon => exact (and_iff_left (.inl hon)).symm
  next hon =>
    rw [List.mem_filter, decide_eq_true_eq]
    exact and_congr_right fun _ => (or_iff_right hon).symm

theorem authorized_iff :
    h.Authorized ↔ ∀ session ∈ h.sessions, ∀ channel, Receives session channel →
      MayRead h.web h.now session.claims channel.resource := by
  unfold Authorized
  simp only [mem_fanoutChannel]
  exact ⟨fun ha session hs channel hr => ha channel session ⟨hs, hr⟩,
    fun ha channel session ⟨hs, hr⟩ => ha session hs channel hr⟩

theorem isRevoked_of_le {b : Blacklist} {jti : String} {now later : DateTime} (hle : now ≤ later)
    (h : b.isRevoked jti now = false) : b.isRevoked jti later = false := by
  unfold Blacklist.isRevoked at *
  cases hentry : b jti with
  | none => rfl
  | some expires =>
    simp only [hentry, decide_eq_false_iff_not, not_lt] at h ⊢
    exact h.trans hle

theorem authorized_tick (ha : h.Authorized) (elapsed : Nat) :
    (h.step jwt (.tick elapsed)).Authorized := by
  rw [authorized_iff] at *
  intro session hs channel hr
  obtain ⟨hpolicy, htoken, haccount⟩ := ha session hs channel hr
  exact ⟨hpolicy, isRevoked_of_le (Int.le_add_of_nonneg_right (Int.natCast_nonneg elapsed)) htoken,
    haccount⟩

theorem authorized_of_sessions {h' : Hub} (ha : h.Authorized) (hweb : h'.web = h.web)
    (hnow : h'.now = h.now)
    (hsessions : ∀ session' ∈ h'.sessions, ∃ session ∈ h.sessions,
      session'.claims = session.claims ∧ session'.subscriptions ⊆ session.subscriptions) :
    h'.Authorized := by
  rw [authorized_iff] at *
  intro session' hs' channel hr
  obtain ⟨session, hs, hclaims, hsub⟩ := hsessions session' hs'
  rw [hweb, hnow, hclaims]
  exact ha session hs channel (hr.imp_right fun hin => hsub hin)

theorem authorized_register (ha : h.Authorized) (index : Nat) :
    (h.step jwt (.register index)).Authorized ↔ h.Keeps (.register index) := by
  cases hget : h.handshakes[index]? with
  | none =>
    simp only [step, Keeps, hget]
    exact iff_of_true ha nofun
  | some claims =>
    simp only [step, Keeps, hget, Option.some.injEq, forall_eq']
    rw [authorized_iff] at *
    constructor
    · intro hall
      exact hall _ (List.mem_append_right _ (List.mem_singleton.mpr rfl)) .systemStatus (.inl rfl)
    · intro hsystem session hs channel hr
      rcases List.mem_append.mp hs with hs | hs
      · exact ha session hs channel hr
      · cases List.mem_singleton.mp hs
        rcases hr with hon | hin
        · cases channel with
          | systemStatus => exact hsystem
          | systemAlert => exact hsystem
          | _ => cases hon
        · exact absurd hin (Finset.notMem_empty _)

theorem mem_updateSession {id : Nat} {f : Session → Session} {session' : Session}
    (hs : session' ∈ (h.updateSession id f).sessions) :
    ∃ session ∈ h.sessions, session.id = id ∧ session' = f session ∨ session' = session := by
  obtain ⟨session, hmem, rfl⟩ := List.mem_map.mp hs
  refine ⟨session, hmem, ?_⟩
  split
  next hid => exact .inl ⟨hid, rfl⟩
  next => exact .inr rfl

theorem authorized_command (ha : h.Authorized) (id : Nat) (command : ClientCommand) :
    (h.step jwt (.command id command)).Authorized := by
  refine authorized_of_sessions ha rfl rfl fun session' hs' => ?_
  obtain ⟨session, hs, ⟨-, rfl⟩ | rfl⟩ := mem_updateSession hs'
  · refine ⟨session, hs, ?_⟩
    split
    · cases command with
      | subscribe channel marketId =>
        simp only [handleCommand]
        split <;> exact ⟨rfl, Finset.Subset.refl _⟩
      | unsubscribe channel marketId => exact ⟨rfl, Finset.erase_subset _ _⟩
      | sync => exact ⟨rfl, Finset.Subset.refl _⟩
      | ping => exact ⟨rfl, Finset.Subset.refl _⟩
    · exact ⟨rfl, Finset.Subset.refl _⟩
  · exact ⟨_, hs, rfl, Finset.Subset.refl _⟩

theorem authorized_subscribed (ha : h.Authorized) (id : Nat) :
    (h.step jwt (.subscribed id)).Authorized ↔ h.Keeps (.subscribed id) := by
  constructor
  · intro hall session hs hid channel hpending
    rw [authorized_iff] at hall
    refine hall { session with
      subscriptions := insert (.global channel) session.subscriptions, pending := none }
      (List.mem_map.mpr ⟨session, hs, ?_⟩) channel (.inr (Finset.mem_insert_self _ _))
    simp only [if_pos hid, hpending]
  · intro hkeeps
    rw [authorized_iff] at ha ⊢
    intro session' hs' channel hr
    obtain ⟨session, hs, ⟨hid, rfl⟩ | rfl⟩ := mem_updateSession hs'
    · cases hpending : session.pending with
      | none =>
        simp only [hpending] at hr ⊢
        exact ha session hs channel hr
      | some key =>
        simp only [hpending] at hr ⊢
        rcases hr with hon | hin
        · exact ha session hs channel (.inl hon)
        · rcases Finset.mem_insert.mp hin with rfl | hin
          · exact hkeeps session hs hid channel hpending
          · exact ha session hs channel (.inr hin)
    · exact ha _ hs channel hr

theorem authorized_step_iff (ha : h.Authorized) (step : HubStep) :
    (h.step jwt step).Authorized ↔ h.Keeps step := by
  cases step with
  | tick elapsed => exact iff_of_true (authorized_tick jwt ha elapsed) trivial
  | web step => exact authorized_iff
  | upgrade token decodedAt reachable =>
    refine iff_of_true ?_ trivial
    simp only [Hub.step]
    split
    · exact authorized_of_sessions ha rfl rfl fun session hs =>
        ⟨session, hs, rfl, Finset.Subset.refl _⟩
    · exact ha
  | register index => exact authorized_register jwt ha index
  | command id command => exact iff_of_true (authorized_command jwt ha id command) trivial
  | subscribed id => exact authorized_subscribed jwt ha id
  | disconnect id =>
    refine iff_of_true (authorized_of_sessions ha rfl rfl fun session hs => ?_) trivial
    exact ⟨session, List.mem_of_mem_filter hs, rfl, Finset.Subset.refl _⟩

def start : Hub where
  web := web
  now := now
  handshakes := []
  sessions := []
  nextId := 0

theorem authorized_start : (start web now).Authorized :=
  authorized_iff.mpr fun _ hs => absurd hs List.not_mem_nil

/-- **Frames are offered to authorized users throughout a run exactly when every step of the
run keeps what the open sessions use.** -/
theorem frames_authorized_iff (web : WebState) (now : DateTime) (steps : List HubStep) :
    Along (step jwt) Authorized (start web now) steps ↔
      Meets (fun h i => some (h.step jwt i)) Keeps (start web now) steps :=
  along_iff_meets Authorized (fun _ ha => ha)
    (fun _ i ha hkeeps => (authorized_step_iff jwt ha i).mpr hkeeps)
    (fun _ i ha hno hall => hno ((authorized_step_iff jwt ha i).mp hall))
    (authorized_start web now)

end Hub

/-! ## A session that outlives its permission -/

def watcherSetup : List WebStep :=
  [.transaction (.createUser ⟨⟨"user-1"⟩, "tester", .active⟩) true,
    .transaction (.createRole ⟨"role-1"⟩ "watcher") true,
    .transaction (.setPermissions ⟨"role-1"⟩ [(.pnl, .read)]) true,
    .transaction (.setRoles ⟨"user-1"⟩ [⟨"role-1"⟩]) true, .reload true]

def watcherHub : Hub :=
  .start (watcherSetup.foldl WebState.step ⟨.empty, ⟨∅, ∅⟩, fun _ => none⟩) (secondStart 10)

def watching : List HubStep :=
  [.upgrade (some session) (secondStart 10) true, .register 0,
    .command 0 (.subscribe .pnlUpdate none), .subscribed 0]

def roleTaken : List HubStep :=
  [.web (.transaction (.setRoles ⟨"user-1"⟩ []) true), .web (.reload true)]

def Hub.readers (h : Hub) (channel : WsChannel) : List (String × Bool) :=
  (h.fanoutChannel channel).map fun session =>
    (session.claims.sub, h.canRead session channel.resource)

/-- Frames of the system channels go to a user who never could read them, and frames of a
subscribed channel to one who no longer may. -/
theorem unauthorized_frames :
    (watching.foldl (Hub.step sessionJwt) watcherHub).readers .systemStatus =
      [("user-1", false)] ∧
    (watching.foldl (Hub.step sessionJwt) watcherHub).readers .pnlUpdate = [("user-1", true)] ∧
    ((watching ++ roleTaken).foldl (Hub.step sessionJwt) watcherHub).readers .pnlUpdate =
      [("user-1", false)] := by
  decide +kernel

end OxideArb.Web
