import Mathlib.Algebra.Order.Archimedean.Basic
import Mathlib.Data.NNRat.Defs
import Mathlib.Data.Rat.Floor
import Mathlib.Tactic.Linarith
import OxideArb.Lib.Table
import OxideArb.Lib.Transition
import OxideArb.Types.Basic

/-!
# The coalescer

Token updates wait for the other leg of their market, at most for the coalesce window. The loop
prefers a waiting token to its tick, so the window is kept as long as no tick has to wait.
-/

namespace OxideArb

/-! ## The loop -/

structure PendingMarket where
  marketId : MarketId
  firstSeen : ℚ
  yesUpdated : Bool
  noUpdated : Bool
deriving DecidableEq

/-- What the market registry answers. -/
structure TokenRegistry where
  marketForToken : TokenId → Option MarketId
  tokenPair : MarketId → Option (TokenId × TokenId)

/-- A market put on the scanner's channel, or counted as dropped. -/
structure Emission where
  marketId : MarketId
  time : ℚ
  sent : Bool
deriving DecidableEq

def COALESCE_TICK_MS : ℚ := 10

/-- Times are in milliseconds; `room` is what the scanner's channel takes, `nextTick` the
instant the interval is due. -/
structure Coalescer where
  pending : Table PendingMarket.marketId
  coalesceWindowMs : Nat
  tokenRx : List TokenId
  room : Nat
  emissions : List Emission
  now : ℚ
  nextTick : ℚ

namespace Coalescer

/-- At the start of the loop; the first tick is due at once. -/
def new (coalesceWindowMs : Nat) : Coalescer :=
  { pending := .empty, coalesceWindowMs, tokenRx := [], room := 0, emissions := [], now := 0
    nextTick := 0 }

def emitMarket (s : Coalescer) (marketId : MarketId) : Coalescer :=
  { s with
    room := s.room - 1
    emissions := ⟨marketId, s.now, decide (0 < s.room)⟩ :: s.emissions }

/-- The entry of the market after the update, made now if there was none. -/
def updated (s : Coalescer) (marketId : MarketId) (token : TokenId) (pair : TokenId × TokenId) :
    PendingMarket :=
  let entry := (s.pending.get marketId).getD ⟨marketId, s.now, false, false⟩
  { marketId
    firstSeen := entry.firstSeen
    yesUpdated := entry.yesUpdated || token == pair.1
    noUpdated := entry.noUpdated || token == pair.2 }

def notifyTokenUpdate (registry : TokenRegistry) (s : Coalescer) (token : TokenId) : Coalescer :=
  match registry.marketForToken token with
  | none => s
  | some marketId =>
    match registry.tokenPair marketId with
    | none => s
    | some pair =>
      let entry := s.updated marketId token pair
      if entry.yesUpdated && entry.noUpdated then
        { s with pending := s.pending.without marketId }.emitMarket marketId
      else { s with pending := s.pending.put entry }

def expired (s : Coalescer) (entry : PendingMarket) : Bool :=
  s.coalesceWindowMs ≤ s.now - entry.firstSeen

def flushExpired (s : Coalescer) : Coalescer :=
  ((s.pending.rows.filter s.expired).map PendingMarket.marketId).foldl emitMarket
    { s with pending := s.pending.filter fun entry => !s.expired entry }

/-- When the interval is due after a tick, with `MissedTickBehavior::Skip`: more than five
milliseconds late, it goes on at the next whole period. -/
def nextTimeout (timeout now : ℚ) : ℚ :=
  if timeout + 5 < now then
    now + COALESCE_TICK_MS - COALESCE_TICK_MS * Int.fract ((now - timeout) / COALESCE_TICK_MS)
  else timeout + COALESCE_TICK_MS

/-- One turn of the biased `select!`: a token if there is one, else the tick if it is due. -/
def iterate (registry : TokenRegistry) (s : Coalescer) : Coalescer :=
  match s.tokenRx with
  | token :: rest => { s with tokenRx := rest }.notifyTokenUpdate registry token
  | [] =>
    if s.nextTick ≤ s.now then { s with nextTick := nextTimeout s.nextTick s.now }.flushExpired
    else s

/-- The time since the last turn, with what arrived in it. -/
structure Turn where
  elapsed : ℚ≥0
  arrivals : List TokenId
  room : Nat
  registry : TokenRegistry

/-- The loop wakes up. -/
def wake (s : Coalescer) (t : Turn) : Coalescer :=
  { s with now := s.now + t.elapsed, tokenRx := s.tokenRx ++ t.arrivals, room := t.room }

def turn (s : Coalescer) (t : Turn) : Coalescer := (s.wake t).iterate t.registry

/-! ## What a turn does to the markets that wait -/

/-- Every market that waited still does, since the same instant, or is emitted now. -/
structure Carries (s s' : Coalescer) : Prop where
  now : s'.now = s.now
  window : s'.coalesceWindowMs = s.coalesceWindowMs
  emissions : s.emissions ⊆ s'.emissions
  pending : ∀ p ∈ s.pending.rows,
    (∃ p' ∈ s'.pending.rows, p'.marketId = p.marketId ∧ p'.firstSeen = p.firstSeen) ∨
      ∃ e ∈ s'.emissions, e.marketId = p.marketId ∧ e.time = s.now

theorem Carries.of_pending {s s' : Coalescer} (hnow : s'.now = s.now)
    (hwindow : s'.coalesceWindowMs = s.coalesceWindowMs) (hemissions : s'.emissions = s.emissions)
    (hpending : s'.pending = s.pending) : Carries s s' :=
  ⟨hnow, hwindow, hemissions ▸ List.Subset.refl _, fun p hp =>
    .inl ⟨p, hpending ▸ hp, rfl, rfl⟩⟩

theorem mem_pending_iff (s : Coalescer) {p : PendingMarket} :
    p ∈ s.pending.rows ↔ s.pending.get p.marketId = some p :=
  ⟨fun h => s.pending.get_eq_some_iff.mpr ⟨h, rfl⟩, fun h => (s.pending.get_eq_some_iff.mp h).1⟩

theorem updated_firstSeen {s : Coalescer} {marketId : MarketId} {p : PendingMarket}
    (h : s.pending.get marketId = some p) (token : TokenId) (pair : TokenId × TokenId) :
    (s.updated marketId token pair).firstSeen = p.firstSeen := by
  unfold updated
  rw [h]
  rfl

theorem notifyTokenUpdate_carries (registry : TokenRegistry) (s : Coalescer) (token : TokenId) :
    Carries s (s.notifyTokenUpdate registry token) := by
  unfold notifyTokenUpdate
  split
  · exact .of_pending rfl rfl rfl rfl
  · rename_i marketId hmarket
    split
    · exact .of_pending rfl rfl rfl rfl
    · rename_i pair hpair
      dsimp only
      split
      · refine ⟨rfl, rfl, List.subset_cons_self _ _, fun p hp => ?_⟩
        rw [mem_pending_iff] at hp
        by_cases hsame : p.marketId = marketId
        · exact .inr ⟨_, List.mem_cons_self, hsame.symm, rfl⟩
        · refine .inl ⟨p, ?_, rfl, rfl⟩
          rw [← s.pending.get_without_ne hsame] at hp
          exact ((s.pending.without marketId).get_eq_some_iff.mp hp).1
      · refine ⟨rfl, rfl, List.Subset.refl _, fun p hp => .inl ?_⟩
        rw [mem_pending_iff] at hp
        by_cases hsame : p.marketId = marketId
        · refine ⟨s.updated marketId token pair, List.mem_append_right _ List.mem_cons_self,
            hsame.symm, updated_firstSeen (hsame ▸ hp) token pair⟩
        · refine ⟨p, ?_, rfl, rfl⟩
          have hput := (s.pending.get_put (s.updated marketId token pair) p.marketId).trans
            (if_neg hsame)
          exact ((s.pending.put _).get_eq_some_iff.mp (hput.trans hp)).1

theorem foldl_emitMarket (marketIds : List MarketId) (s : Coalescer) :
    (marketIds.foldl emitMarket s).pending = s.pending ∧
      (marketIds.foldl emitMarket s).now = s.now ∧
      (marketIds.foldl emitMarket s).nextTick = s.nextTick ∧
      (marketIds.foldl emitMarket s).coalesceWindowMs = s.coalesceWindowMs ∧
      s.emissions ⊆ (marketIds.foldl emitMarket s).emissions ∧
      ∀ m ∈ marketIds, ∃ e ∈ (marketIds.foldl emitMarket s).emissions,
        e.marketId = m ∧ e.time = s.now := by
  induction marketIds generalizing s with
  | nil => exact ⟨rfl, rfl, rfl, rfl, List.Subset.refl _, fun _ h => by cases h⟩
  | cons marketId marketIds ih =>
    obtain ⟨hpending, hnow, htick, hwindow, hsubset, hemitted⟩ := ih (s.emitMarket marketId)
    refine ⟨hpending, hnow, htick, hwindow, fun e he => hsubset (List.mem_cons_of_mem _ he),
      fun m hm => ?_⟩
    rcases List.mem_cons.mp hm with rfl | hm
    · exact ⟨_, hsubset List.mem_cons_self, rfl, rfl⟩
    · exact hemitted m hm

theorem flushExpired_carries (s : Coalescer) : Carries s s.flushExpired := by
  obtain ⟨hpending, hnow, -, hwindow, hsubset, hemitted⟩ := foldl_emitMarket
    ((s.pending.rows.filter s.expired).map PendingMarket.marketId)
    { s with pending := s.pending.filter fun entry => !s.expired entry }
  refine ⟨hnow, hwindow, hsubset, fun p hp => ?_⟩
  by_cases hexpired : s.expired p = true
  · exact .inr (hemitted _ (List.mem_map_of_mem (List.mem_filter.mpr ⟨hp, hexpired⟩)))
  · refine .inl ⟨p, ?_, rfl, rfl⟩
    unfold flushExpired
    rw [hpending]
    exact List.mem_filter.mpr ⟨hp, by rw [Bool.eq_false_of_not_eq_true hexpired]; rfl⟩

theorem iterate_carries (registry : TokenRegistry) (s : Coalescer) :
    Carries s (s.iterate registry) := by
  unfold iterate
  split
  · rename_i token rest hnext
    obtain ⟨hnow, hwindow, hsubset, hpending⟩ :=
      notifyTokenUpdate_carries registry { s with tokenRx := rest } token
    exact ⟨hnow, hwindow, hsubset, hpending⟩
  · split
    · obtain ⟨hnow, hwindow, hsubset, hpending⟩ :=
        flushExpired_carries { s with nextTick := nextTimeout s.nextTick s.now }
      exact ⟨hnow, hwindow, hsubset, hpending⟩
    · exact .of_pending rfl rfl rfl rfl

/-! ## The tick and the window -/

/-- No tick that is due waits longer than `slack`. -/
def OnTime (slack : ℚ≥0) (s : Coalescer) (t : Turn) : Prop :=
  s.now + t.elapsed ≤ s.nextTick + slack

instance (slack : ℚ≥0) (s : Coalescer) (t : Turn) : Decidable (OnTime slack s t) :=
  inferInstanceAs (Decidable (_ ≤ _))

/-- A market that waits may do so until `deadline`. -/
def deadline (s : Coalescer) (firstSeen : ℚ) : ℚ :=
  firstSeen + s.coalesceWindowMs + COALESCE_TICK_MS

/-- Whatever waits is within its deadline, and the next tick will be. -/
structure Paced (slack : ℚ≥0) (s : Coalescer) : Prop where
  tick : s.nextTick ≤ s.now + COALESCE_TICK_MS
  seen : ∀ p ∈ s.pending.rows, p.firstSeen ≤ s.now ∧ s.now ≤ s.deadline p.firstSeen + slack
  due : ∀ p ∈ s.pending.rows, s.nextTick ≤ s.deadline p.firstSeen

variable {slack : ℚ≥0} {s : Coalescer} {t : Turn}

theorem paced_new (slack : ℚ≥0) (window : Nat) : (new window).Paced slack :=
  ⟨by norm_num [new, COALESCE_TICK_MS], fun _ h => (by cases h), fun _ h => (by cases h)⟩

theorem nextTimeout_le {timeout now : ℚ} (h : timeout ≤ now) :
    nextTimeout timeout now ≤ now + COALESCE_TICK_MS := by
  unfold nextTimeout
  split
  · have hfract := Int.fract_nonneg ((now - timeout) / COALESCE_TICK_MS)
    have hskipped : 0 ≤ COALESCE_TICK_MS * Int.fract ((now - timeout) / COALESCE_TICK_MS) :=
      mul_nonneg (by norm_num [COALESCE_TICK_MS]) hfract
    linarith
  · linarith

theorem Paced.wake (h : s.Paced slack) (hontime : OnTime slack s t) :
    (s.wake t).Paced slack := by
  have helapsed : (0 : ℚ) ≤ t.elapsed := t.elapsed.2
  refine ⟨h.tick.trans ?_, fun p hp => ⟨(h.seen p hp).1.trans ?_, ?_⟩, h.due⟩
  · exact add_le_add_left (le_add_of_nonneg_right helapsed) _
  · exact le_add_of_nonneg_right helapsed
  · exact le_trans hontime (add_le_add_left (h.due p hp) _)

theorem Paced.notifyTokenUpdate (h : s.Paced slack) (registry : TokenRegistry)
    (token : TokenId) : (s.notifyTokenUpdate registry token).Paced slack := by
  unfold Coalescer.notifyTokenUpdate
  split
  · exact h
  · rename_i marketId hmarket
    split
    · exact h
    · rename_i pair hpair
      dsimp only
      split
      · exact ⟨h.tick, fun p hp => h.seen p (List.mem_of_mem_filter hp),
          fun p hp => h.due p (List.mem_of_mem_filter hp)⟩
      · -- the entry is the one that waited, or was first seen now
        have hentry : ((s.updated marketId token pair).firstSeen ≤ s.now ∧
            s.now ≤ s.deadline (s.updated marketId token pair).firstSeen + slack) ∧
            s.nextTick ≤ s.deadline (s.updated marketId token pair).firstSeen := by
          cases hget : s.pending.get marketId with
          | some p =>
            have hp := (s.pending.get_eq_some_iff.mp hget).1
            rw [updated_firstSeen hget]
            exact ⟨h.seen p hp, h.due p hp⟩
          | none =>
            have hfirst : (s.updated marketId token pair).firstSeen = s.now := by
              unfold updated
              rw [hget]
              rfl
            have htick := h.tick
            have hwindow : (0 : ℚ) ≤ s.coalesceWindowMs := Nat.cast_nonneg _
            have hslack : (0 : ℚ) ≤ slack := slack.2
            have hperiod : (0 : ℚ) ≤ COALESCE_TICK_MS := by norm_num [COALESCE_TICK_MS]
            rw [hfirst]
            unfold deadline
            exact ⟨⟨le_rfl, by linarith⟩, by linarith⟩
        refine ⟨h.tick, fun p hp => ?_, fun p hp => ?_⟩
        · rcases List.mem_append.mp hp with hp | hp
          · exact h.seen p (List.mem_of_mem_filter hp)
          · exact List.mem_singleton.mp hp ▸ hentry.1
        · rcases List.mem_append.mp hp with hp | hp
          · exact h.due p (List.mem_of_mem_filter hp)
          · exact List.mem_singleton.mp hp ▸ hentry.2

theorem flushExpired_paced (hnext : s.nextTick ≤ s.now + COALESCE_TICK_MS)
    (hseen : ∀ p ∈ s.pending.rows, p.firstSeen ≤ s.now ∧
      s.now ≤ s.deadline p.firstSeen + slack) : s.flushExpired.Paced slack := by
  obtain ⟨hpending, hnow, htick, hwindow, -, -⟩ := foldl_emitMarket
    ((s.pending.rows.filter s.expired).map PendingMarket.marketId)
    { s with pending := s.pending.filter fun entry => !s.expired entry }
  unfold Coalescer.flushExpired
  refine ⟨by rw [htick, hnow]; exact hnext, fun p hp => ?_, fun p hp => ?_⟩
  · rw [hpending] at hp
    unfold deadline
    rw [hnow, hwindow]
    exact hseen p (List.mem_of_mem_filter hp)
  · rw [hpending] at hp
    have hage : ¬ (s.coalesceWindowMs : ℚ) ≤ s.now - p.firstSeen := by
      simpa [expired] using (List.mem_filter.mp hp).2
    unfold deadline
    rw [htick, hwindow]
    dsimp only
    linarith

theorem Paced.turn (h : s.Paced slack) (hontime : OnTime slack s t) :
    (s.turn t).Paced slack := by
  have hwake := h.wake hontime
  unfold Coalescer.turn iterate
  split
  · rename_i token rest hnext
    have hrest : { s.wake t with tokenRx := rest }.Paced slack :=
      ⟨hwake.tick, hwake.seen, hwake.due⟩
    exact hrest.notifyTokenUpdate t.registry token
  · split
    · rename_i hdue
      exact flushExpired_paced (nextTimeout_le hdue) hwake.seen
    · exact hwake

/-! ## Bounded response -/

/-- The market waits, and still may, or it was emitted before its deadline. -/
def InTime (slack : ℚ≥0) (marketId : MarketId) (firstSeen : ℚ) (s : Coalescer) : Prop :=
  (s.now ≤ s.deadline firstSeen + slack ∧
      ∃ p ∈ s.pending.rows, p.marketId = marketId ∧ p.firstSeen = firstSeen) ∨
    ∃ e ∈ s.emissions, e.marketId = marketId ∧ firstSeen ≤ e.time ∧
      e.time ≤ s.deadline firstSeen + slack

theorem InTime.turn {marketId : MarketId} {firstSeen : ℚ} (h : InTime slack marketId firstSeen s)
    (hpaced : s.Paced slack) (hontime : OnTime slack s t) :
    InTime slack marketId firstSeen (s.turn t) := by
  have hcarries := iterate_carries t.registry (s.wake t)
  have hwake := hpaced.wake hontime
  have hdeadline : (s.turn t).deadline firstSeen = s.deadline firstSeen := by
    unfold deadline
    rw [show (s.turn t).coalesceWindowMs = s.coalesceWindowMs from hcarries.window]
  unfold InTime
  rw [hdeadline]
  rcases h with ⟨-, p, hp, rfl, rfl⟩ | ⟨e, he, hmarket, hbounds⟩
  · rcases hcarries.pending p hp with ⟨p', hp', hsame⟩ | ⟨e, he, hmarket, htime⟩
    · refine .inl ⟨?_, p', hp', hsame⟩
      rw [show (s.turn t).now = (s.wake t).now from hcarries.now]
      exact (hwake.seen p hp).2
    · exact .inr ⟨e, he, hmarket, htime ▸ hwake.seen p hp⟩
  · exact .inr ⟨e, hcarries.emissions he, hmarket, hbounds⟩

theorem InTime.run {marketId : MarketId} {firstSeen : ℚ} (turns : List Turn) {s : Coalescer}
    (h : InTime slack marketId firstSeen s) (hpaced : s.Paced slack)
    (hontime : Transition.Meets (fun s t => some (s.turn t)) (OnTime slack) s turns) :
    InTime slack marketId firstSeen (turns.foldl Coalescer.turn s) :=
  (Transition.foldl_invariant (fun s => s.Paced slack ∧ InTime slack marketId firstSeen s)
    (fun _ _ hs hok => ⟨hs.1.turn hok, hs.2.turn hs.1 hok⟩) ⟨hpaced, h⟩ hontime).2

/-- An update that is received completes its market or makes it wait. -/
theorem turn_receives {token : TokenId} {marketId : MarketId} {pair : TokenId × TokenId}
    (hnext : (s.tokenRx ++ t.arrivals).head? = some token)
    (hmarket : t.registry.marketForToken token = some marketId)
    (hpair : t.registry.tokenPair marketId = some pair) :
    (∃ e ∈ (s.turn t).emissions, e.marketId = marketId ∧ e.time = (s.turn t).now) ∨
      ∃ p ∈ (s.turn t).pending.rows, p.marketId = marketId := by
  obtain ⟨rest, hrx⟩ := List.head?_eq_some_iff.mp hnext
  have hturn : s.turn t =
      { s.wake t with tokenRx := rest }.notifyTokenUpdate t.registry token := by
    unfold Coalescer.turn iterate
    rw [show (s.wake t).tokenRx = token :: rest from hrx]
  rw [hturn, notifyTokenUpdate, hmarket]
  dsimp only
  rw [hpair]
  dsimp only
  split
  · exact .inl ⟨_, List.mem_cons_self, rfl, rfl⟩
  · exact .inr ⟨_, List.mem_append_right _ List.mem_cons_self, rfl⟩

/-- **As long as no tick waits**, a market of which an update is received is emitted at once or
before the window and a tick have passed since it was first seen. -/
theorem received_inTime (window : Nat) (slack : ℚ≥0) (before after : List Turn) (t : Turn)
    {token : TokenId} {marketId : MarketId} {pair : TokenId × TokenId}
    (hontime : Transition.Meets (fun s t => some (s.turn t)) (OnTime slack) (new window)
      (before ++ t :: after))
    (hnext : ((before.foldl Coalescer.turn (new window)).tokenRx ++ t.arrivals).head? =
      some token)
    (hmarket : t.registry.marketForToken token = some marketId)
    (hpair : t.registry.tokenPair marketId = some pair) :
    let received := (before.foldl Coalescer.turn (new window)).turn t
    (∃ e ∈ received.emissions, e.marketId = marketId ∧ e.time = received.now) ∨
      ∃ firstSeen ≤ received.now,
        InTime slack marketId firstSeen (after.foldl Coalescer.turn received) := by
  intro received
  obtain ⟨hbefore, hok, hafter⟩ := Transition.meets_append.mp hontime
  have hpaced : received.Paced slack :=
    (Transition.foldl_invariant (Paced slack) (fun _ _ hs hok => hs.turn hok)
      (paced_new slack window) hbefore).turn hok
  rcases turn_receives hnext hmarket hpair with hemitted | ⟨p, hp, rfl⟩
  · exact .inl hemitted
  · obtain ⟨hseen, hnow⟩ := hpaced.seen p hp
    have hstart : InTime slack p.marketId p.firstSeen received := .inl ⟨hnow, p, hp, rfl, rfl⟩
    exact .inr ⟨p.firstSeen, hseen, hstart.run after hpaced hafter⟩

/-! ## Starvation -/

def sampleRegistry : TokenRegistry where
  marketForToken := fun _ => some ⟨"m"⟩
  tokenPair := fun _ => some (⟨"yes"⟩, ⟨"no"⟩)

/-- A token of the same leg arrives in every turn. -/
def sampleTurn (elapsed : ℚ≥0) : Turn := ⟨elapsed, [⟨"yes"⟩], 1, sampleRegistry⟩

theorem turn_starves {elapsed : ℚ≥0} (hrx : s.tokenRx = []) {p : PendingMarket}
    (hp : s.pending.get ⟨"m"⟩ = some p) (hno : p.noUpdated = false) :
    (s.turn (sampleTurn elapsed)).tokenRx = [] ∧
      (s.turn (sampleTurn elapsed)).now = s.now + elapsed ∧
      ∃ p', (s.turn (sampleTurn elapsed)).pending.get ⟨"m"⟩ = some p' ∧ p'.noUpdated = false ∧
        p'.firstSeen = p.firstSeen := by
  have hentry : (({ s.wake (sampleTurn elapsed) with tokenRx := [] }.updated ⟨"m"⟩ ⟨"yes"⟩
      (⟨"yes"⟩, ⟨"no"⟩)).noUpdated) = false := by
    unfold updated wake
    dsimp only
    rw [hp, Option.getD_some, hno]
    rfl
  have hturn : s.turn (sampleTurn elapsed) =
      { s.wake (sampleTurn elapsed) with
        tokenRx := []
        pending := s.pending.put ({ s.wake (sampleTurn elapsed) with tokenRx := [] }.updated
          ⟨"m"⟩ ⟨"yes"⟩ (⟨"yes"⟩, ⟨"no"⟩)) } := by
    unfold Coalescer.turn iterate
    rw [show (s.wake (sampleTurn elapsed)).tokenRx = [⟨"yes"⟩] by
      rw [wake, hrx, sampleTurn, List.nil_append]]
    change notifyTokenUpdate sampleRegistry _ _ = _
    unfold notifyTokenUpdate sampleRegistry
    dsimp only
    rw [if_neg (by rw [hentry, Bool.and_false]; exact Bool.false_ne_true)]
    rfl
  rw [hturn]
  refine ⟨rfl, rfl, _, (s.pending.get_put _ _).trans (if_pos rfl), hentry, ?_⟩
  exact @updated_firstSeen { s.wake (sampleTurn elapsed) with tokenRx := [] } _ _ hp _ _

theorem foldl_starves (elapsed : ℚ≥0) (n : Nat) {s : Coalescer} (hrx : s.tokenRx = [])
    {p : PendingMarket} (hp : s.pending.get ⟨"m"⟩ = some p) (hno : p.noUpdated = false) :
    ∃ p' ∈ ((List.replicate n (sampleTurn elapsed)).foldl Coalescer.turn s).pending.rows,
      p'.firstSeen = p.firstSeen ∧
      ((List.replicate n (sampleTurn elapsed)).foldl Coalescer.turn s).now =
        s.now + n * elapsed := by
  induction n generalizing s p with
  | zero => exact ⟨p, (s.pending.get_eq_some_iff.mp hp).1, rfl, by simp⟩
  | succ n ih =>
    obtain ⟨hrx', hnow, p', hp', hno', hseen⟩ := @turn_starves s elapsed hrx p hp hno
    obtain ⟨q, hq, hqseen, hqnow⟩ := ih hrx' hp' hno'
    refine ⟨q, hq, hqseen.trans hseen, hqnow.trans ?_⟩
    rw [hnow]
    push_cast
    ring

/-- However short a turn of the loop is, a dense stream of tokens keeps a market waiting beyond
any bound. -/
theorem waiting_unbounded :
    ¬ ∃ window : Nat, ∃ elapsed : ℚ≥0, 0 < elapsed ∧ ∃ bound : ℚ, ∀ turns : List Turn,
      (∀ t ∈ turns, t.elapsed = elapsed) →
      ∀ p ∈ (turns.foldl Coalescer.turn (new window)).pending.rows,
        (turns.foldl Coalescer.turn (new window)).now ≤ p.firstSeen + bound := by
  rintro ⟨window, elapsed, hpos, bound, h⟩
  have hpos' : (0 : ℚ) < elapsed := NNRat.coe_pos.mpr hpos
  obtain ⟨n, hn⟩ := exists_nat_gt (bound / elapsed)
  have hbound := (div_lt_iff₀ hpos').mp hn
  obtain ⟨p, hp, hseen, hnow⟩ := foldl_starves elapsed n
    (s := (new window).turn (sampleTurn elapsed)) rfl (p := ⟨⟨"m"⟩, 0 + elapsed, true, false⟩) rfl rfl
  have hle := h (sampleTurn elapsed :: List.replicate n (sampleTurn elapsed))
    (fun t ht => by rw [List.eq_of_mem_replicate (n := n + 1) ht]; rfl) p hp
  rw [List.foldl_cons, hnow, hseen] at hle
  change (0 + (elapsed : ℚ)) + n * elapsed ≤ 0 + elapsed + bound at hle
  linarith

def sampleQuiet (elapsed : ℚ≥0) : Turn := ⟨elapsed, [], 1, sampleRegistry⟩

theorem received_inTime_quiet :
    let received := ((new 40).turn (sampleQuiet 0)).turn (sampleTurn 1)
    (∃ e ∈ received.emissions, e.marketId = ⟨"m"⟩ ∧ e.time = received.now) ∨
      ∃ firstSeen ≤ received.now, InTime 0 ⟨"m"⟩ firstSeen
        (([9, 10, 10, 10, 10].map sampleQuiet).foldl Coalescer.turn received) :=
  @received_inTime 40 0 [sampleQuiet 0] ([9, 10, 10, 10, 10].map sampleQuiet) (sampleTurn 1)
    ⟨"yes"⟩ _ _ (by decide +kernel) (by decide +kernel) rfl rfl

end Coalescer

end OxideArb
