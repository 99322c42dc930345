import OxideArb.Lib.Bloom
import OxideArb.Lib.Lists
import OxideArb.Lib.Transition
import OxideArb.Risk.Checks

/-!
# The blacklist

The manager answers from its map; the hot path asks a compiled snapshot, a Bloom filter in front
of two lists. Loading overwrites an entry that is there; merging the configuration leaves it, also
one that expires.
-/

namespace OxideArb.Risk

/-! ## Reading the manager -/

inductive BlacklistCheckResult
  | clear
  | blocked (reason : BlacklistReason) (scope : BlacklistScope) (expiresAt : Option DateTime)
deriving DecidableEq, Repr

def blockText (reason : BlacklistReason) (scope : BlacklistScope) : String :=
  reason.asStr ++ " (scope: " ++ scope.asStr ++ ")"

@[simp]
def BlacklistCheckResult.isClear : BlacklistCheckResult → Bool
  | .clear => true
  | .blocked _ _ _ => false

@[simp]
def BlacklistCheckResult.detail : BlacklistCheckResult → Option String
  | .clear => none
  | .blocked reason scope _ => some (blockText reason scope)

namespace BlacklistManager

variable (m : BlacklistManager) (now : DateTime)

def evict (key : BlacklistKey) : BlacklistManager :=
  { m with entries := Function.update m.entries key none }

/-- An expired entry is evicted on the way. -/
def check (marketId : MarketId) (required : BlacklistScope) :
    BlacklistCheckResult × BlacklistManager :=
  match m.entries (.market marketId) with
  | none => (.clear, m)
  | some entry =>
    if entry.isExpired now then (.clear, m.evict (.market marketId))
    else if required.rank ≤ entry.scope.rank then
      (.blocked entry.reason entry.scope entry.expiresAt, m)
    else (.clear, m)

/-- The scope of a token's entry is not looked at. -/
def isTokenBlacklisted (tokenId : TokenId) : Bool × BlacklistManager :=
  match m.entries (.token tokenId) with
  | none => (false, m)
  | some entry => if entry.isExpired now then (false, m.evict (.token tokenId)) else (true, m)

def blocks : BlacklistKey → Bool
  | .market id => !(m.check now id .tradingPath).1.isClear
  | .token id => (m.isTokenBlacklisted now id).1

end BlacklistManager

def BlacklistInfo.bars (entry : BlacklistInfo) : BlacklistKey → Bool
  | .market _ => BlacklistScope.tradingPath.rank ≤ entry.scope.rank
  | .token _ => true

theorem BlacklistManager.check_detail (m : BlacklistManager) (now : DateTime) (id : MarketId) :
    (m.check now id .tradingPath).1.detail =
      ((m.entries (.market id)).filter fun e => !e.isExpired now && e.bars (.market id)).map
        fun e => blockText e.reason e.scope := by
  unfold check
  cases m.entries (.market id) with
  | none => rfl
  | some e =>
    cases he : e.isExpired now with
    | true => simp [he]
    | false =>
      by_cases hs : BlacklistScope.tradingPath.rank ≤ e.scope.rank
      · simp [he, hs, BlacklistInfo.bars]
      · simp [he, hs, BlacklistInfo.bars, Nat.lt_of_not_le hs]

theorem BlacklistManager.blocks_eq (m : BlacklistManager) (now : DateTime) (key : BlacklistKey) :
    m.blocks now key = (m.entries key).any fun e => !e.isExpired now && e.bars key := by
  cases key with
  | market id =>
    have hclear : ∀ r : BlacklistCheckResult, (!r.isClear) = r.detail.isSome := by
      intro r
      cases r <;> rfl
    rw [blocks, hclear, m.check_detail, Option.isSome_map, Option.isSome_filter]
  | token id =>
    simp only [blocks, isTokenBlacklisted]
    cases m.entries (.token id) with
    | none => rfl
    | some e => cases he : e.isExpired now <;> simp [he, BlacklistInfo.bars]

/-! ## The compiled snapshot -/

structure BloomFilter512 where
  bits : Fin 8 → BitVec 64

namespace BloomFilter512

def hash (key : List UInt8) (seed : UInt32) : UInt32 :=
  key.foldl (fun h b => (h ^^^ b.toUInt32) * 0x01000193) (0x811c9dc5 ^^^ seed * 0x01000193)

def positions (key : List UInt8) : List (Bloom.Position 8) :=
  (List.range 3).map fun i =>
    let bit := (hash key (.ofNat i)).toNat % 512
    (⟨bit / 64, by omega⟩, ⟨bit % 64, by omega⟩)

def insert (filter : BloomFilter512) (key : String) : BloomFilter512 :=
  ⟨Bloom.insert filter.bits (positions key.toUTF8.data.toList)⟩

def mayContain (filter : BloomFilter512) (key : String) : Bool :=
  Bloom.mayContain filter.bits (positions key.toUTF8.data.toList)

end BloomFilter512

structure TradingPathBlock where
  marketId : MarketId
  reason : BlacklistReason
  scope : BlacklistScope
deriving DecidableEq, Repr

structure BlacklistSnapshot where
  marketBloom : BloomFilter512
  tokenBloom : BloomFilter512
  tradingPathBlocks : List TradingPathBlock
  blacklistedTokens : List TokenId

namespace BlacklistSnapshot

def empty : BlacklistSnapshot := ⟨⟨fun _ => 0⟩, ⟨fun _ => 0⟩, [], []⟩

variable (s : BlacklistSnapshot) (now : DateTime)

def tradingPathBlockDetail (marketId : MarketId) : Option String :=
  if s.marketBloom.mayContain marketId.raw then
    (s.tradingPathBlocks.find? (·.marketId = marketId)).map fun b => blockText b.reason b.scope
  else none

def isTokenBlacklisted (tokenId : TokenId) : Bool :=
  s.tokenBloom.mayContain tokenId.raw && s.blacklistedTokens.any (· = tokenId)

/-- One round of the loop that compiles the snapshot. -/
def absorb (entry : BlacklistKey × BlacklistInfo) : BlacklistSnapshot :=
  if entry.2.isExpired now then s
  else match entry.1 with
    | .market id =>
      { s with
        marketBloom := s.marketBloom.insert id.raw
        tradingPathBlocks :=
          if BlacklistScope.tradingPath.rank ≤ entry.2.scope.rank then
            s.tradingPathBlocks ++ [⟨id, entry.2.reason, entry.2.scope⟩]
          else s.tradingPathBlocks }
    | .token id =>
      { s with
        tokenBloom := s.tokenBloom.insert id.raw, blacklistedTokens := s.blacklistedTokens ++ [id] }

end BlacklistSnapshot

/-- Over the entries in the order in which the map is iterated. -/
def buildBloomSnapshot (entries : List (BlacklistKey × BlacklistInfo)) (now : DateTime) :
    BlacklistSnapshot :=
  entries.foldl (BlacklistSnapshot.absorb · now) .empty

def BlacklistManager.Lists (m : BlacklistManager) (entries : List (BlacklistKey × BlacklistInfo)) :
    Prop :=
  ∀ key info, (key, info) ∈ entries ↔ m.entries key = some info

/-- Nothing comes of an entry that cannot be alive and barring. -/
theorem map_filter_eq_none {β : Type*} {entry : Option BlacklistInfo} {key : BlacklistKey}
    {now : DateTime} (f : BlacklistInfo → β)
    (h : ∀ e, entry = some e → e.isExpired now = false → e.bars key = true → False) :
    (entry.filter fun e => !e.isExpired now && e.bars key).map f = none := by
  rw [Option.map_eq_none_iff, Option.eq_none_iff_forall_not_mem]
  intro e he
  obtain ⟨he, hlive⟩ := Option.filter_eq_some_iff.mp he
  simp only [Bool.and_eq_true, Bool.not_eq_true'] at hlive
  exact h e he hlive.1 hlive.2

namespace BlacklistSnapshot

variable {s : BlacklistSnapshot} {now : DateTime} {entries : List (BlacklistKey × BlacklistInfo)}
  {entry : BlacklistKey × BlacklistInfo} {m : BlacklistManager} {info : BlacklistInfo}

/-- The filter of the key's kind has the key. -/
def mayContain (s : BlacklistSnapshot) : BlacklistKey → Bool
  | .market id => s.marketBloom.mayContain id.raw
  | .token id => s.tokenBloom.mayContain id.raw

theorem mayContain_absorb {key : BlacklistKey}
    (h : s.mayContain key = true ∨ entry.1 = key ∧ entry.2.isExpired now = false) :
    (s.absorb now entry).mayContain key = true := by
  obtain ⟨key', info⟩ := entry
  unfold absorb
  rcases h with h | ⟨rfl, h⟩
  · split
    · exact h
    · split <;> cases key <;> first | exact h | exact Bloom.mayContain_insert_of h
  · rw [if_neg (by simp [h])]
    cases key' <;> exact Bloom.mayContain_insert

theorem mem_blocks_absorb {block : TradingPathBlock} :
    block ∈ (s.absorb now entry).tradingPathBlocks ↔
      block ∈ s.tradingPathBlocks ∨ entry.2.isExpired now = false ∧ entry.2.bars entry.1 = true ∧
        entry.1 = .market block.marketId ∧ entry.2.reason = block.reason ∧
        entry.2.scope = block.scope := by
  obtain ⟨key, info⟩ := entry
  obtain ⟨id, reason, scope⟩ := block
  unfold absorb
  cases hexp : info.isExpired now with
  | true => simp
  | false =>
    cases key with
    | token id' => simp
    | market id' =>
      by_cases hs : BlacklistScope.tradingPath.rank ≤ info.scope.rank
      · simp [hs, BlacklistInfo.bars, eq_comm]
      · simp [hs, BlacklistInfo.bars]

theorem mem_tokens_absorb {id : TokenId} :
    id ∈ (s.absorb now entry).blacklistedTokens ↔
      id ∈ s.blacklistedTokens ∨ entry.2.isExpired now = false ∧ entry.1 = .token id := by
  obtain ⟨key, info⟩ := entry
  unfold absorb
  cases hexp : info.isExpired now <;> cases key <;> simp [eq_comm]

/-- **The filters hide no entry.** -/
theorem mayContain_build (key : BlacklistKey) (hm : m.Lists entries)
    (he : m.entries key = some info) (hexp : info.isExpired now = false) :
    (buildBloomSnapshot entries now).mayContain key = true := by
  unfold buildBloomSnapshot
  exact List.foldl_of_or (fun s : BlacklistSnapshot => s.mayContain key = true)
    (fun _ _ => mayContain_absorb) (.inr ⟨_, (hm key info).mpr he, rfl, hexp⟩)

theorem mem_blocks_build (block : TradingPathBlock) (hm : m.Lists entries) :
    block ∈ (buildBloomSnapshot entries now).tradingPathBlocks ↔
      ∃ info, m.entries (.market block.marketId) = some info ∧ info.isExpired now = false ∧
        info.bars (.market block.marketId) = true ∧ info.reason = block.reason ∧
        info.scope = block.scope := by
  unfold buildBloomSnapshot
  constructor
  · intro h
    rcases List.or_of_foldl (fun s : BlacklistSnapshot => block ∈ s.tradingPathBlocks)
      h (fun _ _ => mem_blocks_absorb.mp) with h | ⟨⟨key, info⟩, hmem, h⟩
    · cases h
    · obtain ⟨hexp, hbars, rfl, htext⟩ := h
      exact ⟨info, (hm _ _).mp hmem, hexp, hbars, htext⟩
  · rintro ⟨info, he, hexp, hbars, htext⟩
    exact List.foldl_of_or (fun s : BlacklistSnapshot => block ∈ s.tradingPathBlocks)
      (fun _ _ => mem_blocks_absorb.mpr) (.inr ⟨_, (hm _ info).mpr he, hexp, hbars, rfl, htext⟩)

theorem mem_tokens_build {id : TokenId} (hm : m.Lists entries) :
    id ∈ (buildBloomSnapshot entries now).blacklistedTokens ↔
      ∃ info, m.entries (.token id) = some info ∧ info.isExpired now = false := by
  unfold buildBloomSnapshot
  constructor
  · intro h
    rcases List.or_of_foldl (fun s : BlacklistSnapshot => id ∈ s.blacklistedTokens)
      h (fun _ _ => mem_tokens_absorb.mp) with h | ⟨⟨key, info⟩, hmem, h⟩
    · cases h
    · obtain ⟨hexp, rfl⟩ := h
      exact ⟨info, (hm _ _).mp hmem, hexp⟩
  · rintro ⟨info, he, hexp⟩
    exact List.foldl_of_or (fun s : BlacklistSnapshot => id ∈ s.blacklistedTokens)
      (fun _ _ => mem_tokens_absorb.mpr) (.inr ⟨_, (hm _ info).mpr he, hexp, rfl⟩)

theorem find_block_build (hm : m.Lists entries) (id : MarketId) :
    (buildBloomSnapshot entries now).tradingPathBlocks.find? (·.marketId = id) =
      ((m.entries (.market id)).filter fun e => !e.isExpired now && e.bars (.market id)).map
        fun e => ⟨id, e.reason, e.scope⟩ := by
  cases hfind : (buildBloomSnapshot entries now).tradingPathBlocks.find? (·.marketId = id) with
  | none =>
    -- an entry that blocks would have been compiled into a block
    refine (map_filter_eq_none _ fun e he hexp hbars => ?_).symm
    have hblock := (mem_blocks_build ⟨id, e.reason, e.scope⟩ hm).mpr
      ⟨e, he, hexp, hbars, rfl, rfl⟩
    simpa using List.find?_eq_none.mp hfind _ hblock
  | some block =>
    obtain ⟨e, he, hexp, hbars, hreason, hscope⟩ :=
      (mem_blocks_build block hm).mp (List.mem_of_find?_eq_some hfind)
    have hid : block.marketId = id := by simpa using List.find?_some hfind
    obtain ⟨marketId, reason, scope⟩ := block
    subst hid hreason hscope
    simp [he, hexp, hbars]

end BlacklistSnapshot

variable {m : BlacklistManager} {entries : List (BlacklistKey × BlacklistInfo)} {now : DateTime}

theorem snapshot_detail (hm : m.Lists entries) (id : MarketId) :
    (buildBloomSnapshot entries now).tradingPathBlockDetail id =
      (m.check now id .tradingPath).1.detail := by
  unfold BlacklistSnapshot.tradingPathBlockDetail
  rw [BlacklistSnapshot.find_block_build hm, Option.map_map, m.check_detail]
  split
  · rfl
  · next hbloom =>
    refine (map_filter_eq_none _ fun e he hexp _ => ?_).symm
    exact hbloom (BlacklistSnapshot.mayContain_build _ hm he hexp)

theorem snapshot_token (hm : m.Lists entries) (id : TokenId) :
    (buildBloomSnapshot entries now).isTokenBlacklisted id = (m.isTokenBlacklisted now id).1 := by
  have hmanager := m.blocks_eq now (.token id)
  simp only [BlacklistManager.blocks] at hmanager
  rw [hmanager, Bool.eq_iff_iff]
  unfold BlacklistSnapshot.isTokenBlacklisted
  simp only [Bool.and_eq_true, List.any_eq_true, decide_eq_true_eq, exists_eq_right,
    BlacklistSnapshot.mem_tokens_build hm, Option.any_eq_true, Bool.not_eq_true',
    BlacklistInfo.bars, and_true]
  exact and_iff_right_of_imp fun ⟨e, he, hexp⟩ =>
    BlacklistSnapshot.mayContain_build (.token id) hm he hexp

/-- **The compiled snapshot answers as the manager does**, with the same text, and its filters
have every entry that has not expired. -/
theorem blacklist_snapshot_agrees (hm : m.Lists entries) (marketId : MarketId)
    (tokenId : TokenId) :
    (buildBloomSnapshot entries now).tradingPathBlockDetail marketId =
        (m.check now marketId .tradingPath).1.detail ∧
      (buildBloomSnapshot entries now).isTokenBlacklisted tokenId =
        (m.isTokenBlacklisted now tokenId).1 ∧
      ∀ key info, m.entries key = some info → info.isExpired now = false →
        (buildBloomSnapshot entries now).mayContain key = true :=
  ⟨snapshot_detail hm marketId, snapshot_token hm tokenId,
    fun key _ he hexp => BlacklistSnapshot.mayContain_build key hm he hexp⟩

def BlacklistManager.listingOnly (entry : BlacklistInfo) : BlacklistManager :=
  BlacklistManager.insert ⟨fun _ => none, 3, 3600⟩ entry.key entry

theorem blacklist_snapshot_agrees_one :
    let entry := BlacklistInfo.permanent ⟨"m"⟩ none .manual 0
    (buildBloomSnapshot [(.market ⟨"m"⟩, entry)] 5).tradingPathBlockDetail ⟨"m"⟩ =
        ((BlacklistManager.listingOnly entry).check 5 ⟨"m"⟩ .tradingPath).1.detail ∧
      ((BlacklistManager.listingOnly entry).check 5 ⟨"m"⟩ .tradingPath).1.detail ≠ none := by
  refine ⟨(blacklist_snapshot_agrees ?_ ⟨"m"⟩ ⟨"t"⟩).1, by decide⟩
  intro key info
  simp only [BlacklistManager.listingOnly, BlacklistManager.insert, List.mem_singleton,
    Prod.mk.injEq, Function.update_apply]
  split <;> simp_all [BlacklistInfo.permanent, BlacklistInfo.key, eq_comm]

/-! ## Entries of the configuration -/

def RiskConfig.permanentKeys (config : RiskConfig) : List BlacklistKey :=
  config.permanentBlacklistMarkets.map .market ++ config.permanentBlacklistTokens.map .token

def BlacklistInfo.lasting (entry : BlacklistInfo) (key : BlacklistKey) : Bool :=
  entry.isPermanent && entry.bars key

def loadedEntry (entries : List BlacklistInfo) (now : DateTime) (key : BlacklistKey) :
    Option BlacklistInfo :=
  ((entries.filter fun e => !e.isExpired now).filter (·.key = key)).getLast?

namespace BlacklistManager

def holds (m : BlacklistManager) (key : BlacklistKey) : Bool :=
  (m.entries key).any (·.lasting key)

variable {key key' : BlacklistKey} {entry : BlacklistInfo}

theorem forall_blocks_iff : (∀ now, m.blocks now key = true) ↔ m.holds key = true := by
  simp only [blocks_eq, holds]
  cases m.entries key with
  | none => simp
  | some e =>
    cases hexp : e.expiresAt with
    | none => simp [BlacklistInfo.isExpired, BlacklistInfo.lasting, BlacklistInfo.isPermanent, hexp]
    | some until_ =>
      -- a check at the time of expiry is clear
      refine iff_of_false (fun h => ?_) ?_
      · simpa [BlacklistInfo.isExpired, hexp] using h until_
      · simp [BlacklistInfo.lasting, BlacklistInfo.isPermanent, hexp]

theorem holds_insert (h : m.holds key = true) (he : key' = key → entry.lasting key = true) :
    (m.insert key' entry).holds key = true := by
  unfold holds insert at *
  by_cases hkey : key = key'
  · simpa [hkey] using hkey ▸ he hkey.symm
  · simpa [hkey] using h

theorem holds_evict (h : m.holds key = true) (hkey : key ≠ key') :
    (m.evict key').holds key = true := by
  unfold holds evict at *
  simpa [hkey] using h

theorem not_holds_of_expires (he : m.entries key = some entry) (hexp : entry.expiresAt.isSome) :
    m.holds key = false := by
  obtain ⟨until_, hexp⟩ := Option.isSome_iff_exists.mp hexp
  simp [holds, he, BlacklistInfo.lasting, BlacklistInfo.isPermanent, hexp]

theorem expires_of_isExpired (h : entry.isExpired now = true) : entry.expiresAt.isSome := by
  cases hexp : entry.expiresAt with
  | none => simp [BlacklistInfo.isExpired, hexp] at h
  | some until_ => rfl

theorem entries_foldl_insert (l : List BlacklistInfo) :
    (l.foldl (fun m e => m.insert e.key e) m).entries key =
      (l.filter (·.key = key)).getLast?.or (m.entries key) := by
  induction l using List.reverseRecOn with
  | nil => rfl
  | append_singleton l e ih =>
    rw [List.foldl_append, List.filter_append]
    by_cases hkey : e.key = key
    · simp [insert, hkey]
    · simpa [insert, hkey, Ne.symm hkey] using ih

theorem entries_foldl_insertNew (l : List BlacklistInfo) :
    (l.foldl insertNew m).entries key = (m.entries key).or (l.find? (·.key = key)) := by
  induction l generalizing m with
  | nil => simp
  | cons e l ih =>
    rw [List.foldl_cons, ih, insertNew]
    by_cases hkey : e.key = key
    · subst hkey
      cases hm : m.entries e.key <;> simp [hm, insert]
    · split
      · simp [hkey]
      · simp [hkey, insert, Ne.symm hkey]

theorem holds_load_iff (h : m.holds key = true) {l : List BlacklistInfo} :
    (m.loadEntries l now).holds key = true ↔ ∀ e ∈ loadedEntry l now key, e.lasting key = true := by
  unfold holds loadEntries at *
  rw [entries_foldl_insert]
  change ((loadedEntry l now key).or _).any _ = true ↔ _
  cases loadedEntry l now key with
  | none => simpa using h
  | some e => simp

theorem holds_foldl_insertNew {l : List BlacklistInfo} (hl : ∀ e ∈ l, e.lasting e.key = true)
    (hkey : ∃ e ∈ l, e.key = key) :
    (l.foldl insertNew m).holds key = true ↔ ∀ e ∈ m.entries key, e.lasting key = true := by
  rw [holds, entries_foldl_insertNew]
  cases m.entries key with
  | some e => simp
  | none =>
    obtain ⟨first, hfirst⟩ := Option.isSome_iff_exists.mp
      (List.find?_isSome.mpr (hkey.imp fun e he => ⟨he.1, decide_eq_true he.2⟩))
    have hfirstKey : first.key = key := by simpa using List.find?_some hfirst
    simpa [hfirst, hfirstKey] using hl first (List.mem_of_find?_eq_some hfirst)

theorem holds_reload_iff {config : RiskConfig} (hkey : key ∈ config.permanentKeys) :
    (m.reload config now).holds key = true ↔ ∀ e ∈ m.entries key, e.lasting key = true := by
  refine holds_foldl_insertNew ?_ ?_
  · intro e he
    simp only [List.mem_append, List.mem_map] at he
    rcases he with ⟨id, -, rfl⟩ | ⟨id, -, rfl⟩ <;> rfl
  · simp only [RiskConfig.permanentKeys, List.mem_append, List.mem_map] at hkey ⊢
    rcases hkey with ⟨id, hid, rfl⟩ | ⟨id, hid, rfl⟩
    · exact ⟨_, .inl ⟨id, hid, rfl⟩, rfl⟩
    · exact ⟨_, .inr ⟨id, hid, rfl⟩, rfl⟩

theorem holds_addTemporary (h : m.holds key = true) (marketId : MarketId)
    (tokenId : Option TokenId) (scope : BlacklistScope) (reason : BlacklistReason)
    (durationSecs missCount : Nat) :
    (m.addTemporary now marketId tokenId scope reason durationSecs missCount).2.holds key =
      true := by
  simp only [addTemporary]
  split
  · next hnone =>
    refine holds_insert h fun heq => ?_
    rw [holds, ← heq, hnone] at h
    cases h
  · next existing hsome =>
    split
    · exact h
    · next until_ hexp =>
      refine holds_insert h fun heq => ?_
      have := not_holds_of_expires (heq ▸ hsome) (by simp [hexp])
      rw [h] at this
      cases this

theorem holds_maybeAutoBlacklist (h : m.holds key = true) (marketId : MarketId) (misses : Nat) :
    (m.maybeAutoBlacklist now marketId misses).2.holds key = true := by
  unfold maybeAutoBlacklist
  split
  · exact h
  · split
    · exact h
    · exact holds_addTemporary h marketId none _ _ _ misses

theorem holds_gc (h : m.holds key = true) : (m.gc now).holds key = true := by
  obtain ⟨e, he, hlasting⟩ := (Option.any_eq_true _ _).mp h
  have hkept : e.isPermanent = true := (Bool.and_eq_true_iff.mp hlasting).1
  simp [holds, gc, he, hkept, hlasting]

theorem holds_check (h : m.holds key = true) (marketId : MarketId) (scope : BlacklistScope) :
    (m.check now marketId scope).2.holds key = true := by
  unfold check
  split
  · exact h
  · next e he =>
    split
    · next hexp =>
      refine holds_evict h ?_
      rintro rfl
      simp [not_holds_of_expires he (expires_of_isExpired hexp)] at h
    · split <;> exact h

theorem holds_isTokenBlacklisted (h : m.holds key = true) (tokenId : TokenId) :
    (m.isTokenBlacklisted now tokenId).2.holds key = true := by
  unfold isTokenBlacklisted
  split
  · exact h
  · next e he =>
    split
    · next hexp =>
      refine holds_evict h ?_
      rintro rfl
      simp [not_holds_of_expires he (expires_of_isExpired hexp)] at h
    · exact h

end BlacklistManager

inductive BlacklistOp
  | load (entries : List BlacklistInfo)
  | addTemporary (marketId : MarketId) (tokenId : Option TokenId) (scope : BlacklistScope)
      (reason : BlacklistReason) (durationSecs missCount : Nat)
  | addPermanent (marketId : MarketId) (reason : BlacklistReason)
  | autoBlacklist (marketId : MarketId) (misses : Nat)
  | gc
  | check (marketId : MarketId) (scope : BlacklistScope)
  | checkToken (tokenId : TokenId)
  | reload (config : RiskConfig)
  | remove (marketId : MarketId)

/-- The manager, with the keys that the configuration in force lists and that have not been
removed since it was activated. -/
structure BlacklistRun where
  manager : BlacklistManager
  listed : List BlacklistKey

namespace BlacklistRun

variable (s : BlacklistRun) (i : DateTime × BlacklistOp)

def new (config : RiskConfig) (now : DateTime) : BlacklistRun :=
  ⟨.new config now, config.permanentKeys⟩

def step : BlacklistRun :=
  match i.2 with
  | .load entries => { s with manager := s.manager.loadEntries entries i.1 }
  | .addTemporary market token scope reason secs misses =>
    { s with manager := (s.manager.addTemporary i.1 market token scope reason secs misses).2 }
  | .addPermanent market reason => { s with manager := s.manager.addPermanent i.1 market reason }
  | .autoBlacklist market misses =>
    { s with manager := (s.manager.maybeAutoBlacklist i.1 market misses).2 }
  | .gc => { s with manager := s.manager.gc i.1 }
  | .check market scope => { s with manager := (s.manager.check i.1 market scope).2 }
  | .checkToken token => { s with manager := (s.manager.isTokenBlacklisted i.1 token).2 }
  | .reload config => ⟨s.manager.reload config i.1, config.permanentKeys⟩
  | .remove market => ⟨s.manager.remove market, s.listed.filter (· ≠ .market market)⟩

/-- Every listed key is blocked, whenever it is checked. -/
def Blocked : Prop := ∀ key ∈ s.listed, ∀ now, s.manager.blocks now key = true

/-- Loading leaves no listed key with an entry that expires or is of a lesser scope, and a
configuration is activated when none of its keys has such an entry. -/
def Keeps : Prop :=
  match i.2 with
  | .load entries => ∀ key ∈ s.listed, ∀ e ∈ loadedEntry entries i.1 key, e.lasting key = true
  | .reload config =>
    ∀ key ∈ config.permanentKeys, ∀ e ∈ s.manager.entries key, e.lasting key = true
  | _ => True

variable {s i}

theorem blocked_iff : s.Blocked ↔ ∀ key ∈ s.listed, s.manager.holds key = true :=
  forall₂_congr fun _ _ => BlacklistManager.forall_blocks_iff

theorem blocked_step_iff (h : s.Blocked) : (s.step i).Blocked ↔ s.Keeps i := by
  rw [blocked_iff] at h ⊢
  have hkeep : ∀ {m' : BlacklistManager},
      (∀ key, s.manager.holds key = true → m'.holds key = true) →
        ((∀ key ∈ s.listed, m'.holds key = true) ↔ True) :=
    fun hm => iff_true_intro fun key hkey => hm key (h key hkey)
  obtain ⟨now, op⟩ := i
  cases op with
  | load => exact forall₂_congr fun key hkey => BlacklistManager.holds_load_iff (h key hkey)
  | reload => exact forall₂_congr fun key hkey => BlacklistManager.holds_reload_iff hkey
  | addTemporary => exact hkeep fun _ hk => BlacklistManager.holds_addTemporary hk ..
  | addPermanent =>
    exact hkeep fun _ hk => BlacklistManager.holds_insert hk fun heq => heq ▸ rfl
  | autoBlacklist => exact hkeep fun _ hk => BlacklistManager.holds_maybeAutoBlacklist hk ..
  | gc => exact hkeep fun _ hk => BlacklistManager.holds_gc hk
  | check => exact hkeep fun _ hk => BlacklistManager.holds_check hk ..
  | checkToken => exact hkeep fun _ hk => BlacklistManager.holds_isTokenBlacklisted hk _
  | remove market =>
    refine iff_true_intro fun key hkey => ?_
    obtain ⟨hkey, hne⟩ := List.mem_filter.mp hkey
    exact BlacklistManager.holds_evict (h key hkey) (by simpa using hne)

theorem blocked_new (config : RiskConfig) (now : DateTime) : (new config now).Blocked :=
  blocked_iff.mpr fun _ hkey =>
    BlacklistManager.holds_reload_iff (m := ⟨fun _ => none, 0, 0⟩) hkey |>.mpr (by simp)

end BlacklistRun

/-- **The keys of the configuration in force stay blocked exactly when no operation puts
another entry in their place**: loading overwrites, and a reload keeps what it finds. -/
theorem listed_blocked_along_iff (config : RiskConfig) (start : DateTime)
    (ops : List (DateTime × BlacklistOp)) :
    Transition.Along BlacklistRun.step BlacklistRun.Blocked (.new config start) ops ↔
      Transition.Meets (fun s i => some (BlacklistRun.step s i)) BlacklistRun.Keeps
        (.new config start) ops :=
  Transition.along_iff_meets BlacklistRun.Blocked (fun _ h => h)
    (fun _ _ h => (BlacklistRun.blocked_step_iff h).mpr)
    (fun _ _ h => mt (BlacklistRun.blocked_step_iff h).mp) (BlacklistRun.blocked_new config start)

/-- A stored temporary entry replaces that of the configuration, and expires. -/
theorem listed_market_cleared :
    let config := { RiskConfig.default with permanentBlacklistMarkets := [⟨"m"⟩] }
    let stored : BlacklistInfo :=
      ⟨⟨"m"⟩, none, .tradingPath, .consecutiveFokFailures, some 100, 3, 0, 0⟩
    let s := (BlacklistRun.new config 1).step (1, .load [stored])
    .market ⟨"m"⟩ ∈ s.listed ∧ s.manager.blocks 100 (.market ⟨"m"⟩) = false := by
  decide

/-! ## Blacklisting after misses -/

theorem ttl_pos_iff (secs : Nat) : (0 : Int) < BlacklistManager.ttl secs ↔ 0 < secs := by
  unfold BlacklistManager.ttl Duration.seconds
  split
  · simp
  · next h =>
    simp only [i64Max] at h
    refine iff_of_true (by decide) (Nat.pos_of_ne_zero ?_)
    rintro rfl
    exact h (by decide)

/-- **A market that has missed too often is blocked afterwards** exactly when it had no entry
and the configured time is not zero, or had one that blocks already. -/
theorem auto_blacklist_blocks_iff (m : BlacklistManager) (now : DateTime) (marketId : MarketId)
    (misses : Nat) (h : m.marketMissBlacklistCount ≤ misses) :
    (m.maybeAutoBlacklist now marketId misses).2.blocks now (.market marketId) = true ↔
      match m.entries (.market marketId) with
      | none => 0 < m.marketMissBlacklistDurationSecs
      | some entry => entry.isExpired now = false ∧
          BlacklistScope.tradingPath.rank ≤ entry.scope.rank := by
  unfold BlacklistManager.maybeAutoBlacklist
  rw [if_neg (Nat.not_lt.mpr h)]
  cases he : m.entries (.market marketId) with
  | some entry => simp [BlacklistManager.blocks_eq, he, BlacklistInfo.bars]
  | none =>
    rw [← ttl_pos_iff]
    simp [BlacklistManager.blocks_eq, BlacklistManager.addTemporary, BlacklistManager.insert,
      BlacklistInfo.key, he, BlacklistInfo.bars, BlacklistInfo.isExpired]

theorem auto_blacklist_blocks_at_threshold :
    (BlacklistManager.maybeAutoBlacklist ⟨fun _ => none, 3, 3600⟩ 0 ⟨"m"⟩ 3).2.blocks 0
      (.market ⟨"m"⟩) = true :=
  (auto_blacklist_blocks_iff ⟨fun _ => none, 3, 3600⟩ 0 ⟨"m"⟩ 3 (by decide)).mpr
    (by decide : 0 < 3600)

/-- An entry that has expired and was not evicted yet stands in the way. -/
theorem expired_entry_prevents_blacklisting :
    let expired : BlacklistInfo :=
      ⟨⟨"m"⟩, none, .tradingPath, .consecutiveFokFailures, some 100, 3, 0, 0⟩
    ((BlacklistManager.listingOnly expired).maybeAutoBlacklist 200 ⟨"m"⟩ 3).2.blocks 200
      (.market ⟨"m"⟩) = false := by
  decide

end OxideArb.Risk
