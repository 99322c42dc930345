import OxideArb.Lib.Lists
import OxideArb.Lib.Transition
import OxideArb.Web.Jwt

/-!
# Rotation of a refresh token

Lookup and revocation of a refresh token are separate calls with a database read between them, so
requests with one token interleave; each that finds the token not yet revoked goes on to an
answer.
-/

namespace OxideArb.Web

open Transition

structure TokenResponse where
  accessToken : Claims
  refreshToken : Claims
  tokenType : String
  expiresIn : Int
deriving DecidableEq, Repr

def issuePair (jwt : JwtService) (user : UserInfo) (accessJti refreshJti : String)
    (now : DateTime) : TokenResponse where
  accessToken := jwt.encodeAccess user accessJti now
  refreshToken := jwt.encodeRefresh user refreshJti now
  tokenType := "Bearer"
  expiresIn := jwt.accessTtlSecs

inductive RefreshError
  | auth (error : AuthError)
  | storage
  | internal
deriving DecidableEq, Repr

inductive UserLookup
  | badSubject
  | notFound
  | failed
  | found (user : UserInfo)
deriving DecidableEq, Repr

inductive Phase
  | decoded
  | unrevoked
  | loaded (user : UserInfo)
  | revoking (user : UserInfo) (ttlSecs : Int)
  | revoked (user : UserInfo)
  | answered (tokens : TokenResponse)
  | refused (error : RefreshError)
deriving DecidableEq, Repr

namespace Phase

def underway : Phase → Bool
  | unrevoked | loaded _ | revoking _ _ | revoked _ => true
  | decoded | answered _ | refused _ => false

/-- The request has revoked the token. -/
def spent : Phase → Bool
  | revoked _ | answered _ => true
  | decoded | unrevoked | loaded _ | revoking _ _ | refused _ => false

def isAnswered : Phase → Bool
  | answered _ => true
  | _ => false

/-- The request is underway or has been answered. -/
def live (phase : Phase) : Bool := phase.underway || phase.isAnswered

end Phase

/-- The next thing a request does; what Redis, the database and the signer make of it is
part of the action. -/
inductive Action
  | check (reachable : Bool)
  | load (lookup : UserLookup)
  | readClock
  | write (reachable : Bool)
  | respond (ids : Option (String × String))
deriving DecidableEq, Repr

inductive RotationStep
  | tick (elapsed : Nat)
  | submit
  | act (index : Nat) (action : Action)
deriving DecidableEq, Repr

structure Rotation where
  now : DateTime
  blacklist : Blacklist
  requests : List Phase

section Token

variable (jwt : JwtService) (claims : Claims)

/-- One action of a request with the token. -/
def advance (now : DateTime) (b : Blacklist) : Action → Phase → Option (Phase × Blacklist)
  | .check reachable, .decoded =>
    match JwtService.isRevoked b claims.jti now reachable with
    | .error e => some (.refused (.auth e), b)
    | .ok true => some (.refused (.auth .blacklisted), b)
    | .ok false => some (.unrevoked, b)
  | .load lookup, .unrevoked =>
    match lookup with
    | .badSubject => some (.refused (.auth .invalidToken), b)
    | .notFound => some (.refused (.auth .invalidToken), b)
    | .failed => some (.refused .storage, b)
    | .found user =>
      if user.status ≠ .active then some (.refused (.auth .invalidToken), b)
      else some (.loaded user, b)
  | .readClock, .loaded user =>
    let ttl := remainingTtl claims.exp now
    -- an expired token is not written to the blacklist
    if ttl = 0 then some (.revoked user, b) else some (.revoking user ttl, b)
  | .write reachable, .revoking user ttl =>
    if reachable then some (.revoked user, b.revoke claims.jti ttl now)
    else some (.refused (.auth .blacklistUnavailable), b)
  | .respond ids, .revoked user =>
    match ids with
    | none => some (.refused .internal, b)
    | some (accessJti, refreshJti) =>
      some (.answered (issuePair jwt user accessJti refreshJti now), b)
  | _, _ => none

namespace Rotation

def next (s : Rotation) : RotationStep → Option Rotation
  | .tick elapsed => some { s with now := s.now + elapsed }
  | .submit =>
    let phase := match jwt.decode (some claims) .refresh s.now with
      | .ok _ => Phase.decoded
      | .error e => .refused (.auth e)
    some { s with requests := s.requests ++ [phase] }
  | .act index action =>
    match s.requests[index]? with
    | none => none
    | some phase =>
      match advance jwt claims s.now s.blacklist action phase with
      | none => none
      | some (phase, blacklist) =>
        some { s with requests := s.requests.set index phase, blacklist := blacklist }

def start (now : DateTime) : Rotation where
  now := now
  blacklist := fun _ => none
  requests := []

/-- At most one of the requests has been answered with a new pair. -/
def AtMostOne (s : Rotation) : Prop :=
  ∀ (i j : Nat) (p q : TokenResponse), s.requests[i]? = some (.answered p) →
    s.requests[j]? = some (.answered q) → i = j

/-- A lookup falls between the lookup and the answer of no other request, and lookups and
revocations come before the token's `exp`. -/
def Apart (s : Rotation) : RotationStep → Prop
  | .act _ (.check _) =>
    (∀ phase ∈ s.requests, phase.underway = false) ∧ timestamp s.now < claims.exp
  | .act _ .readClock => timestamp s.now < claims.exp
  | _ => True

instance (s : Rotation) : ∀ step, Decidable (s.Apart claims step)
  | .act _ (.check _) =>
    inferInstanceAs (Decidable ((∀ phase ∈ s.requests, phase.underway = false) ∧
      timestamp s.now < claims.exp))
  | .act _ .readClock => inferInstanceAs (Decidable (timestamp s.now < claims.exp))
  | .act _ (.load _) | .act _ (.write _) | .act _ (.respond _) | .tick _ | .submit =>
    isTrue trivial

end Rotation

variable {jwt claims}

/-- What an action can do: a lookup that finds no entry makes a request live, every other
action only takes a live request on or refuses it. -/
theorem advance_cases {now : DateTime} {b b' : Blacklist} {action : Action} {phase phase' : Phase}
    (h : advance jwt claims now b action phase = some (phase', b')) :
    (∃ reachable, action = .check reachable ∧ phase = .decoded ∧ b' = b ∧
      (phase'.live = false ∧ phase'.spent = false ∨
        phase' = .unrevoked ∧ b.isRevoked claims.jti now = false)) ∨
    (phase.live = true ∧ b' = b ∧ (∀ user ttl, phase' ≠ .revoking user ttl) ∧
      (phase'.spent = true → phase.spent = true)) ∨
    (∃ user, action = .readClock ∧ phase = .loaded user ∧ b' = b ∧
      (phase' = .revoked user ∧ claims.exp ≤ timestamp now ∨
        phase' = .revoking user (claims.exp - timestamp now) ∧ timestamp now < claims.exp)) ∨
    (∃ user ttl, phase = .revoking user ttl ∧ phase' = .revoked user ∧
      b' = b.revoke claims.jti ttl now) := by
  unfold advance at h
  split at h
  next reachable =>
    left
    cases hreach : reachable with
    | false =>
      simp only [JwtService.isRevoked, hreach, Bool.false_eq_true, if_false, Option.some.injEq,
        Prod.mk.injEq] at h
      obtain ⟨rfl, rfl⟩ := h
      exact ⟨false, rfl, rfl, rfl, .inl ⟨rfl, rfl⟩⟩
    | true =>
      cases hrevoked : b.isRevoked claims.jti now with
      | true =>
        simp only [JwtService.isRevoked, hreach, if_true, hrevoked, Option.some.injEq,
          Prod.mk.injEq] at h
        obtain ⟨rfl, rfl⟩ := h
        exact ⟨true, rfl, rfl, rfl, .inl ⟨rfl, rfl⟩⟩
      | false =>
        simp only [JwtService.isRevoked, hreach, if_true, hrevoked, Option.some.injEq,
          Prod.mk.injEq] at h
        obtain ⟨rfl, rfl⟩ := h
        exact ⟨true, rfl, rfl, rfl, .inr ⟨rfl, rfl⟩⟩
  next lookup =>
    right; left
    cases lookup with
    | found user =>
      simp only at h
      split at h
      all_goals
        simp only [Option.some.injEq, Prod.mk.injEq] at h
        obtain ⟨rfl, rfl⟩ := h
        exact ⟨rfl, rfl, nofun, nofun⟩
    | _ =>
      simp only [Option.some.injEq, Prod.mk.injEq] at h
      obtain ⟨rfl, rfl⟩ := h
      exact ⟨rfl, rfl, nofun, nofun⟩
  next user =>
    right; right; left
    unfold remainingTtl at h
    simp only at h
    split at h
    next hexpired =>
      simp only [Option.some.injEq, Prod.mk.injEq] at h
      obtain ⟨rfl, rfl⟩ := h
      exact ⟨user, rfl, rfl, rfl, .inl ⟨rfl, by omega⟩⟩
    next hleft =>
      simp only [Option.some.injEq, Prod.mk.injEq] at h
      obtain ⟨rfl, rfl⟩ := h
      have hmax : max (claims.exp - timestamp now) 0 = claims.exp - timestamp now := by omega
      exact ⟨user, rfl, rfl, rfl, .inr ⟨by rw [hmax], by omega⟩⟩
  next reachable user ttl =>
    split at h
    · simp only [Option.some.injEq, Prod.mk.injEq] at h
      obtain ⟨rfl, rfl⟩ := h
      exact .inr (.inr (.inr ⟨user, ttl, rfl, rfl, rfl⟩))
    · simp only [Option.some.injEq, Prod.mk.injEq] at h
      obtain ⟨rfl, rfl⟩ := h
      exact .inr (.inl ⟨rfl, rfl, nofun, nofun⟩)
  next ids user =>
    right; left
    cases ids with
    | none =>
      simp only [Option.some.injEq, Prod.mk.injEq] at h
      obtain ⟨rfl, rfl⟩ := h
      exact ⟨rfl, rfl, nofun, nofun⟩
    | some ids =>
      simp only [Option.some.injEq, Prod.mk.injEq] at h
      obtain ⟨rfl, rfl⟩ := h
      exact ⟨rfl, rfl, nofun, fun _ => rfl⟩
  next => cases h

namespace Rotation

variable {s : Rotation} {step : RotationStep} {phase : Phase}

theorem next_cases {t : Rotation} (h : s.next jwt claims step = some t) :
    (∃ elapsed, step = .tick elapsed ∧ t = { s with now := s.now + elapsed }) ∨
    (∃ phase : Phase, step = .submit ∧ phase.live = false ∧
      (∀ user ttl, phase ≠ .revoking user ttl) ∧
      t = { s with requests := s.requests ++ [phase] }) ∨
    (∃ index action phase phase' b, step = .act index action ∧
      s.requests[index]? = some phase ∧
      advance jwt claims s.now s.blacklist action phase = some (phase', b) ∧
      t = { s with requests := s.requests.set index phase', blacklist := b }) := by
  cases step with
  | tick elapsed => exact .inl ⟨elapsed, rfl, (Option.some.inj h).symm⟩
  | submit =>
    refine .inr (.inl ⟨_, rfl, ?_, ?_, (Option.some.inj h).symm⟩)
    · cases jwt.decode (some claims) .refresh s.now <;> rfl
    · cases jwt.decode (some claims) .refresh s.now <;> exact nofun
  | act index action =>
    simp only [next] at h
    split at h
    · cases h
    next phase hget =>
    split at h
    · cases h
    next phase' b hadvance =>
    exact .inr (.inr ⟨index, action, phase, phase', b, rfl, hget, hadvance,
      (Option.some.inj h).symm⟩)

variable (claims) in
structure Single (s : Rotation) : Prop where
  one : ∀ (i j : Nat) (p q : Phase), s.requests[i]? = some p → s.requests[j]? = some q →
    p.live = true → q.live = true → i = j
  covered : ∀ phase ∈ s.requests, phase.spent = true → Covered s.blacklist claims
  /-- A write still to be carried out will live until `exp`. -/
  pending : ∀ user ttl, .revoking user ttl ∈ s.requests →
    0 < ttl ∧ secondStart claims.exp ≤ s.now + Duration.seconds ttl

theorem single_start (now : DateTime) : (start now).Single claims where
  one i j p q hi := by simp [start] at hi
  covered phase h := by simp [start] at h
  pending user ttl h := by simp [start] at h

theorem single_tick (h : s.Single claims) (elapsed : Nat) :
    Single claims { s with now := s.now + elapsed } where
  one := h.one
  covered := h.covered
  pending user ttl hmem := by
    obtain ⟨hpos, hlong⟩ := h.pending user ttl hmem
    refine ⟨hpos, hlong.trans ?_⟩
    have helapsed : (0 : Int) ≤ elapsed := Int.natCast_nonneg elapsed
    linarith

theorem single_submit (h : s.Single claims) (hdead : phase.live = false)
    (hwrite : ∀ user ttl, phase ≠ .revoking user ttl) :
    Single claims { s with requests := s.requests ++ [phase] } := by
  have hold : ∀ (i : Nat) (p : Phase), (s.requests ++ [phase])[i]? = some p → p.live = true →
      s.requests[i]? = some p := by
    intro i p hi hlive
    by_cases hlt : i < s.requests.length
    · rwa [List.getElem?_append_left hlt] at hi
    · rw [List.getElem?_append_right (Nat.not_lt.mp hlt)] at hi
      rw [List.mem_singleton.mp (List.mem_of_getElem? hi), hdead] at hlive
      cases hlive
  refine ⟨fun i j p q hi hj hp hq => h.one i j p q (hold i p hi hp) (hold j q hj hq) hp hq,
    fun p hp hspent => ?_, fun user ttl hmem => ?_⟩
  · rcases List.mem_append.mp hp with hp | hp
    · exact h.covered p hp hspent
    · rw [List.mem_singleton.mp hp] at hspent
      cases phase with
      | revoked _ => cases hdead
      | answered _ => cases hdead
      | _ => cases hspent
  · rcases List.mem_append.mp hmem with hmem | hmem
    · exact h.pending user ttl hmem
    · exact absurd (List.mem_singleton.mp hmem).symm (hwrite user ttl)

theorem one_set (h : s.Single claims) {index : Nat} {phase' : Phase}
    (hget : s.requests[index]? = some phase) (hlive : phase'.live = true → phase.live = true) :
    ∀ (i j : Nat) (p q : Phase), (s.requests.set index phase')[i]? = some p →
      (s.requests.set index phase')[j]? = some q → p.live = true → q.live = true → i = j := by
  intro i j p q hi hj hp hq
  rcases List.getElem?_set_cases hi with ⟨rfl, rfl⟩ | ⟨-, hi'⟩
  · rcases List.getElem?_set_cases hj with ⟨rfl, -⟩ | ⟨-, hj'⟩
    · rfl
    · exact h.one _ _ _ _ hget hj' (hlive hp) hq
  · rcases List.getElem?_set_cases hj with ⟨rfl, rfl⟩ | ⟨-, hj'⟩
    · exact h.one _ _ _ _ hi' hget hp (hlive hq)
    · exact h.one _ _ _ _ hi' hj' hp hq

theorem single_act (h : s.Single claims) {index : Nat} {action : Action} {phase' : Phase}
    {b : Blacklist} (hget : s.requests[index]? = some phase)
    (hadvance : advance jwt claims s.now s.blacklist action phase = some (phase', b))
    (hapart : s.Apart claims (.act index action)) :
    Single claims { s with requests := s.requests.set index phase', blacklist := b } := by
  have hmem : phase ∈ s.requests := List.mem_of_getElem? hget
  obtain ⟨reachable, rfl, rfl, rfl, hcheck⟩ | ⟨hlive, rfl, hwrite, hspent⟩ |
    ⟨user, rfl, rfl, rfl, hclock⟩ | ⟨user, ttl, rfl, rfl, rfl⟩ := advance_cases hadvance
  · -- a lookup: if it finds no entry, no other request is live
    obtain ⟨hclear, hearly⟩ := hapart
    have hothers : phase' = .unrevoked → ∀ p ∈ s.requests, p.live = false := by
      rintro rfl p hp
      rcases hcheck with ⟨hdead, -⟩ | ⟨-, hno⟩
      · cases hdead
      · cases p with
        | answered tokens =>
          have hcovered := h.covered _ hp rfl
          rw [hcovered.isRevoked (timestamp_lt_iff.mp hearly)] at hno
          cases hno
        | _ => exact hclear _ hp
    have hnew : phase'.spent = false ∧ (∀ user ttl, phase' ≠ .revoking user ttl) := by
      rcases hcheck with ⟨hdead, hunspent⟩ | ⟨rfl, -⟩
      · refine ⟨hunspent, ?_⟩
        rintro user ttl rfl
        cases hdead
      · exact ⟨rfl, nofun⟩
    refine ⟨fun i j p q hi hj hp hq => ?_, fun p hp hsp => ?_, fun user ttl hp => ?_⟩
    · rcases hcheck with ⟨hdead, -⟩ | ⟨hunrevoked, -⟩
      · exact one_set h hget (fun hl => absurd hl (by rw [hdead]; exact Bool.false_ne_true))
          i j p q hi hj hp hq
      · have hself : ∀ (k : Nat) (r : Phase), (s.requests.set index phase')[k]? = some r →
            r.live = true → k = index := by
          intro k r hk hr
          rcases List.getElem?_set_cases hk with ⟨rfl, -⟩ | ⟨-, hk⟩
          · rfl
          · rw [hothers hunrevoked r (List.mem_of_getElem? hk)] at hr
            cases hr
        rw [hself i p hi hp, hself j q hj hq]
    · rcases List.mem_or_eq_of_mem_set hp with hp | rfl
      · exact h.covered p hp hsp
      · rw [hnew.1] at hsp
        cases hsp
    · rcases List.mem_or_eq_of_mem_set hp with hp | heq
      · exact h.pending user ttl hp
      · exact absurd heq.symm (hnew.2 user ttl)
  · refine ⟨one_set h hget fun _ => hlive, fun p hp hsp => ?_, fun user ttl hp => ?_⟩
    · rcases List.mem_or_eq_of_mem_set hp with hp | rfl
      · exact h.covered p hp hsp
      · exact h.covered phase hmem (hspent hsp)
    · rcases List.mem_or_eq_of_mem_set hp with hp | heq
      · exact h.pending user ttl hp
      · exact absurd heq.symm (hwrite user ttl)
  · rcases hclock with ⟨-, hlate⟩ | ⟨rfl, hleft⟩
    · exact absurd hapart (not_lt.mpr hlate)
    · refine ⟨one_set h hget fun _ => rfl, fun p hp hsp => ?_, fun user' ttl hp => ?_⟩
      · rcases List.mem_or_eq_of_mem_set hp with hp | rfl
        · exact h.covered p hp hsp
        · cases hsp
      · rcases List.mem_or_eq_of_mem_set hp with hp | heq
        · exact h.pending user' ttl hp
        · cases heq
          refine ⟨by omega, ?_⟩
          have hnow : secondStart (timestamp s.now) ≤ s.now := le_timestamp_iff.mp (Int.le_refl _)
          unfold secondStart Duration.seconds at *
          linarith
  · obtain ⟨hpos, hlong⟩ := h.pending user ttl hmem
    have hcovered : Covered (s.blacklist.revoke claims.jti ttl s.now) claims := by
      refine ⟨_, Function.update_self .., ?_⟩
      rw [max_eq_left (by omega : 1 ≤ ttl)]
      exact hlong
    refine ⟨one_set h hget fun _ => rfl, fun p hp hsp => hcovered, fun user' ttl' hp => ?_⟩
    rcases List.mem_or_eq_of_mem_set hp with hp | heq
    · exact h.pending user' ttl' hp
    · cases heq

theorem single_next {t : Rotation} (h : s.Single claims) (hapart : s.Apart claims step)
    (hstep : s.next jwt claims step = some t) : t.Single claims := by
  obtain ⟨elapsed, -, rfl⟩ | ⟨phase, -, hdead, hwrite, rfl⟩ |
    ⟨index, action, phase, phase', b, rfl, hget, hadvance, rfl⟩ := next_cases hstep
  · exact single_tick h elapsed
  · exact single_submit h hdead hwrite
  · exact single_act h hget hadvance hapart

/-- **At most one request with a refresh token is answered**, in every run whose requests
keep apart. -/
theorem refresh_answered_once {now : DateTime} {steps : List RotationStep} {s : Rotation}
    (hapart : Meets (next jwt claims) (Apart claims) (start now) steps)
    (hrun : exec (next jwt claims) (start now) steps = some s) : s.AtMostOne := by
  have hsingle : s.Single claims :=
    exec_invariant (Single claims) (fun _ _ _ => single_next) (single_start now) hapart hrun
  intro i j p q hi hj
  exact hsingle.one i j _ _ hi hj rfl rfl

end Rotation

end Token

/-! ## One token, presented twice -/

def rotatedUser : UserInfo := ⟨⟨"user-1"⟩, "tester", .active⟩

def rotatedToken : Claims :=
  sessionJwt.issue rotatedUser "jti-1" (secondStart 0) 3600 .refresh

def wholeRequest (index : Nat) : List RotationStep :=
  [.submit, .act index (.check true), .act index (.load (.found rotatedUser)),
    .act index .readClock, .act index (.write true),
    .act index (.respond (some ("access", "refresh")))]

def presentedAgain : List RotationStep :=
  wholeRequest 0 ++ [.tick 1000000000, .submit, .act 1 (.check true)]

theorem refresh_answered_once_presentedAgain :
    ∃ s, exec (Rotation.next sessionJwt rotatedToken) (.start (secondStart 10)) presentedAgain =
        some s ∧ s.requests[1]? = some (.refused (.auth .blacklisted)) ∧ s.AtMostOne := by
  have hran : (exec (Rotation.next sessionJwt rotatedToken) (.start (secondStart 10))
      presentedAgain).any (fun s => s.requests[1]? = some (.refused (.auth .blacklisted))) =
        true := by
    decide +kernel
  obtain ⟨s, hrun, hrefused⟩ := (Option.any_eq_true _ _).mp hran
  exact ⟨s, hrun, of_decide_eq_true hrefused,
    Rotation.refresh_answered_once (by decide +kernel) hrun⟩

/-- Both requests look the token up before either revokes it. -/
def presentedTogether : List RotationStep :=
  [.submit, .submit, .act 0 (.check true), .act 1 (.check true)] ++
    (wholeRequest 0).drop 2 ++ (wholeRequest 1).drop 2

/-- A request after `exp`, whose revocation writes nothing. -/
def lateRequest (index : Nat) : List RotationStep :=
  [.submit, .act index (.check true), .act index (.load (.found rotatedUser)),
    .act index .readClock, .act index (.respond (some ("access", "refresh")))]

/-- Two requests are answered when both look the token up first, and also one after the
other in the seconds the decoder adds to the token's `exp`. -/
theorem refresh_answered_twice :
    (exec (Rotation.next sessionJwt rotatedToken) (.start (secondStart 10)) presentedTogether).map
      (fun s => s.requests.map Phase.isAnswered) = some [true, true] ∧
    (exec (Rotation.next sessionJwt rotatedToken) (.start (secondStart 3601))
      (lateRequest 0 ++ lateRequest 1)).map (fun s => s.requests.map Phase.isAnswered) =
        some [true, true] := by
  constructor
  · decide +kernel
  · decide +kernel

end OxideArb.Web
