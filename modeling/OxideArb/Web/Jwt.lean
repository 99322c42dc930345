import Mathlib.Logic.Function.Basic
import OxideArb.Lib.Checked
import OxideArb.Types.Basic

/-!
# Tokens and their revocation

A request passes when its claims decode, with five seconds of leeway, and their id is not
revoked. A revocation lives for the remaining lifetime by `exp`, so the decoder outlasts it.
Signatures are left out: a presented token is the claims it was signed with, or nothing.
-/

namespace OxideArb.Web

open Checked

inductive TokenType
  | access
  | refresh
deriving DecidableEq, Repr

def TokenType.asStr : TokenType → String
  | access => "access"
  | refresh => "refresh"

inductive AuthError
  | missingToken
  | invalidToken
  | expiredToken
  | blacklisted
  | wrongTokenType (expected : String)
  | invalidCredentials
  | blacklistUnavailable
deriving DecidableEq, Repr

structure Claims where
  jti : String
  sub : String
  iss : String
  iat : Int
  nbf : Int
  exp : Int
  username : String
  tokenType : TokenType
deriving DecidableEq, Repr

inductive UserStatus
  | active
  | disabled
deriving DecidableEq, Repr

/-- A user id, by its text form. -/
structure UserId where
  text : String
deriving DecidableEq, Repr

structure UserInfo where
  id : UserId
  username : String
  status : UserStatus
deriving DecidableEq, Repr

/-- `Utc::now().timestamp()`: whole seconds, floored. -/
def timestamp (now : DateTime) : Int := now / 1000000000

/-- The first instant of a second. -/
def secondStart (secs : Int) : DateTime := Duration.seconds secs

variable {now : DateTime} {r : Revocation} {b : Blacklist} {claims : Claims} {rs : List Revocation}

theorem timestamp_lt_iff {secs : Int} : timestamp now < secs ↔ now < secondStart secs := by
  unfold timestamp secondStart Duration.seconds
  exact Int.ediv_lt_iff_lt_mul (by decide)

theorem le_timestamp_iff {secs : Int} : secs ≤ timestamp now ↔ secondStart secs ≤ now := by
  unfold timestamp secondStart Duration.seconds
  exact Int.le_ediv_iff_mul_le (by decide)

def clockSkewLeewaySecs : Int := 5

/-! ## The revocation store -/

/-- The revoked ids, each with the instant its entry expires at. -/
abbrev Blacklist := String → Option DateTime

namespace Blacklist

def isRevoked (b : Blacklist) (jti : String) (now : DateTime) : Bool :=
  match b jti with
  | none => false
  | some expires => now < expires

/-- `SET EX`: a new entry, in place of an older one. -/
def revoke (b : Blacklist) (jti : String) (ttlSecs : Int) (now : DateTime) : Blacklist :=
  Function.update b jti (some (now + Duration.seconds (max ttlSecs 1)))

end Blacklist

structure JwtService where
  issuer : String
  accessTtlSecs : Int
  refreshTtlSecs : Int
deriving DecidableEq, Repr

structure Timing where
  read : DateTime
  write : DateTime
  ordered : read ≤ write

def remainingTtl (exp : Int) (now : DateTime) : Int := max (exp - timestamp now) 0

namespace JwtService

variable (jwt : JwtService) (user : UserInfo)

def issue (jti : String) (now : DateTime) (ttlSecs : Int) (tokenType : TokenType) : Claims :=
  let now := timestamp now
  { jti := jti, sub := user.id.text, iss := jwt.issuer, iat := now, nbf := now
    exp := now + ttlSecs, username := user.username, tokenType := tokenType }

def encodeAccess (jti : String) (now : DateTime) : Claims :=
  jwt.issue user jti now jwt.accessTtlSecs .access

def encodeRefresh (jti : String) (now : DateTime) : Claims :=
  jwt.issue user jti now jwt.refreshTtlSecs .refresh

def decode (token : Option Claims) (expected : TokenType) (now : DateTime) :
    Except AuthError Claims :=
  match token with
  | none => .error .invalidToken
  | some claims =>
    if claims.exp < timestamp now - clockSkewLeewaySecs then .error .expiredToken
    else if timestamp now + clockSkewLeewaySecs < claims.nbf then .error .invalidToken
    else if claims.iss ≠ jwt.issuer then .error .invalidToken
    else if claims.tokenType ≠ expected then .error (.wrongTokenType expected.asStr)
    else .ok claims

def revoke (claims : Claims) (at_ : Timing) (reachable : Bool) (b : Blacklist) :
    Except AuthError Blacklist :=
  let ttl := remainingTtl claims.exp at_.read
  if ttl = 0 then .ok b
  else if reachable then .ok (b.revoke claims.jti ttl at_.write)
  else .error .blacklistUnavailable

def isRevoked (b : Blacklist) (jti : String) (now : DateTime) (reachable : Bool) :
    Except AuthError Bool :=
  if reachable then .ok (b.isRevoked jti now) else .error .blacklistUnavailable

/-- The token checks of a request: the claims decode at one instant and are looked up
among the revoked ids at a later one. -/
def accept (b : Blacklist) (token : Option Claims) (expected : TokenType)
    (decodedAt checkedAt : DateTime) (reachable : Bool) : Except AuthError Claims := do
  let claims ← jwt.decode token expected decodedAt
  if ← isRevoked b claims.jti checkedAt reachable then .error .blacklisted
  .ok claims

variable {token : Option Claims} {expected : TokenType}

theorem decode_eq_ok_iff {claims : Claims} {now : DateTime} :
    jwt.decode token expected now = .ok claims ↔
      token = some claims ∧ timestamp now ≤ claims.exp + clockSkewLeewaySecs ∧
        claims.nbf ≤ timestamp now + clockSkewLeewaySecs ∧ claims.iss = jwt.issuer ∧
        claims.tokenType = expected := by
  cases token with
  | none => simp [decode]
  | some presented =>
    simp only [decode, ite_error_eq_ok, Except.ok.injEq, Option.some.injEq, not_lt, not_not]
    constructor
    · rintro ⟨hexp, hnbf, hiss, htype, rfl⟩
      exact ⟨rfl, by omega, hnbf, hiss, htype⟩
    · rintro ⟨rfl, hexp, hnbf, hiss, htype⟩
      exact ⟨by omega, hnbf, hiss, htype, rfl⟩

theorem accept_eq_ok_iff {b : Blacklist} {claims : Claims} {decodedAt checkedAt : DateTime}
    {reachable : Bool} : jwt.accept b token expected decodedAt checkedAt reachable = .ok claims ↔
      jwt.decode token expected decodedAt = .ok claims ∧ reachable = true ∧
        b.isRevoked claims.jti checkedAt = false := by
  unfold accept isRevoked
  rw [bind_eq_ok]
  constructor
  · rintro ⟨decoded, hdecode, h⟩
    obtain ⟨revoked, hrevoked, h⟩ := bind_eq_ok.mp h
    obtain ⟨hreach, hrevoked⟩ := ite_ok_eq_ok.mp hrevoked
    obtain ⟨hno, h⟩ := exit_eq_ok.mp h
    cases h
    exact ⟨hdecode, hreach, by rw [hrevoked]; exact Bool.eq_false_iff.mpr hno⟩
  · rintro ⟨hdecode, hreach, hno⟩
    refine ⟨claims, hdecode, bind_eq_ok.mpr ⟨false, ?_, rfl⟩⟩
    rw [if_pos hreach, hno]

end JwtService

/-! ## Revoking calls -/

structure Revocation where
  claims : Claims
  at_ : Timing
  reachable : Bool

def Revocation.run (r : Revocation) (b : Blacklist) : Except AuthError Blacklist :=
  JwtService.revoke r.claims r.at_ r.reachable b

/-- What the call leaves behind, whether it succeeds or not. -/
def Revocation.apply (b : Blacklist) (r : Revocation) : Blacklist :=
  match r.run b with
  | .ok b => b
  | .error _ => b

structure LogoutBody where
  refreshToken : Option Claims
  decodedAt : DateTime
  at_ : Timing
  reachable : Bool

/-- Revoke the access token and, when the body carries one that decodes, the refresh token. -/
def logout (jwt : JwtService) (actor : Revocation) (body : Option LogoutBody) (b : Blacklist) :
    Except AuthError Blacklist := do
  let b ← actor.run b
  match body with
  | none => .ok b
  | some payload =>
    match jwt.decode payload.refreshToken .refresh payload.decodedAt with
    | .ok claims => Revocation.run ⟨claims, payload.at_, payload.reachable⟩ b
    | .error _ => .ok b

inductive RevokingCall
  | revoke (r : Revocation)
  | logout (actor : Revocation) (body : Option LogoutBody)

namespace RevokingCall

def run (jwt : JwtService) (b : Blacklist) : RevokingCall → Except AuthError Blacklist
  | revoke r => r.run b
  | logout actor body => Web.logout jwt actor body b

/-- The revocations a call makes, in order. -/
def revocations (jwt : JwtService) : RevokingCall → List Revocation
  | revoke r => [r]
  | logout actor none => [actor]
  | logout actor (some payload) =>
    match jwt.decode payload.refreshToken .refresh payload.decodedAt with
    | .ok claims => [actor, ⟨claims, payload.at_, payload.reachable⟩]
    | .error _ => [actor]

end RevokingCall

theorem Revocation.apply_of_ok {b' : Blacklist} (h : r.run b = .ok b') :
    Revocation.apply b r = b' := by
  unfold Revocation.apply
  rw [h]

theorem RevokingCall.run_eq_ok {jwt : JwtService} {call : RevokingCall} {b' : Blacklist}
    (h : call.run jwt b = .ok b') : b' = (call.revocations jwt).foldl Revocation.apply b ∧
      ∀ r ∈ call.revocations jwt, ∃ s s', r.run s = .ok s' := by
  cases call with
  | revoke r =>
    refine ⟨(Revocation.apply_of_ok h).symm, fun r' hr' => ?_⟩
    rw [List.mem_singleton.mp hr']
    exact ⟨b, b', h⟩
  | logout actor body =>
    obtain ⟨s, hs, h⟩ := bind_eq_ok.mp h
    cases body with
    | none =>
      cases h
      refine ⟨(Revocation.apply_of_ok hs).symm, fun r' hr' => ?_⟩
      rw [List.mem_singleton.mp hr']
      exact ⟨b, _, hs⟩
    | some payload =>
      simp only [revocations]
      cases hdecode : jwt.decode payload.refreshToken .refresh payload.decodedAt with
      | error e =>
        simp only [hdecode] at h
        cases h
        refine ⟨(Revocation.apply_of_ok hs).symm, fun r' hr' => ?_⟩
        rw [List.mem_singleton.mp hr']
        exact ⟨b, _, hs⟩
      | ok claims =>
        simp only [hdecode] at h
        constructor
        · rw [List.foldl_cons, List.foldl_cons, Revocation.apply_of_ok hs,
            Revocation.apply_of_ok h]
          rfl
        · intro r' hr'
          rcases List.mem_cons.mp hr' with rfl | hr'
          · exact ⟨b, s, hs⟩
          · rw [List.mem_singleton.mp hr']
            exact ⟨s, b', h⟩

/-! ## How long an entry keeps a token out -/

/-- An entry for the token that lives until its `exp` or longer. -/
def Covered (b : Blacklist) (claims : Claims) : Prop :=
  ∃ expires, b claims.jti = some expires ∧ secondStart claims.exp ≤ expires

/-- The id of a token is the id of no other token. -/
def UniqueId (claims : Claims) (rs : List Revocation) : Prop :=
  ∀ r ∈ rs, r.claims.jti = claims.jti → r.claims = claims

theorem Revocation.apply_cases (r : Revocation) (b : Blacklist) :
    Revocation.apply b r = b ∨
      (timestamp r.at_.read < r.claims.exp ∧ Revocation.apply b r =
        Function.update b r.claims.jti
          (some (r.at_.write + Duration.seconds (r.claims.exp - timestamp r.at_.read)))) := by
  unfold Revocation.apply Revocation.run JwtService.revoke remainingTtl
  by_cases hexpired : max (r.claims.exp - timestamp r.at_.read) 0 = 0
  · simp only [if_pos hexpired, true_or]
  · cases r.reachable with
    | false => simp [hexpired]
    | true =>
      have hleft : timestamp r.at_.read < r.claims.exp := by omega
      have hmax : max (max (r.claims.exp - timestamp r.at_.read) 0) 1 =
          r.claims.exp - timestamp r.at_.read := by omega
      simp only [if_neg hexpired, if_true, Blacklist.revoke, hmax]
      exact .inr ⟨hleft, trivial⟩

theorem covered_update {at_ : Timing} : Covered (Function.update b claims.jti
      (some (at_.write + Duration.seconds (claims.exp - timestamp at_.read)))) claims := by
  refine ⟨_, Function.update_self .., ?_⟩
  have hread : secondStart (timestamp at_.read) ≤ at_.read :=
    le_timestamp_iff.mp (Int.le_refl _)
  have hwrite := at_.ordered
  unfold secondStart Duration.seconds at *
  linarith

theorem covered_apply (h : Covered b claims) (hid : r.claims.jti = claims.jti → r.claims = claims) :
    Covered (Revocation.apply b r) claims := by
  rcases r.apply_cases b with heq | ⟨-, heq⟩
  · rw [heq]
    exact h
  · rw [heq]
    by_cases hjti : r.claims.jti = claims.jti
    · obtain rfl := hid hjti
      exact covered_update
    · obtain ⟨expires, hentry, hlong⟩ := h
      exact ⟨expires, by rw [Function.update_of_ne (Ne.symm hjti)]; exact hentry, hlong⟩

theorem covered_foldl (hid : UniqueId claims rs) {b : Blacklist} (h : Covered b claims) :
    Covered (rs.foldl Revocation.apply b) claims :=
  List.foldlRecOn rs Revocation.apply (motive := (Covered · claims)) h
    fun _ h r hr => covered_apply h (hid r hr)

theorem covered_of_mem (hid : UniqueId claims rs) (hr : r ∈ rs) (hclaims : r.claims = claims)
    (hok : ∃ s s', r.run s = .ok s') (hleft : timestamp r.at_.read < claims.exp) :
    ∀ {b : Blacklist}, Covered (rs.foldl Revocation.apply b) claims := by
  induction rs with
  | nil => cases hr
  | cons r' rs ih =>
    intro b
    have hid' : UniqueId claims rs := fun x hx => hid x (List.mem_cons_of_mem r' hx)
    rcases List.mem_cons.mp hr with rfl | hr
    · refine covered_foldl hid' ?_
      subst hclaims
      obtain ⟨s, s', hok⟩ := hok
      have hreach : r.reachable = true := by
        unfold Revocation.run JwtService.revoke remainingTtl at hok
        rw [if_neg (by omega)] at hok
        by_contra hno
        rw [if_neg hno] at hok
        cases hok
      unfold Revocation.apply Revocation.run JwtService.revoke remainingTtl
      rw [if_neg (by omega), if_pos hreach]
      have hmax : max (max (r.claims.exp - timestamp r.at_.read) 0) 1 =
          r.claims.exp - timestamp r.at_.read := by omega
      simp only [Blacklist.revoke, hmax]
      exact covered_update
    · exact ih hid' hr

theorem Covered.isRevoked (h : Covered b claims) (hnow : now < secondStart claims.exp) :
    b.isRevoked claims.jti now = true := by
  obtain ⟨expires, hentry, hlong⟩ := h
  unfold Blacklist.isRevoked
  rw [hentry]
  exact decide_eq_true (lt_of_lt_of_le hnow hlong)

theorem exists_not_isRevoked (b : Blacklist) (jti : String) (from_ : DateTime) :
    ∃ now, from_ ≤ now ∧ b.isRevoked jti now = false := by
  unfold Blacklist.isRevoked
  cases b jti with
  | none => exact ⟨from_, le_refl _, rfl⟩
  | some expires =>
    exact ⟨max from_ expires, le_max_left _ _, decide_eq_false (not_lt.mpr (le_max_right _ _))⟩

/-- Some second lies in the decoder's window, which reaches the leeway beyond `nbf` and `exp`. -/
def Decodable (jwt : JwtService) (claims : Claims) : Prop :=
  claims.iss = jwt.issuer ∧ claims.nbf ≤ claims.exp + 2 * clockSkewLeewaySecs

theorem exists_decode_iff {jwt : JwtService} {from_ : DateTime} :
    (∃ now expected, from_ ≤ now ∧ jwt.decode (some claims) expected now = .ok claims) ↔
      Decodable jwt claims ∧ from_ < secondStart (claims.exp + clockSkewLeewaySecs + 1) := by
  constructor
  · rintro ⟨now, expected, hfrom, hdecode⟩
    obtain ⟨-, hexp, hnbf, hiss, -⟩ := (jwt.decode_eq_ok_iff).mp hdecode
    refine ⟨⟨hiss, by omega⟩, lt_of_le_of_lt hfrom (timestamp_lt_iff.mp (by omega))⟩
  · rintro ⟨⟨hiss, hnbf⟩, hfrom⟩
    have hlast : timestamp (secondStart (claims.exp + clockSkewLeewaySecs + 1) - 1) =
        claims.exp + clockSkewLeewaySecs := by
      apply le_antisymm
      · exact Int.lt_add_one_iff.mp (timestamp_lt_iff.mpr (Int.sub_one_lt_of_le (le_refl _)))
      · refine le_timestamp_iff.mpr (Int.le_sub_one_of_lt ?_)
        unfold secondStart Duration.seconds
        linarith
    refine ⟨_, claims.tokenType, Int.le_sub_one_of_lt hfrom, (jwt.decode_eq_ok_iff).mpr ?_⟩
    rw [hlast]
    exact ⟨rfl, le_refl _, by omega, hiss, rfl⟩

/-- **A revoked token is refused until its `exp`, and at every later time exactly when the
decoder refuses it already.** The call revokes the token and returns at `returned`; other
revocations, begun before or after, are carried out in the meantime. -/
theorem revoked_token_refused_iff {jwt : JwtService} {call : RevokingCall} {b b' : Blacklist}
    (hcall : call.run jwt b = .ok b') {r : Revocation} (hr : r ∈ call.revocations jwt)
    (hid : UniqueId r.claims (call.revocations jwt)) {returned : DateTime}
    (hreturned : r.at_.write ≤ returned) :
    (∀ later, UniqueId r.claims later → ∀ expected decodedAt checkedAt reachable,
      returned ≤ decodedAt → decodedAt ≤ checkedAt → checkedAt < secondStart r.claims.exp →
      jwt.accept (later.foldl Revocation.apply b') (some r.claims) expected decodedAt checkedAt
        reachable ≠ .ok r.claims) ∧
    ((∀ later, UniqueId r.claims later → ∀ expected decodedAt checkedAt reachable,
      returned ≤ decodedAt → decodedAt ≤ checkedAt →
      jwt.accept (later.foldl Revocation.apply b') (some r.claims) expected decodedAt checkedAt
        reachable ≠ .ok r.claims) ↔
      ¬ Decodable jwt r.claims ∨
        secondStart (r.claims.exp + clockSkewLeewaySecs + 1) ≤ returned) := by
  obtain ⟨rfl, hok⟩ := call.run_eq_ok hcall
  constructor
  · intro later hlater expected decodedAt checkedAt reachable hfrom hle hbefore haccept
    have hleft : timestamp r.at_.read < r.claims.exp := by
      refine timestamp_lt_iff.mpr (lt_of_le_of_lt ?_ hbefore)
      exact (r.at_.ordered.trans hreturned).trans (hfrom.trans hle)
    have hcovered := covered_foldl hlater (covered_of_mem hid hr rfl (hok r hr) hleft (b := b))
    have hno := ((jwt.accept_eq_ok_iff).mp haccept).2.2
    rw [hcovered.isRevoked hbefore] at hno
    cases hno
  · constructor
    · intro hrefused
      by_contra hcond
      rw [not_or, not_not, not_le] at hcond
      obtain ⟨decodedAt, expected, hfrom, hdecode⟩ := exists_decode_iff.mpr hcond
      obtain ⟨checkedAt, hle, hno⟩ := exists_not_isRevoked
        ((call.revocations jwt).foldl Revocation.apply b) r.claims.jti decodedAt
      exact hrefused [] (fun _ h => nomatch h) expected decodedAt checkedAt true hfrom hle
        ((jwt.accept_eq_ok_iff).mpr ⟨hdecode, rfl, hno⟩)
    · intro hcond later _ expected decodedAt checkedAt reachable hfrom _ haccept
      have hdecode := ((jwt.accept_eq_ok_iff).mp haccept).1
      obtain ⟨hdecodable, hearly⟩ := exists_decode_iff.mp ⟨decodedAt, expected, hfrom, hdecode⟩
      exact hcond.elim (fun h => h hdecodable) (fun h => absurd hearly (not_lt.mpr h))

def sessionJwt : JwtService where
  issuer := "oxide-arb"
  accessTtlSecs := 900
  refreshTtlSecs := 604800

/-- A session of fifteen minutes that logs out after ten seconds. -/
def session : Claims :=
  sessionJwt.encodeAccess ⟨⟨"user-1"⟩, "tester", .active⟩ "jti-1" (secondStart 0)

def sessionLogout : RevokingCall :=
  .logout ⟨session, ⟨secondStart 10, secondStart 10, le_refl _⟩, true⟩ none

theorem revoked_token_refused_iff_session :
    ∃ b, sessionLogout.run sessionJwt (fun _ => none) = .ok b ∧
      sessionJwt.accept b (some session) .access (secondStart 899) (secondStart 899) true ≠
        .ok session := by
  obtain ⟨b, hb⟩ : ∃ b, sessionLogout.run sessionJwt (fun _ => none) = .ok b :=
    exists_ok_of_isSome (by decide +kernel)
  refine ⟨b, hb, ?_⟩
  have hid : UniqueId session (sessionLogout.revocations sessionJwt) := by
    intro r hr _
    rw [List.mem_singleton.mp hr]
  exact (revoked_token_refused_iff hb List.mem_cons_self hid (le_refl _)).1 [] (fun _ h => nomatch h)
    .access (secondStart 899) (secondStart 899) true (by decide) (le_refl _) (by decide)

/-- The entry of the logout has gone when the token is presented two seconds after its `exp`. -/
theorem logged_out_token_accepted :
    (sessionLogout.run sessionJwt (fun _ => none) >>= fun b =>
      sessionJwt.accept b (some session) .access (secondStart 902) (secondStart 902) true) =
        .ok session := by
  decide +kernel

end OxideArb.Web
