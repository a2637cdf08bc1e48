import Lxd.Oidc.Cookies
import Lxd.Go.Json
import Lxd.Go.Strings
import Lxd.Go.Except

/-!
# Authenticating a request (`lxd/auth/oidc/oidc.go`)

`Auth` ensures the configuration, reads the session cookies, and then authenticates the bearer
access token of the `Authorization` header, or else the ID and refresh tokens of the cookies.
The identity provider, the relying-party library and the identity cache answer as an `Idp`
record says; a run of `Auth` is one request, whatever they answer.

* `auth_subject_of_cookies`: a result from the cookie tokens names a subject.
* `refreshIDToken_cookies`: the cookies the refresh path writes read back as the new session
  and the refreshed tokens.
* `bearerToken_iff`: the headers the `Bearer ` split accepts are `a ++ "Bearer " ++ t` with
  `"Bearer "` in neither `a` nor `t`, whatever `a` is.
-/

namespace Lxd

namespace Oidc

open Go

/-- `api.IdentityTypeOIDCClient`, the identity type `Auth` reports. -/
inductive IdentityType
  | oidcClient
  deriving DecidableEq, Repr

/-- `AuthenticationResult`; `none` groups is a nil slice. -/
structure AuthenticationResult where
  identityType : IdentityType
  subject : String
  email : String
  name : String
  identityProviderGroups : Option (List String)
  deriving DecidableEq, Repr

/-- An error `Auth` returns: its text, and whether it is an `AuthError`, after which the caller
writes the headers of the device flow. -/
structure Err where
  msg : String
  isAuthError : Bool
  deriving DecidableEq, Repr

def Err.authError (msg : String) : Err := ⟨"Failed to authenticate: " ++ msg, true⟩

def Err.plain (msg : String) : Err := ⟨msg, false⟩

/-- `*oidc.AccessTokenClaims`: the subject, the audience and the other claims. -/
structure AccessTokenClaims where
  subject : String
  audience : List String
  claims : Claims

/-- An `rp.SubjectGetter` with its claims: `*oidc.IDTokenClaims` or `*oidc.UserInfo`. -/
structure SubjectClaims where
  subject : String
  claims : Claims

/-- What `rp.RefreshTokens` returns: the new refresh token, and the `id_token` extra of the
response (`null` when absent). -/
structure Tokens where
  refreshToken : String
  idToken : Json

structure Identity where
  identifier : String
  name : String

/-- A failed `GetByOIDCSubject`: its text, and whether it is a 404 (`api.StatusErrorCheck`). -/
structure CacheError where
  msg : String
  notFound : Bool

/-- The answers of the identity provider, the `rp` and `op` libraries and the identity cache:
`op.VerifyAccessToken` with the access-token verifier, `rp.Userinfo` for a token and the subject
it should name, `rp.VerifyIDToken`, `rp.RefreshTokens`, `identityCache.GetByOIDCSubject`,
`mail.ParseAddress`, and `uuid.New()`, the UUID of a refreshed session. -/
structure Idp where
  verifyAccessToken : Option AccessTokenVerifier → String → Except String AccessTokenClaims
  userinfo : Option RelyingParty → String → String → Except String SubjectClaims
  verifyIDToken : Option RelyingParty → String → Except String SubjectClaims
  refreshTokens : Option RelyingParty → String → Except String Tokens
  getByOIDCSubject : String → Except CacheError Identity
  parseAddress : String → Except String Unit
  newSession : UUID

/-- `getEmailFromClaims`: the `email` claim, a string that `mail.ParseAddress` accepts. -/
def getEmailFromClaims (idp : Idp) (claims : Claims) : Except Err String :=
  match claims.get "email" with
  | none => .error (.plain "Token does not contain an email address")
  | some (.str email) => match idp.parseAddress email with
    | .error e => .error (.plain ("Token claim \"email\" contains a value " ++ quote email ++
        " that is not a valid email address: " ++ e))
    | .ok () => .ok email
  | some v => .error (.plain ("Token claim \"email\" has incorrect type (expected string, got " ++
      v.goType ++ ")"))

namespace Verifier

/-- `getGroupsFromClaims`: the configured groups claim as a list of strings; nil when no claim is
configured, or it is absent or not a list of strings (the code logs a warning). -/
def getGroupsFromClaims (o : Verifier) (customClaims : Claims) : Option (List String) :=
  if o.groupsClaim == "" then none
  else match customClaims.get o.groupsClaim with
    | some (.arr groupsArr) => groupsArr.mapM fun
      | .str groupName => some groupName
      | _ => none
    | _ => none

/-- `getResultFromClaims`: a result needs a valid email and a subject; the name is optional. -/
def getResultFromClaims (idp : Idp) (o : Verifier) (sg : SubjectClaims) (claims : Claims) :
    Except Err AuthenticationResult := do
  let email ← getEmailFromClaims idp claims
  let subject := sg.subject
  if subject == "" then throw (.plain "Token does not contain a subject")
  let name := match claims.get "name" with
    | some (.str nameStr) => nameStr
    | _ => ""
  return ⟨.oidcClient, subject, email, name, o.getGroupsFromClaims claims⟩

/-- `authenticateAccessToken`: verify the token and its audience, then take the identity from
the cache, or else from the user info endpoint. -/
def authenticateAccessToken (idp : Idp) (o : Verifier) (accessToken : String) :
    Except Err AuthenticationResult := do
  let claims ← (idp.verifyAccessToken o.accessTokenVerifier accessToken).mapError
    fun e => .authError ("Failed to verify access token: " ++ e)
  if o.audience != "" && !claims.audience.contains o.audience then
    throw (.authError "Provided OIDC token doesn't allow the configured audience")
  match idp.getByOIDCSubject claims.subject with
  | .ok id =>
    return ⟨.oidcClient, claims.subject, id.identifier, id.name,
      o.getGroupsFromClaims claims.claims⟩
  | .error e =>
    if !e.notFound then
      throw (.plain ("Failed to get OIDC identity from identity cache by their subject (" ++
        claims.subject ++ "): " ++ e.msg))
    let userInfo ← (idp.userinfo o.relyingParty accessToken claims.subject).mapError
      fun e => .authError ("Failed to call user info endpoint with given access token: " ++ e)
    o.getResultFromClaims idp userInfo userInfo.claims

/-- The refresh half of `authenticateIDToken`: refresh the tokens, verify the new ID token,
start a new session and write its cookies. The cookies written come with the outcome. -/
def refreshIDToken (L : Libs) (idp : Idp) (o : Verifier) (refreshToken : String) :
    Except Err AuthenticationResult × List SetCookie :=
  match idp.refreshTokens o.relyingParty refreshToken with
  | .error e => (.error (.authError ("Failed to refresh ID tokens: " ++ e)), [])
  | .ok tokens => match tokens.idToken with
    | .null => (.error (.authError "ID tokens missing from OIDC refresh response"), [])
    | .str idToken => match idp.verifyIDToken o.relyingParty idToken with
      | .error e => (.error (.authError ("Failed to verify refreshed ID token: " ++ e)), [])
      | .ok claims =>
        let sessionID := idp.newSession
        match o.secureCookieFromSession L sessionID with
        | .error e => (.error (.authError
            ("Failed to create new session with refreshed token: " ++ e)), [])
        | .ok secureCookie =>
          match setCookies L (some secureCookie) sessionID idToken tokens.refreshToken false with
          | .error e => (.error (.authError ("Failed to update login cookies: " ++ e)), [])
          | .ok cookies => (o.getResultFromClaims idp claims claims.claims, cookies)
    | _ => (.error (.authError "Malformed ID tokens in OIDC refresh response"), [])

/-- `authenticateIDToken`: a valid ID token gives the result; otherwise refresh. -/
def authenticateIDToken (L : Libs) (idp : Idp) (o : Verifier) (idToken refreshToken : String) :
    Except Err AuthenticationResult × List SetCookie :=
  if idToken != "" then
    match idp.verifyIDToken o.relyingParty idToken with
    | .ok claims => (o.getResultFromClaims idp claims claims.claims, [])
    | .error _ => o.refreshIDToken L idp refreshToken
  else o.refreshIDToken L idp refreshToken

end Verifier

/-- The header parse of `Auth`: `strings.Split(authorizationHeader, "Bearer ")` must give two
parts, and the token is the second. -/
def bearerToken (authorizationHeader : String) : Option String :=
  match split authorizationHeader "Bearer " with
  | [_, token] => some token
  | _ => none

/-- What `Auth` leaves: the verifier after `ensureConfig`, the result or error, and the cookies
written to the response. -/
structure AuthOutcome where
  verifier : Verifier
  result : Except Err (Option AuthenticationResult)
  cookies : List SetCookie

/-- `IsRequest`: an `Authorization` header, or a session cookie with an ID or refresh token
cookie. -/
def isRequest (r : Request) : Bool :=
  if r.authorization != "" then true
  else match r.cookie cookieNameSessionID with
    | none => false
    | some _ => (r.cookie cookieNameIDToken).isSome || (r.cookie cookieNameRefreshToken).isSome

/-- `Auth`, with the outcomes `out` of the external calls of `ensureConfig` at proxy generation
`gen`. Cookies that fail to decrypt are deleted. -/
def Verifier.auth (L : Libs) (idp : Idp) (gen : Nat) (out : Outcomes) (o : Verifier)
    (r : Request) : AuthOutcome :=
  match o.ensureConfig gen r.host out with
  | (o, .error e) => ⟨o, .error (.plain ("Authorization failed: " ++ e)), []⟩
  | (o, .ok ()) =>
    match o.getCookies L r with
    | .error e =>
      let deleted := (setCookies L none UUID.nil "" "" true).toOption.getD []
      ⟨o, .error (.plain ("Failed to retrieve login information: " ++ e)), deleted⟩
    | .ok (_, idToken, refreshToken) =>
      if r.authorization != "" then
        match bearerToken r.authorization with
        | none => ⟨o, .error (.authError "Bad authorization token, expected a Bearer token"), []⟩
        | some token => ⟨o, (o.authenticateAccessToken idp token).map some, []⟩
      else if idToken != "" || refreshToken != "" then
        let res := o.authenticateIDToken L idp idToken refreshToken
        ⟨o, res.1.map some, res.2⟩
      else ⟨o, .ok none, []⟩

/-! ## What `Auth` returns -/

section Lemmas

variable {L : Libs} {idp : Idp} {o : Verifier} {res : AuthenticationResult}

theorem getResultFromClaims_subject {sg : SubjectClaims} {claims : Claims}
    (h : o.getResultFromClaims idp sg claims = .ok res) : res.subject ≠ "" := by
  unfold Verifier.getResultFromClaims at h
  cases he : getEmailFromClaims idp claims <;>
    simp only [he, bind, Except.bind, throw, throwThe, MonadExceptOf.throw, Except.ok.injEq,
      pure, Except.pure, reduceCtorEq] at h
  split at h
  · cases h
  · rename_i hs
    cases h
    simpa using hs

theorem refreshIDToken_subject {t : String} (h : (o.refreshIDToken L idp t).1 = .ok res) :
    res.subject ≠ "" := by
  unfold Verifier.refreshIDToken at h
  dsimp only at h
  repeat' split at h
  all_goals first | cases h | exact getResultFromClaims_subject h

/-- The refresh path writes cookies only after it has refreshed the tokens, verified the new ID
token and derived the new session's keys; they are what `setCookies` writes for them. -/
theorem refreshIDToken_writes {t : String} {cs : List SetCookie}
    (h : (o.refreshIDToken L idp t).2 = cs) (hcs : cs ≠ []) :
    ∃ tokens idToken claims sc, idp.refreshTokens o.relyingParty t = .ok tokens ∧
      tokens.idToken = .str idToken ∧ idp.verifyIDToken o.relyingParty idToken = .ok claims ∧
      o.secureCookieFromSession L idp.newSession = .ok sc ∧
      setCookies L (some sc) idp.newSession idToken tokens.refreshToken false = .ok cs := by
  unfold Verifier.refreshIDToken at h
  split at h
  · exact absurd h.symm hcs
  rename_i tokens h1
  split at h
  · exact absurd h.symm hcs
  · rename_i idToken h2
    split at h
    · exact absurd h.symm hcs
    rename_i claims h3
    dsimp only at h
    split at h
    · exact absurd h.symm hcs
    rename_i sc h4
    split at h
    · exact absurd h.symm hcs
    rename_i cookies h5
    cases h
    exact ⟨tokens, idToken, claims, sc, h1, h2, h3, h4, h5⟩
  · exact absurd h.symm hcs

theorem authenticateIDToken_subject {i t : String}
    (h : (o.authenticateIDToken L idp i t).1 = .ok res) : res.subject ≠ "" := by
  unfold Verifier.authenticateIDToken at h
  repeat' split at h
  all_goals first | exact getResultFromClaims_subject h | exact refreshIDToken_subject h

end Lemmas

/-- Without an `Authorization` header, a result names a subject. -/
theorem auth_subject_of_cookies {L : Libs} {idp : Idp} {gen : Nat} {out : Outcomes}
    {o : Verifier} {r : Request} {res : AuthenticationResult} (ha : r.authorization = "")
    (h : (o.auth L idp gen out r).result = .ok (some res)) : res.subject ≠ "" := by
  unfold Verifier.auth at h
  simp only [ha, bne_self_eq_false, Bool.false_eq_true, ↓reduceIte] at h
  repeat' split at h
  all_goals first
    | cases h
    | exact authenticateIDToken_subject (eq_of_map_some h)

/-- An identity provider with one user, subject `alice`, whose every token verifies and whose
refresh gives the ID token `id2` and the refresh token `refresh2`; the identity cache does not
know her. -/
def Idp.oneUser : Idp where
  verifyAccessToken _ _ := .ok ⟨"alice", ["lxd"], []⟩
  userinfo _ _ _ := .ok ⟨"alice", [("email", .str "alice@example.org")]⟩
  verifyIDToken _ _ := .ok ⟨"alice", [("email", .str "alice@example.org")]⟩
  refreshTokens _ _ := .ok ⟨"refresh2", .str "id2"⟩
  getByOIDCSubject _ := .error ⟨"Not found", true⟩
  parseAddress _ := .ok ()
  newSession := UUID.nil

/-- Alice's ID-token cookie gives her result. -/
theorem auth_subject_of_cookies_alice :
    let out : Outcomes :=
      ⟨.ok (), .ok "https://idp.example/keys", .ok (), .ok "https://idp.example/keys"⟩
    let r : Request := ⟨"lxd.example", "",
      [⟨cookieNameSessionID, plainLibs.uuidString UUID.nil⟩, ⟨cookieNameIDToken, "oidc_identity|tok"⟩]⟩
    let res : AuthenticationResult := ⟨.oidcClient, "alice", "alice@example.org", "", none⟩
    r.authorization = "" ∧
      ((newVerifier "https://idp.example" "lxd" "" [] "" [] none).auth plainLibs Idp.oneUser 0 out
        r).result = .ok (some res) ∧ res.subject ≠ "" := by
  intro out r res
  have h : ((newVerifier "https://idp.example" "lxd" "" [] "" [] none).auth plainLibs Idp.oneUser 0
      out r).result = .ok (some res) := rfl
  exact ⟨rfl, h, auth_subject_of_cookies rfl h⟩

/-- The cookies the refresh path writes carry the new session: a request that sends them back,
in any order, reads the new session, the refreshed ID token and the new refresh token, on any
verifier with the same cluster private key. -/
theorem refreshIDToken_cookies {L : Libs} (hL : L.Lawful) {idp : Idp} {o o' : Verifier}
    (hkey : o'.clusterPrivateKey = o.clusterPrivateKey) {t : String} {r : Request}
    (hcs : (o.refreshIDToken L idp t).2 ≠ [])
    (hr : r.cookies.Perm ((o.refreshIDToken L idp t).2.map SetCookie.toCookie)) :
    ∃ tokens idToken, idp.refreshTokens o.relyingParty t = .ok tokens ∧
      tokens.idToken = .str idToken ∧
      o'.getCookies L r = .ok (some idp.newSession, idToken, tokens.refreshToken) := by
  obtain ⟨tokens, idToken, _, _, h1, h2, -, hsc, hset⟩ := refreshIDToken_writes rfl hcs
  exact ⟨tokens, idToken, h1, h2, getCookies_of_written hL hkey hsc hset (cookie_of_setCookies hset hr)⟩

/-- Alice's refresh writes cookies that read back as the new session and tokens. -/
theorem refreshIDToken_cookies_alice :
    let o := newVerifier "https://idp.example" "lxd" "" [] "" [1, 2, 3] none
    let cs := (o.refreshIDToken plainLibs Idp.oneUser "refresh1").2
    let r : Request := ⟨"lxd.example", "", (cs.map SetCookie.toCookie).reverse⟩
    cs ≠ [] ∧ r.cookies.Perm (cs.map SetCookie.toCookie) ∧
      ∃ tokens idToken, Idp.oneUser.refreshTokens o.relyingParty "refresh1" = .ok tokens ∧
        tokens.idToken = .str idToken ∧
        o.getCookies plainLibs r = .ok (some Idp.oneUser.newSession, idToken, tokens.refreshToken) := by
  intro o cs r
  have hcs : cs ≠ [] := by decide
  have hr : r.cookies.Perm (cs.map SetCookie.toCookie) := List.reverse_perm _
  exact ⟨hcs, hr, refreshIDToken_cookies plainLibs_lawful rfl hcs hr⟩

/-- A request with a session cookie and an ID-token cookie that decrypts to `""`, and no
`Authorization` header: `IsRequest` accepts it, and `Auth` returns neither a result nor an error,
whatever the identity provider and the identity cache answer. -/
theorem auth_empty_id_token_returns_nothing (idp : Idp) :
    let out : Outcomes :=
      ⟨.ok (), .ok "https://idp.example/keys", .ok (), .ok "https://idp.example/keys"⟩
    let r : Request := ⟨"lxd.example", "",
      [⟨cookieNameSessionID, plainLibs.uuidString UUID.nil⟩, ⟨cookieNameIDToken, "oidc_identity|"⟩]⟩
    isRequest r = true ∧
      ((newVerifier "https://idp.example" "lxd" "" [] "" [] none).auth plainLibs idp 0 out r).result =
        .ok none :=
  ⟨rfl, rfl⟩

/-! ## The `Authorization` header -/

/-- The headers `bearerToken` accepts, and the token it finds: the header is some text without
`"Bearer "`, then `"Bearer "`, then the token, which has none either. -/
theorem bearerToken_iff {h t : String} :
    bearerToken h = some t ↔
      ∃ a, h = a ++ "Bearer " ++ t ∧ contains a "Bearer " = false ∧
        contains t "Bearer " = false := by
  have hsep : "Bearer " ≠ "" := by decide
  have hb : BorderFree "Bearer ".toList := by decide
  unfold bearerToken
  constructor
  · intro ht
    split at ht
    · rename_i a _ hs
      cases ht
      exact ⟨a, (split_eq_pair hsep hb).mp hs⟩
    · cases ht
  · rintro ⟨a, hs⟩
    rw [(split_eq_pair hsep hb).mpr hs]

/-- `Basic Bearer abc` names the `Basic` scheme, yet `Auth` hands `abc` to
`authenticateAccessToken`, whatever the libraries and the identity provider. -/
theorem auth_basic_bearer (L : Libs) (idp : Idp) :
    let o := newVerifier "https://idp.example" "lxd" "" [] "" [] none
    let out : Outcomes :=
      ⟨.ok (), .ok "https://idp.example/keys", .ok (), .ok "https://idp.example/keys"⟩
    let r : Request := ⟨"lxd.example", "Basic Bearer abc", []⟩
    r.authorization ≠ "Bearer " ++ "abc" ∧ contains "abc" "Bearer " = false ∧
      (o.auth L idp 0 out r).result =
        ((o.ensureConfig 0 r.host out).1.authenticateAccessToken idp "abc").map some :=
  ⟨by decide, by decide, rfl⟩

end Oidc

end Lxd
