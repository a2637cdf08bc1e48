import Lxd.Oidc.Verifier
import Mathlib.Data.List.Nodup

/-!
# Session cookies (`lxd/auth/oidc/oidc.go`)

After a login the UI holds three cookies: `session_id`, the session UUID in plain text, and
`oidc_identity` and `oidc_refresh`, the ID and refresh tokens encrypted and signed with
`securecookie`. The keys come from HKDF over the cluster private key with the session UUID as
salt, so every cluster member derives them again from the `session_id` cookie.

The libraries are the functions of a `Libs` record. `Libs.Lawful` is what the round trip needs of
them: `uuid.Parse` reads back `String()`, and `Decode` reads back `Encode` under the same keys.
`plainLibs` is one lawful record.

* `setCookies_ok`: the three cookies a successful `setCookies` writes.
* `Request.cookie_of_perm`: a request carrying the written cookies, in any order, finds each by
  its name.
* `getCookies_setCookies`: what `setCookies` writes for a session, `getCookies` reads back, on
  any cluster member with the same private key.
-/

namespace Lxd

namespace Oidc

/-- Identifies a single login flow. -/
def cookieNameLoginID : String := "login_id"

/-- Sets and retrieves the identity token. -/
def cookieNameIDToken : String := "oidc_identity"

/-- Sets and retrieves the refresh token. -/
def cookieNameRefreshToken : String := "oidc_refresh"

/-- Identifies the session; it is not encrypted. -/
def cookieNameSessionID : String := "session_id"

/-- The cookies that make a session, in the order `setCookies` writes them. -/
def sessionCookieNames : List String := [cookieNameIDToken, cookieNameRefreshToken, cookieNameSessionID]

/-- A `uuid.UUID`: sixteen bytes. -/
structure UUID where
  bytes : List UInt8
  length_eq : bytes.length = 16
  deriving DecidableEq

/-- `uuid.UUID{}`. -/
def UUID.nil : UUID := ⟨List.replicate 16 0, rfl⟩

/-- `securecookie.New(hashKey, blockKey)`. -/
structure SecureCookie where
  hashKey : List UInt8
  blockKey : List UInt8
  deriving DecidableEq, Repr

/-- The library functions the cookie code calls: `u.String()`, `uuid.Parse(s)`,
`hkdf.Extract(sha512.New, secret, salt)`, `hkdf.Expand(sha512.New, prk, info, keyLength)`,
`secureCookie.Encode(name, value)`, and `secureCookie.Decode(name, value, &dst)` into a string. -/
structure Libs where
  uuidString : UUID → String
  uuidParse : String → Except String UUID
  hkdfExtract : List UInt8 → List UInt8 → Except String (List UInt8)
  hkdfExpand : List UInt8 → String → Nat → Except String (List UInt8)
  encode : SecureCookie → String → String → Except String String
  decode : SecureCookie → String → String → Except String String

/-- The laws the round trip rests on. There is no clock: `securecookie.New` keeps its default
`MaxAge` of 30 days, after which the real `Decode` rejects a cookie, so `decode_encode` holds of
cookies read within 30 days of being written. -/
structure Libs.Lawful (L : Libs) : Prop where
  parse_string : ∀ u, L.uuidParse (L.uuidString u) = .ok u
  decode_encode : ∀ sc name v c, L.encode sc name v = .ok c → L.decode sc name c = .ok v

/-- Libraries that write a UUID byte by byte and a cookie in clear, `name|value`. -/
def plainLibs : Libs where
  uuidString u := String.mk (u.bytes.map fun b => Char.ofNat b.toNat)
  uuidParse s := if h : (s.toList.map fun c => c.toNat.toUInt8).length = 16 then .ok ⟨_, h⟩
    else .error "invalid UUID length"
  hkdfExtract secret salt := .ok (secret ++ salt)
  hkdfExpand prk _ n := .ok (prk.take n)
  encode _ name v := .ok (name ++ "|" ++ v)
  decode _ name c := if (name ++ "|").toList.isPrefixOf c.toList
    then .ok (String.mk (c.toList.drop (name.length + 1)))
    else .error "securecookie: the value is not valid"

theorem toNat_ofNat_byte (b : UInt8) : (Char.ofNat b.toNat).toNat.toUInt8 = b := by
  have hlt : b.toNat < 256 := b.toBitVec.isLt
  have hv : b.toNat.isValidChar := Or.inl (by omega)
  have hc : (Char.ofNat b.toNat).toNat = b.toNat := by
    simp [Char.ofNat, hv, Char.ofNatAux, Char.toNat, UInt32.toNat]
  rw [hc]
  apply UInt8.eq_of_val_eq
  simp [Nat.toUInt8, UInt8.ofNat, UInt8.val, UInt8.toNat]

theorem plainLibs_lawful : plainLibs.Lawful where
  parse_string u := by
    have hb : (u.bytes.map fun b => Char.ofNat b.toNat).map (fun c => c.toNat.toUInt8) =
        u.bytes := by simp [Function.comp_def, toNat_ofNat_byte]
    simp only [plainLibs, String.toList, hb, u.length_eq, ↓reduceDIte]
  decode_encode sc name v c h := by
    cases h
    have hp : (name ++ "|").toList <+: (name ++ "|" ++ v).toList := by
      simp only [String.toList, String.data_append]
      exact List.prefix_append _ _
    have hd : (name ++ "|" ++ v).toList.drop (name.length + 1) = v.toList := by
      simp only [String.toList, String.data_append]
      exact List.drop_left' (by rw [List.length_append]; rfl)
    show (if _ then _ else _) = _
    rw [if_pos (List.isPrefixOf_iff_prefix.mpr hp), hd]
    rfl

namespace Verifier

/-- `secureCookieFromSession`: keys from HKDF over the cluster private key, salted with the
session UUID's bytes (`MarshalBinary`, which never fails): a 64-byte hash key for "INTEGRITY"
and a 32-byte block key for "ENCRYPTION". -/
def secureCookieFromSession (L : Libs) (o : Verifier) (sessionID : UUID) :
    Except String SecureCookie := do
  let salt := sessionID.bytes
  let prk ← (L.hkdfExtract o.clusterPrivateKey salt).mapError
    ("Failed to extract secure session key: " ++ ·)
  let cookieHashKey ← (L.hkdfExpand prk "INTEGRITY" 64).mapError
    ("Failed creating secure cookie hash key: " ++ ·)
  let cookieBlockKey ← (L.hkdfExpand prk "ENCRYPTION" 32).mapError
    ("Failed creating secure cookie block key: " ++ ·)
  return ⟨cookieHashKey, cookieBlockKey⟩

theorem secureCookieFromSession_congr (L : Libs) {o o' : Verifier}
    (h : o'.clusterPrivateKey = o.clusterPrivateKey) (s : UUID) :
    o'.secureCookieFromSession L s = o.secureCookieFromSession L s := by
  simp only [secureCookieFromSession, h]

end Verifier

/-! ## Requests and responses -/

/-- A request cookie, `name=value`. -/
structure Cookie where
  name : String
  value : String
  deriving DecidableEq, Repr

/-- What the verifier reads of an `*http.Request`: the host, the `Authorization` header (empty
when absent, as `Header.Get` gives it) and the cookies. -/
structure Request where
  host : String
  authorization : String
  cookies : List Cookie

/-- `r.Cookie(name)`: the first cookie of that name. Its only error is `http.ErrNoCookie`. -/
def Request.cookie (r : Request) (name : String) : Option Cookie :=
  r.cookies.find? (·.name == name)

/-- A `Set-Cookie` header the verifier writes. All have `Path=/`, `Secure` and `HttpOnly`, and
all but the `login_id` cookie of `Login` have `SameSite=Strict`; `expired` is `Expires` at the
Unix epoch, which deletes the cookie. -/
structure SetCookie where
  name : String
  value : String
  expired : Bool
  deriving DecidableEq, Repr

/-- The cookie a client sends back for a `Set-Cookie`. -/
def SetCookie.toCookie (c : SetCookie) : Cookie := ⟨c.name, c.value⟩

/-- `setCookies`: the cookies written, or the error (and none written). Deleting writes three
empty, expired cookies. Encoding with a nil secure cookie would panic; no caller does it. -/
def setCookies (L : Libs) (secureCookie : Option SecureCookie) (sessionID : UUID)
    (idToken refreshToken : String) (deleteCookies : Bool) : Except String (List SetCookie) :=
  if deleteCookies then
    .ok [⟨cookieNameIDToken, "", true⟩, ⟨cookieNameRefreshToken, "", true⟩,
      ⟨cookieNameSessionID, "", true⟩]
  else match secureCookie with
    | none => .error "runtime error: invalid memory address or nil pointer dereference"
    | some sc => do
      let encodedIDTokenCookie ← (L.encode sc cookieNameIDToken idToken).mapError
        ("Failed to encrypt ID token: " ++ ·)
      let encodedRefreshToken ← (L.encode sc cookieNameRefreshToken refreshToken).mapError
        ("Failed to encrypt refresh token: " ++ ·)
      return [⟨cookieNameIDToken, encodedIDTokenCookie, false⟩,
        ⟨cookieNameRefreshToken, encodedRefreshToken, false⟩,
        ⟨cookieNameSessionID, L.uuidString sessionID, false⟩]

/-- `getCookies`: the session UUID and the decrypted tokens, with `""` for an absent token
cookie; nothing at all without a session cookie. -/
def Verifier.getCookies (L : Libs) (o : Verifier) (r : Request) :
    Except String (Option UUID × String × String) :=
  match r.cookie cookieNameSessionID with
  | none => .ok (none, "", "")
  | some sessionIDCookie => do
    let sessionID ← (L.uuidParse sessionIDCookie.value).mapError ("Invalid session ID cookie: " ++ ·)
    let secureCookie ← (o.secureCookieFromSession L sessionID).mapError
      ("Failed to decrypt cookies: " ++ ·)
    let idToken ← match r.cookie cookieNameIDToken with
      | none => pure ""
      | some c =>
        (L.decode secureCookie cookieNameIDToken c.value).mapError
          ("Failed to decrypt ID token cookie: " ++ ·)
    let refreshToken ← match r.cookie cookieNameRefreshToken with
      | none => pure ""
      | some c =>
        (L.decode secureCookie cookieNameRefreshToken c.value).mapError
          ("Failed to decrypt refresh token cookie: " ++ ·)
    return (some sessionID, idToken, refreshToken)

/-! ## The round trip -/

/-- A successful `setCookies` that does not delete writes the encoded ID token, the encoded
refresh token and the session UUID, in that order. -/
theorem setCookies_ok {L : Libs} {sc : SecureCookie} {s : UUID} {i t : String}
    {cs : List SetCookie} (h : setCookies L (some sc) s i t false = .ok cs) :
    ∃ ci ct, L.encode sc cookieNameIDToken i = .ok ci ∧
      L.encode sc cookieNameRefreshToken t = .ok ct ∧
      cs = [⟨cookieNameIDToken, ci, false⟩, ⟨cookieNameRefreshToken, ct, false⟩,
        ⟨cookieNameSessionID, L.uuidString s, false⟩] := by
  simp only [setCookies, Bool.false_eq_true, ↓reduceIte] at h
  cases hi : L.encode sc cookieNameIDToken i <;> cases ht : L.encode sc cookieNameRefreshToken t <;>
    simp [hi, ht, Except.mapError, bind, Except.bind, pure, Except.pure] at h
  exact ⟨_, _, rfl, rfl, h.symm⟩

theorem find?_name_of_mem {l : List Cookie} (hl : (l.map (·.name)).Nodup) {c : Cookie}
    (hc : c ∈ l) : l.find? (·.name == c.name) = some c := by
  induction l with
  | nil => cases hc
  | cons d l ih =>
    simp only [List.map_cons, List.nodup_cons, List.mem_map] at hl
    rcases List.mem_cons.mp hc with rfl | hc
    · simp
    · have hne : d.name ≠ c.name := fun h => hl.1 ⟨c, hc, h.symm⟩
      simp [hne, ih hl.2 hc]

/-- A request carrying the cookies `cs`, which have distinct names, in any order, finds each of
them by its name. -/
theorem Request.cookie_of_perm {r : Request} {cs : List Cookie} (hr : r.cookies.Perm cs)
    (hn : (cs.map (·.name)).Nodup) {c : Cookie} (hc : c ∈ cs) : r.cookie c.name = some c :=
  find?_name_of_mem ((hr.map _).nodup_iff.mpr hn) (hr.mem_iff.mpr hc)

/-- A successful `setCookies` writes one live cookie for each session name, in the order of
`sessionCookieNames`. -/
theorem setCookies_names {L : Libs} {sc : SecureCookie} {s : UUID} {i t : String}
    {cs : List SetCookie} (h : setCookies L (some sc) s i t false = .ok cs) :
    cs.map (·.name) = sessionCookieNames ∧ ∀ c ∈ cs, c.expired = false := by
  obtain ⟨_, _, -, -, rfl⟩ := setCookies_ok h
  simp [sessionCookieNames]

/-- The reading half of the round trip: a request whose cookies of the session names are those
`setCookies` wrote reads back the session, on any verifier with the same cluster private key. -/
theorem getCookies_of_written {L : Libs} (hL : L.Lawful) {o o' : Verifier}
    (hkey : o'.clusterPrivateKey = o.clusterPrivateKey) {s : UUID} {i t : String}
    {sc : SecureCookie} {cs : List SetCookie} {r : Request}
    (hsc : o.secureCookieFromSession L s = .ok sc)
    (hset : setCookies L (some sc) s i t false = .ok cs)
    (hr : ∀ c ∈ cs, r.cookie c.name = some c.toCookie) :
    o'.getCookies L r = .ok (some s, i, t) := by
  obtain ⟨ci, ct, hci, hct, rfl⟩ := setCookies_ok hset
  have hi := hr _ (List.mem_cons_self _ _)
  have ht := hr _ (List.mem_cons_of_mem _ (List.mem_cons_self _ _))
  have hs := hr _ (List.mem_cons_of_mem _ (List.mem_cons_of_mem _ (List.mem_singleton_self _)))
  simp only [SetCookie.toCookie] at hs hi ht
  simp [Verifier.getCookies, hs, hi, ht, hL.parse_string,
    Verifier.secureCookieFromSession_congr L hkey, hsc, hL.decode_encode _ _ _ _ hci,
    hL.decode_encode _ _ _ _ hct, Except.mapError, bind, Except.bind, pure, Except.pure]

theorem cookie_of_setCookies {L : Libs} {sc : SecureCookie} {s : UUID} {i t : String}
    {cs : List SetCookie} {r : Request} (hset : setCookies L (some sc) s i t false = .ok cs)
    (hr : r.cookies.Perm (cs.map SetCookie.toCookie)) :
    ∀ c ∈ cs, r.cookie c.name = some c.toCookie := by
  have hn : ((cs.map SetCookie.toCookie).map (·.name)).Nodup := by
    rw [List.map_map, show (·.name) ∘ SetCookie.toCookie = (·.name) from rfl,
      (setCookies_names hset).1]
    decide
  exact fun c hc => Request.cookie_of_perm hr hn (List.mem_map_of_mem _ hc)

/-- What `setCookies` writes for a session, with keys from `secureCookieFromSession`,
`getCookies` reads back from a request carrying exactly those cookies, in any order, on any
verifier with the same cluster private key. -/
theorem getCookies_setCookies {L : Libs} (hL : L.Lawful) {o o' : Verifier}
    (hkey : o'.clusterPrivateKey = o.clusterPrivateKey) {s : UUID} {i t : String}
    {sc : SecureCookie} {cs : List SetCookie} {r : Request}
    (hsc : o.secureCookieFromSession L s = .ok sc)
    (hset : setCookies L (some sc) s i t false = .ok cs)
    (hr : r.cookies.Perm (cs.map SetCookie.toCookie)) :
    o'.getCookies L r = .ok (some s, i, t) :=
  getCookies_of_written hL hkey hsc hset (cookie_of_setCookies hset hr)

/-- A session with the zero UUID, written and read back with `plainLibs`. -/
theorem getCookies_setCookies_plain :
    let o := newVerifier "https://idp.example" "lxd" "" [] "" [1, 2, 3] none
    ∃ sc cs, o.secureCookieFromSession plainLibs UUID.nil = .ok sc ∧
      setCookies plainLibs (some sc) UUID.nil "id" "refresh" false = .ok cs ∧
      o.getCookies plainLibs ⟨"lxd.example", "", (cs.map SetCookie.toCookie).reverse⟩ =
        .ok (some UUID.nil, "id", "refresh") :=
  ⟨_, _, rfl, rfl, getCookies_setCookies plainLibs_lawful rfl rfl rfl (List.reverse_perm _)⟩

end Oidc

end Lxd
