import Mathlib.Data.List.Basic

/-!
# The OIDC verifier's configuration cache (`lxd/auth/oidc/oidc.go`)

`Verifier` caches a relying party, built for the callback URL of the last request host, and an
access-token verifier. `ExpireConfig` marks the relying party stale, so that the next
`ensureConfig` rebuilds it with a fresh HTTP client and with it the current proxy configuration
(`core.https_proxy`).

HTTP clients, relying parties and key sets are records of what they were built from. Each
external call (`httpClientFunc`, `rp.NewRelyingPartyOIDC`, `client.Discover`) succeeds or fails as
an `Outcomes` record says; a run is any sequence of `ExpireConfig` and `ensureConfig` calls, each
`ensureConfig` with outcomes of its own.

* `ensureConfig_frame` and `ensureConfig_ok`: everything one `ensureConfig` call can do.
* `Fresh`: the cache invariant, kept by every call (`Fresh.step`) and so along every run
  (`Fresh.run`).
* `ensureConfig_relyingParty_fresh`: after a successful `ensureConfig h` in any run, the relying
  party is for `https://h/oidc/callback` and uses a client obtained after the most recent
  `ExpireConfig`.
* `run_accessTokenVerifier_stable`: once set, the access-token verifier is never rebuilt, so its
  key set keeps the client it was built with across every later expiry
  (`ensureConfig_keeps_stale_keySet`).
-/

namespace Lxd

namespace Oidc

/-- An `*http.Client` from `httpClientFunc`. `generation` is the number of `ExpireConfig` calls
made before it was obtained: the client carries the proxy configuration of that moment. -/
structure HttpClient where
  generation : Nat
  deriving DecidableEq, Repr

/-- An `oidc.KeySet` fetching keys from `jwksURI` through `httpClient` (`rp.NewRemoteKeySet`). -/
structure KeySet where
  httpClient : HttpClient
  jwksURI : String
  deriving DecidableEq, Repr

/-- An `rp.RelyingParty` as `rp.NewRelyingPartyOIDC` builds it, with the JWKS URI its discovery
found. -/
structure RelyingParty where
  issuer : String
  clientID : String
  clientSecret : String
  redirectURI : String
  scopes : List String
  httpClient : HttpClient
  jwksURI : String
  deriving DecidableEq, Repr

/-- `relyingParty.IDTokenVerifier().KeySet`: the relying party's own remote key set. -/
def RelyingParty.keySet (rp : RelyingParty) : KeySet := ⟨rp.httpClient, rp.jwksURI⟩

/-- An `*op.AccessTokenVerifier` (`op.NewAccessTokenVerifier(issuer, keySet)`). -/
structure AccessTokenVerifier where
  issuer : String
  keySet : KeySet
  deriving DecidableEq, Repr

/-- The fields of `Verifier` that the modelled methods read or write. `clusterPrivateKey` is
`clusterCert().PrivateKey()`. -/
structure Verifier where
  accessTokenVerifier : Option AccessTokenVerifier
  relyingParty : Option RelyingParty
  clientID : String
  clientSecret : String
  issuer : String
  scopes : List String
  audience : String
  groupsClaim : String
  clusterPrivateKey : List UInt8
  host : String
  expireConfig : Bool
  deriving DecidableEq, Repr

/-- `Opts`: optional configurable fields for the verifier. -/
structure Opts where
  groupsClaim : String

/-- `NewVerifier`: nothing cached, no host, not expired. -/
def newVerifier (issuer clientID clientSecret : String) (scopes : List String) (audience : String)
    (clusterPrivateKey : List UInt8) (options : Option Opts) : Verifier :=
  let groupsClaim := match options with
    | some opts => if opts.groupsClaim != "" then opts.groupsClaim else ""
    | none => ""
  { accessTokenVerifier := none, relyingParty := none, clientID, clientSecret, issuer, scopes,
    audience, groupsClaim, clusterPrivateKey, host := "", expireConfig := false }

/-- What the external calls of one `ensureConfig` return: `httpClientFunc()` in
`setRelyingParty`, `rp.NewRelyingPartyOIDC` (the JWKS URI its discovery finds),
`httpClientFunc()` in `setAccessTokenVerifier`, and `client.Discover`. -/
structure Outcomes where
  rpHttpClient : Except String Unit
  newRelyingPartyOIDC : Except String String
  atvHttpClient : Except String Unit
  discover : Except String String

/-- `o.httpClientFunc()` while the proxy configuration is that of generation `gen`. -/
def httpClientFunc (gen : Nat) (out : Except String Unit) : Except String HttpClient :=
  out.map fun _ => ⟨gen⟩

/-- The callback URL that `setRelyingParty` registers for a request host. -/
def callbackURL (host : String) : String := "https://" ++ host ++ "/oidc/callback"

namespace Verifier

/-- `setRelyingParty`: a relying party for `host`'s callback URL with a fresh HTTP client. -/
def setRelyingParty (o : Verifier) (gen : Nat) (host : String) (out : Outcomes) :
    Except String Verifier := do
  let httpClient ← (httpClientFunc gen out.rpHttpClient).mapError
    ("Failed to get a HTTP client: " ++ ·)
  let jwksURI ← out.newRelyingPartyOIDC.mapError ("Failed to get OIDC relying party: " ++ ·)
  return { o with relyingParty := some ⟨o.issuer, o.clientID, o.clientSecret,
    "https://" ++ host ++ "/oidc/callback", o.scopes, httpClient, jwksURI⟩ }

/-- `setAccessTokenVerifier`: the relying party's key set if there is one, otherwise a remote key
set found by discovery. The HTTP client is obtained in both cases. -/
def setAccessTokenVerifier (o : Verifier) (gen : Nat) (out : Outcomes) :
    Except String Verifier := do
  let httpClient ← httpClientFunc gen out.atvHttpClient
  let keySet ← match o.relyingParty with
    | some rp => pure rp.keySet
    | none => do
      let jwksURI ← out.discover.mapError ("Failed calling OIDC discovery endpoint: " ++ ·)
      pure ⟨httpClient, jwksURI⟩
  return { o with accessTokenVerifier := some ⟨o.issuer, keySet⟩ }

/-- `ExpireConfig`. -/
def ExpireConfig (o : Verifier) : Verifier := { o with expireConfig := true }

/-- The first block of `ensureConfig`: rebuild the relying party when there is none, the host
changed or the configuration expired, and then record the host and clear the expiry flag. -/
def ensureRelyingParty (o : Verifier) (gen : Nat) (host : String) (out : Outcomes) :
    Except String Verifier :=
  if o.relyingParty.isNone || host != o.host || o.expireConfig then
    (o.setRelyingParty gen host out).map fun o => { o with host := host, expireConfig := false }
  else .ok o

/-- `ensureConfig`: the relying-party block, then build the access-token verifier if there is
none. A failure of the second step keeps what the first did. -/
def ensureConfig (o : Verifier) (gen : Nat) (host : String) (out : Outcomes) :
    Verifier × Except String Unit :=
  match o.ensureRelyingParty gen host out with
  | .error e => (o, .error e)
  | .ok o =>
    if o.accessTokenVerifier.isNone then
      match o.setAccessTokenVerifier gen out with
      | .error e => (o, .error e)
      | .ok o => (o, .ok ())
    else (o, .ok ())

/-! ## One call -/

section Lemmas

variable {o o₁ : Verifier} {gen : Nat} {host : String} {out : Outcomes}

theorem setRelyingParty_ok (h : o.setRelyingParty gen host out = .ok o₁) :
    ∃ rp, o₁ = { o with relyingParty := some rp } ∧ rp.redirectURI = callbackURL host ∧
      rp.httpClient.generation = gen := by
  unfold setRelyingParty httpClientFunc at h
  cases h1 : out.rpHttpClient <;> cases h2 : out.newRelyingPartyOIDC <;>
    simp [h1, h2, Except.map, Except.mapError, bind, Except.bind, pure, Except.pure] at h
  exact ⟨_, h.symm, rfl, rfl⟩

theorem setAccessTokenVerifier_ok (h : o.setAccessTokenVerifier gen out = .ok o₁) :
    ∃ atv, o₁ = { o with accessTokenVerifier := some atv } ∧
      ∀ rp, o.relyingParty = some rp → atv.keySet = rp.keySet := by
  unfold setAccessTokenVerifier httpClientFunc at h
  cases h1 : out.atvHttpClient <;> cases h2 : o.relyingParty <;> cases h3 : out.discover <;>
    simp [h1, h2, h3, Except.map, Except.mapError, bind, Except.bind, pure, Except.pure] at h <;>
    exact ⟨_, h.symm, by simp⟩

/-- After the relying-party block the host is recorded, the flag is clear and there is a
relying party: the one there was, or a new one for `host` with a client of generation `gen`. -/
theorem ensureRelyingParty_ok (h : o.ensureRelyingParty gen host out = .ok o₁) :
    o₁.host = host ∧ o₁.expireConfig = false ∧ o₁.accessTokenVerifier = o.accessTokenVerifier ∧
      (o₁ = o ∧ o.relyingParty.isSome ∨ ∃ rp, o₁.relyingParty = some rp ∧
        rp.redirectURI = callbackURL host ∧ rp.httpClient.generation = gen) := by
  unfold ensureRelyingParty at h
  split at h
  · cases hs : o.setRelyingParty gen host out with
    | error e => simp [hs, Except.map] at h
    | ok o₂ =>
      simp only [hs, Except.map, Except.ok.injEq] at h
      obtain ⟨rp, rfl, hr⟩ := setRelyingParty_ok hs
      subst h
      exact ⟨rfl, rfl, rfl, .inr ⟨rp, rfl, hr⟩⟩
  · cases h
    rename_i hc
    simp only [Bool.or_eq_true, bne_iff_ne, ne_eq, not_or, Bool.not_eq_true,
      Option.isNone_eq_false_iff, Decidable.not_not] at hc
    exact ⟨hc.1.2.symm, hc.2, rfl, .inl ⟨rfl, hc.1.1⟩⟩

/-- Everything one `ensureConfig` call can do: fail in the relying-party block and change
nothing, or pass it and then keep or set the access-token verifier. -/
theorem ensureConfig_cases (o : Verifier) (gen : Nat) (host : String) (out : Outcomes) :
    (o.ensureConfig gen host out).1 = o ∧ (∃ e, (o.ensureConfig gen host out).2 = .error e) ∨
      ∃ o₁, o.ensureRelyingParty gen host out = .ok o₁ ∧ ((o.ensureConfig gen host out).1 = o₁ ∨
        o₁.accessTokenVerifier = none ∧
          ∃ atv, (o.ensureConfig gen host out).1 = { o₁ with accessTokenVerifier := some atv }) := by
  unfold ensureConfig
  split
  · exact .inl ⟨rfl, _, rfl⟩
  · rename_i o₁ h₁
    refine .inr ⟨o₁, h₁, ?_⟩
    split
    · split
      · exact .inl rfl
      · rename_i hn _ o₂ h₂
        obtain ⟨atv, rfl, -⟩ := setAccessTokenVerifier_ok h₂
        exact .inr ⟨by simpa using hn, atv, rfl⟩
    · exact .inl rfl

end Lemmas

end Verifier

/-! ## Runs -/

/-- The daemon around the verifier. `expiries` counts the `ExpireConfig` calls so far: the
generation of the proxy configuration that `httpClientFunc` hands out. -/
structure Daemon where
  verifier : Verifier
  expiries : Nat

/-- A call on the verifier, with the outcomes of the external calls it makes. -/
inductive Call
  | expireConfig
  | ensureConfig (host : String) (out : Outcomes)

namespace Daemon

/-- One call, with what it returns. -/
def step (d : Daemon) : Call → Daemon × Except String Unit
  | .expireConfig => (⟨d.verifier.ExpireConfig, d.expiries + 1⟩, .ok ())
  | .ensureConfig host out =>
    let r := d.verifier.ensureConfig d.expiries host out
    (⟨r.1, d.expiries⟩, r.2)

/-- The daemon after a sequence of calls. -/
def run (d : Daemon) : List Call → Daemon
  | [] => d
  | c :: cs => (d.step c).1.run cs

/-- A freshly constructed verifier, before any call. -/
def init (v : Verifier) : Daemon := ⟨v, 0⟩

@[simp] theorem run_nil (d : Daemon) : d.run [] = d := rfl

@[simp] theorem run_cons (d : Daemon) (c : Call) (cs : List Call) :
    d.run (c :: cs) = (d.step c).1.run cs := rfl

@[simp] theorem run_append (d : Daemon) (cs cs' : List Call) :
    d.run (cs ++ cs') = (d.run cs).run cs' := by
  induction cs generalizing d <;> simp [*]

end Daemon

/-! ## The cache invariant -/

/-- A cached relying party is for the recorded host, and unless the configuration has expired
since, it uses a client of generation `gen`. -/
structure Fresh (v : Verifier) (gen : Nat) : Prop where
  callback : ∀ rp, v.relyingParty = some rp → rp.redirectURI = callbackURL v.host
  current : ∀ rp, v.relyingParty = some rp → v.expireConfig = false →
    rp.httpClient.generation = gen

namespace Fresh

theorem init (v : Verifier) (h : v.relyingParty = none) : Fresh v 0 :=
  ⟨fun _ hr => by simp [h] at hr, fun _ hr => by simp [h] at hr⟩

/-- The relying-party block keeps the invariant at the current generation. -/
theorem ensureRelyingParty {o o₁ : Verifier} {gen : Nat} {host : String} {out : Outcomes}
    (hf : Fresh o gen) (h : o.ensureRelyingParty gen host out = .ok o₁) : Fresh o₁ gen := by
  obtain ⟨hh, -, -, ⟨rfl, -⟩ | ⟨rp, hrp, hcb, hgen⟩⟩ := Verifier.ensureRelyingParty_ok h
  · exact hf
  · refine ⟨fun rp' h' => ?_, fun rp' h' _ => ?_⟩ <;> rw [hrp] at h' <;> cases h'
    · rw [hh]; exact hcb
    · exact hgen

/-- Every call keeps the invariant. -/
theorem step {d : Daemon} (hf : Fresh d.verifier d.expiries) (c : Call) :
    Fresh (d.step c).1.verifier (d.step c).1.expiries := by
  cases c with
  | expireConfig =>
    exact ⟨hf.callback, fun _ _ h => by simp [Daemon.step, Verifier.ExpireConfig] at h⟩
  | ensureConfig host out =>
    rcases Verifier.ensureConfig_cases d.verifier d.expiries host out with
      ⟨h, -⟩ | ⟨o₁, h₁, h | ⟨-, atv, h⟩⟩ <;> simp only [Daemon.step, h]
    · exact hf
    · exact hf.ensureRelyingParty h₁
    · have := hf.ensureRelyingParty h₁
      exact ⟨this.callback, this.current⟩

/-- Every run keeps the invariant. -/
theorem run {d : Daemon} (hf : Fresh d.verifier d.expiries) (cs : List Call) :
    Fresh (d.run cs).verifier (d.run cs).expiries := by
  induction cs generalizing d with
  | nil => exact hf
  | cons c cs ih => exact ih (hf.step c)

end Fresh

/-- After a successful `ensureConfig host` the verifier records `host`, has a clear expiry flag
and a relying party. -/
theorem ensureConfig_ok {o : Verifier} {gen : Nat} {host : String} {out : Outcomes}
    (h : (o.ensureConfig gen host out).2 = .ok ()) :
    (o.ensureConfig gen host out).1.host = host ∧
      (o.ensureConfig gen host out).1.expireConfig = false ∧
      (o.ensureConfig gen host out).1.relyingParty.isSome := by
  rcases Verifier.ensureConfig_cases o gen host out with ⟨-, e, hr⟩ | ⟨o₁, h₁, h'⟩
  · rw [h] at hr; cases hr
  have hs : o₁.relyingParty.isSome := by
    rcases (Verifier.ensureRelyingParty_ok h₁).2.2.2 with ⟨rfl, hs⟩ | ⟨rp, hrp, -⟩
    · exact hs
    · simp [hrp]
  obtain ⟨hh, he, -⟩ := Verifier.ensureRelyingParty_ok h₁
  rcases h' with h' | ⟨-, atv, h'⟩ <;> simp [h', hh, he, hs]

/-- Whenever `ensureConfig host` succeeds, in any run from a new verifier, the relying party was
built for `https://host/oidc/callback` with an HTTP client obtained after the most recent
`ExpireConfig`. -/
theorem ensureConfig_relyingParty_fresh (issuer clientID clientSecret : String)
    (scopes : List String) (audience : String) (key : List UInt8) (options : Option Opts)
    (calls : List Call) (host : String) (out : Outcomes) :
    let d := (Daemon.init (newVerifier issuer clientID clientSecret scopes audience key options)).run
      calls
    (d.step (.ensureConfig host out)).2 = .ok () →
      ∃ rp, (d.step (.ensureConfig host out)).1.verifier.relyingParty = some rp ∧
        rp.redirectURI = callbackURL host ∧
        rp.httpClient.generation = (d.step (.ensureConfig host out)).1.expiries := by
  intro d h
  have h0 : Fresh (Daemon.init (newVerifier issuer clientID clientSecret scopes audience key
    options)).verifier 0 := Fresh.init _ rfl
  have hf := (h0.run calls).step (.ensureConfig host out)
  obtain ⟨hh, he, hs⟩ := ensureConfig_ok (o := d.verifier) h
  obtain ⟨rp, hrp⟩ := Option.isSome_iff_exists.mp hs
  exact ⟨rp, hrp, hh ▸ hf.callback rp hrp, hf.current rp hrp he⟩

/-- A run that sets up, expires and sets up again: the second `ensureConfig` succeeds and its
relying party is fresh. -/
theorem ensureConfig_relyingParty_fresh_after_expiry :
    let out : Outcomes := ⟨.ok (), .ok "https://idp.example/keys", .ok (), .ok "https://idp.example/keys"⟩
    let d := (Daemon.init (newVerifier "https://idp.example" "lxd" "" [] "" [] none)).run
      [.ensureConfig "lxd.example" out, .expireConfig]
    (d.step (.ensureConfig "lxd.example" out)).2 = .ok () ∧
      ∃ rp, (d.step (.ensureConfig "lxd.example" out)).1.verifier.relyingParty = some rp ∧
        rp.redirectURI = callbackURL "lxd.example" ∧
        rp.httpClient.generation = (d.step (.ensureConfig "lxd.example" out)).1.expiries :=
  ⟨rfl, ensureConfig_relyingParty_fresh "https://idp.example" "lxd" "" [] "" [] none _ _ _ rfl⟩

/-! ## The access-token verifier -/

/-- `ensureConfig` never replaces an access-token verifier that is already there. -/
theorem ensureConfig_accessTokenVerifier {o : Verifier} {atv : AccessTokenVerifier}
    (h : o.accessTokenVerifier = some atv) (gen : Nat) (host : String) (out : Outcomes) :
    (o.ensureConfig gen host out).1.accessTokenVerifier = some atv := by
  rcases Verifier.ensureConfig_cases o gen host out with ⟨h', -⟩ | ⟨o₁, h₁, h' | ⟨hn, -, -⟩⟩
  · rw [h', h]
  · rw [h', (Verifier.ensureRelyingParty_ok h₁).2.2.1, h]
  · rw [(Verifier.ensureRelyingParty_ok h₁).2.2.1, h] at hn
    cases hn

/-- Once set, the access-token verifier stays the same through every later run, expiries and
host changes included. -/
theorem run_accessTokenVerifier_stable {d : Daemon} {atv : AccessTokenVerifier}
    (h : d.verifier.accessTokenVerifier = some atv) (calls : List Call) :
    (d.run calls).verifier.accessTokenVerifier = some atv := by
  induction calls generalizing d with
  | nil => exact h
  | cons c cs ih =>
    apply ih
    cases c with
    | expireConfig => exact h
    | ensureConfig host out => exact ensureConfig_accessTokenVerifier h _ host out

/-- A verifier set up for one host keeps its access-token verifier through an expiry and a
set-up for another host. -/
theorem run_accessTokenVerifier_stable_host_change :
    let out : Outcomes := ⟨.ok (), .ok "https://idp.example/keys", .ok (), .ok "https://idp.example/keys"⟩
    let d := (Daemon.init (newVerifier "https://idp.example" "lxd" "" [] "" [] none)).run
      [.ensureConfig "lxd.example" out]
    let atv : AccessTokenVerifier := ⟨"https://idp.example", ⟨⟨0⟩, "https://idp.example/keys"⟩⟩
    d.verifier.accessTokenVerifier = some atv ∧
      (d.run [.expireConfig, .ensureConfig "other.example" out]).verifier.accessTokenVerifier =
        some atv :=
  ⟨rfl, run_accessTokenVerifier_stable rfl _⟩

/-- A set-up, an expiry, and a second set-up for the same host: the second `ensureConfig`
succeeds, yet the access-token verifier still fetches keys through the client of generation 0,
obtained before the `ExpireConfig`. -/
theorem ensureConfig_keeps_stale_keySet :
    let out : Outcomes := ⟨.ok (), .ok "https://idp.example/keys", .ok (), .ok "https://idp.example/keys"⟩
    let d := (Daemon.init (newVerifier "https://idp.example" "lxd" "" [] "" [] none)).run
      [.ensureConfig "lxd.example" out, .expireConfig]
    (d.step (.ensureConfig "lxd.example" out)).2 = .ok () ∧
      (d.step (.ensureConfig "lxd.example" out)).1.expiries = 1 ∧
      ∃ atv, (d.step (.ensureConfig "lxd.example" out)).1.verifier.accessTokenVerifier = some atv ∧
        atv.keySet.httpClient.generation = 0 :=
  ⟨rfl, rfl, _, rfl, rfl⟩

end Oidc

end Lxd
