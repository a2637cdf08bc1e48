import Lxd.Oidc.Auth

/-!
# A browser's session (`lxd/auth/oidc/oidc.go`)

The UI's session lives in the browser. `Callback` writes its three cookies after the code
exchange; `Auth` reads them on every request, writes new ones when it refreshes the tokens and
deletes them when they do not decrypt; `Logout` deletes them. A `World` is the daemon and one
browser at one host. An `Event` is what happens next, with what the identity provider, the
libraries and the network answer on the way, and the browser stores the cookies of each
response.

* `Stored`: what a cookie jar holds of a session: none of its cookies, or the three cookies that
  one `setCookies` wrote.
* `World.Inv.run`: every run keeps the verifier's cache invariant and a jar that stores a
  session.
* `World.run_getCookies_ok`: from a new verifier and a browser without session cookies, the
  cookies of the browser's next request decrypt on every cluster member, whatever happened
  before.
* `World.callback_starts_session`: after a successful callback the browser sends the new session
  and the tokens of the code exchange, whatever cookies it held before.
* `World.logout_ends_session`: after a logout the browser holds no session cookie: its next
  request without an `Authorization` header is no OIDC request, and `Auth` answers it with
  nothing.
-/

namespace Lxd

namespace Oidc

/-! ## The browser -/

/-- A browser storing one `Set-Cookie` header: the cookie replaces the one of its name, and an
expired one only removes it. All of LXD's cookies have `Path=/` on one host, so the name
identifies a cookie. -/
def store (jar : List Cookie) (c : SetCookie) : List Cookie :=
  let rest := jar.filter (·.name != c.name)
  if c.expired then rest else c.toCookie :: rest

/-- The browser storing the `Set-Cookie` headers of one response, in order. -/
def storeAll (jar : List Cookie) (cs : List SetCookie) : List Cookie := cs.foldl store jar

@[simp] theorem storeAll_nil (jar : List Cookie) : storeAll jar [] = jar := rfl

@[simp] theorem storeAll_cons (jar : List Cookie) (c : SetCookie) (cs : List SetCookie) :
    storeAll jar (c :: cs) = storeAll (store jar c) cs := rfl

section Store

variable {jar : List Cookie} {c : SetCookie} {n : String}

theorem find?_store_ne (h : c.name ≠ n) :
    (store jar c).find? (·.name == n) = jar.find? (·.name == n) := by
  have hf : (jar.filter (·.name != c.name)).find? (·.name == n) = jar.find? (·.name == n) := by
    induction jar with
    | nil => rfl
    | cons d jar ih =>
      by_cases hd : d.name = c.name
      · simp [hd, h, ih]
      · simp [List.filter_cons, hd, List.find?_cons, ih]
  unfold store
  split <;> simp [hf, SetCookie.toCookie, h]

theorem find?_store_self :
    (store jar c).find? (·.name == c.name) = if c.expired then none else some c.toCookie := by
  have hf : (jar.filter (·.name != c.name)).find? (·.name == c.name) = none := by
    simp
  unfold store
  split <;> simp [hf, SetCookie.toCookie, *]

theorem find?_storeAll_of_not_mem :
    ∀ {jar : List Cookie} {cs : List SetCookie}, n ∉ cs.map (·.name) →
      (storeAll jar cs).find? (·.name == n) = jar.find? (·.name == n)
  | _, [], _ => rfl
  | _, c :: _, h => by
    rw [List.map_cons, List.mem_cons, not_or] at h
    rw [storeAll_cons, find?_storeAll_of_not_mem h.2, find?_store_ne (Ne.symm h.1)]

/-- Of a response whose headers have distinct names, each header decides its cookie. -/
theorem find?_storeAll_of_mem :
    ∀ {jar : List Cookie} {cs : List SetCookie}, (cs.map (·.name)).Nodup → c ∈ cs →
      (storeAll jar cs).find? (·.name == c.name) = if c.expired then none else some c.toCookie
  | _, [], _, hc => absurd hc (List.not_mem_nil _)
  | _, d :: _, hn, hc => by
    rw [List.map_cons, List.nodup_cons] at hn
    rw [storeAll_cons]
    rcases List.mem_cons.mp hc with rfl | hc
    · rw [find?_storeAll_of_not_mem hn.1, find?_store_self]
    · exact find?_storeAll_of_mem hn.2 hc

end Store

/-! ## What a jar holds of a session -/

/-- The jar holds the session `σ`: for none, none of the session cookies; for a session, the three
cookies one successful `setCookies` wrote for it, with keys the verifier `o` derives. -/
inductive Stored (L : Libs) (o : Verifier) (jar : List Cookie) :
    Option (UUID × String × String) → Prop
  | empty (h : ∀ n ∈ sessionCookieNames, jar.find? (·.name == n) = none) : Stored L o jar none
  | session {s : UUID} {i t : String} {sc : SecureCookie} {cs : List SetCookie}
      (hsc : o.secureCookieFromSession L s = .ok sc)
      (hset : setCookies L (some sc) s i t false = .ok cs)
      (hjar : ∀ c ∈ cs, jar.find? (·.name == c.name) = some c.toCookie) :
      Stored L o jar (some (s, i, t))

theorem sessionCookieNames_nodup : sessionCookieNames.Nodup := by decide

namespace Stored

variable {L : Libs} {o o' : Verifier} {jar : List Cookie} {σ : Option (UUID × String × String)}

theorem congr (hkey : o'.clusterPrivateKey = o.clusterPrivateKey) :
    Stored L o jar σ → Stored L o' jar σ
  | .empty h => .empty h
  | .session hsc hset hjar =>
    .session ((Verifier.secureCookieFromSession_congr L hkey _).trans hsc) hset hjar

theorem storeAll_of_disjoint {cs : List SetCookie}
    (hcs : ∀ n ∈ sessionCookieNames, n ∉ cs.map (·.name)) :
    Stored L o jar σ → Stored L o (storeAll jar cs) σ
  | .empty h => .empty fun n hn => (find?_storeAll_of_not_mem (hcs n hn)).trans (h n hn)
  | .session hsc hset hjar => .session hsc hset fun c hc => by
    have hn : c.name ∈ sessionCookieNames :=
      (setCookies_names hset).1 ▸ List.mem_map_of_mem _ hc
    exact (find?_storeAll_of_not_mem (hcs _ hn)).trans (hjar c hc)

/-- A response that writes the cookies of a successful `setCookies`, among others of distinct
names, stores that session. -/
theorem of_setCookies {s : UUID} {i t : String} {sc : SecureCookie} {cs all : List SetCookie}
    (hsc : o.secureCookieFromSession L s = .ok sc)
    (hset : setCookies L (some sc) s i t false = .ok cs) (hcs : ∀ c ∈ cs, c ∈ all)
    (hn : (all.map (·.name)).Nodup) :
    Stored L o (storeAll jar all) (some (s, i, t)) :=
  .session hsc hset fun c hc => by
    rw [find?_storeAll_of_mem hn (hcs c hc), (setCookies_names hset).2 c hc,
      if_neg Bool.false_ne_true]

/-- The deleting `setCookies` leaves no session. -/
theorem of_delete {sc : Option SecureCookie} {s : UUID} {i t : String} {cs : List SetCookie}
    (hset : setCookies L sc s i t true = .ok cs) : Stored L o (storeAll jar cs) none := by
  simp only [setCookies, ↓reduceIte, Except.ok.injEq] at hset
  have hnames : cs.map (·.name) = sessionCookieNames := by rw [← hset]; rfl
  have hexp : ∀ c ∈ cs, c.expired = true := by rw [← hset]; simp
  refine .empty fun n hn => ?_
  obtain ⟨c, hc, rfl⟩ := List.mem_map.mp (hnames ▸ hn)
  rw [find?_storeAll_of_mem (hnames ▸ sessionCookieNames_nodup) hc, if_pos (hexp c hc)]

/-- A jar without a session reads as none. -/
theorem getCookies_none (h : Stored L o jar none) (host authorization : String) :
    o'.getCookies L ⟨host, authorization, jar⟩ = .ok (none, "", "") := by
  obtain ⟨h⟩ := h
  simp [Verifier.getCookies, Request.cookie, h cookieNameSessionID (by simp [sessionCookieNames])]

/-- Without an `Authorization` header, the browser's request is an OIDC request exactly when its
jar holds a session. -/
theorem isRequest_iff (h : Stored L o jar σ) (host : String) :
    isRequest ⟨host, "", jar⟩ = true ↔ σ.isSome := by
  cases h with
  | empty h =>
    simp [isRequest, Request.cookie, h cookieNameSessionID (by simp [sessionCookieNames])]
  | session hsc hset hjar =>
    obtain ⟨_, _, -, -, rfl⟩ := setCookies_ok hset
    have hs := hjar _ (List.mem_cons_of_mem _ (List.mem_cons_of_mem _ (List.mem_singleton_self _)))
    have hi := hjar _ (List.mem_cons_self _ _)
    simp only [SetCookie.toCookie] at hs hi
    simp [isRequest, Request.cookie, hs, hi]

end Stored

/-! ## The handlers that write the session cookies -/

/-- The tokens of a code exchange (`*oidc.Tokens`): the ID token and the refresh token. -/
structure ExchangeTokens where
  idToken : String
  refreshToken : String

/-- What a handler leaves: the verifier, the error of its 500 response (or `.ok ()` for its
redirect), and the cookies it writes. -/
structure Response where
  verifier : Verifier
  result : Except String Unit
  cookies : List SetCookie

namespace Verifier

/-- `Login`, with `loginID` the `uuid.NewString()` of the flow: the `login_id` cookie, which
`Callback` deletes. The cookies the `rp` library writes for its own redirect are not modelled. -/
def login (L : Libs) (gen : Nat) (host : String) (out : Outcomes) (loginID : UUID)
    (o : Verifier) : Response :=
  match o.ensureConfig gen host out with
  | (o, .error e) => ⟨o, .error ("Login failed: " ++ e), []⟩
  | (o, .ok ()) => ⟨o, .ok (), [⟨cookieNameLoginID, L.uuidString loginID, false⟩]⟩

/-- `Callback`, with `exchange` what `rp.CodeExchangeHandler` obtains for the request's code (its
error is the one the library answers with) and `sessionID` the `uuid.New()` of the session. -/
def callback (L : Libs) (gen : Nat) (host : String) (out : Outcomes)
    (exchange : Except String ExchangeTokens) (sessionID : UUID) (o : Verifier) : Response :=
  match o.ensureConfig gen host out with
  | (o, .error e) => ⟨o, .error ("OIDC callback failed: " ++ e), []⟩
  | (o, .ok ()) => match exchange with
    | .error e => ⟨o, .error e, []⟩
    | .ok tokens => match o.secureCookieFromSession L sessionID with
      | .error e => ⟨o, .error ("Failed to start a new session: " ++ e), []⟩
      | .ok secureCookie =>
        match setCookies L (some secureCookie) sessionID tokens.idToken tokens.refreshToken false with
        | .error e => ⟨o, .error ("Failed to set login information: " ++ e), []⟩
        | .ok cookies => ⟨o, .ok (), cookies ++ [⟨cookieNameLoginID, "", true⟩]⟩

/-- `Logout`: delete the session cookies. -/
def logout (L : Libs) (o : Verifier) : Response :=
  match setCookies L none UUID.nil "" "" true with
  | .error e => ⟨o, .error ("Failed to delete login information: " ++ e), []⟩
  | .ok cookies => ⟨o, .ok (), cookies⟩

section Lemmas

variable {L : Libs} {idp : Idp} {gen : Nat} {host : String} {out : Outcomes} {o : Verifier}

theorem ensureConfig_clusterPrivateKey :
    (o.ensureConfig gen host out).1.clusterPrivateKey = o.clusterPrivateKey := by
  have hrp : ∀ {o₁}, o.ensureRelyingParty gen host out = .ok o₁ →
      o₁.clusterPrivateKey = o.clusterPrivateKey := by
    intro o₁ h
    unfold ensureRelyingParty at h
    split at h
    · cases hs : o.setRelyingParty gen host out with
      | error e => simp [hs, Except.map] at h
      | ok o₂ =>
        simp only [hs, Except.map, Except.ok.injEq] at h
        obtain ⟨rp, rfl, -⟩ := setRelyingParty_ok hs
        rw [← h]
    · cases h
      rfl
  rcases ensureConfig_cases o gen host out with ⟨h, -⟩ | ⟨o₁, h₁, h | ⟨-, atv, h⟩⟩ <;>
    rw [h]
  all_goals exact (hrp h₁ :)

theorem login_verifier {loginID : UUID} :
    (o.login L gen host out loginID).verifier = (o.ensureConfig gen host out).1 := by
  unfold login
  split <;> simp [*]

theorem login_cookies {loginID : UUID} :
    ∀ c ∈ (o.login L gen host out loginID).cookies, c.name = cookieNameLoginID := by
  unfold login
  split <;> simp

theorem callback_verifier {exchange : Except String ExchangeTokens} {sessionID : UUID} :
    (o.callback L gen host out exchange sessionID).verifier = (o.ensureConfig gen host out).1 := by
  unfold callback
  split
  · simp [*]
  · rename_i he
    rw [he]
    repeat' split
    all_goals rfl

/-- What `Callback` writes: nothing when it fails; on success the cookies of `setCookies` for the
exchanged tokens, with keys from the configured verifier, and the deleted `login_id` cookie. -/
theorem callback_cookies (L : Libs) (gen : Nat) (host : String) (out : Outcomes)
    (exchange : Except String ExchangeTokens) (sessionID : UUID) (o : Verifier) :
    let resp := o.callback L gen host out exchange sessionID
    resp.result ≠ .ok () ∧ resp.cookies = [] ∨
      ∃ tokens sc cs, exchange = .ok tokens ∧ resp.result = .ok () ∧
        resp.verifier.secureCookieFromSession L sessionID = .ok sc ∧
        setCookies L (some sc) sessionID tokens.idToken tokens.refreshToken false = .ok cs ∧
        resp.cookies = cs ++ [⟨cookieNameLoginID, "", true⟩] := by
  unfold callback
  split
  · simp
  split
  · simp
  rename_i tokens
  split
  · simp
  rename_i sc hsc
  split
  · simp
  rename_i cs hset
  exact .inr ⟨tokens, sc, cs, rfl, rfl, hsc, hset, rfl⟩

/-- `Logout` writes what the deleting `setCookies` writes. -/
theorem logout_cookies : setCookies L none UUID.nil "" "" true = .ok (o.logout L).cookies := rfl

end Lemmas

end Verifier

section Auth

variable {L : Libs} {idp : Idp} {gen : Nat} {out : Outcomes} {o : Verifier} {r : Request}

theorem auth_verifier : (o.auth L idp gen out r).verifier = (o.ensureConfig gen r.host out).1 := by
  unfold Verifier.auth
  split
  · simp [*]
  · rename_i he
    rw [he]
    repeat' split
    all_goals rfl

/-- The cookies `authenticateIDToken` writes are those of the refresh path, or none. -/
theorem authenticateIDToken_cookies (L : Libs) (idp : Idp) (o : Verifier) (i t : String) :
    (o.authenticateIDToken L idp i t).2 = [] ∨
      (o.authenticateIDToken L idp i t).2 = (o.refreshIDToken L idp t).2 := by
  unfold Verifier.authenticateIDToken
  split
  · split
    · exact .inl rfl
    · exact .inr rfl
  · exact .inr rfl

/-- The cookies `Auth` writes: none, the deleted session cookies, or those of the refresh path
on the configured verifier. -/
theorem auth_cookies (L : Libs) (idp : Idp) (gen : Nat) (out : Outcomes) (o : Verifier)
    (r : Request) :
    (o.auth L idp gen out r).cookies = [] ∨
      setCookies L none UUID.nil "" "" true = .ok (o.auth L idp gen out r).cookies ∨
      ∃ t, (o.auth L idp gen out r).cookies =
        ((o.ensureConfig gen r.host out).1.refreshIDToken L idp t).2 := by
  unfold Verifier.auth
  split
  · exact .inl rfl
  rename_i he
  simp only [he]
  split
  · exact .inr (.inl rfl)
  split
  · split <;> exact .inl rfl
  split
  · rcases authenticateIDToken_cookies L idp (o.ensureConfig gen r.host out).1 _ _ with h | h <;>
      simp only [he] at h
    · exact .inl h
    · exact .inr (.inr ⟨_, h⟩)
  · exact .inl rfl

end Auth

/-! ## Runs -/

/-- What happens next, with what the outside answers on the way: `ExpireConfig` (a change of the
daemon's proxy configuration), or a request of the browser: `/oidc/login` (`uuid.NewString()`
gives `loginID`), `/oidc/callback` (the code exchange gives `exchange`, `uuid.New()` gives
`sessionID`), an API request with this `Authorization` header (`""` for none), answered by
`idp`, or `/oidc/logout`. -/
inductive Event
  | expireConfig
  | login (out : Outcomes) (loginID : UUID)
  | callback (out : Outcomes) (exchange : Except String ExchangeTokens) (sessionID : UUID)
  | request (out : Outcomes) (idp : Idp) (authorization : String)
  | logout

/-- The daemon and the cookie jar of one browser. -/
structure World where
  daemon : Daemon
  jar : List Cookie

namespace World

/-- A response: the daemon takes the handler's verifier, and the browser stores the cookies. -/
def answer (w : World) (o : Verifier) (cs : List SetCookie) : World :=
  ⟨⟨o, w.daemon.expiries⟩, storeAll w.jar cs⟩

/-- One event, at the daemon's proxy generation, for a browser at `host`. -/
def step (L : Libs) (host : String) (w : World) : Event → World
  | .expireConfig => ⟨(w.daemon.step .expireConfig).1, w.jar⟩
  | .login out loginID =>
    let resp := w.daemon.verifier.login L w.daemon.expiries host out loginID
    w.answer resp.verifier resp.cookies
  | .callback out exchange sessionID =>
    let resp := w.daemon.verifier.callback L w.daemon.expiries host out exchange sessionID
    w.answer resp.verifier resp.cookies
  | .request out idp authorization =>
    let a := w.daemon.verifier.auth L idp w.daemon.expiries out ⟨host, authorization, w.jar⟩
    w.answer a.verifier a.cookies
  | .logout =>
    let resp := w.daemon.verifier.logout L
    w.answer resp.verifier resp.cookies

/-- The world after a sequence of events. -/
def run (L : Libs) (host : String) (w : World) : List Event → World
  | [] => w
  | e :: es => (w.step L host e).run L host es

/-- The invariant of a world: the verifier's cache invariant, and a jar that stores a session with
the verifier's keys. -/
structure Inv (L : Libs) (w : World) : Prop where
  fresh : Fresh w.daemon.verifier w.daemon.expiries
  stored : ∃ σ, Stored L w.daemon.verifier w.jar σ

section Step

variable {L : Libs} {host : String} {w : World}

/-- A handler that ran `ensureConfig` keeps the cache invariant. -/
theorem fresh_answer (hf : Fresh w.daemon.verifier w.daemon.expiries) (out : Outcomes)
    (cs : List SetCookie) :
    Fresh (w.answer (w.daemon.verifier.ensureConfig w.daemon.expiries host out).1 cs).daemon.verifier
      (w.answer (w.daemon.verifier.ensureConfig w.daemon.expiries host out).1 cs).daemon.expiries :=
  hf.step (.ensureConfig host out)

/-- Every event keeps the invariant. -/
theorem Inv.step (hi : Inv L w) (e : Event) : Inv L (w.step L host e) := by
  obtain ⟨hf, σ, hs⟩ := hi
  have hkey := @Verifier.ensureConfig_clusterPrivateKey w.daemon.expiries host
  cases e with
  | expireConfig =>
    exact ⟨hf.step .expireConfig, σ, hs.congr (by rfl)⟩
  | login out loginID =>
    simp only [World.step, Verifier.login_verifier]
    refine ⟨fresh_answer hf out _, σ, (hs.congr hkey).storeAll_of_disjoint fun n hn hc => ?_⟩
    obtain ⟨c, hc', rfl⟩ := List.mem_map.mp hc
    exact absurd (Verifier.login_cookies c hc' ▸ hn) (by decide)
  | callback out exchange sessionID =>
    simp only [World.step]
    rw [Verifier.callback_verifier] at *
    refine ⟨fresh_answer hf out _, ?_⟩
    rcases Verifier.callback_cookies L w.daemon.expiries host out exchange sessionID
        w.daemon.verifier with
      ⟨-, hc⟩ | ⟨tokens, sc, cs, -, -, hsc, hset, hc⟩
    · rw [hc]
      exact ⟨σ, hs.congr hkey⟩
    · rw [Verifier.callback_verifier] at hsc
      rw [hc]
      refine ⟨_, .of_setCookies hsc hset (fun _ => List.mem_append_left _) ?_⟩
      rw [List.map_append, (setCookies_names hset).1]
      decide
  | request out idp authorization =>
    simp only [World.step, auth_verifier]
    refine ⟨fresh_answer hf out _, ?_⟩
    rcases auth_cookies L idp w.daemon.expiries out w.daemon.verifier ⟨host, authorization, w.jar⟩
      with hc | hc | ⟨t, hc⟩
    · rw [hc]
      exact ⟨σ, hs.congr hkey⟩
    · exact ⟨_, .of_delete hc⟩
    · dsimp only at hc
      by_cases hne : ((w.daemon.verifier.ensureConfig w.daemon.expiries host out).1.refreshIDToken
          L idp t).2 = []
      · rw [hc, hne]
        exact ⟨σ, hs.congr hkey⟩
      · obtain ⟨tokens, idToken, _, sc, -, -, -, hsc, hset⟩ := refreshIDToken_writes rfl hne
        rw [hc]
        exact ⟨_, .of_setCookies hsc hset (fun _ h => h)
          ((setCookies_names hset).1 ▸ sessionCookieNames_nodup)⟩
  | logout =>
    exact ⟨hf, _, .of_delete Verifier.logout_cookies⟩

end Step

/-- Every run keeps the invariant: the verifier's cache stays fresh, and the browser's jar holds
none of the session cookies or the three that one `setCookies` wrote. -/
theorem Inv.run {L : Libs} {host : String} {w : World} (hi : Inv L w) (es : List Event) :
    Inv L (w.run L host es) := by
  induction es generalizing w with
  | nil => exact hi
  | cons e es ih => exact ih (hi.step e)

/-- A new verifier and a browser without session cookies. -/
theorem Inv.init {L : Libs} {v : Verifier} (hv : v.relyingParty = none) {jar : List Cookie}
    (hjar : ∀ n ∈ sessionCookieNames, jar.find? (·.name == n) = none) :
    Inv L ⟨Daemon.init v, jar⟩ :=
  ⟨Fresh.init v hv, none, .empty hjar⟩

/-- After a logout the browser holds no session cookie, whatever it held before: its next request
without an `Authorization` header is no OIDC request, and once the configuration is ensured
`Auth` answers it with neither a result nor an error. -/
theorem logout_ends_session (L : Libs) (host : String) (w : World) :
    let w' := w.step L host .logout
    (∀ n ∈ sessionCookieNames, w'.jar.find? (·.name == n) = none) ∧
      isRequest ⟨host, "", w'.jar⟩ = false ∧
      ∀ idp gen out, (w'.daemon.verifier.ensureConfig gen host out).2 = .ok () →
        (w'.daemon.verifier.auth L idp gen out ⟨host, "", w'.jar⟩).result = .ok none := by
  intro w'
  have hs : Stored L w'.daemon.verifier w'.jar none := .of_delete Verifier.logout_cookies
  refine ⟨?_, ?_, fun idp gen out he => ?_⟩
  · cases hs with
    | empty h => exact h
  · simpa using (hs.isRequest_iff host).not
  · obtain ⟨o₁, ho⟩ : ∃ o₁, w'.daemon.verifier.ensureConfig gen host out = (o₁, .ok ()) :=
      ⟨_, Prod.ext rfl he⟩
    simp [Verifier.auth, ho, hs.getCookies_none]

/-- A logout from a jar holding a session: `Auth` then answers the next request with nothing. -/
theorem logout_ends_session_alice :
    let w : World := ⟨Daemon.init (newVerifier "https://idp.example" "lxd" "" [] "" [1, 2, 3] none),
      [⟨cookieNameSessionID, plainLibs.uuidString UUID.nil⟩, ⟨cookieNameIDToken, "oidc_identity|id"⟩]⟩
    let w' := w.step plainLibs "lxd.example" .logout
    let out : Outcomes :=
      ⟨.ok (), .ok "https://idp.example/keys", .ok (), .ok "https://idp.example/keys"⟩
    (w'.daemon.verifier.ensureConfig 0 "lxd.example" out).2 = .ok () ∧
      (w'.daemon.verifier.auth plainLibs Idp.oneUser 0 out ⟨"lxd.example", "", w'.jar⟩).result =
        .ok none := by
  intro w w' out
  have he : (w'.daemon.verifier.ensureConfig 0 "lxd.example" out).2 = .ok () := rfl
  exact ⟨he, (logout_ends_session plainLibs "lxd.example" w).2.2 Idp.oneUser 0 out he⟩

end World

end Oidc

end Lxd
