import Lxd.Agent.DevLxd
import Lxd.Go.Path

/-!
# The agent's devLXD router (`lxd-agent/devlxd.go`)

`devLXDAPI` registers every endpoint of `devLXDEndpoints` on a gorilla mux router that matches
on the encoded path, at the URI that `registerDevLXDEndpoint` computes with `path.Join`. mux
first redirects a path that its `cleanPath` changes, then runs the first route whose template
matches, or answers `404 page not found`. The route's function picks the action of the
request's method: its handler, `501` when the endpoint has none, `404` for a method it does not
know, and `500` with the value of a handler's panic.

The two config handlers are those `Lxd.Agent.DevLxd` translates; the others answer as the
parameter `other` says: a response and the query sent to the host, or the value of a panic.

* `route_unique`: no path matches two routes, so the order of the table does not matter.
* `serve_not_implemented`: `HEAD`, `PUT` and `DELETE` requests never reach a handler.
* `handlerOf_configKeyGet`: the config-key handler runs only for `GET /1.0/config/` and one
  plain path element, which it gets as its `key`.
* `serve_config_query_unescaped`: through the router, the config-key handler runs only for
  `GET /1.0/config/` and one plain element; a path without a percent escape never makes the
  agent read a config key other than the allowed one it names.
-/

namespace Lxd

namespace Agent

open Go

/-! ## The endpoint table -/

/-- The handler functions of the devLXD endpoints; `root` is the inline handler of `/`. -/
inductive HandlerName
  | root
  | apiGet
  | apiPatch
  | configGet
  | configKeyGet
  | metadataGet
  | eventsGet
  | devicesGet
  | imageExport
  | ubuntuProGet
  | ubuntuProTokenPost
  deriving DecidableEq, Repr

/-- `devLXDAPIEndpoint`: a path pattern, and the handler of each method's action, if any. -/
structure Endpoint where
  name : String := ""
  path : String
  get : Option HandlerName := none
  head : Option HandlerName := none
  put : Option HandlerName := none
  post : Option HandlerName := none
  delete : Option HandlerName := none
  patch : Option HandlerName := none
  deriving DecidableEq, Repr

def devLXD10Endpoint : Endpoint := { path := "", get := some .apiGet, patch := some .apiPatch }

def devLXDConfigEndpoint : Endpoint := { path := "config", get := some .configGet }

def devLXDConfigKeyEndpoint : Endpoint := { path := "config/{key}", get := some .configKeyGet }

def devLXDMetadataEndpoint : Endpoint := { path := "meta-data", get := some .metadataGet }

def devLXDEventsEndpoint : Endpoint := { path := "events", get := some .eventsGet }

def devLXDDevicesEndpoint : Endpoint := { path := "devices", get := some .devicesGet }

def devLXDImageExportEndpoint : Endpoint :=
  { path := "images/{fingerprint}/export", get := some .imageExport }

def devLXDUbuntuProEndpoint : Endpoint := { path := "ubuntu-pro", get := some .ubuntuProGet }

def devLXDUbuntuProTokenEndpoint : Endpoint :=
  { path := "/ubuntu-pro/token", post := some .ubuntuProTokenPost }

/-- `devLXDEndpoints`. -/
def devLXDEndpoints : List Endpoint :=
  [{ path := "/", get := some .root }, devLXD10Endpoint, devLXDConfigEndpoint,
    devLXDConfigKeyEndpoint, devLXDMetadataEndpoint, devLXDEventsEndpoint, devLXDDevicesEndpoint,
    devLXDImageExportEndpoint, devLXDUbuntuProEndpoint, devLXDUbuntuProTokenEndpoint]

/-- The method switch of the route's function: the action of a method it knows. -/
def Endpoint.action (ep : Endpoint) : String → Option (Option HandlerName)
  | "HEAD" => some ep.head
  | "GET" => some ep.get
  | "POST" => some ep.post
  | "PUT" => some ep.put
  | "PATCH" => some ep.patch
  | "DELETE" => some ep.delete
  | _ => none

/-! ## Routes -/

/-- A segment of a route template: literal text, or a variable `{name}`. -/
inductive Seg
  | lit (s : List Char)
  | var (name : List Char)
  deriving DecidableEq

/-- mux reads `{name}` as a variable that matches `[^/]+`. Every template here has its
variables as whole path elements. -/
def Seg.ofElem (e : List Char) : Seg :=
  if e.head? = some '{' ∧ e.getLast? = some '}' then .var (e.drop 1).dropLast else .lit e

/-- The segments of a route template. -/
def template (uri : String) : List Seg := (uri.toList.splitOn '/').map Seg.ofElem

/-- Route variables, `mux.Vars(r)`. -/
abbrev Vars := List (String × String)

/-- A path's elements against a template: literals equal, each variable a non-empty element. -/
def matchSegs : List Seg → List (List Char) → Option Vars
  | [], [] => some []
  | .lit l :: ts, e :: es => if l = e then matchSegs ts es else none
  | .var n :: ts, e :: es =>
    if e = [] then none else (matchSegs ts es).map ((String.mk n, String.mk e) :: ·)
  | _, _ => none

/-- mux's match of a route template against the encoded path. -/
def matchTemplate (uri path : String) : Option Vars :=
  matchSegs (template uri) (path.toList.splitOn '/')

/-- The URI `registerDevLXDEndpoint` registers an endpoint at. -/
def endpointURI (apiVersion : String) (ep : Endpoint) : String :=
  if ep.path != "/" then pathJoin ["/", apiVersion, ep.path] else ep.path

/-- `devLXDAPI`: the routes, in the order of registration. -/
def devLXDAPI : List (String × Endpoint) :=
  devLXDEndpoints.map fun ep => (endpointURI "1.0" ep, ep)

/-- The first route whose template matches the path, with its variables. -/
def route (path : String) : Option (Endpoint × Vars) :=
  devLXDAPI.findSome? fun r => (matchTemplate r.1 path).map (r.2, ·)

/-! ## Serving a request -/

/-- A request on the devLXD socket: its method and its encoded path, `r.URL.EscapedPath()`, a
byte string (`Lxd.Go.Strings`). Its query is not modelled: no handler here reads it. -/
structure Request where
  method : String
  path : String
  deriving DecidableEq, Repr

/-- What the agent's server answers: mux's `301` redirect, mux's `404 page not found`, or the
response of the route's function and the query it sent to the host. -/
inductive Answer
  | redirect (location : String)
  | notFound
  | response (r : DevLXDResponse) (query : Option Query)
  deriving DecidableEq, Repr

/-- `mux.Vars(r)[name]`, `""` when absent. -/
def varOf (vars : Vars) (name : String) : String := (vars.lookup name).getD ""

/-- What a handler does: its response and the query it sent to the host, or the value of its
panic. -/
abbrev Outcome := Except String (DevLXDResponse × Option Query)

/-- The handlers, for route variables `vars`. -/
def callHandler (host : Host) (other : HandlerName → Vars → Outcome) (vars : Vars) :
    HandlerName → Outcome
  | .root => .ok (okResponse (.strings ["/1.0"]) "json", none)
  | .configGet => .ok (devLXDConfigGetHandler host)
  | .configKeyGet => .ok (devLXDConfigKeyGetHandler host (varOf vars "key"))
  | h => other h vars

/-- `handleRequest`: `501` without a handler, `500` with the value of a panic. -/
def handleRequest (call : HandlerName → Outcome) : Option HandlerName → DevLXDResponse × Option Query
  | none => (errorResponse 501 "", none)
  | some h => match call h with
    | .ok r => r
    | .error p => (errorResponse 500 p, none)

/-- The route's function: `handleRequest` of the method's action, `404` for another method. -/
def handleFunc (call : HandlerName → Outcome) (ep : Endpoint) (method : String) :
    DevLXDResponse × Option Query :=
  match ep.action method with
  | some action => handleRequest call action
  | none => (errorResponse 404 ("Method " ++ quote method ++ " not found"), none)

/-- The agent's server on one request. mux answers a path that `cleanPath` changes with a `301`
to `url.String()` of the request's URL with the cleaned path as its `Path`, which escapes that
path again: a `%` in it becomes `%25`. -/
def serve (host : Host) (other : HandlerName → Vars → Outcome) (req : Request) : Answer :=
  if muxCleanPath req.path ≠ req.path then
    .redirect (String.mk (escapePath (muxCleanPath req.path).toList))
  else match route req.path with
    | none => .notFound
    | some (ep, vars) =>
      let r := handleFunc (callHandler host other vars) ep req.method
      .response r.1 r.2

/-- The handler the server runs for a request, with its route variables. -/
def handlerOf (req : Request) : Option (HandlerName × Vars) :=
  if muxCleanPath req.path ≠ req.path then none
  else match route req.path with
    | none => none
    | some (ep, vars) => ((ep.action req.method).bind id).map (·, vars)

/-! ## Routing -/

/-- Two templates that one path matches agree wherever both are literal. -/
def Compatible : List Seg → List Seg → Bool
  | [], [] => true
  | .lit a :: ts, .lit b :: us => a == b && Compatible ts us
  | _ :: ts, _ :: us => Compatible ts us
  | _, _ => false

theorem matchSegs_cons {t : Seg} {ts : List Seg} {e : List Char} {es : List (List Char)}
    {v : Vars} (h : matchSegs (t :: ts) (e :: es) = some v) :
    (∃ v', matchSegs ts es = some v') ∧ ∀ l, t = .lit l → l = e := by
  cases t with
  | lit l =>
    simp only [matchSegs] at h
    split at h
    · exact ⟨⟨v, h⟩, fun _ hl => by cases hl; assumption⟩
    · cases h
  | var n =>
    simp only [matchSegs] at h
    split at h
    · cases h
    · obtain ⟨v', hv', -⟩ := Option.map_eq_some'.mp h
      exact ⟨⟨v', hv'⟩, fun _ hl => by cases hl⟩

theorem compatible_of_matchSegs {es : List (List Char)} :
    ∀ {ts us : List Seg} {v w : Vars}, matchSegs ts es = some v → matchSegs us es = some w →
      Compatible ts us = true := by
  induction es with
  | nil =>
    intro ts us v w h₁ h₂
    cases ts <;> cases us <;> simp_all [matchSegs, Compatible]
  | cons e es ih =>
    intro ts us v w h₁ h₂
    cases ts with
    | nil => simp [matchSegs] at h₁
    | cons t ts =>
      cases us with
      | nil => simp [matchSegs] at h₂
      | cons u us =>
        obtain ⟨⟨_, h₁'⟩, ht⟩ := matchSegs_cons h₁
        obtain ⟨⟨_, h₂'⟩, hu⟩ := matchSegs_cons h₂
        have hc := ih h₁' h₂'
        cases t with
        | lit a =>
          cases u with
          | lit b => simp [Compatible, hc, ht a rfl, hu b rfl]
          | var _ => simp [Compatible, hc]
        | var _ => cases u <;> simp [Compatible, hc]

/-- The table's templates: no two routes are compatible. -/
theorem devLXDAPI_incompatible :
    ∀ r₁ ∈ devLXDAPI, ∀ r₂ ∈ devLXDAPI, Compatible (template r₁.1) (template r₂.1) = true →
      r₁ = r₂ := by
  decide

/-- No path matches two routes of the devLXD API, so the order of the table does not matter. -/
theorem route_unique {path : String} {r₁ r₂ : String × Endpoint} (h₁ : r₁ ∈ devLXDAPI)
    (h₂ : r₂ ∈ devLXDAPI) (hm₁ : (matchTemplate r₁.1 path).isSome)
    (hm₂ : (matchTemplate r₂.1 path).isSome) : r₁ = r₂ := by
  obtain ⟨v, hv⟩ := Option.isSome_iff_exists.mp hm₁
  obtain ⟨w, hw⟩ := Option.isSome_iff_exists.mp hm₂
  exact devLXDAPI_incompatible r₁ h₁ r₂ h₂ (compatible_of_matchSegs hv hw)

/-- `/1.0/config/user.foo` matches the config-key route, and no other. -/
theorem route_unique_user_foo :
    let r : String × Endpoint := ("/1.0/config/{key}", devLXDConfigKeyEndpoint)
    r ∈ devLXDAPI ∧ (matchTemplate r.1 "/1.0/config/user.foo").isSome ∧ r = r := by
  intro r
  have hr : r ∈ devLXDAPI := by decide
  have hm : (matchTemplate r.1 "/1.0/config/user.foo").isSome := by decide
  exact ⟨hr, hm, route_unique hr hr hm hm⟩

theorem route_spec {path : String} {ep : Endpoint} {vars : Vars}
    (h : route path = some (ep, vars)) :
    ∃ uri, (uri, ep) ∈ devLXDAPI ∧ matchTemplate uri path = some vars := by
  obtain ⟨r, hr, hm⟩ := List.exists_of_findSome?_eq_some h
  obtain ⟨vars', hv, he⟩ := Option.map_eq_some'.mp hm
  cases he
  exact ⟨r.1, hr, hv⟩

/-- No endpoint of the table has a `HEAD`, `PUT` or `DELETE` handler. -/
theorem devLXDAPI_no_head_put_delete :
    ∀ r ∈ devLXDAPI, r.2.head = none ∧ r.2.put = none ∧ r.2.delete = none := by
  decide

/-- `HEAD`, `PUT` and `DELETE` requests reach no handler: the server redirects them, answers
`404 page not found`, or answers `501 Not Implemented` on the path of any endpoint. -/
theorem serve_not_implemented (host : Host) (other : HandlerName → Vars → Outcome) {req : Request}
    (hm : req.method = "HEAD" ∨ req.method = "PUT" ∨ req.method = "DELETE") :
    handlerOf req = none ∧ (serve host other req = .response (errorResponse 501 "") none ∨
      serve host other req = .notFound ∨ ∃ l, serve host other req = .redirect l) := by
  unfold handlerOf serve
  split
  · exact ⟨rfl, .inr (.inr ⟨_, rfl⟩)⟩
  split
  · exact ⟨rfl, .inr (.inl rfl)⟩
  rename_i ep vars hr
  obtain ⟨uri, hmem, -⟩ := route_spec hr
  obtain ⟨hh, hp, hd⟩ : ep.head = none ∧ ep.put = none ∧ ep.delete = none :=
    devLXDAPI_no_head_put_delete _ hmem
  have ha : ep.action req.method = some none := by
    rcases hm with hm | hm | hm <;> rw [hm]
    · exact congrArg some hh
    · exact congrArg some hp
    · exact congrArg some hd
  simp [ha, handleFunc, handleRequest]

/-- `HEAD /1.0/config` is not implemented. -/
theorem serve_not_implemented_head_config :
    let req : Request := ⟨"HEAD", "/1.0/config"⟩
    let host : Host := ⟨.ok (), fun _ _ => .ok (.arr [])⟩
    serve host (fun _ _ => .error "unreachable") req = .response (errorResponse 501 "") none ∧
      handlerOf req = none ∧
      (serve host (fun _ _ => .error "unreachable") req = .response (errorResponse 501 "") none ∨
        serve host (fun _ _ => .error "unreachable") req = .notFound ∨
        ∃ l, serve host (fun _ _ => .error "unreachable") req = .redirect l) := by
  intro req host
  have hs : serve host (fun _ _ => .error "unreachable") req =
      .response (errorResponse 501 "") none := by decide
  exact ⟨hs, serve_not_implemented host _ (.inl rfl)⟩

/-! ## The config-key route -/

theorem Endpoint.action_eq_some {ep : Endpoint} {m : String} {h : HandlerName}
    (ha : ep.action m = some (some h)) :
    m = "HEAD" ∧ ep.head = some h ∨ m = "GET" ∧ ep.get = some h ∨ m = "POST" ∧ ep.post = some h ∨
      m = "PUT" ∧ ep.put = some h ∨ m = "PATCH" ∧ ep.patch = some h ∨
      m = "DELETE" ∧ ep.delete = some h := by
  unfold Endpoint.action at ha
  split at ha <;> simp_all

/-- Only the `GET` action of `config/{key}` runs the config-key handler. -/
theorem devLXDAPI_configKeyGet :
    ∀ r ∈ devLXDAPI, r.2.head ≠ some .configKeyGet ∧ r.2.post ≠ some .configKeyGet ∧
      r.2.put ≠ some .configKeyGet ∧ r.2.patch ≠ some .configKeyGet ∧
      r.2.delete ≠ some .configKeyGet ∧
      (r.2.get = some .configKeyGet → r.1 = "/1.0/config/{key}") := by
  decide

theorem template_configKey :
    template "/1.0/config/{key}" =
      [.lit [], .lit "1.0".toList, .lit "config".toList, .var "key".toList] := by
  decide

theorem matchSegs_configKey {es : List (List Char)} {v : Vars}
    (h : matchSegs [.lit [], .lit "1.0".toList, .lit "config".toList, .var "key".toList] es =
      some v) :
    ∃ key, es = [[], "1.0".toList, "config".toList, key] ∧ key ≠ [] ∧ v = [("key", String.mk key)] := by
  rcases es with _ | ⟨e₀, _ | ⟨e₁, _ | ⟨e₂, _ | ⟨e₃, _ | ⟨e₄, es⟩⟩⟩⟩⟩ <;> simp [matchSegs] at h
  obtain ⟨rfl, rfl, rfl, hk, rfl⟩ := h
  exact ⟨e₃, rfl, hk, rfl⟩

/-- The config-key handler runs only for `GET /1.0/config/` and one plain path element, which
it gets as its `key`. -/
theorem handlerOf_configKeyGet {req : Request} {vars : Vars}
    (h : handlerOf req = some (.configKeyGet, vars)) :
    req.method = "GET" ∧ ∃ key, Plain key ∧
      req.path = String.mk (absPath ["1.0".toList, "config".toList, key]) ∧
      vars = [("key", String.mk key)] := by
  unfold handlerOf at h
  split at h
  · cases h
  rename_i hclean
  split at h
  · cases h
  rename_i ep vars' hr
  obtain ⟨a, ha, he⟩ := Option.map_eq_some'.mp h
  cases he
  have ha : ep.action req.method = some (some .configKeyGet) := Option.join_eq_some.mp ha
  obtain ⟨uri, hmem, hm⟩ := route_spec hr
  obtain ⟨hh, hp, hu, hpa, hd, hget⟩ := devLXDAPI_configKeyGet _ hmem
  have hGET : req.method = "GET" ∧ uri = "/1.0/config/{key}" := by
    rcases Endpoint.action_eq_some ha with ⟨-, h'⟩ | ⟨hm', h'⟩ | ⟨-, h'⟩ | ⟨-, h'⟩ | ⟨-, h'⟩ |
      ⟨-, h'⟩
    · exact absurd h' hh
    · exact ⟨hm', hget h'⟩
    · exact absurd h' hp
    · exact absurd h' hu
    · exact absurd h' hpa
    · exact absurd h' hd
  obtain ⟨hGET, rfl⟩ := hGET
  unfold matchTemplate at hm
  rw [template_configKey] at hm
  obtain ⟨key, hsplit, hne, rfl⟩ := matchSegs_configKey hm
  have hl : req.path.toList = absPath ["1.0".toList, "config".toList, key] := by
    rw [← intercalate_nil_cons (List.cons_ne_nil _ _), ← hsplit, List.intercalate_splitOn]
  have hpath : req.path = String.mk (absPath ["1.0".toList, "config".toList, key]) := by
    rw [← hl]
    rfl
  have hslash : '/' ∉ key :=
    not_mem_of_mem_splitOn (show key ∈ req.path.toList.splitOn '/' by rw [hsplit]; simp)
  have hclean' : muxCleanPath req.path = req.path := by simpa using hclean
  rw [hpath] at hclean'
  refine ⟨hGET, key, ⟨hne, ?_, ?_, hslash⟩, hpath, rfl⟩
  · rintro rfl
    exact absurd hclean' (by decide)
  · rintro rfl
    exact absurd hclean' (by decide)

/-- A request whose handler is found gets that handler's answer. -/
theorem serve_of_handlerOf {host : Host} {other : HandlerName → Vars → Outcome} {req : Request}
    {hn : HandlerName} {vars : Vars} (h : handlerOf req = some (hn, vars)) :
    serve host other req = .response (handleRequest (callHandler host other vars) (some hn)).1
      (handleRequest (callHandler host other vars) (some hn)).2 := by
  unfold handlerOf at h
  unfold serve
  split at h
  · cases h
  rename_i hclean
  rw [if_neg hclean]
  split at h
  · cases h
  rename_i ep vars' hr
  obtain ⟨a, ha, he⟩ := Option.map_eq_some'.mp h
  cases he
  have ha : ep.action req.method = some (some hn) := Option.join_eq_some.mp ha
  simp only [hr, handleFunc, ha]

/-- Through the router, the config-key handler runs only for `GET /1.0/config/` and one plain
element, its `key`; and a path without a percent escape never makes the agent read a config key
other than that one: every query it sends resolves to `/1.0/config/` and the key, which has an
allowed prefix. -/
theorem serve_config_query_unescaped {host : Host} {other : HandlerName → Vars → Outcome}
    {req : Request} {vars : Vars} (h : handlerOf req = some (.configKeyGet, vars)) :
    req.method = "GET" ∧ ∃ key : String, Plain key.toList ∧ req.path = "/1.0/config/" ++ key ∧
      vars = [("key", key)] ∧
      ('%' ∉ req.path.toList → ∀ r q, serve host other req = .response r (some q) →
        removeDotSegments q.path.toList = "/1.0/config/".toList ++ key.toList ∧
          (hasPrefix key "user." ∨ hasPrefix key "cloud-init.")) := by
  obtain ⟨hget, key, hplain, hpath, rfl⟩ := handlerOf_configKeyGet h
  have hpath' : req.path = "/1.0/config/" ++ String.mk key := by
    rw [hpath]
    simp [absPath, String.ext_iff, String.toList]
  refine ⟨hget, String.mk key, hplain, hpath', rfl, fun hpct r q hs => ?_⟩
  have hq : (devLXDConfigKeyGetHandler host (String.mk key)).2 = some q := by
    rw [serve_of_handlerOf h] at hs
    exact (Answer.response.inj hs).2
  have hkpct : '%' ∉ key := fun hk => hpct (by rw [hpath']; simp [String.toList, hk])
  obtain ⟨key', hk, rfl, hp⟩ := devLXDConfigKeyGetHandler_sends hq
  rw [show (String.mk key).toList = key from rfl, pathUnescape_of_not_mem hkpct] at hk
  cases hk
  exact ⟨removeDotSegments_configKey hplain.2.2.2 hp, hp⟩

/-- `GET /1.0/config/user.foo`, with the test suite's host. -/
theorem serve_config_query_unescaped_user_foo :
    let host : Host := ⟨.ok (), fun _ _ => .ok (.str "bar")⟩
    let req : Request := ⟨"GET", "/1.0/config/user.foo"⟩
    handlerOf req = some (.configKeyGet, [("key", "user.foo")]) ∧
      serve host (fun _ _ => .error "unreachable") req =
        .response (okResponse (.text "bar") "raw") (some ⟨"GET", "/1.0/config/user.foo"⟩) ∧
      req.method = "GET" ∧ ∃ key : String, Plain key.toList ∧ req.path = "/1.0/config/" ++ key ∧
        [("key", "user.foo")] = [("key", key)] ∧
        ('%' ∉ req.path.toList → ∀ r q, serve host (fun _ _ => .error "unreachable") req =
          .response r (some q) →
          removeDotSegments q.path.toList = "/1.0/config/".toList ++ key.toList ∧
            (hasPrefix key "user." ∨ hasPrefix key "cloud-init.")) := by
  intro host req
  have h : handlerOf req = some (.configKeyGet, [("key", "user.foo")]) := by decide
  have hs : serve host (fun _ _ => .error "unreachable") req =
      .response (okResponse (.text "bar") "raw") (some ⟨"GET", "/1.0/config/user.foo"⟩) := by
    decide
  exact ⟨h, hs, serve_config_query_unescaped h⟩

end Agent

end Lxd
