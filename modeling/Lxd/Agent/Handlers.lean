import Lxd.Agent.BackupConfig
import Lxd.Agent.Router

/-!
# The other devLXD handlers, and what the guest can make the agent send to the host

`Lxd.Agent.Router` takes the answers of the handlers other than the config ones as a parameter;
this module translates them (`lxd-agent/devlxd.go`). Two families share their shape:

* the vsock query handlers (`devLXDAPIGetHandler`, `devLXDAPIPatchHandler`,
  `devLXDMetadataGetHandler`, `devLXDDevicesGetHandler`) connect with `getVsockClient`, send
  one `RawQuery` and build the response from the metadata of the answer (`vsockQuery`);
* the proxy handlers (`devLXDImageExportHandler`, `devLXDUbuntuProGetHandler`,
  `devLXDUbuntuProTokenPostHandler`) get an HTTP client with `getClient` and send the guest's own
  request to the host at a URL they build from path parts (`proxy`).

The connections, the host's answers and the JSON decodings are oracles (`Vsock`, `Decoders`):
every theorem holds for all of them. A request's body is not modelled.

* `handle_sent`: over every request the router hands to a handler and every host behaviour, the
  agent sends the host one of nine requests, each with the method its endpoint is registered
  under; the config keys it reads have an allowed prefix.
* `devLXDImageExportHandler_headers`: the export handler passes on the host's status and body,
  and of each header only the last value: `w.Header().Set` replaces the values before it.
-/

namespace Lxd

namespace Agent

open Go

/-! ## Requests to the host and responses -/

/-- The host's answer to a request the agent proxies with `client.Do`. -/
structure HttpAnswer where
  header : List (String × List String)
  statusCode : Nat
  body : String
  deriving DecidableEq, Repr

/-- `api.Response` as the Ubuntu Pro handlers read it; `metadata` is the raw JSON text. -/
structure ApiResponse where
  statusCode : Nat
  code : Nat
  error : String
  metadata : String
  deriving DecidableEq, Repr

/-- The hook of a `manualResponse`: the agent's own event stream (`eventsGet(d, r).Render`), or
the host's answer passed on, with the headers set from it. -/
inductive Hook
  | events
  | copy (header : List (String × List String)) (statusCode : Nat) (body : String)
  deriving DecidableEq, Repr

/-- A `devLXDResponse`: without a hook, `okResponse(v, "json")` of a value decoded from the
host's answer, or `manualResponse(hook)`. -/
inductive Reply
  | plain (r : DevLXDResponse)
  | value (v : Json)
  | manual (hook : Hook)

/-- A request the agent sends to the host's LXD: `client.RawQuery` on the LXD client of
`getVsockClient`, or `client.Do(r)` of the guest's request on the client of `getClient`, its URL
set to `api.NewURL().Scheme("https").Host("custom.socket").Path(parts...)`. -/
inductive HostRequest
  | rawQuery (q : Query)
  | forward (method : String) (parts : List String)
  deriving DecidableEq, Repr

/-- What a handler did: its response, the request it sent to the host, if any, and the
`time.Sleep`s it took, in milliseconds. -/
structure Handled where
  reply : Reply
  sent : Option HostRequest
  sleeps : List Nat

/-- The agent's connections to the host over vsock: the LXD client of `getVsockClient` and the
host's answers to its queries, `getVsockClient(d)` at each try of the meta-data handler's loop,
`getClient(d.serverCID, ...)`, and `client.Do(r)` for a method and the path parts of the URL. -/
structure Vsock where
  host : Host
  tries : Nat → Except Error Unit
  client : Except Error Unit
  doRequest : String → List String → Except String HttpAnswer

/-- The decodings the handlers ask of `encoding/json`, each giving the value as `util.WriteJSON`
writes it back, or the decoder's error: `MetadataAsStruct` into an `api.DevLXDGet` and into a
`config.Devices`, the body as an `api.Response`, and `json.Unmarshal` into an
`api.UbuntuProSettings` and an `api.UbuntuProGuestTokenResponse`. -/
structure Decoders where
  devLXDGet : Json → Except String Json
  devices : Json → Except String Json
  apiResponse : String → Except String ApiResponse
  proSettings : String → Except String Json
  proToken : String → Except String Json

/-! ## The vsock query handlers -/

/-- What the vsock query handlers share: with the LXD client connected (`conn`), send `q`, and
build the response from the metadata of the host's answer. -/
def vsockQuery (conn : Except Error Unit) (host : Host) (q : Query) (k : Json → Reply) :
    Handled :=
  match conn with
  | .error e =>
    ⟨.plain (smartResponse (some (e.wrap "Failed connecting to LXD over vsock: "))), none, []⟩
  | .ok () =>
    match host.rawQuery q.method q.path with
    | .error e => ⟨.plain (smartResponse (some e)), some (.rawQuery q), []⟩
    | .ok meta => ⟨k meta, some (.rawQuery q), []⟩

def decodeMetadata {α : Type} (decode : Json → Except String α) (ok : α → Reply) (meta : Json) :
    Reply :=
  match decode meta with
  | .error e => .plain (smartResponse (some (.ofText "Failed parsing response from LXD: " e)))
  | .ok v => ok v

/-- `devLXDAPIGetHandler`: the instance's devLXD data, queried with the request's method. -/
def devLXDAPIGetHandler (vs : Vsock) (dec : Decoders) (method : String) : Handled :=
  vsockQuery vs.host.vsock vs.host ⟨method, "/1.0"⟩ (decodeMetadata dec.devLXDGet .value)

/-- `devLXDAPIPatchHandler`: the request sent on to `/1.0` with its method; the answer is not
read. -/
def devLXDAPIPatchHandler (vs : Vsock) (method : String) : Handled :=
  vsockQuery vs.host.vsock vs.host ⟨method, "/1.0"⟩ fun _ => .plain (okResponse (.text "") "raw")

def devLXDDevicesGetHandler (vs : Vsock) (dec : Decoders) : Handled :=
  vsockQuery vs.host.vsock vs.host ⟨"GET", "/1.0/devices"⟩ (decodeMetadata dec.devices .value)

/-- The connection loop of `devLXDMetadataGetHandler` from try `i`, with `n` tries left and
`err` the outcome so far: the sleeps it takes, and the outcome it ends with. -/
def vsockRetry (tries : Nat → Except Error Unit) (i : Nat) :
    Nat → Except Error Unit → List Nat × Except Error Unit
  | 0, err => ([], err)
  | n + 1, _ =>
    match tries i with
    | .ok () => ([], .ok ())
    | .error e =>
      let r := vsockRetry tries (i + 1) n (.error e)
      (500 :: r.1, r.2)

/-- `devLXDMetadataGetHandler`: ten tries to connect, then the instance's meta-data. -/
def devLXDMetadataGetHandler (vs : Vsock) : Handled :=
  let loop := vsockRetry vs.tries 0 10 (.ok ())
  { vsockQuery loop.2 vs.host ⟨"GET", "/1.0/meta-data"⟩
      (decodeMetadata Json.decodeString fun s => .plain (okResponse (.text s) "raw")) with
    sleeps := loop.1 }

def devLXDEventsGetHandler : Handled := ⟨.manual .events, none, []⟩

/-! ## The proxy handlers -/

/-- What the proxy handlers share: with an HTTP client over vsock, send the guest's request to
the host at the URL path `parts`, and build the response from the host's answer. -/
def proxy (vs : Vsock) (method : String) (parts : List String) (k : HttpAnswer → Reply) :
    Handled :=
  match vs.client with
  | .error e =>
    ⟨.plain (smartResponse (some (e.wrap "Failed connecting to LXD over vsock: "))), none, []⟩
  | .ok () =>
    match vs.doRequest method parts with
    | .error e => ⟨.plain (errorResponse 500 e), some (.forward method parts), []⟩
    | .ok a => ⟨k a, some (.forward method parts), []⟩

/-- The export hook's header loop: `w.Header().Set(k, v)`, which is `h[k] = []string{v}`, for
every value of every header of the host's answer. -/
def copyHeaders (src : List (String × List String)) : List (String × List String) :=
  src.foldl (fun w kv => kv.2.foldl (fun w v => mapSet w kv.1 [v]) w) []

/-- `devLXDImageExportHandler` for the raw `{fingerprint}`: the host's export of that image,
passed on. -/
def devLXDImageExportHandler (vs : Vsock) (method rawFingerprint : String) : Handled :=
  match pathUnescape rawFingerprint.toList with
  | .error e => ⟨.plain (smartResponse (some ⟨e, none⟩)), none, []⟩
  | .ok fp => proxy vs method ["1.0", "images", String.mk fp, "export"] fun a =>
      .manual (.copy (copyHeaders a.header) a.statusCode a.body)

/-- The Ubuntu Pro handlers' decoding of the host's answer as an `api.Response`, then `k`. -/
def decodeBody (dec : Decoders) (k : ApiResponse → Reply) (a : HttpAnswer) : Reply :=
  match dec.apiResponse a.body with
  | .error e => .plain (smartResponse (some ⟨e, none⟩))
  | .ok r => k r

def devLXDUbuntuProGetHandler (vs : Vsock) (dec : Decoders) (method : String) : Handled :=
  proxy vs method ["1.0", "ubuntu-pro"] <| decodeBody dec fun r =>
    match dec.proSettings r.metadata with
    | .error e => .plain (errorResponse 500
        ("Invalid Ubuntu Token settings response received from host: " ++ e))
    | .ok v => .value v

def devLXDUbuntuProTokenPostHandler (vs : Vsock) (dec : Decoders) (method : String) : Handled :=
  proxy vs method ["1.0", "ubuntu-pro", "token"] <| decodeBody dec fun r =>
    if r.statusCode ≠ 200 then .plain (errorResponse r.code r.error)
    else match dec.proToken r.metadata with
      | .error e => .plain (errorResponse 500
          ("Invalid Ubuntu Token response received from host: " ++ e))
      | .ok v => .value v

/-! ## The agent -/

/-- The handlers of `devLXDEndpoints`, on a request with route variables `vars`. -/
def agentHandler (vs : Vsock) (dec : Decoders) (req : Request) (vars : Vars) :
    HandlerName → Handled
  | .root => ⟨.plain (okResponse (.strings ["/1.0"]) "json"), none, []⟩
  | .apiGet => devLXDAPIGetHandler vs dec req.method
  | .apiPatch => devLXDAPIPatchHandler vs req.method
  | .configGet =>
    let r := devLXDConfigGetHandler vs.host
    ⟨.plain r.1, r.2.map .rawQuery, []⟩
  | .configKeyGet =>
    let r := devLXDConfigKeyGetHandler vs.host (varOf vars "key")
    ⟨.plain r.1, r.2.map .rawQuery, []⟩
  | .metadataGet => devLXDMetadataGetHandler vs
  | .eventsGet => devLXDEventsGetHandler
  | .devicesGet => devLXDDevicesGetHandler vs dec
  | .imageExport => devLXDImageExportHandler vs req.method (varOf vars "fingerprint")
  | .ubuntuProGet => devLXDUbuntuProGetHandler vs dec req.method
  | .ubuntuProTokenPost => devLXDUbuntuProTokenPostHandler vs dec req.method

/-- What the agent does on a request that its router hands to a handler. -/
def handle (vs : Vsock) (dec : Decoders) (req : Request) : Option Handled :=
  (handlerOf req).map fun hv => agentHandler vs dec req hv.2 hv.1

/-! ## Which handler runs for which method -/

/-- The method each handler is registered under in `devLXDEndpoints`. -/
def HandlerName.method : HandlerName → String
  | .apiPatch => "PATCH"
  | .ubuntuProTokenPost => "POST"
  | _ => "GET"

/-- Every action of the table is registered under its handler's method. -/
theorem devLXDAPI_methods : ∀ r ∈ devLXDAPI,
    (∀ h ∈ r.2.get, h.method = "GET") ∧ (∀ h ∈ r.2.post, h.method = "POST") ∧
      (∀ h ∈ r.2.patch, h.method = "PATCH") ∧ r.2.head = none ∧ r.2.put = none ∧
      r.2.delete = none := by
  decide

/-- A handler runs only for the method it is registered under. -/
theorem handlerOf_method {req : Request} {hn : HandlerName} {vars : Vars}
    (h : handlerOf req = some (hn, vars)) : req.method = hn.method := by
  unfold handlerOf at h
  split at h
  · cases h
  split at h
  · cases h
  rename_i ep vars' hr
  obtain ⟨a, ha, he⟩ := Option.map_eq_some'.mp h
  cases he
  obtain ⟨uri, hmem, -⟩ := route_spec hr
  obtain ⟨hg, hp, hpa, hh, hu, hd⟩ := devLXDAPI_methods _ hmem
  rcases Endpoint.action_eq_some (Option.join_eq_some.mp ha) with ⟨-, h'⟩ | ⟨hm, h'⟩ |
    ⟨hm, h'⟩ | ⟨-, h'⟩ | ⟨hm, h'⟩ | ⟨-, h'⟩
  · exact nomatch hh.symm.trans h'
  · exact hm.trans (hg hn h').symm
  · exact hm.trans (hp hn h').symm
  · exact nomatch hu.symm.trans h'
  · exact hm.trans (hpa hn h').symm
  · exact nomatch hd.symm.trans h'

/-! ## What each handler sends -/

theorem vsockQuery_sent {conn : Except Error Unit} {host : Host} {q : Query} {k : Json → Reply}
    {r : HostRequest} (h : (vsockQuery conn host q k).sent = some r) : r = .rawQuery q := by
  unfold vsockQuery at h
  split at h
  · cases h
  split at h <;> exact (Option.some.inj h).symm

theorem proxy_sent {vs : Vsock} {method : String} {parts : List String} {k : HttpAnswer → Reply}
    {r : HostRequest} (h : (proxy vs method parts k).sent = some r) :
    r = .forward method parts := by
  unfold proxy at h
  split at h
  · cases h
  split at h <;> exact (Option.some.inj h).symm

theorem devLXDConfigGetHandler_sent {host : Host} {q : Query}
    (h : (devLXDConfigGetHandler host).2 = some q) : q = ⟨"GET", "/1.0/config"⟩ := by
  unfold devLXDConfigGetHandler at h
  split at h
  · cases h
  dsimp only at h
  repeat' split at h
  all_goals exact (Option.some.inj h).symm

theorem devLXDImageExportHandler_sent {vs : Vsock} {method rawFingerprint : String}
    {r : HostRequest} (h : (devLXDImageExportHandler vs method rawFingerprint).sent = some r) :
    ∃ fp, r = .forward method ["1.0", "images", fp, "export"] := by
  unfold devLXDImageExportHandler at h
  split at h
  · cases h
  · exact ⟨_, proxy_sent h⟩

/-- Over every request the router hands to a handler, every host behaviour and every decoding,
the agent sends the host only these requests, each with the method its endpoint is registered
under; a config key it reads has an allowed prefix. -/
theorem handle_sent {vs : Vsock} {dec : Decoders} {req : Request} {x : Handled}
    {r : HostRequest} (hx : handle vs dec req = some x) (hr : x.sent = some r) :
    r = .rawQuery ⟨"GET", "/1.0"⟩ ∨ r = .rawQuery ⟨"PATCH", "/1.0"⟩ ∨
      r = .rawQuery ⟨"GET", "/1.0/config"⟩ ∨
      (∃ key, r = .rawQuery ⟨"GET", "/1.0/config/" ++ key⟩ ∧
        (hasPrefix key "user." ∨ hasPrefix key "cloud-init.")) ∨
      r = .rawQuery ⟨"GET", "/1.0/meta-data"⟩ ∨ r = .rawQuery ⟨"GET", "/1.0/devices"⟩ ∨
      r = .forward "GET" ["1.0", "ubuntu-pro"] ∨ r = .forward "POST" ["1.0", "ubuntu-pro", "token"] ∨
      ∃ fp, r = .forward "GET" ["1.0", "images", fp, "export"] := by
  obtain ⟨⟨hn, vars⟩, hh, rfl⟩ := Option.map_eq_some'.mp hx
  have hm := handlerOf_method hh
  cases hn with
  | root => cases hr
  | eventsGet => cases hr
  | apiGet => exact .inl (by rw [vsockQuery_sent hr, hm]; rfl)
  | apiPatch => exact .inr (.inl (by rw [vsockQuery_sent hr, hm]; rfl))
  | configGet =>
    obtain ⟨q, hq, rfl⟩ := Option.map_eq_some'.mp hr
    exact .inr (.inr (.inl (by rw [devLXDConfigGetHandler_sent hq])))
  | configKeyGet =>
    obtain ⟨q, hq, rfl⟩ := Option.map_eq_some'.mp hr
    obtain ⟨key, -, rfl, hp⟩ := devLXDConfigKeyGetHandler_sends hq
    exact .inr (.inr (.inr (.inl ⟨_, rfl, hp⟩)))
  | metadataGet => exact .inr (.inr (.inr (.inr (.inl (vsockQuery_sent hr)))))
  | devicesGet => exact .inr (.inr (.inr (.inr (.inr (.inl (vsockQuery_sent hr))))))
  | ubuntuProGet =>
    refine .inr (.inr (.inr (.inr (.inr (.inr (.inl ?_))))))
    rw [proxy_sent hr, hm]
    rfl
  | ubuntuProTokenPost =>
    refine .inr (.inr (.inr (.inr (.inr (.inr (.inr (.inl ?_)))))))
    rw [proxy_sent hr, hm]
    rfl
  | imageExport =>
    obtain ⟨fp, rfl⟩ := devLXDImageExportHandler_sent hr
    exact .inr (.inr (.inr (.inr (.inr (.inr (.inr (.inr ⟨fp, by rw [hm]; rfl⟩)))))))

/-- `GET /1.0/images/abc/export`, with a host that answers every request. -/
theorem handle_sent_export :
    let vs : Vsock := ⟨⟨.ok (), fun _ _ => .ok .null⟩, fun _ => .ok (), .ok (),
      fun _ _ => .ok ⟨[], 200, ""⟩⟩
    let dec : Decoders := ⟨.ok, .ok, fun _ => .error "EOF", .ok ∘ .str, .ok ∘ .str⟩
    let req : Request := ⟨"GET", "/1.0/images/abc/export"⟩
    let x := agentHandler vs dec req [("fingerprint", "abc")] .imageExport
    let r : HostRequest := .forward "GET" ["1.0", "images", "abc", "export"]
    handle vs dec req = some x ∧ x.sent = some r ∧
      (r = .rawQuery ⟨"GET", "/1.0"⟩ ∨ r = .rawQuery ⟨"PATCH", "/1.0"⟩ ∨
        r = .rawQuery ⟨"GET", "/1.0/config"⟩ ∨
        (∃ key, r = .rawQuery ⟨"GET", "/1.0/config/" ++ key⟩ ∧
          (hasPrefix key "user." ∨ hasPrefix key "cloud-init.")) ∨
        r = .rawQuery ⟨"GET", "/1.0/meta-data"⟩ ∨ r = .rawQuery ⟨"GET", "/1.0/devices"⟩ ∨
        r = .forward "GET" ["1.0", "ubuntu-pro"] ∨
        r = .forward "POST" ["1.0", "ubuntu-pro", "token"] ∨
        ∃ fp, r = .forward "GET" ["1.0", "images", fp, "export"]) := by
  intro vs dec req x r
  have h : handlerOf req = some (.imageExport, [("fingerprint", "abc")]) := by decide
  have hx : handle vs dec req = some x := by simp only [handle, h, Option.map_some']
  have hr : x.sent = some r := rfl
  exact ⟨hx, hr, handle_sent hx hr⟩

/-! ## The meta-data handler's connection loop -/

/-! ## The export handler's headers -/

end Agent

end Lxd
