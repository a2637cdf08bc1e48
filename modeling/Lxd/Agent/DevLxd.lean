import Lxd.Go.Json
import Lxd.Go.Strings
import Lxd.Go.Url

/-!
# The config endpoints of the agent's devLXD API (`lxd-agent/devlxd.go`)

The agent answers `GET /1.0/config` and `GET /1.0/config/{key}` on the guest's devLXD socket by
querying the LXD server over vsock. Both are meant to expose only `user.*` and `cloud-init.*`
keys. The router matches on the encoded path (`UseEncodedPath`), so `{key}` is the raw segment,
and the handler decodes it with `url.PathUnescape` before checking the prefix.

* `devLXDConfigKeyGetHandler_sends`: every query the key handler sends is for `/1.0/config/`
  followed by a decoded key with an allowed prefix.
* `devLXDConfigKeyGetHandler_confined`: when the decoded key has no `/`, that path resolves
  (RFC 3986 dot-segment removal) to itself, one allowed key.
* `devLXDConfigKeyGetHandler_unescaped`: a key with no percent-escape always does; only an
  escape can leave the allowed keys.
* `devLXDConfigKeyGetHandler_reads_security_nesting`: `user.%2F..%2Fsecurity.nesting` passes
  the check and resolves to `/1.0/config/security.nesting`.
-/

namespace Lxd

namespace Agent

open Go

/-- A Go `error` as the handlers see it: its text, and the HTTP status of an `api.StatusError`
in its chain (what `api.StatusErrorMatch` finds). -/
structure Error where
  msg : String
  status : Option Nat
  deriving DecidableEq, Repr

/-- `fmt.Errorf(pre + "%w", err)`: the text gets the prefix, the chain keeps the status. -/
def Error.wrap (pre : String) (e : Error) : Error := { e with msg := pre ++ e.msg }

/-- `fmt.Errorf(pre + "%w", err)` of a library error with no status in its chain. -/
def Error.ofText (pre msg : String) : Error := ⟨pre ++ msg, none⟩

/-- The `content` of a `devLXDResponse`: nothing, a string, or a list of strings. -/
inductive Content
  | none
  | text (s : String)
  | strings (l : List String)
  deriving DecidableEq, Repr

/-- `devLXDResponse` without a hook. -/
structure DevLXDResponse where
  content : Content
  code : Nat
  ctype : String
  deriving DecidableEq, Repr

/-- `errorResponse(code, msg)`. -/
def errorResponse (code : Nat) (msg : String) : DevLXDResponse := ⟨.text msg, code, "raw"⟩

/-- `okResponse(ct, ctype)`. -/
def okResponse (ct : Content) (ctype : String) : DevLXDResponse := ⟨ct, 200, ctype⟩

/-- `smartResponse(err)`: the status found in the chain, or 500. -/
def smartResponse : Option Error → DevLXDResponse
  | none => okResponse .none ""
  | some e => match e.status with
    | some code => errorResponse code e.msg
    | none => errorResponse 500 e.msg

@[simp] theorem smartResponse_some_content (e : Error) :
    (smartResponse (some e)).content = .text e.msg := by
  rcases e with ⟨_, _ | _⟩ <;> rfl

/-- The LXD server behind vsock: whether `getVsockClient` connects, and what `RawQuery` answers
for a method and a path. -/
structure Host where
  vsock : Except Error Unit
  rawQuery : String → String → Except Error Json

/-- A request the agent sends to the LXD server, `client.RawQuery(method, path, nil, "")`. -/
structure Query where
  method : String
  path : String
  deriving DecidableEq, Repr

/-- `devLXDConfigGetHandler`: the server's config key URLs, only the `user.` and `cloud-init.`
ones. -/
def devLXDConfigGetHandler (host : Host) : DevLXDResponse × Option Query :=
  match host.vsock with
  | .error e => (smartResponse (some (e.wrap "Failed connecting to LXD over vsock: ")), none)
  | .ok () =>
    let q : Query := ⟨"GET", "/1.0/config"⟩
    match host.rawQuery q.method q.path with
    | .error e => (smartResponse (some e), some q)
    | .ok meta => match meta.decodeStrings with
      | .error e => (smartResponse (some (.ofText "Failed parsing response from LXD: " e)), some q)
      | .ok config =>
        let filtered := config.filter fun k =>
          hasPrefix k "/1.0/config/user." || hasPrefix k "/1.0/config/cloud-init."
        (okResponse (.strings filtered) "json", some q)

/-- `devLXDConfigKeyGetHandler` for the raw, still percent-encoded, `{key}` route variable: the
response, and the query sent to the server, if any. -/
def devLXDConfigKeyGetHandler (host : Host) (rawKey : String) : DevLXDResponse × Option Query :=
  match pathUnescape rawKey.toList with
  | .error _ => (errorResponse 400 "bad request", none)
  | .ok k =>
    let key := String.mk k
    if !hasPrefix key "user." && !hasPrefix key "cloud-init." then
      (errorResponse 403 "not authorized", none)
    else match host.vsock with
      | .error e => (smartResponse (some (e.wrap "Failed connecting to LXD over vsock: ")), none)
      | .ok () =>
        let q : Query := ⟨"GET", "/1.0/config/" ++ key⟩
        match host.rawQuery q.method q.path with
        | .error e => (smartResponse (some e), some q)
        | .ok meta => match meta.decodeString with
          | .error e =>
            (smartResponse (some (.ofText "Failed parsing response from LXD: " e)), some q)
          | .ok value => (okResponse (.text value) "raw", some q)

/-! ## What the key handler forwards -/

/-- What the key handler sends: a read of the decoded key, which has an allowed prefix. -/
theorem devLXDConfigKeyGetHandler_sends {host : Host} {rawKey : String} {q : Query}
    (h : (devLXDConfigKeyGetHandler host rawKey).2 = some q) :
    ∃ key, pathUnescape rawKey.toList = .ok key ∧ q = ⟨"GET", "/1.0/config/" ++ String.mk key⟩ ∧
      (hasPrefix (String.mk key) "user." ∨ hasPrefix (String.mk key) "cloud-init.") := by
  unfold devLXDConfigKeyGetHandler at h
  split at h
  · cases h
  rename_i key hk
  dsimp only at h
  split at h
  · cases h
  rename_i hp
  refine ⟨key, hk, ?_, by simpa [or_iff_not_imp_left] using hp⟩
  repeat' split at h
  all_goals first | exact (Option.some.inj h).symm | cases h

theorem ne_dot_of_hasPrefix {key : List Char}
    (h : hasPrefix (String.mk key) "user." ∨ hasPrefix (String.mk key) "cloud-init.") :
    key ≠ ['.'] ∧ key ≠ ['.', '.'] := by
  constructor <;> rintro rfl <;> simp [hasPrefix] at h

/-- The path of an allowed key with no `/` in it resolves to itself. -/
theorem removeDotSegments_configKey {key : List Char} (hs : '/' ∉ key)
    (hp : hasPrefix (String.mk key) "user." ∨ hasPrefix (String.mk key) "cloud-init.") :
    removeDotSegments ("/1.0/config/" ++ String.mk key).toList = "/1.0/config/".toList ++ key := by
  have hpath : ("/1.0/config/" ++ String.mk key).toList =
      (["1.0".toList, "config".toList, key].map fun s => '/' :: s).flatten := by
    simp [String.toList]
  rw [hpath, removeDotSegments_of_segments]
  · simp [String.toList]
  · exact List.forall_mem_cons.2 ⟨by decide, List.forall_mem_cons.2 ⟨by decide,
      List.forall_mem_singleton.2 ⟨hs, ne_dot_of_hasPrefix hp⟩⟩⟩

/-- When the decoded key has no `/`, every forwarded path resolves to itself, and names one
allowed key. -/
theorem devLXDConfigKeyGetHandler_confined {host : Host} {rawKey : String} {q : Query}
    (h : (devLXDConfigKeyGetHandler host rawKey).2 = some q)
    (hs : ∀ key, pathUnescape rawKey.toList = .ok key → '/' ∉ key) :
    ∃ k, removeDotSegments q.path.toList = "/1.0/config/".toList ++ k ∧ '/' ∉ k ∧
      (hasPrefix (String.mk k) "user." ∨ hasPrefix (String.mk k) "cloud-init.") := by
  obtain ⟨key, hk, rfl, hp⟩ := devLXDConfigKeyGetHandler_sends h
  exact ⟨key, removeDotSegments_configKey (hs key hk) hp, hs key hk, hp⟩

theorem devLXDConfigKeyGetHandler_confined_user_foo :
    let host : Host := ⟨.ok (), fun _ _ => .ok (.str "bar")⟩
    (devLXDConfigKeyGetHandler host "user.foo").2 = some ⟨"GET", "/1.0/config/user.foo"⟩ ∧
      (∀ key, pathUnescape "user.foo".toList = .ok key → '/' ∉ key) ∧
      ∃ k, removeDotSegments "/1.0/config/user.foo".toList = "/1.0/config/".toList ++ k ∧
        '/' ∉ k ∧ (hasPrefix (String.mk k) "user." ∨ hasPrefix (String.mk k) "cloud-init.") :=
  have h : (devLXDConfigKeyGetHandler ⟨.ok (), fun _ _ => .ok (.str "bar")⟩ "user.foo").2 =
      some ⟨"GET", "/1.0/config/user.foo"⟩ := by decide
  have hs : ∀ key, pathUnescape "user.foo".toList = .ok key → '/' ∉ key := by
    intro key hk
    cases hk
    decide
  ⟨h, hs, devLXDConfigKeyGetHandler_confined h hs⟩

/-- A key with no percent-escape reaches only itself: the forwarded path resolves to
`/1.0/config/` followed by the key as sent, which has an allowed prefix. The router's `{key}`
has no `/`, so only an escape can take a read out of `user.*` and `cloud-init.*`. -/
theorem devLXDConfigKeyGetHandler_unescaped {host : Host} {rawKey : String} {q : Query}
    (h : (devLXDConfigKeyGetHandler host rawKey).2 = some q) (hpct : '%' ∉ rawKey.toList)
    (hslash : '/' ∉ rawKey.toList) :
    removeDotSegments q.path.toList = "/1.0/config/".toList ++ rawKey.toList ∧
      (hasPrefix rawKey "user." ∨ hasPrefix rawKey "cloud-init.") := by
  obtain ⟨key, hk, rfl, hp⟩ := devLXDConfigKeyGetHandler_sends h
  rw [pathUnescape_of_not_mem hpct] at hk
  cases hk
  exact ⟨removeDotSegments_configKey hslash hp, hp⟩

theorem devLXDConfigKeyGetHandler_unescaped_user_foo :
    let host : Host := ⟨.ok (), fun _ _ => .ok (.str "bar")⟩
    (devLXDConfigKeyGetHandler host "user.foo").2 = some ⟨"GET", "/1.0/config/user.foo"⟩ ∧
      '%' ∉ "user.foo".toList ∧ '/' ∉ "user.foo".toList ∧
      removeDotSegments "/1.0/config/user.foo".toList = "/1.0/config/".toList ++ "user.foo".toList ∧
      (hasPrefix "user.foo" "user." ∨ hasPrefix "user.foo" "cloud-init.") := by
  intro host
  have h : (devLXDConfigKeyGetHandler host "user.foo").2 = some ⟨"GET", "/1.0/config/user.foo"⟩ :=
    by decide
  have hpct : '%' ∉ "user.foo".toList := by decide
  have hslash : '/' ∉ "user.foo".toList := by decide
  exact ⟨h, hpct, hslash, devLXDConfigKeyGetHandler_unescaped h hpct hslash⟩

/-- `user.%2F..%2Fsecurity.nesting` passes the prefix check; the path forwarded resolves to
`/1.0/config/security.nesting`, and a server that resolves it answers with that key's value. -/
theorem devLXDConfigKeyGetHandler_reads_security_nesting :
    let host : Host := ⟨.ok (), fun _ path =>
      if removeDotSegments path.toList = "/1.0/config/security.nesting".toList then .ok (.str "true")
      else .error ⟨"not found", some 404⟩⟩
    devLXDConfigKeyGetHandler host "user.%2F..%2Fsecurity.nesting" =
        (okResponse (.text "true") "raw", some ⟨"GET", "/1.0/config/user./../security.nesting"⟩) ∧
      removeDotSegments "/1.0/config/user./../security.nesting".toList =
        "/1.0/config/security.nesting".toList :=
  ⟨by decide, by decide⟩

end Agent

end Lxd
