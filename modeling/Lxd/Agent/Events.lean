import Lxd.Agent.BackupConfig
import Lxd.Go.Path
import Lxd.Go.Strings

/-!
# The agent's event endpoint and disk hot-plug (`eventsPost`, `eventsProcess`)

`POST /1.0/events` on the agent decodes an event, broadcasts it, and hands it to
`eventsProcess`, which reacts to a `device` event that adds a disk with a path: it rejects a path
with `..` in it, makes the path absolute with `filepath.Abs`, creates it, and runs `mount -t
virtiofs` up to five times, half a second apart, until one run succeeds. What the system
answers (the decoding of the event's metadata, the working directory, each run of `mount`) is a
`Sys` record, and what `eventsProcess` does is the list of its actions.

* `mem_eventsProcess`: every action comes from a `device` event that adds a disk with a path
  without `..`, and is the creation of the absolute path, a run of `mount` onto it, or a wait.
* `eventsProcess_mounts`: every path it creates or mounts onto is a clean rooted path.
* `eventsProcess_relative`: a relative device path is mounted inside the working directory.
-/

namespace Lxd

namespace Agent

open Go

/-- `api.Event`: the fields the handlers read. -/
structure Event where
  type : String
  metadata : String
  deriving DecidableEq, Repr

/-- The responses of `eventsPost`: `response.SyncResponse(true, nil)` and
`response.InternalError(err)`. -/
inductive Response
  | sync
  | internalError (msg : String)
  deriving DecidableEq, Repr

/-- `eventsPost`: decode the body, broadcast the event with `d.events.Send`, and start
`eventsProcess` on it (the second component) before answering. -/
def eventsPost (body : Except String Event) (send : Event → Except String Unit) :
    Response × Option Event :=
  match body with
  | .error e => (.internalError e, none)
  | .ok event =>
    match send event with
    | .error e => (.internalError e, none)
    | .ok () => (.sync, some event)

/-- `instancetype.VMAgentMount`: the fields `eventsProcess` reads. -/
structure VMAgentMount where
  source : String
  options : List String
  deriving DecidableEq, Repr

/-- The `deviceEvent` that `eventsProcess` decodes from an event's metadata. -/
structure DeviceEvent where
  action : String
  config : Device
  name : String
  mount : VMAgentMount
  deriving DecidableEq, Repr

/-- The virtiofs source: `lxd_` and the device's name, unless the mount names a source. -/
def DeviceEvent.mntSource (e : DeviceEvent) : String :=
  if e.mount.source ≠ "" then e.mount.source else "lxd_" ++ e.name

/-- `filters.IsDisk(device)`. -/
def isDisk (device : Device) : Bool := device.get "type" == "disk"

/-- What the system answers to `eventsProcess`: `json.Unmarshal` of the metadata into a
`deviceEvent`, `os.Getwd` inside `filepath.Abs`, and the outcome of each run of `mount`, by its
index. -/
structure Sys where
  unmarshal : String → Except String DeviceEvent
  getwd : Except String String
  mount : Nat → Except String Unit

/-- What `eventsProcess` does to the guest: create a directory, run `mount`, or wait. -/
inductive Action
  | mkdirAll (path : String)
  | mount (args : List String)
  | sleep (ms : Nat)
  deriving DecidableEq, Repr

/-- The arguments of `mount`: `-o` and the options if there are any, then the virtiofs source
and the target. -/
def mountArgs (options : List String) (source target : String) : List String :=
  (if options.length > 0 then ["-o", join options ","] else []) ++
    ["-t", "virtiofs", source, target]

/-- The loop `for range 5` of `eventsProcess` from run `k`, with `n` runs left: a run of `mount`
that succeeds ends it, and a failed one is followed by a wait of 500 ms. -/
def mountLoop (run : Nat → Except String Unit) (args : List String) : Nat → Nat → List Action
  | 0, _ => []
  | n + 1, k =>
    match run k with
    | .ok () => [.mount args]
    | .error _ => .mount args :: .sleep 500 :: mountLoop run args n (k + 1)

/-- The checks of `eventsProcess`, each an early `return` of the source, in order: the decoded
`deviceEvent` and the absolute path of the disk when every check passes. -/
def hotplugTarget (sys : Sys) (event : Event) : Option (DeviceEvent × String) := do
  guard (event.type == "device")
  let e ← (sys.unmarshal event.metadata).toOption
  guard (e.action == "added")
  guard (isDisk e.config)
  guard (e.config.get "path" != "")
  guard (!contains (e.config.get "path") "..")
  let path ← (filepathAbs sys.getwd (e.config.get "path")).toOption
  guard (hasPrefix path "/")
  pure (e, path)

/-- `eventsProcess(event)`: what the agent does for an event it received. -/
def eventsProcess (sys : Sys) (event : Event) : List Action :=
  match hotplugTarget sys event with
  | none => []
  | some (e, path) =>
    .mkdirAll path :: mountLoop sys.mount (mountArgs e.mount.options e.mntSource path) 5 0

/-! ## The retry loop -/

theorem mem_mountLoop {run : Nat → Except String Unit} {args : List String} {a : Action} :
    ∀ {n k : Nat}, a ∈ mountLoop run args n k → a = .mount args ∨ a = .sleep 500
  | 0, _, h => by simp [mountLoop] at h
  | n + 1, k, h => by
    unfold mountLoop at h
    split at h
    · exact .inl (List.mem_singleton.mp h)
    · rcases h with _ | ⟨_, _ | ⟨_, h⟩⟩
      · exact .inl rfl
      · exact .inr rfl
      · exact mem_mountLoop h

/-! ## What `eventsProcess` does -/

/-- Every action of `eventsProcess` comes from a `device` event that adds a disk with a path
without `..`: it creates the absolute path, runs `mount` onto it, or waits. -/
theorem mem_eventsProcess {sys : Sys} {event : Event} {a : Action}
    (ha : a ∈ eventsProcess sys event) :
    ∃ e target, event.type = "device" ∧ sys.unmarshal event.metadata = .ok e ∧
      e.action = "added" ∧ isDisk e.config ∧ e.config.get "path" ≠ "" ∧
      contains (e.config.get "path") ".." = false ∧
      filepathAbs sys.getwd (e.config.get "path") = .ok target ∧ hasPrefix target "/" ∧
      (a = .mkdirAll target ∨ a = .mount (mountArgs e.mount.options e.mntSource target) ∨
        a = .sleep 500) := by
  unfold eventsProcess at ha
  split at ha
  · cases ha
  rename_i e target h
  simp only [hotplugTarget, Option.bind_eq_bind, Option.bind_eq_some, Option.guard_eq_some',
    toOption_eq_some, Option.pure_def, Option.some.injEq, Prod.mk.injEq, exists_const, beq_iff_eq,
    bne_iff_ne, Bool.not_eq_true'] at h
  obtain ⟨ht, _, he, h1, h2, h3, h4, _, habs, hpre, rfl, rfl⟩ := h
  refine ⟨_, _, ht, he, h1, h2, h3, h4, habs, hpre, ?_⟩
  rcases List.mem_cons.mp ha with rfl | h
  · exact .inl rfl
  · exact .inr (mem_mountLoop h)

theorem head?_of_hasPrefix_slash {s : String} (h : hasPrefix s "/") : s.toList.head? = some '/' := by
  obtain ⟨r, rfl⟩ := hasPrefix_iff.mp h
  rfl

theorem ne_dotdot_of_contains {s : String} (h : contains s ".." = false) :
    ∀ p ∈ s.toList.splitOn '/', p ≠ ['.', '.'] := by
  rintro p hp rfl
  have hnone : index "..".toList s.toList = none := by simpa [contains] using h
  exact not_infix_of_index_eq_none (by decide) hnone (infix_of_mem_splitOn hp)

/-- Every action of `eventsProcess` is a wait, or the creation of, or a virtiofs mount onto, a
clean rooted path (a slash and elements none of which is empty, `.` or `..`); and it acts only
on a `device` event that adds a disk with a path without `..`. -/
theorem eventsProcess_mounts {sys : Sys} {event : Event} {a : Action}
    (ha : a ∈ eventsProcess sys event) :
    ∃ e target, event.type = "device" ∧ sys.unmarshal event.metadata = .ok e ∧
      e.action = "added" ∧ isDisk e.config ∧ contains (e.config.get "path") ".." = false ∧
      RootedClean target ∧
      (a = .mkdirAll target ∨ a = .mount (mountArgs e.mount.options e.mntSource target) ∨
        a = .sleep 500) := by
  obtain ⟨e, target, ht, he, hadd, hdisk, -, hdd, habs, hpre, hact⟩ := mem_eventsProcess ha
  exact ⟨e, target, ht, he, hadd, hdisk, hdd,
    filepathAbs_rootedClean habs (head?_of_hasPrefix_slash hpre), hact⟩

/-- A guest whose working directory is `/run/lxd_agent` and whose `mount` fails `fails` times
before it succeeds, receiving a disk `data` at `path`. -/
def sampleSys (path : String) (fails : Nat) : Sys where
  unmarshal _ := .ok ⟨"added", [("type", "disk"), ("path", path)], "data", ⟨"", []⟩⟩
  getwd := .ok "/run/lxd_agent"
  mount k := if k < fails then .error "exit status 32" else .ok ()

theorem eventsProcess_mounts_data :
    let sys := sampleSys "/mnt//data/" 0
    let event : Event := ⟨"device", "{}"⟩
    let a := Action.mount ["-t", "virtiofs", "lxd_data", "/mnt/data"]
    a ∈ eventsProcess sys event ∧
      ∃ e target, event.type = "device" ∧ sys.unmarshal event.metadata = .ok e ∧
        e.action = "added" ∧ isDisk e.config ∧ contains (e.config.get "path") ".." = false ∧
        RootedClean target ∧
        (a = .mkdirAll target ∨ a = .mount (mountArgs e.mount.options e.mntSource target) ∨
          a = .sleep 500) := by
  intro sys event a
  have ha : a ∈ eventsProcess sys event := by decide
  exact ⟨ha, eventsProcess_mounts ha⟩

/-- A relative device path is mounted inside the working directory: the target's elements are
those of the cleaned working directory, then the path's own without the empty and `.` ones. -/
theorem eventsProcess_relative {sys : Sys} {event : Event} {e : DeviceEvent} {wd : String}
    (hwd : sys.getwd = .ok wd) (hroot : wd.toList.head? = some '/')
    (he : sys.unmarshal event.metadata = .ok e)
    (hrel : (e.config.get "path").toList.head? ≠ some '/') :
    let target := String.mk ('/' :: ['/'].intercalate (cleanElems true [] (wd.toList.splitOn '/') ++
      ((e.config.get "path").toList.splitOn '/').filter fun p => p ≠ [] ∧ p ≠ ['.']))
    ∀ a ∈ eventsProcess sys event, a = .mkdirAll target ∨
      a = .mount (mountArgs e.mount.options e.mntSource target) ∨ a = .sleep 500 := by
  intro target a ha
  obtain ⟨e', t, -, he', -, -, -, hdd, habs, -, hact⟩ := mem_eventsProcess ha
  obtain rfl : e' = e := Except.ok.inj (he'.symm.trans he)
  rw [hwd] at habs
  obtain rfl := filepathAbs_relative hroot hrel (ne_dotdot_of_contains hdd) habs
  exact hact

theorem eventsProcess_relative_data :
    let sys := sampleSys "data/./disk" 0
    let event : Event := ⟨"device", "{}"⟩
    let e : DeviceEvent := ⟨"added", [("type", "disk"), ("path", "data/./disk")], "data", ⟨"", []⟩⟩
    (sys.getwd = .ok "/run/lxd_agent" ∧ "/run/lxd_agent".toList.head? = some '/' ∧
      sys.unmarshal event.metadata = .ok e ∧ (e.config.get "path").toList.head? ≠ some '/') ∧
    let target := String.mk ('/' :: ['/'].intercalate
      (cleanElems true [] ("/run/lxd_agent".toList.splitOn '/') ++
        ((e.config.get "path").toList.splitOn '/').filter fun p => p ≠ [] ∧ p ≠ ['.']))
    ∀ a ∈ eventsProcess sys event, a = .mkdirAll target ∨
      a = .mount (mountArgs e.mount.options e.mntSource target) ∨ a = .sleep 500 := by
  intro sys event e
  have hwd : sys.getwd = .ok "/run/lxd_agent" := rfl
  have hroot : "/run/lxd_agent".toList.head? = some '/' := rfl
  have he : sys.unmarshal event.metadata = .ok e := rfl
  have hrel : (e.config.get "path").toList.head? ≠ some '/' := by decide
  exact ⟨⟨hwd, hroot, he, hrel⟩, eventsProcess_relative hwd hroot he hrel⟩

end Agent

end Lxd
