import Mathlib.Data.List.Forall2
import Mathlib.Data.List.Infix
import Lxd.Go.Except

/-!
# Moving an instance's `backup.yaml` to another pool (`UpdateInstanceConfigStoragePool`)

`UpdateInstanceConfigStoragePool` loads the target pool, reads and parses `backup.yaml`, points
its pool and its root disk devices at the new pool, and writes the file again: `os.Create`
truncates it, then `yaml.Marshal` and `file.Write` fill it. Each step can fail; the file-system
calls and the YAML library answer as an `Io` and a `Yaml` record say. The state is what
`backup.yaml` holds (`none` when it does not exist).

* `updateInstanceConfigStoragePool_error`: on an error the file holds what it held before, or a
  prefix of the marshalled updated config: the truncation by `os.Create` is not undone when
  marshalling or writing fails.
* `updateInstanceConfigStoragePool_truncates`: a failed write after `os.Create` leaves an empty
  file.
* `updateInstanceConfigStoragePool_moves_root`: on success the file holds the marshalled updated
  config, which points at the new pool and has the root disk device in it.
* `getRootDiskDevice_perm`: Go walks a map in an order that changes from run to run; unless a
  root disk device is named `""`, `GetRootDiskDevice` finds the same device in every order.
* `updateInstanceConfigStoragePool_rerun`: run again on what a successful run wrote, the update
  writes the same bytes, whatever order either run walks the device maps in.
-/

namespace Lxd

namespace Agent

open Go

/-- A device's config, `map[string]string`. -/
abbrev Device := List (String × String)

/-- `device[key]`: `""` for a key that is not set. -/
def Device.get (d : Device) (key : String) : String := (d.lookup key).getD ""

/-- A `map[string]map[string]string` of devices: `none` is a nil map. -/
abbrev Devices := Option (List (String × Device))

/-- `m[k] = v` on a Go map. A map has no order (`yaml.Marshal` sorts the keys); here the entry
for `k` comes first. -/
def mapSet {V : Type} (m : List (String × V)) (k : String) (v : V) : List (String × V) :=
  (k, v) :: m.filter (·.1 != k)

/-- `shared.IsRootDiskDevice`: a disk at `/` with no source. -/
def isRootDiskDevice (device : Device) : Bool :=
  device.get "type" == "disk" && device.get "path" == "/" && device.get "source" == ""

/-- The loop of `shared.GetRootDiskDevice` over the map (in the list's order), with the root
device found so far (`""` for none). -/
def getRootDiskDeviceLoop : List (String × Device) → String × Device → Except String (String × Device)
  | [], (devName, dev) =>
    if devName != "" then .ok (devName, dev) else .error "No root device could be found"
  | (n, d) :: rest, (devName, dev) =>
    if isRootDiskDevice d then
      if devName != "" then .error "More than one root device found"
      else getRootDiskDeviceLoop rest (n, d)
    else getRootDiskDeviceLoop rest (devName, dev)

/-- `shared.GetRootDiskDevice`: the name and config of the one root disk device. -/
def getRootDiskDevice (devices : List (String × Device)) : Except String (String × Device) :=
  getRootDiskDeviceLoop devices ("", [])

/-- `devices[devName]["pool"] = poolName`. -/
def setDevicePool (devName poolName : String) (ds : List (String × Device)) :
    List (String × Device) :=
  ds.map fun e => (e.1, if e.1 == devName then mapSet e.2 "pool" poolName else e.2)

/-- `updateRootDevicePool`: set the pool of the root disk device, and say whether there was
one. Go maps are references, so the caller's devices change; here they are returned. -/
def updateRootDevicePool (devices : Devices) (poolName : String) : Bool × Devices :=
  match devices with
  | none => (false, none)
  | some ds => match getRootDiskDevice ds with
    | .ok (devName, _) => (true, some (setDevicePool devName poolName ds))
    | .error _ => (false, some ds)

/-! ### The root disk device after the update -/

section Devices

theorem lookup_filter_ne {V : Type} {m : List (String × V)} {k key : String} (h : key ≠ k) :
    (m.filter (·.1 != k)).lookup key = m.lookup key := by
  induction m with
  | nil => rfl
  | cons e m ih =>
    obtain ⟨k', v'⟩ := e
    by_cases hk : k' = k
    · subst hk
      have hne : (key == k') = false := by simpa using h
      simp [List.filter, List.lookup_cons, hne, ih]
    · have hkeep : (k' != k) = true := by simpa using hk
      simp only [List.filter, hkeep, List.lookup_cons, ih]

@[simp] theorem get_mapSet_self (d : Device) (k v : String) : Device.get (mapSet d k v) k = v := by
  simp [mapSet, Device.get]

theorem get_mapSet_ne {d : Device} {k key : String} (v : String) (h : key ≠ k) :
    Device.get (mapSet d k v) key = d.get key := by
  have hne : (key == k) = false := by simpa using h
  simp only [mapSet, Device.get, List.lookup_cons, hne, lookup_filter_ne h]

theorem mapSet_idem {V : Type} (m : List (String × V)) (k : String) (v : V) :
    mapSet (mapSet m k v) k v = mapSet m k v := by
  simp [mapSet, List.filter_filter]

@[simp] theorem isRootDiskDevice_mapSet_pool (d : Device) (p : String) :
    isRootDiskDevice (mapSet d "pool" p) = isRootDiskDevice d := by
  simp only [isRootDiskDevice, get_mapSet_ne p (show "type" ≠ "pool" by decide),
    get_mapSet_ne p (show "path" ≠ "pool" by decide),
    get_mapSet_ne p (show "source" ≠ "pool" by decide)]

/-- The loop finds the same root disk device among devices changed by `upd`, which keeps each
device a root disk device or not, and finds it changed. -/
theorem getRootDiskDeviceLoop_map (upd : String → Device → Device)
    (hroot : ∀ n d, isRootDiskDevice (upd n d) = isRootDiskDevice d) :
    ∀ (ds : List (String × Device)) (devName : String) (dev dev' : Device),
      (devName = "" ∨ dev' = upd devName dev) →
      getRootDiskDeviceLoop (ds.map fun e => (e.1, upd e.1 e.2)) (devName, dev') =
        (getRootDiskDeviceLoop ds (devName, dev)).map fun r => (r.1, upd r.1 r.2)
  | [], devName, dev, dev', hacc => by
    by_cases hn : devName = ""
    · simp [getRootDiskDeviceLoop, hn, Except.map]
    · obtain rfl := hacc.resolve_left hn
      simp [getRootDiskDeviceLoop, hn, Except.map]
  | (n, d) :: ds, devName, dev, dev', hacc => by
    by_cases hr : isRootDiskDevice d = true
    · by_cases hn : devName = ""
      · simp only [List.map_cons, getRootDiskDeviceLoop, hroot, hr, hn, bne_self_eq_false,
          Bool.false_eq_true, ↓reduceIte]
        exact getRootDiskDeviceLoop_map upd hroot ds n d _ (.inr rfl)
      · simp [getRootDiskDeviceLoop, hroot, hr, hn, Except.map]
    · simp only [List.map_cons, getRootDiskDeviceLoop, hroot, hr, Bool.false_eq_true, ↓reduceIte]
      exact getRootDiskDeviceLoop_map upd hroot ds devName dev dev' hacc

theorem getRootDiskDevice_setDevicePool {ds : List (String × Device)} {devName poolName : String}
    {dev : Device} (h : getRootDiskDevice ds = .ok (devName, dev)) :
    getRootDiskDevice (setDevicePool devName poolName ds) =
      .ok (devName, mapSet dev "pool" poolName) := by
  have hmap := getRootDiskDeviceLoop_map
    (fun n d => if n == devName then mapSet d "pool" poolName else d)
    (fun n d => by by_cases hn : n = devName <;> simp [hn]) ds "" [] [] (.inl rfl)
  simp only [getRootDiskDevice] at h
  simpa [getRootDiskDevice, setDevicePool, h, Except.map] using hmap

theorem setDevicePool_idem (devName poolName : String) (ds : List (String × Device)) :
    setDevicePool devName poolName (setDevicePool devName poolName ds) =
      setDevicePool devName poolName ds := by
  simp only [setDevicePool, List.map_map]
  congr 1
  funext e
  by_cases he : e.1 = devName <;> simp [he, mapSet_idem]

/-- When `updateRootDevicePool` finds a root disk device, the devices it returns have the same
root disk device, now in pool `poolName`. -/
theorem updateRootDevicePool_root {devices devices' : Devices} {poolName : String}
    (h : updateRootDevicePool devices poolName = (true, devices')) :
    ∃ ds ds' devName dev, devices = some ds ∧ devices' = some ds' ∧
      getRootDiskDevice ds = .ok (devName, dev) ∧
      getRootDiskDevice ds' = .ok (devName, mapSet dev "pool" poolName) := by
  unfold updateRootDevicePool at h
  split at h
  · cases h
  rename_i ds
  split at h
  · rename_i devName dev hroot
    cases h
    exact ⟨ds, _, devName, dev, rfl, rfl, hroot, getRootDiskDevice_setDevicePool hroot⟩
  · cases h

/-- A second `updateRootDevicePool` to the same pool finds what the first found, and changes
nothing. -/
theorem updateRootDevicePool_idem (devices : Devices) (poolName : String) :
    updateRootDevicePool (updateRootDevicePool devices poolName).2 poolName =
      updateRootDevicePool devices poolName := by
  rcases devices with _ | ds
  · rfl
  · cases hr : getRootDiskDevice ds with
    | error e => simp [updateRootDevicePool, hr]
    | ok r =>
      obtain ⟨devName, dev⟩ := r
      simp [updateRootDevicePool, hr, getRootDiskDevice_setDevicePool hr, setDevicePool_idem]

/-! ### The order of the walk

Go's `range` over a map visits the entries in an order that changes from run to run; a device
map here is a list in the order one run walks it. When no root disk device is named `""`, the
walk's `devName != ""` tells exactly whether it has found one, and the result does not depend
on the order. -/

/-- What the walk finds among the root disk devices `roots`, when none is named `""`. -/
def uniqueRoot : List (String × Device) → Except String (String × Device)
  | [] => .error "No root device could be found"
  | [r] => .ok r
  | _ :: _ :: _ => .error "More than one root device found"

/-- No root disk device of the map is named `""`. -/
def RootsNamed (devices : Devices) : Prop :=
  ∀ ds ∈ devices, ∀ e ∈ ds, isRootDiskDevice e.2 → e.1 ≠ ""

instance (devices : Devices) : Decidable (RootsNamed devices) :=
  inferInstanceAs (Decidable (∀ ds ∈ devices, _))

theorem getRootDiskDeviceLoop_found {devName : String} (hn : devName ≠ "") (dev : Device) :
    ∀ ds, getRootDiskDeviceLoop ds (devName, dev) =
      if ds.filter (isRootDiskDevice ·.2) = [] then .ok (devName, dev)
      else .error "More than one root device found"
  | [] => by simp [getRootDiskDeviceLoop, hn]
  | (n, d) :: ds => by
    by_cases hr : isRootDiskDevice d = true
    · simp [getRootDiskDeviceLoop, hr, hn]
    · have hf : ((n, d) :: ds).filter (isRootDiskDevice ·.2) = ds.filter (isRootDiskDevice ·.2) :=
        List.filter_cons_of_neg hr
      rw [getRootDiskDeviceLoop, if_neg hr, getRootDiskDeviceLoop_found hn dev ds, hf]

theorem getRootDiskDeviceLoop_unnamed (dev : Device) :
    ∀ ds : List (String × Device), (∀ e ∈ ds, isRootDiskDevice e.2 → e.1 ≠ "") →
      getRootDiskDeviceLoop ds ("", dev) = uniqueRoot (ds.filter (isRootDiskDevice ·.2))
  | [], _ => rfl
  | (n, d) :: ds, hn => by
    by_cases hr : isRootDiskDevice d = true
    · have hne : n ≠ "" := hn _ (List.mem_cons_self _ _) hr
      rw [getRootDiskDeviceLoop, if_pos hr, if_neg (by decide), getRootDiskDeviceLoop_found hne]
      simp only [List.filter_cons, hr, ↓reduceIte]
      cases ds.filter (isRootDiskDevice ·.2) <;> rfl
    · rw [getRootDiskDeviceLoop, if_neg hr]
      simp only [List.filter_cons, hr, Bool.false_eq_true, ↓reduceIte]
      exact getRootDiskDeviceLoop_unnamed dev ds fun e he => hn e (List.mem_cons_of_mem _ he)

theorem uniqueRoot_perm : ∀ {l l' : List (String × Device)}, l.Perm l' → uniqueRoot l = uniqueRoot l'
  | [], _, h => by rw [← h.nil_eq]
  | [_], _, h => by rw [List.perm_singleton.mp h.symm]
  | _ :: _ :: _, l', h => by
    have hl := h.length_eq
    rcases l' with _ | ⟨_, _ | ⟨_, _⟩⟩
    · simp at hl
    · simp at hl
    · rfl

/-- When no root disk device is named `""`, the walk finds the same device, or fails the same
way, in every order of the map. -/
theorem getRootDiskDevice_perm {ds ds' : List (String × Device)} (hp : ds.Perm ds')
    (hn : RootsNamed (some ds)) : getRootDiskDevice ds' = getRootDiskDevice ds := by
  have hn' : ∀ e ∈ ds', isRootDiskDevice e.2 → e.1 ≠ "" := fun e he => hn ds rfl e (hp.mem_iff.mpr he)
  rw [getRootDiskDevice, getRootDiskDevice, getRootDiskDeviceLoop_unnamed _ _ hn',
    getRootDiskDeviceLoop_unnamed _ _ (hn ds rfl)]
  exact uniqueRoot_perm (hp.filter _).symm

/-- Without the condition the order matters: with root disk devices named `""` and `x`, one
order finds `x` and the other finds two. -/
example :
    getRootDiskDevice [("", [("type", "disk"), ("path", "/")]), ("x", [("type", "disk"), ("path", "/")])] =
        .ok ("x", [("type", "disk"), ("path", "/")]) ∧
      getRootDiskDevice [("x", [("type", "disk"), ("path", "/")]), ("", [("type", "disk"), ("path", "/")])] =
        .error "More than one root device found" :=
  ⟨rfl, rfl⟩

/-- The same device map, walked in another order. -/
def Devices.Equiv : Devices → Devices → Prop
  | none, none => True
  | some ds, some ds' => ds.Perm ds'
  | _, _ => False

theorem Devices.Equiv.refl : ∀ d : Devices, Devices.Equiv d d
  | none => trivial
  | some ds => List.Perm.refl ds

theorem Devices.Equiv.symm : ∀ {d d' : Devices}, Devices.Equiv d d' → Devices.Equiv d' d
  | none, none, _ => trivial
  | some _, some _, h => List.Perm.symm h

theorem RootsNamed.update {d : Devices} (hn : RootsNamed d) (poolName : String) :
    RootsNamed (updateRootDevicePool d poolName).2 := by
  rcases d with _ | ds
  · exact hn
  intro ds' hds' e he hr
  cases hroot : getRootDiskDevice ds with
  | error => simp only [updateRootDevicePool, hroot, Option.mem_def, Option.some.injEq] at hds'
             exact hn ds rfl e (hds' ▸ he) hr
  | ok r =>
    simp only [updateRootDevicePool, hroot, Option.mem_def, Option.some.injEq] at hds'
    subst hds'
    obtain ⟨e₀, he₀, rfl⟩ := List.mem_map.mp he
    refine hn ds rfl e₀ he₀ ?_
    revert hr
    dsimp only
    split <;> simp

/-- `updateRootDevicePool` on the same map walked in another order finds a root disk device
or not alike, and leaves the same map, when no root disk device is named `""`. -/
theorem updateRootDevicePool_equiv {d d' : Devices} (he : Devices.Equiv d d') (hn : RootsNamed d)
    (poolName : String) :
    (updateRootDevicePool d' poolName).1 = (updateRootDevicePool d poolName).1 ∧
      Devices.Equiv (updateRootDevicePool d poolName).2 (updateRootDevicePool d' poolName).2 := by
  rcases d with _ | ds <;> rcases d' with _ | ds'
  · exact ⟨rfl, trivial⟩
  · exact he.elim
  · exact he.elim
  · simp only [updateRootDevicePool, getRootDiskDevice_perm he hn]
    split
    · exact ⟨rfl, he.map _⟩
    · exact ⟨rfl, he⟩

end Devices

/-- `*api.StoragePool`, of which the update reads the name. -/
structure StoragePool where
  name : String
  deriving DecidableEq, Repr

/-- The devices of the instance or of a snapshot in `backup.yaml`. -/
structure InstanceDevices where
  devices : Devices
  expandedDevices : Devices
  deriving DecidableEq, Repr

/-- `backup.Config`, the parts the update reads and writes. -/
structure Config where
  container : Option InstanceDevices
  snapshots : List InstanceDevices
  pool : Option StoragePool
  deriving DecidableEq, Repr

/-- The update `f` makes to the parsed config, up to the check for a root disk device. -/
def updateConfig (pool : StoragePool) (backup : Config) : Except String Config :=
  match backup.container with
  | none => .error "Instance definition in backup config is missing"
  | some c =>
    let (found, devices) := updateRootDevicePool c.devices pool.name
    let (expandedFound, expandedDevices) := updateRootDevicePool c.expandedDevices pool.name
    let snapshots := backup.snapshots.map fun s =>
      ⟨(updateRootDevicePool s.devices pool.name).2,
        (updateRootDevicePool s.expandedDevices pool.name).2⟩
    if !(found || expandedFound) then .error "No root device could be found"
    else .ok ⟨some ⟨devices, expandedDevices⟩, snapshots, some pool⟩

/-- The pool of the root disk device among `devices`, if there is one. -/
def rootDiskPool : Devices → Option String
  | some ds => match getRootDiskDevice ds with
    | .ok (_, dev) => some (dev.get "pool")
    | .error _ => none
  | none => none

theorem rootDiskPool_of_update {devices devices' : Devices} {poolName : String}
    (h : updateRootDevicePool devices poolName = (true, devices')) :
    rootDiskPool devices' = some poolName := by
  obtain ⟨_, _, _, _, -, rfl, -, hroot⟩ := updateRootDevicePool_root h
  simp [rootDiskPool, hroot]

theorem updateConfig_ok {pool : StoragePool} {backup backup' : Config}
    (h : updateConfig pool backup = .ok backup') :
    ∃ c found devices expandedFound expandedDevices, backup.container = some c ∧
      updateRootDevicePool c.devices pool.name = (found, devices) ∧
      updateRootDevicePool c.expandedDevices pool.name = (expandedFound, expandedDevices) ∧
      (found || expandedFound) = true ∧
      backup' = ⟨some ⟨devices, expandedDevices⟩, backup.snapshots.map fun s =>
        ⟨(updateRootDevicePool s.devices pool.name).2,
          (updateRootDevicePool s.expandedDevices pool.name).2⟩, some pool⟩ := by
  unfold updateConfig at h
  split at h
  · cases h
  rename_i c hc
  rcases hd : updateRootDevicePool c.devices pool.name with ⟨found, devices⟩
  rcases he : updateRootDevicePool c.expandedDevices pool.name with ⟨expandedFound, expandedDevices⟩
  simp only [hd, he] at h
  split at h
  · cases h
  rename_i hf
  cases h
  exact ⟨c, found, devices, expandedFound, expandedDevices, hc, hd, he,
    by simpa only [Bool.not_eq_true', Bool.not_eq_false', Bool.not_eq_false] using hf, rfl⟩

/-- A successful update points the config at the pool, and the instance's root disk device, in
its devices or its expanded devices, at the pool's name. -/
theorem updateConfig_pool {pool : StoragePool} {backup backup' : Config}
    (h : updateConfig pool backup = .ok backup') :
    backup'.pool = some pool ∧ ∃ c, backup'.container = some c ∧
      (rootDiskPool c.devices = some pool.name ∨ rootDiskPool c.expandedDevices = some pool.name) := by
  obtain ⟨_, found, _, expandedFound, _, -, hd, he, hf, rfl⟩ := updateConfig_ok h
  refine ⟨rfl, _, rfl, ?_⟩
  cases found
  · cases expandedFound
    · cases hf
    · exact .inr (rootDiskPool_of_update he)
  · exact .inl (rootDiskPool_of_update hd)

/-- Updating an updated config to the same pool changes nothing. -/
theorem updateConfig_idem {pool : StoragePool} {backup backup' : Config}
    (h : updateConfig pool backup = .ok backup') : updateConfig pool backup' = .ok backup' := by
  obtain ⟨c, found, devices, expandedFound, expandedDevices, -, hd, he, hf, rfl⟩ :=
    updateConfig_ok h
  have hd' := updateRootDevicePool_idem c.devices pool.name
  have he' := updateRootDevicePool_idem c.expandedDevices pool.name
  rw [hd] at hd'
  rw [he] at he'
  simp [updateConfig, hd', he', hf, Function.comp_def, updateRootDevicePool_idem]

/-- The same instance devices, their maps walked in other orders. -/
def InstanceDevices.Equiv (a b : InstanceDevices) : Prop :=
  Devices.Equiv a.devices b.devices ∧ Devices.Equiv a.expandedDevices b.expandedDevices

/-- The same config, its device maps walked in other orders. -/
def Config.Equiv (c c' : Config) : Prop :=
  Option.Rel InstanceDevices.Equiv c.container c'.container ∧
    List.Forall₂ InstanceDevices.Equiv c.snapshots c'.snapshots ∧ c.pool = c'.pool

theorem InstanceDevices.Equiv.refl (a : InstanceDevices) : a.Equiv a :=
  ⟨Devices.Equiv.refl _, Devices.Equiv.refl _⟩

theorem Config.Equiv.refl (c : Config) : c.Equiv c := by
  refine ⟨?_, List.forall₂_same.mpr fun a _ => InstanceDevices.Equiv.refl a, rfl⟩
  cases c.container
  · exact .none
  · exact .some (InstanceDevices.Equiv.refl _)

theorem InstanceDevices.Equiv.symm {a b : InstanceDevices} (h : a.Equiv b) : b.Equiv a :=
  ⟨h.1.symm, h.2.symm⟩

theorem Config.Equiv.symm {c c' : Config} (h : c.Equiv c') : c'.Equiv c := by
  obtain ⟨hc, hs, hp⟩ := h
  refine ⟨?_, (hs.imp fun _ _ h => h.symm).flip, hp.symm⟩
  generalize c.container = a, c'.container = b at hc ⊢
  cases hc with
  | none => exact .none
  | some h => exact .some h.symm

/-- No root disk device of any device map of the config is named `""`. -/
def Config.RootsNamed (c : Config) : Prop :=
  ∀ i ∈ c.container.toList ++ c.snapshots,
    Agent.RootsNamed i.devices ∧ Agent.RootsNamed i.expandedDevices

instance (c : Config) : Decidable c.RootsNamed :=
  inferInstanceAs (Decidable (∀ i ∈ c.container.toList ++ c.snapshots, _))

theorem updateConfig_rootsNamed {pool : StoragePool} {c r : Config}
    (h : updateConfig pool c = .ok r) (hn : c.RootsNamed) : r.RootsNamed := by
  obtain ⟨ci, _, _, _, _, hc, hd, he, -, rfl⟩ := updateConfig_ok h
  have hci := hn ci (by simp [hc])
  intro i hi
  rcases List.mem_append.mp hi with hi | hi
  · obtain rfl : i = ⟨_, _⟩ := by simpa using hi
    have h₁ := hci.1.update pool.name
    have h₂ := hci.2.update pool.name
    rw [hd] at h₁
    rw [he] at h₂
    exact ⟨h₁, h₂⟩
  · obtain ⟨s, hs, rfl⟩ := List.mem_map.mp hi
    have hs := hn s (List.mem_append_right _ hs)
    exact ⟨hs.1.update pool.name, hs.2.update pool.name⟩

theorem forall₂_updateSnapshots {ss ss' : List InstanceDevices}
    (h : List.Forall₂ InstanceDevices.Equiv ss ss')
    (hn : ∀ s ∈ ss, RootsNamed s.devices ∧ RootsNamed s.expandedDevices) (poolName : String) :
    List.Forall₂ InstanceDevices.Equiv
      (ss.map fun s => ⟨(updateRootDevicePool s.devices poolName).2,
        (updateRootDevicePool s.expandedDevices poolName).2⟩)
      (ss'.map fun s => ⟨(updateRootDevicePool s.devices poolName).2,
        (updateRootDevicePool s.expandedDevices poolName).2⟩) := by
  induction h with
  | nil => exact .nil
  | cons hab _ ih =>
    have hn₀ := hn _ (List.mem_cons_self _ _)
    exact .cons ⟨(updateRootDevicePool_equiv hab.1 hn₀.1 _).2,
      (updateRootDevicePool_equiv hab.2 hn₀.2 _).2⟩ (ih fun s hs => hn s (List.mem_cons_of_mem _ hs))

/-- `updateConfig` on the same config, its maps walked in other orders, succeeds alike and gives
the same config, when no root disk device is named `""`. -/
theorem updateConfig_equiv {pool : StoragePool} {c c' r : Config} (he : c.Equiv c')
    (hn : c.RootsNamed) (h : updateConfig pool c = .ok r) :
    ∃ r', updateConfig pool c' = .ok r' ∧ r.Equiv r' := by
  obtain ⟨ci, found, devices, ef, eds, hc, hd, hed, hf, rfl⟩ := updateConfig_ok h
  obtain ⟨hcont, hsnaps, -⟩ := he
  rcases c' with ⟨_ | ci', snaps', pool'⟩ <;> rw [hc] at hcont <;> cases hcont
  rename_i hi
  have hci := hn ci (by simp [hc])
  obtain ⟨hfd, hde⟩ := updateRootDevicePool_equiv hi.1 hci.1 pool.name
  obtain ⟨hfe, hee⟩ := updateRootDevicePool_equiv hi.2 hci.2 pool.name
  rw [hd] at hfd hde
  rw [hed] at hfe hee
  rcases hd' : updateRootDevicePool ci'.devices pool.name with ⟨found', d'⟩
  rcases he' : updateRootDevicePool ci'.expandedDevices pool.name with ⟨ef', e'⟩
  rw [hd'] at hfd hde
  rw [he'] at hfe hee
  dsimp only at hfd hfe hde hee
  subst hfd hfe
  have hr : updateConfig pool ⟨some ci', snaps', pool'⟩ = .ok ⟨some ⟨d', e'⟩, snaps'.map fun s =>
      ⟨(updateRootDevicePool s.devices pool.name).2,
        (updateRootDevicePool s.expandedDevices pool.name).2⟩, some pool⟩ := by
    simp only [updateConfig, hd', he', hf, Bool.not_true, Bool.false_eq_true, ↓reduceIte]
  exact ⟨_, hr, .some ⟨hde, hee⟩,
    forall₂_updateSnapshots hsnaps (fun s hs => hn s (List.mem_append_right _ hs)) _, rfl⟩

/-- File contents. -/
abbrev Bytes := List UInt8

/-- `yaml.Unmarshal` into a `Config` and `yaml.Marshal` of one. -/
structure Yaml where
  unmarshal : Bytes → Except String Config
  marshal : Config → Except String Bytes

/-- What the file-system calls on `backup.yaml` return: the error of `ioutil.ReadFile` of the
existing file, if any, that of `os.Create`, and for `file.Write(data)` `none` when it writes all
of `data`, otherwise how many bytes it wrote and its error. -/
structure Io where
  readFile : Except String Unit
  create : Except String Unit
  write : Option (Nat × String)

/-- `ParseConfigYamlFile` on `path`, which holds `file`. -/
def parseConfigYamlFile (yaml : Yaml) (io : Io) (path : String) (file : Option Bytes) :
    Except String Config :=
  match file with
  | none => .error ("open " ++ path ++ ": no such file or directory")
  | some data => match io.readFile with
    | .error e => .error e
    | .ok () => yaml.unmarshal data

/-- The backup parameters `b`; the update reads the pool name. -/
structure Info where
  pool : String

/-- What comes before `os.Create`: load the pool (`c.GetStoragePool(b.Pool)`), parse the file,
and update the config. -/
def updatedConfig (getStoragePool : String → Except String StoragePool) (yaml : Yaml) (io : Io)
    (b : Info) (path : String) (file : Option Bytes) : Except String Config := do
  let pool ← getStoragePool b.pool
  let backup ← parseConfigYamlFile yaml io path file
  updateConfig pool backup

/-- `UpdateInstanceConfigStoragePool` with `path` the `backup.yaml` under the mount path, which
holds `file`: the error, and what the file holds afterwards. `os.Create` truncates the file
before the config is marshalled and written. -/
def updateInstanceConfigStoragePool (getStoragePool : String → Except String StoragePool)
    (yaml : Yaml) (io : Io) (b : Info) (path : String) (file : Option Bytes) :
    Except String Unit × Option Bytes :=
  match updatedConfig getStoragePool yaml io b path file with
  | .error e => (.error e, file)
  | .ok backup => match io.create with
    | .error e => (.error e, file)
    | .ok () => match yaml.marshal backup with
      | .error e => (.error e, some [])
      | .ok data => match io.write with
        | none => (.ok (), some data)
        | some (n, e) => (.error e, some (data.take n))

/-! ## What the file holds afterwards -/

section File

variable {getStoragePool : String → Except String StoragePool} {yaml : Yaml} {io : Io} {b : Info}
  {path : String} {file : Option Bytes}

/-- On success the file holds the marshalled updated config. -/
theorem updateInstanceConfigStoragePool_ok
    (h : (updateInstanceConfigStoragePool getStoragePool yaml io b path file).1 = .ok ()) :
    ∃ backup data, updatedConfig getStoragePool yaml io b path file = .ok backup ∧
      yaml.marshal backup = .ok data ∧
      (updateInstanceConfigStoragePool getStoragePool yaml io b path file).2 = some data := by
  unfold updateInstanceConfigStoragePool at h ⊢
  split at h
  · cases h
  rename_i backup hb
  split at h
  · cases h
  split at h
  · cases h
  rename_i data hd
  split at h
  · exact ⟨backup, data, hb, hd, rfl⟩
  · cases h

/-- On an error the file holds what it held before, or a prefix of the marshalled updated
config: empty when marshalling fails, what `file.Write` wrote when writing fails. -/
theorem updateInstanceConfigStoragePool_error {e : String}
    (h : (updateInstanceConfigStoragePool getStoragePool yaml io b path file).1 = .error e) :
    (updateInstanceConfigStoragePool getStoragePool yaml io b path file).2 = file ∨
      ∃ backup written, updatedConfig getStoragePool yaml io b path file = .ok backup ∧
        (updateInstanceConfigStoragePool getStoragePool yaml io b path file).2 = some written ∧
        written <+: (yaml.marshal backup).toOption.getD [] := by
  unfold updateInstanceConfigStoragePool at h ⊢
  split at h
  · exact .inl rfl
  rename_i backup hb
  split at h
  · exact .inl rfl
  split at h
  · exact .inr ⟨backup, [], hb, rfl, List.nil_prefix⟩
  rename_i data hd
  split at h
  · cases h
  · refine .inr ⟨backup, _, hb, rfl, ?_⟩
    simpa only [hd, Except.toOption, Option.getD_some] using List.take_prefix _ data

/-- Run again with the same pool on the file a successful run wrote, the update succeeds and
writes the same bytes, whatever order either run walks the device maps in, when no root disk
device of the file first read is named `""`: with a YAML library that reads back what it writes
up to the order of map entries and writes a config the same in every order (`yaml.Marshal`
sorts map keys), and file-system calls that succeed. A retry after a success is harmless. -/
theorem updateInstanceConfigStoragePool_rerun {io' : Io} {file' : Option Bytes}
    (hyaml : ∀ c data, yaml.marshal c = .ok data → ∃ c', yaml.unmarshal data = .ok c' ∧ c.Equiv c')
    (hmarshal : ∀ c c', c.Equiv c' → yaml.marshal c' = yaml.marshal c)
    (hnamed : ∀ c, parseConfigYamlFile yaml io path file = .ok c → c.RootsNamed)
    (h : updateInstanceConfigStoragePool getStoragePool yaml io b path file = (.ok (), file'))
    (hio : io'.readFile = .ok () ∧ io'.create = .ok () ∧ io'.write = none) :
    updateInstanceConfigStoragePool getStoragePool yaml io' b path file' = (.ok (), file') := by
  obtain ⟨backup, data, hupd, hm, hfile⟩ :=
    updateInstanceConfigStoragePool_ok (congrArg Prod.fst h)
  replace hfile : file' = some data := by rw [h] at hfile; exact hfile
  subst hfile
  simp only [updatedConfig, bind_eq_ok] at hupd
  obtain ⟨pool, hpool, backup₀, hparse, hup⟩ := hupd
  obtain ⟨c', hc', he⟩ := hyaml _ _ hm
  obtain ⟨r', hr', hre⟩ :=
    updateConfig_equiv he (updateConfig_rootsNamed hup (hnamed _ hparse)) (updateConfig_idem hup)
  have hre' : updatedConfig getStoragePool yaml io' b path (some data) = .ok r' := by
    simp only [updatedConfig, hpool, parseConfigYamlFile, hio.1, hc', hr', bind, Except.bind]
  simp only [updateInstanceConfigStoragePool, hre', hio.2.1, hmarshal _ _ hre, hm, hio.2.2]

/-- On success the file holds the marshalled config, which points at the pool `b.Pool` names and
has the instance's root disk device, in its devices or its expanded devices, in that pool. -/
theorem updateInstanceConfigStoragePool_moves_root
    (h : (updateInstanceConfigStoragePool getStoragePool yaml io b path file).1 = .ok ()) :
    ∃ pool backup data, getStoragePool b.pool = .ok pool ∧
      updatedConfig getStoragePool yaml io b path file = .ok backup ∧
      yaml.marshal backup = .ok data ∧
      (updateInstanceConfigStoragePool getStoragePool yaml io b path file).2 = some data ∧
      backup.pool = some pool ∧ ∃ c, backup.container = some c ∧
        (rootDiskPool c.devices = some pool.name ∨
          rootDiskPool c.expandedDevices = some pool.name) := by
  obtain ⟨backup, data, hupd, hm, hfile⟩ := updateInstanceConfigStoragePool_ok h
  have hsteps := hupd
  simp only [updatedConfig, bind_eq_ok] at hsteps
  obtain ⟨pool, hpool, _, -, hup⟩ := hsteps
  exact ⟨pool, backup, data, hpool, hupd, hm, hfile, updateConfig_pool hup⟩

end File

/-! ## A container moved from pool `default` to pool `fast` -/

/-- The root disk device of a container on pool `default`. -/
def c1Root : Device := [("type", "disk"), ("path", "/"), ("pool", "default")]

/-- Its `backup.yaml`, parsed. -/
def c1Backup : Config := ⟨some ⟨some [("root", c1Root)], none⟩, [], some ⟨"default"⟩⟩

/-- The same, moved to pool `fast`. -/
def c1Moved : Config :=
  ⟨some ⟨some [("root", mapSet c1Root "pool" "fast")], none⟩, [], some ⟨"fast"⟩⟩

/-- A YAML library that writes the moved config as `[2]` and reads `[2]` back as it; any other
file reads as the config on pool `default`. -/
def c1Yaml : Yaml :=
  ⟨fun data => if data = [2] then .ok c1Moved else .ok c1Backup,
    fun c => if c = c1Moved then .ok [2] else .error "yaml: cannot marshal"⟩

/-- The disk fills up while the config is written: `file.Write` writes nothing and fails, and
`backup.yaml`, which `os.Create` truncated, is left empty. -/
theorem updateInstanceConfigStoragePool_truncates :
    let io : Io := ⟨.ok (), .ok (), some (0, "write /mnt/c1/backup.yaml: no space left on device")⟩
    let r := updateInstanceConfigStoragePool (fun name => .ok ⟨name⟩) c1Yaml io ⟨"fast"⟩
      "/mnt/c1/backup.yaml" (some [1])
    r.1 = .error "write /mnt/c1/backup.yaml: no space left on device" ∧ r.2 = some [] :=
  ⟨rfl, rfl⟩

/-- The run of `updateInstanceConfigStoragePool_truncates` fails, and leaves a prefix (the empty
one) of the marshalled update. -/
theorem updateInstanceConfigStoragePool_error_full_disk :
    let io : Io := ⟨.ok (), .ok (), some (0, "write /mnt/c1/backup.yaml: no space left on device")⟩
    let r := updateInstanceConfigStoragePool (fun name => .ok ⟨name⟩) c1Yaml io ⟨"fast"⟩
      "/mnt/c1/backup.yaml" (some [1])
    r.1 = .error "write /mnt/c1/backup.yaml: no space left on device" ∧
      (r.2 = some [1] ∨ ∃ backup written,
        updatedConfig (fun name => .ok ⟨name⟩) c1Yaml io ⟨"fast"⟩ "/mnt/c1/backup.yaml" (some [1]) =
          .ok backup ∧ r.2 = some written ∧ written <+: (c1Yaml.marshal backup).toOption.getD []) := by
  intro io r
  have h : r.1 = .error "write /mnt/c1/backup.yaml: no space left on device" := rfl
  exact ⟨h, updateInstanceConfigStoragePool_error h⟩

/-- Moving the container succeeds and writes the moved config, whose root disk is on `fast`. -/
theorem updateInstanceConfigStoragePool_moves_root_c1 :
    let r := updateInstanceConfigStoragePool (fun name => .ok ⟨name⟩) c1Yaml ⟨.ok (), .ok (), none⟩
      ⟨"fast"⟩ "/mnt/c1/backup.yaml" (some [1])
    r.1 = .ok () ∧ ∃ pool backup data, (.ok ⟨"fast"⟩ : Except String StoragePool) = .ok pool ∧
      updatedConfig (fun name => .ok ⟨name⟩) c1Yaml ⟨.ok (), .ok (), none⟩ ⟨"fast"⟩
        "/mnt/c1/backup.yaml" (some [1]) = .ok backup ∧
      c1Yaml.marshal backup = .ok data ∧ r.2 = some data ∧ backup.pool = some pool ∧
      ∃ c, backup.container = some c ∧
        (rootDiskPool c.devices = some pool.name ∨ rootDiskPool c.expandedDevices = some pool.name) := by
  intro r
  have h : r.1 = .ok () := rfl
  exact ⟨h, updateInstanceConfigStoragePool_moves_root h⟩

theorem c1Moved_equiv {c : Config} (h : c1Moved.Equiv c) : c = c1Moved := by
  obtain ⟨hc, hs, hp⟩ := h
  rcases c with ⟨_ | ⟨ds, eds⟩, snaps, pool⟩
  · cases hc
  cases hc with
  | some hi =>
    obtain ⟨hd, he⟩ := hi
    rcases ds with _ | ds
    · exact (hd : False).elim
    rcases eds with _ | eds
    · obtain rfl := List.forall₂_nil_left_iff.mp hs
      obtain rfl := (List.singleton_perm.mp (hd : List.Perm _ _)).symm
      cases hp
      rfl
    · exact (he : False).elim

/-- A second move of the moved container to `fast` writes the same file. -/
theorem updateInstanceConfigStoragePool_rerun_c1 :
    (∀ c data, c1Yaml.marshal c = .ok data → ∃ c', c1Yaml.unmarshal data = .ok c' ∧ c.Equiv c') ∧
      (∀ c c', c.Equiv c' → c1Yaml.marshal c' = c1Yaml.marshal c) ∧
      (∀ c, parseConfigYamlFile c1Yaml ⟨.ok (), .ok (), none⟩ "/mnt/c1/backup.yaml" (some [1]) =
        .ok c → c.RootsNamed) ∧
      updateInstanceConfigStoragePool (fun name => .ok ⟨name⟩) c1Yaml ⟨.ok (), .ok (), none⟩
        ⟨"fast"⟩ "/mnt/c1/backup.yaml" (some [1]) = (.ok (), some [2]) ∧
      updateInstanceConfigStoragePool (fun name => .ok ⟨name⟩) c1Yaml ⟨.ok (), .ok (), none⟩
        ⟨"fast"⟩ "/mnt/c1/backup.yaml" (some [2]) = (.ok (), some [2]) := by
  have hyaml : ∀ c data, c1Yaml.marshal c = .ok data →
      ∃ c', c1Yaml.unmarshal data = .ok c' ∧ c.Equiv c' := by
    intro c data h
    by_cases hc : c = c1Moved
    · subst hc
      cases h
      exact ⟨c1Moved, rfl, Config.Equiv.refl _⟩
    · simp [c1Yaml, hc] at h
  have hmarshal : ∀ c c', c.Equiv c' → c1Yaml.marshal c' = c1Yaml.marshal c := by
    intro c c' he
    by_cases hc : c = c1Moved
    · subst hc
      rw [c1Moved_equiv he]
    · have hc' : c' ≠ c1Moved := fun h' => hc (c1Moved_equiv (h' ▸ he.symm))
      simp [c1Yaml, hc, hc']
  have hnamed : ∀ c, parseConfigYamlFile c1Yaml ⟨.ok (), .ok (), none⟩ "/mnt/c1/backup.yaml"
      (some [1]) = .ok c → c.RootsNamed := by
    intro c h
    cases h
    decide
  have h : updateInstanceConfigStoragePool (fun name => .ok ⟨name⟩) c1Yaml ⟨.ok (), .ok (), none⟩
      ⟨"fast"⟩ "/mnt/c1/backup.yaml" (some [1]) = (.ok (), some [2]) := rfl
  exact ⟨hyaml, hmarshal, hnamed, h,
    updateInstanceConfigStoragePool_rerun hyaml hmarshal hnamed h ⟨rfl, rfl, rfl⟩⟩

end Agent

end Lxd
