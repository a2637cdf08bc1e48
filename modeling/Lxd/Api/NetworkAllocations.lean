import Lxd.Go.Strings
import Lxd.Go.Except

/-!
# The network allocations endpoint (`networkAllocationsGet`)

`GET /1.0/network-allocations` lists the addresses in use: each network's own subnets, its
leases (instances and uplinks), and the listen addresses of its forwards and load balancers. The
handler walks the projects, then their networks, then each network's leases, forwards and load
balancers, in nested loops that append to one `result`. It skips a network unless
`canViewNetwork` allows its URL, an instance lease unless `canViewInstance` allows the instance,
and an uplink lease unless `canViewNetwork` allows the uplink network.

Each loop is `forRange` of the step of one round. `Appends P r r'` says that `r'` is `r` with
items satisfying `P` appended; `forRange_appends` lifts it from one round to the whole loop.

* `networkStep_appends`: one network appends only allocations the caller may see.
* `networkAllocationsGet_visible`: every allocation of a successful response belongs to a network
  `canViewNetwork` allowed, under the request project, or under the network's own project with
  `all-projects`; an instance or uplink allocation is used by a URL the caller may view.
* `networkAllocationsGet_lists_listeners`: nothing the caller may see is left out: every forward
  and load balancer of a network the caller may view is listed (`forRange_mem` keeps what one
  round appends).
-/

namespace Lxd

namespace Api

open Go

/-! ## The model -/

/-- `version.APIVersion`. -/
def apiVersion : String := "1.0"

/-- An `*api.URL` as the handler builds it, `api.NewURL().Path(path...).Project(project)`. -/
structure URL where
  path : List String
  project : String
  deriving DecidableEq, Repr

/-- `entity.NetworkURL(projectName, networkName)`. -/
def networkURL (projectName networkName : String) : URL :=
  ⟨[apiVersion, "networks", networkName], projectName⟩

/-- `api.NetworkAllocations`. -/
structure NetworkAllocations where
  address : String
  usedBy : String
  type : String
  hwaddr : String
  nat : Bool
  network : String
  deriving DecidableEq, Repr

/-- `api.NetworkLease`, the fields the handler reads. -/
structure NetworkLease where
  hostname : String
  address : String
  hwaddr : String
  type : String
  project : String
  deriving DecidableEq, Repr

/-- An error of `n.Leases`: its text, and whether it is `network.ErrNotImplemented`. -/
structure LeasesError where
  msg : String
  notImplemented : Bool

/-- What the handler reads of a network that `network.LoadByName` loads: its ID, its config
(`""` for a key that is not set), and the leases and error `n.Leases("", ClientTypeNormal)`
returns. -/
structure Network where
  id : Nat
  config : String → String
  leases : List NetworkLease
  leasesErr : Option LeasesError

/-- The database, as the handler's queries see it: `project.NetworkProject` (the project whose
networks a request project uses), `dbCluster.GetProjectNames`, `tx.GetNetworks`,
`network.LoadByName`, `tx.GetNetworkForwards` and `tx.GetNetworkLoadBalancers`. Forwards and
load balancers are their listen addresses, in the order the map is walked. -/
structure Db where
  networkProject : String → Except String String
  getProjectNames : Except String (List String)
  getNetworks : String → Except String (List String)
  loadByName : String → String → Except String Network
  getNetworkForwards : Nat → Except String (List String)
  getNetworkLoadBalancers : Nat → Except String (List String)

/-- The `can_view` permission checkers the authorizer hands out, or its error:
`GetPermissionChecker(ctx, EntitlementCanView, TypeNetwork)` and
`GetPermissionCheckerWithoutEffectiveProject(ctx, EntitlementCanView, TypeInstance)`. -/
structure Authorizer where
  canViewNetwork : Except String (URL → Bool)
  canViewInstance : Except String (URL → Bool)

/-- The library functions the handler calls: `shared.IsTrue`; `net.ParseIP`, as `ip.String()` and
whether `ip.To4() != nil`, `none` for a nil IP; `network.ParseIPCIDRToNet`, as `ipNet.String()`,
`none` for a nil network; and `(*api.URL).String()`. -/
structure Lib where
  isTrue : String → Bool
  parseIP : String → Option (String × Bool)
  parseIPCIDRToNet : String → Option String
  urlString : URL → String

/-- A `for _, x := range xs` loop over the accumulator `s`: each round appends to it, skips
(`continue`), or returns an error, which ends the handler. -/
def forRange {α σ ε : Type} (step : α → σ → Except ε σ) : List α → σ → Except ε σ
  | [], s => .ok s
  | x :: xs, s => match step x s with
    | .error e => .error e
    | .ok s => forRange step xs s

section Handler

variable (lib : Lib) (db : Db)

/-- `ipToCIDR`: the address as a one-address CIDR, and whether the network NATs that family. -/
def ipToCIDR (addr : String) (netConf : String → String) : Except String (String × Bool) :=
  match lib.parseIP addr with
  | none => .error ("Invalid IP address " ++ quote addr)
  | some (ip, is4) =>
    if is4 then .ok (ip ++ "/32", lib.isTrue (netConf "ipv4.nat"))
    else .ok (ip ++ "/128", lib.isTrue (netConf "ipv6.nat"))

/-- A round of the loop over `ipv4` and `ipv6`: the network's own subnet of that family. -/
def addressStep (projectName networkName : String) (netConf : String → String)
    (keyPrefix : String) (result : List NetworkAllocations) :
    Except String (List NetworkAllocations) :=
  match lib.parseIPCIDRToNet (netConf (keyPrefix ++ ".address")) with
  | none => .ok result
  | some ipNet => .ok (result ++ [⟨ipNet,
      lib.urlString ⟨[apiVersion, "networks", networkName], projectName⟩, "network", "",
      lib.isTrue (netConf (keyPrefix ++ ".nat")), networkName⟩])

/-- The lease types the handler lists. -/
def leaseTypes : List String := ["static", "dynamic", "uplink"]

/-- The type and `UsedBy` of a lease's allocation, or `none` when the caller may not view what
uses the lease (`continue`). In the uplink branch `networkName` is the uplink network: it shadows
the loop's `networkName` there, and only there. -/
def leaseUsedBy (canViewNetwork canViewInstanceIgnoringEffectiveProject : URL → Bool)
    (lease : NetworkLease) : Option (String × String) :=
  if lease.type == "uplink" then
    let networkName := trimSuffix (trimPrefix lease.hostname (lease.project ++ "-")) ".uplink"
    let usedByURL : URL := ⟨[apiVersion, "networks", networkName], lease.project⟩
    if !canViewNetwork usedByURL then none else some ("uplink", lib.urlString usedByURL)
  else
    let usedByURL : URL := ⟨[apiVersion, "instances", lease.hostname], lease.project⟩
    if !canViewInstanceIgnoringEffectiveProject usedByURL then none
    else some ("instance", lib.urlString usedByURL)

/-- A round of the lease loop of network `networkName`. -/
def leaseStep (canViewNetwork canViewInstanceIgnoringEffectiveProject : URL → Bool)
    (netConf : String → String) (networkName : String) (lease : NetworkLease)
    (result : List NetworkAllocations) : Except String (List NetworkAllocations) :=
  if leaseTypes.contains lease.type then
    match ipToCIDR lib lease.address netConf with
    | .error e => .error e
    | .ok (cidrAddr, nat) =>
      match leaseUsedBy lib canViewNetwork canViewInstanceIgnoringEffectiveProject lease with
      | none => .ok result
      | some (allocationType, usedBy) =>
        .ok (result ++ [⟨cidrAddr, usedBy, allocationType, lease.hwaddr, nat, networkName⟩])
  else .ok result

/-- The allocation of a forward or load balancer, used by the listener's URL under the network
(`kind` is `forwards` or `load-balancers`). Listeners are ingress, so SNAT does not apply. -/
def listenerAllocation (kind allocationType projectName networkName listenAddress
    cidrAddr : String) : NetworkAllocations :=
  ⟨cidrAddr, lib.urlString ⟨[apiVersion, "networks", networkName, kind, listenAddress], projectName⟩,
    allocationType, "", false, networkName⟩

/-- A round of the forward or load-balancer loop. There is no permission check: a caller who may
view the network may view its listeners. -/
def listenerStep (kind allocationType : String) (netConf : String → String)
    (projectName networkName : String) (listenAddress : String)
    (result : List NetworkAllocations) : Except String (List NetworkAllocations) :=
  match ipToCIDR lib listenAddress netConf with
  | .error e => .error e
  | .ok (cidrAddr, _) => .ok (result ++
      [listenerAllocation lib kind allocationType projectName networkName listenAddress cidrAddr])

def forwardStep : (String → String) → String → String → String → List NetworkAllocations →
    Except String (List NetworkAllocations) :=
  listenerStep lib "forwards" "network-forward"

def loadBalancerStep : (String → String) → String → String → String → List NetworkAllocations →
    Except String (List NetworkAllocations) :=
  listenerStep lib "load-balancers" "network-load-balancer"

/-- The check of `n.Leases`'s error: only `ErrNotImplemented` is let through. -/
def checkLeases (networkName : String) : Option LeasesError → Except String Unit
  | some err => if !err.notImplemented then
      .error ("Failed getting leases for network " ++ quote networkName ++ ": " ++ err.msg)
    else .ok ()
  | none => .ok ()

/-- A round of the network loop: skip a network the caller may not view; otherwise load it and
append its subnets, leases, forwards and load balancers. -/
def networkStep (canViewNetwork canViewInstanceIgnoringEffectiveProject : URL → Bool)
    (authCheckProjectName projectName : String) (networkName : String)
    (result : List NetworkAllocations) : Except String (List NetworkAllocations) :=
  if !canViewNetwork (networkURL authCheckProjectName networkName) then .ok result
  else do
    let n ← (db.loadByName projectName networkName).mapError fun e =>
      "Failed loading network " ++ quote networkName ++ " in project " ++ quote projectName ++
        ": " ++ e
    let netConf := n.config
    let result ← forRange (addressStep lib projectName networkName netConf) ["ipv4", "ipv6"] result
    checkLeases networkName n.leasesErr
    let result ← forRange
      (leaseStep lib canViewNetwork canViewInstanceIgnoringEffectiveProject netConf networkName)
      n.leases result
    let forwards ← (db.getNetworkForwards n.id).mapError fun e =>
      "Failed getting forwards for network " ++ quote networkName ++ " in project " ++
        quote projectName ++ ": " ++ e
    let result ← forRange (forwardStep lib netConf projectName networkName) forwards result
    let loadBalancers ← (db.getNetworkLoadBalancers n.id).mapError fun e =>
      "Failed getting load-balancers for network " ++ quote networkName ++ " in project " ++
        quote projectName ++ ": " ++ e
    forRange (loadBalancerStep lib netConf projectName networkName) loadBalancers result

/-- A round of the project loop. The permission checker expects the request project in its URLs,
so without `all-projects` the networks are checked under it, not under the effective project. -/
def projectStep (canViewNetwork canViewInstanceIgnoringEffectiveProject : URL → Bool)
    (allProjects : Bool) (requestProjectName : String) (projectName : String)
    (result : List NetworkAllocations) : Except String (List NetworkAllocations) := do
  let authCheckProjectName := if !allProjects then requestProjectName else projectName
  let networkNames ← (db.getNetworks projectName).mapError ("Failed loading networks: " ++ ·)
  forRange
    (networkStep lib db canViewNetwork canViewInstanceIgnoringEffectiveProject
      authCheckProjectName projectName)
    networkNames result

/-- The projects the handler walks: the effective project, or every project with
`all-projects`. -/
def projectNames (allProjects : Bool) (effectiveProjectName : String) :
    Except String (List String) :=
  if !allProjects then .ok [effectiveProjectName]
  else db.getProjectNames.mapError ("Failed loading projects: " ++ ·)

/-- `networkAllocationsGet` for the `project` and `all-projects` query parameters: the
allocations of the `SyncResponse`, or the error of the `SmartError`. -/
def networkAllocationsGet (auth : Authorizer) (requestProjectName allProjectsParam : String) :
    Except String (List NetworkAllocations) := do
  let effectiveProjectName ← db.networkProject requestProjectName
  let allProjects := lib.isTrue allProjectsParam
  let projectNames ← projectNames db allProjects effectiveProjectName
  let canViewNetwork ← auth.canViewNetwork
  let canViewInstanceIgnoringEffectiveProject ← auth.canViewInstance
  forRange
    (projectStep lib db canViewNetwork canViewInstanceIgnoringEffectiveProject allProjects
      requestProjectName)
    projectNames []

end Handler

/-! ## Appending -/

/-- `r'` is `r` followed by items that all satisfy `P`. -/
def Appends {β : Type} (P : β → Prop) (r r' : List β) : Prop :=
  ∃ new, r' = r ++ new ∧ ∀ b ∈ new, P b

namespace Appends

variable {β : Type} {P Q : β → Prop} {r r' r'' : List β}

theorem refl (r : List β) : Appends P r r := ⟨[], by simp, by simp⟩

theorem single {b : β} (h : P b) : Appends P r (r ++ [b]) := ⟨[b], rfl, by simpa⟩

theorem trans (h₁ : Appends P r r') (h₂ : Appends P r' r'') : Appends P r r'' := by
  obtain ⟨n₁, rfl, h₁⟩ := h₁
  obtain ⟨n₂, rfl, h₂⟩ := h₂
  exact ⟨n₁ ++ n₂, by simp, fun b hb => (List.mem_append.mp hb).elim (h₁ b) (h₂ b)⟩

theorem mono (hPQ : ∀ b, P b → Q b) (h : Appends P r r') : Appends Q r r' := by
  obtain ⟨n, rfl, h⟩ := h
  exact ⟨n, rfl, fun b hb => hPQ b (h b hb)⟩

theorem forall_mem (h : Appends P [] r) : ∀ b ∈ r, P b := by
  obtain ⟨n, rfl, h⟩ := h
  simpa using h

end Appends

/-- A loop each round of which appends items satisfying `P` appends only such items. -/
theorem forRange_appends {α β ε : Type} {step : α → List β → Except ε (List β)} {P : β → Prop} :
    ∀ {xs : List α}, (∀ x ∈ xs, ∀ r r', step x r = .ok r' → Appends P r r') →
      ∀ {r r'}, forRange step xs r = .ok r' → Appends P r r'
  | [], _, r, _, hr => by cases hr; exact .refl r
  | x :: xs, h, r, r', hr => by
    simp only [forRange] at hr
    split at hr
    · cases hr
    · rename_i s hs
      exact (h x (List.mem_cons_self _ _) r s hs).trans
        (forRange_appends (fun y hy => h y (List.mem_cons_of_mem _ hy)) hr)

theorem forRange_grows {α β ε : Type} {step : α → List β → Except ε (List β)}
    (hgrow : ∀ x r r', step x r = .ok r' → r <+: r') :
    ∀ {xs : List α} {r r'}, forRange step xs r = .ok r' → r <+: r'
  | [], r, _, hr => by cases hr; exact List.prefix_refl r
  | x :: xs, r, r', hr => by
    simp only [forRange] at hr
    split at hr
    · cases hr
    · exact (hgrow x r _ ‹_›).trans (forRange_grows hgrow hr)

/-- What one round is sure to append, the whole loop keeps, when every round only appends. -/
theorem forRange_mem {α β ε : Type} {step : α → List β → Except ε (List β)} {b : β} {x : α}
    (hgrow : ∀ y r r', step y r = .ok r' → r <+: r') (hb : ∀ r r', step x r = .ok r' → b ∈ r') :
    ∀ {xs : List α}, x ∈ xs → ∀ {r r'}, forRange step xs r = .ok r' → b ∈ r'
  | [], hx, _, _, _ => absurd hx (List.not_mem_nil _)
  | y :: ys, hx, r, r', hr => by
    simp only [forRange] at hr
    split at hr
    · cases hr
    rename_i s hs
    rcases List.mem_cons.mp hx with rfl | hx
    · exact (forRange_grows hgrow hr).subset (hb r s hs)
    · exact forRange_mem hgrow hb hx hr

/-! ## What the caller may see -/

/-- A project the handler walks: the request's effective project, or with `all-projects` any
project. -/
def ProjectWalked (db : Db) (requestProjectName : String) (allProjects : Bool)
    (projectName : String) : Prop :=
  if allProjects then ∃ ps, db.getProjectNames = .ok ps ∧ projectName ∈ ps
  else db.networkProject requestProjectName = .ok projectName

theorem projectWalked_iff {db : Db} {requestProjectName effectiveProjectName projectName : String}
    {allProjects : Bool} {ps : List String}
    (he : db.networkProject requestProjectName = .ok effectiveProjectName)
    (hps : projectNames db allProjects effectiveProjectName = .ok ps) :
    ProjectWalked db requestProjectName allProjects projectName ↔ projectName ∈ ps := by
  unfold projectNames at hps
  cases allProjects <;>
    simp only [ProjectWalked, Bool.not_false, Bool.not_true, Bool.false_eq_true, ↓reduceIte,
      Except.ok.injEq, mapError_eq_ok] at hps ⊢
  · subst hps
    simp [he, eq_comm]
  · simp [hps]

section Visibility

variable (lib : Lib) (canViewNetwork canViewInstance : URL → Bool)

/-- An instance allocation is used by an instance URL the caller may view, and an uplink
allocation by a network URL the caller may view. -/
structure UsedByVisible (a : NetworkAllocations) : Prop where
  instanceUsedBy : a.type = "instance" → ∃ u, canViewInstance u = true ∧ a.usedBy = lib.urlString u
  uplinkUsedBy : a.type = "uplink" → ∃ u, canViewNetwork u = true ∧ a.usedBy = lib.urlString u

/-- An allocation of network `networkName` whose user the caller may view. -/
def OfNetwork (networkName : String) (a : NetworkAllocations) : Prop :=
  a.network = networkName ∧ UsedByVisible lib canViewNetwork canViewInstance a

/-- What the response may show of an allocation: it is listed under a network of a project the
handler walks, a network `canViewNetwork` allowed under the request project, or under that
project with `all-projects`; and its user is visible. -/
structure Visible (db : Db) (requestProjectName : String) (allProjects : Bool)
    (a : NetworkAllocations) : Prop where
  network : ∃ projectName networkNames,
    ProjectWalked db requestProjectName allProjects projectName ∧
    db.getNetworks projectName = .ok networkNames ∧ a.network ∈ networkNames ∧
    canViewNetwork
      (networkURL (if allProjects then projectName else requestProjectName) a.network) = true
  usedBy : UsedByVisible lib canViewNetwork canViewInstance a

theorem usedByVisible_of_type {a : NetworkAllocations} (hi : a.type ≠ "instance")
    (hu : a.type ≠ "uplink") : UsedByVisible lib canViewNetwork canViewInstance a :=
  ⟨fun h => absurd h hi, fun h => absurd h hu⟩

end Visibility

section Steps

variable {lib : Lib} {db : Db} {canViewNetwork canViewInstance : URL → Bool}
  {netConf : String → String} {projectName networkName : String}
  {r r' : List NetworkAllocations}

theorem addressStep_appends {keyPrefix : String}
    (h : addressStep lib projectName networkName netConf keyPrefix r = .ok r') :
    Appends (OfNetwork lib canViewNetwork canViewInstance networkName) r r' := by
  unfold addressStep at h
  split at h <;> cases h
  · exact .refl r
  · exact .single ⟨rfl, usedByVisible_of_type lib _ _ (by simp) (by simp)⟩

theorem listenerStep_appends {kind allocationType listenAddress : String}
    (hi : allocationType ≠ "instance") (hu : allocationType ≠ "uplink")
    (h : listenerStep lib kind allocationType netConf projectName networkName listenAddress r =
      .ok r') :
    Appends (OfNetwork lib canViewNetwork canViewInstance networkName) r r' := by
  unfold listenerStep at h
  split at h <;> cases h
  exact .single ⟨rfl, usedByVisible_of_type lib _ _ hi hu⟩

/-- A lease's allocation is used by what the caller may view: an uplink network or an
instance. -/
theorem leaseUsedBy_visible {lease : NetworkLease} {allocationType usedBy : String}
    (h : leaseUsedBy lib canViewNetwork canViewInstance lease = some (allocationType, usedBy)) :
    (allocationType = "uplink" ∧ ∃ u, canViewNetwork u = true ∧ usedBy = lib.urlString u) ∨
      (allocationType = "instance" ∧ ∃ u, canViewInstance u = true ∧ usedBy = lib.urlString u) := by
  unfold leaseUsedBy at h
  dsimp only at h
  split at h <;> split at h
  · cases h
  · rename_i hc
    cases h
    exact .inl ⟨rfl, _, by simpa using hc, rfl⟩
  · cases h
  · rename_i hc
    cases h
    exact .inr ⟨rfl, _, by simpa using hc, rfl⟩

theorem leaseStep_appends {lease : NetworkLease}
    (h : leaseStep lib canViewNetwork canViewInstance netConf networkName lease r = .ok r') :
    Appends (OfNetwork lib canViewNetwork canViewInstance networkName) r r' := by
  unfold leaseStep at h
  split at h
  · split at h
    · cases h
    · split at h
      · cases h
        exact .refl r
      · rename_i hu
        cases h
        rcases leaseUsedBy_visible hu with ⟨rfl, hv⟩ | ⟨rfl, hv⟩
        · exact .single ⟨rfl, fun h => by simp at h, fun _ => hv⟩
        · exact .single ⟨rfl, fun _ => hv, fun h => by simp at h⟩
  · cases h
    exact .refl r

theorem forwardStep_appends {listenAddress : String}
    (h : forwardStep lib netConf projectName networkName listenAddress r = .ok r') :
    Appends (OfNetwork lib canViewNetwork canViewInstance networkName) r r' :=
  listenerStep_appends (by decide) (by decide) h

theorem loadBalancerStep_appends {listenAddress : String}
    (h : loadBalancerStep lib netConf projectName networkName listenAddress r = .ok r') :
    Appends (OfNetwork lib canViewNetwork canViewInstance networkName) r r' :=
  listenerStep_appends (by decide) (by decide) h

/-- A network the caller may not view appends nothing; one it may view appends only its own
allocations, with visible users. -/
theorem networkStep_appends {authCheckProjectName : String}
    (h : networkStep lib db canViewNetwork canViewInstance authCheckProjectName projectName
      networkName r = .ok r') :
    Appends (fun a => a.network = networkName ∧
      canViewNetwork (networkURL authCheckProjectName networkName) = true ∧
      UsedByVisible lib canViewNetwork canViewInstance a) r r' := by
  unfold networkStep at h
  split at h
  · cases h
    exact .refl r
  rename_i hview
  have hv : canViewNetwork (networkURL authCheckProjectName networkName) = true := by
    simpa using hview
  simp only [bind_eq_ok, mapError_eq_ok] at h
  obtain ⟨n, -, r₁, h₁, -, -, r₂, h₂, _, -, r₃, h₃, _, -, h₄⟩ := h
  refine Appends.mono
    (fun a (ha : OfNetwork lib canViewNetwork canViewInstance networkName a) => ⟨ha.1, hv, ha.2⟩) ?_
  exact (forRange_appends (fun _ _ _ _ => addressStep_appends) h₁).trans <|
    (forRange_appends (fun _ _ _ _ => leaseStep_appends) h₂).trans <|
    (forRange_appends (fun _ _ _ _ => forwardStep_appends) h₃).trans <|
    forRange_appends (fun _ _ _ _ => loadBalancerStep_appends) h₄

/-- A project appends only allocations of its networks, each of which the caller may view under
the checked project. -/
theorem projectStep_appends {allProjects : Bool} {requestProjectName : String}
    (h : projectStep lib db canViewNetwork canViewInstance allProjects requestProjectName
      projectName r = .ok r') :
    ∃ networkNames, db.getNetworks projectName = .ok networkNames ∧
      Appends (fun a => a.network ∈ networkNames ∧
        canViewNetwork (networkURL (if allProjects then projectName else requestProjectName)
          a.network) = true ∧
        UsedByVisible lib canViewNetwork canViewInstance a) r r' := by
  simp only [projectStep, bind_eq_ok, mapError_eq_ok] at h
  obtain ⟨networkNames, hn, h⟩ := h
  refine ⟨networkNames, hn, forRange_appends (fun x hx _ _ hs => ?_) h⟩
  refine (networkStep_appends hs).mono fun a ⟨ha, hv, hu⟩ => ⟨ha ▸ hx, ?_, hu⟩
  cases allProjects <;> simpa [ha] using hv

end Steps

/-- Every allocation of a successful response belongs to a network of a project the handler
walks, which `canViewNetwork` allowed under the request project, or under its own project with
`all-projects`; every instance allocation is used by an instance `canViewInstance` allowed, and
every uplink allocation by a network `canViewNetwork` allowed. -/
theorem networkAllocationsGet_visible {lib : Lib} {db : Db} {auth : Authorizer}
    {requestProjectName allProjectsParam : String} {canViewNetwork canViewInstance : URL → Bool}
    {result : List NetworkAllocations} (hn : auth.canViewNetwork = .ok canViewNetwork)
    (hi : auth.canViewInstance = .ok canViewInstance)
    (h : networkAllocationsGet lib db auth requestProjectName allProjectsParam = .ok result) :
    ∀ a ∈ result, Visible lib canViewNetwork canViewInstance db requestProjectName
      (lib.isTrue allProjectsParam) a := by
  simp only [networkAllocationsGet, bind_eq_ok, hn, hi, Except.ok.injEq, exists_eq_left'] at h
  obtain ⟨effectiveProjectName, he, ps, hps, h⟩ := h
  refine Appends.forall_mem (forRange_appends (fun p hp _ _ hs => ?_) h)
  obtain ⟨networkNames, hnames, hs⟩ := projectStep_appends hs
  refine hs.mono fun a ⟨ha, hv, hu⟩ => ⟨⟨p, networkNames, ?_, hnames, ha, hv⟩, hu⟩
  exact (projectWalked_iff he hps).mpr hp

/-! ## A project `default` with one bridge `lxdbr0` -/

/-- Libraries that read every address as IPv4 and print a URL as its path. -/
def plainLib : Lib :=
  ⟨(· == "true"), fun a => some (a, true), fun c => if c == "" then none else some c,
    fun u => "/".intercalate u.path⟩

/-- `lxdbr0`: a subnet, and one instance lease. -/
def lxdbr0 : Network :=
  ⟨1, fun k => if k == "ipv4.address" then "10.0.0.1/24" else "",
    [⟨"c1", "10.0.0.2", "00:16:3e:00:00:01", "dynamic", "default"⟩], none⟩

/-- A database with `lxdbr0` in `default`, with one forward and one load balancer. -/
def lxdbr0Db : Db :=
  ⟨.ok, .ok ["default"], fun _ => .ok ["lxdbr0"], fun _ _ => .ok lxdbr0,
    fun _ => .ok ["10.0.0.10"], fun _ => .ok ["10.0.0.20"]⟩

/-- A caller who may view everything. -/
def viewAll : Authorizer := ⟨.ok fun _ => true, .ok fun _ => true⟩

/-- A caller who may view networks but no instance. -/
def viewNetworks : Authorizer := ⟨.ok fun _ => true, .ok fun _ => false⟩

/-- A caller who may view no instance: of the bridge's four allocations the lease of `c1` is
left out, and the subnet, the forward and the load balancer are listed, all visible. -/
theorem networkAllocationsGet_visible_lxdbr0 :
    ∃ result, networkAllocationsGet plainLib lxdbr0Db viewNetworks "default" "" = .ok result ∧
      result.length = 3 ∧
      ∀ a ∈ result, Visible plainLib (fun _ => true) (fun _ => false) lxdbr0Db "default"
        (plainLib.isTrue "") a :=
  ⟨_, rfl, rfl, @networkAllocationsGet_visible plainLib lxdbr0Db viewNetworks _ _ _ _ _ rfl rfl rfl⟩

/-! ## What the response lists -/

section Lists

variable {lib : Lib} {db : Db} {canViewNetwork canViewInstance : URL → Bool}
  {projectName networkName : String} {r r' : List NetworkAllocations}

theorem listenerStep_grows {kind allocationType listenAddress : String} {netConf : String → String}
    (h : listenerStep lib kind allocationType netConf projectName networkName listenAddress r =
      .ok r') : r <+: r' := by
  unfold listenerStep at h
  split at h <;> cases h
  exact List.prefix_append _ _

theorem listenerStep_mem {kind allocationType listenAddress cidrAddr : String}
    {netConf : String → String} {nat : Bool} (hip : ipToCIDR lib listenAddress netConf = .ok (cidrAddr, nat))
    (h : listenerStep lib kind allocationType netConf projectName networkName listenAddress r =
      .ok r') :
    listenerAllocation lib kind allocationType projectName networkName listenAddress cidrAddr ∈ r' := by
  simp only [listenerStep, hip, Except.ok.injEq] at h
  simp [← h]

theorem networkStep_grows {authCheckProjectName : String}
    (h : networkStep lib db canViewNetwork canViewInstance authCheckProjectName projectName
      networkName r = .ok r') : r <+: r' := by
  obtain ⟨_, rfl, -⟩ := networkStep_appends h
  exact List.prefix_append _ _

theorem projectStep_grows {allProjects : Bool} {requestProjectName : String}
    (h : projectStep lib db canViewNetwork canViewInstance allProjects requestProjectName
      projectName r = .ok r') : r <+: r' := by
  obtain ⟨_, -, _, rfl, -⟩ := projectStep_appends h
  exact List.prefix_append _ _

/-- A network the caller may view lists every forward and load balancer whose listen address
parses. -/
theorem networkStep_lists_listeners {authCheckProjectName : String} {n : Network}
    {forwards loadBalancers : List String}
    (hv : canViewNetwork (networkURL authCheckProjectName networkName) = true)
    (hl : db.loadByName projectName networkName = .ok n)
    (hf : db.getNetworkForwards n.id = .ok forwards)
    (hlb : db.getNetworkLoadBalancers n.id = .ok loadBalancers)
    (h : networkStep lib db canViewNetwork canViewInstance authCheckProjectName projectName
      networkName r = .ok r') :
    (∀ a ∈ forwards, ∀ cidrAddr nat, ipToCIDR lib a n.config = .ok (cidrAddr, nat) →
      listenerAllocation lib "forwards" "network-forward" projectName networkName a cidrAddr ∈ r') ∧
    (∀ a ∈ loadBalancers, ∀ cidrAddr nat, ipToCIDR lib a n.config = .ok (cidrAddr, nat) →
      listenerAllocation lib "load-balancers" "network-load-balancer" projectName networkName a
        cidrAddr ∈ r') := by
  unfold networkStep at h
  rw [if_neg (by simpa using hv)] at h
  simp only [bind_eq_ok, mapError_eq_ok, hl, hf, hlb, Except.ok.injEq, exists_eq_left'] at h
  obtain ⟨_, -, -, -, _, -, r₃, h₃, h₄⟩ := h
  have hgrow : ∀ kind allocationType (a : String) r r',
      listenerStep lib kind allocationType n.config projectName networkName a r = .ok r' →
        r <+: r' := fun _ _ _ _ _ => listenerStep_grows
  exact ⟨fun a ha _ _ hip => (forRange_grows (hgrow _ _) h₄).subset
      (forRange_mem (hgrow _ _) (fun _ _ => listenerStep_mem hip) ha h₃),
    fun a ha _ _ hip => forRange_mem (hgrow _ _) (fun _ _ => listenerStep_mem hip) ha h₄⟩

/-- What a network's round of the loops is sure to list, a successful response lists, for a
network of a project the handler walks. -/
theorem networkAllocationsGet_mem {auth : Authorizer} {requestProjectName allProjectsParam : String}
    {result : List NetworkAllocations} {networkNames : List String} {b : NetworkAllocations}
    (hn : auth.canViewNetwork = .ok canViewNetwork) (hi : auth.canViewInstance = .ok canViewInstance)
    (h : networkAllocationsGet lib db auth requestProjectName allProjectsParam = .ok result)
    (hp : ProjectWalked db requestProjectName (lib.isTrue allProjectsParam) projectName)
    (hnames : db.getNetworks projectName = .ok networkNames) (hN : networkName ∈ networkNames)
    (hb : ∀ r r', networkStep lib db canViewNetwork canViewInstance
      (if !lib.isTrue allProjectsParam then requestProjectName else projectName) projectName
      networkName r = .ok r' → b ∈ r') :
    b ∈ result := by
  simp only [networkAllocationsGet, bind_eq_ok, hn, hi, Except.ok.injEq, exists_eq_left'] at h
  obtain ⟨_, he, _, hps, h⟩ := h
  refine forRange_mem (fun _ _ _ => projectStep_grows) (fun r r' hs => ?_)
    ((projectWalked_iff he hps).mp hp) h
  simp only [projectStep, bind_eq_ok, mapError_eq_ok, hnames, Except.ok.injEq,
    exists_eq_left'] at hs
  refine forRange_mem (fun _ _ _ => networkStep_grows) ?_ hN hs
  exact hb

end Lists

/-- No forward or load balancer of a network the caller may view is left out: a successful
response lists every one whose listen address parses. -/
theorem networkAllocationsGet_lists_listeners {lib : Lib} {db : Db} {auth : Authorizer}
    {requestProjectName allProjectsParam : String} {canViewNetwork canViewInstance : URL → Bool}
    {result : List NetworkAllocations} {projectName networkName : String}
    {networkNames forwards loadBalancers : List String} {n : Network}
    (hn : auth.canViewNetwork = .ok canViewNetwork) (hi : auth.canViewInstance = .ok canViewInstance)
    (h : networkAllocationsGet lib db auth requestProjectName allProjectsParam = .ok result)
    (hp : ProjectWalked db requestProjectName (lib.isTrue allProjectsParam) projectName)
    (hnames : db.getNetworks projectName = .ok networkNames) (hN : networkName ∈ networkNames)
    (hv : canViewNetwork (networkURL
      (if lib.isTrue allProjectsParam then projectName else requestProjectName) networkName) = true)
    (hl : db.loadByName projectName networkName = .ok n)
    (hf : db.getNetworkForwards n.id = .ok forwards)
    (hlb : db.getNetworkLoadBalancers n.id = .ok loadBalancers) :
    (∀ a ∈ forwards, ∀ cidrAddr nat, ipToCIDR lib a n.config = .ok (cidrAddr, nat) →
      listenerAllocation lib "forwards" "network-forward" projectName networkName a cidrAddr ∈
        result) ∧
    (∀ a ∈ loadBalancers, ∀ cidrAddr nat, ipToCIDR lib a n.config = .ok (cidrAddr, nat) →
      listenerAllocation lib "load-balancers" "network-load-balancer" projectName networkName a
        cidrAddr ∈ result) := by
  have hv' : canViewNetwork (networkURL
      (if !lib.isTrue allProjectsParam then requestProjectName else projectName) networkName) =
        true := by
    cases hb : lib.isTrue allProjectsParam <;> simpa [hb] using hv
  exact ⟨fun a ha c nat hip => networkAllocationsGet_mem hn hi h hp hnames hN fun _ _ hs =>
      (networkStep_lists_listeners hv' hl hf hlb hs).1 a ha c nat hip,
    fun a ha c nat hip => networkAllocationsGet_mem hn hi h hp hnames hN fun _ _ hs =>
      (networkStep_lists_listeners hv' hl hf hlb hs).2 a ha c nat hip⟩

/-- The forward and the load balancer of `lxdbr0` are listed. -/
theorem networkAllocationsGet_lists_listeners_lxdbr0 :
    ∃ result, networkAllocationsGet plainLib lxdbr0Db viewAll "default" "" = .ok result ∧
      listenerAllocation plainLib "forwards" "network-forward" "default" "lxdbr0" "10.0.0.10"
        "10.0.0.10/32" ∈ result ∧
      listenerAllocation plainLib "load-balancers" "network-load-balancer" "default" "lxdbr0"
        "10.0.0.20" "10.0.0.20/32" ∈ result := by
  obtain ⟨result, h⟩ : ∃ result,
      networkAllocationsGet plainLib lxdbr0Db viewAll "default" "" = .ok result := ⟨_, rfl⟩
  have hl := networkAllocationsGet_lists_listeners rfl rfl h rfl rfl
    (List.mem_singleton_self _) rfl rfl rfl rfl
  exact ⟨result, h, hl.1 _ (List.mem_singleton_self _) _ _ rfl,
    hl.2 _ (List.mem_singleton_self _) _ _ rfl⟩

end Api

end Lxd
