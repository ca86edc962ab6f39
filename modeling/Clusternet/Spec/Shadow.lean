import Clusternet.Spec.Types

/-! The shadow API server of the hub (`pkg/hub/apiserver/shadow/apiserver.go`).
`installShadowAPIGroups` mirrors every resource of every discovered group's preferred version
as a template REST under the shadow group; `installAPIGroups`, `installAPIResources` and
`getAPIGroupVersion` publish a group's routes and advertise it for discovery. Each loop of the
source is a function of its own, recursive on the list it ranges over. -/

namespace Clusternet

def clusternetGroupSuffix : String := ".clusternet.io"

def apiGroupPrefix : String := "/apis"

/-- `shadowapi.SchemeGroupVersion.Version`, the version of the package
`pkg/apis/shadow/v1alpha1` the source imports. -/
def shadowVersion : String := "v1alpha1"

def hasSuffix (s suffix : String) : Bool := suffix.data.isSuffixOf s.data

/-! ### Primitive effects -/

/-- `Scheme.AddKnownTypeWithName`. Modelled from the spec (section 4.2): registering a kind
again with the same Go type changes nothing, with another Go type it is refused, which the Go
scheme does by panicking. -/
def addKnownTypeWithName (gvk : GroupVersionKind) (t : GoType) : Go Unit := fun s =>
  match s.scheme.lookup gvk with
  | none => .ok () { s with scheme := s.scheme.insert gvk t }
  | some t' => if t' = t then .ok () s else .error (.doubleRegistration gvk) s

/-- The root path of a web service: `path.Join(Root, group, version)` for the routes
`InstallREST` builds, `/apis/<group>` for a group's discovery handler. -/
def WebService.rootPath (env : Env) : WebService → String
  | .rest v => env.pathJoin [v.root, v.groupVersion.group, v.groupVersion.version]
  | .apiGroupHandler g => apiGroupPrefix ++ "/" ++ g.name

/-- go-restful's `Container.Add`: a web service whose root path is already installed ends the
process. -/
def addWebService (env : Env) (ws : WebService) : Go Unit := fun s =>
  if s.container.any (·.rootPath env = ws.rootPath env) then
    .error (.duplicateRootPath (ws.rootPath env)) s
  else .ok () { s with container := s.container ++ [ws] }

/-- `apiGroupVersion.InstallREST(container)`, with Go's pair of results: the installer registers
what routes it can, then adds the version's web service to the container, and returns the
registration errors. -/
def installREST (env : Env) (v : APIGroupVersion) : Go (Except String (List ResourceInfo)) :=
  fun s => (addWebService env (.rest v) >>= fun _ => pure (env.installREST s.scheme v)) s

/-- `DiscoveryGroupManager.AddGroup`: a group name added before keeps its place and gets the
new entry, a new name is appended. -/
def addGroup (g : APIGroup) : Go Unit := fun s =>
  .ok () { s with
    groups := if s.groups.any (·.name = g.name) then
      s.groups.map fun x => if x.name = g.name then g else x
    else s.groups ++ [g] }

def addResourceInfo (infos : List ResourceInfo) : Go Unit := fun s =>
  .ok () { s with resourceInfos := s.resourceInfos ++ infos }

/-! ### InstallShadowAPIGroups -/

def newREST (groupName preferredVersion : String) (r : APIResource) : REST :=
  { namespaced := r.namespaced, name := r.name, shortNames := r.shortNames, kind := r.kind,
    group := groupName, version := preferredVersion }

/-- The inner loop of `InstallShadowAPIGroups`, over the resources of a preferred version. -/
def mirrorResources (groupName preferredVersion : String) :
    List APIResource → StorageMap → Go StorageMap
  | [], storage => pure storage
  | r :: rs, storage => do
    addKnownTypeWithName ⟨groupName, preferredVersion, r.kind⟩ .unstructured
    mirrorResources groupName preferredVersion rs
      (storage.insert r.name (newREST groupName preferredVersion r))

/-- The outer loop of `InstallShadowAPIGroups`, over the discovered groups. -/
def mirrorGroups (GroupName : String) : List APIGroupResources → StorageMap → Go StorageMap
  | [], storage => pure storage
  | g :: gs, storage =>
    if hasSuffix g.group.name clusternetGroupSuffix then mirrorGroups GroupName gs storage
    else if g.group.name = GroupName then mirrorGroups GroupName gs storage
    else do
      let preferredVersion := g.group.preferredVersion.version
      let storage ← mirrorResources g.group.name preferredVersion
        (g.resourcesFor preferredVersion) storage
      mirrorGroups GroupName gs storage

/-! ### getAPIGroupVersion and installAPIResources -/

/-- The loop of `getAPIGroupVersion`, copying a storage map under lower-cased keys in the
order Go ranges over it. -/
def lowerKeys (lower : String → String) : List (Σ _ : String, REST) → StorageMap → StorageMap
  | [], storage => storage
  | ⟨k, v⟩ :: kvs, storage => lowerKeys lower kvs (storage.insert (lower k) v)

def newAPIGroupVersion (ss : ShadowAPIServer) (info : APIGroupInfo) (gv : GroupVersion) :
    APIGroupVersion :=
  { groupVersion := gv, metaGroupVersion := info.metaGroupVersion,
    optionsExternalVersion := none, root := "", storage := ∅, maxRequestBodyBytes := 0,
    minRequestTimeout := ss.minRequestTimeout }

def getAPIGroupVersion (ss : ShadowAPIServer) (env : Env) (info : APIGroupInfo)
    (gv : GroupVersion) (apiPrefix : String) : APIGroupVersion :=
  let storage := lowerKeys env.toLower (env.iterate (info.storageFor gv.version)) ∅
  { newAPIGroupVersion ss info gv with root := apiPrefix, storage := storage }

/-- The group-version `installAPIResources` hands to `InstallREST`. -/
def versionRoute (ss : ShadowAPIServer) (env : Env) (info : APIGroupInfo) (gv : GroupVersion)
    (apiPrefix : String) : APIGroupVersion :=
  let v := getAPIGroupVersion ss env info gv apiPrefix
  let v := if info.optionsExternalVersion.isSome then
    { v with optionsExternalVersion := info.optionsExternalVersion } else v
  { v with maxRequestBodyBytes := ss.maxRequestBodyBytes }

/-- The loop of `installAPIResources` over the prioritized versions: a version without
resources is skipped, the others are installed until `InstallREST` refuses one. -/
def installVersions (ss : ShadowAPIServer) (env : Env) (apiPrefix : String)
    (info : APIGroupInfo) : List GroupVersion → List ResourceInfo → Go (List ResourceInfo)
  | [], resourceInfos => pure resourceInfos
  | gv :: gvs, resourceInfos =>
    if (info.storageFor gv.version).entries.length = 0 then
      installVersions ss env apiPrefix info gvs resourceInfos
    else do
      match ← installREST env (versionRoute ss env info gv apiPrefix) with
      | .error err => throw (.setupAPI info err)
      | .ok r => installVersions ss env apiPrefix info gvs (resourceInfos ++ r)

def installAPIResources (ss : ShadowAPIServer) (env : Env) (apiPrefix : String)
    (info : APIGroupInfo) : Go Unit := do
  let resourceInfos ← installVersions ss env apiPrefix info info.prioritizedVersions []
  if ss.storageVersionAPI && ss.apiServerIdentity then addResourceInfo resourceInfos

/-! ### installAPIGroups -/

/-- The loop of `installAPIGroups` building the versions a group advertises: those whose
storage map is not empty. -/
def versionsForDiscovery (info : APIGroupInfo) : List GroupVersion → List GroupVersionForDiscovery
  | [] => []
  | gv :: gvs =>
    if (info.storageFor gv.version).entries.length = 0 then versionsForDiscovery info gvs
    else ⟨gv.toString, gv.version⟩ :: versionsForDiscovery info gvs

/-- The `metav1.APIGroup` `installAPIGroups` advertises for a group whose first prioritized
version is `gv0`. -/
def apiGroupForDiscovery (info : APIGroupInfo) (gv0 : GroupVersion) : APIGroup :=
  { name := gv0.group, versions := versionsForDiscovery info info.prioritizedVersions,
    preferredVersion := ⟨gv0.toString, gv0.version⟩ }

/-- The first loop of `installAPIGroups`: no group may have an empty group or version in its
first prioritized version. -/
def validateGroups : List APIGroupInfo → Go Unit
  | [] => pure ()
  | info :: infos =>
    match info.prioritizedVersions with
    | [] => throw (.indexOutOfRange 0 0)
    | gv :: _ =>
      if gv.group.length = 0 then throw (.emptyGroup info)
      else if gv.version.length = 0 then throw (.emptyVersion info)
      else validateGroups infos

/-- The second loop of `installAPIGroups`: install the group's resources, then advertise it. -/
def installGroups (ss : ShadowAPIServer) (env : Env) : List APIGroupInfo → Go Unit
  | [] => pure ()
  | info :: infos => do
    EStateM.adaptExcept (GoError.wrap .installAPIResources)
      (installAPIResources ss env apiGroupPrefix info)
    match info.prioritizedVersions with
    | [] => throw (.indexOutOfRange 0 0)
    | gv0 :: _ =>
      let apiGroup := apiGroupForDiscovery info gv0
      addGroup apiGroup
      addWebService env (.apiGroupHandler apiGroup)
      installGroups ss env infos

def installAPIGroups (ss : ShadowAPIServer) (env : Env) (apiGroupInfos : List APIGroupInfo) :
    Go Unit := do
  validateGroups apiGroupInfos
  installGroups ss env apiGroupInfos

/-- `genericapiserver.NewDefaultAPIGroupInfo`; its prioritized versions are overwritten by
the only caller and are left empty. -/
def newDefaultAPIGroupInfo : APIGroupInfo :=
  { prioritizedVersions := [], versionedResourcesStorageMap := ∅,
    optionsExternalVersion := some ⟨"", "v1"⟩, metaGroupVersion := none }

/-- The API group info of the shadow group, around the storage map of its only version. -/
def shadowAPIGroupInfo (GroupName : String) (storage : StorageMap) : APIGroupInfo :=
  { newDefaultAPIGroupInfo with
    prioritizedVersions := [⟨GroupName, shadowVersion⟩],
    versionedResourcesStorageMap :=
      newDefaultAPIGroupInfo.versionedResourcesStorageMap.insert "v1alpha1" storage }

/-- `InstallShadowAPIGroups`, given what `restmapper.GetAPIGroupResources` answered. -/
def installShadowAPIGroups (ss : ShadowAPIServer) (env : Env) (GroupName : String)
    (apiGroupResources : Except String (List APIGroupResources)) : Go Unit :=
  match apiGroupResources with
  | .error err => throw (.discovery err)
  | .ok apiGroupResources => do
    let storage ← mirrorGroups GroupName apiGroupResources ∅
    installAPIGroups ss env [shadowAPIGroupInfo GroupName storage]

end Clusternet
