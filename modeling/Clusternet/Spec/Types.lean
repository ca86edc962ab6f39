import Mathlib.Data.List.AList

/-! The data the shadow API server reads and writes: the discovery answer of the child
cluster, the template REST storage built for each mirrored resource, the API group info handed
to the installer, and the server state the installer mutates (the scheme, the restful
container, the discovery group manager and the storage-version manager).

Go maps are `AList`s: finite, one value per key, and iterated in an order the program does
not choose. -/

namespace Clusternet

structure GroupVersion where
  group : String
  version : String
deriving DecidableEq, Repr

/-- `GroupVersion.String()`: `group/version`, or the bare version for the legacy core group. -/
def GroupVersion.toString (gv : GroupVersion) : String :=
  if gv.group.length > 0 then gv.group ++ "/" ++ gv.version else gv.version

structure GroupVersionKind where
  group : String
  version : String
  kind : String
deriving DecidableEq, Repr

structure GroupVersionForDiscovery where
  groupVersion : String
  version : String
deriving DecidableEq, Repr

structure APIGroup where
  name : String
  versions : List GroupVersionForDiscovery
  preferredVersion : GroupVersionForDiscovery
deriving DecidableEq, Repr

/-- The fields of `metav1.APIResource` the shadow server reads. -/
structure APIResource where
  name : String
  namespaced : Bool
  kind : String
  shortNames : List String
deriving DecidableEq, Repr

structure APIGroupResources where
  group : APIGroup
  versionedResources : AList (fun _ : String => List APIResource)
deriving DecidableEq

def APIGroupResources.resourcesFor (g : APIGroupResources) (version : String) :
    List APIResource :=
  (g.versionedResources.lookup version).getD []

/-- The template REST storage of a mirrored resource, as the six setters after
`template.NewREST` leave it. Modelled from the spec: the template package is not in the
repository's sources; section 4.3 fixes the descriptor an adapter carries. -/
structure REST where
  namespaced : Bool
  name : String
  shortNames : List String
  kind : String
  group : String
  version : String
deriving DecidableEq, Repr

abbrev StorageMap := AList (fun _ : String => REST)

/-- The fields of `genericapiserver.APIGroupInfo` the installer reads. -/
structure APIGroupInfo where
  prioritizedVersions : List GroupVersion
  versionedResourcesStorageMap : AList (fun _ : String => StorageMap)
  optionsExternalVersion : Option GroupVersion
  metaGroupVersion : Option GroupVersion
deriving DecidableEq

def APIGroupInfo.storageFor (info : APIGroupInfo) (version : String) : StorageMap :=
  (info.versionedResourcesStorageMap.lookup version).getD ∅

/-- The fields of `genericapi.APIGroupVersion` the installer sets: the group-version, the
lower-cased storage map, and the limits each request of the version is served under. -/
structure APIGroupVersion where
  groupVersion : GroupVersion
  metaGroupVersion : Option GroupVersion
  optionsExternalVersion : Option GroupVersion
  root : String
  storage : StorageMap
  maxRequestBodyBytes : Int
  minRequestTimeout : Int
deriving DecidableEq

structure ResourceInfo where
  group : String
  resource : String
  encodingVersion : String
deriving DecidableEq, Repr

/-- A web service added to the restful container: the REST routes of one group-version, or
the `/apis/<group>` discovery handler of one group. -/
inductive WebService
  | rest (v : APIGroupVersion)
  | apiGroupHandler (g : APIGroup)
deriving DecidableEq

inductive GoType
  | unstructured
  | typed (name : String)
deriving DecidableEq, Repr

abbrev Scheme := AList (fun _ : GroupVersionKind => GoType)

/-- What the installer mutates: the scheme, `Handler.GoRestfulContainer`,
`DiscoveryGroupManager` and `StorageVersionManager`. -/
structure State where
  scheme : Scheme
  container : List WebService
  groups : List APIGroup
  resourceInfos : List ResourceInfo

structure ShadowAPIServer where
  maxRequestBodyBytes : Int
  minRequestTimeout : Int
  storageVersionAPI : Bool
  apiServerIdentity : Bool

/-- What the shadow server calls and does not implement: the route registration of
`InstallREST` (`APIInstaller.Install`), which resolves the kinds of a group-version through the
scheme and may fail to register some; the order in which Go ranges over a storage map, which
lists every entry once; and `strings.ToLower` and `path.Join` of Go's library. -/
structure Env where
  installREST : Scheme → APIGroupVersion → Except String (List ResourceInfo)
  iterate : StorageMap → List (Σ _ : String, REST)
  iterate_perm : ∀ m, (iterate m).Perm m.entries
  toLower : String → String
  pathJoin : List String → String

/-- How a call of the shadow server ends when it does not return nil. -/
inductive GoError
  /-- the error of `restmapper.GetAPIGroupResources`, returned as is -/
  | discovery (err : String)
  /-- "cannot register handler with an empty group for %#v" -/
  | emptyGroup (info : APIGroupInfo)
  /-- "cannot register handler with an empty version for %#v" -/
  | emptyVersion (info : APIGroupInfo)
  /-- "unable to setup API %v: %v", when InstallREST refuses a version -/
  | setupAPI (info : APIGroupInfo) (err : String)
  /-- "unable to install api resources: %v" -/
  | installAPIResources (err : GoError)
  /-- the run-time panic "index out of range [i] with length n" -/
  | indexOutOfRange (i n : Nat)
  /-- the panic of `AddKnownTypeWithName` on a kind known with another Go type -/
  | doubleRegistration (gvk : GroupVersionKind)
  /-- go-restful's `Container.Add` on a web service whose root path is taken: it logs
  "WebService with duplicate root path detected" and calls `os.Exit(1)` -/
  | duplicateRootPath (rootPath : String)
deriving DecidableEq

/-- A panic, as opposed to an error value the caller can inspect. -/
def GoError.isPanic : GoError → Bool
  | .indexOutOfRange .. | .doubleRegistration _ => true
  | _ => false

def GoError.isExit : GoError → Bool
  | .duplicateRootPath _ => true
  | _ => false

/-- `fmt.Errorf` around an error value; a panic or an exit never reaches it. -/
def GoError.wrap (f : GoError → GoError) (e : GoError) : GoError :=
  if e.isPanic || e.isExit then e else f e

/-- Go code of the shadow server: it reads and writes the state, and side effects made
before an error return or a panic stay. -/
abbrev Go := EStateM GoError State

/-- The state a call leaves, whether it returned normally or not. -/
def resultState {α : Type} : EStateM.Result GoError State α → State
  | .ok _ s => s
  | .error _ s => s

def isOk {α : Type} : EStateM.Result GoError State α → Bool
  | .ok _ _ => true
  | .error _ _ => false

/-- Whether a call ended the process, after which no call runs. -/
def exited {α : Type} : EStateM.Result GoError State α → Bool
  | .ok _ _ => false
  | .error e _ => e.isExit

@[simp] theorem resultState_ok {α : Type} (a : α) (s : State) : resultState (.ok a s) = s := rfl

@[simp] theorem resultState_error {α : Type} (e : GoError) (s : State) :
    resultState (.error e s : EStateM.Result GoError State α) = s := rfl

@[simp] theorem isOk_ok {α : Type} (a : α) (s : State) : isOk (.ok a s) = true := rfl

@[simp] theorem isOk_error {α : Type} (e : GoError) (s : State) :
    isOk (.error e s : EStateM.Result GoError State α) = false := rfl

end Clusternet
