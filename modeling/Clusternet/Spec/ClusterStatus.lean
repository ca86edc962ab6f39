import Mathlib.Data.List.AList

/-! The cluster-status controller of the agent
(`pkg/controllers/clusters/clusterstatus/clusterstatus_controller.go`). Every collecting period
`collectingClusterStatus` asks the child cluster for its version, lists the nodes, discovers the
cluster and service CIDRs and probes three health endpoints, then stores the status it builds;
`GetClusterStatus` hands out a copy of the last one stored. What the collaborators answer is an
input of a round, failures included. -/

namespace Clusternet

/-! The constants of corev1, apimachinery's resource package and net/http the controller reads,
each under its Go name. -/

def nodeReady : String := "Ready"

def conditionTrue : String := "True"

def conditionFalse : String := "False"

def conditionUnknown : String := "Unknown"

def resourceCPU : String := "cpu"

def resourceMemory : String := "memory"

def statusOK : Int := 200

/-- The fields of `corev1.NodeCondition` the controller reads. Its status is a string, which
the API expects to be one of "True", "False" and "Unknown". -/
structure NodeCondition where
  type : String
  status : String
deriving DecidableEq, Repr

def decimalSI : String := "DecimalSI"

def binarySI : String := "BinarySI"

/-- `resource.Quantity`: an exact amount, counted in its finest unit, and the format it is
written in. The defaults are Go's zero value. -/
structure Quantity where
  value : Int := 0
  format : String := ""
deriving DecidableEq, Repr

/-- `Quantity.Add` of apimachinery: the amounts add exactly, and a receiver that is zero takes
the format of the addend. -/
def Quantity.add (q y : Quantity) : Quantity :=
  { value := q.value + y.value, format := if q.value = 0 then y.format else q.format }

abbrev ResourceList := AList (fun _ : String => Quantity)

/-- `ResourceList.Cpu()`: a missing entry reads as zero, in the DecimalSI format. -/
def ResourceList.cpu (rl : ResourceList) : Quantity :=
  (rl.lookup resourceCPU).getD { format := decimalSI }

/-- `ResourceList.Memory()`: a missing entry reads as zero, in the BinarySI format. -/
def ResourceList.memory (rl : ResourceList) : Quantity :=
  (rl.lookup resourceMemory).getD { format := binarySI }

structure NodeStatus where
  conditions : List NodeCondition
  capacity : ResourceList
  allocatable : ResourceList
deriving DecidableEq

structure Node where
  status : NodeStatus
deriving DecidableEq

/-! ### Node statistics and resources -/

/-- The loop of `getNodeCondition`: the first condition of the type, with its index. -/
def findCondition (conditionType : String) : Nat → List NodeCondition → Int × Option NodeCondition
  | _, [] => (-1, none)
  | i, c :: cs =>
    if c.type = conditionType then (i, some c) else findCondition conditionType (i + 1) cs

/-- `getNodeCondition`; `none` stands for a nil status. -/
def getNodeCondition (status : Option NodeStatus) (conditionType : String) :
    Int × Option NodeCondition :=
  match status with
  | none => (-1, none)
  | some status => findCondition conditionType 0 status.conditions

/-- `clusterapi.NodeStatistics`. Its declaration is not among the sources: the counters are
natural numbers here. -/
structure NodeStatistics where
  readyNodes : Nat := 0
  notReadyNodes : Nat := 0
  unknownNodes : Nat := 0
  lostNodes : Nat := 0
deriving DecidableEq, Repr

/-- One iteration of the loop of `getNodeStatistics`. With an index other than -1
getNodeCondition returns a condition, so the `none` case, where Go would dereference nil, is
never taken; the `switch` has no default case. -/
def countNode (nodeStatistics : NodeStatistics) (node : Node) : NodeStatistics :=
  let (flag, condition) := getNodeCondition (some node.status) nodeReady
  if flag = -1 then { nodeStatistics with lostNodes := nodeStatistics.lostNodes + 1 }
  else
    match condition with
    | none => nodeStatistics
    | some condition =>
      if condition.status = conditionTrue then
        { nodeStatistics with readyNodes := nodeStatistics.readyNodes + 1 }
      else if condition.status = conditionFalse then
        { nodeStatistics with notReadyNodes := nodeStatistics.notReadyNodes + 1 }
      else if condition.status = conditionUnknown then
        { nodeStatistics with unknownNodes := nodeStatistics.unknownNodes + 1 }
      else nodeStatistics

def getNodeStatistics (nodes : List Node) : NodeStatistics := nodes.foldl countNode {}

/-- The four running sums of `getNodeResource`, declared with Go's zero value. -/
structure NodeResourceSums where
  capacityCpu : Quantity := {}
  capacityMem : Quantity := {}
  allocatableCpu : Quantity := {}
  allocatableMem : Quantity := {}
deriving DecidableEq

def addNodeResource (sums : NodeResourceSums) (node : Node) : NodeResourceSums :=
  { capacityCpu := sums.capacityCpu.add node.status.capacity.cpu,
    capacityMem := sums.capacityMem.add node.status.capacity.memory,
    allocatableCpu := sums.allocatableCpu.add node.status.allocatable.cpu,
    allocatableMem := sums.allocatableMem.add node.status.allocatable.memory }

def cpuAndMemory (cpu memory : Quantity) : ResourceList :=
  ((∅ : ResourceList).insert resourceCPU cpu).insert resourceMemory memory

def getNodeResource (nodes : List Node) : ResourceList × ResourceList :=
  let sums := nodes.foldl addNodeResource {}
  (cpuAndMemory sums.capacityCpu sums.capacityMem,
    cpuAndMemory sums.allocatableCpu sums.allocatableMem)

/-! ### Collecting and reporting the status -/

structure VersionInfo where
  gitVersion : String
  platform : String
deriving DecidableEq

/-- `clusterapi.ManagedClusterStatus`, by the fields the controller sets. Its declaration is not
among the sources; an unset field holds Go's zero value, and the time is a clock reading. -/
structure ManagedClusterStatus where
  lastObservedTime : Nat := 0
  kubernetesVersion : String := ""
  platform : String := ""
  apiServerURL : String := ""
  healthz : Bool := false
  livez : Bool := false
  readyz : Bool := false
  appPusher : Bool := false
  useSocket : Bool := false
  parentAPIServerURL : String := ""
  clusterCIDR : String := ""
  serviceCIDR : String := ""
  nodeStatistics : NodeStatistics := {}
  allocatable : ResourceList := ∅
  capacity : ResourceList := ∅
deriving DecidableEq

/-- The fields of `Controller` a collecting round reads and writes; `none` is a nil status. -/
structure Controller where
  clusterStatus : Option ManagedClusterStatus
  apiserverURL : String
  appPusherEnabled : Bool
  useSocket : Bool
  parentAPIServer : String
deriving DecidableEq

/-- What the collaborators answer in one collecting round, each as Go returns it, with the
error beside the result: the version pointer (`none` is nil), the listed nodes, the two CIDRs,
the status code a GET of each health path gets (0 without a response), and `metav1.Now()`. -/
structure Answers where
  serverVersion : Option VersionInfo × Option String
  nodes : List Node × Option String
  clusterCIDR : String × Option String
  serviceCIDR : String × Option String
  statusCode : String → Int
  now : Nat

def nilPointerDereference : String := "invalid memory address or nil pointer dereference"

def newController (apiserverURL parentAPIServerURL : String) (appPusher useSocket : Bool) :
    Controller :=
  { clusterStatus := none, apiserverURL := apiserverURL, appPusherEnabled := appPusher,
    useSocket := useSocket, parentAPIServer := parentAPIServerURL }

def getHealthStatus (answers : Answers) (path : String) : Bool := answers.statusCode path = statusOK

def setClusterStatus (c : Controller) (status : ManagedClusterStatus) (now : Nat) : Controller :=
  let c := if c.clusterStatus.isNone then { c with clusterStatus := some {} } else c
  { c with clusterStatus := some { status with lastObservedTime := now } }

/-- `GetClusterStatus`: a copy of the stored status, or nil. -/
def getClusterStatus (c : Controller) : Option ManagedClusterStatus := c.clusterStatus

/-- `collectingClusterStatus`. The collaborators' errors are only logged. -/
def collectingClusterStatus (c : Controller) (answers : Answers) : Except String Controller := do
  let (clusterVersion, _) := answers.serverVersion
  let (nodes, _) := answers.nodes
  let nodeStatistics := getNodeStatistics nodes
  let (capacity, allocatable) := getNodeResource nodes
  let (clusterCIDR, _) := answers.clusterCIDR
  let (serviceCIDR, _) := answers.serviceCIDR
  let some clusterVersion := clusterVersion | throw nilPointerDereference
  pure <| setClusterStatus c
    { kubernetesVersion := clusterVersion.gitVersion, platform := clusterVersion.platform,
      apiServerURL := c.apiserverURL, healthz := getHealthStatus answers "/healthz",
      livez := getHealthStatus answers "/livez", readyz := getHealthStatus answers "/readyz",
      appPusher := c.appPusherEnabled, useSocket := c.useSocket,
      parentAPIServerURL := c.parentAPIServer, clusterCIDR := clusterCIDR,
      serviceCIDR := serviceCIDR, nodeStatistics := nodeStatistics, allocatable := allocatable,
      capacity := capacity } answers.now

/-- `Run` once the caches synced: one collecting round a period, each with its own answers. A
panic is not recovered and ends the controller. -/
def runCollections (c : Controller) : List Answers → Except String Controller
  | [] => pure c
  | answers :: rounds => do runCollections (← collectingClusterStatus c answers) rounds

end Clusternet
