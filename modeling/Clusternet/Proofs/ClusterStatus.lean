import Clusternet.Spec.ClusterStatus
import Mathlib.Algebra.BigOperators.Group.List
import Mathlib.Algebra.Ring.Int.Defs

/-! What a collecting round reports. getNodeStatistics counts the nodes by the status of their
first Ready condition, and a node whose first Ready condition has a status other than the three
the API defines is counted nowhere; getNodeResource sums the nodes' CPU and memory. A round
whose version query returns a nil version panics on the dereference that follows, whatever the
error said; the other rounds overwrite the whole status, so after a run GetClusterStatus
reports the last round alone. The sums are exact, but each takes the format of the first node
with a non-zero amount, so the order of the nodes shows in the formats and nowhere else. -/

namespace Clusternet

/-- The status of a node's first Ready condition, if it has one. -/
def readyStatus (node : Node) : Option String :=
  (node.status.conditions.find? (·.type = nodeReady)).map (·.status)

/-- The Ready statuses getNodeStatistics has a counter for: none at all, or one of the three
the API defines. -/
def countedStatuses : List (Option String) :=
  [none, some conditionTrue, some conditionFalse, some conditionUnknown]

def NodeStatistics.total (st : NodeStatistics) : Nat :=
  st.readyNodes + st.notReadyNodes + st.unknownNodes + st.lostNodes

/-! ### Node statistics -/

/-- getNodeCondition's loop finds the first condition of the type, and answers -1 exactly when
there is none. -/
theorem findCondition_spec (t : String) :
    ∀ (i : Nat) (cs : List NodeCondition),
      (findCondition t i cs).2 = cs.find? (·.type = t) ∧
        ((findCondition t i cs).1 = -1 ↔ (findCondition t i cs).2 = none)
  | _, [] => by simp [findCondition]
  | i, c :: cs => by
    by_cases h : c.type = t
    · simp [findCondition, h]
    · simpa [findCondition, h] using findCondition_spec t (i + 1) cs

theorem countNode_eq (st : NodeStatistics) (node : Node) :
    countNode st node =
      { readyNodes := st.readyNodes + if readyStatus node = some conditionTrue then 1 else 0,
        notReadyNodes := st.notReadyNodes + if readyStatus node = some conditionFalse then 1 else 0,
        unknownNodes := st.unknownNodes + if readyStatus node = some conditionUnknown then 1 else 0,
        lostNodes := st.lostNodes + if readyStatus node = none then 1 else 0 } := by
  obtain ⟨hfind, hflag⟩ := findCondition_spec nodeReady 0 node.status.conditions
  rcases hf : findCondition nodeReady 0 node.status.conditions with ⟨flag, _ | c⟩ <;>
    rw [hf] at hfind hflag
  · have hr : readyStatus node = none := by simp [readyStatus, ← hfind]
    simp [countNode, getNodeCondition, hf, hflag.2 rfl, hr]
  · have hr : readyStatus node = some c.status := by simp [readyStatus, ← hfind]
    have hne : flag ≠ -1 := fun h => nomatch hflag.1 h
    simp only [countNode, getNodeCondition, hf, hne, hr, if_false, Option.some.injEq, reduceCtorEq]
    generalize c.status = x
    by_cases h1 : x = conditionTrue
    · subst h1; rfl
    by_cases h2 : x = conditionFalse
    · subst h2; rfl
    by_cases h3 : x = conditionUnknown
    · subst h3; rfl
    simp [h1, h2, h3]

theorem foldl_countNode (nodes : List Node) :
    ∀ st : NodeStatistics, nodes.foldl countNode st =
      { readyNodes := st.readyNodes + nodes.countP (readyStatus · = some conditionTrue),
        notReadyNodes := st.notReadyNodes + nodes.countP (readyStatus · = some conditionFalse),
        unknownNodes := st.unknownNodes + nodes.countP (readyStatus · = some conditionUnknown),
        lostNodes := st.lostNodes + nodes.countP (readyStatus · = none) } := by
  induction nodes with
  | nil => intro st; rfl
  | cons n ns ih =>
    intro st
    rw [List.foldl_cons, ih, countNode_eq]
    simp only [List.countP_cons, decide_eq_true_eq, NodeStatistics.mk.injEq]
    omega

theorem getNodeStatistics_eq (nodes : List Node) :
    getNodeStatistics nodes =
      { readyNodes := nodes.countP (readyStatus · = some conditionTrue),
        notReadyNodes := nodes.countP (readyStatus · = some conditionFalse),
        unknownNodes := nodes.countP (readyStatus · = some conditionUnknown),
        lostNodes := nodes.countP (readyStatus · = none) } := by
  simp [getNodeStatistics, foldl_countNode]

theorem getNodeStatistics_perm {nodes nodes' : List Node} (h : nodes.Perm nodes') :
    getNodeStatistics nodes = getNodeStatistics nodes' := by
  simp only [getNodeStatistics_eq, h.countP_eq]

theorem readyStatus_counted_once (r : Option String) :
    ((if r = some conditionTrue then 1 else 0) + (if r = some conditionFalse then 1 else 0) +
      (if r = some conditionUnknown then 1 else 0) + (if r = none then 1 else 0) +
      if r ∉ countedStatuses then 1 else 0) = 1 := by
  by_cases h1 : r = some conditionTrue
  · subst h1; decide
  by_cases h2 : r = some conditionFalse
  · subst h2; decide
  by_cases h3 : r = some conditionUnknown
  · subst h3; decide
  by_cases h4 : r = none
  · subst h4; decide
  simp [countedStatuses, h1, h2, h3, h4]

theorem countP_readyStatus_partition (nodes : List Node) :
    nodes.countP (readyStatus · = some conditionTrue) +
        nodes.countP (readyStatus · = some conditionFalse) +
        nodes.countP (readyStatus · = some conditionUnknown) +
        nodes.countP (readyStatus · = none) +
        nodes.countP (readyStatus · ∉ countedStatuses) = nodes.length := by
  induction nodes with
  | nil => rfl
  | cons n ns ih =>
    have := readyStatus_counted_once (readyStatus n)
    simp only [List.countP_cons, List.length_cons, decide_eq_true_eq]
    omega

/-- getNodeStatistics counts each node under LostNodes when it has no Ready condition and under
ReadyNodes, NotReadyNodes or UnknownNodes when its first Ready condition's status is True, False
or Unknown; a node whose first Ready condition has another status is counted nowhere, so the
counters add up to the number of nodes less the number of such nodes. -/
theorem getNodeStatistics_counts_by_ready_status (nodes : List Node) :
    getNodeStatistics nodes =
        { readyNodes := nodes.countP (readyStatus · = some conditionTrue),
          notReadyNodes := nodes.countP (readyStatus · = some conditionFalse),
          unknownNodes := nodes.countP (readyStatus · = some conditionUnknown),
          lostNodes := nodes.countP (readyStatus · = none) } ∧
      (getNodeStatistics nodes).total + nodes.countP (readyStatus · ∉ countedStatuses) =
        nodes.length := by
  refine ⟨getNodeStatistics_eq nodes, ?_⟩
  rw [getNodeStatistics_eq, NodeStatistics.total, ← countP_readyStatus_partition nodes]

def blankReadyNode : Node := ⟨⟨[⟨nodeReady, ""⟩], ∅, ∅⟩⟩

theorem blank_ready_status_uncounted :
    ¬ ∀ nodes : List Node, (getNodeStatistics nodes).total = nodes.length :=
  fun h => absurd (h [blankReadyNode]) (by decide)

/-! ### Node resources -/

/-- A sum of quantities as getNodeResource takes it: added one by one to Go's zero value. -/
def Quantity.sum (qs : List Quantity) : Quantity := qs.foldl Quantity.add {}

theorem foldl_add_value (qs : List Quantity) :
    ∀ q : Quantity, (qs.foldl Quantity.add q).value = q.value + (qs.map (·.value)).sum := by
  induction qs with
  | nil => intro q; simp
  | cons y qs ih =>
    intro q
    rw [List.foldl_cons, ih, List.map_cons, List.sum_cons, Quantity.add, Int.add_assoc]

@[simp] theorem Quantity.sum_value (qs : List Quantity) :
    (Quantity.sum qs).value = (qs.map (·.value)).sum := by
  rw [Quantity.sum, foldl_add_value, Int.zero_add]

theorem foldl_addNodeResource (nodes : List Node) :
    ∀ sums : NodeResourceSums, nodes.foldl addNodeResource sums =
      { capacityCpu := (nodes.map (·.status.capacity.cpu)).foldl Quantity.add sums.capacityCpu,
        capacityMem := (nodes.map (·.status.capacity.memory)).foldl Quantity.add sums.capacityMem,
        allocatableCpu :=
          (nodes.map (·.status.allocatable.cpu)).foldl Quantity.add sums.allocatableCpu,
        allocatableMem :=
          (nodes.map (·.status.allocatable.memory)).foldl Quantity.add sums.allocatableMem } := by
  induction nodes with
  | nil => intro sums; rfl
  | cons n ns ih => intro sums; rw [List.foldl_cons, ih]; rfl

theorem getNodeResource_eq (nodes : List Node) :
    getNodeResource nodes =
      (cpuAndMemory (Quantity.sum (nodes.map (·.status.capacity.cpu)))
          (Quantity.sum (nodes.map (·.status.capacity.memory))),
        cpuAndMemory (Quantity.sum (nodes.map (·.status.allocatable.cpu)))
          (Quantity.sum (nodes.map (·.status.allocatable.memory)))) := by
  rw [getNodeResource, foldl_addNodeResource]; rfl

@[simp] theorem cpuAndMemory_cpu (cpu memory : Quantity) : (cpuAndMemory cpu memory).cpu = cpu := by
  have h : resourceCPU ≠ resourceMemory := by decide
  simp only [cpuAndMemory, ResourceList.cpu, AList.lookup_insert_ne h, AList.lookup_insert,
    Option.getD_some]

@[simp] theorem cpuAndMemory_memory (cpu memory : Quantity) :
    (cpuAndMemory cpu memory).memory = memory := by
  simp [cpuAndMemory, ResourceList.memory]

/-! ### Quantities up to their format -/

/-- A quantity with its format cleared: what `Quantity.Cmp`, and with it
`equality.Semantic.DeepEqual`, compares. -/
def Quantity.clearFormat (q : Quantity) : Quantity := { value := q.value }

def ResourceList.clearFormats (rl : ResourceList) : ResourceList :=
  ⟨rl.entries.map fun e => ⟨e.1, e.2.clearFormat⟩, by
    simpa [List.NodupKeys, List.keys, Function.comp_def] using rl.nodupKeys⟩

def ManagedClusterStatus.clearFormats (st : ManagedClusterStatus) : ManagedClusterStatus :=
  { st with allocatable := st.allocatable.clearFormats, capacity := st.capacity.clearFormats }

def Controller.clearFormats (c : Controller) : Controller :=
  { c with clusterStatus := c.clusterStatus.map ManagedClusterStatus.clearFormats }

theorem clearFormats_cpuAndMemory (cpu memory : Quantity) :
    (cpuAndMemory cpu memory).clearFormats = cpuAndMemory cpu.clearFormat memory.clearFormat :=
  rfl

theorem Quantity.sum_clearFormat_perm {qs qs' : List Quantity} (h : qs.Perm qs') :
    (Quantity.sum qs).clearFormat = (Quantity.sum qs').clearFormat := by
  simp only [Quantity.clearFormat, Quantity.sum_value, (h.map _).sum_eq]

/-! ### Collecting rounds -/

/-- A round whose version query returns a nil version panics, whatever else the
collaborators answered. -/
theorem collectingClusterStatus_nil_version_panics (c : Controller) (answers : Answers)
    (h : answers.serverVersion.1 = none) :
    collectingClusterStatus c answers = .error nilPointerDereference := by
  obtain ⟨⟨_, _⟩, ⟨_, _⟩, ⟨_, _⟩, ⟨_, _⟩, _, _⟩ := answers
  cases h
  rfl

/-- A round in which the version query fails, returning a nil version with its error as
client-go's ServerVersion does. -/
def versionQueryFailed : Answers :=
  { serverVersion := (none, some "the server could not find the requested resource"),
    nodes := ([], none), clusterCIDR := ("", none), serviceCIDR := ("", none),
    statusCode := fun _ => statusOK, now := 0 }

theorem collectingClusterStatus_nil_version_panics_on_failed_query :
    versionQueryFailed.serverVersion.1 = none ∧
      collectingClusterStatus (newController "" "" false false) versionQueryFailed =
        .error nilPointerDereference :=
  ⟨rfl, collectingClusterStatus_nil_version_panics _ _ rfl⟩

/-- What a round whose version query returns `v` should report: the version's fields, the
controller's configuration, the probes, the CIDRs, the nodes counted by Ready status, the sums
of their resources, and the time of the round. -/
def observedStatus (c : Controller) (answers : Answers) (v : VersionInfo) : ManagedClusterStatus :=
  let nodes := answers.nodes.1
  { lastObservedTime := answers.now, kubernetesVersion := v.gitVersion, platform := v.platform,
    apiServerURL := c.apiserverURL, healthz := answers.statusCode "/healthz" = statusOK,
    livez := answers.statusCode "/livez" = statusOK,
    readyz := answers.statusCode "/readyz" = statusOK, appPusher := c.appPusherEnabled,
    useSocket := c.useSocket, parentAPIServerURL := c.parentAPIServer,
    clusterCIDR := answers.clusterCIDR.1, serviceCIDR := answers.serviceCIDR.1,
    nodeStatistics :=
      { readyNodes := nodes.countP (readyStatus · = some conditionTrue),
        notReadyNodes := nodes.countP (readyStatus · = some conditionFalse),
        unknownNodes := nodes.countP (readyStatus · = some conditionUnknown),
        lostNodes := nodes.countP (readyStatus · = none) },
    allocatable := cpuAndMemory (Quantity.sum (nodes.map (·.status.allocatable.cpu)))
      (Quantity.sum (nodes.map (·.status.allocatable.memory))),
    capacity := cpuAndMemory (Quantity.sum (nodes.map (·.status.capacity.cpu)))
      (Quantity.sum (nodes.map (·.status.capacity.memory))) }

theorem collectingClusterStatus_of_version (c : Controller) {answers : Answers} {v : VersionInfo}
    (h : answers.serverVersion.1 = some v) :
    collectingClusterStatus c answers =
      .ok { c with clusterStatus := some (observedStatus c answers v) } := by
  obtain ⟨⟨_, _⟩, ⟨nodes, _⟩, ⟨_, _⟩, ⟨_, _⟩, _, _⟩ := answers
  cases h
  simp only [collectingClusterStatus, setClusterStatus, getNodeStatistics_eq, getNodeResource_eq]
  split_ifs <;> rfl

/-- Over rounds whose version queries all return a version, the controller never panics, and
after a run ending in a round with version `v` GetClusterStatus reports that round alone. -/
theorem runCollections_reports_last_round (c : Controller) (rounds : List Answers)
    {last : Answers} {v : VersionInfo} (h : ∀ a ∈ rounds, a.serverVersion.1.isSome)
    (hv : last.serverVersion.1 = some v) :
    ∃ c', runCollections c (rounds ++ [last]) = .ok c' ∧
      getClusterStatus c' = some (observedStatus c last v) := by
  induction rounds generalizing c with
  | nil =>
    refine ⟨{ c with clusterStatus := some (observedStatus c last v) }, ?_, rfl⟩
    rw [List.nil_append, runCollections, collectingClusterStatus_of_version c hv]
    rfl
  | cons a rounds ih =>
    obtain ⟨w, hw⟩ := Option.isSome_iff_exists.1 (h a (List.mem_cons_self _ _))
    obtain ⟨c', hrun, hst⟩ := ih { c with clusterStatus := some (observedStatus c a w) }
      fun b hb => h b (List.mem_cons_of_mem _ hb)
    refine ⟨c', ?_, hst⟩
    simpa [runCollections, collectingClusterStatus_of_version c hw] using hrun

def collectedRound : Answers :=
  { serverVersion := (some ⟨"v1.21.0", "linux/amd64"⟩, none), nodes := ([blankReadyNode], none),
    clusterCIDR := ("10.244.0.0/16", none), serviceCIDR := ("10.96.0.0/12", none),
    statusCode := fun _ => statusOK, now := 1 }

theorem runCollections_reports_last_round_after_one :
    (∀ a ∈ [collectedRound], a.serverVersion.1.isSome) ∧
      collectedRound.serverVersion.1 = some ⟨"v1.21.0", "linux/amd64"⟩ ∧
      ∃ c', runCollections (newController "" "" false false) ([collectedRound] ++ [collectedRound]) = .ok c' ∧
        getClusterStatus c' =
          some (observedStatus (newController "" "" false false) collectedRound ⟨"v1.21.0", "linux/amd64"⟩) :=
  have h : ∀ a ∈ [collectedRound], a.serverVersion.1.isSome := by simp [collectedRound]
  ⟨h, rfl, runCollections_reports_last_round _ _ h rfl⟩

theorem observedStatus_clearFormats_perm (c : Controller) (answers : Answers) (v : VersionInfo)
    {nodes : List Node} (h : nodes.Perm answers.nodes.1) :
    (observedStatus c { answers with nodes := (nodes, answers.nodes.2) } v).clearFormats =
      (observedStatus c answers v).clearFormats := by
  have hq : ∀ f : Node → Quantity, (Quantity.sum (nodes.map f)).clearFormat =
      (Quantity.sum (answers.nodes.1.map f)).clearFormat := fun f =>
    Quantity.sum_clearFormat_perm (h.map f)
  simp only [observedStatus, ManagedClusterStatus.clearFormats, clearFormats_cpuAndMemory, hq,
    h.countP_eq]

/-- Whatever the other answers, a round reports the same status up to the formats of its
quantities, or panics alike, in whatever order the node lister returns the nodes. -/
theorem collectingClusterStatus_node_order (c : Controller) (answers : Answers)
    {nodes : List Node} (h : nodes.Perm answers.nodes.1) :
    (collectingClusterStatus c { answers with nodes := (nodes, answers.nodes.2) }).map
        Controller.clearFormats =
      (collectingClusterStatus c answers).map Controller.clearFormats := by
  cases hv : answers.serverVersion.1 with
  | none =>
    rw [collectingClusterStatus_nil_version_panics c { answers with nodes := (nodes, _) } hv,
      collectingClusterStatus_nil_version_panics c answers hv]
  | some v =>
    rw [@collectingClusterStatus_of_version c { answers with nodes := (nodes, answers.nodes.2) } v hv,
      collectingClusterStatus_of_version c hv]
    simp only [Except.map, Controller.clearFormats, Option.map_some',
      observedStatus_clearFormats_perm c answers v h]

def twoNodeRound : Answers := { collectedRound with nodes := ([blankReadyNode, ⟨⟨[], ∅, ∅⟩⟩], none) }

theorem collectingClusterStatus_node_order_swapped :
    [⟨⟨[], ∅, ∅⟩⟩, blankReadyNode].Perm twoNodeRound.nodes.1 ∧
      (collectingClusterStatus (newController "" "" false false)
          { twoNodeRound with nodes := ([⟨⟨[], ∅, ∅⟩⟩, blankReadyNode], twoNodeRound.nodes.2) }).map
          Controller.clearFormats =
        (collectingClusterStatus (newController "" "" false false) twoNodeRound).map
          Controller.clearFormats :=
  have h : [⟨⟨[], ∅, ∅⟩⟩, blankReadyNode].Perm twoNodeRound.nodes.1 := List.Perm.swap _ _ []
  ⟨h, collectingClusterStatus_node_order _ _ h⟩

def cpuNode (format : String) : Node :=
  ⟨⟨[], (∅ : ResourceList).insert resourceCPU { value := 1, format := format }, ∅⟩⟩

/-- The formats themselves depend on the order: the summed CPU capacity takes the format of
the first node. -/
theorem collectingClusterStatus_node_order_changes_formats :
    ¬ ∀ (c : Controller) (answers : Answers) (nodes : List Node), nodes.Perm answers.nodes.1 →
      collectingClusterStatus c { answers with nodes := (nodes, answers.nodes.2) } =
        collectingClusterStatus c answers := by
  intro h
  have he := congrArg (fun r => ((Except.toOption r).bind getClusterStatus).map (·.capacity.cpu))
    (h (newController "" "" false false)
      { collectedRound with nodes := ([cpuNode decimalSI, cpuNode "DecimalExponent"], none) }
      [cpuNode "DecimalExponent", cpuNode decimalSI] (List.Perm.swap _ _ []))
  exact absurd he (by decide)

end Clusternet
