import DatadogOperator.Autoscaling.Services

/-!
# Nodes and who manages them

`Classify` of `common/clusterinfo/classify.go` sorts every node of the cluster
into a bucket: by its labels, or by the answer of the Auto Scaling API for its
instance. Two more passes mark the Karpenter node pools and the Fargate profiles
that Datadog products made.
-/

namespace DatadogOperator.Autoscaling

open Calls
open Profiles (Labels)

/-! ## One node -/

def isHexDigit (c : Char) : Bool := c.isDigit || ('a' ≤ c && c ≤ 'f')

/-- `ExtractEC2InstanceID`: the regular expression `^aws:///[^/]+/(i-[0-9a-f]+)$`. -/
def extractEC2InstanceID (node : Node) : Option String :=
  if hasPrefix node.providerID "aws:///" then
    let rest := node.providerID.toList.drop 7
    match rest.takeWhile (· ≠ '/'), rest.dropWhile (· ≠ '/') with
    | _ :: _, '/' :: 'i' :: '-' :: digit :: digits =>
      if (digit :: digits).all isHexDigit then some (String.ofList ('i' :: '-' :: digit :: digits))
      else none
    | _, _ => none
  else none

def labelEKSNodegroup : String := "eks.amazonaws.com/nodegroup"

/-- An empty value counts as none. -/
def nonEmpty (m : Labels) (key : String) : Option String :=
  if Annotations.get m key ≠ "" then some (Annotations.get m key) else none

/-- `none` where AWS has to be asked or nothing is known. -/
def classifyNodeByLabel (node : Node) (fargateProfileByNode : Labels) :
    Option (NodeManager × String) :=
  if Annotations.get node.labels "eks.amazonaws.com/compute-type" = "fargate" ∨
      hasPrefix node.name "fargate-ip-" then
    some (.fargate, Annotations.get fargateProfileByNode node.name)
  else
    ((nonEmpty node.labels "karpenter.sh/nodepool").map fun v => (.karpenter, v)) <|>
    ((nonEmpty node.labels "karpenter.k8s.aws/ec2nodeclass").map fun v => (.karpenter, v)) <|>
    ((nonEmpty node.labels "karpenter.sh/provisioner-name").map fun v => (.karpenter, v)) <|>
    ((nonEmpty node.labels labelEKSNodegroup).map fun v => (.eksManagedNodeGroup, v))

/-! ## Buckets -/

namespace ClusterInfo

def entry (info : ClusterInfo) (mgr : NodeManager) (entity : String) : NodeManagerEntry :=
  ((info.nodeManagement mgr).lookup entity).getD {}

def setEntry (info : ClusterInfo) (mgr : NodeManager) (entity : String) (e : NodeManagerEntry) :
    ClusterInfo :=
  { info with
    nodeManagement := Function.update info.nodeManagement mgr
      ((info.nodeManagement mgr).insert entity e) }

def addToBucket (info : ClusterInfo) (mgr : NodeManager) (entity nodeName : String) : ClusterInfo :=
  info.setEntry mgr entity
    { info.entry mgr entity with nodes := (info.entry mgr entity).nodes ++ [nodeName] }

def markManaged (info : ClusterInfo) (mgr : NodeManager) (entity : String) : ClusterInfo :=
  info.setEntry mgr entity { info.entry mgr entity with managedByDatadog := true }

def Holds (info : ClusterInfo) (mgr : NodeManager) (entity nodeName : String) : Prop :=
  nodeName ∈ (info.entry mgr entity).nodes

def Managed (info : ClusterInfo) (mgr : NodeManager) (entity : String) : Prop :=
  (info.entry mgr entity).managedByDatadog = true

variable (info : ClusterInfo) (mgr : NodeManager) (entity nodeName : String)

theorem entry_setEntry (e : NodeManagerEntry) (m : NodeManager) (n : String) :
    (info.setEntry mgr entity e).entry m n =
      if m = mgr ∧ n = entity then e else info.entry m n := by
  unfold entry setEntry
  by_cases hm : m = mgr
  · subst hm
    by_cases hn : n = entity
    · subst hn
      simp
    · simp [hn, Finmap.lookup_insert_of_ne _ hn]
  · simp [hm]

theorem holds_addToBucket (m : NodeManager) (e x : String) :
    (info.addToBucket mgr entity nodeName).Holds m e x ↔
      info.Holds m e x ∨ (mgr, entity) = (m, e) ∧ nodeName = x := by
  unfold Holds addToBucket
  rw [entry_setEntry]
  by_cases h : m = mgr ∧ e = entity
  · obtain ⟨rfl, rfl⟩ := h
    simp [eq_comm]
  · rw [if_neg h]
    refine ⟨.inl, fun hx => hx.resolve_right ?_⟩
    rintro ⟨heq, -⟩
    obtain ⟨rfl, rfl⟩ := Prod.mk.inj heq
    exact h ⟨rfl, rfl⟩

theorem managed_addToBucket (m : NodeManager) (e : String) :
    (info.addToBucket mgr entity nodeName).Managed m e ↔ info.Managed m e := by
  unfold Managed addToBucket
  rw [entry_setEntry]
  split_ifs with h
  · rw [h.1, h.2]
  · rfl

theorem holds_markManaged (m : NodeManager) (e x : String) :
    (info.markManaged mgr entity).Holds m e x ↔ info.Holds m e x := by
  unfold Holds markManaged
  rw [entry_setEntry]
  split_ifs with h
  · rw [h.1, h.2]
  · rfl

theorem managed_markManaged (m : NodeManager) (e : String) :
    (info.markManaged mgr entity).Managed m e ↔ info.Managed m e ∨ (m, e) = (mgr, entity) := by
  unfold Managed markManaged
  rw [entry_setEntry]
  split_ifs with h
  · rw [h.1, h.2]
    simp
  · refine ⟨.inl, fun hx => hx.resolve_right ?_⟩
    rintro heq
    exact h ⟨congrArg (·.1) heq, congrArg (·.2) heq⟩

end ClusterInfo

/-! ## The passes -/

def fargateProfileLabel : String := "eks.amazonaws.com/fargate-profile"

def recordFargateProfile (out : Labels) (pod : Pod) : Labels :=
  if pod.nodeName = "" ∨ Annotations.get pod.labels fargateProfileLabel = "" then out
  else out.insert pod.nodeName (Annotations.get pod.labels fargateProfileLabel)

def fargateProfilesByNode : Program (Except ApiError Labels) := do
  match ← call .listFargatePods with
  | .error e => return .error (e.wrap "failed to list Fargate pods")
  | .ok pods => return .ok (pods.foldl recordFargateProfile ∅)

structure AsgCandidate where
  instanceID : String
  nodeName : String

def classifyNode (fargateProfileByNode : Labels) (acc : ClusterInfo × List AsgCandidate)
    (node : Node) : ClusterInfo × List AsgCandidate :=
  match classifyNodeByLabel node fargateProfileByNode with
  | some (mgr, entity) => (acc.1.addToBucket mgr entity node.name, acc.2)
  | none =>
    match extractEC2InstanceID node with
    | some id => (acc.1, acc.2 ++ [⟨id, node.name⟩])
    | none => (acc.1.addToBucket .unknown node.providerID node.name, acc.2)

def classifyByLabels (fargateProfileByNode : Labels) (info : ClusterInfo) :
    Program (Except ApiError (ClusterInfo × List AsgCandidate)) := do
  match ← call .listNodes with
  | .error e => return .error (e.wrap "failed to list nodes")
  | .ok nodes => return .ok (nodes.foldl (classifyNode fargateProfileByNode) (info, []))

def describeASGInstancesMaxIDs : Nat := 50

def recordInstance (byInstance : Labels) (ai : AutoScalingInstanceDetails) : Labels :=
  match ai.instanceId, ai.autoScalingGroupName with
  | some id, some name => byInstance.insert id name
  | _, _ => byInstance

/-- One call for each batch; the first error ends the loop. -/
def describeBatch (acc : Except ApiError Labels) (batch : List AsgCandidate) :
    Program (Except ApiError Labels) := do
  match acc with
  | .error e => return .error e
  | .ok byInstance =>
    match ← call (.describeAutoScalingInstances (batch.map AsgCandidate.instanceID)) with
    | .error e => return .error (e.wrap "failed to describe autoscaling instances")
    | .ok instances => return .ok (instances.foldl recordInstance byInstance)

def placeCandidate (byInstance : Labels) (info : ClusterInfo) (c : AsgCandidate) : ClusterInfo :=
  match nonEmpty byInstance c.instanceID with
  | some name => info.addToBucket .asg name c.nodeName
  | none => info.addToBucket .standalone "" c.nodeName

def resolveASGs (candidates : List AsgCandidate) (info : ClusterInfo) :
    Program (Except ApiError ClusterInfo) := do
  match ← (candidates.toChunks describeASGInstancesMaxIDs).foldlM describeBatch (.ok ∅) with
  | .error e => return .error e
  | .ok byInstance => return .ok (candidates.foldl (placeCandidate byInstance) info)

/-- Best effort: without the list nothing is marked. -/
def enrichKarpenterOwnership (info : ClusterInfo) : Program ClusterInfo := do
  match ← call .listDatadogNodePools with
  | .error _ => return info
  | .ok pools => return pools.foldl (fun info np => info.markManaged .karpenter np.name) info

def managedByTag : String := "managed-by"
def managedByTagValue : String := "kubectl-datadog"

def enrichFargateProfile (clusterName : String) (info : ClusterInfo) (entity : String) :
    Program ClusterInfo := do
  if entity = "" then return info
  match ← call (.describeFargateProfile clusterName entity) with
  | .error _ => return info
  | .ok none => return info
  | .ok (some tags) =>
    if Annotations.get tags managedByTag = managedByTagValue then
      return info.markManaged .fargate entity
    else return info

def enrichFargateOwnership (clusterName : String) (info : ClusterInfo) : Program ClusterInfo :=
  (info.nodeManagement .fargate).keys.sorted.foldlM (enrichFargateProfile clusterName) info

def detectClusterAutoscaler : Program (Except ApiError ClusterAutoscaler) := do
  match ← call .findClusterAutoscaler with
  | .error e => return .error e
  | .ok none => return .ok {}
  | .ok (some (namespace_, name)) => return .ok { present := true, namespace_, name }

/-- A failure counts as not enabled. -/
def detectEKSAutoMode : Program Bool := do
  match ← call .isEKSAutoModeEnabled with
  | .error _ => return false
  | .ok enabled => return enabled

def classify (clusterName : String) : Program (Except ApiError ClusterInfo) := do
  let _ ← call (.describeCluster clusterName)
  match ← fargateProfilesByNode with
  | .error e => return .error e
  | .ok fargateProfileByNode =>
    match ← classifyByLabels fargateProfileByNode {} with
    | .error e => return .error e
    | .ok (info, asgCandidates) =>
      match ← resolveASGs asgCandidates info with
      | .error e => return .error e
      | .ok info =>
        let info ← enrichKarpenterOwnership info
        let info ← enrichFargateOwnership clusterName info
        match ← detectClusterAutoscaler with
        | .error e => return .error (e.wrap "failed to detect cluster-autoscaler")
        | .ok clusterAutoscaler =>
          match ← call .findKarpenter with
          | .error e => return .error (e.wrap "failed to detect Karpenter")
          | .ok _ =>
            let eksAutoMode ← detectEKSAutoMode
            return .ok { info with clusterAutoscaler, eksAutoMode }

/-! ## Where a node is placed -/

def placeInstance (byInstance : Labels) (instanceID : String) : NodeManager × String :=
  match nonEmpty byInstance instanceID with
  | some name => (.asg, name)
  | none => (.standalone, "")

def place (fargateProfileByNode byInstance : Labels) (node : Node) : NodeManager × String :=
  match classifyNodeByLabel node fargateProfileByNode with
  | some p => p
  | none =>
    match extractEC2InstanceID node with
    | some id => placeInstance byInstance id
    | none => (.unknown, node.providerID)

section
variable (fargateProfileByNode byInstance : Labels) (mgr : NodeManager) (entity name : String)

/-- In a bucket, or still to be put there by the answers of AWS. -/
def Placed (acc : ClusterInfo × List AsgCandidate) : Prop :=
  acc.1.Holds mgr entity name ∨
    ∃ c ∈ acc.2, placeInstance byInstance c.instanceID = (mgr, entity) ∧ c.nodeName = name

theorem placed_classifyNode (acc : ClusterInfo × List AsgCandidate) (node : Node) :
    Placed byInstance mgr entity name (classifyNode fargateProfileByNode acc node) ↔
      Placed byInstance mgr entity name acc ∨
        place fargateProfileByNode byInstance node = (mgr, entity) ∧ node.name = name := by
  unfold Placed classifyNode place
  cases classifyNodeByLabel node fargateProfileByNode with
  | some p => simp only [ClusterInfo.holds_addToBucket, or_right_comm]
  | none =>
    cases extractEC2InstanceID node with
    | some id =>
      simp only [List.mem_append, List.mem_singleton, or_and_right, exists_or, exists_eq_left,
        or_assoc]
    | none => simp only [ClusterInfo.holds_addToBucket, or_right_comm]

theorem placed_foldl (nodes : List Node) (acc : ClusterInfo × List AsgCandidate) :
    Placed byInstance mgr entity name (nodes.foldl (classifyNode fargateProfileByNode) acc) ↔
      Placed byInstance mgr entity name acc ∨
        ∃ n ∈ nodes, place fargateProfileByNode byInstance n = (mgr, entity) ∧ n.name = name := by
  induction nodes generalizing acc with
  | nil => simp
  | cons n nodes ih =>
    rw [List.foldl_cons, ih, placed_classifyNode, or_assoc]
    simp only [List.mem_cons, or_and_right, exists_or, exists_eq_left]

theorem holds_placeCandidates (candidates : List AsgCandidate) (info : ClusterInfo) :
    (candidates.foldl (placeCandidate byInstance) info).Holds mgr entity name ↔
      Placed byInstance mgr entity name (info, candidates) := by
  induction candidates generalizing info with
  | nil => simp [Placed]
  | cons c candidates ih =>
    rw [List.foldl_cons, ih]
    unfold Placed placeCandidate
    simp only [List.mem_cons, or_and_right, exists_or, exists_eq_left]
    rw [← or_assoc]
    refine or_congr_left ?_
    unfold placeInstance
    cases nonEmpty byInstance c.instanceID with
    | some asg => exact ClusterInfo.holds_addToBucket ..
    | none => exact ClusterInfo.holds_addToBucket ..

theorem managed_classifyNodes (nodes : List Node) (acc : ClusterInfo × List AsgCandidate) :
    (nodes.foldl (classifyNode fargateProfileByNode) acc).1.Managed mgr entity ↔
      acc.1.Managed mgr entity := by
  induction nodes generalizing acc with
  | nil => rfl
  | cons n nodes ih =>
    rw [List.foldl_cons, ih]
    unfold classifyNode
    split
    · exact ClusterInfo.managed_addToBucket ..
    · split
      · rfl
      · exact ClusterInfo.managed_addToBucket ..

theorem managed_placeCandidates (candidates : List AsgCandidate) (info : ClusterInfo) :
    (candidates.foldl (placeCandidate byInstance) info).Managed mgr entity ↔
      info.Managed mgr entity := by
  induction candidates generalizing info with
  | nil => rfl
  | cons c candidates ih =>
    rw [List.foldl_cons, ih]
    unfold placeCandidate
    split <;> exact ClusterInfo.managed_addToBucket ..

end

/-! ## What a classification says of the cluster -/

def nodePoolDatadogCreatedLabel : String := "autoscaling.datadoghq.com/created"

def KarpenterNodePool.CreatedByDatadog (np : KarpenterNodePool) : Prop :=
  Annotations.get np.labels nodePoolDatadogCreatedLabel = "true"

instance (np : KarpenterNodePool) : Decidable np.CreatedByDatadog :=
  inferInstanceAs (Decidable (_ = _))

/-- The names of nodes are unique. -/
structure Cluster where
  nodes : List Node
  nodePools : List KarpenterNodePool
  names_nodup : (nodes.map Node.name).Nodup

/-- A list that is answered is that of the cluster. Everything else is open. -/
structure Observes (sv : Services) (c : Cluster) : Prop where
  nodes : ∀ log nodes, sv log .listNodes = .ok nodes → nodes = c.nodes
  nodePools : ∀ log pools, sv log .listDatadogNodePools = .ok pools →
    pools = c.nodePools.filter fun np => np.CreatedByDatadog

structure Classified (c : Cluster) (info : ClusterInfo) : Prop where
  holds : ∃ fargateProfileByNode byInstance, ∀ mgr entity name, info.Holds mgr entity name ↔
    ∃ n ∈ c.nodes, place fargateProfileByNode byInstance n = (mgr, entity) ∧ n.name = name
  managers : ∀ mgr entity, info.Managed mgr entity → mgr = .karpenter ∨ mgr = .fargate
  pools : ∀ entity, info.Managed .karpenter entity →
    ∀ np ∈ c.nodePools, np.CreatedByDatadog → info.Managed .karpenter np.name

section
variable {sv : Services} {c : Cluster} (ho : Observes sv c)
include ho

theorem classifyByLabels_returns (fargateProfileByNode : Labels) :
    Returns sv (classifyByLabels fargateProfileByNode {}) fun r => ∀ out, r = .ok out →
      out = c.nodes.foldl (classifyNode fargateProfileByNode) ({}, []) := by
  refine (Returns.call (A := fun r => ∀ nodes, r = .ok nodes → nodes = c.nodes) ho.nodes).bind
    fun answer hnodes => ?_
  cases answer with
  | error e => exact Returns.pure nofun
  | ok nodes =>
    refine Returns.pure fun out hout => ?_
    rw [← hnodes nodes rfl, ← Except.ok.inj hout]

omit ho in
theorem resolveASGs_returns (candidates : List AsgCandidate) (info : ClusterInfo) :
    Returns sv (resolveASGs candidates info) fun r => ∀ out, r = .ok out →
      ∃ byInstance, out = candidates.foldl (placeCandidate byInstance) info := by
  refine Returns.trivial.bind fun answer _ => ?_
  cases answer with
  | error e => exact .pure nofun
  | ok byInstance => exact .pure fun out hout => ⟨byInstance, (Except.ok.inj hout).symm⟩

/-- What the two marking passes leave as it is and what they mark. -/
structure Marks (before after : ClusterInfo) (marked : NodeManager → String → Prop) : Prop where
  holds : ∀ mgr entity name, after.Holds mgr entity name ↔ before.Holds mgr entity name
  managed : ∀ mgr entity, after.Managed mgr entity ↔ before.Managed mgr entity ∨ marked mgr entity

omit ho in
theorem marks_foldl (pools : List KarpenterNodePool) (info : ClusterInfo) :
    Marks info (pools.foldl (fun info np => info.markManaged .karpenter np.name) info)
      fun mgr entity => mgr = .karpenter ∧ ∃ np ∈ pools, np.name = entity := by
  induction pools generalizing info with
  | nil => exact ⟨fun _ _ _ => Iff.rfl, fun _ _ => by simp⟩
  | cons np pools ih =>
    obtain ⟨hholds, hmanaged⟩ := ih (info.markManaged .karpenter np.name)
    refine ⟨fun mgr entity name => ?_, fun mgr entity => ?_⟩
    · rw [List.foldl_cons, hholds, ClusterInfo.holds_markManaged]
    · rw [List.foldl_cons, hmanaged, ClusterInfo.managed_markManaged]
      simp only [Prod.mk.injEq, List.mem_cons, or_and_right, exists_or, exists_eq_left]
      tauto

theorem enrichKarpenterOwnership_returns (info : ClusterInfo) :
    Returns sv (enrichKarpenterOwnership info) fun out => out = info ∨
      Marks info out fun mgr entity => mgr = .karpenter ∧
        ∃ np ∈ c.nodePools, np.CreatedByDatadog ∧ np.name = entity := by
  refine (Returns.call (A := fun r => ∀ pools, r = .ok pools →
    pools = c.nodePools.filter fun np => np.CreatedByDatadog) ho.nodePools).bind
    fun answer hpools => ?_
  cases answer with
  | error e => exact Returns.pure (.inl rfl)
  | ok pools =>
    refine Returns.pure (.inr ?_)
    have hmarks := marks_foldl pools info
    rw [hpools pools rfl] at hmarks ⊢
    simpa only [List.mem_filter, decide_eq_true_eq, and_assoc] using hmarks

omit ho in
theorem enrichFargateProfile_returns (clusterName : String) (info : ClusterInfo) (entity : String) :
    Returns sv (enrichFargateProfile clusterName info entity) fun out =>
      out = info ∨ out = info.markManaged .fargate entity := by
  unfold enrichFargateProfile
  split
  · exact .pure (.inl rfl)
  · refine Returns.trivial.bind fun answer _ => ?_
    cases answer with
    | error e => exact .pure (.inl rfl)
    | ok profile =>
      cases profile with
      | none => exact .pure (.inl rfl)
      | some tags =>
        dsimp only
        split
        · exact .pure (.inr rfl)
        · exact .pure (.inl rfl)

omit ho in
theorem enrichFargateOwnership_returns (clusterName : String) (info : ClusterInfo) :
    Returns sv (enrichFargateOwnership clusterName info) fun out =>
      (∀ mgr entity name, out.Holds mgr entity name ↔ info.Holds mgr entity name) ∧
        ∀ mgr entity, mgr ≠ .fargate → (out.Managed mgr entity ↔ info.Managed mgr entity) := by
  refine .foldlM (I := fun _ (out : ClusterInfo) =>
      (∀ mgr entity name, out.Holds mgr entity name ↔ info.Holds mgr entity name) ∧
        ∀ mgr entity, mgr ≠ .fargate → (out.Managed mgr entity ↔ info.Managed mgr entity))
    ⟨fun _ _ _ => Iff.rfl, fun _ _ _ => Iff.rfl⟩ fun _ entity b hb => ?_
  refine (enrichFargateProfile_returns clusterName b entity).weaken ?_
  rintro out (rfl | rfl)
  · exact hb
  · refine ⟨fun mgr e name => ?_, fun mgr e hmgr => ?_⟩
    · rw [ClusterInfo.holds_markManaged, hb.1]
    · rw [ClusterInfo.managed_markManaged, hb.2 mgr e hmgr]
      simp [hmgr]

omit ho in
theorem classified_of_marked
    {marked final : ClusterInfo} {clusterAutoscaler : ClusterAutoscaler} {eksAutoMode : Bool} :
    let acc := c.nodes.foldl (classifyNode fargateProfileByNode) ({}, [])
    let info := acc.2.foldl (placeCandidate byInstance) acc.1
    (marked = info ∨ Marks info marked fun mgr entity => mgr = .karpenter ∧
      ∃ np ∈ c.nodePools, np.CreatedByDatadog ∧ np.name = entity) →
    ((∀ mgr entity name, final.Holds mgr entity name ↔ marked.Holds mgr entity name) ∧
      ∀ mgr entity, mgr ≠ .fargate → (final.Managed mgr entity ↔ marked.Managed mgr entity)) →
    Classified c { final with clusterAutoscaler, eksAutoMode } := by
  intro acc info hmarked ⟨hholds, hmanaged⟩
  have hplaced : ∀ mgr entity name, info.Holds mgr entity name ↔ ∃ n ∈ c.nodes,
      place fargateProfileByNode byInstance n = (mgr, entity) ∧ n.name = name := by
    intro mgr entity name
    rw [holds_placeCandidates, placed_foldl]
    simp [Placed, ClusterInfo.Holds, ClusterInfo.entry]
  have hnone : ∀ mgr entity, ¬info.Managed mgr entity := by
    intro mgr entity
    rw [managed_placeCandidates, managed_classifyNodes]
    simp [ClusterInfo.Managed, ClusterInfo.entry]
  rcases hmarked with rfl | hmarks
  · refine ⟨⟨fargateProfileByNode, byInstance, fun mgr entity name =>
      (hholds mgr entity name).trans (hplaced mgr entity name)⟩, fun mgr entity h => ?_, ?_⟩
    · by_contra hmgr
      rw [not_or] at hmgr
      exact hnone mgr entity ((hmanaged mgr entity hmgr.2).mp h)
    · intro entity h
      exact absurd ((hmanaged .karpenter entity nofun).mp h) (hnone _ _)
  · refine ⟨⟨fargateProfileByNode, byInstance, fun mgr entity name =>
      (hholds mgr entity name).trans ((hmarks.holds ..).trans (hplaced mgr entity name))⟩,
      fun mgr entity h => ?_, fun entity _ np hnp hcreated => ?_⟩
    · by_cases hmgr : mgr = .fargate
      · exact .inr hmgr
      · have h := (hmanaged mgr entity hmgr).mp h
        rw [hmarks.managed] at h
        exact .inl (h.resolve_left (hnone _ _)).1
    · refine (hmanaged .karpenter np.name nofun).mpr ?_
      rw [hmarks.managed]
      exact .inr ⟨rfl, np, hnp, hcreated, rfl⟩

theorem classify_returns (clusterName : String) :
    Returns sv (classify clusterName) fun r => ∀ info, r = .ok info → Classified c info := by
  refine Returns.trivial.bind fun _ _ => Returns.trivial.bind fun answer _ => ?_
  cases answer with
  | error e => exact .pure nofun
  | ok fargateProfileByNode => ?_
  refine (classifyByLabels_returns ho fargateProfileByNode).bind fun answer hlabels => ?_
  cases answer with
  | error e => exact .pure nofun
  | ok out => ?_
  obtain rfl := hlabels out rfl
  refine (resolveASGs_returns _ _).bind fun answer hasgs => ?_
  cases answer with
  | error e => exact .pure nofun
  | ok placed => ?_
  obtain ⟨byInstance, rfl⟩ := hasgs placed rfl
  refine (enrichKarpenterOwnership_returns ho _).bind fun marked hmarked => ?_
  refine (enrichFargateOwnership_returns clusterName marked).bind fun final hfinal => ?_
  refine Returns.trivial.bind fun answer _ => ?_
  cases answer with
  | error e => exact .pure nofun
  | ok clusterAutoscaler => ?_
  refine Returns.trivial.bind fun answer _ => ?_
  cases answer with
  | error e => exact .pure nofun
  | ok _ => ?_
  refine Returns.trivial.bind fun eksAutoMode _ => .pure fun info hinfo => ?_
  cases hinfo
  exact classified_of_marked hmarked hfinal

end

end DatadogOperator.Autoscaling
