import DatadogOperator.Autoscaling.Plan

/-!
# Cordoning, draining and evicting

`cordon.go`, `evict_pods.go` and one file for each manager: nodes are cordoned,
then drained one after the other, and what ran on them is terminated or scaled
to zero.
-/

namespace DatadogOperator.Autoscaling

/-! ## Cordoning -/

/-- One attempt: `none` for a node that is gone. -/
def cordonAttempt (name : String) (dryRun : Bool) : Program (Except ApiError (Option Node)) := do
  match ← call (.getNode name) with
  | .error e =>
    if e.reason = .notFound then return .ok none
    else return .error (e.wrap ("failed to get node " ++ name))
  | .ok node =>
    if dryRun ∨ node.val.unschedulable then return .ok (some node.val)
    else
      match ← call (.updateNode { node.val with unschedulable := true }) with
      | .error e =>
        if e.reason = .notFound then return .ok none
        else return .error (e.wrap ("failed to update node " ++ name))
      | .ok node => return .ok (some node.val)

def cordonNode (name : String) (dryRun : Bool) : Program (Except ApiError (Option Node)) :=
  retryOnConflict none (cordonAttempt name dryRun)

def cordonNext (dryRun : Bool) (acc : List Node × List ApiError) (nodeName : String) :
    Program (List Node × List ApiError) := do
  match ← cordonNode nodeName dryRun with
  | .error e => return (acc.1, acc.2 ++ [e.wrap ("cordon node " ++ nodeName)])
  | .ok none => return acc
  | .ok (some node) => return (acc.1 ++ [node], acc.2)

def cordonNodes (nodes : List String) (dryRun : Bool) : Program (List Node × List ApiError) :=
  nodes.foldlM (cordonNext dryRun) ([], [])

/-! ## Draining -/

/-- Durations in nanoseconds. -/
structure NodeDrainOptions where
  dryRun : Bool := false
  evictionTimeout : Nat
  nodeTimeout : Nat
  pollInterval : Nat

def mirrorPodAnnotationKey : String := "kubernetes.io/config.mirror"

def isMirrorPod (p : Pod) : Bool := (p.annotations.lookup mirrorPodAnnotationKey).isSome

/-- The group of `schema.ParseGroupVersion`, empty where it fails. -/
def apiGroup (apiVersion : String) : String :=
  match apiVersion.toList.splitOn '/' with
  | [group, _] => String.ofList group
  | _ => ""

def isDaemonSetPod (p : Pod) : Bool :=
  match p.controller with
  | none => false
  | some ctrl => ctrl.kind = "DaemonSet" && apiGroup ctrl.apiVersion = "apps"

def isCompleted (p : Pod) : Bool := p.phase = .succeeded || p.phase = .failed

def podOccupiesNode (p : Pod) : Bool := !isMirrorPod p && !isDaemonSetPod p && !isCompleted p

def shouldSkipEviction (p : Pod) : Bool := p.terminating || !podOccupiesNode p

def evictPodWithRetry (p : Pod) (timeout retryInterval : Nat) : Program (Except ApiError Unit) := do
  let steps := if retryInterval > 0 then max 1 (timeout / retryInterval) else 1
  match ← onError (fun e => e.reason = .tooManyRequests) () (call (.evictPod p.namespace_ p.name))
      none steps with
  | .ok () => return .ok ()
  | .error e =>
    match e.reason with
    | .notFound => return .ok ()
    | .tooManyRequests => return .error (e.wrap "eviction timed out (likely PDB-blocked)")
    | _ => return .error (e.wrap "eviction failed")

def nodeIsEmpty (nodeName : String) : Program (Except ApiError Bool) := do
  match ← call (.listPodsOnNode nodeName) with
  | .error e => return .error (e.wrap ("failed to list pods on node " ++ nodeName))
  | .ok pods => return .ok (pods.all fun p => !podOccupiesNode p)

def waitForNodeEmpty (nodeName : String) (timeout pollInterval : Nat) :
    Program (Except ApiError Unit) :=
  pollUntil (nodeIsEmpty nodeName) (timeout / pollInterval + 1)

/-- A pod that cannot be evicted is only logged: the node does not get empty then. -/
def evictNext (opts : NodeDrainOptions) (_ : Unit) (p : Pod) : Program Unit := do
  if shouldSkipEviction p then return ()
  else
    let _ ← evictPodWithRetry p opts.evictionTimeout opts.pollInterval
    return ()

def drainNode (nodeName : String) (opts : NodeDrainOptions) : Program (Except ApiError Unit) := do
  if opts.dryRun then return .ok ()
  else
    match ← call (.listPodsOnNode nodeName) with
    | .error e => return .error (e.wrap ("failed to list pods on node " ++ nodeName))
    | .ok pods =>
      pods.foldlM (evictNext opts) ()
      waitForNodeEmpty nodeName opts.nodeTimeout opts.pollInterval

/-! ## One manager each -/

def drainNext (opts : NodeDrainOptions) (after : Node → Program (List ApiError))
    (errs : List ApiError) (node : Node) : Program (List ApiError) := do
  match ← drainNode node.name opts with
  | .error e => return errs ++ [e.wrap ("drain node " ++ node.name)]
  | .ok () =>
    let more ← after node
    return errs ++ more

/-- The loop of every evictor: what comes after the drain is left out where it failed. -/
def drainNodes (opts : NodeDrainOptions) (after : Node → Program (List ApiError))
    (cordoned : List Node) (errs : List ApiError) : Program (List ApiError) :=
  cordoned.foldlM (drainNext opts after) errs

def nothingMore (_ : Node) : Program (List ApiError) := pure []

def prepareASGForTermination (asgName : String) : Program (Except ApiError Unit) := do
  match ← call (.suspendProcesses asgName ["AZRebalance"]) with
  | .error e => return .error (e.wrap "suspend AZRebalance")
  | .ok () =>
    match ← call (.updateAutoScalingGroup asgName (some 0) none none) with
    | .error e => return .error (e.wrap "set MinSize=0")
    | .ok () => return .ok ()

/-- An instance without an ID is left to the final scaling. -/
def terminateASGInstance (asgName : String) (opts : NodeDrainOptions) (node : Node) :
    Program (List ApiError) := do
  match extractEC2InstanceID node with
  | none => return []
  | some id =>
    if opts.dryRun then return []
    else
      match ← call (.terminateInstanceInAutoScalingGroup id true) with
      | .error e => return [e.wrap ("terminate instance " ++ id ++ " in ASG " ++ asgName)]
      | .ok () => return []

def scaleASGToZero (asgName : String) : Program (Except ApiError Unit) := do
  match ← call (.updateAutoScalingGroup asgName (some 0) (some 0) (some 0)) with
  | .error e => return joinErrors [e.wrap ("scale ASG " ++ asgName ++ " to 0")]
  | .ok () => return .ok ()

def drainASG (asgName : String) (nodes : List String) (opts : NodeDrainOptions) :
    Program (Except ApiError Unit) := do
  let (cordoned, errs) ← cordonNodes nodes opts.dryRun
  let errs ← drainNodes opts (terminateASGInstance asgName opts) cordoned errs
  if errs ≠ [] then return joinErrors errs
  else if opts.dryRun then return .ok ()
  else scaleASGToZero asgName

def evictASG (asgName : String) (nodes : List String) (opts : NodeDrainOptions) :
    Program (Except ApiError Unit) := do
  if opts.dryRun then drainASG asgName nodes opts
  else
    match ← prepareASGForTermination asgName with
    | .error e => return .error (e.wrap ("prepare ASG " ++ asgName ++ " for termination"))
    | .ok () => drainASG asgName nodes opts

def terminateStandalone (opts : NodeDrainOptions) (node : Node) : Program (List ApiError) := do
  match extractEC2InstanceID node with
  | none => return []
  | some id =>
    if opts.dryRun then return []
    else
      match ← call (.terminateInstances [id]) with
      | .error e => return [e.wrap ("terminate instance " ++ id)]
      | .ok () => return []

def evictStandalone (nodes : List String) (opts : NodeDrainOptions) :
    Program (Except ApiError Unit) := do
  let (cordoned, errs) ← cordonNodes nodes opts.dryRun
  let errs ← drainNodes opts (terminateStandalone opts) cordoned errs
  return joinErrors errs

def nodegroupIsEmpty (clusterName nodegroupName : String) : Program (Except ApiError Bool) := do
  match ← call (.listNodesOfNodegroup nodegroupName) with
  | .error e =>
    return .error (e.wrap ("list EKS managed node group " ++ clusterName ++ "/" ++ nodegroupName ++
      " nodes"))
  | .ok nodes => return .ok nodes.isEmpty

/-- The text of the error leaves out how many nodes are still there. -/
def waitEKSNodegroupEmpty (clusterName nodegroupName : String) (timeout pollInterval : Nat) :
    Program (Except ApiError Unit) := do
  match ← pollUntil (nodegroupIsEmpty clusterName nodegroupName) (timeout / pollInterval + 1) with
  | .error e =>
    return .error (e.wrap ("EKS node group " ++ clusterName ++ "/" ++ nodegroupName ++
      " drain incomplete"))
  | .ok () => return .ok ()

def evictEKSManagedNodeGroup (clusterName nodegroupName : String) (nodes : List String)
    (opts : NodeDrainOptions) : Program (Except ApiError Unit) := do
  let (cordoned, errs) ← cordonNodes nodes opts.dryRun
  let errs ← drainNodes opts nothingMore cordoned errs
  if errs ≠ [] then
    return (joinErrors errs).mapError
      (·.wrap ("EKS node group " ++ clusterName ++ "/" ++ nodegroupName ++ " drain incomplete"))
  else if opts.dryRun then return .ok ()
  else
    match ← call (.updateNodegroupConfig clusterName nodegroupName (some 0) (some 0)) with
    | .error e => return .error (e.wrap "UpdateNodegroupConfig")
    | .ok () =>
      waitEKSNodegroupEmpty clusterName nodegroupName opts.nodeTimeout opts.pollInterval

def evictKarpenterUserNodePool (nodes : List String) (opts : NodeDrainOptions) :
    Program (Except ApiError Unit) := do
  let (cordoned, errs) ← cordonNodes nodes opts.dryRun
  let errs ← drainNodes opts nothingMore cordoned errs
  return joinErrors errs

/-! ## Targets -/

def evictTarget (clusterName : String) (opts : NodeDrainOptions) (t : Target) :
    Program (Except ApiError Unit) :=
  match t.manager with
  | .asg => evictASG t.entity t.nodes opts
  | .eksManagedNodeGroup => evictEKSManagedNodeGroup clusterName t.entity t.nodes opts
  | .karpenter => evictKarpenterUserNodePool t.nodes opts
  | .standalone => evictStandalone t.nodes opts
  | .fargate | .unknown =>
    pure (.error (failure ("unsupported manager \"" ++ t.manager.text ++ "\"")))

def evictNextTarget (clusterName : String) (opts : NodeDrainOptions) (errs : List ApiError)
    (t : Target) : Program (List ApiError) := do
  match ← evictTarget clusterName opts t with
  | .error e => return errs ++ [e.wrap t.text]
  | .ok () => return errs

/-- A failing target does not stop the others. -/
def evictAllTargets (clusterName : String) (opts : NodeDrainOptions) (targets : List Target) :
    Program (List ApiError) :=
  targets.foldlM (evictNextTarget clusterName opts) []

end DatadogOperator.Autoscaling
