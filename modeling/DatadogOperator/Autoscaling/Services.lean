import DatadogOperator.Lib.Calls
import DatadogOperator.Lib.Upsert
import DatadogOperator.Profiles.Selector
import DatadogOperator.Snapshot
import Mathlib.Data.String.Basic

/-!
# What the eviction of legacy nodes calls

The objects that `kubectl datadog autoscaling cluster evict-legacy-nodes` reads
and every operation it calls: of the Kubernetes API, of AWS, of the user, of the
clock and of Go's maps, whose order is not known. A `Get` or an `Update` answers
with the object it was asked for, which the types of the answers say.
-/

namespace DatadogOperator.Autoscaling

open Profiles (Labels Operator Requirement RequirementError newRequirement)

/-! ## Errors -/

/-- The errors that the code tells apart. One that `wait.Interrupted` finds comes from a context
that was cancelled or has passed its deadline. -/
inductive Reason
  | notFound
  | conflict
  | tooManyRequests
  | noMatch
  | interrupted
  | other
  deriving DecidableEq

structure ApiError where
  reason : Reason
  message : String

/-- `errors.New`. -/
def failure (message : String) : ApiError := ⟨.other, message⟩

/-- `fmt.Errorf` with `%w`: the reason is still found. -/
def ApiError.wrap (context : String) (e : ApiError) : ApiError :=
  { e with message := context ++ ": " ++ e.message }

/-- `errors.Join`. -/
def joinErrors : List ApiError → Except ApiError Unit
  | [] => .ok ()
  | errs => .error (failure ("\n".intercalate (errs.map ApiError.message)))

@[simp] theorem joinErrors_eq_ok : joinErrors errs = .ok () ↔ errs = [] := by
  cases errs <;> simp [joinErrors]

/-! ## Kubernetes objects -/

structure Node where
  name : String
  labels : Labels := ∅
  providerID : String := ""
  unschedulable : Bool := false

/-- The owner that `metav1.GetControllerOf` finds. -/
structure OwnerReference where
  apiVersion : String := "apps/v1"
  kind : String
  name : String

inductive PodPhase
  | pending
  | running
  | succeeded
  | failed
  | unknown
  deriving DecidableEq

structure Pod where
  namespace_ : String := "default"
  name : String
  labels : Labels := ∅
  annotations : Annotations := ∅
  controller : Option OwnerReference := none
  phase : PodPhase := .running
  /-- A deletion timestamp is set. -/
  terminating : Bool := false
  nodeName : String := ""

inductive LabelSelectorOperator
  | opIn
  | opNotIn
  | opExists
  | opDoesNotExist
  | unknown (text : String)
  deriving DecidableEq

def LabelSelectorOperator.selectionOperator : LabelSelectorOperator → Option Operator
  | .opIn => some .opIn
  | .opNotIn => some .opNotIn
  | .opExists => some .opExists
  | .opDoesNotExist => some .opDoesNotExist
  | .unknown _ => none

structure LabelSelectorRequirement where
  key : String
  operator : LabelSelectorOperator
  values : List String := []
  deriving DecidableEq

structure LabelSelector where
  matchLabels : Labels := ∅
  matchExpressions : List LabelSelectorRequirement := []
  deriving DecidableEq

def LabelSelector.requirements (s : LabelSelector) :
    Except (List RequirementError) (List Requirement) := do
  let equal ← s.matchLabels.keys.sorted.mapM fun key =>
    newRequirement key (some .opIn) [Annotations.get s.matchLabels key]
  let expressions ← s.matchExpressions.mapM fun expr =>
    newRequirement expr.key expr.operator.selectionOperator expr.values
  return equal ++ expressions

/-- `metav1.LabelSelectorAsSelector` and `Matches`: a nil selector and an invalid
one select nothing, an empty one everything. -/
def selects (selector : Option LabelSelector) (labels : Labels) : Bool :=
  match selector with
  | none => false
  | some s =>
    match s.requirements with
    | .error _ => false
    | .ok requirements => requirements.all (·.matches labels)

/-- Of a `ReplicaSet`, a `Deployment` or a `StatefulSet`, what is read. -/
structure Controller where
  controller : Option OwnerReference := none
  selector : Option LabelSelector := none

structure PodDisruptionBudget where
  namespace_ : String
  name : String
  labels : Labels := ∅
  selector : Option LabelSelector := none
  maxUnavailable : Option Nat := none

structure KarpenterNodePool where
  name : String
  labels : Labels := ∅
  name_ne_empty : name ≠ ""

/-! ## The cluster snapshot -/

inductive NodeManager
  | fargate
  | karpenter
  | eksManagedNodeGroup
  | asg
  | standalone
  | unknown
  deriving DecidableEq

def NodeManager.text : NodeManager → String
  | .fargate => "fargate"
  | .karpenter => "karpenter"
  | .eksManagedNodeGroup => "eksManagedNodeGroup"
  | .asg => "asg"
  | .standalone => "standalone"
  | .unknown => "unknown"

structure NodeManagerEntry where
  nodes : List String := []
  managedByDatadog : Bool := false

abbrev Entries := Finmap fun _ : String => NodeManagerEntry

structure ClusterAutoscaler where
  present : Bool := false
  namespace_ : String := ""
  name : String := ""

structure ClusterInfo where
  /-- A manager without entries has no bucket. -/
  nodeManagement : NodeManager → Entries := fun _ => ∅
  clusterAutoscaler : ClusterAutoscaler := {}
  eksAutoMode : Bool := false

/-! ## Operations -/

structure AutoScalingInstanceDetails where
  instanceId : Option String
  autoScalingGroupName : Option String

/-- Replicas wanted and replicas there. -/
structure Scale where
  spec : Int
  status : Int

inductive ControllerKind
  | deployment
  | statefulSet
  | replicaSet
  deriving DecidableEq

def ControllerKind.text : ControllerKind → String
  | .deployment => "Deployment"
  | .statefulSet => "StatefulSet"
  | .replicaSet => "ReplicaSet"

structure ControllerKey where
  namespace_ : String
  kind : ControllerKind
  name : String
  deriving DecidableEq

/-- A controller, its selector and the labels of one of its pods. -/
structure ControllerInfo where
  key : ControllerKey
  selector : Option LabelSelector
  podLabels : Labels := ∅
  deriving DecidableEq

inductive Op
  | buildClients
  | validateAWSAccountConsistency (clusterName : String)
  | findKarpenter
  | findClusterAutoscaler
  | isEKSAutoModeEnabled
  | describeCluster (clusterName : String)
  | describeFargateProfile (clusterName profile : String)
  | describeAutoScalingInstances (instanceIDs : List String)
  | listFargatePods
  | listNodes
  | listNodesOfNodegroup (nodegroupName : String)
  | listDatadogNodePools
  | listNodePools
  | listPods
  | listPodsOnNode (nodeName : String)
  | getNode (name : String)
  | getScale (namespace_ name : String)
  | getReplicaSet (namespace_ name : String)
  | getDeployment (namespace_ name : String)
  | getStatefulSet (namespace_ name : String)
  | listNamespacePDBs (namespace_ : String)
  | listTempPDBs
  | getPDB (namespace_ name : String)
  | promptConfirmation
  | deadlinePassed
  | namespaceOrder (namespaces : List String)
  | controllerOrder (controllers : List ControllerInfo)
  | persist (namespace_ : String) (info : ClusterInfo)
  | updateNode (node : Node)
  | evictPod (namespace_ name : String)
  | updateScale (namespace_ name : String) (replicas : Int)
  | createPDB (pdb : PodDisruptionBudget)
  | deletePDB (pdb : PodDisruptionBudget)
  | suspendProcesses (asgName : String) (processes : List String)
  | updateAutoScalingGroup (asgName : String) (minSize maxSize desiredCapacity : Option Nat)
  | terminateInstanceInAutoScalingGroup (instanceID : String) (decrementDesired : Bool)
  | terminateInstances (instanceIDs : List String)
  | updateNodegroupConfig (clusterName nodegroupName : String) (minSize desiredSize : Option Nat)

/-- The operations that change Kubernetes or AWS. -/
def Op.mutating : Op → Bool
  | .persist .. | .updateNode .. | .evictPod .. | .updateScale .. | .createPDB .. | .deletePDB ..
  | .suspendProcesses .. | .updateAutoScalingGroup .. | .terminateInstanceInAutoScalingGroup ..
  | .terminateInstances .. | .updateNodegroupConfig .. => true
  | _ => false

def Op.Answer : Op → Type
  | .promptConfirmation | .deadlinePassed => Bool
  | .namespaceOrder namespaces => { order : List String // order.Perm namespaces }
  | .controllerOrder controllers => { order : List ControllerInfo // order.Perm controllers }
  | .findKarpenter => Except ApiError (Option String)
  | .findClusterAutoscaler => Except ApiError (Option (String × String))
  | .isEKSAutoModeEnabled => Except ApiError Bool
  | .describeFargateProfile .. => Except ApiError (Option Labels)
  | .describeAutoScalingInstances _ => Except ApiError (List AutoScalingInstanceDetails)
  | .listFargatePods | .listPods | .listPodsOnNode _ => Except ApiError (List Pod)
  | .listNodes | .listNodesOfNodegroup _ => Except ApiError (List Node)
  | .listDatadogNodePools | .listNodePools => Except ApiError (List KarpenterNodePool)
  | .getNode name => Except ApiError { node : Node // node.name = name }
  | .updateNode sent => Except ApiError { node : Node //
      node.name = sent.name ∧ node.unschedulable = sent.unschedulable }
  | .getScale .. => Except ApiError Scale
  | .getReplicaSet .. | .getDeployment .. | .getStatefulSet .. => Except ApiError Controller
  | .listNamespacePDBs _ | .listTempPDBs => Except ApiError (List PodDisruptionBudget)
  | .getPDB .. => Except ApiError PodDisruptionBudget
  | _ => Except ApiError Unit

/-- Services that are down, and a user who says no. -/
def Op.unavailable : (op : Op) → op.Answer
  | .promptConfirmation => false
  | .deadlinePassed => true
  | .namespaceOrder namespaces => ⟨namespaces, .refl _⟩
  | .controllerOrder controllers => ⟨controllers, .refl _⟩
  | .findKarpenter | .findClusterAutoscaler | .isEKSAutoModeEnabled | .describeFargateProfile ..
  | .describeAutoScalingInstances _ | .listFargatePods | .listPods | .listPodsOnNode _ | .listNodes
  | .listNodesOfNodegroup _ | .listDatadogNodePools | .listNodePools | .getNode _ | .updateNode _
  | .getScale .. | .getReplicaSet .. | .getDeployment .. | .getStatefulSet ..
  | .listNamespacePDBs _ | .listTempPDBs | .getPDB .. | .buildClients
  | .validateAWSAccountConsistency _ | .describeCluster _ | .persist .. | .evictPod ..
  | .updateScale .. | .createPDB _ | .deletePDB _ | .suspendProcesses ..
  | .updateAutoScalingGroup .. | .terminateInstanceInAutoScalingGroup .. | .terminateInstances _
  | .updateNodegroupConfig .. => .error (failure "service unavailable")

abbrev Log := Calls.Log Op Op.Answer
abbrev Services := Calls.Services Op Op.Answer
abbrev Program := Calls.Prog Op Op.Answer

def call (op : Op) : Program op.Answer := Calls.call op

/-! ## Waiting -/

/-- `retry.OnError` of client-go. When the steps run out or an attempt is interrupted, the last
retriable error is returned, and without one no error, with what no attempt has set. -/
def onError (retriable : ApiError → Bool) (unset : α) (fn : Program (Except ApiError α)) :
    Option ApiError → Nat → Program (Except ApiError α)
  | lastErr, 0 => pure (lastErr.elim (.ok unset) .error)
  | lastErr, steps + 1 => do
    match ← fn with
    | .ok a => return .ok a
    | .error e =>
      if retriable e then onError retriable unset fn (some e) steps
      else if e.reason = .interrupted then return lastErr.elim (.ok unset) .error
      else return .error e

/-- `retry.RetryOnConflict` with `retry.DefaultRetry`. -/
def retryOnConflict (unset : α) (fn : Program (Except ApiError α)) : Program (Except ApiError α) :=
  onError (fun e => e.reason = .conflict) unset fn none 5

/-- `wait.PollUntilContextTimeout` with a first check at once. There are no more
checks than intervals in the timeout, and the deadline may come before. -/
def pollUntil (condition : Program (Except ApiError Bool)) : Nat → Program (Except ApiError Unit)
  | 0 => pure (.error (failure "context deadline exceeded"))
  | checks + 1 => do
    match ← condition with
    | .error e => return .error e
    | .ok true => return .ok ()
    | .ok false =>
      match ← call .deadlinePassed with
      | true => return .error (failure "context deadline exceeded")
      | false => pollUntil condition checks

section
open Calls
variable {α : Type} {sv : Services}

theorem onError_only {unset : α} (hfn : Only sv K fn) (lastErr : Option ApiError) (steps : Nat) :
    Only sv K (onError retriable unset fn lastErr steps) := by
  induction steps generalizing lastErr with
  | zero => exact .pure
  | succ steps ih =>
    refine hfn.bind fun r => ?_
    cases r with
    | ok a => exact .pure
    | error e =>
      dsimp only
      split_ifs
      · exact ih _
      · exact .pure
      · exact .pure

theorem onError_triple {fn : Program (Except ApiError α)} {unset : α}
    {Q : Except ApiError α → Log → Prop}
    (hfn : Triple sv (fun _ => True) fn fun r log =>
      Q r log ∧ ∀ e, r = .error e → e.reason = .interrupted → Q (.ok unset) log)
    (herror : ∀ e log, Q (.error e) log) (lastErr : Option ApiError) (steps : Nat)
    (hsteps : steps = 0 → lastErr.isSome) :
    Triple sv (fun _ => True) (onError retriable unset fn lastErr steps) Q := by
  induction steps generalizing lastErr with
  | zero =>
    obtain ⟨e, rfl⟩ := Option.isSome_iff_exists.mp (hsteps rfl)
    exact .pure fun log _ => herror e log
  | succ steps ih =>
    refine hfn.bind fun r => ?_
    cases r with
    | ok a => exact .pure fun _ h => h.1
    | error e =>
      dsimp only
      split_ifs with _ hinterrupted
      · exact (ih (some e) fun _ => rfl).weaken (fun _ _ => trivial) fun _ _ h => h
      · refine .pure fun log h => ?_
        cases lastErr with
        | none => exact h.2 e rfl hinterrupted
        | some last => exact herror last log
      · exact .pure fun _ h => h.1

theorem pollUntil_only (hc : Only sv K condition) (hdeadline : K .deadlinePassed) (checks : Nat) :
    Only sv K (pollUntil condition checks) := by
  induction checks with
  | zero => exact Only.pure
  | succ checks ih =>
    refine hc.bind fun r => ?_
    cases r with
    | error e => exact Only.pure
    | ok done =>
      cases done with
      | true => exact Only.pure
      | false =>
        refine (Only.call hdeadline).bind fun passed => ?_
        cases passed with
        | true => exact Only.pure
        | false => exact ih

theorem pollUntil_triple {D : Log → Prop}
    (hc : Triple sv (fun _ => True) condition fun r log => r = .ok true → D log) (checks : Nat) :
    Triple sv (fun _ => True) (pollUntil condition checks) fun r log => r = .ok () → D log := by
  induction checks with
  | zero => exact .pure fun _ _ h => nomatch h
  | succ checks ih =>
    refine hc.bind fun r => ?_
    cases r with
    | error e => exact .pure fun _ _ h => nomatch h
    | ok done =>
      cases done with
      | true => exact .pure fun _ h _ => h rfl
      | false =>
        refine Triple.call.bind fun passed => ?_
        cases passed with
        | true => exact .pure fun _ _ h => nomatch h
        | false => exact ih.weaken (fun _ _ => trivial) fun _ _ h => h

end

end DatadogOperator.Autoscaling
