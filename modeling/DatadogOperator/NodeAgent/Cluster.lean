import DatadogOperator.Lib.Interference
import DatadogOperator.Workloads.CreateOrUpdate

/-!
# The cluster of a node agent

The namespace of a DatadogAgentInternal: DaemonSets and ExtendedDaemonSets by name, the replica
sets of ExtendedDaemonSets, and pods. `perform` is a call of the operator and `interfere` what
Kubernetes and the controllers of the workloads do beside it. An object that is deleted with
orphan propagation stays, with a deletion timestamp, until the garbage collector has released
its dependents. The names of pods and replica sets are generated: they are numbers that are not
used again.
-/

namespace DatadogOperator.NodeAgent

open Profiles Dependencies Workloads Interference

def extendedDaemonSetNameLabelKey := "extendeddaemonset.datadoghq.com/name"

def daemonSetKind := "DaemonSet"

def extendedDaemonSetReplicaSetKind := "ExtendedDaemonSetReplicaSet"

/-- `noMatch` is for a kind that is not installed, `notRegistered` for one the client does not
know. -/
inductive ClientError
  | notFound
  | noMatch
  | notRegistered
  | other

def resourceIsAbsent : ClientError → Bool
  | .notFound | .noMatch | .notRegistered => true
  | .other => false

/-! ## Objects -/

structure UpdateStrategy where
  type : String := ""
  rollingUpdate : Option String := none

/-- A DaemonSet with its update strategy, which is not among the fields of the spec. -/
structure AgentDaemonSet extends Workload DaemonSetSpec where
  updateStrategy : UpdateStrategy := {}

structure Live (ω : Type) where
  object : ω
  ownerReferences : List OwnerReference := []
  uid : Nat
  deletionTimestamp : Bool := false

/-- `edsName` is the value of its name label, `template` the labels of its pods. -/
structure ReplicaSet where
  uid : Nat
  edsName : String
  template : Labels := ∅
  deletionTimestamp : Bool := false

def ReplicaSet.name (rs : ReplicaSet) : String := rs.edsName ++ "-" ++ toString rs.uid

structure ControllerRef where
  kind : String
  name : String
  uid : Nat
  deriving DecidableEq

/-- `daemonSets` are the names of the DaemonSets that have controlled the pod, which nothing
reads. -/
structure Pod where
  uid : Nat
  labels : Labels := ∅
  controller : Option ControllerRef := none
  deletionTimestamp : Bool := false
  daemonSets : List String := []

def Pod.hasEDSLabel (name : String) (p : Pod) : Bool :=
  p.labels.lookup extendedDaemonSetNameLabelKey == some name

def ControllerRef.isDaemonSet (name : String) (r : ControllerRef) : Bool :=
  r.kind == daemonSetKind && r.name == name

structure Cluster where
  daemonSets : String → Option (Live AgentDaemonSet) := fun _ => none
  extendedDaemonSets : String → Option (Live ExtendedDaemonSet) := fun _ => none
  replicaSets : List ReplicaSet := []
  pods : List Pod := []
  configMaps : String → Option String := fun _ => none
  /-- The kinds of ExtendedDaemonSets are installed. -/
  served : Bool := true
  nextUID : Nat := 0

/-! ## Calls -/

inductive Propagation
  | background
  | orphan

inductive Change
  | createDaemonSet (ddai : DDAI) (w : AgentDaemonSet)
  | updateDaemonSet (uid : Nat) (refs : List OwnerReference) (w : AgentDaemonSet)
  | patchDaemonSetOwners (name : String) (refs : List OwnerReference)
  | deleteDaemonSet (name : String) (propagation : Propagation)
  | createExtendedDaemonSet (ddai : DDAI) (w : ExtendedDaemonSet)
  | updateExtendedDaemonSet (uid : Nat) (refs : List OwnerReference) (w : ExtendedDaemonSet)
  | patchExtendedDaemonSetOwners (name : String) (refs : List OwnerReference)
  | deleteExtendedDaemonSet (name : String) (propagation : Propagation)
  | deleteReplicaSet (uid : Nat)
  | patchPod (uid : Nat) (patch : Labels)
  | deletePod (uid : Nat)

inductive Op
  | getDaemonSet (name : String)
  | getExtendedDaemonSet (name : String)
  | listReplicaSets (edsName : String)
  | listPods (selector : LabelSelector)
  | getConfigMap (name : String)
  | write (change : Change)

def Op.Result : Op → Type
  | .getDaemonSet _ => Live AgentDaemonSet
  | .getExtendedDaemonSet _ => Live ExtendedDaemonSet
  | .listReplicaSets _ => List ReplicaSet
  | .listPods _ => List Pod
  | .getConfigMap _ => String
  | .write _ => Unit

abbrev Op.Answer (op : Op) : Type := Except ClientError op.Result

def found {α : Type} : Option α → Except ClientError α
  | some a => .ok a
  | none => .error .notFound

namespace Cluster

def putDaemonSet (c : Cluster) (name : String) (d : Option (Live AgentDaemonSet)) : Cluster :=
  { c with daemonSets := Function.update c.daemonSets name d }

def putExtendedDaemonSet (c : Cluster) (name : String) (d : Option (Live ExtendedDaemonSet)) :
    Cluster :=
  { c with extendedDaemonSets := Function.update c.extendedDaemonSets name d }

def mapPod (c : Cluster) (uid : Nat) (f : Pod → Pod) : Cluster :=
  { c with pods := c.pods.map fun p => if p.uid = uid then f p else p }

def createDaemonSet (c : Cluster) (ddai : DDAI) (w : AgentDaemonSet) : Except ClientError Cluster :=
  if (c.daemonSets w.name).isSome ∨ daemonsetSchema.accepts none w.spec = false then .error .other
  else
    let live : Live AgentDaemonSet :=
      { object := w, ownerReferences := [ddai.newOwnerRef], uid := c.nextUID }
    .ok { c.putDaemonSet w.name (some live) with nextUID := c.nextUID + 1 }

/-- An update is made to the object that was read. -/
def updateDaemonSet (c : Cluster) (uid : Nat) (refs : List OwnerReference) (w : AgentDaemonSet) :
    Except ClientError Cluster := do
  let current ← found (c.daemonSets w.name)
  if current.uid ≠ uid ∨ daemonsetSchema.accepts (some current.object.spec) w.spec = false then
    .error .other
  else .ok (c.putDaemonSet w.name (some { current with object := w, ownerReferences := refs }))

def patchDaemonSetOwners (c : Cluster) (name : String) (refs : List OwnerReference) :
    Except ClientError Cluster := do
  let current ← found (c.daemonSets name)
  .ok (c.putDaemonSet name (some { current with ownerReferences := refs }))

def deleteDaemonSet (c : Cluster) (name : String) (propagation : Propagation) :
    Except ClientError Cluster := do
  let current ← found (c.daemonSets name)
  match propagation with
  | .background => .ok (c.putDaemonSet name none)
  | .orphan => .ok (c.putDaemonSet name (some { current with deletionTimestamp := true }))

/-- Calls for a kind that may not be installed. -/
def whenServed {α : Type} (c : Cluster) (x : Except ClientError α) : Except ClientError α :=
  if c.served then x else .error .noMatch

def createExtendedDaemonSet (c : Cluster) (ddai : DDAI) (w : ExtendedDaemonSet) :
    Except ClientError Cluster :=
  if (c.extendedDaemonSets w.name).isSome then .error .other
  else
    let live : Live ExtendedDaemonSet :=
      { object := w, ownerReferences := [ddai.newOwnerRef], uid := c.nextUID }
    .ok { c.putExtendedDaemonSet w.name (some live) with nextUID := c.nextUID + 1 }

def updateExtendedDaemonSet (c : Cluster) (uid : Nat) (refs : List OwnerReference)
    (w : ExtendedDaemonSet) : Except ClientError Cluster := do
  let current ← found (c.extendedDaemonSets w.name)
  if current.uid ≠ uid then .error .other
  else
    .ok (c.putExtendedDaemonSet w.name (some { current with object := w, ownerReferences := refs }))

def patchExtendedDaemonSetOwners (c : Cluster) (name : String) (refs : List OwnerReference) :
    Except ClientError Cluster := do
  let current ← found (c.extendedDaemonSets name)
  .ok (c.putExtendedDaemonSet name (some { current with ownerReferences := refs }))

def deleteExtendedDaemonSet (c : Cluster) (name : String) (propagation : Propagation) :
    Except ClientError Cluster := do
  let current ← found (c.extendedDaemonSets name)
  match propagation with
  | .background => .ok (c.putExtendedDaemonSet name none)
  | .orphan => .ok (c.putExtendedDaemonSet name (some { current with deletionTimestamp := true }))

def deleteReplicaSet (c : Cluster) (uid : Nat) : Except ClientError Cluster :=
  if c.replicaSets.any (·.uid == uid) then
    .ok { c with replicaSets := c.replicaSets.map fun rs =>
      if rs.uid = uid then { rs with deletionTimestamp := true } else rs }
  else .error .notFound

/-- A merge patch of the labels. -/
def patchPod (c : Cluster) (uid : Nat) (patch : Labels) : Except ClientError Cluster :=
  if c.pods.any (·.uid == uid) then
    .ok (c.mapPod uid fun p => { p with labels := patch ∪ p.labels })
  else .error .notFound

/-- The pod goes once its containers have stopped. -/
def deletePod (c : Cluster) (uid : Nat) : Except ClientError Cluster :=
  if c.pods.any (·.uid == uid) then .ok (c.mapPod uid fun p => { p with deletionTimestamp := true })
  else .error .notFound

def change (c : Cluster) : Change → Except ClientError Cluster
  | .createDaemonSet ddai w => c.createDaemonSet ddai w
  | .updateDaemonSet uid refs w => c.updateDaemonSet uid refs w
  | .patchDaemonSetOwners name refs => c.patchDaemonSetOwners name refs
  | .deleteDaemonSet name propagation => c.deleteDaemonSet name propagation
  | .createExtendedDaemonSet ddai w => c.whenServed (c.createExtendedDaemonSet ddai w)
  | .updateExtendedDaemonSet uid refs w => c.whenServed (c.updateExtendedDaemonSet uid refs w)
  | .patchExtendedDaemonSetOwners name refs =>
    c.whenServed (c.patchExtendedDaemonSetOwners name refs)
  | .deleteExtendedDaemonSet name propagation =>
    c.whenServed (c.deleteExtendedDaemonSet name propagation)
  | .deleteReplicaSet uid => c.whenServed (c.deleteReplicaSet uid)
  | .patchPod uid patch => c.patchPod uid patch
  | .deletePod uid => c.deletePod uid

def apply (c : Cluster) : (op : Op) → op.Answer × Cluster
  | .getDaemonSet name => (found (c.daemonSets name), c)
  | .getExtendedDaemonSet name => (c.whenServed (found (c.extendedDaemonSets name)), c)
  | .listReplicaSets edsName => (c.whenServed (.ok (c.replicaSets.filter (·.edsName == edsName))), c)
  | .listPods selector => (.ok (c.pods.filter (selector.selects ·.labels)), c)
  | .getConfigMap name => (found (c.configMaps name), c)
  | .write change =>
    match c.change change with
    | .ok c' => (.ok (), c')
    | .error e => (.error e, c)

end Cluster

/-- A call that fails may have been refused, or its answer may have been lost. -/
inductive Outcome
  | answered
  | refused
  | lost

def Cluster.perform (c : Cluster) (outcome : Outcome) (op : Op) : op.Answer × Cluster :=
  match outcome with
  | .answered => c.apply op
  | .refused => (.error .other, c)
  | .lost => (.error .other, (c.apply op).2)

/-! ## Kubernetes -/

/-- What happens beside the operator's calls: controllers make pods and replica sets of their
current template, the DaemonSet controller adopts pods, the garbage collector releases pods and
removes objects, and other workloads make pods. -/
inductive Env
  | daemonSetPod (extra : Labels)
  | adopt (pod : Nat)
  | replicaSet
  | replicaSetPod (rs : Nat) (extra : Labels)
  | foreignPod (labels : Labels) (controller : ControllerRef)
  | release (pod : Nat)
  | removePod (pod : Nat)
  | removeReplicaSet (rs : Nat)
  | removeDaemonSet
  | removeExtendedDaemonSet
  | configMap (name : String) (content : Option String)

/-- The pod has a controller, which is neither the DaemonSet of that name nor a replica set of
the ExtendedDaemonSet of that name. -/
def Pod.isOthers (name : String) (p : Pod) : Bool :=
  match p.controller with
  | none => false
  | some r =>
    !(r.isDaemonSet name || (r.kind == extendedDaemonSetReplicaSetKind && p.hasEDSLabel name))

def Cluster.addPod (c : Cluster) (p : Pod) : Cluster :=
  { c with pods := { p with uid := c.nextUID } :: c.pods, nextUID := c.nextUID + 1 }

def Live.ref (d : Live AgentDaemonSet) (name : String) : ControllerRef := ⟨daemonSetKind, name, d.uid⟩

def ReplicaSet.ref (rs : ReplicaSet) : ControllerRef :=
  ⟨extendedDaemonSetReplicaSetKind, rs.name, rs.uid⟩

/-- For the workloads of one name. -/
def Cluster.interfere (name : String) (c : Cluster) : Env → Cluster
  | .daemonSetPod extra =>
    match c.daemonSets name with
    | some d =>
      c.addPod
        { uid := 0, labels := d.object.spec.template.labels ∪ extra, controller := d.ref name,
          daemonSets := [name] }
    | none => c
  | .adopt pod =>
    match c.daemonSets name with
    | some d =>
      c.mapPod pod fun p =>
        if p.controller = none ∧ d.object.spec.selector.selects p.labels then
          { p with controller := d.ref name, daemonSets := name :: p.daemonSets }
        else p
    | none => c
  | .replicaSet =>
    match c.extendedDaemonSets name with
    | some d =>
      let rs : ReplicaSet :=
        { uid := c.nextUID, edsName := name, template := d.object.spec.template.labels }
      { c with replicaSets := rs :: c.replicaSets, nextUID := c.nextUID + 1 }
    | none => c
  | .replicaSetPod rs extra =>
    match c.replicaSets.find? fun r => r.uid == rs && r.edsName == name with
    | some r =>
      c.addPod
        { uid := 0, controller := r.ref,
          labels := (r.template ∪ extra).insert extendedDaemonSetNameLabelKey name }
    | none => c
  | .foreignPod labels controller =>
    let p : Pod := { uid := 0, labels, controller := some controller }
    if p.isOthers name then c.addPod p else c
  | .release pod =>
    c.mapPod pod fun p => if p.isOthers name then p else { p with controller := none }
  | .removePod pod => { c with pods := c.pods.filter (·.uid != pod) }
  | .removeReplicaSet rs => { c with replicaSets := c.replicaSets.filter (·.uid != rs) }
  | .removeDaemonSet =>
    if (c.daemonSets name).any (·.deletionTimestamp) then c.putDaemonSet name none else c
  | .removeExtendedDaemonSet =>
    if (c.extendedDaemonSets name).any (·.deletionTimestamp) then c.putExtendedDaemonSet name none
    else c
  | .configMap key content => { c with configMaps := Function.update c.configMaps key content }

def cluster (name : String) : Machine Cluster Op Op.Answer Env Outcome where
  interfere := Cluster.interfere name
  perform := Cluster.perform

end DatadogOperator.NodeAgent
