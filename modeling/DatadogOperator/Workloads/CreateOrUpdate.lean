import DatadogOperator.Workloads.Objects

/-!
# Creating and updating workloads

`createOrUpdateDeployment`, `createOrUpdateDaemonset` and `createOrUpdateExtendedDaemonset` of
`datadogagentinternal/reconcile_common.go`, against an API server that keeps objects by name.
The server rejects a Deployment or DaemonSet whose selector does not select its own pods, and a
new selector for a stored one. Objects are deleted at once: the garbage collector, which
orphans the pods first, is part of a delete.
-/

namespace DatadogOperator.Workloads

open Profiles Dependencies

variable {σ : Type}

/-! ## The API server -/

/-- A workload on the server. `applied` is the spec of the last write as it was wanted: the
server fills in replicas, and an autoscaler changes them. -/
structure Stored (σ : Type) where
  object : Workload σ
  ownerReferences : List OwnerReference
  uid : Nat
  applied : σ

structure Server (σ : Type) where
  objects : NamespacedName → Option (Stored σ) := fun _ => none
  nextUID : Nat := 0

/-- Which specs are accepted, in place of a stored one or as new ones, and what becomes of
them. -/
structure Schema (σ : Type) where
  accepts : Option σ → σ → Bool
  defaults : σ → σ := id

def acceptsSelector (current : Option LabelSelector) (selector : LabelSelector)
    (podLabels : Labels) : Bool :=
  selector != {} && selector.selects podLabels && current.all (· == selector)

def deploymentSchema : Schema DeploymentSpec where
  accepts current spec :=
    acceptsSelector (current.map (·.selector)) spec.selector spec.template.labels
  defaults spec := { spec with replicas := some (spec.replicas.getD 1) }

def daemonsetSchema : Schema DaemonSetSpec where
  accepts current spec :=
    acceptsSelector (current.map (·.selector)) spec.selector spec.template.labels

def extendedDaemonsetSchema : Schema ExtendedDaemonSetSpec where
  accepts _ _ := true

def Server.put (s : Server σ) (key : NamespacedName) (o : Option (Stored σ)) : Server σ :=
  { s with objects := Function.update s.objects key o }

def Stored.new (schema : Schema σ) (ddai : DDAI) (w : Workload σ) (uid : Nat) (applied : σ) :
    Stored σ where
  object := { w with spec := schema.defaults w.spec }
  ownerReferences := [ddai.newOwnerRef]
  uid := uid
  applied := applied

def Server.create (s : Server σ) (schema : Schema σ) (ddai : DDAI) (w : Workload σ) :
    Except ApiError (Server σ) :=
  if schema.accepts none w.spec then
    .ok { s.put w.key (some (.new schema ddai w s.nextUID w.spec)) with nextUID := s.nextUID + 1 }
  else .error .other

def Server.update (s : Server σ) (schema : Schema σ) (ddai : DDAI) (current : Stored σ)
    (w : Workload σ) (applied : σ) : Except ApiError (Server σ) :=
  if schema.accepts (some current.object.spec) w.spec then
    .ok (s.put w.key (some (.new schema ddai w current.uid applied)))
  else .error .other

def hasLabels (selector : List (String × String)) (labels : Labels) : Bool :=
  selector.all fun (key, value) => labels.lookup key == some value

def Server.deleteAllOf (s : Server σ) (ns : String) (selector : List (String × String)) : Server σ :=
  { s with objects := fun key => (s.objects key).filter fun o =>
      !(key.ns == ns && hasLabels selector o.object.labels) }

def Server.modify (s : Server σ) (key : NamespacedName) (f : Stored σ → Stored σ) : Server σ :=
  s.put key ((s.objects key).map f)

/-! ## Parts of a call -/

/-- The errors of the calls to the API server. -/
structure Calls where
  get : Option ApiError := none
  patch : Option ApiError := none
  delete : Option ApiError := none
  write : Option ApiError := none

structure Call where
  ddai : DDAI
  supportsAppArmorProfile : Bool := true
  calls : Calls := {}

inductive Write
  | create
  | update
  | patch
  | delete

/-- What `updateStatusFunc` is called with. -/
structure Report where
  status : Bool
  reason : String
  message : String

structure Result (σ : Type) where
  server : Server σ
  log : List Write := []
  err : Option ApiError := none
  report : Option Report := none

def updateSucceeded := "UpdateSucceeded"
def createSucceeded := "CreateSucceeded"
def patchSucceeded := "PatchSucceeded"

def attempt {α : Type} (failure : Option ApiError) (x : Except ApiError α) : Except ApiError α :=
  match failure with
  | some e => .error e
  | none => x

structure Texts where
  kind : String
  patchReason : String := patchSucceeded

def deploymentTexts : Texts where
  kind := "Deployment"

def daemonsetTexts : Texts where
  kind := "Daemonset"
  patchReason := updateSucceeded

def extendedDaemonsetTexts : Texts where
  kind := "ExtendedDaemonSet"

def createWorkload (schema : Schema σ) (texts : Texts) (call : Call) (w : Workload σ)
    (s : Server σ) : Result σ :=
  match attempt call.calls.write (s.create schema call.ddai w) with
  | .error e =>
    { server := s, err := some e,
      report := some ⟨false, createSucceeded, "Unable to create " ++ texts.kind⟩ }
  | .ok s =>
    { server := s, log := [.create],
      report := some ⟨true, createSucceeded, texts.kind ++ " created"⟩ }

def updateWorkload (schema : Schema σ) (texts : Texts) (call : Call) (current : Stored σ)
    (w : Workload σ) (applied : σ) (s : Server σ) (log : List Write) : Result σ :=
  match attempt call.calls.write (s.update schema call.ddai current w applied) with
  | .error e =>
    { server := s, log, err := some e,
      report := some ⟨false, updateSucceeded, "Unable to update " ++ texts.kind⟩ }
  | .ok s =>
    { server := s, log := log ++ [.update],
      report := some ⟨true, updateSucceeded, texts.kind ++ " updated"⟩ }

/-- The owner reference is patched where it needs to be, and the call goes on with the patched
object. -/
def patchingOwner (texts : Texts) (call : Call) (key : NamespacedName) (current : Stored σ)
    (s : Server σ) (next : Server σ → Stored σ → List Write → Result σ) : Result σ :=
  if shouldUpdateOwnerReference current.ownerReferences then
    match call.calls.patch with
    | some e =>
      { server := s, err := some e,
        report := some ⟨false, texts.patchReason,
          "Unable to patch " ++ texts.kind ++ " owner reference"⟩ }
    | none =>
      let current := { current with
        ownerReferences := createOwnerReferencePatch current.ownerReferences call.ddai }
      next (s.put key (some current)) current [.patch]
  else next s current []

/-- A delete that finds nothing is no error. -/
def deleting (call : Call) (deleted s : Server σ) (log : List Write) : Result σ :=
  match call.calls.delete with
  | none => { server := deleted, log := log ++ [.delete] }
  | some .notFound => { server := s, log }
  | some e => { server := s, log, err := some e }

/-! ## Deployments -/

/-- The hash of a spec, and of the labels of a pod template. -/
structure Hashes where
  deployment : DeploymentSpec → String
  daemonset : DaemonSetSpec → String
  extendedDaemonset : ExtendedDaemonSetSpec → String
  labels : Labels → String

def agentDeploymentComponentLabelKey := "agent.datadoghq.com/component"

def oldProfileLabelKey := "agent.datadoghq.com/profile"

/-- The part-of and component labels of a Deployment. -/
def workloadSelector (labels : Labels) : List (String × String) :=
  [(appKubernetesPartOfLabelKey, Annotations.get labels appKubernetesPartOfLabelKey),
    (agentDeploymentComponentLabelKey, Annotations.get labels agentDeploymentComponentLabelKey)]

def deleteObjectAndOrphanDependents (call : Call) (w : Workload σ) (s : Server σ)
    (log : List Write) : Result σ :=
  deleting call (s.deleteAllOf w.ns (workloadSelector w.labels)) s log

def DeploymentSpec.finalize (call : Call) (spec : DeploymentSpec) : DeploymentSpec :=
  { spec with template := finalizeAppArmorProfile call.supportsAppArmorProfile spec.template }

def updatedDeployment (deployment current : Deployment) : Deployment where
  ns := deployment.ns
  name := deployment.name
  labels := mergeAnnotationsLabels current.labels deployment.labels none
  annotations := mergeAnnotationsLabels current.annotations deployment.annotations none
  spec := { deployment.spec with
    replicas := getReplicas current.spec.replicas deployment.spec.replicas }

def Call.deployment (call : Call) (hashes : Hashes) (deployment : Deployment) : Deployment :=
  let spec := deployment.spec.finalize call
  setMD5DatadogAgentGenerationAnnotation (hashes.deployment spec) { deployment with spec }

/-- With a stored Deployment, once its owner is right. -/
def updateOrRestartDeployment (call : Call) (hash : String) (deployment : Deployment)
    (s : Server DeploymentSpec) (current : Stored DeploymentSpec) (log : List Write) :
    Result DeploymentSpec :=
  if restartDeployment deployment current.object then
    deleteObjectAndOrphanDependents call deployment s log
  else if isSameSpecMD5Hash hash current.object.annotations then
    { server := s, log, report := some ⟨true, "DeploymentUpToDate", "Deployment up-to-date"⟩ }
  else
    updateWorkload deploymentSchema deploymentTexts call current
      (updatedDeployment deployment current.object) deployment.spec s log

def createOrUpdateDeployment (hashes : Hashes) (call : Call) (w : Deployment)
    (s : Server DeploymentSpec) : Result DeploymentSpec :=
  let deployment := call.deployment hashes w
  match call.calls.get with
  | some e => { server := s, err := some e }
  | none =>
    match s.objects w.key with
    | none => createWorkload deploymentSchema deploymentTexts call deployment s
    | some current =>
      patchingOwner deploymentTexts call w.key current s
        (updateOrRestartDeployment call (hashes.deployment deployment.spec) deployment)

/-! ## DaemonSets -/

def DaemonSetSpec.finalize (call : Call) (spec : DaemonSetSpec) : DaemonSetSpec :=
  { spec with template := finalizeAppArmorProfile call.supportsAppArmorProfile spec.template }

/-- The selector of the stored DaemonSet, with its labels in the pod template. -/
def DaemonSetSpec.adjust (spec current : DaemonSetSpec) : DaemonSetSpec :=
  { spec with
    selector := current.selector
    template := { spec.template with
      labels := ensureSelectorInPodTemplateLabels (some current.selector) spec.template.labels } }

def updatedDaemonset (daemonset current : DaemonSet) : DaemonSet where
  ns := daemonset.ns
  name := daemonset.name
  labels := (mergeAnnotationsLabels current.labels daemonset.labels none).erase oldProfileLabelKey
  annotations := mergeAnnotationsLabels current.annotations daemonset.annotations none
  spec := daemonset.spec

/-- With a stored DaemonSet, once its owner is right. Labels of the pod template have a hash of
their own: operators before 1.7.0 left them as they were and stored the hash of the new spec. -/
def updateOrRestartDaemonset (hashes : Hashes) (call : Call) (daemonset : DaemonSet)
    (s : Server DaemonSetSpec) (current : Stored DaemonSetSpec) (log : List Write) :
    Result DaemonSetSpec :=
  if restartDaemonset daemonset current.object then
    deleting call (s.put daemonset.key none) s log
  else
    let spec := daemonset.spec.adjust current.object.spec
    let hash := hashes.daemonset spec
    let daemonset := setMD5DatadogAgentGenerationAnnotation hash { daemonset with spec }
    if isSameSpecMD5Hash hash current.object.annotations &&
        hashes.labels current.object.spec.template.labels == hashes.labels spec.template.labels then
      { server := s, log }
    else
      updateWorkload daemonsetSchema daemonsetTexts call current
        (updatedDaemonset daemonset current.object) spec s log

def createOrUpdateDaemonset (hashes : Hashes) (call : Call) (w : DaemonSet)
    (s : Server DaemonSetSpec) : Result DaemonSetSpec :=
  let spec := w.spec.finalize call
  match call.calls.get with
  | some e => { server := s, err := some e }
  | none =>
    match s.objects w.key with
    | none =>
      let daemonset := setMD5DatadogAgentGenerationAnnotation (hashes.daemonset spec) { w with spec }
      createWorkload daemonsetSchema daemonsetTexts call daemonset s
    | some current =>
      patchingOwner daemonsetTexts call w.key current s
        (updateOrRestartDaemonset hashes call { w with spec })

/-! ## ExtendedDaemonSets -/

def ExtendedDaemonSetSpec.finalize (call : Call) (spec : ExtendedDaemonSetSpec) :
    ExtendedDaemonSetSpec :=
  { spec with template := finalizeAppArmorProfile call.supportsAppArmorProfile spec.template }

def updatedExtendedDaemonset (eds current : ExtendedDaemonSet) : ExtendedDaemonSet where
  ns := eds.ns
  name := eds.name
  labels := mergeAnnotationsLabels current.labels eds.labels none
  annotations := mergeAnnotationsLabels current.annotations eds.annotations none
  spec := eds.spec

def Call.extendedDaemonset (call : Call) (hashes : Hashes) (eds : ExtendedDaemonSet) :
    ExtendedDaemonSet :=
  let spec := eds.spec.finalize call
  setMD5DatadogAgentGenerationAnnotation (hashes.extendedDaemonset spec) { eds with spec }

/-- A selector that changed is no reason to restart here. -/
def updateCurrentExtendedDaemonset (call : Call) (hash : String) (eds : ExtendedDaemonSet)
    (s : Server ExtendedDaemonSetSpec) (current : Stored ExtendedDaemonSetSpec)
    (log : List Write) : Result ExtendedDaemonSetSpec :=
  if isSameSpecMD5Hash hash current.object.annotations then { server := s, log }
  else
    updateWorkload extendedDaemonsetSchema extendedDaemonsetTexts call current
      (updatedExtendedDaemonset eds current.object) eds.spec s log

def createOrUpdateExtendedDaemonset (hashes : Hashes) (call : Call) (w : ExtendedDaemonSet)
    (s : Server ExtendedDaemonSetSpec) : Result ExtendedDaemonSetSpec :=
  let eds := call.extendedDaemonset hashes w
  match call.calls.get with
  | some e => { server := s, err := some e }
  | none =>
    match s.objects w.key with
    | none => createWorkload extendedDaemonsetSchema extendedDaemonsetTexts call eds s
    | some current =>
      patchingOwner extendedDaemonsetTexts call w.key current s
        (updateCurrentExtendedDaemonset call (hashes.extendedDaemonset eds.spec) eds)

/-! ## Runs -/

structure World where
  deployments : Server DeploymentSpec := {}
  daemonsets : Server DaemonSetSpec := {}
  extendedDaemonsets : Server ExtendedDaemonSetSpec := {}

inductive WorkloadKind
  | deployment
  | daemonset
  | extendedDaemonset

/-- A call for a workload, an autoscaler at work, or other owner references: those of an
earlier version of the operator, which made the DatadogAgent the owner. -/
inductive Event
  | deployment (call : Call) (w : Deployment)
  | daemonset (call : Call) (w : DaemonSet)
  | extendedDaemonset (call : Call) (w : ExtendedDaemonSet)
  | scaled (key : NamespacedName) (replicas : Int)
  | owned (kind : WorkloadKind) (key : NamespacedName) (refs : List OwnerReference)

def Stored.scale (replicas : Int) (o : Stored DeploymentSpec) : Stored DeploymentSpec :=
  { o with object := { o.object with spec := { o.object.spec with replicas := some replicas } } }

def Stored.own (refs : List OwnerReference) (o : Stored σ) : Stored σ :=
  { o with ownerReferences := refs }

def World.step (hashes : Hashes) (w : World) : Event → World
  | .deployment call d =>
    { w with deployments := (createOrUpdateDeployment hashes call d w.deployments).server }
  | .daemonset call d =>
    { w with daemonsets := (createOrUpdateDaemonset hashes call d w.daemonsets).server }
  | .extendedDaemonset call d =>
    { w with
      extendedDaemonsets :=
        (createOrUpdateExtendedDaemonset hashes call d w.extendedDaemonsets).server }
  | .scaled key replicas => { w with deployments := w.deployments.modify key (.scale replicas) }
  | .owned .deployment key refs => { w with deployments := w.deployments.modify key (.own refs) }
  | .owned .daemonset key refs => { w with daemonsets := w.daemonsets.modify key (.own refs) }
  | .owned .extendedDaemonset key refs =>
    { w with extendedDaemonsets := w.extendedDaemonsets.modify key (.own refs) }

end DatadogOperator.Workloads
