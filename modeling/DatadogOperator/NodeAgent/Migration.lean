import DatadogOperator.NodeAgent.Cluster

/-!
# Reconciling the node agent

`reconcileV2Agent` of `datadogagentinternal/reconcile_agent.go` from the point at which the pod
template is ready, with the migrations of `reconcile_agent_migration.go` and the functions of
`reconcile_common.go` that create and update its workload, one call to the API server after the
other. The status of the DatadogAgentInternal and the events it records are left out.
-/

namespace DatadogOperator.NodeAgent

open Profiles hiding agentDeploymentComponentLabelKey
open Dependencies Workloads Interference

abbrev Reconcile := Prog Op Op.Answer ClientError

def getDaemonSet (name : String) : Reconcile (Except ClientError (Live AgentDaemonSet)) :=
  call (Op.getDaemonSet name)

def getExtendedDaemonSet (name : String) :
    Reconcile (Except ClientError (Live ExtendedDaemonSet)) :=
  call (Op.getExtendedDaemonSet name)

def listPods (selector : LabelSelector) : Reconcile (Except ClientError (List Pod)) :=
  call (Op.listPods selector)

def write (change : Change) : Reconcile (Except ClientError Unit) := call (Op.write change)

/-- Seconds. -/
structure Result where
  requeueAfter : Nat := 0

def workloadMigrationResult : Result := ⟨1⟩

def orFail {α : Type} : Except ClientError α → Reconcile α
  | .ok a => pure a
  | .error e => .fail e

def ignoreNotFound : Except ClientError Unit → Reconcile Unit
  | .error .notFound => pure ()
  | answer => orFail answer

/-! ## The wanted workload -/

def agentDeploymentNameLabelKey := "agent.datadoghq.com/name"

def updateMetadataAnnotationKey := "agent.datadoghq.com/update-metadata"

def defaultAgentResourceSuffix := "agent"

/-- What of a DatadogAgentInternal says where its node agent is. -/
structure Agent where
  ns : String
  ddai : DDAI
  labels : Labels := ∅
  annotations : Annotations := ∅
  nameOverride : Option String := none

/-- The options of the operator, and what overrides and features make of the workload. A FIPS
agent on Windows is asked for by `windowsFIPS`. -/
structure Request where
  extendedDaemonsetEnabled : Bool
  disabled : Bool := false
  windowsFIPS : Bool := false
  labels : Labels := ∅
  annotations : Annotations := ∅
  template : PodTemplateSpec
  updateStrategy : UpdateStrategy := {}
  daemonSetFields : String := ""
  extendedDaemonSetFields : String := ""
  rolloutOnConfigMapChangeEnabled : Bool := false
  referencedConfigMapNames : List String := []
  supportsAppArmorProfile : Bool := true

namespace Agent

def getAgentName (agent : Agent) : String := agent.ddai.name ++ "-" ++ defaultAgentResourceSuffix

def isDDAILabeledWithProfile (agent : Agent) : Bool :=
  Annotations.get agent.labels profileLabelKey != ""

/-- The selector of `GetDefaultMetadata`. -/
def selector (agent : Agent) : LabelSelector where
  matchLabels :=
    let component : Labels := (∅ : Labels).insert agentDeploymentComponentLabelKey
      defaultAgentResourceSuffix
    if agent.annotations.lookup updateMetadataAnnotationKey = some "false" then
      component.insert agentDeploymentNameLabelKey agent.ddai.name
    else component.insert appKubernetesInstanceLabelKey agent.getAgentName

def workloadName (agent : Agent) : String :=
  match agent.nameOverride with
  | some name => if name ≠ "" then name else agent.getAgentName
  | none => agent.getAgentName

def daemonSet (agent : Agent) (request : Request) : AgentDaemonSet where
  ns := agent.ns
  name := agent.workloadName
  labels := request.labels
  annotations := request.annotations
  spec := { selector := agent.selector, template := request.template,
            fields := request.daemonSetFields }
  updateStrategy := request.updateStrategy

/-- It has no selector: the ExtendedDaemonSet controller would select nodes with it. -/
def extendedDaemonSet (agent : Agent) (request : Request) : ExtendedDaemonSet where
  ns := agent.ns
  name := agent.workloadName
  labels := request.labels
  annotations := request.annotations
  spec := { template := request.template, fields := request.extendedDaemonSetFields }

end Agent

/-! ## From DaemonSet to ExtendedDaemonSet -/

def onDeleteDaemonSetStrategyType := "OnDelete"

/-- The DaemonSet, and whether it was changed. -/
def prepareDaemonSetForEDSMigration (d : AgentDaemonSet) (edsName : String) :
    Bool × AgentDaemonSet :=
  let strategy := d.updateStrategy.type != onDeleteDaemonSetStrategyType ||
    d.updateStrategy.rollingUpdate.isSome
  let label := Annotations.get d.spec.template.labels extendedDaemonSetNameLabelKey != edsName
  let template := if label then
      { d.spec.template with
        labels := d.spec.template.labels.insert extendedDaemonSetNameLabelKey edsName }
    else d.spec.template
  (strategy || label,
    { d with
      spec := { d.spec with template }
      updateStrategy :=
        if strategy then { type := onDeleteDaemonSetStrategyType } else d.updateStrategy })

/-- `client.MergeFrom`: the labels that are not as they were. -/
def mergeFrom (old new : Labels) : Labels :=
  new.filterKeys fun key => new.lookup key != old.lookup key

def setEDSPodLabel (pod : Pod) (edsName : String) : Reconcile Unit :=
  if Annotations.get pod.labels extendedDaemonSetNameLabelKey = edsName then pure ()
  else do
    let updated := pod.labels.insert extendedDaemonSetNameLabelKey edsName
    orFail (← write (.patchPod pod.uid (mergeFrom pod.labels updated)))

/-- `metav1.LabelSelectorAsSelector`. -/
def labelSelectorAsSelector (s : LabelSelector) : Except ClientError LabelSelector :=
  if s.matchLabels.all fun key value => isQualifiedName key && isValidLabelValue value then .ok s
  else .error .other

def labelDaemonSetPodsForEDS (d : Live AgentDaemonSet) (edsName : String) : Reconcile Unit := do
  let selector ← orFail (labelSelectorAsSelector d.object.spec.selector)
  let pods ← orFail (← listPods selector)
  pods.forM fun pod =>
    if pod.controller = some (d.ref d.object.name) then setEDSPodLabel pod edsName
    else pure ()

/-- The instance and component labels of a pod template. -/
def selectorLabels (template : Labels) : Labels :=
  template.filterKeys fun key =>
    [appKubernetesInstanceLabelKey, agentDeploymentComponentLabelKey].contains key &&
      Annotations.get template key != ""

def labelOrphanedDaemonSetPodsForEDS (eds : ExtendedDaemonSet) : Reconcile Unit := do
  let selectorLabels := selectorLabels eds.spec.template.labels
  if selectorLabels = ∅ then pure ()
  else
    let pods ← orFail (← listPods { matchLabels := selectorLabels })
    pods.forM fun pod =>
      if pod.controller.any fun r => !r.isDaemonSet eds.name then pure ()
      else setEDSPodLabel pod eds.name

def listReplicaSets (edsName : String) : Reconcile (List ReplicaSet) := do
  let answer : Except ClientError (List ReplicaSet) ← call (Op.listReplicaSets edsName)
  match answer with
  | .ok replicaSets => pure replicaSets
  | .error e => if resourceIsAbsent e then pure [] else .fail e

def deleteReplicaSets (replicaSets : List ReplicaSet) : Reconcile Unit :=
  replicaSets.forM fun rs =>
    if rs.deletionTimestamp then pure ()
    else do ignoreNotFound (← write (.deleteReplicaSet rs.uid))

/-- Whether the reconcile ends here. -/
def migrateDaemonSetToExtendedDaemonSet (eds : ExtendedDaemonSet) : Reconcile (Bool × Result) := do
  match ← getDaemonSet eds.name with
  | .error .notFound =>
    match ← getExtendedDaemonSet eds.name with
    | .ok current =>
      -- The replica sets of a living ExtendedDaemonSet are not touched.
      if current.deletionTimestamp then pure (true, workloadMigrationResult)
      else pure (false, {})
    | .error e =>
      if resourceIsAbsent e then
        let replicaSets ← listReplicaSets eds.name
        if replicaSets.isEmpty then
          labelOrphanedDaemonSetPodsForEDS eds
          pure (false, {})
        else
          deleteReplicaSets replicaSets
          pure (true, workloadMigrationResult)
      else .fail e
  | .error e => .fail e
  | .ok current =>
    if current.deletionTimestamp then pure (true, workloadMigrationResult)
    else
      let (needsUpdate, prepared) := prepareDaemonSetForEDSMigration current.object eds.name
      if needsUpdate then
        orFail (← write (.updateDaemonSet current.uid current.ownerReferences prepared))
        pure (true, workloadMigrationResult)
      else
        labelDaemonSetPodsForEDS current eds.name
        ignoreNotFound (← write (.deleteDaemonSet current.object.name .orphan))
        pure (true, workloadMigrationResult)

/-! ## From ExtendedDaemonSet to DaemonSet -/

/-- One pod of `prepareOrphanedEDSPodsForDaemonSet`. -/
def prepareOrphanedPod (selector : LabelSelector) (handled : Bool) (pod : Pod) : Reconcile Bool :=
  match pod.controller with
  | some controller =>
    -- Orphan propagation has not removed the controller reference yet.
    pure (handled || controller.kind == extendedDaemonSetReplicaSetKind)
  | none =>
    if selector.selects pod.labels then pure handled
    else do
      let updated := selector.matchLabels ∪ pod.labels
      if selector.selects updated then
        orFail (← write (.patchPod pod.uid (mergeFrom pod.labels updated)))
      else ignoreNotFound (← write (.deletePod pod.uid))
      pure true

def edsPods (name : String) : LabelSelector where
  matchLabels := (∅ : Labels).insert extendedDaemonSetNameLabelKey name

def prepareOrphanedEDSPodsForDaemonSet (w : AgentDaemonSet) : Reconcile Bool := do
  let selector ← orFail (labelSelectorAsSelector w.spec.selector)
  let pods ← orFail (← listPods (edsPods w.name))
  pods.foldlM (prepareOrphanedPod selector) false

def migrateExtendedDaemonSetToDaemonSet (w : AgentDaemonSet) : Reconcile (Bool × Result) := do
  match ← getExtendedDaemonSet w.name with
  | .ok current =>
    if current.deletionTimestamp then pure (true, workloadMigrationResult)
    else
      ignoreNotFound (← write (.deleteExtendedDaemonSet current.object.name .orphan))
      pure (true, workloadMigrationResult)
  | .error e =>
    if resourceIsAbsent e then
      let replicaSets ← listReplicaSets w.name
      if replicaSets.isEmpty then
        if ← prepareOrphanedEDSPodsForDaemonSet w then pure (true, workloadMigrationResult)
        else pure (false, {})
      else
        deleteReplicaSets replicaSets
        pure (true, workloadMigrationResult)
    else .fail e

/-! ## Creating and updating -/

structure Hashing where
  daemonSet : DaemonSetSpec → UpdateStrategy → String
  extendedDaemonSet : ExtendedDaemonSetSpec → String
  labels : Labels → String
  configMaps : List (String × String) → String

def configMapsChecksumAnnotationKey := "agent.datadoghq.com/configmapshash"

def configMapContents (names : List String) : Reconcile (List (String × String)) :=
  names.foldlM (fun contents name => do
    let answer : Except ClientError String ← call (Op.getConfigMap name)
    match answer with
    | .ok content => pure (contents ++ [(name, content)])
    | .error .notFound => pure contents
    | .error e => .fail e) []

/-- Only the annotations of the template change. -/
def annotateConfigMapsChecksum (hashing : Hashing) (request : Request) : Reconcile Request :=
  if request.rolloutOnConfigMapChangeEnabled then do
    let contents ← configMapContents request.referencedConfigMapNames
    if contents.isEmpty then pure request
    else
      let annotations := request.template.annotations.insert configMapsChecksumAnnotationKey
        (hashing.configMaps contents)
      pure { request with template := { request.template with annotations } }
  else pure request

def createOrUpdateExtendedDaemonset (hashing : Hashing) (ddai : DDAI) (supportsAppArmor : Bool)
    (w : ExtendedDaemonSet) : Reconcile Result := do
  let spec := { w.spec with template := finalizeAppArmorProfile supportsAppArmor w.spec.template }
  let hash := hashing.extendedDaemonSet spec
  let eds := setMD5DatadogAgentGenerationAnnotation hash { w with spec }
  match ← getExtendedDaemonSet eds.name with
  | .error .notFound =>
    orFail (← write (.createExtendedDaemonSet ddai eds))
    pure {}
  | .error e => .fail e
  | .ok current =>
    if shouldUpdateOwnerReference current.ownerReferences then
      orFail (← write (.patchExtendedDaemonSetOwners eds.name
        (createOwnerReferencePatch current.ownerReferences ddai)))
    if isSameSpecMD5Hash hash current.object.annotations then pure {}
    else
      orFail (← write (.updateExtendedDaemonSet current.uid [ddai.newOwnerRef]
        (updatedExtendedDaemonset eds current.object)))
      pure {}

def updatedAgentDaemonSet (hash : String) (w current : AgentDaemonSet) (spec : DaemonSetSpec) :
    AgentDaemonSet :=
  let daemonset := setMD5DatadogAgentGenerationAnnotation hash { w.toWorkload with spec }
  { updatedDaemonset daemonset current.toWorkload with updateStrategy := w.updateStrategy }

def createOrUpdateDaemonset (hashing : Hashing) (ddai : DDAI) (supportsAppArmor : Bool)
    (w : AgentDaemonSet) : Reconcile Result := do
  let w := { w with
    spec := { w.spec with template := finalizeAppArmorProfile supportsAppArmor w.spec.template } }
  match ← getDaemonSet w.name with
  | .error .notFound =>
    let hash := hashing.daemonSet w.spec w.updateStrategy
    orFail (← write (.createDaemonSet ddai
      { setMD5DatadogAgentGenerationAnnotation hash w.toWorkload with
        updateStrategy := w.updateStrategy }))
    pure {}
  | .error e => .fail e
  | .ok current =>
    if shouldUpdateOwnerReference current.ownerReferences then
      orFail (← write (.patchDaemonSetOwners w.name
        (createOwnerReferencePatch current.ownerReferences ddai)))
    if restartDaemonset w.toWorkload current.object.toWorkload then
      ignoreNotFound (← write (.deleteDaemonSet current.object.name .orphan))
      pure {}
    else
      let spec := w.spec.adjust current.object.spec
      let hash := hashing.daemonSet spec w.updateStrategy
      if isSameSpecMD5Hash hash current.object.annotations &&
          hashing.labels current.object.spec.template.labels == hashing.labels spec.template.labels
      then pure {}
      else
        orFail (← write (.updateDaemonSet current.uid [ddai.newOwnerRef]
          (updatedAgentDaemonSet hash w current.object spec)))
        pure {}

/-! ## Reconciles -/

def reconcileExtendedDaemonSet (hashing : Hashing) (agent : Agent) (request : Request) :
    Reconcile Result := do
  let eds := agent.extendedDaemonSet request
  if request.disabled then
    ignoreNotFound (← write (.deleteExtendedDaemonSet eds.name .background))
    pure {}
  else
    match ← migrateDaemonSetToExtendedDaemonSet eds with
    | (true, result) => pure result
    | (false, _) =>
      let request ← annotateConfigMapsChecksum hashing request
      createOrUpdateExtendedDaemonset hashing agent.ddai request.supportsAppArmorProfile
        (agent.extendedDaemonSet request)

def reconcileDaemonSet (hashing : Hashing) (agent : Agent) (request : Request) :
    Reconcile Result := do
  let w := agent.daemonSet request
  if agent.isDDAILabeledWithProfile && request.windowsFIPS || request.disabled then
    ignoreNotFound (← write (.deleteDaemonSet w.name .background))
    pure {}
  else
    match ← migrateExtendedDaemonSetToDaemonSet w with
    | (true, result) => pure result
    | (false, _) =>
      let request ← annotateConfigMapsChecksum hashing request
      createOrUpdateDaemonset hashing agent.ddai request.supportsAppArmorProfile
        (agent.daemonSet request)

/-- Agents of profiles are always DaemonSets. -/
def reconcileV2Agent (hashing : Hashing) (agent : Agent) (request : Request) : Reconcile Result :=
  if request.extendedDaemonsetEnabled && !agent.isDDAILabeledWithProfile then
    reconcileExtendedDaemonSet hashing agent request
  else reconcileDaemonSet hashing agent request

end DatadogOperator.NodeAgent
