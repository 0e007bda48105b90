import DatadogOperator.Profiles.Reconcile

/-!
# DatadogAgentInternals

A DatadogAgent gives one DatadogAgentInternal (DDAI) for the default profile and
one for each applied profile: `datadogagent/ddai.go` makes the first from the
DatadogAgent, and `applyProfilesToDDAISpec` of `datadogagent/profile.go` merges
every profile into it. What `generateSpecFromDDA` does to credentials, to the
token of the Cluster Agent and to annotations of pods is left out, as is the
registry of images: no modelled field holds them.
-/

namespace DatadogOperator.Profiles

structure ObjectMeta where
  ns : String
  name : String
  labels : Labels := ∅
  annotations : Annotations := ∅

/-- A DatadogAgent with its defaults, apart from revisions and experiments. -/
structure Agent extends ObjectMeta where
  spec : Spec := {}

structure DatadogAgentInternal extends ObjectMeta where
  spec : Spec := {}

def datadogAgentNameLabelKey := "agent.datadoghq.com/datadogagent"
def agentDeploymentComponentLabelKey := "agent.datadoghq.com/component"
def labelHostname := "kubernetes.io/hostname"

def lastAppliedConfigurationKey := "kubectl.kubernetes.io/last-applied-configuration"
def md5DDAIDeploymentAnnotationKey := "agent.datadoghq.com/ddaispechash"
def providerAnnotationKey := "agent.datadoghq.com/cluster-provider"
def experimentalAutopilotKey := "experimental.agent.datadoghq.com/autopilot"

def defaultProvider := "default"
def gkeAutopilotProvider := "gke-autopilot"
def defaultAgentResourceSuffix := "agent"
def daemonSetNamePrefix := "datadog-agent-with-profile-"

structure ApplyError where
  text : String
  /-- The fields in it that the schema of the cluster does not declare. -/
  missingSchemaPaths : List String

def Spec.nodeAgentName (spec : Spec) : Option String := (spec.component .nodeAgent).bind (·.name)

/-- What the API machinery does with specs. A value of the applied spec wins over
the one below it, which otherwise stays, and the schema has always declared names. -/
structure FieldManager where
  apply : Spec → Spec → Except ApplyError Spec
  stripDottedFieldPath : Spec → String → Spec
  generateMD5ForSpec : Spec → String
  apply_nodeAgentName : ∀ {original modified merged}, apply original modified = .ok merged →
    merged.nodeAgentName = modified.nodeAgentName.or original.nodeAgentName
  strip_nodeAgentName : ∀ spec path,
    (stripDottedFieldPath spec path).nodeAgentName = spec.nodeAgentName

/-! ## The DDAI of the DatadogAgent -/

def isAutopilotEnabled (annotations : Annotations) : Bool :=
  annotations.get providerAnnotationKey == gkeAutopilotProvider ||
    (annotations.get experimentalAutopilotKey).toLower == "true"

def isSpecificProvider (provider : String) : Bool :=
  provider != "" && provider != defaultProvider

def Spec.commonLabels (spec : Spec) : Labels := (spec.global.map (·.commonLabels)).getD ∅

/-- Common labels come last and replace nothing. -/
def getDDAILabels (dda : Agent) : Labels :=
  dda.labels.insert datadogAgentNameLabelKey dda.name ∪ dda.spec.commonLabels

def generateObjMetaFromDDA (dda : Agent) (provider : String) : ObjectMeta :=
  let annotations := dda.annotations.erase lastAppliedConfigurationKey
  let annotations := if isAutopilotEnabled dda.annotations then
    annotations.insert providerAnnotationKey gkeAutopilotProvider else annotations
  let annotations := if isSpecificProvider provider then
    annotations.insert providerAnnotationKey provider else annotations
  { ns := dda.ns, name := dda.name, labels := getDDAILabels dda, annotations }

/-- `SetOverrideFromDDA`: there is an entry for the node agent. -/
def generateSpecFromDDA (dda : Agent) : Spec :=
  if ComponentName.nodeAgent ∈ dda.spec.override then dda.spec
  else { dda.spec with override := dda.spec.override.insert .nodeAgent (some {}) }

def setMD5GenerationAnnotation (fm : FieldManager) (ddai : DatadogAgentInternal) :
    DatadogAgentInternal :=
  { ddai with annotations :=
      ddai.annotations.insert md5DDAIDeploymentAnnotationKey (fm.generateMD5ForSpec ddai.spec) }

def generateDDAIFromDDA (fm : FieldManager) (dda : Agent) (provider : String) :
    DatadogAgentInternal :=
  setMD5GenerationAnnotation fm
    { toObjectMeta := generateObjMetaFromDDA dda provider, spec := generateSpecFromDDA dda }

/-! ## Affinity -/

def podAntiAffinityOverride : PodAffinity where
  required := [{
    matchExpressions := [{
      key := agentDeploymentComponentLabelKey, operator := .known .opIn, values := ["agent"] }]
    topologyKey := labelHostname }]

/-- Nodes with the label of the profile. -/
def profileLabelKeyNSR (profileName : String) : NodeSelectorRequirement :=
  { key := profileLabelKey, operator := .known .opIn, values := [profileName] }

def noProfileLabelNSR : NodeSelectorRequirement :=
  { key := profileLabelKey, operator := .known .opDoesNotExist }

def requiredExpressions (expressions : List NodeSelectorRequirement) : NodeAffinity :=
  { required := some { nodeSelectorTerms := [{ matchExpressions := expressions }] } }

def affinityOverrideForDefaultProfile : Affinity where
  nodeAffinity := some (requiredExpressions [noProfileLabelNSR])
  podAntiAffinity := some podAntiAffinityOverride

def affinityOverride (profile : Profile) : Affinity :=
  if isDefaultProfile profile.ns profile.name then affinityOverrideForDefaultProfile
  else if profile.profileNodeAffinity.isEmpty then
    { podAntiAffinity := some podAntiAffinityOverride }
  else
    { nodeAffinity := some (requiredExpressions
        (profile.profileNodeAffinity ++ [profileLabelKeyNSR profile.name]))
      podAntiAffinity := some podAntiAffinityOverride }

def setProfileDDAIAffinity (spec : Spec) (profile : Profile) : Option Affinity :=
  mergeAffinities ((spec.component .nodeAgent).bind (·.affinity)) (some (affinityOverride profile))

/-! ## The spec of a profile -/

/-- Change an override, which `ensureOverrideExists` creates when it is missing. -/
def Spec.withOverride (spec : Spec) (component : ComponentName)
    (f : ComponentOverride → ComponentOverride) : Spec :=
  { spec with
    override := spec.override.insert component (some (f ((spec.component component).getD {}))) }

def disableComponent (spec : Spec) (component : ComponentName) : Spec :=
  spec.withOverride component fun override => { override with disabled := some true }

def daemonSetName (profile : NamespacedName) (useV3Metadata : Bool) : String :=
  if isDefaultProfile profile.ns profile.name then ""
  else if useV3Metadata then profile.name ++ "-" ++ defaultAgentResourceSuffix
  else daemonSetNamePrefix ++ profile.ns ++ "-" ++ profile.name

def setProfileDDAILabels (override : ComponentOverride) (profile : Profile) : ComponentOverride :=
  { override with labels := override.labels.insert profileLabelKey profile.name }

def setProfileNodeAgentOverride (spec : Spec) (profile : Profile) : Spec :=
  let dsName := daemonSetName profile.namespacedName true
  spec.withOverride .nodeAgent fun override =>
    let override := setProfileDDAILabels override profile
    if isDefaultProfile profile.ns profile.name = false ∧ dsName ≠ "" then
      { override with name := some dsName }
    else override

/-- Common labels outlive the spec they come from; those of the profile win. -/
def restoreCommonLabels (config : Spec) (commonLabels : Labels) : Spec :=
  if commonLabels = ∅ then config
  else { config with global := some { (config.global.getD {}) with
    commonLabels := config.commonLabels ∪ commonLabels } }

/-- The config of a user's profile takes the place of the spec. A valid profile has one. -/
def setProfileSpec (spec : Spec) (profile : Profile) : Spec :=
  let affinity := setProfileDDAIAffinity spec profile
  let profileSpec :=
    if isDefaultProfile profile.ns profile.name then spec
    else
      let config := restoreCommonLabels (profile.spec.config.getD {}) spec.commonLabels
      let config := disableComponent config .clusterAgent
      let config := disableComponent config .clusterChecksRunner
      let config := disableComponent config .otelAgentGateway
      setProfileNodeAgentOverride config profile
  profileSpec.withOverride .nodeAgent fun override => { override with affinity }

/-! ## The DDAI of a profile -/

/-- The default profile uses the name of the DatadogAgent, other profiles their own. -/
def getProfileDDAIName (ddaiName profileName profileNamespace : String) : String :=
  if isDefaultProfile profileNamespace profileName then ddaiName else profileName

/-- Annotations of a profile that its DDAI takes over. -/
def propagatedAnnotations : List String :=
  [providerAnnotationKey, "agent.datadoghq.com/host-profiler-enabled",
    "agent.datadoghq.com/host-profiler-seccomp-enabled",
    "agent.datadoghq.com/host-profiler-logging-seccomp-enabled",
    "experimental.agent.datadoghq.com/image-override-config"]

def setProfileDDAIMeta (ddai : ObjectMeta) (profile : Profile) : ObjectMeta :=
  { ddai with
    name := getProfileDDAIName ddai.name profile.name profile.ns
    labels := if isDefaultProfile profile.ns profile.name then ddai.labels
      else ddai.labels.insert profileLabelKey profile.name
    annotations := propagatedAnnotations.foldl (fun annotations key =>
      match profile.annotations.lookup key with
      | some value => annotations.insert key value
      | none => annotations) ddai.annotations }

/-- Server-side apply of whole objects: the labels and annotations of both. -/
def FieldManager.applyObject (fm : FieldManager) (original modified : DatadogAgentInternal) :
    Except ApplyError DatadogAgentInternal := do
  let spec ← fm.apply original.spec modified.spec
  return { modified with
    labels := modified.labels ∪ original.labels
    annotations := modified.annotations ∪ original.annotations
    spec }

def FieldManager.strip (fm : FieldManager) (paths : List String) (ddai : DatadogAgentInternal) :
    DatadogAgentInternal :=
  { ddai with spec := paths.foldl fm.stripDottedFieldPath ddai.spec }

/-- An older schema may lack fields: then they are dropped, and the merge is tried once more. -/
def ssaMergeCRD (fm : FieldManager) (original modified : DatadogAgentInternal) :
    Except ApplyError DatadogAgentInternal :=
  match fm.applyObject original modified with
  | .ok merged => .ok merged
  | .error e =>
    if e.missingSchemaPaths.isEmpty then .error e
    else match fm.applyObject (fm.strip e.missingSchemaPaths original)
        (fm.strip e.missingSchemaPaths modified) with
      | .ok merged => .ok merged
      | .error _ => .error e

/-- On GKE Autopilot there is a global config, which names the registry. -/
def ensureGCRAutopilotRegistry (spec : Spec) : Spec :=
  { spec with global := some (spec.global.getD {}) }

def computeProfileMerge (fm : FieldManager) (ddai : DatadogAgentInternal) (profile : Profile) :
    Except ApplyError DatadogAgentInternal := do
  let profileDDAI : DatadogAgentInternal :=
    { toObjectMeta := setProfileDDAIMeta ddai.toObjectMeta profile
      spec := setProfileSpec ddai.spec profile }
  let merged ← ssaMergeCRD fm ddai profileDDAI
  let spec := if isAutopilotEnabled merged.annotations then ensureGCRAutopilotRegistry merged.spec
    else merged.spec
  return setMD5GenerationAnnotation fm { merged with spec }

/-- Only the default profile sees the shared config of the others. -/
def applyProfilesToDDAISpec (fm : FieldManager) (baseDDAI defaultDDAI : DatadogAgentInternal)
    (profiles : List Profile) : Except ApplyError (List DatadogAgentInternal) :=
  profiles.mapM fun profile => computeProfileMerge fm
    (if isDefaultProfile profile.ns profile.name then defaultDDAI else baseDDAI) profile

/-- The part of `reconcileInstance` with profiles, from the DatadogAgent to its DDAIs. -/
def generateDDAIs (fm : FieldManager) (options : Options) (dda : Agent) (provider : String)
    (nodes : List Node) (profiles : List Profile) :
    Except ApplyError (List DatadogAgentInternal) :=
  let ddai := generateDDAIFromDDA fm dda provider
  let defaultDDAI := { ddai with
    spec := (reconcileProfiles options nodes ddai.spec profiles).accumulatedDefaultSpec }
  applyProfilesToDDAISpec fm ddai defaultDDAI (appliedProfiles options nodes ddai.spec profiles)

/-! ## Names of DaemonSets and labels of nodes -/

def getAgentName (name : String) : String := name ++ "-" ++ defaultAgentResourceSuffix

/-- Both controllers: the name of the object, unless an override gives another one. -/
def getDaemonSetNameFromDatadogAgent (name : String) (spec : Spec) : String :=
  match spec.nodeAgentName with
  | some override => if override ≠ "" then override else getAgentName name
  | none => getAgentName name

/-- A turn of `labelNodesWithProfiles`, with a patch that succeeds. A node that
would be left without labels is not patched. -/
def labelNode (profile : NamespacedName) (labels : Labels) : Labels :=
  let isDefault := isDefaultProfile profile.ns profile.name || profile == ⟨"", ""⟩
  let kept := (if isDefault then labels.erase profileLabelKey else labels).erase oldProfileLabelKey
  let newLabels :=
    if isDefault = false ∧ (labels.lookup profileLabelKey).getD "" ≠ profile.name then
      kept.insert profileLabelKey profile.name
    else kept
  if newLabels = ∅ then labels else newLabels

end DatadogOperator.Profiles
