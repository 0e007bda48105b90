import DatadogOperator.Profiles.Selector

/-!
# Specs and profiles

Of the DatadogAgent spec, what profiles are checked for and what is merged from
them: of a feature or an override that nothing else reads only its JSON name
stays, when it is set. `ValidateDatadogAgentProfileSpec` checks a profile
against lists of the fields it may set. Go maps that are looped over are
association lists, in the order of the loop.
-/

namespace DatadogOperator.Profiles

/-! ## APM -/

structure HostPortConfig where
  enabled : Option Bool := none
  port : Option Int := none
  deriving DecidableEq

structure LanguageDetectionConfig where
  enabled : Option Bool := none
  deriving DecidableEq

structure InjectorConfig where
  imageTag : String := ""
  deriving DecidableEq

/-- Targets are copied as they are. -/
structure SSITarget where
  name : String
  deriving DecidableEq

structure SingleStepInstrumentation where
  enabled : Option Bool := none
  enabledNamespaces : List String := []
  disabledNamespaces : List String := []
  libVersions : Finmap (fun _ : String => String) := ∅
  languageDetection : Option LanguageDetectionConfig := none
  injector : Option InjectorConfig := none
  injectionMode : String := ""
  targets : List SSITarget := []
  deriving DecidableEq

structure APMFeatureConfig where
  enabled : Option Bool := none
  hostPortConfig : Option HostPortConfig := none
  singleStepInstrumentation : Option SingleStepInstrumentation := none
  /-- `errorTrackingStandalone`, and its `enabled`. -/
  errorTrackingStandalone : Option (Option Bool) := none
  deriving DecidableEq

/-! ## The spec -/

structure DatadogFeatures where
  apm : Option APMFeatureConfig := none
  /-- `admissionController`, and its `enabled`. -/
  admissionController : Option (Option Bool) := none
  /-- The other features that are set. -/
  others : List String := []
  deriving DecidableEq

structure GlobalConfig where
  commonLabels : Labels := ∅
  deriving DecidableEq

inductive ComponentName
  | nodeAgent
  | clusterAgent
  | clusterChecksRunner
  | otelAgentGateway
  | other (text : String)
  deriving DecidableEq

structure AgentImageConfig where
  name : String := ""
  tag : String := ""
  deriving DecidableEq

/-- `DatadogAgentGenericContainer`: the fields that are set. -/
structure GenericContainer where
  set : List String := []
  deriving DecidableEq

structure ComponentOverride where
  name : Option String := none
  image : Option AgentImageConfig := none
  containers : AList (fun _ : String => Option GenericContainer) := ∅
  affinity : Option Affinity := none
  labels : Labels := ∅
  disabled : Option Bool := none
  /-- The other fields that are set. -/
  others : List String := []
  deriving DecidableEq

structure Spec where
  features : Option DatadogFeatures := none
  global : Option GlobalConfig := none
  override : AList (fun _ : ComponentName => Option ComponentOverride) := ∅
  deriving DecidableEq

/-- The override of a component, unless it is missing or nil. -/
def Spec.component (spec : Spec) (component : ComponentName) : Option ComponentOverride :=
  (spec.override.lookup component).join

/-! ## Profiles -/

/-- `types.NamespacedName`. -/
structure NamespacedName where
  ns : String
  name : String
  deriving DecidableEq

structure ProfileMeta where
  ns : String
  name : String
  creationTimestamp : Time := 0
  annotations : Annotations := ∅
  deriving DecidableEq

structure ProfileSpec where
  /-- `profileAffinity`, and its `profileNodeAffinity`. -/
  profileAffinity : Option (Option (List NodeSelectorRequirement)) := none
  config : Option Spec := none
  deriving DecidableEq

structure Profile extends ProfileMeta where
  spec : ProfileSpec := {}
  deriving DecidableEq

def ProfileMeta.namespacedName (p : ProfileMeta) : NamespacedName := ⟨p.ns, p.name⟩

def Profile.profileNodeAffinity (p : Profile) : List NodeSelectorRequirement :=
  (p.spec.profileAffinity.join).getD []

def defaultProfileName := "default"
def labelValueMaxLength := 63

def isDefaultProfile (ns name : String) : Bool := decide (ns = "" ∧ name = defaultProfileName)

def defaultProfile : Profile := { ns := "", name := defaultProfileName }

/-! ## Validation -/

inductive ProfileError
  | emptyName
  | longName
  | undefined (config : String)
  | noRequirement
  | unsupported (config : String)
  | otherComponent
  | requirement (errors : List RequirementError)
  deriving DecidableEq

def validateProfileName (name : String) : Except ProfileError Unit :=
  if name = "" then .error .emptyName
  else if name.utf8ByteSize > labelValueMaxLength then .error .longName
  else .ok ()

/-- The words of a JSON name: `hostPID` gives `host pid`. -/
def splitJSONFieldName (name : String) : String :=
  let rec words (previous : Option Char) : List Char → List Char
    | [] => []
    | c :: rest =>
      let starts := previous.any fun p =>
        c.isUpper && (p.isLower || rest.head?.any Char.isLower)
      (if starts then [' '] else []) ++ c.toLower :: words (some c) rest
  String.ofList (words none name.toList)

/-- The first field that is set and may not be, in the order of the struct. -/
def validateAllowlistedFields (fields : List String) (isSet : String → Bool)
    (allowlist : List String) (unsupportedFieldName : String → String) : Except ProfileError Unit :=
  match fields.find? fun field => isSet field && !allowlist.contains field with
  | some field => .error (.unsupported (unsupportedFieldName field))
  | none => .ok ()

def datadogAgentProfileFeatureAllowlist := ["gpu", "apm"]

def datadogAgentProfileComponentOverrideAllowlist :=
  ["containers", "priorityClassName", "runtimeClassName", "updateStrategy", "labels", "volumes"]

def datadogAgentProfileContainerOverrideAllowlist := ["resources", "env", "volumeMounts"]

def featureFields : List String :=
  ["otelCollector", "otelAgentGateway", "logCollection", "liveProcessCollection",
    "liveContainerCollection", "processDiscovery", "oomKill", "tcpQueueLength", "ebpfCheck", "apm",
    "asm", "cspm", "cws", "npm", "usm", "dynamicInstrumentation", "dogstatsd", "otlp",
    "remoteConfiguration", "sbom", "serviceDiscovery", "gpu", "dataPlane", "eventCollection",
    "orchestratorExplorer", "kubeStateMetricsCore", "admissionController", "externalMetricsServer",
    "autoscaling", "clusterChecks", "prometheusScrape", "helmCheck", "controlPlaneMonitoring",
    "kubernetesActions"]

def componentFields : List String :=
  ["name", "replicas", "createPodDisruptionBudget", "createRbac", "serviceAccountName",
    "serviceAccountAnnotations", "image", "env", "envFrom", "customConfigurations", "extraConfd",
    "extraChecksd", "celWorkloadExclude", "containers", "volumes", "securityContext",
    "priorityClassName", "runtimeClassName", "affinity", "dnsPolicy", "dnsConfig", "nodeSelector",
    "updateStrategy", "tolerations", "annotations", "labels", "hostNetwork", "hostPID", "disabled",
    "topologySpreadConstraints"]

def containerFields : List String :=
  ["name", "logLevel", "ports", "env", "volumeMounts", "resources", "command", "args", "healthPort",
    "readinessProbe", "livenessProbe", "startupProbe", "securityContext", "seccompConfig",
    "appArmorProfileName"]

def DatadogFeatures.isSet (features : DatadogFeatures) (field : String) : Bool :=
  if field = "apm" then features.apm.isSome
  else if field = "admissionController" then features.admissionController.isSome
  else features.others.contains field

def ComponentOverride.isSet (override : ComponentOverride) (field : String) : Bool :=
  if field = "name" then override.name.isSome
  else if field = "image" then override.image.isSome
  else if field = "affinity" then override.affinity.isSome
  else if field = "disabled" then override.disabled.isSome
  else override.others.contains field

def supportedContainers : List String :=
  ["agent", "trace-agent", "process-agent", "security-agent", "system-probe", "otel-agent",
    "agent-data-plane"]

def validateFeatures : Option DatadogFeatures → Except ProfileError Unit
  | none => .ok ()
  | some features => validateAllowlistedFields featureFields features.isSet
      datadogAgentProfileFeatureAllowlist id

def validateContainerOverride (name : String) (override : Option GenericContainer) :
    Except ProfileError Unit :=
  if name ∉ supportedContainers then .error (.unsupported ("container " ++ name))
  else match override with
    | none => .error (.undefined ("container " ++ name))
    | some override => validateAllowlistedFields containerFields override.set.contains
        datadogAgentProfileContainerOverrideAllowlist fun field =>
          "container " ++ splitJSONFieldName field

def validateOverride (component : ComponentName) (override : Option ComponentOverride) :
    Except ProfileError Unit :=
  if component ≠ .nodeAgent then .error .otherComponent
  else match override with
    | none => .error (.undefined "component override")
    | some override => do
      validateAllowlistedFields componentFields override.isSet
        datadogAgentProfileComponentOverrideAllowlist fun field =>
          "component " ++ splitJSONFieldName field
      override.containers.entries.forM fun entry => validateContainerOverride entry.1 entry.2

def validateConfig : Option Spec → Except ProfileError Unit
  | none => .error (.undefined "config")
  | some spec => do
    validateFeatures spec.features
    if spec.global.isSome then throw (.unsupported "global")
    spec.override.entries.forM fun entry => validateOverride entry.1 entry.2

def validateProfileAffinity :
    Option (Option (List NodeSelectorRequirement)) → Except ProfileError Unit
  | none => .error (.undefined "profileAffinity")
  | some none => .error (.undefined "profileNodeAffinity")
  | some (some []) => .error .noRequirement
  | some (some (_ :: _)) => .ok ()

def validateDatadogAgentProfileSpec (spec : ProfileSpec) : Except ProfileError Unit := do
  validateProfileAffinity spec.profileAffinity
  validateConfig spec.config

def validateProfile (profile : Profile) : Except ProfileError Unit := do
  validateProfileName profile.name
  validateDatadogAgentProfileSpec profile.spec

def parseProfileRequirements (profile : Profile) : Except ProfileError (List Requirement) :=
  (parseRequirements profile.profileNodeAffinity).mapError .requirement

def validateProfileAndReturnRequirements (profile : Profile) :
    Except ProfileError (List Requirement) := do
  validateProfile profile
  parseProfileRequirements profile

end DatadogOperator.Profiles
