import DatadogOperator.Profiles.Spec

/-!
# Shared config of profiles

`feature/overlay.go` and `feature/apm/profile_overlay.go`: an accepted profile
adds its single-step instrumentation and its local service port to the default
spec, because there is one Cluster Agent for all profiles. Lists are joined,
and a single value that is set already must agree. The APM overlay is the only
one that is registered.
-/

namespace DatadogOperator.Profiles

/-- Library functions around image versions. -/
structure Versions where
  /-- The tag in the name of an image, by a regular expression. -/
  getTagFromImageName : String → String
  /-- `IsAboveMinVersion` with no default: a comparison of semantic versions. -/
  isAboveMinVersion : String → String → Bool

/-- Tags are whole names, and every version will do. -/
def plainVersions : Versions where
  getTagFromImageName name := name
  isAboveMinVersion _ _ := true

inductive OverlayError
  | portConflict
  | apmDisabled
  | admissionController
  | clusterAgentDisabled
  | targetsVersion
  | bothNamespaces
  /-- Some key has another value; which one is named depends on the order of the map. -/
  | libVersions
  | languageDetection
  | imageTag (existing value : String)
  | injectionMode (existing value : String)

def minInstrumentationTargetsVersion := "7.64.0-0"
def clusterAgentLatestVersion := "7.81.1"
def defaultApmPort : Int := 8126

/-! ## The local service port -/

def shouldEnableAPM : Option APMFeatureConfig → Bool
  | none => false
  | some apm =>
    match apm.enabled with
    | some enabled => enabled
    | none =>
      if apm.singleStepInstrumentation.any fun ssi => ssi.enabled.getD false then true
      else (apm.errorTrackingStandalone.map (·.getD false)).getD false

/-- The port of `apmLocalAgentServicePorts` of a spec alone, without an object. -/
def profileLocalAgentServicePort (spec : Spec) : Option Int :=
  match spec.features.bind (·.apm) with
  | none => none
  | some apm =>
    if shouldEnableAPM (some apm) = false then none
    else match apm.hostPortConfig with
      | some hostPort =>
        if hostPort.enabled.getD false then some (hostPort.port.getD defaultApmPort)
        else some defaultApmPort
      | none => some defaultApmPort

def existingLocalAgentServicePort (dst base : Spec) : Option Int :=
  match profileLocalAgentServicePort base with
  | some port => some port
  | none =>
    match (dst.features.bind (·.apm)).bind (·.hostPortConfig) with
    | some hostPort => if hostPort.enabled.getD false then hostPort.port else none
    | none => none

def Spec.withAPM (spec : Spec) (f : APMFeatureConfig → APMFeatureConfig) : Spec :=
  let features := spec.features.getD {}
  { spec with features := some { features with apm := some (f (features.apm.getD {})) } }

def applyProfileLocalAgentServicePort (dst base profile : Spec) : Except OverlayError Spec :=
  match profileLocalAgentServicePort profile with
  | none => .ok dst
  | some profilePort =>
    match existingLocalAgentServicePort dst base with
    | some existing => if existing ≠ profilePort then .error .portConflict else .ok dst
    | none => .ok (dst.withAPM fun apm =>
        { apm with hostPortConfig := some { enabled := some true, port := some profilePort } })

/-! ## Single-step instrumentation -/

def profileSSIOverlayConfig (profile : Spec) : Option SingleStepInstrumentation :=
  ((profile.features.bind (·.apm)).bind (·.singleStepInstrumentation)).filter fun ssi =>
    ssi.enabled.getD false

def admissionControllerEnabled (spec : Spec) : Bool :=
  ((spec.features.bind (·.admissionController)).map (·.getD false)).getD false

def defaultClusterAgentDisabled (spec : Spec) : Bool :=
  ((spec.component .clusterAgent).map (·.disabled.getD false)).getD false

def validateSSISharedComponentPrerequisites (spec : Spec) : Except OverlayError Unit :=
  if admissionControllerEnabled spec = false then .error .admissionController
  else if defaultClusterAgentDisabled spec then .error .clusterAgentDisabled
  else .ok ()

def getAgentVersionFromImage (versions : Versions) (image : AgentImageConfig) : String :=
  if image.tag ≠ "" then image.tag
  else if image.name ≠ "" then
    let tag := versions.getTagFromImageName image.name
    (tag.dropSuffix? "-jmx").map (·.toString) |>.getD tag
  else ""

def supportsInstrumentationTargets (versions : Versions) (spec : Spec) : Bool :=
  match (spec.component .clusterAgent).bind (·.image) with
  | some image => versions.isAboveMinVersion (getAgentVersionFromImage versions image)
      minInstrumentationTargetsVersion
  | none => versions.isAboveMinVersion clusterAgentLatestVersion minInstrumentationTargetsVersion

/-- An instrumentation that is not enabled counts for nothing. -/
def baseSSIForProfileOverlay (dst : Spec) : SingleStepInstrumentation :=
  match (dst.features.bind (·.apm)).bind (·.singleStepInstrumentation) with
  | some ssi => if ssi.enabled.getD false then ssi else {}
  | none => {}

def appendDeduplicateStrings (dst src : List String) : List String :=
  if src.isEmpty then dst
  else (dst ++ src).foldl (fun out value => if out.contains value then out else out ++ [value]) []

def mergeStringMap (dst src : Finmap fun _ : String => String) :
    Except OverlayError (Finmap fun _ : String => String) :=
  if ∀ key ∈ src.keys, ∀ existing ∈ dst.lookup key, src.lookup key = some existing then
    .ok (src ∪ dst)
  else .error .libVersions

def mergeLanguageDetection (dst src : Option LanguageDetectionConfig) :
    Except OverlayError (Option LanguageDetectionConfig) :=
  match src.bind (·.enabled) with
  | none => .ok dst
  | some value =>
    match dst.bind (·.enabled) with
    | some existing =>
      if existing ≠ value then .error .languageDetection else .ok (some { enabled := some value })
    | none => .ok (some { enabled := some value })

def mergeStringLikeField (dst src : String) (conflict : String → String → OverlayError) :
    Except OverlayError String :=
  if src = "" then .ok dst
  else if dst ≠ "" ∧ dst ≠ src then .error (conflict dst src)
  else .ok src

def mergeInjector (dst src : Option InjectorConfig) : Except OverlayError (Option InjectorConfig) :=
  match src with
  | none => .ok dst
  | some src => do
    let imageTag ← mergeStringLikeField (dst.getD {}).imageTag src.imageTag .imageTag
    return some { imageTag }

def mergeInjectionMode (dst src : String) : Except OverlayError String :=
  mergeStringLikeField dst src .injectionMode

/-- In the order of the profile: the first target that matches counts. -/
def mergeSSITargets (dst src : List SSITarget) : List SSITarget := dst ++ src

def mergeSSI (dst src : SingleStepInstrumentation) :
    Except OverlayError SingleStepInstrumentation := do
  let enabledNamespaces := appendDeduplicateStrings dst.enabledNamespaces src.enabledNamespaces
  let disabledNamespaces := appendDeduplicateStrings dst.disabledNamespaces src.disabledNamespaces
  if enabledNamespaces ≠ [] ∧ disabledNamespaces ≠ [] then throw .bothNamespaces
  let libVersions ← mergeStringMap dst.libVersions src.libVersions
  let languageDetection ← mergeLanguageDetection dst.languageDetection src.languageDetection
  let injector ← mergeInjector dst.injector src.injector
  let injectionMode ← mergeInjectionMode dst.injectionMode src.injectionMode
  return { dst with enabledNamespaces, disabledNamespaces, libVersions, languageDetection, injector
                    injectionMode, targets := mergeSSITargets dst.targets src.targets }

def defaultLanguageDetection (ssi : SingleStepInstrumentation) : SingleStepInstrumentation :=
  if (ssi.languageDetection.bind (·.enabled)).isSome then ssi
  else { ssi with languageDetection := some { enabled := some true } }

/-! ## The overlay -/

def applyAPMProfileSharedConfigOverlay (versions : Versions) (dst base profile : Spec) :
    Except OverlayError Spec := do
  let dst ← applyProfileLocalAgentServicePort dst base profile
  match profileSSIOverlayConfig profile with
  | none => return dst
  | some profileSSI =>
    if ((profile.features.bind (·.apm)).bind (·.enabled)) = some false then throw .apmDisabled
    validateSSISharedComponentPrerequisites dst
    if profileSSI.targets ≠ [] ∧ supportsInstrumentationTargets versions dst = false then
      throw .targetsVersion
    let ssi ← mergeSSI (baseSSIForProfileOverlay dst) profileSSI
    return dst.withAPM fun apm => { apm with
      singleStepInstrumentation := some (defaultLanguageDetection { ssi with enabled := some true }) }

/-- The overlays in the order of their IDs, of which there is one. -/
def applyProfileSharedConfigOverlays (versions : Versions) (dst base profile : Spec) :
    Except OverlayError Spec :=
  applyAPMProfileSharedConfigOverlay versions dst base profile

section
variable {versions : Versions} {dst dst' base profile spec : Spec}

theorem applyProfileLocalAgentServicePort_override
    (h : applyProfileLocalAgentServicePort dst base profile = .ok dst') :
    dst'.override = dst.override := by
  unfold applyProfileLocalAgentServicePort at h
  repeat' split at h
  all_goals cases h
  all_goals rfl

theorem overlay_override
    (h : applyProfileSharedConfigOverlays versions dst base profile = .ok spec) :
    spec.override = dst.override := by
  simp only [applyProfileSharedConfigOverlays, applyAPMProfileSharedConfigOverlay, bind,
    Except.bind, pure, Except.pure, throw, throwThe, MonadExceptOf.throw] at h
  -- Each check that fails ends the overlay; the two ways through change features only.
  repeat' split at h
  all_goals cases h
  all_goals
    have hport := ‹applyProfileLocalAgentServicePort dst base profile = .ok _›
    have hoverride := applyProfileLocalAgentServicePort_override hport
    exact hoverride

theorem overlay_of_no_apm (h : profile.features.bind (·.apm) = none) :
    applyProfileSharedConfigOverlays versions dst base profile = .ok dst := by
  simp [applyProfileSharedConfigOverlays, applyAPMProfileSharedConfigOverlay,
    applyProfileLocalAgentServicePort, profileLocalAgentServicePort, profileSSIOverlayConfig, h,
    bind, Except.bind, pure, Except.pure]

end

end DatadogOperator.Profiles
