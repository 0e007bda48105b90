import DatadogOperator.Dependencies.Store

/-!
# Workloads

Deployments, DaemonSets and ExtendedDaemonSets as the operator builds them, and the
functions of `datadogagentinternal/utils.go` and `reconcile_common.go` that compare and merge
them. Of a pod template the labels, the annotations and the AppArmor profiles are looked at;
the fields nothing reads are one text.
-/

namespace DatadogOperator.Workloads

open Profiles Dependencies

def Carries (labels wanted : Labels) : Prop := wanted ∪ labels = labels

instance (labels wanted : Labels) : Decidable (Carries labels wanted) :=
  inferInstanceAs (Decidable (wanted ∪ labels = labels))

theorem carries_iff : Carries labels wanted ↔ ∀ key value, wanted.lookup key = some value →
      labels.lookup key = some value := by
  constructor
  · intro h key value hvalue
    rw [← h, Finmap.lookup_union, hvalue, Option.some_or]
  · intro h
    refine Finmap.ext_lookup fun key => ?_
    rw [Finmap.lookup_union]
    cases hwanted : wanted.lookup key with
    | none => exact Option.none_or
    | some value => rw [h key value hwanted, Option.some_or]

theorem Carries.refl (labels : Labels) : Carries labels labels := Finmap.union_self labels

/-! ## Pod templates -/

inductive AppArmorProfile
  | runtimeDefault
  | unconfined
  | localhost (profile : String)
  deriving DecidableEq

structure Container where
  name : String
  appArmorProfile : Option AppArmorProfile := none
  fields : String := ""
  deriving DecidableEq

structure PodTemplateSpec where
  labels : Labels := ∅
  annotations : Annotations := ∅
  initContainers : List Container := []
  containers : List Container := []
  fields : String := ""
  deriving DecidableEq

def appArmorAnnotationKey := "container.apparmor.security.beta.kubernetes.io"

/-- `strings.TrimPrefix` -/
def trimStart (s pre : String) : String :=
  if hasPrefix s pre then String.ofList (s.toList.drop pre.toList.length) else s

def appArmorProfileFromAnnotation (value : String) : AppArmorProfile :=
  if value = "" ∨ value = "runtime/default" then .runtimeDefault
  else if value = "unconfined" then .unconfined
  else .localhost (trimStart value "localhost/")

/-- The annotation of a container is for the first one of its name; a profile that is set
stays. -/
def setAppArmorProfiles (annotations : Annotations) : List String → List Container → List Container
  | _, [] => []
  | seen, c :: cs =>
    let profile := if c.name ∈ seen then none
      else annotations.lookup (appArmorAnnotationKey ++ "/" ++ c.name)
    { c with appArmorProfile := c.appArmorProfile <|> profile.map appArmorProfileFromAnnotation } ::
      setAppArmorProfiles annotations (c.name :: seen) cs

def finalizeAppArmorProfile (supportsAppArmorProfile : Bool) (podTemplate : PodTemplateSpec) :
    PodTemplateSpec :=
  if supportsAppArmorProfile then
    { podTemplate with
      containers := setAppArmorProfiles podTemplate.annotations [] podTemplate.containers
      initContainers := setAppArmorProfiles podTemplate.annotations [] podTemplate.initContainers
      annotations := podTemplate.annotations.filterKeys fun key =>
        !hasPrefix key (appArmorAnnotationKey ++ "/") }
  else podTemplate

@[simp] theorem finalizeAppArmorProfile_labels (supports : Bool) (t : PodTemplateSpec) :
    (finalizeAppArmorProfile supports t).labels = t.labels := by
  unfold finalizeAppArmorProfile
  split_ifs <;> rfl

/-! ## Workloads -/

structure LabelSelector where
  matchLabels : Labels := ∅
  matchExpressions : List Requirement := []
  deriving DecidableEq

def LabelSelector.selects (s : LabelSelector) (labels : Labels) : Bool :=
  decide (Carries labels s.matchLabels) && s.matchExpressions.all (·.matches labels)

structure DeploymentSpec where
  replicas : Option Int := none
  selector : LabelSelector
  template : PodTemplateSpec
  fields : String := ""
  deriving DecidableEq

structure DaemonSetSpec where
  selector : LabelSelector
  template : PodTemplateSpec
  fields : String := ""
  deriving DecidableEq

/-- The selector may be left out: pods are then selected by the template. -/
structure ExtendedDaemonSetSpec where
  selector : Option LabelSelector := none
  template : PodTemplateSpec
  fields : String := ""
  deriving DecidableEq

/-- A workload as it is wanted. It is made in the namespace of its DatadogAgentInternal and
has no owner yet, so `SetControllerReference` makes the DatadogAgentInternal its only one. -/
structure Workload (σ : Type) where
  ns : String
  name : String
  labels : Labels := ∅
  annotations : Annotations := ∅
  spec : σ

abbrev Deployment := Workload DeploymentSpec
abbrev DaemonSet := Workload DaemonSetSpec
abbrev ExtendedDaemonSet := Workload ExtendedDaemonSetSpec

variable {σ : Type}

def Workload.key (w : Workload σ) : NamespacedName := ⟨w.ns, w.name⟩

/-! ## Hashes -/

def md5AgentDeploymentAnnotationKey := "agent.datadoghq.com/agentspechash"

def isSameSpecMD5Hash (hash : String) (annotations : Annotations) : Bool :=
  annotations.lookup md5AgentDeploymentAnnotationKey == some hash

def setMD5DatadogAgentGenerationAnnotation (hash : String) (w : Workload σ) : Workload σ :=
  { w with annotations := w.annotations.insert md5AgentDeploymentAnnotationKey hash }

/-! ## Owners -/

structure DDAI where
  name : String
  uid : String

def DDAI.newOwnerRef (ddai : DDAI) : OwnerReference :=
  ⟨"datadoghq.com", "v1alpha1", "DatadogAgentInternal", ddai.name, ddai.uid⟩

def shouldUpdateOwnerReference (currentOwnerRef : List OwnerReference) : Bool :=
  currentOwnerRef.any (·.kind == "DatadogAgent")

def createOwnerReferencePatch (ownerRef : List OwnerReference) (owner : DDAI) :
    List OwnerReference :=
  ownerRef.map fun ref => if ref.kind = "DatadogAgent" then owner.newOwnerRef else ref

theorem shouldUpdateOwnerReference_new (owner : DDAI) :
    shouldUpdateOwnerReference [owner.newOwnerRef] = false := by
  simp [shouldUpdateOwnerReference, DDAI.newOwnerRef]

theorem shouldUpdateOwnerReference_patch (refs : List OwnerReference) (owner : DDAI) :
    shouldUpdateOwnerReference (createOwnerReferencePatch refs owner) = false := by
  unfold shouldUpdateOwnerReference createOwnerReferencePatch
  rw [List.any_eq_false]
  intro ref href
  obtain ⟨r, -, rfl⟩ := List.mem_map.mp href
  split_ifs with h
  · simp [DDAI.newOwnerRef]
  · simpa using h

/-! ## Comparing and merging -/

def mergeAnnotationsLabels (previousVal newVal : Labels) (globFilter : Option (String → Bool)) :
    Labels :=
  newVal ∪ previousVal.filterKeys fun key =>
    globFilter.any (· key) || contains key "datadoghq.com"

theorem mergeAnnotationsLabels_lookup (h : newVal.lookup key = some value) :
    (mergeAnnotationsLabels previousVal newVal f).lookup key = some value := by
  rw [mergeAnnotationsLabels, Finmap.lookup_union, h, Option.some_or]

def getReplicas (currentReplicas newReplicas : Option Int) : Option Int :=
  newReplicas <|> currentReplicas

def ensureSelectorInPodTemplateLabels (selector : Option LabelSelector) (labels : Labels) : Labels :=
  match selector with
  | none => labels
  | some s => s.matchLabels ∪ labels

/-- A change of the name, or of a selector, which is immutable. -/
def restartWorkload (selector : σ → LabelSelector) (w current : Workload σ) : Bool :=
  w.name != current.name || (selector w.spec).matchLabels != (selector current.spec).matchLabels

def restartDeployment : Deployment → Deployment → Bool := restartWorkload DeploymentSpec.selector

def restartDaemonset : DaemonSet → DaemonSet → Bool := restartWorkload DaemonSetSpec.selector

end DatadogOperator.Workloads
