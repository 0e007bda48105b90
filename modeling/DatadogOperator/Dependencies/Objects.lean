import DatadogOperator.Dependencies.Rbac
import DatadogOperator.Profiles.Internals

/-!
# Dependencies

The objects the agents depend on, with what the operator manages of them: the
comparison of pkg/equality and the preprocessing of `datadogagent/store`, both by
kind. Resource versions are left out: they decide whether a write succeeds, not
what it writes.
-/

namespace DatadogOperator.Dependencies

open Profiles

inductive ObjectKind
  | apiService
  | ciliumNetworkPolicies
  | clusterRoles
  | clusterRoleBinding
  | configMap
  | mutatingWebhookConfigurations
  | networkPolicies
  | node
  | podDisruptionBudgets
  | roleBinding
  | roles
  | secrets
  | serviceAccounts
  | services
  | validatingWebhookConfigurations
  deriving DecidableEq

def getResourcesKind (withCiliumResources : Bool) : List ObjectKind :=
  [.apiService, .clusterRoles, .clusterRoleBinding, .configMap, .mutatingWebhookConfigurations,
    .networkPolicies, .podDisruptionBudgets, .roles, .roleBinding, .secrets, .serviceAccounts,
    .services, .validatingWebhookConfigurations] ++
  if withCiliumResources then [.ciliumNetworkPolicies] else []

/-- Kind, namespace and name; the namespace of cluster-level objects is empty. -/
structure ObjectID where
  kind : ObjectKind
  ns : String := ""
  name : String
  deriving DecidableEq

structure OwnerReference where
  group : String
  version : String
  kind : String
  name : String
  uid : String
  deriving DecidableEq

structure RoleRef where
  apiGroup : String
  kind : String
  name : String
  deriving DecidableEq

structure Subject where
  kind : String
  apiGroup : String := ""
  name : String
  ns : String := ""
  deriving DecidableEq

structure ServicePort where
  name : String
  protocol : String
  port : Nat
  targetPort : String
  deriving DecidableEq

structure ServiceSpec where
  selector : Labels := ∅
  ports : List ServicePort := []
  internalTrafficPolicy : Option String := none
  clusterIP : String := ""
  clusterIPs : List String := []

/-- A map of the source that may be nil. -/
abbrev Data := Option (Finmap fun _ : String => String)

/-- An object without its name; of the content only the part of its kind is used.
The specs of webhooks, APIServices, budgets and policies are compared as a whole. -/
structure KubeObject where
  labels : Labels := ∅
  annotations : Annotations := ∅
  ownerReferences : List OwnerReference := []
  data : Data := none
  binaryData : Data := none
  rules : List PolicyRule := []
  roleRef : RoleRef := ⟨"", "", ""⟩
  subjects : List Subject := []
  service : ServiceSpec := {}
  spec : String := ""

/-! ## Comparison -/

/-- Compares JSON, in which nil is not the empty map. -/
def isEqualStruct (a b : Data) : Bool := a == b

def isEqualOperatorAnnotations (a b : KubeObject) : Bool := a.annotations = b.annotations

def isEqualOperatorLabels (a b : KubeObject) : Bool := a.labels = b.labels

/-- Objects of one name. -/
def isEqualOperatorObjectMeta (a b : KubeObject) : Bool :=
  a.ownerReferences == b.ownerReferences && isEqualOperatorAnnotations a b &&
    isEqualOperatorLabels a b

/-- The binary data is compared with itself, as in the source. -/
def isEqualConfigMap (a b : KubeObject) : Bool :=
  isEqualStruct a.data b.data && isEqualStruct a.binaryData a.binaryData

def isEqualRules (a b : KubeObject) : Bool := a.rules == b.rules

def isEqualBinding (a b : KubeObject) : Bool := a.roleRef == b.roleRef && a.subjects == b.subjects

def isEqualSpec (a b : KubeObject) : Bool := a.spec == b.spec

def isEqualSecrets (a b : KubeObject) : Bool := isEqualStruct a.data b.data

def isEqualServiceSpec (a b : ServiceSpec) : Bool :=
  a.selector = b.selector && a.ports == b.ports &&
    a.internalTrafficPolicy == b.internalTrafficPolicy

def isEqualObject (kind : ObjectKind) (a b : KubeObject) : Bool :=
  isEqualOperatorObjectMeta a b &&
    match kind with
    | .configMap => isEqualConfigMap a b
    | .clusterRoles | .roles => isEqualRules a b
    | .clusterRoleBinding | .roleBinding => isEqualBinding a b
    | .secrets => isEqualSecrets a b
    | .services => isEqualServiceSpec a.service b.service
    | .serviceAccounts => true
    | .validatingWebhookConfigurations | .mutatingWebhookConfigurations | .apiService
    | .podDisruptionBudgets | .networkPolicies | .ciliumNetworkPolicies => isEqualSpec a b
    | .node => false

/-! ## Preprocessing -/

def preprocessRole (obj : KubeObject) : KubeObject :=
  if obj.rules.length > 0 then { obj with rules := normalizePolicyRules obj.rules } else obj

/-- The cluster IPs are immutable. -/
def preprocessService (obj : KubeObject) (live : Option KubeObject) : KubeObject :=
  match live with
  | some live => { obj with service := { obj.service with
      clusterIP := live.service.clusterIP, clusterIPs := live.service.clusterIPs } }
  | none => obj

def applyPreprocessing (kind : ObjectKind) (obj : KubeObject) (live : Option KubeObject) :
    KubeObject :=
  match kind with
  | .clusterRoles | .roles => preprocessRole obj
  | .services => preprocessService obj live
  | _ => obj

/-! ## Managed content -/

/-- The content of an object that the operator manages, and nothing else of it. -/
def KubeObject.managed (kind : ObjectKind) (obj : KubeObject) : KubeObject :=
  let managed : KubeObject :=
    { labels := obj.labels
      annotations := obj.annotations
      ownerReferences := obj.ownerReferences }
  match kind with
  | .configMap => { managed with data := obj.data, binaryData := obj.binaryData }
  | .clusterRoles | .roles => { managed with rules := obj.rules }
  | .clusterRoleBinding | .roleBinding =>
    { managed with roleRef := obj.roleRef, subjects := obj.subjects }
  | .secrets => { managed with data := obj.data }
  | .services =>
    { managed with service := { obj.service with clusterIP := "", clusterIPs := [] } }
  | .serviceAccounts | .node => managed
  | .validatingWebhookConfigurations | .mutatingWebhookConfigurations | .apiService
  | .podDisruptionBudgets | .networkPolicies | .ciliumNetworkPolicies =>
    { managed with spec := obj.spec }

section

variable {kind : ObjectKind} {a b obj : KubeObject} {live : Option KubeObject}

theorem isEqualOperatorObjectMeta_iff : isEqualOperatorObjectMeta a b = true ↔
    a.ownerReferences = b.ownerReferences ∧ a.annotations = b.annotations ∧
      a.labels = b.labels := by
  simp [isEqualOperatorObjectMeta, isEqualOperatorAnnotations, isEqualOperatorLabels, and_assoc]

theorem isEqualObject_iff (hnode : kind ≠ .node) :
    isEqualObject kind a b = true ∧ (kind = .configMap → a.binaryData = b.binaryData) ↔
      a.managed kind = b.managed kind := by
  unfold isEqualObject
  rw [Bool.and_eq_true, isEqualOperatorObjectMeta_iff]
  cases kind with
  | node => exact absurd rfl hnode
  | services =>
    cases a with | _ _ _ _ _ _ _ _ _ sa _ =>
    cases b with | _ _ _ _ _ _ _ _ _ sb _ =>
    cases sa
    cases sb
    simp [KubeObject.managed, isEqualServiceSpec]
    tauto
  | _ =>
    simp [KubeObject.managed, isEqualConfigMap, isEqualStruct, isEqualRules, isEqualBinding,
      isEqualSecrets, isEqualSpec]
    tauto

end

end DatadogOperator.Dependencies
