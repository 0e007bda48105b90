import DatadogOperator.Dependencies.Store
import DatadogOperator.Lib.Removal

/-!
# The RBAC manager

`merger/rbac.go`: service accounts, roles and cluster roles are added to the store with
their bindings, and the names are recorded for a component. When a user turns off the RBAC
of a component, all that was recorded for it is deleted from the store. Names are recorded
call by call, so a role that two features extend is deleted twice, and the second time is
an error.
-/

namespace DatadogOperator.Merger

open Dependencies Grouping Removal Runs

structure RBACManager where
  store : Store
  serviceAccountByComponent : AList fun _ : String => List String := ∅
  roleByComponent : AList fun _ : String => List String := ∅
  clusterRoleByComponent : AList fun _ : String => List String := ∅

def newRBACManager (store : Store) : RBACManager := { store }

/-- `Store.GetOrCreate`. The objects of a kind have the type of the kind. -/
def getOrCreate (store : Store) (id : ObjectID) : KubeObject := (store.deps.lookup id).getD {}

def rbacAPIGroup := "rbac.authorization.k8s.io"
def roleKind := "Role"
def clusterRoleKind := "ClusterRole"
def serviceAccountKind := "ServiceAccount"

/-! ## Adding -/

def addPolicies (store : Store) (id : ObjectID) (policies : List PolicyRule) : Store :=
  let role := getOrCreate store id
  store.addOrUpdate id { role with rules := role.rules ++ policies }

/-- A subject is bound once. -/
def addBinding (store : Store) (id : ObjectID) (saNamespace saName : String) (roleRef : RoleRef) :
    Store :=
  let binding := getOrCreate store id
  let found := binding.subjects.any fun sub =>
    sub.ns = saNamespace ∧ sub.name = saName ∧ sub.kind = serviceAccountKind
  let subject := { kind := serviceAccountKind, name := saName, ns := saNamespace }
  store.addOrUpdate id
    { binding with
      roleRef
      subjects := if found then binding.subjects else binding.subjects ++ [subject] }

namespace RBACManager

def addServiceAccount (m : RBACManager) (ns name : String) : RBACManager :=
  let id : ObjectID := ⟨.serviceAccounts, ns, name⟩
  { m with store := m.store.addOrUpdate id (getOrCreate m.store id) }

def addServiceAccountByComponent (m : RBACManager) (ns name component : String) : RBACManager :=
  { m with
    serviceAccountByComponent :=
      Grouping.append m.serviceAccountByComponent component [name] }.addServiceAccount ns name

def addRoleBinding (m : RBACManager) (roleNamespace roleName saNamespace saName : String)
    (roleRef : RoleRef) : RBACManager :=
  { m with
    store := addBinding m.store ⟨.roleBinding, roleNamespace, roleName⟩ saNamespace saName roleRef }

def addClusterRoleBinding (m : RBACManager) (ns roleName saName : String) (roleRef : RoleRef) :
    RBACManager :=
  { m with store := addBinding m.store ⟨.clusterRoleBinding, "", roleName⟩ ns saName roleRef }

/-- Without a namespace for the service account, that of the role is used. -/
def addPolicyRules (m : RBACManager) (ns roleName saName : String) (policies : List PolicyRule)
    (saNamespace : Option String := none) : RBACManager :=
  { m with store := addPolicies m.store ⟨.roles, ns, roleName⟩ policies }.addRoleBinding ns roleName
    (saNamespace.getD ns) saName ⟨rbacAPIGroup, roleKind, roleName⟩

def addPolicyRulesByComponent (m : RBACManager) (ns roleName saName : String)
    (policies : List PolicyRule) (component : String) : RBACManager :=
  { m with roleByComponent := Grouping.append m.roleByComponent component [roleName] }.addPolicyRules
    ns roleName saName policies

def addClusterPolicyRules (m : RBACManager) (ns roleName saName : String)
    (policies : List PolicyRule) : RBACManager :=
  { m with
    store := addPolicies m.store ⟨.clusterRoles, "", roleName⟩ policies }.addClusterRoleBinding ns
      roleName saName ⟨rbacAPIGroup, clusterRoleKind, roleName⟩

def addClusterPolicyRulesByComponent (m : RBACManager) (ns roleName saName : String)
    (policies : List PolicyRule) (component : String) : RBACManager :=
  { m with
    clusterRoleByComponent :=
      Grouping.append m.clusterRoleByComponent component [roleName] }.addClusterPolicyRules ns
        roleName saName policies

end RBACManager

/-! ## Deleting -/

def notFoundError (what ns name : String) : String :=
  "unable to delete " ++ what ++ " from the store because it was not found: " ++ ns ++ "/" ++ name

/-- What is deleted with a name: one object after the other, up to one that is not found. -/
def serviceAccountGroup (ns name : String) : Group ObjectID String :=
  [(⟨.serviceAccounts, ns, name⟩, notFoundError "ServiceAccount" ns name)]

def roleGroup (ns roleName : String) : Group ObjectID String :=
  [(⟨.roles, ns, roleName⟩, notFoundError "Role" ns roleName),
    (⟨.roleBinding, ns, roleName⟩, notFoundError "RoleBinding" ns roleName)]

def clusterRoleGroup (roleName : String) : Group ObjectID String :=
  [(⟨.clusterRoles, "", roleName⟩, notFoundError "ClusterRole" "" roleName),
    (⟨.clusterRoleBinding, "", roleName⟩, notFoundError "ClusterRoleBinding" "" roleName)]

namespace RBACManager

def delete (m : RBACManager) (g : Group ObjectID String) : RBACManager × Option String :=
  let r := removeGroup m.store.deps g
  ({ m with store := { m.store with deps := r.1 } }, r.2)

def deleteServiceAccount (m : RBACManager) (ns name : String) : RBACManager × Option String :=
  m.delete (serviceAccountGroup ns name)

def deleteRole (m : RBACManager) (ns roleName : String) : RBACManager × Option String :=
  m.delete (roleGroup ns roleName)

def deleteClusterRole (m : RBACManager) (roleName : String) : RBACManager × Option String :=
  m.delete (clusterRoleGroup roleName)

/-- Name by name, whether one fails or not. -/
def deleteEach (m : RBACManager) (names : List String)
    (deleteOne : RBACManager → String → RBACManager × Option String) : RBACManager × List String :=
  names.foldl (fun acc name =>
    let r := deleteOne acc.1 name
    (r.1, acc.2 ++ r.2.toList)) (m, [])

def deleteServiceAccountByComponent (m : RBACManager) (component ns : String) :
    RBACManager × List String :=
  m.deleteEach (values m.serviceAccountByComponent component) (·.deleteServiceAccount ns)

def deleteRoleByComponent (m : RBACManager) (component ns : String) : RBACManager × List String :=
  m.deleteEach (values m.roleByComponent component) (·.deleteRole ns)

def deleteClusterRoleByComponent (m : RBACManager) (component : String) :
    RBACManager × List String :=
  m.deleteEach (values m.clusterRoleByComponent component) deleteClusterRole

/-- The part of `overrideRBAC` for a component without RBAC. -/
def deleteByComponent (m : RBACManager) (component ns : String) : RBACManager × List String :=
  let accounts := m.deleteServiceAccountByComponent component ns
  let roles := accounts.1.deleteRoleByComponent component ns
  let clusterRoles := roles.1.deleteClusterRoleByComponent component
  (clusterRoles.1, accounts.2 ++ roles.2 ++ clusterRoles.2)

end RBACManager

/-! ## Calls of features -/

inductive AddCall
  | serviceAccount (name component : String)
  | policyRules (roleName saName : String) (policies : List PolicyRule) (component : String)
  | clusterPolicyRules (roleName saName : String) (policies : List PolicyRule) (component : String)

def RBACManager.add (ns : String) (m : RBACManager) : AddCall → RBACManager
  | .serviceAccount name component => m.addServiceAccountByComponent ns name component
  | .policyRules roleName saName policies component =>
    m.addPolicyRulesByComponent ns roleName saName policies component
  | .clusterPolicyRules roleName saName policies component =>
    m.addClusterPolicyRulesByComponent ns roleName saName policies component

def AddCall.serviceAccountOf (component : String) : AddCall → Option String
  | .serviceAccount name c => if component = c then some name else none
  | _ => none

def AddCall.roleOf (component : String) : AddCall → Option String
  | .policyRules roleName _ _ c => if component = c then some roleName else none
  | _ => none

def AddCall.clusterRoleOf (component : String) : AddCall → Option String
  | .clusterPolicyRules roleName _ _ c => if component = c then some roleName else none
  | _ => none

def recorded (ns component : String) (calls : List AddCall) : List ObjectID :=
  ((calls.filterMap (AddCall.serviceAccountOf component)).flatMap fun name =>
      [⟨.serviceAccounts, ns, name⟩]) ++
    ((calls.filterMap (AddCall.roleOf component)).flatMap fun name =>
      [⟨.roles, ns, name⟩, ⟨.roleBinding, ns, name⟩]) ++
    (calls.filterMap (AddCall.clusterRoleOf component)).flatMap fun name =>
      [⟨.clusterRoles, "", name⟩, ⟨.clusterRoleBinding, "", name⟩]

/-! ## What is recorded is there -/

/-- All that is deleted for a component, in the order of the calls. -/
def RBACManager.groups (m : RBACManager) (component ns : String) : List (Group ObjectID String) :=
  (values m.serviceAccountByComponent component).map (serviceAccountGroup ns) ++
    (values m.roleByComponent component).map (roleGroup ns) ++
    (values m.clusterRoleByComponent component).map clusterRoleGroup

def recordedGroups (ns component : String) (calls : List AddCall) : List (Group ObjectID String) :=
  (calls.filterMap (AddCall.serviceAccountOf component)).map (serviceAccountGroup ns) ++
    (calls.filterMap (AddCall.roleOf component)).map (roleGroup ns) ++
    (calls.filterMap (AddCall.clusterRoleOf component)).map clusterRoleGroup

section
variable {ns component : String} {m : RBACManager} {calls : List AddCall} {id : ObjectID}

theorem keys_recordedGroups :
    (recordedGroups ns component calls).flatMap Group.keys = recorded ns component calls := by
  simp only [recordedGroups, recorded, List.flatMap_append, List.flatMap_map]
  rfl

theorem mem_recorded_cons (call : AddCall) : id ∈ recorded ns component (call :: calls) ↔
    id ∈ recorded ns component [call] ∨ id ∈ recorded ns component calls := by
  have hcons : ∀ f : AddCall → Option String, (call :: calls).filterMap f =
      [call].filterMap f ++ calls.filterMap f := fun f => List.filterMap_append (l := [call])
  simp only [recorded, hcons, List.flatMap_append, List.mem_append]
  tauto

@[simp] theorem mem_addOrUpdate {store : Store} {id' : ObjectID} :
    id ∈ (store.addOrUpdate id' obj).deps ↔ id = id' ∨ id ∈ store.deps := by
  simp [Store.addOrUpdate]

@[simp] theorem mem_addPolicies {store : Store} {id' : ObjectID} :
    id ∈ (addPolicies store id' policies).deps ↔ id = id' ∨ id ∈ store.deps := by
  simp [addPolicies]

@[simp] theorem mem_addBinding {store : Store} {roleRef : RoleRef}
    {id' : ObjectID} : id ∈ (addBinding store id' saNamespace saName roleRef).deps ↔
      id = id' ∨ id ∈ store.deps := by
  simp [addBinding]

theorem mem_add (call : AddCall) : id ∈ (m.add ns call).store.deps ↔
    (∃ component, id ∈ recorded ns component [call]) ∨ id ∈ m.store.deps := by
  cases call with
  | serviceAccount name c =>
    simp [RBACManager.add, RBACManager.addServiceAccountByComponent, RBACManager.addServiceAccount,
      recorded, AddCall.serviceAccountOf, AddCall.roleOf, AddCall.clusterRoleOf]
  | policyRules roleName saName policies c =>
    simp [RBACManager.add, RBACManager.addPolicyRulesByComponent, RBACManager.addPolicyRules,
      RBACManager.addRoleBinding, recorded, AddCall.serviceAccountOf, AddCall.roleOf,
      AddCall.clusterRoleOf, or_left_comm, or_assoc]
  | clusterPolicyRules roleName saName policies c =>
    simp [RBACManager.add, RBACManager.addClusterPolicyRulesByComponent,
      RBACManager.addClusterPolicyRules, RBACManager.addClusterRoleBinding, recorded,
      AddCall.serviceAccountOf, AddCall.roleOf, AddCall.clusterRoleOf, or_left_comm, or_assoc]

theorem mem_run_of_recorded (h : id ∈ recorded ns component calls) :
    id ∈ (run (RBACManager.add ns) m calls).store.deps := by
  induction calls generalizing m with
  | nil => cases h
  | cons call calls ih =>
    rw [run, List.foldl_cons]
    rcases (mem_recorded_cons call).mp h with h | h
    · exact run_always (I := fun m : RBACManager => id ∈ m.store.deps)
        (fun m call hm => (mem_add call).mpr (.inr hm))
        ((mem_add call).mpr (.inl ⟨component, h⟩)) calls
    · exact ih h

theorem filterMap_cons_toList (f : AddCall → Option String) (call : AddCall) :
    (call :: calls).filterMap f = (f call).toList ++ calls.filterMap f := by
  rw [List.filterMap_cons]
  cases f call <;> rfl

theorem values_append_if (map : AList fun _ : String => List String) (c name : String) :
    values (Grouping.append map c [name]) component =
      values map component ++ (if component = c then some name else none).toList := by
  rw [values_append]
  split_ifs <;> rfl

theorem values_add_serviceAccount (call : AddCall) :
    values (m.add ns call).serviceAccountByComponent component =
      values m.serviceAccountByComponent component ++ (call.serviceAccountOf component).toList := by
  cases call with
  | serviceAccount name c => exact values_append_if m.serviceAccountByComponent c name
  | policyRules => exact (List.append_nil _).symm
  | clusterPolicyRules => exact (List.append_nil _).symm

theorem values_add_role (call : AddCall) : values (m.add ns call).roleByComponent component =
      values m.roleByComponent component ++ (call.roleOf component).toList := by
  cases call with
  | serviceAccount => exact (List.append_nil _).symm
  | policyRules roleName saName policies c => exact values_append_if m.roleByComponent c roleName
  | clusterPolicyRules => exact (List.append_nil _).symm

theorem values_add_clusterRole (call : AddCall) :
    values (m.add ns call).clusterRoleByComponent component =
      values m.clusterRoleByComponent component ++ (call.clusterRoleOf component).toList := by
  cases call with
  | serviceAccount => exact (List.append_nil _).symm
  | policyRules => exact (List.append_nil _).symm
  | clusterPolicyRules roleName saName policies c =>
    exact values_append_if m.clusterRoleByComponent c roleName

theorem groups_run (s : Store) : (run (RBACManager.add ns) (newRBACManager s) calls).groups
    component ns = recordedGroups ns component calls := by
  suffices h : ∀ m : RBACManager,
      values (run (RBACManager.add ns) m calls).serviceAccountByComponent component =
        values m.serviceAccountByComponent component ++
          calls.filterMap (AddCall.serviceAccountOf component) ∧
      values (run (RBACManager.add ns) m calls).roleByComponent component =
        values m.roleByComponent component ++ calls.filterMap (AddCall.roleOf component) ∧
      values (run (RBACManager.add ns) m calls).clusterRoleByComponent component =
        values m.clusterRoleByComponent component ++
          calls.filterMap (AddCall.clusterRoleOf component) by
    obtain ⟨haccounts, hroles, hclusterRoles⟩ := h (newRBACManager s)
    rw [RBACManager.groups, haccounts, hroles, hclusterRoles]
    simp [newRBACManager, recordedGroups]
  induction calls with
  | nil => simp [run]
  | cons call calls ih =>
    intro m
    obtain ⟨haccounts, hroles, hclusterRoles⟩ := ih (m.add ns call)
    rw [run, List.foldl_cons]
    refine ⟨haccounts.trans ?_, hroles.trans ?_, hclusterRoles.trans ?_⟩
    · rw [values_add_serviceAccount, filterMap_cons_toList, List.append_assoc]
    · rw [values_add_role, filterMap_cons_toList, List.append_assoc]
    · rw [values_add_clusterRole, filterMap_cons_toList, List.append_assoc]

/-! ## Deleting what is recorded -/

def RBACManager.withDeps (m : RBACManager) (deps : AList fun _ : ObjectID => KubeObject) :
    RBACManager :=
  { m with store := { m.store with deps } }

theorem deleteEach_eq (g : String → Group ObjectID String)
    (h : ∀ m name, D m name = m.delete (g name)) (m : RBACManager) (names : List String) :
    m.deleteEach names D = (m.withDeps (removeGroups m.store.deps (names.map g)).1,
        (removeGroups m.store.deps (names.map g)).2) := by
  suffices hacc : ∀ errs, names.foldl (fun acc name =>
      let r := D acc.1 name
      (r.1, acc.2 ++ r.2.toList)) (m, errs) =
      (m.withDeps (removeGroups m.store.deps (names.map g)).1,
        errs ++ (removeGroups m.store.deps (names.map g)).2) from hacc []
  induction names generalizing m with
  | nil =>
    intro errs
    simp [removeGroups, RBACManager.withDeps]
  | cons name names ih =>
    intro errs
    rw [List.foldl_cons, ih, h]
    simp [removeGroups, RBACManager.delete, RBACManager.withDeps]

theorem deleteByComponent_eq (m : RBACManager) (component ns : String) :
    m.deleteByComponent component ns =
      (m.withDeps (removeGroups m.store.deps (m.groups component ns)).1,
        (removeGroups m.store.deps (m.groups component ns)).2) := by
  have haccounts := deleteEach_eq (serviceAccountGroup ns)
    (D := (·.deleteServiceAccount ns)) fun _ _ => rfl
  have hroles := deleteEach_eq (roleGroup ns) (D := (·.deleteRole ns)) fun _ _ => rfl
  have hclusterRoles := deleteEach_eq clusterRoleGroup
    (D := RBACManager.deleteClusterRole) fun _ _ => rfl
  simp only [RBACManager.deleteByComponent, RBACManager.deleteServiceAccountByComponent,
    RBACManager.deleteRoleByComponent, RBACManager.deleteClusterRoleByComponent, haccounts, hroles,
    hclusterRoles, RBACManager.groups, removeGroups_append, RBACManager.withDeps]

theorem recordedGroups_apart (ns component : String) (calls : List AddCall) :
    Apart (recordedGroups ns component calls) := by
  have hshape : ∀ g ∈ recordedGroups ns component calls,
      ∃ name, g = serviceAccountGroup ns name ∨ g = roleGroup ns name ∨
        g = clusterRoleGroup name := by
    intro g hg
    simp only [recordedGroups, List.mem_append, List.mem_map] at hg
    rcases hg with (⟨name, -, rfl⟩ | ⟨name, -, rfl⟩) | ⟨name, -, rfl⟩
    · exact ⟨name, .inl rfl⟩
    · exact ⟨name, .inr (.inl rfl)⟩
    · exact ⟨name, .inr (.inr rfl)⟩
  refine ⟨fun g hg => ?_, fun g hg => ?_, fun g hg g' hg' k hk hk' => ?_⟩
  · obtain ⟨name, rfl | rfl | rfl⟩ := hshape g hg <;>
      simp [serviceAccountGroup, roleGroup, clusterRoleGroup]
  · obtain ⟨name, rfl | rfl | rfl⟩ := hshape g hg <;>
      simp [serviceAccountGroup, roleGroup, clusterRoleGroup, Group.keys]
  · -- The kinds tell the sort of group, and the name of an object is that of its group.
    obtain ⟨name, hname⟩ := hshape g hg
    obtain ⟨name', hname'⟩ := hshape g' hg'
    rcases hname with rfl | rfl | rfl <;> rcases hname' with rfl | rfl | rfl <;>
      simp_all [serviceAccountGroup, roleGroup, clusterRoleGroup, Group.keys] <;>
      rcases hk with rfl | rfl <;> simp_all

/-- The names that are recorded for a component are all different. -/
structure DistinctNames (component : String) (calls : List AddCall) : Prop where
  serviceAccounts : (calls.filterMap (AddCall.serviceAccountOf component)).Nodup
  roles : (calls.filterMap (AddCall.roleOf component)).Nodup
  clusterRoles : (calls.filterMap (AddCall.clusterRoleOf component)).Nodup

theorem recordedGroups_nodup_iff :
    (recordedGroups ns component calls).Nodup ↔ DistinctNames component calls := by
  have haccounts : Function.Injective (serviceAccountGroup ns) := by
    intro a b h
    simpa [serviceAccountGroup] using congrArg (fun g => g.map fun p => p.1.name) h
  have hroles : Function.Injective (roleGroup ns) := by
    intro a b h
    simpa [roleGroup] using congrArg (fun g => g.map fun p => p.1.name) h
  have hclusterRoles : Function.Injective clusterRoleGroup := by
    intro a b h
    simpa [clusterRoleGroup] using congrArg (fun g => g.map fun p => p.1.name) h
  rw [recordedGroups, List.nodup_append, List.nodup_append, List.nodup_map_iff haccounts,
    List.nodup_map_iff hroles, List.nodup_map_iff hclusterRoles]
  constructor
  · rintro ⟨⟨h₁, h₂, -⟩, h₃, -⟩
    exact ⟨h₁, h₂, h₃⟩
  · rintro ⟨h₁, h₂, h₃⟩
    refine ⟨⟨h₁, h₂, fun g hg g' hg' => ?_⟩, h₃, fun g hg g' hg' => ?_⟩
    · obtain ⟨name, -, rfl⟩ := List.mem_map.mp hg
      obtain ⟨name', -, rfl⟩ := List.mem_map.mp hg'
      simp [serviceAccountGroup, roleGroup]
    · obtain ⟨name', -, rfl⟩ := List.mem_map.mp hg'
      rcases List.mem_append.mp hg with hg | hg
      · obtain ⟨name, -, rfl⟩ := List.mem_map.mp hg
        simp [serviceAccountGroup, clusterRoleGroup]
      · obtain ⟨name, -, rfl⟩ := List.mem_map.mp hg
        simp [roleGroup, clusterRoleGroup]

end

def afterCalls (s : Store) (ns : String) (calls : List AddCall) : RBACManager :=
  run (RBACManager.add ns) (newRBACManager s) calls

/-- Whatever the features add: the RBAC of a component is deleted without an error, and
nothing else, exactly if no name was recorded twice for it. -/
theorem component_is_deleted_iff (s : Store) (ns component : String) (calls : List AddCall) :
    (((afterCalls s ns calls).deleteByComponent component ns).2 = [] ∧
      (∀ id ∈ recorded ns component calls,
        id ∉ ((afterCalls s ns calls).deleteByComponent component ns).1.store.deps) ∧
      ∀ id, id ∉ recorded ns component calls →
        ((afterCalls s ns calls).deleteByComponent component ns).1.store.deps.lookup id =
          (afterCalls s ns calls).store.deps.lookup id) ↔
      DistinctNames component calls := by
  have hthere : ∀ g ∈ recordedGroups ns component calls, ∀ k ∈ g.keys,
      k ∈ (afterCalls s ns calls).store.deps := by
    intro g hg k hk
    have hk' : k ∈ recorded ns component calls := by
      rw [← keys_recordedGroups]
      exact List.mem_flatMap.mpr ⟨g, hg, hk⟩
    exact mem_run_of_recorded hk'
  have hapart := recordedGroups_apart ns component calls
  have hsettled : ∀ g ∈ recordedGroups ns component calls,
      Settled (afterCalls s ns calls).store.deps g := fun g hg => .inl (hthere g hg)
  have hlookup := removeGroups_lookup hapart hsettled
  rw [keys_recordedGroups] at hlookup
  rw [deleteByComponent_eq, afterCalls, groups_run, ← afterCalls,
    removeGroups_errors_iff hapart hsettled, and_iff_left hthere, recordedGroups_nodup_iff]
  refine and_iff_left ⟨fun id hid => ?_, fun id hid => ?_⟩
  · exact AList.lookup_eq_none.mp ((hlookup id).trans (if_pos hid))
  · exact (hlookup id).trans (if_neg hid)

theorem shared_role_is_deleted_twice :
    ((afterCalls { owner := .dda { ns := "agents", name := "datadog" } "1" } "agents"
      [.policyRules "datadog-cluster-agent" "datadog-cluster-agent"
          [{ verbs := ["get"], apiGroups := [""], resources := ["configmaps"] }] "clusterAgent",
        .policyRules "datadog-cluster-agent" "datadog-cluster-agent"
          [{ verbs := ["get"], apiGroups := [""], resources := ["secrets"] }]
          "clusterAgent"]).deleteByComponent "clusterAgent" "agents").2 =
      ["unable to delete Role from the store because it was not found: " ++
        "agents/datadog-cluster-agent"] := by
  decide +kernel

end DatadogOperator.Merger
