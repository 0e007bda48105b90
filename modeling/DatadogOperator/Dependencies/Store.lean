import DatadogOperator.Dependencies.Objects
import DatadogOperator.Lib.Doubling
import DatadogOperator.Snapshot

/-!
# The store of dependencies

`datadogagent/store/store.go` with the labels of `datadogagent/object`. Objects are
added to a store with labels that tell what they are part of. `Apply` creates or
updates them, and `Cleanup` deletes what carries these labels and is not in the store.
The store of a controller always has an owner.
-/

namespace DatadogOperator.Dependencies

open Profiles

def operatorStoreLabelKey := "operator.datadoghq.com/managed-by-store"
def managedByDDAControllerLabelKey := "operator.datadoghq.com/managed-by-dda-controller"

def appKubernetesInstanceLabelKey := "app.kubernetes.io/instance"
def appKubernetesManageByLabelKey := "app.kubernetes.io/managed-by"
def appKubernetesNameLabelKey := "app.kubernetes.io/name"
def appKubernetesPartOfLabelKey := "app.kubernetes.io/part-of"
def appKubernetesVersionLabelKey := "app.kubernetes.io/version"

def datadogTagPrefix := "tags.datadoghq.com"
def reservedLabelPrefixes := ["agent.datadoghq.com/", "operator.datadoghq.com/", "datadoghq.com/"]

/-! ## Labels of an owner -/

inductive Owner
  | dda (agent : Agent) (uid : String)
  | ddai (internal : DatadogAgentInternal) (uid : String)

def Owner.toObjectMeta : Owner → ObjectMeta
  | .dda agent _ => agent.toObjectMeta
  | .ddai internal _ => internal.toObjectMeta

def Owner.rawCommonLabels : Owner → Labels
  | .dda agent _ => agent.spec.commonLabels
  | .ddai internal _ => internal.spec.commonLabels

def getDDAName (dda : ObjectMeta) : String :=
  match dda.labels.lookup datadogAgentNameLabelKey with
  | some value => if value ≠ "" then value else dda.name
  | none => dda.name

/-- `strings.ReplaceAll(s, "-", "--")` -/
def escapePartOf (text : String) : String :=
  String.ofList (Doubling.double '-' text.toList)

def newPartOfLabelValue (obj : ObjectMeta) : String :=
  escapePartOf obj.ns ++ "-" ++ escapePartOf (getDDAName obj)

/-- `PartOfLabelValue.NamespacedName`: the parts on both sides of the first dash that
stands alone. -/
def partOfNamespacedName (value : String) : NamespacedName :=
  match Doubling.splitAlone '-' [] value.toList with
  | some (ns, name) =>
    ⟨String.ofList (Doubling.undouble '-' ns), String.ofList (Doubling.undouble '-' name)⟩
  | none => ⟨"", ""⟩

def isReservedLabelKey (key : String) : Bool := reservedLabelPrefixes.any (hasPrefix key)

def getCommonLabels (owner : Owner) : Labels :=
  owner.rawCommonLabels.filterKeys fun key => !isReservedLabelKey key

/-- Tags of the owner replace other labels; common labels replace none. -/
def getDefaultLabels (owner : Owner) (instanceName version : String) : Labels :=
  let labels := (∅ : Labels)
    |>.insert appKubernetesNameLabelKey "datadog-agent-deployment"
    |>.insert appKubernetesInstanceLabelKey instanceName
    |>.insert appKubernetesPartOfLabelKey (newPartOfLabelValue owner.toObjectMeta)
    |>.insert appKubernetesVersionLabelKey version
    |>.insert appKubernetesManageByLabelKey "datadog-operator"
  owner.toObjectMeta.labels.filterKeys (hasPrefix · datadogTagPrefix) ∪ labels ∪
    getCommonLabels owner

/-- Not implemented in the source. -/
def getAgentVersion (_ : Owner) : String := ""

/-! ## Owner references -/

def newOwnerRef : Owner → OwnerReference
  | .dda agent uid => ⟨"datadoghq.com", "v2alpha1", "DatadogAgent", agent.name, uid⟩
  | .ddai internal uid =>
    ⟨"datadoghq.com", "v1alpha1", "DatadogAgentInternal", internal.name, uid⟩

def referSameObject (a b : OwnerReference) : Bool :=
  a.group == b.group && a.version == b.version && a.kind == b.kind && a.name == b.name

/-- The last reference to the object is replaced. -/
def replaceOwnerRef (ref : OwnerReference) : List OwnerReference → List OwnerReference
  | [] => []
  | r :: refs =>
    if refs.any (referSameObject ref) then r :: replaceOwnerRef ref refs
    else if referSameObject ref r then ref :: refs
    else r :: refs

def setOwnerReference (owner : Owner) (refs : List OwnerReference) : List OwnerReference :=
  let ref := newOwnerRef owner
  if refs.any (referSameObject ref) then replaceOwnerRef ref refs else refs ++ [ref]

def shouldSetOwnerReference (kind : ObjectKind) (objNamespace ownerNamespace : String) : Bool :=
  match kind with
  | .clusterRoleBinding | .clusterRoles | .apiService => false
  | _ => !(objNamespace != "" && ownerNamespace != "" && objNamespace != ownerNamespace)

/-! ## The store -/

/-- `deps` lists the objects in the order the maps are iterated in. -/
structure Store where
  owner : Owner
  isDDAControllerStore : Bool := false
  supportCilium : Bool := false
  deps : AList fun _ : ObjectID => KubeObject := ∅

def Store.label (s : Store) (labels : Labels) : Labels :=
  let labels := labels.insert operatorStoreLabelKey "true"
  let labels := if s.isDDAControllerStore then labels.insert managedByDDAControllerLabelKey "true"
    else labels
  getDefaultLabels s.owner s.owner.toObjectMeta.name (getAgentVersion s.owner) ∪ labels

def Store.own (s : Store) (id : ObjectID) (refs : List OwnerReference) : List OwnerReference :=
  if shouldSetOwnerReference id.kind id.ns s.owner.toObjectMeta.ns then
    setOwnerReference s.owner refs
  else refs

def Store.addOrUpdate (s : Store) (id : ObjectID) (obj : KubeObject) : Store :=
  { s with deps := s.deps.insert id { obj with
      labels := s.label obj.labels, ownerReferences := s.own id obj.ownerReferences } }

def Store.addAll (s : Store) (objs : List (ObjectID × KubeObject)) : Store :=
  objs.foldl (fun s e => s.addOrUpdate e.1 e.2) s

/-! ## The API server -/

/-- What was last written for each object. -/
abbrev Server := AList fun _ : ObjectID => KubeObject

/-- The object that is kept for one that is written: defaults are filled in, empty
maps become nil, services get cluster IPs. The rest of an object does not depend on
its cluster IPs, which do not change once they are given. -/
structure ApiServer where
  persist : ObjectID → KubeObject → KubeObject
  persist_persist : ∀ id obj, persist id (persist id obj) = persist id obj
  persist_labels : ∀ id obj, (persist id obj).labels = obj.labels
  persist_managed : ∀ id a b, a.managed id.kind = b.managed id.kind →
    (persist id a).managed id.kind = (persist id b).managed id.kind
  persist_clusterIP : ∀ id obj, obj.service.clusterIP ≠ "" →
    (persist id obj).service.clusterIP = obj.service.clusterIP ∧
      (persist id obj).service.clusterIPs = obj.service.clusterIPs

inductive DeleteError
  | gone
  | failed (e : ApiError)

structure Calls where
  get : ObjectID → Option ApiError := fun _ => none
  create : ObjectID → Option ApiError := fun _ => none
  update : ObjectID → Option ApiError := fun _ => none
  delete : ObjectID → Option DeleteError := fun _ => none
  list : ObjectKind → Option ApiError := fun _ => none

section

variable (api : ApiServer) (calls : Calls)

def ApiServer.get (server : Server) (id : ObjectID) : Option KubeObject :=
  (server.lookup id).map (api.persist id)

def getObject (server : Server) (id : ObjectID) : Except ApiError KubeObject :=
  match calls.get id with
  | some e => .error e
  | none =>
    match api.get server id with
    | some live => .ok live
    | none => .error .notFound

/-! ## Apply -/

inductive Plan
  | failed (e : ApiError)
  | create (obj : KubeObject)
  | update (obj : KubeObject)
  | keep (obj : KubeObject)

def plan (server : Server) (id : ObjectID) (obj : KubeObject) : Plan :=
  match getObject api calls server id with
  | .ok live =>
    let obj := applyPreprocessing id.kind obj (some live)
    if isEqualObject id.kind obj live then .keep obj else .update obj
  | .error .notFound => .create (applyPreprocessing id.kind obj none)
  | .error e => .failed e

def Store.plans (s : Store) (server : Server) : List (ObjectID × Plan) :=
  s.deps.entries.map fun e => (e.1, plan api calls server e.1 e.2)

def objsToCreate (plans : List (ObjectID × Plan)) : List (ObjectID × KubeObject) :=
  plans.filterMap fun p => match p.2 with
    | .create obj => some (p.1, obj)
    | _ => none

def objsToUpdate (plans : List (ObjectID × Plan)) : List (ObjectID × KubeObject) :=
  plans.filterMap fun p => match p.2 with
    | .update obj => some (p.1, obj)
    | _ => none

def planErrors (plans : List (ObjectID × Plan)) : List ApiError :=
  plans.filterMap fun p => match p.2 with
    | .failed e => some e
    | _ => none

def writeAll (fails : ObjectID → Option ApiError) (objs : List (ObjectID × KubeObject))
    (server : Server) : Server :=
  objs.foldl (fun server e =>
    match fails e.1 with
    | some _ => server
    | none => server.insert e.1 e.2) server

def writeErrors (fails : ObjectID → Option ApiError) (objs : List (ObjectID × KubeObject)) :
    List ApiError :=
  objs.filterMap fun e => fails e.1

/-- The object the store is left with: preprocessing is done in place, and a write
that succeeds returns what the server keeps. -/
def leave (server : Server) (id : ObjectID) (obj : KubeObject) : KubeObject :=
  match plan api calls server id obj with
  | .failed _ => obj
  | .keep obj => obj
  | .create obj => if calls.create id = none then api.persist id obj else obj
  | .update obj => if calls.update id = none then api.persist id obj else obj

structure Applied where
  store : Store
  server : Server
  errs : List ApiError

def Store.apply (s : Store) (server : Server) : Applied :=
  let plans := s.plans api calls server
  { store := { s with deps := Grouping.mapValues (leave api calls server) s.deps }
    server := writeAll calls.update (objsToUpdate plans)
      (writeAll calls.create (objsToCreate plans) server)
    errs := planErrors plans ++ writeErrors calls.create (objsToCreate plans) ++
      writeErrors calls.update (objsToUpdate plans) }

/-! ## Cleanup -/

/-- The objects of a kind that the selector of `Cleanup` lists. -/
def Store.listed (s : Store) (labels : Labels) : Bool :=
  operatorStoreLabelKey ∈ labels ∧
    (s.isDDAControllerStore → managedByDDAControllerLabelKey ∈ labels)

/-- What `listObjectToDelete` picks. The owner is taken without its labels. -/
def Store.deletes (s : Store) (excludeDDAManagedResources : Bool) (id : ObjectID)
    (labels : Labels) : Bool :=
  s.listed labels ∧ id ∉ s.deps ∧
    ¬(excludeDDAManagedResources ∧ managedByDDAControllerLabelKey ∈ labels) ∧
    labels.lookup appKubernetesPartOfLabelKey = some (newPartOfLabelValue
      { ns := s.owner.toObjectMeta.ns, name := s.owner.toObjectMeta.name })

def Store.listObjectToDelete (s : Store) (excludeDDAManagedResources : Bool) (kind : ObjectKind)
    (server : Server) : List ObjectID :=
  server.entries.filterMap fun e =>
    if e.1.kind = kind ∧ s.deletes excludeDDAManagedResources e.1 e.2.labels then some e.1
    else none

/-- An object that is gone already is no error. -/
def deleteObjects (ids : List ObjectID) (server : Server) : Server × List ApiError :=
  ids.foldl (fun acc id =>
    match calls.delete id with
    | none => (acc.1.erase id, acc.2)
    | some .gone | some (.failed .notFound) => acc
    | some (.failed e) => (acc.1, acc.2 ++ [e])) (server, [])

def Store.cleanupKind (s : Store) (excludeDDAManagedResources : Bool)
    (acc : Server × List ApiError) (kind : ObjectKind) : Server × List ApiError :=
  match calls.list kind with
  | some e => (acc.1, acc.2 ++ [e])
  | none =>
    let deleted := deleteObjects calls
      (s.listObjectToDelete excludeDDAManagedResources kind acc.1) acc.1
    (deleted.1, acc.2 ++ deleted.2)

def Store.cleanup (s : Store) (excludeDDAManagedResources : Bool) (server : Server) :
    Server × List ApiError :=
  (getResourcesKind s.supportCilium).foldl (s.cleanupKind calls excludeDDAManagedResources)
    (server, [])

end

/-! ## Labels of stored objects -/

section

variable {owner : Owner} {instanceName version key : String} {s : Store} {labels : Labels}

theorem getDefaultLabels_partOf :
    (getDefaultLabels owner instanceName version).lookup appKubernetesPartOfLabelKey =
      some (newPartOfLabelValue owner.toObjectMeta) := by
  have htag : hasPrefix appKubernetesPartOfLabelKey datadogTagPrefix = false := by decide
  have hversion : appKubernetesPartOfLabelKey ≠ appKubernetesVersionLabelKey := by decide
  have hmanaged : appKubernetesPartOfLabelKey ≠ appKubernetesManageByLabelKey := by decide
  simp [getDefaultLabels, Finmap.lookup_union, htag, Finmap.lookup_insert_of_ne _ hmanaged,
    Finmap.lookup_insert_of_ne _ hversion]

theorem getDefaultLabels_managedBy :
    (getDefaultLabels owner instanceName version).lookup appKubernetesManageByLabelKey =
      some "datadog-operator" := by
  have htag : hasPrefix appKubernetesManageByLabelKey datadogTagPrefix = false := by decide
  simp [getDefaultLabels, Finmap.lookup_union, htag]

theorem getDefaultLabels_operator (hkey : key = operatorStoreLabelKey ∨
    key = managedByDDAControllerLabelKey) :
    (getDefaultLabels owner instanceName version).lookup key = none := by
  have htag : hasPrefix key datadogTagPrefix = false := by rcases hkey with rfl | rfl <;> decide
  have hreserved : isReservedLabelKey key = true := by rcases hkey with rfl | rfl <;> decide
  have hname : key ≠ appKubernetesNameLabelKey := by rcases hkey with rfl | rfl <;> decide
  have hinstance : key ≠ appKubernetesInstanceLabelKey := by rcases hkey with rfl | rfl <;> decide
  have hpart : key ≠ appKubernetesPartOfLabelKey := by rcases hkey with rfl | rfl <;> decide
  have hversion : key ≠ appKubernetesVersionLabelKey := by rcases hkey with rfl | rfl <;> decide
  have hmanaged : key ≠ appKubernetesManageByLabelKey := by rcases hkey with rfl | rfl <;> decide
  simp [getDefaultLabels, getCommonLabels, Finmap.lookup_union, htag, hreserved,
    Finmap.lookup_insert_of_ne _ hname, Finmap.lookup_insert_of_ne _ hinstance,
    Finmap.lookup_insert_of_ne _ hpart, Finmap.lookup_insert_of_ne _ hversion,
    Finmap.lookup_insert_of_ne _ hmanaged]

theorem Store.label_partOf : (s.label labels).lookup appKubernetesPartOfLabelKey =
    some (newPartOfLabelValue s.owner.toObjectMeta) := by
  rw [Store.label, Finmap.lookup_union, getDefaultLabels_partOf, Option.some_or]

theorem Store.label_managedBy : (s.label labels).lookup appKubernetesManageByLabelKey =
    some "datadog-operator" := by
  rw [Store.label, Finmap.lookup_union, getDefaultLabels_managedBy, Option.some_or]

theorem Store.label_store : (s.label labels).lookup operatorStoreLabelKey = some "true" := by
  have hkey : operatorStoreLabelKey ≠ managedByDDAControllerLabelKey := by decide
  rw [Store.label, Finmap.lookup_union, getDefaultLabels_operator (.inl rfl), Option.none_or]
  split
  · rw [Finmap.lookup_insert_of_ne _ hkey, Finmap.lookup_insert]
  · rw [Finmap.lookup_insert]

theorem Store.mem_label_dda : managedByDDAControllerLabelKey ∈ s.label labels ↔
    s.isDDAControllerStore = true ∨ managedByDDAControllerLabelKey ∈ labels := by
  have hkey : managedByDDAControllerLabelKey ≠ operatorStoreLabelKey := by decide
  rw [← Finmap.lookup_isSome, Store.label, Finmap.lookup_union,
    getDefaultLabels_operator (.inr rfl), Option.none_or]
  split
  · rename_i hdda
    simp [hdda]
  · rename_i hdda
    rw [Finmap.lookup_insert_of_ne _ hkey, Finmap.lookup_isSome]
    simp [hdda]

theorem Store.addAll_lookup {id : ObjectID} {o : KubeObject}
    (h : (s.addAll objs).deps.lookup id = some o) :
    s.deps.lookup id = some o ∨ ∃ obj, (id, obj) ∈ objs ∧ o.labels = s.label obj.labels := by
  induction objs generalizing s with
  | nil => exact .inl h
  | cons e objs ih =>
    rcases ih (s := s.addOrUpdate e.1 e.2) h with hdeps | ⟨obj, hobj, hlabels⟩
    · by_cases hid : id = e.1
      · subst hid
        rw [Store.addOrUpdate, AList.lookup_insert] at hdeps
        cases hdeps
        exact .inr ⟨e.2, .head _, rfl⟩
      · rw [Store.addOrUpdate, AList.lookup_insert_ne hid] at hdeps
        exact .inl hdeps
    · exact .inr ⟨obj, .tail _ hobj, hlabels⟩

theorem Store.addAll_owner (objs : List (ObjectID × KubeObject)) : (s.addAll objs).owner = s.owner ∧
      (s.addAll objs).isDDAControllerStore = s.isDDAControllerStore ∧
      (s.addAll objs).supportCilium = s.supportCilium := by
  induction objs generalizing s with
  | nil => exact ⟨rfl, rfl, rfl⟩
  | cons e objs ih => exact ih (s := s.addOrUpdate e.1 e.2)

end

end DatadogOperator.Dependencies
