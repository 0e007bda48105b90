import DatadogOperator.Autoscaling.Evict

/-!
# Temporary disruption budgets

`pdb.go`: before the eviction every controller with pods on the target nodes gets
a temporary `PodDisruptionBudget`, unless a budget of the user selects the pod
that was looked at. `hash` is the hexadecimal start of the SHA-256 sum that cuts
long names short.
-/

namespace DatadogOperator.Autoscaling

open Profiles (Labels)

def pdbManagedByLabelKey : String := "app.kubernetes.io/managed-by"
def pdbManagedByLabelValue : String := "kubectl-datadog"
def pdbTempLabelKey : String := "autoscaling.datadoghq.com/temporary-pdb"
def pdbTempLabelValue : String := "true"
def pdbNameSuffix : String := "-evict-legacy"

def isTemporaryPDB (pdb : PodDisruptionBudget) : Bool :=
  Annotations.get pdb.labels pdbManagedByLabelKey = pdbManagedByLabelValue &&
    Annotations.get pdb.labels pdbTempLabelKey = pdbTempLabelValue

/-! ## Controllers of pods -/

abbrev Cache := Finmap fun _ : String × String => Controller

structure Caches where
  deployments : Cache := ∅
  replicaSets : Cache := ∅
  statefulSets : Cache := ∅

/-- Only objects that were found are kept. -/
def getCached (cache : Cache) (namespace_ name : String)
    (get : Program (Except ApiError Controller)) : Program (Except ApiError Controller × Cache) := do
  match cache.lookup (namespace_, name) with
  | some obj => return (.ok obj, cache)
  | none =>
    match ← get with
    | .error e => return (.error e, cache)
    | .ok obj => return (.ok obj, cache.insert (namespace_, name) obj)

/-- The `Deployment` of a `ReplicaSet`, or the `ReplicaSet` itself where there is none. -/
def resolveReplicaSet (namespace_ name : String) (rs : Controller) (caches : Caches) :
    Program (Except ApiError (Option ControllerInfo) × Caches) := do
  let own := ControllerInfo.mk ⟨namespace_, .replicaSet, name⟩ rs.selector ∅
  match rs.controller with
  | none => return (.ok (some own), caches)
  | some owner =>
    if owner.kind ≠ "Deployment" then return (.ok (some own), caches)
    else
      let (answer, deployments) ← getCached caches.deployments namespace_ owner.name
        (call (.getDeployment namespace_ owner.name))
      let caches := { caches with deployments }
      match answer with
      | .ok dep =>
        let info := ControllerInfo.mk ⟨namespace_, .deployment, owner.name⟩ dep.selector ∅
        return (.ok (some info), caches)
      | .error e =>
        if e.reason = .notFound then return (.ok (some own), caches) else return (.error e, caches)

def resolveTopLevelController (pod : Pod) (caches : Caches) :
    Program (Except ApiError (Option ControllerInfo) × Caches) := do
  match pod.controller with
  | none => return (.ok none, caches)
  | some owner =>
    if owner.kind = "ReplicaSet" then
      let (answer, replicaSets) ← getCached caches.replicaSets pod.namespace_ owner.name
        (call (.getReplicaSet pod.namespace_ owner.name))
      let caches := { caches with replicaSets }
      match answer with
      | .error e => return (.error e, caches)
      | .ok rs => resolveReplicaSet pod.namespace_ owner.name rs caches
    else if owner.kind = "StatefulSet" then
      let (answer, statefulSets) ← getCached caches.statefulSets pod.namespace_ owner.name
        (call (.getStatefulSet pod.namespace_ owner.name))
      let caches := { caches with statefulSets }
      match answer with
      | .error e => return (.error e, caches)
      | .ok sts =>
        let info := ControllerInfo.mk ⟨pod.namespace_, .statefulSet, owner.name⟩ sts.selector ∅
        return (.ok (some info), caches)
    else return (.ok none, caches)

/-- Go's `seen[key] = info`; the order of the list means nothing. -/
def record (seen : List ControllerInfo) (info : ControllerInfo) : List ControllerInfo :=
  seen.filter (fun c => c.key ≠ info.key) ++ [info]

structure Discovery where
  seen : List ControllerInfo := []
  caches : Caches := {}

def isEvicted (nodeSet : List String) (pod : Pod) : Bool :=
  nodeSet.contains pod.nodeName && !shouldSkipEviction pod

def discoverNext (nodeSet : List String) (acc : Except ApiError Discovery) (pod : Pod) :
    Program (Except ApiError Discovery) := do
  match acc with
  | .error e => return .error e
  | .ok d =>
    if isEvicted nodeSet pod then
      let (answer, caches) ← resolveTopLevelController pod d.caches
      match answer with
      | .error e =>
        if e.reason = .notFound then return .ok { d with caches }
        else
          return .error (e.wrap ("resolve controller for pod " ++ pod.namespace_ ++ "/" ++ pod.name))
      | .ok none => return .ok { d with caches }
      | .ok (some info) =>
        return .ok { seen := record d.seen { info with podLabels := pod.labels }, caches }
    else return .ok d

def discoverControllers (nodeSet : List String) :
    Program (Except ApiError (List ControllerInfo)) := do
  match ← call .listPods with
  | .error e => return .error (e.wrap "list pods")
  | .ok pods =>
    match ← pods.foldlM (discoverNext nodeSet) (.ok {}) with
    | .error e => return .error (e.wrap "list pods")
    | .ok d =>
      let order ← call (.controllerOrder d.seen)
      return .ok order.val

/-! ## Budgets -/

def hasUserPDB (existing : List PodDisruptionBudget) (podLabels : Labels) : Bool :=
  existing.any fun pdb => !isTemporaryPDB pdb && selects pdb.selector podLabels

def ControllerKind.lower : ControllerKind → String
  | .deployment => "deployment"
  | .statefulSet => "statefulset"
  | .replicaSet => "replicaset"

def dns1123LabelMaxLength : Nat := 63

/-- Names are ASCII: a byte is a character. -/
def tempPDBName (hash : String → String) (kind : ControllerKind) (controllerName : String) :
    String :=
  let base := kind.lower ++ "-" ++ controllerName
  if base.length + pdbNameSuffix.length ≤ dns1123LabelMaxLength then base ++ pdbNameSuffix
  else
    let keep := dns1123LabelMaxLength - pdbNameSuffix.length - 8 - 1
    String.ofList (base.toList.take keep) ++ "-" ++ hash base ++ pdbNameSuffix

def ControllerInfo.pdbName (hash : String → String) (c : ControllerInfo) : String :=
  tempPDBName hash c.key.kind c.key.name

def tempPDB (hash : String → String) (c : ControllerInfo) : PodDisruptionBudget where
  namespace_ := c.key.namespace_
  name := c.pdbName hash
  labels := ((∅ : Labels).insert pdbManagedByLabelKey pdbManagedByLabelValue).insert
    pdbTempLabelKey pdbTempLabelValue
  selector := c.selector
  maxUnavailable := some 1

/-- A budget of that name is left as it is, whose ever it is. -/
def createTempPDB (hash : String → String) (dryRun : Bool) (c : ControllerInfo) :
    Program (Except ApiError Unit) := do
  if dryRun then return .ok ()
  else
    let name := c.key.namespace_ ++ "/" ++ c.pdbName hash
    match ← call (.getPDB c.key.namespace_ (c.pdbName hash)) with
    | .ok _ => return .ok ()
    | .error e =>
      if e.reason ≠ .notFound then return .error (e.wrap ("failed to get PDB " ++ name))
      else
        match ← call (.createPDB (tempPDB hash c)) with
        | .error e => return .error (e.wrap ("failed to create PDB " ++ name))
        | .ok () => return .ok ()

def ensureNext (hash : String → String) (dryRun : Bool) (existing : List PodDisruptionBudget)
    (errs : List ApiError) (c : ControllerInfo) : Program (List ApiError) := do
  if hasUserPDB existing c.podLabels then return errs
  else
    match ← createTempPDB hash dryRun c with
    | .error e =>
      return errs ++ [e.wrap ("controller " ++ c.key.namespace_ ++ "/" ++ c.key.kind.text ++ "/" ++
        c.key.name)]
    | .ok () => return errs

def ensureNamespace (hash : String → String) (dryRun : Bool) (controllers : List ControllerInfo)
    (errs : List ApiError) (ns : String) : Program (List ApiError) := do
  match ← call (.listNamespacePDBs ns) with
  | .error e => return errs ++ [e.wrap ("namespace " ++ ns ++ ": failed to list PDBs")]
  | .ok existing =>
    (controllers.filter fun c => c.key.namespace_ = ns).foldlM
      (ensureNext hash dryRun existing) errs

def ensureTempPDBs (hash : String → String) (targets : List Target) (dryRun : Bool) :
    Program (Except ApiError Unit) := do
  let nodeSet := targets.flatMap Target.nodes
  if nodeSet = [] then return .ok ()
  else
    match ← discoverControllers nodeSet with
    | .error e => return .error (e.wrap "failed to discover controllers")
    | .ok controllers =>
      let namespaces ← call (.namespaceOrder
        (controllers.map fun c => c.key.namespace_).dedup)
      let errs ← namespaces.val.foldlM (ensureNamespace hash dryRun controllers) []
      return joinErrors errs

def deleteNext (dryRun : Bool) (errs : List ApiError) (pdb : PodDisruptionBudget) :
    Program (List ApiError) := do
  if dryRun then return errs
  else
    match ← call (.deletePDB pdb) with
    | .error e =>
      if e.reason = .notFound then return errs
      else
        return errs ++ [(e.wrap ("failed to delete PodDisruptionBudget " ++ pdb.name)).wrap
          ("PDB " ++ pdb.namespace_ ++ "/" ++ pdb.name)]
    | .ok () => return errs

def cleanupTempPDBs (dryRun : Bool) : Program (Except ApiError Unit) := do
  match ← call .listTempPDBs with
  | .error e => return .error (e.wrap "failed to list temporary PDBs")
  | .ok pdbs =>
    let errs ← pdbs.foldlM (deleteNext dryRun) []
    return joinErrors errs

def reclaimLeakedTempPDBs (ensurePDBs dryRun : Bool) : Program Unit := do
  if ensurePDBs then
    let _ ← cleanupTempPDBs dryRun
    return ()
  else return ()

end DatadogOperator.Autoscaling
