import DatadogOperator.Autoscaling.Budgets

/-!
# The eviction command

`evict.go` and `run.go`. `prepare` is `Run` up to the confirmation of the user,
`execute` the part that changes the cluster.
-/

namespace DatadogOperator.Autoscaling

/-- The flags of the command. Durations in nanoseconds. -/
structure Options where
  args : List String := []
  clusterName : String
  karpenterNamespace : String := ""
  all : Bool := false
  targetSpecs : List String := []
  skipCA : Bool := false
  ensurePDBs : Bool := true
  evictionTimeout : Int := 300000000000
  nodeTimeout : Int := 900000000000
  dryRun : Bool := false
  yes : Bool := false

structure RunOptions where
  clusterName : String
  karpenterNamespace : String
  all : Bool
  targets : List Target
  skipCA : Bool
  ensurePDBs : Bool
  dryRun : Bool
  yes : Bool
  evictionTimeout : Nat
  nodeTimeout : Nat

def parseNext (acc : List Target × List ApiError) (spec : String) : List Target × List ApiError :=
  match parseTargetSpec spec with
  | .ok t => (acc.1 ++ [t], acc.2)
  | .error e => (acc.1, acc.2 ++ [e])

def Options.checkFlags (o : Options) : Except ApiError Unit :=
  if o.args ≠ [] then .error (failure "no positional arguments are allowed")
  else if o.all ∧ o.targetSpecs ≠ [] then
    .error (failure "--all and --target are mutually exclusive")
  else if !o.all ∧ o.targetSpecs = [] then
    .error (failure "at least one of --all or --target must be provided")
  else if o.evictionTimeout ≤ 0 then .error (failure "--eviction-timeout must be positive")
  else if o.nodeTimeout ≤ 0 then .error (failure "--node-timeout must be positive")
  else .ok ()

/-- `validate`, and the options that `run` passes on. -/
def Options.validate (o : Options) : Except ApiError RunOptions := do
  o.checkFlags
  let parsed := o.targetSpecs.foldl parseNext ([], [])
  joinErrors parsed.2
  return {
    clusterName := o.clusterName
    karpenterNamespace := o.karpenterNamespace
    all := o.all
    targets := parsed.1
    skipCA := o.skipCA
    ensurePDBs := o.ensurePDBs
    dryRun := o.dryRun
    yes := o.yes
    evictionTimeout := o.evictionTimeout.toNat
    nodeTimeout := o.nodeTimeout.toNat }

/-- What the user has confirmed, or what a dry run goes through. -/
structure Prepared where
  namespace_ : String
  info : ClusterInfo
  targets : List Target

def confirm (opts : RunOptions) : Program Bool :=
  if !opts.yes ∧ !opts.dryRun then call .promptConfirmation else pure true

/-- From the first snapshot on. `none` where nothing is left to do. -/
def planEviction (opts : RunOptions) (namespace_ : String) (info : ClusterInfo) :
    Program (Except ApiError (Option Prepared)) := do
  if !hasDatadogManagedNodePool info then
    return .error (failure ("no Datadog-managed Karpenter NodePool found in the cluster " ++
      "snapshot; legacy nodes would have no destination to migrate to. Run `kubectl datadog " ++
      "autoscaling cluster install` (or `update`) to create the Datadog NodePool first"))
  else
    match buildPlan info opts.all opts.targets with
    | .error e => return .error e
    | .ok targets =>
      if targets = [] then
        reclaimLeakedTempPDBs opts.ensurePDBs opts.dryRun
        return .ok none
      else
        -- `warnKarpenterWeightConflicts` and `printPlan` only print.
        let _ ← call .listNodePools
        if ← confirm opts then return .ok (some { namespace_, info, targets })
        else return .ok none

def prepareIn (opts : RunOptions) (namespace_ : String) :
    Program (Except ApiError (Option Prepared)) := do
  match ← classify opts.clusterName with
  | .error e => return .error (e.wrap "failed to classify cluster nodes")
  | .ok info =>
    if info.eksAutoMode then
      return .error (failure ("EKS auto-mode is enabled on this cluster; eviction is not " ++
        "applicable (auto-mode manages its own node lifecycle)"))
    else if opts.dryRun then planEviction opts namespace_ info
    else
      -- A snapshot that cannot be written is only a warning.
      let _ ← call (.persist namespace_ info)
      planEviction opts namespace_ info

def prepare (opts : RunOptions) : Program (Except ApiError (Option Prepared)) := do
  match ← call .buildClients with
  | .error e => return .error (e.wrap "failed to build clients")
  | .ok () =>
    match ← call (.validateAWSAccountConsistency opts.clusterName) with
    | .error e => return .error e
    | .ok () =>
      match ← call .findKarpenter with
      | .error e =>
        return .error (e.wrap "failed to check for an existing Karpenter installation")
      | .ok none =>
        return .error (failure ("Karpenter is not installed on this cluster; run `kubectl " ++
          "datadog autoscaling cluster install` first"))
      | .ok (some found) =>
        prepareIn opts (if opts.karpenterNamespace = "" then found else opts.karpenterNamespace)

/-! ## Execution -/

def scaleDownAttempt (ca : ClusterAutoscaler) : Program (Except ApiError Unit) := do
  match ← call (.getScale ca.namespace_ ca.name) with
  | .error e =>
    return .error (e.wrap ("failed to get Deployment scale " ++ ca.namespace_ ++ "/" ++ ca.name))
  | .ok scale =>
    if scale.spec = 0 then return .ok ()
    else call (.updateScale ca.namespace_ ca.name 0)

def autoscalerIsDown (ca : ClusterAutoscaler) : Program (Except ApiError Bool) := do
  match ← call (.getScale ca.namespace_ ca.name) with
  | .error e =>
    return .error (e.wrap ("failed to get Deployment scale " ++ ca.namespace_ ++ "/" ++ ca.name))
  | .ok scale => return .ok (decide (scale.status = 0))

def caScaleDownChecks : Nat := 120 / 2 + 1

def scaleDownClusterAutoscaler (ca : ClusterAutoscaler) (dryRun : Bool) :
    Program (Except ApiError Unit) := do
  if !ca.present ∨ dryRun then return .ok ()
  else
    match ← retryOnConflict () (scaleDownAttempt ca) with
    | .error e => return .error e
    | .ok () =>
      match ← pollUntil (autoscalerIsDown ca) caScaleDownChecks with
      | .error e =>
        return .error (e.wrap ("cluster-autoscaler Deployment " ++ ca.namespace_ ++ "/" ++ ca.name ++
          " did not reach 0 replicas"))
      | .ok () => return .ok ()

def RunOptions.drainOptions (opts : RunOptions) : NodeDrainOptions where
  dryRun := opts.dryRun
  evictionTimeout := opts.evictionTimeout
  nodeTimeout := opts.nodeTimeout
  pollInterval := 2000000000

/-- The second snapshot, where it can be made and written. -/
def persistFinal (opts : RunOptions) (namespace_ : String) : Program Unit := do
  if opts.dryRun then return ()
  else
    match ← classify opts.clusterName with
    | .error _ => return ()
    | .ok final =>
      let _ ← call (.persist namespace_ final)
      return ()

def evictPrepared (opts : RunOptions) (p : Prepared) : Program (Except ApiError Unit) := do
  let errs ← evictAllTargets opts.clusterName opts.drainOptions p.targets
  reclaimLeakedTempPDBs opts.ensurePDBs opts.dryRun
  persistFinal opts p.namespace_
  return (joinErrors errs).mapError
    (fun e => failure ("eviction completed with " ++ toString errs.length ++ " error(s):\n" ++
      e.message))

/-- Budgets are made first; those of a failed attempt are removed again. -/
def protectAndEvict (hash : String → String) (opts : RunOptions) (p : Prepared) :
    Program (Except ApiError Unit) := do
  if opts.ensurePDBs then
    match ← ensureTempPDBs hash p.targets opts.dryRun with
    | .error e =>
      let _ ← cleanupTempPDBs opts.dryRun
      return .error (e.wrap "failed to ensure temporary PDBs")
    | .ok () => evictPrepared opts p
  else evictPrepared opts p

def execute (hash : String → String) (opts : RunOptions) (p : Prepared) :
    Program (Except ApiError Unit) := do
  if opts.skipCA then protectAndEvict hash opts p
  else
    match ← scaleDownClusterAutoscaler p.info.clusterAutoscaler opts.dryRun with
    | .error e => return .error (e.wrap "failed to scale down cluster-autoscaler")
    | .ok () => protectAndEvict hash opts p

def run (hash : String → String) (opts : RunOptions) : Program (Except ApiError Unit) := do
  match ← prepare opts with
  | .error e => return .error e
  | .ok none => return .ok ()
  | .ok (some p) => execute hash opts p

end DatadogOperator.Autoscaling
