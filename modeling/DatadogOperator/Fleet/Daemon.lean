import DatadogOperator.Fleet.Operations

/-!
# Tasks and the worker of the fleet daemon

`pkg/fleet/daemon.go` and `daemon_worker.go`. `handleTask` plans a task and
sends its patch; the worker compares the pending task on the object with the
status of the experiment and reports the task as done or failed. Task errors
keep what their text is made of; the text itself is not read back.
-/

namespace DatadogOperator.Fleet

inductive Operation
  | create
  | update
  | delete
  | unknown (text : String)
  deriving DecidableEq

/-- `fleetManagementOperation`: a merge patch of the spec. -/
structure FleetManagementOperation (Spec : Type) where
  operation : Operation
  config : Spec → Spec

structure InstallerConfig (Spec : Type) where
  id : String
  operations : List (FleetManagementOperation Spec)

/-- What the daemon keeps in memory: the installer configs, and the state it
reports through remote config. -/
structure Daemon (Spec : Type) where
  revisionsEnabled : Bool := true
  configs : List (InstallerConfig Spec)
  installerState : InstallerState

inductive TaskError
  /-- A `stateDoesntMatchError` of `verifyExpectedState`. -/
  | stateMismatch (stable experiment : String)
  | revisionsDisabled
  | unknownMethod (text : String)
  | versionRequired
  | configNotFound (id : String)
  | operationCount (id : String) (count : Nat)
  | invalidOperation (operation : Operation)
  | plan (e : PlanError)
  | patch (e : ApiError)
  /-- A start or promote whose experiment ended. -/
  | terminalPhase (intent : PendingIntent) (phase : Option ExperimentPhase)
  deriving DecidableEq

variable {Spec : Type}

/-! ## Tasks -/

def getConfig (configs : List (InstallerConfig Spec)) (id : String) :
    Except TaskError (InstallerConfig Spec) :=
  match configs.find? fun cfg => decide (cfg.id = id) with
  | some cfg => .ok cfg
  | none => .error (.configNotFound id)

/-- `resolveOperation` of a start: the one update of its config. -/
def resolveOperation (configs : List (InstallerConfig Spec)) (req : RemoteAPIRequest) :
    Except TaskError (Spec → Spec) :=
  if req.version = "" then .error .versionRequired
  else match getConfig configs req.version with
  | .error e => .error e
  | .ok cfg =>
    match cfg.operations with
    | [op] => if op.operation = .update then .ok op.config
      else .error (.invalidOperation op.operation)
    | ops => .error (.operationCount cfg.id ops.length)

def verifyExpectedState (state : InstallerState) (req : RemoteAPIRequest) : Except TaskError Unit :=
  let (stable, experiment) := getPackageConfigVersions state req.package
  if req.expectedStableConfig = stable ∧ req.expectedExperimentConfig = experiment then .ok ()
  else .error (.stateMismatch stable experiment)

def Daemon.dispatchRemoteAPIRequest (d : Daemon Spec) (req : RemoteAPIRequest)
    (get : Except ApiError (DatadogAgent Spec)) : Except TaskError (Plan Spec) × InstallerState :=
  let planned (plan : Except PlanError (Plan Spec) × InstallerState) :=
    (plan.1.mapError TaskError.plan, plan.2)
  match req.method with
  | .unknown text => (.error (.unknownMethod text), d.installerState)
  | .start =>
    if d.revisionsEnabled = false then (.error .revisionsDisabled, d.installerState)
    else match resolveOperation d.configs req with
      | .error e => (.error e, d.installerState)
      | .ok config => planned (planStart d.installerState req config get)
  | .stop =>
    if d.revisionsEnabled = false then (.error .revisionsDisabled, d.installerState)
    else planned (planStop d.installerState req get)
  | .promote =>
    if d.revisionsEnabled = false then (.error .revisionsDisabled, d.installerState)
    else planned (planPromote d.installerState req get)

def Daemon.handleRemoteAPIRequest (d : Daemon Spec) (req : RemoteAPIRequest)
    (get : Except ApiError (DatadogAgent Spec)) : Except TaskError (Plan Spec) × InstallerState :=
  match verifyExpectedState d.installerState req with
  | .error e => (.error e, d.installerState)
  | .ok () => d.dispatchRemoteAPIRequest req get

def TaskError.state : TaskError → TaskState
  | .stateMismatch .. | .plan (.slotTaken ..) => .invalidState
  | _ => .error

/-- `handleTask` up to its patch: the plan whose patch is still to be sent. -/
def Daemon.handleTask (d : Daemon Spec) (req : RemoteAPIRequest)
    (get : Except ApiError (DatadogAgent Spec)) : Daemon Spec × Option (Plan Spec) :=
  match d.handleRemoteAPIRequest req get with
  | (.error e, state) =>
    ({ d with installerState := setTaskState state req.package req.id e.state }, none)
  | (.ok plan, state) =>
    if (applyOperation plan.pending plan.patch).isNone then
      ({ d with installerState := setTaskState state req.package req.id .done }, none)
    else ({ d with installerState := state }, some plan)

/-- `handleTask` after its patch. The worker reports a task that is pending. -/
def Daemon.patched (d : Daemon Spec) (req : RemoteAPIRequest) (plan : Plan Spec)
    (outcome : Option ApiError) : Daemon Spec :=
  let report (state : TaskState) : Daemon Spec :=
    { d with installerState := setTaskState d.installerState req.package req.id state }
  match outcome with
  | some e => report (TaskError.patch e).state
  | none => if plan.pending.isSome then d else report .done

/-! ## The worker -/

structure StatusSnapshot where
  annotations : Annotations
  experiment : Option ExperimentStatus

def newDDAStatusSnapshot (dda : DatadogAgent Spec) : StatusSnapshot :=
  ⟨dda.annotations, dda.status.experiment⟩

/-- Whether the status finishes the task, and with which error. -/
def evaluatePendingTask (snapshot : StatusSnapshot) (task : PendingOperation) :
    Bool × Option TaskError :=
  match snapshot.experiment with
  | none => (false, none)
  | some experiment =>
    if experiment.id ≠ task.experimentID then (false, none)
    else
      let ended : Bool × Option TaskError :=
        if isTerminalPhase experiment.phase then
          (true, some (.terminalPhase task.intent experiment.phase))
        else (false, none)
      match task.intent with
      | .start => if experiment.phase = some .running then (true, none) else ended
      | .stop => (isTerminalPhase experiment.phase, none)
      | .promote => if experiment.phase = some .promoted then (true, none) else ended

def finishPendingOperation (state : InstallerState) (task : PendingOperation)
    (resultErr : Option TaskError) : InstallerState :=
  match resultErr with
  | some _ => setTaskState state task.packageName task.taskID .error
  | none =>
    let (stable, _) := getPackageConfigVersions state task.packageName
    let state := match task.intent with
      | .start => setPackageConfigVersions state task.packageName stable task.experimentID
      | .stop => setPackageConfigVersions state task.packageName stable ""
      | .promote => setPackageConfigVersions state task.packageName task.resultVersion ""
    setTaskState state task.packageName task.taskID .done

def noPendingAnnotations : List (String × Option String) :=
  [(annotationPendingTaskID, none), (annotationPendingAction, none),
    (annotationPendingExperimentID, none), (annotationPendingPackage, none),
    (annotationPendingResultVersion, none)]

/-- The patch that clears the pending task, unless another one took its place. -/
def clearPendingAnnotationsIfCurrent (get : Except ApiError (DatadogAgent Spec))
    (task : PendingOperation) : Option (Patch Spec) :=
  match get with
  | .error _ => none
  | .ok current =>
    if pendingOperationFromAnnotations current.annotations = some task then
      some { annotations := noPendingAnnotations }
    else none

/-- The experiment ended without a task: a timeout or a manual change. -/
def locallyTerminated (experiment : ExperimentStatus) : Bool :=
  decide (experiment.phase = some .terminated ∧ experiment.terminationReason = some .timedOut) ||
    decide (experiment.phase = some .aborted)

def reconcileLocallyTerminatedExperiment (state : InstallerState) (snapshot : StatusSnapshot) :
    InstallerState :=
  match snapshot.experiment with
  | none => state
  | some experiment =>
    if locallyTerminated experiment = false then state
    else state.foldl (fun acc pkg =>
      if pkg.experimentConfigVersion ≠ experiment.id then acc
      else
        let acc := if experiment.startTaskID ≠ "" then
            setTaskState acc pkg.package experiment.startTaskID .error
          else acc
        setPackageConfigVersions acc pkg.package pkg.stableConfigVersion "") state

/-- `onStatusUpdate`, with the patch that clears the task it finished. -/
def Daemon.onStatusUpdate (d : Daemon Spec) (snapshot : StatusSnapshot)
    (get : Except ApiError (DatadogAgent Spec)) : Daemon Spec × Option (Patch Spec) :=
  let state := reconcileLocallyTerminatedExperiment d.installerState snapshot
  match pendingOperationFromAnnotations snapshot.annotations with
  | none => ({ d with installerState := state }, none)
  | some op =>
    match evaluatePendingTask snapshot op with
    | (false, _) =>
      ({ d with installerState := setTaskState state op.packageName op.taskID .running }, none)
    | (true, resultErr) =>
      ({ d with installerState := finishPendingOperation state op resultErr },
        clearPendingAnnotationsIfCurrent get op)

/-! ## Restarts -/

def packageDatadogOperator := "datadog-operator"

/-- `rehydrateLegacyInstallerState`, for the one DatadogAgent of its list. -/
def rehydrateLegacyInstallerState (state : InstallerState)
    (list : Except ApiError (DatadogAgent Spec)) : InstallerState :=
  match list with
  | .error _ => state
  | .ok dda =>
    match dda.status.experiment with
    | none => state
    | some experiment =>
      if experiment.id = "" ∨ isTerminalPhase experiment.phase then state
      else
        let (stable, _) := getPackageConfigVersions state packageDatadogOperator
        setPackageConfigVersions state packageDatadogOperator stable experiment.id

/-- A daemon that has just started: no configs yet, and of the installer
state only what it finds on the DatadogAgent. -/
def Daemon.restarted (d : Daemon Spec) (initialConfigVersion : String)
    (list : Except ApiError (DatadogAgent Spec)) : Daemon Spec :=
  { revisionsEnabled := d.revisionsEnabled
    configs := []
    installerState := rehydrateLegacyInstallerState
      [{ package := packageDatadogOperator, stableConfigVersion := initialConfigVersion }] list }

end DatadogOperator.Fleet
