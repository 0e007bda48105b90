import DatadogOperator.Snapshot

/-!
# Operations of the fleet daemon

`pkg/fleet/daemon_operations.go`: how a start, stop or promote task becomes
a merge patch of the DatadogAgent, together with the annotations that record
the pending task. There is one DatadogAgent, so its namespaced name is left
out of requests and operations, and so are the checks of a managed
installation, which pass when none is configured.
-/

namespace DatadogOperator.Fleet

inductive PendingIntent
  | start
  | stop
  | promote
  deriving DecidableEq

def PendingIntent.text : PendingIntent → String
  | .start => "start"
  | .stop => "stop"
  | .promote => "promote"

/-- The text of `pending-action` back to the intent. -/
def PendingIntent.ofText (text : String) : Option PendingIntent :=
  if text = PendingIntent.start.text then some .start
  else if text = PendingIntent.stop.text then some .stop
  else if text = PendingIntent.promote.text then some .promote
  else none

structure PendingOperation where
  intent : PendingIntent
  taskID : String
  packageName : String
  experimentID : String
  /-- Only of a promote: the stable config once it is done. -/
  resultVersion : String := ""
  deriving DecidableEq

inductive Method
  | start
  | stop
  | promote
  | unknown (text : String)
  deriving DecidableEq

/-- The fields of `remoteAPIRequest` that experiments use. -/
structure RemoteAPIRequest where
  id : String
  package : String
  method : Method
  /-- `params.version`. -/
  version : String
  expectedStableConfig : String := ""
  expectedExperimentConfig : String := ""

inductive TaskState
  | running
  | done
  | invalidState
  | error
  deriving DecidableEq

structure PackageState where
  package : String
  stableConfigVersion : String := ""
  experimentConfigVersion : String := ""
  task : Option (String × TaskState) := none

abbrev InstallerState := List PackageState

def getPackageConfigVersions (state : InstallerState) (package : String) : String × String :=
  match state.find? fun pkg => decide (pkg.package = package) with
  | some pkg => (pkg.stableConfigVersion, pkg.experimentConfigVersion)
  | none => ("", "")

/-- Replace the entry of a package, or append one. -/
def updatePackage (state : InstallerState) (package : String)
    (f : PackageState → PackageState) : InstallerState :=
  if state.any fun pkg => decide (pkg.package = package) then
    state.map fun pkg => if pkg.package = package then f pkg else pkg
  else state ++ [f { package }]

def setPackageConfigVersions (state : InstallerState) (package stable experiment : String) :
    InstallerState :=
  updatePackage state package fun pkg =>
    { pkg with stableConfigVersion := stable, experimentConfigVersion := experiment }

def setTaskState (state : InstallerState) (package taskID : String) (task : TaskState) :
    InstallerState :=
  updatePackage state package fun pkg => { pkg with task := some (taskID, task) }

def clearExperimentConfigVersion (state : InstallerState) (package : String) : InstallerState :=
  setPackageConfigVersions state package (getPackageConfigVersions state package).1 ""

/-! ## Pending annotations -/

def pendingOperationFromAnnotations (annotations : Annotations) : Option PendingOperation :=
  let taskID := annotations.get annotationPendingTaskID
  let packageName := annotations.get annotationPendingPackage
  let experimentID := annotations.get annotationPendingExperimentID
  if taskID = "" ∨ experimentID = "" ∨ packageName = "" then none
  else (PendingIntent.ofText (annotations.get annotationPendingAction)).map fun intent =>
    { intent, taskID, packageName, experimentID
      resultVersion := annotations.get annotationPendingResultVersion }

inductive PlanError
  | get (e : ApiError)
  /-- A `stateDoesntMatchError`. -/
  | slotTaken (current next : PendingOperation)
  | alreadyRunning (id : String)
  | missingID (phase : Option ExperimentPhase)
  | noExperimentVersion
  | cannotPromote (phase : Option ExperimentPhase)
  deriving DecidableEq

/-- One pending task at a time: the same task again, or a stop of a start. -/
def guardPendingOperationSlot (annotations : Annotations) (next : PendingOperation) :
    Except PlanError Unit :=
  match pendingOperationFromAnnotations annotations with
  | none => .ok ()
  | some current =>
    if current = next then .ok ()
    else if current.intent = .start ∧ next.intent = .stop then .ok ()
    else .error (.slotTaken current next)

/-! ## Patches -/

structure Patch (Spec : Type) where
  annotations : List (String × Option String)
  config : Option (Spec → Spec) := none

def buildSignalPatch (signal id : String) (config : Option (Spec → Spec) := none) : Patch Spec :=
  { annotations := [(annotationExperimentSignal, some signal), (annotationExperimentID, some id)]
    config }

def PendingOperation.annotations (op : PendingOperation) : List (String × Option String) :=
  [(annotationPendingTaskID, some op.taskID), (annotationPendingAction, some op.intent.text),
    (annotationPendingExperimentID, some op.experimentID),
    (annotationPendingPackage, some op.packageName),
    (annotationPendingResultVersion,
      if op.resultVersion ≠ "" then some op.resultVersion else none)]

def applyOperation (pending : Option PendingOperation) (patch : Option (Patch Spec)) :
    Option (Patch Spec) :=
  match pending with
  | none => patch
  | some op =>
    let base := patch.getD { annotations := [] }
    some { base with annotations := base.annotations ++ op.annotations }

def Patch.apply [DecidableEq Spec] (patch : Patch Spec) (d : DatadogAgent Spec) :
    DatadogAgent Spec :=
  d.commit { d with
    spec := (patch.config.getD id) d.spec
    annotations := d.annotations.mergePatch patch.annotations }

def patchWith [DecidableEq Spec] (patch : Option (Patch Spec)) (d : DatadogAgent Spec) :
    DatadogAgent Spec :=
  match patch with
  | some patch => patch.apply d
  | none => d

/-! ## Plans -/

def experimentHasPhase (dda : DatadogAgent Spec) (experimentID : String)
    (phase : ExperimentPhase) : Bool :=
  match dda.status.experiment with
  | none => false
  | some e => decide (e.id = experimentID ∧ e.phase = some phase)

def runningExperimentID (dda : DatadogAgent Spec) : String :=
  match dda.status.experiment with
  | some e => if e.phase = some .running then e.id else ""
  | none => ""

/-- A plan: the task to wait for and the patch to send, or nothing to do. -/
structure Plan (Spec : Type) where
  pending : Option PendingOperation := none
  patch : Option (Patch Spec) := none

def planStart (state : InstallerState) (req : RemoteAPIRequest) (config : Spec → Spec)
    (get : Except ApiError (DatadogAgent Spec)) : Except PlanError (Plan Spec) × InstallerState :=
  let experimentID := req.version
  let pending : PendingOperation :=
    { intent := .start, taskID := req.id, packageName := req.package, experimentID }
  match get with
  | .error e => (.error (.get e), state)
  | .ok dda =>
    if experimentHasPhase dda experimentID .running then
      let (stable, _) := getPackageConfigVersions state req.package
      (.ok {}, setPackageConfigVersions state req.package stable req.version)
    else if dda.annotations.get annotationExperimentID = experimentID then
      match guardPendingOperationSlot dda.annotations pending with
      | .error e => (.error e, state)
      | .ok () => (.ok { pending := some pending }, state)
    else if runningExperimentID dda ≠ "" then
      (.error (.alreadyRunning (runningExperimentID dda)), state)
    else match guardPendingOperationSlot dda.annotations pending with
      | .error e => (.error e, state)
      | .ok () =>
        (.ok { pending := some pending
               patch := some (buildSignalPatch experimentSignalStart experimentID (some config)) },
          state)

/-- Status first, then a signal on the object, then the installer state. -/
def currentExperimentID (state : InstallerState) (req : RemoteAPIRequest)
    (dda : DatadogAgent Spec) : String :=
  let annotated := dda.annotations.get annotationExperimentID
  let experimentID := if dda.status.id ≠ "" then dda.status.id else annotated
  if experimentID = "" then (getPackageConfigVersions state req.package).2 else experimentID

def planStop (state : InstallerState) (req : RemoteAPIRequest)
    (get : Except ApiError (DatadogAgent Spec)) : Except PlanError (Plan Spec) × InstallerState :=
  match get with
  | .error e => (.error (.get e), state)
  | .ok dda =>
    let experimentID := currentExperimentID state req dda
    let stop : Except PlanError (Plan Spec) × InstallerState :=
      let pending : PendingOperation :=
        { intent := .stop, taskID := req.id, packageName := req.package, experimentID }
      match guardPendingOperationSlot dda.annotations pending with
      | .error e => (.error e, state)
      | .ok () =>
        (.ok { pending := some pending
               patch := some (buildSignalPatch experimentSignalRollback experimentID) }, state)
    match dda.status.experiment with
    | none =>
      if experimentID = "" ∨
          dda.annotations.get annotationExperimentSignal ≠ experimentSignalStart then
        (.ok {}, clearExperimentConfigVersion state req.package)
      else stop
    | some experiment =>
      if isTerminalPhase experiment.phase then
        (.ok {}, clearExperimentConfigVersion state req.package)
      else if experimentID = "" then (.error (.missingID experiment.phase), state)
      else stop

def planPromote (state : InstallerState) (req : RemoteAPIRequest)
    (get : Except ApiError (DatadogAgent Spec)) : Except PlanError (Plan Spec) × InstallerState :=
  let (_, experiment) := getPackageConfigVersions state req.package
  if experiment = "" then (.error .noExperimentVersion, state)
  else match get with
  | .error e => (.error (.get e), state)
  | .ok dda =>
    let experimentID := currentExperimentID state req dda
    if experimentHasPhase dda experimentID .promoted then
      (.ok {}, setPackageConfigVersions state req.package experiment "")
    else if experimentHasPhase dda experimentID .running = false then
      (.error (.cannotPromote dda.status.phase), state)
    else
      let pending : PendingOperation :=
        { intent := .promote, taskID := req.id, packageName := req.package, experimentID
          resultVersion := experiment }
      match guardPendingOperationSlot dda.annotations pending with
      | .error e => (.error e, state)
      | .ok () =>
        (.ok { pending := some pending
               patch := some (buildSignalPatch experimentSignalPromote experimentID) }, state)

end DatadogOperator.Fleet
