import DatadogOperator.Revision

/-!
# Experiments

`experiment.go`: signals, timeout, manual changes and rollback. Functions
that can fail return the error beside the pass, because what a failed
function has already written to the new status is persisted all the same.
-/

namespace DatadogOperator

open scoped TopTwo

variable {Spec : Type} [DecidableEq Spec]

/-- Fifteen minutes. -/
def experimentDefaultTimeout : Time := 15 * 60 * 1000000000

def getExperimentTimeout (timeout : Time) : Time :=
  if timeout = 0 then experimentDefaultTimeout else timeout

/-! ## Looking through the revisions -/

/-- The name of the revision with the second highest number, if any. -/
def findRollbackTarget (revisions : List (ControllerRevision Spec)) : String :=
  ((TopTwo.topTwo (-1) (·.revision) revisions).2.map (·.name)).getD ""

def findMostRecentMatchingRevision (revisions : List (ControllerRevision Spec))
    (inst : DatadogAgent Spec) : Option (ControllerRevision Spec) :=
  (revisions.filter fun rev => decide (rev.data = inst.snapshot)).argmax (·.revision)

def highestRevision (revisions : List (ControllerRevision Spec)) :
    Option (ControllerRevision Spec) :=
  revisions.argmax (·.revision)

def revisionExperimentState (rev : Option (ControllerRevision Spec)) :
    Option ExperimentRevisionState :=
  rev.bind (·.experimentState)

/-- No stored revision holds the instance's snapshot, and there are at least
two: the code takes this for a manual change. -/
def manuallyChanged (revisions : List (ControllerRevision Spec)) (inst : DatadogAgent Spec) :
    Bool :=
  decide (revisions.length ≥ 2) && (findMostRecentMatchingRevision revisions inst).isNone

/-- Best effort: a failed patch is only logged. -/
def markRevisionState (env : Env Spec) (rev : ControllerRevision Spec)
    (state : ExperimentRevisionState) (p : Pass Spec) : Pass Spec :=
  if rev.experimentState = some state then p
  else match env.markState with
    | some _ => p
    | none => p.patchRevision rev.name fun x => { x with experimentState := some state }

def markHighest (env : Env Spec) (state : ExperimentRevisionState) (p : Pass Spec) : Pass Spec :=
  match highestRevision p.revList with
  | some rev => markRevisionState env rev state p
  | none => p

/-! ## Rollback -/

/-- The object `rollback` writes: the snapshot's spec, and its annotations on
top of the current ones. -/
def restored (snapshot : RevisionSnapshot Spec) (current : DatadogAgent Spec) :
    DatadogAgent Spec :=
  { current with spec := snapshot.spec, annotations := snapshot.annotations ∪ current.annotations }

def rollback (env : Env Spec) (rollbackTarget : String) (p : Pass Spec) :
    Except Error Unit × Pass Spec :=
  if rollbackTarget = "" then (.ok (), p)
  else match env.getRevision with
  | some e => (.error (.getRevision rollbackTarget e), p)
  | none =>
  match p.server.revisions.find? fun rev => decide (rev.name = rollbackTarget) with
  | none => (.error (.getRevision rollbackTarget .notFound), p)
  | some cr =>
    let p := p.interfere env.beforeReread
    match env.getCurrent with
    | some e => (.error (.getCurrent e), p)
    | none =>
      let current := p.server.dda
      let p := p.interfere env.beforeUpdate
      if current.snapshot = cr.data then
        (.ok (), { p with resourceVersion := current.resourceVersion })
      else match env.update with
      | some e => (.error (.update e), p)
      | none =>
        match p.server.dda.update (restored cr.data current) with
        | .error e => (.error (.update e), p)
        | .ok dda =>
          (.ok (), { p.setDDA dda with
            resourceVersion := dda.resourceVersion
            calls := p.calls ++ [.update p.server.dda dda] })

def restorePreviousSpec (env : Env Spec) (terminationReason : TerminationReason) (p : Pass Spec) :
    Except Error Unit × Pass Spec :=
  let rollbackTarget := findRollbackTarget p.revList
  match rollback env rollbackTarget p with
  | (.error e, p) => (.error e, p)
  | (.ok (), p) =>
    let p := p.setExperiment fun e =>
      { e with phase := some .terminated, terminationReason := some terminationReason }
    match highestRevision p.revList with
    | some rev =>
      (.ok (), if rev.name ≠ rollbackTarget then markRevisionState env rev .rolledBack p else p)
    | none => (.ok (), p)

/-! ## Signals -/

def processStartSignal (annotationID : String) (currentPhase : Option ExperimentPhase)
    (currentID : String) (now : Time) (pendingTaskID : String) (p : Pass Spec) : Pass Spec :=
  if annotationID = currentID then p
  else if currentPhase = some .running then p
  else { p with newStatus := { p.newStatus with experiment := some {
    phase := some .running, id := annotationID, startedAt := some now,
    startTaskID := pendingTaskID } } }

def processRollbackSignal (env : Env Spec) (inst : DatadogAgent Spec) (annotationID : String)
    (currentPhase : Option ExperimentPhase) (p : Pass Spec) : Except Error Unit × Pass Spec :=
  if isTerminalPhase currentPhase then (.ok (), p)
  else if currentPhase = some .running then
    -- A user edit takes precedence over the rollback.
    if manuallyChanged p.revList inst then
      (.ok (), markHighest env .rolledBack (p.setPhase .aborted))
    else restorePreviousSpec env .stopped p
  else
    -- Unset phase: the spec was patched but the phase never written.
    match findMostRecentMatchingRevision p.revList inst, highestRevision p.revList with
    | some matchingRev, some highest =>
      if p.revList.length ≥ 2 ∧ matchingRev.revision = highest.revision then
        restorePreviousSpec env .stopped
          { p with newStatus := { p.newStatus with experiment := some { id := annotationID } } }
      else (.ok (), p)
    | _, _ => (.ok (), p)

def processPromoteSignal (env : Env Spec) (inst : DatadogAgent Spec)
    (currentPhase : Option ExperimentPhase) (p : Pass Spec) : Pass Spec :=
  if isTerminalPhase currentPhase then p
  else if currentPhase ≠ some .running then p
  else if manuallyChanged p.revList inst then markHighest env .rolledBack (p.setPhase .aborted)
  else p.setPhase .promoted

/-- The handlers always act, so the ID to clear is the annotation's. -/
def processExperimentSignal (env : Env Spec) (now : Time) (inst : DatadogAgent Spec)
    (p : Pass Spec) : Except Error String × Pass Spec :=
  let signal := inst.annotations.get annotationExperimentSignal
  let annotationID := inst.annotations.get annotationExperimentID
  if signal = "" ∨ annotationID = "" then (.ok "", p)
  else
    let currentPhase := inst.status.phase
    let currentID := inst.status.id
    if signal = experimentSignalStart then
      (.ok annotationID, processStartSignal annotationID currentPhase currentID now
        (inst.annotations.get annotationPendingTaskID) p)
    else if signal = experimentSignalRollback then
      match processRollbackSignal env inst annotationID currentPhase p with
      | (.ok (), p) => (.ok annotationID, p)
      | (.error e, p) => (.error e, p)
    else if signal = experimentSignalPromote then
      (.ok annotationID, processPromoteSignal env inst currentPhase p)
    else (.ok annotationID, p)

def clearOps (expectedID : String) : List JsonPatchOp :=
  [.test annotationExperimentID expectedID, .remove annotationExperimentSignal,
    .remove annotationExperimentID]

/-- A refused patch is only logged. -/
def clearExperimentAnnotations (env : Env Spec) (expectedID : String) (p : Pass Spec) :
    Pass Spec :=
  let p := p.interfere env.beforeClear
  let dda := p.server.dda
  let dda' := match env.clear, dda.annotations.jsonPatch (clearOps expectedID) with
    | none, some annotations => dda.commit { dda with annotations }
    | _, _ => dda
  { p.setDDA dda' with calls := p.calls ++ [.clear expectedID dda dda'] }

/-! ## Timeout and manual changes -/

def abortExperiment (env : Env Spec) (inst : DatadogAgent Spec) (experiment : ExperimentStatus)
    (p : Pass Spec) : Pass Spec :=
  if experiment.phase ≠ some .running then p
  else if p.newStatus.phase ≠ some .running then p
  else if p.revList.length < 2 then p
  else if (findMostRecentMatchingRevision p.revList inst).isSome then p
  else markHighest env .rolledBack (p.setPhase .aborted)

def handleRollback (r : Reconciler Spec) (env : Env Spec) (now : Time) (inst : DatadogAgent Spec)
    (p : Pass Spec) : Except Error Unit × Pass Spec :=
  match inst.status.experiment with
  | none => (.ok (), p)
  | some experiment =>
    if p.newStatus.experiment.isSome ∧ p.newStatus.phase ≠ experiment.phase then (.ok (), p)
    else if experiment.phase ≠ some .running then (.ok (), p)
    else
      let rev := findMostRecentMatchingRevision p.revList inst
      let highest := highestRevision p.revList
      -- The fallback to the highest revision ends the check whatever its state.
      if rev.isNone ∧ p.revList.length ≥ 2 ∧
          ((revisionExperimentState highest).isSome ∨ highest.isSome) then (.ok (), p)
      else match rev, experiment.startedAt with
        | some _, some startedAt =>
          if now - startedAt ≥ getExperimentTimeout r.experimentTimeout then
            restorePreviousSpec env .timedOut p
          else (.ok (), p)
        | _, _ => (.ok (), p)

def manageExperiment (r : Reconciler Spec) (env : Env Spec) (now : Time)
    (inst : DatadogAgent Spec) (p : Pass Spec) : Except Error Unit × Pass Spec :=
  let oldPhase := p.newStatus.phase
  let oldID := p.newStatus.id
  match processExperimentSignal env now inst p with
  | (.error e, p) => (.error e, p)
  | (.ok pendingClearID, p) =>
    match inst.status.experiment with
    | none =>
      if pendingClearID ≠ "" ∧ p.newStatus.experiment = none then
        (.ok (), clearExperimentAnnotations env pendingClearID p)
      else (.ok (), p)
    | some experiment =>
      match handleRollback r env now inst p with
      | (.error e, p) => (.error e, p)
      | (.ok (), p) =>
        let p := if experiment.phase = some .promoted then markHighest env .promoted p else p
        let p := abortExperiment env inst experiment p
        if pendingClearID ≠ "" ∧ p.newStatus.phase = oldPhase ∧ p.newStatus.id = oldID then
          (.ok (), clearExperimentAnnotations env pendingClearID p)
        else (.ok (), p)

end DatadogOperator
