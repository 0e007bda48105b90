import DatadogOperator.Lib.FilterKeys

/-!
# DatadogAgent objects and the API server

The fields of `api/datadoghq/v2alpha1` that experiments read and write, and
what the API server does with a write of one object. The raw spec is a type
parameter: experiments store, compare and restore it as a whole and never
look inside. Status fields no modelled function reads are left out; of the
conditions only `DatadogAgentReconcileError` stays.
-/

namespace DatadogOperator

/-- Nanoseconds. -/
abbrev Time := Int

abbrev Annotations := Finmap fun _ : String => String

/-- A Go map read: the zero value when the key is missing. -/
def Annotations.get (a : Annotations) (key : String) : String := (a.lookup key).getD ""

-- Experiment signal annotations, written by the fleet daemon.
def annotationExperimentID := "experiment.datadoghq.com/id"
def annotationExperimentSignal := "experiment.datadoghq.com/signal"

-- Fleet pending-operation annotations.
def annotationPendingTaskID := "fleet.datadoghq.com/pending-task-id"
def annotationPendingAction := "fleet.datadoghq.com/pending-action"
def annotationPendingExperimentID := "fleet.datadoghq.com/pending-experiment-id"
def annotationPendingPackage := "fleet.datadoghq.com/pending-package"
def annotationPendingResultVersion := "fleet.datadoghq.com/pending-result-version"

def experimentSignalStart := "start"
def experimentSignalRollback := "rollback"
def experimentSignalPromote := "promote"

inductive ExperimentPhase
  | running
  | terminated
  | promoted
  | aborted
  deriving DecidableEq

/-- `ExperimentTerminationReasonStopped` and `ExperimentTerminationReasonTimedOut`. -/
inductive TerminationReason
  | stopped
  | timedOut
  deriving DecidableEq

/-- `v2alpha1.ExperimentStatus`. The empty phase and reason are `none`. -/
structure ExperimentStatus where
  phase : Option ExperimentPhase := none
  id : String := ""
  startedAt : Option Time := none
  startTaskID : String := ""
  terminationReason : Option TerminationReason := none
  deriving DecidableEq

/-- Received features, as their JSON text. -/
structure RemoteConfigConfiguration where
  features : Option String
  deriving DecidableEq

structure DatadogAgentStatus where
  experiment : Option ExperimentStatus := none
  remoteConfigConfiguration : Option RemoteConfigConfiguration := none
  /-- The `DatadogAgentReconcileError` condition, when present. -/
  reconcileError : Option Bool := none
  deriving DecidableEq

structure DatadogAgent (Spec : Type) where
  resourceVersion : Nat
  spec : Spec
  annotations : Annotations
  status : DatadogAgentStatus
  deriving DecidableEq

/-- Go's `experiment.Phase` behind a nil check: unset when there is none. -/
def DatadogAgentStatus.phase (s : DatadogAgentStatus) : Option ExperimentPhase :=
  s.experiment.bind (·.phase)

def DatadogAgentStatus.id (s : DatadogAgentStatus) : String :=
  (s.experiment.map (·.id)).getD ""

section
variable {s : DatadogAgentStatus}

theorem phase_of_experiment (h : s.experiment = some e) : s.phase = e.phase := by
  rw [DatadogAgentStatus.phase, h]
  rfl

theorem id_of_experiment (h : s.experiment = some e) : s.id = e.id := by
  rw [DatadogAgentStatus.id, h]
  rfl

theorem phase_of_none (h : s.experiment = none) : s.phase = none := by
  rw [DatadogAgentStatus.phase, h]
  rfl

theorem id_of_none (h : s.experiment = none) : s.id = "" := by
  rw [DatadogAgentStatus.id, h]
  rfl

end

theorem DatadogAgentStatus.exists_of_phase {s : DatadogAgentStatus} (h : s.phase = some ph) :
    ∃ e, s.experiment = some e ∧ e.phase = some ph :=
  Option.bind_eq_some_iff.mp h

/-- `isTerminalPhase` of both packages. -/
def isTerminalPhase : Option ExperimentPhase → Bool
  | some .terminated | some .promoted | some .aborted => true
  | _ => false

theorem isTerminalPhase_iff (phase : Option ExperimentPhase) :
    isTerminalPhase phase ↔ phase ≠ none ∧ phase ≠ some .running := by
  cases phase with
  | none => simp [isTerminalPhase]
  | some p => cases p <;> simp [isTerminalPhase]

inductive ApiError
  | notFound
  | conflict
  | alreadyExists
  | other
  deriving DecidableEq

/-! ## Writes of one object -/

section
variable {Spec : Type} [DecidableEq Spec]

namespace DatadogAgent

/-- An accepted write. The server bumps the resource version, except when
the write changes nothing. -/
def commit (d new : DatadogAgent Spec) : DatadogAgent Spec :=
  if { new with resourceVersion := d.resourceVersion } = d then d
  else { new with resourceVersion := d.resourceVersion + 1 }

/-- `client.Update`: spec and metadata under optimistic locking; the status
is a subresource and stays. -/
def update (d obj : DatadogAgent Spec) : Except ApiError (DatadogAgent Spec) :=
  if obj.resourceVersion = d.resourceVersion then
    .ok (d.commit { d with spec := obj.spec, annotations := obj.annotations })
  else .error .conflict

/-- `client.Status().Update`: the status as a whole, under optimistic locking. -/
def updateStatus (d obj : DatadogAgent Spec) : Except ApiError (DatadogAgent Spec) :=
  if obj.resourceVersion = d.resourceVersion then .ok (d.commit { d with status := obj.status })
  else .error .conflict

variable (d new obj : DatadogAgent Spec)

@[simp] theorem commit_spec : (d.commit new).spec = new.spec := by
  unfold commit
  split
  · rename_i h; exact (congrArg DatadogAgent.spec h).symm
  · rfl

@[simp] theorem commit_annotations : (d.commit new).annotations = new.annotations := by
  unfold commit
  split
  · rename_i h; exact (congrArg DatadogAgent.annotations h).symm
  · rfl

@[simp] theorem commit_status : (d.commit new).status = new.status := by
  unfold commit
  split
  · rename_i h; exact (congrArg DatadogAgent.status h).symm
  · rfl

@[simp] theorem update_self (h : obj.resourceVersion = d.resourceVersion) :
    d.update obj = .ok (d.commit { d with spec := obj.spec, annotations := obj.annotations }) := by
  simp [update, h]

end DatadogAgent

end

/-! ## Patches of the annotations -/

/-- The annotations part of a JSON merge patch: `none` deletes a key. -/
def Annotations.mergePatch (a : Annotations) (patch : List (String × Option String)) :
    Annotations :=
  patch.foldl (fun a kv => match kv.2 with
    | some v => a.insert kv.1 v
    | none => a.erase kv.1) a

/-- The two JSON Patch operations in use, on annotation keys. -/
inductive JsonPatchOp
  | test (key value : String)
  | remove (key : String)

def JsonPatchOp.apply (a : Annotations) : JsonPatchOp → Option Annotations
  | .test key value => if a.lookup key = some value then some a else none
  | .remove key => if (a.lookup key).isSome then some (a.erase key) else none

/-- A JSON Patch applies as a whole or not at all. -/
def Annotations.jsonPatch (a : Annotations) (ops : List JsonPatchOp) : Option Annotations :=
  ops.foldlM JsonPatchOp.apply a

end DatadogOperator
