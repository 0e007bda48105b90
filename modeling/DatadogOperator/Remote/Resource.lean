import DatadogOperator.Api
import Mathlib.Data.List.Sort
import Mathlib.Data.String.Basic

/-!
# Custom resources with an object in Datadog

What the controllers of monitors, SLOs, dashboards and generic resources share: the
custom resource with its status, the objects in Datadog, the finalizer and the write of
the status. Conditions, names of creators and requeue periods are left out: no decision
is taken from them, and a run may reconcile at any time.
-/

namespace DatadogOperator.Remote

inductive Kind
  | monitor
  | slo
  | dashboard
  | genericResource
  deriving DecidableEq

/-- The fields the controllers look at; the rest is the body. -/
structure Spec where
  type : String := ""
  tags : List String := []
  disableRequiredTags : Bool := false
  body : String := ""
  deriving DecidableEq

inductive SyncStatus
  | unset
  | ok
  | validateError
  | getError
  | createError
  | updateError
  deriving DecidableEq

structure TriggeredState where
  monitorGroup : String
  state : String
  lastTransitionTime : Time
  deriving DecidableEq

/-- `id` is missing where the source has 0 or the empty string. Monitors use all fields,
generic resources have no triggered groups, SLOs and dashboards have no state. -/
structure Status where
  id : Option Nat := none
  currentHash : String := ""
  lastForceSyncTime : Option Time := none
  syncStatus : SyncStatus := .unset
  created : Option Time := none
  primary : Bool := false
  state : String := ""
  stateLastUpdateTime : Option Time := none
  stateLastTransitionTime : Option Time := none
  triggeredState : List TriggeredState := []
  deriving DecidableEq

structure Resource where
  spec : Spec
  status : Status := {}
  finalizer : Bool := false
  deleting : Bool := false
  deriving DecidableEq

/-- What does not change during a run. -/
structure Settings where
  generateMD5ForSpec : Spec → String
  isValid : Spec → Bool
  /-- The types of monitors and generic resources. -/
  isSupported : Spec → Bool
  forceSyncPeriod : Int
  requeuePeriod : Int

/-! ## Datadog -/

structure MonitorGroup where
  name : String
  status : String
  lastTriggeredTs : Time
  lastNodataTs : Time
  deriving DecidableEq

/-- What GetMonitor returns. -/
structure Monitor where
  overallState : String := ""
  groups : List MonitorGroup := []
  deriving DecidableEq

inductive Call
  | get
  | refresh
  | validate
  | create
  | update
  | delete

/-- The objects made for one custom resource. The last four fields are history that no
controller reads: the calls of the reconcile, the most objects there were at once, the spec
of the last create or update that succeeded, and the monitor of the last state refresh. -/
structure Datadog where
  alive : List Nat := []
  next : Nat := 1
  log : List Call := []
  peak : Nat := 0
  written : Option Spec := none
  refreshed : Option Monitor := none

inductive CallError
  | notFound
  | other
  deriving DecidableEq

/-- How a call ends. Someone else may delete the object just before it. -/
structure Outcome where
  gone : Bool := false
  fails : Bool := false

def Datadog.called (d : Datadog) (call : Call) : Datadog := { d with log := d.log ++ [call] }

def Datadog.vanish (d : Datadog) (id : Nat) : Datadog :=
  { d with alive := d.alive.filter (· ≠ id) }

/-- A call for one object. A failed call has no effect, and an object that does not exist
is reported as such. -/
def Datadog.access (d : Datadog) (call : Call) (id : Nat) (o : Outcome) :
    Datadog × Option CallError :=
  let d := (if o.gone then d.vanish id else d).called call
  (d, if o.fails then some .other else if id ∈ d.alive then none else some .notFound)

def Datadog.update (d : Datadog) (id : Nat) (spec : Spec) (o : Outcome) :
    Datadog × Option CallError :=
  let (d, e) := d.access .update id o
  (if e = none then { d with written := some spec } else d, e)

def Datadog.delete (d : Datadog) (id : Nat) (o : Outcome) : Datadog × Option CallError :=
  let (d, e) := d.access .delete id o
  (if e = none then d.vanish id else d, e)

def Datadog.create (d : Datadog) (spec : Spec) (fails : Bool) : Datadog × Option Nat :=
  let d := d.called .create
  if fails then (d, none)
  else
    ({ d with
        alive := d.next :: d.alive
        next := d.next + 1
        peak := max d.peak (d.alive.length + 1)
        written := some spec },
      some d.next)

/-! ## One reconcile -/

/-- A change another writer makes: the spec, the finalizers, or the request to delete. -/
structure Edit where
  spec : Spec
  finalizer : Bool := true
  delete : Bool := false

/-- The object goes when it is to be deleted and has no finalizer. -/
def Resource.edited (r : Resource) (e : Edit) : Option Resource :=
  let r := { r with spec := e.spec, finalizer := e.finalizer, deleting := r.deleting || e.delete }
  if r.deleting && !r.finalizer then none else some r

structure Env where
  now : Time
  get : Outcome := {}
  update : Outcome := {}
  delete : Outcome := {}
  validateFails : Bool := false
  createFails : Bool := false
  /-- The creation time Datadog reports. -/
  createdAt : Option Time := none
  monitor : Monitor := {}
  /-- The state of a generic resource, for types that have one. -/
  state : Option String := none
  /-- Writes of the custom resource itself, with a finalizer or tags. -/
  writeFails : Bool := false
  /-- Conflicts in a row when the status is written. -/
  conflicts : Nat := 0
  /-- What another writer changes meanwhile. -/
  edit : Option Edit := none

def due (last : Option Time) (period now : Int) : Bool :=
  match last with
  | none => true
  | some t => period - (now - t) ≤ 0

/-- What is to be done in Datadog. -/
inductive Decision
  | nothing
  | create
  | update

/-! ## Finalizer -/

/-- True if it failed. Dashboards only log an error. An object that is gone is deleted. -/
def deleteResource (kind : Kind) (env : Env) (status : Status) (d : Datadog) : Datadog × Bool :=
  match kind with
  | .monitor =>
    if status.primary then
      let (d, e) := d.delete (status.id.getD 0) env.delete
      (d, e == some .other)
    else (d, false)
  | .slo | .genericResource =>
    match status.id with
    | none => (d, false)
    | some id =>
      let (d, e) := d.delete id env.delete
      (d, e == some .other)
  | .dashboard =>
    match status.id with
    | none => (d, false)
    | some id => ((d.delete id env.delete).1, false)

/-- `HandleFinalizer`; nothing when the reconcile goes on. The object goes with its finalizer. -/
def handleFinalizer (kind : Kind) (env : Env) (r : Resource) (d : Datadog) :
    Option (Option Resource × Datadog) :=
  if !r.deleting then
    if r.finalizer then none
    else some (some (if env.writeFails then r else { r with finalizer := true }), d)
  else if r.finalizer then
    let (d, failed) := deleteResource kind env r.status d
    if failed then some (some r, d)
    else some (if env.writeFails then some r else none, d)
  else some (some r, d)

/-! ## Required tags -/

def requiredTag := "generated:kubernetes"

inductive TagCheck
  | present
  | added (r : Resource)
  | failed

def checkRequiredTags (env : Env) (r : Resource) : TagCheck :=
  if r.spec.disableRequiredTags ∨ requiredTag ∈ r.spec.tags then .present
  else if env.writeFails then .failed
  else .added { r with spec := { r.spec with tags := r.spec.tags ++ [requiredTag] } }

/-! ## Writing the status -/

/-- `RetryOnConflict`: true if an attempt meets no conflict. -/
def retryOnConflict : (steps conflicts : Nat) → Bool
  | 0, _ => false
  | _ + 1, 0 => true
  | steps + 1, conflicts + 1 => retryOnConflict steps conflicts

def defaultRetrySteps := 5

/-- Monitors and generic resources write the status again, over the latest object. -/
def Kind.retries : Kind → Nat
  | .monitor | .genericResource => defaultRetrySteps
  | .slo | .dashboard => 0

def statusWritten (kind : Kind) (env : Env) : Bool :=
  match env.conflicts with
  | 0 => true
  | conflicts + 1 => retryOnConflict kind.retries conflicts

structure Pending where
  resource : Resource
  status : Status
  datadog : Datadog

def updateStatusIfNeeded (kind : Kind) (env : Env) (p : Pending) : Resource :=
  if p.resource.status = p.status then p.resource
  else if statusWritten kind env then { p.resource with status := p.status }
  else p.resource

end DatadogOperator.Remote
