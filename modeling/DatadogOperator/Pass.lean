import DatadogOperator.Snapshot

/-!
# One reconcile and its surroundings

`Reconciler` holds the options and the revision hash, `Pass` the variables a
reconcile mutates. `Env` is everything a reconcile does not decide itself:
the outcome of each API call it makes, whether it crashes or fails further
down, and what other writers do to the DatadogAgent between its steps.
-/

namespace DatadogOperator

structure Reconciler (Spec : Type) where
  /-- `ReconcilerOptions.ExperimentTimeout`; zero means the default. -/
  experimentTimeout : Time := 0
  ddaName : String
  /-- `HashControllerRevision` of the snapshot's JSON. -/
  hash : RevisionSnapshot Spec → String

/-- A failed call is `some` error; the server does not apply it. -/
structure Env (Spec : Type) where
  /-- `resolveClusterProvider` holds the reconcile before it touches anything. -/
  hold : Bool := false
  listRevisions : Option ApiError := none
  getRevision : Option ApiError := none
  getCurrent : Option ApiError := none
  update : Option ApiError := none
  markState : Option ApiError := none
  clear : Option ApiError := none
  bump : Option ApiError := none
  delete : Option ApiError := none
  create : Option ApiError := none
  gcDelete : String → Option ApiError := fun _ => none
  /-- The operator dies after `manageExperiment`. -/
  crash : Bool := false
  /-- A step between `manageRevision` and the final status write fails. -/
  later : Bool := false
  updateStatus : Option ApiError := none
  -- Other writers, up to the named step of the reconcile.
  beforeReread : DatadogAgent Spec → DatadogAgent Spec := id
  beforeUpdate : DatadogAgent Spec → DatadogAgent Spec := id
  beforeClear : DatadogAgent Spec → DatadogAgent Spec := id
  beforeStatus : DatadogAgent Spec → DatadogAgent Spec := id

inductive Error
  | listRevisions (e : ApiError)
  | getRevision (name : String) (e : ApiError)
  | getCurrent (e : ApiError)
  | update (e : ApiError)
  | patchRevision (name : String) (e : ApiError)
  | hashCollision (name : String)
  | createRevision (name : String) (e : ApiError)
  | deleteRolledBack (name : String) (e : ApiError)
  | recreateRevision (name : String) (e : ApiError)
  | deleteRevision (name : String) (e : ApiError)
  | later
  deriving DecidableEq

/-- The reconciler's writes of the DatadogAgent: the object it replaced and
the object it left. A refused clear leaves the object as it was. -/
inductive Call (Spec : Type)
  | update (old new : DatadogAgent Spec)
  | clear (id : String) (old new : DatadogAgent Spec)
  | status (old new : DatadogAgent Spec)

/-- `revList` is the listed slice, which the client's patches update in
place; `resourceVersion` is the one of the caller's instance. -/
structure Pass (Spec : Type) where
  server : Server Spec
  revList : List (ControllerRevision Spec)
  newStatus : DatadogAgentStatus
  resourceVersion : Nat
  calls : List (Call Spec) := []

namespace Pass

def setDDA (p : Pass Spec) (dda : DatadogAgent Spec) : Pass Spec :=
  { p with server := { p.server with dda } }

def setRevisions (p : Pass Spec) (revisions : List (ControllerRevision Spec)) : Pass Spec :=
  { p with server := { p.server with revisions } }

def interfere (p : Pass Spec) (others : DatadogAgent Spec → DatadogAgent Spec) : Pass Spec :=
  p.setDDA (others p.server.dda)

def setExperiment (p : Pass Spec) (f : ExperimentStatus → ExperimentStatus) : Pass Spec :=
  { p with newStatus := { p.newStatus with experiment := p.newStatus.experiment.map f } }

def setPhase (p : Pass Spec) (phase : ExperimentPhase) : Pass Spec :=
  p.setExperiment fun e => { e with phase := some phase }

end Pass

def patchRevisions (name : String) (f : ControllerRevision Spec → ControllerRevision Spec)
    (revisions : List (ControllerRevision Spec)) : List (ControllerRevision Spec) :=
  revisions.map fun rev => if rev.name = name then f rev else rev

/-- A patch changes the stored revision and the listed one behind the pointer. -/
def Pass.patchRevision (p : Pass Spec) (name : String)
    (f : ControllerRevision Spec → ControllerRevision Spec) : Pass Spec :=
  { p with
    server := { p.server with revisions := patchRevisions name f p.server.revisions }
    revList := patchRevisions name f p.revList }

def Server.stored (s : Server Spec) (name : String) : Bool :=
  s.revisions.any fun rev => decide (rev.name = name)

def Pass.createRevision (p : Pass Spec) (outcome : Option ApiError)
    (rev : ControllerRevision Spec) : Except ApiError (Pass Spec) :=
  match outcome with
  | some e => .error e
  | none =>
    if p.server.stored rev.name then .error .alreadyExists
    else .ok (p.setRevisions (p.server.revisions ++ [rev]))

def Pass.deleteRevision (p : Pass Spec) (outcome : Option ApiError) (name : String) :
    Except ApiError (Pass Spec) :=
  match outcome with
  | some e => .error e
  | none =>
    if p.server.stored name then
      .ok (p.setRevisions (p.server.revisions.filter fun rev => decide (rev.name ≠ name)))
    else .error .notFound

end DatadogOperator
