import DatadogOperator.Lib.TopTwo
import DatadogOperator.Pass

/-!
# Controller revisions of the raw spec

`revision.go`: the snapshot of the current spec is created, bumped to the
highest number or recreated, and all but two revisions are deleted.
-/

namespace DatadogOperator

open scoped TopTwo

variable {Spec : Type} [DecidableEq Spec]

def Reconciler.revisionName (r : Reconciler Spec) (data : RevisionSnapshot Spec) : String :=
  controllerRevisionName r.ddaName (r.hash data)

/-- `NewControllerRevision`, without labels and owner. -/
def Reconciler.newControllerRevision (r : Reconciler Spec) (data : RevisionSnapshot Spec)
    (revision : Int) : ControllerRevision Spec :=
  { name := r.revisionName data, revision, data }

def skipRevisionBump (newStatus : DatadogAgentStatus) : Bool :=
  match newStatus.experiment with
  | none => false
  | some e => decide (e.phase = some .terminated)

def recreateRevision (r : Reconciler Spec) (env : Env Spec) (old : ControllerRevision Spec)
    (data : RevisionSnapshot Spec) (maxRevision : Int) (p : Pass Spec) :
    Except Error String × Pass Spec :=
  let fresh := r.newControllerRevision data (maxRevision + 1)
  let create (p : Pass Spec) : Except Error String × Pass Spec :=
    match p.createRevision env.create fresh with
    | .ok p => (.ok fresh.name, p)
    | .error .alreadyExists => (.ok fresh.name, p)
    | .error e => (.error (.recreateRevision fresh.name e), p)
  match p.deleteRevision env.delete old.name with
  | .ok p => create p
  | .error .notFound => create p
  | .error e => (.error (.deleteRolledBack old.name e), p)

/-- The last listed revision with this data. -/
def matchingRevision (revList : List (ControllerRevision Spec)) (data : RevisionSnapshot Spec) :
    Option (ControllerRevision Spec) :=
  revList.foldl (fun found existing => if existing.data = data then some existing else found) none

def maxRevision (revList : List (ControllerRevision Spec)) : Int :=
  revList.foldl (fun m existing => if existing.revision > m then existing.revision else m) 0

def ensureRevision (r : Reconciler Spec) (env : Env Spec) (data : RevisionSnapshot Spec)
    (skipBump : Bool) (p : Pass Spec) : Except Error String × Pass Spec :=
  let maxRev := maxRevision p.revList
  match matchingRevision p.revList data with
  | some rev =>
    if rev.experimentState = some .rolledBack ∧ skipBump = false then
      recreateRevision r env rev data maxRev p
    else if rev.revision < maxRev ∧ skipBump = false then
      match env.bump with
      | none => (.ok rev.name, p.patchRevision rev.name fun x => { x with revision := maxRev + 1 })
      | some .conflict => (.ok rev.name, p)
      | some e => (.error (.patchRevision rev.name e), p)
    else (.ok rev.name, p)
  | none =>
    let rev := r.newControllerRevision data (maxRev + 1)
    match p.revList.find? fun existing => decide (existing.name = rev.name) with
    | some existing =>
      if existing.data = data then (.ok rev.name, p) else (.error (.hashCollision rev.name), p)
    | none =>
      match p.createRevision env.create rev with
      | .ok p => (.ok rev.name, p)
      | .error .alreadyExists => (.ok rev.name, p)
      | .error e => (.error (.createRevision rev.name e), p)

/-- The most recent revision other than `current`, kept as previous. -/
def previousRevision (revList : List (ControllerRevision Spec)) (current : String) : String :=
  (((revList.filter fun rev => decide (rev.name ≠ current ∧ -1 < rev.revision)).argmax
    (·.revision)).map (·.name)).getD ""

def gcDelete (env : Env Spec) (current previous : String) :
    List (ControllerRevision Spec) → Pass Spec → Except Error Unit × Pass Spec
  | [], p => (.ok (), p)
  | rev :: revs, p =>
    if rev.name = current ∨ rev.name = previous then gcDelete env current previous revs p
    else match p.deleteRevision (env.gcDelete rev.name) rev.name with
      | .ok p => gcDelete env current previous revs p
      | .error .notFound => gcDelete env current previous revs p
      | .error e => (.error (.deleteRevision rev.name e), p)

def gcOldRevisions (env : Env Spec) (current : String) (p : Pass Spec) :
    Except Error Unit × Pass Spec :=
  gcDelete env current (previousRevision p.revList current) p.revList p

/-- A failed garbage collection is only logged. -/
def manageRevision (r : Reconciler Spec) (env : Env Spec) (data : RevisionSnapshot Spec)
    (p : Pass Spec) : Except Error Unit × Pass Spec :=
  match ensureRevision r env data (skipRevisionBump p.newStatus) p with
  | (.error e, p) => (.error e, p)
  | (.ok revName, p) => (.ok (), (gcOldRevisions env revName p).2)

end DatadogOperator
