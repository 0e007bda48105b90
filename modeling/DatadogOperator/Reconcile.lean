import DatadogOperator.Experiment

/-!
# One reconcile of a DatadogAgent

`reconcileInstance` up to the revisions, and the final status write. What
follows `manageRevision` touches neither the experiment nor the revisions;
its failure persists the status as it was read.
-/

namespace DatadogOperator

variable {Spec : Type} [DecidableEq Spec]

def generateNewStatusFromDDA (status : DatadogAgentStatus) : DatadogAgentStatus :=
  { experiment := status.experiment
    remoteConfigConfiguration := status.remoteConfigConfiguration }

inductive Result
  | held
  | crashed
  /-- A conflict of the status write: requeued after a second. -/
  | requeued
  | statusFailed (e : ApiError)
  | finished (err : Option Error)

/-- The condition is written when there is an error, or when it was there. -/
def withReconcileError (newStatus : DatadogAgentStatus) (currentError : Option Error) :
    DatadogAgentStatus :=
  { newStatus with
    reconcileError := if currentError.isSome then some true
      else newStatus.reconcileError.map fun _ => false }

def updateStatusIfNeeded (env : Env Spec) (inst : DatadogAgent Spec)
    (newStatus : DatadogAgentStatus) (currentError : Option Error) (p : Pass Spec) :
    Result × Pass Spec :=
  let newStatus := withReconcileError newStatus currentError
  if newStatus = inst.status then (.finished currentError, p)
  else
    let p := p.interfere env.beforeStatus
    match env.updateStatus with
    | some .conflict => (.requeued, p)
    | some e => (.statusFailed e, p)
    | none =>
      match p.server.dda.updateStatus
        { inst with resourceVersion := p.resourceVersion, status := newStatus } with
      | .error _ => (.requeued, p)
      | .ok dda =>
        (.finished currentError,
          { p.setDDA dda with calls := p.calls ++ [.status p.server.dda dda] })

def Pass.begin (inst : DatadogAgent Spec) (server : Server Spec) : Pass Spec :=
  { server, revList := server.revisions, newStatus := generateNewStatusFromDDA inst.status
    resourceVersion := inst.resourceVersion }

/-- `inst` is the object the reconcile read, not always the server's. -/
def reconcileInstance (r : Reconciler Spec) (env : Env Spec) (now : Time)
    (inst : DatadogAgent Spec) (server : Server Spec) : Result × Pass Spec :=
  let p := Pass.begin inst server
  if env.hold then (.held, p)
  else match env.listRevisions with
  | some e => updateStatusIfNeeded env inst inst.status (some (.listRevisions e)) p
  | none =>
    let (experimentErr, p) := manageExperiment r env now inst p
    if env.crash then (.crashed, p)
    else match experimentErr with
    | .error e => updateStatusIfNeeded env inst p.newStatus (some e) p
    | .ok () =>
      match manageRevision r env inst.snapshot p with
      | (.error e, p) => updateStatusIfNeeded env inst p.newStatus (some e) p
      | (.ok (), p) =>
        if env.later then updateStatusIfNeeded env inst inst.status (some .later) p
        else updateStatusIfNeeded env inst p.newStatus none p

end DatadogOperator
