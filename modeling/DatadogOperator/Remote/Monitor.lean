import DatadogOperator.Remote.Resource

/-!
# Monitors

One reconcile of a DatadogMonitor. The existence of the monitor is checked before every
update, and its state is refreshed when nothing else is due.
-/

namespace DatadogOperator.Remote

def isTriggered (groupStatus : String) : Bool :=
  groupStatus = "Alert" || groupStatus = "Warn" || groupStatus = "No Data"

def maxTriggeredStateGroups := 10

def MonitorGroup.triggered (g : MonitorGroup) : Option TriggeredState :=
  if isTriggered g.status then
    some ⟨g.name, g.status, max g.lastTriggeredTs g.lastNodataTs⟩
  else none

def Monitor.triggeredStates (m : Monitor) : List TriggeredState :=
  ((m.groups.filterMap MonitorGroup.triggered).insertionSort
    (·.monitorGroup ≤ ·.monitorGroup)).take maxTriggeredStateGroups

def convertStateToStatus (m : Monitor) (now : Time) (status : Status) : Status :=
  { status with
    triggeredState := m.triggeredStates
    state := m.overallState
    stateLastTransitionTime :=
      if m.overallState ≠ status.state then some now else status.stateLastTransitionTime }

def updateMonitorState (m : Monitor) (now : Time) (status : Status) : Status :=
  { convertStateToStatus m now status with
    stateLastUpdateTime := some now
    syncStatus := .ok }

/-! ## What to do -/

structure Plan where
  decision : Decision
  status : Status
  datadog : Datadog

/-- The existence check before an update. -/
def monitorSync (env : Env) (id : Nat) (status : Status) (d : Datadog) : Plan :=
  match d.access .get id env.get with
  | (d, none) => ⟨.update, status, d⟩
  | (d, some .notFound) => ⟨.create, { status with syncStatus := .getError }, d⟩
  | (d, some .other) => ⟨.nothing, { status with syncStatus := .getError }, d⟩

/-- The state is converted after a failed call as well, from a monitor with no fields. -/
def monitorRefresh (env : Env) (id : Nat) (status : Status) (d : Datadog) : Plan :=
  match d.access .refresh id env.get with
  | (d, none) =>
    ⟨.nothing, updateMonitorState env.monitor env.now status,
      { d with refreshed := some env.monitor }⟩
  | (d, some .notFound) =>
    ⟨.create, updateMonitorState {} env.now { status with syncStatus := .getError }, d⟩
  | (d, some .other) =>
    ⟨.nothing, updateMonitorState {} env.now { status with syncStatus := .getError }, d⟩

def monitorPlan (s : Settings) (env : Env) (r : Resource) (d : Datadog) : Plan :=
  match r.status.id with
  | none => ⟨.create, r.status, d⟩
  | some id =>
    if s.generateMD5ForSpec r.spec ≠ r.status.currentHash then monitorSync env id r.status d
    else if due r.status.lastForceSyncTime s.forceSyncPeriod env.now then
      monitorSync env id r.status d
    else if due r.status.stateLastUpdateTime s.requeuePeriod env.now then
      monitorRefresh env id r.status d
    else ⟨.nothing, r.status, d⟩

/-! ## Doing it -/

def monitorCreate (s : Settings) (env : Env) (spec : Spec) (status : Status) (d : Datadog) :
    Status × Datadog :=
  let d := d.called .validate
  if env.validateFails then (status, d)
  else
    match d.create spec env.createFails with
    | (d, none) => (status, d)
    | (d, some id) =>
      ({ status with
          id := some id
          created := some (env.createdAt.getD 0)
          primary := true
          syncStatus := .unset
          currentHash := s.generateMD5ForSpec spec }, d)

/-- A monitor that went since the check loses its ID. -/
def monitorUpdate (s : Settings) (env : Env) (spec : Spec) (status : Status) (d : Datadog) :
    Status × Datadog :=
  let d := d.called .validate
  if env.validateFails then ({ status with syncStatus := .validateError }, d)
  else
    match d.update (status.id.getD 0) spec env.update with
    | (d, none) =>
      ({ status with
          syncStatus := .ok
          lastForceSyncTime := some env.now
          currentHash := s.generateMD5ForSpec spec }, d)
    | (d, some .notFound) => ({ status with syncStatus := .updateError, id := none }, d)
    | (d, some .other) => ({ status with syncStatus := .updateError }, d)

/-- An action of the plan, once the required tags are there. -/
def withRequiredTags (env : Env) (r : Resource) (plan : Plan)
    (act : Status → Datadog → Status × Datadog) : Pending :=
  match checkRequiredTags env r with
  | .failed => ⟨r, plan.status, plan.datadog⟩
  | .added r => ⟨r, plan.status, plan.datadog⟩
  | .present =>
    let (status, d) := act plan.status plan.datadog
    ⟨r, status, d⟩

def monitorReconcile (s : Settings) (env : Env) (r : Resource) (d : Datadog) : Pending :=
  if !s.isValid r.spec then ⟨r, r.status, d⟩
  else
    let plan := monitorPlan s env r d
    match plan.decision with
    | .nothing => ⟨r, plan.status, plan.datadog⟩
    | .create =>
      if s.isSupported r.spec then withRequiredTags env r plan (monitorCreate s env r.spec)
      else ⟨r, plan.status, plan.datadog⟩
    | .update => withRequiredTags env r plan (monitorUpdate s env r.spec)

end DatadogOperator.Remote
