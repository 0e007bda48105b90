import DatadogOperator.Remote.Monitor

/-!
# SLOs, dashboards and generic resources

The other three controllers, and one reconcile of any of the four. These three update
without a check when the spec has changed, and take its hash into the status before the
call.
-/

namespace DatadogOperator.Remote

/-- `create`, with the creation time to report. -/
def createObject (s : Settings) (env : Env) (createdTime : Time) (spec : Spec) (status : Status)
    (d : Datadog) : Status × Datadog :=
  match d.create spec env.createFails with
  | (d, none) => ({ status with syncStatus := .createError }, d)
  | (d, some id) =>
    ({ status with
        syncStatus := .ok
        id := some id
        created := some createdTime
        lastForceSyncTime := some createdTime
        currentHash := s.generateMD5ForSpec spec }, d)

def updateObject (s : Settings) (env : Env) (spec : Spec) (status : Status) (d : Datadog) :
    Status × Datadog :=
  let status := { status with currentHash := s.generateMD5ForSpec spec }
  match d.update (status.id.getD 0) spec env.update with
  | (d, none) => ({ status with syncStatus := .ok, lastForceSyncTime := some env.now }, d)
  | (d, some _) => ({ status with syncStatus := .updateError }, d)

/-! ## SLOs -/

def sloForceSync (env : Env) (id : Nat) (status : Status) (d : Datadog) : Plan :=
  let status := { status with lastForceSyncTime := some env.now }
  match d.access .get id env.get with
  | (d, none) => ⟨.update, status, d⟩
  | (d, some .notFound) => ⟨.create, status, d⟩
  | (d, some .other) => ⟨.nothing, status, d⟩

def sloPlan (s : Settings) (env : Env) (r : Resource) (d : Datadog) : Plan :=
  match r.status.id with
  | none => ⟨.create, r.status, d⟩
  | some id =>
    if s.generateMD5ForSpec r.spec ≠ r.status.currentHash then ⟨.update, r.status, d⟩
    else if due r.status.lastForceSyncTime s.forceSyncPeriod env.now then
      sloForceSync env id r.status d
    else ⟨.nothing, r.status, d⟩

def sloCreate (s : Settings) (env : Env) := createObject s env (env.createdAt.getD 0)

def sloUpdate (s : Settings) (env : Env) := updateObject s env

def sloReconcile (s : Settings) (env : Env) (r : Resource) (d : Datadog) : Pending :=
  if !s.isValid r.spec then ⟨r, { r.status with syncStatus := .validateError }, d⟩
  else
    let plan := sloPlan s env r d
    match plan.decision with
    | .nothing => ⟨r, plan.status, plan.datadog⟩
    | .create => withRequiredTags env r plan (sloCreate s env r.spec)
    | .update => withRequiredTags env r plan (sloUpdate s env r.spec)

/-! ## Dashboards -/

def dashboardForceSync (env : Env) (id : Nat) (status : Status) (d : Datadog) : Plan :=
  let status := { status with lastForceSyncTime := some env.now }
  match d.access .get id env.get with
  | (d, none) => ⟨.update, status, d⟩
  | (d, some .notFound) => ⟨.create, { status with syncStatus := .getError }, d⟩
  | (d, some .other) => ⟨.nothing, { status with syncStatus := .getError }, d⟩

def dashboardPlan (s : Settings) (env : Env) (r : Resource) (d : Datadog) : Plan :=
  match r.status.id with
  | none => ⟨.create, r.status, d⟩
  | some id =>
    if s.generateMD5ForSpec r.spec ≠ r.status.currentHash then ⟨.update, r.status, d⟩
    else if due r.status.lastForceSyncTime s.forceSyncPeriod env.now then
      dashboardForceSync env id r.status d
    else ⟨.nothing, r.status, d⟩

def dashboardCreate (s : Settings) (env : Env) := createObject s env (env.createdAt.getD 0)

def dashboardUpdate (s : Settings) (env : Env) := updateObject s env

/-- The plan carried out, for the kinds that add no tags. -/
def Plan.run (r : Resource) (plan : Plan) (create update : Status → Datadog → Status × Datadog) :
    Pending :=
  match plan.decision with
  | .nothing => ⟨r, plan.status, plan.datadog⟩
  | .create =>
    let (status, d) := create plan.status plan.datadog
    ⟨r, status, d⟩
  | .update =>
    let (status, d) := update plan.status plan.datadog
    ⟨r, status, d⟩

def dashboardReconcile (s : Settings) (env : Env) (r : Resource) (d : Datadog) : Pending :=
  if !s.isValid r.spec then ⟨r, { r.status with syncStatus := .validateError }, d⟩
  else
    (dashboardPlan s env r d).run r (dashboardCreate s env r.spec) (dashboardUpdate s env r.spec)

/-! ## Generic resources -/

/-- A failed check leaves the time of the last force sync, so the next reconcile tries again. -/
def genericForceSync (env : Env) (id : Nat) (status : Status) (d : Datadog) : Plan :=
  match d.access .get id env.get with
  | (d, none) => ⟨.update, status, d⟩
  | (d, some .notFound) => ⟨.create, { status with syncStatus := .getError }, d⟩
  | (d, some .other) => ⟨.nothing, { status with syncStatus := .getError }, d⟩

def applyResourceState (state : String) (now : Time) (status : Status) : Status :=
  { status with
    state := state
    stateLastTransitionTime :=
      if state ≠ status.state then some now else status.stateLastTransitionTime
    stateLastUpdateTime := some now }

/-- The last known state is kept when the call fails. -/
def genericRefresh (env : Env) (id : Nat) (status : Status) (d : Datadog) : Plan :=
  match d.access .refresh id env.get, env.state with
  | (d, none), some state => ⟨.nothing, applyResourceState state env.now status, d⟩
  | (d, _), _ => ⟨.nothing, status, d⟩

def genericPlan (s : Settings) (env : Env) (r : Resource) (d : Datadog) : Plan :=
  match r.status.id with
  | none => ⟨.create, r.status, d⟩
  | some id =>
    if s.generateMD5ForSpec r.spec ≠ r.status.currentHash then ⟨.update, r.status, d⟩
    else if due r.status.lastForceSyncTime s.forceSyncPeriod env.now then
      genericForceSync env id r.status d
    else if due r.status.stateLastUpdateTime s.requeuePeriod env.now then
      genericRefresh env id r.status d
    else ⟨.nothing, r.status, d⟩

def genericCreate (s : Settings) (env : Env) := createObject s env (env.createdAt.getD env.now)

/-- An object that is gone is made again at once. -/
def genericUpdate (s : Settings) (env : Env) (spec : Spec) (status : Status) (d : Datadog) :
    Status × Datadog :=
  let status := { status with currentHash := s.generateMD5ForSpec spec }
  match d.update (status.id.getD 0) spec env.update with
  | (d, none) => ({ status with syncStatus := .ok, lastForceSyncTime := some env.now }, d)
  | (d, some .notFound) => genericCreate s env spec status d
  | (d, some .other) => ({ status with syncStatus := .updateError }, d)

def genericReconcile (s : Settings) (env : Env) (r : Resource) (d : Datadog) : Pending :=
  (genericPlan s env r d).run r (genericCreate s env r.spec) (genericUpdate s env r.spec)

/-! ## One reconcile -/

def internalReconcile (kind : Kind) (s : Settings) (env : Env) (r : Resource) (d : Datadog) :
    Pending :=
  match kind with
  | .monitor => monitorReconcile s env r d
  | .slo => sloReconcile s env r d
  | .dashboard => dashboardReconcile s env r d
  | .genericResource => genericReconcile s env r d

/-- A generic resource of an unknown type has no handler, and the reconcile panics before it
does anything. -/
def reconcile (kind : Kind) (s : Settings) (env : Env) (r : Resource) (d : Datadog) :
    Option Resource × Datadog :=
  if kind = .genericResource ∧ !s.isSupported r.spec then (some r, d)
  else
    match handleFinalizer kind env r d with
    | some out => out
    | none =>
      let p := internalReconcile kind s env r d
      (some (updateStatusIfNeeded kind env p), p.datadog)

/-! ## Runs -/

structure World where
  resource : Option Resource
  datadog : Datadog := {}

inductive Event
  | reconcile (env : Env)
  | edit (e : Edit)
  /-- The object is deleted out of band. -/
  | vanish (id : Nat)

/-- A reconcile starts with an empty log. -/
def World.step (kind : Kind) (s : Settings) (w : World) : Event → World
  | .reconcile env =>
    match w.resource with
    | none => w
    | some r =>
      let (resource, d) := Remote.reconcile kind s env r { w.datadog with log := [] }
      ⟨match env.edit with
        | none => resource
        | some e => resource.bind (·.edited e), d⟩
  | .edit e => { w with resource := w.resource.bind (·.edited e) }
  | .vanish id => { w with datadog := w.datadog.vanish id }

def World.initial (spec : Spec) : World := ⟨some { spec }, {}⟩

end DatadogOperator.Remote
