import DatadogOperator.Fleet.Plans

/-!
# Operator and daemon on one DatadogAgent

The daemon's tasks, its worker and the reconciles take turns. A task is cut
between its plan and its patch, because a reconcile can come in between; the
daemon's own transitions exclude each other. The worker gets the versions of
the object in order and with any delay. Beside the state proper the system
carries the history the theorems about tasks speak of: the last start patch,
and whether a stop was reported as done since.
-/

namespace DatadogOperator.Fleet

variable {Spec : Type} [DecidableEq Spec]

inductive Progress
  /-- No reconcile has read the patch. -/
  | unread
  /-- A reconcile has read the patch and left the experiment status alone. -/
  | ignored
  | running
  | ended
  | promoted
  deriving DecidableEq

structure StartPatch (Spec : Type) where
  id : String
  /-- The spec the patch has left. -/
  spec : Spec
  progress : Progress := .unread

/-- A version of the object on its way to the worker, and whether a start
patch has been written since. -/
structure Update (Spec : Type) where
  dda : DatadogAgent Spec
  sinceStart : Bool := false

structure System (Spec : Type) where
  server : Server Spec
  now : Time
  daemon : Daemon Spec
  /-- Earlier versions of the object, the newest first. -/
  older : List (DatadogAgent Spec) := []
  statusUpdates : List (Update Spec) := []
  /-- A task between its plan and its patch. -/
  inFlight : Option (RemoteAPIRequest × Plan Spec) := none
  start : Option (StartPatch Spec) := none
  /-- A stop was reported as done, and no start patch was written since. -/
  stopped : Bool := false

/-- A read through the daemon's client: it fails, or lags some versions behind. -/
abbrev Read := Except ApiError Nat

inductive Event (Spec : Type)
  | configs (configs : List (InstallerConfig Spec))
  | task (req : RemoteAPIRequest) (read : Read)
  | patch (outcome : Option ApiError)
  | worker (read : Read) (outcome : Option ApiError)
  /-- The informer delivers the current version again. -/
  | resync
  | tick (elapsed : Nat)
  | reconcile (env : Env Spec)
  | edit (spec : Spec) (annotations : Annotations)
  | restart (initialConfigVersion : String) (list : Option ApiError)

def System.read (s : System Spec) : Read → Except ApiError (DatadogAgent Spec)
  | .error e => .error e
  | .ok 0 => .ok s.server.dda
  | .ok (lag + 1) => .ok (s.older.getD lag s.server.dda)

/-- A write that changes the object makes a new version of it. -/
def System.write (s : System Spec) (dda : DatadogAgent Spec) : System Spec :=
  if dda = s.server.dda then s
  else { s with
    server := { s.server with dda }
    older := s.server.dda :: s.older
    statusUpdates := s.statusUpdates ++ [{ dda }] }

def System.noteStart (s : System Spec) (plan : Plan Spec) (spec : Spec) : System Spec :=
  match plan.starts with
  | some id => { s with
      start := some { id, spec }
      stopped := false
      statusUpdates := s.statusUpdates.map fun u => { u with sinceStart := true } }
  | none => s

def StartPatch.read (before after : DatadogAgentStatus) (st : StartPatch Spec) : StartPatch Spec :=
  { st with progress :=
      if after.experiment = before.experiment then
        if st.progress = .unread then .ignored else st.progress
      else match after.phase with
        | some .running => .running
        | some .promoted => .promoted
        | _ => .ended }

/-- The task is a stop, and `handleTask` reports it as done. -/
def Daemon.completesStop (d : Daemon Spec) (req : RemoteAPIRequest)
    (get : Except ApiError (DatadogAgent Spec)) : Bool :=
  decide (req.method = .stop) && match (d.handleRemoteAPIRequest req get).1 with
    | .ok plan => (applyOperation plan.pending plan.patch).isNone
    | .error _ => false

/-- The pending task is a stop, and the worker reports it as done. -/
def StatusSnapshot.finishesStop (snapshot : StatusSnapshot) : Bool :=
  match pendingOperationFromAnnotations snapshot.annotations with
  | some op => decide (op.intent = .stop ∧ evaluatePendingTask snapshot op = (true, none))
  | none => false

def System.step (r : Reconciler Spec) (s : System Spec) : Event Spec → System Spec
  | .configs configs => { s with daemon := { s.daemon with configs } }
  | .task req read =>
    match s.inFlight with
    | some _ => s
    | none =>
      let handled := s.daemon.handleTask req (s.read read)
      { s with
        daemon := handled.1
        inFlight := handled.2.map fun plan => (req, plan)
        stopped := s.stopped || s.daemon.completesStop req (s.read read) }
  | .patch outcome =>
    match s.inFlight with
    | none => s
    | some (req, plan) =>
      let s' := { s with daemon := s.daemon.patched req plan outcome, inFlight := none }
      match outcome with
      | some _ => s'
      | none =>
        let dda := patchWith (applyOperation plan.pending plan.patch) s.server.dda
        (s'.noteStart plan dda.spec).write dda
  | .worker read outcome =>
    match s.inFlight, s.statusUpdates with
    | none, update :: rest =>
      let snapshot := newDDAStatusSnapshot update.dda
      let handled := s.daemon.onStatusUpdate snapshot (s.read read)
      let s' := { s with
        daemon := handled.1
        statusUpdates := rest
        stopped := s.stopped || !update.sinceStart && snapshot.finishesStop }
      match outcome with
      | some _ => s'
      | none => s'.write (patchWith handled.2 s.server.dda)
    | _, _ => s
  | .resync => { s with statusUpdates := s.statusUpdates ++ [{ dda := s.server.dda }] }
  | .tick elapsed => { s with now := s.now + elapsed }
  | .reconcile env =>
    let server := (reconcileInstance r env.alone s.now s.server.dda s.server).2.server
    { s with
      server := { s.server with revisions := server.revisions }
      start := s.start.map (StartPatch.read s.server.dda.status server.dda.status) }.write
        server.dda

  | .edit spec annotations => s.write (userWrite spec annotations s.server.dda)
  | .restart initialConfigVersion list =>
    let daemon := s.daemon.restarted initialConfigVersion
      (match list with
        | some e => .error e
        | none => .ok s.server.dda)
    { s with daemon, inFlight := none, statusUpdates := [{ dda := s.server.dda }] }

/-- No call fails, the daemon reads the current version, and users leave the
object alone. -/
def Event.Clean : Event Spec → Prop
  | .task _ read => read = .ok 0
  | .patch outcome => outcome = none
  | .worker read outcome => read = .ok 0 ∧ outcome = none
  | .reconcile env => env = .clean
  | .edit .. => False
  | .restart _ list => list = none
  | .configs _ | .resync | .tick _ => True

def System.init (daemon : Daemon Spec) (server : Server Spec) (now : Time) : System Spec :=
  { server, now, daemon, statusUpdates := [{ dda := server.dda }] }

/-! ## What a step leaves -/

section
variable (s : System Spec) (d : DatadogAgent Spec) (plan : Plan Spec) (spec : Spec)

@[simp] theorem write_server : (s.write d).server = { s.server with dda := d } := by
  unfold System.write
  split
  · rename_i h
    subst h
    rfl
  · rfl

@[simp] theorem write_start : (s.write d).start = s.start := by
  unfold System.write
  split <;> rfl

@[simp] theorem write_inFlight : (s.write d).inFlight = s.inFlight := by
  unfold System.write
  split <;> rfl

@[simp] theorem write_stopped : (s.write d).stopped = s.stopped := by
  unfold System.write
  split <;> rfl

@[simp] theorem write_daemon : (s.write d).daemon = s.daemon := by
  unfold System.write
  split <;> rfl

theorem mem_write (h : u ∈ (s.write d).statusUpdates) : u ∈ s.statusUpdates ∨ u = { dda := d } := by
  unfold System.write at h
  split at h
  · exact .inl h
  · exact (List.mem_append.mp h).imp_right List.mem_singleton.mp

section
omit [DecidableEq Spec]

@[simp] theorem noteStart_server : (s.noteStart plan spec).server = s.server := by
  unfold System.noteStart
  split <;> rfl

@[simp] theorem noteStart_inFlight : (s.noteStart plan spec).inFlight = s.inFlight := by
  unfold System.noteStart
  split <;> rfl

theorem noteStart_some {id : String} (h : plan.starts = some id) :
    (s.noteStart plan spec).start = some { id, spec } := by
  simp [System.noteStart, h]

theorem noteStart_none (h : plan.starts = none) : s.noteStart plan spec = s := by
  simp [System.noteStart, h]

end

theorem step_ok (hok : RevisionsOk r s.server.revisions) :
    RevisionsOk r (s.step r e).server.revisions := by
  cases e with
  | reconcile env => simpa [System.step] using reconcile_ok s.now hok env.alone_alone
  | _ =>
    simp only [System.step]
    repeat' split
    all_goals simpa using hok

/-- A task between its plan and its patch was there before, or has just been planned. -/
theorem step_inFlight (h : (s.step r e).inFlight = some task) :
    s.inFlight = some task ∧ ((s.step r e).server.dda = s.server.dda ∨
        (∃ env, e = .reconcile env) ∨ ∃ spec annotations, e = .edit spec annotations) ∨
      ∃ read, e = .task task.1 read ∧ (s.step r e).server.dda = s.server.dda ∧
        (s.daemon.handleTask task.1 (s.read read)).2 = some task.2 := by
  cases e with
  | configs | tick | resync => exact .inl ⟨h, .inl rfl⟩
  | reconcile env => exact .inl ⟨by simpa [System.step] using h, .inr (.inl ⟨env, rfl⟩)⟩
  | edit spec annotations =>
    exact .inl ⟨by simpa [System.step] using h, .inr (.inr ⟨spec, annotations, rfl⟩)⟩
  | restart => cases h
  | task req read =>
    cases hf : s.inFlight with
    | some task' =>
      simp only [System.step, hf] at h ⊢
      exact .inl ⟨h, .inl trivial⟩
    | none =>
      simp only [System.step, hf] at h ⊢
      obtain ⟨plan, hplan, rfl⟩ := Option.map_eq_some_iff.mp h
      exact .inr ⟨read, rfl, trivial, hplan⟩
  | patch outcome =>
    rcases hf : s.inFlight with _ | _ <;> cases outcome <;> simp [System.step, hf] at h
  | worker read outcome =>
    cases hf : s.inFlight with
    | some task' =>
      simp only [System.step, hf] at h ⊢
      exact .inl ⟨h, .inl trivial⟩
    | none =>
      rcases hq : s.statusUpdates with _ | _ <;> cases outcome <;> simp [System.step, hf, hq] at h

theorem reconcile_pendingFields (hok : RevisionsOk r s.server.revisions) (env : Env Spec) :
    let out := (reconcileInstance r env.alone s.now s.server.dda s.server).2.server.dda
    pendingFields out.annotations = pendingFields s.server.dda.annotations ∧
      out.annotations.lookup annotationPendingTaskID =
        s.server.dda.annotations.lookup annotationPendingTaskID := by
  refine pendingFields_congr fun key hkey => ?_
  obtain ⟨hfleet, hid, hsig⟩ := isFleetKey_of_pending key hkey
  exact (reconcile_fleetKept s.now hok env.alone_alone).pending hfleet hid hsig

theorem userWrite_pendingFields (annotations : Annotations) :
    pendingFields (userWrite spec annotations d).annotations = pendingFields d.annotations ∧
      (userWrite spec annotations d).annotations.lookup annotationPendingTaskID =
        d.annotations.lookup annotationPendingTaskID :=
  pendingFields_congr fun key hkey =>
    userWrite_fleet spec annotations d (isFleetKey_of_pending key hkey).1

omit [DecidableEq Spec] in
theorem read_progress (before after : DatadogAgentStatus) (st : StartPatch Spec) :
    (st.read before after).progress ≠ .unread := by
  unfold StartPatch.read
  dsimp only
  split
  · split
    · nofun
    · assumption
  · split <;> nofun

end

end DatadogOperator.Fleet
