import DatadogOperator.CleanReconcile
import DatadogOperator.Fleet.Operations
import DatadogOperator.Lib.Runs

/-!
# Runs of one DatadogAgent

A run interleaves reconciles with everything else that happens to the
object: user edits, the daemon's signal patches, the clock. The world
carries, beside what the API server stores, the history the experiment
theorems speak of: the snapshot last reconciled, the last start patch, and the
start patch of the experiment that is running.
-/

namespace DatadogOperator

variable {Spec : Type} [DecidableEq Spec]

/-- A start patch, with what has been written since. -/
structure Start (Spec : Type) where
  id : String
  spec : Spec
  /-- The snapshot last reconciled before the patch. -/
  baseline : Option (RevisionSnapshot Spec)
  /-- A later write changed the spec. -/
  edited : Bool := false
  /-- A later write, not the operator's, changed spec or Datadog annotations. -/
  foreign : Bool := false

structure World (Spec : Type) where
  server : Server Spec
  now : Time
  reconciled : Option (RevisionSnapshot Spec) := none
  started : Option (Start Spec) := none
  running : Option (Start Spec) := none

inductive Event (Spec : Type)
  | edit (spec : Spec) (annotations : Annotations)
  /-- A task's signal patch. Only a start patch carries a spec. -/
  | daemon (op : Fleet.PendingOperation) (spec : Spec)
  | tick (elapsed : Nat)
  | reconcile (env : Env Spec)

def Fleet.PendingOperation.signal (op : Fleet.PendingOperation) : String :=
  match op.intent with
  | .start => experimentSignalStart
  | .stop => experimentSignalRollback
  | .promote => experimentSignalPromote

/-- The object after the daemon's patch for a planned operation. -/
def daemonWrite (op : Fleet.PendingOperation) (spec : Spec) (d : DatadogAgent Spec) :
    DatadogAgent Spec :=
  let config : Option (Spec → Spec) := if op.intent = .start then some fun _ => spec else none
  match Fleet.applyOperation (some op)
      (some (Fleet.buildSignalPatch op.signal op.experimentID config)) with
  | some patch => patch.apply d
  | none => d

/-- Users leave the annotations of operator and daemon alone. -/
def userWrite (spec : Spec) (annotations : Annotations) (d : DatadogAgent Spec) :
    DatadogAgent Spec :=
  d.commit { d with
    spec
    annotations := d.annotations.filterKeys isFleetKey ∪
      annotations.filterKeys fun key => !isFleetKey key }

def Start.touch (before after : DatadogAgent Spec) (operator : Bool) (st : Start Spec) :
    Start Spec :=
  { st with
    edited := st.edited || decide (after.spec ≠ before.spec)
    foreign := st.foreign || !operator && decide (after.snapshot ≠ before.snapshot) }

def World.write (w : World Spec) (operator : Bool) (server : Server Spec) : World Spec :=
  { w with
    server
    started := w.started.map (Start.touch w.server.dda server.dda operator)
    running := w.running.map (Start.touch w.server.dda server.dda operator) }

def World.reconcile (r : Reconciler Spec) (env : Env Spec) (w : World Spec) : Server Spec :=
  (reconcileInstance r env.alone w.now w.server.dda w.server).2.server

def World.Starts (w : World Spec) : Prop :=
  w.server.dda.status.phase ≠ some .running ∧ w.server.dda.signal = some .start ∧
    w.server.dda.annotationID ≠ w.server.dda.status.id

instance (w : World Spec) : Decidable w.Starts := inferInstanceAs (Decidable (_ ∧ _ ∧ _))

def World.verdict (r : Reconciler Spec) (w : World Spec) : Verdict :=
  DatadogOperator.verdict r w.now w.server.revisions w.server.dda

def World.computed (r : Reconciler Spec) (env : Env Spec) (w : World Spec) :
    Option ExperimentStatus :=
  (w.verdict r).experiment w.now w.server.dda
    (rollbackSucceeds env.alone (findRollbackTarget w.server.revisions) w.server)

def World.step (r : Reconciler Spec) (w : World Spec) : Event Spec → World Spec
  | .edit spec annotations =>
    w.write false { w.server with dda := userWrite spec annotations w.server.dda }
  | .daemon op spec =>
    let dda := daemonWrite op spec w.server.dda
    let w' := w.write false { w.server with dda }
    if op.intent = .start then
      { w' with started := some { id := op.experimentID, spec := dda.spec
                                  baseline := w.reconciled } }
    else w'
  | .tick elapsed => { w with now := w.now + elapsed }
  | .reconcile env =>
    let server := w.reconcile r env
    let w' := w.write true server
    { w' with
      reconciled := if env.hold then w.reconciled else some server.dda.snapshot
      running := if w.server.dda.status.phase ≠ some .running ∧
          server.dda.status.phase = some .running then w'.started else w'.running }

/-- A DatadogAgent the operator has not seen: no revisions, no history. -/
def World.init (dda : DatadogAgent Spec) (now : Time) : World Spec :=
  { server := { dda, revisions := [] }, now }

def World.Moves (r : Reconciler Spec) (w : World Spec) (env : Env Spec)
    (old new : ExperimentPhase) : Prop :=
  w.server.dda.status.phase = some old ∧
    (w.reconcile r env).dda.status.phase = some new

instance (r : Reconciler Spec) (w : World Spec) (env : Env Spec) (old new : ExperimentPhase) :
    Decidable (w.Moves r env old new) :=
  inferInstanceAs (Decidable (_ ∧ _))

/-! ## Writes of others -/

theorem userWrite_fleet (spec : Spec) (annotations : Annotations) (d : DatadogAgent Spec)
    (hkey : isFleetKey key) :
    (userWrite spec annotations d).annotations.lookup key = d.annotations.lookup key := by
  simp [userWrite, Finmap.lookup_union, hkey]

theorem userWrite_signal (spec : Spec) (annotations : Annotations) (d : DatadogAgent Spec) :
    (userWrite spec annotations d).signal = d.signal ∧
      (userWrite spec annotations d).annotationID = d.annotationID :=
  DatadogAgent.signal_congr (userWrite_fleet _ _ _ isFleetKey_experimentID)
    (userWrite_fleet _ _ _ isFleetKey_experimentSignal)

@[simp] theorem userWrite_status (spec : Spec) (annotations : Annotations) (d : DatadogAgent Spec) :
    (userWrite spec annotations d).status = d.status := by simp [userWrite]

section
variable (op : Fleet.PendingOperation) (spec : Spec) (d : DatadogAgent Spec)

@[simp] theorem daemonWrite_status : (daemonWrite op spec d).status = d.status := by
  simp [daemonWrite, Fleet.applyOperation, Fleet.Patch.apply]

theorem daemonWrite_spec :
    (daemonWrite op spec d).spec = if op.intent = .start then spec else d.spec := by
  by_cases h : op.intent = .start <;>
    simp [daemonWrite, Fleet.applyOperation, Fleet.Patch.apply, Fleet.buildSignalPatch, h]

theorem daemonWrite_annotations : (daemonWrite op spec d).annotations = d.annotations.mergePatch
      ([(annotationExperimentSignal, some op.signal),
        (annotationExperimentID, some op.experimentID)] ++ op.annotations) := by
  simp [daemonWrite, Fleet.applyOperation, Fleet.Patch.apply, Fleet.buildSignalPatch]

theorem daemonWrite_datadog :
    datadogAnnotations (daemonWrite op spec d).annotations = datadogAnnotations d.annotations := by
  rw [daemonWrite_annotations]
  refine datadogAnnotations_mergePatch _ ?_
  simp only [Fleet.PendingOperation.annotations, List.cons_append, List.nil_append,
    List.forall_mem_cons, List.not_mem_nil, false_imp_iff, implies_true, and_true]
  decide

theorem daemonWrite_lookup :
    (daemonWrite op spec d).annotations.lookup annotationExperimentID = some op.experimentID ∧
      (daemonWrite op spec d).annotations.lookup annotationExperimentSignal = some op.signal := by
  rw [daemonWrite_annotations]
  have hnodup : (([(annotationExperimentSignal, some op.signal),
      (annotationExperimentID, some op.experimentID)] ++ op.annotations).map Prod.fst).Nodup := by
    simp only [Fleet.PendingOperation.annotations, List.cons_append, List.nil_append, List.map_cons,
      List.map_nil]
    decide
  exact ⟨lookup_mergePatch_of_mem _ hnodup (by simp), lookup_mergePatch_of_mem _ hnodup (by simp)⟩

theorem daemonWrite_get :
    (daemonWrite op spec d).annotations.get annotationExperimentSignal = op.signal ∧
      (daemonWrite op spec d).annotationID = op.experimentID := by
  obtain ⟨hid, hsig⟩ := daemonWrite_lookup op spec d
  unfold DatadogAgent.annotationID Annotations.get
  rw [hid, hsig]
  exact ⟨rfl, rfl⟩

theorem daemonWrite_start (h : (daemonWrite op spec d).signal = some .start) :
    op.intent = .start := by
  unfold DatadogAgent.signal at h
  rw [(daemonWrite_get op spec d).1] at h
  dsimp only at h
  split at h
  · cases h
  · unfold Fleet.PendingOperation.signal at h
    cases hi : op.intent with
    | start => rfl
    | stop => rw [hi] at h; revert h; decide
    | promote => rw [hi] at h; revert h; decide

end

/-! ## Every experiment has its start patch -/

section
variable (r : Reconciler Spec) (w : World Spec)

@[simp] theorem World.step_edit_server (spec : Spec) (annotations : Annotations) :
    (w.step r (.edit spec annotations)).server =
      { w.server with dda := userWrite spec annotations w.server.dda } := rfl

@[simp] theorem World.step_daemon_server (op : Fleet.PendingOperation) (spec : Spec) :
    (w.step r (.daemon op spec)).server =
      { w.server with dda := daemonWrite op spec w.server.dda } := by
  simp only [World.step]
  split <;> rfl

@[simp] theorem World.step_daemon_running (op : Fleet.PendingOperation) (spec : Spec) :
    (w.step r (.daemon op spec)).running =
      w.running.map (Start.touch w.server.dda (daemonWrite op spec w.server.dda) false) := by
  simp only [World.step]
  split <;> rfl

@[simp] theorem World.step_reconcile_server (env : Env Spec) :
    (w.step r (.reconcile env)).server = w.reconcile r env := rfl

end

/-- Whose spec no later write has changed, the object still has. -/
def Start.Spared (d : DatadogAgent Spec) (st : Start Spec) : Prop :=
  st.edited = false → d.spec = st.spec

theorem Start.Spared.touch {st : Start Spec}
    (h : st.Spared before) (after : DatadogAgent Spec) (operator : Bool) :
    (st.touch before after operator).Spared after := by
  intro hedited
  obtain ⟨hst, hsame⟩ : st.edited = false ∧ after.spec = before.spec := by
    simpa [Start.touch] using hedited
  exact hsame.trans (h hst)

/-- The history matches the server: a start signal on the object is the last
start patch, and a running experiment is the one of its start patch. -/
structure Tracked (r : Reconciler Spec) (w : World Spec) : Prop where
  ok : RevisionsOk r w.server.revisions
  signalled : w.server.dda.signal = some .start →
    w.started.map (·.id) = some w.server.dda.annotationID
  running : w.server.dda.status.phase = some .running →
    w.running.map (·.id) = some w.server.dda.status.id
  startedSpared : ∀ st ∈ w.started, st.Spared w.server.dda
  runningSpared : ∀ st ∈ w.running, st.Spared w.server.dda

section
variable {r : Reconciler Spec} {w : World Spec}

omit [DecidableEq Spec] in
theorem Tracked.init (hs : dda.signal = none)
    (hp : dda.status.phase ≠ some .running) (now : Time) : Tracked r (.init dda now) where
  ok := .nil
  signalled h := by rw [World.init, hs] at h; cases h
  running h := absurd h hp
  startedSpared _ h := by cases h
  runningSpared _ h := by cases h

@[simp] theorem touch_id (b a : DatadogAgent Spec) (operator : Bool) (st : Start Spec) :
    (st.touch b a operator).id = st.id := rfl

@[simp] theorem map_touch_id (o : Option (Start Spec)) (b a : DatadogAgent Spec) (operator : Bool) :
    (o.map (Start.touch b a operator)).map (·.id) = o.map (·.id) := by
  cases o <;> rfl

theorem Start.Spared.map_touch {o : Option (Start Spec)}
    (h : ∀ st ∈ o, st.Spared before) (after : DatadogAgent Spec) (operator : Bool) :
    ∀ st ∈ o.map (Start.touch before after operator), st.Spared after := by
  intro st hst
  obtain ⟨old, hold, rfl⟩ := Option.map_eq_some_iff.mp hst
  exact (h old hold).touch after operator

theorem Verdict.experiment_running {v : Verdict} {now : Time}
    {restored : Bool} (h : (v.experiment now inst restored).bind (·.phase) = some .running) :
    v = .start ∨ v.experiment now inst restored = inst.status.experiment := by
  cases v with
  | keep => exact .inr rfl
  | start => exact .inl rfl
  | promote | abort => cases he : inst.status.experiment <;> simp [Verdict.experiment, he] at h
  | restore reason =>
    cases restored with
    | false => exact .inr rfl
    | true => cases he : inst.status.experiment <;> simp [Verdict.experiment, he] at h
  | recover => cases restored <;> simp [Verdict.experiment] at h

theorem Verdict.of_running {v : Verdict} {now : Time}
    (h : (v.experiment now inst true).bind (·.phase) = some .running) :
    v = .start ∨ v = .keep ∧ inst.status.phase = some .running := by
  cases v with
  | start => exact .inl rfl
  | keep => exact .inr ⟨rfl, h⟩
  | promote | abort | restore | recover =>
    obtain ⟨e, he, hphase⟩ := Option.bind_eq_some_iff.mp h
    cases hold : inst.status.experiment <;> simp [Verdict.experiment, hold] at he <;>
      simp [← he] at hphase

theorem World.verdict_start_iff (w : World Spec) : w.verdict r = .start ↔ w.Starts :=
  verdict_eq_start

theorem World.reconcile_experiment (hok : RevisionsOk r w.server.revisions) (env : Env Spec) :
    (w.reconcile r env).dda.status.experiment = w.server.dda.status.experiment ∨
      (w.reconcile r env).dda.status.experiment = w.computed r env :=
  DatadogOperator.reconcile_experiment w.now hok env.alone_alone

theorem World.reconcile_running (hok : RevisionsOk r w.server.revisions) (env : Env Spec)
    (h : (w.reconcile r env).dda.status.phase = some .running) :
    (w.reconcile r env).dda.status.experiment = w.server.dda.status.experiment ∨
      w.verdict r = .start ∧ (w.reconcile r env).dda.status.experiment =
        some (startedStatus w.now w.server.dda) := by
  rcases w.reconcile_experiment hok env with hexp | hexp
  · exact .inl hexp
  · rw [DatadogAgentStatus.phase, hexp] at h
    rcases Verdict.experiment_running h with hv | hsame
    · refine .inr ⟨hv, ?_⟩
      rw [hexp, World.computed, hv]
      rfl
    · exact .inl (hexp.trans hsame)

theorem World.Moves.verdict (h : w.Moves r env .running new)
    (hok : RevisionsOk r w.server.revisions) :
    new = .running ∨ (w.verdict r = .promote ∧ new = .promoted) ∨
      (w.verdict r = .abort ∧ new = .aborted) ∨
      ∃ reason, w.verdict r = .restore reason ∧ new = .terminated := by
  obtain ⟨hold, hnew⟩ := h
  rcases w.reconcile_experiment hok env with hexp | hexp
  · rw [DatadogAgentStatus.phase, hexp] at hnew
    exact .inl (Option.some.inj (hnew.symm.trans hold))
  · obtain ⟨e, he, hrun⟩ := DatadogAgentStatus.exists_of_phase hold
    rw [DatadogAgentStatus.phase, hexp, World.computed] at hnew
    cases hv : w.verdict r with
    | keep =>
      rw [hv] at hnew
      exact .inl (Option.some.inj (hnew.symm.trans hold))
    | start => exact absurd hold (verdict_eq_start.mp hv).1
    | recover => simp [(verdict_eq_recover.mp hv).1] at hold
    | promote => simp_all [Verdict.experiment]
    | abort => simp_all [Verdict.experiment]
    | restore reason =>
      rw [hv, Verdict.experiment] at hnew
      split at hnew
      · rw [he, Option.map_some, Option.bind_some, Option.some.injEq] at hnew
        exact .inr (.inr (.inr ⟨reason, rfl, hnew.symm⟩))
      · exact .inl (Option.some.inj (hnew.symm.trans hold))

theorem Tracked.reconcile_running (ht : Tracked r w) (env : Env Spec)
    (h : (w.reconcile r env).dda.status.phase = some .running) :
    (w.step r (.reconcile env)).running.map (·.id) = some (w.reconcile r env).dda.status.id := by
  rcases w.reconcile_running ht.ok env h with hsame | ⟨hv, hnew⟩
  · have hph : (w.reconcile r env).dda.status.phase = w.server.dda.status.phase := by
      rw [DatadogAgentStatus.phase, hsame]
      rfl
    have hid : (w.reconcile r env).dda.status.id = w.server.dda.status.id := by
      rw [DatadogAgentStatus.id, hsame]
      rfl
    have hold : w.server.dda.status.phase = some .running := hph ▸ h
    simp only [World.step, World.write, hold, hid, ne_eq, not_true_eq_false, false_and,
      if_false, map_touch_id]
    exact ht.running hold
  · obtain ⟨hph, hs, -⟩ := verdict_eq_start.mp hv
    have hid : (w.reconcile r env).dda.status.id = w.server.dda.annotationID := by
      simp [DatadogAgentStatus.id, hnew, startedStatus]
    simp only [World.step, World.write, hph, h, hid, ne_eq, not_false_eq_true, and_self,
      if_true, map_touch_id]
    exact ht.signalled hs

theorem Tracked.step (ht : Tracked r w) (e : Event Spec) : Tracked r (w.step r e) := by
  cases e with
  | edit spec annotations =>
    obtain ⟨hs, hid⟩ := userWrite_signal spec annotations w.server.dda
    refine ⟨ht.ok, ?_, ?_, Start.Spared.map_touch ht.startedSpared _ _,
      Start.Spared.map_touch ht.runningSpared _ _⟩
    · simp only [World.step, World.write, hs, hid, map_touch_id]
      exact ht.signalled
    · simp only [World.step, World.write, userWrite_status, map_touch_id]
      exact ht.running
  | daemon op spec =>
    refine ⟨?_, ?_, ?_, ?_, ?_⟩
    · simpa using ht.ok
    · intro h
      rw [World.step_daemon_server] at h ⊢
      have hi := daemonWrite_start op spec w.server.dda h
      simp [World.step, hi, (daemonWrite_get op spec w.server.dda).2]
    · simpa using ht.running
    · rw [World.step_daemon_server]
      simp only [World.step]
      split
      · rintro _ ⟨⟩ -
        rfl
      · exact Start.Spared.map_touch ht.startedSpared _ _
    · rw [World.step_daemon_server, World.step_daemon_running]
      exact Start.Spared.map_touch ht.runningSpared _ _
  | tick elapsed => exact ⟨ht.ok, ht.signalled, ht.running, ht.startedSpared, ht.runningSpared⟩
  | reconcile env =>
    have halone := env.alone_alone
    have hkept := reconcile_fleetKept w.now ht.ok halone
    have hspared := Start.Spared.map_touch ht.startedSpared (w.reconcile r env).dda true
    refine ⟨reconcile_ok w.now ht.ok halone, ?_, ht.reconcile_running env, hspared, ?_⟩
    · intro h
      simp only [World.step, World.write, map_touch_id, World.reconcile] at h ⊢
      rcases hkept.signal with ⟨hs, hid⟩ | hs
      · rw [hid]
        exact ht.signalled (hs ▸ h)
      · rw [hs] at h
        cases h
    · simp only [World.step]
      split
      · exact hspared
      · exact Start.Spared.map_touch ht.runningSpared _ _

end

/-! ## Concrete runs -/

def numbered : Reconciler Nat :=
  { ddaName := "datadog", hash := fun data => String.ofList (List.replicate data.spec 'x') }

def numberedAgent (spec : Nat) : DatadogAgent Nat :=
  { resourceVersion := 1, spec, annotations := ∅, status := {} }

def operation (intent : Fleet.PendingIntent) (id : String) : Fleet.PendingOperation :=
  { intent, taskID := "task-" ++ id, packageName := "datadog-operator", experimentID := id }

end DatadogOperator
