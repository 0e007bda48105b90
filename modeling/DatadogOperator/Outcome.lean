import DatadogOperator.Ledger

/-!
# What one reconcile leaves

The effect of each verdict on the new status, on the revisions and on the
DatadogAgent, and from it what the API server holds when the reconcile ends.
The first part is for every outcome of the API calls and every write of
others in between; the rest is for a reconcile no other writer interrupts.
-/

namespace DatadogOperator

variable {Spec : Type} [DecidableEq Spec]

def rollbackSucceeds (env : Env Spec) (target : String) (server : Server Spec) : Bool :=
  decide (target = "") || env.getRevision.isNone &&
    match server.revisions.find? fun rev => decide (rev.name = target) with
    | none => false
    | some cr =>
      let current := env.beforeReread server.dda
      env.getCurrent.isNone && (decide (current.snapshot = cr.data) || env.update.isNone &&
        decide (current.resourceVersion = (env.beforeUpdate current).resourceVersion))

/-- The experiment status a verdict computes; `restored` tells whether the
rollback it asked for succeeded. -/
def Verdict.experiment (now : Time) (inst : DatadogAgent Spec) (restored : Bool) :
    Verdict → Option ExperimentStatus
  | .keep => inst.status.experiment
  | .start => some (startedStatus now inst)
  | .promote => inst.status.experiment.map fun e => { e with phase := some .promoted }
  | .abort => inst.status.experiment.map fun e => { e with phase := some .aborted }
  | .restore reason =>
    if restored then inst.status.experiment.map fun e =>
      { e with phase := some .terminated, terminationReason := some reason }
    else inst.status.experiment
  | .recover =>
    if restored then some { phase := some .terminated, id := inst.annotationID,
                            terminationReason := some .stopped }
    else some { id := inst.annotationID }

section
variable (r : Reconciler Spec) (env : Env Spec) (now : Time) (inst : DatadogAgent Spec)
  (p : Pass Spec) (v : Verdict)

theorem rollback_ok_iff (target : String) :
    (rollback env target p).1 = .ok () ↔ rollbackSucceeds env target p.server := by
  unfold rollback rollbackSucceeds
  by_cases ht : target = ""
  · simp [ht]
  · simp only [ht, if_false, decide_false, Bool.false_or]
    cases env.getRevision with
    | some e => simp
    | none =>
      cases p.server.revisions.find? fun rev => decide (rev.name = target) with
      | none => simp
      | some cr =>
        cases env.getCurrent with
        | some e => simp
        | none =>
          simp only [Pass.interfere, Pass.setDDA, Option.isNone_none, Bool.true_and]
          by_cases hs : (env.beforeReread p.server.dda).snapshot = cr.data
          · simp [hs]
          · cases env.update with
            | some e => simp [hs]
            | none =>
              by_cases hv : (env.beforeReread p.server.dda).resourceVersion =
                  (env.beforeUpdate (env.beforeReread p.server.dda)).resourceVersion <;>
                simp [hs, hv, DatadogAgent.update, restored]

theorem restorePreviousSpec_fst (reason : TerminationReason) :
    (restorePreviousSpec env reason p).1 = (rollback env (findRollbackTarget p.revList) p).1 := by
  rcases restorePreviousSpec_cases env p reason with
    ⟨_, hout, hr⟩ | ⟨q, -, hout, hr | ⟨rev, hr⟩⟩ <;> rw [hr, hout]

theorem restorePreviousSpec_experiment (reason : TerminationReason) :
    (restorePreviousSpec env reason p).2.newStatus.experiment =
      if rollbackSucceeds env (findRollbackTarget p.revList) p.server then
        p.newStatus.experiment.map fun e =>
          { e with phase := some .terminated, terminationReason := some reason }
      else p.newStatus.experiment := by
  have hiff := rollback_ok_iff env p (findRollbackTarget p.revList)
  rw [← restorePreviousSpec_fst env p reason] at hiff
  split
  · rename_i h
    exact restorePreviousSpec_ok env p (hiff.mpr h)
  · rename_i h
    match hr : (restorePreviousSpec env reason p).1 with
    | .ok () => exact absurd (hiff.mp hr) h
    | .error e => rw [restorePreviousSpec_error env p hr]

theorem act_experiment (hn : p.newStatus.experiment = inst.status.experiment) :
    (v.act env now inst p).2.newStatus.experiment =
      v.experiment now inst (rollbackSucceeds env (findRollbackTarget p.revList) p.server) := by
  cases v with
  | keep =>
    simp only [Verdict.act, Verdict.experiment]
    split <;> simp [hn]
  | start => simp [Verdict.act, Verdict.experiment]
  | promote => simp [Verdict.act, Verdict.experiment, Pass.setPhase, hn]
  | abort => simp [Verdict.act, Verdict.experiment, Pass.setPhase, hn]
  | restore reason => simp only [Verdict.act, Verdict.experiment, restorePreviousSpec_experiment, hn]
  | recover =>
    simp only [Verdict.act, Verdict.experiment, restorePreviousSpec_experiment, Option.map_some]

end

/-! ## Marks -/

/-- Changes nothing but marks, and those to `state` only. -/
structure Remark (state : ExperimentRevisionState)
    (f : ControllerRevision Spec → ControllerRevision Spec) : Prop where
  name : ∀ x, (f x).name = x.name
  revision : ∀ x, (f x).revision = x.revision
  data : ∀ x, (f x).data = x.data
  state : ∀ x, (f x).experimentState = x.experimentState ∨ (f x).experimentState = some state

/-- `q` has the revisions of `p`, listed and stored, up to marks. -/
def Pass.Remarked (state : ExperimentRevisionState) (p q : Pass Spec) : Prop :=
  ∃ f, Remark state f ∧ q.revList = p.revList.map f ∧
    q.server.revisions = p.server.revisions.map f

def Verdict.mark : Verdict → ExperimentRevisionState
  | .keep | .start | .promote => .promoted
  | .abort | .restore _ | .recover => .rolledBack

section
variable (env : Env Spec) (now : Time) (inst : DatadogAgent Spec) (p : Pass Spec)
  (state : ExperimentRevisionState)

section
omit [DecidableEq Spec]

theorem Pass.Remarked.of_eq {p q : Pass Spec} (hl : q.revList = p.revList)
    (hs : q.server.revisions = p.server.revisions) : p.Remarked state q :=
  ⟨id, ⟨fun _ => rfl, fun _ => rfl, fun _ => rfl, fun _ => .inl rfl⟩, by simp [hl], by simp [hs]⟩

theorem Pass.Remarked.of_eq_left {p p' q : Pass Spec} (hr : p'.Remarked state q)
    (hl : p'.revList = p.revList) (hs : p'.server.revisions = p.server.revisions) :
    p.Remarked state q := by
  obtain ⟨f, hf, hl', hs'⟩ := hr
  exact ⟨f, hf, by rw [hl', hl], by rw [hs', hs]⟩

theorem markRevisionState_remarked (rev : ControllerRevision Spec) :
    p.Remarked state (markRevisionState env rev state p) := by
  unfold markRevisionState
  split
  · exact .of_eq state rfl rfl
  · split
    · exact .of_eq state rfl rfl
    · refine ⟨_, ⟨?_, ?_, ?_, ?_⟩, rfl, rfl⟩
      all_goals
        intro x
        dsimp only
        split
      all_goals simp

theorem markHighest_remarked : p.Remarked state (markHighest env state p) := by
  unfold markHighest
  split
  · exact markRevisionState_remarked env p state _
  · exact .of_eq state rfl rfl

theorem markPromoted_remarked : p.Remarked .promoted (markPromoted env inst p) := by
  unfold markPromoted
  split
  · exact markHighest_remarked env p _
  · exact .of_eq _ rfl rfl

end

theorem rollback_revisions (target : String) :
    (rollback env target p).2.revList = p.revList ∧
      (rollback env target p).2.server.revisions = p.server.revisions := by
  unfold rollback
  dsimp only
  repeat' split
  all_goals exact ⟨rfl, rfl⟩

theorem restorePreviousSpec_remarked (reason : TerminationReason) :
    p.Remarked .rolledBack (restorePreviousSpec env reason p).2 := by
  obtain ⟨hl, hs⟩ := rollback_revisions env p (findRollbackTarget p.revList)
  rcases restorePreviousSpec_cases env p reason with
    ⟨_, -, hr⟩ | ⟨q, rfl, -, hr | ⟨rev, hr⟩⟩ <;> rw [hr]
  · exact .of_eq _ hl hs
  · exact .of_eq _ hl hs
  · exact (markRevisionState_remarked env _ _ _).of_eq_left _ hl hs

theorem restorePreviousSpec_rollback (reason : TerminationReason) :
    let out := (rollback env (findRollbackTarget p.revList) p).2
    (restorePreviousSpec env reason p).2.server.dda = out.server.dda ∧
      (restorePreviousSpec env reason p).2.resourceVersion = out.resourceVersion ∧
      (restorePreviousSpec env reason p).2.calls = out.calls := by
  rcases restorePreviousSpec_cases env p reason with
    ⟨_, -, hr⟩ | ⟨q, rfl, -, hr | ⟨rev, hr⟩⟩ <;> rw [hr]
  · exact ⟨rfl, rfl, rfl⟩
  · exact ⟨rfl, rfl, rfl⟩
  · have ha := (markRevisionState_aside env .rolledBack · rev)
    exact ⟨(ha _).dda, (ha _).resourceVersion, (ha _).calls⟩

theorem rollback_withStatus (target : String) (newStatus : DatadogAgentStatus) :
    rollback env target { p with newStatus } =
      ((rollback env target p).1, { (rollback env target p).2 with newStatus }) := by
  unfold rollback
  dsimp only [Pass.interfere, Pass.setDDA]
  repeat' split
  all_goals rfl

theorem act_writes (v : Verdict) :
    let out := (v.act env now inst p).2
    let q := match v with
      | .keep => if inst.signal.isSome then clearExperimentAnnotations env inst.annotationID p else p
      | .start | .promote | .abort => p
      | .restore _ | .recover => (rollback env (findRollbackTarget p.revList) p).2
    out.server.dda = q.server.dda ∧ out.resourceVersion = q.resourceVersion ∧
      out.calls = q.calls := by
  cases v with
  | keep =>
    have ha := markPromoted_aside env p inst
    simp only [Verdict.act]
    split
    · simp [clearExperimentAnnotations, Pass.interfere, Pass.setDDA, ha.dda, ha.resourceVersion, ha.calls]
    · exact ⟨ha.dda, ha.resourceVersion, ha.calls⟩
  | start =>
    have ha := (markPromoted_aside env · inst) { p with newStatus := { p.newStatus with
      experiment := some (startedStatus now inst) } }
    exact ⟨ha.dda, ha.resourceVersion, ha.calls⟩
  | promote => exact ⟨rfl, rfl, rfl⟩
  | abort =>
    have ha := markHighest_aside env .rolledBack (p.setPhase .aborted)
    exact ⟨ha.dda, ha.resourceVersion, ha.calls⟩
  | restore reason => exact restorePreviousSpec_rollback env p reason
  | recover =>
    have h := restorePreviousSpec_rollback env { p with newStatus := { p.newStatus with
      experiment := some { id := inst.annotationID } } } .stopped
    rwa [rollback_withStatus] at h
theorem act_remarked (v : Verdict) : p.Remarked v.mark (v.act env now inst p).2 := by
  cases v with
  | keep =>
    simp only [Verdict.act]
    obtain ⟨f, hf, hl, hs⟩ := markPromoted_remarked env inst p
    split
    · exact ⟨f, hf, hl, hs⟩
    · exact ⟨f, hf, hl, hs⟩
  | start => exact (markPromoted_remarked env inst _).of_eq_left _ rfl rfl
  | promote => exact .of_eq _ rfl rfl
  | abort => exact (markHighest_remarked env _ _).of_eq_left _ rfl rfl
  | restore reason => exact restorePreviousSpec_remarked env p reason
  | recover => exact (restorePreviousSpec_remarked env _ _).of_eq_left _ rfl rfl

end

/-! ## The DatadogAgent, without other writers -/

structure Env.Alone (env : Env Spec) : Prop where
  reread : env.beforeReread = id
  update : env.beforeUpdate = id
  clear : env.beforeClear = id
  status : env.beforeStatus = id

def Env.alone (env : Env Spec) : Env Spec :=
  { env with beforeReread := id, beforeUpdate := id, beforeClear := id, beforeStatus := id }

omit [DecidableEq Spec] in
theorem Env.alone_alone (env : Env Spec) : env.alone.Alone := ⟨rfl, rfl, rfl, rfl⟩

theorem restored_snapshot_eq (h : d.snapshot = data) : restored data d = d := by
  subst h
  unfold restored DatadogAgent.snapshot buildRevisionSnapshot datadogAnnotations
  simp

theorem DatadogAgent.commit_self (d : DatadogAgent Spec) : d.commit d = d := by
  simp [DatadogAgent.commit]

section
variable {env : Env Spec} {p : Pass Spec} (halone : env.Alone)
include halone

/-- Without other writers: it fails and changes nothing, has no target, or writes the
snapshot of its target. -/
theorem rollback_alone (target : String) :
    let out := rollback env target p
    (out.1 ≠ .ok () ∧ out.2 = p) ∨ (target = "" ∧ out.2 = p) ∨
      ∃ cr, (p.server.revisions.find? fun rev => decide (rev.name = target)) = some cr ∧
        out.2.server.dda = p.server.dda.commit (restored cr.data p.server.dda) ∧
        out.2.resourceVersion = out.2.server.dda.resourceVersion := by
  unfold rollback
  simp only [Pass.interfere, Pass.setDDA, halone.reread, halone.update, id]
  by_cases ht : target = ""
  · exact .inr (.inl (by simp [ht]))
  · simp only [ht, if_false]
    cases env.getRevision with
    | some e => exact .inl ⟨by simp, rfl⟩
    | none =>
      cases hf : p.server.revisions.find? fun rev => decide (rev.name = target) with
      | none => exact .inl ⟨by simp, rfl⟩
      | some cr =>
        cases env.getCurrent with
        | some e => exact .inl ⟨by simp, rfl⟩
        | none =>
          by_cases hs : p.server.dda.snapshot = cr.data
          · exact .inr (.inr ⟨cr, rfl, by
              simp [hs, restored_snapshot_eq hs, DatadogAgent.commit_self]⟩)
          · cases env.update with
            | some e => exact .inl (by simp [hs])
            | none => exact .inr (.inr ⟨cr, rfl, by simp [hs, DatadogAgent.update, restored]⟩)

theorem rollback_done (ht : target ≠ "")
    (hf : (p.server.revisions.find? fun rev => decide (rev.name = target)) = some cr)
    (hok : rollbackSucceeds env target p.server) :
    (rollback env target p).2.server.dda = p.server.dda.commit (restored cr.data p.server.dda) ∧
      (rollback env target p).2.resourceVersion =
        (rollback env target p).2.server.dda.resourceVersion := by
  rcases rollback_alone halone target with ⟨h, -⟩ | ⟨h, -⟩ | ⟨cr', hf', h⟩
  · exact absurd ((rollback_ok_iff env p target).mpr hok) h
  · exact absurd h ht
  · cases hf.symm.trans hf'
    exact h

end

/-! ## Annotations the operator and the daemon share -/

/-- Signal and pending annotations are as before. -/
def FleetSame (a a' : Annotations) : Prop :=
  ∀ key, isFleetKey key → a'.lookup key = a.lookup key

/-- They are as before, or only the signal and its ID are gone. -/
inductive FleetKept (a a' : Annotations) : Prop
  | same : FleetSame a a' → FleetKept a a'
  | cleared : (∀ key, isFleetKey key → key ≠ annotationExperimentID →
      key ≠ annotationExperimentSignal → a'.lookup key = a.lookup key) →
      a'.lookup annotationExperimentID = none → a'.lookup annotationExperimentSignal = none →
      FleetKept a a'

theorem jsonPatch_clearOps (a : Annotations) (expectedID : String) :
    a.jsonPatch (clearOps expectedID) =
      if a.lookup annotationExperimentID = some expectedID ∧
          (a.lookup annotationExperimentSignal).isSome then
        some ((a.erase annotationExperimentSignal).erase annotationExperimentID)
      else none := by
  simp only [Annotations.jsonPatch, clearOps, List.foldlM_cons, List.foldlM_nil,
    JsonPatchOp.apply]
  by_cases h1 : a.lookup annotationExperimentID = some expectedID
  · by_cases h2 : (a.lookup annotationExperimentSignal).isSome
    · have h3 : ((a.erase annotationExperimentSignal).lookup annotationExperimentID).isSome := by
        rw [Finmap.lookup_erase_ne (by decide), h1]
        rfl
      simp [h1, h2, h3]
    · simp [h1, h2]
  · simp [h1]

theorem fleetKept_clear :
    FleetKept a ((a.erase annotationExperimentSignal).erase annotationExperimentID) := by
  refine .cleared ?_ (by simp) ?_
  · intro key _ hid hsig
    rw [Finmap.lookup_erase_ne hid, Finmap.lookup_erase_ne hsig]
  · rw [Finmap.lookup_erase_ne (by decide)]
    simp

omit [DecidableEq Spec] in
theorem fleetSame_restored (d : DatadogAgent Spec)
    (hd : datadogAnnotations data.annotations = data.annotations) :
    FleetSame d.annotations (restored data d).annotations := by
  intro key hkey
  have hnone : data.annotations.lookup key = none := by
    rw [← hd, datadogAnnotations, Finmap.lookup_filterKeys,
      isDatadogKey_of_isFleetKey hkey]
    rfl
  rw [restored, Finmap.lookup_union, hnone, Option.none_or]

theorem datadogAnnotations_clear (a : Annotations) :
    datadogAnnotations ((a.erase annotationExperimentSignal).erase annotationExperimentID) =
      datadogAnnotations a := by
  unfold datadogAnnotations
  rw [Finmap.filterKeys_erase_of_not isDatadogKey_experimentID,
    Finmap.filterKeys_erase_of_not isDatadogKey_experimentSignal]

theorem isFleetKey_experimentID : isFleetKey annotationExperimentID := by decide

theorem isFleetKey_experimentSignal : isFleetKey annotationExperimentSignal := by
  decide

omit [DecidableEq Spec] in
theorem FleetSame.signal {d d' : DatadogAgent Spec} (h : FleetSame d.annotations d'.annotations) :
    d'.signal = d.signal ∧ d'.annotationID = d.annotationID :=
  DatadogAgent.signal_congr (h _ isFleetKey_experimentID) (h _ isFleetKey_experimentSignal)

namespace FleetKept

omit [DecidableEq Spec] in
theorem signal {d d' : DatadogAgent Spec} (h : FleetKept d.annotations d'.annotations) :
    (d'.signal = d.signal ∧ d'.annotationID = d.annotationID) ∨ d'.signal = none := by
  cases h with
  | same h => exact .inl h.signal
  | cleared _ _ hsig => exact .inr (by simp [DatadogAgent.signal, Annotations.get, hsig])

theorem pending (h : FleetKept a a') (hkey : isFleetKey key)
    (hid : key ≠ annotationExperimentID) (hsig : key ≠ annotationExperimentSignal) :
    a'.lookup key = a.lookup key := by
  cases h with
  | same h => exact h key hkey
  | cleared h => exact h key hkey hid hsig

end FleetKept

/-! ## One reconcile -/

/-- The pass after `manageExperiment`, or the first one when the reconcile
does not get that far. -/
def settled (r : Reconciler Spec) (env : Env Spec) (now : Time) (s : Server Spec) : Pass Spec :=
  if env.hold ∨ env.listRevisions.isSome then .begin s.dda s
  else ((verdict r now s.revisions s.dda).act env now s.dda (.begin s.dda s)).2

section
variable {env : Env Spec} (now : Time) (inst : DatadogAgent Spec) {p : Pass Spec}
  (halone : env.Alone)
include halone

theorem clearExperimentAnnotations_dda (expectedID : String) :
    let out := (clearExperimentAnnotations env expectedID p).server.dda
    out.spec = p.server.dda.spec ∧ out.snapshot = p.server.dda.snapshot ∧
      out.status = p.server.dda.status ∧
      FleetKept p.server.dda.annotations out.annotations := by
  unfold clearExperimentAnnotations
  simp only [Pass.interfere, Pass.setDDA, halone.clear, id, jsonPatch_clearOps]
  have hsame : FleetKept p.server.dda.annotations p.server.dda.annotations := .same fun _ _ => rfl
  cases env.clear with
  | some e => exact ⟨rfl, rfl, rfl, hsame⟩
  | none =>
    split
    · rename_i a h
      split at h
      · cases h
        refine ⟨by simp, ?_, by simp, by simpa using fleetKept_clear⟩
        simp [DatadogAgent.snapshot, buildRevisionSnapshot, datadogAnnotations_clear]
      · cases h
    · exact ⟨rfl, rfl, rfl, hsame⟩

theorem rollback_dda (hok : ∀ rev ∈ p.server.revisions,
      datadogAnnotations rev.data.annotations = rev.data.annotations) (target : String) :
    (rollback env target p).2.server.dda.status = p.server.dda.status ∧
      FleetSame p.server.dda.annotations (rollback env target p).2.server.dda.annotations := by
  rcases rollback_alone halone target with ⟨-, h⟩ | ⟨-, h⟩ | ⟨cr, hf, h, -⟩ <;> rw [h]
  · exact ⟨rfl, fun _ _ => rfl⟩
  · exact ⟨rfl, fun _ _ => rfl⟩
  · exact ⟨by simp [restored],
      by simpa using fleetSame_restored _ (hok cr (List.mem_of_find?_eq_some hf))⟩

theorem act_dda (v : Verdict) (hok : ∀ rev ∈ p.server.revisions,
    datadogAnnotations rev.data.annotations = rev.data.annotations) :
    let out := (v.act env now inst p).2.server.dda
    out.status = p.server.dda.status ∧ FleetKept p.server.dda.annotations out.annotations ∧
      (v ≠ .keep → FleetSame p.server.dda.annotations out.annotations) ∧
      ((∀ reason, v ≠ .restore reason) → v ≠ .recover →
        out.spec = p.server.dda.spec ∧ out.snapshot = p.server.dda.snapshot) := by
  have hself : FleetSame p.server.dda.annotations p.server.dda.annotations := fun _ _ => rfl
  have hback := rollback_dda halone hok (findRollbackTarget p.revList)
  dsimp only
  rw [(act_writes env now inst p v).1]
  cases v with
  | keep =>
    dsimp only
    split
    · obtain ⟨h1, h2, h3, h4⟩ := clearExperimentAnnotations_dda (p := p) halone inst.annotationID
      exact ⟨h3, h4, fun h => absurd rfl h, fun _ _ => ⟨h1, h2⟩⟩
    · exact ⟨rfl, .same hself, fun _ => hself, fun _ _ => ⟨rfl, rfl⟩⟩
  | start | promote | abort => exact ⟨rfl, .same hself, fun _ => hself, fun _ _ => ⟨rfl, rfl⟩⟩
  | restore reason => exact ⟨hback.1, .same hback.2, fun _ => hback.2, fun h => absurd rfl (h reason)⟩
  | recover => exact ⟨hback.1, .same hback.2, fun _ => hback.2, fun _ h => absurd rfl h⟩

end

/-- What the server holds when a reconcile without other writers ends. The
computed experiment is persisted or not; the revisions are managed or not. -/
structure Leaves (r : Reconciler Spec) (env : Env Spec) (now : Time) (s out : Server Spec) :
    Prop where
  spec : out.dda.spec = (settled r env now s).server.dda.spec
  annotations : out.dda.annotations = (settled r env now s).server.dda.annotations
  experiment : out.dda.status.experiment = s.dda.status.experiment ∨
    out.dda.status.experiment = (settled r env now s).newStatus.experiment
  revisions : out.revisions = (settled r env now s).server.revisions ∨
    out.revisions = (manageRevision r env s.dda.snapshot (settled r env now s)).2.server.revisions

section
variable (r : Reconciler Spec) (env : Env Spec) (now : Time) (s : Server Spec)

theorem updateStatusIfNeeded_server (halone : env.Alone) (inst : DatadogAgent Spec)
    (newStatus : DatadogAgentStatus) (err : Option Error) (p : Pass Spec) :
    let out := (updateStatusIfNeeded env inst newStatus err p).2.server
    out.dda.spec = p.server.dda.spec ∧ out.dda.annotations = p.server.dda.annotations ∧
      (out.dda.status.experiment = p.server.dda.status.experiment ∨
        out.dda.status.experiment = newStatus.experiment) ∧
      out.revisions = p.server.revisions := by
  unfold updateStatusIfNeeded
  simp only [Pass.interfere, halone.status, id]
  split
  · exact ⟨rfl, rfl, .inl rfl, rfl⟩
  · split
    · exact ⟨rfl, rfl, .inl rfl, rfl⟩
    · exact ⟨rfl, rfl, .inl rfl, rfl⟩
    · unfold DatadogAgent.updateStatus
      split
      · rename_i h
        exact ⟨rfl, rfl, .inl rfl, rfl⟩
      · rename_i dda h
        split at h
        · cases h
          exact ⟨by simp [Pass.setDDA], by simp [Pass.setDDA],
            .inr (by simp [Pass.setDDA, withReconcileError]), rfl⟩
        · cases h

theorem reconcileInstance_eq :
    reconcileInstance r env now s.dda s =
      if env.hold then (.held, settled r env now s)
      else match env.listRevisions with
      | some e => updateStatusIfNeeded env s.dda s.dda.status (some (.listRevisions e))
          (settled r env now s)
      | none =>
        if env.crash then (.crashed, settled r env now s)
        else match ((verdict r now s.revisions s.dda).act env now s.dda (.begin s.dda s)).1 with
        | .error e => updateStatusIfNeeded env s.dda (settled r env now s).newStatus (some e)
            (settled r env now s)
        | .ok () =>
          match manageRevision r env s.dda.snapshot (settled r env now s) with
          | (.error e, p) => updateStatusIfNeeded env s.dda p.newStatus (some e) p
          | (.ok (), p) =>
            if env.later then updateStatusIfNeeded env s.dda s.dda.status (some .later) p
            else updateStatusIfNeeded env s.dda p.newStatus none p := by
  have hm : manageExperiment r env now s.dda (.begin s.dda s) =
      (verdict r now s.revisions s.dda).act env now s.dda (.begin s.dda s) :=
    manageExperiment_eq rfl
  unfold reconcileInstance settled
  by_cases hh : env.hold
  · simp [hh]
  · cases hl : env.listRevisions with
    | some e => simp [hh]
    | none =>
      simp only [hh, hm]
      rfl

/-- What neither the status write nor the management of revisions changes. -/
theorem reconcileInstance_keeps {α : Type} (f : Pass Spec → α) (inst : DatadogAgent Spec)
    (hstatus : ∀ newStatus err p, f (updateStatusIfNeeded env inst newStatus err p).2 = f p)
    (hrevision : ∀ p, f (manageRevision r env inst.snapshot p).2 = f p) :
    f (reconcileInstance r env now inst s).2 =
      if env.hold ∨ env.listRevisions.isSome then f (.begin inst s)
      else f ((verdict r now s.revisions inst).act env now inst (.begin inst s)).2 := by
  unfold reconcileInstance
  by_cases hh : env.hold
  · simp [hh]
  · cases hl : env.listRevisions with
    | some e => simp [hh, hstatus]
    | none =>
      have hact : manageExperiment r env now inst (.begin inst s) =
          (verdict r now s.revisions inst).act env now inst (.begin inst s) :=
        manageExperiment_eq rfl
      simp only [hh, Bool.false_eq_true, if_false, hact, Option.isSome_none, or_self]
      split
      · rfl
      · split
        · exact hstatus _ _ _
        · have hkept := hrevision ((verdict r now s.revisions inst).act env now inst
            (.begin inst s)).2
          split
          · next hm => rw [hstatus, ← hkept, hm]
          · next hm => split <;> rw [hstatus, ← hkept, hm]

omit [DecidableEq Spec] in
theorem RevisionsOk.remark {r : Reconciler Spec}
    {f : ControllerRevision Spec → ControllerRevision Spec} (h : RevisionsOk r l)
    (hf : Remark state f) : RevisionsOk r (l.map f) := by
  obtain ⟨h', hl⟩ := Ledger.of_ok h
  exact (hl.map_marks hf.name hf.revision hf.data).ok

theorem settled_remarked :
    ∃ f, Remark (verdict r now s.revisions s.dda).mark f ∧
      (settled r env now s).revList = s.revisions.map f ∧
      (settled r env now s).server.revisions = s.revisions.map f := by
  unfold settled
  split
  · exact Pass.Remarked.of_eq (p := .begin s.dda s) _ rfl rfl
  · exact act_remarked env now s.dda (.begin s.dda s) _

theorem settled_synced : (settled r env now s).revList = (settled r env now s).server.revisions := by
  obtain ⟨f, -, hl, hs⟩ := settled_remarked r env now s
  rw [hl, hs]

variable {r s} (hok : RevisionsOk r s.revisions)
include hok

theorem settled_ok : RevisionsOk r (settled r env now s).revList := by
  obtain ⟨f, hf, hl, -⟩ := settled_remarked r env now s
  rw [hl]
  exact hok.remark hf

variable {env} (halone : env.Alone)
include halone

theorem settled_dda :
    let out := (settled r env now s).server.dda
    out.status = s.dda.status ∧ FleetKept s.dda.annotations out.annotations ∧
      (verdict r now s.revisions s.dda ≠ .keep → FleetSame s.dda.annotations out.annotations) ∧
      ((∀ reason, verdict r now s.revisions s.dda ≠ .restore reason) →
        verdict r now s.revisions s.dda ≠ .recover →
        out.spec = s.dda.spec ∧ out.snapshot = s.dda.snapshot) := by
  unfold settled
  split
  · exact ⟨rfl, .same fun _ _ => rfl, fun _ _ _ => rfl, fun _ _ => ⟨rfl, rfl⟩⟩
  · exact act_dda now s.dda (p := .begin s.dda s) halone _ hok.datadog

theorem Leaves.of_statusWrite (newStatus : DatadogAgentStatus) (err : Option Error) (p : Pass Spec)
    (hdda : p.server.dda = (settled r env now s).server.dda)
    (hnew : newStatus.experiment = s.dda.status.experiment ∨
      newStatus.experiment = (settled r env now s).newStatus.experiment)
    (hrev : p.server.revisions = (settled r env now s).server.revisions ∨
      p.server.revisions =
        (manageRevision r env s.dda.snapshot (settled r env now s)).2.server.revisions) :
    Leaves r env now s (updateStatusIfNeeded env s.dda newStatus err p).2.server := by
  obtain ⟨h1, h2, h3, h4⟩ := updateStatusIfNeeded_server env halone s.dda newStatus err p
  rw [hdda] at h1 h2 h3
  rw [(settled_dda now hok halone).1] at h3
  refine ⟨h1, h2, ?_, h4 ▸ hrev⟩
  rcases h3 with h3 | h3
  · exact .inl h3
  · rwa [h3]

theorem reconcile_leaves :
    Leaves r env now s (reconcileInstance r env now s.dda s).2.server := by
  have hstop : Leaves r env now s (settled r env now s).server :=
    ⟨rfl, rfl, .inl (by rw [(settled_dda now hok halone).1]), .inl rfl⟩
  have hma := manageRevision_aside r env s.dda.snapshot (settled r env now s)
  rw [reconcileInstance_eq]
  split
  · exact hstop
  · split
    · exact .of_statusWrite now hok halone _ _ _ rfl (.inl rfl) (.inl rfl)
    · split
      · exact hstop
      · split
        · exact .of_statusWrite now hok halone _ _ _ rfl (.inr rfl) (.inl rfl)
        · rcases hm : manageRevision r env s.dda.snapshot (settled r env now s) with ⟨result, p⟩
          rw [hm] at hma
          have hn : p.newStatus.experiment = (settled r env now s).newStatus.experiment := by
            rw [hma.newStatus]
          have hrev : p.server.revisions = (manageRevision r env s.dda.snapshot
              (settled r env now s)).2.server.revisions := by rw [hm]
          cases result with
          | error e => exact .of_statusWrite now hok halone _ _ p hma.dda (.inr hn) (.inr hrev)
          | ok u =>
            dsimp only
            split
            · exact .of_statusWrite now hok halone _ _ p hma.dda (.inl rfl) (.inr hrev)
            · exact .of_statusWrite now hok halone _ _ p hma.dda (.inr hn) (.inr hrev)

theorem reconcile_ok : RevisionsOk r (reconcileInstance r env now s.dda s).2.server.revisions := by
  have hq := settled_ok env now hok
  rcases (reconcile_leaves now hok halone).revisions with h | h
  · rw [h, ← settled_synced]
    exact hq
  · rw [h]
    exact manageRevision_ok s.dda.snapshot env (settled_synced r env now s) hq
      (datadogAnnotations_idem _)

theorem reconcile_fleetKept :
    FleetKept s.dda.annotations (reconcileInstance r env now s.dda s).2.server.dda.annotations := by
  rw [(reconcile_leaves now hok halone).annotations]
  exact (settled_dda now hok halone).2.1

theorem reconcile_fleetSame (hv : verdict r now s.revisions s.dda ≠ .keep) :
    FleetSame s.dda.annotations (reconcileInstance r env now s.dda s).2.server.dda.annotations := by
  rw [(reconcile_leaves now hok halone).annotations]
  exact (settled_dda now hok halone).2.2.1 hv

theorem reconcile_snapshot (hv : ∀ reason, verdict r now s.revisions s.dda ≠ .restore reason)
    (hv' : verdict r now s.revisions s.dda ≠ .recover) :
    (reconcileInstance r env now s.dda s).2.server.dda.snapshot = s.dda.snapshot := by
  have h := reconcile_leaves now hok halone
  rw [← ((settled_dda now hok halone).2.2.2 hv hv').2]
  simp only [DatadogAgent.snapshot, h.spec, h.annotations]

theorem reconcile_experiment :
    let out := (reconcileInstance r env now s.dda s).2.server.dda.status.experiment
    out = s.dda.status.experiment ∨ out = (verdict r now s.revisions s.dda).experiment now s.dda
      (rollbackSucceeds env (findRollbackTarget s.revisions) s) := by
  dsimp only
  rcases (reconcile_leaves now hok halone).experiment with h | h
  · exact .inl h
  · rw [h]
    unfold settled
    split
    · exact .inl rfl
    · exact .inr (act_experiment env now s.dda (.begin s.dda s) _ rfl)

end

/-! ## When the status write succeeds -/

section
variable {env : Env Spec} (now : Time) (inst : DatadogAgent Spec) {p : Pass Spec}

theorem act_resourceVersion (halone : env.Alone) {v : Verdict} (hv : v ≠ .keep)
    (hp : p.resourceVersion = p.server.dda.resourceVersion) :
    (v.act env now inst p).2.resourceVersion =
      (v.act env now inst p).2.server.dda.resourceVersion := by
  obtain ⟨hdda, hversion, -⟩ := act_writes env now inst p v
  rw [hdda, hversion]
  cases v
  case keep => exact absurd rfl hv
  case start | promote | abort => exact hp
  all_goals
    rcases rollback_alone halone (p := p) (findRollbackTarget p.revList) with
      ⟨-, h⟩ | ⟨-, h⟩ | ⟨cr, -, -, h⟩
    · rwa [h]
    · rwa [h]
    · exact h

theorem updateStatusIfNeeded_persists (halone : env.Alone) (henv : env.updateStatus = none)
    (newStatus : DatadogAgentStatus) (err : Option Error)
    (hp : p.resourceVersion = p.server.dda.resourceVersion)
    (hst : p.server.dda.status = inst.status) :
    (updateStatusIfNeeded env inst newStatus err p).2.server.dda.status.experiment =
      newStatus.experiment := by
  unfold updateStatusIfNeeded
  simp only [Pass.interfere, halone.status, id, henv]
  split
  · rename_i h
    rw [hst, ← h]
    rfl
  · simp [Pass.setDDA, DatadogAgent.updateStatus, hp, withReconcileError]

end

end DatadogOperator
