import DatadogOperator.Outcome

/-!
# A reconcile without errors

No call on the DatadogAgent fails and nobody else writes: the reconcile then
does exactly what its verdict says and persists it. When the writes of
revisions succeed too, runs of such reconciles are runs of the small machine
`reconcile_clean` describes: the experiment status, the object, and at most
two snapshots.
-/

namespace DatadogOperator

variable {Spec : Type} [DecidableEq Spec]

/-- What the experiment code asks of the API server succeeds. -/
@[mk_iff]
structure Env.ExperimentCallsOk (env : Env Spec) : Prop where
  hold : env.hold = false
  listRevisions : env.listRevisions = none
  getRevision : env.getRevision = none
  getCurrent : env.getCurrent = none
  update : env.update = none

/-- The reconcile gets to its end, whatever happens to its writes of revisions. -/
@[mk_iff]
structure Env.AgentCallsOk (env : Env Spec) : Prop extends env.ExperimentCallsOk where
  crash : env.crash = false
  later : env.later = false
  updateStatus : env.updateStatus = none

def Env.clean : Env Spec := {}

section
omit [DecidableEq Spec]

theorem Env.clean_alone : (Env.clean : Env Spec).Alone := ⟨rfl, rfl, rfl, rfl⟩

theorem Env.clean_experimentCallsOk : (Env.clean : Env Spec).ExperimentCallsOk :=
  ⟨rfl, rfl, rfl, rfl, rfl⟩

theorem Env.clean_agentCallsOk : (Env.clean : Env Spec).AgentCallsOk :=
  ⟨Env.clean_experimentCallsOk, rfl, rfl, rfl⟩

theorem Env.clean_revisionCallsOk : (Env.clean : Env Spec).RevisionCallsOk :=
  ⟨rfl, rfl, rfl, fun _ => rfl⟩

end

def Verdict.restores : Verdict → Bool
  | .restore _ | .recover => true
  | _ => false

theorem Verdict.act_restores_dda {v : Verdict} (hv : v.restores) (env : Env Spec) (now : Time)
    (inst : DatadogAgent Spec) (p : Pass Spec) : (v.act env now inst p).2.server.dda =
      (rollback env (findRollbackTarget p.revList) p).2.server.dda := by
  rw [(act_writes env now inst p v).1]
  cases v
  case restore | recover => rfl
  all_goals cases hv

theorem skipRevisionBump_eq (status : DatadogAgentStatus) :
    skipRevisionBump status = decide (status.phase = some .terminated) := by
  unfold skipRevisionBump DatadogAgentStatus.phase
  cases status.experiment with
  | none => simp
  | some e => rfl

section
variable {r : Reconciler Spec} (now : Time) {s : Server Spec} {h : List (RevisionSnapshot Spec)}

theorem settled_ledger (env : Env Spec) (hl : Ledger r s.revisions h) :
    Ledger r (settled r env now s).revList h := by
  obtain ⟨f, hf, hlist, -⟩ := settled_remarked r env now s
  rw [hlist]
  exact hl.map_marks hf.name hf.revision hf.data

theorem settled_noCollision (env : Env Spec) :
    NoCollision r (settled r env now s).revList s.dda.snapshot ↔
      NoCollision r s.revisions s.dda.snapshot := by
  obtain ⟨f, hf, hlist, -⟩ := settled_remarked r env now s
  rw [hlist]
  simp [NoCollision, hf.name, hf.data]

section
variable {env : Env Spec} (henv : env.ExperimentCallsOk)
include henv

theorem settled_eq : settled r env now s =
      ((verdict r now s.revisions s.dda).act env now s.dda (.begin s.dda s)).2 := by
  simp [settled, henv.hold, henv.listRevisions]

variable (halone : env.Alone) (hl : Ledger r s.revisions h)
include halone hl

theorem rollbackSucceeds_of_callsOk : rollbackSucceeds env (findRollbackTarget s.revisions) s := by
  match h, hl with
  | [], hl => simp [rollbackSucceeds, hl.target_none]
  | [a], hl => simp [rollbackSucceeds, hl.target_none]
  | a :: t :: rest, hl =>
    obtain ⟨-, rev, hf, -⟩ := hl.target
    simp [rollbackSucceeds, hf, henv.getRevision, henv.getCurrent, henv.update, halone.update]

theorem act_ok (v : Verdict) : (v.act env now s.dda (.begin s.dda s)).1 = .ok () := by
  have hsucc := rollbackSucceeds_of_callsOk henv halone hl
  cases v with
  | keep | start | promote | abort => rfl
  | restore reason =>
    exact (restorePreviousSpec_fst _ _ reason).trans
      ((rollback_ok_iff _ (.begin s.dda s) _).mpr hsucc)
  | recover =>
    exact (restorePreviousSpec_fst _ _ .stopped).trans ((rollback_ok_iff _ _ _).mpr hsucc)

theorem settled_experiment : (settled r env now s).newStatus.experiment =
      (verdict r now s.revisions s.dda).experiment now s.dda true := by
  rw [settled_eq now henv, act_experiment _ _ _ _ _ rfl]
  exact congrArg (fun b => (verdict r now s.revisions s.dda).experiment now s.dda b)
    (rollbackSucceeds_of_callsOk henv halone hl)

theorem reconcile_restores (hh : h = a :: t :: rest)
    (hv : (verdict r now s.revisions s.dda).restores) :
    let out := (reconcileInstance r env now s.dda s).2.server.dda
    out.spec = t.spec ∧ out.annotations = t.annotations ∪ s.dda.annotations := by
  subst hh
  obtain ⟨ht, cr, hf, rfl⟩ := hl.target
  have hdda : (settled r env now s).server.dda = s.dda.commit (restored cr.data s.dda) := by
    rw [settled_eq now henv, Verdict.act_restores_dda hv]
    exact (rollback_done halone ht hf (rollbackSucceeds_of_callsOk henv halone hl)).1
  have hleft := reconcile_leaves now hl.ok halone
  refine ⟨?_, ?_⟩
  · rw [hleft.spec, hdda, DatadogAgent.commit_spec]
    rfl
  · rw [hleft.annotations, hdda, DatadogAgent.commit_annotations]
    rfl

theorem reconcile_unrestored
    (hh : h.length < 2 ∨ (verdict r now s.revisions s.dda).restores = false) :
    (reconcileInstance r env now s.dda s).2.server.dda.snapshot = s.dda.snapshot := by
  by_cases hv : (verdict r now s.revisions s.dda).restores
  · have hlen : h.length < 2 := hh.resolve_right (by simp [hv])
    have hdda : (settled r env now s).server.dda = s.dda := by
      rw [settled_eq now henv, Verdict.act_restores_dda hv, Pass.begin, hl.target_none hlen, rollback,
        if_pos rfl]
    have hleft := reconcile_leaves now hl.ok halone
    simp only [DatadogAgent.snapshot, hleft.spec, hleft.annotations, hdda]
  · refine reconcile_snapshot now hl.ok halone ?_ ?_
    · intro reason heq
      exact hv (by rw [heq]; rfl)
    · intro heq
      exact hv (by rw [heq]; rfl)

end

theorem reconcile_ends (henv : env.AgentCallsOk) : ∃ err p, (settled r env now s).Aside p ∧
      reconcileInstance r env now s.dda s = updateStatusIfNeeded env s.dda p.newStatus err p ∧
      match ((verdict r now s.revisions s.dda).act env now s.dda (.begin s.dda s)).1 with
      | .ok () => p = (manageRevision r env s.dda.snapshot (settled r env now s)).2 ∧
          ∀ e, err ≠ some (.update e)
      | .error e => err = some e := by
  have hma := manageRevision_aside r env s.dda.snapshot (settled r env now s)
  have herr := manageRevision_error r env s.dda.snapshot (settled r env now s)
  rw [reconcileInstance_eq]
  simp only [henv.hold, henv.listRevisions, henv.crash, henv.later, Bool.false_eq_true, if_false]
  cases ((verdict r now s.revisions s.dda).act env now s.dda (.begin s.dda s)).1 with
  | error e => exact ⟨some e, settled r env now s, .refl _, rfl, rfl⟩
  | ok =>
    rcases hm : manageRevision r env s.dda.snapshot (settled r env now s) with ⟨e | _, p⟩ <;>
      rw [hm] at hma herr
    · refine ⟨some e, p, hma, rfl, rfl, fun e' heq => herr e' ?_⟩
      rw [Option.some.inj heq]
    · exact ⟨none, p, hma, rfl, rfl, fun _ h => by cases h⟩

theorem reconcile_persists (henv : env.AgentCallsOk) (halone : env.Alone)
    (hl : Ledger r s.revisions h) :
    let out := (reconcileInstance r env now s.dda s).2.server
    out.dda.status.experiment = (verdict r now s.revisions s.dda).experiment now s.dda true ∧
      out.revisions =
        (manageRevision r env s.dda.snapshot (settled r env now s)).2.server.revisions := by
  have hexp := settled_experiment now henv.toExperimentCallsOk halone hl
  have hst := (settled_dda now hl.ok halone).1
  obtain ⟨err, p, hma, hrec, hend⟩ := reconcile_ends (r := r) (s := s) now henv
  rw [act_ok now henv.toExperimentCallsOk halone hl] at hend
  obtain ⟨-, -, h3, h4⟩ := updateStatusIfNeeded_server env halone s.dda p.newStatus err p
  dsimp only
  rw [hrec, h4, ← hexp, ← hma.newStatus, hend.1]
  rw [hend.1] at hma h3
  refine ⟨?_, rfl⟩
  by_cases hv : verdict r now s.revisions s.dda = .keep
  · -- A cleared signal outdates the resource version, but then nothing changed.
    rcases h3 with h3 | h3
    · rw [h3, hma.dda, hst, hma.newStatus, hexp, hv]
      rfl
    · exact h3
  · refine updateStatusIfNeeded_persists s.dda halone henv.updateStatus _ _ ?_ ?_
    · rw [hma.resourceVersion, hma.dda, settled_eq now henv.toExperimentCallsOk]
      exact act_resourceVersion now s.dda halone hv rfl
    · rw [hma.dda, hst]

theorem reconcile_clean (hl : Ledger r s.revisions h) (hlen : h.length ≤ 2)
    (hcol : NoCollision r s.revisions s.dda.snapshot) :
    let out := (reconcileInstance r .clean now s.dda s).2.server
    let experiment := (verdict r now s.revisions s.dda).experiment now s.dda true
    out.dda.status.experiment = experiment ∧ Ledger r out.revisions
        (record (decide (experiment.bind (·.phase) = some .terminated)) s.dda.snapshot h) := by
  obtain ⟨hexp, hrev⟩ := reconcile_persists now Env.clean_agentCallsOk Env.clean_alone hl
  obtain ⟨-, hledger, -⟩ := manageRevision_ledger Env.clean_revisionCallsOk
    (settled_synced r .clean now s) (settled_ledger now .clean hl) hlen
    ((settled_noCollision now .clean).mpr hcol) (datadogAnnotations_idem _)
  rw [skipRevisionBump_eq, DatadogAgentStatus.phase,
    settled_experiment now Env.clean_experimentCallsOk Env.clean_alone hl] at hledger
  dsimp only
  rw [hrev]
  exact ⟨hexp, hledger⟩

theorem reconcile_clean_collision (hl : Ledger r s.revisions h)
    (hcol : ¬NoCollision r s.revisions s.dda.snapshot) :
    Ledger r (reconcileInstance r .clean now s.dda s).2.server.revisions h := by
  obtain ⟨-, hrev⟩ := reconcile_persists now Env.clean_agentCallsOk Env.clean_alone hl
  rw [hrev, manageRevision_collision .clean (settled_ok .clean now hl.ok)
    ((settled_noCollision now .clean).not.mpr hcol), ← settled_synced]
  exact settled_ledger now .clean hl

end

end DatadogOperator
