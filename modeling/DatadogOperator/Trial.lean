import DatadogOperator.Clearing
import DatadogOperator.Restore

/-!
# The experiment as a small machine

Numbered revisions, marks, resource versions and JSON patches implement a
machine over spec, annotations, experiment status and a ledger of two
snapshots. In every run without API errors the reconciler refines it.
-/

namespace DatadogOperator

open Runs

variable {Spec : Type} [DecidableEq Spec]

structure Trial (Spec : Type) where
  spec : Spec
  annotations : Annotations
  experiment : Option ExperimentStatus
  /-- The snapshots last in force, the newest first. -/
  ledger : List (RevisionSnapshot Spec)
  now : Time

namespace Trial

variable (r : Reconciler Spec) (t : Trial Spec)

def agent : DatadogAgent Spec where
  resourceVersion := 0
  spec := t.spec
  annotations := t.annotations
  status := { experiment := t.experiment }

def verdict : Verdict := ledgerVerdict r t.now t.ledger t.agent

/-- Spec and annotations afterwards. A restore leaves the annotations that
the previous snapshot does not have. -/
def outcome : Verdict → Spec × Annotations
  | .restore _ | .recover =>
    match t.ledger with
    | _ :: previous :: _ => (previous.spec, previous.annotations ∪ t.annotations)
    | _ => (t.spec, t.annotations)
  | .keep => (t.spec, if t.agent.signal.isSome then
      (t.annotations.erase annotationExperimentSignal).erase annotationExperimentID
    else t.annotations)
  | _ => (t.spec, t.annotations)

/-- Two snapshots with one hash: the second is not stored. -/
def collides : Prop :=
  ∃ x ∈ t.ledger, r.revisionName x = r.revisionName t.agent.snapshot ∧ x ≠ t.agent.snapshot

instance : Decidable (t.collides r) := inferInstanceAs (Decidable (∃ x ∈ t.ledger, _))

def recorded (skipBump : Bool) : List (RevisionSnapshot Spec) :=
  if t.collides r then t.ledger else record skipBump t.agent.snapshot t.ledger

def reconcile : Trial Spec :=
  let v := t.verdict r
  let experiment := v.experiment t.now t.agent true
  { spec := (t.outcome v).1
    annotations := (t.outcome v).2
    experiment
    ledger := t.recorded r (decide (experiment.bind (·.phase) = some .terminated))
    now := t.now }

def step (t : Trial Spec) : Event Spec → Trial Spec
  | .edit spec annotations => { t with
      spec
      annotations := t.annotations.filterKeys isFleetKey ∪
        annotations.filterKeys fun key => !isFleetKey key }
  | .daemon op spec => { t with
      spec := if op.intent = .start then spec else t.spec
      annotations := t.annotations.mergePatch ([(annotationExperimentSignal, some op.signal),
        (annotationExperimentID, some op.experimentID)] ++ op.annotations) }
  | .tick elapsed => { t with now := t.now + elapsed }
  | .reconcile _ => t.reconcile r

def init (dda : DatadogAgent Spec) (now : Time) : Trial Spec :=
  ⟨dda.spec, dda.annotations, dda.status.experiment, [], now⟩

end Trial

/-- The machine shows what the world holds. -/
structure Abstracts (r : Reconciler Spec) (w : World Spec) (t : Trial Spec) : Prop where
  spec : w.server.dda.spec = t.spec
  annotations : w.server.dda.annotations = t.annotations
  experiment : w.server.dda.status.experiment = t.experiment
  now : w.now = t.now
  ledger : Ledger r w.server.revisions t.ledger
  bounded : t.ledger.length ≤ 2

section
variable {r : Reconciler Spec} {w : World Spec} {t : Trial Spec}

/-- A keep takes away the signal that was read. -/
theorem settled_keep (now : Time) {s : Server Spec} (hv : verdict r now s.revisions s.dda = .keep) :
    (settled r .clean now s).server.dda.spec = s.dda.spec ∧
      (settled r .clean now s).server.dda.annotations = if s.dda.signal.isSome then
        (s.dda.annotations.erase annotationExperimentSignal).erase annotationExperimentID
      else s.dda.annotations := by
  rw [settled_eq now Env.clean_experimentCallsOk, hv,
    (act_writes .clean now s.dda (.begin s.dda s) .keep).1]
  dsimp only
  split
  · rename_i hs
    obtain ⟨hsig, hid⟩ := carries_read hs
    replace hid : s.dda.annotations.lookup annotationExperimentID = some s.dda.annotationID := hid
    simp [clearExperimentAnnotations, Pass.interfere, Pass.setDDA, Pass.begin, Env.clean,
      jsonPatch_clearOps, hsig, hid]
  · exact ⟨rfl, rfl⟩

namespace Abstracts

theorem verdict_eq (h : Abstracts r w t) : w.verdict r = t.verdict r := by
  obtain ⟨_, _, _, _, _⟩ := t
  obtain ⟨rfl, rfl, rfl, rfl, hl, -⟩ := h
  exact hl.verdict_eq w.now w.server.dda

theorem reconcile_outcome (h : Abstracts r w t) :
    (w.reconcile r .clean).dda.spec = (t.outcome (t.verdict r)).1 ∧
      (w.reconcile r .clean).dda.annotations = (t.outcome (t.verdict r)).2 := by
  have hleft : Leaves r .clean w.now w.server (w.reconcile r .clean) :=
    reconcile_leaves w.now h.ledger.ok Env.clean_alone
  rw [← h.verdict_eq]
  obtain ⟨_, _, _, ledger, _⟩ := t
  obtain ⟨rfl, rfl, rfl, rfl, hl, -⟩ := h
  have hsame (hdda : (settled r .clean w.now w.server).server.dda = w.server.dda) :
      (w.reconcile r .clean).dda.spec = w.server.dda.spec ∧
        (w.reconcile r .clean).dda.annotations = w.server.dda.annotations :=
    ⟨hleft.spec.trans (by rw [hdda]), hleft.annotations.trans (by rw [hdda])⟩
  cases hv : w.verdict r with
  | keep =>
    obtain ⟨hspec, hann⟩ := settled_keep w.now hv
    exact ⟨hleft.spec.trans hspec, hleft.annotations.trans hann⟩
  | start | promote | abort =>
    refine hsame ?_
    rw [settled_eq w.now Env.clean_experimentCallsOk,
      (act_writes .clean w.now w.server.dda (.begin w.server.dda w.server) _).1,
      show verdict r w.now w.server.revisions w.server.dda = _ from hv]
    rfl
  | restore | recover =>
    have hr : (verdict r w.now w.server.revisions w.server.dda).restores := by
      rw [show verdict r w.now w.server.revisions w.server.dda = _ from hv]
      rfl
    match ledger, hl with
    | [], hl | [_], hl =>
      -- A restore with fewer than two revisions finds no target.
      refine hsame ?_
      rw [settled_eq w.now Env.clean_experimentCallsOk, Verdict.act_restores_dda hr, Pass.begin,
        hl.target_none (by simp), rollback, if_pos rfl]
    | a :: previous :: rest, hl =>
      exact reconcile_restores w.now Env.clean_experimentCallsOk Env.clean_alone hl rfl hr

omit [DecidableEq Spec] in
theorem snapshot_eq (h : Abstracts r w t) : t.agent.snapshot = w.server.dda.snapshot := by
  simp [DatadogAgent.snapshot, Trial.agent, h.spec, h.annotations]

omit [DecidableEq Spec] in
theorem collides_iff (h : Abstracts r w t) :
    t.collides r ↔ ¬NoCollision r w.server.revisions w.server.dda.snapshot := by
  simp [h.ledger.noCollision_iff, Trial.collides, h.snapshot_eq]

theorem reconcile (h : Abstracts r w t) :
    Abstracts r (w.step r (.reconcile .clean)) (t.reconcile r) := by
  obtain ⟨hspec, hann⟩ := h.reconcile_outcome
  obtain ⟨hexp, hledger⟩ := w.reconcile_recorded h.ledger h.bounded
  have hexp : (w.reconcile r .clean).dda.status.experiment =
      (t.verdict r).experiment t.now t.agent true := by
    rw [hexp, h.verdict_eq]
    obtain ⟨_, _, _, _, _⟩ := t
    obtain ⟨rfl, rfl, rfl, rfl, -, -⟩ := h
    rfl
  refine ⟨hspec, hann, hexp, h.now, ?_, ?_⟩
  · rw [DatadogAgentStatus.phase, hexp, ← ite_not] at hledger
    simpa only [World.step_reconcile_server, Trial.reconcile, Trial.recorded, h.snapshot_eq,
      ← h.collides_iff] using hledger
  · dsimp only [Trial.reconcile, Trial.recorded]
    split
    · exact h.bounded
    · exact length_record_le h.bounded _ _

theorem step (h : Abstracts r w t) (hclean : e.Clean) : Abstracts r (w.step r e) (t.step r e) := by
  obtain ⟨hspec, hann, hexp, hnow, hl, hlen⟩ := h
  cases e with
  | edit spec annotations =>
    refine ⟨by simp [userWrite, Trial.step], by simp [userWrite, Trial.step, hann], ?_, hnow, hl, hlen⟩
    rwa [World.step_edit_server, userWrite_status]
  | daemon op spec =>
    refine ⟨by simp [daemonWrite_spec, Trial.step, hspec],
      by simp [daemonWrite_annotations, Trial.step, hann], ?_, ?_, ?_, hlen⟩
    · rwa [World.step_daemon_server, daemonWrite_status]
    · simp only [World.step]
      split <;> exact hnow
    · rwa [World.step_daemon_server]
  | tick elapsed => exact ⟨hspec, hann, hexp, congrArg (· + (elapsed : Time)) hnow, hl, hlen⟩
  | reconcile env =>
    obtain rfl : env = .clean := hclean
    exact reconcile ⟨hspec, hann, hexp, hnow, hl, hlen⟩

omit [DecidableEq Spec] in
theorem init (dda : DatadogAgent Spec) (now : Time) :
    Abstracts r (.init dda now) (.init dda now) := ⟨rfl, rfl, rfl, rfl, .nil, Nat.zero_le 2⟩

theorem run (h : Abstracts r w t) (hclean : ∀ e ∈ es, e.Clean) :
    Abstracts r (Runs.run (World.step r) w es) (Runs.run (Trial.step r) t es) :=
  run_related (fun _ _ _ => step) h hclean

end Abstracts

end

def stopped : List (Event Nat) :=
  [.reconcile .clean, .daemon (operation .start "a") 7, .reconcile .clean, .tick 5,
    .daemon (operation .stop "a") 0, .reconcile .clean]

end DatadogOperator
