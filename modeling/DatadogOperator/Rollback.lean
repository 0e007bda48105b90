import DatadogOperator.Outcome

/-!
# What a rollback restores

`rollback` puts the annotations of the stored snapshot on top of those of the
object. A Datadog annotation the snapshot lacks is not taken away, so the
object's own snapshot is the stored one exactly when there is no such key.
-/

namespace DatadogOperator

variable {Spec : Type} [DecidableEq Spec]

/-- Every annotation of the object that a snapshot records is recorded in
this one. -/
def RevisionSnapshot.Covers (data : RevisionSnapshot Spec) (d : DatadogAgent Spec) : Prop :=
  ∀ key ∈ d.annotations, isDatadogKey key = true → key ∈ data.annotations

/-- From the pass `p`, the pass `q` a rollback to `target` left: the object
snapshots to the stored data, what no snapshot records is as it was, and a
second rollback finds nothing to update. -/
structure RollsBack (target : String) (data : RevisionSnapshot Spec) (p q : Pass Spec) :
    Prop where
  snapshot : q.server.dda.snapshot = data
  others : ∀ key, isDatadogKey key = false →
    q.server.dda.annotations.lookup key = p.server.dda.annotations.lookup key
  again : ∀ (env : Env Spec) (p' : Pass Spec), env.Alone → p'.server = q.server →
    (rollback env target p').2.server = p'.server ∧ (rollback env target p').2.calls = p'.calls

/-! ## The restored object -/

section
variable {data : RevisionSnapshot Spec} {d : DatadogAgent Spec}

section
omit [DecidableEq Spec]

theorem buildRevisionSnapshot_recorded (spec : Spec) (a : Annotations) :
    datadogAnnotations (buildRevisionSnapshot spec a).annotations =
      (buildRevisionSnapshot spec a).annotations :=
  datadogAnnotations_idem a

theorem restored_snapshot_iff (hdata : datadogAnnotations data.annotations = data.annotations) :
    (restored data d).snapshot = data ↔ data.Covers d := by
  have hsnap : (restored data d).snapshot =
      ⟨data.spec, data.annotations ∪ datadogAnnotations d.annotations⟩ := by
    rw [← datadogAnnotations_union hdata]
    rfl
  have hunion : (restored data d).snapshot = data ↔
      data.annotations ∪ datadogAnnotations d.annotations = data.annotations := by
    rw [hsnap]
    exact ⟨congrArg RevisionSnapshot.annotations, fun h => by rw [h]⟩
  rw [hunion, Finmap.union_eq_left_iff]
  constructor
  · intro h key hkey hdd
    exact h key (Finmap.mem_filterKeys.mpr ⟨hkey, hdd⟩)
  · intro h key hkey
    obtain ⟨hmem, hdd⟩ := Finmap.mem_filterKeys.mp hkey
    exact h key hmem hdd

theorem restored_lookup (hdata : datadogAnnotations data.annotations = data.annotations)
    (hkey : isDatadogKey key = false) :
    (restored data d).annotations.lookup key = d.annotations.lookup key := by
  have hmem : key ∉ data.annotations := by
    rw [← hdata, datadogAnnotations, Finmap.mem_filterKeys]
    simp [hkey]
  exact Finmap.lookup_union_right hmem

end

theorem DatadogAgent.commit_snapshot (old new : DatadogAgent Spec) :
    (old.commit new).snapshot = new.snapshot := by
  simp [DatadogAgent.snapshot]

end

/-! ## The rollback -/

section
variable {env : Env Spec} {p : Pass Spec} {cr : ControllerRevision Spec}

theorem rollback_skips (halone : env.Alone)
    (hf : (p.server.revisions.find? fun rev => decide (rev.name = target)) = some cr)
    (hs : p.server.dda.snapshot = cr.data) :
    (rollback env target p).2.server = p.server ∧ (rollback env target p).2.calls = p.calls := by
  unfold rollback
  simp only [Pass.interfere, Pass.setDDA, halone.reread, halone.update, id, hf]
  by_cases ht : target = ""
  · simp [ht]
  · cases env.getRevision with
    | some e => simp [ht]
    | none =>
      cases env.getCurrent with
      | some e => simp [ht]
      | none => simp [ht, hs]

/-- A successful rollback to a snapshot restores it if and only if the
snapshot has every Datadog annotation key of the current object. -/
theorem rollback_restores_iff (env : Env Spec) (p : Pass Spec) (target : String)
    (cr : ControllerRevision Spec) (halone : env.Alone) (ht : target ≠ "")
    (hf : (p.server.revisions.find? fun rev => decide (rev.name = target)) = some cr)
    (hdata : ∃ spec annotations, cr.data = buildRevisionSnapshot spec annotations)
    (hok : (rollback env target p).1 = .ok ()) :
    RollsBack target cr.data p (rollback env target p).2 ↔ cr.data.Covers p.server.dda := by
  have hrec : datadogAnnotations cr.data.annotations = cr.data.annotations := by
    obtain ⟨spec, a, hdata⟩ := hdata
    rw [hdata]
    exact buildRevisionSnapshot_recorded spec a
  have hdda : (rollback env target p).2.server.dda =
      p.server.dda.commit (restored cr.data p.server.dda) :=
    (rollback_done halone ht hf ((rollback_ok_iff env p target).mp hok)).1
  have hsnap : (rollback env target p).2.server.dda.snapshot = cr.data ↔
      cr.data.Covers p.server.dda := by
    rw [hdda, DatadogAgent.commit_snapshot, restored_snapshot_iff hrec]
  refine ⟨fun h => hsnap.mp h.snapshot, fun h => ⟨hsnap.mpr h, ?_, ?_⟩⟩
  · intro key hkey
    rw [hdda, DatadogAgent.commit_annotations]
    exact restored_lookup hrec hkey
  · intro env' p' halone' hp'
    have hstored : (p'.server.revisions.find? fun rev => decide (rev.name = target)) = some cr := by
      rw [hp', (rollback_revisions env p target).2, hf]
    exact rollback_skips halone' hstored (by rw [hp', hsnap.mpr h])

end

-- A DatadogAgent whose host profiler was enabled after the revision was taken.

def hostProfilerAgent : DatadogAgent Nat :=
  { resourceVersion := 7, spec := 1, status := {},
    annotations := (∅ : Annotations).insert "agent.datadoghq.com/host-profiler-enabled" "true" }

def hostProfilerPass (data : RevisionSnapshot Nat) : Pass Nat :=
  { server := { dda := hostProfilerAgent, revisions := [{ name := "dda-1", revision := 1, data }] },
    revList := [], newStatus := {}, resourceVersion := 7 }

def hostProfilerOff : RevisionSnapshot Nat :=
  buildRevisionSnapshot 0
    ((∅ : Annotations).insert "agent.datadoghq.com/host-profiler-enabled" "false")

theorem host_profiler_is_rolled_back : let p := hostProfilerPass hostProfilerOff
    RollsBack "dda-1" hostProfilerOff p (rollback {} "dda-1" p).2 :=
  (rollback_restores_iff {} (hostProfilerPass hostProfilerOff) "dda-1" _ ⟨rfl, rfl, rfl, rfl⟩
    (by decide) rfl ⟨0, _, rfl⟩ (by decide)).mpr fun _ hkey hdd =>
      Finmap.mem_filterKeys.mpr ⟨by simpa [hostProfilerPass, hostProfilerAgent] using hkey, hdd⟩

/-- The snapshot has no annotations: the host profiler stays enabled on the
restored object, and each further rollback updates it again. -/
theorem host_profiler_survives_rollback : let p := hostProfilerPass (buildRevisionSnapshot 0 ∅)
    let q := (rollback {} "dda-1" p).2
    (rollback {} "dda-1" p).1 = .ok () ∧ q.server.dda.snapshot ≠ buildRevisionSnapshot 0 ∅ ∧
      ¬RollsBack "dda-1" (buildRevisionSnapshot 0 ∅) p q ∧
      (rollback {} "dda-1" q).2.calls.length = q.calls.length + 1 :=
  ⟨by decide, by decide, fun h => absurd h.snapshot (by decide), by decide⟩

end DatadogOperator
