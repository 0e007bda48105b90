import DatadogOperator.History

/-!
# Sequences of revisions

`manageRevision` called again and again, with any spec, annotations and status,
on the revisions the call before has left. Between two calls the experiment
code may have set marks. What remains after each call is read off the ledger.
-/

namespace DatadogOperator

variable {Spec : Type} [DecidableEq Spec]

structure ManageCall (Spec : Type) where
  spec : Spec
  annotations : Annotations
  newStatus : DatadogAgentStatus
  marks : ControllerRevision Spec → Option ExperimentRevisionState := (·.experimentState)

namespace ManageCall

def snapshot (c : ManageCall Spec) : RevisionSnapshot Spec :=
  buildRevisionSnapshot c.spec c.annotations

def listed (c : ManageCall Spec) (l : List (ControllerRevision Spec)) :
    List (ControllerRevision Spec) :=
  l.map fun rev => { rev with experimentState := c.marks rev }

def result (r : Reconciler Spec) (l : List (ControllerRevision Spec)) (c : ManageCall Spec) :
    Except Error Unit × Pass Spec :=
  let dda : DatadogAgent Spec :=
    { resourceVersion := 0, spec := c.spec, annotations := c.annotations, status := c.newStatus }
  manageRevision r .clean c.snapshot
    { server := { dda, revisions := c.listed l }, revList := c.listed l, newStatus := c.newStatus
      resourceVersion := 0 }

def step (r : Reconciler Spec) (l : List (ControllerRevision Spec)) (c : ManageCall Spec) :
    List (ControllerRevision Spec) :=
  (c.result r l).2.server.revisions

end ManageCall

/-- The store after a call: the current snapshot and at most one other. -/
structure Retains (c : ManageCall Spec) (before after : List (ControllerRevision Spec)) : Prop where
  length : after.length ≤ 2
  numbers : (after.map (·.revision)).Nodup
  positive : ∀ rev ∈ after, 0 < rev.revision
  data : (after.map (·.data)).Nodup
  current : ∃ rev ∈ after, rev.data = c.snapshot ∧ (c.newStatus.phase ≠ some .terminated →
    ∀ other ∈ after, other ≠ rev → other.revision < rev.revision)
  largest : ∀ rev ∈ before, ∃ rev' ∈ after, rev.revision ≤ rev'.revision

section
variable {r : Reconciler Spec} {l : List (ControllerRevision Spec)}
  {h : List (RevisionSnapshot Spec)} {data : RevisionSnapshot Spec}

omit [DecidableEq Spec] in
theorem Ledger.data_nodup (hl : Ledger r l h) : (l.map (·.data)).Nodup := by
  have hnodup := hl.nodup
  obtain ⟨s, hs, rfl⟩ := hl.ranking
  exact (hs.perm.map _).nodup_iff.mp hnodup

omit [DecidableEq Spec] in
theorem Ledger.first (hl : Ledger r l (data :: h)) :
    ∃ rev ∈ l, rev.data = data ∧ ∀ other ∈ l, other ≠ rev → other.revision < rev.revision := by
  obtain ⟨s, hs, hmap⟩ := hl.ranking
  match s, hs, hmap with
  | rev :: s, hs, hmap =>
    refine ⟨rev, hs.mem_iff.mp (.head _), (List.cons.inj hmap).1, ?_⟩
    intro other hmem hne
    rcases List.mem_cons.mp (hs.mem_iff.mpr hmem) with heq | hrest
    · exact absurd heq hne
    · exact hs.lt_head hrest

theorem ManageCall.retains (c : ManageCall Spec) (hl : Ledger r l h) (hlen : h.length ≤ 2)
    (hcol : NoCollision r l c.snapshot) :
    (c.result r l).1 = .ok () ∧ Retains c l (c.step r l) ∧
      ∃ h', Ledger r (c.step r l) h' ∧ h'.length ≤ 2 := by
  have hlisted : Ledger r (c.listed l) h := hl.map_marks (fun _ => rfl) (fun _ => rfl) fun _ => rfl
  have hcol' : NoCollision r (c.listed l) c.snapshot := by
    rw [hlisted.noCollision_iff]
    exact hl.noCollision_iff.mp hcol
  obtain ⟨hok, hl', hlargest⟩ := manageRevision_ledger
    (p := { server := { dda := _, revisions := c.listed l }, revList := c.listed l
            newStatus := c.newStatus, resourceVersion := 0 })
    Env.clean_revisionCallsOk rfl hlisted hlen hcol' (datadogAnnotations_idem _)
  have hlen' := length_record_le hlen (skipRevisionBump c.newStatus) c.snapshot
  refine ⟨hok, ⟨?_, hl'.ok.numbers, hl'.ok.positive, hl'.data_nodup, ?_, ?_⟩, _, hl', hlen'⟩
  · exact hl'.length_eq ▸ hlen'
  · by_cases hph : c.newStatus.phase = some .terminated
    · obtain ⟨rev, hrev, hdata⟩ := hl'.mem_iff.mp (mem_record _ _ _)
      exact ⟨rev, hrev, hdata, fun hne => absurd hph hne⟩
    · rw [skipRevisionBump_eq, decide_eq_false hph, record_false] at hl'
      obtain ⟨rev, hrev, hdata, hlt⟩ := hl'.first
      exact ⟨rev, hrev, hdata, fun _ => hlt⟩
  · intro rev hrev
    exact hlargest { rev with experimentState := c.marks rev } (List.mem_map.mpr ⟨rev, hrev, rfl⟩)

end

theorem manageRevision_retains (r : Reconciler Spec) (cs : List (ManageCall Spec))
    (hcol : Runs.Along (ManageCall.step r) (fun l c => NoCollision r l c.snapshot) [] cs) :
    Runs.Along (ManageCall.step r)
      (fun l c => (c.result r l).1 = .ok () ∧ Retains c l (c.step r l)) [] cs := by
  refine Runs.Along.of_invariant (I := fun l => ∃ h, Ledger r l h ∧ h.length ≤ 2) ?_ ?_ ?_ hcol
  · rintro l c ⟨h, hl, hlen⟩ hc
    exact (c.retains hl hlen hc).2.2
  · rintro l c ⟨h, hl, hlen⟩ hc
    exact ⟨(c.retains hl hlen hc).1, (c.retains hl hlen hc).2.1⟩
  · exact ⟨[], .nil, Nat.zero_le _⟩

theorem manageRevision_retains_run : let status (phase : ExperimentPhase) : DatadogAgentStatus :=
      { experiment := some { phase := some phase, id := "v1" } }
    let marks (rev : ControllerRevision Nat) : Option ExperimentRevisionState :=
      if rev.data.spec = 1 then some .rolledBack else none
    let cs : List (ManageCall Nat) :=
      [{ spec := 0, annotations := ∅, newStatus := {} },
        { spec := 1, annotations := ∅, newStatus := status .running },
        { spec := 0, annotations := ∅, newStatus := status .terminated, marks },
        { spec := 1, annotations := ∅, newStatus := status .aborted },
        { spec := 2, annotations := ∅, newStatus := {} }]
    Runs.Along (ManageCall.step numbered)
        (fun l c => (c.result numbered l).1 = .ok () ∧ Retains c l (c.step numbered l)) [] cs ∧
      (Runs.run (ManageCall.step numbered) [] cs).map (fun rev => (rev.data.spec, rev.revision)) =
        [(1, 3), (2, 4)] := by
  intro status marks cs
  exact ⟨manageRevision_retains numbered cs (by decide), by decide⟩

end DatadogOperator
