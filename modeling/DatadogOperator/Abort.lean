import DatadogOperator.History

/-!
# Aborted experiments

An experiment is aborted when at least two revisions are stored and none has
the object's snapshot. The revision of a new experiment is written after its
phase is computed, and the phase is persisted although that write failed: the
next reconcile may then take the experiment's own spec for a manual change.
-/

namespace DatadogOperator

variable {Spec : Type} [DecidableEq Spec]

def Event.RevisionFaultsOnly : Event Spec → Prop
  | .reconcile env => env.AgentCallsOk
  | _ => True

/-- An abort follows a write of someone else after the start patch. -/
def AbortsForeign (r : Reconciler Spec) (w : World Spec) : Event Spec → Prop
  | .reconcile env => w.Moves r env .running .aborted →
    ∃ st, w.running = some st ∧ st.id = w.server.dda.status.id ∧ st.foreign
  | _ => True

/-- The start patch of the experiment that runs, or that a reconcile starts. -/
def World.current (w : World Spec) : Option (Start Spec) :=
  if w.server.dda.status.phase = some .running then w.running
  else if w.Starts then w.started
  else none

/-- While an experiment nobody wrote over runs or starts: the create of its
revision succeeds, or at most one revision has another snapshot, or the
revision is there and not to be recreated. -/
def KeepsRevision (r : Reconciler Spec) (w : World Spec) : Event Spec → Prop
  | .reconcile env => ∀ st ∈ w.current, st.foreign = false →
    (env.create = none ∧ NoCollision r w.server.revisions w.server.dda.snapshot) ∨
    (w.server.revisions.filter fun rev => decide (rev.data ≠ w.server.dda.snapshot)).length < 2 ∨
    ∃ rev ∈ w.server.revisions, rev.data = w.server.dda.snapshot ∧
      rev.experimentState ≠ some .rolledBack
  | _ => True

section
variable {r : Reconciler Spec} {w : World Spec}

instance (env : Env Spec) : Decidable env.ExperimentCallsOk :=
  decidable_of_iff _ env.experimentCallsOk_iff.symm

instance (env : Env Spec) : Decidable env.AgentCallsOk :=
  decidable_of_iff _ env.agentCallsOk_iff.symm

instance (e : Event Spec) : Decidable e.RevisionFaultsOnly := by
  cases e <;> dsimp only [Event.RevisionFaultsOnly] <;> infer_instance

instance (e : Event Spec) : Decidable (AbortsForeign r w e) := by
  cases e <;> dsimp only [AbortsForeign] <;> infer_instance

instance (e : Event Spec) : Decidable (KeepsRevision r w e) := by
  cases e <;> dsimp only [KeepsRevision] <;> infer_instance

omit [DecidableEq Spec] in
theorem Env.AgentCallsOk.alone {env : Env Spec} (h : env.AgentCallsOk) : env.alone.AgentCallsOk :=
  ⟨⟨h.hold, h.listRevisions, h.getRevision, h.getCurrent, h.update⟩, h.crash, h.later,
    h.updateStatus⟩

theorem manuallyChanged_congr {d d' : DatadogAgent Spec}
    (h : d'.snapshot = d.snapshot) : manuallyChanged l d' = manuallyChanged l d := by
  simp only [manuallyChanged, findMostRecentMatchingRevision, h]

theorem manuallyChanged_of_stored (hok : RevisionsOk r l) (h : ∃ rev ∈ l, rev.data = d.snapshot) :
    manuallyChanged l d = false := by
  obtain ⟨_, hl⟩ := Ledger.of_ok hok
  rw [← Bool.not_eq_true, hl.manuallyChanged_iff]
  exact fun hc => hc.2 (hl.mem_iff.mpr h)

theorem manageRevision_known
    (hsync : p.revList = p.server.revisions) (hok : RevisionsOk r p.revList)
    (hc : (env.create = none ∧ NoCollision r p.revList d.snapshot) ∨
      (p.revList.filter fun rev => decide (rev.data ≠ d.snapshot)).length < 2 ∨
      ∃ rev ∈ p.revList, rev.data = d.snapshot ∧ rev.experimentState ≠ some .rolledBack) :
    manuallyChanged (manageRevision r env d.snapshot p).2.server.revisions d = false := by
  have hd : datadogAnnotations d.snapshot.annotations = d.snapshot.annotations :=
    datadogAnnotations_idem _
  have hout := manageRevision_ok d.snapshot env hsync hok hd
  by_cases hstored : ∃ rev ∈ (manageRevision r env d.snapshot p).2.server.revisions,
      rev.data = d.snapshot
  · exact manuallyChanged_of_stored hout hstored
  · rcases hc with hc | hfew | hc
    · exact absurd (manageRevision_stored d.snapshot env hsync hok hd (.inl hc)) hstored
    · -- Every revision left is one of the few with another snapshot.
      have hsub : (manageRevision r env d.snapshot p).2.server.revisions ⊆
          p.revList.filter fun rev => decide (rev.data ≠ d.snapshot) := by
        intro rev hrev
        have hne : rev.data ≠ d.snapshot := fun hdata => hstored ⟨rev, hrev, hdata⟩
        exact List.mem_filter.mpr
          ⟨manageRevision_others d.snapshot env hsync hok hrev hne, by simpa using hne⟩
      have hlen := (List.subperm_of_subset (List.Nodup.of_map _ hout.names) hsub).length_le
      simp only [manuallyChanged, Bool.and_eq_false_iff, decide_eq_false_iff_not]
      omega
    · exact absurd (manageRevision_stored d.snapshot env hsync hok hd (.inr hc)) hstored

/-- A running experiment whose start patch nobody else has written over is not
taken for a manual change. -/
structure Recognised (r : Reconciler Spec) (w : World Spec) : Prop where
  tracked : Tracked r w
  known : w.server.dda.status.phase = some .running → ∀ st ∈ w.running, st.foreign = false →
    manuallyChanged w.server.revisions w.server.dda = false

theorem Recognised.write {d : DatadogAgent Spec} (h : Recognised r w)
    (hstatus : d.status = w.server.dda.status) :
    d.status.phase = some .running →
      ∀ st ∈ w.running.map (Start.touch w.server.dda d false), st.foreign = false →
        manuallyChanged w.server.revisions d = false := by
  intro hrun st hst hforeign
  obtain ⟨old, hold, rfl⟩ := Option.map_eq_some_iff.mp hst
  obtain ⟨hno, hsame⟩ : old.foreign = false ∧ d.snapshot = w.server.dda.snapshot := by
    simpa [Start.touch] using hforeign
  rw [manuallyChanged_congr hsame]
  exact h.known (hstatus ▸ hrun) old hold hno

theorem keepsRevision_settled (env : Env Spec) (hmark : (w.verdict r).mark = .promoted)
    (hc : (env.create = none ∧ NoCollision r w.server.revisions w.server.dda.snapshot) ∨
      (w.server.revisions.filter fun rev =>
        decide (rev.data ≠ w.server.dda.snapshot)).length < 2 ∨
      ∃ rev ∈ w.server.revisions, rev.data = w.server.dda.snapshot ∧
        rev.experimentState ≠ some .rolledBack) :
    (env.create = none ∧
        NoCollision r (settled r env w.now w.server).revList w.server.dda.snapshot) ∨
      ((settled r env w.now w.server).revList.filter fun rev =>
        decide (rev.data ≠ w.server.dda.snapshot)).length < 2 ∨
      ∃ rev ∈ (settled r env w.now w.server).revList, rev.data = w.server.dda.snapshot ∧
        rev.experimentState ≠ some .rolledBack := by
  rcases hc with ⟨hcreate, hcol⟩ | hfew | ⟨rev, hrev, hdata, hstate⟩
  · exact .inl ⟨hcreate, (settled_noCollision w.now env).mpr hcol⟩
  · obtain ⟨f, hf, hlist, -⟩ := settled_remarked r env w.now w.server
    refine .inr (.inl ?_)
    rw [hlist, List.filter_map, List.length_map]
    simpa [Function.comp_def, hf.data] using hfew
  · obtain ⟨f, hf, hlist, -⟩ := settled_remarked r env w.now w.server
    refine .inr (.inr ⟨f rev, ?_, (hf.data rev).trans hdata, ?_⟩)
    · rw [hlist]
      exact List.mem_map_of_mem hrev
    · rcases hf.state rev with h | h
      · rwa [h]
      · rw [h, show (verdict r w.now w.server.revisions w.server.dda).mark = .promoted from hmark]
        decide

theorem Recognised.reconcile (h : Recognised r w) (henv : env.AgentCallsOk)
    (hc : KeepsRevision r w (.reconcile env))
    (hrun : (w.reconcile r env).dda.status.phase = some .running) {st : Start Spec}
    (hst : (w.step r (.reconcile env)).running = some st) (hforeign : st.foreign = false) :
    manuallyChanged (w.reconcile r env).revisions (w.reconcile r env).dda = false := by
  have halone := env.alone_alone
  obtain ⟨_, hl⟩ := Ledger.of_ok h.tracked.ok
  obtain ⟨hexp, hrev⟩ := reconcile_persists w.now henv.alone halone hl
  have hout : ((w.verdict r).experiment w.now w.server.dda true).bind (·.phase) = some .running := by
    rw [← hrun]
    exact congrArg (·.bind (·.phase)) hexp.symm
  have hverdict := Verdict.of_running hout
  have hmark : (w.verdict r).mark = .promoted ∧ (w.verdict r).restores = false := by
    rcases hverdict with hv | ⟨hv, -⟩ <;> rw [hv] <;> exact ⟨rfl, rfl⟩
  have hsnap : (w.reconcile r env).dda.snapshot = w.server.dda.snapshot :=
    reconcile_unrestored w.now henv.alone.toExperimentCallsOk halone hl (.inr hmark.2)
  rw [manuallyChanged_congr hsnap]
  obtain ⟨st', hcurrent, hno⟩ : ∃ st', w.current = some st' ∧ st'.foreign = false := by
    obtain ⟨st', hcurrent, rfl⟩ : ∃ st', w.current = some st' ∧
        st'.touch w.server.dda (w.reconcile r env).dda true = st := by
      rw [← Option.map_eq_some_iff, ← hst, World.current]
      rcases hverdict with hv | ⟨-, hold⟩
      · have hold := (verdict_eq_start.mp hv).1
        simp [World.step, World.write, hold, hrun, w.verdict_start_iff.mp hv]
      · simp [World.step, World.write, hold]
    exact ⟨st', hcurrent, by simpa [Start.touch] using hforeign⟩
  have hcond := hc st' hcurrent hno
  rw [show (w.reconcile r env).revisions = _ from hrev]
  exact manageRevision_known (settled_synced r env.alone w.now w.server)
    (settled_ok env.alone w.now h.tracked.ok) (keepsRevision_settled env.alone hmark.1 hcond)

theorem Recognised.step (h : Recognised r w) (hd : e.RevisionFaultsOnly)
    (hc : KeepsRevision r w e) : Recognised r (w.step r e) := by
  refine ⟨h.tracked.step e, ?_⟩
  cases e with
  | edit spec annotations => exact h.write (userWrite_status spec annotations w.server.dda)
  | daemon op spec =>
    rw [World.step_daemon_server, World.step_daemon_running]
    exact h.write (daemonWrite_status op spec w.server.dda)
  | tick elapsed => exact h.known
  | reconcile env => exact fun hrun _ hst hno => h.reconcile hd hc hrun hst hno

theorem Recognised.abortsForeign (h : Recognised r w) (e : Event Spec) : AbortsForeign r w e := by
  cases e with
  | edit | daemon | tick => trivial
  | reconcile env =>
    intro hmoves
    obtain ⟨st, hst, hid⟩ := Option.map_eq_some_iff.mp (h.tracked.running hmoves.1)
    refine ⟨st, hst, hid, ?_⟩
    have hv : w.verdict r = .abort := by
      rcases hmoves.verdict h.tracked.ok with h | ⟨-, h⟩ | ⟨hv, -⟩ | ⟨_, -, h⟩
      · cases h
      · cases h
      · exact hv
      · cases h
    obtain ⟨hrun, hchanged⟩ := verdict_eq_abort.mp hv
    by_contra hno
    rw [h.known hrun st hst (Bool.eq_false_of_not_eq_true hno)] at hchanged
    cases hchanged

end

/-- Over every run in which only writes of revisions fail: an abort follows a
write of someone else, if every reconcile of a running or starting experiment
keeps its revision or leaves at most one other. -/
theorem aborted_after_foreign_write (r : Reconciler Spec) (dda : DatadogAgent Spec) (now : Time)
    (hs : dda.signal = none) (hp : dda.status.phase ≠ some .running) (es : List (Event Spec))
    (hd : ∀ e ∈ es, e.RevisionFaultsOnly)
    (h : Runs.Along (World.step r) (KeepsRevision r) (.init dda now) es) :
    Runs.Along (World.step r) (AbortsForeign r) (.init dda now) es :=
  Runs.Along.of_invariant (I := Recognised r) (fun _ _ hi hc => hi.step hc.1 hc.2)
    (fun _ e hi _ => hi.abortsForeign e)
    ⟨.init hs hp now, fun hrun => absurd hrun hp⟩ ((Runs.Along.of_events hd).and h)

/-- The create of the first experiment's revision fails, but only the baseline
is stored: the experiment goes on, until the user changes the spec. -/
theorem aborted_after_foreign_write_run :
    let es : List (Event Nat) := [.reconcile .clean, .daemon (operation .start "v1") 1,
      .reconcile { create := some .other }, .reconcile .clean, .edit 2 ∅,
      .reconcile { create := some .other }]
    Runs.Along (World.step numbered) (AbortsForeign numbered) (.init (numberedAgent 0) 0) es ∧
      (Runs.run (World.step numbered) (.init (numberedAgent 0) 0) (es.take 4)).server.dda.status.phase
        = some .running ∧
      (Runs.run (World.step numbered) (.init (numberedAgent 0) 0) es).server.dda.status.phase
        = some .aborted :=
  ⟨aborted_after_foreign_write numbered (numberedAgent 0) 0 (by decide) (by decide) _ (by decide)
    (by decide), by decide, by decide⟩

/-- Two revisions are stored when an experiment with a third spec starts and
the create of its revision fails. Phase Running is persisted all the same, and
the next reconcile aborts the experiment though nobody wrote. -/
theorem aborts_after_failed_create :
    ¬Runs.Along (World.step numbered) (AbortsForeign numbered) (.init (numberedAgent 0) 0)
      [.reconcile .clean, .edit 1 ∅, .reconcile .clean, .daemon (operation .start "v1") 2,
        .reconcile { create := some .other }, .reconcile .clean] := by
  decide

end DatadogOperator
