import DatadogOperator.History

/-!
# The experiment state machine

The changes of `status.experiment` that one reconcile can compute, for any
persisted status, annotations, revisions, time and API outcomes, and what
follows for whole runs. One computed change is none of the intended ones:
the recovery of an unset phase writes its ID into the new status before the
rollback that may still fail.
-/

namespace DatadogOperator

variable {Spec : Type} [DecidableEq Spec]

inductive Transition (now : Time) (inst : DatadogAgent Spec) : Option ExperimentStatus → Prop
  | unchanged : Transition now inst inst.status.experiment
  | started (e : ExperimentStatus) :
      (inst.status.phase = none ∨ isTerminalPhase inst.status.phase) → e.phase = some .running →
      e.id ≠ inst.status.id → e.id = inst.annotationID → e.startedAt = some now →
      Transition now inst (some e)
  | recovered (e : ExperimentStatus) : inst.status.phase = none → e.phase = some .terminated →
      e.terminationReason = some .stopped → Transition now inst (some e)
  | ended (old e : ExperimentStatus) : inst.status.experiment = some old →
      old.phase = some .running →
      (e.phase = some .promoted ∨ e.phase = some .aborted ∨
        e.phase = some .terminated ∧ e.terminationReason.isSome) →
      e.id = old.id → e.startedAt = old.startedAt → e.startTaskID = old.startTaskID →
      Transition now inst (some e)

/-- A rollback signal over an unset phase whose rollback fails. -/
def recoveryFails (env : Env Spec) (inst : DatadogAgent Spec) (server : Server Spec) : Bool :=
  !env.hold && env.listRevisions.isNone && decide (inst.status.phase = none) &&
    decide (inst.signal = some .rollback) && atHighest server.revisions inst &&
    !rollbackSucceeds env (findRollbackTarget server.revisions) server

section
variable (r : Reconciler Spec) (env : Env Spec) (now : Time) (inst : DatadogAgent Spec)
  (server : Server Spec)

theorem updateStatusIfNeeded_newStatus (newStatus : DatadogAgentStatus) (err : Option Error)
    (p : Pass Spec) : (updateStatusIfNeeded env inst newStatus err p).2.newStatus = p.newStatus := by
  unfold updateStatusIfNeeded
  dsimp only
  repeat' split
  all_goals rfl

theorem reconcileInstance_newStatus :
    (reconcileInstance r env now inst server).2.newStatus.experiment =
      if env.hold ∨ env.listRevisions.isSome then inst.status.experiment
      else (verdict r now server.revisions inst).experiment now inst
        (rollbackSucceeds env (findRollbackTarget server.revisions) server) := by
  have hact := act_experiment env now inst (.begin inst server)
    (verdict r now server.revisions inst) rfl
  refine Eq.trans (reconcileInstance_keeps r env now server (·.newStatus.experiment) inst
    (fun newStatus err p => ?_) fun p => ?_) (by rw [hact]; rfl)
  · rw [updateStatusIfNeeded_newStatus]
  · rw [(manageRevision_aside r env inst.snapshot p).newStatus]

theorem transition_of_verdict (restored : Bool)
    (hv : verdict r now server.revisions inst ≠ .recover ∨ restored = true ∨
      inst.status.experiment = some { id := inst.annotationID }) :
    Transition now inst ((verdict r now server.revisions inst).experiment now inst restored) := by
  cases hverdict : verdict r now server.revisions inst with
  | keep => exact .unchanged
  | start =>
    obtain ⟨hp, -, hid⟩ := verdict_eq_start.mp hverdict
    refine .started _ ?_ rfl hid rfl rfl
    cases hph : inst.status.phase with
    | none => exact .inl rfl
    | some phase =>
      cases phase with
      | running => exact absurd hph hp
      | terminated | promoted | aborted => exact .inr rfl
  | promote =>
    obtain ⟨hp, -, -⟩ := verdict_eq_promote.mp hverdict
    obtain ⟨old, he, hrun⟩ := DatadogAgentStatus.exists_of_phase hp
    simp only [Verdict.experiment, he, Option.map_some]
    exact .ended old _ he hrun (.inl rfl) rfl rfl rfl
  | abort =>
    obtain ⟨hp, -⟩ := verdict_eq_abort.mp hverdict
    obtain ⟨old, he, hrun⟩ := DatadogAgentStatus.exists_of_phase hp
    simp only [Verdict.experiment, he, Option.map_some]
    exact .ended old _ he hrun (.inr (.inl rfl)) rfl rfl rfl
  | restore reason =>
    obtain ⟨hp, -, -⟩ := verdict_eq_restore hverdict
    obtain ⟨old, he, hrun⟩ := DatadogAgentStatus.exists_of_phase hp
    cases restored with
    | false => exact .unchanged
    | true =>
      simp only [Verdict.experiment, he, Option.map_some, if_true]
      exact .ended old _ he hrun (.inr (.inr ⟨rfl, rfl⟩)) rfl rfl rfl
  | recover =>
    obtain ⟨hp, -, -⟩ := verdict_eq_recover.mp hverdict
    cases restored with
    | true => exact .recovered _ hp rfl rfl
    | false =>
      rcases hv with hv | hv | hv
      · exact absurd hverdict hv
      · cases hv
      · simp only [Verdict.experiment, Bool.false_eq_true, if_false]
        rw [← hv]
        exact .unchanged

omit [DecidableEq Spec] in
theorem not_transition_of_recover (hp : inst.status.phase = none)
    (hne : inst.status.experiment ≠ some { id := inst.annotationID }) :
    ¬Transition now inst (some { id := inst.annotationID }) := by
  intro h
  generalize hnew : (some { id := inst.annotationID } : Option ExperimentStatus) = new at h
  cases h with
  | unchanged => exact hne hnew.symm
  | started e _ hrun => cases hnew; cases hrun
  | recovered e _ hterm => cases hnew; cases hterm
  | ended old e he hrun =>
    rw [DatadogAgentStatus.phase, he, Option.bind_some, hrun] at hp
    cases hp

theorem recoveryFails_iff :
    recoveryFails env inst server = true ↔ env.hold = false ∧ env.listRevisions = none ∧
      verdict r now server.revisions inst = .recover ∧
      rollbackSucceeds env (findRollbackTarget server.revisions) server = false := by
  rw [verdict_eq_recover]
  simp [recoveryFails]
  tauto

theorem transition_iff :
    Transition now inst (reconcileInstance r env now inst server).2.newStatus.experiment ↔
      ¬(recoveryFails env inst server ∧
        inst.status.experiment ≠ some { id := inst.annotationID }) := by
  rw [reconcileInstance_newStatus]
  by_cases hskip : env.hold ∨ env.listRevisions.isSome
  · rw [if_pos hskip]
    refine iff_of_true .unchanged ?_
    rintro ⟨h, -⟩
    obtain ⟨hh, hl, -⟩ := (recoveryFails_iff r env now inst server).mp h
    simp [hh, hl] at hskip
  · rw [if_neg hskip]
    obtain ⟨hh, hl⟩ := not_or.mp hskip
    constructor
    · rintro htr ⟨h, hne⟩
      obtain ⟨-, -, hv, hsucc⟩ := (recoveryFails_iff r env now inst server).mp h
      rw [hv, hsucc] at htr
      exact not_transition_of_recover now inst (verdict_eq_recover.mp hv).1 hne htr
    · intro h
      refine transition_of_verdict r now inst server _ ?_
      by_contra hc
      obtain ⟨hv, hsucc, hne⟩ : verdict r now server.revisions inst = .recover ∧
          rollbackSucceeds env (findRollbackTarget server.revisions) server = false ∧
          inst.status.experiment ≠ some { id := inst.annotationID } := by
        simpa [not_or] using hc
      refine h ⟨(recoveryFails_iff r env now inst server).mpr ⟨?_, ?_, hv, hsucc⟩, hne⟩
      · simpa using hh
      · simpa using hl

end

/-! ## Runs -/

/-- A terminal phase is left, and phase Running entered, only for another ID;
a terminated experiment has a reason, except for one that `first` came with. -/
def LawfulChange (r : Reconciler Spec) (first : DatadogAgentStatus) (w : World Spec) :
    Event Spec → Prop
  | .reconcile env =>
    let old := w.server.dda.status
    let new := (w.reconcile r env).dda.status
    (isTerminalPhase old.phase → new.experiment ≠ old.experiment →
      w.server.dda.signal = some .start ∧ new.phase = some .running ∧
        new.id = w.server.dda.annotationID ∧ new.id ≠ old.id) ∧
    (old.phase ≠ some .running → new.phase = some .running → new.id ≠ old.id) ∧
    (new.phase = some .terminated →
      (new.experiment.bind (·.terminationReason)).isSome ∨ new.experiment = first.experiment)
  | _ => True

section
variable {r : Reconciler Spec} {first : DatadogAgentStatus} {w : World Spec}

/-- What `LawfulChange` needs to know of the state. -/
structure Reasoned (r : Reconciler Spec) (first : DatadogAgentStatus) (w : World Spec) : Prop where
  ok : RevisionsOk r w.server.revisions
  reason : w.server.dda.status.phase = some .terminated →
    (w.server.dda.status.experiment.bind (·.terminationReason)).isSome ∨
      w.server.dda.status.experiment = first.experiment

theorem Verdict.experiment_terminated {v : Verdict} {now : Time}
    {restored : Bool} (h : (v.experiment now inst restored).bind (·.phase) = some .terminated) :
    v.experiment now inst restored = inst.status.experiment ∨
      ((v.experiment now inst restored).bind (·.terminationReason)).isSome := by
  cases v with
  | keep => exact .inl rfl
  | start => cases h
  | promote | abort => cases he : inst.status.experiment <;> simp [Verdict.experiment, he] at h
  | restore reason =>
    cases restored with
    | false => exact .inl rfl
    | true =>
      cases he : inst.status.experiment with
      | none => exact .inl (by simp [Verdict.experiment, he])
      | some e => exact .inr (by simp [Verdict.experiment, he])
  | recover =>
    cases restored with
    | false => cases h
    | true => exact .inr rfl

theorem lawfulChange_reconcile (hr : Reasoned r first w) (env : Env Spec) :
    LawfulChange r first w (.reconcile env) := by
  have hsame (h : (w.reconcile r env).dda.status.experiment = w.server.dda.status.experiment) :
      LawfulChange r first w (.reconcile env) := by
    refine ⟨fun _ hne => absurd h hne, ?_, ?_⟩
    · intro hold hnew
      rw [DatadogAgentStatus.phase, h] at hnew
      exact absurd hnew hold
    · intro hterm
      rw [h]
      rw [DatadogAgentStatus.phase, h] at hterm
      exact hr.reason hterm
  rcases w.reconcile_experiment hr.ok env with hexp | hexp
  · exact hsame hexp
  · refine ⟨?_, ?_, ?_⟩
    · intro hterm hne
      rcases verdict_terminal hterm with hv | hv
      · obtain ⟨-, hs, hid⟩ := verdict_eq_start.mp hv
        have hnew : (w.reconcile r env).dda.status.experiment =
            some (startedStatus w.now w.server.dda) := by
          rw [hexp, World.computed, World.verdict, hv]
          rfl
        refine ⟨hs, ?_, ?_, ?_⟩
        · simp [DatadogAgentStatus.phase, hnew, startedStatus]
        · simp [DatadogAgentStatus.id, hnew, startedStatus]
        · simpa [DatadogAgentStatus.id, hnew, startedStatus] using hid
      · refine absurd (hexp.trans ?_) hne
        rw [World.computed, World.verdict, hv]
        rfl
    · intro hold hnew
      rcases w.reconcile_running hr.ok env hnew with heq | ⟨hv, heq⟩
      · exact (hsame heq).2.1 hold hnew
      · simpa [DatadogAgentStatus.id, heq, startedStatus] using (verdict_eq_start.mp hv).2.2
    · intro hterm
      have hc := hterm
      rw [DatadogAgentStatus.phase, hexp] at hc
      rcases Verdict.experiment_terminated hc with heq | hreason
      · exact (hsame (hexp.trans heq)).2.2 hterm
      · rw [hexp]
        exact .inl hreason

theorem Reasoned.step (hr : Reasoned r first w) (e : Event Spec) :
    Reasoned r first (w.step r e) := by
  cases e with
  | edit spec annotations =>
    refine ⟨hr.ok, ?_⟩
    simpa [World.step, World.write] using hr.reason
  | daemon op spec =>
    refine ⟨?_, ?_⟩
    · simp only [World.step]
      split <;> exact hr.ok
    · simp only [World.step]
      split <;> simpa [World.write] using hr.reason
  | tick elapsed => exact ⟨hr.ok, hr.reason⟩
  | reconcile env =>
    exact ⟨reconcile_ok w.now hr.ok env.alone_alone, (lawfulChange_reconcile hr env).2.2⟩

end

/-- Every computed change of the experiment is an intended one unless the
recovery of an unset phase fails, and every run keeps to the consequences. -/
theorem reconcile_transitions (r : Reconciler Spec) :
    (∀ (env : Env Spec) (now : Time) (inst : DatadogAgent Spec) (server : Server Spec),
      Transition now inst (reconcileInstance r env now inst server).2.newStatus.experiment ↔
        ¬(recoveryFails env inst server ∧
          inst.status.experiment ≠ some { id := inst.annotationID })) ∧
    ∀ (dda : DatadogAgent Spec) (now : Time) (es : List (Event Spec)),
      Runs.Along (World.step r) (LawfulChange r dda.status) (.init dda now) es := by
  refine ⟨fun env now inst server => transition_iff r env now inst server, ?_⟩
  intro dda now es
  refine Runs.Along.of_invariant_always (I := Reasoned r dda.status) (fun w e h => h.step e) ?_
    ⟨.nil, fun _ => .inr rfl⟩ es
  intro w e h
  cases e with
  | edit | daemon | tick => trivial
  | reconcile env => exact lawfulChange_reconcile h env

/-- A rollback signal at an unset phase, with the spec at the highest of two
revisions; the read of the current object fails, and the persisted status has
the signal's ID and no phase. -/
theorem failed_recovery_leaves_no_phase :
    let inst := daemonWrite (operation .stop "v1") 1 (numberedAgent 1)
    let server : Server Nat := { dda := inst, revisions :=
      [numbered.newControllerRevision ⟨0, ∅⟩ 1, numbered.newControllerRevision ⟨1, ∅⟩ 2] }
    let env : Env Nat := { getCurrent := some .other }
    ¬Transition 0 inst (reconcileInstance numbered env 0 inst server).2.newStatus.experiment ∧
      (reconcileInstance numbered env 0 inst server).2.server.dda.status.experiment =
        some { id := "v1" } := by
  intro inst server env
  have hcomputed : (reconcileInstance numbered env 0 inst server).2.newStatus.experiment =
      some { id := inst.annotationID } := by decide
  refine ⟨?_, by decide⟩
  rw [hcomputed]
  exact not_transition_of_recover 0 inst (by decide) (by decide)

end DatadogOperator
