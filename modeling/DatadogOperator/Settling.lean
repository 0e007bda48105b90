import DatadogOperator.Trial
import Mathlib.Dynamics.FixedPoints.Basic

/-!
# A DatadogAgent left alone settles

Reconciles of an object that nobody else writes end an experiment, take up
a waiting start, clear its signal, and then change nothing any more.
-/

namespace DatadogOperator

open Runs Function

variable {Spec : Type} [DecidableEq Spec]

theorem record_idem (skipBump : Bool) (current : RevisionSnapshot Spec)
    (h : List (RevisionSnapshot Spec)) :
    record skipBump current (record skipBump current h) = record skipBump current h := by
  have hrest : ((h.filter (· ≠ current)).take 1).filter (· ≠ current) =
      (h.filter (· ≠ current)).take 1 := by
    refine List.filter_eq_self.mpr fun x hx => ?_
    exact (List.mem_filter.mp (List.mem_of_mem_take hx)).2
  cases skipBump with
  | true => exact record_of_mem (mem_record _ _ _)
  | false =>
    rw [record_false, record_false, List.filter_cons_of_neg (by simp), hrest, List.take_take,
      Nat.min_self]

theorem mem_of_mem_record {x current : RevisionSnapshot Spec} {h : List (RevisionSnapshot Spec)}
    (hx : x ∈ record skipBump current h) :
    x = current ∨ x ∈ h := by
  unfold record at hx
  split at hx
  · exact .inr hx
  · exact (List.mem_cons.mp hx).imp_right fun hx => List.mem_of_mem_filter (List.mem_of_mem_take hx)

namespace Trial

/-- After `n` reconciles the next ones change nothing. -/
def Settles (r : Reconciler Spec) (n : Nat) (t : Trial Spec) : Prop :=
  IsFixedPt (reconcile r) ((reconcile r)^[n] t)

section
variable {r : Reconciler Spec} {t t' : Trial Spec}

theorem Settles.mono (h : Settles r n t) (hle : n ≤ m) : (reconcile r)^[m] t = (reconcile r)^[n] t := by
  obtain ⟨k, rfl⟩ := Nat.exists_eq_add_of_le' hle
  rw [iterate_add_apply]
  exact IsFixedPt.iterate h k

theorem Settles.le (h : Settles r n t) (hle : n ≤ m) : Settles r m t := by
  rw [Settles, h.mono hle]
  exact h

section
variable (hs : t'.agent.snapshot = t.agent.snapshot) (hl : t'.ledger = t.recorded r skipBump)
include hs hl

theorem recorded_again : t'.recorded r skipBump = t'.ledger := by
  unfold recorded at hl ⊢
  by_cases hc : t.collides r
  · rw [if_pos hc] at hl
    rw [if_pos (by rwa [collides, hs, hl])]
  · rw [if_neg hc] at hl
    have hc' : ¬t'.collides r := by
      rintro ⟨x, hx, hname, hne⟩
      rw [hs] at hname hne
      rw [hl] at hx
      exact hc ⟨x, (mem_of_mem_record hx).resolve_left hne, hname, hne⟩
    rw [if_neg hc', hl, hs, record_idem]

theorem not_changed (hc : ¬(2 ≤ t.ledger.length ∧ t.agent.snapshot ∉ t.ledger)) :
    ¬(2 ≤ t'.ledger.length ∧ t'.agent.snapshot ∉ t'.ledger) := by
  unfold recorded at hl
  rw [hs, hl]
  split
  · exact hc
  · exact fun h => h.2 (mem_record _ _ _)

end

theorem reconcile_keep (hv : t.verdict r = .keep) : (t.reconcile r).agent.signal = none ∧
    (t.reconcile r).agent.snapshot = t.agent.snapshot ∧ (t.reconcile r).experiment = t.experiment := by
  simp only [reconcile, hv, outcome]
  refine ⟨?_, ?_, rfl⟩
  · split
    · simp [DatadogAgent.signal, DatadogAgent.annotationID, agent, Annotations.get]
    · rename_i hsig
      exact Option.not_isSome_iff_eq_none.mp hsig
  · split
    · simp [DatadogAgent.snapshot, buildRevisionSnapshot, agent, datadogAnnotations_clear]
    · rfl

theorem settles_of_keep (hv : t.verdict r = .keep) (hv' : (t.reconcile r).verdict r = .keep) :
    Settles r 1 t := by
  obtain ⟨hsig, hsnap, -⟩ := reconcile_keep hv
  have hledger : (t.reconcile r).recorded r (decide
      ((t.reconcile r).experiment.bind (·.phase) = some .terminated)) = (t.reconcile r).ledger :=
    recorded_again hsnap rfl
  change (t.reconcile r).reconcile r = t.reconcile r
  generalize t.reconcile r = t' at *
  obtain ⟨spec, annotations, experiment, ledger, now⟩ := t'
  simp only [reconcile, hv', outcome, hsig, Option.isSome_none, Bool.false_eq_true, if_false]
  exact congrArg (Trial.mk spec annotations experiment · now) hledger

/-! ## What each verdict leads to -/

theorem verdict_ended (hp : t.agent.status.phase ≠ some .running)
    (hn : t.agent.status.phase ≠ none) : t.verdict r = .keep ∨ t.verdict r = .start := by
  unfold verdict ledgerVerdict
  split_ifs <;> simp_all

theorem settles_rest (hp : t.agent.status.phase ≠ some .running) (hv : t.verdict r = .keep) :
    Settles r 1 t := by
  refine settles_of_keep hv ?_
  obtain ⟨hsig, -, hexp⟩ := reconcile_keep hv
  have hp' : (t.reconcile r).agent.status.phase ≠ some .running := by
    simpa [agent, hexp] using hp
  simp [verdict, ledgerVerdict, hp', hsig]

theorem verdict_idle (hp : t.agent.status.phase = some .running)
    (hs : t.agent.signal = none ∨ t.agent.signal = some .start) : t.verdict r =
      if 2 ≤ t.ledger.length ∧ t.agent.snapshot ∉ t.ledger then .abort
      else if t.agent.snapshot ∈ t.ledger ∧ r.timedOut t.now t.agent then .restore .timedOut
      else .keep := by
  rcases hs with hs | hs <;> simp [verdict, ledgerVerdict, hp, hs]

theorem verdict_start (hv : t.verdict r = .start) :
    t.agent.signal = some .start ∧ t.agent.annotationID ≠ t.agent.status.id := by
  unfold verdict ledgerVerdict at hv
  split_ifs at hv
  exact ⟨‹_›, ‹_›⟩

theorem reconcile_ends (hk : t.verdict r ≠ .keep) (hs : t.verdict r ≠ .start) :
    (t.reconcile r).agent.status.phase ≠ some .running ∧
      (t.reconcile r).agent.status.phase ≠ none := by
  have hrun : t.verdict r = .recover ∨ t.agent.status.phase = some .running := by
    unfold verdict ledgerVerdict at *
    split_ifs at * <;> simp_all
  rcases hrun with hv | hp
  · simp [reconcile, hv, agent, DatadogAgentStatus.phase, Verdict.experiment]
  · obtain ⟨e, he, -⟩ := DatadogAgentStatus.exists_of_phase hp
    cases hv : t.verdict r <;>
      simp_all [reconcile, agent, DatadogAgentStatus.phase, Verdict.experiment]

variable (htimeout : 0 ≤ r.experimentTimeout)
include htimeout

/-- An experiment just started does not time out: it is aborted, or its
signal is cleared and it runs on. -/
theorem settles_start (hv : t.verdict r = .start) : Settles r 3 t := by
  obtain ⟨hsig, hexp⟩ : (t.reconcile r).agent.signal = some .start ∧
      (t.reconcile r).experiment =
        some (startedStatus (t.reconcile r).now (t.reconcile r).agent) := by
    rw [← (verdict_start hv).1]
    simp only [reconcile, hv]
    exact ⟨rfl, rfl⟩
  change Settles r 2 (t.reconcile r)
  generalize t.reconcile r = t at *
  have htime : r.timedOut t.now t.agent = false := by
    have hat : t.agent.status.experiment.bind (·.startedAt) = some t.now :=
      congrArg (·.bind (·.startedAt)) hexp
    have hpos : 0 < getExperimentTimeout r.experimentTimeout := by
      unfold getExperimentTimeout
      split
      · decide
      · exact lt_of_le_of_ne htimeout (Ne.symm ‹_›)
    simp [Reconciler.timedOut, hat, hpos]
  have hp : t.agent.status.phase = some .running := congrArg (·.bind (·.phase)) hexp
  have hv := verdict_idle (r := r) hp (.inr hsig)
  by_cases hc : 2 ≤ t.ledger.length ∧ t.agent.snapshot ∉ t.ledger
  · rw [if_pos hc] at hv
    obtain ⟨hp', hn⟩ := reconcile_ends (r := r) (t := t) (by simp [hv]) (by simp [hv])
    refine settles_rest (t := t.reconcile r) hp' ((verdict_ended hp' hn).resolve_right fun h => ?_)
    -- The signal stays, but its ID is now that of the aborted experiment.
    refine (verdict_start h).2 (Eq.symm ?_)
    simp only [reconcile, hv, Verdict.experiment, DatadogAgentStatus.id]
    exact congrArg (fun o => ((o.map fun e : ExperimentStatus =>
      { e with phase := some .aborted }).map (·.id)).getD "") hexp
  · rw [if_neg hc, if_neg (by simp [htime])] at hv
    obtain ⟨hsig', hsnap, hexp'⟩ := reconcile_keep hv
    have hp' : (t.reconcile r).agent.status.phase = some .running :=
      (congrArg (·.bind (·.phase)) hexp').trans hp
    have htime' : r.timedOut (t.reconcile r).now (t.reconcile r).agent = false := by
      rw [← htime]
      simp only [Reconciler.timedOut, agent, hexp']
      rfl
    refine (settles_of_keep hv ?_).le (by decide)
    rw [verdict_idle hp' (.inl hsig'), if_neg (not_changed hsnap rfl hc), if_neg (by simp [htime'])]

theorem settles (t : Trial Spec) : Settles r 5 t := by
  have hend {t : Trial Spec} (hk : t.verdict r ≠ .keep) (hs : t.verdict r ≠ .start) :
      Settles r 4 t := by
    obtain ⟨hp, hn⟩ := reconcile_ends hk hs
    rcases verdict_ended hp hn with hv | hv
    · exact (settles_rest hp hv).le (t := t.reconcile r) (m := 3) (by decide)
    · exact settles_start (t := t.reconcile r) htimeout hv
  by_cases hs : t.verdict r = .start
  · exact (settles_start htimeout hs).le (by decide)
  by_cases hk : t.verdict r = .keep
  · obtain ⟨hsig, -, -⟩ := reconcile_keep hk
    by_cases hk' : (t.reconcile r).verdict r = .keep
    · exact (settles_of_keep hk hk').le (by decide)
    · refine hend (t := t.reconcile r) hk' fun hv => ?_
      rw [(verdict_start hv).1] at hsig
      cases hsig
  · exact (hend hk hs).le (by decide)

omit htimeout in
theorem run_reconciles (t : Trial Spec) (k : Nat) :
    run (step r) t (List.replicate k (.reconcile .clean)) = (reconcile r)^[k] t := by
  induction k generalizing t with
  | zero => rfl
  | succ k ih => exact ih (t.reconcile r)

end

end Trial

theorem left_alone_settles (r : Reconciler Spec) (htimeout : 0 ≤ r.experimentTimeout)
    (dda : DatadogAgent Spec) (now : Time) (es : List (Event Spec)) (hclean : ∀ e ∈ es, e.Clean)
    (n : Nat) (hn : 5 ≤ n) :
    let after k := (run (World.step r) (.init dda now)
      (es ++ List.replicate k (.reconcile .clean))).server
    (after n).dda.spec = (after 5).dda.spec ∧
      (after n).dda.annotations = (after 5).dda.annotations ∧
      (after n).dda.status.experiment = (after 5).dda.status.experiment ∧
      ∃ h, Ledger r (after n).revisions h ∧ Ledger r (after 5).revisions h := by
  have habs (k : Nat) : Abstracts r (run (World.step r) (.init dda now)
      (es ++ List.replicate k (.reconcile .clean)))
      ((Trial.reconcile r)^[k] (run (Trial.step r) (.init dda now) es)) := by
    rw [← Trial.run_reconciles, run, List.foldl_append]
    refine ((Abstracts.init dda now).run hclean).run fun e he => ?_
    rw [List.eq_of_mem_replicate he]
    rfl
  have h5 := habs 5
  have h := habs n
  rw [(Trial.settles htimeout _).mono hn] at h
  exact ⟨h.spec.trans h5.spec.symm, h.annotations.trans h5.annotations.symm,
    h.experiment.trans h5.experiment.symm, _, h.ledger, h5.ledger⟩

theorem stopped_settles :
    let after k := (run (World.step numbered) (.init (numberedAgent 3) 0)
      (stopped ++ List.replicate k (.reconcile .clean))).server
    (after 9).dda.spec = (after 5).dda.spec :=
  (left_alone_settles numbered (by decide) (numberedAgent 3) 0 stopped
    (by simp [stopped, Event.Clean]) 9 (by decide)).1

end DatadogOperator
