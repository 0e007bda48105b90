import DatadogOperator.History

/-!
# The spec a rollback restores

Runs without API errors. The ledger then holds at most two snapshots, and a
rollback restores the second one. Whether that is the baseline of the running
experiment depends on what the reconciles before have recorded: a restored
baseline is not recorded again, so the revision of a rolled-back experiment
stays first, and a revert by the user is recorded above the experiment.
-/

namespace DatadogOperator

variable {Spec : Type} [DecidableEq Spec]

def Event.Clean : Event Spec → Prop
  | .reconcile env => env = .clean
  | _ => True

section
variable {r : Reconciler Spec} {w : World Spec} {h : List (RevisionSnapshot Spec)}

theorem World.reconcile_recorded (hl : Ledger r w.server.revisions h) (hlen : h.length ≤ 2) :
    (w.reconcile r .clean).dda.status.experiment =
        (w.verdict r).experiment w.now w.server.dda true ∧
      Ledger r (w.reconcile r .clean).revisions
        (if NoCollision r w.server.revisions w.server.dda.snapshot then
          record (decide ((w.reconcile r .clean).dda.status.phase = some .terminated))
            w.server.dda.snapshot h
        else h) := by
  obtain ⟨hexp, -⟩ := reconcile_persists w.now Env.clean_agentCallsOk Env.clean_alone hl
  refine ⟨hexp, ?_⟩
  split
  · rename_i hcol
    obtain ⟨-, hledger⟩ := reconcile_clean w.now hl hlen hcol
    have hphase : (w.reconcile r .clean).dda.status.phase =
        ((w.verdict r).experiment w.now w.server.dda true).bind (·.phase) :=
      congrArg (·.bind (·.phase)) hexp
    rw [hphase]
    exact hledger
  · rename_i hcol
    exact reconcile_clean_collision w.now hl hcol

theorem World.reconcile_still_running (hl : Ledger r w.server.revisions h) (hlen : h.length ≤ 2)
    (hrun : (w.reconcile r .clean).dda.status.phase = some .running) :
    (w.verdict r = .start ∨ w.verdict r = .keep ∧ w.server.dda.status.phase = some .running) ∧
      (w.reconcile r .clean).dda.snapshot = w.server.dda.snapshot ∧
      Ledger r (w.reconcile r .clean).revisions
        (if NoCollision r w.server.revisions w.server.dda.snapshot then
          record false w.server.dda.snapshot h
        else h) := by
  obtain ⟨hexp, hledger⟩ := w.reconcile_recorded hl hlen
  have hout : ((w.verdict r).experiment w.now w.server.dda true).bind (·.phase) = some .running := by
    rw [← hexp]
    exact hrun
  have hv := Verdict.of_running hout
  refine ⟨hv, ?_, ?_⟩
  · refine reconcile_unrestored w.now Env.clean_experimentCallsOk Env.clean_alone hl (.inr ?_)
    change (w.verdict r).restores = false
    rcases hv with hv | ⟨hv, -⟩ <;> rw [hv] <;> rfl
  · simpa [hrun] using hledger

/-! ## A revert of the user -/

/-- While an experiment runs, the snapshot last reconciled comes first in the
ledger, unless a collision kept it out. -/
structure Headed (r : Reconciler Spec) (w : World Spec) : Prop where
  tracked : Tracked r w
  ledger : ∃ h, Ledger r w.server.revisions h ∧ h.length ≤ 2 ∧
    (w.server.dda.status.phase = some .running →
      ∀ l, w.reconciled = some l → l ∈ h → h.head? = some l)

omit [DecidableEq Spec] in
theorem Headed.init (hs : dda.signal = none)
    (hp : dda.status.phase ≠ some .running) (now : Time) : Headed r (.init dda now) :=
  ⟨.init hs hp now, [], .nil, Nat.zero_le _, fun hrun => absurd hrun hp⟩

theorem World.step_daemon_reconciled (w : World Spec) (op : Fleet.PendingOperation) (spec : Spec) :
    (w.step r (.daemon op spec)).reconciled = w.reconciled := by
  simp only [World.step]
  split <;> rfl

theorem World.step_reconciled_clean (w : World Spec) :
    (w.step r (.reconcile .clean)).reconciled = some (w.reconcile r .clean).dda.snapshot := rfl

theorem Headed.step (hw : Headed r w) (hclean : e.Clean) : Headed r (w.step r e) := by
  refine ⟨hw.tracked.step e, ?_⟩
  obtain ⟨h, hl, hlen, hhead⟩ := hw.ledger
  cases e with
  | edit spec annotations =>
    refine ⟨h, hl, hlen, fun hrun => hhead ?_⟩
    simpa using hrun
  | daemon op spec =>
    rw [World.step_daemon_server, World.step_daemon_reconciled]
    exact ⟨h, hl, hlen, by simpa using hhead⟩
  | tick elapsed => exact ⟨h, hl, hlen, hhead⟩
  | reconcile env =>
    obtain rfl : env = .clean := hclean
    obtain ⟨-, hledger⟩ := w.reconcile_recorded hl hlen
    refine ⟨_, hledger, ?_, ?_⟩
    · split
      · exact length_record_le hlen _ _
      · exact hlen
    · intro hrun l hlast hmem
      rw [World.step_reconcile_server] at hrun
      obtain ⟨-, hsnap, -⟩ := w.reconcile_still_running hl hlen hrun
      rw [World.step_reconciled_clean, hsnap, Option.some.injEq] at hlast
      subst hlast
      by_cases hcol : NoCollision r w.server.revisions w.server.dda.snapshot
      · simp [hcol, hrun, record_false]
      · rw [if_neg hcol] at hmem
        exact absurd (NoCollision.of_stored hl.ok (hl.mem_iff.mp hmem)) hcol

/-- The user has put the baseline `l` of the running experiment back, and it
has been reconciled since. -/
def World.Reverted (w : World Spec) (l : RevisionSnapshot Spec) : Prop :=
  (∃ st ∈ w.running, st.baseline = some l) ∧ w.server.dda.snapshot = l ∧ w.reconciled = some l

instance (w : World Spec) (l : RevisionSnapshot Spec) : Decidable (w.Reverted l) :=
  inferInstanceAs (Decidable (_ ∧ _ ∧ _))

/-- The termination of a reverted experiment leaves the baseline's spec. -/
def KeepsRevert (r : Reconciler Spec) (w : World Spec) : Event Spec → Prop
  | .reconcile env => w.Reverted w.server.dda.snapshot → w.Moves r env .running .terminated →
    (w.reconcile r env).dda.spec = w.server.dda.spec
  | _ => True

/-- It finds fewer than two revisions, or none with another spec. -/
def OneSpecStored (r : Reconciler Spec) (w : World Spec) : Event Spec → Prop
  | .reconcile env => w.Reverted w.server.dda.snapshot → w.Moves r env .running .terminated →
    w.server.revisions.length < 2 ∨
      ∀ rev ∈ w.server.revisions, rev.data.spec = w.server.dda.spec
  | _ => True

instance : (e : Event Spec) → Decidable (KeepsRevert r w e)
  | .reconcile env => inferInstanceAs (Decidable (_ → w.Moves r env .running .terminated → _))
  | .edit .. | .daemon .. | .tick _ => isTrue trivial

theorem Headed.keepsRevert_iff (hw : Headed r w) (hclean : e.Clean) :
    KeepsRevert r w e ↔ OneSpecStored r w e := by
  cases e with
  | edit | daemon | tick => exact Iff.rfl
  | reconcile env =>
    obtain rfl : env = .clean := hclean
    refine imp_congr_right fun hrev => imp_congr_right fun hmoves => ?_
    obtain ⟨h, hl, hlen, hhead⟩ := hw.ledger
    obtain ⟨reason, hv⟩ : ∃ reason, w.verdict r = .restore reason := by
      rcases hmoves.verdict hl.ok with h | ⟨-, h⟩ | ⟨-, h⟩ | ⟨reason, hv, -⟩
      · cases h
      · cases h
      · cases h
      · exact ⟨reason, hv⟩
    obtain ⟨hrun, hknown, -⟩ := verdict_eq_restore hv
    by_cases hfew : h.length < 2
    · have hsnap := reconcile_unrestored w.now Env.clean_experimentCallsOk Env.clean_alone hl (.inl hfew)
      refine iff_of_true ?_ (.inl (hl.length_eq ▸ hfew))
      exact congrArg RevisionSnapshot.spec hsnap
    · have hmem : w.server.dda.snapshot ∈ h := by
        by_contra hno
        rw [hl.manuallyChanged_iff.mpr ⟨Nat.le_of_not_lt hfew, hno⟩] at hknown
        cases hknown
      have hfirst := hhead hrun _ hrev.2.2 hmem
      match h, hl, hlen, hfew, hfirst with
      | [_], _, _, hfew, _ => exact absurd (by simp) hfew
      | [_, t], hl, _, _, hfirst =>
        cases hfirst
        have hspec := (reconcile_restores w.now Env.clean_experimentCallsOk Env.clean_alone hl rfl
          (by rw [show verdict r w.now w.server.revisions w.server.dda = _ from hv]; rfl)).1
        rw [show (w.reconcile r .clean).dda.spec = t.spec from hspec]
        have hall : (∀ rev ∈ w.server.revisions, rev.data.spec = w.server.dda.spec) ↔
            ∀ x ∈ [w.server.dda.snapshot, t], x.spec = w.server.dda.spec := by
          simp only [hl.mem_iff]
          exact ⟨fun h _ ⟨rev, hrev, heq⟩ => heq ▸ h rev hrev, fun h rev hrev => h _ ⟨rev, hrev, rfl⟩⟩
        have hlen : ¬w.server.revisions.length < 2 := by
          rw [← hl.length_eq]
          simp
        rw [hall]
        simp [hlen]

end

/-- Over every run without API errors: the termination of an experiment the
user has reverted leaves the baseline's spec exactly when no revision with
another spec is there to be restored. -/
theorem reverted_spec_kept_iff (r : Reconciler Spec) (dda : DatadogAgent Spec) (now : Time)
    (hs : dda.signal = none) (hp : dda.status.phase ≠ some .running) (es : List (Event Spec))
    (hclean : ∀ e ∈ es, e.Clean) :
    Runs.Along (World.step r) (fun w e => KeepsRevert r w e ↔ OneSpecStored r w e)
      (.init dda now) es := by
  refine Runs.Along.of_invariant (I := Headed r) (C := fun _ e => e.Clean) ?_ ?_ (.init hs hp now) ?_
  · exact fun _ _ hw hc => hw.step hc
  · exact fun _ _ hw hc => hw.keepsRevert_iff hc
  · exact Runs.Along.of_events hclean

/-- A start patch that changes nothing: there is only the baseline to keep. -/
theorem reverted_spec_kept_run :
    let es : List (Event Nat) := [.reconcile .clean, .daemon (operation .start "v1") 0,
      .reconcile .clean, .daemon (operation .stop "v1") 0, .reconcile .clean]
    Runs.Along (World.step numbered) (fun w e => KeepsRevert numbered w e ↔ OneSpecStored numbered w e)
        (.init (numberedAgent 0) 0) es ∧
      (Runs.run (World.step numbered) (.init (numberedAgent 0) 0) es).server.dda.status.phase =
        some .terminated ∧
      (Runs.run (World.step numbered) (.init (numberedAgent 0) 0) es).server.dda.spec = 0 :=
  ⟨reverted_spec_kept_iff numbered (numberedAgent 0) 0 (by decide) (by decide) _
    (by simp [Event.Clean]), by decide, by decide⟩

/-- The user puts spec 0 back while the experiment with spec 1 runs; after one
more reconcile the rollback signal restores spec 1. -/
theorem revert_is_overwritten :
    ¬Runs.Along (World.step numbered) (KeepsRevert numbered) (.init (numberedAgent 0) 0)
      [.reconcile .clean, .daemon (operation .start "v1") 1, .reconcile .clean, .edit 0 ∅,
        .reconcile .clean, .daemon (operation .stop "v1") 0, .reconcile .clean] := by
  decide

end DatadogOperator
