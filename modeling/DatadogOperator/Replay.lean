import DatadogOperator.Clearing
import DatadogOperator.Transitions

/-!
# Signals and lost status writes

The effect of a signal is computed in one reconcile and persisted by the
status write at its end; the signal is cleared by a later reconcile that
finds nothing left to do. Between the two the status write may be lost, to a
conflict or with the operator, after the spec was restored or the snapshot
recorded. `Replayable` says when the attempts that follow come to the same
phase.
-/

namespace DatadogOperator

variable {Spec : Type} [DecidableEq Spec]

/-- Every call but the final status write succeeds. -/
structure Env.StatusFaultsOnly (env : Env Spec) : Prop
    extends env.ExperimentCallsOk, env.RevisionCallsOk where
  later : env.later = false

omit [DecidableEq Spec] in
theorem Env.StatusFaultsOnly.alone {env : Env Spec} (h : env.StatusFaultsOnly) :
    env.alone.StatusFaultsOnly :=
  ⟨⟨h.hold, h.listRevisions, h.getRevision, h.getCurrent, h.update⟩,
    ⟨h.create, h.bump, h.delete, h.gcDelete⟩, h.later⟩

def Env.Lost (env : Env Spec) : Prop := env.crash = true ∨ env.updateStatus.isSome

/-- The snapshot of an object after `t` is restored over `s`. -/
def RevisionSnapshot.over (t s : RevisionSnapshot Spec) : RevisionSnapshot Spec :=
  ⟨t.spec, t.annotations ∪ s.annotations⟩

section
variable {r : Reconciler Spec} {env : Env Spec} {s : Server Spec}
  {h : List (RevisionSnapshot Spec)} {t : RevisionSnapshot Spec}

section
omit [DecidableEq Spec]

theorem RevisionSnapshot.over_self (s : RevisionSnapshot Spec) : s.over s = s := by
  simp [RevisionSnapshot.over, Finmap.union_self]

theorem RevisionSnapshot.over_over (t s : RevisionSnapshot Spec) : t.over (t.over s) = t.over s := by
  simp [RevisionSnapshot.over, ← Finmap.union_assoc, Finmap.union_self]

theorem restored_snapshot (d : DatadogAgent Spec)
    (ht : datadogAnnotations t.annotations = t.annotations) :
    (restored t d).snapshot = t.over d.snapshot := by
  simp only [DatadogAgent.snapshot, buildRevisionSnapshot, restored, RevisionSnapshot.over,
    datadogAnnotations_union ht]

end

/-! ## One reconcile whose status write may be lost -/

theorem reconcile_ledger_cases (now : Time) (henv : env.StatusFaultsOnly) (halone : env.Alone)
    (hl : Ledger r s.revisions h) (hlen : h.length ≤ 2) :
    let out := (reconcileInstance r env now s.dda s).2.server
    let experiment := (verdict r now s.revisions s.dda).experiment now s.dda true
    Ledger r out.revisions h ∨ NoCollision r s.revisions s.dda.snapshot ∧ Ledger r out.revisions
      (record (decide (experiment.bind (·.phase) = some .terminated)) s.dda.snapshot h) := by
  have hsync := settled_synced r env now s
  have hsettled := settled_ledger now env hl
  dsimp only
  rcases (reconcile_leaves now hl.ok halone).revisions with hrev | hrev
  · rw [hrev, ← hsync]
    exact .inl hsettled
  · rw [hrev]
    by_cases hcol : NoCollision r s.revisions s.dda.snapshot
    · obtain ⟨-, hledger, -⟩ := manageRevision_ledger henv.toRevisionCallsOk hsync hsettled hlen
        ((settled_noCollision now env).mpr hcol) (datadogAnnotations_idem _)
      rw [skipRevisionBump_eq, DatadogAgentStatus.phase,
        settled_experiment now henv.toExperimentCallsOk halone hl] at hledger
      exact .inr ⟨hcol, hledger⟩
    · rw [manageRevision_collision env (settled_ok env now hl.ok)
        ((settled_noCollision now env).not.mpr hcol), ← hsync]
      exact .inl hsettled

theorem updateStatusIfNeeded_lost (halone : env.Alone) (hlost : env.updateStatus = some e)
    (inst : DatadogAgent Spec) (newStatus : DatadogAgentStatus) (err : Option Error)
    (p : Pass Spec) : (updateStatusIfNeeded env inst newStatus err p).2.server = p.server := by
  unfold updateStatusIfNeeded
  simp only [Pass.interfere, halone.status, id, hlost]
  split
  · rfl
  · cases e <;> rfl

theorem reconcile_lost (now : Time) (henv : env.StatusFaultsOnly) (halone : env.Alone)
    (hlost : env.Lost) (hok : RevisionsOk r s.revisions) :
    (reconcileInstance r env now s.dda s).2.server.dda.status = s.dda.status := by
  have hst := (settled_dda now hok halone (r := r)).1
  have hma := manageRevision_aside r env s.dda.snapshot (settled r env now s)
  rw [reconcileInstance_eq]
  simp only [henv.hold, henv.listRevisions, henv.later, Bool.false_eq_true, if_false]
  split
  · exact hst
  · rename_i hcrash
    obtain ⟨e, he⟩ := Option.isSome_iff_exists.mp (hlost.resolve_left hcrash)
    split
    · rw [updateStatusIfNeeded_lost halone he]
      exact hst
    · rcases hm : manageRevision r env s.dda.snapshot (settled r env now s) with ⟨result, p⟩
      rw [hm] at hma
      have hp : p.server.dda.status = s.dda.status := by
        rw [hma.dda]
        exact hst
      cases result with
      | error e => simpa only [updateStatusIfNeeded_lost halone he] using hp
      | ok u => simpa only [updateStatusIfNeeded_lost halone he] using hp

/-! ## Lost attempts -/

/-- Restoring the oldest snapshot over `c` gives a stored snapshot, or `c`. -/
def Stable (h : List (RevisionSnapshot Spec)) (c : RevisionSnapshot Spec) : Prop :=
  ∀ t ∈ h.getLast?, t.over c = c ∨ t.over c ∈ h

/-- Beside the verdict, what its repetition needs. -/
def Verdict.Repeats (r : Reconciler Spec) (h : List (RevisionSnapshot Spec))
    (c : RevisionSnapshot Spec) : Verdict → Prop
  | .keep => False
  | .start | .promote => True
  | .abort => ∃ x ∈ h, r.revisionName x = r.revisionName c ∧ x ≠ c
  | .restore _ => Stable h c
  | .recover => ∀ t ∈ h.getLast?, t.over c = c

/-- The next attempt comes to verdict `v`, and so do those after it. -/
structure Replays (r : Reconciler Spec) (v : Verdict) (status : DatadogAgentStatus)
    (s : Server Spec × Time) : Prop where
  again : verdict r s.2 s.1.revisions s.1.dda = v
  status : s.1.dda.status = status
  ledger : ∃ h, Ledger r s.1.revisions h ∧ h.length ≤ 2 ∧ v.Repeats r h s.1.dda.snapshot

def lose (r : Reconciler Spec) (s : Server Spec × Time) (a : Env Spec × Nat) : Server Spec × Time :=
  ((reconcileInstance r a.1.alone s.2 s.1.dda s.1).2.server, s.2 + a.2)

omit [DecidableEq Spec] in
theorem timedOut_mono (hst : d'.status = d.status)
    (elapsed : Nat) (h : r.timedOut now d) : r.timedOut (now + elapsed) d' := by
  have hlater (t startedAt timeout : Int) (h : t - startedAt ≥ timeout) :
      t + elapsed - startedAt ≥ timeout := by omega
  unfold Reconciler.timedOut at h ⊢
  rw [hst]
  cases hs : d.status.experiment.bind (·.startedAt) with
  | none => simp [hs] at h
  | some startedAt =>
    simp only [hs, decide_eq_true_eq] at h ⊢
    exact hlater now startedAt _ h

theorem Stable.record {c : RevisionSnapshot Spec} (hs : Stable h c) (hlen : h.length < 2) :
    Stable (record true c h) c := by
  by_cases hmem : c ∈ h
  · rwa [record_of_mem hmem]
  · match h, hlen with
    | [], _ =>
      rintro t ht
      obtain rfl : c = t := by simpa [DatadogOperator.record] using ht
      exact .inl (RevisionSnapshot.over_self _)
    | [a], _ =>
      have hca : a ≠ c := fun heq => hmem (by simp [heq])
      have hrec : DatadogOperator.record true c [a] = [c, a] := by
        simp [DatadogOperator.record, hca, Ne.symm hca]
      rw [hrec]
      rintro t ht
      obtain rfl : a = t := by simpa using ht
      rcases hs a (by simp) with hsame | hin
      · exact .inl hsame
      · exact .inr (.tail _ hin)

section
variable {status : DatadogAgentStatus} {st : Server Spec × Time} {a : Env Spec × Nat}

theorem lose_keeps (henv : a.1.StatusFaultsOnly) (hlost : a.1.Lost)
    (hok : RevisionsOk r st.1.revisions) (hv : verdict r st.2 st.1.revisions st.1.dda ≠ .keep) :
    (lose r st a).1.dda.status = st.1.dda.status ∧ (lose r st a).1.dda.signal = st.1.dda.signal ∧
      (lose r st a).1.dda.annotationID = st.1.dda.annotationID := by
  refine ⟨?_, (reconcile_fleetSame st.2 hok a.1.alone_alone hv).signal⟩
  exact reconcile_lost st.2 henv.alone a.1.alone_alone hlost hok

theorem lose_ledger (henv : a.1.StatusFaultsOnly) (hl : Ledger r st.1.revisions h)
    (hlen : h.length ≤ 2) (hv : verdict r st.2 st.1.revisions st.1.dda = v) :
    Ledger r (lose r st a).1.revisions h ∨
      NoCollision r st.1.revisions st.1.dda.snapshot ∧ Ledger r (lose r st a).1.revisions
        (record (decide ((v.experiment st.2 st.1.dda true).bind (·.phase) = some .terminated))
          st.1.dda.snapshot h) := by
  subst hv
  exact reconcile_ledger_cases st.2 henv.alone a.1.alone_alone hl hlen

theorem lose_snapshot (henv : a.1.StatusFaultsOnly) (hl : Ledger r st.1.revisions h)
    (hh : h.length < 2 ∨ (verdict r st.2 st.1.revisions st.1.dda).restores = false) :
    (lose r st a).1.dda.snapshot = st.1.dda.snapshot :=
  reconcile_unrestored st.2 henv.alone.toExperimentCallsOk a.1.alone_alone hl hh

theorem lose_restores {x t : RevisionSnapshot Spec} (henv : a.1.StatusFaultsOnly)
    (hl : Ledger r st.1.revisions [x, t])
    (hv : (verdict r st.2 st.1.revisions st.1.dda).restores) :
    (lose r st a).1.dda.snapshot = t.over st.1.dda.snapshot := by
  obtain ⟨hspec, hann⟩ :=
    reconcile_restores st.2 henv.alone.toExperimentCallsOk a.1.alone_alone hl rfl hv
  obtain ⟨rev, hrev, rfl⟩ := hl.mem_iff.mp (show t ∈ [x, t] by simp)
  rw [← restored_snapshot st.1.dda (hl.ok.datadog rev hrev)]
  unfold DatadogAgent.snapshot restored
  rw [show (lose r st a).1.dda.spec = _ from hspec, show (lose r st a).1.dda.annotations = _ from hann]

theorem Replays.lose_start (hr : Replays r .start status st) (henv : a.1.StatusFaultsOnly)
    (hlost : a.1.Lost) : Replays r .start status (lose r st a) := by
  obtain ⟨h, hl, hlen, -⟩ := hr.ledger
  obtain ⟨hst, hsig, hid⟩ := lose_keeps henv hlost hl.ok (by simp [hr.again])
  obtain ⟨hp, hs, hne⟩ := verdict_eq_start.mp hr.again
  refine ⟨verdict_eq_start.mpr ?_, hst.trans hr.status, ?_⟩
  · rw [hst, hsig, hid]
    exact ⟨hp, hs, hne⟩
  · rcases lose_ledger henv hl hlen hr.again with hl' | ⟨-, hl'⟩
    · exact ⟨h, hl', hlen, trivial⟩
    · exact ⟨_, hl', length_record_le hlen _ _, trivial⟩

theorem Replays.lose_promote (hr : Replays r .promote status st) (henv : a.1.StatusFaultsOnly)
    (hlost : a.1.Lost) : Replays r .promote status (lose r st a) := by
  obtain ⟨h, hl, hlen, -⟩ := hr.ledger
  obtain ⟨hst, hsig, -⟩ := lose_keeps henv hlost hl.ok (by simp [hr.again])
  have hsnap := lose_snapshot henv hl (.inr (by rw [hr.again]; rfl))
  obtain ⟨hp, hs, hm⟩ := verdict_eq_promote.mp hr.again
  have hverdict (hm' : manuallyChanged (lose r st a).1.revisions (lose r st a).1.dda = false) :
      verdict r (lose r st a).2 (lose r st a).1.revisions (lose r st a).1.dda = .promote := by
    refine verdict_eq_promote.mpr ⟨?_, ?_, hm'⟩
    · rw [hst]
      exact hp
    · rw [hsig]
      exact hs
  rcases lose_ledger henv hl hlen hr.again with hl' | ⟨-, hl'⟩
  · refine ⟨hverdict ?_, hst.trans hr.status, h, hl', hlen, trivial⟩
    rw [← Bool.not_eq_true, hl'.manuallyChanged_iff, hsnap, ← hl.manuallyChanged_iff, hm]
    decide
  · refine ⟨hverdict ?_, hst.trans hr.status, _, hl', length_record_le hlen _ _, trivial⟩
    rw [← Bool.not_eq_true, hl'.manuallyChanged_iff, hsnap]
    exact fun hc => hc.2 (mem_record _ _ _)

theorem Replays.lose_abort (hr : Replays r .abort status st) (henv : a.1.StatusFaultsOnly)
    (hlost : a.1.Lost) : Replays r .abort status (lose r st a) := by
  obtain ⟨h, hl, hlen, x, hx, hname, hne⟩ := hr.ledger
  obtain ⟨hst, -, -⟩ := lose_keeps henv hlost hl.ok (by simp [hr.again])
  have hsnap := lose_snapshot henv hl (.inr (by rw [hr.again]; rfl))
  obtain ⟨hp, hm⟩ := verdict_eq_abort.mp hr.again
  rcases lose_ledger henv hl hlen hr.again with hl' | ⟨hcol, -⟩
  · refine ⟨verdict_eq_abort.mpr ⟨?_, ?_⟩, hst.trans hr.status, h, hl', hlen, x, hx, ?_⟩
    · rw [hst]
      exact hp
    · rw [hl'.manuallyChanged_iff, hsnap]
      exact hl.manuallyChanged_iff.mp hm
    · rw [hsnap]
      exact ⟨hname, hne⟩
  · exact absurd (hl.noCollision_iff.mp hcol x hx hname) hne

theorem Replays.lose_recover (hr : Replays r .recover status st) (henv : a.1.StatusFaultsOnly)
    (hlost : a.1.Lost) : Replays r .recover status (lose r st a) := by
  obtain ⟨h, hl, hlen, hover⟩ := hr.ledger
  obtain ⟨hst, hsig, -⟩ := lose_keeps henv hlost hl.ok (by simp [hr.again])
  obtain ⟨hp, hs, hat⟩ := verdict_eq_recover.mp hr.again
  obtain ⟨hlen2, hhead⟩ := hl.atHighest_iff.mp hat
  obtain ⟨c, t, rfl⟩ := List.length_eq_two.mp (Nat.le_antisymm hlen hlen2)
  obtain rfl : c = st.1.dda.snapshot := Option.some.inj hhead
  have hback : t.over st.1.dda.snapshot = st.1.dda.snapshot := hover t (by simp)
  have hsnap : (lose r st a).1.dda.snapshot = st.1.dda.snapshot :=
    (lose_restores henv hl (by rw [hr.again]; rfl)).trans hback
  have hl' : Ledger r (lose r st a).1.revisions [st.1.dda.snapshot, t] := by
    rcases lose_ledger henv hl hlen hr.again with hl' | ⟨-, hl'⟩
    · exact hl'
    · rwa [show decide ((Verdict.recover.experiment st.2 st.1.dda true).bind (·.phase) =
        some .terminated) = true from rfl, record_of_mem (by simp)] at hl'
  refine ⟨verdict_eq_recover.mpr ⟨?_, ?_, ?_⟩, hst.trans hr.status, _, hl', hlen, ?_⟩
  · rw [hst]
    exact hp
  · rw [hsig]
    exact hs
  · rw [hl'.atHighest_iff, hsnap]
    exact ⟨by simp, rfl⟩
  · rw [hsnap]
    exact hover

theorem Replays.lose_restore
    (hr : Replays r (.restore reason) status st) (henv : a.1.StatusFaultsOnly)
    (hlost : a.1.Lost) : Replays r (.restore reason) status (lose r st a) := by
  obtain ⟨h, hl, hlen, hstable⟩ := hr.ledger
  obtain ⟨hst, hsig, -⟩ := lose_keeps henv hlost hl.ok (by simp [hr.again])
  obtain ⟨hp, hm, hwhy⟩ := verdict_eq_restore hr.again
  obtain ⟨e, he, -⟩ := DatadogAgentStatus.exists_of_phase hp
  have hskip : decide (((Verdict.restore reason).experiment st.2 st.1.dda true).bind (·.phase) =
      some .terminated) = true := by
    simp [Verdict.experiment, he]
  -- The verdict is repeated as soon as the ledger knows the object's snapshot,
  -- or holds too little to tell and still does.
  have hverdict {h' : List (RevisionSnapshot Spec)} (hl' : Ledger r (lose r st a).1.revisions h')
      (hknown : 2 ≤ h'.length → (lose r st a).1.dda.snapshot ∈ h')
      (hmatch : st.1.dda.snapshot ∈ h → (lose r st a).1.dda.snapshot ∈ h') :
      verdict r (lose r st a).2 (lose r st a).1.revisions (lose r st a).1.dda =
        .restore reason := by
    have hrun : (lose r st a).1.dda.status.phase = some .running := by
      rw [hst]
      exact hp
    rcases hwhy with ⟨rfl, hs⟩ | ⟨rfl, hroll, hprom, ht, hsome⟩
    · refine verdict_restore_stopped hrun ?_ (hsig.trans hs)
      rw [← Bool.not_eq_true, hl'.manuallyChanged_iff]
      exact fun hc => hc.2 (hknown hc.1)
    · refine verdict_restore_timedOut hrun (hsig ▸ hroll) (hsig ▸ hprom) ?_
        (timedOut_mono hst a.2 ht)
      exact hl'.matching_isSome.mpr (hmatch (hl.matching_isSome.mp hsome))
  by_cases hfew : h.length < 2
  · have hsnap := lose_snapshot henv hl (.inl hfew)
    rcases lose_ledger henv hl hlen hr.again with hl' | ⟨-, hl'⟩
    · refine ⟨hverdict hl' ?_ ?_, hst.trans hr.status, h, hl', hlen, ?_⟩
      · exact fun hc => absurd hfew (Nat.not_lt.mpr hc)
      · exact fun hmem => hsnap ▸ hmem
      · rw [hsnap]
        exact hstable
    · rw [hskip] at hl'
      have hmem := mem_record true st.1.dda.snapshot h
      refine ⟨hverdict hl' ?_ ?_, hst.trans hr.status, _, hl', length_record_le hlen _ _, ?_⟩
      · exact fun _ => hsnap ▸ hmem
      · exact fun _ => hsnap ▸ hmem
      · rw [hsnap]
        exact Stable.record hstable hfew
  · have hin : st.1.dda.snapshot ∈ h := by
      by_contra hno
      rw [hl.manuallyChanged_iff.mpr ⟨Nat.le_of_not_lt hfew, hno⟩] at hm
      cases hm
    have hl' : Ledger r (lose r st a).1.revisions h := by
      rcases lose_ledger henv hl hlen hr.again with hl' | ⟨-, hl'⟩
      · exact hl'
      · rwa [hskip, record_of_mem hin] at hl'
    obtain ⟨x, t, rfl⟩ := List.length_eq_two.mp (Nat.le_antisymm hlen (Nat.le_of_not_lt hfew))
    have hsnap := lose_restores henv hl (by rw [hr.again]; rfl)
    have hback : (lose r st a).1.dda.snapshot ∈ [x, t] := by
      rw [hsnap]
      rcases hstable t (by simp) with hsame | hstored
      · rwa [hsame]
      · exact hstored
    refine ⟨hverdict hl' (fun _ => hback) (fun _ => hback), hst.trans hr.status, _, hl', hlen, ?_⟩
    rintro y hy
    obtain rfl : t = y := by simpa using hy
    rw [hsnap, RevisionSnapshot.over_over]
    exact .inl rfl

theorem Replays.lose {v : Verdict} (hr : Replays r v status st) (henv : a.1.StatusFaultsOnly)
    (hlost : a.1.Lost) : Replays r v status (lose r st a) := by
  cases v with
  | keep =>
    obtain ⟨_, _, _, hno⟩ := hr.ledger
    cases hno
  | start => exact hr.lose_start henv hlost
  | promote => exact hr.lose_promote henv hlost
  | abort => exact hr.lose_abort henv hlost
  | restore reason => exact hr.lose_restore henv hlost
  | recover => exact hr.lose_recover henv hlost

theorem Replays.run (hr : Replays r v status st) (attempts : List (Env Spec × Nat))
    (hlost : ∀ a ∈ attempts, a.1.StatusFaultsOnly ∧ a.1.Lost) :
    Replays r v status (Runs.run (DatadogOperator.lose r) st attempts) :=
  Runs.run_invariant (C := fun _ a => a.1.StatusFaultsOnly ∧ a.1.Lost)
    (fun _ _ hr hc => hr.lose hc.1 hc.2) hr (Runs.Along.of_events hlost)

theorem Verdict.experiment_phase_congr (v : Verdict)
    (hst : d'.status = d.status) (now now' : Time) :
    (v.experiment now' d' true).bind (·.phase) = (v.experiment now d true).bind (·.phase) := by
  cases v <;> simp [Verdict.experiment, hst, startedStatus]

end

end

/-! ## Runs -/

def Event.StatusFaultsOnly : Event Spec → Prop
  | .reconcile env => env.StatusFaultsOnly
  | _ => True

/-- A reconcile clears a signal only when the persisted status makes it a
no-op; one that computes another phase or ID leaves the signal; and any number
of attempts whose status write is lost, followed by one that is not, comes to
the phase the first one computed. -/
def ReplaysSignal (r : Reconciler Spec) (w : World Spec) : Event Spec → Prop
  | .reconcile env =>
    let old := w.server.dda
    let out := (reconcileInstance r env.alone w.now old w.server).2
    (∀ expectedID d d', .clear expectedID d d' ∈ out.calls →
      expectedID = old.annotationID ∧ SignalSettled w.server.revisions old) ∧
    (out.newStatus.phase ≠ old.status.phase ∨ out.newStatus.id ≠ old.status.id →
      out.server.dda.signal = old.signal ∧ out.server.dda.annotationID = old.annotationID) ∧
    (out.newStatus.phase ≠ old.status.phase → ∀ attempts : List (Env Spec × Nat),
      (∀ a ∈ attempts, a.1.StatusFaultsOnly ∧ a.1.Lost) →
      let s := Runs.run (lose r) (w.server, w.now) attempts
      (reconcileInstance r .clean s.2 s.1.dda s.1).2.server.dda.status.phase = out.newStatus.phase)
  | _ => True

/-- Restoring `rev` gives a stored snapshot or the object's own; at an unset
phase it changes nothing. -/
def RestoresKnown (r : Reconciler Spec) (w : World Spec) (rev : ControllerRevision Spec) : Prop :=
  let d := w.server.dda
  let stored := w.server.revisions
  (d.status.phase = some .running → manuallyChanged stored d = false →
    (d.signal = some .rollback ∨ d.signal ≠ some .promote ∧ r.timedOut w.now d) →
    (restored rev.data d).snapshot = d.snapshot ∨
      ∃ rev' ∈ stored, rev'.data = (restored rev.data d).snapshot) ∧
  (d.status.phase = none → d.signal = some .rollback → atHighest stored d →
    (restored rev.data d).snapshot = d.snapshot)

/-- A manual change of a running experiment cannot be recorded, and a rollback
to the oldest revision ends in a known snapshot. -/
def Replayable (r : Reconciler Spec) (w : World Spec) : Event Spec → Prop
  | .reconcile _ =>
    (w.server.dda.status.phase = some .running →
      manuallyChanged w.server.revisions w.server.dda →
      ¬NoCollision r w.server.revisions w.server.dda.snapshot) ∧
    ∀ rev ∈ w.server.revisions, (∀ rev' ∈ w.server.revisions, rev.revision ≤ rev'.revision) →
      RestoresKnown r w rev
  | _ => True

section
variable {r : Reconciler Spec} {w : World Spec}

instance (rev : ControllerRevision Spec) : Decidable (RestoresKnown r w rev) :=
  inferInstanceAs (Decidable ((_ → _ → _ ∨ _ → _ ∨ _) ∧ _))

instance : (e : Event Spec) → Decidable (Replayable r w e)
  | .reconcile _ => inferInstanceAs (Decidable (_ ∧ ∀ rev ∈ w.server.revisions, _))
  | .edit .. | .daemon .. | .tick _ => isTrue trivial

/-- Without failing calls on revisions at most two are stored. -/
def TwoStored (r : Reconciler Spec) (w : World Spec) : Prop :=
  ∃ h, Ledger r w.server.revisions h ∧ h.length ≤ 2

theorem TwoStored.step (hw : TwoStored r w) {e : Event Spec} (he : e.StatusFaultsOnly) :
    TwoStored r (w.step r e) := by
  obtain ⟨h, hl, hlen⟩ := hw
  cases e with
  | edit spec annotations => exact ⟨h, hl, hlen⟩
  | daemon op spec =>
    refine ⟨h, ?_, hlen⟩
    rw [World.step_daemon_server]
    exact hl
  | tick elapsed => exact ⟨h, hl, hlen⟩
  | reconcile env =>
    rcases reconcile_ledger_cases w.now he.alone env.alone_alone hl hlen with hl' | ⟨-, hl'⟩
    · exact ⟨h, hl', hlen⟩
    · exact ⟨_, hl', length_record_le hlen _ _⟩

theorem Replayable.repeats (hc : Replayable r w (.reconcile env))
    (hl : Ledger r w.server.revisions h) (hv : w.verdict r ≠ .keep) :
    (w.verdict r).Repeats r h w.server.dda.snapshot := by
  obtain ⟨habort, hoverlay⟩ := hc
  cases hverdict : w.verdict r with
  | keep => exact hv hverdict
  | start | promote => trivial
  | abort =>
    obtain ⟨hp, hm⟩ := verdict_eq_abort.mp hverdict
    simpa [Verdict.Repeats, hl.noCollision_iff] using habort hp hm
  | restore reason =>
    obtain ⟨hp, hm, hwhy⟩ := verdict_eq_restore hverdict
    intro t ht
    obtain ⟨rev, hrev, rfl, hold⟩ := hl.last_revision ht
    rw [← restored_snapshot w.server.dda (hl.ok.datadog rev hrev), hl.mem_iff]
    refine (hoverlay rev hrev hold).1 hp hm ?_
    rcases hwhy with ⟨-, hs⟩ | ⟨-, -, hprom, htime, -⟩
    · exact .inl hs
    · exact .inr ⟨hprom, htime⟩
  | recover =>
    obtain ⟨hp, hs, hat⟩ := verdict_eq_recover.mp hverdict
    intro t ht
    obtain ⟨rev, hrev, rfl, hold⟩ := hl.last_revision ht
    rw [← restored_snapshot w.server.dda (hl.ok.datadog rev hrev)]
    exact (hoverlay rev hrev hold).2 hp hs hat

theorem TwoStored.replaysSignal (hw : TwoStored r w) (he : e.StatusFaultsOnly)
    (hc : Replayable r w e) : ReplaysSignal r w e := by
  cases e with
  | edit | daemon | tick => trivial
  | reconcile env =>
    obtain ⟨h, hl, hlen⟩ := hw
    have henv : env.alone.ExperimentCallsOk := (Env.StatusFaultsOnly.alone he).toExperimentCallsOk
    have hnew : (reconcileInstance r env.alone w.now w.server.dda w.server).2.newStatus.experiment =
        (w.verdict r).experiment w.now w.server.dda true := by
      rw [reconcileInstance_newStatus, rollbackSucceeds_of_callsOk henv env.alone_alone hl]
      simp [henv.hold, henv.listRevisions, World.verdict]
    have hkeep (hv : w.verdict r = .keep) :
        (reconcileInstance r env.alone w.now w.server.dda w.server).2.newStatus.experiment =
          w.server.dda.status.experiment := by
      rw [hnew, hv]
      rfl
    refine ⟨fun _ _ _ hcall => reconcile_clear_settled hcall, ?_, ?_⟩
    · intro hchange
      refine (reconcile_fleetSame w.now hl.ok env.alone_alone fun hv => ?_).signal
      rcases hchange with hne | hne
      · exact hne (congrArg (·.bind (·.phase)) (hkeep hv))
      · exact hne (congrArg (fun e => (e.map (·.id)).getD "") (hkeep hv))
    · intro hchange attempts hlost
      have hv : w.verdict r ≠ .keep := fun hv =>
        hchange (congrArg (·.bind (·.phase)) (hkeep hv))
      have hr : Replays r (w.verdict r) w.server.dda.status (w.server, w.now) :=
        ⟨rfl, rfl, h, hl, hlen, hc.repeats hl hv⟩
      have hend := hr.run attempts hlost
      obtain ⟨_, hl', -, -⟩ := hend.ledger
      obtain ⟨hexp, -⟩ := reconcile_persists (Runs.run (lose r) (w.server, w.now) attempts).2
        Env.clean_agentCallsOk Env.clean_alone hl'
      dsimp only
      rw [DatadogAgentStatus.phase, hexp, hend.again, DatadogAgentStatus.phase, hnew]
      exact Verdict.experiment_phase_congr _ hend.status _ _

end

/-- Over every run in which only status writes are lost. -/
theorem signals_survive_lost_writes (r : Reconciler Spec) (dda : DatadogAgent Spec) (now : Time)
    (es : List (Event Spec)) (hfaults : ∀ e ∈ es, e.StatusFaultsOnly)
    (h : Runs.Along (World.step r) (Replayable r) (.init dda now) es) :
    Runs.Along (World.step r) (ReplaysSignal r) (.init dda now) es :=
  Runs.Along.of_invariant (I := TwoStored r) (fun _ _ hw hc => hw.step hc.1)
    (fun _ _ hw hc => hw.replaysSignal hc.1 hc.2) ⟨[], .nil, Nat.zero_le _⟩
    ((Runs.Along.of_events hfaults).and h)

/-- A start whose first status write conflicts, and a rollback after which the
operator dies. -/
theorem signals_survive_lost_writes_run :
    let es : List (Event Nat) := [.reconcile .clean, .daemon (operation .start "v1") 1,
      .reconcile { updateStatus := some .conflict }, .reconcile .clean,
      .daemon (operation .stop "v1") 1, .reconcile { crash := true }, .reconcile .clean]
    Runs.Along (World.step numbered) (ReplaysSignal numbered) (.init (numberedAgent 0) 0) es ∧
      (Runs.run (World.step numbered) (.init (numberedAgent 0) 0) (es.take 6)).server.dda.status.phase
        = some .running ∧
      (Runs.run (World.step numbered) (.init (numberedAgent 0) 0) es).server.dda.status.phase
        = some .terminated := by
  intro es
  refine ⟨signals_survive_lost_writes numbered (numberedAgent 0) 0 es ?_ (by decide), by decide,
    by decide⟩
  have hfaults (env : Env Nat) (h : env.ExperimentCallsOk) (h' : env.RevisionCallsOk)
      (hlater : env.later = false) : (Event.reconcile env).StatusFaultsOnly := ⟨h, h', hlater⟩
  simp only [es, List.forall_mem_cons, List.not_mem_nil, false_imp_iff, implies_true, and_true]
  refine ⟨?_, trivial, ?_, ?_, trivial, ?_, ?_⟩ <;>
    exact hfaults _ ⟨rfl, rfl, rfl, rfl, rfl⟩ ⟨rfl, rfl, rfl, fun _ => rfl⟩ rfl

/-- The status write of a start is lost, then the rollback signal restores the
baseline at an unset phase and the operator dies. The next attempt finds the
spec no longer at the highest revision, clears the signal and leaves the phase
unset, where the first attempt had computed Terminated. -/
theorem lost_recovery_is_forgotten :
    ¬Runs.Along (World.step numbered) (ReplaysSignal numbered) (.init (numberedAgent 0) 0)
      [.reconcile .clean, .daemon (operation .start "v1") 1,
        .reconcile { updateStatus := some .conflict }, .daemon (operation .stop "v1") 1,
        .reconcile { crash := true }] := by
  rintro ⟨-, -, -, -, ⟨-, -, hreplay⟩, -⟩
  have hlost : ∀ a ∈ [(({ crash := true } : Env Nat), 0)], a.1.StatusFaultsOnly ∧ a.1.Lost := by
    rintro a ha
    obtain rfl := List.mem_singleton.mp ha
    exact ⟨⟨⟨rfl, rfl, rfl, rfl, rfl⟩, ⟨rfl, rfl, rfl, fun _ => rfl⟩, rfl⟩, .inl rfl⟩
  exact absurd (hreplay (by decide) _ hlost) (by decide)

end DatadogOperator
