import DatadogOperator.History

/-!
# A restoring reconcile among other writers

A reconcile that restores a revision reads the object twice and writes it
twice: the initial read, the re-read and Update of `rollback`, and the final
status write. Users and the remote-config updater may write in between. Each
write of the reconcile is checked against a resource version, but not always
against that of the object it was computed from.
-/

namespace DatadogOperator

variable {Spec : Type} [DecidableEq Spec]

inductive Write (Spec : Type)
  | edit (spec : Spec) (annotations : Annotations)
  | remoteConfig (value : Option RemoteConfigConfiguration)

def Write.apply (d : DatadogAgent Spec) : Write Spec → DatadogAgent Spec
  | .edit spec annotations => userWrite spec annotations d
  | .remoteConfig value =>
    d.commit { d with status := { d.status with remoteConfigConfiguration := value } }

def writes (ws : List (Write Spec)) (d : DatadogAgent Spec) : DatadogAgent Spec :=
  ws.foldl Write.apply d

def editsSpec : List (Write Spec) → DatadogAgent Spec → Bool
  | [], _ => false
  | w :: ws, d => decide ((w.apply d).spec ≠ d.spec) || editsSpec ws (w.apply d)

def editsConfig : List (Write Spec) → DatadogAgent Spec → Bool
  | [], _ => false
  | w :: ws, d =>
    decide ((w.apply d).status.remoteConfigConfiguration ≠ d.status.remoteConfigConfiguration) ||
      editsConfig ws (w.apply d)

section
variable {d d' : DatadogAgent Spec} {ws : List (Write Spec)}

theorem Write.apply_version (w : Write Spec) (d : DatadogAgent Spec) :
    w.apply d = d ∨ d.resourceVersion < (w.apply d).resourceVersion := by
  have hcommit (new : DatadogAgent Spec) :
      d.commit new = d ∨ d.resourceVersion < (d.commit new).resourceVersion := by
    unfold DatadogAgent.commit
    split
    · exact .inl rfl
    · exact .inr (Nat.lt_succ_self _)
  cases w with
  | edit spec annotations => exact hcommit _
  | remoteConfig value => exact hcommit _

theorem writes_version (ws : List (Write Spec)) (d : DatadogAgent Spec) :
    writes ws d = d ∨ d.resourceVersion < (writes ws d).resourceVersion := by
  induction ws generalizing d with
  | nil => exact .inl rfl
  | cons w ws ih =>
    have hrest : writes (w :: ws) d = writes ws (w.apply d) := rfl
    rw [hrest]
    rcases w.apply_version d with hw | hw
    · rw [hw]
      exact ih d
    · rcases ih (w.apply d) with hws | hws
      · rw [hws]
        exact .inr hw
      · exact .inr (Nat.lt_trans hw hws)

theorem writes_eq_iff : (writes ws d).resourceVersion = d.resourceVersion ↔ writes ws d = d := by
  constructor
  · intro h
    rcases writes_version ws d with hsame | hlt
    · exact hsame
    · exact absurd h (Nat.ne_of_gt hlt)
  · intro h
    rw [h]

theorem writes_le (ws : List (Write Spec)) (d : DatadogAgent Spec) :
    d.resourceVersion ≤ (writes ws d).resourceVersion := by
  rcases writes_version ws d with h | h
  · rw [h]
  · exact Nat.le_of_lt h

theorem not_edits_of_eq (h : writes ws d = d) : editsSpec ws d = false ∧ editsConfig ws d = false := by
  induction ws generalizing d with
  | nil => exact ⟨rfl, rfl⟩
  | cons w ws ih =>
    have hw : w.apply d = d := by
      rcases w.apply_version d with hw | hw
      · exact hw
      · have hle := writes_le ws (w.apply d)
        rw [show writes ws (w.apply d) = d from h] at hle
        exact absurd hw (Nat.not_lt.mpr hle)
    have hws : writes ws d = d := by
      rw [← hw]
      exact (show writes ws (w.apply d) = d from h).trans hw.symm
    obtain ⟨hs, hc⟩ := ih hws
    simp only [editsSpec, editsConfig, hw, hs, hc]
    simp

theorem writes_config (h : editsConfig ws d = false) :
    (writes ws d).status.remoteConfigConfiguration = d.status.remoteConfigConfiguration := by
  induction ws generalizing d with
  | nil => rfl
  | cons w ws ih =>
    obtain ⟨hw, hws⟩ : (w.apply d).status.remoteConfigConfiguration =
        d.status.remoteConfigConfiguration ∧ editsConfig ws (w.apply d) = false := by
      simpa [editsConfig] using h
    exact (ih hws).trans hw

end

/-! ## Rollback with other writers -/

structure Others (Spec : Type) where
  beforeReread : List (Write Spec) := []
  beforeUpdate : List (Write Spec) := []
  beforeStatus : List (Write Spec) := []

def Env.among (env : Env Spec) (o : Others Spec) : Env Spec :=
  { env with
    beforeReread := writes o.beforeReread
    beforeUpdate := writes o.beforeUpdate
    beforeStatus := writes o.beforeStatus }

section
variable {env : Env Spec} {o : Others Spec} {p : Pass Spec} {cr : ControllerRevision Spec}
  {target : String}

def Others.reread (o : Others Spec) (d : DatadogAgent Spec) : DatadogAgent Spec :=
  writes o.beforeReread d

/-- What `rollback` does with the object `d`, by the place of the others'
writes; `version` is the one of the initial read. -/
inductive RolledBack (o : Others Spec) (data : RevisionSnapshot Spec) (d : DatadogAgent Spec)
    (version : Nat) : Except Error Unit → Pass Spec → Prop
  | skipped (q : Pass Spec) : (o.reread d).snapshot = data →
      q.server.dda = writes o.beforeUpdate (o.reread d) →
      q.resourceVersion = (o.reread d).resourceVersion → q.calls = [] →
      RolledBack o data d version (.ok ()) q
  | conflicted (q : Pass Spec) : writes o.beforeUpdate (o.reread d) ≠ o.reread d →
      q.server.dda = writes o.beforeUpdate (o.reread d) →
      q.resourceVersion = version → q.calls = [] →
      RolledBack o data d version (.error (.update .conflict)) q
  | updated (q : Pass Spec) : (o.reread d).snapshot ≠ data →
      writes o.beforeUpdate (o.reread d) = o.reread d →
      q.server.dda = (o.reread d).commit (restored data (o.reread d)) →
      q.resourceVersion = q.server.dda.resourceVersion →
      q.calls = [.update (o.reread d) q.server.dda] →
      RolledBack o data d version (.ok ()) q

theorem rollback_rolledBack (henv : env.ExperimentCallsOk) (hp : p.calls = []) (ht : target ≠ "")
    (hcr : p.server.revisions.find? (fun rev => decide (rev.name = target)) = some cr) :
    RolledBack o cr.data p.server.dda p.resourceVersion (rollback (env.among o) target p).1
      (rollback (env.among o) target p).2 := by
  unfold rollback
  simp only [if_neg ht, Env.among, henv.getRevision, hcr, henv.getCurrent, henv.update,
    Pass.interfere, Pass.setDDA]
  split
  · rename_i hsame
    exact .skipped _ hsame rfl rfl hp
  · rename_i hne
    by_cases hw : writes o.beforeUpdate (writes o.beforeReread p.server.dda) =
        writes o.beforeReread p.server.dda
    · have hup (d : DatadogAgent Spec) : d.update (restored cr.data d) =
          .ok (d.commit (restored cr.data d)) := d.update_self _ rfl
      rw [hw, hup]
      exact .updated _ hne hw rfl rfl (by simp [hp, Others.reread])
    · have hrv : (restored cr.data (writes o.beforeReread p.server.dda)).resourceVersion ≠
          (writes o.beforeUpdate (writes o.beforeReread p.server.dda)).resourceVersion :=
        fun heq => hw (writes_eq_iff.mp heq.symm)
      rw [DatadogAgent.update, if_neg hrv]
      exact .conflicted _ hw rfl rfl hp

theorem RolledBack.congr (h : RolledBack o data d version result q)
    (hdda : q'.server.dda = q.server.dda) (hversion : q'.resourceVersion = q.resourceVersion)
    (hcalls : q'.calls = q.calls) : RolledBack o data d version result q' := by
  cases h with
  | skipped _ h1 h2 h3 h4 =>
    exact .skipped _ h1 (hdda.trans h2) (hversion.trans h3) (hcalls.trans h4)
  | conflicted _ h1 h2 h3 h4 =>
    exact .conflicted _ h1 (hdda.trans h2) (hversion.trans h3) (hcalls.trans h4)
  | updated _ h1 h2 h3 h4 h5 =>
    refine .updated _ h1 h2 (hdda.trans h3) ?_ ?_
    · rw [hversion, hdda, h4]
    · rw [hcalls, hdda, h5]

theorem restorePreviousSpec_config (env : Env Spec) (reason : TerminationReason) (p : Pass Spec) :
    (restorePreviousSpec env reason p).2.newStatus.remoteConfigConfiguration =
      p.newStatus.remoteConfigConfiguration := by
  rcases restorePreviousSpec_cases env p reason with
    ⟨_, -, hr⟩ | ⟨q, rfl, -, hr | ⟨rev, hr⟩⟩ <;> rw [hr] <;> simp [Pass.setExperiment]

theorem Verdict.act_restores {v : Verdict} (hv : v.restores) (env : Env Spec) (now : Time)
    (inst : DatadogAgent Spec) (p : Pass Spec) :
    ∃ reason newStatus,
      newStatus.remoteConfigConfiguration = p.newStatus.remoteConfigConfiguration ∧
      v.act env now inst p = restorePreviousSpec env reason { p with newStatus } := by
  cases v with
  | keep | start | promote | abort => cases hv
  | restore reason => exact ⟨reason, p.newStatus, rfl, rfl⟩
  | recover => exact ⟨.stopped, { p.newStatus with experiment := some { id := inst.annotationID } }, rfl, rfl⟩

end

section
variable {r : Reconciler Spec} {env : Env Spec} {o : Others Spec} {s : Server Spec}
  {cr : ControllerRevision Spec}

theorem Env.AgentCallsOk.among (h : env.AgentCallsOk) (o : Others Spec) :
    (env.among o).AgentCallsOk :=
  ⟨⟨h.hold, h.listRevisions, h.getRevision, h.getCurrent, h.update⟩, h.crash, h.later,
    h.updateStatus⟩

theorem restored_experiment_ne (hv : (verdict r now s.revisions s.dda).restores) :
    (verdict r now s.revisions s.dda).experiment now s.dda true ≠ s.dda.status.experiment := by
  intro heq
  have hphase := congrArg (·.bind (·.phase)) heq
  cases hverdict : verdict r now s.revisions s.dda with
  | keep | start | promote | abort => rw [hverdict] at hv; cases hv
  | restore reason =>
    obtain ⟨hp, -⟩ := verdict_eq_restore hverdict
    obtain ⟨e, he, hrun⟩ := DatadogAgentStatus.exists_of_phase hp
    simp [hverdict, Verdict.experiment, he, hrun] at hphase
  | recover =>
    obtain ⟨hp, -⟩ := verdict_eq_recover.mp hverdict
    rw [hverdict] at hphase
    exact absurd (hphase.trans hp) (by simp [Verdict.experiment])

theorem reconcile_among (henv : env.AgentCallsOk) (now : Time)
    (hv : (verdict r now s.revisions s.dda).restores)
    (ht : findRollbackTarget s.revisions ≠ "")
    (hcr : s.revisions.find? (fun rev => decide (rev.name = findRollbackTarget s.revisions)) =
      some cr) :
    ∃ result p err, RolledBack o cr.data s.dda s.dda.resourceVersion result p ∧
      p.newStatus.remoteConfigConfiguration = s.dda.status.remoteConfigConfiguration ∧
      (result = .ok () → p.newStatus.experiment ≠ s.dda.status.experiment) ∧
      (∀ e, result = .error e → err = some e) ∧
      (result = .ok () → ∀ e, err ≠ some (.update e)) ∧
      (settled r (env.among o) now s).server.dda = p.server.dda ∧
      reconcileInstance r (env.among o) now s.dda s =
        updateStatusIfNeeded (env.among o) s.dda p.newStatus err p := by
  have henv' := henv.among o
  obtain ⟨reason, newStatus, hconfig, hact⟩ :=
    Verdict.act_restores hv (env.among o) now s.dda (.begin s.dda s)
  have hsettled : settled r (env.among o) now s =
      (restorePreviousSpec (env.among o) reason { Pass.begin s.dda s with newStatus }).2 := by
    rw [settled_eq now henv'.toExperimentCallsOk, hact]
  have hfst := restorePreviousSpec_fst (env.among o) { Pass.begin s.dda s with newStatus } reason
  have hsame :=
    restorePreviousSpec_rollback (env.among o) { Pass.begin s.dda s with newStatus } reason
  rw [← hsettled] at hsame
  have hback : RolledBack o cr.data s.dda s.dda.resourceVersion
      (rollback (env.among o) (findRollbackTarget s.revisions)
        { Pass.begin s.dda s with newStatus }).1
      (rollback (env.among o) (findRollbackTarget s.revisions)
        { Pass.begin s.dda s with newStatus }).2 :=
    rollback_rolledBack (p := { Pass.begin s.dda s with newStatus }) henv.toExperimentCallsOk rfl
      ht hcr
  have hrc : (settled r (env.among o) now s).newStatus.remoteConfigConfiguration =
      s.dda.status.remoteConfigConfiguration := by
    rw [hsettled, restorePreviousSpec_config]
    exact hconfig
  have hexp : (rollback (env.among o) (findRollbackTarget s.revisions)
        { Pass.begin s.dda s with newStatus }).1 = .ok () →
      (settled r (env.among o) now s).newStatus.experiment ≠ s.dda.status.experiment := by
    intro hok
    have hsucc := (rollback_ok_iff (env.among o) _ _).mp hok
    rw [settled_eq now henv'.toExperimentCallsOk, act_experiment _ _ _ _ _ rfl]
    rw [show rollbackSucceeds (env.among o) (findRollbackTarget (Pass.begin s.dda s).revList)
      (Pass.begin s.dda s).server = true from hsucc]
    exact restored_experiment_ne hv
  obtain ⟨err, p, hma, hrec, hend⟩ := reconcile_ends (r := r) (s := s) now henv'
  rw [hact, hfst] at hend
  obtain ⟨hdda, hversion, hcalls⟩ := hsame
  refine ⟨_, p, err, hback.congr (hma.dda.trans hdda) (hma.resourceVersion.trans hversion)
    (hma.calls.trans hcalls), ?_, ?_, ?_, ?_, hma.dda.symm, hrec⟩
  · rw [hma.newStatus]
    exact hrc
  · intro hok
    rw [hma.newStatus]
    exact hexp hok
  · intro e he
    rw [show (rollback (env.among o) (findRollbackTarget (Pass.begin s.dda s).revList)
      { Pass.begin s.dda s with newStatus }).1 = .error e from he] at hend
    exact hend
  · intro hok
    rw [show (rollback (env.among o) (findRollbackTarget (Pass.begin s.dda s).revList)
      { Pass.begin s.dda s with newStatus }).1 = .ok () from hok] at hend
    exact hend.2

theorem updateStatusIfNeeded_among (henv : env.AgentCallsOk) (inst : DatadogAgent Spec)
    (err : Option Error) (p : Pass Spec) :
    let out := updateStatusIfNeeded (env.among o) inst p.newStatus err p
    let d := writes o.beforeStatus p.server.dda
    (p.newStatus.experiment = inst.status.experiment ∧ out = (.finished err, p)) ∨
      (d.resourceVersion ≠ p.resourceVersion ∧ out.1 = .requeued ∧ out.2.calls = p.calls) ∨
      (d.resourceVersion = p.resourceVersion ∧ out.1 = .finished err ∧
        ∃ new, out.2.calls = p.calls ++ [.status d new] ∧
          new.status.remoteConfigConfiguration = p.newStatus.remoteConfigConfiguration) := by
  unfold updateStatusIfNeeded
  dsimp only
  split
  · rename_i heq
    refine .inl ⟨?_, rfl⟩
    rw [← heq]
    rfl
  · simp only [Env.among, henv.updateStatus, Pass.interfere, Pass.setDDA, DatadogAgent.updateStatus]
    split
    · rename_i herr
      split at herr
      · cases herr
      · rename_i hne
        exact .inr (.inl ⟨Ne.symm hne, rfl, rfl⟩)
    · rename_i dda hok
      split at hok
      · rename_i heq
        cases hok
        refine .inr (.inr ⟨heq.symm, rfl, _, rfl, ?_⟩)
        simp [withReconcileError]
      · cases hok

end

/-! ## When the reconcile respects the others -/

def Result.conflicts : Result → Bool
  | .requeued => true
  | .finished (some (.update .conflict)) => true
  | _ => false

/-- A spec or a `remoteConfigConfiguration` of others is committed after the
initial read of `d`; `final` is the object before the status write. -/
def Others.commit (o : Others Spec) (d final : DatadogAgent Spec) : Bool :=
  editsSpec o.beforeReread d || editsConfig o.beforeReread d ||
    editsSpec o.beforeUpdate (o.reread d) || editsConfig o.beforeUpdate (o.reread d) ||
    editsSpec o.beforeStatus final || editsConfig o.beforeStatus final

/-- The Update replaces no spec edited since the initial read, the status write
no `remoteConfigConfiguration` written since, and any such write ends the
reconcile in a conflict. -/
def Respects (r : Reconciler Spec) (env : Env Spec) (now : Time) (s : Server Spec)
    (o : Others Spec) : Prop :=
  let out := reconcileInstance r (env.among o) now s.dda s
  (∀ old new, .update old new ∈ out.2.calls →
    editsSpec o.beforeReread s.dda || editsSpec o.beforeUpdate (o.reread s.dda) →
    new.spec = old.spec) ∧
  (∀ old new, .status old new ∈ out.2.calls →
    old.status.remoteConfigConfiguration ≠ s.dda.status.remoteConfigConfiguration →
    new.status.remoteConfigConfiguration = old.status.remoteConfigConfiguration) ∧
  (o.commit s.dda (settled r (env.among o) now s).server.dda → out.1.conflicts)

/-- Nobody changed spec or `remoteConfigConfiguration` before the re-read; or
somebody wrote between the re-read and the Update; or somebody wrote before the
status write, and the re-read had no edited spec to lose. -/
def WritesSeen (o : Others Spec) (data : RevisionSnapshot Spec) (d : DatadogAgent Spec) : Prop :=
  let reread := o.reread d
  let final := if reread.snapshot = data then reread else reread.commit (restored data reread)
  (editsSpec o.beforeReread d = false ∧ editsConfig o.beforeReread d = false) ∨
    writes o.beforeUpdate reread ≠ reread ∨
    (writes o.beforeStatus final ≠ final ∧ ¬(editsSpec o.beforeReread d ∧ reread.spec ≠ data.spec))

section
variable {o : Others Spec} {d final : DatadogAgent Spec}

theorem Others.commit_eq (hu : writes o.beforeUpdate (o.reread d) = o.reread d)
    (hs : writes o.beforeStatus final = final) :
    o.commit d final = (editsSpec o.beforeReread d || editsConfig o.beforeReread d) := by
  obtain ⟨h1, h2⟩ := not_edits_of_eq hu
  obtain ⟨h3, h4⟩ := not_edits_of_eq hs
  simp [Others.commit, h1, h2, h3, h4]

theorem Result.not_conflicts {err : Option Error} (h : ∀ e, err ≠ some (.update e)) :
    (Result.finished err).conflicts = false := by
  unfold Result.conflicts
  split
  · rename_i heq
    cases heq
  · rename_i heq
    cases heq
    exact absurd rfl (h _)
  · rfl

theorem respects_of_finished {updates statuses : DatadogAgent Spec → DatadogAgent Spec → Prop}
    (hu : writes o.beforeUpdate (o.reread d) = o.reread d)
    (hs : writes o.beforeStatus final = final)
    (hstatus : ∀ old new, statuses old new →
      old.status.remoteConfigConfiguration = (o.reread d).status.remoteConfigConfiguration) :
    ((∀ old new, updates old new →
        editsSpec o.beforeReread d || editsSpec o.beforeUpdate (o.reread d) → new.spec = old.spec) ∧
      (∀ old new, statuses old new →
        old.status.remoteConfigConfiguration ≠ d.status.remoteConfigConfiguration →
        new.status.remoteConfigConfiguration = old.status.remoteConfigConfiguration) ∧
      (o.commit d final → false)) ↔
      (editsSpec o.beforeReread d = false ∧ editsConfig o.beforeReread d = false) := by
  rw [o.commit_eq hu hs, (not_edits_of_eq hu).1]
  constructor
  · rintro ⟨-, -, hnone⟩
    simpa using hnone
  · rintro ⟨hspec, hconfig⟩
    refine ⟨fun _ _ _ h => ?_, fun old new hcall hne => ?_, fun h => ?_⟩
    · simp [hspec] at h
    · exact absurd ((hstatus old new hcall).trans (writes_config hconfig)) hne
    · simp [hspec, hconfig] at h

end

/-- For every restoring reconcile among any writes of others. -/
theorem restore_respects_others_iff (r : Reconciler Spec) (env : Env Spec) (now : Time)
    (s : Server Spec) (o : Others Spec) (cr : ControllerRevision Spec)
    (henv : env.AgentCallsOk) (hv : (verdict r now s.revisions s.dda).restores)
    (ht : findRollbackTarget s.revisions ≠ "")
    (hcr : s.revisions.find? (fun rev => decide (rev.name = findRollbackTarget s.revisions)) =
      some cr) :
    Respects r env now s o ↔ WritesSeen o cr.data s.dda := by
  obtain ⟨result, p, err, hback, hrc, hexp, herr, hnoerr, hfinal, hrec⟩ :=
    reconcile_among (o := o) henv now hv ht hcr
  have hwrite := updateStatusIfNeeded_among (o := o) henv s.dda err p
  unfold Respects
  rw [hrec, hfinal]
  generalize updateStatusIfNeeded (env.among o) s.dda p.newStatus err p = out at hwrite ⊢
  dsimp only at hwrite ⊢
  cases hback with
  | skipped _ hsnap hdda hversion hcalls =>
    have hlast : (if (o.reread s.dda).snapshot = cr.data then o.reread s.dda
        else (o.reread s.dda).commit (restored cr.data (o.reread s.dda))) = o.reread s.dda :=
      if_pos hsnap
    have hspec : (o.reread s.dda).spec = cr.data.spec := congrArg RevisionSnapshot.spec hsnap
    rcases hwrite with ⟨heq, -⟩ | ⟨hver, hres, hout⟩ | ⟨hver, hres, new, hout, -⟩
    · exact absurd heq (hexp rfl)
    · rw [hout, hcalls, hres]
      refine iff_of_true ⟨by simp, by simp, fun _ => rfl⟩ ?_
      by_cases hu : writes o.beforeUpdate (o.reread s.dda) = o.reread s.dda
      · refine .inr (.inr ⟨?_, fun h => h.2 hspec⟩)
        rw [hlast]
        intro hs
        rw [hdda, hu, hs] at hver
        exact hver hversion.symm
      · exact .inr (.inl hu)
    · have hle := writes_le o.beforeUpdate (o.reread s.dda)
      have hle' := writes_le o.beforeStatus p.server.dda
      rw [hver, hversion, hdda] at hle'
      have hu : writes o.beforeUpdate (o.reread s.dda) = o.reread s.dda :=
        writes_eq_iff.mp (Nat.le_antisymm hle' hle)
      have hp : p.server.dda = o.reread s.dda := hdda.trans hu
      have hs : writes o.beforeStatus p.server.dda = p.server.dda := by
        rw [← writes_eq_iff, hver, hversion, hp]
      rw [hout, hcalls, hres, Result.not_conflicts (hnoerr rfl),
        respects_of_finished hu hs fun old new h => ?_]
      · unfold WritesSeen
        dsimp only
        rw [hlast, hu, ← hp, hs]
        simp
      · obtain ⟨rfl, -⟩ : old = writes o.beforeStatus p.server.dda ∧ new = _ := by
          simpa using h
        rw [hs, hp]
  | conflicted _ hw hdda hversion hcalls =>
    obtain rfl := herr _ rfl
    refine iff_of_true ?_ (.inr (.inl hw))
    rcases hwrite with ⟨-, hout⟩ | ⟨-, hres, hout⟩ | ⟨hver, -⟩
    · rw [hout, hcalls]
      exact ⟨by simp, by simp, fun _ => rfl⟩
    · rw [hout, hcalls, hres]
      exact ⟨by simp, by simp, fun _ => rfl⟩
    · -- The version of the initial read is behind the write the Update met.
      have hlt := (writes_version o.beforeUpdate (o.reread s.dda)).resolve_left hw
      have hle := writes_le o.beforeReread s.dda
      have hle' := writes_le o.beforeStatus p.server.dda
      rw [hver, hversion, hdda] at hle'
      exact absurd (Nat.lt_of_lt_of_le (Nat.lt_of_le_of_lt hle hlt) hle') (Nat.lt_irrefl _)
  | updated _ hsnap hw hdda hversion hcalls =>
    have hlast : (if (o.reread s.dda).snapshot = cr.data then o.reread s.dda
        else (o.reread s.dda).commit (restored cr.data (o.reread s.dda))) = p.server.dda := by
      rw [if_neg hsnap]
      exact hdda.symm
    have hspec : p.server.dda.spec = cr.data.spec := by
      rw [hdda, DatadogAgent.commit_spec]
      rfl
    rcases hwrite with ⟨heq, -⟩ | ⟨hver, hres, hout⟩ | ⟨hver, hres, new, hout, -⟩
    · exact absurd heq (hexp rfl)
    · have hs : writes o.beforeStatus p.server.dda ≠ p.server.dda := by
        intro hs
        rw [hs] at hver
        exact hver hversion.symm
      rw [hout, hcalls, hres]
      unfold WritesSeen
      dsimp only
      rw [hlast, hw, (not_edits_of_eq hw).1]
      simp only [List.mem_singleton, Call.update.injEq, reduceCtorEq,
        false_imp_iff, implies_true, true_and, Bool.or_false, ne_eq, not_true_eq_false, false_or, hs,
        not_false_eq_true]
      constructor
      · rintro ⟨hupdate, -⟩
        refine .inr fun ⟨hedit, hne⟩ => hne ?_
        rw [← hspec]
        exact (hupdate _ _ ⟨rfl, rfl⟩ hedit).symm
      · intro hseen
        refine ⟨?_, fun _ => rfl⟩
        rintro old new ⟨rfl, rfl⟩ hedit
        rcases hseen with ⟨hno, -⟩ | hseen
        · rw [hno] at hedit
          cases hedit
        · rw [hspec]
          by_contra hne
          exact hseen ⟨hedit, Ne.symm hne⟩
    · have hs : writes o.beforeStatus p.server.dda = p.server.dda := by
        rw [← writes_eq_iff, hver, hversion]
      rw [hout, hcalls, hres, Result.not_conflicts (hnoerr rfl),
        respects_of_finished hw hs fun old new h => ?_]
      · unfold WritesSeen
        dsimp only
        rw [hlast, hw, hs]
        simp
      · obtain ⟨rfl, -⟩ : old = writes o.beforeStatus p.server.dda ∧ new = _ := by
          simpa using h
        rw [hs, hdda, DatadogAgent.commit_status]
        rfl

/-- Spec 1 runs over the baseline 0 and is to be rolled back. -/
def rollingBack : Server Nat :=
  (Runs.run (World.step numbered) (.init (numberedAgent 0) 0) [.reconcile .clean,
    .daemon (operation .start "v1") 1, .reconcile .clean, .daemon (operation .stop "v1") 1]).server

theorem restore_respects_others_edit :
    Respects numbered .clean 0 rollingBack { beforeUpdate := [.edit 2 ∅] } ∧
      (reconcileInstance numbered (Env.clean.among { beforeUpdate := [.edit 2 ∅] }) 0
        rollingBack.dda rollingBack).2.server.dda.spec = 2 :=
  ⟨(restore_respects_others_iff numbered .clean 0 rollingBack { beforeUpdate := [.edit 2 ∅] }
      (numbered.newControllerRevision ⟨0, ∅⟩ 1) Env.clean_agentCallsOk (by decide) (by decide)
      (by decide)).mpr (.inr (.inl (by decide))), by decide⟩

/-- A spec edit and a `remoteConfigConfiguration` committed between the initial
read and the re-read are both overwritten, without a conflict. -/
theorem restore_overwrites_others : let edit : Others Nat := { beforeReread := [.edit 2 ∅] }
    let config : Others Nat := { beforeReread := [.remoteConfig (some ⟨some "cws"⟩)] }
    (¬Respects numbered .clean 0 rollingBack edit ∧ (reconcileInstance numbered
      (Env.clean.among edit) 0 rollingBack.dda rollingBack).2.server.dda.spec = 0) ∧
    (¬Respects numbered .clean 0 rollingBack config ∧ (reconcileInstance numbered
      (Env.clean.among config) 0 rollingBack.dda
        rollingBack).2.server.dda.status.remoteConfigConfiguration = none) := by
  intro edit config
  refine ⟨⟨?_, by decide⟩, ⟨?_, by decide⟩⟩
  · rintro ⟨-, -, hconflict⟩
    exact absurd (hconflict (by decide)) (by decide)
  · rintro ⟨-, -, hconflict⟩
    exact absurd (hconflict (by decide)) (by decide)

end DatadogOperator
