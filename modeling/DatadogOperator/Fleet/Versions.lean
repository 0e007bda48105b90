import DatadogOperator.Fleet.Orderly

/-!
# The reported experiment version

The daemon reports an experiment version for its package. Planned tasks,
finished tasks, local ends of experiments and restarts write it, each from
the version of the object it looks at. What it becomes once the worker has
handled every version on its way (`drain`) is the experiment that runs.
-/

namespace DatadogOperator.Fleet

variable {Spec : Type} [DecidableEq Spec]

/-- With nothing on its way to the worker and nothing pending, the reported
version is the ID of the experiment that runs. -/
def ReportsRunning (s : System Spec) : Prop :=
  s.statusUpdates = [] → (∀ key ∈ pendingKeys, s.server.dda.annotations.lookup key = none) →
    (getPackageConfigVersions s.daemon.installerState packageDatadogOperator).2 =
      runningExperimentID s.server.dda

def Event.Rehydrates : Event Spec → Prop
  | .restart _ list => list = none
  | .configs _ | .task .. | .patch _ | .worker .. | .resync | .tick _ | .reconcile _ | .edit .. =>
    True

instance (s : System Spec) : Decidable (ReportsRunning s) := by
  unfold ReportsRunning
  infer_instance

instance : (e : Event Spec) → Decidable e.Rehydrates
  | .restart .. => inferInstanceAs (Decidable (_ = none))
  | .configs _ | .task .. | .patch _ | .worker .. | .resync | .tick _ | .reconcile _ | .edit .. =>
    isTrue trivial

def drain (q : List (DatadogAgent Spec)) (version : String) : String :=
  q.foldl (fun version u => handle u version) version

/-- The version fits the object. The rest of a failed rollback may have any. -/
structure Settles (d : DatadogAgent Spec) (version : String) : Prop where
  running : d.status.phase = some .running → version = d.status.id
  past : d.status.phase ≠ some .running → version = "" ∨ Stuck d

/-! ## Overwriting -/

/-- A function that sets the version, or that keeps or empties it. -/
def Overwrites (f : String → String) : Prop :=
  (∃ c, ∀ version, f version = c) ∨ ∀ version, f version = version ∨ f version = ""

theorem Overwrites.comp (hg : Overwrites g) (hf : Overwrites f) : Overwrites (g ∘ f) := by
  rcases hg with ⟨c, hg⟩ | hg
  · exact .inl ⟨c, fun version => hg _⟩
  · rcases hf with ⟨c, hf⟩ | hf
    · exact .inl ⟨g c, fun version => congrArg g (hf version)⟩
    · refine .inr fun version => ?_
      rcases hf version with h | h
      · rw [Function.comp_apply, h]
        exact hg version
      · rw [Function.comp_apply, h]
        exact .inr ((hg "").elim id id)

theorem Overwrites.idem (hf : Overwrites f) (version : String) : f (f version) = f version := by
  rcases hf with ⟨c, hf⟩ | hf
  · rw [hf, hf]
  · rcases hf version with h | h
    · rw [h, h]
    · rw [h]
      exact (hf "").elim id id

section
variable {d d' u : DatadogAgent Spec} {q : List (DatadogAgent Spec)} {version : String}

section
omit [DecidableEq Spec]

theorem dropEnded_cases (u : DatadogAgent Spec) (version : String) :
    dropEnded u version = version ∨ dropEnded u version = "" := by
  unfold dropEnded
  split
  · split
    · exact .inr rfl
    · exact .inl rfl
  · exact .inl rfl

/-- The worker finishes the pending task, or looks for a local end only. -/
theorem handle_eq (u : DatadogAgent Spec) : (∀ version, handle u version = dropEnded u version) ∨
    ∃ op, pendingOf u = some op ∧ evaluatePendingTask (newDDAStatusSnapshot u) op = (true, none) ∧
      ∀ version, handle u version = if op.intent = .start then op.experimentID else "" := by
  unfold handle
  cases pendingOf u with
  | none => exact .inl fun _ => rfl
  | some op =>
    by_cases hdone : evaluatePendingTask (newDDAStatusSnapshot u) op = (true, none)
    · exact .inr ⟨op, rfl, hdone, fun _ => if_pos hdone⟩
    · exact .inl fun _ => if_neg hdone

theorem handle_overwrites (u : DatadogAgent Spec) : Overwrites (handle u) := by
  rcases handle_eq u with h | ⟨op, -, -, h⟩
  · refine .inr fun version => ?_
    rw [h]
    exact dropEnded_cases u version
  · exact .inl ⟨_, h⟩

theorem drain_overwrites (q : List (DatadogAgent Spec)) : Overwrites (drain q) := by
  induction q with
  | nil => exact .inr fun version => .inl rfl
  | cons u q ih => exact ih.comp (handle_overwrites u)

@[simp] theorem drain_cons : drain (u :: q) version = drain q (handle u version) := rfl

@[simp] theorem drain_append : drain (q ++ [u]) version = handle u (drain q version) := by
  simp [drain]

end

/-! ## Settling -/

section
omit [DecidableEq Spec]

theorem handle_done (hop : pendingOf u = some op)
    (hid : u.status.id = op.experimentID) (hreached : op.intent.reached u.status.phase) :
    handle u version = if op.intent = .start then op.experimentID else "" := by
  simp only [handle, hop]
  rw [if_pos (evaluate_done_iff.mpr ⟨hid, hreached⟩)]

theorem handle_running (hrun : u.status.phase = some .running) : handle u u.status.id = u.status.id := by
  have hdrop : dropEnded u u.status.id = u.status.id := by
    obtain ⟨e, he, hph⟩ := DatadogAgentStatus.exists_of_phase hrun
    simp [dropEnded, he, locallyTerminated, hph]
  rcases handle_eq u with h | ⟨op, -, hdone, h⟩
  · rw [h, hdrop]
  · obtain ⟨hid, hreached⟩ := evaluate_done_iff.mp hdone
    rw [hrun] at hreached
    rw [h]
    cases hi : op.intent with
    | start => exact hid.symm
    | stop | promote =>
      rw [hi] at hreached
      cases hreached

theorem handle_not_running (hrun : u.status.phase ≠ some .running) (version : String) :
    handle u version = dropEnded u version ∨ handle u version = "" := by
  rcases handle_eq u with h | ⟨op, -, hdone, h⟩
  · exact .inl (h version)
  · refine .inr ((h version).trans (if_neg fun hi => ?_))
    have hreached := (evaluate_done_iff.mp hdone).2
    rw [hi] at hreached
    exact hrun (of_decide_eq_true hreached)

theorem handle_empty (hrun : u.status.phase ≠ some .running)
    (hdrop : dropEnded u version = "") : handle u version = "" := by
  rcases handle_not_running hrun version with h | h
  · rw [h, hdrop]
  · exact h

theorem Settles.handle (h : Settles d version) : Settles d (handle d version) := by
  refine ⟨fun hrun => ?_, fun hrun => ?_⟩
  · rw [h.running hrun]
    exact handle_running hrun
  · rcases h.past hrun with rfl | hstuck
    · exact .inl (handle_empty hrun ((dropEnded_cases d "").elim id id))
    · exact .inr hstuck

theorem Settles.congr (h : Settles d version) (hexp : d'.status.experiment = d.status.experiment) :
    Settles d' version := by
  refine ⟨?_, ?_⟩
  · rw [phase_congr hexp, id_congr hexp]
    exact h.running
  · rw [phase_congr hexp, stuck_congr hexp]
    exact h.past

theorem handle_ended (hc : Coherent d) (hbefore : d.status.phase = some .running)
    (hafter : d'.status.experiment = some e) (hid : e.id = d.status.id)
    (hp : pendingOf d' = pendingOf d)
    (hcause : locallyTerminated e ∨ asked d = some .stop ∧ e.phase = some .terminated ∨
      asked d = some .promote ∧ e.phase = some .promoted) :
    Fleet.handle d' d.status.id = "" := by
  have hph := phase_of_experiment hafter
  have hid' : d'.status.id = d.status.id := (id_of_experiment hafter).trans hid
  have hown {intent : PendingIntent} (hasked : asked d = some intent) :
      ∃ op, pendingOf d' = some op ∧ op.intent = intent ∧ d'.status.id = op.experimentID := by
    obtain ⟨op, hop, hi, hopid⟩ := hc.owned intent hasked
    refine ⟨op, hp.trans hop, hi, ?_⟩
    rw [hid', hopid, (hc.running hbefore).2 (annotationID_of_asked hasked)]
  rcases hcause with hlocal | ⟨hasked, hterm⟩ | ⟨hasked, hpromoted⟩
  · have hdrop : dropEnded d' d.status.id = "" := by simp [dropEnded, hafter, hlocal, hid]
    have hrun : d'.status.phase ≠ some .running := by
      rw [hph]
      exact ((isTerminalPhase_iff _).mp (isTerminalPhase_of_locallyTerminated hlocal)).2
    exact handle_empty hrun hdrop
  · obtain ⟨op, hop, hi, hopid⟩ := hown hasked
    rw [handle_done hop hopid (by rw [hi, hph, hterm]; rfl), if_neg (by rw [hi]; nofun)]
  · obtain ⟨op, hop, hi, hopid⟩ := hown hasked
    rw [handle_done hop hopid (by rw [hi, hph, hpromoted]; rfl), if_neg (by rw [hi]; nofun)]

theorem Settles.change (h : Settles d version) (hc : Coherent d) (hch : StatusChange d d')
    (hp : pendingOf d' = pendingOf d) : Settles d' (Fleet.handle d' version) := by
  cases hch with
  | kept same => exact (h.congr same.experiment).handle
  | cleared experiment => exact (h.congr experiment).handle
  | started hasked phase id same =>
    obtain ⟨op, hop, hi, hopid⟩ := hc.owned _ hasked
    refine ⟨fun _ => ?_, fun hrun => absurd phase hrun⟩
    rw [handle_done (hp.trans hop) (id.trans hopid.symm) (by rw [hi, phase]; rfl), if_pos hi, id, hopid]
  | ended before e after id same cause =>
    have hrun := ((isTerminalPhase_iff _).mp (terminal_of_ended after cause)).2
    refine ⟨fun h => absurd h hrun, fun _ => .inl ?_⟩
    rw [h.running before]
    exact handle_ended hc before after id hp cause
  | recovered hasked before e after id phase same =>
    obtain ⟨op, hop, hi, hopid⟩ := hc.owned _ hasked
    have hph := phase_of_experiment after
    have hid : d'.status.id = op.experimentID :=
      ((id_of_experiment after).trans id).trans hopid.symm
    rcases phase with hterm | hnone
    · refine ⟨fun h => ?_, fun _ => .inl ?_⟩
      · rw [hph, hterm] at h
        cases h
      · rw [handle_done (hp.trans hop) hid (by rw [hi, hph, hterm]; rfl), if_neg (by rw [hi]; nofun)]
    · refine ⟨fun h => ?_, fun _ => .inr ⟨hph.trans hnone, by rw [after]; nofun⟩⟩
      rw [hph, hnone] at h
      cases h

theorem settles_rehydrated (d : DatadogAgent Spec) : Settles d (rehydrated d) := by
  unfold rehydrated
  refine ⟨fun hrun => ?_, fun hrun => ?_⟩
  · rw [hrun]
    rfl
  · by_cases hterm : isTerminalPhase d.status.phase
    · exact .inl (if_pos hterm)
    · rw [if_neg hterm]
      by_cases he : d.status.experiment = none
      · rw [DatadogAgentStatus.id, he]
        exact .inl rfl
      · refine .inr ⟨?_, he⟩
        by_contra hnone
        exact hterm ((isTerminalPhase_iff _).mpr ⟨hnone, hrun⟩)

end

variable {r : Reconciler Spec} {s : System Spec} {e : Event Spec}

theorem Moves.settles
    (h : Moves flight e d q version d' q' version') (hc : Coherent d) (he : e.Rehydrates)
    (hs : Settles d (drain q version)) : Settles d' (drain q' version') := by
  cases h with
  | quiet | handled => exact hs
  | resync =>
    rw [drain_append]
    exact hs.handle
  | found hrun =>
    rw [← hs.running hrun, (drain_overwrites q).idem]
    exact hs
  | past hrun hstuck =>
    have hempty : drain q version = "" := (hs.past hrun).resolve_right hstuck
    rw [← hempty, (drain_overwrites q).idem]
    exact hs
  | changed hch hp =>
    rw [drain_append]
    exact hs.change hc hch hp
  | patched req plan op hflight hf =>
    rw [drain_append]
    exact (hs.congr (by rw [(hf.planned.patches d).status])).handle
  | cleared u op hfin hp hsame hp' =>
    rw [drain_append]
    exact (hs.congr hsame.experiment).handle
  | restarted => exact (settles_rehydrated d).handle
  | forgot initialConfigVersion err heq =>
    subst heq
    cases he

structure Tracks (r : Reconciler Spec) (s : System Spec) : Prop where
  coordinated : Coordinated r s
  drained : ∃ version, Sole s.daemon.installerState version ∧
    Settles s.server.dda (drain s.versions version)

theorem Tracks.step (hs : Tracks r s) (he : e.Orderly ∧ e.Rehydrates) : Tracks r (s.step r e) := by
  obtain ⟨version, hsole, hsettles⟩ := hs.drained
  obtain ⟨version', hsole', hmoves⟩ := hs.coordinated.moves hsole he.1
  exact ⟨hs.coordinated.step hsole he.1, version', hsole',
    hmoves.settles hs.coordinated.coherent he.2 hsettles⟩

omit [DecidableEq Spec] in
theorem Tracks.reports (hs : Tracks r s) : ReportsRunning s := by
  intro hempty hkeys
  obtain ⟨version, hsole, hsettles⟩ := hs.drained
  have hversions : s.versions = [] := by
    rw [System.versions, hempty]
    rfl
  rw [hversions] at hsettles
  rw [hsole.get, runningExperimentID_eq]
  split
  · rename_i hrun
    exact hsettles.running hrun
  · rename_i hrun
    have hunstuck := (hs.coordinated.coherent.idle hrun (pendingOf_of_no_keys hkeys)).unstuck
    exact (hsettles.past hrun).resolve_right hunstuck

end

/-- Over every run of a daemon that starts on an object without experiment, whatever
calls of the operator and patches fail. -/
theorem reported_version_is_running (r : Reconciler Spec) (daemon : Daemon Spec)
    (server : Server Spec) (now : Time) (stable : String) (hok : RevisionsOk r server.revisions)
    (hnew : Untouched server.dda)
    (hstate : daemon.installerState =
      [{ package := packageDatadogOperator, stableConfigVersion := stable }])
    (es : List (Event Spec)) (horderly : ∀ e ∈ es, e.Orderly ∧ e.Rehydrates) :
    ReportsRunning (Runs.run (System.step r) (.init daemon server now) es) := by
  refine Tracks.reports (r := r) (Runs.run_invariant (I := Tracks r) ?_ ?_
    (Runs.Along.of_events horderly))
  · exact fun _ _ hs he => hs.step he
  · refine ⟨.init hok hnew daemon now, "", ⟨_, hstate, rfl, rfl⟩, ?_⟩
    have hph := phase_of_none hnew.experiment
    have hsettles : Settles server.dda "" :=
      ⟨fun hrun => (by cases hph.symm.trans hrun), fun _ => .inl rfl⟩
    exact hsettles.handle

theorem untouched_numberedAgent (spec : Nat) : Untouched (numberedAgent spec) :=
  ⟨rfl, fun _ _ => rfl⟩

/-- A start, and a stop that is pending while the worker still handles the start. -/
theorem reported_version_is_running_run :
    let started : List (Event Nat) := [.reconcile .clean, .task (request .start "t1" "v1") (.ok 0),
      .patch none, .reconcile .clean, .worker (.ok 0) none, .worker (.ok 0) none,
      .worker (.ok 0) none, .worker (.ok 0) none]
    let stopped : List (Event Nat) := [.task (request .stop "t2" "" "" "v1") (.ok 0), .patch none,
      .reconcile .clean, .worker (.ok 0) none, .worker (.ok 0) none, .worker (.ok 0) none]
    let s := Runs.run (System.step numbered) numberedSystem started
    let s' := Runs.run (System.step numbered) numberedSystem (started ++ stopped)
    (ReportsRunning s ∧ ReportsRunning s') ∧ s.statusUpdates.isEmpty ∧ s'.statusUpdates.isEmpty ∧
      getPackageConfigVersions s.daemon.installerState packageDatadogOperator = ("", "v1") ∧
      getPackageConfigVersions s'.daemon.installerState packageDatadogOperator = ("", "") := by
  intro started stopped s s'
  have hreports (es : List (Event Nat)) (h : ∀ e ∈ es, e.Orderly ∧ e.Rehydrates) :
      ReportsRunning (Runs.run (System.step numbered) numberedSystem es) :=
    reported_version_is_running numbered numberedDaemon _ 0 "" .nil (untouched_numberedAgent 0) rfl es h
  exact ⟨⟨hreports _ (by decide), hreports _ (by decide)⟩, by decide, by decide, by decide, by decide⟩

/-- The worker handles the start on a read from before the stop task, and clears the
stop. The stop is carried out, and the version of the start stays. -/
theorem reported_version_outlives_experiment :
    let es : List (Event Nat) := [.reconcile .clean, .task (request .start "t1" "v1") (.ok 0),
      .patch none, .reconcile .clean, .task (request .stop "t2") (.ok 0), .patch none,
      .worker (.ok 0) none, .worker (.ok 0) none, .worker (.ok 1) none, .worker (.ok 0) none,
      .worker (.ok 0) none, .reconcile .clean, .worker (.ok 0) none]
    let s := Runs.run (System.step numbered) numberedSystem es
    s.statusUpdates.isEmpty ∧ (∀ key ∈ pendingKeys, s.server.dda.annotations.lookup key = none) ∧
      s.server.dda.status.phase = some .terminated ∧
      (getPackageConfigVersions s.daemon.installerState packageDatadogOperator).2 = "v1" ∧
      ¬ ReportsRunning s := by
  intro es s
  refine ⟨by decide, by decide, by decide, by decide, by decide⟩

end DatadogOperator.Fleet
