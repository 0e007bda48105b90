import DatadogOperator.Fleet.Versions

/-!
# The published stable version

A promote publishes the experiment version of the installer state as the
stable version, and promotes the experiment of the status. The two are the
same once no start or stop of the experiment is pending any more, because
every version of the object that could still change the installer state is
then one of this experiment.
-/

namespace DatadogOperator.Fleet

variable {Spec : Type} [DecidableEq Spec]

/-- The version of the object on which the daemon reports a promote as done, and
the package it is for. -/
def System.promoted (s : System Spec) : Event Spec → Option (DatadogAgent Spec × String)
  | .task req read =>
    match s.inFlight, s.read read with
    | none, .ok d =>
      match (s.daemon.handleRemoteAPIRequest req (.ok d)).1 with
      | .ok plan =>
        if req.method = .promote ∧ plan.pending = none then some (d, req.package) else none
      | .error _ => none
    | _, _ => none
  | .worker _ _ =>
    match s.inFlight, s.statusUpdates with
    | none, update :: _ =>
      match pendingOf update.dda with
      | some op =>
        if op.intent = .promote ∧
            evaluatePendingTask (newDDAStatusSnapshot update.dda) op = (true, none) then
          some (update.dda, op.packageName)
        else none
      | none => none
    | _, _ => none
  | .configs _ | .patch _ | .resync | .tick _ | .reconcile _ | .edit .. | .restart .. => none

/-- The stable version a promote leaves is the ID of the promoted experiment. -/
def PublishesPromoted (r : Reconciler Spec) (s : System Spec) (e : Event Spec) : Prop :=
  ∀ p ∈ s.promoted e, experimentHasPhase p.1
    (getPackageConfigVersions (s.step r e).daemon.installerState p.2).1 .promoted

instance (r : Reconciler Spec) (s : System Spec) (e : Event Spec) :
    Decidable (PublishesPromoted r s e) := by
  unfold PublishesPromoted
  infer_instance

/-- The experiment is promoted, or nothing but a promote of it can be pending. -/
def Closing (d : DatadogAgent Spec) : Prop :=
  d.status.phase = some .promoted ∨
    d.status.phase = some .running ∧ ∀ op ∈ pendingOf d, op.intent = .promote

/-- No other experiment is reported, and none will be. -/
structure Agrees (d : DatadogAgent Spec) (q : List (DatadogAgent Spec)) (version : String) :
    Prop where
  version : version = "" ∨ version = d.status.id
  versions : ∀ u ∈ q, ∀ op, Finishes u op → op.experimentID = d.status.id

/-- A promote publishes the version it promotes. -/
def Named (op : PendingOperation) : Prop := op.intent = .promote → op.resultVersion = op.experimentID

structure Publishing (r : Reconciler Spec) (s : System Spec) : Prop where
  coordinated : Coordinated r s
  agrees : ∃ version, Sole s.daemon.installerState version ∧
    (Closing s.server.dda → Agrees s.server.dda s.versions version)
  named : ∀ op ∈ pendingOf s.server.dda, Named op
  queued : ∀ u ∈ s.versions, ∀ op ∈ pendingOf u, Named op
  flight : ∀ req plan, s.inFlight = some (req, plan) → ∀ op ∈ plan.pending, Named op

section
variable {d d' u : DatadogAgent Spec} {q q' : List (DatadogAgent Spec)} {version version' : String}
  {r : Reconciler Spec} {s : System Spec} {e : Event Spec} {state : InstallerState}

/-! ## Versions of a package -/

theorem getPackageConfigVersions_updatePackage (state : InstallerState) (package : String)
    (hf : ∀ pkg, (f pkg).package = pkg.package) :
    ∃ pkg, getPackageConfigVersions state package =
        (pkg.stableConfigVersion, pkg.experimentConfigVersion) ∧
      getPackageConfigVersions (updatePackage state package f) package =
        ((f pkg).stableConfigVersion, (f pkg).experimentConfigVersion) := by
  unfold updatePackage
  split
  · rename_i hany
    have hmap : (state.map fun pkg => if pkg.package = package then f pkg else pkg).find?
        (fun pkg => decide (pkg.package = package)) =
          (state.find? fun pkg => decide (pkg.package = package)).map f := by
      clear hany
      induction state with
      | nil => rfl
      | cons pkg state ih =>
        by_cases hp : pkg.package = package
        · simp [hp, hf]
        · simp [hp, ih]
    obtain ⟨pkg, hmem, hpkg⟩ := List.any_eq_true.mp hany
    cases hfind : state.find? fun pkg => decide (pkg.package = package) with
    | none => exact absurd hpkg (List.find?_eq_none.mp hfind pkg hmem)
    | some found =>
      refine ⟨found, ?_, ?_⟩
      · rw [getPackageConfigVersions, hfind]
      · rw [getPackageConfigVersions, hmap, hfind]
        rfl
  · rename_i hnone
    have hfind : state.find? (fun pkg => decide (pkg.package = package)) = none := by
      refine List.find?_eq_none.mpr fun pkg hmem hpkg => hnone ?_
      exact List.any_eq_true.mpr ⟨pkg, hmem, hpkg⟩
    refine ⟨{ package }, ?_, ?_⟩
    · rw [getPackageConfigVersions, hfind]
    · rw [getPackageConfigVersions, List.find?_append, hfind]
      simp [hf]

theorem getPackageConfigVersions_setTaskState (package taskID : String) (task : TaskState) :
    getPackageConfigVersions (setTaskState state package taskID task) package =
      getPackageConfigVersions state package := by
  obtain ⟨pkg, hbefore, hafter⟩ := getPackageConfigVersions_updatePackage state package
    (f := fun pkg => { pkg with task := some (taskID, task) }) fun _ => rfl
  exact hafter.trans hbefore.symm

theorem getPackageConfigVersions_set (package stable experiment : String) :
    getPackageConfigVersions (setPackageConfigVersions state package stable experiment) package =
      (stable, experiment) := by
  obtain ⟨pkg, -, hafter⟩ := getPackageConfigVersions_updatePackage state package
    (f := fun pkg => { pkg with
      stableConfigVersion := stable, experimentConfigVersion := experiment }) fun _ => rfl
  exact hafter

/-! ## Steps -/

section
omit [DecidableEq Spec]

theorem handle_cases (u : DatadogAgent Spec) (version : String) :
    handle u version = version ∨ handle u version = "" ∨
      ∃ op, Finishes u op ∧ handle u version = op.experimentID := by
  rcases handle_eq u with h | ⟨op, hop, hdone, h⟩
  · rw [h]
    exact (dropEnded_cases u version).imp_right .inl
  · rw [h]
    split
    · exact .inr (.inr ⟨op, ⟨hop, by rw [hdone]⟩, rfl⟩)
    · exact .inr (.inl rfl)

theorem Agrees.handle (h : Agrees d (u :: q) version) : Agrees d q (handle u version) := by
  refine ⟨?_, fun v hv => h.versions v (.tail _ hv)⟩
  rcases handle_cases u version with hkept | hempty | ⟨op, hfin, hset⟩
  · rw [hkept]
    exact h.version
  · exact .inl hempty
  · exact .inr (hset.trans (h.versions u (.head _) op hfin))

theorem Agrees.append (h : Agrees d q version) : Agrees d (q ++ [d]) version := by
  refine ⟨h.version, fun u hu op hop => ?_⟩
  rcases List.mem_append.mp hu with hu | hu
  · exact h.versions u hu op hop
  · obtain rfl := List.mem_singleton.mp hu
    exact hop.id

theorem Agrees.sameID (h : Agrees d q version) (hid : d'.status.id = d.status.id) :
    Agrees d' q version := by
  refine ⟨?_, ?_⟩
  · rw [hid]
    exact h.version
  · rw [hid]
    exact h.versions

theorem Agrees.single (h : version = "" ∨ version = d.status.id) : Agrees d [d] version :=
  Agrees.append (q := []) ⟨h, nofun⟩

theorem Closing.congr (h : Closing d') (hexp : d'.status.experiment = d.status.experiment)
    (hp : pendingOf d' = pendingOf d) : Closing d := by
  rw [Closing, phase_congr hexp, hp] at h
  exact h

theorem Closing.change (h : Closing d') (hc : Coherent d) (hch : StatusChange d d')
    (hp : pendingOf d' = pendingOf d) : Closing d ∧ d'.status.id = d.status.id := by
  cases hch with
  | kept same => exact ⟨h.congr same.experiment hp, id_congr same.experiment⟩
  | cleared experiment => exact ⟨h.congr experiment hp, id_congr experiment⟩
  | started hasked phase id same =>
    obtain ⟨op, hop, hi, -⟩ := hc.owned _ hasked
    rcases h with h | ⟨-, h⟩
    · rw [phase] at h
      cases h
    · have hpromote := h op (hp.trans hop)
      rw [hi] at hpromote
      cases hpromote
  | ended before e after id same cause =>
    refine ⟨?_, (id_of_experiment after).trans id⟩
    have hterm := ((isTerminalPhase_iff _).mp (terminal_of_ended after cause)).2
    have hpromoted : e.phase = some .promoted := by
      rw [← phase_of_experiment after]
      exact h.resolve_right fun h => hterm h.1
    rcases cause with hlocal | ⟨-, hph⟩ | ⟨hasked, -⟩
    · simp [locallyTerminated, hpromoted] at hlocal
    · rw [hpromoted] at hph
      cases hph
    · obtain ⟨op, hop, hi, -⟩ := hc.owned _ hasked
      refine .inr ⟨before, fun op' hop' => ?_⟩
      obtain rfl : op = op' := Option.some.inj (hop.symm.trans hop')
      exact hi
  | recovered hasked before e after id phase same =>
    rw [Closing, phase_of_experiment after] at h
    rcases phase with hph | hph <;> rw [hph] at h <;> rcases h with h | ⟨h, -⟩ <;> cases h

end

theorem Fits.closing (hf : Fits d.annotations plan op)
    (h : Closing (patchWith (applyOperation plan.pending plan.patch) d)) : Closing d := by
  rw [Closing, (hf.planned.patches d).status, hf.pendingOf_patch] at h
  refine h.imp_right fun ⟨hrun, hall⟩ => ⟨hrun, ?_⟩
  have hi : op.intent = .promote := hall op rfl
  rcases hf.pending_eq (by rw [hi]; nofun) with hp | hp <;> rw [hp]
  · nofun
  · exact hall

omit [DecidableEq Spec] in
theorem handle_closing (hshows : Shows d u) (hfin : Finishes u op)
    (hrun : d.status.phase = some .running) : handle u version = d.status.id := by
  obtain ⟨hid, hphase⟩ := evaluate_finished hfin.2
  rcases hphase with ⟨hi, hph⟩ | hterm
  · rw [handle_done hfin.1 hid (by rw [hi, hph]; rfl), if_pos hi, ← hid]
    exact hshows.id
  · have hover := hshows.past hterm
    rw [hrun] at hover
    cases hover

theorem Moves.agrees
    (h : Moves flight e d q version d' q' version') (hc : Coherent d) (ho : Ordered d q)
    (hs : Closing d → Agrees d q version) (hd' : Closing d') : Agrees d' q' version' := by
  cases h with
  | quiet => exact hs hd'
  | resync => exact (hs hd').append
  | found hrun => exact ⟨.inr rfl, (hs hd').versions⟩
  | past => exact ⟨.inl rfl, (hs hd').versions⟩
  | changed hch hp =>
    obtain ⟨hclosing, hid⟩ := hd'.change hc hch hp
    exact ((hs hclosing).sameID hid).append
  | patched req plan op hflight hf =>
    exact ((hs (hf.closing hd')).sameID (by rw [(hf.planned.patches d).status])).append
  | handled u => exact (hs hd').handle
  | cleared u op hfin hp hsame hp' =>
    have hid := id_congr hsame.experiment
    rcases hd' with hpromoted | ⟨hrun, -⟩
    · rw [phase_congr hsame.experiment] at hpromoted
      exact ((hs (.inl hpromoted)).handle.sameID hid).append
    · -- Everything on its way is of this experiment now.
      rw [phase_congr hsame.experiment] at hrun
      have hshows := ho.finished hfin hp
      refine (Agrees.sameID ⟨.inr ?_, fun v hv op' hop' => ?_⟩ hid).append
      · exact handle_closing (hshows u (.head _)) hfin hrun
      · rw [hop'.id]
        exact (hshows v (.tail _ hv)).id
  | restarted =>
    refine .single ?_
    unfold rehydrated
    split
    · exact .inl rfl
    · exact .inr rfl
  | forgot => exact .single (.inl rfl)

omit [DecidableEq Spec] in
theorem Planning.named
    (h : Planning state req d plan state') (hpkg : req.package = packageDatadogOperator)
    (hsole : Sole state version) (hs : Closing d → Agrees d q version) :
    ∀ op ∈ plan.pending, Named op := by
  cases h with
  | alreadyRunning | stopped | promoted => nofun
  | again | start | stop =>
    rintro _ ⟨⟩
    nofun
  | promote hm hexp hrun hguard =>
    rintro _ ⟨⟩ -
    obtain ⟨hph, hid⟩ := experimentHasPhase_iff.mp hrun
    have hclosing : Closing d := by
      refine .inr ⟨hph, fun op hop => ?_⟩
      rcases guard_ok hguard op hop with rfl | ⟨-, hstop⟩
      · rfl
      · cases hstop
    rw [hpkg, hsole.get] at hexp
    have hversion := (hs hclosing).version.resolve_left hexp
    simp only [RemoteAPIRequest.operation]
    rw [hpkg, hsole.get, hversion]
    exact hid

theorem Publishing.step (hs : Publishing r s) (he : e.Orderly) : Publishing r (s.step r e) := by
  obtain ⟨version, hsole, hagrees⟩ := hs.agrees
  obtain ⟨version', hsole', hmoves⟩ := hs.coordinated.moves hsole he
  obtain ⟨hnamed, hqueued⟩ := hmoves.pending hs.named hs.queued hs.flight
  refine ⟨hs.coordinated.step hsole he, ⟨version', hsole',
    hmoves.agrees hs.coordinated.coherent hs.coordinated.ordered hagrees⟩, hnamed, hqueued, ?_⟩
  intro req plan hflight
  rcases step_inFlight s hflight with ⟨hflight, -⟩ | ⟨read, rfl, -, hplan⟩
  · exact hs.flight req plan hflight
  · obtain ⟨-, hpkg, hread⟩ := he
    rcases read_current (s := s) hread with hread | ⟨err, hread⟩
    · rw [hread] at hplan
      obtain ⟨-, state, hplanning⟩ := handleTask_some hplan
      exact hplanning.named hpkg hsole hagrees
    · rw [hread, handleTask_error] at hplan
      cases hplan

/-! ## What a promote publishes -/

omit [DecidableEq Spec] in
theorem promoted_task {read : Read} {package : String}
    (h : s.promoted (.task req read) = some (d, package)) :
    s.inFlight = none ∧ s.read read = .ok d ∧ package = req.package ∧ req.method = .promote ∧
      ∃ state, Planning s.daemon.installerState req d {} state ∧
        (s.daemon.handleTask req (.ok d)).1.installerState =
          setTaskState state req.package req.id .done := by
  simp only [System.promoted] at h
  split at h
  · rename_i d' hflight hread
    split at h
    · rename_i plan hplan
      split at h
      · rename_i hdone
        obtain ⟨hm, hnone⟩ := hdone
        obtain ⟨rfl, rfl⟩ := Prod.mk.inj (Option.some.inj h)
        refine ⟨hflight, hread, rfl, hm, ?_⟩
        have hresult : Planning.Result s.daemon.installerState req d'
          (s.daemon.handleRemoteAPIRequest req (.ok d')) := handleRemoteAPIRequest_result
        obtain ⟨state, heq⟩ : ∃ state, s.daemon.handleRemoteAPIRequest req (.ok d') =
          (.ok plan, state) := ⟨_, Prod.ext hplan rfl⟩
        rw [heq] at hresult
        obtain rfl : plan = {} := by
          rcases Planning.nothing_or_planned hresult with rfl | ⟨hsome, -⟩
          · rfl
          · rw [hnone] at hsome
            cases hsome
        refine ⟨state, hresult, ?_⟩
        unfold Daemon.handleTask
        rw [heq]
        rfl
      · cases h
    · cases h
  · cases h

omit [DecidableEq Spec] in
theorem promoted_worker {read : Read} {package : String}
    (h : s.promoted (.worker read outcome) = some (d, package)) :
    s.inFlight = none ∧ ∃ update rest op, s.statusUpdates = update :: rest ∧ d = update.dda ∧
      pendingOf d = some op ∧ package = op.packageName ∧ op.intent = .promote ∧
      evaluatePendingTask (newDDAStatusSnapshot d) op = (true, none) := by
  simp only [System.promoted] at h
  split at h
  · rename_i update rest hflight hq
    split at h
    · rename_i op hop
      split at h
      · rename_i hdone
        obtain ⟨rfl, rfl⟩ := Prod.mk.inj (Option.some.inj h)
        exact ⟨hflight, update, rest, op, hq, rfl, hop, rfl, hdone.1, hdone.2⟩
      · cases h
    · cases h
  · cases h

theorem Publishing.publishes_task (hs : Publishing r s) {read : Read}
    (he : (Event.task req read : Event Spec).Orderly) : PublishesPromoted r s (.task req read) := by
  rintro ⟨d, package⟩ hpromoted
  obtain ⟨version, hsole, hagrees⟩ := hs.agrees
  obtain ⟨-, hpkg, hcurrent⟩ := he
  obtain ⟨hflight, hread, rfl, hm, state, hplan, hstate⟩ := promoted_task hpromoted
  obtain rfl : s.server.dda = d := by
    rcases read_current (s := s) hcurrent with h | ⟨err, h⟩
    · exact Except.ok.inj (h.symm.trans hread)
    · rw [h] at hread
      cases hread
  simp only [System.step, hflight, hread, hstate, getPackageConfigVersions_setTaskState]
  cases hplan with
  | alreadyRunning hm' | stopped hm' =>
    rw [hm] at hm'
    cases hm'
  | promoted hm' hexp hdone =>
    obtain ⟨hph, -⟩ := experimentHasPhase_iff.mp hdone
    rw [getPackageConfigVersions_set]
    rw [hpkg, hsole.get] at hexp ⊢
    exact experimentHasPhase_iff.mpr ⟨hph, ((hagrees (.inl hph)).version.resolve_left hexp).symm⟩

theorem Publishing.publishes_worker (hs : Publishing r s) (read : Read) (outcome : Option ApiError) :
    PublishesPromoted r s (.worker read outcome) := by
  rintro ⟨d, package⟩ hpromoted
  obtain ⟨hflight, update, rest, op, hq, rfl, hop, rfl, hi, hdone⟩ := promoted_worker hpromoted
  obtain ⟨hid, hreached⟩ := evaluate_done_iff.mp hdone
  have hnamed : op.resultVersion = op.experimentID := by
    refine hs.queued update.dda ?_ op hop hi
    rw [System.versions, hq]
    exact .head _
  have hstate : (s.step r (.worker read outcome)).daemon.installerState =
      (s.daemon.onStatusUpdate (newDDAStatusSnapshot update.dda) (s.read read)).1.installerState := by
    cases outcome <;> simp only [System.step, hflight, hq, write_daemon]
  have hop' : pendingOperationFromAnnotations (newDDAStatusSnapshot update.dda).annotations =
    some op := hop
  rw [hi] at hreached
  refine experimentHasPhase_iff.mpr ⟨of_decide_eq_true hreached, ?_⟩
  rw [hstate, onStatusUpdate_finished hop' (by rw [hdone]), hdone]
  simp only [finishPendingOperation, hi, getPackageConfigVersions_setTaskState,
    getPackageConfigVersions_set]
  exact hid.trans hnamed.symm

theorem Publishing.publishes (hs : Publishing r s) (he : e.Orderly) : PublishesPromoted r s e := by
  cases e with
  | task req read => exact hs.publishes_task he
  | worker read outcome => exact hs.publishes_worker read outcome
  | configs | patch | resync | tick | reconcile | edit | restart =>
    exact fun _ hp => absurd hp (Option.not_mem_none _)

end

/-- Over every run of a daemon that starts on an object without experiment. -/
theorem promote_publishes_promoted (r : Reconciler Spec) (daemon : Daemon Spec)
    (server : Server Spec) (now : Time) (stable : String) (hok : RevisionsOk r server.revisions)
    (hnew : Untouched server.dda)
    (hstate : daemon.installerState =
      [{ package := packageDatadogOperator, stableConfigVersion := stable }])
    (es : List (Event Spec)) (horderly : ∀ e ∈ es, e.Orderly) :
    Runs.Along (System.step r) (PublishesPromoted r) (.init daemon server now) es := by
  refine Runs.Along.of_invariant (I := Publishing r) ?_ ?_ ?_ (Runs.Along.of_events horderly)
  · exact fun _ _ hs he => hs.step he
  · exact fun _ _ hs he => hs.publishes he
  · have hcoord := Coordinated.init hok hnew daemon now
    have hph := phase_of_none hnew.experiment
    refine ⟨hcoord, ⟨"", ⟨_, hstate, rfl, rfl⟩, fun h => ?_⟩, ?_, ?_, fun _ _ h => by cases h⟩
    · have hph' : (System.init daemon server now).server.dda.status.phase = none := hph
      rw [Closing, hph'] at h
      rcases h with h | ⟨h, -⟩ <;> cases h
    · intro op hop
      rw [show pendingOf (System.init daemon server now).server.dda = none from hnew.pendingOf] at hop
      cases hop
    · intro u hu op hop
      obtain rfl := List.mem_singleton.mp hu
      rw [hnew.pendingOf] at hop
      cases hop

theorem promote_publishes_promoted_run :
    let es : List (Event Nat) := [.reconcile .clean, .task (request .start "t1" "v1") (.ok 0),
      .patch none, .reconcile .clean, .worker (.ok 0) none, .worker (.ok 0) none,
      .worker (.ok 0) none, .worker (.ok 0) none,
      .task (request .promote "t2" "" "" "v1") (.ok 0), .patch none, .reconcile .clean,
      .worker (.ok 0) none, .worker (.ok 0) none]
    Runs.Along (System.step numbered) (PublishesPromoted numbered) numberedSystem es ∧
      getPackageConfigVersions
        (Runs.run (System.step numbered) numberedSystem es).daemon.installerState
        packageDatadogOperator = ("v1", "") := by
  intro es
  exact ⟨promote_publishes_promoted numbered numberedDaemon _ 0 "" .nil (untouched_numberedAgent 0)
    rfl es (by decide), by decide⟩

/-- Each package keeps its own experiment version for the one DatadogAgent: `datadog-agent`
keeps `v1` while `datadog-operator` stops it and starts `v2`, and publishes `v1` with the promote
of `v2`. -/
theorem promote_publishes_other_version :
    let other (req : RemoteAPIRequest) : RemoteAPIRequest := { req with package := "datadog-agent" }
    let es : List (Event Nat) := [.reconcile .clean,
      .task (other (request .start "t1" "v1")) (.ok 0), .patch none, .reconcile .clean,
      .worker (.ok 0) none, .worker (.ok 0) none, .worker (.ok 0) none, .worker (.ok 0) none,
      .task (request .stop "t2") (.ok 0), .patch none, .reconcile .clean,
      .worker (.ok 0) none, .worker (.ok 0) none, .worker (.ok 0) none,
      .task (request .start "t3" "v2") (.ok 0), .patch none, .reconcile .clean,
      .worker (.ok 0) none, .worker (.ok 0) none, .worker (.ok 0) none,
      .task (other (request .promote "t4" "" "" "v1")) (.ok 0), .patch none, .reconcile .clean,
      .worker (.ok 0) none, .worker (.ok 0) none]
    let final := Runs.run (System.step numbered) numberedSystem es
    ¬ Runs.Along (System.step numbered) (PublishesPromoted numbered) numberedSystem es ∧
      experimentHasPhase final.server.dda "v2" .promoted ∧
      (getPackageConfigVersions final.daemon.installerState "datadog-agent").1 = "v1" := by
  decide +kernel

end DatadogOperator.Fleet
