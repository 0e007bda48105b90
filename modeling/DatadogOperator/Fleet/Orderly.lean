import DatadogOperator.Fleet.Coherence

/-!
# Orderly runs

Tasks have an ID and are for the package of the operator, and the daemon's
reads return the current object or fail. Then a step changes the object, the
versions on their way to the worker and the reported experiment version in
one of a few ways (`Moves`), and the object stays coherent with those
versions (`Coordinated`).
-/

namespace DatadogOperator.Fleet

variable {Spec : Type} [DecidableEq Spec]

def Current : Read → Prop
  | .ok lag => lag = 0
  | .error _ => True

def Event.Orderly : Event Spec → Prop
  | .task req read => req.id ≠ "" ∧ req.package = packageDatadogOperator ∧ Current read
  | .worker read _ => Current read
  | .configs _ | .patch _ | .resync | .tick _ | .reconcile _ | .edit .. | .restart .. => True

instance (read : Read) : Decidable (Current read) := by
  cases read <;> dsimp only [Current] <;> infer_instance

instance : (e : Event Spec) → Decidable e.Orderly
  | .task .. => inferInstanceAs (Decidable (_ ∧ _ ∧ _))
  | .worker read _ => inferInstanceAs (Decidable (Current read))
  | .configs _ | .patch _ | .resync | .tick _ | .reconcile _ | .edit .. | .restart .. =>
    isTrue trivial

def System.versions (s : System Spec) : List (DatadogAgent Spec) := s.statusUpdates.map (·.dda)

/-! ## Finished tasks -/

def Finishes (u : DatadogAgent Spec) (op : PendingOperation) : Prop :=
  pendingOf u = some op ∧ (evaluatePendingTask (newDDAStatusSnapshot u) op).1

section
variable {d d' u : DatadogAgent Spec} {op : PendingOperation} {plan : Plan Spec}

omit [DecidableEq Spec] in
theorem evaluate_finished (h : (evaluatePendingTask (newDDAStatusSnapshot u) op).1) :
    u.status.id = op.experimentID ∧
      (op.intent = .start ∧ u.status.phase = some .running ∨ isTerminalPhase u.status.phase) := by
  unfold evaluatePendingTask newDDAStatusSnapshot at h
  dsimp only at h
  cases he : u.status.experiment with
  | none =>
    rw [he] at h
    cases h
  | some e =>
    rw [he] at h
    dsimp only at h
    rw [phase_of_experiment he, id_of_experiment he]
    split at h
    · cases h
    · rename_i hid
      refine ⟨not_not.mp hid, ?_⟩
      cases hi : op.intent with
      | start =>
        rw [hi] at h
        dsimp only at h
        split at h
        · rename_i hrun
          exact .inl ⟨rfl, hrun⟩
        · split at h
          · rename_i hterm
            exact .inr hterm
          · cases h
      | stop =>
        rw [hi] at h
        exact .inr h
      | promote =>
        rw [hi] at h
        dsimp only at h
        split at h
        · rename_i hph
          rw [hph]
          exact .inr rfl
        · split at h
          · rename_i hterm
            exact .inr hterm
          · cases h

omit [DecidableEq Spec] in
theorem Finishes.id (h : Finishes u op) : op.experimentID = u.status.id :=
  (evaluate_finished h.2).1.symm

/-! ## Versions on their way to the worker -/

/-- A version of the same experiment, not ahead of the object. -/
structure Shows (d u : DatadogAgent Spec) : Prop where
  id : u.status.id = d.status.id
  past : isTerminalPhase u.status.phase → isTerminalPhase d.status.phase

/-- A version of an earlier experiment. What it finishes leaves the pending
start or stop of the present one. -/
def Passed (d u : DatadogAgent Spec) : Prop :=
  ∀ op, Finishes u op → op.experimentID ≠ d.status.id ∧
    ∃ current ∈ pendingOf d, current.experimentID = d.status.id ∧ current.intent ≠ .promote

def Ordered (d : DatadogAgent Spec) (q : List (DatadogAgent Spec)) : Prop :=
  ∃ earlier later, q = earlier ++ later ∧ (∀ u ∈ earlier, Passed d u) ∧ ∀ u ∈ later, Shows d u

variable {q : List (DatadogAgent Spec)}

section
omit [DecidableEq Spec]

theorem Shows.refl (d : DatadogAgent Spec) : Shows d d := ⟨rfl, fun h => h⟩

theorem Ordered.single (d : DatadogAgent Spec) : Ordered d [d] :=
  ⟨[], [d], rfl, nofun, by simpa using .refl d⟩

theorem Ordered.append (h : Ordered d q) : Ordered d (q ++ [d]) := by
  obtain ⟨earlier, later, rfl, hearlier, hlater⟩ := h
  refine ⟨earlier, later ++ [d], List.append_assoc _ _ _, hearlier, ?_⟩
  intro u hu
  rcases List.mem_append.mp hu with hu | hu
  · exact hlater u hu
  · obtain rfl := List.mem_singleton.mp hu
    exact .refl u

theorem Ordered.tail (h : Ordered d (u :: q)) : Ordered d q := by
  obtain ⟨earlier, later, heq, hearlier, hlater⟩ := h
  cases earlier with
  | nil =>
    subst heq
    exact ⟨[], q, rfl, nofun, fun v hv => hlater v (.tail _ hv)⟩
  | cons v earlier =>
    obtain ⟨rfl, rfl⟩ := List.cons.inj heq
    exact ⟨earlier, later, rfl, fun v hv => hearlier v (.tail _ hv), hlater⟩

theorem Ordered.of_nothing (h : ∀ u ∈ q, ∀ op, ¬Finishes u op) : Ordered d q :=
  ⟨q, [], (List.append_nil q).symm, fun u hu op hop => absurd hop (h u hu op), nofun⟩

theorem Ordered.shows (h : Ordered d q)
    (hp : ∀ op ∈ pendingOf d, op.experimentID = d.status.id → op.intent = .promote) :
    ∀ u ∈ q, ∀ op, Finishes u op → Shows d u := by
  obtain ⟨earlier, later, rfl, hearlier, hlater⟩ := h
  intro u hu op hop
  rcases List.mem_append.mp hu with hu | hu
  · obtain ⟨-, current, hcurrent, hid, hne⟩ := hearlier u hu op hop
    exact absurd (hp current hcurrent hid) hne
  · exact hlater u hu

theorem Ordered.sameID (h : Ordered d q) (hid : d'.status.id = d.status.id)
    (hover : isTerminalPhase d.status.phase → isTerminalPhase d'.status.phase)
    (hp : (∃ op ∈ pendingOf d, op.experimentID = d.status.id ∧ op.intent ≠ .promote) →
      ∃ op ∈ pendingOf d', op.experimentID = d.status.id ∧ op.intent ≠ .promote) :
    Ordered d' q := by
  obtain ⟨earlier, later, rfl, hearlier, hlater⟩ := h
  refine ⟨earlier, later, rfl, fun u hu op hop => ?_, fun u hu => ?_⟩
  · obtain ⟨hne, hcurrent⟩ := hearlier u hu op hop
    rw [hid]
    exact ⟨hne, hp hcurrent⟩
  · exact ⟨(hlater u hu).id.trans hid.symm, fun hterm => hover ((hlater u hu).past hterm)⟩

theorem Ordered.change (h : Ordered d q) (hc : Coherent d) (hch : StatusChange d d')
    (hp : pendingOf d' = pendingOf d) : Ordered d' q := by
  cases hch with
  | kept same =>
    exact h.sameID (id_congr same.experiment) (by rw [phase_congr same.experiment]; exact fun h => h)
      (by rw [hp]; exact fun h => h)
  | cleared experiment =>
    exact h.sameID (id_congr experiment) (by rw [phase_congr experiment]; exact fun h => h)
      (by rw [hp]; exact fun h => h)
  | started hasked phase id same =>
    -- The pending start is not of the experiment that was there.
    obtain ⟨current, hcurrent, hi, hown⟩ := hc.owned _ hasked
    have hne := (asked_eq_start.mp hasked).2.2
    have hshows := h.shows fun op hop hid => by
      obtain rfl : op = current := Option.some.inj (hop.symm.trans hcurrent)
      exact absurd (hown.symm.trans hid) hne
    refine ⟨q, [], (List.append_nil q).symm, fun u hu op hop => ?_, nofun⟩
    rw [id, hp]
    refine ⟨?_, current, hcurrent, hown, by rw [hi]; nofun⟩
    rw [hop.id, (hshows u hu op hop).id]
    exact hne.symm
  | ended before e after id same cause =>
    exact h.sameID ((id_of_experiment after).trans id) (fun _ => terminal_of_ended after cause)
      (by rw [hp]; exact fun h => h)
  | recovered hasked before e after id phase same =>
    have hid : d'.status.id = d.annotationID := (id_of_experiment after).trans id
    by_cases he : d.status.experiment = none
    · have hempty := id_of_none he
      have hshows := h.shows fun op hop hid =>
        absurd (hid.trans hempty) (pendingOf_readable hop).2.1
      refine .of_nothing fun u hu op hop => (pendingOf_readable hop.1).2.1 ?_
      rw [hop.id, (hshows u hu op hop).id, hempty]
    · have hsame := (hc.stuck ⟨before, he⟩).2 (annotationID_of_asked hasked)
      refine h.sameID (hid.trans hsame) (fun hterm => ?_) (by rw [hp]; exact fun h => h)
      rw [before] at hterm
      cases hterm

end

theorem Ordered.patch (h : Ordered d q) (hf : Fits d.annotations plan op) (ht : Target d plan op) :
    Ordered (patchWith (applyOperation plan.pending plan.patch) d) q := by
  have hstatus := (hf.planned.patches d).status
  refine h.sameID (by rw [hstatus]) (by rw [hstatus]; exact fun h => h) ?_
  rintro ⟨current, hcurrent, hid, hne⟩
  refine ⟨op, hf.pendingOf_patch, ?_⟩
  rcases guard_ok hf.guard current hcurrent with rfl | ⟨hstart, hstop⟩
  · exact ⟨hid, hne⟩
  · refine ⟨?_, by rw [hstop]; nofun⟩
    cases ht with
    | idle hi | again hi =>
      rw [hstop] at hi
      cases hi
    | aimed hi haimed =>
      by_cases hnone : d.status.phase = none
      · obtain ⟨-, ⟨he, -⟩ | ⟨-, hop⟩⟩ := haimed.unset hnone
        · exact absurd (hid.trans (id_of_none he)) (pendingOf_readable hcurrent).2.1
        · exact hop.symm
      · exact haimed.id hnone

section
omit [DecidableEq Spec]

theorem Ordered.finished (h : Ordered d (u :: q)) (hfin : Finishes u op)
    (hp : pendingOf d = some op) : ∀ v ∈ u :: q, Shows d v := by
  obtain ⟨earlier, later, heq, hearlier, hlater⟩ := h
  cases earlier with
  | nil =>
    subst heq
    exact hlater
  | cons v earlier =>
    obtain ⟨rfl, rfl⟩ := List.cons.inj heq
    obtain ⟨hne, current, hcurrent, hid, -⟩ := hearlier u (.head _) op hfin
    obtain rfl : op = current := Option.some.inj (hp.symm.trans hcurrent)
    exact absurd hid hne

theorem Coherent.finished (hc : Coherent d) (hshows : Shows d u) (hfin : Finishes u op)
    (hp : pendingOf d = some op) : asked d = none ∧ ¬Stuck d := by
  obtain ⟨hid, hphase⟩ := evaluate_finished hfin.2
  have hover (hi : op.intent ≠ .start) : isTerminalPhase d.status.phase :=
    hshows.past (hphase.resolve_left fun h => hi h.1)
  refine ⟨Option.eq_none_iff_forall_ne_some.mpr fun intent hasked => ?_, fun hstuck => ?_⟩
  · obtain ⟨current, hcurrent, hi, hown⟩ := hc.owned intent hasked
    obtain rfl : op = current := Option.some.inj (hp.symm.trans hcurrent)
    subst hi
    cases hi : op.intent with
    | start =>
      rw [hi] at hasked
      exact (asked_eq_start.mp hasked).2.2 (hown.symm.trans (hid.symm.trans hshows.id))
    | stop =>
      rw [hi] at hasked
      obtain ⟨hnone, hrun⟩ := (isTerminalPhase_iff _).mp (hover (by rw [hi]; nofun))
      exact (asked_eq_stop.mp hasked).1.elim hrun hnone
    | promote =>
      rw [hi] at hasked
      obtain ⟨-, hrun⟩ := (isTerminalPhase_iff _).mp (hover (by rw [hi]; nofun))
      exact hrun (asked_eq_promote.mp hasked).1
  · obtain ⟨⟨current, hcurrent, hstop, -⟩, -⟩ := hc.stuck hstuck
    obtain rfl : op = current := Option.some.inj (hp.symm.trans hcurrent)
    have hterm := hover (by rw [hstop]; nofun)
    rw [hstuck.1] at hterm
    cases hterm

theorem Coherent.unpended (hc : Coherent d) (hdone : asked d = none ∧ ¬Stuck d)
    (hsame : SameState d d') (hp : pendingOf d' = none) : Coherent d' := by
  refine ⟨by rw [hp]; nofun, ?_, ?_, ?_, ?_⟩
  · rw [hsame.same.text, hsame.same.id]
    exact hc.signed
  · rw [hsame.asked, hdone.1]
    nofun
  · rw [phase_congr hsame.experiment, id_congr hsame.experiment, hsame.same.id]
    exact hc.running
  · rw [stuck_congr hsame.experiment]
    exact fun h => absurd h hdone.2

end

/-! ## The reported experiment version -/

/-- The installer state has the operator's package only. -/
def Sole (state : InstallerState) (version : String) : Prop :=
  ∃ pkg, state = [pkg] ∧ pkg.package = packageDatadogOperator ∧
    pkg.experimentConfigVersion = version

/-- The version after a look for a local end of the experiment. -/
def dropEnded (u : DatadogAgent Spec) (version : String) : String :=
  match u.status.experiment with
  | some e => if locallyTerminated e ∧ version = e.id then "" else version
  | none => version

/-- The version after the worker has handled a version of the object. -/
def handle (u : DatadogAgent Spec) (version : String) : String :=
  match pendingOf u with
  | some op =>
    if evaluatePendingTask (newDDAStatusSnapshot u) op = (true, none) then
      if op.intent = .start then op.experimentID else ""
    else dropEnded u version
  | none => dropEnded u version

def rehydrated (d : DatadogAgent Spec) : String :=
  if isTerminalPhase d.status.phase then "" else d.status.id

variable {state : InstallerState} {version : String}

theorem Sole.update (h : Sole state version) (f : PackageState → PackageState)
    (hpkg : ∀ pkg, (f pkg).package = pkg.package)
    (hversion : ∀ pkg, pkg.experimentConfigVersion = version →
      (f pkg).experimentConfigVersion = version') :
    Sole (updatePackage state packageDatadogOperator f) version' := by
  obtain ⟨pkg, rfl, hp, hv⟩ := h
  refine ⟨f pkg, ?_, (hpkg pkg).trans hp, hversion pkg hv⟩
  simp [updatePackage, hp]

theorem Sole.setTaskState (h : Sole state version) (taskID : String) (task : TaskState) :
    Sole (setTaskState state packageDatadogOperator taskID task) version :=
  h.update _ (fun _ => rfl) fun _ hv => hv

theorem Sole.setVersions (h : Sole state version) (stable version' : String) :
    Sole (setPackageConfigVersions state packageDatadogOperator stable version') version' :=
  h.update _ (fun _ => rfl) fun _ _ => rfl

theorem Sole.get (h : Sole state version) :
    (getPackageConfigVersions state packageDatadogOperator).2 = version := by
  obtain ⟨pkg, rfl, hp, hv⟩ := h
  simp [getPackageConfigVersions, hp, hv]

section
omit [DecidableEq Spec]

theorem Sole.reconcileLocallyTerminated (h : Sole state version) (u : DatadogAgent Spec) :
    Sole (reconcileLocallyTerminatedExperiment state (newDDAStatusSnapshot u))
      (dropEnded u version) := by
  unfold reconcileLocallyTerminatedExperiment dropEnded newDDAStatusSnapshot
  dsimp only
  cases he : u.status.experiment with
  | none => exact h
  | some e =>
    dsimp only
    split
    · rename_i hlocal
      rw [if_neg (by simp [hlocal])]
      exact h
    · rename_i hlocal
      obtain ⟨pkg, rfl, hp, rfl⟩ := h
      simp only [List.foldl_cons, List.foldl_nil]
      have hsole : Sole [pkg] pkg.experimentConfigVersion := ⟨pkg, rfl, hp, rfl⟩
      split
      · rename_i hne
        rw [if_neg fun h => hne h.2]
        exact hsole
      · rename_i heq
        have hended : locallyTerminated e ∧ pkg.experimentConfigVersion = e.id :=
          ⟨Bool.eq_true_of_not_eq_false hlocal, not_not.mp heq⟩
        rw [if_pos hended, hp]
        split
        · exact (hsole.setTaskState _ _).setVersions _ _
        · exact hsole.setVersions _ _

theorem Sole.onStatusUpdate {daemon : Daemon Spec} (h : Sole daemon.installerState version)
    (u : DatadogAgent Spec) (hpkg : ∀ op ∈ pendingOf u, op.packageName = packageDatadogOperator)
    (get : Except ApiError (DatadogAgent Spec)) :
    Sole (daemon.onStatusUpdate (newDDAStatusSnapshot u) get).1.installerState
      (handle u version) := by
  have hdropped := h.reconcileLocallyTerminated u
  unfold Daemon.onStatusUpdate handle
  dsimp only
  have hsnapshot : pendingOperationFromAnnotations (newDDAStatusSnapshot u).annotations =
    pendingOf u := rfl
  rw [hsnapshot]
  cases hop : pendingOf u with
  | none => exact hdropped
  | some op =>
    dsimp only
    have hp := hpkg op hop
    split
    · rename_i heval
      rw [heval, if_neg nofun, hp]
      exact hdropped.setTaskState _ _
    · rename_i resultErr heval
      rw [heval]
      unfold finishPendingOperation
      cases resultErr with
      | some e =>
        rw [if_neg nofun, hp]
        exact hdropped.setTaskState _ _
      | none =>
        rw [if_pos rfl]
        dsimp only
        rw [hp]
        cases op.intent with
        | start | stop | promote => exact (hdropped.setVersions _ _).setTaskState _ _

theorem Sole.restarted (daemon : Daemon Spec) (initialConfigVersion : String)
    (d : DatadogAgent Spec) :
    Sole (daemon.restarted initialConfigVersion (.ok d)).installerState (rehydrated d) := by
  have hsole : Sole [{ package := packageDatadogOperator
                       stableConfigVersion := initialConfigVersion }] "" := ⟨_, rfl, rfl, rfl⟩
  unfold Daemon.restarted rehydrateLegacyInstallerState rehydrated
  dsimp only
  cases he : d.status.experiment with
  | none =>
    rw [DatadogAgentStatus.phase, DatadogAgentStatus.id, he]
    exact hsole
  | some e =>
    rw [phase_of_experiment he, id_of_experiment he]
    dsimp only
    by_cases hterm : isTerminalPhase e.phase
    · rw [if_pos (.inr hterm), if_pos hterm]
      exact hsole
    · rw [if_neg hterm]
      split
      · rename_i h
        rw [h.resolve_right hterm]
        exact hsole
      · exact hsole.setVersions _ _

end

end

/-! ## Steps -/

/-- What an event does to the object, the versions on their way to the worker
and the reported experiment version. -/
inductive Moves (flight : Option (RemoteAPIRequest × Plan Spec)) (e : Event Spec)
    (d : DatadogAgent Spec) : List (DatadogAgent Spec) → String →
    DatadogAgent Spec → List (DatadogAgent Spec) → String → Prop
  | quiet : Moves flight e d q version d q version
  | resync : Moves flight e d q version d (q ++ [d]) version
  /-- A start of what runs already. -/
  | found (hrun : d.status.phase = some .running) : Moves flight e d q version d q d.status.id
  /-- A stop or promote of what is over. -/
  | past (hrun : d.status.phase ≠ some .running) (hstuck : ¬Stuck d) :
      Moves flight e d q version d q ""
  /-- A reconcile or a user. -/
  | changed (hch : StatusChange d d') (hp : pendingOf d' = pendingOf d) :
      Moves flight e d q version d' (q ++ [d']) version
  | patched (req : RemoteAPIRequest) (plan : Plan Spec) (op : PendingOperation)
      (hflight : flight = some (req, plan)) (hf : Fits d.annotations plan op)
      (ht : Target d plan op) (hpkg : op.packageName = packageDatadogOperator) :
      Moves flight e d q version (patchWith (applyOperation plan.pending plan.patch) d)
        (q ++ [patchWith (applyOperation plan.pending plan.patch) d]) version
  | handled (u : DatadogAgent Spec) : Moves flight e d (u :: q) version d q (handle u version)
  | cleared (u : DatadogAgent Spec) (op : PendingOperation) (hfin : Finishes u op)
      (hp : pendingOf d = some op) (hsame : SameState d d') (hp' : pendingOf d' = none) :
      Moves flight e d (u :: q) version d' (q ++ [d']) (handle u version)
  | restarted : Moves flight e d q version d [d] (rehydrated d)
  /-- A restart whose list failed. -/
  | forgot (initialConfigVersion : String) (err : ApiError)
      (he : e = .restart initialConfigVersion (some err)) : Moves flight e d q version d [d] ""

structure Coordinated (r : Reconciler Spec) (s : System Spec) : Prop where
  ok : RevisionsOk r s.server.revisions
  coherent : Coherent s.server.dda
  ordered : Ordered s.server.dda s.versions
  packages : ∀ u ∈ s.versions, ∀ op ∈ pendingOf u, op.packageName = packageDatadogOperator
  flight : ∀ task ∈ s.inFlight, task.1.package = packageDatadogOperator ∧
    ∃ op, Fits s.server.dda.annotations task.2 op ∧ op.packageName = packageDatadogOperator ∧
      Target s.server.dda task.2 op

section
variable {d d' : DatadogAgent Spec} {q q' : List (DatadogAgent Spec)} {version version' : String}
  {r : Reconciler Spec} {s : System Spec} {e : Event Spec}
  {flight : Option (RemoteAPIRequest × Plan Spec)}

theorem Moves.coherent (h : Moves flight e d q version d' q' version') (hc : Coherent d)
    (ho : Ordered d q) : Coherent d' := by
  cases h with
  | quiet | resync | found | past | handled | restarted | forgot => exact hc
  | changed hch hp => exact hc.change hch hp
  | patched req plan op hflight hf ht hpkg => exact hc.patch hf ht hpkg
  | cleared u op hfin hp hsame hp' =>
    have hshows := ho.finished hfin hp u (.head _)
    exact hc.unpended (hc.finished hshows hfin hp) hsame hp'

theorem Moves.ordered (h : Moves flight e d q version d' q' version') (hc : Coherent d)
    (ho : Ordered d q) : Ordered d' q' := by
  cases h with
  | quiet | found | past => exact ho
  | resync => exact ho.append
  | handled => exact ho.tail
  | restarted | forgot => exact .single d
  | changed hch hp => exact (ho.change hc hch hp).append
  | patched req plan op hflight hf ht hpkg => exact (ho.patch hf ht).append
  | cleared u op hfin hp hsame hp' =>
    have hshows := ho.finished hfin hp
    refine Ordered.append ⟨[], _, rfl, nofun, fun v hv => ?_⟩
    have hv := hshows v (.tail _ hv)
    exact ⟨hv.id.trans (id_congr hsame.experiment).symm,
      fun hterm => by rw [phase_congr hsame.experiment]; exact hv.past hterm⟩

theorem Moves.pending {P : PendingOperation → Prop} (h : Moves flight e d q version d' q' version')
    (hd : ∀ op ∈ pendingOf d, P op) (hq : ∀ u ∈ q, ∀ op ∈ pendingOf u, P op)
    (hnew : ∀ req plan, flight = some (req, plan) → ∀ op ∈ plan.pending, P op) :
    (∀ op ∈ pendingOf d', P op) ∧ ∀ u ∈ q', ∀ op ∈ pendingOf u, P op := by
  have happend {d' : DatadogAgent Spec} {q : List (DatadogAgent Spec)}
      (hq : ∀ u ∈ q, ∀ op ∈ pendingOf u, P op) (hd' : ∀ op ∈ pendingOf d', P op) :
      ∀ u ∈ q ++ [d'], ∀ op ∈ pendingOf u, P op := by
    simpa [or_imp, forall_and] using And.intro hq hd'
  cases h with
  | quiet | found | past => exact ⟨hd, hq⟩
  | resync => exact ⟨hd, happend hq hd⟩
  | handled => exact ⟨hd, fun u hu => hq u (.tail _ hu)⟩
  | restarted | forgot => exact ⟨hd, happend (q := []) nofun hd⟩
  | changed hch hp =>
    have hd' : ∀ op ∈ pendingOf d', P op := by
      rw [hp]
      exact hd
    exact ⟨hd', happend hq hd'⟩
  | patched req plan op hflight hf =>
    have hd' : ∀ op ∈ pendingOf (patchWith (applyOperation plan.pending plan.patch) d), P op := by
      rw [hf.pendingOf_patch]
      rintro _ ⟨⟩
      exact hnew req plan hflight op hf.pending
    exact ⟨hd', happend hq hd'⟩
  | cleared u op hfin hp hsame hp' =>
    have hd' : ∀ op ∈ pendingOf d', P op := by
      rw [hp']
      nofun
    exact ⟨hd', happend (fun u hu => hq u (.tail _ hu)) hd'⟩

theorem versions_write_self (h : d = s.server.dda) : (s.write d).versions = s.versions := by
  rw [System.write, if_pos h]

theorem versions_write_of_ne (h : d ≠ s.server.dda) : (s.write d).versions = s.versions ++ [d] := by
  rw [System.write, if_neg h]
  simp [System.versions]

omit [DecidableEq Spec] in
@[simp] theorem versions_noteStart (s : System Spec) (plan : Plan Spec) (spec : Spec) :
    (s.noteStart plan spec).versions = s.versions := by
  unfold System.noteStart System.versions
  split
  · simp
  · rfl

omit [DecidableEq Spec] in
@[simp] theorem noteStart_daemon (s : System Spec) (plan : Plan Spec) (spec : Spec) :
    (s.noteStart plan spec).daemon = s.daemon := by
  unfold System.noteStart
  split <;> rfl

/-- The step moves object, versions and reported version. -/
def StepMoves (r : Reconciler Spec) (s : System Spec) (version : String) (e : Event Spec) : Prop :=
  ∃ version', Sole (s.step r e).daemon.installerState version' ∧
    Moves s.inFlight e s.server.dda s.versions version
      (s.step r e).server.dda (s.step r e).versions version'

theorem StepMoves.quiet (hsole : Sole (s.step r e).daemon.installerState version)
    (hdda : (s.step r e).server.dda = s.server.dda)
    (hversions : (s.step r e).versions = s.versions) : StepMoves r s version e := by
  refine ⟨version, hsole, ?_⟩
  rw [hdda, hversions]
  exact .quiet

theorem StepMoves.idle (hsame : s.step r e = s) (hsole : Sole s.daemon.installerState version) :
    StepMoves r s version e :=
  .quiet (by rw [hsame]; exact hsole) (by rw [hsame]) (by rw [hsame])

theorem StepMoves.write {base : System Spec}
    (hstep : s.step r e = base.write d') (hdda : base.server.dda = s.server.dda)
    (hversions : base.versions = s.versions)
    (hsole : Sole base.daemon.installerState version)
    (hmoves : ∀ q, Moves s.inFlight e s.server.dda q version d' (q ++ [d']) version) :
    StepMoves r s version e := by
  by_cases hsame : d' = base.server.dda
  · refine .quiet ?_ ?_ ?_
    · rw [hstep, write_daemon]
      exact hsole
    · rw [hstep, write_server]
      exact hsame.trans hdda
    · rw [hstep, versions_write_self hsame, hversions]
  · refine ⟨version, ?_, ?_⟩
    · rw [hstep, write_daemon]
      exact hsole
    · rw [hstep, write_server, versions_write_of_ne hsame, hversions]
      exact hmoves _

omit [DecidableEq Spec] in
theorem read_current {read : Read} (h : Current read) :
    s.read read = .ok s.server.dda ∨ ∃ e, s.read read = .error e := by
  cases read with
  | error e => exact .inr ⟨e, rfl⟩
  | ok lag =>
    obtain rfl : lag = 0 := h
    exact .inl rfl

theorem moves_task {read : Read}
    (hsole : Sole s.daemon.installerState version) (he : (Event.task req read : Event Spec).Orderly) :
    StepMoves r s version (.task req read) := by
  obtain ⟨-, hpkg, hread⟩ := he
  cases hf : s.inFlight with
  | some task => exact .idle (by simp only [System.step, hf]) hsole
  | none =>
    have hdaemon : (s.step r (.task req read)).daemon =
        (s.daemon.handleTask req (s.read read)).1 := by simp only [System.step, hf]
    have hdda : (s.step r (.task req read)).server.dda = s.server.dda := by
      simp only [System.step, hf]
    have hversions : (s.step r (.task req read)).versions = s.versions := by
      simp only [System.step, System.versions, hf]
    rcases read_current (s := s) hread with hread | ⟨err, hread⟩
    · rw [hread] at hdaemon
      rcases handleTask_cases (d := s.daemon) with
        ⟨task, heq⟩ | ⟨state, hplan, heq⟩ | ⟨plan, state, hplan, hsome, heq⟩
      · refine .quiet ?_ hdda hversions
        rw [hdaemon, heq, hpkg]
        exact hsole.setTaskState _ _
      · rw [heq] at hdaemon
        unfold StepMoves
        rw [hdda, hversions, hdaemon]
        dsimp only
        rw [hpkg]
        cases hplan with
        | alreadyRunning hm hrun =>
          obtain ⟨hph, hid⟩ := experimentHasPhase_iff.mp hrun
          rw [hpkg, ← hid]
          exact ⟨_, (hsole.setVersions _ _).setTaskState _ _, .found hph⟩
        | stopped hm hidle =>
          rw [hpkg]
          have hover : s.server.dda.status.phase ≠ some .running ∧ ¬Stuck s.server.dda := by
            rcases hidle with ⟨hnone, -⟩ | hterm
            · refine ⟨?_, fun h => h.2 hnone⟩
              rw [phase_of_none hnone]
              rintro ⟨⟩
            · obtain ⟨hnone, hrun⟩ := (isTerminalPhase_iff _).mp hterm
              exact ⟨hrun, fun h => hnone h.1⟩
          exact ⟨_, (hsole.setVersions _ _).setTaskState _ _, .past hover.1 hover.2⟩
        | promoted hm hexp hdone =>
          obtain ⟨hph, -⟩ := experimentHasPhase_iff.mp hdone
          rw [hpkg]
          refine ⟨_, (hsole.setVersions _ _).setTaskState _ _, .past ?_ fun h => ?_⟩
          · rw [hph]
            rintro ⟨⟩
          · cases hph.symm.trans h.1
      · refine .quiet ?_ hdda hversions
        obtain rfl : state = s.daemon.installerState := by
          rcases hplan.nothing_or_planned with rfl | ⟨-, hstate⟩
          · cases hsome
          · exact hstate
        rw [hdaemon, heq]
        exact hsole
    · refine .quiet ?_ hdda hversions
      obtain ⟨task, heq⟩ := (handleTask_failed err : ∃ task, s.daemon.handleTask req (.error err) = _)
      rw [hdaemon, hread, heq, hpkg]
      exact hsole.setTaskState _ _

theorem Coordinated.moves_patch (hs : Coordinated r s) (hsole : Sole s.daemon.installerState version)
    (outcome : Option ApiError) : StepMoves r s version (.patch outcome) := by
  cases hf : s.inFlight with
  | none => exact .idle (by simp only [System.step, hf]) hsole
  | some task =>
    obtain ⟨req, plan⟩ := task
    obtain ⟨hpkg, op, hfits, hop, htarget⟩ := hs.flight _ hf
    cases outcome with
    | some err =>
      refine .quiet ?_ (by simp only [System.step, hf]) (by simp only [System.step, System.versions, hf])
      simp only [System.step, hf, Daemon.patched]
      rw [hpkg]
      exact hsole.setTaskState _ _
    | none =>
      have hdaemon : s.daemon.patched req plan none = s.daemon := by
        simp [Daemon.patched, hfits.planned.isSome]
      have hstep : s.step r (.patch none) =
          (System.noteStart { s with daemon := s.daemon.patched req plan none, inFlight := none } plan
            (patchWith (applyOperation plan.pending plan.patch) s.server.dda).spec).write
              (patchWith (applyOperation plan.pending plan.patch) s.server.dda) := by
        simp only [System.step, hf]
      refine .write hstep ?_ ?_ ?_ fun q => .patched req plan op hf hfits htarget hop
      · rw [noteStart_server]
      · rw [versions_noteStart]
        rfl
      · rw [noteStart_daemon, hdaemon]
        exact hsole

theorem Coordinated.moves_worker (hs : Coordinated r s)
    (hsole : Sole s.daemon.installerState version) {read : Read} (hread : Current read)
    (outcome : Option ApiError) : StepMoves r s version (.worker read outcome) := by
  cases hf : s.inFlight with
  | some task => exact .idle (by simp only [System.step, hf]) hsole
  | none =>
    cases hq : s.statusUpdates with
    | nil => exact .idle (by simp only [System.step, hf, hq]) hsole
    | cons update rest =>
      have hversions : s.versions = update.dda :: rest.map (·.dda) := by
        rw [System.versions, hq]
        rfl
      have hpackages := hs.packages update.dda (by rw [hversions]; exact .head _)
      have hsole' := hsole.onStatusUpdate update.dda hpackages (s.read read)
      unfold StepMoves
      rw [hversions, hf]
      cases outcome with
      | some err =>
        simp only [System.step, System.versions, hf, hq]
        exact ⟨_, hsole', .handled update.dda⟩
      | none =>
        simp only [System.step, hf, hq, write_daemon, write_server]
        refine ⟨_, hsole', ?_⟩
        rcases onStatusUpdate_patch s.daemon (newDDAStatusSnapshot update.dda) (s.read read) with
          hnone | ⟨op, current, hop, heval, hcurrent, hpending, hclear⟩
        · rw [hnone, patchWith, versions_write_self rfl]
          exact .handled update.dda
        · have hdda : current = s.server.dda := by
            rcases read_current (s := s) hread with hread | ⟨err, hread⟩
            · exact Except.ok.inj (hcurrent.symm.trans hread)
            · rw [hread] at hcurrent
              cases hcurrent
          subst hdda
          have hkeys : annotationExperimentSignal ∉ noPendingAnnotations.map Prod.fst ∧
            annotationExperimentID ∉ noPendingAnnotations.map Prod.fst := by decide
          have hgone : pendingOf (patchWith (some { annotations := noPendingAnnotations })
              s.server.dda) = none := by
            rw [pendingOf, patchWith, Patch.apply, DatadogAgent.commit_annotations]
            exact pending_mergePatch_none _
          have hstate : SameState s.server.dda
              (patchWith (some { annotations := noPendingAnnotations }) s.server.dda) :=
            sameState_mergePatch s.server.dda hkeys.1 hkeys.2
          rw [hclear, versions_write_of_ne]
          · exact .cleared update.dda op ⟨hop, heval⟩ hpending hstate hgone
          · intro hsame
            rw [hsame, pendingOf, hpending] at hgone
            cases hgone

theorem Coordinated.moves (hs : Coordinated r s) (hsole : Sole s.daemon.installerState version)
    (he : e.Orderly) : StepMoves r s version e := by
  cases e with
  | configs | tick => exact .quiet hsole rfl rfl
  | resync =>
    refine ⟨version, hsole, ?_⟩
    simp only [System.step, System.versions, List.map_append, List.map_cons, List.map_nil]
    exact .resync
  | task req read => exact moves_task hsole he
  | patch outcome => exact hs.moves_patch hsole outcome
  | worker read outcome => exact hs.moves_worker hsole he outcome
  | reconcile env =>
    exact .write rfl rfl rfl hsole fun q => .changed (reconcile_statusChange s.now hs.ok env)
      (pendingOperation_congr (reconcile_pendingFields s hs.ok env).1)
  | edit spec annotations =>
    refine .write rfl rfl rfl hsole fun q => .changed (.kept ⟨by simp, ?_⟩)
      (pendingOperation_congr (userWrite_pendingFields s.server.dda spec annotations).1)
    exact sameSignal_of_fleetSame fun key hkey => userWrite_fleet spec annotations s.server.dda hkey
  | restart initialConfigVersion list =>
    cases list with
    | none => exact ⟨_, Sole.restarted s.daemon initialConfigVersion s.server.dda, .restarted⟩
    | some err => exact ⟨"", ⟨_, rfl, rfl, rfl⟩, .forgot initialConfigVersion err rfl⟩

theorem Coordinated.flight_step (hs : Coordinated r s) (he : e.Orderly) :
    ∀ task ∈ (s.step r e).inFlight, task.1.package = packageDatadogOperator ∧
      ∃ op, Fits (s.step r e).server.dda.annotations task.2 op ∧
        op.packageName = packageDatadogOperator ∧ Target (s.step r e).server.dda task.2 op := by
  have hchanged (d' : DatadogAgent Spec) (hch : StatusChange s.server.dda d')
      (hfields : pendingFields d'.annotations = pendingFields s.server.dda.annotations) :
      ∀ task ∈ s.inFlight, task.1.package = packageDatadogOperator ∧
        ∃ op, Fits d'.annotations task.2 op ∧ op.packageName = packageDatadogOperator ∧
          Target d' task.2 op := by
    intro task htask
    obtain ⟨hpkg, op, hfits, hop, htarget⟩ := hs.flight task htask
    exact ⟨hpkg, op, hfits.congr hfields, hop,
      htarget.change hs.coherent hch (pendingOperation_congr hfields)⟩
  intro task htask
  rcases step_inFlight s htask with
    ⟨hf, hdda | ⟨env, rfl⟩ | ⟨spec, annotations, rfl⟩⟩ | ⟨read, rfl, hdda, hplan⟩
  · rw [hdda]
    exact hs.flight task hf
  · simp only [System.step, write_server]
    exact hchanged _ (reconcile_statusChange s.now hs.ok env)
      (reconcile_pendingFields s hs.ok env).1 task hf
  · simp only [System.step, write_server]
    refine hchanged _ (.kept ⟨by simp, ?_⟩)
      (userWrite_pendingFields s.server.dda spec annotations).1 task hf
    exact sameSignal_of_fleetSame fun key hkey => userWrite_fleet spec annotations s.server.dda hkey
  · obtain ⟨hid, hpkg, hread⟩ := he
    rw [hdda]
    rcases read_current (s := s) hread with hread | ⟨err, hread⟩
    · rw [hread] at hplan
      obtain ⟨hsome, state, hplanning⟩ := handleTask_some hplan
      obtain ⟨op, hfits⟩ := hplanning.fits hsome hid (by rw [hpkg]; decide)
      exact ⟨hpkg, op, hfits, (hplanning.packageName op hfits.pending).trans hpkg,
        hplanning.target hs.coherent hfits⟩
    · rw [hread, handleTask_error] at hplan
      cases hplan

theorem Coordinated.step (hs : Coordinated r s) (hsole : Sole s.daemon.installerState version)
    (he : e.Orderly) : Coordinated r (s.step r e) := by
  obtain ⟨version', -, hmoves⟩ := hs.moves hsole he
  refine ⟨step_ok s hs.ok, hmoves.coherent hs.coherent hs.ordered,
    hmoves.ordered hs.coherent hs.ordered, ?_, hs.flight_step he⟩
  refine (hmoves.pending hs.coherent.package hs.packages fun req plan hflight op hop => ?_).2
  obtain ⟨-, op', hfits, hpkg, -⟩ := hs.flight _ hflight
  obtain rfl : op = op' := Option.some.inj (hop.symm.trans hfits.pending)
  exact hpkg

omit [DecidableEq Spec] in
theorem pendingOf_of_no_keys (h : ∀ key ∈ pendingKeys, d.annotations.lookup key = none) :
    pendingOf d = none := by
  have htask : d.annotations.get annotationPendingTaskID = "" := by
    rw [Annotations.get, h _ (by decide)]
    rfl
  simp [pendingOf, pendingOperationFromAnnotations, htask]

structure Untouched (d : DatadogAgent Spec) : Prop where
  experiment : d.status.experiment = none
  annotations : ∀ key, isFleetKey key → d.annotations.lookup key = none

section
omit [DecidableEq Spec]

theorem Untouched.pendingOf (h : Untouched d) : pendingOf d = none := by
  exact pendingOf_of_no_keys fun key hkey => h.annotations key (isFleetKey_of_pending key hkey).1

theorem Untouched.coherent (h : Untouched d) : Coherent d := by
  have hgone : NoSignal d := by
    refine ⟨?_, ?_⟩
    · rw [Annotations.get, h.annotations _ isFleetKey_experimentSignal]
      rfl
    · rw [DatadogAgent.annotationID, Annotations.get, h.annotations _ isFleetKey_experimentID]
      rfl
  refine ⟨by simp [h.pendingOf], fun htext => absurd hgone.text htext, ?_, ?_, ?_⟩
  · rw [asked_of_signal_none hgone.signal]
    rintro _ ⟨⟩
  · rw [phase_of_none h.experiment]
    rintro ⟨⟩
  · exact fun hstuck => absurd h.experiment hstuck.2

theorem Coordinated.init (hok : RevisionsOk r server.revisions)
    (hnew : Untouched server.dda) (daemon : Daemon Spec) (now : Time) :
    Coordinated r (.init daemon server now) where
  ok := hok
  coherent := hnew.coherent
  ordered := .single server.dda
  packages := by
    intro u hu op hop
    obtain rfl := List.mem_singleton.mp hu
    rw [hnew.pendingOf] at hop
    cases hop
  flight := nofun

end

end

end DatadogOperator.Fleet
