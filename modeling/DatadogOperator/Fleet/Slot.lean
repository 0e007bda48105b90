import DatadogOperator.Fleet.Start

/-!
# The slot of the pending task

The annotations of the object hold one pending task, whose state the worker
reports before it clears them. Plans and clears look at a read of the object
first, and the merge patch that follows has no precondition, so what they
find can be out of date by then.
-/

namespace DatadogOperator.Fleet

variable {Spec : Type} [DecidableEq Spec]

/-- The system together with the tasks that have been reported as done or failed. -/
structure Slot (Spec : Type) where
  system : System Spec
  reported : List String := []

def reportedTasks (state : InstallerState) : List String :=
  state.filterMap fun pkg => match pkg.task with
    | some (id, .done) | some (id, .error) => some id
    | _ => none

def Slot.annotations (s : Slot Spec) : Annotations := s.system.server.dda.annotations

def Slot.step (r : Reconciler Spec) (s : Slot Spec) (e : Event Spec) : Slot Spec :=
  let system := s.system.step r e
  { system, reported := reportedTasks system.daemon.installerState ++ s.reported }

/-- The annotations of a pending task change when the task has been reported, or
when a stop takes the place of a start; a worker changes those of the task it
has finished. -/
def KeepsPending (r : Reconciler Spec) (s : Slot Spec) (e : Event Spec) : Prop :=
  (s.annotations.lookup annotationPendingTaskID).isSome →
    pendingFields (s.step r e).annotations = pendingFields s.annotations ∨
    match e with
    | .worker .. => s.annotations.get annotationPendingTaskID ∈ (s.step r e).reported ∧
        ∃ update ∈ s.system.statusUpdates.head?,
          pendingFields update.dda.annotations = pendingFields s.annotations
    | _ => s.annotations.get annotationPendingTaskID ∈ (s.step r e).reported ∨
        s.annotations.get annotationPendingAction = PendingIntent.start.text ∧
          (s.step r e).annotations.get annotationPendingAction = PendingIntent.stop.text

/-- A read shows the pending task that the object has. -/
def Slot.Sees (s : Slot Spec) (read : Read) : Prop :=
  match s.system.read read with
  | .ok d => pendingOperationFromAnnotations d.annotations =
      pendingOperationFromAnnotations s.annotations
  | .error _ => True

/-- Tasks have an ID and a package, and every read sees the pending task. -/
def SeesPending (s : Slot Spec) : Event Spec → Prop
  | .task req read => req.id ≠ "" ∧ req.package ≠ "" ∧ s.Sees read
  | .worker read _ => s.Sees read
  | _ => True

instance (r : Reconciler Spec) (s : Slot Spec) : (e : Event Spec) → Decidable (KeepsPending r s e)
  | .worker .. => inferInstanceAs (Decidable (_ → _ ∨ _ ∧ ∃ update ∈ s.system.statusUpdates.head?, _))
  | .configs _ | .task .. | .patch _ | .reconcile _ | .resync | .tick _ | .edit .. | .restart .. =>
    inferInstanceAs (Decidable (_ → _ ∨ _ ∨ _ ∧ _))

instance (s : Slot Spec) (read : Read) : Decidable (s.Sees read) := by
  unfold Slot.Sees
  split <;> infer_instance

instance (s : Slot Spec) : (e : Event Spec) → Decidable (SeesPending s e)
  | .task .. => inferInstanceAs (Decidable (_ ∧ _ ∧ _))
  | .worker read _ => inferInstanceAs (Decidable (s.Sees read))
  | .configs _ | .patch _ | .reconcile _ | .resync | .tick _ | .edit .. | .restart .. =>
    isTrue trivial

/-- The operation of a task whose patch is still to come fits the slot. -/
structure Fits (a : Annotations) (plan : Plan Spec) (op : PendingOperation) : Prop where
  planned : Planned plan
  pending : plan.pending = some op
  readable : op.Readable
  guard : guardPendingOperationSlot a op = .ok ()

structure SlotOk (r : Reconciler Spec) (s : Slot Spec) : Prop where
  ok : RevisionsOk r s.system.server.revisions
  readable : (s.annotations.lookup annotationPendingTaskID).isSome →
    (pendingOperationFromAnnotations s.annotations).isSome
  fits : ∀ task ∈ s.system.inFlight, ∃ op, Fits s.annotations task.2 op

section
variable {r : Reconciler Spec} {s : Slot Spec} {state : InstallerState} {a a' : Annotations}
  {op : PendingOperation} {plan : Plan Spec}

theorem exists_mem_updatePackage (state : InstallerState) (package : String)
    (f : PackageState → PackageState) :
    ∃ pkg, f pkg ∈ updatePackage state package f := by
  unfold updatePackage
  split
  · rename_i hany
    obtain ⟨pkg, hmem, hpkg⟩ := List.any_eq_true.mp hany
    refine ⟨pkg, List.mem_map.mpr ⟨pkg, hmem, ?_⟩⟩
    rw [if_pos (of_decide_eq_true hpkg)]
  · exact ⟨_, List.mem_append_right _ (List.mem_singleton.mpr rfl)⟩

theorem reported_setTaskState (h : task = .done ∨ task = .error) :
    taskID ∈ reportedTasks (setTaskState state package taskID task) := by
  obtain ⟨pkg, hmem⟩ := exists_mem_updatePackage state package
    fun pkg => { pkg with task := some (taskID, task) }
  refine List.mem_filterMap.mpr ⟨_, hmem, ?_⟩
  rcases h with rfl | rfl <;> rfl

theorem reported_finishPendingOperation (resultErr : Option TaskError) :
    op.taskID ∈ reportedTasks (finishPendingOperation state op resultErr) := by
  unfold finishPendingOperation
  cases resultErr with
  | some e => exact reported_setTaskState (.inr rfl)
  | none => exact reported_setTaskState (.inl rfl)

theorem guard_congr (h : pendingOperationFromAnnotations a' = pendingOperationFromAnnotations a) :
    guardPendingOperationSlot a' op = guardPendingOperationSlot a op := by
  unfold guardPendingOperationSlot
  rw [h]

theorem guard_ok (h : guardPendingOperationSlot a op = .ok ()) :
    ∀ current ∈ pendingOperationFromAnnotations a,
      current = op ∨ current.intent = .start ∧ op.intent = .stop := by
  intro current hcurrent
  unfold guardPendingOperationSlot at h
  rw [Option.mem_def.mp hcurrent] at h
  dsimp only at h
  split at h
  · rename_i heq
    exact .inl heq
  · split at h
    · rename_i hstop
      exact .inr hstop
    · cases h

omit [DecidableEq Spec] in
theorem Fits.congr (hf : Fits a plan op) (h : pendingFields a' = pendingFields a) :
    Fits a' plan op :=
  ⟨hf.planned, hf.pending, hf.readable, (guard_congr (pendingOperation_congr h)).trans hf.guard⟩

omit [DecidableEq Spec] in
theorem Planning.fits
    (h : Planning state req dda plan state') (hsome : plan.pending.isSome) (hid : req.id ≠ "")
    (hpkg : req.package ≠ "") : ∃ op, Fits dda.annotations plan op := by
  have hplanned := h.planned hsome
  cases h with
  | alreadyRunning | stopped | promoted => cases hsome
  | again hm hv hrun hannotated hguard => exact ⟨_, hplanned, rfl, ⟨hid, hv, hpkg⟩, hguard⟩
  | start config hm hv hannotated hrun hguard =>
    exact ⟨_, hplanned, rfl, ⟨hid, hv, hpkg⟩, hguard⟩
  | stop hm hopen hne hsig hguard => exact ⟨_, hplanned, rfl, ⟨hid, hne, hpkg⟩, hguard⟩
  | promote hm hexp hrun hguard =>
    exact ⟨_, hplanned, rfl, ⟨hid, currentExperimentID_ne hexp, hpkg⟩, hguard⟩

/-! ## Steps -/

theorem SlotOk.kept (hs : SlotOk r s)
    (hfields : pendingFields (s.step r e).annotations = pendingFields s.annotations)
    (hlookup : (s.step r e).annotations.lookup annotationPendingTaskID =
      s.annotations.lookup annotationPendingTaskID)
    (hflight : ∀ task ∈ (s.system.step r e).inFlight, task ∈ s.system.inFlight) :
    SlotOk r (s.step r e) ∧ KeepsPending r s e := by
  refine ⟨⟨step_ok s.system hs.ok, ?_, fun task htask => ?_⟩, fun _ => .inl hfields⟩
  · rw [hlookup, pendingOperation_congr hfields]
    exact hs.readable
  · obtain ⟨op, hfits⟩ := hs.fits task (hflight task htask)
    exact ⟨op, hfits.congr hfields⟩

theorem SlotOk.quiet (hs : SlotOk r s) (hdda : (s.system.step r e).server.dda = s.system.server.dda)
    (hflight : ∀ task ∈ (s.system.step r e).inFlight, task ∈ s.system.inFlight) :
    SlotOk r (s.step r e) ∧ KeepsPending r s e := by
  have hann : (s.step r e).annotations = s.annotations := congrArg (·.annotations) hdda
  exact hs.kept (by rw [hann]) (by rw [hann]) hflight

theorem SlotOk.task (hs : SlotOk r s) {read : Read} (hc : SeesPending s (.task req read)) :
    SlotOk r (s.step r (.task req read)) ∧ KeepsPending r s (.task req read) := by
  cases hf : s.system.inFlight with
  | some task => exact hs.quiet (by simp only [System.step, hf]) (by simp [System.step, hf])
  | none =>
    obtain ⟨hid, hpkg, hsees⟩ := hc
    have hann : (s.step r (.task req read)).annotations = s.annotations := by
      simp only [Slot.step, Slot.annotations, System.step, hf]
    refine ⟨⟨step_ok s.system hs.ok, by rw [hann]; exact hs.readable, ?_⟩,
      fun _ => .inl (by rw [hann])⟩
    · intro task htask
      simp only [Slot.step, System.step, hf] at htask
      obtain ⟨plan, hplan, rfl⟩ := Option.map_eq_some_iff.mp htask
      rw [hann]
      cases hread : s.system.read read with
      | error e =>
        rw [hread] at hplan
        rw [handleTask_error] at hplan
        cases hplan
      | ok dda =>
        rw [hread] at hplan
        obtain ⟨hsome, state, hplanning⟩ := handleTask_some hplan
        obtain ⟨op, hfits⟩ := hplanning.fits hsome hid hpkg
        unfold Slot.Sees at hsees
        rw [hread] at hsees
        exact ⟨op, hfits.planned, hfits.pending, hfits.readable,
          (guard_congr hsees).symm.trans hfits.guard⟩

theorem SlotOk.patch (hs : SlotOk r s) (outcome : Option ApiError) :
    SlotOk r (s.step r (.patch outcome)) ∧ KeepsPending r s (.patch outcome) := by
  cases hf : s.system.inFlight with
  | none =>
    exact hs.quiet (by simp only [System.step, hf]) (by simp [System.step, hf])
  | some task =>
    obtain ⟨req, plan⟩ := task
    obtain ⟨op, hfits⟩ := hs.fits (req, plan) hf
    cases outcome with
    | some e => exact hs.quiet (by simp only [System.step, hf]) (by simp [System.step, hf])
    | none =>
      have hp := hfits.planned.patches s.system.server.dda
      obtain ⟨hfields, hlookup⟩ := hp.fields op hfits.pending
      have hann : (s.step r (.patch none)).annotations =
          (patchWith (applyOperation plan.pending plan.patch) s.system.server.dda).annotations := by
        simp only [Slot.step, Slot.annotations, System.step, hf, write_server]
      rw [← hann] at hfields hlookup
      refine ⟨⟨step_ok s.system hs.ok, ?_, ?_⟩, fun hpresent => ?_⟩
      · intro _
        rw [pendingOperation_iff.mpr ⟨hfields, hfits.readable⟩]
        rfl
      · simp [Slot.step, System.step, hf]
      · -- The guard has seen the task that is there.
        obtain ⟨current, hcurrent⟩ := Option.isSome_iff_exists.mp (hs.readable hpresent)
        obtain ⟨hbefore, -⟩ := pendingOperation_iff.mp hcurrent
        rcases guard_ok hfits.guard current hcurrent with rfl | ⟨hstart, hstop⟩
        · exact .inl (hfields.trans hbefore.symm)
        · have haction (a : Annotations) (op : PendingOperation) (h : pendingFields a = op.fields) :
              a.get annotationPendingAction = op.intent.text :=
            (List.cons.inj (List.cons.inj h).2).1
          refine .inr (.inr ⟨?_, ?_⟩)
          · rw [haction _ _ hbefore, hstart]
          · rw [haction _ _ hfields, hstop]

theorem SlotOk.worker (hs : SlotOk r s) {read : Read} (hc : SeesPending s (.worker read outcome)) :
    SlotOk r (s.step r (.worker read outcome)) ∧ KeepsPending r s (.worker read outcome) := by
  cases hf : s.system.inFlight with
  | some task => exact hs.quiet (by simp only [System.step, hf]) (by simp [System.step, hf])
  | none =>
    cases hq : s.system.statusUpdates with
    | nil => exact hs.quiet (by simp only [System.step, hf, hq]) (by simp [System.step, hf, hq])
    | cons update rest =>
      cases outcome with
      | some e => exact hs.quiet (by simp only [System.step, hf, hq]) (by simp [System.step, hf, hq])
      | none =>
        rcases onStatusUpdate_patch s.system.daemon (newDDAStatusSnapshot update.dda)
          (s.system.read read) with hnone | ⟨op, current, hop, heval, hread, hcurrent, hclear⟩
        · refine hs.quiet ?_ (by simp [System.step, hf, hq])
          simp only [System.step, hf, hq, hnone, patchWith, write_server]
        · have hpending : pendingOperationFromAnnotations s.annotations = some op := by
            have hsees : s.Sees read := hc
            unfold Slot.Sees at hsees
            rw [hread] at hsees
            exact hsees.symm.trans hcurrent
          have hann : (s.step r (.worker read none)).annotations =
              s.annotations.mergePatch noPendingAnnotations := by
            simp only [Slot.step, Slot.annotations, System.step, hf, hq, hclear, patchWith,
              Patch.apply, write_server, DatadogAgent.commit_annotations]
          have hgone : (s.step r (.worker read none)).annotations.lookup annotationPendingTaskID =
              none := by
            rw [hann]
            exact lookup_mergePatch_of_mem _ (by decide) (List.mem_of_mem_head? rfl)
          obtain ⟨hfields, -⟩ := pendingOperation_iff.mp hpending
          refine ⟨⟨step_ok s.system hs.ok, ?_, ?_⟩, fun _ => .inr ⟨?_, update, by rw [hq]; rfl, ?_⟩⟩
          · rw [hgone]
            rintro ⟨⟩
          · simp [Slot.step, System.step, hf, hq]
          · have htask : s.annotations.get annotationPendingTaskID = op.taskID :=
              (List.cons.inj hfields).1
            rw [htask]
            refine List.mem_append_left _ ?_
            simp only [System.step, hf, hq, write_daemon]
            rw [onStatusUpdate_finished hop heval]
            exact reported_finishPendingOperation _
          · exact (pendingOperation_iff.mp hop).1.trans hfields.symm

theorem SlotOk.step (hs : SlotOk r s) (hc : SeesPending s e) :
    SlotOk r (s.step r e) ∧ KeepsPending r s e := by
  cases e with
  | task req read => exact hs.task hc
  | patch outcome => exact hs.patch outcome
  | worker read outcome => exact hs.worker hc
  | configs | resync | tick => exact hs.quiet rfl fun _ h => h
  | restart => exact hs.quiet rfl nofun
  | reconcile env =>
    obtain ⟨hfields, hlookup⟩ := reconcile_pendingFields s.system hs.ok env
    have hdda : (s.step r (.reconcile env)).system.server.dda = (reconcileInstance r env.alone
        s.system.now s.system.server.dda s.system.server).2.server.dda := by
      simp only [Slot.step, System.step, write_server]
    refine hs.kept ?_ ?_ (by simp [System.step]) <;> rw [Slot.annotations, hdda]
    · exact hfields
    · exact hlookup
  | edit spec annotations =>
    obtain ⟨hfields, hlookup⟩ := userWrite_pendingFields s.system.server.dda spec annotations
    have hdda : (s.step r (.edit spec annotations)).system.server.dda =
        userWrite spec annotations s.system.server.dda := by
      simp only [Slot.step, System.step, write_server]
    refine hs.kept ?_ ?_ (by simp [System.step]) <;> rw [Slot.annotations, hdda]
    · exact hfields
    · exact hlookup

end

/-- Over every run, whatever calls fail, whose reads see the pending task. -/
theorem pending_task_is_kept (r : Reconciler Spec) (daemon : Daemon Spec) (server : Server Spec)
    (now : Time) (hok : RevisionsOk r server.revisions)
    (hread : (server.dda.annotations.lookup annotationPendingTaskID).isSome →
      (pendingOperationFromAnnotations server.dda.annotations).isSome)
    (es : List (Event Spec))
    (hsees : Runs.Along (Slot.step r) SeesPending { system := .init daemon server now } es) :
    Runs.Along (Slot.step r) (KeepsPending r) { system := .init daemon server now } es := by
  refine Runs.Along.of_invariant (I := SlotOk r) ?_ ?_ ?_ hsees
  · exact fun _ _ hs hc => (hs.step hc).1
  · exact fun _ _ hs hc => (hs.step hc).2
  · exact ⟨hok, hread, nofun⟩

/-- A start is replaced by a stop, which is reported and cleared. -/
theorem pending_task_is_kept_run :
    let es : List (Event Nat) := [.reconcile .clean, .task (request .start "t1" "v1") (.ok 0),
      .patch none, .reconcile .clean, .task (request .stop "t2") (.ok 0), .patch none,
      .reconcile .clean, .worker (.ok 0) none, .worker (.ok 0) none, .worker (.ok 0) none,
      .worker (.ok 0) none, .worker (.ok 0) none]
    Runs.Along (Slot.step numbered) (KeepsPending numbered) { system := numberedSystem } es ∧
      (Runs.run (Slot.step numbered) { system := numberedSystem } (es.take 11)).annotations.get
        annotationPendingTaskID = "t2" ∧
      (Runs.run (Slot.step numbered) { system := numberedSystem } es).annotations.get
        annotationPendingTaskID = "" := by
  intro es
  refine ⟨pending_task_is_kept numbered numberedDaemon _ 0 .nil (by decide) es (by decide),
    by decide, by decide⟩

/-- A second start is planned on a read from before the first, and takes its place. A
worker finishes a start and clears the stop that has replaced it meanwhile. -/
theorem pending_task_is_lost : let started : List (Event Nat) := [.reconcile .clean,
      .task (request .start "t1" "v1") (.ok 0), .patch none]
    let s := Runs.run (Slot.step numbered) { system := numberedSystem } started
    let replaced := Runs.run (Slot.step numbered) s [.task (request .start "t2" "v2") (.ok 1)]
    let stopped := Runs.run (Slot.step numbered) s [.reconcile .clean,
      .task (request .stop "t3") (.ok 0), .patch none, .worker (.ok 0) none, .worker (.ok 0) none]
    ¬ KeepsPending numbered replaced (.patch none) ∧
      ¬ KeepsPending numbered stopped (.worker (.ok 1) none) ∧
      stopped.annotations.get annotationPendingTaskID = "t3" ∧
      (stopped.step numbered (.worker (.ok 1) none)).annotations.get annotationPendingTaskID = "" ∧
      "t3" ∉ (stopped.step numbered (.worker (.ok 1) none)).reported := by
  decide

end DatadogOperator.Fleet
