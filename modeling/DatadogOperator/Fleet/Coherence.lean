import DatadogOperator.Fleet.Slot

/-!
# Signal, status and pending task

Signal, experiment status and pending task of the object are written by
different parties. While the daemon reads the current object and tasks have
an ID, they go together: a signal that still asks for something belongs to
the pending task, and the versions on their way to the worker finish only
tasks of the experiment they show.
-/

namespace DatadogOperator.Fleet

variable {Spec : Type} [DecidableEq Spec]

def pendingOf (d : DatadogAgent Spec) : Option PendingOperation :=
  pendingOperationFromAnnotations d.annotations

def asked (d : DatadogAgent Spec) : Option PendingIntent :=
  match d.signal, d.status.phase with
  | some .start, some .running => none
  | some .start, _ => if d.annotationID = d.status.id then none else some .start
  | some .rollback, some .running | some .rollback, none => some .stop
  | some .promote, some .running => some .promote
  | _, _ => none

/-- An experiment without a phase: the rest of a rollback that failed. -/
def Stuck (d : DatadogAgent Spec) : Prop :=
  d.status.phase = none ∧ d.status.experiment ≠ none

structure Coherent (d : DatadogAgent Spec) : Prop where
  package : ∀ op ∈ pendingOf d, op.packageName = packageDatadogOperator
  /-- A signal has an ID. -/
  signed : d.annotations.get annotationExperimentSignal ≠ "" → d.annotationID ≠ ""
  owned : ∀ intent ∈ asked d, ∃ op ∈ pendingOf d, op.intent = intent ∧
    op.experimentID = d.annotationID
  running : d.status.phase = some .running →
    d.status.id ≠ "" ∧ (d.annotationID ≠ "" → d.annotationID = d.status.id)
  stuck : Stuck d → (∃ op ∈ pendingOf d, op.intent = .stop ∧ op.experimentID = d.status.id) ∧
    (d.annotationID ≠ "" → d.annotationID = d.status.id)

/-! ## What a signal asks for -/

section
variable {d d' : DatadogAgent Spec}

section
omit [DecidableEq Spec]

theorem asked_eq_start : asked d = some .start ↔
    d.status.phase ≠ some .running ∧ d.signal = some .start ∧ d.annotationID ≠ d.status.id := by
  unfold asked
  rcases d.signal with _ | _ | _ | _ | _ <;> rcases d.status.phase with _ | _ | _ | _ | _ <;> simp

theorem asked_eq_stop : asked d = some .stop ↔
    (d.status.phase = some .running ∨ d.status.phase = none) ∧ d.signal = some .rollback := by
  unfold asked
  rcases d.signal with _ | _ | _ | _ | _ <;> rcases d.status.phase with _ | _ | _ | _ | _ <;> simp

theorem asked_eq_promote : asked d = some .promote ↔
    d.status.phase = some .running ∧ d.signal = some .promote := by
  unfold asked
  rcases d.signal with _ | _ | _ | _ | _ <;> rcases d.status.phase with _ | _ | _ | _ | _ <;> simp

theorem asked_of_signal_none (h : d.signal = none) : asked d = none := by
  unfold asked
  rw [h]

theorem signal_of_asked (h : asked d = some intent) : d.signal = some intent.signal := by
  cases intent with
  | start => exact (asked_eq_start.mp h).2.1
  | stop => exact (asked_eq_stop.mp h).2
  | promote => exact (asked_eq_promote.mp h).2

theorem annotationID_of_asked (h : asked d = some intent) : d.annotationID ≠ "" :=
  d.annotationID_ne (signal_of_asked h)

end

theorem PendingIntent.signal_injective : Function.Injective PendingIntent.signal := by
  intro intent intent' h
  cases intent <;> cases intent' <;> first | rfl | cases h

omit [DecidableEq Spec] in
theorem asked_of_terminal (hterm : isTerminalPhase d.status.phase)
    (hid : d.annotationID ≠ "" → d.annotationID = d.status.id) : asked d = none := by
  obtain ⟨hnone, hrun⟩ := (isTerminalPhase_iff _).mp hterm
  refine Option.eq_none_iff_forall_ne_some.mpr fun intent h => ?_
  have hne : d.annotationID ≠ "" := annotationID_of_asked h
  cases intent with
  | start => exact (asked_eq_start.mp h).2.2 (hid hne)
  | stop => exact (asked_eq_stop.mp h).1.elim hrun hnone
  | promote => exact hrun (asked_eq_promote.mp h).1

/-! ## Reconciles -/

/-- Signal and ID are as before. -/
structure SameSignal (d d' : DatadogAgent Spec) : Prop where
  text : d'.annotations.get annotationExperimentSignal = d.annotations.get annotationExperimentSignal
  id : d'.annotationID = d.annotationID

structure NoSignal (d : DatadogAgent Spec) : Prop where
  text : d.annotations.get annotationExperimentSignal = ""
  id : d.annotationID = ""

omit [DecidableEq Spec] in
theorem SameSignal.signal (h : SameSignal d d') : d'.signal = d.signal := by
  unfold DatadogAgent.signal
  rw [h.text, h.id]

omit [DecidableEq Spec] in
theorem NoSignal.signal (h : NoSignal d) : d.signal = none := by
  simp [DatadogAgent.signal, h.text]

structure SameState (d d' : DatadogAgent Spec) : Prop where
  experiment : d'.status.experiment = d.status.experiment
  same : SameSignal d d'

section
omit [DecidableEq Spec]

theorem phase_congr (h : d'.status.experiment = d.status.experiment) :
    d'.status.phase = d.status.phase := by
  rw [DatadogAgentStatus.phase, DatadogAgentStatus.phase, h]

theorem id_congr (h : d'.status.experiment = d.status.experiment) : d'.status.id = d.status.id := by
  rw [DatadogAgentStatus.id, DatadogAgentStatus.id, h]

theorem stuck_congr (h : d'.status.experiment = d.status.experiment) : Stuck d' ↔ Stuck d := by
  rw [Stuck, Stuck, phase_congr h, h]

theorem SameState.asked (h : SameState d d') : asked d' = asked d := by
  unfold Fleet.asked
  rw [h.same.signal, h.same.id, phase_congr h.experiment, id_congr h.experiment]

end

/-- What a reconcile makes of status and signal. -/
inductive StatusChange (d d' : DatadogAgent Spec) : Prop
  | kept (same : SameState d d')
  /-- The signal was a no-op, or a rollback without a target. -/
  | cleared (experiment : d'.status.experiment = d.status.experiment) (gone : NoSignal d')
      (unasked : asked d ≠ some .start)
  | started (hasked : asked d = some .start) (phase : d'.status.phase = some .running)
      (id : d'.status.id = d.annotationID) (same : SameSignal d d')
  | ended (before : d.status.phase = some .running) (e : ExperimentStatus)
      (after : d'.status.experiment = some e) (id : e.id = d.status.id) (same : SameSignal d d')
      (cause : locallyTerminated e ∨ asked d = some .stop ∧ e.phase = some .terminated ∨
        asked d = some .promote ∧ e.phase = some .promoted)
  | recovered (hasked : asked d = some .stop) (before : d.status.phase = none)
      (e : ExperimentStatus) (after : d'.status.experiment = some e) (id : e.id = d.annotationID)
      (phase : e.phase = some .terminated ∨ e.phase = none) (same : SameSignal d d')

omit [DecidableEq Spec] in
theorem sameSignal_of_fleetSame (h : FleetSame d.annotations d'.annotations) : SameSignal d d' := by
  refine ⟨?_, ?_⟩
  · rw [Annotations.get, Annotations.get, h _ isFleetKey_experimentSignal]
  · rw [DatadogAgent.annotationID, DatadogAgent.annotationID, Annotations.get, Annotations.get,
      h _ isFleetKey_experimentID]

omit [DecidableEq Spec] in
theorem signal_of_fleetKept (h : FleetKept d.annotations d'.annotations) :
    SameSignal d d' ∨ NoSignal d' := by
  cases h with
  | same h => exact .inl (sameSignal_of_fleetSame h)
  | cleared _ hid hsig =>
    refine .inr ⟨?_, ?_⟩
    · rw [Annotations.get, hsig]
      rfl
    · rw [DatadogAgent.annotationID, Annotations.get, hid]
      rfl

variable {r : Reconciler Spec} {server : Server Spec} (now : Time)

theorem reconcile_statusChange (hok : RevisionsOk r server.revisions) (env : Env Spec) :
    StatusChange server.dda (reconcileInstance r env.alone now server.dda server).2.server.dda := by
  have hexp := reconcile_experiment now hok env.alone_alone
  dsimp only at hexp
  generalize hout : (reconcileInstance r env.alone now server.dda server).2.server.dda = d' at hexp ⊢
  generalize hrestored :
    rollbackSucceeds env.alone (findRollbackTarget server.revisions) server = restored at hexp
  by_cases hkeep : verdict r now server.revisions server.dda = .keep
  · have hsame : d'.status.experiment = server.dda.status.experiment := by
      rw [hkeep] at hexp
      exact hexp.elim id id
    rcases signal_of_fleetKept (hout ▸ reconcile_fleetKept now hok env.alone_alone) with hs | hs
    · exact .kept ⟨hsame, hs⟩
    · refine .cleared hsame hs fun hasked => ?_
      have hv : verdict r now server.revisions server.dda = .start :=
        verdict_eq_start.mpr (asked_eq_start.mp hasked)
      rw [hkeep] at hv
      cases hv
  · have hs : SameSignal server.dda d' :=
      sameSignal_of_fleetSame (hout ▸ reconcile_fleetSame now hok env.alone_alone hkeep)
    rcases hexp with hexp | hexp
    · exact .kept ⟨hexp, hs⟩
    · cases hv : verdict r now server.revisions server.dda with
      | keep => exact absurd hv hkeep
      | start =>
        rw [hv] at hexp
        exact .started (asked_eq_start.mpr (verdict_eq_start.mp hv)) (phase_of_experiment hexp)
          (id_of_experiment hexp) hs
      | promote =>
        obtain ⟨hrun, hsig, -⟩ := verdict_eq_promote.mp hv
        obtain ⟨e, he, -⟩ := DatadogAgentStatus.exists_of_phase hrun
        rw [hv, Verdict.experiment, he] at hexp
        exact .ended hrun _ hexp (id_of_experiment he).symm hs
          (.inr (.inr ⟨asked_eq_promote.mpr ⟨hrun, hsig⟩, rfl⟩))
      | abort =>
        obtain ⟨hrun, -⟩ := verdict_eq_abort.mp hv
        obtain ⟨e, he, -⟩ := DatadogAgentStatus.exists_of_phase hrun
        rw [hv, Verdict.experiment, he] at hexp
        exact .ended hrun _ hexp (id_of_experiment he).symm hs (.inl (by simp [locallyTerminated]))
      | restore reason =>
        obtain ⟨hrun, -, hreason⟩ := verdict_eq_restore hv
        obtain ⟨e, he, -⟩ := DatadogAgentStatus.exists_of_phase hrun
        rw [hv, Verdict.experiment, he] at hexp
        cases restored with
        | false => exact .kept ⟨hexp.trans he.symm, hs⟩
        | true =>
          refine .ended hrun _ hexp (id_of_experiment he).symm hs ?_
          rcases hreason with ⟨rfl, hsig⟩ | ⟨rfl, -⟩
          · exact .inr (.inl ⟨asked_eq_stop.mpr ⟨.inl hrun, hsig⟩, rfl⟩)
          · exact .inl (by simp [locallyTerminated])
      | recover =>
        obtain ⟨hnone, hsig, -⟩ := verdict_eq_recover.mp hv
        have hasked := asked_eq_stop.mpr ⟨.inr hnone, hsig⟩
        rw [hv, Verdict.experiment] at hexp
        cases restored with
        | true => exact .recovered hasked hnone _ hexp rfl (.inl rfl) hs
        | false => exact .recovered hasked hnone _ hexp rfl (.inr rfl) hs

/-! ## Coherence -/

omit [DecidableEq Spec] in
theorem Coherent.kept (hc : Coherent d) (h : SameState d d') (hp : pendingOf d' = pendingOf d) :
    Coherent d' where
  package := by
    rw [hp]
    exact hc.package
  signed := by
    rw [h.same.text, h.same.id]
    exact hc.signed
  owned := by
    rw [h.asked, hp, h.same.id]
    exact hc.owned
  running := by
    rw [phase_congr h.experiment, id_congr h.experiment, h.same.id]
    exact hc.running
  stuck := by
    rw [stuck_congr h.experiment, hp, id_congr h.experiment, h.same.id]
    exact hc.stuck

theorem isTerminalPhase_of_locallyTerminated (h : locallyTerminated e) :
    isTerminalPhase e.phase := by
  simp only [locallyTerminated, Bool.or_eq_true, decide_eq_true_eq] at h
  rcases h with ⟨h, -⟩ | h
  · rw [h]
    rfl
  · rw [h]
    rfl

omit [DecidableEq Spec] in
theorem terminal_of_ended (after : d'.status.experiment = some e)
    (cause : locallyTerminated e ∨ asked d = some .stop ∧ e.phase = some .terminated ∨
      asked d = some .promote ∧ e.phase = some .promoted) : isTerminalPhase d'.status.phase := by
  rw [phase_of_experiment after]
  rcases cause with hlocal | ⟨-, hph⟩ | ⟨-, hph⟩
  · exact isTerminalPhase_of_locallyTerminated hlocal
  · rw [hph]
    rfl
  · rw [hph]
    rfl

omit [DecidableEq Spec] in
theorem Coherent.change (hc : Coherent d) (h : StatusChange d d') (hp : pendingOf d' = pendingOf d) :
    Coherent d' := by
  cases h with
  | kept same => exact hc.kept same hp
  | cleared experiment gone =>
    refine ⟨by rw [hp]; exact hc.package, fun h => absurd gone.text h, ?_, ?_, ?_⟩
    · rw [asked_of_signal_none gone.signal]
      nofun
    · intro hrun
      rw [id_congr experiment]
      exact ⟨(hc.running ((phase_congr experiment).symm.trans hrun)).1, fun h => absurd gone.id h⟩
    · intro hstuck
      rw [hp, id_congr experiment]
      exact ⟨(hc.stuck ((stuck_congr experiment).mp hstuck)).1, fun h => absurd gone.id h⟩
  | started hasked phase id same =>
    refine ⟨by rw [hp]; exact hc.package, ?_, ?_, ?_, ?_⟩
    · rw [same.text, same.id]
      exact hc.signed
    · have hnone : asked d' = none := by
        unfold asked
        rw [same.signal, (asked_eq_start.mp hasked).2.1, phase]
      rw [hnone]
      nofun
    · intro _
      rw [id, same.id]
      exact ⟨annotationID_of_asked hasked, fun _ => rfl⟩
    · rintro ⟨hnone, -⟩
      rw [phase] at hnone
      cases hnone
  | ended before e after id same cause =>
    have hid : d'.status.id = d.status.id := (id_of_experiment after).trans id
    have hterm : isTerminalPhase d'.status.phase := terminal_of_ended after cause
    obtain ⟨hnone, hrun⟩ := (isTerminalPhase_iff _).mp hterm
    refine ⟨by rw [hp]; exact hc.package, ?_, ?_, fun h => absurd h hrun, fun h => absurd h.1 hnone⟩
    · rw [same.text, same.id]
      exact hc.signed
    · rw [asked_of_terminal hterm (by rw [same.id, hid]; exact (hc.running before).2)]
      nofun
  | recovered hasked before e after id phase same =>
    obtain ⟨op, hop, hi, hopid⟩ := hc.owned _ hasked
    have hid : d'.status.id = d.annotationID := (id_of_experiment after).trans id
    have hph := phase_of_experiment after
    refine ⟨by rw [hp]; exact hc.package, ?_, ?_, ?_, ?_⟩
    · rw [same.text, same.id]
      exact hc.signed
    · rcases phase with hterm | hnone
      · rw [asked_of_terminal (by rw [hph, hterm]; rfl) (by rw [same.id, hid]; exact fun _ => rfl)]
        nofun
      · have hstop : asked d' = some .stop := asked_eq_stop.mpr
          ⟨.inr (hph.trans hnone), same.signal.trans (asked_eq_stop.mp hasked).2⟩
        rw [hstop, hp, same.id]
        rintro _ ⟨⟩
        exact ⟨op, hop, hi, hopid⟩
    · intro hrun
      rw [hph] at hrun
      rcases phase with h | h <;> rw [h] at hrun <;> cases hrun
    · intro _
      rw [hp, hid, same.id]
      exact ⟨⟨op, hop, hi, hopid⟩, fun _ => rfl⟩

/-! ## Tasks between plan and patch -/

/-- Nothing runs, and nothing is asked for. -/
structure Idle (d : DatadogAgent Spec) : Prop where
  halted : d.status.phase ≠ some .running
  unasked : asked d = none
  unstuck : ¬Stuck d

/-- A stop or promote of the experiment that is there, or of the one a start
signal asks for. -/
structure Aimed (d : DatadogAgent Spec) (op : PendingOperation) : Prop where
  id : d.status.phase ≠ none → op.experimentID = d.status.id
  past : isTerminalPhase d.status.phase → asked d = none
  unset : d.status.phase = none → op.intent = .stop ∧
    (d.status.experiment = none ∧ asked d = some .start ∧ d.annotationID = op.experimentID ∨
      Stuck d ∧ d.status.id = op.experimentID)

inductive Target (d : DatadogAgent Spec) (plan : Plan Spec) (op : PendingOperation) : Prop
  | idle (hi : op.intent = .start) (h : Idle d)
  | again (hi : op.intent = .start) (hpatch : plan.patch = none) (h : pendingOf d = some op)
  | aimed (hi : op.intent ≠ .start) (h : Aimed d op)

variable {plan : Plan Spec} {op : PendingOperation}

section
omit [DecidableEq Spec]

theorem pendingOf_readable (h : pendingOf d = some op) : op.Readable :=
  (pendingOperation_iff.mp h).2

theorem Fits.pending_eq (hf : Fits d.annotations plan op) (hi : op.intent ≠ .stop) :
    pendingOf d = none ∨ pendingOf d = some op := by
  cases hp : pendingOf d with
  | none => exact .inl rfl
  | some current =>
    rcases guard_ok hf.guard current hp with rfl | ⟨-, hstop⟩
    · exact .inr rfl
    · exact absurd hstop hi

theorem Coherent.idle (hc : Coherent d) (hrun : d.status.phase ≠ some .running)
    (hp : pendingOf d = none) : Idle d := by
  refine ⟨hrun, Option.eq_none_iff_forall_ne_some.mpr fun intent h => ?_, fun h => ?_⟩
  · obtain ⟨op, hop, -⟩ := hc.owned intent h
    rw [hp] at hop
    cases hop
  · obtain ⟨⟨op, hop, -⟩, -⟩ := hc.stuck h
    rw [hp] at hop
    cases hop

theorem runningExperimentID_eq : runningExperimentID d =
    if d.status.phase = some .running then d.status.id else "" := by
  unfold runningExperimentID DatadogAgentStatus.phase DatadogAgentStatus.id
  cases d.status.experiment with
  | none => rfl
  | some e => rfl

theorem Coherent.idle_of_other (hc : Coherent d) (hrun : d.status.phase ≠ some .running)
    (hp : pendingOf d = some op) (hi : op.intent = .start)
    (hid : d.annotationID ≠ op.experimentID) : Idle d := by
  refine ⟨hrun, Option.eq_none_iff_forall_ne_some.mpr fun intent h => ?_, fun h => ?_⟩
  · obtain ⟨current, hcurrent, -, hown⟩ := hc.owned intent h
    obtain rfl : op = current := Option.some.inj (hp.symm.trans hcurrent)
    exact hid hown.symm
  · obtain ⟨⟨current, hcurrent, hstop, -⟩, -⟩ := hc.stuck h
    obtain rfl : op = current := Option.some.inj (hp.symm.trans hcurrent)
    rw [hi] at hstop
    cases hstop

theorem Coherent.aimed_stop (hc : Coherent d) {req : RemoteAPIRequest}
    (hopen : isTerminalPhase d.status.phase = false)
    (hsig : d.status.experiment = none →
      d.annotations.get annotationExperimentSignal = experimentSignalStart) :
    Aimed d (req.operation .stop (currentExperimentID state req d)) := by
  refine ⟨fun hsome => ?_, fun hterm => ?_, fun hnone => ⟨rfl, ?_⟩⟩
  · have hrun : d.status.phase = some .running := by
      by_contra hrun
      have hterm := (isTerminalPhase_iff _).mpr ⟨hsome, hrun⟩
      rw [hopen] at hterm
      cases hterm
    exact currentExperimentID_of_status (hc.running hrun).1
  · rw [hopen] at hterm
    cases hterm
  · by_cases he : d.status.experiment = none
    · have hid : d.annotationID ≠ "" := hc.signed (by rw [hsig he]; decide)
      have hempty := id_of_none he
      have hnot : d.status.phase ≠ some .running := by simp [hnone]
      refine .inl ⟨he, asked_eq_start.mpr ⟨hnot, signal_of_text (hsig he) hid, ?_⟩, ?_⟩
      · rw [hempty]
        exact hid
      · exact (currentExperimentID_of_signal hempty hid).symm
    · obtain ⟨⟨op, hop, -, hopid⟩, -⟩ := hc.stuck ⟨hnone, he⟩
      refine .inr ⟨⟨hnone, he⟩, (currentExperimentID_of_status ?_).symm⟩
      rw [← hopid]
      exact (pendingOf_readable hop).2.1

theorem Planning.target
    (h : Planning state req d plan state') (hc : Coherent d) (hf : Fits d.annotations plan op) :
    Target d plan op := by
  have hpending := hf.pending
  cases h with
  | alreadyRunning | stopped | promoted => cases hpending
  | again hm hv hrun hid hguard =>
    cases hpending
    rcases hf.pending_eq nofun with hp | hp
    · refine .idle rfl (hc.idle (fun hph => hrun (experimentHasPhase_iff.mpr ⟨hph, ?_⟩)) hp)
      rw [← hid]
      exact ((hc.running hph).2 (by rw [hid]; exact hv)).symm
    · exact .again rfl rfl hp
  | start config hm hv hid hrun hguard =>
    cases hpending
    have hhalted : d.status.phase ≠ some .running := by
      intro hph
      rw [runningExperimentID_eq, if_pos hph] at hrun
      exact (hc.running hph).1 hrun
    rcases hf.pending_eq nofun with hp | hp
    · exact .idle rfl (hc.idle hhalted hp)
    · exact .idle rfl (hc.idle_of_other hhalted hp rfl hid)
  | stop hm hopen hne hsig hguard =>
    cases hpending
    exact .aimed nofun (hc.aimed_stop hopen hsig)
  | promote hm hexp hrun hguard =>
    cases hpending
    obtain ⟨hph, hid⟩ := experimentHasPhase_iff.mp hrun
    refine .aimed nofun ⟨fun _ => hid.symm, fun hterm => ?_, fun hnone => ?_⟩
    · rw [hph] at hterm
      cases hterm
    · rw [hph] at hnone
      cases hnone

theorem Idle.change (h : Idle d) (hch : StatusChange d d') : Idle d' := by
  cases hch with
  | kept same =>
    exact ⟨by rw [phase_congr same.experiment]; exact h.halted, same.asked.trans h.unasked,
      by rw [stuck_congr same.experiment]; exact h.unstuck⟩
  | cleared experiment gone =>
    exact ⟨by rw [phase_congr experiment]; exact h.halted, asked_of_signal_none gone.signal,
      by rw [stuck_congr experiment]; exact h.unstuck⟩
  | started hasked | recovered hasked =>
    rw [h.unasked] at hasked
    cases hasked
  | ended before => exact absurd before h.halted

theorem Aimed.not_started (h : Aimed d op) (hc : Coherent d) (hasked : asked d = some .start) :
    d.status.phase = none ∧ d.annotationID = op.experimentID := by
  obtain ⟨hrun, -, hne⟩ := asked_eq_start.mp hasked
  cases hph : d.status.phase with
  | none =>
    rcases (h.unset hph).2 with ⟨-, -, hid⟩ | ⟨hstuck, -⟩
    · exact ⟨rfl, hid⟩
    · exact absurd ((hc.stuck hstuck).2 (annotationID_of_asked hasked)) hne
  | some phase =>
    rw [h.past ((isTerminalPhase_iff _).mpr ⟨by rw [hph]; nofun, hrun⟩)] at hasked
    cases hasked

theorem Aimed.change (h : Aimed d op) (hc : Coherent d) (hch : StatusChange d d') :
    Aimed d' op := by
  cases hch with
  | kept same =>
    refine ⟨?_, ?_, ?_⟩
    · rw [phase_congr same.experiment, id_congr same.experiment]
      exact h.id
    · rw [phase_congr same.experiment, same.asked]
      exact h.past
    · rw [phase_congr same.experiment, same.asked, same.experiment, same.same.id,
        stuck_congr same.experiment, id_congr same.experiment]
      exact h.unset
  | cleared experiment gone unasked =>
    refine ⟨?_, fun _ => asked_of_signal_none gone.signal, ?_⟩
    · rw [phase_congr experiment, id_congr experiment]
      exact h.id
    · rw [phase_congr experiment, stuck_congr experiment, id_congr experiment]
      intro hnone
      obtain ⟨hstop, ⟨-, hasked, -⟩ | hstuck⟩ := h.unset hnone
      · exact absurd hasked unasked
      · exact ⟨hstop, .inr hstuck⟩
  | started hasked phase id same =>
    obtain ⟨-, hid⟩ := h.not_started hc hasked
    refine ⟨fun _ => (id.trans hid).symm, fun hterm => ?_, fun hnone => ?_⟩
    · rw [phase] at hterm
      cases hterm
    · rw [phase] at hnone
      cases hnone
  | ended before e after id same cause =>
    have hterm := terminal_of_ended after cause
    have hid : d'.status.id = d.status.id := (id_of_experiment after).trans id
    refine ⟨fun _ => ?_, fun _ => asked_of_terminal hterm ?_, fun hnone => ?_⟩
    · rw [hid]
      exact h.id (by rw [before]; nofun)
    · rw [same.id, hid]
      exact (hc.running before).2
    · exact absurd hnone ((isTerminalPhase_iff _).mp hterm).1
  | recovered hasked before e after id phase same =>
    have hid : d'.status.id = d.annotationID := (id_of_experiment after).trans id
    obtain ⟨hstop, ⟨-, hstart, -⟩ | ⟨hstuck, hop⟩⟩ := h.unset before
    · rw [hasked] at hstart
      cases hstart
    · have hop' : d'.status.id = op.experimentID :=
        hid.trans (((hc.stuck hstuck).2 (annotationID_of_asked hasked)).trans hop)
      refine ⟨fun _ => hop'.symm, fun hterm => asked_of_terminal hterm ?_,
        fun hnone => ⟨hstop, .inr ⟨⟨hnone, by rw [after]; nofun⟩, hop'⟩⟩⟩
      rw [same.id, hid]
      exact fun _ => rfl

theorem Target.change (h : Target d plan op) (hc : Coherent d) (hch : StatusChange d d')
    (hp : pendingOf d' = pendingOf d) : Target d' plan op := by
  cases h with
  | idle hi h => exact .idle hi (h.change hch)
  | again hi hpatch h => exact .again hi hpatch (hp.trans h)
  | aimed hi h => exact .aimed hi (h.change hc hch)

end

/-! ## Patches -/

theorem sameState_mergePatch (d : DatadogAgent Spec)
    (hsig : annotationExperimentSignal ∉ patch.map Prod.fst)
    (hid : annotationExperimentID ∉ patch.map Prod.fst) :
    SameState d (d.commit { d with annotations := d.annotations.mergePatch patch }) := by
  refine ⟨by simp, ?_, ?_⟩
  · rw [Annotations.get, Annotations.get, DatadogAgent.commit_annotations,
      lookup_mergePatch_of_not_mem _ hsig]
  · rw [DatadogAgent.annotationID, DatadogAgent.annotationID, Annotations.get, Annotations.get,
      DatadogAgent.commit_annotations, lookup_mergePatch_of_not_mem _ hid]

theorem Planned.sameState (h : Planned plan) (hpatch : plan.patch = none) (d : DatadogAgent Spec) :
    SameState d (patchWith (applyOperation plan.pending plan.patch) d) := by
  cases h with
  | start | other => cases hpatch
  | again op =>
    dsimp only
    rw [patchWith_again]
    exact sameState_mergePatch d op.annotations_signal.1 op.annotations_signal.2

theorem Fits.pendingOf_patch (hf : Fits d.annotations plan op) :
    pendingOf (patchWith (applyOperation plan.pending plan.patch) d) = some op :=
  pendingOperation_iff.mpr ⟨((hf.planned.patches d).fields op hf.pending).1, hf.readable⟩

theorem Coherent.patch (hc : Coherent d) (hf : Fits d.annotations plan op) (ht : Target d plan op)
    (hpkg : op.packageName = packageDatadogOperator) :
    Coherent (patchWith (applyOperation plan.pending plan.patch) d) := by
  have hp := hf.pendingOf_patch
  have hpatches := hf.planned.patches d
  have hsame : plan.patch = none →
      SameState d (patchWith (applyOperation plan.pending plan.patch) d) :=
    fun h => hf.planned.sameState h d
  generalize patchWith (applyOperation plan.pending plan.patch) d = d' at hp hpatches hsame ⊢
  have hexp : d'.status.experiment = d.status.experiment := by rw [hpatches.status]
  have hpackage : ∀ op ∈ pendingOf d', op.packageName = packageDatadogOperator := by
    rw [hp]
    rintro _ ⟨⟩
    exact hpkg
  cases hpatch : plan.patch with
  | none =>
    cases ht with
    | again hi _ h => exact hc.kept (hsame hpatch) (hp.trans h.symm)
    | idle hi h =>
      have hs := hsame hpatch
      have h' := h.change (.kept hs)
      refine ⟨hpackage, ?_, ?_, fun hrun => absurd hrun h'.halted, fun hst => absurd hst h'.unstuck⟩
      · rw [hs.same.text, hs.same.id]
        exact hc.signed
      · rw [h'.unasked]
        nofun
    | aimed hi h =>
      -- Only a start is sent without a signal.
      cases hf.planned with
      | start | other => cases hpatch
      | again op' hi' =>
        cases hf.pending
        exact absurd hi' hi
  | some patch =>
    obtain ⟨hsig, hid⟩ := hpatches.carries (by rw [hpatch]; rfl) op hf.pending hf.readable.2.1
    refine ⟨hpackage, fun _ => by rw [hid]; exact hf.readable.2.1, ?_, ?_, ?_⟩
    · intro intent hasked
      have hsame := hsig.symm.trans (signal_of_asked hasked)
      exact ⟨op, hp, PendingIntent.signal_injective (Option.some.inj hsame), hid.symm⟩
    · rw [phase_congr hexp, id_congr hexp, hid]
      intro hrun
      refine ⟨(hc.running hrun).1, fun _ => ?_⟩
      cases ht with
      | idle hi h => exact absurd hrun h.halted
      | again hi hnone => rw [hpatch] at hnone; cases hnone
      | aimed hi h => exact h.id (by rw [hrun]; nofun)
    · rw [stuck_congr hexp, id_congr hexp, hid, hp]
      intro hstuck
      cases ht with
      | idle hi h => exact absurd hstuck h.unstuck
      | again hi hnone => rw [hpatch] at hnone; cases hnone
      | aimed hi h =>
        obtain ⟨hstop, ⟨hnone, -⟩ | ⟨-, hopid⟩⟩ := h.unset hstuck.1
        · exact absurd hnone hstuck.2
        · exact ⟨⟨op, rfl, hstop, hopid.symm⟩, fun _ => hopid.symm⟩

end

end DatadogOperator.Fleet
