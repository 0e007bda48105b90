import DatadogOperator.Reconcile
import DatadogOperator.RevisionLaws

/-!
# What a reconcile decides about the experiment

Four functions of `experiment.go` write the new status in turn: the signal
handlers, the timeout, the promotion mark and the abort. `verdict` is the
one decision they come to, read off the instance, the listed revisions and
the clock. `manageExperiment_eq` says that the four together carry it out
and do nothing else.
-/

namespace DatadogOperator

open scoped TopTwo

variable {Spec : Type} [DecidableEq Spec]

inductive Signal
  | start
  | rollback
  | promote
  | unknown
  deriving DecidableEq

def DatadogAgent.annotationID (d : DatadogAgent Spec) : String :=
  d.annotations.get annotationExperimentID

/-- The signal on the object. It counts only together with an ID. -/
def DatadogAgent.signal (d : DatadogAgent Spec) : Option Signal :=
  let signal := d.annotations.get annotationExperimentSignal
  if signal = "" ∨ d.annotationID = "" then none
  else if signal = experimentSignalStart then some .start
  else if signal = experimentSignalRollback then some .rollback
  else if signal = experimentSignalPromote then some .promote
  else some .unknown

omit [DecidableEq Spec] in
theorem DatadogAgent.signal_congr {d d' : DatadogAgent Spec}
    (hid : d'.annotations.lookup annotationExperimentID =
      d.annotations.lookup annotationExperimentID)
    (hsig : d'.annotations.lookup annotationExperimentSignal =
      d.annotations.lookup annotationExperimentSignal) :
    d'.signal = d.signal ∧ d'.annotationID = d.annotationID := by
  unfold DatadogAgent.signal DatadogAgent.annotationID Annotations.get
  rw [hid, hsig]
  exact ⟨rfl, rfl⟩

/-- The ID whose annotations are cleared when nothing is left to do. -/
def DatadogAgent.pendingClearID (d : DatadogAgent Spec) : String :=
  if d.signal.isSome then d.annotationID else ""

inductive Verdict
  | keep
  | start
  | promote
  | abort
  | restore (reason : TerminationReason)
  /-- A rollback signal over an unset phase, with the spec at the highest revision. -/
  | recover
  deriving DecidableEq

section
variable (r : Reconciler Spec) (now : Time) (revisions : List (ControllerRevision Spec))
  (inst : DatadogAgent Spec)

def Reconciler.timedOut : Bool :=
  match inst.status.experiment.bind (·.startedAt) with
  | some startedAt => decide (now - startedAt ≥ getExperimentTimeout r.experimentTimeout)
  | none => false

/-- A running experiment without a request to end it. -/
def unrequested : Verdict :=
  if (findMostRecentMatchingRevision revisions inst).isSome then
    if r.timedOut now inst then .restore .timedOut else .keep
  else if revisions.length ≥ 2 then .abort
  else .keep

theorem unrequested_cases : unrequested r now revisions inst = .keep ∨
    unrequested r now revisions inst = .abort ∨
      unrequested r now revisions inst = .restore .timedOut := by
  unfold unrequested
  repeat' split
  all_goals simp

def atHighest : Bool :=
  match findMostRecentMatchingRevision revisions inst, highestRevision revisions with
  | some matchingRev, some highest =>
    decide (revisions.length ≥ 2 ∧ matchingRev.revision = highest.revision)
  | _, _ => false

def verdict : Verdict :=
  match inst.status.phase, inst.signal with
  | some .running, some .rollback =>
    if manuallyChanged revisions inst then .abort else .restore .stopped
  | some .running, some .promote => if manuallyChanged revisions inst then .abort else .promote
  | some .running, _ => unrequested r now revisions inst
  | none, some .rollback => if atHighest revisions inst then .recover else .keep
  | _, some .start => if inst.annotationID = inst.status.id then .keep else .start
  | _, _ => .keep

end

section
variable (env : Env Spec) (now : Time) (inst : DatadogAgent Spec)

def startedStatus : ExperimentStatus :=
  { phase := some .running, id := inst.annotationID, startedAt := some now
    startTaskID := inst.annotations.get annotationPendingTaskID }

def markPromoted (p : Pass Spec) : Pass Spec :=
  if inst.status.phase = some .promoted then markHighest env .promoted p else p

def Verdict.act (p : Pass Spec) : Verdict → Except Error Unit × Pass Spec
  | .keep =>
    (.ok (), if inst.signal.isSome then
        clearExperimentAnnotations env inst.annotationID (markPromoted env inst p)
      else markPromoted env inst p)
  | .start =>
    (.ok (), markPromoted env inst { p with
      newStatus := { p.newStatus with experiment := some (startedStatus now inst) } })
  | .promote => (.ok (), p.setPhase .promoted)
  | .abort => (.ok (), markHighest env .rolledBack (p.setPhase .aborted))
  | .restore reason => restorePreviousSpec env reason p
  | .recover => restorePreviousSpec env .stopped
      { p with newStatus := { p.newStatus with experiment := some { id := inst.annotationID } } }

end

/-! ## What marks and rollback leave alone -/

section
variable (env : Env Spec) (state : ExperimentRevisionState) (p : Pass Spec)

section
omit [DecidableEq Spec]

theorem markRevisionState_aside (rev : ControllerRevision Spec) :
    p.Aside (markRevisionState env rev state p) := by
  unfold markRevisionState
  split
  · exact .refl p
  · split
    · exact .refl p
    · exact ⟨rfl, rfl, rfl, rfl⟩

theorem markHighest_aside : p.Aside (markHighest env state p) := by
  unfold markHighest
  split
  · exact markRevisionState_aside env state p _
  · exact .refl p

theorem markPromoted_aside (inst : DatadogAgent Spec) : p.Aside (markPromoted env inst p) := by
  unfold markPromoted
  split
  · exact markHighest_aside env _ p
  · exact .refl p

@[simp] theorem markRevisionState_newStatus (rev : ControllerRevision Spec) :
    (markRevisionState env rev state p).newStatus = p.newStatus :=
  (markRevisionState_aside env state p rev).newStatus

@[simp] theorem markHighest_newStatus : (markHighest env state p).newStatus = p.newStatus :=
  (markHighest_aside env state p).newStatus

@[simp] theorem markPromoted_newStatus (inst : DatadogAgent Spec) :
    (markPromoted env inst p).newStatus = p.newStatus :=
  (markPromoted_aside env p inst).newStatus

end

@[simp] theorem clearExperimentAnnotations_newStatus (id : String) :
    (clearExperimentAnnotations env id p).newStatus = p.newStatus := rfl

@[simp] theorem rollback_newStatus (target : String) :
    (rollback env target p).2.newStatus = p.newStatus := by
  unfold rollback
  dsimp only
  repeat' split
  all_goals rfl

omit [DecidableEq Spec] in
@[simp] theorem setExperiment_phase (f : ExperimentStatus → ExperimentStatus) :
    (p.setExperiment f).newStatus.experiment = p.newStatus.experiment.map f := rfl

/-- It does what the rollback does; when that succeeds it ends the experiment
and may mark one revision. -/
theorem restorePreviousSpec_cases (reason : TerminationReason) :
    let out := rollback env (findRollbackTarget p.revList) p
    (∃ e, out.1 = .error e ∧ restorePreviousSpec env reason p = (.error e, out.2)) ∨
      ∃ q, (q = out.2.setExperiment fun e =>
          { e with phase := some .terminated, terminationReason := some reason }) ∧
        out.1 = .ok () ∧ (restorePreviousSpec env reason p = (.ok (), q) ∨
          ∃ rev, restorePreviousSpec env reason p =
            (.ok (), markRevisionState env rev .rolledBack q)) := by
  unfold restorePreviousSpec
  dsimp only
  rcases rollback env (findRollbackTarget p.revList) p with ⟨e | _, q⟩
  · exact .inl ⟨e, rfl, rfl⟩
  · refine .inr ⟨_, rfl, rfl, ?_⟩
    dsimp only
    split
    · split
      · exact .inr ⟨_, rfl⟩
      · exact .inl rfl
    · exact .inl rfl

theorem restorePreviousSpec_ok (h : (restorePreviousSpec env reason p).1 = .ok u) :
    (restorePreviousSpec env reason p).2.newStatus.experiment = p.newStatus.experiment.map fun e =>
        { e with phase := some .terminated, terminationReason := some reason } := by
  rcases restorePreviousSpec_cases env p reason with
    ⟨_, -, hr⟩ | ⟨q, rfl, -, hr | ⟨rev, hr⟩⟩ <;> rw [hr] at h ⊢ <;> simp at h ⊢

theorem restorePreviousSpec_error (h : (restorePreviousSpec env reason p).1 = .error e) :
    (restorePreviousSpec env reason p).2.newStatus = p.newStatus := by
  rcases restorePreviousSpec_cases env p reason with
    ⟨_, -, hr⟩ | ⟨q, rfl, -, hr | ⟨rev, hr⟩⟩ <;> rw [hr] at h ⊢ <;> simp at h ⊢

theorem restorePreviousSpec_ends (reason : TerminationReason) (hn : p.newStatus.experiment.isSome) :
    (∃ err q, restorePreviousSpec env reason p = (.error err, q)) ∨
      ∃ q, restorePreviousSpec env reason p = (.ok (), q) ∧ q.newStatus.experiment.isSome ∧
        q.newStatus.phase = some .terminated := by
  rcases hr : restorePreviousSpec env reason p with ⟨err | _, q⟩
  · exact .inl ⟨err, q, rfl⟩
  · obtain ⟨e, he⟩ := Option.isSome_iff_exists.mp hn
    have hq := restorePreviousSpec_ok env p (congrArg Prod.fst hr)
    rw [hr, he] at hq
    exact .inr ⟨q, rfl, by rw [hq]; rfl, phase_of_experiment hq⟩

end

/-! ## The functions, decision by decision -/

section
variable (r : Reconciler Spec) (env : Env Spec) (now : Time) (inst : DatadogAgent Spec)
  (p : Pass Spec)

omit [DecidableEq Spec] in
theorem DatadogAgent.annotationID_ne (h : inst.signal = some s) : inst.annotationID ≠ "" := by
  intro hid
  simp [DatadogAgent.signal, hid] at h

theorem processExperimentSignal_eq : processExperimentSignal env now inst p = match inst.signal with
      | none => (.ok "", p)
      | some .start => (.ok inst.annotationID, processStartSignal inst.annotationID
          inst.status.phase inst.status.id now (inst.annotations.get annotationPendingTaskID) p)
      | some .rollback =>
        match processRollbackSignal env inst inst.annotationID inst.status.phase p with
        | (.ok (), p) => (.ok inst.annotationID, p)
        | (.error e, p) => (.error e, p)
      | some .promote => (.ok inst.annotationID, processPromoteSignal env inst inst.status.phase p)
      | some .unknown => (.ok inst.annotationID, p) := by
  unfold processExperimentSignal DatadogAgent.signal DatadogAgent.annotationID
  dsimp only
  split_ifs <;> rfl

omit [DecidableEq Spec] in
theorem highestRevision_isSome (h : revisions.length ≥ 2) :
    (highestRevision revisions : Option (ControllerRevision Spec)).isSome := by
  unfold highestRevision
  cases hm : revisions.argmax (·.revision) with
  | some _ => rfl
  | none =>
    rw [List.argmax_eq_none] at hm
    subst hm
    simp at h

/-- What is left of `manageExperiment` once the signal has been processed and
some experiment was persisted. -/
def afterSignal (oldPhase : Option ExperimentPhase) (oldID pendingClearID : String)
    (e : ExperimentStatus) (p : Pass Spec) : Except Error Unit × Pass Spec :=
  match handleRollback r env now inst p with
  | (.error err, p) => (.error err, p)
  | (.ok (), p) =>
    let p := if e.phase = some .promoted then markHighest env .promoted p else p
    let p := abortExperiment env inst e p
    if pendingClearID ≠ "" ∧ p.newStatus.phase = oldPhase ∧ p.newStatus.id = oldID then
      (.ok (), clearExperimentAnnotations env pendingClearID p)
    else (.ok (), p)

theorem handleRollback_eq (he : inst.status.experiment = some e)
    (hn : p.newStatus.experiment = some e) :
    handleRollback r env now inst p =
      if e.phase = some .running ∧ unrequested r now p.revList inst = .restore .timedOut then
        restorePreviousSpec env .timedOut p
      else (.ok (), p) := by
  have hp := phase_of_experiment hn
  unfold handleRollback
  simp only [he, hp, ne_eq, not_true_eq_false, and_false, if_false]
  by_cases hrun : e.phase = some .running
  · simp only [hrun, not_true_eq_false, if_false, true_and]
    cases hm : findMostRecentMatchingRevision p.revList inst with
    | none =>
      by_cases hl : p.revList.length ≥ 2
      · simp [unrequested, hm, hl, highestRevision_isSome hl]
      · simp [unrequested, hm, hl]
    | some rev =>
      cases hs : e.startedAt with
      | none => simp [unrequested, hm, Reconciler.timedOut, he, hs]
      | some t =>
        by_cases ht : now - t ≥ getExperimentTimeout r.experimentTimeout <;>
          simp [unrequested, hm, Reconciler.timedOut, he, hs, ht]
  · simp [hrun]

theorem abortExperiment_eq (hn : p.newStatus.phase = e.phase) : abortExperiment env inst e p =
      if e.phase = some .running ∧ unrequested r now p.revList inst = .abort then
        markHighest env .rolledBack (p.setPhase .aborted)
      else p := by
  unfold abortExperiment
  by_cases hrun : e.phase = some .running
  · rw [hrun] at hn
    cases hm : findMostRecentMatchingRevision p.revList inst with
    | some rev =>
      have hu : unrequested r now p.revList inst ≠ .abort := by
        unfold unrequested
        simp only [hm, Option.isSome_some, if_true]
        split <;> simp
      simp [hrun, hn, hu]
    | none =>
      by_cases hl : p.revList.length < 2
      · simp [hrun, hn, hl, unrequested, hm, Nat.not_le.mpr hl]
      · simp [hrun, hn, hl, unrequested, hm, Nat.le_of_not_lt hl]
  · simp [hrun]

variable {r env now inst p}

theorem processRollbackSignal_unset (id : String) : processRollbackSignal env inst id none p =
      if atHighest p.revList inst then restorePreviousSpec env .stopped
        { p with newStatus := { p.newStatus with experiment := some { id } } }
      else (.ok (), p) := by
  unfold processRollbackSignal atHighest
  simp only [isTerminalPhase, Bool.false_eq_true, if_false, reduceCtorEq]
  cases findMostRecentMatchingRevision p.revList inst with
  | none => simp
  | some matchingRev =>
    cases highestRevision p.revList with
    | none => simp
    | some highest => simp

theorem processRollbackSignal_running (id : String) :
    processRollbackSignal env inst id (some .running) p = if manuallyChanged p.revList inst then
        (.ok (), markHighest env .rolledBack (p.setPhase .aborted))
      else restorePreviousSpec env .stopped p := by
  simp [processRollbackSignal, isTerminalPhase]

theorem processPromoteSignal_running : processPromoteSignal env inst (some .running) p =
      if manuallyChanged p.revList inst then markHighest env .rolledBack (p.setPhase .aborted)
      else p.setPhase .promoted := by
  simp [processPromoteSignal, isTerminalPhase]

theorem manageExperiment_some (he : inst.status.experiment = some e)
    (hn : p.newStatus.experiment = inst.status.experiment) :
    manageExperiment r env now inst p = match processExperimentSignal env now inst p with
      | (.error err, p) => (.error err, p)
      | (.ok clearID, p) => afterSignal r env now inst e.phase e.id clearID e p := by
  unfold manageExperiment afterSignal
  simp only [DatadogAgentStatus.phase, DatadogAgentStatus.id, hn, he, Option.bind_some,
    Option.map_some, Option.getD_some]
  rfl

theorem afterSignal_changed (clearID : String) (he : inst.status.experiment = some e)
    (hs : p.newStatus.experiment.isSome) (hne : p.newStatus.phase ≠ e.phase) :
    afterSignal r env now inst e.phase e.id clearID e p = (.ok (), markPromoted env inst p) := by
  have hph := phase_of_experiment he
  have hr : handleRollback r env now inst p = (.ok (), p) := by
    simp [handleRollback, he, hs, hne]
  have hm : (if e.phase = some .promoted then markHighest env .promoted p else p) =
      markPromoted env inst p := by rw [markPromoted, hph]
  have hst : (markPromoted env inst p).newStatus.phase = p.newStatus.phase := by simp
  have ha : abortExperiment env inst e (markPromoted env inst p) = markPromoted env inst p := by
    unfold abortExperiment
    by_cases hrun : e.phase = some .running
    · rw [hrun] at hne
      simp [hrun, hne]
    · simp [hrun]
  unfold afterSignal
  simp only [hr, hm, ha]
  simp [hne]

theorem afterSignal_unchanged (he : inst.status.experiment = some e)
    (hn : p.newStatus.experiment = some e) :
    afterSignal r env now inst e.phase e.id inst.pendingClearID e p =
      (if e.phase = some .running then unrequested r now p.revList inst else .keep).act
        env now inst p := by
  have hph := phase_of_experiment he
  have hph' := phase_of_experiment hn
  have hkeep (q : Pass Spec) (hq : q.newStatus = p.newStatus) :
      (if inst.pendingClearID ≠ "" ∧ q.newStatus.phase = e.phase ∧ q.newStatus.id = e.id then
        ((.ok (), clearExperimentAnnotations env inst.pendingClearID q) :
          Except Error Unit × Pass Spec)
      else (.ok (), q)) = (.ok (), if inst.signal.isSome then
        clearExperimentAnnotations env inst.annotationID q else q) := by
    rw [hq, hph', id_of_experiment hn, DatadogAgent.pendingClearID]
    cases hs : inst.signal with
    | none => simp
    | some s => simp [inst.annotationID_ne hs]
  unfold afterSignal
  rw [handleRollback_eq r env now inst p he hn]
  by_cases hrun : e.phase = some .running
  · simp only [hrun, true_and, if_true]
    have ha := abortExperiment_eq r env now inst p hph'
    simp only [hrun, true_and] at ha
    rcases unrequested_cases r now p.revList inst with hu | hu | hu <;>
      simp only [hu, reduceCtorEq, if_false, if_true, Option.some.injEq] at ha ⊢
    · rw [ha, ← hrun, hkeep p rfl]
      simp [Verdict.act, markPromoted, hph, hrun]
    · simp [ha, Verdict.act, Pass.setPhase, DatadogAgentStatus.phase, hn]
    · simp only [Verdict.act]
      rcases restorePreviousSpec_ends env p .timedOut (by rw [hn]; rfl) with
        ⟨err, q, hr⟩ | ⟨q, hr, -, hqp⟩ <;> rw [hr]
      have ha : abortExperiment env inst e q = q := by simp [abortExperiment, hqp]
      simp [ha, hqp]
  · simp only [hrun, false_and, if_false]
    have hm : (if e.phase = some .promoted then markHighest env .promoted p else p) =
        markPromoted env inst p := by rw [markPromoted, hph]
    have ha : abortExperiment env inst e (markPromoted env inst p) = markPromoted env inst p := by
      simp [abortExperiment, hrun]
    rw [hm, ha, hkeep _ (markPromoted_newStatus env p inst)]
    rfl

theorem manageExperiment_unset (he : inst.status.experiment = none)
    (hn : p.newStatus.experiment = inst.status.experiment) :
    manageExperiment r env now inst p = (verdict r now p.revList inst).act env now inst p := by
  have hph := phase_of_none he
  have hcur := id_of_none he
  have hmk (q : Pass Spec) : markPromoted env inst q = q := by simp [markPromoted, hph]
  rw [he] at hn
  unfold manageExperiment
  rw [processExperimentSignal_eq]
  simp only [he, hph, hcur]
  cases hs : inst.signal with
  | none => simp [verdict, hph, hs, Verdict.act, hmk]
  | some signal =>
    have hid := inst.annotationID_ne hs
    cases signal with
    | start =>
      simp [verdict, hph, hs, Verdict.act, hmk, hid, hcur, processStartSignal, startedStatus]
    | rollback =>
      simp only [processRollbackSignal_unset, verdict, hph, hs]
      by_cases hat : atHighest p.revList inst
      · simp only [hat, if_true, Verdict.act]
        rcases restorePreviousSpec_ends env { p with newStatus := { p.newStatus with
            experiment := some { id := inst.annotationID } } } .stopped rfl with
          ⟨err, q, hr⟩ | ⟨q, hr, hq, -⟩ <;> rw [hr]
        simp [Option.isSome_iff_ne_none.mp hq]
      · simp [hat, Verdict.act, hs, hmk, hid, hn]
    | promote =>
      simp [verdict, hph, hs, Verdict.act, hmk, hid, hn, processPromoteSignal, isTerminalPhase]
    | unknown => simp [verdict, hph, hs, Verdict.act, hmk, hid, hn]

/-- The signal is left to the functions after it, or the verdict has been carried out
up to the mark of a promoted revision. -/
theorem processExperimentSignal_cases (he : inst.status.experiment = some e)
    (hn : p.newStatus.experiment = some e) :
    (processExperimentSignal env now inst p = (.ok inst.pendingClearID, p) ∧
      verdict r now p.revList inst =
        if e.phase = some .running then unrequested r now p.revList inst else .keep) ∨
    (∃ err q, processExperimentSignal env now inst p = (.error err, q) ∧
      (verdict r now p.revList inst).act env now inst p = (.error err, q)) ∨
    ∃ id q, processExperimentSignal env now inst p = (.ok id, q) ∧
      q.newStatus.experiment.isSome ∧ q.newStatus.phase ≠ e.phase ∧
      (verdict r now p.revList inst).act env now inst p = (.ok (), markPromoted env inst q) := by
  have hph := phase_of_experiment he
  have hcur := id_of_experiment he
  have hset (phase : ExperimentPhase) : (p.setPhase phase).newStatus.experiment.isSome ∧
      (p.setPhase phase).newStatus.phase = some phase := by
    simp [Pass.setPhase, DatadogAgentStatus.phase, hn]
  rw [processExperimentSignal_eq]
  unfold verdict DatadogAgent.pendingClearID
  rw [hph, hcur]
  cases hs : inst.signal with
  | none =>
    refine .inl ⟨rfl, ?_⟩
    rcases e.phase with _ | _ | _ | _ | _ <;> rfl
  | some s =>
    cases s with
    | unknown =>
      refine .inl ⟨rfl, ?_⟩
      rcases e.phase with _ | _ | _ | _ | _ <;> rfl
    | start =>
      by_cases hsame : inst.annotationID = e.id
      · refine .inl ⟨by simp [processStartSignal, hsame], ?_⟩
        rcases e.phase with _ | _ | _ | _ | _ <;> simp [hsame]
      · rcases hp : e.phase with _ | _ | _ | _ | _
        case some.running => exact .inl ⟨by simp [processStartSignal, hsame], by simp⟩
        all_goals
          refine .inr (.inr ⟨_, _, rfl, ?_⟩)
          simp [processStartSignal, hsame, DatadogAgentStatus.phase, Verdict.act, startedStatus]
    | rollback =>
      rcases hp : e.phase with _ | _ | _ | _ | _
      case none =>
        rw [processRollbackSignal_unset]
        by_cases hat : atHighest p.revList inst
        · simp only [hat, if_true, Verdict.act]
          rcases restorePreviousSpec_ends env { p with newStatus := { p.newStatus with
              experiment := some { id := inst.annotationID } } } .stopped rfl with
            ⟨err, q, hr⟩ | ⟨q, hr, hq, hqp⟩ <;> rw [hr]
          · exact .inr (.inl ⟨err, q, rfl, rfl⟩)
          · exact .inr (.inr ⟨_, q, rfl, hq, by simp [hqp], by simp [markPromoted, hph, hp]⟩)
        · exact .inl ⟨by simp [hat], by simp [hat]⟩
      case some.running =>
        rw [processRollbackSignal_running]
        by_cases hm : manuallyChanged p.revList inst
        · refine .inr (.inr ⟨_, _, by simp only [hm, if_true]; rfl, ?_⟩)
          simp [hm, hset, Verdict.act, markPromoted, hph, hp]
        · simp only [hm, Bool.false_eq_true, if_false, Verdict.act]
          rcases restorePreviousSpec_ends env p .stopped (by rw [hn]; rfl) with
            ⟨err, q, hr⟩ | ⟨q, hr, hq, hqp⟩ <;> rw [hr]
          · exact .inr (.inl ⟨err, q, rfl, rfl⟩)
          · exact .inr (.inr ⟨_, q, rfl, hq, by simp [hqp], by simp [markPromoted, hph, hp]⟩)
      all_goals exact .inl ⟨by simp [processRollbackSignal, isTerminalPhase], by simp⟩
    | promote =>
      rcases hp : e.phase with _ | _ | _ | _ | _
      case some.running =>
        rw [processPromoteSignal_running]
        refine .inr (.inr ⟨_, _, rfl, ?_⟩)
        by_cases hm : manuallyChanged p.revList inst <;>
          simp [hm, hset, Verdict.act, markPromoted, hph, hp]
      all_goals exact .inl ⟨by simp [processPromoteSignal, isTerminalPhase], by simp⟩

theorem manageExperiment_eq (hn : p.newStatus.experiment = inst.status.experiment) :
    manageExperiment r env now inst p = (verdict r now p.revList inst).act env now inst p := by
  cases he : inst.status.experiment with
  | none => exact manageExperiment_unset he hn
  | some e =>
    rw [manageExperiment_some he hn]
    rcases processExperimentSignal_cases he (hn.trans he) with
      ⟨h, hv⟩ | ⟨err, q, h, ha⟩ | ⟨id, q, h, hsome, hne, ha⟩ <;> rw [h]
    · rw [hv]
      exact afterSignal_unchanged he (hn.trans he)
    · exact ha.symm
    · rw [ha]
      exact afterSignal_changed id he hsome hne

end

/-! ## When each verdict is reached -/

section
variable {r : Reconciler Spec} {now : Time} {revisions : List (ControllerRevision Spec)}
  {inst : DatadogAgent Spec}

theorem verdict_running (hp : inst.status.phase = some .running) : verdict r now revisions inst =
      if manuallyChanged revisions inst then .abort
      else match inst.signal with
        | some .rollback => .restore .stopped
        | some .promote => .promote
        | _ => if (findMostRecentMatchingRevision revisions inst).isSome ∧ r.timedOut now inst then
            .restore .timedOut else .keep := by
  have hun : unrequested r now revisions inst = if manuallyChanged revisions inst then .abort
      else if (findMostRecentMatchingRevision revisions inst).isSome ∧ r.timedOut now inst then
        .restore .timedOut else .keep := by
    unfold unrequested manuallyChanged
    cases findMostRecentMatchingRevision revisions inst with
    | some rev => simp
    | none => by_cases hl : revisions.length ≥ 2 <;> simp [hl]
  unfold verdict
  rw [hp]
  cases inst.signal with
  | none => simp [hun]
  | some s => cases s <;> simp [hun]

theorem verdict_not_running (hp : inst.status.phase ≠ some .running) :
    verdict r now revisions inst = match inst.signal with
        | some .start => if inst.annotationID = inst.status.id then .keep else .start
        | some .rollback =>
          if inst.status.phase = none ∧ atHighest revisions inst then .recover else .keep
        | _ => .keep := by
  unfold verdict
  cases hph : inst.status.phase with
  | none =>
    cases inst.signal with
    | none => rfl
    | some s => cases s <;> simp
  | some phase =>
    cases phase with
    | running => exact absurd hph hp
    | terminated | promoted | aborted =>
      cases inst.signal with
      | none => rfl
      | some s => cases s <;> simp

theorem verdict_terminal (hp : isTerminalPhase inst.status.phase) :
    verdict r now revisions inst = .start ∨ verdict r now revisions inst = .keep := by
  unfold verdict
  rcases hph : inst.status.phase with _ | _ | _ | _ | _ <;> rw [hph] at hp
  case none | some.running => cases hp
  all_goals
    repeat' split
    all_goals simp_all

theorem verdict_eq_start : verdict r now revisions inst = .start ↔
    inst.status.phase ≠ some .running ∧ inst.signal = some .start ∧
      inst.annotationID ≠ inst.status.id := by
  by_cases hp : inst.status.phase = some .running
  · rw [verdict_running hp]
    repeat' split
    all_goals simp_all
  · rw [verdict_not_running hp]
    repeat' split
    all_goals simp_all

theorem verdict_eq_abort : verdict r now revisions inst = .abort ↔
    inst.status.phase = some .running ∧ manuallyChanged revisions inst := by
  by_cases hp : inst.status.phase = some .running
  · rw [verdict_running hp]
    repeat' split
    all_goals simp_all
  · rw [verdict_not_running hp]
    repeat' split
    all_goals simp_all

theorem verdict_eq_promote : verdict r now revisions inst = .promote ↔
    inst.status.phase = some .running ∧ inst.signal = some .promote ∧
      manuallyChanged revisions inst = false := by
  by_cases hp : inst.status.phase = some .running
  · rw [verdict_running hp]
    repeat' split
    all_goals simp_all
  · rw [verdict_not_running hp]
    repeat' split
    all_goals simp_all

theorem verdict_eq_restore (h : verdict r now revisions inst = .restore reason) :
    inst.status.phase = some .running ∧ manuallyChanged revisions inst = false ∧
      (reason = .stopped ∧ inst.signal = some .rollback ∨
        reason = .timedOut ∧ inst.signal ≠ some .rollback ∧ inst.signal ≠ some .promote ∧
          r.timedOut now inst ∧ (findMostRecentMatchingRevision revisions inst).isSome) := by
  by_cases hp : inst.status.phase = some .running
  · rw [verdict_running hp] at h
    cases hm : manuallyChanged revisions inst with
    | true => simp [hm] at h
    | false =>
      refine ⟨hp, rfl, ?_⟩
      simp only [hm, Bool.false_eq_true, if_false] at h
      split at h
      · rename_i hroll
        cases h
        exact .inl ⟨rfl, hroll⟩
      · cases h
      · rename_i hroll hprom
        split at h
        · rename_i ht
          cases h
          exact .inr ⟨rfl, fun hc => hroll hc, fun hc => hprom hc, ht.2, ht.1⟩
        · cases h
  · rw [verdict_not_running hp] at h
    repeat' split at h
    all_goals cases h

theorem verdict_restore_stopped (hp : inst.status.phase = some .running)
    (hm : manuallyChanged revisions inst = false) (hs : inst.signal = some .rollback) :
    verdict r now revisions inst = .restore .stopped := by
  rw [verdict_running hp, hm, hs]
  rfl

theorem verdict_restore_timedOut (hp : inst.status.phase = some .running)
    (hroll : inst.signal ≠ some .rollback) (hprom : inst.signal ≠ some .promote)
    (hmatch : (findMostRecentMatchingRevision revisions inst).isSome)
    (ht : r.timedOut now inst) : verdict r now revisions inst = .restore .timedOut := by
  have hm : manuallyChanged revisions inst = false := by
    simp [manuallyChanged, Option.isNone_eq_false_iff.mpr hmatch]
  rw [verdict_running hp, hm]
  simp only [Bool.false_eq_true, if_false, hmatch, ht, and_self, if_true]

theorem verdict_eq_recover : verdict r now revisions inst = .recover ↔
    inst.status.phase = none ∧ inst.signal = some .rollback ∧ atHighest revisions inst := by
  by_cases hp : inst.status.phase = some .running
  · rw [verdict_running hp]
    repeat' split
    all_goals simp_all
  · rw [verdict_not_running hp]
    repeat' split
    all_goals simp_all

end

end DatadogOperator
