import DatadogOperator.Fleet.Daemon
import DatadogOperator.History

/-!
# What plans and patches do

The plans of `handleTask`, by the operation they leave pending, and what the
object carries after the patch of an operation.
-/

namespace DatadogOperator.Fleet

variable {Spec : Type} [DecidableEq Spec]

/-! ## Plans -/

def Plan.starts (plan : Plan Spec) : Option String :=
  match plan.pending with
  | some op => if op.intent = .start ∧ plan.patch.isSome then some op.experimentID else none
  | none => none

def PendingIntent.signal : PendingIntent → Signal
  | .start => .start
  | .stop => .rollback
  | .promote => .promote

inductive Planned : Plan Spec → Prop
  | start (op : PendingOperation) (config : Spec → Spec) (hi : op.intent = .start)
      (hid : op.experimentID ≠ "") :
      Planned { pending := some op
                patch := some (buildSignalPatch op.signal op.experimentID (some config)) }
  /-- The ID is on the object already: only the pending task is written. -/
  | again (op : PendingOperation) (hi : op.intent = .start) : Planned { pending := some op }
  | other (op : PendingOperation) (hi : op.intent ≠ .start) :
      Planned { pending := some op, patch := some (buildSignalPatch op.signal op.experimentID) }

/-- The operation a request leaves pending. -/
def RemoteAPIRequest.operation (req : RemoteAPIRequest) (intent : PendingIntent)
    (experimentID : String) (resultVersion : String := "") : PendingOperation :=
  { intent, taskID := req.id, packageName := req.package, experimentID, resultVersion }

/-- What a plan has found on the object, what it sends and the installer state
it leaves: one rule for each way to plan a request. -/
inductive Planning (state : InstallerState) (req : RemoteAPIRequest) (dda : DatadogAgent Spec) :
    Plan Spec → InstallerState → Prop
  | alreadyRunning (hm : req.method = .start)
      (hrun : experimentHasPhase dda req.version .running) :
      Planning state req dda {} (setPackageConfigVersions state req.package
        (getPackageConfigVersions state req.package).1 req.version)
  | again (hm : req.method = .start) (hv : req.version ≠ "")
      (hrun : ¬experimentHasPhase dda req.version .running)
      (hid : dda.annotationID = req.version)
      (hguard : guardPendingOperationSlot dda.annotations (req.operation .start req.version) =
        .ok ()) :
      Planning state req dda { pending := some (req.operation .start req.version) } state
  | start (config : Spec → Spec) (hm : req.method = .start) (hv : req.version ≠ "")
      (hid : dda.annotationID ≠ req.version) (hrun : runningExperimentID dda = "")
      (hguard : guardPendingOperationSlot dda.annotations (req.operation .start req.version) =
        .ok ()) :
      Planning state req dda
        { pending := some (req.operation .start req.version)
          patch := some (buildSignalPatch experimentSignalStart req.version (some config)) } state
  | stopped (hm : req.method = .stop)
      (hidle : dda.status.experiment = none ∧ dda.signal ≠ some .start ∨
        isTerminalPhase dda.status.phase) :
      Planning state req dda {} (clearExperimentConfigVersion state req.package)
  | stop (hm : req.method = .stop) (hopen : isTerminalPhase dda.status.phase = false)
      (hid : currentExperimentID state req dda ≠ "")
      (hsig : dda.status.experiment = none →
        dda.annotations.get annotationExperimentSignal = experimentSignalStart)
      (hguard : guardPendingOperationSlot dda.annotations
        (req.operation .stop (currentExperimentID state req dda)) = .ok ()) :
      Planning state req dda
        { pending := some (req.operation .stop (currentExperimentID state req dda))
          patch := some (buildSignalPatch experimentSignalRollback
            (currentExperimentID state req dda)) } state
  | promoted (hm : req.method = .promote)
      (hexp : (getPackageConfigVersions state req.package).2 ≠ "")
      (hdone : experimentHasPhase dda (currentExperimentID state req dda) .promoted) :
      Planning state req dda {} (setPackageConfigVersions state req.package
        (getPackageConfigVersions state req.package).2 "")
  | promote (hm : req.method = .promote)
      (hexp : (getPackageConfigVersions state req.package).2 ≠ "")
      (hrun : experimentHasPhase dda (currentExperimentID state req dda) .running)
      (hguard : guardPendingOperationSlot dda.annotations
        (req.operation .promote (currentExperimentID state req dda)
          (getPackageConfigVersions state req.package).2) = .ok ()) :
      Planning state req dda
        { pending := some (req.operation .promote (currentExperimentID state req dda)
            (getPackageConfigVersions state req.package).2)
          patch := some (buildSignalPatch experimentSignalPromote
            (currentExperimentID state req dda)) } state

section
variable {state : InstallerState} {req : RemoteAPIRequest} {dda : DatadogAgent Spec}
  {plan : Plan Spec}

section
omit [DecidableEq Spec]

theorem experimentHasPhase_iff {id : String} :
    experimentHasPhase dda id ph ↔ dda.status.phase = some ph ∧ dda.status.id = id := by
  unfold experimentHasPhase DatadogAgentStatus.phase DatadogAgentStatus.id
  cases dda.status.experiment with
  | none => simp
  | some e => simp [and_comm]

theorem currentExperimentID_of_status (h : dda.status.id ≠ "") :
    currentExperimentID state req dda = dda.status.id := by
  simp [currentExperimentID, h]

theorem currentExperimentID_of_signal (h : dda.status.id = "") (hid : dda.annotationID ≠ "") :
    currentExperimentID state req dda = dda.annotationID := by
  have hne : dda.annotations.get annotationExperimentID ≠ "" := hid
  simp [currentExperimentID, h, hne, DatadogAgent.annotationID]

theorem currentExperimentID_ne (hexp : (getPackageConfigVersions state req.package).2 ≠ "") :
    currentExperimentID state req dda ≠ "" := by
  unfold currentExperimentID
  dsimp only
  split
  · assumption
  · split
    · exact hexp
    · assumption

end

/-- Without an error, or with one and nothing done. -/
def Planning.Result (state : InstallerState) (req : RemoteAPIRequest) (dda : DatadogAgent Spec)
    (planned : Except ε (Plan Spec) × InstallerState) : Prop :=
  match planned with
  | (.ok plan, state') => Planning state req dda plan state'
  | (.error _, state') => state' = state

section
omit [DecidableEq Spec]

theorem planStart_result (hm : req.method = .start) (hv : req.version ≠ "") (config : Spec → Spec) :
    Planning.Result state req dda (planStart state req config (.ok dda)) := by
  unfold planStart
  dsimp only
  split
  · rename_i hrun
    exact .alreadyRunning hm hrun
  · rename_i hrun
    split
    · rename_i hid
      split
      · rfl
      · rename_i hguard
        exact .again hm hv hrun hid hguard
    · rename_i hid
      split
      · rfl
      · rename_i hidle
        split
        · rfl
        · rename_i hguard
          exact .start config hm hv hid (not_not.mp hidle) hguard

theorem signal_of_text (hsig : dda.annotations.get annotationExperimentSignal =
    experimentSignalStart) (hid : dda.annotationID ≠ "") : dda.signal = some .start := by
  simp [DatadogAgent.signal, hsig, hid, experimentSignalStart]

theorem text_of_signal (hsig : dda.signal = some .start) :
    dda.annotations.get annotationExperimentSignal = experimentSignalStart := by
  unfold DatadogAgent.signal at hsig
  dsimp only at hsig
  by_contra htext
  rw [if_neg htext] at hsig
  repeat' split at hsig
  all_goals cases hsig

theorem planStop_result (hm : req.method = .stop) :
    Planning.Result state req dda (planStop state req (.ok dda)) := by
  unfold planStop
  dsimp only
  cases he : dda.status.experiment with
  | none =>
    have hph := phase_of_none he
    have hid := id_of_none he
    dsimp only
    split
    · rename_i hno
      refine .stopped hm (.inl ⟨he, fun hs => ?_⟩)
      have hne := dda.annotationID_ne hs
      rw [currentExperimentID_of_signal hid hne] at hno
      exact hno.resolve_left hne (text_of_signal hs)
    · rename_i hyes
      obtain ⟨hne, hsig⟩ := not_or.mp hyes
      split
      · rfl
      · rename_i hguard
        exact .stop hm (by rw [hph]; rfl) hne (fun _ => not_not.mp hsig) hguard
  | some experiment =>
    have hph := phase_of_experiment he
    dsimp only
    split
    · rename_i hterm
      exact .stopped hm (.inr (hph ▸ hterm))
    · rename_i hopen
      split
      · rfl
      · rename_i hne
        split
        · rfl
        · rename_i hguard
          refine .stop hm ?_ hne (fun hn => ?_) hguard
          · rw [hph]
            exact Bool.eq_false_iff.mpr hopen
          · rw [he] at hn
            cases hn

theorem planPromote_result (hm : req.method = .promote) :
    Planning.Result state req dda (planPromote state req (.ok dda)) := by
  unfold planPromote
  dsimp only
  split
  · rfl
  · rename_i hexp
    split
    · rename_i hdone
      exact .promoted hm hexp hdone
    · split
      · rfl
      · rename_i hrun
        split
        · rfl
        · rename_i hguard
          exact .promote hm hexp (Bool.eq_true_of_not_eq_false hrun) hguard

end

theorem resolveOperation_version
    (h : resolveOperation configs req = .ok config) : req.version ≠ "" := by
  intro hv
  simp [resolveOperation, hv] at h

section
omit [DecidableEq Spec]

theorem Planning.Result.mapError (h : Planning.Result state req dda planned) :
    Planning.Result state req dda (planned.1.mapError f, planned.2) := by
  obtain ⟨result, state'⟩ := planned
  cases result with
  | error e => exact h
  | ok plan => exact h

theorem Planning.nothing_or_planned
    (h : Planning state req dda plan state') : plan = {} ∨ plan.pending.isSome ∧ state' = state := by
  cases h with
  | alreadyRunning | stopped | promoted => exact .inl rfl
  | again | start | stop | promote => exact .inr ⟨rfl, rfl⟩

theorem Planning.packageName (h : Planning state req dda plan state') :
    ∀ op ∈ plan.pending, op.packageName = req.package := by
  cases h with
  | alreadyRunning | stopped | promoted => nofun
  | again | start | stop | promote =>
    rintro _ ⟨⟩
    rfl

end

variable {d : Daemon Spec}

section
omit [DecidableEq Spec]

theorem handleRemoteAPIRequest_result :
    Planning.Result d.installerState req dda (d.handleRemoteAPIRequest req (.ok dda)) := by
  unfold Daemon.handleRemoteAPIRequest
  split
  · rfl
  · unfold Daemon.dispatchRemoteAPIRequest
    cases hm : req.method with
    | unknown text => rfl
    | start =>
      dsimp only
      split
      · rfl
      · cases hres : resolveOperation d.configs req with
        | error e => rfl
        | ok config =>
          exact (planStart_result hm (resolveOperation_version hres) config).mapError
    | stop =>
      dsimp only
      split
      · rfl
      · exact (planStop_result hm).mapError
    | promote =>
      dsimp only
      split
      · rfl
      · exact (planPromote_result hm).mapError

theorem handleTask_cases : (∃ e, d.handleTask req (.ok dda) = ({ d with
        installerState := setTaskState d.installerState req.package req.id e }, none)) ∨
      (∃ state, Planning d.installerState req dda {} state ∧ d.handleTask req (.ok dda) = ({ d with
        installerState := setTaskState state req.package req.id .done }, none)) ∨
      ∃ plan state, Planning d.installerState req dda plan state ∧ plan.pending.isSome ∧
        d.handleTask req (.ok dda) = ({ d with installerState := state }, some plan) := by
  have hresult : Planning.Result d.installerState req dda
    (d.handleRemoteAPIRequest req (.ok dda)) := handleRemoteAPIRequest_result
  unfold Daemon.handleTask
  split
  · rename_i e state heq
    rw [heq] at hresult
    obtain rfl : state = d.installerState := hresult
    exact .inl ⟨_, rfl⟩
  · rename_i plan state heq
    rw [heq] at hresult
    rcases Planning.nothing_or_planned hresult with rfl | ⟨hsome, -⟩
    · exact .inr (.inl ⟨_, hresult, rfl⟩)
    · obtain ⟨op, hop⟩ := Option.isSome_iff_exists.mp hsome
      refine .inr (.inr ⟨plan, state, hresult, hsome, ?_⟩)
      simp [applyOperation, hop]

theorem Planning.planned (h : Planning state req dda plan state')
    (hsome : plan.pending.isSome) : Planned plan := by
  cases h with
  | alreadyRunning | stopped | promoted => cases hsome
  | again => exact .again _ rfl
  | start config _ hv => exact .start _ config rfl hv
  | stop | promote => exact .other _ nofun

theorem handleTask_failed (e : ApiError) : ∃ task, d.handleTask req (.error e) = ({ d with
    installerState := setTaskState d.installerState req.package req.id task }, none) := by
  have hresult : ∃ err, d.handleRemoteAPIRequest req (.error e) = (.error err, d.installerState) := by
    unfold Daemon.handleRemoteAPIRequest
    split
    · exact ⟨_, rfl⟩
    · unfold Daemon.dispatchRemoteAPIRequest
      cases req.method with
      | unknown text => exact ⟨_, rfl⟩
      | start =>
        dsimp only
        split
        · exact ⟨_, rfl⟩
        · split <;> exact ⟨_, rfl⟩
      | stop =>
        dsimp only
        split <;> exact ⟨_, rfl⟩
      | promote =>
        dsimp only [planPromote]
        split
        · exact ⟨_, rfl⟩
        · split <;> exact ⟨_, rfl⟩
  obtain ⟨err, heq⟩ := hresult
  unfold Daemon.handleTask
  rw [heq]
  exact ⟨_, rfl⟩

theorem handleTask_error (e : ApiError) : (d.handleTask req (.error e)).2 = none := by
  obtain ⟨task, heq⟩ := (handleTask_failed e : ∃ task, d.handleTask req (.error e) = _)
  rw [heq]

theorem handleTask_some (h : (d.handleTask req (.ok dda)).2 = some plan) :
    plan.pending.isSome ∧ ∃ state, Planning d.installerState req dda plan state := by
  rcases handleTask_cases (d := d) with ⟨e, heq⟩ | ⟨state, -, heq⟩ | ⟨plan', state, hp, hsome, heq⟩
  · rw [heq] at h
    cases h
  · rw [heq] at h
    cases h
  · rw [heq] at h
    obtain rfl : plan' = plan := Option.some.inj h
    exact ⟨hsome, state, hp⟩

end

end

/-! ## Patches -/

section
variable {op : PendingOperation} {d : DatadogAgent Spec}

theorem patchWith_start (config : Spec → Spec) (hi : op.intent = .start) :
    patchWith (applyOperation (some op)
      (some (buildSignalPatch op.signal op.experimentID (some config)))) d =
        daemonWrite op (config d.spec) d := by
  simp [patchWith, applyOperation, buildSignalPatch, daemonWrite, Patch.apply, hi]

theorem patchWith_other (hi : op.intent ≠ .start) : patchWith (applyOperation (some op)
      (some (buildSignalPatch op.signal op.experimentID))) d = daemonWrite op d.spec d := by
  simp [patchWith, applyOperation, buildSignalPatch, daemonWrite, Patch.apply, hi]

theorem patchWith_again : patchWith (applyOperation (some op) none) d =
      d.commit { d with annotations := d.annotations.mergePatch op.annotations } := by
  simp [patchWith, applyOperation, Patch.apply]

theorem ofText_text (intent : PendingIntent) : PendingIntent.ofText intent.text = some intent := by
  cases intent <;> decide

theorem PendingOperation.annotations_datadog (op : PendingOperation) :
    ∀ kv ∈ op.annotations, isDatadogKey kv.1 = false := by
  simp only [PendingOperation.annotations, List.forall_mem_cons, List.not_mem_nil,
    false_imp_iff, implies_true, and_true]
  decide

theorem PendingOperation.annotations_signal (op : PendingOperation) :
    annotationExperimentSignal ∉ op.annotations.map Prod.fst ∧
      annotationExperimentID ∉ op.annotations.map Prod.fst := by
  simp only [PendingOperation.annotations, List.map_cons, List.map_nil]
  decide

-- The annotations of a pending task, and their values as a reader gets them.
def pendingKeys : List String := noPendingAnnotations.map Prod.fst

def pendingFields (a : Annotations) : List String := pendingKeys.map a.get

def PendingOperation.fields (op : PendingOperation) : List String :=
  [op.taskID, op.intent.text, op.experimentID, op.packageName, op.resultVersion]

def PendingOperation.Readable (op : PendingOperation) : Prop :=
  op.taskID ≠ "" ∧ op.experimentID ≠ "" ∧ op.packageName ≠ ""

theorem text_of_ofText (h : PendingIntent.ofText text = some intent) : text = intent.text := by
  unfold PendingIntent.ofText at h
  repeat' split at h
  all_goals cases h
  all_goals assumption

theorem pendingOperation_iff :
    pendingOperationFromAnnotations a = some op ↔ pendingFields a = op.fields ∧ op.Readable := by
  have hfields : pendingFields a = [a.get annotationPendingTaskID, a.get annotationPendingAction,
      a.get annotationPendingExperimentID, a.get annotationPendingPackage,
      a.get annotationPendingResultVersion] := rfl
  rw [hfields]
  unfold pendingOperationFromAnnotations
  dsimp only
  constructor
  · intro h
    split at h
    · cases h
    · rename_i hne
      obtain ⟨htask, hrest⟩ := not_or.mp hne
      obtain ⟨hexp, hpkg⟩ := not_or.mp hrest
      obtain ⟨intent, htext, rfl⟩ := Option.map_eq_some_iff.mp h
      refine ⟨?_, htask, hexp, hpkg⟩
      rw [text_of_ofText htext]
      rfl
  · rintro ⟨heq, htask, hexp, hpkg⟩
    simp only [PendingOperation.fields, List.cons.injEq, and_true] at heq
    obtain ⟨h1, h2, h3, h4, h5⟩ := heq
    rw [h1, h2, h3, h4, h5, ofText_text, if_neg (by simp [htask, hexp, hpkg])]
    rfl

theorem pendingOperation_congr (h : pendingFields a' = pendingFields a) :
    pendingOperationFromAnnotations a' = pendingOperationFromAnnotations a := by
  refine Option.ext fun op => ?_
  rw [pendingOperation_iff, pendingOperation_iff, h]

theorem pendingFields_congr (h : ∀ key ∈ pendingKeys, a'.lookup key = a.lookup key) :
    pendingFields a' = pendingFields a ∧
      a'.lookup annotationPendingTaskID = a.lookup annotationPendingTaskID := by
  refine ⟨List.map_congr_left fun key hkey => ?_, h _ (by decide)⟩
  rw [Annotations.get, Annotations.get, h key hkey]

theorem isFleetKey_of_pending : ∀ key ∈ pendingKeys, isFleetKey key ∧
    key ≠ annotationExperimentID ∧ key ≠ annotationExperimentSignal := by
  decide

theorem pendingFields_mergePatch (a : Annotations) (op : PendingOperation) :
    pendingFields (a.mergePatch op.annotations) = op.fields := by
  have hnodup : (op.annotations.map Prod.fst).Nodup := by
    simp only [PendingOperation.annotations, List.map_cons, List.map_nil]
    decide
  have hget (key v : String) (hmem : (key, some v) ∈ op.annotations) :
      Annotations.get (a.mergePatch op.annotations) key = v := by
    rw [Annotations.get, lookup_mergePatch_of_mem a hnodup hmem]
    rfl
  have hresult : Annotations.get (a.mergePatch op.annotations) annotationPendingResultVersion =
      op.resultVersion := by
    rw [Annotations.get, lookup_mergePatch_of_mem a hnodup (List.mem_of_getLast? rfl)]
    by_cases hr : op.resultVersion = "" <;> simp [hr]
  simp only [pendingFields, pendingKeys, noPendingAnnotations, List.map_cons, List.map_nil,
    PendingOperation.fields]
  rw [hget annotationPendingTaskID op.taskID (by simp [PendingOperation.annotations]),
    hget annotationPendingAction op.intent.text (by simp [PendingOperation.annotations]),
    hget annotationPendingExperimentID op.experimentID (by simp [PendingOperation.annotations]),
    hget annotationPendingPackage op.packageName (by simp [PendingOperation.annotations]), hresult]

theorem PendingOperation.fields_injective (h : op.fields = op'.fields) : op = op' := by
  obtain ⟨intent, taskID, packageName, experimentID, resultVersion⟩ := op
  obtain ⟨intent', taskID', packageName', experimentID', resultVersion'⟩ := op'
  simp only [PendingOperation.fields, List.cons.injEq, and_true] at h
  obtain ⟨rfl, htext, rfl, rfl, rfl⟩ := h
  have hintent : some intent = some intent' := by
    rw [← ofText_text intent, htext, ofText_text]
  cases hintent
  rfl

/-- A write that touches only the pending task. -/
structure OnlyPending (d d' : DatadogAgent Spec) : Prop where
  status : d'.status = d.status
  spec : d'.spec = d.spec
  datadog : datadogAnnotations d'.annotations = datadogAnnotations d.annotations
  signal : d'.signal = d.signal
  annotationID : d'.annotationID = d.annotationID

omit [DecidableEq Spec] in
theorem OnlyPending.refl (d : DatadogAgent Spec) : OnlyPending d d := ⟨rfl, rfl, rfl, rfl, rfl⟩

omit [DecidableEq Spec] in
theorem OnlyPending.snapshot (h : OnlyPending d d') : d'.snapshot = d.snapshot := by
  simp only [DatadogAgent.snapshot, buildRevisionSnapshot, h.spec, h.datadog]

theorem onlyPending_mergePatch (d : DatadogAgent Spec) (patch : List (String × Option String))
    (hdatadog : ∀ kv ∈ patch, isDatadogKey kv.1 = false)
    (hsig : annotationExperimentSignal ∉ patch.map Prod.fst)
    (hid : annotationExperimentID ∉ patch.map Prod.fst) :
    OnlyPending d (d.commit { d with annotations := d.annotations.mergePatch patch }) := by
  have hsame : (d.commit { d with annotations := d.annotations.mergePatch patch }).signal =
      d.signal ∧ (d.commit { d with annotations := d.annotations.mergePatch patch }).annotationID =
        d.annotationID := by
    refine DatadogAgent.signal_congr ?_ ?_
    · rw [DatadogAgent.commit_annotations, lookup_mergePatch_of_not_mem _ hid]
    · rw [DatadogAgent.commit_annotations, lookup_mergePatch_of_not_mem _ hsig]
  refine ⟨by simp, by simp, ?_, hsame.1, hsame.2⟩
  rw [DatadogAgent.commit_annotations]
  exact datadogAnnotations_mergePatch _ hdatadog

theorem pending_mergePatch_none (a : Annotations) :
    pendingOperationFromAnnotations (a.mergePatch noPendingAnnotations) = none := by
  have htask : Annotations.get (a.mergePatch noPendingAnnotations) annotationPendingTaskID = "" := by
    rw [Annotations.get, lookup_mergePatch_of_mem a (by decide)
      (show (annotationPendingTaskID, none) ∈ noPendingAnnotations by decide)]
    rfl
  simp [pendingOperationFromAnnotations, htask]

def PendingIntent.reached : PendingIntent → Option ExperimentPhase → Bool
  | .start, phase => decide (phase = some .running)
  | .stop, phase => isTerminalPhase phase
  | .promote, phase => decide (phase = some .promoted)

section
omit [DecidableEq Spec]

theorem evaluate_done_iff : evaluatePendingTask (newDDAStatusSnapshot d) op = (true, none) ↔
    d.status.id = op.experimentID ∧ op.intent.reached d.status.phase := by
  unfold evaluatePendingTask newDDAStatusSnapshot
  cases he : d.status.experiment with
  | none =>
    rw [DatadogAgentStatus.phase, he]
    cases op.intent <;> simp [PendingIntent.reached, isTerminalPhase]
  | some e =>
    rw [phase_of_experiment he, id_of_experiment he]
    dsimp only
    by_cases hid : e.id = op.experimentID
    · rw [if_neg (not_not.mpr hid)]
      cases op.intent with
      | start | promote =>
        simp only [PendingIntent.reached, hid, true_and, decide_eq_true_eq]
        split
        · simp_all
        · split <;> simp_all
      | stop => simp [PendingIntent.reached, hid]
    · simp [hid]

theorem onStatusUpdate_finished {daemon : Daemon Spec} {get : Except ApiError (DatadogAgent Spec)}
    (hop : pendingOperationFromAnnotations snapshot.annotations = some op)
    (heval : (evaluatePendingTask snapshot op).1) :
    (daemon.onStatusUpdate snapshot get).1.installerState = finishPendingOperation
      (reconcileLocallyTerminatedExperiment daemon.installerState snapshot) op
      (evaluatePendingTask snapshot op).2 := by
  obtain ⟨resultErr, h⟩ : ∃ resultErr, evaluatePendingTask snapshot op = (true, resultErr) :=
    ⟨_, Prod.ext heval rfl⟩
  simp only [Daemon.onStatusUpdate, hop, h]

theorem onStatusUpdate_patch (daemon : Daemon Spec) (snapshot : StatusSnapshot)
    (get : Except ApiError (DatadogAgent Spec)) :
    (daemon.onStatusUpdate snapshot get).2 = none ∨
      ∃ op current, pendingOperationFromAnnotations snapshot.annotations = some op ∧
        (evaluatePendingTask snapshot op).1 ∧ get = .ok current ∧
        pendingOperationFromAnnotations current.annotations = some op ∧
        (daemon.onStatusUpdate snapshot get).2 = some { annotations := noPendingAnnotations } := by
  unfold Daemon.onStatusUpdate clearPendingAnnotationsIfCurrent
  split
  · exact .inl rfl
  · rename_i op hop
    split
    · exact .inl rfl
    · rename_i resultErr heval
      split
      · exact .inl rfl
      · rename_i current
        split
        · rename_i hcurrent
          exact .inr ⟨op, current, hop, by rw [heval], rfl, hcurrent, rfl⟩
        · exact .inl rfl

end

theorem onStatusUpdate_pending (daemon : Daemon Spec) (snapshot : StatusSnapshot)
    (get : Except ApiError (DatadogAgent Spec)) (d : DatadogAgent Spec) :
    patchWith (daemon.onStatusUpdate snapshot get).2 d = d ∨ pendingOperationFromAnnotations
      (patchWith (daemon.onStatusUpdate snapshot get).2 d).annotations = none := by
  rcases onStatusUpdate_patch daemon snapshot get with hnone | ⟨-, -, -, -, -, -, hclear⟩
  · rw [hnone]
    exact .inl rfl
  · rw [hclear, patchWith, Patch.apply, DatadogAgent.commit_annotations]
    exact .inr (pending_mergePatch_none d.annotations)

theorem onStatusUpdate_onlyPending (daemon : Daemon Spec) (snapshot : StatusSnapshot)
    (get : Except ApiError (DatadogAgent Spec)) (d : DatadogAgent Spec) :
    OnlyPending d (patchWith (daemon.onStatusUpdate snapshot get).2 d) := by
  rcases onStatusUpdate_patch daemon snapshot get with hnone | ⟨-, -, -, -, -, -, hclear⟩
  · rw [hnone]
    exact .refl d
  · rw [hclear]
    exact onlyPending_mergePatch d noPendingAnnotations (by decide) (by decide) (by decide)

structure Patches (plan : Plan Spec) (d d' : DatadogAgent Spec) : Prop where
  status : d'.status = d.status
  datadog : datadogAnnotations d'.annotations = datadogAnnotations d.annotations
  fields : ∀ op ∈ plan.pending, pendingFields d'.annotations = op.fields ∧
    d'.annotations.lookup annotationPendingTaskID = some op.taskID
  unsignalled : plan.patch.isNone → OnlyPending d d'
  carries : plan.patch.isSome → ∀ op ∈ plan.pending, op.experimentID ≠ "" →
    d'.signal = some op.intent.signal ∧ d'.annotationID = op.experimentID
  started : ∀ id ∈ plan.starts, d'.signal = some .start ∧ d'.annotationID = id
  signalled : plan.patch.isSome → plan.starts = none → d'.spec = d.spec ∧ d'.signal ≠ some .start

theorem daemonWrite_signal (hid : op.experimentID ≠ "") :
    (daemonWrite op spec d).signal = some op.intent.signal := by
  obtain ⟨hsig, hann⟩ := daemonWrite_get op spec d
  unfold DatadogAgent.signal
  rw [hsig, hann, PendingOperation.signal]
  cases op.intent <;> simp [hid, experimentSignalStart, experimentSignalRollback,
    experimentSignalPromote, PendingIntent.signal]

theorem lookup_mergePatch_task (a : Annotations) (op : PendingOperation) :
    Finmap.lookup annotationPendingTaskID (a.mergePatch op.annotations) = some op.taskID := by
  refine lookup_mergePatch_of_mem a ?_ (List.mem_of_mem_head? rfl)
  simp only [PendingOperation.annotations, List.map_cons, List.map_nil]
  decide

theorem daemonWrite_fields : pendingFields (daemonWrite op spec d).annotations = op.fields ∧
      (daemonWrite op spec d).annotations.lookup annotationPendingTaskID = some op.taskID := by
  rw [daemonWrite_annotations, Annotations.mergePatch, List.foldl_append]
  exact ⟨pendingFields_mergePatch _ op, lookup_mergePatch_task _ op⟩

theorem Planned.patches (h : Planned plan) (d : DatadogAgent Spec) :
    Patches plan d (patchWith (applyOperation plan.pending plan.patch) d) := by
  cases h with
  | start op config hi hid =>
    rw [patchWith_start config hi]
    refine ⟨daemonWrite_status _ _ _, daemonWrite_datadog _ _ _, ?_, nofun, ?_, ?_, ?_⟩
    · rintro _ ⟨⟩
      exact daemonWrite_fields
    · rintro _ _ ⟨⟩ -
      exact ⟨daemonWrite_signal hid, (daemonWrite_get _ _ _).2⟩
    · intro id hstarts
      simp only [Plan.starts, hi, Option.isSome_some, and_self, if_true, Option.mem_def,
        Option.some.injEq] at hstarts
      subst hstarts
      refine ⟨?_, (daemonWrite_get _ _ _).2⟩
      rw [daemonWrite_signal hid, hi]
      rfl
    · intro _ hno
      simp [Plan.starts, hi] at hno
  | again op hi =>
    rw [patchWith_again]
    have honly := onlyPending_mergePatch d op.annotations op.annotations_datadog op.annotations_signal.1
      op.annotations_signal.2
    refine ⟨honly.status, honly.datadog, ?_, fun _ => honly, nofun, ?_, nofun⟩
    · rintro _ ⟨⟩
      rw [DatadogAgent.commit_annotations]
      exact ⟨pendingFields_mergePatch _ op, lookup_mergePatch_task _ op⟩
    · intro id hstarts
      simp [Plan.starts] at hstarts
  | other op hi =>
    rw [patchWith_other hi]
    refine ⟨daemonWrite_status _ _ _, daemonWrite_datadog _ _ _, ?_, nofun, ?_, ?_, ?_⟩
    · rintro _ ⟨⟩
      exact daemonWrite_fields
    · rintro _ _ ⟨⟩ hid
      exact ⟨daemonWrite_signal hid, (daemonWrite_get _ _ _).2⟩
    · intro id hstarts
      simp [Plan.starts, hi] at hstarts
    · intro _ _
      exact ⟨by rw [daemonWrite_spec, if_neg hi], fun hs => hi (daemonWrite_start _ _ _ hs)⟩

omit [DecidableEq Spec] in
theorem Patches.pending (h : Patches plan d d') (hp : plan.pending.isSome) :
    ∀ op ∈ pendingOperationFromAnnotations d'.annotations, plan.pending = some op := by
  intro op hop
  obtain ⟨op', hop'⟩ := Option.isSome_iff_exists.mp hp
  obtain ⟨hfields, -⟩ := pendingOperation_iff.mp hop
  rw [hop', PendingOperation.fields_injective ((h.fields op' hop').1.symm.trans hfields)]

theorem Planned.isSome (h : Planned plan) : plan.pending.isSome := by
  cases h <;> rfl

end

end DatadogOperator.Fleet
