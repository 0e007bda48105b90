import DatadogOperator.Fleet.Daemon
import DatadogOperator.History

/-!
# Clearing signals

A reconcile clears the signal of the object when its status already makes
the signal a no-op. The clear is a JSON patch that tests the experiment ID
and removes signal and ID; between the read of the reconcile and the patch
the daemon may have written another signal with the same ID.
-/

namespace DatadogOperator

variable {Spec : Type} [DecidableEq Spec]

section
variable {r : Reconciler Spec}

/-- The status makes the signal on the object a no-op. -/
def SignalSettled (revisions : List (ControllerRevision Spec)) (d : DatadogAgent Spec) : Prop :=
  match d.signal with
  | none => False
  | some .start => d.annotationID = d.status.id ∨ d.status.phase = some .running
  | some .rollback => isTerminalPhase d.status.phase ∨
      d.status.phase = none ∧ atHighest revisions d = false
  | some .promote => isTerminalPhase d.status.phase ∨ d.status.phase = none
  | some .unknown => True

/-- Nothing ends a running experiment: no manual change and no timeout. -/
def Undisturbed (r : Reconciler Spec) (now : Time) (revisions : List (ControllerRevision Spec))
    (d : DatadogAgent Spec) : Prop :=
  d.status.phase = some .running → manuallyChanged revisions d = false ∧
    ¬((findMostRecentMatchingRevision revisions d).isSome ∧ r.timedOut now d)

theorem keep_signal_iff :
    verdict r now revisions d = .keep ∧ d.signal.isSome ↔
      SignalSettled revisions d ∧ Undisturbed r now revisions d := by
  unfold SignalSettled Undisturbed
  by_cases hp : d.status.phase = some .running
  · rw [verdict_running hp]
    cases manuallyChanged revisions d with
    | true => simp [hp]
    | false =>
      cases d.signal with
      | none => simp
      | some s => cases s <;> simp [hp, isTerminalPhase]
  · rw [verdict_not_running hp]
    cases d.signal with
    | none => simp
    | some s =>
      cases s with
      | start => simp [hp]
      | rollback =>
        by_cases hnone : d.status.phase = none <;> simp [hnone, hp, isTerminalPhase_iff]
      | promote => by_cases hnone : d.status.phase = none <;> simp [hnone, hp, isTerminalPhase_iff]
      | unknown => simp [hp]

def Call.isClear : Call Spec → Bool
  | .clear .. => true
  | _ => false

theorem rollback_clears (env : Env Spec) (target : String) (p : Pass Spec) :
    (rollback env target p).2.calls.filter Call.isClear = p.calls.filter Call.isClear := by
  unfold rollback
  dsimp only
  repeat' split
  all_goals simp [Pass.interfere, Pass.setDDA, Call.isClear]

theorem updateStatusIfNeeded_clears (env : Env Spec) (inst : DatadogAgent Spec)
    (newStatus : DatadogAgentStatus) (err : Option Error) (p : Pass Spec) :
    (updateStatusIfNeeded env inst newStatus err p).2.calls.filter Call.isClear =
      p.calls.filter Call.isClear := by
  unfold updateStatusIfNeeded
  dsimp only
  repeat' split
  all_goals simp [Pass.interfere, Pass.setDDA, Call.isClear]

def DatadogAgent.clear (d : DatadogAgent Spec) (expectedID : String) : DatadogAgent Spec :=
  match d.annotations.jsonPatch (clearOps expectedID) with
  | some annotations => d.commit { d with annotations }
  | none => d

def clearCall (env : Env Spec) (inst dda : DatadogAgent Spec) : Call Spec :=
  let old := env.beforeClear dda
  .clear inst.annotationID old (if env.clear.isSome then old else old.clear inst.annotationID)

theorem act_clears (env : Env Spec) (now : Time) (inst : DatadogAgent Spec) (p : Pass Spec)
    (hp : p.calls = []) (v : Verdict) :
    (v.act env now inst p).2.calls.filter Call.isClear =
      if v = .keep ∧ inst.signal.isSome then [clearCall env inst p.server.dda] else [] := by
  rw [(act_writes env now inst p v).2.2]
  cases v
  case keep =>
    simp only [true_and]
    split
    · simp only [clearExperimentAnnotations, Pass.interfere, Pass.setDDA, hp, List.nil_append,
        clearCall, DatadogAgent.clear]
      cases env.clear with
      | some e => rfl
      | none => cases (env.beforeClear p.server.dda).annotations.jsonPatch _ <;> rfl
    · rw [hp]
      rfl
  case restore | recover => rw [rollback_clears, hp]; rfl
  all_goals rw [hp]; rfl

theorem reconcile_clears (env : Env Spec) (now : Time) (inst : DatadogAgent Spec)
    (server : Server Spec) :
    (reconcileInstance r env now inst server).2.calls.filter Call.isClear =
      if env.hold ∨ env.listRevisions.isSome then []
      else ((verdict r now server.revisions inst).act env now inst
        (.begin inst server)).2.calls.filter Call.isClear := by
  refine reconcileInstance_keeps r env now server (fun p => p.calls.filter Call.isClear) inst
    (updateStatusIfNeeded_clears env inst) fun p => ?_
  rw [(manageRevision_aside r env inst.snapshot p).calls]

theorem reconcile_clear_iff (hclear : call.isClear) :
    call ∈ (reconcileInstance r env now inst server).2.calls ↔
      env.hold = false ∧ env.listRevisions = none ∧ SignalSettled server.revisions inst ∧
        Undisturbed r now server.revisions inst ∧ call = clearCall env inst server.dda := by
  have hmem : call ∈ (reconcileInstance r env now inst server).2.calls ↔
      call ∈ (reconcileInstance r env now inst server).2.calls.filter Call.isClear := by
    simp [hclear]
  rw [hmem, reconcile_clears, act_clears env now inst (.begin inst server) rfl]
  by_cases hset : SignalSettled server.revisions inst ∧ Undisturbed r now server.revisions inst
  · rw [if_pos (keep_signal_iff.mpr hset)]
    cases env.hold <;> cases env.listRevisions <;> simp [hset, Pass.begin]
  · rw [if_neg (keep_signal_iff.not.mpr hset)]
    simp only [ite_self, List.not_mem_nil, false_iff]
    rintro ⟨-, -, h1, h2, -⟩
    exact hset ⟨h1, h2⟩

theorem reconcile_clear_settled
    (hcall : .clear expectedID old new ∈ (reconcileInstance r env now s.dda s).2.calls) :
    expectedID = s.dda.annotationID ∧ SignalSettled s.revisions s.dda := by
  obtain ⟨-, -, hset, -, heq⟩ := (reconcile_clear_iff rfl).mp hcall
  obtain ⟨rfl, -, -⟩ := Call.clear.inj heq
  exact ⟨rfl, hset⟩

end

/-! ## Writes between the read and the clear -/

/-- A committed write of the object: by the daemon (a signal, or only its
pending task), by its worker, by a user, or by an earlier reconcile (its
clear, its status write, its rollback). -/
inductive Commit (Spec : Type)
  | daemon (op : Fleet.PendingOperation) (spec : Spec)
  | pending (op : Fleet.PendingOperation)
  | finish (read : DatadogAgent Spec) (op : Fleet.PendingOperation)
  | edit (spec : Spec) (annotations : Annotations)
  | clear (expectedID : String)
  | status (newStatus : DatadogAgentStatus)
  | restore (spec : Spec) (annotations : Annotations)

def Commit.apply (d : DatadogAgent Spec) : Commit Spec → DatadogAgent Spec
  | .daemon op spec => daemonWrite op spec d
  | .pending op => Fleet.patchWith (Fleet.applyOperation (some op) none) d
  | .finish read op => Fleet.patchWith (Fleet.clearPendingAnnotationsIfCurrent (.ok read) op) d
  | .edit spec annotations => userWrite spec annotations d
  | .clear expectedID => d.clear expectedID
  | .status newStatus => d.commit { d with status := newStatus }
  | .restore spec annotations => d.commit (restored (buildRevisionSnapshot spec annotations) d)

def commits (cs : List (Commit Spec)) (d : DatadogAgent Spec) : DatadogAgent Spec :=
  cs.foldl Commit.apply d

abbrev SignalPair := String × String

def DatadogAgent.signalPair (d : DatadogAgent Spec) : SignalPair :=
  (d.annotations.get annotationExperimentSignal, d.annotationID)

/-- The signal a write leaves on the object that carried `pending`. -/
def Commit.outstanding (pending : Option SignalPair) : Commit Spec → Option SignalPair
  | .daemon op _ => some (op.signal, op.experimentID)
  | .clear expectedID => pending.filter fun pair => decide (pair.2 ≠ expectedID)
  | _ => pending

/-- The signal on the object after the writes: the last one of the daemon, or
the one read when there is none, unless it was cleared since. -/
def outstanding (read : DatadogAgent Spec) (cs : List (Commit Spec)) : Option SignalPair :=
  cs.foldl Commit.outstanding (some read.signalPair)

def Carries (pending : Option SignalPair) (d : DatadogAgent Spec) : Prop :=
  match pending with
  | some pair => d.annotations.lookup annotationExperimentSignal = some pair.1 ∧
      d.annotations.lookup annotationExperimentID = some pair.2
  | none => d.annotations.lookup annotationExperimentID = none

section
variable {pending : Option SignalPair} {d d' : DatadogAgent Spec}

omit [DecidableEq Spec] in
theorem Carries.of_same (h : Carries pending d)
    (hsig : d'.annotations.lookup annotationExperimentSignal =
      d.annotations.lookup annotationExperimentSignal)
    (hid : d'.annotations.lookup annotationExperimentID =
      d.annotations.lookup annotationExperimentID) : Carries pending d' := by
  unfold Carries at h ⊢
  rwa [hsig, hid]

theorem Carries.patchWith (h : Carries pending d)
    (hkeys : ∀ p ∈ patch, annotationExperimentSignal ∉ p.annotations.map Prod.fst ∧
      annotationExperimentID ∉ p.annotations.map Prod.fst) :
    Carries pending (Fleet.patchWith patch d) := by
  cases patch with
  | none => exact h
  | some p =>
    obtain ⟨hsig, hid⟩ := hkeys p rfl
    refine h.of_same ?_ ?_
    · simp [Fleet.patchWith, Fleet.Patch.apply, lookup_mergePatch_of_not_mem _ hsig]
    · simp [Fleet.patchWith, Fleet.Patch.apply, lookup_mergePatch_of_not_mem _ hid]

theorem Carries.clear (h : Carries pending d) (expectedID : String) :
    Carries (pending.filter fun pair => decide (pair.2 ≠ expectedID))
      (d.clear expectedID) := by
  simp only [DatadogAgent.clear, jsonPatch_clearOps]
  cases pending with
  | none =>
    have hno : d.annotations.lookup annotationExperimentID = none := h
    simpa [hno] using h
  | some pair =>
    obtain ⟨hsig, hid⟩ := h
    by_cases heq : pair.2 = expectedID
    · rw [Option.filter_some, if_neg (by simp [heq])]
      simp [hid, hsig, heq, Carries]
    · rw [Option.filter_some, if_pos (by simp [heq])]
      simp [hid, hsig, heq, Carries]

theorem Carries.step (h : Carries pending d) (c : Commit Spec) :
    Carries (c.outstanding pending) (c.apply d) := by
  cases c with
  | daemon op spec =>
    obtain ⟨hid, hsig⟩ := daemonWrite_lookup op spec d
    exact ⟨hsig, hid⟩
  | pending op =>
    refine h.patchWith ?_
    rintro p ⟨⟩
    simp only [Fleet.PendingOperation.annotations, Option.getD_none, List.nil_append,
      List.map_cons, List.map_nil]
    decide
  | finish read op =>
    refine h.patchWith ?_
    intro p hp
    unfold Fleet.clearPendingAnnotationsIfCurrent at hp
    dsimp only at hp
    split at hp
    · cases hp
      exact (by decide : annotationExperimentSignal ∉ Fleet.noPendingAnnotations.map Prod.fst ∧
        annotationExperimentID ∉ Fleet.noPendingAnnotations.map Prod.fst)
    · cases hp
  | edit spec annotations =>
    exact h.of_same (userWrite_fleet spec annotations d isFleetKey_experimentSignal)
      (userWrite_fleet spec annotations d isFleetKey_experimentID)
  | clear expectedID => exact h.clear expectedID
  | status newStatus => exact h.of_same (by simp [Commit.apply]) (by simp [Commit.apply])
  | restore spec annotations =>
    have hsame : FleetSame d.annotations
        (restored (buildRevisionSnapshot spec annotations) d).annotations :=
      fleetSame_restored d (datadogAnnotations_idem annotations)
    refine h.of_same ?_ ?_
    · simpa [Commit.apply] using hsame _ isFleetKey_experimentSignal
    · simpa [Commit.apply] using hsame _ isFleetKey_experimentID

theorem Carries.run (h : Carries pending d) (cs : List (Commit Spec)) :
    Carries (cs.foldl Commit.outstanding pending) (commits cs d) := by
  induction cs generalizing pending d with
  | nil => exact h
  | cons c cs ih => exact ih (h.step c)

omit [DecidableEq Spec] in
theorem carries_read (hs : d.signal.isSome) : Carries (some d.signalPair) d := by
  have hne : d.annotations.get annotationExperimentSignal ≠ "" ∧ d.annotationID ≠ "" := by
    refine ⟨fun h => ?_, fun h => ?_⟩
    · simp [DatadogAgent.signal, h] at hs
    · obtain ⟨s, hs⟩ := Option.isSome_iff_exists.mp hs
      exact DatadogAgent.annotationID_ne d hs h
  have hlookup {key : String} (h : d.annotations.get key ≠ "") :
      d.annotations.lookup key = some (d.annotations.get key) := by
    unfold Annotations.get at h ⊢
    cases hk : d.annotations.lookup key with
    | none => simp [hk] at h
    | some v => rfl
  exact ⟨hlookup hne.1, hlookup hne.2⟩

theorem clear_ne (h : Carries (some pair) d) : d.clear pair.2 ≠ d := by
  intro heq
  have hgone : (d.clear pair.2).annotations.lookup annotationExperimentID = none := by
    simp [DatadogAgent.clear, jsonPatch_clearOps, h.1, h.2]
  rw [heq, h.2] at hgone
  cases hgone

theorem clear_eq_of_ne (h : Carries pending d)
    (hne : ∀ pair ∈ pending, pair.2 ≠ expectedID) : d.clear expectedID = d := by
  have htest : d.annotations.lookup annotationExperimentID ≠ some expectedID := by
    cases pending with
    | none =>
      rw [show d.annotations.lookup annotationExperimentID = none from h]
      nofun
    | some pair =>
      rw [h.2]
      exact fun heq => hne pair rfl (Option.some.inj heq)
  simp [DatadogAgent.clear, jsonPatch_clearOps, htest]

end

def Call.RemovesOnly (pair : SignalPair) : Call Spec → Prop
  | .clear _ old new => new ≠ old → old.signalPair = pair
  | _ => True

instance (pair : SignalPair) : (call : Call Spec) → Decidable (call.RemovesOnly pair)
  | .clear _ _ _ => inferInstanceAs (Decidable (_ → _))
  | .update .. | .status .. => isTrue trivial

/-- The writes since the read put another signal under the same ID. -/
def Overtaken (read : DatadogAgent Spec) (cs : List (Commit Spec)) : Prop :=
  ∃ signal, outstanding read cs = some (signal, read.annotationID) ∧
    signal ≠ read.annotations.get annotationExperimentSignal

/-- A reconcile whose read is older than the writes `stale`, with the writes
`racing` before its clear: it removes only the signal it has read, unless the
signal it has read is settled and was overtaken. -/
theorem clear_removes_read_signal_iff (r : Reconciler Spec) (env : Env Spec) (now : Time)
    (inst : DatadogAgent Spec) (revisions : List (ControllerRevision Spec))
    (stale racing : List (Commit Spec)) :
    (∀ call ∈ (reconcileInstance r { env with beforeClear := commits racing } now inst
        ⟨commits stale inst, revisions⟩).2.calls, call.RemovesOnly inst.signalPair) ↔
      ¬(env.hold = false ∧ env.listRevisions = none ∧ env.clear = none ∧
        SignalSettled revisions inst ∧ Undisturbed r now revisions inst ∧
        Overtaken inst (stale ++ racing)) := by
  have hold : commits racing (commits stale inst) = commits (stale ++ racing) inst := by
    simp [commits]
  have hcarries (hset : SignalSettled revisions inst) (hund : Undisturbed r now revisions inst) :
      Carries (outstanding inst (stale ++ racing)) (commits (stale ++ racing) inst) :=
    (carries_read (keep_signal_iff.mpr ⟨hset, hund⟩).2).run _
  constructor
  · rintro hall ⟨hh, hl, hc, hset, hund, signal, hout, hne⟩
    have hcar := hcarries hset hund
    rw [hout] at hcar
    have hremoves := hall _ ((reconcile_clear_iff rfl).mpr ⟨hh, hl, hset, hund, rfl⟩)
    simp only [clearCall, Call.RemovesOnly, hold, hc, Option.isSome_none, Bool.false_eq_true,
      if_false] at hremoves
    have hpair := hremoves (clear_ne hcar)
    have hsignal : (commits (stale ++ racing) inst).signalPair.1 = signal := by
      rw [DatadogAgent.signalPair, Annotations.get, hcar.1]
      rfl
    exact hne (hsignal.symm.trans (congrArg Prod.fst hpair))
  · intro hno call hcall
    cases call with
    | update | status => trivial
    | clear expectedID old new =>
      intro hchanged
      obtain ⟨hh, hl, hset, hund, heq⟩ := (reconcile_clear_iff rfl).mp hcall
      have hcar := hcarries hset hund
      rw [clearCall] at heq
      obtain ⟨-, hold', hnew⟩ := Call.clear.inj heq
      have hold : old = commits (stale ++ racing) inst := hold'.trans hold
      have hc : env.clear = none := by
        cases hc : env.clear with
        | none => rfl
        | some e => exact absurd (hnew.trans (by simp [hc, hold'])) hchanged
      have hnew : new = (commits (stale ++ racing) inst).clear inst.annotationID := by
        rw [hnew]
        simp [hc, ← hold, hold']
      -- The clear took something away, so the object carried the ID that was read.
      obtain ⟨pair, hpair, hid⟩ : ∃ pair ∈ outstanding inst (stale ++ racing),
          pair.2 = inst.annotationID := by
        by_contra hnone
        refine hchanged ?_
        rw [hnew, hold]
        exact clear_eq_of_ne hcar fun pair hp hid => hnone ⟨pair, hp, hid⟩
      rw [hpair] at hcar
      have hsignal : pair.1 = inst.annotations.get annotationExperimentSignal := by
        by_contra hne
        exact hno ⟨hh, hl, hc, hset, hund, pair.1, by rw [hpair, ← hid], hne⟩
      rw [hold, DatadogAgent.signalPair, DatadogAgent.annotationID, Annotations.get,
        Annotations.get, hcar.1, hcar.2]
      exact Prod.ext hsignal hid

/-- The experiment v1 runs and its start signal is still on the object. The
daemon's stop comes between the read of the next reconcile and its clear: the
rollback signal is gone and the experiment keeps running. -/
theorem clear_erases_rollback :
    let w := Runs.run (World.step numbered) (.init (numberedAgent 0) 0)
      [.reconcile .clean, .daemon (operation .start "v1") 1, .reconcile .clean]
    let stop : Fleet.PendingOperation := { operation .stop "v1" with taskID := "task-2" }
    let pass := (reconcileInstance numbered
      { (Env.clean : Env Nat) with beforeClear := commits [.daemon stop 1] } w.now w.server.dda
      w.server).2
    (Fleet.planStop [] { id := "task-2", package := "datadog-operator", method := .stop
                         version := "" } (.ok w.server.dda)).1.map (·.pending) = .ok (some stop) ∧
      (¬∀ call ∈ pass.calls, call.RemovesOnly w.server.dda.signalPair) ∧
      pass.server.dda.signal = none ∧ pass.server.dda.status.phase = some .running := by
  decide

end DatadogOperator
