import DatadogOperator.Fleet.System

/-!
# Start tasks

Whether the reconcile after a start patch persists the experiment as running.
The daemon decides to patch from the phase and the annotations it reads, the
controller accepts a start signal by its ID and the phase.
-/

namespace DatadogOperator.Fleet

variable {Spec : Type} [DecidableEq Spec]

/-- The first reconcile that reads a start patch persists its experiment as
running, under the spec of the patch. -/
def PersistsStart (r : Reconciler Spec) (s : System Spec) : Event Spec → Prop
  | .reconcile env => ∀ st ∈ s.start, st.progress = .unread →
    let out := (s.step r (.reconcile env)).server.dda
    out.spec = st.spec ∧ out.status.experiment = some
      { phase := some .running, id := st.id, startedAt := some s.now
        startTaskID := s.server.dda.annotations.get annotationPendingTaskID }
  | _ => True

/-- A start patch meets no running experiment and another ID in the status. -/
def PatchesFresh (s : System Spec) : Event Spec → Prop
  | .patch _ => ∀ task ∈ s.inFlight, ∀ id ∈ task.2.starts,
    s.server.dda.status.phase ≠ some .running ∧ s.server.dda.status.id ≠ id
  | _ => True

/-- No stop or promote patch is written over a start patch that no reconcile has read. -/
def LeavesUnread (s : System Spec) : Event Spec → Prop
  | .patch _ => ∀ task ∈ s.inFlight, task.2.patch.isSome → task.2.starts = none →
    ∀ st ∈ s.start, st.progress ≠ .unread
  | _ => True

instance (r : Reconciler Spec) (s : System Spec) (e : Event Spec) :
    Decidable (PersistsStart r s e) := by
  cases e <;> dsimp only [PersistsStart] <;> infer_instance

instance (s : System Spec) (e : Event Spec) : Decidable (PatchesFresh s e) := by
  cases e <;> dsimp only [PatchesFresh] <;> infer_instance

instance (s : System Spec) (e : Event Spec) : Decidable (LeavesUnread s e) := by
  cases e <;> dsimp only [LeavesUnread] <;> infer_instance

/-- The start patch as it was written, with a status that accepts it. -/
structure Outstanding (d : DatadogAgent Spec) (st : StartPatch Spec) : Prop where
  spec : d.spec = st.spec
  signal : d.signal = some .start
  id : d.annotationID = st.id
  notRunning : d.status.phase ≠ some .running
  other : d.status.id ≠ st.id

/-- A start patch that no reconcile has read is outstanding. -/
structure StartsOutstanding (r : Reconciler Spec) (s : System Spec) : Prop where
  ok : RevisionsOk r s.server.revisions
  planned : ∀ task ∈ s.inFlight, Planned task.2
  unread : ∀ st ∈ s.start, st.progress = .unread → Outstanding s.server.dda st

section
variable {r : Reconciler Spec} {s : System Spec}

theorem Outstanding.onlyPending
    (h : Outstanding d st) (hd : OnlyPending d d') : Outstanding d' st where
  spec := hd.spec.trans h.spec
  signal := hd.signal.trans h.signal
  id := hd.annotationID.trans h.id
  notRunning := hd.status ▸ h.notRunning
  other := hd.status ▸ h.other

theorem StartsOutstanding.patch (hs : StartsOutstanding r s) (hc : PatchesFresh s (.patch none))
    (hl : LeavesUnread s (.patch none)) : StartsOutstanding r (s.step r (.patch none)) := by
  cases hf : s.inFlight with
  | none => simpa [System.step, hf] using hs
  | some task =>
    obtain ⟨req, plan⟩ := task
    have hplanned : Planned plan := hs.planned (req, plan) hf
    have hp := hplanned.patches s.server.dda
    simp only [System.step, hf]
    generalize patchWith (applyOperation plan.pending plan.patch) s.server.dda = d' at hp ⊢
    refine ⟨by simpa using hs.ok, by simp, ?_⟩
    rw [write_start, write_server]
    cases hstarts : plan.starts with
    | some id =>
      obtain ⟨hsig, hid⟩ := hp.started id hstarts
      obtain ⟨hrun, hne⟩ := hc (req, plan) hf id hstarts
      rw [noteStart_some _ _ _ hstarts]
      rintro _ ⟨⟩ -
      exact ⟨rfl, hsig, hid, hp.status ▸ hrun, hp.status ▸ hne⟩
    | none =>
      rw [noteStart_none _ _ _ hstarts]
      intro st hst hunread
      cases hpatch : plan.patch with
      | none =>
        have honly := hp.unsignalled (by rw [hpatch]; rfl)
        exact (hs.unread st hst hunread).onlyPending honly
      | some patch =>
        exact absurd hunread (hl (req, plan) hf (by rw [hpatch]; rfl) hstarts st hst)

theorem StartsOutstanding.worker (hs : StartsOutstanding r s) (read : Read) :
    StartsOutstanding r (s.step r (.worker read none)) := by
  cases hf : s.inFlight with
  | some task => simpa only [System.step, hf] using hs
  | none =>
    cases hq : s.statusUpdates with
    | nil => simpa only [System.step, hf, hq] using hs
    | cons update rest =>
      have honly := onStatusUpdate_onlyPending s.daemon (newDDAStatusSnapshot update.dda)
        (s.read read) s.server.dda
      simp only [System.step, hf, hq]
      refine ⟨by simpa using hs.ok, by simp, ?_⟩
      intro st hst hunread
      rw [write_start] at hst
      rw [write_server]
      exact (hs.unread st hst hunread).onlyPending honly

theorem StartsOutstanding.reconcile (hs : StartsOutstanding r s) (env : Env Spec) :
    StartsOutstanding r (s.step r (.reconcile env)) := by
  refine ⟨step_ok s hs.ok, by simpa [System.step] using hs.planned, ?_⟩
  intro st hst hunread
  simp only [System.step, write_start, Option.mem_def, Option.map_eq_some_iff] at hst
  obtain ⟨old, -, rfl⟩ := hst
  exact absurd hunread (read_progress _ _ old)

theorem StartsOutstanding.step (hs : StartsOutstanding r s) (hclean : e.Clean)
    (hc : PatchesFresh s e) (hl : LeavesUnread s e) : StartsOutstanding r (s.step r e) := by
  cases e with
  | configs | resync | tick => exact ⟨hs.ok, hs.planned, hs.unread⟩
  | task req read =>
    obtain rfl : read = .ok 0 := hclean
    cases hf : s.inFlight with
    | some task => simpa only [System.step, hf] using hs
    | none =>
      simp only [System.step, hf]
      refine ⟨hs.ok, ?_, hs.unread⟩
      intro task htask
      obtain ⟨plan, hplan, rfl⟩ := Option.map_eq_some_iff.mp htask
      obtain ⟨hsome, state, hplanning⟩ := handleTask_some hplan
      exact hplanning.planned hsome
  | patch outcome =>
    obtain rfl : outcome = none := hclean
    exact hs.patch hc hl
  | worker read outcome =>
    obtain rfl : outcome = none := hclean.2
    exact hs.worker read
  | reconcile env => exact hs.reconcile env
  | edit => cases hclean
  | restart => exact ⟨hs.ok, (by rintro _ ⟨⟩), hs.unread⟩

theorem StartsOutstanding.persists (hs : StartsOutstanding r s)
    (hclean : e.Clean) : PersistsStart r s e := by
  cases e with
  | configs | task | patch | worker | resync | tick | edit | restart => trivial
  | reconcile env =>
    obtain rfl : env = .clean := hclean
    intro st hst hunread
    have ho := hs.unread st hst hunread
    obtain ⟨h, hl⟩ := Ledger.of_ok hs.ok
    have hv : verdict r s.now s.server.revisions s.server.dda = .start :=
      verdict_eq_start.mpr ⟨ho.notRunning, ho.signal, by rw [ho.id]; exact ho.other.symm⟩
    obtain ⟨hexp, -⟩ := reconcile_persists s.now Env.clean_agentCallsOk Env.clean_alone hl
    have hsnap := reconcile_unrestored s.now Env.clean_experimentCallsOk Env.clean_alone hl
      (.inr (by rw [hv]; rfl))
    simp only [System.step, write_server]
    refine ⟨(congrArg RevisionSnapshot.spec hsnap).trans ho.spec, hexp.trans ?_⟩
    rw [hv, ← ho.id]
    rfl

end

def numberedDaemon : Daemon Nat :=
  { configs := [("v1", 1), ("v2", 2), ("v3", 3)].map fun (id, spec) =>
      { id, operations := [{ operation := .update, config := fun _ => spec }] }
    installerState := [{ package := packageDatadogOperator }] }

def numberedSystem : System Nat :=
  .init numberedDaemon { dda := numberedAgent 0, revisions := [] } 0

def request (method : Method) (id : String) (version : String := "") (stable : String := "")
    (experiment : String := "") : RemoteAPIRequest :=
  { id, package := packageDatadogOperator, method, version, expectedStableConfig := stable
    expectedExperimentConfig := experiment }

end DatadogOperator.Fleet
