import DatadogOperator.Fleet.Start

/-!
# Stop tasks

What a stop that was reported as done leaves of the start before it. The plan
of a stop looks at the status first, so between a start patch and the
reconcile that reads it, it sees the experiment before. The invariant follows
the last start patch from its write to the end of its experiment.
-/

namespace DatadogOperator.Fleet

variable {Spec : Type} [DecidableEq Spec]

/-- Once a stop is done, the start before it is no longer to be carried out, and
its spec is gone unless it was promoted. -/
def Cancelled (s : System Spec) : Prop :=
  s.stopped → ∀ st ∈ s.start,
    (st.progress = .unread → s.server.dda.signal ≠ some .start) ∧
      (st.progress ≠ .promoted → s.server.dda.spec ≠ st.spec)

/-- The reconcile that reads a start patch under the signal of a stop takes its
spec back. -/
def TakesBack (r : Reconciler Spec) (s : System Spec) : Event Spec → Prop
  | .reconcile env => ∀ st ∈ s.start, st.progress = .unread → s.server.dda.signal ≠ some .start →
    (s.step r (.reconcile env)).server.dda.spec ≠ st.spec
  | _ => True

/-- A reconcile finds another spec to go back to, and under the signal of a stop
it finds the object at the newest revision. -/
@[mk_iff]
structure Found (r : Reconciler Spec) (server : Server Spec) : Prop where
  noCollision : NoCollision r server.revisions server.dda.snapshot
  other : ∃ rev ∈ highestRevision (server.revisions.filter fun rev =>
    decide (rev.data ≠ server.dda.snapshot)), rev.data.spec ≠ server.dda.spec
  highest : server.dda.signal = some .start ∨ atHighest server.revisions server.dda

/-- A stop task comes when a reconcile has read the last start patch, or when the
patch is the only trace of an experiment. -/
def StopsFind (r : Reconciler Spec) (s : System Spec) : Event Spec → Prop
  | .task req _ => req.method = .stop → ∀ st ∈ s.start, st.progress = .unread →
      s.server.dda.status.experiment = none ∧ s.server.dda.signal = some .start
  | .reconcile _ => ∀ st ∈ s.start, st.progress = .unread → Found r s.server
  | _ => True

instance (s : System Spec) : Decidable (Cancelled s) :=
  inferInstanceAs (Decidable (_ → ∀ st ∈ s.start, _))

instance (r : Reconciler Spec) (server : Server Spec) : Decidable (Found r server) :=
  decidable_of_iff _ (found_iff r server).symm

instance (r : Reconciler Spec) (s : System Spec) : (e : Event Spec) → Decidable (StopsFind r s e)
  | .task .. => inferInstanceAs (Decidable (_ → ∀ st ∈ s.start, _))
  | .reconcile _ => inferInstanceAs (Decidable (∀ st ∈ s.start, _ → Found r s.server))
  | .configs _ | .patch _ | .worker .. | .resync | .tick _ | .edit .. | .restart .. =>
    isTrue trivial

/-! ## The way of a start patch -/

/-- The spec of the patch is in force, and a rollback has another one to go to. -/
def Backed (r : Reconciler Spec) (server : Server Spec) (spec : Spec) : Prop :=
  server.dda.spec = spec ∧
    ∃ t, Ledger r server.revisions [server.dda.snapshot, t] ∧ t.spec ≠ server.dda.spec

/-- A start signal on the object is the one of the experiment in the status. -/
def Spent (d : DatadogAgent Spec) : Prop :=
  d.signal = some .start → d.annotationID = d.status.id

def StartPatch.past (st : StartPatch Spec) : Prop := st.progress = .ended ∨ st.progress = .promoted

/-- What the server holds of a start patch. -/
inductive Stage (r : Reconciler Spec) (server : Server Spec) : StartPatch Spec → Prop
  | unread (hp : st.progress = .unread) (spec : server.dda.spec = st.spec)
      (notRunning : server.dda.status.phase ≠ some .running)
      (notStopped : (newDDAStatusSnapshot server.dda).finishesStop = false)
      (signal : server.dda.signal = some .start ∧ server.dda.annotationID ≠ server.dda.status.id ∨
        server.dda.signal = some .rollback ∧ server.dda.status.experiment = none) :
      Stage r server st
  | running (hp : st.progress = .running) (phase : server.dda.status.phase = some .running)
      (spent : Spent server.dda) (backed : Backed r server st.spec) : Stage r server st
  | past (hp : st.past) (terminal : isTerminalPhase server.dda.status.phase)
      (spent : Spent server.dda) (spec : st.progress = .ended → server.dda.spec ≠ st.spec) :
      Stage r server st

structure Follows (r : Reconciler Spec) (s : System Spec) : Prop where
  ledger : ∃ h, Ledger r s.server.revisions h ∧ h.length ≤ 2
  stage : ∀ st ∈ s.start, Stage r s.server st
  planned : ∀ task ∈ s.inFlight, Planned task.2
  /-- A stop of an unread start was planned over an unset experiment. -/
  unread : ∀ task ∈ s.inFlight, ∀ op ∈ task.2.pending, op.intent ≠ .start → ∀ st ∈ s.start,
    st.progress = .unread →
      op.intent = .stop ∧ op.experimentID ≠ "" ∧ s.server.dda.status.experiment = none
  updates : ∀ u ∈ s.statusUpdates, u.sinceStart = false →
    (newDDAStatusSnapshot u.dda).finishesStop → ∀ st ∈ s.start, st.past
  stopped : s.stopped → ∀ st ∈ s.start, st.past

section
variable {r : Reconciler Spec} {server : Server Spec} {st : StartPatch Spec}

omit [DecidableEq Spec] in
theorem finishesStop_terminal {d : DatadogAgent Spec}
    (h : (newDDAStatusSnapshot d).finishesStop) : isTerminalPhase d.status.phase := by
  unfold StatusSnapshot.finishesStop at h
  split at h
  · rename_i op hop
    obtain ⟨hi, heval⟩ := of_decide_eq_true h
    have hreached := (evaluate_done_iff.mp heval).2
    rw [hi] at hreached
    exact hreached
  · cases h

omit [DecidableEq Spec] in
theorem finishesStop_intent {d : DatadogAgent Spec} (h : (newDDAStatusSnapshot d).finishesStop) :
    ∃ op ∈ pendingOperationFromAnnotations d.annotations, op.intent = .stop := by
  unfold StatusSnapshot.finishesStop at h
  split at h
  · rename_i op hop
    exact ⟨op, hop, (of_decide_eq_true h).1⟩
  · cases h

theorem onStatusUpdate_finishesStop {daemon : Daemon Spec}
    {get : Except ApiError (DatadogAgent Spec)} {d : DatadogAgent Spec}
    (h : (newDDAStatusSnapshot d).finishesStop = false) :
    (newDDAStatusSnapshot (patchWith (daemon.onStatusUpdate snapshot get).2 d)).finishesStop =
      false := by
  rcases onStatusUpdate_pending daemon snapshot get d with heq | hnone
  · rw [heq]
    exact h
  · by_contra hfin
    obtain ⟨op, hop, -⟩ := finishesStop_intent (Bool.eq_true_of_not_eq_false hfin)
    rw [hnone] at hop
    cases hop

section
omit [DecidableEq Spec]

theorem completesStop_idle {daemon : Daemon Spec} {d : DatadogAgent Spec}
    (h : daemon.completesStop req (.ok d)) :
    req.method = .stop ∧ (d.status.experiment = none ∧ d.signal ≠ some .start ∨
      isTerminalPhase d.status.phase) := by
  obtain ⟨hm, hdone⟩ := Bool.and_eq_true_iff.mp h
  have hstop : req.method = .stop := of_decide_eq_true hm
  refine ⟨hstop, ?_⟩
  have hresult : Planning.Result daemon.installerState req d
    (daemon.handleRemoteAPIRequest req (.ok d)) := handleRemoteAPIRequest_result
  match hreq : daemon.handleRemoteAPIRequest req (.ok d) with
  | (.error e, state) =>
    rw [hreq] at hdone
    cases hdone
  | (.ok plan, state) =>
    rw [hreq] at hdone hresult
    have hplanning : Planning daemon.installerState req d plan state := hresult
    cases hplanning with
    | stopped _ hidle => exact hidle
    | stop => cases hdone
    | alreadyRunning hm' | again hm' | start _ hm' | promoted hm' | promote hm' =>
      rw [hstop] at hm'
      cases hm'

theorem not_terminal_of_none {d : DatadogAgent Spec} (h : d.status.experiment = none) :
    isTerminalPhase d.status.phase = false := by
  rw [phase_of_none h]
  rfl

theorem Stage.over_of_finishes (hs : Stage r server st)
    (h : (newDDAStatusSnapshot server.dda).finishesStop) : st.past := by
  have hterm := finishesStop_terminal h
  cases hs with
  | unread _ _ _ notStopped => simp [notStopped] at h
  | running _ phase =>
    rw [phase] at hterm
    cases hterm
  | past hp => exact hp

theorem Stage.unread_cases (hs : Stage r server st) (hp : st.progress = .unread) :
    server.dda.spec = st.spec ∧ server.dda.status.phase ≠ some .running ∧
      (newDDAStatusSnapshot server.dda).finishesStop = false ∧
      (server.dda.signal = some .start ∧ server.dda.annotationID ≠ server.dda.status.id ∨
        server.dda.signal = some .rollback ∧ server.dda.status.experiment = none) := by
  cases hs with
  | unread _ spec notRunning notStopped signal => exact ⟨spec, notRunning, notStopped, signal⟩
  | running hp' =>
    rw [hp] at hp'
    cases hp'
  | past hp' => rcases hp' with hp' | hp' <;> rw [hp] at hp' <;> cases hp'

end

/-! ## The daemon's writes -/

theorem Spent.onlyPending (h : Spent d) (hd : OnlyPending d d') : Spent d' := by
  intro hsig
  rw [hd.annotationID, hd.status]
  exact h (hd.signal ▸ hsig)

section
omit [DecidableEq Spec]

theorem Backed.write (h : Backed r server spec)
    (hspec : d'.spec = server.dda.spec) (hsnap : d'.snapshot = server.dda.snapshot) :
    Backed r { server with dda := d' } spec := by
  obtain ⟨rfl, t, hl, hne⟩ := h
  refine ⟨hspec, t, ?_, hspec ▸ hne⟩
  rw [hsnap]
  exact hl

theorem Stage.onlyPending {d' : DatadogAgent Spec} (hs : Stage r server st)
    (hd : OnlyPending server.dda d')
    (hstop : st.progress = .unread → (newDDAStatusSnapshot d').finishesStop = false) :
    Stage r { server with dda := d' } st := by
  cases hs with
  | unread hp spec notRunning _ signal =>
    refine .unread hp (hd.spec.trans spec) (hd.status ▸ notRunning) (hstop hp) ?_
    rw [hd.signal, hd.annotationID, hd.status]
    exact signal
  | running hp phase spent backed =>
    exact .running hp (hd.status ▸ phase) (spent.onlyPending hd) (backed.write hd.spec hd.snapshot)
  | past hp terminal spent spec =>
    exact .past hp (hd.status ▸ terminal) (spent.onlyPending hd) (hd.spec ▸ spec)

theorem Stage.signalled {d' : DatadogAgent Spec} (hs : Stage r server st)
    (hp : Patches plan server.dda d') (hpatch : plan.patch.isSome) (hstarts : plan.starts = none)
    (hnone : st.progress = .unread →
      d'.signal = some .rollback ∧ server.dda.status.experiment = none) :
    Stage r { server with dda := d' } st := by
  obtain ⟨hspec, hsig⟩ := hp.signalled hpatch hstarts
  have hsnap : d'.snapshot = server.dda.snapshot := by
    simp only [DatadogAgent.snapshot, buildRevisionSnapshot, hspec, hp.datadog]
  have hspent : Spent d' := fun h => absurd h hsig
  cases hs with
  | unread hp' spec notRunning _ _ =>
    obtain ⟨hroll, hunset⟩ := hnone hp'
    have hexp : d'.status.experiment = none := hp.status ▸ hunset
    refine .unread hp' (hspec.trans spec) (hp.status ▸ notRunning) ?_ (.inr ⟨hroll, hexp⟩)
    by_contra hfin
    have hterm := finishesStop_terminal (Bool.eq_true_of_not_eq_false hfin)
    simp [not_terminal_of_none hexp] at hterm
  | running hp' phase _ backed =>
    exact .running hp' (hp.status ▸ phase) hspent (backed.write hspec hsnap)
  | past hp' terminal _ spec => exact .past hp' (hp.status ▸ terminal) hspent (hspec ▸ spec)

theorem Stage.started {d d' : DatadogAgent Spec} {id : String}
    (hp : Patches plan d d') (hstarts : plan.starts = some id)
    (hrun : d.status.phase ≠ some .running) (hne : d.status.id ≠ id) :
    Stage r { server with dda := d' } { id, spec := d'.spec } := by
  obtain ⟨hsig, hid⟩ := hp.started id hstarts
  have hsome : plan.pending.isSome := by
    by_contra hno
    rw [Option.not_isSome_iff_eq_none] at hno
    rw [Plan.starts, hno] at hstarts
    cases hstarts
  have hintent : ∀ op ∈ plan.pending, op.intent = .start := by
    intro op hop
    by_contra hi
    simp only [Plan.starts, Option.mem_def.mp hop, hi, false_and, if_false] at hstarts
    cases hstarts
  refine .unread rfl rfl (hp.status ▸ hrun) ?_ (.inl ⟨hsig, ?_⟩)
  · by_contra hfin
    obtain ⟨op, hop, hstop⟩ := finishesStop_intent (Bool.eq_true_of_not_eq_false hfin)
    rw [hintent op (hp.pending hsome op hop)] at hstop
    cases hstop
  · rw [hid, hp.status]
    exact hne.symm

end

/-! ## Reconciles -/

theorem record_pair {a t : RevisionSnapshot Spec} (hne : t ≠ a) (skipBump : Bool) :
    record skipBump a [a, t] = [a, t] := by
  cases skipBump <;> simp [record, hne]

variable {now : Time}

theorem Backed.unrestored {spec : Spec} (h : Backed r server spec)
    (hv : (verdict r now server.revisions server.dda).restores = false) :
    Backed r (reconcileInstance r .clean now server.dda server).2.server spec := by
  obtain ⟨rfl, t, hl, hne⟩ := h
  have hsnap := reconcile_unrestored now Env.clean_experimentCallsOk Env.clean_alone hl (.inr hv)
  have hcol : NoCollision r server.revisions server.dda.snapshot :=
    .of_stored hl.ok (hl.mem_iff.mp (.head _))
  obtain ⟨-, hl'⟩ := reconcile_clean now hl le_rfl hcol
  have hspec := congrArg RevisionSnapshot.spec hsnap
  rw [record_pair fun heq => hne (congrArg RevisionSnapshot.spec heq), ← hsnap] at hl'
  exact ⟨hspec, t, hl', fun heq => hne (heq.trans hspec)⟩

theorem Backed.restored (h : Backed r server spec)
    (hv : (verdict r now server.revisions server.dda).restores) :
    (reconcileInstance r .clean now server.dda server).2.server.dda.spec ≠ spec := by
  obtain ⟨rfl, t, hl, hne⟩ := h
  rw [(reconcile_restores now Env.clean_experimentCallsOk Env.clean_alone hl rfl hv).1]
  exact hne

theorem Found.second (hf : Found r server) (hl : Ledger r server.revisions h) :
    ∃ t, (h.filter (· ≠ server.dda.snapshot)).head? = some t ∧ t.spec ≠ server.dda.spec := by
  obtain ⟨rev, hrev, hne⟩ := hf.other
  refine ⟨rev.data, ?_, hne⟩
  rw [← (hl.others server.dda.snapshot).highest_data, Option.mem_def.mp hrev]
  rfl

theorem Found.backed (hf : Found r server) (hl : Ledger r server.revisions h) (hlen : h.length ≤ 2)
    (hv : (verdict r now server.revisions server.dda).restores = false)
    (hp : ((verdict r now server.revisions server.dda).experiment now server.dda true).bind
      (·.phase) ≠ some .terminated) :
    Backed r (reconcileInstance r .clean now server.dda server).2.server server.dda.spec := by
  obtain ⟨t, ht, hne⟩ := hf.second hl
  have hsnap := reconcile_unrestored now Env.clean_experimentCallsOk Env.clean_alone hl (.inr hv)
  have hspec := congrArg RevisionSnapshot.spec hsnap
  obtain ⟨-, hl'⟩ := reconcile_clean now hl hlen hf.noCollision
  rw [decide_eq_false hp, record_false, List.take_one, ht, ← hsnap] at hl'
  exact ⟨hspec, t, hl', fun heq => hne (heq.trans hspec)⟩

theorem Found.recovers (hf : Found r server) (now : Time)
    (hsig : server.dda.signal = some .rollback) (hnone : server.dda.status.experiment = none) :
    verdict r now server.revisions server.dda = .recover := by
  refine verdict_eq_recover.mpr ⟨phase_of_none hnone, hsig, hf.highest.resolve_left ?_⟩
  rw [hsig]
  rintro ⟨⟩

theorem Found.recovered (hf : Found r server) (hl : Ledger r server.revisions h)
    (hv : verdict r now server.revisions server.dda = .recover) :
    (reconcileInstance r .clean now server.dda server).2.server.dda.spec ≠ server.dda.spec := by
  obtain ⟨-, -, hat⟩ := verdict_eq_recover.mp hv
  obtain ⟨t, ht, hne⟩ := hf.second hl
  obtain ⟨hlen, hhead⟩ := hl.atHighest_iff.mp hat
  match h, hl, hlen, hhead, ht with
  | a :: b :: rest, hl, _, hhead, ht =>
    cases hhead
    have hba : b ≠ server.dda.snapshot := by
      have := hl.nodup
      simp only [List.nodup_cons, List.mem_cons, not_or] at this
      exact fun heq => this.1.1 heq.symm
    rw [List.filter_cons, if_neg (by simp), List.filter_cons, if_pos (by simpa using hba)] at ht
    cases ht
    rw [(reconcile_restores now Env.clean_experimentCallsOk Env.clean_alone hl rfl
      (by rw [hv]; rfl)).1]
    exact hne

theorem Spent.of_reconcile (hok : RevisionsOk r server.revisions)
    (h : server.dda.signal = some .start → server.dda.annotationID =
      (reconcileInstance r .clean now server.dda server).2.server.dda.status.id) :
    Spent (reconcileInstance r .clean now server.dda server).2.server.dda := by
  intro hsig
  rcases (reconcile_fleetKept now hok Env.clean_alone).signal with ⟨hs, hid⟩ | hs
  · rw [hid]
    exact h (hs ▸ hsig)
  · rw [hs] at hsig
    cases hsig

omit [DecidableEq Spec] in
theorem read_kept (h : after.experiment = before.experiment) : st.read before after =
      { st with progress := if st.progress = .unread then .ignored else st.progress } := by
  simp [StartPatch.read, h]

omit [DecidableEq Spec] in
theorem read_moved (h : after.phase ≠ before.phase) :
    st.read before after = { st with progress := match after.phase with
      | some .running => .running
      | some .promoted => .promoted
      | _ => .ended } := by
  have hne : after.experiment ≠ before.experiment := by
    intro heq
    exact h (by rw [DatadogAgentStatus.phase, heq, DatadogAgentStatus.phase])
  exact congrArg (StartPatch.mk st.id st.spec) (if_neg hne)

theorem verdict_backed (hp : server.dda.status.phase = some .running) (h : Backed r server spec) :
    verdict r now server.revisions server.dda = .keep ∨
      verdict r now server.revisions server.dda = .promote ∨
      ∃ reason, verdict r now server.revisions server.dda = .restore reason := by
  obtain ⟨-, t, hl, -⟩ := h
  have hman : manuallyChanged server.revisions server.dda = false := by
    rw [Bool.eq_false_iff, ne_eq, hl.manuallyChanged_iff]
    exact fun hm => hm.2 (.head _)
  rw [verdict_running hp, hman]
  simp only [Bool.false_eq_true, if_false]
  split
  · exact .inr (.inr ⟨_, rfl⟩)
  · exact .inr (.inl rfl)
  · split
    · exact .inr (.inr ⟨_, rfl⟩)
    · exact .inl rfl

variable (now)

theorem Stage.verdict_over (hs : Stage r server st) (hover : st.past) :
    verdict r now server.revisions server.dda = .keep := by
  cases hs with
  | unread hp | running hp => rcases hover with h | h <;> rw [hp] at h <;> cases h
  | past _ terminal spent =>
    refine (verdict_terminal terminal).resolve_left fun hv => ?_
    obtain ⟨-, hsig, hne⟩ := verdict_eq_start.mp hv
    exact hne (spent hsig)

theorem Stage.read_over {h : List (RevisionSnapshot Spec)} (hs : Stage r server st)
    (hl : Ledger r server.revisions h) (hover : st.past) :
    st.read server.dda.status
      (reconcileInstance r .clean now server.dda server).2.server.dda.status = st := by
  obtain ⟨hexp, -⟩ := reconcile_persists now Env.clean_agentCallsOk Env.clean_alone hl
  rw [hs.verdict_over now hover] at hexp
  rw [read_kept hexp, if_neg]
  rcases hover with hp | hp <;> rw [hp] <;> nofun

theorem Stage.reconcile (hs : Stage r server st)
    (hl : Ledger r server.revisions h) (hlen : h.length ≤ 2)
    (hfound : st.progress = .unread → Found r server) :
    let out := (reconcileInstance r .clean now server.dda server).2.server
    Stage r out (st.read server.dda.status out.dda.status) := by
  obtain ⟨hexp, -⟩ := reconcile_persists now Env.clean_agentCallsOk Env.clean_alone hl
  have hphase := congrArg (Option.bind · ExperimentStatus.phase) hexp
  have hid := congrArg (fun e => (Option.map ExperimentStatus.id e).getD "") hexp
  dsimp only at hexp hphase hid ⊢
  change DatadogAgentStatus.phase _ = _ at hphase
  change DatadogAgentStatus.id _ = _ at hid
  cases hs with
  | unread hp spec notRunning notStopped signal =>
    rcases signal with ⟨hsig, hne⟩ | ⟨hsig, hnone⟩
    · -- The start's own signal is read.
      have hv : verdict r now server.revisions server.dda = .start :=
        verdict_eq_start.mpr ⟨notRunning, hsig, hne⟩
      rw [hv] at hphase hid
      rw [read_moved (by rw [hphase]; exact notRunning.symm), hphase]
      refine .running rfl hphase (.of_reconcile hl.ok fun _ => hid.symm) ?_
      rw [← spec]
      exact (hfound hp).backed hl hlen (by rw [hv]; rfl) (by rw [hv]; rintro ⟨⟩)
    · -- The stop came first: the spec is taken back, and the experiment never runs.
      have hph := phase_of_none hnone
      have hv := (hfound hp).recovers now hsig hnone
      rw [hv] at hphase
      rw [read_moved (by rw [hphase, hph]; rintro ⟨⟩), hphase]
      refine .past (.inl rfl) (by rw [hphase]; rfl) ?_ fun _ => ?_
      · exact .of_reconcile hl.ok fun hc => by rw [hsig] at hc; cases hc
      · exact spec ▸ (hfound hp).recovered hl hv
  | running hp phase spent backed =>
    obtain ⟨e, he, heph⟩ := DatadogAgentStatus.exists_of_phase phase
    have heid := id_of_experiment he
    rcases verdict_backed phase backed with hv | hv | ⟨reason, hv⟩
    · rw [hv] at hexp
      rw [read_kept hexp, hp]
      refine .running rfl ?_ (.of_reconcile hl.ok fun hsig => ?_) (backed.unrestored (by rw [hv]; rfl))
      · rw [DatadogAgentStatus.phase, hexp]
        exact phase
      · rw [spent hsig, DatadogAgentStatus.id, DatadogAgentStatus.id, hexp]
        rfl
    · rw [hv] at hphase hid
      simp only [Verdict.experiment, he, Option.map_some, Option.bind_some, Option.getD_some] at hphase hid
      rw [read_moved (by rw [hphase, phase]; rintro ⟨⟩), hphase]
      refine .past (.inr rfl) (by rw [hphase]; rfl) (.of_reconcile hl.ok fun hsig => ?_) (by rintro ⟨⟩)
      rw [spent hsig, hid, heid]
    · rw [hv] at hphase hid
      simp only [Verdict.experiment, he, if_true, Option.map_some, Option.bind_some,
        Option.getD_some] at hphase hid
      rw [read_moved (by rw [hphase, phase]; rintro ⟨⟩), hphase]
      refine .past (.inl rfl) (by rw [hphase]; rfl) (.of_reconcile hl.ok fun hsig => ?_)
        fun _ => backed.restored (by rw [hv]; rfl)
      rw [spent hsig, hid, heid]
  | past hp terminal spent spec =>
    have hv := (Stage.past hp terminal spent spec).verdict_over (r := r) now hp
    have hspec := congrArg RevisionSnapshot.spec (reconcile_unrestored now
      Env.clean_experimentCallsOk Env.clean_alone hl (.inr (by rw [hv]; rfl)))
    rw [hv] at hexp
    rw [(Stage.past hp terminal spent spec).read_over now hl hp]
    refine .past hp ?_ (.of_reconcile hl.ok fun hsig => ?_) fun he heq => ?_
    · rw [DatadogAgentStatus.phase, hexp]
      exact terminal
    · rw [spent hsig, DatadogAgentStatus.id, DatadogAgentStatus.id, hexp]
      rfl
    · exact spec he (hspec.symm.trans heq)

end

/-! ## Steps -/

section
variable {r : Reconciler Spec} {s : System Spec}

omit [DecidableEq Spec] in
theorem Follows.server_finishes (hs : Follows r s)
    (h : (newDDAStatusSnapshot s.server.dda).finishesStop) : ∀ st ∈ s.start, st.past :=
  fun st hst => (hs.stage st hst).over_of_finishes h

theorem Follows.task (hs : Follows r s) {req : RemoteAPIRequest}
    (hc : StopsFind r s (.task req (.ok 0))) : Follows r (s.step r (.task req (.ok 0))) := by
  cases hf : s.inFlight with
  | some task => simpa only [System.step, hf] using hs
  | none =>
    simp only [System.step, hf]
    refine ⟨hs.ledger, hs.stage, ?_, ?_, hs.updates, ?_⟩
    · intro task htask
      obtain ⟨plan, hplan, rfl⟩ := Option.map_eq_some_iff.mp htask
      obtain ⟨hsome, state, hplanning⟩ := handleTask_some hplan
      exact hplanning.planned hsome
    · intro task htask op hop hi st hst hunread
      obtain ⟨plan, hplan, rfl⟩ := Option.map_eq_some_iff.mp htask
      obtain ⟨-, state, hplanning⟩ := handleTask_some hplan
      cases hplanning with
      | alreadyRunning | stopped | promoted => cases hop
      | again | start =>
        cases hop
        exact absurd rfl hi
      | stop hm _ hid =>
        cases hop
        exact ⟨rfl, hid, (hc hm st hst hunread).1⟩
      | promote _ _ hrun =>
        exact absurd (experimentHasPhase_iff.mp hrun).1 ((hs.stage st hst).unread_cases hunread).2.1
    · intro hstopped st hst
      rcases Bool.or_eq_true_iff.mp hstopped with h | h
      · exact hs.stopped h st hst
      · -- The plan has found no experiment, and with it no start to cancel.
        obtain ⟨hm, hidle⟩ := completesStop_idle h
        have hterm : isTerminalPhase s.server.dda.status.phase ∨
            s.server.dda.status.experiment = none ∧ s.server.dda.signal ≠ some .start := hidle.symm
        cases hs.stage st hst with
        | unread hp =>
          obtain ⟨hnone, hsig⟩ := hc hm st hst hp
          rcases hterm with hterm | ⟨-, hno⟩
          · simp [not_terminal_of_none hnone] at hterm
          · exact absurd hsig hno
        | running _ phase =>
          rcases hterm with hterm | ⟨hnone, -⟩
          · rw [phase] at hterm
            cases hterm
          · rw [DatadogAgentStatus.phase, hnone] at phase
            cases phase
        | past hp => exact hp

theorem Follows.write {s' : System Spec} (hl : ∃ h, Ledger r s'.server.revisions h ∧ h.length ≤ 2)
    (hstage : ∀ st ∈ s'.start, Stage r { s'.server with dda := d' } st)
    (hplanned : ∀ task ∈ s'.inFlight, Planned task.2)
    (hunread : s'.inFlight = none ∨ ∀ st ∈ s'.start, st.progress ≠ .unread)
    (hu : ∀ u ∈ s'.statusUpdates, u.sinceStart = false →
      (newDDAStatusSnapshot u.dda).finishesStop → ∀ st ∈ s'.start, st.past)
    (hstopped : s'.stopped → ∀ st ∈ s'.start, st.past) : Follows r (s'.write d') := by
  refine ⟨by simpa using hl, ?_, by simpa using hplanned, ?_, ?_, by simpa using hstopped⟩
  · rw [write_start, write_server]
    exact hstage
  · intro task htask _ _ _ st hst hp
    rw [write_inFlight] at htask
    rw [write_start] at hst
    rcases hunread with hf | hread
    · rw [hf] at htask
      cases htask
    · exact absurd hp (hread st hst)
  · intro u hmem hsince hfin
    rw [write_start]
    rcases mem_write _ _ hmem with hmem | rfl
    · exact hu u hmem hsince hfin
    · exact fun st hst => (hstage st hst).over_of_finishes hfin

theorem Follows.patch (hs : Follows r s) (hc : PatchesFresh s (.patch none)) :
    Follows r (s.step r (.patch none)) := by
  cases hf : s.inFlight with
  | none => simpa [System.step, hf] using hs
  | some task =>
    obtain ⟨req, plan⟩ := task
    have hplanned : Planned plan := hs.planned (req, plan) hf
    have hp := hplanned.patches s.server.dda
    simp only [System.step, hf]
    generalize patchWith (applyOperation plan.pending plan.patch) s.server.dda = d' at hp ⊢
    cases hstarts : plan.starts with
    | some id =>
      obtain ⟨hrun, hne⟩ := hc (req, plan) hf id hstarts
      refine .write (by simpa using hs.ledger) ?_ (by simp) (.inl (by simp)) ?_ ?_
      · rw [noteStart_some _ _ _ hstarts, noteStart_server]
        rintro _ ⟨⟩
        exact .started hp hstarts hrun hne
      · -- What waits in the queue was seen before this start.
        intro u hu hsince
        simp only [System.noteStart, hstarts, List.mem_map] at hu
        obtain ⟨_, -, rfl⟩ := hu
        cases hsince
      · simp [System.noteStart, hstarts]
    | none =>
      rw [noteStart_none _ _ _ hstarts]
      refine .write hs.ledger ?_ (by simp) (.inl rfl) hs.updates hs.stopped
      intro st hst
      cases hplanned with
      | start op config hi hid => simp [Plan.starts, hi] at hstarts
      | again op hi =>
        refine (hs.stage st hst).onlyPending (hp.unsignalled rfl) fun _ => ?_
        by_contra hfin
        obtain ⟨op', hop, hstop⟩ := finishesStop_intent (Bool.eq_true_of_not_eq_false hfin)
        cases hp.pending rfl op' hop
        rw [hi] at hstop
        cases hstop
      | other op hi =>
        refine (hs.stage st hst).signalled hp rfl hstarts fun hunread => ?_
        obtain ⟨hstop, hid, hnone⟩ := hs.unread (req, _) hf op rfl hi st hst hunread
        obtain ⟨hsig, -⟩ := hp.carries rfl op rfl hid
        rw [hstop] at hsig
        exact ⟨hsig, hnone⟩

theorem Follows.worker (hs : Follows r s) : Follows r (s.step r (.worker (.ok 0) none)) := by
  cases hf : s.inFlight with
  | some task => simpa only [System.step, hf] using hs
  | none =>
    cases hq : s.statusUpdates with
    | nil => simpa only [System.step, hf, hq] using hs
    | cons update rest =>
      have honly := onStatusUpdate_onlyPending s.daemon (newDDAStatusSnapshot update.dda)
        (s.read (.ok 0)) s.server.dda
      simp only [System.step, hf, hq]
      refine .write hs.ledger ?_ (by simp) (.inl rfl) ?_ ?_
      · intro st hst
        refine (hs.stage st hst).onlyPending honly fun hunread => ?_
        exact onStatusUpdate_finishesStop ((hs.stage st hst).unread_cases hunread).2.2.1
      · intro u hu
        exact hs.updates u (by rw [hq]; exact .tail _ hu)
      · intro hstopped
        rcases Bool.or_eq_true_iff.mp hstopped with h | h
        · exact hs.stopped h
        · obtain ⟨hsince, hfin⟩ := Bool.and_eq_true_iff.mp h
          exact hs.updates update (by rw [hq]; exact .head _) (by simpa using hsince) hfin

theorem Follows.reconcile (hs : Follows r s) (hc : StopsFind r s (.reconcile .clean)) :
    Follows r (s.step r (.reconcile .clean)) := by
  obtain ⟨h, hl, hlen⟩ := hs.ledger
  have hstage (st : StartPatch Spec) (hst : st ∈ s.start) :=
    (hs.stage st hst).reconcile s.now hl hlen (hc st hst)
  have hledger : ∃ h, Ledger r (reconcileInstance r .clean s.now s.server.dda
      s.server).2.server.revisions h ∧ h.length ≤ 2 := by
    by_cases hcol : NoCollision r s.server.revisions s.server.dda.snapshot
    · exact ⟨_, (reconcile_clean s.now hl hlen hcol).2, length_record_le hlen _ _⟩
    · exact ⟨h, reconcile_clean_collision s.now hl hcol, hlen⟩
  have hover (h : ∀ st ∈ s.start, st.past) (st' : StartPatch Spec)
      (hst' : st' ∈ s.start.map (StartPatch.read s.server.dda.status
        (reconcileInstance r .clean s.now s.server.dda s.server).2.server.dda.status)) :
      st'.past := by
    obtain ⟨st, hst, rfl⟩ := Option.map_eq_some_iff.mp hst'
    rw [(hs.stage st hst).read_over s.now hl (h st hst)]
    exact h st hst
  refine .write hledger ?_ hs.planned (.inr ?_) ?_ ?_
  · intro st' hst'
    obtain ⟨st, hst, rfl⟩ := Option.map_eq_some_iff.mp hst'
    exact hstage st hst
  · intro st' hst'
    obtain ⟨st, -, rfl⟩ := Option.map_eq_some_iff.mp hst'
    exact read_progress _ _ st
  · exact fun u hu hsince hfin => hover (hs.updates u hu hsince hfin)
  · exact fun hstopped => hover (hs.stopped hstopped)

theorem Follows.step (hs : Follows r s) {e : Event Spec} (hclean : e.Clean)
    (hfresh : PatchesFresh s e) (hfind : StopsFind r s e) : Follows r (s.step r e) := by
  cases e with
  | configs | tick => exact ⟨hs.ledger, hs.stage, hs.planned, hs.unread, hs.updates, hs.stopped⟩
  | task req read =>
    obtain rfl : read = .ok 0 := hclean
    exact hs.task hfind
  | patch outcome =>
    obtain rfl : outcome = none := hclean
    exact hs.patch hfresh
  | worker read outcome =>
    obtain ⟨rfl, rfl⟩ : read = .ok 0 ∧ outcome = none := hclean
    exact hs.worker
  | resync =>
    refine ⟨hs.ledger, hs.stage, hs.planned, hs.unread, ?_, hs.stopped⟩
    intro u hu hsince hfin
    rcases List.mem_append.mp hu with hu | hu
    · exact hs.updates u hu hsince hfin
    · cases List.mem_singleton.mp hu
      exact hs.server_finishes hfin
  | reconcile env =>
    obtain rfl : env = .clean := hclean
    exact hs.reconcile hfind
  | edit => cases hclean
  | restart =>
    refine ⟨hs.ledger, hs.stage, nofun, nofun, ?_, hs.stopped⟩
    intro u hu _ hfin
    cases List.mem_singleton.mp hu
    exact hs.server_finishes hfin

omit [DecidableEq Spec] in
theorem Follows.cancelled (hs : Follows r s) : Cancelled s := by
  intro hstopped st hst
  have hover := hs.stopped hstopped st hst
  refine ⟨fun hp => ?_, fun hp => ?_⟩
  · rcases hover with h | h <;> rw [hp] at h <;> cases h
  · cases hs.stage st hst with
    | unread hp' | running hp' => rcases hover with h | h <;> rw [hp'] at h <;> cases h
    | past _ _ _ spec => exact spec (hover.resolve_right hp)

theorem Follows.takesBack (hs : Follows r s) {e : Event Spec} (hclean : e.Clean)
    (hfind : StopsFind r s e) : TakesBack r s e := by
  cases e with
  | configs | task | patch | worker | resync | tick | edit | restart => trivial
  | reconcile env =>
    obtain rfl : env = .clean := hclean
    intro st hst hunread hsig
    obtain ⟨h, hl, -⟩ := hs.ledger
    have hfound : Found r s.server := hfind st hst hunread
    obtain ⟨hspec, -, -, hsignal⟩ := (hs.stage st hst).unread_cases hunread
    obtain ⟨hroll, hnone⟩ := hsignal.resolve_left fun hstart => hsig hstart.1
    simp only [System.step, write_server]
    rw [← hspec]
    exact hfound.recovered hl (hfound.recovers _ hroll hnone)

end

end DatadogOperator.Fleet
