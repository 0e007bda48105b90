import DatadogOperator.Lib.Runs
import DatadogOperator.Remote.Endings

/-!
# One object for each custom resource

An object is created only when there is none, so there are never two, as long as the ID of
a created object gets into the status. Monitors and generic resources write the status
again after a conflict. SLOs and dashboards do not, and create a second object after it.
-/

namespace DatadogOperator.Remote

/-- The only object there may be is the one with the ID. -/
structure Tracked (id : Option Nat) (d : Datadog) : Prop where
  only : ∀ x ∈ d.alive, id = some x
  nodup : d.alive.Nodup
  peak : d.peak ≤ 1

section Tracked

variable {id : Option Nat} {d d' : Datadog}

theorem Tracked.length_le (h : Tracked id d) : d.alive.length ≤ 1 := by
  rcases halive : d.alive with _ | ⟨x, _ | ⟨y, l⟩⟩
  · simp
  · simp
  · have hx := h.only x (by simp [halive])
    have hy := h.only y (by simp [halive])
    have hnodup := h.nodup
    rw [halive] at hnodup
    rw [hx] at hy
    cases hy
    simp at hnodup

theorem Tracked.shrinks (h : Tracked id d) (hs : Shrinks d d') : Tracked id d' :=
  ⟨fun x hx => h.only x (hs.alive.subset hx), hs.alive.nodup h.nodup, hs.peak ▸ h.peak⟩

theorem Tracked.alive_eq_nil (h : Tracked id d) (hmissing : ∀ x, id = some x → x ∉ d.alive) :
    d.alive = [] := by
  apply List.eq_nil_iff_forall_not_mem.mpr
  intro x hx
  exact hmissing x (h.only x hx) hx

theorem Tracked.of_alive_eq_nil (h : Tracked id d) (halive : d.alive = []) : Tracked id' d := by
  refine ⟨?_, h.nodup, h.peak⟩
  rw [halive]
  nofun

theorem Tracked.ends
    (h : Tracked r.status.id d) (he : Ends kind s env r d status d') : Tracked status.id d' := by
  cases he with
  | kept hid _ hs _ => exact hid ▸ h.shrinks hs
  | updated hid _ hs _ => exact hid ▸ h.shrinks hs
  | failed _ hid _ hs _ _ => exact hid ▸ h.shrinks hs
  | lost _ _ hs hmissing _ =>
    have h' := h.shrinks hs
    exact h'.of_alive_eq_nil (h'.alive_eq_nil hmissing)
  | created hs hmissing _ hid _ halive _ hpeak _ =>
    have h₁ := h.shrinks hs
    have hnil := h₁.alive_eq_nil hmissing
    rw [hnil] at halive hpeak
    refine ⟨?_, by simp [halive], ?_⟩
    · intro x hx
      rw [halive, List.mem_singleton] at hx
      rw [hid, hx]
    · rw [hpeak]
      exact max_le h₁.peak le_rfl

theorem Ends.tracked_of_next (he : Ends kind s env r d status d') (h : Tracked r.status.id d)
    (hnext : d'.next = d.next) : Tracked r.status.id d' := by
  cases he with
  | kept _ _ hs _ => exact h.shrinks hs
  | updated _ _ hs _ => exact h.shrinks hs
  | failed _ _ _ hs _ _ => exact h.shrinks hs
  | lost _ _ hs _ _ => exact h.shrinks hs
  | created hs _ _ _ _ _ hn _ _ =>
    rw [hn, hs.next] at hnext
    omega

end Tracked

/-! ## The finalizer -/

theorem delete_shrinks (d : Datadog) (id : Nat) (o : Outcome) : Shrinks d (d.delete id o).1 := by
  unfold Datadog.delete
  rcases ha : d.access .delete id o with ⟨d', e⟩
  have hs := access_shrinks ha
  dsimp only
  split_ifs
  · exact hs.trans (vanish_shrinks d' id)
  · exact hs

theorem deleteResource_shrinks (kind : Kind) (env : Env) (status : Status) (d : Datadog) :
    Shrinks d (deleteResource kind env status d).1 := by
  unfold deleteResource
  cases kind with
  | monitor =>
    dsimp only
    split_ifs
    · exact delete_shrinks d _ _
    · exact .refl d
  | slo | dashboard | genericResource =>
    cases status.id with
    | none => exact .refl d
    | some id => exact delete_shrinks d id _

theorem handleFinalizer_shrinks (h : handleFinalizer kind env r d = some out) :
    Shrinks d out.2 ∧ ∀ r', out.1 = some r' → r'.status = r.status := by
  have hdel := deleteResource_shrinks kind env r.status d
  unfold handleFinalizer at h
  rcases hd : deleteResource kind env r.status d with ⟨d', failed⟩
  rw [hd] at h hdel
  dsimp only at h
  split_ifs at h <;> cases h
  · exact ⟨.refl d, fun r' hr => by cases hr; rfl⟩
  · exact ⟨.refl d, fun r' hr => by cases hr; rfl⟩
  · exact ⟨hdel, fun r' hr => by cases hr; rfl⟩
  · exact ⟨hdel, fun r' hr => by cases hr; rfl⟩
  · exact ⟨hdel, fun r' hr => by cases hr⟩
  · exact ⟨.refl d, fun r' hr => by cases hr; rfl⟩

/-! ## Writing the status -/

theorem retryOnConflict_of_lt (h : conflicts < steps) : retryOnConflict steps conflicts = true := by
  induction steps generalizing conflicts with
  | zero => exact absurd h (Nat.not_lt_zero _)
  | succ steps ih =>
    cases conflicts with
    | zero => rfl
    | succ conflicts => exact ih (Nat.lt_of_succ_lt_succ h)

theorem statusWritten_of_few (h : env.conflicts < defaultRetrySteps)
    (hkind : kind = .slo ∨ kind = .dashboard → env.conflicts = 0) :
    statusWritten kind env = true := by
  unfold statusWritten
  rcases hc : env.conflicts with _ | conflicts
  · rfl
  · rw [hc] at h hkind
    cases kind with
    | monitor | genericResource =>
      exact retryOnConflict_of_lt (by simp only [Kind.retries]; omega)
    | slo => exact absurd (hkind (.inl rfl)) (by simp)
    | dashboard => exact absurd (hkind (.inr rfl)) (by simp)

theorem updateStatusIfNeeded_status (h : statusWritten kind env = true) :
    (updateStatusIfNeeded kind env p).status = p.status := by
  unfold updateStatusIfNeeded
  split_ifs with heq
  · exact heq
  · rfl

theorem updateStatusIfNeeded_cases (kind : Kind) (env : Env) (p : Pending) :
    (updateStatusIfNeeded kind env p).status = p.status ∨
      (updateStatusIfNeeded kind env p).status = p.resource.status := by
  unfold updateStatusIfNeeded
  split_ifs
  · exact .inr rfl
  · exact .inl rfl
  · exact .inr rfl

/-! ## One step -/

/-- At most one object is alive at any moment of the step, and the ID of an object the step
created is in the status. -/
def UniqueObject (kind : Kind) (s : Settings) (w : World) (e : Event) : Prop :=
  (w.step kind s e).datadog.peak ≤ 1 ∧ (w.step kind s e).datadog.alive.length ≤ 1 ∧
    ((w.step kind s e).datadog.next ≠ w.datadog.next →
      ∀ r, (w.step kind s e).resource = some r → r.status.id = some w.datadog.next)

/-- Fewer conflicts in a row than the retries there are. -/
def FewConflicts : Event → Prop
  | .reconcile env => env.conflicts < defaultRetrySteps
  | .edit _ => True
  | .vanish _ => True

/-- An SLO or dashboard that is to be created meets no conflict when its status is written. -/
def CreatesUncontended (kind : Kind) (s : Settings) (w : World) : Event → Prop
  | .reconcile env =>
    ∀ r, w.resource = some r → kind = .slo ∨ kind = .dashboard →
      (plan kind s env r { w.datadog with log := [] }).decision = .create → env.conflicts = 0
  | .edit _ => True
  | .vanish _ => True

structure Reconciled (r : Resource) (d : Datadog) (out : Option Resource × Datadog) : Prop where
  tracked : Tracked r.status.id d → ∃ id, Tracked id out.2 ∧ ∀ r', out.1 = some r' → r'.status.id = id
  created : out.2.next ≠ d.next → ∀ r', out.1 = some r' → r'.status.id = some d.next

theorem Reconciled.of_shrinks
    (hs : Shrinks d out.2) (hr : ∀ r', out.1 = some r' → r'.status = r.status) :
    Reconciled r d out := by
  constructor
  · intro h
    refine ⟨r.status.id, h.shrinks hs, ?_⟩
    intro r' hr'
    rw [hr r' hr']
  · intro hn
    exact absurd hs.next hn

theorem Reconciled.of_ends
    (hp : Concludes s env r d kind p) (hfew : env.conflicts < defaultRetrySteps)
    (hcreate : kind = .slo ∨ kind = .dashboard →
      (plan kind s env r d).decision = .create → env.conflicts = 0) :
    Reconciled r d (some (updateStatusIfNeeded kind env p), p.datadog) := by
  by_cases hnext : p.datadog.next = d.next
  · refine ⟨?_, fun hn => absurd hnext hn⟩
    intro h
    -- whichever status is stored, its ID is that of the object
    rcases updateStatusIfNeeded_cases kind env p with hst | hst
    · refine ⟨p.status.id, h.ends hp.ends, ?_⟩
      rintro r' ⟨⟩
      rw [hst]
    · refine ⟨r.status.id, hp.ends.tracked_of_next h hnext, ?_⟩
      rintro r' ⟨⟩
      rw [hst, hp.status]
  · obtain ⟨hid, hplan⟩ : p.status.id = some d.next ∧
        (kind = .slo ∨ kind = .dashboard → (plan kind s env r d).decision = .create) := by
      cases hp.ends with
      | kept _ _ hs _ => exact absurd hs.next hnext
      | updated _ _ hs _ => exact absurd hs.next hnext
      | failed _ _ _ hs _ _ => exact absurd hs.next hnext
      | lost _ _ hs _ _ => exact absurd hs.next hnext
      | created hs _ hplan hid _ _ _ _ _ => exact ⟨hs.next ▸ hid, hplan⟩
    have hst := updateStatusIfNeeded_status (p := p)
      (statusWritten_of_few hfew fun hk => hcreate hk (hplan hk))
    constructor
    · intro h
      refine ⟨p.status.id, h.ends hp.ends, ?_⟩
      rintro r' ⟨⟩
      rw [hst]
    · rintro - r' ⟨⟩
      rw [hst, hid]

theorem reconcile_reconciled {s : Settings} {env : Env} {r : Resource} {d : Datadog}
    (hfew : env.conflicts < defaultRetrySteps)
    (hcreate : kind = .slo ∨ kind = .dashboard →
      (plan kind s env r d).decision = .create → env.conflicts = 0) :
    Reconciled r d (reconcile kind s env r d) := by
  unfold reconcile
  split_ifs
  · exact .of_shrinks (.refl d) fun r' hr => by cases hr; rfl
  · rcases hf : handleFinalizer kind env r d with _ | out
    · exact .of_ends (internalReconcile_concludes s env r d kind) hfew hcreate
    · obtain ⟨hs, hr⟩ := handleFinalizer_shrinks hf
      exact .of_shrinks hs hr

theorem edited_status {r r' : Resource} (h : r.edited e = some r') : r'.status = r.status := by
  unfold Resource.edited at h
  dsimp only at h
  split_ifs at h
  cases h
  rfl

/-! ## Runs -/

/-- The objects and the ID in the status, if there is a custom resource. -/
def World.Tracked (w : World) : Prop :=
  ∃ id, Remote.Tracked id w.datadog ∧ ∀ r, w.resource = some r → r.status.id = id

theorem bind_edited_status {resource : Option Resource} {r : Resource}
    (h : resource.bind (·.edited e) = some r) :
    ∃ r', resource = some r' ∧ r.status = r'.status := by
  obtain ⟨r', hr', he⟩ := Option.bind_eq_some_iff.mp h
  exact ⟨r', hr', edited_status he⟩

theorem step_reconcile_status {s : Settings} {w : World} {env : Env}
    {r r' : Resource} (hr : w.resource = some r)
    (h : (w.step kind s (.reconcile env)).resource = some r') :
    ∃ r₁, (reconcile kind s env r { w.datadog with log := [] }).1 = some r₁ ∧
      r'.status = r₁.status := by
  unfold World.step at h
  rw [hr] at h
  dsimp only at h
  split at h
  · exact ⟨r', h, rfl⟩
  · exact bind_edited_status h

theorem step_reconcile_datadog {s : Settings} {w : World} {env : Env} {r : Resource}
    (hr : w.resource = some r) :
    (w.step kind s (.reconcile env)).datadog =
      (reconcile kind s env r { w.datadog with log := [] }).2 := by
  unfold World.step
  rw [hr]

theorem step_reconcile_none {s : Settings} {w : World} {env : Env}
    (hr : w.resource = none) : w.step kind s (.reconcile env) = w := by
  unfold World.step
  rw [hr]

section Step

variable {kind : Kind} {s : Settings} {w : World} {e : Event}

theorem step_tracked (hw : w.Tracked) (hfew : FewConflicts e)
    (hcreate : CreatesUncontended kind s w e) : (w.step kind s e).Tracked := by
  obtain ⟨id, htracked, hid⟩ := hw
  cases e with
  | reconcile env =>
    rcases hr : w.resource with _ | r
    · rw [step_reconcile_none hr]
      exact ⟨id, htracked, hid⟩
    · have hrec := reconcile_reconciled (s := s) hfew (hcreate r hr)
      obtain ⟨id', htracked', hid'⟩ := hrec.tracked (hid r hr ▸ ⟨htracked.1, htracked.2, htracked.3⟩)
      refine ⟨id', step_reconcile_datadog hr ▸ htracked', ?_⟩
      intro r' hr'
      obtain ⟨r₁, hr₁, hst⟩ := step_reconcile_status hr hr'
      rw [hst]
      exact hid' r₁ hr₁
  | edit e =>
    refine ⟨id, htracked, ?_⟩
    intro r' hr'
    obtain ⟨r, hr, hst⟩ := bind_edited_status hr'
    rw [hst]
    exact hid r hr
  | vanish x => exact ⟨id, htracked.shrinks (vanish_shrinks _ x), hid⟩

theorem step_uniqueObject (hw : w.Tracked) (hfew : FewConflicts e)
    (hcreate : CreatesUncontended kind s w e) : UniqueObject kind s w e := by
  obtain ⟨id', htracked', -⟩ := step_tracked hw hfew hcreate
  refine ⟨htracked'.peak, htracked'.length_le, ?_⟩
  intro hnext r' hr'
  cases e with
  | reconcile env =>
    rcases hr : w.resource with _ | r
    · rw [step_reconcile_none hr] at hnext
      exact absurd rfl hnext
    · have hrec := reconcile_reconciled (s := s) hfew (hcreate r hr)
      rw [step_reconcile_datadog hr] at hnext
      obtain ⟨r₁, hr₁, hst⟩ := step_reconcile_status hr hr'
      rw [hst]
      exact hrec.created hnext r₁ hr₁
  | edit e => exact absurd rfl hnext
  | vanish x => exact absurd rfl hnext

end Step

theorem initial_tracked (spec : Spec) : (World.initial spec).Tracked := by
  refine ⟨none, ⟨nofun, .nil, Nat.zero_le 1⟩, ?_⟩
  rintro r ⟨⟩
  rfl

/-- In a run where the status of every created SLO or dashboard is written at once, there is
never a second object. -/
theorem objects_are_unique (kind : Kind) (s : Settings) (spec : Spec) (es : List Event)
    (hfew : ∀ e ∈ es, FewConflicts e)
    (hcreate : Runs.Along (World.step kind s) (CreatesUncontended kind s) (World.initial spec) es) :
    Runs.Along (World.step kind s) (UniqueObject kind s) (World.initial spec) es := by
  refine Runs.Along.of_invariant (I := World.Tracked)
    (C := fun w e => FewConflicts e ∧ CreatesUncontended kind s w e) ?_ ?_ (initial_tracked spec)
    ((Runs.Along.of_events hfew).and hcreate)
  · intro w e hw hc
    exact step_tracked hw hc.1 hc.2
  · intro w e hw hc
    exact step_uniqueObject hw hc.1 hc.2

/-! ## A run of each kind -/

def exampleSettings : Settings where
  generateMD5ForSpec spec := spec.body
  isValid _ := true
  isSupported _ := true
  forceSyncPeriod := 3600
  requeuePeriod := 60

def exampleSpec : Spec := { tags := [requiredTag], body := "latency" }

/-- A monitor is created while its labels are edited, and its status is written again. -/
def monitorRun : List Event :=
  [.reconcile { now := 0 }, .reconcile { now := 1, conflicts := 4 }, .vanish 1,
    .reconcile { now := 2 }, .reconcile { now := 3 }]

/-- An SLO meets the conflicts when its status is written again. -/
def sloRun : List Event :=
  [.reconcile { now := 0 }, .reconcile { now := 1 }, .reconcile { now := 2, conflicts := 4 },
    .vanish 1, .reconcile { now := 4000 }]

theorem monitor_recreated_once :
    Runs.Along (World.step .monitor exampleSettings) (UniqueObject .monitor exampleSettings)
        (World.initial exampleSpec) monitorRun ∧
      Runs.Along (World.step .slo exampleSettings) (UniqueObject .slo exampleSettings)
        (World.initial exampleSpec) sloRun := by
  constructor
  · refine objects_are_unique .monitor exampleSettings exampleSpec monitorRun
      (by simp [monitorRun, FewConflicts, defaultRetrySteps]) ?_
    refine ⟨?_, ?_, trivial, ?_, ?_, trivial⟩ <;> simp [CreatesUncontended]
  · refine objects_are_unique .slo exampleSettings exampleSpec sloRun
      (by simp [sloRun, FewConflicts, defaultRetrySteps]) ⟨?_, ?_, ?_, trivial, ?_, trivial⟩
    · simp [CreatesUncontended]
    · simp [CreatesUncontended]
    · rintro r ⟨⟩ - hplan
      cases hplan
    · simp [CreatesUncontended]

def contendedRun : List Event :=
  [.reconcile { now := 0 }, .reconcile { now := 1, conflicts := 1 }, .reconcile { now := 2 }]

def contendedWorld (kind : Kind) : World :=
  Runs.run (World.step kind exampleSettings) (World.initial exampleSpec) contendedRun

theorem contended_create_duplicates : (∀ e ∈ contendedRun, FewConflicts e) ∧
    ∀ kind ∈ [Kind.slo, Kind.dashboard], (contendedWorld kind).datadog.alive = [2, 1] ∧
      (contendedWorld kind).resource.map (·.status.id) = some (some 2) ∧
      ¬ Runs.Along (World.step kind exampleSettings) (UniqueObject kind exampleSettings)
        (World.initial exampleSpec) contendedRun := by
  constructor
  · intro e he
    simp only [contendedRun, List.mem_cons, List.not_mem_nil, or_false] at he
    rcases he with rfl | rfl | rfl <;> simp [FewConflicts, defaultRetrySteps]
  · intro kind hkind
    simp only [List.mem_cons, List.not_mem_nil, or_false] at hkind
    rcases hkind with rfl | rfl
    · refine ⟨by decide +kernel, by decide +kernel, ?_⟩
      rintro ⟨-, -, ⟨hpeak, -⟩, -⟩
      revert hpeak
      decide +kernel
    · refine ⟨by decide +kernel, by decide +kernel, ?_⟩
      rintro ⟨-, -, ⟨hpeak, -⟩, -⟩
      revert hpeak
      decide +kernel

end DatadogOperator.Remote
