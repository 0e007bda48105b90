import DatadogOperator.Remote.Uniqueness

/-!
# A spec that was not written is tried again

A reconcile tells from the hash in the status whether the spec is in Datadog. A monitor's
hash is stored once the spec is written. The other controllers store it before the update,
and take a failed update for a spec that is in Datadog until the next force sync.
-/

namespace DatadogOperator.Remote

/-- The calls that write an object, or check that it is there before one does. -/
def Call.attempts : Call → Bool
  | .get | .validate | .create | .update => true
  | .refresh | .delete => false

def Attempted (d : Datadog) : Prop := ∃ call ∈ d.log, call.attempts = true

/-! ## Logs -/

section Logs

variable {d d' : Datadog} {call : Call} {id : Nat} {o : Outcome} {e : Option CallError} {spec : Spec}

theorem called_attempted (h : call.attempts = true) : Attempted (d.called call) :=
  ⟨call, List.mem_append_right _ (List.mem_singleton_self call), h⟩

theorem access_log (d : Datadog) (call : Call) (id : Nat) (o : Outcome) :
    (d.access call id o).1.log = d.log ++ [call] := by
  unfold Datadog.access
  cases o.gone <;> rfl

theorem access_attempted (h : d.access call id o = (d', e)) (hcall : call.attempts = true) :
    Attempted d' := by
  have hlog := access_log d call id o
  rw [h] at hlog
  refine ⟨call, ?_, hcall⟩
  rw [hlog]
  exact List.mem_append_right _ (List.mem_singleton_self call)

theorem update_attempted (d : Datadog) (id : Nat) (spec : Spec) (o : Outcome) :
    Attempted (d.update id spec o).1 := by
  unfold Datadog.update
  rcases ha : d.access .update id o with ⟨d', e⟩
  have h : Attempted d' := access_attempted ha rfl
  cases e with
  | none => exact h
  | some _ => exact h

theorem create_attempted (d : Datadog) (spec : Spec) (fails : Bool) :
    Attempted (d.create spec fails).1 := by
  have h : Attempted (d.called .create) := called_attempted rfl
  unfold Datadog.create
  cases fails with
  | true => exact h
  | false => exact h

end Logs

/-! ## Reconciles that try -/

/-- Past the finalizer, valid, of a type that is supported, and with the required tags. -/
@[mk_iff]
structure Eligible (kind : Kind) (s : Settings) (r : Resource) : Prop where
  kept : r.deleting = false
  finalizer : r.finalizer = true
  valid : kind ≠ .genericResource → s.isValid r.spec = true
  supported : kind = .monitor ∨ kind = .genericResource → s.isSupported r.spec = true
  tags : kind = .monitor ∨ kind = .slo →
    r.spec.disableRequiredTags = true ∨ requiredTag ∈ r.spec.tags

instance (kind : Kind) (s : Settings) (r : Resource) : Decidable (Eligible kind s r) :=
  decidable_of_iff _ (eligible_iff kind s r).symm

section Attempts

variable {s : Settings} {env : Env} {r : Resource} {d : Datadog}

theorem monitorCreate_attempted : Attempted (monitorCreate s env spec status d).2 := by
  have hv : Attempted (d.called .validate) := called_attempted rfl
  unfold monitorCreate
  dsimp only
  split_ifs
  · exact hv
  · have hc := create_attempted (d.called .validate) spec env.createFails
    split
    · rename_i h
      rwa [h] at hc
    · rename_i h
      rwa [h] at hc

theorem monitorUpdate_attempted : Attempted (monitorUpdate s env spec status d).2 := by
  have hv : Attempted (d.called .validate) := called_attempted rfl
  unfold monitorUpdate
  dsimp only
  split_ifs
  · exact hv
  · have hu := update_attempted (d.called .validate) (status.id.getD 0) spec env.update
    rcases h : (d.called .validate).update (status.id.getD 0) spec env.update with ⟨d', _ | _ | _⟩
    all_goals rwa [h] at hu

theorem createObject_attempted : Attempted (createObject s env t spec status d).2 := by
  have hc := create_attempted d spec env.createFails
  unfold createObject
  rcases h : d.create spec env.createFails with ⟨d', _ | _⟩
  all_goals rwa [h] at hc

theorem updateObject_attempted : Attempted (updateObject s env spec status d).2 := by
  have hu := update_attempted d (status.id.getD 0) spec env.update
  unfold updateObject
  dsimp only
  rcases h : d.update (status.id.getD 0) spec env.update with ⟨d', _ | _⟩
  all_goals rwa [h] at hu

theorem genericUpdate_attempted : Attempted (genericUpdate s env spec status d).2 := by
  have hu := update_attempted d (status.id.getD 0) spec env.update
  unfold genericUpdate
  dsimp only
  rcases h : d.update (status.id.getD 0) spec env.update with ⟨d', _ | _ | _⟩
  · rwa [h] at hu
  · exact createObject_attempted
  · rwa [h] at hu

theorem checkRequiredTags_present (h : r.spec.disableRequiredTags = true ∨ requiredTag ∈ r.spec.tags) :
    checkRequiredTags env r = .present := by
  unfold checkRequiredTags
  rw [if_pos h]

theorem withRequiredTags_attempted
    (htags : r.spec.disableRequiredTags = true ∨ requiredTag ∈ r.spec.tags)
    (hact : Attempted (act p.status p.datadog).2) :
    Attempted (withRequiredTags env r p act).datadog := by
  unfold withRequiredTags
  rw [checkRequiredTags_present htags]
  exact hact

theorem Plan.run_attempted {p : Plan}
    (hp : p.decision ≠ .nothing) (hcreate : Attempted (create p.status p.datadog).2)
    (hupdate : Attempted (update p.status p.datadog).2) :
    Attempted (p.run r create update).datadog := by
  unfold Plan.run
  split
  · rename_i h
    exact absurd h hp
  · exact hcreate
  · exact hupdate

theorem monitorPlan_attempted
    (h : r.status.id = none ∨ s.generateMD5ForSpec r.spec ≠ r.status.currentHash)
    (hd : (monitorPlan s env r d).decision = .nothing) :
    Attempted (monitorPlan s env r d).datadog := by
  unfold monitorPlan at hd ⊢
  rcases hid : r.status.id with _ | id
  · rw [hid] at hd
    cases hd
  · have hhash : s.generateMD5ForSpec r.spec ≠ r.status.currentHash :=
      h.resolve_left (by rw [hid]; nofun)
    dsimp only
    rw [if_pos hhash]
    unfold monitorSync
    rcases ha : d.access .get id env.get with ⟨d', e⟩
    have hatt : Attempted d' := access_attempted ha rfl
    rcases e with _ | _ | _ <;> exact hatt

theorem plan_ne_nothing (hkind : kind ≠ .monitor)
    (h : r.status.id = none ∨ s.generateMD5ForSpec r.spec ≠ r.status.currentHash) :
    (plan kind s env r d).decision ≠ .nothing := by
  rcases hid : r.status.id with _ | id
  · cases kind with
    | monitor => exact absurd rfl hkind
    | slo => simp [plan, sloPlan, hid]
    | dashboard => simp [plan, dashboardPlan, hid]
    | genericResource => simp [plan, genericPlan, hid]
  · have hne : r.status.id ≠ none := by simp [hid]
    rw [plan_changed hkind hne (h.resolve_left hne)]
    rintro ⟨⟩

theorem internalReconcile_attempted {kind : Kind} (he : Eligible kind s r)
    (h : r.status.id = none ∨ s.generateMD5ForSpec r.spec ≠ r.status.currentHash) :
    Attempted (internalReconcile kind s env r d).datadog := by
  cases kind with
  | monitor =>
    have htags := he.tags (.inl rfl)
    unfold internalReconcile monitorReconcile
    dsimp only
    rw [he.valid (by decide), if_neg (by simp)]
    split
    · rename_i hd
      exact monitorPlan_attempted h hd
    · rw [if_pos (he.supported (.inl rfl))]
      exact withRequiredTags_attempted htags monitorCreate_attempted
    · exact withRequiredTags_attempted htags monitorUpdate_attempted
  | slo =>
    have htags := he.tags (.inr rfl)
    have hp : (plan .slo s env r d).decision ≠ .nothing := plan_ne_nothing (by decide) h
    unfold internalReconcile sloReconcile
    dsimp only
    rw [he.valid (by decide), if_neg (by simp)]
    split
    · rename_i hd
      exact absurd hd hp
    · exact withRequiredTags_attempted htags createObject_attempted
    · exact withRequiredTags_attempted htags updateObject_attempted
  | dashboard =>
    have hp : (plan .dashboard s env r d).decision ≠ .nothing := plan_ne_nothing (by decide) h
    unfold internalReconcile dashboardReconcile
    dsimp only
    rw [he.valid (by decide), if_neg (by simp)]
    exact Plan.run_attempted hp createObject_attempted updateObject_attempted
  | genericResource =>
    have hp : (plan .genericResource s env r d).decision ≠ .nothing := plan_ne_nothing (by decide) h
    exact Plan.run_attempted hp createObject_attempted genericUpdate_attempted

end Attempts

/-! ## The hash in the status -/

/-- The hash is that of the spec that was written last. -/
def Synced (s : Settings) (status : Status) (d : Datadog) : Prop :=
  status.id ≠ none → ∃ spec, d.written = some spec ∧ status.currentHash = s.generateMD5ForSpec spec

section Synced

variable {kind : Kind} {s : Settings} {env : Env} {r : Resource} {d d' : Datadog} {status : Status}

theorem Synced.of_eq (h : Synced s r.status d) (hid : status.id = r.status.id)
    (hhash : status.currentHash = r.status.currentHash) (hw : d'.written = d.written) :
    Synced s status d' := by
  intro hne
  rw [hid] at hne
  rw [hhash, hw]
  exact h hne

theorem Synced.ends (h : Synced s r.status d) (he : Ends kind s env r d status d')
    (hupdate : kind ≠ .monitor → r.status.id ≠ none →
      s.generateMD5ForSpec r.spec ≠ r.status.currentHash → ¬ UpdateFails kind env r.status d) :
    Synced s status d' := by
  cases he with
  | kept hid hhash _ hw => exact h.of_eq hid hhash hw
  | updated _ hhash _ hw =>
    intro _
    exact ⟨r.spec, hw, hhash⟩
  | lost _ hid _ _ _ =>
    intro hne
    exact absurd hid hne
  | failed hkind hid hhash _ hw hfails =>
    by_cases hsame : s.generateMD5ForSpec r.spec = r.status.currentHash
    · exact h.of_eq hid (hhash.trans hsame) hw
    · intro hne
      rw [hid] at hne
      exact absurd (hfails hne hsame) (hupdate hkind hne hsame)
  | created _ _ _ _ hhash _ _ _ hw =>
    intro _
    exact ⟨r.spec, hw, hhash⟩

end Synced

theorem delete_written (d : Datadog) (id : Nat) (o : Outcome) :
    (d.delete id o).1.written = d.written := by
  unfold Datadog.delete
  rcases ha : d.access .delete id o with ⟨d', e⟩
  have hw := access_written ha
  cases e with
  | none => exact hw
  | some _ => exact hw

theorem deleteResource_written (kind : Kind) (env : Env) (status : Status) (d : Datadog) :
    (deleteResource kind env status d).1.written = d.written := by
  unfold deleteResource
  cases kind with
  | monitor =>
    dsimp only
    split_ifs
    · exact delete_written d _ _
    · rfl
  | slo | dashboard | genericResource =>
    cases status.id with
    | none => rfl
    | some id => exact delete_written d id _

theorem handleFinalizer_written (h : handleFinalizer kind env r d = some out) :
    out.2.written = d.written := by
  have hdel := deleteResource_written kind env r.status d
  unfold handleFinalizer at h
  rcases hd : deleteResource kind env r.status d with ⟨d', failed⟩
  rw [hd] at h hdel
  dsimp only at h
  split_ifs at h <;> cases h
  · rfl
  · rfl
  · exact hdel
  · exact hdel
  · exact hdel
  · rfl

theorem handleFinalizer_eligible
    (he : Eligible kind s r) : handleFinalizer kind env r d = none := by
  unfold handleFinalizer
  rw [he.kept, he.finalizer]
  rfl

/-! ## One step -/

/-- A reconcile tries to write a spec that is not what was written last. -/
def RetriesWrite (kind : Kind) (s : Settings) (w : World) : Event → Prop
  | .reconcile env =>
    ∀ r, w.resource = some r → Eligible kind s r → w.datadog.written ≠ some r.spec →
      Attempted (w.step kind s (.reconcile env)).datadog
  | .edit _ => True
  | .vanish _ => True

def StatusWritten (kind : Kind) : Event → Prop
  | .reconcile env => statusWritten kind env = true
  | .edit _ => True
  | .vanish _ => True

/-- An update of a changed SLO, dashboard or generic resource does not fail. -/
def UpdatesSucceed (kind : Kind) (s : Settings) (w : World) : Event → Prop
  | .reconcile env =>
    ∀ r, w.resource = some r → kind ≠ .monitor → r.status.id ≠ none →
      s.generateMD5ForSpec r.spec ≠ r.status.currentHash →
        ¬ UpdateFails kind env r.status { w.datadog with log := [] }
  | .edit _ => True
  | .vanish _ => True

/-- The spec that was written last has the hash of the current one only if it is the same. -/
def Distinguishes (s : Settings) (w : World) : Event → Prop
  | .reconcile _ =>
    ∀ r ∈ w.resource, ∀ spec ∈ w.datadog.written,
      s.generateMD5ForSpec r.spec = s.generateMD5ForSpec spec → r.spec = spec
  | .edit _ => True
  | .vanish _ => True

instance (s : Settings) (w : World) (e : Event) : Decidable (Distinguishes s w e) := by
  cases e <;> dsimp only [Distinguishes] <;> infer_instance

def World.Synced (s : Settings) (w : World) : Prop :=
  ∀ r, w.resource = some r → Remote.Synced s r.status w.datadog

section Step

variable {kind : Kind} {s : Settings} {w : World} {e : Event}

theorem reconcile_synced (h : Synced s r.status d) (hwritten : statusWritten kind env = true)
    (hupdate : kind ≠ .monitor → r.status.id ≠ none →
      s.generateMD5ForSpec r.spec ≠ r.status.currentHash → ¬ UpdateFails kind env r.status d)
    (hr : (reconcile kind s env r d).1 = some r') :
    Synced s r'.status (reconcile kind s env r d).2 := by
  unfold reconcile at hr ⊢
  split_ifs at hr ⊢
  · cases hr
    exact h
  · rcases hf : handleFinalizer kind env r d with _ | out
    · rw [hf] at hr
      cases hr
      rw [updateStatusIfNeeded_status hwritten]
      exact h.ends (internalReconcile_concludes s env r d kind).ends hupdate
    · rw [hf] at hr
      have hst := (handleFinalizer_shrinks hf).2 r' hr
      exact h.of_eq (by rw [hst]) (by rw [hst]) (handleFinalizer_written hf)

theorem step_synced (hw : w.Synced s) (hwritten : StatusWritten kind e)
    (hupdate : UpdatesSucceed kind s w e) : (w.step kind s e).Synced s := by
  cases e with
  | reconcile env =>
    intro r' hr'
    rcases hr : w.resource with _ | r
    · rw [step_reconcile_none hr] at hr' ⊢
      exact hw r' hr'
    · obtain ⟨r₁, hr₁, hst⟩ := step_reconcile_status hr hr'
      rw [hst, step_reconcile_datadog hr]
      exact reconcile_synced (hw r hr) hwritten (hupdate r hr) hr₁
  | edit e =>
    intro r' hr'
    obtain ⟨r, hr, hst⟩ := bind_edited_status hr'
    rw [hst]
    exact hw r hr
  | vanish x =>
    intro r hr
    exact hw r hr

theorem step_retriesWrite (hmd5 : Distinguishes s w e) (hw : w.Synced s) :
    RetriesWrite kind s w e := by
  cases e with
  | reconcile env =>
    intro r hr he hne
    have hdue : r.status.id = none ∨ s.generateMD5ForSpec r.spec ≠ r.status.currentHash := by
      by_cases hid : r.status.id = none
      · exact .inl hid
      · obtain ⟨spec, hspec, hhash⟩ := hw r hr hid
        refine .inr ?_
        rw [hhash]
        intro heq
        rw [hspec, hmd5 r hr spec hspec heq] at hne
        exact hne rfl
    rw [step_reconcile_datadog hr]
    unfold reconcile
    rw [if_neg, handleFinalizer_eligible he]
    · exact internalReconcile_attempted he hdue
    · rintro ⟨hkind, hs⟩
      rw [he.supported (.inr hkind)] at hs
      cases hs
  | edit e => trivial
  | vanish x => trivial

end Step

theorem initial_synced (s : Settings) (spec : Spec) : (World.initial spec).Synced s := by
  rintro r ⟨⟩ hid
  exact absurd rfl hid

/-- In a run in which no update of a changed SLO, dashboard or generic resource fails, a
spec that is not in Datadog is tried by every reconcile. -/
theorem unwritten_specs_are_tried (kind : Kind) (s : Settings) (spec : Spec) (es : List Event)
    (hwritten : ∀ e ∈ es, StatusWritten kind e)
    (hmd5 : Runs.Along (World.step kind s) (Distinguishes s) (World.initial spec) es)
    (hupdate : Runs.Along (World.step kind s) (UpdatesSucceed kind s) (World.initial spec) es) :
    Runs.Along (World.step kind s) (RetriesWrite kind s) (World.initial spec) es := by
  refine Runs.Along.of_invariant (I := World.Synced s)
    (C := fun w e => Distinguishes s w e ∧ StatusWritten kind e ∧ UpdatesSucceed kind s w e) ?_ ?_
    (initial_synced s spec) (hmd5.and ((Runs.Along.of_events hwritten).and hupdate))
  · intro w e hw hc
    exact step_synced hw hc.2.1 hc.2.2
  · intro w e hw hc
    exact step_retriesWrite hc.1 hw

/-! ## A run of each kind -/

def editedSpec : Spec := { exampleSpec with body := "errors" }

/-- The update of an edited spec fails. Datadog can be reached again a second later. -/
def failedUpdateRun : List Event :=
  [.reconcile { now := 0 }, .reconcile { now := 1, createdAt := some 1 },
    .edit { spec := editedSpec },
    .reconcile { now := 2, update := { fails := true } }]

theorem failed_monitor_update_is_retried :
    Runs.Along (World.step .monitor exampleSettings) (RetriesWrite .monitor exampleSettings)
      (World.initial exampleSpec) (failedUpdateRun ++ [.reconcile { now := 3 }]) := by
  refine unwritten_specs_are_tried .monitor exampleSettings exampleSpec _ ?_ (by decide +kernel) ?_
  · intro e he
    simp only [failedUpdateRun, List.cons_append, List.nil_append, List.mem_cons,
      List.not_mem_nil, or_false] at he
    rcases he with rfl | rfl | rfl | rfl | rfl <;> trivial
  · refine ⟨?_, ?_, trivial, ?_, ?_, trivial⟩ <;> exact fun r _ hm => absurd rfl hm

def failedUpdateWorld (kind : Kind) : World :=
  Runs.run (World.step kind exampleSettings) (World.initial exampleSpec) failedUpdateRun

def failedUpdateResource (kind : Kind) : Resource :=
  (failedUpdateWorld kind).resource.getD { spec := exampleSpec }

/-- The reconcile after a failed update writes nothing, although the object has the old spec. -/
theorem failed_update_not_retried :
    [Kind.slo, Kind.dashboard, Kind.genericResource].Forall fun kind =>
      (∀ e ∈ failedUpdateRun, StatusWritten kind e) ∧
      (failedUpdateWorld kind).datadog.written = some exampleSpec ∧
      (failedUpdateResource kind).spec = editedSpec ∧
      ¬ RetriesWrite kind exampleSettings (failedUpdateWorld kind) (.reconcile { now := 3 }) := by
  rw [List.forall_iff_forall_mem]
  intro kind hkind
  refine ⟨?_, ?_, ?_, ?_⟩
  · intro e he
    simp only [failedUpdateRun, List.mem_cons, List.not_mem_nil, or_false] at he
    rcases he with rfl | rfl | rfl | rfl <;> trivial
  · revert kind
    decide +kernel
  · revert kind
    decide +kernel
  · have hstate : (failedUpdateWorld kind).resource = some (failedUpdateResource kind) ∧
        Eligible kind exampleSettings (failedUpdateResource kind) ∧
        (failedUpdateWorld kind).datadog.written ≠ some (failedUpdateResource kind).spec := by
      revert kind
      decide +kernel
    have hlog : ∀ call ∈ ((failedUpdateWorld kind).step kind exampleSettings
        (.reconcile { now := 3 })).datadog.log, call.attempts = false := by
      clear hstate
      revert kind
      decide +kernel
    intro h
    obtain ⟨hr, heligible, hwritten⟩ := hstate
    obtain ⟨call, hmem, hattempts⟩ := h _ hr heligible hwritten
    rw [hlog call hmem] at hattempts
    cases hattempts

end DatadogOperator.Remote
