import DatadogOperator.Remote.Controllers

/-!
# How a reconcile can end

Whatever the controller, a reconcile that gets past the finalizer ends in one of five ways.
The invariants over runs are derived from these, not from the code of each controller.
-/

namespace DatadogOperator.Remote

/-! ## Calls -/

/-- No object was made. -/
structure Shrinks (d d' : Datadog) : Prop where
  alive : d'.alive.Sublist d.alive
  next : d'.next = d.next
  peak : d'.peak = d.peak

theorem Shrinks.refl (d : Datadog) : Shrinks d d := ⟨.refl _, rfl, rfl⟩

theorem Shrinks.trans {d d' d'' : Datadog} (h : Shrinks d d') (h' : Shrinks d' d'') :
    Shrinks d d'' :=
  ⟨h'.alive.trans h.alive, h'.next.trans h.next, h'.peak.trans h.peak⟩

theorem vanish_shrinks (d : Datadog) (id : Nat) : Shrinks d (d.vanish id) :=
  ⟨List.filter_sublist, rfl, rfl⟩

section Access

variable {d d' : Datadog} {call : Call} {id : Nat} {o : Outcome} {e : Option CallError}

theorem access_shrinks (h : d.access call id o = (d', e)) : Shrinks d d' := by
  cases h
  cases o.gone with
  | false => exact ⟨.refl _, rfl, rfl⟩
  | true => exact ⟨List.filter_sublist, rfl, rfl⟩

theorem access_written (h : d.access call id o = (d', e)) : d'.written = d.written := by
  cases h
  cases o.gone <;> rfl

theorem access_notFound (h : d.access call id o = (d', some .notFound)) : id ∉ d'.alive := by
  unfold Datadog.access at h
  obtain ⟨rfl, he⟩ := Prod.mk.inj h
  intro hmem
  rw [if_pos hmem] at he
  cases hf : o.fails <;> simp [hf] at he

theorem update_shrinks {spec : Spec} (h : d.update id spec o = (d', e)) : Shrinks d d' := by
  unfold Datadog.update at h
  rcases ha : d.access .update id o with ⟨d₁, e₁⟩
  have hs := access_shrinks ha
  rw [ha] at h
  cases h
  cases e with
  | none => exact ⟨hs.alive, hs.next, hs.peak⟩
  | some _ => exact hs

theorem update_written {spec : Spec} (h : d.update id spec o = (d', none)) :
    d'.written = some spec := by
  unfold Datadog.update at h
  rcases ha : d.access .update id o with ⟨d₁, e₁⟩
  rw [ha] at h
  obtain ⟨rfl, rfl⟩ := Prod.mk.inj h
  rfl

theorem update_failed {err : CallError} (h : d.update id spec o = (d', some err)) :
    d.access .update id o = (d', some err) := by
  unfold Datadog.update at h
  rcases ha : d.access .update id o with ⟨d₁, e₁⟩
  rw [ha] at h
  obtain ⟨rfl, rfl⟩ := Prod.mk.inj h
  rfl

end Access

/-! ## Plans -/

/-- A plan has made nothing yet, and creates only what does not exist. -/
structure Plan.Sound (old : Status) (d : Datadog) (plan : Plan) : Prop where
  id : plan.status.id = old.id
  hash : plan.status.currentHash = old.currentHash
  shrinks : Shrinks d plan.datadog
  written : plan.datadog.written = d.written
  missing : plan.decision = .create → ∀ id, old.id = some id → id ∉ plan.datadog.alive

section Plans

variable (s : Settings) (env : Env) (r : Resource) (d : Datadog) {id : Nat}

theorem Plan.Sound.idle (decision : Decision) (h : decision = .create → r.status.id = none) :
    Plan.Sound r.status d ⟨decision, r.status, d⟩ := by
  refine ⟨rfl, rfl, .refl d, rfl, ?_⟩
  intro hd id hid
  rw [h hd] at hid
  cases hid

variable {d} {call : Call} {d' : Datadog} {e : Option CallError}

theorem Plan.Sound.looked {old status : Status} {decision : Decision}
    (hcall : d.access call id env.get = (d', e)) (hold : old.id = some id)
    (hid : status.id = old.id) (hhash : status.currentHash = old.currentHash)
    (hdecision : decision = .create → e = some .notFound) :
    Plan.Sound old d ⟨decision, status, { d' with refreshed := m }⟩ := by
  have hs := access_shrinks hcall
  have hw := access_written hcall
  refine ⟨hid, hhash, ⟨hs.alive, hs.next, hs.peak⟩, hw, ?_⟩
  intro hc id' hid'
  rw [hold] at hid'
  cases hid'
  rw [hdecision hc] at hcall
  have hmissing := access_notFound hcall
  exact hmissing

variable (d)

theorem sync_sound (hid : r.status.id = some id) : ∀ sync ∈ [monitorSync, monitorRefresh,
    sloForceSync, dashboardForceSync, genericForceSync, genericRefresh],
      (sync env id r.status d).Sound r.status d := by
  simp only [List.forall_mem_cons, monitorSync, monitorRefresh, sloForceSync, dashboardForceSync,
    genericForceSync, genericRefresh]
  rcases hget : d.access .get id env.get with ⟨_, _ | _ | _⟩ <;>
    rcases hrefresh : d.access .refresh id env.get with ⟨_, _ | _ | _⟩ <;>
    cases env.state <;> refine ⟨?_, ?_, ?_, ?_, ?_, ?_, by simp⟩ <;>
    first
      | exact .looked env hget hid rfl rfl (by simp)
      | exact .looked env hrefresh hid rfl rfl (by simp)

end Plans

def plan (kind : Kind) (s : Settings) (env : Env) (r : Resource) (d : Datadog) : Plan :=
  match kind with
  | .monitor => monitorPlan s env r d
  | .slo => sloPlan s env r d
  | .dashboard => dashboardPlan s env r d
  | .genericResource => genericPlan s env r d

theorem plan_sound (kind : Kind) (s : Settings) (env : Env) (r : Resource) (d : Datadog) :
    (plan kind s env r d).Sound r.status d := by
  cases hid : r.status.id with
  | none =>
    cases kind <;> simp only [plan, monitorPlan, sloPlan, dashboardPlan, genericPlan, hid] <;>
      exact .idle r d _ fun _ => hid
  | some id =>
    have hsync := sync_sound env r d hid
    cases kind <;> simp only [plan, monitorPlan, sloPlan, dashboardPlan, genericPlan, hid] <;>
      split_ifs
    all_goals first | exact hsync _ (by simp) | exact .idle r d _ nofun

theorem plan_changed (hkind : kind ≠ .monitor) (hid : r.status.id ≠ none)
    (hhash : s.generateMD5ForSpec r.spec ≠ r.status.currentHash) :
    plan kind s env r d = ⟨.update, r.status, d⟩ := by
  obtain ⟨id, hid⟩ := Option.ne_none_iff_exists'.mp hid
  cases kind with
  | monitor => exact absurd rfl hkind
  | slo => simp [plan, sloPlan, hid, hhash]
  | dashboard => simp [plan, dashboardPlan, hid, hhash]
  | genericResource => simp [plan, genericPlan, hid, hhash]

/-! ## Endings -/

/-- The update of an object fails; a generic resource that is gone is created instead. -/
def UpdateFails (kind : Kind) (env : Env) (status : Status) (d : Datadog) : Prop :=
  match kind, (d.access .update (status.id.getD 0) env.update).2 with
  | _, none => False
  | .genericResource, some .notFound => env.createFails
  | _, some _ => True

/-- The status and Datadog at the end, from those before. -/
inductive Ends (kind : Kind) (s : Settings) (env : Env) (r : Resource) (d : Datadog) :
    Status → Datadog → Prop
  | kept {status d'} : status.id = r.status.id → status.currentHash = r.status.currentHash →
      Shrinks d d' → d'.written = d.written → Ends kind s env r d status d'
  | updated {status d'} : status.id = r.status.id →
      status.currentHash = s.generateMD5ForSpec r.spec →
      Shrinks d d' → d'.written = some r.spec → Ends kind s env r d status d'
  /-- A monitor went between the check and the update. -/
  | lost {status d'} : kind = .monitor → status.id = none → Shrinks d d' →
      (∀ id, r.status.id = some id → id ∉ d'.alive) → d'.written = d.written →
      Ends kind s env r d status d'
  /-- The status has the hash of a spec that was not written, unless it had it before. -/
  | failed {status d'} : kind ≠ .monitor → status.id = r.status.id →
      status.currentHash = s.generateMD5ForSpec r.spec → Shrinks d d' → d'.written = d.written →
      (r.status.id ≠ none → s.generateMD5ForSpec r.spec ≠ r.status.currentHash →
        UpdateFails kind env r.status d) →
      Ends kind s env r d status d'
  | created {status d₁ d'} : Shrinks d d₁ → (∀ id, r.status.id = some id → id ∉ d₁.alive) →
      (kind = .slo ∨ kind = .dashboard → (plan kind s env r d).decision = .create) →
      status.id = some d₁.next → status.currentHash = s.generateMD5ForSpec r.spec →
      d'.alive = d₁.next :: d₁.alive → d'.next = d₁.next + 1 →
      d'.peak = max d₁.peak (d₁.alive.length + 1) → d'.written = some r.spec →
      Ends kind s env r d status d'

section Acts

variable {kind : Kind} {s : Settings} {env : Env} {r : Resource} {d : Datadog} {p : Plan}

theorem Plan.Sound.kept (h : p.Sound r.status d) : Ends kind s env r d p.status p.datadog :=
  .kept h.id h.hash h.shrinks h.written

theorem create_none {spec : Spec} {fails : Bool} (h : d.create spec fails = (d', none)) :
    fails = true ∧ Shrinks d d' ∧ d'.written = d.written := by
  unfold Datadog.create at h
  cases fails with
  | false => cases h
  | true =>
    cases h
    exact ⟨rfl, ⟨.refl _, rfl, rfl⟩, rfl⟩

theorem Ends.of_create {d₀ d₁ d' : Datadog} {id : Nat} {status : Status}
    (hs : Shrinks d d₀) (hmissing : ∀ id, r.status.id = some id → id ∉ d₀.alive)
    (hplan : kind = .slo ∨ kind = .dashboard → (plan kind s env r d).decision = .create)
    (hcall : d₁.alive = d₀.alive ∧ d₁.next = d₀.next ∧ d₁.peak = d₀.peak)
    (h : d₁.create r.spec fails = (d', some id)) (hid : status.id = some id)
    (hhash : status.currentHash = s.generateMD5ForSpec r.spec) :
    Ends kind s env r d status d' := by
  unfold Datadog.create at h
  obtain ⟨halive, hnext, hpeak⟩ := hcall
  cases fails with
  | true => cases h
  | false =>
    cases h
    have hs₁ : Shrinks d d₁ := by
      refine ⟨?_, hnext.trans hs.next, hpeak.trans hs.peak⟩
      rw [halive]
      exact hs.alive
    rw [← halive] at hmissing
    exact .created hs₁ hmissing hplan hid hhash rfl rfl rfl rfl

theorem monitorCreate_ends (h : p.Sound r.status d) (hd : p.decision = .create) :
    Ends .monitor s env r d (monitorCreate s env r.spec p.status p.datadog).1
      (monitorCreate s env r.spec p.status p.datadog).2 := by
  have hv : Shrinks d (p.datadog.called .validate) :=
    ⟨h.shrinks.alive, h.shrinks.next, h.shrinks.peak⟩
  unfold monitorCreate
  dsimp only
  split_ifs
  · exact .kept h.id h.hash hv h.written
  · rcases hc : (p.datadog.called .validate).create r.spec env.createFails with ⟨d', _ | id⟩
    · obtain ⟨-, hs, hw⟩ := create_none hc
      exact .kept h.id h.hash (hv.trans hs) (hw.trans h.written)
    · exact .of_create hv (h.missing hd) (by simp) ⟨rfl, rfl, rfl⟩ hc rfl rfl

theorem monitorUpdate_ends (h : p.Sound r.status d) :
    Ends .monitor s env r d (monitorUpdate s env r.spec p.status p.datadog).1
      (monitorUpdate s env r.spec p.status p.datadog).2 := by
  have hv : Shrinks d (p.datadog.called .validate) :=
    ⟨h.shrinks.alive, h.shrinks.next, h.shrinks.peak⟩
  unfold monitorUpdate
  dsimp only
  split_ifs
  · exact .kept h.id h.hash hv h.written
  · rcases hu : (p.datadog.called .validate).update (p.status.id.getD 0) r.spec env.update with
      ⟨d', _ | e⟩
    · exact .updated h.id rfl (hv.trans (update_shrinks hu)) (update_written hu)
    · have hs := hv.trans (update_shrinks hu)
      have hw := (access_written (update_failed hu)).trans h.written
      cases e with
      | notFound =>
        refine .lost rfl rfl hs ?_ hw
        intro id hid
        have hmissing := access_notFound (update_failed hu)
        rwa [h.id, hid] at hmissing
      | other => exact .kept h.id h.hash hs hw

theorem createObject_ends {t : Time} (h : p.Sound r.status d) (hd : p.decision = .create)
    (hplan : kind = .slo ∨ kind = .dashboard → (plan kind s env r d).decision = .create) :
    Ends kind s env r d (createObject s env t r.spec p.status p.datadog).1
      (createObject s env t r.spec p.status p.datadog).2 := by
  unfold createObject
  rcases hc : p.datadog.create r.spec env.createFails with ⟨d', _ | id⟩
  · obtain ⟨-, hs, hw⟩ := create_none hc
    exact .kept h.id h.hash (h.shrinks.trans hs) (hw.trans h.written)
  · exact .of_create h.shrinks (h.missing hd) hplan ⟨rfl, rfl, rfl⟩ hc rfl rfl

theorem updateFails_of_changed {d' : Datadog} (hkind : kind ≠ .monitor)
    (hp : p = plan kind s env r d)
    (hu : p.datadog.update (p.status.id.getD 0) r.spec env.update = (d', some e))
    (hgeneric : kind = .genericResource → e = .notFound → env.createFails = true)
    (hid : r.status.id ≠ none) (hhash : s.generateMD5ForSpec r.spec ≠ r.status.currentHash) :
    UpdateFails kind env r.status d := by
  rw [plan_changed hkind hid hhash] at hp
  subst hp
  have hcall := update_failed hu
  dsimp only at hcall
  unfold UpdateFails
  rw [hcall]
  cases kind with
  | monitor => exact absurd rfl hkind
  | slo => cases e <;> trivial
  | dashboard => cases e <;> trivial
  | genericResource =>
    cases e with
    | notFound => exact hgeneric rfl rfl
    | other => trivial

theorem updateObject_ends (hkind : kind = .slo ∨ kind = .dashboard) (hp : p = plan kind s env r d) :
    Ends kind s env r d (updateObject s env r.spec p.status p.datadog).1
      (updateObject s env r.spec p.status p.datadog).2 := by
  have h : p.Sound r.status d := hp ▸ plan_sound kind s env r d
  unfold updateObject
  dsimp only
  rcases hu : p.datadog.update (p.status.id.getD 0) r.spec env.update with ⟨d', _ | e⟩
  · exact .updated h.id rfl (h.shrinks.trans (update_shrinks hu)) (update_written hu)
  · have hw := (access_written (update_failed hu)).trans h.written
    have hm : kind ≠ .monitor := by rcases hkind with rfl | rfl <;> nofun
    have hg : kind ≠ .genericResource := by rcases hkind with rfl | rfl <;> nofun
    exact .failed hm h.id rfl (h.shrinks.trans (update_shrinks hu)) hw
      (updateFails_of_changed hm hp hu (fun hk => absurd hk hg))

theorem genericUpdate_ends (hp : p = plan .genericResource s env r d) :
    Ends .genericResource s env r d (genericUpdate s env r.spec p.status p.datadog).1
      (genericUpdate s env r.spec p.status p.datadog).2 := by
  have h : p.Sound r.status d := hp ▸ plan_sound _ s env r d
  unfold genericUpdate
  dsimp only
  rcases hu : p.datadog.update (p.status.id.getD 0) r.spec env.update with ⟨d', _ | e⟩
  · exact .updated h.id rfl (h.shrinks.trans (update_shrinks hu)) (update_written hu)
  have hs := h.shrinks.trans (update_shrinks hu)
  have hw := (access_written (update_failed hu)).trans h.written
  cases e with
  | other =>
    exact .failed nofun h.id rfl hs hw (updateFails_of_changed nofun hp hu nofun)
  | notFound =>
    -- the object is gone, so the create that follows is the only one
    unfold genericCreate createObject
    dsimp only
    rcases hc : d'.create r.spec env.createFails with ⟨d'', _ | id⟩
    · obtain ⟨hf, hs', hw'⟩ := create_none hc
      exact .failed nofun h.id rfl (hs.trans hs') (hw'.trans hw)
        (updateFails_of_changed nofun hp hu fun _ _ => hf)
    · refine .of_create hs ?_ nofun ⟨rfl, rfl, rfl⟩ hc rfl rfl
      intro id' hid'
      have hmissing := access_notFound (update_failed hu)
      rwa [h.id, hid'] at hmissing

end Acts

/-! ## Reconciles -/

section Reconciles

variable (s : Settings) (env : Env) (r : Resource) (d : Datadog)

/-- What a reconcile leaves to write: the status may be changed in memory only. -/
structure Concludes (kind : Kind) (p : Pending) : Prop where
  status : p.resource.status = r.status
  ends : Ends kind s env r d p.status p.datadog

variable {s env r d}

theorem Plan.Sound.concludes {p : Plan} {r' : Resource} (h : p.Sound r.status d)
    (hr : r'.status = r.status) : Concludes s env r d kind ⟨r', p.status, p.datadog⟩ :=
  ⟨hr, h.kept⟩

theorem withRequiredTags_concludes {p : Plan}
    {act : Status → Datadog → Status × Datadog} (h : p.Sound r.status d)
    (hact : Ends kind s env r d (act p.status p.datadog).1 (act p.status p.datadog).2) :
    Concludes s env r d kind (withRequiredTags env r p act) := by
  unfold withRequiredTags
  rcases hc : checkRequiredTags env r with _ | r' | _
  · exact ⟨rfl, hact⟩
  · refine h.concludes ?_
    unfold checkRequiredTags at hc
    split_ifs at hc
    cases hc
    rfl
  · exact h.concludes rfl

theorem Plan.run_concludes {p : Plan}
    {create update : Status → Datadog → Status × Datadog} (h : p.Sound r.status d)
    (hcreate : p.decision = .create →
      Ends kind s env r d (create p.status p.datadog).1 (create p.status p.datadog).2)
    (hupdate : p.decision = .update →
      Ends kind s env r d (update p.status p.datadog).1 (update p.status p.datadog).2) :
    Concludes s env r d kind (p.run r create update) := by
  unfold Plan.run
  split
  · exact h.concludes rfl
  · rename_i hd
    exact ⟨rfl, hcreate hd⟩
  · rename_i hd
    exact ⟨rfl, hupdate hd⟩

variable (s env r d)

theorem monitorReconcile_concludes : Concludes s env r d .monitor (monitorReconcile s env r d) := by
  have h := plan_sound .monitor s env r d
  unfold monitorReconcile
  dsimp only
  by_cases hvalid : s.isValid r.spec = true
  · rw [hvalid, if_neg (by simp)]
    split
    · exact h.concludes rfl
    · rename_i hd
      split_ifs
      · exact withRequiredTags_concludes h (monitorCreate_ends h hd)
      · exact h.concludes rfl
    · exact withRequiredTags_concludes h (monitorUpdate_ends h)
  · rw [if_pos (by simpa using hvalid)]
    exact ⟨rfl, .kept rfl rfl (.refl d) rfl⟩

theorem sloReconcile_concludes : Concludes s env r d .slo (sloReconcile s env r d) := by
  have h := plan_sound .slo s env r d
  unfold sloReconcile
  dsimp only
  split_ifs
  · exact ⟨rfl, .kept rfl rfl (.refl d) rfl⟩
  · split
    · exact h.concludes rfl
    · rename_i hd
      exact withRequiredTags_concludes h (createObject_ends h hd fun _ => hd)
    · exact withRequiredTags_concludes h (updateObject_ends (.inl rfl) rfl)

theorem dashboardReconcile_concludes :
    Concludes s env r d .dashboard (dashboardReconcile s env r d) := by
  have h := plan_sound .dashboard s env r d
  unfold dashboardReconcile
  split_ifs
  · exact ⟨rfl, .kept rfl rfl (.refl d) rfl⟩
  · exact Plan.run_concludes h (fun hd => createObject_ends h hd fun _ => hd)
      fun _ => updateObject_ends (.inr rfl) rfl

theorem genericReconcile_concludes :
    Concludes s env r d .genericResource (genericReconcile s env r d) := by
  have h := plan_sound .genericResource s env r d
  exact Plan.run_concludes h (fun hd => createObject_ends h hd nofun) fun _ => genericUpdate_ends rfl

theorem internalReconcile_concludes (kind : Kind) :
    Concludes s env r d kind (internalReconcile kind s env r d) := by
  cases kind with
  | monitor => exact monitorReconcile_concludes s env r d
  | slo => exact sloReconcile_concludes s env r d
  | dashboard => exact dashboardReconcile_concludes s env r d
  | genericResource => exact genericReconcile_concludes s env r d

end Reconciles

end DatadogOperator.Remote
