import DatadogOperator.Remote.Retrying

/-!
# The state of a monitor

The state and the triggered groups in the status are those of the last monitor that the
state refresh has read. A refresh that fails breaks this: the status takes the state of a
monitor with no fields, and is reported as synced.
-/

namespace DatadogOperator.Remote

structure Shows (m : Option Monitor) (status : Status) : Prop where
  state : status.state = (m.map Monitor.overallState).getD ""
  triggered : status.triggeredState = (m.map Monitor.triggeredStates).getD []

structure KeepsState (old status : Status) : Prop where
  state : status.state = old.state
  triggered : status.triggeredState = old.triggeredState
  updated : status.stateLastUpdateTime = old.stateLastUpdateTime

theorem KeepsState.refl (status : Status) : KeepsState status status := ⟨rfl, rfl, rfl⟩

theorem Shows.keeps (h : Shows m old)
    (hk : KeepsState old status) : Shows m status :=
  ⟨hk.state.trans h.state, hk.triggered.trans h.triggered⟩

def Call.reads : Call → Bool
  | .get | .refresh => true
  | .validate | .create | .update | .delete => false

/-! ## One step -/

def GetFails (env : Env) (status : Status) (d : Datadog) : Prop :=
  (d.access .get (status.id.getD 0) env.get).2 ≠ none

/-- After the step the status shows the last monitor that was read for its state, and it is
as before, and not reported as synced, if the monitor could not be read. -/
def StateIsLatest (s : Settings) (w : World) (e : Event) : Prop :=
  (∀ r, (w.step .monitor s e).resource = some r →
    Shows (w.step .monitor s e).datadog.refreshed r.status) ∧
  ∀ env, e = .reconcile env → ∀ r r', w.resource = some r →
    (w.step .monitor s e).resource = some r' →
    (∃ call ∈ (w.step .monitor s e).datadog.log, call.reads = true) →
    GetFails env r.status w.datadog →
    KeepsState r.status r'.status ∧ r'.status.syncStatus ≠ .ok

def refreshDue (s : Settings) (env : Env) (r : Resource) : Bool :=
  s.isValid r.spec && r.status.id.isSome && s.generateMD5ForSpec r.spec = r.status.currentHash &&
    !due r.status.lastForceSyncTime s.forceSyncPeriod env.now &&
    due r.status.stateLastUpdateTime s.requeuePeriod env.now

/-- The state of a monitor that is due can be read. -/
def RefreshesSucceed (s : Settings) (w : World) : Event → Prop
  | .reconcile env =>
    ∀ r, w.resource = some r → refreshDue s env r = true → ¬ GetFails env r.status w.datadog
  | .edit _ => True
  | .vanish _ => True

instance (env : Env) (status : Status) (d : Datadog) : Decidable (GetFails env status d) :=
  inferInstanceAs (Decidable (_ ≠ _))

instance (s : Settings) (w : World) : (e : Event) → Decidable (RefreshesSucceed s w e)
  | .reconcile _ => inferInstanceAs (Decidable (∀ r, w.resource = some r → _))
  | .edit _ | .vanish _ => isTrue trivial

/-! ## Calls -/

section Calls

variable {d d' : Datadog} {call : Call} {id : Nat} {o : Outcome} {e : Option CallError}

theorem access_refreshed (h : d.access call id o = (d', e)) : d'.refreshed = d.refreshed := by
  cases h
  cases o.gone <;> rfl

theorem update_refreshed (h : d.update id spec o = (d', e)) :
    d'.refreshed = d.refreshed := by
  unfold Datadog.update at h
  rcases ha : d.access .update id o with ⟨d₁, e₁⟩
  have hr := access_refreshed ha
  rw [ha] at h
  cases h
  cases e with
  | none => exact hr
  | some _ => exact hr

theorem create_refreshed (h : d.create spec fails = (d', made)) : d'.refreshed = d.refreshed := by
  unfold Datadog.create at h
  cases fails <;> cases h <;> rfl

theorem access_result (h : d.access call id o = (d', e)) : (d.access .get id o).2 = e := by
  cases h
  unfold Datadog.access
  cases o.gone <;> rfl

def Read (d : Datadog) : Prop := ∃ call ∈ d.log, call.reads = true

theorem Read.of_append (h : Read d') (hlog : d'.log = d.log ++ calls)
    (hcalls : ∀ call ∈ calls, call.reads = false) : Read d := by
  obtain ⟨call, hmem, hreads⟩ := h
  rw [hlog] at hmem
  rcases List.mem_append.mp hmem with hmem | hmem
  · exact ⟨call, hmem, hreads⟩
  · rw [hcalls call hmem] at hreads
    cases hreads

theorem called_read (h : Read (d.called call)) (hcall : call.reads = false) : Read d :=
  h.of_append rfl (by simp [hcall])

theorem create_read (hc : d.create spec fails = (d', made)) (h : Read d') : Read d := by
  have hlog : (d.called .create).log = d.log ++ [.create] := rfl
  unfold Datadog.create at hc
  cases fails <;> cases hc <;> exact h.of_append hlog (by decide)

theorem update_read (hu : d.update id spec o = (d', e)) (h : Read d') : Read d := by
  have hlog := access_log d .update id o
  unfold Datadog.update at hu
  rcases ha : d.access .update id o with ⟨d₁, e₁⟩
  rw [ha] at hu hlog
  cases hu
  cases e with
  | none => exact h.of_append hlog (by decide)
  | some _ => exact h.of_append hlog (by decide)

end Calls

/-! ## Reconciles -/

/-- What becomes of the state: it is kept, or is that of the monitor that was read. -/
inductive StateEnds (env : Env) (old : Status) (d : Datadog) : Status → Datadog → Prop
  | kept {status d'} : KeepsState old status → d'.refreshed = d.refreshed →
      (Read d' → GetFails env old d → status.syncStatus ≠ .ok) → StateEnds env old d status d'
  | refreshed {status d'} : Shows (some env.monitor) status →
      d'.refreshed = some env.monitor → ¬ GetFails env old d → StateEnds env old d status d'

/-- A plan after a failed read reports it, and does not update. -/
inductive Plan.StateEnds (env : Env) (old : Status) (d : Datadog) (p : Plan) : Prop
  | kept : KeepsState old p.status → p.datadog.refreshed = d.refreshed →
      (Read p.datadog → GetFails env old d →
        p.decision ≠ .update ∧ p.status.syncStatus = .getError) → p.StateEnds env old d
  | refreshed : Shows (some env.monitor) p.status → p.datadog.refreshed = some env.monitor →
      ¬ GetFails env old d → p.decision = .nothing → p.StateEnds env old d

section Plans

variable {s : Settings} {env : Env} {r : Resource} {d : Datadog} {id : Nat}

theorem monitorSync_stateEnds (hid : r.status.id = some id) :
    (monitorSync env id r.status d).StateEnds env r.status d := by
  unfold monitorSync
  rcases ha : d.access .get id env.get with ⟨d', e⟩
  have hr := access_refreshed ha
  have hresult : GetFails env r.status d ↔ e ≠ none := by
    unfold GetFails
    rw [hid, Option.getD_some, access_result ha]
  rcases e with _ | _ | _
  · exact .kept (.refl _) hr fun _ hfails => absurd rfl (hresult.mp hfails)
  · exact .kept ⟨rfl, rfl, rfl⟩ hr fun _ _ => ⟨nofun, rfl⟩
  · exact .kept ⟨rfl, rfl, rfl⟩ hr fun _ _ => ⟨nofun, rfl⟩

theorem monitorRefresh_stateEnds (hid : r.status.id = some id)
    (hread : ¬ GetFails env r.status d) :
    (monitorRefresh env id r.status d).StateEnds env r.status d := by
  unfold monitorRefresh
  rcases ha : d.access .refresh id env.get with ⟨d', e⟩
  have hresult : GetFails env r.status d ↔ e ≠ none := by
    unfold GetFails
    rw [hid, Option.getD_some, access_result ha]
  rw [hresult, not_not] at hread
  subst hread
  exact .refreshed ⟨rfl, rfl⟩ rfl (fun h => hresult.mp h rfl) rfl

theorem monitorPlan_stateEnds (hlog : d.log = []) (hvalid : s.isValid r.spec = true)
    (hread : refreshDue s env r = true → ¬ GetFails env r.status d) :
    (monitorPlan s env r d).StateEnds env r.status d := by
  have hquiet : ∀ decision, Plan.StateEnds env r.status d ⟨decision, r.status, d⟩ := by
    intro decision
    refine .kept (.refl _) rfl ?_
    rintro ⟨call, hmem, -⟩
    rw [hlog] at hmem
    cases hmem
  unfold monitorPlan
  rcases hid : r.status.id with _ | id
  · exact hquiet .create
  · dsimp only
    split_ifs with hhash hforce hstate
    · exact monitorSync_stateEnds hid
    · exact monitorSync_stateEnds hid
    · refine monitorRefresh_stateEnds hid (hread ?_)
      rw [not_not] at hhash
      simp [refreshDue, hvalid, hid, hhash, hforce, hstate]
    · exact hquiet .nothing

theorem Plan.StateEnds.done {p : Plan} (h : p.StateEnds env r.status d) :
    Remote.StateEnds env r.status d p.status p.datadog := by
  cases h with
  | kept hk hr hfail =>
    refine .kept hk hr ?_
    intro hread hfails
    rw [(hfail hread hfails).2]
    nofun
  | refreshed hshows hr hget _ => exact .refreshed hshows hr hget

theorem Plan.StateEnds.create {p : Plan} (h : p.StateEnds env r.status d)
    (hd : p.decision = .create) :
    Remote.StateEnds env r.status d (monitorCreate s env r.spec p.status p.datadog).1
      (monitorCreate s env r.spec p.status p.datadog).2 := by
  cases h with
  | refreshed _ _ _ hnothing =>
    rw [hd] at hnothing
    cases hnothing
  | kept hk hr hfail =>
    have hsync : Read p.datadog → GetFails env r.status d → p.status.syncStatus ≠ .ok := by
      intro hread hfails
      rw [(hfail hread hfails).2]
      nofun
    unfold monitorCreate
    dsimp only
    split_ifs
    · exact .kept hk hr fun hread => hsync (called_read hread rfl)
    · rcases hc : (p.datadog.called .validate).create r.spec env.createFails with ⟨d', _ | id⟩
      · exact .kept hk ((create_refreshed hc).trans hr)
          fun hread => hsync (called_read (create_read hc hread) rfl)
      · exact .kept ⟨hk.state, hk.triggered, hk.updated⟩ ((create_refreshed hc).trans hr)
          fun _ _ => nofun

theorem Plan.StateEnds.update {p : Plan} (h : p.StateEnds env r.status d)
    (hd : p.decision = .update) :
    Remote.StateEnds env r.status d (monitorUpdate s env r.spec p.status p.datadog).1
      (monitorUpdate s env r.spec p.status p.datadog).2 := by
  cases h with
  | refreshed _ _ _ hnothing =>
    rw [hd] at hnothing
    cases hnothing
  | kept hk hr hfail =>
    -- an update is planned only after the monitor was read
    have hsync : ∀ {status : Status}, Read p.datadog → GetFails env r.status d →
        status.syncStatus ≠ .ok := by
      intro status hread hfails
      exact absurd hd (hfail hread hfails).1
    unfold monitorUpdate
    dsimp only
    split_ifs
    · exact .kept ⟨hk.state, hk.triggered, hk.updated⟩ hr
        fun hread => hsync (called_read hread rfl)
    · rcases hu : (p.datadog.called .validate).update (p.status.id.getD 0) r.spec env.update with
        ⟨d', _ | _ | _⟩
      all_goals
        exact .kept ⟨hk.state, hk.triggered, hk.updated⟩ ((update_refreshed hu).trans hr)
          fun hread => hsync (called_read (update_read hu hread) rfl)

theorem withRequiredTags_stateEnds {act : Status → Datadog → Status × Datadog}
    (h : p.StateEnds env r.status d)
    (hact : Remote.StateEnds env r.status d (act p.status p.datadog).1
      (act p.status p.datadog).2) :
    Remote.StateEnds env r.status d (withRequiredTags env r p act).status
      (withRequiredTags env r p act).datadog := by
  unfold withRequiredTags
  rcases checkRequiredTags env r with _ | r' | _
  · exact hact
  · exact h.done
  · exact h.done

theorem monitorReconcile_stateEnds (hlog : d.log = [])
    (hread : refreshDue s env r = true → ¬ GetFails env r.status d) :
    Remote.StateEnds env r.status d (monitorReconcile s env r d).status
      (monitorReconcile s env r d).datadog := by
  unfold monitorReconcile
  dsimp only
  by_cases hvalid : s.isValid r.spec = true
  · have h := monitorPlan_stateEnds hlog hvalid hread
    rw [hvalid, if_neg (by simp)]
    split
    · exact h.done
    · rename_i hd
      split_ifs
      · exact withRequiredTags_stateEnds h (h.create hd)
      · exact h.done
    · rename_i hd
      exact withRequiredTags_stateEnds h (h.update hd)
  · rw [if_pos (by simpa using hvalid)]
    refine .kept (.refl _) rfl ?_
    rintro ⟨call, hmem, -⟩
    rw [hlog] at hmem
    cases hmem

end Plans

/-! ## The finalizer -/

section Finalizer

variable {env : Env} {r : Resource} {d : Datadog}

theorem deleteResource_monitor_cases (env : Env) (status : Status) (d : Datadog) :
    (deleteResource .monitor env status d).1 = d ∨
      (deleteResource .monitor env status d).1 = (d.delete (status.id.getD 0) env.delete).1 := by
  unfold deleteResource
  dsimp only
  split_ifs
  · exact .inr rfl
  · exact .inl rfl

theorem delete_refreshed (d : Datadog) (id : Nat) (o : Outcome) :
    (d.delete id o).1.refreshed = d.refreshed := by
  unfold Datadog.delete
  rcases ha : d.access .delete id o with ⟨d', e⟩
  have hr := access_refreshed ha
  cases e with
  | none => exact hr
  | some _ => exact hr

theorem delete_read {id : Nat} (h : Read (d.delete id o).1) : Read d := by
  have hlog := access_log d .delete id o
  unfold Datadog.delete at h
  rcases ha : d.access .delete id o with ⟨d', e⟩
  rw [ha] at h hlog
  cases e with
  | none => exact Read.of_append h hlog (by decide)
  | some _ => exact Read.of_append h hlog (by decide)

theorem deleteResource_stateEnds (env : Env) (status : Status) (d : Datadog) :
    (deleteResource .monitor env status d).1.refreshed = d.refreshed ∧
      (Read (deleteResource .monitor env status d).1 → Read d) := by
  rcases deleteResource_monitor_cases env status d with h | h
  · rw [h]
    exact ⟨rfl, id⟩
  · rw [h]
    exact ⟨delete_refreshed d _ _, delete_read⟩

theorem handleFinalizer_stateEnds
    (h : handleFinalizer .monitor env r d = some out) :
    out.2.refreshed = d.refreshed ∧ (Read out.2 → Read d) := by
  have hdel := deleteResource_stateEnds env r.status d
  unfold handleFinalizer at h
  rcases hd : deleteResource .monitor env r.status d with ⟨d', failed⟩
  rw [hd] at h hdel
  dsimp only at h
  split_ifs at h <;> cases h
  · exact ⟨rfl, id⟩
  · exact ⟨rfl, id⟩
  · exact hdel
  · exact hdel
  · exact hdel
  · exact ⟨rfl, id⟩

end Finalizer

/-! ## Runs -/

def World.Shows (w : World) : Prop :=
  ∀ r, w.resource = some r → Remote.Shows w.datadog.refreshed r.status

theorem not_read_of_log (h : d.log = []) : ¬ Read d := by
  rintro ⟨call, hmem, -⟩
  rw [h] at hmem
  cases hmem

theorem reconcile_stateEnds (hlog : d.log = []) (hwritten : statusWritten .monitor env = true)
    (hread : refreshDue s env r = true → ¬ GetFails env r.status d)
    (hr : (reconcile .monitor s env r d).1 = some r') :
    StateEnds env r.status d r'.status (reconcile .monitor s env r d).2 := by
  unfold reconcile at hr ⊢
  rw [if_neg (by simp)] at hr ⊢
  rcases hf : handleFinalizer .monitor env r d with _ | out
  · rw [hf] at hr
    cases hr
    rw [updateStatusIfNeeded_status hwritten]
    exact monitorReconcile_stateEnds hlog hread
  · rw [hf] at hr
    have hst := (handleFinalizer_shrinks hf).2 r' hr
    obtain ⟨hrefreshed, hcalls⟩ := handleFinalizer_stateEnds hf
    refine .kept (hst ▸ .refl _) hrefreshed ?_
    intro hread'
    exact absurd (hcalls hread') (not_read_of_log hlog)

section Step

variable {s : Settings} {w : World} {e : Event}

theorem getFails_log :
    GetFails env status { d with log := [] } ↔ GetFails env status d := by
  unfold GetFails Datadog.access
  cases env.get.gone <;> rfl

theorem step_stateEnds (hwritten : StatusWritten .monitor (.reconcile env))
    (hread : RefreshesSucceed s w (.reconcile env)) (hr : w.resource = some r)
    (hr' : (w.step .monitor s (.reconcile env)).resource = some r') :
    StateEnds env r.status { w.datadog with log := [] } r'.status
      (w.step .monitor s (.reconcile env)).datadog := by
  obtain ⟨r₁, hr₁, hst⟩ := step_reconcile_status hr hr'
  rw [hst, step_reconcile_datadog hr]
  refine reconcile_stateEnds rfl hwritten ?_ hr₁
  rw [getFails_log]
  exact hread r hr

theorem step_shows (hw : w.Shows) (hwritten : StatusWritten .monitor e)
    (hread : RefreshesSucceed s w e) : (w.step .monitor s e).Shows := by
  cases e with
  | reconcile env =>
    intro r' hr'
    rcases hr : w.resource with _ | r
    · rw [step_reconcile_none hr] at hr' ⊢
      exact hw r' hr'
    · cases step_stateEnds hwritten hread hr hr' with
      | kept hk hrefreshed _ =>
        rw [hrefreshed]
        exact (hw r hr).keeps hk
      | refreshed hshows hrefreshed _ =>
        rw [hrefreshed]
        exact hshows
  | edit e =>
    intro r' hr'
    obtain ⟨r, hr, hst⟩ := bind_edited_status hr'
    rw [hst]
    exact hw r hr
  | vanish x =>
    intro r hr
    exact hw r hr

theorem step_stateIsLatest (hw : w.Shows) (hwritten : StatusWritten .monitor e)
    (hread : RefreshesSucceed s w e) : StateIsLatest s w e := by
  refine ⟨step_shows hw hwritten hread, ?_⟩
  rintro env rfl r r' hr hr' hcall hfails
  cases step_stateEnds hwritten hread hr hr' with
  | kept hk _ hsync => exact ⟨hk, hsync hcall (getFails_log.mpr hfails)⟩
  | refreshed _ _ hget => exact absurd (getFails_log.mpr hfails) hget

end Step

/-- In a run in which no state refresh fails, the status of a monitor always shows the state
that was read last. -/
theorem monitor_state_is_latest (s : Settings) (spec : Spec) (es : List Event)
    (hwritten : ∀ e ∈ es, StatusWritten .monitor e)
    (hread : Runs.Along (World.step .monitor s) (RefreshesSucceed s) (World.initial spec) es) :
    Runs.Along (World.step .monitor s) (StateIsLatest s) (World.initial spec) es := by
  refine Runs.Along.of_invariant (I := World.Shows)
    (C := fun w e => StatusWritten .monitor e ∧ RefreshesSucceed s w e) ?_ ?_ ?_
    ((Runs.Along.of_events hwritten).and hread)
  · intro w e hw hc
    exact step_shows hw hc.1 hc.2
  · intro w e hw hc
    exact step_stateIsLatest hw hc.1 hc.2
  · rintro r ⟨⟩
    exact ⟨rfl, rfl⟩

/-! ## An alert and a failed refresh -/

def alerting : Monitor :=
  { overallState := "Alert"
    groups := [⟨"host:b", "Alert", 40, 0⟩, ⟨"host:c", "OK", 10, 0⟩, ⟨"host:a", "No Data", 0, 50⟩] }

def alertRun : List Event :=
  [.reconcile { now := 0 }, .reconcile { now := 1 }, .reconcile { now := 2 },
    .reconcile { now := 3, monitor := alerting }]

theorem alert_is_shown :
    Runs.Along (World.step .monitor exampleSettings) (StateIsLatest exampleSettings)
      (World.initial exampleSpec) alertRun := by
  refine monitor_state_is_latest exampleSettings exampleSpec alertRun ?_ (by decide +kernel)
  intro e he
  simp only [alertRun, List.mem_cons, List.not_mem_nil, or_false] at he
  rcases he with rfl | rfl | rfl | rfl <;> trivial

def alertWorld : World :=
  Runs.run (World.step .monitor exampleSettings) (World.initial exampleSpec) alertRun

def failedRefresh : Event := .reconcile { now := 63, get := { fails := true } }

def World.shown (w : World) : Option (String × List String × SyncStatus) :=
  w.resource.map fun r =>
    (r.status.state, r.status.triggeredState.map (·.monitorGroup), r.status.syncStatus)

theorem failed_refresh_clears_alert :
    StatusWritten .monitor failedRefresh ∧
    alertWorld.shown = some ("Alert", ["host:a", "host:b"], .ok) ∧
    (alertWorld.step .monitor exampleSettings failedRefresh).shown = some ("", [], .ok) ∧
    ¬ StateIsLatest exampleSettings alertWorld failedRefresh := by
  refine ⟨rfl, by decide +kernel, by decide +kernel, ?_⟩
  have hshown : (alertWorld.step .monitor exampleSettings failedRefresh).shown = some ("", [], .ok) := by
    decide +kernel
  have hrefreshed : (alertWorld.step .monitor exampleSettings failedRefresh).datadog.refreshed =
      some alerting := by
    decide +kernel
  rintro ⟨hlatest, -⟩
  obtain ⟨r, hr, hstatus⟩ := Option.map_eq_some_iff.mp hshown
  have hstate := (hlatest r hr).state
  rw [hrefreshed, (Prod.mk.inj hstatus).1] at hstate
  exact absurd hstate (by decide)

end DatadogOperator.Remote
