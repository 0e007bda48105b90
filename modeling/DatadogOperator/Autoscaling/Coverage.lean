import DatadogOperator.Autoscaling.DryRun

/-!
# Pods and the budgets that select them

Kubernetes does not evict a pod that two budgets select. A temporary budget is
made for a controller whose last pod is free of the user's budgets, but it selects
by the controller's labels: every pod that has them gets it, also a pod that the
user's budget selects or a pod of another controller.
-/

namespace DatadogOperator.Autoscaling

open Calls

/-! ## The cluster behind the answers -/

/-- The names of budgets are unique in a namespace. -/
structure BudgetCluster where
  pods : List Pod := []
  deployments : Cache := ∅
  replicaSets : Cache := ∅
  statefulSets : Cache := ∅
  pdbs : List PodDisruptionBudget := []
  names_nodup : (pdbs.map fun b => (b.namespace_, b.name)).Nodup

def createdBy : Call Op Op.Answer → List PodDisruptionBudget
  | ⟨.createPDB pdb, .ok _⟩ => [pdb]
  | _ => []

def created (log : Log) : List PodDisruptionBudget := log.flatMap createdBy

variable (c : BudgetCluster)

def BudgetCluster.current (log : Log) : List PodDisruptionBudget := created log ++ c.pdbs

def Tells (answer : Except ApiError Controller) (truth : Option Controller) : Prop :=
  match answer with
  | .ok obj => truth = some obj
  | .error e => e.reason = .notFound → truth = none

/-- Every answer is that of the cluster, or an error that is not `NotFound`. -/
structure Backed (sv : Services) : Prop where
  pods : ∀ log pods, sv log .listPods = .ok pods → pods = c.pods
  replicaSet : ∀ log ns name,
    Tells (sv log (.getReplicaSet ns name)) (c.replicaSets.lookup (ns, name))
  deployment : ∀ log ns name,
    Tells (sv log (.getDeployment ns name)) (c.deployments.lookup (ns, name))
  statefulSet : ∀ log ns name,
    Tells (sv log (.getStatefulSet ns name)) (c.statefulSets.lookup (ns, name))
  existing : ∀ log ns pdbs, sv log (.listNamespacePDBs ns) = .ok pdbs →
    pdbs = (c.current log).filter fun b => b.namespace_ = ns
  absent : ∀ log ns name e, sv log (.getPDB ns name) = .error e → e.reason = .notFound →
    (ns, name) ∉ (c.current log).map fun b => (b.namespace_, b.name)

def topLevel (pod : Pod) : Option ControllerInfo :=
  match pod.controller with
  | none => none
  | some owner =>
    if owner.kind = "ReplicaSet" then
      (c.replicaSets.lookup (pod.namespace_, owner.name)).map fun rs =>
        let own :=
          ControllerInfo.mk ⟨pod.namespace_, .replicaSet, owner.name⟩ rs.selector pod.labels
        match rs.controller with
        | none => own
        | some rsOwner =>
          if rsOwner.kind ≠ "Deployment" then own
          else
            match c.deployments.lookup (pod.namespace_, rsOwner.name) with
            | some dep => ⟨⟨pod.namespace_, .deployment, rsOwner.name⟩, dep.selector, pod.labels⟩
            | none => own
    else if owner.kind = "StatefulSet" then
      (c.statefulSets.lookup (pod.namespace_, owner.name)).map fun sts =>
        ⟨⟨pod.namespace_, .statefulSet, owner.name⟩, sts.selector, pod.labels⟩
    else none

/-- The controllers of the pods that are evicted, pod by pod. -/
def evictedControllers (nodeSet : List String) : List ControllerInfo :=
  (c.pods.filter (isEvicted nodeSet)).filterMap (topLevel c)

/-! ## Overlap -/

def Covers (b : PodDisruptionBudget) (pod : Pod) : Prop :=
  b.namespace_ = pod.namespace_ ∧ selects b.selector pod.labels = true

/-- No pod that is evicted has a budget of the user and one of this run, or two
temporary ones. -/
structure NoOverlap (nodeSet : List String) (log : Log) : Prop where
  user : ∀ pod ∈ c.pods, isEvicted nodeSet pod = true → ∀ t ∈ created log, Covers t pod →
    ∀ b ∈ c.pdbs, isTemporaryPDB b = false → ¬Covers b pod
  temporary : ∀ pod ∈ c.pods, isEvicted nodeSet pod = true → ∀ b ∈ c.current log,
    ∀ b' ∈ c.current log, isTemporaryPDB b = true → isTemporaryPDB b' = true →
      Covers b pod → Covers b' pod → b = b'

variable (hash : String → String)

/-- A controller without protection: the last of its evicted pods has no budget of
the user, and there is no budget with the name of the temporary one. -/
structure Unprotected (nodeSet : List String) (info : ControllerInfo) : Prop where
  last : ∃ before after, evictedControllers c nodeSet = before ++ info :: after ∧
    ∀ later ∈ after, later.key ≠ info.key
  user : hasUserPDB (c.pdbs.filter fun b => b.namespace_ = info.key.namespace_)
    info.podLabels = false
  name : (info.key.namespace_, info.pdbName hash) ∉ c.pdbs.map fun b => (b.namespace_, b.name)

/-- The selectors of unprotected controllers keep clear of the other budgets. -/
structure Separate (nodeSet : List String) : Prop where
  user : ∀ pod ∈ c.pods, isEvicted nodeSet pod = true → ∀ info, Unprotected c hash nodeSet info →
    Covers (tempPDB hash info) pod → ∀ b ∈ c.pdbs, ¬Covers b pod
  controllers : ∀ pod ∈ c.pods, isEvicted nodeSet pod = true →
    ∀ info info', Unprotected c hash nodeSet info → Unprotected c hash nodeSet info' →
      Covers (tempPDB hash info) pod → Covers (tempPDB hash info') pod →
        info.pdbName hash = info'.pdbName hash
  leftovers : ∀ pod ∈ c.pods, isEvicted nodeSet pod = true → ∀ b ∈ c.pdbs, ∀ b' ∈ c.pdbs,
    isTemporaryPDB b = true → isTemporaryPDB b' = true → Covers b pod → Covers b' pod → b = b'

/-! ## Discovery -/

section
variable {c} {sv : Services}

structure CachesTrue (c : BudgetCluster) (caches : Caches) : Prop where
  deployments : ∀ key obj, caches.deployments.lookup key = some obj →
    c.deployments.lookup key = some obj
  replicaSets : ∀ key obj, caches.replicaSets.lookup key = some obj →
    c.replicaSets.lookup key = some obj
  statefulSets : ∀ key obj, caches.statefulSets.lookup key = some obj →
    c.statefulSets.lookup key = some obj

def Sure {α : Type} (r : Except ApiError α) : Prop := ∀ e, r = .error e → e.reason = .notFound

theorem Sure.ok {a : α} : Sure (.ok a) := by
  rintro _ ⟨⟩

structure Faultless (sv : Services) : Prop where
  pods : ∀ log, ∃ pods, sv log .listPods = .ok pods
  replicaSet : ∀ log ns name, Sure (sv log (.getReplicaSet ns name))
  deployment : ∀ log ns name, Sure (sv log (.getDeployment ns name))
  statefulSet : ∀ log ns name, Sure (sv log (.getStatefulSet ns name))

theorem getCached_returns {cache truth : Cache} {get : Program (Except ApiError Controller)}
    (hcache : ∀ key obj, cache.lookup key = some obj → truth.lookup key = some obj)
    (hget : Returns sv get fun answer =>
      Tells answer (truth.lookup (namespace_, name)) ∧ (Faultless sv → Sure answer)) :
    Returns sv (getCached cache namespace_ name get) fun r =>
      (Tells r.1 (truth.lookup (namespace_, name)) ∧ (Faultless sv → Sure r.1)) ∧
        ∀ key obj, r.2.lookup key = some obj → truth.lookup key = some obj := by
  unfold getCached
  cases hlookup : cache.lookup (namespace_, name) with
  | some obj => exact .pure ⟨⟨hcache _ _ hlookup, fun _ => .ok⟩, hcache⟩
  | none =>
    refine hget.bind fun answer htells => ?_
    cases answer with
    | error e => exact .pure ⟨htells, hcache⟩
    | ok obj =>
      refine .pure ⟨htells, fun key obj' hkey => ?_⟩
      by_cases h : key = (namespace_, name)
      · subst h
        rw [Finmap.lookup_insert] at hkey
        exact Option.some.inj hkey ▸ htells.1
      · rw [Finmap.lookup_insert_of_ne _ h] at hkey
        exact hcache key obj' hkey

/-- The answer for a pod, as far as there is one. -/
def Resolves (c : BudgetCluster) (sv : Services) (pod : Pod)
    (r : Except ApiError (Option ControllerInfo) × Caches) : Prop :=
  CachesTrue c r.2 ∧ (Faultless sv → Sure r.1) ∧
    match r.1 with
    | .ok info => info.map (fun i => { i with podLabels := pod.labels }) = topLevel c pod
    | .error e => e.reason = .notFound → topLevel c pod = none

theorem resolveReplicaSet_returns (hb : Backed c sv) (hcaches : CachesTrue c caches)
    (hcontroller : pod.controller = some owner) (hkind : owner.kind = "ReplicaSet")
    (hrs : c.replicaSets.lookup (pod.namespace_, owner.name) = some rs) :
    Returns sv (resolveReplicaSet pod.namespace_ owner.name rs caches) (Resolves c sv pod) := by
  unfold resolveReplicaSet
  dsimp only
  split
  · next hnone =>
    refine .pure ⟨hcaches, fun _ => .ok, ?_⟩
    simp [topLevel, hcontroller, hkind, hrs, hnone]
  · next rsOwner howner =>
    split_ifs with hdep
    · refine .pure ⟨hcaches, fun _ => .ok, ?_⟩
      simp [topLevel, hcontroller, hkind, hrs, howner, hdep]
    · have hdep : rsOwner.kind = "Deployment" := by simpa using hdep
      refine (getCached_returns hcaches.deployments
        (.call fun log => ⟨hb.deployment log _ _, fun h => h.deployment log _ _⟩)).bind ?_
      rintro ⟨answer, deployments⟩ ⟨⟨htells, hsure⟩, htrue⟩
      have hcaches : CachesTrue c { caches with deployments } :=
        ⟨htrue, hcaches.replicaSets, hcaches.statefulSets⟩
      cases answer with
      | ok dep =>
        refine .pure ⟨hcaches, fun _ => .ok, ?_⟩
        simp only [Tells] at htells
        simp [topLevel, hcontroller, hkind, hrs, howner, hdep, htells]
      | error e =>
        dsimp only
        split_ifs with he
        · refine .pure ⟨hcaches, fun _ => .ok, ?_⟩
          simp [topLevel, hcontroller, hkind, hrs, howner, hdep, htells he]
        · exact .pure ⟨hcaches, fun h => absurd (hsure h e rfl) he, fun h => absurd h he⟩

theorem resolveTopLevelController_returns (hb : Backed c sv) (pod : Pod)
    (hcaches : CachesTrue c caches) :
    Returns sv (resolveTopLevelController pod caches) (Resolves c sv pod) := by
  unfold resolveTopLevelController
  split
  · next hnone => exact .pure ⟨hcaches, fun _ => .ok, by simp [topLevel, hnone]⟩
  · next owner hcontroller =>
    split_ifs with hrs hsts
    · refine (getCached_returns hcaches.replicaSets
        (.call fun log => ⟨hb.replicaSet log _ _, fun h => h.replicaSet log _ _⟩)).bind ?_
      rintro ⟨answer, replicaSets⟩ ⟨⟨htells, hsure⟩, htrue⟩
      have hcaches : CachesTrue c { caches with replicaSets } :=
        ⟨hcaches.deployments, htrue, hcaches.statefulSets⟩
      cases answer with
      | error e =>
        refine .pure ⟨hcaches, fun h e he => hsure h e (by cases he; rfl), fun he => ?_⟩
        simp [topLevel, hcontroller, hrs, htells he]
      | ok rs => exact resolveReplicaSet_returns hb hcaches hcontroller hrs htells
    · refine (getCached_returns hcaches.statefulSets
        (.call fun log => ⟨hb.statefulSet log _ _, fun h => h.statefulSet log _ _⟩)).bind ?_
      rintro ⟨answer, statefulSets⟩ ⟨⟨htells, hsure⟩, htrue⟩
      have hcaches : CachesTrue c { caches with statefulSets } :=
        ⟨hcaches.deployments, hcaches.replicaSets, htrue⟩
      cases answer with
      | error e =>
        refine .pure ⟨hcaches, fun h e he => hsure h e (by cases he; rfl), fun he => ?_⟩
        simp [topLevel, hcontroller, hsts, htells he]
      | ok sts =>
        refine .pure ⟨hcaches, fun _ => .ok, ?_⟩
        simp only [Tells] at htells
        simp [topLevel, hcontroller, hsts, htells]
    · exact .pure ⟨hcaches, fun _ => .ok, by simp [topLevel, hcontroller, hrs, hsts]⟩

theorem mem_foldl_record {infos : List ControllerInfo} :
    info ∈ infos.foldl record [] ↔ ∃ before after, infos = before ++ info :: after ∧
      ∀ later ∈ after, later.key ≠ info.key := by
  induction infos using List.reverseRecOn with
  | nil => simp
  | append_singleton infos x ih =>
    rw [List.foldl_concat, record, List.mem_append, List.mem_filter, List.mem_singleton, ih]
    constructor
    · rintro (⟨⟨before, after, rfl, hlater⟩, hkey⟩ | rfl)
      · refine ⟨before, after ++ [x], by simp, ?_⟩
        rintro later hmem
        rcases List.mem_append.mp hmem with hmem | hmem
        · exact hlater later hmem
        · obtain rfl := List.mem_singleton.mp hmem
          exact fun h => by simp [h] at hkey
      · exact ⟨infos, [], rfl, nofun⟩
    · rintro ⟨before, after, heq, hlater⟩
      rcases List.eq_nil_or_concat after with rfl | ⟨init, last, rfl⟩
      · exact .inr (by simpa using (List.append_inj_right' heq rfl).symm)
      · rw [List.concat_eq_append, ← List.cons_append, ← List.append_assoc] at heq
        obtain ⟨rfl, hlast⟩ := List.append_inj' heq rfl
        obtain rfl := List.head_eq_of_cons_eq hlast
        refine .inl ⟨⟨before, init, rfl, fun later hmem => hlater later (by simp [hmem])⟩, ?_⟩
        simpa using (hlater x (by simp)).symm

theorem foldl_record_nodup (infos : List ControllerInfo) :
    ((infos.foldl record []).map ControllerInfo.key).Nodup := by
  induction infos using List.reverseRecOn with
  | nil => simp
  | append_singleton infos x ih =>
    rw [List.foldl_concat, record, List.map_append, List.nodup_append]
    refine ⟨ih.sublist (List.filter_sublist.map _), by simp, ?_⟩
    rintro k hk k' hk' rfl
    obtain ⟨y, hy, rfl⟩ := List.mem_map.mp hk
    have hne := (List.mem_filter.mp hy).2
    simp only [List.map_cons, List.map_nil, List.mem_singleton] at hk'
    simp [hk'] at hne

/-- The controllers of the pods that are done, the newest labels for each. -/
def Discovered (c : BudgetCluster) (sv : Services) (nodeSet : List String) (done : List Pod)
    (r : Except ApiError Discovery) : Prop :=
  (Faultless sv → ∃ d, r = .ok d) ∧ ∀ d, r = .ok d → CachesTrue c d.caches ∧
    d.seen = ((done.filter (isEvicted nodeSet)).filterMap (topLevel c)).foldl record []

theorem Discovered.ok (hcaches : CachesTrue c d.caches)
    (hseen : d.seen = ((done.filter (isEvicted nodeSet)).filterMap (topLevel c)).foldl record []) :
    Discovered c sv nodeSet done (.ok d) :=
  ⟨fun _ => ⟨d, rfl⟩, fun d' hd' => by cases hd'; exact ⟨hcaches, hseen⟩⟩

theorem discoverNext_returns (hb : Backed c sv) (hacc : Discovered c sv nodeSet done acc)
    (pod : Pod) :
    Returns sv (discoverNext nodeSet acc pod) (Discovered c sv nodeSet (done ++ [pod])) := by
  cases acc with
  | error e => exact .pure ⟨hacc.1, nofun⟩
  | ok d =>
    obtain ⟨hcaches, hseen⟩ := hacc.2 d rfl
    unfold discoverNext
    dsimp only
    split_ifs with hevicted
    · refine (resolveTopLevelController_returns hb pod hcaches).bind ?_
      rintro ⟨answer, caches⟩ ⟨hcaches, hsure, hanswer⟩
      rcases answer with e | (_ | info)
      · dsimp only
        split_ifs with he
        · exact .pure (.ok hcaches (by simp [hseen, hevicted, hanswer he]))
        · exact .pure ⟨fun h => absurd (hsure h e rfl) he, nofun⟩
      · have hnone : topLevel c pod = none := hanswer.symm
        exact .pure (.ok hcaches (by simp [hseen, hevicted, hnone]))
      · have hsome : topLevel c pod = some { info with podLabels := pod.labels } := hanswer.symm
        exact .pure (.ok hcaches (by simp [hseen, hevicted, hsome]))
    · exact .pure (.ok hcaches (by simp [hseen, hevicted]))

/-- The order is the one Go's map happens to give. -/
theorem discoverControllers_returns (hb : Backed c sv) (nodeSet : List String) :
    Returns sv (discoverControllers nodeSet) fun r =>
      (Faultless sv → ∃ controllers, r = .ok controllers) ∧ ∀ controllers, r = .ok controllers →
        ∃ log, controllers =
          (sv log (.controllerOrder ((evictedControllers c nodeSet).foldl record []))).val := by
  refine (Returns.call (A := fun r => (Faultless sv → ∃ pods, r = .ok pods) ∧
    ∀ pods, r = .ok pods → pods = c.pods) fun log => ⟨fun h => h.pods log, hb.pods log⟩).bind ?_
  intro answer hpods
  cases answer with
  | error e => exact Returns.pure ⟨fun h => (nomatch hpods.1 h), nofun⟩
  | ok pods =>
    obtain rfl := hpods.2 pods rfl
    refine (Returns.foldlM (I := Discovered c sv nodeSet)
      (.ok ⟨by simp, by simp, by simp⟩ rfl) fun done pod acc hacc =>
      discoverNext_returns hb hacc pod).bind fun r hr => ?_
    cases r with
    | error e => exact Returns.pure ⟨fun h => (nomatch hr.1 h), nofun⟩
    | ok d =>
      refine (Returns.call (A := fun order => ∃ log, order = sv log (.controllerOrder d.seen))
        fun log => ⟨log, rfl⟩).bind fun order ⟨log, horder⟩ => Returns.pure ?_
      refine ⟨fun _ => ⟨_, rfl⟩, fun controllers h => ⟨log, ?_⟩⟩
      cases h
      rw [horder, (hr.2 d rfl).2]
      rfl

/-! ## What is created -/

theorem createdBy_of_not_mutating {call : Call Op Op.Answer} (h : call.op.mutating = false) :
    createdBy call = [] := by
  obtain ⟨op, answer⟩ := call
  cases op <;> first | rfl | cases h

theorem created_cons (call : Call Op Op.Answer) (log : Log) :
    created (call :: log) = createdBy call ++ created log := rfl

@[simp] theorem isTemporaryPDB_tempPDB (hash : String → String) (info : ControllerInfo) :
    isTemporaryPDB (tempPDB hash info) = true := by
  have hne : pdbManagedByLabelKey ≠ pdbTempLabelKey := by decide
  simp [isTemporaryPDB, tempPDB, Annotations.get, Finmap.lookup_insert_of_ne _ hne]

/-- Whatever is created is the temporary budget of an unprotected controller, and
no name is given twice. -/
structure Sound (c : BudgetCluster) (hash : String → String) (nodeSet : List String) (log : Log) :
    Prop where
  made : ∀ t ∈ created log, ∃ info, Unprotected c hash nodeSet info ∧ t = tempPDB hash info
  names_nodup : ((c.current log).map fun b => (b.namespace_, b.name)).Nodup

section
variable {hash : String → String} {nodeSet : List String}

theorem Sound.keep {log : Log} {call : Call Op Op.Answer} (h : Sound c hash nodeSet log)
    (hcall : createdBy call = []) : Sound c hash nodeSet (call :: log) := by
  have hcreated : created (call :: log) = created log := by simp [created_cons, hcall]
  refine ⟨?_, ?_⟩
  · rw [hcreated]
    exact h.made
  · rw [BudgetCluster.current, hcreated]
    exact h.names_nodup

theorem ReadsOnly.sound {α : Type} {p : Program α} (hp : ReadsOnly sv p) :
    Triple sv (Sound c hash nodeSet) p fun _ => Sound c hash nodeSet :=
  Only.keeps hp fun _ _ hcall h => h.keep (createdBy_of_not_mutating hcall)

theorem hasUserPDB_current {P : ControllerInfo → Prop}
    (h : ∀ t ∈ created log, ∃ info, P info ∧ t = tempPDB hash info) (ns : String)
    (podLabels : Profiles.Labels) :
    hasUserPDB ((c.current log).filter fun b => b.namespace_ = ns) podLabels =
      hasUserPDB (c.pdbs.filter fun b => b.namespace_ = ns) podLabels := by
  unfold hasUserPDB BudgetCluster.current
  rw [List.filter_append, List.any_append, Bool.or_eq_right_iff_imp]
  intro hany
  obtain ⟨t, ht, htemp⟩ := List.any_eq_true.mp hany
  obtain ⟨info, -, rfl⟩ := h t (List.mem_filter.mp ht).1
  simp at htemp

theorem createTempPDB_sound (hb : Backed c sv)
    (hlast : info ∈ (evictedControllers c nodeSet).foldl record [])
    (huser : hasUserPDB (c.pdbs.filter fun b => b.namespace_ = info.key.namespace_)
      info.podLabels = false) :
    Triple sv (Sound c hash nodeSet) (createTempPDB hash false info)
      fun _ => Sound c hash nodeSet := by
  unfold createTempPDB
  rw [if_neg (by simp)]
  refine Triple.call.bind fun r => ?_
  cases r with
  | ok b =>
    refine .pure ?_
    rintro log ⟨before, rfl, hsound, -⟩
    exact hsound.keep rfl
  | error e =>
    dsimp only
    split_ifs with he
    · refine .pure ?_
      rintro log ⟨before, rfl, hsound, -⟩
      exact hsound.keep rfl
    · have he : e.reason = .notFound := by simpa using he
      refine Triple.call.bind fun r => ?_
      cases r with
      | error e' =>
        refine .pure ?_
        rintro log ⟨_, rfl, ⟨before, rfl, hsound, -⟩, -⟩
        exact (hsound.keep rfl).keep rfl
      | ok _ =>
        refine .pure ?_
        rintro log ⟨_, rfl, ⟨before, rfl, hsound, hget⟩, -⟩
        have habsent := hb.absent before _ _ e hget he
        refine ⟨?_, ?_⟩
        · rintro t ht
          rcases List.mem_cons.mp ht with rfl | ht
          · refine ⟨info, ⟨mem_foldl_record.mp hlast, huser, fun hname => habsent ?_⟩, rfl⟩
            rw [BudgetCluster.current, List.map_append]
            exact List.mem_append_right _ hname
          · exact hsound.made t ht
        · exact List.nodup_cons.mpr ⟨habsent, hsound.names_nodup⟩

theorem ensureNamespace_sound (hb : Backed c sv) {controllers : List ControllerInfo}
    (hseen : ∀ info ∈ controllers, info ∈ (evictedControllers c nodeSet).foldl record [])
    (errs : List ApiError) (ns : String) :
    Triple sv (Sound c hash nodeSet) (ensureNamespace hash false controllers errs ns)
      fun _ => Sound c hash nodeSet := by
  refine Triple.call.bind fun r => ?_
  cases r with
  | error e =>
    refine Triple.pure ?_
    rintro log ⟨before, rfl, hsound, -⟩
    exact hsound.keep rfl
  | ok existing =>
    dsimp only
    intro log hlog
    obtain ⟨before, rfl, hsound, hexisting⟩ := hlog
    refine Triple.foldlM (I := fun _ _ => Sound c hash nodeSet) ?_ _ (hsound.keep rfl)
    intro done info rest heq errs
    have hmem : info ∈ controllers.filter fun x => x.key.namespace_ = ns := by simp [← heq]
    obtain ⟨hinfo, hns⟩ := List.mem_filter.mp hmem
    have hns : info.key.namespace_ = ns := by simpa using hns
    unfold ensureNext
    split_ifs with huser
    · exact Triple.pure fun _ h => h
    · rw [hb.existing before ns existing hexisting, hasUserPDB_current hsound.made, ← hns] at huser
      refine (createTempPDB_sound hb (hseen info hinfo) (by simpa using huser)).bind fun r => ?_
      cases r <;> exact Triple.pure fun _ h => h

theorem ensureTempPDBs_sound (hb : Backed c sv) (targets : List Target) :
    Triple sv (Sound c hash (targets.flatMap Target.nodes)) (ensureTempPDBs hash targets false)
      fun _ => Sound c hash (targets.flatMap Target.nodes) := by
  unfold ensureTempPDBs
  dsimp only
  split_ifs
  · exact Triple.pure fun _ h => h
  · have hdiscover : Triple sv (Sound c hash (targets.flatMap Target.nodes))
        (discoverControllers (targets.flatMap Target.nodes)) fun r log =>
          (∀ controllers, r = .ok controllers → ∀ info ∈ controllers,
            info ∈ (evictedControllers c (targets.flatMap Target.nodes)).foldl record []) ∧
          Sound c hash (targets.flatMap Target.nodes) log := by
      intro log hsound
      refine ⟨fun controllers h info hinfo => ?_,
        (discoverControllers_readsOnly _).sound log hsound⟩
      obtain ⟨_, rfl⟩ := (discoverControllers_returns hb _ log).2 controllers h
      exact (sv _ (.controllerOrder _)).property.mem_iff.mp hinfo
    refine hdiscover.bind fun r => ?_
    cases r with
    | error e => exact Triple.pure fun _ h => h.2
    | ok controllers =>
      refine Triple.assume fun hseen => Triple.call.bind fun namespaces => ?_
      refine Triple.bind ((Triple.foldlM (I := fun _ _ => Sound c hash _)
        fun done ns rest _ errs => ?_).weaken ?_ fun _ _ h => h)
        fun errs => Triple.pure fun _ h => h
      · exact ensureNamespace_sound hb (hseen controllers rfl) errs ns
      · rintro log ⟨before, rfl, hsound, -⟩
        exact hsound.keep rfl

theorem Sound.noOverlap (h : Sound c hash nodeSet log)
    (hseparate : Separate c hash nodeSet) : NoOverlap c nodeSet log where
  user pod hpod hevicted t ht hcovers b hb _ := by
    obtain ⟨info, hinfo, rfl⟩ := h.made t ht
    exact hseparate.user pod hpod hevicted info hinfo hcovers b hb
  temporary pod hpod hevicted b hb b' hb' htemp htemp' hcovers hcovers' := by
    have hsame : (b.namespace_, b.name) = (b'.namespace_, b'.name) → b = b' :=
      List.inj_on_of_nodup_map h.names_nodup hb hb'
    rcases List.mem_append.mp hb with hb | hb <;> rcases List.mem_append.mp hb' with hb' | hb'
    · obtain ⟨info, hinfo, rfl⟩ := h.made b hb
      obtain ⟨info', hinfo', rfl⟩ := h.made b' hb'
      refine hsame (Prod.ext (hcovers.1.trans hcovers'.1.symm) ?_)
      exact hseparate.controllers pod hpod hevicted info info' hinfo hinfo' hcovers hcovers'
    · obtain ⟨info, hinfo, rfl⟩ := h.made b hb
      exact absurd hcovers' (hseparate.user pod hpod hevicted info hinfo hcovers b' hb')
    · obtain ⟨info', hinfo', rfl⟩ := h.made b' hb'
      exact absurd hcovers (hseparate.user pod hpod hevicted info' hinfo' hcovers' b hb)
    · exact hseparate.leftovers pod hpod hevicted b hb b' hb' htemp htemp' hcovers hcovers'

end

/-! ## A run without faults -/

def found {α : Type} (o : Option α) : Except ApiError α :=
  match o with
  | some obj => .ok obj
  | none => .error ⟨.notFound, "not found"⟩

/-- Services that answer from the cluster. Go's map gives the chosen controllers first. -/
def BudgetCluster.services (c : BudgetCluster) (chosen : List ControllerInfo) : Services :=
  fun log op =>
    match op with
    | .listPods => .ok c.pods
    | .getReplicaSet ns name => found (c.replicaSets.lookup (ns, name))
    | .getDeployment ns name => found (c.deployments.lookup (ns, name))
    | .getStatefulSet ns name => found (c.statefulSets.lookup (ns, name))
    | .listNamespacePDBs ns => .ok ((c.current log).filter fun b => b.namespace_ = ns)
    | .getPDB ns name =>
      found ((c.current log).find? fun b => (b.namespace_, b.name) = (ns, name))
    | .createPDB _ => .ok ()
    | .controllerOrder controllers =>
      ⟨controllers.filter (· ∈ chosen) ++ controllers.filter (fun x => !decide (x ∈ chosen)),
        List.filter_append_perm _ _⟩
    | op => op.unavailable

section
variable {chosen : List ControllerInfo} {hash : String → String} {nodeSet : List String}

theorem tells_found (o : Option Controller) : Tells (found o) o := by
  cases o with
  | none => exact fun _ => rfl
  | some obj => rfl

theorem found_error {α : Type} {o : Option α} (h : found o = .error e) : o = none := by
  cases o with
  | none => rfl
  | some a => cases h

theorem found_ok {α : Type} {p : α → Bool} {xs : List α} {a : α}
    (h : found (xs.find? p) = .ok a) : a ∈ xs ∧ p a = true := by
  cases hfind : xs.find? p with
  | none => rw [hfind] at h; cases h
  | some b =>
    rw [hfind] at h
    cases h
    exact ⟨List.mem_of_find?_eq_some hfind, List.find?_some hfind⟩

theorem backed_services (c : BudgetCluster) (chosen : List ControllerInfo) :
    Backed c (c.services chosen) where
  pods _ _ h := (Except.ok.inj h).symm
  replicaSet _ _ _ := tells_found _
  deployment _ _ _ := tells_found _
  statefulSet _ _ _ := tells_found _
  existing _ _ _ h := (Except.ok.inj h).symm
  absent log ns name e h _ := by
    intro hmem
    obtain ⟨b, hb, hkey⟩ := List.mem_map.mp hmem
    have hno := List.find?_eq_none.mp (found_error h) b hb
    simp [hkey] at hno

theorem sure_found {α : Type} (o : Option α) : Sure (found o) := by
  rintro e h
  cases o with
  | none =>
    cases h
    rfl
  | some obj => cases h

theorem faultless_services (c : BudgetCluster) (chosen : List ControllerInfo) :
    Faultless (c.services chosen) where
  pods _ := ⟨_, rfl⟩
  replicaSet _ _ _ := sure_found _
  deployment _ _ _ := sure_found _
  statefulSet _ _ _ := sure_found _

theorem services_chosen_first (c : BudgetCluster) (log : Log) (seen : List ControllerInfo) :
    ((c.services chosen) log (.controllerOrder seen)).val.Pairwise
      fun a b => b ∈ chosen → a ∈ chosen := by
  refine List.pairwise_append.mpr ⟨?_, ?_, ?_⟩
  · exact List.pairwise_of_forall_mem_list fun a ha b _ _ => by
      simpa using (List.mem_filter.mp ha).2
  · exact List.pairwise_of_forall_mem_list fun a _ b hb h => by
      simpa [h] using (List.mem_filter.mp hb).2
  · intro a ha b _ _
    simpa using (List.mem_filter.mp ha).2

/-- Of the controllers that were reached, the chosen ones without protection have
their budget, and there is no budget of another one. -/
structure Progress (c : BudgetCluster) (hash : String → String) (nodeSet : List String)
    (chosen : List ControllerInfo) (reached : ControllerInfo → Prop) (log : Log) : Prop where
  made : ∀ t ∈ created log, ∃ info, reached info ∧ t = tempPDB hash info
  has_budget : ∀ info ∈ chosen, reached info → Unprotected c hash nodeSet info →
    tempPDB hash info ∈ created log

variable {reached : ControllerInfo → Prop}

theorem Progress.keep {log : Log} {call : Call Op Op.Answer}
    (h : Progress c hash nodeSet chosen reached log) (hcall : createdBy call = []) :
    Progress c hash nodeSet chosen reached (call :: log) := by
  have hcreated : created (call :: log) = created log := by simp [created_cons, hcall]
  exact ⟨hcreated ▸ h.made, hcreated ▸ h.has_budget⟩

theorem Progress.skip (h : Progress c hash nodeSet chosen reached log)
    (hprotected : info ∈ chosen → ¬Unprotected c hash nodeSet info) :
    Progress c hash nodeSet chosen (fun x => reached x ∨ x = info) log where
  made t ht := by
    obtain ⟨x, hx, rfl⟩ := h.made t ht
    exact ⟨x, .inl hx, rfl⟩
  has_budget := by
    rintro x hx (hreached | rfl) hopen
    · exact h.has_budget x hx hreached hopen
    · exact absurd hopen (hprotected hx)

theorem Progress.create (h : Progress c hash nodeSet chosen reached log) (hok : answer = .ok ()) :
    Progress c hash nodeSet chosen (fun x => reached x ∨ x = info)
      (⟨.createPDB (tempPDB hash info), answer⟩ :: log) := by
  subst hok
  refine ⟨?_, ?_⟩
  · rintro t (_ | ⟨_, ht⟩)
    · exact ⟨info, .inr rfl, rfl⟩
    · obtain ⟨x, hx, rfl⟩ := h.made t ht
      exact ⟨x, .inl hx, rfl⟩
  · rintro x hx (hreached | rfl) hopen
    · exact .tail _ (h.has_budget x hx hreached hopen)
    · exact .head _

theorem Progress.congr {reached' : ControllerInfo → Prop}
    (h : Progress c hash nodeSet chosen reached log) (heq : ∀ x, reached x ↔ reached' x) :
    Progress c hash nodeSet chosen reached' log := by
  obtain rfl : reached = reached' := funext fun x => propext (heq x)
  exact h

def NamesDiffer (hash : String → String) (chosen : List ControllerInfo) : Prop :=
  ∀ a ∈ chosen, ∀ b ∈ chosen, a.pdbName hash = b.pdbName hash → a = b

theorem createTempPDB_progress (hdiffer : NamesDiffer hash chosen)
    (hbefore : ∀ x, reached x → x.key.namespace_ = info.key.namespace_ → info ∈ chosen →
      x ∈ chosen ∧ x ≠ info) :
    Triple (c.services chosen) (Progress c hash nodeSet chosen reached)
      (createTempPDB hash false info) fun r log =>
        r = .ok () ∧ Progress c hash nodeSet chosen (fun x => reached x ∨ x = info) log := by
  unfold createTempPDB
  rw [if_neg (by simp)]
  refine Triple.call.bind fun r => ?_
  cases r with
  | ok b =>
    refine .pure ?_
    rintro log ⟨before, rfl, hprogress, hget⟩
    refine ⟨rfl, (hprogress.keep rfl).skip fun hchosen hopen => ?_⟩
    obtain ⟨hb, hkey⟩ := found_ok hget
    obtain ⟨hns, hname⟩ : b.namespace_ = info.key.namespace_ ∧ b.name = info.pdbName hash := by
      simpa using hkey
    -- The budget of that name is another one of this run, or it was there before.
    rcases List.mem_append.mp hb with hb | hb
    · obtain ⟨x, hx, rfl⟩ := hprogress.made b hb
      obtain ⟨hxchosen, hne⟩ := hbefore x hx hns hchosen
      exact hne (hdiffer x hxchosen info hchosen hname)
    · exact hopen.name (List.mem_map.mpr ⟨b, hb, Prod.ext hns hname⟩)
  | error e =>
    dsimp only
    split_ifs with he
    · refine .pure ?_
      rintro log ⟨before, rfl, -, hget⟩
      exact absurd (sure_found _ e hget) he
    · refine Triple.call.bind fun r => ?_
      cases r with
      | error e' =>
        refine .pure ?_
        rintro log ⟨_, rfl, -, hcreate⟩
        cases hcreate
      | ok _ =>
        refine .pure ?_
        rintro log ⟨_, rfl, ⟨before, rfl, hprogress, -⟩, -⟩
        exact ⟨rfl, (hprogress.keep rfl).create rfl⟩

section
variable {controllers : List ControllerInfo}

theorem ensureNext_progress (hdiffer : NamesDiffer hash chosen)
    (hfirst : controllers.Pairwise fun a b => b ∈ chosen → a ∈ chosen)
    (hnodup : controllers.Nodup) (hns : ns ∉ namespaces)
    (hexisting : ∀ podLabels, hasUserPDB existing podLabels =
      hasUserPDB (c.pdbs.filter fun b => b.namespace_ = ns) podLabels) :
    Triple (c.services chosen)
      (Progress c hash nodeSet chosen fun x => x ∈ controllers ∧ x.key.namespace_ ∈ namespaces)
      ((controllers.filter fun x => x.key.namespace_ = ns).foldlM
        (ensureNext hash false existing) [])
      fun errs log => errs = [] ∧ Progress c hash nodeSet chosen
        (fun x => x ∈ controllers ∧ x.key.namespace_ ∈ namespaces ++ [ns]) log := by
  refine .weaken (.foldlM (I := fun done errs log => errs = [] ∧
    Progress c hash nodeSet chosen (fun x =>
      x ∈ controllers ∧ x.key.namespace_ ∈ namespaces ∨ x ∈ done) log) ?_)
    (fun log h => ⟨rfl, h.congr (by simp)⟩) ?_
  · intro done info rest heq errs
    refine .assume ?_
    rintro rfl
    have hmem : info ∈ controllers.filter fun x => x.key.namespace_ = ns := by simp [← heq]
    have hinfo : info.key.namespace_ = ns := by simpa using (List.mem_filter.mp hmem).2
    have hdone : ∀ x ∈ done, (info ∈ chosen → x ∈ chosen) ∧ x ≠ info := by
      intro x hx
      have hboth := (hfirst.and hnodup).filter fun x => x.key.namespace_ = ns
      rw [← heq] at hboth
      exact (List.pairwise_append.mp hboth).2.2 x hx info (.head _)
    unfold ensureNext
    split_ifs with huser
    · have hprotected : ¬Unprotected c hash nodeSet info := by
        intro hopen
        rw [hexisting, ← hinfo, hopen.user] at huser
        cases huser
      exact .pure fun log hlog =>
        ⟨rfl, (hlog.skip fun _ => hprotected).congr (by simp [or_assoc])⟩
    · refine (createTempPDB_progress hdiffer ?_).bind fun r => ?_
      · rintro x (⟨-, hx⟩ | hx) hxns hchosen
        · exact absurd (hinfo ▸ hxns ▸ hx) hns
        · exact ⟨(hdone x hx).1 hchosen, (hdone x hx).2⟩
      · refine .assume ?_
        rintro rfl
        exact .pure fun log hlog => ⟨rfl, hlog.congr (by simp [or_assoc])⟩
  · rintro errs log ⟨rfl, hlog⟩
    refine ⟨rfl, hlog.congr fun x => ?_⟩
    simp only [List.mem_filter, List.mem_append, List.mem_singleton, decide_eq_true_eq]
    tauto

theorem ensureNamespace_progress (hdiffer : NamesDiffer hash chosen)
    (hfirst : controllers.Pairwise fun a b => b ∈ chosen → a ∈ chosen)
    (hnodup : controllers.Nodup) {namespaces : List String} (hns : ns ∉ namespaces) :
    Triple (c.services chosen)
      (Progress c hash nodeSet chosen fun x => x ∈ controllers ∧ x.key.namespace_ ∈ namespaces)
      (ensureNamespace hash false controllers [] ns) fun errs log => errs = [] ∧
        Progress c hash nodeSet chosen
          (fun x => x ∈ controllers ∧ x.key.namespace_ ∈ namespaces ++ [ns]) log := by
  refine Triple.call.bind fun r => ?_
  cases r with
  | error e =>
    refine .pure ?_
    rintro log ⟨before, rfl, -, hlist⟩
    cases hlist
  | ok existing =>
    rintro log ⟨before, rfl, hprogress, hlist⟩
    refine ensureNext_progress hdiffer hfirst hnodup hns (fun podLabels => ?_) _
      (hprogress.keep rfl)
    rw [(backed_services c chosen).existing before ns existing hlist,
      hasUserPDB_current hprogress.made]

end

theorem ensureTempPDBs_chosen (c : BudgetCluster) (targets : List Target)
    (hdiffer : NamesDiffer hash chosen) :
    (ensureTempPDBs hash targets false (c.services chosen) []).1 = .ok () ∧
      ∀ info ∈ chosen, Unprotected c hash (targets.flatMap Target.nodes) info → tempPDB hash info ∈
          created (ensureTempPDBs hash targets false (c.services chosen) []).2 := by
  set nodeSet := targets.flatMap Target.nodes with hnodes
  suffices h : Triple (c.services chosen) (Progress c hash nodeSet chosen fun _ => False)
      (ensureTempPDBs hash targets false) fun r log => r = .ok () ∧
        Progress c hash nodeSet chosen (· ∈ (evictedControllers c nodeSet).foldl record []) log by
    obtain ⟨hok, hprogress⟩ := h [] ⟨nofun, nofun⟩
    exact ⟨hok, fun info hchosen hopen =>
      hprogress.has_budget info hchosen (mem_foldl_record.mpr hopen.last) hopen⟩
  unfold ensureTempPDBs
  dsimp only
  rw [← hnodes]
  split_ifs with hempty
  · refine .pure fun log hlog => ⟨rfl, hlog.congr ?_⟩
    have hnone : evictedControllers c nodeSet = [] := by
      simp [evictedControllers, isEvicted, hempty]
    simp [hnone]
  · have hdiscover : Triple (c.services chosen)
        (Progress c hash nodeSet chosen fun _ => False) (discoverControllers nodeSet) fun r log =>
          (∃ controllers, r = .ok controllers ∧
            (controllers.Pairwise fun a b => b ∈ chosen → a ∈ chosen) ∧
            controllers.Perm ((evictedControllers c nodeSet).foldl record [])) ∧
          Progress c hash nodeSet chosen (fun _ => False) log := by
      intro log hlog
      refine ⟨?_, (discoverControllers_readsOnly nodeSet).keeps
        (fun _ _ hcall h => h.keep (createdBy_of_not_mutating hcall)) log hlog⟩
      have hreturns := discoverControllers_returns (backed_services c chosen) nodeSet log
      obtain ⟨controllers, hok⟩ := hreturns.1 (faultless_services c chosen)
      obtain ⟨before, rfl⟩ := hreturns.2 controllers hok
      exact ⟨_, hok, services_chosen_first c before _,
        (c.services chosen before (.controllerOrder _)).property⟩
    refine hdiscover.bind fun r => .assume ?_
    rintro ⟨controllers, rfl, hfirst, hperm⟩
    -- The loop: what is made so far covers the controllers of the namespaces done.
    have hnodup : controllers.Nodup :=
      hperm.nodup_iff.mpr (foldl_record_nodup _).of_map
    refine Triple.call.bind fun namespaces => Triple.bind ((Triple.foldlM (I := fun done errs log =>
      errs = [] ∧ Progress c hash nodeSet chosen
        (fun x => x ∈ controllers ∧ x.key.namespace_ ∈ done) log)
      fun done ns rest heq errs => ?_).weaken ?_ fun _ _ h => h) fun errs => ?_
    · refine .assume ?_
      rintro rfl
      refine ensureNamespace_progress hdiffer hfirst hnodup fun hmem => ?_
      have hnodup : (done ++ ns :: rest).Nodup :=
        heq ▸ namespaces.property.nodup_iff.mpr (List.nodup_dedup _)
      exact List.disjoint_of_nodup_append hnodup hmem (.head _)
    · rintro log ⟨before, rfl, hlog, -⟩
      exact ⟨rfl, (hlog.keep rfl).congr (by simp)⟩
    · refine .assume ?_
      rintro rfl
      refine .pure fun log hlog => ⟨rfl, hlog.congr fun x => ?_⟩
      rw [← hperm.mem_iff]
      refine ⟨fun h => h.1, fun h => ⟨h, ?_⟩⟩
      rw [namespaces.property.mem_iff, List.mem_dedup]
      exact List.mem_map_of_mem h

theorem NoOverlap.separate (targets : List Target)
    (h : ∀ chosen, NamesDiffer hash chosen → NoOverlap c (targets.flatMap Target.nodes)
      (ensureTempPDBs hash targets false (c.services chosen) []).2) :
    Separate c hash (targets.flatMap Target.nodes) where
  user pod hpod hevicted info hopen hcovers b hb hb' := by
    have hdiffer : NamesDiffer hash [info] := by simp [NamesDiffer]
    have ht := (ensureTempPDBs_chosen c targets hdiffer).2 info (by simp) hopen
    cases htemp : isTemporaryPDB b with
    | false => exact (h _ hdiffer).user pod hpod hevicted _ ht hcovers b hb htemp hb'
    | true =>
      have heq := (h _ hdiffer).temporary pod hpod hevicted _ (List.mem_append_left _ ht) b
        (List.mem_append_right _ hb) (isTemporaryPDB_tempPDB hash info) htemp hcovers hb'
      exact hopen.name (List.mem_map.mpr ⟨b, hb, by rw [← heq]; rfl⟩)
  controllers pod hpod hevicted info info' hopen hopen' hcovers hcovers' := by
    by_contra hne
    have hdiffer : NamesDiffer hash [info, info'] := by simp [NamesDiffer, hne, Ne.symm hne]
    have hall := (ensureTempPDBs_chosen c targets hdiffer).2
    have heq := (h _ hdiffer).temporary pod hpod hevicted
      _ (List.mem_append_left _ (hall info (by simp) hopen))
      _ (List.mem_append_left _ (hall info' (by simp) hopen'))
      (isTemporaryPDB_tempPDB hash info) (isTemporaryPDB_tempPDB hash info') hcovers hcovers'
    exact hne (congrArg PodDisruptionBudget.name heq)
  leftovers pod hpod hevicted b hb b' hb' :=
    (h [] (by simp [NamesDiffer])).temporary pod hpod hevicted b (List.mem_append_right _ hb) b'
      (List.mem_append_right _ hb')

end

end

/-- Whatever the services answer, the budgets of a run that succeeds keep clear of
each other and of the user's, exactly where the selectors do. -/
theorem ensured_budgets_do_not_overlap_iff (c : BudgetCluster) (hash : String → String)
    (targets : List Target) :
    (∀ sv, Backed c sv → (ensureTempPDBs hash targets false sv []).1 = .ok () →
      NoOverlap c (targets.flatMap Target.nodes) (ensureTempPDBs hash targets false sv []).2) ↔
      Separate c hash (targets.flatMap Target.nodes) := by
  constructor
  · intro h
    refine NoOverlap.separate targets fun chosen hdiffer => ?_
    exact h _ (backed_services c chosen) (ensureTempPDBs_chosen c targets hdiffer).1
  · intro hseparate sv hb _
    exact (ensureTempPDBs_sound hb targets [] ⟨nofun, c.names_nodup⟩).noOverlap hseparate

/-- A deployment in the middle of a rollout: the user's budget selects the pods of
the old version, and the controller is judged by a pod of the new one. -/
def rolloutCluster : BudgetCluster where
  pods :=
    [{ namespace_ := "shop", name := "web-v1-a", nodeName := "node-a",
       labels := ((∅ : Profiles.Labels).insert "app" "web").insert "version" "v1",
       controller := some { kind := "ReplicaSet", name := "web-v1" } },
     { namespace_ := "shop", name := "web-v2-a", nodeName := "node-a",
       labels := ((∅ : Profiles.Labels).insert "app" "web").insert "version" "v2",
       controller := some { kind := "ReplicaSet", name := "web-v2" } }]
  deployments := (∅ : Cache).insert ("shop", "web")
    { selector := some { matchLabels := (∅ : Profiles.Labels).insert "app" "web" } }
  replicaSets := ((∅ : Cache).insert ("shop", "web-v1")
      { controller := some { kind := "Deployment", name := "web" } }).insert ("shop", "web-v2")
      { controller := some { kind := "Deployment", name := "web" } }
  pdbs := [{ namespace_ := "shop", name := "web-v1",
             selector := some { matchLabels := (∅ : Profiles.Labels).insert "version" "v1" } }]
  names_nodup := by simp

theorem rollout_pod_has_two_budgets :
    (ensureTempPDBs id [⟨.standalone, "", ["node-a"]⟩] false (rolloutCluster.services []) []).1 =
      .ok () ∧
    ¬NoOverlap rolloutCluster ["node-a"] (ensureTempPDBs id [⟨.standalone, "", ["node-a"]⟩] false
        (rolloutCluster.services []) []).2 := by
  have hrun : ∃ pod ∈ rolloutCluster.pods, isEvicted ["node-a"] pod = true ∧
      ∃ t ∈ created (ensureTempPDBs id [⟨.standalone, "", ["node-a"]⟩] false
        (rolloutCluster.services []) []).2, (t.namespace_ = pod.namespace_ ∧
          selects t.selector pod.labels = true) ∧
      ∃ b ∈ rolloutCluster.pdbs, isTemporaryPDB b = false ∧ b.namespace_ = pod.namespace_ ∧
        selects b.selector pod.labels = true := by
    decide +kernel
  obtain ⟨pod, hpod, hevicted, t, ht, hcovers, b, hb, htemp, hb'⟩ := hrun
  refine ⟨?_, fun h => h.user pod hpod hevicted t ht hcovers b hb htemp hb'⟩
  exact (ensureTempPDBs_chosen _ _ (by simp [NamesDiffer])).1

end DatadogOperator.Autoscaling
