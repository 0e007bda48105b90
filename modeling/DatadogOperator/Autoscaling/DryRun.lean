import DatadogOperator.Autoscaling.Run

/-!
# Dry runs

Every part of the command, run dry, only calls operations that change neither
Kubernetes nor AWS.
-/

namespace DatadogOperator.Autoscaling

open Calls

def ReadsOnly (sv : Services) (p : Program α) : Prop := Only sv (fun op => op.mutating = false) p

section
variable {α β : Type} {sv : Services} {p : Program α} {f : α → Program β}

theorem ReadsOnly.pure {a : α} : ReadsOnly sv (Pure.pure a : Program α) := Only.pure

theorem ReadsOnly.bind (hp : ReadsOnly sv p) (hf : ∀ a, ReadsOnly sv (f a)) :
    ReadsOnly sv (p >>= f) := Only.bind hp hf

theorem ReadsOnly.call {op : Op} (h : op.mutating = false) : ReadsOnly sv (call op) := Only.call h

theorem ReadsOnly.foldlM {xs : List α} {b : β}
    (hbody : ∀ x b, ReadsOnly sv (body b x)) : ReadsOnly sv (xs.foldlM body b) :=
  Only.foldlM fun x _ b => hbody x b

theorem ReadsOnly.ite [Decidable c] (hp : c → ReadsOnly sv p)
    (hq : ¬c → ReadsOnly sv q) : ReadsOnly sv (if c then p else q) := by
  split_ifs with h
  · exact hp h
  · exact hq h

/-! ## The snapshot -/

theorem describeBatch_readsOnly (acc : Except ApiError Profiles.Labels) (batch : List AsgCandidate) :
    ReadsOnly sv (describeBatch acc batch) := by
  cases acc with
  | error e => exact .pure
  | ok byInstance =>
    refine .bind (.call rfl) fun r => ?_
    cases r <;> exact .pure

theorem resolveASGs_readsOnly (candidates : List AsgCandidate) (info : ClusterInfo) :
    ReadsOnly sv (resolveASGs candidates info) := by
  refine .bind (.foldlM fun batch acc => describeBatch_readsOnly acc batch) fun r => ?_
  cases r <;> exact .pure

theorem enrichFargateOwnership_readsOnly (clusterName : String) (info : ClusterInfo) :
    ReadsOnly sv (enrichFargateOwnership clusterName info) := by
  refine .foldlM fun entity info => ?_
  unfold enrichFargateProfile
  split_ifs
  · exact .pure
  · refine .bind (.call rfl) fun r => ?_
    rcases r with e | (_ | tags)
    · exact .pure
    · exact .pure
    · dsimp only
      split_ifs <;> exact .pure

theorem classify_readsOnly (clusterName : String) : ReadsOnly sv (classify clusterName) := by
  refine .bind (.call rfl) fun _ => ?_
  refine .bind (.bind (.call rfl) fun r => by cases r <;> exact .pure) fun r => ?_
  cases r with
  | error e => exact .pure
  | ok fargateProfileByNode => ?_
  refine .bind (.bind (.call rfl) fun r => by cases r <;> exact .pure) fun r => ?_
  cases r with
  | error e => exact .pure
  | ok out => ?_
  refine .bind (resolveASGs_readsOnly _ _) fun r => ?_
  cases r with
  | error e => exact .pure
  | ok info => ?_
  refine .bind (.bind (.call rfl) fun r => by cases r <;> exact .pure) fun info => ?_
  refine .bind (enrichFargateOwnership_readsOnly clusterName info) fun info => ?_
  refine .bind (.bind (.call rfl) fun r => ?_) fun r => ?_
  · rcases r with e | (_ | ⟨namespace_, name⟩) <;> exact .pure
  cases r with
  | error e => exact .pure
  | ok clusterAutoscaler => ?_
  refine .bind (.call rfl) fun r => ?_
  cases r with
  | error e => exact .pure
  | ok _ => ?_
  exact .bind (.bind (.call rfl) fun r => by cases r <;> exact .pure) fun _ => .pure

/-! ## Budgets -/

theorem getCached_readsOnly {namespace_ name : String}
    {get : Program (Except ApiError Controller)} (hget : ReadsOnly sv get) :
    ReadsOnly sv (getCached cache namespace_ name get) := by
  unfold getCached
  cases cache.lookup (namespace_, name) with
  | some obj => exact .pure
  | none =>
    refine .bind hget fun r => ?_
    cases r <;> exact .pure

theorem resolveReplicaSet_readsOnly (namespace_ name : String) (rs : Controller) (caches : Caches) :
    ReadsOnly sv (resolveReplicaSet namespace_ name rs caches) := by
  unfold resolveReplicaSet
  cases rs.controller with
  | none => exact .pure
  | some owner =>
    dsimp only
    split_ifs
    · exact .pure
    · refine .bind (getCached_readsOnly (.call rfl)) fun r => ?_
      obtain ⟨answer, deployments⟩ := r
      cases answer with
      | ok dep => exact .pure
      | error e =>
        dsimp only
        split_ifs <;> exact .pure

theorem resolveTopLevelController_readsOnly (pod : Pod) (caches : Caches) :
    ReadsOnly sv (resolveTopLevelController pod caches) := by
  unfold resolveTopLevelController
  cases pod.controller with
  | none => exact .pure
  | some owner =>
    dsimp only
    split_ifs
    · refine .bind (getCached_readsOnly (.call rfl)) fun r => ?_
      obtain ⟨answer, replicaSets⟩ := r
      cases answer with
      | error e => exact .pure
      | ok rs => exact resolveReplicaSet_readsOnly _ _ _ _
    · refine .bind (getCached_readsOnly (.call rfl)) fun r => ?_
      obtain ⟨answer, statefulSets⟩ := r
      cases answer <;> exact .pure
    · exact .pure

theorem discoverControllers_readsOnly (nodeSet : List String) :
    ReadsOnly sv (discoverControllers nodeSet) := by
  refine .bind (.call rfl) fun r => ?_
  cases r with
  | error e => exact .pure
  | ok pods =>
    refine .bind (.foldlM fun pod acc => ?_) fun r => ?_
    · cases acc with
      | error e => exact .pure
      | ok d =>
        unfold discoverNext
        dsimp only
        split_ifs
        · refine .bind (resolveTopLevelController_readsOnly pod d.caches) fun r => ?_
          obtain ⟨answer, caches⟩ := r
          rcases answer with e | (_ | info)
          · dsimp only
            split_ifs <;> exact .pure
          · exact .pure
          · exact .pure
        · exact .pure
    · cases r with
      | error e => exact .pure
      | ok d => exact .bind (.call rfl) fun _ => .pure

theorem ensureTempPDBs_readsOnly (hash : String → String) (targets : List Target) :
    ReadsOnly sv (ensureTempPDBs hash targets true) := by
  unfold ensureTempPDBs
  dsimp only
  split_ifs
  · exact .pure
  · refine .bind (discoverControllers_readsOnly _) fun r => ?_
    cases r with
    | error e => exact .pure
    | ok controllers =>
      refine .bind (.call rfl) fun namespaces => ?_
      refine .bind (.foldlM fun ns errs => ?_) fun errs => .pure
      refine .bind (.call rfl) fun r => ?_
      cases r with
      | error e => exact .pure
      | ok existing =>
        refine .foldlM fun c errs => ?_
        unfold ensureNext
        split_ifs
        · exact .pure
        · exact .bind .pure fun r => by cases r <;> exact .pure

theorem cleanupTempPDBs_readsOnly : ReadsOnly sv (cleanupTempPDBs true) := by
  refine .bind (.call rfl) fun r => ?_
  cases r with
  | error e => exact .pure
  | ok pdbs => exact .bind (.foldlM fun _ _ => .pure) fun _ => .pure

theorem reclaimLeakedTempPDBs_readsOnly (ensurePDBs : Bool) :
    ReadsOnly sv (reclaimLeakedTempPDBs ensurePDBs true) := by
  unfold reclaimLeakedTempPDBs
  split_ifs
  · exact .bind cleanupTempPDBs_readsOnly fun _ => .pure
  · exact .pure

/-! ## Eviction -/

theorem cordonNodes_readsOnly (nodes : List String) : ReadsOnly sv (cordonNodes nodes true) := by
  refine ReadsOnly.foldlM fun name acc => ?_
  refine ReadsOnly.bind (onError_only (ReadsOnly.bind (.call rfl) fun r => ?_) none 5) fun r => ?_
  · cases r with
    | error e =>
      dsimp only
      split_ifs <;> exact .pure
    | ok node =>
      dsimp only
      rw [if_pos (.inl rfl)]
      exact .pure
  · rcases r with e | (_ | node) <;> exact .pure

section
variable {opts : NodeDrainOptions} (hdry : opts.dryRun = true)
include hdry

theorem drainNodes_readsOnly {after : Node → Program (List ApiError)}
    (hafter : ∀ node, ReadsOnly sv (after node)) (cordoned : List Node) (errs : List ApiError) :
    ReadsOnly sv (drainNodes opts after cordoned errs) := by
  refine .foldlM fun node errs => ?_
  unfold drainNext drainNode
  rw [if_pos hdry]
  exact .bind .pure fun r => by
    cases r with
    | error e => exact .pure
    | ok _ => exact .bind (hafter node) fun _ => .pure

theorem evictTarget_readsOnly (clusterName : String) (t : Target) :
    ReadsOnly sv (evictTarget clusterName opts t) := by
  unfold evictTarget
  cases t.manager with
  | asg =>
    unfold evictASG drainASG
    dsimp only
    rw [if_pos hdry, hdry]
    refine .bind (cordonNodes_readsOnly _) fun acc => ?_
    refine .bind (drainNodes_readsOnly hdry (fun node => ?_) acc.1 acc.2) fun errs => ?_
    · unfold terminateASGInstance
      cases extractEC2InstanceID node with
      | none => exact .pure
      | some id =>
        dsimp only
        rw [if_pos hdry]
        exact .pure
    · exact .ite (fun _ => .pure) fun _ => .ite (fun _ => .pure) fun h => absurd rfl h
  | eksManagedNodeGroup =>
    unfold evictEKSManagedNodeGroup
    dsimp only
    rw [hdry]
    refine .bind (cordonNodes_readsOnly _) fun acc => ?_
    refine .bind (drainNodes_readsOnly hdry (fun node => .pure) acc.1 acc.2) fun errs => ?_
    exact .ite (fun _ => .pure) fun _ => .ite (fun _ => .pure) fun h => absurd rfl h
  | karpenter =>
    unfold evictKarpenterUserNodePool
    dsimp only
    rw [hdry]
    refine .bind (cordonNodes_readsOnly _) fun acc => ?_
    exact .bind (drainNodes_readsOnly hdry (fun node => .pure) acc.1 acc.2) fun _ => .pure
  | standalone =>
    unfold evictStandalone
    dsimp only
    rw [hdry]
    refine .bind (cordonNodes_readsOnly _) fun acc => ?_
    refine .bind (drainNodes_readsOnly hdry (fun node => ?_) acc.1 acc.2) fun _ => .pure
    unfold terminateStandalone
    cases extractEC2InstanceID node with
    | none => exact .pure
    | some id =>
      dsimp only
      rw [if_pos hdry]
      exact .pure
  | fargate => exact .pure
  | unknown => exact .pure

theorem evictAllTargets_readsOnly (clusterName : String) (targets : List Target) :
    ReadsOnly sv (evictAllTargets clusterName opts targets) := by
  refine .foldlM fun t errs => ?_
  refine .bind (evictTarget_readsOnly hdry clusterName t) fun r => ?_
  cases r <;> exact .pure

end

/-! ## The command -/

section
variable {opts : RunOptions} (hdry : opts.dryRun = true)
include hdry

theorem planEviction_readsOnly (namespace_ : String) (info : ClusterInfo) :
    ReadsOnly sv (planEviction opts namespace_ info) := by
  unfold planEviction
  refine .ite (fun _ => .pure) fun _ => ?_
  cases buildPlan info opts.all opts.targets with
  | error e => exact .pure
  | ok targets =>
    refine .ite (fun _ => ?_) fun _ => ?_
    · rw [hdry]
      exact .bind (reclaimLeakedTempPDBs_readsOnly _) fun _ => .pure
    · refine .bind (.call rfl) fun _ => .bind ?_ fun confirmed => ?_
      · exact .ite (fun _ => .call rfl) fun _ => .pure
      · exact .ite (fun _ => .pure) fun _ => .pure

theorem prepare_readsOnly : ReadsOnly sv (prepare opts) := by
  refine .bind (.call rfl) fun r => ?_
  cases r with
  | error e => exact .pure
  | ok _ => ?_
  refine .bind (.call rfl) fun r => ?_
  cases r with
  | error e => exact .pure
  | ok _ => ?_
  refine .bind (.call rfl) fun r => ?_
  rcases r with e | (_ | found)
  · exact .pure
  · exact .pure
  · refine .bind (classify_readsOnly _) fun r => ?_
    cases r with
    | error e => exact .pure
    | ok info =>
      refine .ite (fun _ => .pure) fun _ => ?_
      rw [if_pos hdry]
      exact planEviction_readsOnly hdry _ _

theorem evictPrepared_readsOnly (p : Prepared) : ReadsOnly sv (evictPrepared opts p) := by
  unfold evictPrepared persistFinal
  rw [hdry]
  refine .bind (evictAllTargets_readsOnly hdry _ _) fun errs => ?_
  refine .bind (reclaimLeakedTempPDBs_readsOnly _) fun _ => ?_
  exact .bind .pure fun _ => .pure

theorem execute_readsOnly (hash : String → String) (p : Prepared) :
    ReadsOnly sv (execute hash opts p) := by
  have hprotect : ReadsOnly sv (protectAndEvict hash opts p) := by
    unfold protectAndEvict
    rw [hdry]
    refine .ite (fun _ => ?_) fun _ => evictPrepared_readsOnly hdry p
    refine .bind (ensureTempPDBs_readsOnly hash _) fun r => ?_
    cases r with
    | error e => exact .bind cleanupTempPDBs_readsOnly fun _ => .pure
    | ok _ => exact evictPrepared_readsOnly hdry p
  unfold execute scaleDownClusterAutoscaler
  refine .ite (fun _ => hprotect) fun _ => ?_
  rw [if_pos (.inr hdry)]
  refine .bind .pure fun r => ?_
  cases r with
  | error e => exact .pure
  | ok _ => exact hprotect

theorem run_readsOnly (hash : String → String) : ReadsOnly sv (run hash opts) := by
  refine .bind (prepare_readsOnly hdry) fun r => ?_
  rcases r with e | (_ | p)
  · exact .pure
  · exact .pure
  · exact execute_readsOnly hdry hash p

end

end

end DatadogOperator.Autoscaling
