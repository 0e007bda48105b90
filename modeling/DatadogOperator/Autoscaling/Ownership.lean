import DatadogOperator.Autoscaling.Run

/-!
# Plans and the node pools of Datadog

Every node is in one bucket, the targets of a full plan share no node and miss
none that can be evicted, and a plan that is executed has no node of a node pool
that a Datadog product made. The last holds also where the list of these node
pools could not be read: nothing is marked then, and the command stops before
it makes a plan.
-/

namespace DatadogOperator.Autoscaling

open Calls
open Profiles (Labels)

def nodePoolLabel : String := "karpenter.sh/nodepool"

/-- What a plan made from the answers of the services must have. -/
structure SafePlans (sv : Services) (c : Cluster) (log : Log) : Prop where
  one_bucket : ∀ clusterName info, (classify clusterName sv log).1 = .ok info →
    ∀ n ∈ c.nodes, ∃! bucket : NodeManager × String, info.Holds bucket.1 bucket.2 n.name
  disjoint : ∀ clusterName info, (classify clusterName sv log).1 = .ok info →
    (buildAllPlan info).Pairwise fun t u => t.nodes.Disjoint u.nodes
  covers : ∀ clusterName info, (classify clusterName sv log).1 = .ok info →
    ∀ mgr entity name, info.Holds mgr entity name →
      (mgr = .karpenter ∧ ¬info.Managed mgr entity ∨
        mgr = .eksManagedNodeGroup ∨ mgr = .asg ∨ mgr = .standalone) →
      ∃ t ∈ buildAllPlan info, name ∈ t.nodes
  spares : ∀ (o : Options) opts p, o.validate = .ok opts → (prepare opts sv log).1 = .ok (some p) →
    ∀ np ∈ c.nodePools, np.CreatedByDatadog →
      ∀ n ∈ c.nodes, n.labels.lookup nodePoolLabel = some np.name → ∀ t ∈ p.targets, n.name ∉ t.nodes

/-! ## One bucket -/

section
variable {c : Cluster} {info : ClusterInfo}

theorem Cluster.eq_of_name (c : Cluster) (hn : n ∈ c.nodes) (hm : m ∈ c.nodes)
    (h : n.name = m.name) : n = m :=
  List.inj_on_of_nodup_map c.names_nodup hn hm h

theorem Classified.bucket_unique (hc : Classified c info)
    (h : info.Holds mgr entity name)
    (h' : info.Holds mgr' entity' name) : (mgr, entity) = (mgr', entity') := by
  obtain ⟨fargateProfileByNode, byInstance, hholds⟩ := hc.holds
  obtain ⟨n, hn, hplace, hname⟩ := (hholds mgr entity name).mp h
  obtain ⟨m, hm, hplace', hname'⟩ := (hholds mgr' entity' name).mp h'
  obtain rfl := c.eq_of_name hn hm (hname.trans hname'.symm)
  exact hplace.symm.trans hplace'

theorem Classified.one_bucket (hc : Classified c info) {n : Node} (hn : n ∈ c.nodes) :
    ∃! bucket : NodeManager × String, info.Holds bucket.1 bucket.2 n.name := by
  obtain ⟨fargateProfileByNode, byInstance, hholds⟩ := hc.holds
  have hplaced := (hholds _ _ n.name).mpr ⟨n, hn, (Prod.mk.eta).symm, rfl⟩
  exact ⟨_, hplaced, fun bucket hbucket => hc.bucket_unique hbucket hplaced⟩

theorem place_of_nodePool {np : KarpenterNodePool}
    (h : n.labels.lookup nodePoolLabel = some np.name) (fargateProfileByNode byInstance : Labels) :
    (place fargateProfileByNode byInstance n).1 = .fargate ∨
      place fargateProfileByNode byInstance n = (.karpenter, np.name) := by
  unfold place classifyNodeByLabel
  split_ifs with hfargate
  · exact .inl rfl
  · refine .inr ?_
    have hlabel : nonEmpty n.labels "karpenter.sh/nodepool" = some np.name := by
      have hget : Annotations.get n.labels "karpenter.sh/nodepool" = np.name :=
        congrArg (Option.getD · "") h
      rw [nonEmpty, hget, if_pos np.name_ne_empty]
    rw [hlabel]
    rfl

/-! ## Plans -/

theorem Planned.holds (hp : Planned info t) (h : name ∈ t.nodes) :
    info.Holds t.manager t.entity name := by
  rw [hp.nodes] at h
  exact h

theorem Classified.disjoint (hc : Classified c info) :
    (buildAllPlan info).Pairwise fun t u => t.nodes.Disjoint u.nodes := by
  refine (buildAllPlan_nodup info).imp_of_mem ?_
  intro t u ht hu hne name hname hname'
  have hunique := hc.bucket_unique ((mem_buildAllPlan.mp ht).2.2.holds hname)
    ((mem_buildAllPlan.mp hu).2.2.holds hname')
  exact hne (Prod.mk.inj hunique)

theorem Classified.covers (hc : Classified c info) {entity name : String}
    (h : info.Holds mgr entity name)
    (hmgr : mgr = .karpenter ∧ ¬info.Managed mgr entity ∨
      mgr = .eksManagedNodeGroup ∨ mgr = .asg ∨ mgr = .standalone) :
    ∃ t ∈ buildAllPlan info, name ∈ t.nodes := by
  refine ⟨⟨mgr, entity, (info.entry mgr entity).nodes⟩,
    mem_buildAllPlan.mpr ⟨?_, h.mem_keys, ⟨?_, rfl⟩⟩, h⟩
  · rcases hmgr with ⟨rfl, -⟩ | rfl | rfl | rfl <;> simp [evictedManagers]
  · rcases hmgr with ⟨rfl, hunmanaged⟩ | rfl | rfl | rfl
    · exact hunmanaged
    all_goals
      intro hmanaged
      rcases hc.managers _ _ hmanaged with h | h <;> cases h

theorem Classified.spares (hc : Classified c info) (hmarked : ∃ entity, info.Managed .karpenter entity)
    (hmgr : t.manager ∈ evictedManagers) (hplanned : Planned info t)
    {np : KarpenterNodePool} (hnp : np ∈ c.nodePools) (hcreated : np.CreatedByDatadog) {n : Node}
    (hn : n ∈ c.nodes) (hlabel : n.labels.lookup nodePoolLabel = some np.name) :
    n.name ∉ t.nodes := by
  intro hname
  obtain ⟨entity, hentity⟩ := hmarked
  obtain ⟨fargateProfileByNode, byInstance, hholds⟩ := hc.holds
  have hplaced := (hholds _ _ n.name).mpr ⟨n, hn, (Prod.mk.eta).symm, rfl⟩
  have hsame := hc.bucket_unique (hplanned.holds hname) hplaced
  rcases place_of_nodePool hlabel fargateProfileByNode byInstance with hfargate | hpool
  · rw [(Prod.mk.inj hsame).1, hfargate] at hmgr
    exact absurd hmgr (by decide)
  · rw [hpool] at hsame
    obtain ⟨hmanager, hname⟩ := Prod.mk.inj hsame
    refine hplanned.unmanaged ?_
    rw [hmanager, hname]
    exact hc.pools entity hentity np hnp hcreated

end

/-! ## The command -/

theorem parseNext_managers {specs : List String}
    (hacc : ∀ t ∈ acc.1, t.manager ∈ evictedManagers) :
    ∀ t ∈ (specs.foldl parseNext acc).1, t.manager ∈ evictedManagers := by
  induction specs generalizing acc with
  | nil => exact hacc
  | cons spec specs ih =>
    refine ih ?_
    unfold parseNext
    split
    · next target htarget =>
      intro t ht
      rcases List.mem_append.mp ht with ht | ht
      · exact hacc t ht
      · obtain rfl := List.mem_singleton.mp ht
        exact parseTargetSpec_manager htarget
    · exact hacc

theorem validate_managers {o : Options} (h : o.validate = .ok opts) :
    ∀ t ∈ opts.targets, t.manager ∈ evictedManagers := by
  obtain ⟨-, -, h⟩ := Checked.bind_ok h
  obtain ⟨-, -, h⟩ := Checked.bind_ok h
  cases h
  exact parseNext_managers nofun

section
variable {sv : Services} {c : Cluster}

structure Confirmed (c : Cluster) (opts : RunOptions) (p : Prepared) : Prop where
  classified : Classified c p.info
  destination : hasDatadogManagedNodePool p.info = true
  plan : buildPlan p.info opts.all opts.targets = .ok p.targets

theorem planEviction_returns
    (hc : Classified c info) : Returns sv (planEviction opts namespace_ info) fun r =>
      ∀ p, r = .ok (some p) → Confirmed c opts p := by
  unfold planEviction
  split_ifs with hdestination
  · exact .pure nofun
  · cases hplan : buildPlan info opts.all opts.targets with
    | error e => exact .pure nofun
    | ok targets =>
      dsimp only
      split_ifs
      · exact Returns.trivial.bind fun _ _ => .pure nofun
      · refine Returns.trivial.bind fun _ _ => Returns.trivial.bind fun confirmed _ => ?_
        cases confirmed with
        | false => exact .pure nofun
        | true =>
          refine .pure fun p hp => ?_
          cases Except.ok.inj hp
          exact ⟨hc, by simpa using hdestination, hplan⟩

theorem prepare_returns (ho : Observes sv c) (opts : RunOptions) :
    Returns sv (prepare opts) fun r => ∀ p, r = .ok (some p) → Confirmed c opts p := by
  have hin : ∀ namespace_, Returns sv (prepareIn opts namespace_) fun r =>
      ∀ p, r = .ok (some p) → Confirmed c opts p := by
    intro namespace_
    refine (classify_returns ho opts.clusterName).bind fun answer hclassified => ?_
    cases answer with
    | error e => exact .pure nofun
    | ok info =>
      dsimp only
      split_ifs
      · exact .pure nofun
      · exact planEviction_returns (hclassified info rfl)
      · exact Returns.trivial.bind fun _ _ => planEviction_returns (hclassified info rfl)
  refine Returns.trivial.bind fun answer _ => ?_
  cases answer with
  | error e => exact .pure nofun
  | ok _ => ?_
  refine Returns.trivial.bind fun answer _ => ?_
  cases answer with
  | error e => exact .pure nofun
  | ok _ => ?_
  refine Returns.trivial.bind fun answer _ => ?_
  cases answer with
  | error e => exact .pure nofun
  | ok found =>
    cases found with
    | none => exact .pure nofun
    | some found => exact hin _

end

theorem plans_are_safe (sv : Services) (c : Cluster) (ho : Observes sv c) (log : Log) :
    SafePlans sv c log where
  one_bucket clusterName info h _ hn := (classify_returns ho clusterName log info h).one_bucket hn
  disjoint clusterName info h := (classify_returns ho clusterName log info h).disjoint
  covers clusterName info h _ _ _ hholds hmgr :=
    (classify_returns ho clusterName log info h).covers hholds hmgr
  spares o opts p hvalid hp np hnp hcreated n hn hlabel t ht := by
    obtain ⟨hclassified, hdestination, hplan⟩ := prepare_returns ho opts log p hp
    obtain ⟨hmgr, hplanned⟩ := buildPlan_planned hplan ht (validate_managers hvalid)
    exact hclassified.spares (hasDatadogManagedNodePool_cases hdestination) hmgr hplanned hnp
      hcreated hn hlabel

-- A cluster with one node of Datadog and one of an Auto Scaling group.

def mixedCluster : Cluster where
  nodes := [{ name := "ip-1", labels := (∅ : Labels).insert nodePoolLabel "dd-karpenter-obxiu" },
    { name := "ip-2", providerID := "aws:///us-east-1a/i-0a" }]
  nodePools := [{ name := "dd-karpenter-obxiu", name_ne_empty := by decide,
                  labels := (∅ : Labels).insert nodePoolDatadogCreatedLabel "true" }]
  names_nodup := by decide

def mixedServices : Services := fun _ op =>
  match op with
  | .buildClients | .validateAWSAccountConsistency _ => .ok ()
  | .findKarpenter => .ok (some "dd-karpenter")
  | .findClusterAutoscaler => .ok none
  | .listFargatePods => .ok []
  | .listNodes => .ok mixedCluster.nodes
  | .listDatadogNodePools =>
    .ok (mixedCluster.nodePools.filter fun np => np.CreatedByDatadog)
  | .describeAutoScalingInstances ids => .ok (ids.map fun id => ⟨some id, some "workers"⟩)
  | op => op.unavailable

theorem mixed_cluster_plans_are_safe :
    Observes mixedServices mixedCluster ∧ SafePlans mixedServices mixedCluster [] ∧
      ((prepare ⟨"prod", "", true, [], false, true, true, false, 1, 1⟩ mixedServices
        []).1.toOption.bind id).map Prepared.targets = some [⟨.asg, "workers", ["ip-2"]⟩] := by
  have hobserves : Observes mixedServices mixedCluster :=
    ⟨fun _ _ h => (Except.ok.inj h).symm, fun _ _ h => (Except.ok.inj h).symm⟩
  exact ⟨hobserves, plans_are_safe _ _ hobserves [], by decide +kernel⟩

end DatadogOperator.Autoscaling
