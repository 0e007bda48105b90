import DatadogOperator.Lib.Checked
import DatadogOperator.NodeAgent.Migration

/-!
# Orderly clusters

What holds of the node agents of one name between any two calls, whoever acts: pods a DaemonSet
controls are selected by it, and every pod that a DaemonSet has controlled can be found again,
by the name label of ExtendedDaemonSets or by its instance and component labels. Kubernetes
keeps that by itself; `Allowed` says which calls of the operator do.
-/

namespace DatadogOperator.NodeAgent

open Profiles hiding agentDeploymentComponentLabelKey
open Dependencies Workloads Interference

/-! ## Selectors and labels -/

theorem Agent.workloadName_ne_empty (agent : Agent) : agent.workloadName ≠ "" := by
  have hdefault : agent.getAgentName ≠ "" := by
    intro h
    have hlength := congrArg String.length h
    simp [Agent.getAgentName, defaultAgentResourceSuffix] at hlength
  unfold Agent.workloadName
  split
  · split_ifs with hne
    · exact hne
    · exact hdefault
  · exact hdefault

theorem Agent.selector_selects {agent : Agent} {labels : Labels} :
    agent.selector.selects labels = true ↔ Workloads.Carries labels agent.selector.matchLabels := by
  have hexpressions : agent.selector.matchExpressions = [] := rfl
  simp [LabelSelector.selects, hexpressions]

theorem Agent.selector_component (agent : Agent) :
    agent.selector.matchLabels.lookup agentDeploymentComponentLabelKey = some "agent" := by
  have hname : agentDeploymentComponentLabelKey ≠ agentDeploymentNameLabelKey := by decide
  have hinstance : agentDeploymentComponentLabelKey ≠ appKubernetesInstanceLabelKey := by decide
  unfold Agent.selector
  split_ifs
  · simp [Finmap.lookup_insert_of_ne _ hname, defaultAgentResourceSuffix]
  · simp [Finmap.lookup_insert_of_ne _ hinstance, defaultAgentResourceSuffix]

theorem Agent.selector_edsName (agent : Agent) :
    agent.selector.matchLabels.lookup extendedDaemonSetNameLabelKey = none := by
  have hcomponent : extendedDaemonSetNameLabelKey ≠ agentDeploymentComponentLabelKey := by decide
  have hname : extendedDaemonSetNameLabelKey ≠ agentDeploymentNameLabelKey := by decide
  have hinstance : extendedDaemonSetNameLabelKey ≠ appKubernetesInstanceLabelKey := by decide
  unfold Agent.selector
  split_ifs
  · simp [Finmap.lookup_insert_of_ne _ hname, Finmap.lookup_insert_of_ne _ hcomponent]
  · simp [Finmap.lookup_insert_of_ne _ hinstance, Finmap.lookup_insert_of_ne _ hcomponent]

theorem carries_union (h : Workloads.Carries labels wanted) :
    Workloads.Carries (labels ∪ extra) wanted := by
  rw [carries_iff] at h ⊢
  intro key value hvalue
  rw [Finmap.lookup_union, h key value hvalue, Option.some_or]

theorem carries_selectorLabels (template : Labels) :
    Workloads.Carries template (selectorLabels template) := by
  rw [carries_iff]
  intro key value hvalue
  unfold selectorLabels at hvalue
  rw [Finmap.lookup_filterKeys] at hvalue
  split_ifs at hvalue
  exact hvalue

theorem selectorLabels_edsName (template : Labels) :
    (selectorLabels template).lookup extendedDaemonSetNameLabelKey = none := by
  have hkeys : [appKubernetesInstanceLabelKey, agentDeploymentComponentLabelKey].contains
      extendedDaemonSetNameLabelKey = false := by decide
  unfold selectorLabels
  rw [Finmap.lookup_filterKeys, hkeys]
  rfl

theorem selectorLabels_ne_empty {agent : Agent}
    (h : agent.selector.selects template = true) : selectorLabels template ≠ ∅ := by
  have hcomponent := carries_iff.mp (Agent.selector_selects.mp h) _ _ agent.selector_component
  intro hempty
  have hlookup : (selectorLabels template).lookup agentDeploymentComponentLabelKey = some "agent" := by
    unfold selectorLabels
    rw [Finmap.lookup_filterKeys, hcomponent]
    simp [Annotations.get, hcomponent]
  rw [hempty] at hlookup
  cases hlookup

/-! ## The invariant -/

def Pod.ofDaemonSet (name : String) (p : Pod) : Bool := p.controller.any (·.isDaemonSet name)

/-- No workload other than the DaemonSet of that name controls the pod. -/
def Pod.free (name : String) (p : Pod) : Bool := p.controller.all (·.isDaemonSet name)

/-- The pod can be found again. -/
def Pod.Marked (name : String) (identity : Labels) (p : Pod) : Prop :=
  p.hasEDSLabel name = true ∨ (identity ≠ ∅ ∧ Workloads.Carries p.labels identity)

structure OfAgent (agent : Agent) (identity : Labels) (w : AgentDaemonSet) : Prop where
  name : w.name = agent.workloadName
  selector : w.spec.selector = agent.selector
  selects : agent.selector.selects w.spec.template.labels = true
  identified : identity ≠ ∅
  carries : Workloads.Carries w.spec.template.labels identity

structure OrderlyPod (agent : Agent) (identity : Labels) (p : Pod) : Prop where
  selected : p.ofDaemonSet agent.workloadName = true → agent.selector.selects p.labels = true
  marked : agent.workloadName ∈ p.daemonSets ∨
    (p.free agent.workloadName = true ∧ agent.selector.selects p.labels = true) →
      p.Marked agent.workloadName identity
  kept : agent.workloadName ∈ p.daemonSets → p.free agent.workloadName = true

/-- `identity` are the instance and component labels of the pod template. -/
structure Orderly (agent : Agent) (identity : Labels) (c : Cluster) : Prop where
  nodup : (c.pods.map (·.uid)).Nodup
  below : ∀ p ∈ c.pods, p.uid < c.nextUID
  pods : ∀ p ∈ c.pods, OrderlyPod agent identity p
  daemonSet : ∀ d, c.daemonSets agent.workloadName = some d → OfAgent agent identity d.object
  served : c.served = false → c.extendedDaemonSets agent.workloadName = none ∧
    ∀ rs ∈ c.replicaSets, rs.edsName ≠ agent.workloadName

theorem Orderly.eq_of_uid
    (hc : Orderly agent identity c) (hp : p ∈ c.pods) (hq : q ∈ c.pods) (h : p.uid = q.uid) : p = q :=
  List.inj_on_of_nodup_map hc.nodup hp hq h

/-! ## What Kubernetes does -/

inductive Comes (name : String) (c : Cluster) : Pod → Prop
  | stays {p : Pod} (hp : p ∈ c.pods) : Comes name c p
  | adopted {p : Pod} {d : Live AgentDaemonSet} (hp : p ∈ c.pods) (hd : c.daemonSets name = some d)
    (hnone : p.controller = none) (hselects : d.object.spec.selector.selects p.labels = true) :
    Comes name c { p with controller := d.ref name, daemonSets := name :: p.daemonSets }
  | released {p : Pod} (hp : p ∈ c.pods) (hours : p.isOthers name = false) :
    Comes name c { p with controller := none }
  | ofDaemonSet {d : Live AgentDaemonSet} (hd : c.daemonSets name = some d) (extra : Labels) :
    Comes name c
      { uid := c.nextUID, labels := d.object.spec.template.labels ∪ extra,
        controller := d.ref name, daemonSets := [name] }
  | ofReplicaSet {rs : ReplicaSet} (hrs : rs ∈ c.replicaSets) (hname : rs.edsName = name)
    (labels : Labels) :
    Comes name c
      { uid := c.nextUID, controller := rs.ref,
        labels := labels.insert extendedDaemonSetNameLabelKey name }
  | ofOthers {labels : Labels} {controller : ControllerRef}
    (hothers : ({ uid := 0, labels, controller := some controller } : Pod).isOthers name = true) :
    Comes name c { uid := c.nextUID, labels, controller := some controller }

variable {name : String} {c : Cluster} {p : Pod}

theorem mem_mapPod (h : p ∈ (c.mapPod uid f).pods) :
    (p ∈ c.pods ∧ p.uid ≠ uid) ∨ ∃ q ∈ c.pods, q.uid = uid ∧ p = f q := by
  obtain ⟨q, hq, rfl⟩ := List.mem_map.mp h
  split_ifs with huid
  · exact .inr ⟨q, hq, huid, rfl⟩
  · exact .inl ⟨hq, huid⟩

theorem mem_addPod (h : p ∈ (c.addPod q).pods) : p ∈ c.pods ∨ p = { q with uid := c.nextUID } := by
  rcases List.mem_cons.mp h with rfl | h
  · exact .inr rfl
  · exact .inl h

inductive Acts (name : String) (c : Cluster) : Cluster → Prop
  | addPod (q : Pod) (hq : Comes name c { q with uid := c.nextUID }) : Acts name c (c.addPod q)
  | mapPod (uid : Nat) (f : Pod → Pod) (huid : ∀ q, (f q).uid = q.uid)
    (hf : ∀ q ∈ c.pods, Comes name c (f q)) : Acts name c (c.mapPod uid f)
  | keepPods (keep : Pod → Bool) : Acts name c { c with pods := c.pods.filter keep }
  | addReplicaSet (rs : ReplicaSet) (hd : (c.extendedDaemonSets name).isSome = true) :
    Acts name c { c with replicaSets := rs :: c.replicaSets, nextUID := c.nextUID + 1 }
  | keepReplicaSets (keep : ReplicaSet → Bool) :
    Acts name c { c with replicaSets := c.replicaSets.filter keep }
  | dropDaemonSet (hd : (c.daemonSets name).any (·.deletionTimestamp) = true) :
    Acts name c (c.putDaemonSet name none)
  | dropExtendedDaemonSet (hd : (c.extendedDaemonSets name).any (·.deletionTimestamp) = true) :
    Acts name c (c.putExtendedDaemonSet name none)
  | configMaps (configMaps : String → Option String) : Acts name c { c with configMaps }

theorem interfere_acts (e : Env) : Acts name c (c.interfere name e) := by
  have hidle : Acts name c c := .configMaps c.configMaps
  cases e with
  | daemonSetPod extra =>
    simp only [Cluster.interfere]
    split
    · next d hd => exact .addPod _ (.ofDaemonSet hd extra)
    · exact hidle
  | adopt pod =>
    simp only [Cluster.interfere]
    split
    · next d hd =>
      refine .mapPod _ _ (fun q => by split_ifs <;> rfl) fun q hq => ?_
      split_ifs with hcond
      · exact .adopted hq hd hcond.1 hcond.2
      · exact .stays hq
    · exact hidle
  | replicaSet =>
    simp only [Cluster.interfere]
    split
    · next d hd => exact .addReplicaSet _ (by simp [hd])
    · exact hidle
  | replicaSetPod rs extra =>
    simp only [Cluster.interfere]
    split
    · next r hr =>
      have hname := List.find?_some hr
      simp only [Bool.and_eq_true, beq_iff_eq] at hname
      exact .addPod _ (.ofReplicaSet (List.mem_of_find?_eq_some hr) hname.2 _)
    · exact hidle
  | foreignPod labels controller =>
    simp only [Cluster.interfere]
    split_ifs with hothers
    · exact .addPod _ (.ofOthers hothers)
    · exact hidle
  | release pod =>
    refine .mapPod _ _ (fun q => by split_ifs <;> rfl) fun q hq => ?_
    split_ifs with hothers
    · exact .stays hq
    · exact .released hq (Bool.eq_false_iff.mpr hothers)
  | removePod pod => exact .keepPods _
  | removeReplicaSet rs => exact .keepReplicaSets _
  | removeDaemonSet =>
    simp only [Cluster.interfere]
    split_ifs with hd
    · exact .dropDaemonSet hd
    · exact hidle
  | removeExtendedDaemonSet =>
    simp only [Cluster.interfere]
    split_ifs with hd
    · exact .dropExtendedDaemonSet hd
    · exact hidle
  | configMap key content => exact .configMaps _

theorem map_uid_mapPod (hf : ∀ q, (f q).uid = q.uid) :
    (c.mapPod uid f).pods.map (·.uid) = c.pods.map (·.uid) := by
  unfold Cluster.mapPod
  rw [List.map_map]
  refine List.map_congr_left fun q _ => ?_
  simp only [Function.comp_apply]
  split_ifs
  · exact hf q
  · rfl

namespace Acts

variable {c' : Cluster} (ha : Acts name c c')
include ha

theorem comes (h : p ∈ c'.pods) : Comes name c p := by
  cases ha with
  | addPod q hq =>
    rcases mem_addPod h with hp | rfl
    · exact .stays hp
    · exact hq
  | mapPod uid f huid hf =>
    rcases mem_mapPod h with ⟨hp, -⟩ | ⟨q, hq, -, rfl⟩
    · exact .stays hp
    · exact hf q hq
  | keepPods => exact .stays (List.mem_filter.mp h).1
  | _ => exact .stays h

theorem daemonSets : c'.daemonSets name = c.daemonSets name ∨
    ((c.daemonSets name).any (·.deletionTimestamp) = true ∧ c'.daemonSets name = none) := by
  cases ha with
  | dropDaemonSet hd => exact .inr ⟨hd, by simp [Cluster.putDaemonSet]⟩
  | _ => exact .inl rfl

theorem extendedDaemonSets : c'.extendedDaemonSets name = c.extendedDaemonSets name ∨
    ((c.extendedDaemonSets name).any (·.deletionTimestamp) = true ∧
      c'.extendedDaemonSets name = none) := by
  cases ha with
  | dropExtendedDaemonSet hd => exact .inr ⟨hd, by simp [Cluster.putExtendedDaemonSet]⟩
  | _ => exact .inl rfl

theorem replicaSets (h : rs ∈ c'.replicaSets) :
    rs ∈ c.replicaSets ∨ (c.extendedDaemonSets name).isSome = true := by
  cases ha with
  | addReplicaSet _ hd => exact .inr hd
  | keepReplicaSets => exact .inl (List.mem_filter.mp h).1
  | _ => exact .inl h

theorem served : c'.served = c.served := by
  cases ha <;> rfl

theorem nextUID : c.nextUID ≤ c'.nextUID := by
  cases ha with
  | addPod | addReplicaSet => exact Nat.le_succ _
  | _ => exact le_refl _

theorem nodup (hnodup : (c.pods.map (·.uid)).Nodup) (hbelow : ∀ p ∈ c.pods, p.uid < c.nextUID) :
    (c'.pods.map (·.uid)).Nodup := by
  cases ha with
  | addPod q =>
    refine List.nodup_cons.mpr ⟨fun hmem => ?_, hnodup⟩
    obtain ⟨p, hp, heq⟩ := List.mem_map.mp hmem
    exact absurd heq (hbelow p hp).ne
  | mapPod uid f huid =>
    rw [map_uid_mapPod huid]
    exact hnodup
  | keepPods => exact hnodup.sublist (List.filter_sublist.map _)
  | _ => exact hnodup

theorem below (hbelow : ∀ p ∈ c.pods, p.uid < c.nextUID) : ∀ p ∈ c'.pods, p.uid < c'.nextUID := by
  intro p hp
  cases ha with
  | addPod q =>
    rcases mem_addPod hp with hp | rfl
    · exact (hbelow p hp).trans (Nat.lt_succ_self _)
    · exact Nat.lt_succ_self _
  | mapPod uid f huid =>
    rcases mem_mapPod hp with ⟨hp, -⟩ | ⟨q, hq, -, rfl⟩
    · exact hbelow p hp
    · rw [huid]
      exact hbelow q hq
  | keepPods => exact hbelow p (List.mem_filter.mp hp).1
  | addReplicaSet => exact (hbelow p hp).trans (Nat.lt_succ_self _)
  | _ => exact hbelow p hp

end Acts

variable {agent : Agent} {identity : Labels}

theorem Live.isDaemonSet_ref (d : Live AgentDaemonSet) : (d.ref name).isDaemonSet name = true := by
  simp [Live.ref, ControllerRef.isDaemonSet]

theorem ReplicaSet.isDaemonSet_ref (rs : ReplicaSet) : rs.ref.isDaemonSet name = false := by
  have hkind : (extendedDaemonSetReplicaSetKind == daemonSetKind) = false := by decide
  simp [ReplicaSet.ref, ControllerRef.isDaemonSet, hkind]

theorem Pod.free_or_labelled (h : p.isOthers name = false) :
    p.free name = true ∨ p.hasEDSLabel name = true := by
  unfold Pod.isOthers at h
  unfold Pod.free
  cases hcontroller : p.controller with
  | none => exact .inl rfl
  | some r =>
    rw [hcontroller] at h
    simp only [Bool.not_eq_false', Bool.or_eq_true, Bool.and_eq_true] at h
    rcases h with h | h
    · exact .inl (by simpa using h)
    · exact .inr h.2

theorem Pod.not_free_of_isOthers (h : p.isOthers name = true) : p.free name = false := by
  unfold Pod.isOthers at h
  unfold Pod.free
  cases hcontroller : p.controller with
  | none => simp [hcontroller] at h
  | some r =>
    simp only [hcontroller, Bool.not_eq_true', Bool.or_eq_false_iff] at h
    simpa using h.1

theorem Pod.ofDaemonSet_of_not_free (h : p.free name = false) : p.ofDaemonSet name = false := by
  unfold Pod.free at h
  unfold Pod.ofDaemonSet
  cases hcontroller : p.controller with
  | none => simp [hcontroller] at h
  | some r => simpa [hcontroller] using h

theorem Comes.orderly (hc : Orderly agent identity c) (h : Comes agent.workloadName c p) :
    OrderlyPod agent identity p := by
  cases h with
  | stays hp => exact hc.pods p hp
  | @adopted q d hq hd hnone hselects =>
    have hselects' : agent.selector.selects q.labels = true := by
      rw [← (hc.daemonSet d hd).selector]
      exact hselects
    have hfree : q.free agent.workloadName = true := by simp [Pod.free, hnone]
    refine ⟨fun _ => hselects', fun _ => (hc.pods q hq).marked (.inr ⟨hfree, hselects'⟩), fun _ => ?_⟩
    simp [Pod.free, d.isDaemonSet_ref]
  | @released q hq hours =>
    refine ⟨nofun, fun h => ?_, fun _ => rfl⟩
    rcases h with h | ⟨-, hselects⟩
    · exact (hc.pods q hq).marked (.inl h)
    · rcases Pod.free_or_labelled hours with hfree | hlabel
      · exact (hc.pods q hq).marked (.inr ⟨hfree, hselects⟩)
      · exact .inl hlabel
  | @ofDaemonSet d hd extra =>
    obtain ⟨-, -, hselects, hidentified, hcarries⟩ := hc.daemonSet d hd
    refine ⟨fun _ => ?_, fun _ => .inr ⟨hidentified, carries_union hcarries⟩, fun _ => ?_⟩
    · exact Agent.selector_selects.mpr (carries_union (Agent.selector_selects.mp hselects))
    · simp [Pod.free, d.isDaemonSet_ref]
  | @ofReplicaSet rs hrs hname labels =>
    refine ⟨fun h => ?_, fun _ => .inl ?_, nofun⟩
    · simp [Pod.ofDaemonSet, rs.isDaemonSet_ref] at h
    · simp [Pod.hasEDSLabel]
  | @ofOthers labels controller hothers =>
    have hfree := Pod.not_free_of_isOthers hothers
    refine ⟨fun h => ?_, fun h => ?_, nofun⟩
    · exact absurd h (Bool.eq_false_iff.mp (Pod.ofDaemonSet_of_not_free hfree))
    · rcases h with h | ⟨h, -⟩
      · cases h
      · exact absurd h (Bool.eq_false_iff.mp hfree)

theorem Orderly.interfere (hc : Orderly agent identity c) (e : Env) :
    Orderly agent identity (c.interfere agent.workloadName e) where
  nodup := (interfere_acts e).nodup hc.nodup hc.below
  below := (interfere_acts e).below hc.below
  pods _ hp := ((interfere_acts e).comes hp).orderly hc
  daemonSet d hd := by
    rcases (interfere_acts e).daemonSets with heq | ⟨-, heq⟩
    · exact hc.daemonSet d (heq.symm.trans hd)
    · cases heq.symm.trans hd
  served h := by
    obtain ⟨hnone, hrs⟩ := hc.served ((interfere_acts e).served.symm.trans h)
    constructor
    · rcases (interfere_acts e).extendedDaemonSets with heq | ⟨-, heq⟩
      · exact heq.trans hnone
      · exact heq
    · intro rs hmem
      rcases (interfere_acts e).replicaSets hmem with hmem | hsome
      · exact hrs rs hmem
      · rw [hnone] at hsome
        cases hsome

/-! ## What the operator does -/

/-- An ExtendedDaemonSet is created beside no DaemonSet, and finds the pods of the one before it
by its label. A DaemonSet is created beside no ExtendedDaemonSet and no replica set, and selects
the pods they left. Pods of other workloads are left alone. -/
def Respects (name : String) (c : Cluster) : Op → Prop
  | .write (.createExtendedDaemonSet _ w) =>
    c.daemonSets w.name = none ∧
      ∀ p ∈ c.pods, w.name ∈ p.daemonSets → p.hasEDSLabel w.name = true
  | .write (.createDaemonSet _ w) =>
    c.extendedDaemonSets w.name = none ∧ (∀ rs ∈ c.replicaSets, rs.edsName ≠ w.name) ∧
      ∀ p ∈ c.pods, p.controller = none → p.hasEDSLabel w.name = true →
        w.spec.selector.selects p.labels = true
  | .write (.patchPod uid _) | .write (.deletePod uid) =>
    ∀ p ∈ c.pods, p.uid = uid → p.free name = true
  | _ => True

/-- What the invariant needs beside it. -/
def Keeps (agent : Agent) (identity : Labels) (c : Cluster) : Op → Prop
  | .write (.createDaemonSet _ w) =>
    w.name = agent.workloadName ∧ w.spec.selector = agent.selector ∧
      selectorLabels w.spec.template.labels = identity
  | .write (.updateDaemonSet _ _ w) =>
    w.name = agent.workloadName ∧ Workloads.Carries w.spec.template.labels identity
  | .write (.patchPod uid patch) => ∀ p ∈ c.pods, p.uid = uid →
    ({ p with labels := patch ∪ p.labels }).Marked agent.workloadName identity ∧
      (agent.selector.selects p.labels = true → agent.selector.selects (patch ∪ p.labels) = true)
  | _ => True

def Allowed (agent : Agent) (identity : Labels) (c : Cluster) (op : Op) : Prop :=
  Respects agent.workloadName c op ∧ Keeps agent identity c op

theorem acceptsSelector_none {labels : Labels}
    (h : acceptsSelector none selector labels = true) : selector.selects labels = true := by
  simp only [acceptsSelector, Bool.and_eq_true] at h
  exact h.1.2

theorem acceptsSelector_some {labels : Labels}
    (h : acceptsSelector (some current) selector labels = true) :
    selector = current ∧ selector.selects labels = true := by
  simp only [acceptsSelector, Bool.and_eq_true, Option.all_some, beq_iff_eq] at h
  exact ⟨h.2.symm, h.1.2⟩

theorem Orderly.putDaemonSet (hc : Orderly agent identity c) (key : String)
    {d : Option (Live AgentDaemonSet)} (hd : ∀ live, d = some live → key = agent.workloadName →
      OfAgent agent identity live.object) :
    Orderly agent identity (c.putDaemonSet key d) where
  nodup := hc.nodup
  below := hc.below
  pods := hc.pods
  daemonSet live hlive := by
    simp only [Cluster.putDaemonSet, Function.update_apply] at hlive
    split_ifs at hlive with hkey
    · exact hd live hlive hkey.symm
    · exact hc.daemonSet live hlive
  served := hc.served

theorem Orderly.putExtendedDaemonSet (hc : Orderly agent identity c) (hserved : c.served = true)
    (key : String) (d : Option (Live ExtendedDaemonSet)) :
    Orderly agent identity (c.putExtendedDaemonSet key d) where
  nodup := hc.nodup
  below := hc.below
  pods := hc.pods
  daemonSet := hc.daemonSet
  served h := by cases hserved.symm.trans h

theorem Orderly.nextUID (hc : Orderly agent identity c) :
    Orderly agent identity { c with nextUID := c.nextUID + 1 } where
  nodup := hc.nodup
  below p hp := (hc.below p hp).trans (Nat.lt_succ_self _)
  pods := hc.pods
  daemonSet := hc.daemonSet
  served := hc.served

theorem Orderly.mapPod (hc : Orderly agent identity c) {f : Pod → Pod}
    (huid : ∀ q, (f q).uid = q.uid)
    (hf : ∀ q ∈ c.pods, q.uid = uid → OrderlyPod agent identity (f q)) :
    Orderly agent identity (c.mapPod uid f) where
  nodup := by
    rw [map_uid_mapPod huid]
    exact hc.nodup
  below p hp := by
    rcases mem_mapPod hp with ⟨hp, -⟩ | ⟨q, hq, -, rfl⟩
    · exact hc.below p hp
    · rw [huid]
      exact hc.below q hq
  pods p hp := by
    rcases mem_mapPod hp with ⟨hp, -⟩ | ⟨q, hq, hquid, rfl⟩
    · exact hc.pods p hp
    · exact hf q hq hquid
  daemonSet := hc.daemonSet
  served := hc.served

theorem found_ok {α : Type} {x : Option α} {a : α} (h : found x = .ok a) : x = some a := by
  cases x with
  | none => cases h
  | some b => cases h; rfl

theorem whenServed_ok {α : Type} {x : Except ClientError α} {a : α} (h : c.whenServed x = .ok a) :
    c.served = true ∧ x = .ok a := by
  unfold Cluster.whenServed at h
  split_ifs at h with hserved
  exact ⟨hserved, h⟩

theorem createDaemonSet_ok {w : AgentDaemonSet} {c' : Cluster}
    (h : c.createDaemonSet ddai w = .ok c') :
    daemonsetSchema.accepts none w.spec = true ∧ ∃ live : Live AgentDaemonSet, live.object = w ∧
      c' = { c.putDaemonSet w.name (some live) with nextUID := c.nextUID + 1 } := by
  unfold Cluster.createDaemonSet at h
  split_ifs at h with hcond
  rw [not_or, Bool.not_eq_false] at hcond
  cases h
  exact ⟨hcond.2, _, rfl, rfl⟩

theorem updateDaemonSet_ok {uid : Nat} {refs : List OwnerReference}
    {c' : Cluster} (h : c.updateDaemonSet uid refs w = .ok c') :
    ∃ current live : Live AgentDaemonSet, c.daemonSets w.name = some current ∧
      daemonsetSchema.accepts (some current.object.spec) w.spec = true ∧ live.object = w ∧
        c' = c.putDaemonSet w.name (some live) := by
  unfold Cluster.updateDaemonSet at h
  obtain ⟨current, hcurrent, h⟩ := Checked.bind_ok h
  split_ifs at h with hcond
  rw [not_or, Bool.not_eq_false] at hcond
  cases h
  exact ⟨current, _, found_ok hcurrent, hcond.2, rfl, rfl⟩

theorem deleteDaemonSet_ok {key : String} {propagation : Propagation}
    (h : c.deleteDaemonSet key propagation = .ok c') :
    ∃ d : Option (Live AgentDaemonSet), c' = c.putDaemonSet key d ∧ ∀ live, d = some live →
        ∃ current, c.daemonSets key = some current ∧ live.object = current.object := by
  unfold Cluster.deleteDaemonSet at h
  obtain ⟨current, hcurrent, h⟩ := Checked.bind_ok h
  cases propagation with
  | background =>
    cases h
    exact ⟨none, rfl, nofun⟩
  | orphan =>
    cases h
    refine ⟨_, rfl, fun live hlive => ⟨current, found_ok hcurrent, ?_⟩⟩
    cases hlive
    rfl

theorem deleteExtendedDaemonSet_ok {propagation : Propagation} {c' : Cluster}
    (h : c.deleteExtendedDaemonSet key propagation = .ok c') :
    ∃ d, c' = c.putExtendedDaemonSet key d := by
  unfold Cluster.deleteExtendedDaemonSet at h
  obtain ⟨current, -, h⟩ := Checked.bind_ok h
  cases propagation <;> (cases h; exact ⟨_, rfl⟩)

theorem Orderly.change (hc : Orderly agent identity c) {change : Change}
    (hallowed : Allowed agent identity c (.write change)) {c' : Cluster}
    (h : c.change change = .ok c') : Orderly agent identity c' := by
  cases change with
  | createDaemonSet ddai w =>
    obtain ⟨-, hname, hselector, hidentity⟩ := hallowed
    obtain ⟨haccepts, live, hlive, rfl⟩ := createDaemonSet_ok h
    have hselects : agent.selector.selects w.spec.template.labels = true := by
      rw [← hselector]
      exact acceptsSelector_none haccepts
    refine (hc.putDaemonSet w.name fun live' hlive' _ => ?_).nextUID
    cases hlive'
    rw [hlive]
    exact ⟨hname, hselector, hselects, hidentity ▸ selectorLabels_ne_empty hselects,
      hidentity ▸ carries_selectorLabels _⟩
  | updateDaemonSet uid refs w =>
    obtain ⟨-, hname, hcarries⟩ := hallowed
    obtain ⟨current, live, hcurrent, haccepts, hlive, rfl⟩ := updateDaemonSet_ok h
    rw [hname] at hcurrent
    obtain ⟨hselector, hselects⟩ := acceptsSelector_some haccepts
    have hold := hc.daemonSet current hcurrent
    have hselector : w.spec.selector = agent.selector := hselector.trans hold.selector
    refine hc.putDaemonSet w.name fun live' hlive' _ => ?_
    cases hlive'
    rw [hlive]
    exact ⟨hname, hselector, hselector ▸ hselects, hold.identified, hcarries⟩
  | patchDaemonSetOwners key refs =>
    obtain ⟨current, hcurrent, h⟩ := Checked.bind_ok h
    cases h
    refine hc.putDaemonSet key fun live hlive hkey => ?_
    cases hlive
    exact hc.daemonSet current (hkey ▸ found_ok hcurrent)
  | deleteDaemonSet key propagation =>
    obtain ⟨d, rfl, hd⟩ := deleteDaemonSet_ok h
    refine hc.putDaemonSet key fun live hlive hkey => ?_
    obtain ⟨current, hcurrent, heq⟩ := hd live hlive
    rw [heq]
    exact hc.daemonSet current (hkey ▸ hcurrent)
  | createExtendedDaemonSet ddai w =>
    obtain ⟨hserved, h⟩ := whenServed_ok h
    unfold Cluster.createExtendedDaemonSet at h
    split_ifs at h
    cases h
    exact (hc.putExtendedDaemonSet hserved _ _).nextUID
  | updateExtendedDaemonSet uid refs w =>
    obtain ⟨hserved, h⟩ := whenServed_ok h
    obtain ⟨current, -, h⟩ := Checked.bind_ok h
    split_ifs at h
    cases h
    exact hc.putExtendedDaemonSet hserved _ _
  | patchExtendedDaemonSetOwners key refs =>
    obtain ⟨hserved, h⟩ := whenServed_ok h
    obtain ⟨current, -, h⟩ := Checked.bind_ok h
    cases h
    exact hc.putExtendedDaemonSet hserved _ _
  | deleteExtendedDaemonSet key propagation =>
    obtain ⟨hserved, h⟩ := whenServed_ok h
    obtain ⟨d, rfl⟩ := deleteExtendedDaemonSet_ok h
    exact hc.putExtendedDaemonSet hserved _ _
  | deleteReplicaSet uid =>
    obtain ⟨hserved, h⟩ := whenServed_ok h
    unfold Cluster.deleteReplicaSet at h
    split_ifs at h
    cases h
    exact ⟨hc.nodup, hc.below, hc.pods, hc.daemonSet, fun h => nomatch hserved.symm.trans h⟩
  | patchPod uid patch =>
    obtain ⟨-, hkeeps⟩ := hallowed
    simp only [Cluster.change, Cluster.patchPod] at h
    split_ifs at h
    cases h
    refine hc.mapPod (fun _ => rfl) fun q hq huid => ?_
    obtain ⟨hmarked, hselects⟩ := hkeeps q hq huid
    exact ⟨fun h => hselects ((hc.pods q hq).selected h), fun _ => hmarked, (hc.pods q hq).kept⟩
  | deletePod uid =>
    simp only [Cluster.change, Cluster.deletePod] at h
    split_ifs at h
    cases h
    exact hc.mapPod (fun _ => rfl) fun q hq _ =>
      ⟨(hc.pods q hq).selected, (hc.pods q hq).marked, (hc.pods q hq).kept⟩

theorem perform_cases (outcome : Outcome) (op : Op) : (c.perform outcome op).2 = c ∨
      ∃ change, op = .write change ∧ c.change change = .ok (c.perform outcome op).2 := by
  have happly : (c.apply op).2 = c ∨
      ∃ change, op = .write change ∧ c.change change = .ok (c.apply op).2 := by
    cases op with
    | write change =>
      simp only [Cluster.apply]
      cases h : c.change change with
      | ok c' => exact .inr ⟨change, rfl, h⟩
      | error e => exact .inl rfl
    | getDaemonSet | getExtendedDaemonSet | listReplicaSets | listPods | getConfigMap =>
      exact .inl rfl
  cases outcome with
  | answered | lost => exact happly
  | refused => exact .inl rfl

def protocol (agent : Agent) (identity : Labels) : Protocol (cluster agent.workloadName) where
  Inv := Orderly agent identity
  Allowed := Allowed agent identity
  interfere _ e hc := hc.interfere e
  perform c outcome op hc hallowed := by
    rcases perform_cases (c := c) outcome op with heq | ⟨change, rfl, heq⟩
    · exact heq.symm ▸ hc
    · exact hc.change hallowed heq

end DatadogOperator.NodeAgent
