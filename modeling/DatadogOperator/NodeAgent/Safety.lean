import DatadogOperator.NodeAgent.Orderly

/-!
# Migrations are safe

Whatever Kubernetes does between two calls, and wherever a reconcile fails or is stopped, the
operator creates a DaemonSet or an ExtendedDaemonSet only when the other is gone and its pods
can be taken over, and it leaves the pods of other workloads alone.
-/

namespace DatadogOperator.NodeAgent

open Profiles hiding agentDeploymentComponentLabelKey
open Dependencies Workloads Interference

section
variable {agent : Agent} {identity : Labels} {P R : Cluster → Prop} {α : Type}

/-! ## Calls -/

theorem stable_true : (protocol agent identity).Stable fun _ => True := fun _ _ _ h => h

theorem triple_getDaemonSet (hP : (protocol agent identity).Stable P) (key : String) :
    (protocol agent identity).Triple P (getDaemonSet key) fun answer c =>
      P c ∧ match answer with
        | .ok d => c.daemonSets key = some d
        | .error e => e = .notFound → c.daemonSets key = none := by
  refine .call hP (fun _ _ _ => ⟨trivial, trivial⟩) fun c outcome _ hp => ?_
  cases outcome with
  | answered =>
    refine ⟨hp, ?_⟩
    simp only [cluster, Cluster.perform, Cluster.apply]
    cases h : c.daemonSets key with
    | some d => rfl
    | none => exact fun _ => rfl
  | refused | lost => exact ⟨hp, fun h => by cases h⟩

theorem triple_getExtendedDaemonSet (hP : (protocol agent identity).Stable P) :
    (protocol agent identity).Triple P (getExtendedDaemonSet agent.workloadName) fun answer c =>
      P c ∧ match answer with
        | .ok d => c.extendedDaemonSets agent.workloadName = some d
        | .error e => resourceIsAbsent e = true →
            c.extendedDaemonSets agent.workloadName = none := by
  refine .call hP (fun _ _ _ => ⟨trivial, trivial⟩) fun c outcome hc hp => ?_
  cases outcome with
  | answered =>
    refine ⟨hp, ?_⟩
    simp only [cluster, Cluster.perform, Cluster.apply, Cluster.whenServed]
    cases hserved : c.served with
    | false => exact fun _ => (hc.served hserved).1
    | true =>
      cases h : c.extendedDaemonSets agent.workloadName with
      | some d => rfl
      | none => exact fun _ => rfl
  | refused | lost => exact ⟨hp, fun h => by cases h⟩

theorem triple_listReplicaSets (hP : (protocol agent identity).Stable P) :
    (protocol agent identity).Triple P (listReplicaSets agent.workloadName) fun replicaSets c =>
      P c ∧ (replicaSets = [] → ∀ rs ∈ c.replicaSets, rs.edsName ≠ agent.workloadName) := by
  refine .bind (Q := fun (answer : Except ClientError (List ReplicaSet)) c =>
    P c ∧ (answer = .ok [] ∨ (∃ e, answer = .error e ∧ resourceIsAbsent e = true) →
      ∀ rs ∈ c.replicaSets, rs.edsName ≠ agent.workloadName)) ?_ ?_
  · refine .call hP (fun _ _ _ => ⟨trivial, trivial⟩) fun c outcome hc hp => ?_
    cases outcome with
    | answered =>
      refine ⟨hp, ?_⟩
      simp only [cluster, Cluster.perform, Cluster.apply, Cluster.whenServed]
      cases hserved : c.served with
      | false => exact fun _ => (hc.served hserved).2
      | true =>
        rintro (hempty | ⟨_, ⟨⟩, _⟩) rs hrs hname
        have := List.filter_eq_nil_iff.mp (Except.ok.inj hempty) rs hrs
        simp [hname] at this
    | refused | lost =>
      refine ⟨hp, ?_⟩
      rintro (h | ⟨_, ⟨⟩, ⟨⟩⟩)
      cases h
  · intro answer
    cases answer with
    | ok replicaSets =>
      exact .pure fun _ _ h => ⟨h.1, fun hempty => h.2 (.inl (by rw [hempty]))⟩
    | error e =>
      dsimp only
      split_ifs with habsent
      · exact .pure fun _ _ h => ⟨h.1, fun _ => h.2 (.inr ⟨e, rfl, habsent⟩)⟩
      · exact .fail

theorem triple_listPods (hP : (protocol agent identity).Stable P) (selector : LabelSelector) :
    (protocol agent identity).Triple P (listPods selector) fun answer c =>
      P c ∧ ∀ pods, answer = .ok pods → pods = c.pods.filter (selector.selects ·.labels) := by
  refine .call hP (fun _ _ _ => ⟨trivial, trivial⟩) fun c outcome _ hp => ?_
  cases outcome with
  | answered =>
    refine ⟨hp, fun pods h => ?_⟩
    cases h
    rfl
  | refused | lost => exact ⟨hp, nofun⟩

theorem triple_orFail (hx : (protocol agent identity).Triple P x Q) :
    (protocol agent identity).Triple P (x >>= orFail) fun a => Q (.ok a) := by
  refine hx.bind fun answer => ?_
  cases answer with
  | ok a => exact .pure fun _ _ h => h
  | error e => exact .fail

section
variable {change : Change} (hP : (protocol agent identity).Stable P)
  (hallowed : ∀ c, Orderly agent identity c → P c → Allowed agent identity c (.write change))
  (hchange : ∀ c c', Orderly agent identity c → P c → c.change change = .ok c' → R c')
include hP hallowed hchange

theorem triple_write : (protocol agent identity).Triple P (write change) fun answer c =>
      match answer with
      | .ok _ => R c
      | .error e => e = .notFound → P c := by
  refine .call hP hallowed fun c outcome hc hp => ?_
  cases outcome with
  | answered =>
    simp only [cluster, Cluster.perform, Cluster.apply]
    cases h : c.change change with
    | ok c' => exact hchange c c' hc hp h
    | error e => exact fun _ => hp
  | refused | lost => rintro ⟨⟩

theorem triple_write_orFail :
    (protocol agent identity).Triple P (write change >>= orFail) fun _ => R :=
  triple_orFail (triple_write hP hallowed hchange)

theorem triple_write_ignoreNotFound (hsame : ∀ c, P c → R c) :
    (protocol agent identity).Triple P (write change >>= ignoreNotFound) fun _ => R := by
  refine (triple_write hP hallowed hchange).bind fun answer => ?_
  rcases answer with (_ | _ | _ | _) | _
  · exact .pure fun c _ h => hsame c (h rfl)
  · exact .fail
  · exact .fail
  · exact .fail
  · exact .pure fun _ _ h => h

end

theorem triple_done {a : α} :
    (protocol agent identity).Triple P (pure a : Reconcile α) fun _ _ => True :=
  Protocol.Triple.pure fun _ _ _ => trivial

theorem triple_migrating : (protocol agent identity).Triple P
    (pure (true, workloadMigrationResult) : Reconcile (Bool × Result))
      fun r c => r.1 = false → R c :=
  Protocol.Triple.pure fun _ _ _ => nofun

theorem triple_write_then {Q : α → Cluster → Prop}
    (hallowed : ∀ c, Orderly agent identity c → Allowed agent identity c (.write change))
    (hk : (protocol agent identity).Triple (fun _ => True) (k ()) Q) :
    (protocol agent identity).Triple P (write change >>= fun answer => orFail answer >>= k) Q := by
  rw [← bind_assoc]
  exact .bind ((triple_write_orFail stable_true (fun c hc _ => hallowed c hc)
    fun _ _ _ _ _ => trivial).always) fun _ => hk

theorem triple_delete_then {Q : α → Cluster → Prop}
    (hallowed : ∀ c, Allowed agent identity c (.write change))
    (hk : (protocol agent identity).Triple (fun _ => True) (k ()) Q) :
    (protocol agent identity).Triple P
      (write change >>= fun answer => ignoreNotFound answer >>= k) Q := by
  rw [← bind_assoc]
  exact .bind ((triple_write_ignoreNotFound stable_true (fun c _ _ => hallowed c)
    (fun _ _ _ _ _ => trivial) fun _ h => h).always) fun _ => hk

/-! ## Patches of labels -/

theorem matchLabels_selects :
    (LabelSelector.mk wanted []).selects labels = true ↔ Workloads.Carries labels wanted := by
  simp [LabelSelector.selects]

theorem edsPods_selects {p : Pod} : (edsPods name).selects p.labels = p.hasEDSLabel name := by
  rw [Bool.eq_iff_iff, show edsPods name = ⟨(edsPods name).matchLabels, []⟩ from rfl,
    matchLabels_selects, carries_iff]
  simp only [edsPods, Pod.hasEDSLabel, beq_iff_eq]
  constructor
  · intro h
    exact h _ _ (Finmap.lookup_insert _)
  · intro h key value hvalue
    by_cases hkey : key = extendedDaemonSetNameLabelKey
    · subst hkey
      rw [Finmap.lookup_insert] at hvalue
      cases hvalue
      exact h
    · rw [Finmap.lookup_insert_of_ne _ hkey] at hvalue
      cases hvalue

theorem lookup_mergeFrom (old new : Labels) (key : String) : (mergeFrom old new).lookup key =
      if new.lookup key = old.lookup key then none else new.lookup key := by
  unfold mergeFrom
  rw [Finmap.lookup_filterKeys]
  by_cases h : new.lookup key = old.lookup key <;> simp [h]

def edsPatch (labels : Labels) (edsName : String) : Labels :=
  mergeFrom labels (labels.insert extendedDaemonSetNameLabelKey edsName)

theorem lookup_edsPatch (h : labels.lookup extendedDaemonSetNameLabelKey ≠ some name) :
    (edsPatch labels name).lookup extendedDaemonSetNameLabelKey = some name := by
  unfold edsPatch
  rw [lookup_mergeFrom, Finmap.lookup_insert, if_neg h.symm]

theorem lookup_edsPatch_of_ne
    (h : key ≠ extendedDaemonSetNameLabelKey) : (edsPatch labels name).lookup key = none := by
  unfold edsPatch
  rw [lookup_mergeFrom, Finmap.lookup_insert_of_ne _ h, if_pos rfl]

theorem carries_patch (h : Workloads.Carries labels wanted)
    (hpatch : ∀ key value, patch.lookup key = some value → wanted.lookup key = some value ∨
      wanted.lookup key = none) : Workloads.Carries (patch ∪ labels) wanted := by
  rw [carries_iff] at h ⊢
  intro key value hvalue
  rw [Finmap.lookup_union]
  cases hlookup : patch.lookup key with
  | none => exact h key value hvalue
  | some other =>
    rcases hpatch key other hlookup with hwanted | hwanted
    · rw [hvalue] at hwanted
      exact hwanted.symm
    · rw [hvalue] at hwanted
      cases hwanted

theorem selects_edsPatch (h : agent.selector.selects labels = true) :
    agent.selector.selects (edsPatch patched name ∪ labels) = true := by
  rw [Agent.selector_selects] at h ⊢
  refine carries_patch h fun key value hvalue => .inr ?_
  by_cases hkey : key = extendedDaemonSetNameLabelKey
  · subst hkey
    exact agent.selector_edsName
  · rw [lookup_edsPatch_of_ne hkey] at hvalue
    cases hvalue

theorem lookup_selectorPatch (h : (mergeFrom labels (wanted ∪ labels)).lookup key = some value) :
    wanted.lookup key = some value := by
  rw [lookup_mergeFrom, Finmap.lookup_union] at h
  cases hwanted : wanted.lookup key with
  | none => simp [hwanted] at h
  | some other =>
    simp only [hwanted, Option.some_or] at h
    split_ifs at h
    exact h

/-! ## Listed pods -/

/-- What is still known of a pod that was listed. -/
def Listed (name : String) (p : Pod) (c : Cluster) : Prop :=
  p.uid < c.nextUID ∧ ∀ q ∈ c.pods, q.uid = p.uid →
    (p.hasEDSLabel name = true → q.hasEDSLabel name = true) ∧
      (p.free name = true → q.free name = true)

/-- Pods with that number have the label. -/
def Labelled (name : String) (uid : Nat) (c : Cluster) : Prop :=
  uid < c.nextUID ∧ ∀ q ∈ c.pods, q.uid = uid → q.hasEDSLabel name = true

/-- The DaemonSet is gone. Each of its pods has the label or is to get it. -/
def Left (name : String) (todo : List Pod) (c : Cluster) : Prop :=
  c.daemonSets name = none ∧ ∀ q ∈ c.pods, name ∈ q.daemonSets →
    q.hasEDSLabel name = true ∨ ∃ p ∈ todo, p.uid = q.uid ∧ p.free name = true

theorem listed_of_mem (hc : Orderly agent identity c) (hp : p ∈ c.pods) :
    Listed agent.workloadName p c := by
  refine ⟨hc.below p hp, fun q hq huid => ?_⟩
  obtain rfl := hc.eq_of_uid hq hp huid
  exact ⟨id, id⟩

theorem Comes.before (h : Comes name c p) (hlt : p.uid < c.nextUID) : ∃ q ∈ c.pods, q.uid = p.uid ∧
      p.hasEDSLabel name = q.hasEDSLabel name ∧ (q.free name = true → p.free name = true) := by
  cases h with
  | stays hp => exact ⟨p, hp, rfl, rfl, id⟩
  | @adopted q d hq hd hnone hselects =>
    exact ⟨q, hq, rfl, rfl, fun _ => by simp [Pod.free, d.isDaemonSet_ref]⟩
  | @released q hq hours => exact ⟨q, hq, rfl, rfl, fun _ => rfl⟩
  | ofDaemonSet | ofReplicaSet | ofOthers => exact absurd hlt (lt_irrefl _)

theorem stable_listed (p : Pod) :
    (protocol agent identity).Stable (Listed agent.workloadName p) := by
  rintro c e - ⟨hlt, h⟩
  refine ⟨hlt.trans_le (interfere_acts e).nextUID, fun q hq huid => ?_⟩
  obtain ⟨q', hq', huid', hlabel, hfree⟩ := ((interfere_acts e).comes hq).before (huid ▸ hlt)
  obtain ⟨hl, hf⟩ := h q' hq' (huid'.trans huid)
  exact ⟨fun hp => hlabel.trans (hl hp), fun hp => hfree (hf hp)⟩

theorem stable_daemonSets_none :
    (protocol agent identity).Stable fun c => c.daemonSets agent.workloadName = none := by
  intro c e _ h
  rcases (interfere_acts e).daemonSets with heq | ⟨-, heq⟩
  · exact heq.trans h
  · exact heq

theorem stable_left (todo : List Pod) :
    (protocol agent identity).Stable (Left agent.workloadName todo) := by
  rintro c e hc ⟨hnone, h⟩
  refine ⟨stable_daemonSets_none c e hc hnone, fun q hq hmem => ?_⟩
  cases (interfere_acts e).comes hq with
  | stays hp => exact h q hp hmem
  | @released p hp hours => exact h p hp hmem
  | adopted _ hd => cases hnone.symm.trans hd
  | ofDaemonSet hd => cases hnone.symm.trans hd
  | ofReplicaSet => cases hmem
  | ofOthers => cases hmem

theorem stable_forall_listed (pods : List Pod) :
    (protocol agent identity).Stable fun c => ∀ p ∈ pods, Listed agent.workloadName p c :=
  fun c e hc h p hp => stable_listed p c e hc (h p hp)

/-- A change of single pods that takes no label and no controller away. -/
structure Gentle (name : String) (f : Pod → Pod) : Prop where
  uid : ∀ q, (f q).uid = q.uid
  label : ∀ q, q.hasEDSLabel name = true → (f q).hasEDSLabel name = true
  controller : ∀ q, (f q).controller = q.controller
  daemonSets : ∀ q, (f q).daemonSets = q.daemonSets

theorem gentle_patch
    (hpatch : ∀ value, patch.lookup extendedDaemonSetNameLabelKey = some value → value = name) :
    Gentle name fun q => { q with labels := patch ∪ q.labels } := by
  refine ⟨fun _ => rfl, fun q h => ?_, fun _ => rfl, fun _ => rfl⟩
  simp only [Pod.hasEDSLabel, beq_iff_eq, Finmap.lookup_union] at h ⊢
  cases hlookup : patch.lookup extendedDaemonSetNameLabelKey with
  | none => exact h
  | some value => rw [hpatch value hlookup, Option.some_or]

theorem gentle_delete (name : String) : Gentle name fun q => { q with deletionTimestamp := true } :=
  ⟨fun _ => rfl, fun _ => id, fun _ => rfl, fun _ => rfl⟩

theorem Listed.mapPod (hf : Gentle name f)
    (h : Listed name p c) (uid : Nat) : Listed name p (c.mapPod uid f) := by
  refine ⟨h.1, fun q hq huid => ?_⟩
  rcases mem_mapPod hq with ⟨hq, -⟩ | ⟨q, hmem, -, rfl⟩
  · exact h.2 q hq huid
  · obtain ⟨hlabel, hfree⟩ := h.2 q hmem ((hf.uid q).symm.trans huid)
    refine ⟨fun hp => hf.label q (hlabel hp), fun hp => ?_⟩
    rw [Pod.free, hf.controller]
    exact hfree hp

theorem Left.mapPod
    (hf : Gentle name f) (h : Left name todo c) (uid : Nat) : Left name todo (c.mapPod uid f) := by
  refine ⟨h.1, fun q hq hleft => ?_⟩
  rcases mem_mapPod hq with ⟨hq, -⟩ | ⟨q, hmem, -, rfl⟩
  · exact h.2 q hq hleft
  · rw [hf.daemonSets] at hleft
    rw [hf.uid]
    exact (h.2 q hmem hleft).imp_left (hf.label q)

theorem patchPod_ok {c c' : Cluster} {patch : Labels}
    (h : c.change (.patchPod uid patch) = .ok c') :
    c' = c.mapPod uid fun q => { q with labels := patch ∪ q.labels } := by
  simp only [Cluster.change, Cluster.patchPod] at h
  split_ifs at h
  cases h
  rfl

theorem deletePod_ok {c c' : Cluster} (h : c.change (.deletePod uid) = .ok c') :
    c' = c.mapPod uid fun q => { q with deletionTimestamp := true } := by
  simp only [Cluster.change, Cluster.deletePod] at h
  split_ifs at h
  cases h
  rfl

/-! ## Labelling pods -/

theorem triple_setEDSPodLabel {pod : Pod}
    (hfree : pod.free agent.workloadName = true) (hA : (protocol agent identity).Stable A)
    (hgentle : ∀ c f, Gentle agent.workloadName f → A c → A (c.mapPod pod.uid f)) :
    (protocol agent identity).Triple (fun c => Listed agent.workloadName pod c ∧ A c)
      (setEDSPodLabel pod agent.workloadName)
      fun _ c => Labelled agent.workloadName pod.uid c ∧ A c := by
  unfold setEDSPodLabel
  split_ifs with hget
  · have hlabel : pod.hasEDSLabel agent.workloadName = true := by
      unfold Annotations.get at hget
      cases hlookup : pod.labels.lookup extendedDaemonSetNameLabelKey with
      | none =>
        rw [hlookup] at hget
        exact absurd hget.symm agent.workloadName_ne_empty
      | some value =>
        rw [hlookup] at hget
        simpa [Pod.hasEDSLabel, hlookup] using hget
    exact .pure fun c _ h =>
      ⟨⟨h.1.1, fun q hq huid => (h.1.2 q hq huid).1 hlabel⟩, h.2⟩
  · have hlookup : pod.labels.lookup extendedDaemonSetNameLabelKey ≠ some agent.workloadName := by
      intro h
      exact hget (by simp [Annotations.get, h])
    have hnew := lookup_edsPatch hlookup
    have hpatch : ∀ q : Pod, ({ q with
        labels := edsPatch pod.labels agent.workloadName ∪ q.labels } : Pod).hasEDSLabel
          agent.workloadName = true := by
      intro q
      simp [Pod.hasEDSLabel, Finmap.lookup_union, hnew]
    have hsame : ∀ value, (edsPatch pod.labels agent.workloadName).lookup
        extendedDaemonSetNameLabelKey = some value → value = agent.workloadName := by
      intro value hvalue
      exact Option.some.inj (hvalue.symm.trans hnew)
    refine triple_write_orFail ((stable_listed pod).and hA) ?_ ?_
    · intro c _ h
      refine ⟨fun q hq huid => (h.1.2 q hq huid).2 hfree, fun q _ _ => ⟨.inl (hpatch q), ?_⟩⟩
      exact fun hselects => selects_edsPatch hselects
    · intro c c' _ h hok
      obtain rfl := patchPod_ok hok
      refine ⟨⟨h.1.1, fun q hq huid => ?_⟩, hgentle c _ (gentle_patch hsame) h.2⟩
      rcases mem_mapPod hq with ⟨-, hne⟩ | ⟨q, -, -, rfl⟩
      · exact absurd huid hne
      · exact hpatch q

theorem triple_labelDaemonSetPodsForEDS (hname : d.object.name = agent.workloadName) :
    (protocol agent identity).Triple (fun _ => True)
      (labelDaemonSetPodsForEDS d agent.workloadName) fun _ _ => True := by
  unfold labelDaemonSetPodsForEDS
  cases labelSelectorAsSelector d.object.spec.selector with
  | error e => exact Protocol.Triple.fail
  | ok selector =>
    refine Protocol.Triple.bind (Q := fun s _ => s = selector)
      (Protocol.Triple.pure fun _ _ _ => rfl) fun s => ?_
    refine Protocol.Triple.bind
      (Q := fun (pods : List Pod) c => ∀ p ∈ pods, Listed agent.workloadName p c)
      ((triple_orFail (triple_listPods stable_true s)).weaken
        (fun _ _ _ => trivial) ?_) fun pods => ?_
    · rintro pods c hc ⟨-, hpods⟩ p hp
      rw [hpods pods rfl] at hp
      exact listed_of_mem hc (List.mem_filter.mp hp).1
    · refine (Protocol.Triple.forM (J := fun todo c => ∀ p ∈ todo, Listed agent.workloadName p c)
        fun pod todo => ?_).weaken (fun _ _ h => h) fun _ _ _ _ => trivial
      split_ifs with hcontroller
      · have hfree : pod.free agent.workloadName = true := by
          simp [Pod.free, hcontroller, hname, d.isDaemonSet_ref]
        refine (triple_setEDSPodLabel hfree (stable_forall_listed todo) ?_).weaken ?_ ?_
        · exact fun c f hf h p hp => (h p hp).mapPod hf _
        · exact fun c _ h => ⟨h pod (.head _), fun p hp => h p (.tail _ hp)⟩
        · exact fun _ c _ h => h.2
      · exact Protocol.Triple.pure fun c _ h p hp => h p (.tail _ hp)

theorem Left.tail (h : Left name (p :: todo) c) (hp : p.free name = true → Labelled name p.uid c) :
    Left name todo c := by
  refine ⟨h.1, fun q hq hmem => ?_⟩
  rcases h.2 q hq hmem with hlabel | ⟨p', hp', huid, hfree⟩
  · exact .inl hlabel
  · rcases List.mem_cons.mp hp' with rfl | hp'
    · exact .inl ((hp hfree).2 q hq huid.symm)
    · exact .inr ⟨p', hp', huid, hfree⟩

theorem left_of_listed (hc : Orderly agent identity c)
    (hnone : c.daemonSets agent.workloadName = none) :
    Left agent.workloadName
      (c.pods.filter ((LabelSelector.mk identity []).selects ·.labels)) c := by
  refine ⟨hnone, fun q hq hmem => ?_⟩
  rcases (hc.pods q hq).marked (.inl hmem) with hlabel | ⟨-, hcarries⟩
  · exact .inl hlabel
  · exact .inr ⟨q, List.mem_filter.mpr ⟨hq, matchLabels_selects.mpr hcarries⟩, rfl,
      (hc.pods q hq).kept hmem⟩

theorem triple_labelOrphanedDaemonSetPodsForEDS (hname : eds.name = agent.workloadName)
    (hidentity : selectorLabels eds.spec.template.labels = identity) :
    (protocol agent identity).Triple (fun c => c.daemonSets agent.workloadName = none)
      (labelOrphanedDaemonSetPodsForEDS eds) fun _ => Left agent.workloadName [] := by
  unfold labelOrphanedDaemonSetPodsForEDS
  rw [hidentity, hname]
  dsimp only
  split_ifs with hempty
  · refine Protocol.Triple.pure fun c hc hnone => ⟨hnone, fun q hq hmem => .inl ?_⟩
    exact ((hc.pods q hq).marked (.inl hmem)).resolve_right fun h => h.1 hempty
  · refine Protocol.Triple.bind (Q := fun pods c =>
        (∀ p ∈ pods, Listed agent.workloadName p c) ∧ Left agent.workloadName pods c)
      ((triple_orFail (triple_listPods stable_daemonSets_none _)).weaken
        (fun _ _ h => h) ?_) fun pods => ?_
    · rintro pods c hc ⟨hnone, hpods⟩
      rw [hpods pods rfl]
      exact ⟨fun p hp => listed_of_mem hc (List.mem_filter.mp hp).1, left_of_listed hc hnone⟩
    · -- The pods still to be visited are the only ones that may lack the label.
      refine (Protocol.Triple.forM (J := fun todo c =>
        (∀ p ∈ todo, Listed agent.workloadName p c) ∧ Left agent.workloadName todo c)
        fun pod todo => ?_).weaken (fun _ _ h => h) fun _ _ _ h => h.2
      split_ifs with hother
      · refine Protocol.Triple.pure fun c _ h => ?_
        refine ⟨fun p hp => h.1 p (.tail _ hp), h.2.tail fun hfree => ?_⟩
        cases hcontroller : pod.controller with
        | none => simp [hcontroller] at hother
        | some r => simp_all [Pod.free]
      · have hfree : pod.free agent.workloadName = true := by
          cases hcontroller : pod.controller with
          | none => simp [Pod.free, hcontroller]
          | some r => simpa [Pod.free, hcontroller] using hother
        refine (triple_setEDSPodLabel (A := fun c => (∀ p ∈ todo, Listed agent.workloadName p c) ∧
          Left agent.workloadName (pod :: todo) c) hfree
          ((stable_forall_listed todo).and (stable_left _)) ?_).weaken ?_ ?_
        · exact fun c f hf h => ⟨fun p hp => (h.1 p hp).mapPod hf _, h.2.mapPod hf _⟩
        · exact fun c _ h =>
            ⟨h.1 pod (.head _), fun p hp => h.1 p (.tail _ hp), h.2⟩
        · exact fun _ c _ h => ⟨h.2.1, h.2.2.tail fun _ => h.1⟩

/-! ## From DaemonSet to ExtendedDaemonSet -/

theorem triple_deleteReplicaSets (replicaSets : List ReplicaSet) :
    (protocol agent identity).Triple (fun _ => True) (deleteReplicaSets replicaSets)
      fun _ _ => True := by
  refine .forM (J := fun _ _ => True) fun rs _ => ?_
  split_ifs
  · exact .pure fun _ _ _ => trivial
  · exact triple_write_ignoreNotFound stable_true (fun _ _ _ => ⟨trivial, trivial⟩)
      (fun _ _ _ _ _ => trivial) fun _ _ => trivial

/-- The ExtendedDaemonSet is there to stay, or it may be created. -/
def ReadyForEDS (name : String) (c : Cluster) : Prop :=
  (∃ d, c.extendedDaemonSets name = some d ∧ d.deletionTimestamp = false) ∨ Left name [] c

theorem stable_readyForEDS : (protocol agent identity).Stable (ReadyForEDS agent.workloadName) := by
  rintro c e hc (⟨d, hd, hlive⟩ | hleft)
  · refine .inl ⟨d, ?_, hlive⟩
    rcases (interfere_acts e).extendedDaemonSets with heq | ⟨hgone, -⟩
    · exact heq.trans hd
    · simp [hd, hlive] at hgone
  · exact .inr (stable_left [] c e hc hleft)

theorem carries_prepared (hidentity : identity.lookup extendedDaemonSetNameLabelKey = none)
    (h : Workloads.Carries d.spec.template.labels identity) (edsName : String) :
    Workloads.Carries (prepareDaemonSetForEDSMigration d edsName).2.spec.template.labels identity := by
  simp only [prepareDaemonSetForEDSMigration]
  split_ifs
  · rw [carries_iff] at h ⊢
    intro key value hvalue
    have hkey : key ≠ extendedDaemonSetNameLabelKey := by
      rintro rfl
      cases hidentity.symm.trans hvalue
    simp only [Finmap.lookup_insert_of_ne _ hkey]
    exact h key value hvalue
  · exact h

theorem triple_migrateDaemonSetToExtendedDaemonSet (hname : eds.name = agent.workloadName)
    (hidentity : selectorLabels eds.spec.template.labels = identity) :
    (protocol agent identity).Triple (fun _ => True) (migrateDaemonSetToExtendedDaemonSet eds)
      fun r c => r.1 = false → ReadyForEDS agent.workloadName c := by
  unfold migrateDaemonSetToExtendedDaemonSet
  rw [hname]
  refine (triple_getDaemonSet stable_true _).bind fun answer => ?_
  rcases answer with (_ | _ | _ | _) | current
  · refine .bind ((triple_getExtendedDaemonSet stable_daemonSets_none).pre
        (fun c _ h => h.2 rfl)) fun answer => ?_
    cases answer with
    | ok current =>
      dsimp only
      split_ifs with hdeleted
      · exact triple_migrating
      · exact .pure fun c _ h _ => .inl ⟨current, h.2, by simpa using hdeleted⟩
    | error e =>
      dsimp only
      split_ifs with habsent
      · refine .bind ((triple_listReplicaSets stable_daemonSets_none).pre
          (fun c _ h => h.1)) fun replicaSets => ?_
        split_ifs with hempty
        · refine .bind ((triple_labelOrphanedDaemonSetPodsForEDS hname hidentity).pre
              (fun c _ h => h.1)) fun _ => ?_
          exact .pure fun c _ h _ => .inr h
        · exact .bind ((triple_deleteReplicaSets replicaSets).always) fun _ => triple_migrating
      · exact .fail
  · exact .fail
  · exact .fail
  · exact .fail
  · -- What the server has stored is a DaemonSet of this agent.
    refine .knowing (A := OfAgent agent identity current.object)
      (fun c hc h => hc.daemonSet current h.2) fun hagent => ?_
    refine .always ?_
    dsimp only
    split_ifs with hdeleted hneeds
    · exact triple_migrating
    · refine triple_write_then (fun _ _ => ?_) triple_migrating
      refine ⟨trivial, hagent.name, carries_prepared ?_ hagent.carries _⟩
      rw [← hidentity]
      exact selectorLabels_edsName _
    · refine .bind (triple_labelDaemonSetPodsForEDS hagent.name) fun _ => ?_
      exact triple_delete_then (fun _ => ⟨trivial, trivial⟩) triple_migrating

/-! ## From ExtendedDaemonSet to DaemonSet -/

/-- The pod need not be changed before a DaemonSet is created. -/
def Pod.Fine (agent : Agent) (p : Pod) : Prop :=
  match p.controller with
  | none => agent.selector.selects p.labels = true
  | some r => r.kind ≠ extendedDaemonSetReplicaSetKind

/-- The ExtendedDaemonSet and its replica sets are gone. -/
def Gone (name : String) (c : Cluster) : Prop :=
  c.extendedDaemonSets name = none ∧ ∀ rs ∈ c.replicaSets, rs.edsName ≠ name

def ReadyForDaemonSet (agent : Agent) (c : Cluster) : Prop :=
  Gone agent.workloadName c ∧
    ∀ p ∈ c.pods, p.hasEDSLabel agent.workloadName = true → p.Fine agent

theorem stable_extendedDaemonSets_none :
    (protocol agent identity).Stable fun c => c.extendedDaemonSets agent.workloadName = none := by
  intro c e _ h
  rcases (interfere_acts e).extendedDaemonSets with heq | ⟨-, heq⟩
  · exact heq.trans h
  · exact heq

theorem stable_gone : (protocol agent identity).Stable (Gone agent.workloadName) := by
  rintro c e hc ⟨hnone, hrs⟩
  refine ⟨stable_extendedDaemonSets_none c e hc hnone, fun rs hmem => ?_⟩
  rcases (interfere_acts e).replicaSets hmem with hmem | hsome
  · exact hrs rs hmem
  · rw [hnone] at hsome
    cases hsome

theorem Pod.fine_of_released (hp : OrderlyPod agent identity p)
    (hours : p.isOthers agent.workloadName = false)
    (hfine : p.hasEDSLabel agent.workloadName = true → p.Fine agent)
    (hlabel : p.hasEDSLabel agent.workloadName = true) :
    agent.selector.selects p.labels = true := by
  have hfine := hfine hlabel
  unfold Pod.Fine at hfine
  unfold Pod.isOthers at hours
  cases hcontroller : p.controller with
  | none =>
    rw [hcontroller] at hfine
    exact hfine
  | some r =>
    rw [hcontroller] at hfine hours
    simp only [Bool.not_eq_false', Bool.or_eq_true, Bool.and_eq_true, beq_iff_eq] at hours
    rcases hours with hds | hrs
    · exact hp.selected (by simpa [Pod.ofDaemonSet, hcontroller] using hds)
    · exact absurd hrs.1 hfine

theorem stable_readyForDaemonSet : (protocol agent identity).Stable (ReadyForDaemonSet agent) := by
  rintro c e hc ⟨hgone, hfine⟩
  refine ⟨stable_gone c e hc hgone, fun p hp hlabel => ?_⟩
  have hkind : daemonSetKind ≠ extendedDaemonSetReplicaSetKind := by decide
  cases (interfere_acts e).comes hp with
  | stays hp => exact hfine p hp hlabel
  | adopted | ofDaemonSet => exact hkind
  | @released q hq hours =>
    have hselects : agent.selector.selects q.labels = true :=
      Pod.fine_of_released (hc.pods q hq) hours (hfine q hq) hlabel
    exact hselects
  | @ofReplicaSet rs hrs hname labels => exact absurd hname (hgone.2 rs hrs)
  | @ofOthers labels controller hothers =>
    intro hrs
    simp only [Pod.isOthers, Bool.not_eq_true', Bool.or_eq_false_iff, Bool.and_eq_false_iff,
      beq_eq_false_iff_ne] at hothers
    rcases hothers.2 with h | h
    · exact h hrs
    · exact absurd hlabel (Bool.eq_false_iff.mp h)

/-- While pods are prepared: if nothing has been done and the rest need nothing, all is ready. -/
structure Preparing (agent : Agent) (todo : List Pod) (handled : Bool) (c : Cluster) : Prop where
  labelled : ∀ p ∈ todo, p.hasEDSLabel agent.workloadName = true
  listed : ∀ p ∈ todo, Listed agent.workloadName p c
  ready : handled = false → (∀ p ∈ todo, p.Fine agent) → ReadyForDaemonSet agent c

theorem Preparing.skip (h : Preparing agent (pod :: todo) handled c)
    (hsame : handled' = false → handled = false ∧ pod.Fine agent) :
    Preparing agent todo handled' c where
  labelled p hp := h.labelled p (.tail _ hp)
  listed p hp := h.listed p (.tail _ hp)
  ready hhandled hfine :=
    h.ready (hsame hhandled).1 (List.forall_mem_cons.mpr ⟨(hsame hhandled).2, hfine⟩)

theorem triple_prepareOrphanedPod {todo : List Pod} {handled : Bool} :
    (protocol agent identity).Triple (Preparing agent (pod :: todo) handled)
      (prepareOrphanedPod agent.selector handled pod) (Preparing agent todo) := by
  refine .knowing (A := ∀ p ∈ pod :: todo, p.hasEDSLabel agent.workloadName = true)
    (fun _ _ h => h.labelled) fun hlabels => ?_
  have hlabel := hlabels pod (.head _)
  have htail : ∀ c, (∀ p ∈ pod :: todo, Listed agent.workloadName p c) →
      ∀ p ∈ todo, Listed agent.workloadName p c :=
    fun c h p hp => h p (.tail _ hp)
  have hdone : (protocol agent identity).Triple
      (fun c => ∀ p ∈ todo, Listed agent.workloadName p c) (pure true : Reconcile Bool)
        (Preparing agent todo) :=
    Protocol.Triple.pure fun c _ h =>
      ⟨fun p hp => hlabels p (.tail _ hp), h, nofun⟩
  unfold prepareOrphanedPod
  cases hcontroller : pod.controller with
  | some r =>
    refine .pure fun c _ h => h.skip fun hhandled => ?_
    simp only [Bool.or_eq_false_iff, beq_eq_false_iff_ne] at hhandled
    refine ⟨hhandled.1, ?_⟩
    simpa [Pod.Fine, hcontroller] using hhandled.2
  | none =>
    have hfree : pod.free agent.workloadName = true := by simp [Pod.free, hcontroller]
    dsimp only
    split_ifs with hselects hupdated
    · refine .pure fun c _ h => h.skip fun hhandled => ⟨hhandled, ?_⟩
      simpa [Pod.Fine, hcontroller] using hselects
    · -- The labels that are added are those of the selector, which has no name of an EDS.
      rw [← bind_assoc]
      have hsame : ∀ value, (mergeFrom pod.labels (agent.selector.matchLabels ∪ pod.labels)).lookup
          extendedDaemonSetNameLabelKey = some value → value = agent.workloadName := by
        intro value hvalue
        cases agent.selector_edsName.symm.trans (lookup_selectorPatch hvalue)
      refine .bind (Q := fun _ c => ∀ p ∈ todo, Listed agent.workloadName p c)
        ((triple_write_orFail (stable_forall_listed (pod :: todo)) ?_ ?_).pre
          (fun c _ h => h.listed)) fun _ => hdone
      · intro c hc h
        obtain ⟨hlt, hpod⟩ := h pod (.head _)
        refine ⟨fun q hq huid => (hpod q hq huid).2 hfree, fun q hq huid => ⟨.inl ?_, fun hq' => ?_⟩⟩
        · exact (gentle_patch hsame).label q ((hpod q hq huid).1 hlabel)
        · rw [Agent.selector_selects] at hq' ⊢
          exact carries_patch hq' fun key value hvalue => .inl (lookup_selectorPatch hvalue)
      · intro c c' _ h hok p hp
        obtain rfl := patchPod_ok hok
        exact (h p (.tail _ hp)).mapPod (gentle_patch hsame) _
    · rw [← bind_assoc]
      refine .bind (Q := fun _ c => ∀ p ∈ todo, Listed agent.workloadName p c)
        ((triple_write_ignoreNotFound (stable_forall_listed (pod :: todo)) ?_ ?_ htail).pre
          (fun c _ h => h.listed)) fun _ => hdone
      · intro c hc h
        obtain ⟨hlt, hpod⟩ := h pod (.head _)
        exact ⟨fun q hq huid => (hpod q hq huid).2 hfree, trivial⟩
      · intro c c' _ h hok p hp
        obtain rfl := deletePod_ok hok
        exact (h p (.tail _ hp)).mapPod (gentle_delete _) _

theorem triple_prepareOrphanedEDSPodsForDaemonSet {w : AgentDaemonSet}
    (hname : w.name = agent.workloadName) (hselector : w.spec.selector = agent.selector) :
    (protocol agent identity).Triple (Gone agent.workloadName)
      (prepareOrphanedEDSPodsForDaemonSet w)
      fun handled c => handled = false → ReadyForDaemonSet agent c := by
  unfold prepareOrphanedEDSPodsForDaemonSet
  rw [hname, hselector]
  unfold labelSelectorAsSelector
  split_ifs
  · refine Protocol.Triple.bind (Q := fun s c => s = agent.selector ∧ Gone agent.workloadName c)
      (Protocol.Triple.pure fun _ _ h => ⟨rfl, h⟩) fun s => ?_
    refine Protocol.Triple.knowing (A := s = agent.selector) (fun _ _ h => h.1) fun hs => ?_
    subst hs
    refine Protocol.Triple.bind (Q := fun pods c => Preparing agent pods false c)
      ((triple_orFail (triple_listPods stable_gone _)).weaken (fun _ _ h => h.2) ?_) fun pods => ?_
    · rintro pods c hc ⟨hgone, hpods⟩
      rw [hpods pods rfl]
      simp only [edsPods_selects]
      refine ⟨fun p hp => (List.mem_filter.mp hp).2, fun p hp => ?_, fun _ hfine => ⟨hgone, ?_⟩⟩
      · exact listed_of_mem hc (List.mem_filter.mp hp).1
      · exact fun p hp hlabel => hfine p (List.mem_filter.mpr ⟨hp, hlabel⟩)
    · refine (Protocol.Triple.foldlM (J := Preparing agent)
        fun pod todo handled => triple_prepareOrphanedPod).weaken (fun _ _ h => h) ?_
      exact fun handled c _ h hhandled => h.ready hhandled nofun
  · exact Protocol.Triple.fail

theorem triple_migrateExtendedDaemonSetToDaemonSet
    (hname : w.name = agent.workloadName) (hselector : w.spec.selector = agent.selector) :
    (protocol agent identity).Triple (fun _ => True) (migrateExtendedDaemonSetToDaemonSet w)
      fun r c => r.1 = false → ReadyForDaemonSet agent c := by
  unfold migrateExtendedDaemonSetToDaemonSet
  rw [hname]
  refine (triple_getExtendedDaemonSet stable_true).bind fun answer => ?_
  cases answer with
  | ok current =>
    dsimp only
    split_ifs
    · exact triple_migrating
    · exact triple_delete_then (fun _ => ⟨trivial, trivial⟩) triple_migrating
  | error e =>
    dsimp only
    split_ifs with habsent
    · refine .bind ((triple_listReplicaSets stable_extendedDaemonSets_none).pre
        (fun c _ h => h.2 habsent)) fun replicaSets => ?_
      split_ifs with hempty
      · refine .bind ((triple_prepareOrphanedEDSPodsForDaemonSet hname hselector).pre
            (fun c _ h => ⟨h.1, h.2 (List.isEmpty_iff.mp hempty)⟩)) fun handled => ?_
        cases handled with
        | true => exact triple_migrating
        | false => exact .pure fun c _ h _ => h rfl
      · exact .bind ((triple_deleteReplicaSets replicaSets).always) fun _ => triple_migrating
    · exact .fail

/-! ## Creating and updating -/

theorem triple_annotateConfigMapsChecksum (hP : (protocol agent identity).Stable P)
    (hashing : Hashing) (request : Request) :
    (protocol agent identity).Triple P (annotateConfigMapsChecksum hashing request)
      fun r c => P c ∧ r.template.labels = request.template.labels := by
  have hcontents : (protocol agent identity).Triple P
      (configMapContents request.referencedConfigMapNames) fun _ => P := by
    refine .foldlM (J := fun _ _ => P) fun name _ contents => ?_
    refine .bind (Q := fun (_ : Except ClientError String) => P)
      (.call hP (fun _ _ _ => ⟨trivial, trivial⟩) ?_) fun answer => ?_
    · intro c outcome _ hp
      cases outcome <;> exact hp
    · rcases answer with (_ | _ | _ | _) | content
      · exact .pure fun _ _ h => h
      · exact .fail
      · exact .fail
      · exact .fail
      · exact .pure fun _ _ h => h
  unfold annotateConfigMapsChecksum
  split_ifs
  · refine hcontents.bind fun contents => ?_
    split_ifs
    · exact .pure fun _ _ h => ⟨h, rfl⟩
    · exact .pure fun _ _ h => ⟨h, rfl⟩
  · exact .pure fun _ _ h => ⟨h, rfl⟩

theorem triple_createOrUpdateExtendedDaemonset {ddai : DDAI} {supports : Bool}
    {w : ExtendedDaemonSet} (hname : w.name = agent.workloadName) :
    (protocol agent identity).Triple (ReadyForEDS agent.workloadName)
      (createOrUpdateExtendedDaemonset hashing ddai supports w) fun _ _ => True := by
  unfold createOrUpdateExtendedDaemonset setMD5DatadogAgentGenerationAnnotation
  rw [hname]
  refine (triple_getExtendedDaemonSet stable_readyForEDS).bind fun answer => ?_
  rcases answer with (_ | _ | _ | _) | current
  · rw [← bind_assoc]
    refine .bind ((triple_write_orFail (R := fun _ => True) (stable_left []) ?_
      fun _ _ _ _ _ => trivial).weaken ?_ fun _ _ _ h => h) fun _ => triple_done
    · intro c _ h
      refine ⟨⟨h.1, fun p hp hmem => ?_⟩, trivial⟩
      exact (h.2 p hp hmem).resolve_right nofun
    · rintro c - ⟨⟨d, hd, -⟩ | hleft, hnone⟩
      · cases (hnone rfl).symm.trans hd
      · exact hleft
  · exact .fail
  · exact .fail
  · exact .fail
  · have hupdated : ∀ {P : Cluster → Prop} (updated : ExtendedDaemonSet),
        (protocol agent identity).Triple P (do
          orFail (← write (.updateExtendedDaemonSet current.uid [ddai.newOwnerRef] updated))
          pure ({} : Result)) fun _ _ => True :=
      fun updated => triple_write_then (fun _ _ => ⟨trivial, trivial⟩) triple_done
    dsimp only
    split_ifs
    · exact triple_write_then (fun _ _ => ⟨trivial, trivial⟩) triple_done
    · exact triple_write_then (fun _ _ => ⟨trivial, trivial⟩) (hupdated _)
    · exact triple_done
    · exact hupdated _

theorem carries_adjusted {spec current : DaemonSetSpec} (hcurrent : current.selector = agent.selector)
    (hselects : agent.selector.selects current.template.labels = true)
    (hcarries : Workloads.Carries current.template.labels identity)
    (hspec : Workloads.Carries spec.template.labels identity) :
    Workloads.Carries (spec.adjust current).template.labels identity := by
  rw [Agent.selector_selects, carries_iff] at hselects
  rw [carries_iff] at hcarries hspec ⊢
  intro key value hvalue
  simp only [DaemonSetSpec.adjust, ensureSelectorInPodTemplateLabels, hcurrent, Finmap.lookup_union]
  cases hlookup : agent.selector.matchLabels.lookup key with
  | none => exact hspec key value hvalue
  | some other =>
    rw [Option.some_or, ← hselects key other hlookup]
    exact hcarries key value hvalue

theorem triple_createOrUpdateDaemonset {ddai : DDAI} {supports : Bool}
    {w : AgentDaemonSet} (hname : w.name = agent.workloadName)
    (hselector : w.spec.selector = agent.selector)
    (hidentity : selectorLabels w.spec.template.labels = identity) :
    (protocol agent identity).Triple (ReadyForDaemonSet agent)
      (createOrUpdateDaemonset hashing ddai supports w) fun _ _ => True := by
  unfold createOrUpdateDaemonset
  dsimp only
  rw [hname]
  refine (triple_getDaemonSet stable_readyForDaemonSet _).bind fun answer => ?_
  rcases answer with (_ | _ | _ | _) | current
  · rw [← bind_assoc]
    refine .bind ((triple_write_orFail (R := fun _ => True)
      stable_readyForDaemonSet ?_ fun _ _ _ _ _ => trivial).pre (fun _ _ h => h.1)) fun _ => triple_done
    rintro c - ⟨hgone, hfine⟩
    refine ⟨⟨hgone.1, hgone.2, fun p hp hnone hlabel => ?_⟩, rfl, hselector, ?_⟩
    · have := hfine p hp hlabel
      simpa [Pod.Fine, hnone, setMD5DatadogAgentGenerationAnnotation, hselector] using this
    · unfold setMD5DatadogAgentGenerationAnnotation
      simpa using hidentity
  · exact .fail
  · exact .fail
  · exact .fail
  · refine .knowing (A := OfAgent agent identity current.object)
      (fun c hc h => hc.daemonSet current h.2) fun hagent => ?_
    have hcarries : Workloads.Carries w.spec.template.labels identity :=
      hidentity ▸ carries_selectorLabels w.spec.template.labels
    have hrest : ∀ {P : Cluster → Prop}, (protocol agent identity).Triple P (do
          ignoreNotFound (← write (.deleteDaemonSet current.object.name .orphan))
          pure ({} : Result)) fun _ _ => True :=
      triple_delete_then (fun _ => ⟨trivial, trivial⟩) triple_done
    dsimp only
    split_ifs
    · exact triple_write_then (fun _ _ => ⟨trivial, trivial⟩) hrest
    · exact triple_write_then (fun _ _ => ⟨trivial, trivial⟩) triple_done
    · refine triple_write_then (fun _ _ => ⟨trivial, trivial⟩)
        (triple_write_then (fun _ _ => ⟨trivial, rfl, ?_⟩) triple_done)
      refine carries_adjusted hagent.selector hagent.selects hagent.carries ?_
      simpa using hcarries
    · exact hrest
    · exact triple_done
    · refine triple_write_then (fun _ _ => ⟨trivial, rfl, ?_⟩) triple_done
      refine carries_adjusted hagent.selector hagent.selects hagent.carries ?_
      simpa using hcarries

/-! ## Reconciles -/

theorem triple_reconcileV2Agent {agent' : Agent} (hashing : Hashing)
    (hname : agent'.workloadName = agent.workloadName) (hselector : agent'.selector = agent.selector)
    (hidentity : selectorLabels request.template.labels = identity) :
    (protocol agent identity).Triple (fun _ => True) (reconcileV2Agent hashing agent' request)
      fun _ _ => True := by
  unfold reconcileV2Agent reconcileExtendedDaemonSet reconcileDaemonSet
  split_ifs
  · exact triple_delete_then (fun _ => ⟨trivial, trivial⟩) triple_done
  · refine (triple_migrateDaemonSetToExtendedDaemonSet hname hidentity).bind fun r => ?_
    obtain ⟨_ | _, result⟩ := r
    · refine .bind ((triple_annotateConfigMapsChecksum stable_readyForEDS hashing
        request).pre (fun _ _ h => h rfl)) fun request' => ?_
      exact (triple_createOrUpdateExtendedDaemonset hname).weaken (fun _ _ h => h.1) fun _ _ _ h => h
    · exact triple_done
  · exact triple_delete_then (fun _ => ⟨trivial, trivial⟩) triple_done
  · refine (triple_migrateExtendedDaemonSetToDaemonSet hname hselector).bind fun r => ?_
    obtain ⟨_ | _, result⟩ := r
    · refine .bind ((triple_annotateConfigMapsChecksum stable_readyForDaemonSet
        hashing request).pre (fun _ _ h => h rfl)) fun request' => ?_
      refine .knowing (A := request'.template.labels = request.template.labels)
        (fun _ _ h => h.2) fun hlabels => ?_
      refine (triple_createOrUpdateDaemonset hname hselector ?_).weaken (fun _ _ h => h.1)
        fun _ _ _ h => h
      rw [← hidentity, ← hlabels]
      rfl
    · exact triple_done

end

/-- In every run of reconciles of one agent, whose workload keeps its name, its selector and the
instance and component labels of its pods: every call respects the workloads and pods that are
there when it is made. -/
theorem migrations_respect (hashing : Hashing) (agent : Agent) (identity : Labels) (c : Cluster)
    (es : List (Interference.Event (Agent × Request) Env Outcome)) (hc : Orderly agent identity c)
    (hes : ∀ input, .start input ∈ es → input.1.workloadName = agent.workloadName ∧
      input.1.selector = agent.selector ∧ selectorLabels input.2.template.labels = identity) :
    Runs.Along ((cluster agent.workloadName).step fun input => reconcileV2Agent hashing input.1 input.2)
      (Calls (Respects agent.workloadName)) { state := c } es :=
  (protocol agent identity).calls_allowed
    (fun _ h => triple_reconcileV2Agent hashing h.1 h.2.1 h.2.2) (fun _ _ h => h.1) hc hes

def exampleHashing : Hashing := ⟨fun _ _ => "", fun _ => "", fun _ => "", fun _ => ""⟩

def exampleAgent : Agent := { ns := "datadog", ddai := ⟨"datadog", "1"⟩ }

def exampleRequest (extendedDaemonsetEnabled : Bool) (name : String) : Request where
  extendedDaemonsetEnabled
  template := { labels := exampleAgent.selector.matchLabels.insert agentDeploymentNameLabelKey name }

/-- The agent of a DatadogAgentInternal, first as a DaemonSet and then as an ExtendedDaemonSet. -/
theorem switched_agent_respects :
    let calls : List (Interference.Event (Agent × Request) Env Outcome) :=
      List.replicate 6 (.call .answered)
    Runs.Along ((cluster exampleAgent.workloadName).step
        fun input => reconcileV2Agent exampleHashing input.1 input.2)
      (Calls (Respects exampleAgent.workloadName)) {state := {}}
      (.start (exampleAgent, exampleRequest false "datadog") :: calls ++
        .other (.daemonSetPod ∅) :: .start (exampleAgent, exampleRequest true "datadog") :: calls) := by
  intro calls
  refine migrations_respect _ exampleAgent
    (selectorLabels (exampleRequest false "datadog").template.labels) {} _
    ⟨List.nodup_nil, nofun, nofun, nofun, fun _ => ⟨rfl, nofun⟩⟩ fun input hmem => ?_
  have hinput : input = (exampleAgent, exampleRequest false "datadog") ∨
      input = (exampleAgent, exampleRequest true "datadog") := by
    simpa [calls, List.mem_replicate] using hmem
  rcases hinput with rfl | rfl <;> exact ⟨rfl, rfl, rfl⟩

/-- The selector is changed, by the annotation that keeps the metadata of older operators, between
the two halves of a migration that is taken back. `restartDaemonset` deletes the DaemonSet and
keeps its pods, one of which already has the label of the ExtendedDaemonSet; the next reconcile
looks for labelled pods before Kubernetes has released it, and creates a DaemonSet that does not
select it. -/
theorem changed_selector_leaves_pod :
    let older : Agent := { exampleAgent with
      annotations := (∅ : Annotations).insert updateMetadataAnnotationKey "false" }
    let calls (n : Nat) : List (Interference.Event (Agent × Request) Env Outcome) :=
      List.replicate n (.call .answered)
    let s := Runs.run ((cluster exampleAgent.workloadName).step
        fun input => reconcileV2Agent exampleHashing input.1 input.2) { state := {} }
      (.start (exampleAgent, exampleRequest false "custom") :: calls 6 ++
        .other (.daemonSetPod ∅) :: .start (exampleAgent, exampleRequest true "custom") :: calls 3 ++
        .start (exampleAgent, exampleRequest true "custom") :: calls 3 ++
        .stop :: .start (older, exampleRequest false "datadog") :: calls 6 ++
        .start (older, exampleRequest false "datadog") :: calls 3 ++
        .other (.release 1) :: .other .removeDaemonSet :: calls 1)
    older.workloadName = exampleAgent.workloadName ∧
      selectorLabels (exampleRequest true "custom").template.labels =
        selectorLabels (exampleRequest false "datadog").template.labels ∧
      ∃ ddai w next, s.rest = some (.call (.write (.createDaemonSet ddai w)) next) ∧
        ∃ p ∈ s.state.pods, p.controller = none ∧ p.hasEDSLabel w.name = true ∧
          w.spec.selector.selects p.labels = false := by
  exact ⟨rfl, rfl, _, _, _, rfl, _, .head _, rfl, rfl, rfl⟩

end DatadogOperator.NodeAgent
