import DatadogOperator.Dependencies.Convergence
import DatadogOperator.Profiles.Names

/-!
# Finalizing a DDAI

`datadogagentinternal/finalizer.go`. Cluster-level objects have no owner reference, so
the finalizer deletes them by the part-of label. It names the DatadogAgent, and all DDAIs
of one DatadogAgent share it: finalizing the DDAI of a profile deletes what the store of
the default DDAI holds. From nodes it takes the label of every profile.
-/

namespace DatadogOperator.Dependencies

open Profiles

structure Cluster where
  server : Server
  nodes : List Node

/-- The errors of the calls of the finalizer. -/
structure FinalizerCalls where
  deleteAllOf : ObjectKind → Option ApiError := fun _ => none
  listNodes : Option ApiError := none
  patchNode : String → Option ApiError := fun _ => none

def Server.deleteAllOf (server : Server) (p : ObjectID → KubeObject → Bool) : Server where
  entries := server.entries.filter fun e => !p e.1 e.2
  nodupKeys := server.nodupKeys.sublist List.filter_sublist

def matchesLabels (matchingLabels : List (String × String)) (labels : Labels) : Bool :=
  matchingLabels.all fun e => labels.lookup e.1 == some e.2

def matchingLabels (ddai : DatadogAgentInternal) : List (String × String) :=
  [(operatorStoreLabelKey, "true"),
    (appKubernetesPartOfLabelKey, newPartOfLabelValue ddai.toObjectMeta),
    (appKubernetesManageByLabelKey, "datadog-operator")]

def deleteObjectsForResource (calls : FinalizerCalls) (ddai : DatadogAgentInternal)
    (kind : ObjectKind) (server : Server) : Server × Option ApiError :=
  match calls.deleteAllOf kind with
  | some e => (server, some e)
  | none => (server.deleteAllOf fun id obj =>
      id.kind == kind && matchesLabels (matchingLabels ddai) obj.labels, none)

def clusterLevelKinds : List ObjectKind := [.clusterRoles, .clusterRoleBinding, .apiService]

def cleanUpKinds (calls : FinalizerCalls) (ddai : DatadogAgentInternal) :
    List ObjectKind → Server → Server × Option ApiError
  | [], server => (server, none)
  | kind :: kinds, server =>
    match deleteObjectsForResource calls ddai kind server with
    | (server, some e) => (server, some e)
    | (server, none) => cleanUpKinds calls ddai kinds server

def cleanUpClusterLevelResources (calls : FinalizerCalls) (ddai : DatadogAgentInternal)
    (server : Server) : Server × Option ApiError :=
  cleanUpKinds calls ddai clusterLevelKinds server

def Node.withoutProfileLabels (node : Node) : Node :=
  { node with labels := (node.labels.erase oldProfileLabelKey).erase profileLabelKey }

/-- The loop over the nodes. One that is gone is passed over. -/
def cleanUpNodes (calls : FinalizerCalls) : List Node → List Node × Option ApiError
  | [] => ([], none)
  | node :: nodes =>
    let rest := cleanUpNodes calls nodes
    if profileLabelKey ∉ node.labels ∧ oldProfileLabelKey ∉ node.labels then
      (node :: rest.1, rest.2)
    else match calls.patchNode node.name with
      | none => (Node.withoutProfileLabels node :: rest.1, rest.2)
      | some .notFound => (node :: rest.1, rest.2)
      | some e => (node :: nodes, some e)

def profilesCleanup (calls : FinalizerCalls) (nodes : List Node) : List Node × Option ApiError :=
  match calls.listNodes with
  | some e => (nodes, some e)
  | none => cleanUpNodes calls nodes

def finalizeDDAI (calls : FinalizerCalls) (ddai : DatadogAgentInternal) (cluster : Cluster) :
    Cluster × Option ApiError :=
  match cleanUpClusterLevelResources calls ddai cluster.server with
  | (server, some e) => ({ cluster with server }, some e)
  | (server, none) =>
    let cleaned := profilesCleanup calls cluster.nodes
    ({ server, nodes := cleaned.1 }, cleaned.2)

/-! ## Cluster-level objects -/

section

variable {calls : FinalizerCalls} {ddai : DatadogAgentInternal} {server : Server} {id : ObjectID}

theorem deleteAllOf_lookup (server : Server) (id : ObjectID) (p : ObjectID → KubeObject → Bool) :
    (server.deleteAllOf p).lookup id = (server.lookup id).filter fun obj => !p id obj := by
  ext obj
  rw [← Option.mem_def, AList.mem_lookup_iff, Option.filter_eq_some_iff, ← Option.mem_def,
    AList.mem_lookup_iff]
  exact List.mem_filter

theorem cleanUpKinds_lookup_of_not_mem (h : id.kind ∉ kinds) :
    (cleanUpKinds calls ddai kinds server).1.lookup id = server.lookup id := by
  induction kinds generalizing server with
  | nil => rfl
  | cons kind kinds ih =>
    obtain ⟨hkind, hkinds⟩ := List.ne_and_not_mem_of_not_mem_cons h
    rw [cleanUpKinds, deleteObjectsForResource]
    cases calls.deleteAllOf kind with
    | some e => rfl
    | none =>
      refine (ih hkinds).trans ?_
      rw [deleteAllOf_lookup, beq_eq_false_iff_ne.mpr hkind]
      cases server.lookup id <;> rfl

theorem cleanUpKinds_lookup {kinds : List ObjectKind} (h : id.kind ∈ kinds)
    (hmatches : ∀ obj, server.lookup id = some obj →
      matchesLabels (matchingLabels ddai) obj.labels = true) :
    (cleanUpKinds {} ddai kinds server).1.lookup id = none := by
  induction kinds generalizing server with
  | nil => cases h
  | cons kind kinds ih =>
    rw [cleanUpKinds, deleteObjectsForResource]
    dsimp only
    have hdeleted := deleteAllOf_lookup server id fun id obj =>
      id.kind == kind && matchesLabels (matchingLabels ddai) obj.labels
    by_cases hkinds : id.kind ∈ kinds
    · refine ih hkinds fun obj hobj => ?_
      rw [hdeleted, Option.filter_eq_some_iff] at hobj
      exact hmatches obj hobj.1
    · have hkind : id.kind = kind := (List.mem_cons.mp h).resolve_right hkinds
      rw [cleanUpKinds_lookup_of_not_mem hkinds, hdeleted, Option.filter_eq_none_iff]
      intro obj hobj
      simp [hkind, hmatches obj hobj]

end

/-! ## Nodes -/

/-- A node that does not have the label of this profile keeps the one it has. -/
def KeepsProfileLabel (profile : String) (before after : Node) : Prop :=
  before.labels.lookup profileLabelKey ≠ some profile →
    after.labels.lookup profileLabelKey = before.labels.lookup profileLabelKey

theorem withoutProfileLabels_lookup (node : Node) :
    (Node.withoutProfileLabels node).labels.lookup profileLabelKey = none :=
  Finmap.lookup_erase _ _

section

variable {calls : FinalizerCalls} {profile : String} {nodes : List Node}

theorem keepsProfileLabel_refl (nodes : List Node) :
    List.Forall₂ (KeepsProfileLabel profile) nodes nodes :=
  List.forall₂_same.mpr fun _ _ _ => rfl

theorem cleanUpNodes_keeps (h : ∀ node ∈ nodes, ∀ value,
    node.labels.lookup profileLabelKey = some value → value = profile) :
    List.Forall₂ (KeepsProfileLabel profile) nodes (cleanUpNodes calls nodes).1 := by
  induction nodes with
  | nil => exact .nil
  | cons node nodes ih =>
    have hrest := ih fun n hn => h n (.tail _ hn)
    have hself : KeepsProfileLabel profile node node := fun _ => rfl
    unfold cleanUpNodes
    dsimp only
    split
    · exact .cons hself hrest
    · split
      · refine .cons (fun hne => ?_) hrest
        rw [withoutProfileLabels_lookup]
        cases hvalue : node.labels.lookup profileLabelKey with
        | none => rfl
        | some value =>
          cases h node (.head _) value hvalue
          exact absurd hvalue hne
      · exact .cons hself hrest
      · exact .cons hself (keepsProfileLabel_refl nodes)

theorem cleanUpNodes_lookup : ∀ node ∈ (cleanUpNodes {} nodes).1,
    node.labels.lookup profileLabelKey = none := by
  induction nodes with
  | nil => nofun
  | cons node nodes ih =>
    unfold cleanUpNodes
    dsimp only
    split
    · rename_i hlabels
      rintro n (_ | ⟨_, hn⟩)
      · exact Finmap.lookup_eq_none.mpr hlabels.1
      · exact ih n hn
    · rintro n (_ | ⟨_, hn⟩)
      · exact withoutProfileLabels_lookup node
      · exact ih n hn

end

/-! ## The DDAIs of one DatadogAgent -/

section

variable {fm : FieldManager} {options : Options} {dda : Agent} {provider : String}
  {nodes : List Node} {profiles : List Profile} {ddai merged : DatadogAgentInternal}
  {ddais : List DatadogAgentInternal} {profile : Profile} {name : String}

theorem computeProfileMerge_meta (h : computeProfileMerge fm ddai profile = .ok merged)
    (hlabel : ddai.labels.lookup datadogAgentNameLabelKey = some name) :
    merged.ns = ddai.ns ∧ merged.labels.lookup datadogAgentNameLabelKey = some name := by
  obtain ⟨m, hm, hmerged⟩ := Checked.bind_ok h
  obtain ⟨hns, -, hlabels, -⟩ := ssaMergeCRD_merges hm
  have hkey : datadogAgentNameLabelKey ≠ profileLabelKey := by decide
  cases hmerged
  refine ⟨hns, ?_⟩
  change m.labels.lookup datadogAgentNameLabelKey = some name
  rw [hlabels, Finmap.lookup_union, setProfileDDAIMeta]
  dsimp only
  split
  · rw [hlabel, Option.some_or]
  · rw [Finmap.lookup_insert_of_ne _ hkey, hlabel, Option.some_or]

theorem generateDDAIs_meta (h : generateDDAIs fm options dda provider nodes profiles = .ok ddais) :
    ∀ d ∈ ddais, d.ns = dda.ns ∧ d.labels.lookup datadogAgentNameLabelKey = some dda.name := by
  have hlabel : (getDDAILabels dda).lookup datadogAgentNameLabelKey = some dda.name := by
    rw [getDDAILabels, Finmap.lookup_union, Finmap.lookup_insert, Option.some_or]
  unfold generateDDAIs applyProfilesToDDAISpec at h
  refine Checked.mapM_forall ?_ h
  intro p _ d hd
  split at hd
  · exact computeProfileMerge_meta hd hlabel
  · exact computeProfileMerge_meta hd hlabel

theorem generateDDAIs_partOf (hname : dda.name ≠ "")
    (h : generateDDAIs fm options dda provider nodes profiles = .ok ddais) {d d' : DatadogAgentInternal}
    (hd : d ∈ ddais) (hd' : d' ∈ ddais) :
    newPartOfLabelValue d.toObjectMeta = newPartOfLabelValue d'.toObjectMeta := by
  have hvalue : ∀ d ∈ ddais, newPartOfLabelValue d.toObjectMeta =
      escapePartOf dda.ns ++ "-" ++ escapePartOf dda.name := by
    intro d hd
    obtain ⟨hns, hlabel⟩ := generateDDAIs_meta h d hd
    rw [newPartOfLabelValue, getDDAName, hns, hlabel]
    dsimp only
    rw [if_pos hname]
  rw [hvalue d hd, hvalue d' hd']

end

/-! ## What the finalizer spares -/

/-- Cluster-level objects of a store are left alone, and so are the labels of nodes of
other profiles. -/
structure Spares (store : Store) (profile : String) (before after : Cluster) : Prop where
  objects : ∀ id ∈ store.deps, id.kind ∈ clusterLevelKinds →
    after.server.lookup id = before.server.lookup id
  nodes : List.Forall₂ (KeepsProfileLabel profile) before.nodes after.nodes

theorem cleanUpKinds_errors (ddai : DatadogAgentInternal) (kinds : List ObjectKind)
    (server : Server) : (cleanUpKinds {} ddai kinds server).2 = none := by
  induction kinds generalizing server with
  | nil => rfl
  | cons kind kinds ih =>
    rw [cleanUpKinds, deleteObjectsForResource]
    exact ih _

theorem finalizeDDAI_eq (ddai : DatadogAgentInternal) (cluster : Cluster) :
    (finalizeDDAI {} ddai cluster).1 =
      { server := (cleanUpKinds {} ddai clusterLevelKinds cluster.server).1
        nodes := (cleanUpNodes {} cluster.nodes).1 } := by
  have hok := cleanUpKinds_errors ddai clusterLevelKinds cluster.server
  unfold finalizeDDAI cleanUpClusterLevelResources
  split
  · rename_i hfailed
    rw [hfailed] at hok
    cases hok
  · rename_i hdone
    rw [hdone]
    rfl

theorem finalizeDDAI_nodes (calls : FinalizerCalls) (ddai : DatadogAgentInternal)
    (cluster : Cluster) :
    (finalizeDDAI calls ddai cluster).1.nodes = cluster.nodes ∨
      (finalizeDDAI calls ddai cluster).1.nodes = (cleanUpNodes calls cluster.nodes).1 := by
  unfold finalizeDDAI profilesCleanup
  split
  · exact .inl rfl
  · cases calls.listNodes with
    | some e => exact .inl rfl
    | none => exact .inr rfl

theorem matchesLabels_of_partOf {uid : String}
    {objs : List (ObjectID × KubeObject)} {id : ObjectID} {o live : KubeObject}
    (hpart : newPartOfLabelValue internal.toObjectMeta = newPartOfLabelValue ddai.toObjectMeta)
    (ho : (({ owner := .ddai internal uid } : Store).addAll objs).deps.lookup id = some o)
    (hlive : live.labels = o.labels) :
    matchesLabels (matchingLabels ddai) live.labels = true := by
  rcases Store.addAll_lookup ho with hempty | ⟨obj, _, hlabels⟩
  · cases hempty
  · rw [hlive, hlabels]
    simp [matchesLabels, matchingLabels, Store.label_store, Store.label_partOf,
      Store.label_managedBy, Owner.toObjectMeta, hpart]

theorem forall₂_left {α β : Type} {R : α → β → Prop} {as : List α} {bs : List β}
    (h : List.Forall₂ R as bs) {a : α} (ha : a ∈ as) : ∃ b ∈ bs, R a b := by
  induction h with
  | nil => cases ha
  | cons hab _ ih =>
    rcases List.mem_cons.mp ha with rfl | ha
    · exact ⟨_, .head _, hab⟩
    · obtain ⟨b, hb, hR⟩ := ih ha
      exact ⟨b, .tail _ hb, hR⟩

/-- The finalizer of a profile spares the others exactly when there is nothing to spare:
no cluster-level object in the store of the default DDAI and no node of another profile. -/
theorem finalizeDDAI_spares_iff {fm : FieldManager} {options : Options} {dda : Agent}
    {provider : String} {nodes : List Node} {profiles : List Profile}
    {internal ddai : DatadogAgentInternal} {others : List DatadogAgentInternal}
    (hname : dda.name ≠ "")
    (h : generateDDAIs fm options dda provider nodes profiles = .ok (internal :: others))
    (hddai : ddai ∈ others) (api : ApiServer) (uid : String)
    (objs : List (ObjectID × KubeObject)) (server : Server) (clusterNodes : List Node) :
    let store := ({ owner := .ddai internal uid } : Store).addAll objs
    let cluster : Cluster := ⟨(store.apply api {} server).server, clusterNodes⟩
    (∀ calls, Spares store ddai.name cluster (finalizeDDAI calls ddai cluster).1) ↔
      (∀ id ∈ store.deps, id.kind ∉ clusterLevelKinds) ∧ ∀ node ∈ clusterNodes, ∀ value,
          node.labels.lookup profileLabelKey = some value → value = ddai.name := by
  intro store cluster
  have hpart : newPartOfLabelValue internal.toObjectMeta = newPartOfLabelValue ddai.toObjectMeta :=
    generateDDAIs_partOf hname h (.head _) (.tail _ hddai)
  constructor
  · intro hspares
    obtain ⟨hobjects, hnodes⟩ := hspares {}
    rw [finalizeDDAI_eq] at hobjects hnodes
    refine ⟨fun id hid hkind => ?_, fun node hnode value hvalue => ?_⟩
    · obtain ⟨o, ho⟩ := Option.isSome_iff_exists.mp (AList.lookup_isSome.mpr hid)
      obtain ⟨live, hlive, hlabels⟩ := apply_labels api server ho
      have hgone : (cleanUpKinds {} ddai clusterLevelKinds cluster.server).1.lookup id = none := by
        refine cleanUpKinds_lookup hkind fun obj hobj => ?_
        cases hlive.symm.trans hobj
        exact matchesLabels_of_partOf hpart ho hlabels
      have hsame := hobjects id hid hkind
      rw [hgone, hlive] at hsame
      cases hsame
    · by_contra hne
      obtain ⟨after, hafter, hkeeps⟩ := forall₂_left hnodes hnode
      have hkept := hkeeps (by rw [hvalue]; exact fun heq => hne (Option.some.inj heq))
      rw [cleanUpNodes_lookup after hafter, hvalue] at hkept
      cases hkept
  · rintro ⟨hkinds, hlabels⟩ calls
    refine ⟨fun id hid hkind => absurd hkind (hkinds id hid), ?_⟩
    rcases finalizeDDAI_nodes calls ddai cluster with hnodes | hnodes
    · rw [hnodes]
      exact keepsProfileLabel_refl _
    · rw [hnodes]
      exact cleanUpNodes_keeps hlabels

def labelledNode (profile : String) : Node :=
  { name := "a", labels := .singleton profileLabelKey profile }

def tokenSecret : ObjectID := { kind := .secrets, ns := "agents", name := "datadog-token" }

def clusterAgentRole : ObjectID := { kind := .clusterRoles, name := "datadog-cluster-agent" }

/-- With one profile on the nodes and only namespaced objects nothing else is touched. -/
theorem finalizeDDAI_spares_secret : ∃ internal ddai others,
      generateDDAIs plainFieldManager { versions := plainVersions } plainAgent "" twoPools.items
        (twoTeams "gpu" "cpu").items = .ok (internal :: ddai :: others) ∧
      ∀ calls, let store := ({ owner := .ddai internal "1" } : Store).addAll [(tokenSecret, {})]
        let cluster : Cluster :=
          ⟨(store.apply plainServer {} ∅).server, [labelledNode ddai.name]⟩
        Spares store ddai.name cluster (finalizeDDAI calls ddai cluster).1 := by
  have hlength : ((generateDDAIs plainFieldManager { versions := plainVersions } plainAgent ""
      twoPools.items (twoTeams "gpu" "cpu").items).toOption.map List.length) = some 3 := by
    decide +kernel
  match h : generateDDAIs plainFieldManager { versions := plainVersions } plainAgent ""
      twoPools.items (twoTeams "gpu" "cpu").items, hlength with
  | .ok (internal :: ddai :: others), _ =>
    refine ⟨internal, ddai, others, rfl, ?_⟩
    refine (finalizeDDAI_spares_iff (by decide) h (.head _) plainServer "1" _ ∅ _).mpr ⟨?_, ?_⟩
    · intro id hid
      obtain ⟨o, ho⟩ := Option.isSome_iff_exists.mp (AList.lookup_isSome.mpr hid)
      rcases Store.addAll_lookup ho with hempty | ⟨obj, hobj, _⟩
      · cases hempty
      · cases List.mem_singleton.mp hobj
        decide
    · intro node hnode value hvalue
      cases List.mem_singleton.mp hnode
      rw [labelledNode, Finmap.lookup_singleton_eq] at hvalue
      exact (Option.some.inj hvalue).symm

def nodeProfile (node : Node) : Option String := node.labels.lookup profileLabelKey

def teamInternals : List DatadogAgentInternal :=
  (generateDDAIs plainFieldManager { versions := plainVersions } plainAgent "" twoPools.items
    (twoTeams "gpu" "cpu").items).toOption.getD []

/-- When the profile `gpu` goes, the role of the Cluster Agent goes, and the node of the
profile `cpu` loses its label. -/
theorem finalizeDDAI_deletes_shared_role :
    (teamInternals[0]?.bind fun internal => teamInternals[2]?.map fun ddai =>
      let store := ({ owner := .ddai internal "1" } : Store).addAll [(clusterAgentRole, {})]
      let before : Cluster := ⟨(store.apply plainServer {} ∅).server, [labelledNode "cpu"]⟩
      let after := (finalizeDDAI {} ddai before).1
      ([internal.name, ddai.name], decide (clusterAgentRole ∈ store.deps),
        decide (clusterAgentRole ∈ after.server), after.nodes.map nodeProfile)) =
      some (["datadog", "gpu"], true, false, [none]) := by
  decide +kernel

end DatadogOperator.Dependencies
