import DatadogOperator.Dependencies.Convergence

/-!
# Stores beside each other

Every DatadogAgent has two stores, one of its own controller and one of its default
DDAI. They share the API server, and only labels tell what belongs to whom: the part-of
value names the DatadogAgent and a label of its own marks the objects of its controller.
`AddOrUpdate` takes the name from the label of the owner if there is one, `Cleanup` from
its metadata, so a DatadogAgent that carries the label of another one hands its objects
over. Otherwise no `Cleanup` touches what another store applied last.
-/

namespace DatadogOperator.Dependencies

open Profiles

/-! ## Cleanup -/

section

variable {s : Store} {server : Server} {id : ObjectID} {excludeDDA : Bool}

theorem deleteObjects_lookup (ids : List ObjectID) (acc : Server × List ApiError) :
    (ids.foldl (fun acc id =>
      match ({} : Calls).delete id with
      | none => (acc.1.erase id, acc.2)
      | some .gone | some (.failed .notFound) => acc
      | some (.failed e) => (acc.1, acc.2 ++ [e])) acc).1.lookup id =
      if id ∈ ids then none else acc.1.lookup id := by
  induction ids generalizing acc with
  | nil => simp
  | cons id' ids ih =>
    rw [List.foldl_cons, ih]
    by_cases hids : id ∈ ids
    · simp [hids]
    · by_cases hid : id = id'
      · subst hid
        simp [hids]
      · simp [hids, hid, AList.lookup_erase_ne hid]

theorem mem_listObjectToDelete : id ∈ s.listObjectToDelete excludeDDA kind server ↔
      id.kind = kind ∧ ∃ obj, server.lookup id = some obj ∧
        s.deletes excludeDDA id obj.labels = true := by
  simp only [Store.listObjectToDelete, List.mem_filterMap]
  constructor
  · rintro ⟨e, he, hid⟩
    split at hid
    · rename_i hdeletes
      cases hid
      exact ⟨hdeletes.1, e.2, AList.mem_lookup_iff.mpr he, hdeletes.2⟩
    · cases hid
  · rintro ⟨hkind, obj, hobj, hdeletes⟩
    exact ⟨⟨id, obj⟩, AList.mem_lookup_iff.mp hobj, if_pos ⟨hkind, hdeletes⟩⟩

theorem cleanupKind_lookup (acc : Server × List ApiError) :
    (s.cleanupKind {} excludeDDA acc kind).1.lookup id =
      if id.kind = kind ∧ ∃ obj, acc.1.lookup id = some obj ∧
        s.deletes excludeDDA id obj.labels = true then none else acc.1.lookup id := by
  rw [Store.cleanupKind]
  simp only [deleteObjects, deleteObjects_lookup, mem_listObjectToDelete]

theorem cleanup_lookup : (s.cleanup {} excludeDDA server).1.lookup id =
    if id.kind ∈ getResourcesKind s.supportCilium ∧ ∃ obj, server.lookup id = some obj ∧
      s.deletes excludeDDA id obj.labels = true then none else server.lookup id := by
  rw [Store.cleanup]
  generalize getResourcesKind s.supportCilium = kinds
  suffices hacc : ∀ acc : Server × List ApiError,
      (kinds.foldl (s.cleanupKind {} excludeDDA) acc).1.lookup id =
        if id.kind ∈ kinds ∧ ∃ obj, acc.1.lookup id = some obj ∧
          s.deletes excludeDDA id obj.labels = true then none else acc.1.lookup id from
    hacc (server, [])
  induction kinds with
  | nil => simp
  | cons kind kinds ih =>
    intro acc
    rw [List.foldl_cons, ih, cleanupKind_lookup]
    by_cases hkind : id.kind = kind
    · by_cases hdeletes : ∃ obj, acc.1.lookup id = some obj ∧
        s.deletes excludeDDA id obj.labels = true
      · simp [hkind, hdeletes]
      · simp [hkind, hdeletes]
    · simp [hkind]

end

/-! ## The stores of all DatadogAgents -/

def Owner.isDDA : Owner → Bool
  | .dda .. => true
  | .ddai .. => false

/-- The owner of a store: a DatadogAgent, or the default DDAI of one, which has its name
and says so in a label. Names are those the API server accepts, without dashes where
they meet in the part-of value. -/
structure Party where
  owner : Owner
  ns_end : owner.toObjectMeta.ns.toList.getLast? ≠ some '-'
  name_start : owner.toObjectMeta.name.toList.head? ≠ some '-'
  internal_label : owner.isDDA = false →
    owner.toObjectMeta.labels.lookup datadogAgentNameLabelKey = some owner.toObjectMeta.name

structure StoreName where
  ns : String
  name : String
  isDDA : Bool
  deriving DecidableEq

def Party.storeName (p : Party) : StoreName :=
  ⟨p.owner.toObjectMeta.ns, p.owner.toObjectMeta.name, p.owner.isDDA⟩

def Party.store (p : Party) (supportCilium : Bool) (objs : List (ObjectID × KubeObject)) : Store :=
  ({ owner := p.owner, isDDAControllerStore := p.owner.isDDA, supportCilium } : Store).addAll objs

inductive Call
  | apply
  | cleanup

structure Event where
  party : Party
  call : Call
  objs : List (ObjectID × KubeObject)

structure System where
  server : Server
  lastApplied : ObjectID → Option StoreName := fun _ => none

def Event.store (supportCilium : Bool) (e : Event) : Store := e.party.store supportCilium e.objs

/-- Only the controller of DDAIs excludes what the other one manages. -/
def step (api : ApiServer) (supportCilium : Bool) (sys : System) (e : Event) : System :=
  let store := e.store supportCilium
  match e.call with
  | .apply =>
    { server := (store.apply api {} sys.server).server
      lastApplied := fun id =>
        if id ∈ store.deps then some e.party.storeName else sys.lastApplied id }
  | .cleanup => { sys with server := (store.cleanup {} (!e.party.owner.isDDA) sys.server).1 }

/-- A Cleanup deletes what is marked as its own, nothing that another store applied
last, and all that its store applied last and no longer holds. -/
structure Respects (supportCilium : Bool) (sys : System) (e : Event) (after : Server) : Prop where
  marked : ∀ id obj, sys.server.lookup id = some obj → after.lookup id = none →
    operatorStoreLabelKey ∈ obj.labels ∧
      obj.labels.lookup appKubernetesPartOfLabelKey =
        some (newPartOfLabelValue e.party.owner.toObjectMeta) ∧
      id ∉ (e.store supportCilium).deps
  others : ∀ id n, sys.lastApplied id = some n → n ≠ e.party.storeName →
    after.lookup id = sys.server.lookup id
  dropped : ∀ id, sys.lastApplied id = some e.party.storeName →
    id ∉ (e.store supportCilium).deps → after.lookup id = none

/-- A DatadogAgent goes by its own name, the objects of a DDAI do not claim to be of the
other controller, and all are of kinds that are cleaned up. -/
structure Event.Proper (supportCilium : Bool) (e : Event) : Prop where
  ownName : e.party.owner.isDDA = true →
    getDDAName e.party.owner.toObjectMeta = e.party.owner.toObjectMeta.name
  unmarked : e.party.owner.isDDA = false → ∀ id obj, (id, obj) ∈ e.objs →
    managedByDDAControllerLabelKey ∉ obj.labels
  listed : ∀ id obj, (id, obj) ∈ e.objs → id.kind ∈ getResourcesKind supportCilium

/-! ## Labels tell the stores apart -/

structure Labelled (supportCilium : Bool) (n : StoreName) (id : ObjectID) (obj : KubeObject) :
    Prop where
  store : operatorStoreLabelKey ∈ obj.labels
  partOf : obj.labels.lookup appKubernetesPartOfLabelKey =
    some (escapePartOf n.ns ++ "-" ++ escapePartOf n.name)
  dda : managedByDDAControllerLabelKey ∈ obj.labels ↔ n.isDDA = true
  kind : id.kind ∈ getResourcesKind supportCilium
  ns_end : n.ns.toList.getLast? ≠ some '-'
  name_start : n.name.toList.head? ≠ some '-'

theorem partOf_injective (hns : ns.toList.getLast? ≠ some '-')
    (hns' : ns'.toList.getLast? ≠ some '-') (hname : name.toList.head? ≠ some '-')
    (hname' : name'.toList.head? ≠ some '-')
    (h : escapePartOf ns ++ "-" ++ escapePartOf name =
      escapePartOf ns' ++ "-" ++ escapePartOf name') : ns = ns' ∧ name = name' := by
  have hlist := congrArg String.toList h
  simp only [escapePartOf, String.toList_append, String.toList_ofList, List.append_assoc] at hlist
  obtain ⟨hns, hname⟩ := Doubling.join_injective hns hns' hname hname' hlist
  exact ⟨String.toList_inj.mp hns, String.toList_inj.mp hname⟩

/-- Not empty, and without a dash at the ends, as DNS names are. -/
structure Bounded (text : String) : Prop where
  start : text.toList.head?.any (· ≠ '-')
  ending : text.toList.getLast?.any (· ≠ '-')

theorem partOfNamespacedName_newPartOfLabelValue (hns : Bounded obj.ns) :
    partOfNamespacedName (newPartOfLabelValue obj) =
      if (getDDAName obj).toList.head?.any (· ≠ '-') then ⟨obj.ns, getDDAName obj⟩ else ⟨"", ""⟩ := by
  have hvalue : (newPartOfLabelValue obj).toList = Doubling.double '-' obj.ns.toList ++
      '-' :: Doubling.double '-' (getDDAName obj).toList := by
    simp [newPartOfLabelValue, escapePartOf]
  rw [partOfNamespacedName, hvalue, Doubling.splitAlone_join hns.ending]
  split_ifs
  · simp
  · rfl

theorem getDDAName_eq_name_iff : getDDAName obj = obj.name ↔
    ∀ value, obj.labels.lookup datadogAgentNameLabelKey = some value →
      value = "" ∨ value = obj.name := by
  unfold getDDAName
  cases obj.labels.lookup datadogAgentNameLabelKey with
  | none => simp
  | some value =>
    by_cases h : value = ""
    · simp [h]
    · simp [h]

structure NamedAgent extends Agent where
  ns_bounded : Bounded ns
  name_bounded : Bounded name

/-- The part-of values of some DatadogAgents tell which is which, exactly if none of
them has the name of another one in its label. -/
theorem partOf_identifies_iff (agents : List NamedAgent) :
    ((∀ a ∈ agents, partOfNamespacedName (newPartOfLabelValue a.toObjectMeta) = ⟨a.ns, a.name⟩) ∧
      ∀ a ∈ agents, ∀ b ∈ agents,
        newPartOfLabelValue a.toObjectMeta = newPartOfLabelValue b.toObjectMeta →
          a.ns = b.ns ∧ a.name = b.name) ↔
      ∀ a ∈ agents, ∀ value, a.labels.lookup datadogAgentNameLabelKey = some value →
        value = "" ∨ value = a.name := by
  constructor
  · rintro ⟨hdecode, -⟩ a ha
    refine getDDAName_eq_name_iff.mp ?_
    have h := hdecode a ha
    rw [partOfNamespacedName_newPartOfLabelValue a.ns_bounded] at h
    split_ifs at h
    · exact congrArg NamespacedName.name h
    · have hempty : "" = a.ns := congrArg NamespacedName.ns h
      have hstart := a.ns_bounded.start
      simp [← hempty] at hstart
  · intro hlabels
    have hdecode : ∀ a ∈ agents,
        partOfNamespacedName (newPartOfLabelValue a.toObjectMeta) = ⟨a.ns, a.name⟩ := by
      intro a ha
      have hname := getDDAName_eq_name_iff.mpr (hlabels a ha)
      rw [partOfNamespacedName_newPartOfLabelValue a.ns_bounded, hname, if_pos a.name_bounded.start]
    refine ⟨hdecode, fun a ha b hb hsame => ?_⟩
    have heq := (hdecode a ha).symm.trans ((congrArg _ hsame).trans (hdecode b hb))
    exact NamespacedName.mk.injEq .. ▸ heq

theorem labelled_agent_shares_partOf :
    ∃ first second : NamedAgent, first.ns = second.ns ∧ first.name ≠ second.name ∧
      second.labels.lookup datadogAgentNameLabelKey = some first.name ∧
      newPartOfLabelValue first.toObjectMeta = newPartOfLabelValue second.toObjectMeta ∧
      partOfNamespacedName (newPartOfLabelValue second.toObjectMeta) ≠ ⟨second.ns, second.name⟩ := by
  refine ⟨⟨{ ns := "agents", name := "first" }, ⟨by decide, by decide⟩, ⟨by decide, by decide⟩⟩,
    ⟨{ ns := "agents", name := "second",
       labels := Finmap.singleton datadogAgentNameLabelKey "first" },
      ⟨by decide, by decide⟩, ⟨by decide, by decide⟩⟩, ?_⟩
  decide +kernel

section

variable {api : ApiServer} {supportCilium : Bool} {sys : System} {e : Event} {id : ObjectID}

theorem Event.store_fields (supportCilium : Bool) (e : Event) :
    (e.store supportCilium).owner = e.party.owner ∧
      (e.store supportCilium).isDDAControllerStore = e.party.owner.isDDA ∧
      (e.store supportCilium).supportCilium = supportCilium :=
  Store.addAll_owner e.objs

theorem Party.getDDAName_internal {p : Party} (h : p.owner.isDDA = false) :
    getDDAName p.owner.toObjectMeta = p.owner.toObjectMeta.name := by
  rw [getDDAName, p.internal_label h]
  exact ite_eq_left_iff.mpr fun _ => rfl

theorem Event.Proper.partOf (h : e.Proper supportCilium) :
    newPartOfLabelValue e.party.owner.toObjectMeta =
      escapePartOf e.party.storeName.ns ++ "-" ++ escapePartOf e.party.storeName.name := by
  have hname : getDDAName e.party.owner.toObjectMeta = e.party.owner.toObjectMeta.name := by
    cases hdda : e.party.owner.isDDA with
    | true => exact h.ownName hdda
    | false => exact Party.getDDAName_internal hdda
  rw [newPartOfLabelValue, hname]
  rfl

theorem Event.Proper.labelled (h : e.Proper supportCilium)
    (ho : (e.store supportCilium).deps.lookup id = some o)
    (hlive : live.labels = o.labels) : Labelled supportCilium e.party.storeName id live := by
  rcases Store.addAll_lookup ho with hempty | ⟨obj, hobj, hlabels⟩
  · cases hempty
  rw [hlabels] at hlive
  refine ⟨?_, ?_, ?_, h.listed id obj hobj, e.party.ns_end, e.party.name_start⟩
  · rw [hlive, ← Finmap.lookup_isSome, Store.label_store]
    rfl
  · rw [hlive, Store.label_partOf, ← h.partOf]
  · rw [hlive, Store.mem_label_dda]
    change e.party.owner.isDDA = true ∨ _ ↔ e.party.owner.isDDA = true
    refine or_iff_left_of_imp fun hmarked => ?_
    by_contra hdda
    exact h.unmarked (Bool.eq_false_iff.mpr hdda) id obj hobj hmarked

/-- Every object that is there carries the labels of the store that applied it last. -/
def Held (supportCilium : Bool) (sys : System) : Prop :=
  ∀ id n, sys.lastApplied id = some n → ∀ obj, sys.server.lookup id = some obj →
    Labelled supportCilium n id obj

theorem Held.step (hheld : Held supportCilium sys) (h : e.Proper supportCilium) :
    Held supportCilium (step api supportCilium sys e) := by
  intro id n hn obj hobj
  unfold Dependencies.step at hn hobj
  cases hcall : e.call with
  | apply =>
    simp only [hcall] at hn hobj
    cases hdeps : (e.store supportCilium).deps.lookup id with
    | some o =>
      have hmem : id ∈ (e.store supportCilium).deps := by
        rw [← AList.lookup_isSome, hdeps]
        rfl
      rw [if_pos hmem] at hn
      cases hn
      obtain ⟨live, hlive, hlabels⟩ := apply_labels api sys.server hdeps
      cases hlive.symm.trans hobj
      exact h.labelled hdeps hlabels
    | none =>
      rw [if_neg (AList.lookup_eq_none.mp hdeps)] at hn
      rw [apply_lookup_of_not_mem hdeps] at hobj
      exact hheld id n hn obj hobj
  | cleanup =>
    simp only [hcall] at hn hobj
    rw [cleanup_lookup] at hobj
    split at hobj
    · cases hobj
    · exact hheld id n hn obj hobj

theorem Event.Proper.deletes_iff (h : e.Proper supportCilium) :
    (e.store supportCilium).deletes (!e.party.owner.isDDA) id labels = true ↔
      operatorStoreLabelKey ∈ labels ∧ id ∉ (e.store supportCilium).deps ∧
        (managedByDDAControllerLabelKey ∈ labels ↔ e.party.owner.isDDA = true) ∧
        labels.lookup appKubernetesPartOfLabelKey =
          some (newPartOfLabelValue e.party.owner.toObjectMeta) := by
  obtain ⟨howner, hdda, _⟩ := e.store_fields supportCilium
  have hplain : newPartOfLabelValue
      { ns := e.party.owner.toObjectMeta.ns, name := e.party.owner.toObjectMeta.name } =
      newPartOfLabelValue e.party.owner.toObjectMeta := by
    rw [h.partOf]
    rfl
  simp only [Store.deletes, Store.listed, howner, hdda, hplain, decide_eq_true_eq]
  cases e.party.owner.isDDA with
  | true =>
    simp only [forall_const, Bool.not_true, Bool.false_eq_true, false_and, not_false_eq_true,
      true_and, iff_true]
    tauto
  | false => simp

theorem Held.respects (hheld : Held supportCilium sys) (h : e.Proper supportCilium) :
    Respects supportCilium sys e
      ((e.store supportCilium).cleanup {} (!e.party.owner.isDDA) sys.server).1 := by
  obtain ⟨_, _, hcilium⟩ := e.store_fields supportCilium
  refine ⟨?_, ?_, ?_⟩
  · intro id obj hobj hgone
    rw [cleanup_lookup] at hgone
    split at hgone
    · rename_i hdeletes
      obtain ⟨_, obj', hobj', hdeletes⟩ := hdeletes
      cases hobj.symm.trans hobj'
      obtain ⟨hstore, hdeps, _, hpart⟩ := h.deletes_iff.mp hdeletes
      exact ⟨hstore, hpart, hdeps⟩
    · rw [hobj] at hgone
      cases hgone
  · intro id n hn hne
    rw [cleanup_lookup, if_neg]
    rintro ⟨_, obj, hobj, hdeletes⟩
    -- Both the part-of value and the mark of the controller are those of this store.
    obtain ⟨_, _, hdda, hpart⟩ := h.deletes_iff.mp hdeletes
    have hlabelled := hheld id n hn obj hobj
    rw [hlabelled.partOf, h.partOf, Option.some.injEq] at hpart
    obtain ⟨hns, hname⟩ := partOf_injective hlabelled.ns_end e.party.ns_end hlabelled.name_start
      e.party.name_start hpart
    have hsame : n.isDDA = e.party.storeName.isDDA :=
      Bool.eq_iff_iff.mpr (hlabelled.dda.symm.trans hdda)
    refine hne ?_
    cases n
    simp only [Party.storeName, StoreName.mk.injEq] at *
    exact ⟨hns, hname, hsame⟩
  · intro id hlast hdeps
    rw [cleanup_lookup]
    split
    · rfl
    · rename_i hkept
      cases hobj : sys.server.lookup id with
      | none => rfl
      | some obj =>
        have hlabelled := hheld id _ hlast obj hobj
        refine absurd ⟨?_, obj, hobj, h.deletes_iff.mpr ⟨hlabelled.store, hdeps, ?_, ?_⟩⟩ hkept
        · rw [hcilium]
          exact hlabelled.kind
        · exact hlabelled.dda
        · rw [hlabelled.partOf, h.partOf]

end

/-- In every run of proper calls each Cleanup keeps to what its own store applied. -/
theorem cleanups_respect_stores (api : ApiServer) (supportCilium : Bool) (server : Server)
    (es : List Event) (h : ∀ e ∈ es, e.Proper supportCilium) :
    Runs.Along (step api supportCilium) (fun sys e => e.call = .cleanup →
        Respects supportCilium sys e (step api supportCilium sys e).server) { server } es := by
  refine Runs.Along.of_invariant (I := Held supportCilium) (C := fun _ e => e.Proper supportCilium)
    (fun sys e hheld he => hheld.step he) ?_ ?_ (Runs.Along.of_events h)
  · intro sys e hheld he hcall
    have hstep : (step api supportCilium sys e).server =
        ((e.store supportCilium).cleanup {} (!e.party.owner.isDDA) sys.server).1 := by
      rw [step, hcall]
    rw [hstep]
    exact hheld.respects he
  · intro id n hn
    cases hn

def firstAgent : Party where
  owner := .dda { ns := "agents", name := "first" } "1"
  ns_end := by decide
  name_start := by decide
  internal_label := nofun

def secondAgent : Party where
  owner := .dda
    { ns := "agents", name := "second", labels := .singleton datadogAgentNameLabelKey "first" } "2"
  ns_end := by decide
  name_start := by decide
  internal_label := nofun

def agentRole : ObjectID := { kind := .clusterRoles, name := "agents-role" }

theorem dropped_role_is_cleaned_up : Runs.Along (step plainServer false)
      (fun sys e => e.call = .cleanup →
        Respects false sys e (step plainServer false sys e).server) { server := ∅ }
      [⟨firstAgent, .apply, [(agentRole, {})]⟩, ⟨firstAgent, .cleanup, []⟩] := by
  refine cleanups_respect_stores plainServer false ∅ _ ?_
  intro e he
  simp only [List.mem_cons, List.not_mem_nil, or_false] at he
  rcases he with rfl | rfl
  · refine ⟨fun _ => by decide, (by rintro ⟨⟩), ?_⟩
    rintro id obj hobj
    cases List.mem_singleton.mp hobj
    decide
  · exact ⟨fun _ => by decide, (by rintro ⟨⟩), by simp⟩

/-- The first agent deletes a role that only the second one applied, and that the second
one still needs. -/
theorem labelled_agent_loses_role :
    let applied := step plainServer false { server := ∅ } ⟨secondAgent, .apply, [(agentRole, {})]⟩
    applied.lastApplied agentRole = some secondAgent.storeName ∧ agentRole ∈ applied.server ∧
      agentRole ∉ (step plainServer false applied ⟨firstAgent, .cleanup, []⟩).server ∧
      agentRole ∈ (step plainServer false applied ⟨secondAgent, .cleanup, []⟩).server ∧
      ¬Respects false applied ⟨firstAgent, .cleanup, []⟩
        (step plainServer false applied ⟨firstAgent, .cleanup, []⟩).server := by
  intro applied
  have hlast : applied.lastApplied agentRole = some secondAgent.storeName := by decide +kernel
  have hthere : agentRole ∈ applied.server := by decide +kernel
  have hgone : agentRole ∉ (step plainServer false applied ⟨firstAgent, .cleanup, []⟩).server := by
    decide +kernel
  refine ⟨hlast, hthere, hgone, by decide +kernel, fun h => ?_⟩
  have hsame := h.others agentRole _ hlast (by decide)
  rw [AList.lookup_eq_none.mpr hgone] at hsame
  exact AList.lookup_eq_none.mp hsame.symm hthere

end DatadogOperator.Dependencies
