import DatadogOperator.Dependencies.Store
import DatadogOperator.Dependencies.Authorization

/-!
# What Apply leaves on the API server

When no call fails, every object of the store is on the server with the content that
was asked for, and a second Apply has nothing to write. The comparison decides what
counts as a difference: it looks at the binary data of a ConfigMap on one side only,
so a server that differs in nothing else is left as it is.
-/

namespace DatadogOperator.Dependencies

/-! ## Writes -/

section

variable {fails : ObjectID → Option ApiError} {objs : List (ObjectID × KubeObject)}
  {server : Server} {id : ObjectID} {obj : KubeObject}

theorem writeAll_lookup_of_not_mem (h : id ∉ objs.map Prod.fst) :
    (writeAll fails objs server).lookup id = server.lookup id := by
  induction objs generalizing server with
  | nil => rfl
  | cons e objs ih =>
    rw [List.map_cons, List.mem_cons, not_or] at h
    rw [writeAll, List.foldl_cons, ← writeAll, ih h.2]
    cases fails e.1 with
    | some _ => rfl
    | none => exact AList.lookup_insert_ne h.1

theorem writeAll_lookup_of_mem (hnodup : (objs.map Prod.fst).Nodup) (h : (id, obj) ∈ objs)
    (hok : fails id = none) : (writeAll fails objs server).lookup id = some obj := by
  induction objs generalizing server with
  | nil => cases h
  | cons e objs ih =>
    obtain ⟨hnot, hnodup⟩ := List.nodup_cons.mp hnodup
    rw [writeAll, List.foldl_cons, ← writeAll]
    rcases List.mem_cons.mp h with rfl | h
    · rw [writeAll_lookup_of_not_mem hnot]
      simp only [hok, AList.lookup_insert]
    · exact ih hnodup h

end

/-! ## Plans -/

def Plan.written : Plan → Option KubeObject
  | .create obj => some obj
  | .update obj => some obj
  | _ => none

section

variable {api : ApiServer} {calls : Calls} {s : Store} {server : Server} {id : ObjectID}
  {obj o : KubeObject}

theorem mem_plans : (id, p) ∈ s.plans api calls server ↔
      ∃ obj, s.deps.lookup id = some obj ∧ plan api calls server id obj = p := by
  simp only [Store.plans, List.mem_map, Prod.mk.injEq]
  constructor
  · rintro ⟨e, he, rfl, rfl⟩
    exact ⟨e.2, AList.mem_lookup_iff.mpr he, rfl⟩
  · rintro ⟨obj, hobj, rfl⟩
    exact ⟨⟨id, obj⟩, AList.mem_lookup_iff.mp hobj, rfl, rfl⟩

theorem mem_objsToCreate : (id, o) ∈ objsToCreate (s.plans api calls server) ↔
    ∃ obj, s.deps.lookup id = some obj ∧ plan api calls server id obj = .create o := by
  rw [← mem_plans, objsToCreate, List.mem_filterMap]
  constructor
  · rintro ⟨⟨id', p⟩, hp, hcreate⟩
    cases p with
    | create obj => cases hcreate; exact hp
    | _ => cases hcreate
  · intro hp
    exact ⟨(id, .create o), hp, rfl⟩

theorem mem_objsToUpdate : (id, o) ∈ objsToUpdate (s.plans api calls server) ↔
    ∃ obj, s.deps.lookup id = some obj ∧ plan api calls server id obj = .update o := by
  rw [← mem_plans, objsToUpdate, List.mem_filterMap]
  constructor
  · rintro ⟨⟨id', p⟩, hp, hupdate⟩
    cases p with
    | update obj => cases hupdate; exact hp
    | _ => cases hupdate
  · intro hp
    exact ⟨(id, .update o), hp, rfl⟩

theorem nodup_filterMap_plans {f : ObjectID × Plan → Option (ObjectID × KubeObject)}
    (hf : ∀ p o, f p = some o → o.1 = p.1) :
    (((s.plans api calls server).filterMap f).map Prod.fst).Nodup := by
  have hnodup : ((s.plans api calls server).map Prod.fst).Nodup := by
    rw [Store.plans, List.map_map]
    exact s.deps.nodupKeys
  refine List.Pairwise.map _ (fun _ _ h => h) ?_
  refine List.Pairwise.filterMap _ (fun p q hpq => ?_) (List.pairwise_map.mp hnodup)
  intro o ho o' ho'
  rw [hf p o ho, hf q o' ho']
  exact hpq

theorem nodup_objsToCreate : ((objsToCreate (s.plans api calls server)).map Prod.fst).Nodup := by
  refine nodup_filterMap_plans ?_
  rintro ⟨id, p⟩ o h
  cases p with
  | create obj => cases h; rfl
  | _ => cases h

theorem nodup_objsToUpdate : ((objsToUpdate (s.plans api calls server)).map Prod.fst).Nodup := by
  refine nodup_filterMap_plans ?_
  rintro ⟨id, p⟩ o h
  cases p with
  | update obj => cases h; rfl
  | _ => cases h

theorem apply_lookup_of_not_mem (h : s.deps.lookup id = none) :
    (s.apply api calls server).server.lookup id = server.lookup id := by
  rw [Store.apply, writeAll_lookup_of_not_mem, writeAll_lookup_of_not_mem]
  · rintro hmem
    obtain ⟨⟨_, o⟩, ho, rfl⟩ := List.mem_map.mp hmem
    obtain ⟨obj, hobj, _⟩ := mem_objsToCreate.mp ho
    rw [h] at hobj
    cases hobj
  · rintro hmem
    obtain ⟨⟨_, o⟩, ho, rfl⟩ := List.mem_map.mp hmem
    obtain ⟨obj, hobj, _⟩ := mem_objsToUpdate.mp ho
    rw [h] at hobj
    cases hobj

theorem apply_lookup (api : ApiServer) (server : Server) (h : s.deps.lookup id = some obj) :
    (s.apply api {} server).server.lookup id =
      (plan api {} server id obj).written.or (server.lookup id) := by
  have hcreate : ∀ o, (id, o) ∈ objsToCreate (s.plans api {} server) →
      plan api {} server id obj = .create o := by
    intro o ho
    obtain ⟨obj', hobj', hplan⟩ := mem_objsToCreate.mp ho
    cases h.symm.trans hobj'
    exact hplan
  have hupdate : ∀ o, (id, o) ∈ objsToUpdate (s.plans api {} server) →
      plan api {} server id obj = .update o := by
    intro o ho
    obtain ⟨obj', hobj', hplan⟩ := mem_objsToUpdate.mp ho
    cases h.symm.trans hobj'
    exact hplan
  have hnot_created : (∀ o, plan api {} server id obj ≠ .create o) →
      id ∉ (objsToCreate (s.plans api {} server)).map Prod.fst := by
    intro hne hmem
    obtain ⟨⟨_, o⟩, ho, rfl⟩ := List.mem_map.mp hmem
    exact hne o (hcreate o ho)
  have hnot_updated : (∀ o, plan api {} server id obj ≠ .update o) →
      id ∉ (objsToUpdate (s.plans api {} server)).map Prod.fst := by
    intro hne hmem
    obtain ⟨⟨_, o⟩, ho, rfl⟩ := List.mem_map.mp hmem
    exact hne o (hupdate o ho)
  rw [Store.apply]
  cases hplan : plan api {} server id obj with
  | create o =>
    rw [writeAll_lookup_of_not_mem (hnot_updated (by simp [hplan])),
      writeAll_lookup_of_mem nodup_objsToCreate (mem_objsToCreate.mpr ⟨obj, h, hplan⟩) rfl]
    rfl
  | update o =>
    rw [writeAll_lookup_of_mem nodup_objsToUpdate (mem_objsToUpdate.mpr ⟨obj, h, hplan⟩) rfl]
    rfl
  | keep o =>
    rw [writeAll_lookup_of_not_mem (hnot_updated (by simp [hplan])),
      writeAll_lookup_of_not_mem (hnot_created (by simp [hplan]))]
    rfl
  | failed e =>
    rw [writeAll_lookup_of_not_mem (hnot_updated (by simp [hplan])),
      writeAll_lookup_of_not_mem (hnot_created (by simp [hplan]))]
    rfl

theorem plan_cases (api : ApiServer) (server : Server) (id : ObjectID) (obj : KubeObject) :
    (api.get server id = none ∧
      plan api {} server id obj = .create (applyPreprocessing id.kind obj none)) ∨
    ∃ live, api.get server id = some live ∧
      ((isEqualObject id.kind (applyPreprocessing id.kind obj (some live)) live = true ∧
          plan api {} server id obj = .keep (applyPreprocessing id.kind obj (some live))) ∨
        (isEqualObject id.kind (applyPreprocessing id.kind obj (some live)) live = false ∧
          plan api {} server id obj = .update (applyPreprocessing id.kind obj (some live)))) := by
  cases hlive : api.get server id with
  | none => exact .inl ⟨rfl, by simp [plan, getObject, hlive]⟩
  | some live =>
    refine .inr ⟨live, rfl, ?_⟩
    cases hequal : isEqualObject id.kind (applyPreprocessing id.kind obj (some live)) live with
    | true => exact .inl ⟨rfl, by simp [plan, getObject, hlive, hequal]⟩
    | false => exact .inr ⟨rfl, by simp [plan, getObject, hlive, hequal]⟩

theorem apply_get (h : s.deps.lookup id = some obj) : (∃ live, api.get server id = some live ∧
      api.get (s.apply api {} server).server id = some live ∧
      isEqualObject id.kind (applyPreprocessing id.kind obj (some live)) live = true ∧
      leave api {} server id obj = applyPreprocessing id.kind obj (some live)) ∨
    (api.get (s.apply api {} server).server id =
        some (api.persist id (applyPreprocessing id.kind obj (api.get server id))) ∧
      leave api {} server id obj =
        api.persist id (applyPreprocessing id.kind obj (api.get server id)) ∧
      ∀ live, api.get server id = some live →
        isEqualObject id.kind (applyPreprocessing id.kind obj (some live)) live = false) := by
  have happly := apply_lookup api server h
  rcases plan_cases api server id obj with
    ⟨hlive, hplan⟩ | ⟨live, hlive, ⟨hequal, hplan⟩ | ⟨hdiffers, hplan⟩⟩
  · rw [hplan] at happly
    refine .inr ⟨?_, by simp [leave, hplan, hlive], by simp [hlive]⟩
    rw [hlive, ApiServer.get, happly]
    rfl
  · rw [hplan] at happly
    refine .inl ⟨live, hlive, ?_, hequal, by simp [leave, hplan]⟩
    rw [ApiServer.get, happly]
    exact hlive
  · rw [hplan] at happly
    refine .inr ⟨?_, by simp [leave, hplan, hlive], ?_⟩
    · rw [hlive, ApiServer.get, happly]
      rfl
    · intro live' hlive'
      cases hlive.symm.trans hlive'
      exact hdiffers

end

/-! ## Preprocessing and managed content -/

/-- An object as it is asked for: rules are normalised. -/
def KubeObject.wanted (kind : ObjectKind) (obj : KubeObject) : KubeObject :=
  (applyPreprocessing kind obj none).managed kind

def ObjectKind.hasRules (kind : ObjectKind) : Prop := kind = .clusterRoles ∨ kind = .roles

section

variable {kind : ObjectKind} {a b obj : KubeObject}

theorem preprocessRole_eq (obj : KubeObject) :
    preprocessRole obj = { obj with rules := normalizePolicyRules obj.rules } := by
  rw [preprocessRole]
  split
  · rfl
  · rename_i hempty
    have hrules : obj.rules = [] := List.length_eq_zero_iff.mp (by omega)
    rw [hrules, show normalizePolicyRules [] = [] from rfl, ← hrules]

theorem managed_applyPreprocessing (live : Option KubeObject) :
    (applyPreprocessing kind obj live).managed kind = obj.wanted kind := by
  cases kind with
  | services => cases live <;> rfl
  | _ => rfl

theorem wanted_congr (h : a.managed kind = b.managed kind) : a.wanted kind = b.wanted kind := by
  rw [KubeObject.wanted, KubeObject.wanted]
  cases kind with
  | clusterRoles | roles =>
    simp_all [applyPreprocessing, preprocessRole_eq, KubeObject.managed]
  | _ => exact h

theorem wanted_wanted_iff : (obj.wanted kind).wanted kind = obj.wanted kind ↔ (kind.hasRules →
      normalizePolicyRules (normalizePolicyRules obj.rules) = normalizePolicyRules obj.rules) := by
  cases kind with
  | clusterRoles | roles =>
    simp [KubeObject.wanted, applyPreprocessing, preprocessRole_eq, KubeObject.managed,
      ObjectKind.hasRules]
  | _ =>
    simp [KubeObject.wanted, applyPreprocessing, preprocessService, KubeObject.managed,
      ObjectKind.hasRules]

theorem wanted_of_managed (h : a.managed kind = obj.wanted kind) :
    a.wanted kind = (obj.wanted kind).wanted kind := by
  have hmanaged : ∀ o : KubeObject, (o.managed kind).managed kind = o.managed kind := by
    intro o
    cases kind <;> rfl
  exact wanted_congr (h.trans (hmanaged _).symm)

end

theorem apply_labels (api : ApiServer) (server : Server) {s : Store} {id : ObjectID}
    (h : s.deps.lookup id = some obj) :
    ∃ o, (s.apply api {} server).server.lookup id = some o ∧ o.labels = obj.labels := by
  have hlabels : ∀ live, (applyPreprocessing id.kind obj live).labels = obj.labels := by
    intro live
    cases id.kind with
    | clusterRoles | roles => rw [applyPreprocessing, preprocessRole_eq]
    | services => cases live <;> rfl
    | _ => rfl
  have happly := apply_lookup api server h
  rcases plan_cases api server id obj with
    ⟨_, hplan⟩ | ⟨live, hlive, ⟨hequal, hplan⟩ | ⟨_, hplan⟩⟩
  · rw [hplan] at happly
    exact ⟨_, happly, hlabels none⟩
  · -- The object on the server stays: its labels were found equal.
    rw [hplan] at happly
    obtain ⟨raw, hraw, rfl⟩ := Option.map_eq_some_iff.mp hlive
    have hmeta := (Bool.and_eq_true_iff.mp hequal).1
    refine ⟨raw, happly.trans hraw, ?_⟩
    rw [← api.persist_labels id raw, ← (isEqualOperatorObjectMeta_iff.mp hmeta).2.2, hlabels]
  · rw [hplan] at happly
    exact ⟨_, happly, hlabels (some live)⟩

/-! ## Convergence -/

/-- The object is there with the content that was asked for, and a service has the
cluster IPs it had before. -/
def OnServer (api : ApiServer) (before after : Server) (id : ObjectID) (obj : KubeObject) : Prop :=
  ∃ live, api.get after id = some live ∧ live.managed id.kind = obj.wanted id.kind ∧
    (id.kind = .services → ∀ old, api.get before id = some old → old.service.clusterIP ≠ "" →
      live.service.clusterIP = old.service.clusterIP ∧
        live.service.clusterIPs = old.service.clusterIPs)

/-- An Apply would create and update nothing. -/
def Quiet (api : ApiServer) (s : Store) (server : Server) : Prop :=
  objsToCreate (s.plans api {} server) = [] ∧ objsToUpdate (s.plans api {} server) = []

/-- What an Apply is for. A second one finds nothing to do, whether it is of the store
the first one left or of a store with the same objects. -/
structure Settles (api : ApiServer) (s : Store) (server : Server) : Prop where
  onServer : ∀ id obj, s.deps.lookup id = some obj →
    OnServer api server (s.apply api {} server).server id obj
  quiet_left : Quiet api (s.apply api {} server).store (s.apply api {} server).server
  quiet_again : Quiet api s (s.apply api {} server).server

/-- The object can be told from what the server has, and kept as it is. -/
structure Manageable (api : ApiServer) (server : Server) (id : ObjectID) (obj : KubeObject) :
    Prop where
  compared : id.kind ≠ .node
  normal : id.kind.hasRules →
    normalizePolicyRules (normalizePolicyRules obj.rules) = normalizePolicyRules obj.rules
  persisted :
    (api.persist id (applyPreprocessing id.kind obj none)).managed id.kind = obj.wanted id.kind
  binaryData : id.kind = .configMap → ∀ live, api.get server id = some live →
    isEqualObject id.kind obj live = true → obj.binaryData = live.binaryData

section

variable {api : ApiServer} {s : Store} {server : Server} {id : ObjectID} {obj : KubeObject}

theorem quiet_iff : Quiet api s server ↔ ∀ id obj, s.deps.lookup id = some obj →
    ∃ live, api.get server id = some live ∧
      isEqualObject id.kind (applyPreprocessing id.kind obj (some live)) live = true := by
  constructor
  · rintro ⟨hcreate, hupdate⟩ id obj hobj
    rcases plan_cases api server id obj with
      ⟨_, hplan⟩ | ⟨live, hlive, ⟨hequal, _⟩ | ⟨_, hplan⟩⟩
    · have hmem := mem_objsToCreate.mpr ⟨obj, hobj, hplan⟩
      rw [hcreate] at hmem
      cases hmem
    · exact ⟨live, hlive, hequal⟩
    · have hmem := mem_objsToUpdate.mpr ⟨obj, hobj, hplan⟩
      rw [hupdate] at hmem
      cases hmem
  · intro h
    have hkeep : ∀ id obj, s.deps.lookup id = some obj →
        ∃ o, plan api {} server id obj = .keep o := by
      intro id obj hobj
      obtain ⟨live, hlive, hequal⟩ := h id obj hobj
      exact ⟨applyPreprocessing id.kind obj (some live), by simp [plan, getObject, hlive, hequal]⟩
    refine ⟨List.eq_nil_iff_forall_not_mem.mpr ?_, List.eq_nil_iff_forall_not_mem.mpr ?_⟩
    · rintro ⟨id, o⟩ hmem
      obtain ⟨obj, hobj, hplan⟩ := mem_objsToCreate.mp hmem
      obtain ⟨_, hkeep⟩ := hkeep id obj hobj
      cases hplan.symm.trans hkeep
    · rintro ⟨id, o⟩ hmem
      obtain ⟨obj, hobj, hplan⟩ := mem_objsToUpdate.mp hmem
      obtain ⟨_, hkeep⟩ := hkeep id obj hobj
      cases hplan.symm.trans hkeep

theorem isEqualObject_of_wanted (hnode : kind ≠ .node) (h : live.managed kind = obj.wanted kind) :
    isEqualObject kind (applyPreprocessing kind obj (some live)) live = true :=
  ((isEqualObject_iff hnode).mpr ((managed_applyPreprocessing _).trans h.symm)).1

theorem Manageable.onServer (h : Manageable api server id obj)
    (hobj : s.deps.lookup id = some obj) :
    OnServer api server (s.apply api {} server).server id obj := by
  rcases apply_get hobj with ⟨live, hlive, hafter, hequal, _⟩ | ⟨hafter, _, _⟩
  · -- Nothing was written: the comparison found no difference.
    refine ⟨live, hafter, ?_, ?_⟩
    · rw [← managed_applyPreprocessing (some live)]
      refine ((isEqualObject_iff h.compared).mp ⟨hequal, fun hkind => ?_⟩).symm
      have hsame : applyPreprocessing id.kind obj (some live) = obj := by rw [hkind]; rfl
      rw [hsame] at hequal ⊢
      exact h.binaryData hkind live hlive hequal
    · intro _ old hold _
      cases hlive.symm.trans hold
      exact ⟨rfl, rfl⟩
  · refine ⟨_, hafter, ?_, ?_⟩
    · rw [← h.persisted]
      exact api.persist_managed id _ _
        ((managed_applyPreprocessing _).trans (managed_applyPreprocessing none).symm)
    · intro hkind old hold hip
      have hkept : (applyPreprocessing id.kind obj (api.get server id)).service.clusterIP =
          old.service.clusterIP ∧
          (applyPreprocessing id.kind obj (api.get server id)).service.clusterIPs =
            old.service.clusterIPs := by
        rw [hkind, hold]
        exact ⟨rfl, rfl⟩
      have hpersist := api.persist_clusterIP id _ (hkept.1 ▸ hip)
      exact ⟨hpersist.1.trans hkept.1, hpersist.2.trans hkept.2⟩

theorem leave_managed (hobj : s.deps.lookup id = some obj)
    (hlive : api.get (s.apply api {} server).server id = some live)
    (hwanted : live.managed id.kind = obj.wanted id.kind) :
    (leave api {} server id obj).managed id.kind = obj.wanted id.kind := by
  rcases apply_get hobj with ⟨live', _, _, _, hleave⟩ | ⟨hafter, hleave, _⟩
  · rw [hleave, managed_applyPreprocessing]
  · cases hafter.symm.trans hlive
    rw [hleave]
    exact hwanted

theorem persist_get (h : api.get server id = some live) : api.persist id live = live := by
  obtain ⟨raw, _, rfl⟩ := Option.map_eq_some_iff.mp h
  exact api.persist_persist id raw

theorem lookup_left : (s.apply api {} server).store.deps.lookup id =
    (s.deps.lookup id).map (leave api {} server id) :=
  Grouping.lookup_mapValues _ _ _

end

/-- A store is settled by an Apply exactly when its objects are manageable. -/
theorem apply_settles_iff (api : ApiServer) (s : Store) (server : Server) : Settles api s server ↔
      ∀ id obj, s.deps.lookup id = some obj → Manageable api server id obj := by
  constructor
  · intro h id obj hobj
    obtain ⟨live, hlive, hwanted, _⟩ := h.onServer id obj hobj
    have hleft : (s.apply api {} server).store.deps.lookup id =
        some (leave api {} server id obj) := by
      rw [lookup_left, hobj, Option.map_some]
    obtain ⟨live', hlive', hequal⟩ := quiet_iff.mp h.quiet_left id _ hleft
    cases hlive.symm.trans hlive'
    have hnode : id.kind ≠ .node := by
      intro hkind
      rw [hkind] at hequal
      simp [isEqualObject] at hequal
    have hstore := leave_managed hobj hlive hwanted
    refine ⟨hnode, ?_, ?_, ?_⟩
    · -- The store is left with normal rules, and they are normalised again.
      intro hrules
      have hconfig : id.kind ≠ .configMap := by
        rcases hrules with hkind | hkind <;> simp [hkind]
      have hmanaged := (isEqualObject_iff hnode).mp ⟨hequal, fun hkind => absurd hkind hconfig⟩
      rw [managed_applyPreprocessing, wanted_of_managed hstore, hwanted] at hmanaged
      exact wanted_wanted_iff.mp hmanaged hrules
    · have hsame : (applyPreprocessing id.kind obj none).managed id.kind = live.managed id.kind :=
        hwanted.symm
      rw [api.persist_managed id _ _ hsame, persist_get hlive, hwanted]
    · intro hkind old hold hequal
      have hsame : ∀ live, applyPreprocessing id.kind obj live = obj := by
        intro live
        rw [hkind]
        rfl
      rcases apply_get hobj with ⟨live', hlive', hafter, _, _⟩ | ⟨_, _, hdiffers⟩
      · cases hold.symm.trans hlive'
        cases hlive.symm.trans hafter
        rw [KubeObject.wanted, hsame, hkind] at hwanted
        exact (congrArg KubeObject.binaryData hwanted).symm
      · have hfalse := hdiffers old hold
        rw [hsame, hequal] at hfalse
        cases hfalse
  · intro h
    have hon := fun id obj hobj => (h id obj hobj).onServer hobj
    refine ⟨hon, quiet_iff.mpr ?_, quiet_iff.mpr ?_⟩
    · intro id obj' hobj'
      rw [lookup_left] at hobj'
      obtain ⟨obj, hobj, rfl⟩ := Option.map_eq_some_iff.mp hobj'
      obtain ⟨live, hlive, hwanted, _⟩ := hon id obj hobj
      refine ⟨live, hlive, isEqualObject_of_wanted (h id obj hobj).compared ?_⟩
      rw [wanted_of_managed (leave_managed hobj hlive hwanted),
        wanted_wanted_iff.mpr (h id obj hobj).normal]
      exact hwanted
    · intro id obj hobj
      obtain ⟨live, hlive, hwanted, _⟩ := hon id obj hobj
      exact ⟨live, hlive, isEqualObject_of_wanted (h id obj hobj).compared hwanted⟩

def plainServer : ApiServer where
  persist _ obj := obj
  persist_persist _ _ := rfl
  persist_labels _ _ := rfl
  persist_managed _ _ _ h := h
  persist_clusterIP _ _ _ := ⟨rfl, rfl⟩

def binaryID : ObjectID := { kind := .configMap, ns := "agents", name := "datadog-checks" }

def binaryConfigMap (text : String) : KubeObject :=
  { data := some (Finmap.singleton "checks.yaml" "enabled")
    binaryData := some (Finmap.singleton "checks.whl" text) }

def binaryStore (text : String) : Store :=
  ({ owner := .ddai { ns := "agents", name := "datadog" } "1" } : Store).addOrUpdate binaryID
    (binaryConfigMap text)

def binaryServer : Server := ((binaryStore "old").apply plainServer {} ∅).server

/-- New binary data alone never reaches the server. -/
theorem binary_data_not_applied :
    (plainServer.get ((binaryStore "new").apply plainServer {} binaryServer).server binaryID).map
      (·.binaryData == (binaryConfigMap "new").binaryData) = some false ∧
    ¬Settles plainServer (binaryStore "new") binaryServer := by
  have hserver : (plainServer.get ((binaryStore "new").apply plainServer {}
      binaryServer).server binaryID).map
      (·.binaryData == (binaryConfigMap "new").binaryData) = some false := by decide +kernel
  refine ⟨hserver, fun h => ?_⟩
  obtain ⟨live, hlive, hwanted, _⟩ := h.onServer binaryID _ (AList.lookup_insert _)
  rw [hlive] at hserver
  have hdata := congrArg KubeObject.binaryData hwanted
  change live.binaryData = (binaryConfigMap "new").binaryData at hdata
  simp [hdata] at hserver

end DatadogOperator.Dependencies
