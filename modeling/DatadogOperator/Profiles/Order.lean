import DatadogOperator.Profiles.Assignment
import Mathlib.Data.Prod.Lex
import Mathlib.Data.String.Basic

/-!
# The order profiles are listed in

Profiles are taken in the order of their creation times and names, and the
first of two that want the same node gets it. Names are unique only in a
namespace, so two profiles of one name and one creation time stay in the order
of the list. Profiles with a name that is refused change nothing, so the order
matters exactly when two others are tied.
-/

namespace DatadogOperator.Profiles

/-! ## Sorting -/

def Tied (a b : ProfileMeta) : Prop :=
  a.creationTimestamp = b.creationTimestamp ∧ a.name = b.name

def ProfileMeta.sortKey (p : ProfileMeta) : Int ×ₗ String := toLex (p.creationTimestamp, p.name)

theorem compareProfiles_isLE (a b : ProfileMeta) :
    (compareProfiles a b).isLE ↔ a.sortKey ≤ b.sortKey := by
  rw [compareProfiles, Ordering.isLE_then_iff_or, compare_lt_iff_lt, compare_eq_iff_eq,
    Ordering.isLE_iff_ne_gt, ProfileMeta.sortKey, ProfileMeta.sortKey, Prod.Lex.toLex_le_toLex]
  exact or_congr_right (and_congr_right' compare_le_iff_le)

def NotAfter (a b : Profile) : Prop :=
  (compareProfiles a.toProfileMeta b.toProfileMeta).isLE = true

instance : DecidableRel NotAfter := fun a b =>
  inferInstanceAs (Decidable ((compareProfiles a.toProfileMeta b.toProfileMeta).isLE = true))

theorem notAfter_iff : NotAfter a b ↔ a.sortKey ≤ b.sortKey :=
  compareProfiles_isLE _ _

instance : Std.Total NotAfter where
  total a b := by
    rw [notAfter_iff, notAfter_iff]
    exact le_total _ _

instance : IsTrans Profile NotAfter where
  trans a b c hab hbc := by
    rw [notAfter_iff] at *
    exact hab.trans hbc

theorem tied_of_notAfter (hab : NotAfter a b) (hba : NotAfter b a) :
    Tied a.toProfileMeta b.toProfileMeta := by
  have hkey := le_antisymm (notAfter_iff.mp hab) (notAfter_iff.mp hba)
  have hpair := toLex_inj.mp hkey
  exact ⟨congrArg Prod.fst hpair, congrArg Prod.snd hpair⟩

theorem notAfter_of_tied (h : Tied a.toProfileMeta b.toProfileMeta) : NotAfter a b := by
  rw [notAfter_iff, ProfileMeta.sortKey, ProfileMeta.sortKey, h.1, h.2]

theorem sortProfiles_pairwise (profiles : List Profile) :
    (sortProfiles profiles).Pairwise NotAfter :=
  List.pairwise_insertionSort NotAfter profiles

theorem sortProfiles_perm (profiles : List Profile) : (sortProfiles profiles).Perm profiles :=
  List.perm_insertionSort _ profiles

theorem sortProfiles_tied
    (h : Tied p.toProfileMeta q.toProfileMeta) (hlist : [p, q].Sublist profiles) :
    [p, q].Sublist (sortProfiles profiles) :=
  List.pair_sublist_insertionSort (notAfter_of_tied h) hlist

/-! ## Profiles that change nothing -/

section
variable {options : Options} {nodes : List Node} {base : Spec} {s s' : LoopState} {p : Profile}

theorem Unchanged.refl (s : LoopState) : Unchanged s s := ⟨rfl, rfl, rfl, rfl⟩

theorem Unchanged.trans (h : Unchanged s s') (h' : Unchanged s' s'') : Unchanged s s'' :=
  ⟨h'.profilesByNode.trans h.profilesByNode, h'.csInfo.trans h.csInfo,
    h'.accumulatedDefaultSpec.trans h.accumulatedDefaultSpec, h'.applied.trans h.applied⟩

theorem Unchanged.step (h : Unchanged s s') : Unchanged (reconcileProfile options nodes base s p)
      (reconcileProfile options nodes base s' p) := by
  obtain ⟨_, _, _, _, outcomes⟩ := s
  obtain ⟨byNode, cs, spec, applied, outcomes'⟩ := s'
  obtain ⟨rfl, rfl, rfl, rfl⟩ := h
  unfold reconcileProfile
  dsimp only
  cases validateProfileAndReturnRequirements p with
  | error e => exact ⟨rfl, rfl, rfl, rfl⟩
  | ok requirements =>
    dsimp only
    cases checkProfileNodeConflicts requirements nodes byNode with
    | error existing => exact ⟨rfl, rfl, rfl, rfl⟩
    | ok free =>
      dsimp only
      cases applyProfileSharedConfigOverlays options.versions spec base (p.spec.config.getD {}) with
      | error e => exact ⟨rfl, rfl, rfl, rfl⟩
      | ok candidate => exact ⟨rfl, rfl, rfl, rfl⟩

theorem invalid_of_name (h : validateProfileName p.name ≠ .ok ()) : Invalid p := by
  cases hname : validateProfileName p.name with
  | error e =>
    refine ⟨e, ?_⟩
    simp [validateProfileAndReturnRequirements, validateProfile, hname, bind, Except.bind]
  | ok u => exact absurd hname h

def Profile.validName (p : Profile) : Bool := decide (validateProfileName p.name = .ok ())

theorem run_filter_validName (options : Options) (nodes : List Node) (base : Spec)
    (h : Unchanged s s') (profiles : List Profile) :
    Unchanged (Runs.run (reconcileProfile options nodes base) s profiles)
      (Runs.run (reconcileProfile options nodes base) s' (profiles.filter (·.validName))) := by
  induction profiles generalizing s s' with
  | nil => exact h
  | cons p profiles ih =>
    by_cases hname : p.validName
    · rw [List.filter_cons_of_pos hname]
      exact ih h.step
    · rw [List.filter_cons_of_neg hname]
      have hsame : Unchanged s (reconcileProfile options nodes base s p) :=
        refused_unchanged (.inl (invalid_of_name fun h => hname (decide_eq_true h)))
      refine ih ⟨?_, ?_, ?_, ?_⟩
      · rw [hsame.profilesByNode]; exact h.profilesByNode
      · rw [hsame.csInfo]; exact h.csInfo
      · rw [hsame.accumulatedDefaultSpec]; exact h.accumulatedDefaultSpec
      · rw [hsame.applied]; exact h.applied

end

/-! ## Results -/

structure SameResult (s s' : LoopState) : Prop where
  applied : ∀ p, p ∈ s.applied ↔ p ∈ s'.applied
  profilesByNode : s.profilesByNode = s'.profilesByNode
  accumulatedDefaultSpec : s.accumulatedDefaultSpec = s'.accumulatedDefaultSpec

def ProfileList.metas (profiles : ProfileList) : List ProfileMeta :=
  profiles.items.map (·.toProfileMeta)

/-- No order shows, whatever profiles of these names and times ask for. -/
def OrderIrrelevant (options : Options) (listed : ProfileList) : Prop :=
  ∀ profiles : ProfileList, profiles.metas = listed.metas →
    ∀ order : List Profile, order.Perm profiles.items → ∀ (nodes : NodeList) (base : Spec),
      SameResult (reconcileProfiles options nodes.items base profiles.items)
        (reconcileProfiles options nodes.items base order)

/-- No two profiles with a name that is accepted are tied. -/
def NoTies (metas : List ProfileMeta) : Prop :=
  metas.Pairwise fun a b => Tied a b → validateProfileName a.name ≠ .ok ()

theorem NoTies.eq_of_notAfter {profiles : List Profile}
    (h : NoTies (profiles.map (·.toProfileMeta))) (ha : a ∈ profiles)
    (hb : b ∈ profiles) (hname : a.validName) (hab : NotAfter a b) (hba : NotAfter b a) :
    a = b := by
  have hpair := List.pairwise_map.mp h
  have hsymm : Std.Symm fun a b : Profile => Tied a.toProfileMeta b.toProfileMeta →
      validateProfileName a.name ≠ .ok () := by
    refine ⟨fun a b hab htied => ?_⟩
    rw [htied.2]
    exact hab ⟨htied.1.symm, htied.2.symm⟩
  by_contra hne
  exact hpair.forall ha hb hne (tied_of_notAfter hab hba) (of_decide_eq_true hname)

theorem sortProfiles_filter_eq {profiles order : List Profile} (hperm : order.Perm profiles)
    (h : NoTies (profiles.map (·.toProfileMeta))) :
    (sortProfiles profiles).filter (·.validName) = (sortProfiles order).filter (·.validName) := by
  have hperm' : (sortProfiles profiles).Perm (sortProfiles order) :=
    (sortProfiles_perm profiles).trans (hperm.symm.trans (sortProfiles_perm order).symm)
  refine List.Perm.eq_of_pairwise ?_ ((sortProfiles_pairwise profiles).filter _)
    ((sortProfiles_pairwise order).filter _) (hperm'.filter _)
  intro a b ha hb hab hba
  obtain ⟨ha, hname⟩ := List.mem_filter.mp ha
  have hb := (List.mem_filter.mp hb).1
  exact h.eq_of_notAfter (mem_sortProfiles.mp ha) (hperm.mem_iff.mp (mem_sortProfiles.mp hb)) hname
    hab hba

theorem NoTies.sameResult (options : Options) (nodes : List Node) (base : Spec)
    (hperm : order.Perm profiles)
    (h : NoTies (profiles.map (·.toProfileMeta))) :
    SameResult (reconcileProfiles options nodes base profiles)
      (reconcileProfiles options nodes base order) := by
  have hfirst := run_filter_validName options nodes base
    (.refl (LoopState.init nodes base)) (sortProfiles profiles)
  have hsecond := run_filter_validName options nodes base
    (.refl (LoopState.init nodes base)) (sortProfiles order)
  rw [sortProfiles_filter_eq hperm h] at hfirst
  refine ⟨fun p => ?_, ?_, ?_⟩
  · rw [reconcileProfiles, ← hfirst.applied, hsecond.applied, reconcileProfiles]
  · exact hfirst.profilesByNode.symm.trans hsecond.profilesByNode
  · exact hfirst.accumulatedDefaultSpec.symm.trans hsecond.accumulatedDefaultSpec

/-! ## Ties -/

def poolSpec : ProfileSpec where
  profileAffinity := some (some [{ key := "pool", operator := .known .opExists }])
  config := some {}

def poolNodes : NodeList where
  items := [{ name := "node", labels := (∅ : Labels).insert "pool" "a" }]
  distinct := List.nodup_singleton _

/-- Some profiles ask for the pool, and all others for nothing that is valid. -/
def contest (rivals : List NamespacedName) (p : Profile) : Profile :=
  { p with spec := if p.namespacedName ∈ rivals then poolSpec else {} }

def ProfileList.contest (listed : ProfileList) (rivals : List NamespacedName) : ProfileList where
  items := listed.items.map (Profiles.contest rivals)
  namespaced := by
    intro p hp
    obtain ⟨q, hq, rfl⟩ := List.mem_map.mp hp
    exact listed.namespaced q hq
  distinct := by
    rw [List.map_map]
    exact listed.distinct

section
variable {options : Options} {nodes : List Node} {base : Spec} {s s' : LoopState} {p q : Profile}

theorem pool_valid (hname : validateProfileName p.name = .ok ()) (hspec : p.spec = poolSpec) :
    validateProfileAndReturnRequirements p = .ok [⟨"pool", .opExists, []⟩] := by
  have hvalid : validateDatadogAgentProfileSpec poolSpec = .ok () := rfl
  have hparse : parseProfileRequirements p = .ok [⟨"pool", .opExists, []⟩] := by
    rw [parseProfileRequirements, Profile.profileNodeAffinity, hspec]
    rfl
  simp only [validateProfileAndReturnRequirements, validateProfile, hname, hspec, hvalid, hparse,
    bind, Except.bind]

theorem pool_matches (hname : validateProfileName p.name = .ok ()) (hspec : p.spec = poolSpec) :
    ∀ node ∈ poolNodes.items, p.matchesNode node := by
  intro node hnode
  obtain rfl := List.mem_singleton.mp hnode
  simp only [Profile.matchesNode, pool_valid hname hspec]
  rfl

theorem invalid_of_no_spec (hspec : p.spec = {}) : Invalid p := by
  cases hname : validateProfileName p.name with
  | error e => exact invalid_of_name (by rw [hname]; nofun)
  | ok u =>
    refine ⟨.undefined "profileAffinity", ?_⟩
    simp [validateProfileAndReturnRequirements, validateProfile, validateDatadogAgentProfileSpec,
      validateProfileAffinity, hname, hspec, bind, Except.bind]

theorem run_invalid (options : Options) (nodes : List Node) (base : Spec) (s : LoopState)
    (h : ∀ p ∈ profiles, Invalid p) :
    Unchanged s (Runs.run (reconcileProfile options nodes base) s profiles) := by
  induction profiles generalizing s with
  | nil => exact .refl s
  | cons p profiles ih =>
    have hstep : Unchanged s (reconcileProfile options nodes base s p) :=
      refused_unchanged (.inl (h p (.head _)))
    exact hstep.trans (ih _ fun q hq => h q (.tail _ hq))

theorem mem_applied_run (h : p ∈ s.applied) (profiles : List Profile) :
    p ∈ (Runs.run (reconcileProfile options nodes base) s profiles).applied := by
  refine Runs.run_always (I := fun s : LoopState => p ∈ s.applied) (fun s q h => ?_) h profiles
  rcases reconcileProfile_cases options nodes base s q with hsame | happlies
  · rw [hsame.applied]
    exact h
  · rw [happlies.applied]
    exact List.mem_append_left _ h

theorem mem_applied_of_free (hvalid : validateProfileAndReturnRequirements p = .ok requirements)
    (hfree : ∀ node ∈ nodes, s.profilesByNode.lookup node.name = some defaultProfile.namespacedName)
    (hapm : ((p.spec.config.getD {}).features.bind (·.apm)) = none) :
    p ∈ (reconcileProfile options nodes base s p).applied := by
  have hnone : checkProfileNodeConflicts requirements nodes s.profilesByNode = .ok () := by
    unfold checkProfileNodeConflicts
    dsimp only
    rw [List.find?_eq_none.mpr]
    intro node hnode
    simp [hfree node hnode, isDefaultProfile, defaultProfile, ProfileMeta.namespacedName]
  simp only [reconcileProfile, hvalid, hnone, overlay_of_no_apm hapm]
  exact List.mem_append_right _ (List.mem_singleton_self p)

end

theorem first_rival_applied (options : Options) (base : Spec)
    (hnodup : profiles.Nodup) (hlist : [p, q].Sublist profiles)
    (hname : validateProfileName p.name = .ok ()) (hspec : p.spec = poolSpec)
    (hothers : ∀ r ∈ profiles, r ≠ p → r ≠ q → r.spec = {}) :
    p ∈ (Runs.run (reconcileProfile options poolNodes.items base)
      (LoopState.init poolNodes.items base) profiles).applied := by
  obtain ⟨first, second, rfl, hp, hq⟩ := List.cons_sublist_iff.mp hlist
  obtain ⟨before, after, rfl⟩ := List.append_of_mem hp
  have hq : q ∈ second := List.singleton_sublist.mp hq
  rw [List.append_assoc, List.cons_append] at *
  -- Before the first rival there is no valid profile.
  have hbefore : ∀ r ∈ before, Invalid r := by
    intro r hr
    have hdisjoint := (List.nodup_append.mp hnodup).2.2 r hr
    refine invalid_of_no_spec (hothers r (List.mem_append_left _ hr) ?_ ?_)
    · exact hdisjoint p (.head _)
    · exact hdisjoint q (.tail _ (List.mem_append_right _ hq))
  rw [Runs.run, List.foldl_append, List.foldl_cons]
  refine mem_applied_run (mem_applied_of_free (pool_valid hname hspec) ?_ (by rw [hspec]; rfl)) _
  intro node hnode
  have hsame := run_invalid options poolNodes.items base (LoopState.init poolNodes.items base)
    hbefore
  rw [show List.foldl _ _ before = Runs.run _ _ before from rfl, hsame.profilesByNode]
  exact init_lookup base hnode

theorem ProfileList.nodup (profiles : ProfileList) : profiles.items.Nodup :=
  List.Nodup.of_map _ profiles.distinct

theorem rivals_not_sameResult (options : Options) {profiles : ProfileList}
    (hlist : [p, q].Sublist profiles.items) (htied : Tied p.toProfileMeta q.toProfileMeta)
    (hname : validateProfileName p.name = .ok ()) (hp : p.spec = poolSpec) (hq : q.spec = poolSpec)
    (hothers : ∀ r ∈ profiles.items, r ≠ p → r ≠ q → r.spec = {}) :
    ¬SameResult (reconcileProfiles options poolNodes.items {} profiles.items)
      (reconcileProfiles options poolNodes.items {} profiles.items.reverse) := by
  intro hsame
  have hnode : poolNodes.items.head (by nofun) ∈ poolNodes.items := List.mem_singleton_self _
  have hname' : validateProfileName q.name = .ok () := htied.2 ▸ hname
  have hfirst : p ∈ (reconcileProfiles options poolNodes.items {} profiles.items).applied := by
    refine first_rival_applied options {} ((sortProfiles_perm _).nodup_iff.mpr profiles.nodup)
      (sortProfiles_tied htied hlist) hname hp fun r hr => ?_
    exact hothers r (mem_sortProfiles.mp hr)
  have hsecond : q ∈ (reconcileProfiles options poolNodes.items {}
      profiles.items.reverse).applied := by
    have hnodup : profiles.items.reverse.Nodup := List.nodup_reverse.mpr profiles.nodup
    refine first_rival_applied options {} ((sortProfiles_perm _).nodup_iff.mpr hnodup)
      (sortProfiles_tied ⟨htied.1.symm, htied.2.symm⟩ hlist.reverse) hname' hq fun r hr hrq hrp => ?_
    exact hothers r (List.mem_reverse.mp (mem_sortProfiles.mp hr)) hrp hrq
  -- Both are applied to the first list then, but they match the same node.
  have hboth := (hsame.applied q).mpr hsecond
  have hne : p ≠ q := by
    rintro rfl
    exact absurd (List.mem_singleton_self p) (List.nodup_cons.mp (hlist.nodup profiles.nodup)).1
  have hsymm : Std.Symm fun p q : Profile =>
      ∀ node ∈ poolNodes.items, ¬(p.matchesNode node ∧ q.matchesNode node) :=
    ⟨fun _ _ h node hnode hboth => h node hnode hboth.symm⟩
  have hdisjoint := (reconcileProfiles_sound options poolNodes {} profiles).partitioned.disjoint
  exact hdisjoint.forall hfirst hboth hne _ hnode
    ⟨pool_matches hname hp _ hnode, pool_matches hname' hq _ hnode⟩

theorem not_orderIrrelevant (options : Options) {listed : ProfileList}
    (hlist : [p, q].Sublist listed.items) (htied : Tied p.toProfileMeta q.toProfileMeta)
    (hname : validateProfileName p.name = .ok ()) : ¬OrderIrrelevant options listed := by
  intro hirrelevant
  have hp : p ∈ listed.items := hlist.subset (.head _)
  have hq : q ∈ listed.items := hlist.subset (.tail _ (List.mem_singleton_self q))
  have hrivals : [contest [p.namespacedName, q.namespacedName] p,
      contest [p.namespacedName, q.namespacedName] q].Sublist
        (listed.contest [p.namespacedName, q.namespacedName]).items := hlist.map _
  have hmetas : (listed.contest [p.namespacedName, q.namespacedName]).metas = listed.metas := by
    rw [ProfileList.metas, ProfileList.contest, List.map_map]
    rfl
  refine rivals_not_sameResult options hrivals htied hname (if_pos (.head _))
    (if_pos (.tail _ (List.mem_singleton_self _))) ?_
    (hirrelevant _ hmetas _ (List.reverse_perm _) poolNodes {})
  intro r hr hrp hrq
  obtain ⟨r, hlisted, rfl⟩ := List.mem_map.mp hr
  refine if_neg fun hrival => ?_
  rcases List.mem_pair.mp hrival with heq | heq
  · exact hrp (congrArg _ (List.inj_on_of_nodup_map listed.distinct hlisted hp heq))
  · exact hrq (congrArg _ (List.inj_on_of_nodup_map listed.distinct hlisted hq heq))

/-- The order of the list never shows exactly when no profiles with a good name are tied. -/
theorem profile_order_irrelevant_iff (options : Options) (listed : ProfileList) :
    OrderIrrelevant options listed ↔ NoTies listed.metas := by
  constructor
  · intro hirrelevant
    rw [NoTies, ProfileList.metas, List.pairwise_map, List.pairwise_iff_forall_sublist]
    intro p q hlist htied hname
    exact not_orderIrrelevant options hlist htied hname hirrelevant
  · intro hties profiles hmetas order hperm nodes base
    rw [← hmetas] at hties
    exact hties.sameResult options nodes.items base hperm

def teamProfile (ns : String) : Profile := { ns, name := "gpu", spec := poolSpec }

theorem profile_order_shows :
    let run := reconcileProfiles { versions := plainVersions } poolNodes.items {}
    let listed := [teamProfile "ml", teamProfile "web"]
    let order := [teamProfile "web", teamProfile "ml"]
    order.Perm listed ∧ (listed.map fun p => p.namespacedName).Nodup ∧
      (run listed).applied.map (fun p => p.namespacedName) = [⟨"ml", "gpu"⟩] ∧
      (run order).applied.map (fun p => p.namespacedName) = [⟨"web", "gpu"⟩] ∧
      (run listed).profilesByNode ≠ (run order).profilesByNode :=
  ⟨.swap .., by decide +kernel⟩

end DatadogOperator.Profiles
