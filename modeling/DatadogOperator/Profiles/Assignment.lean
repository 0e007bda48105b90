import DatadogOperator.Lib.Checked
import DatadogOperator.Profiles.Reconcile

/-!
# Nodes of applied profiles

Every turn of the loop either leaves what the loop carries alone or gives the
nodes a profile matches to it. None of them was on another profile, so the
node sets of applied profiles stay disjoint, and a node that no applied
profile matches stays where it started.
-/

namespace DatadogOperator.Profiles

def Profile.matchesNode (p : Profile) (node : Node) : Bool :=
  match validateProfileAndReturnRequirements p with
  | .ok requirements => profileMatchesNodeWithRequirements requirements node.labels
  | .error _ => false

/-! ## One turn -/

section
variable {options : Options} {nodes : List Node} {base : Spec} {s s' : LoopState} {p : Profile}

def Taken (profilesByNode : ProfilesByNode) (node : Node) : Prop :=
  ∃ existing, profilesByNode.lookup node.name = some existing ∧
    isDefaultProfile existing.ns existing.name = false

def Invalid (p : Profile) : Prop := ∃ e, validateProfileAndReturnRequirements p = .error e

def ConflictsOnNode (nodes : List Node) (s : LoopState) (p : Profile) : Prop :=
  ∃ node ∈ nodes, p.matchesNode node ∧ Taken s.profilesByNode node

def OverlayRejected (options : Options) (base : Spec) (s : LoopState) (p : Profile) : Prop :=
  ∃ e, applyProfileSharedConfigOverlays options.versions s.accumulatedDefaultSpec base
    (p.spec.config.getD {}) = .error e

structure Unchanged (s s' : LoopState) : Prop where
  profilesByNode : s'.profilesByNode = s.profilesByNode
  csInfo : s'.csInfo = s.csInfo
  accumulatedDefaultSpec : s'.accumulatedDefaultSpec = s.accumulatedDefaultSpec
  applied : s'.applied = s.applied

structure Applies (options : Options) (nodes : List Node) (base : Spec) (s : LoopState)
    (p : Profile) (s' : LoopState) : Prop where
  valid : ∃ requirements, validateProfileAndReturnRequirements p = .ok requirements ∧
    (s'.profilesByNode, s'.csInfo) = assignNodesToProfile options.createStrategyEnabled
      requirements p.namespacedName nodes s.profilesByNode s.csInfo
  free : ∀ node ∈ nodes, p.matchesNode node →
    ∀ existing, s.profilesByNode.lookup node.name = some existing →
      isDefaultProfile existing.ns existing.name
  overlay : applyProfileSharedConfigOverlays options.versions s.accumulatedDefaultSpec base
    (p.spec.config.getD {}) = .ok s'.accumulatedDefaultSpec
  applied : s'.applied = s.applied ++ [p]

theorem rejected_unchanged (s : LoopState) (p : Profile) (outcome : Outcome) :
    Unchanged s (s.rejected p outcome) :=
  ⟨rfl, rfl, rfl, rfl⟩

theorem checkProfileNodeConflicts_free
    (h : checkProfileNodeConflicts requirements nodes profilesByNode = .ok ()) :
    ∀ node ∈ nodes, profileMatchesNodeWithRequirements requirements node.labels →
      ∀ existing, profilesByNode.lookup node.name = some existing →
        isDefaultProfile existing.ns existing.name := by
  intro node hnode hmatches existing hexisting
  unfold checkProfileNodeConflicts at h
  dsimp only at h
  split at h
  · cases h
  · rename_i hnone
    have := List.find?_eq_none.mp hnone node hnode
    simpa [hmatches, hexisting] using this

theorem reconcileProfile_cases (options : Options) (nodes : List Node) (base : Spec)
    (s : LoopState) (p : Profile) :
    let s' := reconcileProfile options nodes base s p
    Unchanged s s' ∨ Applies options nodes base s p s' := by
  unfold reconcileProfile
  dsimp only
  split
  · exact .inl (rejected_unchanged ..)
  · rename_i requirements hvalid
    split
    · exact .inl (rejected_unchanged ..)
    · rename_i hfree
      split
      · exact .inl (rejected_unchanged ..)
      · rename_i spec hoverlay
        refine .inr ⟨⟨requirements, hvalid, rfl⟩, ?_, hoverlay, rfl⟩
        intro node hnode hmatches
        simp only [Profile.matchesNode, hvalid] at hmatches
        exact checkProfileNodeConflicts_free hfree node hnode hmatches

theorem refused_unchanged
    (h : Invalid p ∨ ConflictsOnNode nodes s p ∨ OverlayRejected options base s p) :
    Unchanged s (reconcileProfile options nodes base s p) := by
  rcases reconcileProfile_cases options nodes base s p with hsame | happlies
  · exact hsame
  · obtain ⟨requirements, hvalid, -⟩ := happlies.valid
    rcases h with ⟨e, hinvalid⟩ | ⟨node, hnode, hmatches, existing, hlookup, hother⟩ | ⟨e, hrejected⟩
    · rw [hvalid] at hinvalid
      cases hinvalid
    · rw [happlies.free node hnode hmatches existing hlookup] at hother
      cases hother
    · rw [happlies.overlay] at hrejected
      cases hrejected

/-! ## Assigned nodes -/

theorem foldl_assignNode_lookup (enabled : Bool) (requirements : List Requirement)
    (profile : NamespacedName) (acc : ProfilesByNode × CSInfo) (name : String)
    (h : ∀ node ∈ nodes, node.name = name →
      profileMatchesNodeWithRequirements requirements node.labels = false) :
    (nodes.foldl (assignNode enabled requirements profile) acc).1.lookup name =
      acc.1.lookup name := by
  induction nodes generalizing acc with
  | nil => rfl
  | cons node nodes ih =>
    rw [List.foldl_cons, ih _ fun n hn => h n (.tail _ hn)]
    unfold assignNode
    split
    · rfl
    · rename_i hmatches
      refine Finmap.lookup_insert_of_ne _ fun hname => hmatches ?_
      exact h node (.head _) hname.symm

theorem assignNodesToProfile_lookup (hnodes : (nodes.map (·.name)).Nodup) (hnode : node ∈ nodes) :
    (assignNodesToProfile enabled requirements profile nodes profilesByNode csInfo).1.lookup
      node.name = if profileMatchesNodeWithRequirements requirements node.labels then some profile
        else profilesByNode.lookup node.name := by
  unfold assignNodesToProfile
  dsimp only
  generalize (if enabled && (csInfo.lookup profile).isNone then csInfo.insert profile {}
    else csInfo) = csInfo'
  have hunique (n : Node) (hn : n ∈ nodes) (heq : n.name = node.name) : n = node :=
    List.inj_on_of_nodup_map hnodes hn hnode heq
  split
  · rename_i hmatches
    obtain ⟨before, after, rfl⟩ := List.append_of_mem hnode
    rw [List.foldl_append, List.foldl_cons, foldl_assignNode_lookup]
    · rw [assignNode, if_neg (by simp [hmatches])]
      exact Finmap.lookup_insert _
    · intro n hn heq
      rw [List.map_append, List.map_cons] at hnodes
      have hnot := (List.nodup_cons.mp (List.nodup_append.mp hnodes).2.1).1
      exact absurd (List.mem_map.mpr ⟨n, hn, heq⟩) hnot
  · rename_i hmatches
    refine foldl_assignNode_lookup _ _ _ _ _ fun n hn heq => ?_
    rw [hunique n hn heq]
    exact Bool.eq_false_iff.mpr hmatches

theorem init_lookup (base : Spec) (hnode : node ∈ nodes) :
    (LoopState.init nodes base).profilesByNode.lookup node.name =
      some defaultProfile.namespacedName := by
  unfold LoopState.init
  dsimp only
  obtain ⟨before, after, rfl⟩ := List.append_of_mem hnode
  rw [List.foldl_append, List.foldl_cons]
  generalize List.foldl _ _ before = acc
  -- Later nodes of the same name get the same entry.
  induction after using List.reverseRecOn with
  | nil => exact Finmap.lookup_insert _
  | append_singleton after n ih =>
    rw [List.foldl_append]
    by_cases hname : node.name = n.name
    · rw [hname]
      exact Finmap.lookup_insert _
    · rw [List.foldl_cons, List.foldl_nil, Finmap.lookup_insert_of_ne _ hname]
      exact ih (by simp)

/-! ## Runs -/

/-- The nodes of the applied profiles, and all others on the default profile. -/
structure Partitioned (nodes : List Node) (s : LoopState) : Prop where
  assigned : ∀ p ∈ s.applied, ∀ node ∈ nodes, p.matchesNode node →
    s.profilesByNode.lookup node.name = some p.namespacedName
  disjoint : s.applied.Pairwise fun p q =>
    ∀ node ∈ nodes, ¬(p.matchesNode node ∧ q.matchesNode node)
  unmatched : ∀ node ∈ nodes, (∀ p ∈ s.applied, p.matchesNode node = false) →
    s.profilesByNode.lookup node.name = some defaultProfile.namespacedName

theorem Partitioned.init (nodes : List Node) (base : Spec) :
    Partitioned nodes (LoopState.init nodes base) := by
  refine ⟨fun p hp => absurd hp List.not_mem_nil, List.Pairwise.nil, ?_⟩
  intro node hnode _
  exact init_lookup base hnode

theorem Partitioned.unchanged (h : Partitioned nodes s) (hs : Unchanged s s') :
    Partitioned nodes s' := by
  refine ⟨?_, ?_, ?_⟩
  · rw [hs.applied, hs.profilesByNode]
    exact h.assigned
  · rw [hs.applied]
    exact h.disjoint
  · rw [hs.applied, hs.profilesByNode]
    exact h.unmatched

theorem isDefaultProfile_of_ns (h : ns ≠ "") : isDefaultProfile ns name = false := by
  simp [isDefaultProfile, h]

theorem isDefaultProfile_default : isDefaultProfile defaultProfile.ns defaultProfile.name = true :=
  rfl

theorem Applies.not_matches (happlies : Applies options nodes base s p s')
    (h : Partitioned nodes s) (hns : ∀ q ∈ s.applied, q.ns ≠ "")
    (hq : q ∈ s.applied) (hnode : node ∈ nodes) (hmatches : q.matchesNode node) :
    p.matchesNode node = false := by
  by_contra hp
  have hfree := happlies.free node hnode (by simpa using hp) q.namespacedName
    (h.assigned q hq node hnode hmatches)
  rw [show isDefaultProfile q.namespacedName.ns q.namespacedName.name = false from
    isDefaultProfile_of_ns (hns q hq)] at hfree
  cases hfree

theorem Applies.lookup (happlies : Applies options nodes base s p s')
    (hnodes : (nodes.map (·.name)).Nodup) (hnode : node ∈ nodes) :
    s'.profilesByNode.lookup node.name = if p.matchesNode node then some p.namespacedName
      else s.profilesByNode.lookup node.name := by
  obtain ⟨requirements, hvalid, heq⟩ := happlies.valid
  rw [show s'.profilesByNode = _ from congrArg Prod.fst heq]
  simp only [Profile.matchesNode, hvalid]
  exact assignNodesToProfile_lookup hnodes hnode

theorem Partitioned.applies (h : Partitioned nodes s) (hnodes : (nodes.map (·.name)).Nodup)
    (hns : ∀ q ∈ s.applied, q.ns ≠ "") (happlies : Applies options nodes base s p s') :
    Partitioned nodes s' := by
  refine ⟨?_, ?_, ?_⟩
  · intro q hq node hnode hmatches
    rw [happlies.lookup hnodes hnode]
    rw [happlies.applied] at hq
    rcases List.mem_append.mp hq with hq | hq
    · rw [if_neg (by simp [happlies.not_matches h hns hq hnode hmatches])]
      exact h.assigned q hq node hnode hmatches
    · obtain rfl := List.mem_singleton.mp hq
      rw [if_pos hmatches]
  · rw [happlies.applied, List.pairwise_append]
    refine ⟨h.disjoint, List.pairwise_singleton _ _, ?_⟩
    intro q hq p' hp' node hnode hboth
    obtain rfl := List.mem_singleton.mp hp'
    rw [happlies.not_matches h hns hq hnode hboth.1] at hboth
    cases hboth.2
  · intro node hnode hnone
    rw [happlies.applied] at hnone
    have hp := hnone p (List.mem_append_right _ (List.mem_singleton_self _))
    rw [happlies.lookup hnodes hnode, if_neg (by simp [hp])]
    exact h.unmatched node hnode fun q hq => hnone q (List.mem_append_left _ hq)

theorem mem_sortProfiles : p ∈ sortProfiles profiles ↔ p ∈ profiles :=
  List.mem_insertionSort _

structure Sound (profiles : List Profile) (nodes : List Node) (s : LoopState) : Prop where
  partitioned : Partitioned nodes s
  listed : ∀ q ∈ s.applied, q ∈ profiles

theorem Sound.step (hns : ∀ q ∈ profiles, q.ns ≠ "")
    (hnodes : (nodes.map (·.name)).Nodup) (h : Sound profiles nodes s) (hp : p ∈ profiles) :
    Sound profiles nodes (reconcileProfile options nodes base s p) := by
  rcases reconcileProfile_cases options nodes base s p with hsame | happlies
  · refine ⟨h.partitioned.unchanged hsame, ?_⟩
    rw [hsame.applied]
    exact h.listed
  · refine ⟨h.partitioned.applies hnodes (fun q hq => hns q (h.listed q hq)) happlies, ?_⟩
    intro q hq
    rw [happlies.applied] at hq
    rcases List.mem_append.mp hq with hq | hq
    · exact h.listed q hq
    · obtain rfl := List.mem_singleton.mp hq
      exact hp

theorem reconcileProfiles_sound (options : Options) (nodes : NodeList) (base : Spec)
    (profiles : ProfileList) :
    Sound profiles.items nodes.items
      (reconcileProfiles options nodes.items base profiles.items) := by
  have hinit : Sound profiles.items nodes.items (LoopState.init nodes.items base) :=
    ⟨Partitioned.init nodes.items base, fun q hq => absurd hq List.not_mem_nil⟩
  refine Runs.run_invariant (C := fun _ p => p ∈ profiles.items) ?_ hinit
    (Runs.Along.of_events fun p hp => mem_sortProfiles.mp hp)
  intro s p h hp
  exact h.step profiles.namespaced nodes.distinct hp

theorem profileNodeAffinity_of_valid (h : validateProfileAffinity p.spec.profileAffinity = .ok ()) :
    p.profileNodeAffinity ≠ [] := by
  unfold Profile.profileNodeAffinity
  rcases haffinity : p.spec.profileAffinity with _ | _ | _ | ⟨r, rest⟩
  all_goals rw [haffinity] at h
  · cases h
  · cases h
  · cases h
  · exact List.cons_ne_nil r rest

theorem named_of_valid (h : validateProfileAndReturnRequirements p = .ok requirements) :
    p.name ≠ "" ∧ p.profileNodeAffinity ≠ [] := by
  obtain ⟨_, hprofile, -⟩ := Checked.bind_ok h
  obtain ⟨_, hname, hspec⟩ := Checked.bind_ok hprofile
  obtain ⟨_, haffinity, -⟩ := Checked.bind_ok hspec
  refine ⟨?_, profileNodeAffinity_of_valid haffinity⟩
  intro hempty
  rw [validateProfileName, if_pos hempty] at hname
  cases hname

theorem applied_valid (h : p ∈ (reconcileProfiles options nodes base profiles).applied) :
    p.name ≠ "" ∧ p.profileNodeAffinity ≠ [] := by
  refine Runs.run_always (I := fun s : LoopState => ∀ p ∈ s.applied,
    p.name ≠ "" ∧ p.profileNodeAffinity ≠ []) ?_ (fun p hp => absurd hp List.not_mem_nil) _ p h
  intro s q hs p hp
  rcases reconcileProfile_cases options nodes base s q with hsame | happlies
  · exact hs p (hsame.applied ▸ hp)
  · rw [happlies.applied] at hp
    rcases List.mem_append.mp hp with hp | hp
    · exact hs p hp
    · obtain rfl := List.mem_singleton.mp hp
      obtain ⟨requirements, hvalid, -⟩ := happlies.valid
      exact named_of_valid hvalid

theorem accumulatedDefaultSpec_override (options : Options) (nodes : List Node) (base : Spec)
    (profiles : List Profile) :
    (reconcileProfiles options nodes base profiles).accumulatedDefaultSpec.override =
      base.override := by
  refine Runs.run_always (I := fun s : LoopState =>
    s.accumulatedDefaultSpec.override = base.override) ?_ rfl _
  intro s p hs
  rcases reconcileProfile_cases options nodes base s p with hsame | happlies
  · rw [hsame.accumulatedDefaultSpec]
    exact hs
  · exact (overlay_override happlies.overlay).trans hs

theorem Sound.exclusive {profiles : ProfileList} (h : Sound profiles.items nodes s)
    (hp : p ∈ s.applied) (hq : q ∈ s.applied) {node : Node} (hnode : node ∈ nodes)
    (hmatches : p.matchesNode node)
    (hlookup : s.profilesByNode.lookup node.name = some q.namespacedName) : q = p := by
  have hsame := (h.partitioned.assigned p hp node hnode hmatches).symm.trans hlookup
  exact (List.inj_on_of_nodup_map profiles.distinct (h.listed p hp) (h.listed q hq)
    (Option.some.inj hsame)).symm

/-- The loop shares the nodes out, and a profile it refuses leaves no trace. -/
theorem reconcileProfiles_shares_nodes (options : Options) (nodes : NodeList) (base : Spec)
    (profiles : ProfileList) :
    let s := reconcileProfiles options nodes.items base profiles.items
    Partitioned nodes.items s ∧
      (∀ p ∈ s.applied, ∀ node ∈ nodes.items, p.matchesNode node → ∀ q ∈ s.applied,
        s.profilesByNode.lookup node.name = some q.namespacedName → q = p) ∧
      Runs.Along (reconcileProfile options nodes.items base)
        (fun s p => Invalid p ∨ ConflictsOnNode nodes.items s p ∨ OverlayRejected options base s p →
          Unchanged s (reconcileProfile options nodes.items base s p))
        (LoopState.init nodes.items base) (sortProfiles profiles.items) := by
  have hsound := reconcileProfiles_sound options nodes base profiles
  refine ⟨hsound.partitioned, ?_, ?_⟩
  · intro p hp node hnode hmatches q hq hlookup
    exact hsound.exclusive hp hq hnode hmatches hlookup
  · exact Runs.Along.of_invariant_always (I := fun _ => True) (fun _ _ _ => trivial)
      (fun _ _ _ => refused_unchanged) trivial _

end

end DatadogOperator.Profiles
