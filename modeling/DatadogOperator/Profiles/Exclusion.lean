import DatadogOperator.Profiles.Names

/-!
# One agent on a node

The affinity of a profile is merged with that of the DatadogAgent, alternative
by alternative. Whatever the DatadogAgent asks for, every alternative of the
result keeps what the profile asks for, which is a value of one label: its name,
or none at all for the default profile. A node has one value, so the DaemonSets
of two profiles never both fit.
-/

namespace DatadogOperator.Profiles

/-! ## Requirements of every alternative -/

def Affinity.Demands (affinity : Option Affinity) (r : NodeSelectorRequirement) : Prop :=
  ∃ selector, (affinity.bind fun a => a.nodeAffinity.bind (·.required)) = some selector ∧
    ∀ term ∈ selector.nodeSelectorTerms, r ∈ term.matchExpressions

section
variable {affinity : Option Affinity} {r : NodeSelectorRequirement} {node : Node}

theorem NodeSelectorTerm.admits_of_mem {term : NodeSelectorTerm} (h : term.admits node)
    (hr : r ∈ term.matchExpressions) : r.admits node.labels := by
  simp only [NodeSelectorTerm.admits, Bool.and_eq_true, List.all_eq_true] at h
  exact h.1.2 r hr

theorem Affinity.Demands.admits (h : Affinity.Demands affinity r)
    (hadmits : Affinity.admits affinity node) : r.admits node.labels := by
  obtain ⟨selector, hselector, hterms⟩ := h
  rw [Affinity.admits, hselector] at hadmits
  obtain ⟨term, hterm, hterm_admits⟩ := List.any_eq_true.mp hadmits
  exact NodeSelectorTerm.admits_of_mem hterm_admits (hterms term hterm)

theorem mergeNodeSelectors_mem (h : ∀ term ∈ second.nodeSelectorTerms, r ∈ term.matchExpressions) :
    ∃ selector, mergeNodeSelectors first (some second) = some selector ∧
      ∀ term ∈ selector.nodeSelectorTerms, r ∈ term.matchExpressions := by
  cases first with
  | none => exact ⟨second, rfl, h⟩
  | some first =>
    refine ⟨_, rfl, ?_⟩
    -- An alternative of the result is a pair of alternatives.
    intro term hterm
    obtain ⟨term1, -, hterm⟩ := List.mem_flatMap.mp hterm
    obtain ⟨term2, hterm2, rfl⟩ := List.mem_map.mp hterm
    exact List.mem_append_right _ (h term2 hterm2)

theorem Affinity.Demands.merge (h : Affinity.Demands affinity r) (first : Option Affinity) :
    Affinity.Demands (mergeAffinities first affinity) r := by
  obtain ⟨selector, hselector, hterms⟩ := h
  obtain ⟨second, rfl, hnode⟩ := Option.bind_eq_some_iff.mp hselector
  obtain ⟨nodeAffinity, hnodeAffinity, hrequired⟩ := Option.bind_eq_some_iff.mp hnode
  cases first with
  | none => exact ⟨selector, hselector, hterms⟩
  | some first =>
    cases hfirst : first.nodeAffinity with
    | none =>
      refine ⟨selector, ?_, hterms⟩
      simp [mergeAffinities, mergePointers, mergeNodeAffinities, hfirst, hnodeAffinity, hrequired]
    | some firstAffinity =>
      obtain ⟨merged, hmerged, hmem⟩ :
          ∃ merged, mergeNodeSelectors firstAffinity.required (some selector) = some merged ∧
            ∀ term ∈ merged.nodeSelectorTerms, r ∈ term.matchExpressions :=
        mergeNodeSelectors_mem hterms
      refine ⟨merged, ?_, hmem⟩
      simp [mergeAffinities, mergePointers, mergeNodeAffinities, hfirst, hnodeAffinity, hrequired,
        hmerged]

end

/-! ## Profiles -/

def Profile.labelValue (p : Profile) : Option String :=
  if isDefaultProfile p.ns p.name then none else some p.name

def Profile.labelNSR (p : Profile) : NodeSelectorRequirement :=
  if isDefaultProfile p.ns p.name then noProfileLabelNSR else profileLabelKeyNSR p.name

section
variable {p q : Profile} {labels : Labels}

theorem newRequirement_ok (h : newRequirement key (some op) values = .ok requirement) :
    requirement = ⟨key, op, values⟩ := by
  unfold newRequirement at h
  dsimp only at h
  split at h
  · cases h
    rfl
  · cases h

theorem admits_matches (h : (⟨key, .known op, values⟩ : NodeSelectorRequirement).admits labels) :
    (⟨key, op, values⟩ : Requirement).matches labels := by
  unfold NodeSelectorRequirement.admits at h
  split at h
  · rename_i requirement hparse
    exact newRequirement_ok hparse ▸ h
  · cases h

theorem labelNSR_admits (h : p.labelNSR.admits labels) :
    labels.lookup profileLabelKey = p.labelValue := by
  unfold Profile.labelNSR at h
  unfold Profile.labelValue
  split at h
  · rename_i hdefault
    rw [if_pos hdefault]
    exact Option.isNone_iff_eq_none.mp (admits_matches h)
  · rename_i huser
    rw [if_neg huser]
    obtain ⟨value, hvalue, hmem⟩ := Option.any_eq_true _ _ |>.mp (admits_matches h)
    rw [hvalue, List.mem_singleton.mp (List.contains_iff_mem.mp hmem)]

theorem affinityOverride_demands
    (h : isDefaultProfile p.ns p.name = false → p.profileNodeAffinity ≠ []) :
    Affinity.Demands (some (affinityOverride p)) p.labelNSR := by
  unfold affinityOverride Profile.labelNSR
  by_cases hdefault : isDefaultProfile p.ns p.name
  · rw [if_pos hdefault, if_pos hdefault]
    refine ⟨_, rfl, ?_⟩
    intro term hterm
    obtain rfl := List.mem_singleton.mp hterm
    exact List.mem_singleton_self _
  · have hnonempty := h (Bool.eq_false_iff.mpr hdefault)
    rw [if_neg hdefault, if_neg hdefault, if_neg (by simpa using hnonempty)]
    refine ⟨_, rfl, ?_⟩
    intro term hterm
    obtain rfl := List.mem_singleton.mp hterm
    exact List.mem_append_right _ (List.mem_singleton_self _)

variable {options : Options} {nodes : NodeList} {base : Spec} {profiles : ProfileList}

theorem appliedProfiles_affinity (h : p ∈ appliedProfiles options nodes.items base profiles.items) :
    isDefaultProfile p.ns p.name = false → p.profileNodeAffinity ≠ [] := by
  intro huser
  rcases List.mem_cons.mp h with rfl | h
  · cases huser
  · exact (applied_valid h).2

theorem admits_labelValue (h : p ∈ appliedProfiles options nodes.items base profiles.items)
    (hadmits : Affinity.admits (setProfileDDAIAffinity spec p) node) :
    node.labels.lookup profileLabelKey = p.labelValue := by
  have hdemands := (affinityOverride_demands (appliedProfiles_affinity h)).merge
    ((spec.component .nodeAgent).bind (·.affinity))
  exact labelNSR_admits (hdemands.admits hadmits)

theorem labelValue_ne (h : p.name ≠ q.name ∨
    isDefaultProfile p.ns p.name ≠ isDefaultProfile q.ns q.name) : p.labelValue ≠ q.labelValue := by
  unfold Profile.labelValue
  intro heq
  split at heq <;> split at heq
  · rename_i hp hq
    have hnames : p.name = q.name := by
      simp only [isDefaultProfile, decide_eq_true_eq] at hp hq
      rw [hp.2, hq.2]
    rcases h with h | h
    · exact h hnames
    · exact h (hp.trans hq.symm)
  · cases heq
  · cases heq
  · rename_i hp hq
    rcases h with h | h
    · exact h (Option.some.inj heq)
    · exact h ((Bool.eq_false_iff.mpr hp).trans (Bool.eq_false_iff.mpr hq).symm)

/-- The DaemonSets of two applied profiles never fit on one node, whatever affinity
the DatadogAgent has. -/
theorem profiles_share_no_node (hp : p ∈ appliedProfiles options nodes.items base profiles.items)
    (hq : q ∈ appliedProfiles options nodes.items base profiles.items)
    (hdistinct : p.name ≠ q.name ∨ isDefaultProfile p.ns p.name ≠ isDefaultProfile q.ns q.name)
    (spec spec' : Spec) (node : Node) :
    ¬(Affinity.admits (setProfileDDAIAffinity spec p) node ∧
      Affinity.admits (setProfileDDAIAffinity spec' q) node) := by
  rintro ⟨hadmits, hadmits'⟩
  refine labelValue_ne hdistinct ?_
  rw [← admits_labelValue hp hadmits, admits_labelValue hq hadmits']

end

theorem two_teams_share_no_node :
    let applied := appliedProfiles { versions := plainVersions } twoPools.items {}
      (twoTeams "gpu" "cpu").items
    ∃ p ∈ applied, ∃ q ∈ applied, p.name = "gpu" ∧ q.name = "cpu" ∧
      ∀ spec spec' node, ¬(Affinity.admits (setProfileDDAIAffinity spec p) node ∧
        Affinity.admits (setProfileDDAIAffinity spec' q) node) := by
  intro applied
  have hgpu : "gpu" ∈ applied.map (·.name) := by decide +kernel
  have hcpu : "cpu" ∈ applied.map (·.name) := by decide +kernel
  obtain ⟨p, hp, hpname⟩ := List.mem_map.mp hgpu
  obtain ⟨q, hq, hqname⟩ := List.mem_map.mp hcpu
  refine ⟨p, hp, q, hq, hpname, hqname, profiles_share_no_node hp hq (.inl ?_)⟩
  rw [hpname, hqname]
  decide

end DatadogOperator.Profiles
