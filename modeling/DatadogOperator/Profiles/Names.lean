import DatadogOperator.Profiles.Assignment
import DatadogOperator.Profiles.Internals

/-!
# Names of what profiles create

A DDAI, its DaemonSet and the label of its nodes are named after the profile,
and after its name alone. Profiles are told apart by their namespaces as well,
so the objects of accepted profiles are distinct just when the names are, and
when none of them meets a name of the DatadogAgent.
-/

namespace DatadogOperator.Profiles

/-! ## The name of the node agent -/

section
variable {fm : FieldManager} {spec : Spec} {profile : Profile}

theorem component_withOverride (spec : Spec) (component : ComponentName)
    (f : ComponentOverride → ComponentOverride) :
    (spec.withOverride component f).component component =
      some (f ((spec.component component).getD {})) := by
  rw [Spec.component, Spec.withOverride, AList.lookup_insert]
  rfl

theorem nodeAgentName_withOverride (spec : Spec) (f : ComponentOverride → ComponentOverride) :
    (spec.withOverride .nodeAgent f).nodeAgentName =
      (f ((spec.component .nodeAgent).getD {})).name := by
  rw [Spec.nodeAgentName, component_withOverride]
  rfl

theorem nodeAgentName_getD (spec : Spec) :
    ((spec.component .nodeAgent).getD {}).name = spec.nodeAgentName := by
  unfold Spec.nodeAgentName
  cases spec.component .nodeAgent with
  | none => rfl
  | some override => rfl

theorem setProfileSpec_default (h : isDefaultProfile profile.ns profile.name) :
    (setProfileSpec spec profile).nodeAgentName = spec.nodeAgentName := by
  rw [setProfileSpec, nodeAgentName_withOverride, if_pos h]
  exact nodeAgentName_getD spec

theorem daemonSetName_of_ns (h : profile.ns ≠ "") :
    daemonSetName profile.namespacedName true = getAgentName profile.name := by
  rw [daemonSetName, if_neg (by simp [isDefaultProfile, ProfileMeta.namespacedName, h])]
  rfl

theorem getAgentName_injective : Function.Injective getAgentName := by
  intro a b h
  have hlist := congrArg String.toList h
  simp only [getAgentName, String.toList_append, List.append_assoc,
    List.append_cancel_right_eq] at hlist
  exact String.toList_inj.mp hlist

theorem getAgentName_ne_empty (name : String) : getAgentName name ≠ "" := by
  intro h
  have := congrArg String.toList h
  simp [getAgentName, defaultAgentResourceSuffix] at this

theorem setProfileSpec_user (h : profile.ns ≠ "") :
    (setProfileSpec spec profile).nodeAgentName = some (getAgentName profile.name) := by
  have huser : isDefaultProfile profile.ns profile.name = false := isDefaultProfile_of_ns h
  have hname : getAgentName profile.name ≠ "" := getAgentName_ne_empty profile.name
  rw [setProfileSpec, nodeAgentName_withOverride, if_neg (by simp [huser])]
  rw [nodeAgentName_getD, setProfileNodeAgentOverride, nodeAgentName_withOverride,
    daemonSetName_of_ns h, if_pos ⟨huser, hname⟩]

/-! ## Merged objects -/

variable {ddai original modified merged : DatadogAgentInternal}

structure Merges (original modified merged : DatadogAgentInternal) : Prop where
  ns : merged.ns = modified.ns
  name : merged.name = modified.name
  labels : merged.labels = modified.labels ∪ original.labels
  nodeAgent : merged.spec.nodeAgentName =
    modified.spec.nodeAgentName.or original.spec.nodeAgentName

theorem applyObject_merges (h : fm.applyObject original modified = .ok merged) :
    Merges original modified merged := by
  obtain ⟨spec, hspec, hmerged⟩ := Checked.bind_ok h
  cases hmerged
  exact ⟨rfl, rfl, rfl, fm.apply_nodeAgentName hspec⟩

theorem strip_nodeAgentName (fm : FieldManager) (paths : List String)
    (ddai : DatadogAgentInternal) :
    (fm.strip paths ddai).spec.nodeAgentName = ddai.spec.nodeAgentName := by
  unfold FieldManager.strip
  dsimp only
  generalize ddai.spec = spec
  induction paths generalizing spec with
  | nil => rfl
  | cons path paths ih => rw [List.foldl_cons, ih, fm.strip_nodeAgentName]

theorem ssaMergeCRD_merges (h : ssaMergeCRD fm original modified = .ok merged) :
    Merges original modified merged := by
  unfold ssaMergeCRD at h
  split at h
  · rename_i merged hmerged
    cases h
    exact applyObject_merges hmerged
  · rename_i e _
    split at h
    · cases h
    · split at h
      · rename_i merged hmerged
        cases h
        obtain ⟨hns, hname, hlabels, hnodeAgent⟩ := applyObject_merges hmerged
        rw [strip_nodeAgentName, strip_nodeAgentName] at hnodeAgent
        exact ⟨hns, hname, hlabels, hnodeAgent⟩
      · cases h

theorem computeProfileMerge_names (h : computeProfileMerge fm ddai profile = .ok merged) :
    merged.name = getProfileDDAIName ddai.name profile.name profile.ns ∧ merged.spec.nodeAgentName =
        (setProfileSpec ddai.spec profile).nodeAgentName.or ddai.spec.nodeAgentName := by
  obtain ⟨m, hm, hmerged⟩ := Checked.bind_ok h
  obtain ⟨-, hname, -, hnodeAgent⟩ := ssaMergeCRD_merges hm
  cases hmerged
  refine ⟨hname, Eq.trans ?_ hnodeAgent⟩
  -- The registry is no override.
  unfold setMD5GenerationAnnotation
  dsimp only
  split
  · rfl
  · rfl

def DatadogAgentInternal.daemonSet (ddai : DatadogAgentInternal) : String :=
  getDaemonSetNameFromDatadogAgent ddai.name ddai.spec

theorem computeProfileMerge_default (hdefault : isDefaultProfile profile.ns profile.name)
    (h : computeProfileMerge fm ddai profile = .ok merged) :
    merged.name = ddai.name ∧ merged.daemonSet = ddai.daemonSet := by
  obtain ⟨hname, hnodeAgent⟩ := computeProfileMerge_names h
  rw [getProfileDDAIName, if_pos hdefault] at hname
  rw [setProfileSpec_default hdefault, Option.or_self] at hnodeAgent
  refine ⟨hname, ?_⟩
  unfold DatadogAgentInternal.daemonSet getDaemonSetNameFromDatadogAgent
  rw [hname, hnodeAgent]

theorem computeProfileMerge_user (hns : profile.ns ≠ "")
    (h : computeProfileMerge fm ddai profile = .ok merged) :
    merged.name = profile.name ∧ merged.daemonSet = getAgentName profile.name := by
  obtain ⟨hname, hnodeAgent⟩ := computeProfileMerge_names h
  rw [getProfileDDAIName, if_neg (by simp [isDefaultProfile_of_ns hns])] at hname
  rw [setProfileSpec_user hns, Option.some_or] at hnodeAgent
  refine ⟨hname, ?_⟩
  unfold DatadogAgentInternal.daemonSet getDaemonSetNameFromDatadogAgent
  rw [hnodeAgent]
  exact if_pos (getAgentName_ne_empty _)

end

/-! ## Labels of nodes -/

theorem labelNode_lookup {profile : NamespacedName} (hns : profile.ns ≠ "")
    (hname : profile.name ≠ "") (labels : Labels) :
    (labelNode profile labels).lookup profileLabelKey = some profile.name := by
  have huser : isDefaultProfile profile.ns profile.name = false := isDefaultProfile_of_ns hns
  have hother : (profile == ⟨"", ""⟩) = false := by
    refine beq_eq_false_iff_ne.mpr fun h => hns ?_
    rw [h]
  have hkey : profileLabelKey ≠ oldProfileLabelKey := by decide
  unfold labelNode
  simp only [huser, hother, Bool.or_self, Bool.false_eq_true, if_false, true_and]
  by_cases hoff : (labels.lookup profileLabelKey).getD "" = profile.name
  · -- The label is there, and dropping the old one keeps it.
    have hlookup : labels.lookup profileLabelKey = some profile.name := by
      cases hl : labels.lookup profileLabelKey with
      | none =>
        rw [hl] at hoff
        exact absurd hoff.symm hname
      | some value =>
        rw [hl] at hoff
        exact congrArg some hoff
    rw [if_neg (not_not.mpr hoff)]
    split
    · exact hlookup
    · rw [Finmap.lookup_erase_ne hkey]
      exact hlookup
  · rw [if_pos hoff]
    split
    · rename_i hempty
      have := congrArg (Finmap.lookup profileLabelKey) hempty
      rw [Finmap.lookup_insert, Finmap.lookup_empty] at this
      cases this
    · exact Finmap.lookup_insert _

/-! ## All objects of a DatadogAgent -/

/-- No object of a profile takes the place of another one. -/
structure ObjectsDistinct (ddais : List DatadogAgentInternal) (applied : List Profile) : Prop where
  names : (ddais.map (·.name)).Nodup
  daemonSets : (ddais.map (·.daemonSet)).Nodup
  labels : applied.Pairwise fun p q => ∀ labels labels',
    (labelNode p.namespacedName labels).lookup profileLabelKey ≠
      (labelNode q.namespacedName labels').lookup profileLabelKey

/-- The names of the profiles differ, also from those of the DatadogAgent. -/
structure NamesApart (dda : Agent) (applied : List Profile) : Prop where
  profiles : (applied.map (·.name)).Nodup
  agent : ∀ p ∈ applied, p.name ≠ dda.name
  daemonSet : ∀ p ∈ applied,
    getAgentName p.name ≠ getDaemonSetNameFromDatadogAgent dda.name dda.spec

section
variable {fm : FieldManager} {options : Options} {dda : Agent} {provider : String}
  {nodes : List Node} {ddais : List DatadogAgentInternal}

theorem generateSpecFromDDA_nodeAgentName (dda : Agent) :
    (generateSpecFromDDA dda).nodeAgentName = dda.spec.nodeAgentName := by
  unfold generateSpecFromDDA
  split
  · rfl
  · rename_i hmissing
    have hnone : dda.spec.override.lookup .nodeAgent = none :=
      AList.lookup_eq_none.mpr hmissing
    simp [Spec.nodeAgentName, Spec.component, hnone]

theorem appliedProfiles_user {profiles : ProfileList} {nodes : NodeList}
    {p : Profile} (hp : p ∈ (reconcileProfiles options nodes.items base profiles.items).applied) :
    p.ns ≠ "" :=
  profiles.namespaced p ((reconcileProfiles_sound options nodes base profiles).listed p hp)

theorem defaultDDAI_daemonSet (fm : FieldManager) (options : Options) (dda : Agent)
    (provider : String) (nodes : List Node) (profiles : List Profile) :
    let ddai := generateDDAIFromDDA fm dda provider
    getDaemonSetNameFromDatadogAgent ddai.name
        (reconcileProfiles options nodes ddai.spec profiles).accumulatedDefaultSpec =
      getDaemonSetNameFromDatadogAgent dda.name dda.spec := by
  intro ddai
  have hspec : (reconcileProfiles options nodes ddai.spec
      profiles).accumulatedDefaultSpec.nodeAgentName = dda.spec.nodeAgentName := by
    rw [Spec.nodeAgentName, Spec.component, accumulatedDefaultSpec_override]
    exact generateSpecFromDDA_nodeAgentName dda
  unfold getDaemonSetNameFromDatadogAgent
  rw [hspec]
  rfl

theorem generateDDAIs_names {profiles : ProfileList} {nodes : NodeList}
    (h : generateDDAIs fm options dda provider nodes.items profiles.items = .ok ddais) :
    let applied :=
      (reconcileProfiles options nodes.items (generateSpecFromDDA dda) profiles.items).applied
    ddais.map (·.name) = dda.name :: applied.map (·.name) ∧
      ddais.map (·.daemonSet) = getDaemonSetNameFromDatadogAgent dda.name dda.spec ::
        applied.map (getAgentName ·.name) := by
  intro applied
  have huser (p : Profile) (hp : p ∈ applied) : isDefaultProfile p.ns p.name = false :=
    isDefaultProfile_of_ns (appliedProfiles_user hp)
  -- What one profile gives, by its kind.
  let names (p : Profile) : String × String :=
    if isDefaultProfile p.ns p.name then
      (dda.name, getDaemonSetNameFromDatadogAgent dda.name dda.spec)
    else (p.name, getAgentName p.name)
  have hall : ddais.map (fun d => (d.name, d.daemonSet)) =
      (defaultProfile :: applied).map names := by
    unfold generateDDAIs applyProfilesToDDAISpec at h
    refine Checked.mapM_map ?_ h
    intro p hp d hd
    rcases List.mem_cons.mp hp with rfl | hp
    · rw [if_pos isDefaultProfile_default] at hd
      obtain ⟨hname, hds⟩ := computeProfileMerge_default isDefaultProfile_default hd
      exact Prod.ext hname (hds.trans (defaultDDAI_daemonSet ..))
    · have hns := appliedProfiles_user hp
      obtain ⟨hname, hds⟩ := computeProfileMerge_user hns hd
      simp only [names, huser p hp]
      exact Prod.ext hname hds
  have happlied : applied.map names = applied.map fun p => (p.name, getAgentName p.name) := by
    refine List.map_congr_left fun p hp => ?_
    simp only [names, huser p hp]
    rfl
  rw [List.map_cons, happlied] at hall
  have hfst := congrArg (List.map Prod.fst) hall
  have hsnd := congrArg (List.map Prod.snd) hall
  simp only [List.map_map, List.map_cons] at hfst hsnd
  exact ⟨hfst, hsnd⟩

/-- Objects are told apart by what profiles and the DatadogAgent are called. -/
theorem profile_objects_distinct_iff {profiles : ProfileList} {nodes : NodeList}
    (h : generateDDAIs fm options dda provider nodes.items profiles.items = .ok ddais) :
    let applied :=
      (reconcileProfiles options nodes.items (generateSpecFromDDA dda) profiles.items).applied
    ObjectsDistinct ddais applied ↔ NamesApart dda applied := by
  intro applied
  obtain ⟨hnames, hds⟩ := generateDDAIs_names h
  have hdsNames : applied.map (getAgentName ·.name) = (applied.map (·.name)).map getAgentName := by
    rw [List.map_map]
    rfl
  constructor
  · rintro ⟨hddais, hdaemonSets, -⟩
    rw [hnames, List.nodup_cons] at hddais
    rw [hds, List.nodup_cons] at hdaemonSets
    refine ⟨hddais.2, ?_, ?_⟩
    · intro p hp heq
      exact hddais.1 (List.mem_map.mpr ⟨p, hp, heq⟩)
    · intro p hp heq
      exact hdaemonSets.1 (List.mem_map.mpr ⟨p, hp, heq⟩)
  · rintro ⟨hprofiles, hagent, hdaemonSet⟩
    refine ⟨?_, ?_, ?_⟩
    · rw [hnames, List.nodup_cons]
      refine ⟨fun hmem => ?_, hprofiles⟩
      obtain ⟨p, hp, heq⟩ := List.mem_map.mp hmem
      exact hagent p hp heq
    · rw [hds, List.nodup_cons]
      refine ⟨fun hmem => ?_, ?_⟩
      · obtain ⟨p, hp, heq⟩ := List.mem_map.mp hmem
        exact hdaemonSet p hp heq
      · rw [hdsNames]
        exact hprofiles.map getAgentName_injective
    · refine (List.pairwise_map.mp hprofiles).imp_of_mem ?_
      intro p q hp hq hne labels labels' heq
      rw [labelNode_lookup (appliedProfiles_user hp) (applied_valid hp).1,
        labelNode_lookup (appliedProfiles_user hq) (applied_valid hq).1] at heq
      exact hne (Option.some.inj heq)

end

/-- A merge that keeps the applied spec, and from the other one a missing name. -/
def plainFieldManager : FieldManager where
  apply original modified := .ok (modified.withOverride .nodeAgent fun override =>
    { override with name := override.name.or original.nodeAgentName })
  stripDottedFieldPath spec _ := spec
  generateMD5ForSpec _ := ""
  apply_nodeAgentName := by
    rintro original modified _ ⟨⟩
    rw [nodeAgentName_withOverride, nodeAgentName_getD]
  strip_nodeAgentName _ _ := rfl

def poolProfile (ns name pool : String) : Profile where
  ns := ns
  name := name
  spec := {
    profileAffinity := some (some [{ key := "pool", operator := .known .opIn, values := [pool] }])
    config := some {} }

def twoPools : NodeList where
  items := [{ name := "a", labels := (∅ : Labels).insert "pool" "a" },
    { name := "b", labels := (∅ : Labels).insert "pool" "b" }]
  distinct := by decide

def twoTeams (name name' : String) : ProfileList where
  items := [poolProfile "ml" name "a", poolProfile "web" name' "b"]
  namespaced := by
    intro p hp
    simp only [List.mem_cons, List.not_mem_nil, or_false] at hp
    rcases hp with rfl | rfl
    · exact (by decide : "ml" ≠ "")
    · exact (by decide : "web" ≠ "")
  distinct := by simp [poolProfile, ProfileMeta.namespacedName]

def plainAgent : Agent := { ns := "agents", name := "datadog" }

theorem profile_objects_distinct_of_two_names : let profiles := twoTeams "gpu" "cpu"
    let options : Options := { versions := plainVersions }
    ∃ ddais, generateDDAIs plainFieldManager options plainAgent "" twoPools.items profiles.items =
        .ok ddais ∧
      ObjectsDistinct ddais (reconcileProfiles options twoPools.items
        (generateSpecFromDDA plainAgent) profiles.items).applied := by
  intro profiles options
  have hok : (generateDDAIs plainFieldManager options plainAgent "" twoPools.items
      profiles.items).toBool = true := by decide +kernel
  cases h : generateDDAIs plainFieldManager options plainAgent "" twoPools.items profiles.items with
  | error e =>
    rw [h] at hok
    cases hok
  | ok ddais =>
    refine ⟨ddais, rfl, (profile_objects_distinct_iff h).mpr ⟨?_, ?_, ?_⟩⟩
    · decide +kernel
    · decide +kernel
    · decide +kernel

/-- Both teams call their profile `gpu`: one DDAI and one DaemonSet for two profiles. -/
theorem profiles_of_one_name_share_objects : let profiles := (twoTeams "gpu" "gpu").items
    let options : Options := { versions := plainVersions }
    let applied := (reconcileProfiles options twoPools.items (generateSpecFromDDA plainAgent)
      profiles).applied
    let ddais := (generateDDAIs plainFieldManager options plainAgent "" twoPools.items
      profiles).toOption.getD []
    applied.map (fun p => p.namespacedName) = [⟨"ml", "gpu"⟩, ⟨"web", "gpu"⟩] ∧
      ddais.map (·.name) = ["datadog", "gpu", "gpu"] ∧
      ddais.map (·.daemonSet) = ["datadog-agent", "gpu-agent", "gpu-agent"] ∧
      applied.map (fun p => (labelNode p.namespacedName ∅).lookup profileLabelKey) =
        [some "gpu", some "gpu"] := by
  decide +kernel

end DatadogOperator.Profiles
