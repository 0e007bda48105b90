import DatadogOperator.Profiles.Internals

/-!
# Labels and pods of the nodes of profiles

`labelNodesWithProfiles` writes the profile of a node into its labels, and
`cleanupPodsForProfilesThatNoLongerApply` deletes the agent pods whose label is
not the one of their node. The labels come out right except for a node that
would be left without any, and for a profile without a name. The pods come out
right except on a node with the empty profile, which only the first function
takes for the default one.
-/

namespace DatadogOperator.Profiles

/-- The map from nodes to profiles, in the order in which it is ranged over. -/
abbrev RangedProfiles := AList fun _ : String => NamespacedName

/-- What the API server does with the patch of a node, or the deletion of a pod. -/
inductive WriteOutcome
  | done
  | notFound
  | failed (e : ApiError)

def labelNodesWithProfiles (patch : String → WriteOutcome) :
    List (Σ _ : String, NamespacedName) → (String → Option Labels) →
      Except ApiError (String → Option Labels)
  | [], nodes => .ok nodes
  | ⟨nodeName, profile⟩ :: rest, nodes =>
    match nodes nodeName with
    | none => .error .notFound
    | some labels =>
      match patch nodeName with
      | .done =>
        labelNodesWithProfiles patch rest
          (Function.update nodes nodeName (some (labelNode profile labels)))
      -- The node was deleted after it was read, and the error is passed over.
      | .notFound => labelNodesWithProfiles patch rest (Function.update nodes nodeName none)
      | .failed e => .error e

structure AgentPod where
  ns : String
  name : String
  nodeName : String
  labels : Labels

def AgentPod.Listed (ddaNamespace : String) (pod : AgentPod) : Prop :=
  pod.ns = ddaNamespace ∧
    pod.labels.lookup agentDeploymentComponentLabelKey = some defaultAgentResourceSuffix

instance (ddaNamespace : String) : DecidablePred (AgentPod.Listed ddaNamespace) := fun pod =>
  inferInstanceAs (Decidable (pod.ns = ddaNamespace ∧ _))

def deletePod (profile : NamespacedName) (pod : AgentPod) : Bool :=
  let isDefault := isDefaultProfile profile.ns profile.name
  let label := pod.labels.lookup profileLabelKey
  (isDefault && label.isSome) || (!isDefault && label.isNone) ||
    (!isDefault && label.getD "" != profile.name)

def deletePods (profilesByNode : RangedProfiles) (delete : AgentPod → WriteOutcome) :
    List AgentPod → Except ApiError (List AgentPod)
  | [] => .ok []
  | pod :: rest =>
    if (profilesByNode.lookup pod.nodeName).any (deletePod · pod) then
      match delete pod with
      | .failed e => .error e
      | _ => (deletePods profilesByNode delete rest).map (pod :: ·)
    else deletePods profilesByNode delete rest

def cleanupPodsForProfilesThatNoLongerApply (profilesByNode : RangedProfiles)
    (ddaNamespace : String) (delete : AgentPod → WriteOutcome) (pods : List AgentPod) :
    Except ApiError (List AgentPod) :=
  deletePods profilesByNode delete (pods.filter (·.Listed ddaNamespace))

/-! ## What the labels should be -/

/-- The default profile, or none at all. -/
def NamespacedName.OnDefault (profile : NamespacedName) : Prop :=
  isDefaultProfile profile.ns profile.name = true ∨ profile = ⟨"", ""⟩

instance (profile : NamespacedName) : Decidable profile.OnDefault :=
  inferInstanceAs (Decidable (_ ∨ _))

def NamespacedName.label (profile : NamespacedName) : Option String :=
  if profile.OnDefault then none else some profile.name

structure Labelled (profile : NamespacedName) (before after : Labels) : Prop where
  profileLabel : after.lookup profileLabelKey = profile.label
  oldLabel : after.lookup oldProfileLabelKey = none
  others : ∀ key, key ≠ profileLabelKey → key ≠ oldProfileLabelKey →
    after.lookup key = before.lookup key

/-- Something is left of the labels of a node on the default profile, and the
profile of another node has a name, or the node a label that tells. -/
def Labellable (profile : NamespacedName) (labels : Labels) : Prop :=
  if profile.OnDefault then
    labels = ∅ ∨ ∃ key ∈ labels, key ≠ profileLabelKey ∧ key ≠ oldProfileLabelKey
  else profile.name ≠ "" ∨ profileLabelKey ∈ labels

section
variable {profile : NamespacedName} {labels : Labels} {key : String}

def newLabels (profile : NamespacedName) (labels : Labels) : Labels :=
  if profile.OnDefault then (labels.erase profileLabelKey).erase oldProfileLabelKey
  else if (labels.lookup profileLabelKey).getD "" ≠ profile.name then
    (labels.erase oldProfileLabelKey).insert profileLabelKey profile.name
  else labels.erase oldProfileLabelKey

theorem labelNode_eq : labelNode profile labels =
      if newLabels profile labels = ∅ then labels else newLabels profile labels := by
  unfold labelNode newLabels
  by_cases h : profile.OnDefault
  · have hdefault : (isDefaultProfile profile.ns profile.name || profile == ⟨"", ""⟩) = true := by
      simpa [NamespacedName.OnDefault] using h
    simp [hdefault, h]
  · have hdefault : (isDefaultProfile profile.ns profile.name || profile == ⟨"", ""⟩) = false := by
      simpa [NamespacedName.OnDefault] using h
    simp [hdefault, h]

theorem lookup_newLabels_old : (newLabels profile labels).lookup oldProfileLabelKey = none := by
  have hkey : oldProfileLabelKey ≠ profileLabelKey := by decide
  unfold newLabels
  split_ifs
  · exact Finmap.lookup_erase _ _
  · rw [Finmap.lookup_insert_of_ne _ hkey, Finmap.lookup_erase]
  · exact Finmap.lookup_erase _ _

theorem lookup_newLabels_other (hprofile : key ≠ profileLabelKey) (hold : key ≠ oldProfileLabelKey) :
    (newLabels profile labels).lookup key = labels.lookup key := by
  unfold newLabels
  split_ifs <;> simp [Finmap.lookup_erase_ne, Finmap.lookup_insert_of_ne, hprofile, hold]

theorem lookup_newLabels_profile (h : ¬profile.OnDefault) :
    (newLabels profile labels).lookup profileLabelKey = some profile.name ↔
      profile.name ≠ "" ∨ profileLabelKey ∈ labels := by
  have hkey : profileLabelKey ≠ oldProfileLabelKey := by decide
  rw [newLabels, if_neg h, ← Finmap.lookup_isSome]
  cases hl : labels.lookup profileLabelKey with
  | none =>
    by_cases hname : profile.name = ""
    · simp [hname, Finmap.lookup_erase_ne hkey, hl]
    · simp [hname, Ne.symm hname]
  | some value =>
    by_cases hvalue : value = profile.name
    · simp [hvalue, Finmap.lookup_erase_ne hkey, hl]
    · simp [hvalue]

theorem labelled_newLabels (h : ¬profile.OnDefault) :
    Labelled profile labels (newLabels profile labels) ↔
      profile.name ≠ "" ∨ profileLabelKey ∈ labels := by
  rw [← lookup_newLabels_profile h]
  refine ⟨fun hl => by simpa [NamespacedName.label, h] using hl.profileLabel, fun hl => ?_⟩
  exact ⟨by simpa [NamespacedName.label, h] using hl, lookup_newLabels_old,
    fun _ hp ho => lookup_newLabels_other hp ho⟩

theorem newLabels_eq_empty_iff (h : profile.OnDefault) : newLabels profile labels = ∅ ↔
      ∀ key ∈ labels, key = profileLabelKey ∨ key = oldProfileLabelKey := by
  rw [newLabels, if_pos h]
  constructor
  · intro hempty key hkey
    by_contra hother
    rw [not_or] at hother
    have hmem : key ∈ (labels.erase profileLabelKey).erase oldProfileLabelKey :=
      Finmap.mem_erase.mpr ⟨hother.2, Finmap.mem_erase.mpr ⟨hother.1, hkey⟩⟩
    rw [hempty] at hmem
    exact Finmap.notMem_empty hmem
  · intro hall
    refine Finmap.ext_lookup fun key => ?_
    rw [Finmap.lookup_empty, Finmap.lookup_eq_none]
    intro hmem
    obtain ⟨hold, hmem⟩ := Finmap.mem_erase.mp hmem
    obtain ⟨hprofile, hmem⟩ := Finmap.mem_erase.mp hmem
    exact (hall key hmem).elim hprofile hold

/-- A node gets its labels just when they can be written. -/
theorem labelled_labelNode_iff :
    Labelled profile labels (labelNode profile labels) ↔ Labellable profile labels := by
  rw [labelNode_eq, Labellable]
  by_cases h : profile.OnDefault
  · rw [if_pos h]
    have hnew : Labelled profile labels (newLabels profile labels) := by
      refine ⟨?_, lookup_newLabels_old, fun _ hp ho => lookup_newLabels_other hp ho⟩
      rw [newLabels, if_pos h, NamespacedName.label, if_pos h,
        Finmap.lookup_erase_ne (by decide), Finmap.lookup_erase]
    by_cases hempty : newLabels profile labels = ∅
    · -- The node is not patched: that is right only if there was nothing to remove.
      rw [if_pos hempty]
      have hall := (newLabels_eq_empty_iff h).mp hempty
      constructor
      · intro hl
        refine .inl (Finmap.ext_lookup fun key => ?_)
        rw [Finmap.lookup_empty, Finmap.lookup_eq_none]
        intro hkey
        rcases hall key hkey with rfl | rfl
        · exact Finmap.lookup_eq_none.mp (hl.profileLabel.trans (if_pos h)) hkey
        · exact Finmap.lookup_eq_none.mp hl.oldLabel hkey
      · rintro (rfl | ⟨key, hkey, hprofile, hold⟩)
        · rwa [hempty] at hnew
        · exact absurd (hall key hkey) (by simp [hprofile, hold])
    · rw [if_neg hempty]
      refine iff_of_true hnew (.inr ?_)
      simpa [newLabels_eq_empty_iff h] using hempty
  · rw [if_neg h, ← labelled_newLabels h]
    split_ifs with hempty
    · -- Without a label to keep or to write, the profile label is missing both before and after.
      rw [labelled_newLabels h]
      have hmissing : ¬(newLabels profile labels).lookup profileLabelKey = some profile.name := by
        simp [hempty]
      refine iff_of_false (fun hl => hmissing ?_) fun hl =>
        hmissing ((lookup_newLabels_profile h).mpr hl)
      have hlookup := hl.profileLabel
      rw [NamespacedName.label, if_neg h] at hlookup
      exact (lookup_newLabels_profile h).mpr (.inr (Finmap.mem_of_lookup_eq_some hlookup))
    · rfl

end

/-! ## The two loops -/

section
variable {patch : String → WriteOutcome} {nodes nodes' : String → Option Labels}

theorem labelNodesWithProfiles_unassigned
    (h : labelNodesWithProfiles patch entries nodes = .ok nodes')
    (hnode : nodeName ∉ entries.keys) : nodes' nodeName = nodes nodeName := by
  induction entries generalizing nodes with
  | nil => cases h; rfl
  | cons e rest ih =>
    rw [List.keys_cons, List.mem_cons, not_or] at hnode
    simp only [labelNodesWithProfiles] at h
    split at h
    · cases h
    · split at h
      · rw [ih h hnode.2, Function.update_of_ne hnode.1]
      · rw [ih h hnode.2, Function.update_of_ne hnode.1]
      · cases h

/-- An assigned node was there, and has the labels of its profile unless it was
deleted in the meantime. -/
theorem labelNodesWithProfiles_assigned
    (hdistinct : entries.NodupKeys) (h : labelNodesWithProfiles patch entries nodes = .ok nodes')
    (hentry : ⟨nodeName, profile⟩ ∈ entries) :
    ∃ labels, nodes nodeName = some labels ∧
      (patch nodeName = .done ∧ nodes' nodeName = some (labelNode profile labels) ∨
        patch nodeName = .notFound ∧ nodes' nodeName = none) := by
  induction entries generalizing nodes with
  | nil => cases hentry
  | cons e rest ih =>
    obtain ⟨hfirst, hrest⟩ := List.nodupKeys_cons.mp hdistinct
    simp only [labelNodesWithProfiles] at h
    split at h
    · cases h
    · rename_i labels hlabels
      rcases List.mem_cons.mp hentry with rfl | hmem
      · -- Later turns of the loop are about other nodes.
        refine ⟨labels, hlabels, ?_⟩
        split at h <;> rename_i hpatch
        · exact .inl ⟨hpatch, by rw [labelNodesWithProfiles_unassigned h hfirst]; simp⟩
        · exact .inr ⟨hpatch, by rw [labelNodesWithProfiles_unassigned h hfirst]; simp⟩
        · cases h
      · have hne : nodeName ≠ e.1 := fun heq =>
          hfirst (heq ▸ List.mem_keys_of_mem hmem)
        split at h
        · simpa [Function.update_of_ne hne] using ih hrest h hmem
        · simpa [Function.update_of_ne hne] using ih hrest h hmem
        · cases h

theorem deletePods_ok (h : deletePods profilesByNode delete pods = .ok deleted) :
    deleted = pods.filter fun pod => (profilesByNode.lookup pod.nodeName).any (deletePod · pod) := by
  induction pods generalizing deleted with
  | nil => cases h; rfl
  | cons pod rest ih =>
    simp only [deletePods] at h
    split at h <;> rename_i hdelete
    · rw [List.filter_cons, if_pos hdelete]
      split at h
      · cases h
      · cases hrest : deletePods profilesByNode delete rest with
        | error e => simp [hrest, Except.map] at h
        | ok tail =>
          rw [hrest] at h
          cases h
          rw [ih hrest]
    · rw [List.filter_cons, if_neg hdelete]
      exact ih h

theorem deletePod_iff (hnamed : profile ≠ ⟨"", ""⟩) :
    deletePod profile pod = true ↔ pod.labels.lookup profileLabelKey ≠ profile.label := by
  rw [deletePod, NamespacedName.label]
  cases hdefault : isDefaultProfile profile.ns profile.name <;>
    cases pod.labels.lookup profileLabelKey <;> simp [NamespacedName.OnDefault, hdefault, hnamed]

theorem deletePod_empty : (deletePod ⟨"", ""⟩ pod = true ↔
        pod.labels.lookup profileLabelKey ≠ NamespacedName.label ⟨"", ""⟩) ↔
      ∃ value ≠ "", pod.labels.lookup profileLabelKey = some value := by
  have hdefault : isDefaultProfile "" "" = false := by decide
  cases hl : pod.labels.lookup profileLabelKey with
  | none => simp [deletePod, NamespacedName.label, NamespacedName.OnDefault, hdefault, hl]
  | some value => simp [deletePod, NamespacedName.label, NamespacedName.OnDefault, hdefault, hl]

end

/-- After both functions succeed, the labels of the nodes and the deleted pods
are as they should be just when the labels of every assigned node can be
written, and every agent pod on a node with the empty profile has a profile
label with a value. -/
theorem profiles_applied_iff (profilesByNode : RangedProfiles) (ddaNamespace : String)
    (patch : String → WriteOutcome) (delete : AgentPod → WriteOutcome)
    (nodes nodes' : String → Option Labels) (pods deleted : List AgentPod)
    (hlabel : labelNodesWithProfiles patch profilesByNode.entries nodes = .ok nodes')
    (hcleanup : cleanupPodsForProfilesThatNoLongerApply profilesByNode ddaNamespace delete pods =
      .ok deleted) :
    ((∀ nodeName profile before after, profilesByNode.lookup nodeName = some profile →
        nodes nodeName = some before → nodes' nodeName = some after →
          Labelled profile before after) ∧
      ∀ pod, pod ∈ deleted ↔ pod ∈ pods ∧ pod.Listed ddaNamespace ∧
        ∃ profile, profilesByNode.lookup pod.nodeName = some profile ∧
          pod.labels.lookup profileLabelKey ≠ profile.label) ↔
      (∀ nodeName profile labels, profilesByNode.lookup nodeName = some profile →
        nodes nodeName = some labels → patch nodeName = .done → Labellable profile labels) ∧
      ∀ pod ∈ pods, pod.Listed ddaNamespace → profilesByNode.lookup pod.nodeName = some ⟨"", ""⟩ →
          ∃ value ≠ "", pod.labels.lookup profileLabelKey = some value := by
  rw [deletePods_ok hcleanup]
  refine and_congr ?_ ?_
  · constructor
    · intro hright nodeName profile labels hprofile hnode hpatch
      obtain ⟨before, hbefore, ⟨-, hafter⟩ | ⟨hgone, -⟩⟩ := labelNodesWithProfiles_assigned
        profilesByNode.nodupKeys hlabel (AList.mem_lookup_iff.mp hprofile)
      · rw [hnode] at hbefore
        cases hbefore
        exact labelled_labelNode_iff.mp (hright _ _ _ _ hprofile hnode hafter)
      · rw [hgone] at hpatch
        cases hpatch
    · intro hwritable nodeName profile before after hprofile hbefore hafter
      obtain ⟨labels, hnode, ⟨hpatch, hdone⟩ | ⟨-, hgone⟩⟩ := labelNodesWithProfiles_assigned
        profilesByNode.nodupKeys hlabel (AList.mem_lookup_iff.mp hprofile)
      · rw [hbefore] at hnode
        rw [hafter] at hdone
        cases hnode
        cases hdone
        exact labelled_labelNode_iff.mpr (hwritable _ _ _ hprofile hbefore hpatch)
      · rw [hafter] at hgone
        cases hgone
  · refine forall_congr' fun pod => ?_
    simp only [List.mem_filter, decide_eq_true_eq]
    by_cases hpod : pod ∈ pods ∧ pod.Listed ddaNamespace
    · cases hprofile : profilesByNode.lookup pod.nodeName with
      | none => simp [hpod]
      | some profile =>
        by_cases hnamed : profile = ⟨"", ""⟩
        · subst hnamed
          simpa [hpod] using deletePod_empty
        · simpa [hpod, hnamed] using deletePod_iff hnamed
    · refine iff_of_true (iff_of_false (fun h => hpod h.1) fun h => hpod ⟨h.1, h.2.1⟩) ?_
      exact fun hmem hlisted => absurd ⟨hmem, hlisted⟩ hpod

def defaultPod : AgentPod where
  ns := "datadog"
  name := "datadog-agent-1"
  nodeName := "node"
  labels := Finmap.singleton agentDeploymentComponentLabelKey defaultAgentResourceSuffix

theorem gpu_profile_is_applied : ∃ nodes' after deleted, labelNodesWithProfiles (fun _ => .done)
        (AList.singleton "node" (⟨"datadog", "gpu"⟩ : NamespacedName)).entries
        (fun _ => some ∅) = .ok nodes' ∧
      nodes' "node" = some after ∧ Labelled ⟨"datadog", "gpu"⟩ ∅ after ∧
      cleanupPodsForProfilesThatNoLongerApply (AList.singleton "node" ⟨"datadog", "gpu"⟩) "datadog"
        (fun _ => .done) [defaultPod] = .ok deleted ∧ defaultPod ∈ deleted := by
  have happlied := (profiles_applied_iff (AList.singleton "node" ⟨"datadog", "gpu"⟩) "datadog"
    (fun _ => .done) (fun _ => .done) (fun _ => some ∅) _ [defaultPod] _ rfl rfl).mpr ⟨?_, ?_⟩
  · exact ⟨_, _, _, rfl, rfl, happlied.1 "node" _ _ _ rfl rfl rfl, rfl,
      (happlied.2 defaultPod).mpr ⟨.head _, by decide, _, rfl, by decide⟩⟩
  · intro nodeName profile labels hprofile _ _
    have hgpu := List.mem_singleton.mp (AList.mem_lookup_iff.mp hprofile)
    cases hgpu
    rw [Labellable, if_neg (by decide)]
    exact .inl (by decide)
  · intro pod hpod _ hempty
    obtain rfl := List.mem_singleton.mp hpod
    exact absurd hempty (by decide)

/-- A node without other labels, back on the default profile, keeps the label. -/
theorem last_label_is_kept : ∃ nodes', labelNodesWithProfiles (fun _ => .done)
        (AList.singleton "node" (⟨"", defaultProfileName⟩ : NamespacedName)).entries
        (fun _ => some (Finmap.singleton profileLabelKey "gpu")) = .ok nodes' ∧
      cleanupPodsForProfilesThatNoLongerApply (AList.singleton "node" ⟨"", defaultProfileName⟩)
        "datadog" (fun _ => .done) [] = .ok [] ∧
      nodes' "node" = some (Finmap.singleton profileLabelKey "gpu") :=
  ⟨_, rfl, rfl, by decide⟩

end DatadogOperator.Profiles
