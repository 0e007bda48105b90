import DatadogOperator.Workloads.Scheme

/-!
# Workloads as they are wanted

Workloads are updated when the hash of their spec changed. What is on the server is then the
wanted spec with the wanted labels and annotations, a second call writes nothing, and a
Deployment or DaemonSet with a new selector is deleted by one call and made by the next. What
the hash does not cover stays as it is until the spec changes too: labels and annotations of
the workload itself, and replicas an autoscaler changed.
-/

namespace DatadogOperator.Workloads

open Profiles Dependencies

variable {σ : Type}

/-! ## What is to be shown -/

/-- Replicas that are not set are kept. -/
def deployments (hashes : Hashes) : Component DeploymentSpec where
  createOrUpdate := createOrUpdateDeployment hashes
  selector spec := some spec.selector
  Meets call desired before after :=
    after = { desired.finalize call with replicas := after.replicas } ∧
    (∀ n, desired.replicas = some n → after.replicas = some n) ∧
    (desired.replicas = none → ∀ spec, before = some spec → after.replicas = spec.replicas)

def daemonsets (hashes : Hashes) : Component DaemonSetSpec where
  createOrUpdate := createOrUpdateDaemonset hashes
  selector spec := some spec.selector
  Meets call desired _ after := after = desired.finalize call

def extendedDaemonsets (hashes : Hashes) : Component ExtendedDaemonSetSpec where
  createOrUpdate := createOrUpdateExtendedDaemonset hashes
  selector spec := spec.selector
  Meets call desired _ after := after = desired.finalize call

def Converges (hashes : Hashes) (w : World) : Event → Prop
  | .deployment call d => (deployments hashes).Converges call d w.deployments
  | .daemonset call d => (daemonsets hashes).Converges call d w.daemonsets
  | .extendedDaemonset call d => (extendedDaemonsets hashes).Converges call d w.extendedDaemonsets
  | .scaled _ _ | .owned _ _ _ => True

/-! ## When it holds -/

/-- The annotations have no hash, or this one. -/
def HashFree (hash : String) (w : Workload σ) : Prop :=
  ∀ h ∈ w.annotations.lookup md5AgentDeploymentAnnotationKey, h = hash

/-- Unless the spec changed since the last write, the stored Deployment has the wanted labels,
annotations and replicas. Where the selector changed, it has the labels it is deleted by. -/
def DeploymentFollows (hashes : Hashes) (call : Call) (w : Deployment) (s : Server DeploymentSpec) :
    Prop :=
  HashFree (hashes.deployment (w.spec.finalize call)) w ∧ ∀ o ∈ s.objects w.key,
    (o.applied = w.spec.finalize call →
      CarriesMeta o.object w ∧ ∀ n ∈ w.spec.replicas, o.object.spec.replicas = some n) ∧
    (o.object.spec.selector.matchLabels ≠ w.spec.selector.matchLabels →
      hasLabels (workloadSelector w.labels) o.object.labels = true)

/-- A selector does not change in its expressions alone, and its labels are in the pod
template. Unless the spec changed, the stored DaemonSet has the wanted labels and annotations;
the old profile label is never wanted. -/
def DaemonsetFollows (hashes : Hashes) (call : Call) (w : DaemonSet) (s : Server DaemonSetSpec) :
    Prop :=
  HashFree (hashes.daemonset (w.spec.finalize call)) w ∧ ∀ o ∈ s.objects w.key,
    o.object.spec.selector.matchLabels = w.spec.selector.matchLabels →
      o.object.spec.selector = w.spec.selector ∧
      Carries w.spec.template.labels w.spec.selector.matchLabels ∧
      if o.applied = w.spec.finalize call then CarriesMeta o.object w
      else w.labels.lookup oldProfileLabelKey = none

/-- The selector never changes. Unless the spec did, the stored ExtendedDaemonSet has the wanted
labels and annotations. -/
def ExtendedDaemonsetFollows (hashes : Hashes) (call : Call) (w : ExtendedDaemonSet)
    (s : Server ExtendedDaemonSetSpec) : Prop :=
  HashFree (hashes.extendedDaemonset (w.spec.finalize call)) w ∧ ∀ o ∈ s.objects w.key,
    o.object.spec.selector = w.spec.selector ∧
    (o.applied = w.spec.finalize call → CarriesMeta o.object w)

def Follows (hashes : Hashes) (w : World) : Event → Prop
  | .deployment call d => DeploymentFollows hashes call d w.deployments
  | .daemonset call d => DaemonsetFollows hashes call d w.daemonsets
  | .extendedDaemonset call d => ExtendedDaemonsetFollows hashes call d w.extendedDaemonsets
  | .scaled _ _ | .owned _ _ _ => True

/-- The spec of the last write and another one to be hashed have different hashes. -/
def NoCollision (md5 : σ → String) (wanted : Stored σ → σ) (stored : Option (Stored σ)) : Prop :=
  ∀ o ∈ stored, md5 o.applied = md5 (wanted o) → o.applied = wanted o

def NoCollisions (hashes : Hashes) (w : World) : Event → Prop
  | .deployment call d =>
    NoCollision hashes.deployment (fun _ => d.spec.finalize call) (w.deployments.objects d.key)
  | .daemonset call d =>
    NoCollision hashes.daemonset (fun o => (d.spec.finalize call).adjust o.object.spec)
      (w.daemonsets.objects d.key)
  | .extendedDaemonset call d =>
    NoCollision hashes.extendedDaemonset (fun _ => d.spec.finalize call)
      (w.extendedDaemonsets.objects d.key)
  | .scaled _ _ | .owned _ _ _ => True

instance (hash : String) (w : Workload σ) : Decidable (HashFree hash w) :=
  inferInstanceAs (Decidable (∀ h ∈ w.annotations.lookup _, _))

instance (hashes : Hashes) (call : Call) (w : Deployment) (s : Server DeploymentSpec) :
    Decidable (DeploymentFollows hashes call w s) :=
  inferInstanceAs (Decidable (_ ∧ ∀ o ∈ s.objects w.key, _))

instance (hashes : Hashes) (call : Call) (w : DaemonSet) (s : Server DaemonSetSpec) :
    Decidable (DaemonsetFollows hashes call w s) :=
  inferInstanceAs (Decidable (_ ∧ ∀ o ∈ s.objects w.key, _))

instance (hashes : Hashes) (call : Call) (w : ExtendedDaemonSet)
    (s : Server ExtendedDaemonSetSpec) : Decidable (ExtendedDaemonsetFollows hashes call w s) :=
  inferInstanceAs (Decidable (_ ∧ ∀ o ∈ s.objects w.key, _))

instance (hashes : Hashes) (w : World) (e : Event) : Decidable (Follows hashes w e) := by
  cases e <;> dsimp only [Follows] <;> infer_instance

instance [DecidableEq σ] (md5 : σ → String) (wanted : Stored σ → σ) (stored : Option (Stored σ)) :
    Decidable (NoCollision md5 wanted stored) :=
  inferInstanceAs (Decidable (∀ o ∈ stored, _))

instance (hashes : Hashes) (w : World) (e : Event) : Decidable (NoCollisions hashes w e) := by
  cases e <;> dsimp only [NoCollisions] <;> infer_instance

/-! ## Labels and annotations -/

theorem Carries.trans {a b c : Labels} (hab : Carries a b) (hbc : Carries b c) : Carries a c := by
  rw [carries_iff] at hab hbc ⊢
  intro key value hvalue
  exact hab key value (hbc key value hvalue)

theorem Carries.erase (h : Carries labels wanted)
    (hkey : wanted.lookup key = none) : Carries (labels.erase key) wanted := by
  rw [carries_iff] at h ⊢
  intro key' value hvalue
  have hne : key' ≠ key := by
    rintro rfl
    exact Option.some_ne_none value (hvalue.symm.trans hkey)
  rw [Finmap.lookup_erase_ne hne]
  exact h key' value hvalue

theorem carries_merge (previousVal newVal : Labels) (f : Option (String → Bool)) :
    Carries (mergeAnnotationsLabels previousVal newVal f) newVal := by
  rw [carries_iff]
  intro key value hvalue
  exact mergeAnnotationsLabels_lookup hvalue

theorem HashFree.carries {hash : String} (h : HashFree hash w) :
    Carries (Workload.annotations <| setMD5DatadogAgentGenerationAnnotation hash w)
      w.annotations := by
  rw [carries_iff]
  intro key value hvalue
  by_cases hkey : key = md5AgentDeploymentAnnotationKey
  · subst hkey
    rw [h value hvalue]
    exact Finmap.lookup_insert _
  · exact (Finmap.lookup_insert_of_ne _ hkey).trans hvalue

theorem isSameSpecMD5Hash_of_lookup {hash : String}
    (h : annotations.lookup md5AgentDeploymentAnnotationKey = some hash) :
    isSameSpecMD5Hash hash annotations = true := by
  rw [isSameSpecMD5Hash, h]
  exact beq_self_eq_true _

theorem acceptsSelector_same {labels : Labels}
    (h : acceptsSelector (some current) selector labels = true) : current = selector := by
  unfold acceptsSelector at h
  rw [Bool.and_eq_true] at h
  exact beq_iff_eq.mp h.2

theorem acceptsSelector_carries (h : acceptsSelector current selector labels = true) :
    Carries labels selector.matchLabels := by
  unfold acceptsSelector LabelSelector.selects at h
  simp only [Bool.and_eq_true, decide_eq_true_eq] at h
  exact h.1.2.1

theorem deleteAllOf_objects {s : Server σ} {o : Stored σ}
    {selector : List (String × String)} (ho : s.objects key = some o)
    (hlabels : hasLabels selector o.object.labels = true) :
    (s.deleteAllOf key.ns selector).objects key = none := by
  unfold Server.deleteAllOf
  dsimp only
  rw [ho, Option.filter_eq_none_iff]
  rintro a ⟨⟩
  rw [hlabels, beq_self_eq_true]
  decide

theorem restartWorkload_iff {w current : Workload σ}
    (h : current.key = w.key) : restartWorkload selector w current = true ↔
      (selector current.spec).matchLabels ≠ (selector w.spec).matchLabels := by
  have hname : w.name = current.name := (congrArg NamespacedName.name h).symm
  unfold restartWorkload
  rw [hname, bne_self_eq_false, Bool.false_or, bne_iff_ne, ne_comm]

/-! ## Deployments -/

def deploymentScheme (hashes : Hashes) : Scheme DeploymentSpec where
  schema := deploymentSchema
  texts := deploymentTexts
  upToDate := some ⟨true, "DeploymentUpToDate", "Deployment up-to-date"⟩
  md5 := hashes.deployment
  finalize call spec := spec.finalize call
  adjust spec _ := spec
  restart := restartDeployment
  deleted w s := s.deleteAllOf w.ns (workloadSelector w.labels)
  same _ _ := true
  updated := updatedDeployment

theorem updateOrRestartDeployment_eq (hashes : Hashes) (call : Call) (w : Deployment) :
    updateOrRestartDeployment call (hashes.deployment (w.spec.finalize call))
      (call.deployment hashes w) = (deploymentScheme hashes).updateOrRestart call w := by
  funext s current log
  unfold updateOrRestartDeployment Scheme.updateOrRestart Scheme.isCurrent
  rw [show (deploymentScheme hashes).same = fun _ _ => true from rfl, Bool.and_true]
  rfl

theorem createOrUpdateDeployment_eq (hashes : Hashes) :
    createOrUpdateDeployment hashes = (deploymentScheme hashes).createOrUpdate := by
  funext call w s
  unfold createOrUpdateDeployment Scheme.createOrUpdate
  cases call.calls.get with
  | some e => rfl
  | none =>
    cases s.objects w.key with
    | none => rfl
    | some current =>
      exact congrArg (patchingOwner deploymentTexts call w.key current s)
        (updateOrRestartDeployment_eq hashes call w)

/-- Replicas are filled in, and an autoscaler changes them. -/
def LikeDeployment (spec applied : DeploymentSpec) : Prop :=
  spec = { applied with replicas := spec.replicas } ∧ spec.replicas ≠ none

theorem deploymentScheme_lawful (hashes : Hashes) :
    (deploymentScheme hashes).Lawful LikeDeployment where
  deleted_nextUID _ _ := rfl
  deleted_sub _ _ _ _ h := (Option.filter_eq_some_iff.mp h).1
  updated_key _ _ := rfl
  updated_annotations _ _ _ _ h := mergeAnnotationsLabels_lookup h
  like_new _ := ⟨rfl, Option.some_ne_none _⟩
  like_updated _ _ := ⟨rfl, Option.some_ne_none _⟩

section Deployments

variable {hashes : Hashes} {call : Call} {w : Deployment} {s : Server DeploymentSpec}

theorem deployments_fit (hs : s.Sound hashes.deployment LikeDeployment)
    (hfollows : DeploymentFollows hashes call w s)
    (hspecs : NoCollision hashes.deployment (fun _ => w.spec.finalize call) (s.objects w.key)) :
    (deploymentScheme hashes).Fits (deployments hashes) call w s := by
  obtain ⟨hhash, hfollows⟩ := hfollows
  have hcarries : Carries (call.deployment hashes w).annotations w.annotations := hhash.carries
  refine ⟨rfl, fun _ => ?_, ?_, ?_, ?_⟩
  · refine ⟨⟨rfl, ?_, ?_⟩, ⟨Carries.refl _, hcarries⟩, ?_, ?_⟩
    · intro n hn
      exact congrArg (fun r => some (Option.getD r 1)) hn
    · intro _ spec hspec
      cases hspec
    · exact Bool.eq_false_iff.mpr fun h => (restartWorkload_iff rfl).mp h rfl
    · exact Bool.and_eq_true_iff.mpr ⟨isSameSpecMD5Hash_of_lookup (Scheme.hashed_lookup _), rfl⟩
  · intro o ho hrestart
    have hlabels := (restartWorkload_iff (hs _ _ ho).1.key).mp hrestart
    refine ⟨fun h => hlabels (congrArg LabelSelector.matchLabels (Option.some.inj h)), ?_⟩
    intro refs
    have hdeleted := (hfollows o ho).2 hlabels
    exact deleteAllOf_objects (put_objects_self _) hdeleted
  · intro o ho hrestart hcurrent
    obtain ⟨hsound, -⟩ := hs _ _ ho
    have happlied : o.applied = w.spec.finalize call :=
      Scheme.applied_eq (k := deploymentScheme hashes) hsound (hspecs o ho) hcurrent
    obtain ⟨hcarried, hreplicas⟩ := (hfollows o ho).1 happlied
    have hlike := hsound.like.1
    rw [happlied] at hlike
    have hselector : o.object.spec.selector = w.spec.selector :=
      (congrArg DeploymentSpec.selector hlike).trans rfl
    refine ⟨fun h => h (congrArg some hselector), ⟨hlike, hreplicas, ?_⟩, hcarried, hrestart,
      hcurrent⟩
    rintro - spec ⟨⟩
    rfl
  · intro o ho _ _ haccepts
    obtain ⟨hsound, -⟩ := hs _ _ ho
    have hselector : o.object.spec.selector = w.spec.selector := acceptsSelector_same haccepts
    refine ⟨fun h => h (congrArg some hselector), ⟨rfl, ?_, ?_⟩,
      ⟨carries_merge _ _ _, (carries_merge _ _ _).trans hcarries⟩, ?_, ?_⟩
    · intro n hn
      exact congrArg (fun r => some ((getReplicas o.object.spec.replicas r).getD 1)) hn
    · rintro hn spec ⟨⟩
      obtain ⟨n, hn'⟩ := Option.ne_none_iff_exists'.mp hsound.like.2
      refine (congrArg (fun r => some ((getReplicas o.object.spec.replicas r).getD 1)) hn).trans ?_
      rw [hn']
      rfl
    · exact Bool.eq_false_iff.mpr fun h => (restartWorkload_iff rfl).mp h rfl
    · exact Bool.and_eq_true_iff.mpr ⟨isSameSpecMD5Hash_of_lookup
        (mergeAnnotationsLabels_lookup (Scheme.hashed_lookup _)), rfl⟩

end Deployments

/-! ## DaemonSets -/

def daemonsetScheme (hashes : Hashes) : Scheme DaemonSetSpec where
  schema := daemonsetSchema
  texts := daemonsetTexts
  upToDate := none
  md5 := hashes.daemonset
  finalize call spec := spec.finalize call
  adjust := DaemonSetSpec.adjust
  restart := restartDaemonset
  deleted w s := s.put w.key none
  same current spec := hashes.labels current.template.labels == hashes.labels spec.template.labels
  updated := updatedDaemonset

theorem createOrUpdateDaemonset_eq (hashes : Hashes) :
    createOrUpdateDaemonset hashes = (daemonsetScheme hashes).createOrUpdate := by
  funext call w s
  unfold createOrUpdateDaemonset Scheme.createOrUpdate
  cases call.calls.get with
  | some e => rfl
  | none => cases s.objects w.key <;> rfl

theorem daemonsetScheme_lawful (hashes : Hashes) : (daemonsetScheme hashes).Lawful Eq where
  deleted_nextUID _ _ := rfl
  deleted_sub w s key o h := by
    by_cases hkey : key = w.key
    · subst hkey
      exact absurd ((put_objects_self _).symm.trans h) (Option.some_ne_none o).symm
    · exact (put_objects_ne _ hkey).symm.trans h
  updated_key _ _ := rfl
  updated_annotations _ _ _ _ h := mergeAnnotationsLabels_lookup h
  like_new _ := rfl
  like_updated _ _ := rfl

section DaemonSets

variable {hashes : Hashes} {call : Call} {w : DaemonSet} {s : Server DaemonSetSpec}

@[simp] theorem DaemonSetSpec.finalize_labels (call : Call) (spec : DaemonSetSpec) :
    (spec.finalize call).template.labels = spec.template.labels :=
  finalizeAppArmorProfile_labels _ _

theorem adjust_eq {spec current : DaemonSetSpec} (hselector : current.selector = spec.selector)
    (hlabels : Carries spec.template.labels spec.selector.matchLabels) :
    spec.adjust current = spec := by
  unfold DaemonSetSpec.adjust ensureSelectorInPodTemplateLabels
  rw [hselector]
  dsimp only
  rw [hlabels]

theorem finalize_adjust_eq {current : DaemonSetSpec} (hselector : current.selector = w.spec.selector)
    (hlabels : Carries w.spec.template.labels w.spec.selector.matchLabels) :
    (w.spec.finalize call).adjust current = w.spec.finalize call := by
  refine adjust_eq hselector ?_
  rwa [DaemonSetSpec.finalize_labels]

theorem daemonset_isCurrent {object : DaemonSet} (hspec : object.spec = w.spec.finalize call)
    (hlabels : Carries w.spec.template.labels w.spec.selector.matchLabels)
    (hhash : object.annotations.lookup md5AgentDeploymentAnnotationKey =
      some (hashes.daemonset (w.spec.finalize call))) :
    (daemonsetScheme hashes).isCurrent call w object = true := by
  have hselector : object.spec.selector = w.spec.selector := by
    rw [hspec]
    rfl
  have hadjust : ((daemonsetScheme hashes).adjusted call w object).spec = w.spec.finalize call :=
    finalize_adjust_eq hselector hlabels
  unfold Scheme.isCurrent
  rw [hadjust, hspec]
  exact Bool.and_eq_true_iff.mpr ⟨isSameSpecMD5Hash_of_lookup hhash, beq_self_eq_true _⟩

theorem daemonsets_fit (hs : s.Sound hashes.daemonset Eq)
    (hfollows : DaemonsetFollows hashes call w s)
    (hspecs : NoCollision hashes.daemonset (fun o => (w.spec.finalize call).adjust o.object.spec)
      (s.objects w.key)) :
    (daemonsetScheme hashes).Fits (daemonsets hashes) call w s := by
  obtain ⟨hhash, hfollows⟩ := hfollows
  have hsame : ∀ object : DaemonSet, object.key = w.key → object.spec = w.spec.finalize call →
      restartDaemonset ((daemonsetScheme hashes).finalized call w) object = false := by
    intro object hkey hspec
    refine Bool.eq_false_iff.mpr fun h => (restartWorkload_iff hkey).mp h ?_
    rw [hspec]
    rfl
  have hunchanged : ∀ o, s.objects w.key = some o →
      restartDaemonset ((daemonsetScheme hashes).finalized call w) o.object = false →
      o.object.spec.selector.matchLabels = w.spec.selector.matchLabels := by
    intro o ho hrestart
    by_contra h
    have hrestarts : restartDaemonset ((daemonsetScheme hashes).finalized call w) o.object = true :=
      (restartWorkload_iff (hs _ _ ho).1.key).mpr h
    exact Bool.false_ne_true (hrestart.symm.trans hrestarts)
  refine ⟨rfl, ?_, ?_, ?_, ?_⟩
  · intro haccepts
    have hlabels : Carries (w.spec.finalize call).template.labels w.spec.selector.matchLabels :=
      acceptsSelector_carries haccepts
    rw [DaemonSetSpec.finalize_labels] at hlabels
    exact ⟨rfl, ⟨Carries.refl _, hhash.carries⟩, hsame _ rfl rfl,
      daemonset_isCurrent rfl hlabels (Scheme.hashed_lookup _)⟩
  · intro o ho hrestart
    have hlabels := (restartWorkload_iff (hs _ _ ho).1.key).mp hrestart
    refine ⟨fun h => hlabels (congrArg LabelSelector.matchLabels (Option.some.inj h)), ?_⟩
    intro refs
    exact put_objects_self _
  · intro o ho hrestart hcurrent
    obtain ⟨hsound, -⟩ := hs _ _ ho
    obtain ⟨hselector, hlabels, hcarried⟩ := hfollows o ho (hunchanged o ho hrestart)
    have happlied := Scheme.applied_eq (k := daemonsetScheme hashes) hsound (hspecs o ho) hcurrent
    have hspec : o.applied = w.spec.finalize call :=
      happlied.trans (finalize_adjust_eq hselector hlabels)
    rw [if_pos hspec] at hcarried
    exact ⟨fun h => h (congrArg some hselector), hsound.like.trans hspec, hcarried, hrestart,
      hcurrent⟩
  · intro o ho hrestart hcurrent _
    obtain ⟨hsound, -⟩ := hs _ _ ho
    obtain ⟨hselector, hlabels, hold⟩ := hfollows o ho (hunchanged o ho hrestart)
    have hadjust : (w.spec.finalize call).adjust o.object.spec = w.spec.finalize call :=
      finalize_adjust_eq hselector hlabels
    have hchanged : o.applied ≠ w.spec.finalize call := by
      intro h
      have hquiet := daemonset_isCurrent (hsound.like.trans h) hlabels (h ▸ hsound.hash)
      rw [hcurrent] at hquiet
      cases hquiet
    rw [if_neg hchanged] at hold
    have hadjusted : (daemonsetScheme hashes).adjusted call w o.object =
        (daemonsetScheme hashes).hashed ((daemonsetScheme hashes).finalized call w) :=
      congrArg (fun spec => (daemonsetScheme hashes).hashed { w with spec }) hadjust
    rw [hadjusted]
    refine ⟨fun h => h (congrArg some hselector), rfl, ⟨?_, ?_⟩, hsame _ rfl rfl, ?_⟩
    · exact (carries_merge _ _ _).erase hold
    · exact (carries_merge _ _ _).trans hhash.carries
    · exact daemonset_isCurrent rfl hlabels (mergeAnnotationsLabels_lookup (Scheme.hashed_lookup _))

end DaemonSets

/-! ## ExtendedDaemonSets -/

def extendedDaemonsetScheme (hashes : Hashes) : Scheme ExtendedDaemonSetSpec where
  schema := extendedDaemonsetSchema
  texts := extendedDaemonsetTexts
  upToDate := none
  md5 := hashes.extendedDaemonset
  finalize call spec := spec.finalize call
  adjust spec _ := spec
  restart _ _ := false
  deleted _ s := s
  same _ _ := true
  updated := updatedExtendedDaemonset

theorem updateCurrentExtendedDaemonset_eq (hashes : Hashes) (call : Call) (w : ExtendedDaemonSet) :
    updateCurrentExtendedDaemonset call (hashes.extendedDaemonset (w.spec.finalize call))
      (call.extendedDaemonset hashes w) =
      (extendedDaemonsetScheme hashes).updateOrRestart call w := by
  funext s current log
  unfold updateCurrentExtendedDaemonset Scheme.updateOrRestart Scheme.isCurrent
  rw [show (extendedDaemonsetScheme hashes).same = fun _ _ => true from rfl, Bool.and_true]
  rfl

theorem createOrUpdateExtendedDaemonset_eq (hashes : Hashes) :
    createOrUpdateExtendedDaemonset hashes = (extendedDaemonsetScheme hashes).createOrUpdate := by
  funext call w s
  unfold createOrUpdateExtendedDaemonset Scheme.createOrUpdate
  cases call.calls.get with
  | some e => rfl
  | none =>
    cases s.objects w.key with
    | none => rfl
    | some current =>
      exact congrArg (patchingOwner extendedDaemonsetTexts call w.key current s)
        (updateCurrentExtendedDaemonset_eq hashes call w)

theorem extendedDaemonsetScheme_lawful (hashes : Hashes) :
    (extendedDaemonsetScheme hashes).Lawful Eq where
  deleted_nextUID _ _ := rfl
  deleted_sub _ _ _ _ h := h
  updated_key _ _ := rfl
  updated_annotations _ _ _ _ h := mergeAnnotationsLabels_lookup h
  like_new _ := rfl
  like_updated _ _ := rfl

section ExtendedDaemonSets

variable {hashes : Hashes} {call : Call} {w : ExtendedDaemonSet}
  {s : Server ExtendedDaemonSetSpec}

theorem extendedDaemonset_isCurrent {object : ExtendedDaemonSet}
    (hhash : object.annotations.lookup md5AgentDeploymentAnnotationKey =
      some (hashes.extendedDaemonset (w.spec.finalize call))) :
    (extendedDaemonsetScheme hashes).isCurrent call w object = true :=
  Bool.and_eq_true_iff.mpr ⟨isSameSpecMD5Hash_of_lookup hhash, rfl⟩

theorem extendedDaemonsets_fit (hs : s.Sound hashes.extendedDaemonset Eq)
    (hfollows : ExtendedDaemonsetFollows hashes call w s)
    (hspecs : NoCollision hashes.extendedDaemonset (fun _ => w.spec.finalize call)
      (s.objects w.key)) :
    (extendedDaemonsetScheme hashes).Fits (extendedDaemonsets hashes) call w s := by
  obtain ⟨hhash, hfollows⟩ := hfollows
  refine ⟨rfl, ?_, ?_, ?_, ?_⟩
  · intro _
    exact ⟨rfl, ⟨Carries.refl _, hhash.carries⟩, rfl,
      extendedDaemonset_isCurrent (Scheme.hashed_lookup _)⟩
  · intro o _ hrestart
    cases hrestart
  · intro o ho _ hcurrent
    obtain ⟨hsound, -⟩ := hs _ _ ho
    have happlied : o.applied = w.spec.finalize call :=
      Scheme.applied_eq (k := extendedDaemonsetScheme hashes) hsound (hspecs o ho) hcurrent
    obtain ⟨hselector, hcarried⟩ := hfollows o ho
    exact ⟨fun h => h hselector, hsound.like.trans happlied, hcarried happlied, rfl, hcurrent⟩
  · intro o ho _ _ _
    refine ⟨fun h => h (hfollows o ho).1, rfl, ⟨carries_merge _ _ _, ?_⟩, rfl, ?_⟩
    · exact (carries_merge _ _ _).trans hhash.carries
    · exact extendedDaemonset_isCurrent (mergeAnnotationsLabels_lookup (Scheme.hashed_lookup _))

end ExtendedDaemonSets

/-! ## Runs -/

structure World.Sound (hashes : Hashes) (w : World) : Prop where
  deployments : w.deployments.Sound hashes.deployment LikeDeployment
  daemonsets : w.daemonsets.Sound hashes.daemonset Eq
  extendedDaemonsets : w.extendedDaemonsets.Sound hashes.extendedDaemonset Eq

theorem World.sound_empty (hashes : Hashes) : World.Sound hashes {} := by
  constructor <;> rintro key o ⟨⟩

theorem Server.Sound.scale {hashes : Hashes} {s : Server DeploymentSpec}
    (hs : s.Sound hashes.deployment LikeDeployment) (replicas : Int) :
    (s.modify key (.scale replicas)).Sound hashes.deployment LikeDeployment := by
  refine hs.modify ?_ fun _ => rfl
  intro o ho
  refine ⟨ho.key, ho.hash, ?_, Option.some_ne_none _⟩
  exact congrArg (fun spec : DeploymentSpec => { spec with replicas := some replicas }) ho.like.1

theorem World.Sound.step {w : World} (hw : w.Sound hashes) (e : Event) :
    (w.step hashes e).Sound hashes := by
  obtain ⟨hdep, hds, heds⟩ := hw
  cases e with
  | deployment call d =>
    refine ⟨?_, hds, heds⟩
    dsimp only [World.step]
    rw [createOrUpdateDeployment_eq]
    exact Scheme.createOrUpdate_sound (deploymentScheme_lawful hashes) hdep
  | daemonset call d =>
    refine ⟨hdep, ?_, heds⟩
    dsimp only [World.step]
    rw [createOrUpdateDaemonset_eq]
    exact Scheme.createOrUpdate_sound (daemonsetScheme_lawful hashes) hds
  | extendedDaemonset call d =>
    refine ⟨hdep, hds, ?_⟩
    dsimp only [World.step]
    rw [createOrUpdateExtendedDaemonset_eq]
    exact Scheme.createOrUpdate_sound (extendedDaemonsetScheme_lawful hashes) heds
  | scaled key replicas => exact ⟨hdep.scale replicas, hds, heds⟩
  | owned kind key refs =>
    cases kind with
    | deployment => exact ⟨hdep.own refs, hds, heds⟩
    | daemonset => exact ⟨hdep, hds.own refs, heds⟩
    | extendedDaemonset => exact ⟨hdep, hds, heds.own refs⟩

theorem World.Sound.converges {w : World} {e : Event} (hw : w.Sound hashes)
    (hspecs : NoCollisions hashes w e) (hfollows : Follows hashes w e) : Converges hashes w e := by
  cases e with
  | deployment call d =>
    exact Scheme.converges (deploymentScheme_lawful hashes) (createOrUpdateDeployment_eq hashes)
      hw.deployments (deployments_fit hw.deployments hfollows hspecs)
  | daemonset call d =>
    exact Scheme.converges (daemonsetScheme_lawful hashes) (createOrUpdateDaemonset_eq hashes)
      hw.daemonsets (daemonsets_fit hw.daemonsets hfollows hspecs)
  | extendedDaemonset call d =>
    exact Scheme.converges (extendedDaemonsetScheme_lawful hashes)
      (createOrUpdateExtendedDaemonset_eq hashes) hw.extendedDaemonsets
      (extendedDaemonsets_fit hw.extendedDaemonsets hfollows hspecs)
  | scaled key replicas => trivial
  | owned kind key refs => trivial

/-- In a run in which labels, annotations and replicas do not change alone, every call leaves
its workload as it is wanted. -/
theorem workloads_converge (hashes : Hashes) (es : List Event)
    (hspecs : Runs.Along (World.step hashes) (NoCollisions hashes) {} es)
    (hfollows : Runs.Along (World.step hashes) (Follows hashes) {} es) :
    Runs.Along (World.step hashes) (Converges hashes) {} es := by
  refine Runs.Along.of_invariant (I := World.Sound hashes)
    (C := fun w e => NoCollisions hashes w e ∧ Follows hashes w e) ?_ ?_ (World.sound_empty hashes)
    (hspecs.and hfollows)
  · intro w e hw _
    exact hw.step e
  · intro w e hw hc
    exact hw.converges hc.1 hc.2

/-! ## A label -/

def exampleLabels (labels : Labels) : String :=
  Annotations.get labels "app" ++ Annotations.get labels "team"

def exampleHashes : Hashes where
  deployment spec := spec.fields
  daemonset spec := spec.fields ++ exampleLabels spec.template.labels
  extendedDaemonset spec := spec.fields
  labels := exampleLabels

def exampleCall : Call where
  ddai := ⟨"datadog", "1"⟩

def clusterAgent (team fields : String) : Deployment where
  ns := "agents"
  name := "datadog-cluster-agent"
  labels := (∅ : Labels).insert "team" team
  spec :=
    { selector := { matchLabels := (∅ : Labels).insert "app" "cluster-agent" }
      template := { labels := ((∅ : Labels).insert "app" "cluster-agent").insert "team" "pods" }
      fields }

def nodeAgent (team app fields : String) : DaemonSet where
  ns := "agents"
  name := "datadog-agent"
  spec :=
    { selector := { matchLabels := (∅ : Labels).insert "app" app }
      template := { labels := ((∅ : Labels).insert "app" app).insert "team" team }
      fields }

theorem changed_specs_are_applied :
    Runs.Along (World.step exampleHashes) (Converges exampleHashes) {}
      [.deployment exampleCall (clusterAgent "ml" "v1"),
        .deployment exampleCall (clusterAgent "web" "v2"),
        .scaled ⟨"agents", "datadog-cluster-agent"⟩ 3,
        .deployment exampleCall (clusterAgent "web" "v3"),
        .daemonset exampleCall (nodeAgent "ml" "old" "v1"),
        .daemonset exampleCall (nodeAgent "ml" "new" "v2"),
        .daemonset exampleCall (nodeAgent "ml" "new" "v2"),
        .daemonset exampleCall (nodeAgent "web" "new" "v2")] :=
  workloads_converge exampleHashes _ (by decide +kernel) (by decide +kernel)

def mlServer : Server DeploymentSpec :=
  (createOrUpdateDeployment exampleHashes exampleCall (clusterAgent "ml" "v1") {}).server

/-- The common label is edited, the pods keep theirs, and the Deployment keeps the old label. -/
theorem deployment_label_is_not_updated :
    Runs.Along (World.step exampleHashes) (NoCollisions exampleHashes) {}
      [.deployment exampleCall (clusterAgent "ml" "v1"),
        .deployment exampleCall (clusterAgent "web" "v1")] ∧
    (createOrUpdateDeployment exampleHashes exampleCall (clusterAgent "web" "v1") mlServer).err =
      none ∧
    ¬ Converges exampleHashes { deployments := mlServer }
      (.deployment exampleCall (clusterAgent "web" "v1")) := by
  have herr : (createOrUpdateDeployment exampleHashes exampleCall (clusterAgent "web" "v1")
      mlServer).err = none := by decide +kernel
  have hlabel : ((createOrUpdateDeployment exampleHashes exampleCall (clusterAgent "web" "v1")
      mlServer).server.objects (clusterAgent "web" "v1").key).map
        (·.object.labels.lookup "team") = some (some "ml") := by decide +kernel
  refine ⟨by decide +kernel, herr, ?_⟩
  intro h
  rcases (h rfl herr).1 with ⟨old, -, -, hgone⟩ | ⟨⟨o, ho, -, hcarries, -⟩, -⟩
  · have hgone' : (createOrUpdateDeployment exampleHashes exampleCall (clusterAgent "web" "v1")
        mlServer).server.objects (clusterAgent "web" "v1").key = none := hgone
    rw [hgone'] at hlabel
    cases hlabel
  · have ho' : (createOrUpdateDeployment exampleHashes exampleCall (clusterAgent "web" "v1")
        mlServer).server.objects (clusterAgent "web" "v1").key = some o := ho
    have hweb := carries_iff.mp hcarries "team" "web" (by decide +kernel)
    rw [ho', Option.map_some, hweb] at hlabel
    exact absurd hlabel (by decide)

end DatadogOperator.Workloads
