import DatadogOperator.Api

/-!
# Revision snapshots

What a `ControllerRevision` of a DatadogAgent stores: the raw spec and the
Datadog annotations. JSON text is compared by the bytes it marshals to, so a
snapshot is modelled by its value, with annotations as a finite map.
-/

namespace DatadogOperator

structure RevisionSnapshot (Spec : Type) where
  spec : Spec
  annotations : Annotations
  deriving DecidableEq

/-- `strings.HasPrefix` and `strings.Contains`, over characters. -/
def hasPrefix (s pre : String) : Bool := pre.toList.isPrefixOf s.toList
def contains (s sub : String) : Bool := decide (sub.toList <:+: s.toList)

def isDatadogKey (key : String) : Bool :=
  contains key ".datadoghq.com/" && !hasPrefix key "experiment.datadoghq.com/" &&
    !hasPrefix key "fleet.datadoghq.com/"

/-- The keys the operator and the daemon use for signals and pending tasks. -/
def isFleetKey (key : String) : Bool :=
  hasPrefix key "experiment.datadoghq.com/" || hasPrefix key "fleet.datadoghq.com/"

def datadogAnnotations (all : Annotations) : Annotations := all.filterKeys isDatadogKey

def buildRevisionSnapshot (spec : Spec) (allAnnotations : Annotations) : RevisionSnapshot Spec :=
  ⟨spec, datadogAnnotations allAnnotations⟩

def DatadogAgent.snapshot (d : DatadogAgent Spec) : RevisionSnapshot Spec :=
  buildRevisionSnapshot d.spec d.annotations

@[simp] theorem DatadogAgent.snapshot_spec (d : DatadogAgent Spec) : d.snapshot.spec = d.spec := rfl

theorem isDatadogKey_experimentID : isDatadogKey annotationExperimentID = false := by
  decide

theorem isDatadogKey_experimentSignal : isDatadogKey annotationExperimentSignal = false := by decide

theorem isDatadogKey_of_isFleetKey (h : isFleetKey key = true) : isDatadogKey key = false := by
  unfold isFleetKey at h
  unfold isDatadogKey
  rcases (Bool.or_eq_true _ _).mp h with h | h
  · rw [h]; simp
  · rw [h]; simp

theorem datadogAnnotations_mergePatch (a : Annotations)
    (h : ∀ kv ∈ patch, isDatadogKey kv.1 = false) :
    datadogAnnotations (Annotations.mergePatch a patch) = datadogAnnotations a := by
  unfold Annotations.mergePatch
  induction patch generalizing a with
  | nil => rfl
  | cons kv patch ih =>
    rw [List.foldl_cons, ih _ fun kv' hk => h kv' (.tail _ hk)]
    have hkv := h kv (by simp)
    cases kv.2 with
    | some v => exact Finmap.filterKeys_insert_of_not (β := fun _ => String) hkv v
    | none => exact Finmap.filterKeys_erase_of_not hkv

theorem lookup_mergePatch_of_not_mem (a : Annotations) (h : key ∉ patch.map Prod.fst) :
    (Annotations.mergePatch a patch).lookup key = a.lookup key := by
  unfold Annotations.mergePatch
  induction patch generalizing a with
  | nil => rfl
  | cons kv patch ih =>
    obtain ⟨hkv, hpatch⟩ := not_or.mp (List.mem_cons.not.mp h)
    rw [List.foldl_cons, ih _ hpatch]
    cases kv.2 with
    | some v => exact Finmap.lookup_insert_of_ne a hkv
    | none => exact Finmap.lookup_erase_ne hkv

theorem lookup_mergePatch_of_mem (a : Annotations)
    (hnodup : (patch.map Prod.fst).Nodup) (h : (key, v) ∈ patch) :
    (Annotations.mergePatch a patch).lookup key = v := by
  induction patch generalizing a with
  | nil => cases h
  | cons kv patch ih =>
    obtain ⟨hnew, hrest⟩ := List.nodup_cons.mp hnodup
    rcases List.mem_cons.mp h with rfl | h
    · unfold Annotations.mergePatch
      rw [List.foldl_cons, ← Annotations.mergePatch, lookup_mergePatch_of_not_mem _ hnew]
      cases v with
      | some v => exact Finmap.lookup_insert a
      | none => exact Finmap.lookup_erase key a
    · exact ih _ hrest h

theorem datadogAnnotations_union (h : datadogAnnotations s = s) :
    datadogAnnotations (s ∪ a) = s ∪ datadogAnnotations a :=
  Finmap.filterKeys_union h

@[simp] theorem datadogAnnotations_idem (a : Annotations) :
    datadogAnnotations (datadogAnnotations a) = datadogAnnotations a :=
  Finmap.filterKeys_filterKeys

/-! ## Controller revisions -/

/-- The value of the `operator.datadoghq.com/experiment-state` annotation. -/
inductive ExperimentRevisionState
  | promoted
  | rolledBack
  deriving DecidableEq

/-- A revision owned by the DatadogAgent. Labels and other annotations are
never read back by the experiment code. -/
structure ControllerRevision (Spec : Type) where
  name : String
  revision : Int
  data : RevisionSnapshot Spec
  experimentState : Option ExperimentRevisionState := none
  deriving DecidableEq

/-- The API server's objects: the DatadogAgent and its owned revisions. -/
structure Server (Spec : Type) where
  dda : DatadogAgent Spec
  revisions : List (ControllerRevision Spec)

/-- `ControllerRevisionName`. -/
def controllerRevisionName (namePrefix hash : String) : String :=
  (if namePrefix.length > 223 then String.ofList (namePrefix.toList.take 223) else namePrefix) ++
    "-" ++ hash

theorem controllerRevisionName_ne_empty (namePrefix hash : String) :
    controllerRevisionName namePrefix hash ≠ "" := by
  intro h
  have := congrArg String.length h
  simp [controllerRevisionName] at this

end DatadogOperator
