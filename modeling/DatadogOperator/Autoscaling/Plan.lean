import DatadogOperator.Autoscaling.Classify
import DatadogOperator.Lib.Checked

/-!
# What is to be evicted

`plan.go`: a plan is a list of targets, either all entities of the cluster
snapshot that Datadog does not manage, or those the user names.
-/

namespace DatadogOperator.Autoscaling

structure Target where
  manager : NodeManager
  entity : String
  nodes : List String := []
  deriving DecidableEq

def Target.text (t : Target) : String := t.manager.text ++ "/" ++ t.entity

/-! ## Parsing -/

/-- `unicode.IsSpace`. -/
def isSpace (c : Char) : Bool :=
  (9 ≤ c.toNat && c.toNat ≤ 13) || (0x2000 ≤ c.toNat && c.toNat ≤ 0x200a) ||
    [0x20, 0x85, 0xa0, 0x1680, 0x2028, 0x2029, 0x202f, 0x205f, 0x3000].contains c.toNat

def trimSpace (s : String) : String :=
  String.ofList ((s.toList.dropWhile isSpace).reverse.dropWhile isSpace).reverse

/-- `strings.Cut(s, "/")`: what stands before the slash, what after it if there is one. -/
def cutSlash (s : String) : String × Option String :=
  match s.toList.dropWhile (· ≠ '/') with
  | [] => (s, none)
  | _ :: after => (String.ofList (s.toList.takeWhile (· ≠ '/')), some (String.ofList after))

def NodeManager.ofText (s : String) : Option NodeManager :=
  [.fargate, .karpenter, .eksManagedNodeGroup, .asg, .standalone, .unknown].find? (·.text = s)

def parseTargetSpec (raw : String) : Except ApiError Target :=
  let raw := trimSpace raw
  if raw = "" then .error (failure "--target value cannot be empty")
  else
    let (mgrStr, entity) := cutSlash raw
    match NodeManager.ofText mgrStr with
    | some .standalone =>
      if entity.getD "" ≠ "" then
        .error (failure ("--target=standalone does not take a name (got \"" ++ entity.getD "" ++
          "\")"))
      else .ok { manager := .standalone, entity := "" }
    | some .fargate =>
      .error (failure
        "--target=fargate is not supported: manage Fargate profiles directly via AWS")
    | some .unknown =>
      .error (failure ("--target=unknown is not supported: nodes with unknown providers " ++
        "cannot be migrated automatically"))
    | some mgr =>
      if entity.getD "" = "" then
        .error (failure ("--target=" ++ mgrStr ++ " requires a name: " ++ mgrStr ++ "/<name>"))
      else .ok { manager := mgr, entity := entity.getD "" }
    | none =>
      .error (failure ("--target=" ++ mgrStr ++ ": unknown manager type (supported: asg, " ++
        "eksManagedNodeGroup, karpenter, standalone)"))

/-! ## Plans -/

/-- The managers whose nodes can be evicted, in the order of the plan. -/
def evictedManagers : List NodeManager := [.karpenter, .eksManagedNodeGroup, .asg, .standalone]

def buildTarget (info : ClusterInfo) (mgr : NodeManager) (name : String) : Option Target :=
  if (info.entry mgr name).managedByDatadog then none
  else some { manager := mgr, entity := name, nodes := (info.entry mgr name).nodes }

def buildAllPlan (info : ClusterInfo) : List Target :=
  evictedManagers.flatMap fun mgr =>
    (info.nodeManagement mgr).keys.sorted.filterMap (buildTarget info mgr)

def checkTarget (info : ClusterInfo) (t : Target) : Except ApiError Target :=
  if (info.nodeManagement t.manager).keys = ∅ then
    .error (failure ("--target=" ++ t.text ++ ": no " ++ t.manager.text ++
      " entities found in the cluster snapshot"))
  else
    match (info.nodeManagement t.manager).lookup t.entity with
    | none => .error (failure ("--target=" ++ t.text ++
        ": entity not found in the cluster snapshot"))
    | some entry =>
      if entry.managedByDatadog then
        .error (failure ("--target=" ++ t.text ++
          ": this entity is managed by Datadog and cannot be evicted"))
      else .ok { t with nodes := entry.nodes }

def addTarget (info : ClusterInfo) (acc : List Target × List ApiError) (t : Target) :
    List Target × List ApiError :=
  match checkTarget info t with
  | .ok target => (acc.1 ++ [target], acc.2)
  | .error e => (acc.1, acc.2 ++ [e])

def buildTargetedPlan (info : ClusterInfo) (specs : List Target) :
    Except ApiError (List Target) :=
  if specs = [] then .error (failure "at least one --target must be provided, or --all")
  else
    let (targets, errs) := specs.foldl (addTarget info) ([], [])
    (joinErrors errs).map fun _ => targets

def buildPlan (info : ClusterInfo) (all : Bool) (specs : List Target) :
    Except ApiError (List Target) :=
  if all then .ok (buildAllPlan info) else buildTargetedPlan info specs

def hasDatadogManagedNodePool (info : ClusterInfo) : Bool :=
  (info.nodeManagement .karpenter).keys.sorted.any fun name =>
    (info.entry .karpenter name).managedByDatadog

/-! ## What a plan contains -/

structure Planned (info : ClusterInfo) (t : Target) : Prop where
  unmanaged : ¬info.Managed t.manager t.entity
  nodes : t.nodes = (info.entry t.manager t.entity).nodes

variable {info : ClusterInfo}

theorem ClusterInfo.Holds.mem_keys
    (h : info.Holds mgr entity name) : entity ∈ (info.nodeManagement mgr).keys := by
  unfold ClusterInfo.Holds ClusterInfo.entry at h
  rw [Finmap.mem_keys, ← Finmap.lookup_isSome]
  cases hl : (info.nodeManagement mgr).lookup entity with
  | none =>
    rw [hl] at h
    cases h
  | some e => rfl

theorem hasDatadogManagedNodePool_cases (h : hasDatadogManagedNodePool info = true) :
    ∃ entity, info.Managed .karpenter entity := by
  obtain ⟨name, -, hname⟩ := List.any_eq_true.mp h
  exact ⟨name, hname⟩

theorem buildTarget_eq_some : buildTarget info mgr name = some t ↔
      t.manager = mgr ∧ t.entity = name ∧ Planned info t := by
  unfold buildTarget
  split_ifs with h
  · refine ⟨nofun, ?_⟩
    rintro ⟨rfl, rfl, hplanned⟩
    exact absurd h hplanned.unmanaged
  · constructor
    · intro ht
      cases ht
      exact ⟨rfl, rfl, h, rfl⟩
    · rintro ⟨rfl, rfl, hplanned⟩
      rw [← hplanned.nodes]

theorem mem_buildAllPlan : t ∈ buildAllPlan info ↔ t.manager ∈ evictedManagers ∧
      t.entity ∈ (info.nodeManagement t.manager).keys ∧ Planned info t := by
  unfold buildAllPlan
  simp only [List.mem_flatMap, List.mem_filterMap, Finset.mem_sorted, buildTarget_eq_some]
  constructor
  · rintro ⟨mgr, hmgr, name, hname, rfl, rfl, hplanned⟩
    exact ⟨hmgr, hname, hplanned⟩
  · rintro ⟨hmgr, hname, hplanned⟩
    exact ⟨_, hmgr, _, hname, rfl, rfl, hplanned⟩

theorem buildAllPlan_nodup (info : ClusterInfo) :
    (buildAllPlan info).Pairwise fun t u => ¬(t.manager = u.manager ∧ t.entity = u.entity) := by
  have hmanager : ∀ {mgr : NodeManager} {t : Target},
      t ∈ (info.nodeManagement mgr).keys.sorted.filterMap (buildTarget info mgr) →
        t.manager = mgr := by
    intro mgr t ht
    obtain ⟨name, -, hname⟩ := List.mem_filterMap.mp ht
    exact (buildTarget_eq_some.mp hname).1
  unfold buildAllPlan
  rw [List.pairwise_flatMap]
  constructor
  · intro mgr _
    refine (List.pairwise_filterMap).mpr ((Finset.nodup_sorted _).imp ?_)
    intro a b hab t ht u hu hsame
    obtain ⟨-, rfl, -⟩ := buildTarget_eq_some.mp ht
    obtain ⟨-, rfl, -⟩ := buildTarget_eq_some.mp hu
    exact hab hsame.2
  · have hdistinct : evictedManagers.Nodup := by decide
    refine hdistinct.imp fun hne t ht u hu hsame => hne ?_
    rw [← hmanager ht, ← hmanager hu, hsame.1]

theorem checkTarget_ok (h : checkTarget info spec = .ok t) :
    t.manager = spec.manager ∧ Planned info t := by
  unfold checkTarget at h
  split_ifs at h
  split at h
  · cases h
  · next entry hentry =>
    split_ifs at h with hmanaged
    cases h
    refine ⟨rfl, ?_, ?_⟩
    · simpa [ClusterInfo.Managed, ClusterInfo.entry, hentry] using hmanaged
    · simp [ClusterInfo.entry, hentry]

theorem addTargets_targets {specs : List Target} {t : Target}
    (h : t ∈ (specs.foldl (addTarget info) acc).1) :
    t ∈ acc.1 ∨ ∃ spec ∈ specs, t.manager = spec.manager ∧ Planned info t := by
  induction specs generalizing acc with
  | nil => exact .inl h
  | cons spec specs ih =>
    rcases ih h with h | ⟨s, hs, hplanned⟩
    · unfold addTarget at h
      split at h
      · next target htarget =>
        rcases List.mem_append.mp h with h | h
        · exact .inl h
        · obtain rfl := List.mem_singleton.mp h
          exact .inr ⟨spec, .head _, checkTarget_ok htarget⟩
      · exact .inl h
    · exact .inr ⟨s, .tail _ hs, hplanned⟩

theorem buildPlan_planned {all : Bool} {t : Target}
    (h : buildPlan info all specs = .ok targets) (ht : t ∈ targets)
    (hspecs : ∀ spec ∈ specs, spec.manager ∈ evictedManagers) :
    t.manager ∈ evictedManagers ∧ Planned info t := by
  unfold buildPlan at h
  split_ifs at h
  · cases h
    obtain ⟨hmgr, -, hplanned⟩ := mem_buildAllPlan.mp ht
    exact ⟨hmgr, hplanned⟩
  · unfold buildTargetedPlan at h
    split_ifs at h
    obtain ⟨-, -, rfl⟩ := Checked.map_ok h
    rcases addTargets_targets ht with ht | ⟨spec, hspec, hmgr, hplanned⟩
    · cases ht
    · exact ⟨hmgr ▸ hspecs spec hspec, hplanned⟩

theorem parseTargetSpec_manager (h : parseTargetSpec raw = .ok t) :
    t.manager ∈ evictedManagers := by
  unfold parseTargetSpec at h
  dsimp only at h
  rw [Checked.ite_error_ok] at h
  obtain ⟨-, h⟩ := h
  split at h
  · split_ifs at h
    cases h
    decide
  · cases h
  · cases h
  · next mgr hstandalone hfargate hunknown _ =>
    split_ifs at h
    cases h
    cases mgr with
    | standalone => exact absurd rfl hstandalone
    | fargate => exact absurd rfl hfargate
    | unknown => exact absurd rfl hunknown
    | _ => simp [evictedManagers]
  · cases h

end DatadogOperator.Autoscaling
