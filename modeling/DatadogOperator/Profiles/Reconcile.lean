import DatadogOperator.Lib.Runs
import DatadogOperator.Profiles.Overlay
import Mathlib.Data.List.Sort

/-!
# Reconciling profiles

`reconcileProfiles` of `datadogagent/profile.go` with the functions of
`pkg/agentprofile` it calls: profiles are sorted and taken one by one, and one
that is valid, matches no node of another and whose shared config is accepted
gets its nodes. The lists of profiles and nodes are arguments; statuses keep
the outcome of each profile, and what follows the loop is left out.
-/

namespace DatadogOperator.Profiles

structure CreateStrategyInfo where
  nodesNeedingLabel : List String := []
  nodesAlreadyLabeled : Nat := 0

abbrev ProfilesByNode := Finmap fun _ : String => NamespacedName
abbrev CSInfo := Finmap fun _ : NamespacedName => CreateStrategyInfo

inductive Outcome
  | invalid (e : ProfileError)
  | conflict (existing : NamespacedName)
  | overlayRejected (e : OverlayError)
  | applied

structure LoopState where
  profilesByNode : ProfilesByNode
  csInfo : CSInfo := ∅
  accumulatedDefaultSpec : Spec
  /-- The user profiles that are applied, the newest last. -/
  applied : List Profile := []
  outcomes : List (NamespacedName × Outcome) := []

structure Options where
  versions : Versions
  createStrategyEnabled : Bool := false

def profileLabelKey := "agent.datadoghq.com/datadogagentprofile"
def oldProfileLabelKey := "agent.datadoghq.com/profile"

/-- What the API server lists: profiles are in namespaces, and names are unique there. -/
structure ProfileList where
  items : List Profile
  namespaced : ∀ p ∈ items, p.ns ≠ ""
  distinct : (items.map fun p => p.namespacedName).Nodup

structure NodeList where
  items : List Node
  distinct : (items.map (·.name)).Nodup

/-! ## Nodes -/

/-- The first node that matches and is on another profile. -/
def checkProfileNodeConflicts (requirements : List Requirement) (nodes : List Node)
    (profilesByNode : ProfilesByNode) : Except NamespacedName Unit :=
  let existing (node : Node) : NamespacedName := (profilesByNode.lookup node.name).getD ⟨"", ""⟩
  match nodes.find? fun node =>
      profileMatchesNodeWithRequirements requirements node.labels &&
        !isDefaultProfile (existing node).ns (existing node).name with
  | some node => .error (existing node)
  | none => .ok ()

def CSInfo.record (csInfo : CSInfo) (profile : NamespacedName) (node : Node) : CSInfo :=
  let info := (csInfo.lookup profile).getD {}
  csInfo.insert profile <|
    if node.labels.lookup profileLabelKey = some profile.name then
      { info with nodesAlreadyLabeled := info.nodesAlreadyLabeled + 1 }
    else { info with nodesNeedingLabel := info.nodesNeedingLabel ++ [node.name] }

def assignNode (enabled : Bool) (requirements : List Requirement) (profile : NamespacedName)
    (acc : ProfilesByNode × CSInfo) (node : Node) : ProfilesByNode × CSInfo :=
  if profileMatchesNodeWithRequirements requirements node.labels = false then acc
  else (acc.1.insert node.name profile, if enabled then acc.2.record profile node else acc.2)

def assignNodesToProfile (enabled : Bool) (requirements : List Requirement)
    (profile : NamespacedName) (nodes : List Node) (profilesByNode : ProfilesByNode)
    (csInfo : CSInfo) : ProfilesByNode × CSInfo :=
  let csInfo := if enabled && (csInfo.lookup profile).isNone then csInfo.insert profile {}
    else csInfo
  nodes.foldl (assignNode enabled requirements profile) (profilesByNode, csInfo)

/-! ## The order of profiles -/

/-- By creation time and then by name. -/
def compareProfiles (a b : ProfileMeta) : Ordering :=
  (compare a.creationTimestamp b.creationTimestamp).then (compare a.name b.name)

/-- `SortStableFunc`: every stable sort gives the same list. -/
def sortProfiles (profiles : List Profile) : List Profile :=
  profiles.insertionSort fun a b =>
    (compareProfiles a.toProfileMeta b.toProfileMeta).isLE = true

/-! ## The loop -/

section
variable (options : Options) (nodes : List Node) (base : Spec)

def LoopState.rejected (s : LoopState) (profile : Profile) (outcome : Outcome) : LoopState :=
  { s with outcomes := s.outcomes ++ [(profile.namespacedName, outcome)] }

/-- One turn of the loop. A valid profile has a config. -/
def reconcileProfile (s : LoopState) (profile : Profile) : LoopState :=
  match validateProfileAndReturnRequirements profile with
  | .error e => s.rejected profile (.invalid e)
  | .ok requirements =>
    match checkProfileNodeConflicts requirements nodes s.profilesByNode with
    | .error existing => s.rejected profile (.conflict existing)
    | .ok () =>
      match applyProfileSharedConfigOverlays options.versions s.accumulatedDefaultSpec base
          (profile.spec.config.getD {}) with
      | .error e => s.rejected profile (.overlayRejected e)
      | .ok candidateDefaultSpec =>
        let assigned := assignNodesToProfile options.createStrategyEnabled requirements
          profile.namespacedName nodes s.profilesByNode s.csInfo
        { profilesByNode := assigned.1
          csInfo := assigned.2
          accumulatedDefaultSpec := candidateDefaultSpec
          applied := s.applied ++ [profile]
          outcomes := s.outcomes ++ [(profile.namespacedName, .applied)] }

/-- Every node starts on the default profile. -/
def LoopState.init : LoopState :=
  { profilesByNode := nodes.foldl
      (fun profilesByNode node => profilesByNode.insert node.name defaultProfile.namespacedName) ∅
    accumulatedDefaultSpec := base }

def reconcileProfiles (profiles : List Profile) : LoopState :=
  Runs.run (reconcileProfile options nodes base) (LoopState.init nodes base) (sortProfiles profiles)

/-- What `reconcileProfiles` returns: the default profile comes first. -/
def appliedProfiles (profiles : List Profile) : List Profile :=
  defaultProfile :: (reconcileProfiles options nodes base profiles).applied

end

end DatadogOperator.Profiles
