import Mathlib.Data.String.Basic
import Mathlib.Logic.Function.Basic
import Mathlib.Tactic.Tauto

/-!
# Which components the features ask for

`BuildFeatures` merges what the registered features require. A feature is
what its `Configure` returns for the DatadogAgent at hand.
-/

namespace DatadogOperator.Features

/-- `isRequired` is false only in overrides. -/
structure RequiredComponent where
  isRequired : Option Bool := none
  containers : List String := []

def RequiredComponent.isEnabled (rc : RequiredComponent) : Bool := rc.isRequired == some true

def RequiredComponent.isPrivileged (rc : RequiredComponent) : Bool :=
  rc.containers.any (["security-agent", "system-probe", "host-profiler"].contains ·)

inductive Component
  | clusterAgent
  | agent
  | clusterChecksRunner
  | otelAgentGateway
  deriving DecidableEq

abbrev RequiredComponents := Component → RequiredComponent

def merge : Option Bool → Option Bool → Option Bool
  | none, b => b
  | a, none => a
  | some a, some b => some (a && b)

/-- What `b` repeats stays repeated. -/
def mergeSlices (a b : List String) : List String :=
  b.foldl (fun out containerB => if containerB ∈ a then out else out ++ [containerB]) a

def RequiredComponents.merge (rcs rcs' : RequiredComponents) : RequiredComponents := fun c =>
  { isRequired := Features.merge (rcs c).isRequired (rcs' c).isRequired
    containers := mergeSlices (rcs c).containers (rcs' c).containers }

/-- The features come in the order of their IDs. -/
def buildFeatures (features : List RequiredComponents) (singleContainerStrategy : Bool) :
    RequiredComponents :=
  let required := features.foldl RequiredComponents.merge fun _ => {}
  let agent := required .agent
  if singleContainerStrategy && agent.isEnabled && !agent.isPrivileged then
    Function.update required .agent { agent with containers := ["unprivileged-single-agent"] }
  else required

theorem mem_mergeSlices : x ∈ mergeSlices a b ↔ x ∈ a ∨ x ∈ b := by
  suffices h : ∀ out, a ⊆ out → (x ∈ b.foldl (fun out containerB =>
      if containerB ∈ a then out else out ++ [containerB]) out ↔ x ∈ out ∨ x ∈ b) from
    h a fun _ hy => hy
  intro out hout
  induction b generalizing out with
  | nil => simp
  | cons y b ih =>
    rw [List.foldl_cons]
    split
    · rename_i hy
      have := hout hy
      rw [ih out hout, List.mem_cons]
      grind
    · rw [ih _ fun z hz => List.mem_append_left _ (hout hz)]
      simp [or_assoc]

theorem merge_eq_true (a b : Option Bool) : merge a b = some true ↔
    a ≠ some false ∧ b ≠ some false ∧ (a = some true ∨ b = some true) := by
  rcases a with _ | _ | _ <;> rcases b with _ | _ | _ <;> simp [merge]

theorem merge_eq_false (a b : Option Bool) : merge a b = some false ↔
    a = some false ∨ b = some false := by
  rcases a with _ | _ | _ <;> rcases b with _ | _ | _ <;> simp [merge]

theorem merged (features : List RequiredComponents) (rcs : RequiredComponents) (c : Component) :
    let out := features.foldl RequiredComponents.merge rcs c
    (out.isRequired = some true ↔
      ((rcs c).isRequired = some true ∨ ∃ f ∈ features, (f c).isRequired = some true) ∧
        (rcs c).isRequired ≠ some false ∧ ∀ f ∈ features, (f c).isRequired ≠ some false) ∧
      ∀ x, x ∈ out.containers ↔ x ∈ (rcs c).containers ∨ ∃ f ∈ features, x ∈ (f c).containers := by
  induction features generalizing rcs with
  | nil => cases h : (rcs c).isRequired <;> simp [h]
  | cons f features ih =>
    obtain ⟨h1, h2⟩ := ih (rcs.merge f)
    simp only [RequiredComponents.merge, ne_eq, merge_eq_true, merge_eq_false,
      mem_mergeSlices] at h1 h2
    simp only [List.foldl_cons, h1, h2, List.forall_mem_cons, List.exists_mem_cons_iff]
    grind

theorem components_follow_features (features : List RequiredComponents) (single : Bool)
    (c : Component) :
    let out := buildFeatures features single
    ((out c).isEnabled ↔ (∃ f ∈ features, (f c).isRequired = some true) ∧
      ∀ f ∈ features, (f c).isRequired ≠ some false) ∧
    ∀ x, x ∈ (out c).containers ↔
      if c = .agent ∧ single ∧ (out .agent).isEnabled ∧
          ∀ f ∈ features, (f .agent).isPrivileged = false then
        x = "unprivileged-single-agent"
      else ∃ f ∈ features, x ∈ (f c).containers := by
  have hmerged := merged features fun _ => {}
  unfold buildFeatures
  generalize features.foldl RequiredComponents.merge (fun _ => {}) = required at hmerged ⊢
  simp only [List.not_mem_nil, false_or, reduceCtorEq, ne_eq, not_false_eq_true, true_and] at hmerged
  have henabled (rc : RequiredComponent) : rc.isEnabled ↔ rc.isRequired = some true := beq_iff_eq
  have hpriv : (required .agent).isPrivileged = false ↔
      ∀ f ∈ features, (f .agent).isPrivileged = false := by
    simp only [RequiredComponent.isPrivileged, List.any_eq_false, (hmerged .agent).2]
    exact ⟨fun h f hf x hx => h x ⟨f, hf, hx⟩, by rintro h x ⟨f, hf, hx⟩; exact h f hf x hx⟩
  by_cases hsingle : single && (required .agent).isEnabled && !(required .agent).isPrivileged
  · simp only [if_pos hsingle, henabled]
    simp only [Bool.and_eq_true, Bool.not_eq_true', hpriv, henabled] at hsingle
    by_cases hc : c = .agent
    · subst hc
      refine ⟨by simpa using (hmerged .agent).1, fun x => ?_⟩
      rw [if_pos ⟨rfl, hsingle.1.1, by simpa using hsingle.1.2, hsingle.2⟩]
      simp
    · simpa [hc] using hmerged c
  · simp only [if_neg hsingle, henabled]
    simp only [Bool.and_eq_true, Bool.not_eq_true', hpriv, henabled] at hsingle
    refine ⟨(hmerged c).1, fun x => ?_⟩
    rw [if_neg (by tauto)]
    exact (hmerged c).2 x

end DatadogOperator.Features
