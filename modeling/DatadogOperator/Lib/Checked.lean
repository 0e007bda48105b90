import Mathlib.Init

/-!
# Computations that may fail

Inversion rules for `Except`: what the parts of a computation gave when the
whole gave a result.
-/

namespace Checked

variable {ε α β γ : Type} {x : Except ε α} {f : α → Except ε β}

instance decidableForallOk {P : α → Prop} [∀ a, Decidable (P a)] :
    Decidable (∀ a, x = .ok a → P a) :=
  match x with
  | .error _ => isTrue nofun
  | .ok a => decidable_of_iff (P a) ⟨fun h _ ha => Except.ok.inj ha ▸ h, fun h => h a rfl⟩

theorem bind_ok (h : x >>= f = .ok b) : ∃ a, x = .ok a ∧ f a = .ok b := by
  cases x with
  | error e => cases h
  | ok a => exact ⟨a, rfl, h⟩

theorem map_ok (h : x.map g = .ok b) : ∃ a, x = .ok a ∧ g a = b := by
  cases x with
  | error e => cases h
  | ok a => exact ⟨a, rfl, Except.ok.inj h⟩

theorem ite_error_ok [Decidable p] : (if p then .error e else x) = .ok a ↔ ¬p ∧ x = .ok a := by
  by_cases h : p
  · rw [if_pos h]
    exact ⟨nofun, fun h' => absurd h h'.1⟩
  · rw [if_neg h]
    exact ⟨fun h' => ⟨h, h'⟩, fun h' => h'.2⟩

/-- When all elements give results, what is known of each result by its element is known of all. -/
theorem mapM_map {as : List α} {g : β → γ} {k : α → γ}
    (hf : ∀ a ∈ as, ∀ b, f a = .ok b → g b = k a) (h : as.mapM f = .ok bs) :
    bs.map g = as.map k := by
  induction as generalizing bs with
  | nil =>
    cases h
    rfl
  | cons a as ih =>
    rw [List.mapM_cons] at h
    obtain ⟨b, hb, h⟩ := bind_ok h
    obtain ⟨bs, hbs, h⟩ := bind_ok h
    cases h
    rw [List.map_cons, List.map_cons, hf a (.head _) b hb, ih (fun a ha => hf a (.tail _ ha)) hbs]

/-- What is known of each result is known of all. -/
theorem mapM_forall {as : List α} {P : β → Prop}
    (hf : ∀ a ∈ as, ∀ b, f a = .ok b → P b) (h : as.mapM f = .ok bs) : ∀ b ∈ bs, P b := by
  induction as generalizing bs with
  | nil =>
    cases h
    nofun
  | cons a as ih =>
    rw [List.mapM_cons] at h
    obtain ⟨b, hb, h⟩ := bind_ok h
    obtain ⟨bs, hbs, h⟩ := bind_ok h
    cases h
    intro b' hb'
    rcases List.mem_cons.mp hb' with rfl | hb'
    · exact hf a (.head _) b' hb
    · exact ih (fun a ha => hf a (.tail _ ha)) hbs b' hb'

end Checked
