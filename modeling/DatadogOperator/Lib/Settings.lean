import Mathlib.Data.Option.Basic

/-!
# Optional settings

Settings from several sources are joined when they agree: a value that is set twice has to
be the same. Sources that agree in pairs can be joined in any order.
-/

namespace Settings

variable {α : Type} {a b c : Option α}

def Agree (a b : Option α) : Prop := ∀ x ∈ a, ∀ y ∈ b, x = y

@[simp] theorem agree_none_left : Agree none a := nofun

@[simp] theorem agree_none_right : Agree a none := fun _ _ => nofun

@[simp] theorem agree_some : Agree (some x) (some y) ↔ x = y := by
  simp [Agree]

theorem Agree.symm (h : Agree a b) : Agree b a := fun x hx y hy => (h y hy x hx).symm

theorem agree_or_iff (h : Agree a b) : Agree (b.or a) c ↔ Agree a c ∧ Agree b c := by
  cases a <;> cases b <;> cases c <;> simp_all

theorem or_comm_of_agree (h : Agree a b) : a.or b = b.or a := by
  cases a <;> cases b <;> simp_all

theorem or_right_comm_of_agree (h : Agree b c) : c.or (b.or a) = b.or (c.or a) := by
  cases b <;> cases c <;> simp_all

end Settings
