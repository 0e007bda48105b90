import Mathlib.Data.List.MinMax

/-!
# The two largest elements of a list

One pass that keeps the element with the largest key and the runner-up,
looking only at keys above a floor. For distinct keys above the floor the
pass finds exactly the largest element and the largest of the others.
-/

namespace TopTwo

/-- With all of Mathlib loaded the order of `Int` is found by way of its suprema, and a
function that compares keys would not be computable. -/
scoped instance (priority := 10000) intPreorder : Preorder Int := Int.instLinearOrder.toPreorder

variable {α : Type} (floor : Int) (key : α → Int)

def above (x : α) : Option α → Bool
  | none => decide (floor < key x)
  | some y => decide (key y < key x)

def keep (best : Option α × Option α) (x : α) : Option α × Option α :=
  if above floor key x best.1 then (some x, best.1)
  else if above floor key x best.2 then (best.1, some x)
  else best

def topTwo (l : List α) : Option α × Option α := l.foldl (keep floor key) (none, none)

/-- The pair is the largest element of the list and the largest of the rest. -/
def IsTopTwo (l : List α) : Option α × Option α → Prop
  | (none, none) => l = []
  | (some c, none) => l = [c]
  | (some c, some p) => c ∈ l ∧ p ∈ l ∧ key p < key c ∧ ∀ x ∈ l, x = c ∨ x = p ∨ key x < key p
  | (none, some _) => False

variable {floor key} {l : List α} {best : Option α × Option α} {x c p : α}

theorem isTopTwo_keep (h : IsTopTwo key l best) (hx : floor < key x)
    (hne : ∀ y ∈ l, key y ≠ key x) : IsTopTwo key (l ++ [x]) (keep floor key best x) := by
  obtain ⟨cur, prev⟩ := best
  match cur, prev with
  | none, none =>
    have hl : l = [] := h
    subst hl
    simp [keep, above, hx, IsTopTwo]
  | some c, none =>
    have hl : l = [c] := h
    subst hl
    have hcx := hne c (by simp)
    by_cases hc : key c < key x
    · simp [keep, above, hc, IsTopTwo]
    · have hxc : key x < key c := by omega
      simp [keep, above, hc, hx, IsTopTwo, hxc]
  | some c, some p =>
    obtain ⟨hc, hp, hlt, hall⟩ := h
    have hcx := hne c hc
    have hpx := hne p hp
    by_cases h1 : key c < key x
    · simp only [keep, above, h1, decide_true, if_true]
      refine ⟨by simp, by simp [hc], h1, ?_⟩
      intro y hy
      rcases List.mem_append.mp hy with hy | hy
      · rcases hall y hy with rfl | rfl | hyp
        · exact .inr (.inl rfl)
        · exact .inr (.inr hlt)
        · exact .inr (.inr (by omega))
      · exact .inl (by simpa using hy)
    · by_cases h2 : key p < key x
      · simp only [keep, above, h1, h2, decide_true, decide_false, if_true,
          Bool.false_eq_true, if_false]
        refine ⟨by simp [hc], by simp, by omega, ?_⟩
        intro y hy
        rcases List.mem_append.mp hy with hy | hy
        · rcases hall y hy with rfl | rfl | hyp
          · exact .inl rfl
          · exact .inr (.inr h2)
          · exact .inr (.inr (by omega))
        · exact .inr (.inl (by simpa using hy))
      · simp only [keep, above, h1, h2, decide_false, Bool.false_eq_true, if_false]
        refine ⟨by simp [hc], by simp [hp], hlt, ?_⟩
        intro y hy
        rcases List.mem_append.mp hy with hy | hy
        · exact hall y hy
        · have : y = x := by simpa using hy
          subst this
          exact .inr (.inr (by omega))
  | none, some _ => exact h.elim

theorem topTwo_foldl (rest : List α) (h : IsTopTwo key l best)
    (hfloor : ∀ x ∈ rest, floor < key x) (hnd : ((l ++ rest).map key).Nodup) :
    IsTopTwo key (l ++ rest) (rest.foldl (keep floor key) best) := by
  induction rest generalizing l best with
  | nil => simpa using h
  | cons x rest ih =>
    have hne : ∀ y ∈ l, key y ≠ key x := by
      intro y hy
      rw [List.map_append, List.nodup_append] at hnd
      exact hnd.2.2 (key y) (List.mem_map_of_mem hy) (key x) (by simp)
    have hk := isTopTwo_keep h (hfloor x (by simp)) hne
    have := ih hk (fun y hy => hfloor y (by simp [hy])) (by simpa using hnd)
    simpa using this

/-- Over distinct keys above the floor the pass is right. -/
theorem topTwo_spec (hfloor : ∀ x ∈ l, floor < key x) (hnd : (l.map key).Nodup) :
    IsTopTwo key l (topTwo floor key l) :=
  topTwo_foldl (l := []) l rfl hfloor (by simpa using hnd)

end TopTwo
