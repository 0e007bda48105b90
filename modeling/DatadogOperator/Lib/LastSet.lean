import Mathlib.Data.List.Induction

/-!
# Last writer wins

The last element of a list that sets a value, and folds that keep it: a merge keeps the last
value if the right argument's, when it has one, replaces the left one's.
-/

namespace LastSet

variable {α β γ : Type}

def lastSet (f : α → Option γ) (l : List α) : Option γ := l.reverse.findSome? f

theorem lastSet_append (f : α → Option γ) (l l' : List α) :
    lastSet f (l ++ l') = (lastSet f l').or (lastSet f l) := by
  unfold lastSet
  rw [List.reverse_append, List.findSome?_append]

theorem lastSet_append_singleton (f : α → Option γ) (l : List α) (x : α) :
    lastSet f (l ++ [x]) = (f x).or (lastSet f l) := by
  unfold lastSet
  rw [List.reverse_append, List.reverse_singleton, List.singleton_append, List.findSome?_cons]
  cases f x <;> rfl

theorem lastSet_isSome (f : α → Option γ) (l : List α) :
    (lastSet f l).isSome ↔ ∃ x ∈ l, (f x).isSome := by
  simp [lastSet]

/-- What is read from a fold of merges is the last value that is set. -/
theorem read_foldl (read : β → Option γ) (f : α → Option γ)
    (h : ∀ b x, read (step b x) = (f x).or (read b)) (l : List α) (b : β) :
    read (l.foldl step b) = (lastSet f l).or (read b) := by
  induction l using List.reverseRecOn with
  | nil => rfl
  | append_singleton l x ih =>
    rw [List.foldl_append, List.foldl_cons, List.foldl_nil, h, ih, lastSet_append_singleton,
      Option.or_assoc]

end LastSet
