import Mathlib.Data.List.Basic

/-!
# Joining two lists with an escaped separator

The separator is doubled inside the parts, so that a single one marks where they meet.
The parts can be read back when the first does not end and the second does not begin
with the separator: `splitAlone` looks for the first separator without another one
beside it, and `undouble` takes the doubling back.
-/

namespace Doubling

variable {α : Type} [DecidableEq α] {c : α} {a a' b b' : List α}

def double (c : α) (l : List α) : List α := l.flatMap fun x => if x = c then [c, c] else [x]

@[simp] theorem double_nil : double c [] = [] := rfl

@[simp] theorem double_cons_self : double c (c :: a) = c :: c :: double c a := by
  simp [double]

theorem double_cons_of_ne (h : x ≠ c) : double c (x :: a) = x :: double c a := by
  simp [double, h]

theorem head?_double : (double c a).head? = a.head? := by
  cases a with
  | nil => rfl
  | cons x a =>
    by_cases h : x = c
    · subst h
      simp
    · simp [double_cons_of_ne h]

theorem double_injective : Function.Injective (double c) := by
  intro a a' h
  induction a generalizing a' with
  | nil =>
    have hhead := congrArg List.head? h
    rw [head?_double, head?_double] at hhead
    exact (List.head?_eq_none_iff.mp hhead.symm).symm
  | cons x a ih =>
    have hhead := congrArg List.head? h
    rw [head?_double, head?_double] at hhead
    cases a' with
    | nil => cases hhead
    | cons y a' =>
      cases hhead
      by_cases hx : x = c
      · subst hx
        simp only [double_cons_self, List.cons.injEq, true_and] at h
        rw [ih h]
      · rw [double_cons_of_ne hx, double_cons_of_ne hx, List.cons.injEq] at h
        rw [ih h.2]

def undouble (c : α) : List α → List α
  | [] => []
  | [x] => [x]
  | x :: y :: l => if x = c ∧ y = c then c :: undouble c l else x :: undouble c (y :: l)

theorem undouble_cons_of_ne (h : x ≠ c) : undouble c (x :: a) = x :: undouble c a := by
  cases a with
  | nil => rfl
  | cons y a => simp [undouble, h]

@[simp] theorem undouble_double : undouble c (double c a) = a := by
  induction a with
  | nil => rfl
  | cons x a ih =>
    by_cases h : x = c
    · subst h
      simp [undouble, ih]
    · simp [double_cons_of_ne h, undouble_cons_of_ne h, ih]

/-- Before and behind the first separator that stands alone. The elements that were
passed come first, in reverse. -/
def splitAlone (c : α) : List α → List α → Option (List α × List α)
  | _, [] => none
  | before, x :: rest =>
    if x = c ∧ before.head?.any (· ≠ c) ∧ rest.head?.any (· ≠ c) then
      some (before.reverse, rest)
    else splitAlone c (x :: before) rest

theorem splitAlone_cons_of_ne (h : x ≠ c) :
    splitAlone c before (x :: a) = splitAlone c (x :: before) a := by
  simp [splitAlone, h]

@[simp] theorem splitAlone_pair :
    splitAlone c before (c :: c :: a) = splitAlone c (c :: c :: before) a := by
  simp [splitAlone]

/-- In a doubled list no separator stands alone. -/
theorem splitAlone_double : splitAlone c before (double c a) = none := by
  induction a generalizing before with
  | nil => rfl
  | cons x a ih =>
    by_cases h : x = c
    · subst h
      simp [ih]
    · simp [double_cons_of_ne h, splitAlone_cons_of_ne h, ih]

omit [DecidableEq α] in
theorem getLast?_tail (h : (x :: a).getLast? ≠ some c) : a.getLast? ≠ some c := by
  cases a with
  | nil => simp
  | cons y a => simpa using h

/-- The scan gets through a doubled list, to the separator behind it. -/
theorem splitAlone_double_append (ha : a.getLast? ≠ some c)
    (hbefore : a = [] → before.head?.any (· ≠ c)) :
    splitAlone c before (double c a ++ c :: b) =
      if b.head?.any (· ≠ c) then some (before.reverse ++ double c a, b)
      else splitAlone c (c :: ((double c a).reverse ++ before)) b := by
  induction a generalizing before with
  | nil =>
    have halone := hbefore rfl
    simp only [ne_eq, decide_not] at halone
    simp [splitAlone, halone]
  | cons x a ih =>
    have hlast := getLast?_tail ha
    by_cases h : x = c
    · subst h
      have hne : a ≠ [] := by
        rintro rfl
        exact ha rfl
      simp [ih hlast fun hnil => absurd hnil hne]
    · rw [double_cons_of_ne h, List.cons_append, splitAlone_cons_of_ne h,
        ih hlast fun _ => by simpa using h]
      simp

/-- The two parts are found unless the second begins with the separator. -/
theorem splitAlone_join (ha : a.getLast?.any (· ≠ c)) :
    splitAlone c [] (double c a ++ c :: double c b) =
      if b.head?.any (· ≠ c) then some (double c a, double c b) else none := by
  have hlast : a.getLast? ≠ some c := by
    intro h
    simp [h] at ha
  have hne : a ≠ [] := by
    rintro rfl
    simp at ha
  rw [splitAlone_double_append hlast fun h => absurd h hne, head?_double, splitAlone_double]
  rfl

/-- The place of the separator is where a single one stands. -/
theorem double_append_ne (hb : b.head? ≠ some c) :
    c :: double c b ≠ double c (x :: a') ++ c :: double c b' := by
  intro h
  by_cases hx : x = c
  · subst hx
    have hhead := congrArg (fun l => l.tail.head?) h
    simp only [List.tail_cons, double_cons_self, List.cons_append, List.head?_cons,
      head?_double] at hhead
    exact hb hhead
  · rw [double_cons_of_ne hx, List.cons_append, List.cons.injEq] at h
    exact hx h.1.symm

theorem join_injective (ha : a.getLast? ≠ some c) (ha' : a'.getLast? ≠ some c)
    (hb : b.head? ≠ some c) (hb' : b'.head? ≠ some c)
    (h : double c a ++ c :: double c b = double c a' ++ c :: double c b') : a = a' ∧ b = b' := by
  induction a generalizing a' with
  | nil =>
    cases a' with
    | nil =>
      simp only [double_nil, List.nil_append, List.cons.injEq, true_and] at h
      exact ⟨rfl, double_injective h⟩
    | cons x a' => exact absurd h (double_append_ne hb)
  | cons x a ih =>
    cases a' with
    | nil => exact absurd h.symm (double_append_ne hb')
    | cons y a' =>
      have hhead := congrArg List.head? h
      simp only [List.head?_append, head?_double, List.head?_cons, Option.some_or,
        Option.some.injEq] at hhead
      subst hhead
      have hrest := ih (getLast?_tail ha) (getLast?_tail ha')
      by_cases hx : x = c
      · subst hx
        simp only [double_cons_self, List.cons_append, List.cons.injEq, true_and] at h
        obtain ⟨rfl, rfl⟩ := hrest h
        exact ⟨rfl, rfl⟩
      · simp only [double_cons_of_ne hx, List.cons_append, List.cons.injEq, true_and] at h
        obtain ⟨rfl, rfl⟩ := hrest h
        exact ⟨rfl, rfl⟩

end Doubling
