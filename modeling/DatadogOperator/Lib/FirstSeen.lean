import Mathlib.Data.List.Nodup

/-!
# Elements in the order in which they are first seen

`collect seen l` goes through `l` and appends what was not seen before. Joined lists are
collected to the same whatever their order exactly if of any two one is, without its
repetitions, the beginning of the other.
-/

namespace FirstSeen

variable {α : Type} [DecidableEq α] {seen c l a b : List α} {x : α} {ls ls' : List (List α)}

def add (seen : List α) (x : α) : List α := if x ∈ seen then seen else seen ++ [x]

def collect (seen l : List α) : List α := l.foldl add seen

@[simp] theorem collect_nil (seen : List α) : collect seen [] = seen := rfl

@[simp] theorem collect_cons (seen : List α) (x : α) (l : List α) :
    collect seen (x :: l) = collect (add seen x) l := rfl

theorem collect_append (seen a b : List α) : collect seen (a ++ b) = collect (collect seen a) b :=
  List.foldl_append

@[simp] theorem mem_add : y ∈ add seen x ↔ y ∈ seen ∨ y = x := by
  unfold add
  split_ifs with h
  · refine ⟨Or.inl, ?_⟩
    rintro (hy | rfl)
    · exact hy
    · exact h
  · simp

theorem prefix_add (seen : List α) (x : α) : seen <+: add seen x := by
  unfold add
  split_ifs
  · exact List.prefix_rfl
  · exact List.prefix_append _ _

theorem prefix_collect (seen l : List α) : seen <+: collect seen l := by
  induction l generalizing seen with
  | nil => exact List.prefix_rfl
  | cons x l ih => exact (prefix_add seen x).trans (ih _)

@[simp] theorem mem_collect : y ∈ collect seen l ↔ y ∈ seen ∨ y ∈ l := by
  induction l generalizing seen with
  | nil => simp
  | cons x l ih => simp [ih, or_assoc]

theorem nodup_collect (h : seen.Nodup) : (collect seen l).Nodup := by
  induction l generalizing seen with
  | nil => exact h
  | cons x l ih =>
    refine ih ?_
    unfold add
    split_ifs with hx
    · exact h
    · simp only [List.nodup_append, h, List.nodup_singleton, true_and, List.mem_singleton]
      rintro y hy z rfl rfl
      exact hx hy

theorem collect_of_subset (h : ∀ y ∈ l, y ∈ seen) : collect seen l = seen := by
  induction l with
  | nil => rfl
  | cons x l ih =>
    have hx : add seen x = seen := if_pos (h x (.head _))
    rw [collect_cons, hx]
    exact ih fun y hy => h y (List.mem_cons_of_mem x hy)

/-- What was seen already may be the beginning of what is to be collected. -/
theorem collect_of_le (hseen : seen <+: c) (hc : c <+: collect seen l) :
    collect c l = collect seen l := by
  induction l generalizing seen with
  | nil => exact List.IsPrefix.eq_of_length_le hc hseen.length_le
  | cons x l ih =>
    rw [collect_cons] at hc ⊢
    rw [collect_cons]
    rcases List.prefix_or_prefix_of_prefix (prefix_collect (add seen x) l) hc with hadd | hshort
    · have hx : add c x = c := if_pos (hadd.subset (mem_add.mpr (.inr rfl)))
      rw [hx]
      exact ih hadd hc
    · -- `c` lies between `seen` and `seen` with one more element.
      by_cases hx : x ∈ seen
      · have hcx : add c x = c := if_pos (hseen.subset hx)
        rw [hcx]
        exact ih (by rwa [add, if_pos hx]) hc
      · rw [add, if_neg hx] at hshort
        rcases List.prefix_concat_iff.mp hshort with rfl | hle
        · have hcx : add (seen ++ [x]) x = seen ++ [x] := if_pos (by simp)
          rw [hcx, add, if_neg hx]
        · rw [List.IsPrefix.eq_of_length_le hle hseen.length_le]

theorem collect_of_nodup (h : (seen ++ l).Nodup) : collect seen l = seen ++ l := by
  induction l generalizing seen with
  | nil => simp
  | cons x l ih =>
    have hx : x ∉ seen := fun hx => (List.nodup_append.mp h).2.2 x hx x (.head _) rfl
    rw [collect_cons, add, if_neg hx, ih (by simpa using h)]
    simp

theorem collect_self (l : List α) : collect [] (collect [] l) = collect [] l :=
  collect_of_nodup (nodup_collect List.nodup_nil)

/-! ## Joined lists -/

/-- Of two lists without repetitions one is the beginning of the other. -/
def Nested (a b : List α) : Prop := collect [] a <+: collect [] b ∨ collect [] b <+: collect [] a

theorem collect_append_of_nested (h : Nested a b) :
    collect [] (a ++ b) = collect [] a ∧ collect [] b <+: collect [] a ∨
      collect [] (a ++ b) = collect [] b ∧ collect [] a <+: collect [] b := by
  rw [collect_append]
  rcases h with h | h
  · exact .inr ⟨collect_of_le List.nil_prefix h, h⟩
  · refine .inl ⟨collect_of_subset fun y hy => h.subset ?_, h⟩
    simp [hy]

/-- Nested lists are collected to the longest of them. -/
theorem collect_flatten_of_nested (h : ∀ a ∈ ls, ∀ b ∈ ls, Nested a b) :
    (∀ a ∈ ls, collect [] a <+: collect [] ls.flatten) ∧
      (collect [] ls.flatten = [] ∨ ∃ a ∈ ls, collect [] ls.flatten = collect [] a) := by
  induction ls with
  | nil => simp
  | cons a ls ih =>
    obtain ⟨hle_collect, hlongest⟩ := ih fun x hx y hy =>
      h x (List.mem_cons_of_mem a hx) y (List.mem_cons_of_mem a hy)
    have hnested : Nested a ls.flatten := by
      rcases hlongest with hnil | ⟨b, hb, heq⟩
      · exact .inr (by rw [hnil]; exact List.nil_prefix)
      · have := h a (.head _) b (List.mem_cons_of_mem a hb)
        unfold Nested at this ⊢
        rwa [heq]
    rw [List.flatten_cons]
    rcases collect_append_of_nested hnested with ⟨heq, hle⟩ | ⟨heq, hle⟩ <;> rw [heq]
    · refine ⟨?_, .inr ⟨a, .head _, rfl⟩⟩
      intro x hx
      rcases List.mem_cons.mp hx with rfl | hx
      · exact List.prefix_rfl
      · exact (hle_collect x hx).trans hle
    · refine ⟨?_, hlongest.imp_right ?_⟩
      · intro x hx
        rcases List.mem_cons.mp hx with rfl | hx
        · exact hle
        · exact hle_collect x hx
      · rintro ⟨b, hb, h⟩
        exact ⟨b, List.mem_cons_of_mem a hb, h⟩

theorem collect_prefix_of_perm (h : ∀ a ∈ ls, ∀ b ∈ ls, Nested a b) (hperm : ls.Perm ls') :
    collect [] ls.flatten <+: collect [] ls'.flatten := by
  have h' : ∀ a ∈ ls', ∀ b ∈ ls', Nested a b := fun a ha b hb =>
    h a (hperm.mem_iff.mpr ha) b (hperm.mem_iff.mpr hb)
  rcases (collect_flatten_of_nested h).2 with hnil | ⟨a, ha, heq⟩
  · rw [hnil]
    exact List.nil_prefix
  · rw [heq]
    exact (collect_flatten_of_nested h').1 a (hperm.mem_iff.mp ha)

theorem collect_flatten_perm_iff {β : Type} (f : β → List α) (l : List β) :
    (∀ l', l.Perm l' → collect [] (l'.map f).flatten = collect [] (l.map f).flatten) ↔
      ∀ a ∈ l.map f, ∀ b ∈ l.map f, Nested a b := by
  constructor
  · intro h
    -- Any list may be the first, and is then the beginning of what is collected.
    have hfirst : ∀ a ∈ l.map f, collect [] a <+: collect [] (l.map f).flatten := by
      intro a ha
      obtain ⟨x, hx, rfl⟩ := List.mem_map.mp ha
      obtain ⟨before, after, rfl⟩ := List.append_of_mem hx
      rw [← h _ List.perm_middle, List.map_cons, List.flatten_cons, collect_append]
      exact prefix_collect _ _
    exact fun a ha b hb => List.prefix_or_prefix_of_prefix (hfirst a ha) (hfirst b hb)
  · intro h l' hperm
    have h' : ∀ a ∈ l'.map f, ∀ b ∈ l'.map f, Nested a b := fun a ha b hb =>
      h a ((hperm.map f).mem_iff.mpr ha) b ((hperm.map f).mem_iff.mpr hb)
    exact (collect_prefix_of_perm h' (hperm.map f).symm).eq_of_length_le
      (collect_prefix_of_perm h (hperm.map f)).length_le

end FirstSeen
