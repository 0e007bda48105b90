import Mathlib.Data.Finmap

/-!
# Restricting a finite map to some of its keys

`filterKeys p` keeps the entries whose key satisfies `p`. The lemmas say how
it meets `insert`, `erase` and the left-biased union, all by lookup.
-/

namespace Finmap

variable {α : Type} {β : α → Type} {p : α → Bool} {s t : Finmap β}

def filterKeys (p : α → Bool) (s : Finmap β) : Finmap β where
  entries := s.entries.filter fun e => p e.1
  nodupKeys := by
    rw [← Multiset.nodup_keys]
    exact Multiset.nodup_of_le (Multiset.map_le_map (Multiset.filter_le _ _))
      (Multiset.nodup_keys.mpr s.nodupKeys)

variable [DecidableEq α]

@[simp] theorem lookup_filterKeys (a : α) :
    (s.filterKeys p).lookup a = if p a then s.lookup a else none := by
  ext b
  by_cases h : p a <;>
    simp [← Option.mem_def, Finmap.mem_lookup_iff, filterKeys, h, Multiset.mem_filter]

theorem mem_filterKeys : a ∈ s.filterKeys p ↔ a ∈ s ∧ p a = true := by
  rw [← lookup_isSome, ← lookup_isSome, lookup_filterKeys]
  cases p a <;> simp

theorem filterKeys_insert_of_not (h : p a = false) (b : β a) :
    (s.insert a b).filterKeys p = s.filterKeys p := by
  refine ext_lookup fun x => ?_
  by_cases hx : x = a
  · subst hx; simp [h]
  · simp [lookup_insert_of_ne s hx]

theorem filterKeys_erase_of_not (h : p a = false) : (s.erase a).filterKeys p = s.filterKeys p := by
  refine ext_lookup fun x => ?_
  by_cases hx : x = a
  · subst hx; simp [h]
  · simp [lookup_erase_ne hx]

theorem lookup_union (a : α) : (s ∪ t).lookup a = (s.lookup a).or (t.lookup a) := by
  by_cases h : a ∈ s
  · obtain ⟨b, hb⟩ := mem_iff.mp h
    rw [lookup_union_left h, hb, Option.some_or]
  · rw [lookup_union_right h, lookup_eq_none.mpr h, Option.none_or]

theorem union_self (s : Finmap β) : s ∪ s = s := by
  refine Finmap.ext_lookup fun key => ?_
  rw [lookup_union, Option.or_self]

theorem union_eq_left_iff : s ∪ t = s ↔ ∀ a ∈ t, a ∈ s := by
  constructor
  · intro h a ha
    rw [← h]
    exact mem_union.mpr (.inr ha)
  · intro h
    refine ext_lookup fun a => ?_
    by_cases ha : a ∈ s
    · exact lookup_union_left ha
    · rw [lookup_union_right ha, lookup_eq_none.mpr ha, lookup_eq_none.mpr (mt (h a) ha)]

/-- A map with keys in `p` only passes the filter, also on top of another. -/
theorem filterKeys_union (h : s.filterKeys p = s) : (s ∪ t).filterKeys p = s ∪ t.filterKeys p := by
  refine ext_lookup fun x => ?_
  have hx : s.lookup x = if p x then s.lookup x else none := by
    conv_lhs => rw [← h]
    exact lookup_filterKeys x
  by_cases hp : p x
  · simp [lookup_union, hp]
  · rw [lookup_union, lookup_filterKeys, lookup_filterKeys]
    simp only [hp, Bool.false_eq_true, if_false] at hx ⊢
    simp [hx]

@[simp] theorem filterKeys_union_self : s.filterKeys p ∪ s = s := by
  refine ext_lookup fun x => ?_
  by_cases hp : p x <;> simp [lookup_union, hp]

@[simp] theorem filterKeys_filterKeys : (s.filterKeys p).filterKeys p = s.filterKeys p := by
  refine ext_lookup fun x => ?_
  by_cases hp : p x <;> simp [hp]

end Finmap
