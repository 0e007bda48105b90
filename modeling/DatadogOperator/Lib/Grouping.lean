import Mathlib.Data.List.AList

/-!
# Grouping values by key

A map from keys to lists, filled by appending to the list under a key. The entries of an
association list stand for a map whose iteration order says nothing.
-/

namespace Grouping

/-! ## Values replaced -/

section

variable {κ β γ : Type}

/-- The same keys, each with a new value. -/
def mapValues (f : κ → β → γ) (m : AList fun _ : κ => β) : AList fun _ : κ => γ where
  entries := m.entries.map fun e => ⟨e.1, f e.1 e.2⟩
  nodupKeys := by
    rw [List.NodupKeys, List.keys, List.map_map]
    exact m.nodupKeys

@[simp] theorem keys_mapValues (f : κ → β → γ) (m : AList fun _ : κ => β) :
    (mapValues f m).keys = m.keys := by
  simp [AList.keys, List.keys, mapValues, Function.comp_def]

theorem mem_mapValues : k ∈ mapValues f m ↔ k ∈ m := by
  rw [AList.mem_keys, keys_mapValues, ← AList.mem_keys]

theorem lookup_mapValues [DecidableEq κ] (f : κ → β → γ) (m : AList fun _ : κ => β) (k : κ) :
    (mapValues f m).lookup k = (m.lookup k).map (f k) := by
  cases h : m.lookup k with
  | none =>
    have hk : k ∉ mapValues f m := fun hk => AList.lookup_eq_none.mp h (mem_mapValues.mp hk)
    rw [AList.lookup_eq_none.mpr hk, Option.map_none]
  | some value =>
    have hentry : ⟨k, f k value⟩ ∈ (mapValues f m).entries :=
      List.mem_map.mpr ⟨⟨k, value⟩, AList.mem_lookup_iff.mp h, rfl⟩
    rw [AList.mem_lookup_iff.mpr hentry, Option.map_some]

end

/-! ## Lists under keys -/

section

variable {κ α : Type} [DecidableEq κ]

def values (m : AList fun _ : κ => List α) (k : κ) : List α := (m.lookup k).getD []

/-- The list under a key gets longer; a key that is new starts with the empty list. -/
def append (m : AList fun _ : κ => List α) (k : κ) (as : List α) : AList fun _ : κ => List α :=
  m.insert k (values m k ++ as)

def collect (items : List (κ × List α)) : AList fun _ : κ => List α :=
  items.foldl (fun m item => append m item.1 item.2) ∅

@[simp] theorem values_empty (k : κ) : values (∅ : AList fun _ : κ => List α) k = [] := by
  simp [values]

theorem values_append (m : AList fun _ : κ => List α) (k k' : κ) (as : List α) :
    values (append m k as) k' = values m k' ++ if k' = k then as else [] := by
  by_cases h : k' = k
  · subst h
    simp [values, append]
  · simp [values, append, AList.lookup_insert_ne h, h]

theorem values_foldl (items : List (κ × List α)) (m : AList fun _ : κ => List α) (k : κ) :
    values (items.foldl (fun m item => append m item.1 item.2) m) k =
      values m k ++ (items.filter (k = ·.1)).flatMap (·.2) := by
  induction items generalizing m with
  | nil => simp
  | cons item items ih =>
    rw [List.foldl_cons, ih, values_append, List.append_assoc]
    by_cases h : k = item.1
    · simp [h]
    · simp [h]

theorem values_collect (items : List (κ × List α)) (k : κ) :
    values (collect items) k = (items.filter (k = ·.1)).flatMap (·.2) := by
  rw [collect, values_foldl, values_empty, List.nil_append]

theorem mem_values_collect {k : κ} {a : α} :
    a ∈ values (collect items) k ↔ ∃ as, (k, as) ∈ items ∧ a ∈ as := by
  simp only [values_collect, List.mem_flatMap, List.mem_filter, decide_eq_true_eq]
  constructor
  · rintro ⟨⟨_, as⟩, ⟨hitem, rfl⟩, ha⟩
    exact ⟨as, hitem, ha⟩
  · rintro ⟨as, hitem, ha⟩
    exact ⟨(k, as), ⟨hitem, rfl⟩, ha⟩

theorem mem_foldl {items : List (κ × List α)} {k : κ} :
    k ∈ items.foldl (fun m item => append m item.1 item.2) m ↔ k ∈ m ∨ ∃ as, (k, as) ∈ items := by
  induction items generalizing m with
  | nil => simp
  | cons item items ih =>
    rw [List.foldl_cons, ih, append, AList.mem_insert]
    constructor
    · rintro ((rfl | hm) | ⟨as, hitem⟩)
      · exact .inr ⟨item.2, .head _⟩
      · exact .inl hm
      · exact .inr ⟨as, .tail _ hitem⟩
    · rintro (hm | ⟨as, hitem⟩)
      · exact .inl (.inr hm)
      · rcases List.mem_cons.mp hitem with rfl | hitem
        · exact .inl (.inl rfl)
        · exact .inr ⟨as, hitem⟩

theorem mem_collect {items : List (κ × List α)} : k ∈ collect items ↔ ∃ as, (k, as) ∈ items := by
  simp [collect, mem_foldl]

theorem values_mapValues {m : AList fun _ : κ => List α} {k : κ}
    (h : k ∈ m) : values (mapValues (fun _ => f) m) k = f (values m k) := by
  obtain ⟨as, has⟩ := Option.isSome_iff_exists.mp (AList.lookup_isSome.mpr h)
  rw [values, lookup_mapValues, values, has, Option.map_some, Option.getD_some, Option.getD_some]

/-! ## The order of the items -/

theorem keys_collect_perm {items items' : List (κ × List α)} (h : items.Perm items') :
    (collect items).keys.Perm (collect items').keys := by
  refine (List.perm_ext_iff_of_nodup (AList.keys_nodup _) (AList.keys_nodup _)).mpr fun k => ?_
  simp only [← AList.mem_keys, mem_collect, h.mem_iff]

theorem values_collect_perm (h : items.Perm items') (k : κ) :
    (values (collect items) k).Perm (values (collect items') k) := by
  rw [values_collect, values_collect]
  exact (h.filter _).flatMap_right _

end

end Grouping
