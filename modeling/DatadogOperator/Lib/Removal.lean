import Mathlib.Data.List.AList

/-!
# Removing groups of keys from a map

Groups of keys are removed one after the other. A key that is not there is an error, which
ends the removal of its group but not that of the others. When every key is there, and
groups that are not the same have no key in common, there is no error exactly if no group
comes twice; the keys are gone in any case.
-/

namespace Removal

variable {κ ν ε : Type} [DecidableEq κ]

/-- Each key has the error it gives if it is not there. -/
abbrev Group (κ ε : Type) := List (κ × ε)

def Group.keys (g : Group κ ε) : List κ := g.map Prod.fst

def removeGroup (m : AList fun _ : κ => ν) : Group κ ε → (AList fun _ : κ => ν) × Option ε
  | [] => (m, none)
  | (k, e) :: g => if k ∈ m then removeGroup (m.erase k) g else (m, some e)

def removeGroups (m : AList fun _ : κ => ν) : List (Group κ ε) → (AList fun _ : κ => ν) × List ε
  | [] => (m, [])
  | g :: gs =>
    let first := removeGroup m g
    let rest := removeGroups first.1 gs
    (rest.1, first.2.toList ++ rest.2)

variable {m : AList fun _ : κ => ν} {g : Group κ ε} {gs : List (Group κ ε)}

theorem removeGroups_append (gs' : List (Group κ ε)) : removeGroups m (gs ++ gs') =
      ((removeGroups (removeGroups m gs).1 gs').1,
        (removeGroups m gs).2 ++ (removeGroups (removeGroups m gs).1 gs').2) := by
  induction gs generalizing m with
  | nil => rfl
  | cons g gs ih => simp [removeGroups, ih]

theorem removeGroup_of_mem (hmem : ∀ k ∈ g.keys, k ∈ m) (hnodup : g.keys.Nodup) :
    (removeGroup m g).2 = none ∧
      ∀ k, (removeGroup m g).1.lookup k = if k ∈ g.keys then none else m.lookup k := by
  induction g generalizing m with
  | nil => simp [removeGroup, Group.keys]
  | cons p g ih =>
    obtain ⟨k₀, e⟩ := p
    have hkeys : Group.keys ((k₀, e) :: g) = k₀ :: Group.keys g := rfl
    rw [hkeys] at hmem hnodup
    rw [hkeys]
    obtain ⟨hk₀, hrest⟩ := List.nodup_cons.mp hnodup
    have hmem' : ∀ k ∈ Group.keys g, k ∈ m.erase k₀ := by
      intro k hk
      refine AList.mem_erase.mpr ⟨?_, hmem k (.tail _ hk)⟩
      rintro rfl
      exact hk₀ hk
    obtain ⟨hnone, hlookup⟩ := ih hmem' hrest
    rw [removeGroup, if_pos (hmem k₀ (.head _))]
    refine ⟨hnone, fun k => ?_⟩
    rw [hlookup]
    by_cases hk : k = k₀
    · subst hk
      simp
    · by_cases hg : k ∈ Group.keys g
      · simp [hg]
      · simp [hg, hk, AList.lookup_erase_ne hk]

theorem removeGroup_of_not_mem (hne : g ≠ []) (hmem : ∀ k ∈ g.keys, k ∉ m) :
    (removeGroup m g).1 = m ∧ (removeGroup m g).2.isSome = true := by
  cases g with
  | nil => exact absurd rfl hne
  | cons p g =>
    have hp : p.1 ∉ m := hmem p.1 (.head _)
    simp [removeGroup, hp]

/-- A group is still there, or it is gone. -/
def Settled (m : AList fun _ : κ => ν) (g : Group κ ε) : Prop :=
  (∀ k ∈ g.keys, k ∈ m) ∨ ∀ k ∈ g.keys, k ∉ m

theorem removeGroup_lookup (hne : g ≠ []) (hnodup : g.keys.Nodup) (h : Settled m g) (k : κ) :
    (removeGroup m g).1.lookup k = if k ∈ g.keys then none else m.lookup k := by
  rcases h with hmem | hgone
  · exact (removeGroup_of_mem hmem hnodup).2 k
  · rw [(removeGroup_of_not_mem hne hgone).1]
    split_ifs with hk
    · exact AList.lookup_eq_none.mpr (hgone k hk)
    · rfl

theorem removeGroup_mem_iff (hne : g ≠ []) (hnodup : g.keys.Nodup) (h : Settled m g) (k : κ) :
    k ∈ (removeGroup m g).1 ↔ k ∉ g.keys ∧ k ∈ m := by
  rw [← AList.lookup_isSome, removeGroup_lookup hne hnodup h]
  split_ifs with hk
  · simp [hk]
  · simp [hk, AList.lookup_isSome]

theorem removeGroup_eq_none_iff (hne : g ≠ []) (hnodup : g.keys.Nodup) (h : Settled m g) :
    (removeGroup m g).2 = none ↔ ∀ k ∈ g.keys, k ∈ m := by
  rcases h with hmem | hgone
  · exact iff_of_true (removeGroup_of_mem hmem hnodup).1 hmem
  · refine iff_of_false ?_ ?_
    · intro hnone
      have hsome := (removeGroup_of_not_mem hne hgone).2
      rw [hnone] at hsome
      cases hsome
    · intro hmem
      obtain ⟨p, hp⟩ := List.exists_mem_of_ne_nil _ hne
      have hkey : p.1 ∈ g.keys := List.mem_map.mpr ⟨p, hp, rfl⟩
      exact hgone _ hkey (hmem _ hkey)

/-- What is asked of the groups: each has keys, none twice, and no key is in two groups. -/
structure Apart (gs : List (Group κ ε)) : Prop where
  ne_nil : ∀ g ∈ gs, g ≠ []
  nodup : ∀ g ∈ gs, g.keys.Nodup
  disjoint : ∀ g ∈ gs, ∀ g' ∈ gs, ∀ k ∈ g.keys, k ∈ g'.keys → g = g'

omit [DecidableEq κ] in
theorem Apart.tail (h : Apart (g :: gs)) : Apart gs where
  ne_nil g' hg' := h.ne_nil g' (.tail _ hg')
  nodup g' hg' := h.nodup g' (.tail _ hg')
  disjoint g₁ h₁ g₂ h₂ := h.disjoint g₁ (.tail _ h₁) g₂ (.tail _ h₂)

/-- After the first group, another group is as before; the same group is gone. -/
theorem Apart.mem_after (hapart : Apart (g :: gs)) (h : Settled m g)
    (hg' : g' ∈ gs) : (∀ k ∈ g'.keys, k ∈ (removeGroup m g).1) ↔ g' ≠ g ∧ ∀ k ∈ g'.keys, k ∈ m := by
  have hne := hapart.ne_nil g (.head _)
  have hnodup := hapart.nodup g (.head _)
  simp only [removeGroup_mem_iff hne hnodup h]
  constructor
  · intro hall
    refine ⟨?_, fun k hk => (hall k hk).2⟩
    rintro rfl
    obtain ⟨p, hp⟩ := List.exists_mem_of_ne_nil _ hne
    have hkey : p.1 ∈ Group.keys g' := List.mem_map.mpr ⟨p, hp, rfl⟩
    exact (hall _ hkey).1 hkey
  · rintro ⟨hother, hall⟩ k hk
    refine ⟨fun hkg => hother ?_, hall k hk⟩
    exact hapart.disjoint g' (.tail _ hg') g (.head _) k hk hkg

theorem Apart.settled_after (hapart : Apart (g :: gs)) (h : ∀ g' ∈ g :: gs, Settled m g')
    (hg' : g' ∈ gs) : Settled (removeGroup m g).1 g' := by
  have hg := h g (.head _)
  by_cases hsame : g' = g
  · subst hsame
    refine .inr fun k hk => ?_
    rw [removeGroup_mem_iff (hapart.ne_nil _ (.head _)) (hapart.nodup _ (.head _)) hg]
    exact fun hmem => hmem.1 hk
  · rcases h g' (.tail _ hg') with hmem | hgone
    · exact .inl ((hapart.mem_after hg hg').mpr ⟨hsame, hmem⟩)
    · refine .inr fun k hk => ?_
      rw [removeGroup_mem_iff (hapart.ne_nil _ (.head _)) (hapart.nodup _ (.head _)) hg]
      exact fun hmem => hgone k hk hmem.2

/-- No error: no group comes twice, and all are there. -/
theorem removeGroups_errors_iff (hapart : Apart gs) (h : ∀ g ∈ gs, Settled m g) :
    (removeGroups m gs).2 = [] ↔ gs.Nodup ∧ ∀ g ∈ gs, ∀ k ∈ g.keys, k ∈ m := by
  induction gs generalizing m with
  | nil => simp [removeGroups]
  | cons g gs ih =>
    have hg := h g (.head _)
    have hfirst := removeGroup_eq_none_iff (hapart.ne_nil g (.head _)) (hapart.nodup g (.head _)) hg
    have hrest := ih hapart.tail fun g' hg' => hapart.settled_after h hg'
    have hlater : (∀ g' ∈ gs, ∀ k ∈ g'.keys, k ∈ (removeGroup m g).1) ↔
        g ∉ gs ∧ ∀ g' ∈ gs, ∀ k ∈ g'.keys, k ∈ m := by
      constructor
      · intro hall
        refine ⟨fun hmem => ?_, fun g' hg' => ((hapart.mem_after hg hg').mp (hall g' hg')).2⟩
        exact ((hapart.mem_after hg hmem).mp (hall g hmem)).1 rfl
      · rintro ⟨hnot, hall⟩ g' hg'
        refine (hapart.mem_after hg hg').mpr ⟨?_, hall g' hg'⟩
        rintro rfl
        exact hnot hg'
    simp only [removeGroups, List.append_eq_nil_iff, Option.toList_eq_nil_iff, hfirst, hrest,
      hlater, List.nodup_cons, List.forall_mem_cons]
    tauto

/-- What is left, with errors or without. -/
theorem removeGroups_lookup (hapart : Apart gs) (h : ∀ g ∈ gs, Settled m g) (k : κ) :
    (removeGroups m gs).1.lookup k = if k ∈ gs.flatMap Group.keys then none else m.lookup k := by
  induction gs generalizing m with
  | nil => simp [removeGroups]
  | cons g gs ih =>
    rw [removeGroups, ih hapart.tail fun g' hg' => hapart.settled_after h hg',
      removeGroup_lookup (hapart.ne_nil g (.head _)) (hapart.nodup g (.head _)) (h g (.head _))]
    by_cases hk : k ∈ g.keys
    · simp [hk]
    · by_cases hrest : k ∈ gs.flatMap Group.keys
      · simp [hk, hrest]
      · simp [hk, hrest]

end Removal
