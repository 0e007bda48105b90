import DatadogOperator.Lib.TopTwo
import Mathlib.Data.List.Sort

/-!
# Listing elements by descending key

`Ranked key l s` says that `s` lists the elements of `l`, largest key first,
with no two keys equal. Largest element, runner-up and membership of `l` can
then be read off `s`, and the usual changes of `l` (drop some elements, add
one above all others, change elements without moving them) act on `s` alike.
-/

structure Ranked {α : Type} (key : α → Int) (l s : List α) : Prop where
  perm : s.Perm l
  sorted : s.Pairwise fun a b => key b < key a

namespace Ranked

open scoped TopTwo

variable {α : Type} {key : α → Int} {l l' s : List α} {c x : α}

theorem nil : Ranked key [] [] := ⟨.nil, .nil⟩

theorem exists_of_nodup (h : (l.map key).Nodup) : ∃ s, Ranked key l s := by
  refine ⟨l.mergeSort fun a b => decide (key b ≤ key a), List.mergeSort_perm _ _, ?_⟩
  have hsorted : (l.mergeSort fun a b => decide (key b ≤ key a)).Pairwise
      fun a b => decide (key b ≤ key a) := List.pairwise_mergeSort
    (fun a b c hab hbc => by simp only [decide_eq_true_eq] at *; omega)
    (fun a b => by simp only [Bool.or_eq_true, decide_eq_true_eq]; omega) l
  have hnodup : ((l.mergeSort fun a b => decide (key b ≤ key a)).map key).Nodup :=
    ((List.mergeSort_perm l _).map key).nodup_iff.mpr h
  rw [List.nodup_iff_pairwise_ne, List.pairwise_map] at hnodup
  refine (hsorted.and hnodup).imp ?_
  rintro a b ⟨hle, hne⟩
  simp only [decide_eq_true_eq] at hle
  omega

theorem mem_iff (h : Ranked key l s) : x ∈ s ↔ x ∈ l := h.perm.mem_iff

theorem length_eq (h : Ranked key l s) : s.length = l.length := h.perm.length_eq

theorem nodup_keys (h : Ranked key l s) : (l.map key).Nodup := by
  refine (h.perm.map key).nodup_iff.mp ?_
  rw [List.nodup_iff_pairwise_ne, List.pairwise_map]
  exact h.sorted.imp fun hlt heq => by omega

theorem lt_head (h : Ranked key l (c :: s)) (hx : x ∈ s) : key x < key c :=
  (List.pairwise_cons.mp h.sorted).1 x hx

theorem le_head (h : Ranked key l (c :: s)) (hx : x ∈ l) : key x ≤ key c := by
  rcases List.mem_cons.mp (h.mem_iff.mpr hx) with rfl | hx
  · exact Int.le_refl _
  · exact Int.le_of_lt (h.lt_head hx)

theorem last_le (h : Ranked key l s) (hc : s.getLast? = some c) (hx : x ∈ l) : key c ≤ key x := by
  obtain ⟨s', rfl⟩ := List.getLast?_eq_some_iff.mp hc
  rcases List.mem_append.mp (h.mem_iff.mpr hx) with hx | hx
  · exact Int.le_of_lt ((List.pairwise_append.mp h.sorted).2.2 x hx c (by simp))
  · rw [List.mem_singleton.mp hx]

/-! ## Largest element and runner-up -/

theorem argmax_eq (h : Ranked key l s) : l.argmax key = s.head? := by
  classical
  cases s with
  | nil =>
    have hl : l = [] := h.perm.symm.eq_nil
    simp [hl]
  | cons c s =>
    rw [List.head?_cons, List.argmax_eq_some_iff]
    refine ⟨h.mem_iff.mp (by simp), fun x hx => h.le_head hx, ?_⟩
    intro x hx hle
    rcases List.mem_cons.mp (h.mem_iff.mpr hx) with rfl | hx
    · exact Nat.le_refl _
    · exact absurd (h.lt_head hx) (by omega)

theorem topTwo_eq (h : Ranked key l s) (hfloor : ∀ x ∈ l, floor < key x) :
    TopTwo.topTwo floor key l = (s[0]?, s[1]?) := by
  have hs := TopTwo.topTwo_spec hfloor h.nodup_keys
  match ht : TopTwo.topTwo floor key l with
  | (none, none) =>
    rw [ht] at hs
    have hl : l = [] := hs
    have : s = [] := (hl ▸ h.perm).eq_nil
    simp [this]
  | (some c, none) =>
    rw [ht] at hs
    have hl : l = [c] := hs
    have : s = [c] := List.perm_singleton.mp (hl ▸ h.perm)
    simp [this]
  | (none, some p) => rw [ht] at hs; exact hs.elim
  | (some c, some p) =>
    rw [ht] at hs
    obtain ⟨hc, hp, hlt, hall⟩ := hs
    match s, h with
    | [], h => simp [h.mem_iff.symm] at hc
    | [a], h =>
      have hca : c = a := by simpa using h.mem_iff.mpr hc
      have hpa : p = a := by simpa using h.mem_iff.mpr hp
      subst hca
      subst hpa
      omega
    | a :: b :: rest, h =>
      -- `a` is the only element no smaller than `c`, `b` the only other one no smaller than `p`.
      have hac : a = c := by
        rcases hall a (h.mem_iff.mp (by simp)) with hac | hap | hap
        · exact hac
        · have := h.le_head hc; subst hap; omega
        · have := h.le_head hc; omega
      subst hac
      have hpb : key p ≤ key b := by
        rcases List.mem_cons.mp (h.mem_iff.mpr hp) with rfl | hp
        · omega
        · rcases List.mem_cons.mp hp with rfl | hp
          · exact Int.le_refl _
          · exact Int.le_of_lt ((List.pairwise_cons.mp (List.pairwise_cons.mp h.sorted).2).1 p hp)
      have hba : key b < key a := h.lt_head (by simp)
      rcases hall b (h.mem_iff.mp (by simp)) with rfl | hbp | hbp
      · omega
      · simp [hbp]
      · omega

/-! ## Changes of the list -/

theorem filter (h : Ranked key l s) (q : α → Bool) : Ranked key (l.filter q) (s.filter q) :=
  ⟨h.perm.filter q, h.sorted.filter q⟩

theorem of_perm (h : Ranked key l s) (hp : l.Perm l') : Ranked key l' s :=
  ⟨h.perm.trans hp, h.sorted⟩

theorem cons_above (h : Ranked key l s) (hx : ∀ y ∈ l, key y < key x) :
    Ranked key (x :: l) (x :: s) :=
  ⟨h.perm.cons x, List.pairwise_cons.mpr ⟨fun y hy => hx y (h.mem_iff.mp hy), h.sorted⟩⟩

theorem map (h : Ranked key l s) (hf : ∀ x, key (f x) = key x) :
    Ranked key (l.map f) (s.map f) := by
  refine ⟨h.perm.map f, ?_⟩
  rw [List.pairwise_map]
  simpa only [hf] using h.sorted

end Ranked
