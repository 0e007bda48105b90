import Mathlib.Data.Finmap
import Mathlib.Data.List.Sort

/-!
# Maps filled by insert or merge

Each event has a key. The first event of a key puts a fresh value under it and
every later one is merged into the value that is there. What ends up under a
key is a fold over the events of that key, and when merging does not tell the
events of one key apart, the order of events does not matter.
-/

namespace Upsert

variable {κ ν ε : Type} [DecidableEq κ]

/-- `key`, `fresh` and `merge` of one map. -/
structure Rule (κ ν ε : Type) where
  key : ε → κ
  fresh : ε → ν
  merge : ν → ε → ν

variable (r : Rule κ ν ε)

def Rule.value (r : Rule κ ν ε) (old : Option ν) (e : ε) : ν :=
  match old with
  | some v => r.merge v e
  | none => r.fresh e

def upsert (m : Finmap fun _ : κ => ν) (e : ε) : Finmap fun _ : κ => ν :=
  m.insert (r.key e) (r.value (m.lookup (r.key e)) e)

variable {r}

theorem lookup_upsert (m : Finmap fun _ : κ => ν) (e : ε) (k : κ) :
    (upsert r m e).lookup k = if r.key e = k then some (r.value (m.lookup k) e)
      else m.lookup k := by
  unfold upsert
  by_cases h : r.key e = k
  · subst h
    rw [Finmap.lookup_insert, if_pos rfl]
  · rw [Finmap.lookup_insert_of_ne _ (Ne.symm h), if_neg h]

theorem lookup_foldl (m : Finmap fun _ : κ => ν) (es : List ε) (k : κ) :
    (es.foldl (upsert r) m).lookup k =
      (es.filter fun e => decide (r.key e = k)).foldl (fun o e => some (r.value o e))
        (m.lookup k) := by
  induction es generalizing m with
  | nil => rfl
  | cons e es ih =>
    rw [List.foldl_cons, ih, lookup_upsert]
    by_cases h : r.key e = k
    · rw [List.filter_cons_of_pos (by simpa using h), if_pos h, List.foldl_cons]
    · rw [List.filter_cons_of_neg (by simpa using h), if_neg h]

omit [DecidableEq κ] in
theorem foldl_value (v : ν) (es : List ε) :
    es.foldl (fun o e => some (r.value o e)) (some v) = some (es.foldl r.merge v) := by
  induction es generalizing v with
  | nil => rfl
  | cons e es ih => exact ih (r.merge v e)

/-- From the empty map: `F` is what a first event leaves in a value and merges keep, `R` what
every event leaves there. -/
theorem lookup_foldl_rule {es : List ε} {v : ν} {F R : ε → ν → Prop}
    (hfresh : ∀ e, F e (r.fresh e) ∧ R e (r.fresh e)) (hF : ∀ e v e', F e v → F e (r.merge v e'))
    (hR : ∀ e v e', R e v → R e (r.merge v e')) (hmerge : ∀ v e, R e (r.merge v e))
    (h : (es.foldl (upsert r) ∅).lookup k = some v) :
    ∃ e ∈ es, r.key e = k ∧ F e v ∧ ∀ e' ∈ es, r.key e' = k → R e' v := by
  rw [lookup_foldl, Finmap.lookup_empty] at h
  have hmem (e : ε) : e ∈ es.filter (fun e => decide (r.key e = k)) ↔ e ∈ es ∧ r.key e = k := by
    rw [List.mem_filter, decide_eq_true_iff]
  cases hes : es.filter fun e => decide (r.key e = k) with
  | nil =>
    rw [hes] at h
    cases h
  | cons first rest =>
    rw [hes, List.foldl_cons] at h
    simp only [hes] at hmem
    obtain rfl : rest.foldl r.merge (r.fresh first) = v :=
      Option.some.inj ((foldl_value _ rest).symm.trans h)
    have hfold : F first (rest.foldl r.merge (r.fresh first)) ∧
        ∀ e ∈ first :: rest, R e (rest.foldl r.merge (r.fresh first)) := by
      clear h hes hmem
      induction rest using List.reverseRecOn with
      | nil => exact ⟨(hfresh first).1, List.forall_mem_singleton.mpr (hfresh first).2⟩
      | append_singleton rest e ih =>
        rw [List.foldl_concat, ← List.cons_append]
        refine ⟨hF _ _ e ih.1, List.forall_mem_append.mpr ⟨?_, ?_⟩⟩
        · exact fun e' he' => hR _ _ e (ih.2 e' he')
        · exact List.forall_mem_singleton.mpr (hmerge _ e)
    obtain ⟨hfirst, hkey⟩ := (hmem first).mp (.head _)
    exact ⟨first, hfirst, hkey, hfold.1, fun e he hek => hfold.2 e ((hmem e).mpr ⟨he, hek⟩)⟩

theorem exists_lookup_foldl {es : List ε} (h : e ∈ es) :
    ∃ v, (es.foldl (upsert r) ∅).lookup (r.key e) = some v := by
  have hmem : e ∈ es.filter fun e' => decide (r.key e' = r.key e) :=
    List.mem_filter.mpr ⟨h, by simp⟩
  rw [lookup_foldl, Finmap.lookup_empty]
  cases hes : es.filter fun e' => decide (r.key e' = r.key e) with
  | nil =>
    rw [hes] at hmem
    cases hmem
  | cons e' rest => exact ⟨_, foldl_value _ _⟩

/-- Two events of one key can be exchanged. -/
def Rule.Exchanges (r : Rule κ ν ε) (a b : ε) : Prop :=
  r.key a = r.key b → r.merge (r.fresh a) b = r.merge (r.fresh b) a ∧
    ∀ v, r.merge (r.merge v a) b = r.merge (r.merge v b) a

theorem upsert_comm (h : r.Exchanges a b) (m : Finmap fun _ : κ => ν) :
    upsert r (upsert r m a) b = upsert r (upsert r m b) a := by
  refine Finmap.ext_lookup fun k => ?_
  simp only [lookup_upsert]
  by_cases ha : r.key a = k
  · by_cases hb : r.key b = k
    · obtain ⟨hfresh, hmerge⟩ := h (ha.trans hb.symm)
      simp only [ha, hb, if_true]
      cases m.lookup k with
      | none => exact congrArg some hfresh
      | some v => exact congrArg some (hmerge v)
    · simp only [ha, hb, if_true, if_false]
  · simp only [ha, if_false]

theorem foldl_perm {es es' : List ε} (hperm : es'.Perm es)
    (h : ∀ a ∈ es, ∀ b ∈ es, r.Exchanges a b) (m : Finmap fun _ : κ => ν) :
    es'.foldl (upsert r) m = es.foldl (upsert r) m :=
  hperm.foldl_eq' (fun a ha b hb m =>
    upsert_comm (h a (hperm.mem_iff.mp ha) b (hperm.mem_iff.mp hb)) m) m

end Upsert

namespace Finset

/-- The elements in order, by a sort that evaluates. -/
def sorted {α : Type} [LinearOrder α] (s : Finset α) : List α :=
  Quot.liftOn s.val (fun l => l.insertionSort (· ≤ ·)) fun _ _ h =>
    List.Perm.eq_of_pairwise (fun _ _ _ _ => le_antisymm) (List.pairwise_insertionSort _ _)
      (List.pairwise_insertionSort _ _)
      ((List.perm_insertionSort _ _).trans (h.trans (List.perm_insertionSort _ _).symm))

variable {α : Type} [LinearOrder α]

theorem coe_sorted (s : Finset α) : (s.sorted : Multiset α) = s.val := by
  obtain ⟨v, hv⟩ := s
  induction v using Quot.inductionOn with
  | h l => exact Quot.sound (List.perm_insertionSort _ l)

@[simp] theorem mem_sorted {s : Finset α} : a ∈ s.sorted ↔ a ∈ s := by
  rw [← Finset.mem_val, ← coe_sorted, Multiset.mem_coe]

theorem nodup_sorted (s : Finset α) : s.sorted.Nodup := by
  rw [← Multiset.coe_nodup, coe_sorted]
  exact s.nodup

end Finset
