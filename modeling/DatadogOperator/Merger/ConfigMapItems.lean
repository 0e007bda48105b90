import DatadogOperator.Lib.Checked
import DatadogOperator.Merger.Containers
import Mathlib.Data.Finmap

/-!
# Merging the items of ConfigMap volumes

Two volumes of one ConfigMap are merged path by path: a path that both have must have one
key. The mode of such a path is raised, but for every item with the key and not only for
the item of the path. So the merge is a union of maps exactly if nothing else is raised.
-/

namespace DatadogOperator.Merger

def mergeMode : Option Int → Option Int → Option Int
  | none, b => b
  | a, none => a
  | some a, some b => if b > a then some b else some a

/-- `newCMS.Items` and `allPath` -/
structure Merging where
  items : List KeyToPath
  allPath : Finmap fun _ : String => String

def raise (item tmpItem : KeyToPath) : KeyToPath :=
  if tmpItem.key = item.key then { tmpItem with mode := mergeMode tmpItem.mode item.mode }
  else tmpItem

def mergeNext (m : Merging) (item : KeyToPath) : Except MergeError Merging :=
  let allPath := m.allPath.insert item.path item.key
  match m.allPath.lookup item.path with
  | some oldKey =>
    if item.key ≠ oldKey then .error (.pathUsed item.path)
    else .ok { items := m.items.map (raise item), allPath }
  | none => .ok { items := m.items ++ [item], allPath }

def mergeConfigMapVolumeSource (a b : ConfigMapVolumeSource) :
    Except MergeError ConfigMapVolumeSource := do
  let allPath := a.items.foldl (fun allPath item => allPath.insert item.path item.key) ∅
  let m ← b.items.foldlM mergeNext { items := a.items, allPath }
  return { a with items := m.items }

/-! ## What a merge is for -/

def itemAt (items : List KeyToPath) (path : String) : Option KeyToPath :=
  Tables.get (·.path) items path

def itemView (items : List KeyToPath) (path : String) : Option (String × Option Int) :=
  (itemAt items path).map fun item => (item.key, item.mode)

/-- No mode is less than any. -/
def rank : Option Int → WithBot Int
  | none => ⊥
  | some mode => mode

-- As for keys: the order must not be found by way of the suprema.
local instance (priority := 10000) modePreorder : Preorder Int := Int.instLinearOrder.toPreorder

def largerMode (a b : Option Int) : Option Int := if rank a ≤ rank b then b else a

/-- The mode of an item of the first volume, with that of the second at its path. -/
def joinedMode (b : List KeyToPath) (x : KeyToPath) : Option Int :=
  match itemAt b x.path with
  | some y => largerMode x.mode y.mode
  | none => x.mode

def unionView (a b : List KeyToPath) (path : String) : Option (String × Option Int) :=
  match itemAt a path with
  | some x => some (x.key, joinedMode b x)
  | none => itemView b path

def Conflict (a b : List KeyToPath) : Prop :=
  ∃ x ∈ a, ∃ y ∈ b, x.path = y.path ∧ x.key ≠ y.key

structure MergesItems (a b : ConfigMapVolumeSource) : Prop where
  fails_iff : (∃ e, mergeConfigMapVolumeSource a b = .error e) ↔ Conflict a.items b.items
  union : ∀ r, mergeConfigMapVolumeSource a b = .ok r →
    (r.items.map (·.path)).Nodup ∧ ∀ path, itemView r.items path = unionView a.items b.items path

/-- An item on a path of both does not have a larger mode than another item with its key
gets anyway. -/
def NothingRaised (a b : List KeyToPath) : Prop :=
  ∀ before item after, b = before ++ item :: after → item.path ∈ a.map (·.path) →
    ∀ other, other ∈ a ∨ other ∈ before ∧ other.path ∉ a.map (·.path) → other.key = item.key →
      rank item.mode ≤ rank other.mode ∨
        ∃ same ∈ b, same.path = other.path ∧ rank item.mode ≤ rank same.mode

section
variable {a b items : List KeyToPath} {paths : List String} {path : String}

theorem rank_injective : Function.Injective rank := by
  intro a b h
  cases a with
  | none =>
    cases b with
    | none => rfl
    | some b => exact absurd h.symm WithBot.coe_ne_bot
  | some a =>
    cases b with
    | none => exact absurd h WithBot.coe_ne_bot
    | some b => exact congrArg some (WithBot.coe_injective h)

theorem rank_largerMode (a b : Option Int) : rank (largerMode a b) = max (rank a) (rank b) := by
  unfold largerMode
  split_ifs with h
  · exact (max_eq_right h).symm
  · exact (max_eq_left (le_of_not_ge h)).symm

theorem mergeMode_eq_largerMode (a b : Option Int) : mergeMode a b = largerMode a b := by
  refine rank_injective ?_
  rw [rank_largerMode]
  cases a with
  | none => exact (max_eq_right bot_le).symm
  | some a =>
    cases b with
    | none => exact (max_eq_left bot_le).symm
    | some b =>
      by_cases h : b > a
      · simp [mergeMode, h, rank, max_eq_right (WithBot.coe_le_coe.mpr h.le)]
      · simp [mergeMode, h, rank, max_eq_left (WithBot.coe_le_coe.mpr (not_lt.mp h))]

theorem itemAt_eq_none : itemAt items path = none ↔ path ∉ items.map (·.path) := by
  simp [itemAt, Tables.get]

theorem itemAt_some (h : itemAt items path = some item) : item ∈ items ∧ item.path = path :=
  ⟨List.mem_of_find?_eq_some h, by simpa using List.find?_some h⟩

theorem itemAt_of_mem (h : (items.map (·.path)).Nodup) (hitem : item ∈ items) :
    itemAt items item.path = some item :=
  Tables.get_of_mem h hitem

theorem conflict_iff (ha : (a.map (·.path)).Nodup) :
    Conflict a b ↔ ∃ y ∈ b, ∃ x, itemAt a y.path = some x ∧ x.key ≠ y.key := by
  constructor
  · rintro ⟨x, hx, y, hy, hpath, hkey⟩
    exact ⟨y, hy, x, hpath ▸ itemAt_of_mem ha hx, hkey⟩
  · rintro ⟨y, hy, x, hx, hkey⟩
    exact ⟨x, (itemAt_some hx).1, y, hy, (itemAt_some hx).2, hkey⟩

/-! ## Without a conflict -/

@[simp] theorem raise_path (item tmp : KeyToPath) : (raise item tmp).path = tmp.path := by
  unfold raise
  split_ifs <;> rfl

@[simp] theorem raise_key (item tmp : KeyToPath) : (raise item tmp).key = tmp.key := by
  unfold raise
  split_ifs <;> rfl

/-- One item, where the keys agree: `paths` are those of the first volume. -/
def spreadNext (paths : List String) (items : List KeyToPath) (item : KeyToPath) :
    List KeyToPath :=
  if item.path ∈ paths then items.map (raise item) else items ++ [item]

def spread (paths : List String) (items b : List KeyToPath) : List KeyToPath :=
  b.foldl (spreadNext paths) items

theorem mergeNext_ok (hlookup : m.allPath.lookup y.path = (itemAt a y.path).map (·.key))
    (hkey : ∀ x, itemAt a y.path = some x → x.key = y.key) :
    mergeNext m y = .ok ⟨spreadNext (a.map (·.path)) m.items y, m.allPath.insert y.path y.key⟩ := by
  unfold mergeNext spreadNext
  cases hx : itemAt a y.path with
  | none =>
    rw [hlookup, hx, if_neg (itemAt_eq_none.mp hx)]
    rfl
  | some x =>
    have hmem : y.path ∈ a.map (·.path) := by
      by_contra hnot
      rw [itemAt_eq_none.mpr hnot] at hx
      cases hx
    rw [hlookup, hx, if_pos hmem]
    simp [hkey x hx]

theorem mergeNext_error (hlookup : m.allPath.lookup y.path = (itemAt a y.path).map (·.key))
    (hx : itemAt a y.path = some x) (hkey : x.key ≠ y.key) :
    mergeNext m y = .error (.pathUsed y.path) := by
  simp [mergeNext, hlookup, hx, Ne.symm hkey]

/-- `allPath` tells the keys of the first volume, for the items that are to come. -/
def Tells (a : List KeyToPath) (m : Merging) (b : List KeyToPath) : Prop :=
  ∀ y ∈ b, m.allPath.lookup y.path = (itemAt a y.path).map (·.key)

theorem Tells.next (hb : ((y :: b).map (·.path)).Nodup)
    (h : Tells a m (y :: b)) (items : List KeyToPath) :
    Tells a ⟨items, m.allPath.insert y.path y.key⟩ b := by
  intro z hz
  have hne : z.path ≠ y.path := by
    rintro heq
    rw [List.map_cons, List.nodup_cons] at hb
    exact hb.1 (List.mem_map.mpr ⟨z, hz, heq⟩)
  rw [Finmap.lookup_insert_of_ne _ hne]
  exact h z (.tail _ hz)

theorem foldlM_mergeNext_ok (hb : (b.map (·.path)).Nodup) (htells : Tells a m b)
    (hkeys : ∀ y ∈ b, ∀ x, itemAt a y.path = some x → x.key = y.key) :
    ∃ allPath, b.foldlM mergeNext m = .ok ⟨spread (a.map (·.path)) m.items b, allPath⟩ := by
  induction b generalizing m with
  | nil => exact ⟨m.allPath, rfl⟩
  | cons y b ih =>
    have hstep := mergeNext_ok (htells y (.head _)) (hkeys y (.head _))
    obtain ⟨allPath, hrest⟩ := ih (List.nodup_cons.mp hb).2 (htells.next hb _)
      fun z hz => hkeys z (.tail _ hz)
    exact ⟨allPath, by rw [List.foldlM_cons, hstep]; exact hrest⟩

theorem foldlM_mergeNext_error (hb : (b.map (·.path)).Nodup) (htells : Tells a m b)
    (hconflict : ∃ y ∈ b, ∃ x, itemAt a y.path = some x ∧ x.key ≠ y.key) :
    ∃ e, b.foldlM mergeNext m = .error e := by
  induction b generalizing m with
  | nil =>
    obtain ⟨y, hy, -⟩ := hconflict
    cases hy
  | cons y b ih =>
    have htell := htells y (.head _)
    by_cases hkey : ∀ x, itemAt a y.path = some x → x.key = y.key
    · obtain ⟨z, hz, x, hx, hne⟩ := hconflict
      have hz : z ∈ b := by
        rcases List.mem_cons.mp hz with rfl | hz
        · exact absurd (hkey x hx) hne
        · exact hz
      obtain ⟨e, he⟩ := ih (List.nodup_cons.mp hb).2 (htells.next hb _) ⟨z, hz, x, hx, hne⟩
      exact ⟨e, by rw [List.foldlM_cons, mergeNext_ok htell hkey]; exact he⟩
    · push Not at hkey
      obtain ⟨x, hx, hne⟩ := hkey
      exact ⟨_, by rw [List.foldlM_cons, mergeNext_error htell hx hne]; rfl⟩

theorem lookup_allPath (ha : (a.map (·.path)).Nodup) (m : Finmap fun _ : String => String)
    (path : String) :
    (a.foldl (fun allPath item => allPath.insert item.path item.key) m).lookup path =
      ((itemAt a path).map (·.key)).or (m.lookup path) := by
  induction a generalizing m with
  | nil => rfl
  | cons x a ih =>
    rw [List.map_cons, List.nodup_cons] at ha
    rw [List.foldl_cons, ih ha.2]
    by_cases hx : x.path = path
    · subst hx
      have hnone : itemAt a x.path = none := itemAt_eq_none.mpr ha.1
      have hself : itemAt (x :: a) x.path = some x := by simp [itemAt, Tables.get]
      simp [hnone, hself]
    · have hskip : itemAt (x :: a) path = itemAt a path := by simp [itemAt, Tables.get, hx]
      rw [hskip, Finmap.lookup_insert_of_ne _ (Ne.symm hx)]

theorem tells_start (ha : (a.map (·.path)).Nodup) (b : List KeyToPath) :
    Tells a ⟨a, a.foldl (fun allPath item => allPath.insert item.path item.key) ∅⟩ b := by
  intro y _
  simp [lookup_allPath ha]

theorem mergeConfigMapVolumeSource_ok {a b : ConfigMapVolumeSource}
    (ha : (a.items.map (·.path)).Nodup) (hb : (b.items.map (·.path)).Nodup)
    (h : ¬Conflict a.items b.items) : mergeConfigMapVolumeSource a b =
      .ok { a with items := spread (a.items.map (·.path)) a.items b.items } := by
  have hkeys : ∀ y ∈ b.items, ∀ x, itemAt a.items y.path = some x → x.key = y.key := by
    intro y hy x hx
    by_contra hne
    exact h ((conflict_iff ha).mpr ⟨y, hy, x, hx, hne⟩)
  obtain ⟨allPath, hfold⟩ := foldlM_mergeNext_ok hb (tells_start ha b.items) hkeys
  simp only [mergeConfigMapVolumeSource, hfold]
  rfl

theorem mergeConfigMapVolumeSource_error {a b : ConfigMapVolumeSource}
    (ha : (a.items.map (·.path)).Nodup) (hb : (b.items.map (·.path)).Nodup)
    (h : Conflict a.items b.items) : ∃ e, mergeConfigMapVolumeSource a b = .error e := by
  obtain ⟨e, hfold⟩ := foldlM_mergeNext_error hb (tells_start ha b.items) ((conflict_iff ha).mp h)
  refine ⟨e, ?_⟩
  simp only [mergeConfigMapVolumeSource, hfold]
  rfl

/-! ## The modes -/

def lift (paths : List String) (x : KeyToPath) (b : List KeyToPath) : KeyToPath :=
  b.foldl (fun x item => if item.path ∈ paths then raise item x else x) x

theorem lift_key (x : KeyToPath) : (lift paths x b).key = x.key := by
  induction b generalizing x with
  | nil => rfl
  | cons item b ih =>
    rw [lift, List.foldl_cons]
    refine (ih _).trans ?_
    split_ifs <;> simp

theorem lift_mode_le_iff (x : KeyToPath) (bound : WithBot Int) :
    rank (lift paths x b).mode ≤ bound ↔ rank x.mode ≤ bound ∧
      ∀ item ∈ b, item.path ∈ paths → item.key = x.key → rank item.mode ≤ bound := by
  induction b generalizing x with
  | nil => simp [lift]
  | cons item b ih =>
    rw [lift, List.foldl_cons]
    refine (ih _).trans ?_
    by_cases hpath : item.path ∈ paths
    · by_cases hkey : item.key = x.key
      · have hmode : (raise item x).mode = largerMode x.mode item.mode := by
          rw [raise, if_pos hkey.symm, mergeMode_eq_largerMode]
        have hle : rank (raise item x).mode ≤ bound ↔
            rank x.mode ≤ bound ∧ rank item.mode ≤ bound := by
          rw [hmode, rank_largerMode]
          exact max_le_iff
        simp only [hpath, if_true, raise_key, hle, List.forall_mem_cons, hkey, forall_const]
        tauto
      · have hraise : raise item x = x := if_neg (Ne.symm hkey)
        simp [hpath, hraise, hkey]
    · simp [hpath]

theorem itemAt_spreadNext (h : itemAt items path = some x) :
    itemAt (spreadNext paths items item) path =
      some (if item.path ∈ paths then raise item x else x) := by
  unfold spreadNext
  split_ifs
  · exact (Tables.get_map (raise_path item) path).trans (congrArg (Option.map _) h)
  · simp only [itemAt, Tables.get, List.find?_append] at h ⊢
    rw [h]
    rfl

theorem itemAt_spread (h : itemAt items path = some x) :
    itemAt (spread paths items b) path = some (lift paths x b) := by
  induction b generalizing items x with
  | nil => exact h
  | cons item b ih => exact ih (itemAt_spreadNext h)

theorem paths_spread : (spread paths items b).map (·.path) =
      items.map (·.path) ++ (b.filter fun item => item.path ∉ paths).map (·.path) := by
  induction b generalizing items with
  | nil => simp [spread]
  | cons item b ih =>
    rw [spread, List.foldl_cons]
    refine ih.trans ?_
    unfold spreadNext
    by_cases hpath : item.path ∈ paths
    · simp [hpath, Function.comp_def]
    · simp [hpath]

theorem itemAt_spread_new
    (hitems : y.path ∉ items.map (·.path)) (hbefore : y.path ∉ before.map (·.path))
    (hnew : y.path ∉ paths) :
    itemAt (spread paths items (before ++ y :: after)) y.path = some (lift paths y after) := by
  have hnone : itemAt (spread paths items before) y.path = none := by
    rw [itemAt_eq_none, paths_spread, List.mem_append, not_or]
    refine ⟨hitems, fun hmem => hbefore ?_⟩
    obtain ⟨z, hz, hpath⟩ := List.mem_map.mp hmem
    exact List.mem_map.mpr ⟨z, (List.mem_filter.mp hz).1, hpath⟩
  have hthere : itemAt (spreadNext paths (spread paths items before) y) y.path = some y := by
    rw [spreadNext, if_neg hnew]
    simp only [itemAt, Tables.get, List.find?_append] at hnone ⊢
    simp [hnone]
  rw [spread, List.foldl_append, List.foldl_cons]
  exact itemAt_spread hthere

theorem le_joinedMode_iff (hb : (b.map (·.path)).Nodup) :
    m ≤ rank (joinedMode b x) ↔ m ≤ rank x.mode ∨
      ∃ same ∈ b, same.path = x.path ∧ m ≤ rank same.mode := by
  unfold joinedMode
  cases hy : itemAt b x.path with
  | none =>
    refine ⟨Or.inl, ?_⟩
    rintro (h | ⟨same, hsame, hpath, -⟩)
    · exact h
    · exact absurd (List.mem_map.mpr ⟨same, hsame, hpath⟩) (itemAt_eq_none.mp hy)
  | some y =>
    obtain ⟨hmem, hpath⟩ := itemAt_some hy
    simp only [rank_largerMode, le_max_iff]
    refine or_congr_right ?_
    constructor
    · exact fun h => ⟨y, hmem, hpath, h⟩
    · rintro ⟨same, hsame, hsamePath, h⟩
      have heq := itemAt_of_mem hb hsame
      rw [hsamePath, hy] at heq
      cases heq
      exact h

theorem joinedMode_le_iff (hb : (b.map (·.path)).Nodup) :
    rank (joinedMode b x) ≤ m ↔ rank x.mode ≤ m ∧
      ∀ same ∈ b, same.path = x.path → rank same.mode ≤ m := by
  constructor
  · intro h
    refine ⟨le_trans ((le_joinedMode_iff hb).mpr (.inl le_rfl)) h, fun same hsame hpath => ?_⟩
    exact le_trans ((le_joinedMode_iff hb).mpr (.inr ⟨same, hsame, hpath, le_rfl⟩)) h
  · rintro ⟨hx, hsame⟩
    rcases (le_joinedMode_iff hb).mp (le_refl rank (joinedMode b x)) with h | ⟨y, hy, hpath, h⟩
    · exact le_trans h hx
    · exact le_trans h (hsame y hy hpath)

theorem lift_mode_eq_iff (hb : (b.map (·.path)).Nodup) (hconflict : ¬Conflict a b)
    (hx : x ∈ a) : (lift (a.map (·.path)) x b).mode = joinedMode b x ↔
      ∀ item ∈ b, item.path ∈ a.map (·.path) → item.key = x.key →
        rank item.mode ≤ rank (joinedMode b x) := by
  obtain ⟨hself, hall⟩ := (lift_mode_le_iff x _).mp (le_refl rank (lift (a.map (·.path)) x b).mode)
  constructor
  · intro heq item hitem hpath hkey
    rw [← heq]
    exact hall item hitem hpath hkey
  · intro h
    refine rank_injective (le_antisymm ?_ ?_)
    · exact (lift_mode_le_iff x _).mpr ⟨(le_joinedMode_iff hb).mpr (.inl le_rfl), h⟩
    · refine (joinedMode_le_iff hb).mpr ⟨hself, fun same hsame hpath => ?_⟩
      refine hall same hsame (List.mem_map.mpr ⟨x, hx, hpath.symm⟩) ?_
      by_contra hkey
      exact hconflict ⟨x, hx, same, hsame, hpath.symm, Ne.symm hkey⟩

theorem lift_mode_eq_self_iff : (lift paths y b).mode = y.mode ↔
    ∀ item ∈ b, item.path ∈ paths → item.key = y.key → rank item.mode ≤ rank y.mode := by
  obtain ⟨hself, hall⟩ := (lift_mode_le_iff y _).mp (le_refl rank (lift paths y b).mode)
  constructor
  · intro heq item hitem hpath hkey
    rw [← heq]
    exact hall item hitem hpath hkey
  · intro h
    exact rank_injective (le_antisymm ((lift_mode_le_iff y _).mpr ⟨le_rfl, h⟩) hself)

/-! ## The union -/

/-- The items of the second volume on new paths come out with their own modes. -/
def NewItemsKept (a b : List KeyToPath) : Prop :=
  ∀ before y after, b = before ++ y :: after → y.path ∉ a.map (·.path) →
    (lift (a.map (·.path)) y after).mode = y.mode

theorem itemView_spread_iff (ha : (a.map (·.path)).Nodup) (hb : (b.map (·.path)).Nodup) :
    (∀ path, itemView (spread (a.map (·.path)) a b) path = unionView a b path) ↔
      (∀ x ∈ a, (lift (a.map (·.path)) x b).mode = joinedMode b x) ∧ NewItemsKept a b := by
  have hold : ∀ x ∈ a, itemView (spread (a.map (·.path)) a b) x.path =
      some (x.key, (lift (a.map (·.path)) x b).mode) := by
    intro x hx
    rw [itemView, itemAt_spread (itemAt_of_mem ha hx), Option.map_some, lift_key]
  have hnew : ∀ before y after, b = before ++ y :: after → y.path ∉ a.map (·.path) →
      itemView (spread (a.map (·.path)) a b) y.path =
        some (y.key, (lift (a.map (·.path)) y after).mode) := by
    rintro before y after rfl hy
    have hbefore : y.path ∉ before.map (·.path) := by
      rw [List.map_append, List.map_cons] at hb
      exact fun hmem => List.disjoint_of_nodup_append hb hmem (.head _)
    rw [itemView, itemAt_spread_new hy hbefore hy, Option.map_some, lift_key]
  constructor
  · intro h
    refine ⟨fun x hx => ?_, fun before y after heq hy => ?_⟩
    · have hview := (hold x hx).symm.trans (h x.path)
      rw [unionView, itemAt_of_mem ha hx] at hview
      exact congrArg Prod.snd (Option.some.inj hview)
    · have hmem : y ∈ b := by simp [heq]
      have hview := (hnew before y after heq hy).symm.trans (h y.path)
      rw [unionView, itemAt_eq_none.mpr hy, itemView, itemAt_of_mem hb hmem] at hview
      exact congrArg Prod.snd (Option.some.inj hview)
  · rintro ⟨hmodes, hkept⟩ path
    cases hx : itemAt a path with
    | some x =>
      obtain ⟨hmem, rfl⟩ := itemAt_some hx
      rw [hold x hmem, unionView, hx, hmodes x hmem]
    | none =>
      have hpath := itemAt_eq_none.mp hx
      rw [unionView, hx]
      cases hy : itemAt b path with
      | some y =>
        obtain ⟨hmem, rfl⟩ := itemAt_some hy
        obtain ⟨before, after, heq⟩ := List.append_of_mem hmem
        rw [hnew before y after heq hpath, hkept before y after heq hpath, itemView, hy]
        rfl
      | none =>
        have hnone : itemAt (spread (a.map (·.path)) a b) path = none := by
          rw [itemAt_eq_none, paths_spread, List.mem_append, not_or]
          refine ⟨hpath, fun hmem => itemAt_eq_none.mp hy ?_⟩
          obtain ⟨z, hz, hzpath⟩ := List.mem_map.mp hmem
          exact List.mem_map.mpr ⟨z, (List.mem_filter.mp hz).1, hzpath⟩
        rw [itemView, itemView, hnone, hy]

theorem nothingRaised_iff (hb : (b.map (·.path)).Nodup) (hconflict : ¬Conflict a b) :
    NothingRaised a b ↔
      (∀ x ∈ a, (lift (a.map (·.path)) x b).mode = joinedMode b x) ∧ NewItemsKept a b := by
  constructor
  · intro h
    refine ⟨fun x hx => ?_, fun before y after heq hy => ?_⟩
    · refine (lift_mode_eq_iff hb hconflict hx).mpr fun item hitem hpath hkey => ?_
      obtain ⟨before, after, heq⟩ := List.append_of_mem hitem
      exact (le_joinedMode_iff hb).mpr (h before item after heq hpath x (.inl hx) hkey.symm)
    · refine lift_mode_eq_self_iff.mpr fun item hitem hpath hkey => ?_
      obtain ⟨middle, rest, rfl⟩ := List.append_of_mem hitem
      have hsplit : b = (before ++ y :: middle) ++ item :: rest := by simp [heq]
      have hy' : y ∈ before ++ y :: middle := by simp
      rcases h _ item rest hsplit hpath y (.inr ⟨hy', hy⟩) hkey.symm with hle | hsame
      · exact hle
      · -- The new item is the only one of its path.
        obtain ⟨same, hmem, hsamePath, hle⟩ := hsame
        have hyb : y ∈ b := by simp [heq]
        obtain rfl : same = y := List.inj_on_of_nodup_map hb hmem hyb hsamePath
        exact hle
  · rintro ⟨hmodes, hkept⟩ before item after heq hpath other hother hkey
    have hitem : item ∈ b := by simp [heq]
    rcases hother with hother | ⟨hother, hnew⟩
    · refine (le_joinedMode_iff hb).mp ?_
      exact (lift_mode_eq_iff hb hconflict hother).mp (hmodes other hother) item hitem hpath
        hkey.symm
    · obtain ⟨start, middle, rfl⟩ := List.append_of_mem hother
      have hsplit : b = start ++ other :: (middle ++ item :: after) := by simp [heq]
      refine .inl (lift_mode_eq_self_iff.mp (hkept start other _ hsplit hnew) item ?_ hpath
        hkey.symm)
      simp

theorem spread_nodup (ha : (a.map (·.path)).Nodup) (hb : (b.map (·.path)).Nodup) :
    ((spread (a.map (·.path)) a b).map (·.path)).Nodup := by
  rw [paths_spread, List.nodup_append]
  refine ⟨ha, hb.sublist (List.filter_sublist.map _), ?_⟩
  rintro p hp q hq rfl
  obtain ⟨z, hz, rfl⟩ := List.mem_map.mp hq
  simpa [hp] using (List.mem_filter.mp hz).2

end

/-- The merge is the union of the two maps exactly if the keys do not agree, or nothing else
is raised. -/
theorem mergeConfigMapVolumeSource_union_iff (a b : ConfigMapVolumeSource)
    (ha : (a.items.map (·.path)).Nodup) (hb : (b.items.map (·.path)).Nodup) :
    MergesItems a b ↔ Conflict a.items b.items ∨ NothingRaised a.items b.items := by
  by_cases hconflict : Conflict a.items b.items
  · obtain ⟨e, he⟩ := mergeConfigMapVolumeSource_error ha hb hconflict
    refine iff_of_true ⟨iff_of_true ⟨e, he⟩ hconflict, fun r hr => ?_⟩ (.inl hconflict)
    rw [he] at hr
    cases hr
  · have hok := mergeConfigMapVolumeSource_ok ha hb hconflict
    rw [or_iff_right hconflict, nothingRaised_iff hb hconflict, ← itemView_spread_iff ha hb]
    constructor
    · intro h
      exact (h.union _ hok).2
    · intro hviews
      refine ⟨iff_of_false ?_ hconflict, fun r hr => ?_⟩
      · rintro ⟨e, he⟩
        rw [hok] at he
        cases he
      · rw [hok] at hr
        cases hr
        exact ⟨spread_nodup ha hb, hviews⟩

def sharedChecks : ConfigMapVolumeSource where
  name := "datadog-checks"
  items := [{ key := "checks.yaml", path := "checks.yaml", mode := some 0o644 },
    { key := "checks.yaml", path := "private/checks.yaml", mode := some 0o400 }]

/-- One path of the second volume is new, and the other has no mode to raise. -/
theorem new_checks_are_merged : MergesItems sharedChecks
      { name := "datadog-checks", items := [{ key := "extra.yaml", path := "extra.yaml" },
        { key := "checks.yaml", path := "checks.yaml" }] } := by
  refine (mergeConfigMapVolumeSource_union_iff _ _ (by decide) (by decide)).mpr (.inr ?_)
  rintro before item after heq - other - -
  have hitem : item ∈ before ++ item :: after := by simp
  have hmode : item.mode = none := by
    rw [← heq] at hitem
    simp only [List.mem_cons, List.not_mem_nil, or_false] at hitem
    rcases hitem with rfl | rfl <;> rfl
  exact .inl (hmode ▸ bot_le)

def publicChecks : ConfigMapVolumeSource where
  name := "datadog-checks"
  items := [{ key := "checks.yaml", path := "checks.yaml", mode := some 0o644 }]

/-- The mode of the one path is merged into the other path as well. -/
theorem private_checks_get_public_mode :
    (∃ r, mergeConfigMapVolumeSource sharedChecks publicChecks = .ok r ∧
      itemView r.items "private/checks.yaml" = some ("checks.yaml", some 0o644)) ∧
    unionView sharedChecks.items publicChecks.items "private/checks.yaml" =
      some ("checks.yaml", some 0o400) :=
  ⟨⟨{ name := "datadog-checks",
      items := [{ key := "checks.yaml", path := "checks.yaml", mode := some 0o644 },
        { key := "checks.yaml", path := "private/checks.yaml", mode := some 0o644 }] },
    by decide +kernel, by decide⟩, by decide⟩

end DatadogOperator.Merger
