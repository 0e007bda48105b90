import Mathlib.Data.List.Nodup

/-!
# Lists as tables

A table is a list of rows. Adding a row merges it into every row that counts as the same,
or appends it. Where the rows that count as the same are those with its key, and merging
takes the new row, a list without two rows of one key is a finite map and adding a row is
an update of the map. Where other rows count as well, one row may come to stand in several
places.
-/

namespace Tables

variable {α β κ ε : Type}

/-! ## Updates that may fail -/

/-- Each row that is meant is updated in its place. An error stops, and leaves the rows
before it updated. -/
def updateEach (p : α → Bool) (f : α → α × Option ε) : List α → List α × Option ε
  | [] => ([], none)
  | x :: xs =>
    if p x then
      match f x with
      | (y, some e) => (y :: xs, some e)
      | (y, none) => (y :: (updateEach p f xs).1, (updateEach p f xs).2)
    else (x :: (updateEach p f xs).1, (updateEach p f xs).2)

theorem updateEach_of_ok {f : α → α × Option ε} (h : ∀ x, (f x).2 = none) (xs : List α) :
    updateEach p f xs = (xs.map fun x => if p x then (f x).1 else x, none) := by
  induction xs with
  | nil => rfl
  | cons x xs ih =>
    have hx : f x = ((f x).1, none) := Prod.ext rfl (h x)
    unfold updateEach
    split_ifs with hp
    · rw [hx]
      simp [ih, hp]
    · simp [ih, hp]

/-- A row is merged into the rows that count as the same. If there is none, it is
appended. -/
def add (same : α → Bool) (merge : α → Except ε α) (new : α) (xs : List α) : List α × Option ε :=
  if xs.any same then
    updateEach same (fun x =>
      match merge x with
      | .error e => (x, some e)
      | .ok y => (y, none)) xs
  else (xs ++ [new], none)

/-- The new row takes the places of the others. -/
def put (same : α → Bool) (new : α) (xs : List α) : List α :=
  if xs.any same then xs.map fun x => if same x then new else x else xs ++ [new]

theorem add_override (same : α → Bool) (new : α) (xs : List α) :
    add same (fun _ => (.ok new : Except ε α)) new xs = (put same new xs, none) := by
  unfold add put
  split_ifs
  · rw [updateEach_of_ok fun _ => rfl]
  · rfl

theorem mem_put (same : α → Bool) (new : α) (xs : List α) : new ∈ put same new xs := by
  unfold put
  split_ifs with h
  · obtain ⟨x, hx, hsame⟩ := List.any_eq_true.mp h
    exact List.mem_map.mpr ⟨x, hx, if_pos hsame⟩
  · simp

/-! ## One row in several places -/

theorem mem_map_replace {new : α} {g : α → β} {xs : List α}
    (hsame : ∀ x ∈ xs, g x = g new → same x = true) :
    g new ∈ (xs.map fun x => if same x then new else x).map g ↔ xs.filter same ≠ [] := by
  simp only [List.mem_map, exists_exists_and_eq_and, ne_eq, List.filter_eq_nil_iff, not_forall]
  constructor
  · rintro ⟨x, hx, hg⟩
    refine ⟨x, hx, not_not.mpr ?_⟩
    split_ifs at hg with h
    · exact h
    · exact hsame x hx hg
  · rintro ⟨x, hx, h⟩
    exact ⟨x, hx, by rw [if_pos (not_not.mp h)]⟩

/-- Replaced rows keep apart by `g` exactly if there is at most one. -/
theorem nodup_map_replace {new : α} {g : α → β} {xs : List α}
    (hsame : ∀ x ∈ xs, g x = g new → same x = true) (h : (xs.map g).Nodup) :
    ((xs.map fun x => if same x then new else x).map g).Nodup ↔ (xs.filter same).length ≤ 1 := by
  induction xs with
  | nil => simp
  | cons x xs ih =>
    have hsame' : ∀ y ∈ xs, g y = g new → same y = true :=
      fun y hy => hsame y (.tail _ hy)
    rw [List.map_cons, List.nodup_cons] at h
    rw [List.map_cons, List.map_cons, List.nodup_cons, ih hsame' h.2]
    by_cases hx : same x = true
    · rw [if_pos hx, List.filter_cons_of_pos hx, mem_map_replace hsame', not_not, List.length_cons]
      constructor
      · rintro ⟨hnil, -⟩
        simp [hnil]
      · intro hlen
        have hnil := List.length_eq_zero_iff.mp (Nat.le_zero.mp (Nat.le_of_succ_le_succ hlen))
        simp [hnil]
    · rw [if_neg hx, List.filter_cons_of_neg hx, and_iff_right]
      intro hmem
      simp only [List.mem_map, exists_exists_and_eq_and] at hmem
      obtain ⟨y, hy, hg⟩ := hmem
      split_ifs at hg with hy'
      · exact hx (hsame x (.head _) hg.symm)
      · exact h.1 (List.mem_map.mpr ⟨y, hy, hg⟩)

theorem nodup_map_put_iff {new : α} {g : α → β} {xs : List α}
    (hsame : ∀ x ∈ xs, g x = g new → same x = true) (h : (xs.map g).Nodup) :
    ((put same new xs).map g).Nodup ↔ (xs.filter same).length ≤ 1 := by
  unfold put
  split_ifs with hany
  · exact nodup_map_replace hsame h
  · have hnone : ∀ x ∈ xs, ¬same x = true := by simpa using hany
    rw [List.filter_eq_nil_iff.mpr hnone, List.map_append, List.nodup_append]
    refine iff_of_true ⟨h, by simp, ?_⟩ (by simp)
    rintro a ha b hb rfl
    obtain ⟨x, hx, rfl⟩ := List.mem_map.mp ha
    exact hnone x hx (hsame x hx (by simpa using hb))

/-! ## Rows with a key -/

variable [DecidableEq κ]

def get (key : α → κ) (xs : List α) (k : κ) : Option α := xs.find? fun x => key x = k

def putKey (key : α → κ) (new : α) (xs : List α) : List α := put (fun x => key x = key new) new xs

variable {key : α → κ} {new : α} {xs : List α}

theorem nodup_putKey (h : (xs.map key).Nodup) : ((putKey key new xs).map key).Nodup := by
  unfold putKey put
  split_ifs with hany
  · have hkeys : (xs.map fun x => if decide (key x = key new) then new else x).map key =
        xs.map key := by
      rw [List.map_map]
      refine List.map_congr_left fun x _ => ?_
      rw [Function.comp_apply]
      split_ifs with hx
      · exact (of_decide_eq_true hx).symm
      · rfl
    rwa [hkeys]
  · rw [List.map_append, List.nodup_append]
    refine ⟨h, by simp, ?_⟩
    rintro a ha b hb rfl
    obtain ⟨x, hx, rfl⟩ := List.mem_map.mp ha
    simp only [List.map_cons, List.map_nil, List.mem_singleton] at hb
    exact hany (List.any_eq_true.mpr ⟨x, hx, decide_eq_true hb⟩)

theorem get_replace (k : κ) :
    get key (xs.map fun x => if decide (key x = key new) then new else x) k =
      if k = key new then (get key xs k).map fun _ => new else get key xs k := by
  unfold get
  induction xs with
  | nil => simp
  | cons x xs ih =>
    rw [List.map_cons, List.find?_cons, List.find?_cons, ih]
    by_cases hx : key x = key new
    · by_cases hk : k = key new
      · simp [hx, hk]
      · simp [hx, hk, Ne.symm hk]
    · by_cases hk : k = key new
      · simp [hx, hk]
      · simp [hx, hk]

/-- As a map, the table is updated. -/
theorem get_putKey (k : κ) :
    get key (putKey key new xs) k = if k = key new then some new else get key xs k := by
  unfold putKey put
  split_ifs with hany hk hk
  · subst hk
    obtain ⟨x, hx⟩ : ∃ x, get key xs (key new) = some x :=
      Option.isSome_iff_exists.mp (List.find?_isSome.mpr (List.any_eq_true.mp hany))
    rw [get_replace, if_pos rfl, hx]
    rfl
  · rw [get_replace, if_neg hk]
  · subst hk
    have hnone : xs.find? (fun x => key x = key new) = none := by
      simpa using hany
    simp [get, List.find?_append, hnone]
  · simp [get, List.find?_append, Ne.symm hk]

theorem eq_new_of_mem_putKey (hx : x ∈ putKey key new xs) (hkey : key x = key new) : x = new := by
  unfold putKey put at hx
  split_ifs at hx with hany
  · obtain ⟨y, -, rfl⟩ := List.mem_map.mp hx
    split_ifs at hkey ⊢ with hy
    · rfl
    · exact absurd (decide_eq_true hkey) hy
  · rcases List.mem_append.mp hx with hx | hx
    · exact absurd (List.any_eq_true.mpr ⟨x, hx, decide_eq_true hkey⟩) hany
    · exact List.mem_singleton.mp hx

/-- Once more changes nothing. -/
theorem putKey_putKey : putKey key new (putKey key new xs) = putKey key new xs := by
  have hany : (putKey key new xs).any (fun x => key x = key new) = true :=
    List.any_eq_true.mpr ⟨new, mem_put _ _ _, by simp⟩
  rw [putKey, put, if_pos hany]
  refine (List.map_congr_left fun x hx => ?_).trans (List.map_id _)
  split_ifs with h
  · exact (eq_new_of_mem_putKey hx (of_decide_eq_true h)).symm
  · rfl

theorem get_of_mem (h : (xs.map key).Nodup) (hx : x ∈ xs) : get key xs (key x) = some x := by
  obtain ⟨y, hy⟩ : ∃ y, get key xs (key x) = some y :=
    Option.isSome_iff_exists.mp (List.find?_isSome.mpr ⟨x, hx, by simp⟩)
  have hkey : key y = key x := by simpa using List.find?_some hy
  rw [hy, List.inj_on_of_nodup_map h (List.mem_of_find?_eq_some hy) hx hkey]

/-- An update that keeps the keys, row by row. -/
theorem get_map (hf : ∀ x, key (f x) = key x) (k : κ) :
    get key (xs.map f) k = (get key xs k).map f := by
  unfold get
  rw [List.find?_map]
  simp only [Function.comp_def, hf]

end Tables
