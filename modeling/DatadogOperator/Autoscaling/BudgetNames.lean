import DatadogOperator.Autoscaling.Budgets

/-!
# Names of temporary budgets

`tempPDBName` cuts a long name and appends a hash. The cut does not look at the character it
ends with, and the names it makes are names that a controller may have itself. So names are
valid and distinct exactly if no cut ends in a dot and no controller has such a name.
-/

namespace DatadogOperator.Autoscaling

/-! ## DNS-1123 subdomains -/

def alphanumeric (c : Char) : Bool := c.isLower || c.isDigit

/-- A dot stands between letters or digits. -/
def Joins (a b : Char) : Prop :=
  (a = '.' → alphanumeric b = true) ∧ (b = '.' → alphanumeric a = true)

instance (a b : Char) : Decidable (Joins a b) := inferInstanceAs (Decidable (_ ∧ _))

/-- With a dot at either end each label is one between two dots. -/
structure IsSubdomain (s : String) : Prop where
  length : s.length ≤ 253
  allowed : ∀ c ∈ s.toList, alphanumeric c = true ∨ c = '-' ∨ c = '.'
  labels : ('.' :: s.toList ++ ['.']).IsChain Joins

/-- The first four bytes of the sum in hexadecimal. -/
structure IsHexHash (hash : String → String) : Prop where
  length : ∀ s, (hash s).length = 8
  digits : ∀ s, ∀ c ∈ (hash s).toList, alphanumeric c = true

/-! ## What makes a name -/

abbrev Budgeted := ControllerKind × String

def Budgeted.base (c : Budgeted) : String := c.1.lower ++ "-" ++ c.2

def Budgeted.Long (c : Budgeted) : Prop := 50 < c.base.length

def Budgeted.CutAtDot (c : Budgeted) : Prop := c.Long ∧ c.base.toList[40]? = some '.'

def Mimics (hash : String → String) (a b : Budgeted) : Prop :=
  b.Long ∧ a.base = String.ofList (b.base.toList.take 41) ++ "-" ++ hash b.base

section
variable {hash : String → String} {a b c : Budgeted} {l : List Char}

theorem tempPDBName_of_short (h : ¬ c.Long) :
    tempPDBName hash c.1 c.2 = c.base ++ pdbNameSuffix := by
  refine if_pos ?_
  show c.base.length + 13 ≤ 63
  unfold Budgeted.Long at h
  omega

theorem tempPDBName_of_long (h : c.Long) : tempPDBName hash c.1 c.2 =
    String.ofList (c.base.toList.take 41) ++ "-" ++ hash c.base ++ pdbNameSuffix := by
  refine if_neg ?_
  show ¬ c.base.length + 13 ≤ 63
  unfold Budgeted.Long at h
  omega

/-- The kinds differ in their first letters. -/
theorem base_injective : Function.Injective Budgeted.base := by
  rintro ⟨kind, name⟩ ⟨kind', name'⟩ h
  have h := congrArg String.toList h
  simp only [Budgeted.base, String.toList_append] at h
  cases kind <;> cases kind' <;> simp [ControllerKind.lower, String.toList_inj] at h ⊢ <;> exact h

theorem isChain_of_no_dot (h : '.' ∉ l) : l.IsChain Joins := by
  induction l with
  | nil => exact .nil
  | cons x l ih =>
    rw [List.mem_cons, not_or] at h
    refine List.isChain_cons.mpr ⟨fun y hy => ⟨fun hx => absurd hx.symm h.1, fun hdot => ?_⟩, ih h.2⟩
    exact absurd (List.mem_of_mem_head? (hdot ▸ hy)) h.2

theorem no_dot_of_alphanumeric (h : ∀ c ∈ l, alphanumeric c = true) : '.' ∉ l := by
  intro hdot
  exact absurd (h '.' hdot) (by decide)

theorem isChain_dash (hrest : ('-' :: rest).IsChain Joins) :
    (l ++ '-' :: rest).IsChain Joins ↔ l.IsChain Joins ∧ l.getLast? ≠ some '.' := by
  rw [List.isChain_append]
  refine ⟨fun ⟨hl, _, hjoin⟩ => ⟨hl, fun hdot => ?_⟩, fun ⟨hl, hlast⟩ => ⟨hl, hrest, ?_⟩⟩
  · exact absurd ((hjoin '.' hdot '-' rfl).1 rfl) (by decide)
  · rintro x hx y hy
    obtain rfl : '-' = y := by simpa using hy
    exact ⟨fun hdot => absurd (hdot ▸ hx) hlast, fun hdot => absurd hdot (by decide)⟩

theorem lower_letters (kind : ControllerKind) : kind.lower.toList.all alphanumeric := by
  cases kind <;> decide

theorem suffix_allowed : ∀ x ∈ pdbNameSuffix.toList, alphanumeric x = true ∨ x = '-' ∨ x = '.' := by
  have h : pdbNameSuffix.toList.all fun x => alphanumeric x ∨ x = '-' ∨ x = '.' := by decide
  simpa using h

theorem base_allowed (h : IsSubdomain c.2) :
    ∀ x ∈ c.base.toList, alphanumeric x = true ∨ x = '-' ∨ x = '.' := by
  intro x hx
  simp only [Budgeted.base, String.toList_append, List.mem_append] at hx
  rcases hx with (hx | hx) | hx
  · exact .inl (List.all_eq_true.mp (lower_letters c.1) x hx)
  · exact .inr (.inl (by simpa using hx))
  · exact h.allowed x hx

theorem base_labels (h : IsSubdomain c.2) : ('.' :: c.base.toList ++ ['.']).IsChain Joins := by
  have hname : ('-' :: (c.2.toList ++ ['.'])).IsChain Joins := by
    have htail := h.labels.tail
    refine List.isChain_cons.mpr ⟨fun y hy => ⟨fun hx => absurd hx (by decide), fun hdot => ?_⟩, htail⟩
    -- The name does not begin with a dot.
    have hfirst := (List.isChain_cons.mp h.labels).1 y hy
    exact absurd (hdot ▸ hfirst.1 rfl) (by decide)
  have hkind : ('.' :: c.1.lower.toList).IsChain Joins ∧
      ('.' :: c.1.lower.toList).getLast? ≠ some '.' := by
    cases c.1 <;> decide
  have heq : '.' :: c.base.toList ++ ['.'] =
      ('.' :: c.1.lower.toList) ++ '-' :: (c.2.toList ++ ['.']) := by
    simp [Budgeted.base]
  rw [heq]
  exact (isChain_dash hname).mpr hkind

theorem suffix_labels (h : ∀ c ∈ digits, alphanumeric c = true) :
    ('-' :: (digits ++ pdbNameSuffix.toList ++ ['.'])).IsChain Joins := by
  have hrest : (pdbNameSuffix.toList ++ ['.']).IsChain Joins := by decide
  have hdash : ('-' :: digits).IsChain Joins ∧ ('-' :: digits).getLast? ≠ some '.' := by
    have hdot : '.' ∉ '-' :: digits := by
      simpa using no_dot_of_alphanumeric h
    exact ⟨isChain_of_no_dot hdot, fun hlast => hdot (List.mem_of_getLast? hlast)⟩
  rw [List.append_assoc]
  exact (isChain_dash hrest).mpr hdash

theorem short_valid (h : IsSubdomain c.2) (hshort : ¬ c.Long) :
    (tempPDBName hash c.1 c.2).length ≤ 63 ∧ IsSubdomain (tempPDBName hash c.1 c.2) := by
  rw [tempPDBName_of_short hshort]
  have hlength : (c.base ++ pdbNameSuffix).length = c.base.length + 13 := String.length_append _ _
  unfold Budgeted.Long at hshort
  refine ⟨by omega, by omega, ?_, ?_⟩
  · intro x hx
    rcases List.mem_append.mp (String.toList_append .. ▸ hx) with hx | hx
    · exact base_allowed h x hx
    · exact suffix_allowed x hx
  · have hbase := base_labels h
    rw [List.isChain_append] at hbase
    rw [String.toList_append, ← List.cons_append, List.append_assoc]
    refine (isChain_dash (by decide)).mpr ⟨hbase.1, fun hlast => ?_⟩
    exact absurd ((hbase.2.2 '.' hlast '.' rfl).1 rfl) (by decide)

theorem long_length (hhash : IsHexHash hash) (hlong : c.Long) :
    (tempPDBName hash c.1 c.2).length = 63 := by
  have hcut : (String.ofList (c.base.toList.take 41)).length = 41 := by
    unfold Budgeted.Long at hlong
    rw [String.length_ofList, List.length_take, String.length_toList]
    omega
  rw [tempPDBName_of_long hlong]
  simp only [String.length_append, hcut, hhash.length]
  decide

theorem long_valid_iff (hhash : IsHexHash hash) (h : IsSubdomain c.2) (hlong : c.Long) :
    (tempPDBName hash c.1 c.2).length ≤ 63 ∧ IsSubdomain (tempPDBName hash c.1 c.2) ↔
      ¬ c.CutAtDot := by
  have hlength := long_length hhash hlong
  have hlabels : ('.' :: (tempPDBName hash c.1 c.2).toList ++ ['.']).IsChain Joins ↔
      ¬ c.CutAtDot := by
    have hcut : ('.' :: c.base.toList.take 41).IsChain Joins := by
      have hbase := base_labels h
      rw [List.isChain_append] at hbase
      exact hbase.1.take 42
    have hlast : ('.' :: c.base.toList.take 41).getLast? = c.base.toList[40]? := by
      unfold Budgeted.Long at hlong
      rw [← String.length_toList] at hlong
      rw [List.getLast?_cons, List.getLast?_eq_getElem?, List.length_take, List.getElem?_take]
      simp [show min 41 c.base.toList.length = 41 by omega,
        List.getElem?_eq_getElem (show 40 < c.base.toList.length by omega)]
    have heq : '.' :: (tempPDBName hash c.1 c.2).toList ++ ['.'] = ('.' :: c.base.toList.take 41) ++
          '-' :: ((hash c.base).toList ++ pdbNameSuffix.toList ++ ['.']) := by
      simp [tempPDBName_of_long hlong]
    rw [heq, isChain_dash (suffix_labels (hhash.digits _)), hlast, Budgeted.CutAtDot]
    simp [hcut, hlong]
  rw [← hlabels]
  refine ⟨fun hvalid => hvalid.2.labels, fun hvalid => ⟨hlength.le, by omega, ?_, hvalid⟩⟩
  intro x hx
  simp only [tempPDBName_of_long hlong, String.toList_append, List.mem_append,
    String.toList_ofList] at hx
  rcases hx with ((hx | hx) | hx) | hx
  · exact base_allowed h x (List.mem_of_mem_take hx)
  · exact .inr (.inl (by simpa using hx))
  · exact .inl (hhash.digits _ x hx)
  · exact suffix_allowed x hx

theorem valid_iff (hhash : IsHexHash hash) (h : IsSubdomain c.2) :
    (tempPDBName hash c.1 c.2).length ≤ 63 ∧ IsSubdomain (tempPDBName hash c.1 c.2) ↔
      ¬ c.CutAtDot := by
  by_cases hlong : c.Long
  · exact long_valid_iff hhash h hlong
  · exact iff_of_true (short_valid h hlong) fun hcut => hlong hcut.1

theorem ne_iff_of_long (ha : ¬ a.Long) (hb : b.Long) :
    tempPDBName hash a.1 a.2 ≠ tempPDBName hash b.1 b.2 ↔ ¬ Mimics hash a b := by
  rw [tempPDBName_of_short ha, tempPDBName_of_long hb, ne_eq, String.append_left_inj, Mimics]
  simp [hb]

theorem ne_iff (hhash : IsHexHash hash) (hne : a ≠ b)
    (hinjective : hash a.base = hash b.base → a.base = b.base) :
    tempPDBName hash a.1 a.2 ≠ tempPDBName hash b.1 b.2 ↔ ¬ Mimics hash a b ∧ ¬ Mimics hash b a := by
  have hlength : ∀ {a b}, Mimics hash a b → ¬ a.Long := by
    rintro a b ⟨hlong, heq⟩
    unfold Budgeted.Long at hlong ⊢
    rw [heq, String.length_append, String.length_append, String.length_ofList, List.length_take,
      hhash.length, String.length_toList, show "-".length = 1 by decide]
    omega
  have hbase : a.base ≠ b.base := fun heq => hne (base_injective heq)
  by_cases ha : a.Long <;> by_cases hb : b.Long
  · have hname : tempPDBName hash a.1 a.2 ≠ tempPDBName hash b.1 b.2 := by
      intro heq
      rw [tempPDBName_of_long ha, tempPDBName_of_long hb, String.append_left_inj] at heq
      refine hbase (hinjective ?_)
      have hlist := congrArg String.toList heq
      simp only [String.toList_append] at hlist
      have hdigits : (hash a.base).toList.length = (hash b.base).toList.length := by
        simp only [String.length_toList, hhash.length]
      exact String.toList_injective (List.append_inj_right' hlist hdigits)
    exact iff_of_true hname ⟨fun h => hlength h ha, fun h => hlength h hb⟩
  · rw [ne_comm, ne_iff_of_long hb ha]
    exact ⟨fun h => ⟨fun h' => hb h'.1, h⟩, And.right⟩
  · rw [ne_iff_of_long ha hb]
    exact ⟨fun h => ⟨h, fun h' => ha h'.1⟩, And.left⟩
  · refine iff_of_true ?_ ⟨fun h => hb h.1, fun h => ha h.1⟩
    rw [tempPDBName_of_short ha, tempPDBName_of_short hb, ne_eq, String.append_left_inj]
    exact hbase

end

/-- Two controllers get valid and distinct names exactly if neither is cut at a dot and
neither is called as the other is after the cut. -/
theorem tempPDBName_fits_iff {hash : String → String} (hhash : IsHexHash hash) (a b : Budgeted)
    (ha : IsSubdomain a.2) (hb : IsSubdomain b.2) (hne : a ≠ b)
    (hinjective : hash a.base = hash b.base → a.base = b.base) :
    (tempPDBName hash a.1 a.2 ≠ tempPDBName hash b.1 b.2 ∧ ∀ c ∈ [a, b],
      (tempPDBName hash c.1 c.2).length ≤ 63 ∧ IsSubdomain (tempPDBName hash c.1 c.2)) ↔
    (¬ Mimics hash a b ∧ ¬ Mimics hash b a) ∧ ¬ a.CutAtDot ∧ ¬ b.CutAtDot := by
  rw [ne_iff hhash hne hinjective]
  simp only [List.forall_mem_cons, List.not_mem_nil, false_implies, implies_true, and_true,
    valid_iff hhash ha, valid_iff hhash hb]

theorem isSubdomain_of_decide (h : s.length ≤ 253 ∧ s.toList.all
    (fun c => alphanumeric c ∨ c = '-' ∨ c = '.') ∧ ('.' :: s.toList ++ ['.']).IsChain Joins) :
    IsSubdomain s :=
  ⟨h.1, fun c hc => by simpa using List.all_eq_true.mp h.2.1 c hc, h.2.2⟩

def parityHash (s : String) : String := if s.length % 2 = 0 then "00000000" else "00000001"

theorem parityHash_hex : IsHexHash parityHash := by
  refine ⟨fun s => ?_, fun s => List.all_eq_true.mp ?_⟩ <;> unfold parityHash <;> split <;> decide

def longName : String := "aaaaaaaaaaaaaaaaaaaaaaaaaaaaaa-bbbbbbbbbbbbbbbbbbbb"

/-- Two names are cut, and their hashes tell them apart. -/
theorem two_long_names_fit :
    tempPDBName parityHash .deployment longName ≠ tempPDBName parityHash .statefulSet longName ∧
      ∀ c ∈ [((ControllerKind.deployment, longName) : Budgeted), (.statefulSet, longName)],
        (tempPDBName parityHash c.1 c.2).length ≤ 63 ∧
          IsSubdomain (tempPDBName parityHash c.1 c.2) :=
  (tempPDBName_fits_iff parityHash_hex (.deployment, longName) (.statefulSet, longName)
    (isSubdomain_of_decide (by decide)) (isSubdomain_of_decide (by decide)) (by decide)
    (fun h => absurd h (by decide))).mpr
    ⟨⟨fun h => absurd h.2 (by decide), fun h => absurd h.2 (by decide)⟩,
      fun h => absurd h.2 (by decide), fun h => absurd h.2 (by decide)⟩

def dottedName : String := "aaaaaaaaaaaaaaaaaaaaaaaaaaaaa.bbbbbbbbbbbbbbbbbbbb"

/-- The name is cut after its dot, and a dash follows. -/
theorem dotted_name_is_cut :
    IsSubdomain dottedName ∧ ¬ IsSubdomain (tempPDBName parityHash .deployment dottedName) := by
  have hname : IsSubdomain dottedName := isSubdomain_of_decide (by decide)
  refine ⟨hname, fun h => ?_⟩
  have hcut : Budgeted.CutAtDot (.deployment, dottedName) := ⟨by unfold Budgeted.Long; decide, by decide⟩
  exact (valid_iff parityHash_hex hname).mp ⟨(long_length parityHash_hex hcut.1).le, h⟩ hcut

end DatadogOperator.Autoscaling
