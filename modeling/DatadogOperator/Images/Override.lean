import DatadogOperator.Images.Image

/-!
# Reading what was printed

An image is read back from its text, up to the JMX flag that a full image swallows. So an
override that is applied to its own result changes nothing, unless a `/` gets into the
name or the tag without a registry before it.
-/

namespace DatadogOperator.Images

/-- A tag without a suffix that stands for a flag. -/
structure BaseTag (tag : Text) : Prop where
  jmx : ¬hasSuffix tag JMXTagSuffix
  fips : ¬hasSuffix tag FIPSTagSuffix
  full : ¬hasSuffix tag FullTagSuffix

/-- An image whose parts can be told apart. -/
structure Image.Plain (i : Image) : Prop where
  name_slash : '/' ∉ i.name
  name_colon : ':' ∉ i.name
  tag_slash : '/' ∉ i.tag
  tag_colon : ':' ∉ i.tag
  base : BaseTag i.tag

section
variable {i o : Image} {s tag name registry suffix suffix' : Text}

/-! ## Suffixes -/

@[simp] theorem hasSuffix_append : hasSuffix (tag ++ suffix) suffix := by
  simp [hasSuffix]

@[simp] theorem trimSuffix_append : trimSuffix (tag ++ suffix) suffix = tag := by
  rw [trimSuffix, if_pos hasSuffix_append, List.rdrop_append_length]

theorem trimSuffix_of_not (h : ¬hasSuffix tag suffix) : trimSuffix tag suffix = tag :=
  if_neg h

theorem not_hasSuffix_append (h : suffix.getLast? = some a)
    (h' : suffix'.getLast? = some b) (hab : a ≠ b) : ¬hasSuffix (tag ++ suffix) suffix' := by
  rw [hasSuffix, List.isSuffixOf_iff_suffix]
  rintro ⟨l, hl⟩
  have hlast := congrArg List.getLast? hl
  rw [List.getLast?_append, List.getLast?_append, h, h'] at hlast
  exact hab (Option.some.inj hlast).symm

theorem parseTagSuffixes_tagSuffix (h : BaseTag tag) : parseTagSuffixes (tag ++ i.tagSuffix) =
    { baseTag := tag, isJMX := i.isJMX && !i.isFull, isFIPS := i.isFIPS, isFull := i.isFull } := by
  have hjmx_full (t : Text) : ¬hasSuffix (t ++ JMXTagSuffix) FullTagSuffix :=
    not_hasSuffix_append (a := 'x') (b := 'l') rfl rfl (by decide)
  have hfips_full (t : Text) : ¬hasSuffix (t ++ FIPSTagSuffix) FullTagSuffix :=
    not_hasSuffix_append (a := 's') (b := 'l') rfl rfl (by decide)
  have hfips_jmx (t : Text) : ¬hasSuffix (t ++ FIPSTagSuffix) JMXTagSuffix :=
    not_hasSuffix_append (a := 's') (b := 'x') rfl rfl (by decide)
  obtain ⟨registry, name, tag', isJMX, isFIPS, isFull⟩ := i
  cases isFull <;> cases isJMX <;> cases isFIPS <;>
    simp [parseTagSuffixes, Image.tagSuffix, ← List.append_assoc, trimSuffix_of_not, hjmx_full,
      hfips_full, hfips_jmx, h.jmx, h.fips, h.full]

theorem fromString_toString (hslash : '/' ∉ i.name) (hcolon : ':' ∉ i.name)
    (htag : '/' ∉ i.tag) : fromString i.toString = some (newImage i.registry i.name
        (parseTagSuffixes ((i.tag ++ i.tagSuffix).takeWhile (· ≠ ':')))) := by
  have hrest : '/' ∉ i.name ++ ':' :: (i.tag ++ i.tagSuffix) := by
    simp [hslash, htag, slash_notMem_tagSuffix]
  rw [Image.toString, fromString_slash hrest, fromLast_colon hcolon]

theorem colon_notMem_tagSuffix (i : Image) : ':' ∉ i.tagSuffix := by
  rw [Image.tagSuffix]
  split_ifs <;> decide

theorem Image.Plain.fromString_toString (h : i.Plain) :
    fromString i.toString = some { i with isJMX := i.isJMX && !i.isFull } := by
  have hcolon : ':' ∉ i.tag ++ i.tagSuffix := by simp [h.tag_colon, colon_notMem_tagSuffix]
  rw [Images.fromString_toString h.name_slash h.name_colon h.tag_slash,
    takeWhile_of_not_mem hcolon, parseTagSuffixes_tagSuffix h.base, newImage]

theorem toString_swallowed :
    { i with isJMX := i.isJMX && !i.isFull : Image }.toString = i.toString := by
  obtain ⟨registry, name, tag, isJMX, isFIPS, isFull⟩ := i
  cases isFull <;> cases isJMX <;> cases isFIPS <;> simp [Image.toString, Image.tagSuffix]

/-! ## Overrides -/

theorem overriddenBy_eq : i.overriddenBy o =
    { registry := if o.registry = [] then i.registry else o.registry
      name := if o.name = [] then i.name else o.name
      tag := if o.tag = [] then i.tag else o.tag
      isJMX := o.isJMX
      isFIPS := if o.tag = [] then i.isFIPS else o.isFIPS
      isFull := if o.tag = [] then i.isFull else o.isFull } := by
  rw [Image.overriddenBy, Image.withRegistry, Image.withName, Image.withTag]
  split_ifs <;> simp [Image.withJMX, Image.withFIPS, Image.withFull]

/-- What a name or tag of an override is fit for. -/
structure Image.Fits (o : Image) : Prop where
  name_slash : '/' ∉ o.name
  name_colon : ':' ∉ o.name
  tag_slash : '/' ∉ o.tag

theorem overriddenBy_name_notMem (h : c ∉ i.name) (ho : c ∉ o.name) :
    c ∉ (i.overriddenBy o).name := by
  rw [overriddenBy_eq]
  dsimp only
  split_ifs
  · exact h
  · exact ho

theorem overriddenBy_plain (h : i.Plain) (ho : o.Fits) (htag : o.tag = []) :
    (i.overriddenBy o).Plain := by
  have hsame : (i.overriddenBy o).tag = i.tag := by simp [overriddenBy_eq, htag]
  exact {
    name_slash := overriddenBy_name_notMem h.name_slash ho.name_slash
    name_colon := overriddenBy_name_notMem h.name_colon ho.name_colon
    tag_slash := hsame ▸ h.tag_slash
    tag_colon := hsame ▸ h.tag_colon
    base := hsame ▸ h.base }

theorem overriddenBy_congr {j : Image} (hregistry : o.registry = [] → j.registry = i.registry)
    (hname : o.name = [] → j.name = i.name)
    (htag : o.tag = [] → j.tag = i.tag ∧ j.isFIPS = i.isFIPS ∧ j.isFull = i.isFull) :
    j.overriddenBy o = i.overriddenBy o := by
  rw [overriddenBy_eq, overriddenBy_eq, Image.mk.injEq]
  grind

theorem overriddenBy_again (h : i.Plain) (ho : o.Fits) :
    ∃ j, fromString (i.overriddenBy o).toString = some j ∧ j.overriddenBy o = i.overriddenBy o := by
  by_cases htag : o.tag = []
  · -- The tag is that of the image, so that all of the result is read back.
    refine ⟨_, (overriddenBy_plain h ho htag).fromString_toString, overriddenBy_congr ?_ ?_ ?_⟩ <;>
      simp +contextual [overriddenBy_eq]
  · -- The tag and all flags come from the override again.
    have htag' : '/' ∉ (i.overriddenBy o).tag := by
      simpa [overriddenBy_eq, htag] using ho.tag_slash
    refine ⟨_, fromString_toString (overriddenBy_name_notMem h.name_slash ho.name_slash)
      (overriddenBy_name_notMem h.name_colon ho.name_colon) htag', overriddenBy_congr ?_ ?_ ?_⟩ <;>
      simp +contextual [overriddenBy_eq, newImage, htag]

/-! ## Names and tags with a slash -/

theorem fromLast_registry (h : fromLast registry last = some i) : i.registry = registry := by
  by_cases hcolon : ':' ∈ last
  · obtain ⟨name, rest, rfl, hname⟩ := List.eq_append_cons_of_mem hcolon
    rw [fromLast_colon hname] at h
    cases h
    rfl
  · rw [fromLast_no_colon hcolon] at h
    cases h

theorem length_toString : i.toString.length =
    i.registry.length + i.name.length + (i.tag ++ i.tagSuffix).length + 2 := by
  simp only [Image.toString, List.length_append, List.length_cons]
  omega

theorem longer_of_tag_slash (hregistry : o.registry = []) (hslash : '/' ∈ o.tag)
    (hj : fromString (i.overriddenBy o).toString = some j) :
    (i.overriddenBy o).toString.length < (j.overriddenBy o).toString.length := by
  obtain ⟨l, r, htag, hr⟩ := exists_last hslash
  have hne : o.tag ≠ [] := List.ne_nil_of_mem hslash
  have hlast : '/' ∉ r ++ (i.overriddenBy o).tagSuffix := by simp [hr, slash_notMem_tagSuffix]
  have htag' : (i.overriddenBy o).tag = l ++ '/' :: r := by simp [overriddenBy_eq, htag]
  have hsplit : (i.overriddenBy o).toString = ((i.overriddenBy o).registry ++
      '/' :: ((i.overriddenBy o).name ++ ':' :: l)) ++
        '/' :: (r ++ (i.overriddenBy o).tagSuffix) := by
    rw [Image.toString, htag']
    simp
  rw [hsplit, fromString_slash hlast] at hj
  have hj' := congrArg List.length (fromLast_registry hj)
  have hsuffix : (j.overriddenBy o).tag ++ (j.overriddenBy o).tagSuffix =
      (i.overriddenBy o).tag ++ (i.overriddenBy o).tagSuffix := by
    simp [overriddenBy_eq, hne, Image.tagSuffix]
  have hkept : (j.overriddenBy o).registry = j.registry := by simp [overriddenBy_eq, hregistry]
  rw [length_toString, length_toString, hsuffix, hkept, hj']
  simp only [List.length_append, List.length_cons]
  omega

theorem longer_of_name_slash (h : i.Plain) (hregistry : o.registry = [])
    (hcolon : ':' ∉ o.name) (hslash : '/' ∈ o.name) (htag : '/' ∉ o.tag)
    (hj : fromString (i.overriddenBy o).toString = some j) :
    (i.overriddenBy o).toString.length < (j.overriddenBy o).toString.length := by
  obtain ⟨l, r, hname, hr⟩ := exists_last hslash
  have hne : o.name ≠ [] := List.ne_nil_of_mem hslash
  have hr' : ':' ∉ r := fun hmem => hcolon (by simp [hname, hmem])
  have htag' : '/' ∉ (i.overriddenBy o).tag := by
    rw [overriddenBy_eq]
    dsimp only
    split_ifs
    · exact h.tag_slash
    · exact htag
  have hlast : '/' ∉ r ++ ':' :: ((i.overriddenBy o).tag ++ (i.overriddenBy o).tagSuffix) := by
    simp [hr, htag', slash_notMem_tagSuffix]
  have hname' : (i.overriddenBy o).name = l ++ '/' :: r := by simp [overriddenBy_eq, hname]
  have hkept : (i.overriddenBy o).registry = i.registry := by simp [overriddenBy_eq, hregistry]
  have hsplit : (i.overriddenBy o).toString = (i.registry ++ '/' :: l) ++
      '/' :: (r ++ ':' :: ((i.overriddenBy o).tag ++ (i.overriddenBy o).tagSuffix)) := by
    rw [Image.toString, hname', hkept]
    simp
  rw [hsplit, fromString_slash hlast, fromLast_colon hr'] at hj
  have hjtag : o.tag = [] → j.tag = i.tag ∧ j.isFIPS = i.isFIPS ∧ j.isFull = i.isFull := by
    intro hnil
    have hsame : (i.overriddenBy o).tag = i.tag := by simp [overriddenBy_eq, hnil]
    have hcolon' : ':' ∉ i.tag ++ (i.overriddenBy o).tagSuffix := by
      simp [h.tag_colon, colon_notMem_tagSuffix]
    rw [hsame, takeWhile_of_not_mem hcolon', parseTagSuffixes_tagSuffix h.base] at hj
    cases hj
    simp [newImage, overriddenBy_eq, hnil]
  have hjregistry : j.registry = i.registry ++ '/' :: l := by
    cases hj
    rfl
  have hlonger : j.overriddenBy o = { i with registry := j.registry }.overriddenBy o :=
    overriddenBy_congr (fun _ => rfl) (fun hnil => absurd hnil hne) hjtag
  have hmoved : { i with registry := j.registry }.overriddenBy o =
      { i.overriddenBy o with registry := j.registry } := by
    simp [overriddenBy_eq, hregistry]
  rw [hlonger, hmoved, length_toString, length_toString, hkept, hjregistry]
  simp only [List.length_append, List.length_cons, Image.tagSuffix]
  omega

/-! ## Overrides of a custom resource -/

theorem notMem_baseTag (h : c ∉ tag) : c ∉ (parseTagSuffixes tag).baseTag :=
  notMem_trimSuffix (notMem_trimSuffix (notMem_trimSuffix h))

theorem mem_trimSuffix (hsuffix : c ∉ suffix) (h : c ∈ tag) : c ∈ trimSuffix tag suffix := by
  by_cases htrim : hasSuffix tag suffix
  · obtain ⟨l, rfl⟩ := List.isSuffixOf_iff_suffix.mp htrim
    rw [trimSuffix_append]
    exact (List.mem_append.mp h).resolve_right hsuffix
  · rwa [trimSuffix_of_not htrim]

theorem mem_baseTag (h : '/' ∈ tag) : '/' ∈ (parseTagSuffixes tag).baseTag := by
  have hfull := mem_trimSuffix (show _ ∉ FullTagSuffix by decide) h
  have hjmx := mem_trimSuffix (show _ ∉ JMXTagSuffix by decide) hfull
  exact mem_trimSuffix (by decide) hjmx

theorem fits_of_fromLast (hslash : '/' ∉ last) (h : fromLast registry last = some o) :
    o.Fits := by
  by_cases hcolon : ':' ∈ last
  · obtain ⟨name, rest, rfl, hname⟩ := List.eq_append_cons_of_mem hcolon
    rw [fromLast_colon hname] at h
    cases h
    simp only [List.mem_append, List.mem_cons, not_or] at hslash
    refine ⟨hslash.1, hname, notMem_baseTag fun hmem => hslash.2.2 ?_⟩
    exact List.takeWhile_subset _ hmem
  · rw [fromLast_no_colon hcolon] at h
    cases h

theorem fits_of_fromString (h : fromString s = some o) : o.Fits := by
  by_cases hslash : '/' ∈ s
  · obtain ⟨registry, rest, rfl, hrest⟩ := exists_last hslash
    rw [fromString_slash hrest] at h
    exact fits_of_fromLast hrest h
  · rw [fromString_no_slash hslash] at h
    exact fits_of_fromLast hslash h

end

/-- A name is a name, or `name:tag`, or `registry/name:tag`, and a tag of its own has no
slash. -/
structure AgentImageConfig.Accepted (c : AgentImageConfig) : Prop where
  reference : ':' ∈ c.name → ':' ∈ c.name.rtakeWhile (· ≠ '/')
  name : ':' ∉ c.name → '/' ∉ c.name
  tag : ':' ∉ c.name → '/' ∉ c.tag

theorem fits_of_accepted (h : c.Accepted) (ho : fromImageConfig c = some o) : o.Fits := by
  rw [fromImageConfig] at ho
  split at ho
  · exact fits_of_fromString ho
  · next hcolon =>
    cases ho
    exact ⟨h.name hcolon, hcolon, notMem_baseTag (h.tag hcolon)⟩

theorem accepted_of_again {i j o : Image} (h : i.Plain)
    (ho : fromImageConfig c = some o) (hj : fromString (i.overriddenBy o).toString = some j)
    (hagain : (j.overriddenBy o).toString = (i.overriddenBy o).toString) : c.Accepted := by
  have hsame := congrArg List.length hagain
  have hslash : ':' ∉ c.name → '/' ∉ c.name ∧ '/' ∉ c.tag := by
    intro hcolon
    rw [fromImageConfig, if_neg hcolon, Option.some.injEq] at ho
    subst ho
    have htag : '/' ∉ c.tag := fun hmem =>
      (longer_of_tag_slash rfl (mem_baseTag hmem) hj).ne' hsame
    refine ⟨fun hmem => ?_, htag⟩
    exact (longer_of_name_slash h rfl hcolon hmem (notMem_baseTag htag) hj).ne' hsame
  exact {
    reference := isSome_fromImageConfig.mp (ho ▸ rfl)
    name := fun hcolon => (hslash hcolon).1
    tag := fun hcolon => (hslash hcolon).2 }

theorem overridden_again_iff {i : Image} (h : i.Plain) :
    (∃ r, overrideAgentImage i.toString c = some r ∧ overrideAgentImage r c = some r) ↔
      c.Accepted := by
  have hread := h.fromString_toString
  have hplain : { i with isJMX := i.isJMX && !i.isFull : Image }.Plain :=
    ⟨h.name_slash, h.name_colon, h.tag_slash, h.tag_colon, h.base⟩
  constructor
  · rintro ⟨r, hr, hagain⟩
    obtain ⟨o, ho, rfl⟩ : ∃ o, fromImageConfig c = some o ∧
        ({ i with isJMX := i.isJMX && !i.isFull : Image }.overriddenBy o).toString = r := by
      simpa [overrideAgentImage, hread, Option.bind_eq_some_iff] using hr
    obtain ⟨j, hj, hsame⟩ : ∃ j, fromString ({ i with isJMX := i.isJMX && !i.isFull
        : Image }.overriddenBy o).toString = some j ∧ (j.overriddenBy o).toString =
          ({ i with isJMX := i.isJMX && !i.isFull : Image }.overriddenBy o).toString := by
      simpa [overrideAgentImage, ho, Option.bind_eq_some_iff] using hagain
    exact accepted_of_again hplain ho hj hsame
  · intro hc
    obtain ⟨o, ho⟩ := Option.isSome_iff_exists.mp (isSome_fromImageConfig.mpr hc.reference)
    obtain ⟨j, hj, hsame⟩ := overriddenBy_again hplain (fits_of_accepted hc ho)
    refine ⟨({ i with isJMX := i.isJMX && !i.isFull : Image }.overriddenBy o).toString, ?_, ?_⟩
    · simp [overrideAgentImage, hread, ho]
    · simp [overrideAgentImage, hj, ho, hsame]

/-- A plain image is read back from its text, but for the JMX flag of a full image, and
prints the same. An override can be applied again exactly if it is accepted. -/
theorem image_round_trip (i : Image) (h : i.Plain) :
    fromString i.toString = some { i with isJMX := i.isJMX && !i.isFull } ∧
      { i with isJMX := i.isJMX && !i.isFull : Image }.toString = i.toString ∧
      ∀ c : AgentImageConfig,
        (∃ r, overrideAgentImage i.toString c = some r ∧ overrideAgentImage r c = some r) ↔
          c.Accepted :=
  ⟨h.fromString_toString, toString_swallowed, fun _ => overridden_again_iff h⟩

def fullAgent : Image :=
  { registry := "gcr.io/datadoghq".toList
    name := "agent".toList
    tag := "7.78.0".toList
    isJMX := true
    isFIPS := true
    isFull := true }

theorem fullAgent_round_trip : fromString "gcr.io/datadoghq/agent:7.78.0-fips-full".toList =
        some { fullAgent with isJMX := false } ∧
      { fullAgent with isJMX := false : Image }.toString = fullAgent.toString ∧
      ∀ c : AgentImageConfig, (∃ r, overrideAgentImage fullAgent.toString c = some r ∧
          overrideAgentImage r c = some r) ↔ c.Accepted :=
  image_round_trip fullAgent
    ⟨by decide, by decide, by decide, by decide, ⟨by decide, by decide, by decide⟩⟩

/-- A name with a path and no tag is put before the last name once more. -/
theorem path_is_repeated :
    overrideAgentImage fullAgent.toString { name := "custom/agent".toList, tag := "7".toList } =
        some "gcr.io/datadoghq/custom/agent:7".toList ∧
      overrideAgentImage "gcr.io/datadoghq/custom/agent:7".toList
          { name := "custom/agent".toList, tag := "7".toList } =
        some "gcr.io/datadoghq/custom/custom/agent:7".toList := by
  decide +kernel

end DatadogOperator.Images
