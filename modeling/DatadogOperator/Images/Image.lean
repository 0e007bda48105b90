import Mathlib.Data.List.DropRight

/-!
# Image references

`images.go`: an image reference `registry/name:tag` is taken apart into an `Image`, the
suffixes of the tag become flags, and the image is printed again. A piece of a split that
is not there is a panic, which is `none` here. The tag is looked for behind the last `/`,
so a reference with a colon in the registry only has none.
-/

namespace DatadogOperator.Images

/-- Strings are split and trimmed character by character. -/
abbrev Text := List Char

def JMXTagSuffix : Text := "-jmx".toList
def FIPSTagSuffix : Text := "-fips".toList
def FullTagSuffix : Text := "-full".toList

structure Image where
  registry : Text
  name : Text
  tag : Text
  isJMX : Bool := false
  isFIPS : Bool := false
  isFull : Bool := false

structure AgentImageConfig where
  name : Text := []
  tag : Text := []
  jmxEnabled : Bool := false

namespace Image

def withRegistry (i : Image) (registry : Text) : Image :=
  if registry = [] then i else { i with registry }

def withTag (i : Image) (tag : Text) : Image := if tag = [] then i else { i with tag }

def withName (i : Image) (name : Text) : Image := if name = [] then i else { i with name }

def withJMX (i : Image) (isJMX : Bool) : Image := { i with isJMX }

def withFIPS (i : Image) (isFIPS : Bool) : Image := { i with isFIPS }

def withFull (i : Image) (isFull : Bool) : Image := { i with isFull }

/-- The full image has JMX. -/
def tagSuffix (i : Image) : Text :=
  if i.isJMX then
    if i.isFIPS && i.isFull then FIPSTagSuffix ++ FullTagSuffix
    else if i.isFIPS then FIPSTagSuffix ++ JMXTagSuffix
    else if i.isFull then FullTagSuffix
    else JMXTagSuffix
  else if i.isFIPS && i.isFull then FIPSTagSuffix ++ FullTagSuffix
  else if i.isFIPS then FIPSTagSuffix
  else if i.isFull then FullTagSuffix
  else []

def toString (i : Image) : Text :=
  i.registry ++ '/' :: (i.name ++ ':' :: (i.tag ++ i.tagSuffix))

end Image

/-! ## Parsing -/

def hasSuffix (text suffix : Text) : Bool := suffix.isSuffixOf text

def trimSuffix (text suffix : Text) : Text :=
  if hasSuffix text suffix then text.rdrop suffix.length else text

structure TagSuffixes where
  baseTag : Text
  isJMX : Bool
  isFIPS : Bool
  isFull : Bool

/-- From right to left: full, JMX, FIPS. -/
def parseTagSuffixes (tag : Text) : TagSuffixes :=
  let isFull := hasSuffix tag FullTagSuffix
  let tag := trimSuffix tag FullTagSuffix
  let isJMX := hasSuffix tag JMXTagSuffix
  let tag := trimSuffix tag JMXTagSuffix
  let isFIPS := hasSuffix tag FIPSTagSuffix
  let tag := trimSuffix tag FIPSTagSuffix
  { baseTag := tag, isJMX, isFIPS, isFull }

def newImage (registry name : Text) : TagSuffixes → Image
  | { baseTag, isJMX, isFIPS, isFull } => { registry, name, tag := baseTag, isJMX, isFIPS, isFull }

def fromString (stringImage : Text) : Option Image := do
  let splitImg := stringImage.splitOn '/'
  let registry := ['/'].intercalate splitImg.dropLast
  let last ← splitImg.getLast?
  let splitName := last.splitOn ':'
  let name ← splitName[0]?
  let tag ← splitName[1]?
  return newImage registry name (parseTagSuffixes tag)

/-- A name with a colon is taken for an image reference. -/
def fromImageConfig (imageConfig : AgentImageConfig) : Option Image :=
  if ':' ∈ imageConfig.name then fromString imageConfig.name
  else
    let suffixes := parseTagSuffixes imageConfig.tag
    some (newImage [] imageConfig.name
      { suffixes with isJMX := suffixes.isJMX || imageConfig.jmxEnabled })

/-- The chain of `With…` calls. The FIPS and full flags follow the tag. -/
def Image.overriddenBy (image overrideImage : Image) : Image :=
  let image := (((image.withRegistry overrideImage.registry).withName overrideImage.name).withTag
    overrideImage.tag).withJMX overrideImage.isJMX
  if overrideImage.tag = [] then image
  else (image.withFIPS overrideImage.isFIPS).withFull overrideImage.isFull

def overrideAgentImage (currentImage : Text) (overrideImageSpec : AgentImageConfig) :
    Option Text := do
  let image ← fromString currentImage
  let overrideImage ← fromImageConfig overrideImageSpec
  return (image.overriddenBy overrideImage).toString

def isJMXImage (imageConfig : Option AgentImageConfig) : Option Bool :=
  match imageConfig with
  | none => some false
  | some imageConfig => (fromImageConfig imageConfig).map fun img => img.isJMX || img.isFull

/-! ## What is read -/

section
variable {s registry name tag rest : Text}

theorem exists_last (h : c ∈ s) : ∃ l r, s = l ++ c :: r ∧ c ∉ r := by
  obtain ⟨l, r, hs, hl⟩ := List.eq_append_cons_of_mem (List.mem_reverse.mpr h)
  refine ⟨r.reverse, l.reverse, ?_, by simpa using hl⟩
  have hs' := congrArg List.reverse hs
  simpa using hs'

theorem forall_ne_of_not_mem (h : c ∉ s) : ∀ x ∈ s, decide (x ≠ c) = true := by
  intro x hx
  refine decide_eq_true ?_
  rintro rfl
  exact h hx

theorem rtakeWhile_append_cons (h : c ∉ rest) : (s ++ c :: rest).rtakeWhile (· ≠ c) = rest := by
  have hrest := forall_ne_of_not_mem (mt List.mem_reverse.mp h)
  rw [List.rtakeWhile, List.reverse_append, List.reverse_cons, List.append_assoc,
    List.takeWhile_append_of_pos hrest]
  simp

theorem rtakeWhile_of_not_mem (h : c ∉ s) : s.rtakeWhile (· ≠ c) = s :=
  List.rtakeWhile_eq_self_iff.mpr (forall_ne_of_not_mem h)

theorem takeWhile_of_not_mem (h : c ∉ s) : s.takeWhile (· ≠ c) = s :=
  List.takeWhile_eq_self_iff.mpr (forall_ne_of_not_mem h)

def fromLast (registry last : Text) : Option Image := do
  let name ← (last.splitOn ':')[0]?
  let tag ← (last.splitOn ':')[1]?
  return newImage registry name (parseTagSuffixes tag)

theorem fromString_slash (h : '/' ∉ rest) :
    fromString (registry ++ '/' :: rest) = fromLast registry rest := by
  simp [fromString, fromLast, List.splitOn_append_cons_self, List.splitOn_eq_singleton h,
    List.intercalate_splitOn]

theorem fromString_no_slash (h : '/' ∉ rest) : fromString rest = fromLast [] rest := by
  simp [fromString, fromLast, List.splitOn_eq_singleton h]

theorem fromLast_no_colon (h : ':' ∉ rest) : fromLast registry rest = none := by
  simp [fromLast, List.splitOn_eq_singleton h]

theorem head?_splitOn : (s.splitOn c).head? = some (s.takeWhile (· ≠ c)) := by
  by_cases h : c ∈ s
  · obtain ⟨l, r, rfl, hl⟩ := List.eq_append_cons_of_mem h
    rw [List.splitOn_append_cons_self, List.splitOn_eq_singleton hl,
      List.takeWhile_append_of_pos (forall_ne_of_not_mem hl)]
    simp
  · rw [List.splitOn_eq_singleton h, takeWhile_of_not_mem h]
    rfl

theorem fromLast_colon (h : ':' ∉ name) : fromLast registry (name ++ ':' :: rest) =
    some (newImage registry name (parseTagSuffixes (rest.takeWhile (· ≠ ':')))) := by
  have hhead : (rest.splitOn ':')[0]? = some (rest.takeWhile (· ≠ ':')) := by
    rw [← List.head?_eq_getElem?, head?_splitOn]
  simp [fromLast, List.splitOn_append_cons_self, List.splitOn_eq_singleton h, hhead]

theorem isSome_fromString : (fromString s).isSome ↔ ':' ∈ s.rtakeWhile (· ≠ '/') := by
  have hlast : ∀ registry last : Text, (fromLast registry last).isSome ↔ ':' ∈ last := by
    intro registry last
    by_cases h : ':' ∈ last
    · obtain ⟨name, rest, rfl, hname⟩ := List.eq_append_cons_of_mem h
      simp [fromLast_colon hname]
    · simp [fromLast_no_colon h, h]
  by_cases h : '/' ∈ s
  · obtain ⟨registry, rest, rfl, hrest⟩ := exists_last h
    rw [fromString_slash hrest, rtakeWhile_append_cons hrest, hlast]
  · rw [fromString_no_slash h, rtakeWhile_of_not_mem h, hlast]

theorem isSome_fromImageConfig : (fromImageConfig c).isSome ↔
    (':' ∈ c.name → ':' ∈ c.name.rtakeWhile (· ≠ '/')) := by
  rw [fromImageConfig]
  split
  · next h => simp [isSome_fromString, h]
  · next h => simp [h]

theorem notMem_trimSuffix (h : c ∉ tag) : c ∉ trimSuffix tag suffix := by
  rw [trimSuffix]
  split
  · exact fun hmem => h (List.mem_of_mem_take hmem)
  · exact h

theorem slash_notMem_tagSuffix (i : Image) : '/' ∉ i.tagSuffix := by
  rw [Image.tagSuffix]
  split_ifs <;> decide

end

/-- Reading an override never panics exactly if a name with a colon has one behind its
last `/`. -/
theorem overrideAgentImage_returns_iff (registry name tag : Text) (hname : '/' ∉ name)
    (htag : '/' ∉ tag) (c : AgentImageConfig) :
    ((overrideAgentImage (registry ++ '/' :: (name ++ ':' :: tag)) c).isSome ∧
        (isJMXImage (some c)).isSome) ↔
      (':' ∈ c.name → ':' ∈ c.name.rtakeWhile (· ≠ '/')) := by
  have hrest : '/' ∉ name ++ ':' :: tag := by simp [hname, htag]
  have hcurrent : (fromString (registry ++ '/' :: (name ++ ':' :: tag))).isSome := by
    rw [isSome_fromString, rtakeWhile_append_cons hrest]
    simp
  obtain ⟨image, himage⟩ := Option.isSome_iff_exists.mp hcurrent
  rw [← isSome_fromImageConfig, overrideAgentImage, himage, isJMXImage]
  cases fromImageConfig c <;> simp

theorem digest_override_returns :
    (overrideAgentImage ("gcr.io/datadoghq".toList ++ '/' :: ("agent".toList ++ ':' ::
        "7.64.0".toList)) { name := "host:5000/agent@sha256:0a1b".toList }).isSome ∧
      (isJMXImage (some { name := "host:5000/agent@sha256:0a1b".toList })).isSome :=
  (overrideAgentImage_returns_iff "gcr.io/datadoghq".toList "agent".toList "7.64.0".toList
    (by decide) (by decide) _).mpr (by decide +kernel)

/-- The port of a registry is taken for a tag. -/
theorem registry_port_panics : overrideAgentImage "gcr.io/datadoghq/agent:7.64.0".toList
        { name := "host:5000/agent".toList, tag := "7.64.0".toList } = none ∧
      isJMXImage (some { name := "host:5000/agent".toList, tag := "7.64.0".toList }) = none := by
  decide +kernel

end DatadogOperator.Images
