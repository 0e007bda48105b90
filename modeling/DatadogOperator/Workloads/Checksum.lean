import DatadogOperator.Dependencies.Authorization
import DatadogOperator.Lib.FirstSeen
import Mathlib.Algebra.GroupWithZero.Nat

/-!
# The checksum of the ConfigMaps of a pod template

`configmap_checksum.go` hashes the contents of the referenced ConfigMaps, so that a change
of one changes the pod template. Names, keys and values are written to the hash one after
another. Nothing marks where one ends, so contents that differ can be the same text.
-/

namespace DatadogOperator.Checksum

open Dependencies (sortStrings sortStrings_of_perm mem_sortStrings sortStrings_eq_nil)

/-! ## The source -/

abbrev Bytes := List UInt8

/-- `[]byte(s)` -/
def bytes (s : String) : Bytes := s.toList.flatMap String.utf8EncodeChar

/-- A Go map, in the order of one iteration over it. -/
abbrev GoMap (V : Type) := AList fun _ : String => V

structure ConfigMapContent where
  data : GoMap String
  binaryData : GoMap Bytes

structure ConfigMap extends ConfigMapContent where
  resourceVersion : String
  labels : GoMap String
  annotations : GoMap String

structure Volume where
  name : String
  /-- `vol.ConfigMap.Name` -/
  configMap : Option String

structure ChecksumTemplate where
  volumes : List Volume
  annotations : String → Option String

inductive GetError
  | notFound
  | other

def configMapsChecksumAnnotationKey : String := "agent.datadoghq.com/configmapshash"

/-- Volumes of other sorts are passed over, and so are names seen before. -/
def referencedConfigMapNames (podTmpl : ChecksumTemplate) : List String :=
  FirstSeen.collect [] (podTmpl.volumes.filterMap (·.configMap))

/-- What is written for a map with values of either type. -/
def writeSortedMap {V : Type} (value : V → Bytes) (m : GoMap V) : Bytes :=
  (sortStrings m.keys).flatMap fun k => bytes k ++ (m.lookup k).elim [] value

def ConfigMapContent.written (c : ConfigMapContent) : Bytes :=
  writeSortedMap bytes c.data ++ writeSortedMap id c.binaryData

/-- `hash` is the hexadecimal FNV hash of all that was written. -/
def hashConfigMapContents (hash : Bytes → String) (contents : GoMap ConfigMapContent) : String :=
  hash ((sortStrings contents.keys).flatMap fun name =>
    bytes name ++ (contents.lookup name).elim [] ConfigMapContent.written)

def addContent (get : String → Except GetError ConfigMap) (contents : GoMap ConfigMapContent)
    (name : String) : Except GetError (GoMap ConfigMapContent) :=
  match get name with
  | .ok cm => .ok (contents.insert name cm.toConfigMapContent)
  -- A dangling reference is skipped.
  | .error .notFound => .ok contents
  | .error e => .error e

/-- The order in which Go happens to go through the map. -/
structure Iteration where
  order : GoMap ConfigMapContent → GoMap ConfigMapContent
  perm : ∀ m, (order m).entries.Perm m.entries

variable (hash : Bytes → String)

def writtenChecksum (iteration : Iteration) (get : String → Except GetError ConfigMap)
    (podTmpl : ChecksumTemplate) : Except GetError (Option String) :=
  if referencedConfigMapNames podTmpl = [] then .ok none else
  match (referencedConfigMapNames podTmpl).foldlM (addContent get) ∅ with
  | .error e => .error e
  | .ok contents =>
    if contents.keys = [] then .ok none
    else .ok (some (hashConfigMapContents hash (iteration.order contents)))

def annotateConfigMapsChecksum (iteration : Iteration)
    (get : String → Except GetError ConfigMap) (podTmpl : ChecksumTemplate) :
    Except GetError ChecksumTemplate :=
  (writtenChecksum hash iteration get podTmpl).map fun
    | none => podTmpl
    | some checksum => { podTmpl with
        annotations := Function.update podTmpl.annotations configMapsChecksumAnnotationKey checksum }

/-! ## States of the cluster -/

abbrev ConfigMaps := String → Option ConfigMap

def ConfigMaps.get (s : ConfigMaps) (name : String) : Except GetError ConfigMap :=
  (s name).elim (.error .notFound) .ok

def ConfigMapContent.Same (a b : ConfigMapContent) : Prop :=
  a.data.entries.Perm b.data.entries ∧ a.binaryData.entries.Perm b.binaryData.entries

def SameContents (podTmpl : ChecksumTemplate) (s s' : ConfigMaps) : Prop :=
  ∀ name ∈ referencedConfigMapNames podTmpl,
    Option.Rel (fun a b => a.Same b.toConfigMapContent)
      ((s name).map ConfigMap.toConfigMapContent) (s' name)

def existing (podTmpl : ChecksumTemplate) (s : ConfigMaps) : List String :=
  sortStrings ((referencedConfigMapNames podTmpl).filter fun name => (s name).isSome)

/-- The names, keys and values of the existing ConfigMaps as one text. -/
def text (podTmpl : ChecksumTemplate) (s : ConfigMaps) : Option Bytes :=
  if existing podTmpl s = [] then none
  else some ((existing podTmpl s).flatMap fun name =>
    bytes name ++ (s name).elim [] fun cm => cm.written)

/-! ## Lengths -/

/-- The lengths of a key and of its value, for each key. -/
def mapLayout {V : Type} (value : V → Bytes) (m : GoMap V) : List (Nat × Nat) :=
  (sortStrings m.keys).map fun k => ((bytes k).length, ((m.lookup k).elim [] value).length)

structure Layout where
  name : Nat
  data : List (Nat × Nat)
  binaryData : List (Nat × Nat)
  deriving DecidableEq

def layoutOf (s : ConfigMaps) (name : String) : Layout where
  name := (bytes name).length
  data := (s name).elim [] fun cm => mapLayout bytes cm.data
  binaryData := (s name).elim [] fun cm => mapLayout id cm.binaryData

/-- The lengths of the names, keys and values of the existing ConfigMaps. -/
def layout (podTmpl : ChecksumTemplate) (s : ConfigMaps) : List Layout :=
  (existing podTmpl s).map (layoutOf s)

def Layout.written (l : Layout) : Nat := ((l.data ++ l.binaryData).map fun p => p.1 + p.2).sum

def size (podTmpl : ChecksumTemplate) (s : ConfigMaps) : Nat :=
  ((layout podTmpl s).map fun l => l.name + l.written).sum

/-- Names, keys and values that are not all as long as in the other state have another length
in total. -/
def Framed (podTmpl : ChecksumTemplate) (s s' : ConfigMaps) : Prop :=
  layout podTmpl s = layout podTmpl s' ∨ size podTmpl s ≠ size podTmpl s'

instance (podTmpl : ChecksumTemplate) (s s' : ConfigMaps) : Decidable (Framed podTmpl s s') :=
  inferInstanceAs (Decidable (_ ∨ _))

/-! ## What is written -/

section
variable {V : Type} {m m' : GoMap V} {names : List String} {s s' : ConfigMaps}
  {podTmpl : ChecksumTemplate} {a b : ConfigMapContent}

theorem writeSortedMap_perm (value : V → Bytes) (h : m.entries.Perm m'.entries) :
    writeSortedMap value m = writeSortedMap value m' := by
  have hkeys : sortStrings m.keys = sortStrings m'.keys := sortStrings_of_perm (h.map Sigma.fst)
  have hlookup : ∀ k, m.lookup k = m'.lookup k := fun k => AList.perm_lookup h
  simp only [writeSortedMap, hkeys, hlookup]

theorem ConfigMapContent.Same.written (h : a.Same b) : a.written = b.written := by
  simp only [ConfigMapContent.written, writeSortedMap_perm bytes h.1, writeSortedMap_perm id h.2]

theorem hashConfigMapContents_perm {m m' : GoMap ConfigMapContent} (h : m.entries.Perm m'.entries) :
    hashConfigMapContents hash m = hashConfigMapContents hash m' :=
  congrArg hash (writeSortedMap_perm ConfigMapContent.written h)

theorem addContent_get (s : ConfigMaps) (contents : GoMap ConfigMapContent) (name : String) :
    ∃ contents', addContent s.get contents name = .ok contents' ∧
      ∀ k, contents'.lookup k = if k = name ∧ (s name).isSome
        then (s name).map ConfigMap.toConfigMapContent else contents.lookup k := by
  cases h : s name with
  | none => exact ⟨contents, by simp [addContent, ConfigMaps.get, h], by simp⟩
  | some cm =>
    refine ⟨contents.insert name cm.toConfigMapContent,
      by simp [addContent, ConfigMaps.get, h], fun k => ?_⟩
    by_cases hk : k = name
    · subst hk
      simp
    · simp [hk]

theorem collect_get (s : ConfigMaps) (names : List String) (first : GoMap ConfigMapContent) :
    ∃ contents, names.foldlM (addContent s.get) first = .ok contents ∧ ∀ k, contents.lookup k =
      if k ∈ names ∧ (s k).isSome then (s k).map ConfigMap.toConfigMapContent
      else first.lookup k := by
  induction names generalizing first with
  | nil => exact ⟨first, rfl, by simp⟩
  | cons name names ih =>
    obtain ⟨next, hnext, hfirst⟩ := addContent_get s first name
    obtain ⟨contents, hcontents, hlookup⟩ := ih next
    refine ⟨contents, by rw [List.foldlM_cons, hnext]; exact hcontents, fun k => ?_⟩
    rw [hlookup, hfirst]
    -- A name that comes again was looked up in the same state.
    by_cases hk : k = name
    · subst hk
      cases s k <;> simp
    · simp [hk]

theorem keys_eq_existing {contents : GoMap ConfigMapContent}
    (h : ∀ k, contents.lookup k = if k ∈ referencedConfigMapNames podTmpl ∧ (s k).isSome
      then (s k).map ConfigMap.toConfigMapContent else none) :
    sortStrings contents.keys = existing podTmpl s := by
  refine sortStrings_of_perm ?_
  have hnodup : (referencedConfigMapNames podTmpl).Nodup := FirstSeen.nodup_collect List.nodup_nil
  refine (List.perm_ext_iff_of_nodup contents.nodupKeys (hnodup.filter _)).mpr fun k => ?_
  have hk : k ∈ contents.entries.keys ↔ (contents.lookup k).isSome := by
    rw [AList.lookup_isSome]
    rfl
  rw [hk, h, List.mem_filter]
  split_ifs with hmem <;> simp_all

theorem writtenChecksum_eq (iteration : Iteration) (podTmpl : ChecksumTemplate) (s : ConfigMaps) :
    writtenChecksum hash iteration s.get podTmpl = .ok ((text podTmpl s).map hash) := by
  obtain ⟨contents, hcontents, hlookup⟩ := collect_get s (referencedConfigMapNames podTmpl) ∅
  have hkeys := keys_eq_existing hlookup
  have hnil : contents.keys = [] ↔ existing podTmpl s = [] := by
    rw [← hkeys, sortStrings_eq_nil]
  unfold writtenChecksum text
  rw [hcontents]
  by_cases hnone : existing podTmpl s = []
  · simp [hnone, hnil]
  · have hnames : referencedConfigMapNames podTmpl ≠ [] := by
      intro h
      simp [existing, h, Dependencies.sortStrings] at hnone
    have hstream : (existing podTmpl s).flatMap (fun name =>
          bytes name ++ (contents.lookup name).elim [] ConfigMapContent.written) =
        (existing podTmpl s).flatMap fun name =>
          bytes name ++ (s name).elim [] fun cm => cm.written := by
      refine List.flatMap_congr fun name hname => ?_
      rw [hlookup, if_pos (List.mem_filter.mp (mem_sortStrings.mp hname))]
      cases s name <;> rfl
    simp only [hnames, hnil, hnone, if_false, Option.map_some]
    rw [hashConfigMapContents_perm hash (iteration.perm contents), hashConfigMapContents, hkeys,
      hstream]

theorem SameContents.text (h : SameContents podTmpl s s') :
    Checksum.text podTmpl s = Checksum.text podTmpl s' := by
  have hexisting : existing podTmpl s = existing podTmpl s' := by
    refine congrArg sortStrings (List.filter_congr fun name hname => ?_)
    have := h name hname
    cases hs : s name <;> cases hs' : s' name <;> simp [hs, hs'] at this ⊢
  unfold Checksum.text
  rw [← hexisting]
  split_ifs
  · rfl
  · refine congrArg some (List.flatMap_congr fun name hname => ?_)
    have hmem := (List.mem_filter.mp (mem_sortStrings.mp hname)).1
    have hsame := h name hmem
    cases hs : s name <;> cases hs' : s' name <;> simp [hs, hs'] at hsame ⊢
    exact hsame.written

end

/-! ## What can be read back -/

theorem bytes_injective : Function.Injective bytes := by
  intro s t h
  have heq : (String.ofList s.toList).toByteArray = (String.ofList t.toList).toByteArray := by
    rw [String.toByteArray_ofList, String.toByteArray_ofList]
    exact congrArg List.toByteArray h
  simpa using String.toByteArray_inj.mp heq

/-- Pieces of known lengths can be read back. -/
theorem pieces_eq {f f' : String → Bytes} {ks ks' : List String}
    (hlengths : ks.map (fun k => ((bytes k).length, (f k).length)) =
      ks'.map fun k => ((bytes k).length, (f' k).length))
    (h : ks.flatMap (fun k => bytes k ++ f k) = ks'.flatMap fun k => bytes k ++ f' k) :
    ks = ks' ∧ ∀ k ∈ ks, f k = f' k := by
  induction ks generalizing ks' with
  | nil =>
    cases ks' with
    | nil => exact ⟨rfl, nofun⟩
    | cons => cases hlengths
  | cons k ks ih =>
    cases ks' with
    | nil => cases hlengths
    | cons k' ks' =>
      simp only [List.map_cons, List.cons.injEq, Prod.mk.injEq] at hlengths
      obtain ⟨⟨hkey, hvalue⟩, hrest⟩ := hlengths
      simp only [List.flatMap_cons, List.append_assoc] at h
      obtain ⟨hk, h⟩ := List.append_inj h hkey
      obtain ⟨hf, h⟩ := List.append_inj h hvalue
      obtain ⟨rfl, hall⟩ := ih hrest h
      rw [bytes_injective hk] at hf ⊢
      exact ⟨rfl, List.forall_mem_cons.mpr ⟨hf, hall⟩⟩

section
variable {V : Type} {m m' : GoMap V} {s s' : ConfigMaps} {podTmpl : ChecksumTemplate}
  {a b : ConfigMapContent}

theorem length_writeSortedMap (value : V → Bytes) (m : GoMap V) :
    (writeSortedMap value m).length = ((mapLayout value m).map fun p => p.1 + p.2).sum := by
  simp [writeSortedMap, mapLayout, List.length_flatMap, Function.comp_def]

theorem entries_perm {value : V → Bytes} (hvalue : Function.Injective value)
    (hlengths : mapLayout value m = mapLayout value m')
    (h : writeSortedMap value m = writeSortedMap value m') : m.entries.Perm m'.entries := by
  obtain ⟨hkeys, hvalues⟩ := pieces_eq hlengths h
  have hmem (k : String) : k ∈ m ↔ k ∈ m' := by
    rw [AList.mem_keys, ← mem_sortStrings, hkeys, mem_sortStrings, ← AList.mem_keys]
  have hlookup (k : String) : m.lookup k = m'.lookup k := by
    by_cases hk : k ∈ m
    · obtain ⟨v, hv⟩ := Option.isSome_iff_exists.mp (AList.lookup_isSome.mpr hk)
      obtain ⟨v', hv'⟩ := Option.isSome_iff_exists.mp (AList.lookup_isSome.mpr ((hmem k).mp hk))
      have heq := hvalues k (mem_sortStrings.mpr (AList.mem_keys.mp hk))
      rw [hv, hv'] at heq ⊢
      exact congrArg some (hvalue heq)
    · rw [AList.lookup_eq_none.mpr hk, AList.lookup_eq_none.mpr (mt (hmem k).mpr hk)]
  refine List.lookup_ext m.nodupKeys m'.nodupKeys fun k v => ?_
  change v ∈ m.lookup k ↔ v ∈ m'.lookup k
  rw [hlookup]

theorem same_of_written (hdata : mapLayout bytes a.data = mapLayout bytes b.data)
    (hbinary : mapLayout id a.binaryData = mapLayout id b.binaryData)
    (h : a.written = b.written) : a.Same b := by
  obtain ⟨h, h'⟩ := List.append_inj h (by
    rw [length_writeSortedMap, length_writeSortedMap, hdata])
  exact ⟨entries_perm bytes_injective hdata h, entries_perm Function.injective_id hbinary h'⟩

def contentOf (s : ConfigMaps) (name : String) : Bytes := (s name).elim [] fun cm => cm.written

theorem length_contentOf (s : ConfigMaps) (name : String) :
    (contentOf s name).length = (layoutOf s name).written := by
  unfold contentOf layoutOf Layout.written
  cases s name with
  | none => rfl
  | some cm => simp [ConfigMapContent.written, length_writeSortedMap]

theorem length_text (podTmpl : ChecksumTemplate) (s : ConfigMaps) :
    ((text podTmpl s).getD []).length = size podTmpl s := by
  have hall : ((existing podTmpl s).flatMap fun name => bytes name ++ contentOf s name).length =
      size podTmpl s := by
    simp only [List.length_flatMap, List.length_append, length_contentOf, size, layout, List.map_map]
    rfl
  unfold text
  split_ifs with hnone
  · rw [← hall, hnone]
    rfl
  · exact hall

theorem mem_existing : name ∈ existing podTmpl s ↔
    name ∈ referencedConfigMapNames podTmpl ∧ (s name).isSome := by
  rw [existing, mem_sortStrings, List.mem_filter]

theorem sameContents_of_text (hlayout : layout podTmpl s = layout podTmpl s')
    (h : text podTmpl s = text podTmpl s') : SameContents podTmpl s s' := by
  have htext : (existing podTmpl s).flatMap (fun name => bytes name ++ contentOf s name) =
      (existing podTmpl s').flatMap fun name => bytes name ++ contentOf s' name := by
    unfold text at h
    split_ifs at h with hnone hnone'
    · rw [hnone, hnone']
      rfl
    · exact Option.some.inj h
  have hlengths := congrArg (List.map fun l : Layout => (l.name, l.written)) hlayout
  simp only [layout, List.map_map] at hlengths
  obtain ⟨hnames, hcontents⟩ := pieces_eq (by simp only [length_contentOf]; exact hlengths) htext
  intro name hname
  have hexists : (s name).isSome ↔ (s' name).isSome := by
    have hmem : name ∈ existing podTmpl s ↔ name ∈ existing podTmpl s' := by rw [hnames]
    simpa only [mem_existing, hname, true_and] using hmem
  cases hs : s name with
  | none =>
    rw [hs] at hexists
    rw [Option.not_isSome_iff_eq_none.mp fun h => nomatch hexists.mpr h]
    exact .none
  | some cm =>
    obtain ⟨cm', hs'⟩ := Option.isSome_iff_exists.mp (hexists.mp (by rw [hs]; rfl))
    have hmem : name ∈ existing podTmpl s := mem_existing.mpr ⟨hname, by rw [hs]; rfl⟩
    rw [layout, layout, ← hnames, List.map_inj_left] at hlayout
    have hlayout := hlayout name hmem
    have hcontent := hcontents name hmem
    simp only [layoutOf, contentOf, hs, hs', Option.elim_some, Layout.mk.injEq] at hlayout hcontent
    rw [hs']
    exact .some (same_of_written hlayout.2.1 hlayout.2.2 hcontent)

end

/-- The checksum tells two states of the cluster apart, if they are framed. -/
theorem checksum_same_iff (hinjective : Function.Injective hash) (iteration iteration' : Iteration)
    (podTmpl : ChecksumTemplate) (s s' : ConfigMaps) (hframed : Framed podTmpl s s') :
    writtenChecksum hash iteration s.get podTmpl = writtenChecksum hash iteration' s'.get podTmpl ↔
      SameContents podTmpl s s' := by
  rw [writtenChecksum_eq, writtenChecksum_eq, Except.ok.injEq,
    (Option.map_injective hinjective).eq_iff]
  refine ⟨fun h => ?_, SameContents.text⟩
  rcases hframed with hlayout | hsize
  · exact sameContents_of_text hlayout h
  · exact absurd (by rw [← length_text, ← length_text, h]) hsize

/-! ## Keys and values that run into each other -/

def plainHash (written : Bytes) : String := String.ofList (written.map Char.ofUInt8)

theorem plainHash_injective : Function.Injective plainHash := by
  intro a b h
  refine List.map_injective_iff.mpr ?_ (String.ofList_injective h)
  intro x y hxy
  exact UInt8.toNat_inj.mp (congrArg Char.toNat hxy)

def inOrder : Iteration := ⟨id, fun _ => List.Perm.refl _⟩

def configTemplate : ChecksumTemplate :=
  { volumes := [{ name := "conf", configMap := some "checks" }], annotations := fun _ => none }

def oneKey (key value : String) : ConfigMaps := fun name =>
  if name = "checks" then some
    { data := AList.singleton key value, binaryData := ∅, resourceVersion := "", labels := ∅,
      annotations := ∅ }
  else none

theorem changed_value_changes_checksum :
    Framed configTemplate (oneKey "a" "b") (oneKey "a" "c") ∧
      Framed configTemplate (oneKey "a" "b") (oneKey "a" "bc") ∧
      (writtenChecksum plainHash inOrder (oneKey "a" "b").get configTemplate =
        writtenChecksum plainHash inOrder (oneKey "a" "c").get configTemplate ↔
        SameContents configTemplate (oneKey "a" "b") (oneKey "a" "c")) :=
  ⟨by decide, by decide, checksum_same_iff plainHash plainHash_injective inOrder inOrder
    configTemplate (oneKey "a" "b") (oneKey "a" "c") (by decide)⟩

theorem moved_letter_keeps_checksum : Function.Injective plainHash ∧
      writtenChecksum plainHash inOrder (oneKey "a" "bc").get configTemplate =
        writtenChecksum plainHash inOrder (oneKey "ab" "c").get configTemplate ∧
      ¬ SameContents configTemplate (oneKey "a" "bc") (oneKey "ab" "c") := by
  refine ⟨plainHash_injective, ?_, ?_⟩
  · rw [writtenChecksum_eq, writtenChecksum_eq]
    rfl
  · intro h
    rcases h "checks" (by decide) with ⟨⟨hdata, -⟩⟩
    exact absurd (List.singleton_perm_singleton.mp hdata) (by decide)

end DatadogOperator.Checksum
