import DatadogOperator.Lib.Checked
import DatadogOperator.Lib.Settings
import DatadogOperator.Profiles.Overlay

/-!
# Instrumentations of several sources

What `mergeSSI` accepts and gives, field by field: settings have to agree, sets are joined,
targets follow each other. Sources that go together in pairs can be merged in any order, but
for the default of the language detection, which is filled in behind the first.
-/

namespace DatadogOperator.Profiles

open Settings

/-! ## Fields -/

/-- The empty string stands for a value that is not set. -/
def setting (s : String) : Option String := if s = "" then none else some s

def LanguageDetectionConfig.setting (d : Option LanguageDetectionConfig) : Option Bool :=
  d.bind (·.enabled)

def InjectorConfig.setting (i : Option InjectorConfig) : Option String :=
  Profiles.setting (i.getD {}).imageTag

def joinDetection (dst src : Option LanguageDetectionConfig) : Option LanguageDetectionConfig :=
  if (LanguageDetectionConfig.setting src).isSome then
    some { enabled := LanguageDetectionConfig.setting src }
  else dst

def joinString (dst src : String) : String := if src = "" then dst else src

def joinInjector (dst src : Option InjectorConfig) : Option InjectorConfig :=
  match src with
  | none => dst
  | some src => some { imageTag := joinString (dst.getD {}).imageTag src.imageTag }

section
variable {d s r : String} {conflict : String → String → OverlayError}

theorem mergeStringLikeField_ok_iff : mergeStringLikeField d s conflict = .ok r ↔
    Agree (setting d) (setting s) ∧ r = joinString d s := by
  unfold mergeStringLikeField setting joinString
  split_ifs <;> simp_all [eq_comm]

theorem setting_joinString : setting (joinString d s) = (setting s).or (setting d) := by
  unfold setting joinString
  split_ifs <;> simp_all

end

theorem mergeLanguageDetection_ok_iff :
    mergeLanguageDetection d s = .ok r ↔ Agree (LanguageDetectionConfig.setting d)
      (LanguageDetectionConfig.setting s) ∧ r = joinDetection d s := by
  unfold mergeLanguageDetection joinDetection LanguageDetectionConfig.setting
  cases s.bind (·.enabled) with
  | none => simp [eq_comm]
  | some value =>
    cases d.bind (·.enabled) with
    | none => simp [eq_comm]
    | some existing =>
      by_cases h : existing = value <;> simp [h, eq_comm]

theorem mergeInjector_ok_iff : mergeInjector d s = .ok r ↔
    Agree (InjectorConfig.setting d) (InjectorConfig.setting s) ∧ r = joinInjector d s := by
  cases s with
  | none =>
    have hnone : InjectorConfig.setting none = none := rfl
    rw [hnone, and_iff_right agree_none_right, mergeInjector, joinInjector, Except.ok.injEq]
    exact eq_comm
  | some src =>
    rw [mergeInjector, joinInjector]
    constructor
    · intro h
      obtain ⟨tag, htag, h⟩ := Checked.bind_ok h
      obtain ⟨hagree, rfl⟩ := mergeStringLikeField_ok_iff.mp htag
      exact ⟨hagree, (Except.ok.inj h).symm⟩
    · rintro ⟨hagree, rfl⟩
      have htag : mergeStringLikeField (d.getD {}).imageTag src.imageTag .imageTag =
          .ok (joinString (d.getD {}).imageTag src.imageTag) :=
        mergeStringLikeField_ok_iff.mpr ⟨hagree, rfl⟩
      rw [htag]
      rfl

theorem setting_joinInjector {d s : Option InjectorConfig} :
    InjectorConfig.setting (joinInjector d s) =
      (InjectorConfig.setting s).or (InjectorConfig.setting d) := by
  cases s with
  | none => rfl
  | some src => exact setting_joinString

theorem mergeStringMap_ok_iff : mergeStringMap d s = .ok r ↔
      (∀ key, Agree (d.lookup key) (s.lookup key)) ∧ r = s ∪ d := by
  have hagree : (∀ key ∈ s.keys, ∀ existing ∈ d.lookup key, s.lookup key = some existing) ↔
      ∀ key, Agree (d.lookup key) (s.lookup key) := by
    constructor
    · intro h key existing hd value hs
      have hkey : key ∈ s.keys := Finmap.mem_keys.mpr (Finmap.mem_of_lookup_eq_some hs)
      exact Option.some.inj ((h key hkey existing hd).symm.trans hs)
    · intro h key hkey existing hd
      obtain ⟨value, hs⟩ := Finmap.mem_iff.mp (Finmap.mem_keys.mp hkey)
      rw [hs, h key existing hd value hs]
  rw [mergeStringMap]
  split_ifs with h
  · rw [and_iff_right (hagree.mp h), Except.ok.injEq]
    exact eq_comm
  · exact ⟨nofun, fun h' => absurd (hagree.mpr h'.1) h⟩

theorem lookup_union {d s : Finmap fun _ : String => String} :
    (s ∪ d).lookup key = (s.lookup key).or (d.lookup key) := by
  by_cases h : key ∈ s
  · obtain ⟨value, hvalue⟩ := Finmap.mem_iff.mp h
    rw [Finmap.lookup_union_left h, hvalue]
    rfl
  · rw [Finmap.lookup_union_right h, Finmap.lookup_eq_none.mpr h]
    rfl

/-! ## Namespaces -/

section
variable {d p q s : List String} {x : String}

theorem dedup_spec (l acc : List String) :
    (∀ x, x ∈ l.foldl (fun out value => if out.contains value then out else out ++ [value]) acc ↔
      x ∈ acc ∨ x ∈ l) ∧
    (acc.Nodup →
      (l.foldl (fun out value => if out.contains value then out else out ++ [value]) acc).Nodup) := by
  induction l generalizing acc with
  | nil => simp
  | cons value l ih =>
    rw [List.foldl_cons]
    obtain ⟨hmem, hnodup⟩ := ih (if acc.contains value then acc else acc ++ [value])
    split_ifs at hmem hnodup ⊢ with h
    · have hvalue : value ∈ acc := List.contains_iff_mem.mp h
      refine ⟨fun x => ?_, hnodup⟩
      rw [hmem, List.mem_cons]
      grind
    · have hvalue : value ∉ acc := fun hmem => h (List.contains_iff_mem.mpr hmem)
      refine ⟨fun x => ?_, fun hacc => hnodup ?_⟩
      · rw [hmem, List.mem_append, List.mem_singleton, List.mem_cons, or_assoc]
      · rw [List.nodup_append]
        exact ⟨hacc, List.nodup_singleton value, by grind⟩

theorem mem_appendDeduplicateStrings : x ∈ appendDeduplicateStrings d s ↔ x ∈ d ∨ x ∈ s := by
  rw [appendDeduplicateStrings]
  split_ifs with h
  · rw [List.isEmpty_iff] at h
    simp [h]
  · rw [(dedup_spec (d ++ s) []).1]
    simp

theorem appendDeduplicateStrings_eq_nil : appendDeduplicateStrings d s = [] ↔ d = [] ∧ s = [] := by
  simp [List.eq_nil_iff_forall_not_mem, mem_appendDeduplicateStrings, not_or, forall_and]

theorem nodup_appendDeduplicateStrings (h : s ≠ []) : (appendDeduplicateStrings d s).Nodup := by
  have hne : ¬s.isEmpty := fun hnil => h (List.isEmpty_iff.mp hnil)
  rw [appendDeduplicateStrings, if_neg hne]
  exact (dedup_spec (d ++ s) []).2 List.nodup_nil

theorem appendDeduplicateStrings_perm :
    (appendDeduplicateStrings (appendDeduplicateStrings d p) q).Perm
      (appendDeduplicateStrings (appendDeduplicateStrings d q) p) := by
  by_cases hp : p = []
  · subst hp
    rfl
  · by_cases hq : q = []
    · subst hq
      rfl
    · rw [List.perm_ext_iff_of_nodup (nodup_appendDeduplicateStrings hq)
        (nodup_appendDeduplicateStrings hp)]
      intro x
      simp only [mem_appendDeduplicateStrings]
      tauto

end

/-! ## Instrumentations -/

/-- What the instrumentations of two sources say goes together. -/
structure Mergeable (d s : SingleStepInstrumentation) : Prop where
  namespaces : (d.enabledNamespaces = [] ∧ s.enabledNamespaces = []) ∨
    (d.disabledNamespaces = [] ∧ s.disabledNamespaces = [])
  libVersions : ∀ key, Agree (d.libVersions.lookup key) (s.libVersions.lookup key)
  languageDetection : Agree (LanguageDetectionConfig.setting d.languageDetection)
    (LanguageDetectionConfig.setting s.languageDetection)
  injector : Agree (InjectorConfig.setting d.injector) (InjectorConfig.setting s.injector)
  injectionMode : Agree (setting d.injectionMode) (setting s.injectionMode)

def joined (d s : SingleStepInstrumentation) : SingleStepInstrumentation :=
  { d with
    enabledNamespaces := appendDeduplicateStrings d.enabledNamespaces s.enabledNamespaces
    disabledNamespaces := appendDeduplicateStrings d.disabledNamespaces s.disabledNamespaces
    libVersions := s.libVersions ∪ d.libVersions
    languageDetection := joinDetection d.languageDetection s.languageDetection
    injector := joinInjector d.injector s.injector
    injectionMode := joinString d.injectionMode s.injectionMode
    targets := d.targets ++ s.targets }

/-- What an overlay leaves behind: the default of the language detection is filled in. -/
def overlaidSSI (d s : SingleStepInstrumentation) : SingleStepInstrumentation :=
  defaultLanguageDetection { joined d s with enabled := some true }

/-- Instrumentations that differ in the order of namespaces and targets only. -/
structure SingleStepInstrumentation.Same (a b : SingleStepInstrumentation) : Prop where
  enabled : a.enabled = b.enabled
  enabledNamespaces : a.enabledNamespaces.Perm b.enabledNamespaces
  disabledNamespaces : a.disabledNamespaces.Perm b.disabledNamespaces
  libVersions : a.libVersions = b.libVersions
  languageDetection : a.languageDetection = b.languageDetection
  injector : a.injector = b.injector
  injectionMode : a.injectionMode = b.injectionMode
  targets : a.targets.Perm b.targets

section
variable {b d p q s r : SingleStepInstrumentation}

theorem Mergeable.symm (h : Mergeable d s) : Mergeable s d where
  namespaces := h.namespaces.imp And.symm And.symm
  libVersions key := (h.libVersions key).symm
  languageDetection := h.languageDetection.symm
  injector := h.injector.symm
  injectionMode := h.injectionMode.symm

theorem mergeSSI_ok_iff : mergeSSI d s = .ok r ↔ Mergeable d s ∧ r = joined d s := by
  have hboth : ¬(appendDeduplicateStrings d.enabledNamespaces s.enabledNamespaces ≠ [] ∧
      appendDeduplicateStrings d.disabledNamespaces s.disabledNamespaces ≠ []) ↔
      (d.enabledNamespaces = [] ∧ s.enabledNamespaces = []) ∨
        (d.disabledNamespaces = [] ∧ s.disabledNamespaces = []) := by
    rw [not_and_or, not_not, not_not, appendDeduplicateStrings_eq_nil,
      appendDeduplicateStrings_eq_nil]
  constructor
  · intro h
    rw [mergeSSI] at h
    split_ifs at h with hns
    · cases h
    · obtain ⟨libVersions, hlib, h⟩ := Checked.bind_ok h
      obtain ⟨languageDetection, hdetection, h⟩ := Checked.bind_ok h
      obtain ⟨injector, hinjector, h⟩ := Checked.bind_ok h
      obtain ⟨injectionMode, hmode, h⟩ := Checked.bind_ok h
      obtain ⟨hlib', rfl⟩ := mergeStringMap_ok_iff.mp hlib
      obtain ⟨hdetection', rfl⟩ := mergeLanguageDetection_ok_iff.mp hdetection
      obtain ⟨hinjector', rfl⟩ := mergeInjector_ok_iff.mp hinjector
      obtain ⟨hmode', rfl⟩ := mergeStringLikeField_ok_iff.mp hmode
      exact ⟨⟨hboth.mp hns, hlib', hdetection', hinjector', hmode'⟩, (Except.ok.inj h).symm⟩
  · rintro ⟨h, rfl⟩
    have hlib := mergeStringMap_ok_iff.mpr ⟨h.libVersions, rfl⟩
    have hdetection := mergeLanguageDetection_ok_iff.mpr ⟨h.languageDetection, rfl⟩
    have hinjector := mergeInjector_ok_iff.mpr ⟨h.injector, rfl⟩
    have hmode : mergeInjectionMode d.injectionMode s.injectionMode =
        .ok (joinString d.injectionMode s.injectionMode) :=
      mergeStringLikeField_ok_iff.mpr ⟨h.injectionMode, rfl⟩
    rw [mergeSSI, if_neg (hboth.mpr h.namespaces), hlib, hdetection, hinjector, hmode]
    rfl

theorem detection_overlaidSSI : (overlaidSSI d s).languageDetection = some ⟨some
      (((LanguageDetectionConfig.setting s.languageDetection).or
        (LanguageDetectionConfig.setting d.languageDetection)).getD true)⟩ := by
  obtain ⟨_, _, _, _, detection, _, _, _⟩ := d
  obtain ⟨_, _, _, _, detection', _, _, _⟩ := s
  rcases detection' with _ | ⟨_ | value⟩ <;> rcases detection with _ | ⟨_ | value'⟩ <;> rfl

theorem overlaidSSI_eq : overlaidSSI d s = { joined d s with
      enabled := some true
      languageDetection := (overlaidSSI d s).languageDetection } := by
  unfold overlaidSSI defaultLanguageDetection
  split <;> rfl

@[simp] theorem overlaidSSI_enabled : (overlaidSSI d s).enabled = some true := by
  rw [overlaidSSI_eq]

@[simp] theorem overlaidSSI_enabledNamespaces : (overlaidSSI d s).enabledNamespaces =
    appendDeduplicateStrings d.enabledNamespaces s.enabledNamespaces := by
  rw [overlaidSSI_eq, joined]

@[simp] theorem overlaidSSI_disabledNamespaces : (overlaidSSI d s).disabledNamespaces =
    appendDeduplicateStrings d.disabledNamespaces s.disabledNamespaces := by
  rw [overlaidSSI_eq, joined]

@[simp] theorem overlaidSSI_libVersions :
    (overlaidSSI d s).libVersions = s.libVersions ∪ d.libVersions := by
  rw [overlaidSSI_eq, joined]

@[simp] theorem overlaidSSI_injector :
    (overlaidSSI d s).injector = joinInjector d.injector s.injector := by
  rw [overlaidSSI_eq, joined]

@[simp] theorem overlaidSSI_injectionMode :
    (overlaidSSI d s).injectionMode = joinString d.injectionMode s.injectionMode := by
  rw [overlaidSSI_eq, joined]

@[simp] theorem overlaidSSI_targets : (overlaidSSI d s).targets = d.targets ++ s.targets := by
  rw [overlaidSSI_eq, joined]

theorem agree_default_iff {b p q : Option Bool} (h : Agree b p) :
    Agree (some ((p.or b).getD true)) q ↔
      Agree b q ∧ Agree p q ∧ ¬(b = none ∧ p = none ∧ q = some false) := by
  rcases b with _ | b <;> rcases p with _ | p <;> rcases q with _ | q <;> simp_all [eq_comm]

theorem one_kind_of_pairs {e₁ e₂ e₃ d₁ d₂ d₃ : Prop} (h₁₂ : e₁ ∧ e₂ ∨ d₁ ∧ d₂)
    (h₁₃ : e₁ ∧ e₃ ∨ d₁ ∧ d₃) (h₂₃ : e₂ ∧ e₃ ∨ d₂ ∧ d₃) :
    (e₁ ∧ e₂) ∧ e₃ ∨ (d₁ ∧ d₂) ∧ d₃ := by
  tauto

theorem mergeable_overlaidSSI_iff (h : Mergeable b p) : Mergeable (overlaidSSI b p) q ↔
    Mergeable b q ∧ Mergeable p q ∧ ¬(LanguageDetectionConfig.setting b.languageDetection = none ∧
        LanguageDetectionConfig.setting p.languageDetection = none ∧
        LanguageDetectionConfig.setting q.languageDetection = some false) := by
  have hdetection := agree_default_iff h.languageDetection
    (q := LanguageDetectionConfig.setting q.languageDetection)
  constructor
  · rintro ⟨hns, hlib, hd, hinjector, hmode⟩
    simp only [overlaidSSI_enabledNamespaces, overlaidSSI_disabledNamespaces,
      appendDeduplicateStrings_eq_nil] at hns
    simp only [overlaidSSI_libVersions, lookup_union, agree_or_iff (h.libVersions _)] at hlib
    simp only [overlaidSSI_injector, setting_joinInjector, agree_or_iff h.injector] at hinjector
    simp only [overlaidSSI_injectionMode, setting_joinString, agree_or_iff h.injectionMode] at hmode
    rw [detection_overlaidSSI] at hd
    obtain ⟨hbq, hpq, hdefault⟩ := hdetection.mp hd
    refine ⟨⟨?_, fun key => (hlib key).1, hbq, hinjector.1, hmode.1⟩,
      ⟨?_, fun key => (hlib key).2, hpq, hinjector.2, hmode.2⟩, hdefault⟩
    · exact hns.imp (fun h => ⟨h.1.1, h.2⟩) fun h => ⟨h.1.1, h.2⟩
    · exact hns.imp (fun h => ⟨h.1.2, h.2⟩) fun h => ⟨h.1.2, h.2⟩
  · rintro ⟨hbq, hpq, hdefault⟩
    constructor
    · simp only [overlaidSSI_enabledNamespaces, overlaidSSI_disabledNamespaces,
        appendDeduplicateStrings_eq_nil]
      exact one_kind_of_pairs h.namespaces hbq.namespaces hpq.namespaces
    · intro key
      rw [overlaidSSI_libVersions, lookup_union, agree_or_iff (h.libVersions key)]
      exact ⟨hbq.libVersions key, hpq.libVersions key⟩
    · rw [detection_overlaidSSI]
      exact hdetection.mpr ⟨hbq.languageDetection, hpq.languageDetection, hdefault⟩
    · rw [overlaidSSI_injector, setting_joinInjector, agree_or_iff h.injector]
      exact ⟨hbq.injector, hpq.injector⟩
    · rw [overlaidSSI_injectionMode, setting_joinString, agree_or_iff h.injectionMode]
      exact ⟨hbq.injectionMode, hpq.injectionMode⟩

theorem joinString_right_comm {d p q : String} (h : Agree (setting p) (setting q)) :
    joinString (joinString d p) q = joinString (joinString d q) p := by
  unfold joinString setting at *
  split_ifs at * <;> simp_all

theorem joinInjector_right_comm {d p q : Option InjectorConfig}
    (h : Agree (InjectorConfig.setting p) (InjectorConfig.setting q)) :
    joinInjector (joinInjector d p) q = joinInjector (joinInjector d q) p := by
  cases p with
  | none => rfl
  | some p =>
    cases q with
    | none => rfl
    | some q =>
      have htag : joinString (joinString (d.getD {}).imageTag p.imageTag) q.imageTag =
          joinString (joinString (d.getD {}).imageTag q.imageTag) p.imageTag :=
        joinString_right_comm h
      simp only [joinInjector, Option.getD_some, htag]

theorem union_right_comm {d p q : Finmap fun _ : String => String}
    (h : ∀ key, Agree (p.lookup key) (q.lookup key)) : q ∪ (p ∪ d) = p ∪ (q ∪ d) := by
  refine Finmap.ext_lookup fun key => ?_
  simp only [lookup_union]
  exact or_right_comm_of_agree (h key)

theorem default_right_comm {b p q : Option Bool} (h : Agree p q) :
    (q.or (some ((p.or b).getD true))).getD true =
      (p.or (some ((q.or b).getD true))).getD true := by
  cases p <;> cases q <;> simp_all

theorem overlaidSSI_same (h : Mergeable p q) :
    (overlaidSSI (overlaidSSI b p) q).Same (overlaidSSI (overlaidSSI b q) p) where
  enabled := by simp
  enabledNamespaces := by
    simp only [overlaidSSI_enabledNamespaces]
    exact appendDeduplicateStrings_perm
  disabledNamespaces := by
    simp only [overlaidSSI_disabledNamespaces]
    exact appendDeduplicateStrings_perm
  libVersions := by
    simp only [overlaidSSI_libVersions]
    exact union_right_comm h.libVersions
  languageDetection := by
    simp only [detection_overlaidSSI]
    exact congrArg (fun value => some (⟨some value⟩ : LanguageDetectionConfig))
      (default_right_comm h.languageDetection)
  injector := by
    simp only [overlaidSSI_injector]
    exact joinInjector_right_comm h.injector
  injectionMode := by
    simp only [overlaidSSI_injectionMode]
    exact joinString_right_comm h.injectionMode
  targets := by
    simp only [overlaidSSI_targets, List.append_assoc]
    exact List.perm_append_comm.append_left _

end

end DatadogOperator.Profiles
