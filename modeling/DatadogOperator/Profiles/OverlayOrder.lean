import DatadogOperator.Profiles.Instrumentation

/-!
# The order of overlays

Two profiles that are accepted one after the other give the same shared config in the other
order, up to the order of namespaces and targets, if they are accepted in that order at all.
What may go wrong is the default of the language detection: it is filled in behind the first
profile, and a later profile that turns the detection off is then refused.
-/

namespace DatadogOperator.Profiles

open Settings

/-! ## Specs -/

/-- What an overlay asks of the spec it changes, if the profile has an instrumentation. -/
structure Prerequisites (versions : Versions) (dst profile : Spec)
    (ssi : SingleStepInstrumentation) : Prop where
  apm : (profile.features.bind (·.apm)).bind (·.enabled) ≠ some false
  admissionController : admissionControllerEnabled dst
  clusterAgent : ¬defaultClusterAgentDisabled dst
  targets : ssi.targets ≠ [] → supportsInstrumentationTargets versions dst

def withServicePort (dst base profile : Spec) : Spec :=
  match profileLocalAgentServicePort profile, existingLocalAgentServicePort dst base with
  | some port, none => dst.withAPM fun apm =>
      { apm with hostPortConfig := some { enabled := some true, port := some port } }
  | _, _ => dst

def overlaid (dst base profile : Spec) : Spec :=
  match profileSSIOverlayConfig profile with
  | none => withServicePort dst base profile
  | some ssi => (withServicePort dst base profile).withAPM fun apm =>
      { apm with
        singleStepInstrumentation := some (overlaidSSI (baseSSIForProfileOverlay dst) ssi) }

section
variable {versions : Versions} {base dst profile spec : Spec}
  {f : APMFeatureConfig → APMFeatureConfig} {ssi : SingleStepInstrumentation}

@[simp] theorem withAPM_apm : (spec.withAPM f).features.bind (·.apm) =
    some (f ((spec.features.bind (·.apm)).getD {})) := by
  obtain ⟨_ | features, _, _⟩ := spec <;> rfl

@[simp] theorem withAPM_admissionController :
    admissionControllerEnabled (spec.withAPM f) = admissionControllerEnabled spec := by
  obtain ⟨_ | features, _, _⟩ := spec <;> rfl

@[simp] theorem withAPM_component :
    (spec.withAPM f).component component = spec.component component := rfl

theorem prerequisites_withAPM : Prerequisites versions (spec.withAPM f) profile ssi ↔
      Prerequisites versions spec profile ssi := by
  constructor <;> rintro ⟨hapm, hadmission, hagent, htargets⟩
  · rw [withAPM_admissionController] at hadmission
    exact ⟨hapm, hadmission, hagent, htargets⟩
  · exact ⟨hapm, by rwa [withAPM_admissionController], hagent, htargets⟩

theorem applyProfileLocalAgentServicePort_ok_iff :
    applyProfileLocalAgentServicePort dst base profile = .ok spec ↔
      Agree (existingLocalAgentServicePort dst base) (profileLocalAgentServicePort profile) ∧
        spec = withServicePort dst base profile := by
  unfold applyProfileLocalAgentServicePort withServicePort
  cases profileLocalAgentServicePort profile with
  | none => simp [eq_comm]
  | some port =>
    cases existingLocalAgentServicePort dst base with
    | none => simp [eq_comm]
    | some existing => by_cases h : existing = port <;> simp [h, eq_comm]

theorem withServicePort_cases (dst base profile : Spec) : withServicePort dst base profile = dst ∨
    ∃ port, withServicePort dst base profile = dst.withAPM fun apm =>
      { apm with hostPortConfig := some { enabled := some true, port := some port } } := by
  unfold withServicePort
  split
  · exact .inr ⟨_, rfl⟩
  · exact .inl rfl

@[simp] theorem baseSSI_withServicePort :
    baseSSIForProfileOverlay (withServicePort dst base profile) = baseSSIForProfileOverlay dst := by
  rcases withServicePort_cases dst base profile with h | ⟨port, h⟩
  · rw [h]
  · rw [h, baseSSIForProfileOverlay, baseSSIForProfileOverlay, withAPM_apm]
    cases dst.features.bind (·.apm) <;> rfl

theorem prerequisites_withServicePort :
    Prerequisites versions (withServicePort dst base p) profile ssi ↔
      Prerequisites versions dst profile ssi := by
  rcases withServicePort_cases dst base p with h | ⟨port, h⟩
  · rw [h]
  · rw [h, prerequisites_withAPM]

theorem validate_ok_iff : validateSSISharedComponentPrerequisites dst = .ok () ↔
    admissionControllerEnabled dst ∧ ¬defaultClusterAgentDisabled dst := by
  unfold validateSSISharedComponentPrerequisites
  split_ifs <;> simp_all

theorem overlay_ok_iff : applyAPMProfileSharedConfigOverlay versions dst base profile = .ok spec ↔
      Agree (existingLocalAgentServicePort dst base) (profileLocalAgentServicePort profile) ∧
      (∀ ssi ∈ profileSSIOverlayConfig profile, Prerequisites versions dst profile ssi ∧
        Mergeable (baseSSIForProfileOverlay dst) ssi) ∧
      spec = overlaid dst base profile := by
  rw [applyAPMProfileSharedConfigOverlay, overlaid]
  constructor
  · intro h
    obtain ⟨dst', hdst', h⟩ := Checked.bind_ok h
    obtain ⟨hport, rfl⟩ := applyProfileLocalAgentServicePort_ok_iff.mp hdst'
    refine ⟨hport, ?_⟩
    cases hssi : profileSSIOverlayConfig profile with
    | none =>
      rw [hssi] at h
      exact ⟨(by rintro _ ⟨⟩), (Except.ok.inj h).symm⟩
    | some ssi =>
      rw [hssi] at h
      dsimp only at h
      by_cases hapm : (profile.features.bind (·.apm)).bind (·.enabled) = some false
      · rw [if_pos hapm] at h
        cases h
      rw [if_neg hapm] at h
      obtain ⟨_, hvalid, h⟩ := Checked.bind_ok h
      by_cases htargets : ssi.targets ≠ [] ∧
          supportsInstrumentationTargets versions (withServicePort dst base profile) = false
      · rw [if_pos htargets] at h
        cases h
      rw [if_neg htargets] at h
      obtain ⟨merged, hmerged, h⟩ := Checked.bind_ok h
      rw [baseSSI_withServicePort] at hmerged
      obtain ⟨hmergeable, rfl⟩ := mergeSSI_ok_iff.mp hmerged
      have hvalid' := validate_ok_iff.mp hvalid
      have htargets' : ssi.targets ≠ [] →
          supportsInstrumentationTargets versions (withServicePort dst base profile) := by
        intro hne
        by_contra hold
        exact htargets ⟨hne, by simpa using hold⟩
      have hpre : Prerequisites versions (withServicePort dst base profile) profile ssi :=
        ⟨hapm, hvalid'.1, hvalid'.2, htargets'⟩
      refine ⟨?_, (Except.ok.inj h).symm⟩
      rintro _ ⟨⟩
      exact ⟨prerequisites_withServicePort.mp hpre, hmergeable⟩
  · rintro ⟨hport, hssi', rfl⟩
    rw [applyProfileLocalAgentServicePort_ok_iff.mpr ⟨hport, rfl⟩]
    cases hssi : profileSSIOverlayConfig profile with
    | none => rfl
    | some ssi =>
      obtain ⟨hpre, hmergeable⟩ := hssi' ssi hssi
      have hpre' : Prerequisites versions (withServicePort dst base profile) profile ssi :=
        prerequisites_withServicePort.mpr hpre
      have htargets : ¬(ssi.targets ≠ [] ∧
          supportsInstrumentationTargets versions (withServicePort dst base profile) = false) := by
        rintro ⟨hne, hold⟩
        rw [hpre'.targets hne] at hold
        cases hold
      have hvalid := validate_ok_iff.mpr ⟨hpre'.admissionController, hpre'.clusterAgent⟩
      have hmerged := mergeSSI_ok_iff.mpr ⟨hmergeable, rfl⟩
      simp only [bind, Except.bind, hpre'.apm, if_false, hvalid, htargets, baseSSI_withServicePort,
        hmerged]
      rfl

end

/-! ## What overlays change -/

def Spec.ssi (spec : Spec) : Option SingleStepInstrumentation :=
  (spec.features.bind (·.apm)).bind (·.singleStepInstrumentation)

def Spec.hostPort (spec : Spec) : Option HostPortConfig :=
  (spec.features.bind (·.apm)).bind (·.hostPortConfig)

/-- The two other fields of the APM config that turn it on. -/
def Spec.apmSwitches (spec : Spec) : Option Bool × Option (Option Bool) :=
  ((spec.features.bind (·.apm)).bind (·.enabled),
    (spec.features.bind (·.apm)).bind (·.errorTrackingStandalone))

section
variable {versions : Versions} {base dst profile spec spec' : Spec}
  {ssi : SingleStepInstrumentation}

theorem overlaid_apmSwitches : (overlaid dst base profile).apmSwitches = dst.apmSwitches := by
  have hport : (withServicePort dst base profile).apmSwitches = dst.apmSwitches := by
    rcases withServicePort_cases dst base profile with h | ⟨port, h⟩
    · rw [h]
    · rw [h, Spec.apmSwitches, Spec.apmSwitches, withAPM_apm]
      cases dst.features.bind (·.apm) <;> rfl
  rw [← hport, overlaid]
  split
  · rfl
  · rw [Spec.apmSwitches, Spec.apmSwitches, withAPM_apm]
    cases (withServicePort dst base profile).features.bind (·.apm) <;> rfl

theorem overlaid_hostPort : (overlaid dst base profile).hostPort =
    (withServicePort dst base profile).hostPort := by
  rw [overlaid]
  split
  · rfl
  · rw [Spec.hostPort, Spec.hostPort, withAPM_apm]
    cases (withServicePort dst base profile).features.bind (·.apm) <;> rfl

theorem overlaid_ssi : (overlaid dst base profile).ssi = ((profileSSIOverlayConfig profile).map
      (overlaidSSI (baseSSIForProfileOverlay dst))).or dst.ssi := by
  rw [overlaid]
  split
  · next hnone =>
    rw [hnone]
    rcases withServicePort_cases dst base profile with h | ⟨port, h⟩
    · rw [h]
      rfl
    · rw [h, Spec.ssi, Spec.ssi, withAPM_apm]
      cases dst.features.bind (·.apm) <;> rfl
  · next ssi hsome =>
    rw [hsome, Spec.ssi, withAPM_apm]
    rfl

theorem baseSSIForProfileOverlay_eq : baseSSIForProfileOverlay spec =
    (spec.ssi.filter fun ssi => ssi.enabled.getD false).getD {} := by
  rw [baseSSIForProfileOverlay, Spec.ssi]
  cases (spec.features.bind (·.apm)).bind (·.singleStepInstrumentation) with
  | none => rfl
  | some ssi => by_cases h : ssi.enabled.getD false <;> simp [Option.filter, h]

theorem baseSSI_overlaid_none (h : profileSSIOverlayConfig profile = none) :
    baseSSIForProfileOverlay (overlaid dst base profile) = baseSSIForProfileOverlay dst := by
  rw [baseSSIForProfileOverlay_eq, overlaid_ssi, h, baseSSIForProfileOverlay_eq]
  rfl

theorem baseSSI_overlaid_some (h : profileSSIOverlayConfig profile = some ssi) :
    baseSSIForProfileOverlay (overlaid dst base profile) =
      overlaidSSI (baseSSIForProfileOverlay dst) ssi := by
  rw [baseSSIForProfileOverlay_eq, overlaid_ssi, h]
  simp [Option.filter]

theorem prerequisites_overlaid : Prerequisites versions (overlaid dst base p) profile ssi ↔
      Prerequisites versions dst profile ssi := by
  rw [overlaid]
  split
  · exact prerequisites_withServicePort
  · rw [prerequisites_withAPM, prerequisites_withServicePort]

theorem existing_eq : existingLocalAgentServicePort dst base =
    (profileLocalAgentServicePort base).or
      (dst.hostPort.bind fun hostPort => if hostPort.enabled.getD false then hostPort.port else none)
    := by
  rw [existingLocalAgentServicePort, Spec.hostPort]
  cases profileLocalAgentServicePort base with
  | some port => rfl
  | none =>
    cases (dst.features.bind (·.apm)).bind (·.hostPortConfig) <;> rfl

theorem existing_overlaid : existingLocalAgentServicePort (overlaid dst base profile) base =
    (existingLocalAgentServicePort dst base).or (profileLocalAgentServicePort profile) := by
  rw [existing_eq, overlaid_hostPort, ← existing_eq, withServicePort]
  cases hexisting : existingLocalAgentServicePort dst base with
  | some port =>
    cases profileLocalAgentServicePort profile <;> simp [hexisting]
  | none =>
    cases hport : profileLocalAgentServicePort profile with
    | none => simp [hexisting]
    | some port =>
      rw [existing_eq, Option.or_eq_none_iff] at hexisting
      rw [existing_eq, hexisting.1, Spec.hostPort, withAPM_apm]
      rfl

theorem withServicePort_hostPort : (withServicePort dst base profile).hostPort =
    if existingLocalAgentServicePort dst base = none then
      ((profileLocalAgentServicePort profile).map fun port =>
        { enabled := some true, port := some port }).or dst.hostPort
    else dst.hostPort := by
  rw [withServicePort]
  cases existingLocalAgentServicePort dst base with
  | some port => cases profileLocalAgentServicePort profile <;> rfl
  | none =>
    cases profileLocalAgentServicePort profile with
    | none => rfl
    | some port =>
      rw [Spec.hostPort, withAPM_apm]
      rfl

theorem shouldEnableAPM_some : shouldEnableAPM (some apm) =
    apm.enabled.getD (apm.singleStepInstrumentation.any (fun ssi => ssi.enabled.getD false) ||
      (apm.errorTrackingStandalone.map (·.getD false)).getD false) := by
  rw [shouldEnableAPM]
  cases apm.enabled with
  | some enabled => rfl
  | none =>
    dsimp only [Option.getD_none]
    split_ifs with h
    · rw [h, Bool.true_or]
    · rw [Bool.not_eq_true] at h
      rw [h, Bool.false_or]

theorem servicePort_eq : profileLocalAgentServicePort spec =
    if spec.apmSwitches.1.getD (spec.ssi.any (fun ssi => ssi.enabled.getD false) ||
        (spec.apmSwitches.2.map (·.getD false)).getD false) = false then none
    else some ((spec.hostPort.map fun hostPort =>
      if hostPort.enabled.getD false then hostPort.port.getD defaultApmPort
      else defaultApmPort).getD defaultApmPort) := by
  rw [profileLocalAgentServicePort, Spec.apmSwitches, Spec.ssi, Spec.hostPort]
  cases spec.features.bind (·.apm) with
  | none => rfl
  | some apm =>
    simp only [shouldEnableAPM_some, Option.bind_some]
    split_ifs
    · rfl
    · cases apm.hostPortConfig with
      | none => rfl
      | some hostPort => by_cases h : hostPort.enabled.getD false <;> simp [h]

theorem servicePort_congr (hswitches : spec.apmSwitches = spec'.apmSwitches)
    (hssi : spec.ssi.any (fun ssi => ssi.enabled.getD false) =
      spec'.ssi.any fun ssi => ssi.enabled.getD false)
    (hport : spec.hostPort = spec'.hostPort) :
    profileLocalAgentServicePort spec = profileLocalAgentServicePort spec' := by
  rw [servicePort_eq, servicePort_eq, hswitches, hssi, hport]

end

/-- Specs whose shared APM config differs in the order of namespaces and targets only. -/
structure Spec.SameShared (a b : Spec) : Prop where
  ssi : Option.Rel SingleStepInstrumentation.Same a.ssi b.ssi
  hostPort : a.hostPort = b.hostPort
  servicePort : profileLocalAgentServicePort a = profileLocalAgentServicePort b

/-- What a default spec and two profiles say goes together. -/
structure Compatible (versions : Versions) (d p q : Spec) : Prop where
  port_left : Agree (existingLocalAgentServicePort d d) (profileLocalAgentServicePort p)
  port_right : Agree (existingLocalAgentServicePort d d) (profileLocalAgentServicePort q)
  ports : Agree (profileLocalAgentServicePort p) (profileLocalAgentServicePort q)
  left : ∀ ssi ∈ profileSSIOverlayConfig p,
    Prerequisites versions d p ssi ∧ Mergeable (baseSSIForProfileOverlay d) ssi
  right : ∀ ssi ∈ profileSSIOverlayConfig q,
    Prerequisites versions d q ssi ∧ Mergeable (baseSSIForProfileOverlay d) ssi
  both : ∀ ssi ∈ profileSSIOverlayConfig p, ∀ ssi' ∈ profileSSIOverlayConfig q,
    Mergeable ssi ssi'

/-- Only the second profile says something about the language detection: it is off. -/
def TurnedOffLater (d p q : Spec) : Prop :=
  LanguageDetectionConfig.setting (baseSSIForProfileOverlay d).languageDetection = none ∧
    ∃ ssi ∈ profileSSIOverlayConfig p, ∃ ssi' ∈ profileSSIOverlayConfig q,
      LanguageDetectionConfig.setting ssi.languageDetection = none ∧
        LanguageDetectionConfig.setting ssi'.languageDetection = some false

section
variable {versions : Versions} {d p q : Spec}

theorem Compatible.symm (h : Compatible versions d p q) : Compatible versions d q p where
  port_left := h.port_right
  port_right := h.port_left
  ports := h.ports.symm
  left := h.right
  right := h.left
  both ssi hssi ssi' hssi' := (h.both ssi' hssi' ssi hssi).symm

theorem accepted_iff : (∃ x y, applyAPMProfileSharedConfigOverlay versions d d p = .ok x ∧
      applyAPMProfileSharedConfigOverlay versions x d q = .ok y) ↔
      Compatible versions d p q ∧ ¬TurnedOffLater d p q := by
  constructor
  · rintro ⟨x, y, hx, hy⟩
    obtain ⟨hport, hssi, rfl⟩ := overlay_ok_iff.mp hx
    obtain ⟨hport', hssi', rfl⟩ := overlay_ok_iff.mp hy
    rw [existing_overlaid, or_comm_of_agree hport, agree_or_iff hport] at hport'
    have hright : ∀ ssi' ∈ profileSSIOverlayConfig q, Prerequisites versions d q ssi' ∧
        Mergeable (baseSSIForProfileOverlay (overlaid d d p)) ssi' := fun ssi' hq =>
      (hssi' ssi' hq).imp prerequisites_overlaid.mp id
    cases hp : profileSSIOverlayConfig p with
    | none =>
      rw [baseSSI_overlaid_none hp] at hright
      refine ⟨⟨hport, hport'.1, hport'.2, hssi, hright, ?_⟩, ?_⟩
      · rw [hp]
        exact nofun
      · rintro ⟨-, ssi, hssi, -⟩
        rw [hp] at hssi
        cases hssi
    | some ssi =>
      rw [baseSSI_overlaid_some hp] at hright
      have hmergeable := (hssi ssi hp).2
      have hpairs := fun ssi' hq => (mergeable_overlaidSSI_iff hmergeable).mp (hright ssi' hq).2
      refine ⟨⟨hport, hport'.1, hport'.2, hssi,
        fun ssi' hq => ⟨(hright ssi' hq).1, (hpairs ssi' hq).1⟩, ?_⟩, ?_⟩
      · rw [hp]
        rintro _ ⟨⟩ ssi' hq
        exact (hpairs ssi' hq).2.1
      · rintro ⟨hbase, ssi₁, hssi₁, ssi', hq, hnone, hoff⟩
        obtain rfl : ssi = ssi₁ := Option.some.inj (hp.symm.trans hssi₁)
        exact (hpairs ssi' hq).2.2 ⟨hbase, hnone, hoff⟩
  · rintro ⟨h, hlater⟩
    have hport : Agree ((existingLocalAgentServicePort d d).or (profileLocalAgentServicePort p))
        (profileLocalAgentServicePort q) := by
      rw [or_comm_of_agree h.port_left, agree_or_iff h.port_left]
      exact ⟨h.port_right, h.ports⟩
    refine ⟨overlaid d d p, overlaid (overlaid d d p) d q,
      overlay_ok_iff.mpr ⟨h.port_left, h.left, rfl⟩,
      overlay_ok_iff.mpr ⟨by rwa [existing_overlaid], fun ssi' hq => ?_, rfl⟩⟩
    refine ⟨prerequisites_overlaid.mpr (h.right ssi' hq).1, ?_⟩
    cases hp : profileSSIOverlayConfig p with
    | none =>
      rw [baseSSI_overlaid_none hp]
      exact (h.right ssi' hq).2
    | some ssi =>
      rw [baseSSI_overlaid_some hp, mergeable_overlaidSSI_iff (h.left ssi hp).2]
      refine ⟨(h.right ssi' hq).2, h.both ssi hp ssi' hq, ?_⟩
      rintro ⟨hbase, hnone, hoff⟩
      exact hlater ⟨hbase, ssi, hp, ssi', hq, hnone, hoff⟩

theorem SingleStepInstrumentation.Same.refl (ssi : SingleStepInstrumentation) : ssi.Same ssi :=
  ⟨rfl, .refl _, .refl _, rfl, rfl, rfl, rfl, .refl _⟩

theorem ssi_same (h : Compatible versions d p q) :
    Option.Rel SingleStepInstrumentation.Same (overlaid (overlaid d d p) d q).ssi
      (overlaid (overlaid d d q) d p).ssi := by
  have hrefl (o : Option SingleStepInstrumentation) :
      Option.Rel SingleStepInstrumentation.Same o o := by
    cases o with
    | none => exact .none
    | some ssi => exact .some (.refl ssi)
  simp only [overlaid_ssi]
  cases hp : profileSSIOverlayConfig p with
  | none =>
    rw [baseSSI_overlaid_none hp]
    exact hrefl _
  | some ssi =>
    cases hq : profileSSIOverlayConfig q with
    | none =>
      rw [baseSSI_overlaid_none hq]
      exact hrefl _
    | some ssi' =>
      rw [baseSSI_overlaid_some hp, baseSSI_overlaid_some hq]
      exact .some (overlaidSSI_same (h.both ssi hp ssi' hq))

theorem hostPort_same (h : Agree (profileLocalAgentServicePort p) (profileLocalAgentServicePort q)) :
    (overlaid (overlaid d d p) d q).hostPort = (overlaid (overlaid d d q) d p).hostPort := by
  simp only [overlaid_hostPort, withServicePort_hostPort, existing_overlaid, Option.or_eq_none_iff]
  revert h
  cases existingLocalAgentServicePort d d <;> cases profileLocalAgentServicePort p <;>
    cases profileLocalAgentServicePort q <;> simp [eq_comm]

theorem any_enabled_of_same (h : Option.Rel SingleStepInstrumentation.Same a b) :
    a.any (fun ssi => ssi.enabled.getD false) = b.any fun ssi => ssi.enabled.getD false := by
  cases h with
  | none => rfl
  | some hsame => simp [hsame.enabled]

theorem sameShared_of_compatible (h : Compatible versions d p q) :
    (overlaid (overlaid d d p) d q).SameShared (overlaid (overlaid d d q) d p) := by
  have hssi := ssi_same h
  have hport := hostPort_same (d := d) h.ports
  refine ⟨hssi, hport, servicePort_congr ?_ ?_ hport⟩
  · simp only [overlaid_apmSwitches]
  · exact any_enabled_of_same hssi

end

/-- Two profiles that are accepted one after the other are accepted in the other order, with
the same shared config up to the order of namespaces and targets, unless the first turns the
language detection off and nothing else says anything about it. -/
theorem overlay_order_iff (versions : Versions) (d p q : Spec) :
    (∀ x y, applyAPMProfileSharedConfigOverlay versions d d p = .ok x →
      applyAPMProfileSharedConfigOverlay versions x d q = .ok y →
      ∃ x' y', applyAPMProfileSharedConfigOverlay versions d d q = .ok x' ∧
        applyAPMProfileSharedConfigOverlay versions x' d p = .ok y' ∧ y.SameShared y') ↔
      ¬(Compatible versions d p q ∧ TurnedOffLater d q p) := by
  constructor
  · rintro h ⟨hcompatible, hlater⟩
    have hfirst : ¬TurnedOffLater d p q := by
      rintro ⟨-, ssi, hssi, -, -, hnone, -⟩
      obtain ⟨-, -, -, ssi', hssi', -, hoff⟩ := hlater
      rw [Option.some.inj (hssi.symm.trans hssi'), hoff] at hnone
      cases hnone
    obtain ⟨x, y, hx, hy⟩ := accepted_iff.mpr ⟨hcompatible, hfirst⟩
    obtain ⟨x', y', hx', hy', -⟩ := h x y hx hy
    exact (accepted_iff.mp ⟨x', y', hx', hy'⟩).2 hlater
  · intro h x y hx hy
    have hcompatible := (accepted_iff.mp ⟨x, y, hx, hy⟩).1
    have hlater : ¬TurnedOffLater d q p := fun hlater => h ⟨hcompatible, hlater⟩
    obtain ⟨x', y', hx', hy'⟩ := accepted_iff.mpr ⟨hcompatible.symm, hlater⟩
    refine ⟨x', y', hx', hy', ?_⟩
    obtain ⟨-, -, rfl⟩ := overlay_ok_iff.mp hx
    obtain ⟨-, -, rfl⟩ := overlay_ok_iff.mp hy
    obtain ⟨-, -, rfl⟩ := overlay_ok_iff.mp hx'
    obtain ⟨-, -, rfl⟩ := overlay_ok_iff.mp hy'
    exact sameShared_of_compatible hcompatible

/-- A default spec with the admission controller and without an instrumentation. -/
def admissionSpec : Spec :=
  { features := some { admissionController := some (some true) } }

def instrumented (languageDetection : Option LanguageDetectionConfig) : Spec :=
  { features := some
      { apm := some
          { singleStepInstrumentation := some { enabled := some true, languageDetection } } } }

/-- A profile that turns the language detection off is accepted before a profile that does not
mention it, and refused behind it. -/
theorem detection_off_is_refused_later :
    (applyAPMProfileSharedConfigOverlay plainVersions admissionSpec admissionSpec
        (instrumented (some { enabled := some false })) >>= fun x =>
      applyAPMProfileSharedConfigOverlay plainVersions x admissionSpec
        (instrumented none)).toOption.isSome ∧
    (applyAPMProfileSharedConfigOverlay plainVersions admissionSpec admissionSpec
        (instrumented none) >>= fun x =>
      applyAPMProfileSharedConfigOverlay plainVersions x admissionSpec
        (instrumented (some { enabled := some false }))).toOption = none := by
  decide +kernel

end DatadogOperator.Profiles
