import DatadogOperator.Profiles.Internals
import DatadogOperator.Snapshot

/-!
# The cluster provider

`resolveClusterProvider` of `datadogagent/reconcile.go` takes the provider from
the user's annotation, from the detector, or from the status an earlier
reconcile has left. Whether the status may be used again is told by the reason
of its `ClusterProviderDetected` condition. The detector of `pkg/introspection`
may give any answers.
-/

namespace DatadogOperator.ClusterProvider

open Profiles

/-! ## Resolving the provider -/

/-- What `%q` prints, which `strconv.Unquote` reads back. -/
structure Quoting where
  quote : String → String
  injective : Function.Injective quote

inductive Source
  | user
  | detected
  | noProvider
  | disabled
  deriving DecidableEq

inductive Reason
  | userSpecified
  | providerDetected
  | noProviderDetected
  deriving DecidableEq

/-- The `ClusterProviderDetected` condition. Its status is always true. -/
structure Condition where
  reason : Reason
  message : String
  deriving DecidableEq

structure Status where
  clusterProvider : String := ""
  condition : Option Condition := none

structure Answer where
  provider : Option String := none
  inGracePeriod : Bool := false

def wasProviderDetected (status : Status) : Bool :=
  status.condition.any fun c => decide (c.reason = .providerDetected)

/-- `none` holds the reconcile. The detector is missing when detection is disabled. -/
def resolveClusterProvider (annotations : Annotations) (status : Status)
    (detector : Option Answer) : Option (String × Source) :=
  match annotations.lookup providerAnnotationKey with
  | some v => some (v, .user)
  | none =>
    match detector with
    | none => some ("", .disabled)
    | some answer =>
      match answer.provider with
      | some live =>
        if wasProviderDetected status && isSpecificProvider status.clusterProvider &&
            !isSpecificProvider live then some (status.clusterProvider, .detected)
        else some (live, .detected)
      | none =>
        if status.clusterProvider ≠ "" ∧ wasProviderDetected status then
          some (status.clusterProvider, .detected)
        else if answer.inGracePeriod then none
        else some ("", .noProvider)

def setClusterProviderStatus (q : Quoting) (status : Status) (provider : String)
    (source : Source) : Status :=
  if source = .disabled then status
  else
    { clusterProvider := provider
      condition := some <|
        if source = .user then
          ⟨.userSpecified, "Cluster provider set to " ++ q.quote provider ++ " by user annotation."⟩
        else if source = .detected ∧ isSpecificProvider provider then
          ⟨.providerDetected, "Cluster provider detected as " ++ q.quote provider ++ "."⟩
        else
          ⟨.noProviderDetected,
            "No cloud provider detected; provider-specific configuration not applied."⟩ }

/-- The provider is not compared, only its condition; `changed` when any other
compared field differs. -/
def isEqualStatus (changed : Bool) (current newStatus : Status) : Bool :=
  !changed && decide (current.condition = newStatus.condition)

inductive Ending
  /-- The operator dies before it writes the status. -/
  | crashed
  /-- An error on a path that writes the status that was read. -/
  | failed
  /-- The end, or an error on a path that writes the new status. -/
  | written (changed : Bool)

/-- The new status starts without a provider. -/
def statusAfter (q : Quoting) (status : Status) (provider : String) (source : Source) :
    Ending → Status
  | .crashed | .failed => status
  | .written changed =>
    let newStatus := setClusterProviderStatus q {} provider source
    if isEqualStatus changed status newStatus then status else newStatus

/-! ## Runs -/

/-- The DatadogAgent and its status. The last two fields are what happened so
far, and no function reads them: whether a specific provider was recorded as
detected since the last reconcile that saw a user annotation, and what the
detector has reported since the last reconcile that recorded one. -/
structure World where
  dda : Agent
  status : Status := {}
  recorded : Bool := false
  reported : List String := []

/-- A restart of the operator is an answer that is not ready. -/
inductive Event
  | edit (annotations : Annotations)
  | reconcile (answer : Answer) (ending : Ending)

namespace World

def annotated (w : World) : Bool := (w.dda.annotations.lookup providerAnnotationKey).isSome

def resolved (w : World) (answer : Answer) : Option (String × Source) :=
  resolveClusterProvider w.dda.annotations w.status (some answer)

def stamped (w : World) (provider : String) : Option String :=
  (generateObjMetaFromDDA w.dda provider).annotations.lookup providerAnnotationKey

def step (q : Quoting) (w : World) : Event → World
  | .edit annotations => { w with dda := { w.dda with annotations } }
  | .reconcile answer ending =>
    match w.resolved answer with
    | none => w
    | some (provider, source) =>
      let status := statusAfter q w.status provider source ending
      if w.annotated then
        { w with
          status, recorded := false
          reported := match ending with
            | .written _ => []
            | _ => w.reported }
      else
        { w with
          status, recorded := w.recorded || wasProviderDetected status
          reported := answer.provider.toList ++ w.reported }

end World

/-- The experimental annotation stamps a provider of its own. -/
def experimentalAutopilot (annotations : Annotations) : Bool :=
  (annotations.get experimentalAutopilotKey).toLower == "true"

/-- What a reconcile that proceeds without a user annotation stamps: a specific
provider if one was recorded, and nothing the detector has not reported. -/
structure StampsDetected (w : World) (answer : Answer) (provider : String) : Prop where
  sticky : w.recorded = true → ∃ p, w.stamped provider = some p ∧ isSpecificProvider p = true
  reported : ∀ p, w.stamped provider = some p → p ∈ answer.provider.toList ++ w.reported ∨
    p = gkeAutopilotProvider ∧ experimentalAutopilot w.dda.annotations = true

def Stamps (w : World) : Event → Prop
  | .edit _ => True
  | .reconcile answer _ => w.annotated = false → ∀ provider source,
    w.resolved answer = some (provider, source) → StampsDetected w answer provider

/-! ## One reconcile -/

section
variable {q : Quoting} {w : World} {answer : Answer} {provider : String} {source : Source}

theorem stamped_of_not_annotated (h : w.annotated = false) (provider : String) :
    w.stamped provider = if isSpecificProvider provider then some provider
      else if experimentalAutopilot w.dda.annotations then some gkeAutopilotProvider
      else none := by
  have hnone : w.dda.annotations.lookup providerAnnotationKey = none := by
    simpa [World.annotated] using h
  have hautopilot : isAutopilotEnabled w.dda.annotations =
      experimentalAutopilot w.dda.annotations := by
    simp [isAutopilotEnabled, experimentalAutopilot, Annotations.get, hnone, gkeAutopilotProvider]
  have herase : (w.dda.annotations.erase lastAppliedConfigurationKey).lookup providerAnnotationKey =
      none := by
    rw [Finmap.lookup_erase_ne (by decide), hnone]
  unfold World.stamped generateObjMetaFromDDA
  dsimp only
  rw [hautopilot]
  by_cases hspecific : isSpecificProvider provider
  · simp [hspecific, Finmap.lookup_insert]
  · by_cases hexp : experimentalAutopilot w.dda.annotations
    · simp [hspecific, hexp, Finmap.lookup_insert]
    · simp [hspecific, hexp, herase]

/-- The status says detected only of a specific provider the detector has
reported, and the message names it. -/
structure Inv (q : Quoting) (w : World) : Prop where
  specific : wasProviderDetected w.status = true →
    isSpecificProvider w.status.clusterProvider = true
  message : wasProviderDetected w.status = true → w.status.condition =
    (setClusterProviderStatus q {} w.status.clusterProvider .detected).condition
  reported : wasProviderDetected w.status = true → w.status.clusterProvider ∈ w.reported
  recorded : w.recorded = true → wasProviderDetected w.status = true

theorem Inv.init (q : Quoting) (dda : Agent) : Inv q { dda } where
  specific h := by cases h
  message h := by cases h
  reported h := by cases h
  recorded h := by cases h

theorem resolved_of_annotated (h : w.annotated = true)
    (hr : w.resolved answer = some (provider, source)) : source = .user := by
  obtain ⟨v, hv⟩ := Option.isSome_iff_exists.mp h
  rw [World.resolved, resolveClusterProvider, hv] at hr
  exact (Prod.mk.inj (Option.some.inj hr)).2.symm

theorem resolved_cases (h : w.annotated = false)
    (hr : w.resolved answer = some (provider, source)) :
    (source = .detected ∧ answer.provider = some provider ∧
        (isSpecificProvider provider = true ∨ ¬(wasProviderDetected w.status = true ∧
          isSpecificProvider w.status.clusterProvider = true))) ∨
      (source = .detected ∧ provider = w.status.clusterProvider ∧
        wasProviderDetected w.status = true) ∨
      (source = .noProvider ∧ provider = "" ∧
        ¬(w.status.clusterProvider ≠ "" ∧ wasProviderDetected w.status = true)) := by
  have hnone : w.dda.annotations.lookup providerAnnotationKey = none := by
    simpa [World.annotated] using h
  rw [World.resolved, resolveClusterProvider, hnone] at hr
  dsimp only at hr
  cases hlive : answer.provider with
  | some live =>
    rw [hlive] at hr
    dsimp only at hr
    split at hr
    · rename_i hsticky
      obtain ⟨rfl, rfl⟩ := Prod.mk.inj (Option.some.inj hr)
      simp only [Bool.and_eq_true] at hsticky
      exact .inr (.inl ⟨rfl, rfl, hsticky.1.1⟩)
    · rename_i hfresh
      obtain ⟨rfl, rfl⟩ := Prod.mk.inj (Option.some.inj hr)
      refine .inl ⟨rfl, rfl, ?_⟩
      simp only [Bool.and_eq_true, Bool.not_eq_true', not_and, Bool.not_eq_false] at hfresh
      by_cases hlast : wasProviderDetected w.status = true ∧
          isSpecificProvider w.status.clusterProvider = true
      · exact .inl (hfresh hlast)
      · exact .inr hlast
  | none =>
    rw [hlive] at hr
    dsimp only at hr
    split at hr
    · rename_i hkept
      obtain ⟨rfl, rfl⟩ := Prod.mk.inj (Option.some.inj hr)
      exact .inr (.inl ⟨rfl, rfl, hkept.2⟩)
    · rename_i hlost
      split at hr
      · cases hr
      · obtain ⟨rfl, rfl⟩ := Prod.mk.inj (Option.some.inj hr)
        exact .inr (.inr ⟨rfl, rfl, hlost⟩)

theorem Inv.resolved (hw : Inv q w) (h : w.annotated = false)
    (hr : w.resolved answer = some (provider, source)) :
    (wasProviderDetected w.status = true →
        source = .detected ∧ isSpecificProvider provider = true) ∧
      (isSpecificProvider provider = true → provider ∈ answer.provider.toList ++ w.reported) := by
  rcases resolved_cases h hr with ⟨rfl, hlive, hspecific⟩ | ⟨rfl, rfl, hdetected⟩ |
    ⟨rfl, rfl, hlost⟩
  · refine ⟨fun hdetected => ⟨rfl, ?_⟩, fun _ => by simp [hlive]⟩
    exact hspecific.resolve_right fun hnot => hnot ⟨hdetected, hw.specific hdetected⟩
  · exact ⟨fun _ => ⟨rfl, hw.specific hdetected⟩,
      fun _ => List.mem_append_right _ (hw.reported hdetected)⟩
  · refine ⟨fun hdetected => absurd ⟨?_, hdetected⟩ hlost, fun h => by cases h⟩
    intro hempty
    have hspecific := hw.specific hdetected
    rw [hempty] at hspecific
    cases hspecific

theorem wasProviderDetected_set (status : Status) :
    wasProviderDetected (setClusterProviderStatus q status provider source) =
      if source = .disabled then wasProviderDetected status
      else decide (source = .detected ∧ isSpecificProvider provider = true) := by
  unfold setClusterProviderStatus wasProviderDetected
  cases source with
  | user => rfl
  | detected => cases isSpecificProvider provider <;> rfl
  | noProvider => rfl
  | disabled => rfl

theorem setClusterProviderStatus_provider (status : Status) (h : source ≠ .disabled) :
    (setClusterProviderStatus q status provider source).clusterProvider = provider := by
  simp [setClusterProviderStatus, h]

theorem append_quote_injective (q : Quoting)
    (h : before ++ q.quote a ++ after = before ++ q.quote b ++ after) : a = b := by
  refine q.injective (String.toList_injective ?_)
  have hlist := congrArg String.toList h
  simp only [String.toList_append] at hlist
  exact List.append_cancel_left (List.append_cancel_right hlist)

theorem Inv.statusAfter_written (hw : Inv q w) (provider : String) (changed : Bool)
    (hsource : source ≠ .disabled) :
    (wasProviderDetected (statusAfter q w.status provider source (.written changed)) = true ↔
        source = .detected ∧ isSpecificProvider provider = true) ∧
      (source = .detected → isSpecificProvider provider = true →
        (statusAfter q w.status provider source (.written changed)).clusterProvider = provider ∧
        (statusAfter q w.status provider source (.written changed)).condition =
          (setClusterProviderStatus q {} provider .detected).condition) := by
  have hnew : wasProviderDetected (setClusterProviderStatus q {} provider source) = true ↔
      source = .detected ∧ isSpecificProvider provider = true := by
    rw [wasProviderDetected_set, if_neg hsource, decide_eq_true_eq]
  unfold statusAfter
  dsimp only
  split
  · rename_i hskip
    have hcondition : w.status.condition =
        (setClusterProviderStatus q {} provider source).condition := by
      simp only [isEqualStatus, Bool.and_eq_true, decide_eq_true_eq] at hskip
      exact hskip.2
    have hsame : wasProviderDetected w.status =
        wasProviderDetected (setClusterProviderStatus q {} provider source) := by
      rw [wasProviderDetected, hcondition, ← wasProviderDetected]
    refine ⟨by rw [hsame, hnew], fun hdetected hspecific => ?_⟩
    have hwas : wasProviderDetected w.status = true := hsame.trans (hnew.mpr ⟨hdetected, hspecific⟩)
    subst hdetected
    refine ⟨?_, hcondition⟩
    have hmessages := (hw.message hwas).symm.trans hcondition
    simp only [setClusterProviderStatus, reduceCtorEq, if_false, hw.specific hwas, hspecific,
      and_self, if_true] at hmessages
    exact append_quote_injective q (congrArg Condition.message (Option.some.inj hmessages))
  · refine ⟨hnew, fun hdetected _ => ⟨setClusterProviderStatus_provider _ hsource, ?_⟩⟩
    rw [hdetected]

theorem source_ne_disabled (h : w.resolved answer = some (provider, source)) :
    source ≠ .disabled := by
  cases hannotated : w.annotated with
  | true =>
    rw [resolved_of_annotated hannotated h]
    exact Source.noConfusion
  | false =>
    rcases resolved_cases hannotated h with ⟨rfl, -⟩ | ⟨rfl, -⟩ | ⟨rfl, -⟩
    · exact Source.noConfusion
    · exact Source.noConfusion
    · exact Source.noConfusion

theorem Inv.annotated (hw : Inv q w) (hannotated : w.annotated = true)
    (hr : w.resolved answer = some (provider, source)) (ending : Ending) :
    Inv q (w.step q (.reconcile answer ending)) := by
  have hsource := source_ne_disabled hr
  have huser := resolved_of_annotated hannotated hr
  simp only [World.step, hr, hannotated, if_true]
  cases ending with
  | crashed => exact ⟨hw.specific, hw.message, hw.reported, fun h => by cases h⟩
  | failed => exact ⟨hw.specific, hw.message, hw.reported, fun h => by cases h⟩
  | written changed =>
    have hnot : wasProviderDetected (statusAfter q w.status provider source (.written changed)) ≠
        true := by
      rw [ne_eq, (hw.statusAfter_written provider changed hsource).1, huser]
      exact fun h => by cases h.1
    exact ⟨fun h => absurd h hnot, fun h => absurd h hnot, fun h => absurd h hnot,
      fun h => by cases h⟩

theorem Inv.unannotated (hw : Inv q w) (hannotated : w.annotated = false)
    (hr : w.resolved answer = some (provider, source)) (ending : Ending) :
    Inv q (w.step q (.reconcile answer ending)) := by
  have hsource := source_ne_disabled hr
  obtain ⟨hkept, hreported⟩ := hw.resolved hannotated hr
  simp only [World.step, hr, hannotated, Bool.false_eq_true, if_false]
  -- Without a write the status is the old one, and more is reported.
  have hold : Inv q { w with
      recorded := w.recorded || wasProviderDetected w.status
      reported := answer.provider.toList ++ w.reported } := by
    refine ⟨hw.specific, hw.message, fun h => List.mem_append_right _ (hw.reported h), fun h => ?_⟩
    rcases (Bool.or_eq_true _ _).mp h with h | h
    · exact hw.recorded h
    · exact h
  cases ending with
  | crashed => exact hold
  | failed => exact hold
  | written changed =>
    obtain ⟨hdetected, hnew⟩ := hw.statusAfter_written provider changed hsource
    refine ⟨fun h => ?_, fun h => ?_, fun h => ?_, fun h => ?_⟩
    · obtain ⟨hs, hspecific⟩ := hdetected.mp h
      rw [(hnew hs hspecific).1]
      exact hspecific
    · obtain ⟨hs, hspecific⟩ := hdetected.mp h
      rw [(hnew hs hspecific).1, (hnew hs hspecific).2]
    · obtain ⟨hs, hspecific⟩ := hdetected.mp h
      rw [(hnew hs hspecific).1]
      exact hreported hspecific
    · rcases (Bool.or_eq_true _ _).mp h with h | h
      · exact hdetected.mpr (hkept (hw.recorded h))
      · exact h

theorem Inv.step (hw : Inv q w) (e : Event) : Inv q (w.step q e) := by
  cases e with
  | edit annotations => exact ⟨hw.specific, hw.message, hw.reported, hw.recorded⟩
  | reconcile answer ending =>
    cases hr : w.resolved answer with
    | none => simpa only [World.step, hr] using hw
    | some r =>
      obtain ⟨provider, source⟩ := r
      cases hannotated : w.annotated with
      | true => exact hw.annotated hannotated hr ending
      | false => exact hw.unannotated hannotated hr ending

theorem Inv.stamps (hw : Inv q w) (e : Event) : Stamps w e := by
  cases e with
  | edit annotations => trivial
  | reconcile answer ending =>
    intro hannotated provider source hr
    obtain ⟨hkept, hreported⟩ := hw.resolved hannotated hr
    have hstamped := stamped_of_not_annotated hannotated provider
    refine ⟨fun hrecorded => ?_, fun p hp => ?_⟩
    · have hspecific := (hkept (hw.recorded hrecorded)).2
      rw [if_pos hspecific] at hstamped
      exact ⟨provider, hstamped, hspecific⟩
    · rw [hstamped] at hp
      by_cases hspecific : isSpecificProvider provider = true
      · rw [if_pos hspecific] at hp
        cases hp
        exact .inl (hreported hspecific)
      · rw [if_neg hspecific] at hp
        split at hp
        · rename_i hexperimental
          exact .inr ⟨(Option.some.inj hp).symm, hexperimental⟩
        · cases hp

end

/-- In every run, a recorded provider stays until a user annotation is seen,
and after that only the detector or the experimental annotation brings one back. -/
theorem provider_is_sticky (q : Quoting) (dda : Agent) (es : List Event) :
    Runs.Along (World.step q) Stamps { dda } es :=
  Runs.Along.of_invariant_always (I := Inv q) (fun _ e h => h.step e) (fun _ e h => h.stamps e)
    (Inv.init q dda) es

def plainQuoting : Quoting where
  quote s := "\"" ++ s ++ "\""
  injective a b h := by
    refine String.toList_injective ?_
    have hlist := congrArg String.toList h
    simp only [String.toList_append] at hlist
    exact List.append_cancel_left (List.append_cancel_right hlist)

/-- The provider annotation is removed and the detector reports the default
provider, but the experimental annotation is still there. -/
theorem autopilot_is_stamped_again :
    let autopilot : Annotations := (∅ : Annotations).insert experimentalAutopilotKey "true"
    let live : Answer := { provider := some defaultProvider }
    let w := Runs.run (World.step plainQuoting) { dda := { ns := "datadog", name := "datadog" } }
      [.edit (autopilot.insert providerAnnotationKey gkeAutopilotProvider),
        .reconcile live (.written true), .edit autopilot]
    w.annotated = false ∧ w.resolved live = some (defaultProvider, .detected) ∧
      w.stamped defaultProvider = some gkeAutopilotProvider ∧ w.reported = [] := by
  decide +kernel

end DatadogOperator.ClusterProvider
