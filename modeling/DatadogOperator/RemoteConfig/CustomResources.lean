import DatadogOperator.Lib.FirstSeen

/-!
# Custom resources from remote configuration

`orchestrator_k8s_crd.go`: the custom resources of all updates are joined in the order of an
iteration over the update map, and the list goes to the status. The order of the resources
shows in the status, and so the order of the iteration does, unless the lists are nested.
-/

namespace DatadogOperator.CustomResources

/-! ## The source -/

inductive Product
  | orchestratorK8sCRDs
  | other

structure CRDUpdate where
  product : Product
  config : String

structure CustomResourceDefinitionURLs where
  crds : Option (List String) := none

structure OrchestratorK8sCRDRemoteConfig where
  crds : Option CustomResourceDefinitionURLs := none

def removeDuplicateStr (s : List String) : List String := FirstSeen.collect [] s

/-- `json.Unmarshal` of one configuration. -/
abbrev Unmarshal := String → Except String CustomResourceDefinitionURLs

def appendCRDs (unmarshal : Unmarshal) (crds : List String) (c : CRDUpdate) :
    Except String (List String) :=
  match c.product with
  | .other => .ok crds
  | .orchestratorK8sCRDs =>
    match unmarshal c.config with
    | .error err => .error err
    | .ok rcCRDs => .ok (crds ++ rcCRDs.crds.getD [])

/-- The update map is given in the order of the iteration. -/
def parseCRDReceivedUpdates (unmarshal : Unmarshal) (updates : List CRDUpdate) :
    Except String OrchestratorK8sCRDRemoteConfig :=
  match updates.foldlM (appendCRDs unmarshal) [] with
  | .error err => .error err
  | .ok crds =>
    if crds = [] then .ok {} else .ok { crds := some { crds := some (removeDuplicateStr crds) } }

/-- `other` is the other fields, here and below. -/
structure ExplorerConfig where
  customResources : List String := []
  other : String := ""
  deriving DecidableEq

structure ExplorerFeatures where
  orchestratorExplorer : Option ExplorerConfig := none
  other : String := ""
  deriving DecidableEq

structure ExplorerStatus where
  /-- `remoteConfigConfiguration`, and its `features` -/
  features : Option (Option ExplorerFeatures) := none
  other : String := ""
  deriving DecidableEq

inductive StatusUpdate
  | stored
  | conflict
  | failed (err : String)

def OrchestratorK8sCRDRemoteConfig.customResources (cfg : OrchestratorK8sCRDRemoteConfig) :
    List String :=
  match cfg.crds with
  | none => []
  | some crds => removeDuplicateStr (crds.crds.getD [])

def crdNewStatus (cfg : OrchestratorK8sCRDRemoteConfig) (status : ExplorerStatus) :
    ExplorerStatus :=
  let features := (status.features.getD none).getD {}
  let explorer := features.orchestratorExplorer.getD {}
  { status with features := some (some { features with
      orchestratorExplorer := some { explorer with customResources := cfg.customResources } }) }

/-- The status after the call, and its error. -/
def crdUpdateInstanceStatus (cfg : OrchestratorK8sCRDRemoteConfig) (status : ExplorerStatus)
    (update : StatusUpdate) : ExplorerStatus × Option String :=
  if crdNewStatus cfg status = status then (status, none) else
  match update with
  | .stored => (crdNewStatus cfg status, none)
  | .conflict => (status, none)
  | .failed err => (status, some err)

/-- An update is parsed and its configuration goes to the status. -/
def receiveCRDs (unmarshal : Unmarshal) (updates : List CRDUpdate) (status : ExplorerStatus)
    (update : StatusUpdate) : ExplorerStatus × Option String :=
  match parseCRDReceivedUpdates unmarshal updates with
  | .error err => (status, some err)
  | .ok cfg => crdUpdateInstanceStatus cfg status update

/-! ## Orders of the iteration -/

/-- Any two iterations lead to one status, and to no write after the other. -/
def IterationIrrelevant (unmarshal : Unmarshal) (updates : List CRDUpdate) : Prop :=
  ∀ l l' : List CRDUpdate, l.Perm updates → l'.Perm updates →
    ∀ status : ExplorerStatus,
      let first := (receiveCRDs unmarshal l status .stored).1
      (receiveCRDs unmarshal l' status .stored).1 = first ∧
        ∀ update, (receiveCRDs unmarshal l' first update).1 = first

/-- The lists of the updates of the product, or an error. -/
def crdList (unmarshal : Unmarshal) (c : CRDUpdate) : Except String (List String) :=
  appendCRDs unmarshal [] c

def Malformed (unmarshal : Unmarshal) (updates : List CRDUpdate) : Prop :=
  ∃ c ∈ updates, ∃ err, crdList unmarshal c = .error err

def NestedLists (unmarshal : Unmarshal) (updates : List CRDUpdate) : Prop :=
  ∀ c ∈ updates, ∀ c' ∈ updates, ∀ crds crds', crdList unmarshal c = .ok crds →
    crdList unmarshal c' = .ok crds' → FirstSeen.Nested crds crds'

section
variable {unmarshal : Unmarshal} {updates l : List CRDUpdate} {status : ExplorerStatus}

theorem appendCRDs_eq (crds : List String) (c : CRDUpdate) :
    appendCRDs unmarshal crds c = (crdList unmarshal c).map (crds ++ ·) := by
  unfold crdList appendCRDs
  cases c.product with
  | other => simp [Except.map]
  | orchestratorK8sCRDs => cases unmarshal c.config <;> simp [Except.map]

theorem foldlM_malformed (h : Malformed unmarshal updates) (crds : List String) :
    ∃ err, updates.foldlM (appendCRDs unmarshal) crds = .error err := by
  induction updates generalizing crds with
  | nil => simp [Malformed] at h
  | cons c updates ih =>
    rw [List.foldlM_cons, appendCRDs_eq]
    cases hc : crdList unmarshal c with
    | error err => exact ⟨err, rfl⟩
    | ok crds' =>
      obtain ⟨d, hd, err, herr⟩ := h
      rcases List.mem_cons.mp hd with rfl | hd
      · rw [hc] at herr
        cases herr
      · exact ih ⟨d, hd, err, herr⟩ _

def decodedList (unmarshal : Unmarshal) (c : CRDUpdate) : List String :=
  (crdList unmarshal c).toOption.getD []

theorem crdList_decoded (h : ¬ Malformed unmarshal updates) (hc : c ∈ updates) :
    crdList unmarshal c = .ok (decodedList unmarshal c) := by
  cases heq : crdList unmarshal c with
  | error err => exact absurd ⟨c, hc, err, heq⟩ h
  | ok crds => simp [decodedList, heq, Except.toOption]

theorem foldlM_decoded (h : ¬ Malformed unmarshal updates) (crds : List String) :
    updates.foldlM (appendCRDs unmarshal) crds =
      .ok (crds ++ (updates.map (decodedList unmarshal)).flatten) := by
  induction updates generalizing crds with
  | nil => simp [pure, Except.pure]
  | cons c updates ih =>
    have hrest : ¬ Malformed unmarshal updates := fun ⟨d, hd, herr⟩ =>
      h ⟨d, List.mem_cons_of_mem c hd, herr⟩
    rw [List.foldlM_cons, appendCRDs_eq, crdList_decoded h (.head _)]
    exact (ih hrest _).trans (by simp)

theorem receiveCRDs_of_decoded (h : ¬ Malformed unmarshal l) (status : ExplorerStatus)
    (update : StatusUpdate) : ∃ cfg, cfg.customResources =
        FirstSeen.collect [] (l.map (decodedList unmarshal)).flatten ∧
      receiveCRDs unmarshal l status update = crdUpdateInstanceStatus cfg status update := by
  unfold receiveCRDs parseCRDReceivedUpdates
  rw [foldlM_decoded h, List.nil_append]
  by_cases hnil : (l.map (decodedList unmarshal)).flatten = []
  · exact ⟨{}, by simp [hnil, OrchestratorK8sCRDRemoteConfig.customResources], by simp [hnil]⟩
  · exact ⟨⟨some ⟨some (removeDuplicateStr (l.map (decodedList unmarshal)).flatten)⟩⟩,
      FirstSeen.collect_self _, by simp only [hnil, if_false]⟩

theorem crdNewStatus_congr (h : cfg.customResources = cfg'.customResources) :
    crdNewStatus cfg status = crdNewStatus cfg' status := by
  simp only [crdNewStatus, h]

theorem crdUpdateInstanceStatus_stored (cfg : OrchestratorK8sCRDRemoteConfig)
    (status : ExplorerStatus) :
    (crdUpdateInstanceStatus cfg status .stored).1 = crdNewStatus cfg status := by
  unfold crdUpdateInstanceStatus
  split_ifs with h
  · exact h.symm
  · rfl

theorem crdUpdateInstanceStatus_again
    (h : cfg.customResources = cfg'.customResources) (update : StatusUpdate) :
    (crdUpdateInstanceStatus cfg' (crdNewStatus cfg status) update).1 =
      crdNewStatus cfg status := by
  have hsame : crdNewStatus cfg' (crdNewStatus cfg status) = crdNewStatus cfg status := by
    simp [crdNewStatus, h]
  simp [crdUpdateInstanceStatus, hsame]

theorem crdNewStatus_inj (h : crdNewStatus cfg status = crdNewStatus cfg' status) :
    cfg.customResources = cfg'.customResources := by
  simpa [crdNewStatus] using h

end

/-- The iteration does not matter exactly if an update cannot be decoded, or the lists of
the updates are nested. -/
theorem iteration_irrelevant_iff (unmarshal : Unmarshal) (updates : List CRDUpdate) :
    IterationIrrelevant unmarshal updates ↔
      Malformed unmarshal updates ∨ NestedLists unmarshal updates := by
  by_cases hbad : Malformed unmarshal updates
  · refine iff_of_true ?_ (.inl hbad)
    have hfails : ∀ l, l.Perm updates → ∀ status update,
        (receiveCRDs unmarshal l status update).1 = status := by
      intro l hl status update
      have hl' : Malformed unmarshal l := by
        obtain ⟨c, hc, herr⟩ := hbad
        exact ⟨c, hl.mem_iff.mpr hc, herr⟩
      obtain ⟨err, herr⟩ := foldlM_malformed hl' []
      simp [receiveCRDs, parseCRDReceivedUpdates, herr]
    intro l l' hl hl' status
    simp [hfails l hl, hfails l' hl']
  · have hok : ∀ l, l.Perm updates → ¬ Malformed unmarshal l := by
      rintro l hl ⟨c, hc, herr⟩
      exact hbad ⟨c, hl.mem_iff.mp hc, herr⟩
    have hnested : NestedLists unmarshal updates ↔
        ∀ a ∈ updates.map (decodedList unmarshal), ∀ b ∈ updates.map (decodedList unmarshal),
          FirstSeen.Nested a b := by
      simp only [List.forall_mem_map]
      constructor
      · exact fun h c hc c' hc' => h c hc c' hc' _ _ (crdList_decoded hbad hc)
          (crdList_decoded hbad hc')
      · intro h c hc c' hc' crds crds' heq heq'
        rw [crdList_decoded hbad hc, Except.ok.injEq] at heq
        rw [crdList_decoded hbad hc', Except.ok.injEq] at heq'
        exact heq ▸ heq' ▸ h c hc c' hc'
    rw [or_iff_right hbad, hnested, ← FirstSeen.collect_flatten_perm_iff]
    constructor
    · intro h l hl
      obtain ⟨cfg, hcfg, heq⟩ := receiveCRDs_of_decoded (hok l hl.symm) {} .stored
      obtain ⟨cfg', hcfg', heq'⟩ := receiveCRDs_of_decoded hbad {} .stored
      have hstatus := (h updates l (List.Perm.refl _) hl.symm {}).1
      rw [heq, heq', crdUpdateInstanceStatus_stored, crdUpdateInstanceStatus_stored] at hstatus
      rw [← hcfg, ← hcfg', crdNewStatus_inj hstatus]
    · intro h l l' hl hl' status
      obtain ⟨cfg, hcfg, heq⟩ := receiveCRDs_of_decoded (hok l hl) status .stored
      obtain ⟨cfg', hcfg', heq'⟩ := receiveCRDs_of_decoded (hok l' hl') status .stored
      have hsame : cfg.customResources = cfg'.customResources := by
        rw [hcfg, hcfg', h _ hl.symm, h _ hl'.symm]
      simp only [heq, heq', crdUpdateInstanceStatus_stored]
      refine ⟨(crdNewStatus_congr hsame).symm, fun update => ?_⟩
      obtain ⟨cfg'', hcfg'', heq''⟩ := receiveCRDs_of_decoded (hok l' hl')
        (crdNewStatus cfg status) update
      rw [heq'']
      exact crdUpdateInstanceStatus_again (by rw [hsame, hcfg', hcfg'']) update

def oneResource : Unmarshal := fun config => .ok { crds := some [config] }

theorem two_resources_change_places : ¬ IterationIrrelevant oneResource
        [⟨.orchestratorK8sCRDs, "example.com/v1/as"⟩, ⟨.orchestratorK8sCRDs, "example.com/v1/bs"⟩] ∧
      (receiveCRDs oneResource [⟨.orchestratorK8sCRDs, "example.com/v1/as"⟩,
        ⟨.orchestratorK8sCRDs, "example.com/v1/bs"⟩] {} .stored).1 ≠
      (receiveCRDs oneResource [⟨.orchestratorK8sCRDs, "example.com/v1/bs"⟩,
        ⟨.orchestratorK8sCRDs, "example.com/v1/as"⟩] {} .stored).1 := by
  have hne : (receiveCRDs oneResource [⟨.orchestratorK8sCRDs, "example.com/v1/as"⟩,
        ⟨.orchestratorK8sCRDs, "example.com/v1/bs"⟩] {} .stored).1 ≠
      (receiveCRDs oneResource [⟨.orchestratorK8sCRDs, "example.com/v1/bs"⟩,
        ⟨.orchestratorK8sCRDs, "example.com/v1/as"⟩] {} .stored).1 := by
    decide
  refine ⟨fun h => hne ?_, hne⟩
  exact (h _ _ (List.Perm.refl _) (List.Perm.swap _ _ _) {}).1.symm

end DatadogOperator.CustomResources
