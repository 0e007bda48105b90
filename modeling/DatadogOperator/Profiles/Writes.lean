import DatadogOperator.Profiles.Names

/-!
# Writing DatadogAgentInternals

The end of a reconcile: every generated DDAI is created or updated, and DDAIs that are not
generated are deleted. A DDAI is updated when its annotations differ from those stored, one
of which is the hash of the spec. So a change of the spec or of the annotations always gets
to the server, and a change of the labels alone does not.
-/

namespace DatadogOperator.Profiles

/-- A DDAI on the server. It has a finalizer, so a delete only marks it. -/
structure StoredDDAI where
  ddai : DatadogAgentInternal
  deleting : Bool := false

abbrev Internals := AList fun _ : NamespacedName => StoredDDAI

def DatadogAgentInternal.key (ddai : DatadogAgentInternal) : NamespacedName := ⟨ddai.ns, ddai.name⟩

inductive Write
  | create (key : NamespacedName)
  | update (key : NamespacedName)
  | delete (key : NamespacedName)

/-- The errors of the calls for a DDAI. -/
structure WriteCalls where
  write : NamespacedName → Option ApiError := fun _ => none
  delete : NamespacedName → Option ApiError := fun _ => none

structure Written where
  store : Internals
  log : List Write := []
  ok : Bool := true

def Written.then (w : Written) (f : Internals → Written) : Written :=
  if w.ok then
    let w' := f w.store
    { w' with log := w.log ++ w'.log }
  else w

def createOrUpdateDDAI (calls : WriteCalls) (ddai : DatadogAgentInternal) (store : Internals) :
    Written :=
  match calls.write ddai.key with
  | some _ => { store, ok := false }
  | none =>
    match store.lookup ddai.key with
    | none => { store := store.insert ddai.key { ddai }, log := [.create ddai.key] }
    | some current =>
      if current.ddai.annotations = ddai.annotations then { store }
      else { store := store.insert ddai.key { current with ddai }, log := [.update ddai.key] }

def createOrUpdateAll (calls : WriteCalls) : List DatadogAgentInternal → Internals → Written
  | [], store => { store }
  | ddai :: ddais, store =>
    (createOrUpdateDDAI calls ddai store).then (createOrUpdateAll calls ddais)

/-- A DDAI that is being deleted already stays as it is. -/
def deleteDDAI (calls : WriteCalls) (key : NamespacedName) (current : StoredDDAI)
    (store : Internals) : Written :=
  match calls.delete key with
  | some _ => { store, ok := false }
  | none =>
    if current.deleting then { store }
    else { store := store.insert key { current with deleting := true }, log := [.delete key] }

def cleanUpEntries (calls : WriteCalls) (valid : List NamespacedName) :
    List (NamespacedName × StoredDDAI) → Internals → Written
  | [], store => { store }
  | (key, current) :: entries, store =>
    if key ∈ valid then cleanUpEntries calls valid entries store
    else (deleteDDAI calls key current store).then (cleanUpEntries calls valid entries)

def Internals.list (store : Internals) : List (NamespacedName × StoredDDAI) :=
  store.entries.map fun e => (e.1, e.2)

def cleanUpUnusedDDAIs (calls : WriteCalls) (validDDAIs : List DatadogAgentInternal)
    (store : Internals) : Written :=
  cleanUpEntries calls (validDDAIs.map (·.key)) (Internals.list store) store

/-! ## A reconcile -/

structure Input where
  dda : Agent
  provider : String := ""
  nodes : List Node := []
  profiles : List Profile := []

structure Controller where
  fieldManager : FieldManager
  options : Options
  datadogAgentProfileEnabled : Bool

def Controller.ddais (c : Controller) (input : Input) : Except ApplyError (List DatadogAgentInternal) :=
  if c.datadogAgentProfileEnabled then
    generateDDAIs c.fieldManager c.options input.dda input.provider input.nodes input.profiles
  else .ok [generateDDAIFromDDA c.fieldManager input.dda input.provider]

def Controller.writeDDAIs (c : Controller) (calls : WriteCalls) (input : Input) (store : Internals) :
    Written :=
  match c.ddais input with
  | .error _ => { store, ok := false }
  | .ok ddais =>
    (createOrUpdateAll calls ddais store).then (cleanUpUnusedDDAIs calls ddais)

inductive DDAIEvent
  | reconcile (input : Input) (calls : WriteCalls)
  | finalized (key : NamespacedName)

def Controller.step (c : Controller) (store : Internals) : DDAIEvent → Internals
  | .reconcile input calls => (c.writeDDAIs calls input store).store
  | .finalized key =>
    match store.lookup key with
    | some current => if current.deleting then store.erase key else store
    | none => store

/-! ## What is to be shown -/

def Stored (ddais : List DatadogAgentInternal) (store : Internals) : Prop :=
  ∀ ddai ∈ ddais, ∃ deleting, store.lookup ddai.key = some { ddai, deleting }

/-- A reconcile whose calls succeed stores every DDAI, and one after it writes nothing. -/
def Converges (c : Controller) (store : Internals) : DDAIEvent → Prop
  | .reconcile input calls =>
    ∀ ddais, c.ddais input = .ok ddais → (c.writeDDAIs calls input store).ok = true →
      Stored ddais (c.writeDDAIs calls input store).store ∧
      (c.writeDDAIs {} input (c.writeDDAIs calls input store).store).log = []
  | .finalized _ => True

/-- The DDAIs have names of their own, and labels that differ from those stored only where
the annotations do. -/
def LabelsFollow (c : Controller) (store : Internals) : DDAIEvent → Prop
  | .reconcile input _ =>
    ∀ ddais, c.ddais input = .ok ddais → (ddais.map (·.key)).Nodup ∧
      ∀ ddai ∈ ddais, ∀ current ∈ store.lookup ddai.key,
        current.ddai.annotations = ddai.annotations → current.ddai.labels = ddai.labels
  | .finalized _ => True

/-- A stored spec and the one to be stored in its place have different hashes. -/
def NoCollisions (c : Controller) (store : Internals) : DDAIEvent → Prop
  | .reconcile input _ =>
    ∀ ddais, c.ddais input = .ok ddais →
      ∀ ddai ∈ ddais, ∀ current ∈ store.lookup ddai.key,
        c.fieldManager.generateMD5ForSpec current.ddai.spec =
          c.fieldManager.generateMD5ForSpec ddai.spec → current.ddai.spec = ddai.spec
  | .finalized _ => True

instance (c : Controller) (store : Internals) (e : DDAIEvent) :
    Decidable (LabelsFollow c store e) := by
  cases e <;> dsimp only [LabelsFollow] <;> infer_instance

/-! ## Hashes -/

def DatadogAgentInternal.Hashed (fm : FieldManager) (ddai : DatadogAgentInternal) : Prop :=
  ddai.annotations.lookup md5DDAIDeploymentAnnotationKey = some (fm.generateMD5ForSpec ddai.spec)

theorem setMD5GenerationAnnotation_hashed (fm : FieldManager) (ddai : DatadogAgentInternal) :
    DatadogAgentInternal.Hashed fm <| setMD5GenerationAnnotation fm ddai :=
  Finmap.lookup_insert _

theorem ddais_hashed {c : Controller} {ddais : List DatadogAgentInternal}
    (h : c.ddais input = .ok ddais) : ∀ ddai ∈ ddais, ddai.Hashed c.fieldManager := by
  unfold Controller.ddais at h
  split_ifs at h
  · unfold generateDDAIs applyProfilesToDDAISpec at h
    refine Checked.mapM_forall ?_ h
    intro profile _ ddai hddai
    obtain ⟨merged, -, hmerged⟩ := Checked.bind_ok hddai
    cases hmerged
    exact setMD5GenerationAnnotation_hashed _ _
  · cases h
    intro ddai hddai
    rw [List.mem_singleton.mp hddai]
    exact setMD5GenerationAnnotation_hashed _ _

def Internals.Hashed (fm : FieldManager) (store : Internals) : Prop :=
  ∀ key current, store.lookup key = some current →
    current.ddai.key = key ∧ current.ddai.Hashed fm

/-- A stored DDAI with the annotations of a generated one is that one. -/
def Fits (store : Internals) (ddai : DatadogAgentInternal) : Prop :=
  ∀ current, store.lookup ddai.key = some current →
    current.ddai.annotations = ddai.annotations → current.ddai = ddai

theorem fits_of_hashed (hstore : Internals.Hashed fm store) (hddai : ddai.Hashed fm)
    (hlabels : ∀ current, store.lookup ddai.key = some current →
      current.ddai.annotations = ddai.annotations → current.ddai.labels = ddai.labels)
    (hspec : ∀ current, store.lookup ddai.key = some current →
      fm.generateMD5ForSpec current.ddai.spec = fm.generateMD5ForSpec ddai.spec →
        current.ddai.spec = ddai.spec) : Fits store ddai := by
  intro current hcurrent hannotations
  obtain ⟨hkey, hhash⟩ := hstore ddai.key current hcurrent
  have hlabels := hlabels current hcurrent hannotations
  have hspec := hspec current hcurrent (by
    rw [DatadogAgentInternal.Hashed, hannotations, hddai] at hhash
    exact (Option.some.inj hhash).symm)
  obtain ⟨⟨ns, name, labels, annotations⟩, spec⟩ := ddai
  rcases hcd : current.ddai with ⟨⟨ns', name', labels', annotations'⟩, spec'⟩
  rw [hcd] at hkey hlabels hspec hannotations
  cases hkey
  cases hlabels
  cases hspec
  cases hannotations
  rfl

/-! ## Creating and updating -/

section Writes

variable {calls : WriteCalls} {ddai : DatadogAgentInternal} {ddais : List DatadogAgentInternal}
  {store : Internals} {key : NamespacedName} {fm : FieldManager}

theorem createOrUpdateDDAI_other (h : key ≠ ddai.key) :
    (createOrUpdateDDAI calls ddai store).store.lookup key = store.lookup key := by
  unfold createOrUpdateDDAI
  split
  · rfl
  · split
    · exact AList.lookup_insert_ne h
    · split_ifs
      · rfl
      · exact AList.lookup_insert_ne h

theorem createOrUpdateDDAI_stores (hfits : Fits store ddai)
    (hok : (createOrUpdateDDAI calls ddai store).ok = true) :
    ∃ deleting, (createOrUpdateDDAI calls ddai store).store.lookup ddai.key =
      some { ddai, deleting } := by
  unfold createOrUpdateDDAI at hok ⊢
  split at hok
  · cases hok
  · split
    · exact ⟨false, AList.lookup_insert _⟩
    · rename_i current hcurrent
      split_ifs with hsame
      · refine ⟨current.deleting, ?_⟩
        rw [hcurrent, ← hfits current hcurrent hsame]
      · exact ⟨current.deleting, AList.lookup_insert _⟩

theorem createOrUpdateDDAI_hashed (hstore : Internals.Hashed fm store) (hddai : ddai.Hashed fm) :
    Internals.Hashed fm (createOrUpdateDDAI calls ddai store).store := by
  have hinsert : ∀ deleting, Internals.Hashed fm (store.insert ddai.key { ddai, deleting }) := by
    intro deleting key current hcurrent
    by_cases hkey : key = ddai.key
    · subst hkey
      rw [AList.lookup_insert] at hcurrent
      cases hcurrent
      exact ⟨rfl, hddai⟩
    · rw [AList.lookup_insert_ne hkey] at hcurrent
      exact hstore key current hcurrent
  unfold createOrUpdateDDAI
  split
  · exact hstore
  · split
    · exact hinsert false
    · split_ifs
      · exact hstore
      · exact hinsert _

theorem createOrUpdateDDAI_quiet (h : store.lookup ddai.key = some { ddai, deleting }) :
    createOrUpdateDDAI {} ddai store = { store } := by
  unfold createOrUpdateDDAI
  dsimp only
  rw [h]
  dsimp only
  rw [if_pos rfl]

theorem then_ok {w : Written} (h : (w.then f).ok = true) :
    w.ok = true ∧ (f w.store).ok = true ∧ (w.then f).store = (f w.store).store := by
  unfold Written.then at h ⊢
  split_ifs at h ⊢ with hw
  · exact ⟨hw, h, rfl⟩
  · exact absurd h hw

theorem then_store {P : Internals → Prop} {w : Written} (hw : P w.store)
    (hf : P w.store → P (f w.store).store) : P (w.then f).store := by
  unfold Written.then
  split_ifs
  · exact hf hw
  · exact hw

theorem createOrUpdateAll_other (h : key ∉ ddais.map (·.key)) :
    (createOrUpdateAll calls ddais store).store.lookup key = store.lookup key := by
  induction ddais generalizing store with
  | nil => rfl
  | cons ddai ddais ih =>
    rw [List.map_cons, List.mem_cons, not_or] at h
    have hother : (createOrUpdateDDAI calls ddai store).store.lookup key = store.lookup key :=
      createOrUpdateDDAI_other h.1
    refine then_store (P := fun s => s.lookup key = store.lookup key) hother ?_
    intro _
    rw [ih h.2, hother]

theorem createOrUpdateAll_hashed (hstore : Internals.Hashed fm store)
    (hddais : ∀ ddai ∈ ddais, ddai.Hashed fm) :
    Internals.Hashed fm (createOrUpdateAll calls ddais store).store := by
  induction ddais generalizing store with
  | nil => exact hstore
  | cons ddai ddais ih =>
    obtain ⟨hddai, hddais⟩ := List.forall_mem_cons.mp hddais
    exact then_store (createOrUpdateDDAI_hashed hstore hddai) fun h => ih h hddais

theorem createOrUpdateAll_stores (hnodup : (ddais.map (·.key)).Nodup)
    (hfits : ∀ ddai ∈ ddais, Fits store ddai)
    (hok : (createOrUpdateAll calls ddais store).ok = true) :
    Stored ddais (createOrUpdateAll calls ddais store).store := by
  induction ddais generalizing store with
  | nil => exact List.forall_mem_nil _
  | cons ddai ddais ih =>
    rw [List.map_cons, List.nodup_cons] at hnodup
    obtain ⟨hnew, hnodup⟩ := hnodup
    obtain ⟨hfit, hfits⟩ := List.forall_mem_cons.mp hfits
    obtain ⟨hfirst, hrest, hstore⟩ := then_ok hok
    rw [createOrUpdateAll, hstore]
    have hfits' : ∀ d ∈ ddais, Fits (createOrUpdateDDAI calls ddai store).store d := by
      intro d hd current hcurrent
      have hne : d.key ≠ ddai.key := by
        intro heq
        exact hnew (heq ▸ List.mem_map.mpr ⟨d, hd, rfl⟩)
      rw [createOrUpdateDDAI_other hne] at hcurrent
      exact hfits d hd current hcurrent
    intro d hd
    rcases List.mem_cons.mp hd with rfl | hd
    · rw [createOrUpdateAll_other hnew]
      exact createOrUpdateDDAI_stores hfit hfirst
    · exact ih hnodup hfits' hrest d hd

theorem createOrUpdateAll_quiet (h : Stored ddais store) :
    createOrUpdateAll {} ddais store = { store } := by
  induction ddais with
  | nil => rfl
  | cons ddai ddais ih =>
    obtain ⟨⟨deleting, hddai⟩, hddais⟩ := List.forall_mem_cons.mp h
    rw [createOrUpdateAll, createOrUpdateDDAI_quiet hddai, Written.then, if_pos rfl]
    dsimp only
    rw [ih hddais]
    rfl

end Writes

/-! ## Deleting -/

def StoredDDAI.marked (current : StoredDDAI) : StoredDDAI := { current with deleting := true }

theorem StoredDDAI.marked_of_deleting {current : StoredDDAI} (h : current.deleting = true) :
    current.marked = current := by
  unfold StoredDDAI.marked
  rw [← h]

section Deletes

variable {calls : WriteCalls} {valid : List NamespacedName} {store : Internals}
  {entries : List (NamespacedName × StoredDDAI)} {key : NamespacedName} {current : StoredDDAI}
  {fm : FieldManager}

theorem mem_list : (key, current) ∈ Internals.list store ↔ store.lookup key = some current := by
  unfold Internals.list
  rw [← Option.mem_def, AList.mem_lookup_iff, List.mem_map]
  constructor
  · rintro ⟨⟨k, s⟩, hmem, heq⟩
    cases heq
    exact hmem
  · intro hmem
    exact ⟨⟨key, current⟩, hmem, rfl⟩

theorem list_nodup (store : Internals) : ((Internals.list store).map Prod.fst).Nodup := by
  unfold Internals.list
  rw [List.map_map]
  exact store.nodupKeys

theorem deleteDDAI_other {k : NamespacedName} (h : key ≠ k) :
    (deleteDDAI calls k current store).store.lookup key = store.lookup key := by
  unfold deleteDDAI
  split
  · rfl
  · split_ifs
    · rfl
    · exact AList.lookup_insert_ne h

theorem deleteDDAI_marks (hlookup : store.lookup key = some current)
    (hok : (deleteDDAI calls key current store).ok = true) :
    (deleteDDAI calls key current store).store.lookup key = some current.marked := by
  unfold deleteDDAI at hok ⊢
  split at hok
  · cases hok
  · split_ifs with hdeleting
    · rw [StoredDDAI.marked_of_deleting hdeleting]
      exact hlookup
    · exact AList.lookup_insert _

theorem cleanUpEntries_lookup (hnodup : (entries.map Prod.fst).Nodup)
    (hentries : ∀ e ∈ entries, store.lookup e.1 = some e.2)
    (hok : (cleanUpEntries calls valid entries store).ok = true) :
    (cleanUpEntries calls valid entries store).store.lookup key =
      if key ∉ valid ∧ key ∈ entries.map Prod.fst then (store.lookup key).map StoredDDAI.marked
      else store.lookup key := by
  induction entries generalizing store with
  | nil => simp [cleanUpEntries]
  | cons e entries ih =>
    obtain ⟨k, current⟩ := e
    rw [List.map_cons, List.nodup_cons] at hnodup
    obtain ⟨hnew, hnodup⟩ := hnodup
    obtain ⟨hcurrent, hentries⟩ := List.forall_mem_cons.mp hentries
    dsimp only at hnew hcurrent
    unfold cleanUpEntries at hok ⊢
    by_cases hvalid : k ∈ valid
    · rw [if_pos hvalid] at hok ⊢
      rw [ih hnodup hentries hok]
      by_cases hkey : key = k
      · subst hkey
        simp [hvalid]
      · simp only [List.map_cons, List.mem_cons, hkey, false_or]
    · rw [if_neg hvalid] at hok ⊢
      obtain ⟨hfirst, hrest, hstore⟩ := then_ok hok
      have hentries' : ∀ e ∈ entries, (deleteDDAI calls k current store).store.lookup e.1 =
          some e.2 := by
        intro e he
        have hne : e.1 ≠ k := by
          intro heq
          exact hnew (heq ▸ List.mem_map.mpr ⟨e, he, rfl⟩)
        rw [deleteDDAI_other hne]
        exact hentries e he
      rw [hstore, ih hnodup hentries' hrest]
      by_cases hkey : key = k
      · subst hkey
        rw [deleteDDAI_marks hcurrent hfirst, hcurrent]
        simp [hvalid, hnew]
      · rw [deleteDDAI_other hkey]
        simp only [List.map_cons, List.mem_cons, hkey, false_or]

theorem cleanUpEntries_hashed (hstore : Internals.Hashed fm store)
    (hentries : ∀ e ∈ entries, e.2.ddai.key = e.1 ∧ e.2.ddai.Hashed fm) :
    Internals.Hashed fm (cleanUpEntries calls valid entries store).store := by
  induction entries generalizing store with
  | nil => exact hstore
  | cons e entries ih =>
    obtain ⟨k, current⟩ := e
    obtain ⟨hcurrent, hentries⟩ := List.forall_mem_cons.mp hentries
    unfold cleanUpEntries
    split_ifs
    · exact ih hstore hentries
    · refine then_store ?_ fun h => ih h hentries
      unfold deleteDDAI
      split
      · exact hstore
      · split_ifs
        · exact hstore
        · intro key s hs
          by_cases hkey : key = k
          · subst hkey
            rw [AList.lookup_insert] at hs
            cases hs
            exact hcurrent
          · rw [AList.lookup_insert_ne hkey] at hs
            exact hstore key s hs

theorem cleanUpEntries_quiet (h : ∀ e ∈ entries, e.1 ∉ valid → e.2.deleting = true) :
    cleanUpEntries {} valid entries store = { store } := by
  induction entries with
  | nil => rfl
  | cons e entries ih =>
    obtain ⟨k, current⟩ := e
    obtain ⟨hcurrent, hentries⟩ := List.forall_mem_cons.mp h
    unfold cleanUpEntries
    split_ifs with hvalid
    · exact ih hentries
    · have hdelete : deleteDDAI {} k current store = { store } := by
        unfold deleteDDAI
        dsimp only
        rw [if_pos (hcurrent hvalid)]
      rw [hdelete, Written.then, if_pos rfl]
      dsimp only
      rw [ih hentries]
      rfl

end Deletes

/-! ## Reconciles -/

section Reconciles

variable {c : Controller} {calls : WriteCalls} {input : Input} {store : Internals}
  {ddais : List DatadogAgentInternal}

theorem writeDDAIs_eq (h : c.ddais input = .ok ddais) : c.writeDDAIs calls input store =
      (createOrUpdateAll calls ddais store).then (cleanUpUnusedDDAIs calls ddais) := by
  unfold Controller.writeDDAIs
  rw [h]

theorem cleanUpUnusedDDAIs_lookup (hok : (cleanUpUnusedDDAIs calls ddais store).ok = true) :
    (cleanUpUnusedDDAIs calls ddais store).store.lookup key =
      if key ∈ ddais.map (·.key) then store.lookup key
      else (store.lookup key).map StoredDDAI.marked := by
  have hentries : ∀ e ∈ Internals.list store, store.lookup e.1 = some e.2 :=
    fun e he => mem_list.mp he
  unfold cleanUpUnusedDDAIs at hok ⊢
  rw [cleanUpEntries_lookup (list_nodup store) hentries hok]
  by_cases hvalid : key ∈ ddais.map (·.key)
  · rw [if_pos hvalid, if_neg (fun h => h.1 hvalid)]
  · rw [if_neg hvalid]
    rcases hcurrent : store.lookup key with _ | current
    · split_ifs <;> rfl
    · have hmem : key ∈ (Internals.list store).map Prod.fst :=
        List.mem_map.mpr ⟨(key, current), mem_list.mpr hcurrent, rfl⟩
      rw [if_pos ⟨hvalid, hmem⟩]

theorem writeDDAIs_hashed (hstore : Internals.Hashed c.fieldManager store) :
    Internals.Hashed c.fieldManager (c.writeDDAIs calls input store).store := by
  rcases h : c.ddais input with e | ddais
  · unfold Controller.writeDDAIs
    rw [h]
    exact hstore
  · rw [writeDDAIs_eq h]
    refine then_store (createOrUpdateAll_hashed hstore (ddais_hashed h)) ?_
    intro hwritten
    refine cleanUpEntries_hashed hwritten ?_
    intro e he
    exact hwritten e.1 e.2 (mem_list.mp he)

theorem writeDDAIs_quiet (h : c.ddais input = .ok ddais) (hstored : Stored ddais store)
    (hrest : ∀ key current, store.lookup key = some current → key ∉ ddais.map (·.key) →
      current.deleting = true) :
    (c.writeDDAIs {} input store).log = [] := by
  have hclean : cleanUpUnusedDDAIs {} ddais store = { store } :=
    cleanUpEntries_quiet fun e he => hrest e.1 e.2 (mem_list.mp he)
  rw [writeDDAIs_eq h, createOrUpdateAll_quiet hstored, Written.then, if_pos rfl]
  dsimp only
  rw [hclean]
  rfl

theorem step_converges {e : DDAIEvent} (hstore : Internals.Hashed c.fieldManager store)
    (hlabels : LabelsFollow c store e) (hspecs : NoCollisions c store e) :
    Converges c store e := by
  cases e with
  | finalized key => trivial
  | reconcile input calls =>
    intro ddais hddais hok
    obtain ⟨hnodup, hlabels⟩ := hlabels ddais hddais
    have hfits : ∀ ddai ∈ ddais, Fits store ddai := fun ddai hddai =>
      fits_of_hashed hstore (ddais_hashed hddais ddai hddai) (hlabels ddai hddai)
        (hspecs ddais hddais ddai hddai)
    rw [writeDDAIs_eq hddais] at hok ⊢
    obtain ⟨hwrites, hclean, hfinal⟩ := then_ok hok
    have hwritten := createOrUpdateAll_stores hnodup hfits hwrites
    rw [hfinal]
    have hstored : Stored ddais (cleanUpUnusedDDAIs calls ddais
        (createOrUpdateAll calls ddais store).store).store := by
      intro ddai hddai
      rw [cleanUpUnusedDDAIs_lookup hclean, if_pos (List.mem_map.mpr ⟨ddai, hddai, rfl⟩)]
      exact hwritten ddai hddai
    refine ⟨hstored, writeDDAIs_quiet hddais hstored ?_⟩
    intro key current hcurrent hkey
    rw [cleanUpUnusedDDAIs_lookup hclean, if_neg hkey] at hcurrent
    obtain ⟨s, -, rfl⟩ := Option.map_eq_some_iff.mp hcurrent
    rfl

theorem step_hashed (e : DDAIEvent) (hstore : Internals.Hashed c.fieldManager store) :
    Internals.Hashed c.fieldManager (c.step store e) := by
  cases e with
  | reconcile input calls => exact writeDDAIs_hashed hstore
  | finalized key =>
    unfold Controller.step
    dsimp only
    split
    · split_ifs
      · intro key' current hcurrent
        by_cases hkey : key' = key
        · subst hkey
          rw [AList.lookup_erase] at hcurrent
          cases hcurrent
        · rw [AList.lookup_erase_ne hkey] at hcurrent
          exact hstore key' current hcurrent
      · exact hstore
    · exact hstore

end Reconciles

theorem empty_hashed (fm : FieldManager) : Internals.Hashed fm ∅ := by
  intro key current hcurrent
  rw [AList.lookup_empty] at hcurrent
  cases hcurrent

/-- In a run in which labels never change alone, every reconcile leaves the DDAIs as they
were generated. -/
theorem generated_ddais_are_stored (c : Controller) (es : List DDAIEvent)
    (hspecs : Runs.Along c.step (NoCollisions c) ∅ es)
    (hlabels : Runs.Along c.step (LabelsFollow c) ∅ es) :
    Runs.Along c.step (Converges c) ∅ es := by
  refine Runs.Along.of_invariant (I := Internals.Hashed c.fieldManager)
    (C := fun store e => LabelsFollow c store e ∧ NoCollisions c store e) ?_ ?_ ?_
    (hlabels.and hspecs)
  · intro store e hstore _
    exact step_hashed e hstore
  · intro store e hstore hc
    exact step_converges hstore hc.1 hc.2
  · exact empty_hashed c.fieldManager

/-! ## Two labels -/

def plainController : Controller where
  fieldManager := plainFieldManager
  options := { versions := plainVersions }
  datadogAgentProfileEnabled := false

def labelledAgent (team note : String) : Agent where
  ns := "agents"
  name := "datadog"
  labels := (∅ : Labels).insert "team" team
  annotations := (∅ : Annotations).insert "note" note

def labelledReconcile (team note : String) : DDAIEvent :=
  .reconcile { dda := labelledAgent team note } {}

def mlStore : Internals := plainController.step ∅ (labelledReconcile "ml" "first")

theorem noCollisions_empty (c : Controller) (e : DDAIEvent) : NoCollisions c ∅ e := by
  cases e with
  | finalized key => trivial
  | reconcile input calls =>
    intro ddais _ ddai _ current hcurrent
    rw [AList.lookup_empty] at hcurrent
    cases hcurrent

theorem mlStore_stored :
    Stored [generateDDAIFromDDA plainFieldManager (labelledAgent "ml" "first") ""] mlStore := by
  have h := step_converges (empty_hashed _) (by decide +kernel)
    (noCollisions_empty plainController (labelledReconcile "ml" "first"))
  exact (h _ rfl (by decide +kernel)).1

theorem label_changes_with_annotation :
    Runs.Along plainController.step (Converges plainController) ∅
      [labelledReconcile "ml" "first", labelledReconcile "web" "second"] := by
  refine generated_ddais_are_stored plainController _ ⟨noCollisions_empty _ _, ?_, trivial⟩
    (by decide +kernel)
  rintro ddais ⟨⟩ ddai hddai current hcurrent -
  obtain rfl := List.mem_singleton.mp hddai
  obtain ⟨deleting, hml⟩ := mlStore_stored _ (List.mem_singleton_self _)
  -- both DDAIs have the name and the spec of the DatadogAgent
  cases hml.symm.trans hcurrent
  rfl

def storedLabel (store : Internals) (key : NamespacedName) (label : String) : Option String :=
  (store.lookup key).bind fun current => current.ddai.labels.lookup label

/-- The label of the DatadogAgent is edited, and its DDAI keeps the old one. -/
theorem label_change_is_not_stored :
    (plainController.writeDDAIs {} { dda := labelledAgent "web" "first" } mlStore).ok = true ∧
    (labelledAgent "web" "first").labels.lookup "team" = some "web" ∧
    storedLabel (plainController.step mlStore (labelledReconcile "web" "first"))
      ⟨"agents", "datadog"⟩ "team" = some "ml" ∧
    ¬ Converges plainController mlStore (labelledReconcile "web" "first") := by
  have hstored : storedLabel (plainController.step mlStore (labelledReconcile "web" "first"))
      ⟨"agents", "datadog"⟩ "team" = some "ml" := by
    decide +kernel
  have hwanted : (generateDDAIFromDDA plainFieldManager (labelledAgent "web" "first") "").labels.lookup
      "team" = some "web" := by
    decide +kernel
  refine ⟨by decide +kernel, by decide +kernel, hstored, ?_⟩
  intro h
  obtain ⟨hstore, -⟩ := h _ rfl (by decide +kernel)
  obtain ⟨deleting, hlookup⟩ := hstore _ (List.mem_singleton_self _)
  have hlabel : storedLabel (plainController.step mlStore (labelledReconcile "web" "first"))
      ⟨"agents", "datadog"⟩ "team" = some "web" := by
    unfold storedLabel
    exact (congrArg (fun o => o.bind fun current => current.ddai.labels.lookup "team") hlookup).trans
      hwanted
  rw [hstored] at hlabel
  exact absurd hlabel (by decide)

end DatadogOperator.Profiles
