import DatadogOperator.RemoteConfig.Updater
import Mathlib.Data.List.Nodup

/-!
# The flags after an update

Each flag in the status is the one of the last configuration, in the order of the update,
that sets it, and is gone if none does. The rest of a feature's block stays when some
configuration of the order has the block, and goes with it when none has.
-/

namespace DatadogOperator.RemoteConfig

open LastSet

/-! ## Merging -/

/-- Two blocks: the flag of the second replaces that of the first if it is set. -/
def overBlock (dst src : Option FeatureEnabledConfig) : Option FeatureEnabledConfig :=
  match src, dst with
  | none, dst => dst
  | some src, none => some src
  | some src, some dst => some ⟨src.enabled.or dst.enabled⟩

theorem mergeFeature_eq (dst src : Option FeatureEnabledConfig) :
    mergeFeature dst src = overBlock dst src := by
  rcases src with _ | ⟨_ | _⟩ <;> rcases dst with _ | _ <;> rfl

theorem mergeSbom_flag (dst src : Option SbomConfig) :
    (mergeSbom dst src).map (fun s => ({ enabled := s.enabled } : FeatureEnabledConfig)) =
      overBlock (dst.map fun s => { enabled := s.enabled })
        (src.map fun s => { enabled := s.enabled }) := by
  rcases src with _ | ⟨_ | _, _, _⟩ <;> rcases dst with _ | _ <;> rfl

theorem mergeSbom_host (dst src : Option SbomConfig) :
    (mergeSbom dst src).bind (·.host) = overBlock (dst.bind (·.host)) (src.bind (·.host)) := by
  rcases src with _ | src
  · rfl
  · simp only [mergeSbom, Option.bind_some, mergeFeature_eq]
    cases dst <;> rfl

theorem mergeSbom_containerImage (dst src : Option SbomConfig) :
    (mergeSbom dst src).bind (·.containerImage) =
      overBlock (dst.bind (·.containerImage)) (src.bind (·.containerImage)) := by
  rcases src with _ | src
  · rfl
  · simp only [mergeSbom, Option.bind_some, mergeFeature_eq]
    cases dst <;> rfl

theorem mergeConfigs_sbom (dst src : DatadogAgentRemoteConfig) :
    (mergeConfigs dst src).coreAgent.bind (·.sbom) =
      mergeSbom (dst.coreAgent.bind (·.sbom)) (src.coreAgent.bind (·.sbom)) := by
  unfold mergeConfigs
  rcases src.coreAgent with _ | src
  · rfl
  · cases dst.coreAgent <;> rfl

theorem mergeConfigs_block (dst src : DatadogAgentRemoteConfig) (f : Flag) :
    (mergeConfigs dst src).block f = overBlock (dst.block f) (src.block f) := by
  cases f with
  | cws | usm =>
    unfold DatadogAgentRemoteConfig.block mergeConfigs
    rcases src.systemProbe with _ | src
    · rfl
    · simp only [Option.bind_some, mergeFeature_eq]
      cases dst.systemProbe <;> rfl
  | cspm =>
    unfold DatadogAgentRemoteConfig.block mergeConfigs
    rcases src.securityAgent with _ | src
    · rfl
    · simp only [Option.bind_some, mergeFeature_eq]
      cases dst.securityAgent <;> rfl
  | sbom =>
    simp only [DatadogAgentRemoteConfig.block, mergeConfigs_sbom]
    exact mergeSbom_flag _ _
  | sbomHost =>
    simp only [DatadogAgentRemoteConfig.block, mergeConfigs_sbom]
    exact mergeSbom_host _ _
  | sbomContainerImage =>
    simp only [DatadogAgentRemoteConfig.block, mergeConfigs_sbom]
    exact mergeSbom_containerImage _ _

theorem overBlock_enabled (dst src : Option FeatureEnabledConfig) :
    (overBlock dst src).bind (·.enabled) = (src.bind (·.enabled)).or (dst.bind (·.enabled)) := by
  rcases src with _ | ⟨_ | _⟩ <;> rcases dst with _ | _ <;> rfl

theorem overBlock_present (dst src : Option FeatureEnabledConfig) :
    (overBlock dst src).map (fun _ => ()) = (src.map fun _ => ()).or (dst.map fun _ => ()) := by
  cases src <;> cases dst <;> rfl

theorem mergeConfigs_flag (dst src : DatadogAgentRemoteConfig) (f : Flag) :
    (mergeConfigs dst src).flag f = (src.flag f).or (dst.flag f) := by
  unfold DatadogAgentRemoteConfig.flag
  rw [mergeConfigs_block, overBlock_enabled]

theorem default_flag (f : Flag) : ({} : DatadogAgentRemoteConfig).flag f = none := by
  cases f <;> rfl

theorem default_block (f : Flag) : ({} : DatadogAgentRemoteConfig).block f = none := by
  cases f <;> rfl

theorem merged_read {γ : Type} (read : DatadogAgentRemoteConfig → Option γ)
    (hmerge : ∀ dst src, read (mergeConfigs dst src) = (read src).or (read dst))
    (hdefault : read {} = none) (p : Decoded) :
    read p.merged = lastSet (fun id => (p.find id).bind read) p.order := by
  unfold Decoded.merged
  rw [read_foldl read (fun id => (p.find id).bind read), hdefault, Option.or_none]
  intro final id
  rcases p.find id with _ | config
  · rfl
  · exact hmerge final config

theorem merged_flag (p : Decoded) (f : Flag) :
    p.merged.flag f = lastSet (fun id => (p.find id).bind (·.flag f)) p.order :=
  merged_read (·.flag f) (mergeConfigs_flag · · f) (default_flag f) p

theorem merged_block (p : Decoded) (f : Flag) : (p.merged.block f).isSome ↔
      ∃ id ∈ p.order, ∃ config, p.find id = some config ∧ (config.block f).isSome := by
  have hread := merged_read (fun c => (c.block f).map fun _ => ()) ?_ (by rw [default_block f]; rfl) p
  · have hsome := lastSet_isSome (fun id => (p.find id).bind fun c => (c.block f).map fun _ => ())
      p.order
    rw [← hread, Option.isSome_map] at hsome
    rw [hsome]
    simp only [Option.isSome_bind, Option.any_eq_true, Option.isSome_map]
  · intro dst src
    rw [mergeConfigs_block, overBlock_present]

/-! ## Writing the status -/

theorem setBlock_eq (block : Option Block) (cfg : Option FeatureEnabledConfig) :
    setBlock block cfg = cfg.map fun c => ⟨c.enabled, (block.getD {}).other⟩ := rfl

theorem updateStatus_features (cfg : DatadogAgentRemoteConfig) (status : DatadogAgentStatus) :
    (updateStatus cfg status).features = { status.features with
        cws := setBlock status.features.cws (cfg.block .cws)
        cspm := setBlock status.features.cspm (cfg.block .cspm)
        sbom := setSbom status.features.sbom (cfg.coreAgent.bind (·.sbom))
        usm := setBlock status.features.usm (cfg.block .usm) } := by
  have hfeatures : (status.remoteConfigConfiguration.getD {}).features.getD {} =
      status.features := by
    unfold DatadogAgentStatus.features
    cases status.remoteConfigConfiguration <;> rfl
  simp only [updateStatus, hfeatures]
  rfl

theorem updateStatus_block (cfg : DatadogAgentRemoteConfig) (status : DatadogAgentStatus)
    (f : Flag) :
    (updateStatus cfg status).block f = setBlock (status.block f) (cfg.block f) := by
  cases f with
  | cws | cspm | usm => simp only [DatadogAgentStatus.block, updateStatus_features]
  | sbom | sbomHost | sbomContainerImage =>
    simp only [DatadogAgentStatus.block, updateStatus_features, DatadogAgentRemoteConfig.block]
    rcases cfg.coreAgent.bind (·.sbom) with _ | sbom
    · rfl
    · cases status.features.sbom <;> rfl

theorem updateStatus_flag (cfg : DatadogAgentRemoteConfig) (status : DatadogAgentStatus)
    (f : Flag) : (updateStatus cfg status).flag f = cfg.flag f := by
  unfold DatadogAgentStatus.flag DatadogAgentRemoteConfig.flag
  rw [updateStatus_block, setBlock_eq]
  cases cfg.block f <;> rfl

theorem updateInstanceStatus_updated
    (h : updateInstanceStatus cfg status write = .updated before after) :
    after = updateStatus cfg before := by
  unfold updateInstanceStatus at h
  split_ifs at h with hsame
  · cases h
    exact hsame.symm
  · cases write with
    | stored =>
      cases h
      rfl
    | conflict _ => cases h
    | failed _ => cases h

theorem getAndUpdate_updated (h : getAndUpdateDatadogAgent cfg a = .updated before after) :
    after = updateStatus cfg before := by
  unfold getAndUpdateDatadogAgent at h
  split at h
  · cases h
  · cases h
  · exact updateInstanceStatus_updated h

theorem withRetry_updated
    (h : getAndUpdateDatadogAgentWithRetry cfg first retries = .updated before after) :
    after = updateStatus cfg before := by
  induction retries generalizing first with
  | nil => exact getAndUpdate_updated h
  | cons a retries ih =>
    unfold getAndUpdateDatadogAgentWithRetry at h
    split at h
    · exact ih h
    · exact getAndUpdate_updated h

/-! ## Decoding -/

def orderOf (json : Json) (entries : List (String × RawConfig)) : Option (List String) :=
  (entries.find? (·.2.id = configurationOrder)).bind fun entry =>
    match json.unmarshalOrder entry.2.config with
    | .ok order => order
    | .error _ => none

def configOf (json : Json) (entries : List (String × RawConfig)) (id : String) :
    Option DatadogAgentRemoteConfig :=
  if id = configurationOrder then none
  else
    (entries.find? (·.2.id = id)).bind fun entry =>
      match json.unmarshalConfig entry.2.config with
      | .ok config => some { config with id }
      | .error _ => none

def IDs (entries : List (String × RawConfig)) : List String := entries.map (·.2.id)

section Decoding

variable {json : Json} {entries entries' : List (String × RawConfig)}

theorem find?_eq_some_iff_of_nodup (h : (IDs entries).Nodup) {id : String} :
    entries.find? (·.2.id = id) = some entry ↔ entry ∈ entries ∧ entry.2.id = id := by
  constructor
  · intro hfind
    exact ⟨List.mem_of_find?_eq_some hfind, by simpa using List.find?_some hfind⟩
  · rintro ⟨hmem, hid⟩
    obtain ⟨other, hother⟩ : ∃ other, entries.find? (·.2.id = id) = some other :=
      Option.isSome_iff_exists.mp (List.find?_isSome.mpr ⟨entry, hmem, by simpa using hid⟩)
    have hid' : other.2.id = id := by simpa using List.find?_some hother
    have hsame := List.inj_on_of_nodup_map h (List.mem_of_find?_eq_some hother) hmem (hid'.trans hid.symm)
    rw [hother, hsame]

theorem find?_perm (h : (IDs entries).Nodup) (hperm : entries'.Perm entries) (id : String) :
    entries'.find? (·.2.id = id) = entries.find? (·.2.id = id) := by
  have h' : (IDs entries').Nodup := (hperm.map _).nodup_iff.mpr h
  apply Option.ext
  intro entry
  rw [find?_eq_some_iff_of_nodup h', find?_eq_some_iff_of_nodup h, hperm.mem_iff]

theorem orderOf_perm (h : (IDs entries).Nodup) (hperm : entries'.Perm entries) :
    orderOf json entries' = orderOf json entries := by
  unfold orderOf
  rw [find?_perm h hperm]

theorem configOf_perm (h : (IDs entries).Nodup) (hperm : entries'.Perm entries) (id : String) :
    configOf json entries' id = configOf json entries id := by
  unfold configOf
  rw [find?_perm h hperm]

theorem find?_eq_none_of_not_mem {id : String} (h : id ∉ IDs entries) :
    entries.find? (·.2.id = id) = none := by
  simpa [IDs] using h

theorem decodeEntry_find {entry : String × RawConfig}
    (h : decodeEntry json p entry = .ok p') (hnew : entry.2.id ∉ IDs entries) (id : String) :
    (configOf json entries id).or (p'.find id) =
      (configOf json (entry :: entries) id).or (p.find id) := by
  unfold decodeEntry at h
  split_ifs at h with horder
  · split at h
    · cases h
    · cases h
      by_cases hid : id = configurationOrder
      · simp only [configOf, hid, if_true]
        rfl
      · have hne : entry.2.id ≠ id := by
          rw [horder]
          exact Ne.symm hid
        simp only [configOf, List.find?_cons, hne, decide_false]
        rfl
  · split at h
    · cases h
    · rename_i config hconfig
      cases h
      by_cases hid : entry.2.id = id
      · subst hid
        simp only [configOf, if_neg horder, find?_eq_none_of_not_mem hnew, List.find?_cons,
          decide_true, Option.bind_none, Option.none_or, Option.bind_some, hconfig, Option.some_or,
          Decoded.find]
      · simp only [configOf, List.find?_cons, hid, decide_false, Decoded.find]

theorem decodeEntry_order {entry : String × RawConfig}
    (h : decodeEntry json p entry = .ok p') (hnew : entry.2.id ∉ IDs entries) :
    (orderOf json entries).getD p'.order = (orderOf json (entry :: entries)).getD p.order := by
  unfold decodeEntry at h
  split_ifs at h with horder
  · split at h
    · cases h
    · rename_i order hdecoded
      cases h
      rw [horder] at hnew
      simp only [orderOf, find?_eq_none_of_not_mem hnew, List.find?_cons, horder, decide_true,
        Option.bind_none, Option.getD_none, Option.bind_some, hdecoded]
  · split at h
    · cases h
    · cases h
      simp only [orderOf, List.find?_cons, horder, decide_false]

theorem decode_all (h : entries.foldlM (decodeEntry json) p = .ok p') (hids : (IDs entries).Nodup) :
    p'.order = (orderOf json entries).getD p.order ∧
      ∀ id, p'.find id = (configOf json entries id).or (p.find id) := by
  induction entries generalizing p with
  | nil =>
    cases h
    refine ⟨rfl, ?_⟩
    intro id
    unfold configOf
    split_ifs <;> rfl
  | cons entry entries ih =>
    rw [List.foldlM_cons] at h
    rcases hentry : decodeEntry json p entry with _ | p₁
    · rw [hentry] at h
      cases h
    · rw [hentry] at h
      obtain ⟨hnew, hids⟩ := List.nodup_cons.mp hids
      obtain ⟨horder, hfind⟩ := ih h hids
      refine ⟨?_, ?_⟩
      · rw [horder, decodeEntry_order hentry hnew]
      · intro id
        rw [hfind, decodeEntry_find hentry hnew]

end Decoding

/-! ## After an update -/

/-- The order of an update, none if there is no order in it. -/
def Updates.order (json : Json) (u : Updates) : List String := (orderOf json u.entries).getD []

def Updates.config (json : Json) (u : Updates) (id : String) : Option DatadogAgentRemoteConfig :=
  configOf json u.entries id

/-- The flag in the last configuration of the order that sets it. -/
def Updates.flag (json : Json) (u : Updates) (f : Flag) : Option Bool :=
  lastSet (fun id => (u.config json id).bind (·.flag f)) (u.order json)

/-- Some configuration of the order has the block of the flag. -/
def Updates.Has (json : Json) (u : Updates) (f : Flag) : Prop :=
  ∃ id ∈ u.order json, ∃ config, u.config json id = some config ∧ (config.block f).isSome

theorem merged_of_parse {u : Updates} {cfg : DatadogAgentRemoteConfig}
    (h : parseReceivedUpdates json u.decoded = .ok cfg) (hids : (IDs u.entries).Nodup) :
    (∀ f, cfg.flag f = u.flag json f) ∧ ∀ f, (cfg.block f).isSome ↔ u.Has json f := by
  unfold parseReceivedUpdates at h
  rcases hp : u.decoded.foldlM (decodeEntry json) {} with _ | p
  · rw [hp] at h
    cases h
  · rw [hp] at h
    cases h
    have hids' : (IDs u.decoded).Nodup := (u.perm.map _).nodup_iff.mpr hids
    obtain ⟨horder, hfind⟩ := decode_all hp hids'
    have horder : p.order = u.order json := by
      rw [horder, orderOf_perm hids u.perm]
      rfl
    have hfind : ∀ id, p.find id = u.config json id := by
      intro id
      rw [hfind, configOf_perm hids u.perm]
      exact Option.or_none
    constructor
    · intro f
      rw [merged_flag, horder]
      simp only [hfind]
      rfl
    · intro f
      rw [merged_block, horder]
      simp only [hfind]
      rfl

theorem callback_updated (h : agentConfigUpdateCallback json u first retries = some out)
    (hresult : out.result = some (.updated before after)) :
    ∃ cfg, parseReceivedUpdates json u.decoded = .ok cfg ∧ after = updateStatus cfg before := by
  unfold agentConfigUpdateCallback at h
  dsimp only at h
  split at h
  · cases h
    cases hresult
  · rename_i cfg hparse
    refine ⟨cfg, hparse, ?_⟩
    split at h
    · obtain ⟨id, -, rfl⟩ := Option.map_eq_some_iff.mp h
      cases hresult
    · cases h
      exact withRetry_updated (Option.some.inj hresult)

theorem flags_after_update (json : Json) (u : Updates) (hids : (IDs u.entries).Nodup)
    (first : Attempt) (retries : List Attempt) (out : Outcome) (before after : DatadogAgentStatus)
    (h : agentConfigUpdateCallback json u first retries = some out)
    (hresult : out.result = some (.updated before after)) :
    (∀ f, after.flag f = u.flag json f) ∧
    after.other = before.other ∧
    after.features.orchestratorExplorer = before.features.orchestratorExplorer ∧
    after.features.other = before.features.other ∧
    ∀ f, (u.Has json f → (after.block f).map (·.other) = some ((before.block f).getD {}).other) ∧
      (¬ u.Has json f → after.block f = none) := by
  obtain ⟨cfg, hparse, rfl⟩ := callback_updated h hresult
  obtain ⟨hflag, hblock⟩ := merged_of_parse hparse hids
  refine ⟨?_, rfl, ?_, ?_, ?_⟩
  · intro f
    rw [updateStatus_flag, hflag]
  · rw [updateStatus_features]
  · rw [updateStatus_features]
  · intro f
    rw [updateStatus_block, setBlock_eq, ← hblock]
    rcases cfg.block f with _ | block
    · exact ⟨nofun, fun _ => rfl⟩
    · exact ⟨fun _ => rfl, fun hnone => absurd rfl hnone⟩

/-! ## Two configurations -/

def exampleJson : Json where
  unmarshalOrder
    | "order" => .ok (some ["base", "unknown", "team"])
    | _ => .error "unexpected end of JSON input"
  unmarshalConfig
    | "usm and host sbom" =>
      .ok
        { systemProbe := some { usm := some ⟨some true⟩ }
          coreAgent := some { sbom := some { enabled := some true, host := some ⟨some true⟩ } } }
    | "no usm" => .ok { systemProbe := some { usm := some ⟨some false⟩ } }
    | _ => .error "unexpected end of JSON input"

def exampleUpdates : Updates where
  entries :=
    [("1/order", ⟨configurationOrder, "order"⟩), ("2/base", ⟨"base", "usm and host sbom"⟩),
      ("3/team", ⟨"team", "no usm"⟩)]
  decoded :=
    [("3/team", ⟨"team", "no usm"⟩), ("1/order", ⟨configurationOrder, "order"⟩),
      ("2/base", ⟨"base", "usm and host sbom"⟩)]
  nodup := by decide
  perm := by decide

def exampleStatus : DatadogAgentStatus where
  remoteConfigConfiguration := some
    { features := some
        { cws := some ⟨some true, "syscallMonitorEnabled"⟩
          usm := some ⟨some true, "image"⟩
          orchestratorExplorer := some "customResources" } }
  other := "conditions"

def exampleAfter : DatadogAgentStatus where
  remoteConfigConfiguration := some
    { features := some
        { usm := some ⟨some false, "image"⟩
          sbom := some { enabled := some true, host := some ⟨some true, ""⟩ }
          orchestratorExplorer := some "customResources" } }
  other := "conditions"

def exampleOutcome : Outcome where
  calls :=
    ["1/order", "2/base", "3/team"].map (fun path => (path, { state := .unacknowledged })) ++
      ["1/order", "2/base", "3/team"].map fun path => (path, { state := .acknowledged })
  result := some (.updated exampleStatus exampleAfter)

theorem team_config_wins : exampleAfter.flag .usm = exampleUpdates.flag exampleJson .usm ∧
    exampleUpdates.flag exampleJson .usm = some false :=
  ⟨(flags_after_update exampleJson exampleUpdates (by decide) { agents := .ok [exampleStatus] } []
      exampleOutcome exampleStatus exampleAfter (by decide +kernel) rfl).1 .usm, by decide +kernel⟩

theorem reset_drops_other_fields :
    (agentConfigUpdateCallback exampleJson exampleUpdates { agents := .ok [exampleStatus] } []).map
        (·.result) = some (some (.updated exampleStatus exampleAfter)) ∧
      (exampleStatus.block .cws).map (·.other) = some "syscallMonitorEnabled" ∧
      exampleAfter.block .cws = none := by
  refine ⟨?_, rfl, rfl⟩
  decide +kernel

end DatadogOperator.RemoteConfig
