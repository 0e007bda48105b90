import DatadogOperator.Lib.LastSet

/-!
# Remote configuration of features

The callback for agent configurations: the updates are decoded, merged in the order they
come with, written to the status of the DatadogAgent, and their paths are reported back.
-/

namespace DatadogOperator.RemoteConfig

/-! ## Configurations -/

structure FeatureEnabledConfig where
  enabled : Option Bool := none

structure SbomConfig where
  enabled : Option Bool := none
  host : Option FeatureEnabledConfig := none
  containerImage : Option FeatureEnabledConfig := none

structure CoreAgentFeaturesConfig where
  sbom : Option SbomConfig := none

structure SystemProbeFeaturesConfig where
  cws : Option FeatureEnabledConfig := none
  usm : Option FeatureEnabledConfig := none

structure SecurityAgentFeaturesConfig where
  cspm : Option FeatureEnabledConfig := none

structure DatadogAgentRemoteConfig where
  id : String := ""
  coreAgent : Option CoreAgentFeaturesConfig := none
  systemProbe : Option SystemProbeFeaturesConfig := none
  securityAgent : Option SecurityAgentFeaturesConfig := none

def mergeFeature (dst src : Option FeatureEnabledConfig) : Option FeatureEnabledConfig :=
  match src with
  | none => dst
  | some src =>
    let dst := dst.getD {}
    some { enabled := if src.enabled.isSome then src.enabled else dst.enabled }

def mergeSbom (dst src : Option SbomConfig) : Option SbomConfig :=
  match src with
  | none => dst
  | some src =>
    let dst := dst.getD {}
    some
      { enabled := if src.enabled.isSome then src.enabled else dst.enabled
        host := mergeFeature dst.host src.host
        containerImage := mergeFeature dst.containerImage src.containerImage }

def mergeConfigs (dst src : DatadogAgentRemoteConfig) : DatadogAgentRemoteConfig where
  id :=
    if src.id ≠ "" ∧ dst.id ≠ "" then dst.id ++ "|" ++ src.id
    else if src.id ≠ "" then src.id
    else dst.id
  coreAgent :=
    match src.coreAgent with
    | none => dst.coreAgent
    | some src =>
      let dst := dst.coreAgent.getD {}
      some { sbom := mergeSbom dst.sbom src.sbom }
  systemProbe :=
    match src.systemProbe with
    | none => dst.systemProbe
    | some src =>
      let dst := dst.systemProbe.getD {}
      some { cws := mergeFeature dst.cws src.cws, usm := mergeFeature dst.usm src.usm }
  securityAgent :=
    match src.securityAgent with
    | none => dst.securityAgent
    | some src =>
      let dst := dst.securityAgent.getD {}
      some { cspm := mergeFeature dst.cspm src.cspm }

/-! ## Updates -/

/-- `id` is that of the metadata. -/
structure RawConfig where
  id : String
  config : String
  deriving DecidableEq

/-- `json.Unmarshal` for the two kinds of update. An order that is missing in the text
leaves the one there was. -/
structure Json where
  unmarshalOrder : String → Except String (Option (List String))
  unmarshalConfig : String → Except String DatadogAgentRemoteConfig

/-- The update map, in the order in which its paths are collected and in the order in which
it is decoded. -/
structure Updates where
  entries : List (String × RawConfig)
  decoded : List (String × RawConfig)
  nodup : (entries.map Prod.fst).Nodup
  perm : decoded.Perm entries

/-- `configByID` has the newest entry of an ID first. -/
structure Decoded where
  order : List String := []
  configByID : List DatadogAgentRemoteConfig := []

def configurationOrder := "configuration_order"

/-- One turn of the loop: the error is reported for the path. -/
def decodeEntry (json : Json) (p : Decoded) (entry : String × RawConfig) :
    Except (String × String) Decoded :=
  if entry.2.id = configurationOrder then
    match json.unmarshalOrder entry.2.config with
    | .error err => .error (entry.1, err)
    | .ok order => .ok { p with order := order.getD p.order }
  else
    match json.unmarshalConfig entry.2.config with
    | .error err => .error (entry.1, err)
    | .ok config => .ok { p with configByID := { config with id := entry.2.id } :: p.configByID }

def Decoded.find (p : Decoded) (id : String) : Option DatadogAgentRemoteConfig :=
  p.configByID.find? (·.id = id)

def Decoded.merged (p : Decoded) : DatadogAgentRemoteConfig :=
  p.order.foldl (fun final id =>
    match p.find id with
    | some config => mergeConfigs final config
    | none => final) {}

def parseReceivedUpdates (json : Json) (updates : List (String × RawConfig)) :
    Except (String × String) DatadogAgentRemoteConfig :=
  (updates.foldlM (decodeEntry json) {}).map Decoded.merged

/-! ## The status of the DatadogAgent -/

/-- A feature's block: `other` is its other fields. -/
structure Block where
  enabled : Option Bool := none
  other : String := ""
  deriving DecidableEq

structure SBOMFeatureConfig extends Block where
  host : Option Block := none
  containerImage : Option Block := none
  deriving DecidableEq

/-- `other` is the features that the callback does not name. -/
structure DatadogFeatures where
  cws : Option Block := none
  cspm : Option Block := none
  usm : Option Block := none
  sbom : Option SBOMFeatureConfig := none
  orchestratorExplorer : Option String := none
  other : String := ""
  deriving DecidableEq

structure RemoteConfigConfiguration where
  features : Option DatadogFeatures := none
  deriving DecidableEq

/-- `other` is the rest of the status. -/
structure DatadogAgentStatus where
  remoteConfigConfiguration : Option RemoteConfigConfiguration := none
  other : String := ""
  deriving DecidableEq

/-- The block of the status takes the flag of the configuration, and goes when the
configuration has no such block. -/
def setBlock (block : Option Block) (cfg : Option FeatureEnabledConfig) : Option Block :=
  cfg.map fun cfg => { block.getD {} with enabled := cfg.enabled }

def setSbom (sbom : Option SBOMFeatureConfig) (cfg : Option SbomConfig) :
    Option SBOMFeatureConfig :=
  cfg.map fun cfg =>
    let sbom := sbom.getD {}
    { sbom with
      enabled := cfg.enabled
      host := setBlock sbom.host cfg.host
      containerImage := setBlock sbom.containerImage cfg.containerImage }

def updateStatus (cfg : DatadogAgentRemoteConfig) (status : DatadogAgentStatus) :
    DatadogAgentStatus :=
  let features := (status.remoteConfigConfiguration.getD {}).features.getD {}
  let features := { features with
    cws := setBlock features.cws (cfg.systemProbe.bind (·.cws))
    cspm := setBlock features.cspm (cfg.securityAgent.bind (·.cspm))
    sbom := setSbom features.sbom (cfg.coreAgent.bind (·.sbom))
    usm := setBlock features.usm (cfg.systemProbe.bind (·.usm)) }
  { status with remoteConfigConfiguration := some { features := some features } }

/-! ## Writing it -/

/-- How the write of the status ends. After a conflict the status is another one. -/
inductive Write
  | stored
  | conflict (status : DatadogAgentStatus)
  | failed (err : String)

/-- One attempt: the statuses of the DatadogAgents that are listed, and the write. -/
structure Attempt where
  agents : Except String (List DatadogAgentStatus)
  write : Write := .stored

inductive Result
  | updated (before after : DatadogAgentStatus)
  | contended (status : DatadogAgentStatus)
  | failed (err : String)
  deriving DecidableEq

/-- A conflict is only logged. -/
def updateInstanceStatus (cfg : DatadogAgentRemoteConfig) (status : DatadogAgentStatus)
    (write : Write) : Result :=
  if updateStatus cfg status = status then .updated status status
  else
    match write with
    | .stored => .updated status (updateStatus cfg status)
    | .conflict other => .contended other
    | .failed err => .failed err

def getAndUpdateDatadogAgent (cfg : DatadogAgentRemoteConfig) (a : Attempt) : Result :=
  match a.agents with
  | .error err => .failed ("unable to list DatadogAgents: " ++ err)
  | .ok [] => .failed "cannot find any DatadogAgent"
  | .ok (status :: _) => updateInstanceStatus cfg status a.write

/-- The attempts until the time is up; there is always a first one. -/
def getAndUpdateDatadogAgentWithRetry (cfg : DatadogAgentRemoteConfig) :
    (first : Attempt) → (retries : List Attempt) → Result
  | a, [] => getAndUpdateDatadogAgent cfg a
  | a, a' :: retries =>
    match getAndUpdateDatadogAgent cfg a with
    | .failed _ => getAndUpdateDatadogAgentWithRetry cfg a' retries
    | result => result

/-! ## The callback -/

inductive ApplyState
  | unacknowledged
  | acknowledged
  | error
  deriving DecidableEq

structure ApplyStatus where
  state : ApplyState
  error : String := ""
  deriving DecidableEq

/-- The calls of `applyStatus`, and what became of the status if the update was decoded. -/
structure Outcome where
  calls : List (String × ApplyStatus)
  result : Option Result := none
  deriving DecidableEq

/-- Nothing when it panics, on the last of no paths. -/
def agentConfigUpdateCallback (json : Json) (updates : Updates) (first : Attempt)
    (retries : List Attempt) : Option Outcome :=
  let configIDs := updates.entries.map Prod.fst
  let calls := configIDs.map fun id => (id, { state := .unacknowledged })
  match parseReceivedUpdates json updates.decoded with
  | .error (path, err) => some { calls := calls ++ [(path, { state := .error, error := err })] }
  | .ok merged =>
    match getAndUpdateDatadogAgentWithRetry merged first retries with
    | .failed err =>
      configIDs.getLast?.map fun id =>
        { calls := calls ++ [(id, { state := .error, error := err })], result := some (.failed err) }
    | result =>
      some
        { calls := calls ++ configIDs.map fun id => (id, { state := .acknowledged })
          result := some result }

def Outcome.state (out : Outcome) (path : String) : Option ApplyState :=
  LastSet.lastSet (fun call => if call.1 = path then some call.2.state else none) out.calls

def Result.persisted : Result → Option DatadogAgentStatus
  | .updated _ after => some after
  | .contended status => some status
  | .failed _ => none

/-! ## Flags -/

inductive Flag
  | cws
  | cspm
  | usm
  | sbom
  | sbomHost
  | sbomContainerImage

def DatadogAgentRemoteConfig.block (cfg : DatadogAgentRemoteConfig) :
    Flag → Option FeatureEnabledConfig
  | .cws => cfg.systemProbe.bind (·.cws)
  | .cspm => cfg.securityAgent.bind (·.cspm)
  | .usm => cfg.systemProbe.bind (·.usm)
  | .sbom => (cfg.coreAgent.bind (·.sbom)).map fun sbom => { enabled := sbom.enabled }
  | .sbomHost => (cfg.coreAgent.bind (·.sbom)).bind (·.host)
  | .sbomContainerImage => (cfg.coreAgent.bind (·.sbom)).bind (·.containerImage)

def DatadogAgentRemoteConfig.flag (cfg : DatadogAgentRemoteConfig) (f : Flag) : Option Bool :=
  (cfg.block f).bind (·.enabled)

def DatadogAgentStatus.features (status : DatadogAgentStatus) : DatadogFeatures :=
  (status.remoteConfigConfiguration.bind (·.features)).getD {}

def DatadogAgentStatus.block (status : DatadogAgentStatus) : Flag → Option Block
  | .cws => status.features.cws
  | .cspm => status.features.cspm
  | .usm => status.features.usm
  | .sbom => status.features.sbom.map (·.toBlock)
  | .sbomHost => status.features.sbom.bind (·.host)
  | .sbomContainerImage => status.features.sbom.bind (·.containerImage)

def DatadogAgentStatus.flag (status : DatadogAgentStatus) (f : Flag) : Option Bool :=
  (status.block f).bind (·.enabled)

end DatadogOperator.RemoteConfig
