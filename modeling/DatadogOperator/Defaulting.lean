import DatadogOperator.Lib.Defaults

/-!
# Defaults of a DatadogAgent

`DefaultDatadogAgentSpec` fills in the unset fields of a spec. A spec is the
partial function from the pointer fields it goes through or fills to their
values, and a run without a result is a nil dereference. A struct that is
embedded by value is part of the name of the pointers below it, and a plain
string is unset when it is empty. The code keeps what is set and settles after
one run, and it has a result for every spec but those with a
`dogstatsd.hostPortConfig` that does not say whether it is enabled.
-/

namespace DatadogOperator.Defaulting

open Defaults Defaulter

inductive Kind
  | struct
  | bool
  | string
  | int
  | eventTypes
  deriving DecidableEq

structure EventTypes where
  kind : String
  reasons : List String

abbrev Kind.Val : Kind → Type
  | .struct => Unit
  | .bool => Bool
  | .string => String
  | .int => Int
  | .eventTypes => List EventTypes

inductive Key
  | global | site | registry | logLevel | containerStrategy | useFIPSAgent | fips | enabled | image
  | name | tag | localAddress | port | portRange | useHTTPS | kubelet | podResourcesSocketPath
  | features | logCollection | containerCollectUsingFiles | containerLogsPath | podLogsPath
  | containerSymlinksPath | tempStoragePath | liveContainerCollection | otelCollector
  | liveProcessCollection | processDiscovery | oomKill | tcpQueueLength | ebpfCheck
  | serviceDiscovery | gpu | apm | hostPortConfig | unixDomainSocketConfig | path
  | singleStepInstrumentation | languageDetection | injector | errorTrackingStandalone | asm
  | threats | sca | iast | cspm | hostBenchmarks | cws | network | securityProfiles | enforcement
  | syscallMonitorEnabled | directSendFromSystemProbe | npm | enableConntrack | collectDNSStats
  | usm | dynamicInstrumentation | dogstatsd | originDetectionEnabled | nonLocalTraffic | otlp
  | receiverProtocolsGRPC | receiverProtocolsHTTP | endpoint | remoteConfiguration
  | eventCollection | collectKubernetesEvents | unbundleEvents | collectedEventTypes
  | orchestratorExplorer | scrubContainers | kubeStateMetricsCore | admissionController
  | mutateUnlabelled | serviceName | validation | mutation | agentSidecarInjection
  | clusterAgentCommunicationEnabled | kubernetesAdmissionEvents | cwsInstrumentation | mode
  | externalMetricsServer | useDatadogMetrics | registerAPIService | clusterChecks
  | useClusterChecksRunners | prometheusScrape | enableServiceEndpoints | version | helmCheck
  | collectEvents | controlPlaneMonitoring | dataPlane
  deriving DecidableEq

structure Field where
  kind : Kind
  path : List Key
  deriving DecidableEq

abbrev Field.Val (f : Field) : Type := f.kind.Val

abbrev Spec := Record Field.Val

abbrev Code := Defaulter Field.Val

/-- The pointers to structs on the way to a field. -/
def owners (path : List Key) : List Field := path.inits.tail.dropLast.map (⟨.struct, ·⟩)

section
variable (path : List Key)

def initStruct : Code := fill (owners path) ⟨.struct, path⟩ ()

def defaultBooleanIfUnset (d : Bool) : Code := fill (owners path) ⟨.bool, path⟩ d

/-- Also for a plain string, which is unset when it is empty. -/
def defaultStringIfUnset (d : String) : Code := fill (owners path) ⟨.string, path⟩ d

def defaultIntIfUnset (d : Int) : Code := fill (owners path) ⟨.int, path⟩ d

/-- The value of a flag that is taken to be set. -/
def deref : Condition Field.Val where
  eval s := if AllSet s (owners path) then s ⟨.bool, path⟩ else none
  needs := ⟨.bool, path⟩ :: owners path
  implies := []
  watches := []
  isSome_eval s h := by
    have ho : AllSet s (owners path) := fun f hf => h f (.tail _ hf)
    rw [if_pos ho]
    exact h _ (.head _)
  allSet_implies _ _ := nofun
  eval_eq s t b h ht _ := by
    split_ifs at h with ho
    rw [if_pos (ho.mono ht)]
    exact ht ⟨.bool, path⟩ b h

def boolValue : Condition Field.Val where
  eval s := if AllSet s (owners path) then some ((s ⟨.bool, path⟩).getD false) else none
  needs := owners path
  implies := []
  watches := [⟨.bool, path⟩]
  isSome_eval s h := by simp [h]
  allSet_implies _ _ := nofun
  eval_eq s t b h ht hw := by
    split_ifs at h with ho
    rw [if_pos (ho.mono ht), hw _ (.head _)]
    exact h

def isSet : Condition Field.Val where
  eval s := if AllSet s (owners path) then some (s ⟨.struct, path⟩).isSome else none
  needs := owners path
  implies := [⟨.struct, path⟩]
  watches := [⟨.struct, path⟩]
  isSome_eval s h := by simp [h]
  allSet_implies s h := by
    split_ifs at h
    simpa [AllSet] using h
  eval_eq s t b h ht hw := by
    split_ifs at h with ho
    rw [if_pos (ho.mono ht), hw _ (.head _)]
    exact h

end

/-! ## Global settings -/

def defaultRegistry : Code :=
  ifUnset (owners [.global, .registry]) ⟨.string, [.global, .registry]⟩
    [⟨.string, [.global, .site]⟩]
    (fun s => (s ⟨.string, [.global, .site]⟩).map fun site =>
      if site = "ddog-gov.com" then "public.ecr.aws/datadog" else "registry.datadoghq.com")
    (fun s h => by simpa using h _ (.head _)) skip

def defaultGlobalConfig : Code := all [
  initStruct [.global],
  defaultStringIfUnset [.global, .site] "datadoghq.com",
  defaultRegistry,
  defaultStringIfUnset [.global, .logLevel] "info",
  defaultStringIfUnset [.global, .containerStrategy] "optimized",
  defaultBooleanIfUnset [.global, .useFIPSAgent] false,
  initStruct [.global, .fips],
  defaultBooleanIfUnset [.global, .fips, .enabled] false,
  when (deref [.global, .fips, .enabled]) (all [
    initStruct [.global, .fips, .image],
    defaultStringIfUnset [.global, .fips, .image, .name] "fips-proxy",
    defaultStringIfUnset [.global, .fips, .image, .tag] "1.1.29",
    defaultStringIfUnset [.global, .fips, .localAddress] "127.0.0.1",
    defaultIntIfUnset [.global, .fips, .port] 9803,
    defaultIntIfUnset [.global, .fips, .portRange] 15,
    defaultBooleanIfUnset [.global, .fips, .useHTTPS] false]),
  initStruct [.global, .kubelet],
  defaultStringIfUnset [.global, .kubelet, .podResourcesSocketPath]
    "/var/lib/kubelet/pod-resources/"]

/-! ## Features -/

/-- A struct below the features, with its `Enabled`. -/
def initEnabled (path : List Key) (d : Bool) : Code :=
  (initStruct (.features :: path)).seq (defaultBooleanIfUnset (.features :: path ++ [.enabled]) d)

def whenEnabled (path : List Key) (body : List Code) : Code :=
  when (deref (.features :: path ++ [.enabled])) (all body)

/-- From the start of `defaultFeaturesConfig` to the origin detection of dogstatsd. -/
def defaultNodeFeatures : Code := all [
  initStruct [.features],
  initEnabled [.logCollection] false,
  whenEnabled [.logCollection] [
    defaultBooleanIfUnset [.features, .logCollection, .containerCollectUsingFiles] true,
    defaultStringIfUnset [.features, .logCollection, .containerLogsPath]
      "/var/lib/docker/containers",
    defaultStringIfUnset [.features, .logCollection, .podLogsPath] "/var/log/pods",
    defaultStringIfUnset [.features, .logCollection, .containerSymlinksPath] "/var/log/containers",
    defaultStringIfUnset [.features, .logCollection, .tempStoragePath]
      "/var/lib/datadog-agent/logs"],
  initEnabled [.liveContainerCollection] true,
  initEnabled [.otelCollector] false,
  initEnabled [.liveProcessCollection] false,
  initEnabled [.processDiscovery] true,
  initEnabled [.oomKill] false,
  initEnabled [.tcpQueueLength] false,
  initEnabled [.ebpfCheck] false,
  initStruct [.features, .serviceDiscovery],
  initEnabled [.gpu] false,
  initEnabled [.apm] true,
  whenEnabled [.apm] [
    initEnabled [.apm, .hostPortConfig] false,
    defaultIntIfUnset [.features, .apm, .hostPortConfig, .port] 8126,
    initEnabled [.apm, .unixDomainSocketConfig] true,
    defaultStringIfUnset [.features, .apm, .unixDomainSocketConfig, .path]
      "/var/run/datadog/apm.socket",
    initStruct [.features, .apm, .singleStepInstrumentation],
    initStruct [.features, .apm, .singleStepInstrumentation, .languageDetection],
    initStruct [.features, .apm, .singleStepInstrumentation, .injector],
    defaultBooleanIfUnset [.features, .apm, .singleStepInstrumentation, .enabled] false,
    defaultBooleanIfUnset
      [.features, .apm, .singleStepInstrumentation, .languageDetection, .enabled] true,
    initEnabled [.apm, .errorTrackingStandalone] false],
  initStruct [.features, .asm],
  initEnabled [.asm, .threats] false,
  initEnabled [.asm, .sca] false,
  initEnabled [.asm, .iast] false,
  initEnabled [.cspm] false,
  whenEnabled [.cspm] [initEnabled [.cspm, .hostBenchmarks] true],
  initEnabled [.cws] false,
  whenEnabled [.cws] [
    initStruct [.features, .cws, .network],
    initStruct [.features, .cws, .securityProfiles],
    initStruct [.features, .cws, .enforcement],
    defaultBooleanIfUnset [.features, .cws, .syscallMonitorEnabled] false,
    defaultBooleanIfUnset [.features, .cws, .network, .enabled] true,
    defaultBooleanIfUnset [.features, .cws, .securityProfiles, .enabled] true,
    defaultBooleanIfUnset [.features, .cws, .directSendFromSystemProbe] false,
    defaultBooleanIfUnset [.features, .cws, .enforcement, .enabled] true],
  initEnabled [.npm] false,
  whenEnabled [.npm] [
    defaultBooleanIfUnset [.features, .npm, .enableConntrack] true,
    defaultBooleanIfUnset [.features, .npm, .collectDNSStats] true],
  initEnabled [.usm] false,
  initEnabled [.dynamicInstrumentation] false,
  initStruct [.features, .dogstatsd],
  defaultBooleanIfUnset [.features, .dogstatsd, .originDetectionEnabled] false]

def dogstatsdHostPort : List Key := [.features, .dogstatsd, .hostPortConfig]

def dogstatsdHostPortEnabled : Field := ⟨.bool, [.features, .dogstatsd, .hostPortConfig, .enabled]⟩

/-- The only struct that is created with a field of its own. -/
def initDogstatsdHostPort : Code :=
  ifUnset (owners dogstatsdHostPort) ⟨.struct, dogstatsdHostPort⟩ [] (fun _ => some ())
    (fun _ _ => rfl)
    (defaultBooleanIfUnset [.features, .dogstatsd, .hostPortConfig, .enabled] false)

/-- Unlike the one of APM, the flag is not defaulted before it is read. -/
def defaultDogstatsdPort : Code :=
  whenEnabled [.dogstatsd, .hostPortConfig]
    [defaultIntIfUnset [.features, .dogstatsd, .hostPortConfig, .port] 8125]

def defaultOTLPProtocol (protocol : Key) (endpoint : String) : Code := all [
  initEnabled [.otlp, protocol] false,
  when (boolValue [.features, .otlp, protocol, .enabled])
    (initEnabled [.otlp, protocol, .hostPortConfig] true),
  defaultStringIfUnset [.features, .otlp, protocol, .endpoint] endpoint]

def defaultEventTypes : List EventTypes :=
  [⟨"Pod", ["Failed", "BackOff", "Unhealthy", "FailedScheduling", "FailedMount",
    "FailedAttachVolume"]⟩,
   ⟨"Node", ["TerminatingEvictedPod", "NodeNotReady", "Rebooted", "HostPortConflict"]⟩,
   ⟨"CronJob", ["SawCompletedJob"]⟩]

/-- From the socket of dogstatsd to the end of `defaultFeaturesConfig`. -/
def defaultClusterFeatures : Code := all [
  initEnabled [.dogstatsd, .unixDomainSocketConfig] true,
  defaultStringIfUnset [.features, .dogstatsd, .unixDomainSocketConfig, .path]
    "/var/run/datadog/dsd.socket",
  defaultBooleanIfUnset [.features, .dogstatsd, .nonLocalTraffic] true,
  initStruct [.features, .otlp],
  defaultOTLPProtocol .receiverProtocolsGRPC "0.0.0.0:4317",
  defaultOTLPProtocol .receiverProtocolsHTTP "0.0.0.0:4318",
  initEnabled [.remoteConfiguration] true,
  initStruct [.features, .eventCollection],
  defaultBooleanIfUnset [.features, .eventCollection, .collectKubernetesEvents] true,
  when (boolValue [.features, .eventCollection, .unbundleEvents])
    (fill (owners [.features, .eventCollection, .collectedEventTypes])
      ⟨.eventTypes, [.features, .eventCollection, .collectedEventTypes]⟩ defaultEventTypes),
  initEnabled [.orchestratorExplorer] true,
  whenEnabled [.orchestratorExplorer]
    [defaultBooleanIfUnset [.features, .orchestratorExplorer, .scrubContainers] true],
  initEnabled [.kubeStateMetricsCore] true,
  initEnabled [.admissionController] true,
  whenEnabled [.admissionController] [
    -- The flag is set here, so that this default never applies.
    defaultBooleanIfUnset [.features, .admissionController, .enabled] true,
    defaultBooleanIfUnset [.features, .admissionController, .mutateUnlabelled] false,
    defaultStringIfUnset [.features, .admissionController, .serviceName]
      "datadog-admission-controller"],
  initEnabled [.admissionController, .validation] true,
  initEnabled [.admissionController, .mutation] true,
  when (isSet [.features, .admissionController, .agentSidecarInjection])
    (when (boolValue [.features, .admissionController, .agentSidecarInjection, .enabled])
      (defaultBooleanIfUnset [.features, .admissionController, .agentSidecarInjection,
        .clusterAgentCommunicationEnabled] true)),
  initEnabled [.admissionController, .kubernetesAdmissionEvents] false,
  initEnabled [.admissionController, .cwsInstrumentation] false,
  whenEnabled [.admissionController, .cwsInstrumentation] [
    defaultStringIfUnset [.features, .admissionController, .cwsInstrumentation, .mode]
      "remote_copy"],
  initEnabled [.externalMetricsServer] false,
  whenEnabled [.externalMetricsServer] [
    defaultBooleanIfUnset [.features, .externalMetricsServer, .useDatadogMetrics] true,
    defaultBooleanIfUnset [.features, .externalMetricsServer, .registerAPIService] true,
    defaultIntIfUnset [.features, .externalMetricsServer, .port] 8443],
  initEnabled [.clusterChecks] true,
  whenEnabled [.clusterChecks]
    [defaultBooleanIfUnset [.features, .clusterChecks, .useClusterChecksRunners] false],
  initEnabled [.prometheusScrape] false,
  whenEnabled [.prometheusScrape] [
    defaultBooleanIfUnset [.features, .prometheusScrape, .enableServiceEndpoints] false,
    defaultIntIfUnset [.features, .prometheusScrape, .version] 2],
  initEnabled [.helmCheck] false,
  whenEnabled [.helmCheck]
    [defaultBooleanIfUnset [.features, .helmCheck, .collectEvents] false],
  initEnabled [.controlPlaneMonitoring] true,
  initStruct [.features, .dataPlane],
  initEnabled [.dataPlane, .dogstatsd] true]

def defaultFeaturesConfig : Code :=
  defaultNodeFeatures.seq
    (initDogstatsdHostPort.seq (defaultDogstatsdPort.seq defaultClusterFeatures))

def defaultDatadogAgentSpec : Code := defaultGlobalConfig.seq defaultFeaturesConfig

/-! ## Every spec but one kind gets its defaults -/

/-- What runs before the host port of dogstatsd. -/
def beforeHostPort : Code := defaultGlobalConfig.seq defaultNodeFeatures

theorem run_defaultDatadogAgentSpec (s : Spec) :
    defaultDatadogAgentSpec.run s = (beforeHostPort.run s).bind fun s₁ =>
      (initDogstatsdHostPort.run s₁).bind
        (defaultDogstatsdPort.seq defaultClusterFeatures).run := by
  simp only [defaultDatadogAgentSpec, defaultFeaturesConfig, beforeHostPort, run_seq,
    Option.bind_assoc]
  rfl

/-- The code before the host port leaves it alone, and sets the structs around it. -/
theorem beforeHostPort_run (s : Spec) :
    ∃ s₁, beforeHostPort.run s = some s₁ ∧ AllSet s₁ beforeHostPort.gives ∧
      s₁ ⟨.struct, dogstatsdHostPort⟩ = s ⟨.struct, dogstatsdHostPort⟩ ∧
      s₁ dogstatsdHostPortEnabled = s dogstatsdHostPortEnabled := by
  have hneeds : beforeHostPort.needs = [] := by decide +kernel
  obtain ⟨s₁, hs₁⟩ := Option.isSome_iff_exists.mp
    (beforeHostPort.isSome_run s (by simp [hneeds, AllSet]))
  exact ⟨s₁, hs₁, beforeHostPort.allSet_gives s s₁ hs₁,
    beforeHostPort.frame s s₁ hs₁ _ (by decide +kernel),
    beforeHostPort.frame s s₁ hs₁ _ (by decide +kernel)⟩

theorem initDogstatsdHostPort_enabled (h : initDogstatsdHostPort.run s = some s')
    (hs : s ⟨.struct, dogstatsdHostPort⟩ = none ∨ (s dogstatsdHostPortEnabled).isSome) :
    (s' dogstatsdHostPortEnabled).isSome := by
  rcases hs with hnone | henabled
  · -- The struct is created, and its flag set along with it.
    simp only [initDogstatsdHostPort, ifUnset, hnone, Option.isSome_none, Option.bind_some] at h
    simp only [Bool.false_eq_true, if_false] at h
    split_ifs at h
    exact (defaultBooleanIfUnset _ false).allSet_gives _ _ h _ (.head _)
  · exact (initDogstatsdHostPort.extends_run s s' h).isSome henabled

theorem initDogstatsdHostPort_noop (ho : AllSet s (owners dogstatsdHostPort))
    (h : s ⟨.struct, dogstatsdHostPort⟩ ≠ none) : initDogstatsdHostPort.run s = some s := by
  simp [initDogstatsdHostPort, ifUnset, ho, Option.isSome_iff_ne_none.mpr h]

theorem defaultDogstatsdPort_nil (h : s dogstatsdHostPortEnabled = none) :
    defaultDogstatsdPort.run s = none := by
  have heval : (deref [.features, .dogstatsd, .hostPortConfig, .enabled]).eval s = none := by
    simp only [deref]
    split_ifs
    · exact h
    · rfl
  exact congrArg (Option.bind · _) heval

/-- The defaults are filled in without a nil dereference, keep every field that
is set and stay as they are in a second run, just when `dogstatsd.hostPortConfig`
is not set, or says whether it is enabled. -/
theorem defaults_filled_iff (s : Spec) :
    (∃ s', defaultDatadogAgentSpec.run s = some s' ∧ Extends s s' ∧
      defaultDatadogAgentSpec.run s' = some s') ↔
      s ⟨.struct, dogstatsdHostPort⟩ = none ∨ (s dogstatsdHostPortEnabled).isSome := by
  obtain ⟨s₁, hs₁, hgives, hstruct, henabled⟩ := beforeHostPort_run s
  have howners : AllSet s₁ (owners dogstatsdHostPort) := fun f hf =>
    hgives f ((by decide +kernel : ∀ f ∈ owners dogstatsdHostPort, f ∈ beforeHostPort.gives) f hf)
  constructor
  · rintro ⟨s', hrun, -⟩
    by_contra hnil
    rw [not_or, Bool.not_eq_true, Option.isSome_eq_false_iff, Option.isNone_iff_eq_none] at hnil
    rw [run_defaultDatadogAgentSpec, hs₁, Option.bind_some,
      initDogstatsdHostPort_noop howners (hstruct ▸ hnil.1), Option.bind_some, run_seq,
      defaultDogstatsdPort_nil (henabled.trans hnil.2)] at hrun
    cases hrun
  · intro hs
    rw [← hstruct, ← henabled] at hs
    have hinit : ∀ f ∈ initDogstatsdHostPort.needs, f ∈ beforeHostPort.gives := by decide +kernel
    obtain ⟨s₂, hs₂⟩ := Option.isSome_iff_exists.mp
      (initDogstatsdHostPort.isSome_run s₁ fun f hf => hgives f (hinit f hf))
    have hneeds : ∀ f ∈ (defaultDogstatsdPort.seq defaultClusterFeatures).needs,
        f = dogstatsdHostPortEnabled ∨ f ∈ initDogstatsdHostPort.gives ∨
          f ∈ beforeHostPort.gives := by decide +kernel
    have hset : AllSet s₂ (defaultDogstatsdPort.seq defaultClusterFeatures).needs := by
      intro f hf
      rcases hneeds f hf with rfl | hinit | hbefore
      · exact initDogstatsdHostPort_enabled hs₂ hs
      · exact initDogstatsdHostPort.allSet_gives s₁ s₂ hs₂ f hinit
      · exact (initDogstatsdHostPort.extends_run s₁ s₂ hs₂).isSome (hgives f hbefore)
    obtain ⟨s', hs'⟩ := Option.isSome_iff_exists.mp (isSome_run _ s₂ hset)
    have hrun : defaultDatadogAgentSpec.run s = some s' := by
      rw [run_defaultDatadogAgentSpec, hs₁, Option.bind_some, hs₂, Option.bind_some, hs']
    exact ⟨s', hrun, extends_run _ s s' hrun, run_again _ (by decide +kernel) hrun⟩

def hostPortOnly : Spec
  | ⟨.struct, path⟩ => if path.length ≠ 0 ∧ path <+: dogstatsdHostPort then some () else none
  | ⟨.int, [.features, .dogstatsd, .hostPortConfig, .port]⟩ => some 8125
  | _ => none

theorem hostPortOnly_dereferences_nil : (defaultDatadogAgentSpec.run hostPortOnly).isNone := by
  decide +kernel

end DatadogOperator.Defaulting
