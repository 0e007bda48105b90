import DatadogOperator.Lib.Tables

/-!
# Managers of a pod template

`datadogagent/merger`: environment variables, ports, volumes and volume mounts are added to
a pod template by managers. What is there under the same name is merged with what is added;
a volume mount is also merged with what is mounted at its path. A merge function decides, by
default for the new value.
-/

namespace DatadogOperator.Merger

inductive MergeError
  | mergeAttempted
  | pathUsed (path : String)
  deriving DecidableEq

structure EnvVar where
  name : String
  value : String := ""
  /-- `ValueFrom` -/
  source : String := ""

structure ContainerPort where
  name : String := ""
  containerPort : Nat
  hostPort : Nat := 0
  protocol : String := "TCP"

structure VolumeMount where
  name : String
  mountPath : String
  subPath : String := ""
  readOnly : Bool := false

structure KeyToPath where
  key : String
  path : String
  mode : Option Int := none
  deriving DecidableEq

structure ConfigMapVolumeSource where
  name : String
  items : List KeyToPath := []
  defaultMode : Option Int := none
  optional : Option Bool := none
  deriving DecidableEq

structure Volume where
  name : String
  configMap : Option ConfigMapVolumeSource := none
  /-- Any other source. -/
  source : String := ""

structure Container where
  name : String
  env : List EnvVar := []
  ports : List ContainerPort := []
  volumeMounts : List VolumeMount := []

structure PodSpec where
  initContainers : List Container := []
  containers : List Container := []
  volumes : List Volume := []

/-- `AllAgentContainers`: the node agents, the cluster agent and the single agent. -/
def allAgentContainers : List String :=
  ["agent", "trace-agent", "process-agent", "security-agent", "system-probe", "otel-agent",
    "host-profiler", "agent-data-plane", "private-action-runner", "flightrecorder",
    "cluster-agent", "unprivileged-single-agent"]

def isAgentContainer (c : Container) : Bool := allAgentContainers.contains c.name

/-! ## Merge functions -/

abbrev MergeFunction (α : Type) := α → α → Except MergeError α

def overrideCurrentMergeFunction {α : Type} : MergeFunction α := fun _ new => .ok new
def defaultEnvVarMergeFunction : MergeFunction EnvVar := overrideCurrentMergeFunction
def defaultPortMergeFunction : MergeFunction ContainerPort := overrideCurrentMergeFunction
def defaultVolumeMergeFunction : MergeFunction Volume := overrideCurrentMergeFunction
def defaultVolumeMountMergeFunction : MergeFunction VolumeMount := overrideCurrentMergeFunction

/-- Without a merge function the default one is used. -/
def addToList {α : Type} (same : α → Bool) (default : MergeFunction α)
    (mergeFunc : Option (MergeFunction α)) (new : α) (xs : List α) : List α × Option MergeError :=
  Tables.add same (fun current => mergeFunc.getD default current new) new xs

/-! ## One container -/

def addEnvVarToContainer (envvar : EnvVar) (mergeFunc : Option (MergeFunction EnvVar))
    (c : Container) : Container × Option MergeError :=
  let r := addToList (fun cEnvVar => envvar.name = cEnvVar.name) defaultEnvVarMergeFunction
    mergeFunc envvar c.env
  ({ c with env := r.1 }, r.2)

def addPortToContainer (newPort : ContainerPort) (mergeFunc : Option (MergeFunction ContainerPort))
    (c : Container) : Container × Option MergeError :=
  let r := addToList (fun cPort => cPort.name = newPort.name) defaultPortMergeFunction mergeFunc
    newPort c.ports
  ({ c with ports := r.1 }, r.2)

/-- A mount of the same volume or at the same path. -/
def VolumeMount.sameAs (volumeMount cVolumeMount : VolumeMount) : Bool :=
  volumeMount.name = cVolumeMount.name || volumeMount.mountPath = cVolumeMount.mountPath

def addVolumeMountToContainerWithMergeFunc (volumeMount : VolumeMount)
    (mergeFunc : Option (MergeFunction VolumeMount)) (c : Container) :
    Container × Option MergeError :=
  let r := addToList volumeMount.sameAs defaultVolumeMountMergeFunction mergeFunc volumeMount
    c.volumeMounts
  ({ c with volumeMounts := r.1 }, r.2)

def addVolumeToPod (volume : Volume) (mergeFunc : Option (MergeFunction Volume)) (pod : PodSpec) :
    PodSpec × Option MergeError :=
  let r := addToList (fun cVolume => volume.name = cVolume.name) defaultVolumeMergeFunction
    mergeFunc volume pod.volumes
  ({ pod with volumes := r.1 }, r.2)

/-! ## Managers -/

namespace PodSpec

/-- The containers that are meant, up to the first error. -/
def updateContainers (pod : PodSpec) (p : Container → Bool)
    (f : Container → Container × Option MergeError) : PodSpec × Option MergeError :=
  let r := Tables.updateEach p f pod.containers
  ({ pod with containers := r.1 }, r.2)

def updateInitContainers (pod : PodSpec) (p : Container → Bool)
    (f : Container → Container × Option MergeError) : PodSpec × Option MergeError :=
  let r := Tables.updateEach p f pod.initContainers
  ({ pod with initContainers := r.1 }, r.2)

def addEnvVarWithMergeFunc (pod : PodSpec) (newEnvVar : EnvVar) (mergeFunc : MergeFunction EnvVar) :
    PodSpec × Option MergeError :=
  pod.updateContainers isAgentContainer (addEnvVarToContainer newEnvVar mergeFunc)

def addEnvVar (pod : PodSpec) (newEnvVar : EnvVar) : PodSpec :=
  (pod.addEnvVarWithMergeFunc newEnvVar defaultEnvVarMergeFunction).1

def addEnvVarToContainerWithMergeFunc (pod : PodSpec) (containerName : String) (newEnvVar : EnvVar)
    (mergeFunc : MergeFunction EnvVar) : PodSpec × Option MergeError :=
  pod.updateContainers (·.name = containerName) (Merger.addEnvVarToContainer newEnvVar mergeFunc)

def addEnvVarToContainer (pod : PodSpec) (containerName : String) (newEnvVar : EnvVar) : PodSpec :=
  (pod.addEnvVarToContainerWithMergeFunc containerName newEnvVar defaultEnvVarMergeFunction).1

def addEnvVarToContainers (pod : PodSpec) (containerNames : List String) (newEnvVar : EnvVar) :
    PodSpec :=
  containerNames.foldl (fun pod containerName => pod.addEnvVarToContainer containerName newEnvVar) pod

def addEnvVarToInitContainerWithMergeFunc (pod : PodSpec) (initContainerName : String)
    (newEnvVar : EnvVar) (mergeFunc : MergeFunction EnvVar) : PodSpec × Option MergeError :=
  pod.updateInitContainers (·.name = initContainerName)
    (Merger.addEnvVarToContainer newEnvVar mergeFunc)

def addEnvVarToInitContainer (pod : PodSpec) (initContainerName : String) (newEnvVar : EnvVar) :
    PodSpec :=
  (pod.addEnvVarToInitContainerWithMergeFunc initContainerName newEnvVar
    defaultEnvVarMergeFunction).1

def addPortToContainerWithMergeFunc (pod : PodSpec) (containerName : String)
    (newPort : ContainerPort) (mergeFunc : MergeFunction ContainerPort) :
    PodSpec × Option MergeError :=
  pod.updateContainers (·.name = containerName) (Merger.addPortToContainer newPort mergeFunc)

def addPortToContainer (pod : PodSpec) (containerName : String) (newPort : ContainerPort) : PodSpec :=
  (pod.addPortToContainerWithMergeFunc containerName newPort defaultPortMergeFunction).1

def addVolumeWithMergeFunc (pod : PodSpec) (volume : Volume) (volumeMergeFunc : MergeFunction Volume) :
    PodSpec × Option MergeError :=
  addVolumeToPod volume volumeMergeFunc pod

def addVolume (pod : PodSpec) (volume : Volume) : PodSpec :=
  (pod.addVolumeWithMergeFunc volume defaultVolumeMergeFunction).1

end PodSpec

end DatadogOperator.Merger
