import DatadogOperator.Lib.LastSet
import DatadogOperator.Lib.Runs
import DatadogOperator.Merger.Containers

/-!
# A pod template as maps

Names are unique in the lists of a pod template, so each list is a finite map. A call of a
manager with the default merge is an update of the maps of the containers it means. So the
last call that sets a name has the last word: user overrides are applied after the features.
-/

namespace DatadogOperator.Merger

open Runs LastSet

inductive Call
  | addEnvVar (newEnvVar : EnvVar)
  | addEnvVarToContainer (containerName : String) (newEnvVar : EnvVar)
  | addEnvVarToContainers (containerNames : List String) (newEnvVar : EnvVar)
  | addEnvVarToInitContainer (initContainerName : String) (newEnvVar : EnvVar)
  | addPortToContainer (containerName : String) (newPort : ContainerPort)
  | addVolume (volume : Volume)

def step (pod : PodSpec) : Call → PodSpec
  | .addEnvVar e => pod.addEnvVar e
  | .addEnvVarToContainer name e => pod.addEnvVarToContainer name e
  | .addEnvVarToContainers names e => pod.addEnvVarToContainers names e
  | .addEnvVarToInitContainer name e => pod.addEnvVarToInitContainer name e
  | .addPortToContainer name p => pod.addPortToContainer name p
  | .addVolume v => pod.addVolume v

/-! ## Maps -/

structure ContainerMaps where
  env : String → Option EnvVar
  ports : String → Option ContainerPort

structure PodMaps where
  containers : String → Option ContainerMaps
  initContainers : String → Option ContainerMaps
  volumes : String → Option Volume

def Container.maps (c : Container) : ContainerMaps where
  env := Tables.get (·.name) c.env
  ports := Tables.get (·.name) c.ports

def PodSpec.maps (pod : PodSpec) : PodMaps where
  containers name := (Tables.get (·.name) pod.containers name).map Container.maps
  initContainers name := (Tables.get (·.name) pod.initContainers name).map Container.maps
  volumes := Tables.get (·.name) pod.volumes

def Call.env (container : String) : Call → Option EnvVar
  | .addEnvVar e => if allAgentContainers.contains container then some e else none
  | .addEnvVarToContainer name e => if container = name then some e else none
  | .addEnvVarToContainers names e => if container ∈ names then some e else none
  | _ => none

def Call.initEnv (container : String) : Call → Option EnvVar
  | .addEnvVarToInitContainer name e => if container = name then some e else none
  | _ => none

def Call.port (container : String) : Call → Option ContainerPort
  | .addPortToContainer name p => if container = name then some p else none
  | _ => none

def Call.volume : Call → Option Volume
  | .addVolume v => some v
  | _ => none

def setName {α : Type} (name : α → String) (m : String → Option α) : Option α → String → Option α
  | some x => Function.update m (name x) (some x)
  | none => m

def PodMaps.step (m : PodMaps) (call : Call) : PodMaps where
  containers name := (m.containers name).map fun c =>
    { env := setName (·.name) c.env (call.env name)
      ports := setName (·.name) c.ports (call.port name) }
  initContainers name := (m.initContainers name).map fun c =>
    { c with env := setName (·.name) c.env (call.initEnv name) }
  volumes := setName (·.name) m.volumes call.volume

structure PodSpec.Unique (pod : PodSpec) : Prop where
  containers : (pod.containers.map (·.name)).Nodup
  initContainers : (pod.initContainers.map (·.name)).Nodup
  env : ∀ c ∈ pod.containers ++ pod.initContainers, (c.env.map (·.name)).Nodup
  ports : ∀ c ∈ pod.containers ++ pod.initContainers, (c.ports.map (·.name)).Nodup
  volumes : (pod.volumes.map (·.name)).Nodup

/-! ## What a call does to the lists -/

/-- A row is put into a list, if there is one. -/
def putName {α : Type} (name : α → String) (xs : List α) : Option α → List α
  | some x => Tables.putKey name x xs
  | none => xs

def Container.write (c : Container) (env : Option EnvVar) (port : Option ContainerPort) :
    Container :=
  { c with env := putName (·.name) c.env env, ports := putName (·.name) c.ports port }

@[simp] theorem Container.write_name (c : Container) (env : Option EnvVar)
    (port : Option ContainerPort) : (c.write env port).name = c.name := rfl

@[simp] theorem Container.write_none (c : Container) : c.write none none = c := rfl

theorem addToList_override {α : Type} (name : α → String) (default : MergeFunction α)
    (hdefault : default = overrideCurrentMergeFunction) (new : α) (xs : List α) :
    addToList (fun x => name x = name new) default default new xs =
      (Tables.putKey name new xs, none) := by
  subst hdefault
  exact Tables.add_override _ new xs

theorem addEnvVarToContainer_default (e : EnvVar) (c : Container) :
    addEnvVarToContainer e defaultEnvVarMergeFunction c = (c.write (some e) none, none) := by
  have hadd := addToList_override EnvVar.name defaultEnvVarMergeFunction rfl e c.env
  simp only [addEnvVarToContainer, eq_comm (a := e.name), hadd]
  rfl

theorem addPortToContainer_default (p : ContainerPort) (c : Container) :
    addPortToContainer p defaultPortMergeFunction c = (c.write none (some p), none) := by
  have hadd := addToList_override ContainerPort.name defaultPortMergeFunction rfl p c.ports
  simp only [addPortToContainer, hadd]
  rfl

theorem addVolumeToPod_default (v : Volume) (pod : PodSpec) :
    addVolumeToPod v defaultVolumeMergeFunction pod =
      ({ pod with volumes := Tables.putKey (·.name) v pod.volumes }, none) := by
  have hadd := addToList_override Volume.name defaultVolumeMergeFunction rfl v pod.volumes
  simp only [addVolumeToPod, eq_comm (a := v.name), hadd]

theorem updateContainers_write (pod : PodSpec) (p : Container → Bool)
    (hf : ∀ c, f c = (c.write env port, none)) :
    (pod.updateContainers p f).1 = { pod with
        containers := pod.containers.map fun c => if p c then c.write env port else c } := by
  simp [PodSpec.updateContainers, Tables.updateEach_of_ok fun c => congrArg Prod.snd (hf c), hf]

theorem updateInitContainers_write (pod : PodSpec) (p : Container → Bool)
    (hf : ∀ c, f c = (c.write env port, none)) :
    (pod.updateInitContainers p f).1 = { pod with
        initContainers := pod.initContainers.map fun c => if p c then c.write env port else c } := by
  simp [PodSpec.updateInitContainers, Tables.updateEach_of_ok fun c => congrArg Prod.snd (hf c), hf]

theorem addEnvVarToContainer_containers (pod : PodSpec) (name : String) (e : EnvVar) :
    pod.addEnvVarToContainer name e = { pod with
        containers := pod.containers.map fun c =>
          if c.name = name then c.write (some e) none else c } := by
  refine (updateContainers_write pod (fun c => c.name = name)
    (addEnvVarToContainer_default e)).trans ?_
  simp

theorem addEnvVarToContainers_containers (pod : PodSpec) (names : List String) (e : EnvVar) :
    pod.addEnvVarToContainers names e = { pod with
        containers := pod.containers.map fun c =>
          if c.name ∈ names then c.write (some e) none else c } := by
  unfold PodSpec.addEnvVarToContainers
  induction names generalizing pod with
  | nil => simp
  | cons name names ih =>
    rw [List.foldl_cons, ih, addEnvVarToContainer_containers, List.map_map]
    congr 1
    refine List.map_congr_left fun c _ => ?_
    rw [Function.comp_apply]
    by_cases hname : c.name = name
    · by_cases hmem : c.name ∈ names
      · simp [hname, hname ▸ hmem, Container.write, putName, Tables.putKey_putKey]
      · simp [hname, hname ▸ hmem]
    · by_cases hmem : c.name ∈ names
      · simp [hname, hmem]
      · simp [hname, hmem]

theorem Container.write_ite_env (c : Container) (p : Prop) [Decidable p] (e : EnvVar) :
    c.write (if p then some e else none) none = if p then c.write (some e) none else c := by
  split_ifs <;> rfl

theorem Container.write_ite_port (c : Container) (p : Prop) [Decidable p] (port : ContainerPort) :
    c.write none (if p then some port else none) = if p then c.write none (some port) else c := by
  split_ifs <;> rfl

theorem step_eq (pod : PodSpec) (call : Call) : step pod call =
    { containers := pod.containers.map fun c => c.write (call.env c.name) (call.port c.name)
      initContainers := pod.initContainers.map fun c => c.write (call.initEnv c.name) none
      volumes := putName (·.name) pod.volumes call.volume } := by
  cases call with
  | addEnvVar e =>
    refine (updateContainers_write pod isAgentContainer (addEnvVarToContainer_default e)).trans ?_
    simp [isAgentContainer, Call.env, Call.port, Call.initEnv, Call.volume, putName,
      Container.write_ite_env]
  | addEnvVarToContainer name e =>
    simp [step, addEnvVarToContainer_containers, Call.env, Call.port, Call.initEnv, Call.volume,
      putName, Container.write_ite_env]
  | addEnvVarToContainers names e =>
    simp [step, addEnvVarToContainers_containers, Call.env, Call.port, Call.initEnv, Call.volume,
      putName, Container.write_ite_env]
  | addEnvVarToInitContainer name e =>
    refine (updateInitContainers_write pod (fun c => c.name = name)
      (addEnvVarToContainer_default e)).trans ?_
    simp [Call.env, Call.port, Call.initEnv, Call.volume, putName, Container.write_ite_env]
  | addPortToContainer name port =>
    refine (updateContainers_write pod (fun c => c.name = name)
      (addPortToContainer_default port)).trans ?_
    simp [Call.env, Call.port, Call.initEnv, Call.volume, putName, Container.write_ite_port]
  | addVolume v =>
    refine (congrArg Prod.fst (addVolumeToPod_default v pod)).trans ?_
    simp [Call.env, Call.port, Call.initEnv, Call.volume, putName]

/-! ## One call -/

theorem nodup_putName {α : Type} {name : α → String} {xs : List α} (h : (xs.map name).Nodup)
    (o : Option α) : ((putName name xs o).map name).Nodup := by
  cases o with
  | none => exact h
  | some x => exact Tables.nodup_putKey h

theorem get_putName {α : Type} (name : α → String) (xs : List α) (o : Option α) :
    Tables.get name (putName name xs o) = setName name (Tables.get name xs) o := by
  cases o with
  | none => rfl
  | some x =>
    funext k
    rw [putName, Tables.get_putKey, setName, Function.update_apply]

theorem PodSpec.Unique.step {pod : PodSpec} (h : pod.Unique) (call : Call) :
    (Merger.step pod call).Unique := by
  rw [step_eq]
  refine ⟨?_, ?_, ?_, ?_, nodup_putName h.volumes _⟩
  · simpa [Function.comp_def] using h.containers
  · simpa [Function.comp_def] using h.initContainers
  · intro c hc
    simp only [List.mem_append, List.mem_map] at hc
    rcases hc with ⟨c, hc, rfl⟩ | ⟨c, hc, rfl⟩
    · exact nodup_putName (h.env c (List.mem_append_left _ hc)) _
    · exact nodup_putName (h.env c (List.mem_append_right _ hc)) _
  · intro c hc
    simp only [List.mem_append, List.mem_map] at hc
    rcases hc with ⟨c, hc, rfl⟩ | ⟨c, hc, rfl⟩
    · exact nodup_putName (h.ports c (List.mem_append_left _ hc)) _
    · exact h.ports c (List.mem_append_right _ hc)

theorem Container.maps_write (c : Container) (env : Option EnvVar) (port : Option ContainerPort) :
    (c.write env port).maps =
      ⟨setName (·.name) c.maps.env env, setName (·.name) c.maps.ports port⟩ := by
  simp [Container.maps, Container.write, get_putName]

theorem get_map_write (env : String → Option EnvVar) (port : String → Option ContainerPort)
    (cs : List Container) (name : String) :
    Tables.get (·.name) (cs.map fun c => c.write (env c.name) (port c.name)) name =
      (Tables.get (·.name) cs name).map fun c => c.write (env name) (port name) := by
  rw [Tables.get_map (f := fun c : Container => c.write (env c.name) (port c.name)) fun c => rfl]
  cases hget : Tables.get (·.name) cs name with
  | none => rfl
  | some c =>
    have hname : c.name = name := by simpa using List.find?_some hget
    simp [hname]

theorem maps_step (pod : PodSpec) (call : Call) : (step pod call).maps = pod.maps.step call := by
  have hmain := get_map_write (fun name => call.env name) (fun name => call.port name) pod.containers
  have hinit := get_map_write (fun name => call.initEnv name) (fun _ => none) pod.initContainers
  rw [step_eq]
  unfold PodSpec.maps PodMaps.step
  simp only [hmain, hinit, get_putName, Option.map_map, Function.comp_def, Container.maps_write]
  rfl

/-! ## All calls -/

theorem maps_run (pod : PodSpec) (calls : List Call) :
    (run step pod calls).maps = run PodMaps.step pod.maps calls := by
  induction calls generalizing pod with
  | nil => rfl
  | cons call calls ih =>
    rw [run, List.foldl_cons, run, List.foldl_cons, ← maps_step]
    exact ih _

theorem setName_apply {α : Type} (name : α → String) (m : String → Option α) (o : Option α)
    (k : String) : setName name m o k = (o.filter fun x => name x = k).or (m k) := by
  cases o with
  | none => rfl
  | some x =>
    by_cases h : name x = k
    · subst h
      simp [setName, Option.filter]
    · simp [setName, Option.filter, h, Ne.symm h]

/-- The values of the last calls that set something. -/
def ContainerMaps.overridden (m : ContainerMaps) (env : Call → Option EnvVar)
    (port : Call → Option ContainerPort) (calls : List Call) : ContainerMaps where
  env k := (lastSet (fun call => (env call).filter fun e => e.name = k) calls).or (m.env k)
  ports k := (lastSet (fun call => (port call).filter fun p => p.name = k) calls).or (m.ports k)

section
variable {env : Call → Option EnvVar} {port : Call → Option ContainerPort}

theorem maps_foldl_write (calls : List Call) (c : Container) :
    (calls.foldl (fun c call => c.write (env call) (port call)) c).maps =
      c.maps.overridden env port calls := by
  rw [ContainerMaps.overridden, ContainerMaps.mk.injEq]
  constructor
  · funext k
    refine read_foldl (fun c : Container => c.maps.env k) _ (fun c call => ?_) calls c
    rw [Container.maps_write]
    exact setName_apply _ _ _ k
  · funext k
    refine read_foldl (fun c : Container => c.maps.ports k) _ (fun c call => ?_) calls c
    rw [Container.maps_write]
    exact setName_apply _ _ _ k

theorem name_foldl_write (calls : List Call) (c : Container) :
    (calls.foldl (fun c call => c.write (env call) (port call)) c).name = c.name := by
  induction calls generalizing c with
  | nil => rfl
  | cons call calls ih => exact ih _

theorem foldl_write_of_none {calls : List Call}
    (h : ∀ call ∈ calls, env call = none ∧ port call = none) (c : Container) :
    calls.foldl (fun c call => c.write (env call) (port call)) c = c := by
  induction calls with
  | nil => rfl
  | cons call calls ih =>
    obtain ⟨henv, hport⟩ := h call (.head _)
    rw [List.foldl_cons, henv, hport, Container.write_none]
    exact ih fun call hcall => h call (.tail _ hcall)

end

theorem list_run {list : PodSpec → List Container} {env : String → Call → Option EnvVar}
    {port : String → Call → Option ContainerPort}
    (hstep : ∀ pod call, list (step pod call) =
      (list pod).map fun c => c.write (env c.name call) (port c.name call))
    (pod : PodSpec) (calls : List Call) :
    list (run step pod calls) = (list pod).map fun c =>
      calls.foldl (fun d call => d.write (env c.name call) (port c.name call)) c := by
  induction calls generalizing pod with
  | nil => simp [run]
  | cons call calls ih =>
    rw [run, List.foldl_cons]
    refine (ih _).trans ?_
    rw [hstep, List.map_map]
    rfl

/-- How a container looks after all calls: its maps hold what was set last, and if nothing
was set it is as before. -/
structure Container.Overridden (c c' : Container) (env : Call → Option EnvVar)
    (port : Call → Option ContainerPort) (calls : List Call) : Prop where
  name : c'.name = c.name
  maps : c'.maps = c.maps.overridden env port calls
  untouched : (∀ call ∈ calls, env call = none ∧ port call = none) → c' = c

theorem list_run_overridden (list : PodSpec → List Container) (env : String → Call → Option EnvVar)
    (port : String → Call → Option ContainerPort)
    (hstep : ∀ pod call, list (step pod call) =
      (list pod).map fun c => c.write (env c.name call) (port c.name call))
    (pod : PodSpec) (calls : List Call) :
    List.Forall₂ (fun c c' => c.Overridden c' (env c.name) (port c.name) calls) (list pod)
      (list (run step pod calls)) := by
  rw [list_run hstep, List.forall₂_map_right_iff, List.forall₂_same]
  intro c _
  exact ⟨name_foldl_write calls c, maps_foldl_write calls c, fun h => foldl_write_of_none h c⟩

theorem volumes_run (pod : PodSpec) (calls : List Call) (k : String) :
    (run step pod calls).maps.volumes k =
      (lastSet (fun call : Call => call.volume.filter fun v => v.name = k) calls).or
        (pod.maps.volumes k) := by
  refine read_foldl (fun pod : PodSpec => pod.maps.volumes k) _ (fun pod call => ?_) calls pod
  rw [maps_step]
  exact setName_apply _ _ _ k

/-- Whatever is called, the lists of a pod template are the maps that the calls describe,
and what was set last is what stays. -/
theorem managers_refine_maps (pod : PodSpec) (h : pod.Unique) (calls : List Call) :
    (run step pod calls).Unique ∧ (run step pod calls).maps = run PodMaps.step pod.maps calls ∧
      List.Forall₂ (fun c c' => c.Overridden c' (Call.env c.name) (Call.port c.name) calls)
        pod.containers (run step pod calls).containers ∧
      List.Forall₂ (fun c c' => c.Overridden c' (Call.initEnv c.name) (fun _ => none) calls)
        pod.initContainers (run step pod calls).initContainers ∧
      ∀ k, (run step pod calls).maps.volumes k =
        (lastSet (fun call : Call => call.volume.filter fun v => v.name = k) calls).or
          (pod.maps.volumes k) := by
  refine ⟨run_always (fun _ call h => h.step call) h calls, maps_run pod calls, ?_, ?_,
    volumes_run pod calls⟩
  · exact list_run_overridden PodSpec.containers Call.env Call.port
      (fun pod call => by rw [step_eq]) pod calls
  · exact list_run_overridden PodSpec.initContainers Call.initEnv (fun _ _ => none)
      (fun pod call => by rw [step_eq]) pod calls

def agentPod : PodSpec where
  initContainers := [{ name := "init-config" }]
  containers := [{ name := "agent", env := [{ name := "DD_LOG_LEVEL", value := "info" }] },
    { name := "trace-agent" }, { name := "fips-proxy" }]

/-- A feature sets the log level for all agents, then the user for one. -/
def logLevelCalls : List Call :=
  [.addEnvVar { name := "DD_LOG_LEVEL", value := "warn" },
    .addEnvVarToContainer "agent" { name := "DD_LOG_LEVEL", value := "debug" }]

theorem agentPod_refines_maps : (run step agentPod logLevelCalls).Unique ∧
      (run step agentPod logLevelCalls).maps = run PodMaps.step agentPod.maps logLevelCalls := by
  have h := managers_refine_maps agentPod ⟨by decide, by decide, by decide, by decide, by decide⟩
    logLevelCalls
  exact ⟨h.1, h.2.1⟩

example : (run step agentPod logLevelCalls).containers =
    [{ name := "agent", env := [{ name := "DD_LOG_LEVEL", value := "debug" }] },
      { name := "trace-agent", env := [{ name := "DD_LOG_LEVEL", value := "warn" }] },
      { name := "fips-proxy" }] :=
  rfl

end DatadogOperator.Merger
