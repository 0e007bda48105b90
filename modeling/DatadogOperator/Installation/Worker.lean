import DatadogOperator.Installation.Intent

/-!
# The worker of a managed installation

`managed_agent_installation_intent.go`, `_command.go` and `_state.go`. One
worker handles the intents. It checks an intent against the persisted state,
accepts its operation by writing it as running, and hands it to a goroutine
that writes the result; it also writes the acknowledgement of an install.
Writes read the ConfigMap and patch it under its resource version. The
worker's own are retried until they hold or fail, so they are one step; the
request of a goroutine that has been given up can still arrive later.

Task states in memory, events, tags and the retry timers are left out: they
only decide when an intent is handled again, and it can be handled at any time.
-/

namespace DatadogOperator.Installation

structure Command where
  intent : Intent
  digest : String

def newManagedAgentInstallationCommand (lib : Library) (intent : Intent) : Command :=
  { intent, digest := lib.digest intent.normalized }

inductive CommandError
  | operationID
  | installationID
  | otherTarget

/-- The identity is valid: it was checked when the daemon was set up. -/
def validateManagedAgentInstallationCommand (lib : Library) (identity : Identity)
    (command : Command) : Except CommandError Unit :=
  if command.intent.operationID = "" then .error .operationID
  else if command.intent.installationID ≠ identity.installationID then .error .installationID
  else if command.intent.provider ≠ providerEKS ∨
      command.intent.targetID ≠ lib.targetID identity.targetHash then .error .otherTarget
  else .ok ()

def CommandError.message : CommandError → String
  | .operationID => "DatadogAgent managed Agent installation operation ID is required"
  | .installationID => "DatadogAgent managed Agent installation ID does not match the local " ++
      "managed installation configuration"
  | .otherTarget => "managed Agent installation command belongs to a different provider target"

/-! ## The persisted state -/

def boundedTaskErrorMessage (message : String) : String :=
  String.ofList (message.toList.take 1024)

def managedAgentInstallationStateFromCommand (command : Command) (taskState : Fleet.TaskState)
    (taskErr : Option String) : PersistedState :=
  { provider := command.intent.provider
    installationID := command.intent.installationID
    targetID := command.intent.targetID
    operationID := command.intent.operationID
    digest := command.digest
    desiredState := command.intent.desiredState
    acknowledgedOperationID := command.intent.acknowledgedOperationID
    taskState
    error := (taskErr.map boundedTaskErrorMessage).getD "" }

structure StateConfigMap where
  resourceVersion : Nat
  data : PersistedState
  deriving DecidableEq

/-- A patch that changes nothing leaves the resource version. -/
def StateConfigMap.patched (cm : StateConfigMap) (data : PersistedState) : StateConfigMap :=
  if data = cm.data then cm else { resourceVersion := cm.resourceVersion + 1, data }

inductive StateError
  | incomplete
  /-- A result for a state that is not there. -/
  | missing (operationID : String)

def readManagedAgentInstallationState (stored : Option StateConfigMap) :
    Except StateError (Option PersistedState) :=
  match stored with
  | none => .ok none
  | some cm =>
    if cm.data.provider = "" ∨ cm.data.installationID = "" ∨ cm.data.targetID = "" ∨
        cm.data.operationID = "" ∨ cm.data.digest = "" then
      .error .incomplete
    else .ok (some cm.data)

/-- What a write sends once it has read the ConfigMap. -/
inductive Request
  | create (data : PersistedState)
  | patch (resourceVersion : Nat) (data : PersistedState)

def Request.data : Request → PersistedState
  | .create data => data
  | .patch _ data => data

/-- The read of `writeManagedAgentInstallationStateForOperation`: a result is
dropped when its operation is not the persisted one. -/
def prepareWrite (stored : Option StateConfigMap) (state : PersistedState)
    (expectedOperationID : String) : Except StateError (Option Request) :=
  match stored with
  | none =>
    if expectedOperationID ≠ "" then .error (.missing expectedOperationID)
    else .ok (some (.create state))
  | some cm =>
    if expectedOperationID ≠ "" ∧ cm.data.operationID ≠ expectedOperationID then .ok none
    else .ok (some (.patch cm.resourceVersion state))

def Request.lands (req : Request) (stored : Option StateConfigMap) : Bool :=
  match req, stored with
  | .create _, none => true
  | .patch version _, some cm => decide (cm.resourceVersion = version)
  | _, _ => false

def Request.land (req : Request) (stored : Option StateConfigMap) : Option StateConfigMap :=
  match req, stored with
  | .create data, none => some { resourceVersion := 1, data }
  | .patch version data, some cm =>
    some (if cm.resourceVersion = version then cm.patched data else cm)
  | _, stored => stored

def writeManagedAgentInstallationStateForOperation (stored : Option StateConfigMap)
    (state : PersistedState) (expectedOperationID : String) : Option StateConfigMap :=
  match prepareWrite stored state expectedOperationID with
  | .ok (some req) => req.land stored
  | .ok none | .error _ => stored

def writeManagedAgentInstallationState (stored : Option StateConfigMap) (state : PersistedState) :
    Option StateConfigMap :=
  writeManagedAgentInstallationStateForOperation stored state ""

def recordManagedAgentInstallationResult (stored : Option StateConfigMap) (command : Command)
    (taskState : Fleet.TaskState) (taskErr : Option String) : Option StateConfigMap :=
  writeManagedAgentInstallationStateForOperation stored
    (managedAgentInstallationStateFromCommand command taskState taskErr) command.intent.operationID

/-! ## The daemon -/

/-- The goroutine of `executeManagedAgentInstallationCommand`, and the request it
has sent for its result. -/
structure Execution where
  command : Command
  cancelled : Bool := false
  sent : Option Request := none

inductive Job
  | accept (command : Command)
  | reject (command : Command) (reason : CommandError)
  | acknowledge (state : PersistedState)

structure World where
  stored : Option StateConfigMap := none
  active : Option Execution := none
  /-- The worker waits for the active operation to end. -/
  waiting : Option Command := none
  writing : Option Job := none
  /-- Requests whose sender has gone. -/
  strays : List Request := []
  /-- The operations written as running so far, the newest first. -/
  accepted : List Command := []

/-- What the other calls come back with. -/
structure Calls where
  read : Bool := true
  tagsRefreshed : Bool := true
  /-- `managedAgentInstallationShouldWaitForFleet`, unset when it fails. -/
  waitForFleet : Option Bool := some false
  /-- The checks of the DatadogAgent before an acknowledgement. -/
  installComplete : Bool := true

inductive Outcome
  | written
  | failed
  /-- The write holds, and the daemon gets an error. -/
  | lost
  deriving DecidableEq

section
variable (lib : Library) (identity : Identity)

def World.read (w : World) (calls : Calls) : Option (Option PersistedState) :=
  if calls.read then (readManagedAgentInstallationState w.stored).toOption else none

def World.handleManagedAgentInstallationCommand (w : World) (command : Command) (calls : Calls) :
    World :=
  match calls.waitForFleet with
  | none | some true => w
  | some false =>
    if w.active.isSome then w
    else match validateManagedAgentInstallationCommand lib identity command with
      | .error reason => { w with writing := some (.reject command reason) }
      | .ok () => { w with writing := some (.accept command) }

def World.reconcileTerminalManagedAgentInstallation (w : World) (current : PersistedState)
    (command : Command) (calls : Calls) : World :=
  match current.taskState with
  | .done => w.handleManagedAgentInstallationCommand lib identity command calls
  | .error | .invalidState | .running => w

def World.acknowledgeManagedAgentInstallationInstall (w : World) (current : Option PersistedState)
    (intent : Intent) (calls : Calls) : World :=
  match current with
  | none => w
  | some current =>
    if current.desiredState ≠ .installed ∨ current.operationID ≠ intent.operationID ∨
        current.taskState ≠ .done then w
    else if current.acknowledgedOperationID ≠ "" ∧
        current.acknowledgedOperationID ≠ intent.operationID then w
    else if calls.installComplete = false then w
    else { w with writing := some (.acknowledge
      { current with acknowledgedOperationID := intent.operationID }) }

/-- The operation is persisted and has ended. -/
def ended (current : Option PersistedState) (intent : Intent) : Option PersistedState :=
  current.filter fun current =>
    decide (current.operationID = intent.operationID ∧ current.taskState ≠ .running)

/-- `handleManagedAgentInstallationIntent` from the wait for the slot on. -/
def World.continueIntent (w : World) (command : Command) (calls : Calls) : World :=
  match w.read calls with
  | none => w
  | some current =>
    match validateManagedAgentInstallationProgress current command.intent command.digest with
    | .error _ => w
    | .ok () =>
      match ended current command.intent with
      | some current =>
        w.reconcileTerminalManagedAgentInstallation lib identity current command calls
      | none => w.handleManagedAgentInstallationCommand lib identity command calls

/-- `handleManagedAgentInstallationIntent` of a decoded intent. -/
def World.handleManagedAgentInstallationIntent (w : World) (intent : Intent) (calls : Calls) :
    World :=
  let command := newManagedAgentInstallationCommand lib intent
  match w.read calls with
  | none => w
  | some current =>
    match validateManagedAgentInstallationProgress current intent command.digest with
    | .error _ => w
    | .ok () =>
      if intent.desiredState = .installed ∧ intent.acknowledgedOperationID ≠ "" then
        -- Acknowledged already: `reconcileAcknowledgedManagedAgentInstallation` writes nothing.
        if current.any fun current =>
            decide (current.acknowledgedOperationID = intent.acknowledgedOperationID) then w
        else w.acknowledgeManagedAgentInstallationInstall current intent calls
      else if intent.desiredState = .absent ∧ calls.tagsRefreshed = false then w
      else match ended current intent with
        | some current =>
          w.reconcileTerminalManagedAgentInstallation lib identity current command calls
        | none =>
          match w.active with
          | some run =>
            let cancel := intent.desiredState = .absent ∧
              intent.operationID ≠ run.command.intent.operationID
            { w with waiting := some command
                     active := some { run with cancelled := run.cancelled || decide cancel } }
          | none => w.continueIntent lib identity command calls

def World.write (w : World) (outcome : Outcome) : World :=
  match w.writing, outcome with
  | none, _ => w
  | some _, .failed => { w with writing := none }
  | some (.accept command), outcome =>
    { w with
      writing := none
      stored := writeManagedAgentInstallationState w.stored
        (managedAgentInstallationStateFromCommand command .running none)
      accepted := command :: w.accepted
      active := if outcome = .written then some { command } else w.active }
  | some (.reject command reason), _ =>
    { w with
      writing := none
      stored := recordManagedAgentInstallationResult w.stored command .invalidState
        (some reason.message) }
  | some (.acknowledge state), _ =>
    { w with writing := none, stored := writeManagedAgentInstallationState w.stored state }

/-- The goroutine goes; a request it has sent may still arrive. -/
def World.abandon (w : World) : World :=
  { w with
    active := none
    strays := (w.active.bind (·.sent)).toList ++ w.strays }

inductive Event
  /-- The worker reads an intent from its ConfigMap. -/
  | intent (eks : EKSIntent) (calls : Calls)
  /-- The operation the worker waited for has ended. -/
  | resume (calls : Calls)
  | write (outcome : Outcome)
  /-- The goroutine is done: it reads the state and sends its result. -/
  | send (taskState : Fleet.TaskState) (taskErr : Option String)
  /-- The result of the goroutine arrives. -/
  | land
  /-- The goroutine is cancelled or its call fails. -/
  | quit
  /-- A request whose sender has gone arrives. -/
  | landStray (i : Nat)
  | restart

/-- The intent an event brings. -/
def Event.decoded : Event → Option Intent
  | .intent eks _ => (decodeEKSManagedAgentInstallationIntent lib identity eks).toOption
  | _ => none

def World.step (w : World) : Event → World
  | .intent eks calls =>
    if w.waiting.isSome ∨ w.writing.isSome then w
    else match decodeEKSManagedAgentInstallationIntent lib identity eks with
      | .error _ => w
      | .ok intent => w.handleManagedAgentInstallationIntent lib identity intent calls
  | .resume calls =>
    match w.waiting, w.active with
    | some command, none =>
      World.continueIntent lib identity { w with waiting := none } command calls
    | _, _ => w
  | .write outcome => w.write outcome
  | .send taskState taskErr =>
    match w.active with
    | none => w
    | some run =>
      if run.sent.isSome then w
      else match prepareWrite w.stored
          (managedAgentInstallationStateFromCommand run.command taskState taskErr)
          run.command.intent.operationID with
        | .ok (some req) => { w with active := some { run with sent := some req } }
        | .ok none | .error _ => { w with active := none }
  | .land =>
    match w.active with
    | none => w
    | some run =>
      match run.sent with
      | none => w
      | some req =>
        if req.lands w.stored then { w with stored := req.land w.stored, active := none }
        -- A conflict: the write is tried again from its read.
        else { w with active := some { run with sent := none } }
  | .quit => w.abandon
  | .landStray i =>
    match w.strays[i]? with
    | none => w
    | some req => { w with stored := req.land w.stored, strays := w.strays.eraseIdx i }
  | .restart => { w.abandon with waiting := none, writing := none }

end

end DatadogOperator.Installation
