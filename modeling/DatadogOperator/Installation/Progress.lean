import DatadogOperator.Installation.Worker
import DatadogOperator.Lib.Runs

/-!
# Managed installations move forward

The accepted operations are one install and then at most one uninstall, each
possibly accepted again; an acknowledgement stays; and the result of an
operation that is no longer persisted changes nothing, in a run that acknowledges
while no operation is active. The argument: a result that can still arrive was
read at the present version and differs from the persisted state in its task
state and error only, while the worker's writes were checked against a state that
has not changed otherwise since.
-/

namespace DatadogOperator.Installation

/-- The accepted operations, the newest first: an install and then an uninstall,
each with any number of replays. -/
inductive InOrder : List Command → Prop
  | nil : InOrder []
  | install (c : Command) (hc : c.intent.desiredState = .installed) : InOrder [c]
  | replay (c' : Command) (h : InOrder (c :: cs)) (hop : c'.intent.operationID = c.intent.operationID)
      (hdigest : c'.digest = c.digest) (hstate : c'.intent.desiredState = c.intent.desiredState) :
      InOrder (c' :: c :: cs)
  | uninstall (c' : Command) (h : InOrder (c :: cs)) (hop : c'.intent.operationID ≠ c.intent.operationID)
      (hc : c.intent.desiredState = .installed) (hc' : c'.intent.desiredState = .absent) :
      InOrder (c' :: c :: cs)

def OneOperation (state : DesiredState) (cs : List Command) : Prop :=
  ∃ operationID digest, ∀ c ∈ cs, c.intent.desiredState = state ∧
    c.intent.operationID = operationID ∧ c.digest = digest

theorem OneOperation.single (hc : c.intent.desiredState = state) : OneOperation state [c] := by
  refine ⟨c.intent.operationID, c.digest, fun x hx => ?_⟩
  obtain rfl := List.mem_singleton.mp hx
  exact ⟨hc, rfl, rfl⟩

theorem OneOperation.cons (h : OneOperation state (c :: cs))
    (hop : c'.intent.operationID = c.intent.operationID) (hdigest : c'.digest = c.digest)
    (hstate : c'.intent.desiredState = c.intent.desiredState) :
    OneOperation state (c' :: c :: cs) := by
  obtain ⟨operationID, digest, hall⟩ := h
  obtain ⟨hs, ho, hd⟩ := hall c (.head _)
  refine ⟨operationID, digest, fun x hx => ?_⟩
  rcases List.mem_cons.mp hx with rfl | hx
  · exact ⟨hstate.trans hs, hop.trans ho, hdigest.trans hd⟩
  · exact hall x hx

theorem InOrder.split (h : InOrder accepted) :
    ∃ uninstalls installs, accepted = uninstalls ++ installs ∧ OneOperation .absent uninstalls ∧
      OneOperation .installed installs ∧ (uninstalls ≠ [] → installs ≠ []) ∧
      ∀ c ∈ uninstalls, ∀ c' ∈ installs, c.intent.operationID ≠ c'.intent.operationID := by
  induction h with
  | nil => exact ⟨[], [], rfl, ⟨"", "", nofun⟩, ⟨"", "", nofun⟩, fun h => absurd rfl h, nofun⟩
  | install c hc =>
    exact ⟨[], [c], rfl, ⟨"", "", nofun⟩, .single hc, nofun, nofun⟩
  | replay c' h hop hdigest hstate ih =>
    obtain ⟨uninstalls, installs, heq, hun, hin, hne, hops⟩ := ih
    cases uninstalls with
    | nil =>
      subst heq
      exact ⟨[], _, rfl, hun, hin.cons hop hdigest hstate, fun h => absurd rfl h, nofun⟩
    | cons u uninstalls =>
      obtain ⟨rfl, rfl⟩ := List.cons.inj heq
      refine ⟨c' :: _ :: uninstalls, installs, rfl, hun.cons hop hdigest hstate, hin,
        fun _ => hne nofun, fun x hx => ?_⟩
      rcases List.mem_cons.mp hx with rfl | hx
      · rw [hop]
        exact hops _ (.head _)
      · exact hops x hx
  | @uninstall c cs c' h hop hc hc' ih =>
    obtain ⟨uninstalls, installs, heq, hun, hin, hne, hops⟩ := ih
    cases uninstalls with
    | cons u uninstalls =>
      obtain ⟨rfl, rfl⟩ := List.cons.inj heq
      -- Nothing new is accepted after an uninstall.
      obtain ⟨_, _, hall⟩ := hun
      have habsent := (hall _ (.head _)).1
      rw [hc] at habsent
      cases habsent
    | nil =>
      subst heq
      obtain ⟨operationID, digest, hall⟩ := hin
      refine ⟨[c'], _, rfl, .single hc', ⟨operationID, digest, hall⟩, nofun, ?_⟩
      intro x hx y hy
      obtain rfl := List.mem_singleton.mp hx
      rw [(hall y hy).2.1, ← (hall c (.head _)).2.1]
      exact hop

theorem InOrder.digest (h : InOrder accepted) (hc : c ∈ accepted) (hc' : c' ∈ accepted)
    (hop : c.intent.operationID = c'.intent.operationID) : c.digest = c'.digest := by
  obtain ⟨uninstalls, installs, rfl, ⟨_, _, hun⟩, ⟨_, _, hin⟩, -, hops⟩ := h.split
  rcases List.mem_append.mp hc with hc | hc <;> rcases List.mem_append.mp hc' with hc' | hc'
  · exact (hun c hc).2.2.trans (hun c' hc').2.2.symm
  · exact absurd hop (hops c hc c' hc')
  · exact absurd hop.symm (hops c' hc' c hc)
  · exact (hin c hc).2.2.trans (hin c' hc').2.2.symm

/-! ## Progress against the persisted state -/

/-- The persisted state without the progress of its task. -/
def PersistedState.operation (state : PersistedState) : PersistedState :=
  { state with taskState := .running, error := "" }

theorem validate_operation (current : PersistedState) (intent : Intent) (digest : String) :
    validateManagedAgentInstallationProgress (some current) intent digest =
      validateManagedAgentInstallationProgress (some current.operation) intent digest := rfl

theorem validate_some (h : validateManagedAgentInstallationProgress (some current) intent digest = .ok ()) :
    (intent.operationID = current.operationID ∧ digest = current.digest ∧
      (current.desiredState = .installed ∧ (current.acknowledgedOperationID = "" ∨
            current.acknowledgedOperationID = intent.acknowledgedOperationID) ∨
        current.desiredState = .absent ∧
          intent.acknowledgedOperationID = current.acknowledgedOperationID)) ∨
      intent.operationID ≠ current.operationID ∧ current.desiredState = .installed ∧
        intent.desiredState = .absent ∧
        intent.acknowledgedOperationID = current.acknowledgedOperationID := by
  simp only [validateManagedAgentInstallationProgress] at h
  split at h
  · cases h
  · split at h
    · rename_i hop
      split at h
      · cases h
      · rename_i hdigest
        refine .inl ⟨hop, not_not.mp hdigest, ?_⟩
        split at h
        · rename_i hinstalled
          refine .inl ⟨hinstalled, ?_⟩
          split at h
          · rename_i hack
            exact .inl hack.1
          · split at h
            · rename_i hack
              exact .inr (hack.1.trans hack.2.symm)
            · cases h
        · rename_i habsent
          split at h
          · cases h
          · rename_i hack
            refine .inr ⟨?_, not_not.mp hack⟩
            cases hs : current.desiredState with
            | installed => exact absurd hs habsent
            | absent => rfl
    · rename_i hop
      split at h
      · cases h
      · rename_i hinstalled
        split at h
        · cases h
        · rename_i habsent
          split at h
          · cases h
          · rename_i hack
            refine .inr ⟨hop, ?_, not_not.mp habsent, not_not.mp hack⟩
            cases hs : current.desiredState with
            | installed => rfl
            | absent => exact absurd hs hinstalled

theorem validate_none (h : validateManagedAgentInstallationProgress none intent digest = .ok ()) :
    intent.desiredState = .installed ∧ intent.acknowledgedOperationID = "" := by
  simp only [validateManagedAgentInstallationProgress] at h
  split at h
  · cases h
  · rename_i hno
    exact ⟨not_not.mp fun h => hno (.inl h), not_not.mp fun h => hno (.inr h)⟩

/-- A command the worker may write: it comes from a decoded intent, and the
acknowledgement of an install is no command. -/
structure Command.Sound (lib : Library) (identity : Identity) (known : List Intent)
    (command : Command) : Prop where
  known : command.intent ∈ known
  decoded : command.intent.Decoded lib identity
  digest : command.digest = lib.digest command.intent.normalized
  unacknowledged : command.intent.desiredState = .installed →
    command.intent.acknowledgedOperationID = ""

def Linked (lib : Library) (known : List Intent) (stored : Option StateConfigMap)
    (accepted : List Command) : Prop :=
  match stored, accepted with
  | none, [] => True
  | some cm, c :: cs => InOrder (c :: cs) ∧ c.intent ∈ known ∧
      c.digest = lib.digest c.intent.normalized ∧ c.intent.operationID = cm.data.operationID ∧
      c.digest = cm.data.digest ∧ c.intent.desiredState = cm.data.desiredState
  | _, _ => False

/-- How a step changes the ConfigMap, with the operation it accepts. -/
inductive Moves (lib : Library) (identity : Identity) (known : List Intent) :
    Option StateConfigMap → Option StateConfigMap → Option Command → Prop
  | same : Moves lib identity known stored stored none
  | result (hop : data.operation = cm.data.operation) :
      Moves lib identity known (some cm) (some (cm.patched data)) none
  | acknowledged (hack : cm.data.acknowledgedOperationID = "")
      (hop : data.operation =
        { cm.data.operation with acknowledgedOperationID := cm.data.operationID }) :
      Moves lib identity known (some cm) (some (cm.patched data)) none
  | accepted (command : Command) (hsound : command.Sound lib identity known)
      (hv : validateManagedAgentInstallationProgress (stored.map (·.data)) command.intent
        command.digest = .ok ()) :
      Moves lib identity known stored (writeManagedAgentInstallationState stored
        (managedAgentInstallationStateFromCommand command .running none)) (some command)

/-- A request that can do no more than change task state and error. -/
def Harmless (stored : Option StateConfigMap) (req : Request) : Prop :=
  ∃ version data cm, req = .patch version data ∧ stored = some cm ∧ version ≤ cm.resourceVersion ∧
    (version = cm.resourceVersion → data.operation = cm.data.operation)

def Persisted (stored : Option StateConfigMap) (command : Command) : Prop :=
  ∃ cm, stored = some cm ∧
    cm.data.operation = (managedAgentInstallationStateFromCommand command .running none).operation

def JobOk (lib : Library) (identity : Identity) (known : List Intent)
    (stored : Option StateConfigMap) : Job → Prop
  | .accept command => command.Sound lib identity known ∧
      validateManagedAgentInstallationProgress (stored.map (·.data)) command.intent command.digest =
        .ok ()
  | .reject .. => False
  | .acknowledge state => ∃ cm, stored = some cm ∧ cm.data.acknowledgedOperationID = "" ∧
      state.operation = { cm.data.operation with acknowledgedOperationID := cm.data.operationID }

structure Progresses (lib : Library) (identity : Identity) (known : List Intent) (w : World) :
    Prop where
  linked : Linked lib known w.stored w.accepted
  strays : ∀ req ∈ w.strays, Harmless w.stored req
  active : ∀ run ∈ w.active, Persisted w.stored run.command ∧
    ∀ req ∈ run.sent, Harmless w.stored req
  waiting : ∀ command ∈ w.waiting, command.Sound lib identity known
  writing : ∀ job ∈ w.writing, JobOk lib identity known w.stored job ∧
    ∀ command, job = .accept command → w.active = none

section
variable {lib : Library} {identity : Identity} {known : List Intent}
  {stored stored' : Option StateConfigMap} {accepted : List Command} {w : World}
  (hstates : lib.SeparatesStates known)

theorem Linked.inOrder (h : Linked lib known stored accepted) : InOrder accepted := by
  unfold Linked at h
  split at h
  · exact .nil
  · exact h.1
  · cases h

theorem Linked.head_known (h : Linked lib known stored accepted) :
    ∀ c ∈ accepted.head?, c.intent ∈ known := by
  unfold Linked at h
  split at h
  · nofun
  · rintro _ ⟨⟩
    exact h.2.1
  · cases h

theorem Linked.extends (h : Linked lib known stored accepted)
    (hsep : ∀ c ∈ accepted.head?, lib.digest intent.normalized = lib.digest c.intent.normalized →
      intent.desiredState = c.intent.desiredState)
    (hv : validateManagedAgentInstallationProgress (stored.map (·.data)) intent
      (lib.digest intent.normalized) = .ok ()) :
    InOrder (newManagedAgentInstallationCommand lib intent :: accepted) := by
  unfold Linked at h
  split at h
  · exact .install _ (validate_none hv).1
  · rename_i cm c cs
    obtain ⟨horder, -, hdigest, hop, hcm, hstate⟩ := h
    rcases validate_some hv with ⟨hop', hdigest', -⟩ | ⟨hop', hinstalled, habsent, -⟩
    · exact .replay _ horder (hop'.trans hop.symm) (hdigest'.trans hcm.symm)
        (hsep c rfl (hdigest'.trans (hcm.symm.trans hdigest)))
    · refine .uninstall _ horder (fun heq => hop' (heq.trans hop)) (hstate.trans hinstalled) habsent
  · cases h

/-! ## Writes -/

@[simp] theorem patched_data (cm : StateConfigMap) (data : PersistedState) :
    (cm.patched data).data = data := by
  unfold StateConfigMap.patched
  split
  · rename_i h
    exact h.symm
  · rfl

theorem write_some (cm : StateConfigMap) (state : PersistedState) :
    writeManagedAgentInstallationState (some cm) state = some (cm.patched state) := by
  simp [writeManagedAgentInstallationState, writeManagedAgentInstallationStateForOperation,
    prepareWrite, Request.land]

theorem Harmless.moves (h : Harmless stored req) :
    Moves lib identity known stored (req.land stored) none := by
  obtain ⟨version, data, cm, rfl, rfl, hle, hop⟩ := h
  simp only [Request.land]
  split
  · rename_i hversion
    exact .result (hop hversion.symm)
  · exact .same

theorem Request.land_eq {req : Request} (hland : req.lands stored = false) :
    req.land stored = stored := by
  cases req with
  | create data =>
    cases stored with
    | none => cases hland
    | some cm => rfl
  | patch version data =>
    cases stored with
    | none => rfl
    | some cm =>
      have hne : cm.resourceVersion ≠ version := of_decide_eq_false hland
      simp [Request.land, hne]

theorem Harmless.patched (h : Harmless (some cm) req) (data : PersistedState) :
    Harmless (some (cm.patched data)) req := by
  unfold StateConfigMap.patched
  split
  · exact h
  · obtain ⟨version, data', cm', rfl, heq, hle, -⟩ := h
    obtain rfl : cm = cm' := Option.some.inj heq
    refine ⟨version, data', _, rfl, rfl, Nat.le_succ_of_le hle, fun h => ?_⟩
    exact absurd h (Nat.ne_of_lt (Nat.lt_succ_of_le hle))

theorem Moves.harmless (hm : Moves lib identity known stored stored' command)
    (h : Harmless stored req) : Harmless stored' req := by
  cases hm with
  | same => exact h
  | result | acknowledged => exact h.patched _
  | accepted command hsound hv =>
    obtain ⟨version, data, cm, rfl, rfl, hle, hop⟩ := h
    rw [write_some]
    exact Harmless.patched ⟨version, data, cm, rfl, rfl, hle, hop⟩ _

theorem operation_fields {data data' : PersistedState} (h : data.operation = data'.operation) :
    data.operationID = data'.operationID ∧ data.digest = data'.digest ∧
      data.desiredState = data'.desiredState ∧
      data.acknowledgedOperationID = data'.acknowledgedOperationID := by
  have hproj {α : Type} (f : PersistedState → α) : f data.operation = f data'.operation :=
    congrArg f h
  exact ⟨hproj PersistedState.operationID, hproj PersistedState.digest,
    hproj PersistedState.desiredState, hproj PersistedState.acknowledgedOperationID⟩

theorem write_data (stored : Option StateConfigMap) (state : PersistedState) :
    ∃ cm, writeManagedAgentInstallationState stored state = some cm ∧ cm.data = state := by
  cases stored with
  | none => exact ⟨⟨1, state⟩, rfl, rfl⟩
  | some cm => exact ⟨_, write_some cm state, patched_data cm state⟩

theorem Command.Sound.eq_new (h : command.Sound lib identity known) :
    command = newManagedAgentInstallationCommand lib command.intent := by
  obtain ⟨intent, digest⟩ := command
  simp only [newManagedAgentInstallationCommand, Command.mk.injEq, true_and]
  exact h.digest

include hstates in
theorem Moves.linked {command : Option Command}
    (hm : Moves lib identity known stored stored' command) (h : Linked lib known stored accepted) :
    Linked lib known stored' (command.toList ++ accepted) := by
  cases hm with
  | same => exact h
  | result | acknowledged =>
    rename_i hop
    cases accepted with
    | nil => exact h
    | cons c cs =>
      obtain ⟨horder, hknown, hdigest, hid, hcm, hstate⟩ := h
      refine ⟨horder, hknown, hdigest, ?_⟩
      rw [patched_data]
      exact ⟨hid.trans (congrArg PersistedState.operationID hop).symm,
        hcm.trans (congrArg PersistedState.digest hop).symm,
        hstate.trans (congrArg PersistedState.desiredState hop).symm⟩
  | accepted command hsound hv =>
    obtain ⟨cm, heq, hdata⟩ := write_data stored
      (managedAgentInstallationStateFromCommand command .running none)
    rw [heq]
    refine ⟨?_, hsound.known, hsound.digest, by rw [hdata]; rfl, by rw [hdata]; rfl,
      by rw [hdata]; rfl⟩
    rw [hsound.eq_new]
    exact h.extends (fun c hc => hstates _ hsound.known _ (Linked.head_known h c hc))
      (by rw [← hsound.digest]; exact hv)

include hstates in
theorem Moves.acknowledgement {command : Option Command}
    (hm : Moves lib identity known stored stored' command) (h : Linked lib known stored accepted) :
    ∀ cm ∈ stored, cm.data.acknowledgedOperationID ≠ "" → ∃ cm' ∈ stored',
      cm'.data.acknowledgedOperationID = cm.data.acknowledgedOperationID := by
  intro cm hcm hack
  cases hm with
  | same => exact ⟨cm, hcm, rfl⟩
  | result hop =>
    cases hcm
    refine ⟨_, rfl, ?_⟩
    rw [patched_data]
    exact (operation_fields hop).2.2.2
  | acknowledged hempty hop =>
    cases hcm
    exact absurd hempty hack
  | accepted command hsound hv =>
    obtain rfl : stored = some cm := hcm
    rw [write_some]
    refine ⟨_, rfl, ?_⟩
    rw [patched_data]
    rcases validate_some hv with ⟨hop, hdigest, hcases⟩ | ⟨-, -, -, hkept⟩
    · rcases hcases with ⟨hinstalled, hempty | hsame⟩ | ⟨-, hkept⟩
      · exact absurd hempty hack
      · -- The same digest: the command is an install as well, and has no acknowledgement.
        cases accepted with
        | nil => cases h
        | cons c cs =>
          obtain ⟨-, hknown, hc, -, hcm, hstate⟩ := h
          have hcommand : command.intent.desiredState = .installed :=
            (hstates _ hsound.known _ hknown (hsound.digest.symm.trans
              (hdigest.trans (hcm.symm.trans hc)))).trans (hstate.trans hinstalled)
          exact absurd (hsame.trans (hsound.unacknowledged hcommand)) hack
      · exact hkept
    · exact hkept

/-! ## Handling an intent -/

/-- Handling an intent writes nothing yet: the worker has a write to make, or
waits for the operation that is active. -/
inductive Prepares (lib : Library) (identity : Identity) (known : List Intent) (w : World) :
    World → Prop
  | nothing : Prepares lib identity known w w
  | job (job : Job) (hjob : JobOk lib identity known w.stored job)
      (hidle : ∀ command, job = .accept command → w.active = none) :
      Prepares lib identity known w { w with writing := some job }
  | wait (run : Execution) (command : Command) (cancelled : Bool) (hrun : w.active = some run)
      (hsound : command.Sound lib identity known) :
      Prepares lib identity known w
        { w with waiting := some command, active := some { run with cancelled } }

theorem read_some (h : w.read calls = some current) : current = w.stored.map (·.data) := by
  unfold World.read at h
  split at h
  · unfold readManagedAgentInstallationState at h
    split at h
    · rename_i hstored
      rw [hstored]
      exact (Option.some.inj h).symm
    · rename_i cm hstored
      rw [hstored]
      split at h
      · cases h
      · exact (Option.some.inj h).symm
  · cases h

theorem validateCommand_ok (h : command.Sound lib identity known) :
    validateManagedAgentInstallationCommand lib identity command = .ok () := by
  have hd := h.decoded
  simp [validateManagedAgentInstallationCommand, hd.operationID, hd.installationID, hd.provider,
    hd.targetID]

theorem handleCommand_prepares (hsound : command.Sound lib identity known)
    (hv : validateManagedAgentInstallationProgress (w.stored.map (·.data)) command.intent
      command.digest = .ok ()) (calls : Calls) :
    Prepares lib identity known w
      (w.handleManagedAgentInstallationCommand lib identity command calls) := by
  unfold World.handleManagedAgentInstallationCommand
  rw [validateCommand_ok hsound]
  split
  · exact .nothing
  · exact .nothing
  · split
    · exact .nothing
    · rename_i hidle
      exact .job _ ⟨hsound, hv⟩ fun _ _ => Option.not_isSome_iff_eq_none.mp hidle

theorem reconcileTerminal_prepares (hsound : command.Sound lib identity known)
    (hv : validateManagedAgentInstallationProgress (w.stored.map (·.data)) command.intent
      command.digest = .ok ()) (current : PersistedState) (calls : Calls) :
    Prepares lib identity known w
      (w.reconcileTerminalManagedAgentInstallation lib identity current command calls) := by
  unfold World.reconcileTerminalManagedAgentInstallation
  split
  · exact handleCommand_prepares hsound hv calls
  · exact .nothing
  · exact .nothing
  · exact .nothing

theorem continueIntent_prepares (hsound : command.Sound lib identity known)
    (calls : Calls) : Prepares lib identity known w (w.continueIntent lib identity command calls) := by
  unfold World.continueIntent
  split
  · exact .nothing
  · rename_i current hread
    obtain rfl := read_some hread
    split
    · exact .nothing
    · rename_i hv
      split
      · exact reconcileTerminal_prepares hsound hv _ calls
      · exact handleCommand_prepares hsound hv calls

theorem acknowledge_prepares
    (hv : validateManagedAgentInstallationProgress (w.stored.map (·.data)) intent
      (lib.digest intent.normalized) = .ok ())
    (hnew : ¬(w.stored.map (·.data)).any fun current =>
      decide (current.acknowledgedOperationID = intent.acknowledgedOperationID)) (calls : Calls) :
    Prepares lib identity known w
      (w.acknowledgeManagedAgentInstallationInstall (w.stored.map (·.data)) intent calls) := by
  unfold World.acknowledgeManagedAgentInstallationInstall
  cases hstored : w.stored with
  | none => exact .nothing
  | some cm =>
    rw [hstored] at hv hnew
    simp only [Option.map_some, Option.any_some, decide_eq_true_eq] at hv hnew
    dsimp only [Option.map_some]
    split
    · exact .nothing
    · rename_i hmatch
      split
      · exact .nothing
      · split
        · exact .nothing
        · obtain ⟨hstate, hrest⟩ := not_or.mp hmatch
          obtain ⟨hop, -⟩ := not_or.mp hrest
          -- An acknowledgement that is there already was answered before this call.
          have hempty : cm.data.acknowledgedOperationID = "" := by
            rcases validate_some hv with ⟨-, -, ⟨-, h | h⟩ | ⟨h, -⟩⟩ | ⟨h, -⟩
            · exact h
            · exact absurd h hnew
            · exact absurd (not_not.mp hstate) (by rw [h]; nofun)
            · exact absurd (not_not.mp hop).symm h
          rw [← hstored]
          refine .job (.acknowledge { cm.data with acknowledgedOperationID := intent.operationID })
            ⟨cm, hstored, hempty, ?_⟩ nofun
          rw [← not_not.mp hop]
          rfl

theorem handleIntent_prepares (hknown : intent ∈ known) (hd : intent.Decoded lib identity)
    (calls : Calls) : Prepares lib identity known w
      (w.handleManagedAgentInstallationIntent lib identity intent calls) := by
  unfold World.handleManagedAgentInstallationIntent
  dsimp only
  split
  · exact .nothing
  · rename_i current hread
    obtain rfl := read_some hread
    split
    · exact .nothing
    · rename_i hv
      split
      · split
        · exact .nothing
        · rename_i hnew
          exact acknowledge_prepares hv hnew calls
      · rename_i hack
        have hsound : (newManagedAgentInstallationCommand lib intent).Sound lib identity known :=
          ⟨hknown, hd, rfl, fun h => not_not.mp fun hne => hack ⟨h, hne⟩⟩
        split
        · exact .nothing
        · split
          · exact reconcileTerminal_prepares hsound hv _ calls
          · split
            · rename_i run hrun
              exact .wait run _ _ hrun hsound
            · exact continueIntent_prepares hsound calls

/-! ## Steps -/

/-- The worker accepts only while no operation is active. -/
theorem Progresses.beside {P : Prop} (hw : Progresses lib identity known w)
    (hrun : w.active = some run) : ∀ job ∈ w.writing,
      JobOk lib identity known w.stored job ∧ ∀ command, job = .accept command → P := by
  intro job hjob
  obtain ⟨hok, hidle⟩ := hw.writing job hjob
  refine ⟨hok, fun command hjob => ?_⟩
  rw [hidle command hjob] at hrun
  cases hrun

theorem Progresses.drop (hw : Progresses lib identity known w) :
    Progresses lib identity known { w with active := none } :=
  ⟨hw.linked, hw.strays, nofun, hw.waiting, fun job hjob => ⟨(hw.writing job hjob).1, fun _ _ => rfl⟩⟩

theorem Prepares.same (h : Prepares lib identity known w w') :
    w'.stored = w.stored ∧ w'.accepted = w.accepted := by
  cases h <;> exact ⟨rfl, rfl⟩

theorem Prepares.progresses (h : Prepares lib identity known w w')
    (hw : Progresses lib identity known w) : Progresses lib identity known w' := by
  cases h with
  | nothing => exact hw
  | job job hjob hidle =>
    refine ⟨hw.linked, hw.strays, hw.active, hw.waiting, ?_⟩
    rintro _ ⟨⟩
    exact ⟨hjob, hidle⟩
  | wait run command cancelled hrun hsound =>
    refine ⟨hw.linked, hw.strays, ?_, ?_, hw.beside hrun⟩
    · rintro _ ⟨⟩
      exact hw.active run hrun
    · rintro _ ⟨⟩
      exact hsound

theorem Progresses.abandon (hw : Progresses lib identity known w) :
    Progresses lib identity known w.abandon := by
  refine ⟨hw.linked, fun req hreq => ?_, nofun, hw.waiting, hw.drop.writing⟩
  rcases List.mem_append.mp hreq with hreq | hreq
  · obtain ⟨run, hrun, hsent⟩ := Option.bind_eq_some_iff.mp (Option.mem_toList.mp hreq)
    exact (hw.active run hrun).2 req hsent
  · exact hw.strays req hreq

theorem JobOk.result {cm cm' : StateConfigMap} (h : JobOk lib identity known (some cm) job)
    (hop : cm'.data.operation = cm.data.operation) : JobOk lib identity known (some cm') job := by
  cases job with
  | accept command =>
    refine ⟨h.1, ?_⟩
    have hv := h.2
    simp only [Option.map_some] at hv ⊢
    rw [validate_operation] at hv ⊢
    rw [hop]
    exact hv
  | reject => exact h
  | acknowledge state =>
    obtain ⟨cm, heq, hempty, hstate⟩ := h
    cases heq
    obtain ⟨hid, -, -, hack⟩ := operation_fields hop
    refine ⟨_, rfl, hack.trans hempty, ?_⟩
    rw [hop, hid]
    exact hstate

theorem Harmless.land_operation (h : Harmless stored req) : ∃ cm cm', stored = some cm ∧
    req.land stored = some cm' ∧ cm'.data.operation = cm.data.operation := by
  obtain ⟨version, data, cm, rfl, rfl, -, hop⟩ := h
  refine ⟨cm, _, rfl, rfl, ?_⟩
  split
  · rename_i hversion
    rw [patched_data]
    exact hop hversion.symm
  · rfl

include hstates in
/-- The arrival of a result, also beside an active operation and a write of the worker. -/
theorem Progresses.land (hw : Progresses lib identity known w) (hreq : Harmless w.stored req)
    (strays : List Request) (hstrays : ∀ req ∈ strays, req ∈ w.strays) :
    Progresses lib identity known { w with stored := req.land w.stored, strays } := by
  have hm : Moves lib identity known w.stored (req.land w.stored) none := hreq.moves
  obtain ⟨cm, cm', hstored, hland, hop⟩ := hreq.land_operation
  refine ⟨hm.linked hstates hw.linked, fun req' h => hm.harmless (hw.strays req' (hstrays req' h)), ?_,
    hw.waiting, fun job hjob => ⟨?_, (hw.writing job hjob).2⟩⟩
  · intro run hrun
    obtain ⟨⟨cm₀, heq, hrunop⟩, hsent⟩ := hw.active run hrun
    obtain rfl : cm = cm₀ := Option.some.inj (hstored.symm.trans heq)
    exact ⟨⟨cm', hland, hop.trans hrunop⟩, fun req' h => hm.harmless (hsent req' h)⟩
  · have hok := (hw.writing job hjob).1
    rw [hstored] at hok
    dsimp only
    rw [hland]
    exact hok.result hop

include hstates in
theorem Progresses.accept (hw : Progresses lib identity known w)
    (hm : Moves lib identity known w.stored (writeManagedAgentInstallationState w.stored
      (managedAgentInstallationStateFromCommand command .running none)) (some command))
    (active : Option Execution) (hactive : ∀ run ∈ active, run = { command }) :
    Progresses lib identity known { w with
      writing := none
      stored := writeManagedAgentInstallationState w.stored
        (managedAgentInstallationStateFromCommand command .running none)
      accepted := command :: w.accepted
      active } := by
  refine ⟨hm.linked hstates hw.linked, fun req hreq => hm.harmless (hw.strays req hreq), ?_,
    hw.waiting, nofun⟩
  intro run hrun
  obtain rfl := hactive run hrun
  obtain ⟨cm, heq, hdata⟩ := write_data w.stored
    (managedAgentInstallationStateFromCommand command .running none)
  exact ⟨⟨cm, heq, by rw [hdata]⟩, nofun⟩

include hstates in
theorem Progresses.acknowledge (hw : Progresses lib identity known w) (hidle : w.active = none)
    (hm : Moves lib identity known w.stored (writeManagedAgentInstallationState w.stored state) none) :
    Progresses lib identity known
      { w with writing := none, stored := writeManagedAgentInstallationState w.stored state } := by
  refine ⟨hm.linked hstates hw.linked, fun req hreq => hm.harmless (hw.strays req hreq), ?_,
    hw.waiting, nofun⟩
  intro run hrun
  rw [show w.active = some run from hrun] at hidle
  cases hidle

/-- The worker writes no acknowledgement beside an active operation. -/
def World.acknowledgesIdle (w : World) : Event → Bool
  | .write _ => match w.writing with
    | some (.acknowledge _) => w.active.isNone
    | _ => true
  | _ => true

/-- The run has the intent of the event, and no acknowledgement beside an active operation. -/
def Within (lib : Library) (identity : Identity) (known : List Intent) (w : World) (e : Event) :
    Prop :=
  (∀ intent ∈ e.decoded lib identity, intent ∈ known) ∧ w.acknowledgesIdle e

/-- What is written, and what holds after the event if the argument covers it. -/
def Advances (lib : Library) (identity : Identity) (known : List Intent) (w : World) (e : Event)
    (w' : World) : Prop :=
  (Within lib identity known w e → Progresses lib identity known w') ∧ ∃ command,
    Moves lib identity known w.stored w'.stored command ∧ w'.accepted = command.toList ++ w.accepted

theorem Advances.quiet (h : Within lib identity known w e → Progresses lib identity known w')
    (hstored : w'.stored = w.stored) (haccepted : w'.accepted = w.accepted) :
    Advances lib identity known w e w' :=
  ⟨h, none, hstored ▸ .same, haccepted⟩

include hstates in
theorem Progresses.write (hw : Progresses lib identity known w) (outcome : Outcome) :
    Advances lib identity known w (.write outcome) (w.write outcome) := by
  unfold World.write
  cases hwriting : w.writing with
  | none => exact .quiet (fun _ => hw) rfl rfl
  | some job =>
    obtain ⟨hjob, hidle⟩ := hw.writing job hwriting
    by_cases hfailed : outcome = .failed
    · subst hfailed
      exact .quiet (fun _ => ⟨hw.linked, hw.strays, hw.active, hw.waiting, nofun⟩) rfl rfl
    · cases job with
      | reject => cases hjob
      | accept command =>
        have hm := Moves.accepted command hjob.1 hjob.2
        have hactive : ∀ run ∈ (if outcome = .written then some { command } else w.active : Option Execution),
            run = { command } := by
          rw [hidle command rfl]
          split
          · rintro _ ⟨⟩
            rfl
          · nofun
        have hprogress := hw.accept hstates hm _ hactive
        -- A lost answer leaves the state written and no execution.
        cases outcome with
        | failed => exact absurd rfl hfailed
        | written => exact ⟨fun _ => hprogress, some command, hm, rfl⟩
        | lost => exact ⟨fun _ => hprogress, some command, hm, rfl⟩
      | acknowledge state =>
        obtain ⟨cm, hstored, hempty, hop⟩ := hjob
        have hm : Moves lib identity known w.stored
            (writeManagedAgentInstallationState w.stored state) none := by
          rw [hstored, write_some]
          exact .acknowledged hempty hop
        have hprogress (hc : Within lib identity known w (.write outcome)) :=
          hw.acknowledge hstates (by simpa [World.acknowledgesIdle, hwriting] using hc.2) hm
        cases outcome with
        | failed => exact absurd rfl hfailed
        | written => exact ⟨hprogress, none, hm, rfl⟩
        | lost => exact ⟨hprogress, none, hm, rfl⟩

theorem prepareWrite_harmless (hop : Persisted stored command)
    (h : prepareWrite stored (managedAgentInstallationStateFromCommand command taskState taskErr)
      command.intent.operationID = .ok (some req)) : Harmless stored req := by
  obtain ⟨cm, rfl, hop⟩ := hop
  simp only [prepareWrite] at h
  split at h
  · cases h
  · cases Except.ok.inj h
    exact ⟨_, _, cm, rfl, rfl, le_rfl, fun _ => hop.symm⟩

include hstates in
theorem Progresses.step (hw : Progresses lib identity known w) (e : Event) :
    Advances lib identity known w e (w.step lib identity e) := by
  cases e with
  | intent eks calls =>
    simp only [World.step]
    split
    · exact .quiet (fun _ => hw) rfl rfl
    · split
      · exact .quiet (fun _ => hw) rfl rfl
      · rename_i intent hdecode
        have hd := decode_decoded hdecode
        obtain ⟨hstored, haccepted⟩ := (handleIntent_prepares (w := w) (.head known) hd calls).same
        refine .quiet (fun hc => (handleIntent_prepares ?_ hd calls).progresses hw) hstored haccepted
        exact hc.1 intent (by simp [Event.decoded, hdecode, Except.toOption])
  | resume calls =>
    simp only [World.step]
    split
    · rename_i command hwaiting hidle
      have hw' : Progresses lib identity known { w with waiting := none } :=
        ⟨hw.linked, hw.strays, hw.active, nofun, hw.writing⟩
      have h := continueIntent_prepares (w := { w with waiting := none })
        (hw.waiting command hwaiting) calls
      exact .quiet (fun _ => h.progresses hw') h.same.1 h.same.2
    · exact .quiet (fun _ => hw) rfl rfl
  | write outcome => exact hw.write hstates outcome
  | send taskState taskErr =>
    cases hactive : w.active with
    | none => simpa only [World.step, hactive] using .quiet (fun _ => hw) rfl rfl
    | some run =>
      obtain ⟨hop, hsent⟩ := hw.active run hactive
      simp only [World.step, hactive]
      split
      · exact .quiet (fun _ => hw) rfl rfl
      · split
        · rename_i req hreq
          refine .quiet (fun _ => ⟨hw.linked, hw.strays, ?_, hw.waiting, hw.beside hactive⟩) rfl rfl
          rintro _ ⟨⟩
          refine ⟨hop, ?_⟩
          rintro _ ⟨⟩
          exact prepareWrite_harmless hop hreq
        · exact .quiet (fun _ => hw.drop) rfl rfl
        · exact .quiet (fun _ => hw.drop) rfl rfl
  | land =>
    cases hactive : w.active with
    | none => simpa only [World.step, hactive] using .quiet (fun _ => hw) rfl rfl
    | some run =>
      obtain ⟨hop, hsent⟩ := hw.active run hactive
      cases hreq : run.sent with
      | none => simpa only [World.step, hactive, hreq] using .quiet (fun _ => hw) rfl rfl
      | some req =>
        have hharmless := hsent req hreq
        simp only [World.step, hactive, hreq]
        split
        · exact ⟨fun _ => hw.drop.land hstates hharmless w.strays fun _ h => h, none,
            hharmless.moves, rfl⟩
        · refine .quiet (fun _ => ⟨hw.linked, hw.strays, ?_, hw.waiting, hw.beside hactive⟩) rfl rfl
          rintro _ ⟨⟩
          exact ⟨hop, nofun⟩
  | quit => exact .quiet (fun _ => hw.abandon) rfl rfl
  | landStray i =>
    cases hreq : w.strays[i]? with
    | none => simpa only [World.step, hreq] using .quiet (fun _ => hw) rfl rfl
    | some req =>
      have hharmless := hw.strays req (List.mem_of_getElem? hreq)
      simp only [World.step, hreq]
      exact ⟨fun _ => hw.land hstates hharmless _ fun _ h => List.mem_of_mem_eraseIdx h, none,
        hharmless.moves, rfl⟩
  | restart =>
    have h := hw.abandon
    exact .quiet (fun _ => ⟨h.linked, h.strays, h.active, nofun, nofun⟩) rfl rfl

end

/-! ## Results -/

def World.resultOperation (w : World) : Event → Option String
  | .send .. | .land => w.active.map (·.command.intent.operationID)
  | .landStray i => w.strays[i]?.map (·.data.operationID)
  | .write _ => match w.writing with
    | some (.reject command _) => some command.intent.operationID
    | _ => none
  | .intent .. | .resume _ | .quit | .restart => none

structure StepForward (lib : Library) (identity : Identity) (w : World) (e : Event) : Prop where
  acknowledgement : ∀ cm ∈ w.stored, cm.data.acknowledgedOperationID ≠ "" →
    ∃ cm' ∈ (w.step lib identity e).stored,
      cm'.data.acknowledgedOperationID = cm.data.acknowledgedOperationID
  /-- A result for an operation that is not persisted any more. -/
  result : ∀ operationID ∈ w.resultOperation e,
    (∀ cm ∈ w.stored, cm.data.operationID ≠ operationID) →
      (w.step lib identity e).stored = w.stored

/-- Operations in the order of an installation, the newest first. -/
structure InSequence (accepted : List Command) : Prop where
  operations : ∃ uninstalls installs, accepted = uninstalls ++ installs ∧
    OneOperation .absent uninstalls ∧ OneOperation .installed installs ∧
    (uninstalls ≠ [] → installs ≠ [])
  digests : ∀ c ∈ accepted, ∀ c' ∈ accepted,
    c.intent.operationID = c'.intent.operationID → c.digest = c'.digest

theorem InOrder.inSequence (h : InOrder accepted) : InSequence accepted := by
  obtain ⟨uninstalls, installs, heq, hun, hin, hfirst, -⟩ := h.split
  exact ⟨⟨uninstalls, installs, heq, hun, hin, hfirst⟩, fun _ hc _ hc' => h.digest hc hc'⟩

/-- What holds after every run: of the accepted operations, also with any intent
that passes the progress check now, and of each further step. -/
structure Forward (lib : Library) (identity : Identity) (w : World) : Prop where
  accepted : InSequence w.accepted
  next : ∀ intent, lib.SeparatesStates (intent :: w.accepted.map (·.intent)) →
    validateManagedAgentInstallationProgress (w.stored.map (·.data)) intent
      (lib.digest intent.normalized) = .ok () →
    InSequence (newManagedAgentInstallationCommand lib intent :: w.accepted)
  step : ∀ e, StepForward lib identity w e

section
variable {lib : Library} {identity : Identity} {known : List Intent} {w : World}

theorem Progresses.result (hw : Progresses lib identity known w) {operationID : String}
    (hresult : operationID ∈ w.resultOperation e)
    (hother : ∀ cm ∈ w.stored, cm.data.operationID ≠ operationID) :
    (w.step lib identity e).stored = w.stored := by
  -- The operation of the goroutine is the persisted one.
  have hactive (hmem : operationID ∈ w.active.map (·.command.intent.operationID)) : False := by
    obtain ⟨run, hrun, rfl⟩ := Option.map_eq_some_iff.mp hmem
    obtain ⟨⟨cm, hstored, hop⟩, -⟩ := hw.active run hrun
    exact hother cm hstored (operation_fields hop).1
  cases e with
  | intent | resume | quit | restart => cases hresult
  | send => exact (hactive hresult).elim
  | land => exact (hactive hresult).elim
  | write outcome =>
    simp only [World.resultOperation] at hresult
    split at hresult
    · rename_i hwriting
      cases (hw.writing _ hwriting).1
    · cases hresult
  | landStray i =>
    obtain ⟨req, hreq, rfl⟩ := Option.map_eq_some_iff.mp hresult
    obtain ⟨version, data, cm, rfl, hstored, -, hop⟩ := hw.strays req (List.mem_of_getElem? hreq)
    simp only [World.step, hreq]
    refine Request.land_eq (Bool.eq_false_iff.mpr fun hlands => ?_)
    rw [hstored] at hlands
    have hversion : cm.resourceVersion = version := of_decide_eq_true hlands
    exact hother cm hstored (operation_fields (hop hversion.symm)).1.symm

theorem Progresses.forward (hstates : lib.SeparatesStates known)
    (hw : Progresses lib identity known w) : Forward lib identity w := by
  refine ⟨hw.linked.inOrder.inSequence, fun intent hsep hv => ?_, fun e => ⟨?_, ?_⟩⟩
  · refine (hw.linked.extends (fun c hc => ?_) hv).inSequence
    exact hsep _ (.head _) _ (.tail _ (List.mem_map_of_mem (List.mem_of_mem_head? hc)))
  · intro cm hcm hack
    obtain ⟨-, command, hm, -⟩ := hw.step hstates e
    exact hm.acknowledgement hstates hw.linked cm hcm hack
  · intro operationID hresult hother
    exact hw.result hresult hother

end

def plainLibrary : Library where
  targetID hash := "eks-" ++ hash
  digest intent := (if intent.desiredState = .installed then "i" else "a") ++ intent.operationID

def plainIdentity : Identity where
  installationID := "11111111-1111-4111-8111-111111111111"
  targetHash := "abababababababababababababababababababababababababababababababab"

def plainIntent (operationID desiredState : String) (acknowledgedOperationID : String := "") :
    EKSIntent where
  version := "v1"
  installationID := plainIdentity.installationID
  eksARNSHA256 := plainIdentity.targetHash
  operationID
  desiredState
  acknowledgedOperationID
  bootstrap := { clusterName := "prod", site := "datadoghq.com" }

/-- An install is given up after it has sent its result, and the uninstall accepted. -/
def cancelledInstall : List Event :=
  [.intent (plainIntent "22222222-2222-4222-8222-222222222222" "installed") {}, .write .written,
    .send .done none, .quit,
    .intent (plainIntent "33333333-3333-4333-8333-333333333333" "absent") {}, .write .written]

end DatadogOperator.Installation
