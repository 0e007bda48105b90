import DatadogOperator.Fleet.Operations

/-!
# Intents of a managed installation

`managed_agent_installation_intent.go` and its EKS decoder: an intent asks to
install or to remove the DatadogAgent, under an operation ID and with a digest
of everything but its acknowledgement. The decoder works on the fields after
JSON; the bootstrap config it builds is no part of the progress and left out.
The digest is a parameter: SHA-256 of the marshalled intent.
-/

namespace DatadogOperator.Installation

inductive DesiredState
  | installed
  | absent
  deriving DecidableEq

structure Bootstrap where
  clusterName : String
  site : String

/-- `managedAgentInstallationIntent`. -/
structure Intent where
  version : String
  provider : String
  installationID : String
  targetID : String
  operationID : String
  desiredState : DesiredState
  acknowledgedOperationID : String := ""
  bootstrap : Bootstrap

/-- `normalizedManagedAgentInstallationIntent`: what the digest is taken of. -/
structure NormalizedIntent where
  version : String
  provider : String
  installationID : String
  targetID : String
  operationID : String
  desiredState : DesiredState
  bootstrap : Bootstrap

def Intent.normalized (intent : Intent) : NormalizedIntent :=
  { version := intent.version
    provider := intent.provider
    installationID := intent.installationID
    targetID := intent.targetID
    operationID := intent.operationID
    desiredState := intent.desiredState
    bootstrap := intent.bootstrap }

/-- `managedAgentInstallationPersistedState`. -/
structure PersistedState where
  provider : String
  installationID : String
  targetID : String
  operationID : String
  digest : String
  desiredState : DesiredState
  acknowledgedOperationID : String
  taskState : Fleet.TaskState
  error : String := ""
  deriving DecidableEq

/-! ## Decoding -/

/-- `eksManagedAgentInstallationIntent`, as JSON gives it. -/
structure EKSIntent where
  version : String
  installationID : String
  eksARNSHA256 : String
  operationID : String
  desiredState : String
  acknowledgedOperationID : String := ""
  bootstrap : Bootstrap

structure Identity where
  installationID : String
  targetHash : String

def providerEKS := "eks"
def managedAgentInstallationVersion := "v1"

def isLowerHex (c : Char) : Bool := ('0' ≤ c && c ≤ '9') || ('a' ≤ c && c ≤ 'f')

/-- A UUID that parses, is not zero and prints as it was given. -/
def isCanonicalUUID (value : String) : Bool :=
  let cs := value.toList
  cs.length == 36 && value ≠ "00000000-0000-0000-0000-000000000000" &&
    cs.zipIdx.all fun (c, i) => if i ∈ [8, 13, 18, 23] then c == '-' else isLowerHex c

/-- `unicode.IsSpace`. -/
def isSpace (c : Char) : Bool :=
  c.toNat ∈ [0x09, 0x0a, 0x0b, 0x0c, 0x0d, 0x20, 0x85, 0xa0, 0x1680, 0x2028, 0x2029, 0x202f, 0x205f,
    0x3000] || (0x2000 ≤ c.toNat && c.toNat ≤ 0x200a)

/-- `strings.TrimSpace(s) == s`. -/
def isTrimmed (s : String) : Bool :=
  !(s.toList.head?.any isSpace) && !(s.toList.getLast?.any isSpace)

inductive DecodeError
  | version (text : String)
  | whitespace
  | installationUUID
  | targetHash
  | installationMismatch
  | targetMismatch
  | uuid (field : String)
  | acknowledgement
  | clusterName
  | site (text : String)
  | desiredState (text : String)

def Identity.validate (identity : Identity) : Except DecodeError Unit :=
  if isTrimmed identity.installationID = false then .error .whitespace
  else if isCanonicalUUID identity.installationID = false then .error .installationUUID
  else if (identity.targetHash.toList.length == 64 && identity.targetHash.toList.all isLowerHex) = false then
    .error .targetHash
  else .ok ()

def allowedManagedAgentInstallationSites : List String :=
  ["datadoghq.com", "datadoghq.eu", "us3.datadoghq.com", "us5.datadoghq.com", "ddog-gov.com",
    "ap1.datadoghq.com", "ap2.datadoghq.com"]

def validateManagedAgentInstallationBootstrap (bootstrap : Bootstrap) : Except DecodeError Unit :=
  if isTrimmed bootstrap.clusterName = false ∨ bootstrap.clusterName = "" ∨
      bootstrap.clusterName.utf8ByteSize > 100 then
    .error .clusterName
  else if bootstrap.site ∉ allowedManagedAgentInstallationSites then .error (.site bootstrap.site)
  else .ok ()

def validateCanonicalUUID (field value : String) : Except DecodeError Unit :=
  if isCanonicalUUID value then .ok () else .error (.uuid field)

/-- Library functions the daemon calls: the target ID of a hash (base32 of
its bytes) and the digest of a normalized intent. -/
structure Library where
  targetID : String → String
  digest : NormalizedIntent → String

/-- An install and an uninstall among these intents have different digests. -/
def Library.SeparatesStates (lib : Library) (intents : List Intent) : Prop :=
  ∀ i ∈ intents, ∀ i' ∈ intents, lib.digest i.normalized = lib.digest i'.normalized →
    i.desiredState = i'.desiredState

instance (lib : Library) (intents : List Intent) : Decidable (lib.SeparatesStates intents) :=
  inferInstanceAs (Decidable (∀ i ∈ intents, _))

def decodeEKSManagedAgentInstallationIntent (lib : Library) (identity : Identity) (eks : EKSIntent) :
    Except DecodeError Intent := do
  if eks.version ≠ managedAgentInstallationVersion then throw (.version eks.version)
  let intentIdentity : Identity := ⟨eks.installationID, eks.eksARNSHA256⟩
  intentIdentity.validate
  if intentIdentity.installationID ≠ identity.installationID then throw .installationMismatch
  let targetID := lib.targetID intentIdentity.targetHash
  if targetID ≠ lib.targetID identity.targetHash then throw .targetMismatch
  validateCanonicalUUID "operation_id" eks.operationID
  if eks.acknowledgedOperationID ≠ "" then
    validateCanonicalUUID "acknowledged_operation_id" eks.acknowledgedOperationID
    if eks.desiredState = "installed" ∧ eks.acknowledgedOperationID ≠ eks.operationID then
      throw .acknowledgement
  validateManagedAgentInstallationBootstrap eks.bootstrap
  let desiredState ← match eks.desiredState with
    | "installed" => pure DesiredState.installed
    | "absent" => pure .absent
    | text => throw (.desiredState text)
  return { version := eks.version
           provider := providerEKS
           installationID := eks.installationID
           targetID
           operationID := eks.operationID
           desiredState
           acknowledgedOperationID := eks.acknowledgedOperationID
           bootstrap := eks.bootstrap }

/-! ## Progress -/

inductive ProgressError
  | firstInstall
  | otherInstallation
  | replayed (operationID : String)
  | installAcknowledgement
  | uninstallAcknowledgementChanged
  | afterUninstall
  | secondInstall
  | uninstallAcknowledgement

def validateManagedAgentInstallationProgress (current : Option PersistedState) (intent : Intent)
    (digest : String) : Except ProgressError Unit :=
  match current with
  | none =>
    if intent.desiredState ≠ .installed ∨ intent.acknowledgedOperationID ≠ "" then
      .error .firstInstall
    else .ok ()
  | some current =>
    if current.provider ≠ intent.provider ∨ current.installationID ≠ intent.installationID ∨
        current.targetID ≠ intent.targetID then
      .error .otherInstallation
    else if intent.operationID = current.operationID then
      if digest ≠ current.digest then .error (.replayed intent.operationID)
      else if current.desiredState = .installed then
        if current.acknowledgedOperationID = "" ∧ (intent.acknowledgedOperationID = "" ∨
            intent.acknowledgedOperationID = intent.operationID) then .ok ()
        else if current.acknowledgedOperationID = intent.operationID ∧
            intent.acknowledgedOperationID = intent.operationID then .ok ()
        else .error .installAcknowledgement
      else if intent.acknowledgedOperationID ≠ current.acknowledgedOperationID then
        .error .uninstallAcknowledgementChanged
      else .ok ()
    else if current.desiredState = .absent then .error .afterUninstall
    else if intent.desiredState ≠ .absent then .error .secondInstall
    else if intent.acknowledgedOperationID ≠ current.acknowledgedOperationID then
      .error .uninstallAcknowledgement
    else .ok ()

section
variable {lib : Library} {identity : Identity} {eks : EKSIntent} {intent : Intent}

/-- What the rest of the daemon relies on in a decoded intent. -/
structure Intent.Decoded (lib : Library) (identity : Identity) (intent : Intent) : Prop where
  operationID : intent.operationID ≠ ""
  provider : intent.provider = providerEKS
  installationID : intent.installationID = identity.installationID
  targetID : intent.targetID = lib.targetID identity.targetHash

theorem validateCanonicalUUID_ne_empty
    (h : validateCanonicalUUID field value = .ok u) : value ≠ "" := by
  rintro rfl
  have hempty : isCanonicalUUID "" = false := by decide
  simp [validateCanonicalUUID, hempty] at h

theorem decode_decoded
    (h : decodeEKSManagedAgentInstallationIntent lib identity eks = .ok intent) :
    intent.Decoded lib identity := by
  simp only [decodeEKSManagedAgentInstallationIntent, bind, Except.bind, pure, Except.pure,
    throw, throwThe, MonadExceptOf.throw] at h
  -- Every check that fails ends the decoding; four ways through are left.
  repeat' split at h
  all_goals try cases h
  all_goals
    have huuid := ‹validateCanonicalUUID "operation_id" eks.operationID = .ok _›
    have hinstallation := ‹¬eks.installationID ≠ identity.installationID›
    have htarget := ‹¬lib.targetID eks.eksARNSHA256 ≠ lib.targetID identity.targetHash›
    exact ⟨validateCanonicalUUID_ne_empty huuid, rfl, not_not.mp hinstallation, not_not.mp htarget⟩

end

end DatadogOperator.Installation
