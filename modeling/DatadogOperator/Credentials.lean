import DatadogOperator.Lib.Checked
import DatadogOperator.Lib.Runs

/-!
# The credentials of the operator

`pkg/config/creds.go` and `pkg/secrets`: three functions look for credentials and one refreshes
them, with one cache between them. Credentials for metadata need no application key but are
cached all the same, and the cache asks for an API key only. So an application key is certain
exactly as long as no source of credentials is without one.
-/

namespace DatadogOperator.Credentials

open Runs

/-! ## The source -/

structure Creds where
  apiKey : String := ""
  appKey : String := ""
  site : Option String := none
  url : Option String := none
  deriving DecidableEq

def isEnc (s : String) : Bool := "ENC[".toList.isPrefixOf s.toList && "]".toList.isSuffixOf s.toList

def extractHandle (s : String) : String := String.ofList (s.toList.drop 4).dropLast

/-- What the command of the secret backend says of a handle. -/
structure Secret where
  value : String := ""
  errorMsg : String := ""

/-- One turn of the loop of `fetchSecret`. -/
def fetchSecret (secrets : String → Option Secret) (handle : String) :
    Except String {s : String // s ≠ ""} :=
  match secrets handle with
  | none =>
    .error ("secret handle '" ++ handle ++ "' was not decrypted by the secret_backend_command")
  | some secret =>
    if secret.errorMsg ≠ "" then
      .error ("an error occurred while decrypting '" ++ handle ++ "': " ++ secret.errorMsg)
    else if h : secret.value = "" then .error ("decrypted secret for '" ++ handle ++ "' is empty")
    else .ok ⟨secret.value, h⟩

structure AgentCredentials where
  apiKey : Option String
  secretName : String
  secretKeyName : String

structure DatadogAgent where
  ns : String
  credentials : Option AgentCredentials
  site : Option String

/-- The environment and the answers a call gets; `execCommand` is that of the last try. -/
structure Env where
  apiKey : String := ""
  appKey : String := ""
  site : String := ""
  url : String := ""
  podName : String := ""
  podNamespace : String := ""
  execCommand : Except String (String → Option Secret)
  /-- The release label of the operator's pod. -/
  getPod : Except String String := .error "not found"
  getConfigMap : String → Except String (String → String) := fun _ => .error "not found"
  getSecret : String → String → Except String (String → String) := fun _ _ => .error "not found"
  getDDA : Except String (Option DatadogAgent) := .error "not found"

/-- `ddaCreds` is the one secret that was decrypted last. -/
structure CredentialManager where
  creds : Creds := {}
  ddaCreds : Option (String × {s : String // s ≠ ""}) := none

def CredentialManager.getCredsFromCache (cm : CredentialManager) : Option Creds :=
  if cm.creds.apiKey ≠ "" then some cm.creds else none

def Env.decrypt (env : Env) (encrypted : String) : Except String {s : String // s ≠ ""} := do
  fetchSecret (← env.execCommand) (extractHandle encrypted)

/-- The keys are decrypted with one call of the command, the API key first. -/
def Env.decrypted (env : Env) (apiKey appKey : String) : Except String Creds := do
  let plain (s : String) : Except String String := if isEnc s then (env.decrypt s).map (·.1) else .ok s
  return { apiKey := ← plain apiKey, appKey := ← plain appKey }

def Env.fetchCredentials (env : Env) : Except String Creds :=
  if env.apiKey = "" ∨ env.appKey = "" then .error "empty API key and/or App key"
  else env.decrypted env.apiKey env.appKey

def getCredentials (cm : CredentialManager) (env : Env) : Except String Creds × CredentialManager :=
  match cm.getCredsFromCache with
  | some creds => (.ok creds, cm)
  | none =>
    match env.fetchCredentials with
    | .error e => (.error e, cm)
    | .ok creds => (.ok creds, { cm with creds })

/-- An empty application key is not encrypted. -/
def getCredentialsForMetadata (cm : CredentialManager) (env : Env) :
    Except String Creds × CredentialManager :=
  match cm.getCredsFromCache with
  | some creds => (.ok creds, cm)
  | none =>
    if env.apiKey = "" then (.error "empty API key", cm) else
    match env.decrypted env.apiKey env.appKey with
    | .error e => (.error e, cm)
    | .ok creds => (.ok creds, { cm with creds })

def resolveSecretsIfNeeded (cm : CredentialManager) (env : Env) (key : String) :
    Except String String × CredentialManager :=
  if !isEnc key then (.ok key, cm) else
  match cm.ddaCreds.filter (·.1 = key) with
  | some cached => (.ok cached.2, cm)
  | none =>
    match env.decrypt key with
    | .error e => (.error e, cm)
    | .ok value => (.ok value, { cm with ddaCreds := some (key, value) })

def Env.getKeyFromSecret (env : Env) (ns secretName dataKey : String) : Except String String :=
  (env.getSecret ns secretName).map (· dataKey)

/-- The ConfigMap of the Helm release of the operator. -/
def Env.endpointConfig (env : Env) : Except String (String → String) := do
  if env.podName = "" ∨ env.podNamespace = "" then
    .error "POD_NAME and POD_NAMESPACE must be set"
  let releaseName ← env.getPod
  if releaseName = "" then .error "app.kubernetes.io/instance label not found on pod"
  env.getConfigMap (releaseName ++ "-endpoint-config")

/-- Without an application key, or with one that cannot be read, the credentials have none. -/
def configMapAppKey (cm : CredentialManager) (env : Env) (data : String → String) :
    String × CredentialManager :=
  if data "app-key-secret-name" = "" then ("", cm) else
  match env.getKeyFromSecret env.podNamespace (data "app-key-secret-name") "app-key" with
  | .error _ => ("", cm)
  | .ok appKey =>
    if appKey = "" then ("", cm) else
    match resolveSecretsIfNeeded cm env appKey with
    | (.error _, cm) => ("", cm)
    | (.ok appKey, cm) => (appKey, cm)

def nonemptyString (s : String) : Option String := if s = "" then none else some s

def getCredentialsFromConfigMap (cm : CredentialManager) (env : Env) :
    Except String Creds × CredentialManager :=
  match env.endpointConfig with
  | .error e => (.error e, cm)
  | .ok data =>
    if data "api-key-secret-name" = "" then
      (.error "api-key-secret-name not found in endpoint-config ConfigMap", cm)
    else
      match env.getKeyFromSecret env.podNamespace (data "api-key-secret-name") "api-key" with
      | .error e => (.error ("failed to get API key from secret: " ++ e), cm)
      | .ok apiKey =>
        if apiKey = "" then (.error "empty api key", cm) else
        match resolveSecretsIfNeeded cm env apiKey with
        | (.error e, cm) => (.error ("failed to decrypt API key: " ++ e), cm)
        | (.ok apiKey, cm) =>
          let (appKey, cm) := configMapAppKey cm env data
          let creds : Creds :=
            ⟨apiKey, appKey, nonemptyString (data "dd-site"), nonemptyString (data "dd-url")⟩
          (.ok creds, { cm with creds })

/-- These credentials are not cached. -/
def getCredentialsFromDDA (cm : CredentialManager) (env : Env) (dda : Option DatadogAgent) :
    Except String Creds × CredentialManager :=
  match dda with
  | none => (.error "DatadogAgent is nil", cm)
  | some dda =>
    match dda.credentials with
    | none => (.error "credentials not configured in the DatadogAgent", cm)
    | some credentials =>
      let apiKey := match credentials.apiKey.bind nonemptyString with
        | some apiKey => Except.ok apiKey
        | none => env.getKeyFromSecret dda.ns credentials.secretName credentials.secretKeyName
      match apiKey with
      | .error e => (.error e, cm)
      | .ok apiKey =>
        if apiKey = "" then (.error "empty api key", cm) else
        match resolveSecretsIfNeeded cm env apiKey with
        | (.error e, cm) => (.error e, cm)
        | (.ok apiKey, cm) => (.ok { apiKey, site := dda.site }, cm)

def getCredsWithDDAFallback (cm : CredentialManager) (env : Env) :
    Except String Creds × CredentialManager :=
  match getCredentialsForMetadata cm env with
  | (.ok creds, cm) => (.ok { creds with
      site := (nonemptyString env.site).orElse fun _ => creds.site
      url := (nonemptyString env.url).orElse fun _ => creds.url }, cm)
  | (.error _, cm) =>
    match getCredentialsFromConfigMap cm env with
    | (.ok creds, cm) => (.ok creds, cm)
    | (.error _, cm) =>
      match env.getDDA with
      | .error e => (.error e, cm)
      | .ok dda => getCredentialsFromDDA cm env dda

def refresh (cm : CredentialManager) (env : Env) : Except String Unit × CredentialManager :=
  match env.fetchCredentials with
  | .error e => (.error e, cm)
  | .ok creds => (.ok (), { cm with creds })

/-! ## Sequences of calls -/

inductive Function
  | getCredentials
  | getCredentialsForMetadata
  | getCredsWithDDAFallback
  | refresh

abbrev Call := Function × Env

def call (cm : CredentialManager) : Call → CredentialManager
  | (.getCredentials, env) => (getCredentials cm env).2
  | (.getCredentialsForMetadata, env) => (getCredentialsForMetadata cm env).2
  | (.getCredsWithDDAFallback, env) => (getCredsWithDDAFallback cm env).2
  | (.refresh, env) => (refresh cm env).2

/-- `GetCredentials` returns both keys, and a `Refresh` that fails changes nothing. -/
def KeepsPromise (cm : CredentialManager) : Call → Prop
  | (.getCredentials, env) => ∀ creds, (getCredentials cm env).1 = .ok creds →
      creds.apiKey ≠ "" ∧ creds.appKey ≠ ""
  | (.refresh, env) => ∀ e, (refresh cm env).1 = .error e → (refresh cm env).2.creds = cm.creds
  | _ => True

/-- A source with an API key has an application key: the environment, and the ConfigMap of
the release, whose application key is named, can be read and can be decrypted. -/
structure Env.Complete (env : Env) : Prop where
  environment : env.apiKey ≠ "" → env.appKey ≠ ""
  configMap : ∀ data, env.endpointConfig = .ok data → data "app-key-secret-name" ≠ "" ∧
    ∃ appKey, appKey ≠ "" ∧
      env.getKeyFromSecret env.podNamespace (data "app-key-secret-name") "app-key" = .ok appKey ∧
      (isEnc appKey → ∃ value, env.decrypt appKey = .ok value)

/-- Only the functions that need no application key are asked for more. -/
def Sufficient (_ : CredentialManager) : Call → Prop
  | (.getCredentialsForMetadata, env) => env.apiKey ≠ "" → env.appKey ≠ ""
  | (.getCredsWithDDAFallback, env) => env.Complete
  | _ => True

def Paired (cm : CredentialManager) : Prop := cm.creds.apiKey ≠ "" → cm.creds.appKey ≠ ""

section
variable {cm : CredentialManager} {env : Env} {creds : Creds} {apiKey appKey key : String}

theorem decrypted_nonempty (h : env.decrypted apiKey appKey = .ok creds) :
    (apiKey ≠ "" → creds.apiKey ≠ "") ∧ (appKey ≠ "" → creds.appKey ≠ "") := by
  have hplain : ∀ s plain, (if isEnc s then (env.decrypt s).map (·.1) else Except.ok s) = .ok plain →
      s ≠ "" → plain ≠ "" := by
    intro s plain hs hne
    split_ifs at hs
    · obtain ⟨value, -, rfl⟩ := Checked.map_ok hs
      exact value.2
    · cases hs
      exact hne
  obtain ⟨api, hapi, h⟩ := Checked.bind_ok h
  obtain ⟨app, happ, h⟩ := Checked.bind_ok h
  cases h
  exact ⟨hplain _ _ hapi, hplain _ _ happ⟩

theorem fetchCredentials_nonempty (h : env.fetchCredentials = .ok creds) :
    creds.apiKey ≠ "" ∧ creds.appKey ≠ "" := by
  unfold Env.fetchCredentials at h
  split_ifs at h with hempty
  rw [not_or] at hempty
  exact ⟨(decrypted_nonempty h).1 hempty.1, (decrypted_nonempty h).2 hempty.2⟩

theorem getCredsFromCache_paired (hcm : Paired cm) (h : cm.getCredsFromCache = some creds) :
    creds.apiKey ≠ "" ∧ creds.appKey ≠ "" := by
  unfold CredentialManager.getCredsFromCache at h
  split_ifs at h with hkey
  cases h
  exact ⟨hkey, hcm hkey⟩

theorem Paired.getCredentials (hcm : Paired cm) : Paired (getCredentials cm env).2 ∧
    ∀ creds, (Credentials.getCredentials cm env).1 = .ok creds →
      creds.apiKey ≠ "" ∧ creds.appKey ≠ "" := by
  unfold Credentials.getCredentials
  cases hcache : cm.getCredsFromCache with
  | some cached =>
    refine ⟨hcm, fun creds h => ?_⟩
    cases h
    exact getCredsFromCache_paired hcm hcache
  | none =>
    cases hfetch : env.fetchCredentials with
    | error e => exact ⟨hcm, fun creds h => by cases h⟩
    | ok fetched =>
      have hboth := fetchCredentials_nonempty hfetch
      exact ⟨fun _ => hboth.2, fun creds h => by cases h; exact hboth⟩

theorem Paired.getCredentialsForMetadata (hcm : Paired cm) (h : env.apiKey ≠ "" → env.appKey ≠ "") :
    Paired (getCredentialsForMetadata cm env).2 := by
  unfold Credentials.getCredentialsForMetadata
  cases cm.getCredsFromCache with
  | some cached => exact hcm
  | none =>
    dsimp only
    split_ifs with hkey
    · exact hcm
    · cases hd : env.decrypted env.apiKey env.appKey with
      | error e => exact hcm
      | ok creds => exact fun _ => (decrypted_nonempty hd).2 (h hkey)

theorem resolveSecretsIfNeeded_creds : (resolveSecretsIfNeeded cm env key).2.creds = cm.creds := by
  unfold resolveSecretsIfNeeded
  split_ifs
  · rfl
  · cases cm.ddaCreds.filter (·.1 = key) with
    | some cached => rfl
    | none => cases env.decrypt key <;> rfl

/-- A key that can be decrypted is, to one that is not empty. -/
theorem resolveSecretsIfNeeded_ok (cm : CredentialManager) (hkey : key ≠ "")
    (h : isEnc key → ∃ value, env.decrypt key = .ok value) :
    ∃ plain, plain ≠ "" ∧ (resolveSecretsIfNeeded cm env key).1 = .ok plain := by
  unfold resolveSecretsIfNeeded
  by_cases henc : isEnc key
  · obtain ⟨value, hvalue⟩ := h henc
    rw [if_neg (by simp [henc])]
    cases cm.ddaCreds.filter (·.1 = key) with
    | some cached => exact ⟨cached.2, cached.2.2, rfl⟩
    | none => exact ⟨value, value.2, by simp [hvalue]⟩
  · exact ⟨key, hkey, by simp [henc]⟩

theorem configMapAppKey_nonempty (hcomplete : env.Complete)
    (hdata : env.endpointConfig = .ok data) : (configMapAppKey cm env data).1 ≠ "" := by
  obtain ⟨hname, key, hkey, hread, hdecrypt⟩ := hcomplete.configMap data hdata
  obtain ⟨plain, hplain, hresolve⟩ := resolveSecretsIfNeeded_ok cm hkey hdecrypt
  unfold configMapAppKey
  simp only [hname, if_false, hread, hkey]
  split
  · rename_i h
    rw [h] at hresolve
    cases hresolve
  · rename_i h
    rw [h] at hresolve
    cases hresolve
    exact hplain

theorem Paired.getCredentialsFromConfigMap (hcm : Paired cm) (hcomplete : env.Complete) :
    Paired (getCredentialsFromConfigMap cm env).2 := by
  unfold Credentials.getCredentialsFromConfigMap
  cases hdata : env.endpointConfig with
  | error e => exact hcm
  | ok data =>
    dsimp only
    split_ifs with hname
    · exact hcm
    · cases env.getKeyFromSecret env.podNamespace (data "api-key-secret-name") "api-key" with
      | error e => exact hcm
      | ok apiKey =>
        dsimp only
        split_ifs
        · exact hcm
        · have hcreds : (resolveSecretsIfNeeded cm env apiKey).2.creds = cm.creds :=
            resolveSecretsIfNeeded_creds
          split
          · rename_i h
            rw [h] at hcreds
            unfold Paired
            rw [hcreds]
            exact hcm
          · exact fun _ => configMapAppKey_nonempty hcomplete hdata

theorem getCredentialsFromDDA_creds : (getCredentialsFromDDA cm env dda).2.creds = cm.creds := by
  unfold getCredentialsFromDDA
  split
  · rfl
  · split
    · rfl
    · dsimp only
      split
      · rfl
      · rename_i apiKey _
        split_ifs
        · rfl
        · have hcreds : (resolveSecretsIfNeeded cm env apiKey).2.creds = cm.creds :=
            resolveSecretsIfNeeded_creds
          split <;> rename_i h <;> rw [h] at hcreds <;> exact hcreds

theorem Paired.getCredsWithDDAFallback (hcm : Paired cm) (hcomplete : env.Complete) :
    Paired (getCredsWithDDAFallback cm env).2 := by
  have hmetadata := hcm.getCredentialsForMetadata hcomplete.environment
  unfold Credentials.getCredsWithDDAFallback
  split <;> rename_i h <;> rw [h] at hmetadata
  · exact hmetadata
  · have hconfigMap := Paired.getCredentialsFromConfigMap hmetadata hcomplete
    split <;> rename_i h <;> rw [h] at hconfigMap
    · exact hconfigMap
    · cases env.getDDA with
      | error e => exact hconfigMap
      | ok dda =>
        unfold Paired
        rw [getCredentialsFromDDA_creds]
        exact hconfigMap

theorem refresh_cases (cm : CredentialManager) (env : Env) :
    (∃ e, refresh cm env = (.error e, cm)) ∨ ∃ creds, (creds.apiKey ≠ "" ∧ creds.appKey ≠ "") ∧
        refresh cm env = (.ok (), { cm with creds }) := by
  unfold refresh
  cases hfetch : env.fetchCredentials with
  | error e => exact .inl ⟨e, rfl⟩
  | ok creds => exact .inr ⟨creds, fetchCredentials_nonempty hfetch, rfl⟩

theorem Paired.call (hcm : Paired cm) (h : Sufficient cm c) : Paired (call cm c) := by
  obtain ⟨function, env⟩ := c
  cases function with
  | getCredentials => exact hcm.getCredentials.1
  | getCredentialsForMetadata => exact hcm.getCredentialsForMetadata h
  | getCredsWithDDAFallback => exact hcm.getCredsWithDDAFallback h
  | refresh =>
    rcases refresh_cases cm env with ⟨e, heq⟩ | ⟨creds, hboth, heq⟩ <;>
      simp only [Credentials.call, heq]
    · exact hcm
    · exact fun _ => hboth.2

theorem Paired.keepsPromise (hcm : Paired cm) (c : Call) : KeepsPromise cm c := by
  obtain ⟨function, env⟩ := c
  cases function with
  | getCredentials => exact hcm.getCredentials.2
  | refresh =>
    intro e he
    rcases refresh_cases cm env with ⟨e', heq⟩ | ⟨creds, _, heq⟩ <;> rw [heq] at he ⊢
    cases he
  | _ => trivial

end

/-- While no source of credentials is without an application key, `GetCredentials` returns
both keys; and a `Refresh` that fails changes nothing. -/
theorem credentials_have_both_keys (calls : List Call)
    (h : Along call Sufficient {} calls) : Along call KeepsPromise {} calls :=
  Along.of_invariant (I := Paired) (fun _ _ hcm hc => hcm.call hc) (fun _ c hcm _ => hcm.keepsPromise c)
    (fun hkey => absurd rfl hkey) h

def exampleEnv (apiKey appKey : String) : Env where
  apiKey
  appKey
  execCommand := .ok fun handle => some { value := handle }

/-- The keys are decrypted, and a backend that has no value is refused. -/
theorem metadata_then_credentials :
    let calls : List Call := [(.getCredentialsForMetadata, exampleEnv "ENC[api]" "ENC[]"),
      (.getCredentialsForMetadata, exampleEnv "ENC[api]" "ENC[app]"),
      (.getCredentials, exampleEnv "api" "app")]
    Along call KeepsPromise {} calls ∧
      (run call {} calls).creds = { apiKey := "api", appKey := "app" } :=
  ⟨credentials_have_both_keys _ ⟨fun _ => by decide, fun _ => by decide, trivial, trivial⟩, by decide⟩

/-- Credentials for metadata are cached without an application key, and returned. -/
theorem metadata_credentials_are_returned :
    ¬ Along call KeepsPromise {} [(.getCredentialsForMetadata, exampleEnv "api" ""),
      (.getCredentials, exampleEnv "api" "app")] := by
  rintro ⟨-, h, -⟩
  exact (h { apiKey := "api" } (by decide)).2 rfl

end DatadogOperator.Credentials
