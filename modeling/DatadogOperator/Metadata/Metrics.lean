import DatadogOperator.Lib.Runs
import Mathlib.Data.List.Basic

/-!
# The metrics forwarder

`metrics_forwarder.go`: attempts to connect and to forward metrics report a
condition through a deferred call of `updateStatusIfNeeded`. Its argument is
evaluated when the call is deferred, right after the setup, so the condition
reports the setup and not the attempt. Tags and the feature and resource metrics,
whose errors are not looked at, are left out.
-/

namespace DatadogOperator.MetricsForwarder

open Runs

abbrev Error := String

inductive Kind
  | datadogAgent
  | datadogAgentInternal
  | other
  deriving DecidableEq

inductive ReconcileErr
  /-- `errInitValue` -/
  | initial
  | none
  | failed (e : Error)
  deriving DecidableEq

structure ConditionCommon where
  conditionType : String
  status : Bool
  reason : String
  message : String
  deriving DecidableEq

/-- The component, and whether all of its replicas are available. -/
abbrev StatusMetric := String × Bool

structure Forwarder where
  kind : Kind
  apiKey : String := ""
  keysHash : UInt64 := 0
  statusMetrics : List StatusMetric := []
  lastReconcileErr : ReconcileErr := .initial
  status : Option ConditionCommon := none

structure Monitored where
  apiKey : Except Error String
  statusMetrics : List StatusMetric

structure Env where
  operatorKey : Option String := none
  object : Except Error Monitored
  validateCreds : Option Error := none
  sendDeploymentMetric : Nat → StatusMetric → Option Error := fun _ _ => none
  sendReconcileMetric : Option Error := none

variable (hashKeys : String → UInt64)

def setup (mf : Forwarder) (env : Env) : Option Error × Forwarder :=
  let mf := { mf with apiKey := env.operatorKey.getD mf.apiKey }
  if mf.kind = .other then (none, mf)
  else
    match env.object with
    | .error e => (some e, mf)
    | .ok object =>
      match env.operatorKey, object.apiKey with
      | none, .error e => (some e, mf)
      | none, .ok apiKey => (none, { mf with apiKey, statusMetrics := object.statusMetrics })
      | some _, _ => (none, { mf with statusMetrics := object.statusMetrics })

def successCondition : ConditionCommon :=
  ⟨"ActiveDatadogMetrics", true, "MetricsForwardingSucceeded", "Datadog metrics forwarding ok"⟩

def errorCondition : ConditionCommon :=
  ⟨"DatadogMetricsError", false, "MetricsForwardingError", "Datadog metrics forwarding error"⟩

def updateStatusIfNeeded (err : Option Error) (mf : Forwarder) : Forwarder :=
  { mf with status := some (if err.isSome then errorCondition else successCondition) }

def initAPIClient (mf : Forwarder) (env : Env) : Option Error × Forwarder :=
  match env.validateCreds with
  | some e => (some e, mf)
  | none => (none, { mf with keysHash := hashKeys mf.apiKey })

def updateCredsIfNeeded (mf : Forwarder) (env : Env) : Option Error × Forwarder :=
  if mf.keysHash ≠ hashKeys mf.apiKey then initAPIClient hashKeys mf env else (none, mf)

/-- The first error ends the loop. -/
def sendStatusMetrics (mf : Forwarder) (env : Env) : Option Error :=
  mf.statusMetrics.zipIdx.findSome? fun (metric, i) => env.sendDeploymentMetric i metric

/-- The error of the attempt, which is only logged: `true` is returned without one. -/
def connectToDatadogAPI (mf : Forwarder) (env : Env) : Option Error × Forwarder :=
  let (err, mf) := setup mf env
  let (result, mf) :=
    if err.isSome then (err, mf)
    else
      match initAPIClient hashKeys mf env with
      | (some e, mf) => (some e, mf)
      | (none, mf) =>
        (none, if mf.lastReconcileErr = .initial then { mf with lastReconcileErr := .none } else mf)
  -- The deferred call, with the error it was registered with.
  (result, updateStatusIfNeeded err mf)

def prepareReconcileMetric (mf : Forwarder) : Option Error :=
  if mf.lastReconcileErr = .initial then some "last reconcile error not updated" else none

def forwardMetrics (mf : Forwarder) (env : Env) : Option Error × Forwarder :=
  let (err, mf) := setup mf env
  let (result, mf) :=
    if err.isSome then (err, mf)
    else
      match updateCredsIfNeeded hashKeys mf env with
      | (some e, mf) => (some e, mf)
      | (none, mf) =>
        ((if mf.kind = .datadogAgent then none else sendStatusMetrics mf env).or
          ((prepareReconcileMetric mf).or env.sendReconcileMetric), mf)
  -- As above.
  (result, updateStatusIfNeeded err mf)

inductive Event
  | connect (env : Env)
  | forward (env : Env)
  /-- `processReconcileError`: the send that follows has no effect here. -/
  | reconciled (err : ReconcileErr)

/-- The error an event ends with, and the forwarder after it. -/
def attempt (mf : Forwarder) : Event → Option Error × Forwarder
  | .connect env => connectToDatadogAPI hashKeys mf env
  | .forward env => forwardMetrics hashKeys mf env
  | .reconciled err => (none, { mf with lastReconcileErr := err })

def step (mf : Forwarder) (e : Event) : Forwarder := (attempt hashKeys mf e).2

def Reported (mf : Forwarder) : Event → Prop
  | .reconciled _ => True
  | e =>
    ((step hashKeys mf e).status = some successCondition ↔ (attempt hashKeys mf e).1 = none) ∧
      ((attempt hashKeys mf e).1 ≠ none → (step hashKeys mf e).status = some errorCondition)

/-- The setup fails, or nothing that comes after it does. -/
def NoLateError (mf : Forwarder) : Event → Prop
  | .connect env => (setup mf env).1 ≠ none ∨ env.validateCreds = none
  | .forward env =>
    let (err, after) := setup mf env
    err ≠ none ∨ (after.keysHash = hashKeys after.apiKey ∨ env.validateCreds = none) ∧
      (mf.kind = .datadogAgent ∨
        ∀ p ∈ after.statusMetrics.zipIdx, env.sendDeploymentMetric p.2 p.1 = none) ∧
      mf.lastReconcileErr ≠ .initial ∧ env.sendReconcileMetric = none
  | .reconciled _ => True

section
variable (mf : Forwarder) (env : Env)

theorem setup_kept :
    (setup mf env).2.kind = mf.kind ∧ (setup mf env).2.lastReconcileErr = mf.lastReconcileErr := by
  unfold setup
  dsimp only
  split_ifs
  · exact ⟨rfl, rfl⟩
  · split
    · exact ⟨rfl, rfl⟩
    · split <;> exact ⟨rfl, rfl⟩

theorem updateCredsIfNeeded_kept : (updateCredsIfNeeded hashKeys mf env).2.kind = mf.kind ∧
      (updateCredsIfNeeded hashKeys mf env).2.lastReconcileErr = mf.lastReconcileErr ∧
      (updateCredsIfNeeded hashKeys mf env).2.statusMetrics = mf.statusMetrics := by
  unfold updateCredsIfNeeded initAPIClient
  split_ifs
  · split <;> exact ⟨rfl, rfl, rfl⟩
  · exact ⟨rfl, rfl, rfl⟩

theorem updateCredsIfNeeded_ok : (updateCredsIfNeeded hashKeys mf env).1 = none ↔
      mf.keysHash = hashKeys mf.apiKey ∨ env.validateCreds = none := by
  unfold updateCredsIfNeeded initAPIClient
  by_cases h : mf.keysHash = hashKeys mf.apiKey
  · simp [h]
  · cases hv : env.validateCreds <;> simp [h]

/-- The condition is the one of the setup, whatever the attempt comes to. -/
theorem status_attempt : (step hashKeys mf (.connect env)).status = some
        (if (setup mf env).1.isSome then errorCondition else successCondition) ∧
      (step hashKeys mf (.forward env)).status = some
        (if (setup mf env).1.isSome then errorCondition else successCondition) :=
  ⟨rfl, rfl⟩

theorem connect_error : (attempt hashKeys mf (.connect env)).1 = none ↔
      (setup mf env).1 = none ∧ env.validateCreds = none := by
  simp only [attempt, connectToDatadogAPI, initAPIClient]
  cases (setup mf env).1 <;> cases env.validateCreds <;> simp

theorem forward_error : (attempt hashKeys mf (.forward env)).1 = none ↔ (setup mf env).1 = none ∧
        ((setup mf env).2.keysHash = hashKeys (setup mf env).2.apiKey ∨ env.validateCreds = none) ∧
        (mf.kind = .datadogAgent ∨
          ∀ p ∈ (setup mf env).2.statusMetrics.zipIdx, env.sendDeploymentMetric p.2 p.1 = none) ∧
        mf.lastReconcileErr ≠ .initial ∧ env.sendReconcileMetric = none := by
  have hcreds := updateCredsIfNeeded_ok hashKeys (setup mf env).2 env
  have hkept := updateCredsIfNeeded_kept hashKeys (setup mf env).2 env
  have hsetup := setup_kept mf env
  simp only [attempt, forwardMetrics]
  cases herr : (setup mf env).1 with
  | some e => simp
  | none =>
    rw [← hcreds]
    cases hupdate : updateCredsIfNeeded hashKeys (setup mf env).2 env with
    | mk err after =>
      rw [hupdate] at hkept
      have hkind : after.kind = mf.kind := hkept.1.trans hsetup.1
      have hlast : after.lastReconcileErr = mf.lastReconcileErr := hkept.2.1.trans hsetup.2
      have hmetrics : after.statusMetrics = (setup mf env).2.statusMetrics := hkept.2.2
      cases err with
      | some e => simp
      | none =>
        by_cases hagent : mf.kind = .datadogAgent <;>
          by_cases hinitial : mf.lastReconcileErr = .initial <;>
          simp [sendStatusMetrics, prepareReconcileMetric, hkind, hlast, hmetrics, hagent, hinitial]

end

theorem errorCondition_ne : errorCondition ≠ successCondition := by decide

/-- An attempt is reported truly just when it has no error after its setup. -/
theorem reported_iff (mf : Forwarder) (e : Event) :
    Reported hashKeys mf e ↔ NoLateError hashKeys mf e := by
  cases e with
  | reconciled err => exact Iff.rfl
  | connect env =>
    simp only [Reported, NoLateError, (status_attempt hashKeys mf env).1, ne_eq, connect_error]
    cases (setup mf env).1 <;> simp [errorCondition_ne, errorCondition_ne.symm]
  | forward env =>
    simp only [Reported, NoLateError, (status_attempt hashKeys mf env).2, ne_eq, forward_error]
    cases (setup mf env).1 <;> simp [errorCondition_ne, errorCondition_ne.symm]

/-- Every attempt of a sequence is reported truly just when none of them has an
error after its setup. -/
theorem attempts_are_reported_iff (mf : Forwarder) (es : List Event) :
    Along (step hashKeys) (Reported hashKeys) mf es ↔
      Along (step hashKeys) (NoLateError hashKeys) mf es := by
  have h : Reported hashKeys = NoLateError hashKeys := by
    funext mf e
    exact propext (reported_iff hashKeys mf e)
  rw [h]

/-- The credentials are rejected, and the condition is the one of success. -/
theorem rejected_credentials_are_active : let mf : Forwarder := { kind := .other }
    let env : Env := { object := .error "", validateCreds := some "forbidden" }
    (connectToDatadogAPI (fun _ => 1) mf env).1 = some "forbidden" ∧
      (connectToDatadogAPI (fun _ => 1) mf env).2.status = some successCondition :=
  ⟨rfl, rfl⟩

end DatadogOperator.MetricsForwarder
