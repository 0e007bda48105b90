import DatadogOperator.Lib.Durations
import Mathlib.Data.List.Basic

/-!
# The untaint controller

`untaint_controller.go`: a node is tainted until its agent, and its CSI driver if that is
waited for, is ready. If that takes too long the timeout policy decides. The time runs from
the start of the pods, or from the creation of the node while there are none. The taints are
replaced by a patch that tests them first.

Log lines and metrics are left out.
-/

namespace DatadogOperator.Untaint

open Durations

/-- Nanoseconds; the zero time is 0. -/
abbrev Time := Int

inductive TaintEffect
  | noSchedule | preferNoSchedule | noExecute
  deriving DecidableEq

structure Taint where
  key : String
  value : String := ""
  effect : TaintEffect
  timeAdded : Option Time := none
  deriving DecidableEq

def agentNotReadyTaintKey := "agent.datadoghq.com/not-ready"
def agentNotReadyTaintValue := "presence"

def isAgentNotReadyTaint (t : Taint) : Bool :=
  t.key == agentNotReadyTaintKey && t.value == agentNotReadyTaintValue &&
    t.effect == .noSchedule

structure Node where
  name : String
  creationTimestamp : Time
  taints : List Taint

inductive PodConditionType
  | ready | other (name : String)
  deriving DecidableEq

inductive ConditionStatus
  | true | false | unknown
  deriving DecidableEq

structure PodCondition where
  type : PodConditionType
  status : ConditionStatus

structure Pod where
  conditions : List PodCondition := []
  startTime : Option Time := none

/-! ## Configuration -/

inductive TimeoutPolicy
  | remove | keep
  deriving DecidableEq

abbrev PositiveDuration := { d : Duration // 0 < d }

structure UntaintReconciler where
  waitForCSIDriver : Bool
  eventsEnabled : Bool
  readinessTimeout : PositiveDuration
  schedulingTimeout : PositiveDuration
  timeoutPolicy : TimeoutPolicy

def minute : Int := 60 * 10 ^ 9

def defaultReadinessTimeout : PositiveDuration := ⟨Int64.ofInt (10 * minute), by decide⟩
def defaultSchedulingTimeout : PositiveDuration := ⟨Int64.ofInt (5 * minute), by decide⟩

/-! ## The API server -/

inductive ErrorReason
  | notFound | conflict | invalid | other
  deriving DecidableEq

structure ApiError where
  reason : ErrorReason
  message : String

def ApiError.IsRace (err : ApiError) : Prop := err.reason = .conflict ∨ err.reason = .invalid

instance (err : ApiError) : Decidable err.IsRace := inferInstanceAs (Decidable (_ ∨ _))

/-- The answers to a reconcile. `taints` are those of the node when the patch arrives;
versions of the API server differ in the error for a failed test. -/
structure Api where
  node : Except ApiError Node
  agentPods : Except String (List Pod)
  csiPods : Except String (List Pod)
  taints : List Taint
  testFailed : { err : ApiError // err.IsRace }
  patchError : Option ApiError := none

/-- A patch of the taints that tests them first. -/
def Api.patch (api : Api) (test replace : List Taint) : Except ApiError (List Taint) :=
  match api.patchError with
  | some err => .error err
  | none => if api.taints = test then .ok replace else .error api.testFailed

inductive TimeoutReason
  | readiness | scheduling

inductive EventType
  | normal | warning

inductive Event
  | untaintTimeout (type : EventType) (reason : TimeoutReason) (elapsed : Duration)
      (policy : TimeoutPolicy)
  | taintRemoved (message : String)

/-- The reply, with the taints of the node behind it. A reply of zero asks for nothing. -/
structure Outcome where
  requeueAfter : Except String Duration
  taints : List Taint
  events : List Event := []

/-! ## Reconcile -/

def podReady (pod : Pod) : Bool :=
  pod.conditions.any fun c => c.type == .ready && c.status == .true

def latestPodStartTime (pods : List Pod) : Option Time :=
  pods.foldl (fun latest pod =>
    match pod.startTime, latest with
    | none, _ => latest
    | some st, none => some st
    | some st, some l => if l < st then some st else some l) none

def hasTaint (node : Node) : Bool := node.taints.any isAgentNotReadyTaint

def conflictRequeueDelay : Duration := 1000000000

def removeTaint (api : Api) (node : Node) : Except String Duration × List Taint :=
  let newTaints := node.taints.filter fun t => !isAgentNotReadyTaint t
  if newTaints.length = node.taints.length then (.ok 0, api.taints)
  else
    match api.patch node.taints newTaints with
    | .ok taints => (.ok 0, taints)
    | .error err =>
      if err.IsRace then (.ok conflictRequeueDelay, api.taints)
      else
        (.error ("failed to remove taint from node " ++ node.name ++ ": " ++ err.message),
          api.taints)

namespace UntaintReconciler

variable (r : UntaintReconciler)

def completeUntaintFromReadiness (api : Api) (node : Node) (message : String) : Outcome :=
  match removeTaint api node with
  | (.error err, taints) => { requeueAfter := .error err, taints }
  | (.ok requeueAfter, taints) =>
    if 0 < requeueAfter then { requeueAfter := .ok requeueAfter, taints }
    else
      { requeueAfter := .ok 0, taints
        events := if r.eventsEnabled then [.taintRemoved message] else [] }

def applyTimeoutPolicy (api : Api) (node : Node) (reason : TimeoutReason) (elapsed : Duration) :
    Outcome :=
  let type := if r.timeoutPolicy = .keep then EventType.warning else .normal
  let events :=
    if r.eventsEnabled then [Event.untaintTimeout type reason elapsed r.timeoutPolicy] else []
  if r.timeoutPolicy = .keep then { requeueAfter := .ok 0, taints := api.taints, events }
  else
    let removal := removeTaint api node
    { requeueAfter := removal.1, taints := removal.2, events }

/-- The policy applies if the time is over. -/
def timeoutResult (api : Api) (node : Node) (now : Time) (reason : TimeoutReason) (start : Time)
    (timeout : PositiveDuration) : Outcome :=
  let elapsed := between now start
  if timeout ≤ elapsed then r.applyTimeoutPolicy api node reason elapsed
  else { requeueAfter := .ok (timeout - elapsed), taints := api.taints }

def schedulingTimeoutResult (api : Api) (node : Node) (now : Time) : Outcome :=
  if node.creationTimestamp = 0 then
    { requeueAfter := .ok r.schedulingTimeout, taints := api.taints }
  else r.timeoutResult api node now .scheduling node.creationTimestamp r.schedulingTimeout

def readinessTimeoutResult (api : Api) (node : Node) (now latestStart : Time) : Outcome :=
  r.timeoutResult api node now .readiness latestStart r.readinessTimeout

def reconcileTaintedNodeTimeouts (api : Api) (node : Node) (now : Time) (agents csis : List Pod) :
    Outcome :=
  if ¬r.waitForCSIDriver then
    if agents.isEmpty then r.schedulingTimeoutResult api node now
    else
      match latestPodStartTime agents with
      | none => { requeueAfter := .ok r.readinessTimeout, taints := api.taints }
      | some latestStart => r.readinessTimeoutResult api node now latestStart
  else if agents.isEmpty ∨ csis.isEmpty then r.schedulingTimeoutResult api node now
  else
    match latestPodStartTime agents, latestPodStartTime csis with
    | some agentLatest, some csiLatest =>
      r.readinessTimeoutResult api node now
        (if agentLatest < csiLatest then csiLatest else agentLatest)
    | _, _ => { requeueAfter := .ok r.readinessTimeout, taints := api.taints }

def reconcile (api : Api) (name : String) (now : Time) : Outcome :=
  match api.node with
  | .error err =>
    if err.reason = .notFound then { requeueAfter := .ok 0, taints := api.taints }
    else
      { requeueAfter := .error ("failed to get node " ++ name ++ ": " ++ err.message)
        taints := api.taints }
  | .ok node =>
    if ¬hasTaint node then { requeueAfter := .ok 0, taints := api.taints }
    else
      match api.agentPods with
      | .error err =>
        { requeueAfter := .error ("failed to list pods on node " ++ name ++ ": " ++ err)
          taints := api.taints }
      | .ok agents =>
        if r.waitForCSIDriver then
          match api.csiPods with
          | .error err =>
            { requeueAfter :=
                .error ("failed to list CSI driver pods on node " ++ name ++ ": " ++ err)
              taints := api.taints }
          | .ok csis =>
            if agents.any podReady && (!csis.isEmpty && csis.any podReady) then
              r.completeUntaintFromReadiness api node
                ("Removed taint " ++ agentNotReadyTaintKey ++ " from node " ++ node.name ++
                  " after node agent and CSI node-server pods became ready")
            else r.reconcileTaintedNodeTimeouts api node now agents csis
        else if agents.any podReady then
          r.completeUntaintFromReadiness api node
            ("Removed taint " ++ agentNotReadyTaintKey ++ " from node " ++ node.name ++
              " after agent became ready")
        else r.reconcileTaintedNodeTimeouts api node now agents []

end UntaintReconciler

end DatadogOperator.Untaint
