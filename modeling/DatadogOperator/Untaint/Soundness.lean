import DatadogOperator.Untaint.Controller
import Mathlib.Order.Bounds.Basic

/-!
# What the untaint controller promises

The taint goes only if the pods are ready or the time that counts is over and the policy
says so, a node that keeps it is looked at again unless the policy is to keep it, and the
other taints stay. One case is missed: a pod that says it starts centuries from now makes
the rest of the timeout overflow, and the node is not looked at again.
-/

namespace DatadogOperator.Untaint

open Durations

/-! ## What the controller promises -/

section
variable (r : UntaintReconciler) (node : Node) (agents csis : List Pod)

def Ready : Prop :=
  (∃ pod ∈ agents, podReady pod) ∧ (r.waitForCSIDriver → ∃ pod ∈ csis, podReady pod)

def watched : List Pod := if r.waitForCSIDriver then agents ++ csis else agents

/-- The time that counts, and from when: the creation of the node while a workload has no
pod on it, and then the latest start of a pod once both have started. -/
inductive Anchor : Time → PositiveDuration → Prop
  | scheduling : (agents = [] ∨ r.waitForCSIDriver ∧ csis = []) → node.creationTimestamp ≠ 0 →
      Anchor node.creationTimestamp r.schedulingTimeout
  | readiness {start : Time} : (∃ pod ∈ agents, pod.startTime.isSome) →
      (r.waitForCSIDriver → ∃ pod ∈ csis, pod.startTime.isSome) →
      IsGreatest { t | ∃ pod ∈ watched r agents csis, pod.startTime = some t } start →
      Anchor start r.readinessTimeout

def TimedOut (now : Time) : Prop :=
  ∃ start timeout, Anchor r node agents csis start timeout ∧ timeout.1.toInt ≤ now - start

/-- What a reconcile of a tainted node may do. `taints` are those when the patch arrives. -/
structure Sound (now : Time) (taints : List Taint) (out : Outcome) : Prop where
  removal : out.taints = taints ∨
    taints = node.taints ∧ out.taints = taints.filter fun t => !isAgentNotReadyTaint t
  justified : out.taints ≠ taints →
    Ready r agents csis ∨ r.timeoutPolicy = .remove ∧ TimedOut r node agents csis now
  pending : out.taints = taints → (∃ d, out.requeueAfter = .ok d ∧ 0 < d) ∨
    r.timeoutPolicy = .keep ∧ TimedOut r node agents csis now

end

section
variable {r : UntaintReconciler} {node : Node} {agents csis pods : List Pod} {api : Api}
  {now start : Time} {timeout : PositiveDuration} {reason : TimeoutReason} {out : Outcome}

theorem latestPodStartTime_eq : latestPodStartTime pods = (pods.filterMap (·.startTime)).max? := by
  change pods.foldl _ none = ((none : Option Time).toList ++ pods.filterMap (·.startTime)).max?
  generalize (none : Option Time) = latest
  induction pods generalizing latest with
  | nil => cases latest <;> rfl
  | cons pod pods ih =>
    rw [List.foldl_cons, ih]
    cases hstart : pod.startTime with
    | none => simp [hstart]
    | some st =>
      cases latest with
      | none => simp [hstart]
      | some l =>
        have hmax : (if l < st then some st else some l) = some (max l st) := by
          split_ifs with h
          · rw [max_eq_right h.le]
          · rw [max_eq_left (not_lt.mp h)]
        simp only [hmax, List.filterMap_cons_some hstart, Option.toList_some]
        rfl

theorem latestPodStartTime_eq_some : latestPodStartTime pods = some start ↔
    IsGreatest { t | ∃ pod ∈ pods, pod.startTime = some t } start := by
  rw [latestPodStartTime_eq, List.max?_eq_some_iff]
  simp [IsGreatest, upperBounds]

theorem latestPodStartTime_eq_none : latestPodStartTime pods = none ↔
    ∀ pod ∈ pods, pod.startTime = none := by
  rw [latestPodStartTime_eq, List.max?_eq_none_iff, List.filterMap_eq_nil_iff]

theorem exists_latestPodStartTime (h : ∃ pod ∈ pods, pod.startTime.isSome) :
    ∃ start, latestPodStartTime pods = some start := by
  cases hlatest : latestPodStartTime pods with
  | some start => exact ⟨start, rfl⟩
  | none =>
    obtain ⟨pod, hpod, hsome⟩ := h
    rw [latestPodStartTime_eq_none.mp hlatest pod hpod] at hsome
    cases hsome

theorem startTime_of_latestPodStartTime (h : latestPodStartTime pods = some start) :
    ∃ pod ∈ pods, pod.startTime.isSome := by
  obtain ⟨⟨pod, hpod, hstart⟩, -⟩ := latestPodStartTime_eq_some.mp h
  exact ⟨pod, hpod, Option.isSome_iff_exists.mpr ⟨start, hstart⟩⟩

theorem started_ne_nil (h : ∃ pod ∈ pods, pod.startTime.isSome) : pods ≠ [] := by
  obtain ⟨pod, hpod, -⟩ := h
  exact List.ne_nil_of_mem hpod

theorem Anchor.eq_creation (h : Anchor r node agents csis start timeout)
    (hnone : agents = [] ∨ r.waitForCSIDriver ∧ csis = []) :
    node.creationTimestamp ≠ 0 ∧ start = node.creationTimestamp ∧
      timeout = r.schedulingTimeout := by
  cases h with
  | scheduling _ hcreated => exact ⟨hcreated, rfl, rfl⟩
  | readiness hagents hcsis =>
    rcases hnone with hnil | ⟨hwait, hnil⟩
    · exact absurd hnil (started_ne_nil hagents)
    · exact absurd hnil (started_ne_nil (hcsis hwait))

theorem Anchor.eq_start (h : Anchor r node agents csis start timeout)
    (hsome : ¬(agents = [] ∨ r.waitForCSIDriver ∧ csis = [])) :
    (∃ pod ∈ agents, pod.startTime.isSome) ∧
      (r.waitForCSIDriver → ∃ pod ∈ csis, pod.startTime.isSome) ∧
      IsGreatest { t | ∃ pod ∈ watched r agents csis, pod.startTime = some t } start ∧
      timeout = r.readinessTimeout := by
  cases h with
  | scheduling hnone => exact absurd hnone hsome
  | readiness hagents hcsis hlatest => exact ⟨hagents, hcsis, hlatest, rfl⟩

theorem Anchor.unique
    (h : Anchor r node agents csis start timeout) (h' : Anchor r node agents csis start' timeout') :
    start = start' ∧ timeout = timeout' := by
  by_cases hnone : agents = [] ∨ r.waitForCSIDriver ∧ csis = []
  · obtain ⟨-, rfl, rfl⟩ := h.eq_creation hnone
    obtain ⟨-, rfl, rfl⟩ := h'.eq_creation hnone
    exact ⟨rfl, rfl⟩
  · obtain ⟨-, -, hlatest, rfl⟩ := h.eq_start hnone
    obtain ⟨-, -, hlatest', rfl⟩ := h'.eq_start hnone
    exact ⟨hlatest.unique hlatest', rfl⟩

theorem timedOut_iff (h : Anchor r node agents csis start timeout) :
    TimedOut r node agents csis now ↔ timeout.1.toInt ≤ now - start := by
  refine ⟨?_, fun htime => ⟨start, timeout, h, htime⟩⟩
  rintro ⟨start', timeout', h', htime⟩
  obtain ⟨rfl, rfl⟩ := h.unique h'
  exact htime

/-- What the checks of the timeouts come to: the policy is applied at the time that counts,
or there is none yet and the node is looked at again. -/
def Checks (r : UntaintReconciler) (api : Api) (node : Node) (now : Time)
    (agents csis : List Pod) (out : Outcome) : Prop :=
  (∃ start timeout reason, Anchor r node agents csis start timeout ∧
    out = r.timeoutResult api node now reason start timeout) ∨
  (∀ start timeout, ¬Anchor r node agents csis start timeout) ∧
    ∃ timeout : PositiveDuration, out = { requeueAfter := .ok timeout, taints := api.taints }

theorem checks_scheduling (hnone : agents = [] ∨ r.waitForCSIDriver ∧ csis = []) :
    Checks r api node now agents csis (r.schedulingTimeoutResult api node now) := by
  rw [UntaintReconciler.schedulingTimeoutResult]
  split_ifs with hcreated
  · exact .inr ⟨fun start timeout h => (h.eq_creation hnone).1 hcreated, _, rfl⟩
  · exact .inl ⟨_, _, _, .scheduling hnone hcreated, rfl⟩

theorem checks_not_started (hsome : ¬(agents = [] ∨ r.waitForCSIDriver ∧ csis = []))
    (hnot : latestPodStartTime agents = none ∨
      r.waitForCSIDriver ∧ latestPodStartTime csis = none) :
    Checks r api node now agents csis
      { requeueAfter := .ok r.readinessTimeout, taints := api.taints } := by
  refine .inr ⟨fun start timeout h => ?_, _, rfl⟩
  obtain ⟨hagents, hcsis, -⟩ := h.eq_start hsome
  rcases hnot with hnot | ⟨hwait, hnot⟩
  · obtain ⟨start, hstart⟩ := exists_latestPodStartTime hagents
    rw [hnot] at hstart
    cases hstart
  · obtain ⟨start, hstart⟩ := exists_latestPodStartTime (hcsis hwait)
    rw [hnot] at hstart
    cases hstart

theorem isGreatest_append (hagents : latestPodStartTime agents = some agentLatest)
    (hcsis : latestPodStartTime csis = some csiLatest) :
    IsGreatest { t | ∃ pod ∈ agents ++ csis, pod.startTime = some t }
      (if agentLatest < csiLatest then csiLatest else agentLatest) := by
  have hunion : { t | ∃ pod ∈ agents ++ csis, pod.startTime = some t } =
      { t | ∃ pod ∈ agents, pod.startTime = some t } ∪
        { t | ∃ pod ∈ csis, pod.startTime = some t } := by
    ext t
    simp [or_and_right, exists_or]
  have hmax : (if agentLatest < csiLatest then csiLatest else agentLatest) =
      max agentLatest csiLatest := by
    split_ifs with h
    · rw [max_eq_right h.le]
    · rw [max_eq_left (not_lt.mp h)]
  rw [hunion, hmax]
  exact (latestPodStartTime_eq_some.mp hagents).union (latestPodStartTime_eq_some.mp hcsis)

theorem checks_reconcileTaintedNodeTimeouts (r : UntaintReconciler) (api : Api) (node : Node)
    (now : Time) (agents csis : List Pod) :
    Checks r api node now agents csis
      (r.reconcileTaintedNodeTimeouts api node now agents csis) := by
  rw [UntaintReconciler.reconcileTaintedNodeTimeouts]
  split_ifs with hwait hnone hagents
  · rw [List.isEmpty_iff, List.isEmpty_iff] at hnone
    exact checks_scheduling (hnone.imp id fun hnil => ⟨hwait, hnil⟩)
  · have hsome : ¬(agents = [] ∨ r.waitForCSIDriver ∧ csis = []) := by
      rw [List.isEmpty_iff, List.isEmpty_iff] at hnone
      exact fun h => hnone (h.imp id And.right)
    split
    · next agentLatest csiLatest hagents hcsis =>
      refine .inl ⟨_, _, _, .readiness (startTime_of_latestPodStartTime hagents)
        (fun _ => startTime_of_latestPodStartTime hcsis) ?_, rfl⟩
      rw [watched, if_pos hwait]
      exact isGreatest_append hagents hcsis
    · next hnot =>
      refine checks_not_started hsome ?_
      cases hagents : latestPodStartTime agents with
      | none => exact .inl rfl
      | some agentLatest =>
        cases hcsis : latestPodStartTime csis with
        | none => exact .inr ⟨hwait, rfl⟩
        | some csiLatest => exact (hnot _ _ hagents hcsis).elim
  · exact checks_scheduling (.inl (List.isEmpty_iff.mp hagents))
  · have hsome : ¬(agents = [] ∨ r.waitForCSIDriver ∧ csis = []) := by
      rintro (hnil | ⟨hwait', -⟩)
      · exact hagents (List.isEmpty_iff.mpr hnil)
      · exact hwait hwait'
    split
    · next hnot => exact checks_not_started hsome (.inl hnot)
    · next start hstart =>
      refine .inl ⟨start, _, _, .readiness (startTime_of_latestPodStartTime hstart)
        (fun hwait' => absurd hwait' hwait) ?_, rfl⟩
      rw [watched, if_neg hwait]
      exact latestPodStartTime_eq_some.mp hstart

/-! ## Removal -/

theorem removeTaint_eq (h : hasTaint node) (hpatch : api.patchError = none) : removeTaint api node =
      if api.taints = node.taints then
        (.ok 0, api.taints.filter fun t => !isAgentNotReadyTaint t)
      else (.ok conflictRequeueDelay, api.taints) := by
  have hlength : (node.taints.filter fun t => !isAgentNotReadyTaint t).length ≠
      node.taints.length := by
    intro heq
    obtain ⟨t, ht, hagent⟩ := List.any_eq_true.mp h
    have hall := List.length_filter_eq_length_iff.mp heq t ht
    rw [hagent] at hall
    cases hall
  rw [removeTaint, if_neg hlength, Api.patch, hpatch]
  split_ifs with htaints
  · rw [htaints]
  · exact if_pos api.testFailed.2

theorem filter_ne (h : hasTaint node) (htaints : api.taints = node.taints) :
    (api.taints.filter fun t => !isAgentNotReadyTaint t) ≠ api.taints := by
  intro heq
  obtain ⟨t, ht, hagent⟩ := List.any_eq_true.mp h
  have hmem : t ∈ api.taints.filter fun t => !isAgentNotReadyTaint t := by
    rw [heq, htaints]
    exact ht
  rw [List.mem_filter, hagent] at hmem
  cases hmem.2

theorem sound_of_removeTaint (h : hasTaint node) (hpatch : api.patchError = none)
    (hreason : Ready r agents csis ∨ r.timeoutPolicy = .remove ∧ TimedOut r node agents csis now)
    (hreply : out.requeueAfter = (removeTaint api node).1)
    (htaints : out.taints = (removeTaint api node).2) :
    Sound r node agents csis now api.taints out := by
  rw [removeTaint_eq h hpatch] at hreply htaints
  by_cases hsame : api.taints = node.taints
  · rw [if_pos hsame] at htaints
    have hne : out.taints ≠ api.taints := by
      rw [htaints]
      exact filter_ne h hsame
    exact ⟨.inr ⟨hsame, htaints⟩, fun _ => hreason, fun heq => absurd heq hne⟩
  · rw [if_neg hsame] at hreply htaints
    exact ⟨.inl htaints, fun hne => absurd htaints hne, fun _ => .inl ⟨_, hreply, by decide⟩⟩

theorem sound_of_keep (hreply : out.taints = api.taints)
    (hkeep : r.timeoutPolicy = .keep ∧ TimedOut r node agents csis now) :
    Sound r node agents csis now api.taints out :=
  ⟨.inl hreply, fun hne => absurd hreply hne, fun _ => .inr hkeep⟩

theorem sound_completeUntaintFromReadiness (api : Api) (h : hasTaint node) (hpatch : api.patchError = none)
    (hready : Ready r agents csis) (message : String) :
    Sound r node agents csis now api.taints (r.completeUntaintFromReadiness api node message) := by
  have hreply := removeTaint_eq h hpatch
  refine sound_of_removeTaint h hpatch (.inl hready) ?_ ?_ <;>
    rw [UntaintReconciler.completeUntaintFromReadiness, hreply] <;>
    split_ifs <;> simp [conflictRequeueDelay]

theorem sound_applyTimeoutPolicy (h : hasTaint node) (hpatch : api.patchError = none)
    (htime : TimedOut r node agents csis now) (elapsed : Duration) :
    Sound r node agents csis now api.taints (r.applyTimeoutPolicy api node reason elapsed) := by
  cases hpolicy : r.timeoutPolicy with
  | keep =>
    refine sound_of_keep ?_ ⟨hpolicy, htime⟩
    simp [UntaintReconciler.applyTimeoutPolicy, hpolicy]
  | remove =>
    refine sound_of_removeTaint h hpatch (.inr ⟨hpolicy, htime⟩) ?_ ?_ <;>
      simp [UntaintReconciler.applyTimeoutPolicy, hpolicy]

theorem sound_timeoutResult_iff (h : hasTaint node) (hpatch : api.patchError = none)
    (hanchor : Anchor r node agents csis start timeout) :
    Sound r node agents csis now api.taints (r.timeoutResult api node now reason start timeout) ↔
      timeout.1.toInt - (now - start) ≤ maxDuration := by
  rw [UntaintReconciler.timeoutResult]
  split_ifs with htime
  · have htime' := (le_between_iff timeout.2).mp htime
    refine iff_of_true (sound_applyTimeoutPolicy h hpatch ((timedOut_iff hanchor).mpr htime') _) ?_
    unfold maxDuration
    omega
  · rw [← sub_between_pos_iff timeout.2 htime]
    constructor
    · intro hsound
      rcases hsound.pending rfl with ⟨d, hd, hpos⟩ | ⟨-, htimed⟩
      · cases hd
        exact hpos
      · exact absurd ((le_between_iff timeout.2).mpr ((timedOut_iff hanchor).mp htimed)) htime
    · intro hpos
      exact ⟨.inl rfl, fun hne => absurd rfl hne, fun _ => .inl ⟨_, rfl, hpos⟩⟩

theorem sound_reconcileTaintedNodeTimeouts_iff (api : Api) (h : hasTaint node)
    (hpatch : api.patchError = none) :
    Sound r node agents csis now api.taints
        (r.reconcileTaintedNodeTimeouts api node now agents csis) ↔
      ∀ start timeout, Anchor r node agents csis start timeout →
        timeout.1.toInt - (now - start) ≤ maxDuration := by
  rcases checks_reconcileTaintedNodeTimeouts r api node now agents csis with
    ⟨start, timeout, reason, hanchor, hout⟩ | ⟨hnone, d, hout⟩
  · rw [hout, sound_timeoutResult_iff h hpatch hanchor]
    refine ⟨fun hrest start' timeout' hanchor' => ?_, fun hall => hall start timeout hanchor⟩
    obtain ⟨rfl, rfl⟩ := hanchor.unique hanchor'
    exact hrest
  · rw [hout]
    refine iff_of_true ?_ fun start timeout hanchor => absurd hanchor (hnone start timeout)
    exact ⟨.inl rfl, fun hne => absurd rfl hne, fun _ => .inl ⟨_, rfl, d.2⟩⟩

end

def answers (node : Node) (agents csis : List Pod) (taints : List Taint)
    (testFailed : { err : ApiError // err.IsRace }) : Api :=
  { node := .ok node, agentPods := .ok agents, csiPods := .ok csis, taints, testFailed }

theorem reconcile_cases (r : UntaintReconciler) (h : hasTaint node)
    (agents csis : List Pod) (taints : List Taint) (testFailed : { err : ApiError // err.IsRace })
    (name : String) (now : Time) :
    (Ready r agents csis ∧ ∃ message,
      r.reconcile (answers node agents csis taints testFailed) name now =
        r.completeUntaintFromReadiness (answers node agents csis taints testFailed) node message) ∨
    ¬Ready r agents csis ∧ r.reconcile (answers node agents csis taints testFailed) name now =
      r.reconcileTaintedNodeTimeouts (answers node agents csis taints testFailed) node now agents
        csis := by
  have hready : Ready r agents csis ↔
      agents.any podReady ∧ (r.waitForCSIDriver → csis.any podReady) := by simp [Ready]
  rw [hready, UntaintReconciler.reconcile]
  simp only [answers, h, not_true_eq_false, if_false]
  by_cases hwait : r.waitForCSIDriver
  · simp only [hwait, if_true, forall_const]
    split_ifs with hboth
    · rw [Bool.and_eq_true, Bool.and_eq_true] at hboth
      exact .inl ⟨⟨hboth.1, hboth.2.2⟩, _, rfl⟩
    · refine .inr ⟨fun hand => hboth ?_, rfl⟩
      obtain ⟨pod, hpod, -⟩ := List.any_eq_true.mp hand.2
      have hne : csis.isEmpty = false := List.isEmpty_eq_false_iff.mpr (List.ne_nil_of_mem hpod)
      rw [hand.1, hand.2, hne]
      rfl
  · have hoff : r.waitForCSIDriver = false := by simpa using hwait
    simp only [hoff, Bool.false_eq_true, if_false, false_imp_iff, and_true]
    split_ifs with hagent
    · exact .inl ⟨hagent, _, rfl⟩
    · refine .inr ⟨hagent, ?_⟩
      simp [UntaintReconciler.reconcileTaintedNodeTimeouts, hoff]

/-- A reconcile of a tainted node without errors of the API server does what it should
exactly if the pods are ready or the rest of the timeout that counts is a duration. -/
theorem reconcile_sound_iff (r : UntaintReconciler) (node : Node) (h : hasTaint node)
    (agents csis : List Pod) (taints : List Taint) (testFailed : { err : ApiError // err.IsRace })
    (name : String) (now : Time) :
    Sound r node agents csis now taints
        (r.reconcile (answers node agents csis taints testFailed) name now) ↔
      Ready r agents csis ∨ ∀ start timeout, Anchor r node agents csis start timeout →
        timeout.1.toInt - (now - start) ≤ maxDuration := by
  rcases reconcile_cases r h agents csis taints testFailed name now with
    ⟨hready, message, hout⟩ | ⟨hready, hout⟩
  · rw [hout]
    refine iff_of_true ?_ (.inl hready)
    exact sound_completeUntaintFromReadiness (answers node agents csis taints testFailed) h rfl
      hready message
  · rw [hout, or_iff_right hready]
    exact sound_reconcileTaintedNodeTimeouts_iff (answers node agents csis taints testFailed) h rfl

def defaultReconciler : UntaintReconciler :=
  { waitForCSIDriver := false
    eventsEnabled := false
    readinessTimeout := defaultReadinessTimeout
    schedulingTimeout := defaultSchedulingTimeout
    timeoutPolicy := .remove }

def startupTaint : Taint :=
  { key := agentNotReadyTaintKey, value := agentNotReadyTaintValue, effect := .noSchedule }

def second : Int := 10 ^ 9

def newNode : Node :=
  { name := "node-1"
    creationTimestamp := 63900000000 * second
    taints := [startupTaint, { key := "dedicated", value := "gpu", effect := .noSchedule }] }

def raceError : { err : ApiError // err.IsRace } := ⟨⟨.invalid, "test failed"⟩, by decide⟩

def startingPod : Pod := { startTime := some (63900000030 * second) }

/-- A new node whose agent has started and is not ready. -/
theorem newNode_reconcile_sound :
    Sound defaultReconciler newNode [startingPod] [] (63900000060 * second) newNode.taints
      (defaultReconciler.reconcile (answers newNode [startingPod] [] newNode.taints raceError)
        "node-1" (63900000060 * second)) := by
  refine (reconcile_sound_iff defaultReconciler newNode (by decide) [startingPod] [] newNode.taints
    raceError "node-1" (63900000060 * second)).mpr (.inr fun start timeout hanchor => ?_)
  obtain ⟨-, -, hlatest, rfl⟩ := hanchor.eq_start (by simp [defaultReconciler])
  have hstart : start = 63900000030 * second := by
    simpa [watched, startingPod, defaultReconciler, eq_comm] using hlatest.1
  subst hstart
  decide +kernel

/-- The pod of the agent says that it started in the year 9999: the node is not looked at
again. -/
theorem late_start_is_not_requeued : ∃ d, (defaultReconciler.reconcile
        (answers newNode [{ startTime := some (315537897599 * second) }] [] newNode.taints
          raceError) "node-1" (63900000060 * second)).requeueAfter = .ok d ∧ d < 0 ∧
      (defaultReconciler.reconcile
        (answers newNode [{ startTime := some (315537897599 * second) }] [] newNode.taints
          raceError) "node-1" (63900000060 * second)).taints = newNode.taints :=
  ⟨-9223371436854775808, by decide +kernel⟩

end DatadogOperator.Untaint
