import DatadogOperator.Autoscaling.DryRun

/-!
# Nothing is terminated before it is drained

What the log of an eviction shows of a node: that it was cordoned, that the last
list of its pods had none that occupies it, or that it is gone. An instance is
terminated, and a group scaled to zero, only when the calls before show this of
its nodes, or when a context has cut off a get or an update of a node: `cordonNode`
takes that node for gone. A dry run calls nothing that changes Kubernetes or AWS.
-/

namespace DatadogOperator.Autoscaling

open Calls

/-! ## What a log shows -/

def Cordoned (log : Log) (n : Node) : Prop :=
  n.unschedulable = true ∧ ((∃ name h, ⟨.getNode name, .ok ⟨n, h⟩⟩ ∈ log) ∨
    ∃ sent h, ⟨.updateNode sent, .ok ⟨n, h⟩⟩ ∈ log)

def Gone (log : Log) (name : String) : Prop :=
  ∃ e : ApiError, e.reason = .notFound ∧ (⟨.getNode name, .error e⟩ ∈ log ∨
    ∃ sent : Node, sent.name = name ∧ ⟨.updateNode sent, .error e⟩ ∈ log)

/-- A get or an update of a node was cut off by its context. -/
def Interrupted (log : Log) : Prop :=
  ∃ e : ApiError, e.reason = .interrupted ∧ ((∃ name, ⟨.getNode name, .error e⟩ ∈ log) ∨
    ∃ sent, ⟨.updateNode sent, .error e⟩ ∈ log)

/-- The last list of the node's pods has none that occupies the node. -/
def Drained (log : Log) (name : String) : Prop :=
  ∃ later pods earlier, log = later ++ ⟨.listPodsOnNode name, .ok pods⟩ :: earlier ∧
    (∀ c ∈ later, c.op ≠ .listPodsOnNode name) ∧ ∀ p ∈ pods, podOccupiesNode p = false

def Emptied (log : Log) (instanceID : String) : Prop :=
  ∃ n : Node, extractEC2InstanceID n = some instanceID ∧ Cordoned log n ∧ Drained log n.name

def Handled (log : Log) (name : String) : Prop :=
  Gone log name ∨ ∃ n : Node, n.name = name ∧ Cordoned log n ∧ Drained log name

def Allowed (groupNodes : NodeManager → String → List String) : Op → Log → Prop
  | .terminateInstanceInAutoScalingGroup id _, log => Emptied log id
  | .terminateInstances ids, log => ∀ id ∈ ids, Emptied log id
  | .updateAutoScalingGroup asgName _ maxSize desiredCapacity, log =>
    maxSize = some 0 ∨ desiredCapacity = some 0 → ∀ name ∈ groupNodes .asg asgName, Handled log name
  | .updateNodegroupConfig _ nodegroupName _ desiredSize, log =>
    desiredSize = some 0 → ∀ name ∈ groupNodes .eksManagedNodeGroup nodegroupName, Handled log name
  | _, _ => True

section
variable {log : Log} {c : Call Op Op.Answer} {n : Node} {name : String}

theorem Cordoned.cons (h : Cordoned log n) : Cordoned (c :: log) n := by
  obtain ⟨hn, ⟨name, hname, hmem⟩ | ⟨sent, hsent, hmem⟩⟩ := h
  · exact ⟨hn, .inl ⟨name, hname, .tail _ hmem⟩⟩
  · exact ⟨hn, .inr ⟨sent, hsent, .tail _ hmem⟩⟩

theorem Gone.cons (h : Gone log name) : Gone (c :: log) name := by
  obtain ⟨e, he, hmem | ⟨sent, hsent, hmem⟩⟩ := h
  · exact ⟨e, he, .inl (.tail _ hmem)⟩
  · exact ⟨e, he, .inr ⟨sent, hsent, .tail _ hmem⟩⟩

theorem Interrupted.cons (h : Interrupted log) : Interrupted (c :: log) := by
  obtain ⟨e, he, ⟨name, hmem⟩ | ⟨sent, hmem⟩⟩ := h
  · exact ⟨e, he, .inl ⟨name, .tail _ hmem⟩⟩
  · exact ⟨e, he, .inr ⟨sent, .tail _ hmem⟩⟩

theorem Drained.cons (h : Drained log name) (hc : c.op ≠ .listPodsOnNode name) :
    Drained (c :: log) name := by
  obtain ⟨later, pods, earlier, rfl, hlater, hpods⟩ := h
  refine ⟨c :: later, pods, earlier, rfl, ?_, hpods⟩
  rintro d hd
  rcases List.mem_cons.mp hd with rfl | hd
  · exact hc
  · exact hlater d hd

end

/-! ## Kinds of operations -/

inductive CordonOp : Op → Prop
  | get (name : String) : CordonOp (.getNode name)
  | update (node : Node) : CordonOp (.updateNode node)

inductive DrainOp (nodeName : String) : Op → Prop
  | list : DrainOp nodeName (.listPodsOnNode nodeName)
  | evict (namespace_ name : String) : DrainOp nodeName (.evictPod namespace_ name)
  | deadline : DrainOp nodeName .deadlinePassed

inductive TerminateOp : Op → Prop
  | inASG (id : String) (d : Bool) : TerminateOp (.terminateInstanceInAutoScalingGroup id d)
  | instances (ids : List String) : TerminateOp (.terminateInstances ids)

section
variable {α : Type} {sv : Services} {groupNodes : NodeManager → String → List String}

abbrev Orderly (groupNodes : NodeManager → String → List String) : Log → Prop :=
  Lawful fun op log => ¬Interrupted log → Allowed groupNodes op log

theorem CordonOp.allowed (h : CordonOp op) (log : Log) : Allowed groupNodes op log := by
  cases h <;> trivial

theorem DrainOp.allowed (h : DrainOp nodeName op) (log : Log) :
    Allowed groupNodes op log := by
  cases h <;> trivial

theorem DrainOp.other (h : DrainOp nodeName op)
    (hne : name ≠ nodeName) : op ≠ .listPodsOnNode name := by
  cases h with
  | list => simp [hne.symm]
  | _ => simp

theorem TerminateOp.ne_list (h : TerminateOp op) (name : String) :
    op ≠ .listPodsOnNode name := by
  cases h <;> simp

/-! ## Cordoning -/

theorem cordonAttempt_only (name : String) (dryRun : Bool) :
    Only sv CordonOp (cordonAttempt name dryRun) := by
  refine (Only.call (.get name)).bind fun r => ?_
  cases r with
  | error e =>
    dsimp only
    split_ifs <;> exact Only.pure
  | ok node =>
    dsimp only
    split_ifs
    · exact Only.pure
    · refine (Only.call (.update _)).bind fun r => ?_
      cases r with
      | error e =>
        dsimp only
        split_ifs <;> exact Only.pure
      | ok node => exact Only.pure

theorem cordonNode_only (name : String) (dryRun : Bool) :
    Only sv CordonOp (cordonNode name dryRun) :=
  onError_only (cordonAttempt_only name dryRun) none 5

def CordonAnswer (name : String) (r : Except ApiError (Option Node)) (log : Log) : Prop :=
  (r = .ok none → Gone log name ∨ Interrupted log) ∧
    ∀ n, r = .ok (some n) → n.name = name ∧ Cordoned log n

theorem CordonAnswer.error {name : String} (e : ApiError) (log : Log) :
    CordonAnswer name (.error e) log := ⟨nofun, nofun⟩

theorem CordonAnswer.interrupted {name : String} (h : Interrupted log) :
    CordonAnswer name (.ok none) log := ⟨fun _ => .inr h, nofun⟩

theorem cordonAttempt_triple (name : String) :
    Triple sv (fun _ => True) (cordonAttempt name false) fun r log => CordonAnswer name r log ∧
      ∀ e, r = .error e → e.reason = .interrupted → CordonAnswer name (.ok none) log := by
  refine Triple.call.bind fun r => ?_
  cases r with
  | error e =>
    dsimp only
    split_ifs with he
    · refine .pure ?_
      rintro log ⟨before, rfl, -⟩
      exact ⟨⟨fun _ => .inl ⟨e, he, .inl (.head _)⟩, nofun⟩, nofun⟩
    · -- `OnError` turns this error into no error when it is an interruption.
      refine .pure ?_
      rintro log ⟨before, rfl, -⟩
      refine ⟨.error _ _, fun e' heq hinterrupted => .interrupted ⟨e, ?_, .inl ⟨name, .head _⟩⟩⟩
      cases heq
      exact hinterrupted
  | ok node =>
    obtain ⟨node, hname⟩ := node
    dsimp only
    by_cases hcordoned : node.unschedulable = true
    · rw [if_pos (.inr hcordoned)]
      refine .pure ?_
      rintro log ⟨before, rfl, -⟩
      refine ⟨⟨nofun, fun n hn => ?_⟩, nofun⟩
      cases Except.ok.inj hn
      exact ⟨hname, hcordoned, .inl ⟨name, hname, .head _⟩⟩
    · rw [if_neg (by simp [hcordoned])]
      refine Triple.call.bind fun r => ?_
      cases r with
      | error e =>
        dsimp only
        split_ifs with he
        · refine .pure ?_
          rintro log ⟨before, rfl, -⟩
          exact ⟨⟨fun _ => .inl ⟨e, he, .inr ⟨{ node with unschedulable := true }, hname,
            .head _⟩⟩, nofun⟩, nofun⟩
        · refine .pure ?_
          rintro log ⟨before, rfl, -⟩
          refine ⟨.error _ _, fun e' heq hinterrupted => .interrupted ⟨e, ?_, .inr ⟨_, .head _⟩⟩⟩
          cases heq
          exact hinterrupted
      | ok updated =>
        obtain ⟨updated, hupdated⟩ := updated
        refine .pure ?_
        rintro log ⟨before, rfl, -⟩
        refine ⟨⟨nofun, fun n hn => ?_⟩, nofun⟩
        cases Except.ok.inj hn
        exact ⟨hupdated.1.trans hname, hupdated.2, .inr ⟨_, hupdated, .head _⟩⟩

theorem cordonNode_triple (name : String) :
    Triple sv (fun _ => True) (cordonNode name false) (CordonAnswer name) :=
  onError_triple (cordonAttempt_triple name) CordonAnswer.error none 5 nofun

/-- After `cordonNodes`: all that came back are cordoned, and without an error or
an interruption every other node is gone. -/
structure CordonedAll (names : List String) (acc : List Node × List ApiError) (log : Log) :
    Prop where
  cordoned : ∀ n ∈ acc.1, Cordoned log n
  all : acc.2 = [] → ¬Interrupted log → ∀ name ∈ names, Gone log name ∨ ∃ n ∈ acc.1, n.name = name

theorem CordonedAll.cons (h : CordonedAll names acc log) : CordonedAll names acc (c :: log) where
  cordoned n hn := (h.cordoned n hn).cons
  all herrs hlog name hname :=
    (h.all herrs (fun hi => hlog hi.cons) name hname).imp_left Gone.cons

theorem CordonedAll.more {cordoned : List Node} {errs : List ApiError}
    {log : Log} (h : CordonedAll names (cordoned, errs) log) (more : List ApiError) :
    CordonedAll names (cordoned, errs ++ more) log where
  cordoned := h.cordoned
  all herrs := h.all (List.append_eq_nil_iff.mp herrs).1

theorem cordonNodes_triple (names : List String) :
    Triple sv (Orderly groupNodes) (cordonNodes names false) fun acc log =>
      CordonedAll names acc log ∧ Orderly groupNodes log := by
  refine (Triple.foldlM (I := fun done acc log =>
    CordonedAll done acc log ∧ Orderly groupNodes log) ?_).weaken ?_ fun _ _ h => h
  · intro done name rest _ acc
    have hkeeps : Triple sv (fun log => CordonedAll done acc log ∧ Orderly groupNodes log)
        (cordonNode name false) fun _ log => CordonedAll done acc log ∧ Orderly groupNodes log :=
      (cordonNode_only name false).keeps fun log c hc h => ⟨h.1.cons, fun _ => hc.allowed log, h.2⟩
    refine (((cordonNode_triple name).keeping hkeeps).weaken (fun _ h => ⟨trivial, h⟩)
      fun _ _ h => h).bind fun r => ?_
    cases r with
    | error e =>
      refine Triple.pure ?_
      rintro log ⟨-, hacc, hlaw⟩
      exact ⟨⟨hacc.cordoned, fun h => absurd h (by simp)⟩, hlaw⟩
    | ok answer =>
      cases answer with
      | none =>
        refine Triple.pure ?_
        rintro log ⟨hanswer, hacc, hlaw⟩
        refine ⟨⟨hacc.cordoned, fun herrs hlog x hx => ?_⟩, hlaw⟩
        rcases List.mem_append.mp hx with hx | hx
        · exact hacc.all herrs hlog x hx
        · obtain rfl := List.mem_singleton.mp hx
          exact .inl ((hanswer.1 rfl).resolve_right hlog)
      | some n =>
        refine Triple.pure ?_
        rintro log ⟨hanswer, hacc, hlaw⟩
        obtain ⟨hname, hcordoned⟩ := hanswer.2 n rfl
        refine ⟨⟨fun m hm => ?_, fun herrs hlog x hx => ?_⟩, hlaw⟩
        · rcases List.mem_append.mp hm with hm | hm
          · exact hacc.cordoned m hm
          · obtain rfl := List.mem_singleton.mp hm
            exact hcordoned
        · rcases List.mem_append.mp hx with hx | hx
          · refine (hacc.all herrs hlog x hx).imp_right ?_
            rintro ⟨m, hm, hmx⟩
            exact ⟨m, List.mem_append_left _ hm, hmx⟩
          · obtain rfl := List.mem_singleton.mp hx
            exact .inr ⟨n, by simp, hname⟩
  · intro log hlaw
    exact ⟨⟨nofun, fun _ _ => nofun⟩, hlaw⟩

/-! ## Draining -/

theorem nodeIsEmpty_only (nodeName : String) :
    Only sv (DrainOp nodeName) (nodeIsEmpty nodeName) := by
  refine (Only.call .list).bind fun r => ?_
  cases r <;> exact Only.pure

theorem nodeIsEmpty_triple (nodeName : String) :
    Triple sv (fun _ => True) (nodeIsEmpty nodeName) fun r log =>
      r = .ok true → Drained log nodeName := by
  refine Triple.call.bind fun r => ?_
  cases r with
  | error e => exact .pure fun _ _ h => nomatch h
  | ok pods =>
    refine .pure ?_
    rintro log ⟨before, rfl, -⟩ h
    have hpods := Except.ok.inj h
    exact ⟨[], pods, before, rfl, nofun, by simpa using hpods⟩

theorem evictPodWithRetry_only (nodeName : String) (p : Pod) (timeout retryInterval : Nat) :
    Only sv (DrainOp nodeName) (evictPodWithRetry p timeout retryInterval) := by
  refine (onError_only (.call (.evict _ _)) none _).bind fun r => ?_
  cases r with
  | ok _ => exact .pure
  | error e =>
    dsimp only
    split <;> exact .pure

theorem drainNode_only (nodeName : String) (opts : NodeDrainOptions) :
    Only sv (DrainOp nodeName) (drainNode nodeName opts) := by
  unfold drainNode
  split_ifs
  · exact Only.pure
  · refine (Only.call .list).bind fun r => ?_
    cases r with
    | error e => exact Only.pure
    | ok pods =>
      refine (Only.foldlM fun p _ _ => ?_).bind fun _ =>
        pollUntil_only (nodeIsEmpty_only nodeName) .deadline _
      unfold evictNext
      split_ifs
      · exact Only.pure
      · exact (evictPodWithRetry_only nodeName p _ _).bind fun _ => Only.pure

theorem drainNode_triple (nodeName : String) (hrun : opts.dryRun = false) :
    Triple sv (fun _ => True) (drainNode nodeName opts) fun r log =>
      r = .ok () → Drained log nodeName := by
  unfold drainNode
  rw [if_neg (by simp [hrun])]
  refine Triple.call.bind fun r => ?_
  cases r with
  | error e => exact .pure fun _ _ h => nomatch h
  | ok pods =>
    refine .bind (Q := fun _ _ => True) (fun _ _ => trivial) fun _ => ?_
    exact pollUntil_triple (nodeIsEmpty_triple nodeName) _

structure AfterDrain (sv : Services) (groupNodes : NodeManager → String → List String)
    (after : Node → Program (List ApiError)) : Prop where
  only : ∀ node, Only sv TerminateOp (after node)
  orderly : ∀ node, Triple sv
    (fun log => Orderly groupNodes log ∧ Cordoned log node ∧ Drained log node.name) (after node)
    fun _ => Orderly groupNodes

/-- Along the drains: without an error all nodes that are done are drained. -/
structure DrainedAll (names : List String) (cordoned done : List Node) (errs : List ApiError)
    (log : Log) : Prop where
  cordoned : CordonedAll names (cordoned, errs) log
  done : errs = [] → ∀ n ∈ done, Drained log n.name

theorem DrainedAll.handled {cordoned : List Node} {errs : List ApiError}
    {log : Log} (h : DrainedAll names cordoned cordoned errs log) (herrs : errs = [])
    (hlog : ¬Interrupted log) : ∀ name ∈ names, Handled log name := by
  intro name hname
  refine (h.cordoned.all herrs hlog name hname).imp_right ?_
  rintro ⟨n, hn, rfl⟩
  exact ⟨n, rfl, h.cordoned.cordoned n hn, h.done herrs n hn⟩

section
variable {opts : NodeDrainOptions} {after : Node → Program (List ApiError)}
  {names : List String} {cordoned done : List Node} {node : Node}

theorem drainNode_keeps (groupNodes : NodeManager → String → List String) (names : List String)
    (cordoned done : List Node) (node : Node) (errs : List ApiError) :
    Triple sv (fun log => CordonedAll names (cordoned, errs) log ∧
        (errs = [] → ∀ n ∈ done, n.name ≠ node.name → Drained log n.name) ∧ Orderly groupNodes log)
      (drainNode node.name opts)
      fun _ log => CordonedAll names (cordoned, errs) log ∧
        (errs = [] → ∀ n ∈ done, n.name ≠ node.name → Drained log n.name) ∧
        Orderly groupNodes log := by
  refine (drainNode_only node.name opts).keeps ?_
  rintro log c hc ⟨hcordoned, hothers, hlaw⟩
  refine ⟨hcordoned.cons, fun herrs n hn hne => ?_, fun _ => hc.allowed log, hlaw⟩
  exact (hothers herrs n hn hne).cons (hc.other hne)

theorem afterDrain_keeps (hafter : AfterDrain sv groupNodes after) (names : List String)
    (cordoned done : List Node) (node : Node) (errs : List ApiError) :
    Triple sv (DrainedAll names cordoned done errs) (after node)
      fun _ => DrainedAll names cordoned done errs := by
  refine (hafter.only node).keeps ?_
  rintro log c hc ⟨hcordoned, hdone⟩
  exact ⟨hcordoned.cons, fun herrs n hn => (hdone herrs n hn).cons (hc.ne_list _)⟩

theorem drainNext_triple (hrun : opts.dryRun = false) (hafter : AfterDrain sv groupNodes after)
    (hnode : node ∈ cordoned) (errs : List ApiError) :
    Triple sv (fun log => DrainedAll names cordoned done errs log ∧ Orderly groupNodes log)
      (drainNext opts after errs node)
      fun errs log => DrainedAll names cordoned (done ++ [node]) errs log ∧
        Orderly groupNodes log := by
  refine (((drainNode_triple node.name hrun).keeping
    (drainNode_keeps groupNodes names cordoned done node errs)).weaken ?_ fun _ _ h => h).bind fun r => ?_
  · rintro log ⟨hall, hlaw⟩
    exact ⟨trivial, hall.cordoned, fun herrs n hn _ => hall.done herrs n hn, hlaw⟩
  cases r with
  | error e =>
    refine .pure ?_
    rintro log ⟨-, hcordoned, -, hlaw⟩
    exact ⟨⟨hcordoned.more _, fun h => absurd h (by simp)⟩, hlaw⟩
  | ok _ =>
    refine (((hafter.orderly node).keeping
      (afterDrain_keeps hafter names cordoned (done ++ [node]) node errs)).weaken ?_
      fun _ _ h => h).bind fun more => ?_
    · rintro log ⟨hdrained, hcordoned, hothers, hlaw⟩
      refine ⟨⟨hlaw, hcordoned.cordoned node hnode, hdrained rfl⟩, hcordoned, fun herrs n hn => ?_⟩
      by_cases hne : n.name = node.name
      · rw [hne]
        exact hdrained rfl
      · rcases List.mem_append.mp hn with hn | hn
        · exact hothers herrs n hn hne
        · exact absurd (congrArg Node.name (List.mem_singleton.mp hn)) hne
    · refine .pure ?_
      rintro log ⟨hlaw, hcordoned, hdone⟩
      exact ⟨⟨hcordoned.more more, fun herrs => hdone (List.append_eq_nil_iff.mp herrs).1⟩, hlaw⟩

theorem drainNodes_triple (hrun : opts.dryRun = false) (hafter : AfterDrain sv groupNodes after)
    (names : List String) (cordoned : List Node) (errs : List ApiError) :
    Triple sv (fun log => DrainedAll names cordoned [] errs log ∧ Orderly groupNodes log)
      (drainNodes opts after cordoned errs)
      fun errs log => DrainedAll names cordoned cordoned errs log ∧ Orderly groupNodes log := by
  refine .foldlM (I := fun done errs log =>
    DrainedAll names cordoned done errs log ∧ Orderly groupNodes log) ?_
  intro done node rest heq errs
  exact drainNext_triple hrun hafter (by simp [← heq]) errs

theorem cordonAndDrain_triple {rest : List ApiError → Program α}
    (hrun : opts.dryRun = false) (hafter : AfterDrain sv groupNodes after)
    (hrest : ∀ errs, Triple sv (fun log =>
      (errs = [] → ¬Interrupted log → ∀ name ∈ names, Handled log name) ∧
        Orderly groupNodes log) (rest errs) R) :
    Triple sv (Orderly groupNodes) (do
      let (cordoned, errs) ← cordonNodes names opts.dryRun
      let errs ← drainNodes opts after cordoned errs
      rest errs) R := by
  rw [hrun]
  refine (cordonNodes_triple names).bind fun acc => ?_
  refine ((drainNodes_triple hrun hafter names acc.1 acc.2).weaken ?_ fun _ _ h => h).bind fun errs => ?_
  · rintro log ⟨hcordoned, hlaw⟩
    exact ⟨⟨hcordoned, fun _ => nofun⟩, hlaw⟩
  · refine (hrest errs).weaken ?_ fun _ _ h => h
    rintro log ⟨hall, hlaw⟩
    exact ⟨hall.handled, hlaw⟩

end

/-! ## Evictors -/

theorem Triple.allowed (h : ∀ log, Allowed groupNodes op log) :
    Triple sv (Orderly groupNodes) (call op) fun _ => Orderly groupNodes :=
  fun log hlaw => ⟨fun _ => h log, hlaw⟩

theorem nothingMore_afterDrain : AfterDrain sv groupNodes nothingMore where
  only _ := Only.pure
  orderly _ := Triple.pure fun _ h => h.1

theorem terminateASGInstance_afterDrain (asgName : String) (opts : NodeDrainOptions) :
    AfterDrain sv groupNodes (terminateASGInstance asgName opts) where
  only node := by
    unfold terminateASGInstance
    cases extractEC2InstanceID node with
    | none => exact .pure
    | some id =>
      dsimp only
      split_ifs
      · exact .pure
      · refine (Only.call (.inASG id true)).bind fun r => ?_
        cases r <;> exact Only.pure
  orderly node := by
    unfold terminateASGInstance
    cases hid : extractEC2InstanceID node with
    | none => exact .pure fun _ h => h.1
    | some id =>
      dsimp only
      split_ifs
      · exact .pure fun _ h => h.1
      · refine .bind (Q := fun _ => Orderly groupNodes) ?_ fun r => ?_
        · rintro log ⟨hlaw, hcordoned, hdrained⟩
          exact ⟨fun _ => ⟨node, hid, hcordoned, hdrained⟩, hlaw⟩
        · cases r <;> exact .pure fun _ h => h

theorem terminateStandalone_afterDrain (opts : NodeDrainOptions) :
    AfterDrain sv groupNodes (terminateStandalone opts) where
  only node := by
    unfold terminateStandalone
    cases extractEC2InstanceID node with
    | none => exact .pure
    | some id =>
      dsimp only
      split_ifs
      · exact .pure
      · refine (Only.call (.instances [id])).bind fun r => ?_
        cases r <;> exact Only.pure
  orderly node := by
    unfold terminateStandalone
    cases hid : extractEC2InstanceID node with
    | none => exact .pure fun _ h => h.1
    | some id =>
      dsimp only
      split_ifs
      · exact .pure fun _ h => h.1
      · refine .bind (Q := fun _ => Orderly groupNodes) ?_ fun r => ?_
        · rintro log ⟨hlaw, hcordoned, hdrained⟩
          refine ⟨fun _ id' hid' => ?_, hlaw⟩
          obtain rfl := List.mem_singleton.mp hid'
          exact ⟨node, hid, hcordoned, hdrained⟩
        · cases r <;> exact .pure fun _ h => h

section
variable {opts : NodeDrainOptions} (hrun : opts.dryRun = false) (entity : String)
include hrun

theorem drainASG_orderly :
    Triple sv (Orderly groupNodes) (drainASG entity (groupNodes .asg entity) opts)
      fun _ => Orderly groupNodes := by
  refine cordonAndDrain_triple hrun (terminateASGInstance_afterDrain entity opts) fun errs => ?_
  split_ifs with herrs
  · exact .pure fun _ h => h.2
  · exact .pure fun _ h => h.2
  · have hnil : errs = [] := by simpa using herrs
    refine .bind (Q := fun _ => Orderly groupNodes) ?_ fun r => ?_
    · rintro log ⟨hhandled, hlaw⟩
      exact ⟨fun hlog _ => hhandled hnil hlog, hlaw⟩
    · cases r <;> exact .pure fun _ h => h

omit hrun in
theorem prepareASGForTermination_orderly :
    Triple sv (Orderly groupNodes) (prepareASGForTermination entity)
      fun _ => Orderly groupNodes := by
  refine Triple.bind (Triple.allowed fun _ => trivial) fun r => ?_
  cases r with
  | error e => exact Triple.pure fun _ h => h
  | ok _ =>
    -- the size may not be below zero, but it is not zero yet
    refine Triple.bind (Triple.allowed fun _ => ?_) fun r => ?_
    · rintro (h | h) <;> cases h
    · cases r <;> exact Triple.pure fun _ h => h

theorem evictASG_orderly :
    Triple sv (Orderly groupNodes) (evictASG entity (groupNodes .asg entity) opts)
      fun _ => Orderly groupNodes := by
  unfold evictASG
  rw [if_neg (by simp [hrun])]
  refine .bind (prepareASGForTermination_orderly entity) fun r => ?_
  cases r with
  | error e => exact .pure fun _ h => h
  | ok _ => exact drainASG_orderly hrun entity

theorem evictStandalone_orderly (nodes : List String) :
    Triple sv (Orderly groupNodes) (evictStandalone nodes opts) fun _ => Orderly groupNodes :=
  cordonAndDrain_triple hrun (terminateStandalone_afterDrain opts) fun _ =>
    Triple.pure fun _ h => h.2

theorem evictKarpenterUserNodePool_orderly (nodes : List String) :
    Triple sv (Orderly groupNodes) (evictKarpenterUserNodePool nodes opts)
      fun _ => Orderly groupNodes :=
  cordonAndDrain_triple hrun nothingMore_afterDrain fun _ => .pure fun _ h => h.2

theorem evictEKSManagedNodeGroup_orderly (clusterName : String) :
    Triple sv (Orderly groupNodes)
      (evictEKSManagedNodeGroup clusterName entity (groupNodes .eksManagedNodeGroup entity) opts)
      fun _ => Orderly groupNodes := by
  refine cordonAndDrain_triple hrun nothingMore_afterDrain fun errs => ?_
  split_ifs with herrs
  · exact .pure fun _ h => h.2
  · exact .pure fun _ h => h.2
  · have hnil : errs = [] := by simpa using herrs
    refine .bind (Q := fun _ => Orderly groupNodes) ?_ fun r => ?_
    · rintro log ⟨hhandled, hlaw⟩
      exact ⟨fun hlog _ => hhandled hnil hlog, hlaw⟩
    · cases r with
      | error e => exact .pure fun _ h => h
      | ok _ =>
        -- the wait only lists nodes
        have hwait : Only sv (fun op => (∃ name, op = .listNodesOfNodegroup name) ∨
            op = .deadlinePassed)
            (waitEKSNodegroupEmpty clusterName entity opts.nodeTimeout opts.pollInterval) := by
          refine (pollUntil_only ((Only.call (.inl ⟨_, rfl⟩)).bind fun r => ?_) (.inr rfl) _).bind
            fun r => ?_
          · cases r <;> exact .pure
          · cases r <;> exact Only.pure
        refine hwait.keeps ?_
        rintro log c (⟨name, hop⟩ | hop) hlaw
        · exact ⟨fun _ => by rw [hop]; trivial, hlaw⟩
        · exact ⟨fun _ => by rw [hop]; trivial, hlaw⟩

theorem evictTarget_orderly (clusterName : String)
    (hnodes : t.nodes = groupNodes t.manager t.entity) :
    Triple sv (Orderly groupNodes) (evictTarget clusterName opts t) fun _ => Orderly groupNodes := by
  unfold evictTarget
  cases hmgr : t.manager with
  | asg =>
    rw [hnodes, hmgr]
    exact evictASG_orderly hrun t.entity
  | eksManagedNodeGroup =>
    rw [hnodes, hmgr]
    exact evictEKSManagedNodeGroup_orderly hrun t.entity clusterName
  | karpenter => exact evictKarpenterUserNodePool_orderly hrun t.nodes
  | standalone => exact evictStandalone_orderly hrun t.nodes
  | fargate => exact .pure fun _ h => h
  | unknown => exact .pure fun _ h => h

theorem evictAllTargets_orderly (clusterName : String)
    (hplan : ∀ t ∈ targets, t.nodes = groupNodes t.manager t.entity) :
    Triple sv (Orderly groupNodes) (evictAllTargets clusterName opts targets)
      fun _ => Orderly groupNodes := by
  refine .foldlM (I := fun _ _ => Orderly groupNodes) fun done t rest heq errs => ?_
  refine (evictTarget_orderly hrun clusterName (hplan t (by simp [← heq]))).bind fun r => ?_
  cases r <;> exact .pure fun _ h => h

end

end

/-! ## Main result -/

theorem allowed_of_not_mutating
    (h : op.mutating = false) (log : Log) : Allowed groupNodes op log := by
  cases op <;> trivial

/-- For every plan whose nodes are those of its groups and all answers: unless a
get or an update of a node was interrupted before, each instance was drained before
it is terminated and each group handled before it is scaled to zero. No dry run
changes anything. -/
theorem eviction_is_safe (groupNodes : NodeManager → String → List String) (targets : List Target)
    (hplan : ∀ t ∈ targets, t.nodes = groupNodes t.manager t.entity) (clusterName : String)
    (opts : NodeDrainOptions) (sv : Services) :
    (∀ later c earlier, (evictAllTargets clusterName opts targets sv []).2 = later ++ c :: earlier →
        ¬Interrupted earlier → Allowed groupNodes c.op earlier) ∧
      ∀ (hash : String → String) (runOpts : RunOptions), runOpts.dryRun = true →
        ∀ c ∈ (run hash runOpts sv []).2, c.op.mutating = false := by
  constructor
  · suffices h : Orderly groupNodes _ from Lawful.iff_split.mp h
    cases hrun : opts.dryRun with
    | false => exact evictAllTargets_orderly hrun clusterName hplan [] trivial
    | true =>
      refine Only.keeps (evictAllTargets_readsOnly hrun clusterName targets) ?_ [] trivial
      exact fun log c hc hlaw => ⟨fun _ => allowed_of_not_mutating hc log, hlaw⟩
  · intro hash runOpts hdry c hc
    obtain ⟨new, hnew, hall⟩ : ∃ new, (run hash runOpts sv []).2 = new ++ [] ∧
        ∀ c ∈ new, c.op.mutating = false := run_readsOnly hdry hash []
    rw [hnew, List.append_nil] at hc
    exact hall c hc

-- A group of one node that nothing runs on.

def idleGroup : NodeManager → String → List String
  | .asg, "workers" => ["ip-2"]
  | _, _ => []

def idleServices : Services := fun _ op =>
  match op with
  | .getNode name =>
    .ok ⟨{ name, providerID := "aws:///us-east-1a/i-0a" }, rfl⟩
  | .updateNode node => .ok ⟨node, rfl, rfl⟩
  | .listPodsOnNode _ => .ok []
  | .suspendProcesses .. | .updateAutoScalingGroup .. | .terminateInstanceInAutoScalingGroup .. =>
    .ok ()
  | op => op.unavailable

theorem idle_group_is_evicted_safely :
    let target : Target := ⟨.asg, "workers", ["ip-2"]⟩
    let ended := evictAllTargets "prod" ⟨false, 1, 1, 1⟩ [target] idleServices []
    ended.1 = [] ∧ ended.2.length = 8 ∧
      ∀ later c earlier, ended.2 = later ++ c :: earlier → ¬Interrupted earlier →
        Allowed idleGroup c.op earlier := by
  refine ⟨by decide +kernel, by decide +kernel, ?_⟩
  refine (eviction_is_safe idleGroup _ ?_ "prod" ⟨false, 1, 1, 1⟩ idleServices).1
  simp [idleGroup]

/-- The get of the node is cut off by a deadline, which the retry turns into no error. The group
is scaled to zero, and nothing was asked about the pods of its node. -/
theorem interrupted_cordon_scales_to_zero :
    let services : Services := fun log op =>
      match op with
      | .getNode _ => .error ⟨.interrupted, "context deadline exceeded"⟩
      | op => idleServices log op
    let ended := evictAllTargets "prod" ⟨false, 1, 1, 1⟩ [⟨.asg, "workers", ["ip-2"]⟩] services []
    let scaled : Op := .updateAutoScalingGroup "workers" (some 0) (some 0) (some 0)
    let earlier : Log := [⟨.getNode "ip-2", .error ⟨.interrupted, "context deadline exceeded"⟩⟩,
      ⟨.updateAutoScalingGroup "workers" (some 0) none none, .ok ()⟩,
      ⟨.suspendProcesses "workers" ["AZRebalance"], .ok ()⟩]
    ended.1 = [] ∧ ended.2 = ⟨scaled, .ok ()⟩ :: earlier ∧ ¬Allowed idleGroup scaled earlier := by
  refine ⟨by decide +kernel, rfl, fun h => ?_⟩
  rcases h (.inl rfl) "ip-2" (.head _) with ⟨e, he, hmem⟩ | ⟨n, -, -, later, pods, before, heq, -⟩
  · simp only [List.mem_cons, List.not_mem_nil, or_false] at hmem
    rcases hmem with (heq | heq | heq) | ⟨sent, -, heq | heq | heq⟩ <;> cases heq
    cases he
  · have hmem := List.mem_append_right later (List.mem_cons_self (a :=
      (⟨.listPodsOnNode "ip-2", .ok pods⟩ : Call Op Op.Answer)) (l := before))
    simp only [← heq, List.mem_cons, List.not_mem_nil, or_false] at hmem
    rcases hmem with heq | heq | heq <;> cases heq

end DatadogOperator.Autoscaling
