import DatadogOperator.Profiles.Assignment

/-!
# The create strategy

`ApplyCreateStrategy` of `pkg/agentprofile`: of the nodes a profile still has to
label, only as many stay in `profilesByNode` as may become unavailable. How
many are unavailable already is the difference of two counters, the labelled
nodes the profile matches and the ready pods its DaemonSet reports, in `int32`.
-/

namespace DatadogOperator.Profiles

/-- Go's conversion to `int32`, and the result of `int32` arithmetic. -/
def int32 (x : Int) : Int := x.bmod 4294967296

/-- The counter is an `int32` that the API server keeps from being negative. -/
structure DaemonSetStatus where
  numberReady : Nat := 0
  fits : numberReady < 2147483648 := by decide

inductive CreateStrategyStatus
  | completed
  | waiting
  | inProgress
  deriving DecidableEq

/-- `v1alpha1.CreateStrategy`. The empty status is `none`. -/
structure CreateStrategy where
  status : Option CreateStrategyStatus := none
  nodesLabeled : Int := 0
  podsReady : Int := 0
  maxUnavailable : Int := 0
  lastTransition : Option Time := none

/-! ## The source -/

def defaultMaxUnavailable : Int := 1

section
-- `intstr.IntOrString` and `intstr.GetScaledValueFromIntOrPercent`, rounding up.
variable {IntOrString : Type} (getScaledValue : IntOrString → Nat → Option Int)

/-- The first argument is `maxUnavailable` of the rolling update in the node
Agent override of the profile's config, if it is set. -/
def getMaxNodesToLabel (profileMaxUnavailable : Option IntOrString)
    (ddaEDSMaxUnavailable : IntOrString) (numNodes : Nat) : Int :=
  (getScaledValue (profileMaxUnavailable.getD ddaEDSMaxUnavailable) numNodes).getD
    defaultMaxUnavailable

def deleteNodes (profilesByNode : ProfilesByNode) (names : List String) : ProfilesByNode :=
  names.foldl (fun m name => m.erase name) profilesByNode

def CreateStrategyInfo.sort (csInfo : CreateStrategyInfo) : CreateStrategyInfo :=
  { csInfo with nodesNeedingLabel := csInfo.nodesNeedingLabel.insertionSort (· ≤ ·) }

/-- `none` when the loop starts at a negative index and panics. The names are
sorted already. -/
def applyMaxNodesToLabel (profilesByNode : ProfilesByNode) (csInfo : CreateStrategyInfo)
    (maxUnavailable currentUnavailable : Int) : Option (ProfilesByNode × Int) :=
  let names := csInfo.nodesNeedingLabel
  if currentUnavailable ≥ maxUnavailable then some (deleteNodes profilesByNode names, 0)
  else
    let capacity := int32 (maxUnavailable - currentUnavailable)
    let last := int32 names.length
    let nodesToLabel := min capacity last
    if nodesToLabel < 0 ∧ nodesToLabel < last then none
    else some (deleteNodes profilesByNode ((names.take last.toNat).drop nodesToLabel.toNat),
      nodesToLabel)

def updateCreateStrategyStatus (info : CreateStrategyInfo)
    (numNodesToLabel maxUnavailable newUnavailable : Int) (dsStatus : Option DaemonSetStatus)
    (previous : CreateStrategy) (now : Time) : CreateStrategy :=
  let totalNodes := int32 (info.nodesAlreadyLabeled + info.nodesNeedingLabel.length)
  let newStatus : CreateStrategyStatus :=
    if totalNodes = 0 then .completed
    else if int32 info.nodesAlreadyLabeled = totalNodes then .completed
    else if numNodesToLabel > 0 ∨ newUnavailable < maxUnavailable then .inProgress
    else .waiting
  { status := some newStatus
    nodesLabeled := int32 (info.nodesAlreadyLabeled + numNodesToLabel)
    podsReady := (dsStatus.map fun s => (s.numberReady : Int)).getD previous.podsReady
    maxUnavailable
    lastTransition := if previous.status ≠ some newStatus then some now
      else previous.lastTransition }

/-- What is left of `profilesByNode` and `csInfo`, and the profile's new status. -/
structure CreateStrategyResult where
  profilesByNode : ProfilesByNode
  csInfo : CreateStrategyInfo
  createStrategy : CreateStrategy

def applyCreateStrategy (profilesByNode : ProfilesByNode) (csInfo : CreateStrategyInfo)
    (createStrategy : Option CreateStrategy) (profileMaxUnavailable : Option IntOrString)
    (ddaEDSMaxUnavailable : IntOrString) (numNodes : Nat) (dsStatus : Option DaemonSetStatus)
    (now : Time) : Option CreateStrategyResult :=
  let maxUnavailable := int32 (getMaxNodesToLabel getScaledValue profileMaxUnavailable
    ddaEDSMaxUnavailable numNodes)
  let currentUnavailable := match dsStatus with
    | none => 0
    | some status => int32 (int32 csInfo.nodesAlreadyLabeled - status.numberReady)
  let csInfo := csInfo.sort
  match applyMaxNodesToLabel profilesByNode csInfo maxUnavailable currentUnavailable with
  | none => none
  | some (profilesByNode, numNodesToLabel) => some {
      profilesByNode, csInfo
      createStrategy := updateCreateStrategyStatus csInfo numNodesToLabel maxUnavailable
        (int32 (currentUnavailable + numNodesToLabel)) dsStatus (createStrategy.getD {}) now }

end

/-! ## Inputs -/

/-- The entries of a profile are its labelled nodes and those that need the
label. The counter of the labelled ones is an `int32`. -/
structure CreateStrategyInput where
  profile : NamespacedName
  profilesByNode : ProfilesByNode
  csInfo : CreateStrategyInfo
  labelled : List String
  distinct : (labelled ++ csInfo.nodesNeedingLabel).Nodup
  counted : csInfo.nodesAlreadyLabeled = labelled.length
  fits : labelled.length < 2147483648
  entries : ∀ node, profilesByNode.lookup node = some profile ↔
    node ∈ labelled ∨ node ∈ csInfo.nodesNeedingLabel

namespace CreateStrategyInput

variable (i : CreateStrategyInput)

def names : List String := i.csInfo.sort.nodesNeedingLabel

/-- The nodes that get the label because they are left in the map. -/
def newlyLabelled (profilesByNode : ProfilesByNode) : List String :=
  i.csInfo.nodesNeedingLabel.filter fun node =>
    decide (profilesByNode.lookup node = some i.profile)

/-- The labelled nodes whose pod is not ready. -/
def unready (ready : String → Bool) : Nat := (i.labelled.filter fun node => !ready node).length

/-- At most `m` nodes of the profile are or become unavailable, if it is
within the limit; its labelled nodes stay and of the others the first in name
order; and entries of other profiles are not touched. -/
structure Throttles (ready : String → Bool) (m : Int) (profilesByNode : ProfilesByNode) :
    Prop where
  capacity : ((i.newlyLabelled profilesByNode).length : Int) ≤ max 0 (m - i.unready ready)
  limit : ((i.newlyLabelled profilesByNode).length : Int) ≤ m
  kept : ∃ k, ∀ node, profilesByNode.lookup node = some i.profile ↔
    node ∈ i.labelled ∨ node ∈ i.names.take k
  others : ∀ node other, other ≠ i.profile →
    (profilesByNode.lookup node = some other ↔ i.profilesByNode.lookup node = some other)

/-- The pods counted as ready; without a status that is one for each labelled node. -/
def reportedReady (dsStatus : Option DaemonSetStatus) : Int :=
  (dsStatus.map fun s => (s.numberReady : Int)).getD i.labelled.length

/-- No more pods are reported ready than labelled nodes have a ready pod, or
that makes no difference: so few are reported that the limit is reached, or no
more nodes need the label than may get it. And the numbers fit `int32`. -/
def InStep (ready : String → Bool) (m : Int) (dsStatus : Option DaemonSetStatus) : Prop :=
  m + i.reportedReady dsStatus ≤ i.labelled.length ∨
    ((i.reportedReady dsStatus ≤ (i.labelled.filter ready).length ∨
        (i.csInfo.nodesNeedingLabel.length : Int) ≤ max 0 (m - i.unready ready)) ∧
      i.csInfo.nodesNeedingLabel.length < 2147483648 ∧
      m + i.reportedReady dsStatus < i.labelled.length + 2147483648)

end CreateStrategyInput

/-! ## Deleting nodes -/

theorem int32_eq (x : Int) : int32 x = (x + 2147483648) % 4294967296 - 2147483648 := by
  rw [int32, Int.bmod_def]
  split <;> omega

theorem int32_of_lt (h : -2147483648 ≤ x) (h' : x < 2147483648) : int32 x = x := by
  rw [int32_eq]
  omega

theorem int32_lt (x : Int) : int32 x < 2147483648 := by
  rw [int32_eq]
  omega

theorem deleteNodes_lookup (profilesByNode : ProfilesByNode) (names : List String) (node : String) :
    (deleteNodes profilesByNode names).lookup node =
      if node ∈ names then none else profilesByNode.lookup node := by
  unfold deleteNodes
  induction names generalizing profilesByNode with
  | nil => rfl
  | cons name names ih =>
    rw [List.foldl_cons, ih]
    by_cases hname : node = name
    · subst hname
      simp [Finmap.lookup_erase]
    · simp [hname, Finmap.lookup_erase_ne hname]

namespace CreateStrategyInput

variable {i : CreateStrategyInput} {ready : String → Bool} {m : Int}

theorem names_perm (i : CreateStrategyInput) : i.names.Perm i.csInfo.nodesNeedingLabel :=
  List.perm_insertionSort _ _

theorem mem_names : node ∈ i.names ↔ node ∈ i.csInfo.nodesNeedingLabel :=
  i.names_perm.mem_iff

theorem names_nodup (i : CreateStrategyInput) : i.names.Nodup :=
  i.names_perm.nodup_iff.mpr (List.nodup_append.mp i.distinct).2.1

theorem not_mem_labelled (h : node ∈ i.names) : node ∉ i.labelled := by
  intro hl
  exact (List.nodup_append.mp i.distinct).2.2 node hl node (mem_names.mp h) rfl

theorem unready_add_ready (i : CreateStrategyInput) (ready : String → Bool) :
    i.unready ready + (i.labelled.filter ready).length = i.labelled.length := by
  have h := i.labelled.length_eq_length_filter_add ready
  unfold unready
  omega

theorem newlyLabelled_deleteNodes (h : i.names = before ++ deleted ++ after) :
    (i.newlyLabelled (deleteNodes i.profilesByNode deleted)).length =
      before.length + after.length := by
  have hnodup := i.names_nodup
  rw [h] at hnodup
  have hlookup (node : String) (hnode : node ∈ i.names) :
      decide ((deleteNodes i.profilesByNode deleted).lookup node = some i.profile) =
        decide (node ∉ deleted) := by
    have hentry := (i.entries node).mpr (.inr (mem_names.mp hnode))
    rw [deleteNodes_lookup]
    by_cases hd : node ∈ deleted <;> simp [hd, hentry]
  have hperm : (i.newlyLabelled (deleteNodes i.profilesByNode deleted)).length =
      (i.names.filter fun node => decide (node ∉ deleted)).length := by
    rw [newlyLabelled, ← (i.names_perm.filter _).length_eq, List.filter_congr hlookup]
  obtain ⟨hba, -, hafter⟩ := List.nodup_append.mp hnodup
  obtain ⟨-, -, hbefore⟩ := List.nodup_append.mp hba
  rw [hperm, h, List.filter_append, List.filter_append, List.length_append, List.length_append,
    List.filter_eq_self.mpr fun node hn => ?_, List.filter_eq_nil_iff.mpr fun node hn => ?_,
    List.filter_eq_self.mpr fun node hn => ?_, List.length_nil, Nat.add_zero]
  · simpa using fun hd => hafter node (List.mem_append_right _ hd) node hn rfl
  · simpa using hn
  · simpa using fun hd => hbefore node hn node hd rfl

theorem newlyLabelled_drop (k : Nat) :
    (i.newlyLabelled (deleteNodes i.profilesByNode (i.names.drop k))).length =
      min k i.names.length := by
  have hsplit : i.names = i.names.take k ++ i.names.drop k ++ [] := by
    rw [List.append_nil, List.take_append_drop]
  rw [newlyLabelled_deleteNodes hsplit, List.length_nil, List.length_take, Nat.add_zero]

theorem throttles_of_take (hm : 0 ≤ m)
    (hk : ((min k i.names.length : Nat) : Int) ≤ max 0 (m - i.unready ready)) :
    i.Throttles ready m (deleteNodes i.profilesByNode (i.names.drop k)) := by
  rw [← newlyLabelled_drop] at hk
  refine ⟨hk, by omega, ⟨k, ?_⟩, ?_⟩
  · intro node
    rw [deleteNodes_lookup]
    by_cases hdrop : node ∈ i.names.drop k
    · have hnode := List.mem_of_mem_drop hdrop
      have htake : node ∉ i.names.take k := fun htake =>
        List.disjoint_take_drop i.names_nodup le_rfl htake hdrop
      simp [hdrop, not_mem_labelled hnode, htake]
    · have hmem : node ∈ i.names.take k ↔ node ∈ i.csInfo.nodesNeedingLabel := by
        rw [← mem_names]
        refine ⟨List.mem_of_mem_take, fun hnode => ?_⟩
        rw [← List.take_append_drop k i.names] at hnode
        exact (List.mem_append.mp hnode).resolve_right hdrop
      rw [if_neg hdrop, i.entries, hmem]
  · intro node other hother
    rw [deleteNodes_lookup]
    by_cases hdrop : node ∈ i.names.drop k
    · have hentry := (i.entries node).mpr (.inr (mem_names.mp (List.mem_of_mem_drop hdrop)))
      simp [hdrop, hentry, Ne.symm hother]
    · rw [if_neg hdrop]

/-! ## The limit -/

theorem names_length (i : CreateStrategyInput) :
    i.names.length = i.csInfo.nodesNeedingLabel.length :=
  i.names_perm.length_eq

variable {current : Int}

theorem applyMaxNodesToLabel_full (h : m ≤ current) :
    applyMaxNodesToLabel i.profilesByNode i.csInfo.sort m current =
      some (deleteNodes i.profilesByNode (i.names.drop 0), 0) :=
  if_pos h

theorem applyMaxNodesToLabel_open (h : current < m) :
    applyMaxNodesToLabel i.profilesByNode i.csInfo.sort m current =
      if min (int32 (m - current)) (int32 i.names.length) < 0 ∧
          min (int32 (m - current)) (int32 i.names.length) < int32 i.names.length then none
      else some (deleteNodes i.profilesByNode ((i.names.take (int32 i.names.length).toNat).drop
        (min (int32 (m - current)) (int32 i.names.length)).toNat),
        min (int32 (m - current)) (int32 i.names.length)) :=
  if_neg (by omega)

theorem applyMaxNodesToLabel_below (h : current < m) (hn : i.names.length < 2147483648)
    (hcapacity : m - current < 2147483648) :
    applyMaxNodesToLabel i.profilesByNode i.csInfo.sort m current =
      some (deleteNodes i.profilesByNode (i.names.drop (min (m - current).toNat i.names.length)),
        ((min (m - current).toNat i.names.length : Nat) : Int)) := by
  have hlast : int32 i.names.length = i.names.length := int32_of_lt (by omega) (by omega)
  have hcap : int32 (m - current) = (m - current).toNat := by
    rw [int32_of_lt (by omega) hcapacity]
    omega
  have hmin : min (((m - current).toNat : Nat) : Int) (i.names.length : Int) =
      ((min (m - current).toNat i.names.length : Nat) : Int) := by omega
  rw [applyMaxNodesToLabel_open h, hlast, hcap, hmin, if_neg (by omega), Int.toNat_natCast,
    Int.toNat_natCast, List.take_length]

theorem not_throttles_overflow (h : current < m) (hm : m < 2147483648)
    (hbig : ¬(i.names.length < 2147483648 ∧ m - current < 2147483648))
    (hcurrent : -2147483648 < current)
    (heq : applyMaxNodesToLabel i.profilesByNode i.csInfo.sort m current = some (q, n)) :
    ¬i.Throttles ready m q := by
  intro hq
  rw [applyMaxNodesToLabel_open h] at heq
  split at heq
  · cases heq
  · rename_i hstart
    obtain ⟨rfl, -⟩ := Prod.mk.inj (Option.some.inj heq)
    -- The names from the wrapped length on are never looked at.
    have hsplit (a b : Nat) : i.names = (i.names.take b).take a ++ (i.names.take b).drop a ++
        i.names.drop b := by
      rw [List.take_append_drop, List.take_append_drop]
    have hcount := hq.limit
    rw [newlyLabelled_deleteNodes (hsplit _ _), List.length_drop] at hcount
    rw [int32_eq, int32_eq] at hcount hstart
    omega

theorem throttles_below_iff (hm : 0 ≤ m) (h : current < m) (hn : i.names.length < 2147483648)
    (hcapacity : m - current < 2147483648) :
    (∃ q n, applyMaxNodesToLabel i.profilesByNode i.csInfo.sort m current = some (q, n) ∧
        i.Throttles ready m q) ↔
      i.unready ready ≤ current ∨ (i.names.length : Int) ≤ max 0 (m - i.unready ready) := by
  rw [applyMaxNodesToLabel_below h hn hcapacity]
  constructor
  · rintro ⟨q, n, heq, hq⟩
    obtain ⟨rfl, -⟩ := Prod.mk.inj (Option.some.inj heq)
    have hcount := hq.capacity
    rw [newlyLabelled_drop] at hcount
    omega
  · intro hsmall
    refine ⟨_, _, rfl, throttles_of_take hm ?_⟩
    omega

theorem throttles_iff (hm : 0 ≤ m) (hm' : m < 2147483648) (dsStatus : Option DaemonSetStatus)
    (hcurrent : current = i.labelled.length - i.reportedReady dsStatus) :
    (∃ q n, applyMaxNodesToLabel i.profilesByNode i.csInfo.sort m current = some (q, n) ∧
        i.Throttles ready m q) ↔ i.InStep ready m dsStatus := by
  have hready := i.unready_add_ready ready
  have hlow : -2147483648 < current := by
    have hfits := i.fits
    rw [hcurrent]
    unfold reportedReady
    cases dsStatus with
    | none => simp
    | some s =>
      have hs := s.fits
      simp only [Option.map_some, Option.getD_some]
      omega
  unfold InStep
  rw [← i.names_length]
  by_cases hfull : m ≤ current
  · refine ⟨fun _ => .inl (by omega), fun _ => ?_⟩
    exact ⟨_, _, applyMaxNodesToLabel_full hfull, throttles_of_take hm (by omega)⟩
  · by_cases hsmall : i.names.length < 2147483648 ∧ m - current < 2147483648
    · rw [throttles_below_iff hm (by omega) hsmall.1 hsmall.2]
      omega
    · constructor
      · rintro ⟨q, n, heq, hq⟩
        exact absurd hq (not_throttles_overflow (by omega) hm' hsmall hlow heq)
      · intro h
        omega

theorem currentUnavailable_eq (i : CreateStrategyInput) (dsStatus : Option DaemonSetStatus) :
    (match dsStatus with
      | none => 0
      | some status => int32 (int32 i.csInfo.nodesAlreadyLabeled - status.numberReady)) =
      (i.labelled.length : Int) - i.reportedReady dsStatus := by
  have hfits := i.fits
  rw [i.counted]
  cases dsStatus with
  | none => simp [reportedReady]
  | some s =>
    have hs := s.fits
    simp only [reportedReady, Option.map_some, Option.getD_some]
    rw [int32_of_lt (x := i.labelled.length) (by omega) (by omega),
      int32_of_lt (by omega) (by omega)]

/-- The limit is kept if and only if the counters are in step. -/
theorem applyCreateStrategy_throttles_iff {IntOrString : Type}
    (getScaledValue : IntOrString → Nat → Option Int) (i : CreateStrategyInput)
    (createStrategy : Option CreateStrategy) (profileMaxUnavailable : Option IntOrString)
    (ddaEDSMaxUnavailable : IntOrString) (numNodes : Nat) (dsStatus : Option DaemonSetStatus)
    (now : Time) (ready : String → Bool) (m : Int)
    (hm : m = int32 (getMaxNodesToLabel getScaledValue profileMaxUnavailable ddaEDSMaxUnavailable
      numNodes))
    (hnonneg : 0 ≤ m) :
    (∃ result, applyCreateStrategy getScaledValue i.profilesByNode i.csInfo createStrategy
        profileMaxUnavailable ddaEDSMaxUnavailable numNodes dsStatus now = some result ∧
        i.Throttles ready m result.profilesByNode) ↔
      i.InStep ready m dsStatus := by
  rw [← throttles_iff hnonneg (hm ▸ int32_lt _) dsStatus rfl]
  unfold applyCreateStrategy
  dsimp only
  rw [currentUnavailable_eq, ← hm]
  cases applyMaxNodesToLabel i.profilesByNode i.csInfo.sort m
      (i.labelled.length - i.reportedReady dsStatus) with
  | none => simp
  | some out =>
    obtain ⟨q, n⟩ := out
    simp

end CreateStrategyInput

-- A profile alone in a cluster.

def entriesOf (profile : NamespacedName) (nodes : List String) : ProfilesByNode :=
  nodes.foldr (fun node m => m.insert node profile) ∅

theorem entriesOf_lookup (profile : NamespacedName) (nodes : List String) (node : String) :
    (entriesOf profile nodes).lookup node = if node ∈ nodes then some profile else none := by
  induction nodes with
  | nil => rfl
  | cons n nodes ih =>
    by_cases hname : node = n
    · subst hname
      simp [entriesOf, Finmap.lookup_insert]
    · simp only [entriesOf, List.foldr_cons] at ih ⊢
      rw [Finmap.lookup_insert_of_ne _ hname, ih]
      simp [hname]

def gpuInput (labelled needing : List String) (hdistinct : (labelled ++ needing).Nodup)
    (hfits : labelled.length < 2147483648) : CreateStrategyInput where
  profile := ⟨"team", "gpu"⟩
  profilesByNode := entriesOf ⟨"team", "gpu"⟩ (labelled ++ needing)
  csInfo := { nodesNeedingLabel := needing, nodesAlreadyLabeled := labelled.length }
  labelled
  distinct := hdistinct
  counted := rfl
  fits := hfits
  entries node := by simp [entriesOf_lookup, or_iff_not_imp_left]

def wholeValue (value : Int) (_ : Nat) : Option Int := some value

/-- Two nodes may be unavailable and one labelled node is: one of two gets the label. -/
theorem gpu_rollout_is_throttled : let i := gpuInput ["a", "b"] ["d", "c"] (by decide) (by decide)
    ∃ result, applyCreateStrategy wholeValue i.profilesByNode i.csInfo none none 2 4
        (some { numberReady := 1 }) 0 = some result ∧
      i.Throttles (fun node => node == "a") 2 result.profilesByNode :=
  (CreateStrategyInput.applyCreateStrategy_throttles_iff wholeValue
    (gpuInput ["a", "b"] ["d", "c"] (by decide) (by decide)) none none 2 4
    (some { numberReady := 1 }) 0 (fun node => node == "a") 2 (by decide) (by decide)).mpr
    (by unfold CreateStrategyInput.InStep; decide)

/-- A profile was moved to other nodes. The pods on its old nodes are still
there and ready, so three nodes get the label at once where one may. -/
theorem moved_profile_is_not_throttled :
    let i := gpuInput [] ["a", "b", "c"] (by decide) (by decide)
    (∃ result, applyCreateStrategy wholeValue i.profilesByNode i.csInfo none none 1 5
        (some { numberReady := 2 }) 0 = some result ∧
        i.newlyLabelled result.profilesByNode = ["a", "b", "c"]) ∧
      ∀ ready, ¬∃ result, applyCreateStrategy wholeValue i.profilesByNode i.csInfo none none 1 5
        (some { numberReady := 2 }) 0 = some result ∧
        i.Throttles ready 1 result.profilesByNode := by
  intro i
  have hresult : (applyCreateStrategy wholeValue i.profilesByNode i.csInfo none none 1 5
      (some { numberReady := 2 }) 0).map (fun r => i.newlyLabelled r.profilesByNode) =
        some ["a", "b", "c"] := by decide +kernel
  obtain ⟨result, heq, hnew⟩ := Option.map_eq_some_iff.mp hresult
  refine ⟨⟨result, heq, hnew⟩, ?_⟩
  rintro ready ⟨result', heq', h⟩
  rw [heq] at heq'
  cases heq'
  have hlimit := h.limit
  rw [hnew] at hlimit
  cases hlimit

end DatadogOperator.Profiles
