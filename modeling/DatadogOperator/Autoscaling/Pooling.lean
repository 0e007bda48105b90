import DatadogOperator.Autoscaling.NodePools

/-!
# Calls and their node pools

Every call of `NodePoolsSet.Add` should find a node pool with its own labels and
taints, on a node class with its own image family, security groups, metadata
options and block devices. The bytes that are hashed hold texts one after the
other, so different fields can be written as the same bytes: then the first call
decides and the second one is lost in it.
-/

namespace DatadogOperator.Autoscaling

/-- The set has a pool for the call, and the class of that pool is one for the call. -/
structure KeptBy (nps : NodePoolsSet) (p : NodePoolsSetAddParams) (np : NodePool)
    (nc : EC2NodeClass) : Prop where
  pool : ∃ h, nps.nodePools.lookup h = some np
  class_ : ∃ h, nps.ec2NodeClasses.lookup h = some nc
  named : nc.name = np.ec2NodeClass
  labels : np.labels = sanitizeLabels p.labels
  taints : np.taints = p.taints.toFinset
  amiFamily : nc.amiFamily = p.amiFamily
  securityGroupIDs : nc.securityGroupIDs = p.securityGroupIDs.toFinset
  metadataOptions : nc.metadataOptions = p.metadataOptions
  blockDevices : ∀ bdm, nc.blockDeviceMappings.lookup bdm.device = some bdm ↔
    bdm ∈ p.blockDeviceMappings
  zones : p.zones.toFinset ⊆ np.zones
  architecture : optional p.architecture ⊆ np.architectures
  capacityType : p.capacityType ∈ np.capacityTypes
  subnetIDs : p.subnetIDs.toFinset ⊆ nc.subnetIDs

def Kept (nps : NodePoolsSet) (p : NodePoolsSetAddParams) : Prop := ∃ np nc, KeptBy nps p np nc

/-- Different bytes are not given one name, and so not one hash. -/
def NoCollisions (calls : List NodePoolsSetAddParams) : Prop :=
  ∀ p ∈ calls, ∀ q ∈ calls,
    (resourceName p.classHash = resourceName q.classHash →
      p.unnamedClass.written = q.unnamedClass.written) ∧
    (resourceName p.poolHash = resourceName q.poolHash →
      p.unnamedPool.written = q.unnamedPool.written)

instance (calls : List NodePoolsSetAddParams) : Decidable (NoCollisions calls) :=
  inferInstanceAs (Decidable (∀ p ∈ calls, ∀ q ∈ calls, _ ∧ _))

/-- The fields of a call that a class must have. -/
@[mk_iff]
structure SameClass (p q : NodePoolsSetAddParams) : Prop where
  amiFamily : p.amiFamily = q.amiFamily
  securityGroupIDs : p.securityGroupIDs.toFinset = q.securityGroupIDs.toFinset
  metadataOptions : p.metadataOptions = q.metadataOptions
  blockDeviceMappings :
    associateDevices p.blockDeviceMappings = associateDevices q.blockDeviceMappings

/-- The bytes of two calls are the same only for the same fields, and a call
has one mapping for each device. -/
@[mk_iff]
structure Decodable (calls : List NodePoolsSetAddParams) : Prop where
  classes : ∀ p ∈ calls, ∀ q ∈ calls, p.unnamedClass.written = q.unnamedClass.written →
    SameClass p q
  pools : ∀ p ∈ calls, ∀ q ∈ calls, p.unnamedPool.written = q.unnamedPool.written →
    sanitizeLabels p.labels = sanitizeLabels q.labels ∧ p.taints.toFinset = q.taints.toFinset
  devices : ∀ p ∈ calls, ∀ a ∈ p.blockDeviceMappings, ∀ b ∈ p.blockDeviceMappings,
    a.device = b.device → a = b

instance (p q : NodePoolsSetAddParams) : Decidable (SameClass p q) :=
  decidable_of_iff _ (sameClass_iff p q).symm

instance (calls : List NodePoolsSetAddParams) : Decidable (Decodable calls) :=
  decidable_of_iff _ (decodable_iff calls).symm

/-! ## Texts -/

theorem text_append (a b : String) : text (a ++ b) = text a ++ text b := by
  simp [text]

theorem text_ofList (cs : List Char) :
    text (String.ofList cs) = cs.flatMap String.utf8EncodeChar := by
  simp [text, List.utf8Encode]

theorem text_injective : Function.Injective text := by
  intro a b h
  exact String.toByteArray_inj.mp (ByteArray.ext (Array.toList_inj.mp h))

theorem base32_digit_length (n : Nat) :
    (String.utf8EncodeChar ((base32Alphabet[n]?).getD 'a')).length = 1 := by
  have hall : base32Alphabet.all fun c => (String.utf8EncodeChar c).length == 1 := by decide
  cases hn : base32Alphabet[n]? with
  | none => decide
  | some c => exact eq_of_beq (List.all_eq_true.mp hall c (List.mem_of_getElem? hn))

theorem resourceName_length (h : UInt64) : (text (resourceName h)).length = 18 := by
  unfold resourceName encodeUint64Base32
  rw [text_append, List.length_append, String.toList_ofList, ← List.map_drop,
    text_ofList (List.map _ _), List.length_flatMap, List.map_map]
  have hdigits : ((List.range 13).drop 8).map ((fun c => (String.utf8EncodeChar c).length) ∘
      fun i => (base32Alphabet[h.toNat * 2 / 32 ^ (12 - i) % 32]?).getD 'a') =
      ((List.range 13).drop 8).map fun _ => 1 :=
    List.map_congr_left fun i _ => base32_digit_length _
  rw [hdigits]
  decide

/-! ## Block devices -/

theorem foldl_insert_device (m : BlockDevices) (bdms : List BlockDeviceMapping)
    (h : (bdms.foldl (fun m b => m.insert b.device b) m).lookup device = some bdm) :
    m.lookup device = some bdm ∨ bdm ∈ bdms ∧ bdm.device = device := by
  induction bdms generalizing m with
  | nil => exact .inl h
  | cons b bdms ih =>
    rcases ih _ h with hm | ⟨hmem, hdevice⟩
    · by_cases hd : device = b.device
      · subst hd
        rw [Finmap.lookup_insert] at hm
        cases hm
        exact .inr ⟨.head _, rfl⟩
      · rw [Finmap.lookup_insert_of_ne _ hd] at hm
        exact .inl hm
    · exact .inr ⟨.tail _ hmem, hdevice⟩

theorem mem_of_associate (h : (associateDevices bdms).lookup device = some bdm) :
    bdm ∈ bdms ∧ bdm.device = device := by
  rcases foldl_insert_device ∅ bdms h with hnone | hmem
  · cases hnone
  · exact hmem

theorem foldl_insert_isSome (m : BlockDevices) (bdms : List BlockDeviceMapping)
    (h : (m.lookup device).isSome ∨ ∃ b ∈ bdms, b.device = device) :
    ((bdms.foldl (fun m b => m.insert b.device b) m).lookup device).isSome := by
  induction bdms generalizing m with
  | nil =>
    rcases h with h | ⟨b, hb, -⟩
    · exact h
    · cases hb
  | cons b bdms ih =>
    refine ih _ ?_
    by_cases hd : device = b.device
    · subst hd
      exact .inl (by rw [Finmap.lookup_insert]; rfl)
    · rw [Finmap.lookup_insert_of_ne _ hd]
      rcases h with h | ⟨b', hb', rfl⟩
      · exact .inl h
      · rcases List.mem_cons.mp hb' with rfl | hb'
        · exact absurd rfl hd
        · exact .inr ⟨b', hb', rfl⟩

theorem exists_associate
    (h : bdm ∈ bdms) : ∃ b, (associateDevices bdms).lookup bdm.device = some b :=
  Option.isSome_iff_exists.mp (foldl_insert_isSome ∅ bdms (.inr ⟨bdm, h, rfl⟩))

theorem associate_iff
    (h : ∀ a ∈ bdms, ∀ b ∈ bdms, a.device = b.device → a = b) (bdm : BlockDeviceMapping) :
    (associateDevices bdms).lookup bdm.device = some bdm ↔ bdm ∈ bdms := by
  refine ⟨fun hlookup => (mem_of_associate hlookup).1, fun hmem => ?_⟩
  obtain ⟨b, hb⟩ := exists_associate hmem
  obtain ⟨hbmem, hdevice⟩ := mem_of_associate hb
  rw [hb, h b hbmem bdm hmem hdevice]

theorem associate_eq
    (h : ∀ bdm, (associateDevices bdms).lookup bdm.device = some bdm ↔ bdm ∈ bdms') :
    associateDevices bdms' = associateDevices bdms ∧
      ∀ a ∈ bdms', ∀ b ∈ bdms', a.device = b.device → a = b := by
  have hunique : ∀ a ∈ bdms', ∀ b ∈ bdms', a.device = b.device → a = b := by
    intro a ha b hb hdevice
    have hlookup := (h a).mpr ha
    rw [hdevice, (h b).mpr hb] at hlookup
    exact (Option.some.inj hlookup).symm
  refine ⟨Finmap.ext_lookup fun device => ?_, hunique⟩
  ext bdm
  constructor
  · intro hlookup
    obtain ⟨hmem, rfl⟩ := mem_of_associate hlookup
    exact (h bdm).mpr hmem
  · intro hlookup
    obtain ⟨-, rfl⟩ := mem_of_associate hlookup
    exact (associate_iff hunique bdm).mpr ((h bdm).mp hlookup)

/-! ## What merging keeps -/

theorem addAll_eq (calls : List NodePoolsSetAddParams) : NodePoolsSet.addAll calls =
      { ec2NodeClasses := calls.foldl (Upsert.upsert classRule) ∅
        nodePools := calls.foldl (Upsert.upsert poolRule) ∅ } := by
  suffices h : ∀ nps : NodePoolsSet, calls.foldl NodePoolsSet.add nps =
      { ec2NodeClasses := calls.foldl (Upsert.upsert classRule) nps.ec2NodeClasses
        nodePools := calls.foldl (Upsert.upsert poolRule) nps.nodePools } from h {}
  induction calls with
  | nil => exact fun _ => rfl
  | cons p calls ih => exact fun nps => ih (nps.add p)

structure HasFields (nc : EC2NodeClass) (p : NodePoolsSetAddParams) : Prop where
  name : nc.name = resourceName p.classHash
  amiFamily : nc.amiFamily = p.amiFamily
  securityGroupIDs : nc.securityGroupIDs = p.securityGroupIDs.toFinset
  metadataOptions : nc.metadataOptions = p.metadataOptions
  blockDeviceMappings : nc.blockDeviceMappings = associateDevices p.blockDeviceMappings

structure HasLabels (np : NodePool) (p : NodePoolsSetAddParams) : Prop where
  ec2NodeClass : np.ec2NodeClass = resourceName p.classHash
  labels : np.labels = sanitizeLabels p.labels
  taints : np.taints = p.taints.toFinset

structure Collected (np : NodePool) (zones architectures capacityTypes : Finset String) : Prop where
  zones : zones ⊆ np.zones
  architectures : architectures ⊆ np.architectures
  capacityTypes : capacityTypes ⊆ np.capacityTypes

section
variable {calls : List NodePoolsSetAddParams} {p q : NodePoolsSetAddParams}

theorem class_entry {h : UInt64} {nc : EC2NodeClass}
    (hlookup : (NodePoolsSet.addAll calls).ec2NodeClasses.lookup h = some nc) :
    ∃ p ∈ calls, p.classHash = h ∧ HasFields nc p ∧
      ∀ q ∈ calls, q.classHash = h → q.subnetIDs.toFinset ⊆ nc.subnetIDs := by
  rw [addAll_eq] at hlookup
  refine Upsert.lookup_foldl_rule (F := fun p nc => HasFields nc p)
    (R := fun q nc => q.subnetIDs.toFinset ⊆ nc.subnetIDs) ?_ ?_ ?_ ?_ hlookup
  · exact fun _ => ⟨⟨rfl, rfl, rfl, rfl, rfl⟩, subset_rfl⟩
  · exact fun _ _ _ h =>
      ⟨h.name, h.amiFamily, h.securityGroupIDs, h.metadataOptions, h.blockDeviceMappings⟩
  · exact fun _ _ _ h => h.trans Finset.subset_union_left
  · exact fun _ _ => Finset.subset_union_right

theorem pool_entry {h : UInt64} {np : NodePool}
    (hlookup : (NodePoolsSet.addAll calls).nodePools.lookup h = some np) :
    ∃ p ∈ calls, p.poolHash = h ∧ HasLabels np p ∧
      ∀ q ∈ calls, q.poolHash = h → Collected np q.zones.toFinset (optional q.architecture)
        {q.capacityType} := by
  rw [addAll_eq] at hlookup
  refine Upsert.lookup_foldl_rule (F := fun p np => HasLabels np p) (R := fun q np =>
    Collected np q.zones.toFinset (optional q.architecture) {q.capacityType}) ?_ ?_ ?_ ?_ hlookup
  · exact fun _ => ⟨⟨rfl, rfl, rfl⟩, subset_rfl, subset_rfl, subset_rfl⟩
  · exact fun _ _ _ h => ⟨h.ec2NodeClass, h.labels, h.taints⟩
  · exact fun _ _ _ h => ⟨h.zones.trans Finset.subset_union_left,
      h.architectures.trans Finset.subset_union_left, h.capacityTypes.trans Finset.subset_union_left⟩
  · exact fun _ _ => ⟨Finset.subset_union_right, Finset.subset_union_right, Finset.subset_union_right⟩

theorem exists_class (hp : p ∈ calls) :
    ∃ nc, (NodePoolsSet.addAll calls).ec2NodeClasses.lookup p.classHash = some nc := by
  rw [addAll_eq]
  exact Upsert.exists_lookup_foldl (r := classRule) hp

theorem exists_pool (hp : p ∈ calls) :
    ∃ np, (NodePoolsSet.addAll calls).nodePools.lookup p.poolHash = some np := by
  rw [addAll_eq]
  exact Upsert.exists_lookup_foldl (r := poolRule) hp

/-! ## From the bytes to the set -/

theorem NoCollisions.class_bytes (h : NoCollisions calls) (hp : p ∈ calls) (hq : q ∈ calls)
    (heq : p.classHash = q.classHash) : p.unnamedClass.written = q.unnamedClass.written :=
  (h p hp q hq).1 (by rw [heq])

theorem NoCollisions.pool_bytes (h : NoCollisions calls) (hp : p ∈ calls) (hq : q ∈ calls)
    (heq : p.poolHash = q.poolHash) : p.unnamedPool.written = q.unnamedPool.written :=
  (h p hp q hq).2 (by rw [heq])

theorem className_of_pool_bytes (h : p.unnamedPool.written = q.unnamedPool.written) :
    resourceName p.classHash = resourceName q.classHash := by
  unfold NodePool.written at h
  simp only [List.append_assoc] at h
  have hlength : (text p.unnamedPool.ec2NodeClass).length =
      (text q.unnamedPool.ec2NodeClass).length :=
    (resourceName_length p.classHash).trans (resourceName_length q.classHash).symm
  exact text_injective (List.append_inj h hlength).1

theorem Decodable.kept (h : Decodable calls) (hinj : NoCollisions calls) (hp : p ∈ calls) :
    Kept (NodePoolsSet.addAll calls) p := by
  obtain ⟨nc, hnc⟩ := exists_class hp
  obtain ⟨np, hnp⟩ := exists_pool hp
  obtain ⟨c, hc, hch, hfields, hsubnets⟩ := class_entry hnc
  obtain ⟨l, hl, hlh, hlabels, hcollected⟩ := pool_entry hnp
  have hbytes := hinj.pool_bytes hl hp hlh
  have hsame := h.classes c hc p hp (hinj.class_bytes hc hp hch)
  obtain ⟨hsameLabels, hsameTaints⟩ := h.pools l hl p hp hbytes
  have hcl := hcollected p hp rfl
  refine ⟨np, nc, ⟨_, hnp⟩, ⟨_, hnc⟩, ?_, hlabels.labels.trans hsameLabels,
    hlabels.taints.trans hsameTaints, hfields.amiFamily.trans hsame.amiFamily,
    hfields.securityGroupIDs.trans hsame.securityGroupIDs,
    hfields.metadataOptions.trans hsame.metadataOptions, fun bdm => ?_, hcl.zones,
    hcl.architectures, hcl.capacityTypes (Finset.mem_singleton_self _), hsubnets p hp rfl⟩
  · rw [hfields.name, hlabels.ec2NodeClass, className_of_pool_bytes hbytes, hch]
  · rw [hfields.blockDeviceMappings, hsame.blockDeviceMappings]
    exact associate_iff (h.devices p hp) bdm

theorem SameClass.nodeClass (h : SameClass p q) (heq : p.classHash = q.classHash) :
    { p.nodeClass with amiIDs := ∅, subnetIDs := ∅ } =
      { q.nodeClass with amiIDs := ∅, subnetIDs := ∅ } := by
  unfold NodePoolsSetAddParams.nodeClass NodePoolsSetAddParams.unnamedClass
  dsimp only
  rw [heq, h.amiFamily, h.securityGroupIDs, h.metadataOptions, h.blockDeviceMappings]

theorem Decodable.class_exchanges (h : Decodable calls) (hinj : NoCollisions calls)
    (hp : p ∈ calls) (hq : q ∈ calls) : classRule.Exchanges p q := by
  intro heq
  have hsame := h.classes p hp q hq (hinj.class_bytes hp hq heq)
  have hfields : p.nodeClass = { q.nodeClass with
      amiIDs := p.nodeClass.amiIDs, subnetIDs := p.nodeClass.subnetIDs } :=
    congrArg (fun n : EC2NodeClass => { n with
      amiIDs := p.nodeClass.amiIDs, subnetIDs := p.nodeClass.subnetIDs })
      (hsame.nodeClass heq)
  refine ⟨?_, fun v => ?_⟩
  · simp only [classRule]
    rw [hfields]
    exact congrArg₂ (fun a s => { q.nodeClass with amiIDs := a, subnetIDs := s })
      (Finset.union_comm _ _) (Finset.union_comm _ _)
  · simp only [classRule, Finset.union_right_comm]

theorem Decodable.pool_exchanges (h : Decodable calls) (hinj : NoCollisions calls)
    (hp : p ∈ calls) (hq : q ∈ calls) : poolRule.Exchanges p q := by
  intro heq
  have hbytes := hinj.pool_bytes hp hq heq
  obtain ⟨hlabels, htaints⟩ := h.pools p hp q hq hbytes
  have hclass : p.nodeClass.name = q.nodeClass.name := className_of_pool_bytes hbytes
  have hhash : p.poolHash = q.poolHash := heq
  refine ⟨?_, fun v => ?_⟩
  · simp only [poolRule, NodePoolsSetAddParams.nodePool, NodePoolsSetAddParams.unnamedPool,
      hlabels, htaints, hclass, hhash, NodePool.mk.injEq, true_and]
    exact ⟨Finset.union_comm _ _, Finset.union_comm _ _, Finset.union_comm _ _,
      Finset.union_comm _ _⟩
  · simp only [poolRule, Finset.union_right_comm]

theorem Decodable.addAll_perm (h : Decodable calls) (hinj : NoCollisions calls)
    (hperm : calls'.Perm calls) :
    NodePoolsSet.addAll calls' = NodePoolsSet.addAll calls := by
  rw [addAll_eq, addAll_eq, Upsert.foldl_perm hperm fun p hp q hq => h.class_exchanges hinj hp hq,
    Upsert.foldl_perm hperm fun p hp q hq => h.pool_exchanges hinj hp hq]

/-! ## From the set to the bytes -/

theorem SameClass.written (h : SameClass p q) : p.unnamedClass.written = q.unnamedClass.written := by
  unfold EC2NodeClass.written NodePoolsSetAddParams.unnamedClass
  dsimp only
  rw [h.amiFamily, h.securityGroupIDs, h.metadataOptions, h.blockDeviceMappings]

theorem KeptBy.class_lookup (h : KeptBy (NodePoolsSet.addAll calls) p np nc) :
    (NodePoolsSet.addAll calls).ec2NodeClasses.lookup p.classHash = some nc ∧ HasFields nc p ∧
      ∀ a ∈ p.blockDeviceMappings, ∀ b ∈ p.blockDeviceMappings, a.device = b.device → a = b := by
  obtain ⟨hash, hlookup⟩ := h.class_
  obtain ⟨c, -, rfl, hfields, -⟩ := class_entry hlookup
  have hdevices := h.blockDevices
  rw [hfields.blockDeviceMappings] at hdevices
  obtain ⟨hassociate, hunique⟩ := associate_eq hdevices
  have hsame : SameClass c p :=
    ⟨hfields.amiFamily.symm.trans h.amiFamily,
      hfields.securityGroupIDs.symm.trans h.securityGroupIDs,
      hfields.metadataOptions.symm.trans h.metadataOptions, hassociate.symm⟩
  have hhash : c.classHash = p.classHash := congrArg sum64 hsame.written
  rw [← hhash]
  refine ⟨hlookup, ⟨hhash ▸ hfields.name, h.amiFamily, h.securityGroupIDs, h.metadataOptions, ?_⟩,
    hunique⟩
  rw [hfields.blockDeviceMappings, hassociate]

theorem KeptBy.pool_lookup (h : KeptBy (NodePoolsSet.addAll calls) p np nc) :
    (NodePoolsSet.addAll calls).nodePools.lookup p.poolHash = some np := by
  obtain ⟨hash, hlookup⟩ := h.pool
  obtain ⟨l, -, rfl, hlabels, -⟩ := pool_entry hlookup
  have hclass : l.nodeClass.name = p.nodeClass.name :=
    hlabels.ec2NodeClass.symm.trans (h.named.symm.trans h.class_lookup.2.1.name)
  have hwritten : l.unnamedPool.written = p.unnamedPool.written := by
    unfold NodePool.written NodePoolsSetAddParams.unnamedPool
    dsimp only
    rw [hclass, hlabels.labels.symm.trans h.labels, hlabels.taints.symm.trans h.taints]
  have hhash : l.poolHash = p.poolHash := congrArg sum64 hwritten
  rw [← hhash]
  exact hlookup

theorem decodable_of_kept (h : ∀ p ∈ calls, Kept (NodePoolsSet.addAll calls) p) :
    Decodable calls where
  classes p hp q hq hbytes := by
    obtain ⟨np, nc, hkept⟩ := h p hp
    obtain ⟨np', nc', hkept'⟩ := h q hq
    have hhash : p.classHash = q.classHash := congrArg sum64 hbytes
    have hsame := hkept'.class_lookup.1
    rw [← hhash, hkept.class_lookup.1] at hsame
    cases hsame
    have hp' := hkept.class_lookup.2.1
    have hq' := hkept'.class_lookup.2.1
    exact ⟨hp'.amiFamily.symm.trans hq'.amiFamily,
      hp'.securityGroupIDs.symm.trans hq'.securityGroupIDs,
      hp'.metadataOptions.symm.trans hq'.metadataOptions,
      hp'.blockDeviceMappings.symm.trans hq'.blockDeviceMappings⟩
  pools p hp q hq hbytes := by
    obtain ⟨np, nc, hkept⟩ := h p hp
    obtain ⟨np', nc', hkept'⟩ := h q hq
    have hhash : p.poolHash = q.poolHash := congrArg sum64 hbytes
    have hsame := hkept'.pool_lookup
    rw [← hhash, hkept.pool_lookup] at hsame
    cases hsame
    exact ⟨hkept.labels.symm.trans hkept'.labels, hkept.taints.symm.trans hkept'.taints⟩
  devices p hp := by
    obtain ⟨np, nc, hkept⟩ := h p hp
    exact hkept.class_lookup.2.2

/-- Every call is kept and the order is irrelevant, if and only if the bytes
tell the calls apart. -/
theorem calls_are_kept_iff (calls : List NodePoolsSetAddParams) (hinj : NoCollisions calls) :
    ((∀ p ∈ calls, Kept (NodePoolsSet.addAll calls) p) ∧
        ∀ calls' : List NodePoolsSetAddParams, calls'.Perm calls →
          NodePoolsSet.addAll calls' = NodePoolsSet.addAll calls) ↔
      Decodable calls := by
  refine ⟨fun h => decodable_of_kept h.1, fun h => ⟨fun p hp => h.kept hinj hp, ?_⟩⟩
  intro calls' hperm
  exact h.addAll_perm hinj hperm

end

-- Nodes with one label each.

def labelledNode (key value : String) : NodePoolsSetAddParams where
  amiFamily := "AL2023"
  securityGroupIDs := ["sg-1"]
  labels := (∅ : Annotations).insert key value
  zones := ["us-east-1a"]
  capacityType := "on-demand"

theorem two_pools_are_kept : let calls := [labelledNode "pool" "a1", labelledNode "pool" "b1"]
    NoCollisions calls ∧ (∀ p ∈ calls, Kept (NodePoolsSet.addAll calls) p) ∧
      ∀ calls' : List NodePoolsSetAddParams, calls'.Perm calls →
        NodePoolsSet.addAll calls' = NodePoolsSet.addAll calls := by
  have hinj : NoCollisions [labelledNode "pool" "a1", labelledNode "pool" "b1"] := by
    decide +kernel
  exact ⟨hinj, (calls_are_kept_iff _ hinj).mpr (by decide +kernel)⟩

/-- `pool=a1` and `poola=1` are written as the same bytes: there is one pool,
with the labels of whichever node came first. -/
theorem pool_labels_are_merged : let first := labelledNode "pool" "a1"
    let second := labelledNode "poola" "1"
    NoCollisions [first, second] ∧ (NodePoolsSet.addAll [first, second]).nodePools.keys.card = 1 ∧
      ((NodePoolsSet.addAll [first, second]).nodePools.lookup second.poolHash).map
        (fun np => np.labels) = some first.labels ∧
      ((NodePoolsSet.addAll [second, first]).nodePools.lookup second.poolHash).map
        (fun np => np.labels) = some second.labels ∧
      first.labels ≠ second.labels ∧ ¬Kept (NodePoolsSet.addAll [first, second]) second := by
  have hlabels : ((NodePoolsSet.addAll [labelledNode "pool" "a1",
      labelledNode "poola" "1"]).nodePools.lookup (labelledNode "poola" "1").poolHash).map
      (fun np => np.labels) = some (labelledNode "pool" "a1").labels := by decide +kernel
  refine ⟨by decide +kernel, by decide +kernel, hlabels, by decide +kernel, by decide +kernel, ?_⟩
  rintro ⟨np, nc, h⟩
  rw [h.pool_lookup, Option.map_some, h.labels] at hlabels
  exact absurd (Option.some.inj hlabels) (by decide +kernel)

end DatadogOperator.Autoscaling
