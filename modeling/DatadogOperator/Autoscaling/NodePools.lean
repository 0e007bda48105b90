import DatadogOperator.Lib.Upsert
import DatadogOperator.Snapshot
import Mathlib.Data.Prod.Lex
import Mathlib.Data.String.Basic

/-!
# Node pools made from nodes

`NodePoolsSet` of `common/karpenter/nodepoolsset.go` groups what it is given
into EC2 node classes and node pools. A class or a pool is known by the FNV-1
hash of the fields it must have; subnets, images, zones, architectures, instance
families and capacity types are collected. Go maps to `struct{}` are finite sets.
-/

namespace DatadogOperator.Autoscaling

/-! ## Hashing -/

abbrev Bytes := List UInt8

/-- `[]byte(s)`. -/
def text (s : String) : Bytes := s.toUTF8.data.toList

/-- A nil string is written as the empty one. -/
def optText (s : Option String) : Bytes := text (s.getD "")

def bigEndian (width n : Nat) : Bytes :=
  (List.range width).map fun i => UInt8.ofNat (n / 256 ^ (width - 1 - i) % 256)

/-- `uint32(len(x))`. -/
def count (n : Nat) : Bytes := bigEndian 4 (n % 2 ^ 32)

def optInt64 (x : Option Int64) : Bytes := bigEndian 8 (x.getD 0).toUInt64.toNat

def flag (b : Bool) : Bytes := [if b then 1 else 0]

/-- `fnv.New64`: FNV-1, 64 bit. Proofs never look inside. -/
@[irreducible]
def sum64 (bytes : Bytes) : UInt64 :=
  bytes.foldl (fun h b => (h * 1099511628211) ^^^ b.toUInt64) 14695981039346656037

def base32Alphabet : List Char := "abcdefghijklmnopqrstuvwxyz234567".toList

/-- Eight bytes are thirteen digits; the last one holds four bits and a zero. -/
def encodeUint64Base32 (n : UInt64) : String :=
  String.ofList <| (List.range 13).map fun i =>
    (base32Alphabet[n.toNat * 2 / 32 ^ (12 - i) % 32]?).getD 'a'

def resourceName (h : UInt64) : String :=
  "dd-karpenter-" ++ String.ofList ((encodeUint64Base32 h).toList.drop 8)

/-! ## Node classes and node pools -/

/-- Of a `corev1.Taint`, what is kept. -/
structure Taint where
  key : String
  value : String := ""
  effect : String
  deriving DecidableEq

def Taint.sortKey (t : Taint) : String ×ₗ String ×ₗ String :=
  toLex (t.key, toLex (t.value, t.effect))

theorem Taint.sortKey_injective : Function.Injective Taint.sortKey := by
  rintro ⟨k, v, e⟩ ⟨k', v', e'⟩ h
  obtain ⟨rfl, h⟩ := Prod.mk.inj (toLex.injective h)
  obtain ⟨rfl, rfl⟩ := Prod.mk.inj (toLex.injective h)
  rfl

/-- The order of `compareTaints`. -/
instance : LinearOrder Taint := LinearOrder.lift' Taint.sortKey Taint.sortKey_injective

def Taint.written (t : Taint) : Bytes := text t.key ++ text t.value ++ text t.effect

structure MetadataOptions where
  httpEndpoint : Option String := none
  httpTokens : Option String := none
  httpPutResponseHopLimit : Option Int64 := none
  httpProtocolIPv6 : Option String := none
  deriving DecidableEq

def MetadataOptions.written (mo : MetadataOptions) : Bytes :=
  optText mo.httpEndpoint ++ optText mo.httpTokens ++ optInt64 mo.httpPutResponseHopLimit ++
    optText mo.httpProtocolIPv6

structure BlockDeviceMapping where
  deviceName : Option String := none
  rootVolume : Bool := false
  volumeSize : Option String := none
  volumeType : Option String := none
  iops : Option Int64 := none
  throughput : Option Int64 := none
  encrypted : Option Bool := none
  deleteOnTermination : Option Bool := none
  kmsKeyID : Option String := none
  snapshotID : Option String := none
  deriving DecidableEq

def BlockDeviceMapping.device (bdm : BlockDeviceMapping) : String := bdm.deviceName.getD ""

def BlockDeviceMapping.written (bdm : BlockDeviceMapping) : Bytes :=
  optText bdm.deviceName ++ flag bdm.rootVolume ++ optText bdm.volumeSize ++
    optText bdm.volumeType ++ optInt64 bdm.iops ++ optInt64 bdm.throughput ++
    flag (bdm.encrypted.getD false) ++ flag (bdm.deleteOnTermination.getD false) ++
    optText bdm.kmsKeyID ++ optText bdm.snapshotID

abbrev BlockDevices := Finmap fun _ : String => BlockDeviceMapping

/-- `lo.Associate` by device name: the last one stays. -/
def associateDevices (bdms : List BlockDeviceMapping) : BlockDevices :=
  bdms.foldl (fun m bdm => m.insert bdm.device bdm) ∅

structure EC2NodeClass where
  name : String
  amiFamily : String
  amiIDs : Finset String
  subnetIDs : Finset String
  securityGroupIDs : Finset String
  metadataOptions : Option MetadataOptions
  blockDeviceMappings : BlockDevices

/-- What `sum64` writes: not the name, the images and the subnets. -/
def EC2NodeClass.written (nc : EC2NodeClass) : Bytes :=
  text nc.amiFamily ++ count nc.securityGroupIDs.card ++ nc.securityGroupIDs.sorted.flatMap text ++
    flag nc.metadataOptions.isSome ++ (nc.metadataOptions.map MetadataOptions.written).getD [] ++
    count nc.blockDeviceMappings.keys.card ++ nc.blockDeviceMappings.keys.sorted.flatMap fun device =>
      ((nc.blockDeviceMappings.lookup device).map BlockDeviceMapping.written).getD []

structure NodePool where
  name : String
  ec2NodeClass : String
  labels : Annotations
  taints : Finset Taint
  architectures : Finset String
  zones : Finset String
  instanceFamilies : Finset String
  capacityTypes : Finset String

/-- What `sum64` writes: the class by its name, the labels and the taints. -/
def NodePool.written (np : NodePool) : Bytes :=
  text np.ec2NodeClass ++ count np.labels.keys.card ++
    (np.labels.keys.sorted.flatMap fun k => text k ++ text (np.labels.get k)) ++
    count np.taints.card ++ np.taints.sorted.flatMap Taint.written

/-! ## Adding -/

structure NodePoolsSetAddParams where
  amiFamily : String := ""
  amiID : String := ""
  subnetIDs : List String := []
  securityGroupIDs : List String := []
  metadataOptions : Option MetadataOptions := none
  blockDeviceMappings : List BlockDeviceMapping := []
  labels : Annotations := ∅
  taints : List Taint := []
  architecture : String := ""
  zones : List String := []
  instanceTypes : List String := []
  capacityType : String := ""

def sanitizedPrefixes : List String :=
  ["alpha.eksctl.io/", "beta.kubernetes.io/", "eks.amazonaws.com/",
    "failure-domain.beta.kubernetes.io/", "k8s.io/", "kubernetes.io/", "node.kubernetes.io/",
    "topology.k8s.aws/", "topology.kubernetes.io/"]

def sanitizeLabels (labels : Annotations) : Annotations :=
  labels.filterKeys fun key => !sanitizedPrefixes.any (hasPrefix key)

/-- The part of each type before the first dot, if there is any. -/
def extractInstanceFamilies (instanceTypes : List String) : Finset String :=
  ((instanceTypes.map fun t => String.ofList (t.toList.takeWhile (· ≠ '.'))).filter
    (· ≠ "")).toFinset

def optional (s : String) : Finset String := if s ≠ "" then {s} else ∅

namespace NodePoolsSetAddParams

variable (p : NodePoolsSetAddParams)

def unnamedClass : EC2NodeClass where
  name := ""
  amiFamily := p.amiFamily
  amiIDs := optional p.amiID
  subnetIDs := p.subnetIDs.toFinset
  securityGroupIDs := p.securityGroupIDs.toFinset
  metadataOptions := p.metadataOptions
  blockDeviceMappings := associateDevices p.blockDeviceMappings

def classHash : UInt64 := sum64 p.unnamedClass.written

def nodeClass : EC2NodeClass := { p.unnamedClass with name := resourceName p.classHash }

def unnamedPool : NodePool where
  name := ""
  ec2NodeClass := p.nodeClass.name
  labels := sanitizeLabels p.labels
  taints := p.taints.toFinset
  architectures := optional p.architecture
  zones := p.zones.toFinset
  instanceFamilies := extractInstanceFamilies p.instanceTypes
  capacityTypes := {p.capacityType}

def poolHash : UInt64 := sum64 p.unnamedPool.written

def nodePool : NodePool := { p.unnamedPool with name := resourceName p.poolHash }

end NodePoolsSetAddParams

/-- A class that is there already gets the image and the subnets. -/
def classRule : Upsert.Rule UInt64 EC2NodeClass NodePoolsSetAddParams where
  key p := p.classHash
  fresh p := p.nodeClass
  merge n p := { n with
    amiIDs := n.amiIDs ∪ optional p.amiID
    subnetIDs := n.subnetIDs ∪ p.subnetIDs.toFinset }

def poolRule : Upsert.Rule UInt64 NodePool NodePoolsSetAddParams where
  key p := p.poolHash
  fresh p := p.nodePool
  merge n p := { n with
    architectures := n.architectures ∪ optional p.architecture
    zones := n.zones ∪ p.zones.toFinset
    instanceFamilies := n.instanceFamilies ∪ extractInstanceFamilies p.instanceTypes
    capacityTypes := n.capacityTypes ∪ {p.capacityType} }

structure NodePoolsSet where
  ec2NodeClasses : Finmap (fun _ : UInt64 => EC2NodeClass) := ∅
  nodePools : Finmap (fun _ : UInt64 => NodePool) := ∅

def NodePoolsSet.add (nps : NodePoolsSet) (p : NodePoolsSetAddParams) : NodePoolsSet where
  ec2NodeClasses := Upsert.upsert classRule nps.ec2NodeClasses p
  nodePools := Upsert.upsert poolRule nps.nodePools p

def NodePoolsSet.addAll (calls : List NodePoolsSetAddParams) : NodePoolsSet :=
  calls.foldl NodePoolsSet.add {}

-- The names that the tests of the source expect.
example :
    let p : NodePoolsSetAddParams :=
      { amiFamily := "AL2", securityGroupIDs := ["sg-01dfd3789be8c5315", "sg-0d4942a5188f41a42"],
        labels := (∅ : Annotations).insert "app" "web", taints := [⟨"app", "web", "NoSchedule"⟩],
        capacityType := "on-demand" }
    p.nodeClass.name = "dd-karpenter-obxiu" ∧ p.nodePool.name = "dd-karpenter-wtyrq" := by
  decide +kernel

end DatadogOperator.Autoscaling
