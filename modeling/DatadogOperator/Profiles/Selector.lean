import DatadogOperator.Api

/-!
# Node selectors

Requirements on node labels, as profiles state them, and what Kubernetes makes
of them: `labels.NewRequirement` checks a requirement and `Requirement.Matches`
decides it. Above them node selectors, their terms and the node affinity of a
pod, with `MergeAffinities` of `common/affinity.go`.
-/

namespace DatadogOperator.Profiles

abbrev Labels := Finmap fun _ : String => String

/-- `selection.Operator`, as far as node selectors use it. -/
inductive Operator
  | opIn
  | opNotIn
  | opExists
  | opDoesNotExist
  | opGt
  | opLt
  deriving DecidableEq

inductive NodeSelectorOperator
  | known (op : Operator)
  | unknown (text : String)
  deriving DecidableEq

structure NodeSelectorRequirement where
  key : String
  operator : NodeSelectorOperator
  values : List String := []
  deriving DecidableEq

/-- The operator of another text is the empty one. -/
def nodeSelectorOperatorToSelectionOperator : NodeSelectorOperator → Option Operator
  | .known op => some op
  | .unknown _ => none

/-! ## Requirements -/

/-- `strconv.ParseInt(s, 10, 64)`. -/
def parseInt (s : String) : Option Int :=
  let (negative, digits) := match s.toList with
    | '-' :: digits => (true, digits)
    | '+' :: digits => (false, digits)
    | digits => (false, digits)
  if digits.isEmpty || !digits.all Char.isDigit then none
  else
    let n : Int := digits.foldl (fun acc c => 10 * acc + (c.toNat - '0'.toNat)) 0
    let value := if negative then -n else n
    if -2 ^ 63 ≤ value ∧ value < 2 ^ 63 then some value else none

/-- Letters and digits at both ends, between them also dashes, underscores and dots. -/
def isLabelText (cs : List Char) : Bool :=
  cs.length ≤ 63 && cs.head?.any Char.isAlphanum && cs.getLast?.any Char.isAlphanum &&
    cs.all fun c => c.isAlphanum || c == '-' || c == '_' || c == '.'

def isDNS1123Label (cs : List Char) : Bool :=
  let inner (c : Char) := c.isLower || c.isDigit
  cs.head?.any inner && cs.getLast?.any inner && cs.all fun c => inner c || c == '-'

/-- `validation.IsQualifiedName`: a name, after a DNS subdomain and a slash or alone. -/
def isQualifiedName (key : String) : Bool :=
  match key.toList.splitOn '/' with
  | [name] => isLabelText name
  | [domain, name] =>
    domain.length ≤ 253 && (domain.splitOn '.').all isDNS1123Label && isLabelText name
  | _ => false

def isValidLabelValue (value : String) : Bool := value.isEmpty || isLabelText value.toList

inductive RequirementError
  | key (text : String)
  | noValues
  | someValues
  | notOneValue
  | notInteger (text : String)
  | operator
  | value (text : String)
  deriving DecidableEq

/-- `labels.Requirement`. -/
structure Requirement where
  key : String
  operator : Operator
  strValues : List String
  deriving DecidableEq

/-- `labels.NewRequirement`: every check is made, and all errors are returned. -/
def newRequirement (key : String) (op : Option Operator) (values : List String) :
    Except (List RequirementError) Requirement :=
  let keyErrors := if isQualifiedName key then [] else [.key key]
  let valueErrors := (values.filter fun v => !isValidLabelValue v).map .value
  match op with
  | none => .error (keyErrors ++ [.operator] ++ valueErrors)
  | some op =>
    let opErrors : List RequirementError := match op with
      | .opIn | .opNotIn => if values.isEmpty then [.noValues] else []
      | .opExists | .opDoesNotExist => if values.isEmpty then [] else [.someValues]
      | .opGt | .opLt => (if values.length = 1 then [] else [.notOneValue]) ++
          (values.filter fun v => (parseInt v).isNone).map .notInteger
    match keyErrors ++ opErrors ++ valueErrors with
    | [] => .ok { key, operator := op, strValues := values }
    | errors => .error errors

/-- `Requirement.Matches`. -/
def Requirement.matches (r : Requirement) (labels : Labels) : Bool :=
  let compared (p : Int → Int → Bool) : Bool :=
    match (labels.lookup r.key).bind parseInt, r.strValues with
    | some value, [text] => (parseInt text).any (p value)
    | _, _ => false
  match r.operator with
  | .opIn => (labels.lookup r.key).any (r.strValues.contains ·)
  | .opNotIn => (labels.lookup r.key).all (!r.strValues.contains ·)
  | .opExists => (labels.lookup r.key).isSome
  | .opDoesNotExist => (labels.lookup r.key).isNone
  | .opGt => compared fun value bound => decide (value > bound)
  | .opLt => compared fun value bound => decide (value < bound)

def NodeSelectorRequirement.parse (r : NodeSelectorRequirement) :
    Except (List RequirementError) Requirement :=
  newRequirement r.key (nodeSelectorOperatorToSelectionOperator r.operator) r.values

/-- The loop of `parseProfileRequirements`: the first bad requirement ends it. -/
def parseRequirements (requirements : List NodeSelectorRequirement) :
    Except (List RequirementError) (List Requirement) :=
  requirements.mapM NodeSelectorRequirement.parse

def profileMatchesNodeWithRequirements (requirements : List Requirement) (nodeLabels : Labels) :
    Bool :=
  requirements.isEmpty || requirements.all (·.matches nodeLabels)

/-! ## Node affinity -/

structure NodeSelectorTerm where
  matchExpressions : List NodeSelectorRequirement := []
  matchFields : List NodeSelectorRequirement := []
  deriving DecidableEq

structure NodeSelector where
  nodeSelectorTerms : List NodeSelectorTerm
  deriving DecidableEq

structure NodeAffinity where
  required : Option NodeSelector := none
  /-- Weights and terms. -/
  preferred : List (Int × NodeSelectorTerm) := []
  deriving DecidableEq

structure PodAffinityTerm where
  matchExpressions : List NodeSelectorRequirement
  topologyKey : String
  deriving DecidableEq

/-- `PodAffinity`, and `PodAntiAffinity` as well. -/
structure PodAffinity where
  required : List PodAffinityTerm := []
  preferred : List (Int × PodAffinityTerm) := []
  deriving DecidableEq

structure Affinity where
  nodeAffinity : Option NodeAffinity := none
  podAffinity : Option PodAffinity := none
  podAntiAffinity : Option PodAffinity := none
  deriving DecidableEq

/-- Two pointers: the one that is set, or both merged. -/
def mergePointers (merge : α → α → α) : Option α → Option α → Option α
  | none, second => second
  | first, none => first
  | some first, some second => some (merge first second)

def NodeSelectorTerm.merge (term1 term2 : NodeSelectorTerm) : NodeSelectorTerm :=
  { matchExpressions := term1.matchExpressions ++ term2.matchExpressions
    matchFields := term1.matchFields ++ term2.matchFields }

/-- Terms are alternatives, so each pair of them is one. -/
def mergeNodeSelectors : Option NodeSelector → Option NodeSelector → Option NodeSelector :=
  mergePointers fun selector1 selector2 =>
    { nodeSelectorTerms := selector1.nodeSelectorTerms.flatMap fun term1 =>
        selector2.nodeSelectorTerms.map term1.merge }

def mergeNodeAffinities : Option NodeAffinity → Option NodeAffinity → Option NodeAffinity :=
  mergePointers fun affinity1 affinity2 =>
    { required := mergeNodeSelectors affinity1.required affinity2.required
      preferred := affinity1.preferred ++ affinity2.preferred }

def mergePodAffinities : Option PodAffinity → Option PodAffinity → Option PodAffinity :=
  mergePointers fun affinity1 affinity2 =>
    { required := affinity1.required ++ affinity2.required
      preferred := affinity1.preferred ++ affinity2.preferred }

def mergePodAntiAffinities : Option PodAffinity → Option PodAffinity → Option PodAffinity :=
  mergePodAffinities

def mergeAffinities : Option Affinity → Option Affinity → Option Affinity :=
  mergePointers fun affinity1 affinity2 =>
    { nodeAffinity := mergeNodeAffinities affinity1.nodeAffinity affinity2.nodeAffinity
      podAffinity := mergePodAffinities affinity1.podAffinity affinity2.podAffinity
      podAntiAffinity := mergePodAntiAffinities affinity1.podAntiAffinity affinity2.podAntiAffinity }

structure Node where
  name : String
  labels : Labels

/-! ## What Kubernetes makes of an affinity -/

/-- An expression that does not parse matches nothing. -/
def NodeSelectorRequirement.admits (r : NodeSelectorRequirement) (labels : Labels) : Bool :=
  match r.parse with
  | .ok requirement => requirement.matches labels
  | .error _ => false

/-- A node has one field, its name: others are empty. Fields are compared with one value. -/
def NodeSelectorRequirement.admitsField (r : NodeSelectorRequirement) (node : Node) : Bool :=
  let field := if r.key = "metadata.name" then node.name else ""
  match r.operator, r.values with
  | .known .opIn, [value] => field == value
  | .known .opNotIn, [value] => field != value
  | _, _ => false

def NodeSelectorTerm.admits (term : NodeSelectorTerm) (node : Node) : Bool :=
  !(term.matchExpressions.isEmpty && term.matchFields.isEmpty) &&
    term.matchExpressions.all (·.admits node.labels) && term.matchFields.all (·.admitsField node)

def NodeSelector.admits (selector : NodeSelector) (node : Node) : Bool :=
  selector.nodeSelectorTerms.any (·.admits node)

/-- Whether a pod with the affinity may run on the node, as far as nodes decide it. -/
def Affinity.admits (affinity : Option Affinity) (node : Node) : Bool :=
  match affinity.bind fun a => a.nodeAffinity.bind (·.required) with
  | none => true
  | some selector => selector.admits node

end DatadogOperator.Profiles
