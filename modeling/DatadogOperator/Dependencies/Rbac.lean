import DatadogOperator.Lib.Grouping
import Mathlib.Data.List.Sort
import Mathlib.Data.List.Dedup
import Mathlib.Data.String.Basic

/-!
# RBAC policy rules

`NormalizePolicyRules` of pkg/kubernetes/rbac: rules are taken apart into the verbs of each
resource (or URL), and put together again by equal verbs. Maps are iterated in no particular
order, so every list read off a map is sorted.
-/

namespace DatadogOperator.Dependencies

open Grouping

structure PolicyRule where
  verbs : List String
  apiGroups : List String := []
  resources : List String := []
  resourceNames : List String := []
  nonResourceURLs : List String := []
  deriving DecidableEq

structure ResourceRuleKey where
  apiGroup : String
  resource : String
  resourceNames : String
  deriving DecidableEq

structure ResourceConsolidationKey where
  apiGroup : String
  verbs : String
  resourceNames : String
  deriving DecidableEq

structure NonResourceRuleKey where
  url : String
  deriving DecidableEq

/-! ## Strings -/

def sortStrings (ss : List String) : List String := ss.insertionSort (· ≤ ·)

/-- `strings.Join(ss, ",")` -/
def join (ss : List String) : String := String.ofList ([','].intercalate (ss.map (·.toList)))

/-- `strings.Split(s, ",")`: the empty string has one part. -/
def split (s : String) : List String := (s.toList.splitOn ',').map String.ofList

/-- A `verbSet` is the list of what was put into it; its keys are read without repetitions. -/
def sortedVerbs (verbSet : List String) : List String := sortStrings verbSet.dedup

/-! ## What the two kinds of rules share -/

section

variable {κ κ' : Type} [DecidableEq κ] [DecidableEq κ']

/-- Collects the verbs of all rules that have a key. -/
def mapRulesToVerbs (keys : PolicyRule → List κ) (rules : List PolicyRule) :
    AList fun _ : κ => List String :=
  collect (rules.flatMap fun rule => (keys rule).map (·, rule.verbs))

/-- The comma-separated verbs of a key. -/
def verbsKey (ruleVerbs : AList fun _ : κ => List String) (key : κ) : String :=
  join (sortedVerbs (values ruleVerbs key))

/-- Groups the members of keys that differ in nothing else, and sorts each group. -/
def consolidateRules (consKey : κ → String → κ') (member : κ → String)
    (ruleVerbs : AList fun _ : κ => List String) : AList fun _ : κ' => List String :=
  mapValues (fun _ => sortStrings)
    (collect (ruleVerbs.keys.map fun key => (consKey key (verbsKey ruleVerbs key), [member key])))

/-- One rule for each group, in the order of the keys. -/
def buildPolicyRules (compareKeys : κ' → κ' → Ordering) (rule : κ' → List String → PolicyRule)
    (consolidated : AList fun _ : κ' => List String) : List PolicyRule :=
  (consolidated.keys.insertionSort fun a b => (compareKeys a b).isLE).map fun key =>
    rule key (values consolidated key)

end

/-! ## Resource rules -/

def PolicyRule.resourceNamesKey (rule : PolicyRule) : String :=
  if rule.resourceNames.length > 0 then join (sortStrings rule.resourceNames) else ""

/-- The keys of a rule; rules for non-resource URLs are skipped. -/
def PolicyRule.resourceKeys (rule : PolicyRule) : List ResourceRuleKey :=
  if rule.nonResourceURLs.length > 0 then []
  else rule.apiGroups.flatMap fun apiGroup => rule.resources.map fun resource =>
    ⟨apiGroup, resource, rule.resourceNamesKey⟩

def mapResourceRulesToVerbs : List PolicyRule → AList fun _ : ResourceRuleKey => List String :=
  mapRulesToVerbs PolicyRule.resourceKeys

def consolidateResourceRules : (AList fun _ : ResourceRuleKey => List String) →
    AList fun _ : ResourceConsolidationKey => List String :=
  consolidateRules (fun key verbs => ⟨key.apiGroup, verbs, key.resourceNames⟩) (·.resource)

def compareConsolidationKeys (a b : ResourceConsolidationKey) : Ordering :=
  if a.apiGroup ≠ b.apiGroup then compare a.apiGroup b.apiGroup
  else if a.verbs ≠ b.verbs then compare a.verbs b.verbs
  else compare a.resourceNames b.resourceNames

def resourcePolicyRule (key : ResourceConsolidationKey) (resources : List String) : PolicyRule where
  apiGroups := [key.apiGroup]
  resources := resources
  verbs := split key.verbs
  resourceNames := if key.resourceNames ≠ "" then split key.resourceNames else []

def buildResourcePolicyRules :
    (AList fun _ : ResourceConsolidationKey => List String) → List PolicyRule :=
  buildPolicyRules compareConsolidationKeys resourcePolicyRule

/-! ## Non-resource rules -/

def PolicyRule.urlKeys (rule : PolicyRule) : List NonResourceRuleKey :=
  if rule.nonResourceURLs.length = 0 then [] else rule.nonResourceURLs.map (⟨·⟩)

def mapNonResourceRulesToVerbs :
    List PolicyRule → AList fun _ : NonResourceRuleKey => List String :=
  mapRulesToVerbs PolicyRule.urlKeys

def consolidateNonResourceRules :
    (AList fun _ : NonResourceRuleKey => List String) → AList fun _ : String => List String :=
  consolidateRules (fun _ verbs => verbs) (·.url)

def nonResourcePolicyRule (verbs : String) (urls : List String) : PolicyRule where
  verbs := split verbs
  nonResourceURLs := urls

def buildNonResourcePolicyRules : (AList fun _ : String => List String) → List PolicyRule :=
  buildPolicyRules compare nonResourcePolicyRule

/-! ## Normalisation -/

def resourceRules (rules : List PolicyRule) : List PolicyRule :=
  buildResourcePolicyRules (consolidateResourceRules (mapResourceRulesToVerbs rules))

def nonResourceRules (rules : List PolicyRule) : List PolicyRule :=
  buildNonResourcePolicyRules (consolidateNonResourceRules (mapNonResourceRulesToVerbs rules))

/-- Where a map is empty the source skips the rest, which gives no rules either. -/
def normalizePolicyRules (rules : List PolicyRule) : List PolicyRule :=
  if rules.length = 0 then [] else resourceRules rules ++ nonResourceRules rules

end DatadogOperator.Dependencies
