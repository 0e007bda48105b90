import DatadogOperator.Dependencies.Rbac
import Mathlib.Data.List.DropRight
import Mathlib.Data.Prod.Lex

/-!
# What policy rules authorise

A request is granted by a rule as the RBAC authoriser of Kubernetes decides it. Normalising rules
without commas in verbs and names changes no decision, and doing it twice changes nothing more.
-/

namespace DatadogOperator.Dependencies

open Grouping

/-! ## Requests -/

/-- The verb of a request, never the empty string. -/
structure Verb where
  text : String
  nonempty : text ≠ ""

inductive Request
  | resource (verb : Verb) (apiGroup resource subresource name : String)
  | nonResource (verb : Verb) (path : String)

def matchesVerb (verb : Verb) (v : String) : Bool := v == "*" || v == verb.text

def matchesGroup (apiGroup g : String) : Bool := g == "*" || g == apiGroup

/-- A rule names a resource, a subresource of it, or a subresource of every resource. -/
def matchesResource (resource subresource r : String) : Bool :=
  let combined := if subresource = "" then resource else resource ++ "/" ++ subresource
  r == "*" || r == combined || (subresource != "" && r == "*/" ++ subresource)

def matchesURL (path url : String) : Bool :=
  url == "*" || url == path ||
    (url.toList.getLast? == some '*' && (url.toList.rdropWhile (· == '*')).isPrefixOf path.toList)

/-- A rule without names is for all objects. -/
def matchesName (name : String) (names : List String) : Bool :=
  names.isEmpty || names.contains name

def Request.granted (rule : PolicyRule) : Request → Bool
  | .resource verb apiGroup res sub name =>
    rule.verbs.any (matchesVerb verb) && rule.apiGroups.any (matchesGroup apiGroup) &&
      rule.resources.any (matchesResource res sub) && matchesName name rule.resourceNames
  | .nonResource verb path =>
    rule.verbs.any (matchesVerb verb) && rule.nonResourceURLs.any (matchesURL path)

def Request.grantedBy (request : Request) (rules : List PolicyRule) : Bool :=
  rules.any fun rule => request.granted rule

theorem not_matchesVerb_empty (verb : Verb) : matchesVerb verb "" = false := by
  have hverb := verb.nonempty
  simp [matchesVerb, hverb.symm]

/-! ## Strings -/

section

variable {ss ss' : List String} {s : String}

theorem sortStrings_perm (ss : List String) : (sortStrings ss).Perm ss :=
  List.perm_insertionSort _ ss

@[simp] theorem mem_sortStrings : s ∈ sortStrings ss ↔ s ∈ ss :=
  (sortStrings_perm ss).mem_iff

@[simp] theorem sortStrings_eq_nil : sortStrings ss = [] ↔ ss = [] := by
  rw [← List.length_eq_zero_iff, (sortStrings_perm ss).length_eq, List.length_eq_zero_iff]

theorem sortStrings_of_perm (h : ss.Perm ss') : sortStrings ss = sortStrings ss' := by
  refine List.Perm.eq_of_pairwise (fun a b _ _ hab hba => le_antisymm hab hba)
    (List.pairwise_insertionSort _ ss) (List.pairwise_insertionSort _ ss') ?_
  exact (sortStrings_perm ss).trans (h.trans (sortStrings_perm ss').symm)

@[simp] theorem mem_sortedVerbs : s ∈ sortedVerbs ss ↔ s ∈ ss := by
  simp [sortedVerbs]

@[simp] theorem sortedVerbs_eq_nil : sortedVerbs ss = [] ↔ ss = [] := by
  simp [sortedVerbs]

theorem sortedVerbs_congr (h : ∀ s, s ∈ ss ↔ s ∈ ss') : sortedVerbs ss = sortedVerbs ss' := by
  refine sortStrings_of_perm ?_
  refine (List.perm_ext_iff_of_nodup (List.nodup_dedup ss) (List.nodup_dedup ss')).mpr fun s => ?_
  rw [List.mem_dedup, List.mem_dedup, h s]

def CommaFree (s : String) : Prop := ',' ∉ s.toList

theorem split_join (h : ∀ s ∈ ss, CommaFree s) (hne : ss ≠ []) : split (join ss) = ss := by
  rw [split, join, String.toList_ofList, List.splitOn_intercalate, List.map_map]
  · have hid : String.ofList ∘ (fun s : String => s.toList) = id :=
      funext fun _ => String.ofList_toList
    rw [hid, List.map_id]
  · intro cs hcs
    obtain ⟨s, hs, rfl⟩ := List.mem_map.mp hcs
    exact h s hs
  · simpa using hne

theorem join_ne_empty (h : ∀ s ∈ ss, s ≠ "") (hne : ss ≠ []) : join ss ≠ "" := by
  intro hjoin
  have hlist := congrArg String.toList hjoin
  rw [join, String.toList_ofList] at hlist
  cases ss with
  | nil => exact hne rfl
  | cons s ss =>
    have hs : s.toList ≠ [] := by simpa using h s (.head _)
    cases ss with
    | nil => exact hs (by simpa [List.intercalate] using hlist)
    | cons s' ss => simp [List.intercalate] at hlist

end

/-! ## The stages of the normalisation -/

section

variable {κ κ' : Type} [DecidableEq κ] [DecidableEq κ'] {keys : PolicyRule → List κ}
  {rules : List PolicyRule} {consKey : κ → String → κ'} {member : κ → String}
  {ruleVerbs ruleVerbs' : AList fun _ : κ => List String} {k : κ} {k' : κ'} {v : String}

theorem mem_mapRulesToVerbs : k ∈ mapRulesToVerbs keys rules ↔ ∃ rule ∈ rules, k ∈ keys rule := by
  simp only [mapRulesToVerbs, mem_collect, List.mem_flatMap, List.mem_map, Prod.mk.injEq]
  constructor
  · rintro ⟨_, rule, hrule, _, hk, rfl, _⟩
    exact ⟨rule, hrule, hk⟩
  · rintro ⟨rule, hrule, hk⟩
    exact ⟨rule.verbs, rule, hrule, k, hk, rfl, rfl⟩

theorem mem_values_mapRulesToVerbs : v ∈ values (mapRulesToVerbs keys rules) k ↔
      ∃ rule ∈ rules, k ∈ keys rule ∧ v ∈ rule.verbs := by
  simp only [mapRulesToVerbs, mem_values_collect, List.mem_flatMap, List.mem_map, Prod.mk.injEq]
  constructor
  · rintro ⟨_, ⟨rule, hrule, _, hk, rfl, rfl⟩, hv⟩
    exact ⟨rule, hrule, hk, hv⟩
  · rintro ⟨rule, hrule, hk, hv⟩
    exact ⟨rule.verbs, ⟨rule, hrule, k, hk, rfl, rfl⟩, hv⟩

theorem mem_consolidateRules : k' ∈ consolidateRules consKey member ruleVerbs ↔
      ∃ k ∈ ruleVerbs, consKey k (verbsKey ruleVerbs k) = k' := by
  rw [consolidateRules, mem_mapValues, mem_collect]
  simp only [List.mem_map, Prod.mk.injEq, AList.mem_keys]
  constructor
  · rintro ⟨_, k, hk, hkey, _⟩
    exact ⟨k, hk, hkey⟩
  · rintro ⟨k, hk, hkey⟩
    exact ⟨_, k, hk, hkey, rfl⟩

theorem mem_values_consolidateRules (h : k' ∈ consolidateRules consKey member ruleVerbs) :
    m ∈ values (consolidateRules consKey member ruleVerbs) k' ↔
      ∃ k ∈ ruleVerbs, consKey k (verbsKey ruleVerbs k) = k' ∧ member k = m := by
  rw [consolidateRules, values_mapValues (mem_mapValues.mp h), mem_sortStrings, mem_values_collect]
  simp only [List.mem_map, Prod.mk.injEq, AList.mem_keys]
  constructor
  · rintro ⟨_, ⟨k, hk, hkey, rfl⟩, hm⟩
    exact ⟨k, hk, hkey, (List.mem_singleton.mp hm).symm⟩
  · rintro ⟨k, hk, hkey, rfl⟩
    exact ⟨_, ⟨k, hk, hkey, rfl⟩, List.mem_singleton_self _⟩

theorem mem_buildPolicyRules
    {mk : κ' → List String → PolicyRule} {consolidated : AList fun _ : κ' => List String}
    {rule : PolicyRule} :
    rule ∈ buildPolicyRules compareKeys mk consolidated ↔
      ∃ k' ∈ consolidated, mk k' (values consolidated k') = rule := by
  simp only [buildPolicyRules, List.mem_map, (List.perm_insertionSort _ _).mem_iff, AList.mem_keys]

theorem exists_rule_iff {mk : κ' → List String → PolicyRule}
    {P : PolicyRule → Prop} {Q : κ' → String → Prop}
    (hmk : ∀ k' members, P (mk k' members) ↔ ∃ m ∈ members, Q k' m) :
    (∃ rule ∈ buildPolicyRules compareKeys mk (consolidateRules consKey member ruleVerbs), P rule) ↔
      ∃ k ∈ ruleVerbs, Q (consKey k (verbsKey ruleVerbs k)) (member k) := by
  constructor
  · rintro ⟨rule, hrule, hP⟩
    obtain ⟨k', hk', rfl⟩ := mem_buildPolicyRules.mp hrule
    obtain ⟨m, hm, hQ⟩ := (hmk _ _).mp hP
    obtain ⟨k, hk, rfl, rfl⟩ := (mem_values_consolidateRules hk').mp hm
    exact ⟨k, hk, hQ⟩
  · rintro ⟨k, hk, hQ⟩
    have hk' : consKey k (verbsKey ruleVerbs k) ∈ consolidateRules consKey member ruleVerbs :=
      mem_consolidateRules.mpr ⟨k, hk, rfl⟩
    refine ⟨_, mem_buildPolicyRules.mpr ⟨_, hk', rfl⟩, (hmk _ _).mpr ⟨member k, ?_, hQ⟩⟩
    exact (mem_values_consolidateRules hk').mpr ⟨k, hk, rfl, rfl⟩

theorem split_verbsKey (h : ∀ v ∈ values ruleVerbs k, CommaFree v) (hne : values ruleVerbs k ≠ []) :
    split (verbsKey ruleVerbs k) = sortedVerbs (values ruleVerbs k) :=
  split_join (fun s hs => h s (mem_sortedVerbs.mp hs)) (by simpa using hne)

theorem any_split_verbsKey (h : ∀ v ∈ values ruleVerbs k, CommaFree v) (verb : Verb) :
    (split (verbsKey ruleVerbs k)).any (matchesVerb verb) = true ↔
      ∃ v ∈ values ruleVerbs k, matchesVerb verb v = true := by
  by_cases hne : values ruleVerbs k = []
  · have hsplit : split (verbsKey ruleVerbs k) = [""] := by
      rw [verbsKey, hne]
      decide
    simp [hsplit, hne, not_matchesVerb_empty]
  · simp [split_verbsKey h hne]

end

/-! ## Resource rules -/

/-- What a rule of the input has to meet: one kind of rule at a time, no commas. -/
structure PolicyRule.Plain (rule : PolicyRule) : Prop where
  notMixed : rule.nonResourceURLs = [] ∨ rule.resources = []
  verbs : ∀ v ∈ rule.verbs, v ≠ "" ∧ CommaFree v
  names : ∀ n ∈ rule.resourceNames, n ≠ "" ∧ CommaFree n

section

variable {rule : PolicyRule} {rules : List PolicyRule}

def keyNames (resourceNames : String) : List String :=
  if resourceNames ≠ "" then split resourceNames else []

theorem keyNames_resourceNamesKey (h : ∀ n ∈ rule.resourceNames, n ≠ "" ∧ CommaFree n) :
    keyNames rule.resourceNamesKey = sortStrings rule.resourceNames := by
  by_cases hnames : rule.resourceNames = []
  · simp [keyNames, PolicyRule.resourceNamesKey, hnames, sortStrings]
  · have hsorted : sortStrings rule.resourceNames ≠ [] := by simpa using hnames
    have hne : join (sortStrings rule.resourceNames) ≠ "" :=
      join_ne_empty (fun s hs => (h s (mem_sortStrings.mp hs)).1) hsorted
    rw [PolicyRule.resourceNamesKey, if_pos (List.length_pos_iff.mpr hnames), keyNames,
      if_pos hne, split_join (fun s hs => (h s (mem_sortStrings.mp hs)).2) hsorted]

theorem matchesName_keyNames (h : ∀ n ∈ rule.resourceNames, n ≠ "" ∧ CommaFree n) (name : String) :
    matchesName name (keyNames rule.resourceNamesKey) = matchesName name rule.resourceNames := by
  rw [keyNames_resourceNamesKey h, Bool.eq_iff_iff]
  simp [matchesName]

def ResourceRuleKey.Serves (apiGroup res sub name : String) (key : ResourceRuleKey) : Prop :=
  matchesGroup apiGroup key.apiGroup = true ∧ matchesResource res sub key.resource = true ∧
    matchesName name (keyNames key.resourceNames) = true

theorem granted_resource_iff (h : rule.Plain) (verb : Verb) (apiGroup res sub name : String) :
    (Request.resource verb apiGroup res sub name).granted rule = true ↔
      ∃ key ∈ rule.resourceKeys, key.Serves apiGroup res sub name ∧
        ∃ v ∈ rule.verbs, matchesVerb verb v = true := by
  simp only [Request.granted, Bool.and_eq_true, List.any_eq_true]
  constructor
  · rintro ⟨⟨⟨hverb, g, hg, hgroup⟩, r, hr, hres⟩, hname⟩
    have hurls : rule.nonResourceURLs = [] :=
      h.notMixed.resolve_right (List.ne_nil_of_mem hr)
    refine ⟨⟨g, r, rule.resourceNamesKey⟩, ?_, ⟨hgroup, hres, ?_⟩, hverb⟩
    · simp [PolicyRule.resourceKeys, hurls, hg, hr]
    · rw [matchesName_keyNames h.names]
      exact hname
  · rintro ⟨key, hkey, ⟨hgroup, hres, hname⟩, hverb⟩
    rw [PolicyRule.resourceKeys] at hkey
    split at hkey
    · cases hkey
    · simp only [List.mem_flatMap, List.mem_map] at hkey
      obtain ⟨g, hg, r, hr, rfl⟩ := hkey
      rw [matchesName_keyNames h.names] at hname
      exact ⟨⟨⟨hverb, g, hg, hgroup⟩, r, hr, hres⟩, hname⟩

theorem granted_resourcePolicyRule_iff (verb : Verb) (apiGroup res sub name : String)
    (key : ResourceConsolidationKey) (members : List String) :
    (Request.resource verb apiGroup res sub name).granted (resourcePolicyRule key members) = true ↔
      ∃ m ∈ members, ResourceRuleKey.Serves apiGroup res sub name ⟨key.apiGroup, m, key.resourceNames⟩ ∧
        (split key.verbs).any (matchesVerb verb) = true := by
  simp only [Request.granted, resourcePolicyRule, Bool.and_eq_true, ResourceRuleKey.Serves]
  constructor
  · rintro ⟨⟨⟨hverb, hgroup⟩, hres⟩, hname⟩
    obtain ⟨m, hm, hres⟩ := List.any_eq_true.mp hres
    exact ⟨m, hm, ⟨by simpa using hgroup, hres, hname⟩, hverb⟩
  · rintro ⟨m, hm, ⟨hgroup, hres, hname⟩, hverb⟩
    exact ⟨⟨⟨hverb, by simpa using hgroup⟩, List.any_eq_true.mpr ⟨m, hm, hres⟩⟩, hname⟩

theorem commaFree_values {κ : Type} [DecidableEq κ] {keys : PolicyRule → List κ} {k : κ}
    (h : ∀ rule ∈ rules, rule.Plain) :
    ∀ v ∈ values (mapRulesToVerbs keys rules) k, CommaFree v := by
  intro v hv
  obtain ⟨rule, hrule, _, hv⟩ := mem_values_mapRulesToVerbs.mp hv
  exact ((h rule hrule).verbs v hv).2

/-- A stage of the normalisation changes no decision, if rules before and after it are granted by
their keys and verbs. -/
theorem exists_granted_iff {κ κ' : Type} [DecidableEq κ] [DecidableEq κ']
    {keys : PolicyRule → List κ} {consKey : κ → String → κ'} {member : κ → String}
    {mk : κ' → List String → PolicyRule} {P : PolicyRule → Prop} {Q : κ' → String → Prop}
    {compareKeys : κ' → κ' → Ordering} {serves : κ → Prop} {verb : Verb}
    (h : ∀ rule ∈ rules, rule.Plain)
    (hmk : ∀ k' members, P (mk k' members) ↔ ∃ m ∈ members, Q k' m)
    (hQ : ∀ k verbs, Q (consKey k verbs) (member k) ↔
      serves k ∧ (split verbs).any (matchesVerb verb) = true)
    (hP : ∀ rule ∈ rules, P rule ↔
      ∃ k ∈ keys rule, serves k ∧ ∃ v ∈ rule.verbs, matchesVerb verb v = true) :
    (∃ rule ∈ buildPolicyRules compareKeys mk
        (consolidateRules consKey member (mapRulesToVerbs keys rules)), P rule) ↔
      ∃ rule ∈ rules, P rule := by
  rw [exists_rule_iff hmk]
  simp only [hQ, any_split_verbsKey (commaFree_values h), mem_values_mapRulesToVerbs]
  constructor
  · rintro ⟨key, _, hserves, v, ⟨rule, hrule, hkey, hv⟩, hverb⟩
    exact ⟨rule, hrule, (hP rule hrule).mpr ⟨key, hkey, hserves, v, hv, hverb⟩⟩
  · rintro ⟨rule, hrule, hgranted⟩
    obtain ⟨key, hkey, hserves, v, hv, hverb⟩ := (hP rule hrule).mp hgranted
    exact ⟨key, mem_mapRulesToVerbs.mpr ⟨rule, hrule, hkey⟩, hserves, v,
      ⟨rule, hrule, hkey, hv⟩, hverb⟩

/-! ## Non-resource rules -/

theorem granted_nonResource_iff (verb : Verb) (path : String) :
    (Request.nonResource verb path).granted rule = true ↔
      ∃ key ∈ rule.urlKeys, matchesURL path key.url = true ∧
        ∃ v ∈ rule.verbs, matchesVerb verb v = true := by
  simp only [Request.granted, Bool.and_eq_true, List.any_eq_true, PolicyRule.urlKeys]
  constructor
  · rintro ⟨hverb, url, hurl, hpath⟩
    refine ⟨⟨url⟩, ?_, hpath, hverb⟩
    simp [List.ne_nil_of_mem hurl, hurl]
  · rintro ⟨key, hkey, hpath, hverb⟩
    split at hkey
    · cases hkey
    · obtain ⟨url, hurl, rfl⟩ := List.mem_map.mp hkey
      exact ⟨hverb, url, hurl, hpath⟩

theorem granted_nonResourcePolicyRule_iff (verb : Verb) (path verbs : String) (urls : List String) :
    (Request.nonResource verb path).granted (nonResourcePolicyRule verbs urls) = true ↔
      ∃ url ∈ urls, matchesURL path url = true ∧ (split verbs).any (matchesVerb verb) = true := by
  simp only [Request.granted, nonResourcePolicyRule, Bool.and_eq_true]
  constructor
  · rintro ⟨hverb, hpath⟩
    obtain ⟨url, hurl, hpath⟩ := List.any_eq_true.mp hpath
    exact ⟨url, hurl, hpath, hverb⟩
  · rintro ⟨url, hurl, hpath, hverb⟩
    exact ⟨hverb, List.any_eq_true.mpr ⟨url, hurl, hpath⟩⟩

end

/-! ## All rules -/

theorem normalizePolicyRules_grantedBy (rules : List PolicyRule) (h : ∀ rule ∈ rules, rule.Plain)
    (request : Request) :
    request.grantedBy (normalizePolicyRules rules) = request.grantedBy rules := by
  rw [normalizePolicyRules]
  split
  · rename_i hempty
    rw [List.length_eq_zero_iff.mp hempty]
  rw [Bool.eq_iff_iff]
  simp only [Request.grantedBy, List.any_append, Bool.or_eq_true, List.any_eq_true]
  cases request with
  | resource verb apiGroup res sub name =>
    refine (or_iff_left ?_).trans (exists_granted_iff h
      (granted_resourcePolicyRule_iff verb apiGroup res sub name) (fun _ _ => Iff.rfl)
      fun rule hrule => granted_resource_iff (h rule hrule) ..)
    rintro ⟨rule, hrule, hgranted⟩
    obtain ⟨verbs, _, rfl⟩ := mem_buildPolicyRules.mp hrule
    simp [Request.granted, nonResourcePolicyRule] at hgranted
  | nonResource verb path =>
    refine (or_iff_right ?_).trans (exists_granted_iff h
      (granted_nonResourcePolicyRule_iff verb path) (fun _ _ => Iff.rfl)
      fun rule _ => granted_nonResource_iff ..)
    rintro ⟨rule, hrule, hgranted⟩
    obtain ⟨key, _, rfl⟩ := mem_buildPolicyRules.mp hrule
    simp [Request.granted, resourcePolicyRule] at hgranted

def nodeAgentRules : List PolicyRule :=
  [{ verbs := ["get", "list"], apiGroups := [""], resources := ["pods", "nodes"] },
    { verbs := ["watch"], apiGroups := [""], resources := ["pods"] },
    { verbs := ["get", "update"], apiGroups := [""], resources := ["configmaps"],
      resourceNames := ["datadogtoken", "datadog-leader-election"] },
    { verbs := ["get"], nonResourceURLs := ["/metrics", "/healthz*"] }]

theorem nodeAgentRules_plain : ∀ rule ∈ nodeAgentRules, rule.Plain := by
  intro rule hrule
  simp only [nodeAgentRules, List.mem_cons, List.not_mem_nil, or_false] at hrule
  obtain rfl | rfl | rfl | rfl := hrule
  all_goals exact ⟨by decide, by simp [CommaFree], by simp [CommaFree]⟩

theorem nodeAgentRules_watch_pods :
    (Request.resource ⟨"watch", by decide⟩ "" "pods" "" "agent").grantedBy
      (normalizePolicyRules nodeAgentRules) = true := by
  rw [normalizePolicyRules_grantedBy nodeAgentRules nodeAgentRules_plain]
  decide

/-! ## Normal forms -/

section

variable {κ κ' : Type} [DecidableEq κ] [DecidableEq κ'] {keys : PolicyRule → List κ}
  {rules : List PolicyRule} {consKey : κ → String → κ'} {member : κ → String}
  {ruleVerbs ruleVerbs' : AList fun _ : κ => List String} {k : κ}

omit [DecidableEq κ'] in
theorem insertionSort_eq_of_perm {ρ : Type} [LinearOrder ρ] {compareKeys : κ' → κ' → Ordering}
    {rank : κ' → ρ} (hrank : Function.Injective rank)
    (hle : ∀ a b, (compareKeys a b).isLE = true ↔ rank a ≤ rank b) {l l' : List κ'}
    (h : l.Perm l') :
    l.insertionSort (fun a b => (compareKeys a b).isLE) =
      l'.insertionSort fun a b => (compareKeys a b).isLE := by
  have : Std.Total fun a b => (compareKeys a b).isLE = true :=
    ⟨fun a b => by simpa only [hle] using le_total (rank a) (rank b)⟩
  have : IsTrans κ' fun a b => (compareKeys a b).isLE = true :=
    ⟨fun a b c => by simpa only [hle] using le_trans⟩
  refine List.Perm.eq_of_pairwise ?_ (List.pairwise_insertionSort _ l)
    (List.pairwise_insertionSort _ l') ?_
  · intro a b _ _ hab hba
    exact hrank (le_antisymm ((hle a b).mp hab) ((hle b a).mp hba))
  · exact (List.perm_insertionSort _ l).trans (h.trans (List.perm_insertionSort _ l').symm)

theorem buildPolicyRules_congr {ρ : Type} [LinearOrder ρ] {compareKeys : κ' → κ' → Ordering}
    {rank : κ' → ρ} (hrank : Function.Injective rank)
    (hle : ∀ a b, (compareKeys a b).isLE = true ↔ rank a ≤ rank b)
    (mk : κ' → List String → PolicyRule) (hkeys : ∀ k, k ∈ ruleVerbs ↔ k ∈ ruleVerbs')
    (hverbs : ∀ k ∈ ruleVerbs, verbsKey ruleVerbs k = verbsKey ruleVerbs' k) :
    buildPolicyRules compareKeys mk (consolidateRules consKey member ruleVerbs) =
      buildPolicyRules compareKeys mk (consolidateRules consKey member ruleVerbs') := by
  have hperm : ruleVerbs.keys.Perm ruleVerbs'.keys :=
    (List.perm_ext_iff_of_nodup ruleVerbs.keys_nodup ruleVerbs'.keys_nodup).mpr hkeys
  -- The same items are grouped, in another order.
  have hitems : (ruleVerbs.keys.map fun key =>
      (consKey key (verbsKey ruleVerbs key), [member key])).Perm
      (ruleVerbs'.keys.map fun key => (consKey key (verbsKey ruleVerbs' key), [member key])) := by
    rw [List.map_congr_left fun key hkey => by rw [hverbs key hkey]]
    exact hperm.map _
  have hkeys' := keys_collect_perm hitems
  unfold buildPolicyRules consolidateRules
  rw [keys_mapValues, keys_mapValues, insertionSort_eq_of_perm hrank hle hkeys']
  refine List.map_congr_left fun key hkey => ?_
  have hkey' := (List.perm_insertionSort _ _).mem_iff.mp hkey
  rw [values_mapValues (hkeys'.mem_iff.mpr hkey'), values_mapValues hkey',
    sortStrings_of_perm (values_collect_perm hitems key)]

end

section

variable {rules : List PolicyRule}

def ResourceConsolidationKey.rank (key : ResourceConsolidationKey) : String ×ₗ String ×ₗ String :=
  toLex (key.apiGroup, toLex (key.verbs, key.resourceNames))

theorem ResourceConsolidationKey.rank_injective :
    Function.Injective ResourceConsolidationKey.rank := by
  intro a b h
  have hpair := toLex_inj.mp h
  have hrest := toLex_inj.mp (congrArg Prod.snd hpair)
  cases a
  cases b
  simp_all

theorem compareConsolidationKeys_isLE (a b : ResourceConsolidationKey) :
    (compareConsolidationKeys a b).isLE = true ↔ a.rank ≤ b.rank := by
  rw [compareConsolidationKeys, ResourceConsolidationKey.rank, ResourceConsolidationKey.rank,
    Prod.Lex.toLex_le_toLex, Prod.Lex.toLex_le_toLex]
  by_cases hgroup : a.apiGroup = b.apiGroup
  · by_cases hverbs : a.verbs = b.verbs
    · simp [hgroup, hverbs, Ordering.isLE_iff_ne_gt, compare_le_iff_le]
    · simp [hgroup, hverbs, Ordering.isLE_iff_ne_gt, compare_le_iff_le, le_iff_lt_or_eq]
  · simp [hgroup, Ordering.isLE_iff_ne_gt, compare_le_iff_le, le_iff_lt_or_eq]

theorem resourceKeys_nonResourceRules {rule : PolicyRule} (h : rule ∈ nonResourceRules rules) :
    rule.resourceKeys = [] := by
  obtain ⟨verbs, hverbs, rfl⟩ := mem_buildPolicyRules.mp h
  obtain ⟨key, hkey, hkey'⟩ := mem_consolidateRules.mp hverbs
  have hurl := (mem_values_consolidateRules hverbs).mpr ⟨key, hkey, hkey', rfl⟩
  exact if_pos (List.length_pos_of_mem hurl)

theorem urlKeys_resourceRules {rule : PolicyRule} (h : rule ∈ resourceRules rules) :
    rule.urlKeys = [] := by
  obtain ⟨key, _, rfl⟩ := mem_buildPolicyRules.mp h
  rfl

end

end DatadogOperator.Dependencies
