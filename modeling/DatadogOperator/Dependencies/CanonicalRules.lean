import DatadogOperator.Dependencies.Authorization

/-!
# Normalised rules are a canonical form

What a list of rules grants is a set of tuples: a verb on a resource of a group, under a
sorted list of resource names, or a verb on a URL. Two lists have one normal form exactly
if they grant the same tuples. So neither the order of rules nor their repetition or
division shows in the normal form.
-/

namespace DatadogOperator.Dependencies

open Grouping

inductive Grant
  | resource (apiGroup resource : String) (resourceNames : List String) (verb : String)
  | url (url verb : String)

/-- A rule is about resources or about URLs, not both: one with URLs is about these. -/
def PolicyRule.grants (rule : PolicyRule) : List Grant :=
  if rule.nonResourceURLs = [] then
    rule.apiGroups.flatMap fun apiGroup => rule.resources.flatMap fun resource =>
      rule.verbs.map fun verb => .resource apiGroup resource (sortStrings rule.resourceNames) verb
  else rule.nonResourceURLs.flatMap fun url => rule.verbs.map fun verb => .url url verb

def grantsOf (rules : List PolicyRule) : List Grant := rules.flatMap PolicyRule.grants

/-- A rule with a verb, and without commas in what is joined. -/
structure PolicyRule.Proper (rule : PolicyRule) : Prop where
  verbs_ne : rule.verbs ≠ []
  verbs : ∀ v ∈ rule.verbs, v ≠ "" ∧ CommaFree v
  names : ∀ n ∈ rule.resourceNames, n ≠ "" ∧ CommaFree n

/-- The group, resource and resource names that a rule is about. -/
def PolicyRule.combinations (rule : PolicyRule) : List (String × String × List String) :=
  rule.apiGroups.flatMap fun apiGroup => rule.resources.map fun resource =>
    (apiGroup, resource, sortStrings rule.resourceNames)

/-! ## Grants and keys -/

section
variable {rule : PolicyRule} {rules rules' : List PolicyRule} {v : String}

theorem join_keyNames (s : String) : join (keyNames s) = s := by
  by_cases h : s = ""
  · subst h
    rfl
  · have hid : (fun s : String => s.toList) ∘ String.ofList = id :=
      funext fun _ => String.toList_ofList
    rw [keyNames, if_pos h, join, split, List.map_map, hid, List.map_id, List.intercalate_splitOn,
      String.ofList_toList]

theorem resourceNamesKey_eq_join : rule.resourceNamesKey = join (sortStrings rule.resourceNames) := by
  unfold PolicyRule.resourceNamesKey
  split_ifs with h
  · rfl
  · have hnil : rule.resourceNames = [] := by simpa using h
    simp [hnil, sortStrings, join]

theorem resourceNamesKey_eq_iff (h : rule.Proper) :
    rule.resourceNamesKey = s ↔ sortStrings rule.resourceNames = keyNames s := by
  constructor
  · rintro rfl
    exact (keyNames_resourceNamesKey h.names).symm
  · intro hnames
    rw [resourceNamesKey_eq_join, hnames, join_keyNames]

theorem mem_resourceKeys : key ∈ rule.resourceKeys ↔
    rule.nonResourceURLs = [] ∧ key.apiGroup ∈ rule.apiGroups ∧ key.resource ∈ rule.resources ∧
      rule.resourceNamesKey = key.resourceNames := by
  unfold PolicyRule.resourceKeys
  split_ifs with h
  · have hne := List.length_pos_iff.mp h
    simp [hne]
  · have hnil : rule.nonResourceURLs = [] := by simpa using h
    simp only [List.mem_flatMap, List.mem_map, hnil, true_and]
    constructor
    · rintro ⟨g, hg, r, hr, rfl⟩
      exact ⟨hg, hr, rfl⟩
    · rintro ⟨hg, hr, hnames⟩
      exact ⟨_, hg, _, hr, by rw [hnames]⟩

theorem mem_urlKeys : key ∈ rule.urlKeys ↔ key.url ∈ rule.nonResourceURLs := by
  unfold PolicyRule.urlKeys
  split_ifs with h
  · have hnil : rule.nonResourceURLs = [] := by simpa using h
    simp [hnil]
  · constructor
    · intro hkey
      obtain ⟨url, hurl, rfl⟩ := List.mem_map.mp hkey
      exact hurl
    · intro hurl
      exact List.mem_map.mpr ⟨key.url, hurl, rfl⟩

theorem resource_mem_grants :
    Grant.resource g r names v ∈ rule.grants ↔ rule.nonResourceURLs = [] ∧ g ∈ rule.apiGroups ∧
      r ∈ rule.resources ∧ sortStrings rule.resourceNames = names ∧ v ∈ rule.verbs := by
  unfold PolicyRule.grants
  split_ifs with h
  · simp [h, and_comm]
  · simp [h]

theorem url_mem_grants :
    Grant.url url v ∈ rule.grants ↔ url ∈ rule.nonResourceURLs ∧ v ∈ rule.verbs := by
  unfold PolicyRule.grants
  split_ifs with h
  · simp [h]
  · simp

theorem mem_values_resource (h : ∀ rule ∈ rules, rule.Proper) {key : ResourceRuleKey} :
    v ∈ values (mapResourceRulesToVerbs rules) key ↔
      Grant.resource key.apiGroup key.resource (keyNames key.resourceNames) v ∈ grantsOf rules := by
  rw [mapResourceRulesToVerbs, mem_values_mapRulesToVerbs, grantsOf, List.mem_flatMap]
  refine exists_congr fun rule => and_congr_right fun hrule => ?_
  rw [mem_resourceKeys, resource_mem_grants, resourceNamesKey_eq_iff (h rule hrule)]
  tauto

theorem mem_values_url {key : NonResourceRuleKey} :
    v ∈ values (mapNonResourceRulesToVerbs rules) key ↔ Grant.url key.url v ∈ grantsOf rules := by
  rw [mapNonResourceRulesToVerbs, mem_values_mapRulesToVerbs, grantsOf, List.mem_flatMap]
  refine exists_congr fun rule => and_congr_right fun _ => ?_
  rw [mem_urlKeys, url_mem_grants]

theorem values_ne_nil {κ : Type} [DecidableEq κ] {keys : PolicyRule → List κ} {k : κ}
    (h : ∀ rule ∈ rules, rule.Proper) :
    k ∈ mapRulesToVerbs keys rules ↔ ∃ v, v ∈ values (mapRulesToVerbs keys rules) k := by
  rw [mem_mapRulesToVerbs]
  simp only [mem_values_mapRulesToVerbs]
  constructor
  · rintro ⟨rule, hrule, hk⟩
    obtain ⟨v, hv⟩ := List.exists_mem_of_ne_nil _ (h rule hrule).verbs_ne
    exact ⟨v, rule, hrule, hk, hv⟩
  · rintro ⟨v, rule, hrule, hk, -⟩
    exact ⟨rule, hrule, hk⟩

theorem commaFree_proper {κ : Type} [DecidableEq κ] {keys : PolicyRule → List κ} {k : κ}
    (h : ∀ rule ∈ rules, rule.Proper) :
    ∀ v ∈ values (mapRulesToVerbs keys rules) k, v ≠ "" ∧ CommaFree v := by
  intro v hv
  obtain ⟨rule, hrule, -, hmem⟩ := mem_values_mapRulesToVerbs.mp hv
  exact (h rule hrule).verbs v hmem

theorem split_verbsKey_proper {κ : Type} [DecidableEq κ] {keys : PolicyRule → List κ} {k : κ}
    (h : ∀ rule ∈ rules, rule.Proper) (hk : k ∈ mapRulesToVerbs keys rules) :
    split (verbsKey (mapRulesToVerbs keys rules) k) =
      sortedVerbs (values (mapRulesToVerbs keys rules) k) := by
  refine split_verbsKey (fun v hv => (commaFree_proper h v hv).2) ?_
  obtain ⟨v, hv⟩ := (values_ne_nil h).mp hk
  exact List.ne_nil_of_mem hv

theorem keyNames_sorted (h : ∀ rule ∈ rules, rule.Proper) {key : ResourceRuleKey}
    (hkey : key ∈ mapResourceRulesToVerbs rules) :
    ∃ rule ∈ rules, keyNames key.resourceNames = sortStrings rule.resourceNames := by
  obtain ⟨rule, hrule, hkeys⟩ := mem_mapRulesToVerbs.mp hkey
  obtain ⟨-, -, -, hnames⟩ := mem_resourceKeys.mp hkeys
  exact ⟨rule, hrule, ((resourceNamesKey_eq_iff (h rule hrule)).mp hnames).symm⟩

/-! ## The same grants, the same normal form -/

theorem normalizePolicyRules_eq (rules : List PolicyRule) :
    normalizePolicyRules rules = resourceRules rules ++ nonResourceRules rules := by
  unfold normalizePolicyRules
  split_ifs with h
  · rw [List.length_eq_zero_iff.mp h]
    rfl
  · rfl

theorem buildPolicyRules_same {κ κ' ρ : Type} [DecidableEq κ] [DecidableEq κ'] [LinearOrder ρ]
    {keys : PolicyRule → List κ} {consKey : κ → String → κ'} {member : κ → String}
    {compareKeys : κ' → κ' → Ordering} (rank : κ' → ρ) (hrank : Function.Injective rank)
    (hle : ∀ a b, (compareKeys a b).isLE = true ↔ rank a ≤ rank b)
    (mk : κ' → List String → PolicyRule) (h : ∀ rule ∈ rules, rule.Proper)
    (h' : ∀ rule ∈ rules', rule.Proper)
    (hsame : ∀ k v, v ∈ values (mapRulesToVerbs keys rules) k ↔
      v ∈ values (mapRulesToVerbs keys rules') k) :
    buildPolicyRules compareKeys mk (consolidateRules consKey member (mapRulesToVerbs keys rules)) =
      buildPolicyRules compareKeys mk
        (consolidateRules consKey member (mapRulesToVerbs keys rules')) := by
  refine buildPolicyRules_congr hrank hle mk (fun k => ?_) fun k _ => ?_
  · rw [values_ne_nil h, values_ne_nil h']
    exact exists_congr (hsame k)
  · exact congrArg join (sortedVerbs_congr (hsame k))

theorem normalizePolicyRules_same (h : ∀ rule ∈ rules, rule.Proper)
    (h' : ∀ rule ∈ rules', rule.Proper) (hsame : ∀ g, g ∈ grantsOf rules ↔ g ∈ grantsOf rules') :
    normalizePolicyRules rules = normalizePolicyRules rules' := by
  rw [normalizePolicyRules_eq, normalizePolicyRules_eq]
  refine congrArg₂ _ ?_ ?_
  · refine buildPolicyRules_same _ ResourceConsolidationKey.rank_injective
      compareConsolidationKeys_isLE _ h h' fun k v => ?_
    exact (mem_values_resource h).trans ((hsame _).trans (mem_values_resource h').symm)
  · refine buildPolicyRules_same id Function.injective_id
      (fun a b => Ordering.isLE_iff_ne_gt.trans compare_le_iff_le) _ h h' fun k v => ?_
    exact mem_values_url.trans ((hsame _).trans mem_values_url.symm)

/-! ## The normal form grants the same -/

theorem resource_mem_grants_resourcePolicyRule
    (key : ResourceConsolidationKey) (members : List String) :
    Grant.resource g r names v ∈ (resourcePolicyRule key members).grants ↔ ∃ m ∈ members,
      key.apiGroup = g ∧ m = r ∧ sortStrings (keyNames key.resourceNames) = names ∧
        v ∈ split key.verbs := by
  rw [resource_mem_grants]
  simp only [resourcePolicyRule, List.mem_singleton, true_and]
  constructor
  · rintro ⟨rfl, hr, rfl, hv⟩
    exact ⟨r, hr, rfl, rfl, rfl, hv⟩
  · rintro ⟨m, hm, rfl, rfl, rfl, hv⟩
    exact ⟨rfl, hm, rfl, hv⟩

theorem resource_mem_grantsOf_normalize (h : ∀ rule ∈ rules, rule.Proper) {g r : String}
    {names : List String} :
    Grant.resource g r names v ∈ grantsOf (normalizePolicyRules rules) ↔
      Grant.resource g r names v ∈ grantsOf rules := by
  have hurls : ∀ rule ∈ nonResourceRules rules, Grant.resource g r names v ∉ rule.grants := by
    intro rule hrule hgrant
    obtain ⟨hnil, hg, hr, -, -⟩ := resource_mem_grants.mp hgrant
    have hkey : ⟨g, r, rule.resourceNamesKey⟩ ∈ rule.resourceKeys :=
      mem_resourceKeys.mpr ⟨hnil, hg, hr, rfl⟩
    rw [resourceKeys_nonResourceRules hrule] at hkey
    cases hkey
  have hout : Grant.resource g r names v ∈ grantsOf (normalizePolicyRules rules) ↔
      ∃ key ∈ mapResourceRulesToVerbs rules, key.apiGroup = g ∧ key.resource = r ∧
        sortStrings (keyNames key.resourceNames) = names ∧
          v ∈ split (verbsKey (mapResourceRulesToVerbs rules) key) := by
    rw [normalizePolicyRules_eq, grantsOf, List.flatMap_append, List.mem_append,
      or_iff_left fun hmem => ?_, List.mem_flatMap]
    · exact exists_rule_iff (P := fun rule => Grant.resource g r names v ∈ rule.grants)
        (Q := fun (key : ResourceConsolidationKey) m => key.apiGroup = g ∧ m = r ∧
          sortStrings (keyNames key.resourceNames) = names ∧ v ∈ split key.verbs)
        resource_mem_grants_resourcePolicyRule
    · obtain ⟨rule, hrule, hgrant⟩ := List.mem_flatMap.mp hmem
      exact hurls rule hrule hgrant
  rw [hout]
  constructor
  · rintro ⟨key, hkey, rfl, rfl, rfl, hv⟩
    rw [mapResourceRulesToVerbs, split_verbsKey_proper h hkey, mem_sortedVerbs] at hv
    obtain ⟨rule, -, hnames⟩ := keyNames_sorted h hkey
    rw [hnames, sortStrings_of_perm (sortStrings_perm _), ← hnames]
    exact (mem_values_resource h).mp hv
  · intro hgrant
    obtain ⟨rule, hrule, hmem⟩ := List.mem_flatMap.mp hgrant
    obtain ⟨hnil, hg, hr, rfl, hv⟩ := resource_mem_grants.mp hmem
    have hnames := keyNames_resourceNamesKey (h rule hrule).names
    have hvalue : v ∈ values (mapResourceRulesToVerbs rules) ⟨g, r, rule.resourceNamesKey⟩ := by
      rw [mem_values_resource h, hnames]
      exact hgrant
    have hkey : ⟨g, r, rule.resourceNamesKey⟩ ∈ mapResourceRulesToVerbs rules :=
      (values_ne_nil h).mpr ⟨v, hvalue⟩
    refine ⟨_, hkey, rfl, rfl, ?_, ?_⟩
    · rw [hnames, sortStrings_of_perm (sortStrings_perm _)]
    · rw [mapResourceRulesToVerbs, split_verbsKey_proper h hkey, mem_sortedVerbs]
      exact hvalue

theorem url_mem_grantsOf_normalize (h : ∀ rule ∈ rules, rule.Proper) {url : String} :
    Grant.url url v ∈ grantsOf (normalizePolicyRules rules) ↔ Grant.url url v ∈ grantsOf rules := by
  have hresources : ∀ rule ∈ resourceRules rules, Grant.url url v ∉ rule.grants := by
    intro rule hrule hgrant
    have hkey : ⟨url⟩ ∈ rule.urlKeys := mem_urlKeys.mpr (url_mem_grants.mp hgrant).1
    rw [urlKeys_resourceRules hrule] at hkey
    cases hkey
  have hout : Grant.url url v ∈ grantsOf (normalizePolicyRules rules) ↔
      ∃ key ∈ mapNonResourceRulesToVerbs rules, key.url = url ∧
        v ∈ split (verbsKey (mapNonResourceRulesToVerbs rules) key) := by
    rw [normalizePolicyRules_eq, grantsOf, List.flatMap_append, List.mem_append,
      or_iff_right fun hmem => ?_, List.mem_flatMap]
    · refine exists_rule_iff (Q := fun verbs m => m = url ∧ v ∈ split verbs) fun verbs members => ?_
      rw [url_mem_grants]
      simp [nonResourcePolicyRule]
    · obtain ⟨rule, hrule, hgrant⟩ := List.mem_flatMap.mp hmem
      exact hresources rule hrule hgrant
  rw [hout]
  constructor
  · rintro ⟨key, hkey, rfl, hv⟩
    rw [mapNonResourceRulesToVerbs, split_verbsKey_proper h hkey, mem_sortedVerbs] at hv
    exact mem_values_url.mp hv
  · intro hgrant
    have hvalue : v ∈ values (mapNonResourceRulesToVerbs rules) ⟨url⟩ := mem_values_url.mpr hgrant
    have hkey : ⟨url⟩ ∈ mapNonResourceRulesToVerbs rules := (values_ne_nil h).mpr ⟨v, hvalue⟩
    refine ⟨_, hkey, rfl, ?_⟩
    rw [mapNonResourceRulesToVerbs, split_verbsKey_proper h hkey, mem_sortedVerbs]
    exact hvalue

theorem mem_grantsOf_normalize (h : ∀ rule ∈ rules, rule.Proper) (g : Grant) :
    g ∈ grantsOf (normalizePolicyRules rules) ↔ g ∈ grantsOf rules := by
  cases g with
  | resource g r names v => exact resource_mem_grantsOf_normalize h
  | url url v => exact url_mem_grantsOf_normalize h

theorem split_verbsKey_verbs {κ : Type} [DecidableEq κ] {keys : PolicyRule → List κ} {k : κ}
    (h : ∀ rule ∈ rules, rule.Proper) (hk : k ∈ mapRulesToVerbs keys rules) :
    split (verbsKey (mapRulesToVerbs keys rules) k) ≠ [] ∧
      ∀ v ∈ split (verbsKey (mapRulesToVerbs keys rules) k), v ≠ "" ∧ CommaFree v := by
  rw [split_verbsKey_proper h hk]
  obtain ⟨v, hv⟩ := (values_ne_nil h).mp hk
  exact ⟨List.ne_nil_of_mem (mem_sortedVerbs.mpr hv),
    fun v hv => commaFree_proper h v (mem_sortedVerbs.mp hv)⟩

theorem resourcePolicyRule_proper {members : List String}
    (hne : split key.verbs ≠ []) (hverbs : ∀ v ∈ split key.verbs, v ≠ "" ∧ CommaFree v)
    (hnames : ∀ n ∈ keyNames key.resourceNames, n ≠ "" ∧ CommaFree n) :
    (resourcePolicyRule key members).Proper :=
  ⟨hne, hverbs, hnames⟩

theorem nonResourcePolicyRule_proper {urls : List String}
    (hne : split verbs ≠ []) (hverbs : ∀ v ∈ split verbs, v ≠ "" ∧ CommaFree v) :
    (nonResourcePolicyRule verbs urls).Proper :=
  ⟨hne, hverbs, nofun⟩

theorem normalizePolicyRules_proper (h : ∀ rule ∈ rules, rule.Proper) :
    ∀ rule ∈ normalizePolicyRules rules, rule.Proper := by
  rw [normalizePolicyRules_eq]
  intro rule hrule
  rcases List.mem_append.mp hrule with hrule | hrule
  · obtain ⟨key', hkey', rfl⟩ := mem_buildPolicyRules.mp hrule
    obtain ⟨key, hkey, heq⟩ := mem_consolidateRules.mp hkey'
    have hverbs := split_verbsKey_verbs h hkey
    obtain ⟨rule, hrule, hnames⟩ := keyNames_sorted h hkey
    refine resourcePolicyRule_proper (heq ▸ hverbs.1) (heq ▸ hverbs.2) ?_
    rw [← heq, hnames]
    intro n hn
    exact (h rule hrule).names n (mem_sortStrings.mp hn)
  · obtain ⟨verbs, hkey', rfl⟩ := mem_buildPolicyRules.mp hrule
    obtain ⟨key, hkey, heq⟩ := mem_consolidateRules.mp hkey'
    have hverbs := split_verbsKey_verbs h hkey
    exact nonResourcePolicyRule_proper (heq ▸ hverbs.1) (heq ▸ hverbs.2)

/-! ## Every combination once -/

theorem mem_combinations_resourcePolicyRule :
    c ∈ (resourcePolicyRule key members).combinations ↔ key.apiGroup = c.1 ∧ c.2.1 ∈ members ∧
      sortStrings (keyNames key.resourceNames) = c.2.2 := by
  obtain ⟨g, r, names⟩ := c
  simp only [PolicyRule.combinations, resourcePolicyRule, keyNames, List.flatMap_cons,
    List.flatMap_nil, List.append_nil, List.mem_map, Prod.mk.injEq]
  constructor
  · rintro ⟨m, hm, rfl, rfl, rfl⟩
    exact ⟨rfl, hm, rfl⟩
  · rintro ⟨rfl, hm, rfl⟩
    exact ⟨r, hm, rfl, rfl, rfl⟩

theorem resourceRules_pairwise (h : ∀ rule ∈ rules, rule.Proper) :
    (resourceRules rules).Pairwise fun a b => ∀ c ∈ a.combinations, c ∉ b.combinations := by
  have hnodup : ((consolidateResourceRules (mapResourceRulesToVerbs rules)).keys.insertionSort
      fun a b => (compareConsolidationKeys a b).isLE).Nodup :=
    (List.perm_insertionSort _ _).nodup_iff.mpr (AList.keys_nodup _)
  refine List.pairwise_map.mpr (hnodup.imp_of_mem ?_)
  intro k₁ k₂ hk₁ hk₂ hne c hc₁ hc₂
  rw [(List.perm_insertionSort _ _).mem_iff] at hk₁ hk₂
  obtain ⟨hg₁, hm₁, hn₁⟩ := mem_combinations_resourcePolicyRule.mp hc₁
  obtain ⟨hg₂, hm₂, hn₂⟩ := mem_combinations_resourcePolicyRule.mp hc₂
  obtain ⟨key₁, hkey₁, rfl, hr₁⟩ := (mem_values_consolidateRules hk₁).mp hm₁
  obtain ⟨key₂, hkey₂, rfl, hr₂⟩ := (mem_values_consolidateRules hk₂).mp hm₂
  -- Both rules have the resource of one key, and a key is in one group only.
  obtain ⟨rule₁, -, hnames₁⟩ := keyNames_sorted h hkey₁
  obtain ⟨rule₂, -, hnames₂⟩ := keyNames_sorted h hkey₂
  have hsorted : ∀ names, sortStrings (sortStrings names) = sortStrings names :=
    fun names => sortStrings_of_perm (sortStrings_perm names)
  have hnames : keyNames key₁.resourceNames = keyNames key₂.resourceNames := by
    have hboth := hn₁.trans hn₂.symm
    rwa [hnames₁, hnames₂, hsorted, hsorted, ← hnames₁, ← hnames₂] at hboth
  have hkeys : key₁ = key₂ := by
    obtain ⟨g₁, r₁, n₁⟩ := key₁
    obtain ⟨g₂, r₂, n₂⟩ := key₂
    obtain rfl : g₁ = g₂ := hg₁.trans hg₂.symm
    obtain rfl : r₁ = r₂ := hr₁.trans hr₂.symm
    obtain rfl : n₁ = n₂ := by rw [← join_keyNames n₁, hnames, join_keyNames]
    rfl
  exact hne (hkeys ▸ rfl)

end

structure CanonicalForm (rules : List PolicyRule) : Prop where
  same_iff : ∀ rules', (∀ rule ∈ rules', rule.Proper) →
    (normalizePolicyRules rules = normalizePolicyRules rules' ↔
      ∀ g, g ∈ grantsOf rules ↔ g ∈ grantsOf rules')
  rearranged : ∀ rules', (∀ rule, rule ∈ rules ↔ rule ∈ rules') →
    normalizePolicyRules rules = normalizePolicyRules rules'
  divided : ∀ before rule after parts, rules = before ++ rule :: after →
    (∀ part ∈ parts, part.Proper) → (∀ g, g ∈ rule.grants ↔ g ∈ grantsOf parts) →
      normalizePolicyRules rules = normalizePolicyRules (before ++ (parts ++ after))
  fixed : normalizePolicyRules (normalizePolicyRules rules) = normalizePolicyRules rules
  disjoint : (normalizePolicyRules rules).Pairwise fun a b =>
    ∀ c ∈ a.combinations, c ∉ b.combinations

theorem normalizePolicyRules_canonical (rules : List PolicyRule)
    (h : ∀ rule ∈ rules, rule.Proper) : CanonicalForm rules where
  same_iff rules' h' := by
    refine ⟨fun heq g => ?_, normalizePolicyRules_same h h'⟩
    rw [← mem_grantsOf_normalize h, heq, mem_grantsOf_normalize h']
  rearranged rules' hmem := by
    refine normalizePolicyRules_same h (fun rule hrule => h rule ((hmem rule).mpr hrule)) fun g => ?_
    simp only [grantsOf, List.mem_flatMap, hmem]
  divided before rule after parts heq hparts hgrants := by
    subst heq
    refine normalizePolicyRules_same h ?_ fun g => ?_
    · simp only [List.mem_append, List.mem_cons] at h ⊢
      rintro part (hpart | hpart | hpart)
      · exact h part (.inl hpart)
      · exact hparts part hpart
      · exact h part (.inr (.inr hpart))
    · have hg := hgrants g
      simp only [grantsOf, List.flatMap_append, List.flatMap_cons, List.mem_append] at hg ⊢
      rw [hg]
  fixed := normalizePolicyRules_same (normalizePolicyRules_proper h) h (mem_grantsOf_normalize h)
  disjoint := by
    rw [normalizePolicyRules_eq]
    refine List.pairwise_append.mpr ⟨resourceRules_pairwise h, ?_, ?_⟩
    · refine List.pairwise_of_forall_mem_list fun a ha b _ c hc => ?_
      obtain ⟨verbs, -, rfl⟩ := mem_buildPolicyRules.mp ha
      cases hc
    · intro a _ b hb c _ hc
      obtain ⟨verbs, -, rfl⟩ := mem_buildPolicyRules.mp hb
      cases hc

theorem nodeAgentRules_reversed :
    normalizePolicyRules nodeAgentRules = normalizePolicyRules nodeAgentRules.reverse := by
  refine (normalizePolicyRules_canonical nodeAgentRules fun rule hrule => ?_).rearranged _ (by simp)
  have hplain := nodeAgentRules_plain rule hrule
  refine ⟨?_, hplain.verbs, hplain.names⟩
  simp only [nodeAgentRules, List.mem_cons, List.not_mem_nil, or_false] at hrule
  rcases hrule with rfl | rfl | rfl | rfl <;> simp

end DatadogOperator.Dependencies
