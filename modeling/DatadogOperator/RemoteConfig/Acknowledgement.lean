import DatadogOperator.RemoteConfig.Merge

/-!
# What is reported for an update

A path that is acknowledged should be in the status, and the paths of an update that was not
applied should be in error. Three endings break this: an update that cannot be decoded or
written is reported on one of its paths only, with no path to report it on if there is none,
and a write that meets a conflict is reported as applied.
-/

namespace DatadogOperator.RemoteConfig

open LastSet

def Updates.paths (u : Updates) : List String := u.entries.map Prod.fst

/-- The status that is persisted has the flags of the merged configuration. -/
def Outcome.Applied (json : Json) (u : Updates) (out : Outcome) : Prop :=
  ∃ cfg status, parseReceivedUpdates json u.decoded = .ok cfg ∧
    out.result.bind Result.persisted = some status ∧ ∀ f, status.flag f = cfg.flag f

/-- The callback returns, acknowledges only what was applied, and reports an error for every
path otherwise. -/
def ReportsTruly (json : Json) (u : Updates) (first : Attempt) (retries : List Attempt) : Prop :=
  ∃ out, agentConfigUpdateCallback json u first retries = some out ∧
    (∀ path ∈ u.paths, out.state path = some .acknowledged → out.Applied json u) ∧
    (¬ out.Applied json u → ∀ path ∈ u.paths, out.state path = some .error)

/-! ## Conditions -/

def Malformed (json : Json) (entry : String × RawConfig) : Prop :=
  if entry.2.id = configurationOrder then ∃ err, json.unmarshalOrder entry.2.config = .error err
  else ∃ err, json.unmarshalConfig entry.2.config = .error err

/-- No DatadogAgent is found, or its status has to be written and cannot. -/
def Attempt.Fails (cfg : DatadogAgentRemoteConfig) (a : Attempt) : Prop :=
  (∃ err, a.agents = .error err) ∨ a.agents = .ok [] ∨
    ∃ status rest err, a.agents = .ok (status :: rest) ∧ updateStatus cfg status ≠ status ∧
      a.write = .failed err

/-- The status has to be written, and meets a conflict with another one. -/
def Attempt.Conflicts (cfg : DatadogAgentRemoteConfig) (a : Attempt) (other : DatadogAgentStatus) :
    Prop :=
  ∃ status rest, a.agents = .ok (status :: rest) ∧ updateStatus cfg status ≠ status ∧
    a.write = .conflict other

/-- An update of one path may fail; one without paths may meet a conflict, and so may any
other if the status that is there instead has its flags. -/
structure Reportable (json : Json) (u : Updates) (first : Attempt) (retries : List Attempt) :
    Prop where
  malformed : (∃ entry ∈ u.entries, Malformed json entry) → u.entries.length = 1
  failing : ∀ cfg, parseReceivedUpdates json u.decoded = .ok cfg →
    (∀ a ∈ first :: retries, a.Fails cfg) → u.entries.length = 1
  contended : ∀ cfg, parseReceivedUpdates json u.decoded = .ok cfg →
    ∀ failed a later other, first :: retries = failed ++ a :: later →
      (∀ a ∈ failed, a.Fails cfg) → a.Conflicts cfg other →
        u.entries = [] ∨ ∀ f, other.flag f = cfg.flag f

/-! ## Decoding -/

section Decoding

variable {json : Json} {p : Decoded} {entries : List (String × RawConfig)}

theorem decodeEntry_error_iff (entry : String × RawConfig) :
    (∃ e, decodeEntry json p entry = .error e) ↔ Malformed json entry := by
  unfold decodeEntry Malformed
  split_ifs
  · rcases json.unmarshalOrder entry.2.config with err | order
    · exact ⟨fun _ => ⟨err, rfl⟩, fun _ => ⟨_, rfl⟩⟩
    · exact ⟨nofun, nofun⟩
  · rcases json.unmarshalConfig entry.2.config with err | config
    · exact ⟨fun _ => ⟨err, rfl⟩, fun _ => ⟨_, rfl⟩⟩
    · exact ⟨nofun, nofun⟩

theorem decodeEntry_error (h : decodeEntry json p entry = .error (path, err)) : path = entry.1 := by
  unfold decodeEntry at h
  split_ifs at h <;> split at h <;> cases h <;> rfl

theorem foldlM_error_iff :
    (∃ e, entries.foldlM (decodeEntry json) p = .error e) ↔ ∃ entry ∈ entries, Malformed json entry := by
  induction entries generalizing p with
  | nil => exact ⟨nofun, nofun⟩
  | cons entry entries ih =>
    rw [List.foldlM_cons, List.exists_mem_cons_iff]
    rcases hentry : decodeEntry json p entry with e | p'
    · have hbad := (decodeEntry_error_iff entry).mp ⟨e, hentry⟩
      exact ⟨fun _ => .inl hbad, fun _ => ⟨e, rfl⟩⟩
    · have hgood : ¬ Malformed json entry := by
        rw [← decodeEntry_error_iff (p := p), hentry]
        nofun
      rw [or_iff_right hgood]
      exact ih

theorem foldlM_error
    (h : entries.foldlM (decodeEntry json) p = .error (path, err)) : path ∈ entries.map Prod.fst := by
  induction entries generalizing p with
  | nil => cases h
  | cons entry entries ih =>
    rw [List.foldlM_cons] at h
    rcases hentry : decodeEntry json p entry with e | p'
    · rw [hentry] at h
      cases h
      rw [decodeEntry_error hentry]
      exact .head _
    · rw [hentry] at h
      exact .tail _ (ih h)

theorem parse_error_iff (u : Updates) : (∃ e, parseReceivedUpdates json u.decoded = .error e) ↔
      ∃ entry ∈ u.entries, Malformed json entry := by
  have hfold : (∃ e, u.decoded.foldlM (decodeEntry json) {} = .error e) ↔
      ∃ entry ∈ u.decoded, Malformed json entry := foldlM_error_iff
  have hmap : (∃ e, parseReceivedUpdates json u.decoded = .error e) ↔
      ∃ e, u.decoded.foldlM (decodeEntry json) {} = .error e := by
    unfold parseReceivedUpdates
    rcases u.decoded.foldlM (decodeEntry json) {} with e | p
    · exact ⟨fun _ => ⟨e, rfl⟩, fun _ => ⟨e, rfl⟩⟩
    · exact ⟨nofun, nofun⟩
  rw [hmap, hfold]
  simp only [u.perm.mem_iff]

theorem parse_error_path {u : Updates}
    (h : parseReceivedUpdates json u.decoded = .error (path, err)) : path ∈ u.paths := by
  unfold parseReceivedUpdates at h
  rcases hfold : u.decoded.foldlM (decodeEntry json) {} with e | p
  · rw [hfold] at h
    cases h
    exact (u.perm.map _).mem_iff.mp (foldlM_error hfold)
  · rw [hfold] at h
    cases h

end Decoding

/-! ## Attempts -/

section Attempts

variable {cfg : DatadogAgentRemoteConfig} {a first : Attempt} {retries : List Attempt}
  {other : DatadogAgentStatus}

theorem getAndUpdate_failed_iff :
    (∃ err, getAndUpdateDatadogAgent cfg a = .failed err) ↔ a.Fails cfg := by
  unfold getAndUpdateDatadogAgent Attempt.Fails updateInstanceStatus
  rcases a.agents with err | (_ | ⟨status, rest⟩)
  · exact ⟨fun _ => .inl ⟨err, rfl⟩, fun _ => ⟨_, rfl⟩⟩
  · exact ⟨fun _ => .inr (.inl rfl), fun _ => ⟨_, rfl⟩⟩
  · dsimp only
    split_ifs with hsame
    · simp [hsame]
    · rcases a.write with _ | _ | err
      · simp
      · simp
      · simp [hsame]

theorem getAndUpdate_contended_iff :
    getAndUpdateDatadogAgent cfg a = .contended other ↔ a.Conflicts cfg other := by
  unfold getAndUpdateDatadogAgent Attempt.Conflicts updateInstanceStatus
  rcases a.agents with err | (_ | ⟨status, rest⟩)
  · simp
  · simp
  · dsimp only
    split_ifs with hsame
    · simp [hsame]
    · rcases a.write with _ | _ | err
      · simp
      · simp [hsame]
      · simp

theorem Attempt.Conflicts.not_fails (h : a.Conflicts cfg other) : ¬ a.Fails cfg := by
  rw [← getAndUpdate_contended_iff] at h
  rw [← getAndUpdate_failed_iff, h]
  nofun

theorem withRetry_nil :
    getAndUpdateDatadogAgentWithRetry cfg a [] = getAndUpdateDatadogAgent cfg a := rfl

theorem withRetry_cons (h : a.Fails cfg) (next : Attempt) :
    getAndUpdateDatadogAgentWithRetry cfg a (next :: retries) =
      getAndUpdateDatadogAgentWithRetry cfg next retries := by
  obtain ⟨err, herr⟩ := getAndUpdate_failed_iff.mpr h
  rw [getAndUpdateDatadogAgentWithRetry, herr]

theorem withRetry_stop (h : ¬ a.Fails cfg) :
    getAndUpdateDatadogAgentWithRetry cfg a retries = getAndUpdateDatadogAgent cfg a := by
  cases retries with
  | nil => rfl
  | cons next retries =>
    rw [getAndUpdateDatadogAgentWithRetry]
    split
    · rename_i err herr
      exact absurd (getAndUpdate_failed_iff.mp ⟨err, herr⟩) h
    · rfl

theorem withRetry_failed_iff :
    (∃ err, getAndUpdateDatadogAgentWithRetry cfg first retries = .failed err) ↔
      ∀ a ∈ first :: retries, a.Fails cfg := by
  induction retries generalizing first with
  | nil => rw [withRetry_nil, getAndUpdate_failed_iff, List.forall_mem_singleton]
  | cons next retries ih =>
    rw [List.forall_mem_cons]
    by_cases hfails : first.Fails cfg
    · rw [withRetry_cons hfails, ih]
      exact ⟨fun h => ⟨hfails, h⟩, fun h => h.2⟩
    · rw [withRetry_stop hfails, getAndUpdate_failed_iff]
      exact ⟨fun h => absurd h hfails, fun h => h.1⟩

theorem withRetry_contended_iff :
    getAndUpdateDatadogAgentWithRetry cfg first retries = .contended other ↔
      ∃ failed a later, first :: retries = failed ++ a :: later ∧ (∀ a ∈ failed, a.Fails cfg) ∧
        a.Conflicts cfg other := by
  constructor
  · intro h
    induction retries generalizing first with
    | nil =>
      rw [withRetry_nil, getAndUpdate_contended_iff] at h
      exact ⟨[], first, [], rfl, List.forall_mem_nil _, h⟩
    | cons next retries ih =>
      by_cases hfails : first.Fails cfg
      · rw [withRetry_cons hfails] at h
        obtain ⟨failed, a, later, heq, hfailed, ha⟩ := ih h
        refine ⟨first :: failed, a, later, by rw [heq]; rfl, ?_, ha⟩
        exact List.forall_mem_cons.mpr ⟨hfails, hfailed⟩
      · rw [withRetry_stop hfails, getAndUpdate_contended_iff] at h
        exact ⟨[], first, next :: retries, rfl, List.forall_mem_nil _, h⟩
  · rintro ⟨failed, a, later, heq, hfailed, ha⟩
    induction failed generalizing first retries with
    | nil =>
      cases heq
      rw [withRetry_stop ha.not_fails]
      exact getAndUpdate_contended_iff.mpr ha
    | cons b failed ih =>
      obtain ⟨rfl, hrest⟩ := List.cons.inj heq
      obtain ⟨hb, hfailed⟩ := List.forall_mem_cons.mp hfailed
      cases retries with
      | nil => cases failed <;> cases hrest
      | cons next retries =>
        rw [withRetry_cons hb]
        exact ih hrest hfailed

end Attempts

/-! ## States of paths -/

section States

variable {ids : List String} {path : String}

def givenTo (path : String) (call : String × ApplyStatus) : Option ApplyState :=
  if call.1 = path then some call.2.state else none

theorem lastSet_map (st : ApplyStatus) (h : path ∈ ids) :
    lastSet (givenTo path) (ids.map fun id => (id, st)) = some st.state := by
  induction ids with
  | nil => cases h
  | cons id ids ih =>
    rw [List.map_cons, ← List.singleton_append, lastSet_append]
    by_cases hmem : path ∈ ids
    · rw [ih hmem]
      rfl
    · have hid : id = path := ((List.mem_cons.mp h).resolve_right hmem).symm
      have hnone : lastSet (givenTo path) (ids.map fun id => (id, st)) = none := by
        rw [← Option.not_isSome_iff_eq_none, lastSet_isSome]
        rintro ⟨call, hcall, hsome⟩
        obtain ⟨id', hid', rfl⟩ := List.mem_map.mp hcall
        unfold givenTo at hsome
        split_ifs at hsome with heq
        · exact hmem (heq ▸ hid')
        · cases hsome
      rw [hnone, hid]
      simp [lastSet, givenTo]

/-- The calls that report an error for one of the paths. -/
def errorCalls (ids : List String) (bad err : String) : List (String × ApplyStatus) :=
  ids.map (fun id => (id, { state := .unacknowledged })) ++ [(bad, ⟨.error, err⟩)]

def acknowledgeCalls (ids : List String) : List (String × ApplyStatus) :=
  ids.map (fun id => (id, { state := .unacknowledged })) ++
    ids.map fun id => (id, { state := .acknowledged })

theorem state_error (result : Option Result) (bad err : String) (h : path ∈ ids) :
    Outcome.state ⟨errorCalls ids bad err, result⟩ path =
      some (if bad = path then .error else .unacknowledged) := by
  change lastSet (givenTo path) (errorCalls ids bad err) = _
  unfold errorCalls
  rw [lastSet_append_singleton, lastSet_map _ h]
  unfold givenTo
  split_ifs <;> rfl

theorem state_acknowledged (result : Option Result) (h : path ∈ ids) :
    Outcome.state ⟨acknowledgeCalls ids, result⟩ path = some .acknowledged := by
  change lastSet (givenTo path) (acknowledgeCalls ids) = _
  unfold acknowledgeCalls
  rw [lastSet_append, lastSet_map _ h]
  rfl

theorem length_eq_one_iff_of_nodup (hnodup : ids.Nodup) (h : path ∈ ids) :
    ids.length = 1 ↔ ∀ id ∈ ids, path = id := by
  constructor
  · intro hlen id hid
    obtain ⟨x, rfl⟩ := List.length_eq_one_iff.mp hlen
    rw [List.mem_singleton.mp h, List.mem_singleton.mp hid]
  · intro hall
    rcases ids with _ | ⟨x, _ | ⟨y, l⟩⟩
    · cases h
    · rfl
    · have hx := hall x (by simp)
      have hy := hall y (by simp)
      rw [← hx, ← hy] at hnodup
      simp at hnodup

end States

/-! ## The callback, by how it ends -/

section Endings

variable {json : Json} {u : Updates} {first : Attempt} {retries : List Attempt}

theorem reportsTruly_error (hbad : bad ∈ u.paths)
    (h : agentConfigUpdateCallback json u first retries = some ⟨errorCalls u.paths bad err, result⟩)
    (hfailed : ¬ Outcome.Applied json u ⟨errorCalls u.paths bad err, result⟩) :
    ReportsTruly json u first retries ↔ u.entries.length = 1 := by
  have hpaths : u.paths.length = u.entries.length := List.length_map _
  have hnodup : u.paths.Nodup := u.nodup
  rw [← hpaths, length_eq_one_iff_of_nodup hnodup hbad]
  constructor
  · rintro ⟨out, hout, -, herror⟩ path hpath
    rw [h] at hout
    cases hout
    have hstate := herror hfailed path hpath
    rw [state_error result bad err hpath] at hstate
    by_contra hne
    rw [if_neg hne] at hstate
    cases hstate
  · intro hall
    refine ⟨_, h, ?_, ?_⟩
    · intro path hpath hstate
      rw [state_error result bad err hpath, if_pos (hall path hpath)] at hstate
      cases hstate
    · intro _ path hpath
      rw [state_error result bad err hpath, if_pos (hall path hpath)]

theorem reportsTruly_malformed {e : String × String}
    (h : parseReceivedUpdates json u.decoded = .error e) :
    ReportsTruly json u first retries ↔ u.entries.length = 1 := by
  obtain ⟨path, err⟩ := e
  have hcallback : agentConfigUpdateCallback json u first retries =
      some ⟨errorCalls u.paths path err, none⟩ := by
    unfold agentConfigUpdateCallback
    rw [h]
    rfl
  refine reportsTruly_error (parse_error_path h) hcallback ?_
  rintro ⟨cfg, status, hparse, -⟩
  rw [h] at hparse
  cases hparse

variable {cfg : DatadogAgentRemoteConfig}

theorem reportsTruly_failing (h : parseReceivedUpdates json u.decoded = .ok cfg)
    (hretry : getAndUpdateDatadogAgentWithRetry cfg first retries = .failed err) :
    ReportsTruly json u first retries ↔ u.entries.length = 1 := by
  have hcallback : agentConfigUpdateCallback json u first retries =
      u.paths.getLast?.map fun id => ⟨errorCalls u.paths id err, some (.failed err)⟩ := by
    unfold agentConfigUpdateCallback
    rw [h]
    dsimp only
    rw [hretry]
    rfl
  rcases hlast : u.paths.getLast? with _ | bad
  · rw [hlast] at hcallback
    have hnil : u.entries = [] := by
      simpa [Updates.paths, List.getLast?_eq_none_iff] using hlast
    rw [hnil]
    constructor
    · rintro ⟨out, hout, -⟩
      rw [hcallback] at hout
      cases hout
    · nofun
  · rw [hlast] at hcallback
    refine reportsTruly_error (List.mem_of_getLast? hlast) hcallback ?_
    rintro ⟨cfg', status, -, hstatus, -⟩
    cases hstatus

theorem reportsTruly_acknowledged (h : parseReceivedUpdates json u.decoded = .ok cfg)
    (hretry : getAndUpdateDatadogAgentWithRetry cfg first retries = result)
    (hstatus : result.persisted = some status) :
    ReportsTruly json u first retries ↔ u.entries = [] ∨ ∀ f, status.flag f = cfg.flag f := by
  have hcallback : agentConfigUpdateCallback json u first retries =
      some ⟨acknowledgeCalls u.paths, some result⟩ := by
    unfold agentConfigUpdateCallback
    rw [h]
    dsimp only
    rw [hretry]
    cases result with
    | updated _ _ => rfl
    | contended _ => rfl
    | failed _ => cases hstatus
  have happlied : Outcome.Applied json u ⟨acknowledgeCalls u.paths, some result⟩ ↔
      ∀ f, status.flag f = cfg.flag f := by
    constructor
    · rintro ⟨cfg', status', hparse, hpersisted, hflags⟩
      rw [h] at hparse
      cases hparse
      cases hstatus.symm.trans hpersisted
      exact hflags
    · intro hflags
      exact ⟨cfg, status, h, hstatus, hflags⟩
  constructor
  · rintro ⟨out, hout, hack, -⟩
    rw [hcallback] at hout
    cases hout
    rcases hentries : u.entries with _ | ⟨entry, rest⟩
    · exact .inl rfl
    · refine .inr (happlied.mp ?_)
      have hmem : entry.1 ∈ u.paths := by simp [Updates.paths, hentries]
      exact hack entry.1 hmem (state_acknowledged _ hmem)
  · intro hor
    refine ⟨_, hcallback, ?_, ?_⟩
    · intro path hpath _
      refine happlied.mpr (hor.resolve_left ?_)
      rintro hnil
      rw [Updates.paths, hnil] at hpath
      cases hpath
    · intro hnot path hpath
      rw [happlied] at hnot
      rw [Updates.paths, hor.resolve_right hnot] at hpath
      cases hpath

theorem reportable_iff (h : parseReceivedUpdates json u.decoded = .ok cfg) :
    Reportable json u first retries ↔
      ((∃ err, getAndUpdateDatadogAgentWithRetry cfg first retries = .failed err) →
        u.entries.length = 1) ∧
      ∀ other, getAndUpdateDatadogAgentWithRetry cfg first retries = .contended other →
        u.entries = [] ∨ ∀ f, other.flag f = cfg.flag f := by
  have hwell : ¬ ∃ entry ∈ u.entries, Malformed json entry := by
    rw [← parse_error_iff, h]
    nofun
  constructor
  · intro hrep
    refine ⟨?_, ?_⟩
    · rw [withRetry_failed_iff]
      exact hrep.failing cfg h
    · intro other hother
      obtain ⟨failed, a, later, heq, hfails, ha⟩ := withRetry_contended_iff.mp hother
      exact hrep.contended cfg h failed a later other heq hfails ha
  · rintro ⟨hfailed, hcontended⟩
    refine ⟨fun hbad => absurd hbad hwell, ?_, ?_⟩
    · intro cfg' hok hfails
      rw [h] at hok
      cases hok
      exact hfailed (withRetry_failed_iff.mpr hfails)
    · intro cfg' hok failed a later other heq hfails ha
      rw [h] at hok
      cases hok
      exact hcontended other (withRetry_contended_iff.mpr ⟨failed, a, later, heq, hfails, ha⟩)

theorem reportable_malformed (h : parseReceivedUpdates json u.decoded = .error e) :
    Reportable json u first retries ↔ u.entries.length = 1 := by
  constructor
  · intro hrep
    exact hrep.malformed ((parse_error_iff u).mp ⟨e, h⟩)
  · intro hone
    refine ⟨fun _ => hone, ?_, ?_⟩
    · intro cfg hok
      rw [h] at hok
      cases hok
    · intro cfg hok
      rw [h] at hok
      cases hok

end Endings

/-- The callback reports truly of exactly the updates that are `Reportable`. -/
theorem reportsTruly_iff (json : Json) (u : Updates) (first : Attempt) (retries : List Attempt) :
    ReportsTruly json u first retries ↔ Reportable json u first retries := by
  rcases hparse : parseReceivedUpdates json u.decoded with e | cfg
  · rw [reportsTruly_malformed hparse, reportable_malformed hparse]
  · rw [reportable_iff hparse]
    rcases hretry : getAndUpdateDatadogAgentWithRetry cfg first retries with
      ⟨before, after⟩ | other | err
    · -- the status was written, or needed no write
      have hflags : ∀ f, after.flag f = cfg.flag f := by
        intro f
        rw [withRetry_updated hretry, updateStatus_flag]
      rw [reportsTruly_acknowledged hparse hretry rfl]
      exact ⟨fun _ => ⟨by simp, by simp⟩, fun _ => .inr hflags⟩
    · rw [reportsTruly_acknowledged hparse hretry rfl]
      refine ⟨fun hor => ⟨by simp, ?_⟩, fun h => h.2 other rfl⟩
      intro other' hsame
      rw [← Result.contended.inj hsame]
      exact hor
    · rw [reportsTruly_failing hparse hretry]
      exact ⟨fun hone => ⟨fun _ => hone, by simp⟩, fun h => h.1 ⟨err, rfl⟩⟩

/-! ## Four endings -/

def emptyUpdates : Updates := ⟨[], [], by decide, by decide⟩

def malformedUpdates : Updates where
  entries := [("1/order", ⟨configurationOrder, "truncated"⟩), ("2/base", ⟨"base", "no usm"⟩)]
  decoded := [("1/order", ⟨configurationOrder, "truncated"⟩), ("2/base", ⟨"base", "no usm"⟩)]
  nodup := by decide
  perm := by decide

/-- The status write meets a conflict, and USM stays enabled. -/
def contendedAttempt : Attempt := { agents := .ok [exampleStatus], write := .conflict exampleStatus }

def exampleStates (u : Updates) (a : Attempt) : Option (List (Option ApplyState)) :=
  (agentConfigUpdateCallback exampleJson u a []).map fun out => u.paths.map out.state

/-- The status write of an empty update fails, and the callback panics; a malformed order and
a failed write leave paths unacknowledged; and a conflict is acknowledged. -/
theorem updates_reported_wrongly : exampleStates emptyUpdates { agents := .ok [] } = none ∧
    exampleStates malformedUpdates { agents := .ok [exampleStatus] } =
      some [some .error, some .unacknowledged] ∧
    exampleStates exampleUpdates { agents := .ok [exampleStatus], write := .failed "forbidden" } =
      some [some .unacknowledged, some .unacknowledged, some .error] ∧
    exampleStates exampleUpdates contendedAttempt =
      some [some .acknowledged, some .acknowledged, some .acknowledged] ∧
    exampleStatus.flag .usm = some true ∧ exampleUpdates.flag exampleJson .usm = some false ∧
    ¬ ReportsTruly exampleJson exampleUpdates contendedAttempt [] := by
  have hwanted : exampleUpdates.flag exampleJson .usm = some false := by decide +kernel
  refine ⟨by decide +kernel, by decide +kernel, by decide +kernel, by decide +kernel, rfl,
    hwanted, ?_⟩
  rintro ⟨out, hout, hack, -⟩
  have hresult : (agentConfigUpdateCallback exampleJson exampleUpdates contendedAttempt []).map
      (fun out => (out.result, out.state "1/order")) =
        some (some (.contended exampleStatus), some .acknowledged) := by
    decide +kernel
  rw [hout] at hresult
  obtain ⟨hresult, hstate⟩ := Prod.mk.inj (Option.some.inj hresult)
  obtain ⟨cfg, status, hparse, hstatus, hflags⟩ := hack "1/order" (by decide) hstate
  rw [hresult] at hstatus
  cases hstatus
  have husm := hflags .usm
  rw [(merged_of_parse hparse (by decide)).1, hwanted] at husm
  exact absurd husm (by decide)

end DatadogOperator.RemoteConfig
