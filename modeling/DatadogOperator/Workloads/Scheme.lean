import DatadogOperator.Workloads.CreateOrUpdate

/-!
# The scheme of the three functions

Deployments, DaemonSets and ExtendedDaemonSets go the same way to the server: a missing one is
created, its owner is made right, a changed selector deletes it, an unchanged hash ends the
call, and all else is an update. They differ in what they compare and merge. A `Scheme` has
these differences, `Scheme.createOrUpdate` is the common way, and `Scheme.settles` says when
one call leaves a workload as it is wanted.
-/

namespace DatadogOperator.Workloads

open Profiles Dependencies

variable {σ : Type}

/-! ## What is to be shown -/

/-- One of the functions, and what its specs should become on the server:
`Meets call desired before after`. -/
structure Component (σ : Type) where
  createOrUpdate : Call → Workload σ → Server σ → Result σ
  selector : σ → Option LabelSelector
  Meets : Call → σ → Option σ → σ → Prop

def CarriesMeta (object w : Workload σ) : Prop :=
  Carries object.labels w.labels ∧ Carries object.annotations w.annotations

instance (object w : Workload σ) : Decidable (CarriesMeta object w) :=
  inferInstanceAs (Decidable (_ ∧ _))

/-- The workload is on the server as wanted, and the same call again writes nothing. -/
def Component.Applied (c : Component σ) (call : Call) (w : Workload σ) (before : Option σ)
    (s : Server σ) : Prop :=
  (∃ o, s.objects w.key = some o ∧ c.Meets call w.spec before o.object.spec ∧
    CarriesMeta o.object w) ∧
  (c.createOrUpdate call w s).log = []

/-- The same call again makes the workload anew, with its selector. -/
def Component.Recreated (c : Component σ) (call : Call) (w : Workload σ) (old : Stored σ)
    (s : Server σ) : Prop :=
  (c.createOrUpdate call w s).err = none →
    ∃ o, (c.createOrUpdate call w s).server.objects w.key = some o ∧
      c.selector o.object.spec = c.selector w.spec ∧ o.uid ≠ old.uid

def Component.Reselects (c : Component σ) (w : Workload σ) (old : Stored σ) : Prop :=
  c.selector old.object.spec ≠ c.selector w.spec

/-- What a call without an error leads to. A workload that is deleted has another selector. -/
def Component.Settled (c : Component σ) (call : Call) (w : Workload σ) (stored : Option (Stored σ))
    (r : Result σ) : Prop :=
  r.err = none →
    ((∃ old, stored = some old ∧ c.Reselects w old ∧ r.server.objects w.key = none) ∨
      c.Applied call w (stored.map (·.object.spec)) r.server) ∧
    ∀ old, stored = some old → c.Reselects w old → c.Recreated call w old r.server

def Component.Converges (c : Component σ) (call : Call) (w : Workload σ) (s : Server σ) : Prop :=
  call.calls = {} → c.Settled call w (s.objects w.key) (c.createOrUpdate call w s)

/-! ## Stored workloads -/

/-- The stored annotations have the hash of the spec of the last write. `Like spec applied`
says how the two specs may differ. -/
structure Stored.Sound (md5 : σ → String) (Like : σ → σ → Prop) (key : NamespacedName)
    (o : Stored σ) : Prop where
  key : o.object.key = key
  hash : o.object.annotations.lookup md5AgentDeploymentAnnotationKey = some (md5 o.applied)
  like : Like o.object.spec o.applied

def Server.Sound (md5 : σ → String) (Like : σ → σ → Prop) (s : Server σ) : Prop :=
  ∀ key o, s.objects key = some o → o.Sound md5 Like key ∧ o.uid < s.nextUID

section Servers

variable {md5 : σ → String} {Like : σ → σ → Prop} {s s' : Server σ} {key : NamespacedName}
  {o : Stored σ} {schema : Schema σ} {texts : Texts} {call : Call} {w : Workload σ}
  {current : Stored σ} {applied : σ} {log : List Write}

@[simp] theorem put_objects_self (v : Option (Stored σ)) : (s.put key v).objects key = v :=
  Function.update_self ..

theorem put_objects_ne (v : Option (Stored σ)) (h : key' ≠ key) :
    (s.put key v).objects key' = s.objects key' :=
  Function.update_of_ne h ..

theorem put_self (h : s.objects key = some o) : s.put key (some o) = s := by
  unfold Server.put
  rw [← h, Function.update_eq_self]

theorem Server.Sound.of_sub (hs : s.Sound md5 Like) (huid : s'.nextUID = s.nextUID)
    (hsub : ∀ key o, s'.objects key = some o → s.objects key = some o) : s'.Sound md5 Like := by
  intro key o ho
  rw [huid]
  exact hs key o (hsub key o ho)

theorem Server.Sound.put (hs : s.Sound md5 Like) (ho : o.Sound md5 Like key)
    (huid : o.uid < s.nextUID) : (s.put key (some o)).Sound md5 Like := by
  intro key' o' ho'
  by_cases hkey : key' = key
  · subst hkey
    rw [put_objects_self] at ho'
    cases ho'
    exact ⟨ho, huid⟩
  · rw [put_objects_ne _ hkey] at ho'
    exact hs key' o' ho'

theorem Server.Sound.create (hs : s.Sound md5 Like) (ho : o.Sound md5 Like key)
    (huid : o.uid = s.nextUID) :
    Server.Sound md5 Like { s.put key (some o) with nextUID := s.nextUID + 1 } := by
  refine Server.Sound.put (s := { s with nextUID := s.nextUID + 1 }) ?_ ho
    (huid.trans_lt (Nat.lt_succ_self _))
  intro key' o' ho'
  exact ⟨(hs key' o' ho').1, (hs key' o' ho').2.trans (Nat.lt_succ_self _)⟩

theorem Server.Sound.modify (hs : s.Sound md5 Like)
    (hf : ∀ o, o.Sound md5 Like key → (f o).Sound md5 Like key) (huid : ∀ o, (f o).uid = o.uid) :
    (s.modify key f).Sound md5 Like := by
  unfold Server.modify
  cases hkey : s.objects key with
  | none =>
    refine hs.of_sub rfl ?_
    intro key' o' ho'
    by_cases h : key' = key
    · subst h
      rw [put_objects_self] at ho'
      cases ho'
    · rwa [put_objects_ne _ h] at ho'
  | some o =>
    obtain ⟨ho, hlt⟩ := hs key o hkey
    exact hs.put (hf o ho) (by rw [huid]; exact hlt)

theorem Server.Sound.own (hs : s.Sound md5 Like) (refs : List OwnerReference) :
    (s.modify key (.own refs)).Sound md5 Like :=
  hs.modify (fun _ ho => ⟨ho.key, ho.hash, ho.like⟩) fun _ => rfl

theorem Stored.sound_new (hhash : w.annotations.lookup md5AgentDeploymentAnnotationKey =
    some (md5 applied)) (hlike : Like (schema.defaults w.spec) applied) (uid : Nat) (ddai : DDAI) :
    (Stored.new schema ddai w uid applied).Sound md5 Like w.key :=
  ⟨rfl, hhash, hlike⟩

/-! ## The parts of a call -/

theorem createWorkload_cases {P : Result σ → Prop}
    (hfail : ∀ e report, P { server := s, err := some e, report })
    (hok : schema.accepts none w.spec = true → ∀ report,
      P { server := { s.put w.key (some (.new schema call.ddai w s.nextUID w.spec)) with
            nextUID := s.nextUID + 1 }, log := [.create], report }) :
    P (createWorkload schema texts call w s) := by
  unfold createWorkload Server.create
  cases call.calls.write with
  | some e => exact hfail _ _
  | none =>
    dsimp only [attempt]
    by_cases h : schema.accepts none w.spec = true
    · rw [if_pos h]
      exact hok h _
    · rw [if_neg h]
      exact hfail _ _

theorem updateWorkload_cases {P : Result σ → Prop}
    (hfail : ∀ e report, P { server := s, log, err := some e, report })
    (hok : schema.accepts (some current.object.spec) w.spec = true → ∀ log report,
      P { server := s.put w.key (some (.new schema call.ddai w current.uid applied)), log, report }) :
    P (updateWorkload schema texts call current w applied s log) := by
  unfold updateWorkload Server.update
  cases call.calls.write with
  | some e => exact hfail _ _
  | none =>
    dsimp only [attempt]
    by_cases h : schema.accepts (some current.object.spec) w.spec = true
    · rw [if_pos h]
      exact hok h _ _
    · rw [if_neg h]
      exact hfail _ _

theorem deleting_cases {P : Result σ → Prop} (hfail : ∀ err, P { server := s, log, err })
    (hok : ∀ log, P { server := deleted, log }) : P (deleting call deleted s log) := by
  unfold deleting
  split
  · exact hok _
  · exact hfail _
  · exact hfail _

theorem patchingOwner_cases {P : Result σ → Prop} (hcurrent : s.objects key = some current)
    (hfail : ∀ e report, P { server := s, err := some e, report })
    (hok : ∀ refs log, shouldUpdateOwnerReference refs = false →
      P (next (s.put key (some (current.own refs))) (current.own refs) log)) :
    P (patchingOwner texts call key current s next) := by
  unfold patchingOwner
  split_ifs with h
  · cases call.calls.patch with
    | some e => exact hfail _ _
    | none => exact hok _ _ (shouldUpdateOwnerReference_patch _ _)
  · have hsame := hok current.ownerReferences [] (by simpa using h)
    rwa [show current.own current.ownerReferences = current from rfl, put_self hcurrent] at hsame

theorem patchingOwner_quiet (h : shouldUpdateOwnerReference current.ownerReferences = false) :
    patchingOwner texts call key current s next = next s current [] := by
  unfold patchingOwner
  rw [h]
  rfl

end Servers

/-! ## The scheme -/

structure Scheme (σ : Type) where
  schema : Schema σ
  texts : Texts
  upToDate : Option Report
  md5 : σ → String
  finalize : Call → σ → σ
  /-- The wanted spec, beside the stored one. -/
  adjust : σ → σ → σ
  restart : Workload σ → Workload σ → Bool
  deleted : Workload σ → Server σ → Server σ
  /-- What is compared besides the hash: the stored spec, the wanted one. -/
  same : σ → σ → Bool
  updated : Workload σ → Workload σ → Workload σ

namespace Scheme

variable (k : Scheme σ)

def finalized (call : Call) (w : Workload σ) : Workload σ :=
  { w with spec := k.finalize call w.spec }

def hashed (w : Workload σ) : Workload σ :=
  setMD5DatadogAgentGenerationAnnotation (k.md5 w.spec) w

def adjusted (call : Call) (w current : Workload σ) : Workload σ :=
  k.hashed { w with spec := k.adjust (k.finalize call w.spec) current.spec }

/-- A workload as the server keeps it. -/
def written (w : Workload σ) : Workload σ := { w with spec := k.schema.defaults w.spec }

def isCurrent (call : Call) (w current : Workload σ) : Bool :=
  isSameSpecMD5Hash (k.md5 (k.adjusted call w current).spec) current.annotations &&
    k.same current.spec (k.adjusted call w current).spec

def updateOrRestart (call : Call) (w : Workload σ) (s : Server σ) (current : Stored σ)
    (log : List Write) : Result σ :=
  if k.restart (k.finalized call w) current.object then
    deleting call (k.deleted (k.finalized call w) s) s log
  else if k.isCurrent call w current.object then { server := s, log, report := k.upToDate }
  else
    let adjusted := k.adjusted call w current.object
    updateWorkload k.schema k.texts call current (k.updated adjusted current.object) adjusted.spec
      s log

def createOrUpdate (call : Call) (w : Workload σ) (s : Server σ) : Result σ :=
  match call.calls.get with
  | some e => { server := s, err := some e }
  | none =>
    match s.objects w.key with
    | none => createWorkload k.schema k.texts call (k.hashed (k.finalized call w)) s
    | some current => patchingOwner k.texts call w.key current s (k.updateOrRestart call w)

/-! ## Hashes are kept -/

structure Lawful (Like : σ → σ → Prop) : Prop where
  deleted_nextUID : ∀ w s, (k.deleted w s).nextUID = s.nextUID
  deleted_sub : ∀ w s key o, (k.deleted w s).objects key = some o → s.objects key = some o
  updated_key : ∀ w current, (k.updated w current).key = w.key
  updated_annotations : ∀ w current key value, w.annotations.lookup key = some value →
    (k.updated w current).annotations.lookup key = some value
  like_new : ∀ spec, Like (k.schema.defaults spec) spec
  like_updated : ∀ w current, Like (k.schema.defaults (k.updated w current).spec) w.spec

variable {k} {Like : σ → σ → Prop} {s : Server σ} {call : Call} {w : Workload σ}

theorem hashed_lookup (w : Workload σ) :
    (k.hashed w).annotations.lookup md5AgentDeploymentAnnotationKey = some (k.md5 w.spec) :=
  Finmap.lookup_insert _

theorem updateOrRestart_sound (hk : k.Lawful Like) (hs : s.Sound k.md5 Like) {current : Stored σ}
    (hcurrent : current.uid < s.nextUID) (log : List Write) :
    (k.updateOrRestart call w s current log).server.Sound k.md5 Like := by
  unfold updateOrRestart
  split_ifs
  · refine deleting_cases (P := fun r => r.server.Sound k.md5 Like) (fun _ => hs) fun _ => ?_
    exact hs.of_sub (hk.deleted_nextUID _ _) (hk.deleted_sub _ _)
  · exact hs
  · refine updateWorkload_cases (P := fun r => r.server.Sound k.md5 Like) (fun _ _ => hs)
      fun _ _ _ => ?_
    refine hs.put (Stored.sound_new ?_ (hk.like_updated _ _) _ _) hcurrent
    exact hk.updated_annotations _ _ _ _ (hashed_lookup _)

theorem createOrUpdate_sound (hk : k.Lawful Like) (hs : s.Sound k.md5 Like) :
    (k.createOrUpdate call w s).server.Sound k.md5 Like := by
  unfold createOrUpdate
  split
  · exact hs
  · split
    · refine createWorkload_cases (P := fun r => r.server.Sound k.md5 Like) (fun _ _ => hs)
        fun _ _ => ?_
      exact hs.create (Stored.sound_new (hashed_lookup _) (hk.like_new _) _ _) rfl
    · rename_i current hcurrent
      obtain ⟨ho, huid⟩ := hs _ _ hcurrent
      refine patchingOwner_cases (P := fun r => r.server.Sound k.md5 Like) hcurrent
        (fun _ _ => hs) fun refs log _ => ?_
      have hown : (current.own refs).Sound k.md5 Like w.key := ⟨ho.key, ho.hash, ho.like⟩
      have huid' : (current.own refs).uid < s.nextUID := huid
      exact updateOrRestart_sound hk (hs.put hown huid') huid' log

/-! ## One call -/

/-- A stored workload that is as wanted, and that a call leaves alone. -/
structure Done (k : Scheme σ) (c : Component σ) (call : Call) (w : Workload σ) (before : Option σ)
    (object : Workload σ) : Prop where
  meets : c.Meets call w.spec before object.spec
  carries : CarriesMeta object w
  restart : k.restart (k.finalized call w) object = false
  current : k.isCurrent call w object = true

/-- Every way a call can go ends with the wanted workload, or with none of another selector. -/
structure Fits (k : Scheme σ) (c : Component σ) (call : Call) (w : Workload σ) (s : Server σ) :
    Prop where
  selector : c.selector (k.schema.defaults (k.finalize call w.spec)) = c.selector w.spec
  created : k.schema.accepts none (k.finalize call w.spec) = true →
    k.Done c call w none (k.written (k.hashed (k.finalized call w)))
  restarted : ∀ o, s.objects w.key = some o → k.restart (k.finalized call w) o.object = true →
    c.Reselects w o ∧
    ∀ refs, (k.deleted (k.finalized call w) (s.put w.key (some (o.own refs)))).objects w.key = none
  kept : ∀ o, s.objects w.key = some o → k.restart (k.finalized call w) o.object = false →
    k.isCurrent call w o.object = true →
    ¬ c.Reselects w o ∧ k.Done c call w (some o.object.spec) o.object
  updated : ∀ o, s.objects w.key = some o → k.restart (k.finalized call w) o.object = false →
    k.isCurrent call w o.object = false →
    k.schema.accepts (some o.object.spec)
      (k.updated (k.adjusted call w o.object) o.object).spec = true →
    ¬ c.Reselects w o ∧ k.Done c call w (some o.object.spec)
      (k.written (k.updated (k.adjusted call w o.object) o.object))

variable {c : Component σ} {o : Stored σ} {before : Option σ}

theorem applied_eq (ho : o.Sound k.md5 Like key)
    (hspec : k.md5 o.applied = k.md5 (k.adjust (k.finalize call w.spec) o.object.spec) →
      o.applied = k.adjust (k.finalize call w.spec) o.object.spec)
    (hcurrent : k.isCurrent call w o.object = true) :
    o.applied = k.adjust (k.finalize call w.spec) o.object.spec := by
  have hsame := (Bool.and_eq_true _ _ ▸ hcurrent).1
  unfold isSameSpecMD5Hash at hsame
  rw [ho.hash] at hsame
  exact hspec (Option.some.inj (beq_iff_eq.mp hsame))

theorem Done.quiet (hcalls : call.calls = {}) (ho : s.objects w.key = some o)
    (howner : shouldUpdateOwnerReference o.ownerReferences = false)
    (hdone : k.Done c call w before o.object) : (k.createOrUpdate call w s).log = [] := by
  unfold createOrUpdate
  rw [hcalls]
  dsimp only
  rw [ho]
  dsimp only
  rw [patchingOwner_quiet howner, updateOrRestart, hdone.restart, hdone.current]
  rfl

theorem Done.applied (hc : c.createOrUpdate = k.createOrUpdate) (hcalls : call.calls = {})
    (ho : s.objects w.key = some o)
    (howner : shouldUpdateOwnerReference o.ownerReferences = false)
    (hdone : k.Done c call w before o.object) : c.Applied call w before s := by
  refine ⟨⟨o, ho, hdone.meets, hdone.carries⟩, ?_⟩
  rw [hc]
  exact hdone.quiet hcalls ho howner

theorem createOrUpdate_missing {P : Result σ → Prop} (hnone : s.objects w.key = none)
    (hfail : ∀ s e report, P { server := s, err := some e, report })
    (hok : k.schema.accepts none (k.finalize call w.spec) = true → ∀ s' log report,
      s'.objects w.key = some (.new k.schema call.ddai (k.hashed (k.finalized call w)) s.nextUID
        (k.finalize call w.spec)) →
      P { server := s', log, report }) :
    P (k.createOrUpdate call w s) := by
  unfold createOrUpdate
  split
  · exact hfail _ _ _
  · rw [hnone]
    refine createWorkload_cases (fun _ _ => hfail _ _ _) fun haccepts _ => hok haccepts _ _ _ ?_
    exact put_objects_self _

theorem Fits.recreated (hc : c.createOrUpdate = k.createOrUpdate) (hfits : k.Fits c call w s)
    {s' : Server σ} (hnone : s'.objects w.key = none) (huid : o.uid < s'.nextUID) :
    c.Recreated call w o s' := by
  unfold Component.Recreated
  rw [hc]
  refine createOrUpdate_missing (P := fun r => r.err = none → ∃ o', r.server.objects w.key =
    some o' ∧ c.selector o'.object.spec = c.selector w.spec ∧ o'.uid ≠ o.uid) hnone ?_ ?_
  · intro s e report h
    cases h
  · intro _ s'' log report ho' _
    exact ⟨_, ho', hfits.selector, huid.ne'⟩

theorem Fits.settled (hk : k.Lawful Like) (hc : c.createOrUpdate = k.createOrUpdate)
    (hcalls : call.calls = {}) (hfits : k.Fits c call w s)
    (hstored : s.objects w.key = some current) (huid : current.uid < s.nextUID)
    {refs : List OwnerReference} (howner : shouldUpdateOwnerReference refs = false)
    (log : List Write) :
    c.Settled call w (some current) (k.updateOrRestart call w
      (s.put w.key (some (current.own refs))) (current.own refs) log) := by
  have hobject : (current.own refs).object = current.object := rfl
  unfold updateOrRestart
  cases hrestart : k.restart (k.finalized call w) current.object with
  | true =>
    obtain ⟨hreselects, hgone⟩ := hfits.restarted current hstored hrestart
    rw [hobject, hrestart, if_pos rfl, deleting, hcalls]
    intro _
    refine ⟨.inl ⟨current, rfl, hreselects, hgone refs⟩, ?_⟩
    rintro old ⟨⟩ _
    refine hfits.recreated hc (hgone refs) ?_
    rw [hk.deleted_nextUID]
    exact huid
  | false =>
    rw [hobject, hrestart, if_neg Bool.false_ne_true]
    cases hcurrent : k.isCurrent call w current.object with
    | true =>
      obtain ⟨hsame, hdone⟩ := hfits.kept current hstored hrestart hcurrent
      rw [if_pos rfl]
      intro _
      refine ⟨.inr (Done.applied (o := current.own refs) hc hcalls (put_objects_self _) howner
        hdone), ?_⟩
      rintro old ⟨⟩ hreselects
      exact absurd hreselects hsame
    | false =>
      rw [if_neg Bool.false_ne_true]
      refine updateWorkload_cases (P := c.Settled call w (some current)) ?_ ?_
      · intro e report h
        cases h
      · intro haccepts log report _
        obtain ⟨hsame, hdone⟩ := hfits.updated current hstored hrestart hcurrent haccepts
        have hkey : (k.updated (k.adjusted call w current.object) current.object).key = w.key :=
          hk.updated_key _ _
        refine ⟨.inr (Done.applied (o := .new k.schema call.ddai _ current.uid
          (k.adjusted call w current.object).spec) hc hcalls ?_
          (shouldUpdateOwnerReference_new call.ddai) hdone), ?_⟩
        · dsimp only
          rw [hkey]
          exact put_objects_self _
        · rintro old ⟨⟩ hreselects
          exact absurd hreselects hsame

theorem converges (hk : k.Lawful Like) (hc : c.createOrUpdate = k.createOrUpdate)
    (hs : s.Sound k.md5 Like) (hfits : k.Fits c call w s) : c.Converges call w s := by
  intro hcalls
  rw [hc]
  cases hstored : s.objects w.key with
  | none =>
    refine createOrUpdate_missing (P := c.Settled call w none) hstored ?_ ?_
    · intro s e report h
      cases h
    · intro haccepts s' log report ho _
      refine ⟨.inr (Done.applied hc hcalls ho (shouldUpdateOwnerReference_new _)
        (hfits.created haccepts)), ?_⟩
      rintro old ⟨⟩
  | some current =>
    unfold createOrUpdate
    rw [hcalls]
    dsimp only
    rw [hstored]
    refine patchingOwner_cases (P := c.Settled call w (some current)) hstored ?_ ?_
    · intro e report h
      cases h
    · intro refs log howner
      exact hfits.settled hk hc hcalls hstored (hs _ _ hstored).2 howner log

end Scheme

end DatadogOperator.Workloads
