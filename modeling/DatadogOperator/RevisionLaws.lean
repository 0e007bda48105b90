import DatadogOperator.Revision

/-!
# What the revision functions do to the store

Every outcome of `ensureRevision`, whatever its API calls return, and the
effect of the garbage collection. `RevisionsOk` is kept by all of them: it
holds of a store without revisions, so of every store the operator builds.
-/

namespace DatadogOperator

variable {Spec : Type} [DecidableEq Spec]

/-- Names come from the data, and neither names nor numbers repeat. -/
structure RevisionsOk (r : Reconciler Spec) (l : List (ControllerRevision Spec)) : Prop where
  named : ∀ rev ∈ l, rev.name = r.revisionName rev.data
  names : (l.map (·.name)).Nodup
  numbers : (l.map (·.revision)).Nodup
  positive : ∀ rev ∈ l, 0 < rev.revision
  datadog : ∀ rev ∈ l, datadogAnnotations rev.data.annotations = rev.data.annotations

structure Pass.Aside (p q : Pass Spec) : Prop where
  dda : q.server.dda = p.server.dda
  newStatus : q.newStatus = p.newStatus
  resourceVersion : q.resourceVersion = p.resourceVersion
  calls : q.calls = p.calls

section
variable {r : Reconciler Spec} {l l' : List (ControllerRevision Spec)} {rev : ControllerRevision Spec}
  {data : RevisionSnapshot Spec} {p q : Pass Spec} {env : Env Spec}

omit [DecidableEq Spec] in
theorem Pass.Aside.refl (p : Pass Spec) : p.Aside p := ⟨rfl, rfl, rfl, rfl⟩

omit [DecidableEq Spec] in
theorem Pass.Aside.trans {p₁ p₂ p₃ : Pass Spec} (h : p₁.Aside p₂) (h' : p₂.Aside p₃) :
    p₁.Aside p₃ :=
  ⟨h'.dda.trans h.dda, h'.newStatus.trans h.newStatus,
    h'.resourceVersion.trans h.resourceVersion, h'.calls.trans h.calls⟩

/-! ## Well-formed stores -/

namespace RevisionsOk

section
omit [DecidableEq Spec]

theorem nil : RevisionsOk r [] :=
  ⟨by simp, List.nodup_nil, List.nodup_nil, by simp, by simp⟩

theorem of_subperm (h : RevisionsOk r l) (hp : l'.Subperm l) : RevisionsOk r l' := by
  obtain ⟨m, hm, hs⟩ := hp
  have hmem : ∀ rev ∈ l', rev ∈ l := fun rev hrev => hs.subset (hm.mem_iff.mpr hrev)
  exact ⟨fun rev hrev => h.named rev (hmem rev hrev),
    (hm.map _).nodup_iff.mp (h.names.sublist (hs.map _)),
    (hm.map _).nodup_iff.mp (h.numbers.sublist (hs.map _)),
    fun rev hrev => h.positive rev (hmem rev hrev),
    fun rev hrev => h.datadog rev (hmem rev hrev)⟩

theorem filter (h : RevisionsOk r l) (q : ControllerRevision Spec → Bool) :
    RevisionsOk r (l.filter q) :=
  h.of_subperm List.filter_sublist.subperm

theorem perm (h : RevisionsOk r l) (hp : l.Perm l') : RevisionsOk r l' :=
  h.of_subperm hp.symm.subperm

theorem cons (h : RevisionsOk r l) (hnamed : rev.name = r.revisionName rev.data)
    (hname : ∀ x ∈ l, x.name ≠ rev.name) (hnum : ∀ x ∈ l, x.revision < rev.revision)
    (hpos : 0 < rev.revision)
    (hd : datadogAnnotations rev.data.annotations = rev.data.annotations) :
    RevisionsOk r (rev :: l) where
  named := List.forall_mem_cons.mpr ⟨hnamed, h.named⟩
  names := by
    refine List.nodup_cons.mpr ⟨?_, h.names⟩
    intro hmem
    obtain ⟨x, hx, heq⟩ := List.mem_map.mp hmem
    exact hname x hx heq
  numbers := by
    refine List.nodup_cons.mpr ⟨?_, h.numbers⟩
    intro hmem
    obtain ⟨x, hx, heq⟩ := List.mem_map.mp hmem
    exact absurd heq (Int.ne_of_lt (hnum x hx))
  positive := List.forall_mem_cons.mpr ⟨hpos, h.positive⟩
  datadog := List.forall_mem_cons.mpr ⟨hd, h.datadog⟩

theorem eq_of_name (h : RevisionsOk r l) (hx : x ∈ l) (hy : y ∈ l)
    (hname : x.name = y.name) : x = y :=
  List.inj_on_of_nodup_map h.names hx hy hname

theorem eq_of_data (h : RevisionsOk r l) (hx : x ∈ l) (hy : y ∈ l)
    (hdata : x.data = y.data) : x = y :=
  h.eq_of_name hx hy (by rw [h.named x hx, h.named y hy, hdata])

end

end RevisionsOk

/-- No stored revision has the name of the snapshot but other data. -/
def NoCollision (r : Reconciler Spec) (l : List (ControllerRevision Spec))
    (data : RevisionSnapshot Spec) : Prop :=
  ∀ rev ∈ l, rev.name = r.revisionName data → rev.data = data

instance : Decidable (NoCollision r l data) :=
  inferInstanceAs (Decidable (∀ rev ∈ l, rev.name = r.revisionName data → rev.data = data))

omit [DecidableEq Spec] in
theorem NoCollision.of_stored (hok : RevisionsOk r l) (h : ∃ rev ∈ l, rev.data = data) :
    NoCollision r l data := by
  obtain ⟨rev, hrev, rfl⟩ := h
  intro x hx hname
  rw [hok.eq_of_name hx hrev (hname.trans (hok.named rev hrev).symm)]

/-! ## Loops over the listed revisions -/

section
omit [DecidableEq Spec]

theorem foldl_max_le (m : Int) :
    m ≤ l.foldl (fun m x => if x.revision > m then x.revision else m) m ∧
      ∀ x ∈ l, x.revision ≤ l.foldl (fun m x => if x.revision > m then x.revision else m) m := by
  induction l generalizing m with
  | nil => simp
  | cons x l ih =>
    rw [List.foldl_cons]
    obtain ⟨hm, hl⟩ := ih (if x.revision > m then x.revision else m)
    have hx : m ≤ (if x.revision > m then x.revision else m) ∧
        x.revision ≤ (if x.revision > m then x.revision else m) := by split <;> omega
    refine ⟨Int.le_trans hx.1 hm, ?_⟩
    intro y hy
    rcases List.mem_cons.mp hy with rfl | hy
    · exact Int.le_trans hx.2 hm
    · exact hl y hy

theorem maxRevision_nonneg : 0 ≤ maxRevision l := (foldl_max_le 0).1

theorem le_maxRevision (h : rev ∈ l) : rev.revision ≤ maxRevision l := (foldl_max_le 0).2 rev h

end

theorem matchingRevision_eq :
    matchingRevision l data = l.reverse.find? fun x => decide (x.data = data) := by
  unfold matchingRevision
  induction l using List.reverseRecOn with
  | nil => rfl
  | append_singleton l x ih => by_cases hx : x.data = data <;> simp [hx, ih]

theorem matchingRevision_some (h : matchingRevision l data = some rev) :
    rev ∈ l ∧ rev.data = data := by
  rw [matchingRevision_eq] at h
  exact ⟨List.mem_reverse.mp (List.mem_of_find?_eq_some h), of_decide_eq_true (List.find?_some h :)⟩

theorem matchingRevision_none (h : matchingRevision l data = none) :
    ∀ rev ∈ l, rev.data ≠ data := by
  rw [matchingRevision_eq, List.find?_eq_none] at h
  simpa using h

/-! ## Revisions only -/

section
omit [DecidableEq Spec]

theorem createRevision_aside (h : p.createRevision outcome rev = .ok q) : p.Aside q := by
  unfold Pass.createRevision at h
  split at h
  · cases h
  · split at h
    · cases h
    · cases h
      exact ⟨rfl, rfl, rfl, rfl⟩

theorem deleteRevision_aside (h : p.deleteRevision outcome name = .ok q) : p.Aside q := by
  unfold Pass.deleteRevision at h
  split at h
  · cases h
  · split at h
    · cases h
      exact ⟨rfl, rfl, rfl, rfl⟩
    · cases h

theorem recreateRevision_aside (r : Reconciler Spec) (env : Env Spec)
    (rev : ControllerRevision Spec) (data : RevisionSnapshot Spec) (n : Int) (p : Pass Spec) :
    p.Aside (recreateRevision r env rev data n p).2 := by
  unfold recreateRevision
  dsimp only
  split
  · rename_i h
    refine (deleteRevision_aside h).trans ?_
    split
    · rename_i h
      exact createRevision_aside h
    · exact .refl _
    · exact .refl _
  · split
    · rename_i h
      exact createRevision_aside h
    · exact .refl p
    · exact .refl p
  · exact .refl p

end

theorem ensureRevision_aside (r : Reconciler Spec) (env : Env Spec) (data : RevisionSnapshot Spec)
    (skipBump : Bool) (p : Pass Spec) : p.Aside (ensureRevision r env data skipBump p).2 := by
  unfold ensureRevision
  dsimp only
  split
  · split
    · exact recreateRevision_aside _ _ _ _ _ p
    · split
      · split
        · exact ⟨rfl, rfl, rfl, rfl⟩
        · exact .refl p
        · exact .refl p
      · exact .refl p
  · split
    · split <;> exact .refl p
    · split
      · rename_i h
        exact createRevision_aside h
      · exact .refl p
      · exact .refl p

/-! ## Every outcome of ensureRevision -/

inductive Ensured (r : Reconciler Spec) (env : Env Spec) (data : RevisionSnapshot Spec)
    (skipBump : Bool) (l : List (ControllerRevision Spec)) :
    Except Error String → List (ControllerRevision Spec) → Prop
  | kept (rev : ControllerRevision Spec) : rev ∈ l → rev.data = data →
      (skipBump = false → rev.experimentState ≠ some .rolledBack) →
      (skipBump = false → env.bump = none → maxRevision l ≤ rev.revision) →
      Ensured r env data skipBump l (.ok rev.name) l
  | bumped (rev : ControllerRevision Spec) : rev ∈ l → rev.data = data → skipBump = false →
      rev.experimentState ≠ some .rolledBack →
      Ensured r env data skipBump l (.ok rev.name)
        (patchRevisions rev.name (fun x => { x with revision := maxRevision l + 1 }) l)
  | notBumped (rev : ControllerRevision Spec) (e : Error) : rev ∈ l → rev.data = data →
      rev.experimentState ≠ some .rolledBack → env.bump ≠ none →
      Ensured r env data skipBump l (.error e) l
  | recreated (rev : ControllerRevision Spec) : rev ∈ l → rev.data = data → skipBump = false →
      rev.experimentState = some .rolledBack →
      Ensured r env data skipBump l (.ok (r.revisionName data))
        (l.filter (fun x => decide (x.name ≠ rev.name)) ++
          [r.newControllerRevision data (maxRevision l + 1)])
  | notDeleted (rev : ControllerRevision Spec) (result : Except Error String) : rev ∈ l →
      rev.data = data → env.delete ≠ none → Ensured r env data skipBump l result l
  | lost (rev : ControllerRevision Spec) (result : Except Error String) : rev ∈ l →
      rev.data = data → skipBump = false → rev.experimentState = some .rolledBack →
      env.create ≠ none →
      Ensured r env data skipBump l result (l.filter (fun x => decide (x.name ≠ rev.name)))
  | created : (∀ rev ∈ l, rev.data ≠ data) → (∀ rev ∈ l, rev.name ≠ r.revisionName data) →
      Ensured r env data skipBump l (.ok (r.revisionName data))
        (l ++ [r.newControllerRevision data (maxRevision l + 1)])
  | missing (result : Except Error String) : (∀ rev ∈ l, rev.data ≠ data) →
      (env.create ≠ none ∨ ∃ rev ∈ l, rev.name = r.revisionName data) →
      Ensured r env data skipBump l result l

/-- The list has the same names, and other revisions than the snapshot's as they were. -/
def Listed (r : Reconciler Spec) (data : RevisionSnapshot Spec) (p q : Pass Spec) : Prop :=
  ∃ f : ControllerRevision Spec → ControllerRevision Spec, q.revList = p.revList.map f ∧
    (∀ x, (f x).name = x.name) ∧ ∀ x, x.name ≠ r.revisionName data → f x = x

section
omit [DecidableEq Spec]

theorem Listed.of_eq (h : q.revList = p.revList) : Listed r data p q :=
  ⟨id, by simp [h], by simp, by simp⟩

theorem stored_eq_true {s : Server Spec} :
    s.stored name = true ↔ ∃ rev ∈ s.revisions, rev.name = name := by
  simp [Server.stored]

theorem recreateRevision_cases (env : Env Spec) (hsync : p.revList = p.server.revisions)
    (hok : RevisionsOk r p.revList) (hrev : rev ∈ p.revList) (hdata : rev.data = data)
    (hskip : skipBump = false) (hstate : rev.experimentState = some .rolledBack) :
    Ensured r env data skipBump p.revList
        (recreateRevision r env rev data (maxRevision p.revList) p).1
        (recreateRevision r env rev data (maxRevision p.revList) p).2.server.revisions ∧
      (recreateRevision r env rev data (maxRevision p.revList) p).2.revList = p.revList := by
  have hname : rev.name = r.revisionName data := by rw [hok.named rev hrev, hdata]
  have hstored : p.server.stored rev.name = true := stored_eq_true.mpr ⟨rev, hsync ▸ hrev, rfl⟩
  have hfresh : (r.newControllerRevision data (maxRevision p.revList + 1)).name = rev.name :=
    hname.symm
  unfold recreateRevision
  cases hdel : env.delete with
  | some e =>
    have hne : env.delete ≠ none := by simp [hdel]
    have hcreate : ∃ e, p.createRevision env.create
        (r.newControllerRevision data (maxRevision p.revList + 1)) = .error e := by
      unfold Pass.createRevision
      rw [hfresh, hstored]
      cases env.create with
      | some e => exact ⟨e, rfl⟩
      | none => exact ⟨.alreadyExists, rfl⟩
    obtain ⟨e', he'⟩ := hcreate
    have hp : p.deleteRevision (some e) rev.name = .error e := rfl
    simp only [hp, he']
    refine ⟨?_, ?_⟩
    · cases e <;> cases e' <;> exact hsync ▸ .notDeleted rev _ hrev hdata hne
    · cases e <;> cases e' <;> rfl
  | none =>
    have hp : p.deleteRevision none rev.name =
        .ok (p.setRevisions (p.revList.filter fun x => decide (x.name ≠ rev.name))) := by
      simp [Pass.deleteRevision, hstored, hsync]
    simp only [hp]
    cases hcr : env.create with
    | some e =>
      have hne : env.create ≠ none := by simp [hcr]
      simp only [Pass.createRevision]
      refine ⟨?_, ?_⟩
      · cases e <;> exact .lost rev _ hrev hdata hskip hstate hne
      · cases e <;> rfl
    | none =>
      have hgone : (p.setRevisions (p.revList.filter fun x => decide (x.name ≠ rev.name))).server.stored
          (r.newControllerRevision data (maxRevision p.revList + 1)).name = false := by
        rw [Bool.eq_false_iff, ne_eq, stored_eq_true]
        rintro ⟨x, hx, hxn⟩
        have := (List.mem_filter.mp hx).2
        simp [hxn.trans hfresh] at this
      simp only [Pass.createRevision, hgone, Bool.false_eq_true, if_false]
      exact ⟨.recreated rev hrev hdata hskip hstate, rfl⟩

end

theorem ensureRevision_cases (env : Env Spec) (data : RevisionSnapshot Spec) (skipBump : Bool)
    (hsync : p.revList = p.server.revisions)
    (hok : RevisionsOk r p.revList) :
    Ensured r env data skipBump p.revList (ensureRevision r env data skipBump p).1
        (ensureRevision r env data skipBump p).2.server.revisions ∧
      Listed r data p (ensureRevision r env data skipBump p).2 := by
  unfold ensureRevision
  cases hm : matchingRevision p.revList data with
  | some rev =>
    obtain ⟨hrev, hdata⟩ := matchingRevision_some hm
    dsimp only
    by_cases hstate : rev.experimentState = some .rolledBack ∧ skipBump = false
    · rw [if_pos hstate]
      exact (recreateRevision_cases env hsync hok hrev hdata hstate.2 hstate.1).imp_right .of_eq
    · have hmark : skipBump = false → rev.experimentState ≠ some .rolledBack :=
        fun h hs => hstate ⟨hs, h⟩
      by_cases hlow : rev.revision < maxRevision p.revList ∧ skipBump = false
      · rw [if_neg hstate, if_pos hlow]
        cases hb : env.bump with
        | none =>
          simp only [Pass.patchRevision, ← hsync]
          refine ⟨.bumped rev hrev hdata hlow.2 (hmark hlow.2), _, rfl, ?_, ?_⟩
          · intro x
            split <;> rfl
          · intro x hx
            rw [if_neg fun hxn => hx (by rw [hxn, hok.named rev hrev, hdata])]
        | some e =>
          have hne : env.bump ≠ none := by simp [hb]
          have hkeep : Ensured r env data skipBump p.revList (.ok rev.name) p.server.revisions :=
            hsync ▸ .kept rev hrev hdata hmark (fun _ h => absurd h hne)
          have hfail (e : Error) :
              Ensured r env data skipBump p.revList (.error e) p.server.revisions :=
            hsync ▸ .notBumped rev e hrev hdata (hmark hlow.2) hne
          cases e <;> first | exact ⟨hkeep, .of_eq rfl⟩ | exact ⟨hfail _, .of_eq rfl⟩
      · rw [if_neg hstate, if_neg hlow]
        refine ⟨hsync ▸ .kept rev hrev hdata hmark ?_, .of_eq rfl⟩
        intro hs _
        exact Int.not_lt.mp fun h => hlow ⟨h, hs⟩
  | none =>
    have hnone := matchingRevision_none hm
    simp only
    cases hf : p.revList.find? fun x =>
        decide (x.name = (r.newControllerRevision data (maxRevision p.revList + 1)).name) with
    | some x =>
      have hx := List.mem_of_find?_eq_some hf
      have hxn : x.name = r.revisionName data := by
        have := List.find?_some hf
        exact of_decide_eq_true this
      have hmiss (result : Except Error String) :
          Ensured r env data skipBump p.revList result p.server.revisions :=
        hsync ▸ .missing result hnone (.inr ⟨x, hx, hxn⟩)
      simp only [hnone x hx, if_false]
      exact ⟨hmiss _, .of_eq rfl⟩
    | none =>
      have hfree : ∀ x ∈ p.revList, x.name ≠ r.revisionName data := by
        intro x hx hxn
        have := List.find?_eq_none.mp hf x hx
        simp [hxn, Reconciler.newControllerRevision] at this
      cases hcr : env.create with
      | some e =>
        have hne : env.create ≠ none := by simp [hcr]
        have hmiss (result : Except Error String) :
            Ensured r env data skipBump p.revList result p.server.revisions :=
          hsync ▸ .missing result hnone (.inl hne)
        simp only [Pass.createRevision]
        cases e <;> exact ⟨hmiss _, .of_eq rfl⟩
      | none =>
        have hs : p.server.stored (r.newControllerRevision data (maxRevision p.revList + 1)).name =
            false := by
          rw [Bool.eq_false_iff, ne_eq, stored_eq_true]
          rintro ⟨x, hx, hxn⟩
          exact hfree x (hsync ▸ hx) hxn
        simp only [Pass.createRevision, hs, Bool.false_eq_true, if_false]
        exact ⟨hsync ▸ .created hnone hfree, .of_eq rfl⟩

theorem ensureRevision_name (env : Env Spec) (data : RevisionSnapshot Spec) (skipBump : Bool)
    (hok : RevisionsOk r p.revList)
    (h : (ensureRevision r env data skipBump p).1 = .ok n) : n = r.revisionName data := by
  unfold ensureRevision recreateRevision at h
  cases hm : matchingRevision p.revList data with
  | some rev =>
    obtain ⟨hrev, hdata⟩ := matchingRevision_some hm
    have hname : rev.name = r.revisionName data := by rw [hok.named rev hrev, hdata]
    rw [← hname]
    simp only [hm] at h
    repeat' split at h
    all_goals first
      | exact (Except.ok.inj h).symm
      | exact (Except.ok.inj h).symm.trans hname.symm
      | cases h
  | none =>
    simp only [hm] at h
    repeat' split at h
    all_goals first | exact (Except.ok.inj h).symm | cases h

/-! ## Garbage collection -/

section
omit [DecidableEq Spec]

theorem gcDelete_keep (h : rev.name = current ∨ rev.name = previous) :
    gcDelete env current previous (rev :: l) p = gcDelete env current previous l p := by
  rw [gcDelete, if_pos h]

theorem gcDelete_next (h : ¬(rev.name = current ∨ rev.name = previous))
    (henv : env.gcDelete rev.name = none) :
    gcDelete env current previous (rev :: l) p = gcDelete env current previous l
      (p.setRevisions (p.server.revisions.filter fun x => decide (x.name ≠ rev.name))) := by
  rw [gcDelete, if_neg h, henv]
  cases hs : p.server.stored rev.name with
  | true => simp [Pass.deleteRevision, hs]
  | false =>
    have hkeep : p.server.revisions.filter (fun x => decide (x.name ≠ rev.name)) =
        p.server.revisions := by
      rw [List.filter_eq_self]
      intro x hx
      simp only [Server.stored, List.any_eq_false, decide_eq_true_eq] at hs
      simpa using hs x hx
    rw [hkeep]
    simp [Pass.deleteRevision, hs, Pass.setRevisions]

theorem gcDelete_fail (h : ¬(rev.name = current ∨ rev.name = previous))
    (henv : env.gcDelete rev.name = some e) :
    (gcDelete env current previous (rev :: l) p).2 = p ∨
      gcDelete env current previous (rev :: l) p = gcDelete env current previous l p := by
  rw [gcDelete, if_neg h, henv]
  cases e with
  | notFound => exact .inr rfl
  | conflict | alreadyExists | other => exact .inl rfl

theorem gcDelete_spec (env : Env Spec) (p : Pass Spec) (current previous : String)
    (revs : List (ControllerRevision Spec)) :
    ∃ gone : List String, (gcDelete env current previous revs p).2 =
        p.setRevisions (p.server.revisions.filter fun x => decide (x.name ∉ gone)) ∧
      (∀ n ∈ gone, n ≠ current ∧ n ≠ previous) ∧
      ((∀ n, env.gcDelete n = none) →
        ∀ x ∈ revs, x.name ≠ current → x.name ≠ previous → x.name ∈ gone) := by
  induction revs generalizing p with
  | nil => exact ⟨[], by simp [gcDelete, Pass.setRevisions], by simp, by simp⟩
  | cons x revs ih =>
    by_cases hx : x.name = current ∨ x.name = previous
    · rw [gcDelete_keep hx]
      obtain ⟨gone, hout, hsub, hall⟩ := ih (p := p)
      refine ⟨gone, hout, hsub, ?_⟩
      intro hclean y hy hc hp
      rcases List.mem_cons.mp hy with rfl | hy
      · exact absurd hx (not_or.mpr ⟨hc, hp⟩)
      · exact hall hclean y hy hc hp
    · cases henv : env.gcDelete x.name with
      | none =>
        rw [gcDelete_next hx henv]
        obtain ⟨gone, hout, hsub, hall⟩ := ih (p := p.setRevisions
          (p.server.revisions.filter fun y => decide (y.name ≠ x.name)))
        refine ⟨x.name :: gone, ?_, ?_, ?_⟩
        · rw [hout]
          simp [Pass.setRevisions, List.filter_filter, Bool.and_comm]
        · intro n hn
          rcases List.mem_cons.mp hn with rfl | hn
          · exact not_or.mp hx
          · exact hsub n hn
        · intro hclean y hy hc hp
          rcases List.mem_cons.mp hy with rfl | hy
          · exact .head _
          · exact .tail _ (hall hclean y hy hc hp)
      | some e =>
        have hfail (hclean : ∀ n, env.gcDelete n = none) : False := by simp [hclean] at henv
        rcases gcDelete_fail (p := p) (l := revs) hx henv with h | h
        · rw [h]
          exact ⟨[], by simp [Pass.setRevisions], by simp, fun hc => (hfail hc).elim⟩
        · rw [h]
          obtain ⟨gone, hout, hsub, -⟩ := ih (p := p)
          exact ⟨gone, hout, hsub, fun hc => (hfail hc).elim⟩

end

/-! ## manageRevision under any outcome of its calls -/

section
omit [DecidableEq Spec]

theorem patchRevisions_perm (hok : RevisionsOk r l) (hrev : rev ∈ l)
    (f : ControllerRevision Spec → ControllerRevision Spec) :
    (patchRevisions rev.name f l).Perm (f rev :: l.filter fun x => decide (x.name ≠ rev.name)) := by
  unfold patchRevisions
  have hnames := hok.names
  clear hok
  induction l with
  | nil => cases hrev
  | cons x l ih =>
    obtain ⟨hx, hnames⟩ := List.nodup_cons.mp hnames
    rw [List.map_cons, List.filter_cons]
    rcases List.mem_cons.mp hrev with rfl | hrev
    · have hother : ∀ y ∈ l, y.name ≠ rev.name := by
        intro y hy heq
        exact hx (List.mem_map.mpr ⟨y, hy, heq⟩)
      have hmap : l.map (fun x => if x.name = rev.name then f x else x) = l := by
        conv_rhs => rw [← List.map_id l]
        exact List.map_congr_left fun y hy => by simp [hother y hy]
      have hfilter : l.filter (fun x => decide (x.name ≠ rev.name)) = l :=
        List.filter_eq_self.mpr fun y hy => by simpa using hother y hy
      rw [hmap, hfilter]
      simp
    · have hne : x.name ≠ rev.name := by
        intro heq
        exact hx (List.mem_map.mpr ⟨rev, hrev, heq.symm⟩)
      simp only [hne, if_false, ne_eq, not_false_eq_true, decide_true, if_true]
      exact ((ih hrev hnames).cons x).trans (.swap _ _ _)

theorem Ensured.ok (h : Ensured r env data skipBump l result l') (hok : RevisionsOk r l)
    (hd : datadogAnnotations data.annotations = data.annotations) : RevisionsOk r l' := by
  have hpos : 0 < maxRevision l + 1 := by have := maxRevision_nonneg (l := l); omega
  have htop {x : ControllerRevision Spec} (hx : x ∈ l) : x.revision < maxRevision l + 1 := by
    have := le_maxRevision hx; omega
  cases h with
  | kept | notBumped | notDeleted | missing => exact hok
  | lost => exact hok.filter _
  | bumped rev hrev hdata =>
    refine RevisionsOk.perm (RevisionsOk.cons (hok.filter _) ?_ ?_ ?_ hpos (hdata ▸ hd))
      (patchRevisions_perm hok hrev _).symm
    · exact hok.named rev hrev
    · intro x hx
      simpa using (List.mem_filter.mp hx).2
    · intro x hx
      exact htop (List.mem_of_mem_filter hx)
  | recreated rev hrev hdata =>
    have hname : rev.name = r.revisionName data := by rw [hok.named rev hrev, hdata]
    refine ((hok.filter _).cons rfl ?_ ?_ hpos hd).perm (List.perm_append_singleton _ _).symm
    · intro x hx
      rw [hname] at hx
      exact of_decide_eq_true (List.mem_filter.mp hx).2
    · intro x hx
      exact htop (List.mem_of_mem_filter hx)
  | created hnone hfree =>
    exact (hok.cons rfl hfree (fun x hx => htop hx) hpos hd).perm
      (List.perm_append_singleton _ _).symm

theorem Ensured.others (h : Ensured r env data skipBump l result l') (hok : RevisionsOk r l)
    (hrev : rev ∈ l') (hne : rev.data ≠ data) : rev ∈ l := by
  cases h with
  | kept | notBumped | notDeleted | missing => exact hrev
  | lost => exact List.mem_of_mem_filter hrev
  | bumped x hx hdata =>
    rcases List.mem_cons.mp ((patchRevisions_perm hok hx _).mem_iff.mp hrev) with rfl | hrev
    · exact absurd hdata hne
    · exact List.mem_of_mem_filter hrev
  | recreated x hx hdata =>
    rcases List.mem_append.mp hrev with hrev | hrev
    · exact List.mem_of_mem_filter hrev
    · obtain rfl := List.mem_singleton.mp hrev
      exact absurd rfl hne
  | created =>
    rcases List.mem_append.mp hrev with hrev | hrev
    · exact hrev
    · obtain rfl := List.mem_singleton.mp hrev
      exact absurd rfl hne

theorem Ensured.stored (h : Ensured r env data skipBump l result l') (hok : RevisionsOk r l)
    (hc : (env.create = none ∧ NoCollision r l data) ∨
      ∃ rev ∈ l, rev.data = data ∧ rev.experimentState ≠ some .rolledBack) :
    ∃ rev ∈ l', rev.data = data := by
  cases h with
  | kept x hx hdata | notBumped x e hx hdata | notDeleted x _ hx hdata => exact ⟨x, hx, hdata⟩
  | bumped x hx hdata =>
    exact ⟨_, (patchRevisions_perm hok hx _).mem_iff.mpr (.head _), hdata⟩
  | recreated => exact ⟨_, List.mem_append_right _ (List.mem_singleton.mpr rfl), rfl⟩
  | created => exact ⟨_, List.mem_append_right _ (List.mem_singleton.mpr rfl), rfl⟩
  | lost x _ hx hdata hskip hstate hne =>
    rcases hc with ⟨hcr, -⟩ | ⟨y, hy, hyd, hys⟩
    · exact absurd hcr hne
    · have : x = y := hok.eq_of_data hx hy (hdata.trans hyd.symm)
      exact absurd (this ▸ hstate) hys
  | missing _ hnone hcause =>
    rcases hc with ⟨hcr, hcol⟩ | ⟨y, hy, hyd, -⟩
    · rcases hcause with hne | ⟨x, hx, hxn⟩
      · exact absurd hcr hne
      · exact absurd (hcol x hx hxn) (hnone x hx)
    · exact absurd hyd (hnone y hy)

end

theorem manageRevision_aside (r : Reconciler Spec) (env : Env Spec) (data : RevisionSnapshot Spec)
    (p : Pass Spec) : p.Aside (manageRevision r env data p).2 := by
  have ha := ensureRevision_aside r env data (skipRevisionBump p.newStatus) p
  unfold manageRevision
  match h : ensureRevision r env data (skipRevisionBump p.newStatus) p with
  | (.error e, q) =>
    rw [h] at ha
    exact ha
  | (.ok name, q) =>
    rw [h] at ha
    obtain ⟨gone, hout, -, -⟩ := gcDelete_spec env q name (previousRevision q.revList name) q.revList
    simp only [gcOldRevisions, hout]
    exact ha.trans ⟨rfl, rfl, rfl, rfl⟩

theorem manageRevision_error (r : Reconciler Spec) (env : Env Spec) (data : RevisionSnapshot Spec)
    (p : Pass Spec) (e : ApiError) : (manageRevision r env data p).1 ≠ .error (.update e) := by
  have hens (skipBump : Bool) : (ensureRevision r env data skipBump p).1 ≠ .error (.update e) := by
    unfold ensureRevision recreateRevision
    dsimp only
    repeat' split
    all_goals simp
  unfold manageRevision
  match h : ensureRevision r env data (skipRevisionBump p.newStatus) p with
  | (.error e', q) =>
    intro heq
    refine hens (skipRevisionBump p.newStatus) ?_
    rw [h, Except.error.inj heq]
  | (.ok name, q) => simp

theorem manageRevision_cases (env : Env Spec) (data : RevisionSnapshot Spec)
    (hsync : p.revList = p.server.revisions)
    (hok : RevisionsOk r p.revList) :
    ∃ (result : Except Error String) (l₁ : List (ControllerRevision Spec)) (gone : List String),
      Ensured r env data (skipRevisionBump p.newStatus) p.revList result l₁ ∧
      (manageRevision r env data p).2.server.revisions =
        l₁.filter (fun x => decide (x.name ∉ gone)) ∧
      r.revisionName data ∉ gone := by
  have he := (ensureRevision_cases env data (skipRevisionBump p.newStatus) hsync hok).1
  have hname (n : String) := ensureRevision_name (n := n) env data (skipRevisionBump p.newStatus) hok
  unfold manageRevision
  match h : ensureRevision r env data (skipRevisionBump p.newStatus) p with
  | (.error e, q) =>
    rw [h] at he
    exact ⟨_, _, [], he, by simp, by simp⟩
  | (.ok name, q) =>
    rw [h] at he hname
    obtain rfl := hname _ rfl
    obtain ⟨gone, hout, hsub, -⟩ := gcDelete_spec env q (r.revisionName data)
      (previousRevision q.revList (r.revisionName data)) q.revList
    refine ⟨_, _, gone, he, ?_, ?_⟩
    · simp only [gcOldRevisions, hout]
      rfl
    · intro hmem
      exact (hsub _ hmem).1 rfl

theorem manageRevision_collision (env : Env Spec) (hok : RevisionsOk r p.revList)
    (hcol : ¬NoCollision r p.revList data) :
    manageRevision r env data p = (.error (.hashCollision (r.revisionName data)), p) := by
  obtain ⟨x, hx, hname, hdata⟩ : ∃ x ∈ p.revList, x.name = r.revisionName data ∧ x.data ≠ data := by
    simpa [NoCollision] using hcol
  have hnone : matchingRevision p.revList data = none := by
    cases hm : matchingRevision p.revList data with
    | none => rfl
    | some rev =>
      exact absurd (NoCollision.of_stored hok ⟨rev, matchingRevision_some hm⟩) hcol
  have hens : ensureRevision r env data (skipRevisionBump p.newStatus) p =
      (.error (.hashCollision (r.revisionName data)), p) := by
    unfold ensureRevision
    simp only [hnone]
    cases hf : p.revList.find? fun y =>
        decide (y.name = (r.newControllerRevision data (maxRevision p.revList + 1)).name) with
    | none =>
      have := List.find?_eq_none.mp hf x hx
      simp [hname, Reconciler.newControllerRevision] at this
    | some y =>
      have hfound := List.find?_some hf
      have hyn : y.name = r.revisionName data := of_decide_eq_true hfound
      have hyx : y = x := hok.eq_of_name (List.mem_of_find?_eq_some hf) hx (hyn.trans hname.symm)
      simp only [hyx, if_neg hdata]
      rfl
  simp only [manageRevision, hens]

section
variable (env data) (hsync : p.revList = p.server.revisions) (hok : RevisionsOk r p.revList)
include hsync hok

theorem manageRevision_ok (hd : datadogAnnotations data.annotations = data.annotations) :
    RevisionsOk r (manageRevision r env data p).2.server.revisions := by
  obtain ⟨_, _, _, he, hout, -⟩ := manageRevision_cases env data hsync hok
  rw [hout]
  exact (he.ok hok hd).filter _

theorem manageRevision_others (hrev : rev ∈ (manageRevision r env data p).2.server.revisions)
    (hne : rev.data ≠ data) : rev ∈ p.revList := by
  obtain ⟨_, _, _, he, hout, -⟩ := manageRevision_cases env data hsync hok
  rw [hout] at hrev
  exact he.others hok (List.mem_of_mem_filter hrev) hne

theorem manageRevision_stored (hd : datadogAnnotations data.annotations = data.annotations)
    (hc : (env.create = none ∧ NoCollision r p.revList data) ∨
      ∃ rev ∈ p.revList, rev.data = data ∧ rev.experimentState ≠ some .rolledBack) :
    ∃ rev ∈ (manageRevision r env data p).2.server.revisions, rev.data = data := by
  obtain ⟨_, _, gone, he, hout, hcur⟩ :=
    manageRevision_cases env data hsync hok
  obtain ⟨rev, hrev, hdata⟩ := he.stored hok hc
  refine ⟨rev, ?_, hdata⟩
  rw [hout, List.mem_filter]
  refine ⟨hrev, ?_⟩
  have hname : rev.name = r.revisionName data := by rw [(he.ok hok hd).named rev hrev, hdata]
  simpa [hname] using hcur

end

end

end DatadogOperator
