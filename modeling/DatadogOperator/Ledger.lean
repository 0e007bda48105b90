import DatadogOperator.Lib.Ranked
import DatadogOperator.RevisionLaws
import DatadogOperator.Verdict

/-!
# The revision store as a list of snapshots

What the experiment code wants from its revisions is the order in which
snapshots were last in force: the newest first, at most two of them. A
`Ledger` is that list, and `record` the way a reconcile changes it. While
the calls on revisions succeed, the numbered store with its bumps,
recreations and garbage collection follows `record`, and the questions asked
of the store are questions about the ledger.
-/

namespace DatadogOperator

variable {Spec : Type} [DecidableEq Spec]

/-- Reconciling a snapshot puts it first. Right after a rollback the order
stays as it is. -/
def record (skipBump : Bool) (current : RevisionSnapshot Spec)
    (h : List (RevisionSnapshot Spec)) : List (RevisionSnapshot Spec) :=
  if skipBump ∧ current ∈ h then h else current :: (h.filter (· ≠ current)).take 1

theorem record_false (current : RevisionSnapshot Spec) (h : List (RevisionSnapshot Spec)) :
    record false current h = current :: (h.filter (· ≠ current)).take 1 := by
  simp [record]

theorem record_of_mem {h : List (RevisionSnapshot Spec)}
    (hmem : current ∈ h) : record true current h = h := by
  simp [record, hmem]

theorem mem_record (skipBump : Bool) (current : RevisionSnapshot Spec)
    (h : List (RevisionSnapshot Spec)) : current ∈ record skipBump current h := by
  unfold record
  split
  · rename_i hskip
    exact hskip.2
  · exact .head _

theorem length_record_le (hlen : h.length ≤ 2) (skipBump : Bool) (current : RevisionSnapshot Spec) :
    (record skipBump current h).length ≤ 2 := by
  unfold record
  split
  · exact hlen
  · simp only [List.length_cons, List.length_take]
    omega

/-- The decision about the experiment, read off the snapshots last in force. -/
def ledgerVerdict (r : Reconciler Spec) (now : Time) (h : List (RevisionSnapshot Spec))
    (d : DatadogAgent Spec) : Verdict :=
  if d.status.phase = some .running then
    if 2 ≤ h.length ∧ d.snapshot ∉ h then .abort
    else if d.signal = some .rollback then .restore .stopped
    else if d.signal = some .promote then .promote
    else if d.snapshot ∈ h ∧ r.timedOut now d then .restore .timedOut
    else .keep
  else if d.signal = some .start then if d.annotationID = d.status.id then .keep else .start
  else if d.signal = some .rollback ∧ d.status.phase = none ∧ 2 ≤ h.length ∧
      h.head? = some d.snapshot then .recover
  else .keep

/-- The snapshots of a well-formed store, by descending revision number. -/
structure Ledger (r : Reconciler Spec) (l : List (ControllerRevision Spec))
    (h : List (RevisionSnapshot Spec)) : Prop where
  ok : RevisionsOk r l
  ranking : ∃ s, Ranked (·.revision) l s ∧ s.map (·.data) = h

section
variable {r : Reconciler Spec} {l : List (ControllerRevision Spec)}
  {h : List (RevisionSnapshot Spec)} {data : RevisionSnapshot Spec} {inst : DatadogAgent Spec}

namespace Ledger

section
omit [DecidableEq Spec]

theorem nil : Ledger r [] [] := ⟨.nil, [], .nil, rfl⟩

theorem of_ok (hok : RevisionsOk r l) : ∃ h, Ledger r l h := by
  obtain ⟨s, hs⟩ := Ranked.exists_of_nodup hok.numbers
  exact ⟨_, hok, s, hs, rfl⟩

theorem mem_iff (hl : Ledger r l h) : data ∈ h ↔ ∃ rev ∈ l, rev.data = data := by
  obtain ⟨s, hs, rfl⟩ := hl.ranking
  simp [hs.mem_iff]

theorem length_eq (hl : Ledger r l h) : h.length = l.length := by
  obtain ⟨s, hs, rfl⟩ := hl.ranking
  simp [hs.length_eq]

theorem nodup (hl : Ledger r l h) : h.Nodup := by
  obtain ⟨s, hs, rfl⟩ := hl.ranking
  have hnames : (s.map (·.name)).Nodup := (hs.perm.map _).nodup_iff.mpr hl.ok.names
  refine (List.nodup_map_iff_inj_on (List.Nodup.of_map _ hnames)).mpr ?_
  intro x hx y hy hdata
  exact hl.ok.eq_of_data (hs.mem_iff.mp hx) (hs.mem_iff.mp hy) hdata

end

/-! ## Reading the store -/

theorem matching_isSome (hl : Ledger r l h) :
    (findMostRecentMatchingRevision l inst).isSome ↔ inst.snapshot ∈ h := by
  rw [hl.mem_iff, findMostRecentMatchingRevision, Option.isSome_iff_ne_none, ne_eq,
    List.argmax_eq_none, List.filter_eq_nil_iff]
  simp

theorem manuallyChanged_iff (hl : Ledger r l h) :
    manuallyChanged l inst ↔ 2 ≤ h.length ∧ inst.snapshot ∉ h := by
  have : (findMostRecentMatchingRevision l inst).isSome ↔ inst.snapshot ∈ h := hl.matching_isSome
  rw [manuallyChanged, Bool.and_eq_true, decide_eq_true_eq, hl.length_eq, ← this]
  simp [Option.isNone_iff_eq_none, Option.isSome_iff_ne_none]

section
omit [DecidableEq Spec]

theorem highest_data (hl : Ledger r l h) : (highestRevision l).map (·.data) = h.head? := by
  obtain ⟨s, hs, rfl⟩ := hl.ranking
  rw [highestRevision, hs.argmax_eq, List.head?_map]

theorem last_revision (hl : Ledger r l h) (ht : h.getLast? = some data) :
    ∃ rev ∈ l, rev.data = data ∧ ∀ rev' ∈ l, rev.revision ≤ rev'.revision := by
  obtain ⟨s, hs, rfl⟩ := hl.ranking
  rw [List.getLast?_map] at ht
  obtain ⟨rev, hrev, hdata⟩ := Option.map_eq_some_iff.mp ht
  exact ⟨rev, hs.mem_iff.mp (List.mem_of_getLast? hrev), hdata, fun _ hx => hs.last_le hrev hx⟩

theorem noCollision_iff (hl : Ledger r l h) :
    NoCollision r l data ↔ ∀ x ∈ h, r.revisionName x = r.revisionName data → x = data := by
  unfold NoCollision
  simp only [hl.mem_iff]
  constructor
  · rintro hc _ ⟨rev, hrev, rfl⟩ hname
    exact hc rev hrev ((hl.ok.named rev hrev).trans hname)
  · intro hc rev hrev hname
    exact hc rev.data ⟨rev, hrev, rfl⟩ ((hl.ok.named rev hrev).symm.trans hname)

end

theorem others (hl : Ledger r l h) (data : RevisionSnapshot Spec) :
    Ledger r (l.filter fun rev => decide (rev.data ≠ data)) (h.filter (· ≠ data)) := by
  obtain ⟨s, hs, rfl⟩ := hl.ranking
  refine ⟨hl.ok.filter _, _, hs.filter _, ?_⟩
  rw [List.filter_map]
  rfl

omit [DecidableEq Spec] in
theorem target (hl : Ledger r l (a :: t :: rest)) :
    findRollbackTarget l ≠ "" ∧ ∃ rev, (l.find? fun x => decide (x.name = findRollbackTarget l)) =
      some rev ∧ rev.data = t := by
  obtain ⟨s, hs, hmap⟩ := hl.ranking
  match s, hs, hmap with
  | x :: y :: s, hs, hmap =>
    have hy : y ∈ l := hs.mem_iff.mp (by simp)
    have hname : findRollbackTarget l = y.name := by
      rw [findRollbackTarget, hs.topTwo_eq fun x hx => by have := hl.ok.positive x hx; omega]
      rfl
    rw [hname]
    refine ⟨?_, y, ?_, by simpa using (List.cons.inj (List.cons.inj hmap).2).1⟩
    · rw [hl.ok.named y hy]
      exact controllerRevisionName_ne_empty _ _
    · cases hf : l.find? fun x => decide (x.name = y.name) with
      | none =>
        have := List.find?_eq_none.mp hf y hy
        simp at this
      | some z =>
        have hz := List.find?_some hf
        rw [hl.ok.eq_of_name (List.mem_of_find?_eq_some hf) hy (of_decide_eq_true hz)]

omit [DecidableEq Spec] in
theorem target_none (hl : Ledger r l h) (hlen : h.length < 2) : findRollbackTarget l = "" := by
  obtain ⟨s, hs, rfl⟩ := hl.ranking
  rw [List.length_map] at hlen
  rw [findRollbackTarget, hs.topTwo_eq fun x hx => by have := hl.ok.positive x hx; omega]
  simp [List.getElem?_eq_none (Nat.le_of_lt_succ hlen)]

theorem atHighest_iff (hl : Ledger r l h) :
    atHighest l inst ↔ 2 ≤ h.length ∧ h.head? = some inst.snapshot := by
  rw [hl.length_eq]
  obtain ⟨s, hs, rfl⟩ := hl.ranking
  have hm : findMostRecentMatchingRevision l inst =
      (s.filter fun rev => decide (rev.data = inst.snapshot)).head? := (hs.filter _).argmax_eq
  unfold atHighest
  rw [hm, highestRevision, hs.argmax_eq]
  cases s with
  | nil => simp
  | cons x s =>
    rw [List.filter_cons]
    by_cases hx : x.data = inst.snapshot
    · simp [hx]
    · -- A revision below the highest has a smaller number.
      simp only [hx, decide_false, Bool.false_eq_true, if_false, List.head?_cons, List.map_cons,
        Option.some.injEq, and_false, iff_false]
      cases hf : (s.filter fun rev => decide (rev.data = inst.snapshot)).head? with
      | none => simp
      | some y =>
        have hy : y ∈ s := List.mem_of_mem_filter (List.mem_of_mem_head? hf)
        have := hs.lt_head hy
        simp only [decide_eq_true_eq, not_and]
        omega

theorem verdict_eq (hl : Ledger r l h) (now : Time) (d : DatadogAgent Spec) :
    verdict r now l d = ledgerVerdict r now h d := by
  unfold ledgerVerdict
  split
  · rename_i hp
    rw [verdict_running hp]
    simp only [hl.manuallyChanged_iff, hl.matching_isSome]
    rcases d.signal with _ | _ | _ | _ | _ <;> simp
  · rename_i hp
    rw [verdict_not_running hp]
    simp only [hl.atHighest_iff]
    rcases d.signal with _ | _ | _ | _ | _ <;> simp

/-! ## Changing the store -/

omit [DecidableEq Spec] in
theorem map_marks (hl : Ledger r l h)
    (hname : ∀ x, (f x).name = x.name) (hrev : ∀ x, (f x).revision = x.revision)
    (hdata : ∀ x, (f x).data = x.data) : Ledger r (l.map f) h := by
  obtain ⟨s, hs, rfl⟩ := hl.ranking
  refine ⟨?_, s.map f, hs.map hrev, by simp [hdata]⟩
  exact
    { named := by simpa [hname, hdata] using hl.ok.named
      names := by simpa [Function.comp_def, hname] using hl.ok.names
      numbers := by simpa [Function.comp_def, hrev] using hl.ok.numbers
      positive := by simpa [hrev] using hl.ok.positive
      datadog := by simpa [hdata] using hl.ok.datadog }

omit [DecidableEq Spec] in
theorem collect (hok : RevisionsOk r l) (hs : Ranked (·.revision) l (c :: o))
    (hq : ∀ x ∈ l, q x ↔ x.name = c.name ∨ x.name = (o.head?.map (·.name)).getD "") :
    Ledger r (l.filter q) (c.data :: (o.map (·.data)).take 1) := by
  refine ⟨hok.filter _, _, hs.filter _, ?_⟩
  have hmem {x : ControllerRevision Spec} (hx : x ∈ c :: o) : x ∈ l := hs.mem_iff.mp hx
  have hc : q c := (hq c (hmem (.head _))).mpr (.inl rfl)
  have hne {x y : ControllerRevision Spec} (hx : x ∈ l) (hy : y ∈ l)
      (hlt : x.revision < y.revision) : x.name ≠ y.name := by
    intro heq
    rw [hok.eq_of_name hx hy heq] at hlt
    omega
  cases o with
  | nil => simp [hc]
  | cons y o =>
    have hy : q y := (hq y (hmem (by simp))).mpr (.inr rfl)
    have hrest : o.filter q = [] := by
      rw [List.filter_eq_nil_iff]
      intro x hx hqx
      have hxl : x ∈ l := hmem (by simp [hx])
      rcases (hq x hxl).mp hqx with h | h
      · exact hne hxl (hmem (.head _)) (hs.lt_head (.tail _ hx)) h
      · exact hne hxl (hmem (by simp))
          ((List.pairwise_cons.mp (List.pairwise_cons.mp hs.sorted).2).1 x hx) h
    simp [hc, hy, hrest]

end Ledger

structure Env.RevisionCallsOk (env : Env Spec) : Prop where
  create : env.create = none
  bump : env.bump = none
  delete : env.delete = none
  gcDelete : ∀ name, env.gcDelete name = none

section
variable {env : Env Spec} {l₁ s : List (ControllerRevision Spec)}

theorem Ensured.ranking (he : Ensured r env data skipBump l result l₁)
    (henv : env.RevisionCallsOk) (hok : RevisionsOk r l) (hcol : NoCollision r l data)
    (hs : Ranked (·.revision) l s) :
    result = .ok (r.revisionName data) ∧
      ((∃ c, c.data = data ∧ Ranked (·.revision) l₁ (c :: s.filter fun x => decide (x.data ≠ data)) ∧
        maxRevision l ≤ c.revision ∧ (skipBump = false ∨ data ∉ s.map (·.data))) ∨
      (skipBump = true ∧ l₁ = l ∧ data ∈ s.map (·.data))) := by
  have hother {rev : ControllerRevision Spec} (hrev : rev ∈ l) (hdata : rev.data = data) :
      l.filter (fun x => decide (x.name ≠ rev.name)) =
        l.filter (fun x => decide (x.data ≠ data)) := by
    refine List.filter_congr fun x hx => ?_
    have : x.name = rev.name ↔ x.data = data :=
      ⟨fun h => (hok.eq_of_name hx hrev h) ▸ hdata,
        fun h => congrArg _ (hok.eq_of_data hx hrev (h.trans hdata.symm))⟩
    simp [this]
  have hname {rev : ControllerRevision Spec} (hrev : rev ∈ l) (hdata : rev.data = data) :
      rev.name = r.revisionName data := by rw [hok.named rev hrev, hdata]
  have htop : ∀ x ∈ l.filter (fun x => decide (x.data ≠ data)), x.revision < maxRevision l + 1 := by
    intro x hx
    have := le_maxRevision (List.mem_of_mem_filter hx)
    omega
  cases he with
  | kept rev hrev hdata hmark hmax =>
    refine ⟨by rw [hname hrev hdata], ?_⟩
    cases hskip : skipBump with
    | true =>
      exact .inr ⟨rfl, rfl, List.mem_map.mpr ⟨rev, hs.mem_iff.mpr hrev, hdata⟩⟩
    | false =>
      have hmax := hmax hskip henv.bump
      refine .inl ⟨rev, hdata, ?_, hmax, .inl rfl⟩
      -- No number exceeds that of `rev`, so it heads the ranking.
      match s, hs with
      | [], hs => simp [hs.mem_iff.symm] at hrev
      | x :: s, hs =>
        have hx : x = rev := by
          rcases List.mem_cons.mp (hs.mem_iff.mpr hrev) with h | h
          · exact h.symm
          · have h1 := hs.lt_head h
            have h2 := le_maxRevision (hs.mem_iff.mp (List.mem_cons_self (a := x)))
            omega
        subst hx
        have hrest : (x :: s).filter (fun y => decide (y.data ≠ data)) = s := by
          rw [List.filter_cons, if_neg (by simp [hdata]), List.filter_eq_self]
          intro y hy
          have hlt := hs.lt_head hy
          simp only [ne_eq, decide_not, Bool.not_eq_true', decide_eq_false_iff_not]
          intro hyd
          rw [hok.eq_of_data (hs.mem_iff.mp (List.mem_cons_of_mem _ hy)) hrev
            (hyd.trans hdata.symm)] at hlt
          omega
        rw [hrest]
        exact hs
  | bumped rev hrev hdata hskip =>
    have hp := patchRevisions_perm hok hrev fun x => { x with revision := maxRevision l + 1 }
    rw [hother hrev hdata] at hp
    exact ⟨by rw [hname hrev hdata], .inl ⟨{ rev with revision := maxRevision l + 1 }, hdata,
      ((hs.filter _).cons_above htop).of_perm hp.symm, Int.le_of_lt (Int.lt_succ _), .inl hskip⟩⟩
  | recreated rev hrev hdata hskip =>
    refine ⟨rfl, .inl ⟨r.newControllerRevision data (maxRevision l + 1), rfl, ?_,
      Int.le_of_lt (Int.lt_succ _), .inl hskip⟩⟩
    rw [hother hrev hdata]
    exact ((hs.filter _).cons_above htop).of_perm (List.perm_append_singleton _ _).symm
  | created hnone hfree =>
    refine ⟨rfl, .inl ⟨r.newControllerRevision data (maxRevision l + 1), rfl, ?_,
      Int.le_of_lt (Int.lt_succ _), .inr ?_⟩⟩
    · have hself : s.filter (fun x => decide (x.data ≠ data)) = s := by
        rw [List.filter_eq_self]
        intro x hx
        simpa using hnone x (hs.mem_iff.mp hx)
      rw [hself]
      exact (hs.cons_above fun x hx => Int.lt_add_one_of_le (le_maxRevision hx)).of_perm
        (List.perm_append_singleton _ _).symm
    · intro hmem
      obtain ⟨x, hx, hxd⟩ := List.mem_map.mp hmem
      exact hnone x (hs.mem_iff.mp hx) hxd
  | notBumped _ _ _ _ _ hne => exact absurd henv.bump hne
  | notDeleted _ _ _ _ hne => exact absurd henv.delete hne
  | lost _ _ _ _ _ _ hne => exact absurd henv.create hne
  | missing _ hnone hcause =>
    rcases hcause with hne | ⟨x, hx, hxn⟩
    · exact absurd henv.create hne
    · exact absurd (hcol x hx hxn) (hnone x hx)

end

theorem previousRevision_eq (hok : RevisionsOk r l) (hcol : NoCollision r l data)
    (hs : Ranked (·.revision) l s)
    (hname : ∀ x, (f x).name = x.name) (hf : ∀ x, x.name ≠ r.revisionName data → f x = x) :
    previousRevision (l.map f) (r.revisionName data) =
      (((s.filter fun x => decide (x.data ≠ data)).head?).map (·.name)).getD "" := by
  have hfilter : (l.map f).filter (fun x =>
        decide (x.name ≠ r.revisionName data ∧ -1 < x.revision)) =
      l.filter fun x => decide (x.data ≠ data) := by
    rw [List.filter_map]
    have hcomp : l.filter ((fun x : ControllerRevision Spec =>
          decide (x.name ≠ r.revisionName data ∧ -1 < x.revision)) ∘ f) =
        l.filter fun x => decide (x.data ≠ data) := by
      refine List.filter_congr fun x hx => ?_
      have hiff : x.name = r.revisionName data ↔ x.data = data :=
        ⟨hcol x hx, fun h => by rw [hok.named x hx, h]⟩
      by_cases hxd : x.data = data
      · simp [hname, hiff.mpr hxd, hxd]
      · have hpos := hok.positive x hx
        have hx1 : -1 < x.revision := by omega
        simp [hf x (fun h => hxd (hiff.mp h)), hiff, hxd, hx1]
    rw [hcomp]
    conv_rhs => rw [← List.map_id (l.filter fun x => decide (x.data ≠ data))]
    refine List.map_congr_left fun x hx => ?_
    obtain ⟨hxl, hxd⟩ := List.mem_filter.mp hx
    exact hf x fun h => (of_decide_eq_true hxd) (hcol x hxl h)
  rw [previousRevision, hfilter, (hs.filter _).argmax_eq]

theorem manageRevision_ledger (henv : env.RevisionCallsOk)
    (hsync : p.revList = p.server.revisions) (hl : Ledger r p.revList h) (hlen : h.length ≤ 2)
    (hcol : NoCollision r p.revList data)
    (hd : datadogAnnotations data.annotations = data.annotations) :
    (manageRevision r env data p).1 = .ok () ∧
      Ledger r (manageRevision r env data p).2.server.revisions
        (record (skipRevisionBump p.newStatus) data h) ∧
      ∀ rev ∈ p.revList, ∃ rev' ∈ (manageRevision r env data p).2.server.revisions,
        rev.revision ≤ rev'.revision := by
  obtain ⟨s, hs, rfl⟩ := hl.ranking
  obtain ⟨he, f, hlist, hfname, hfother⟩ :=
    ensureRevision_cases env data (skipRevisionBump p.newStatus) hsync hl.ok
  unfold manageRevision
  rcases hq : ensureRevision r env data (skipRevisionBump p.newStatus) p with ⟨result, q⟩
  rw [hq] at he hlist
  obtain ⟨hresult, hcase⟩ := he.ranking henv hl.ok hcol hs
  obtain rfl : result = .ok (r.revisionName data) := hresult
  have hok := he.ok hl.ok hd
  have hprev := previousRevision_eq hl.ok hcol hs hfname hfother
  rw [← hlist] at hprev
  obtain ⟨gone, hout, hsub, hall⟩ := gcDelete_spec env q (r.revisionName data)
    (previousRevision q.revList (r.revisionName data)) q.revList
  rw [hprev] at hsub hall
  -- What survives is the snapshot's revision and the newest other one.
  have hkeep : ∀ x ∈ q.server.revisions, decide (x.name ∉ gone) = true ↔
      x.name = r.revisionName data ∨
        x.name = (((s.filter fun x => decide (x.data ≠ data)).head?).map (·.name)).getD "" := by
    intro x hx
    rw [decide_eq_true_eq]
    refine ⟨?_, ?_⟩
    · intro hgone
      by_contra hne
      obtain ⟨hcur, hpre⟩ := not_or.mp hne
      have hxl : x ∈ p.revList :=
        he.others hl.ok hx fun h => hcur (by rw [hok.named x hx, h])
      have hfx : f x ∈ q.revList := by rw [hlist]; exact List.mem_map_of_mem hxl
      have := hall henv.gcDelete (f x) hfx
      rw [hfname] at this
      exact hgone (this hcur hpre)
    · intro h hgone
      obtain ⟨hcur, hpre⟩ := hsub _ hgone
      exact h.elim hcur hpre
  refine ⟨rfl, ?_⟩
  simp only [gcOldRevisions, hout]
  rcases hcase with ⟨c, hcd, hrank, hmax, hskip⟩ | ⟨hskip, hsame, hmem⟩
  · have hrec : record (skipRevisionBump p.newStatus) data (s.map (·.data)) =
        c.data :: ((s.filter fun x => decide (x.data ≠ data)).map (·.data)).take 1 := by
      rw [record, if_neg, hcd, List.filter_map]
      · rfl
      · rintro ⟨h1, h2⟩
        rcases hskip with h | h
        · simp [h] at h1
        · exact h h2
    have hcname : c.name = r.revisionName data := by
      rw [hok.named c (hrank.mem_iff.mp (.head _)), hcd]
    have hc : c ∈ q.server.revisions := hrank.mem_iff.mp (.head _)
    rw [hrec]
    refine ⟨Ledger.collect hok hrank (hcname ▸ hkeep), fun rev hrev => ⟨c, ?_, ?_⟩⟩
    · exact List.mem_filter.mpr ⟨hc, (hkeep c hc).mpr (.inl hcname)⟩
    · exact Int.le_trans (le_maxRevision hrev) hmax
  · rw [record, if_pos ⟨hskip, hmem⟩]
    have hself : q.server.revisions.filter (fun x => decide (x.name ∉ gone)) = p.revList := by
      rw [hsame] at hkeep ⊢
      rw [List.filter_eq_self]
      intro x hx
      rw [hkeep x hx]
      by_cases hxd : x.data = data
      · exact .inl (by rw [hl.ok.named x hx, hxd])
      · -- Two snapshots at most, one of them current: the other is the newest other.
        obtain ⟨y, hy, hyd⟩ := List.mem_map.mp hmem
        have hlt := List.length_filter_lt_length_iff_exists
          (p := fun x => decide (x.data ≠ data)) |>.mpr ⟨y, hy, by simp [hyd]⟩
        have hxo : x ∈ s.filter fun x => decide (x.data ≠ data) :=
          List.mem_filter.mpr ⟨hs.mem_iff.mpr hx, by simp [hxd]⟩
        rw [List.length_map] at hlen
        generalize s.filter (fun x => decide (x.data ≠ data)) = o at hlt hxo ⊢
        obtain ⟨z, rfl⟩ := List.length_eq_one_iff.mp
          (Nat.le_antisymm (by omega) (List.length_pos_of_mem hxo))
        obtain rfl : x = z := by simpa using hxo
        exact .inr rfl
    simp only [Pass.setRevisions, hself]
    exact ⟨hl, fun rev hrev => ⟨rev, hrev, Int.le_refl _⟩⟩

end

end DatadogOperator
