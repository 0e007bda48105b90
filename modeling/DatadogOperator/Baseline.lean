import DatadogOperator.Restore

/-!
# Rolling back to the baseline

When does the termination of an experiment restore the spec that was
reconciled last before its start patch? The reconcile that accepts the start
signal decides it: it records the experiment's snapshot over the newest other
one, and only those two are kept. If that other one is the baseline, it stays
at hand while the experiment runs.
-/

namespace DatadogOperator

variable {Spec : Type} [DecidableEq Spec]

/-- A termination with the spec of the start patch restores the baseline's. -/
def RestoresBaseline (r : Reconciler Spec) (w : World Spec) : Event Spec → Prop
  | .reconcile env => w.Moves r env .running .terminated →
    ∃ st, w.running = some st ∧ st.id = w.server.dda.status.id ∧
      (w.server.dda.spec = st.spec →
        ∀ l ∈ st.baseline, (w.reconcile r env).dda.spec = l.spec)
  | _ => True

def Collides (r : Reconciler Spec) (w : World Spec) : Event Spec → Prop
  | .reconcile _ => ¬NoCollision r w.server.revisions w.server.dda.snapshot
  | _ => False

/-- The reconcile that accepts a start signal finds the baseline's spec in the
newest revision with another snapshot, or in the object when there is none. -/
def StartsOverBaseline (w : World Spec) : Event Spec → Prop
  | .reconcile _ => w.Starts → ∀ st ∈ w.started, ∀ l ∈ st.baseline,
    ((highestRevision (w.server.revisions.filter fun rev =>
      decide (rev.data ≠ w.server.dda.snapshot))).map (·.data.spec)).getD w.server.dda.spec = l.spec
  | _ => True

/-- A termination that finds the start patch's spec again after an edit finds
it as it was last reconciled, and other than the baseline's. -/
def EndsAsReconciled (r : Reconciler Spec) (w : World Spec) : Event Spec → Prop
  | .reconcile _ => w.server.dda.status.phase = some .running →
    w.server.dda.signal = some .rollback ∨ r.timedOut w.now w.server.dda →
    ∀ st ∈ w.running, st.edited → w.server.dda.spec = st.spec → ∀ l ∈ st.baseline,
      w.reconciled = some w.server.dda.snapshot ∧ st.spec ≠ l.spec
  | _ => True

section
variable {r : Reconciler Spec} {w : World Spec} {h : List (RevisionSnapshot Spec)}
  {st : Start Spec} {l c : RevisionSnapshot Spec}

instance : (e : Event Spec) → Decidable (RestoresBaseline r w e)
  | .reconcile env => inferInstanceAs (Decidable (w.Moves r env .running .terminated → _))
  | .edit .. | .daemon .. | .tick _ => isTrue trivial

instance : (e : Event Spec) → Decidable (Collides r w e)
  | .reconcile _ => inferInstanceAs (Decidable (¬_))
  | .edit .. | .daemon .. | .tick _ => isFalse id

instance : (e : Event Spec) → Decidable (StartsOverBaseline w e)
  | .reconcile _ => inferInstanceAs (Decidable (w.Starts → _))
  | .edit .. | .daemon .. | .tick _ => isTrue trivial

instance : (e : Event Spec) → Decidable (EndsAsReconciled r w e)
  | .reconcile _ => inferInstanceAs (Decidable (_ → _ → _))
  | .edit .. | .daemon .. | .tick _ => isTrue trivial

/-! ## What the ledger holds for a running experiment -/

/-- The ledger holds the baseline's spec. While nobody has changed the spec of
the start patch it comes first, and everything after it has the baseline's. -/
structure Held (h : List (RevisionSnapshot Spec)) (st : Start Spec) (l : RevisionSnapshot Spec) :
    Prop where
  kept : ∃ x ∈ h, x.spec = l.spec
  fresh : st.edited = false → ∃ c rest, h = c :: rest ∧ c.spec = st.spec ∧
    (∀ x ∈ rest, x.spec = l.spec) ∧ (rest = [] → st.spec = l.spec)

theorem Held.touch (hh : Held h st l) (before after : DatadogAgent Spec) (operator : Bool) :
    Held h (st.touch before after operator) l := by
  refine ⟨hh.kept, fun hedited => hh.fresh ?_⟩
  simp only [Start.touch, Bool.or_eq_false_iff] at hedited
  exact hedited.1

theorem Held.of_start (hspared : st.edited = false → c.spec = st.spec)
    (hbase : ((h.filter (· ≠ c)).head?.map (·.spec)).getD c.spec = l.spec) :
    Held (record false c h) st l := by
  rw [record_false]
  cases hother : h.filter (· ≠ c) with
  | nil =>
    rw [hother] at hbase
    refine ⟨⟨c, by simp, hbase⟩, fun hno => ⟨c, [], by simp, hspared hno, by simp, ?_⟩⟩
    exact fun _ => (hspared hno).symm.trans hbase
  | cons p rest =>
    rw [hother] at hbase
    have hp : p.spec = l.spec := hbase
    refine ⟨⟨p, by simp, hp⟩, fun hno => ⟨c, [p], by simp, hspared hno, ?_, by simp⟩⟩
    simpa using hp

theorem Held.keep (hh : Held h st l) (hlen : h.length ≤ 2) (hnodup : h.Nodup)
    (hspared : st.edited = false → c.spec = st.spec) (hc : h.length < 2 ∨ c ∈ h) :
    Held (record false c h) st l := by
  rw [record_false]
  match h, hlen with
  | [], _ =>
    obtain ⟨_, hx, -⟩ := hh.kept
    cases hx
  | [a], _ =>
    by_cases hca : a = c
    · subst hca
      simpa using hh
    · obtain ⟨x, hx, hspec⟩ := hh.kept
      obtain rfl := List.mem_singleton.mp hx
      simp only [List.filter_cons, ne_eq, hca, not_false_eq_true, decide_true, if_true,
        List.filter_nil, List.take_succ_cons, List.take_zero]
      refine ⟨⟨x, by simp, hspec⟩, fun hno => ⟨c, [x], rfl, hspared hno, ?_, by simp⟩⟩
      simpa using hspec
  | [a, b], _ =>
    have hab : a ≠ b := by simpa using hnodup
    have hmem : c = a ∨ c = b := by simpa using hc
    rcases hmem with rfl | rfl
    · simpa [hab.symm] using hh
    · have hrecord : c :: List.take 1 ([a, c].filter (· ≠ c)) = [c, a] := by simp [hab]
      rw [hrecord]
      refine ⟨?_, fun hno => ⟨c, [a], rfl, hspared hno, ?_, by simp⟩⟩
      · obtain ⟨x, hx, hspec⟩ := hh.kept
        exact ⟨x, by simpa [or_comm] using hx, hspec⟩
      · obtain ⟨_, _, heq, ha, hrest, -⟩ := hh.fresh hno
        obtain ⟨rfl, rfl⟩ := List.cons.inj heq
        have hcl : c.spec = l.spec := hrest c (by simp)
        simpa using ha.trans ((hspared hno).symm.trans hcl)

omit [DecidableEq Spec] in
theorem Held.second (hh : Held [a, t] st l)
    (hc : st.edited = false ∨ a.spec = st.spec ∧ st.spec ≠ l.spec) : t.spec = l.spec := by
  rcases hc with hno | ⟨ha, hne⟩
  · obtain ⟨c, rest, heq, -, hrest, -⟩ := hh.fresh hno
    obtain ⟨rfl, rfl⟩ := List.cons.inj heq
    exact hrest t (by simp)
  · obtain ⟨x, hx, hspec⟩ := hh.kept
    rcases List.mem_cons.mp hx with rfl | hx
    · exact absurd (ha.symm.trans hspec) hne
    · rwa [List.mem_singleton.mp hx] at hspec

/-! ## Runs -/

/-- While an experiment runs, the ledger starts with what was reconciled last
and holds what its rollback needs. -/
structure Baselined (r : Reconciler Spec) (w : World Spec) : Prop where
  tracked : Tracked r w
  ledger : ∃ h, Ledger r w.server.revisions h ∧ h.length ≤ 2 ∧
    (w.server.dda.status.phase = some .running → w.reconciled = h.head? ∧
      ∀ st ∈ w.running, ∀ l ∈ st.baseline, Held h st l)

theorem Held.map_touch {o : Option (Start Spec)} (hh : ∀ st ∈ o, ∀ l ∈ st.baseline, Held h st l)
    (before after : DatadogAgent Spec) (operator : Bool) :
    ∀ st ∈ o.map (Start.touch before after operator), ∀ l ∈ st.baseline, Held h st l := by
  intro st hst l hbase
  obtain ⟨old, hold, rfl⟩ := Option.map_eq_some_iff.mp hst
  exact (hh old hold l hbase).touch before after operator

theorem newest_other_spec (hl : Ledger r w.server.revisions h) :
    ((highestRevision (w.server.revisions.filter fun rev =>
      decide (rev.data ≠ w.server.dda.snapshot))).map (·.data.spec)).getD w.server.dda.spec =
      ((h.filter (· ≠ w.server.dda.snapshot)).head?.map (·.spec)).getD w.server.dda.spec := by
  rw [← (hl.others w.server.dda.snapshot).highest_data, Option.map_map]
  rfl

theorem Baselined.reconcile (hw : Baselined r w)
    (hcol : NoCollision r w.server.revisions w.server.dda.snapshot)
    (hc : StartsOverBaseline w (.reconcile .clean)) :
    Baselined r (w.step r (.reconcile .clean)) := by
  refine ⟨hw.tracked.step _, ?_⟩
  obtain ⟨h, hl, hlen, hheld⟩ := hw.ledger
  obtain ⟨-, hledger⟩ := w.reconcile_recorded hl hlen
  rw [if_pos hcol] at hledger
  refine ⟨_, hledger, length_record_le hlen _ _, ?_⟩
  intro hrun
  rw [World.step_reconcile_server] at hrun
  obtain ⟨hv, hsnap, -⟩ := w.reconcile_still_running hl hlen hrun
  have hskip : decide ((w.reconcile r .clean).dda.status.phase = some .terminated) = false := by
    rw [hrun]
    rfl
  rw [hskip]
  refine ⟨?_, ?_⟩
  · rw [World.step_reconciled_clean, hsnap, record_false]
    rfl
  · rcases hv with hv | ⟨hv, hold⟩
    · -- The start signal is accepted: the running experiment is the one started.
      have hstarts := w.verdict_start_iff.mp hv
      have hrunning : (w.step r (.reconcile .clean)).running =
          w.started.map (Start.touch w.server.dda (w.reconcile r .clean).dda true) := by
        simp [World.step, World.write, hstarts.1, hrun]
      rw [hrunning]
      refine Held.map_touch ?_ _ _ _
      intro st hst l hbase
      refine .of_start (hw.tracked.startedSpared st hst) ?_
      rw [← hc hstarts st hst l hbase, newest_other_spec hl]
      rfl
    · have hrunning : (w.step r (.reconcile .clean)).running =
          w.running.map (Start.touch w.server.dda (w.reconcile r .clean).dda true) := by
        simp [World.step, World.write, hold]
      rw [hrunning]
      refine Held.map_touch ?_ _ _ _
      intro st hst l hbase
      refine ((hheld hold).2 st hst l hbase).keep hlen hl.nodup (hw.tracked.runningSpared st hst) ?_
      -- Otherwise the verdict would have been to abort.
      by_contra hno
      obtain ⟨hlen2, hmem⟩ := not_or.mp hno
      have habort : w.verdict r = .abort :=
        verdict_eq_abort.mpr ⟨hold, hl.manuallyChanged_iff.mpr ⟨Nat.le_of_not_lt hlen2, hmem⟩⟩
      rw [habort] at hv
      cases hv

theorem Baselined.step (hw : Baselined r w) {e : Event Spec} (hclean : e.Clean)
    (hcol : ¬Collides r w e) (hc : StartsOverBaseline w e) : Baselined r (w.step r e) := by
  have hkeep (d : DatadogAgent Spec) (hstatus : d.status = w.server.dda.status) :
      ∃ h, Ledger r w.server.revisions h ∧ h.length ≤ 2 ∧
        (d.status.phase = some .running → w.reconciled = h.head? ∧
          ∀ st ∈ w.running.map (Start.touch w.server.dda d false), ∀ l ∈ st.baseline, Held h st l) := by
    obtain ⟨h, hl, hlen, hheld⟩ := hw.ledger
    refine ⟨h, hl, hlen, fun hrun => ?_⟩
    obtain ⟨hhead, hall⟩ := hheld (hstatus ▸ hrun)
    exact ⟨hhead, Held.map_touch hall _ _ _⟩
  cases e with
  | edit spec annotations =>
    exact ⟨hw.tracked.step _, hkeep _ (userWrite_status spec annotations w.server.dda)⟩
  | daemon op spec =>
    refine ⟨hw.tracked.step _, ?_⟩
    rw [World.step_daemon_server, World.step_daemon_running, World.step_daemon_reconciled]
    exact hkeep _ (daemonWrite_status op spec w.server.dda)
  | tick elapsed => exact ⟨hw.tracked.step _, hw.ledger⟩
  | reconcile env =>
    obtain rfl : env = .clean := hclean
    exact hw.reconcile (not_not.mp hcol) hc

theorem Baselined.restoresBaseline (hw : Baselined r w) (hclean : e.Clean)
    (hc : EndsAsReconciled r w e) : RestoresBaseline r w e := by
  cases e with
  | edit | daemon | tick => trivial
  | reconcile env =>
    obtain rfl : env = .clean := hclean
    intro hmoves
    obtain ⟨st, hst, hid⟩ := Option.map_eq_some_iff.mp (hw.tracked.running hmoves.1)
    refine ⟨st, hst, hid, ?_⟩
    intro hspec l hbase
    obtain ⟨h, hl, hlen, hheld⟩ := hw.ledger
    obtain ⟨reason, hv⟩ : ∃ reason, w.verdict r = .restore reason := by
      rcases hmoves.verdict hl.ok with h | ⟨-, h⟩ | ⟨-, h⟩ | ⟨reason, hv, -⟩
      · cases h
      · cases h
      · cases h
      · exact ⟨reason, hv⟩
    obtain ⟨hrun, hknown, hwhy⟩ := verdict_eq_restore hv
    obtain ⟨hhead, hall⟩ := hheld hrun
    have hheld := hall st hst l hbase
    have hedited : st.edited = false ∨
        w.reconciled = some w.server.dda.snapshot ∧ st.spec ≠ l.spec := by
      cases hed : st.edited with
      | false => exact .inl rfl
      | true =>
        refine .inr (hc hrun ?_ st hst hed hspec l hbase)
        rcases hwhy with ⟨-, hs⟩ | ⟨-, -, -, ht, -⟩
        · exact .inl hs
        · exact .inr ht
    match h, hl, hlen, hheld, hhead with
    | [], _, _, hheld, _ =>
      obtain ⟨_, hx, -⟩ := hheld.kept
      cases hx
    | [a], hl, _, hheld, hhead =>
      have hsnap := reconcile_unrestored w.now Env.clean_experimentCallsOk Env.clean_alone hl
        (.inl (by simp))
      have hsame : (w.reconcile r .clean).dda.spec = w.server.dda.spec :=
        congrArg RevisionSnapshot.spec hsnap
      rw [hsame]
      rcases hedited with hno | ⟨hlast, hne⟩
      · obtain ⟨_, _, heq, -, -, hone⟩ := hheld.fresh hno
        obtain ⟨rfl, rfl⟩ := List.cons.inj heq
        exact hspec.trans (hone rfl)
      · obtain ⟨x, hx, hxl⟩ := hheld.kept
        obtain rfl := List.mem_singleton.mp hx
        cases hhead.symm.trans hlast
        exact hxl
    | [a, t], hl, _, hheld, hhead =>
      have hback := (reconcile_restores w.now Env.clean_experimentCallsOk Env.clean_alone hl rfl
        (by rw [show verdict r w.now w.server.revisions w.server.dda = _ from hv]; rfl)).1
      rw [show (w.reconcile r .clean).dda.spec = t.spec from hback]
      refine hheld.second (hedited.imp_right ?_)
      rintro ⟨hlast, hne⟩
      cases hhead.symm.trans hlast
      exact ⟨hspec, hne⟩

end

/-- Over every run without API errors and collisions. -/
theorem restored_spec_is_baseline (r : Reconciler Spec) (dda : DatadogAgent Spec) (now : Time)
    (hs : dda.signal = none) (hp : dda.status.phase ≠ some .running) (es : List (Event Spec))
    (hclean : ∀ e ∈ es, e.Clean)
    (hcol : Runs.Along (World.step r) (fun w e => ¬Collides r w e) (.init dda now) es)
    (hstart : Runs.Along (World.step r) StartsOverBaseline (.init dda now) es)
    (hend : Runs.Along (World.step r) (EndsAsReconciled r) (.init dda now) es) :
    Runs.Along (World.step r) (RestoresBaseline r) (.init dda now) es := by
  refine Runs.Along.of_invariant (I := Baselined r) ?_ ?_ ?_
    ((Runs.Along.of_events hclean).and (hcol.and (hstart.and hend)))
  · exact fun _ _ hw hc => hw.step hc.1 hc.2.1 hc.2.2.1
  · exact fun _ _ hw hc => hw.restoresBaseline hc.1 hc.2.2.2
  · exact ⟨.init hs hp now, [], .nil, Nat.zero_le _, fun hrun => absurd hrun hp⟩

theorem restored_spec_is_baseline_run :
    let es : List (Event Nat) := [.reconcile .clean, .daemon (operation .start "v1") 1,
      .reconcile .clean, .daemon (operation .promote "v1") 1, .reconcile .clean,
      .reconcile .clean, .daemon (operation .start "v2") 2, .reconcile .clean,
      .daemon (operation .stop "v2") 2, .reconcile .clean]
    Runs.Along (World.step numbered) (RestoresBaseline numbered) (.init (numberedAgent 0) 0) es ∧
      (Runs.run (World.step numbered) (.init (numberedAgent 0) 0) es).server.dda.status.phase =
        some .terminated ∧
      (Runs.run (World.step numbered) (.init (numberedAgent 0) 0) es).server.dda.spec = 1 :=
  ⟨restored_spec_is_baseline numbered (numberedAgent 0) 0 (by decide) (by decide) _
    (by simp [Event.Clean]) (by decide) (by decide) (by decide), by decide, by decide⟩

/-- Experiments with specs 1 and 2 over the baseline 0, rolled back one after
the other: the second rollback restores spec 1. -/
theorem restores_rolled_back_spec :
    ¬Runs.Along (World.step numbered) (RestoresBaseline numbered) (.init (numberedAgent 0) 0)
      [.reconcile .clean, .daemon (operation .start "v1") 1, .reconcile .clean,
        .daemon (operation .stop "v1") 1, .reconcile .clean, .reconcile .clean,
        .daemon (operation .start "v2") 2, .reconcile .clean,
        .daemon (operation .stop "v2") 2, .reconcile .clean] := by
  decide

end DatadogOperator
