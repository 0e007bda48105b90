import DatadogOperator.History

/-!
# Promotion

`processPromoteSignal` compares the spec with all stored revisions, not with
the experiment's: a promote signal that finds the spec changed since the
start patch is refused only when two revisions are stored and none matches.
-/

namespace DatadogOperator

variable {Spec : Type} [DecidableEq Spec]

/-- Promotion is of the spec of the experiment's start patch. -/
def PromotesStarted (r : Reconciler Spec) (w : World Spec) : Event Spec → Prop
  | .reconcile env => w.Moves r env .running .promoted →
    ∃ st, w.running = some st ∧ st.id = w.server.dda.status.id ∧ w.server.dda.spec = st.spec
  | _ => True

/-- A promote signal that is read with another spec than the start patch's
finds two revisions or more, none of them with the object's snapshot. -/
def RefusesChanged (w : World Spec) : Event Spec → Prop
  | .reconcile _ => ∀ st ∈ w.running, st.edited → w.server.dda.spec ≠ st.spec →
    w.server.dda.status.phase = some .running → w.server.dda.signal = some .promote →
    manuallyChanged w.server.revisions w.server.dda
  | _ => True

section
variable {r : Reconciler Spec} {w : World Spec}

instance : (e : Event Spec) → Decidable (PromotesStarted r w e)
  | .reconcile env => inferInstanceAs (Decidable (w.Moves r env .running .promoted → _))
  | .edit .. | .daemon .. | .tick _ => isTrue trivial

instance : (e : Event Spec) → Decidable (RefusesChanged w e)
  | .reconcile _ => inferInstanceAs (Decidable (∀ st ∈ w.running, _))
  | .edit .. | .daemon .. | .tick _ => isTrue trivial

theorem Tracked.promotesStarted (ht : Tracked r w) (h : RefusesChanged w e) :
    PromotesStarted r w e := by
  cases e with
  | edit | daemon | tick => trivial
  | reconcile env =>
    intro hmoves
    obtain ⟨st, hst, hid⟩ := Option.map_eq_some_iff.mp (ht.running hmoves.1)
    refine ⟨st, hst, hid, ?_⟩
    have hv : w.verdict r = .promote := by
      rcases hmoves.verdict ht.ok with h | ⟨hv, -⟩ | ⟨-, h⟩ | ⟨_, -, h⟩
      · cases h
      · exact hv
      · cases h
      · cases h
    obtain ⟨hph, hs, hmatch⟩ := verdict_eq_promote.mp hv
    by_contra hne
    have hedited : st.edited = true := by
      by_contra hno
      exact hne (ht.runningSpared st hst (Bool.eq_false_of_not_eq_true hno))
    have := h st hst hedited hne hph hs
    simp_all

end

/-- Over every run, with any API outcomes: what is promoted is the spec of
the start patch, if every promote signal refuses a changed spec. -/
theorem promoted_spec_is_started (r : Reconciler Spec) (dda : DatadogAgent Spec) (now : Time)
    (hs : dda.signal = none) (hp : dda.status.phase ≠ some .running) (es : List (Event Spec))
    (h : Runs.Along (World.step r) RefusesChanged (.init dda now) es) :
    Runs.Along (World.step r) (PromotesStarted r) (.init dda now) es :=
  Runs.Along.of_invariant (I := Tracked r) (fun _ e ht _ => ht.step e)
    (fun _ _ ht hc => ht.promotesStarted hc) (.init hs hp now) h

/-- A promotion, and a promote signal refused after a manual change. -/
theorem promoted_spec_is_started_runs :
    let es : List (Event Nat) := [.reconcile .clean, .daemon (operation .start "v1") 1,
      .reconcile .clean, .daemon (operation .promote "v1") 1, .reconcile .clean,
      .reconcile .clean, .daemon (operation .start "v2") 2, .reconcile .clean, .edit 3 ∅,
      .daemon (operation .promote "v2") 2, .reconcile .clean]
    Runs.Along (World.step numbered) (PromotesStarted numbered) (.init (numberedAgent 0) 0) es ∧
      (Runs.run (World.step numbered) (.init (numberedAgent 0) 0) (es.take 5)).server.dda.status.phase
        = some .promoted ∧
      (Runs.run (World.step numbered) (.init (numberedAgent 0) 0) es).server.dda.status.phase
        = some .aborted :=
  ⟨promoted_spec_is_started numbered (numberedAgent 0) 0 (by decide) (by decide) _ (by decide),
    by decide, by decide⟩

/-- The user puts the spec back to the stored baseline; the promote signal
that follows finds a matching revision and promotes the baseline. -/
theorem promotes_reverted_spec :
    ¬Runs.Along (World.step numbered) (PromotesStarted numbered) (.init (numberedAgent 0) 0)
      [.reconcile .clean, .daemon (operation .start "v1") 1, .reconcile .clean, .edit 0 ∅,
        .daemon (operation .promote "v1") 0, .reconcile .clean] := by
  decide

end DatadogOperator
