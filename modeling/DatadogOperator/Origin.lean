import DatadogOperator.Restore

/-!
# Where an experiment comes from

It begins with a start task, whatever API calls fail.
-/

namespace DatadogOperator

open Runs

variable {Spec : Type} [DecidableEq Spec] {r : Reconciler Spec} {w : World Spec}

/-- A start task with the ID is among the events. -/
def AskedFor (all : List (Event Spec)) (id : String) : Prop :=
  ∃ op spec, Event.daemon op spec ∈ all ∧ op.intent = .start ∧ op.experimentID = id

structure Asked (r : Reconciler Spec) (all : List (Event Spec)) (w : World Spec) : Prop where
  tracked : Tracked r w
  signalled : w.server.dda.signal = some .start → AskedFor all w.server.dda.annotationID
  running : w.server.dda.status.phase = some .running → AskedFor all w.server.dda.status.id

theorem Asked.step (h : Asked r all w) (he : e ∈ all) : Asked r all (w.step r e) := by
  refine ⟨h.tracked.step e, ?_, ?_⟩
  · cases e with
    | edit spec annotations =>
      obtain ⟨hsig, hid⟩ := userWrite_signal spec annotations w.server.dda
      rw [World.step_edit_server, hsig, hid]
      exact h.signalled
    | daemon op spec =>
      rw [World.step_daemon_server, (daemonWrite_get op spec _).2]
      exact fun hsig => ⟨op, spec, he, daemonWrite_start op spec _ hsig, rfl⟩
    | tick elapsed => exact h.signalled
    | reconcile env =>
      intro hsig
      rcases (reconcile_fleetKept w.now h.tracked.ok env.alone_alone).signal with ⟨hs, hid⟩ | hs
      · rw [World.step_reconcile_server]
        exact hid ▸ h.signalled (hs.symm.trans hsig)
      · cases hs.symm.trans hsig
  · cases e with
    | edit | daemon => simpa using h.running
    | tick elapsed => exact h.running
    | reconcile env =>
      intro hrun
      rw [World.step_reconcile_server] at hrun ⊢
      rcases w.reconcile_running h.tracked.ok env hrun with hexp | ⟨hv, hexp⟩
      · rw [DatadogAgentStatus.phase, hexp] at hrun
        rw [DatadogAgentStatus.id, hexp]
        exact h.running hrun
      · rw [DatadogAgentStatus.id, hexp]
        exact h.signalled (verdict_eq_start.mp hv).2.1

theorem running_was_asked_for (r : Reconciler Spec) (dda : DatadogAgent Spec)
    (hs : dda.signal = none) (hp : dda.status.phase ≠ some .running) (now : Time)
    (es : List (Event Spec)) :
    let out := (run (World.step r) (.init dda now) es).server.dda
    out.status.phase = some .running → AskedFor es out.status.id := by
  have hinit : Asked r es (.init dda now) :=
    ⟨.init hs hp now, fun h => absurd (hs.symm.trans h) (by simp), fun h => absurd h hp⟩
  exact (run_invariant (fun _ _ => Asked.step) hinit (.of_events fun _ he => he)).running

def started : List (Event Nat) :=
  [.reconcile .clean, .daemon (operation .start "a") 7, .reconcile .clean]

theorem started_was_asked_for : AskedFor started
    (run (World.step numbered) (.init (numberedAgent 3) 0) started).server.dda.status.id :=
  running_was_asked_for numbered (numberedAgent 3) (by decide +kernel) (by decide) 0 _
    (by decide +kernel)

end DatadogOperator
