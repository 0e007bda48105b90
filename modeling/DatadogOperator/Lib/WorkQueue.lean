import Mathlib.Data.List.Nodup

/-!
# A work queue

Keys are added, taken by workers and marked done. A key is in the queue once,
however often it is added, and no two workers have it at a time: a key that is
added while a worker has it goes back into the queue when the worker is done.
-/

structure WorkQueue (κ : Type) where
  queue : List κ := []
  dirty : κ → Bool := fun _ => false
  processing : κ → Bool := fun _ => false

namespace WorkQueue

variable {κ : Type} [DecidableEq κ] {q : WorkQueue κ}

def add (q : WorkQueue κ) (k : κ) : WorkQueue κ :=
  if q.dirty k then q
  else
    { q with
      queue := if q.processing k then q.queue else q.queue ++ [k]
      dirty := Function.update q.dirty k true }

/-- The first key of the queue is handed to a worker. -/
def get (q : WorkQueue κ) : Option (κ × WorkQueue κ) :=
  match q.queue with
  | [] => none
  | k :: rest =>
    some (k, ⟨rest, Function.update q.dirty k false, Function.update q.processing k true⟩)

def done (q : WorkQueue κ) (k : κ) : WorkQueue κ :=
  { q with
    queue := if q.dirty k then q.queue ++ [k] else q.queue
    processing := Function.update q.processing k false }

/-- The queue holds the keys that were added and that no worker has. -/
structure Valid (q : WorkQueue κ) : Prop where
  nodup : q.queue.Nodup
  mem_queue : ∀ k, k ∈ q.queue ↔ q.dirty k = true ∧ q.processing k = false

@[simp] theorem dirty_add : (q.add k).dirty = Function.update q.dirty k true := by
  unfold add
  split_ifs with h
  · exact (Function.update_eq_self_iff.mpr h.symm).symm
  all_goals rfl

@[simp] theorem processing_add : (q.add k).processing = q.processing := by
  unfold add
  split_ifs <;> rfl

theorem Valid.add (h : q.Valid) (k : κ) : (q.add k).Valid := by
  unfold WorkQueue.add
  split_ifs with hdirty hprocessing
  · exact h
  · refine ⟨h.nodup, fun other => ?_⟩
    by_cases heq : other = k
    · simp [heq, hprocessing, h.mem_queue]
    · simp [heq, h.mem_queue]
  · have hk : k ∉ q.queue := fun hmem => hdirty ((h.mem_queue k).mp hmem).1
    refine ⟨List.nodup_append.mpr ⟨h.nodup, by simp, by grind⟩, fun other => ?_⟩
    by_cases heq : other = k
    · simpa [heq] using hprocessing
    · simp [heq, h.mem_queue]

theorem get_cases (h : q.Valid) (hget : q.get = some (k, q')) :
    q'.Valid ∧ (q.dirty k = true ∧ q.processing k = false) ∧
      q'.dirty = Function.update q.dirty k false ∧
      q'.processing = Function.update q.processing k true := by
  unfold get at hget
  cases hqueue : q.queue with
  | nil => simp [hqueue] at hget
  | cons first rest =>
    simp only [hqueue, Option.some.injEq, Prod.mk.injEq] at hget
    obtain ⟨rfl, rfl⟩ := hget
    obtain ⟨hfirst, hrest⟩ := List.nodup_cons.mp (hqueue ▸ h.nodup)
    refine ⟨⟨hrest, fun other => ?_⟩, (h.mem_queue first).mp (by simp [hqueue]), rfl, rfl⟩
    by_cases heq : other = first
    · simp [heq, hfirst]
    · simpa [hqueue, heq] using h.mem_queue other

theorem Valid.done (h : q.Valid) (hk : q.processing k) : (q.done k).Valid := by
  have hnot : k ∉ q.queue := fun hmem => by simp [((h.mem_queue k).mp hmem).2] at hk
  unfold WorkQueue.done
  split_ifs with hdirty
  · refine ⟨List.nodup_append.mpr ⟨h.nodup, by simp, by grind⟩, fun other => ?_⟩
    by_cases heq : other = k
    · simp [heq, hdirty]
    · simp [heq, h.mem_queue]
  · refine ⟨h.nodup, fun other => ?_⟩
    by_cases heq : other = k
    · simp [heq, hdirty, hnot]
    · simp [heq, h.mem_queue]

end WorkQueue
