import DatadogOperator.Lib.Runs
import DatadogOperator.Lib.WorkQueue

/-!
# Snapshots of a custom resource

`crd_metadata.go` and `informer_runner.go`, for one custom resource: its changes
are delivered as keys of a work queue, one key for additions and updates and one
for deletions, and several workers keep the snapshot. A worker with the first
key reads the object before it stores the snapshot. The two keys are not ordered
with each other, so a deletion may take away the snapshot of an object that has
been created again, or come before a snapshot of the deleted object is stored.

The heartbeat only sends what is stored, and sends succeed.
-/

namespace DatadogOperator.CrdMetadata

open Runs

inductive Key
  | process
  | delete
  deriving DecidableEq

/-- The object in the cache of the informer, what is not yet delivered of its
changes, the queue, what the worker with the first key has read, and the
snapshot with its hash. -/
structure Forwarder (Instance Hash : Type) where
  object : Option Instance := none
  undelivered : List Key := []
  queue : WorkQueue Key := {}
  read : Option (Option Instance) := none
  snapshot : Option (Instance × Hash) := none

inductive Event (Instance : Type)
  /-- Creation, update or deletion. -/
  | change (object : Option Instance)
  | deliver
  | get
  | fetch
  | finish (key : Key)

variable {Instance Hash : Type} [DecidableEq Hash] (hashCRD : Instance → Hash)

/-- What the informer reports of a change. -/
def notification : Option Instance → Option Instance → List Key
  | none, none => []
  | some _, none => [.delete]
  | _, some _ => [.process]

def storeSnapshot (snapshot : Option (Instance × Hash)) (object : Instance) :
    Option (Instance × Hash) :=
  match snapshot with
  | some (old, hash) =>
    if hash = hashCRD object then some (old, hash) else some (object, hashCRD object)
  | none => some (object, hashCRD object)

/-- The end of `processKey`, with the object that was read. -/
def finishProcess (f : Forwarder Instance Hash) : Forwarder Instance Hash :=
  match f.read with
  | none => f
  -- The object was not found.
  | some none => { f with queue := f.queue.done .process, read := none }
  | some (some object) =>
    { f with
      queue := f.queue.done .process
      read := none
      snapshot := storeSnapshot hashCRD f.snapshot object }

def step (f : Forwarder Instance Hash) : Event Instance → Forwarder Instance Hash
  | .change object =>
    { f with object, undelivered := f.undelivered ++ notification f.object object }
  | .deliver =>
    match f.undelivered with
    | [] => f
    | key :: rest => { f with undelivered := rest, queue := f.queue.add key }
  | .get =>
    match f.queue.get with
    | none => f
    | some (_, queue) => { f with queue }
  | .fetch =>
    if f.queue.processing .process ∧ f.read = none then { f with read := some f.object } else f
  | .finish .process => finishProcess hashCRD f
  | .finish .delete =>
    if f.queue.processing .delete then
      { f with queue := f.queue.done .delete, snapshot := none }
    else f

/-! ## When the snapshot follows the object -/

def DeleteLeft (f : Forwarder Instance Hash) : Prop :=
  .delete ∈ f.undelivered ∨ f.queue.dirty .delete ∨ f.queue.processing .delete

/-- The object will be read, or it has been read and not stored. -/
def ProcessLeft (f : Forwarder Instance Hash) : Prop :=
  .process ∈ f.undelivered ∨ f.queue.dirty .process ∨
    f.queue.processing .process ∧ f.read ≠ some none

/-- The object is not created while a deletion of it is not processed, and not
deleted while a worker has read it and not stored its snapshot. -/
def Spaced (f : Forwarder Instance Hash) : Event Instance → Prop
  | .change (some _) => f.object = none → ¬DeleteLeft f
  | .change none => f.object ≠ none → ∀ object, f.read ≠ some (some object)
  | _ => True

structure Sound (f : Forwarder Instance Hash) : Prop where
  valid : f.queue.Valid
  reader : f.read ≠ none → f.queue.processing .process
  present : f.object ≠ none → ¬DeleteLeft f ∧ (f.snapshot ≠ none ∨ ProcessLeft f)
  absent : f.object = none →
    (∀ object, f.read ≠ some (some object)) ∧ (f.snapshot ≠ none → DeleteLeft f)

def Quiet (f : Forwarder Instance Hash) : Prop :=
  f.undelivered = [] ∧ f.queue.queue = [] ∧ ∀ key, f.queue.processing key = false

variable {f : Forwarder Instance Hash}

theorem storeSnapshot_ne_none {snapshot : Option (Instance × Hash)} {object : Instance} :
    storeSnapshot hashCRD snapshot object ≠ none := by
  unfold storeSnapshot
  split
  · split_ifs <;> simp
  · simp

theorem Sound.change (hf : Sound f) (hs : Spaced f (.change object)) :
    Sound (step hashCRD f (.change object)) := by
  obtain ⟨valid, reader, present, absent⟩ := hf
  cases hold : f.object <;> cases object <;> refine ⟨valid, reader, ?_, ?_⟩ <;>
    simp_all [step, notification, DeleteLeft, ProcessLeft, Spaced]

theorem Sound.deliver (hf : Sound f) : Sound (step hashCRD f .deliver) := by
  obtain ⟨valid, reader, present, absent⟩ := hf
  simp only [step]
  cases hleft : f.undelivered with
  | nil => exact ⟨valid, reader, present, absent⟩
  | cons key rest =>
    refine ⟨valid.add key, by simpa using reader, ?_, ?_⟩ <;> cases key <;>
      simp_all [DeleteLeft, ProcessLeft]

theorem Sound.get (hf : Sound f) : Sound (step hashCRD f .get) := by
  obtain ⟨valid, reader, present, absent⟩ := hf
  simp only [step]
  split
  · exact ⟨valid, reader, present, absent⟩
  · rename_i key queue hget
    obtain ⟨hvalid, htaken, hdirty, hprocessing⟩ := WorkQueue.get_cases valid hget
    refine ⟨hvalid, ?_, ?_, ?_⟩ <;> cases key <;> simp_all [DeleteLeft, ProcessLeft]

theorem Sound.fetch (hf : Sound f) : Sound (step hashCRD f .fetch) := by
  obtain ⟨valid, reader, present, absent⟩ := hf
  simp only [step]
  split_ifs with h
  · refine ⟨valid, fun _ => h.1, fun hobject => ?_, fun hobject => ?_⟩
    · exact ⟨(present hobject).1, .inr (.inr (.inr ⟨h.1, by simpa using hobject⟩))⟩
    · refine ⟨fun object => ?_, (absent hobject).2⟩
      simp [show f.object = none from hobject]
  · exact ⟨valid, reader, present, absent⟩

theorem Sound.finishProcess (hf : Sound f) : Sound (finishProcess hashCRD f) := by
  obtain ⟨valid, reader, present, absent⟩ := hf
  unfold CrdMetadata.finishProcess
  split
  · exact ⟨valid, reader, present, absent⟩
  · rename_i hread
    have hp := reader (by simp [hread])
    refine ⟨valid.done hp, by simp, fun hobject => ?_, fun hobject => ?_⟩
    · have := present hobject
      simp_all [DeleteLeft, ProcessLeft, WorkQueue.done]
    · have := absent hobject
      simp_all [DeleteLeft, WorkQueue.done]
  · rename_i object hread
    have hp := reader (by simp [hread])
    refine ⟨valid.done hp, by simp, fun hobject => ?_, fun hobject => ?_⟩
    · exact ⟨by simpa [DeleteLeft, WorkQueue.done] using (present hobject).1,
        .inl (storeSnapshot_ne_none hashCRD)⟩
    · exact absurd hread ((absent hobject).1 object)

theorem Sound.finishDelete (hf : Sound f) : Sound (step hashCRD f (.finish .delete)) := by
  obtain ⟨valid, reader, present, absent⟩ := hf
  simp only [step]
  split_ifs with h
  · refine ⟨valid.done h, by simpa [WorkQueue.done] using reader, fun hobject => ?_,
      fun hobject => ⟨(absent hobject).1, by simp⟩⟩
    -- A deletion is left, so there is no object.
    exact absurd (.inr (.inr h)) (present hobject).1
  · exact ⟨valid, reader, present, absent⟩

theorem Sound.step (hf : Sound f) (e : Event Instance) (hs : Spaced f e) :
    Sound (step hashCRD f e) := by
  cases e with
  | change => exact hf.change hashCRD hs
  | deliver => exact hf.deliver hashCRD
  | get => exact hf.get hashCRD
  | fetch => exact hf.fetch hashCRD
  | finish key =>
    cases key with
    | process => exact hf.finishProcess hashCRD
    | delete => exact hf.finishDelete hashCRD

/-- When nothing is left to do, there is a snapshot just when the object exists,
if its creations and deletions were spaced. -/
theorem snapshot_follows_object (es : List (Event Instance))
    (hspaced : Along (step hashCRD) Spaced ({} : Forwarder Instance Hash) es)
    (hquiet : Quiet (run (step hashCRD) ({} : Forwarder Instance Hash) es)) :
    (run (step hashCRD) ({} : Forwarder Instance Hash) es).snapshot ≠ none ↔
      (run (step hashCRD) ({} : Forwarder Instance Hash) es).object ≠ none := by
  have hinitial : Sound ({} : Forwarder Instance Hash) :=
    ⟨⟨List.nodup_nil, by simp⟩, by simp, by simp, by simp⟩
  obtain ⟨valid, -, present, absent⟩ :=
    run_invariant (fun _ e hf hs => hf.step hashCRD e hs) hinitial hspaced
  obtain ⟨hundelivered, hqueue, hprocessing⟩ := hquiet
  have hdirty : ∀ key, (run (CrdMetadata.step hashCRD) {} es).queue.dirty key = false := by
    intro key
    have := valid.mem_queue key
    simpa [hqueue, hprocessing] using this
  constructor
  · intro hsnapshot hobject
    have := (absent hobject).2 hsnapshot
    simp [DeleteLeft, hundelivered, hdirty, hprocessing] at this
  · intro hobject
    have := (present hobject).2
    simpa [ProcessLeft, hundelivered, hdirty, hprocessing] using this

theorem created_object_has_snapshot :
    (run (step (id : String → String)) {} [.change (some "v1"), .deliver, .get, .fetch,
      .finish .process, .change none, .deliver, .get, .finish .delete, .change (some "v2"),
      .deliver, .get, .fetch, .finish .process]).snapshot ≠ none := by
  refine (snapshot_follows_object id _ ?_
    ⟨by decide, by decide, fun key => by cases key <;> decide⟩).mpr (by decide)
  simp only [Along, Spaced, DeleteLeft, and_true, true_and]
  exact ⟨by decide, fun _ _ => nofun, by decide⟩

/-- The object is deleted and created again before the first key is taken. The
second creation is not queued behind the deletion. -/
theorem recreated_object_loses_snapshot :
    let f := run (step (id : String → String)) {} [.change (some "v1"), .change none,
      .change (some "v2"), .deliver, .deliver, .deliver, .get, .fetch, .finish .process,
      .get, .finish .delete]
    f.undelivered = [] ∧ f.queue.queue = [] ∧ f.queue.processing .process = false ∧
      f.queue.processing .delete = false ∧ f.object = some "v2" ∧ f.snapshot = none := by
  decide

end DatadogOperator.CrdMetadata
