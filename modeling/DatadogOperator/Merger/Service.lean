import DatadogOperator.Lib.Runs
import Mathlib.Data.List.Induction
import Mathlib.Data.List.Nodup

/-!
# Services that several features share

`AddService` merges ports into the service of that name. A named port is there once, and one
that differs is refused before anything is changed. So the ports are those of the calls that
succeeded, in whatever order they came.
-/

namespace DatadogOperator.ServicePorts

open Runs

/-! ## The source -/

/-- `spec` is the other fields. -/
structure ServicePort where
  name : String
  spec : String
  deriving DecidableEq

inductive TrafficPolicy
  | cluster
  | local_

structure Service where
  metadata : String := ""
  ports : List ServicePort := []
  selector : Option (List (String × String)) := none
  /-- `ServiceTypeClusterIP` -/
  clusterIP : Bool := false
  internalTrafficPolicy : Option TrafficPolicy := none

/-- `portsByName` has the port itself and not its index: ports are only appended. -/
structure Merging where
  ports : List ServicePort := []
  portsByName : String → Option ServicePort := fun _ => none

def Merging.append (m : Merging) (port : ServicePort) : Merging where
  ports := m.ports ++ [port]
  portsByName := if port.name = "" then m.portsByName
    else Function.update m.portsByName port.name (some port)

def Merging.add (m : Merging) (port : ServicePort) : Except String Merging :=
  if port.name = "" then .ok (m.append port) else
  match m.portsByName port.name with
  | none => .ok (m.append port)
  | some existing =>
    if existing = port then .ok m
    else .error ("port " ++ port.name.quote ++ " conflicts with existing port: service port conflict")

def mergeServicePorts (existingPorts newPorts : List ServicePort) :
    Except String (List ServicePort) :=
  (newPorts.foldlM Merging.add (existingPorts.foldl Merging.append {})).map Merging.ports

structure Call where
  selector : Option (List (String × String)) := none
  ports : List ServicePort := []
  internalTrafficPolicy : Option TrafficPolicy := none

/-- `stamp` is what `AddOrUpdate` does to labels, annotations and owner references. -/
structure Target where
  name : String
  stamp : String → String

variable (t : Target)

/-- The store holds one service of the name, or none yet. -/
def addService (stored : Option Service) (c : Call) : Except String Unit × Option Service :=
  let service := stored.getD {}
  match if c.ports = [] then .ok service.ports else mergeServicePorts service.ports c.ports with
  | .error e => (.error ("unable to add ports to Service " ++ t.name ++ ": " ++ e), stored)
  | .ok ports =>
    (.ok (), some
      { metadata := t.stamp service.metadata
        ports
        selector := c.selector.orElse fun _ => service.selector
        clusterIP := true
        internalTrafficPolicy := some (c.internalTrafficPolicy.getD .cluster) })

def step (stored : Option Service) (c : Call) : Option Service := (addService t stored c).2

def ports (stored : Option Service) : List ServicePort := (stored.getD {}).ports

/-! ## Ports by name -/

def UniqueNames (ports : List ServicePort) : Prop :=
  ((ports.filter (·.name ≠ "")).map (·.name)).Nodup

/-- A named port that differs from one there is, or from one passed before it. -/
def Conflicts (existing new : List ServicePort) : Prop :=
  ∃ before port after, new = before ++ port :: after ∧ port.name ≠ "" ∧
    ∃ other ∈ existing ++ before, other.name = port.name ∧ other ≠ port

structure Merging.Sound (m : Merging) : Prop where
  unique : UniqueNames m.ports
  lookup : ∀ name port, m.portsByName name = some port ↔
    name ≠ "" ∧ port ∈ m.ports ∧ port.name = name

section
variable {m : Merging} {port : ServicePort} {existing new ports' : List ServicePort}
  {stored : Option Service} {c : Call}

theorem uniqueNames_concat : UniqueNames (existing ++ [port]) ↔
    UniqueNames existing ∧ (port.name ≠ "" → ∀ p ∈ existing, p.name ≠ port.name) := by
  unfold UniqueNames
  by_cases hname : port.name = ""
  · simp [hname]
  · have hport : [port].filter (·.name ≠ "") = [port] := by simp [hname]
    rw [List.filter_append, hport, List.map_append, List.map_singleton, List.nodup_append]
    refine and_congr_right fun _ => ⟨fun h _ p hp heq => ?_, fun h => ⟨List.nodup_singleton _, ?_⟩⟩
    · have hmem : p.name ∈ (existing.filter (·.name ≠ "")).map (·.name) :=
        List.mem_map_of_mem (by simp [hp, heq, hname])
      exact h.2 p.name hmem port.name (List.mem_singleton_self _) heq
    · rintro _ hmem _ hlast
      obtain ⟨p, hp, rfl⟩ := List.mem_map.mp hmem
      obtain rfl := List.mem_singleton.mp hlast
      exact h hname p (List.mem_of_mem_filter hp)

theorem Merging.Sound.append (h : m.Sound) (hnew : port.name ≠ "" → ∀ p ∈ m.ports, p.name ≠ port.name) :
    (m.append port).Sound := by
  refine ⟨uniqueNames_concat.mpr ⟨h.unique, hnew⟩, fun name p => ?_⟩
  have := h.lookup name p
  unfold Merging.append
  grind [Function.update_apply]

/-- A port is refused if one of its name differs, and is there afterwards otherwise. -/
theorem Merging.Sound.add (h : m.Sound) (port : ServicePort) :
    (∃ e, m.add port = .error e ∧ port.name ≠ "" ∧ ∃ p ∈ m.ports, p.name = port.name ∧ p ≠ port) ∨
      ∃ m', m.add port = .ok m' ∧ m'.Sound ∧ (∀ p, p ∈ m'.ports ↔ p ∈ m.ports ∨ p = port) ∧
        (port.name ≠ "" → ∀ p ∈ m.ports, p.name = port.name → p = port) := by
  have hmem : ∀ p, p ∈ (m.append port).ports ↔ p ∈ m.ports ∨ p = port := by
    simp [Merging.append]
  have hlookup := h.lookup port.name
  unfold Merging.add
  by_cases hname : port.name = ""
  · rw [if_pos hname]
    exact .inr ⟨_, rfl, h.append fun hne => absurd hname hne, hmem, fun hne => absurd hname hne⟩
  · rw [if_neg hname]
    cases hp : m.portsByName port.name with
    | none =>
      have hfresh : ∀ p ∈ m.ports, p.name ≠ port.name := by grind
      exact .inr ⟨_, rfl, h.append fun _ => hfresh, hmem, fun _ p hp heq => absurd heq (hfresh p hp)⟩
    | some existing =>
      dsimp only
      split_ifs with hsame
      · exact .inr ⟨m, rfl, h, by grind, by grind⟩
      · exact .inl ⟨_, rfl, hname, existing, by grind⟩

theorem conflicts_cons (hport : port.name ≠ "" → ∀ p ∈ existing, p.name = port.name → p = port)
    (hmem : ∀ p, p ∈ ports' ↔ p ∈ existing ∨ p = port) :
    Conflicts existing (port :: new) ↔ Conflicts ports' new := by
  constructor
  · rintro ⟨before, p, after, heq, hname, other, hother, hsame, hne⟩
    cases before with
    | nil =>
      obtain ⟨rfl, rfl⟩ := List.cons.inj heq
      exact absurd (hport hname other (by simpa using hother) hsame) hne
    | cons q before =>
      obtain ⟨rfl, rfl⟩ := List.cons.inj heq
      refine ⟨before, p, after, rfl, hname, other, ?_, hsame, hne⟩
      simpa [hmem, or_assoc] using hother
  · rintro ⟨before, p, after, rfl, hname, other, hother, hsame, hne⟩
    refine ⟨port :: before, p, after, rfl, hname, other, ?_, hsame, hne⟩
    simpa [hmem, or_assoc] using hother

theorem Merging.Sound.foldlM (h : m.Sound) (new : List ServicePort) :
    (∃ e, new.foldlM Merging.add m = .error e ∧ Conflicts m.ports new) ∨
      ∃ m', new.foldlM Merging.add m = .ok m' ∧ m'.Sound ∧
        (∀ p, p ∈ m'.ports ↔ p ∈ m.ports ∨ p ∈ new) ∧ ¬ Conflicts m.ports new := by
  induction new generalizing m with
  | nil => exact .inr ⟨m, rfl, h, by simp, by simp [Conflicts]⟩
  | cons port new ih =>
    rw [List.foldlM_cons]
    rcases h.add port with ⟨e, he, hname, p, hp, heq, hne⟩ | ⟨m', hm', hsound, hmem, hport⟩
    · rw [he]
      exact .inl ⟨e, rfl, [], port, new, rfl, hname, p, by simpa using hp, heq, hne⟩
    · rw [hm', conflicts_cons hport hmem]
      rcases ih hsound with hfails | ⟨m'', hok, hsound', hmem', hno⟩
      · exact .inl hfails
      · exact .inr ⟨m'', hok, hsound', fun p => by simp [hmem', hmem, or_assoc], hno⟩

/-- The first loop, over ports without two of a name. -/
theorem sound_existing (h : UniqueNames existing) : (existing.foldl Merging.append {}).Sound ∧
    (existing.foldl Merging.append {}).ports = existing := by
  induction existing using List.reverseRecOn with
  | nil => exact ⟨⟨by simp [UniqueNames], by simp⟩, rfl⟩
  | append_singleton existing port ih =>
    obtain ⟨hunique, hport⟩ := uniqueNames_concat.mp h
    obtain ⟨hsound, hports⟩ := ih hunique
    rw [List.foldl_concat]
    exact ⟨hsound.append (by rwa [hports]), by simp [Merging.append, hports]⟩

/-! ## Calls -/

/-- A call fails exactly on a conflict, and then changes nothing; otherwise its ports are
there with those before. -/
theorem addService_cases (h : UniqueNames (ports stored)) (c : Call) :
    (∃ e, addService t stored c = (.error e, stored) ∧ Conflicts (ports stored) c.ports) ∨
      ∃ service, addService t stored c = (.ok (), some service) ∧
        UniqueNames service.ports ∧ (∀ p, p ∈ service.ports ↔ p ∈ ports stored ∨ p ∈ c.ports) ∧
        ¬ Conflicts (ports stored) c.ports := by
  unfold addService
  by_cases hnil : c.ports = []
  · simp only [hnil, if_true]
    exact .inr ⟨_, rfl, h, by simp [ports], by simp [Conflicts]⟩
  · obtain ⟨hsound, hports⟩ := sound_existing h
    have hmerge : mergeServicePorts (stored.getD {}).ports c.ports =
        (c.ports.foldlM Merging.add ((ports stored).foldl Merging.append {})).map Merging.ports := rfl
    simp only [hnil, if_false, hmerge]
    rcases hsound.foldlM c.ports with ⟨e, he, hconflict⟩ | ⟨m, hm, hsound', hmem, hno⟩
    · exact .inl ⟨_, by rw [he]; rfl, hports ▸ hconflict⟩
    · rw [hm]
      exact .inr ⟨_, rfl, hsound'.unique, fun p => by simpa [hports] using hmem p, hports ▸ hno⟩

theorem step_kept (h : UniqueNames (ports stored)) :
    UniqueNames (ports (step t stored c)) ∧
      (p ∈ ports stored → p ∈ ports (step t stored c)) := by
  rcases addService_cases t h c with ⟨e, he, -⟩ | ⟨service, hs, hunique, hmem, -⟩
  · rw [step, he]
    exact ⟨h, id⟩
  · rw [step, hs]
    exact ⟨hunique, fun hp => (hmem p).mpr (.inl hp)⟩

theorem run_uniqueNames (calls : List Call) : UniqueNames (ports (run (step t) none calls)) :=
  run_always (I := fun s => UniqueNames (ports s)) (fun _ _ h => (step_kept (p := ⟨"", ""⟩) t h).1)
    (by simp [UniqueNames, ports]) calls

theorem run_kept (h : UniqueNames (ports stored)) (hp : p ∈ ports stored)
    (calls : List Call) : p ∈ ports (run (step t) stored calls) := by
  have hstep : ∀ s c, UniqueNames (ports s) ∧ p ∈ ports s →
      UniqueNames (ports (step t s c)) ∧ p ∈ ports (step t s c) :=
    fun _ _ hs => (step_kept t hs.1).imp_right fun keep => keep hs.2
  exact (run_always hstep ⟨h, hp⟩ calls).2

/-- Ports of one name are the same in all calls, and all have a name. -/
def ConflictFree (calls : List Call) : Prop :=
  ∀ c ∈ calls, ∀ c' ∈ calls, ∀ p ∈ c.ports, ∀ q ∈ c'.ports, p.name ≠ "" ∧ (p.name = q.name → p = q)

theorem run_ports_of_conflictFree (h : ConflictFree calls) (p : ServicePort) :
    p ∈ ports (run (step t) none calls) ↔ ∃ c ∈ calls, p ∈ c.ports := by
  induction calls using List.reverseRecOn generalizing p with
  | nil => simp [run, ports]
  | append_singleton calls c ih =>
    have hbefore := ih fun a ha b hb => h a (by simp [ha]) b (by simp [hb])
    have hrun : run (step t) none (calls ++ [c]) = step t (run (step t) none calls) c :=
      List.foldl_concat ..
    rw [hrun, step]
    rcases addService_cases t (run_uniqueNames t calls) c with
      ⟨e, -, before, port, after, heq, -, other, hother, hname, hne⟩ | ⟨service, hs, -, hmem, -⟩
    · -- Both ports come from calls without conflicts.
      refine absurd ?_ hne
      have hport : port ∈ c.ports := by simp [heq]
      have hfrom : ∃ d ∈ calls ++ [c], other ∈ d.ports := by
        rcases List.mem_append.mp hother with hother | hother
        · obtain ⟨d, hd, hother⟩ := (hbefore other).mp hother
          exact ⟨d, by simp [hd], hother⟩
        · exact ⟨c, by simp, by simp [heq, hother]⟩
      obtain ⟨d, hd, hother⟩ := hfrom
      exact (h d hd c (by simp) other hother port hport).2 hname
    · rw [hs]
      exact (hmem p).trans (by simp [hbefore, or_and_right, exists_or])

end

/-- Named ports stay unique, a call fails exactly on a conflict and then changes nothing,
the ports of the calls that succeed stay, and without conflicts their order does not show. -/
theorem services_collect_ports (calls : List Call) :
    UniqueNames (ports (run (step t) none calls)) ∧
    (∀ before c after, calls = before ++ c :: after →
      let stored := run (step t) none before
      ((∃ e, (addService t stored c).1 = .error e) ↔ Conflicts (ports stored) c.ports) ∧
      (∀ e, (addService t stored c).1 = .error e → (addService t stored c).2 = stored) ∧
      ((addService t stored c).1 = .ok () →
        ∀ p ∈ c.ports, p ∈ ports (run (step t) none calls))) ∧
    (ConflictFree calls → ∀ calls', calls.Perm calls' →
      ∀ p, p ∈ ports (run (step t) none calls) ↔ p ∈ ports (run (step t) none calls')) := by
  refine ⟨run_uniqueNames t calls, ?_, ?_⟩
  · rintro before c after rfl
    dsimp only
    rcases addService_cases t (run_uniqueNames t before) c with
      ⟨e, he, hconflict⟩ | ⟨service, hs, hsu, hmem, hno⟩
    · rw [he]
      exact ⟨iff_of_true ⟨e, rfl⟩ hconflict, fun _ _ => rfl, nofun⟩
    · have hrun : run (step t) none (before ++ c :: after) =
          run (step t) (some service) after := by
        unfold run at hs ⊢
        rw [List.foldl_append, List.foldl_cons, step, hs]
      rw [hs, hrun]
      exact ⟨iff_of_false nofun hno, nofun,
        fun _ p hp => run_kept t (show UniqueNames (ports (some service)) from hsu)
          ((hmem p).mpr (.inr hp)) after⟩
  · intro hfree calls' hperm p
    have hfree' : ConflictFree calls' := fun c hc c' hc' =>
      hfree c (hperm.mem_iff.mpr hc) c' (hperm.mem_iff.mpr hc')
    rw [run_ports_of_conflictFree t hfree, run_ports_of_conflictFree t hfree']
    simp [hperm.mem_iff]

end DatadogOperator.ServicePorts
