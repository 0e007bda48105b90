import DatadogOperator.Lib.Runs

/-!
# Programs with interference

A program makes calls against a state it shares with others, who may act before every one of
them. A protocol says which calls are allowed, with an invariant that allowed calls and the
others keep. A program is proved one call at a time, between assertions that the others keep
(`Triple`, `Stable`), and `calls_allowed` makes that a property of every call of every run.
-/

namespace Interference

inductive Prog (Op : Type) (Ans : Op → Type) (ε α : Type) : Type
  | done (a : α)
  | fail (e : ε)
  | call (op : Op) (next : Ans op → Prog Op Ans ε α)

section
variable {Op : Type} {Ans : Op → Type} {ε α β γ : Type}

def Prog.bind : Prog Op Ans ε α → (α → Prog Op Ans ε β) → Prog Op Ans ε β
  | .done a, f => f a
  | .fail e, _ => .fail e
  | .call op next, f => .call op fun answer => (next answer).bind f

instance : Monad (Prog Op Ans ε) where
  pure := .done
  bind := .bind

theorem Prog.id_map (p : Prog Op Ans ε α) : id <$> p = p := by
  induction p with
  | done | fail => rfl
  | call op next ih => exact congrArg (Prog.call op) (funext ih)

theorem Prog.bind_assoc (p : Prog Op Ans ε α) (f : α → Prog Op Ans ε β)
    (g : β → Prog Op Ans ε γ) : p >>= f >>= g = p >>= fun a => f a >>= g := by
  induction p with
  | done | fail => rfl
  | call op next ih => exact congrArg (Prog.call op) (funext ih)

instance : LawfulMonad (Prog Op Ans ε) :=
  LawfulMonad.mk' _ Prog.id_map (fun _ _ => rfl) Prog.bind_assoc

def call (op : Op) : Prog Op Ans ε (Ans op) := .call op .done

/-! ## Machines -/

/-- What the others do to the state, and what a call does to it; how a call ends is up to the
outcome. -/
structure Machine (σ Op : Type) (Ans : Op → Type) (ι ο : Type) where
  interfere : σ → ι → σ
  perform : σ → ο → (op : Op) → Ans op × σ

/-- The program that is running, if any, is kept as the rest of it. -/
structure Sys (σ Op : Type) (Ans : Op → Type) (ε α : Type) where
  state : σ
  rest : Option (Prog Op Ans ε α) := none

inductive Event (κ ι ο : Type)
  | start (input : κ)
  | call (outcome : ο)
  | other (i : ι)
  | stop

variable {σ ι ο κ : Type} (m : Machine σ Op Ans ι ο)

/-- One program runs at a time, and it may be stopped at any call. -/
def Machine.step (program : κ → Prog Op Ans ε α) (s : Sys σ Op Ans ε α) :
    Event κ ι ο → Sys σ Op Ans ε α
  | .start input =>
    match s.rest with
    | none => { s with rest := some (program input) }
    | some _ => s
  | .call outcome =>
    match s.rest with
    | some (.call op next) =>
      let (answer, state) := m.perform s.state outcome op
      { state, rest := some (next answer) }
    | _ => { s with rest := none }
  | .other i => { s with state := m.interfere s.state i }
  | .stop => { s with rest := none }

/-- The call of a step meets `P` in the state in which it is made. -/
def Calls (P : σ → Op → Prop) (s : Sys σ Op Ans ε α) (e : Event κ ι ο) : Prop :=
  ∀ outcome op next, e = .call outcome → s.rest = some (.call op next) → P s.state op

/-! ## Protocols -/

structure Protocol (m : Machine σ Op Ans ι ο) where
  Inv : σ → Prop
  Allowed : σ → Op → Prop
  interfere : ∀ s i, Inv s → Inv (m.interfere s i)
  perform : ∀ s outcome op, Inv s → Allowed s op → Inv (m.perform s outcome op).2

variable {m} (pr : Protocol m)

/-- Every call is allowed, whatever the others do before it, and `Q` holds at the end. -/
def Protocol.Safe (Q : α → σ → Prop) : Prog Op Ans ε α → σ → Prop
  | .done a, s => pr.Inv s ∧ Q a s
  | .fail _, s => pr.Inv s
  | .call op next, s => ∀ others outcome,
    pr.Allowed (Runs.run m.interfere s others) op ∧
      Protocol.Safe Q (next (m.perform (Runs.run m.interfere s others) outcome op).1)
        (m.perform (Runs.run m.interfere s others) outcome op).2

def Protocol.Stable (P : σ → Prop) : Prop := ∀ s i, pr.Inv s → P s → P (m.interfere s i)

def Protocol.Triple (P : σ → Prop) (p : Prog Op Ans ε α) (Q : α → σ → Prop) : Prop :=
  ∀ s, pr.Inv s → P s → pr.Safe Q p s

variable {pr} {P P' : σ → Prop} {p : Prog Op Ans ε α} {f : α → Prog Op Ans ε β}
  {Q Q' : α → σ → Prop} {R : β → σ → Prop} {s : σ}

theorem Protocol.Stable.and (hp : pr.Stable P) (hp' : pr.Stable P') :
    pr.Stable fun s => P s ∧ P' s :=
  fun s i hi h => ⟨hp s i hi h.1, hp' s i hi h.2⟩

theorem Protocol.Stable.run (hp : pr.Stable P) (hi : pr.Inv s) (h : P s) (others : List ι) :
    pr.Inv (Runs.run m.interfere s others) ∧ P (Runs.run m.interfere s others) :=
  Runs.run_always (I := fun s => pr.Inv s ∧ P s)
    (fun s i h => ⟨pr.interfere s i h.1, hp s i h.1 h.2⟩) ⟨hi, h⟩ others

theorem Protocol.Safe.bind (hp : pr.Safe Q p s) (hf : ∀ a, pr.Triple (Q a) (f a) R) :
    pr.Safe R (p.bind f) s := by
  induction p generalizing s with
  | done a => exact hf a s hp.1 hp.2
  | fail e => exact hp
  | call op next ih => exact fun others outcome =>
      ⟨(hp others outcome).1, ih _ (hp others outcome).2⟩

theorem Protocol.Safe.weaken (hp : pr.Safe Q' p s) (h : ∀ a s, pr.Inv s → Q' a s → Q a s) :
    pr.Safe Q p s := by
  induction p generalizing s with
  | done a => exact ⟨hp.1, h a s hp.1 hp.2⟩
  | fail e => exact hp
  | call op next ih => exact fun others outcome =>
      ⟨(hp others outcome).1, ih _ (hp others outcome).2⟩

/-- Before its next call a program does not see the others. -/
theorem Protocol.Safe.interfere (hp : pr.Safe Q p s) (hq : ∀ a, pr.Stable (Q a)) (i : ι) :
    pr.Safe Q p (m.interfere s i) := by
  cases p with
  | done a => exact ⟨pr.interfere s i hp.1, hq a s i hp.1 hp.2⟩
  | fail e => exact pr.interfere s i hp
  | call op next => exact fun others => hp (i :: others)

theorem Protocol.Safe.inv (hp : pr.Safe Q p s) (hi : pr.Inv s) (outcome : ο)
    (heq : p = .call op next) :
    pr.Inv (m.perform s outcome op).2 := by
  subst heq
  exact pr.perform s outcome op hi (hp [] outcome).1

/-! ## Rules -/

theorem Protocol.Triple.pure (h : ∀ s, pr.Inv s → P s → Q a s) :
    pr.Triple P (Pure.pure a : Prog Op Ans ε α) Q :=
  fun s hi hp => ⟨hi, h s hi hp⟩

theorem Protocol.Triple.fail : pr.Triple P (.fail e : Prog Op Ans ε α) Q :=
  fun _ hi _ => hi

theorem Protocol.Triple.bind (hp : pr.Triple P p Q) (hf : ∀ a, pr.Triple (Q a) (f a) R) :
    pr.Triple P (p >>= f) R :=
  fun s hi h => (hp s hi h).bind hf

theorem Protocol.Triple.weaken (hp : pr.Triple P' p Q') (hpre : ∀ s, pr.Inv s → P s → P' s)
    (hpost : ∀ a s, pr.Inv s → Q' a s → Q a s) : pr.Triple P p Q :=
  fun s hi h => (hp s hi (hpre s hi h)).weaken hpost

theorem Protocol.Triple.pre (hp : pr.Triple P' p Q) (hpre : ∀ s, pr.Inv s → P s → P' s) :
    pr.Triple P p Q :=
  hp.weaken hpre fun _ _ _ h => h

theorem Protocol.Triple.always (hp : pr.Triple (fun _ => True) p Q) : pr.Triple P p Q :=
  hp.pre fun _ _ _ => trivial

/-- What the assertion says without the state. -/
theorem Protocol.Triple.knowing (hA : ∀ s, pr.Inv s → P s → A)
    (h : A → pr.Triple P p Q) : pr.Triple P p Q :=
  fun s hi hp => h (hA s hi hp) s hi hp

theorem Protocol.Triple.call {Q : Ans op → σ → Prop} (hstable : pr.Stable P)
    (hallowed : ∀ s, pr.Inv s → P s → pr.Allowed s op)
    (hpost : ∀ s outcome, pr.Inv s → P s →
      Q (m.perform s outcome op).1 (m.perform s outcome op).2) :
    pr.Triple P (call op : Prog Op Ans ε (Ans op)) Q := by
  intro s hi hp others outcome
  obtain ⟨hi', hp'⟩ := hstable.run hi hp others
  have hallowed' := hallowed _ hi' hp'
  exact ⟨hallowed', pr.perform _ _ _ hi' hallowed', hpost _ _ hi' hp'⟩

/-- A loop: the assertion speaks of the elements that are left. -/
theorem Protocol.Triple.forM {body : β → Prog Op Ans ε PUnit} {J : List β → σ → Prop}
    (hbody : ∀ x rest, pr.Triple (J (x :: rest)) (body x) fun _ => J rest) :
    pr.Triple (J xs) (xs.forM body) fun _ => J [] := by
  induction xs with
  | nil => exact Protocol.Triple.pure fun _ _ h => h
  | cons x xs ih => exact (hbody x xs).bind fun _ => ih

theorem Protocol.Triple.foldlM {body : γ → β → Prog Op Ans ε γ} {c : γ} {J : List β → γ → σ → Prop}
    (hbody : ∀ x rest c, pr.Triple (J (x :: rest) c) (body c x) (J rest)) :
    pr.Triple (J xs c) (xs.foldlM body c) (J []) := by
  induction xs generalizing c with
  | nil => exact Protocol.Triple.pure fun _ _ h => h
  | cons x xs ih =>
    rw [List.foldlM_cons]
    exact (hbody x xs c).bind fun c' => ih

/-! ## Runs -/

/-- The invariant holds, and what is left of the running program is safe. -/
def Protocol.Sound (pr : Protocol m) (s : Sys σ Op Ans ε α) : Prop :=
  pr.Inv s.state ∧ ∀ p, s.rest = some p → pr.Safe (fun _ _ => True) p s.state

theorem Protocol.Sound.idle (hi : pr.Inv state) : pr.Sound ({ state } : Sys σ Op Ans ε α) :=
  ⟨hi, nofun⟩

theorem Protocol.Sound.step {s : Sys σ Op Ans ε α} {e : Event κ ι ο} (hs : pr.Sound s)
    (hprogram : ∀ input, e = .start input →
      pr.Triple (fun _ => True) (program input) fun _ _ => True) :
    pr.Sound (m.step program s e) := by
  obtain ⟨state, rest⟩ := s
  obtain ⟨hi, hrest⟩ := hs
  cases e with
  | start input =>
    cases rest with
    | none =>
      refine ⟨hi, fun p hp => ?_⟩
      cases hp
      exact hprogram input rfl state hi trivial
    | some p => exact ⟨hi, hrest⟩
  | call outcome =>
    match rest, hrest with
    | none, _ => exact .idle hi
    | some (.done a), _ => exact .idle hi
    | some (.fail e), _ => exact .idle hi
    | some (.call op next), hrest =>
      have hsafe := hrest _ rfl
      refine ⟨hsafe.inv hi outcome rfl, fun p hp => ?_⟩
      cases hp
      exact (hsafe [] outcome).2
  | other i =>
    exact ⟨pr.interfere state i hi, fun p hp => (hrest p hp).interfere (fun _ _ _ _ h => h) i⟩
  | stop => exact .idle hi

theorem Protocol.Sound.calls {s : Sys σ Op Ans ε α} (hs : pr.Sound s) {R : σ → Op → Prop}
    (hR : ∀ s op, pr.Allowed s op → R s op) (e : Event κ ι ο) : Calls R s e :=
  fun outcome _ _ _ hrest => hR _ _ (hs.2 _ hrest [] outcome).1

theorem Protocol.calls_allowed {program : κ → Prog Op Ans ε α} {K : κ → Prop}
    {es : List (Event κ ι ο)} {R : σ → Op → Prop}
    (hprogram : ∀ input, K input → pr.Triple (fun _ => True) (program input) fun _ _ => True)
    (hR : ∀ s op, pr.Allowed s op → R s op) (hi : pr.Inv state)
    (hes : ∀ input, .start input ∈ es → K input) :
    Runs.Along (m.step program) (Calls R) ({ state } : Sys σ Op Ans ε α) es := by
  refine Runs.Along.of_invariant (I := pr.Sound)
    (C := fun _ e => ∀ input, e = .start input → K input) ?_ ?_ (.idle hi) ?_
  · intro s e hs he
    exact hs.step fun input heq => hprogram input (he input heq)
  · intro s e hs _
    exact hs.calls hR e
  · refine Runs.Along.of_events fun e he input heq => ?_
    subst heq
    exact hes input he

end

end Interference
