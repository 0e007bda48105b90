import Mathlib.Data.List.Basic

/-!
# Programs that call services

A program asks services it knows nothing about: an answer may depend on every
call before it. The log keeps each call with its answer, the newest first.
`Triple` states what a program does to a log, `Only` which operations it calls,
and `Lawful` that every call of a log was allowed by the calls before it.
-/

namespace Calls

structure Call (Op : Type) (Ans : Op → Type) where
  op : Op
  answer : Ans op

abbrev Log (Op : Type) (Ans : Op → Type) := List (Call Op Ans)

abbrev Services (Op : Type) (Ans : Op → Type) := Log Op Ans → (op : Op) → Ans op

def Prog (Op : Type) (Ans : Op → Type) (α : Type) :=
  Services Op Ans → Log Op Ans → α × Log Op Ans

section
variable {Op : Type} {Ans : Op → Type} {α β : Type}

instance : Monad (Prog Op Ans) where
  pure a := fun _ log => (a, log)
  bind p f := fun sv log =>
    match p sv log with
    | (a, log) => f a sv log

def call (op : Op) : Prog Op Ans (Ans op) := fun sv log => (sv log op, ⟨op, sv log op⟩ :: log)

/-! ## What a program does -/

def Triple (sv : Services Op Ans) (P : Log Op Ans → Prop) (p : Prog Op Ans α)
    (Q : α → Log Op Ans → Prop) : Prop :=
  ∀ log, P log → Q (p sv log).1 (p sv log).2

variable {sv : Services Op Ans} {P P' : Log Op Ans → Prop} {p : Prog Op Ans α}
  {f : α → Prog Op Ans β} {Q Q' : α → Log Op Ans → Prop} {R : β → Log Op Ans → Prop}

theorem Triple.pure (h : ∀ log, P log → Q a log) : Triple sv P (Pure.pure a : Prog Op Ans α) Q := h

theorem Triple.bind (hp : Triple sv P p Q) (hf : ∀ a, Triple sv (Q a) (f a) R) :
    Triple sv P (p >>= f) R :=
  fun log h => hf _ _ (hp log h)

/-- The log is the one before, with the call and its answer. -/
theorem Triple.call : Triple sv P (call op) fun answer log =>
      ∃ before, log = ⟨op, answer⟩ :: before ∧ P before ∧ sv before op = answer :=
  fun log h => ⟨log, rfl, h, rfl⟩

theorem Triple.weaken (hp : Triple sv P' p Q') (hpre : ∀ log, P log → P' log)
    (hpost : ∀ a log, Q' a log → Q a log) : Triple sv P p Q :=
  fun log h => hpost _ _ (hp log (hpre log h))

/-- What is known without the log. -/
theorem Triple.assume (h : A → Triple sv P p Q) : Triple sv (fun log => A ∧ P log) p Q :=
  fun log hlog => h hlog.1 log hlog.2

/-- A loop: the invariant speaks of the elements that are done. -/
theorem Triple.foldlM {body : β → α → Prog Op Ans β} {b : β} {I : List α → β → Log Op Ans → Prop}
    (hbody : ∀ done x rest, done ++ x :: rest = xs → ∀ b,
      Triple sv (I done b) (body b x) (I (done ++ [x]))) :
    Triple sv (I [] b) (xs.foldlM body b) (I xs) := by
  suffices h : ∀ rest done, done ++ rest = xs → ∀ b,
      Triple sv (I done b) (rest.foldlM body b) (I xs) from h xs [] rfl b
  intro rest
  induction rest with
  | nil =>
    intro done heq b
    rw [List.append_nil] at heq
    subst heq
    exact Triple.pure fun _ h => h
  | cons x rest ih =>
    intro done heq b
    rw [List.foldlM_cons]
    refine Triple.bind (hbody done x rest heq b) fun b' => ih (done ++ [x]) ?_ b'
    rw [List.append_assoc, List.singleton_append, heq]

/-! ## What a program returns -/

/-- Whatever was called before. -/
def Returns (sv : Services Op Ans) (p : Prog Op Ans α) (A : α → Prop) : Prop :=
  ∀ log, A (p sv log).1

variable {A A' : α → Prop} {B : β → Prop}

theorem Returns.pure (h : A a) : Returns sv (Pure.pure a : Prog Op Ans α) A := fun _ => h

theorem Returns.bind (hp : Returns sv p A) (hf : ∀ a, A a → Returns sv (f a) B) :
    Returns sv (p >>= f) B :=
  fun log => hf _ (hp log) _

theorem Returns.call {A : Ans op → Prop} (h : ∀ log, A (sv log op)) : Returns sv (call op) A := h

theorem Returns.weaken (hp : Returns sv p A') (h : ∀ a, A' a → A a) : Returns sv p A :=
  fun log => h _ (hp log)

theorem Returns.trivial : Returns sv p fun _ => True := fun _ => True.intro

theorem Returns.foldlM {body : β → α → Prog Op Ans β} {b : β} {I : List α → β → Prop} (hb : I [] b)
    (hbody : ∀ done x b, I done b → Returns sv (body b x) (I (done ++ [x]))) :
    Returns sv (xs.foldlM body b) (I xs) := by
  suffices h : ∀ rest done b, I done b → Returns sv (rest.foldlM body b) (I (done ++ rest)) from
    h xs [] b hb
  intro rest
  induction rest with
  | nil =>
    intro done b hb
    rw [List.append_nil]
    exact Returns.pure hb
  | cons x rest ih =>
    intro done b hb
    rw [List.foldlM_cons]
    refine (hbody done x b hb).bind fun b' hb' => ?_
    have hrest := ih (done ++ [x]) b' hb'
    rwa [List.append_assoc] at hrest

/-! ## What a program calls -/

def Only (sv : Services Op Ans) (K : Op → Prop) (p : Prog Op Ans α) : Prop :=
  ∀ log, ∃ new, (p sv log).2 = new ++ log ∧ ∀ c ∈ new, K c.op

variable {K K' : Op → Prop}

theorem Only.pure : Only sv K (Pure.pure a : Prog Op Ans α) := fun _ => ⟨[], rfl, nofun⟩

theorem Only.bind (hp : Only sv K p) (hf : ∀ a, Only sv K (f a)) : Only sv K (p >>= f) := by
  intro log
  obtain ⟨new, hnew, hall⟩ := hp log
  obtain ⟨more, hmore, hall'⟩ := hf (p sv log).1 (p sv log).2
  refine ⟨more ++ new, hmore.trans ?_, ?_⟩
  · rw [hnew, List.append_assoc]
  · intro c hc
    exact (List.mem_append.mp hc).elim (hall' c) (hall c)

theorem Only.call (h : K op) : Only sv K (call op) := by
  refine fun log => ⟨[⟨op, sv log op⟩], rfl, fun c hc => ?_⟩
  obtain rfl := List.mem_singleton.mp hc
  exact h

theorem Only.foldlM {xs : List α} {b : β}
    (hbody : ∀ x ∈ xs, ∀ b, Only sv K (body b x)) : Only sv K (xs.foldlM body b) := by
  induction xs generalizing b with
  | nil => exact Only.pure
  | cons x xs ih =>
    rw [List.foldlM_cons]
    refine (hbody x (.head _) b).bind fun b' => ih ?_
    intro y hy
    exact hbody y (.tail _ hy)

/-- What every call of these operations keeps, the program keeps. -/
theorem Only.keeps (hp : Only sv K p)
    (hstep : ∀ log (c : Call Op Ans), K c.op → I log → I (c :: log)) :
    Triple sv I p fun _ => I := by
  intro log hi
  obtain ⟨new, hnew, hall⟩ := hp log
  rw [hnew]
  clear hnew
  induction new with
  | nil => exact hi
  | cons c new ih =>
    exact hstep _ c (hall c (.head _)) (ih fun c' hc' => hall c' (.tail _ hc'))

/-- A program leaves what is true of its own calls beside what it keeps. -/
theorem Triple.keeping (hp : Triple sv P p Q) (hk : Triple sv I p fun _ => I) :
    Triple sv (fun log => P log ∧ I log) p (fun a log => Q a log ∧ I log) :=
  fun log h => ⟨hp log h.1, hk log h.2⟩

/-! ## Lawful logs -/

/-- Every call was allowed by the calls before it. -/
def Lawful (allowed : Op → Log Op Ans → Prop) : Log Op Ans → Prop
  | [] => True
  | c :: log => allowed c.op log ∧ Lawful allowed log

theorem Lawful.iff_split {log : Log Op Ans} :
    Lawful allowed log ↔ ∀ later c earlier, log = later ++ c :: earlier → allowed c.op earlier := by
  induction log with
  | nil =>
    refine ⟨fun _ later c earlier h => ?_, fun _ => trivial⟩
    cases later <;> cases h
  | cons c log ih =>
    constructor
    · rintro ⟨hc, hlog⟩ later c' earlier h
      cases later with
      | nil =>
        cases h
        exact hc
      | cons d later =>
        cases h
        exact ih.mp hlog later c' earlier rfl
    · intro h
      refine ⟨h [] c log rfl, ih.mpr fun later c' earlier heq => h (c :: later) c' earlier ?_⟩
      rw [heq, List.cons_append]

end

end Calls
