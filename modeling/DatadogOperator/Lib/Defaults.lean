import Mathlib.Data.List.Basic

/-!
# Code that fills in unset fields

A record is a partial function from its fields to their values. A `Defaulter`
is code that reads and fills such a record and may run into an unset field that
it relies on. It comes with what it relies on and what it leaves set, so that a
sequence of defaulters is seen to be defined by comparing two lists. It keeps
what is set, and finds nothing to do where it has already run, also after other
defaulters have run in between.
-/

namespace Defaults

variable {ι : Type} {α : ι → Type}

abbrev Record (α : ι → Type) := ∀ f, Option (α f)

def Extends (s t : Record α) : Prop := ∀ f v, s f = some v → t f = some v

theorem Extends.refl (s : Record α) : Extends s s := fun _ _ h => h

theorem Extends.trans (h : Extends s t) (h' : Extends t u) : Extends s u :=
  fun f v hv => h' f v (h f v hv)

theorem Extends.isSome (h : Extends s t) (hf : (s f).isSome) : (t f).isSome := by
  obtain ⟨v, hv⟩ := Option.isSome_iff_exists.mp hf
  simp [h f v hv]

def AllSet (s : Record α) (fields : List ι) : Prop := ∀ f ∈ fields, (s f).isSome

instance (s : Record α) (fields : List ι) : Decidable (AllSet s fields) :=
  inferInstanceAs (Decidable (∀ f ∈ fields, _))

theorem AllSet.mono (hs : AllSet s fields) (h : Extends s t) :
    AllSet t fields := fun f hf => h.isSome (hs f hf)

theorem allSet_append : AllSet s (fields ++ fields') ↔ AllSet s fields ∧ AllSet s fields' := by
  simp [AllSet, or_imp, forall_and]

structure Defaulter (α : ι → Type) where
  run : Record α → Option (Record α)
  /-- Fields that have to be set before. -/
  needs : List ι
  /-- Fields that are set after. -/
  gives : List ι
  touches : List ι
  /-- Fields that are read and may be unset. -/
  watches : List ι
  /-- No field is filled after it was seen unset. -/
  Ordered : Prop
  decidableOrdered : Decidable Ordered
  isSome_run : ∀ s, AllSet s needs → (run s).isSome
  allSet_gives : ∀ s s', run s = some s' → AllSet s' gives
  extends_run : ∀ s s', run s = some s' → Extends s s'
  frame : ∀ s s', run s = some s' → ∀ f ∉ touches, s' f = s f
  settles : Ordered → ∀ s s' t, run s = some s' → Extends s' t →
    (∀ f ∈ watches, t f = s' f) → run t = some t

instance (d : Defaulter α) : Decidable d.Ordered := d.decidableOrdered

namespace Defaulter

/-- A second run changes nothing. -/
theorem run_again (d : Defaulter α) (h : d.Ordered) (hrun : d.run s = some s') :
    d.run s' = some s' :=
  d.settles h s s' s' hrun (.refl s') fun _ _ => rfl

def skip : Defaulter α where
  run := some
  needs := []
  gives := []
  touches := []
  watches := []
  Ordered := True
  decidableOrdered := inferInstance
  isSome_run _ _ := rfl
  allSet_gives _ _ _ := nofun
  extends_run s s' h := by cases h; exact .refl s
  frame s s' h := by cases h; exact fun _ _ => rfl
  settles _ _ _ _ _ _ _ := rfl

variable [DecidableEq ι]

def seq (a b : Defaulter α) : Defaulter α where
  run s := (a.run s).bind b.run
  needs := a.needs ++ b.needs.filter (· ∉ a.gives)
  gives := a.gives ++ b.gives
  touches := a.touches ++ b.touches
  watches := a.watches ++ b.watches
  Ordered := a.Ordered ∧ b.Ordered ∧ ∀ f ∈ a.watches, f ∉ b.touches
  decidableOrdered := inferInstance
  isSome_run s hs := by
    obtain ⟨ha, hb⟩ := allSet_append.mp hs
    obtain ⟨s', hs'⟩ := Option.isSome_iff_exists.mp (a.isSome_run s ha)
    rw [hs', Option.bind_some]
    refine b.isSome_run s' fun f hf => ?_
    -- What `b` relies on is set by `a`, or was set before and is kept.
    by_cases hgives : f ∈ a.gives
    · exact a.allSet_gives s s' hs' f hgives
    · exact (a.extends_run s s' hs').isSome (hb f (by simp [hf, hgives]))
  allSet_gives s s' h := by
    obtain ⟨mid, ha, hb⟩ := Option.bind_eq_some_iff.mp h
    exact allSet_append.mpr ⟨(a.allSet_gives s mid ha).mono (b.extends_run mid s' hb),
      b.allSet_gives mid s' hb⟩
  extends_run s s' h := by
    obtain ⟨mid, ha, hb⟩ := Option.bind_eq_some_iff.mp h
    exact (a.extends_run s mid ha).trans (b.extends_run mid s' hb)
  frame s s' h f hf := by
    obtain ⟨mid, ha, hb⟩ := Option.bind_eq_some_iff.mp h
    rw [List.mem_append, not_or] at hf
    rw [b.frame mid s' hb f hf.2, a.frame s mid ha f hf.1]
  settles ho s s' t h ht hw := by
    obtain ⟨mid, ha, hb⟩ := Option.bind_eq_some_iff.mp h
    have hat : a.run t = some t := by
      refine a.settles ho.1 s mid t ha ((b.extends_run mid s' hb).trans ht) fun f hf => ?_
      rw [hw f (List.mem_append_left _ hf), b.frame mid s' hb f (ho.2.2 f hf)]
    rw [hat, Option.bind_some]
    exact b.settles ho.2.1 mid s' t hb ht fun f hf => hw f (List.mem_append_right _ hf)

theorem run_seq (a b : Defaulter α) (s : Record α) : (a.seq b).run s = (a.run s).bind b.run := rfl

def all (ds : List (Defaulter α)) : Defaulter α := ds.foldr seq skip

/-- An unset field gets a value, and `rest` follows; a set one stops here. The
fields of `owners` are gone through to get at it, those of `reads` are used for
the value. -/
def ifUnset (owners : List ι) (f : ι) (reads : List ι) (v : Record α → Option (α f))
    (hv : ∀ s, AllSet s reads → (v s).isSome) (rest : Defaulter α) : Defaulter α where
  run s :=
    if AllSet s owners then
      if (s f).isSome then some s
      else (v s).bind fun x => rest.run (Function.update s f (some x))
    else none
  needs := owners ++ reads ++ rest.needs.filter (· ≠ f)
  gives := [f]
  touches := f :: rest.touches
  watches := []
  Ordered := True
  decidableOrdered := inferInstance
  isSome_run s hs := by
    rw [allSet_append, allSet_append] at hs
    rw [if_pos hs.1.1]
    split_ifs with hf
    · rfl
    · obtain ⟨x, hx⟩ := Option.isSome_iff_exists.mp (hv s hs.1.2)
      rw [hx, Option.bind_some]
      refine rest.isSome_run _ fun g hg => ?_
      by_cases hgf : g = f
      · subst hgf
        simp
      · simpa [Function.update_of_ne hgf] using hs.2 g (by simp [hg, hgf])
  allSet_gives s s' h := by
    split_ifs at h with ho hf
    · cases h
      simpa [AllSet] using hf
    · obtain ⟨x, -, hrest⟩ := Option.bind_eq_some_iff.mp h
      have hfx := rest.extends_run _ s' hrest f x (Function.update_self ..)
      simp [AllSet, hfx]
  extends_run s s' h := by
    split_ifs at h with ho hf
    · cases h
      exact .refl s
    · obtain ⟨x, -, hrest⟩ := Option.bind_eq_some_iff.mp h
      refine Extends.trans (fun g w hg => ?_) (rest.extends_run _ s' hrest)
      have hgf : g ≠ f := by
        rintro rfl
        simp [hg] at hf
      rwa [Function.update_of_ne hgf]
  frame s s' h g hg := by
    rw [List.mem_cons, not_or] at hg
    split_ifs at h with ho hf
    · cases h
      rfl
    · obtain ⟨x, -, hrest⟩ := Option.bind_eq_some_iff.mp h
      rw [rest.frame _ s' hrest g hg.2, Function.update_of_ne hg.1]
  settles _ s s' t h ht _ := by
    -- Both the owners and the field are set in `t`.
    have hset : AllSet s' owners ∧ (s' f).isSome := by
      split_ifs at h with ho hf
      · cases h
        exact ⟨ho, hf⟩
      · obtain ⟨x, -, hrest⟩ := Option.bind_eq_some_iff.mp h
        have hext := rest.extends_run _ s' hrest
        refine ⟨fun g hg => hext.isSome ?_, by simp [hext f x (Function.update_self ..)]⟩
        by_cases hgf : g = f
        · subst hgf
          simp
        · simpa [Function.update_of_ne hgf] using ho g hg
    rw [if_pos (hset.1.mono ht), if_pos (ht.isSome hset.2)]

/-- An unset field gets a fixed value. -/
def fill (owners : List ι) (f : ι) (v : α f) : Defaulter α :=
  ifUnset owners f [] (fun _ => some v) (fun _ _ => rfl) skip

/-- A condition, undefined where a field of `needs` is not set. -/
structure Condition (α : ι → Type) where
  eval : Record α → Option Bool
  needs : List ι
  /-- Fields that are set where the condition holds. -/
  implies : List ι
  watches : List ι
  isSome_eval : ∀ s, AllSet s needs → (eval s).isSome
  allSet_implies : ∀ s, eval s = some true → AllSet s implies
  eval_eq : ∀ s t b, eval s = some b → Extends s t → (∀ f ∈ watches, t f = s f) → eval t = some b

def when (c : Condition α) (body : Defaulter α) : Defaulter α where
  run s := (c.eval s).bind fun b => if b then body.run s else some s
  needs := c.needs ++ body.needs.filter (· ∉ c.implies)
  gives := []
  touches := body.touches
  watches := c.watches ++ body.watches
  Ordered := body.Ordered ∧ ∀ f ∈ c.watches, f ∉ body.touches
  decidableOrdered := inferInstance
  isSome_run s hs := by
    obtain ⟨hc, hbody⟩ := allSet_append.mp hs
    obtain ⟨b, hb⟩ := Option.isSome_iff_exists.mp (c.isSome_eval s hc)
    cases b with
    | false => simp [hb]
    | true =>
      have hneeds : AllSet s body.needs := fun f hf => by
        by_cases himplies : f ∈ c.implies
        · exact c.allSet_implies s hb f himplies
        · exact hbody f (by simp [hf, himplies])
      simpa [hb] using body.isSome_run s hneeds
  allSet_gives _ _ _ := nofun
  extends_run s s' h := by
    obtain ⟨b, -, hrun⟩ := Option.bind_eq_some_iff.mp h
    split_ifs at hrun
    · exact body.extends_run s s' hrun
    · cases hrun
      exact .refl s
  frame s s' h f hf := by
    obtain ⟨b, -, hrun⟩ := Option.bind_eq_some_iff.mp h
    split_ifs at hrun
    · exact body.frame s s' hrun f hf
    · cases hrun
      rfl
  settles ho s s' t h ht hw := by
    obtain ⟨b, hb, hrun⟩ := Option.bind_eq_some_iff.mp h
    cases b with
    | true =>
      have heval : c.eval t = some true := by
        refine c.eval_eq s t true hb ((body.extends_run s s' hrun).trans ht) fun f hf => ?_
        rw [hw f (List.mem_append_left _ hf), body.frame s s' hrun f (ho.2 f hf)]
      rw [heval]
      exact body.settles ho.1 s s' t hrun ht fun f hf => hw f (List.mem_append_right _ hf)
    | false =>
      cases hrun
      rw [c.eval_eq s t false hb ht fun f hf => hw f (List.mem_append_left _ hf)]
      rfl

end Defaulter

end Defaults
