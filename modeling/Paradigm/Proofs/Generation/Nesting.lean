import Paradigm.Proofs.Generation.Reachable

/-!
# Nesting

What single steps of a session keep is kept by whole requests. So no part is ever computed deeper
below a request than there are parts with rules.
-/

namespace Paradigm

namespace Inventory

/-- Every computation that was begun lies less deep than there are parts with rules. -/
def Nested (i : Inventory) (s : Session) : Prop :=
  ∀ trace ∈ s.stats.computed, trace.depth < i.partNames.length

/-- A property of sessions that the single steps of requests keep. -/
structure Kept (i : Inventory) (P : Session → Prop) : Prop where
  countRecall : ∀ s, P s → P s.countRecall
  begin : ∀ s (trail : Trail i) part (rules : List Rule), part ∉ trail.parts →
    i.rules? part = some rules → P s → P (s.begin part trail.parts.length rules.length)
  finish : ∀ s part slot forms, P s → P (s.finish part slot forms)
  countExpansion : ∀ s, P s → P s.countExpansion
  countMatch : ∀ s, P s → P s.countMatch

section

variable {i : Inventory} {P : Session → Prop}

/-- The computation leads from sessions with the property to such sessions. -/
def Keeps (P : Session → Prop) {α : Type} (x : Inflecting α) : Prop :=
  ∀ s, P s → P (x.outcome s).2

theorem Keeps.bind {α β : Type} {x : Inflecting α} {f : α → Inflecting β} (h : Keeps P x)
    (h' : ∀ a, Keeps P (f a)) : Keeps P (x >>= f) := by
  intro s hs
  have first := h s hs
  rw [Halting.outcome_bind]
  rcases e : x.outcome s with ⟨halt | a, s'⟩ <;> rw [e] at first
  · exact first
  · exact h' a s' first

theorem Keeps.settle {α : Type} {attempt : Nat → Inflecting α}
    (h : ∀ fuel, Keeps P (attempt fuel)) : Keeps P (Halting.settle attempt) := by
  intro s hs
  obtain ⟨fuel, found⟩ := Halting.settle_eq_attempt attempt s
  rw [found]
  exact h fuel s hs

theorem Kept.related (kept : i.Kept P) (trail : List String)
    {forms : String → Inflecting (List String)} (h : ∀ part, Keeps P (forms part)) :
    Demand.Related (fun _ x _ => Keeps P x) (i.demand trail forms)
      fun _ : Unit => i.demand trail forms where
  pure _ _ hs := hs
  bind := .bind
  forms := h
  refuse _ _ hs := hs
  giveUp _ hs := hs
  expand _ := .settle
  countExpansion := kept.countExpansion
  countMatch := kept.countMatch

theorem Kept.generate (kept : i.Kept P) (trail : Trail i) (part : String) :
    Keeps P (i.generate trail part) := by
  induction trail using Trail.induction generalizing part with
  | step trail ih =>
      intro s hs
      have below := fun fresh rules ruled =>
        (kept.related (trail.extend part fresh ruled).parts (ih part fresh rules ruled)).rules rules
          _ (kept.begin s trail part rules fresh ruled hs)
      have answer := i.generate_answer trail part s
      generalize (i.generate trail part).outcome s = r at answer ⊢
      cases answer with
      | known _ => exact kept.countRecall s hs
      | begun _ _ => exact hs
      | unruled _ _ _ => exact hs
      | halted _ fresh ruled outcome =>
          have kept' := below fresh _ ruled
          rwa [outcome] at kept'
      | yielded _ fresh ruled outcome =>
          have kept' := below fresh _ ruled
          rw [outcome] at kept'
          exact kept.finish _ part _ _ kept'

end

/-! ## The bound -/

theorem kept_nested (i : Inventory) : i.Kept i.Nested where
  countRecall _ hs := hs
  begin s trail part rules fresh ruled hs := by
    intro trace member
    rcases List.mem_append.mp member with member | member
    · exact hs trace member
    · have deeper := trail.length_extend part fresh ruled
      have bound := (trail.extend part fresh ruled).length_le
      rw [List.mem_singleton.mp member]
      show trail.parts.length < _
      omega
  finish s part slot forms hs := by
    intro trace member
    obtain ⟨n, found⟩ := List.mem_iff_getElem?.mp member
    simp only [Session.finish, Stats.record, List.getElem?_modify] at found
    obtain ⟨trace', found', rfl⟩ := Option.map_eq_some_iff.mp found
    have bound := hs trace' (List.mem_of_getElem? found')
    split <;> exact bound
  countExpansion _ hs := hs
  countMatch _ hs := hs

theorem Reachable.nested {i : Inventory} {seeds : List (String × String)} {trail : Trail i}
    {s : Session} (h : i.Reachable seeds trail s) : i.Nested s := by
  induction h with
  | fresh => exact nofun
  | asked part _ ih => exact i.kept_nested.generate _ part _ ih
  | begun _ fresh ruled _ ih => exact i.kept_nested.begin _ _ _ _ fresh ruled ih
  | expanded _ ih => exact ih
  | matched _ ih => exact ih

end Inventory

end Paradigm
