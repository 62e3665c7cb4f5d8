import Mathlib.Algebra.Ring.Nat
import Paradigm.Proofs.Generation.Needs
import Paradigm.Proofs.Generation.Refusals

/-!
# Before and after

What holds after a computation, for answers and for failures apart, if something holds before it.
An invariant of the single things that rules do, the requests they make among them, is one of their
whole evaluation. Only such requests count as the rules really make, and the invariant may speak of
the number of matches.
-/

namespace Paradigm

namespace Halting

variable {σ α β : Type}

/-- From a state with `P`, the computation leads to an answer and a state with `Q`, or it halts in a
state with `E`. -/
def Triple (P : σ → Prop) (x : Halting σ α) (Q : α → σ → Prop) (E : Halt → σ → Prop) : Prop :=
  ∀ s, P s →
    match x.outcome s with
    | (.ok a, s') => Q a s'
    | (.error halt, s') => E halt s'

section

variable {P : σ → Prop} {Q : α → σ → Prop} {E : Halt → σ → Prop}

theorem Triple.of_outcome {x : Halting σ α}
    (h : ∀ s, P s → ∃ r s', x.outcome s = (r, s') ∧ (∀ a, r = .ok a → Q a s') ∧
      ∀ halt, r = .error halt → E halt s') : Triple P x Q E := by
  intro s hs
  obtain ⟨r, s', same, ok, error⟩ := h s hs
  rw [same]
  cases r with
  | ok a => exact ok a rfl
  | error halt => exact error halt rfl

/-- A fact that does not speak of the state may be used by the computation. -/
theorem Triple.of_and {x : Halting σ α} {c : Prop} (h : c → Triple P x Q E) :
    Triple (fun s => P s ∧ c) x Q E := fun s hs => h hs.2 s hs.1

theorem Triple.ok {x : Halting σ α} (h : Triple P x Q E) {s s' : σ} {a : α} (before : P s)
    (same : x.outcome s = (.ok a, s')) : Q a s' := by
  have after := h s before
  rwa [same] at after

theorem Triple.error {x : Halting σ α} (h : Triple P x Q E) {s s' : σ} {halt : Halt} (before : P s)
    (same : x.outcome s = (.error halt, s')) : E halt s' := by
  have after := h s before
  rwa [same] at after

theorem Triple.pure {a : α} (h : ∀ s, P s → Q a s) : Triple P (Pure.pure a) Q E := h

theorem Triple.throw {halt : Halt} (h : ∀ s, P s → E halt s) :
    Triple P (MonadExcept.throw halt : Halting σ α) Q E := h

theorem Triple.modify {f : σ → σ} {Q : Unit → σ → Prop} (h : ∀ s, P s → Q () (f s)) :
    Triple P (modify f : Halting σ Unit) Q E := h

theorem Triple.bind {x : Halting σ α} {f : α → Halting σ β} {R : β → σ → Prop}
    (h : Triple P x Q E) (h' : ∀ a, Triple (Q a) (f a) R E) : Triple P (x >>= f) R E := by
  intro s hs
  have first := h s hs
  rw [outcome_bind]
  rcases e : x.outcome s with ⟨halt | a, s'⟩ <;> rw [e] at first
  · exact first
  · exact h' a s' first

theorem Triple.settle {attempt : Nat → Halting σ α} (h : ∀ fuel, Triple P (attempt fuel) Q E) :
    Triple P (Halting.settle attempt) Q E := by
  intro s hs
  obtain ⟨fuel, found⟩ := settle_eq_attempt attempt s
  rw [found]
  exact h fuel s hs

/-- Each item adds its share to what the invariant counts. -/
theorem Triple.mapM {I : Nat → σ → Prop} {f : α → Halting σ β} {l : List α} (share : α → Nat)
    (h : ∀ a ∈ l, ∀ n, Triple (I n) (f a) (fun _ => I (n + share a)) E) (n : Nat) :
    Triple (I n) (l.mapM f) (fun _ => I (n + (l.map share).sum)) E := by
  induction l generalizing n with
  | nil => exact .pure fun _ hs => hs
  | cons a l ih =>
      obtain ⟨head, tail⟩ := List.forall_mem_cons.mp h
      rw [List.mapM_cons, List.map_cons, List.sum_cons, ← Nat.add_assoc]
      exact (head n).bind fun _ => (ih tail _).bind fun _ => .pure fun _ hs => hs

end

end Halting

namespace Inventory

open Halting

variable {i : Inventory} {seeds : List (String × String)}

/-- What a request is answered with is what the part comes to alone. -/
theorem Reachable.evaluate_of_ok {trail : Trail i} {s s' : Session} {part : String}
    {forms : List String} (h : i.Reachable seeds trail s)
    (ok : (i.generate trail part).outcome s = (.ok forms, s')) :
    i.evaluate seeds .empty part = .ok forms := by
  have sound := (h.asked part).sound.1
  rw [ok] at sound
  exact sound.answers part forms (known_of_generate_ok ok) .empty (Trail.empty_avoids _)

/-- The forms of a part, none if it fails. -/
def formsOf (i : Inventory) (seeds : List (String × String)) (part : String) : List String :=
  match i.evaluate seeds .empty part with
  | .ok forms => forms
  | .error _ => []

/-- The number of forms that a rule matches by itself: a substitution those of its source. -/
def matchCount (i : Inventory) (seeds : List (String × String)) : Rule → Nat
  | .pattern _ => 0
  | .substitution s => (i.formsOf seeds s.source).length

/-- What evaluators of rules may do keeps an invariant, as far as the rules ask for it; each match
adds one to what the invariant counts; and the forms that rules are given are those of the part. -/
structure Carries (i : Inventory) (seeds : List (String × String)) (rs : List Rule) {σ : Type}
    (I : Nat → σ → Prop) (E : Halt → σ → Prop) (d : Demand (Halting σ)) : Prop where
  forms : ∀ part, i.Asks seeds rs part → ∀ n, Triple (I n) (d.forms part)
    (fun values s => I n s ∧ i.evaluate seeds .empty part = .ok values) E
  refuse : ∀ {α : Type} fault n, Triple (I n) (d.refuse fault : Halting σ α) (fun _ => I n) E
  giveUp : ∀ {α : Type} n, Triple (I n) (d.giveUp : Halting σ α) (fun _ => I n) E
  settle : ∀ {α : Type} (attempt : Nat → Halting σ α), d.settle attempt = Halting.settle attempt
  countExpansion : ∀ n, Triple (I n) d.countExpansion (fun _ => I n) E
  countMatch : ∀ n, Triple (I n) d.countMatch (fun _ => I (n + 1)) E

section

variable {rs : List Rule} {σ : Type} {I : Nat → σ → Prop} {E : Halt → σ → Prop}
  {d : Demand (Halting σ)}

theorem Carries.expandWithin (h : i.Carries seeds rs I E d) {template : String}
    (member : .pattern template ∈ rs) {fuel depth : Nat} {text : List Char}
    (reached : i.Inserted seeds template.toList depth text) (n : Nat) :
    Triple (I n) (d.expandWithin fuel depth text) (fun _ => I n) E := by
  induction fuel generalizing depth text n with
  | zero => exact h.giveUp n
  | succ fuel ih =>
      simp only [Demand.expandWithin]
      cases first : Placeholder.first? text with
      | none => exact .pure fun _ hs => hs
      | some name =>
          simp only
          split
          · exact h.refuse _ n
          · refine (h.forms _ (.placeholder member reached first) n).bind fun values => ?_
            refine .of_and fun found => ?_
            have derived := complete_evaluate _ _ _ found
            refine (Triple.mapM (fun _ => 0) (fun value chosen n => ?_) n).bind fun _ => ?_
            · exact (h.countExpansion n).bind fun _ =>
                ih (.insert reached first ((derived value).mp chosen)) n
            · exact .pure fun _ hs => by simpa using hs

theorem Carries.substitute (h : i.Carries seeds rs I E d) {s : Substitution}
    (member : .substitution s ∈ rs) (n : Nat) :
    Triple (I n) (d.substitute s) (fun _ => I (n + (i.formsOf seeds s.source).length)) E := by
  refine (h.forms _ (.source member) n).bind fun values => .of_and fun found => ?_
  have count : (values.map fun _ => 1).sum = (i.formsOf seeds s.source).length := by
    simp [formsOf, found]
  rw [← count]
  refine .mapM (fun _ => 1) (fun value _ n => ?_) n
  refine (h.countMatch n).bind fun _ => ?_
  cases s.regex.find? value with
  | some found => exact .pure fun _ hs => hs
  | none => exact h.refuse _ _

/-- What each thing that rules do keeps is kept by their evaluation. -/
theorem Carries.rules (h : i.Carries seeds rs I E d) (n : Nat) :
    Triple (I n) (d.rules rs) (fun _ => I (n + (rs.map (i.matchCount seeds)).sum)) E := by
  refine (Triple.mapM _ (fun rule member n => ?_) n).bind fun _ => .pure fun _ hs => hs
  cases rule with
  | pattern template =>
      rw [Demand.rule, Demand.expand, h.settle]
      exact .settle fun fuel => h.expandWithin member .start n
  | substitution s => exact h.substitute member n

end

/-- Evaluators below a trail keep an invariant of reachable sessions if requests do. -/
theorem carries_demandAt {trail : Trail i} {rs : List Rule} {I : Nat → Session → Prop}
    {E : Halt → Session → Prop} (reachable : ∀ n s, I n s → i.Reachable seeds trail s)
    (forms : ∀ part, i.Asks seeds rs part → ∀ n,
      Triple (I n) (i.generate trail part) (fun _ => I n) E)
    (halts : ∀ n s, I n s → (∀ fault, E (i.refusal trail.parts fault) s) ∧ E .outOfFuel s)
    (counts : ∀ n s, I n s → I n s.countExpansion ∧ I (n + 1) s.countMatch) :
    i.Carries seeds rs I E (i.demandAt trail) where
  forms part asks n := by
    refine .of_outcome fun s hs => ⟨_, _, rfl, fun values ok => ?_, fun halt failed => ?_⟩
    · have same : (i.generate trail part).outcome s = (.ok values, _) := Prod.ext ok rfl
      exact ⟨(forms part asks n).ok hs same, (reachable n s hs).evaluate_of_ok same⟩
    · exact (forms part asks n).error hs (Prod.ext failed rfl)
  refuse fault n := .throw fun s hs => (halts n s hs).1 fault
  giveUp n := .throw fun s hs => (halts n s hs).2
  settle _ := rfl
  countExpansion n := .modify fun s hs => (counts n s hs).1
  countMatch n := .modify fun s hs => (counts n s hs).2

end Inventory

end Paradigm
