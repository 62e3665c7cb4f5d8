import Paradigm.Generation.Basic
import Paradigm.Proofs.Generation.Related
import Paradigm.Proofs.Result

/-!
# Evaluation without memory

What a part stands for is said without a session: every request is worked out anew. Nothing is kept,
so an answer depends on the given forms, the trail and the part only.
-/

namespace Paradigm

/-! ## More fuel -/

namespace Halt

variable {α β : Type}

/-- `y` is what becomes of `x` with more fuel. -/
def Refines (x y : Except Halt α) : Prop := x = .error .outOfFuel ∨ y = x

theorem Refines.refl (x : Except Halt α) : Refines x x := .inr rfl

theorem Refines.eq {x y : Except Halt α} (h : Refines x y) (final : isFinal x = true) : y = x := by
  rcases h with rfl | rfl
  · cases final
  · rfl

theorem Refines.bind {x y : Except Halt α} {f g : α → Except Halt β} (h : Refines x y)
    (rest : ∀ a, Refines (f a) (g a)) : Refines (x >>= f) (y >>= g) := by
  rcases h with rfl | rfl
  · exact .inl rfl
  · cases y with
    | error halt => exact .inr rfl
    | ok a => exact rest a

end Halt

namespace Inventory

open Halt

/-- What rules may do where nothing is kept. -/
def directDemand (i : Inventory) (trail : List String)
    (forms : String → Except Halt (List String)) : Demand (Except Halt) where
  forms := forms
  refuse fault := .error (i.refusal trail fault)
  giveUp := .error .outOfFuel
  settle := Fuel.settle isFinal
  countExpansion := pure ()
  countMatch := pure ()

/-- The forms of a part while the parts of `trail` are being computed, without memory. A given part
has its form; a part that is being computed needs itself; a part must have rules; and what these
yield, other parts being evaluated below this one, is sorted, each form once. -/
def evaluate (i : Inventory) (seeds : List (String × String)) (trail : Trail i) (part : String) :
    Except Halt (List String) :=
  match givenForm? seeds part with
  | some form => .ok [form]
  | none =>
    if begun : part ∈ trail.parts then
      .error (i.refusal trail.parts (.cyclicReference (cycleOf part trail.parts)))
    else
      match ruled : i.rules? part with
      | none => .error (i.refusal trail.parts (.unknownPart part))
      | some rules =>
        let below := trail.extend part begun ruled
        ((i.directDemand below.parts (evaluate i seeds below)).rules rules).map distinctForms
termination_by trail.room
decreasing_by exact trail.room_extend ..

/-- What the rules of the last part of a trail may do where nothing is kept. -/
abbrev directAt (i : Inventory) (seeds : List (String × String)) (trail : Trail i) :
    Demand (Except Halt) :=
  i.directDemand trail.parts (i.evaluate seeds trail)

section

variable {i : Inventory} {seeds : List (String × String)} {trail : Trail i} {part : String}

theorem evaluate_of_given {form : String} (given : givenForm? seeds part = some form) :
    i.evaluate seeds trail part = .ok [form] := by
  rw [evaluate, given]

theorem evaluate_of_begun (unseeded : givenForm? seeds part = none) (begun : part ∈ trail.parts) :
    i.evaluate seeds trail part =
      .error (i.refusal trail.parts (.cyclicReference (cycleOf part trail.parts))) := by
  rw [evaluate, unseeded]
  simp only [begun, ↓reduceDIte]

theorem evaluate_of_unruled (unseeded : givenForm? seeds part = none) (fresh : part ∉ trail.parts)
    (unruled : i.rules? part = none) :
    i.evaluate seeds trail part = .error (i.refusal trail.parts (.unknownPart part)) := by
  rw [evaluate, unseeded]
  simp only [fresh, ↓reduceDIte]
  split
  · rfl
  · simp_all

theorem evaluate_of_ruled {rules : List Rule} (unseeded : givenForm? seeds part = none)
    (fresh : part ∉ trail.parts) (ruled : i.rules? part = some rules) :
    i.evaluate seeds trail part =
      ((i.directAt seeds (trail.extend part fresh ruled)).rules rules).map distinctForms := by
  rw [evaluate, unseeded]
  simp only [fresh, ↓reduceDIte]
  split
  · simp_all
  · rename_i rules' ruled'
    obtain rfl : rules = rules' := Option.some.inj (ruled.symm.trans ruled')
    rfl

/-- How a part is evaluated: it is given, or it needs itself, or it has no rules, or its rules yield
forms, or they halt. -/
inductive DirectAnswer (i : Inventory) (seeds : List (String × String)) (trail : Trail i)
    (part : String) : Except Halt (List String) → Prop where
  | given {form : String} (given : givenForm? seeds part = some form) :
    DirectAnswer i seeds trail part (.ok [form])
  | begun (unseeded : givenForm? seeds part = none) (begun : part ∈ trail.parts) :
    DirectAnswer i seeds trail part
      (.error (i.refusal trail.parts (.cyclicReference (cycleOf part trail.parts))))
  | unruled (unseeded : givenForm? seeds part = none) (fresh : part ∉ trail.parts)
    (unruled : i.rules? part = none) :
    DirectAnswer i seeds trail part (.error (i.refusal trail.parts (.unknownPart part)))
  | yielded {rules : List Rule} {results : List String} (unseeded : givenForm? seeds part = none)
    (fresh : part ∉ trail.parts) (ruled : i.rules? part = some rules)
    (outcome : (i.directAt seeds (trail.extend part fresh ruled)).rules rules = .ok results) :
    DirectAnswer i seeds trail part (.ok (distinctForms results))
  | halted {rules : List Rule} {halt : Halt} (unseeded : givenForm? seeds part = none)
    (fresh : part ∉ trail.parts) (ruled : i.rules? part = some rules)
    (outcome : (i.directAt seeds (trail.extend part fresh ruled)).rules rules = .error halt) :
    DirectAnswer i seeds trail part (.error halt)

theorem evaluate_answer (i : Inventory) (seeds : List (String × String)) (trail : Trail i)
    (part : String) : i.DirectAnswer seeds trail part (i.evaluate seeds trail part) := by
  rcases given : givenForm? seeds part with _ | form
  · by_cases begun : part ∈ trail.parts
    · rw [evaluate_of_begun given begun]
      exact .begun given begun
    rcases ruled : i.rules? part with _ | rules
    · rw [evaluate_of_unruled given begun ruled]
      exact .unruled given begun ruled
    · rw [evaluate_of_ruled given begun ruled]
      rcases outcome : (i.directAt seeds (trail.extend part begun ruled)).rules rules with
        halt | results
      · exact .halted given begun ruled outcome
      · exact .yielded given begun ruled outcome
  · rw [evaluate_of_given given]
    exact .given given

end

/-! ## Settling an expansion -/

section

variable {i : Inventory} {trail : List String} {forms : String → Except Halt (List String)}

theorem refining_directDemand (i : Inventory) (trail : List String)
    (forms : String → Except Halt (List String)) :
    Demand.Refining (fun _ => Refines) (i.directDemand trail forms) where
  refl := .refl
  bind := .bind
  giveUp _ := .inl rfl

theorem expandWithin_refines {fuel fuel' : Nat} (le : fuel ≤ fuel') (depth : Nat)
    (text : List Char) :
    Refines ((i.directDemand trail forms).expandWithin fuel depth text)
      ((i.directDemand trail forms).expandWithin fuel' depth text) :=
  (refining_directDemand i trail forms).expandWithin le depth text

/-- An expansion comes to what it comes to with any fuel that is enough. -/
theorem expand_eq {fuel : Nat} {text : String}
    (final : isFinal ((i.directDemand trail forms).expandWithin fuel 0 text.toList) = true) :
    (i.directDemand trail forms).expand text =
      (i.directDemand trail forms).expandWithin fuel 0 text.toList :=
  Fuel.settle_eq (fun _ _ le final => (expandWithin_refines le 0 text.toList).eq final) final

/-- An expansion comes to what it comes to with some fuel. -/
theorem expand_eq_expandWithin (i : Inventory) (trail : List String)
    (forms : String → Except Halt (List String)) (text : String) :
    ∃ fuel, (i.directDemand trail forms).expand text =
      (i.directDemand trail forms).expandWithin fuel 0 text.toList :=
  Fuel.settle_eq_attempt isFinal fun fuel =>
    (i.directDemand trail forms).expandWithin fuel 0 text.toList

end

end Inventory

end Paradigm
