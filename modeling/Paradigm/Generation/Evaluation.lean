import Paradigm.Generation.Session
import Paradigm.Placeholder

/-!
# Evaluation of rules

What a single rule yields, given a way to ask for the forms of other parts. The way of asking is a
parameter, so that rules mean the same with a memory of earlier answers and without one.
-/

namespace Paradigm

/-- Placeholders that come with inserted forms are filled in this many times. -/
def expansionLimit : Nat := 64

/-- What the evaluation of a rule may do: ask for the forms of a part, refuse, give up for want of
fuel, make attempts with fuel enough, and count insertions and matches. -/
structure Demand (m : Type → Type) where
  forms : String → m (List String)
  refuse : {α : Type} → Fault → m α
  giveUp : {α : Type} → m α
  settle : {α : Type} → (Nat → m α) → m α
  countExpansion : m Unit
  countMatch : m Unit

namespace Demand

variable {m : Type → Type} [Monad m]

/-- All texts that a template stands for: the leftmost placeholder is filled in with each of its
forms, in all places where it stands, and the result is expanded further. `depth` counts the
insertions that brought placeholders along; the fuel bounds all insertions in a row. -/
def expandWithin (d : Demand m) : (fuel depth : Nat) → List Char → m (List String)
  | 0, _, _ => d.giveUp
  | fuel + 1, depth, text =>
    match Placeholder.first? text with
    | none => pure [String.ofList text]
    | some name =>
      if expansionLimit ≤ depth then
        d.refuse (.expansionTooDeep (String.ofList text) expansionLimit)
      else do
        let forms ← d.forms (String.ofList name)
        let results ← forms.mapM fun form => do
          d.countExpansion
          let nested := if Placeholder.occurs form.toList then 1 else 0
          expandWithin d fuel (depth + nested) (Placeholder.fill name form.toList text)
        return results.flatten

/-- All texts that a template stands for. -/
def expand (d : Demand m) (text : String) : m (List String) :=
  d.settle fun fuel => d.expandWithin fuel 0 text.toList

/-- Rewrites a form, which has to match. -/
def rewrite (d : Demand m) (s : Substitution) (form : String) : m String := do
  d.countMatch
  match s.regex.find? form with
  | some found => pure (s.template.expand found)
  | none => d.refuse (.patternMismatch s.source form s.pattern)

/-- Rewrites every form of the source. -/
def substitute (d : Demand m) (s : Substitution) : m (List String) := do
  (← d.forms s.source).mapM (d.rewrite s)

def rule (d : Demand m) : Rule → m (List String)
  | .pattern text => d.expand text
  | .substitution s => d.substitute s

/-- The results of all rules of a part, in their order. -/
def rules (d : Demand m) (rs : List Rule) : m (List String) := do
  return (← rs.mapM d.rule).flatten

end Demand

end Paradigm
