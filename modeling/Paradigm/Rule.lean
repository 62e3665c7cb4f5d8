import Paradigm.SortedMap

/-!
# Rules as written

A repository names categories. A category may inherit from another one and lists rules for parts;
a rule is a text with placeholders, or rewrites the forms of another part.
-/

namespace Paradigm

/-- Rewrites each form of `source` that matches `pattern` into `replacement`. -/
structure RewriteSpec where
  source : String
  pattern : String
  replacement : String
deriving DecidableEq

/-- A rule as it is written: a text with placeholders, or a rewriting of other forms. -/
inductive RuleSpec where
  | template (text : String)
  | rewrite (spec : RewriteSpec)
deriving DecidableEq

/-- The rules of one part: a single rule, or a list of alternatives. -/
inductive Entry where
  | one (rule : RuleSpec)
  | many (rules : List RuleSpec)
deriving DecidableEq

/-- The alternatives; a single rule is the only one. -/
def Entry.alternatives : Entry → List RuleSpec
  | .one rule => [rule]
  | .many rules => rules

/-- A category as it is written. Parts that it lacks come from its parent. -/
structure CategorySpec where
  parent : Option String := none
  rules : SortedMap Entry := .empty
deriving DecidableEq

namespace CategorySpec

def inheriting (c : CategorySpec) (parent : String) : CategorySpec := { c with parent }

def withRule (c : CategorySpec) (part : String) (entry : Entry) : CategorySpec :=
  { c with rules := c.rules.insert part entry }

end CategorySpec

/-- Categories by name, as they are written. -/
abbrev Repository := SortedMap CategorySpec

end Paradigm
