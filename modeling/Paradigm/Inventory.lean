import Paradigm.Grammar

/-!
# Inventories

The inventory of a category holds the rules that apply in it: its own, and those of the categories
it inherits from, the nearest definition of a part hiding the others.
-/

namespace Paradigm

/-- A chain of inheritance may hold this many categories. -/
def chainLimit : Nat := 20

/-- The rules of a category, and the chain of categories they come from, itself first. -/
structure Inventory where
  category : String
  chain : List String
  parts : SortedMap (List Rule)

namespace Inventory

/-- The categories from `name` upwards, at most `room` of them. -/
def ascend (grammar : Grammar) (start : String) :
    Nat → String → Category → Except Fault (List (String × Category))
  | 0, _, _ => .error (.inheritanceTooDeep start chainLimit)
  | room + 1, name, category =>
    match category.parent with
    | none => .ok [(name, category)]
    | some parent =>
      match grammar.get? parent with
      | none => .error (.unknownCategory parent (some name))
      | some above => (ascend grammar start room parent above).map ((name, category) :: ·)

/-- The parts of a chain of categories: nearer ones lie over those further up. -/
def layParts : List (String × Category) → SortedMap (List Rule)
  | [] => .empty
  | (_, category) :: above => category.parts.orElse (layParts above)

/-- Follows the chain of a category upwards and lays the parts found there over one another. Fails
if the chain names a category that the grammar lacks, or does not end within its limit. -/
def resolve (grammar : Grammar) (name : String) : Except Error Inventory :=
  let chain : Except Fault (List (String × Category)) :=
    match grammar.get? name with
    | none => .error (.unknownCategory name none)
    | some category => ascend grammar name chainLimit name category
  match chain with
  | .error fault => .error { fault, category := some name }
  | .ok chain => .ok ⟨name, chain.map (·.1), layParts chain⟩

/-- The rules of a part, wherever in the chain they stand. -/
def rules? (i : Inventory) (part : String) : Option (List Rule) := i.parts.get? part

def partNames (i : Inventory) : List String := i.parts.keys

end Inventory

end Paradigm
