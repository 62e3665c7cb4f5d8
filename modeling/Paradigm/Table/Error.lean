import Paradigm.Data.Error
import Paradigm.Error

/-!
# Errors in building a table
-/

namespace Paradigm

/-- Which of two tables has a part that the other lacks. -/
inductive Side where
  | existing
  | generated
deriving DecidableEq

def Side.name : Side → String
  | .existing => "existing"
  | .generated => "generated"

/-- Why a table cannot be built: data, rules, one row, or two tables that disagree. -/
inductive TableError where
  | data (e : DataError)
  | rules (e : Error)
  | generation (word : String) (e : Error)
  | missingForm (word part : String) (presentIn : Side)
  | formMismatch (word part existing generated : String)
  | outOfFuel (word : String)
deriving DecidableEq

namespace TableError

def message : TableError → String
  | data e => e.message
  | rules _ => "invalid rule set"
  | generation word _ => s!"failed to generate '{word}'"
  | missingForm word part side =>
    let name := side.name
    s!"'{word}' has '{part}' in the {name} forms but not the other"
  | formMismatch word part existing generated =>
    s!"'{word}' disagrees on '{part}': '{existing}' vs '{generated}'"
  | outOfFuel word => s!"'{word}' expands without end"

/-- The messages of what lies behind an error, the nearest first. -/
def causes : TableError → List String
  | data e => e.causes
  | rules e => e.message :: (e.cause?.map Regex.Error.report).toList
  | generation _ e => e.message :: (e.cause?.map Regex.Error.report).toList
  | _ => []

end TableError

end Paradigm
