import Paradigm.Regex.Meaning
import Paradigm.Regex.Reader
import Paradigm.Regex.Search

/-!
# Regular expressions

`Regex.compile` reads a pattern, and `Regex.find?` gives the leftmost match in a text together with
the parts that its groups cover.

Programs may be of any size. An engine with a limit on the size of a compiled pattern, such as ten
mebibytes, rejects some patterns that compile here: `(?:\w{1000}){1000}`, which counts its
repetitions out, is one.
-/

namespace Paradigm

/-- A pattern ready for matching. `groupNames` lists its groups, the whole match first. -/
structure Regex where
  pattern : String
  groupNames : List (Option String)
  start : Nat
  program : Regex.Program
deriving DecidableEq

namespace Regex

/-- A match: the part of the text that each group covers, as first and last index. -/
structure Match where
  text : List Char
  spans : List (Option (Nat × Nat))
  groupNames : List (Option String)

/-- Reads a pattern, resolves its flags and turns it into a program. -/
def compile (pattern : String) : Except Error Regex := do
  let ast ← Ast.read pattern.toList
  let expr ← ast.resolve pattern.toList
  let (start, program) := Program.ofExpr expr
  return { pattern, groupNames := expr.groupNames, start, program }

def groupCount (r : Regex) : Nat := r.groupNames.length

/-- Slots in pairs; a group with a missing end took no part. -/
def spansOf : Slots → List (Option (Nat × Nat))
  | some first :: some last :: rest => some (first, last) :: spansOf rest
  | _ :: _ :: rest => none :: spansOf rest
  | _ => []

/-- The leftmost match, by the order of preference among those that start there. -/
def find? (r : Regex) (text : String) : Option Match :=
  (search r.program r.start r.groupCount text.toList.toArray).map fun slots =>
    ⟨text.toList, spansOf slots, r.groupNames⟩

namespace Match

/-- The text of a group that took part in the match. -/
def group? (m : Match) (index : Nat) : Option String :=
  match m.spans[index]? with
  | some (some (first, last)) => some (String.ofList ((m.text.drop first).take (last - first)))
  | _ => none

def named? (m : Match) (name : String) : Option String :=
  (m.groupNames.findIdx? (· == some name)).bind m.group?

/-- The match covers the whole text. -/
def Covers (m : Match) : Prop := m.spans.head? = some (some (0, m.text.length))

instance (m : Match) : Decidable m.Covers := by unfold Covers; infer_instance

end Match

end Regex

end Paradigm
