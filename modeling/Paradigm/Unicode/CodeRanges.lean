import Paradigm.CharSet
import Paradigm.Text

/-!
# Written tables of code points

A table is a text of items between spaces and line breaks, in hexadecimal: `41` is one code point,
`41-5A` a range and `100-136/2` every second code point of a range.
-/

namespace Paradigm.Unicode

/-- A set in written form, under each of its names in loose spelling. -/
structure NamedRanges where
  names : List String
  text : String

/-! ## Reading -/

/-- The number at the head of a text, and what follows it. -/
def readHex : Nat → List Char → Nat × List Char
  | acc, [] => (acc, [])
  | acc, c :: rest =>
    match Text.hexDigit? c with
    | some d => readHex (16 * acc + d) rest
    | none => (acc, c :: rest)

/-- First and last code point and the step of one item, and what follows it. -/
def readItem (text : List Char) : Nat × Nat × Nat × List Char :=
  match readHex 0 text with
  | (first, '-' :: rest) =>
    match readHex 0 rest with
    | (last, '/' :: rest) =>
      let (step, rest) := readHex 0 rest
      (first, last, step, rest)
    | (last, rest) => (first, last, 1, rest)
  | (first, rest) => (first, first, 1, rest)

def itemRanges (first last step : Nat) : List CodeRange :=
  if step ≤ 1 then [⟨first, last⟩]
  else (List.range ((last - first) / step + 1)).map fun i =>
    ⟨first + i * step, first + i * step⟩

def items (text : String) : List (List Char) :=
  ((Text.splitOn '\n' text.toList).flatMap (Text.splitOn ' ')).filter (!·.isEmpty)

end Paradigm.Unicode

namespace Paradigm.CharSet

def ofText (text : String) : CharSet :=
  ⟨(Unicode.items text).flatMap fun item =>
    let (first, last, step, _) := Unicode.readItem item
    Unicode.itemRanges first last step⟩

end Paradigm.CharSet

namespace Paradigm.Unicode

def find? (table : List NamedRanges) (name : String) : Option CharSet :=
  (table.find? fun row => row.names.contains name).map fun row => CharSet.ofText row.text

end Paradigm.Unicode
