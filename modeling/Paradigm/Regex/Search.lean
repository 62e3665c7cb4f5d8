import Paradigm.Regex.Program
import Paradigm.Unicode.Classes

/-!
# Search

Runs a program over a text by trying alternatives in their order and coming back when one fails.
An instruction is not tried twice at one place: what failed there before fails again.
-/

namespace Paradigm.Regex

/-! ## Conditions on places -/

section

variable (text : Array Char) (pos : Nat)

def charBefore? : Option Char := if pos = 0 then none else text[pos - 1]?

def charAfter? : Option Char := text[pos]?

def wordBefore (ascii : Bool) : Bool :=
  (charBefore? text pos).any fun c => if ascii then Unicode.isAsciiWord c else Unicode.isWord c

def wordAfter (ascii : Bool) : Bool :=
  (charAfter? text pos).any fun c => if ascii then Unicode.isAsciiWord c else Unicode.isWord c

/-- The condition holds at a place. -/
def Look.holds : Look → Bool
  | .textStart => pos == 0
  | .textEnd => pos == text.size
  | .lineStart => pos == 0 || charBefore? text pos == some '\n'
  | .lineEnd => pos == text.size || charAfter? text pos == some '\n'
  | .lineStartCarriage =>
    pos == 0 || charBefore? text pos == some '\n'
      || (charBefore? text pos == some '\r' && charAfter? text pos != some '\n')
  | .lineEndCarriage =>
    pos == text.size || charAfter? text pos == some '\r'
      || (charAfter? text pos == some '\n' && charBefore? text pos != some '\r')
  | .wordBoundary ascii => wordBefore text pos ascii != wordAfter text pos ascii
  | .notWordBoundary ascii => wordBefore text pos ascii == wordAfter text pos ascii
  | .wordStart ascii => !wordBefore text pos ascii && wordAfter text pos ascii
  | .wordEnd ascii => wordBefore text pos ascii && !wordAfter text pos ascii
  | .wordStartHalf ascii => !wordBefore text pos ascii
  | .wordEndHalf ascii => !wordAfter text pos ascii

end

/-! ## Running -/

/-- Where groups begin and end: slots `2 i` and `2 i + 1` belong to group `i`. -/
abbrev Slots := List (Option Nat)

/-- The instructions tried so far at each place. -/
abbrev Visited := Array Bool

/-- A try at a match, which leaves marks also where it fails. -/
abbrev Attempt := Visited → Option Slots × Visited

/-- The first of several attempts that succeeds. -/
def firstSuccess (attempt : Nat → Attempt) : List Nat → Attempt
  | [], visited => (none, visited)
  | target :: rest, visited =>
    match attempt target visited with
    | (some slots, visited) => (some slots, visited)
    | (none, visited) => firstSuccess attempt rest visited

/-- Runs from an instruction at a place. The fuel bounds the instructions on one path. -/
def run (program : Program) (text : Array Char) :
    Nat → (instruction pos : Nat) → Slots → Attempt
  | 0, _, _, _, visited => (none, visited)
  | fuel + 1, instruction, pos, slots, visited =>
    let mark := instruction * (text.size + 1) + pos
    if visited.getD mark true then (none, visited)
    else
      let visited := visited.setIfInBounds mark true
      match program[instruction]? with
      | none => (none, visited)
      | some .accept => (some slots, visited)
      | some (.char c next) =>
        if text[pos]? == some c then run program text fuel next (pos + 1) slots visited
        else (none, visited)
      | some (.set chars next) =>
        if text[pos]?.any chars.contains then run program text fuel next (pos + 1) slots visited
        else (none, visited)
      | some (.look look next) =>
        if look.holds text pos then run program text fuel next pos slots visited
        else (none, visited)
      | some (.save slot next) =>
        run program text fuel next pos (slots.set slot (some pos)) visited
      | some (.split targets) =>
        firstSuccess (fun target => run program text fuel target pos slots) targets visited

/-- Tries every place from `pos` on as the start of a match, `tries` of them. -/
def searchFrom (program : Program) (text : Array Char) (start : Nat) (blank : Slots) :
    (tries pos : Nat) → Visited → Option Slots
  | 0, _, _ => none
  | tries + 1, pos, visited =>
    let fuel := program.size * (text.size + 1) + 1
    match run program text fuel start pos blank visited with
    | (some slots, _) => some slots
    | (none, visited) => searchFrom program text start blank tries (pos + 1) visited

/-- The slots of the leftmost match. -/
def search (program : Program) (start groups : Nat) (text : Array Char) : Option Slots :=
  searchFrom program text start (List.replicate (2 * groups) none) (text.size + 1) 0
    (Array.replicate (program.size * (text.size + 1)) false)

end Paradigm.Regex
