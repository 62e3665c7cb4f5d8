import Paradigm.Text
import Paradigm.Unicode.Classes

/-!
# Placeholders

A placeholder is a name between braces. A name is made of word characters and hyphens, and may be
empty; a brace that begins no placeholder is text.
-/

namespace Paradigm.Placeholder

def isNameChar (c : Char) : Bool := Unicode.isWord c || c == '-'

/-- The name that a text begins with, if a closing brace follows it. -/
def closedName? : List Char → Option (List Char)
  | [] => none
  | c :: rest =>
    if c = '\x7d' then some []
    else if isNameChar c then (closedName? rest).map (c :: ·)
    else none

/-- The name of the leftmost placeholder. -/
def first? : List Char → Option (List Char)
  | [] => none
  | c :: rest =>
    if c = '\x7b' then
      match closedName? rest with
      | some name => some name
      | none => first? rest
    else first? rest

def token (name : List Char) : List Char := '\x7b' :: name ++ ['\x7d']

/-- The text has a placeholder. -/
def occurs (text : List Char) : Bool := (first? text).isSome

/-- Puts a value in every place where the placeholder of the name stands. -/
def fill (name value text : List Char) : List Char := Text.replaceAll (token name) value text

end Paradigm.Placeholder
