import Paradigm.Generation.Basic
import Paradigm.Shape
import Paradigm.Table.Word

/-!
# Rows of the verb table

A row has the standard parts of one headword, the forms of a part joined by slashes.
-/

namespace Paradigm

/-- The standard parts of a verb, in the order of the table. -/
def standardParts : List String := [
  "plain-inf", "to-inf", "pres-part", "pres-ind-1sg", "pres-ind-2sg", "pres-ind-3sg",
  "pres-ind-pl", "imp-sg", "imp-pl", "pres-sub-sg", "pres-sub-pl", "past-ind-1sg",
  "past-ind-2sg", "past-ind-3sg", "past-ind-pl", "past-sub-sg", "past-sub-pl", "past-part"]

/-- The headword itself, and the first person of the past, which is like the third. -/
def omittedParts : List String := [WordEntry.headwordPart, "past-ind-1sg"]

/-- The parts of a row in the order in which they are generated; the gloss comes last. -/
def rowParts : List String :=
  (standardParts ++ [WordEntry.glossPart]).filter fun part => !omittedParts.contains part

namespace Row

/-- Puts `start` before a text that does not begin with it. -/
def withPrefix (start text : String) : String :=
  if Text.hasPrefix start text then text else start ++ text

def glossForm (text : String) : String := withPrefix "to " text

/-- How the joined forms of a part stand in a row. -/
def display (part joined : String) : String :=
  if part = "past-part" then withPrefix "(ge)" joined
  else if part = WordEntry.glossPart then glossForm joined
  else joined

/-- Adds the forms of a part, unless there is nothing to show. -/
def add (row : Row) (part : String) (forms : List String) : Row :=
  let joined := "/".intercalate forms
  if joined.isEmpty then row else row.insert part (display part joined)

/-- Asks for parts in order and adds their forms to a row, up to the first part that fails. -/
def generateParts (i : Inventory) : List String → Row → Inflecting Row
  | [], row => return row
  | part :: rest, row => do generateParts i rest (row.add part (← i.ask part))

/-- The row of a headword, whose standard parts are asked for in one session. -/
def generate (i : Inventory) : Inflecting Row := generateParts i rowParts .empty

/-- Brings the gloss of a row into the form of an infinitive. -/
def normalize (row : Row) : Row :=
  match row.get? WordEntry.glossPart with
  | some gloss => row.insert WordEntry.glossPart (glossForm gloss)
  | none => row

end Row

end Paradigm
