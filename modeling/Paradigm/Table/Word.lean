import Paradigm.Text

/-!
# Lines of word lists

A line holds the spellings of a word, with slashes between them, and after a comma and a space the
gloss, if there is one.
-/

namespace Paradigm

/-- A line that has been read: at least one spelling, and a gloss if the line has one. -/
structure WordEntry where
  spellings : List String
  gloss : Option String
deriving DecidableEq

namespace WordEntry

def headwordPart : String := "plain-inf"

def glossPart : String := "mod-e"

/-- Cuts a line before the first comma, where a gloss follows: the comma is not the first
character, a space follows it, and the rest of the line is not empty and on one line. -/
def splitGloss? (line : List Char) : Option (List Char × List Char) :=
  let head := line.takeWhile (· != ',')
  match line.dropWhile (· != ',') with
  | ',' :: ' ' :: gloss =>
    if head.isEmpty || gloss.isEmpty || gloss.contains '\n' then none else some (head, gloss)
  | _ => none

def spellingsOf (text : List Char) : List String :=
  (Text.splitOn '/' text).map String.ofList

/-- Reads a line. Every line can be read. -/
def parse (line : String) : WordEntry :=
  match splitGloss? line.toList with
  | some (head, gloss) => ⟨spellingsOf head, some (String.ofList gloss)⟩
  | none => ⟨spellingsOf line.toList, none⟩

/-- The parts that are given for a spelling: the spelling itself, and the gloss. -/
def seeds (entry : WordEntry) (spelling : String) : List (String × String) :=
  (headwordPart, spelling) :: (entry.gloss.map fun gloss => (glossPart, gloss)).toList

end WordEntry

end Paradigm
