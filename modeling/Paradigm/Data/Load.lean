import Paradigm.Data.Error
import Paradigm.Table.Build
import Paradigm.Unicode.Classes
import Paradigm.Yaml.Shape

/-!
# Loading data files

A data directory holds rules and word lists, and perhaps rules of single words and a table from
elsewhere. Where the files come from is a parameter: a way to read the text of a path.
-/

namespace Paradigm

/-- A way to read files: the text at a path, or why it cannot be read. -/
abbrev FileReader (m : Type → Type) := String → m (Except ReadFailure String)

namespace Data

/-! ## Texts -/

/-- The text has white space only. -/
def isBlank (text : String) : Bool := text.toList.all Unicode.isSpace

/-- Data from the text of a file; from a blank text comes empty data. -/
def ofText {α : Type} (empty : α) (ofYaml? : String → Option α) (path text : String) :
    Except DataError α :=
  if isBlank text then .ok empty
  else match ofYaml? text with
    | some data => .ok data
    | none => .error (.malformed path)

/-- Data from the answer of a reader. -/
def ofReading {α : Type} (empty : α) (ofYaml? : String → Option α) (path : String) :
    Except ReadFailure String → Except DataError α
  | .ok text => ofText empty ofYaml? path text
  | .error failure => .error (.unreadable path failure)

/-- Data of a file that may be left out. -/
def ofOptionalReading {α : Type} (empty : α) (ofYaml? : String → Option α) (path : String) :
    Except ReadFailure String → Except DataError α
  | .error .notFound => .ok empty
  | reading => ofReading empty ofYaml? path reading

/-! ## Paths -/

def join (directory file : String) : String :=
  if directory.isEmpty || directory.toList.getLast? == some '/' then directory ++ file
  else directory ++ "/" ++ file

def rulesFile : String := "rules.yaml"

def wordsFile : String := "words.yaml"

def explicitFile : String := "explicit.yaml"

def alternateFile : String := "wikidata.yaml"

end Data

/-! ## Loading -/

variable {m : Type → Type} [Monad m]

/-- The rules in a file, which must exist. -/
def Repository.load (read : FileReader m) (path : String) : m (Except DataError Repository) :=
  return Data.ofReading .empty Repository.ofYaml? path (← read path)

/-- The data of a directory; the first file that is faulty ends the search. -/
def TableSource.load (read : FileReader m) (directory : String) :
    ExceptT DataError m TableSource := do
  let path := Data.join directory
  let required {α : Type} (empty : α) (ofYaml? : String → Option α) (file : String) :
      ExceptT DataError m α := do
    let reading ← ExceptT.lift (read (path file))
    ExceptT.mk (pure (Data.ofReading empty ofYaml? (path file) reading))
  let optional {α : Type} (empty : α) (ofYaml? : String → Option α) (file : String) :
      ExceptT DataError m α := do
    let reading ← ExceptT.lift (read (path file))
    ExceptT.mk (pure (Data.ofOptionalReading empty ofYaml? (path file) reading))
  let rules ← required .empty Repository.ofYaml? Data.rulesFile
  let words ← required .empty WordLists.ofYaml? Data.wordsFile
  let explicit ← optional .empty Repository.ofYaml? Data.explicitFile
  let alternate ← optional .empty FormTable.ofYaml? Data.alternateFile
  return { rules, words, explicit, alternate }

/-- Loads the data of a directory and builds the table from it. -/
def loadTable (read : FileReader m) (directory : String) : m (Except TableError FormTable) := do
  match ← (TableSource.load read directory).run with
  | .error e => return .error (.data e)
  | .ok source => return buildTable source

end Paradigm
