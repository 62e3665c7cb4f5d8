import Paradigm.Table.Error
import Paradigm.Table.Row

/-!
# Tables of forms

The rule-based table has a row for every spelling of every listed word, and for every word that
has rules of its own. Merging lays it under a table from elsewhere; both must agree on every part
but the gloss.
-/

namespace Paradigm

/-! ## The rule-based table -/

/-- The category that holds the rules of a word with rules of its own. -/
def explicitCategory (word : String) : String := "explicit-" ++ word

/-- The repository with a category for each word that has rules of its own. -/
def withExplicit (rules explicit : Repository) : Repository :=
  rules.insertMany (explicit.entries.map fun e => (explicitCategory e.1, e.2))

/-- Categories and their lines in the order in which they are worked off. -/
def workList (words : WordLists) (explicit : Repository) : List (String × String) :=
  (words.entries.flatMap fun e => e.2.map fun line => (e.1, line))
    ++ explicit.keys.map fun word => (explicitCategory word, word)

/-- A spelling that a row is to be made for, with its category and the line it stands in. -/
structure Task where
  category : String
  entry : WordEntry
  spelling : String

/-- The spellings of the lines, line by line. -/
def tasks (work : List (String × String)) : List Task :=
  work.flatMap fun (category, line) =>
    let entry := WordEntry.parse line
    entry.spellings.map fun spelling => ⟨category, entry, spelling⟩

/-- The row of a spelling, generated by itself. -/
def Task.row (grammar : Grammar) (t : Task) : Except Halt Row :=
  match Inflector.create grammar t.category (t.entry.seeds t.spelling) with
  | .error e => .error (.failed e)
  | .ok f => (f.perform Row.generate).1

def Task.failure (t : Task) : Halt → TableError
  | .failed e => .generation t.spelling e
  | .outOfFuel => .outOfFuel t.spelling

/-- Adds the rows of tasks to a table; a later row of a spelling replaces an earlier one. -/
def addRows (grammar : Grammar) : List Task → FormTable → Except TableError FormTable
  | [], table => .ok table
  | t :: rest, table =>
    match t.row grammar with
    | .error halt => .error (t.failure halt)
    | .ok row => addRows grammar rest (table.insert t.spelling row)

/-- The table of the listed words and of those that have rules of their own. Fails at the first
category that does not compile, and else at the first row that cannot be generated. -/
def buildRuleBased (rules : Repository) (words : WordLists) (explicit : Repository) :
    Except TableError FormTable :=
  match Grammar.compile (withExplicit rules explicit) with
  | .error e => .error (.rules e)
  | .ok grammar => addRows grammar (tasks (workList words explicit)) .empty

/-! ## Merging -/

/-- The first part of an existing row that a generated row lacks or shows differently. -/
def existingConflict? (word : String) (generated : Row) : List (String × String) → Option TableError
  | [] => none
  | (part, form) :: rest =>
    if part = WordEntry.glossPart then existingConflict? word generated rest
    else match generated.get? part with
      | none => some (.missingForm word part .existing)
      | some other =>
        if other = form then existingConflict? word generated rest
        else some (.formMismatch word part form other)

/-- The conflict between two rows of a word; the existing row is looked through first. -/
def conflict? (word : String) (existing generated : Row) : Option TableError :=
  match existingConflict? word generated existing.entries with
  | some e => some e
  | none =>
    (generated.keys.find? fun part =>
      part != WordEntry.glossPart && !existing.contains part).map fun part =>
        .missingForm word part .generated

/-- Lays rows under a table: a word that the table lacks is added, and one that it has must agree
with the row. Stops at the first conflict, with the table as it is then. -/
def mergeRows (base : FormTable) : List (String × Row) → FormTable × Option TableError
  | [] => (base, none)
  | (word, row) :: rest =>
    match base.get? word with
    | none => mergeRows (base.insert word row) rest
    | some existing =>
      match conflict? word existing row with
      | some e => (base, some e)
      | none => mergeRows base rest

/-- Merges a generated table into a base, which also shows what a failed merge has done. -/
def mergeForms (base generated : FormTable) : FormTable × Option TableError :=
  mergeRows base generated.entries

/-- The merged table, if the two agree. -/
def merge? (base generated : FormTable) : Except TableError FormTable :=
  match mergeForms base generated with
  | (table, none) => .ok table
  | (_, some e) => .error e

/-- Brings the glosses of a table from elsewhere into the form of infinitives. -/
def normalizeGlosses (table : FormTable) : FormTable := table.map Row.normalize

/-- What a table is built from: rules, words, rules of single words, and a table from elsewhere. -/
structure TableSource where
  rules : Repository := .empty
  words : WordLists := .empty
  explicit : Repository := .empty
  alternate : FormTable := .empty

/-- The table from elsewhere with the rule-based table merged into it. -/
def buildTable (source : TableSource) : Except TableError FormTable :=
  match buildRuleBased source.rules source.words source.explicit with
  | .error e => .error e
  | .ok generated => merge? (normalizeGlosses source.alternate) generated

end Paradigm
