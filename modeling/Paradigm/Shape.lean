import Paradigm.Rule

/-!
# Rules as data

The shapes in which rules, word lists and tables of forms are written down as nested lists and
maps: a rule is a text, or a map with exactly the keys `from`, `match` and `value`; the rules of a
part are a rule or a list of rules. `RuleSpec.toValue` and its like write what the readers accept.
-/

namespace Paradigm

/-- Data as nested lists and maps, whose ends are texts, numbers, booleans and `null`. -/
inductive Value where
  | null
  | bool (b : Bool)
  | number (text : String)
  | text (s : String)
  | list (items : List Value)
  | map (entries : List (String × Value))
deriving Inhabited

inductive ShapeError where
  | missingKey (key : String)
  | unknownKey (key : String)
  | noRule
  | noEntry
  | wrongKind
deriving DecidableEq

/-- The text of an error that has one of its own. -/
def ShapeError.message? : ShapeError → Option String
  | .missingKey key => some ("substitution rule is missing \x60" ++ key ++ "\x60")
  | .unknownKey key => some ("unknown key \x60" ++ key ++ "\x60 in substitution rule")
  | .noRule => some "data did not match any variant of untagged enum RuleSpec"
  | .noEntry => some "data did not match any variant of untagged enum RuleEntry"
  | .wrongKind => none

abbrev Shaped (α : Type) := Except ShapeError α

/-! ## Maps and lists -/

def Value.text? : Value → Shaped String
  | .text s => .ok s
  | _ => .error .wrongKind

/-- Reads every value of a map; the last of several values of a key counts. -/
def readValues {α : Type} (read : Value → Shaped α) :
    List (String × Value) → Shaped (List (String × α))
  | [] => .ok []
  | (key, value) :: rest =>
    match read value with
    | .error e => .error e
    | .ok a => (readValues read rest).map ((key, a) :: ·)

/-- Reads a map whose values have one shape. -/
def readMap {α : Type} (read : Value → Shaped α) : Value → Shaped (SortedMap α)
  | .map entries => (readValues read entries).map .ofList
  | _ => .error .wrongKind

def readItems {α : Type} (read : Value → Shaped α) : List Value → Shaped (List α)
  | [] => .ok []
  | value :: rest =>
    match read value with
    | .error e => .error e
    | .ok a => (readItems read rest).map (a :: ·)

def readList {α : Type} (read : Value → Shaped α) : Value → Shaped (List α)
  | .list items => readItems read items
  | _ => .error .wrongKind

/-! ## Rules -/

/-- A rewriting rule from its fields: none of the three may be missing and none may be added. -/
def RewriteSpec.ofFields (fields : SortedMap String) : Shaped RewriteSpec :=
  match fields.get? "from", fields.get? "match", fields.get? "value" with
  | none, _, _ => .error (.missingKey "from")
  | _, none, _ => .error (.missingKey "match")
  | _, _, none => .error (.missingKey "value")
  | some source, some pattern, some replacement =>
    match fields.keys.find? fun key => !(["from", "match", "value"].contains key) with
    | some key => .error (.unknownKey key)
    | none => .ok ⟨source, pattern, replacement⟩

def RewriteSpec.ofValue (v : Value) : Shaped RewriteSpec :=
  match readMap Value.text? v with
  | .error e => .error e
  | .ok fields => RewriteSpec.ofFields fields

/-- A text is a template; anything else has to be a rewriting rule. -/
def RuleSpec.ofValue : Value → Shaped RuleSpec
  | .text s => .ok (.template s)
  | v =>
    match RewriteSpec.ofValue v with
    | .ok spec => .ok (.rewrite spec)
    | .error _ => .error .noRule

/-- A list is a list of rules; anything else has to be a rule. -/
def Entry.ofValue : Value → Shaped Entry
  | .list items =>
    match readItems RuleSpec.ofValue items with
    | .ok rules => .ok (.many rules)
    | .error _ => .error .noEntry
  | v =>
    match RuleSpec.ofValue v with
    | .ok rule => .ok (.one rule)
    | .error _ => .error .noEntry

/-! ## Categories -/

/-- The parent of a category; `null` is none. -/
def readParent : Value → Shaped (Option String)
  | .null => .ok none
  | v => (Value.text? v).map some

/-- Reads the fields of a category in their order; unknown ones are passed over. -/
def CategorySpec.ofFields : List (String × Value) → CategorySpec → Shaped CategorySpec
  | [], c => .ok c
  | (key, value) :: rest, c =>
    if key = "inherit" then
      match readParent value with
      | .error e => .error e
      | .ok parent => CategorySpec.ofFields rest { c with parent }
    else if key = "rules" then
      match readMap Entry.ofValue value with
      | .error e => .error e
      | .ok rules => CategorySpec.ofFields rest { c with rules }
    else CategorySpec.ofFields rest c

/-- A category without the names of its fields: its parent and then its rules, as far as they are
there. -/
def CategorySpec.ofItems : List Value → Shaped CategorySpec
  | [] => .ok {}
  | [parent] => (readParent parent).map fun parent => { parent }
  | parent :: rules :: rest =>
    match readParent parent, readMap Entry.ofValue rules with
    | .error e, _ => .error e
    | _, .error e => .error e
    | .ok parent, .ok rules => if rest.isEmpty then .ok { parent, rules } else .error .wrongKind

/-- A category from its named fields, or from a list of them. -/
def CategorySpec.ofValue : Value → Shaped CategorySpec
  | .map fields => CategorySpec.ofFields fields {}
  | .list items => CategorySpec.ofItems items
  | _ => .error .wrongKind

/-- A repository from a map of categories. -/
def Repository.ofValue : Value → Shaped Repository := readMap CategorySpec.ofValue

/-! ## Words and forms -/

/-- The lines of each category's word list. -/
abbrev WordLists := SortedMap (List String)

/-- The forms of one word, by part; each text may hold several forms. -/
abbrev Row := SortedMap String

/-- Rows by word. -/
abbrev FormTable := SortedMap Row

def WordLists.ofValue : Value → Shaped WordLists := readMap (readList Value.text?)

def FormTable.ofValue : Value → Shaped FormTable := readMap (readMap Value.text?)

/-! ## Writing -/

def RewriteSpec.toValue (spec : RewriteSpec) : Value :=
  .map [("from", .text spec.source), ("match", .text spec.pattern),
    ("value", .text spec.replacement)]

def RuleSpec.toValue : RuleSpec → Value
  | .template s => .text s
  | .rewrite spec => spec.toValue

def Entry.toValue : Entry → Value
  | .one rule => rule.toValue
  | .many rules => .list (rules.map RuleSpec.toValue)

def CategorySpec.toValue (c : CategorySpec) : Value :=
  .map [("inherit", (c.parent.map Value.text).getD .null),
    ("rules", .map (c.rules.entries.map fun e => (e.1, e.2.toValue)))]

/-- A repository as a map of its categories. -/
def Repository.toValue (r : Repository) : Value :=
  .map (r.entries.map fun e => (e.1, e.2.toValue))

end Paradigm
