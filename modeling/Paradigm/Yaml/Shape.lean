import Paradigm.Shape
import Paradigm.Yaml.Node
import Paradigm.Yaml.Scalar

/-!
# Rules, words and forms in YAML

The readers of YAML texts. Where a text is asked for, every scalar counts as its source text; rules
alone are told apart by what their scalars denote, so that in a rule only a scalar that denotes a
text is one. What is missing counts as an empty map or an empty list.
-/

namespace Paradigm

namespace Yaml

/-! ## Tags -/

/-- A tag of the document's own, which gives the node a type of its own. -/
def isOwnTag (tag : Option String) : Bool := tag.any (Text.hasPrefix "!")

def coreTag (name : String) : String := "tag:yaml.org,2002:" ++ name

/-- A tag that turns a scalar into something else than a text. -/
def isTypedTag (tag : String) : Bool := ["null", "bool", "int", "float"].any (coreTag · == tag)

namespace Document

variable (d : Document)

/-! ## Lists and maps -/

def text? (n : Node) : Option String :=
  match d.resolve? n with
  | some (.scalar _ text _) => some text
  | _ => none

/-- The items of a list; what is missing has none. -/
def items? (n : Node) : Option (List Node) :=
  match d.resolve? n with
  | some (.list _ items) => some items
  | some (.scalar _ "" true) => some []
  | _ => none

def entries? (n : Node) : Option (List (String × Node)) :=
  match d.resolve? n with
  | some (.map _ entries) => entries.mapM fun e => (d.text? e.1).map (·, e.2)
  | some (.scalar _ "" true) => some []
  | _ => none

def list? {α : Type} (read : Node → Option α) (n : Node) : Option (List α) :=
  (d.items? n).bind (List.mapM read)

/-- A map of values; the last of several values of a key counts. -/
def map? {α : Type} (read : Node → Option α) (n : Node) : Option (SortedMap α) :=
  (d.entries? n).bind fun entries =>
    (entries.mapM fun e => (read e.2).map (e.1, ·)).map .ofList

/-! ## Rules -/

/-- What a scalar denotes; nothing that is read here has a scalar of another type in it. -/
def scalarValue? (tag : Option String) (text : String) (plain : Bool) : Option Value :=
  match tag with
  | some tag => if isOwnTag (some tag) || isTypedTag tag then none else some (.text text)
  | none =>
    if plain then
      match Scalar.kind text with
      | .null => some .null
      | .bool b => some (.bool b)
      | .number => some (.number text)
      | .text => some (.text text)
    else some (.text text)

def textEntry? : Option Value → Option Value → Option (String × Value)
  | some (.text key), some value => some (key, value)
  | _, _ => none

/-- The data that a node stands for, up to a depth. -/
def value? : (depth : Nat) → Node → Option Value
  | 0, _ => none
  | depth + 1, n =>
    match d.resolve? n with
    | some (.scalar tag text plain) => scalarValue? tag text plain
    | some (.list tag items) =>
      if isOwnTag tag then none else (items.mapM (value? depth)).map .list
    | some (.map tag entries) =>
      if isOwnTag tag then none
      else
        (entries.mapM fun e => textEntry? (value? depth e.1) (value? depth e.2)).map .map
    | _ => none

/-- Rules have three levels: a list, its maps and their texts. -/
def ruleDepth : Nat := 3

def rule? (n : Node) : Option RuleSpec :=
  (d.value? ruleDepth n).bind fun v => (RuleSpec.ofValue v).toOption

def entry? (n : Node) : Option Entry :=
  (d.value? ruleDepth n).bind fun v => (Entry.ofValue v).toOption

def rewrite? (n : Node) : Option RewriteSpec :=
  (d.map? d.text? n).bind fun fields => (RewriteSpec.ofFields fields).toOption

/-! ## Categories -/

/-- The parent of a category; nothing, or the null of YAML, is none. -/
def parent? (n : Node) : Option (Option String) :=
  match d.resolve? n with
  | some (.scalar tag text true) =>
    match tag with
    | none => some (if text.isEmpty || Scalar.isNull text then none else some text)
    | some tag =>
      if tag == coreTag "null" then
        if Scalar.isNull text then some none else none
      else some (some text)
  | some (.scalar _ text false) => some (some text)
  | _ => none

/-- Reads the fields of a category: neither may be given twice, and others are passed over. -/
def categoryFields? : List (String × Node) → (parent : Option (Option String)) →
    (rules : Option (SortedMap Entry)) → Option CategorySpec
  | [], parent, rules => some ⟨parent.getD none, rules.getD .empty⟩
  | (key, value) :: rest, parent, rules =>
    if key = "inherit" then
      match parent, d.parent? value with
      | none, some read => categoryFields? rest (some read) rules
      | _, _ => none
    else if key = "rules" then
      match rules, d.map? d.entry? value with
      | none, some read => categoryFields? rest parent (some read)
      | _, _ => none
    else categoryFields? rest parent rules

/-- A category, whose fields may come in any order. -/
def category? (n : Node) : Option CategorySpec :=
  (d.entries? n).bind fun fields => d.categoryFields? fields none none

end Document

/-- Reads the root of the document in a text. -/
def read? {α : Type} (read : Document → Node → Option α) (text : String) : Option α :=
  (Document.ofText? text).bind fun d => read d d.root

end Yaml

/-! ## Readers -/

def RewriteSpec.ofYaml? : String → Option RewriteSpec := Yaml.read? Yaml.Document.rewrite?

def RuleSpec.ofYaml? : String → Option RuleSpec := Yaml.read? Yaml.Document.rule?

def Entry.ofYaml? : String → Option Entry := Yaml.read? Yaml.Document.entry?

def CategorySpec.ofYaml? : String → Option CategorySpec := Yaml.read? Yaml.Document.category?

def Repository.ofYaml? : String → Option Repository :=
  Yaml.read? fun d => d.map? d.category?

def WordLists.ofYaml? : String → Option WordLists :=
  Yaml.read? fun d => d.map? (d.list? d.text?)

def FormTable.ofYaml? : String → Option FormTable :=
  Yaml.read? fun d => d.map? (d.map? d.text?)

end Paradigm
