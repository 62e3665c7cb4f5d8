import Paradigm.Unicode.Age
import Paradigm.Unicode.Classes
import Paradigm.Unicode.Script
import Paradigm.Unicode.ScriptExtension
import Paradigm.Unicode.Segmentation

/-!
# Property queries

A query names a property, a general category or a script, or asks for one value of a property.
Names are compared loosely: case, spaces, hyphens, underscores and a leading `is` do not count.
-/

namespace Paradigm.Unicode

inductive Missing where
  | property
  | value
deriving DecidableEq

/-! ## Loose names -/

/-- Drops what does not count in a name. -/
def squeeze (name : List Char) : List Char :=
  (name.filter fun c => c.toNat < 128 && c != ' ' && c != '_' && c != '-').map Char.toLower

def looseName (name : List Char) : String :=
  match name with
  | i :: s :: tail =>
    if i.toLower = 'i' ∧ s.toLower = 's' then
      let tail := squeeze tail
      if tail = ['c'] then "isc" else String.ofList tail
    else String.ofList (squeeze name)
  | _ => String.ofList (squeeze name)

/-! ## General categories and scripts -/

def assigned : CharSet := .unions (generalCategories.map fun row => CharSet.ofText row.text)

/-- The categories that are unions of others, with their names. -/
def categoryGroups : List (List String × List String) := [
  (["lc", "casedletter"], ["lu", "ll", "lt"]),
  (["l", "letter"], ["lu", "ll", "lt", "lm", "lo"]),
  (["m", "mark", "combiningmark"], ["mn", "mc", "me"]),
  (["n", "number"], ["nd", "nl", "no"]),
  (["p", "punctuation", "punct"], ["pc", "pd", "ps", "pe", "pi", "pf", "po"]),
  (["s", "symbol"], ["sm", "sc", "sk", "so"]),
  (["z", "separator"], ["zs", "zl", "zp"])]

/-- The general category of a name; surrogates are known by name but are no characters. -/
def generalCategory? (name : String) : Option (Except Missing CharSet) :=
  match find? generalCategories name, categoryGroups.find? (·.1.contains name) with
  | some set, _ => some (.ok set)
  | none, some group => some (.ok (categories group.2))
  | none, none =>
    if name = "any" then some (.ok .univ)
    else if name = "ascii" then some (.ok (.interval 0 127))
    else if name = "assigned" then some (.ok assigned)
    else if name = "cn" ∨ name = "unassigned" then some (.ok assigned.compl)
    else if name = "c" ∨ name = "other" then
      some (.ok (assigned.compl.union (categories ["cc", "cf", "co"])))
    else if name = "cs" ∨ name = "surrogate" then some (.error .value)
    else none

def script? (name : String) : Option (Except Missing CharSet) :=
  match find? scripts name with
  | some set => some (.ok set)
  | none =>
    if ["zzzz", "unknown", "hrkt", "katakanaorhiragana"].contains name then some (.error .value)
    else none

/-- The characters used with a script, by any of the script's names. -/
def scriptExtension? (name : String) : Option CharSet :=
  (scripts.find? (·.names.contains name)).map fun row =>
    let code := row.names.headD ""
    let gained := (find? sharedIntoScript code).getD .empty
    let lost := (find? sharedOutOfScript code).getD .empty
    ((CharSet.ofText row.text).union gained).diff lost

/-! ## Binary properties -/

def identifierStart : CharSet :=
  (CharSet.unions [categories ["lu", "ll", "lt", "lm", "lo", "nl"], rest "otheridstart"]).diff
    ((listed "patternsyntax").union (listed "patternwhitespace"))

def identifierContinue : CharSet :=
  .unions [identifierStart, categories ["mn", "mc", "nd", "pc"], rest "otheridcontinue"]

def graphemeExtend : CharSet := (categories ["mn", "me"]).union (rest "othergraphemeextend")

/-- Properties derived from general categories. -/
def derivedProperty? (name : String) : Option CharSet :=
  if name = "alphabetic" ∨ name = "alpha" then some alphabetic
  else if name = "lowercase" ∨ name = "lower" then some lowercase
  else if name = "uppercase" ∨ name = "upper" then some uppercase
  else if name = "cased" then some (.unions [lowercase, uppercase, category "lt"])
  else if name = "caseignorable" ∨ name = "ci" then
    some ((categories ["mn", "me", "cf", "lm", "sk"]).union (rest "caseignorablerest"))
  else if name = "math" then some ((category "sm").union (rest "othermath"))
  else if name = "idstart" ∨ name = "ids" then some identifierStart
  else if name = "idcontinue" ∨ name = "idc" then some identifierContinue
  else if name = "xidstart" ∨ name = "xids" then
    some (identifierStart.diff (rest "xidstartexclusion"))
  else if name = "xidcontinue" ∨ name = "xidc" then
    some (identifierContinue.diff (rest "xidcontinueexclusion"))
  else if name = "graphemeextend" ∨ name = "grext" then some graphemeExtend
  else if name = "graphemebase" ∨ name = "grbase" then
    some (assigned.diff (.unions [categories ["cc", "cf", "co", "zl", "zp"], graphemeExtend]))
  else none

def binaryProperty? (name : String) : Option CharSet :=
  match derivedProperty? name with
  | some set => some set
  | none => find? listedProperties name

/-! ## Queries -/

/-- The characters of a property, a general category or a script. -/
def query (name : List Char) : Except Missing CharSet :=
  let name := looseName name
  let plain := if ["cf", "sc", "lc"].contains name then none else binaryProperty? name
  match plain with
  | some set => .ok set
  | none =>
    match generalCategory? name with
    | some answer => answer
    | none => (script? name).getD (.error .property)

def assignedBy? (version : String) : Option CharSet :=
  if ages.any (·.names.contains version) then
    let newer := (ages.dropWhile fun row => !row.names.contains version).drop 1
    let older := ages.take (ages.length - newer.length)
    some (.unions (older.map fun row => CharSet.ofText row.text))
  else none

/-- The characters that have a value of a property. -/
def queryValue (property value : List Char) : Except Missing CharSet :=
  let property := looseName property
  let value := looseName value
  let orMissing : Option CharSet → Except Missing CharSet
    | some set => .ok set
    | none => .error .value
  if property = "gc" ∨ property = "generalcategory" then
    (generalCategory? value).getD (.error .value)
  else if property = "sc" ∨ property = "script" then (script? value).getD (.error .value)
  else if property = "scx" ∨ property = "scriptextensions" then
    orMissing (scriptExtension? value)
  else if property = "age" then orMissing (assignedBy? value)
  else if property = "gcb" ∨ property = "graphemeclusterbreak" then
    orMissing (find? graphemeBreaks value)
  else if property = "wb" ∨ property = "wordbreak" then orMissing (find? wordBreaks value)
  else if property = "sb" ∨ property = "sentencebreak" then orMissing (find? sentenceBreaks value)
  else if (binaryProperty? property).isSome
      ∧ ¬ ["y", "yes", "t", "true", "n", "no", "f", "false"].contains value then
    .error .value
  else .error .property

end Paradigm.Unicode
