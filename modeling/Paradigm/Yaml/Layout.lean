import Paradigm.Shape
import Paradigm.Yaml.Scalar
import Paradigm.Yaml.Token

/-!
# Tables laid out as YAML

A table is written in blocks, a line for each form. A text stands as it is where it would be read
back as the same text, and else in quotes; a text of several lines is written line by line.
-/

namespace Paradigm.Yaml.Layout

/-! ## Styles -/

inductive Style where
  | plain
  | singleQuoted
  | doubleQuoted
  | literal
deriving DecidableEq

def isPrintable (c : Char) : Bool :=
  c == '\n' || (' ' ≤ c && c ≤ '~')
    || ('\u00A0' ≤ c && c != byteOrderMark && c != '\uFFFE' && c != '\uFFFF')

/-- Words that are truth values to some readers. -/
def isBooleanWord (text : String) : Bool :=
  ["y", "Y", "yes", "Yes", "YES", "n", "N", "no", "No", "NO", "true", "True", "TRUE",
    "false", "False", "FALSE", "on", "On", "ON", "off", "Off", "OFF"].contains text

/-- The text would be read as something else than itself. -/
def isAmbiguous (text : String) : Bool :=
  isBooleanWord text || Scalar.kind text != .text || Scalar.hasLeadingZero text.toList

def isEdge (c : Char) : Bool := c == ' ' || isBreak c

/-- Somewhere a character of the first kind is followed by one of the second kind. -/
def hasPair (first second : Char → Bool) : List Char → Bool
  | c :: d :: rest => (first c && second d) || hasPair first second (d :: rest)
  | _ => false

def startsLikeMark : List Char → Bool
  | '-' :: '-' :: '-' :: _ => true
  | '.' :: '.' :: '.' :: _ => true
  | c :: rest =>
    "#,[]\x7b\x7d&*!|>'\"%@\x60".toList.contains c
      || ("?:-".toList.contains c && isBlankOrEnd rest.head?)
  | [] => false

/-- A colon before a blank or at the end, or a number sign after a blank. -/
def hasMark : List Char → Bool
  | c :: rest =>
    (c == ':' && isBlankOrEnd rest.head?)
      || (isBlankOrEnd (some c) && rest.head? == some '#')
      || hasMark rest
  | [] => false

def fitsPlain (text : List Char) : Bool :=
  text.all (fun c => isPrintable c && !isBreak c)
    && !text.head?.any isEdge && !text.getLast?.any isEdge
    && !startsLikeMark text && !hasMark text

def fitsSingleQuotes (text : List Char) : Bool :=
  text.all isPrintable && !hasPair isBreak (· == ' ') text && !hasPair (· == ' ') isBreak text

def fitsLiteral (text : List Char) : Bool :=
  text.all isPrintable && text.getLast? != some ' ' && !hasPair (· == ' ') isBreak text

def quoted (text : List Char) : Style :=
  if fitsSingleQuotes text then .singleQuoted else .doubleQuoted

/-- The style that a text is written in. -/
def styleOf (text : String) : Style :=
  let cs := text.toList
  if cs.contains '\n' then if fitsLiteral cs then .literal else .doubleQuoted
  else if isAmbiguous text || !fitsPlain cs then quoted cs
  else .plain

/-! ## Scalars -/

def blanks (n : Nat) : List Char := List.replicate n ' '

def hexDigits (width n : Nat) : List Char :=
  let digits := (Nat.toDigits 16 n).map Char.toUpper
  List.replicate (width - digits.length) '0' ++ digits

def escapeLetter? : Char → Option Char
  | '\x00' => some '0'
  | '\x07' => some 'a'
  | '\x08' => some 'b'
  | '\t' => some 't'
  | '\n' => some 'n'
  | '\x0B' => some 'v'
  | '\x0C' => some 'f'
  | '\r' => some 'r'
  | '\x1B' => some 'e'
  | '"' => some '"'
  | '\\' => some '\\'
  | '\u0085' => some 'N'
  | '\u00A0' => some '_'
  | '\u2028' => some 'L'
  | '\u2029' => some 'P'
  | _ => none

def escaped (c : Char) : List Char :=
  if isPrintable c && !isBreak c && c != '"' && c != '\\' then [c]
  else match escapeLetter? c with
    | some letter => ['\\', letter]
    | none =>
      let n := c.toNat
      if n ≤ 0xFF then '\\' :: 'x' :: hexDigits 2 n
      else if n ≤ 0xFFFF then '\\' :: 'u' :: hexDigits 4 n
      else '\\' :: 'U' :: hexDigits 8 n

/-- Lines indented: blanks go before each line that is not empty. -/
def indentLines (indent : Nat) : (atStart : Bool) → List Char → List Char
  | _, [] => []
  | atStart, c :: rest =>
    if isBreak c then c :: indentLines indent true rest
    else (if atStart then blanks indent else []) ++ c :: indentLines indent false rest

/-- The text between single quotes; a quote is written twice. -/
def singleQuotedText (indent : Nat) (text : List Char) : List Char :=
  indentLines indent false (text.flatMap fun c => if c = '\'' then ['\'', '\''] else [c])
    ++ if text.getLast?.any isBreak then blanks indent else []

/-- What stands after the bar: a two if the first line begins with a blank or is empty, and what to
do with the breaks at the end. -/
def literalHeader (text : List Char) : List Char :=
  let start := if text.head?.any isEdge then ['2'] else []
  let stop :=
    match text.reverse with
    | c :: rest =>
      if !isBreak c then ['-'] else if rest.head?.all isBreak then ['+'] else []
    | [] => ['-']
  '|' :: start ++ stop

/-- A text in its style, the lines after the first indented. -/
def scalar (indent : Nat) (text : String) : List Char :=
  let cs := text.toList
  match styleOf text with
  | .plain => cs
  | .singleQuoted => '\'' :: singleQuotedText indent cs ++ ['\'']
  | .doubleQuoted => '"' :: cs.flatMap escaped ++ ['"']
  | .literal => literalHeader cs ++ '\n' :: indentLines indent true cs

/-- A scalar with the end of its line, unless it brings that along. -/
def scalarLine (indent : Nat) (text : String) : List Char :=
  let ended := styleOf text == .literal && text.toList.getLast?.any isBreak
  scalar indent text ++ if ended then [] else ['\n']

/-! ## Maps -/

def isSimpleKey (key : String) : Bool := key.utf8ByteSize ≤ 128 && !key.toList.any isBreak

def key (indent : Nat) (text : String) : List Char :=
  blanks indent ++
    (if isSimpleKey text then scalar (indent + 2) text
    else '?' :: ' ' :: scalarLine (indent + 2) text ++ blanks indent) ++ [':']

def formLine (indent : Nat) (entry : String × String) : List Char :=
  key indent entry.1 ++ ' ' :: scalarLine (indent + 2) entry.2

/-- A word and its row. After a long key the colon takes the place of the first blank of the row. -/
def wordLines (entry : String × Row) : List Char :=
  key 0 entry.1 ++
    if entry.2.isEmpty then " \x7b\x7d\n".toList
    else
      let rows := entry.2.entries.flatMap (formLine 2)
      if isSimpleKey entry.1 then '\n' :: rows else rows.drop 1

end Paradigm.Yaml.Layout

namespace Paradigm

/-- The text of a table. -/
def FormTable.toYaml (table : FormTable) : String :=
  if table.isEmpty then "\x7b\x7d\n"
  else String.ofList (table.entries.flatMap Yaml.Layout.wordLines)

end Paradigm
