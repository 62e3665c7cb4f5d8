/-!
# Errors in a pattern

A fault names its cause and the part of the pattern it is found in. `Error.reason` is the cause in
words; `Error.report` also shows the pattern with the place marked under it.
-/

namespace Paradigm.Regex

/-- The characters of a pattern from index `first` up to, not including, index `last`. -/
structure Span where
  first : Nat
  last : Nat
deriving DecidableEq

/-- What can be wrong with a pattern. -/
inductive Cause where
  | classEscapeInvalid
  | classRangeInvalid
  | classRangeLiteral
  | classUnclosed
  | decimalInvalid
  | escapeHexEmpty
  | escapeHexInvalid
  | escapeHexInvalidDigit
  | escapeUnexpectedEnd
  | escapeUnrecognized
  | flagDanglingNegation
  | flagDuplicate
  | flagRepeatedNegation
  | flagUnexpectedEnd
  | flagUnrecognized
  | groupNameDuplicate
  | groupNameEmpty
  | groupNameInvalid
  | groupNameUnexpectedEnd
  | groupUnclosed
  | groupUnopened
  | nestingTooDeep (limit : Nat)
  | repetitionCountInvalid
  | repetitionCountEmpty
  | repetitionCountUnclosed
  | repetitionMissing
  | wordBoundaryUnclosed
  | wordBoundaryUnrecognized
  | wordBoundaryUnexpectedEnd
  | unicodeClassInvalid
  | backreference
  | lookAround
  | unicodeNotAllowed
  | invalidBytes
  | propertyNotFound
  | propertyValueNotFound
deriving DecidableEq

def Cause.message : Cause → String
  | .classEscapeInvalid => "invalid escape sequence found in character class"
  | .classRangeInvalid => "invalid character class range, the start must be <= the end"
  | .classRangeLiteral => "invalid range boundary, must be a literal"
  | .classUnclosed => "unclosed character class"
  | .decimalInvalid => "decimal literal invalid"
  | .escapeHexEmpty => "hexadecimal literal empty"
  | .escapeHexInvalid => "hexadecimal literal is not a Unicode scalar value"
  | .escapeHexInvalidDigit => "invalid hexadecimal digit"
  | .escapeUnexpectedEnd => "incomplete escape sequence, reached end of pattern prematurely"
  | .escapeUnrecognized => "unrecognized escape sequence"
  | .flagDanglingNegation => "dangling flag negation operator"
  | .flagDuplicate => "duplicate flag"
  | .flagRepeatedNegation => "flag negation operator repeated"
  | .flagUnexpectedEnd => "expected flag but got end of regex"
  | .flagUnrecognized => "unrecognized flag"
  | .groupNameDuplicate => "duplicate capture group name"
  | .groupNameEmpty => "empty capture group name"
  | .groupNameInvalid => "invalid capture group character"
  | .groupNameUnexpectedEnd => "unclosed capture group name"
  | .groupUnclosed => "unclosed group"
  | .groupUnopened => "unopened group"
  | .nestingTooDeep limit =>
    s!"exceed the maximum number of nested parentheses/brackets ({limit})"
  | .repetitionCountInvalid =>
    "invalid repetition count range, the start must be <= the end"
  | .repetitionCountEmpty => "repetition quantifier expects a valid decimal"
  | .repetitionCountUnclosed => "unclosed counted repetition"
  | .repetitionMissing => "repetition operator missing expression"
  | .wordBoundaryUnclosed =>
    "special word boundary assertion is either unclosed or contains an invalid character"
  | .wordBoundaryUnrecognized =>
    "unrecognized special word boundary assertion, "
      ++ "valid choices are: start, end, start-half or end-half"
  | .wordBoundaryUnexpectedEnd =>
    "found either the beginning of a special word boundary or a bounded repetition on a \\b "
      ++ "with an opening brace, but no closing brace"
  | .unicodeClassInvalid => "invalid Unicode character class"
  | .backreference => "backreferences are not supported"
  | .lookAround => "look-around, including look-ahead and look-behind, is not supported"
  | .unicodeNotAllowed => "Unicode not allowed here"
  | .invalidBytes => "pattern can match invalid UTF-8"
  | .propertyNotFound => "Unicode property not found"
  | .propertyValueNotFound => "Unicode property value not found"

/-- A fault in a pattern. `earlier` is the place of the first of two things that must differ. -/
structure Error where
  pattern : List Char
  cause : Cause
  span : Span
  earlier : Option Span := none
deriving DecidableEq

def Error.reason (e : Error) : String := e.cause.message

/-! ## Lines and columns -/

structure Place where
  line : Nat
  column : Nat
deriving DecidableEq

def placeAt : List Char → Nat → Place → Place
  | [], _, p => p
  | _, 0, p => p
  | c :: rest, n + 1, p =>
    placeAt rest n (if c = '\n' then ⟨p.line + 1, 1⟩ else ⟨p.line, p.column + 1⟩)

def dropCarriage (line : List Char) : List Char :=
  match line.reverse with
  | '\r' :: rest => rest.reverse
  | _ => line

/-- Lines without their ends; an end of line at the very end opens no further line. -/
def linesOf (current : List Char) : List Char → List (List Char)
  | [] => if current.isEmpty then [] else [current.reverse]
  | c :: rest =>
    if c = '\n' then dropCarriage current.reverse :: linesOf [] rest
    else linesOf (c :: current) rest

/-- A span by the places of its ends. -/
structure Extent where
  start : Place
  stop : Place
deriving DecidableEq

def Place.before (a b : Place) : Bool :=
  a.line < b.line || (a.line == b.line && a.column < b.column)

def Extent.atMost (a b : Extent) : Bool :=
  a.start.before b.start || (a.start == b.start && !b.stop.before a.stop)

def Error.extents (e : Error) : List Extent :=
  let extent (s : Span) : Extent :=
    ⟨placeAt e.pattern s.first ⟨1, 1⟩, placeAt e.pattern s.last ⟨1, 1⟩⟩
  match e.earlier with
  | none => [extent e.span]
  | some s =>
    let a := extent e.span
    let b := extent s
    if a.atMost b then [a, b] else [b, a]

/-! ## The report -/

/-- Carets under the given extents of one line; `column` counts what stands there already. -/
def carets (column : Nat) : List Extent → List Char
  | [] => []
  | s :: rest =>
    let gap := s.start.column - 1 - column
    let width := max 1 (s.stop.column - s.start.column)
    List.replicate gap ' ' ++ List.replicate width '^' ++ carets (column + gap + width) rest

/-- The lines of the pattern, each followed by its carets if it has any. -/
def markedLines (width : Nat) (marks : List Extent) : Nat → List (List Char) → List String
  | _, [] => []
  | n, line :: rest =>
    let number := toString n
    let lead :=
      if width = 0 then "    "
      else String.ofList (List.replicate (width - number.length) ' ') ++ number ++ ": "
    let here := marks.filter fun s => s.start.line == n && s.stop.line == n
    let note :=
      if here.isEmpty then []
      else
        let pad := List.replicate (if width = 0 then 4 else width + 2) ' '
        [String.ofList (pad ++ carets 0 here)]
    (lead ++ String.ofList line) :: note ++ markedLines width marks (n + 1) rest

/-- The error with the pattern shown and marked. -/
def Error.report (e : Error) : String :=
  let lines := linesOf [] e.pattern
  let count := lines.length + (if e.pattern.getLast? == some '\n' then 1 else 0)
  let width := if count ≤ 1 then 0 else (toString count).length
  let shown := markedLines width e.extents 1 lines
  let long := e.extents.filter fun s => s.start.line != s.stop.line
  let notes := long.map fun s =>
    s!"on line {s.start.line} (column {s.start.column}) "
      ++ s!"through line {s.stop.line} (column {s.stop.column - 1})"
  let divider := String.ofList (List.replicate 79 '~')
  let body :=
    if e.pattern.contains '\n' then [divider] ++ shown ++ [divider] ++ notes else shown
  "\n".intercalate (["regex parse error:"] ++ body ++ ["error: " ++ e.reason])

end Paradigm.Regex
