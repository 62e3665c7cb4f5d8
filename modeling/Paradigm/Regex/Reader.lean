import Paradigm.Regex.Syntax
import Paradigm.Unicode.Classes

/-!
# Reading a pattern

`Ast.read` turns the text of a pattern into its syntax tree. The reader goes over the text once,
from the left; the first fault it meets is the answer.
-/

namespace Paradigm.Regex

/-- What is left of the pattern, and what was seen so far. -/
structure Cursor where
  pattern : List Char
  rest : List Char
  offset : Nat := 0
  ignoreBlanks : Bool := false
  captures : Nat := 0
  names : List (String × Span) := []

/-- A step of reading, which may end with a fault of the pattern. -/
abbrev Reader := StateT Cursor (Except Error)

namespace Reader

/-! ## Moving -/

def failBoth {α : Type} (span : Span) (cause : Cause) (earlier : Option Span) : Reader α := do
  throw ⟨(← get).pattern, cause, span, earlier⟩

def failAt {α : Type} (span : Span) (cause : Cause) : Reader α := failBoth span cause none

def position : Reader Nat := do return (← get).offset

def peek : Reader (Option Char) := do return (← get).rest.head?

def atEnd : Reader Bool := do return (← get).rest.isEmpty

def here : Reader Span := do
  let n ← position
  return ⟨n, n⟩

def hereChar : Reader Span := do
  let n ← position
  return ⟨n, n + 1⟩

def since (start : Nat) : Reader Span := do return ⟨start, ← position⟩

def advance (n : Nat) : Reader Unit :=
  modify fun c => { c with rest := c.rest.drop n, offset := c.offset + n }

/-- Length of the blanks and comments at the head of a text. -/
def blankLength : Bool → List Char → Nat
  | _, [] => 0
  | true, c :: rest => 1 + blankLength (c != '\n') rest
  | false, c :: rest =>
    if Unicode.isSpace c then 1 + blankLength false rest
    else if c = '#' then 1 + blankLength true rest
    else 0

def skipBlanks : Reader Unit := do
  let c ← get
  if c.ignoreBlanks then advance (blankLength false c.rest)

def bump : Reader Bool := do
  advance 1
  return !(← atEnd)

/-- Passes one character and the blanks after it; tells whether another one follows. -/
def bumpSkip : Reader Bool := do
  advance 1
  skipBlanks
  return !(← atEnd)

def accept (text : List Char) : Reader Bool := do
  match Text.dropPrefix? text (← get).rest with
  | some _ => advance text.length; return true
  | none => return false

def peekSecond : Reader (Option Char) := do return ((← get).rest.drop 1).head?

def peekSecondSkip : Reader (Option Char) := do
  let c ← get
  let tail := c.rest.drop 1
  if c.ignoreBlanks then
    let tail := tail.dropWhile Unicode.isSpace
    match tail with
    | '#' :: tail => return (tail.dropWhile Unicode.isSpace).head?
    | _ => return tail.head?
  else return tail.head?

def takeRun (test : Char → Bool) : Nat → Reader (List Char)
  | 0 => return []
  | fuel + 1 => do
    match ← peek with
    | some c =>
      if test c then
        let _ ← bumpSkip
        return c :: (← takeRun test fuel)
      else return []
    | none => return []

def remaining : Reader Nat := do return (← get).rest.length

/-! ## Numbers -/

def skipAllBlanks : Reader Unit := do
  advance ((← get).rest.takeWhile Unicode.isSpace).length

/-- A decimal number below 2³², blanks around it left out, or what is wrong in its place. -/
def readDecimal : Reader (Except (Cause × Span) Nat) := do
  skipAllBlanks
  let start ← position
  let digits ← takeRun Text.isDigit (← remaining)
  let span ← since start
  skipAllBlanks
  if digits.isEmpty then return .error (.repetitionCountEmpty, span)
  match Text.decimal? digits with
  | some n => return if n ≤ 0xFFFFFFFF then .ok n else .error (.decimalInvalid, span)
  | none => return .error (.decimalInvalid, span)

def orFail : Except (Cause × Span) Nat → Reader Nat
  | .ok n => pure n
  | .error (cause, span) => failAt span cause

def isHexDigit (c : Char) : Bool := (Text.hexDigit? c).isSome

def charOfHex? (digits : List Char) : Option Char :=
  let n := digits.foldl (fun n c => 16 * n + (Text.hexDigit? c).getD 0) 0
  if n < 0xD800 ∨ (0xDFFF < n ∧ n ≤ 0x10FFFF) then some (Char.ofNat n) else none

/-! ## Escapes -/

def takeHexDigits : Nat → Reader (List Char)
  | 0 => return []
  | n + 1 => do
    match ← peek with
    | none => failAt (← here) .escapeUnexpectedEnd
    | some c =>
      if isHexDigit c then
        let _ ← bumpSkip
        return c :: (← takeHexDigits n)
      else failAt (← hereChar) .escapeHexInvalidDigit

def readHex (start count : Nat) : Reader Literal := do
  if !(← bumpSkip) then failAt (← here) .escapeUnexpectedEnd
  if (← peek) == some '{' then
    let brace ← position
    let _ ← bumpSkip
    let digits ← takeRun isHexDigit (← remaining)
    match ← peek with
    | none => failAt (← since brace) .escapeUnexpectedEnd
    | some '}' =>
      let stop ← position
      let _ ← bumpSkip
      if digits.isEmpty then failAt (← since brace) .escapeHexEmpty
      match charOfHex? digits with
      | some c => return ⟨← since start, c, false⟩
      | none => failAt ⟨brace + 1, stop⟩ .escapeHexInvalid
    | some _ => failAt (← hereChar) .escapeHexInvalidDigit
  else
    let first ← position
    let digits ← takeHexDigits count
    match charOfHex? digits with
    | some c => return ⟨← since start, c, count == 2⟩
    | none => failAt (← since first) .escapeHexInvalid

/-- The two halves around the first place where `cut` occurs. -/
def splitAtFirst (cut : List Char) : List Char → Option (List Char × List Char)
  | [] => none
  | c :: rest =>
    match Text.dropPrefix? cut (c :: rest) with
    | some after => some ([], after)
    | none => (splitAtFirst cut rest).map fun p => (c :: p.1, p.2)

/-- A name, or a name and a value with `!=`, `:` or `=` between them. -/
def PropertyName.ofText (text : List Char) : PropertyName :=
  match splitAtFirst ['!', '='] text with
  | some (name, value) => .valued name value
  | none =>
    match splitAtFirst [':'] text with
    | some (name, value) => .valued name value
    | none =>
      match splitAtFirst ['='] text with
      | some (name, value) => .valued name value
      | none => .named text

def readProperty : Reader PropertyName := do
  if !(← bumpSkip) then failAt (← here) .escapeUnexpectedEnd
  match ← peek with
  | some '{' =>
    let _ ← bumpSkip
    let text ← takeRun (· != '}') (← remaining)
    if ← atEnd then failAt (← here) .escapeUnexpectedEnd
    advance 1
    return PropertyName.ofText text
  | some '\\' => failAt (← hereChar) .unicodeClassInvalid
  | some c =>
    let _ ← bumpSkip
    return .named [c]
  | none => failAt (← here) .escapeUnexpectedEnd

def isBoundaryChar (c : Char) : Bool := Text.isAsciiLetter c || c == '-'

/-- The name in braces after `\b`. If no name can start there, nothing is read: then the brace
opens a repetition. -/
def readBoundaryName (start : Nat) : Reader (Option Assertion) := do
  let before ← get
  let brace ← position
  if !(← bumpSkip) then failAt (← since start) .wordBoundaryUnexpectedEnd
  let first ← position
  if !((← peek).any isBoundaryChar) then
    set before
    return none
  let name ← takeRun isBoundaryChar (← remaining)
  if (← peek) != some '}' then failAt (← since brace) .wordBoundaryUnclosed
  let span ← since first
  advance 1
  match String.ofList name with
  | "start" => return some .wordStart
  | "end" => return some .wordEnd
  | "start-half" => return some .wordStartHalf
  | "end-half" => return some .wordEndHalf
  | _ => failAt span .wordBoundaryUnrecognized

def isMeta (c : Char) : Bool := "\\.+*?()|[]\x7b\x7d^$#&-~".toList.contains c

def isEscapable (c : Char) : Bool :=
  isMeta c || (c.toNat < 128 && !Text.isAsciiLetter c && !Text.isDigit c && c != '<' && c != '>')

def controlEscape? : Char → Option Char
  | 'a' => some '\x07'
  | 'f' => some '\x0C'
  | 't' => some '\t'
  | 'n' => some '\n'
  | 'r' => some '\r'
  | 'v' => some '\x0B'
  | _ => none

def plainAssertion? : Char → Option Assertion
  | 'A' => some .startText
  | 'z' => some .endText
  | 'B' => some .notWordBoundary
  | '<' => some .wordStart
  | '>' => some .wordEnd
  | _ => none

def shortClass? : Char → Option (Bool × ShortClass)
  | 'd' => some (false, .digit)
  | 'D' => some (true, .digit)
  | 's' => some (false, .space)
  | 'S' => some (true, .space)
  | 'w' => some (false, .word)
  | 'W' => some (true, .word)
  | _ => none

def hexLength? : Char → Option Nat
  | 'x' => some 2
  | 'u' => some 4
  | 'U' => some 8
  | _ => none

/-- What begins with a backslash outside of a class. -/
def readEscape : Reader Ast := do
  let start ← position
  if !(← bump) then failAt (← since start) .escapeUnexpectedEnd
  let c := (← peek).getD '\\'
  if Text.isDigit c then failAt ⟨start, (← position) + 1⟩ .backreference
  if let some count := hexLength? c then return .literal (← readHex start count)
  if c == 'p' || c == 'P' then
    let name ← readProperty
    return .property (← since start) (c == 'P') name
  advance 1
  let span ← since start
  if let some (negated, kind) := shortClass? c then return .short span negated kind
  if isEscapable c then return .literal ⟨span, c, false⟩
  if let some control := controlEscape? c then return .literal ⟨span, control, false⟩
  if let some kind := plainAssertion? c then return .assertion span kind
  if c == 'b' then
    if (← peek) == some '{' then
      if let some kind ← readBoundaryName start then return .assertion (← since start) kind
    return .assertion span .wordBoundary
  failAt span .escapeUnrecognized

/-! ## Bracketed classes -/

/-- A single item of a class, or an escape that may turn out not to be one. -/
def readClassPart : Reader Ast := do
  match ← peek with
  | some '\\' => readEscape
  | some c =>
    let span ← hereChar
    advance 1
    return .literal ⟨span, c, false⟩
  | none => return .empty (← here)

def classItem : Ast → Reader ClassItem
  | .literal l => return .literal l
  | .property s negated name => return .property s negated name
  | .short s negated kind => return .short s negated kind
  | other => failAt other.span .classEscapeInvalid

def rangeEnd : Ast → Reader Literal
  | .literal l => return l
  | other => failAt other.span .classRangeLiteral

def readClassRange (openSpan : Span) : Reader ClassItem := do
  let first ← readClassPart
  skipBlanks
  if ← atEnd then failAt openSpan .classUnclosed
  let second ← peekSecondSkip
  if (← peek) != some '-' || second == some ']' || second == some '-' then
    classItem first
  else
    if !(← bumpSkip) then failAt openSpan .classUnclosed
    let last ← readClassPart
    let span : Span := ⟨first.span.first, last.span.last⟩
    let a ← rangeEnd first
    let b ← rangeEnd last
    if b.char < a.char then failAt span .classRangeInvalid
    return .range span a b

/-- A named class such as `[:alpha:]`; nothing is read if there is none. -/
def readAsciiClass : Reader (Option ClassItem) := do
  let start ← position
  match Text.dropPrefix? ['[', ':'] (← get).rest with
  | none => return none
  | some rest =>
    let negated := rest.head? == some '^'
    let rest := if negated then rest.drop 1 else rest
    let name := rest.takeWhile (· != ':')
    match Text.dropPrefix? [':', ']'] (rest.drop name.length),
        AsciiClass.ofName? (String.ofList name) with
    | some _, some kind =>
      advance (4 + name.length + (if negated then 1 else 0))
      return some (.ascii (← since start) negated kind)
    | _, _ => return none

/-- Hyphens right after the opening of a class stand for themselves. -/
def readLeadingHyphens (start : Nat) : Nat → Reader (List ClassItem)
  | 0 => return []
  | fuel + 1 => do
    if (← peek) == some '-' then
      let span ← hereChar
      if !(← bumpSkip) then failAt ⟨start, start⟩ .classUnclosed
      return .literal ⟨span, '-', false⟩ :: (← readLeadingHyphens start fuel)
    else return []

/-- The opening bracket with what belongs to it: its span, whether the class is negated, and the
literals that only the place right after it allows. -/
def readClassOpen : Reader (Span × Bool × List ClassItem) := do
  let start ← position
  if !(← bumpSkip) then failAt (← since start) .classUnclosed
  let negated := (← peek) == some '^'
  if negated then
    if !(← bumpSkip) then failAt (← since start) .classUnclosed
  let hyphens ← readLeadingHyphens start (← remaining)
  if hyphens.isEmpty && (← peek) == some ']' then
    let span ← hereChar
    if !(← bumpSkip) then failAt (← since start) .classUnclosed
    return (← since start, negated, [.literal ⟨span, ']', false⟩])
  else return (← since start, negated, hyphens)

def ClassSet.span : ClassSet → Span
  | .union items => itemsSpan items
  | .binary s _ _ _ => s

def ClassSet.join (left : Option (SetOp × ClassSet)) (right : ClassSet) : ClassSet :=
  match left with
  | none => right
  | some (op, left) => .binary ⟨(ClassSet.span left).first, (ClassSet.span right).last⟩ op left right

def setOp? : Char → Option SetOp
  | '&' => some .inter
  | '-' => some .diff
  | '~' => some .symmDiff
  | _ => none

/-- A class up to its closing bracket. `left` waits for its right side, `items` are the items read
since, the last one first. -/
def readClassBody (openSpan : Span) :
    Nat → Option (SetOp × ClassSet) → List ClassItem → Reader ClassSet
  | 0, _, _ => failAt openSpan .classUnclosed
  | fuel + 1, left, items => do
    skipBlanks
    match ← peek with
    | none => failAt openSpan .classUnclosed
    | some ']' =>
      advance 1
      return ClassSet.join left (.union items.reverse)
    | some '[' =>
      match ← readAsciiClass with
      | some item => readClassBody openSpan fuel left (item :: items)
      | none =>
        let start ← position
        let (inner, negated, first) ← readClassOpen
        let set ← readClassBody inner fuel none first.reverse
        readClassBody openSpan fuel left (.bracketed (← since start) negated set :: items)
    | some c =>
      match setOp? c with
      | some op =>
        if (← peekSecond) == some c then
          advance 2
          readClassBody openSpan fuel (some (op, ClassSet.join left (.union items.reverse))) []
        else
          let item ← readClassRange openSpan
          readClassBody openSpan fuel left (item :: items)
      | none =>
        let item ← readClassRange openSpan
        readClassBody openSpan fuel left (item :: items)

/-- A bracketed class from its opening bracket on. -/
def readClass : Reader Ast := do
  let start ← position
  let (openSpan, negated, first) ← readClassOpen
  let set ← readClassBody openSpan ((← remaining) + 1) none first.reverse
  return .bracketed (← since start) negated set

/-! ## Repetitions -/

/-- The part that an operator repeats: the last one read. -/
def repeated : List Ast → Reader (Ast × List Ast)
  | .empty _ :: _ | .flags _ _ :: _ | [] => do failAt (← here) .repetitionMissing
  | last :: before => return (last, before)

def readLazy : Reader Bool := do
  if (← peek) == some '?' then
    advance 1
    return true
  else return false

def readSimpleRepetition (count : Count) (items : List Ast) : Reader (List Ast) := do
  let (last, before) ← repeated items
  advance 1
  let lazily ← readLazy
  return .repetition ⟨last.span.first, ← position⟩ count (!lazily) last :: before

def readBounds (start : Nat) : Reader Count := do
  if !(← bumpSkip) then failAt (← since start) .repetitionCountUnclosed
  let low ← readDecimal
  if ← atEnd then failAt (← since start) .repetitionCountUnclosed
  if (← peek) == some ',' then
    if !(← bumpSkip) then failAt (← since start) .repetitionCountUnclosed
    if (← peek) != some '}' then
      let low ← orFail low
      let high ← orFail (← readDecimal)
      return ⟨low, some high⟩
    else return ⟨← orFail low, none⟩
  else
    let n ← orFail low
    return ⟨n, some n⟩

/-- Repeats the last item as often as the numbers in braces say. -/
def readCountedRepetition (items : List Ast) : Reader (List Ast) := do
  let start ← position
  let (last, before) ← repeated items
  let count ← readBounds start
  if (← peek) != some '}' then failAt (← since start) .repetitionCountUnclosed
  let _ ← bumpSkip
  let lazily ← readLazy
  let span ← since start
  if count.max.any (· < count.min) then failAt span .repetitionCountInvalid
  return .repetition ⟨last.span.first, ← position⟩ count (!lazily) last :: before

/-! ## Groups -/

/-- The flags up to the colon or closing parenthesis that ends them; `seen` has the last first. -/
def readFlags : Nat → List FlagItem → Reader (List FlagItem)
  | 0, seen => return seen.reverse
  | fuel + 1, seen => do
    let c := (← peek).getD ')'
    if c == ':' || c == ')' then
      match seen with
      | ⟨span, none⟩ :: _ => failAt span .flagDanglingNegation
      | _ => return seen.reverse
    else
      let span ← hereChar
      let flag ←
        if c == '-' then pure none
        else match Flag.ofChar? c with
          | some flag => pure (some flag)
          | none => failAt span .flagUnrecognized
      if let some twin := seen.find? (·.flag = flag) then
        failBoth span (if c == '-' then .flagRepeatedNegation else .flagDuplicate)
          (some twin.span)
      if !(← bump) then failAt (← here) .flagUnexpectedEnd
      readFlags fuel (⟨span, flag⟩ :: seen)

def isNameStart (c : Char) : Bool := c == '_' || Unicode.alphabetic.contains c

def isNameChar (c : Char) : Bool :=
  c == '_' || c == '.' || c == '[' || c == ']' || Unicode.alphabetic.contains c
    || (Unicode.categories ["nd", "nl", "no"]).contains c

def readName : Nat → Bool → Reader (List Char)
  | 0, _ => return []
  | fuel + 1, isFirst => do
    match ← peek with
    | none => failAt (← here) .groupNameUnexpectedEnd
    | some '>' => return []
    | some c =>
      if if isFirst then isNameStart c else isNameChar c then
        advance 1
        return c :: (← readName fuel false)
      else failAt (← hereChar) .groupNameInvalid

def nextCapture : Reader Nat := do
  modify fun c => { c with captures := c.captures + 1 }
  return (← get).captures

/-- What the text after an opening parenthesis makes of it. -/
inductive Opening where
  | flags (span : Span) (items : List FlagItem)
  | group (span : Span) (kind : GroupKind)

def readNamedGroup (openSpan : Span) : Reader Opening := do
  let index ← nextCapture
  let start ← position
  let name ← readName ((← remaining) + 1) true
  let span ← since start
  advance 1
  if name.isEmpty then failAt ⟨start, start⟩ .groupNameEmpty
  let name := String.ofList name
  match (← get).names.find? (·.1 == name) with
  | some (_, earlier) => failBoth span .groupNameDuplicate (some earlier)
  | none =>
    modify fun c => { c with names := (name, span) :: c.names }
    return .group openSpan (.capture index (some name))

def readFlagGroup (openSpan inner : Span) : Reader Opening := do
  if ← atEnd then failAt openSpan .groupUnclosed
  let items ← readFlags ((← remaining) + 1) []
  let close ← peek
  advance 1
  if close == some ')' then
    if items.isEmpty then failAt inner .repetitionMissing
    return .flags (← since openSpan.first) items
  else return .group openSpan (.plain items)

/-- What follows an opening parenthesis. -/
def readOpening : Reader Opening := do
  let openSpan ← hereChar
  advance 1
  skipBlanks
  for lookAround in ["?=", "?!", "?<=", "?<!"] do
    if ← accept lookAround.toList then failAt (← since openSpan.first) .lookAround
  let inner ← here
  if (← accept "?P<".toList) then readNamedGroup openSpan
  else if (← accept "?<".toList) then readNamedGroup openSpan
  else if (← accept "?".toList) then readFlagGroup openSpan inner
  else return .group openSpan (.capture (← nextCapture) none)

/-! ## The whole pattern -/

def sequence (start stop : Nat) (items : List Ast) : Ast :=
  match items with
  | [] => .empty ⟨start, stop⟩
  | [item] => item
  | _ => .concat ⟨start, stop⟩ items.reverse

def alternatives (start stop : Nat) (branches : List Ast) : Ast :=
  match branches with
  | [branch] => branch
  | _ => .alternation ⟨start, stop⟩ branches.reverse

def readPrimitive (c : Char) : Reader Ast := do
  if c == '\\' then readEscape
  else
    let span ← hereChar
    advance 1
    if c == '.' then return .dot span
    else if c == '^' then return .assertion span .startLine
    else if c == '$' then return .assertion span .endLine
    else return .literal ⟨span, c, false⟩

/-- Reads up to the end of the pattern or a closing parenthesis, which is left there. `start` and
`from` are where the alternation and its current branch begin. -/
def readBody (start : Nat) : Nat → Nat → List Ast → List Ast → Reader Ast
  | 0, branchStart, branches, items => do
    let stop ← position
    return alternatives start stop (sequence branchStart stop items :: branches)
  | fuel + 1, branchStart, branches, items => do
    skipBlanks
    let stop ← position
    let finished := alternatives start stop (sequence branchStart stop items :: branches)
    match ← peek with
    | none => return finished
    | some ')' => return finished
    | some '|' =>
      advance 1
      let next ← position
      readBody start fuel next (sequence branchStart stop items :: branches) []
    | some '(' =>
      let outer := (← get).ignoreBlanks
      match ← readOpening with
      | .flags span flags =>
        modify fun c =>
          { c with ignoreBlanks := (flagState? .ignoreBlanks flags false).getD c.ignoreBlanks }
        readBody start fuel branchStart branches (.flags span flags :: items)
      | .group span kind =>
        let inner :=
          match kind with
          | .plain flags => (flagState? .ignoreBlanks flags false).getD outer
          | .capture _ _ => outer
        modify fun c => { c with ignoreBlanks := inner }
        let subStart ← position
        let sub ← readBody subStart fuel subStart [] []
        if ← atEnd then failAt span .groupUnclosed
        modify fun c => { c with ignoreBlanks := outer }
        advance 1
        let group := Ast.group (← since span.first) kind sub
        readBody start fuel branchStart branches (group :: items)
    | some '[' => readBody start fuel branchStart branches ((← readClass) :: items)
    | some '?' =>
      readBody start fuel branchStart branches (← readSimpleRepetition ⟨0, some 1⟩ items)
    | some '*' =>
      readBody start fuel branchStart branches (← readSimpleRepetition ⟨0, none⟩ items)
    | some '+' =>
      readBody start fuel branchStart branches (← readSimpleRepetition ⟨1, none⟩ items)
    | some '{' => readBody start fuel branchStart branches (← readCountedRepetition items)
    | some c => readBody start fuel branchStart branches ((← readPrimitive c) :: items)

/-- The whole pattern: nothing may follow the outermost alternation. -/
def readPattern : Reader Ast := do
  let ast ← readBody 0 ((← remaining) + 1) 0 [] []
  if !(← atEnd) then failAt (← hereChar) .groupUnopened
  match ast.tooDeep? nestingLimit with
  | some span => failAt span (.nestingTooDeep nestingLimit)
  | none => return ast

end Reader

/-- The syntax tree of a pattern, or the first fault in it. -/
def Ast.read (pattern : List Char) : Except Error Ast :=
  (Reader.readPattern.run { pattern, rest := pattern }).map (·.1)

end Paradigm.Regex
