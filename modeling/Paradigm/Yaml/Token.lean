import Paradigm.Text

/-!
# Tokens of YAML

`Token.ofText?` cuts a text into tokens; layout becomes tokens of its own, so that what follows
need not look at columns. A text that is not YAML has no tokens.
-/

namespace Paradigm.Yaml

/-- A mark or a scalar of a text. The block tokens are not written: they come from indentation. -/
inductive Token where
  | version (major minor : Nat)
  | tagDirective (handle expansion : List Char)
  | documentStart
  | documentEnd
  | blockSequenceStart
  | blockMappingStart
  | blockEnd
  | flowSequenceStart
  | flowSequenceEnd
  | flowMappingStart
  | flowMappingEnd
  | blockEntry
  | flowEntry
  | key
  | value
  | alias (name : List Char)
  | anchor (name : List Char)
  | tag (handle suffix : List Char)
  | scalar (text : List Char) (plain : Bool)
  | streamEnd

/-! ## Characters -/

def isBreak (c : Char) : Bool :=
  c == '\n' || c == '\r' || c == '\u0085' || c == '\u2028' || c == '\u2029'

/-- The line break at the front of a text: how many characters it has, and what it stands for. -/
def lineBreak? : List Char → Option (Nat × Char)
  | '\r' :: '\n' :: _ => some (2, '\n')
  | c :: _ =>
    if c == '\u2028' || c == '\u2029' then some (1, c)
    else if isBreak c then some (1, '\n')
    else none
  | [] => none

def isBlank (c : Char) : Bool := c == ' ' || c == '\t'

def isBlankOrEnd : Option Char → Bool
  | none => true
  | some c => isBlank c || isBreak c

def isNameChar (c : Char) : Bool :=
  Text.isAsciiLetter c || Text.isDigit c || c == '_' || c == '-'

def isAllowed (c : Char) : Bool :=
  c == '\t' || c == '\n' || c == '\r' || c == '\u0085'
    || (' ' ≤ c && c ≤ '~') || ('\u00A0' ≤ c && c ≤ '\uFFFD') || '\uFFFF' < c

/-- The mark of a document at the front of a line. -/
def documentMark? : List Char → Option Token
  | '-' :: '-' :: '-' :: rest => if isBlankOrEnd rest.head? then some .documentStart else none
  | '.' :: '.' :: '.' :: rest => if isBlankOrEnd rest.head? then some .documentEnd else none
  | _ => none

def byteOrderMark : Char := '\uFEFF'

/-! ## The scanner -/

/-- A place where a key without a question mark may have begun. -/
structure SimpleKey where
  required : Bool
  token : Nat
  line : Nat
  column : Nat
  index : Nat

/-- What is left of the text, the layout at this place, and the tokens so far. -/
structure Scanner where
  rest : List Char
  line : Nat := 0
  column : Nat := 0
  index : Nat := 0
  /-- The column of the innermost block collection; -1 outside all of them. -/
  indent : Int := -1
  indents : List Int := []
  /-- One entry for the block context and one for each open flow collection, the innermost first. -/
  keys : List (Option SimpleKey) := [none]
  keyAllowed : Bool := true
  tokens : Array Token := #[]

/-- A step of the scanner, which may find that the text is not YAML. -/
abbrev Scan := StateT Scanner Option

namespace Scan

def fail {α : Type} : Scan α := fun _ => none

def guard (ok : Bool) : Scan Unit := if ok then pure () else fail

/-! ## Moving -/

def peek : Scan (Option Char) := do return (← get).rest.head?

def peekAt (n : Nat) : Scan (Option Char) := do return (← get).rest[n]?

def next (c : Char) : Scan Bool := do return (← peek) == some c

def skip (n : Nat) : Scan Unit :=
  modify fun s =>
    { s with rest := s.rest.drop n, column := s.column + n, index := s.index + n }

/-- Goes on to the next line, past a line break of `n` characters. -/
def nextLine (n : Nat) : Scan Unit :=
  modify fun s =>
    { s with rest := s.rest.drop n, line := s.line + 1, column := 0, index := s.index + n }

def takeBreak : Scan (List Char) := do
  match lineBreak? (← get).rest with
  | some (n, c) => nextLine n; return [c]
  | none => return []

def takeWhile (test : Char → Bool) : Scan (List Char) := do
  let run := (← get).rest.takeWhile test
  skip run.length
  return run

def takeBlanks : Scan Unit := do let _ ← takeWhile isBlank

def skipComment : Scan Unit := do
  if ← next '#' then let _ ← takeWhile (!isBreak ·)

def inFlow : Scan Bool := do return (← get).keys.length > 1

def allowKey (allowed : Bool) : Scan Unit := modify fun s => { s with keyAllowed := allowed }

def add (t : Token) : Scan Unit := modify fun s => { s with tokens := s.tokens.push t }

def atDocumentMark : Scan (Option Token) := do
  let s ← get
  return if s.column == 0 then documentMark? s.rest else none

/-! ## Layout -/

/-- Closes block collections further in than `column`. -/
def unroll (column : Int) : Nat → Scan Unit
  | 0 => pure ()
  | fuel + 1 => do
    if (← get).indent > column then
      modify fun s => { s with
        indent := s.indents.headD (-1), indents := s.indents.drop 1,
        tokens := s.tokens.push .blockEnd }
      unroll column fuel

def unrollTo (column : Int) : Scan Unit := do
  if !(← inFlow) then unroll column ((← get).indents.length + 1)

/-- Opens a block collection at a column further in; its token goes before the token number `at_`,
or to the end. -/
def roll (column : Nat) (at_ : Option Nat) (t : Token) : Scan Unit := do
  if !(← inFlow) then
    let s ← get
    if s.indent < column then
      let n := at_.getD s.tokens.size
      set { s with
        indent := column, indents := s.indent :: s.indents,
        tokens := (s.tokens.extract 0 n).push t ++ s.tokens.extract n s.tokens.size }

/-! ## Simple keys -/

/-- A possible key ends with its line, and after 1024 characters. -/
def isStale (s : Scanner) (k : SimpleKey) : Bool := k.line < s.line || k.index + 1024 < s.index

def dropStaleKeys : Scan Unit := do
  let s ← get
  guard (s.keys.all fun k => !(k.any fun k => isStale s k && k.required))
  modify fun s => { s with keys := s.keys.map (Option.filter (!isStale s ·)) }

/-- Forgets the possible key of the innermost context, which must not have had to be one. -/
def removeKey : Scan Unit := do
  match (← get).keys with
  | some k :: outer =>
    guard (!k.required)
    modify fun s => { s with keys := none :: outer }
  | _ => pure ()

/-- Notes that a key may begin here. -/
def saveKey : Scan Unit := do
  let s ← get
  let required := !(← inFlow) && s.indent == s.column
  if s.keyAllowed then
    removeKey
    modify fun s => { s with
      keys := some ⟨required, s.tokens.size, s.line, s.column, s.index⟩ :: s.keys.drop 1 }

/-! ## Space between tokens -/

/-- Passes the space on a line and a comment after it. Where a key may begin, a tab is no space. -/
def skipLineSpace : Scan Unit := do
  if (← get).column == 0 && (← next byteOrderMark) then skip 1
  let tabs := (← inFlow) || !(← get).keyAllowed
  let _ ← takeWhile fun c => c == ' ' || (tabs && c == '\t')
  skipComment

/-- Passes space, comments and line breaks up to the next token. -/
def skipSpace : Nat → Scan Unit
  | 0 => pure ()
  | fuel + 1 => do
    skipLineSpace
    if (← peek).any isBreak then
      let _ ← takeBreak
      if !(← inFlow) then allowKey true
      skipSpace fuel

/-! ## Directives -/

def versionNumber : Scan Nat := do
  let digits ← takeWhile Text.isDigit
  guard (digits.length ≤ 9)
  match Text.decimal? digits with
  | some n => return n
  | none => fail

/-- The bytes of an escaped character in a tag: `%` and two hexadecimal digits each. -/
def escapedByte : Scan Nat := do
  guard (← next '%')
  match (← peekAt 1).bind Text.hexDigit?, (← peekAt 2).bind Text.hexDigit? with
  | some a, some b => skip 3; return 16 * a + b
  | _, _ => fail

def escapedTail : Nat → Nat → Scan Nat
  | 0, n => return n
  | k + 1, n => do
    let b ← escapedByte
    guard (b / 64 == 2)
    escapedTail k (64 * n + b % 64)

def escapedChar : Scan Char := do
  let b ← escapedByte
  let n ←
    if b < 0x80 then pure b
    else if b / 32 == 6 then escapedTail 1 (b % 32)
    else if b / 16 == 14 then escapedTail 2 (b % 16)
    else if b / 8 == 30 then escapedTail 3 (b % 8)
    else fail
  return Char.ofNat n

def isTagChar (brackets : Bool) (c : Char) : Bool :=
  isNameChar c || ";/?:@&=+$.%!~*'()".toList.contains c
    || (brackets && (c == ',' || c == '[' || c == ']'))

def tagChars (brackets : Bool) : Nat → Scan (List Char)
  | 0 => return []
  | fuel + 1 => do
    match ← peek with
    | some c =>
      if isTagChar brackets c then
        let c ← if c == '%' then escapedChar else do skip 1; pure c
        return c :: (← tagChars brackets fuel)
      else return []
    | none => return []

def tagText (brackets : Bool) : Scan (List Char) := do
  tagChars brackets (← get).rest.length

def tagHandle (directive : Bool) : Scan (List Char) := do
  guard (← next '!')
  skip 1
  let name ← takeWhile isNameChar
  if ← next '!' then
    skip 1
    return '!' :: name ++ ['!']
  else
    guard (!directive || name.isEmpty)
    return '!' :: name

def tagDirective : Scan Token := do
  takeBlanks
  let handle ← tagHandle true
  guard ((← peek).any isBlank)
  takeBlanks
  let expansion ← tagText true
  guard (!expansion.isEmpty && isBlankOrEnd (← peek))
  return .tagDirective handle expansion

def versionDirective : Scan Token := do
  takeBlanks
  let major ← versionNumber
  guard (← next '.')
  skip 1
  return .version major (← versionNumber)

def directive : Scan Token := do
  skip 1
  let name ← takeWhile isNameChar
  guard (!name.isEmpty && isBlankOrEnd (← peek))
  let t ←
    if name == "YAML".toList then versionDirective
    else if name == "TAG".toList then tagDirective
    else fail
  takeBlanks
  skipComment
  guard ((← peek).all isBreak)
  let _ ← takeBreak
  return t

/-! ## Anchors and tags -/

def anchorName : Scan (List Char) := do
  skip 1
  let name ← takeWhile isNameChar
  let c ← peek
  guard (!name.isEmpty && (isBlankOrEnd c || c.any "?:,]\x7d%@\x60".toList.contains))
  return name

def tag : Scan Token := do
  let t ←
    if (← peekAt 1) == some '<' then
      skip 2
      let text ← tagText true
      guard (!text.isEmpty && (← next '>'))
      skip 1
      pure (Token.tag [] text)
    else
      let handle ← tagHandle false
      if handle.length > 1 && handle.getLast? == some '!' then
        let suffix ← tagText false
        guard (!suffix.isEmpty)
        pure (.tag handle suffix)
      else
        let suffix := handle.drop 1 ++ (← tagText false)
        pure (if suffix.isEmpty then .tag [] ['!'] else .tag ['!'] suffix)
  let c ← peek
  guard (isBlankOrEnd c || ((← inFlow) && c == some ','))
  return t

/-! ## Scalars -/

/-- What a run of line breaks stands for: a single one is a space, and else the first is left
out. -/
def foldBreaks (first later : List Char) : List Char :=
  if first == ['\n'] then if later.isEmpty then [' '] else later else first ++ later

/-- Passes blanks and line breaks. The blanks of the first line, and if there are breaks, the first
one and the later ones. -/
def takeGap (indent : Option Int) :
    Nat → (blanks : List Char) → (first : Option (List Char)) → (later : List Char) →
    Scan (List Char × Option (List Char) × List Char)
  | 0, blanks, first, later => return (blanks, first, later)
  | fuel + 1, blanks, first, later => do
    match ← peek with
    | some c =>
      if isBlank c then
        let column : Int := (← get).column
        guard (!(first.isSome && c == '\t' && indent.any (column < ·)))
        skip 1
        takeGap indent fuel (if first.isSome then blanks else blanks ++ [c]) first later
      else if isBreak c then
        let b ← takeBreak
        match first with
        | none => takeGap indent fuel [] (some b) later
        | some _ => takeGap indent fuel blanks first (later ++ b)
      else return (blanks, first, later)
    | none => return (blanks, first, later)

def gapText (blanks : List Char) (first : Option (List Char)) (later : List Char) : List Char :=
  match first with
  | none => blanks
  | some b => foldBreaks b later

def plainRun : Nat → Scan (List Char)
  | 0 => return []
  | fuel + 1 => do
    let c ← peek
    if isBlankOrEnd c then return []
    let c := c.getD ' '
    let flow ← inFlow
    let after ← peekAt 1
    if c == ':' then
      guard (!(flow && after.any ",?[]\x7b\x7d".toList.contains))
      if isBlankOrEnd after then return []
    if flow && ",[]\x7b\x7d".toList.contains c then return []
    skip 1
    return c :: (← plainRun fuel)

/-- The text of a plain scalar from here on, and whether line breaks were passed after it. -/
def plainText (indent : Int) : Nat → Scan (List Char × Bool)
  | 0 => return ([], false)
  | fuel + 1 => do
    if (← atDocumentMark).isSome || (← next '#') then return ([], false)
    let run ← plainRun (← get).rest.length
    if run.isEmpty || !(← peek).any fun c => isBlank c || isBreak c then return (run, false)
    let (blanks, first, later) ← takeGap (some indent) (← get).rest.length [] none []
    let column : Int := (← get).column
    if !(← inFlow) && column < indent then return (run, first.isSome)
    let (tail, broke) ← plainText indent fuel
    if tail.isEmpty then return (run, first.isSome)
    return (run ++ gapText blanks first later ++ tail, broke)

def plainScalar : Scan Token := do
  let s ← get
  let (text, broke) ← plainText (s.indent + 1) (s.rest.length + 1)
  if broke then allowKey true
  return .scalar text true

def simpleEscape? : Char → Option Char
  | '0' => some '\x00'
  | 'a' => some '\x07'
  | 'b' => some '\x08'
  | 't' => some '\t'
  | '\t' => some '\t'
  | 'n' => some '\n'
  | 'v' => some '\x0B'
  | 'f' => some '\x0C'
  | 'r' => some '\r'
  | 'e' => some '\x1B'
  | ' ' => some ' '
  | '"' => some '"'
  | '/' => some '/'
  | '\\' => some '\\'
  | 'N' => some '\u0085'
  | '_' => some '\u00A0'
  | 'L' => some '\u2028'
  | 'P' => some '\u2029'
  | _ => none

def escapeLength? : Char → Option Nat
  | 'x' => some 2
  | 'u' => some 4
  | 'U' => some 8
  | _ => none

def escape : Scan Char := do
  skip 1
  match ← peek with
  | none => fail
  | some c =>
    skip 1
    match simpleEscape? c, escapeLength? c with
    | some c, _ => return c
    | none, some n =>
      let digits := (← get).rest.take n
      guard (digits.length == n && digits.all fun d => (Text.hexDigit? d).isSome)
      skip n
      let code := digits.foldl (fun v d => 16 * v + (Text.hexDigit? d).getD 0) 0
      guard (code < 0xD800 || (0xDFFF < code && code ≤ 0x10FFFF))
      return Char.ofNat code
    | none, none => fail

/-- A run of characters of a quoted scalar, without blanks that are not escaped; tells whether an
escaped line break ended it. -/
def quotedRun (single : Bool) : Nat → Scan (List Char × Bool)
  | 0 => return ([], false)
  | fuel + 1 => do
    let c ← peek
    if isBlankOrEnd c then return ([], false)
    let c := c.getD ' '
    let after ← peekAt 1
    if single && c == '\'' && after == some '\'' then
      skip 2
      let (text, escaped) ← quotedRun single fuel
      return ('\'' :: text, escaped)
    else if c == (if single then '\'' else '"') then return ([], false)
    else if !single && c == '\\' && after.any isBreak then
      skip 1
      let _ ← takeBreak
      return ([], true)
    else
      let c ← if !single && c == '\\' then escape else do skip 1; pure c
      let (text, escaped) ← quotedRun single fuel
      return (c :: text, escaped)

def quotedText (single : Bool) : Nat → Scan (List Char)
  | 0 => fail
  | fuel + 1 => do
    guard (← atDocumentMark).isNone
    guard (← peek).isSome
    let (text, escaped) ← quotedRun single (← get).rest.length
    if ← next (if single then '\'' else '"') then
      skip 1
      return text
    let before : Option (List Char) := if escaped then some [] else none
    let (blanks, first, later) ← takeGap none (← get).rest.length [] before []
    return text ++ gapText blanks first later ++ (← quotedText single fuel)

def quotedScalar (single : Bool) : Scan Token := do
  skip 1
  return .scalar (← quotedText single ((← get).rest.length + 1)) false

/-- Passes empty lines and indentation before a line of a block scalar. With no indentation known
yet, gives the deepest column seen. -/
def blockBreaks (indent : Option Nat) : Nat → (deepest : Nat) → (breaks : List Char) →
    Scan (Nat × List Char)
  | 0, deepest, breaks => return (deepest, breaks)
  | fuel + 1, deepest, breaks => do
    let s ← get
    let spaces := (s.rest.takeWhile (· == ' ')).length
    let spaces := match indent with
      | some n => min spaces (n - s.column)
      | none => spaces
    skip spaces
    let column := (← get).column
    let deepest := max deepest column
    if ← next '\t' then guard (indent.any (· ≤ column))
    if (← peek).any isBreak then
      let b ← takeBreak
      blockBreaks indent fuel deepest (breaks ++ b)
    else return (deepest, breaks)

/-- The lines of a block scalar. `pending` is the break after the line before, `breaks` the empty
lines since, and `blankBefore` tells that the line before begins with a blank. -/
def blockLines (literal : Bool) (indent : Nat) :
    Nat → (pending breaks : List Char) → (blankBefore : Bool) →
    Scan (List Char × List Char × List Char)
  | 0, pending, breaks, _ => return ([], pending, breaks)
  | fuel + 1, pending, breaks, blankBefore => do
    if (← get).column != indent || (← peek).isNone then return ([], pending, breaks)
    let blankHere := (← peek).any isBlank
    let joint :=
      if !literal && pending.head? == some '\n' && !blankBefore && !blankHere then
        if breaks.isEmpty then [' '] else []
      else pending
    let line ← takeWhile (!isBreak ·)
    let stop ← takeBreak
    let (_, after) ← blockBreaks (some indent) (← get).rest.length.succ 0 []
    let (text, pending, trailing) ← blockLines literal indent fuel stop after blankHere
    return (joint ++ breaks ++ line ++ text, pending, trailing)

/-- The indicators after `|` or `>`: what to keep of the line breaks at the end, and the
indentation. -/
def blockHeader : Scan (Option Bool × Option Nat) := do
  let sign : Scan (Option Bool) := do
    if ← next '+' then skip 1; return some true
    else if ← next '-' then skip 1; return some false
    else return none
  let digit : Scan (Option Nat) := do
    match (← peek).bind Text.digit? with
    | some d => guard (d != 0); skip 1; return some d
    | none => return none
  match ← sign with
  | some keep => return (some keep, ← digit)
  | none =>
    let d ← digit
    if d.isSome then return (← sign, d) else return (none, none)

def blockScalar (literal : Bool) : Scan Token := do
  skip 1
  let (keep, step) ← blockHeader
  takeBlanks
  skipComment
  guard ((← peek).all isBreak)
  let _ ← takeBreak
  let s ← get
  let outer := s.indent
  let known := step.map fun n => if outer ≥ 0 then outer.toNat + n else n
  let (deepest, breaks) ← blockBreaks known (s.rest.length + 1) 0 []
  let indent := known.getD (max (max deepest (outer + 1).toNat) 1)
  let (text, pending, trailing) ← blockLines literal indent (s.rest.length + 1) [] breaks false
  let tail := match keep with
    | some false => []
    | none => pending
    | some true => pending ++ trailing
  return .scalar (text ++ tail) false

/-! ## Tokens -/

def closeAll : Scan Unit := do
  unrollTo (-1)
  removeKey
  allowKey false

def flowStart (t : Token) : Scan Unit := do
  saveKey
  modify fun s => { s with keys := none :: s.keys, keyAllowed := true }
  skip 1
  add t

def flowEnd (t : Token) : Scan Unit := do
  removeKey
  modify fun s => { s with keys := if s.keys.length > 1 then s.keys.drop 1 else s.keys }
  allowKey false
  skip 1
  add t

def flowEntry : Scan Unit := do
  removeKey
  allowKey true
  skip 1
  add .flowEntry

def blockEntry : Scan Unit := do
  if !(← inFlow) then
    guard (← get).keyAllowed
    roll (← get).column none .blockSequenceStart
  removeKey
  allowKey true
  skip 1
  add .blockEntry

def keyMark : Scan Unit := do
  if !(← inFlow) then
    guard (← get).keyAllowed
    roll (← get).column none .blockMappingStart
  removeKey
  allowKey !(← inFlow)
  skip 1
  add .key

/-- A colon: what was remembered as a possible key is one, or else the key is empty. -/
def valueMark : Scan Unit := do
  match (← get).keys with
  | some k :: outer =>
    modify fun s => { s with
      keys := none :: outer,
      tokens := (s.tokens.extract 0 k.token).push .key ++ s.tokens.extract k.token s.tokens.size }
    roll k.column (some k.token) .blockMappingStart
    allowKey false
  | _ =>
    if !(← inFlow) then
      guard (← get).keyAllowed
      roll (← get).column none .blockMappingStart
    allowKey !(← inFlow)
  skip 1
  add .value

def keyable (scan : Scan Token) : Scan Unit := do
  saveKey
  allowKey false
  add (← scan)

def block (literal : Bool) : Scan Unit := do
  removeKey
  allowKey true
  add (← blockScalar literal)

def isPlainStart (flow : Bool) (c : Char) (after : Option Char) : Bool :=
  !("-?:,[]\x7b\x7d#&*!|>'\"%@\x60".toList.contains c || isBlank c || isBreak c)
    || (c == '-' && !after.any isBlank)
    || (!flow && (c == '?' || c == ':') && !isBlankOrEnd after)

/-- Reads the token that begins with a character. -/
def token (c : Char) : Scan Unit := do
  let flow ← inFlow
  let after ← peekAt 1
  if (← get).column == 0 && c == '%' then
    closeAll
    add (← directive)
  else if let some t ← atDocumentMark then
    closeAll
    skip 3
    add t
  else if c == '[' then flowStart .flowSequenceStart
  else if c == '\x7b' then flowStart .flowMappingStart
  else if c == ']' then flowEnd .flowSequenceEnd
  else if c == '\x7d' then flowEnd .flowMappingEnd
  else if c == ',' then flowEntry
  else if c == '-' && isBlankOrEnd after then blockEntry
  else if c == '?' && (flow || isBlankOrEnd after) then keyMark
  else if c == ':' && (flow || isBlankOrEnd after) then valueMark
  else if c == '*' then keyable do return .alias (← anchorName)
  else if c == '&' then keyable do return .anchor (← anchorName)
  else if c == '!' then keyable tag
  else if c == '|' && !flow then block true
  else if c == '>' && !flow then block false
  else if c == '\'' then keyable (quotedScalar true)
  else if c == '"' then keyable (quotedScalar false)
  else if isPlainStart flow c after then keyable plainScalar
  else fail

def endStream : Scan Unit := do
  if (← get).column != 0 then modify fun s => { s with column := 0, line := s.line + 1 }
  closeAll
  add .streamEnd

/-- Reads the next token; tells whether the text goes on. -/
def step : Scan Bool := do
  skipSpace ((← get).rest.length + 1)
  dropStaleKeys
  unrollTo (← get).column
  match ← peek with
  | none => endStream; return false
  | some c => token c; return true

/-- Reads tokens up to the end of the text. -/
def steps : Nat → Scan Unit
  | 0 => fail
  | fuel + 1 => do if ← step then steps fuel

end Scan

/-- The tokens of a text; a byte order mark at its beginning does not count. -/
def Token.ofText? (text : List Char) : Option (List Token) :=
  let text := if text.head? == some byteOrderMark then text.drop 1 else text
  if text.all isAllowed then
    ((Scan.steps (text.length + 1)).run { rest := text }).map fun r => r.2.tokens.toList
  else none

end Paradigm.Yaml
