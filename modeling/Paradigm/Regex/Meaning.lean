import Paradigm.Regex.Expr
import Paradigm.Regex.Syntax
import Paradigm.Unicode.Case
import Paradigm.Unicode.Query

/-!
# The meaning of a pattern

Resolves flags, classes and assertions. A setting of flags holds up to the end of the group it
stands in. Without the `u` flag a class may hold ASCII characters only, since no other set of bytes
is sure to match whole characters.
-/

namespace Paradigm.Regex

/-- The flags that hold at a place of a pattern. -/
structure Flags where
  ignoreCase : Bool := false
  multiLine : Bool := false
  dotMatchesNewLine : Bool := false
  swapGreed : Bool := false
  unicode : Bool := true
  carriageReturns : Bool := false

/-- The flags after a flag group; those it does not name stay. -/
def Flags.apply (flags : Flags) (items : List FlagItem) : Flags :=
  let state (flag : Flag) (old : Bool) : Bool := (flagState? flag items false).getD old
  { ignoreCase := state .ignoreCase flags.ignoreCase
    multiLine := state .multiLine flags.multiLine
    dotMatchesNewLine := state .dotMatchesNewLine flags.dotMatchesNewLine
    swapGreed := state .swapGreed flags.swapGreed
    unicode := state .unicode flags.unicode
    carriageReturns := state .carriageReturns flags.carriageReturns }

/-- The outcome of resolving a part; a fault is a cause and its place. -/
abbrev Resolved (α : Type) := Except (Cause × Span) α

/-! ## Classes -/

def AsciiClass.chars : AsciiClass → CharSet
  | .alnum => .ofIntervals [('0', '9'), ('A', 'Z'), ('a', 'z')]
  | .alpha => .ofIntervals [('A', 'Z'), ('a', 'z')]
  | .ascii => .interval 0 0x7F
  | .blank => .ofIntervals [('\t', '\t'), (' ', ' ')]
  | .cntrl => .ofIntervals [('\x00', '\x1F'), ('\x7F', '\x7F')]
  | .digit => .ofIntervals [('0', '9')]
  | .graph => .ofIntervals [('!', '~')]
  | .lower => .ofIntervals [('a', 'z')]
  | .print => .ofIntervals [(' ', '~')]
  | .punct => .ofIntervals [('!', '/'), (':', '@'), ('[', '\x60'), ('\x7B', '~')]
  | .space => .ofIntervals [('\t', '\r'), (' ', ' ')]
  | .upper => .ofIntervals [('A', 'Z')]
  | .word => .ofIntervals [('0', '9'), ('A', 'Z'), ('_', '_'), ('a', 'z')]
  | .xdigit => .ofIntervals [('0', '9'), ('A', 'F'), ('a', 'f')]

def ShortClass.chars (unicode : Bool) : ShortClass → CharSet
  | .digit => if unicode then Unicode.digit else Unicode.asciiDigit
  | .space => if unicode then Unicode.space else Unicode.asciiSpace
  | .word => if unicode then Unicode.word else Unicode.asciiWord

/-- Adds case variants where case does not count. -/
def Flags.fold (flags : Flags) (chars : CharSet) : CharSet :=
  if flags.ignoreCase then
    if flags.unicode then Unicode.closeUnderCase chars else Unicode.closeUnderAsciiCase chars
  else chars

/-- Complements a class if it is negated, which needs the `u` flag. -/
def Flags.negate (flags : Flags) (span : Span) (negated : Bool) (chars : CharSet) :
    Resolved CharSet :=
  if negated then
    if flags.unicode then .ok chars.compl else .error (.invalidBytes, span)
  else .ok chars

def resolveShort (flags : Flags) (span : Span) (negated : Bool) (kind : ShortClass) :
    Resolved CharSet :=
  flags.negate span negated (kind.chars flags.unicode)

def resolveProperty (flags : Flags) (span : Span) (negated : Bool) (name : PropertyName) :
    Resolved CharSet :=
  if !flags.unicode then .error (.unicodeNotAllowed, span)
  else
    let found :=
      match name with
      | .named name => Unicode.query name
      | .valued name value => Unicode.queryValue name value
    match found with
    | .ok chars => flags.negate span negated (flags.fold chars)
    | .error .property => .error (.propertyNotFound, span)
    | .error .value => .error (.propertyValueNotFound, span)

/-- A literal in a pattern: the byte form of a character beyond ASCII is no character without the
`u` flag. -/
def resolveLiteral (flags : Flags) (l : Literal) : Resolved Char :=
  if !flags.unicode && l.asByte && l.char.toNat > 0x7F then .error (.invalidBytes, l.span)
  else .ok l.char

def resolveClassLiteral (flags : Flags) (l : Literal) : Resolved Char := do
  let c ← resolveLiteral flags l
  if !flags.unicode && c.toNat > 0x7F then throw (.unicodeNotAllowed, l.span)
  return c

mutual

def resolveItem (flags : Flags) : ClassItem → Resolved CharSet
  | .literal l => do return .singleton (← resolveClassLiteral flags l)
  | .range _ first last => do
    let a ← resolveClassLiteral flags first
    let b ← resolveClassLiteral flags last
    return .interval a.toNat b.toNat
  | .ascii span negated kind => flags.negate span negated (flags.fold kind.chars)
  | .property span negated name => resolveProperty flags span negated name
  | .short span negated kind => resolveShort flags span negated kind
  | .bracketed span negated set => do
    flags.negate span negated (flags.fold (← resolveSet flags set))

def resolveSet (flags : Flags) : ClassSet → Resolved CharSet
  | .union items => resolveItems flags items
  | .binary _ op left right => do
    let a := flags.fold (← resolveSet flags left)
    let b := flags.fold (← resolveSet flags right)
    match op with
    | .inter => return a.inter b
    | .diff => return a.diff b
    | .symmDiff => return a.symmDiff b

def resolveItems (flags : Flags) : List ClassItem → Resolved CharSet
  | [] => .ok .empty
  | item :: rest => do
    let a ← resolveItem flags item
    let b ← resolveItems flags rest
    return a.union b

end

/-! ## Other parts -/

def resolveChar (flags : Flags) (l : Literal) : Resolved Expr := do
  let c ← resolveLiteral flags l
  return if flags.ignoreCase then .ofSet (flags.fold (.singleton c)) else .text [c]

def resolveDot (flags : Flags) (span : Span) : Resolved Expr :=
  if !flags.unicode then .error (.invalidBytes, span)
  else if flags.dotMatchesNewLine then .ok (.set .univ)
  else if flags.carriageReturns then
    .ok (.set (CharSet.ofIntervals [('\n', '\n'), ('\r', '\r')]).compl)
  else .ok (.set (CharSet.singleton '\n').compl)

def resolveAssertion (flags : Flags) : Assertion → Look
  | .startLine =>
    if !flags.multiLine then .textStart
    else if flags.carriageReturns then .lineStartCarriage else .lineStart
  | .endLine =>
    if !flags.multiLine then .textEnd
    else if flags.carriageReturns then .lineEndCarriage else .lineEnd
  | .startText => .textStart
  | .endText => .textEnd
  | .wordBoundary => .wordBoundary (!flags.unicode)
  | .notWordBoundary => .notWordBoundary (!flags.unicode)
  | .wordStart => .wordStart (!flags.unicode)
  | .wordEnd => .wordEnd (!flags.unicode)
  | .wordStartHalf => .wordStartHalf (!flags.unicode)
  | .wordEndHalf => .wordEndHalf (!flags.unicode)

/-! ## The whole pattern -/

mutual

/-- The expression of a pattern, and the flags that hold after it. -/
def resolve (flags : Flags) : Ast → Resolved (Expr × Flags)
  | .empty _ => .ok (.empty, flags)
  | .flags _ items => .ok (.empty, flags.apply items)
  | .literal l => do return (← resolveChar flags l, flags)
  | .dot span => do return (← resolveDot flags span, flags)
  | .assertion _ kind => .ok (.look (resolveAssertion flags kind), flags)
  | .property span negated name => do
    return (.ofSet (← resolveProperty flags span negated name), flags)
  | .short span negated kind => do
    return (.ofSet (← resolveShort flags span negated kind), flags)
  | .bracketed span negated set => do
    let chars := flags.fold (← resolveSet flags set)
    return (.ofSet (← flags.negate span negated chars), flags)
  | .repetition _ count greedy sub => do
    let (expr, after) ← resolve flags sub
    return (.ofRepetition count.min count.max (greedy != after.swapGreed) expr, after)
  | .group _ (.capture index name) sub => do
    let (expr, _) ← resolve flags sub
    return (.capture index name expr, flags)
  | .group _ (.plain items) sub => do
    let (expr, _) ← resolve (flags.apply items) sub
    return (expr, flags)
  | .alternation _ subs => do
    let (exprs, after) ← resolveAll flags subs
    return (.ofAlternation exprs, after)
  | .concat _ subs => do
    let (exprs, after) ← resolveAll flags subs
    return (.ofConcat exprs, after)

/-- The expressions of neighbouring parts; flags pass from one to the next. -/
def resolveAll (flags : Flags) : List Ast → Resolved (List Expr × Flags)
  | [] => .ok ([], flags)
  | sub :: rest => do
    let (expr, flags) ← resolve flags sub
    let (exprs, flags) ← resolveAll flags rest
    return (expr :: exprs, flags)

end

/-- The expression of a whole pattern, read with no flag but `u`. -/
def Ast.resolve (pattern : List Char) (ast : Ast) : Except Error Expr :=
  match Regex.resolve {} ast with
  | .ok (expr, _) => .ok expr
  | .error (cause, span) => .error ⟨pattern, cause, span, none⟩

end Paradigm.Regex
