import Paradigm.Regex.Error

/-!
# Patterns as written

The syntax tree of a pattern, with the place of each part, before flags are taken into account.
-/

namespace Paradigm.Regex

/-- A character written out or escaped; `asByte` tells the two-digit form `\x7F`. -/
structure Literal where
  span : Span
  char : Char
  asByte : Bool := false

inductive Assertion where
  | startLine
  | endLine
  | startText
  | endText
  | wordBoundary
  | notWordBoundary
  | wordStart
  | wordEnd
  | wordStartHalf
  | wordEndHalf

/-- The classes `\d`, `\s` and `\w`. -/
inductive ShortClass where
  | digit
  | space
  | word

/-- The classes `[:alpha:]` and the like. -/
inductive AsciiClass where
  | alnum
  | alpha
  | ascii
  | blank
  | cntrl
  | digit
  | graph
  | lower
  | print
  | punct
  | space
  | upper
  | word
  | xdigit

def AsciiClass.ofName? (name : String) : Option AsciiClass :=
  match name with
  | "alnum" => some .alnum
  | "alpha" => some .alpha
  | "ascii" => some .ascii
  | "blank" => some .blank
  | "cntrl" => some .cntrl
  | "digit" => some .digit
  | "graph" => some .graph
  | "lower" => some .lower
  | "print" => some .print
  | "punct" => some .punct
  | "space" => some .space
  | "upper" => some .upper
  | "word" => some .word
  | "xdigit" => some .xdigit
  | _ => none

/-- What `\p` asks for. -/
inductive PropertyName where
  | named (name : List Char)
  | valued (name value : List Char)

/-- The operators `&&`, `--` and `~~`. -/
inductive SetOp where
  | inter
  | diff
  | symmDiff

mutual

/-- What may stand in a bracketed class. -/
inductive ClassItem where
  | literal (l : Literal)
  | range (span : Span) (first last : Literal)
  | ascii (span : Span) (negated : Bool) (kind : AsciiClass)
  | property (span : Span) (negated : Bool) (name : PropertyName)
  | short (span : Span) (negated : Bool) (kind : ShortClass)
  | bracketed (span : Span) (negated : Bool) (set : ClassSet)

/-- The inside of a bracketed class: items in a row, or two sets with an operator between. -/
inductive ClassSet where
  | union (items : List ClassItem)
  | binary (span : Span) (op : SetOp) (left right : ClassSet)

end

inductive Flag where
  | ignoreCase
  | multiLine
  | dotMatchesNewLine
  | swapGreed
  | unicode
  | carriageReturns
  | ignoreBlanks
deriving DecidableEq

def Flag.ofChar? : Char → Option Flag
  | 'i' => some .ignoreCase
  | 'm' => some .multiLine
  | 's' => some .dotMatchesNewLine
  | 'U' => some .swapGreed
  | 'u' => some .unicode
  | 'R' => some .carriageReturns
  | 'x' => some .ignoreBlanks
  | _ => none

/-- One letter of a flag group; `none` is the hyphen before the flags to turn off. -/
structure FlagItem where
  span : Span
  flag : Option Flag

/-- The state that a flag group gives to a flag, if it names the flag. -/
def flagState? (flag : Flag) : List FlagItem → Bool → Option Bool
  | [], _ => none
  | item :: rest, negated =>
    match item.flag with
    | none => flagState? flag rest true
    | some f => if f = flag then some (!negated) else flagState? flag rest negated

inductive GroupKind where
  | capture (index : Nat) (name : Option String)
  | plain (flags : List FlagItem)

/-- How often a repeated part may occur; no upper bound is `none`. -/
structure Count where
  min : Nat
  max : Option Nat

/-- A pattern, part by part. Each part has the place that it is read from. -/
inductive Ast where
  | empty (span : Span)
  | flags (span : Span) (items : List FlagItem)
  | literal (l : Literal)
  | dot (span : Span)
  | assertion (span : Span) (kind : Assertion)
  | property (span : Span) (negated : Bool) (name : PropertyName)
  | short (span : Span) (negated : Bool) (kind : ShortClass)
  | bracketed (span : Span) (negated : Bool) (set : ClassSet)
  | repetition (span : Span) (count : Count) (greedy : Bool) (sub : Ast)
  | group (span : Span) (kind : GroupKind) (sub : Ast)
  | alternation (span : Span) (subs : List Ast)
  | concat (span : Span) (subs : List Ast)

def Ast.span : Ast → Span
  | .empty s | .flags s _ | .dot s | .assertion s _ | .property s _ _ | .short s _ _
  | .bracketed s _ _ | .repetition s _ _ _ | .group s _ _ | .alternation s _ | .concat s _ => s
  | .literal l => l.span

/-! ## Nesting -/

def ClassItem.span : ClassItem → Span
  | .literal l => l.span
  | .range s _ _ | .ascii s _ _ | .property s _ _ | .short s _ _ | .bracketed s _ _ => s

def itemsSpan (items : List ClassItem) : Span :=
  match items, items.getLast? with
  | a :: _, some b => ⟨a.span.first, b.span.last⟩
  | _, _ => ⟨0, 0⟩

mutual

/-- The first bracket of a class item that lies more than `room` levels deep. -/
def ClassItem.tooDeep? : Nat → ClassItem → Option Span
  | 0, .bracketed s _ _ => some s
  | room + 1, .bracketed _ _ set => ClassSet.tooDeep? room set
  | _, _ => none

def ClassSet.tooDeep? : Nat → ClassSet → Option Span
  | room, .union [] => ClassItem.firstTooDeep? room []
  | room, .union [item] => ClassItem.firstTooDeep? room [item]
  | 0, .union items => some (itemsSpan items)
  | room + 1, .union items => ClassItem.firstTooDeep? room items
  | 0, .binary s _ _ _ => some s
  | room + 1, .binary _ _ left right =>
    (ClassSet.tooDeep? room left).orElse fun _ => ClassSet.tooDeep? room right

def ClassItem.firstTooDeep? : Nat → List ClassItem → Option Span
  | _, [] => none
  | room, item :: rest =>
    (ClassItem.tooDeep? room item).orElse fun _ => ClassItem.firstTooDeep? room rest

end

mutual

/-- The first part of a pattern that lies more than `room` levels deep. -/
def Ast.tooDeep? : Nat → Ast → Option Span
  | 0, .bracketed s _ _ | 0, .repetition s _ _ _ | 0, .group s _ _ | 0, .alternation s _
  | 0, .concat s _ => some s
  | room + 1, .bracketed _ _ set => set.tooDeep? room
  | room + 1, .repetition _ _ _ sub => Ast.tooDeep? room sub
  | room + 1, .group _ _ sub => Ast.tooDeep? room sub
  | room + 1, .alternation _ subs => Ast.firstTooDeep? room subs
  | room + 1, .concat _ subs => Ast.firstTooDeep? room subs
  | _, .empty _ | _, .flags _ _ | _, .literal _ | _, .dot _ | _, .assertion _ _
  | _, .property _ _ _ | _, .short _ _ _ => none

def Ast.firstTooDeep? : Nat → List Ast → Option Span
  | _, [] => none
  | room, sub :: rest => (Ast.tooDeep? room sub).orElse fun _ => Ast.firstTooDeep? room rest

end

/-- A pattern may nest this deep. -/
def nestingLimit : Nat := 250

end Paradigm.Regex
