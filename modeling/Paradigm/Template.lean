import Paradigm.Regex
import Paradigm.Text

/-!
# Replacement templates

The text that a substitution writes: literal characters and references to groups of its pattern.
A template is read against the groups of one pattern, so that filling it in cannot fail.
-/

namespace Paradigm

inductive TemplateError where
  | badEscape (c : Char)
  | trailingBackslash
  | invalidGroup (digits : String)
  | unknownGroupName (name : String)
  | missingGroupName
  | octalOutOfRange (digits : String)
deriving DecidableEq

def TemplateError.message : TemplateError → String
  | .badEscape c => "bad escape \\" ++ c.toString
  | .trailingBackslash => "bad escape (end of template)"
  | .invalidGroup digits => "invalid group reference " ++ digits
  | .unknownGroupName name => "unknown group name '" ++ name ++ "'"
  | .missingGroupName => "missing group name in \\g<...>"
  | .octalOutOfRange digits => "octal escape value \\" ++ digits ++ " outside of range 0-0o377"

/-- A part of a template: literal text, or a group by number or by name. -/
inductive Piece where
  | literal (text : List Char)
  | group (index : Nat)
  | named (name : String)
deriving DecidableEq

/-- A template that has been read, with its text. -/
structure Template where
  source : String
  pieces : List Piece
deriving DecidableEq

namespace Template

/-! ## Tokens -/

/-- What a stretch of a template stands for, before it is checked against the pattern. -/
inductive Token where
  | char (c : Char)
  | verbatim (c : Char)
  | number (digits : List Char)
  | name (name : List Char)
  | octal (digits : List Char)
  | bad (error : TemplateError)

def isOctal (c : Char) : Bool := '0' ≤ c && c ≤ '7'

def untilAngle : List Char → Option (List Char × List Char)
  | [] => none
  | c :: rest =>
    if c = '>' then some ([], rest) else (untilAngle rest).map fun p => (c :: p.1, p.2)

/-- A reference from its angle bracket on; digits are a number, all else is a name. -/
def groupToken : List Char → Token × List Char
  | '<' :: rest =>
    match untilAngle rest with
    | none => (.bad .missingGroupName, [])
    | some ([], rest) => (.bad .missingGroupName, rest)
    | some (name, rest) =>
      if name.all Text.isDigit then (.number name, rest) else (.name name, rest)
  | rest => (.bad .missingGroupName, rest)

/-- At most `n` octal digits, and what follows them. -/
def takeOctal : Nat → List Char → List Char × List Char
  | n + 1, c :: rest =>
    if isOctal c then
      let (digits, rest) := takeOctal n rest
      (c :: digits, rest)
    else ([], c :: rest)
  | _, rest => ([], rest)

/-- What follows a backslash and the digit `d`, which is not zero: three octal digits are a
character, and else one or two digits are a group. -/
def digitToken (d : Char) : List Char → Token × List Char
  | [] => (.number [d], [])
  | e :: rest =>
    if Text.isDigit e then
      match rest with
      | f :: rest' =>
        if isOctal d && isOctal e && isOctal f then (.octal [d, e, f], rest')
        else (.number [d, e], rest)
      | [] => (.number [d, e], [])
    else (.number [d], e :: rest)

def control? : Char → Option Char
  | 'a' => some '\x07'
  | 'b' => some '\x08'
  | 'f' => some '\x0C'
  | 'n' => some '\n'
  | 'r' => some '\r'
  | 't' => some '\t'
  | 'v' => some '\x0B'
  | _ => none

/-- What follows a backslash. A letter without a meaning is an error, and any other character
stands for itself and the backslash. -/
def escapeToken : List Char → Token × List Char
  | [] => (.bad .trailingBackslash, [])
  | c :: rest =>
    if c = 'g' then groupToken rest
    else if c = '0' then
      let (digits, rest) := takeOctal 2 rest
      (.octal ('0' :: digits), rest)
    else if Text.isDigit c then digitToken c rest
    else if c = '\\' then (.char c, rest)
    else match control? c with
      | some control => (.char control, rest)
      | none => if Text.isAsciiLetter c then (.bad (.badEscape c), rest) else (.verbatim c, rest)

def nextToken (c : Char) (rest : List Char) : Token × List Char :=
  if c = '\\' then escapeToken rest else (.char c, rest)

/-- The tokens of a template. The fuel bounds their number. -/
def tokensFrom : Nat → List Char → List Token
  | fuel + 1, c :: rest =>
    let (token, rest) := nextToken c rest
    token :: tokensFrom fuel rest
  | _, _ => []

def tokens (source : List Char) : List Token := tokensFrom source.length source

/-! ## Pieces -/

def groupIndex (groups : Nat) (digits : List Char) : Except TemplateError Nat :=
  match Text.decimal? digits with
  | some n => if n < groups then .ok n else .error (.invalidGroup (String.ofList digits))
  | none => .error (.invalidGroup (String.ofList digits))

def octalValue (digits : List Char) : Nat :=
  digits.foldl (fun n d => 8 * n + (d.toNat - '0'.toNat)) 0

def octalChar (digits : List Char) : Except TemplateError Char :=
  if octalValue digits ≤ 0o377 then .ok (Char.ofNat (octalValue digits))
  else .error (.octalOutOfRange (String.ofList digits))

/-- The piece of a token, or what is wrong with it for a pattern with these groups. -/
def pieceOf (names : List (Option String)) : Token → Except TemplateError Piece
  | .char c => .ok (.literal [c])
  | .verbatim c => .ok (.literal ['\\', c])
  | .number digits => (groupIndex names.length digits).map .group
  | .name name =>
    if names.contains (some (String.ofList name)) then .ok (.named (String.ofList name))
    else .error (.unknownGroupName (String.ofList name))
  | .octal digits => (octalChar digits).map fun c => .literal [c]
  | .bad error => .error error

/-- Puts a piece in front of others; neighbouring literals become one. -/
def consPiece : Piece → List Piece → List Piece
  | .literal a, .literal b :: rest => .literal (a ++ b) :: rest
  | piece, rest => piece :: rest

/-- The pieces of tokens, or the fault of the first token that has one. -/
def piecesOf (names : List (Option String)) : List Token → Except TemplateError (List Piece)
  | [] => .ok []
  | token :: rest =>
    match pieceOf names token with
    | .error e => .error e
    | .ok piece => (piecesOf names rest).map (consPiece piece)

/-- Reads a template for a pattern whose groups have these names, the whole match first. -/
def parse (names : List (Option String)) (source : String) : Except TemplateError Template :=
  (piecesOf names (tokens source.toList)).map fun pieces => ⟨source, pieces⟩

/-! ## Filling in -/

/-- A group that took no part in the match stands for nothing. -/
def Piece.fill (m : Regex.Match) : Piece → String
  | .literal text => String.ofList text
  | .group index => (m.group? index).getD ""
  | .named name => (m.named? name).getD ""

/-- The text of a template, filled in with the groups of a match. -/
def expand (t : Template) (m : Regex.Match) : String :=
  String.join (t.pieces.map (Piece.fill m))

end Template

end Paradigm
