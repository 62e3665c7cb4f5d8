import Paradigm.CharSet

/-!
# Expressions

What a pattern means once flags are resolved, in a normal form: sequences and alternatives are
flat, neighbouring characters are one text, alternatives of single characters are one set, and
alternatives that begin alike share their beginning.
-/

namespace Paradigm.Regex

/-- A condition on a place in the text. -/
inductive Look where
  | textStart
  | textEnd
  | lineStart
  | lineEnd
  | lineStartCarriage
  | lineEndCarriage
  | wordBoundary (ascii : Bool)
  | notWordBoundary (ascii : Bool)
  | wordStart (ascii : Bool)
  | wordEnd (ascii : Bool)
  | wordStartHalf (ascii : Bool)
  | wordEndHalf (ascii : Bool)
deriving DecidableEq

/-- A pattern without flags: what it matches, and which groups it keeps. -/
inductive Expr where
  | empty
  | text (chars : List Char)
  | set (chars : CharSet)
  | look (look : Look)
  | repetition (min : Nat) (max : Option Nat) (greedy : Bool) (sub : Expr)
  | capture (index : Nat) (name : Option String) (sub : Expr)
  | concat (subs : List Expr)
  | alternation (subs : List Expr)

namespace Expr

mutual

def beq : Expr → Expr → Bool
  | empty, empty => true
  | text a, text b => a == b
  | set a, set b => a == b
  | look a, look b => a == b
  | repetition m n g a, repetition m' n' g' b => m == m' && n == n' && g == g' && beq a b
  | capture i n a, capture i' n' b => i == i' && n == n' && beq a b
  | concat a, concat b => beqAll a b
  | alternation a, alternation b => beqAll a b
  | _, _ => false

def beqAll : List Expr → List Expr → Bool
  | [], [] => true
  | a :: as, b :: bs => beq a b && beqAll as bs
  | _, _ => false

end

/-! ## Lengths of matches -/

mutual

/-- Some text matches, and no empty one does. -/
def consumes : Expr → Bool
  | empty | look _ => false
  | text chars => !chars.isEmpty
  | set chars => !chars.isEmpty
  | repetition min _ _ sub => min != 0 && consumes sub
  | capture _ _ sub => consumes sub
  | concat subs => bounded subs && consumesSome subs
  | alternation subs => consumesAll subs

def consumesSome : List Expr → Bool
  | [] => false
  | sub :: rest => consumes sub || consumesSome rest

def consumesAll : List Expr → Bool
  | [] => true
  | sub :: rest => consumes sub && consumesAll rest

/-- No part is known to match nothing at all. -/
def bounded : List Expr → Bool
  | [] => true
  | sub :: rest => hasMinimum sub && bounded rest

/-- The expression is not known to match nothing at all. -/
def hasMinimum : Expr → Bool
  | set chars => !chars.isEmpty
  | empty | look _ | text _ => true
  | repetition _ _ _ sub => hasMinimum sub
  | capture _ _ sub => hasMinimum sub
  | concat subs => bounded subs
  | alternation subs => bounded subs

end

mutual

/-- Only the empty text can match. -/
def onlyEmpty : Expr → Bool
  | empty | look _ => true
  | text chars => chars.isEmpty
  | set _ => false
  | repetition _ max _ sub => onlyEmpty sub && max.isSome || max == some 0
  | capture _ _ sub => onlyEmpty sub
  | concat subs => onlyEmptyAll subs
  | alternation subs => onlyEmptyAll subs

def onlyEmptyAll : List Expr → Bool
  | [] => true
  | sub :: rest => onlyEmpty sub && onlyEmptyAll rest

end

/-! ## Building in normal form -/

def ofSet (chars : CharSet) : Expr :=
  match chars.single? with
  | some c => text [c]
  | none => set chars

/-- What can match the empty text alone need not be repeated; once is the thing itself. -/
def ofRepetition (min : Nat) (max : Option Nat) (greedy : Bool) (sub : Expr) : Expr :=
  let (min, max) :=
    if sub.onlyEmpty then (Nat.min min 1, some (Nat.min (max.getD 1) 1)) else (min, max)
  if min = 0 ∧ max = some 0 then empty
  else if min = 1 ∧ max = some 1 then sub
  else repetition min max greedy sub

/-- Parts of a sequence with nested sequences opened and empty parts left out. -/
def flatten : List Expr → List Expr
  | [] => []
  | empty :: rest => flatten rest
  | concat subs :: rest => subs ++ flatten rest
  | sub :: rest => sub :: flatten rest

def joinTexts : List Expr → List Expr
  | [] => []
  | sub :: rest =>
    match sub, joinTexts rest with
    | text a, text b :: tail => text (a ++ b) :: tail
    | sub, tail => sub :: tail

def ofConcat (subs : List Expr) : Expr :=
  match joinTexts (flatten subs) with
  | [] => empty
  | [sub] => sub
  | subs => concat subs

def singleChars? : Expr → Option CharSet
  | text [c] => some (.singleton c)
  | set chars => some chars
  | _ => none

def commonStart : List Expr → List Expr → List Expr
  | a :: as, b :: bs => if a.beq b then a :: commonStart as bs else []
  | _, _ => []

def parts? : Expr → Option (List Expr)
  | concat subs => some subs
  | _ => none

def openAlternatives : List Expr → List Expr
  | [] => []
  | alternation subs :: rest => subs ++ openAlternatives rest
  | sub :: rest => sub :: openAlternatives rest

/-- Alternatives without a common beginning to take out. The fuel bounds how often one is found. -/
def ofAlternatives : Nat → List Expr → Expr
  | fuel, subs =>
    match openAlternatives subs with
    | [] => set .empty
    | [sub] => sub
    | subs =>
      match subs.mapM singleChars? with
      | some sets => ofSet (.unions sets)
      | none =>
        match fuel, subs.mapM parts? with
        | fuel + 1, some (first :: others) =>
          let start := others.foldl commonStart first
          if start.isEmpty then alternation subs
          else
            let tails := (first :: others).map fun parts => ofConcat (parts.drop start.length)
            ofConcat (start ++ [ofAlternatives fuel tails])
        | _, _ => alternation subs

def partCount : List Expr → Nat
  | [] => 0
  | concat subs :: rest => subs.length + partCount rest
  | _ :: rest => partCount rest

/-- Alternatives in normal form. -/
def ofAlternation (subs : List Expr) : Expr :=
  ofAlternatives (partCount (openAlternatives subs) + 1) subs

end Expr

end Paradigm.Regex
