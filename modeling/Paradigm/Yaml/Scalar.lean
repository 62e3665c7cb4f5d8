import Paradigm.Text

/-!
# What a plain scalar denotes

A scalar without quotes may stand for nothing, a truth value or a number, and else stands for
itself.
-/

namespace Paradigm.Yaml

namespace Scalar

/-- What a plain scalar stands for; a number is kept as it is written. -/
inductive Kind where
  | null
  | bool (b : Bool)
  | number
  | text
deriving DecidableEq

def isNull (text : String) : Bool := ["null", "Null", "NULL", "~"].contains text

def bool? (text : String) : Option Bool :=
  if ["true", "True", "TRUE"].contains text then some true
  else if ["false", "False", "FALSE"].contains text then some false
  else none

/-! ## Numbers -/

def dropSign : List Char → List Char
  | c :: rest => if c = '+' ∨ c = '-' then rest else c :: rest
  | [] => []

def hasLeadingZero (text : List Char) : Bool :=
  match dropSign text with
  | c :: rest => c == '0' && !rest.isEmpty && rest.all Text.isDigit
  | [] => false

def base? : Char → Option Nat
  | 'x' => some 16
  | 'o' => some 8
  | 'b' => some 2
  | _ => none

def digitsValue? (base : Nat) (text : List Char) : Option Nat :=
  if text.isEmpty then none
  else text.foldlM (fun n c => ((Text.hexDigit? c).filter (· < base)).map (base * n + ·)) 0

/-- A number with a base in front, which fits into 128 bits. -/
def isBasedInteger (text : List Char) : Bool :=
  let fits (bound : Nat) (digits : List Char) : Bool :=
    match digits with
    | '0' :: letter :: rest =>
      ((base? letter).bind fun base => digitsValue? base rest).any (· ≤ bound)
    | _ => false
  match text with
  | '-' :: rest => fits (Nat.pow 2 127) rest
  | '+' :: rest => fits (Nat.pow 2 128 - 1) rest
  | _ => fits (Nat.pow 2 128 - 1) text

/-- A decimal numeral: the number of its digits, and its value as `mantissa * 10 ^ exponent`. -/
structure Decimal where
  places : Nat
  mantissa : Nat
  exponent : Int

def exponent? : List Char → Option Int
  | [] => some 0
  | e :: rest =>
    if e = 'e' ∨ e = 'E' then
      (Text.decimal? (dropSign rest)).map fun n => if rest.head? = some '-' then -n else n
    else none

def decimal? (text : List Char) : Option Decimal :=
  let whole := text.takeWhile Text.isDigit
  let rest := text.dropWhile Text.isDigit
  let (fraction, rest) :=
    match rest with
    | '.' :: rest => (rest.takeWhile Text.isDigit, rest.dropWhile Text.isDigit)
    | _ => ([], rest)
  match Text.decimal? (whole ++ fraction), exponent? rest with
  | some mantissa, some exponent =>
    some ⟨(whole ++ fraction).length, mantissa, exponent - fraction.length⟩
  | _, _ => none

/-- The least number that is too large for a double. -/
def overflow : Nat := Nat.pow 2 1024 - Nat.pow 2 970

/-- The number is nearest to a finite double. Numbers of few digits and of great exponents are told
apart first, so that no great power is computed. -/
def Decimal.isFinite (d : Decimal) : Bool :=
  d.mantissa == 0 || d.places + d.exponent ≤ 308
    || (d.exponent ≤ 400 &&
      if 0 ≤ d.exponent then decide (d.mantissa * Nat.pow 10 d.exponent.toNat < overflow)
      else decide (d.mantissa < overflow * Nat.pow 10 (-d.exponent).toNat))

/-- Infinities and what is no number have names of their own. -/
def isSpecialNumber (text : String) : Bool :=
  [".inf", ".Inf", ".INF", "+.inf", "+.Inf", "+.INF", "-.inf", "-.Inf", "-.INF",
    ".nan", ".NaN", ".NAN"].contains text

def isNumber (text : String) : Bool :=
  let cs := text.toList
  isSpecialNumber text || isBasedInteger cs
    || (!hasLeadingZero cs && (decimal? (dropSign cs)).any Decimal.isFinite)

/-! ## Kinds -/

/-- What a text denotes if it stands without quotes. -/
def kind (text : String) : Kind :=
  if text.isEmpty || isNull text then .null
  else match bool? text with
    | some b => .bool b
    | none => if isNumber text then .number else .text

end Scalar

end Paradigm.Yaml
