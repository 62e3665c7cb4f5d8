import Paradigm.Unicode.CodeRanges
import Paradigm.Unicode.GeneralCategory
import Paradigm.Unicode.Property

/-!
# Word, digit and space characters

The three classes that patterns and placeholders test most often, and the general categories they
are made of.
-/

namespace Paradigm.Unicode

/-- The set of a single general category, empty under an unknown name. -/
def category (name : String) : CharSet := (find? generalCategories name).getD .empty

def categories (names : List String) : CharSet := .unions (names.map category)

/-- A property that is listed as such, empty under an unknown name. -/
def listed (name : String) : CharSet := (find? listedProperties name).getD .empty

def rest (name : String) : CharSet := (find? derivedPropertyRests name).getD .empty

/-! ## Letters -/

def lowercase : CharSet := (category "ll").union (rest "otherlowercase")

def uppercase : CharSet := (category "lu").union (rest "otheruppercase")

def alphabetic : CharSet :=
  .unions [lowercase, uppercase, categories ["lt", "lm", "lo", "nl"], rest "otheralphabetic"]

/-! ## The three classes -/

def digit : CharSet := category "nd"

def space : CharSet := listed "whitespace"

/-- Letters, marks, decimal digits, connector punctuation and joiners. -/
def word : CharSet :=
  .unions [alphabetic, categories ["mn", "mc", "me", "nd", "pc"], listed "joincontrol"]

def asciiDigit : CharSet := .ofIntervals [('0', '9')]

def asciiSpace : CharSet := .ofIntervals [('\t', '\r'), (' ', ' ')]

def asciiWord : CharSet := .ofIntervals [('0', '9'), ('A', 'Z'), ('_', '_'), ('a', 'z')]

def isAsciiWord (c : Char) : Bool := Text.isAsciiLetter c || Text.isDigit c || c == '_'

/-- A word character; below the ASCII limit the table is not consulted. -/
def isWord (c : Char) : Bool :=
  if c.toNat < 128 then isAsciiWord c else word.contains c

/-- White space; below the ASCII limit the table is not consulted. -/
def isSpace (c : Char) : Bool :=
  if c.toNat < 128 then c == ' ' || ('\t' ≤ c && c ≤ '\r') else space.contains c

end Paradigm.Unicode
