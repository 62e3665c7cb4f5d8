import Paradigm.Regex.Error

/-!
# Errors of compilation and generation

An error is a fault together with where it was met: the category, and the parts that were being
generated at that time, the outermost first.
-/

namespace Paradigm

/-- What can go wrong in compiling, resolving and generating. -/
inductive Fault where
  | unknownCategory (name : String) (referencedBy : Option String)
  | inheritanceTooDeep (start : String) (limit : Nat)
  | unknownPart (part : String)
  | cyclicReference (cycle : List String)
  | patternMismatch (source value pattern : String)
  | templateRejected (part pattern template reason : String)
  | invalidPattern (part pattern : String) (cause : Regex.Error)
  | expansionTooDeep (template : String) (limit : Nat)
deriving DecidableEq

def Fault.message : Fault → String
  | .unknownCategory name none => s!"unknown category '{name}'"
  | .unknownCategory name (some child) => s!"unknown category '{name}' (inherited by '{child}')"
  | .inheritanceTooDeep start limit =>
    s!"probable inheritance loop expanding rules for '{start}' (more than {limit} parents)"
  | .unknownPart part => s!"no such part '{part}'"
  | .cyclicReference cycle => "cyclic part reference: " ++ " -> ".intercalate cycle
  | .patternMismatch source value pattern =>
    s!"value of '{source}', '{value}', does not match pattern '{pattern}'"
  | .templateRejected part pattern template reason =>
    s!"error expanding '{pattern}' with '{template}' in part '{part}': {reason}"
  | .invalidPattern part pattern cause =>
    s!"invalid pattern '{pattern}' in part '{part}': {cause.reason}"
  | .expansionTooDeep template limit =>
    s!"template '{template}' still has placeholders after {limit} substitutions"

/-- A fault with the category and the parts, outermost first, that were being worked on. -/
structure Error where
  fault : Fault
  category : Option String := none
  trail : List String := []
deriving DecidableEq

namespace Error

/-- Names the category, unless one is named already. -/
def inCategory (e : Error) (category : String) : Error :=
  { e with category := e.category.orElse fun _ => some category }

/-- Sets the parts being generated, unless they are set already. -/
def withTrail (e : Error) (trail : List String) : Error :=
  if e.trail.isEmpty then { e with trail } else e

/-- Where the error was met, as the beginning of its message. -/
def context (category : Option String) (trail : List String) : String :=
  match category, trail with
  | none, [] => ""
  | some c, [] => s!"category '{c}': "
  | none, trail => "generating " ++ " > ".intercalate trail ++ ": "
  | some c, trail => s!"category '{c}', generating " ++ " > ".intercalate trail ++ ": "

def message (e : Error) : String := context e.category e.trail ++ e.fault.message

/-- The error in the pattern that lies behind this one. -/
def cause? (e : Error) : Option Regex.Error :=
  match e.fault with
  | .invalidPattern _ _ cause => some cause
  | _ => none

end Error

end Paradigm
