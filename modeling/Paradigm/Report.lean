import Paradigm.Generation.Basic

/-!
# Reports

The text that tells what was generated for a headword, with or without colour. Colour only adds
escape sequences: the letters are the same.
-/

namespace Paradigm

/-! ## Colour -/

/-- A colour or weight of text, by its number on the terminal. -/
inductive Style where
  | bold
  | dim
  | red
  | green
  | yellow
  | blue
  | cyan
  | gray

def Style.code : Style → String
  | .bold => "1"
  | .dim => "2"
  | .red => "31"
  | .green => "32"
  | .yellow => "33"
  | .blue => "34"
  | .cyan => "36"
  | .gray => "90"

/-- The sequence that switches a style on, or everything off again. -/
def escape (code : String) : String := "\x1b[" ++ code ++ "m"

/-- Sets a text between the escape sequences of a style, where colour is wanted. -/
def paint (color : Bool) (style : Style) (text : String) : String :=
  if color then escape style.code ++ text ++ escape "0" else text

/-! ## Times -/

/-- The texts of the times that a report shows: of all of it, and of each computed part by the place
of the part. -/
structure Timing where
  total : String
  part : Nat → String

/-- A single text stands wherever a time is shown. -/
instance : Coe String Timing := ⟨fun elapsed => ⟨elapsed, fun _ => elapsed⟩⟩

/-! ## Lines -/

namespace GenerationReport

variable (color : Bool)

def mark (ok : Bool) (label : String) : String :=
  if ok then paint color .green ("✓ " ++ label) else paint color .red ("✗ " ++ label)

def ruler (title : String) : String := paint color .gray ("━━━ " ++ title ++ " ━━━")

def emphasized (style : Style) (text : String) : String :=
  paint color .bold (paint color style text)

def traceLine (elapsed : String) (t : PartTrace) : String :=
  String.join (List.replicate (t.depth + 1) "  ")
    ++ paint color .blue t.part ++ " "
    ++ mark color (0 < t.forms) (toString t.forms ++ " forms") ++ "  "
    ++ paint color .dim (toString t.rules ++ " rules") ++ " "
    ++ paint color .yellow elapsed

def partLines (timing : Timing) : List PartTrace → List String
  | [] => [paint color .dim "  Every requested part was a seed"]
  | traces => traces.mapIdx fun n t => traceLine color (timing.part n) t

def showForms : List String → String
  | [] => mark color false "no forms"
  | forms => ", ".intercalate (forms.map (emphasized color .green))

def resultLine (r : GenerationReport) (part : String) : String :=
  "  " ++ paint color .blue part ++ " " ++ paint color .dim "│" ++ " "
    ++ showForms color ((r.forms.get? part).getD [])

/-- What to do if nothing was generated. -/
def tipLines (r : GenerationReport) : List String :=
  if r.forms.entries.all (·.2.isEmpty) then
    ["", paint color .dim "  Tip: Set INFLECT_DEBUG_RULES=1 to trace every rule evaluation"]
  else []

def totalsLine (elapsed : String) (r : GenerationReport) : String :=
  "  Total: " ++ paint color .green elapsed
    ++ "  │  Forms: " ++ paint color .green (toString r.stats.totalForms)
    ++ "  │  Memo hits: " ++ paint color .cyan (toString r.stats.memoHits)
    ++ "  │  Expansions: " ++ paint color .dim (toString r.stats.expansions)
    ++ "  │  Regex evals: " ++ paint color .dim (toString r.stats.regexEvaluations)

/-- The report, line by line. -/
def lines (timing : Timing) (requested : List String) (r : GenerationReport) : List String :=
  ["", emphasized color .cyan ("⚙  Generating: " ++ r.category),
    "  " ++ paint color .dim "chain:" ++ " " ++ paint color .blue (" → ".intercalate r.chain),
    "", ruler color "Parts"]
  ++ partLines color timing r.stats.computed
  ++ ["", ruler color "Results"]
  ++ requested.map (resultLine color r)
  ++ tipLines color r
  ++ ["", ruler color "Timing", totalsLine color timing.total r, ""]

/-- The report as one text. -/
def render (timing : Timing) (requested : List String) (r : GenerationReport) : String :=
  String.join ((lines color timing requested r).map (· ++ "\n"))

end GenerationReport

end Paradigm
