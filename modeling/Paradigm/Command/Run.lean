import Paradigm.Command.Request
import Paradigm.Data.Load
import Paradigm.Report
import Paradigm.Yaml.Layout

/-!
# Carrying out requests

What a request writes, given a way to read files. A failure is reported with all that lies behind
it.
-/

namespace Paradigm

/-- What a command leaves behind: a code, and texts for the two streams. -/
structure Outcome where
  exitCode : Nat
  output : String := ""
  complaint : String := ""
deriving DecidableEq

/-- Why a request was not carried out. -/
inductive Failure where
  | table (e : TableError)
  | data (e : DataError)
  | engine (e : Error)
  | outOfFuel
deriving DecidableEq

namespace Failure

def message : Failure → String
  | table e => e.message
  | data e => e.message
  | engine e => e.message
  | outOfFuel => "a template expands without end"

def causes : Failure → List String
  | table e => e.causes
  | data e => e.causes
  | engine e => (e.cause?.map Regex.Error.report).toList
  | outOfFuel => []

def ofHalt : Halt → Failure
  | .failed e => engine e
  | .outOfFuel => outOfFuel

/-- The failure and what lies behind it, each on a line of its own. -/
def report (f : Failure) : String :=
  "error: " ++ f.message ++ "\n"
    ++ String.join (f.causes.map fun cause => "  caused by: " ++ cause ++ "\n")

end Failure

variable {m : Type → Type} [Monad m]

/-- Loads and compiles the rules, generates the parts and shows what came of it. -/
def GenerateRequest.perform (read : FileReader m) (elapsed : String) (r : GenerateRequest) :
    m (Except Failure String) := do
  match ← Repository.load read r.rules with
  | .error e => return .error (.data e)
  | .ok repository =>
    match Grammar.compile repository with
    | .error e => return .error (.engine e)
    | .ok grammar =>
      match generateReport grammar r.category r.seeds r.parts with
      | .error halt => return .error (.ofHalt halt)
      | .ok report => return .ok (report.render r.color elapsed r.parts)

namespace Request

def helpText : String :=
  "Rule-driven inflection generator\n\n"
    ++ "Usage: inflect table [--data-dir <DATA_DIR>]\n"
    ++ "       inflect generate --rules <RULES> --category <CATEGORY> [--seed <PART=VALUE>]...\n"
    ++ "                        [--color | --no-color] <PARTS>...\n"

def versionText : String := "inflect 0.1.0\n"

/-- What a request writes; `elapsed` stands wherever a time is shown. -/
def perform (read : FileReader m) (elapsed : String) : Request → m (Except Failure String)
  | help => return .ok helpText
  | version => return .ok versionText
  | table directory => do
    match ← loadTable read directory with
    | .error e => return .error (.table e)
    | .ok rows => return .ok rows.toYaml
  | generate r => r.perform read elapsed

end Request

namespace Outcome

def ofUsageError (e : UsageError) : Outcome :=
  { exitCode := 2, complaint := "error: " ++ e.message ++ "\n" }

def ofResult : Except Failure String → Outcome
  | .ok output => { exitCode := 0, output }
  | .error f => { exitCode := 1, complaint := f.report }

end Outcome

/-- Reads the arguments and carries out what they ask for. -/
def runCommand (read : FileReader m) (elapsed : String)
    (arguments : List String) : m Outcome :=
  match Request.ofArguments arguments with
  | .error e => return .ofUsageError e
  | .ok request => return .ofResult (← request.perform read elapsed)

end Paradigm
