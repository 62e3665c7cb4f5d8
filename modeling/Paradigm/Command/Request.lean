import Paradigm.Text

/-!
# Requests on the command line

What the arguments ask for, or what is wrong with them. Arguments are read from left to right, and
the first that is wrong is the one that is reported; what is missing shows at the end.
-/

namespace Paradigm

inductive SeedError where
  | noValue
  | noName
deriving DecidableEq

/-- What can be wrong with arguments. -/
inductive UsageError where
  | noCommand
  | unexpected (argument : String)
  | needlessValue (option : String)
  | missingValue (option : String)
  | emptyValue (option : String)
  | badSeed (argument : String) (reason : SeedError)
  | repeated (option : String)
  | conflict (option other : String)
  | missing (what : String)
deriving DecidableEq

namespace UsageError

def message : UsageError → String
  | noCommand => "a command is required"
  | unexpected argument => s!"unexpected argument '{argument}'"
  | needlessValue option => s!"'{option}' takes no value"
  | missingValue option => s!"'{option}' needs a value"
  | emptyValue option => s!"the value of '{option}' is empty"
  | badSeed argument .noValue => s!"invalid seed '{argument}' (expected part=value)"
  | badSeed argument .noName => s!"invalid seed '{argument}' (empty part name)"
  | repeated option => s!"'{option}' cannot be used multiple times"
  | conflict option other => s!"'{option}' cannot be used with '{other}'"
  | missing what => s!"'{what}' is required"

end UsageError

/-- What to generate for one headword, and how to show it. -/
structure GenerateRequest where
  rules : String
  category : String
  seeds : List (String × String)
  color : Bool
  parts : List String
deriving DecidableEq

/-- What a user asks for: a text about the program, the table, or the forms of one headword. -/
inductive Request where
  | help
  | version
  | table (directory : String)
  | generate (r : GenerateRequest)
deriving DecidableEq

/-! ## Options -/

/-- A part and its value from a text with an equals sign between them. -/
def readSeed (argument : String) : Except UsageError (String × String) :=
  let text := argument.toList
  let part := text.takeWhile (· != '=')
  match text.dropWhile (· != '=') with
  | _ :: value =>
    if part.isEmpty then .error (.badSeed argument .noName)
    else .ok (String.ofList part, String.ofList value)
  | [] => .error (.badSeed argument .noValue)

inductive OptionKind where
  | flag
  | text
  | path
  | seed
deriving DecidableEq

structure OptionForm where
  name : String
  kind : OptionKind

/-- What a command takes: options, and texts without a name. -/
structure CommandForm where
  options : List OptionForm
  takesParts : Bool

namespace CommandForm

def table : CommandForm := ⟨[⟨"--data-dir", .path⟩], false⟩

def generate : CommandForm where
  options := [⟨"--rules", .path⟩, ⟨"--category", .text⟩, ⟨"--seed", .seed⟩, ⟨"--color", .flag⟩,
    ⟨"--no-color", .flag⟩]
  takesParts := true

end CommandForm

/-! ## Reading arguments -/

/-- The arguments read so far: options with their values, and parts, in order. -/
structure Given where
  options : List (OptionForm × String) := []
  parts : List String := []
  /-- An option whose value is not checked before the next argument is known. -/
  pending : Option (OptionForm × String) := none

namespace Given

def values (g : Given) (name : String) : List String :=
  (g.options.filter (·.1.name == name)).map (·.2)

def has (g : Given) (name : String) : Bool := !(g.values name).isEmpty

def add (g : Given) (form : OptionForm) (value : String) : Except UsageError Given :=
  let taken : Given := { g with options := g.options ++ [(form, value)] }
  match form.kind with
  | .seed => (readSeed value).map fun _ => taken
  | .path =>
    if g.has form.name then .error (.repeated form.name)
    else if value.isEmpty then .error (.emptyValue form.name)
    else .ok taken
  | _ => if g.has form.name then .error (.repeated form.name) else .ok taken

def settle (g : Given) : Except UsageError Given :=
  match g.pending with
  | none => .ok g
  | some (form, value) => { g with pending := none }.add form value

def addPart (g : Given) (part : String) : Except UsageError Given :=
  g.settle.map fun g => { g with parts := g.parts ++ [part] }

end Given

/-- An argument that can be the value of an option before it: a hyphen by itself can. -/
def isValue (argument : String) : Bool :=
  !Text.hasPrefix "-" argument || argument == "-"

/-- The name of a long option, and the value attached to it. -/
def splitOption (argument : String) : String × Option String :=
  let text := argument.toList
  match text.dropWhile (· != '=') with
  | _ :: value => (String.ofList (text.takeWhile (· != '=')), some (String.ofList value))
  | [] => (argument, none)

def isHelp (argument : String) : Bool := argument == "--help" || Text.hasPrefix "-h" argument

namespace CommandForm

def addParts (form : CommandForm) : List String → Given → Except UsageError Given
  | [], g => .ok g
  | part :: rest, g =>
    if form.takesParts then
      match g.addPart part with
      | .error e => .error e
      | .ok g => addParts form rest g
    else .error (.unexpected part)

/-- Reads arguments from left to right. No outcome is a call for help. -/
def read (form : CommandForm) : List String → Given → Except UsageError (Option Given)
  | [], g => g.settle.map some
  | argument :: rest, g =>
    if argument = "--" then
      match form.addParts rest g with
      | .error e => .error e
      | .ok g => g.settle.map some
    else if isValue argument then
      match form.addParts [argument] g with
      | .error e => .error e
      | .ok g => read form rest g
    else if isHelp argument then g.settle.map fun _ => none
    else
      let (name, attached) := splitOption argument
      match form.options.find? (·.name == name), attached with
      | none, _ => .error (.unexpected argument)
      | some option, some value =>
        if option.kind = .flag then .error (.needlessValue name)
        else
          match g.settle.bind (·.add option value) with
          | .error e => .error e
          | .ok g => read form rest g
      | some option, none =>
        match g.settle with
        | .error e => .error e
        | .ok g =>
          if option.kind = .flag then
            match g.add option "" with
            | .error e => .error e
            | .ok g => read form rest g
          else
            match rest with
            | value :: rest =>
              if isValue value then read form rest { g with pending := some (option, value) }
              else .error (.missingValue name)
            | [] => .error (.missingValue name)

end CommandForm

/-! ## Requests -/

namespace Request

def defaultDirectory : String := "data"

def ofTable (g : Given) : Request := .table ((g.values "--data-dir").headD defaultDirectory)

def ofGenerate (g : Given) : Except UsageError Request :=
  if g.has "--color" && g.has "--no-color" then .error (.conflict "--color" "--no-color")
  else match (g.values "--rules").head?, (g.values "--category").head?, g.parts with
    | none, _, _ => .error (.missing "--rules")
    | _, none, _ => .error (.missing "--category")
    | _, _, [] => .error (.missing "PARTS")
    | some rules, some category, parts =>
      match (g.values "--seed").mapM readSeed with
      | .error e => .error e
      | .ok seeds => .ok (.generate { rules, category, seeds, color := g.has "--color", parts })

/-- The request of a list of arguments, the first of which is the command. -/
def ofArguments : List String → Except UsageError Request
  | [] => .error .noCommand
  | argument :: rest =>
    if argument = "--version" ∨ Text.hasPrefix "-V" argument then .ok .version
    else if argument = "help" ∨ isHelp argument then .ok .help
    else if argument = "table" then
      (CommandForm.table.read rest {}).map fun
        | some g => ofTable g
        | none => .help
    else if argument = "generate" then
      match CommandForm.generate.read rest {} with
      | .error e => .error e
      | .ok none => .ok .help
      | .ok (some g) => ofGenerate g
    else .error (.unexpected argument)

end Request

end Paradigm
