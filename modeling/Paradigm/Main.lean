import Paradigm.Command.Run

/-!
# The command line
-/

namespace Paradigm

def readFailure : IO.Error → ReadFailure
  | .noFileOrDirectory .. => .notFound
  | .inappropriateType _ code _ => if code = 20 then .notDirectory else .isDirectory
  | e => .other (toString e)

def readFromDisk : FileReader IO := fun path => do
  try
    match String.fromUTF8? (← IO.FS.readBinFile path) with
    | some text => return .ok text
    | none => return .error .invalidEncoding
  catch e => return .error (readFailure e)

end Paradigm

open Paradigm in
/-- Times are not measured. -/
def main (arguments : List String) : IO UInt32 := do
  let outcome ← runCommand readFromDisk "0ns" arguments
  IO.print outcome.output
  IO.eprint outcome.complaint
  return outcome.exitCode.toUInt32
