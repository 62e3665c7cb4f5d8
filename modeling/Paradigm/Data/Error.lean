/-!
# Errors in reading data files
-/

namespace Paradigm

inductive ReadFailure where
  | notFound
  | notDirectory
  | isDirectory
  | invalidEncoding
  | other (description : String)
deriving DecidableEq

def ReadFailure.message : ReadFailure → String
  | .notFound => "No such file or directory (os error 2)"
  | .notDirectory => "Not a directory (os error 20)"
  | .isDirectory => "Is a directory (os error 21)"
  | .invalidEncoding => "stream did not contain valid UTF-8"
  | .other description => description

/-- A file that cannot be read, or whose text has not the shape that is asked for. -/
inductive DataError where
  | unreadable (path : String) (failure : ReadFailure)
  | malformed (path : String)
deriving DecidableEq

namespace DataError

def message : DataError → String
  | unreadable path _ => "failed to read " ++ path
  | malformed path => "failed to parse " ++ path

def causes : DataError → List String
  | unreadable _ failure => [failure.message]
  | malformed _ => ["the text is not YAML of the expected shape"]

end DataError

end Paradigm
