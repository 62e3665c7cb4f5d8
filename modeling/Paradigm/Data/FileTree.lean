import Paradigm.Data.Error
import Paradigm.Text

/-!
# Files in memory

A tree of files, given by their paths from its root. Reading from it fails where reading from a
disk would, and for the same reason.
-/

namespace Paradigm

/-- What a path of a tree leads to; bytes that are no text are kept apart from texts. -/
inductive Leaf where
  | text (content : String)
  | bytes
  | directory
deriving DecidableEq

/-- Paths from the root, and what they lead to. A directory that holds something needs no entry. -/
abbrev FileTree := List (List String × Leaf)

namespace FileTree

def names (path : String) : List String :=
  ((Text.splitOn '/' path.toList).map String.ofList).filter fun name => name != "" && name != "."

def ofPaths (files : List (String × Leaf)) : FileTree :=
  files.map fun (path, leaf) => (names path, leaf)

def isDirectory (t : FileTree) (place : List String) : Bool :=
  place.isEmpty || t.any fun (path, leaf) =>
    (path == place && leaf == .directory) || (path.length > place.length && place.isPrefixOf path)

/-- Goes from a place along names; two dots lead back. -/
def walk (t : FileTree) : (place : List String) → List String → Except ReadFailure (List String)
  | place, [] => .ok place
  | place, name :: rest =>
    if t.isDirectory place then
      walk t (if name = ".." then place.dropLast else place ++ [name]) rest
    else if t.any (·.1 == place) then .error .notDirectory
    else .error .notFound

/-- The path asks for a directory by what follows its last slash. -/
def asksForDirectory (path : String) : Bool :=
  (Text.splitOn '/' path.toList).getLast?.any fun name => name == [] || name == ['.']

/-- The text at a path, or the failure that a disk would report. -/
def read (t : FileTree) (path : String) : Except ReadFailure String :=
  match t.walk [] (names path) with
  | .error failure => .error failure
  | .ok place =>
    if t.isDirectory place then .error .isDirectory
    else match t.find? (·.1 == place) with
      | none => .error .notFound
      | some (_, leaf) =>
        if asksForDirectory path then .error .notDirectory
        else match leaf with
          | .text content => .ok content
          | .bytes => .error .invalidEncoding
          | .directory => .error .isDirectory

end FileTree

end Paradigm
