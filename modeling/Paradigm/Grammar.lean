import Paradigm.Error
import Paradigm.Rule
import Paradigm.Template

/-!
# Grammars

A grammar is a repository whose patterns and replacement templates have been checked. Patterns
match whole values: each is compiled between anchors.
-/

namespace Paradigm

/-- A rewriting rule whose template refers to groups of its pattern only. -/
structure Substitution where
  source : String
  pattern : String
  regex : Regex
  template : Template

/-- A rule ready for use: a text with placeholders, or a substitution. -/
inductive Rule where
  | pattern (text : String)
  | substitution (s : Substitution)

/-- A category with rules ready for use. -/
structure Category where
  parent : Option String
  parts : SortedMap (List Rule)

/-- Categories by name. A parent need not exist until a category that inherits from it is used. -/
abbrev Grammar := SortedMap Category

/-- A pattern between the anchors of a whole text. -/
def anchored (pattern : String) : String := "^(?:" ++ pattern ++ ")$"

/-- Compiles the pattern of a rule and reads its template. An error names the part. -/
def Rule.compile (part : String) : RuleSpec → Except Error Rule
  | .template text => .ok (.pattern text)
  | .rewrite spec =>
    match Regex.compile (anchored spec.pattern) with
    | .error cause => .error { fault := .invalidPattern part spec.pattern cause }
    | .ok regex =>
      match Template.parse regex.groupNames spec.replacement with
      | .error reason =>
        .error { fault := .templateRejected part spec.pattern spec.replacement reason.message }
      | .ok template => .ok (.substitution ⟨spec.source, spec.pattern, regex, template⟩)

/-- Compiles alternatives in order, up to the first that is faulty. -/
def Rule.compileAll (part : String) : List RuleSpec → Except Error (List Rule)
  | [] => .ok []
  | spec :: rest =>
    match Rule.compile part spec with
    | .error e => .error e
    | .ok rule => (Rule.compileAll part rest).map (rule :: ·)

/-- Compiles the rules of all parts, in the order of their names. -/
def Category.compile (spec : CategorySpec) : Except Error Category :=
  (spec.rules.traverse fun part entry => Rule.compileAll part entry.alternatives).map fun parts =>
    { parent := spec.parent, parts }

/-- Compiles every category; the first fault by category, part and position is the answer. -/
def Grammar.compile (repository : Repository) : Except Error Grammar :=
  repository.traverse fun name spec =>
    (Category.compile spec).mapError (Error.inCategory · name)

end Paradigm
