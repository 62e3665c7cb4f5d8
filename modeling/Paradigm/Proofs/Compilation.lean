import Mathlib.Data.List.Forall2
import Paradigm.Grammar
import Paradigm.Proofs.Result
import Paradigm.Proofs.Template.Writing

/-!
# Compiled grammars

The rules of a repository are compiled by category, part and position. Main statement: if all of
them compile, the grammar has the shape of the repository; otherwise the first one that does not
compile is reported, and where it stands.
-/

namespace Paradigm

/-! ## Maps of results -/

namespace SortedMap

section

variable {α β ε : Type} {f : String → α → Except ε β} {m : SortedMap α}

theorem traverseEntries_eq_mapM (f : String → α → Except ε β) (es : List (String × α)) :
    traverseEntries f es = es.mapM fun p => (f p.1 p.2).map (p.1, ·) := by
  induction es with
  | nil => rfl
  | cons p es ih =>
      rw [traverseEntries, List.mapM_cons, ih]
      cases f p.1 p.2 with
      | error e => rfl
      | ok b =>
          cases es.mapM fun p => (f p.1 p.2).map (p.1, ·) with
          | error e => rfl
          | ok fs => rfl

theorem map_entries_traverse (f : String → α → Except ε β) (m : SortedMap α) :
    (m.traverse f).map entries = m.entries.mapM fun p => (f p.1 p.2).map (p.1, ·) := by
  rw [← traverseEntries_eq_mapM, traverse]
  split
  · rename_i failed
    exact failed.symm
  · rename_i done
    exact done.symm

/-- Maps with the same keys have values under the same keys. -/
theorem exists_get?_of_keys {n : SortedMap β} (same : n.keys = m.keys) {key : String} {a : α}
    (here : m.get? key = some a) : ∃ b, n.get? key = some b := by
  have inside : key ∈ n.keys := same ▸ mem_keys_iff.mpr (Option.isSome_of_eq_some here)
  exact Option.isSome_iff_exists.mp (mem_keys_iff.mp inside)

/-- Where no value fails, each one is mapped under its key. -/
theorem of_traverse_ok {n : SortedMap β} (h : m.traverse f = .ok n) :
    n.keys = m.keys ∧ ∀ key a b, m.get? key = some a → n.get? key = some b → f key a = .ok b := by
  have done := map_entries_traverse f m
  rw [h] at done
  refine ⟨keys_traverseEntries (traverseEntries_eq_mapM f m.entries ▸ done.symm), ?_⟩
  intro key a b here there
  obtain ⟨q, member, mapped⟩ := (forall_of_mapM_ok done.symm).1 _ (mem_entries_iff.mpr here)
  obtain ⟨c, same, rfl⟩ := of_map_ok mapped
  cases there.symm.trans (mem_entries_iff.mp member)
  exact same

/-- What a key has afterwards depends on what it had before. -/
theorem get?_of_traverse_ok {n : SortedMap β} (h : m.traverse f = .ok n) (key : String) :
    n.get? key = (m.get? key).bind fun a => (f key a).toOption := by
  obtain ⟨keys, values⟩ := of_traverse_ok h
  cases here : m.get? key with
  | none =>
      have absent : key ∉ n.keys := by simp [keys, mem_keys_iff, here]
      simpa [mem_keys_iff] using absent
  | some a =>
      obtain ⟨b, there⟩ := exists_get?_of_keys keys here
      simp [there, values key a b here there, Except.toOption]

/-- A failure is that of the least key whose value fails. -/
theorem of_traverse_error {e : ε} (h : m.traverse f = .error e) :
    ∃ key a, m.get? key = some a ∧ f key a = .error e ∧
      ∀ k < key, ∀ b, m.get? k = some b → ∃ c, f k b = .ok c := by
  have failed := map_entries_traverse f m
  rw [h] at failed
  obtain ⟨before, ⟨key, a⟩, after, split, passed, failed⟩ := mapM_eq_error_iff.mp failed.symm
  refine ⟨key, a, mem_entries_iff.mp (by simp [split]), of_map_error failed, ?_⟩
  intro k less b here
  obtain ⟨_, passed⟩ := passed (k, b) ((mem_before_iff split).mpr ⟨less, here⟩)
  obtain ⟨c, done, _⟩ := of_map_ok passed
  exact ⟨c, done⟩

end

end SortedMap

/-! ## Single rules -/

/-- The pattern of the rule compiles between anchors, and its template is read for this pattern. -/
def RuleSpec.Sound : RuleSpec → Prop
  | .template _ => True
  | .rewrite spec => ∃ regex template, Regex.compile (anchored spec.pattern) = .ok regex ∧
      Template.parse regex.groupNames spec.replacement = .ok template

/-- What is wrong with a rule of a part. A template is read only where the pattern compiles. -/
inductive RuleSpec.Faulty (part : String) : RuleSpec → Fault → Prop where
  | pattern {spec : RewriteSpec} {cause : Regex.Error}
    (rejected : Regex.compile (anchored spec.pattern) = .error cause) :
    Faulty part (.rewrite spec) (.invalidPattern part spec.pattern cause)
  | template {spec : RewriteSpec} {regex : Regex} {reason : TemplateError}
    (compiled : Regex.compile (anchored spec.pattern) = .ok regex)
    (rejected : Template.parse regex.groupNames spec.replacement = .error reason) :
    Faulty part (.rewrite spec)
      (.templateRejected part spec.pattern spec.replacement reason.message)

/-- What a rule is compiled to: the texts are those of the rule, and the template refers to groups
of the pattern of the same rule. -/
inductive Rule.Compiles : RuleSpec → Rule → Prop where
  | template (text : String) : Compiles (.template text) (.pattern text)
  | rewrite {spec : RewriteSpec} {regex : Regex} {template : Template}
    (compiled : Regex.compile (anchored spec.pattern) = .ok regex)
    (read : Template.parse regex.groupNames spec.replacement = .ok template)
    (refers : ∀ piece ∈ template.pieces, piece.RefersTo regex) :
    Compiles (.rewrite spec) (.substitution ⟨spec.source, spec.pattern, regex, template⟩)

section

variable {part : String} {spec : RuleSpec}

theorem Rule.Compiles.sound {rule : Rule} (h : Compiles spec rule) : spec.Sound := by
  cases h with
  | template text => exact trivial
  | rewrite compiled read refers => exact ⟨_, _, compiled, read⟩

theorem RuleSpec.Faulty.not_sound {fault : Fault} (h : spec.Faulty part fault) : ¬ spec.Sound := by
  cases h with
  | pattern rejected =>
      rintro ⟨_, _, compiled, _⟩
      cases rejected.symm.trans compiled
  | template compiled rejected =>
      rintro ⟨_, _, compiled', read⟩
      cases compiled.symm.trans compiled'
      cases rejected.symm.trans read

theorem Rule.compiles_of_compile {rule : Rule} (h : Rule.compile part spec = .ok rule) :
    Compiles spec rule := by
  cases spec with
  | template text =>
      cases h
      exact .template text
  | rewrite spec =>
      unfold Rule.compile at h
      dsimp only at h
      split at h
      · cases h
      rename_i compiled
      split at h
      · cases h
      · rename_i read
        cases h
        exact .rewrite compiled read (Template.normalized_of_parse read).refers

theorem Rule.faulty_of_compile {e : Error} (h : Rule.compile part spec = .error e) :
    ∃ fault, spec.Faulty part fault ∧ e = { fault } := by
  cases spec with
  | template text => cases h
  | rewrite spec =>
      unfold Rule.compile at h
      dsimp only at h
      split at h
      · rename_i rejected
        cases h
        exact ⟨_, .pattern rejected, rfl⟩
      rename_i compiled
      split at h
      · rename_i rejected
        cases h
        exact ⟨_, .template compiled rejected, rfl⟩
      · cases h

end

/-! ## Alternatives -/

section

variable {part : String} {specs : List RuleSpec}

theorem Rule.compileAll_eq_mapM (part : String) (specs : List RuleSpec) :
    compileAll part specs = specs.mapM (Rule.compile part) := by
  induction specs with
  | nil => rfl
  | cons spec specs ih =>
      rw [compileAll, List.mapM_cons, ih]
      cases Rule.compile part spec with
      | error e => rfl
      | ok rule =>
          cases specs.mapM (Rule.compile part) with
          | error e => rfl
          | ok rules => rfl

theorem Rule.compiles_of_compileAll {rules : List Rule} (h : compileAll part specs = .ok rules) :
    List.Forall₂ Compiles specs rules := by
  induction specs generalizing rules with
  | nil =>
      cases h
      exact .nil
  | cons spec specs ih =>
      rw [compileAll] at h
      split at h
      · cases h
      · rename_i rule compiled
        obtain ⟨rest, others, rfl⟩ := of_map_ok h
        exact .cons (compiles_of_compile compiled) (ih others)

theorem Rule.sound_of_compiles {rules : List Rule} (h : List.Forall₂ Compiles specs rules) :
    ∀ spec ∈ specs, spec.Sound := by
  induction h with
  | nil => exact nofun
  | cons head _ ih => exact List.forall_mem_cons.mpr ⟨head.sound, ih⟩

/-- Alternatives fail as the first of them that is faulty. -/
theorem Rule.faulty_of_compileAll {e : Error} (h : compileAll part specs = .error e) :
    ∃ (position : Nat) (spec : RuleSpec) (fault : Fault), specs[position]? = some spec ∧
      spec.Faulty part fault ∧ e = { fault } ∧
      ∀ n < position, ∀ other : RuleSpec, specs[n]? = some other → other.Sound := by
  rw [compileAll_eq_mapM] at h
  obtain ⟨before, spec, after, rfl, passed, failed⟩ := mapM_eq_error_iff.mp h
  obtain ⟨fault, faulty, same⟩ := faulty_of_compile failed
  refine ⟨before.length, spec, fault, by simp, faulty, same, ?_⟩
  intro n less other here
  rw [List.getElem?_append_left less] at here
  obtain ⟨rule, compiled⟩ := passed other (List.mem_of_getElem? here)
  exact (compiles_of_compile compiled).sound

end

/-! ## Categories -/

/-- The rule stands at this position of the alternatives of the part. -/
def CategorySpec.Declares (spec : CategorySpec) (part : String) (position : Nat)
    (rule : RuleSpec) : Prop :=
  ∃ entry, spec.rules.get? part = some entry ∧ entry.alternatives[position]? = some rule

/-- The category has the parent and the parts of what it is compiled from, and for each part the
rules of its alternatives in their order. -/
structure Category.Compiled (spec : CategorySpec) (category : Category) : Prop where
  parent : category.parent = spec.parent
  parts : category.parts.keys = spec.rules.keys
  rules : ∀ part entry rules, spec.rules.get? part = some entry →
    category.parts.get? part = some rules → List.Forall₂ Rule.Compiles entry.alternatives rules

section

variable {spec : CategorySpec} {part : String} {position : Nat} {rule : RuleSpec}

theorem Category.compiled_of_compile {category : Category}
    (h : Category.compile spec = .ok category) : Compiled spec category := by
  obtain ⟨parts, traversed, rfl⟩ := of_map_ok h
  obtain ⟨keys, values⟩ := SortedMap.of_traverse_ok traversed
  exact ⟨rfl, keys, fun part entry rules declared compiled =>
    Rule.compiles_of_compileAll (values part entry rules declared compiled)⟩

theorem Category.Compiled.sound {category : Category} (h : Compiled spec category)
    (declared : spec.Declares part position rule) : rule.Sound := by
  obtain ⟨entry, here, listed⟩ := declared
  obtain ⟨rules, there⟩ := SortedMap.exists_get?_of_keys h.parts here
  exact Rule.sound_of_compiles (h.rules part entry rules here there) rule
    (List.mem_of_getElem? listed)

theorem Category.faulty_of_compile {e : Error} (h : Category.compile spec = .error e) :
    ∃ part position rule fault, spec.Declares part position rule ∧ rule.Faulty part fault ∧
      e = { fault } ∧ ∀ p n other, p < part ∨ p = part ∧ n < position →
        spec.Declares p n other → other.Sound := by
  obtain ⟨part, entry, here, failed, passed⟩ := SortedMap.of_traverse_error (of_map_error h)
  obtain ⟨position, rule, fault, listed, faulty, same, first⟩ := Rule.faulty_of_compileAll failed
  refine ⟨part, position, rule, fault, ⟨entry, here, listed⟩, faulty, same, ?_⟩
  rintro p n other (less | ⟨rfl, less⟩) ⟨entry', here', listed'⟩
  · obtain ⟨rules, compiled⟩ := passed p less entry' here'
    exact Rule.sound_of_compiles (Rule.compiles_of_compileAll compiled) other
      (List.mem_of_getElem? listed')
  · cases here.symm.trans here'
    exact first n less other listed'

end

/-! ## Repositories -/

/-- Where a rule stands in a repository. -/
structure Site where
  category : String
  part : String
  position : Nat

/-- Rules are gone through by category, then by part, then by position. -/
def Site.Before (s t : Site) : Prop :=
  s.category < t.category ∨
    s.category = t.category ∧ (s.part < t.part ∨ s.part = t.part ∧ s.position < t.position)

/-- The rule stands at this site of the repository. -/
def Declares (repository : Repository) (site : Site) (rule : RuleSpec) : Prop :=
  ∃ spec, repository.get? site.category = some spec ∧ spec.Declares site.part site.position rule

/-- What compiling a repository comes to. It succeeds if all rules are sound; parents are not looked
up. The grammar has the categories of the repository under their names, compiled each for itself.
Where rules are faulty, the error is what is wrong with the first one of them, in its category. -/
structure Checked (repository : Repository) (outcome : Except Error Grammar) : Prop where
  succeeds : (∃ grammar, outcome = .ok grammar) ↔
    ∀ site rule, Declares repository site rule → rule.Sound
  names : ∀ grammar, outcome = .ok grammar → grammar.keys = repository.keys
  categories : ∀ grammar name spec category, outcome = .ok grammar →
    repository.get? name = some spec → grammar.get? name = some category →
      Category.Compiled spec category
  refused : ∀ e, outcome = .error e → ∃ site rule fault, Declares repository site rule ∧
    rule.Faulty site.part fault ∧ e = { fault, category := some site.category, trail := [] } ∧
    ∀ earlier other, earlier.Before site → Declares repository earlier other → other.Sound

section

variable {repository : Repository}

theorem Grammar.compiled_of_compile {grammar : Grammar}
    (h : Grammar.compile repository = .ok grammar) :
    grammar.keys = repository.keys ∧ ∀ name spec category, repository.get? name = some spec →
      grammar.get? name = some category → Category.Compiled spec category := by
  obtain ⟨keys, values⟩ := SortedMap.of_traverse_ok h
  refine ⟨keys, fun name spec category here there => ?_⟩
  exact Category.compiled_of_compile (of_mapError_ok (values name spec category here there))

theorem Grammar.sound_of_compile {grammar : Grammar}
    (h : Grammar.compile repository = .ok grammar) {site : Site} {rule : RuleSpec}
    (declared : Declares repository site rule) : rule.Sound := by
  obtain ⟨keys, compiled⟩ := compiled_of_compile h
  obtain ⟨spec, here, declared⟩ := declared
  obtain ⟨category, there⟩ := SortedMap.exists_get?_of_keys keys here
  exact (compiled _ spec category here there).sound declared

theorem Grammar.faulty_of_compile {e : Error} (h : Grammar.compile repository = .error e) :
    ∃ site rule fault, Declares repository site rule ∧ rule.Faulty site.part fault ∧
      e = { fault, category := some site.category, trail := [] } ∧
      ∀ earlier other, earlier.Before site → Declares repository earlier other → other.Sound := by
  obtain ⟨name, spec, here, failed, passed⟩ := SortedMap.of_traverse_error h
  obtain ⟨_, inner, rfl⟩ := of_mapError_error failed
  obtain ⟨part, position, rule, fault, declared, faulty, rfl, first⟩ :=
    Category.faulty_of_compile inner
  refine ⟨⟨name, part, position⟩, rule, fault, ⟨spec, here, declared⟩, faulty, rfl, ?_⟩
  rintro ⟨_, p, n⟩ other (less | ⟨rfl, before⟩) ⟨spec', here', declared'⟩
  · obtain ⟨category, compiled⟩ := passed _ less spec' here'
    exact (Category.compiled_of_compile (of_mapError_ok compiled)).sound declared'
  · cases here.symm.trans here'
    exact first p n other before declared'

end

theorem Grammar.compile_checked (repository : Repository) :
    Checked repository (Grammar.compile repository) := by
  constructor
  case succeeds =>
    constructor
    · rintro ⟨grammar, compiled⟩ site rule declared
      exact Grammar.sound_of_compile compiled declared
    · intro sound
      cases outcome : Grammar.compile repository with
      | ok grammar => exact ⟨grammar, rfl⟩
      | error e =>
          obtain ⟨site, rule, fault, declared, faulty, _⟩ := Grammar.faulty_of_compile outcome
          cases faulty.not_sound (sound site rule declared)
  case names => exact fun grammar compiled => (Grammar.compiled_of_compile compiled).1
  case categories =>
    exact fun grammar name spec category compiled =>
      (Grammar.compiled_of_compile compiled).2 name spec category
  case refused => exact fun e failed => Grammar.faulty_of_compile failed

end Paradigm
