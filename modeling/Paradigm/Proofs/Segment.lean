import Mathlib.Algebra.BigOperators.Group.List.Basic
import Mathlib.Data.List.Nodup
import Paradigm.Proofs.Placeholder

/-!
# Filling in all placeholders at once

A text is cut into its placeholders and its other characters. A choice gives each name a form, and
filling in puts, in one pass, the form of its name in the place of every placeholder. Filling in one
name after the other comes to the same, as long as no form has an opening brace.
-/

namespace Paradigm.Placeholder

/-! ## Segments -/

/-- A piece of a text: a placeholder, or a character outside of all placeholders. -/
inductive Segment where
  | char (c : Char)
  | slot (name : String)
deriving DecidableEq

/-- The segments of a text from the left, after skipping some characters. -/
def segmentsFrom : Nat → List Char → List Segment
  | _, [] => []
  | skip + 1, _ :: rest => segmentsFrom skip rest
  | 0, c :: rest =>
    match if c = '\x7b' then closedName? rest else none with
    | some name => .slot (String.ofList name) :: segmentsFrom (name.length + 1) rest
    | none => .char c :: segmentsFrom 0 rest

def segments (text : List Char) : List Segment := segmentsFrom 0 text

theorem segments_nil : segments [] = [] := by
  rw [segments, segmentsFrom]

theorem segments_char {c : Char} (plain : c ≠ '\x7b') (text : List Char) :
    segments (c :: text) = .char c :: segments text := by
  rw [segments, segmentsFrom, if_neg plain]
  rfl

theorem segmentsFrom_append (skipped text : List Char) :
    segmentsFrom skipped.length (skipped ++ text) = segments text := by
  induction skipped with
  | nil => rfl
  | cons c skipped ih => rw [List.cons_append, List.length_cons, segmentsFrom, ih]

theorem segments_placeholder {name : List Char} (isName : IsName name) (text : List Char) :
    segments (token name ++ text) = .slot (String.ofList name) :: segments text := by
  have skipped := segmentsFrom_append (name ++ ['\x7d']) text
  simp only [List.length_append, List.length_singleton, List.append_assoc, List.singleton_append]
    at skipped
  rw [token_append, segments, segmentsFrom, if_pos rfl, closedName?_of_isName isName]
  exact congrArg _ skipped

theorem segments_append {before : List Char} (h : Segmented before) (text : List Char) :
    segments (before ++ text) = segments before ++ segments text := by
  induction h with
  | nil => rw [segments_nil, List.nil_append, List.nil_append]
  | char plain _ ih =>
      rw [List.cons_append, segments_char plain, segments_char plain, ih, List.cons_append]
  | placeholder isName _ ih =>
      rw [List.append_assoc, segments_placeholder isName, segments_placeholder isName, ih,
        List.cons_append]

theorem BraceFree.segments {text : List Char} (h : BraceFree text) :
    segments text = text.map .char := by
  induction text with
  | nil => exact segments_nil
  | cons c text ih =>
      obtain ⟨plain, rest⟩ := braceFree_cons.mp h
      rw [segments_char plain, ih rest, List.map_cons]

/-- The segments that a segment turns into when a value is filled in for a name. -/
def Segment.replace (name value : String) : Segment → List Segment
  | .char c => [.char c]
  | .slot other => if other = name then value.toList.map .char else [.slot other]

theorem segments_fill {name text : List Char} {value : String} (isName : IsName name)
    (free : BraceFree value.toList) (h : Segmented text) :
    segments (fill name value.toList text) =
      (segments text).flatMap (Segment.replace (String.ofList name) value) := by
  induction h with
  | nil =>
      rw [fill_nil, segments_nil]
      rfl
  | char plain _ ih =>
      rw [fill_char _ plain, segments_char plain, segments_char plain, ih]
      rfl
  | @placeholder other _ isName' _ ih =>
      rw [segments_placeholder isName', List.flatMap_cons, ← ih]
      by_cases same : other = name
      · subst same
        rw [fill_same, segments_append free.segmented, free.segments, Segment.replace, if_pos rfl]
      · have apart : String.ofList other ≠ String.ofList name := fun e =>
          same (String.ofList_inj.mp e)
        rw [fill_other _ isName isName' same, segments_placeholder isName', Segment.replace,
          if_neg apart, List.singleton_append]

/-! ## Names -/

/-- The names of the placeholders, each once, in the order in which they first occur. -/
def namesOf : List Segment → List String
  | [] => []
  | .char _ :: rest => namesOf rest
  | .slot name :: rest => name :: (namesOf rest).filter (· ≠ name)

/-- The names of the placeholders of a text, each once. -/
def names (text : List Char) : List String := namesOf (segments text)

theorem namesOf_nodup : ∀ segments : List Segment, (namesOf segments).Nodup
  | [] => .nil
  | .char _ :: rest => namesOf_nodup rest
  | .slot _ :: rest =>
      List.nodup_cons.mpr ⟨by simp, (namesOf_nodup rest).filter _⟩

theorem names_nodup (text : List Char) : (names text).Nodup := namesOf_nodup _

theorem namesOf_chars (text : List Char) (rest : List Segment) :
    namesOf (text.map .char ++ rest) = namesOf rest := by
  induction text with
  | nil => rfl
  | cons c text ih => exact ih

theorem namesOf_replace (name value : String) (segments : List Segment) :
    namesOf (segments.flatMap (Segment.replace name value)) =
      (namesOf segments).filter (· ≠ name) := by
  induction segments with
  | nil => rfl
  | cons segment rest ih =>
      rw [List.flatMap_cons]
      cases segment with
      | char c => exact ih
      | slot other =>
          rw [Segment.replace]
          split
          · rename_i same
            subst same
            rw [namesOf_chars, ih, namesOf]
            simp
          · rename_i apart
            rw [List.singleton_append, namesOf, namesOf, ih, List.filter_cons_of_pos (by simpa),
              List.filter_filter, List.filter_filter]
            simp only [Bool.and_comm]

theorem names_of_first?_none {text : List Char} (h : Segmented text) (none : first? text = none) :
    names text = [] := by
  rw [names, (h.braceFree none).segments, ← List.append_nil (text.map _), namesOf_chars]
  rfl

/-- The leftmost placeholder has the first name; the other names are left when it is filled in. -/
theorem names_of_first? {name text : List Char} (value : String) (free : BraceFree value.toList)
    (h : Segmented text) (first : first? text = some name) :
    names text = String.ofList name :: names (fill name value.toList text) := by
  have isName := isName_of_first? first
  have head : ∃ rest : List String, namesOf (segments text) =
      String.ofList name :: rest.filter (· ≠ String.ofList name) := by
    clear free
    induction h with
    | nil => cases first
    | char plain _ ih =>
        rw [first?_char plain] at first
        obtain ⟨rest, same⟩ := ih first
        exact ⟨rest, by rw [segments_char plain, namesOf, same]⟩
    | @placeholder _ text isName' _ _ =>
        rw [first?_placeholder isName'] at first
        cases first
        exact ⟨namesOf (segments text), by rw [segments_placeholder isName', namesOf]⟩
  obtain ⟨rest, same⟩ := head
  rw [names, names, segments_fill isName free h, namesOf_replace, same]
  simp [List.filter_filter]

/-! ## Choices -/

/-- A form for each of some names. -/
abbrev Choice := List (String × String)

/-- What a segment stands for: a name that is not chosen for stays as it is. -/
def Segment.written (choice : Choice) : Segment → List Char
  | .char c => [c]
  | .slot name =>
    match choice.lookup name with
    | some form => form.toList
    | none => token name.toList

/-- Puts the chosen forms in the places of all placeholders, in one pass. -/
def fillAll (choice : Choice) (text : List Char) : List Char :=
  (segments text).flatMap (Segment.written choice)

theorem written_chars (choice : Choice) (text : List Char) :
    (text.map .char).flatMap (Segment.written choice) = text := by
  induction text with
  | nil => rfl
  | cons c text ih => rw [List.map_cons, List.flatMap_cons, ih, Segment.written,
      List.singleton_append]

theorem BraceFree.fillAll {text : List Char} (free : BraceFree text) (choice : Choice) :
    fillAll choice text = text := by
  rw [Placeholder.fillAll, free.segments, written_chars]

/-- A form that is filled in first may as well be chosen. -/
theorem fillAll_fill {name text : List Char} {value : String} (isName : IsName name)
    (free : BraceFree value.toList) (h : Segmented text) (choice : Choice) :
    fillAll choice (fill name value.toList text) =
      fillAll ((String.ofList name, value) :: choice) text := by
  rw [fillAll, fillAll, segments_fill isName free h, List.flatMap_assoc]
  refine congrArg (List.flatMap · _) (funext fun segment => ?_)
  cases segment with
  | char c => rfl
  | slot other =>
      rw [Segment.replace, Segment.written, List.lookup_cons]
      by_cases same : other = String.ofList name
      · rw [if_pos same, written_chars, beq_iff_eq.mpr same]
      · rw [if_neg same, beq_eq_false_iff_ne.mpr same, List.flatMap_singleton, Segment.written]

/-! ## All choices -/

/-- All ways to choose one form for each name. -/
def choices (forms : String → List String) : List String → List Choice
  | [] => [[]]
  | name :: rest => (forms name).flatMap fun form => (choices forms rest).map ((name, form) :: ·)

section

variable {forms : String → List String}

theorem mem_choices {names : List String} {choice : Choice} :
    choice ∈ choices forms names ↔
      choice.map Prod.fst = names ∧ ∀ p ∈ choice, p.2 ∈ forms p.1 := by
  induction names generalizing choice with
  | nil => cases choice <;> simp [choices]
  | cons name rest ih =>
      simp only [choices, List.mem_flatMap, List.mem_map, ih]
      constructor
      · rintro ⟨form, chosen, tail, ⟨rfl, all⟩, rfl⟩
        exact ⟨rfl, List.forall_mem_cons.mpr ⟨chosen, all⟩⟩
      · rintro ⟨heads, all⟩
        cases choice with
        | nil => cases heads
        | cons p tail =>
            obtain ⟨rfl, rest_eq⟩ := List.cons.inj heads
            obtain ⟨chosen, all⟩ := List.forall_mem_cons.mp all
            exact ⟨p.2, chosen, tail, ⟨rest_eq, all⟩, rfl⟩

/-- There are as many choices as the product of the numbers of forms. -/
theorem length_choices (names : List String) :
    (choices forms names).length = (names.map fun name => (forms name).length).prod := by
  induction names with
  | nil => rfl
  | cons name rest ih => simp [choices, List.length_flatMap, ih]

theorem choices_nodup {names : List String} (h : ∀ name ∈ names, (forms name).Nodup) :
    (choices forms names).Nodup := by
  induction names with
  | nil => simp [choices]
  | cons name rest ih =>
      obtain ⟨head, tail⟩ := List.forall_mem_cons.mp h
      rw [choices, List.nodup_flatMap]
      refine ⟨fun form _ => (ih tail).map fun a b same => (List.cons.inj same).2, ?_⟩
      refine head.imp fun {a b} apart => List.disjoint_left.mpr fun choice inA inB => apart ?_
      obtain ⟨_, _, rfl⟩ := List.mem_map.mp inA
      obtain ⟨_, _, same⟩ := List.mem_map.mp inB
      exact (Prod.mk.inj (List.cons.inj same).1).2.symm

end

end Paradigm.Placeholder
