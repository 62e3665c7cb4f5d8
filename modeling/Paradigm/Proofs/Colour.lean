import Mathlib.Data.List.Forall2
import Paradigm.Report

/-!
# Colour

A report with colour is the report without it, and escape sequences. Main statement: deleting the
sequences from the coloured text gives the plain one, if no text that is shown has an escape character
of its own.
-/

namespace Paradigm

/-! ## Deleting escape sequences -/

namespace Escape

/-- The length of the escape sequence that a text begins with: digits between `ESC [` and `m`. -/
def sequenceLength? : List Char → Option Nat
  | '\x1b' :: '[' :: rest =>
    let digits := rest.takeWhile Text.isDigit
    match rest.dropWhile Text.isDigit with
    | 'm' :: _ => if digits.isEmpty then none else some (digits.length + 3)
    | _ => none
  | _ => none

/-- Deletes every escape sequence, from the left, after skipping some characters. -/
def stripFrom : Nat → List Char → List Char
  | _, [] => []
  | skip + 1, _ :: rest => stripFrom skip rest
  | 0, c :: rest =>
    match sequenceLength? (c :: rest) with
    | some n => stripFrom (n - 1) rest
    | none => c :: stripFrom 0 rest

/-- The text without its escape sequences. -/
def strip (text : String) : String := String.ofList (stripFrom 0 text.toList)

/-- No sequence begins in the text. -/
def Absent (text : String) : Prop := '\x1b' ∉ text.toList

instance (text : String) : Decidable (Absent text) :=
  inferInstanceAs (Decidable ('\x1b' ∉ text.toList))

@[simp] theorem absent_iff {text : String} : Absent text ↔ '\x1b' ∉ text.toList := .rfl

theorem Absent.append {s t : String} (h : Absent s) (h' : Absent t) : Absent (s ++ t) := by
  simp only [Absent, String.toList_append, List.mem_append, not_or]
  exact ⟨h, h'⟩

theorem stripFrom_length (text rest : List Char) :
    stripFrom text.length (text ++ rest) = stripFrom 0 rest := by
  induction text with
  | nil => rfl
  | cons c text ih => exact ih

theorem sequenceLength?_sequence {digits rest : List Char} (digital : ∀ d ∈ digits, Text.isDigit d)
    (some_digit : digits ≠ []) :
    sequenceLength? ('\x1b' :: '[' :: (digits ++ 'm' :: rest)) = some (digits.length + 3) := by
  have letter : Text.isDigit 'm' = false := rfl
  have run : (digits ++ 'm' :: rest).takeWhile Text.isDigit = digits := by
    rw [List.takeWhile_append_of_pos digital]
    simp [letter]
  have after : (digits ++ 'm' :: rest).dropWhile Text.isDigit = 'm' :: rest := by
    rw [List.dropWhile_append_of_pos digital]
    simp [letter]
  simp [sequenceLength?, run, after, some_digit]

theorem sequenceLength?_of_ne {c : Char} {rest : List Char} (other : c ≠ '\x1b') :
    sequenceLength? (c :: rest) = none := by
  unfold sequenceLength?
  split
  · rename_i same
    cases same
    exact absurd rfl other
  · rfl

/-- A sequence goes, whatever follows it. -/
theorem stripFrom_sequence {digits : List Char} (digital : ∀ d ∈ digits, Text.isDigit d)
    (some_digit : digits ≠ []) (rest : List Char) :
    stripFrom 0 ('\x1b' :: '[' :: (digits ++ 'm' :: rest)) = stripFrom 0 rest := by
  rw [stripFrom, sequenceLength?_sequence digital some_digit]
  simpa using stripFrom_length ('[' :: (digits ++ ['m'])) rest

/-- Other characters stay. -/
theorem stripFrom_append {text : List Char} (absent : '\x1b' ∉ text) (rest : List Char) :
    stripFrom 0 (text ++ rest) = text ++ stripFrom 0 rest := by
  induction text with
  | nil => rfl
  | cons c text ih =>
      rw [List.mem_cons, not_or] at absent
      rw [List.cons_append, stripFrom, sequenceLength?_of_ne (Ne.symm absent.1)]
      simp [ih absent.2]

end Escape

/-! ## Texts with colour and without -/

/-- The first text is the second one with escape sequences added, none of which is split by what
follows. -/
structure Paints (painted plain : String) : Prop where
  absent : Escape.Absent plain
  strips : ∀ rest, Escape.stripFrom 0 (painted.toList ++ rest) =
    plain.toList ++ Escape.stripFrom 0 rest

namespace Paints

variable {s t s' t' : String}

theorem same (absent : Escape.Absent s) : Paints s s := ⟨absent, Escape.stripFrom_append absent⟩

theorem blank : Paints "" "" := same (by simp)

/-- A text of the report's own. -/
theorem literal (s : String) (absent : Escape.Absent s) : Paints s s := same absent

theorem append (h : Paints s t) (h' : Paints s' t') : Paints (s ++ s') (t ++ t') := by
  refine ⟨h.absent.append h'.absent, fun rest => ?_⟩
  simp only [String.toList_append, List.append_assoc]
  rw [h.strips, h'.strips]

theorem escape {code : String} (digital : code.toList.all Text.isDigit)
    (some_digit : code.toList ≠ []) : Paints (Paradigm.escape code) "" := by
  refine ⟨by simp, fun rest => ?_⟩
  have digits := List.all_eq_true.mp digital
  simpa [Paradigm.escape] using Escape.stripFrom_sequence digits some_digit rest

theorem paint (h : Paints s t) (style : Style) :
    Paints (Paradigm.paint true style s) (Paradigm.paint false style t) := by
  have on : Paints (Paradigm.escape style.code) "" := by
    cases style <;> exact escape (by decide) (by decide)
  have off : Paints (Paradigm.escape "0") "" := escape (by decide) (by decide)
  simpa [Paradigm.paint] using (on.append h).append off

theorem join {texts texts' : List String} (h : List.Forall₂ Paints texts texts') :
    Paints (String.join texts) (String.join texts') := by
  induction h with
  | nil => exact blank
  | cons head tail ih =>
      rw [String.join_cons, String.join_cons]
      exact head.append ih

theorem intercalate {texts texts' : List String} (h : List.Forall₂ Paints texts texts')
    {separator : String} (absent : Escape.Absent separator) :
    Paints (separator.intercalate texts) (separator.intercalate texts') := by
  induction h with
  | nil => simpa using blank
  | cons head tail ih =>
      cases tail with
      | nil => simpa using head
      | cons next others =>
          rw [String.intercalate_cons_cons, String.intercalate_cons_cons]
          exact (head.append (same absent)).append ih

section

variable {α : Type} {items : List α}

/-- The same function of the members of a list, with colour and without. -/
theorem map {f g : α → String} (h : ∀ a ∈ items, Paints (f a) (g a)) :
    List.Forall₂ Paints (items.map f) (items.map g) := by
  simpa [List.forall₂_map_left_iff, List.forall₂_map_right_iff, List.forall₂_same] using h

/-- The same for a function of the places of the members too. -/
theorem mapIdx {f g : Nat → α → String} (h : ∀ n, ∀ a ∈ items, Paints (f n a) (g n a)) :
    List.Forall₂ Paints (items.mapIdx f) (items.mapIdx g) := by
  induction items generalizing f g with
  | nil => exact .nil
  | cons a items ih =>
      rw [List.mapIdx_cons, List.mapIdx_cons]
      exact .cons (h 0 a List.mem_cons_self)
        (ih fun n a member => h (n + 1) a (List.mem_cons_of_mem _ member))

end

theorem strip (h : Paints s t) : Escape.strip s = t := by
  have whole := h.strips []
  simp only [List.append_nil, Escape.stripFrom] at whole
  rw [Escape.strip, whole, String.ofList_toList]

end Paints

/-! ## Reports -/

namespace GenerationReport

open Paints

/-- None of the texts that a report shows has an escape character. -/
structure Unescaped (timing : Timing) (requested : List String) (r : GenerationReport) : Prop where
  category : Escape.Absent r.category
  chain : ∀ name ∈ r.chain, Escape.Absent name
  forms : ∀ part forms, r.forms.get? part = some forms → ∀ form ∈ forms, Escape.Absent form
  computed : ∀ trace ∈ r.stats.computed, Escape.Absent trace.part
  requested : ∀ part ∈ requested, Escape.Absent part
  total : Escape.Absent timing.total
  part : ∀ n, Escape.Absent (timing.part n)

theorem absent_number (n : Nat) : Escape.Absent (toString n) := by
  intro member
  have digit : '\x1b'.isDigit = true :=
    Nat.isDigit_of_mem_toDigits (by decide) (by decide) (String.toList_ofList ▸ member)
  cases digit

theorem paints_number (n : Nat) (style : Style) :
    Paints (paint true style (toString n)) (paint false style (toString n)) :=
  (same (absent_number n)).paint style

theorem paints_mark {label : String} (ok : Bool) (absent : Escape.Absent label) :
    Paints (mark true ok label) (mark false ok label) := by
  cases ok with
  | true => exact ((literal "✓ " (by simp)).append (same absent)).paint .green
  | false => exact ((literal "✗ " (by simp)).append (same absent)).paint .red

theorem paints_ruler (title : String) (absent : Escape.Absent title) :
    Paints (ruler true title) (ruler false title) :=
  (((literal "━━━ " (by simp)).append (same absent)).append (literal " ━━━" (by simp))).paint .gray

theorem paints_emphasized {text : String} (style : Style) (absent : Escape.Absent text) :
    Paints (emphasized true style text) (emphasized false style text) :=
  ((same absent).paint style).paint .bold

theorem paints_indentation (depth : Nat) :
    Paints (String.join (List.replicate depth "  ")) (String.join (List.replicate depth "  ")) := by
  induction depth with
  | zero => exact blank
  | succ depth ih =>
      rw [List.replicate_succ, String.join_cons]
      exact (literal "  " (by simp)).append ih

variable {timing : Timing} {requested : List String} {r : GenerationReport}

theorem paints_traceLine {elapsed : String} {trace : PartTrace}
    (absent : Escape.Absent trace.part) (timed : Escape.Absent elapsed) :
    Paints (traceLine true elapsed trace) (traceLine false elapsed trace) := by
  have part := (paints_indentation (trace.depth + 1)).append ((same absent).paint .blue)
  have forms := (part.append (literal " " (by simp))).append (paints_mark (0 < trace.forms)
    ((absent_number trace.forms).append (by simp : Escape.Absent " forms")))
  have rules := (forms.append (literal "  " (by simp))).append
    (((same (absent_number trace.rules)).append (literal " rules" (by simp))).paint .dim)
  exact (rules.append (literal " " (by simp))).append ((same timed).paint .yellow)

theorem paints_partLines (unescaped : r.Unescaped timing requested) :
    List.Forall₂ Paints (partLines true timing r.stats.computed)
      (partLines false timing r.stats.computed) := by
  have traces : ∀ n, ∀ trace ∈ r.stats.computed,
      Paints (traceLine true (timing.part n) trace) (traceLine false (timing.part n) trace) :=
    fun n trace member => paints_traceLine (unescaped.computed trace member) (unescaped.part n)
  cases computed : r.stats.computed with
  | nil => exact .cons ((literal "  Every requested part was a seed" (by simp)).paint .dim) .nil
  | cons trace others => exact mapIdx (computed ▸ traces)

theorem paints_showForms {forms : List String} (absent : ∀ form ∈ forms, Escape.Absent form) :
    Paints (showForms true forms) (showForms false forms) := by
  cases forms with
  | nil => exact paints_mark false (by simp)
  | cons form forms =>
      exact intercalate (map fun form member => paints_emphasized .green (absent form member))
        (by simp)

theorem paints_resultLine (unescaped : r.Unescaped timing requested) {part : String}
    (member : part ∈ requested) : Paints (resultLine true r part) (resultLine false r part) := by
  have name :=
    (literal "  " (by simp)).append ((same (unescaped.requested part member)).paint .blue)
  have bar := (name.append (literal " " (by simp))).append ((literal "│" (by simp)).paint .dim)
  have forms : Paints (showForms true ((r.forms.get? part).getD []))
      (showForms false ((r.forms.get? part).getD [])) := by
    apply paints_showForms
    cases known : r.forms.get? part with
    | none => exact nofun
    | some forms => exact unescaped.forms part forms known
  exact (bar.append (literal " " (by simp))).append forms

theorem paints_tipLines (r : GenerationReport) :
    List.Forall₂ Paints (tipLines true r) (tipLines false r) := by
  unfold tipLines
  split
  · exact .cons blank (.cons ((same (by simp)).paint .dim) .nil)
  · exact .nil

theorem paints_totalsLine {elapsed : String} (r : GenerationReport)
    (timed : Escape.Absent elapsed) :
    Paints (totalsLine true elapsed r) (totalsLine false elapsed r) := by
  have time := (literal "  Total: " (by simp)).append ((same timed).paint .green)
  have forms := (time.append (literal "  │  Forms: " (by simp))).append
    (paints_number r.stats.totalForms .green)
  have recalls := (forms.append (literal "  │  Memo hits: " (by simp))).append
    (paints_number r.stats.memoHits .cyan)
  have insertions := (recalls.append (literal "  │  Expansions: " (by simp))).append
    (paints_number r.stats.expansions .dim)
  exact (insertions.append (literal "  │  Regex evals: " (by simp))).append
    (paints_number r.stats.regexEvaluations .dim)

theorem paints_chainLine (unescaped : r.Unescaped timing requested) :
    Paints ("  " ++ paint true .dim "chain:" ++ " " ++ paint true .blue (" → ".intercalate r.chain))
      ("  " ++ paint false .dim "chain:" ++ " " ++
        paint false .blue (" → ".intercalate r.chain)) := by
  have label := (literal "  " (by simp)).append ((literal "chain:" (by simp)).paint .dim)
  have names : List.Forall₂ Paints r.chain r.chain :=
    List.forall₂_same.mpr fun name member => same (unescaped.chain name member)
  exact (label.append (literal " " (by simp))).append ((intercalate names (by simp)).paint .blue)

/-- Line by line, the report with colour is the report without it. -/
theorem paints_lines (unescaped : r.Unescaped timing requested) :
    List.Forall₂ Paints (lines true timing requested r) (lines false timing requested r) := by
  have title : Escape.Absent ("⚙  Generating: " ++ r.category) :=
    Escape.Absent.append (by simp) unescaped.category
  have head := List.Forall₂.cons blank (.cons (paints_emphasized .cyan title)
    (.cons (paints_chainLine unescaped)
      (.cons blank (.cons (paints_ruler "Parts" (by simp)) .nil))))
  have results := List.Forall₂.cons blank (.cons (paints_ruler "Results" (by simp)) .nil)
  have totals := List.Forall₂.cons blank (.cons (paints_ruler "Timing" (by simp))
    (.cons (paints_totalsLine r unescaped.total) (.cons blank .nil)))
  have parts := List.rel_append head (paints_partLines unescaped)
  have forms := List.rel_append (List.rel_append parts results)
    (map fun part => paints_resultLine unescaped)
  exact List.rel_append (List.rel_append forms (paints_tipLines r)) totals

theorem escape_mem_render (timing : Timing) (requested : List String) (r : GenerationReport) :
    '\x1b' ∈ (r.render true timing requested).toList := by
  have title : emphasized true .cyan ("⚙  Generating: " ++ r.category) ∈
      lines true timing requested r := by simp [lines]
  have here : '\x1b' ∈ (emphasized true .cyan ("⚙  Generating: " ++ r.category)).toList := by
    simp [emphasized, paint, escape]
  rw [render, String.toList_join, List.mem_flatMap]
  exact ⟨_, List.mem_map_of_mem title, by simp [here]⟩

/-- Colour adds escape sequences, and nothing else. -/
theorem strip_render (unescaped : r.Unescaped timing requested) :
    Escape.strip (r.render true timing requested) = r.render false timing requested ∧
      Escape.Absent (r.render false timing requested) ∧
      ¬ Escape.Absent (r.render true timing requested) := by
  have ended : List.Forall₂ Paints ((lines true timing requested r).map (· ++ "\n"))
      ((lines false timing requested r).map (· ++ "\n")) := by
    rw [List.forall₂_map_left_iff, List.forall₂_map_right_iff]
    exact (paints_lines unescaped).imp fun _ _ line => line.append (literal "\n" (by simp))
  have whole : Paints (r.render true timing requested) (r.render false timing requested) :=
    join ended
  exact ⟨whole.strip, whole.absent, not_not_intro (escape_mem_render timing requested r)⟩

/-- A report on a headword with two participles. -/
def participles : GenerationReport where
  category := "weak"
  chain := ["weak", "verb"]
  forms := .ofList [("past-part", ["hopied", "hopiod"])]
  stats := { computed := [⟨"past-part", 0, 2, 2⟩, ⟨"stem", 1, 1, 1⟩], memoHits := 2 }

theorem strip_render_participles :
    participles.Unescaped "0ns" ["past-part"] ∧
      Escape.strip (participles.render true "0ns" ["past-part"]) =
        participles.render false "0ns" ["past-part"] ∧
      Escape.Absent (participles.render false "0ns" ["past-part"]) ∧
      ¬ Escape.Absent (participles.render true "0ns" ["past-part"]) := by
  have unescaped : participles.Unescaped "0ns" ["past-part"] := by
    constructor
    case forms =>
      have entries : ∀ entry ∈ participles.forms.entries, ∀ form ∈ entry.2, Escape.Absent form := by
        decide
      exact fun part forms known => entries (part, forms) (SortedMap.mem_entries_iff.mpr known)
    case part => exact fun _ => (by decide : Escape.Absent "0ns")
    all_goals decide
  exact ⟨unescaped, strip_render unescaped⟩

end GenerationReport

end Paradigm
