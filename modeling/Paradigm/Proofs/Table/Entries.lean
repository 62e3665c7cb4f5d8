import Paradigm.Proofs.Table.GlossPattern

/-!
# Word entries as lines

An entry is written as its spellings with slashes between them, and the gloss after a comma and a
space. Main statement: lines are cut at one place, which a pattern finds, and nothing of them is lost;
what is written of an entry is read as this entry.
-/

namespace Paradigm

namespace WordEntry

/-- The line of an entry. -/
def text (entry : WordEntry) : String :=
  "/".intercalate entry.spellings ++ (entry.gloss.map (", " ++ ·)).getD ""

/-- An entry that a line can be written for: the separators stand for themselves nowhere, and neither
side of the comma is empty. -/
structure Writable (entry : WordEntry) : Prop where
  spelled : entry.spellings ≠ []
  plain : ∀ spelling ∈ entry.spellings, '/' ∉ spelling.toList ∧ ',' ∉ spelling.toList
  headed : "/".intercalate entry.spellings ≠ ""
  glossed : ∀ gloss, entry.gloss = some gloss → gloss ≠ "" ∧ '\n' ∉ gloss.toList

/-! ## From lines to entries and back -/

theorem spellingsOf_eq (text : List Char) :
    spellingsOf text = (text.splitOn '/').map String.ofList := by
  rw [spellingsOf, Text.splitOn_eq]

@[simp] theorem intercalate_spellingsOf (text : List Char) :
    ['/'].intercalate ((spellingsOf text).map String.toList) = text := by
  have pieces : (spellingsOf text).map String.toList = text.splitOn '/' := by
    simp [spellingsOf_eq, Function.comp_def]
  rw [pieces, List.intercalate_splitOn]

theorem text_parse (line : String) : (parse line).text = line := by
  apply String.toList_inj.mp
  rw [parse]
  cases split : splitGloss? line.toList with
  | none => simp [text]
  | some sides =>
      obtain ⟨head, gloss⟩ := sides
      obtain ⟨same, _⟩ := splitGloss?_eq_some_iff.mp split
      simp [text, same]

/-! ## From entries to lines and back -/

theorem not_mem_intercalate {c separator : Char} {pieces : List (List Char)} (other : c ≠ separator)
    (absent : ∀ piece ∈ pieces, c ∉ piece) : c ∉ [separator].intercalate pieces := by
  induction pieces with
  | nil => simp
  | cons piece pieces ih =>
      obtain ⟨head, tail⟩ := List.forall_mem_cons.mp absent
      cases pieces with
      | nil => simpa using head
      | cons next others =>
          rw [List.intercalate_cons_cons]
          simp [head, other, ih tail]

theorem Writable.parse_text {entry : WordEntry} (h : entry.Writable) : parse entry.text = entry := by
  obtain ⟨spellings, gloss⟩ := entry
  obtain ⟨spelled, plain, headed, glossed⟩ := h
  have pieces : spellingsOf ("/".intercalate spellings).toList = spellings := by
    have slashless : ∀ piece ∈ spellings.map String.toList, '/' ∉ piece := by
      simpa using fun spelling member => (plain spelling member).1
    rw [spellingsOf_eq, String.toList_intercalate]
    show List.map _ (List.splitOn '/' (['/'].intercalate _)) = _
    rw [List.splitOn_intercalate '/' slashless (by simpa using spelled)]
    simp [Function.comp_def]
  have commaless : ',' ∉ ("/".intercalate spellings).toList := by
    rw [String.toList_intercalate]
    exact not_mem_intercalate (by decide) (by simpa using fun s member => (plain s member).2)
  cases gloss with
  | none =>
      have uncut : splitGloss? ("/".intercalate spellings).toList = none := by
        refine Option.eq_none_iff_forall_ne_some.mpr fun sides split => ?_
        obtain ⟨same, _⟩ := splitGloss?_eq_some_iff.mp split
        exact commaless (same ▸ by simp)
      have line : text ⟨spellings, none⟩ = "/".intercalate spellings := by simp [text]
      rw [line, parse]
      simp only [uncut, pieces]
  | some gloss =>
      obtain ⟨some_gloss, oneLine⟩ := glossed gloss rfl
      have cut : splitGloss? (text ⟨spellings, some gloss⟩).toList =
          some (("/".intercalate spellings).toList, gloss.toList) :=
        splitGloss?_eq_some_iff.mpr ⟨by simp [text], commaless,
          fun empty => headed (String.toList_eq_nil_iff.mp empty), by simpa using some_gloss, oneLine⟩
      simp only [parse, cut, pieces, String.ofList_toList]

/-! ## Lossless reading -/

/-- What reading lines as entries has to do. A gloss is what follows the first comma and a space, if
it is on one line and both sides are there; the spellings stand before this comma, or else are the
whole line. The line can be written again from the entry, and an entry is read from its line. All this
is what the first match of a pattern says. -/
structure Lossless (read : String → WordEntry) : Prop where
  gloss_iff : ∀ line, (read line).gloss.isSome ↔
    ∃ head gloss, line.toList = head ++ ',' :: ' ' :: gloss ∧ Glossed head gloss
  glossed : ∀ line head gloss, line.toList = head ++ ',' :: ' ' :: gloss → Glossed head gloss →
    read line = ⟨(head.splitOn '/').map String.ofList, some (String.ofList gloss)⟩
  unglossed : ∀ line, (read line).gloss = none →
    (read line).spellings = (line.toList.splitOn '/').map String.ofList
  written : ∀ line, (read line).text = line
  again : ∀ entry, entry.Writable → read entry.text = entry
  matched : ∃ regex, Regex.compile glossPattern = .ok regex ∧
    ∀ line, read line = ofMatch? line (regex.find? line)

theorem parse_lossless : Lossless parse where
  gloss_iff line := by
    rw [parse]
    cases split : splitGloss? line.toList with
    | none =>
        refine iff_of_false (by simp) ?_
        rintro ⟨head, gloss, parts⟩
        cases split.symm.trans (splitGloss?_eq_some_iff.mpr parts)
    | some sides => exact iff_of_true rfl ⟨_, _, splitGloss?_eq_some_iff.mp split⟩
  glossed line head gloss same parts := by
    rw [parse, splitGloss?_eq_some_iff.mpr ⟨same, parts⟩, ← spellingsOf_eq]
  unglossed line none := by
    rw [parse] at none ⊢
    split at none
    · cases none
    · exact spellingsOf_eq _
  written := text_parse
  again _ writable := writable.parse_text
  matched := ⟨glossRegex, compile_glossPattern, parse_eq_ofMatch?⟩

end WordEntry

end Paradigm
