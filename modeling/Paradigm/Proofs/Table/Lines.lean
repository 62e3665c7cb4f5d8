import Mathlib.Data.List.TakeWhile
import Paradigm.Table.Word

/-!
# What lines are read as

A line is cut at slashes, and at a comma where a gloss follows. Main statement: a line is read as
one spelling without a gloss, which is the line itself, exactly where it is bare.
-/

namespace Paradigm

/-! ## Pieces of a text -/

namespace Text

theorem splitOn_eq (sep : Char) (text : List Char) : splitOn sep text = text.splitOn sep := by
  induction text with
  | nil => rw [splitOn, List.splitOn_nil]
  | cons c text ih =>
      obtain ⟨piece, pieces, cut⟩ := List.exists_cons_of_ne_nil (List.splitOn_ne_nil sep text)
      rw [splitOn, ih, List.splitOn_cons_eq_if_modifyHead, cut]
      simp only [beq_iff_eq, List.modifyHead_cons]

theorem not_mem_of_mem_splitOn {sep : Char} {text piece : List Char}
    (h : piece ∈ splitOn sep text) : sep ∉ piece := by
  induction text generalizing piece with
  | nil =>
      cases List.mem_singleton.mp h
      exact List.not_mem_nil
  | cons c text ih =>
      rw [splitOn] at h
      split at h
      · rcases List.mem_cons.mp h with rfl | h
        · exact List.not_mem_nil
        · exact ih h
      · rename_i other
        split at h
        · cases List.mem_singleton.mp h
          simpa using Ne.symm other
        · rename_i first rest pieces
          rw [pieces] at ih
          rcases List.mem_cons.mp h with rfl | h
          · exact List.not_mem_cons_of_ne_of_not_mem (Ne.symm other) (ih List.mem_cons_self)
          · exact ih (List.mem_cons_of_mem _ h)

theorem splitOn_eq_singleton_iff {sep : Char} {text : List Char} :
    splitOn sep text = [text] ↔ sep ∉ text := by
  constructor
  · intro single
    exact not_mem_of_mem_splitOn (single ▸ List.mem_singleton_self text)
  · intro none
    rw [splitOn_eq, List.splitOn_eq_singleton none]

end Text

namespace WordEntry

/-! ## Glosses -/

/-- What may stand before the comma of a line and after its space. -/
structure Glossed (head gloss : List Char) : Prop where
  commaless : ',' ∉ head
  headed : head ≠ []
  glossed : gloss ≠ []
  oneLine : '\n' ∉ gloss

theorem splitGloss?_eq_some_iff {line head gloss : List Char} :
    splitGloss? line = some (head, gloss) ↔
      line = head ++ ',' :: ' ' :: gloss ∧ Glossed head gloss := by
  have commaless : ',' ∉ line.takeWhile (· != ',') := fun member => by
    simpa using List.mem_takeWhile_imp member
  rw [splitGloss?]
  constructor
  · intro found
    split at found
    · rename_i text rest
      split at found
      · cases found
      · rename_i proper
        cases found
        simp only [Bool.or_eq_true, List.isEmpty_iff, List.contains_iff_mem, not_or] at proper
        obtain ⟨⟨headed, glossed⟩, oneLine⟩ := proper
        exact ⟨by rw [← rest, List.takeWhile_append_dropWhile],
          ⟨commaless, headed, glossed, oneLine⟩⟩
    · cases found
  · rintro ⟨rfl, glossed⟩
    have passes : ∀ c ∈ head, (c != ',') = true := fun c member =>
      bne_iff_ne.mpr fun same => glossed.commaless (same ▸ member)
    rw [List.takeWhile_append_of_pos passes, List.dropWhile_append_of_pos passes]
    simp [glossed.headed, glossed.glossed, glossed.oneLine]

/-! ## Lines that are one spelling -/

/-- A word without a slash, and without a comma that a gloss follows. -/
structure Bare (word : String) : Prop where
  slashless : '/' ∉ word.toList
  glossless : ∀ head gloss, Glossed head gloss → word.toList ≠ head ++ ',' :: ' ' :: gloss

theorem slash_not_mem_of_spelling {line spelling : String}
    (h : spelling ∈ (parse line).spellings) : '/' ∉ spelling.toList := by
  have pieces : ∀ text, spelling ∈ spellingsOf text → '/' ∉ spelling.toList := by
    intro text member
    obtain ⟨piece, inside, rfl⟩ := List.mem_map.mp member
    rw [String.toList_ofList]
    exact Text.not_mem_of_mem_splitOn inside
  rw [parse] at h
  split at h
  · exact pieces _ h
  · exact pieces _ h

theorem parse_eq_self_iff {word : String} : parse word = ⟨[word], none⟩ ↔ Bare word := by
  constructor
  · intro alone
    have own : word ∈ (parse word).spellings := by rw [alone]; exact List.mem_singleton_self word
    refine ⟨slash_not_mem_of_spelling own, fun head gloss glossed same => ?_⟩
    rw [parse, splitGloss?_eq_some_iff.mpr ⟨same, glossed⟩] at alone
    exact Option.some_ne_none _ (congrArg WordEntry.gloss alone)
  · intro bare
    have uncut : splitGloss? word.toList = none := by
      refine Option.eq_none_iff_forall_ne_some.mpr fun ⟨head, gloss⟩ found => ?_
      obtain ⟨same, glossed⟩ := splitGloss?_eq_some_iff.mp found
      exact bare.glossless head gloss glossed same
    rw [parse, uncut]
    simp only [spellingsOf, Text.splitOn_eq_singleton_iff.mpr bare.slashless, List.map_cons,
      List.map_nil, String.ofList_toList]

instance (word : String) : Decidable (Bare word) := decidable_of_iff _ parse_eq_self_iff

end WordEntry

end Paradigm
