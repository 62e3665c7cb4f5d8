import Mathlib.Control.Monad.Basic
import Paradigm.Proofs.Placeholder
import Paradigm.Proofs.Table.Merge
import Paradigm.Proofs.Table.Vocabulary

/-!
# Tables in normal form

In a finished table glosses are infinitives and participles have their prefix, whichever table a row
is from. Main statement: a finished table may be put in the place of the table from elsewhere, and the
same table is built again.
-/

namespace Paradigm

/-! ## Texts that begin with a prefix -/

theorem Text.hasPrefix_iff {start text : String} :
    Text.hasPrefix start text = true ↔ start.toList <+: text.toList := by
  rw [Text.hasPrefix, Option.isSome_iff_exists]
  constructor
  · rintro ⟨rest, found⟩
    exact ⟨rest, (Placeholder.dropPrefix?_eq_some found).symm⟩
  · rintro ⟨rest, same⟩
    exact ⟨rest, same ▸ Placeholder.dropPrefix?_append start.toList rest⟩

namespace Row

theorem withPrefix_eq (start text : String) :
    withPrefix start text = if start.toList <+: text.toList then text else start ++ text := by
  simp only [withPrefix, Text.hasPrefix_iff]

theorem prefix_withPrefix (start text : String) :
    start.toList <+: (withPrefix start text).toList := by
  rw [withPrefix_eq]
  split
  · assumption
  · rw [String.toList_append]
    exact List.prefix_append _ _

theorem withPrefix_of_begins {start text : String} (h : start.toList <+: text.toList) :
    withPrefix start text = text := by
  rw [withPrefix_eq, if_pos h]

/-! ## Normal rows -/

/-- The gloss of the row, if it has one, is an infinitive. -/
def Normal (row : Row) : Prop :=
  ∀ gloss, row.get? WordEntry.glossPart = some gloss → "to ".toList <+: gloss.toList

theorem get?_normalize (row : Row) (part : String) :
    row.normalize.get? part =
      if part = WordEntry.glossPart then (row.get? part).map glossForm else row.get? part := by
  rw [normalize]
  split
  · rename_i gloss here
    rw [SortedMap.get?_insert]
    split
    · rename_i same
      rw [same, here, Option.map_some]
    · rfl
  · rename_i none
    split
    · rename_i same
      rw [same, none, Option.map_none]
    · rfl

theorem normal_normalize (row : Row) : row.normalize.Normal := by
  intro gloss here
  rw [get?_normalize, if_pos rfl] at here
  obtain ⟨text, _, rfl⟩ := Option.map_eq_some_iff.mp here
  exact prefix_withPrefix "to " text

theorem Normal.normalize_eq {row : Row} (h : row.Normal) : row.normalize = row := by
  refine SortedMap.ext_get? fun part => ?_
  rw [get?_normalize]
  split
  · rename_i same
    subst same
    rcases here : row.get? WordEntry.glossPart with _ | gloss
    · rfl
    · exact congrArg some (withPrefix_of_begins (h gloss here))
  · rfl

/-! ## Rows from rules -/

/-- Each text of the row is what joined forms of its part look like in rows. -/
def Displayed (row : Row) : Prop :=
  ∀ part text, row.get? part = some text → ∃ joined, text = display part joined

theorem displayed_empty : Displayed .empty := by
  intro part text here
  cases here

theorem Displayed.add {row : Row} (h : row.Displayed) (part : String) (forms : List String) :
    (row.add part forms).Displayed := by
  rw [Row.add]
  split
  · exact h
  · intro p text here
    rw [SortedMap.get?_insert] at here
    split at here
    · rename_i same
      cases here
      exact ⟨_, by rw [same]⟩
    · exact h p text here

theorem Displayed.generateParts {i : Inventory} {parts : List String} {row row' : Row}
    {s : Session} (h : row.Displayed)
    (ok : ((generateParts i parts row).outcome s).1 = .ok row') : row'.Displayed := by
  induction parts generalizing row s with
  | nil =>
      cases ok
      exact h
  | cons part parts ih =>
      rw [Row.generateParts, Halting.outcome_bind] at ok
      split at ok
      · exact ih (h.add part _) ok
      · cases ok

theorem displayed_generate {i : Inventory} {s : Session} {row : Row}
    (ok : ((generate i).outcome s).1 = .ok row) : row.Displayed :=
  displayed_empty.generateParts ok

theorem Displayed.normal {row : Row} (h : row.Displayed) : row.Normal := by
  intro gloss here
  obtain ⟨joined, rfl⟩ := h _ gloss here
  exact prefix_withPrefix "to " joined

theorem Displayed.participle {row : Row} (h : row.Displayed) {form : String}
    (here : row.get? "past-part" = some form) : "(ge)".toList <+: form.toList := by
  obtain ⟨joined, rfl⟩ := h _ form here
  exact prefix_withPrefix "(ge)" joined

end Row

theorem Task.Yields.displayed {grammar : Grammar} {t : Task} {row : Row}
    (h : t.Yields grammar row) : row.Displayed := by
  obtain ⟨f, _, done⟩ := h
  exact Row.displayed_generate (i := f.inventory) (s := f.session) done

/-! ## Normal tables -/

theorem get?_normalizeGlosses (table : FormTable) (word : String) :
    (normalizeGlosses table).get? word = (table.get? word).map Row.normalize :=
  SortedMap.get?_map Row.normalize table word

theorem normalizeGlosses_of_normal {table : FormTable}
    (h : ∀ word row, table.get? word = some row → row.Normal) : normalizeGlosses table = table := by
  refine SortedMap.ext_get? fun word => ?_
  rw [get?_normalizeGlosses]
  rcases here : table.get? word with _ | row
  · rfl
  · exact congrArg some (h word row here).normalize_eq

/-- What has been merged merges again with the same rows, and does not change. -/
theorem merge?_again {base generated table : FormTable} (merged : merge? base generated = .ok table) :
    merge? table generated = .ok table := by
  obtain ⟨agree, rows⟩ := merge?_eq_ok_iff.mp merged
  refine merge?_eq_ok_iff.mpr ⟨fun word existing row here there => ?_, fun word => ?_⟩
  · rw [rows] at here
    rcases base_here : base.get? word with _ | kept
    · rw [base_here, Option.none_or, there] at here
      cases here
      exact fun _ _ => rfl
    · rw [base_here, Option.some_or] at here
      cases here
      exact agree word _ row base_here there
  · rw [rows]
    cases base.get? word with
    | some kept => rfl
    | none =>
        cases generated.get? word with
        | some row => rfl
        | none => rfl

/-- What holds of a table that is built from a source, and from the rows that rules generate. The
words are those of the two tables. Glosses are infinitives, and so are the participles of generated
words prefixed, also in rows that were kept. A kept row differs from the one of the source in its
gloss at most. Nothing is left to be normalized, and built anew over itself the table is the same. -/
structure NormalForm (source : TableSource) (generated table : FormTable) : Prop where
  words : ∀ word, table.contains word ↔
    source.alternate.contains word ∨ generated.contains word
  glosses : ∀ word row gloss, table.get? word = some row →
    row.get? WordEntry.glossPart = some gloss → "to ".toList <+: gloss.toList
  participles : ∀ word row form, generated.contains word → table.get? word = some row →
    row.get? "past-part" = some form → "(ge)".toList <+: form.toList
  kept : ∀ word row, source.alternate.get? word = some row → ∃ row',
    table.get? word = some row' ∧
      (∀ part ≠ WordEntry.glossPart, row'.get? part = row.get? part) ∧
      row'.get? WordEntry.glossPart = (row.get? WordEntry.glossPart).map fun gloss =>
        if "to ".toList <+: gloss.toList then gloss else "to " ++ gloss
  taken : ∀ word, source.alternate.get? word = none → table.get? word = generated.get? word
  normal : normalizeGlosses table = table
  rebuilt : buildTable { source with alternate := table } = .ok table

/-- A table that is built is in normal form over the rule-based table, whose words are the spellings
of the word lists and of the words with rules of their own. -/
theorem buildTable_normalForm {source : TableSource} {table : FormTable}
    (built : buildTable source = .ok table) :
    ∃ generated, buildRuleBased source.rules source.words source.explicit = .ok generated ∧
      (∀ word, generated.contains word ↔
        ∃ t ∈ occurrences source.words source.explicit, t.spelling = word) ∧
      NormalForm source generated table := by
  rw [buildTable] at built
  split at built
  · cases built
  rename_i generated made
  obtain ⟨grammar, _, tabulates⟩ := tabulates_of_built made
  have displayed : ∀ word row, generated.get? word = some row → row.Displayed := by
    intro word row here
    obtain ⟨_, _, _, yields⟩ := tabulates.exists_yields here
    exact yields.displayed
  obtain ⟨agree, rows⟩ := merge?_eq_ok_iff.mp built
  simp only [get?_normalizeGlosses] at rows
  have normal : ∀ word row, table.get? word = some row → row.Normal := by
    intro word row here
    rw [rows] at here
    rcases known : source.alternate.get? word with _ | old
    · rw [known] at here
      exact (displayed word row here).normal
    · rw [known] at here
      cases here
      exact old.normal_normalize
  have settled := normalizeGlosses_of_normal normal
  refine ⟨generated, made, tabulates.spellings, ?_⟩
  constructor
  case words =>
    intro word
    simp only [SortedMap.contains, rows, Option.isSome_or, Option.isSome_map, Bool.or_eq_true]
  case glosses => exact fun word row gloss here => normal word row here gloss
  case participles =>
    intro word row form inside here shown
    obtain ⟨other, there⟩ := Option.isSome_iff_exists.mp inside
    -- a row that was kept has passed the comparison with the generated one
    have same : row.get? "past-part" = other.get? "past-part" := by
      rw [rows] at here
      rcases known : source.alternate.get? word with _ | old
      · rw [known, Option.map_none, Option.none_or, there] at here
        cases here
        rfl
      · rw [known] at here
        cases here
        have existing : (normalizeGlosses source.alternate).get? word = some old.normalize := by
          rw [get?_normalizeGlosses, known, Option.map_some]
        exact agree word _ other existing there "past-part" (by decide)
    exact (displayed word other there).participle (same ▸ shown)
  case kept =>
    intro word row known
    refine ⟨row.normalize, by rw [rows, known]; rfl, fun part other => ?_, ?_⟩
    · rw [Row.get?_normalize, if_neg other]
    · rw [Row.get?_normalize, if_pos rfl]
      exact congrArg (Option.map · _) (funext fun gloss => Row.withPrefix_eq "to " gloss)
  case taken =>
    intro word absent
    rw [rows, absent]
    rfl
  case normal => exact settled
  case rebuilt =>
    rw [buildTable, made]
    show merge? (normalizeGlosses table) generated = .ok table
    rw [settled]
    exact merge?_again built

/-- Weak verbs that have nothing but a participle, and two rows from elsewhere: one is also
generated, and the other one is not. -/
def weakSource : TableSource where
  rules := .ofList [("weak", { rules := .ofList (
    (rowParts.map fun part => (part, .one (.template ""))) ++
      [("past-part", .one (.template "{plain-inf}d"))]) })]
  words := .ofList [("weak", ["hiere, hear", "deme"])]
  alternate := .ofList [
    ("deme", .ofList [("past-part", "(ge)demed"), ("mod-e", "judge")]),
    ("don", .ofList [("mod-e", "to do")])]

def weakTable : FormTable := .ofList [
  ("deme", .ofList [("past-part", "(ge)demed"), ("mod-e", "to judge")]),
  ("don", .ofList [("mod-e", "to do")]),
  ("hiere", .ofList [("past-part", "(ge)hiered"), ("mod-e", "to hear")])]

theorem weak_table_rebuilt :
    buildTable weakSource = .ok weakTable ∧
      buildTable { weakSource with alternate := weakTable } = .ok weakTable := by
  have built : buildTable weakSource = .ok weakTable := by decide +kernel
  obtain ⟨_, _, _, normalForm⟩ := buildTable_normalForm built
  exact ⟨built, normalForm.rebuilt⟩

end Paradigm
