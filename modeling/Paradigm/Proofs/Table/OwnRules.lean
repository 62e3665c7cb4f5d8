import Mathlib.Control.Monad.Basic
import Paradigm.Proofs.Table.Lines
import Paradigm.Proofs.Table.Vocabulary

/-!
# Words with rules of their own

Such a word is worked off like a line of a word list, after all word lists. Main statement: a bare
word has the row that its own rules give, unless a later one of these words is read as it; and no
word with a slash has a row.
-/

namespace Paradigm

/-! ## Last occurrences -/

theorem Task.IsLast.append_left {order : List Task} {t : Task} (h : t.IsLast order)
    (front : List Task) : t.IsLast (front ++ order) := by
  obtain ⟨before, after, rfl, apart⟩ := h
  exact ⟨front ++ before, after, by rw [List.append_assoc], apart⟩

theorem Task.IsLast.append_right {order back : List Task} {t : Task} (h : t.IsLast order)
    (others : ∀ u ∈ back, u.spelling ≠ t.spelling) : t.IsLast (order ++ back) := by
  obtain ⟨before, after, rfl, apart⟩ := h
  refine ⟨before, after ++ back, by simp, fun u member => ?_⟩
  rcases List.mem_append.mp member with member | member
  · exact apart u member
  · exact others u member

theorem mem_occurrencesIn_iff {category line : String} {t : Task} :
    t ∈ occurrencesIn category line ↔ ∃ spelling ∈ (WordEntry.parse line).spellings,
      ⟨category, WordEntry.parse line, spelling⟩ = t :=
  List.mem_map

/-- A spelling that stands in a line more than once is the same task each time. -/
theorem isLast_occurrencesIn {category line spelling : String}
    (member : spelling ∈ (WordEntry.parse line).spellings) :
    Task.IsLast ⟨category, WordEntry.parse line, spelling⟩ (occurrencesIn category line) := by
  obtain ⟨u, isLast, same⟩ := exists_isLast (mem_occurrencesIn_iff.mpr ⟨spelling, member, rfl⟩)
  obtain ⟨_, _, rfl⟩ := mem_occurrencesIn_iff.mp isLast.mem
  cases same
  exact isLast

theorem exists_line_of_occurrence {words : WordLists} {explicit : Repository} {t : Task}
    (h : t ∈ occurrences words explicit) : ∃ category line, t ∈ occurrencesIn category line := by
  rcases List.mem_append.mp h with member | member
  · obtain ⟨list, _, member⟩ := List.mem_flatMap.mp member
    obtain ⟨line, _, member⟩ := List.mem_flatMap.mp member
    exact ⟨list.1, line, member⟩
  · obtain ⟨word, _, member⟩ := List.mem_flatMap.mp member
    exact ⟨explicitCategory word, word, member⟩

theorem slash_not_mem_of_occurrence {words : WordLists} {explicit : Repository} {t : Task}
    (h : t ∈ occurrences words explicit) : '/' ∉ t.spelling.toList := by
  obtain ⟨category, line, member⟩ := exists_line_of_occurrence h
  obtain ⟨spelling, inside, rfl⟩ := mem_occurrencesIn_iff.mp member
  exact WordEntry.slash_not_mem_of_spelling inside

/-! ## Rows under own rules -/

/-- A word that comes after the given one in the order of the table, and has rules of its own, is
read as the spelling. -/
def TakenLater (explicit : Repository) (word spelling : String) : Prop :=
  ∃ later, explicit.contains later ∧ word < later ∧ spelling ∈ (WordEntry.parse later).spellings

theorem isLast_own {words : WordLists} {explicit : Repository} {word spelling : String}
    (own : explicit.contains word) (member : spelling ∈ (WordEntry.parse word).spellings)
    (last : ¬ TakenLater explicit word spelling) :
    Task.IsLast ⟨explicitCategory word, WordEntry.parse word, spelling⟩
      (occurrences words explicit) := by
  obtain ⟨before, after, split⟩ := List.append_of_mem (SortedMap.mem_keys_iff.mpr own)
  have later : ∀ u ∈ after, word < u := by
    have increasing := explicit.keys_pairwise_lt
    rw [split] at increasing
    exact (List.pairwise_cons.mp (List.pairwise_append.mp increasing).2.1).1
  -- whatever is worked off after the word is a spelling of a later one
  rw [occurrences, split, List.flatMap_append, List.flatMap_cons, ← List.append_assoc]
  refine ((isLast_occurrencesIn member).append_right fun u taken => ?_).append_left _
  obtain ⟨other, inside, taken⟩ := List.mem_flatMap.mp taken
  obtain ⟨_, read, rfl⟩ := mem_occurrencesIn_iff.mp taken
  rintro rfl
  have known : other ∈ explicit.keys := by simp [split, inside]
  exact last ⟨other, SortedMap.mem_keys_iff.mp known, later other inside, read⟩

/-- Under the word the table has the row that a fresh inflector gives in the category of the word,
with nothing given but the word itself. -/
def HasOwnRow (grammar : Grammar) (table : FormTable) (word : String) : Prop :=
  ∃ f row,
    Inflector.create grammar (explicitCategory word) [(WordEntry.headwordPart, word)] = .ok f ∧
      (f.perform Row.generate).1 = .ok row ∧ table.get? word = some row

/-- What a table has of the words with rules of their own. Where none of them has slashes or a gloss
all have their own rows. Otherwise what such a word is read as has rows under its rules, but a later
one of these words may be read so too, and nothing with a slash has a row. -/
structure OwnRows (grammar : Grammar) (explicit : Repository) (table : FormTable) : Prop where
  all : (∀ word, explicit.contains word → WordEntry.Bare word) →
    ∀ word, explicit.contains word → HasOwnRow grammar table word
  bare : ∀ word, explicit.contains word → WordEntry.Bare word → ¬ TakenLater explicit word word →
    HasOwnRow grammar table word
  spelled : ∀ word spelling, explicit.contains word →
    spelling ∈ (WordEntry.parse word).spellings → ¬ TakenLater explicit word spelling →
    ∃ row, Task.Yields grammar ⟨explicitCategory word, WordEntry.parse word, spelling⟩ row ∧
      table.get? spelling = some row
  slashed : ∀ word, '/' ∈ word.toList → table.get? word = none

/-- The table has the rows of the words with rules of their own, as far as these are bare. -/
theorem own_rows_of_bare {rules explicit : Repository} {words : WordLists} {table : FormTable}
    (built : buildRuleBased rules words explicit = .ok table) :
    ∃ grammar, Grammar.compile (withExplicit rules explicit) = .ok grammar ∧
      OwnRows grammar explicit table := by
  obtain ⟨grammar, compiled, tabulates⟩ := tabulates_of_built built
  have spelled : ∀ word spelling, explicit.contains word →
      spelling ∈ (WordEntry.parse word).spellings → ¬ TakenLater explicit word spelling →
      ∃ row, Task.Yields grammar ⟨explicitCategory word, WordEntry.parse word, spelling⟩ row ∧
        table.get? spelling = some row :=
    fun word spelling own member last => tabulates.rows _ (isLast_own own member last)
  have bare : ∀ word, explicit.contains word → WordEntry.Bare word →
      ¬ TakenLater explicit word word → HasOwnRow grammar table word := by
    intro word own bare last
    have alone := WordEntry.parse_eq_self_iff.mpr bare
    have member : word ∈ (WordEntry.parse word).spellings := by
      rw [alone]
      exact List.mem_singleton_self word
    obtain ⟨row, ⟨f, made, done⟩, here⟩ := spelled word word own member last
    rw [alone] at made
    exact ⟨f, row, made, done, here⟩
  refine ⟨grammar, compiled, ?_⟩
  constructor
  case all =>
    intro allBare word own
    refine bare word own (allBare word own) fun ⟨later, known, less, member⟩ => ?_
    rw [WordEntry.parse_eq_self_iff.mpr (allBare later known)] at member
    exact String.ne_of_lt less (List.mem_singleton.mp member)
  case bare => exact bare
  case spelled => exact spelled
  case slashed =>
    intro word slash
    refine Option.not_isSome_iff_eq_none.mp fun here => ?_
    obtain ⟨t, member, rfl⟩ := (tabulates.spellings word).mp here
    exact slash_not_mem_of_occurrence member slash

/-- Rules of a word that has nothing but an infinitive. -/
def infinitiveOnly (word : String) : Repository :=
  .ofList [(word, { rules := .ofList (
    (rowParts.map fun part => (part, .one (.template ""))) ++
      [("to-inf", .one (.template "to {plain-inf}"))]) })]

theorem don_own_row :
    ∃ table grammar, buildRuleBased .empty .empty (infinitiveOnly "don") = .ok table ∧
      Grammar.compile (withExplicit .empty (infinitiveOnly "don")) = .ok grammar ∧
      HasOwnRow grammar table "don" := by
  have built : buildRuleBased .empty .empty (infinitiveOnly "don") =
      .ok (.ofList [("don", .ofList [("to-inf", "to don")])]) := by decide +kernel
  have only : (infinitiveOnly "don").keys = ["don"] := by decide +kernel
  obtain ⟨grammar, compiled, rows⟩ := own_rows_of_bare built
  refine ⟨_, grammar, built, compiled, rows.all (fun word own => ?_) "don" (by decide +kernel)⟩
  have known := SortedMap.mem_keys_iff.mpr own
  rw [only] at known
  cases List.mem_singleton.mp known
  decide

/-- Rules for two words at once make two rows, and none of the text that they stand under. -/
theorem exists_own_rules_without_row :
    ∃ explicit table word, buildRuleBased .empty .empty explicit = .ok table ∧
      explicit.contains word ∧ table.get? word = none :=
  ⟨infinitiveOnly "beon/wesan",
    .ofList [("beon", .ofList [("to-inf", "to beon")]), ("wesan", .ofList [("to-inf", "to wesan")])],
    "beon/wesan", by decide +kernel⟩

end Paradigm
