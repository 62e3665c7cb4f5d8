import Paradigm.Proofs.Result
import Paradigm.Table.Build

/-!
# The vocabulary of a table

The spellings that the rule-based table is built from, in the order in which they are worked off.
Main statement: the table has the row of the last occurrence of every spelling, or the first
occurrence without a row is told.
-/

namespace Paradigm

/-! ## Categories -/

/-- A repository has the rules of the words with rules of their own under the categories of these
words, and what another repository has under all other names. -/
structure Overlaid (rules explicit full : Repository) : Prop where
  own : ∀ word spec, explicit.get? word = some spec →
    full.get? (explicitCategory word) = some spec
  others : ∀ name, (∀ word, explicit.contains word → explicitCategory word ≠ name) →
    full.get? name = rules.get? name

theorem explicitCategory_inj {a b : String} (h : explicitCategory a = explicitCategory b) : a = b :=
  String.append_right_inj _ |>.mp h

theorem overlaid_withExplicit (rules explicit : Repository) :
    Overlaid rules explicit (withExplicit rules explicit) where
  own word spec here := by
    refine SortedMap.get?_insertMany_of_mem rules ?_
      (List.mem_map.mpr ⟨(word, spec), SortedMap.mem_entries_iff.mpr here, rfl⟩)
    rw [List.map_map]
    refine List.pairwise_map.mpr (explicit.increasing.imp fun less same => ?_)
    exact String.ne_of_lt less (explicitCategory_inj same)
  others name apart := by
    refine SortedMap.get?_insertMany_of_fresh rules fun p member => ?_
    obtain ⟨⟨word, spec⟩, inside, rfl⟩ := List.mem_map.mp member
    exact apart word (Option.isSome_of_eq_some (SortedMap.mem_entries_iff.mp inside))

/-! ## Occurrences -/

/-- The spellings of a line, each with its own line and category. -/
def occurrencesIn (category line : String) : List Task :=
  (WordEntry.parse line).spellings.map fun spelling => ⟨category, WordEntry.parse line, spelling⟩

/-- All spellings in the order in which they are worked off: the word lists by category, line and
place in the line, and then the words with rules of their own. -/
def occurrences (words : WordLists) (explicit : Repository) : List Task :=
  (words.entries.flatMap fun list => list.2.flatMap fun line => occurrencesIn list.1 line) ++
    explicit.keys.flatMap fun word => occurrencesIn (explicitCategory word) word

theorem tasks_workList (words : WordLists) (explicit : Repository) :
    tasks (workList words explicit) = occurrences words explicit := by
  simp only [tasks, workList, occurrences, List.flatMap_append, List.flatMap_assoc,
    List.flatMap_map]
  rfl

/-- No later task has the same spelling. -/
def Task.IsLast (t : Task) (order : List Task) : Prop :=
  ∃ before after, order = before ++ t :: after ∧ ∀ u ∈ after, u.spelling ≠ t.spelling

theorem Task.IsLast.mem {order : List Task} {t : Task} (h : t.IsLast order) : t ∈ order := by
  obtain ⟨before, after, rfl, _⟩ := h
  simp

theorem exists_isLast {order : List Task} {t : Task} (h : t ∈ order) :
    ∃ u : Task, u.IsLast order ∧ u.spelling = t.spelling := by
  have some : ∃ u ∈ order.reverse, ¬ u.spelling ≠ t.spelling :=
    ⟨t, List.mem_reverse.mpr h, not_not_intro rfl⟩
  obtain ⟨after, u, before, split, apart, same⟩ := exists_first_not some
  have same : u.spelling = t.spelling := Classical.not_not.mp same
  refine ⟨u, ⟨before.reverse, after.reverse, ?_, fun v member => ?_⟩, same⟩
  · rw [← List.reverse_reverse order, split]
    simp
  · exact same ▸ apart v (List.mem_reverse.mp member)

/-! ## Rows -/

/-- A fresh inflector in the category of a task, with the seeds of its line, gives a row. -/
def Task.Yields (grammar : Grammar) (t : Task) (row : Row) : Prop :=
  ∃ f, Inflector.create grammar t.category (t.entry.seeds t.spelling) = .ok f ∧
    (f.perform Row.generate).1 = .ok row

/-- A fresh inflector for a task cannot be made, or halts before there is a row. -/
inductive Task.Fails (grammar : Grammar) (t : Task) : Halt → Prop where
  | unresolved {e : Error}
    (refused : Inflector.create grammar t.category (t.entry.seeds t.spelling) = .error e) :
    Fails grammar t (.failed e)
  | halted {f : Inflector} {halt : Halt}
    (made : Inflector.create grammar t.category (t.entry.seeds t.spelling) = .ok f)
    (halted : (f.perform Row.generate).1 = .error halt) : Fails grammar t halt

theorem Task.row_eq_ok_iff {grammar : Grammar} {t : Task} {row : Row} :
    t.row grammar = .ok row ↔ t.Yields grammar row := by
  rw [Task.row, Task.Yields]
  cases Inflector.create grammar t.category (t.entry.seeds t.spelling) <;> simp

theorem Task.fails_of_row {grammar : Grammar} {t : Task} {halt : Halt}
    (h : t.row grammar = .error halt) : t.Fails grammar halt := by
  rw [Task.row] at h
  split at h
  · rename_i refused
    cases h
    exact .unresolved refused
  · rename_i made
    exact .halted made h

theorem Task.Yields.det {grammar : Grammar} {t : Task} {row row' : Row}
    (h : t.Yields grammar row) (h' : t.Yields grammar row') : row = row' :=
  Except.ok.inj ((row_eq_ok_iff.mpr h).symm.trans (row_eq_ok_iff.mpr h'))

/-- The row of a task depends on what the grammar has for its own category alone. -/
theorem Task.Yields.transfer {grammar grammar' : Grammar} {t : Task} {row : Row}
    (same : Inventory.resolve grammar t.category = Inventory.resolve grammar' t.category)
    (h : t.Yields grammar row) : t.Yields grammar' row := by
  obtain ⟨f, made, done⟩ := h
  rw [Inflector.create, same] at made
  exact ⟨f, made, done⟩

/-! ## Tables -/

/-- Tasks that have rows put them into the table, a later row of a spelling over an earlier one. -/
theorem addRows_append {grammar : Grammar} {before : List Task} (rest : List Task)
    (yield : ∀ u ∈ before, ∃ row, u.Yields grammar row) (table : FormTable) :
    ∃ table', addRows grammar (before ++ rest) table = addRows grammar rest table' ∧
      (∀ word, (∀ u ∈ before, u.spelling ≠ word) → table'.get? word = table.get? word) ∧
      ∀ (u : Task) (row : Row), u.IsLast before → u.Yields grammar row →
        table'.get? u.spelling = some row := by
  induction before generalizing table with
  | nil =>
      refine ⟨table, rfl, fun _ _ => rfl, ?_⟩
      rintro u row ⟨_, _, split, _⟩
      simp at split
  | cons t before ih =>
      obtain ⟨⟨row, made⟩, yield⟩ := List.forall_mem_cons.mp yield
      obtain ⟨table', run, others, last⟩ := ih yield (table.insert t.spelling row)
      refine ⟨table', ?_, fun word apart => ?_, ?_⟩
      · rw [List.cons_append, addRows, Task.row_eq_ok_iff.mpr made]
        exact run
      · obtain ⟨here, apart⟩ := List.forall_mem_cons.mp apart
        rw [others word apart, SortedMap.get?_insert_of_ne table row here.symm]
      · -- either the first task is the last of its spelling, or it plays no part any more
        rintro u row' ⟨front, back, split, apart⟩ made'
        obtain ⟨rfl, split⟩ | ⟨front, rfl, rfl⟩ := List.append_eq_cons_iff.mp split.symm
        · cases split
          rw [others t.spelling apart, SortedMap.get?_insert_self, made.det made']
        · exact last u row' ⟨front, back, rfl, apart⟩ made'

/-- A table has exactly the spellings of tasks, each with the row of its last occurrence. -/
structure Tabulates (grammar : Grammar) (order : List Task) (table : FormTable) : Prop where
  spellings : ∀ word, table.contains word ↔ ∃ t ∈ order, t.spelling = word
  rows : ∀ t : Task, t.IsLast order →
    ∃ row, t.Yields grammar row ∧ table.get? t.spelling = some row

/-- What building a table comes to. Where the rules of a word expand without end, an inflector has
neither a row for it nor an error. -/
structure Built (rules : Repository) (words : WordLists) (explicit : Repository)
    (outcome : Except TableError FormTable) : Prop where
  overlaid : Overlaid rules explicit (withExplicit rules explicit)
  refused : ∀ e, Grammar.compile (withExplicit rules explicit) = .error e →
    outcome = .error (.rules e)
  complete : ∀ grammar, Grammar.compile (withExplicit rules explicit) = .ok grammar →
    (∀ t ∈ occurrences words explicit, ∃ row, t.Yields grammar row) →
    ∃ table, outcome = .ok table ∧ Tabulates grammar (occurrences words explicit) table
  stops : ∀ grammar, Grammar.compile (withExplicit rules explicit) = .ok grammar →
    (∃ t ∈ occurrences words explicit, ¬ ∃ row, t.Yields grammar row) →
    ∃ before t after, occurrences words explicit = before ++ t :: after ∧
      (∀ u ∈ before, ∃ row, u.Yields grammar row) ∧
      ((∃ e, t.Fails grammar (.failed e) ∧ outcome = .error (.generation t.spelling e)) ∨
        t.Fails grammar .outOfFuel ∧ outcome = .error (.outOfFuel t.spelling))
  alone : ∀ table, outcome = .ok table → ∀ rules' words' explicit' table',
    buildRuleBased rules' words' explicit' = .ok table' → ∀ grammar grammar',
    Grammar.compile (withExplicit rules explicit) = .ok grammar →
    Grammar.compile (withExplicit rules' explicit') = .ok grammar' →
    ∀ t : Task, t.IsLast (occurrences words explicit) → t.IsLast (occurrences words' explicit') →
      Inventory.resolve grammar t.category = Inventory.resolve grammar' t.category →
      table.get? t.spelling = table'.get? t.spelling

theorem addRows_complete {grammar : Grammar} {order : List Task}
    (yield : ∀ t ∈ order, ∃ row, t.Yields grammar row) :
    ∃ table, addRows grammar order .empty = .ok table ∧ Tabulates grammar order table := by
  obtain ⟨table, run, others, last⟩ := addRows_append [] yield .empty
  rw [List.append_nil] at run
  have rows : ∀ t : Task, t.IsLast order →
      ∃ row, t.Yields grammar row ∧ table.get? t.spelling = some row := by
    intro t isLast
    obtain ⟨row, made⟩ := yield t isLast.mem
    exact ⟨row, made, last t row isLast made⟩
  refine ⟨table, run, fun word => ⟨fun here => ?_, ?_⟩, rows⟩
  · refine Classical.byContradiction fun absent => ?_
    have apart : ∀ u ∈ order, u.spelling ≠ word := fun u member same => absent ⟨u, member, same⟩
    rw [SortedMap.contains, others word apart] at here
    cases here
  · rintro ⟨t, member, rfl⟩
    obtain ⟨u, isLast, same⟩ := exists_isLast member
    obtain ⟨row, _, found⟩ := rows u isLast
    exact same ▸ Option.isSome_of_eq_some found

theorem addRows_stops {grammar : Grammar} {order : List Task}
    (short : ∃ t ∈ order, ¬ ∃ row, t.Yields grammar row) :
    ∃ before t after, order = before ++ t :: after ∧
      (∀ u ∈ before, ∃ row, u.Yields grammar row) ∧
      ∃ halt, t.Fails grammar halt ∧ addRows grammar order .empty = .error (t.failure halt) := by
  obtain ⟨before, t, after, rfl, yield, none⟩ := exists_first_not short
  obtain ⟨table, run, _, _⟩ := addRows_append (t :: after) yield .empty
  refine ⟨before, t, after, rfl, yield, ?_⟩
  rw [run, addRows]
  cases made : t.row grammar with
  | ok row => exact absurd ⟨row, Task.row_eq_ok_iff.mp made⟩ none
  | error halt => exact ⟨halt, Task.fails_of_row made, rfl⟩

theorem tabulates_of_addRows {grammar : Grammar} {order : List Task} {table : FormTable}
    (added : addRows grammar order .empty = .ok table) : Tabulates grammar order table := by
  by_cases short : ∃ t ∈ order, ¬ ∃ row, t.Yields grammar row
  · obtain ⟨_, _, _, _, _, _, _, failed⟩ := addRows_stops short
    cases added.symm.trans failed
  · have yield : ∀ t ∈ order, ∃ row, t.Yields grammar row :=
      fun t member => Classical.not_not.mp fun none => short ⟨t, member, none⟩
    obtain ⟨table', added', tabulates⟩ := addRows_complete yield
    cases added.symm.trans added'
    exact tabulates

theorem buildRuleBased_of_compiles {rules explicit : Repository} {words : WordLists}
    {grammar : Grammar} (compiled : Grammar.compile (withExplicit rules explicit) = .ok grammar) :
    buildRuleBased rules words explicit =
      addRows grammar (occurrences words explicit) .empty := by
  rw [buildRuleBased, compiled, ← tasks_workList]

theorem tabulates_of_built {rules explicit : Repository} {words : WordLists} {table : FormTable}
    (built : buildRuleBased rules words explicit = .ok table) :
    ∃ grammar, Grammar.compile (withExplicit rules explicit) = .ok grammar ∧
      Tabulates grammar (occurrences words explicit) table := by
  cases compiled : Grammar.compile (withExplicit rules explicit) with
  | error e =>
      rw [buildRuleBased, compiled] at built
      cases built
  | ok grammar =>
      rw [buildRuleBased_of_compiles compiled] at built
      exact ⟨grammar, rfl, tabulates_of_addRows built⟩

/-- Every row of the table is that of a spelling that was worked off. -/
theorem Tabulates.exists_yields {grammar : Grammar} {order : List Task} {table : FormTable}
    (h : Tabulates grammar order table) {word : String} {row : Row}
    (here : table.get? word = some row) : ∃ t ∈ order, t.spelling = word ∧ t.Yields grammar row := by
  obtain ⟨t, member, rfl⟩ := (h.spellings word).mp (Option.isSome_of_eq_some here)
  obtain ⟨u, isLast, same⟩ := exists_isLast member
  obtain ⟨row', made, found⟩ := h.rows u isLast
  rw [same, here] at found
  cases found
  exact ⟨u, isLast.mem, same, made⟩

/-- The rule-based table has exactly the spellings of the word lists and of the words with rules of
their own, each with the row of its last occurrence; or else it tells the first occurrence that has
no row. A row is the same in every table where its category comes to the same rules. -/
theorem buildRuleBased_built (rules : Repository) (words : WordLists) (explicit : Repository) :
    Built rules words explicit (buildRuleBased rules words explicit) where
  overlaid := overlaid_withExplicit rules explicit
  refused e failed := by rw [buildRuleBased, failed]
  complete grammar compiled yield := by
    rw [buildRuleBased_of_compiles compiled]
    exact addRows_complete yield
  stops grammar compiled short := by
    rw [buildRuleBased_of_compiles compiled]
    obtain ⟨before, t, after, split, yield, halt, fails, outcome⟩ := addRows_stops short
    refine ⟨before, t, after, split, yield, ?_⟩
    cases halt with
    | failed e => exact .inl ⟨e, fails, outcome⟩
    | outOfFuel => exact .inr ⟨fails, outcome⟩
  alone table built rules' words' explicit' table' built' grammar grammar' compiled compiled' t
      isLast isLast' same := by
    rw [buildRuleBased_of_compiles compiled] at built
    rw [buildRuleBased_of_compiles compiled'] at built'
    obtain ⟨row, made, found⟩ := (tabulates_of_addRows built).rows t isLast
    obtain ⟨row', made', found'⟩ := (tabulates_of_addRows built').rows t isLast'
    rw [found, found', (made.transfer same).det made']

end Paradigm
