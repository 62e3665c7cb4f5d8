import Paradigm.Proofs.Compilation
import Paradigm.Proofs.Table.OwnRules

/-!
# Words with rules of their own apart from listed words

The categories of words with rules of their own are put into the same repository as all others. Where
no other name looks like theirs, listed words do not see them. Main statement: the table is that of
the word lists alone, overridden by that of the words with rules of their own alone.
-/

namespace Paradigm

/-! ## Grammars that agree on some names -/

/-- Two grammars have the same categories under some names, and from there inheritance leads to such
names only. -/
structure Grammar.Shares (grammar larger : Grammar) (among : String → Prop) : Prop where
  same : ∀ name, among name → larger.get? name = grammar.get? name
  closed : ∀ name category parent, among name → grammar.get? name = some category →
    category.parent = some parent → among parent

namespace Inventory

variable {grammar larger : Grammar} {among : String → Prop} {name : String}

theorem ascend_shared (shares : grammar.Shares larger among) (inside : among name)
    {category : Category} (known : grammar.get? name = some category) (start : String) (room : Nat) :
    ascend larger start room name category = ascend grammar start room name category := by
  induction room generalizing name category with
  | zero => rfl
  | succ room ih =>
      rw [ascend, ascend]
      cases up : category.parent with
      | none => rfl
      | some parent =>
          have further := shares.closed name category parent inside known up
          simp only [shares.same parent further]
          cases above : grammar.get? parent with
          | none => rfl
          | some next => simp only [ih further above]

theorem resolve_shared (shares : grammar.Shares larger among) (inside : among name) :
    resolve larger name = resolve grammar name := by
  rw [resolve, resolve, shares.same name inside]
  cases known : grammar.get? name with
  | none => rfl
  | some category => simp only [ascend_shared shares inside known]

end Inventory

/-! ## Rows in a table -/

variable {grammar larger : Grammar} {order : List Task}

theorem Task.row_congr {t : Task}
    (same : Inventory.resolve larger t.category = Inventory.resolve grammar t.category) :
    t.row larger = t.row grammar := by
  rw [Task.row, Task.row, Inflector.create, Inflector.create, same]

theorem addRows_congr (same : ∀ t ∈ order, t.row larger = t.row grammar) (table : FormTable) :
    addRows larger order table = addRows grammar order table := by
  induction order generalizing table with
  | nil => rfl
  | cons t rest ih =>
      obtain ⟨here, later⟩ := List.forall_mem_cons.mp same
      rw [addRows, addRows, here]
      cases t.row grammar with
      | error halt => rfl
      | ok row => exact ih later (table.insert t.spelling row)

/-- Rows that are added to a table override it. -/
theorem addRows_orElse (grammar : Grammar) (order : List Task) (table : FormTable) :
    addRows grammar order table = (addRows grammar order .empty).map (·.orElse table) := by
  induction order generalizing table with
  | nil => simp [addRows, Except.map, SortedMap.empty_orElse]
  | cons t rest ih =>
      rw [addRows, addRows]
      cases t.row grammar with
      | error halt => rfl
      | ok row =>
          simp only
          rw [ih (table.insert _ _), ih (SortedMap.empty.insert _ _),
            SortedMap.insert_eq_orElse table]
          cases addRows grammar rest .empty with
          | error e => rfl
          | ok rows => simp [Except.map, SortedMap.orElse_assoc]

theorem addRows_both (grammar : Grammar) (before after : List Task) (table : FormTable) :
    addRows grammar (before ++ after) table =
      addRows grammar before table >>= addRows grammar after := by
  induction before generalizing table with
  | nil => rfl
  | cons t before ih =>
      rw [List.cons_append, addRows, addRows]
      cases t.row grammar with
      | error halt => rfl
      | ok row => exact ih (table.insert t.spelling row)

/-! ## Reserved names -/

/-- The name begins like those of the categories of words with rules of their own. -/
def Reserved (name : String) : Prop := "explicit-".toList <+: name.toList

instance (name : String) : Decidable (Reserved name) :=
  inferInstanceAs (Decidable ("explicit-".toList <+: name.toList))

theorem reserved_explicitCategory (word : String) : Reserved (explicitCategory word) := by
  rw [Reserved, explicitCategory, String.toList_append]
  exact List.prefix_append _ _

/-- No category has a reserved name, none inherits from such a name, and no words are listed under
one. -/
structure Unreserved (rules : Repository) (words : WordLists) : Prop where
  categories : ∀ e ∈ rules.entries, ¬ Reserved e.1
  parents : ∀ e ∈ rules.entries, ∀ parent ∈ e.2.parent, ¬ Reserved parent
  lists : ∀ list ∈ words.entries, ¬ Reserved list.1

instance (rules : Repository) (words : WordLists) : Decidable (Unreserved rules words) :=
  decidable_of_iff ((∀ e ∈ rules.entries, ¬ Reserved e.1) ∧
      (∀ e ∈ rules.entries, ∀ parent ∈ e.2.parent, ¬ Reserved parent) ∧
      ∀ list ∈ words.entries, ¬ Reserved list.1)
    ⟨fun ⟨categories, parents, lists⟩ => ⟨categories, parents, lists⟩,
      fun h => ⟨h.categories, h.parents, h.lists⟩⟩

section

variable {rules explicit : Repository} {words : WordLists}

/-- A name that is not reserved has the same rules with and without the words with own rules. -/
theorem get?_withExplicit {name : String} (free : ¬ Reserved name) :
    (withExplicit rules explicit).get? name = rules.get? name := by
  apply (overlaid_withExplicit rules explicit).others
  rintro word _ rfl
  exact free (reserved_explicitCategory word)

/-- Where the larger repository compiles, so does the smaller one, to the same categories. -/
theorem exists_shared_of_compile (h : Unreserved rules words)
    (compiled : Grammar.compile (withExplicit rules explicit) = .ok larger) :
    ∃ grammar, Grammar.compile rules = .ok grammar ∧
      grammar.Shares larger fun name => ¬ Reserved name := by
  have larger_get := SortedMap.get?_of_traverse_ok compiled
  cases smaller : Grammar.compile rules with
  | error e =>
      obtain ⟨name, spec, here, failed, _⟩ := SortedMap.of_traverse_error smaller
      have free := h.categories _ (SortedMap.mem_entries_iff.mpr here)
      have there : (withExplicit rules explicit).get? name = some spec :=
        (get?_withExplicit free).trans here
      obtain ⟨keys, values⟩ := SortedMap.of_traverse_ok compiled
      obtain ⟨category, found⟩ := SortedMap.exists_get?_of_keys keys there
      cases failed.symm.trans (values name spec category there found)
  | ok grammar =>
      have smaller_get := SortedMap.get?_of_traverse_ok smaller
      refine ⟨grammar, rfl, ?_, ?_⟩
      · intro name free
        rw [larger_get, smaller_get, get?_withExplicit free]
      · intro name category parent free found up
        obtain ⟨_, categories⟩ := Grammar.compiled_of_compile smaller
        rw [smaller_get] at found
        obtain ⟨spec, here, _⟩ := Option.bind_eq_some_iff.mp found
        rw [← smaller_get] at found
        have same := (categories name spec category here found).parent
        exact h.parents _ (SortedMap.mem_entries_iff.mpr here) parent (same.symm.trans up)

/-! ## The two halves of a table -/

theorem occurrences_eq_append (words : WordLists) (explicit : Repository) :
    occurrences words explicit = occurrences words .empty ++ occurrences .empty explicit := by
  simp [occurrences, SortedMap.keys, SortedMap.empty]

/-- Listed words have the same rows with and without words with rules of their own. -/
theorem addRows_listed (h : Unreserved rules words)
    (shares : grammar.Shares larger fun name => ¬ Reserved name) (table : FormTable) :
    addRows larger (occurrences words .empty) table =
      addRows grammar (occurrences words .empty) table := by
  apply addRows_congr
  intro t member
  apply Task.row_congr
  apply Inventory.resolve_shared shares
  simp only [occurrences, SortedMap.keys, SortedMap.empty, List.map_nil, List.flatMap_nil,
    List.append_nil, List.mem_flatMap] at member
  obtain ⟨list, listed, line, _, member⟩ := member
  obtain ⟨spelling, _, rfl⟩ := List.mem_map.mp member
  exact h.lists list listed

theorem build_listed (h : Unreserved rules words)
    (compiled : Grammar.compile (withExplicit rules explicit) = .ok larger) :
    buildRuleBased rules words .empty = addRows larger (occurrences words .empty) .empty := by
  obtain ⟨grammar, smaller, shares⟩ := exists_shared_of_compile h compiled
  rw [addRows_listed h shares]
  exact buildRuleBased_of_compiles smaller

theorem build_both (compiled : Grammar.compile (withExplicit rules explicit) = .ok larger) :
    buildRuleBased rules words explicit =
      addRows larger (occurrences words .empty) .empty >>= fun listed =>
        (buildRuleBased rules .empty explicit).map (·.orElse listed) := by
  rw [buildRuleBased_of_compiles compiled, buildRuleBased_of_compiles compiled,
    occurrences_eq_append, addRows_both]
  congr 1
  funext listed
  exact addRows_orElse larger _ listed

/-- A table comes from two others: it can be built exactly if both can, and then it has all rows of
the second one, and those of the first one for all other words. -/
structure Overrides (whole first second : Except TableError FormTable) : Prop where
  succeeds : (∃ table, whole = .ok table) ↔
    (∃ below, first = .ok below) ∧ ∃ above, second = .ok above
  rows : ∀ table below above, whole = .ok table → first = .ok below → second = .ok above →
    ∀ word, table.get? word = (above.get? word).or (below.get? word)

theorem overrides_of_orElse (first second : Except TableError FormTable) :
    Overrides (first >>= fun below => second.map (·.orElse below)) first second := by
  constructor
  case succeeds =>
    constructor
    · rintro ⟨table, built⟩
      obtain ⟨below, first, built⟩ := of_bind_ok built
      obtain ⟨above, second, _⟩ := of_map_ok built
      exact ⟨⟨below, first⟩, above, second⟩
    · rintro ⟨⟨below, rfl⟩, above, rfl⟩
      exact ⟨above.orElse below, rfl⟩
  case rows =>
    rintro table below above built rfl rfl word
    cases built
    exact SortedMap.get?_orElse above below word

/-- Where reserved names are kept free, the table is that of the word lists alone, overridden by that
of the words with rules of their own alone. -/
theorem buildRuleBased_overrides (h : Unreserved rules words) (explicit : Repository) :
    Overrides (buildRuleBased rules words explicit) (buildRuleBased rules words .empty)
      (buildRuleBased rules .empty explicit) := by
  cases compiled : Grammar.compile (withExplicit rules explicit) with
  | error e =>
      have failed : ∀ words, buildRuleBased rules words explicit = .error (.rules e) := by
        intro words
        rw [buildRuleBased, compiled]
      rw [failed, failed]
      constructor
      case succeeds => simp
      case rows =>
        intro table below above built
        cases built
  | ok larger =>
      rw [build_both compiled, ← build_listed h compiled]
      exact overrides_of_orElse _ _

end

/-- Two weak verbs. -/
def weakWords : WordLists := .ofList [("weak", ["deman", "don"])]

/-- One of the weak verbs has an infinitive of its own, and is weak otherwise. -/
def ownInfinitive : Repository :=
  .ofList [("don", { parent := some "weak", rules := .ofList [
    ("to-inf", .one (.template "to {plain-inf}ne"))] })]

theorem don_overrides :
    Unreserved (infinitiveOnly "weak") weakWords ∧
      ∃ table, buildRuleBased (infinitiveOnly "weak") weakWords ownInfinitive = .ok table ∧
        table.get? "deman" = some (.ofList [("to-inf", "to deman")]) ∧
        table.get? "don" = some (.ofList [("to-inf", "to donne")]) := by
  have free : Unreserved (infinitiveOnly "weak") weakWords := by decide +kernel
  have overrides := buildRuleBased_overrides free ownInfinitive
  have listed : buildRuleBased (infinitiveOnly "weak") weakWords .empty = .ok (.ofList [
      ("deman", .ofList [("to-inf", "to deman")]), ("don", .ofList [("to-inf", "to don")])]) := by
    decide +kernel
  have own : buildRuleBased (infinitiveOnly "weak") .empty ownInfinitive =
      .ok (.ofList [("don", .ofList [("to-inf", "to donne")])]) := by decide +kernel
  obtain ⟨table, built⟩ := overrides.succeeds.mpr ⟨⟨_, listed⟩, _, own⟩
  have rows := overrides.rows _ _ _ built listed own
  refine ⟨free, table, built, ?_, ?_⟩
  · rw [rows]
    decide +kernel
  · rw [rows]
    decide +kernel

end Paradigm
