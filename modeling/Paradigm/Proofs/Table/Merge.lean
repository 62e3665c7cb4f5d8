import Paradigm.Proofs.Result
import Paradigm.Table.Build

/-!
# Merging tables

A table from elsewhere takes up the words that it lacks from a generated table. Main statement:
merging stops at the first word on which the two disagree, and tells their first difference.
-/

namespace Paradigm

namespace Row

/-- Two rows show the same, the gloss apart. -/
def Compatible (existing generated : Row) : Prop :=
  ∀ part ≠ WordEntry.glossPart, existing.get? part = generated.get? part

/-- What an existing row shows for a part is also in the generated row, the gloss apart. -/
def Confirmed (existing generated : Row) (part : String) : Prop :=
  part ≠ WordEntry.glossPart → ∀ form, existing.get? part = some form →
    generated.get? part = some form

/-- The conflict that is told of two rows of a word: the first part of the existing row that the
generated row lacks or shows differently, and where there is none, the first part that it adds. -/
inductive Conflict (word : String) (existing generated : Row) : TableError → Prop where
  | lacked {part : String} (counted : part ≠ WordEntry.glossPart)
    (first : ∀ p < part, existing.Confirmed generated p)
    (here : existing.contains part) (lacks : generated.get? part = none) :
    Conflict word existing generated (.missingForm word part .existing)
  | differs {part form other : String} (counted : part ≠ WordEntry.glossPart)
    (first : ∀ p < part, existing.Confirmed generated p)
    (here : existing.get? part = some form) (there : generated.get? part = some other)
    (differs : form ≠ other) : Conflict word existing generated (.formMismatch word part form other)
  | added {part : String} (counted : part ≠ WordEntry.glossPart)
    (confirmed : ∀ p, existing.Confirmed generated p)
    (first : ∀ p < part, p ≠ WordEntry.glossPart → generated.contains p → existing.contains p)
    (there : generated.contains part) (lacks : existing.get? part = none) :
    Conflict word existing generated (.missingForm word part .generated)

end Row

section

variable (word : String) {existing generated : Row}

/-! ## Two rows -/

/-- An entry of an existing row is confirmed by a generated row. -/
def Row.ConfirmsEntry (generated : Row) (entry : String × String) : Prop :=
  entry.1 ≠ WordEntry.glossPart → generated.get? entry.1 = some entry.2

theorem existingConflict?_append {before rest : List (String × String)}
    (h : ∀ entry ∈ before, generated.ConfirmsEntry entry) :
    existingConflict? word generated (before ++ rest) = existingConflict? word generated rest := by
  induction before with
  | nil => rfl
  | cons entry before ih =>
      obtain ⟨part, form⟩ := entry
      obtain ⟨head, tail⟩ := List.forall_mem_cons.mp h
      rw [List.cons_append, existingConflict?, ih tail]
      split
      · rfl
      · rename_i counted
        have shown : generated.get? part = some form := head counted
        simp [shown]

theorem existingConflict?_of_confirmed
    (h : ∀ entry ∈ existing.entries, generated.ConfirmsEntry entry) :
    existingConflict? word generated existing.entries = none := by
  rw [← List.append_nil existing.entries, existingConflict?_append word h, existingConflict?]

theorem Row.Confirmed.of_before {before after : List (String × String)} {part form : String}
    (split : existing.entries = before ++ (part, form) :: after)
    (h : ∀ entry ∈ before, generated.ConfirmsEntry entry) {p : String} (less : p < part) :
    existing.Confirmed generated p := by
  intro counted f here
  exact h (p, f) ((SortedMap.mem_before_iff split).mpr ⟨less, here⟩) counted

/-- An existing row that is not confirmed conflicts with the generated row at its first part that is
not. -/
theorem existingConflict?_of_unconfirmed
    (h : ∃ entry ∈ existing.entries, ¬ generated.ConfirmsEntry entry) :
    ∃ e, existingConflict? word generated existing.entries = some e ∧
      Row.Conflict word existing generated e := by
  obtain ⟨before, ⟨part, form⟩, after, split, confirmed, differs⟩ := exists_first_not h
  have here : existing.get? part = some form := SortedMap.mem_entries_iff.mp (by simp [split])
  obtain ⟨counted, differs⟩ := Classical.not_imp.mp differs
  have first : ∀ p < part, existing.Confirmed generated p := fun p less =>
    .of_before split confirmed less
  rw [split, existingConflict?_append word confirmed, existingConflict?, if_neg counted]
  rcases there : generated.get? part with _ | other
  · exact ⟨_, rfl, .lacked counted first (Option.isSome_of_eq_some here) there⟩
  · have apart : other ≠ form := fun same => differs (there.trans (congrArg some same))
    exact ⟨_, if_neg apart, .differs counted first here there apart.symm⟩

/-- The first part, the gloss apart, that a generated row adds to an existing row. -/
def Row.firstAdded? (existing generated : Row) : Option String :=
  generated.keys.find? fun part => part != WordEntry.glossPart && !existing.contains part

theorem Row.of_firstAdded? {first : String} (h : existing.firstAdded? generated = some first) :
    first ≠ WordEntry.glossPart ∧ generated.contains first ∧ existing.get? first = none ∧
      ∀ p < first, p ≠ WordEntry.glossPart → generated.contains p → existing.contains p := by
  obtain ⟨there, added, others⟩ := SortedMap.of_find?_keys h
  simp only [Bool.and_eq_true, bne_iff_ne, ne_eq, Bool.not_eq_true'] at added
  have lacks : existing.get? first = none := by simpa [SortedMap.contains] using added.2
  refine ⟨added.1, there, lacks, ?_⟩
  intro p less counted inside
  simpa [counted] using others p less inside

theorem Row.firstAdded?_eq_none_iff : existing.firstAdded? generated = none ↔
    ∀ part ≠ WordEntry.glossPart, generated.contains part → existing.contains part := by
  rw [firstAdded?, List.find?_eq_none]
  refine forall_congr' fun part => ?_
  rw [SortedMap.mem_keys_iff, SortedMap.contains]
  simp only [Bool.and_eq_true, bne_iff_ne, Bool.not_eq_true', not_and, Bool.not_eq_false]
  exact ⟨fun h counted there => h there counted, fun h there counted => h counted there⟩

theorem conflict?_of_confirmed (h : ∀ entry ∈ existing.entries, generated.ConfirmsEntry entry) :
    conflict? word existing generated =
      (existing.firstAdded? generated).map fun part => .missingForm word part .generated := by
  rw [conflict?, existingConflict?_of_confirmed word h, Row.firstAdded?]

theorem conflict?_of_compatible (h : existing.Compatible generated) :
    conflict? word existing generated = none := by
  have confirmed : ∀ entry ∈ existing.entries, generated.ConfirmsEntry entry := by
    intro entry member counted
    exact (h entry.1 counted).symm.trans (SortedMap.mem_entries_iff.mp member)
  have none : existing.firstAdded? generated = none :=
    Row.firstAdded?_eq_none_iff.mpr fun part counted there => by
      rwa [SortedMap.contains, h part counted]
  rw [conflict?_of_confirmed word confirmed, none, Option.map_none]

theorem conflict?_of_incompatible (h : ¬ existing.Compatible generated) :
    ∃ e, conflict? word existing generated = some e ∧ Row.Conflict word existing generated e := by
  by_cases confirmed : ∀ entry ∈ existing.entries, generated.ConfirmsEntry entry
  · have covers : ∀ p, existing.Confirmed generated p := fun p counted form here =>
      confirmed (p, form) (SortedMap.mem_entries_iff.mpr here) counted
    rw [conflict?_of_confirmed word confirmed]
    rcases found : existing.firstAdded? generated with _ | first
    · refine absurd (fun part counted => ?_) h
      rcases here : existing.get? part with _ | form
      · refine (Option.eq_none_iff_forall_ne_some.mpr fun form there => ?_).symm
        have inside := Row.firstAdded?_eq_none_iff.mp found part counted
          (Option.isSome_of_eq_some there)
        rw [SortedMap.contains, here] at inside
        cases inside
      · exact (covers part counted form here).symm
    · obtain ⟨counted, there, lacks, first⟩ := Row.of_firstAdded? found
      exact ⟨_, rfl, .added counted covers first there lacks⟩
  · simp only [Classical.not_forall, exists_prop] at confirmed
    obtain ⟨e, found, conflict⟩ := existingConflict?_of_unconfirmed word confirmed
    exact ⟨e, by rw [conflict?, found], conflict⟩

end

/-! ## Row by row -/

/-- A row does not disagree with the row that the base has of its word. -/
def Admits (base : FormTable) (entry : String × Row) : Prop :=
  ∀ existing, base.get? entry.1 = some existing → existing.Compatible entry.2

/-- Rows that disagree with none of the base are taken up, where the base has no row of the word. -/
theorem mergeRows_append {base : FormTable} {before : List (String × Row)}
    (rest : List (String × Row)) (distinct : (before.map (·.1)).Nodup)
    (agree : ∀ entry ∈ before, Admits base entry) :
    ∃ merged : FormTable,
      (∀ w, merged.get? w = (base.get? w).or (SortedMap.findEntry w before)) ∧
      mergeRows base (before ++ rest) = mergeRows merged rest := by
  induction before generalizing base with
  | nil => exact ⟨base, by simp [SortedMap.findEntry], rfl⟩
  | cons entry before ih =>
      obtain ⟨word, row⟩ := entry
      obtain ⟨fresh, distinct⟩ := List.nodup_cons.mp distinct
      obtain ⟨head, tail⟩ := List.forall_mem_cons.mp agree
      rcases here : base.get? word with _ | existing
      · have agree : ∀ entry ∈ before, Admits (base.insert word row) entry := by
          intro entry member existing here
          have other : entry.1 ≠ word := fun same =>
            fresh (List.mem_map.mpr ⟨entry, member, same⟩)
          exact tail entry member existing (SortedMap.get?_insert_of_ne base row other ▸ here)
        obtain ⟨merged, rows, run⟩ := ih distinct agree
        refine ⟨merged, fun w => ?_, ?_⟩
        · rw [rows, SortedMap.get?_insert, SortedMap.findEntry]
          by_cases same : w = word
          · simp [same, here]
          · simp [same]
        · simp only [List.cons_append, mergeRows, here, run]
      · obtain ⟨merged, rows, run⟩ := ih distinct tail
        refine ⟨merged, fun w => ?_, ?_⟩
        · rw [rows, SortedMap.findEntry]
          by_cases same : w = word
          · simp [same, here]
          · simp [same]
        · have agrees := conflict?_of_compatible word (head existing here)
          simp only [List.cons_append, mergeRows, here, agrees, run]

/-! ## Whole tables -/

/-- Two tables do not disagree on a word. -/
def Agree (base generated : FormTable) (word : String) : Prop :=
  ∀ existing row, base.get? word = some existing → generated.get? word = some row →
    existing.Compatible row

/-- What merging a generated table into a base comes to. -/
structure Merged (base generated : FormTable) (result : FormTable × Option TableError) : Prop where
  succeeds : result.2 = none ↔ ∀ word, Agree base generated word
  union : result.2 = none → ∀ word, result.1.get? word = (base.get? word).or (generated.get? word)
  fails : ∀ e, result.2 = some e → ∃ word existing row, base.get? word = some existing ∧
    generated.get? word = some row ∧ ¬ existing.Compatible row ∧
    (∀ w < word, Agree base generated w) ∧ Row.Conflict word existing row e ∧
    ∀ w, result.1.get? w = (base.get? w).or (if w < word then generated.get? w else none)
  kept : ∀ word row, base.get? word = some row → result.1.get? word = some row

theorem mergeForms_of_agree {base generated : FormTable}
    (agree : ∀ entry ∈ generated.entries, Admits base entry) :
    ∃ merged, mergeForms base generated = (merged, none) ∧
      ∀ w, merged.get? w = (base.get? w).or (generated.get? w) := by
  obtain ⟨merged, rows, run⟩ := mergeRows_append [] generated.keys_nodup agree
  rw [List.append_nil, mergeRows] at run
  exact ⟨merged, run, rows⟩

/-- Merging stops at the first row that disagrees with the base. -/
theorem mergeForms_of_disagree {base generated : FormTable}
    (disagree : ∃ entry ∈ generated.entries, ¬ Admits base entry) :
    ∃ merged e word existing row, mergeForms base generated = (merged, some e) ∧
      base.get? word = some existing ∧ generated.get? word = some row ∧
      ¬ existing.Compatible row ∧ (∀ w < word, Agree base generated w) ∧
      Row.Conflict word existing row e ∧
      ∀ w, merged.get? w = (base.get? w).or (if w < word then generated.get? w else none) := by
  obtain ⟨before, ⟨word, row⟩, after, split, admitted, differs⟩ := exists_first_not disagree
  obtain ⟨existing, here, differs⟩ : ∃ existing, base.get? word = some existing ∧
      ¬ existing.Compatible row := by
    simpa [Admits] using differs
  have there : generated.get? word = some row := SortedMap.mem_entries_iff.mp (by simp [split])
  have distinct := generated.keys_nodup
  rw [SortedMap.keys, split, List.map_append] at distinct
  obtain ⟨merged, rows, run⟩ :=
    mergeRows_append ((word, row) :: after) (List.nodup_append.mp distinct).1 admitted
  obtain ⟨e, found, conflict⟩ := conflict?_of_incompatible word differs
  refine ⟨merged, e, word, existing, row, ?_, here, there, differs, fun w less => ?_, conflict, ?_⟩
  · have still : merged.get? word = some existing := by rw [rows, here, Option.some_or]
    rw [mergeForms, split, run, mergeRows]
    simp only [still, found]
  · intro other row here there
    exact admitted (w, row) ((SortedMap.mem_before_iff split).mpr ⟨less, there⟩) other here
  · intro w
    rw [rows, SortedMap.findEntry_before split]

/-- Tables merge if they agree on every word, and come to their union then. -/
theorem merge?_eq_ok_iff {base generated table : FormTable} :
    merge? base generated = .ok table ↔ (∀ word, Agree base generated word) ∧
      ∀ word, table.get? word = (base.get? word).or (generated.get? word) := by
  by_cases agree : ∀ entry ∈ generated.entries, Admits base entry
  · obtain ⟨merged, run, rows⟩ := mergeForms_of_agree agree
    rw [merge?, run]
    constructor
    · rintro ⟨⟩
      refine ⟨fun word existing row here there => ?_, rows⟩
      exact agree (word, row) (SortedMap.mem_entries_iff.mpr there) existing here
    · rintro ⟨_, rows'⟩
      exact congrArg Except.ok (SortedMap.ext_get? fun word => by rw [rows, rows'])
  · simp only [Classical.not_forall, exists_prop] at agree
    obtain ⟨merged, e, word, existing, row, run, here, there, differs, _⟩ :=
      mergeForms_of_disagree agree
    rw [merge?, run]
    refine iff_of_false nofun fun ⟨agree, _⟩ => ?_
    exact differs (agree word existing row here there)

theorem mergeForms_merged (base generated : FormTable) :
    Merged base generated (mergeForms base generated) := by
  by_cases agree : ∀ entry ∈ generated.entries, Admits base entry
  · obtain ⟨merged, run, rows⟩ := mergeForms_of_agree agree
    rw [run]
    constructor
    case succeeds =>
      refine iff_of_true rfl fun word existing row here there => ?_
      exact agree (word, row) (SortedMap.mem_entries_iff.mpr there) existing here
    case union => exact fun _ => rows
    case fails =>
      rintro _ ⟨⟩
    case kept =>
      intro word row here
      rw [rows, here, Option.some_or]
  · simp only [Classical.not_forall, exists_prop] at agree
    obtain ⟨merged, e, word, existing, row, run, here, there, differs, first, conflict, rows⟩ :=
      mergeForms_of_disagree agree
    rw [run]
    constructor
    case succeeds =>
      refine iff_of_false (Option.some_ne_none e) fun agree => ?_
      exact differs (agree word existing row here there)
    case union => exact fun none => absurd none (Option.some_ne_none e)
    case fails =>
      rintro _ ⟨⟩
      exact ⟨word, existing, row, here, there, differs, first, conflict, rows⟩
    case kept =>
      intro word row here
      rw [rows, here, Option.some_or]

end Paradigm
