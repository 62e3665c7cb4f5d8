import Mathlib.Data.List.Forall2
import Paradigm.Shape

/-!
# Rules written as data

What is written of a repository is read as this repository, and no other shapes are read: each value
stands for at most one rule or entry. Main statement: `readers_faithful`.
-/

namespace Paradigm

/-! ## Values -/

namespace Value

/-- A map with texts for values. -/
def ofTexts (fields : List (String × String)) : Value :=
  .map (fields.map fun field => (field.1, .text field.2))

theorem text?_eq_ok_iff {v : Value} {s : String} : v.text? = .ok s ↔ v = .text s := by
  cases v <;> simp [text?]

mutual

/-- The value with the keys of each map in their order; of several values of a key the last stays. -/
def sorted : Value → Value
  | .list items => .list (sortedItems items)
  | .map entries => .map (SortedMap.ofList (sortedEntries entries)).entries
  | .null => .null
  | .bool b => .bool b
  | .number s => .number s
  | .text s => .text s

def sortedItems : List Value → List Value
  | [] => []
  | item :: items => item.sorted :: sortedItems items

def sortedEntries : List (String × Value) → List (String × Value)
  | [] => []
  | (key, value) :: entries => (key, value.sorted) :: sortedEntries entries

end

theorem sortedItems_eq (items : List Value) : sortedItems items = items.map sorted := by
  induction items with
  | nil => rfl
  | cons item items ih => rw [sortedItems, ih, List.map_cons]

theorem sortedEntries_eq (entries : List (String × Value)) :
    sortedEntries entries = entries.map fun e => (e.1, e.2.sorted) := by
  induction entries with
  | nil => rfl
  | cons e entries ih => rw [sortedEntries, ih, List.map_cons]

theorem sorted_ofTexts (fields : List (String × String)) :
    (ofTexts fields).sorted = ofTexts (SortedMap.ofList fields).entries := by
  rw [ofTexts, sorted, sortedEntries_eq, List.map_map]
  exact congrArg (fun m => map m.entries) (SortedMap.map_ofList text fields).symm

/-- A category with both of its fields and no others. -/
def completeCategory : Value → Value
  | .map fields => .map [("inherit", ((SortedMap.ofList fields).get? "inherit").getD .null),
      ("rules", ((SortedMap.ofList fields).get? "rules").getD (.map []))]
  | v => v

/-- The value with its categories completed. -/
def complete : Value → Value
  | .map categories => .map (categories.map fun e => (e.1, e.2.completeCategory))
  | v => v

/-- The categories are given by the names of their fields. -/
def CategoriesNamed (v : Value) : Prop :=
  ∀ categories, v = .map categories → ∀ e ∈ categories, ∃ fields, e.2 = .map fields

end Value

/-! ## Lists and maps -/

theorem keysIncrease_of_keys {α : Type} {keys : List String} {entries : List (String × α)}
    (sorted : keys.Pairwise (· < ·)) (same : entries.map (·.1) = keys) : KeysIncrease entries :=
  List.pairwise_map.mp (same ▸ sorted)

section

variable {α : Type} {read : Value → Shaped α} {write : α → Value}

theorem readItems_eq_ok_iff {items : List Value} {as : List α} :
    readItems read items = .ok as ↔ List.Forall₂ (fun item a => read item = .ok a) items as := by
  induction items generalizing as with
  | nil => cases as <;> simp [readItems]
  | cons item items ih =>
      rw [List.forall₂_cons_left_iff, readItems]
      cases first : read item with
      | error e => simp
      | ok a => cases others : readItems read items <;> simp [← ih, others, Except.map, eq_comm]

theorem readValues_eq_ok_iff {entries : List (String × Value)} {pairs : List (String × α)} :
    readValues read entries = .ok pairs ↔
      List.Forall₂ (fun e p => e.1 = p.1 ∧ read e.2 = .ok p.2) entries pairs := by
  induction entries generalizing pairs with
  | nil => cases pairs <;> simp [readValues]
  | cons e entries ih =>
      rw [List.forall₂_cons_left_iff, readValues]
      cases first : read e.2 with
      | error _ => simp
      | ok a => cases others : readValues read entries <;> simp [← ih, others, Except.map, eq_comm]

theorem readMap_eq_ok_iff {v : Value} {m : SortedMap α} : readMap read v = .ok m ↔
    ∃ entries pairs,
      v = .map entries ∧ readValues read entries = .ok pairs ∧ .ofList pairs = m := by
  cases v with
  | map entries => cases values : readValues read entries <;> simp [readMap, values, Except.map]
  | _ => simp [readMap]

/-- A map is read from its entries, where each value is. -/
theorem readMap_entries (h : ∀ a, read (write a) = .ok a) (m : SortedMap α) :
    readMap read (.map (m.entries.map fun e => (e.1, write e.2))) = .ok m := by
  refine readMap_eq_ok_iff.mpr ⟨_, m.entries, rfl, readValues_eq_ok_iff.mpr ?_, m.ofList_entries⟩
  exact List.forall₂_map_left_iff.mpr (List.forall₂_same.mpr fun e _ => ⟨rfl, h e.2⟩)

/-- What a map has been read from is what is written of it, where this holds of each value. -/
theorem sorted_of_readValues {entries : List (String × Value)} {pairs : List (String × α)}
    {prepare : Value → Value} (h : readValues read entries = .ok pairs)
    (each : ∀ e ∈ entries, ∀ a, read e.2 = .ok a → (prepare e.2).sorted = write a) :
    (Value.map (entries.map fun e => (e.1, prepare e.2))).sorted =
      .map ((SortedMap.ofList pairs).entries.map fun e => (e.1, write e.2)) := by
  have written : (entries.map fun e => (e.1, (prepare e.2).sorted)) =
      pairs.map fun p => (p.1, write p.2) := by
    have values := readValues_eq_ok_iff.mp h
    induction values with
    | nil => rfl
    | @cons e p entries pairs head tail ih =>
        obtain ⟨key, value⟩ := head
        obtain ⟨first, others⟩ := List.forall_mem_cons.mp each
        rw [List.map_cons, List.map_cons, key, first _ value,
          ih (readValues_eq_ok_iff.mpr tail) others]
  rw [Value.sorted, Value.sortedEntries_eq, List.map_map]
  show Value.map (SortedMap.ofList (entries.map fun e => (e.1, (prepare e.2).sorted))).entries = _
  rw [written, ← SortedMap.map_ofList]
  rfl

theorem readMap_text?_eq_ok_iff {v : Value} {m : SortedMap String} :
    readMap Value.text? v = .ok m ↔ ∃ fields, v = .ofTexts fields ∧ .ofList fields = m := by
  have texts {entries : List (String × Value)} {fields : List (String × String)} :
      readValues Value.text? entries = .ok fields ↔
        entries = fields.map fun field => (field.1, .text field.2) := by
    rw [readValues_eq_ok_iff, ← List.forall₂_eq_eq_eq, List.forall₂_map_right_iff]
    simp only [Value.text?_eq_ok_iff, Prod.ext_iff]
  simp only [readMap_eq_ok_iff, texts, Value.ofTexts]
  constructor
  · rintro ⟨_, fields, rfl, rfl, same⟩
    exact ⟨fields, rfl, same⟩
  · rintro ⟨fields, rfl, same⟩
    exact ⟨_, fields, rfl, rfl, same⟩

end

/-! ## Rewriting rules -/

namespace RewriteSpec

/-- The fields of a rewriting rule, in their order. -/
def fieldNames : List String := ["from", "match", "value"]

def fields (spec : RewriteSpec) : List (String × String) :=
  [("from", spec.source), ("match", spec.pattern), ("value", spec.replacement)]

theorem fields_increase (spec : RewriteSpec) : KeysIncrease spec.fields :=
  keysIncrease_of_keys (show fieldNames.Pairwise (· < ·) by decide) rfl

/-- The first field that is not given. -/
def missing? (given : SortedMap String) : Option String :=
  fieldNames.find? fun key => !given.contains key

/-- The smallest of the keys that are not fields. -/
def unknown? (given : SortedMap String) : Option String :=
  given.keys.find? fun key => !fieldNames.contains key

variable {given : SortedMap String} {spec : RewriteSpec} {key : String}

theorem ofFields_eq (given : SortedMap String) : ofFields given =
    match missing? given, unknown? given with
    | some key, _ => .error (.missingKey key)
    | none, some key => .error (.unknownKey key)
    | none, none => .ok ⟨(given.get? "from").getD "", (given.get? "match").getD "",
        (given.get? "value").getD ""⟩ := by
  rw [ofFields]
  cases source : given.get? "from" with
  | none => simp [missing?, fieldNames, SortedMap.contains, source]
  | some _ =>
      cases pattern : given.get? "match" with
      | none => simp [missing?, fieldNames, SortedMap.contains, source, pattern]
      | some _ =>
          cases replacement : given.get? "value" with
          | none => simp [missing?, fieldNames, SortedMap.contains, source, pattern, replacement]
          | some _ =>
              have all : missing? given = none := by
                simp [missing?, fieldNames, SortedMap.contains, source, pattern, replacement]
              have least : (given.keys.find? fun key => !(["from", "match", "value"].contains key)) =
                  unknown? given := rfl
              simp only [all, least]
              cases unknown? given with
              | none => rfl
              | some key => rfl

theorem contains_of_missing? (none_missing : missing? given = none) (field : key ∈ fieldNames) :
    given.contains key := by
  simpa using List.find?_eq_none.mp none_missing key field

theorem mem_fieldNames_of_unknown? (none_unknown : unknown? given = none)
    (here : given.contains key) : key ∈ fieldNames := by
  simpa using List.find?_eq_none.mp none_unknown key (SortedMap.mem_keys_iff.mpr here)

/-- Exactly the fields are given. -/
theorem entries_eq_of_none (none_missing : missing? given = none)
    (none_unknown : unknown? given = none) : given.entries = fields ⟨(given.get? "from").getD "",
      (given.get? "match").getD "", (given.get? "value").getD ""⟩ := by
  refine SortedMap.entries_eq_of_mem_iff given.increasing (fields_increase _)
    fun ⟨key, text⟩ => ?_
  rw [SortedMap.mem_entries_iff]
  by_cases field : key ∈ fieldNames
  · obtain ⟨given_text, found⟩ :=
      Option.isSome_iff_exists.mp (contains_of_missing? none_missing field)
    simp only [fieldNames, List.mem_cons, List.not_mem_nil, or_false] at field
    rcases field with rfl | rfl | rfl <;> simp [fields, found, eq_comm]
  · refine iff_of_false (fun found => field ?_) fun here => field ?_
    · exact mem_fieldNames_of_unknown? none_unknown (Option.isSome_of_eq_some found)
    · exact List.mem_map_of_mem (f := Prod.fst) here

theorem ofFields_eq_ok_iff : ofFields given = .ok spec ↔ given.entries = spec.fields := by
  constructor
  · intro accepted
    rw [ofFields_eq] at accepted
    split at accepted
    · cases accepted
    · cases accepted
    · rename_i none_missing none_unknown
      exact (Except.ok.inj accepted) ▸ entries_eq_of_none none_missing none_unknown
  · intro same
    obtain ⟨entries, increasing⟩ := given
    subst same
    simp [ofFields, SortedMap.get?, SortedMap.keys, SortedMap.findEntry, fields]

theorem unknown?_eq_some_iff : unknown? given = some key ↔
    given.contains key ∧ key ∉ fieldNames ∧
      ∀ other < key, given.contains other → other ∈ fieldNames := by
  constructor
  · intro found
    obtain ⟨here, passes, least⟩ := SortedMap.of_find?_keys found
    have smaller (other) (less : other < key) (given : given.contains other) :
        other ∈ fieldNames := by
      simpa using least other less given
    exact ⟨here, by simpa using passes, smaller⟩
  · rintro ⟨here, unknown, least⟩
    cases found : unknown? given with
    | none => exact absurd (mem_fieldNames_of_unknown? found here) unknown
    | some first =>
        obtain ⟨there, passes, before⟩ := SortedMap.of_find?_keys found
        have notLess : ¬ key < first := fun less => unknown (by simpa using before key less here)
        have notGreater : ¬ first < key := fun less => by simp [least first less there] at passes
        rw [Std.Trichotomous.trichotomous _ _ notLess notGreater]

theorem ofList_fields (spec : RewriteSpec) : (SortedMap.ofList spec.fields).entries = spec.fields :=
  congrArg SortedMap.entries (SortedMap.ofList_entries ⟨_, spec.fields_increase⟩)

theorem toValue_eq (spec : RewriteSpec) : spec.toValue = .ofTexts spec.fields := rfl

theorem ofValue_ofTexts (given : List (String × String)) :
    ofValue (.ofTexts given) = ofFields (.ofList given) := by
  rw [ofValue, readMap_text?_eq_ok_iff.mpr ⟨given, rfl, rfl⟩]

theorem ofValue_eq_ok_iff {v : Value} : ofValue v = .ok spec ↔
    ∃ given, v = .ofTexts given ∧ (SortedMap.ofList given).entries = spec.fields := by
  constructor
  · intro accepted
    rw [ofValue] at accepted
    cases texts : readMap Value.text? v with
    | error e => simp [texts] at accepted
    | ok given =>
        obtain ⟨given, rfl, rfl⟩ := readMap_text?_eq_ok_iff.mp texts
        exact ⟨given, rfl, ofFields_eq_ok_iff.mp (ofValue_ofTexts given ▸ accepted)⟩
  · rintro ⟨given, rfl, same⟩
    rw [ofValue_ofTexts, ofFields_eq_ok_iff.mpr same]

end RewriteSpec

/-! ## Rules and entries -/

/-- The values that stand for a rule: a text, or the fields of a rewriting rule. -/
inductive RuleSpec.Written : RuleSpec → Value → Prop where
  | template (text : String) : Written (.template text) (.text text)
  | rewrite {spec : RewriteSpec} {given : List (String × String)}
      (fields : (SortedMap.ofList given).entries = spec.fields) :
      Written (.rewrite spec) (.ofTexts given)

/-- The values that stand for an entry: a rule, or a list of rules. -/
inductive Entry.Written : Entry → Value → Prop where
  | one {rule : RuleSpec} {v : Value} (rule_written : rule.Written v) : Written (.one rule) v
  | many {rules : List RuleSpec} {items : List Value}
      (rules_written : List.Forall₂ RuleSpec.Written rules items) :
      Written (.many rules) (.list items)

namespace RuleSpec

theorem ofValue_eq_ok_iff {v : Value} {rule : RuleSpec} :
    ofValue v = .ok rule ↔ rule.Written v := by
  constructor
  · intro accepted
    cases v with
    | text s => 
        cases accepted
        exact .template s
    | _ => 
        simp only [ofValue] at accepted
        split at accepted
        · rename_i spec read
          cases accepted
          obtain ⟨given, same, fields⟩ := RewriteSpec.ofValue_eq_ok_iff.mp read
          rw [same]
          exact .rewrite fields
        · cases accepted
  · intro written
    cases written with
    | template text => rfl
    | @rewrite spec given fields =>
        have read := RewriteSpec.ofValue_eq_ok_iff.mpr ⟨given, rfl, fields⟩
        rw [Value.ofTexts] at read ⊢
        rw [ofValue, read]
        simp

theorem written_toValue (rule : RuleSpec) : rule.Written rule.toValue := by
  cases rule with
  | template text => exact .template text
  | rewrite spec => exact .rewrite spec.ofList_fields

theorem Written.sorted {v : Value} {rule : RuleSpec} (h : rule.Written v) :
    v.sorted = rule.toValue := by
  cases h with
  | template text => rfl
  | rewrite fields => rw [Value.sorted_ofTexts, fields, toValue, RewriteSpec.toValue_eq]

end RuleSpec

namespace Entry

/-- No rule is written as a list, so no list of rules is mistaken for a rule. -/
theorem ofValue_eq_ok_iff {v : Value} {entry : Entry} :
    ofValue v = .ok entry ↔ entry.Written v := by
  cases v with
  | list items =>
      rw [ofValue]
      constructor
      · intro accepted
        split at accepted
        · rename_i rules read
          cases accepted
          have each := readItems_eq_ok_iff.mp read
          simp only [RuleSpec.ofValue_eq_ok_iff] at each
          exact .many each.flip
        · cases accepted
      · intro written
        cases written with
        | one rule_written => cases rule_written
        | @many rules _ rules_written =>
            have each := rules_written.flip
            simp only [← RuleSpec.ofValue_eq_ok_iff] at each
            rw [readItems_eq_ok_iff.mpr each]
  | _ =>
      simp only [ofValue]
      constructor
      · intro accepted
        split at accepted
        · rename_i rule read
          cases accepted
          exact .one (RuleSpec.ofValue_eq_ok_iff.mp read)
        · cases accepted
      · intro written
        cases written with
        | one rule_written => rw [RuleSpec.ofValue_eq_ok_iff.mpr rule_written]

theorem written_toValue (entry : Entry) : entry.Written entry.toValue := by
  cases entry with
  | one rule => exact .one rule.written_toValue
  | many rules =>
      exact .many (List.forall₂_map_right_iff.mpr
        (List.forall₂_same.mpr fun rule _ => rule.written_toValue))

theorem Written.sorted {v : Value} {entry : Entry} (h : entry.Written v) :
    v.sorted = entry.toValue := by
  cases h with
  | one rule_written => exact rule_written.sorted
  | @many rules items rules_written =>
      rw [Value.sorted, Value.sortedItems_eq, toValue]
      congr 1
      induction rules_written with
      | nil => rfl
      | cons head _ ih => rw [List.map_cons, List.map_cons, head.sorted, ih]

end Entry

/-! ## Categories -/

/-- What a field is after it has been read: the value that is given counts, if there is one. -/
def ReadAs {α : Type} (read : Value → Shaped α) (before : α) (given : Option Value) (after : α) :
    Prop :=
  given.elim (after = before) fun v => read v = .ok after

theorem ReadAs.earlier {α : Type} {read : Value → Shaped α} {before between after : α}
    {given : Option Value} {v : Value} (later : ReadAs read between given after)
    (here : read v = .ok between) : ReadAs read before (given.or (some v)) after := by
  cases given with
  | none => exact here.trans (congrArg _ later.symm)
  | some _ => exact later

namespace CategorySpec

/-- Of several values of a field the last counts, whatever stands between them. -/
theorem of_ofFields {fields : List (String × Value)} {c c' : CategorySpec}
    (h : ofFields fields c = .ok c') :
    ReadAs readParent c.parent ((SortedMap.ofList fields).get? "inherit") c'.parent ∧
      ReadAs (readMap Entry.ofValue) c.rules ((SortedMap.ofList fields).get? "rules") c'.rules := by
  induction fields generalizing c with
  | nil =>
      cases h
      exact ⟨rfl, rfl⟩
  | cons field fields ih =>
      obtain ⟨key, value⟩ := field
      rw [SortedMap.get?_ofList_cons, SortedMap.get?_ofList_cons]
      rw [ofFields] at h
      split at h
      · rename_i inherit
        cases read : readParent value with
        | error e => simp [read] at h
        | ok parent =>
            simp only [read] at h
            obtain ⟨parents, rules⟩ := ih h
            exact ⟨by simpa [inherit] using parents.earlier read, by simpa [inherit] using rules⟩
      · rename_i not_inherit
        split at h
        · rename_i is_rules
          cases read : readMap Entry.ofValue value with
          | error e => simp [read] at h
          | ok map =>
              simp only [read] at h
              obtain ⟨parents, rules⟩ := ih h
              exact ⟨by simpa [is_rules] using parents,
                by simpa [is_rules] using rules.earlier read⟩
        · rename_i not_rules
          obtain ⟨parents, rules⟩ := ih h
          exact ⟨by simpa [Ne.symm not_inherit] using parents,
            by simpa [Ne.symm not_rules] using rules⟩

theorem readParent_toValue (parent : Option String) :
    readParent ((parent.map Value.text).getD .null) = .ok parent := by
  cases parent <;> rfl

theorem sorted_of_readParent {v : Value} {parent : Option String}
    (h : readParent v = .ok parent) : v.sorted = (parent.map Value.text).getD .null := by
  cases v with
  | null => cases h; rfl
  | text s => cases h; rfl
  | _ => cases h

theorem sorted_of_readRules {v : Value} {rules : SortedMap Entry}
    (h : readMap Entry.ofValue v = .ok rules) :
    v.sorted = .map (rules.entries.map fun e => (e.1, e.2.toValue)) := by
  obtain ⟨entries, pairs, rfl, read, rfl⟩ := readMap_eq_ok_iff.mp h
  have sorted : (Value.map (entries.map fun e => (e.1, id e.2))).sorted =
      .map ((SortedMap.ofList pairs).entries.map fun e => (e.1, e.2.toValue)) :=
    sorted_of_readValues read fun e _ entry accepted =>
      (Entry.ofValue_eq_ok_iff.mp accepted).sorted
  simpa using sorted

theorem ofValue_toValue (c : CategorySpec) : ofValue c.toValue = .ok c := by
  have rules : readMap Entry.ofValue (.map (c.rules.entries.map fun e => (e.1, e.2.toValue))) =
      .ok c.rules :=
    readMap_entries (fun entry => Entry.ofValue_eq_ok_iff.mpr entry.written_toValue) c.rules
  simp [ofValue, toValue, ofFields, readParent_toValue, rules]

theorem sorted_completeCategory {fields : List (String × Value)} {c : CategorySpec}
    (h : ofValue (.map fields) = .ok c) :
    (Value.map fields).completeCategory.sorted = c.toValue := by
  obtain ⟨parents, rules⟩ := of_ofFields h
  have parent_sorted : (((SortedMap.ofList fields).get? "inherit").getD .null).sorted =
      (c.parent.map Value.text).getD .null := by
    cases given : (SortedMap.ofList fields).get? "inherit" with
    | none =>
        have none : c.parent = none := by simpa [given, ReadAs] using parents
        simp [none, Value.sorted]
    | some v => exact sorted_of_readParent (by simpa [given, ReadAs] using parents)
  have rules_sorted : (((SortedMap.ofList fields).get? "rules").getD (.map [])).sorted =
      .map (c.rules.entries.map fun e => (e.1, e.2.toValue)) := by
    cases given : (SortedMap.ofList fields).get? "rules" with
    | none =>
        have none : c.rules = .empty := by simpa [given, ReadAs] using rules
        rw [none]
        rfl
    | some v => exact sorted_of_readRules (by simpa [given, ReadAs] using rules)
  have two (a b : Value) : (Value.map [("inherit", a), ("rules", b)]).sorted =
      .map [("inherit", a.sorted), ("rules", b.sorted)] := by
    have increasing : KeysIncrease [("inherit", a.sorted), ("rules", b.sorted)] :=
      keysIncrease_of_keys (show ["inherit", "rules"].Pairwise (· < ·) by decide) rfl
    exact congrArg (fun m => Value.map m.entries) (SortedMap.ofList_entries ⟨_, increasing⟩)
  rw [Value.completeCategory, two, parent_sorted, rules_sorted, toValue]

end CategorySpec

/-! ## Repositories -/

namespace Repository

theorem ofValue_toValue (r : Repository) : ofValue r.toValue = .ok r :=
  readMap_entries CategorySpec.ofValue_toValue r

theorem toValue_of_ofValue {v : Value} {r : Repository} (named : v.CategoriesNamed)
    (h : ofValue v = .ok r) : r.toValue = v.complete.sorted := by
  obtain ⟨categories, pairs, rfl, read, rfl⟩ := readMap_eq_ok_iff.mp h
  refine (sorted_of_readValues read fun e here c accepted => ?_).symm
  obtain ⟨fields, same⟩ := named categories rfl e here
  rw [same] at accepted ⊢
  exact CategorySpec.sorted_completeCategory accepted

end Repository

/-! ## Faithful reading -/

/-- What reading rules from lists and maps has to do. What is written of a repository is read as this
repository. A value is read as a rule or as an entry if it stands for one, and as no other; no value
stands for two. A value that is read as a repository is what is written of it, but for the order of
keys, for unknown fields of categories and for fields that are not there. A map of texts that is no
rewriting rule is refused for its first missing field, or else for its smallest unknown key. -/
structure Faithful (repository : Value → Shaped Repository) (entry : Value → Shaped Entry)
    (rule : Value → Shaped RuleSpec) (rewrite : Value → Shaped RewriteSpec) : Prop where
  again : ∀ r, repository r.toValue = .ok r
  back : ∀ v r, v.CategoriesNamed → repository v = .ok r → r.toValue = v.complete.sorted
  entry_iff : ∀ v read, entry v = .ok read ↔ read.Written v
  rule_iff : ∀ v read, rule v = .ok read ↔ read.Written v
  rewrite_iff : ∀ given spec, rewrite (.ofTexts given) = .ok spec ↔
    (SortedMap.ofList given).entries = spec.fields
  missing_iff : ∀ given key, rewrite (.ofTexts given) = .error (.missingKey key) ↔
    RewriteSpec.missing? (.ofList given) = some key
  unknown_iff : ∀ given key, rewrite (.ofTexts given) = .error (.unknownKey key) ↔
    RewriteSpec.missing? (.ofList given) = none ∧ (SortedMap.ofList given).contains key ∧
      key ∉ RewriteSpec.fieldNames ∧
      ∀ other < key, (SortedMap.ofList given).contains other → other ∈ RewriteSpec.fieldNames

theorem readers_faithful :
    Faithful Repository.ofValue Entry.ofValue RuleSpec.ofValue RewriteSpec.ofValue where
  again := Repository.ofValue_toValue
  back _ _ := Repository.toValue_of_ofValue
  entry_iff _ _ := Entry.ofValue_eq_ok_iff
  rule_iff _ _ := RuleSpec.ofValue_eq_ok_iff
  rewrite_iff given spec := by rw [RewriteSpec.ofValue_ofTexts, RewriteSpec.ofFields_eq_ok_iff]
  missing_iff given key := by
    rw [RewriteSpec.ofValue_ofTexts, RewriteSpec.ofFields_eq]
    cases RewriteSpec.missing? (.ofList given) with
    | some first => simp
    | none => cases RewriteSpec.unknown? (.ofList given) <;> simp
  unknown_iff given key := by
    rw [RewriteSpec.ofValue_ofTexts, RewriteSpec.ofFields_eq, ← RewriteSpec.unknown?_eq_some_iff]
    cases RewriteSpec.missing? (.ofList given) with
    | some first => simp
    | none => cases RewriteSpec.unknown? (.ofList given) <;> simp

end Paradigm
