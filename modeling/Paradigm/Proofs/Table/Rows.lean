import Paradigm.Proofs.Generation.Reachable
import Paradigm.Proofs.Table.NormalForm

/-!
# Rows part by part

One inflector is asked for all parts of a row, one after the other. Main statement: whatever it was
asked before, the row has of each part what a fresh inflector has, and if there is no row, the first
part that has no forms is to blame.
-/

namespace Paradigm

/-! ## Inquiries -/

/-- What an inflector may be asked for: the forms of a part, or a row. -/
inductive Inquiry where
  | part (name : String)
  | row

namespace Inflector

/-- The inflector after an inquiry, whether there was an answer or not. -/
def inquire (f : Inflector) : Inquiry → Inflector
  | .part name => (f.generate name).2
  | .row => (f.perform Row.generate).2

def afterAll (f : Inflector) (inquiries : List Inquiry) : Inflector := inquiries.foldl inquire f

end Inflector

namespace Row

/-! ## Texts of a row -/

/-- How joined forms stand in a row: those of the participle have `(ge)` in front, and those of the
gloss `to `, unless they begin so. -/
def shown (part joined : String) : String :=
  if part = "past-part" then
    if "(ge)".toList <+: joined.toList then joined else "(ge)" ++ joined
  else if part = "mod-e" then
    if "to ".toList <+: joined.toList then joined else "to " ++ joined
  else joined

theorem display_eq_shown (part joined : String) : display part joined = shown part joined := by
  simp only [display, glossForm, withPrefix_eq]
  rfl

theorem get?_add (row : Row) (part : String) (forms : List String) (other : String) :
    (row.add part forms).get? other =
      if other = part ∧ "/".intercalate forms ≠ "" then some (shown part ("/".intercalate forms))
      else row.get? other := by
  rw [add]
  by_cases blank : "/".intercalate forms = ""
  · simp [blank]
  · simp [blank, SortedMap.get?_insert, display_eq_shown]

/-- The row with the forms of parts added one after the other. -/
def addAll (row : Row) (answers : List (String × List String)) : Row :=
  answers.foldl (fun row answer => row.add answer.1 answer.2) row

theorem get?_addAll {parts : List String} (nodup : parts.Nodup) (forms : String → List String)
    (row : Row) (part : String) :
    (row.addAll (parts.map fun part => (part, forms part))).get? part =
      if part ∈ parts ∧ "/".intercalate (forms part) ≠ "" then
        some (shown part ("/".intercalate (forms part)))
      else row.get? part := by
  induction parts generalizing row with
  | nil => simp [addAll]
  | cons first parts ih =>
      obtain ⟨fresh, nodup⟩ := List.nodup_cons.mp nodup
      have rest := ih nodup (row.add first (forms first))
      rw [List.map_cons, addAll, List.foldl_cons]
      rw [addAll] at rest
      rw [rest, get?_add]
      by_cases here : part = first
      · subst here
        simp [fresh]
      · simp [here]

/-! ## Asking for all parts -/

variable {i : Inventory} {seeds : List (String × String)} {s : Session}

/-- What a fresh inflector answers for a part, asked for nothing else. -/
def alone (i : Inventory) (seeds : List (String × String)) (part : String) :
    Except Halt (List String) :=
  ((Inflector.fresh i seeds).generate part).1

/-- The answer of a fresh inflector under the name of the part. -/
def named (i : Inventory) (seeds : List (String × String)) (part : String) :
    Except Halt (String × List String) :=
  (alone i seeds part).map fun forms => (part, forms)

theorem alone_of_reachable (reachable : i.Reachable seeds .empty s) (part : String) :
    alone i seeds part = ((i.generate .empty part).outcome s).1 := by
  have fresh : alone i seeds part = i.evaluate seeds .empty part :=
    Inventory.Reachable.fresh.generate_eq part
  rw [fresh, reachable.generate_eq]

theorem generateParts_of_reachable (reachable : i.Reachable seeds .empty s) (parts : List String)
    (row : Row) :
    ((generateParts i parts row).outcome s).1 = (parts.mapM (named i seeds)).map row.addAll ∧
      i.Reachable seeds .empty ((generateParts i parts row).outcome s).2 := by
  induction parts generalizing row s with
  | nil => exact ⟨rfl, reachable⟩
  | cons part parts ih =>
      have same := alone_of_reachable reachable part
      have asked := reachable.asked part
      rw [generateParts, Halting.outcome_bind, List.mapM_cons, named, same, Inventory.ask]
      generalize (i.generate .empty part).outcome s = r at asked
      rcases r with ⟨halt | forms, s'⟩
      · exact ⟨rfl, asked⟩
      · obtain ⟨rest, reached⟩ := ih asked (row.add part forms)
        refine ⟨?_, reached⟩
        simp only [rest]
        cases parts.mapM (named i seeds) <;> rfl

theorem generate_of_reachable (reachable : i.Reachable seeds .empty s) :
    ((generate i).outcome s).1 = (rowParts.mapM (named i seeds)).map (addAll .empty) ∧
      i.Reachable seeds .empty ((generate i).outcome s).2 :=
  generateParts_of_reachable reachable rowParts .empty

/-! ## What a row comes to -/

/-- How a row depends on the answers for its parts. There is a row exactly if all parts have forms.
It has the parts whose joined forms are not empty, and of each the text that is shown for them. If
there is none, the outcome is that of the first part without forms. -/
structure Assembled (answers : String → Except Halt (List String)) (outcome : Except Halt Row) :
    Prop where
  ok_iff : (∃ row, outcome = .ok row) ↔ ∀ part ∈ rowParts, ∃ forms, answers part = .ok forms
  texts : ∀ row, outcome = .ok row → ∀ part text, row.get? part = some text ↔
    part ∈ rowParts ∧ ∃ forms, answers part = .ok forms ∧ "/".intercalate forms ≠ "" ∧
      text = shown part ("/".intercalate forms)
  error_iff : ∀ halt, outcome = .error halt ↔ ∃ before part after,
    rowParts = before ++ part :: after ∧
      (∀ earlier ∈ before, ∃ forms, answers earlier = .ok forms) ∧ answers part = .error halt

theorem exists_named_iff {part : String} :
    (∃ answer, named i seeds part = .ok answer) ↔ ∃ forms, alone i seeds part = .ok forms := by
  rw [named]
  cases alone i seeds part <;> simp [Except.map]

theorem named_eq_error_iff {part : String} {halt : Halt} :
    named i seeds part = .error halt ↔ alone i seeds part = .error halt := by
  rw [named]
  cases alone i seeds part <;> simp [Except.map]

/-- If all parts have forms, the row is put together from them. -/
theorem exists_forms (all : ∀ part ∈ rowParts, ∃ forms, alone i seeds part = .ok forms) :
    ∃ forms : String → List String,
      (∀ part ∈ rowParts, alone i seeds part = .ok (forms part)) ∧
        rowParts.mapM (named i seeds) = .ok (rowParts.map fun part => (part, forms part)) := by
  let forms (part : String) : List String := (alone i seeds part).toOption.getD []
  have each : ∀ part ∈ rowParts, alone i seeds part = .ok (forms part) := by
    intro part member
    obtain ⟨found, answered⟩ := all part member
    simp [forms, answered, Except.toOption]
  refine ⟨forms, each, ?_⟩
  apply mapM_ok
  intro part member
  rw [named, each part member]
  rfl

theorem assembled_mapM (i : Inventory) (seeds : List (String × String)) :
    Assembled (alone i seeds) ((rowParts.mapM (named i seeds)).map (addAll .empty)) := by
  have ok_iff : (∃ row, (rowParts.mapM (named i seeds)).map (addAll .empty) = .ok row) ↔
      ∀ part ∈ rowParts, ∃ forms, alone i seeds part = .ok forms := by
    constructor
    · rintro ⟨row, ok⟩ part member
      obtain ⟨answers, evaluated, _⟩ := of_map_ok ok
      obtain ⟨answer, _, found⟩ := (forall_of_mapM_ok evaluated).1 part member
      exact exists_named_iff.mp ⟨answer, found⟩
    · intro all
      obtain ⟨forms, _, evaluated⟩ := exists_forms all
      exact ⟨_, congrArg (Except.map (addAll .empty)) evaluated⟩
  constructor
  case ok_iff => exact ok_iff
  case texts =>
    intro row ok part text
    obtain ⟨forms, each, evaluated⟩ := exists_forms (ok_iff.mp ⟨row, ok⟩)
    rw [evaluated] at ok
    cases ok
    have nodup : rowParts.Nodup := by decide
    rw [get?_addAll nodup, SortedMap.get?_empty]
    constructor
    · intro here
      split at here
      · rename_i filled
        cases here
        exact ⟨filled.1, forms part, each part filled.1, filled.2, rfl⟩
      · cases here
    · rintro ⟨member, found, answered, filled, rfl⟩
      cases answered.symm.trans (each part member)
      exact if_pos ⟨member, filled⟩
  case error_iff =>
    intro halt
    have failed : (rowParts.mapM (named i seeds)).map (addAll .empty) = .error halt ↔
        rowParts.mapM (named i seeds) = .error halt := by
      cases rowParts.mapM (named i seeds) <;> simp [Except.map]
    rw [failed, mapM_eq_error_iff]
    simp only [exists_named_iff, named_eq_error_iff]

/-! ## After any inquiries -/

theorem reachable_inquire (reachable : i.Reachable seeds .empty s) (inquiry : Inquiry) :
    ∃ s', Inflector.inquire ⟨i, s⟩ inquiry = ⟨i, s'⟩ ∧ i.Reachable seeds .empty s' := by
  cases inquiry with
  | part name => exact ⟨_, rfl, reachable.asked name⟩
  | row => exact ⟨_, rfl, (generate_of_reachable reachable).2⟩

theorem reachable_afterAll (reachable : i.Reachable seeds .empty s) (inquiries : List Inquiry) :
    ∃ s', Inflector.afterAll ⟨i, s⟩ inquiries = ⟨i, s'⟩ ∧ i.Reachable seeds .empty s' := by
  induction inquiries generalizing s with
  | nil => exact ⟨s, rfl, reachable⟩
  | cons inquiry inquiries ih =>
      obtain ⟨s', next, reached⟩ := reachable_inquire reachable inquiry
      rw [Inflector.afterAll, List.foldl_cons, next]
      exact ih reached

theorem assembled_of_reachable (reachable : i.Reachable seeds .empty s) :
    Assembled (alone i seeds) (Inflector.perform ⟨i, s⟩ generate).1 := by
  have assembled := assembled_mapM i seeds
  rw [← (generate_of_reachable reachable).1] at assembled
  exact assembled

/-- After any inquiries for parts and rows, an inflector has the row that is put together from the
answers of fresh inflectors, or the error of the first of them that fails; and asked once more, it
comes to the same. -/
theorem generate_after_assembled (i : Inventory) (seeds : List (String × String))
    (inquiries : List Inquiry) :
    let asked := ((Inflector.fresh i seeds).afterAll inquiries).perform generate
    Assembled (alone i seeds) asked.1 ∧ (asked.2.perform generate).1 = asked.1 := by
  have start : i.Reachable seeds .empty (.seeded seeds) := .fresh
  obtain ⟨s, after, reachable⟩ := reachable_afterAll start inquiries
  have first := generate_of_reachable reachable
  have second := generate_of_reachable first.2
  rw [Inflector.fresh, after]
  refine ⟨assembled_of_reachable reachable, ?_⟩
  exact second.1.trans first.1.symm

end Row

end Paradigm
