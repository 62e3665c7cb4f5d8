import Paradigm.Placeholder

/-!
# Texts made of placeholders

Where every opening brace begins a complete placeholder, a text is a row of placeholders and other
characters. Filling in then works placeholder by placeholder: it hits those of its name, all of
them, and what is put in neither makes a new placeholder with its surroundings nor breaks one.
-/

namespace Paradigm.Placeholder

/-- Every opening brace begins a complete placeholder. -/
def WellBraced (text : List Char) : Prop :=
  ∀ before after, text = before ++ '\x7b' :: after → (closedName? after).isSome

/-- The text has no opening brace. -/
def BraceFree (text : List Char) : Prop := '\x7b' ∉ text

instance (text : List Char) : Decidable (BraceFree text) := inferInstanceAs (Decidable (_ ∉ _))

theorem wellBraced_cons {c : Char} {text : List Char} :
    WellBraced (c :: text) ↔ (c = '\x7b' → (closedName? text).isSome) ∧ WellBraced text := by
  constructor
  · refine fun h => ⟨?_, fun before after e => h (c :: before) after (by rw [e, List.cons_append])⟩
    rintro rfl
    exact h [] text rfl
  · rintro ⟨head, tail⟩ (_ | ⟨d, before⟩) after e
    · obtain ⟨opens, rfl⟩ := List.cons.inj e
      exact head opens
    · exact tail before after (List.cons.inj e).2

instance decidableWellBraced : (text : List Char) → Decidable (WellBraced text)
  | [] => .isTrue fun before after e => by simp at e
  | _ :: text =>
      have := decidableWellBraced text
      decidable_of_iff' _ wellBraced_cons

/-! ## Names -/

/-- The characters of a name. -/
def IsName (name : List Char) : Prop := ∀ c ∈ name, c ≠ '\x7d' ∧ isNameChar c = true

theorem not_isNameChar_brace : isNameChar '\x7b' = false := by decide +kernel

theorem IsName.braceFree {name : List Char} (h : IsName name) : BraceFree name := by
  intro member
  have char := (h _ member).2
  rw [not_isNameChar_brace] at char
  cases char

theorem closedName?_of_isName {name : List Char} (h : IsName name) (rest : List Char) :
    closedName? (name ++ '\x7d' :: rest) = some name := by
  induction name with
  | nil => simp [closedName?]
  | cons c name ih =>
      obtain ⟨⟨open_, char⟩, tail⟩ := List.forall_mem_cons.mp h
      simp [closedName?, open_, char, ih tail]

theorem of_closedName? : ∀ {text name : List Char}, closedName? text = some name →
    IsName name ∧ ∃ rest, text = name ++ '\x7d' :: rest
  | [], _, h => by cases h
  | c :: text, name, h => by
      simp only [closedName?] at h
      split at h
      · rename_i closed
        cases h
        exact ⟨nofun, text, by rw [closed, List.nil_append]⟩
      · rename_i open_
        split at h
        · rename_i char
          obtain ⟨name', h', rfl⟩ := Option.map_eq_some_iff.mp h
          obtain ⟨isName, rest, rfl⟩ := of_closedName? h'
          exact ⟨List.forall_mem_cons.mpr ⟨⟨open_, char⟩, isName⟩, rest, rfl⟩
        · cases h

/-- The placeholder of a name. -/
def tokenOf (name : String) : String := String.ofList (token name.toList)

@[simp] theorem toList_tokenOf (name : String) : (tokenOf name).toList = token name.toList :=
  String.toList_ofList

/-! ## Texts as rows of placeholders -/

/-- A row of placeholders and characters other than an opening brace. -/
inductive Segmented : List Char → Prop where
  | nil : Segmented []
  | char {c : Char} {text : List Char} (plain : c ≠ '\x7b') (rest : Segmented text) :
    Segmented (c :: text)
  | placeholder {name text : List Char} (isName : IsName name) (rest : Segmented text) :
    Segmented (token name ++ text)

theorem token_append (name text : List Char) :
    token name ++ text = '\x7b' :: (name ++ '\x7d' :: text) := by
  simp [token]

theorem WellBraced.of_append {start text : List Char} (h : WellBraced (start ++ text)) :
    WellBraced text := fun before after e =>
  h (start ++ before) after (by rw [e, List.append_assoc])

theorem WellBraced.segmented : ∀ {text : List Char}, WellBraced text → Segmented text
  | [], _ => .nil
  | c :: rest, h => by
      by_cases plain : c = '\x7b'
      · subst plain
        obtain ⟨name, closed⟩ := Option.isSome_iff_exists.mp (h [] rest rfl)
        obtain ⟨isName, after, rfl⟩ := of_closedName? closed
        rw [← token_append] at h ⊢
        exact .placeholder isName h.of_append.segmented
      · exact .char plain (wellBraced_cons.mp h).2.segmented
termination_by text => text.length

theorem Segmented.wellBraced {text : List Char} (h : Segmented text) : WellBraced text := by
  induction h with
  | nil =>
      intro before after e
      simp at e
  | @char c text plain _ ih =>
      rintro (_ | ⟨d, before⟩) after e
      · exact absurd (List.cons.inj e).1 plain
      · exact ih before after (List.cons.inj e).2
  | @placeholder name text isName _ ih =>
      rintro (_ | ⟨d, before⟩) after e
      · rw [token_append] at e
        obtain rfl := (List.cons.inj e).2
        rw [closedName?_of_isName isName]
        rfl
      · -- No brace opens inside the placeholder, so this one stands behind it.
        rw [token_append] at e
        rcases List.append_eq_append_iff.mp (List.cons.inj e).2 with
          ⟨l, rfl, inner⟩ | ⟨l, name_eq, inner⟩
        · cases l with
          | nil => cases (List.cons.inj inner).1
          | cons x l => exact ih l after (List.cons.inj inner).2
        · cases l with
          | nil => cases (List.cons.inj inner).1
          | cons x l =>
              cases (List.cons.inj inner).1
              exact absurd (by simp [name_eq]) isName.braceFree

theorem Segmented.append {a b : List Char} (ha : Segmented a) (hb : Segmented b) :
    Segmented (a ++ b) := by
  induction ha with
  | nil => exact hb
  | char plain _ ih => exact .char plain ih
  | placeholder isName _ ih =>
      rw [List.append_assoc]
      exact .placeholder isName ih

theorem braceFree_cons {c : Char} {text : List Char} :
    BraceFree (c :: text) ↔ c ≠ '\x7b' ∧ BraceFree text := by
  simp [BraceFree, eq_comm]

theorem BraceFree.segmented {text : List Char} (h : BraceFree text) : Segmented text := by
  induction text with
  | nil => exact .nil
  | cons c text ih =>
      obtain ⟨plain, rest⟩ := braceFree_cons.mp h
      exact .char plain (ih rest)

/-! ## The leftmost placeholder -/

theorem first?_char {c : Char} (plain : c ≠ '\x7b') (text : List Char) :
    first? (c :: text) = first? text := by
  simp [first?, plain]

theorem first?_placeholder {name : List Char} (isName : IsName name) (text : List Char) :
    first? (token name ++ text) = some name := by
  rw [token_append, first?, closedName?_of_isName isName]
  rfl

theorem first?_token {name : List Char} (isName : IsName name) :
    first? (token name) = some name := by
  rw [← List.append_nil (token name), first?_placeholder isName]

theorem isName_of_first? {text name : List Char} (h : first? text = some name) : IsName name := by
  induction text with
  | nil => cases h
  | cons c text ih =>
      rw [first?] at h
      split at h
      · split at h
        · rename_i closed
          cases h
          exact (of_closedName? closed).1
        · exact ih h
      · exact ih h

theorem occurs_of_suffix {text : List Char} (h : occurs text = true) (before : List Char) :
    occurs (before ++ text) = true := by
  induction before with
  | nil => exact h
  | cons c before ih =>
      rw [occurs, List.cons_append, first?]
      split
      · split
        · rfl
        · exact ih
      · exact ih

theorem occurs_of_prefix {text : List Char} (h : occurs text = true) (after : List Char) :
    occurs (text ++ after) = true := by
  obtain ⟨name, first⟩ := Option.isSome_iff_exists.mp h
  induction text with
  | nil => cases first
  | cons c text ih =>
      rw [first?] at first
      rw [occurs, List.cons_append, first?]
      split at first
      · rename_i brace
        rw [if_pos brace]
        split at first
        · rename_i closed
          obtain ⟨isName, rest, rfl⟩ := of_closedName? closed
          rw [List.append_assoc, List.cons_append, closedName?_of_isName isName]
          rfl
        · split
          · rfl
          · exact ih (Option.isSome_of_eq_some first) first
      · rename_i plain
        rw [if_neg plain]
        exact ih (Option.isSome_of_eq_some first) first

theorem occurs_tokenOf {name : String} (isName : IsName name.toList) :
    occurs (tokenOf name).toList = true := by
  rw [toList_tokenOf, occurs, first?_token isName]
  rfl

theorem BraceFree.first? {text : List Char} (h : BraceFree text) : first? text = none := by
  induction text with
  | nil => rfl
  | cons c text ih =>
      obtain ⟨plain, rest⟩ := braceFree_cons.mp h
      rw [first?_char plain, ih rest]

theorem BraceFree.occurs {text : List Char} (h : BraceFree text) : occurs text = false := by
  rw [Placeholder.occurs, h.first?]
  rfl

theorem Segmented.braceFree {text : List Char} (h : Segmented text) (none : first? text = none) :
    BraceFree text := by
  induction h with
  | nil => exact List.not_mem_nil
  | char plain _ ih =>
      rw [first?_char plain] at none
      exact braceFree_cons.mpr ⟨plain, ih none⟩
  | placeholder isName _ =>
      rw [first?_placeholder isName] at none
      cases none

/-! ## Filling in -/

section

variable {name : List Char} (value : List Char)

theorem dropPrefix?_eq_some {start text rest : List Char}
    (h : Text.dropPrefix? start text = some rest) : text = start ++ rest := by
  induction start generalizing text with
  | nil =>
      cases h
      rfl
  | cons c start ih =>
      cases text with
      | nil => cases h
      | cons d text =>
          rw [Text.dropPrefix?] at h
          split at h
          · rename_i same
            rw [ih h, same]
            rfl
          · cases h

theorem dropPrefix?_append (start rest : List Char) :
    Text.dropPrefix? start (start ++ rest) = some rest := by
  induction start with
  | nil => cases rest <;> rfl
  | cons c start ih => simpa [Text.dropPrefix?] using ih

theorem replaceFrom_append (token skipped rest : List Char) :
    Text.replaceFrom token value skipped.length (skipped ++ rest) =
      Text.replaceFrom token value 0 rest := by
  induction skipped with
  | nil => rfl
  | cons c skipped ih => simpa [Text.replaceFrom] using ih

theorem fill_nil : fill name value [] = [] := by
  rw [fill, Text.replaceAll, Text.replaceFrom]

theorem fill_char {c : Char} (plain : c ≠ '\x7b') (text : List Char) :
    fill name value (c :: text) = c :: fill name value text := by
  have none : Text.dropPrefix? (token name) (c :: text) = none := by
    simp [token, Text.dropPrefix?, Ne.symm plain]
  simp only [fill, Text.replaceAll]
  rw [Text.replaceFrom, none]

theorem fill_append (name : List Char) {before : List Char} (plain : BraceFree before)
    (text : List Char) :
    fill name value (before ++ text) = before ++ fill name value text := by
  induction before with
  | nil => rfl
  | cons c before ih =>
      obtain ⟨plain, rest⟩ := braceFree_cons.mp plain
      rw [List.cons_append, fill_char value plain, ih rest, List.cons_append]

theorem fill_same (text : List Char) :
    fill name value (token name ++ text) = value ++ fill name value text := by
  have found := dropPrefix?_append (token name) text
  have skipped := replaceFrom_append value (token name) (name ++ ['\x7d']) text
  simp only [fill, Text.replaceAll]
  rw [token_append] at found ⊢
  rw [Text.replaceFrom, found]
  simpa [token] using skipped

theorem fill_token (name value : List Char) : fill name value (token name) = value := by
  rw [← List.append_nil (token name), fill_same, fill_nil, List.append_nil]

theorem fill_other {other : List Char} (isName : IsName name) (isName' : IsName other)
    (ne : other ≠ name) (text : List Char) :
    fill name value (token other ++ text) = token other ++ fill name value text := by
  have missed : Text.dropPrefix? (token name) (token other ++ text) = none := by
    refine Option.eq_none_iff_forall_ne_some.mpr fun rest found => ne ?_
    have same := congrArg first? (dropPrefix?_eq_some found)
    rw [first?_placeholder isName', first?_placeholder isName] at same
    exact Option.some.inj same
  have inside : BraceFree (other ++ ['\x7d']) := by
    simpa [BraceFree] using isName'.braceFree
  have behind := fill_append value name inside text
  simp only [fill, Text.replaceAll] at behind ⊢
  rw [token_append] at missed ⊢
  rw [Text.replaceFrom, missed]
  simpa [token] using behind

end

/-- A value that is put where the leftmost placeholder stands is there as a whole. -/
theorem exists_fill_eq {name text : List Char} (value : List Char)
    (first : first? text = some name) :
    ∃ before after, fill name value text = before ++ value ++ after := by
  induction text with
  | nil => cases first
  | cons c text ih =>
      simp only [fill, Text.replaceAll] at ih ⊢
      rw [Text.replaceFrom]
      cases found : Text.dropPrefix? (token name) (c :: text) with
      | some rest => exact ⟨[], _, rfl⟩
      | none =>
          have later : first? text = some name := by
            rw [first?] at first
            split at first
            · rename_i brace
              split at first
              · rename_i closed
                cases first
                -- the placeholder would begin here, and be found
                obtain ⟨_, rest, rfl⟩ := of_closedName? closed
                rw [brace, ← token_append, dropPrefix?_append] at found
                cases found
              · exact first
            · exact first
          obtain ⟨before, after, same⟩ := ih later
          exact ⟨c :: before, after, congrArg (c :: ·) same⟩

/-- What is filled in keeps the text a row of placeholders. -/
theorem Segmented.fill {name value text : List Char} (isName : IsName name)
    (hvalue : Segmented value) (h : Segmented text) : Segmented (fill name value text) := by
  induction h with
  | nil =>
      rw [fill_nil]
      exact .nil
  | char plain _ ih =>
      rw [fill_char value plain]
      exact .char plain ih
  | @placeholder other _ isName' _ ih =>
      by_cases same : other = name
      · subst same
        rw [fill_same]
        exact hvalue.append ih
      · rw [fill_other value isName isName' same]
        exact .placeholder isName' ih

/-! ## How many braces are left -/

/-- The number of opening braces. -/
def openings (text : List Char) : Nat := text.count '\x7b'

theorem openings_append (a b : List Char) : openings (a ++ b) = openings a + openings b :=
  List.count_append

theorem openings_char {c : Char} (plain : c ≠ '\x7b') (text : List Char) :
    openings (c :: text) = openings text :=
  List.count_cons_of_ne plain

theorem BraceFree.openings {text : List Char} (h : BraceFree text) : openings text = 0 :=
  List.count_eq_zero.mpr h

theorem openings_token_pos (name : List Char) : 0 < openings (token name) :=
  List.count_pos_iff.mpr List.mem_cons_self

theorem openings_fill_le {name value text : List Char} (isName : IsName name)
    (free : BraceFree value) (h : Segmented text) :
    openings (fill name value text) ≤ openings text := by
  induction h with
  | nil => exact Nat.le_refl _
  | char plain _ ih => rwa [fill_char value plain, openings_char plain, openings_char plain]
  | @placeholder other rest isName' _ ih =>
      by_cases same : other = name
      · subst same
        rw [fill_same, openings_append, openings_append, free.openings]
        omega
      · rw [fill_other value isName isName' same, openings_append, openings_append]
        omega

/-- A value without braces, put where the leftmost placeholder stands, leaves fewer braces. -/
theorem openings_fill_lt {name value text : List Char} (free : BraceFree value)
    (h : Segmented text) (first : first? text = some name) :
    openings (fill name value text) < openings text := by
  have isName := isName_of_first? first
  induction h with
  | nil => cases first
  | char plain _ ih =>
      rw [first?_char plain] at first
      rw [fill_char value plain, openings_char plain, openings_char plain]
      exact ih first
  | placeholder isName' rest _ =>
      rw [first?_placeholder isName'] at first
      cases first
      have left := openings_fill_le isName free rest
      have gone := openings_token_pos name
      rw [fill_same, openings_append, openings_append, free.openings]
      omega

end Paradigm.Placeholder
