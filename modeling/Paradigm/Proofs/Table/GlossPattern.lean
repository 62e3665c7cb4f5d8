import Paradigm.Proofs.Regex.Greedy
import Paradigm.Proofs.Table.Lines

/-!
# The pattern of lines with a gloss

Lines of word lists are cut by `splitGloss?`. Main statement: this is what the first match of a
pattern with two greedy groups says, however the search goes back and forth.
-/

namespace Paradigm

open Regex

namespace WordEntry

/-- Everything up to a comma with a space after it, and the rest. -/
def glossPattern : String := "^([^,]+), (.+)$"

/-! ## The compiled pattern -/

/-- All characters but a given one. -/
def allBut (d : Char) : CharSet :=
  ⟨[⟨0, d.toNat - 1⟩, ⟨d.toNat + 1, 0xD7FF⟩, ⟨0xE000, 0x10FFFF⟩]⟩

theorem mem_allBut {c d : Char} (positive : 0 < d.toNat) (low : d.toNat < 0xD7FF) :
    c ∈ allBut d ↔ c ≠ d := by
  have valid : c.toNat < 0xD800 ∨ 0xDFFF < c.toNat ∧ c.toNat < 0x110000 := c.valid
  have ranges : c ∈ allBut d ↔ c.toNat ≤ d.toNat - 1 ∨
      d.toNat + 1 ≤ c.toNat ∧ c.toNat ≤ 0xD7FF ∨ 0xE000 ≤ c.toNat ∧ c.toNat ≤ 0x10FFFF := by
    show CharSet.contains _ _ = true ↔ _
    simp [CharSet.contains, CharSet.containsCode, allBut]
  rw [ranges, ne_eq, ← Char.toNat_inj]
  omega

theorem mem_allBut_comma {c : Char} : c ∈ allBut ',' ↔ c ≠ ',' := mem_allBut (by decide) (by decide)

theorem mem_allBut_break {c : Char} : c ∈ allBut '\n' ↔ c ≠ '\n' :=
  mem_allBut (by decide) (by decide)

def glossProgram : Program := #[.accept, .save 1 0, .look .textEnd 1, .save 5 2, .split [5, 3],
  .set (allBut '\n') 4, .save 4 5, .char ' ' 6, .char ',' 7, .save 3 8, .split [11, 9],
  .set (allBut ',') 10, .save 2 11, .look .textStart 12, .save 0 13]

def glossRegex : Regex := ⟨glossPattern, [none, none, none], 14, glossProgram⟩

theorem compile_glossPattern : Regex.compile glossPattern = .ok glossRegex := by decide +kernel

/-- Where the match and its groups begin and end. -/
def glossSlots (head gloss : List Char) : Slots :=
  [some 0, some (head.length + 2 + gloss.length), some 0, some head.length, some (head.length + 2),
    some (head.length + 2 + gloss.length)]

/-! ## What a match has read -/

theorem glossed_of_reaches {line : List Char} {pos : Nat} {found : Slots}
    (h : Reaches glossProgram line 14 pos (List.replicate 6 none) found) :
    ∃ head gloss, line = head ++ ',' :: ' ' :: gloss ∧ Glossed head gloss ∧
      found = glossSlots head gloss := by
  obtain ⟨atStart, h⟩ := (h.of_save rfl).of_look rfl
  obtain rfl : pos = 0 := by simpa [Look.holds] using atStart
  -- the first group, which is not empty and has no comma
  obtain ⟨c, rest, first, after, other, h⟩ := (h.of_save rfl).of_set rfl
  obtain ⟨read, reads, others, h⟩ := h.of_loop rfl rfl
  obtain ⟨_, comma, afterComma, h⟩ := (h.of_save rfl).of_char rfl
  obtain ⟨_, space, afterSpace, h⟩ := h.of_char rfl
  -- the second group, which is not empty and has no line break
  obtain ⟨d, _, second, afterSecond, other', h⟩ := (h.of_save rfl).of_set rfl
  obtain ⟨read', reads', others', h⟩ := h.of_loop rfl rfl
  obtain ⟨atEnd, h⟩ := (h.of_save rfl).of_look rfl
  have same := (h.of_save rfl).of_accept rfl
  have ended : 0 + 1 + read.length + 1 + 1 + 1 + read'.length = line.length := by
    simpa [Look.holds] using atEnd
  have nothing : line.drop (0 + 1 + read.length + 1 + 1 + 1 + read'.length) = [] :=
    List.drop_eq_nil_of_le (Nat.le_of_eq ended.symm)
  have whole : line = c :: read ++ ',' :: ' ' :: (d :: read') := by
    rw [List.drop_zero] at first
    rw [first, ← after, reads, comma, ← afterComma, space, ← afterSpace, second, ← afterSecond,
      reads', nothing]
    simp
  refine ⟨c :: read, d :: read', whole, ?_, ?_⟩
  · constructor
    case commaless =>
      intro member
      exact mem_allBut_comma.mp (List.forall_mem_cons.mpr ⟨other, others⟩ ',' member) rfl
    case headed => exact List.cons_ne_nil _ _
    case glossed => exact List.cons_ne_nil _ _
    case oneLine =>
      intro member
      exact mem_allBut_break.mp (List.forall_mem_cons.mpr ⟨other', others'⟩ '\n' member) rfl
  · rw [same]
    simp [glossSlots]
    omega

/-! ## What is matched -/

/-- At one place, loops are left after their sets were tried. -/
def glossRank (n : Nat) : Nat := [14, 13, 12, 11, 9, 10, 8, 7, 6, 5, 3, 4, 2, 1, 0].getD n 0

section

variable {line : List Char} {c : Char} {read rest : List Char} {slots : Slots}

/-- The second group reads all that is left, and the match ends. -/
theorem forward_second {pos : Nat} (here : line.drop pos = c :: read) (oneLine : '\n' ∉ c :: read) :
    Forward glossProgram line glossRank (4 + 2 * read.length + 1 + 1 + 1) 6 pos slots
      (((slots.set 4 (some pos)).set 5 (some line.length)).set 1 (some line.length)) := by
  have members : ∀ d ∈ c :: read, d ∈ allBut '\n' := fun d member =>
    mem_allBut_break.mpr fun same => oneLine (same ▸ member)
  obtain ⟨inside, others⟩ := List.forall_mem_cons.mp members
  have atEnd : Look.textEnd.holds line.toArray line.length = true := by simp [Look.holds]
  have close : Forward glossProgram line glossRank 4 3 (pos + 1 + read.length)
      (slots.set 4 (some pos))
      (((slots.set 4 (some pos)).set 5 (some line.length)).set 1 (some line.length)) := by
    rw [length_of_drop here]
    exact .save rfl (by decide) (.look rfl atEnd (by decide) (.save rfl (by decide) (.accept rfl)))
  have after : line.drop (pos + 1) = read ++ [] := by rw [drop_succ here, List.append_nil]
  have stops : ∀ d, ([] : List Char).head? = some d → d ∉ allBut '\n' := by
    intro d same
    cases same
  exact .save rfl (by decide) (.set rfl (getElem?_of_drop here) inside
    (.loop rfl rfl after others stops (by decide) (by decide) close))

/-- The first group reads up to a comma, and a space follows. -/
theorem forward_first {steps : Nat} {found : Slots} (here : line = c :: read ++ ',' :: ' ' :: rest)
    (commaless : ',' ∉ c :: read)
    (h : Forward glossProgram line glossRank steps 6 (0 + 1 + read.length + 1 + 1)
      (((slots.set 0 (some 0)).set 2 (some 0)).set 3 (some (0 + 1 + read.length))) found) :
    Forward glossProgram line glossRank
      (steps + 1 + 1 + 1 + 2 * read.length + 1 + 1 + 1 + 1 + 1) 14 0 slots found := by
  have members : ∀ d ∈ c :: read, d ∈ allBut ',' := fun d member =>
    mem_allBut_comma.mpr fun same => commaless (same ▸ member)
  obtain ⟨inside, others⟩ := List.forall_mem_cons.mp members
  have first : line.drop 0 = c :: (read ++ ',' :: ' ' :: rest) := here
  have comma := drop_add (drop_succ first)
  have stops : ∀ d, (',' :: ' ' :: rest).head? = some d → d ∉ allBut ',' := by
    intro d same member
    cases same
    exact mem_allBut_comma.mp member rfl
  exact .save rfl (by decide) (.look rfl rfl (by decide) (.save rfl (by decide)
    (.set rfl (getElem?_of_drop first) inside (.loop rfl rfl (drop_succ first) others stops
      (by decide) (by decide) (.save rfl (by decide) (.char rfl (getElem?_of_drop comma)
        (.char rfl (getElem?_of_drop (drop_succ comma)) h)))))))

end

theorem search_of_glossed {head gloss : List Char} (glossed : Glossed head gloss) :
    search glossProgram 14 3 (head ++ ',' :: ' ' :: gloss).toArray = some (glossSlots head gloss) := by
  obtain ⟨commaless, headed, some_gloss, oneLine⟩ := glossed
  obtain ⟨c, first, rfl⟩ := List.exists_cons_of_ne_nil headed
  obtain ⟨d, second, rfl⟩ := List.exists_cons_of_ne_nil some_gloss
  generalize whole : c :: first ++ ',' :: ' ' :: d :: second = line
  have start : line.drop 0 = c :: (first ++ ',' :: ' ' :: d :: second) := whole.symm
  have after := drop_succ (drop_succ (drop_add (drop_succ start)))
  have forward : Forward glossProgram line glossRank _ 14 0 (List.replicate (2 * 3) none) _ :=
    forward_first whole.symm commaless (forward_second after oneLine)
  have length : line.length = first.length + second.length + 4 := by
    rw [← whole]
    simp
    omega
  rw [search_of_forward forward]
  · simp [glossSlots, List.replicate]
    omega
  · show _ ≤ 15 * (line.length + 1) + 1
    omega

/-! ## The first match -/

/-- The first match of the pattern has the two sides of a line with a gloss for its groups. -/
theorem find?_glossRegex (line : String) :
    glossRegex.find? line = (splitGloss? line.toList).map fun sides =>
      ⟨line.toList, spansOf (glossSlots sides.1 sides.2), [none, none, none]⟩ := by
  have result : search glossProgram 14 3 line.toList.toArray =
      (splitGloss? line.toList).map fun sides => glossSlots sides.1 sides.2 := by
    cases searched : search glossProgram 14 3 line.toList.toArray with
    | none =>
        cases split : splitGloss? line.toList with
        | none => rfl
        | some sides =>
            obtain ⟨same, glossed⟩ := splitGloss?_eq_some_iff.mp split
            rw [same, search_of_glossed glossed] at searched
            cases searched
    | some found =>
        obtain ⟨_, reached⟩ := reaches_of_search searched
        obtain ⟨head, gloss, same, glossed, rfl⟩ := glossed_of_reaches reached
        rw [splitGloss?_eq_some_iff.mpr ⟨same, glossed⟩]
        rfl
  show (search glossProgram 14 3 line.toList.toArray).map _ = _
  rw [result, Option.map_map]
  rfl

/-- The entry of a line from a match of the pattern in it. -/
def ofMatch? (line : String) : Option Match → WordEntry
  | some found => ⟨spellingsOf ((found.group? 1).getD "").toList, found.group? 2⟩
  | none => ⟨spellingsOf line.toList, none⟩

theorem parse_eq_ofMatch? (line : String) : parse line = ofMatch? line (glossRegex.find? line) := by
  rw [find?_glossRegex, parse]
  cases split : splitGloss? line.toList with
  | none => rfl
  | some sides =>
      obtain ⟨head, gloss⟩ := sides
      obtain ⟨same, _⟩ := splitGloss?_eq_some_iff.mp split
      simp [ofMatch?, Match.group?, glossSlots, spansOf, same]

end WordEntry

end Paradigm
