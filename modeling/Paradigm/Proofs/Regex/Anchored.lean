import Paradigm.Proofs.Regex.Fragment
import Paradigm.Regex

/-!
# Matches between anchors

A program whose first instruction after the start wants the beginning of the text, and whose last one
before the end wants the end of the text, matches whole texts only.
-/

namespace Paradigm.Regex

/-! ## How a run succeeds -/

theorem firstSuccess_some {attempt : Nat → Attempt} {targets : List Nat} {visited : Visited}
    {found : Slots} (h : (firstSuccess attempt targets visited).1 = some found) :
    ∃ target ∈ targets, ∃ visited, (attempt target visited).1 = some found := by
  induction targets generalizing visited with
  | nil => cases h
  | cons target rest ih =>
      rw [firstSuccess] at h
      rcases tried : attempt target visited with ⟨_ | slots, visited'⟩ <;> rw [tried] at h
      · obtain ⟨target, member, found⟩ := ih h
        exact ⟨target, List.mem_cons_of_mem _ member, found⟩
      · exact ⟨target, List.mem_cons_self, visited, by rw [tried]; exact h⟩

/-- How a run succeeds: with its first instruction, and then from where this one goes on. -/
inductive Succeeds (program : Program) (text : Array Char) (fuel n pos : Nat) (slots found : Slots) :
    Prop where
  | accept (here : program[n]? = some .accept) (same : found = slots)
  | char {c : Char} {next : Nat} {visited : Visited} (here : program[n]? = some (.char c next))
    (reads : text[pos]? = some c)
    (rest : (run program text fuel next (pos + 1) slots visited).1 = some found)
  | set {chars : CharSet} {next : Nat} {visited : Visited}
    (here : program[n]? = some (.set chars next))
    (reads : text[pos]?.any chars.contains = true)
    (rest : (run program text fuel next (pos + 1) slots visited).1 = some found)
  | look {look : Look} {next : Nat} {visited : Visited} (here : program[n]? = some (.look look next))
    (holds : look.holds text pos = true)
    (rest : (run program text fuel next pos slots visited).1 = some found)
  | save {slot next : Nat} {visited : Visited} (here : program[n]? = some (.save slot next))
    (rest : (run program text fuel next pos (slots.set slot (some pos)) visited).1 = some found)
  | split {targets : List Nat} {target : Nat} {visited : Visited}
    (here : program[n]? = some (.split targets)) (member : target ∈ targets)
    (rest : (run program text fuel target pos slots visited).1 = some found)

theorem run_some {program : Program} {text : Array Char} {fuel n pos : Nat} {slots found : Slots}
    {visited : Visited} (h : (run program text fuel n pos slots visited).1 = some found) :
    ∃ less, fuel = less + 1 ∧ Succeeds program text less n pos slots found := by
  cases fuel with
  | zero => cases h
  | succ fuel =>
      refine ⟨fuel, rfl, ?_⟩
      rw [run] at h
      dsimp only at h
      split at h
      · cases h
      split at h
      · cases h
      · cases h
        exact .accept ‹_› rfl
      · split at h
        · rename_i reads
          exact .char ‹_› (eq_of_beq reads) h
        · cases h
      · split at h
        · exact .set ‹_› ‹_› h
        · cases h
      · split at h
        · exact .look ‹_› ‹_› h
        · cases h
      · exact .save ‹_› h
      · obtain ⟨target, member, visited, rest⟩ := firstSuccess_some h
        exact .split ‹_› member rest

/-! ## Anchored programs -/

/-- The program begins with a condition on the start of the text and ends with one on its end; in
between, nothing leads past them or fills the slots of the whole match. -/
structure Anchored (start : Nat) (program : Program) : Prop where
  accept : program[0]? = some .accept
  stop : program[1]? = some (.save 1 0)
  last : program[2]? = some (.look .textEnd 1)
  inner : ∃ top first, program[start]? = some (.save 0 top) ∧
    program[top]? = some (.look .textStart first) ∧ (first = 2 ∨ 3 ≤ first ∧ first < top) ∧
    ∀ n i, 3 ≤ n → n < top → program[n]? = some i → i.Leads fun m => m = 2 ∨ 3 ≤ m ∧ m < top

section

variable {program : Program} {text : Array Char} {start fuel : Nat} {found : Slots}

/-- From the last condition on, a run succeeds at the end of the text only. -/
theorem Anchored.run_last (h : Anchored start program) {pos : Nat} {second : Option Nat}
    {rest : Slots} {visited : Visited}
    (success : (run program text fuel 2 pos (some 0 :: second :: rest) visited).1 = some found) :
    found = some 0 :: some text.size :: rest := by
  obtain ⟨fuel, rfl, step⟩ := run_some success
  cases step with
  | look here holds success =>
      cases h.last.symm.trans here
      have atEnd : pos = text.size := by simpa [Look.holds] using holds
      obtain ⟨fuel, rfl, step⟩ := run_some success
      cases step with
      | save here success =>
          cases h.stop.symm.trans here
          obtain ⟨fuel, rfl, step⟩ := run_some success
          cases step with
          | accept here same =>
              rw [same, atEnd]
              rfl
          | _ here => cases h.accept.symm.trans here
      | _ here => cases h.stop.symm.trans here
  | _ here => cases h.last.symm.trans here

/-- A run inside the anchors leaves the start of the match as it is, and ends with the text. -/
theorem Anchored.run_inner (h : Anchored start program) {top : Nat}
    (inner : ∀ n i, 3 ≤ n → n < top → program[n]? = some i →
      i.Leads fun m => m = 2 ∨ 3 ≤ m ∧ m < top)
    {n pos : Nat} (within : n = 2 ∨ 3 ≤ n ∧ n < top) {second : Option Nat} {rest : Slots}
    {visited : Visited}
    (success : (run program text fuel n pos (some 0 :: second :: rest) visited).1 = some found) :
    ∃ rest, found = some 0 :: some text.size :: rest := by
  induction fuel generalizing n pos second rest visited with
  | zero => cases success
  | succ fuel ih =>
      rcases within with rfl | ⟨low, high⟩
      · exact ⟨rest, h.run_last success⟩
      · obtain ⟨less, same, success⟩ := run_some success
        cases same
        cases success with
        | accept here _ => cases inner n _ low high here
        | char here _ success =>
            cases inner n _ low high here with
            | char leads => exact ih leads success
        | set here _ success =>
            cases inner n _ low high here with
            | set leads => exact ih leads success
        | look here _ success =>
            cases inner n _ low high here with
            | look leads => exact ih leads success
        | @save slot _ _ here success =>
            cases inner n _ low high here with
            | save group leads =>
                obtain ⟨slot, rfl⟩ : ∃ k, slot = k + 2 := ⟨slot - 2, by omega⟩
                exact ih leads success
        | split here member success =>
            cases inner n _ low high here with
            | split leads => exact ih (leads _ member) success

theorem Anchored.run_start (h : Anchored start program) {pos : Nat} {first second : Option Nat}
    {rest : Slots} {visited : Visited}
    (success : (run program text fuel start pos (first :: second :: rest) visited).1 = some found) :
    ∃ rest, found = some 0 :: some text.size :: rest := by
  obtain ⟨top, entry, at_start, at_top, within, inner⟩ := h.inner
  obtain ⟨fuel, rfl, step⟩ := run_some success
  cases step with
  | save here success =>
      cases at_start.symm.trans here
      obtain ⟨fuel, rfl, step⟩ := run_some success
      cases step with
      | look here holds success =>
          cases at_top.symm.trans here
          obtain rfl : pos = 0 := by simpa [Look.holds] using holds
          exact h.run_inner inner within success
      | _ here => cases at_top.symm.trans here
  | _ here => cases at_start.symm.trans here

theorem Anchored.searchFrom (h : Anchored start program) {tries pos : Nat}
    {first second : Option Nat} {rest : Slots} {visited : Visited}
    (success : searchFrom program text start (first :: second :: rest) tries pos visited =
      some found) : ∃ rest, found = some 0 :: some text.size :: rest := by
  induction tries generalizing pos visited with
  | zero => cases success
  | succ tries ih =>
      rw [Regex.searchFrom] at success
      split at success
      · rename_i ran
        cases success
        exact h.run_start (congrArg Prod.fst ran)
      · exact ih success

/-- A match of an anchored program goes from the start of the text to its end. -/
theorem Anchored.search (h : Anchored start program) {groups : Nat} (whole : 1 ≤ groups)
    (success : search program start groups text = some found) :
    ∃ rest, found = some 0 :: some text.size :: rest := by
  obtain ⟨more, rfl⟩ : ∃ more, groups = more + 1 := ⟨groups - 1, by omega⟩
  exact h.searchFrom success

end

/-! ## Programs of anchored expressions -/

namespace Program

theorem compileAll_concat (es : List Expr) (e : Expr) (next : Nat) :
    compileAll (es ++ [e]) next = compile e next >>= compileAll es := by
  induction es with
  | nil => simp [compileAll]
  | cons e' es ih => simp [compileAll, ih]

/-- The program of a sequence between conditions on the start and on the end is anchored. -/
theorem anchored_ofExpr {subs : List Expr} (numbered : ∀ g ∈ Expr.groupsAll subs, 1 ≤ g.1) :
    Anchored (ofExpr (.concat (.look .textStart :: (subs ++ [.look .textEnd])))).1
      (ofExpr (.concat (.look .textStart :: (subs ++ [.look .textEnd])))).2 := by
  let outer : Program := #[.accept, .save 1 0, .look .textEnd 1]
  let built := (compileAll subs 2).run outer
  let headed := built.2.push (.look .textStart built.1)
  have same : ofExpr (.concat (.look .textStart :: (subs ++ [.look .textEnd]))) =
      (headed.size, headed.push (.save 0 built.2.size)) := by
    simp only [ofExpr, compile, compileAll, compileAll_concat]
    rfl
  rw [same]
  obtain ⟨fragment, entry⟩ := adds_compileAll (Q := (· = 2)) subs numbered 2 rfl outer
  have size : headed.size = built.2.size + 1 := Array.size_push ..
  have kept : ∀ n, n < built.2.size →
      (headed.push (.save 0 built.2.size))[n]? = built.2[n]? := by
    intro n low
    rw [Array.getElem?_push_lt (by omega), ← Array.getElem?_eq_getElem (by omega),
      Array.getElem?_push_lt low, Array.getElem?_eq_getElem low]
  have outside : ∀ n, n < 3 → (headed.push (.save 0 built.2.size))[n]? = outer[n]? := by
    intro n low
    rw [kept n (Nat.lt_of_lt_of_le low fragment.grows), fragment.kept n low]
  refine ⟨outside 0 (by decide), outside 1 (by decide), outside 2 (by decide), built.2.size,
    built.1, Array.getElem?_push_size, ?_, entry built.1 List.mem_cons_self,
    fun n i low high found => ?_⟩
  · rw [Array.getElem?_push_lt (by omega), ← Array.getElem?_eq_getElem (by omega),
      Array.getElem?_push_size]
  · rw [kept n high] at found
    exact fragment.leads n i low found

end Program

end Paradigm.Regex
