import Paradigm.Proofs.Regex.Anchored

/-!
# Greedy runs

What a run that succeeds has read, instruction by instruction; and runs that never have to come back.
Such a run tries each instruction at a place once, so nothing that was tried before stops it.
-/

namespace Paradigm.Regex

variable {program : Program} {input : List Char}

/-! ## Places in a text -/

section

variable {pos : Nat} {c : Char} {read rest : List Char}

theorem getElem?_of_drop (here : input.drop pos = c :: rest) : input[pos]? = some c := by
  rw [← List.head?_drop, here, List.head?_cons]

theorem drop_add (here : input.drop pos = read ++ rest) : input.drop (pos + read.length) = rest := by
  rw [← List.drop_drop, here, List.drop_left]

theorem drop_succ (here : input.drop pos = c :: rest) : input.drop (pos + 1) = rest := by
  rw [← List.drop_drop, here, List.drop_one, List.tail_cons]

theorem length_of_drop (here : input.drop pos = c :: rest) :
    pos + 1 + rest.length = input.length := by
  have lengths := congrArg List.length here
  rw [List.length_drop, List.length_cons] at lengths
  omega

end

/-! ## What has been read -/

/-- Some run from an instruction at a place succeeds. -/
def Reaches (program : Program) (input : List Char) (n pos : Nat) (slots found : Slots) : Prop :=
  ∃ fuel visited, (run program input.toArray fuel n pos slots visited).1 = some found

theorem drop_of_getElem? {pos : Nat} {c : Char} (here : input.toArray[pos]? = some c) :
    ∃ rest, input.drop pos = c :: rest ∧ input.drop (pos + 1) = rest := by
  rw [List.getElem?_toArray] at here
  obtain ⟨inside, rfl⟩ := List.getElem?_eq_some_iff.mp here
  exact ⟨_, List.drop_eq_getElem_cons inside, rfl⟩

namespace Reaches

variable {n pos next : Nat} {slots found : Slots}

theorem succeeds (h : Reaches program input n pos slots found) :
    ∃ fuel, Succeeds program input.toArray fuel n pos slots found := by
  obtain ⟨_, _, success⟩ := h
  obtain ⟨fuel, _, step⟩ := run_some success
  exact ⟨fuel, step⟩

theorem of_accept (h : Reaches program input n pos slots found)
    (here : program[n]? = some .accept) : found = slots := by
  obtain ⟨_, step⟩ := h.succeeds
  cases step with
  | accept _ same => exact same
  | _ there => cases here.symm.trans there

theorem of_char {c : Char} (h : Reaches program input n pos slots found)
    (here : program[n]? = some (.char c next)) :
    ∃ rest, input.drop pos = c :: rest ∧ input.drop (pos + 1) = rest ∧
      Reaches program input next (pos + 1) slots found := by
  obtain ⟨_, step⟩ := h.succeeds
  cases step with
  | char there reads success =>
      cases here.symm.trans there
      obtain ⟨rest, now, after⟩ := drop_of_getElem? reads
      exact ⟨rest, now, after, _, _, success⟩
  | _ there => cases here.symm.trans there

theorem of_set {chars : CharSet} (h : Reaches program input n pos slots found)
    (here : program[n]? = some (.set chars next)) :
    ∃ c rest, input.drop pos = c :: rest ∧ input.drop (pos + 1) = rest ∧ c ∈ chars ∧
      Reaches program input next (pos + 1) slots found := by
  obtain ⟨_, step⟩ := h.succeeds
  cases step with
  | set there reads success =>
      cases here.symm.trans there
      obtain ⟨c, reads, inside⟩ := (Option.any_eq_true ..).mp reads
      obtain ⟨rest, now, after⟩ := drop_of_getElem? reads
      exact ⟨c, rest, now, after, inside, _, _, success⟩
  | _ there => cases here.symm.trans there

theorem of_look {look : Look} (h : Reaches program input n pos slots found)
    (here : program[n]? = some (.look look next)) :
    look.holds input.toArray pos = true ∧ Reaches program input next pos slots found := by
  obtain ⟨_, step⟩ := h.succeeds
  cases step with
  | look there holds success =>
      cases here.symm.trans there
      exact ⟨holds, _, _, success⟩
  | _ there => cases here.symm.trans there

theorem of_save {slot : Nat} (h : Reaches program input n pos slots found)
    (here : program[n]? = some (.save slot next)) :
    Reaches program input next pos (slots.set slot (some pos)) found := by
  obtain ⟨_, step⟩ := h.succeeds
  cases step with
  | save there success =>
      cases here.symm.trans there
      exact ⟨_, _, success⟩
  | _ there => cases here.symm.trans there

theorem of_split {targets : List Nat} (h : Reaches program input n pos slots found)
    (here : program[n]? = some (.split targets)) :
    ∃ target ∈ targets, Reaches program input target pos slots found := by
  obtain ⟨_, step⟩ := h.succeeds
  cases step with
  | split there member success =>
      cases here.symm.trans there
      exact ⟨_, member, _, _, success⟩
  | _ there => cases here.symm.trans there

/-- A loop over a set reads characters of the set. -/
theorem of_loop {again body : Nat} {chars : CharSet} (h : Reaches program input again pos slots found)
    (at_again : program[again]? = some (.split [body, next]))
    (at_body : program[body]? = some (.set chars again)) :
    ∃ read, input.drop pos = read ++ input.drop (pos + read.length) ∧ (∀ c ∈ read, c ∈ chars) ∧
      Reaches program input next (pos + read.length) slots found := by
  generalize rest : input.drop pos = left
  induction left generalizing pos with
  | nil =>
      obtain ⟨target, member, h⟩ := h.of_split at_again
      simp only [List.mem_cons, List.not_mem_nil, or_false] at member
      cases member with
      | inl same =>
          subst same
          obtain ⟨c, _, reads, _⟩ := h.of_set at_body
          cases rest.symm.trans reads
      | inr same =>
          subst same
          exact ⟨[], rest.symm, nofun, h⟩
  | cons c left ih =>
      obtain ⟨target, member, h⟩ := h.of_split at_again
      simp only [List.mem_cons, List.not_mem_nil, or_false] at member
      cases member with
      | inl same =>
          subst same
          obtain ⟨d, _, reads, after, inside, h⟩ := h.of_set at_body
          cases rest.symm.trans reads
          obtain ⟨read, split, all, h⟩ := ih h after
          refine ⟨c :: read, ?_, List.forall_mem_cons.mpr ⟨inside, all⟩, ?_⟩
          · rw [List.length_cons, Nat.add_comm read.length 1, ← Nat.add_assoc, List.cons_append,
              ← split]
          · rwa [List.length_cons, Nat.add_comm read.length 1, ← Nat.add_assoc]
      | inr same =>
          subst same
          exact ⟨[], rest.symm, nofun, h⟩

end Reaches

/-! ## Going forward -/

/-- A run from an instruction at a place that takes each first choice, or the second one where the
first reads a character that is not there. At one place it goes on to instructions of higher rank
only. -/
inductive Forward (program : Program) (input : List Char) (rank : Nat → Nat) :
    (steps n pos : Nat) → Slots → Slots → Prop where
  | accept {n pos : Nat} {slots : Slots} (here : program[n]? = some .accept) :
    Forward program input rank 1 n pos slots slots
  | char {steps n pos next : Nat} {slots found : Slots} {c : Char}
    (here : program[n]? = some (.char c next)) (reads : input[pos]? = some c)
    (rest : Forward program input rank steps next (pos + 1) slots found) :
    Forward program input rank (steps + 1) n pos slots found
  | set {steps n pos next : Nat} {slots found : Slots} {chars : CharSet} {c : Char}
    (here : program[n]? = some (.set chars next)) (reads : input[pos]? = some c) (inside : c ∈ chars)
    (rest : Forward program input rank steps next (pos + 1) slots found) :
    Forward program input rank (steps + 1) n pos slots found
  | look {steps n pos next : Nat} {slots found : Slots} {look : Look}
    (here : program[n]? = some (.look look next)) (holds : look.holds input.toArray pos = true)
    (later : rank n < rank next) (rest : Forward program input rank steps next pos slots found) :
    Forward program input rank (steps + 1) n pos slots found
  | save {steps n pos next slot : Nat} {slots found : Slots}
    (here : program[n]? = some (.save slot next)) (later : rank n < rank next)
    (rest : Forward program input rank steps next pos (slots.set slot (some pos)) found) :
    Forward program input rank (steps + 1) n pos slots found
  | first {steps n pos target : Nat} {targets : List Nat} {slots found : Slots}
    (here : program[n]? = some (.split (target :: targets))) (later : rank n < rank target)
    (rest : Forward program input rank steps target pos slots found) :
    Forward program input rank (steps + 1) n pos slots found
  | second {steps n pos body next again : Nat} {slots found : Slots} {chars : CharSet}
    (here : program[n]? = some (.split [body, next]))
    (at_body : program[body]? = some (.set chars again))
    (stops : ∀ c, input[pos]? = some c → c ∉ chars)
    (later : rank n < rank body) (latest : rank body < rank next)
    (rest : Forward program input rank steps next pos slots found) :
    Forward program input rank (steps + 1) n pos slots found

/-- The place in the list of what was tried where an instruction at a place in the text is noted. -/
def markOf (input : List Char) (n pos : Nat) : Nat := n * (input.toArray.size + 1) + pos

/-- Nothing has been tried later than the instruction at the place, nor this. -/
def Fresh (program : Program) (input : List Char) (rank : Nat → Nat) (visited : Visited)
    (n pos : Nat) : Prop :=
  ∀ m q, m < program.size → q ≤ input.length → (pos < q ∨ pos = q ∧ rank n ≤ rank m) →
    visited.getD (markOf input m q) true = false

theorem markOf_inj {n m pos q : Nat} (inside : pos ≤ input.length) (inside' : q ≤ input.length)
    (same : markOf input n pos = markOf input m q) : n = m ∧ pos = q := by
  simp only [markOf, List.size_toArray] at same
  have places : pos = q := by
    simpa [Nat.mod_eq_of_lt (Nat.lt_succ_of_le inside), Nat.mod_eq_of_lt (Nat.lt_succ_of_le inside')]
      using congrArg (· % (input.length + 1)) same
  subst places
  exact ⟨Nat.eq_of_mul_eq_mul_right (Nat.succ_pos _) (Nat.add_right_cancel same), rfl⟩

variable {rank : Nat → Nat} {visited : Visited}

/-- Trying the instruction leaves fresh what comes after it. -/
theorem Fresh.try {n pos m q : Nat} (fresh : Fresh program input rank visited n pos)
    (inside : pos ≤ input.length) (later : pos < q ∨ pos = q ∧ rank n < rank m) :
    Fresh program input rank (visited.setIfInBounds (markOf input n pos) true) m q := by
  intro m' q' known inside' after
  have other : markOf input n pos ≠ markOf input m' q' := by
    intro same
    obtain ⟨rfl, rfl⟩ := markOf_inj inside inside' same
    omega
  have untried := fresh m' q' known inside' (by omega)
  rwa [Array.getD_eq_getD_getElem?, Array.getElem?_setIfInBounds_ne other,
    ← Array.getD_eq_getD_getElem?]

theorem run_of_fresh {n pos fuel : Nat} {slots : Slots} {i : Instruction}
    (fresh : Fresh program input rank visited n pos) (inside : pos ≤ input.length)
    (here : program[n]? = some i) :
    run program input.toArray (fuel + 1) n pos slots visited =
      let visited := visited.setIfInBounds (markOf input n pos) true
      match i with
      | .accept => (some slots, visited)
      | .char c next =>
        if input[pos]? == some c then run program input.toArray fuel next (pos + 1) slots visited
        else (none, visited)
      | .set chars next =>
        if input[pos]?.any chars.contains then
          run program input.toArray fuel next (pos + 1) slots visited
        else (none, visited)
      | .look look next =>
        if look.holds input.toArray pos then run program input.toArray fuel next pos slots visited
        else (none, visited)
      | .save slot next =>
        run program input.toArray fuel next pos (slots.set slot (some pos)) visited
      | .split targets =>
        firstSuccess (fun target => run program input.toArray fuel target pos slots) targets
          visited := by
  have known : n < program.size := (Array.getElem?_eq_some_iff.mp here).1
  have untried := fresh n pos known inside (.inr ⟨rfl, Nat.le_refl _⟩)
  rw [markOf] at untried
  rw [run]
  simp only [untried, Bool.false_eq_true, ↓reduceIte, here, List.getElem?_toArray]
  cases i <;> rfl

/-- A set stops a run at a character that it lacks. -/
theorem Fresh.stop {n m pos next : Nat} {chars : CharSet}
    (fresh : Fresh program input rank visited n pos) (inside : pos ≤ input.length)
    (here : program[n]? = some (.set chars next)) (stops : ∀ c, input[pos]? = some c → c ∉ chars)
    (later : rank n < rank m) (fuel : Nat) (slots : Slots) :
    ∃ tried, run program input.toArray fuel n pos slots visited = (none, tried) ∧
      Fresh program input rank tried m pos := by
  cases fuel with
  | zero => exact ⟨visited, rfl, fun m' q known inside' after => fresh m' q known inside' (by omega)⟩
  | succ fuel =>
      refine ⟨_, ?_, fresh.try inside (.inr ⟨rfl, later⟩)⟩
      have none : input[pos]?.any chars.contains = false := by
        cases reads : input[pos]? with
        | none => rfl
        | some c => exact Bool.eq_false_iff.mpr (stops c reads)
      simp only [run_of_fresh fresh inside here, none, Bool.false_eq_true, ↓reduceIte]

section

variable {attempt : Nat → Attempt} {target : Nat} {targets : List Nat}

theorem firstSuccess_of_first {found : Slots} (h : (attempt target visited).1 = some found) :
    (firstSuccess attempt (target :: targets) visited).1 = some found := by
  rw [firstSuccess]
  rcases tried : attempt target visited with ⟨_ | slots, visited'⟩
  · cases (congrArg Prod.fst tried).symm.trans h
  · exact (congrArg Prod.fst tried).symm.trans h

theorem firstSuccess_of_rest {tried : Visited} (h : attempt target visited = (none, tried)) :
    firstSuccess attempt (target :: targets) visited = firstSuccess attempt targets tried := by
  rw [firstSuccess, h]

end

/-- What goes forward succeeds, where nothing stands in its way. -/
theorem Forward.run {steps n pos fuel : Nat} {slots found : Slots}
    (h : Forward program input rank steps n pos slots found) (enough : steps ≤ fuel)
    (inside : pos ≤ input.length) (fresh : Fresh program input rank visited n pos) :
    (Regex.run program input.toArray fuel n pos slots visited).1 = some found := by
  induction h generalizing fuel visited with
  | accept here =>
      obtain ⟨fuel, rfl⟩ : ∃ less, fuel = less + 1 := ⟨fuel - 1, by omega⟩
      rw [run_of_fresh fresh inside here]
  | char here reads rest ih =>
      obtain ⟨fuel, rfl⟩ : ∃ less, fuel = less + 1 := ⟨fuel - 1, by omega⟩
      have before := (List.getElem?_eq_some_iff.mp reads).1
      simp only [run_of_fresh fresh inside here, reads, beq_self_eq_true, ↓reduceIte]
      exact ih (by omega) (by omega) (fresh.try inside (by omega))
  | set here reads member rest ih =>
      obtain ⟨fuel, rfl⟩ : ∃ less, fuel = less + 1 := ⟨fuel - 1, by omega⟩
      have before := (List.getElem?_eq_some_iff.mp reads).1
      simp only [run_of_fresh fresh inside here, reads, Option.any_some,
        show CharSet.contains _ _ = true from member, ↓reduceIte]
      exact ih (by omega) (by omega) (fresh.try inside (by omega))
  | look here holds later rest ih =>
      obtain ⟨fuel, rfl⟩ : ∃ less, fuel = less + 1 := ⟨fuel - 1, by omega⟩
      simp only [run_of_fresh fresh inside here, holds, ↓reduceIte]
      exact ih (by omega) inside (fresh.try inside (by omega))
  | save here later rest ih =>
      obtain ⟨fuel, rfl⟩ : ∃ less, fuel = less + 1 := ⟨fuel - 1, by omega⟩
      rw [run_of_fresh fresh inside here]
      exact ih (by omega) inside (fresh.try inside (by omega))
  | first here later rest ih =>
      obtain ⟨fuel, rfl⟩ : ∃ less, fuel = less + 1 := ⟨fuel - 1, by omega⟩
      rw [run_of_fresh fresh inside here]
      exact firstSuccess_of_first (ih (by omega) inside (fresh.try inside (by omega)))
  | @second _ _ _ body _ _ slots _ _ here at_body stops later latest rest ih =>
      obtain ⟨fuel, rfl⟩ : ∃ less, fuel = less + 1 := ⟨fuel - 1, by omega⟩
      obtain ⟨tried, stopped, fresh'⟩ := (fresh.try (m := body) inside (.inr ⟨rfl, later⟩)).stop
        inside at_body stops latest fuel slots
      rw [run_of_fresh fresh inside here]
      dsimp only
      rw [firstSuccess_of_rest stopped]
      exact firstSuccess_of_first (ih (by omega) inside fresh')

/-- A loop over a set goes forward over all characters of the set that it finds. -/
theorem Forward.loop {steps pos again body next : Nat} {slots found : Slots} {chars : CharSet}
    {read rest : List Char} (at_again : program[again]? = some (.split [body, next]))
    (at_body : program[body]? = some (.set chars again)) (here : input.drop pos = read ++ rest)
    (all : ∀ c ∈ read, c ∈ chars) (stops : ∀ c, rest.head? = some c → c ∉ chars)
    (later : rank again < rank body) (latest : rank body < rank next)
    (h : Forward program input rank steps next (pos + read.length) slots found) :
    Forward program input rank (steps + 2 * read.length + 1) again pos slots found := by
  induction read generalizing pos with
  | nil =>
      refine .second at_again at_body (fun c reads => stops c ?_) later latest h
      rw [List.nil_append] at here
      rwa [← here, List.head?_drop]
  | cons c read ih =>
      obtain ⟨inside, all⟩ := List.forall_mem_cons.mp all
      have more := ih (drop_succ here) all (by
        rwa [List.length_cons, Nat.add_comm read.length, ← Nat.add_assoc] at h)
      exact .first at_again later (.set at_body (getElem?_of_drop here) inside more)

/-! ## Searching -/

section

variable {start groups : Nat} {found : Slots}

theorem reaches_of_search (h : search program start groups input.toArray = some found) :
    ∃ pos, Reaches program input start pos (List.replicate (2 * groups) none) found := by
  have every : ∀ tries pos visited,
      searchFrom program input.toArray start (List.replicate (2 * groups) none) tries pos visited =
        some found →
      ∃ pos, Reaches program input start pos (List.replicate (2 * groups) none) found := by
    intro tries
    induction tries with
    | zero => exact nofun
    | succ tries ih =>
        intro pos visited h
        rw [searchFrom] at h
        split at h
        · rename_i ran
          cases h
          exact ⟨pos, _, _, congrArg Prod.fst ran⟩
        · exact ih _ _ h
  exact every _ _ _ h

theorem search_of_forward {steps : Nat}
    (h : Forward program input rank steps start 0 (List.replicate (2 * groups) none) found)
    (enough : steps ≤ program.size * (input.length + 1) + 1) :
    search program start groups input.toArray = some found := by
  have fresh : Fresh program input rank
      (Array.replicate (program.size * (input.toArray.size + 1)) false) start 0 := by
    intro m q known inside _
    have low : markOf input m q < program.size * (input.toArray.size + 1) := by
      simp only [markOf, List.size_toArray]
      calc m * (input.length + 1) + q < (m + 1) * (input.length + 1) := by
            rw [Nat.add_mul]; omega
        _ ≤ program.size * (input.length + 1) := Nat.mul_le_mul_right _ known
    rw [Array.getD_eq_getD_getElem?, Array.getElem?_replicate, if_pos low, Option.getD_some]
  rw [search, searchFrom]
  have success := h.run enough (Nat.zero_le _) fresh
  split
  · rename_i ran
    exact ((congrArg Prod.fst ran).symm.trans success)
  · rename_i ran
    cases (congrArg Prod.fst ran).symm.trans success

end

end Paradigm.Regex
