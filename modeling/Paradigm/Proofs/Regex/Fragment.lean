import Paradigm.Regex.Program

/-!
# Fragments of programs

Compiling an expression adds instructions to a program and changes none that were there. What is
added goes on at places inside the addition or at the place that was given, and fills slots of groups
only.
-/

namespace Paradigm.Regex

/-- The instruction goes on at places with `Q`, and fills no slot of the whole match. -/
inductive Instruction.Leads (Q : Nat → Prop) : Instruction → Prop where
  | char {c : Char} {next : Nat} (leads : Q next) : Leads Q (.char c next)
  | set {chars : CharSet} {next : Nat} (leads : Q next) : Leads Q (.set chars next)
  | look {look : Look} {next : Nat} (leads : Q next) : Leads Q (.look look next)
  | save {slot next : Nat} (inner : 2 ≤ slot) (leads : Q next) : Leads Q (.save slot next)
  | split {targets : List Nat} (leads : ∀ target ∈ targets, Q target) : Leads Q (.split targets)

theorem Instruction.Leads.mono {Q Q' : Nat → Prop} {i : Instruction} (h : i.Leads Q)
    (mono : ∀ n, Q n → Q' n) : i.Leads Q' := by
  cases h with
  | char leads => exact .char (mono _ leads)
  | set leads => exact .set (mono _ leads)
  | look leads => exact .look (mono _ leads)
  | save inner leads => exact .save inner (mono _ leads)
  | split leads => exact .split fun target member => mono _ (leads target member)

namespace Program

/-- A place with `Q`, or one of those that were added. -/
def Place (Q : Nat → Prop) (p p' : Program) (n : Nat) : Prop :=
  Q n ∨ p.size ≤ n ∧ n < p'.size

/-- The second program is the first one with instructions added, that lead to places with `Q` or to
each other. -/
structure Fragment (Q : Nat → Prop) (p p' : Program) : Prop where
  grows : p.size ≤ p'.size
  kept : ∀ n, n < p.size → p'[n]? = p[n]?
  leads : ∀ n i, p.size ≤ n → p'[n]? = some i → i.Leads (Place Q p p')

section

variable {Q Q' : Nat → Prop} {p p' p'' : Program}

theorem Place.mono {n : Nat} (h : Place Q p p' n) (mono : ∀ n, Q n → Q' n)
    (grows : p'.size ≤ p''.size) : Place Q' p p'' n :=
  h.imp (mono n) fun ⟨low, high⟩ => ⟨low, Nat.lt_of_lt_of_le high grows⟩

theorem Fragment.refl (Q : Nat → Prop) (p : Program) : Fragment Q p p where
  grows := Nat.le_refl _
  kept _ _ := rfl
  leads n i low found := by
    rw [Array.getElem?_eq_none low] at found
    cases found

theorem Fragment.trans (h : Fragment Q p p') (h' : Fragment Q' p' p'')
    (places : ∀ n, Q' n → Place Q p p' n) : Fragment Q p p'' where
  grows := Nat.le_trans h.grows h'.grows
  kept n low := (h'.kept n (Nat.lt_of_lt_of_le low h.grows)).trans (h.kept n low)
  leads n i low found := by
    rcases Nat.lt_or_ge n p'.size with early | late
    · rw [h'.kept n early] at found
      exact (h.leads n i low found).mono fun _ place => place.mono (fun _ => id) h'.grows
    · refine (h'.leads n i late found).mono fun target place => ?_
      rcases place with outer | ⟨low, high⟩
      · exact (places target outer).mono (fun _ => id) h'.grows
      · exact .inr ⟨Nat.le_trans h.grows low, high⟩

end

/-! ## Building -/

/-- From every program on, a fragment is added, and `places` of the result are places of it. -/
def Adds {α : Type} (Q : Nat → Prop) (places : α → List Nat) (x : Builder α) : Prop :=
  ∀ p, Fragment Q p (x.run p).2 ∧ ∀ n ∈ places (x.run p).1, Place Q p (x.run p).2 n

/-- The places of a single one. -/
abbrev one (n : Nat) : List Nat := [n]

section

variable {Q : Nat → Prop} {α β : Type} {places : α → List Nat} {places' : β → List Nat}

theorem Adds.pure {a : α} (h : ∀ n ∈ places a, Q n) : Adds Q places (pure a) := fun p =>
  ⟨.refl Q p, fun n member => .inl (h n member)⟩

theorem Adds.bind {x : Builder α} {f : α → Builder β} (h : Adds Q places x)
    (h' : ∀ a, Adds (fun n => Q n ∨ n ∈ places a) places' (f a)) : Adds Q places' (x >>= f) := by
  intro p
  obtain ⟨first, at_first⟩ := h p
  obtain ⟨second, at_second⟩ := h' (x.run p).1 (x.run p).2
  have inside : ∀ n, (Q n ∨ n ∈ places (x.run p).1) → Place Q p (x.run p).2 n := fun n outer =>
    outer.elim .inl (at_first n)
  refine ⟨first.trans second inside, fun n member => ?_⟩
  rcases at_second n member with outer | ⟨low, high⟩
  · exact (inside n outer).mono (fun _ => id) second.grows
  · exact .inr ⟨Nat.le_trans first.grows low, high⟩

theorem Fragment.push {i : Instruction} (leads : i.Leads Q) (p : Program) :
    Fragment Q p (p.push i) where
  grows := by simp
  kept n low := by rw [Array.getElem?_push_lt low, Array.getElem?_eq_getElem low]
  leads n i' low found := by
    rcases Nat.eq_or_lt_of_le low with rfl | beyond
    · rw [Array.getElem?_push_size] at found
      cases found
      exact leads.mono fun _ => .inl
    · rw [Array.getElem?_eq_none (by rw [Array.size_push]; omega)] at found
      cases found

theorem Adds.emit {i : Instruction} (leads : i.Leads Q) : Adds Q one (Program.emit i) := fun p =>
  ⟨.push leads p, fun n member => .inr (by
    rw [List.mem_singleton.mp member]
    exact ⟨Nat.le_refl _, by simp [Program.emit, StateT.run]⟩)⟩

theorem Adds.chars {next : Nat} (cs : List Char) (leads : Q next) :
    Adds Q one (Program.chars next cs) := by
  induction cs with
  | nil => exact .pure fun n member => List.mem_singleton.mp member ▸ leads
  | cons c cs ih => exact ih.bind fun rest => .emit (.char (.inr List.mem_cons_self))

theorem Adds.copies {body : Nat → Builder Nat}
    (h : ∀ (Q : Nat → Prop) next, Q next → Adds Q one (body next)) (n : Nat) {next : Nat}
    (leads : Q next) : Adds Q one (Program.copies body n next) := by
  induction n with
  | zero => exact .pure fun n member => List.mem_singleton.mp member ▸ leads
  | succ n ih => exact ih.bind fun rest => h _ rest (.inr List.mem_cons_self)

theorem leads_choice {greedy : Bool} {body next : Nat} (at_body : Q body) (at_next : Q next) :
    (choice greedy body next).Leads Q := by
  refine .split fun target member => ?_
  have either : target = body ∨ target = next := by
    cases greedy <;> simpa [or_comm] using member
  rcases either with rfl | rfl
  · exact at_body
  · exact at_next

theorem Adds.optionalCopies {greedy : Bool} {body : Nat → Builder Nat}
    (h : ∀ (Q : Nat → Prop) next, Q next → Adds Q one (body next)) {next : Nat} (leads : Q next)
    (n : Nat) : Adds Q one (Program.optionalCopies greedy body next n) := by
  induction n with
  | zero => exact .pure fun n member => List.mem_singleton.mp member ▸ leads
  | succ n ih =>
      refine ih.bind fun rest => (h _ rest (.inr List.mem_cons_self)).bind fun start => ?_
      exact .emit (leads_choice (.inr List.mem_cons_self) (.inl (.inl leads)))

/-- The place of a loop is filled in after its body was added, which goes on there. -/
theorem Adds.loop {greedy : Bool} {body : Nat → Builder Nat}
    (h : ∀ (Q : Nat → Prop) next, Q next → Adds Q one (body next)) {next : Nat} (leads : Q next) :
    Adds Q (fun r => [r.1, r.2]) (Program.loop greedy body next) := by
  intro p
  let reserved := p.push (.split [])
  obtain ⟨added, started⟩ := h (· = p.size) p.size rfl reserved
  let start := ((body p.size).run reserved).1
  let built := ((body p.size).run reserved).2
  have size : reserved.size = p.size + 1 := Array.size_push ..
  have grown : p.size < built.size := Nat.lt_of_lt_of_le (size ▸ Nat.lt_succ_self _) added.grows
  have at_start : p.size ≤ start ∧ start < built.size := by
    rcases started start List.mem_cons_self with here | ⟨low, high⟩
    · exact ⟨Nat.le_of_eq here.symm, here ▸ grown⟩
    · exact ⟨by omega, high⟩
  have fragment : Fragment Q p (built.setIfInBounds p.size (choice greedy start next)) := by
    constructor
    case grows =>
      rw [Array.size_setIfInBounds]
      exact Nat.le_of_lt grown
    case kept =>
      intro n low
      rw [Array.getElem?_setIfInBounds_ne (Nat.ne_of_gt low), added.kept n (by omega),
        Array.getElem?_push_lt low, Array.getElem?_eq_getElem low]
    case leads =>
      intro n i low found
      rcases Nat.eq_or_lt_of_le low with rfl | beyond
      · rw [Array.getElem?_setIfInBounds_self_of_lt grown] at found
        cases found
        refine leads_choice (.inr ?_) (.inl leads)
        rwa [Array.size_setIfInBounds]
      · rw [Array.getElem?_setIfInBounds_ne (Nat.ne_of_lt beyond)] at found
        refine (added.leads n i (by omega) found).mono fun target place => .inr ?_
        rw [Array.size_setIfInBounds]
        rcases place with here | ⟨low, high⟩
        · exact ⟨Nat.le_of_eq here.symm, here ▸ grown⟩
        · exact ⟨by omega, high⟩
  refine ⟨fragment, fun n member => .inr ?_⟩
  show p.size ≤ n ∧ n < (built.setIfInBounds p.size (choice greedy start next)).size
  rw [Array.size_setIfInBounds]
  rcases List.mem_cons.mp member with rfl | member
  · exact at_start
  · rw [List.mem_singleton.mp member]
    exact ⟨Nat.le_refl _, grown⟩

end

/-! ## Expressions -/

mutual

/-- What an expression without a group of index 0 is compiled to goes on at `next`. -/
theorem adds_compile {Q : Nat → Prop} :
    (e : Expr) → (∀ g ∈ e.groups, 1 ≤ g.1) → (next : Nat) → Q next →
      Adds Q one (compile e next)
  | .empty, _, next, leads => by
      rw [compile]
      exact .pure fun n member => List.mem_singleton.mp member ▸ leads
  | .text cs, _, next, leads => by
      rw [compile]
      exact .chars cs leads
  | .set cs, _, next, leads => by
      rw [compile]
      exact .emit (.set leads)
  | .look l, _, next, leads => by
      rw [compile]
      exact .emit (.look leads)
  | .capture index name sub, numbered, next, leads => by
      rw [Expr.groups] at numbered
      obtain ⟨positive, inner⟩ := List.forall_mem_cons.mp numbered
      rw [compile]
      refine (Adds.emit (.save (by omega) leads)).bind fun stop => ?_
      refine (adds_compile sub inner stop (.inr List.mem_cons_self)).bind fun start => ?_
      exact .emit (.save (by omega) (.inr List.mem_cons_self))
  | .concat subs, numbered, next, leads => by
      rw [Expr.groups] at numbered
      rw [compile]
      exact adds_compileAll subs numbered next leads
  | .alternation subs, numbered, next, leads => by
      rw [Expr.groups] at numbered
      rw [compile]
      refine (adds_compileEach subs numbered next leads).bind fun starts => ?_
      exact .emit (.split fun target member => .inr member)
  | .repetition min max greedy sub, numbered, next, leads => by
      rw [Expr.groups] at numbered
      have body : ∀ (Q : Nat → Prop) next, Q next → Adds Q one (compile sub next) :=
        fun _ next leads => adds_compile sub numbered next leads
      cases max with
      | some max =>
          rw [compile]
          exact (Adds.optionalCopies body leads _).bind fun rest =>
            .copies body min (.inr List.mem_cons_self)
      | none =>
          rw [compile]
          refine (Adds.loop body leads).bind fun (start, again) => ?_
          have at_start : start ∈ [start, again] := List.mem_cons_self
          dsimp only
          split
          · split
            · exact .pure fun n member => .inr (List.mem_cons_of_mem _ member)
            · exact .emit (leads_choice (.inr at_start) (.inl leads))
          · exact .copies body (min - 1) (.inr at_start)

theorem adds_compileAll {Q : Nat → Prop} :
    (es : List Expr) → (∀ g ∈ Expr.groupsAll es, 1 ≤ g.1) → (next : Nat) → Q next →
      Adds Q one (compileAll es next)
  | [], _, next, leads => by
      rw [compileAll]
      exact .pure fun n member => List.mem_singleton.mp member ▸ leads
  | e :: es, numbered, next, leads => by
      rw [Expr.groupsAll] at numbered
      obtain ⟨head, tail⟩ := List.forall_mem_append.mp numbered
      rw [compileAll]
      refine (adds_compileAll es tail next leads).bind fun rest => ?_
      exact adds_compile e head rest (.inr List.mem_cons_self)

theorem adds_compileEach {Q : Nat → Prop} :
    (es : List Expr) → (∀ g ∈ Expr.groupsAll es, 1 ≤ g.1) → (next : Nat) → Q next →
      Adds Q id (compileEach es next)
  | [], _, next, leads => by
      rw [compileEach]
      exact .pure nofun
  | e :: es, numbered, next, leads => by
      rw [Expr.groupsAll] at numbered
      obtain ⟨head, tail⟩ := List.forall_mem_append.mp numbered
      rw [compileEach]
      refine (adds_compile e head next leads).bind fun start => ?_
      refine (adds_compileEach es tail next (.inl leads)).bind fun starts => ?_
      refine .pure fun n member => ?_
      rcases List.mem_cons.mp member with rfl | member
      · exact .inl (.inr List.mem_cons_self)
      · exact .inr member

end

end Program

end Paradigm.Regex
