import Mathlib.Data.List.Chain
import Paradigm.Proofs.Generation.Requests

/-!
# What parts need

A part needs another one if its rules ask for it at some place of their evaluation. A part that has
forms never needs a part that has none, so memory is closed under needs. Hence a part that fails
below a trail of parts, each of which needs the next one, fails below no trail as well: there is no
trail to wait for.
-/

namespace Paradigm

namespace Inventory

variable {i : Inventory} {seeds : List (String × String)}

/-- Rules ask for a part: as the source of a rewriting rule, or to fill in the leftmost placeholder
of a text that a template comes to. -/
inductive Asks (i : Inventory) (seeds : List (String × String)) (rules : List Rule) :
    String → Prop where
  | source {s : Substitution} (member : .substitution s ∈ rules) : Asks i seeds rules s.source
  | placeholder {template : String} {depth : Nat} {text name : List Char}
    (member : .pattern template ∈ rules) (reached : Inserted i seeds template.toList depth text)
    (first : Placeholder.first? text = some name) : Asks i seeds rules (String.ofList name)

/-- The rules of a part that is not given ask for another one. -/
def Needs (i : Inventory) (seeds : List (String × String)) (part other : String) : Prop :=
  givenForm? seeds part = none ∧ ∃ rules, i.rules? part = some rules ∧ i.Asks seeds rules other

/-! ## What is asked for has an answer -/

section

variable {trail : List String} {answers : String → Except Halt (List String)}

/-- Where an expansion comes to forms, so does the leftmost placeholder, and so do the expansions
after all its insertions. -/
theorem answered_of_expandWithin {fuel depth : Nat} {text name : List Char} {results : List String}
    (h : (i.directDemand trail answers).expandWithin fuel depth text = .ok results)
    (first : Placeholder.first? text = some name) :
    ∃ values, answers (String.ofList name) = .ok values ∧ ∀ value ∈ values, ∃ fuel results,
      (i.directDemand trail answers).expandWithin fuel
        (depth + if Placeholder.occurs value.toList then 1 else 0)
        (Placeholder.fill name value.toList text) = .ok results := by
  cases fuel with
  | zero => cases h
  | succ fuel =>
      simp only [Demand.expandWithin, first] at h
      split at h
      · cases h
      obtain ⟨values, answered, h⟩ := of_bind_ok h
      obtain ⟨each, inserted, _⟩ := of_bind_ok h
      refine ⟨values, answered, fun value chosen => ?_⟩
      obtain ⟨results, _, expanded⟩ := (forall_of_mapM_ok inserted).1 value chosen
      exact ⟨fuel, results, expanded⟩

theorem expandWithin_of_inserted (complete : i.Complete seeds answers) {template text : List Char}
    {depth : Nat} (reached : i.Inserted seeds template depth text)
    (ok : ∃ fuel results, (i.directDemand trail answers).expandWithin fuel 0 template = .ok results) :
    ∃ fuel results, (i.directDemand trail answers).expandWithin fuel depth text = .ok results := by
  induction reached with
  | start => exact ok
  | insert _ first derives ih =>
      obtain ⟨_, _, expanded⟩ := ih
      obtain ⟨values, answered, inserted⟩ := answered_of_expandWithin expanded first
      exact inserted _ ((complete _ values answered _).mpr derives)

theorem answered_of_asks (complete : i.Complete seeds answers) {rules : List Rule} {part : String}
    {results : List String} (ok : (i.directDemand trail answers).rules rules = .ok results)
    (asks : i.Asks seeds rules part) : ∃ forms, answers part = .ok forms := by
  obtain ⟨_, evaluated, _⟩ := of_bind_ok ok
  have each := (forall_of_mapM_ok evaluated).1
  cases asks with
  | source member =>
      obtain ⟨_, _, substituted⟩ := each _ member
      obtain ⟨forms, answered, _⟩ := of_bind_ok substituted
      exact ⟨forms, answered⟩
  | @placeholder template _ _ _ member reached first =>
      obtain ⟨results, _, expanded⟩ := each _ member
      obtain ⟨fuel, same⟩ := i.expand_eq_expandWithin trail answers template
      obtain ⟨_, _, expanded⟩ :=
        expandWithin_of_inserted complete reached ⟨fuel, results, same.symm.trans expanded⟩
      obtain ⟨forms, answered, _⟩ := answered_of_expandWithin expanded first
      exact ⟨forms, answered⟩

end

/-- A part that has forms below a trail needs only parts that have forms further below. -/
theorem evaluate_of_needs {trail : Trail i} {part other : String} {forms : List String}
    (ok : i.evaluate seeds trail part = .ok forms) (needs : i.Needs seeds part other) :
    ∃ (below : Trail i) (forms : List String), below.parts = trail.parts ++ [part] ∧
      i.evaluate seeds below other = .ok forms := by
  obtain ⟨unseeded, rules, ruled, asks⟩ := needs
  have answer := i.evaluate_answer seeds trail part
  rw [ok] at answer
  cases answer with
  | given given => cases unseeded.symm.trans given
  | yielded _ fresh ruled' outcome =>
      cases ruled.symm.trans ruled'
      obtain ⟨forms, answered⟩ := answered_of_asks (complete_evaluate _) outcome asks
      exact ⟨_, forms, trail.parts_extend part fresh ruled, answered⟩

/-! ## Memory is closed -/

/-- What a known part needs is known. Else this part alone would be a trail of unknown parts, below
which the known part has forms although it needs the trail. -/
theorem Faithful.closed {memo : SortedMap (List String)} (h : i.Faithful seeds memo)
    {part other : String} (known : (memo.get? part).isSome) (needs : i.Needs seeds part other) :
    (memo.get? other).isSome := by
  obtain ⟨forms, known⟩ := Option.isSome_iff_exists.mp known
  by_contra absent
  have unknown : memo.get? other = none := by simpa using absent
  have unseeded := h.given other unknown
  obtain ⟨below, _, _, found⟩ :=
    evaluate_of_needs (h.answers part forms known .empty (Trail.empty_avoids memo)) needs
  have answer := i.evaluate_answer seeds below other
  rw [found] at answer
  cases answer with
  | given given => cases unseeded.symm.trans given
  | yielded _ _ ruled _ =>
      let alone : Trail i := Trail.empty.extend other List.not_mem_nil ruled
      have avoids : alone.Avoids memo :=
        (Trail.empty_avoids memo).extend unknown List.not_mem_nil ruled
      obtain ⟨below, _, parts, found⟩ :=
        evaluate_of_needs (h.answers part forms known alone avoids) needs
      have begun : other ∈ below.parts := by
        rw [parts]
        exact List.mem_append_left _ (List.mem_append_right _ List.mem_cons_self)
      cases found.symm.trans (evaluate_of_begun unseeded begun)

/-! ## Failing for ever -/

/-- Each part of the list needs the next one. -/
def Linked (i : Inventory) (seeds : List (String × String)) (parts : List String) : Prop :=
  parts.IsChain (i.Needs seeds)

theorem Linked.snoc {parts : List String} {part other : String}
    (h : i.Linked seeds (parts ++ [part])) (needs : i.Needs seeds part other) :
    i.Linked seeds (parts ++ [part] ++ [other]) := by
  refine List.isChain_append.mpr ⟨h, List.isChain_singleton other, fun last at_last p head => ?_⟩
  rw [List.getLast?_concat] at at_last
  cases at_last
  cases head
  exact needs

/-- If one part of a linked list is known, so is the last one. -/
theorem Faithful.known_of_linked {memo : SortedMap (List String)} (h : i.Faithful seeds memo)
    {parts : List String} {part last : String} (linked : i.Linked seeds (parts ++ [last]))
    (member : part ∈ parts) (known : (memo.get? part).isSome) : (memo.get? last).isSome := by
  obtain ⟨before, after, rfl⟩ := List.append_of_mem member
  rw [Linked, List.append_assoc] at linked
  exact linked.right_of_append.cons_induction (fun p => (memo.get? p).isSome) _
    (fun _ _ needs known => h.closed known needs) known last (by simp)

/-- The part comes to no forms. -/
def Hopeless (i : Inventory) (seeds : List (String × String)) (part : String) : Prop :=
  ∀ forms, i.evaluate seeds .empty part ≠ .ok forms

/-- A part that has no forms below a trail of parts that need each other and it has none at all: what
it comes to alone would leave a memory in which the trail is unknown, since it is. -/
theorem hopeless_of_linked {trail : Trail i} {part : String} (fresh : part ∉ trail.parts)
    (linked : i.Linked seeds (trail.parts ++ [part]))
    (failed : ∀ forms, i.evaluate seeds trail part ≠ .ok forms) : i.Hopeless seeds part := by
  intro forms ok
  have answer := i.evaluate_answer seeds .empty part
  rw [ok] at answer
  cases answer with
  | given given => exact failed _ (evaluate_of_given given)
  | @yielded rules results unseeded alone ruled outcome =>
      let s := (Session.seeded seeds).begin part 0 rules.length
      have unknown : s.memo.get? part = none := by
        show (Session.seeded seeds).memo.get? part = none
        rw [Session.get?_memo_seeded, unseeded]
        rfl
      have agreed := (related_direct (generate_agrees (Trail.empty.extend part alone ruled))).rules
        rules s (i.faithful_seeded seeds) ((Trail.empty_avoids _).extend unknown alone ruled)
      generalize Halting.outcome _ s = r at agreed
      obtain ⟨r, s'⟩ := r
      obtain rfl : r = .ok results := agreed.same.symm.trans outcome
      have unknown' := agreed.avoids part (List.mem_append_right _ List.mem_cons_self)
      have avoids : trail.Avoids s'.memo := by
        intro p member
        by_contra known
        have known := agreed.faithful.known_of_linked linked member (Option.isSome_iff_ne_none.mpr known)
        simp [unknown'] at known
      exact failed _ (agreed.answer unseeded alone ruled trail avoids fresh)

end Inventory

end Paradigm
