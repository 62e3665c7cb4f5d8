import Paradigm.Proofs.Generation.Needs

/-!
# Giving a part its own form

A part that has a single form may as well be given that form. Rules see other parts only through the
answers they ask for, and below a trail of parts that need each other the part has its form already:
it cannot be on such a trail, since it would need itself. Main statement: an inflector to which the
form is given as well answers every request as it does without, also where the answer is an error.
-/

namespace Paradigm

namespace Inventory

variable {i : Inventory} {seeds seeds' : List (String × String)}

/-! ## Rules see what they ask for -/

section

variable {trail : List String} {answers answers' : String → Except Halt (List String)}
  {rules : List Rule}

theorem expandWithin_congr (complete : i.Complete seeds answers)
    (alike : ∀ part, i.Asks seeds rules part → answers' part = answers part) {template : String}
    (member : .pattern template ∈ rules) {fuel depth : Nat} {text : List Char}
    (reached : i.Inserted seeds template.toList depth text) :
    (i.directDemand trail answers').expandWithin fuel depth text =
      (i.directDemand trail answers).expandWithin fuel depth text := by
  induction fuel generalizing depth text with
  | zero => rfl
  | succ fuel ih =>
      simp only [Demand.expandWithin]
      cases first : Placeholder.first? text with
      | none => rfl
      | some name =>
          simp only
          split
          · rfl
          have same := alike _ (.placeholder member reached first)
          show answers' _ >>= _ = answers _ >>= _
          rw [same]
          cases answered : answers (String.ofList name) with
          | error halt => rfl
          | ok values =>
              have derives := complete _ values answered
              refine congrArg (· >>= fun results => pure results.flatten) (mapM_congr ?_)
              exact fun value chosen => ih (.insert reached first ((derives value).mp chosen))

/-- Rules come to the same with answers that are the same for all that they ask for. -/
theorem rules_congr (complete : i.Complete seeds answers)
    (alike : ∀ part, i.Asks seeds rules part → answers' part = answers part) :
    (i.directDemand trail answers').rules rules = (i.directDemand trail answers).rules rules := by
  have each : ∀ rule ∈ rules, (i.directDemand trail answers').rule rule =
      (i.directDemand trail answers).rule rule := by
    intro rule member
    cases rule with
    | pattern template =>
        have attempts : ∀ fuel,
            (i.directDemand trail answers').expandWithin fuel 0 template.toList =
              (i.directDemand trail answers).expandWithin fuel 0 template.toList :=
          fun _ => expandWithin_congr complete alike member .start
        exact congrArg (Fuel.settle Halt.isFinal) (funext attempts)
    | substitution s =>
        show answers' s.source >>= _ = answers s.source >>= _
        rw [alike _ (.source member)]
        rfl
  simp only [Demand.rules, mapM_congr each]

end

/-! ## A part with forms among parts that need each other -/

/-- Where a part has forms, what it needs in the end has forms, below all parts on the way. -/
theorem evaluate_of_linked {trail : Trail i} {part last : String} {between : List String}
    {forms : List String} (ok : i.evaluate seeds trail part = .ok forms)
    (linked : i.Linked seeds (part :: between ++ [last])) :
    ∃ (below : Trail i) (forms : List String), below.parts = trail.parts ++ part :: between ∧
      i.evaluate seeds below last = .ok forms := by
  induction between generalizing trail part forms with
  | nil => exact evaluate_of_needs ok (List.isChain_cons_cons.mp linked).1
  | cons next between ih =>
      obtain ⟨needs, linked⟩ := List.isChain_cons_cons.mp linked
      obtain ⟨below, forms, parts, found⟩ := evaluate_of_needs ok needs
      obtain ⟨below, forms, parts', found⟩ := ih found linked
      exact ⟨below, forms, by simp [parts', parts], found⟩

/-- A part that has forms does not need itself, not even by way of others. -/
theorem not_mem_of_linked {part : String} {parts forms : List String}
    (unseeded : givenForm? seeds part = none) (ok : i.evaluate seeds .empty part = .ok forms)
    (linked : i.Linked seeds (parts ++ [part])) : part ∉ parts := by
  intro member
  obtain ⟨before, between, rfl⟩ := List.append_of_mem member
  rw [Linked, List.append_assoc] at linked
  obtain ⟨below, forms, parts, found⟩ := evaluate_of_linked ok linked.right_of_append
  have begun : part ∈ below.parts := by simp [parts]
  cases found.symm.trans (evaluate_of_begun unseeded begun)

/-- A part that has forms has them wherever it is needed. -/
theorem evaluate_eq_of_linked {trail : Trail i} {part : String} {forms : List String}
    (ok : i.evaluate seeds .empty part = .ok forms)
    (linked : i.Linked seeds (trail.parts ++ [part])) :
    i.evaluate seeds trail part = .ok forms := by
  rcases given : givenForm? seeds part with _ | form
  · by_contra other
    have fresh := not_mem_of_linked given ok linked
    refine hopeless_of_linked fresh linked (fun forms' ok' => other ?_) forms ok
    rw [ok', evaluate_ok_unique ok' ok]
  · rw [evaluate_of_given given, ← ok, evaluate_of_given given]

/-! ## One more given part -/

/-- The seeds give the part a form, and to all other parts what they were given before. -/
def GivesAlso (seeds : List (String × String)) (part form : String)
    (seeds' : List (String × String)) : Prop :=
  ∀ other, givenForm? seeds' other = if other = part then some form else givenForm? seeds other

/-- Below parts that need each other, and so below none, every part comes to the same if a part is
given its own form. -/
theorem GivesAlso.evaluate_eq {part form : String} (gives : GivesAlso seeds part form seeds')
    (answered : i.evaluate seeds .empty part = .ok [form]) {trail : Trail i} {other : String}
    (linked : i.Linked seeds (trail.parts ++ [other])) :
    i.evaluate seeds' trail other = i.evaluate seeds trail other := by
  induction trail using Trail.induction generalizing other with
  | step trail ih =>
      by_cases own : other = part
      · subst own
        rw [evaluate_eq_of_linked answered linked]
        exact evaluate_of_given (by rw [gives, if_pos rfl])
      have same := gives other
      rw [if_neg own] at same
      rcases given : givenForm? seeds other with _ | form'
      · rw [given] at same
        by_cases begun : other ∈ trail.parts
        · rw [evaluate_of_begun same begun, evaluate_of_begun given begun]
        rcases ruled : i.rules? other with _ | rules
        · rw [evaluate_of_unruled same begun ruled, evaluate_of_unruled given begun ruled]
        · rw [evaluate_of_ruled same begun ruled, evaluate_of_ruled given begun ruled]
          let below := trail.extend other begun ruled
          have alike : ∀ next, i.Asks seeds rules next →
              i.evaluate seeds' below next = i.evaluate seeds below next := fun next asks =>
            ih other begun rules ruled (linked.snoc ⟨given, rules, ruled, asks⟩)
          rw [directAt, rules_congr (complete_evaluate below) alike]
      · rw [evaluate_of_given given, evaluate_of_given (same.trans given)]

theorem givesAlso_seed {before after : List (String × String)} {part : String} (form : String)
    (absent : part ∉ (before ++ after).map Prod.fst) :
    GivesAlso (before ++ after) part form (before ++ (part, form) :: after) := by
  intro other
  simp only [givenForm?, List.reverse_append, List.reverse_cons, List.lookup_append,
    List.lookup_singleton, beq_iff_eq]
  split
  · rename_i own
    subst own
    have later : after.reverse.lookup other = none := by
      refine List.lookup_eq_none_iff.mpr fun seed member => ?_
      simp only [bne_iff_ne, ne_eq]
      rintro rfl
      exact absent (List.mem_map_of_mem (List.mem_append_right _ (List.mem_reverse.mp member)))
    rw [later]
    rfl
  · rw [Option.or_none]

/-! ## Requests -/

theorem generate_fresh_eq (i : Inventory) (seeds : List (String × String)) (part : String) :
    ((Inflector.fresh i seeds).generate part).1 = i.evaluate seeds .empty part :=
  Reachable.fresh.generate_eq part

/-- Where a part that is not given comes to a single form, giving it this form changes no answer:
every part has the same forms, or fails with the same error, met below the same parts. -/
theorem generate_given_own_form {before after : List (String × String)} {part form : String}
    (absent : part ∉ (before ++ after).map Prod.fst)
    (answered : ((Inflector.fresh i (before ++ after)).generate part).1 = .ok [form])
    (other : String) :
    ((Inflector.fresh i (before ++ (part, form) :: after)).generate other).1 =
      ((Inflector.fresh i (before ++ after)).generate other).1 := by
  rw [generate_fresh_eq] at answered
  rw [generate_fresh_eq, generate_fresh_eq]
  exact (givesAlso_seed form absent).evaluate_eq answered (List.isChain_singleton other)

/-- Some parts of a weak verb: its stem, which has one form, and parts that need the stem, one of
which fails further below. -/
def weakRules : Repository :=
  .ofList [("weak", { rules := .ofList [
    ("stem", .one (.rewrite ⟨"plain-inf", "(.*)an", "\\1"⟩)),
    ("past", .many [.template "{stem}de", .template "{stem}ede"]),
    ("lost", .one (.template "{past}-{nowhere}"))] })]

/-- The inventory of the weak verbs. -/
def weakVerbs : Inventory :=
  ((Grammar.compile weakRules).bind (resolve · "weak")).toOption.getD ⟨"", [], .empty⟩

theorem weak_lost_given_stem :
    "stem" ∉ ["plain-inf"] ∧
      ((Inflector.fresh weakVerbs [("plain-inf", "hieran")]).generate "stem").1 = .ok ["hier"] ∧
      ((Inflector.fresh weakVerbs [("plain-inf", "hieran"), ("stem", "hier")]).generate "lost").1 =
        ((Inflector.fresh weakVerbs [("plain-inf", "hieran")]).generate "lost").1 :=
  ⟨by decide, by decide +kernel,
    @generate_given_own_form weakVerbs [("plain-inf", "hieran")] [] "stem" "hier" (by decide)
      (by decide +kernel) "lost"⟩

end Inventory

end Paradigm
