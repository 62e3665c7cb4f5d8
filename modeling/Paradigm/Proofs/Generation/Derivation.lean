import Mathlib.Data.List.Sort
import Paradigm.Proofs.Generation.Reachable

/-!
# Derivable forms

What the forms of a part should be is said by rules of derivation, without an order of evaluation.
Main statement: an answer lists the derivable forms, all of them and no others.
-/

namespace Paradigm

mutual

/-- A form of a part: the form that is given for it, or one that some rule of the part makes. -/
inductive Derives (i : Inventory) (seeds : List (String × String)) : String → String → Prop where
  | given {part form : String} (given : givenForm? seeds part = some form) :
    Derives i seeds part form
  | pattern {part text form : String} {rules : List Rule}
    (unseeded : givenForm? seeds part = none) (ruled : i.rules? part = some rules)
    (member : .pattern text ∈ rules) (expands : Expands i seeds text.toList form) :
    Derives i seeds part form
  | substitution {part value : String} {rules : List Rule} {s : Substitution} {found : Regex.Match}
    (unseeded : givenForm? seeds part = none) (ruled : i.rules? part = some rules)
    (member : .substitution s ∈ rules) (derives : Derives i seeds s.source value)
    (matched : s.regex.find? value = some found) : Derives i seeds part (s.template.expand found)

/-- A text that a template stands for: a form of its leftmost placeholder is put in all places
where this placeholder stands, until none is left. -/
inductive Expands (i : Inventory) (seeds : List (String × String)) : List Char → String → Prop where
  | done {text : List Char} (done : Placeholder.first? text = none) :
    Expands i seeds text (String.ofList text)
  | fill {text name : List Char} {value form : String} (first : Placeholder.first? text = some name)
    (derives : Derives i seeds (String.ofList name) value)
    (expands : Expands i seeds (Placeholder.fill name value.toList text) form) :
    Expands i seeds text form

end

/-- Induction on the placeholders that are filled, whatever their forms are derived from. -/
theorem Expands.induction {i : Inventory} {seeds : List (String × String)}
    {motive : ∀ text form, Expands i seeds text form → Prop}
    (done : ∀ {text : List Char} (ended : Placeholder.first? text = none), motive _ _ (.done ended))
    (fill : ∀ {text name : List Char} {value form : String}
      (first : Placeholder.first? text = some name)
      (derives : Derives i seeds (String.ofList name) value)
      (expands : Expands i seeds (Placeholder.fill name value.toList text) form),
      motive _ _ expands → motive _ _ (.fill first derives expands))
    {text : List Char} {form : String} (expands : Expands i seeds text form) :
    motive text form expands :=
  @Expands.rec i seeds (fun _ _ _ => True) motive
    (fun _ => trivial) (fun _ _ _ _ _ => trivial) (fun _ _ _ _ _ _ => trivial)
    done (fun first derives expands _ ih => fill first derives expands ih) text form expands

namespace Inventory

variable {i : Inventory} {seeds : List (String × String)}

/-- The answers that rules are given are the derivable forms. -/
def Complete (i : Inventory) (seeds : List (String × String))
    (answers : String → Except Halt (List String)) : Prop :=
  ∀ part forms, answers part = .ok forms → ∀ form, form ∈ forms ↔ Derives i seeds part form

section

variable {trail : List String} {answers : String → Except Halt (List String)}

theorem mem_expandWithin (complete : i.Complete seeds answers) {fuel depth : Nat}
    {text : List Char} {results : List String}
    (h : (i.directDemand trail answers).expandWithin fuel depth text = .ok results)
    (form : String) : form ∈ results ↔ Expands i seeds text form := by
  induction fuel generalizing depth text results with
  | zero => cases h
  | succ fuel ih =>
      rw [Demand.expandWithin] at h
      cases first : Placeholder.first? text with
      | none =>
          simp only [first] at h
          cases h
          constructor
          · intro member
            rw [List.mem_singleton.mp member]
            exact .done first
          · rintro (_ | ⟨found, _, _⟩)
            · exact List.mem_cons_self
            · cases first.symm.trans found
      | some name =>
          simp only [first] at h
          split at h
          · cases h
          obtain ⟨values, asked, h⟩ := of_bind_ok h
          obtain ⟨each, inserted, h⟩ := of_bind_ok h
          cases h
          obtain ⟨forward, backward⟩ := forall_of_mapM_ok inserted
          have derives := complete _ values asked
          rw [List.mem_flatten]
          constructor
          · rintro ⟨texts, member, inside⟩
            obtain ⟨value, chosen, expanded⟩ := backward texts member
            exact .fill first ((derives value).mp chosen) ((ih expanded).mp inside)
          · rintro (done | ⟨found, derived, expands⟩)
            · rename_i done
              cases first.symm.trans done
            · cases first.symm.trans found
              obtain ⟨texts, member, expanded⟩ := forward _ ((derives _).mpr derived)
              exact ⟨texts, member, (ih expanded).mpr expands⟩

theorem mem_expand (complete : i.Complete seeds answers) {text : String} {results : List String}
    (h : (i.directDemand trail answers).expand text = .ok results) (form : String) :
    form ∈ results ↔ Expands i seeds text.toList form := by
  obtain ⟨fuel, same⟩ := i.expand_eq_expandWithin trail answers text
  exact mem_expandWithin complete (same ▸ h) form

theorem mem_substitute (complete : i.Complete seeds answers) {s : Substitution}
    {results : List String} (h : (i.directDemand trail answers).substitute s = .ok results)
    (form : String) :
    form ∈ results ↔ ∃ value found, Derives i seeds s.source value ∧
      s.regex.find? value = some found ∧ s.template.expand found = form := by
  obtain ⟨values, asked, h⟩ := of_bind_ok h
  obtain ⟨forward, backward⟩ := forall_of_mapM_ok h
  have derives := complete _ values asked
  constructor
  · intro member
    obtain ⟨value, chosen, rewritten⟩ := backward form member
    obtain ⟨_, _, rewritten⟩ := of_bind_ok rewritten
    split at rewritten
    · rename_i found matched
      cases rewritten
      exact ⟨value, found, (derives value).mp chosen, matched, rfl⟩
    · cases rewritten
  · rintro ⟨value, found, derived, matched, rfl⟩
    obtain ⟨rewriting, member, rewritten⟩ := forward value ((derives value).mpr derived)
    obtain ⟨_, _, rewritten⟩ := of_bind_ok rewritten
    simp only [matched] at rewritten
    cases rewritten
    exact member

/-- A rule makes a form. -/
def Makes (i : Inventory) (seeds : List (String × String)) (form : String) : Rule → Prop
  | .pattern text => Expands i seeds text.toList form
  | .substitution s => ∃ value found, Derives i seeds s.source value ∧
      s.regex.find? value = some found ∧ s.template.expand found = form

theorem mem_rules (complete : i.Complete seeds answers) {rs : List Rule} {results : List String}
    (h : (i.directDemand trail answers).rules rs = .ok results) (form : String) :
    form ∈ results ↔ ∃ rule ∈ rs, i.Makes seeds form rule := by
  obtain ⟨each, evaluated, h⟩ := of_bind_ok h
  cases h
  obtain ⟨forward, backward⟩ := forall_of_mapM_ok evaluated
  have makes : ∀ rule out, (i.directDemand trail answers).rule rule = .ok out →
      (form ∈ out ↔ i.Makes seeds form rule) := by
    intro rule out made
    cases rule with
    | pattern text => exact mem_expand complete made form
    | substitution s => exact mem_substitute complete made form
  rw [List.mem_flatten]
  constructor
  · rintro ⟨out, member, inside⟩
    obtain ⟨rule, chosen, made⟩ := backward out member
    exact ⟨rule, chosen, (makes rule out made).mp inside⟩
  · rintro ⟨rule, chosen, made⟩
    obtain ⟨out, member, done⟩ := forward rule chosen
    exact ⟨out, member, (makes rule out done).mpr made⟩

end

/-! ## Answers -/

theorem derives_iff_of_given {part form : String} (given : givenForm? seeds part = some form)
    (other : String) : Derives i seeds part other ↔ other = form := by
  constructor
  · intro h
    cases h with
    | given given' => exact Option.some.inj (given'.symm.trans given)
    | pattern unseeded => cases given.symm.trans unseeded
    | substitution unseeded => cases given.symm.trans unseeded
  · rintro rfl
    exact .given given

theorem derives_iff_of_ruled {part : String} {rules : List Rule}
    (unseeded : givenForm? seeds part = none) (ruled : i.rules? part = some rules)
    (form : String) :
    Derives i seeds part form ↔ ∃ rule ∈ rules, i.Makes seeds form rule := by
  constructor
  · intro h
    cases h with
    | given given => cases unseeded.symm.trans given
    | pattern _ ruled' member expands =>
        cases ruled.symm.trans ruled'
        exact ⟨_, member, expands⟩
    | substitution _ ruled' member derives matched =>
        cases ruled.symm.trans ruled'
        exact ⟨_, member, _, _, derives, matched, rfl⟩
  · rintro ⟨rule, member, made⟩
    cases rule with
    | pattern text => exact .pattern unseeded ruled member made
    | substitution s =>
        obtain ⟨value, found, derived, matched, rfl⟩ := made
        exact .substitution unseeded ruled member derived matched

theorem complete_evaluate (trail : Trail i) : i.Complete seeds (i.evaluate seeds trail) := by
  induction trail using Trail.induction with
  | step trail ih =>
      intro part forms ok form
      have answer := i.evaluate_answer seeds trail part
      rw [ok] at answer
      cases answer with
      | given given => rw [derives_iff_of_given given, List.mem_singleton]
      | yielded unseeded fresh ruled outcome =>
          rw [mem_distinctForms, derives_iff_of_ruled unseeded ruled]
          exact mem_rules (ih part fresh _ ruled) outcome form

/-- The forms of an answer increase, so none is there twice. -/
theorem evaluate_increasing {trail : Trail i} {part : String} {forms : List String}
    (ok : i.evaluate seeds trail part = .ok forms) : forms.Pairwise (· < ·) := by
  have answer := i.evaluate_answer seeds trail part
  rw [ok] at answer
  cases answer with
  | given _ => exact List.pairwise_singleton _ _
  | yielded _ _ _ _ => exact distinctForms_increasing _

/-- What a part comes to does not depend on the trail, as far as it comes to forms. -/
theorem evaluate_ok_unique {trail trail' : Trail i} {part : String} {forms forms' : List String}
    (ok : i.evaluate seeds trail part = .ok forms)
    (ok' : i.evaluate seeds trail' part = .ok forms') : forms = forms' := by
  refine (evaluate_increasing ok).eq_of_mem_iff (evaluate_increasing ok') fun form => ?_
  rw [complete_evaluate trail part forms ok, complete_evaluate trail' part forms' ok']

/-- In every state that requests lead to, an answer lists the derivable forms of the part: in
increasing order, each once, and no others. -/
theorem generate_lists_derivable {trail : Trail i} {s : Session} {part : String}
    {forms : List String} (reachable : i.Reachable seeds trail s)
    (ok : ((i.generate trail part).outcome s).1 = .ok forms) :
    forms.Pairwise (· < ·) ∧ ∀ form, form ∈ forms ↔ Derives i seeds part form := by
  rw [reachable.generate_eq part] at ok
  exact ⟨evaluate_increasing ok, complete_evaluate trail part forms ok⟩

theorem strong_past_derivable :
    ["bande-band", "bandon", "binde-bind", "bindon"].Pairwise (· < ·) ∧
      ∀ form, form ∈ ["bande-band", "bandon", "binde-bind", "bindon"] ↔
        Derives strongVerbs [("stem", "bind")] "past" form :=
  generate_lists_derivable reachable_afterLost
    (by decide +kernel)

end Inventory

end Paradigm
