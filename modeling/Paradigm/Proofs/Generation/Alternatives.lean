import Mathlib.Data.List.Sort
import Paradigm.Proofs.Generation.Reachable

/-!
# Alternatives form a set

The rules of a part may stand in any order and be repeated. Two inventories that agree so far do not
evaluate the same parts in the same order, and may be refused by different rules; but evaluation
without memory shows that they come to forms together, and to the same forms.
-/

namespace Paradigm

/-- The forms in increasing order depend on which forms there are. -/
theorem distinctForms_congr {forms forms' : List String}
    (same : ∀ form, form ∈ forms ↔ form ∈ forms') : distinctForms forms = distinctForms forms' := by
  refine (distinctForms_increasing forms).eq_of_mem_iff (distinctForms_increasing forms')
    fun form => ?_
  rw [mem_distinctForms, mem_distinctForms, same]

/-! ## Rules one by one -/

namespace Demand

variable {ε : Type} {d : Demand (Except ε)} {rs : List Rule}

/-- Rules that all come to forms come to all these forms together. -/
theorem rules_of_forall {yield : Rule → List String}
    (each : ∀ rule ∈ rs, d.rule rule = .ok (yield rule)) : d.rules rs = .ok (rs.flatMap yield) := by
  rw [rules, mapM_ok each, List.flatMap_def]
  rfl

theorem exists_yield_of_rules {results : List String} (h : d.rules rs = .ok results) :
    ∃ yield : Rule → List String,
      (∀ rule ∈ rs, d.rule rule = .ok (yield rule)) ∧ results = rs.flatMap yield := by
  obtain ⟨_, evaluated, _⟩ := of_bind_ok h
  let yield (rule : Rule) : List String := (d.rule rule).toOption.getD []
  have each : ∀ rule ∈ rs, d.rule rule = .ok (yield rule) := by
    intro rule member
    obtain ⟨out, _, made⟩ := (forall_of_mapM_ok evaluated).1 rule member
    simp only [yield, made]
    rfl
  exact ⟨yield, each, Except.ok.inj (h.symm.trans (rules_of_forall each))⟩

end Demand

namespace Inventory

/-- The two inventories have rules for the same parts, and for each part the same rules, in whatever
order and however often. -/
structure Shuffled (i j : Inventory) : Prop where
  parts : ∀ part, (i.rules? part).isSome ↔ (j.rules? part).isSome
  rules : ∀ part rs rs', i.rules? part = some rs → j.rules? part = some rs' →
    ∀ rule, rule ∈ rs ↔ rule ∈ rs'

theorem Shuffled.symm {i j : Inventory} (h : i.Shuffled j) : j.Shuffled i where
  parts part := (h.parts part).symm
  rules part rs rs' ruled ruled' rule := (h.rules part rs' rs ruled' ruled rule).symm

variable {i j : Inventory} {seeds : List (String × String)}

/-! ## Evaluators that come to the same forms -/

/-- Where the first comes to a value, so does the second. -/
def Entails {α : Type} (x y : Except Halt α) : Prop := ∀ a, x = .ok a → y = .ok a

theorem related_entails {trail trail' : List String}
    {answers answers' : String → Except Halt (List String)}
    (entails : ∀ part, Entails (answers part) (answers' part)) :
    Demand.Related (fun _ x y => Entails x (y ())) (i.directDemand trail answers)
      fun _ : Unit => j.directDemand trail' answers' where
  pure _ _ ok := ok
  bind := by
    intro _ _ x y f g first rest b ok
    obtain ⟨a, head, tail⟩ := of_bind_ok ok
    show y () >>= g () = .ok b
    rw [first a head]
    exact rest a b tail
  forms := entails
  refuse _ := nofun
  giveUp := nofun
  expand := by
    intro text attempts results ok
    obtain ⟨fuel, same⟩ := i.expand_eq_expandWithin trail answers text
    have done : (j.directDemand trail' answers').expandWithin fuel 0 text.toList = .ok results :=
      attempts fuel results (same.symm.trans ok)
    exact (expand_eq (by rw [done]; rfl)).trans done
  countExpansion _ ok := ok
  countMatch _ ok := ok

/-- What rules come to does not depend on how they are arranged. -/
theorem exists_rules_of_entails {trail trail' : List String}
    {answers answers' : String → Except Halt (List String)}
    (entails : ∀ part, Entails (answers part) (answers' part)) {rs rs' : List Rule}
    (same : ∀ rule, rule ∈ rs ↔ rule ∈ rs') {results : List String}
    (ok : (i.directDemand trail answers).rules rs = .ok results) :
    ∃ results', (j.directDemand trail' answers').rules rs' = .ok results' ∧
      distinctForms results = distinctForms results' := by
  obtain ⟨yield, each, rfl⟩ := Demand.exists_yield_of_rules ok
  have each' : ∀ rule ∈ rs', (j.directDemand trail' answers').rule rule = .ok (yield rule) :=
    fun rule member =>
      (related_entails entails).rule rule _ (each rule ((same rule).mpr member))
  refine ⟨_, Demand.rules_of_forall each', distinctForms_congr fun form => ?_⟩
  simp only [List.mem_flatMap, same]

/-! ## Whole inventories -/

/-- Below the same parts, what the first inventory has forms for the second one has forms for. -/
theorem Shuffled.entails (shuffled : i.Shuffled j) (trail : Trail i) (trail' : Trail j)
    (at_trail : trail'.parts = trail.parts) (part : String) :
    Entails (i.evaluate seeds trail part) (j.evaluate seeds trail' part) := by
  induction trail using Trail.induction generalizing trail' part with
  | step trail ih =>
      intro forms ok
      have answer := i.evaluate_answer seeds trail part
      rw [ok] at answer
      cases answer with
      | given given => exact evaluate_of_given given
      | yielded unseeded fresh ruled outcome =>
          have fresh' : part ∉ trail'.parts := at_trail ▸ fresh
          obtain ⟨rs', ruled'⟩ := Option.isSome_iff_exists.mp
            ((shuffled.parts part).mp (Option.isSome_of_eq_some ruled))
          have below := ih part fresh _ ruled (trail'.extend part fresh' ruled')
            (congrArg (· ++ [part]) at_trail)
          obtain ⟨results', outcome', distinct⟩ :=
            exists_rules_of_entails below (shuffled.rules part _ _ ruled ruled') outcome
          rw [evaluate_of_ruled unseeded fresh' ruled', outcome', distinct]
          rfl

/-- Where two inventories have the same rules for each part, in whatever order and however often,
and the same forms are given, a part comes to forms in both or in neither, and to the same forms,
whatever was asked before. -/
theorem alternatives_form_set {s s' : Session} (shuffled : i.Shuffled j)
    (reachable : i.Reachable seeds .empty s) (reachable' : j.Reachable seeds .empty s')
    (part : String) (forms : List String) :
    ((i.generate .empty part).outcome s).1 = .ok forms ↔
      ((j.generate .empty part).outcome s').1 = .ok forms := by
  rw [reachable.generate_eq, reachable'.generate_eq]
  exact ⟨shuffled.entails .empty .empty rfl part forms,
    shuffled.symm.entails .empty .empty rfl part forms⟩

/-- The inventory with the rules of every part arranged anew. -/
def arranged (i : Inventory) (arrange : List Rule → List Rule) : Inventory :=
  { i with parts := i.parts.map arrange }

theorem shuffled_arranged (i : Inventory) {arrange : List Rule → List Rule}
    (keeps : ∀ rs rule, rule ∈ rs ↔ rule ∈ arrange rs) : i.Shuffled (i.arranged arrange) := by
  have ruled : ∀ part, (i.arranged arrange).rules? part = (i.rules? part).map arrange :=
    fun part => SortedMap.get?_map arrange i.parts part
  constructor
  case parts => simp [ruled]
  case rules =>
    intro part rs rs' here there rule
    rw [ruled, here] at there
    cases there
    exact keeps rs rule

/-- The strong verbs with the alternatives of every part repeated, first backwards. -/
def repeatedVerbs : Inventory := strongVerbs.arranged fun rs => rs.reverse ++ rs

theorem strong_past_repeated :
    strongVerbs.Shuffled repeatedVerbs ∧
      ((repeatedVerbs.generate .empty "past").outcome (.seeded [("stem", "bind")])).1 =
        .ok ["bande-band", "bandon", "binde-bind", "bindon"] :=
  have shuffled : strongVerbs.Shuffled repeatedVerbs :=
    shuffled_arranged strongVerbs fun rs rule => by simp
  ⟨shuffled, (alternatives_form_set shuffled reachable_afterLost .fresh "past" _).mp
    (by decide +kernel)⟩

end Inventory

end Paradigm
