import Paradigm.Proofs.Generation.Derivation
import Paradigm.Proofs.Segment

/-!
# Templates as products

A template is expanded one name at a time, and scanned again after each insertion. Main statement:
where every opening brace begins a placeholder and no form has one, the result is a product: each
choice of one form for each name, filled in everywhere at once, is there exactly once.
-/

namespace Paradigm

open Placeholder

namespace Inventory

variable {i : Inventory} {seeds : List (String × String)}

/-- The names of a template have answers, and no opening brace is in them. -/
structure Fillable (answers : String → Except Halt (List String)) (forms : String → List String)
    (names : List String) : Prop where
  answered : ∀ name ∈ names, answers name = .ok (forms name)
  free : ∀ name ∈ names, ∀ form ∈ forms name, BraceFree form.toList

/-- What a text comes to: all choices, each filled in everywhere at once. -/
def product (forms : String → List String) (text : List Char) : List String :=
  (choices forms (names text)).map fun choice => String.ofList (fillAll choice text)

section

variable {trail : List String} {answers : String → Except Halt (List String)}
  {forms : String → List String}

theorem product_of_done {text : List Char} (h : Segmented text) (none : first? text = none) :
    product forms text = [String.ofList text] := by
  rw [product, names_of_first?_none h none, choices, List.map_singleton,
    (h.braceFree none).fillAll]

/-- The product of a text consists of those of its fillings with the forms of the first name. -/
theorem product_of_first? {name text : List Char} (h : Segmented text)
    (first : first? text = some name)
    (free : ∀ form ∈ forms (String.ofList name), BraceFree form.toList) {rest : List String}
    (split : names text = String.ofList name :: rest) :
    product forms text = ((forms (String.ofList name)).map fun form =>
      product forms (fill name form.toList text)).flatten := by
  have isName := isName_of_first? first
  rw [product, split, choices, List.map_flatMap, List.flatMap_def]
  refine congrArg List.flatten (List.map_congr_left fun form member => ?_)
  have split' := names_of_first? form (free form member) h first
  rw [split] at split'
  rw [product, ← (List.cons.inj split').2, List.map_map]
  refine List.map_congr_left fun choice _ => ?_
  rw [fillAll_fill isName (free form member) h, Function.comp_apply]

/-- One step of an expansion, where the leftmost placeholder has forms. -/
theorem expandWithin_of_answered {fuel depth : Nat} {text name : List Char} {values : List String}
    (first : first? text = some name) (within : depth < expansionLimit)
    (answered : answers (String.ofList name) = .ok values) :
    (i.directDemand trail answers).expandWithin (fuel + 1) depth text =
      (values.mapM fun form => (i.directDemand trail answers).expandWithin fuel
        (depth + if occurs form.toList then 1 else 0) (fill name form.toList text)).map
          List.flatten := by
  have asked : (i.directDemand trail answers).forms (String.ofList name) = .ok values := answered
  simp only [Demand.expandWithin, first, if_neg (Nat.not_le_of_lt within), asked]
  rfl

theorem expandWithin_eq_product {fuel : Nat} {text : List Char} (h : Segmented text)
    (fillable : Fillable answers forms (names text)) (enough : (names text).length < fuel) :
    (i.directDemand trail answers).expandWithin fuel 0 text = .ok (product forms text) := by
  induction fuel generalizing text with
  | zero => exact absurd enough (Nat.not_lt_zero _)
  | succ fuel ih =>
      cases first : first? text with
      | none =>
          rw [product_of_done h first, Demand.expandWithin, first]
          rfl
      | some name =>
          obtain ⟨rest, split⟩ : ∃ rest, names text = String.ofList name :: rest :=
            ⟨_, names_of_first? "" List.not_mem_nil h first⟩
          have head : String.ofList name ∈ names text := split ▸ List.mem_cons_self
          have free := fillable.free _ head
          have inserted : ∀ form ∈ forms (String.ofList name),
              (i.directDemand trail answers).expandWithin fuel
                  (0 + if occurs form.toList then 1 else 0) (fill name form.toList text) =
                .ok (product forms (fill name form.toList text)) := by
            intro form member
            have left : names (fill name form.toList text) = rest :=
              (List.cons.inj ((names_of_first? form (free form member) h first).symm.trans split)).2
            have inside : ∀ other ∈ rest, other ∈ names text := fun other member =>
              split ▸ List.mem_cons_of_mem _ member
            -- The form brings no placeholder along, so the depth stays where it is.
            rw [(free form member).occurs]
            refine ih ((free form member).segmented.fill (isName_of_first? first) h) ?_ ?_
            · rw [left]
              exact ⟨fun other member => fillable.answered other (inside other member),
                fun other member => fillable.free other (inside other member)⟩
            · rw [split, List.length_cons] at enough
              rw [left]
              omega
          rw [expandWithin_of_answered first (by decide) (fillable.answered _ head),
            mapM_ok inserted, product_of_first? h first free split]
          rfl

theorem expand_eq_product {template : String} (braced : WellBraced template.toList)
    (fillable : Fillable answers forms (names template.toList)) :
    (i.directDemand trail answers).expand template = .ok (product forms template.toList) := by
  have done : (i.directDemand trail answers).expandWithin _ 0 template.toList = _ :=
    expandWithin_eq_product braced.segmented fillable (Nat.lt_succ_self _)
  rw [expand_eq (by rw [done]; rfl), done]

end

/-- In every state that requests lead to, a template of complete placeholders expands to a product:
if the placeholders have forms, none of them with an opening brace, the results are the template
under every choice of one form for each name, filled in everywhere at once. There is one result for
each choice, so their number is the product of the numbers of forms. -/
theorem expansion_is_product {trail : Trail i} {s : Session} {template : String}
    {forms : String → List String} (reachable : i.Reachable seeds trail s)
    (braced : WellBraced template.toList)
    (answered : ∀ name ∈ names template.toList,
      ((i.generate trail name).outcome s).1 = .ok (forms name))
    (free : ∀ name ∈ names template.toList, ∀ form ∈ forms name, BraceFree form.toList) :
    (((i.demandAt trail).expand template).outcome s).1 =
        .ok ((choices forms (names template.toList)).map fun choice =>
          String.ofList (fillAll choice template.toList)) ∧
      (∀ choice, choice ∈ choices forms (names template.toList) ↔
        choice.map Prod.fst = names template.toList ∧ ∀ p ∈ choice, p.2 ∈ forms p.1) ∧
      (names template.toList).Nodup ∧ (choices forms (names template.toList)).Nodup ∧
      (choices forms (names template.toList)).length =
        ((names template.toList).map fun name => (forms name).length).prod := by
  have asked : ∀ name ∈ names template.toList, i.evaluate seeds trail name = .ok (forms name) := by
    intro name member
    rw [← reachable.generate_eq name, answered name member]
  have sound := reachable.sound
  have agreed := (related_direct (generate_agrees trail)).rule (.pattern template) s sound.1 sound.2
  refine ⟨?_, fun choice => mem_choices, names_nodup _, ?_, length_choices _⟩
  · exact agreed.same.symm.trans (expand_eq_product braced ⟨asked, free⟩)
  · exact choices_nodup fun name member =>
      (evaluate_increasing (asked name member)).imp fun less => String.ne_of_lt less

/-- The forms of two parts of the strong verb. -/
def gradeAndPast : String → List String
  | "grade" => ["band", "bind"]
  | "past" => ["bande-band", "bandon", "binde-bind", "bindon"]
  | _ => []

theorem strong_template_product :
    (((strongVerbs.demandAt .empty).expand "{grade} {past} {grade}").outcome afterLost).1 =
        .ok ((choices gradeAndPast ["grade", "past"]).map fun choice =>
          String.ofList (fillAll choice "{grade} {past} {grade}".toList)) ∧
      (choices gradeAndPast ["grade", "past"]).length = 2 * 4 :=
  have parts : names "{grade} {past} {grade}".toList = ["grade", "past"] := by decide +kernel
  have answered : ∀ name ∈ ["grade", "past"],
      ((strongVerbs.generate .empty name).outcome afterLost).1 = .ok (gradeAndPast name) := by
    decide +kernel
  have free : ∀ name ∈ ["grade", "past"], ∀ form ∈ gradeAndPast name, BraceFree form.toList := by
    decide +kernel
  have product := expansion_is_product reachable_afterLost (by decide +kernel)
    (parts ▸ answered) (parts ▸ free)
  ⟨parts ▸ product.1, parts ▸ product.2.2.2.2⟩

end Inventory

end Paradigm
