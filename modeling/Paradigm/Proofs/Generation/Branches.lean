import Paradigm.Proofs.Generation.Product
import Paradigm.Proofs.Generation.Requests
import Paradigm.Proofs.Generation.Termination

/-!
# Branches of an expansion

An expansion puts the forms of the leftmost placeholder in, one after the other, and goes on with
each text that this gives. So it runs through a tree, one branch after the other, and fails where the
first branch fails. Main statement: a branch fails for being too deep exactly where it has put in 64
forms that brought placeholders along; other forms are never counted.
-/

namespace Paradigm

open Placeholder Halt

/-- How many of the forms bring placeholders along. -/
def nestedForms (made : List String) : Nat := made.countP fun form => occurs form.toList

theorem nestedForms_concat (made : List String) (form : String) :
    nestedForms (made ++ [form]) = nestedForms made + if occurs form.toList then 1 else 0 := by
  rw [nestedForms, List.countP_append, List.countP_singleton, ← nestedForms]

/-- With `depth` forms put in that brought placeholders along, every way to go on from the text ends
in a text without placeholders. -/
inductive Completes (answers : String → Except Halt (List String)) : Nat → List Char → Prop where
  | done {depth : Nat} {text : List Char} (done : first? text = none) : Completes answers depth text
  | filled {depth : Nat} {text name : List Char} {forms : List String}
    (first : first? text = some name) (within : depth < expansionLimit)
    (asked : answers (String.ofList name) = .ok forms)
    (each : ∀ form ∈ forms, Completes answers (depth + if occurs form.toList then 1 else 0)
      (fill name form.toList text)) : Completes answers depth text

/-- A branch that the expansion of a template comes to: the forms that were put in, in their order,
and the text that this gives. The forms that stand before them have been gone through already. -/
inductive Branch (answers : String → Except Halt (List String)) (template : List Char) :
    List String → List Char → Prop where
  | start : Branch answers template [] template
  | insert {made : List String} {text name : List Char} {before after : List String} {form : String}
    (reached : Branch answers template made text) (first : first? text = some name)
    (asked : answers (String.ofList name) = .ok (before ++ form :: after))
    (earlier : ∀ other ∈ before, Completes answers (nestedForms (made ++ [other]))
      (fill name other.toList text)) :
    Branch answers template (made ++ [form]) (fill name form.toList text)

/-- A text into which a form with a placeholder was put has a placeholder. -/
theorem Branch.occurs {answers : String → Except Halt (List String)} {template text : List Char}
    {made : List String} {form : String} (branch : Branch answers template (made ++ [form]) text)
    (nested : occurs form.toList = true) : occurs text = true := by
  generalize whole : made ++ [form] = forms at branch
  cases branch with
  | start => simp at whole
  | insert _ first _ _ =>
      obtain ⟨_, same⟩ := List.append_inj' whole rfl
      cases same
      obtain ⟨before, after, filled⟩ := exists_fill_eq form.toList first
      rw [filled]
      exact occurs_of_prefix (occurs_of_suffix nested before) after

namespace Inventory

variable {i : Inventory} {seeds : List (String × String)}

section

variable {trail : List String} {answers : String → Except Halt (List String)}

/-! ## Branches that are gone through -/

/-- The computation comes to a result. -/
abbrev Succeeds {α : Type} (x : Except Halt α) : Prop := Finishes (fun _ => False) (fun _ => True) x

theorem succeeds_iff {α : Type} {x : Except Halt α} : Succeeds x ↔ ∃ a, x = .ok a := by
  simp [Succeeds, Finishes]

theorem succeeds_of_completes {depth : Nat} {text : List Char}
    (completes : Completes answers depth text) :
    ∃ fuel, Succeeds ((i.directDemand trail answers).expandWithin fuel depth text) := by
  induction completes with
  | done done =>
      refine ⟨1, ?_⟩
      simp only [Demand.expandWithin, done]
      exact .ok trivial
  | @filled depth text name forms first within asked _ ih =>
      obtain ⟨fuel, enough⟩ := exists_enough
        (fun form _ _ le => expandWithin_refines le _ (fill name form.toList text)) ih
      refine ⟨fuel + 1, ?_⟩
      rw [expandWithin_of_answered first within asked]
      rcases Finishes.mapM enough with ⟨results, inserted, _⟩ | ⟨_, _, never⟩
      · rw [inserted]
        exact .ok trivial
      · exact never.elim

theorem completes_of_ok {fuel depth : Nat} {text : List Char} {results : List String}
    (ok : (i.directDemand trail answers).expandWithin fuel depth text = .ok results) :
    Completes answers depth text := by
  induction fuel generalizing depth text results with
  | zero => cases ok
  | succ fuel ih =>
      cases first : first? text with
      | none => exact .done first
      | some name =>
          by_cases within : depth < expansionLimit
          · cases asked : answers (String.ofList name) with
            | error halt =>
                simp only [Demand.expandWithin, first, if_neg (Nat.not_le_of_lt within)] at ok
                obtain ⟨_, answered, _⟩ := of_bind_ok ok
                cases asked.symm.trans answered
            | ok forms =>
                rw [expandWithin_of_answered first within asked] at ok
                obtain ⟨_, inserted, _⟩ := of_map_ok ok
                refine .filled first within asked fun form member => ?_
                obtain ⟨_, _, expanded⟩ := (forall_of_mapM_ok inserted).1 form member
                exact ih expanded
          · simp only [Demand.expandWithin, first, if_pos (Nat.le_of_not_lt within)] at ok
            cases ok

/-- An expansion comes to forms if and only if all its branches end without placeholders. -/
theorem expand_ok_iff {template : String} :
    (∃ results, (i.directDemand trail answers).expand template = .ok results) ↔
      Completes answers 0 template.toList := by
  constructor
  · rintro ⟨results, ok⟩
    obtain ⟨fuel, same⟩ := i.expand_eq_expandWithin trail answers template
    exact completes_of_ok (same.symm.trans ok)
  · intro completes
    obtain ⟨fuel, succeeds⟩ : ∃ fuel, Succeeds
        ((i.directDemand trail answers).expandWithin fuel 0 template.toList) :=
      succeeds_of_completes completes
    obtain ⟨results, ok⟩ := succeeds_iff.mp succeeds
    exact ⟨results, (expand_eq (by rw [ok]; rfl)).trans ok⟩

/-! ## The branch that fails -/

/-- What an expansion fails with after an insertion, it fails with before it, if the forms that are
put in earlier have been gone through. -/
theorem fails_before_insertion {fuel depth : Nat} {text name : List Char}
    {before after : List String} {form : String} {halt : Halt} (first : first? text = some name)
    (within : depth < expansionLimit)
    (asked : answers (String.ofList name) = .ok (before ++ form :: after))
    (earlier : ∀ other ∈ before, Completes answers
      (depth + if occurs other.toList then 1 else 0) (fill name other.toList text))
    (failed : (i.directDemand trail answers).expandWithin fuel
      (depth + if occurs form.toList then 1 else 0) (fill name form.toList text) = .error halt)
    (final : halt ≠ .outOfFuel) :
    ∃ fuel, (i.directDemand trail answers).expandWithin fuel depth text = .error halt := by
  let insertion (fuel : Nat) (other : String) : Except Halt (List String) :=
    (i.directDemand trail answers).expandWithin fuel
      (depth + if occurs other.toList then 1 else 0) (fill name other.toList text)
  have grows : ∀ other k k', k ≤ k' → Refines (insertion k other) (insertion k' other) :=
    fun other _ _ le => expandWithin_refines le _ _
  obtain ⟨n, enough⟩ : ∃ n, ∀ other ∈ before, Succeeds (insertion n other) :=
    exists_enough grows fun other member => succeeds_of_completes (earlier other member)
  refine ⟨max n fuel + 1, ?_⟩
  rw [expandWithin_of_answered first within asked, mapM_eq_error_iff.mpr]
  · rfl
  · refine ⟨before, form, after, rfl, fun other member => ?_, ?_⟩
    · have settled := grows other n _ (Nat.le_max_left n fuel)
      exact succeeds_iff.mp ((enough other member).refines settled)
    · have settled := grows form fuel _ (Nat.le_max_right n fuel)
      rw [show insertion fuel form = .error halt from failed] at settled
      exact settled.resolve_left fun same => final (Except.error.inj same)

theorem fails_of_branch {template text : List Char} {made : List String} {halt : Halt}
    (branch : Branch answers template made text) (within : nestedForms made < expansionLimit)
    {fuel : Nat} (failed : (i.directDemand trail answers).expandWithin fuel (nestedForms made) text =
      .error halt) (final : halt ≠ .outOfFuel) :
    ∃ fuel, (i.directDemand trail answers).expandWithin fuel 0 template = .error halt := by
  induction branch generalizing fuel with
  | start => exact ⟨fuel, failed⟩
  | insert _ first asked earlier ih =>
      rw [nestedForms_concat] at failed within
      simp only [nestedForms_concat] at earlier
      have within' := Nat.lt_of_le_of_lt (Nat.le_add_right _ _) within
      obtain ⟨fuel, failed⟩ := fails_before_insertion first within' asked earlier failed final
      exact ih within' failed

/-- A branch that puts in as many forms with placeholders as are allowed fails for it. -/
theorem tooDeep_of_branch {template : String} {text : List Char} {made : List String}
    {form : String} (branch : Branch answers template.toList (made ++ [form]) text)
    (nested : occurs form.toList = true) (last : nestedForms made + 1 = expansionLimit) :
    (i.directDemand trail answers).expand template =
      .error (i.refusal trail (.expansionTooDeep (String.ofList text) expansionLimit)) := by
  have left := branch.occurs nested
  obtain ⟨name, here⟩ := Option.isSome_iff_exists.mp left
  generalize whole : made ++ [form] = forms at branch
  cases branch with
  | start => simp at whole
  | @insert _ above slot _ _ _ reached first asked earlier =>
      obtain ⟨rfl, same⟩ := List.append_inj' whole rfl
      cases same
      have within : nestedForms made < expansionLimit := by omega
      have at_limit : (i.directDemand trail answers).expandWithin 1
          (nestedForms made + if occurs form.toList then 1 else 0) (fill slot form.toList above) =
            .error (i.refusal trail (.expansionTooDeep
              (String.ofList (fill slot form.toList above)) expansionLimit)) := by
        rw [nested, if_pos rfl, last, Demand.expandWithin, here]
        rfl
      simp only [nestedForms_concat] at earlier
      obtain ⟨_, failed⟩ :=
        fails_before_insertion first within asked earlier at_limit Halt.noConfusion
      obtain ⟨fuel, failed⟩ := fails_of_branch reached within failed Halt.noConfusion
      exact (expand_eq (by rw [failed]; rfl)).trans failed

/-- Where no answer is to blame, a branch that fails for being too deep has just put in the last form
with a placeholder that is allowed. -/
theorem branch_of_tooDeep
    (own : ∀ part deep limit, answers part ≠ .error (i.refusal trail (.expansionTooDeep deep limit)))
    {template text : List Char} {made : List String} {fuel : Nat} {deep : String} {limit : Nat}
    (reached : Branch answers template made text)
    (within : ∀ before last, made = before ++ [last] → nestedForms before < expansionLimit)
    (failed : (i.directDemand trail answers).expandWithin fuel (nestedForms made) text =
      .error (i.refusal trail (.expansionTooDeep deep limit))) :
    limit = expansionLimit ∧ ∃ made form text, Branch answers template (made ++ [form]) text ∧
      occurs form.toList = true ∧ nestedForms made + 1 = expansionLimit ∧
        deep = String.ofList text := by
  induction fuel generalizing made text with
  | zero => cases failed
  | succ fuel ih =>
      cases first : first? text with
      | none =>
          simp only [Demand.expandWithin, first] at failed
          cases failed
      | some name =>
          by_cases more : nestedForms made < expansionLimit
          · cases asked : answers (String.ofList name) with
            | error halt =>
                have answered : (i.directDemand trail answers).forms (String.ofList name) =
                    .error halt := asked
                simp only [Demand.expandWithin, first, if_neg (Nat.not_le_of_lt more), answered]
                  at failed
                exact absurd (asked.trans failed) (own _ deep limit)
            | ok forms =>
                rw [expandWithin_of_answered first more asked] at failed
                obtain ⟨before, form, after, rfl, passed, failed⟩ :=
                  mapM_eq_error_iff.mp (of_map_error failed)
                rw [← nestedForms_concat] at failed
                refine ih (reached.insert first asked fun other member => ?_) ?_ failed
                · obtain ⟨_, expanded⟩ := passed other member
                  rw [nestedForms_concat]
                  exact completes_of_ok expanded
                · intro _ _ split
                  rwa [← (List.append_inj' split rfl).1]
          · simp only [Demand.expandWithin, first, if_pos (Nat.le_of_not_lt more)] at failed
            cases failed
            refine ⟨rfl, ?_⟩
            rcases List.eq_nil_or_concat made with rfl | ⟨before, last, rfl⟩
            · exact absurd (by decide) more
            · rw [List.concat_eq_append] at reached within more
              have less := within before last rfl
              rw [nestedForms_concat] at more
              have nested : occurs last.toList = true := by
                by_contra plain
                rw [if_neg plain] at more
                exact more less
              rw [if_pos nested] at more
              exact ⟨before, last, text, reached, nested, by omega, rfl⟩

end

/-! ## Whose error it is -/

/-- An error for being too deep comes from the rules of a part that was begun, so its trail goes
further than that of the request; and as many forms with placeholders as are allowed were put in. -/
theorem tooDeep_of_evaluate {trail : Trail i} {part deep : String} {limit : Nat} {e : Error}
    (failed : i.evaluate seeds trail part = .error (.failed e))
    (tooDeep : e.fault = .expansionTooDeep deep limit) :
    trail.parts.length < e.trail.length ∧ ∃ owner rules template text,
      i.rules? owner = some rules ∧ .pattern template ∈ rules ∧
        i.Inserted seeds template.toList expansionLimit text := by
  induction trail using Trail.induction generalizing part with
  | step trail ih =>
      have answer := i.evaluate_answer seeds trail part
      rw [failed] at answer
      cases answer with
      | begun _ _ => cases tooDeep
      | unruled _ _ _ => cases tooDeep
      | halted unseeded fresh ruled outcome =>
          have longer := trail.length_extend part fresh ruled
          rcases error_of_rules outcome with ⟨below, _, failed⟩ | ⟨fault, refuses, same⟩
          · obtain ⟨further, owned⟩ := ih part fresh _ ruled failed
            exact ⟨by omega, owned⟩
          · cases same
            cases tooDeep
            cases refuses with
            | tooDeep member reached _ =>
                refine ⟨?_, part, _, _, _, ruled, member, reached⟩
                show trail.parts.length < (trail.extend part fresh ruled).parts.length
                omega

theorem evaluate_ne_tooDeep (trail : Trail i) (part deep : String) (limit : Nat) :
    i.evaluate seeds trail part ≠ .error (i.refusal trail.parts (.expansionTooDeep deep limit)) :=
  fun failed => absurd (tooDeep_of_evaluate failed rfl).1 (Nat.lt_irrefl _)

/-- An expansion is refused for being too deep if and only if one of its branches comes to put in the
last form with a placeholder that is allowed. -/
theorem expand_tooDeep_iff {trail : Trail i} {template : String} {text : List Char} {limit : Nat} :
    (i.directAt seeds trail).expand template =
        .error (i.refusal trail.parts (.expansionTooDeep (String.ofList text) limit)) ↔
      limit = expansionLimit ∧ ∃ made form,
        Branch (i.evaluate seeds trail) template.toList (made ++ [form]) text ∧
          occurs form.toList = true ∧ nestedForms made + 1 = expansionLimit := by
  constructor
  · intro failed
    obtain ⟨fuel, same⟩ :=
      i.expand_eq_expandWithin trail.parts (i.evaluate seeds trail) template
    obtain ⟨limited, made, form, _, branch, nested, last, deep⟩ :=
      branch_of_tooDeep (evaluate_ne_tooDeep trail) .start (by simp) (same.symm.trans failed)
    obtain rfl := String.ofList_inj.mp deep
    exact ⟨limited, made, form, branch, nested, last⟩
  · rintro ⟨rfl, made, form, branch, nested, last⟩
    exact tooDeep_of_branch branch nested last

/-! ## Forms without placeholders -/

/-- The inventory has no rewriting rules. -/
def PatternsOnly (i : Inventory) : Prop :=
  ∀ part rules, i.rules? part = some rules → ∀ rule ∈ rules, ∃ text, rule = .pattern text

end Inventory

/-- What a template stands for has no placeholder left. -/
theorem Expands.noneOccurs {i : Inventory} {seeds : List (String × String)} {text : List Char}
    {form : String} (expands : Expands i seeds text form) : occurs form.toList = false := by
  induction expands using Expands.induction with
  | done ended =>
      rw [String.toList_ofList, occurs, ended]
      rfl
  | fill _ _ _ ih => exact ih

namespace Inventory

variable {i : Inventory} {seeds : List (String × String)}

/-- Templates alone make no form with a placeholder, where none is given. -/
theorem PatternsOnly.noneOccurs (only : i.PatternsOnly)
    (plain : ∀ seed ∈ seeds, occurs seed.2.toList = false) {part form : String}
    (derives : Derives i seeds part form) : occurs form.toList = false := by
  cases derives with
  | given given =>
      obtain ⟨before, after, split, _⟩ := List.lookup_eq_some_iff.mp given
      exact plain (part, form) (List.mem_reverse.mp (by simp [split]))
  | pattern _ _ _ expands => exact expands.noneOccurs
  | substitution _ ruled member _ _ =>
      obtain ⟨_, same⟩ := only _ _ ruled _ member
      cases same

theorem Inserted.flat (none : ∀ part form, Derives i seeds part form → occurs form.toList = false)
    {template text : List Char} {depth : Nat} (inserted : i.Inserted seeds template depth text) :
    depth = 0 := by
  induction inserted with
  | start => rfl
  | insert _ _ derives ih => rw [ih, none _ _ derives]; rfl

theorem PatternsOnly.evaluate (only : i.PatternsOnly)
    (plain : ∀ seed ∈ seeds, occurs seed.2.toList = false) {trail : Trail i} {part : String}
    {e : Error} (failed : i.evaluate seeds trail part = .error (.failed e)) (deep : String)
    (limit : Nat) : e.fault ≠ .expansionTooDeep deep limit := by
  intro tooDeep
  obtain ⟨_, _, _, _, _, _, _, inserted⟩ := tooDeep_of_evaluate failed tooDeep
  have flat := Inserted.flat (fun _ _ derives => only.noneOccurs plain derives) inserted
  cases flat

/-! ## Placeholders in a row -/

/-- Given forms of which each is the placeholder of the next part, up to a form of the part with
number `k` that has no placeholder. -/
structure Staircase (seeds : List (String × String)) (names : Nat → String) (k : Nat)
    (last : String) : Prop where
  isName : ∀ n ≤ k, IsName (names n).toList
  given : ∀ n < k, givenForm? seeds (names n) = some (tokenOf (names (n + 1)))
  ends : givenForm? seeds (names k) = some last
  plain : occurs last.toList = false

section

variable {trail : Trail i} {names : Nat → String} {k : Nat} {last : String}

theorem Staircase.climbs (stairs : Staircase seeds names k last) (short : k < expansionLimit)
    {n : Nat} (le : n ≤ k) :
    ∃ fuel, (i.directAt seeds trail).expandWithin fuel n (token (names n).toList) = .ok [last] := by
  induction le using Nat.decreasingInduction with
  | self =>
      have answered : i.evaluate seeds trail (String.ofList (names k).toList) = .ok [last] := by
        rw [String.ofList_toList]
        exact evaluate_of_given stairs.ends
      have first := first?_token (stairs.isName k (Nat.le_refl k))
      have plain : first? last.toList = none := by simpa [occurs] using stairs.plain
      refine ⟨2, ?_⟩
      rw [expandWithin_of_answered first short answered, List.mapM_cons, fill_token]
      simp only [Demand.expandWithin, plain, String.ofList_toList]
      rfl
  | of_succ n less ih =>
      obtain ⟨fuel, done⟩ := ih
      have answered : i.evaluate seeds trail (String.ofList (names n).toList) =
          .ok [tokenOf (names (n + 1))] := by
        rw [String.ofList_toList]
        exact evaluate_of_given (stairs.given n less)
      have first := first?_token (stairs.isName n (Nat.le_of_lt less))
      have nested := occurs_tokenOf (stairs.isName (n + 1) less)
      have filled := fill_token (names n).toList (token (names (n + 1)).toList)
      refine ⟨fuel + 1, ?_⟩
      rw [expandWithin_of_answered first (Nat.lt_trans less short) answered, List.mapM_cons, nested,
        if_pos rfl, toList_tokenOf, filled, done]
      rfl

/-- The forms that are put in on the way to the part with number `n`. -/
def stairsTo (names : Nat → String) (n : Nat) : List String :=
  (List.range n).map fun m => tokenOf (names (m + 1))

theorem stairsTo_succ (names : Nat → String) (n : Nat) :
    stairsTo names (n + 1) = stairsTo names n ++ [tokenOf (names (n + 1))] := by
  simp [stairsTo, List.range_succ]

theorem Staircase.nestedForms_stairsTo (stairs : Staircase seeds names k last) {n : Nat}
    (le : n ≤ k) : nestedForms (stairsTo names n) = n := by
  induction n with
  | zero => rfl
  | succ n ih =>
      rw [stairsTo_succ, nestedForms_concat, ih (Nat.le_of_succ_le le),
        occurs_tokenOf (stairs.isName (n + 1) le), if_pos rfl]

theorem Staircase.branch (stairs : Staircase seeds names k last) {n : Nat} (le : n ≤ k) :
    Branch (i.evaluate seeds trail) (token (names 0).toList) (stairsTo names n)
      (token (names n).toList) := by
  induction n with
  | zero => exact .start
  | succ n ih =>
      have first := first?_token (stairs.isName n (Nat.le_of_succ_le le))
      have asked : i.evaluate seeds trail (String.ofList (names n).toList) =
          .ok ([] ++ tokenOf (names (n + 1)) :: []) := by
        rw [String.ofList_toList]
        exact evaluate_of_given (stairs.given n le)
      have next := (ih (Nat.le_of_succ_le le)).insert first asked (List.forall_mem_nil _)
      rwa [toList_tokenOf, fill_token, ← stairsTo_succ] at next

theorem Staircase.expand_of_short (stairs : Staircase seeds names k last)
    (short : k < expansionLimit) :
    (i.directAt seeds trail).expand (tokenOf (names 0)) = .ok [last] := by
  obtain ⟨fuel, done⟩ : ∃ fuel, (i.directAt seeds trail).expandWithin fuel 0
      (tokenOf (names 0)).toList = .ok [last] := by
    rw [toList_tokenOf]
    exact stairs.climbs short (Nat.zero_le k)
  exact (expand_eq (by rw [done]; rfl)).trans done

theorem Staircase.expand_of_long (stairs : Staircase seeds names k last)
    (long : expansionLimit ≤ k) :
    (i.directAt seeds trail).expand (tokenOf (names 0)) =
      .error (i.refusal trail.parts
        (.expansionTooDeep (tokenOf (names expansionLimit)) expansionLimit)) := by
  have within : 63 ≤ k := Nat.le_of_succ_le long
  have branch : Branch (i.evaluate seeds trail) (tokenOf (names 0)).toList
      (stairsTo names 63 ++ [tokenOf (names 64)]) (token (names 64).toList) := by
    rw [toList_tokenOf, ← stairsTo_succ]
    exact stairs.branch long
  refine expand_tooDeep_iff.mpr ⟨rfl, _, _, branch, occurs_tokenOf (stairs.isName _ long), ?_⟩
  rw [stairs.nestedForms_stairsTo within]
  rfl

end

/-! ## In a session -/

theorem Reachable.expand_eq {trail : Trail i} {s : Session} (reachable : i.Reachable seeds trail s)
    (template : String) :
    (((i.demandAt trail).expand template).outcome s).1 =
      (i.directAt seeds trail).expand template := by
  have sound := reachable.sound
  have agreed := (related_direct (generate_agrees trail)).rule (.pattern template) s sound.1 sound.2
  exact agreed.same.symm

/-- What parts come to in a state below a trail. -/
def answersAt (i : Inventory) (trail : Trail i) (s : Session) (part : String) :
    Except Halt (List String) :=
  ((i.generate trail part).outcome s).1

/-- What is charged to the bound on expansions in a state below a trail. An expansion is refused for
being too deep, by itself, if one of its branches puts in the 64th form with a placeholder, and in
no other case; the text then has a placeholder left. So a row of placeholders, each the given form of
the part before it, may hold 63 of them but no more; and where there are templates only and no
placeholder is given, no form has a placeholder and nothing is ever too deep. -/
structure Bounded (i : Inventory) (seeds : List (String × String)) (trail : Trail i)
    (s : Session) : Prop where
  left : ∀ template text made form,
    Branch (i.answersAt trail s) template (made ++ [form]) text → occurs form.toList = true →
      occurs text = true
  tooDeep : ∀ (template : String) (text : List Char) (limit : Nat),
    (((i.demandAt trail).expand template).outcome s).1 =
        .error (i.refusal trail.parts (.expansionTooDeep (String.ofList text) limit)) ↔
      limit = 64 ∧ ∃ made form,
        Branch (i.answersAt trail s) template.toList (made ++ [form]) text ∧
          occurs form.toList = true ∧ nestedForms made = 63
  succeeds : ∀ template : String,
    (∃ forms, (((i.demandAt trail).expand template).outcome s).1 = .ok forms) ↔
      Completes (i.answersAt trail s) 0 template.toList
  staircase : ∀ names k last, Staircase seeds names k last →
    (k ≤ 63 → (((i.demandAt trail).expand (tokenOf (names 0))).outcome s).1 = .ok [last]) ∧
      (64 ≤ k → (((i.demandAt trail).expand (tokenOf (names 0))).outcome s).1 =
        .error (i.refusal trail.parts (.expansionTooDeep (tokenOf (names 64)) 64)))
  flat : i.PatternsOnly → (∀ seed ∈ seeds, occurs seed.2.toList = false) → ∀ part,
    (∀ forms, i.answersAt trail s part = .ok forms →
      ∀ form ∈ forms, occurs form.toList = false) ∧
    ∀ e, i.answersAt trail s part = .error (.failed e) →
      ∀ text limit, e.fault ≠ .expansionTooDeep text limit

/-- In every state that requests lead to, an expansion is charged for the forms that bring
placeholders along, and for nothing else. -/
theorem expansions_bounded {trail : Trail i} {s : Session} (reachable : i.Reachable seeds trail s) :
    i.Bounded seeds trail s := by
  have answers : i.answersAt trail s = i.evaluate seeds trail :=
    funext fun part => reachable.generate_eq part
  constructor
  case left => exact fun _ _ _ _ branch nested => branch.occurs nested
  case tooDeep =>
    intro template text limit
    rw [reachable.expand_eq, expand_tooDeep_iff, answers]
    simp only [expansionLimit, Nat.reduceEqDiff]
  case succeeds =>
    intro template
    rw [reachable.expand_eq, expand_ok_iff, answers]
  case staircase =>
    intro names k last stairs
    rw [reachable.expand_eq]
    exact ⟨fun short => stairs.expand_of_short (Nat.lt_succ_of_le short), stairs.expand_of_long⟩
  case flat =>
    intro only plain part
    rw [answers]
    refine ⟨fun forms ok form member => ?_, fun e failed => only.evaluate plain failed⟩
    exact only.noneOccurs plain ((complete_evaluate trail part forms ok form).mp member)

/-! ### A sample -/

theorem givenForm?_of_mem (distinct : (seeds.map (·.1)).Nodup) {part form : String}
    (member : (part, form) ∈ seeds) : givenForm? seeds part = some form := by
  rw [givenForm?, ← SortedMap.get?_ofList]
  exact SortedMap.get?_insertMany_of_mem _ distinct member

def stairName (n : Nat) : String := String.ofList (List.replicate (n + 1) 'a')

theorem stairName_inj {m n : Nat} (same : stairName m = stairName n) : m = n := by
  have length := congrArg List.length (String.ofList_inj.mp same)
  simpa using length

/-- Placeholders in a row, up to the part with number `k`. -/
def stairSeeds (k : Nat) : List (String × String) :=
  (List.range k).map (fun n => (stairName n, tokenOf (stairName (n + 1)))) ++ [(stairName k, "e")]

theorem staircase_stairSeeds (k : Nat) : Staircase (stairSeeds k) stairName k "e" := by
  have names : (stairSeeds k).map (·.1) = (List.range (k + 1)).map stairName := by
    simp [stairSeeds, List.range_succ, Function.comp_def]
  have distinct : ((stairSeeds k).map (·.1)).Nodup := by
    rw [names]
    exact List.nodup_range.map fun _ _ same => stairName_inj same
  constructor
  case isName =>
    intro n _ c inside
    rw [stairName, String.toList_ofList] at inside
    rw [List.eq_of_mem_replicate inside]
    decide +kernel
  case given =>
    intro n less
    refine givenForm?_of_mem distinct (List.mem_append_left _ ?_)
    exact List.mem_map.mpr ⟨n, List.mem_range.mpr less, rfl⟩
  case ends => exact givenForm?_of_mem distinct (List.mem_append_right _ List.mem_cons_self)
  case plain => decide +kernel

theorem strong_stairs_bounded :
    (((strongVerbs.demandAt .empty).expand "\x7ba\x7d").outcome (.seeded (stairSeeds 63))).1 =
        .ok ["e"] ∧
      (((strongVerbs.demandAt .empty).expand "\x7ba\x7d").outcome (.seeded (stairSeeds 64))).1 =
        .error (strongVerbs.refusal [] (.expansionTooDeep (tokenOf (stairName 64)) 64)) :=
  have short := (expansions_bounded (i := strongVerbs) .fresh).staircase stairName 63 "e"
    (staircase_stairSeeds 63)
  have long := (expansions_bounded (i := strongVerbs) .fresh).staircase stairName 64 "e"
    (staircase_stairSeeds 64)
  ⟨short.1 (Nat.le_refl 63), long.2 (Nat.le_refl 64)⟩

end Inventory

end Paradigm
