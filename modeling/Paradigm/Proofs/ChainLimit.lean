import Paradigm.Proofs.Inheritance

/-!
# The limit of inheritance

A category whose chain is too long is refused, and the error says that it has more parents than the
limit. Main statement: this is so but for one number of parents. A category with exactly as many
parents as the limit is refused too; with fewer parents, and an end, every category resolves.
-/

namespace Paradigm

namespace Grammar

variable {grammar : Grammar} {name : String}

/-- Going up from a category passes `n` parents that exist, and then no other one. -/
structure HasParents (grammar : Grammar) (name : String) (n : Nat) : Prop where
  climbs : grammar.Climbs name n
  stops : ¬ grammar.Climbs name (n + 1)

theorem climbs_iff {n : Nat} :
    grammar.Climbs name n ↔ ∀ k ≤ n, (grammar.ancestor? name k).any grammar.contains = true := by
  simp only [Climbs, Option.any_eq_true]

instance (n : Nat) : Decidable (grammar.Climbs name n) := decidable_of_iff' _ climbs_iff

instance (n : Nat) : Decidable (grammar.HasParents name n) :=
  decidable_of_iff (grammar.Climbs name n ∧ ¬ grammar.Climbs name (n + 1))
    ⟨fun ⟨climbs, stops⟩ => ⟨climbs, stops⟩, fun h => ⟨h.climbs, h.stops⟩⟩

theorem climbs_succ_or_hasParents {n : Nat} (climbs : grammar.Climbs name n) :
    grammar.Climbs name (n + 1) ∨ grammar.HasParents name n := by
  by_cases more : grammar.Climbs name (n + 1)
  · exact Or.inl more
  · exact Or.inr ⟨climbs, more⟩

/-- The last category on a way that ends has no parent. -/
theorem exists_last_of_ends {n : Nat} (climbs : grammar.Climbs name n)
    (ends : grammar.ancestor? name (n + 1) = none) :
    ∃ last, grammar.ancestor? name n = some last ∧ grammar.parent? last = none := by
  obtain ⟨last, here, _⟩ := climbs n (Nat.le_refl n)
  refine ⟨last, here, ?_⟩
  simpa [ancestor?, here] using ends

end Grammar

namespace Inventory

variable {grammar : Grammar} {name : String}

/-- Resolving fails for the length of the chain of `start`, of which the error says that it has more
parents than `limit`. -/
def RefusedAsTooDeep (outcome : Except Error Inventory) (start : String) (limit : Nat) : Prop :=
  ∃ e, outcome = .error e ∧ e.fault = .inheritanceTooDeep start limit

theorem refusedAsTooDeep_iff {start : String} {limit : Nat} :
    RefusedAsTooDeep (resolve grammar name) start limit ↔
      start = name ∧ limit = chainLimit ∧ grammar.Climbs name chainLimit := by
  constructor
  · rintro ⟨e, refused, fault⟩
    rcases grammar.climb_cases name chainLimit with
      absent | ⟨n, less, last, climbs, here, stops⟩ | climbs
    · cases (resolve_absent absent).symm.trans refused
      cases fault
    · cases up : grammar.parent? last with
      | none =>
          obtain ⟨chain, resolved, _⟩ := resolve_ended less climbs here up
          cases resolved.symm.trans refused
      | some missing =>
          cases (resolve_dangling less climbs here up (stops missing up)).symm.trans refused
          cases fault
    · cases (resolve_tooDeep climbs).symm.trans refused
      cases fault
      exact ⟨rfl, rfl, climbs⟩
  · rintro ⟨rfl, rfl, climbs⟩
    exact ⟨_, resolve_tooDeep climbs, rfl⟩

/-- What the limit means. Chains are refused for their length where at least `chainLimit` parents
exist, a parent counting as often as it is passed. So the error is right, also about a chain that
comes back to a category, unless there are exactly as many parents as it says that there are more of.
A chain with fewer parents that ends resolves to all its categories. -/
structure Limited (grammar : Grammar) (name : String) (outcome : Except Error Inventory) : Prop where
  refused_iff : ∀ start limit, RefusedAsTooDeep outcome start limit ↔
    start = name ∧ limit = chainLimit ∧ grammar.Climbs name chainLimit
  honest : ∀ start limit, RefusedAsTooDeep outcome start limit →
    ¬ grammar.HasParents start limit → grammar.Climbs start (limit + 1)
  cyclic : ∀ m n again, m < n → grammar.ancestor? name m = some again →
    grammar.ancestor? name n = some again →
    RefusedAsTooDeep outcome name chainLimit ∧ grammar.Climbs name (chainLimit + 1)
  flattened : ∀ n < chainLimit, grammar.Climbs name n → grammar.ancestor? name (n + 1) = none →
    ∃ i, outcome = .ok i ∧ i.chain.length = n + 1

/-- The error for chains that are too long is right about all categories but those with exactly as
many parents as the limit. -/
theorem resolve_limited (grammar : Grammar) (name : String) :
    Limited grammar name (resolve grammar name) := by
  constructor
  case refused_iff =>
    intro start limit
    exact refusedAsTooDeep_iff
  case honest =>
    intro start limit refused other
    obtain ⟨rfl, rfl, climbs⟩ := refusedAsTooDeep_iff.mp refused
    cases Grammar.climbs_succ_or_hasParents climbs with
    | inl more => exact more
    | inr only => exact absurd only other
  case cyclic =>
    intro m n again less first second
    have climbs := Grammar.climbs_of_cycle less first second
    exact ⟨refusedAsTooDeep_iff.mpr ⟨rfl, rfl, climbs chainLimit⟩, climbs (chainLimit + 1)⟩
  case flattened =>
    intro n less climbs ends
    obtain ⟨last, here, up⟩ := Grammar.exists_last_of_ends climbs ends
    obtain ⟨chain, resolved, names, _⟩ := resolve_ended less climbs here up
    refine ⟨_, resolved, ?_⟩
    simpa using congrArg List.length names

def rung (k : Nat) : String := "c" ++ toString k

/-- Categories without rules, each of which inherits from the one with the next lower number. -/
def ladder (steps : Nat) : Repository :=
  .ofList ((List.range (steps + 1)).map fun k =>
    (rung k, { parent := if k = 0 then none else some (rung (k - 1)) }))

/-- The compiled ladder with as many steps as the limit. -/
def longLadder : Grammar := (Grammar.compile (ladder chainLimit)).toOption.getD .empty

/-- At the limit the error is wrong: there are 20 parents, and no more. -/
theorem exists_refused_with_limit_parents :
    ∃ repository grammar e, Grammar.compile repository = .ok grammar ∧
      resolve grammar "c20" = .error e ∧ e.fault = .inheritanceTooDeep "c20" 20 ∧
      e.message = "category 'c20': probable inheritance loop expanding rules for 'c20' " ++
        "(more than 20 parents)" ∧
      grammar.HasParents "c20" 20 ∧ grammar.ancestor? "c20" 21 = none := by
  have compiled : Grammar.compile (ladder chainLimit) = .ok longLadder :=
    eq_ok_getD (by decide +kernel) _
  have only : longLadder.HasParents "c20" 20 := by decide +kernel
  have ends : longLadder.ancestor? "c20" 21 = none := by decide +kernel
  exact ⟨_, _, _, compiled, resolve_tooDeep only.climbs, rfl, by decide +kernel, only, ends⟩

end Inventory

end Paradigm
