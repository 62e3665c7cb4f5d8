import Paradigm.Inventory
import Paradigm.Proofs.Result

/-!
# Inheritance

The ancestors of a category are found by going from parent to parent. Main statement: a category
resolves to the nearest rules along its ancestors, unless one is missing or there are too many.
-/

namespace Paradigm

namespace Grammar

/-- The category that a category inherits from; it need not exist. -/
def parent? (grammar : Grammar) (name : String) : Option String :=
  (grammar.get? name).bind (·.parent)

/-- The category that is found `n` steps up from another one; it need not exist. -/
def ancestor? (grammar : Grammar) (name : String) : Nat → Option String
  | 0 => some name
  | n + 1 => (grammar.ancestor? name n).bind grammar.parent?

/-- The categories that are found up to `n` steps up exist. -/
def Climbs (grammar : Grammar) (name : String) (n : Nat) : Prop :=
  ∀ k ≤ n, ∃ above, grammar.ancestor? name k = some above ∧ grammar.contains above

/-- The rules that a category itself has for a part. -/
def ownRules? (grammar : Grammar) (part name : String) : Option (List Rule) :=
  (grammar.get? name).bind (·.parts.get? part)

variable {grammar : Grammar} {name : String}

/-! ## Ancestors -/

theorem ancestor?_add (m n : Nat) :
    grammar.ancestor? name (m + n) = (grammar.ancestor? name m).bind (grammar.ancestor? · n) := by
  induction n with
  | zero => simp [ancestor?]
  | succ n ih =>
      rw [← Nat.add_assoc, ancestor?, ih, Option.bind_assoc]
      rfl

theorem ancestor?_succ {parent : String} (up : grammar.parent? name = some parent) (n : Nat) :
    grammar.ancestor? name (n + 1) = grammar.ancestor? parent n := by
  rw [Nat.add_comm, ancestor?_add, ancestor?, ancestor?, Option.bind_some, up, Option.bind_some]

/-- Where two ancestors are the same, so are those that are equally far above them. -/
theorem ancestor?_recurs {m n : Nat} (same : grammar.ancestor? name m = grammar.ancestor? name n)
    (d : Nat) : grammar.ancestor? name (m + d) = grammar.ancestor? name (n + d) := by
  rw [ancestor?_add, ancestor?_add, same]

theorem contains_of_parent? {parent : String} (up : grammar.parent? name = some parent) :
    grammar.contains name := by
  obtain ⟨category, known, _⟩ := Option.bind_eq_some_iff.mp up
  exact Option.isSome_of_eq_some known

theorem climbs_of_ancestors {n : Nat} (h : ∀ k ≤ n + 1, (grammar.ancestor? name k).isSome) :
    grammar.Climbs name n := by
  intro k le
  obtain ⟨next, up⟩ := Option.isSome_iff_exists.mp (h (k + 1) (by omega))
  obtain ⟨above, here, up⟩ := Option.bind_eq_some_iff.mp up
  exact ⟨above, here, contains_of_parent? up⟩

theorem Climbs.contains {n : Nat} (h : grammar.Climbs name n) : grammar.contains name := by
  obtain ⟨_, here, known⟩ := h 0 (Nat.zero_le n)
  cases here
  exact known

theorem Climbs.parent {n : Nat} (h : grammar.Climbs name (n + 1)) :
    ∃ parent, grammar.parent? name = some parent ∧ grammar.Climbs parent n := by
  obtain ⟨parent, up, _⟩ := h 1 (by omega)
  have up : grammar.parent? name = some parent := up
  refine ⟨parent, up, fun k le => ?_⟩
  rw [← ancestor?_succ up]
  exact h (k + 1) (by omega)

/-- A category that comes again above itself has ancestors without end. -/
theorem climbs_of_cycle {m n : Nat} {again : String} (less : m < n)
    (first : grammar.ancestor? name m = some again)
    (second : grammar.ancestor? name n = some again) (k : Nat) : grammar.Climbs name k := by
  refine climbs_of_ancestors fun k _ => ?_
  induction k using Nat.strongRecOn with
  | _ k ih =>
      rcases Nat.lt_or_ge n k with beyond | upTo
      · -- the same category stands one turn of the cycle further down
        have back := ancestor?_recurs (first.trans second.symm) (k - n)
        rw [Nat.add_sub_cancel' (Nat.le_of_lt beyond)] at back
        rw [← back]
        exact ih (m + (k - n)) (by omega) (by omega)
      · -- the way up to the second time passes here
        have split : grammar.ancestor? name (k + (n - k)) = _ := ancestor?_add k (n - k)
        rw [Nat.add_sub_cancel' upTo, second] at split
        obtain ⟨above, here, _⟩ := Option.bind_eq_some_iff.mp split.symm
        exact Option.isSome_of_eq_some here

/-- Some category upwards is the first without a parent that exists, unless all of them exist. -/
theorem climb_cases (grammar : Grammar) (name : String) (limit : Nat) :
    grammar.get? name = none ∨
      (∃ n < limit, ∃ last, grammar.Climbs name n ∧ grammar.ancestor? name n = some last ∧
        ∀ parent, grammar.parent? last = some parent → grammar.get? parent = none) ∨
      grammar.Climbs name limit := by
  rcases known : grammar.get? name with _ | category
  · exact .inl rfl
  refine .inr ?_
  induction limit with
  | zero =>
      refine .inr fun k le => ⟨name, ?_, Option.isSome_of_eq_some known⟩
      rw [Nat.le_zero.mp le, ancestor?]
  | succ limit ih =>
      rcases ih with ⟨n, less, stops⟩ | climbs
      · exact .inl ⟨n, by omega, stops⟩
      obtain ⟨last, here, _⟩ := climbs limit (Nat.le_refl limit)
      rcases up : grammar.parent? last with _ | parent
      · exact .inl ⟨limit, by omega, last, climbs, here, by simp [up]⟩
      rcases found : grammar.get? parent with _ | above
      · exact .inl ⟨limit, by omega, last, climbs, here, by simp [up, found]⟩
      refine .inr fun k le => ?_
      rcases Nat.lt_or_eq_of_le le with less | rfl
      · exact climbs k (by omega)
      · refine ⟨parent, ?_, Option.isSome_of_eq_some found⟩
        rw [ancestor?, here, Option.bind_some, up]

/-- Below a category that comes to an end, no category comes again. -/
theorem Climbs.distinct {n : Nat} (h : grammar.Climbs name n)
    (ends : grammar.ancestor? name (n + 1) = none) {j k : Nat} (less : j < k) (le : k ≤ n) :
    grammar.ancestor? name j ≠ grammar.ancestor? name k := by
  intro same
  obtain ⟨again, here, _⟩ := h k le
  obtain ⟨_, next, _⟩ := climbs_of_cycle less (same.trans here) here (n + 1) (n + 1) (Nat.le_refl _)
  cases ends.symm.trans next

end Grammar

namespace Inventory

variable {grammar : Grammar} {name : String} {category : Category}

/-! ## Going up -/

/-- The entries of a chain are categories under their own names. -/
def Entered (grammar : Grammar) (chain : List (String × Category)) : Prop :=
  ∀ p ∈ chain, grammar.get? p.1 = some p.2

/-- While ancestors exist, they are put in the chain one by one. -/
theorem ascend_climb (start : String) {n : Nat} (room : Nat)
    (known : grammar.get? name = some category) (h : grammar.Climbs name n) :
    ∃ below last top, grammar.ancestor? name n = some last ∧ grammar.get? last = some top ∧
      below.map (some ·.1) = (List.range n).map (grammar.ancestor? name) ∧
      Entered grammar below ∧
      ascend grammar start (n + room) name category =
        (ascend grammar start room last top).map (below ++ ·) := by
  induction n generalizing name category with
  | zero =>
      refine ⟨[], name, category, rfl, known, rfl, by simp [Entered], ?_⟩
      rw [Nat.zero_add]
      cases ascend grammar start room name category <;> rfl
  | succ n ih =>
      obtain ⟨parent, up, h⟩ := h.parent
      have inherits : category.parent = some parent := by simpa [Grammar.parent?, known] using up
      obtain ⟨above, found⟩ := Option.isSome_iff_exists.mp h.contains
      obtain ⟨below, last, top, here, found', names, entered, run⟩ := ih found h
      refine ⟨(name, category) :: below, last, top, ?_, found', ?_, ?_, ?_⟩
      · rw [Grammar.ancestor?_succ up, here]
      · rw [List.range_succ_eq_map, List.map_cons, List.map_cons, names, List.map_map]
        exact congrArg _ (List.map_congr_left fun k _ => (Grammar.ancestor?_succ up k).symm)
      · exact List.forall_mem_cons.mpr ⟨known, entered⟩
      · rw [Nat.succ_add, ascend]
        simp only [inherits, found, run]
        cases ascend grammar start room last top <;> rfl

/-- A chain that fits leaves the same with more room, whatever category it is asked for. -/
theorem ascend_mono {start other : String} {room room' : Nat} {chain : List (String × Category)}
    (le : room ≤ room') (h : ascend grammar start room name category = .ok chain) :
    ascend grammar other room' name category = .ok chain := by
  induction room generalizing room' name category chain with
  | zero => cases h
  | succ room ih =>
      obtain ⟨room', rfl⟩ : ∃ r, room' = r + 1 := ⟨room' - 1, by omega⟩
      rw [ascend] at h ⊢
      split at h
      · exact h
      · split at h
        · cases h
        · obtain ⟨tail, rest, rfl⟩ := of_map_ok h
          rw [ih (by omega) rest]
          rfl

/-! ## Rules along a chain -/

theorem Entered.get?_layParts {chain : List (String × Category)} (h : Entered grammar chain)
    (part : String) :
    (layParts chain).get? part = (chain.map (·.1)).findSome? (grammar.ownRules? part) := by
  induction chain with
  | nil => rfl
  | cons p above ih =>
      obtain ⟨known, h⟩ := List.forall_mem_cons.mp h
      have own : grammar.ownRules? part p.1 = p.2.parts.get? part := by
        rw [Grammar.ownRules?, known, Option.bind_some]
      rw [layParts, SortedMap.get?_orElse, ih h, List.map_cons, List.findSome?_cons, own]
      cases p.2.parts.get? part <;> rfl

/-! ## Resolving -/

/-- The error of a category that does not resolve. -/
def unresolved (name : String) (fault : Fault) : Error := { fault, category := some name }

/-- The inventory of a category with a chain, or its error. -/
def ofChain (name : String) : Except Fault (List (String × Category)) → Except Error Inventory
  | .error fault => .error (unresolved name fault)
  | .ok chain => .ok ⟨name, chain.map (·.1), layParts chain⟩

theorem resolve_eq_ofChain (known : grammar.get? name = some category) :
    resolve grammar name = ofChain name (ascend grammar name chainLimit name category) := by
  rw [resolve]
  simp only [known]
  cases ascend grammar name chainLimit name category <;> rfl

theorem resolve_absent (absent : grammar.get? name = none) :
    resolve grammar name = .error (unresolved name (.unknownCategory name none)) := by
  rw [resolve]
  simp only [absent]
  rfl

theorem resolve_tooDeep (climbs : grammar.Climbs name chainLimit) :
    resolve grammar name = .error (unresolved name (.inheritanceTooDeep name chainLimit)) := by
  obtain ⟨category, known⟩ := Option.isSome_iff_exists.mp climbs.contains
  obtain ⟨_, _, _, _, _, _, _, run⟩ := ascend_climb name 0 known climbs
  rw [resolve_eq_ofChain known, ← Nat.add_zero chainLimit, run]
  rfl

section

variable {n : Nat} {last : String} (less : n < chainLimit) (climbs : grammar.Climbs name n)
  (here : grammar.ancestor? name n = some last)

include less climbs here

theorem resolve_climb : ∃ below top room, grammar.get? last = some top ∧
    below.map (some ·.1) = (List.range n).map (grammar.ancestor? name) ∧ Entered grammar below ∧
    resolve grammar name =
      ofChain name ((ascend grammar name (room + 1) last top).map (below ++ ·)) := by
  obtain ⟨category, known⟩ := Option.isSome_iff_exists.mp climbs.contains
  obtain ⟨room, split⟩ : ∃ room, chainLimit = n + (room + 1) := ⟨chainLimit - n - 1, by omega⟩
  obtain ⟨below, _, top, here', found, names, entered, run⟩ :=
    ascend_climb name (room + 1) known climbs
  cases here.symm.trans here'
  exact ⟨below, top, room, found, names, entered, by rw [resolve_eq_ofChain known, split, run]⟩

theorem resolve_dangling {missing : String} (up : grammar.parent? last = some missing)
    (absent : grammar.get? missing = none) :
    resolve grammar name = .error (unresolved name (.unknownCategory missing (some last))) := by
  obtain ⟨below, top, room, found, _, _, run⟩ := resolve_climb less climbs here
  have inherits : top.parent = some missing := by simpa [Grammar.parent?, found] using up
  rw [run, ascend]
  simp only [inherits, absent]
  rfl

theorem resolve_ended (ends : grammar.parent? last = none) :
    ∃ chain, resolve grammar name = ofChain name (.ok chain) ∧
      chain.map (some ·.1) = (List.range (n + 1)).map (grammar.ancestor? name) ∧
      Entered grammar chain := by
  obtain ⟨below, top, room, found, names, entered, run⟩ := resolve_climb less climbs here
  have alone : top.parent = none := by simpa [Grammar.parent?, found] using ends
  refine ⟨below ++ [(last, top)], ?_, ?_, ?_⟩
  · rw [run, ascend]
    simp only [alone]
    rfl
  · rw [List.range_succ, List.map_append, List.map_append, names, List.map_singleton,
      List.map_singleton, here]
  · exact List.forall_mem_append.mpr ⟨entered, List.forall_mem_singleton.mpr found⟩

end

/-- What is known of a category that resolves: its chain has at most `chainLimit` categories, each
once; a part has the rules of the first category in the chain that has some; and the rules of its
parent, which resolves too, lie below its own. -/
structure Inherits (grammar : Grammar) (name : String) (i : Inventory) : Prop where
  category : i.category = name
  bounded : i.chain.length ≤ chainLimit
  distinct : i.chain.Nodup
  nearest : ∀ part, i.rules? part = i.chain.findSome? (grammar.ownRules? part)
  sorted : i.partNames.Pairwise (· < ·)
  partNames : ∀ part, part ∈ i.partNames ↔ ∃ c ∈ i.chain, (grammar.ownRules? part c).isSome
  above : ∀ parent, grammar.parent? name = some parent →
    ∃ above, resolve grammar parent = .ok above ∧ i.chain = name :: above.chain ∧
      ∀ part, i.rules? part = (grammar.ownRules? part name).or (above.rules? part)

/-- What resolving a category comes to, by its ancestors: they are counted from the category itself,
and only the first `chainLimit` of them are looked at. -/
structure Resolution (grammar : Grammar) (name : String) (outcome : Except Error Inventory) :
    Prop where
  absent : grammar.get? name = none →
    outcome = .error (unresolved name (.unknownCategory name none))
  ended : ∀ n < chainLimit, ∀ last, grammar.Climbs name n →
    grammar.ancestor? name n = some last → grammar.parent? last = none →
    ∃ i, outcome = .ok i ∧
      i.chain.map some = (List.range (n + 1)).map (grammar.ancestor? name)
  dangling : ∀ n < chainLimit, ∀ last missing, grammar.Climbs name n →
    grammar.ancestor? name n = some last → grammar.parent? last = some missing →
    grammar.get? missing = none →
    outcome = .error (unresolved name (.unknownCategory missing (some last)))
  tooDeep : grammar.Climbs name chainLimit →
    outcome = .error (unresolved name (.inheritanceTooDeep name chainLimit))
  cyclic : ∀ m n again, m < n → grammar.ancestor? name m = some again →
    grammar.ancestor? name n = some again →
    outcome = .error (unresolved name (.inheritanceTooDeep name chainLimit))
  inherits : ∀ i, outcome = .ok i → Inherits grammar name i

theorem resolve_parent {i : Inventory} {parent : String} (h : resolve grammar name = .ok i)
    (up : grammar.parent? name = some parent) :
    ∃ above, resolve grammar parent = .ok above ∧ i.chain = name :: above.chain ∧
      ∀ part, i.rules? part = (grammar.ownRules? part name).or (above.rules? part) := by
  obtain ⟨category, known, inherits⟩ := Option.bind_eq_some_iff.mp up
  rw [resolve_eq_ofChain known] at h
  cases ascended : ascend grammar name chainLimit name category with
  | error fault =>
      rw [ascended] at h
      cases h
  | ok chain =>
      rw [ascended] at h
      cases h
      rw [chainLimit, ascend] at ascended
      simp only [inherits] at ascended
      split at ascended
      · cases ascended
      · rename_i next found
        obtain ⟨tail, rest, rfl⟩ := of_map_ok ascended
        have whole : ascend grammar parent chainLimit parent next = .ok tail :=
          ascend_mono (by decide) rest
        refine ⟨⟨parent, tail.map (·.1), layParts tail⟩, ?_, rfl, fun part => ?_⟩
        · rw [resolve_eq_ofChain found, whole]
          rfl
        · rw [Grammar.ownRules?, known]
          exact SortedMap.get?_orElse ..

theorem inherits_of_resolve {i : Inventory} (h : resolve grammar name = .ok i) :
    Inherits grammar name i := by
  rcases grammar.climb_cases name chainLimit with
    absent | ⟨n, less, last, climbs, here, stops⟩ | climbs
  · cases (resolve_absent absent).symm.trans h
  · rcases up : grammar.parent? last with _ | missing
    · obtain ⟨chain, run, names, entered⟩ := resolve_ended less climbs here up
      cases run.symm.trans h
      have ends : grammar.ancestor? name (n + 1) = none := by
        rw [Grammar.ancestor?, here, Option.bind_some, up]
      have length : (chain.map (some ·.1)).length = n + 1 := by rw [names]; simp
      have nearest := fun part => entered.get?_layParts part
      constructor
      case category => rfl
      case bounded =>
        simp only [List.length_map] at length ⊢
        omega
      case distinct =>
        have apart : (chain.map (some ·.1)).Pairwise (· ≠ ·) := by
          refine names ▸ List.pairwise_map.mpr (List.pairwise_lt_range.imp_of_mem ?_)
          intro j k _ inside less
          exact climbs.distinct ends less (Nat.le_of_lt_succ (List.mem_range.mp inside))
        exact List.pairwise_map.mpr
          ((List.pairwise_map.mp apart).imp fun ne same => ne (congrArg some same))
      case nearest => exact nearest
      case sorted => exact SortedMap.keys_pairwise_lt _
      case partNames =>
        intro part
        rw [partNames, SortedMap.mem_keys_iff, nearest, List.findSome?_isSome_iff]
      case above => exact fun parent => resolve_parent h
    · cases (resolve_dangling less climbs here up (stops missing up)).symm.trans h
  · cases (resolve_tooDeep climbs).symm.trans h

/-- Resolving follows the parents of a category as far as the chain limit allows. -/
theorem resolve_follows_ancestors (grammar : Grammar) (name : String) :
    Resolution grammar name (resolve grammar name) where
  absent := resolve_absent
  ended n less last climbs here ends := by
    obtain ⟨chain, run, names, _⟩ := resolve_ended less climbs here ends
    refine ⟨_, run, ?_⟩
    rw [← names, List.map_map]
    rfl
  dangling n less last missing climbs here up absent := resolve_dangling less climbs here up absent
  tooDeep := resolve_tooDeep
  cyclic m n again less first second :=
    resolve_tooDeep (Grammar.climbs_of_cycle less first second chainLimit)
  inherits _ := inherits_of_resolve

end Inventory

end Paradigm
