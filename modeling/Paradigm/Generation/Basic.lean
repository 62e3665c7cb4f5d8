import Paradigm.Generation.Evaluation
import Paradigm.Generation.Fuel
import Paradigm.Generation.Trail

/-!
# Generation

The forms of a part are what its rules yield, sorted and without repetition. Each part is computed
at most once in a session, and a part that needs itself is an error.
-/

namespace Paradigm

/-- A computation that goes on with the session also where it fails. -/
abbrev Inflecting := Halting Session

/-- The parts from `part` on, and `part` again. -/
def cycleOf (part : String) (trail : List String) : List String :=
  trail.dropWhile (· != part) ++ [part]

namespace Inventory

/-- An error of the category, met below the parts of a trail. -/
def refusal (i : Inventory) (trail : List String) (fault : Fault) : Halt :=
  .failed { fault, category := some i.category, trail }

/-- What rules may do while `trail` is being computed, other parts being asked of `forms`. -/
def demand (i : Inventory) (trail : List String) (forms : String → Inflecting (List String)) :
    Demand Inflecting where
  forms := forms
  refuse fault := throw (i.refusal trail fault)
  giveUp := throw .outOfFuel
  settle := Halting.settle
  countExpansion := modify Session.countExpansion
  countMatch := modify Session.countMatch

/-- The forms of a part that is asked for below a trail. What is known is recalled; else the rules
of the part are followed, the part being added to the trail, and what they yield is kept. A part of
the trail itself is refused, and one that has no rules. -/
def generate (i : Inventory) (trail : Trail i) (part : String) : Inflecting (List String) := do
  match (← get).memo.get? part with
  | some forms =>
    modify Session.countRecall
    return forms
  | none =>
    if begun : part ∈ trail.parts then
      throw (i.refusal trail.parts (.cyclicReference (cycleOf part trail.parts)))
    else
      match ruled : i.rules? part with
      | none => throw (i.refusal trail.parts (.unknownPart part))
      | some rules =>
        let slot := (← get).stats.computed.length
        modify (·.begin part trail.parts.length rules.length)
        let below := trail.extend part begun ruled
        let results ← (i.demand below.parts (generate i below)).rules rules
        let forms := distinctForms results
        modify (·.finish part slot forms)
        return forms
termination_by trail.room
decreasing_by exact trail.room_extend ..

/-- What the rules of the last part of a trail may do. -/
abbrev demandAt (i : Inventory) (trail : Trail i) : Demand Inflecting :=
  i.demand trail.parts (i.generate trail)

/-! ## How requests are answered -/

section

variable {i : Inventory} {trail : Trail i} {part : String} {s : Session}

theorem generate_of_known {forms : List String} (known : s.memo.get? part = some forms) :
    (i.generate trail part).outcome s = (.ok forms, s.countRecall) := by
  rw [generate, Halting.outcome_bind]
  simp [known, Halting.outcome_map, Except.map]

theorem generate_of_begun (unknown : s.memo.get? part = none) (begun : part ∈ trail.parts) :
    (i.generate trail part).outcome s =
      (.error (i.refusal trail.parts (.cyclicReference (cycleOf part trail.parts))), s) := by
  rw [generate, Halting.outcome_bind]
  simp [unknown, begun]

theorem generate_of_unruled (unknown : s.memo.get? part = none) (fresh : part ∉ trail.parts)
    (unruled : i.rules? part = none) :
    (i.generate trail part).outcome s =
      (.error (i.refusal trail.parts (.unknownPart part)), s) := by
  rw [generate, Halting.outcome_bind]
  simp only [Halting.outcome_get, unknown, fresh, ↓reduceDIte]
  split
  · rfl
  · simp_all

theorem generate_of_ruled {rules : List Rule} (unknown : s.memo.get? part = none)
    (fresh : part ∉ trail.parts) (ruled : i.rules? part = some rules) :
    (i.generate trail part).outcome s =
      match ((i.demandAt (trail.extend part fresh ruled)).rules rules).outcome
          (s.begin part trail.parts.length rules.length) with
      | (.ok results, s') =>
        (.ok (distinctForms results),
          s'.finish part s.stats.computed.length (distinctForms results))
      | (.error halt, s') => (.error halt, s') := by
  rw [generate, Halting.outcome_bind]
  simp only [Halting.outcome_get, unknown, fresh, ↓reduceDIte]
  split
  · simp_all
  · rename_i rules' ruled'
    obtain rfl : rules = rules' := Option.some.inj (ruled.symm.trans ruled')
    simp only [Halting.outcome_bind, Halting.outcome_get, Halting.outcome_modify,
      Halting.outcome_pure]
    rcases Halting.outcome _ (s.begin part trail.parts.length rules.length) with ⟨_ | _, _⟩ <;> rfl

/-- How a request for a part is answered: it is known, or it needs itself, or it has no rules, or
its rules yield forms, or they halt. -/
inductive Answer (i : Inventory) (trail : Trail i) (part : String) (s : Session) :
    Except Halt (List String) × Session → Prop where
  | known {forms : List String} (known : s.memo.get? part = some forms) :
    Answer i trail part s (.ok forms, s.countRecall)
  | begun (unknown : s.memo.get? part = none) (begun : part ∈ trail.parts) :
    Answer i trail part s
      (.error (i.refusal trail.parts (.cyclicReference (cycleOf part trail.parts))), s)
  | unruled (unknown : s.memo.get? part = none) (fresh : part ∉ trail.parts)
    (unruled : i.rules? part = none) :
    Answer i trail part s (.error (i.refusal trail.parts (.unknownPart part)), s)
  | yielded {rules : List Rule} {results : List String} {s' : Session}
    (unknown : s.memo.get? part = none) (fresh : part ∉ trail.parts)
    (ruled : i.rules? part = some rules)
    (outcome : ((i.demandAt (trail.extend part fresh ruled)).rules rules).outcome
      (s.begin part trail.parts.length rules.length) = (.ok results, s')) :
    Answer i trail part s (.ok (distinctForms results),
      s'.finish part s.stats.computed.length (distinctForms results))
  | halted {rules : List Rule} {halt : Halt} {s' : Session}
    (unknown : s.memo.get? part = none) (fresh : part ∉ trail.parts)
    (ruled : i.rules? part = some rules)
    (outcome : ((i.demandAt (trail.extend part fresh ruled)).rules rules).outcome
      (s.begin part trail.parts.length rules.length) = (.error halt, s')) :
    Answer i trail part s (.error halt, s')

theorem generate_answer (i : Inventory) (trail : Trail i) (part : String) (s : Session) :
    i.Answer trail part s ((i.generate trail part).outcome s) := by
  rcases known : s.memo.get? part with _ | forms
  · by_cases begun : part ∈ trail.parts
    · rw [generate_of_begun known begun]
      exact .begun known begun
    rcases ruled : i.rules? part with _ | rules
    · rw [generate_of_unruled known begun ruled]
      exact .unruled known begun ruled
    · rw [generate_of_ruled known begun ruled]
      rcases outcome : Halting.outcome _ (s.begin part trail.parts.length rules.length) with
        ⟨halt | results, s'⟩
      · exact .halted known begun ruled outcome
      · exact .yielded known begun ruled outcome
  · rw [generate_of_known known]
    exact .known known

end

/-- Generates a part that no other part asks for. -/
def ask (i : Inventory) (part : String) : Inflecting (List String) := i.generate .empty part

/-- Asks for parts in order, up to the first that fails. -/
def askAll (i : Inventory) : List String → Inflecting (List (String × List String))
  | [] => return []
  | part :: rest => do
    let forms ← i.ask part
    return (part, forms) :: (← askAll i rest)

end Inventory

/-! ## One headword -/

/-- An inventory with a session. -/
structure Inflector where
  inventory : Inventory
  session : Session

namespace Inflector

/-- An inflector that has not been asked yet, some parts being given. -/
def fresh (inventory : Inventory) (seeds : List (String × String)) : Inflector :=
  ⟨inventory, .seeded seeds⟩

/-- Resolves the category of a grammar whose parts will be asked for. -/
def create (grammar : Grammar) (category : String) (seeds : List (String × String)) :
    Except Error Inflector :=
  (Inventory.resolve grammar category).map (fresh · seeds)

/-- Carries out a computation on the session, which stays as it was left, also by a failure. -/
def perform {α : Type} (f : Inflector) (action : Inventory → Inflecting α) :
    Except Halt α × Inflector :=
  let (outcome, session) := (action f.inventory).outcome f.session
  (outcome, { f with session })

/-- A request for one part, and the inflector that answers the next one. -/
def generate (f : Inflector) (part : String) : Except Halt (List String) × Inflector :=
  f.perform (·.ask part)

/-- The part is given or has been computed. -/
def isResolved (f : Inflector) (part : String) : Bool := f.session.memo.contains part

end Inflector

/-- What a run has generated for a category, and the work that was done. -/
structure GenerationReport where
  category : String
  chain : List String
  forms : SortedMap (List String)
  stats : Stats

/-- A run for one headword: parts are asked for in order, in one session. -/
def generateReport (grammar : Grammar) (category : String) (seeds : List (String × String))
    (parts : List String) : Except Halt GenerationReport :=
  match Inflector.create grammar category seeds with
  | .error e => .error (.failed e)
  | .ok f =>
    let (outcome, f) := f.perform (·.askAll parts)
    outcome.map fun forms =>
      { category := f.inventory.category
        chain := f.inventory.chain
        forms := .ofList forms
        stats := f.session.stats }

/-- The forms of a run, without its counts. -/
def generateForms (grammar : Grammar) (category : String) (seeds : List (String × String))
    (parts : List String) : Except Halt (SortedMap (List String)) :=
  (generateReport grammar category seeds parts).map (·.forms)

end Paradigm
