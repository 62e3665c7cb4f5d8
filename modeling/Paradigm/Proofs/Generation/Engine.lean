import Paradigm.Proofs.Generation.Refusals

/-!
# A session at work

Generation with all that changes while it is done: the parts that are being computed stand on a
stack, which is pushed to and popped from, requests are noted as they are made, and each call is
written down when it is over, with what it found and what it left behind. Main statement: the calls
come to what requests below a trail come to, and leave the same session and stack.
-/

namespace Paradigm

/-- A session, the parts that are being computed, the outermost first, and the requests so far. -/
structure Engine where
  session : Session
  stack : List String := []
  asked : List String := []

/-- A call that is over: the part that was asked for, the engine before, what the call came to, and
the engine after. -/
structure Call where
  part : String
  before : Engine
  outcome : Except Halt (List String)
  after : Engine

/-- An engine and the calls that are over, in the order in which they ended. -/
structure Run extends Engine where
  calls : List Call := []

namespace Run

def update (m : Run) (f : Session → Session) : Run := { m with session := f m.session }

def ask (m : Run) (part : String) : Run := { m with asked := m.asked ++ [part] }

/-- Begins to compute a part. -/
def enter (m : Run) (part : String) (rules : Nat) : Run :=
  { m with session := m.session.begin part m.stack.length rules, stack := m.stack ++ [part] }

/-- Turns back to the part that asked. -/
def leave (m : Run) : Run := { m with stack := m.stack.dropLast }

def log (m : Run) (c : Call) : Run := { m with calls := m.calls ++ [c] }

end Run

namespace Halting

variable {σ α : Type}

/-- What a computation ends with, as a value. -/
def observe (x : Halting σ α) : Halting σ (Except Halt α) := fun s =>
  (.ok (x.outcome s).1, (x.outcome s).2)

theorem outcome_observe (x : Halting σ α) (s : σ) :
    (observe x).outcome s = (.ok (x.outcome s).1, (x.outcome s).2) := rfl

end Halting

namespace Inventory

open Halting

/-- What rules may do while the parts on the stack are being computed. -/
def engineDemand (i : Inventory) (forms : String → Halting Run (List String)) :
    Demand (Halting Run) where
  forms := forms
  refuse fault := do throw (i.refusal (← get).stack fault)
  giveUp := throw .outOfFuel
  settle := Halting.settle
  countExpansion := modify (·.update Session.countExpansion)
  countMatch := modify (·.update Session.countMatch)

/-- The answer to a request, other parts being asked of `forms`. A part leaves the stack before it
is known whether its rules yielded anything. -/
def answer (i : Inventory) (forms : String → Halting Run (List String)) (part : String) :
    Halting Run (List String) := do
  let m ← get
  match m.session.memo.get? part with
  | some forms =>
    modify (·.update Session.countRecall)
    return forms
  | none =>
    if part ∈ m.stack then
      throw (i.refusal m.stack (.cyclicReference (cycleOf part m.stack)))
    else
      match i.rules? part with
      | none => throw (i.refusal m.stack (.unknownPart part))
      | some rules =>
        modify (·.enter part rules.length)
        let result ← observe ((i.engineDemand forms).rules rules)
        modify (·.leave)
        match result with
        | .error halt => throw halt
        | .ok results =>
          let forms := distinctForms results
          modify (·.update (·.finish part m.session.stats.computed.length forms))
          return forms

/-- Notes the request and writes down the call. -/
def logged (part : String) (x : Halting Run (List String)) : Halting Run (List String) := fun m =>
  let (result, m') := x.outcome (m.ask part)
  (result, m'.log ⟨part, m.toEngine, result, m'.toEngine⟩)

/-- A call for a part, if there is room for another part on the stack. -/
def call (i : Inventory) : (room : Nat) → String → Halting Run (List String)
  | 0, _ => throw .outOfFuel
  | room + 1, part => logged part (i.answer (call i room) part)

/-- Calls for parts, one after the other, whether they come to an answer or fail. -/
def callAll (i : Inventory) (m : Run) (history : List String) : Run :=
  history.foldl (fun m part => ((i.call (i.partNames.length + 1) part).outcome m).2) m

/-- What a new engine does when it is asked for parts. -/
def run (i : Inventory) (seeds : List (String × String)) (history : List String) : Run :=
  i.callAll { session := .seeded seeds } history

/-! ## How calls are answered -/

section

variable {i : Inventory} {forms : String → Halting Run (List String)} {part : String} {m : Run}

theorem outcome_call (i : Inventory) (room : Nat) (part : String) (m : Run) :
    (i.call (room + 1) part).outcome m =
      let r := (i.answer (i.call room) part).outcome (m.ask part)
      (r.1, r.2.log ⟨part, m.toEngine, r.1, r.2.toEngine⟩) := rfl

theorem answer_of_known {found : List String} (known : m.session.memo.get? part = some found) :
    (i.answer forms part).outcome m = (.ok found, m.update Session.countRecall) := by
  rw [answer, outcome_bind]
  simp [known, outcome_map, Except.map]

theorem answer_of_begun (unknown : m.session.memo.get? part = none) (begun : part ∈ m.stack) :
    (i.answer forms part).outcome m =
      (.error (i.refusal m.stack (.cyclicReference (cycleOf part m.stack))), m) := by
  rw [answer, outcome_bind]
  simp [unknown, begun]

theorem answer_of_unruled (unknown : m.session.memo.get? part = none) (fresh : part ∉ m.stack)
    (unruled : i.rules? part = none) :
    (i.answer forms part).outcome m = (.error (i.refusal m.stack (.unknownPart part)), m) := by
  rw [answer, outcome_bind]
  simp [unknown, fresh, unruled]

theorem answer_of_ruled {rules : List Rule} (unknown : m.session.memo.get? part = none)
    (fresh : part ∉ m.stack) (ruled : i.rules? part = some rules) :
    (i.answer forms part).outcome m =
      match ((i.engineDemand forms).rules rules).outcome (m.enter part rules.length) with
      | (.ok results, m') =>
        (.ok (distinctForms results), m'.leave.update
          (·.finish part m.session.stats.computed.length (distinctForms results)))
      | (.error halt, m') => (.error halt, m'.leave) := by
  rw [answer, outcome_bind]
  simp only [outcome_get, unknown, fresh, ruled, ↓reduceIte, outcome_bind, outcome_modify,
    outcome_observe]
  rcases outcome _ (m.enter part rules.length) with ⟨halt | results, m'⟩ <;> rfl

end

/-! ## Calls and requests below a trail -/

variable {i : Inventory} {trail : Trail i}

theorem room_empty_lt (i : Inventory) : (Trail.empty : Trail i).room < i.partNames.length + 1 :=
  Nat.lt_succ_of_le (Nat.sub_le _ _)

/-- Where there is room for a part on the stack, one place less is enough below it. -/
theorem room_extend_lt {room : Nat} (enough : trail.room < room + 1) {part : String}
    (fresh : part ∉ trail.parts) {rules : List Rule} (ruled : i.rules? part = some rules) :
    (trail.extend part fresh ruled).room < room :=
  Nat.lt_of_lt_of_le (trail.room_extend part fresh ruled) (Nat.le_of_lt_succ enough)

/-- With the parts of a trail on the stack, the second computation comes to what the first one comes
to, and leaves the same session and the stack as it was. -/
def Mirrors (trail : Trail i) {α : Type} (x : Inflecting α) (y : Halting Run α) : Prop :=
  ∀ m : Run, m.stack = trail.parts → (y.outcome m).1 = (x.outcome m.session).1 ∧
    (y.outcome m).2.session = (x.outcome m.session).2 ∧ (y.outcome m).2.stack = trail.parts

theorem Mirrors.bind {α β : Type} {x : Inflecting α} {y : Halting Run α} {f : α → Inflecting β}
    {g : α → Halting Run β} (h : Mirrors trail x y) (h' : ∀ a, Mirrors trail (f a) (g a)) :
    Mirrors trail (x >>= f) (y >>= g) := by
  intro m at_trail
  obtain ⟨same, session, stack⟩ := h m at_trail
  rw [outcome_bind, outcome_bind]
  generalize x.outcome m.session = r at same session ⊢
  generalize y.outcome m = r' at same session stack ⊢
  rcases r with ⟨r, s⟩
  rcases r' with ⟨r', m'⟩
  cases same
  cases session
  cases r with
  | error halt => exact ⟨rfl, rfl, stack⟩
  | ok a => exact h' a m' stack

theorem Mirrors.settle {α : Type} {x : Nat → Inflecting α} {y : Nat → Halting Run α}
    (h : ∀ fuel, Mirrors trail (x fuel) (y fuel)) :
    Mirrors trail (Halting.settle x) (Halting.settle y) := by
  intro m at_trail
  rw [outcome_settle, outcome_settle]
  let P (r' : Except Halt α × Run) (r : Except Halt α × Session) : Prop :=
    r'.1 = r.1 ∧ r'.2.session = r.2 ∧ r'.2.stack = trail.parts
  have same : ∀ fuel, P ((y fuel).outcome m) ((x fuel).outcome m.session) := fun fuel =>
    h fuel m at_trail
  exact Fuel.settle_related (fun fuel => by rw [(same fuel).1]) same

theorem mirrors_demand {forms : String → Halting Run (List String)}
    (h : ∀ part, Mirrors trail (i.generate trail part) (forms part)) :
    Demand.Related (fun _ x y => Mirrors trail x (y ())) (i.demandAt trail)
      fun _ : Unit => i.engineDemand forms where
  pure _ _ at_trail := ⟨rfl, rfl, at_trail⟩
  bind := .bind
  forms := h
  refuse fault m at_trail := by
    refine ⟨?_, rfl, at_trail⟩
    show Except.error (i.refusal m.stack fault) = .error (i.refusal trail.parts fault)
    rw [at_trail]
  giveUp _ at_trail := ⟨rfl, rfl, at_trail⟩
  expand _ := .settle
  countExpansion _ at_trail := ⟨rfl, rfl, at_trail⟩
  countMatch _ at_trail := ⟨rfl, rfl, at_trail⟩

theorem mirrors_answer {forms : String → Halting Run (List String)} (part : String)
    (below : ∀ fresh rules (ruled : i.rules? part = some rules) other,
      let inner := trail.extend part fresh ruled
      Mirrors inner (i.generate inner other) (forms other)) :
    Mirrors trail (i.generate trail part) (i.answer forms part) := by
  intro m at_trail
  rcases known : m.session.memo.get? part with _ | found
  · by_cases begun : part ∈ m.stack
    · rw [generate_of_begun known (at_trail ▸ begun), answer_of_begun known begun, at_trail]
      exact ⟨rfl, rfl, rfl⟩
    have fresh : part ∉ trail.parts := at_trail ▸ begun
    rcases ruled : i.rules? part with _ | rules
    · rw [generate_of_unruled known fresh ruled, answer_of_unruled known begun ruled, at_trail]
      exact ⟨rfl, rfl, rfl⟩
    · have inner := (mirrors_demand (below fresh rules ruled)).rules rules
        (m.enter part rules.length) (congrArg (· ++ [part]) at_trail)
      have entered : (m.enter part rules.length).session =
          m.session.begin part trail.parts.length rules.length := by
        rw [← at_trail]
        rfl
      rw [entered] at inner
      rw [generate_of_ruled known fresh ruled, answer_of_ruled known begun ruled]
      generalize Halting.outcome _ (m.session.begin _ _ _) = r at inner ⊢
      generalize Halting.outcome _ (m.enter part rules.length) = r' at inner ⊢
      rcases r with ⟨r, s⟩
      rcases r' with ⟨r', m'⟩
      obtain ⟨same, session, stack⟩ := inner
      cases same
      cases session
      have left : m'.leave.stack = trail.parts := by
        rw [Run.leave, stack, Trail.parts_extend, List.dropLast_concat]
      cases r with
      | error halt => exact ⟨rfl, rfl, left⟩
      | ok results => exact ⟨rfl, rfl, left⟩
  · rw [generate_of_known known, answer_of_known known]
    exact ⟨rfl, rfl, at_trail⟩

/-- A call comes to what a request below the parts on the stack comes to. -/
theorem mirrors_call {room : Nat} (trail : Trail i) (part : String) (enough : trail.room < room) :
    Mirrors trail (i.generate trail part) (i.call room part) := by
  induction room generalizing trail part with
  | zero => exact absurd enough (Nat.not_lt_zero _)
  | succ room ih =>
      intro m at_trail
      refine mirrors_answer part (fun fresh rules ruled other => ?_) (m.ask part) at_trail
      exact ih _ other (room_extend_lt enough fresh ruled)

/-- The engine is in the state of the inflector after the same requests, with nothing on its
stack. -/
theorem run_session (i : Inventory) (seeds : List (String × String)) (history : List String) :
    (i.run seeds history).session = ((Inflector.fresh i seeds).after history).session ∧
      (i.run seeds history).stack = [] := by
  suffices ∀ (m : Run) (f : Inflector), f.inventory = i → m.session = f.session → m.stack = [] →
      (i.callAll m history).session = (f.after history).session ∧
        (i.callAll m history).stack = [] from this _ _ rfl rfl rfl
  induction history with
  | nil => exact fun _ _ _ session empty => ⟨session, empty⟩
  | cons part history ih =>
      rintro m f rfl session empty
      have mirrors := mirrors_call .empty part (room_empty_lt f.inventory)
      obtain ⟨_, same, stack⟩ := mirrors m empty
      rw [session] at same
      exact ih _ (f.generate part).2 rfl same stack

/-! ## What calls inherit -/

/-- A relation between the engine before, whether a computation halts, and the engine after, that
what is put together inherits from its parts. -/
structure Composes (i : Inventory) (T : Run → Except Halt Unit → Run → Prop) : Prop where
  refl : ∀ m, T m (.ok ()) m
  trans : ∀ m m' r m'', T m (.ok ()) m' → T m' r m'' → T m r m''
  refuse : ∀ m fault, T m (.error (i.refusal m.stack fault)) m
  giveUp : ∀ m, T m (.error .outOfFuel) m
  countExpansion : ∀ m, T m (.ok ()) (m.update Session.countExpansion)
  countMatch : ∀ m, T m (.ok ()) (m.update Session.countMatch)

/-- The computation stays within the relation. -/
def Follows (T : Run → Except Halt Unit → Run → Prop) {α : Type} (x : Halting Run α) : Prop :=
  ∀ m, T m ((x.outcome m).1.map fun _ => ()) (x.outcome m).2

section

variable {T : Run → Except Halt Unit → Run → Prop}

theorem Composes.bind (h : i.Composes T) {α β : Type} {x : Halting Run α} {f : α → Halting Run β}
    (first : Follows T x) (rest : ∀ a, Follows T (f a)) : Follows T (x >>= f) := by
  intro m
  have first := first m
  rw [outcome_bind]
  rcases e : x.outcome m with ⟨halt | a, m'⟩ <;> rw [e] at first
  · exact first
  · exact h.trans _ _ _ _ first (rest a m')

theorem Follows.settle {α : Type} {attempt : Nat → Halting Run α}
    (h : ∀ fuel, Follows T (attempt fuel)) : Follows T (Halting.settle attempt) := by
  intro m
  obtain ⟨fuel, found⟩ := settle_eq_attempt attempt m
  rw [found]
  exact h fuel m

/-- What calls stay within is what the evaluation of rules stays within. -/
theorem Composes.rules (h : i.Composes T) {forms : String → Halting Run (List String)}
    (each : ∀ part, Follows T (forms part)) (rules : List Rule) :
    Follows T ((i.engineDemand forms).rules rules) :=
  have related : Demand.Related (fun _ x _ => Follows T x) (i.engineDemand forms)
      fun _ : Unit => i.engineDemand forms := {
    pure := fun _ m => h.refl m
    bind := h.bind
    forms := each
    refuse := fun fault m => h.refuse m fault
    giveUp := h.giveUp
    expand := fun _ => .settle
    countExpansion := h.countExpansion
    countMatch := h.countMatch }
  related.rules rules

end

end Inventory

end Paradigm
