import Paradigm.Regex.Expr

/-!
# Matching programs

An expression becomes a list of instructions. A `split` lists where to go on, the best place first,
so that of all ways to match the first one found is the preferred one.
-/

namespace Paradigm.Regex

/-- One step of a match: how to go on from here, or that the match is complete. -/
inductive Instruction where
  | accept
  | char (c : Char) (next : Nat)
  | set (chars : CharSet) (next : Nat)
  | look (look : Look) (next : Nat)
  | save (slot next : Nat)
  | split (targets : List Nat)
deriving DecidableEq

/-- The steps of a match by number. -/
abbrev Program := Array Instruction

namespace Program

abbrev Builder := StateM Program

def emit (i : Instruction) : Builder Nat := fun p => (p.size, p.push i)

/-- An instruction that is filled in later. -/
def reserve : Builder Nat := emit (.split [])

def fill (at_ : Nat) (i : Instruction) : Builder Unit :=
  modify fun p => p.setIfInBounds at_ i

/-- Either `body` or `next`, in the order of preference. -/
def choice (greedy : Bool) (body next : Nat) : Instruction :=
  .split (if greedy then [body, next] else [next, body])

/-- `n` copies of a body in a row, before `next`. -/
def copies (body : Nat → Builder Nat) : Nat → Nat → Builder Nat
  | 0, next => pure next
  | n + 1, next => do body (← copies body n next)

/-- Up to `n` copies of a body, each only after the one before it, and then `next`. -/
def optionalCopies (greedy : Bool) (body : Nat → Builder Nat) (next : Nat) : Nat → Builder Nat
  | 0 => pure next
  | n + 1 => do
    let start ← body (← optionalCopies greedy body next n)
    emit (choice greedy start next)

/-- One or more copies of a body: the place of its start and the place after each copy. -/
def loop (greedy : Bool) (body : Nat → Builder Nat) (next : Nat) : Builder (Nat × Nat) := do
  let again ← reserve
  let start ← body again
  fill again (choice greedy start next)
  return (start, again)

def chars (next : Nat) : List Char → Builder Nat
  | [] => pure next
  | c :: rest => do emit (.char c (← chars next rest))

mutual

/-- Adds the instructions of an expression that go on at `next`, and tells where they start. A
repetition of what may match nothing is one or more copies or none, so that a copy is tried before
it is left out. -/
def compile : Expr → Nat → Builder Nat
  | .empty, next => pure next
  | .text cs, next => chars next cs
  | .set cs, next => emit (.set cs next)
  | .look l, next => emit (.look l next)
  | .capture index _ sub, next => do
    let stop ← emit (.save (2 * index + 1) next)
    emit (.save (2 * index) (← compile sub stop))
  | .concat subs, next => compileAll subs next
  | .alternation subs, next => do emit (.split (← compileEach subs next))
  | .repetition min max greedy sub, next => do
    let body := fun n => compile sub n
    match max with
    | some max => copies body min (← optionalCopies greedy body next (max - min))
    | none =>
      let (start, again) ← loop greedy body next
      if min = 0 then
        if sub.consumes then pure again else emit (choice greedy start next)
      else copies body (min - 1) start

/-- A sequence. -/
def compileAll : List Expr → Nat → Builder Nat
  | [], next => pure next
  | sub :: rest, next => do compile sub (← compileAll rest next)

/-- The starts of alternatives. -/
def compileEach : List Expr → Nat → Builder (List Nat)
  | [], _ => pure []
  | sub :: rest, next => do
    let start ← compile sub next
    return start :: (← compileEach rest next)

end

/-- The program of an expression and its first instruction. Slots 0 and 1 hold the whole match. -/
def ofExpr (e : Expr) : Nat × Program :=
  let build : Builder Nat := do
    let done ← emit .accept
    compile (.capture 0 none e) done
  build.run #[]

end Program

mutual

/-- The groups of an expression, with their names. -/
def Expr.groups : Expr → List (Nat × Option String)
  | .empty | .text _ | .set _ | .look _ => []
  | .capture index name sub => (index, name) :: Expr.groups sub
  | .repetition _ _ _ sub => Expr.groups sub
  | .concat subs | .alternation subs => Expr.groupsAll subs

def Expr.groupsAll : List Expr → List (Nat × Option String)
  | [] => []
  | sub :: rest => Expr.groups sub ++ Expr.groupsAll rest

end

/-- The names of the groups by index, the whole match first. A group that the normal form has left
out is unnamed, and is not counted if none follows it. -/
def Expr.groupNames (e : Expr) : List (Option String) :=
  let groups := e.groups
  let last := groups.foldl (fun n g => max n g.1) 0
  (List.range (last + 1)).map fun i => ((groups.find? (·.1 == i)).map (·.2)).getD none

end Paradigm.Regex
