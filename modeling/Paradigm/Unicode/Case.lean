import Paradigm.Unicode.CodeRanges
import Paradigm.Unicode.Folding

/-!
# Sets closed under simple case folding

Two characters are variants of one another if they have the same simple folding. A class matched
without regard to case holds every variant of its members.
-/

namespace Paradigm.Unicode

/-- The pairs of code points and their foldings that one written item stands for. -/
def foldingsOfItem (item : List Char) : List (Nat × Nat) :=
  let (first, last, step, tail) := readItem item
  match tail with
  | '>' :: tail =>
    let target := (readHex 0 tail).1
    let step := max step 1
    (List.range ((last - first) / step + 1)).map fun i => (first + i * step, target + i * step)
  | _ => []

def foldings : List (Nat × Nat) := (items simpleFoldings).flatMap foldingsOfItem

/-- Each target with all that folds to it. -/
def variantGroups : List (List Nat) :=
  let sorted := foldings.mergeSort fun a b => a.2 ≤ b.2
  (sorted.foldl
    (fun groups (source, target) =>
      match groups with
      | (t, members) :: older =>
        if t = target then (t, source :: members) :: older
        else (target, [source, target]) :: groups
      | [] => [(target, [source, target])])
    ([] : List (Nat × List Nat))).map (·.2)

def closeUnderCase (s : CharSet) : CharSet :=
  variantGroups.foldl
    (fun acc group =>
      if group.any s.containsCode then
        group.foldl (fun acc n => CharSet.union ⟨[⟨n, n⟩]⟩ acc) acc
      else acc)
    s

/-- Adds the other case of every ASCII letter. -/
def closeUnderAsciiCase (s : CharSet) : CharSet :=
  let lower := s.inter (.ofIntervals [('a', 'z')])
  let upper := s.inter (.ofIntervals [('A', 'Z')])
  .unions [s, ⟨lower.ranges.map fun r => ⟨r.first - 32, r.last - 32⟩⟩,
    ⟨upper.ranges.map fun r => ⟨r.first + 32, r.last + 32⟩⟩]

end Paradigm.Unicode
