/-!
# Sets of characters

A set is a list of inclusive ranges of code points, in order, with a gap between any two. The
operations are those of bracketed classes: union, intersection, difference and complement.
-/

namespace Paradigm

/-- The code points from the first up to and including the last. -/
structure CodeRange where
  first : Nat
  last : Nat
deriving DecidableEq, Repr

/-- Inserts a range into a list of separated ranges and joins what it touches. -/
def CodeRange.insertInto : CodeRange → List CodeRange → List CodeRange
  | r, [] => [r]
  | r, s :: rest =>
    if r.last + 1 < s.first then r :: s :: rest
    else if s.last + 1 < r.first then s :: insertInto r rest
    else insertInto ⟨min r.first s.first, max r.last s.last⟩ rest

/-- A set of characters as separated ranges in order. -/
structure CharSet where
  ranges : List CodeRange
deriving DecidableEq, Repr

namespace CharSet

def empty : CharSet := ⟨[]⟩

/-- Every character: the surrogates between the two ranges are none. -/
def univ : CharSet := ⟨[⟨0, 0xD7FF⟩, ⟨0xE000, 0x10FFFF⟩]⟩

def isEmpty (s : CharSet) : Bool := s.ranges.isEmpty

def containsCode (s : CharSet) (n : Nat) : Bool :=
  s.ranges.any fun r => decide (r.first ≤ n) && decide (n ≤ r.last)

def contains (s : CharSet) (c : Char) : Bool := s.containsCode c.toNat

instance : Membership Char CharSet := ⟨fun s c => s.contains c = true⟩

/-! ## Operations -/

def union (s t : CharSet) : CharSet :=
  ⟨s.ranges.foldl (fun acc r => r.insertInto acc) t.ranges⟩

def inter (s t : CharSet) : CharSet :=
  ⟨s.ranges.flatMap fun a => t.ranges.filterMap fun b =>
    if max a.first b.first ≤ min a.last b.last then
      some ⟨max a.first b.first, min a.last b.last⟩
    else none⟩

/-- The gaps of a list of ranges from `start` up to the last code point. -/
def gapsFrom : Nat → List CodeRange → List CodeRange
  | start, [] => if start ≤ 0x10FFFF then [⟨start, 0x10FFFF⟩] else []
  | start, r :: rest =>
    if start < r.first then ⟨start, r.first - 1⟩ :: gapsFrom (r.last + 1) rest
    else gapsFrom (r.last + 1) rest

def compl (s : CharSet) : CharSet := univ.inter ⟨gapsFrom 0 s.ranges⟩

def diff (s t : CharSet) : CharSet := s.inter t.compl

def symmDiff (s t : CharSet) : CharSet := (s.union t).diff (s.inter t)

def unions (sets : List CharSet) : CharSet := sets.foldl union empty

/-! ## Small sets -/

def interval (a b : Nat) : CharSet := univ.inter ⟨[⟨a, b⟩]⟩

def singleton (c : Char) : CharSet := ⟨[⟨c.toNat, c.toNat⟩]⟩

/-- The union of closed intervals between ASCII characters. -/
def ofIntervals (pairs : List (Char × Char)) : CharSet :=
  unions (pairs.map fun p => interval p.1.toNat p.2.toNat)

def single? (s : CharSet) : Option Char :=
  match s.ranges with
  | [r] => if r.first = r.last then some (Char.ofNat r.first) else none
  | _ => none

end CharSet

end Paradigm
