import Paradigm.Inventory

/-!
# Sessions

A session holds what is known about one headword so far: the forms of the parts that were given or
computed, and counts of the work that was done.
-/

namespace Paradigm

/-! ## Forms -/

/-- Puts a form at its place in a strictly increasing list. -/
def insertForm (form : String) : List String → List String
  | [] => [form]
  | f :: rest =>
    if form < f then form :: f :: rest
    else if f < form then f :: insertForm form rest
    else f :: rest

/-- The forms in increasing order, each once. -/
def distinctForms (forms : List String) : List String := forms.foldr insertForm []

theorem mem_insertForm {form g : String} :
    ∀ {forms : List String}, g ∈ insertForm form forms ↔ g = form ∨ g ∈ forms
  | [] => by simp [insertForm]
  | f :: rest => by
    simp only [insertForm]
    split
    · simp
    · split
      · simp only [List.mem_cons, mem_insertForm]
        exact or_left_comm
      · rename_i notLt notGt
        simp [Std.Trichotomous.trichotomous _ _ notLt notGt]

theorem insertForm_increasing {form : String} :
    ∀ {forms : List String}, forms.Pairwise (· < ·) → (insertForm form forms).Pairwise (· < ·)
  | [], _ => by simp [insertForm]
  | f :: rest, h => by
    obtain ⟨hf, hrest⟩ := List.pairwise_cons.mp h
    simp only [insertForm]
    split
    · rename_i lt
      refine List.pairwise_cons.mpr ⟨fun g member => ?_, h⟩
      rcases List.mem_cons.mp member with rfl | member
      · exact lt
      · exact String.lt_trans lt (hf g member)
    · split
      · rename_i gt
        refine List.pairwise_cons.mpr ⟨fun g member => ?_, insertForm_increasing hrest⟩
        rcases mem_insertForm.mp member with rfl | member
        · exact gt
        · exact hf g member
      · exact h

theorem mem_distinctForms {form : String} {forms : List String} :
    form ∈ distinctForms forms ↔ form ∈ forms := by
  induction forms with
  | nil => simp [distinctForms]
  | cons f rest ih =>
    simp only [distinctForms, List.foldr_cons, List.mem_cons] at ih ⊢
    rw [mem_insertForm, ih]

theorem distinctForms_increasing (forms : List String) :
    (distinctForms forms).Pairwise (· < ·) := by
  induction forms with
  | nil => exact .nil
  | cons f rest ih => exact insertForm_increasing ih

/-! ## Counts -/

/-- A part that was computed: how deep below the request, from how many rules, to how many forms. -/
structure PartTrace where
  part : String
  depth : Nat
  rules : Nat
  forms : Nat := 0
deriving DecidableEq

/-- The work of a session; `computed` has the parts in the order in which they were begun. -/
structure Stats where
  computed : List PartTrace := []
  memoHits : Nat := 0
  expansions : Nat := 0
  regexEvaluations : Nat := 0
deriving DecidableEq

/-- Forms of computed parts; a part that failed has none. -/
def Stats.totalForms (s : Stats) : Nat := s.computed.foldr (fun trace n => trace.forms + n) 0

/-- Writes the number of forms of the part that was begun as number `slot`. -/
def Stats.record (s : Stats) (slot forms : Nat) : Stats :=
  { s with computed := s.computed.modify slot fun trace => { trace with forms } }

/-! ## Sessions -/

/-- The forms of the parts that are known, and counts of the work so far. -/
structure Session where
  memo : SortedMap (List String) := .empty
  stats : Stats := {}
deriving DecidableEq

/-- The form that is given for a part; the last one counts. -/
def givenForm? (seeds : List (String × String)) (part : String) : Option String :=
  seeds.reverse.lookup part

/-- A session in which parts have given forms; the last form given for a part counts. -/
def Session.seeded (seeds : List (String × String)) : Session :=
  { memo := .ofList (seeds.map fun seed => (seed.1, [seed.2])) }

namespace Session

theorem get?_memo_seeded (seeds : List (String × String)) (part : String) :
    (seeded seeds).memo.get? part = (givenForm? seeds part).map fun form => [form] := by
  simp only [seeded, SortedMap.get?_ofList, givenForm?, ← List.map_reverse]
  induction seeds.reverse with
  | nil => rfl
  | cons seed rest ih =>
    obtain ⟨name, form⟩ := seed
    simp only [List.map_cons, List.lookup_cons, ih]
    cases part == name <;> rfl

/-- Notes that a part is computed `depth` levels below the request, from a number of rules. -/
def begin (s : Session) (part : String) (depth rules : Nat) : Session :=
  { s with stats.computed := s.stats.computed ++ [⟨part, depth, rules, 0⟩] }

/-- Keeps the forms of the part that was begun as number `slot`. -/
def finish (s : Session) (part : String) (slot : Nat) (forms : List String) : Session where
  memo := s.memo.insert part forms
  stats := s.stats.record slot forms.length

def countRecall (s : Session) : Session := { s with stats.memoHits := s.stats.memoHits + 1 }

def countExpansion (s : Session) : Session :=
  { s with stats.expansions := s.stats.expansions + 1 }

def countMatch (s : Session) : Session :=
  { s with stats.regexEvaluations := s.stats.regexEvaluations + 1 }

end Session

end Paradigm
