import Paradigm.Proofs.Table.Merge

/-!
# Merging as a union

Rows that differ in their gloss at most are equivalent, so several tables merge if each two of them
do. Main statement: merging is a partial union, associative and idempotent, that prefers the base.
-/

namespace Paradigm

namespace Row

theorem Compatible.refl (row : Row) : row.Compatible row := fun _ _ => rfl

theorem Compatible.symm {row row' : Row} (h : row.Compatible row') : row'.Compatible row :=
  fun part counted => (h part counted).symm

theorem Compatible.trans {row row' row'' : Row} (h : row.Compatible row')
    (h' : row'.Compatible row'') : row.Compatible row'' :=
  fun part counted => (h part counted).trans (h' part counted)

end Row

/-! ## Tables that agree on a word -/

section

variable {a b c : FormTable} {word : String}

theorem Agree.refl (a : FormTable) (word : String) : Agree a a word := by
  intro row row' here there
  obtain rfl := Option.some.inj (here.symm.trans there)
  exact .refl row

theorem Agree.symm (h : Agree a b word) : Agree b a word :=
  fun row row' here there => (h row' row there here).symm

theorem agree_comm : Agree a b word ↔ Agree b a word := ⟨.symm, .symm⟩

/-- A union agrees with what both of its sides agree with. That the second side does so also where
the first one hides it is transitivity. -/
theorem Agree.orElse_left (h : Agree a b word) :
    Agree (a.orElse b) c word ↔ Agree a c word ∧ Agree b c word := by
  unfold Agree at h ⊢
  rw [SortedMap.get?_orElse]
  rcases here : a.get? word with _ | row
  · simp
  · simp only [Option.some_or]
    constructor
    · intro agree
      refine ⟨agree, fun row' row'' there third => ?_⟩
      exact (h row row' here there).symm.trans (agree row row'' rfl third)
    · exact And.left

theorem Agree.orElse_right (h : Agree b c word) :
    Agree a (b.orElse c) word ↔ Agree a b word ∧ Agree a c word := by
  rw [agree_comm, h.orElse_left, agree_comm, agree_comm (a := c)]

end

/-! ## Tables that agree -/

/-- The tables agree on all words. -/
def Consistent (a b : FormTable) : Prop := ∀ word, Agree a b word

section

variable {a b c t : FormTable}

theorem Consistent.orElse_left (h : Consistent a b) :
    Consistent (a.orElse b) c ↔ Consistent a c ∧ Consistent b c := by
  unfold Consistent
  rw [← forall_and]
  exact forall_congr' fun word => (h word).orElse_left

theorem Consistent.orElse_right (h : Consistent b c) :
    Consistent a (b.orElse c) ↔ Consistent a b ∧ Consistent a c := by
  unfold Consistent
  rw [← forall_and]
  exact forall_congr' fun word => (h word).orElse_right

theorem consistent_comm : Consistent a b ↔ Consistent b a :=
  forall_congr' fun _ => agree_comm

/-- Three tables are consistent as a whole if each two of them are, however they are grouped. -/
theorem consistent_assoc : Consistent a b ∧ Consistent (a.orElse b) c ↔
    Consistent b c ∧ Consistent a (b.orElse c) := by
  constructor
  · rintro ⟨first, whole⟩
    obtain ⟨outer, inner⟩ := first.orElse_left.mp whole
    exact ⟨inner, inner.orElse_right.mpr ⟨first, outer⟩⟩
  · rintro ⟨last, whole⟩
    obtain ⟨inner, outer⟩ := last.orElse_right.mp whole
    exact ⟨inner, inner.orElse_left.mpr ⟨outer, last⟩⟩

theorem merge?_eq_ok_iff_orElse : merge? a b = .ok t ↔ Consistent a b ∧ t = a.orElse b := by
  rw [merge?_eq_ok_iff]
  refine and_congr_right fun _ => ⟨fun rows => SortedMap.ext_get? fun word => ?_, ?_⟩
  · rw [rows, SortedMap.get?_orElse]
  · rintro rfl word
    exact SortedMap.get?_orElse a b word

theorem exists_merge?_iff : (∃ t, merge? a b = .ok t) ↔ Consistent a b := by
  simp [merge?_eq_ok_iff_orElse]

end

/-- Merging three tables is a union that is defined where they agree, and prefers the rows of the
base. The empty table is neutral, and what has been merged changes nothing any more. Which of two
tables is the base matters for glosses only; how three tables are grouped does not matter. -/
structure PartialUnion (a b c : FormTable) : Prop where
  union : ∀ t, merge? a b = .ok t → t = a.orElse b
  empty_right : merge? a .empty = .ok a
  empty_left : merge? .empty a = .ok a
  self : merge? a a = .ok a
  defined : (∃ t, merge? a b = .ok t) ↔ ∃ t, merge? b a = .ok t
  swapped : ∀ t u, merge? a b = .ok t → merge? b a = .ok u →
    (∀ word, t.contains word ↔ u.contains word) ∧
      ∀ word row row', t.get? word = some row → u.get? word = some row' → row.Compatible row'
  assoc : ∀ t, (∃ ab, merge? a b = .ok ab ∧ merge? ab c = .ok t) ↔
    ∃ bc, merge? b c = .ok bc ∧ merge? a bc = .ok t
  again : ∀ t, merge? a b = .ok t → merge? t b = .ok t

theorem merge?_partialUnion (a b c : FormTable) : PartialUnion a b c := by
  constructor
  case union => exact fun t merged => (merge?_eq_ok_iff_orElse.mp merged).2
  case empty_right =>
    exact merge?_eq_ok_iff_orElse.mpr ⟨nofun, (SortedMap.orElse_empty a).symm⟩
  case empty_left =>
    exact merge?_eq_ok_iff_orElse.mpr ⟨nofun, (SortedMap.empty_orElse a).symm⟩
  case self =>
    exact merge?_eq_ok_iff_orElse.mpr ⟨Agree.refl a, (SortedMap.orElse_self a).symm⟩
  case defined => rw [exists_merge?_iff, exists_merge?_iff, consistent_comm]
  case swapped =>
    rintro t u merged merged'
    obtain ⟨agree, rfl⟩ := merge?_eq_ok_iff_orElse.mp merged
    obtain ⟨_, rfl⟩ := merge?_eq_ok_iff_orElse.mp merged'
    constructor
    · intro word
      simp only [SortedMap.contains, SortedMap.get?_orElse, Option.isSome_or, Bool.or_comm]
    · have swapped := consistent_comm.mp agree
      have left : Consistent a (b.orElse a) := swapped.orElse_right.mpr ⟨agree, Agree.refl a⟩
      have right : Consistent b (b.orElse a) := swapped.orElse_right.mpr ⟨Agree.refl b, swapped⟩
      have both : Consistent (a.orElse b) (b.orElse a) := agree.orElse_left.mpr ⟨left, right⟩
      exact fun word row row' here there => both word row row' here there
  case assoc =>
    intro t
    simp only [merge?_eq_ok_iff_orElse]
    constructor
    · rintro ⟨_, ⟨first, rfl⟩, whole, rfl⟩
      obtain ⟨last, whole⟩ := consistent_assoc.mp ⟨first, whole⟩
      exact ⟨_, ⟨last, rfl⟩, whole, SortedMap.orElse_assoc a b c⟩
    · rintro ⟨_, ⟨last, rfl⟩, whole, rfl⟩
      obtain ⟨first, whole⟩ := consistent_assoc.mpr ⟨last, whole⟩
      exact ⟨_, ⟨first, rfl⟩, whole, (SortedMap.orElse_assoc a b c).symm⟩
  case again =>
    intro t merged
    obtain ⟨agree, rfl⟩ := merge?_eq_ok_iff_orElse.mp merged
    refine merge?_eq_ok_iff_orElse.mpr ⟨agree.orElse_left.mpr ⟨agree, Agree.refl b⟩, ?_⟩
    rw [SortedMap.orElse_assoc, SortedMap.orElse_self]

end Paradigm
