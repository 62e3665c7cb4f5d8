import Paradigm.Inventory

/-!
# Trails

The parts that are being computed at a time, each asked for by the one before it. No part needs
itself, so a trail is never longer than there are parts with rules.
-/

namespace Paradigm

theorem Inventory.mem_partNames_iff {i : Inventory} {part : String} :
    part ∈ i.partNames ↔ (i.rules? part).isSome :=
  SortedMap.mem_keys_iff

/-- Parts with rules, each there once, the outermost first. -/
structure Trail (i : Inventory) where
  parts : List String
  nodup : parts.Nodup
  ruled : ∀ part ∈ parts, (i.rules? part).isSome

namespace Trail

variable {i : Inventory}

def empty : Trail i := ⟨[], .nil, nofun⟩

/-- Goes on to a part that has rules and is not being computed yet. -/
def extend (t : Trail i) (part : String) (fresh : part ∉ t.parts) {rules : List Rule}
    (ruled : i.rules? part = some rules) : Trail i where
  parts := t.parts ++ [part]
  nodup := List.nodup_append.mpr ⟨t.nodup, by simp, fun _ h _ h' e =>
    fresh (List.mem_singleton.mp h' ▸ e ▸ h)⟩
  ruled := fun p h => (List.mem_append.mp h).elim (t.ruled p) fun h =>
    List.mem_singleton.mp h ▸ Option.isSome_of_eq_some ruled

theorem length_le (t : Trail i) : t.parts.length ≤ i.partNames.length :=
  t.nodup.length_le_of_subset fun p h => Inventory.mem_partNames_iff.mpr (t.ruled p h)

def room (t : Trail i) : Nat := i.partNames.length - t.parts.length

section

variable (t : Trail i) (part : String) (fresh : part ∉ t.parts) {rules : List Rule}
  (ruled : i.rules? part = some rules)

theorem parts_extend : (t.extend part fresh ruled).parts = t.parts ++ [part] := rfl

theorem length_extend : (t.extend part fresh ruled).parts.length = t.parts.length + 1 :=
  List.length_append

theorem room_extend : (t.extend part fresh ruled).room < t.room := by
  have len := t.length_extend part fresh ruled
  have le := (t.extend part fresh ruled).length_le
  simp only [room]
  omega

end

/-- What holds of a trail if it holds of all that go on from it holds of every trail. -/
@[elab_as_elim]
theorem induction {motive : Trail i → Prop}
    (step : ∀ t, (∀ part fresh (rules : List Rule) (ruled : i.rules? part = some rules),
      motive (t.extend part fresh ruled)) → motive t)
    (t : Trail i) : motive t :=
  step t fun part fresh _ ruled =>
    have := t.room_extend part fresh ruled
    induction step (t.extend part fresh ruled)
termination_by t.room

end Trail

end Paradigm
