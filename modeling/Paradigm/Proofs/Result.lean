/-!
# Results one by one

What a computation that may fail says of its parts, if it comes to a result.
-/

namespace Paradigm

section

variable {ε α β : Type} {f : α → Except ε β} {l : List α} {bs : List β}

theorem exists_ok {x : Except ε α} (h : x.isOk = true) : ∃ a, x = .ok a := by
  cases x with
  | error e => cases h
  | ok a => exact ⟨a, rfl⟩

theorem eq_ok_getD {x : Except ε α} (h : x.isOk = true) (default : α) :
    x = .ok (x.toOption.getD default) := by
  cases x with
  | error e => cases h
  | ok a => rfl

theorem of_bind_ok {x : Except ε α} {b : β} (h : x >>= f = .ok b) :
    ∃ a, x = .ok a ∧ f a = .ok b := by
  cases x with
  | error e => cases h
  | ok a => exact ⟨a, rfl, h⟩

theorem of_map_ok {x : Except ε α} {g : α → β} {b : β} (h : x.map g = .ok b) :
    ∃ a, x = .ok a ∧ g a = b := by
  cases x with
  | error e => cases h
  | ok a => exact ⟨a, rfl, Except.ok.inj h⟩

theorem of_map_error {x : Except ε α} {g : α → β} {e : ε} (h : x.map g = .error e) :
    x = .error e := by
  cases x with
  | error e' => exact congrArg Except.error (Except.error.inj h)
  | ok a => cases h

theorem of_mapError_ok {ε' : Type} {x : Except ε α} {g : ε → ε'} {a : α}
    (h : x.mapError g = .ok a) : x = .ok a := by
  cases x with
  | error e => cases h
  | ok a' => exact congrArg Except.ok (Except.ok.inj h)

theorem of_mapError_error {ε' : Type} {x : Except ε α} {g : ε → ε'} {e : ε'}
    (h : x.mapError g = .error e) : ∃ e', x = .error e' ∧ g e' = e := by
  cases x with
  | error e' => exact ⟨e', rfl, Except.error.inj h⟩
  | ok a => cases h

theorem forall_of_mapM_ok (h : l.mapM f = .ok bs) :
    (∀ a ∈ l, ∃ b ∈ bs, f a = .ok b) ∧ ∀ b ∈ bs, ∃ a ∈ l, f a = .ok b := by
  induction l generalizing bs with
  | nil =>
      cases h
      simp
  | cons a l ih =>
      rw [List.mapM_cons] at h
      obtain ⟨b, head, h⟩ := of_bind_ok h
      obtain ⟨rest, tail, h⟩ := of_bind_ok h
      cases h
      obtain ⟨forward, backward⟩ := ih tail
      constructor
      · rintro c (_ | ⟨_, member⟩)
        · exact ⟨b, List.mem_cons_self, head⟩
        · obtain ⟨d, inside, same⟩ := forward c member
          exact ⟨d, List.mem_cons_of_mem b inside, same⟩
      · rintro d (_ | ⟨_, member⟩)
        · exact ⟨a, List.mem_cons_self, head⟩
        · obtain ⟨c, inside, same⟩ := backward d member
          exact ⟨c, List.mem_cons_of_mem a inside, same⟩

theorem mapM_congr {g : α → Except ε β} (h : ∀ a ∈ l, f a = g a) : l.mapM f = l.mapM g := by
  induction l with
  | nil => rfl
  | cons a l ih =>
      obtain ⟨head, tail⟩ := List.forall_mem_cons.mp h
      rw [List.mapM_cons, List.mapM_cons, head, ih tail]

theorem mapM_ok {g : α → β} (h : ∀ a ∈ l, f a = .ok (g a)) : l.mapM f = .ok (l.map g) := by
  induction l with
  | nil => rfl
  | cons a l ih =>
      obtain ⟨head, tail⟩ := List.forall_mem_cons.mp h
      rw [List.mapM_cons, head, ih tail]
      rfl

/-- A list of computations fails as the first of them that fails. -/
theorem mapM_eq_error_iff {e : ε} : l.mapM f = .error e ↔
    ∃ before a after, l = before ++ a :: after ∧ (∀ b ∈ before, ∃ c, f b = .ok c) ∧
      f a = .error e := by
  induction l with
  | nil => simp [pure, Except.pure]
  | cons a l ih =>
      rw [List.mapM_cons]
      cases head : f a with
      | error e' =>
          constructor
          · rintro failed
            cases failed
            exact ⟨[], a, l, rfl, nofun, head⟩
          · rintro ⟨_ | ⟨b, before⟩, c, after, split, passed, failed⟩
            · cases split
              cases head.symm.trans failed
              rfl
            · cases split
              obtain ⟨_, passed⟩ := passed a List.mem_cons_self
              cases head.symm.trans passed
      | ok b =>
          have tail : (Except.ok b >>= fun b => l.mapM f >>= fun bs => pure (b :: bs)) =
              (Except.error e : Except ε (List β)) ↔ l.mapM f = .error e := by
            cases l.mapM f <;> simp [bind, Except.bind, pure, Except.pure]
          rw [tail, ih]
          constructor
          · rintro ⟨before, c, after, rfl, passed, failed⟩
            exact ⟨a :: before, c, after, rfl, List.forall_mem_cons.mpr ⟨⟨b, head⟩, passed⟩, failed⟩
          · rintro ⟨_ | ⟨d, before⟩, c, after, split, passed, failed⟩
            · cases split
              cases head.symm.trans failed
            · cases split
              exact ⟨before, c, after, rfl, (List.forall_mem_cons.mp passed).2, failed⟩

/-- Where not all members of a list have a property, there is a first one without it. -/
theorem exists_first_not {P : α → Prop} (h : ∃ a ∈ l, ¬ P a) :
    ∃ before a after, l = before ++ a :: after ∧ (∀ b ∈ before, P b) ∧ ¬ P a := by
  classical
  obtain ⟨a, member, fails⟩ := h
  have found : (l.find? fun a => decide (¬ P a)).isSome :=
    List.find?_isSome.mpr ⟨a, member, decide_eq_true fails⟩
  obtain ⟨first, found⟩ := Option.isSome_iff_exists.mp found
  obtain ⟨fails, before, after, split, holds⟩ := List.find?_eq_some_iff_append.mp found
  exact ⟨before, first, after, split, by simpa using holds, of_decide_eq_true fails⟩

end

end Paradigm
