import Paradigm.Error

/-!
# Fuel

Some templates expand without end. A computation that may do so is tried with an amount of fuel,
and again with more of it, until an attempt comes to its end.
-/

namespace Paradigm

/-- Why a request has no answer: an error, or no fuel that is enough to find one. -/
inductive Halt where
  | failed (e : Error)
  | outOfFuel
deriving DecidableEq

/-- The outcome is an answer or an error. -/
def Halt.isFinal {α : Type} : Except Halt α → Bool
  | .error .outOfFuel => false
  | _ => true

namespace Fuel

/-- The fuel of the first attempt. -/
def first : Nat := 100000

/-- The first amount that passes the test, if there is one, when the fuel is doubled again and
again. -/
def search (enough : Nat → Bool) (fuel : Nat) : Nat :=
  Id.run (repeatM (fun fuel => pure (if enough fuel then .inr fuel else .inl (2 * fuel))) fuel)

/-- The outcome with fuel enough, if any amount is. -/
def settle {β : Type} (finished : β → Bool) (attempt : Nat → β) : β :=
  let outcome := attempt first
  if finished outcome then outcome
  else attempt (search (fun fuel => finished (attempt fuel)) (2 * first))

/-! ## What settling gives -/

theorem search_eq (enough : Nat → Bool) (fuel : Nat) :
    search enough fuel = if enough fuel then fuel else search enough (2 * fuel) := by
  rw [search, repeatM_eq_of_monadTail, repeatM.body]
  cases enough fuel <;> rfl

theorem enough_search (enough : Nat → Bool) {fuel n : Nat} (pos : 0 < fuel)
    (h : ∀ k, n ≤ k → enough k = true) : enough (search enough fuel) = true := by
  rw [search_eq]
  split
  · assumption
  · rename_i short
    have less : fuel < n := Nat.lt_of_not_le fun le => short (h fuel le)
    exact enough_search enough (by omega) h
termination_by n - fuel

section

variable {β γ : Type} {finished : β → Bool} {attempt : Nat → β}

theorem settle_eq_attempt (finished : β → Bool) (attempt : Nat → β) :
    ∃ fuel, settle finished attempt = attempt fuel := by
  simp only [settle]
  split
  · exact ⟨_, rfl⟩
  · exact ⟨_, rfl⟩

/-- Where more fuel does not change a finished outcome, settling finds it. -/
theorem settle_eq {n : Nat}
    (mono : ∀ k k', k ≤ k' → finished (attempt k) = true → attempt k' = attempt k)
    (h : finished (attempt n) = true) : settle finished attempt = attempt n := by
  have agree : ∀ k, finished (attempt k) = true → attempt k = attempt n := fun k hk =>
    (Nat.le_total k n).elim (fun le => (mono k n le hk).symm) (fun le => mono n k le h)
  simp only [settle]
  split
  · rename_i done
    exact agree _ done
  · have enough : ∀ k, n ≤ k → finished (attempt k) = true := fun k le => by rw [mono n k le h, h]
    exact agree _ (enough_search (fun fuel => finished (attempt fuel)) (by decide) enough)

/-- Attempts that agree on when they are finished settle with the same fuel. -/
theorem settle_related {P : β → γ → Prop} {finished' : γ → Bool} {attempt' : Nat → γ}
    (same : ∀ fuel, finished (attempt fuel) = finished' (attempt' fuel))
    (related : ∀ fuel, P (attempt fuel) (attempt' fuel)) :
    P (settle finished attempt) (settle finished' attempt') := by
  simp only [settle, same]
  split
  · exact related _
  · exact related _

end

end Fuel

/-! ## Computations with a state -/

/-- A computation that goes on with its state also where it fails. -/
abbrev Halting (σ : Type) := ExceptT Halt (StateM σ)

namespace Halting

variable {σ α β : Type}

/-- What a computation ends with, and the state in which it leaves off. -/
def outcome (x : Halting σ α) (s : σ) : Except Halt α × σ := x.run.run s

/-- The outcome of a computation with fuel enough. Every attempt starts from the same state. -/
def settle (attempt : Nat → Halting σ α) : Halting σ α := fun s =>
  Fuel.settle (fun r => Halt.isFinal r.1) (fun fuel => (attempt fuel).outcome s)

@[simp] theorem outcome_pure (a : α) (s : σ) : (pure a : Halting σ α).outcome s = (.ok a, s) := rfl

@[simp] theorem outcome_throw (h : Halt) (s : σ) :
    (throw h : Halting σ α).outcome s = (.error h, s) := rfl

@[simp] theorem outcome_get (s : σ) : (get : Halting σ σ).outcome s = (.ok s, s) := rfl

@[simp] theorem outcome_modify (f : σ → σ) (s : σ) :
    (modify f : Halting σ Unit).outcome s = (.ok (), f s) := rfl

theorem outcome_bind (x : Halting σ α) (f : α → Halting σ β) (s : σ) :
    (x >>= f).outcome s =
      match x.outcome s with
      | (.ok a, s') => (f a).outcome s'
      | (.error h, s') => (.error h, s') := by
  simp only [outcome, ExceptT.run_bind, StateT.run_bind]
  rcases x.run.run s with ⟨_ | _, _⟩ <;> rfl

theorem outcome_map (f : α → β) (x : Halting σ α) (s : σ) :
    (f <$> x).outcome s = ((x.outcome s).1.map f, (x.outcome s).2) := by
  simp only [outcome, ExceptT.run_map, StateT.run_map]
  rfl

theorem outcome_settle (attempt : Nat → Halting σ α) (s : σ) :
    (settle attempt).outcome s =
      Fuel.settle (fun r => Halt.isFinal r.1) fun fuel => (attempt fuel).outcome s := rfl

/-- The outcome is that of some attempt. -/
theorem settle_eq_attempt (attempt : Nat → Halting σ α) (s : σ) :
    ∃ fuel, (settle attempt).outcome s = (attempt fuel).outcome s := by
  rw [outcome_settle]
  exact Fuel.settle_eq_attempt _ _

/-- A computation settles with the same fuel as another one that has the same outcomes. -/
theorem settle_related (P : Except Halt α × σ → Except Halt α → Prop) {x : Nat → Halting σ α}
    {y : Nat → Except Halt α} {s : σ} (same : ∀ fuel, y fuel = ((x fuel).outcome s).1)
    (related : ∀ fuel, P ((x fuel).outcome s) (y fuel)) :
    P ((settle x).outcome s) (Fuel.settle Halt.isFinal y) := by
  rw [outcome_settle]
  exact Fuel.settle_related (fun fuel => by rw [same]) related

end Halting

end Paradigm
