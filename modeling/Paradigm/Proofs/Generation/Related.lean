import Paradigm.Generation.Evaluation

/-!
# Related evaluations

Rules mean the same to whoever evaluates them. A relation between computations that holds of what
evaluators do by themselves, and is kept when computations are put together, holds of what they make
of any rules. On the second side stands a family of computations, for statements about all of them. An expansion
is related likewise to what becomes of it with more fuel.
-/

namespace Paradigm.Demand

variable {ι : Type} {m₁ m₂ : Type → Type} [Monad m₁] [Monad m₂]

/-- The relation holds of what two kinds of evaluators do by themselves, and is kept by what is put
together from it. -/
structure Related (R : (α : Type) → m₁ α → (ι → m₂ α) → Prop) (d₁ : Demand m₁)
    (d₂ : ι → Demand m₂) : Prop where
  pure : ∀ {α : Type} (a : α), R α (pure a) fun _ => pure a
  bind : ∀ {α β : Type} {x : m₁ α} {y : ι → m₂ α} {f : α → m₁ β} {g : ι → α → m₂ β},
    R α x y → (∀ a, R β (f a) fun t => g t a) → R β (x >>= f) fun t => y t >>= g t
  forms : ∀ part, R _ (d₁.forms part) fun t => (d₂ t).forms part
  refuse : ∀ {α : Type} (fault : Fault), R α (d₁.refuse fault) fun t => (d₂ t).refuse fault
  giveUp : ∀ {α : Type}, R α d₁.giveUp fun t => (d₂ t).giveUp
  expand : ∀ text,
    (∀ fuel, R _ (d₁.expandWithin fuel 0 text.toList)
      fun t => (d₂ t).expandWithin fuel 0 text.toList) →
      R _ (d₁.expand text) fun t => (d₂ t).expand text
  countExpansion : R _ d₁.countExpansion fun t => (d₂ t).countExpansion
  countMatch : R _ d₁.countMatch fun t => (d₂ t).countMatch

namespace Related

variable {R : (α : Type) → m₁ α → (ι → m₂ α) → Prop} {d₁ : Demand m₁} {d₂ : ι → Demand m₂}

theorem rewrite (h : Related R d₁ d₂) (s : Substitution) (form : String) :
    R _ (d₁.rewrite s form) fun t => (d₂ t).rewrite s form := by
  refine h.bind h.countMatch fun _ => ?_
  cases s.regex.find? form with
  | none => exact h.refuse _
  | some found => exact h.pure _

variable [LawfulMonad m₁] [LawfulMonad m₂]

theorem mapM (h : Related R d₁ d₂) {α β : Type} {f : α → m₁ β} {g : ι → α → m₂ β}
    (related : ∀ a, R β (f a) fun t => g t a) (l : List α) :
    R (List β) (l.mapM f) fun t => l.mapM (g t) := by
  induction l with
  | nil =>
      simp only [List.mapM_nil]
      exact h.pure []
  | cons a l ih =>
      simp only [List.mapM_cons]
      exact h.bind (related a) fun b => h.bind ih fun bs => h.pure (b :: bs)

theorem expandWithin (h : Related R d₁ d₂) (fuel depth : Nat) (text : List Char) :
    R _ (d₁.expandWithin fuel depth text) fun t => (d₂ t).expandWithin fuel depth text := by
  induction fuel generalizing depth text with
  | zero => exact h.giveUp
  | succ fuel ih =>
      simp only [Demand.expandWithin]
      cases Placeholder.first? text with
      | none => exact h.pure _
      | some name =>
          simp only
          split
          · exact h.refuse _
          · refine h.bind (h.forms _) fun forms =>
              h.bind (h.mapM (fun form => ?_) forms) fun results => h.pure _
            exact h.bind h.countExpansion fun _ => ih _ _

theorem substitute (h : Related R d₁ d₂) (s : Substitution) :
    R _ (d₁.substitute s) fun t => (d₂ t).substitute s :=
  h.bind (h.forms _) fun forms => h.mapM (h.rewrite s) forms

theorem rule (h : Related R d₁ d₂) (r : Rule) : R _ (d₁.rule r) fun t => (d₂ t).rule r := by
  cases r with
  | pattern text => exact h.expand text fun fuel => h.expandWithin fuel 0 text.toList
  | substitution s => exact h.substitute s

/-- What holds of all that evaluators do holds of what they make of rules. -/
theorem rules (h : Related R d₁ d₂) (rs : List Rule) :
    R _ (d₁.rules rs) fun t => (d₂ t).rules rs :=
  h.bind (h.mapM h.rule rs) fun _ => h.pure _

end Related

/-! ## More fuel -/

section

variable {m : Type → Type} [Monad m] {R : (α : Type) → m α → m α → Prop} {d : Demand m}

/-- A relation to what becomes of computations with more fuel: it may be anything where they give
up, and what is put together from others is related if these are. -/
structure Refining (R : (α : Type) → m α → m α → Prop) (d : Demand m) : Prop where
  refl : ∀ {α : Type} (x : m α), R α x x
  bind : ∀ {α β : Type} {x y : m α} {f g : α → m β},
    R α x y → (∀ a, R β (f a) (g a)) → R β (x >>= f) (y >>= g)
  giveUp : ∀ {α : Type} (y : m α), R α d.giveUp y

variable [LawfulMonad m]

theorem Refining.mapM (h : Refining R d) {α β : Type} {f g : α → m β}
    (more : ∀ a, R β (f a) (g a)) (l : List α) : R (List β) (l.mapM f) (l.mapM g) := by
  induction l with
  | nil => exact h.refl _
  | cons a l ih =>
      simp only [List.mapM_cons]
      exact h.bind (more a) fun b => h.bind ih fun bs => h.refl _

theorem Refining.expandWithin (h : Refining R d) {fuel fuel' : Nat} (le : fuel ≤ fuel')
    (depth : Nat) (text : List Char) :
    R _ (d.expandWithin fuel depth text) (d.expandWithin fuel' depth text) := by
  induction fuel generalizing fuel' depth text with
  | zero => exact h.giveUp _
  | succ fuel ih =>
      cases fuel' with
      | zero => exact absurd le (Nat.not_succ_le_zero fuel)
      | succ more =>
          simp only [Demand.expandWithin]
          cases Placeholder.first? text with
          | none => exact h.refl _
          | some name =>
              simp only
              split
              · exact h.refl _
              · have inserted := fun form : String => h.bind (h.refl d.countExpansion) fun _ =>
                  ih (Nat.le_of_succ_le_succ le)
                    (depth + if Placeholder.occurs form.toList then 1 else 0)
                    (Placeholder.fill name form.toList text)
                exact h.bind (h.refl _) fun forms =>
                  h.bind (h.mapM inserted forms) fun results => h.refl _

end

end Paradigm.Demand
