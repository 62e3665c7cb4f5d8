import Mathlib.Order.Defs.Unbundled
import Paradigm.Yaml.Token

/-!
# Scanning forward

What an action of the scanner does, if it does not fail. Most of them only go forward: of the text a
part is taken from the front, and the tokens that are there stay where they are.
-/

namespace Paradigm.Yaml.Scan

variable {α β : Type} {s s' : Scanner}

/-! ## Actions one by one -/

@[simp] theorem bind_apply (m : Scan α) (f : α → Scan β) (s : Scanner) :
    (m >>= f) s = (m s).bind fun r => f r.1 r.2 := rfl

theorem of_bind {m : Scan α} {f : α → Scan β} {r : β × Scanner} (h : (m >>= f) s = some r) :
    ∃ a s', m s = some (a, s') ∧ f a s' = some r := by
  obtain ⟨⟨a, s'⟩, first, second⟩ := Option.bind_eq_some_iff.mp h
  exact ⟨a, s', first, second⟩

@[simp] theorem pure_apply (a : α) (s : Scanner) : (pure a : Scan α) s = some (a, s) := rfl

@[simp] theorem get_apply (s : Scanner) : (get : Scan Scanner) s = some (s, s) := rfl

@[simp] theorem modify_apply (f : Scanner → Scanner) (s : Scanner) :
    (modify f : Scan Unit) s = some ((), f s) := rfl

@[simp] theorem peek_apply (s : Scanner) : peek s = some (s.rest.head?, s) := rfl

@[simp] theorem peekAt_apply (n : Nat) (s : Scanner) : peekAt n s = some (s.rest[n]?, s) := rfl

@[simp] theorem next_apply (c : Char) (s : Scanner) :
    next c s = some (s.rest.head? == some c, s) := rfl

@[simp] theorem inFlow_apply (s : Scanner) : inFlow s = some (decide (s.keys.length > 1), s) := rfl

@[simp] theorem skip_apply (n : Nat) (s : Scanner) : skip n s =
    some ((), { s with rest := s.rest.drop n, column := s.column + n, index := s.index + n }) := rfl

@[simp] theorem allowKey_apply (allowed : Bool) (s : Scanner) :
    allowKey allowed s = some ((), { s with keyAllowed := allowed }) := rfl

@[simp] theorem takeWhile_apply (test : Char → Bool) (s : Scanner) :
    takeWhile test s = some (s.rest.takeWhile test, { s with
      rest := s.rest.drop (s.rest.takeWhile test).length,
      column := s.column + (s.rest.takeWhile test).length,
      index := s.index + (s.rest.takeWhile test).length }) := rfl

/-! ## Going forward -/

/-- Something may have been passed over, and no token has been added. -/
structure Passes (s s' : Scanner) : Prop where
  rest : s'.rest <:+ s.rest
  tokens : s'.tokens = s.tokens

/-- Something may have been passed over, and tokens may have been added at the end. -/
structure Follows (s s' : Scanner) : Prop where
  rest : s'.rest <:+ s.rest
  tokens : s.tokens.toList <+: s'.tokens.toList

instance : IsPreorder Scanner Passes where
  refl _ := ⟨List.suffix_refl _, rfl⟩
  trans _ _ _ first second := ⟨second.rest.trans first.rest, second.tokens.trans first.tokens⟩

instance : IsPreorder Scanner Follows where
  refl _ := ⟨List.suffix_refl _, List.prefix_refl _⟩
  trans _ _ _ first second := ⟨second.rest.trans first.rest, first.tokens.trans second.tokens⟩

theorem Passes.of_eq (rest : s'.rest = s.rest) (tokens : s'.tokens = s.tokens) : Passes s s' :=
  ⟨rest ▸ List.suffix_refl _, tokens⟩

theorem Passes.follows (h : Passes s s') : Follows s s' :=
  ⟨h.rest, h.tokens ▸ List.prefix_refl _⟩

/-- The action relates the scanner before it to the scanner after it, if it does not fail. -/
def Respects (R : Scanner → Scanner → Prop) (m : Scan α) : Prop :=
  ∀ s a s', m s = some (a, s') → R s s'

namespace Respects

section

variable {R : Scanner → Scanner → Prop}

theorem mono {R' : Scanner → Scanner → Prop} {m : Scan α} (weaker : ∀ s s', R s s' → R' s s')
    (h : Respects R m) : Respects R' m :=
  fun s a s' here => weaker s s' (h s a s' here)

theorem fail : Respects R (Scan.fail : Scan α) := nofun

theorem ite {m n : Scan α} (p : Prop) [Decidable p] (first : Respects R m) (second : Respects R n) :
    Respects R (if p then m else n) := by
  split
  · exact first
  · exact second

theorem update {f : Scanner → Scanner} (h : ∀ s, R s (f s)) :
    Respects R (modify f : Scan Unit) := by
  intro s a s' here
  cases here
  exact h s

variable [IsPreorder Scanner R]

theorem bind {m : Scan α} {f : α → Scan β} (first : Respects R m) (second : ∀ a, Respects R (f a)) :
    Respects R (m >>= f) := by
  intro s b s'' h
  obtain ⟨a, s', h₁, h₂⟩ := of_bind h
  exact trans_of R (first s a s' h₁) (second a s' b s'' h₂)

theorem ret (a : α) : Respects R (pure a : Scan α) := by
  intro s b s' h
  cases h
  exact refl_of R s

theorem guard (ok : Bool) : Respects R (Scan.guard ok) := by
  cases ok with
  | true => exact ret ()
  | false => exact fail

theorem first {p : Prop} [Decidable p] {m : Scan Unit} {f : Unit → Scan α} (h : Respects R m)
    (after : ∀ u, Respects R (f u)) : Respects R (if p then m >>= f else f ()) :=
  ite p (h.bind after) (after ())

/-- What only looks at the scanner. -/
theorem read (g : Scanner → α) : Respects R (fun s => some (g s, s) : Scan α) := by
  intro s a s' h
  cases h
  exact refl_of R s

theorem state : Respects R (MonadState.get : Scan Scanner) := read _

theorem peek : Respects R Scan.peek := read _

theorem peekAt (n : Nat) : Respects R (Scan.peekAt n) := read _

theorem next (c : Char) : Respects R (Scan.next c) := read _

theorem inFlow : Respects R Scan.inFlow := read _

theorem atDocumentMark : Respects R Scan.atDocumentMark := read _

end

/-! ### Passing over text -/

theorem skip (n : Nat) : Respects Passes (Scan.skip n) :=
  update fun _ => ⟨List.drop_suffix _ _, rfl⟩

theorem nextLine (n : Nat) : Respects Passes (Scan.nextLine n) :=
  update fun _ => ⟨List.drop_suffix _ _, rfl⟩

theorem allowKey (allowed : Bool) : Respects Passes (Scan.allowKey allowed) :=
  update fun _ => .of_eq rfl rfl

theorem takeWhile (test : Char → Bool) : Respects Passes (Scan.takeWhile test) := by
  intro s a s' h
  cases h
  exact ⟨List.drop_suffix _ _, rfl⟩

theorem skipComment : Respects Passes skipComment :=
  (next _).bind fun _ => ite _ ((takeWhile _).bind fun _ => ret ()) (ret ())

theorem takeBreak : Respects Passes takeBreak := by
  refine state.bind fun s => ?_
  cases lineBreak? s.rest with
  | none => exact ret []
  | some found => exact (nextLine found.1).bind fun _ => ret [found.2]

theorem dropStaleKeys : Respects Passes dropStaleKeys :=
  state.bind fun _ => (guard _).bind fun _ => update fun _ => .of_eq rfl rfl

theorem removeKey : Respects Passes removeKey := by
  refine state.bind fun s => ?_
  split
  · exact (guard _).bind fun _ => update fun _ => .of_eq rfl rfl
  · exact ret ()

theorem saveKey : Respects Passes saveKey :=
  state.bind fun _ => inFlow.bind fun _ =>
    ite _ (removeKey.bind fun _ => update fun _ => .of_eq rfl rfl) (ret ())

theorem skipLineSpace : Respects Passes skipLineSpace :=
  state.bind fun _ => (next _).bind fun _ => first (skip 1) fun _ => inFlow.bind fun _ =>
    state.bind fun _ => (takeWhile _).bind fun _ => skipComment

theorem skipSpace (fuel : Nat) : Respects Passes (skipSpace fuel) := by
  induction fuel with
  | zero => exact ret ()
  | succ fuel ih =>
      exact skipLineSpace.bind fun _ => peek.bind fun _ =>
        ite _ (takeBreak.bind fun _ => inFlow.bind fun _ => first (allowKey true) fun _ => ih)
          (ret ())

/-! ### Plain scalars -/

theorem plainRun (fuel : Nat) : Respects Passes (plainRun fuel) := by
  induction fuel with
  | zero => exact ret []
  | succ fuel ih =>
      have goesOn (c : Char) (flow : Bool) : Respects Passes
          (if flow && ",[]\x7b\x7d".toList.contains c then pure []
          else do Scan.skip 1; return c :: (← Scan.plainRun fuel) : Scan (List Char)) :=
        ite _ (ret []) ((skip 1).bind fun _ => ih.bind fun _ => ret _)
      exact peek.bind fun _ => ite _ (ret []) (inFlow.bind fun _ => (peekAt 1).bind fun _ =>
        ite _ ((guard _).bind fun _ => ite _ (ret []) (goesOn _ _)) (goesOn _ _))

theorem takeGap (indent : Option Int) (fuel : Nat) (blanks : List Char) (first : Option (List Char))
    (later : List Char) : Respects Passes (takeGap indent fuel blanks first later) := by
  induction fuel generalizing blanks first later with
  | zero => exact ret _
  | succ fuel ih =>
      refine peek.bind fun c => ?_
      cases c with
      | none => exact ret _
      | some c =>
          refine ite _ (state.bind fun _ => (guard _).bind fun _ => (skip 1).bind fun _ => ih _ _ _)
            (ite _ (takeBreak.bind fun _ => ?_) (ret _))
          cases first with
          | none => exact ih _ _ _
          | some _ => exact ih _ _ _

theorem plainText (indent : Int) (fuel : Nat) : Respects Passes (plainText indent fuel) := by
  induction fuel with
  | zero => exact ret _
  | succ fuel ih =>
      exact atDocumentMark.bind fun _ => (next _).bind fun _ => ite _ (ret _)
        (state.bind fun _ => (plainRun _).bind fun _ => peek.bind fun _ => ite _ (ret _)
        (state.bind fun _ => (takeGap _ _ _ _ _).bind fun _ => state.bind fun _ =>
        inFlow.bind fun _ => ite _ (ret _) (ih.bind fun _ => ite _ (ret _) (ret _))))

theorem plainScalar : Respects Passes plainScalar :=
  state.bind fun _ => (plainText _ _).bind fun _ => first (allowKey true) fun _ => ret _

/-! ### Adding tokens -/

theorem follows {m : Scan α} (h : Respects Passes m) : Respects Follows m :=
  h.mono fun _ _ => Passes.follows

theorem add (t : Token) : Respects Follows (Scan.add t) :=
  update fun _ => ⟨List.suffix_refl _, by simp⟩

theorem unroll (column : Int) (fuel : Nat) : Respects Follows (unroll column fuel) := by
  induction fuel with
  | zero => exact ret ()
  | succ fuel ih =>
      refine state.bind fun _ => ite _ ((update fun s => ?_).bind fun _ => ih) (ret ())
      exact ⟨List.suffix_refl _, by simp⟩

theorem unrollTo (column : Int) : Respects Follows (unrollTo column) :=
  inFlow.bind fun _ => ite _ (state.bind fun _ => unroll column _) (ret ())

theorem closeAll : Respects Follows closeAll :=
  (unrollTo _).bind fun _ => removeKey.follows.bind fun _ => (allowKey false).follows

theorem endStream : Respects Follows endStream :=
  state.bind fun _ => first (update fun _ => ⟨List.suffix_refl _, List.prefix_refl _⟩) fun _ =>
    closeAll.bind fun _ => add _

theorem keyable {scan : Scan Token} (h : Respects Passes scan) :
    Respects Follows (keyable scan) :=
  saveKey.follows.bind fun _ => (allowKey false).follows.bind fun _ => h.follows.bind add

end Respects

end Paradigm.Yaml.Scan
