import Paradigm.Proofs.Regex.Abreast
import Paradigm.Proofs.Regex.Groups

/-!
# Escapes and classes of an enclosed pattern

Escapes and bracketed classes are read alike in a pattern by itself and in the enclosed one.
-/

namespace Paradigm.Regex.Reader

variable {n : Nat} {c c' : Cursor}

/-! ## Runs of characters -/

theorem takeRun_stop {test : Char → Bool} {k : Nat}
    (stops : ∀ ch, c.rest.head? = some ch → test ch = false) :
    (takeRun test k).run c = .ok ([], c) := by
  cases k with
  | zero => rfl
  | succ k =>
      cases at_head : c.rest.head? with
      | none =>
          unfold takeRun peek
          simp [at_head]
          rfl
      | some ch =>
          unfold takeRun peek
          simp [at_head, stops ch at_head]
          rfl

theorem takeRun_pass {test : Char → Bool} {k : Nat} {ch : Char} {rest : List Char}
    (here : c.rest = ch :: rest) (passes : test ch = true) (bare : blankLength false rest = 0) :
    ∃ d, d.rest = rest ∧ d.ignoreBlanks = c.ignoreBlanks ∧
      (takeRun test (k + 1)).run c = (do return ch :: (← takeRun test k) : Reader _).run d := by
  obtain ⟨pattern, _, offset, blanks, captures, names⟩ := c
  cases here
  refine ⟨⟨pattern, rest, offset + 1, blanks, captures, names⟩, rfl, rfl, ?_⟩
  conv => lhs; unfold takeRun peek
  cases blanks with
  | false => simp [passes, bumpSkip, skipBlanks, advance, atEnd]
  | true => simp [passes, bumpSkip, skipBlanks, advance, bare, atEnd]

theorem takeRun_closing {test : Char → Bool} {k : Nat} (here : c.rest = closing)
    (enough : 2 ≤ k) (passes : test ')' = true) (passes' : test '$' = true) :
    ∃ d, d.rest = [] ∧ d.ignoreBlanks = c.ignoreBlanks ∧
      (takeRun test k).run c = .ok (closing, d) := by
  obtain ⟨k, rfl⟩ : ∃ less, k = less + 2 := ⟨k - 2, by omega⟩
  obtain ⟨d, one, blanks, ran⟩ := takeRun_pass (k := k + 1) here passes (by decide +kernel)
  obtain ⟨e, none, blanks', ran'⟩ := takeRun_pass (k := k) one passes' rfl
  refine ⟨e, none, blanks'.trans blanks, ?_⟩
  have stopped : (takeRun test k).run e = .ok ([], e) := takeRun_stop (by simp [none])
  rw [ran, StateT.run_bind, ran', StateT.run_bind, stopped]
  rfl

/-- At the end of the pattern by itself, a run in the enclosed one stops too, or takes the closing. -/
theorem abreast_takeRun_end (h : Enclosed n c c') (nothing : c.rest = []) {test : Char → Bool}
    {k k' : Nat} (same : test '$' = test ')') (enough : c'.rest.length ≤ k') :
    Abreast n c c' (takeRun test k) (takeRun test k')
      fun a b _ => test ')' = false → b = a := by
  intro a d b d' left right
  rw [takeRun_stop (by simp [nothing])] at left
  cases left
  rcases (nothing ▸ h.rest).nil with right_at | right_at
  · cases stops : test ')' with
    | false =>
        rw [takeRun_stop (by simp [right_at, closing, stops])] at right
        cases right
        exact ⟨h, fun _ => rfl⟩
    | true =>
        obtain ⟨e, none, blanks, ran⟩ :=
          takeRun_closing right_at (right_at ▸ enough) stops (same.trans stops)
        cases ran.symm.trans right
        refine ⟨⟨h.within, blanks.trans h.blanks, .inr ⟨nothing, none⟩⟩, fun passes => ?_⟩
        cases passes
  · rw [takeRun_stop (by simp [right_at])] at right
    cases right
    exact ⟨h, fun _ => rfl⟩

theorem abreast_takeRun (h : Enclosed n c c') {test : Char → Bool} {k k' : Nat}
    (same : test '$' = test ')') (enough : c.rest.length ≤ k) (enough' : c'.rest.length ≤ k') :
    Abreast n c c' (takeRun test k) (takeRun test k')
      fun a b _ => test ')' = false → b = a := by
  induction k generalizing n c c' k' with
  | zero => exact abreast_takeRun_end h (List.length_eq_zero_iff.mp (by omega)) same enough'
  | succ k ih =>
      by_cases nothing : c.rest = []
      · exact abreast_takeRun_end h nothing same enough'
      have long := h.rest.length_of_ne nothing
      obtain ⟨k', rfl⟩ : ∃ less, k' = less + 1 := ⟨k' - 1, by omega⟩
      unfold takeRun
      refine .peekChar h (fun ch more _ => ?_) fun _ stop => (nothing stop).elim
      refine .both rfl (fun _ => ?_) fun stops => .pure h fun _ => rfl
      refine .bind (abreast_bumpSkip h.tight more) fun next _ => ?_
      obtain ⟨short, short'⟩ := h.shorter nothing next
      refine .bind (ih next (by omega) (by omega)) fun last same => ?_
      exact .pure (h.loosen last) fun stops => by rw [same stops]

theorem abreast_skipAllBlanks (h : Enclosed n c c') :
    Abreast n c c' skipAllBlanks skipAllBlanks fun _ _ _ => True := by
  refine .get ?_
  rw [h.rest.takeWhile (by decide)]
  exact (abreast_advance h (List.takeWhile_prefix _).length_le).atMost (Nat.sub_le ..)

theorem abreast_readDecimal (h : Enclosed n c c') :
    Abreast n c c' readDecimal readDecimal fun _ _ _ => True := by
  unfold readDecimal
  refine .bind (abreast_skipAllBlanks h) fun h _ => ?_
  refine .position fun _ _ => ?_
  refine .remaining ?_
  refine .bind (abreast_takeRun h rfl (Nat.le_refl _) (Nat.le_refl _)) fun h same => ?_
  refine .since fun _ _ => ?_
  refine .bind (abreast_skipAllBlanks h) fun h _ => ?_
  rw [same (by decide)]
  split
  · exact .pure h trivial
  · split
    · exact .pure h trivial
    · exact .pure h trivial

theorem abreast_takeHexDigits (k : Nat) (h : Enclosed n c c') :
    Abreast n c c' (takeHexDigits k) (takeHexDigits k) fun a b _ => b = a := by
  induction k generalizing n c c' with
  | zero => exact .pure h rfl
  | succ k ih =>
      unfold takeHexDigits
      refine .peekChar h (fun ch more _ => ?_) fun _ _ _ => .left (by simp)
      dsimp only
      split
      · refine .bind (abreast_bumpSkip h more) fun h _ => ?_
        refine .bind (ih h) fun h same => ?_
        exact .pure (h.mono (Nat.sub_le ..)) (by rw [same])
      · exact .left (by simp)

theorem abreast_readHex (h : Enclosed n c c') (more : c.rest ≠ []) (start start' count : Nat) :
    Abreast n c c' (readHex start count) (readHex start' count) fun _ _ _ => True := by
  unfold readHex
  refine .bind (abreast_bumpSkip h more) @fun _ _ d _ h ended => ?_
  refine .check (by simp) (by simp) fun more _ => ?_
  replace more : d.rest ≠ [] := by simpa [ended] using more
  refine .peek ?_
  refine .both (h.rest.head?_eq (by decide)) (fun brace => ?_) fun _ => ?_
  · refine .position fun _ _ => ?_
    refine .bind (abreast_bumpSkip h more) fun h _ => ?_
    refine .remaining ?_
    refine .bind (abreast_takeRun h rfl (Nat.le_refl _) (Nat.le_refl _)) fun h same => ?_
    rw [same (by decide)]
    refine .peekChar h (fun ch more _ => ?_) fun _ _ _ => .left (by simp)
    split
    · exact .left (by simp)
    · refine .position fun _ _ => ?_
      refine .bind (abreast_bumpSkip h more) fun h _ => ?_
      refine .check (by simp) (by simp) fun _ _ => ?_
      split
      · exact .since fun _ _ => .pure (h.mono (by omega)) trivial
      · exact .left (by simp)
    · exact .left (by simp)
  · refine .position fun _ _ => ?_
    refine .bind (abreast_takeHexDigits count h) fun h same => ?_
    rw [same]
    split
    · exact .since fun _ _ => .pure (h.mono (by omega)) trivial
    · exact .left (by simp)

theorem abreast_readProperty (h : Enclosed n c c') (more : c.rest ≠ []) :
    Abreast n c c' readProperty readProperty fun _ _ _ => True := by
  unfold readProperty
  refine .bind (abreast_bumpSkip h more) @fun _ _ d _ h ended => ?_
  refine .check (by simp) (by simp) fun more _ => ?_
  refine .peekChar h (fun ch more _ => ?_) fun _ _ _ => .left (by simp)
  split
  · refine .bind (abreast_bumpSkip h more) fun h _ => ?_
    refine .remaining ?_
    refine .bind (abreast_takeRun h rfl (Nat.le_refl _) (Nat.le_refl _)) @fun _ _ d _ h same => ?_
    refine .atEnd ?_
    refine .check (by simp) (by simp) fun more _ => ?_
    replace more : d.rest ≠ [] := by simpa using more
    refine .bind (abreast_pass h more) fun h _ => ?_
    exact .pure (h.mono (by omega)) trivial
  · exact .left (by simp)
  · refine .bind (abreast_bumpSkip h more) fun h _ => ?_
    exact .pure (h.mono (by omega)) trivial
  · exact .left (by simp)

theorem abreast_readBoundaryName (h : Enclosed n c c') (more : c.rest ≠ []) (start start' : Nat) :
    Abreast n c c' (readBoundaryName start) (readBoundaryName start') fun a b _ => b = a := by
  unfold readBoundaryName
  refine .get ?_
  refine .position fun _ _ => ?_
  refine .bind (abreast_bumpSkip h more) @fun _ _ d d' next ended => ?_
  refine .check (by simp) (by simp) fun more _ => ?_
  replace more : d.rest ≠ [] := by simpa [ended] using more
  refine .position fun _ _ => ?_
  refine .peekChar next (fun ch more _ => ?_) fun _ nothing => (more nothing).elim
  refine .both rfl (fun _ => ?_) fun _ => ?_
  -- no name begins here: both cursors are put back before the brace
  · exact .of_run rfl rfl h rfl
  · refine .remaining ?_
    refine .bind (abreast_takeRun next rfl (Nat.le_refl _) (Nat.le_refl _)) fun h same => ?_
    rw [same (by decide)]
    refine .peek ?_
    refine .check (by simp) (by simp) fun closed _ => ?_
    refine .since fun _ _ => ?_
    have more := ne_nil_of_head? (by simpa using closed)
    refine .bind (abreast_pass h more) fun h _ => ?_
    split
    case h_5 => exact .left (by simp)
    all_goals exact .pure (h.mono (by omega)) rfl

theorem abreast_readEscape (h : Enclosed n c c') (more : c.rest ≠ []) :
    Abreast (n - 1) c c' readEscape readEscape fun _ b _ => b.indices = [] := by
  unfold readEscape
  refine .position fun _ _ => ?_
  refine .bind (abreast_bump h more) @fun _ _ d _ h ended => ?_
  refine .check (by simp) (by simp) fun more _ => ?_
  replace more : d.rest ≠ [] := by simpa [ended] using more
  refine .peekChar h (fun ch more _ => ?_) fun _ nothing => (more nothing).elim
  refine .check (by simp) (by simp) fun _ _ => ?_
  split
  · refine .bind (abreast_readHex h more _ _ _) fun h _ => ?_
    exact .pure h rfl
  refine .both rfl (fun _ => ?_) fun _ => ?_
  · refine .bind (abreast_readProperty h more) fun h _ => ?_
    exact .since fun _ _ => .pure h rfl
  refine .bind (abreast_pass h more) fun h _ => ?_
  have h := h.mono (Nat.sub_le ..)
  refine .since fun _ _ => ?_
  split
  · exact .pure h rfl
  refine .both rfl (fun _ => .pure h rfl) fun _ => ?_
  split
  · exact .pure h rfl
  split
  · exact .pure h rfl
  refine .both rfl (fun _ => ?_) fun _ => .left (by simp)
  refine .peek ?_
  refine .both (h.rest.head?_eq (by decide)) (fun brace => ?_) fun _ => .pure h rfl
  have more := ne_nil_of_head? (by simpa using brace)
  refine .bind (abreast_readBoundaryName h more _ _) fun h same => ?_
  rw [same]
  split
  · exact .since fun _ _ => .pure h rfl
  · exact .pure h rfl

/-! ## Bracketed classes -/

theorem abreast_readClassPart (h : Enclosed n c c') (more : c.rest ≠ []) :
    Abreast (n - 1) c c' readClassPart readClassPart fun _ b _ => b.indices = [] := by
  unfold readClassPart
  refine .peekChar h (fun ch more _ => ?_) fun _ nothing => (more nothing).elim
  split
  · exact abreast_readEscape h more
  · refine .hereChar fun _ _ => ?_
    refine .bind (abreast_pass h more) fun h _ => ?_
    exact .pure h rfl
  · rename_i none
    cases none

theorem stays_classItem (a : Ast) : Stays (classItem a) := by
  intro c item d ran
  unfold classItem at ran
  split at ran
  case h_4 => cases ran
  all_goals
    cases ran
    rfl

theorem stays_rangeEnd (a : Ast) : Stays (rangeEnd a) := by
  intro c item d ran
  unfold rangeEnd at ran
  split at ran
  · cases ran
    rfl
  · cases ran

theorem stays_orFail (r : Except (Cause × Span) Nat) : Stays (orFail r) := by
  intro c item d ran
  unfold orFail at ran
  split at ran
  · cases ran
    rfl
  · cases ran

/-- A text that begins with a comment, after the hash and the blanks in the comment. -/
def afterHash : List Char → List Char
  | '#' :: tail => tail.dropWhile Unicode.isSpace
  | tail => tail

theorem afterHash_cons {ch : Char} (other : ch ≠ '#') (tail : List Char) :
    afterHash (ch :: tail) = ch :: tail := by
  unfold afterHash
  split
  · rename_i same
    cases same
    exact (other rfl).elim
  · rfl

theorem closes_afterHash {tail tail' : List Char} (h : Closes tail tail') :
    Closes (afterHash tail) (afterHash tail') := by
  cases tail with
  | nil => rcases h.nil with rfl | rfl <;> exact h
  | cons ch tail =>
      obtain ⟨rest, rfl, after⟩ := h.tail
      by_cases hash : ch = '#'
      · subst hash
        exact after.dropWhile (by decide)
      · rw [afterHash_cons hash, afterHash_cons hash]
        exact h

/-- What `peekSecondSkip` looks at, from the text after the next character. -/
def secondSkip (blanks : Bool) (tail : List Char) : List Char :=
  if blanks then afterHash (tail.dropWhile Unicode.isSpace) else tail

theorem run_peekSecondSkip (c : Cursor) :
    peekSecondSkip.run c = .ok ((secondSkip c.ignoreBlanks (c.rest.drop 1)).head?, c) := by
  unfold peekSecondSkip secondSkip
  change (StateT.run (if c.ignoreBlanks = true then _ else _) c : Except _ _) = _
  split
  · rw [afterHash.eq_def]
    change (StateT.run (match (c.rest.drop 1).dropWhile Unicode.isSpace with
      | '#' :: tail => _ | tail => _) c : Except _ _) = _
    generalize (c.rest.drop 1).dropWhile Unicode.isSpace = tail
    split <;> rfl
  · rfl

theorem closes_secondSkip {tail tail' : List Char} (h : Closes tail tail') (blanks : Bool) :
    Closes (secondSkip blanks tail) (secondSkip blanks tail') := by
  cases blanks with
  | false => exact h
  | true => exact closes_afterHash (h.dropWhile (by decide))

theorem abreast_readClassRange (h : Enclosed n c c') (more : c.rest ≠ []) (s s' : Span) :
    Abreast (n - 1) c c' (readClassRange s) (readClassRange s') fun _ _ _ => True := by
  unfold readClassRange
  refine .bind (abreast_readClassPart h more) fun h _ => ?_
  refine .bind (abreast_skipBlanks h) @fun _ _ d _ h _ => ?_
  refine .atEnd ?_
  refine .check (by simp) (by simp) fun more _ => ?_
  replace more : d.rest ≠ [] := by simpa using more
  refine .still (run_peekSecondSkip _) (run_peekSecondSkip _) ?_
  have second := closes_secondSkip (h.rest.drop (List.length_pos_iff.mpr more)) d.ignoreBlanks
  rw [h.blanks]
  refine .peek ?_
  refine .both ?_ (fun _ => .stays h (stays_classItem _) (stays_classItem _)) fun _ => ?_
  · rw [bne, h.rest.head?_eq (by decide), second.head?_eq (by decide), second.head?_eq (by decide),
      ← bne]
  · refine .bind (abreast_bumpSkip h more) @fun _ _ d _ h ended => ?_
    refine .check (by simp) (by simp) fun more _ => ?_
    replace more : d.rest ≠ [] := by simpa [ended] using more
    refine .bind (abreast_readClassPart h more) fun h _ => ?_
    refine .bind (.stays h (stays_rangeEnd _) (stays_rangeEnd _)) fun h _ => ?_
    refine .bind (.stays h (stays_rangeEnd _) (stays_rangeEnd _)) fun h _ => ?_
    refine .check (by simp) (by simp) fun _ _ => ?_
    exact .pure (h.mono (by omega)) trivial

theorem abreast_readAsciiClass (h : Enclosed n c c') :
    Abreast n c c' readAsciiClass readAsciiClass
      fun a b d => b.isSome = a.isSome ∧ (a = none → d = c) := by
  unfold readAsciiClass
  refine .position fun _ _ => ?_
  refine .get ?_
  rcases h.rest.dropPrefix? ['[', ':'] (by simp) with
    ⟨left, right⟩ | ⟨rest, rest', left, right, parts, closes⟩
  · rw [left, right]
    exact .pure h ⟨rfl, fun _ => rfl⟩
  rw [left, right]
  dsimp only
  rw [closes.head?_eq (by decide)]
  generalize negative : (rest.head? == some '^') = negated
  have inner : Closes (if negated then rest.drop 1 else rest)
      (if negated then rest'.drop 1 else rest') := by
    cases negated with
    | false => exact closes
    | true =>
        have more := ne_nil_of_head? (eq_of_beq negative)
        exact closes.drop (List.length_pos_iff.mpr more)
  have long : rest.length = (if negated then 1 else 0) +
      (if negated then rest.drop 1 else rest).length := by
    cases negated with
    | false => exact (Nat.zero_add _).symm
    | true =>
        have pos := List.length_pos_iff.mpr (ne_nil_of_head? (eq_of_beq negative))
        simp only [if_true, List.length_drop]
        omega
  generalize (if negated then rest.drop 1 else rest) = name at *
  generalize (if negated then rest'.drop 1 else rest') = name' at *
  rw [Text.drop_length_takeWhile, Text.drop_length_takeWhile]
  rcases inner.cut (p := (· != ':')) rfl rfl with ⟨same, after⟩ | ⟨nothing, nothing'⟩
  · rw [same]
    rcases after.dropPrefix? [':', ']'] (by simp) with
      ⟨left, right⟩ | ⟨_, _, left, right, ends, _⟩
    · rw [left, right]
      exact .pure h ⟨rfl, fun _ => rfl⟩
    rw [left, right]
    cases AsciiClass.ofName? (String.ofList (name.takeWhile (· != ':'))) with
    | none => exact .pure h ⟨rfl, fun _ => rfl⟩
    | some kind =>
        have within : 4 + (name.takeWhile (· != ':')).length + (if negated then 1 else 0) ≤
            c.rest.length := by
          have cut := congrArg List.length (List.takeWhile_append_dropWhile (p := (· != ':')) (l := name))
          rw [ends] at cut
          rw [parts]
          simp only [List.length_append, List.length_cons, List.length_nil] at cut ⊢
          omega
        refine .bind (abreast_advance h within) fun h _ => ?_
        exact .since fun _ _ => .pure (h.mono (by omega)) ⟨rfl, nofun⟩
  · rw [nothing, nothing']
    exact .pure h ⟨rfl, fun _ => rfl⟩

theorem readLeadingHyphens_stop {start k : Nat} (stops : (c.rest.head? == some '-') = false) :
    (readLeadingHyphens start k).run c = .ok ([], c) := by
  cases k with
  | zero => rfl
  | succ k =>
      unfold readLeadingHyphens peek
      simp only [StateT.run_bind]
      change (StateT.run (if (c.rest.head? == some '-') = true then _ else _) c : Except _ _) = _
      rw [stops]
      rfl

theorem abreast_readLeadingHyphens (h : Enclosed n c c') {k k' : Nat} (start start' : Nat)
    (enough : c.rest.length ≤ k) (enough' : c'.rest.length ≤ k') :
    Abreast n c c' (readLeadingHyphens start k) (readLeadingHyphens start' k')
      fun a b _ => b.isEmpty = a.isEmpty := by
  induction k generalizing n c c' k' with
  | zero =>
      have nothing := List.length_eq_zero_iff.mp (Nat.le_zero.mp enough)
      refine .of_run (readLeadingHyphens_stop ?_) (readLeadingHyphens_stop ?_) h rfl
      · rw [nothing]
        rfl
      · rw [h.rest.head?_eq (by decide), nothing]
        rfl
  | succ k ih =>
      cases hyphen : (c.rest.head? == some '-') with
      | false =>
          refine .of_run (readLeadingHyphens_stop hyphen) (readLeadingHyphens_stop ?_) h rfl
          rw [h.rest.head?_eq (by decide), hyphen]
      | true =>
          have nothing := ne_nil_of_head? (eq_of_beq hyphen)
          have long := h.rest.length_of_ne nothing
          obtain ⟨k', rfl⟩ : ∃ less, k' = less + 1 := ⟨k' - 1, by omega⟩
          unfold readLeadingHyphens
          refine .peek ?_
          rw [h.rest.head?_eq (by decide), hyphen]
          refine .hereChar fun _ _ => ?_
          refine .bind (abreast_bumpSkip h.tight nothing) @fun _ _ d _ next _ => ?_
          refine .check (by simp) (by simp) fun more _ => ?_
          obtain ⟨short, short'⟩ := h.shorter nothing next
          refine .bind (ih next (by omega) (by omega)) fun last _ => ?_
          exact .pure (h.loosen last) rfl

theorem abreast_readClassOpen (h : Enclosed n c c') (more : c.rest ≠ []) :
    Abreast (n - 1) c c' readClassOpen readClassOpen fun _ _ _ => True := by
  unfold readClassOpen
  refine .position fun _ _ => ?_
  refine .bind (abreast_bumpSkip h more) @fun _ _ d _ h ended => ?_
  refine .check (by simp) (by simp) fun more _ => ?_
  replace more : d.rest ≠ [] := by simpa [ended] using more
  refine .peek ?_
  rw [h.rest.head?_eq (by decide)]
  refine .join rfl h (fun h => ?_) fun _ rest => ?_
  · refine .remaining ?_
    refine .bind (abreast_readLeadingHyphens h _ _ (Nat.le_refl _) (Nat.le_refl _)) fun h same => ?_
    refine .peek ?_
    rw [h.rest.head?_eq (by decide), same]
    refine .both rfl (fun bracket => ?_) fun _ => .since fun _ _ => .pure h trivial
    have more := ne_nil_of_head? (eq_of_beq (Bool.and_eq_true_iff.mp bracket).2)
    refine .hereChar fun _ _ => ?_
    refine .bind (abreast_bumpSkip h more) fun h _ => ?_
    refine .check (by simp) (by simp) fun _ _ => ?_
    exact .since fun _ _ => .pure (h.mono (by omega)) trivial
  · refine .bind (abreast_bumpSkip h more) fun h _ => ?_
    exact .check (by simp) (by simp) fun _ _ => rest (h.mono (by omega))

theorem abreast_readClassBody (h : Enclosed n c c') (k k' : Nat) (s s' : Span)
    (left left' : Option (SetOp × ClassSet)) (items items' : List ClassItem) :
    Abreast n c c' (readClassBody s k left items) (readClassBody s' k' left' items')
      fun _ _ _ => True := by
  -- a body that runs out of fuel fails, so the two may have any
  induction k generalizing n c c' k' s s' left left' items items' with
  | zero => exact .left (by simp [readClassBody])
  | succ k ih =>
      cases k' with
      | zero => exact .right (by simp [readClassBody])
      | succ k' =>
          unfold readClassBody
          refine .bind (abreast_skipBlanks h) @fun _ _ d d' h _ => ?_
          refine .peekChar h (fun ch more at_head => ?_) fun _ _ _ => .left (by simp)
          split
          · exact .left (by simp)
          · refine .bind (abreast_pass h more) fun h _ => ?_
            exact .pure (h.mono (by omega)) trivial
          · refine .bind (abreast_readAsciiClass h) @fun found found' d _ next same => ?_
            rcases found with _ | item <;> rcases found' with _ | item'
            · obtain rfl := same.2 rfl
              refine .position fun _ _ => ?_
              refine .bind (abreast_readClassOpen next more) fun h _ => ?_
              refine .bind (ih h _ _ _ _ _ _ _) fun h _ => ?_
              refine .since fun _ _ => ?_
              exact (ih h _ _ _ _ _ _ _).atMost (Nat.sub_le ..)
            · cases same.1
            · cases same.1
            · exact ih next _ _ _ _ _ _ _
          · rename_i other _ at_head
            cases at_head
            split
            · rename_i operator
              have second := h.rest.drop (List.length_pos_iff.mpr more)
              refine .still (a := (d.rest.drop 1).head?) (b := (d'.rest.drop 1).head?) rfl rfl ?_
              refine .both (second.head?_eq ?_) (fun twice => ?_) fun _ => ?_
              · rintro rfl
                cases operator
              · have more' := ne_nil_of_head? (eq_of_beq twice)
                have within : 2 ≤ d.rest.length := by
                  have := List.length_pos_iff.mpr more'
                  rw [List.length_drop] at this
                  omega
                refine .bind (abreast_advance h within) fun h _ => ?_
                exact (ih h _ _ _ _ _ _ _).atMost (Nat.sub_le ..)
              · refine .bind (abreast_readClassRange h more _ _) fun h _ => ?_
                exact (ih h _ _ _ _ _ _ _).atMost (Nat.sub_le ..)
            · refine .bind (abreast_readClassRange h more _ _) fun h _ => ?_
              exact (ih h _ _ _ _ _ _ _).atMost (Nat.sub_le ..)

theorem abreast_readClass (h : Enclosed n c c') (more : c.rest ≠ []) :
    Abreast (n - 1) c c' readClass readClass fun _ b _ => b.indices = [] := by
  unfold readClass
  refine .position fun _ _ => ?_
  refine .bind (abreast_readClassOpen h more) fun h _ => ?_
  refine .remaining ?_
  refine .bind (abreast_readClassBody h _ _ _ _ _ _ _ _) fun h _ => ?_
  exact .since fun _ _ => .pure h rfl

end Paradigm.Regex.Reader
