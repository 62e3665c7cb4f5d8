import Paradigm.Proofs.Result
import Paradigm.Regex.Reader

/-!
# A pattern read twice

A pattern by itself and the same pattern with a closing parenthesis and an anchor after it are read
abreast: as long as both reads succeed, what is left of the two differs by these characters only,
unless a comment has taken them.
-/

namespace Paradigm.Regex

/-- What stands after a pattern that is enclosed between anchors. -/
def closing : List Char := [')', '$']

/-- The second text goes on as the first one does, with the closing after it, or both are over. -/
def Closes (text closed : List Char) : Prop :=
  closed = text ++ closing ∨ text = [] ∧ closed = []

section

variable {text closed : List Char}

theorem Closes.cons {c : Char} (h : Closes (c :: text) closed) :
    closed = c :: (text ++ closing) := by
  rcases h with same | ⟨nothing, _⟩
  · exact same
  · cases nothing

theorem Closes.tail {c : Char} (h : Closes (c :: text) closed) :
    ∃ rest, closed = c :: rest ∧ Closes text rest :=
  ⟨text ++ closing, h.cons, .inl rfl⟩

theorem Closes.nil (h : Closes [] closed) : closed = closing ∨ closed = [] := by
  rcases h with same | ⟨_, same⟩
  · exact .inl same
  · exact .inr same

theorem Closes.length_le (h : Closes text closed) : closed.length ≤ text.length + 2 := by
  rcases h with rfl | ⟨rfl, rfl⟩
  · exact Nat.le_of_eq List.length_append
  · exact Nat.zero_le _

theorem Closes.length_of_ne (h : Closes text closed) (more : text ≠ []) :
    closed.length = text.length + 2 := by
  rcases h with rfl | ⟨nothing, _⟩
  · exact List.length_append
  · exact (more nothing).elim

theorem Closes.drop (h : Closes text closed) {n : Nat} (within : n ≤ text.length) :
    Closes (text.drop n) (closed.drop n) := by
  rcases h with rfl | ⟨rfl, rfl⟩
  · exact .inl (List.drop_append_of_le_length within)
  · simp [Closes]

theorem Closes.dropWhile (h : Closes text closed) {p : Char → Bool} (stops : p ')' = false) :
    Closes (text.dropWhile p) (closed.dropWhile p) := by
  induction text generalizing closed with
  | nil =>
      rcases h.nil with rfl | rfl
      · exact .inl (by simp [closing, stops])
      · exact .inr ⟨rfl, rfl⟩
  | cons c text ih =>
      obtain ⟨rest, rfl, tail⟩ := h.tail
      rw [List.dropWhile_cons, List.dropWhile_cons]
      split
      · exact ih tail
      · exact h

theorem Closes.takeWhile (h : Closes text closed) {p : Char → Bool} (stops : p ')' = false) :
    closed.takeWhile p = text.takeWhile p := by
  induction text generalizing closed with
  | nil =>
      rcases h.nil with rfl | rfl
      · simp [closing, stops]
      · rfl
  | cons c text ih =>
      obtain ⟨rest, rfl, tail⟩ := h.tail
      rw [List.takeWhile_cons, List.takeWhile_cons, ih tail]

/-- A run that passes the closing ends at the same place in both texts, or at the end of both. -/
theorem Closes.cut (h : Closes text closed) {p : Char → Bool} (passes : p ')' = true)
    (passes' : p '$' = true) :
    closed.takeWhile p = text.takeWhile p ∧ Closes (text.dropWhile p) (closed.dropWhile p) ∨
      text.dropWhile p = [] ∧ closed.dropWhile p = [] := by
  induction text generalizing closed with
  | nil =>
      refine .inr ⟨rfl, ?_⟩
      rcases h.nil with rfl | rfl
      · simp [closing, passes, passes']
      · rfl
  | cons c text ih =>
      obtain ⟨rest, rfl, tail⟩ := h.tail
      simp only [List.dropWhile_cons, List.takeWhile_cons]
      split
      · rcases ih tail with ⟨same, tail⟩ | nothing
        · exact .inl ⟨by rw [same], tail⟩
        · exact .inr nothing
      · exact .inl ⟨rfl, h⟩

/-- At the end of the first text, the second one has no character or a closing parenthesis. -/
theorem Closes.head? (h : Closes text closed) :
    closed.head? = text.head? ∨ text.head? = none ∧ closed.head? = some ')' := by
  cases text with
  | nil =>
      rcases h.nil with rfl | rfl
      · exact .inr ⟨rfl, rfl⟩
      · exact .inl rfl
  | cons c text =>
      obtain ⟨rest, rfl, _⟩ := h.tail
      exact .inl rfl

theorem Closes.head?_eq (h : Closes text closed) {c : Char} (other : c ≠ ')') :
    (closed.head? == some c) = (text.head? == some c) := by
  rcases h.head? with same | ⟨nothing, closes⟩
  · rw [same]
  · rw [nothing, closes]
    simpa using other.symm

theorem Closes.dropPrefix? (h : Closes text closed) (start : List Char)
    (other : ∀ c ∈ start, c ≠ ')') :
    Text.dropPrefix? start text = none ∧ Text.dropPrefix? start closed = none ∨
      ∃ rest rest', Text.dropPrefix? start text = some rest ∧
        Text.dropPrefix? start closed = some rest' ∧ text = start ++ rest ∧ Closes rest rest' := by
  induction start generalizing text closed with
  | nil => exact .inr ⟨text, closed, rfl, rfl, rfl, h⟩
  | cons c start ih =>
      obtain ⟨first, others⟩ := List.forall_mem_cons.mp other
      cases text with
      | nil =>
          refine .inl ⟨rfl, ?_⟩
          rcases h.nil with rfl | rfl
          · simp [closing, Text.dropPrefix?, first]
          · rfl
      | cons d text =>
          obtain ⟨closed, rfl, tail⟩ := h.tail
          rw [Text.dropPrefix?, Text.dropPrefix?]
          split
          · rename_i same
            rcases ih tail others with none | ⟨rest, rest', left, right, parts, closes⟩
            · exact .inl none
            · exact .inr ⟨rest, rest', left, right, by rw [same, parts, List.cons_append], closes⟩
          · exact .inl ⟨rfl, rfl⟩

end

namespace Reader

/-- The second cursor stands in the enclosed pattern where the first one stands in the pattern by
itself, and at most `n` characters of the pattern are left. -/
structure Enclosed (n : Nat) (c c' : Cursor) : Prop where
  within : c.rest.length ≤ n
  blanks : c'.ignoreBlanks = c.ignoreBlanks
  rest : Closes c.rest c'.rest

theorem Enclosed.mono {m n : Nat} {c c' : Cursor} (h : Enclosed m c c') (le : m ≤ n) :
    Enclosed n c c' :=
  ⟨Nat.le_trans h.within le, h.blanks, h.rest⟩

theorem Enclosed.pos {n : Nat} {c c' : Cursor} (h : Enclosed n c c') (more : c.rest ≠ []) :
    1 ≤ n :=
  Nat.le_trans (List.length_pos_iff.mpr more) h.within

theorem Enclosed.tight {n : Nat} {c c' : Cursor} (h : Enclosed n c c') :
    Enclosed c.rest.length c c' :=
  ⟨Nat.le_refl _, h.blanks, h.rest⟩

/-- What is passed in the pattern by itself is passed in the enclosed one too. -/
theorem Enclosed.shorter {n : Nat} {c c' d d' : Cursor} (h : Enclosed n c c') (more : c.rest ≠ [])
    (next : Enclosed (c.rest.length - 1) d d') :
    d.rest.length < c.rest.length ∧ d'.rest.length < c'.rest.length := by
  have pos := List.length_pos_iff.mpr more
  have long := h.rest.length_of_ne more
  have short := next.within
  have short' := next.rest.length_le
  omega

theorem Enclosed.loosen {n : Nat} {c c' d d' : Cursor} (h : Enclosed n c c')
    (next : Enclosed (c.rest.length - 1) d d') : Enclosed n d d' :=
  next.mono (Nat.le_trans (Nat.sub_le ..) h.within)

theorem Enclosed.withBlanks {n : Nat} {c c' : Cursor} (h : Enclosed n c c')
    {blanks blanks' : Bool} (same : blanks' = blanks) :
    Enclosed n { c with ignoreBlanks := blanks } { c' with ignoreBlanks := blanks' } :=
  ⟨h.within, same, h.rest⟩

theorem ne_nil_of_head? {text : List Char} {ch : Char} (h : text.head? = some ch) :
    text ≠ [] := by
  rintro rfl
  cases h

/-- If both readers succeed, the second one stays where the first one is, with at most `n`
characters left, and the results and the cursor of the first one are in the relation. -/
def Abreast {α β : Type} (n : Nat) (c c' : Cursor) (x : Reader α) (y : Reader β)
    (Q : α → β → Cursor → Prop) : Prop :=
  ∀ a d b d', x.run c = .ok (a, d) → y.run c' = .ok (b, d') → Enclosed n d d' ∧ Q a b d

/-- A reader that never succeeds. -/
def Fails {α : Type} (x : Reader α) : Prop := ∀ c a d, x.run c ≠ .ok (a, d)

/-- A reader that reads nothing. -/
def Stays {α : Type} (x : Reader α) : Prop := ∀ c a d, x.run c = .ok (a, d) → d = c

section

variable {α β γ δ : Type} {n m : Nat} {c c' : Cursor} {x : Reader α} {y : Reader β}
  {Q : α → β → Cursor → Prop} {R : γ → δ → Cursor → Prop}

theorem of_run_bind {f : α → Reader β} {b : β} {d : Cursor}
    (h : (x >>= f).run c = .ok (b, d)) :
    ∃ a e, x.run c = .ok (a, e) ∧ (f a).run e = .ok (b, d) := by
  rw [StateT.run_bind] at h
  obtain ⟨⟨a, e⟩, ran, h⟩ := of_bind_ok h
  exact ⟨a, e, ran, h⟩

/-! ## Failing -/

@[simp]
theorem fails_failBoth (span : Span) (cause : Cause) (earlier : Option Span) :
    Fails (failBoth span cause earlier : Reader α) := nofun

@[simp]
theorem fails_failAt (span : Span) (cause : Cause) : Fails (failAt span cause : Reader α) := nofun

@[simp]
theorem Fails.bind {f : α → Reader β} (h : Fails x) : Fails (x >>= f) := by
  intro c b d ran
  obtain ⟨a, e, ran, _⟩ := of_run_bind ran
  exact h c a e ran

@[simp]
theorem Fails.of_bind {f : α → Reader β} (h : ∀ a, Fails (f a)) : Fails (x >>= f) := by
  intro c b d ran
  obtain ⟨a, e, _, ran⟩ := of_run_bind ran
  exact h a e b d ran

@[simp]
theorem Fails.map {f : α → β} (h : Fails x) : Fails (f <$> x) := by
  rw [map_eq_pure_bind]
  exact h.bind

/-! ## Rules -/

namespace Abreast

theorem left (h : Fails x) : Abreast n c c' x y Q := fun a d _ _ ran _ => (h c a d ran).elim

theorem right (h : Fails y) : Abreast n c c' x y Q := fun _ _ b d' _ ran => (h c' b d' ran).elim

theorem pure {a : α} {b : β} (h : Enclosed n c c') (q : Q a b c) :
    Abreast n c c' (pure a) (pure b) Q := by
  intro a d b d' left right
  cases left
  cases right
  exact ⟨h, q⟩

theorem of_run {a : α} {b : β} {d d' : Cursor} (left : x.run c = .ok (a, d))
    (right : y.run c' = .ok (b, d')) (h : Enclosed n d d') (q : Q a b d) :
    Abreast n c c' x y Q := by
  intro _ _ _ _ ran ran'
  cases left.symm.trans ran
  cases right.symm.trans ran'
  exact ⟨h, q⟩

theorem stays (h : Enclosed n c c') (left : Stays x) (right : Stays y) :
    Abreast n c c' x y fun _ _ _ => True := by
  intro a d b d' ran ran'
  rw [left c a d ran, right c' b d' ran']
  exact ⟨h, trivial⟩

theorem bind {f : α → Reader γ} {g : β → Reader δ} (first : Abreast n c c' x y Q)
    (rest : ∀ {a b d d'}, Enclosed n d d' → Q a b d → Abreast m d d' (f a) (g b) R) :
    Abreast m c c' (x >>= f) (y >>= g) R := by
  intro a d b d' left right
  obtain ⟨a, e, left, left'⟩ := of_run_bind left
  obtain ⟨b, e', right, right'⟩ := of_run_bind right
  obtain ⟨enclosed, q⟩ := first a e b e' left right
  exact rest enclosed q _ _ _ _ left' right'

theorem atMost (h : Abreast m c c' x y Q) (le : m ≤ n) : Abreast n c c' x y Q := by
  intro a d b d' left right
  obtain ⟨enclosed, q⟩ := h a d b d' left right
  exact ⟨enclosed.mono le, q⟩

/-- Where one of two branches fails, both readers take the other one. -/
theorem check {p q : Prop} [Decidable p] [Decidable q] {x x' : Reader α} {y y' : Reader β}
    (left : Fails x) (right : Fails y) (rest : ¬p → ¬q → Abreast n c c' x' y' Q) :
    Abreast n c c' (if p then x else x') (if q then y else y') Q := by
  split
  · exact .left left
  · split
    · exact .right right
    · exact rest ‹_› ‹_›

/-- Where both conditions say the same, both readers take the same branch. -/
theorem both {p q : Bool} (same : q = p) {x x' : Reader α} {y y' : Reader β}
    (yes : p = true → Abreast n c c' x y Q) (no : p = false → Abreast n c c' x' y' Q) :
    Abreast n c c' (if p then x else x') (if q then y else y') Q := by
  subst same
  cases q with
  | false => exact no rfl
  | true => exact yes rfl

/-- Where both readers may take the same detour before they go on alike. -/
theorem join {p q : Bool} (same : q = p) {x x' : Reader α} {y y' : Reader β} (h : Enclosed m c c')
    (rest : ∀ {d d'}, Enclosed m d d' → Abreast n d d' x' y' Q)
    (detour : p = true → (∀ {d d'}, Enclosed m d d' → Abreast n d d' x' y' Q) →
      Abreast n c c' x y Q) :
    Abreast n c c' (if p then x else x') (if q then y else y') Q :=
  .both same (fun yes => detour yes rest) fun _ => rest h

theorem still {a : α} {b : β} {f : α → Reader γ} {g : β → Reader δ}
    (left : x.run c = .ok (a, c)) (right : y.run c' = .ok (b, c'))
    (rest : Abreast n c c' (f a) (g b) R) : Abreast n c c' (x >>= f) (y >>= g) R := by
  intro e d e' d' ran ran'
  rw [StateT.run_bind, left] at ran
  rw [StateT.run_bind, right] at ran'
  exact rest e d e' d' ran ran'

section

variable {f : Span → Reader γ} {g : Span → Reader δ}

theorem position {f : Nat → Reader γ} {g : Nat → Reader δ}
    (h : ∀ k k', Abreast n c c' (f k) (g k') R) :
    Abreast n c c' (position >>= f) (position >>= g) R := h _ _

theorem since {s s' : Nat} (h : ∀ k k', Abreast n c c' (f k) (g k') R) :
    Abreast n c c' (since s >>= f) (since s' >>= g) R := h _ _

theorem here (h : ∀ k k', Abreast n c c' (f k) (g k') R) :
    Abreast n c c' (here >>= f) (here >>= g) R := h _ _

theorem hereChar (h : ∀ k k', Abreast n c c' (f k) (g k') R) :
    Abreast n c c' (hereChar >>= f) (hereChar >>= g) R := h _ _

end

theorem get {f : Cursor → Reader γ} {g : Cursor → Reader δ} (h : Abreast n c c' (f c) (g c') R) :
    Abreast n c c' (MonadState.get >>= f) (MonadState.get >>= g) R := h

theorem modify {u u' : Cursor → Cursor} {f : Unit → Reader γ} {g : Unit → Reader δ}
    (h : Abreast n (u c) (u' c') (f ()) (g ()) R) :
    Abreast n c c' (modify u >>= f) (modify u' >>= g) R := h

theorem peek {f : Option Char → Reader γ} {g : Option Char → Reader δ}
    (h : Abreast n c c' (f c.rest.head?) (g c'.rest.head?) R) :
    Abreast n c c' (peek >>= f) (peek >>= g) R := h

theorem atEnd {f : Bool → Reader γ} {g : Bool → Reader δ}
    (h : Abreast n c c' (f c.rest.isEmpty) (g c'.rest.isEmpty) R) :
    Abreast n c c' (atEnd >>= f) (atEnd >>= g) R := h

theorem remaining {f : Nat → Reader γ} {g : Nat → Reader δ}
    (h : Abreast n c c' (f c.rest.length) (g c'.rest.length) R) :
    Abreast n c c' (remaining >>= f) (remaining >>= g) R := h

/-- The next character, if there is one, is the same. -/
theorem peekChar {f : Option Char → Reader γ} {g : Option Char → Reader δ} (h : Enclosed m c c')
    (char : ∀ ch, c.rest ≠ [] → c.rest.head? = some ch →
      Abreast n c c' (f (some ch)) (g (some ch)) R)
    (stop : ∀ o, c.rest = [] → (o = none ∨ o = some ')') → Abreast n c c' (f none) (g o) R) :
    Abreast n c c' (Reader.peek >>= f) (Reader.peek >>= g) R := by
  refine .peek ?_
  cases left : c.rest with
  | nil =>
      refine stop _ left ?_
      rcases (left ▸ h.rest).nil with right | right <;> simp [right, closing]
  | cons ch rest =>
      obtain ⟨rest', right, _⟩ := (left ▸ h.rest).tail
      rw [right, List.head?_cons, List.head?_cons]
      exact char ch (by simp [left]) (by simp [left])

end Abreast

/-! ## Moving -/

theorem abreast_advance (h : Enclosed n c c') {k : Nat} (within : k ≤ c.rest.length) :
    Abreast (n - k) c c' (advance k) (advance k) fun _ _ _ => True := by
  intro _ d _ d' left right
  cases left
  cases right
  refine ⟨⟨?_, h.blanks, h.rest.drop within⟩, trivial⟩
  dsimp only
  have := h.within
  rw [List.length_drop]
  omega

theorem abreast_pass (h : Enclosed n c c') (more : c.rest ≠ []) :
    Abreast (n - 1) c c' (advance 1) (advance 1) fun _ _ _ => True :=
  abreast_advance h (List.length_pos_iff.mpr more)

theorem blankLength_le (comment : Bool) (text : List Char) :
    blankLength comment text ≤ text.length := by
  induction text generalizing comment with
  | nil => cases comment <;> exact Nat.zero_le _
  | cons c text ih =>
      have := ih false
      have := ih true
      have := ih (c != '\n')
      cases comment with
      | false =>
          rw [blankLength, List.length_cons]
          split
          · omega
          split <;> omega
      | true =>
          rw [blankLength, List.length_cons]
          omega

/-- Blanks end where they end without the closing, or a comment takes all of it. -/
theorem blankLength_closing (comment : Bool) (text : List Char) :
    blankLength comment (text ++ closing) = blankLength comment text ∨
      blankLength comment text = text.length ∧
        blankLength comment (text ++ closing) = text.length + 2 := by
  induction text generalizing comment with
  | nil => cases comment <;> decide +kernel
  | cons c text ih =>
      rw [List.cons_append, List.length_cons]
      cases comment with
      | false =>
          rw [blankLength, blankLength]
          split
          · have := ih false
            omega
          split
          · have := ih true
            omega
          · exact .inl rfl
      | true =>
          rw [blankLength, blankLength]
          have := ih (c != '\n')
          omega

theorem closes_dropBlanks {text closed : List Char} (h : Closes text closed) :
    Closes (text.drop (blankLength false text)) (closed.drop (blankLength false closed)) := by
  rcases h with rfl | ⟨rfl, rfl⟩
  · rcases blankLength_closing false text with same | ⟨all, nothing⟩
    · rw [same]
      exact Closes.drop (.inl rfl) (blankLength_le false text)
    · rw [all, nothing]
      exact .inr ⟨List.drop_length, by simp [closing]⟩
  · exact .inr ⟨rfl, rfl⟩

theorem abreast_skipBlanks (h : Enclosed n c c') :
    Abreast n c c' skipBlanks skipBlanks fun _ _ _ => True := by
  refine .get ?_
  refine .both h.blanks (fun _ => ?_) fun _ => .pure h trivial
  intro _ d _ d' left right
  cases left
  cases right
  refine ⟨⟨?_, h.blanks, closes_dropBlanks h.rest⟩, trivial⟩
  exact Nat.le_trans (List.drop_sublist ..).length_le h.within

theorem abreast_bump (h : Enclosed n c c') (more : c.rest ≠ []) :
    Abreast (n - 1) c c' bump bump fun a _ d => a = !d.rest.isEmpty := by
  refine .bind (abreast_pass h more) fun h _ => ?_
  exact .atEnd (.pure h rfl)

theorem abreast_bumpSkip (h : Enclosed n c c') (more : c.rest ≠ []) :
    Abreast (n - 1) c c' bumpSkip bumpSkip fun a _ d => a = !d.rest.isEmpty := by
  refine .bind (abreast_pass h more) fun h _ => ?_
  refine .bind (abreast_skipBlanks h) fun h _ => ?_
  exact .atEnd (.pure h rfl)

end

end Reader

end Paradigm.Regex
