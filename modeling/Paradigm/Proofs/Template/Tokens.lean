import Paradigm.Template

/-!
# Tokens of templates

How the tokens of a replacement template are written, said without an order of tests. Main
statement: every template is a sequence of tokens in one way only, up to an escape that is none.
-/

namespace Paradigm

namespace Template

/-! ## How tokens are written -/

/-- The control characters that an escaped letter stands for. -/
def controls : List (Char × Char) :=
  [('a', '\x07'), ('b', '\x08'), ('f', '\x0C'), ('n', '\n'), ('r', '\r'), ('t', '\t'),
    ('v', '\x0B')]

/-- The first character of a text, if there is one, is not of a class. -/
def Ends (inClass : Char → Bool) (rest : List Char) : Prop :=
  ∀ c ∈ rest.head?, inClass c = false

/-- A text begins with a token, and what follows is the rest. Group numbers and octal characters
take the digits that stand there as far as they go. -/
inductive Reads : List Char → Token → List Char → Prop where
  | plain {c : Char} {rest : List Char} (unescaped : c ≠ '\\') : Reads (c :: rest) (.char c) rest
  | groupNumber {name rest : List Char} (nonempty : name ≠ []) (closed : '>' ∉ name)
    (digits : ∀ d ∈ name, Text.isDigit d = true) :
    Reads ('\\' :: 'g' :: '<' :: (name ++ '>' :: rest)) (.number name) rest
  | groupName {name rest : List Char} (nonempty : name ≠ []) (closed : '>' ∉ name)
    (other : ∃ d ∈ name, Text.isDigit d = false) :
    Reads ('\\' :: 'g' :: '<' :: (name ++ '>' :: rest)) (.name name) rest
  | octal {digits rest : List Char} (octal : ∀ d ∈ digits, isOctal d = true)
    (short : digits.length ≤ 2) (whole : digits.length < 2 → Ends isOctal rest) :
    Reads ('\\' :: '0' :: (digits ++ rest)) (.octal ('0' :: digits)) rest
  | threeOctal {d e f : Char} {rest : List Char} (nonzero : d ≠ '0')
    (octal : isOctal d = true ∧ isOctal e = true ∧ isOctal f = true) :
    Reads ('\\' :: d :: e :: f :: rest) (.octal [d, e, f]) rest
  | twoDigits {d e : Char} {rest : List Char} (nonzero : d ≠ '0')
    (digits : Text.isDigit d = true ∧ Text.isDigit e = true)
    (noOctal : isOctal d = true → isOctal e = true → Ends isOctal rest) :
    Reads ('\\' :: d :: e :: rest) (.number [d, e]) rest
  | oneDigit {d : Char} {rest : List Char} (nonzero : d ≠ '0') (digit : Text.isDigit d = true)
    (single : Ends Text.isDigit rest) : Reads ('\\' :: d :: rest) (.number [d]) rest
  | backslash {rest : List Char} : Reads ('\\' :: '\\' :: rest) (.char '\\') rest
  | control {c control : Char} {rest : List Char} (listed : (c, control) ∈ controls) :
    Reads ('\\' :: c :: rest) (.char control) rest
  | verbatim {c : Char} {rest : List Char} (other : c ≠ '\\') (noDigit : Text.isDigit c = false)
    (noLetter : Text.isAsciiLetter c = false) : Reads ('\\' :: c :: rest) (.verbatim c) rest

/-- A text begins with a backslash, but with no token. -/
inductive Malformed : List Char → TemplateError → Prop where
  | trailing : Malformed ['\\'] .trailingBackslash
  | letter {c : Char} {rest : List Char} (letter : Text.isAsciiLetter c = true) (other : c ≠ 'g')
    (unlisted : ∀ control, (c, control) ∉ controls) :
    Malformed ('\\' :: c :: rest) (.badEscape c)
  | unopened {rest : List Char} (unopened : rest.head? ≠ some '<') :
    Malformed ('\\' :: 'g' :: rest) .missingGroupName
  | unclosed {rest : List Char} (unclosed : '>' ∉ rest) :
    Malformed ('\\' :: 'g' :: '<' :: rest) .missingGroupName
  | unnamed {rest : List Char} : Malformed ('\\' :: 'g' :: '<' :: '>' :: rest) .missingGroupName

/-- A text is a sequence of tokens. Behind an escape that is no token nothing is read any more. -/
inductive Spells : List Char → List Token → Prop where
  | done : Spells [] []
  | token {text rest : List Char} {t : Token} {ts : List Token} (reads : Reads text t rest)
    (spells : Spells rest ts) : Spells text (t :: ts)
  | stuck {text : List Char} {e : TemplateError} (malformed : Malformed text e) :
    Spells text [.bad e]

/-! ## Classes of characters -/

theorem isDigit_iff {c : Char} : Text.isDigit c = true ↔ '0' ≤ c ∧ c ≤ '9' := by
  unfold Text.isDigit Text.digit?
  split <;> simp_all

theorem isOctal_iff {c : Char} : isOctal c = true ↔ '0' ≤ c ∧ c ≤ '7' := by
  simp [isOctal]

theorem isDigit_of_isOctal {c : Char} (h : isOctal c = true) : Text.isDigit c = true := by
  obtain ⟨low, high⟩ := isOctal_iff.mp h
  exact isDigit_iff.mpr ⟨low, Char.le_trans high (by decide)⟩

theorem isDigit_of_letter {c : Char} (h : Text.isAsciiLetter c = true) :
    Text.isDigit c = false := by
  refine Bool.eq_false_iff.mpr fun digit => ?_
  have high := (isDigit_iff.mp digit).2
  simp only [Text.isAsciiLetter, Bool.or_eq_true, Bool.and_eq_true, decide_eq_true_eq] at h
  rcases h with ⟨low, _⟩ | ⟨low, _⟩
  · exact absurd (Char.le_trans low high) (by decide)
  · exact absurd (Char.le_trans low high) (by decide)

theorem control?_eq_some_iff {c control : Char} :
    control? c = some control ↔ (c, control) ∈ controls := by
  unfold control?
  split <;> simp_all [controls, eq_comm]

theorem isAsciiLetter_of_control {c control : Char} (h : (c, control) ∈ controls) :
    Text.isAsciiLetter c = true := by
  have letters : ∀ p ∈ controls, Text.isAsciiLetter p.1 = true := by decide
  exact letters _ h

/-! ## Names and digits -/

theorem untilAngle_append {name : List Char} (closed : '>' ∉ name) (rest : List Char) :
    untilAngle (name ++ '>' :: rest) = some (name, rest) := by
  induction name with
  | nil => rfl
  | cons c name ih =>
      obtain ⟨other, closed⟩ := List.ne_and_not_mem_of_not_mem_cons closed
      simp [untilAngle, other.symm, ih closed]

theorem of_untilAngle {text name rest : List Char} (h : untilAngle text = some (name, rest)) :
    text = name ++ '>' :: rest ∧ '>' ∉ name := by
  induction text generalizing name rest with
  | nil => cases h
  | cons c text ih =>
      rw [untilAngle] at h
      split at h
      · cases h
        simp_all
      · obtain ⟨⟨name, rest⟩, found, same⟩ := Option.map_eq_some_iff.mp h
        cases same
        obtain ⟨rfl, closed⟩ := ih found
        exact ⟨rfl, by simp_all [eq_comm]⟩

theorem untilAngle_eq_none_iff {text : List Char} : untilAngle text = none ↔ '>' ∉ text := by
  induction text with
  | nil => simp [untilAngle]
  | cons c text ih =>
      rw [untilAngle]
      split
      · simp_all
      · rename_i other
        rw [Option.map_eq_none_iff, ih, List.mem_cons, not_or]
        exact ⟨fun closed => ⟨Ne.symm other, closed⟩, And.right⟩

theorem takeOctal_append {digits rest : List Char} {n : Nat}
    (octal : ∀ d ∈ digits, isOctal d = true) (short : digits.length ≤ n)
    (whole : digits.length < n → Ends isOctal rest) :
    takeOctal n (digits ++ rest) = (digits, rest) := by
  induction digits generalizing n with
  | nil =>
      cases n with
      | zero => simp [takeOctal]
      | succ n =>
          cases rest with
          | nil => rfl
          | cons c rest => simp [takeOctal, whole (Nat.succ_pos n) c rfl]
  | cons d digits ih =>
      obtain ⟨first, octal⟩ := List.forall_mem_cons.mp octal
      obtain ⟨n, rfl⟩ : ∃ m, n = m + 1 := ⟨n - 1, by simp at short; omega⟩
      have rest := ih octal (Nat.le_of_succ_le_succ short) fun less => whole (Nat.succ_lt_succ less)
      simp [takeOctal, first, rest]

theorem of_takeOctal {n : Nat} {text digits rest : List Char}
    (h : takeOctal n text = (digits, rest)) :
    text = digits ++ rest ∧ (∀ d ∈ digits, isOctal d = true) ∧ digits.length ≤ n ∧
      (digits.length < n → Ends isOctal rest) := by
  induction n generalizing text digits rest with
  | zero =>
      cases text <;> cases h <;> simp
  | succ n ih =>
      cases text with
      | nil =>
          cases h
          simp [Ends]
      | cons c text =>
          rw [takeOctal] at h
          split at h
          · rename_i first
            obtain ⟨same, octal, short, whole⟩ := ih (rfl : takeOctal n text = (_, _))
            cases h
            exact ⟨congrArg _ same, List.forall_mem_cons.mpr ⟨first, octal⟩, Nat.succ_le_succ short,
              fun less => whole (Nat.lt_of_succ_lt_succ less)⟩
          · rename_i other
            cases h
            refine ⟨rfl, by simp, Nat.zero_le _, fun _ d first => ?_⟩
            cases first
            simpa using other

/-! ## One token -/

theorem isDigit_ne {c other : Char} (h : Text.isDigit c = true)
    (noDigit : Text.isDigit other = false) : c ≠ other := by
  rintro rfl
  cases h.symm.trans noDigit

/-- A backslash before a digit other than zero. -/
theorem escapeToken_digit {d : Char} (nonzero : d ≠ '0') (digit : Text.isDigit d = true)
    (rest : List Char) : escapeToken (d :: rest) = digitToken d rest := by
  have other : d ≠ 'g' := isDigit_ne digit (by decide)
  simp [escapeToken, nonzero, digit, other]

/-- A backslash before a character with no use of its own. -/
theorem escapeToken_other {c : Char} (noDigit : Text.isDigit c = false) (noGroup : c ≠ 'g')
    (noBackslash : c ≠ '\\') (rest : List Char) :
    escapeToken (c :: rest) =
      match control? c with
      | some control => (.char control, rest)
      | none =>
        if Text.isAsciiLetter c then (.bad (.badEscape c), rest) else (.verbatim c, rest) := by
  have nonzero : c ≠ '0' := fun zero => absurd (zero ▸ noDigit) (by decide)
  have noDigit : ¬ Text.isDigit c = true := by simp [noDigit]
  exact (if_neg noGroup).trans ((if_neg nonzero).trans ((if_neg noDigit).trans (if_neg noBackslash)))

theorem groupToken_closed {name : List Char} (nonempty : name ≠ []) (closed : '>' ∉ name)
    (rest : List Char) :
    groupToken ('<' :: (name ++ '>' :: rest)) =
      if name.all Text.isDigit then (.number name, rest) else (.name name, rest) := by
  rw [groupToken, untilAngle_append closed]
  cases name with
  | nil => cases nonempty rfl
  | cons d name => rfl

theorem nextToken_escape (text : List Char) : nextToken '\\' text = escapeToken text := rfl

theorem Reads.nextToken {c : Char} {text rest : List Char} {t : Token}
    (h : Reads (c :: text) t rest) : Template.nextToken c text = (t, rest) := by
  cases h with
  | plain unescaped => simp [Template.nextToken, unescaped]
  | groupNumber nonempty closed digits =>
      rw [nextToken_escape, escapeToken, if_pos rfl, groupToken_closed nonempty closed,
        if_pos (List.all_eq_true.mpr digits)]
  | groupName nonempty closed other =>
      rw [nextToken_escape, escapeToken, if_pos rfl, groupToken_closed nonempty closed,
        if_neg (by simpa using other)]
  | octal octal short whole =>
      simp [nextToken_escape, escapeToken, takeOctal_append octal short whole]
  | threeOctal nonzero octal =>
      obtain ⟨first, second, third⟩ := octal
      rw [nextToken_escape, escapeToken_digit nonzero (isDigit_of_isOctal first)]
      simp [digitToken, isDigit_of_isOctal second, first, second, third]
  | @twoDigits d e _ nonzero digits noOctal =>
      rw [nextToken_escape, escapeToken_digit nonzero digits.1]
      cases rest with
      | nil => simp [digitToken, digits.2]
      | cons f rest =>
          have short : ¬ (isOctal d && isOctal e && isOctal f) = true := by
            simp only [Bool.and_eq_true, not_and, Bool.not_eq_true]
            exact fun octal => noOctal octal.1 octal.2 f rfl
          simp only [digitToken, if_pos digits.2, if_neg short]
  | oneDigit nonzero digit single =>
      rw [nextToken_escape, escapeToken_digit nonzero digit]
      cases rest with
      | nil => rfl
      | cons e rest => simp [digitToken, single e rfl]
  | backslash => rfl
  | control listed =>
      have letter := isAsciiLetter_of_control listed
      have others : ∀ p ∈ controls, p.1 ≠ 'g' ∧ p.1 ≠ '\\' := by decide
      obtain ⟨noGroup, noBackslash⟩ := others _ listed
      rw [nextToken_escape, escapeToken_other (isDigit_of_letter letter) noGroup noBackslash,
        control?_eq_some_iff.mpr listed]
  | @verbatim c _ other noDigit noLetter =>
      have noGroup : c ≠ 'g' := fun same => absurd (same ▸ noLetter) (by decide)
      have unlisted : control? c = none := by
        refine Option.eq_none_iff_forall_not_mem.mpr fun control listed => ?_
        cases noLetter.symm.trans (isAsciiLetter_of_control (control?_eq_some_iff.mp listed))
      simp only [nextToken_escape, escapeToken_other noDigit noGroup other, unlisted, noLetter]
      rfl

theorem Malformed.nextToken {c : Char} {text : List Char} {e : TemplateError}
    (h : Malformed (c :: text) e) : (Template.nextToken c text).1 = .bad e := by
  cases h with
  | trailing => rfl
  | @letter c _ letter other unlisted =>
      have noBackslash : c ≠ '\\' := fun same => absurd (same ▸ letter) (by decide)
      have unlisted : control? c = none := Option.eq_none_iff_forall_not_mem.mpr
        fun control listed => unlisted control (control?_eq_some_iff.mp listed)
      simp only [nextToken_escape, escapeToken_other (isDigit_of_letter letter) other noBackslash,
        unlisted, letter]
      rfl
  | unopened unopened =>
      rw [nextToken_escape, escapeToken, if_pos rfl, groupToken.eq_def]
      split
      · cases unopened rfl
      · rfl
  | unclosed unclosed =>
      rw [nextToken_escape, escapeToken, if_pos rfl, groupToken,
        untilAngle_eq_none_iff.mpr unclosed]
  | unnamed => rfl

/-- Some token or fault is at the beginning of a text. -/
def Begins (text : List Char) : Prop :=
  (∃ t rest, Reads text t rest) ∨ ∃ e, Malformed text e

theorem begins_group (text : List Char) : Begins ('\\' :: 'g' :: text) := by
  by_cases opened : text.head? = some '<'
  · obtain ⟨text, rfl⟩ := List.head?_eq_some_iff.mp opened
    rcases cut : untilAngle text with _ | ⟨name, rest⟩
    · exact .inr ⟨_, .unclosed (untilAngle_eq_none_iff.mp cut)⟩
    obtain ⟨rfl, closed⟩ := of_untilAngle cut
    by_cases empty : name = []
    · subst empty
      exact .inr ⟨_, .unnamed⟩
    by_cases digits : ∀ d ∈ name, Text.isDigit d = true
    · exact .inl ⟨_, _, .groupNumber empty closed digits⟩
    · exact .inl ⟨_, _, .groupName empty closed (by simpa using digits)⟩
  · exact .inr ⟨_, .unopened opened⟩

theorem begins_digit {d : Char} (nonzero : d ≠ '0') (digit : Text.isDigit d = true)
    (text : List Char) : Begins ('\\' :: d :: text) := by
  by_cases single : Ends Text.isDigit text
  · exact .inl ⟨_, _, .oneDigit nonzero digit single⟩
  obtain ⟨e, rest, rfl, second⟩ : ∃ e rest, text = e :: rest ∧ Text.isDigit e = true := by
    cases text with
    | nil => cases single (by simp [Ends])
    | cons e rest => exact ⟨e, rest, rfl, by simpa [Ends] using single⟩
  by_cases noOctal : isOctal d = true → isOctal e = true → Ends isOctal rest
  · exact .inl ⟨_, _, .twoDigits nonzero ⟨digit, second⟩ noOctal⟩
  · simp only [Classical.not_imp] at noOctal
    obtain ⟨first, second, more⟩ := noOctal
    cases rest with
    | nil => cases more (by simp [Ends])
    | cons f rest =>
        have third : isOctal f = true := by simpa [Ends] using more
        exact .inl ⟨_, _, .threeOctal nonzero ⟨first, second, third⟩⟩

/-- Every text that goes on begins with a token, or with an escape that is none. -/
theorem begins (c : Char) (text : List Char) : Begins (c :: text) := by
  by_cases unescaped : c ≠ '\\'
  · exact .inl ⟨_, _, .plain unescaped⟩
  obtain rfl := Decidable.not_not.mp unescaped
  cases text with
  | nil => exact .inr ⟨_, .trailing⟩
  | cons d text =>
      by_cases group : d = 'g'
      · exact group ▸ begins_group text
      by_cases zero : d = '0'
      · subst zero
        obtain ⟨same, octal, short, whole⟩ := of_takeOctal (rfl : takeOctal 2 text = (_, _))
        rw [same]
        exact .inl ⟨_, _, .octal octal short whole⟩
      by_cases digit : Text.isDigit d = true
      · exact begins_digit zero digit text
      by_cases backslash : d = '\\'
      · subst backslash
        exact .inl ⟨_, _, .backslash⟩
      by_cases listed : ∃ control, (d, control) ∈ controls
      · obtain ⟨control, listed⟩ := listed
        exact .inl ⟨_, _, .control listed⟩
      by_cases letter : Text.isAsciiLetter d = true
      · exact .inr ⟨_, .letter letter group (by simpa using listed)⟩
      · exact .inl ⟨_, _, .verbatim backslash (by simpa using digit) (by simpa using letter)⟩

theorem Reads.shorter {text rest : List Char} {t : Token} (h : Reads text t rest) :
    rest.length < text.length := by
  cases h <;> simp <;> omega

/-- What a token may be: its digits are digits. -/
def Token.WellFormed : Token → Prop
  | .number digits => digits ≠ [] ∧ ∀ d ∈ digits, Text.isDigit d = true
  | .bad _ => False
  | _ => True

theorem Reads.wellFormed {text rest : List Char} {t : Token} (h : Reads text t rest) :
    t.WellFormed := by
  cases h with
  | groupNumber nonempty _ digits => exact ⟨nonempty, digits⟩
  | twoDigits _ digits _ => simpa [Token.WellFormed] using digits
  | oneDigit _ digit _ => simpa [Token.WellFormed] using digit
  | _ => trivial

/-! ## All tokens -/

theorem exists_spells (text : List Char) : ∃ ts, Spells text ts := by
  induction h : text.length using Nat.strongRecOn generalizing text with
  | _ n ih =>
      cases text with
      | nil => exact ⟨[], .done⟩
      | cons c text =>
          rcases begins c text with ⟨t, rest, reads⟩ | ⟨e, malformed⟩
          · obtain ⟨ts, spells⟩ := ih _ (h ▸ reads.shorter) rest rfl
            exact ⟨t :: ts, .token reads spells⟩
          · exact ⟨_, .stuck malformed⟩

theorem Malformed.ne_nil {text : List Char} {e : TemplateError} (h : Malformed text e) :
    text ≠ [] := by
  cases h <;> simp

theorem Reads.unique {text rest rest' : List Char} {t t' : Token} (h : Reads text t rest)
    (h' : Reads text t' rest') : t = t' ∧ rest = rest' := by
  cases text with
  | nil => cases h.shorter
  | cons c text => exact Prod.mk.inj (h.nextToken.symm.trans h'.nextToken)

theorem Malformed.unique {text : List Char} {e e' : TemplateError} (h : Malformed text e)
    (h' : Malformed text e') : e = e' := by
  cases text with
  | nil => cases h.ne_nil rfl
  | cons c text => exact Token.bad.inj (h.nextToken.symm.trans h'.nextToken)

theorem Reads.not_malformed {text rest : List Char} {t : Token} {e : TemplateError}
    (h : Reads text t rest) : ¬ Malformed text e := by
  intro malformed
  cases text with
  | nil => cases malformed.ne_nil rfl
  | cons c text =>
      have bad : t = .bad e := by rw [← malformed.nextToken, h.nextToken]
      exact (bad ▸ h.wellFormed :)

theorem Spells.unique {text : List Char} {ts us : List Token} (h : Spells text ts)
    (h' : Spells text us) : ts = us := by
  induction h generalizing us with
  | done =>
      cases h' with
      | done => rfl
      | token reads => cases reads.shorter
      | stuck malformed => cases malformed.ne_nil rfl
  | token reads _ ih =>
      cases h' with
      | done => cases reads.shorter
      | token reads' spells' =>
          obtain ⟨rfl, rfl⟩ := reads.unique reads'
          rw [ih spells']
      | stuck malformed => cases reads.not_malformed malformed
  | stuck malformed =>
      cases h' with
      | done => cases malformed.ne_nil rfl
      | token reads => cases reads.not_malformed malformed
      | stuck malformed' => rw [malformed.unique malformed']

end Template

end Paradigm
