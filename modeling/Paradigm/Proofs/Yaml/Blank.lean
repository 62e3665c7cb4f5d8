import Mathlib.Data.List.TakeWhile
import Paradigm.Proofs.Yaml.Scanning
import Paradigm.Unicode.Classes
import Paradigm.Yaml.Shape

/-!
# White space as YAML

To YAML only spaces and line breaks are space between tokens: a text of nothing else has no document
in it. Of the other white space a tab begins no token, and the rest is text like any other.
-/

namespace Paradigm.Yaml

/-! ## Characters -/

/-- What separates tokens everywhere. -/
def isLayout (c : Char) : Bool := c == ' ' || isBreak c

/-- Characters that mean something to the scanner, where they stand at the front. -/
def marks : List Char := byteOrderMark :: '.' :: "-?:,[]\x7b\x7d#&*!|>'\"%@\x60".toList

theorem ne_mark {c : Char} (space : Unicode.isSpace c) : ∀ mark ∈ marks, c ≠ mark := by
  have solid : marks.all (!Unicode.isSpace ·) := by decide +kernel
  rintro mark member rfl
  simpa [space] using List.all_eq_true.mp solid c member

theorem lineBreak?_eq_some {l : List Char} {n : Nat} {d : Char}
    (found : lineBreak? l = some (n, d)) : 0 < n ∧ ∀ c ∈ l.take n, isBreak c := by
  unfold lineBreak? at found
  split at found
  · cases found
    simp [isBreak]
  · rename_i c _ _
    split at found
    · rename_i separator
      cases found
      simp only [Bool.or_eq_true, beq_iff_eq] at separator
      rcases separator with rfl | rfl <;> simp [isBreak]
    · split at found
      · rename_i here
        cases found
        simpa using here
      · cases found
  · cases found

theorem lineBreak?_eq_none {l : List Char} (absent : lineBreak? l = none) :
    l.head?.any isBreak = false := by
  unfold lineBreak? at absent
  split at absent
  · cases absent
  · split at absent
    · cases absent
    · split at absent
      · cases absent
      · rename_i solid
        simpa using solid
  · rfl

theorem dropWhile_drop {test : Char → Bool} {l : List Char} {n : Nat}
    (passed : ∀ c ∈ l.take n, test c) : (l.drop n).dropWhile test = l.dropWhile test :=
  calc (l.drop n).dropWhile test
    _ = (l.take n ++ l.drop n).dropWhile test := (List.dropWhile_append_of_pos passed).symm
    _ = l.dropWhile test := by rw [List.take_append_drop]

theorem dropWhile_dropWhile {test weaker : Char → Bool} (h : ∀ c, test c → weaker c)
    (l : List Char) : (l.dropWhile test).dropWhile weaker = l.dropWhile weaker :=
  calc (l.dropWhile test).dropWhile weaker
    _ = (l.takeWhile test ++ l.dropWhile test).dropWhile weaker :=
        (List.dropWhile_append_of_pos fun c member => h c (List.mem_takeWhile_imp member)).symm
    _ = l.dropWhile weaker := by rw [List.takeWhile_append_dropWhile]

theorem dropWhile_spaces (l : List Char) :
    (l.dropWhile (· == ' ')).dropWhile isLayout = l.dropWhile isLayout :=
  dropWhile_dropWhile (fun c (space : (c == ' ') = true) => by simp [isLayout, space]) l

namespace Scan

variable {s : Scanner}

theorem head?_ne_mark {l : List Char} {mark : Char} (blank : ∀ c ∈ l, Unicode.isSpace c)
    (member : mark ∈ marks) : l.head? ≠ some mark :=
  fun head => ne_mark (blank mark (List.mem_of_head? head)) mark member rfl

/-! ## Space between tokens -/

/-- No token has been read yet, and no line that would have to be gone on with. -/
structure AtStart (s : Scanner) : Prop where
  keys : s.keys = [none]
  keyAllowed : s.keyAllowed = true
  indent : s.indent = -1
  tokens : s.tokens = #[]

theorem AtStart.move (start : AtStart s) (rest : List Char) (line column index : Nat) :
    AtStart { s with rest, line, column, index } :=
  ⟨start.keys, start.keyAllowed, start.indent, start.tokens⟩

theorem skipLineSpace_of_start (blank : ∀ c ∈ s.rest, Unicode.isSpace c) (start : AtStart s) :
    ∃ s', skipLineSpace s = some ((), s') ∧ AtStart s' ∧ s'.rest = s.rest.dropWhile (· == ' ') := by
  have noMark : s.rest.head? ≠ some byteOrderMark := head?_ne_mark blank (by decide)
  have noComment : (s.rest.dropWhile (· == ' ')).head? ≠ some '#' :=
    head?_ne_mark (fun c member => blank c ((List.dropWhile_suffix _).subset member)) (by decide)
  have skipped : skipLineSpace s = skip (s.rest.takeWhile (· == ' ')).length s := by
    simp [skipLineSpace, skipComment, noMark, noComment, start.keys, start.keyAllowed,
      Text.drop_length_takeWhile]
  exact ⟨_, skipped, start.move _ _ _ _, Text.drop_length_takeWhile ..⟩

theorem takeBreak_of_start (start : AtStart s) (broken : s.rest.head?.any isBreak) :
    ∃ text s', takeBreak s = some (text, s') ∧ AtStart s' ∧ s'.rest <:+ s.rest ∧
      s'.rest.length < s.rest.length ∧ s'.rest.dropWhile isLayout = s.rest.dropWhile isLayout := by
  cases found : lineBreak? s.rest with
  | none => simp [lineBreak?_eq_none found] at broken
  | some found' =>
      obtain ⟨n, c⟩ := found'
      obtain ⟨positive, breaks⟩ := lineBreak?_eq_some found
      have taken : takeBreak s = (nextLine n s).map fun r => ([c], r.2) := by
        rw [takeBreak, bind_apply, get_apply, Option.bind_some]
        simp only [found]
        rfl
      have some_rest : s.rest ≠ [] := by
        intro empty
        simp [empty] at broken
      have length := List.length_pos_iff.mpr some_rest
      have shorter : (s.rest.drop n).length < s.rest.length := by
        rw [List.length_drop]
        omega
      have layout (d) (member : d ∈ s.rest.take n) : isLayout d := by
        simp [isLayout, breaks d member]
      exact ⟨[c], _, taken, start.move _ _ _ _, List.drop_suffix _ _, shorter,
        dropWhile_drop layout⟩

/-- What comes after the spaces of a line is its break, or no space. -/
theorem dropWhile_isLayout {l : List Char}
    (unbroken : (l.dropWhile (· == ' ')).head?.any isBreak = false) :
    l.dropWhile isLayout = l.dropWhile (· == ' ') := by
  rw [← dropWhile_spaces]
  have notSpace := List.head?_dropWhile_not (· == ' ') l
  cases rest : l.dropWhile (· == ' ') with
  | nil => rfl
  | cons c others =>
      rw [rest] at notSpace unbroken
      have notBreak : isBreak c = false := by simpa using unbroken
      have solid : isLayout c = false := by simpa [isLayout, notBreak] using notSpace
      rw [List.dropWhile_cons_of_neg (by simp [solid])]

/-- Lines of spaces are passed one by one, up to the first character that is something else. -/
theorem skipSpace_of_start {fuel : Nat} (blank : ∀ c ∈ s.rest, Unicode.isSpace c)
    (start : AtStart s) (enough : s.rest.length < fuel) :
    ∃ s', skipSpace fuel s = some ((), s') ∧ AtStart s' ∧
      s'.rest = s.rest.dropWhile isLayout := by
  induction fuel generalizing s with
  | zero => cases enough
  | succ fuel ih =>
      obtain ⟨s₁, line, start₁, rest₁⟩ := skipLineSpace_of_start blank start
      cases broken : s₁.rest.head?.any isBreak with
      | false =>
          rw [rest₁] at broken
          exact ⟨s₁, by simp [skipSpace, line, rest₁, broken], start₁,
            rest₁.trans (dropWhile_isLayout broken).symm⟩
      | true =>
          obtain ⟨text, s₂, next, start₂, suffix, shorter, same⟩ := takeBreak_of_start start₁ broken
          have within : s₁.rest <:+ s.rest := rest₁ ▸ List.dropWhile_suffix _
          have length := within.length_le
          have flow : s₂.keys.length ≤ 1 := by simp [start₂.keys]
          obtain ⟨s', skipped, start', rest'⟩ := ih (s := { s₂ with keyAllowed := true })
            (fun c member => blank c ((suffix.trans within).subset member))
            ⟨start₂.keys, rfl, start₂.indent, start₂.tokens⟩ (Nat.lt_of_lt_of_le shorter (by omega))
          exact ⟨s', by simp [skipSpace, line, broken, next, flow, skipped], start',
            by rw [rest', same, rest₁, dropWhile_spaces]⟩

/-! ## The first token -/

theorem dropStaleKeys_of_start (start : AtStart s) : dropStaleKeys s = some ((), s) := by
  obtain ⟨keys, _, _, _⟩ := start
  obtain ⟨rest, line, column, index, indent, indents, _, keyAllowed, tokens⟩ := s
  subst keys
  rfl

theorem unrollTo_of_start (start : AtStart s) {column : Int} (here : -1 ≤ column) :
    unrollTo column s = some ((), s) := by
  have outside : ¬ s.indent > column := by
    rw [start.indent]
    omega
  have flow : s.keys.length ≤ 1 := by simp [start.keys]
  simp [unrollTo, unroll, flow, outside]

theorem closeAll_of_start (start : AtStart s) :
    closeAll s = some ((), { s with keyAllowed := false }) := by
  simp [closeAll, unrollTo_of_start start, removeKey, start.keys]

theorem step_of_blank (blank : ∀ c ∈ s.rest, Unicode.isSpace c) (start : AtStart s) :
    ∃ s', AtStart s' ∧ s'.rest = s.rest.dropWhile isLayout ∧ step s =
      match s'.rest.head? with
      | none => (endStream s').bind fun r => some (false, r.2)
      | some c => (token c s').bind fun r => some (true, r.2) := by
  obtain ⟨s', skipped, start', rest'⟩ := skipSpace_of_start blank start (Nat.lt_succ_self _)
  refine ⟨s', start', rest', ?_⟩
  have unrolled := unrollTo_of_start start' (show (-1 : Int) ≤ s'.column by omega)
  simp only [step, bind_apply, get_apply, peek_apply, Option.bind_some, skipped,
    dropStaleKeys_of_start start', unrolled]
  cases s'.rest.head? with
  | none => rfl
  | some c => rfl

theorem endStream_of_start (start : AtStart s) :
    ∃ s', endStream s = some ((), s') ∧ s'.tokens = #[.streamEnd] := by
  have next : AtStart { s with column := 0, line := s.line + 1 } :=
    ⟨start.keys, start.keyAllowed, start.indent, start.tokens⟩
  by_cases column : s.column = 0
  · exact ⟨_, by simp [endStream, column, closeAll_of_start start]; rfl, by simp [start.tokens]⟩
  · exact ⟨_, by simp [endStream, column, closeAll_of_start next]; rfl, by simp [start.tokens]⟩

theorem documentMark?_of_space {c : Char} (space : Unicode.isSpace c) (rest : List Char) :
    documentMark? (c :: rest) = none := by
  have ne := ne_mark space
  unfold documentMark?
  split
  · rename_i same
    cases same
    exact absurd rfl (ne '-' (by decide))
  · rename_i same
    cases same
    exact absurd rfl (ne '.' (by decide))
  · rfl

theorem atDocumentMark_of_space {c : Char} {rest : List Char} (here : s.rest = c :: rest)
    (space : Unicode.isSpace c) : atDocumentMark s = some (none, s) := by
  simp [atDocumentMark, here, documentMark?_of_space space]

theorem isPlainStart_of_space {c : Char} (space : Unicode.isSpace c) (flow : Bool)
    (after : Option Char) : isPlainStart flow c after = !(isBlank c || isBreak c) := by
  have ne := ne_mark space
  simp [marks] at ne
  have dash : (c == '-') = false := by simp [ne]
  have question : (c == '?') = false := by simp [ne]
  have colon : (c == ':') = false := by simp [ne]
  simp [isPlainStart, ne, dash, question, colon]

theorem token_of_space {c : Char} {rest : List Char} (here : s.rest = c :: rest)
    (space : Unicode.isSpace c) :
    token c s = (if isBlank c || isBreak c then fail else keyable plainScalar) s := by
  have ne := ne_mark space
  simp [marks] at ne
  simp [token, atDocumentMark_of_space here space, isPlainStart_of_space space, ne]
  cases isBlank c <;> cases isBreak c <;> rfl

/-! ## Text of white space -/

section

variable {c : Char} {rest : List Char} {s' : Scanner}

theorem plainRun_ne_nil {fuel : Nat} {run : List Char} (here : s.rest = c :: rest)
    (space : Unicode.isSpace c) (solid : isBlankOrEnd (some c) = false)
    (h : plainRun (fuel + 1) s = some (run, s')) : run ≠ [] := by
  have ne := ne_mark space
  simp [marks] at ne
  simp [plainRun, here, solid, ne] at h
  obtain ⟨⟨tail, _⟩, _, same⟩ := Option.bind_eq_some_iff.mp h
  cases same
  exact List.cons_ne_nil _ _

theorem plainText_ne_nil {indent : Int} {fuel : Nat} {text : List Char} {broke : Bool}
    (here : s.rest = c :: rest) (space : Unicode.isSpace c)
    (solid : isBlankOrEnd (some c) = false)
    (h : plainText indent (fuel + 1) s = some ((text, broke), s')) : text ≠ [] := by
  have noComment : (s.rest.head? == some '#') = false := by
    simpa [here] using ne_mark space '#' (by decide)
  rw [plainText, bind_apply, atDocumentMark_of_space here space, Option.bind_some, bind_apply,
    next_apply, Option.bind_some] at h
  simp only [noComment, Option.isSome_none, Bool.or_false, Bool.false_eq_true, if_false] at h
  rw [bind_apply, get_apply, Option.bind_some] at h
  obtain ⟨run, s₁, first, h⟩ := of_bind h
  have some_run : run ≠ [] := plainRun_ne_nil here space solid (by simpa [here] using first)
  rw [bind_apply, peek_apply, Option.bind_some] at h
  split at h
  · cases h
    exact some_run
  · obtain ⟨_, s₂, _, h⟩ := of_bind h
    obtain ⟨⟨blanks, broken, later⟩, s₃, _, h⟩ := of_bind h
    obtain ⟨_, s₄, _, h⟩ := of_bind h
    obtain ⟨_, s₅, _, h⟩ := of_bind h
    split at h
    · cases h
      exact some_run
    · obtain ⟨⟨tail, ended⟩, s₆, _, h⟩ := of_bind h
      simp only at h
      split at h
      · cases h
        exact some_run
      · cases h
        simp [some_run]

theorem plainScalar_ne_nil {t : Token} (h : plainScalar s = some (t, s'))
    (here : s.rest = c :: rest) (space : Unicode.isSpace c)
    (solid : isBlankOrEnd (some c) = false) :
    ∃ text, text ≠ [] ∧ t = .scalar text true := by
  rw [plainScalar, bind_apply, get_apply, Option.bind_some] at h
  obtain ⟨⟨text, broke⟩, s₁, read, h⟩ := of_bind h
  refine ⟨text, plainText_ne_nil here space solid read, ?_⟩
  cases broke <;> cases h <;> rfl

theorem tokens_of_keyable (start : AtStart s) (here : s.rest = c :: rest)
    (space : Unicode.isSpace c) (solid : isBlankOrEnd (some c) = false)
    (h : keyable plainScalar s = some ((), s')) :
    ∃ text, text ≠ [] ∧ s'.tokens = #[.scalar text true] := by
  simp [keyable, saveKey, removeKey, start.keys, start.keyAllowed] at h
  obtain ⟨⟨t, s₁⟩, scanned, same⟩ := Option.bind_eq_some_iff.mp h
  obtain ⟨text, some_text, rfl⟩ := plainScalar_ne_nil scanned here space solid
  have kept := (Respects.plainScalar _ _ _ scanned).tokens
  cases same
  exact ⟨text, some_text, by simp [kept, start.tokens]⟩

end

/-! ## Whole texts -/

theorem step_follows {s' : Scanner} {more : Bool} (blank : ∀ c ∈ s.rest, Unicode.isSpace c)
    (h : step s = some (more, s')) : Follows s s' := by
  rw [step, bind_apply, get_apply, Option.bind_some] at h
  obtain ⟨_, s₁, spaced, h⟩ := of_bind h
  obtain ⟨_, s₂, fresh, h⟩ := of_bind h
  rw [bind_apply, get_apply, Option.bind_some] at h
  obtain ⟨_, s₃, closed, h⟩ := of_bind h
  have before : Follows s s₃ := trans_of Follows
    (trans_of Passes (Respects.skipSpace _ _ _ _ spaced)
      (Respects.dropStaleKeys _ _ _ fresh)).follows
    (Respects.unrollTo _ _ _ _ closed)
  rw [bind_apply, peek_apply, Option.bind_some] at h
  cases here : s₃.rest with
  | nil =>
      simp only [here, List.head?_nil] at h
      obtain ⟨_, s₄, ended, h⟩ := of_bind h
      cases h
      exact trans_of Follows before (Respects.endStream _ _ _ ended)
  | cons c rest =>
      simp only [here, List.head?_cons] at h
      obtain ⟨_, s₄, read, h⟩ := of_bind h
      cases h
      have space : Unicode.isSpace c := blank c (before.rest.subset (by simp [here]))
      rw [token_of_space here space] at read
      refine trans_of Follows before ?_
      exact Respects.ite _ .fail (Respects.keyable .plainScalar) _ _ _ read

theorem steps_follow {fuel : Nat} {s' : Scanner} (blank : ∀ c ∈ s.rest, Unicode.isSpace c)
    (h : steps fuel s = some ((), s')) : Follows s s' := by
  induction fuel generalizing s with
  | zero => cases h
  | succ fuel ih =>
      obtain ⟨more, s₁, read, h⟩ := of_bind h
      have first := step_follows blank read
      cases more with
      | false =>
          cases h
          exact first
      | true =>
          exact trans_of Follows first (ih (fun c member => blank c (first.rest.subset member)) h)

theorem step_of_solid {c : Char} {more : Bool} {s' : Scanner}
    (blank : ∀ c ∈ s.rest, Unicode.isSpace c) (start : AtStart s) (member : c ∈ s.rest)
    (solid : isLayout c = false) (h : step s = some (more, s')) :
    more = true ∧ ∃ body, body ≠ [] ∧ s'.tokens = #[.scalar body true] := by
  obtain ⟨s₁, start₁, rest₁, stepped⟩ := step_of_blank blank start
  rw [stepped] at h
  cases here : s₁.rest with
  | nil =>
      rw [rest₁] at here
      simp [List.dropWhile_eq_nil_iff.mp here c member] at solid
  | cons first others =>
      have suffix : s₁.rest <:+ s.rest := rest₁ ▸ List.dropWhile_suffix _
      have space : Unicode.isSpace first := blank first (suffix.subset (by simp [here]))
      simp only [here, List.head?_cons, token_of_space here space] at h
      obtain ⟨_, read, same⟩ := Option.bind_eq_some_iff.mp h
      cases same
      split at read
      · cases read
      · rename_i text
        exact ⟨rfl, tokens_of_keyable start₁ here space (by simpa [isBlankOrEnd] using text) read⟩

end Scan

namespace Token

open Scan

variable {text : List Char}

theorem isSpace_of_isLayout {c : Char} (layout : isLayout c) : Unicode.isSpace c := by
  simp only [isLayout, isBreak, Bool.or_eq_true, beq_iff_eq] at layout
  rcases layout with rfl | ((((rfl | rfl) | rfl) | rfl) | rfl) <;> decide +kernel

theorem isAllowed_of_isLayout {c : Char} (layout : isLayout c) : isAllowed c := by
  simp only [isLayout, isBreak, Bool.or_eq_true, beq_iff_eq] at layout
  rcases layout with rfl | ((((rfl | rfl) | rfl) | rfl) | rfl) <;> decide

/-- No mark at the beginning of white space is left out. -/
theorem ofText?_of_blank (blank : ∀ c ∈ text, Unicode.isSpace c) : ofText? text =
    if text.all isAllowed then
      ((steps (text.length + 1)).run { rest := text }).map fun r => r.2.tokens.toList
    else none := by
  have unmarked : (text.head? == some byteOrderMark) = false := by
    simpa using head?_ne_mark blank (by decide)
  simp only [ofText?, unmarked, Bool.false_eq_true, if_false]

theorem atStart (text : List Char) : AtStart { rest := text } := ⟨rfl, rfl, rfl, rfl⟩

theorem ofText?_of_layout (layout : ∀ c ∈ text, isLayout c) : ofText? text = some [.streamEnd] := by
  have blank (c) (member : c ∈ text) : Unicode.isSpace c := isSpace_of_isLayout (layout c member)
  have allowed : text.all isAllowed := by
    simpa using fun c member => isAllowed_of_isLayout (layout c member)
  obtain ⟨s₁, start, rest, stepped⟩ := step_of_blank (s := { rest := text }) blank (atStart text)
  have ended : s₁.rest = [] := by
    rw [rest]
    exact List.dropWhile_eq_nil_iff.mpr layout
  obtain ⟨s₂, closed, tokens⟩ := endStream_of_start start
  rw [ofText?_of_blank blank, if_pos allowed]
  simp [StateT.run, steps, stepped, ended, closed, tokens]

/-- White space that does not separate tokens begins a text of its own, or none at all. -/
theorem of_ofText?_of_solid {tokens : List Token} (blank : ∀ c ∈ text, Unicode.isSpace c)
    {c : Char} (member : c ∈ text) (solid : isLayout c = false) (h : ofText? text = some tokens) :
    ∃ body others, body ≠ [] ∧ tokens = .scalar body true :: others := by
  rw [ofText?_of_blank blank] at h
  split at h
  · obtain ⟨⟨_, s₂⟩, scanned, rfl⟩ := Option.map_eq_some_iff.mp h
    obtain ⟨more, s₁, stepped, scanned⟩ := of_bind scanned
    obtain ⟨rfl, body, some_body, tokens⟩ :=
      step_of_solid (s := { rest := text }) blank (atStart text) member solid stepped
    have first := step_follows (s := { rest := text }) blank stepped
    have later := steps_follow (fun c member => blank c (first.rest.subset member)) scanned
    obtain ⟨others, same⟩ := later.tokens
    rw [tokens] at same
    exact ⟨body, others, some_body, same.symm⟩
  · cases h

end Token

end Paradigm.Yaml
