import Mathlib.Data.List.Induction
import Mathlib.Data.Nat.Digits.Defs
import Paradigm.Proofs.Result
import Paradigm.Proofs.Template.Tokens

/-!
# Reading templates

What the tokens of a template stand for, and which of them a pattern admits. Main statement: a
template is read if all its tokens are admitted, and is filled in token by token; otherwise the first
token that is not admitted is the fault.
-/

namespace Paradigm

namespace Template

/-! ## Numbers -/

/-- The number that digits write in a base, the last digit counting the ones. -/
def numeral (base : Nat) (digits : List Char) : Nat :=
  Nat.ofDigits base (digits.reverse.map fun d => d.toNat - '0'.toNat)

theorem numeral_concat (base : Nat) (digits : List Char) (d : Char) :
    numeral base (digits ++ [d]) = base * numeral base digits + (d.toNat - '0'.toNat) := by
  rw [numeral, List.reverse_append, List.reverse_singleton, List.singleton_append, List.map_cons,
    Nat.ofDigits_cons, Nat.add_comm, numeral]

theorem octalValue_eq (digits : List Char) : octalValue digits = numeral 8 digits := by
  induction digits using List.reverseRecOn with
  | nil => rfl
  | append_singleton digits d ih => rw [octalValue, List.foldl_append, numeral_concat, ← ih]; rfl

theorem decimal?_eq {digits : List Char} (nonempty : digits ≠ [])
    (h : ∀ d ∈ digits, Text.isDigit d = true) :
    Text.decimal? digits = some (numeral 10 digits) := by
  rw [Text.decimal?, if_neg (by simpa using nonempty)]
  -- the fold reads from the left, the numeral counts from the right: induction from the end
  clear nonempty
  induction digits using List.reverseRecOn with
  | nil => rfl
  | append_singleton digits d ih =>
      obtain ⟨before, last⟩ := List.forall_mem_append.mp h
      have value : Text.digit? d = some (d.toNat - '0'.toNat) := by
        rw [Text.digit?, if_pos (isDigit_iff.mp (last d List.mem_cons_self))]
      rw [List.foldlM_append, ih before, numeral_concat]
      simp [value]

/-! ## Single tokens -/

/-- A pattern admits a token: it has the group, or the character exists. -/
def Token.Valid (r : Regex) : Token → Prop
  | .char _ => True
  | .verbatim _ => True
  | .number digits => numeral 10 digits < r.groupCount
  | .name letters => some (String.ofList letters) ∈ r.groupNames
  | .octal digits => numeral 8 digits ≤ 0o377
  | .bad _ => False

/-- What is wrong with a token that is not admitted. -/
def Token.fault? : Token → Option TemplateError
  | .char _ => none
  | .verbatim _ => none
  | .number digits => some (.invalidGroup (String.ofList digits))
  | .name letters => some (.unknownGroupName (String.ofList letters))
  | .octal digits => some (.octalOutOfRange (String.ofList digits))
  | .bad e => some e

/-- The text that a token stands for. A group without part in the match stands for nothing. -/
def Token.text (found : Regex.Match) : Token → String
  | .char c => String.ofList [c]
  | .verbatim c => String.ofList ['\\', c]
  | .number digits => (found.group? (numeral 10 digits)).getD ""
  | .name letters => (found.named? (String.ofList letters)).getD ""
  | .octal digits => String.ofList [Char.ofNat (numeral 8 digits)]
  | .bad _ => ""

theorem pieceOf_valid {r : Regex} {t : Token} (formed : t.WellFormed ∨ ∃ e, t = .bad e)
    (valid : t.Valid r) :
    ∃ piece, pieceOf r.groupNames t = .ok piece ∧
      ∀ found, Piece.fill found piece = t.text found := by
  cases t with
  | char c => exact ⟨_, rfl, fun _ => rfl⟩
  | verbatim c => exact ⟨_, rfl, fun _ => rfl⟩
  | number digits =>
      refine ⟨.group (numeral 10 digits), ?_, fun _ => rfl⟩
      obtain ⟨nonempty, allDigits⟩ := formed.resolve_right nofun
      rw [pieceOf, groupIndex, decimal?_eq nonempty allDigits]
      have inRange : numeral 10 digits < r.groupNames.length := valid
      simp only [if_pos inRange]
      rfl
  | name name =>
      refine ⟨.named (String.ofList name), ?_, fun _ => rfl⟩
      rw [pieceOf, if_pos (List.contains_iff_mem.mpr valid)]
  | octal digits =>
      have inRange : numeral 8 digits ≤ 0o377 := valid
      refine ⟨.literal [Char.ofNat (numeral 8 digits)], ?_, fun _ => rfl⟩
      rw [pieceOf, octalChar, octalValue_eq, if_pos inRange]
      rfl
  | bad e => cases valid

theorem pieceOf_invalid {r : Regex} {t : Token} (formed : t.WellFormed ∨ ∃ e, t = .bad e)
    (invalid : ¬ t.Valid r) : ∃ e, t.fault? = some e ∧ pieceOf r.groupNames t = .error e := by
  cases t with
  | char c => cases invalid trivial
  | verbatim c => cases invalid trivial
  | number digits =>
      obtain ⟨nonempty, allDigits⟩ := formed.resolve_right nofun
      have outOfRange : ¬ numeral 10 digits < r.groupNames.length := invalid
      refine ⟨_, rfl, ?_⟩
      rw [pieceOf, groupIndex, decimal?_eq nonempty allDigits]
      simp only [if_neg outOfRange]
      rfl
  | name name =>
      refine ⟨_, rfl, ?_⟩
      rw [pieceOf, if_neg (mt List.contains_iff_mem.mp invalid)]
  | octal digits =>
      have outOfRange : ¬ numeral 8 digits ≤ 0o377 := invalid
      refine ⟨_, rfl, ?_⟩
      rw [pieceOf, octalChar, octalValue_eq, if_neg outOfRange]
      rfl
  | bad e => exact ⟨e, rfl, rfl⟩

/-! ## Pieces -/

theorem join_fill_consPiece (found : Regex.Match) (piece : Piece) (pieces : List Piece) :
    String.join ((consPiece piece pieces).map (Piece.fill found)) =
      Piece.fill found piece ++ String.join (pieces.map (Piece.fill found)) := by
  unfold consPiece
  split
  · simp [Piece.fill, String.ofList_append, String.append_assoc]
  · simp

theorem Spells.formed {text : List Char} {ts : List Token} (h : Spells text ts) :
    ∀ t ∈ ts, t.WellFormed ∨ ∃ e, t = .bad e := by
  induction h with
  | done => simp
  | token reads _ ih => exact List.forall_mem_cons.mpr ⟨.inl reads.wellFormed, ih⟩
  | stuck _ => simp

/-- Pieces are made from the tokens of a text, whatever is said to follow a fault. -/
theorem piecesOf_tokensFrom {names : List (Option String)} {text : List Char} {ts : List Token}
    (h : Spells text ts) {fuel : Nat} (enough : text.length ≤ fuel) :
    piecesOf names (tokensFrom fuel text) = piecesOf names ts := by
  induction h generalizing fuel with
  | done => cases fuel <;> rfl
  | @token text rest t ts reads _ ih =>
      have shorter := reads.shorter
      obtain ⟨fuel, rfl⟩ : ∃ n, fuel = n + 1 := ⟨fuel - 1, by omega⟩
      cases text with
      | nil => cases shorter
      | cons c text =>
          rw [tokensFrom, reads.nextToken]
          simp only [piecesOf, ih (show rest.length ≤ fuel by omega)]
  | @stuck text e malformed =>
      cases text with
      | nil => cases malformed.ne_nil rfl
      | cons c text =>
          obtain ⟨fuel, rfl⟩ : ∃ n, fuel = n + 1 := ⟨fuel - 1, by simp at enough; omega⟩
          simp [tokensFrom, malformed.nextToken, piecesOf, pieceOf]

theorem piecesOf_valid {r : Regex} {ts : List Token}
    (formed : ∀ t ∈ ts, t.WellFormed ∨ ∃ e, t = .bad e) (valid : ∀ t ∈ ts, t.Valid r) :
    ∃ pieces, piecesOf r.groupNames ts = .ok pieces ∧ ∀ found,
      String.join (pieces.map (Piece.fill found)) = String.join (ts.map (Token.text found)) := by
  induction ts with
  | nil => exact ⟨[], rfl, fun _ => rfl⟩
  | cons t ts ih =>
      obtain ⟨formed, others⟩ := List.forall_mem_cons.mp formed
      obtain ⟨valid, rest⟩ := List.forall_mem_cons.mp valid
      obtain ⟨piece, head, fill⟩ := pieceOf_valid formed valid
      obtain ⟨pieces, tail, join⟩ := ih others rest
      refine ⟨consPiece piece pieces, ?_, fun found => ?_⟩
      · rw [piecesOf, head]
        simp only [tail]
        rfl
      · rw [join_fill_consPiece, fill, join, List.map_cons, String.join_cons]

theorem piecesOf_invalid {r : Regex} {before after : List Token} {t : Token} {e : TemplateError}
    (valid : ∀ u ∈ before, ∃ piece, pieceOf r.groupNames u = .ok piece)
    (bad : pieceOf r.groupNames t = .error e) :
    piecesOf r.groupNames (before ++ t :: after) = .error e := by
  induction before with
  | nil => rw [List.nil_append, piecesOf, bad]
  | cons u before ih =>
      obtain ⟨⟨piece, head⟩, valid⟩ := List.forall_mem_cons.mp valid
      rw [List.cons_append, piecesOf, head]
      simp only [ih valid]
      rfl

/-! ## Templates -/

/-- What reading a template for a pattern comes to, by its tokens. -/
structure Parsed (r : Regex) (source : String) (ts : List Token)
    (outcome : Except TemplateError Template) : Prop where
  accepted : (∀ t ∈ ts, t.Valid r) → ∃ template, outcome = .ok template ∧
    template.source = source ∧ ∀ value found, r.find? value = some found →
      template.expand found = String.join (ts.map (Token.text found))
  refused : (∃ t ∈ ts, ¬ t.Valid r) → ∃ before t after e, ts = before ++ t :: after ∧
    (∀ u ∈ before, u.Valid r) ∧ ¬ t.Valid r ∧ t.fault? = some e ∧ outcome = .error e

theorem parse_by_tokens (r : Regex) (source : String) :
    ∃ ts, Spells source.toList ts ∧ (∀ us, Spells source.toList us → us = ts) ∧
      Parsed r source ts (parse r.groupNames source) := by
  obtain ⟨ts, spells⟩ := exists_spells source.toList
  have formed := spells.formed
  have same : piecesOf r.groupNames (tokens source.toList) = piecesOf r.groupNames ts :=
    piecesOf_tokensFrom spells (Nat.le_refl _)
  refine ⟨ts, spells, fun us other => other.unique spells, ?_⟩
  constructor
  case accepted =>
    intro valid
    obtain ⟨pieces, read, join⟩ := piecesOf_valid formed valid
    refine ⟨⟨source, pieces⟩, ?_, rfl, fun _ found _ => join found⟩
    rw [parse, same, read]
    rfl
  case refused =>
    intro invalid
    obtain ⟨before, t, after, rfl, valid, fault⟩ := exists_first_not invalid
    have formed := List.forall_mem_append.mp formed
    obtain ⟨e, named, read⟩ := pieceOf_invalid (formed.2 t List.mem_cons_self) fault
    refine ⟨before, t, after, e, rfl, valid, fault, named, ?_⟩
    have admitted : ∀ u ∈ before, ∃ piece, pieceOf r.groupNames u = .ok piece := fun u member =>
      (pieceOf_valid (formed.1 u member) (valid u member)).imp fun _ => And.left
    rw [parse, same, piecesOf_invalid admitted read]
    rfl

end Template

end Paradigm
