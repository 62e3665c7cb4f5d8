import Mathlib.Data.List.Chain
import Paradigm.Proofs.Template.Parsing

/-!
# Writing templates

Pieces can be written down: literal text with every backslash twice, groups between angle brackets.
Main statement: what is written reads as the same pieces, and whatever is read can be written so.
-/

namespace Paradigm

namespace Piece

def IsLiteral : Piece → Prop
  | .literal _ => True
  | _ => False

/-- The group of the piece, if it is one, is a group of the pattern. -/
def RefersTo (r : Regex) : Piece → Prop
  | .literal _ => True
  | .group index => index < r.groupCount
  | .named name => some name ∈ r.groupNames

/-- Text can be told from nothing, and a name from what follows it and from a number. -/
def Legible : Piece → Prop
  | .literal text => text ≠ []
  | .group _ => True
  | .named name => '>' ∉ name.toList ∧ ∃ c ∈ name.toList, Text.isDigit c = false

end Piece

namespace Template

/-- Pieces that have one way to be written for a pattern: each is legible and refers to the pattern,
and neighbouring literals are one. -/
structure Normalized (r : Regex) (pieces : List Piece) : Prop where
  refers : ∀ piece ∈ pieces, piece.RefersTo r
  legible : ∀ piece ∈ pieces, piece.Legible
  apart : pieces.IsChain fun piece next => ¬ (piece.IsLiteral ∧ next.IsLiteral)

/-! ## Pieces as text -/

/-- Literal text as it stands in templates. -/
def doubled (text : List Char) : List Char :=
  text.flatMap fun c => if c = '\\' then ['\\', '\\'] else [c]

/-- The number or name of a group as it stands in templates. -/
def bracketed (reference : List Char) : List Char := '\\' :: 'g' :: '<' :: (reference ++ ['>'])

/-- A piece as a template is written: backslashes doubled, groups in angle brackets. -/
def written : Piece → List Char
  | .literal text => doubled text
  | .group index => bracketed (Nat.toDigits 10 index)
  | .named name => bracketed name.toList

/-- The template of some pieces. -/
def render (pieces : List Piece) : String := String.ofList (pieces.flatMap written)

/-- The tokens of a piece that is written. -/
def tokensOf : Piece → List Token
  | .literal text => text.map .char
  | .group index => [.number (Nat.toDigits 10 index)]
  | .named name => [.name name.toList]

/-! ## Written pieces are read -/

theorem isDigit_of_mem_toDigits {index : Nat} {d : Char} (h : d ∈ Nat.toDigits 10 index) :
    Text.isDigit d = true := by
  have digit : d.isDigit = true := Nat.isDigit_of_mem_toDigits (by decide) (by decide) h
  simp only [Char.isDigit, Bool.and_eq_true, decide_eq_true_eq] at digit
  exact isDigit_iff.mpr digit

theorem numeral_eq_ofDigitChars (base : Nat) (digits : List Char) :
    numeral base digits = Nat.ofDigitChars base digits 0 := by
  induction digits using List.reverseRecOn with
  | nil => rfl
  | append_singleton digits d ih =>
      rw [numeral_concat, ih, Nat.ofDigitChars, Nat.ofDigitChars, List.foldl_append]
      rfl

theorem numeral_toDigits (index : Nat) : numeral 10 (Nat.toDigits 10 index) = index := by
  rw [numeral_eq_ofDigitChars, Nat.ofDigitChars_toDigits (by decide) (by decide)]

theorem Spells.doubled {rest : List Char} {ts : List Token} (h : Spells rest ts)
    (text : List Char) : Spells (Template.doubled text ++ rest) (text.map .char ++ ts) := by
  induction text with
  | nil => exact h
  | cons c text ih =>
      rw [Template.doubled, List.flatMap_cons, List.append_assoc]
      split
      · rename_i backslash
        subst backslash
        exact .token .backslash ih
      · rename_i plain
        exact .token (.plain plain) ih

theorem bracketed_append (reference rest : List Char) :
    bracketed reference ++ rest = '\\' :: 'g' :: '<' :: (reference ++ '>' :: rest) := by
  simp [bracketed]

theorem Spells.written {piece : Piece} {rest : List Char} {ts : List Token}
    (legible : piece.Legible) (h : Spells rest ts) :
    Spells (Template.written piece ++ rest) (tokensOf piece ++ ts) := by
  cases piece with
  | literal text => exact h.doubled text
  | group index =>
      have digits : ∀ d ∈ Nat.toDigits 10 index, Text.isDigit d = true :=
        fun d member => isDigit_of_mem_toDigits member
      have closed : '>' ∉ Nat.toDigits 10 index := fun member =>
        absurd (digits _ member) (by decide)
      rw [Template.written, bracketed_append]
      exact .token (.groupNumber Nat.toDigits_ne_nil closed digits) h
  | named name =>
      obtain ⟨closed, c, member, other⟩ := legible
      rw [Template.written, bracketed_append]
      exact .token (.groupName (List.ne_nil_of_mem member) closed ⟨c, member, other⟩) h

theorem spells_written {pieces : List Piece} (legible : ∀ piece ∈ pieces, piece.Legible) :
    Spells (pieces.flatMap written) (pieces.flatMap tokensOf) := by
  induction pieces with
  | nil => exact .done
  | cons piece pieces ih =>
      obtain ⟨head, tail⟩ := List.forall_mem_cons.mp legible
      exact (ih tail).written head

/-! ## Putting pieces in front -/

theorem consPiece_literal_literal (a b : List Char) (pieces : List Piece) :
    consPiece (.literal a) (consPiece (.literal b) pieces) =
      consPiece (.literal (a ++ b)) pieces := by
  cases pieces with
  | nil => rfl
  | cons piece pieces => cases piece <;> simp [consPiece]

theorem consPiece_eq_cons {piece : Piece} {pieces : List Piece}
    (apart : ∀ next ∈ pieces.head?, ¬ (piece.IsLiteral ∧ next.IsLiteral)) :
    consPiece piece pieces = piece :: pieces := by
  unfold consPiece
  split
  · cases apart _ rfl ⟨trivial, trivial⟩
  · rfl

theorem normalized_cons_iff {r : Regex} {piece : Piece} {pieces : List Piece} :
    Normalized r (piece :: pieces) ↔ piece.RefersTo r ∧ piece.Legible ∧
      (∀ next ∈ pieces.head?, ¬ (piece.IsLiteral ∧ next.IsLiteral)) ∧ Normalized r pieces := by
  constructor
  · rintro ⟨refers, legible, apart⟩
    obtain ⟨refers, refersAll⟩ := List.forall_mem_cons.mp refers
    obtain ⟨legible, legibleAll⟩ := List.forall_mem_cons.mp legible
    obtain ⟨apart, apartAll⟩ := List.isChain_cons.mp apart
    exact ⟨refers, legible, apart, refersAll, legibleAll, apartAll⟩
  · rintro ⟨refers, legible, apart, refersAll, legibleAll, apartAll⟩
    exact ⟨List.forall_mem_cons.mpr ⟨refers, refersAll⟩,
      List.forall_mem_cons.mpr ⟨legible, legibleAll⟩, List.isChain_cons.mpr ⟨apart, apartAll⟩⟩

theorem normalized_nil (r : Regex) : Normalized r [] := ⟨nofun, nofun, .nil⟩

theorem Normalized.consPiece {r : Regex} {piece : Piece} {pieces : List Piece}
    (h : Normalized r pieces) (refers : piece.RefersTo r) (legible : piece.Legible) :
    Normalized r (Template.consPiece piece pieces) := by
  unfold Template.consPiece
  split
  · obtain ⟨_, _, apart, rest⟩ := normalized_cons_iff.mp h
    refine normalized_cons_iff.mpr ⟨trivial, List.append_ne_nil_of_left_ne_nil legible _, ?_, rest⟩
    exact fun next first ⟨_, literal⟩ => apart next first ⟨trivial, literal⟩
  · rename_i others
    refine normalized_cons_iff.mpr ⟨refers, legible, ?_, h⟩
    rintro next first ⟨literal, literal'⟩
    obtain ⟨rest, rfl⟩ := List.head?_eq_some_iff.mp first
    cases piece with
    | literal a =>
        cases next with
        | literal b => exact others a b rest rfl rfl
        | group index => exact literal'
        | named name => exact literal'
    | group index => exact literal
    | named name => exact literal

/-! ## Reading what is written -/

section

variable {r : Regex} {ts : List Token}

theorem piecesOf_chars (c : Char) (text : List Char) :
    piecesOf r.groupNames ((c :: text).map .char ++ ts) =
      (piecesOf r.groupNames ts).map (consPiece (.literal (c :: text))) := by
  induction text generalizing c with
  | nil => rfl
  | cons d text ih =>
      rw [List.map_cons, List.cons_append, piecesOf, pieceOf]
      dsimp only
      rw [ih]
      cases piecesOf r.groupNames ts with
      | error e => rfl
      | ok pieces => exact congrArg Except.ok (consPiece_literal_literal [c] (d :: text) pieces)

theorem piecesOf_tokensOf {piece : Piece} (refers : piece.RefersTo r) (legible : piece.Legible) :
    piecesOf r.groupNames (tokensOf piece ++ ts) =
      (piecesOf r.groupNames ts).map (consPiece piece) := by
  cases piece with
  | literal text =>
      cases text with
      | nil => cases legible rfl
      | cons c text => exact piecesOf_chars c text
  | group index =>
      have inRange : index < r.groupNames.length := refers
      have value : groupIndex r.groupNames.length (Nat.toDigits 10 index) = .ok index := by
        rw [groupIndex, decimal?_eq Nat.toDigits_ne_nil fun d => isDigit_of_mem_toDigits,
          numeral_toDigits]
        simp only [if_pos inRange]
      rw [tokensOf, List.singleton_append, piecesOf, pieceOf, value]
      rfl
  | named name =>
      have known : some name ∈ r.groupNames := refers
      rw [tokensOf, List.singleton_append, piecesOf, pieceOf, String.ofList_toList,
        if_pos (List.contains_iff_mem.mpr known)]

theorem Normalized.piecesOf {pieces : List Piece} (h : Normalized r pieces) :
    Template.piecesOf r.groupNames (pieces.flatMap tokensOf) = .ok pieces := by
  induction pieces with
  | nil => rfl
  | cons piece pieces ih =>
      obtain ⟨refers, legible, apart, rest⟩ := normalized_cons_iff.mp h
      rw [List.flatMap_cons, piecesOf_tokensOf refers legible, ih rest]
      exact congrArg Except.ok (consPiece_eq_cons apart)

/-- A template is read by the tokens of its text. -/
theorem parse_of_spells {source : String} (h : Spells source.toList ts) :
    parse r.groupNames source =
      (Template.piecesOf r.groupNames ts).map fun pieces => ⟨source, pieces⟩ := by
  rw [parse, tokens, piecesOf_tokensFrom h (Nat.le_refl _)]

theorem Normalized.parse_render {pieces : List Piece} (h : Normalized r pieces) :
    parse r.groupNames (render pieces) = .ok ⟨render pieces, pieces⟩ := by
  have spells : Spells (render pieces).toList (pieces.flatMap tokensOf) := by
    rw [render, String.toList_ofList]
    exact spells_written h.legible
  rw [parse_of_spells spells, h.piecesOf]
  rfl

/-! ## What is read can be written -/

/-- A name that is read can stand between angle brackets without being a number. -/
def Token.Legible : Token → Prop
  | .name letters => '>' ∉ letters ∧ ∃ c ∈ letters, Text.isDigit c = false
  | _ => True

theorem Reads.legible {text rest : List Char} {t : Token} (h : Reads text t rest) : t.Legible := by
  cases h with
  | groupName _ closed other => exact ⟨closed, other⟩
  | _ => trivial

theorem Spells.legible {text : List Char} (h : Spells text ts) : ∀ t ∈ ts, t.Legible := by
  induction h with
  | done => exact nofun
  | token reads _ ih => exact List.forall_mem_cons.mpr ⟨reads.legible, ih⟩
  | stuck _ => exact List.forall_mem_singleton.mpr trivial

theorem groupIndex_lt {groups index : Nat} {digits : List Char}
    (h : groupIndex groups digits = .ok index) : index < groups := by
  unfold groupIndex at h
  split at h
  · split at h
    · cases h
      assumption
    · cases h
  · cases h

theorem of_pieceOf {t : Token} {piece : Piece} (legible : t.Legible)
    (h : pieceOf r.groupNames t = .ok piece) : piece.RefersTo r ∧ piece.Legible := by
  cases t with
  | char c =>
      cases h
      exact ⟨trivial, List.cons_ne_nil _ _⟩
  | verbatim c =>
      cases h
      exact ⟨trivial, List.cons_ne_nil _ _⟩
  | number digits =>
      obtain ⟨index, value, rfl⟩ := of_map_ok h
      exact ⟨groupIndex_lt value, trivial⟩
  | name letters =>
      rw [pieceOf] at h
      split at h
      · rename_i known
        cases h
        refine ⟨List.contains_iff_mem.mp known, ?_⟩
        rwa [Piece.Legible, String.toList_ofList]
      · cases h
  | octal digits =>
      obtain ⟨c, value, rfl⟩ := of_map_ok h
      exact ⟨trivial, List.cons_ne_nil _ _⟩
  | bad e => cases h

theorem normalized_of_piecesOf {pieces : List Piece} (legible : ∀ t ∈ ts, t.Legible)
    (h : Template.piecesOf r.groupNames ts = .ok pieces) : Normalized r pieces := by
  induction ts generalizing pieces with
  | nil =>
      cases h
      exact normalized_nil r
  | cons t ts ih =>
      obtain ⟨head, tail⟩ := List.forall_mem_cons.mp legible
      rw [Template.piecesOf] at h
      split at h
      · cases h
      · rename_i piece read
        obtain ⟨rest, others, rfl⟩ := of_map_ok h
        obtain ⟨refers, legible⟩ := of_pieceOf head read
        exact (ih tail others).consPiece refers legible

theorem normalized_of_parse {source : String} {t : Template}
    (h : parse r.groupNames source = .ok t) : Normalized r t.pieces := by
  obtain ⟨ts, spells⟩ := exists_spells source.toList
  rw [parse_of_spells spells] at h
  obtain ⟨pieces, read, rfl⟩ := of_map_ok h
  exact normalized_of_piecesOf spells.legible read

/-! ## There and back -/

theorem parse_doubled (r : Regex) (text : String) :
    ∃ t, parse r.groupNames (String.ofList (doubled text.toList)) = .ok t ∧
      ∀ found, t.expand found = text := by
  by_cases empty : text.toList = []
  · obtain rfl := String.toList_eq_nil_iff.mp empty
    exact ⟨_, (normalized_nil r).parse_render, fun _ => rfl⟩
  · have normalized : Normalized r [.literal text.toList] :=
      normalized_cons_iff.mpr ⟨trivial, empty, nofun, normalized_nil r⟩
    have rendered : render [.literal text.toList] = String.ofList (doubled text.toList) := by
      rw [render, List.flatMap_singleton, written]
    rw [← rendered]
    refine ⟨_, normalized.parse_render, fun found => ?_⟩
    simp [expand, Piece.fill]

end

/-- How reading and writing templates for a pattern agree. Normalized pieces are read from what is
written of them; what is read is normalized, and when it is written and read again, it is filled in
as before; and a text with its backslashes doubled is filled in as this text. -/
structure RoundTrip (r : Regex) : Prop where
  written : ∀ pieces, Normalized r pieces →
    parse r.groupNames (render pieces) = .ok ⟨render pieces, pieces⟩
  normalized : ∀ source t, parse r.groupNames source = .ok t → Normalized r t.pieces
  again : ∀ source t, parse r.groupNames source = .ok t → ∃ t',
    parse r.groupNames (render t.pieces) = .ok t' ∧ ∀ found, t'.expand found = t.expand found
  verbatim : ∀ text : String, ∃ t,
    parse r.groupNames (String.ofList (doubled text.toList)) = .ok t ∧
      ∀ found, t.expand found = text

theorem templates_round_trip (r : Regex) : RoundTrip r where
  written _ normalized := normalized.parse_render
  normalized _ _ read := normalized_of_parse read
  again _ _ read := ⟨_, (normalized_of_parse read).parse_render, fun _ => rfl⟩
  verbatim := parse_doubled r

end Template

end Paradigm
