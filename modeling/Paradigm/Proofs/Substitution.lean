import Paradigm.Proofs.Regex.Anchored
import Paradigm.Proofs.Regex.Enclosed
import Paradigm.Grammar

/-!
# Substitutions

A rule rewrites values by a pattern that stands between anchors. Main statement: if the pattern reads
by itself, a match of the compiled rule covers the value.
-/

namespace Paradigm

namespace Regex

/-! ## Anchors in normal form -/

namespace Expr

theorem flatten_concat_look (e : Expr) (look : Look) :
    flatten [e, .look look] = flatten [e] ++ [.look look] := by
  cases e <;> simp [flatten]

theorem joinTexts_concat_look (es : List Expr) (look : Look) :
    joinTexts (es ++ [.look look]) = joinTexts es ++ [.look look] := by
  induction es with
  | nil => rfl
  | cons e es ih =>
      rw [List.cons_append, joinTexts.eq_def, joinTexts.eq_def (e :: es)]
      dsimp only
      rw [ih]
      cases joinTexts es with
      | nil => cases e <;> rfl
      | cons e' es' => cases e <;> cases e' <;> rfl

/-- Anchors around an expression stay around it in normal form. -/
theorem ofConcat_anchors (e : Expr) :
    ∃ subs, ofConcat [.look .textStart, e, .look .textEnd] =
        .concat (.look .textStart :: (subs ++ [.look .textEnd])) ∧ groupsAll subs = e.groups := by
  refine ⟨joinTexts (flatten [e]), ?_, ?_⟩
  · have normal : joinTexts (flatten [.look .textStart, e, .look .textEnd]) =
        .look .textStart :: (joinTexts (flatten [e]) ++ [.look .textEnd]) := by
      rw [← joinTexts_concat_look, ← flatten_concat_look]
      rfl
    rw [ofConcat, normal]
    split
    · rename_i none
      cases none
    · rename_i one
      simp at one
    · rfl
  · rw [groupsAll_joinTexts, groupsAll_flatten, groupsAll, groupsAll, List.append_nil]

end Expr

/-- The expression of an enclosed pattern has the anchors around it. -/
theorem resolve_enclosed {pattern : List Char} {s s₁ s₂ s₃ : Span} {body : Ast} {e : Expr}
    (numbered : body.Numbered)
    (h : (Ast.concat s [.assertion s₁ .startLine, .group s₂ (.plain []) body,
      .assertion s₃ .endLine]).resolve pattern = .ok e) :
    ∃ subs, e = .concat (.look .textStart :: (subs ++ [.look .textEnd])) ∧
      ∀ g ∈ Expr.groupsAll subs, 1 ≤ g.1 := by
  unfold Ast.resolve at h
  split at h
  · rename_i resolved
    cases h
    rw [resolve] at resolved
    obtain ⟨_, all, same⟩ := of_bind_ok resolved
    cases same
    rw [resolveAll] at all
    obtain ⟨_, first, all⟩ := of_bind_ok all
    cases first
    obtain ⟨_, rest, same⟩ := of_bind_ok all
    cases same
    rw [resolveAll] at rest
    obtain ⟨_, group, rest⟩ := of_bind_ok rest
    obtain ⟨⟨inner, _⟩, body, same⟩ := of_bind_ok group
    cases same
    obtain ⟨_, last, same⟩ := of_bind_ok rest
    cases same
    cases last
    obtain ⟨subs, normal, groups⟩ := Expr.ofConcat_anchors inner
    refine ⟨subs, normal, fun g member => ?_⟩
    rw [groups] at member
    exact numbered g.1 (groups_of_resolve _ body g member)
  · cases h

theorem groupNames_ne_nil (e : Expr) : 1 ≤ e.groupNames.length := by
  simp [Expr.groupNames]

/-- A match of a pattern that reads by itself, enclosed between anchors, covers the text. -/
theorem covers_of_enclosed {pattern : List Char} {enclosed : String} {r : Regex} {alone : Ast}
    {text : String} {found : Match} (reads : Ast.read pattern = .ok alone)
    (same : enclosed.toList = '^' :: '(' :: '?' :: ':' :: (pattern ++ closing))
    (compiled : compile enclosed = .ok r) (h : r.find? text = some found) :
    found.Covers ∧ found.group? 0 = some text := by
  obtain ⟨whole, readWhole, compiled⟩ := of_bind_ok compiled
  obtain ⟨e, resolved, compiled⟩ := of_bind_ok compiled
  cases compiled
  rw [same] at readWhole
  obtain ⟨s, s₁, s₂, s₃, body, numbered, rfl⟩ := Reader.read_enclosed reads readWhole
  obtain ⟨subs, rfl, indexed⟩ := resolve_enclosed numbered resolved
  obtain ⟨slots, searched, rfl⟩ := Option.map_eq_some_iff.mp h
  obtain ⟨rest, rfl⟩ := (Program.anchored_ofExpr indexed).search (groupNames_ne_nil _) searched
  have spans : spansOf (some 0 :: some text.toList.toArray.size :: rest) =
      some (0, text.toList.length) :: spansOf rest := by
    rw [spansOf, List.size_toArray]
  constructor
  · rw [Match.Covers, spans]
    rfl
  · rw [Match.group?, spans]
    simp

end Regex

/-! ## Compiled rules -/

theorem toList_anchored (pattern : String) :
    (anchored pattern).toList = '^' :: '(' :: '?' :: ':' :: (pattern.toList ++ Regex.closing) := by
  simp [anchored, Regex.closing]

theorem Rule.of_compile_rewrite {part : String} {spec : RewriteSpec} {s : Substitution}
    (h : Rule.compile part (.rewrite spec) = .ok (.substitution s)) :
    Regex.compile (anchored spec.pattern) = .ok s.regex := by
  unfold Rule.compile at h
  dsimp only at h
  split at h
  · cases h
  rename_i compiled
  split at h
  · cases h
  · cases h
    exact compiled

/-- Whether compiling gives a substitution that applies to a value, with such a match. -/
def Rule.appliesWith (test : Regex.Match → Bool) (value : String) : Except Error Rule → Bool
  | .ok (.substitution s) => (s.regex.find? value).any test
  | _ => false

theorem Rule.exists_match (compiled : Except Error Rule) (value : String) (test : Regex.Match → Bool)
    (h : Rule.appliesWith test value compiled = true) :
    ∃ s found, compiled = .ok (.substitution s) ∧ s.regex.find? value = some found ∧
      test found = true := by
  unfold Rule.appliesWith at h
  split at h
  · rename_i s
    obtain ⟨found, matched, holds⟩ := (Option.any_eq_true ..).mp h
    exact ⟨s, found, rfl, matched, holds⟩
  · cases h

/-- A substitution rewrites whole values if its pattern reads by itself. -/
theorem Rule.substitution_covers {part : String} {spec : RewriteSpec} {s : Substitution}
    {alone : Regex.Ast} {value : String} {found : Regex.Match}
    (compiled : Rule.compile part (.rewrite spec) = .ok (.substitution s))
    (reads : Regex.Ast.read spec.pattern.toList = .ok alone)
    (applies : s.regex.find? value = some found) :
    found.Covers ∧ found.group? 0 = some value :=
  Regex.covers_of_enclosed reads (toList_anchored spec.pattern) (Rule.of_compile_rewrite compiled)
    applies

theorem Rule.stem_rule_covers :
    ∃ s found, Rule.compile "stem" (.rewrite ⟨"plain", "(.*)(an|ian)", "\\1"⟩) =
        .ok (.substitution s) ∧ s.regex.find? "hopian" = some found ∧
      found.Covers ∧ found.group? 0 = some "hopian" := by
  obtain ⟨alone, reads⟩ : ∃ alone, Regex.Ast.read "(.*)(an|ian)".toList = .ok alone :=
    exists_ok (by decide +kernel)
  obtain ⟨s, found, compiled, matched, _⟩ :=
    Rule.exists_match (Rule.compile "stem" (.rewrite ⟨"plain", "(.*)(an|ian)", "\\1"⟩))
      "hopian" (fun _ => true) (by decide +kernel)
  exact ⟨s, found, compiled, matched, Rule.substitution_covers compiled reads matched⟩

/-- The closing parenthesis of the pattern `a)|(?:b` ends the group between the anchors, so that the
compiled rule applies to a value of which it matches the first character only. -/
theorem Rule.exists_substitution_not_covers :
    ∃ s found, Rule.compile "y" (.rewrite ⟨"x", "a)|(?:b", "\\g<0>"⟩) = .ok (.substitution s) ∧
      s.regex.find? "ax" = some found ∧ ¬ found.Covers := by
  obtain ⟨s, found, compiled, matched, partially⟩ :=
    Rule.exists_match (Rule.compile "y" (.rewrite ⟨"x", "a)|(?:b", "\\g<0>"⟩))
      "ax" (fun found => !decide found.Covers) (by decide +kernel)
  exact ⟨s, found, compiled, matched, by simpa using partially⟩

end Paradigm
