import Paradigm.Proofs.Generation.Nesting
import Paradigm.Proofs.Placeholder

/-!
# Requests come to an end

Expansion can run on for ever only through braces that are left over where a value meets the text
around it. Where all templates and forms are rows of placeholders, an insertion either brings a
placeholder along, which is allowed a bounded number of times, or leaves fewer braces than before.
-/

namespace Paradigm

open Placeholder

/-! ## Finishing -/

namespace Halt

variable {α β : Type} {permitted : Error → Prop} {P : α → Prop} {Q : β → Prop}

/-- The outcome is an answer with a property, or an error that is permitted. -/
def Finishes (permitted : Error → Prop) (P : α → Prop) (x : Except Halt α) : Prop :=
  (∃ a, x = .ok a ∧ P a) ∨ ∃ e, x = .error (.failed e) ∧ permitted e

theorem Finishes.ok {a : α} (h : P a) : Finishes permitted P (.ok a) := .inl ⟨a, rfl, h⟩

theorem Finishes.failed {e : Error} (h : permitted e) :
    Finishes permitted P (.error (.failed e)) := .inr ⟨e, rfl, h⟩

theorem Finishes.bind {x : Except Halt α} {f : α → Except Halt β} (h : Finishes permitted P x)
    (h' : ∀ a, P a → Finishes permitted Q (f a)) : Finishes permitted Q (x >>= f) := by
  rcases h with ⟨a, rfl, ha⟩ | ⟨e, rfl, he⟩
  · exact h' a ha
  · exact .failed he

theorem Finishes.of_ok {a : α} (h : Finishes permitted P (.ok a)) : P a := by
  rcases h with ⟨_, ok, ha⟩ | ⟨_, failed, _⟩
  · cases ok
    exact ha
  · cases failed

theorem Finishes.of_error {halt : Halt} (h : Finishes permitted P (.error halt)) :
    Finishes permitted Q (.error halt) := by
  rcases h with ⟨_, ok, _⟩ | ⟨e, failed, he⟩
  · cases ok
  · cases failed
    exact .failed he

theorem Finishes.mapM {f : α → Except Halt β} {l : List α}
    (h : ∀ a ∈ l, Finishes permitted Q (f a)) :
    Finishes permitted (fun bs => ∀ b ∈ bs, Q b) (l.mapM f) := by
  induction l with
  | nil => exact .ok nofun
  | cons a l ih =>
      obtain ⟨head, tail⟩ := List.forall_mem_cons.mp h
      rw [List.mapM_cons]
      exact head.bind fun b hb => (ih tail).bind fun bs hbs =>
        .ok (List.forall_mem_cons.mpr ⟨hb, hbs⟩)

theorem Finishes.isFinal {x : Except Halt α} (h : Finishes permitted P x) : isFinal x = true := by
  rcases h with ⟨a, rfl, _⟩ | ⟨e, rfl, _⟩ <;> rfl

theorem Finishes.refines {x y : Except Halt α} (h : Finishes permitted P x) (more : Refines x y) :
    Finishes permitted P y := by
  rwa [more.eq h.isFinal]

/-- If for each item some fuel is enough, some fuel is enough for all of them. -/
theorem exists_enough {f : Nat → α → Except Halt β}
    (mono : ∀ a k k', k ≤ k' → Refines (f k a) (f k' a)) {l : List α}
    (h : ∀ a ∈ l, ∃ fuel, Finishes permitted Q (f fuel a)) :
    ∃ fuel, ∀ a ∈ l, Finishes permitted Q (f fuel a) := by
  induction l with
  | nil => exact ⟨0, nofun⟩
  | cons a l ih =>
      obtain ⟨head, tail⟩ := List.forall_mem_cons.mp h
      obtain ⟨k, hk⟩ := head
      obtain ⟨n, hn⟩ := ih tail
      refine ⟨max k n, List.forall_mem_cons.mpr ⟨?_, fun b member => ?_⟩⟩
      · exact hk.refines (mono a _ _ (Nat.le_max_left k n))
      · exact (hn b member).refines (mono b _ _ (Nat.le_max_right k n))

end Halt

open Halt

/-! ## Braces in forms -/

/-- How forms may have opening braces: none, or those of complete placeholders. -/
inductive Bracing where
  | free
  | complete
deriving DecidableEq

namespace Bracing

/-- The form has the braces that are asked for. -/
def Holds : Bracing → String → Prop
  | free, form => BraceFree form.toList
  | complete, form => WellBraced form.toList

theorem Holds.segmented : ∀ {b : Bracing} {form : String}, b.Holds form → Segmented form.toList
  | free, _, h => BraceFree.segmented h
  | complete, _, h => WellBraced.segmented h

theorem holds_of_braceFree : ∀ (b : Bracing) {form : String}, BraceFree form.toList → b.Holds form
  | free, _, h => h
  | complete, _, h => h.segmented.wellBraced

/-- The forms are braced as they should be. -/
def All (b : Bracing) (forms : List String) : Prop := ∀ form ∈ forms, b.Holds form

theorem all_flatten {b : Bracing} {forms : List (List String)} (h : ∀ fs ∈ forms, b.All fs) :
    b.All forms.flatten := by
  intro form member
  obtain ⟨fs, inside, here⟩ := List.mem_flatten.mp member
  exact h fs inside form here

/-- Where forms have no braces, no template is refused for being too deep. -/
def Permits (b : Bracing) (e : Error) : Prop :=
  b = free → ∀ text limit, e.fault ≠ .expansionTooDeep text limit

end Bracing

/-! ## Rules that bring no braces -/

theorem Regex.text_of_find? {r : Regex} {value : String} {found : Regex.Match}
    (h : r.find? value = some found) : found.text = value.toList := by
  obtain ⟨slots, _, rfl⟩ := Option.map_eq_some_iff.mp h
  rfl

theorem Regex.Match.mem_of_group? {m : Regex.Match} {index : Nat} {group : String} {c : Char}
    (h : m.group? index = some group) (member : c ∈ group.toList) : c ∈ m.text := by
  rw [Regex.Match.group?] at h
  split at h
  · cases h
    rw [String.toList_ofList] at member
    exact List.mem_of_mem_drop (List.mem_of_mem_take member)
  · cases h

/-- The piece has no brace of its own. -/
def Piece.Plain : Piece → Prop
  | .literal text => BraceFree text
  | .group _ => True
  | .named _ => True

instance : (piece : Piece) → Decidable piece.Plain
  | .literal text => inferInstanceAs (Decidable (BraceFree text))
  | .group _ => .isTrue trivial
  | .named _ => .isTrue trivial

theorem Piece.Plain.fill {piece : Piece} (plain : piece.Plain) {m : Regex.Match}
    (free : BraceFree m.text) : BraceFree (Template.Piece.fill m piece).toList := by
  have group : ∀ index, BraceFree ((m.group? index).getD "").toList := by
    intro index member
    cases found : m.group? index with
    | none => simp [found] at member
    | some text => exact free (Regex.Match.mem_of_group? found (by simpa [found] using member))
  cases piece with
  | literal text => simpa [Template.Piece.fill, Piece.Plain] using plain
  | group index => exact group index
  | named name =>
      rw [Template.Piece.fill, Regex.Match.named?]
      cases m.groupNames.findIdx? (· == some name) with
      | none => exact List.not_mem_nil
      | some index => exact group index

theorem Template.expand_braceFree {t : Template} (plain : ∀ piece ∈ t.pieces, piece.Plain)
    {m : Regex.Match} (free : BraceFree m.text) : BraceFree (t.expand m).toList := by
  intro member
  rw [Template.expand, String.toList_join] at member
  obtain ⟨_, fills, here⟩ := List.mem_flatMap.mp member
  obtain ⟨piece, inside, rfl⟩ := List.mem_map.mp fills
  exact (plain piece inside).fill free here

/-- A template is a row of placeholders, a replacement has no brace of its own. -/
def Rule.Plain : Rule → Prop
  | .pattern text => WellBraced text.toList
  | .substitution s => ∀ piece ∈ s.template.pieces, piece.Plain

instance : (rule : Rule) → Decidable rule.Plain
  | .pattern text => inferInstanceAs (Decidable (WellBraced text.toList))
  | .substitution s => inferInstanceAs (Decidable (∀ piece ∈ s.template.pieces, piece.Plain))

namespace Inventory

/-- Templates are rows of placeholders; given forms are braced in a certain way, and rewriting a
form that is so gives one that is so. -/
structure Tame (i : Inventory) (seeds : List (String × String)) (b : Bracing) : Prop where
  templates : ∀ part rules, i.rules? part = some rules →
    ∀ text, .pattern text ∈ rules → WellBraced text.toList
  given : ∀ seed ∈ seeds, b.Holds seed.2
  rewrites : ∀ part rules, i.rules? part = some rules → ∀ s, .substitution s ∈ rules →
    ∀ value found, s.regex.find? value = some found → b.Holds value →
      b.Holds (s.template.expand found)

/-- Rules that bring no braces are tame on given forms without braces. -/
theorem tame_of_plain {i : Inventory} {seeds : List (String × String)}
    (plain : ∀ entry ∈ i.parts.entries, ∀ rule ∈ entry.2, rule.Plain)
    (given : ∀ seed ∈ seeds, BraceFree seed.2.toList) : i.Tame seeds .free where
  templates part rules ruled text member :=
    plain (part, rules) (SortedMap.mem_entries_iff.mpr ruled) _ member
  given := given
  rewrites part rules ruled s member value found matched free := by
    have pieces := plain (part, rules) (SortedMap.mem_entries_iff.mpr ruled) _ member
    exact Template.expand_braceFree pieces (by rwa [Regex.text_of_find? matched])

section

variable {i : Inventory} {seeds : List (String × String)} {b : Bracing} {trail : List String}
  {answers : String → Except Halt (List String)}

/-- What is asked for comes to an end, with forms that are braced as they should be. -/
def Answering (b : Bracing) (answers : String → Except Halt (List String)) : Prop :=
  ∀ part, Finishes b.Permits b.All (answers part)

/-- An expansion comes to an end if it does so after each insertion at the leftmost placeholder. -/
theorem finishes_insertions (answering : Answering b answers) {depth : Nat}
    {text name : List Char} (first : first? text = some name) (within : depth < expansionLimit)
    (inserted : ∀ form, b.Holds form → ∃ fuel, Finishes b.Permits b.All
      ((i.directDemand trail answers).expandWithin fuel
        (depth + if occurs form.toList then 1 else 0) (fill name form.toList text))) :
    ∃ fuel, Finishes b.Permits b.All
      ((i.directDemand trail answers).expandWithin fuel depth text) := by
  have open_ : ¬ expansionLimit ≤ depth := Nat.not_le_of_lt within
  rcases answering (String.ofList name) with ⟨forms, asked, holds⟩ | ⟨e, asked, permitted⟩
  · obtain ⟨fuel, enough⟩ := exists_enough
      (fun form _ _ le => expandWithin_refines le _ (fill name form.toList text))
      (fun form member => inserted form (holds form member))
    refine ⟨fuel + 1, ?_⟩
    simp only [Demand.expandWithin, first, if_neg open_]
    have answer : Finishes b.Permits (· = forms) (answers (String.ofList name)) :=
      .inl ⟨forms, asked, rfl⟩
    refine answer.bind ?_
    rintro _ rfl
    exact (Finishes.mapM enough).bind fun results all => .ok (Bracing.all_flatten all)
  · refine ⟨1, ?_⟩
    have failing : Finishes b.Permits (fun _ => False) (answers (String.ofList name)) :=
      .inr ⟨e, asked, permitted⟩
    simp only [Demand.expandWithin, first, if_neg open_]
    exact failing.bind fun _ never => never.elim

/-- An expansion comes to an end. Either an inserted form brings a placeholder along, and then the
depth grows up to the limit, or it has no brace, and then fewer braces are left. -/
theorem finishes_expandWithin (answering : Answering b answers) {depth : Nat} {text : List Char}
    (segmented : Segmented text) (flat : b = .free → depth = 0) :
    ∃ fuel, Finishes b.Permits b.All
      ((i.directDemand trail answers).expandWithin fuel depth text) := by
  cases first : first? text with
  | none =>
      refine ⟨1, ?_⟩
      simp only [Demand.expandWithin, first]
      refine .ok fun form member => b.holds_of_braceFree ?_
      rw [List.mem_singleton.mp member, String.toList_ofList]
      exact segmented.braceFree first
  | some name =>
      by_cases limited : expansionLimit ≤ depth
      · refine ⟨1, ?_⟩
        simp only [Demand.expandWithin, first, if_pos limited]
        refine .failed fun free => ?_
        rw [flat free] at limited
        exact absurd limited (by decide)
      · refine finishes_insertions answering first (Nat.lt_of_not_le limited) fun form braced => ?_
        have value := braced.segmented
        have filled := value.fill (isName_of_first? first) segmented
        cases inner : occurs form.toList with
        | true =>
            have deeper : expansionLimit - (depth + 1) < expansionLimit - depth := by omega
            refine finishes_expandWithin answering filled fun free => ?_
            subst free
            rw [BraceFree.occurs braced] at inner
            cases inner
        | false =>
            have free := value.braceFree (by simpa [occurs] using inner)
            have fewer := openings_fill_lt free segmented first
            exact finishes_expandWithin answering filled flat
termination_by (expansionLimit - depth, openings text)

theorem finishes_expand (answering : Answering b answers) {text : String}
    (braced : WellBraced text.toList) :
    Finishes b.Permits b.All ((i.directDemand trail answers).expand text) := by
  obtain ⟨fuel, finishes⟩ := finishes_expandWithin answering braced.segmented fun _ => rfl
  rwa [expand_eq finishes.isFinal]

theorem finishes_substitute (answering : Answering b answers) {s : Substitution}
    (rewrites : ∀ value found, s.regex.find? value = some found → b.Holds value →
      b.Holds (s.template.expand found)) :
    Finishes b.Permits b.All ((i.directDemand trail answers).substitute s) := by
  refine (answering s.source).bind fun forms braced => Finishes.mapM fun form member => ?_
  simp only [Demand.rewrite]
  cases matched : s.regex.find? form with
  | some found => exact .ok (rewrites form found matched (braced form member))
  | none => exact .failed fun _ _ _ same => by cases same

theorem finishes_rules {t : Trail i} (tame : i.Tame seeds b)
    (answering : Answering b (i.evaluate seeds t)) {part : String} {rules : List Rule}
    (ruled : i.rules? part = some rules) :
    Finishes b.Permits b.All ((i.directAt seeds t).rules rules) := by
  have each : ∀ rule ∈ rules, Finishes b.Permits b.All ((i.directAt seeds t).rule rule) := by
    intro rule member
    cases rule with
    | pattern text =>
        exact finishes_expand answering (tame.templates part rules ruled text member)
    | substitution s =>
        exact finishes_substitute answering (tame.rewrites part rules ruled s member)
  exact (Finishes.mapM each).bind fun results all => .ok (Bracing.all_flatten all)

/-! ## Requests -/

theorem Tame.givenForm? (tame : i.Tame seeds b) {part form : String}
    (given : givenForm? seeds part = some form) : b.Holds form := by
  obtain ⟨before, after, split, _⟩ := List.lookup_eq_some_iff.mp given
  exact tame.given (part, form) (List.mem_reverse.mp (by simp [split]))

theorem answering_evaluate (tame : i.Tame seeds b) (trail : Trail i) :
    Answering b (i.evaluate seeds trail) := by
  induction trail using Trail.induction with
  | step trail ih =>
      intro part
      have answer := i.evaluate_answer seeds trail part
      generalize i.evaluate seeds trail part = r at answer ⊢
      cases answer with
      | given given =>
          refine .ok fun other member => ?_
          rw [List.mem_singleton.mp member]
          exact tame.givenForm? given
      | begun _ _ => exact .failed fun _ _ _ same => by cases same
      | unruled _ _ _ => exact .failed fun _ _ _ same => by cases same
      | halted _ fresh ruled outcome =>
          have finishes := finishes_rules tame (ih part fresh _ ruled) ruled
          rw [outcome] at finishes
          exact finishes.of_error
      | yielded _ fresh ruled outcome =>
          have finishes := finishes_rules tame (ih part fresh _ ruled) ruled
          rw [outcome] at finishes
          exact .ok fun form member => finishes.of_ok form (mem_distinctForms.mp member)

/-- Where templates are rows of placeholders, and given and rewritten forms are braced in one of the
two ways, every request comes to an end, with an answer or an error, after computations nested no
deeper than there are parts; and where forms have no braces, no expansion is too deep. -/
theorem generate_comes_to_end {trail : Trail i} {s : Session} (tame : i.Tame seeds b)
    (reachable : i.Reachable seeds trail s) (part : String) :
    ((∃ forms, ((i.generate trail part).outcome s).1 = .ok forms) ∨
      ∃ e, ((i.generate trail part).outcome s).1 = .error (.failed e) ∧
        (b = .free → ∀ text limit, e.fault ≠ .expansionTooDeep text limit)) ∧
      ∀ trace ∈ ((i.generate trail part).outcome s).2.stats.computed,
        trace.depth < i.partNames.length := by
  refine ⟨?_, (reachable.asked part).nested⟩
  rw [reachable.generate_eq part]
  rcases answering_evaluate tame trail part with ⟨forms, ok, _⟩ | ⟨e, failed, permitted⟩
  · exact .inl ⟨forms, ok⟩
  · exact .inr ⟨e, failed, permitted⟩

end

theorem strong_mood_comes_to_end :
    strongVerbs.Tame [("stem", "bind")] .free ∧
      ((∃ forms, ((strongVerbs.generate .empty "mood").outcome afterLost).1 = .ok forms) ∨
        ∃ e, ((strongVerbs.generate .empty "mood").outcome afterLost).1 = .error (.failed e) ∧
          (Bracing.free = .free → ∀ text limit, e.fault ≠ .expansionTooDeep text limit)) ∧
        ∀ trace ∈ ((strongVerbs.generate .empty "mood").outcome afterLost).2.stats.computed,
          trace.depth < strongVerbs.partNames.length :=
  have tame : strongVerbs.Tame [("stem", "bind")] .free :=
    tame_of_plain (by decide +kernel) (by decide +kernel)
  ⟨tame, generate_comes_to_end tame reachable_afterLost "mood"⟩

end Inventory

end Paradigm
