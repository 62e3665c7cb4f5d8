import Paradigm.Proofs.Generation.Nesting
import Paradigm.Proofs.Generation.Requests

/-!
# Errors tell where and why

An error is made deep inside a request and handed up through all the parts that wait for it. A
descent follows the requests down to the part that fails; the trail of the error is that of the
descent, and its fault is what is wrong at the end.
-/

namespace Paradigm

open Halting

namespace Inventory

variable {i : Inventory} {seeds : List (String × String)}

/-! ## Descents -/

/-- The rules of the last part of the trail ask for the part, and for no other after it. -/
def Requested (i : Inventory) (seeds : List (String × String)) (parts : List String)
    (part : String) : Prop :=
  ∃ (trail : Trail i) (last : String) (rules : List Rule), trail.parts = parts ∧
    parts.getLast? = some last ∧ i.rules? last = some rules ∧
      (i.requests seeds trail rules).getLast? = some part

/-- A request for `start` goes on, each time with the last request of the rules of a part, down to a
request for a part below a trail. -/
inductive Descends (i : Inventory) (seeds : List (String × String)) (start : String) :
    Trail i → String → Prop where
  | start : Descends i seeds start .empty start
  | next {trail : Trail i} {part below : String} {rules : List Rule}
    (above : Descends i seeds start trail part) (unseeded : givenForm? seeds part = none)
    (fresh : part ∉ trail.parts) (ruled : i.rules? part = some rules)
    (last : (i.requests seeds (trail.extend part fresh ruled) rules).getLast? = some below) :
    Descends i seeds start (trail.extend part fresh ruled) below

/-- Why a part below a trail has no forms, none of those it asks for being to blame. -/
inductive Stops (i : Inventory) (seeds : List (String × String)) (trail : Trail i)
    (part : String) : List String → Fault → Prop where
  | cyclic (begun : part ∈ trail.parts) :
    Stops i seeds trail part trail.parts (.cyclicReference (cycleOf part trail.parts))
  | unknown (unseeded : givenForm? seeds part = none) (unruled : i.rules? part = none) :
    Stops i seeds trail part trail.parts (.unknownPart part)
  | refused {rules : List Rule} {fault : Fault} (unseeded : givenForm? seeds part = none)
    (fresh : part ∉ trail.parts) (ruled : i.rules? part = some rules)
    (refuses : i.Refuses seeds (i.evaluate seeds (trail.extend part fresh ruled)) rules fault) :
    Stops i seeds trail part (trail.extend part fresh ruled).parts fault

/-- An error is that of a part that a descent comes to and that stops it. -/
theorem Descends.stops {start : String} {trail : Trail i} {part : String} {e : Error}
    (descends : i.Descends seeds start trail part)
    (failed : i.evaluate seeds trail part = .error (.failed e)) :
    ∃ trail part, i.Descends seeds start trail part ∧
      i.Stops seeds trail part e.trail e.fault ∧ e.category = some i.category := by
  induction trail using Trail.induction generalizing part with
  | step trail ih =>
      have answer := i.evaluate_answer seeds trail part
      rw [failed] at answer
      cases answer with
      | begun _ begun => exact ⟨trail, part, descends, .cyclic begun, rfl⟩
      | unruled unseeded _ unruled => exact ⟨trail, part, descends, .unknown unseeded unruled, rfl⟩
      | halted unseeded fresh ruled outcome =>
          rcases error_of_rules outcome with ⟨below, last, failed⟩ | ⟨fault, refuses, same⟩
          · exact ih part fresh _ ruled (descends.next unseeded fresh ruled last) failed
          · cases same
            exact ⟨trail, part, descends, .refused unseeded fresh ruled refuses, rfl⟩

/-! ## What a descent says about its trail -/

section

variable {start : String} {trail : Trail i} {part : String}

theorem Descends.head? (h : i.Descends seeds start trail part) :
    (trail.parts ++ [part]).head? = some start := by
  induction h with
  | start => rfl
  | next _ _ _ _ _ ih => rw [Trail.parts_extend, List.head?_append, ih, Option.some_or]

theorem Descends.unseeded (h : i.Descends seeds start trail part) :
    ∀ p ∈ trail.parts, givenForm? seeds p = none := by
  induction h with
  | start => exact nofun
  | next _ unseeded _ _ _ ih =>
      intro p member
      rcases List.mem_append.mp member with member | member
      · exact ih p member
      · rwa [List.mem_singleton.mp member]

/-- On the way down each part is asked for by the one above it. -/
theorem Descends.requested (h : i.Descends seeds start trail part) :
    ∀ before p after, trail.parts ++ [part] = before ++ p :: after →
      before = [] ∨ i.Requested seeds before p := by
  induction h with
  | start =>
      intro before p after split
      cases before with
      | nil => exact .inl rfl
      | cons _ before => simp [Trail.empty] at split
  | next _ _ _ ruled last ih =>
      intro before p after split
      rcases List.eq_nil_or_concat after with rfl | ⟨after, q, rfl⟩
      · obtain ⟨rfl, same⟩ := List.append_inj' split rfl
        cases same
        exact .inr ⟨_, _, _, rfl, List.getLast?_concat, ruled, last⟩
      · rw [List.concat_eq_append, ← List.cons_append, ← List.append_assoc] at split
        exact ih before p after (List.append_inj' split rfl).1

end

/-! ## Sources are resolved before their forms are matched -/

/-- The source of a mismatch is known where the error leaves the session. -/
def Resolved (e : Error) (s : Session) : Prop :=
  ∀ source value pattern, e.fault = .patternMismatch source value pattern →
    (s.memo.get? source).isSome

theorem kept_known (i : Inventory) (part : String) :
    i.Kept fun s => (s.memo.get? part).isSome where
  countRecall _ known := known
  begin _ _ _ _ _ _ known := known
  finish s p slot forms known := by
    show ((s.memo.insert p forms).get? part).isSome
    rw [SortedMap.get?_insert]
    split
    · rfl
    · exact known
  countExpansion _ known := known
  countMatch _ known := known

theorem known_of_generate_ok {trail : Trail i} {part : String} {s s' : Session}
    {forms : List String} (ok : (i.generate trail part).outcome s = (.ok forms, s')) :
    s'.memo.get? part = some forms := by
  have answer := i.generate_answer trail part s
  rw [ok] at answer
  cases answer with
  | known known => exact known
  | yielded _ _ _ _ => exact SortedMap.get?_insert_self ..

section

variable {trail : List String} {t : Trail i}

theorem resolved_expandWithin (h : ∀ part, FailsAs Resolved (i.generate t part))
    (fuel depth : Nat) (text : List Char) :
    FailsAs Resolved ((i.demand trail (i.generate t)).expandWithin fuel depth text) := by
  induction fuel generalizing depth text with
  | zero => exact .outOfFuel
  | succ fuel ih =>
      simp only [Demand.expandWithin]
      cases Placeholder.first? text with
      | none => exact .pure _
      | some name =>
          simp only
          split
          · intro s e s' failed
            cases failed
            intro source value pattern same
            cases same
          · refine (h _).bind fun forms => (FailsAs.mapM fun form _ => ?_).bind fun _ => .pure _
            exact FailsAs.bind (.modify _) fun _ => ih _ _

theorem mismatch_rewrite (s : Substitution) (form : String) :
    FailsAs (fun e (_ : Session) => ∃ value, e.fault = .patternMismatch s.source value s.pattern)
      ((i.demand trail (i.generate t)).rewrite s form) := by
  refine FailsAs.bind (.modify _) fun _ => ?_
  cases s.regex.find? form with
  | some found => exact .pure _
  | none =>
      intro _ e _ failed
      cases failed
      exact ⟨form, rfl⟩

/-- The forms of the source are in memory before any of them is matched, and stay there. -/
theorem resolved_substitute (h : ∀ part, FailsAs Resolved (i.generate t part))
    (substitution : Substitution) :
    FailsAs Resolved ((i.demand trail (i.generate t)).substitute substitution) := by
  refine (h _).of_bind fun s forms s' ok e s'' failed source value pattern same => ?_
  have mismatch := FailsAs.mapM (fun form _ => mismatch_rewrite substitution form) s' e s'' failed
  obtain ⟨_, same'⟩ := mismatch
  cases same.symm.trans same'
  have steps := i.kept_known substitution.source
  have related := steps.related trail (steps.generate t)
  have known : (s'.memo.get? substitution.source).isSome = true :=
    Option.isSome_of_eq_some (known_of_generate_ok ok)
  have kept := related.mapM (g := fun _ => (i.demand trail (i.generate t)).rewrite substitution)
    (related.rewrite substitution) forms s' known
  rwa [failed] at kept

theorem resolved_rules (trail : List String) (h : ∀ part, FailsAs Resolved (i.generate t part))
    (rules : List Rule) :
    FailsAs Resolved ((i.demand trail (i.generate t)).rules rules) := by
  refine (FailsAs.mapM fun rule _ => ?_).bind fun _ => .pure _
  cases rule with
  | pattern text =>
      show FailsAs _ (Halting.settle fun fuel =>
        (i.demand trail (i.generate t)).expandWithin fuel 0 text.toList)
      exact .settle fun fuel => resolved_expandWithin h fuel 0 _
  | substitution s => exact resolved_substitute h s

end

theorem resolved_generate (trail : Trail i) (part : String) :
    FailsAs Resolved (i.generate trail part) := by
  induction trail using Trail.induction generalizing part with
  | step trail ih =>
      intro s e s' failed
      have answer := i.generate_answer trail part s
      rw [failed] at answer
      cases answer with
      | begun _ _ =>
          intro source value pattern same
          cases same
      | unruled _ _ _ =>
          intro source value pattern same
          cases same
      | halted _ fresh ruled outcome =>
          exact resolved_rules _ (ih part fresh _ ruled) _ _ e s' outcome

/-! ## The errors of requests -/

/-- The last part of the trail has the rule. -/
def Owns (i : Inventory) (trail : List String) (rule : Rule) : Prop :=
  ∃ last rules, trail.getLast? = some last ∧ i.rules? last = some rules ∧ rule ∈ rules

/-- What the fault of an error says is so, for a request for `start` that leaves off with a memory.
An unknown part is not given and has no rules. A cycle goes from a part of the trail to the end and
back to this part. A mismatch is that of a substitution of the last part, whose source is known,
with the least of the forms that do not match. A text that is too deep has placeholders left, after
as many insertions of placeholders into a template of the last part as are allowed. -/
def Warranted (i : Inventory) (seeds : List (String × String)) (start : String)
    (memo : SortedMap (List String)) (trail : List String) : Fault → Prop
  | .unknownPart part =>
    givenForm? seeds part = none ∧ i.rules? part = none ∧
      (trail = [] ∧ part = start ∨ i.Requested seeds trail part)
  | .cyclicReference cycle =>
    ∃ before part after, trail = before ++ part :: after ∧ cycle = part :: after ++ [part] ∧
      (part :: after).Nodup ∧ 2 ≤ cycle.length ∧ i.Requested seeds trail part
  | .patternMismatch source value pattern =>
    ∃ s forms, i.Owns trail (.substitution s) ∧ s.source = source ∧ s.pattern = pattern ∧
      memo.get? source = some forms ∧ value ∈ forms ∧ s.regex.find? value = none ∧
        ∀ form ∈ forms, s.regex.find? form = none → value ≤ form
  | .expansionTooDeep text limit =>
    limit = expansionLimit ∧ Placeholder.occurs text.toList = true ∧
      ∃ template, i.Owns trail (.pattern template) ∧
        i.Inserted seeds template.toList limit text.toList
  | _ => False

/-- What an error says is so: its category is that of the inventory; its trail leads, from the part
that was requested, along requests for parts that are not given, no part twice; and its fault is
warranted at the end of the trail. -/
structure Truthful (i : Inventory) (seeds : List (String × String)) (start : String)
    (memo : SortedMap (List String)) (e : Error) : Prop where
  category : e.category = some i.category
  begins : e.trail = [] ∧ e.fault = .unknownPart start ∨ e.trail.head? = some start
  distinct : e.trail.Nodup
  unseeded : ∀ part ∈ e.trail, givenForm? seeds part = none
  requested : ∀ before part after, e.trail = before ++ part :: after →
    before = [] ∨ i.Requested seeds before part
  warranted : i.Warranted seeds start memo e.trail e.fault

theorem cycleOf_eq {parts : List String} {part : String} (member : part ∈ parts) :
    ∃ before after, parts = before ++ part :: after ∧
      cycleOf part parts = part :: after ++ [part] := by
  obtain ⟨before, after, rfl, first⟩ := List.eq_append_cons_of_mem member
  refine ⟨before, after, rfl, ?_⟩
  rw [cycleOf, List.dropWhile_append_of_pos, List.dropWhile_cons_of_neg]
  · simp
  · intro p inside
    have apart : p ≠ part := fun same => first (same ▸ inside)
    simpa using apart

section

variable {start : String} {trail : Trail i} {part : String}

/-- A descent has not left its start yet, or its trail leads from there to the part. -/
theorem Descends.begins (h : i.Descends seeds start trail part) :
    trail.parts = [] ∧ part = start ∨
      trail.parts.head? = some start ∧ i.Requested seeds trail.parts part := by
  have head := h.head?
  rcases h.requested trail.parts part [] rfl with empty | requested
  · rw [empty] at head
    exact .inl ⟨empty, Option.some.inj head⟩
  · obtain ⟨_, last, _, _, at_last, _⟩ := id requested
    cases parts : trail.parts with
    | nil =>
        rw [parts] at at_last
        cases at_last
    | cons p rest =>
        rw [parts] at head requested
        exact .inr ⟨head, requested⟩

theorem Descends.requested_parts (h : i.Descends seeds start trail part) :
    ∀ before p after, trail.parts = before ++ p :: after →
      before = [] ∨ i.Requested seeds before p := fun before p after split =>
  h.requested before p (after ++ [part]) (by rw [split, List.append_assoc, List.cons_append])

/-- A refusal of the last part is warranted, as far as the source of a mismatch is in memory. -/
theorem Refuses.warranted {memo : SortedMap (List String)} {fault : Fault} {rules : List Rule}
    (fresh : part ∉ trail.parts) (ruled : i.rules? part = some rules)
    (faithful : i.Faithful seeds memo)
    (resolved : ∀ source value pattern, fault = .patternMismatch source value pattern →
      (memo.get? source).isSome)
    (refuses : i.Refuses seeds (i.evaluate seeds (trail.extend part fresh ruled)) rules fault) :
    i.Warranted seeds start memo (trail.parts ++ [part]) fault := by
  have last : (trail.parts ++ [part]).getLast? = some part := List.getLast?_concat
  cases refuses with
  | @mismatch s forms value member answered inside unmatched least =>
      obtain ⟨forms', known⟩ := Option.isSome_iff_exists.mp (resolved _ _ _ rfl)
      have answered' := faithful.answers s.source forms' known .empty (Trail.empty_avoids memo)
      obtain rfl := evaluate_ok_unique answered' answered
      exact ⟨s, _, ⟨part, rules, last, ruled, member⟩, rfl, rfl, known, inside, unmatched, least⟩
  | @tooDeep template text member reached left =>
      refine ⟨rfl, ?_, template, ⟨part, rules, last, ruled, member⟩, ?_⟩
      · rwa [String.toList_ofList]
      · rwa [String.toList_ofList]

end

/-- In every state between requests, what the error of a request says is so. -/
theorem generate_error_truthful {start : String} {s s' : Session} {e : Error}
    (reachable : i.Reachable seeds .empty s)
    (failed : (i.generate .empty start).outcome s = (.error (.failed e), s')) :
    i.Truthful seeds start s'.memo e := by
  have error : i.evaluate seeds .empty start = .error (.failed e) := by
    rw [← reachable.generate_eq start, failed]
  have sound := (reachable.asked start).sound.1
  have resolved := resolved_generate .empty start s e s' failed
  rw [failed] at sound
  obtain ⟨trail, part, descends, stops, category⟩ := Descends.start.stops error
  obtain ⟨fault, _, parts⟩ := e
  cases stops with
  | cyclic begun =>
      obtain ⟨before, after, split, cycle⟩ := cycleOf_eq begun
      obtain ⟨head, requested⟩ := descends.begins.resolve_left fun empty =>
        List.ne_nil_of_mem begun empty.1
      have nodup := trail.nodup
      rw [split] at nodup
      exact {
        category
        begins := .inr head
        distinct := trail.nodup
        unseeded := descends.unseeded
        requested := descends.requested_parts
        warranted := ⟨before, part, after, split, cycle, (List.nodup_append.mp nodup).2.1,
          by simp [cycle], requested⟩ }
  | unknown unseeded unruled =>
      exact {
        category
        begins := descends.begins.imp (fun ⟨empty, same⟩ => ⟨empty, same ▸ rfl⟩) And.left
        distinct := trail.nodup
        unseeded := descends.unseeded
        requested := descends.requested_parts
        warranted := ⟨unseeded, unruled, descends.begins.imp_right And.right⟩ }
  | refused unseeded fresh ruled refuses =>
      exact {
        category
        begins := .inr descends.head?
        distinct := (trail.extend part fresh ruled).nodup
        unseeded := by
          intro p member
          rcases List.mem_append.mp member with member | member
          · exact descends.unseeded p member
          · rwa [List.mem_singleton.mp member]
        requested := descends.requested
        warranted := refuses.warranted fresh ruled sound resolved }

theorem strong_tense_truthful :
    ∃ e s', (strongVerbs.generate .empty "tense").outcome afterLost = (.error (.failed e), s') ∧
      e.fault = .patternMismatch "past" "bande-band" "(.*)on" ∧ e.trail = ["tense", "mood"] ∧
        strongVerbs.Truthful [("stem", "bind")] "tense" s'.memo e :=
  let e : Error := ⟨.patternMismatch "past" "bande-band" "(.*)on", "strong", ["tense", "mood"]⟩
  have failed : (strongVerbs.generate .empty "tense").outcome afterLost =
      (.error (.failed e), ((strongVerbs.generate .empty "tense").outcome afterLost).2) :=
    Prod.ext (by decide +kernel) rfl
  ⟨e, _, failed, rfl, rfl, generate_error_truthful reachable_afterLost failed⟩

end Inventory

end Paradigm
