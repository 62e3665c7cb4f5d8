import Paradigm.Proofs.Generation.Alternatives
import Paradigm.Proofs.Generation.Outline
import Paradigm.Proofs.Generation.Triple

/-!
# What failures leave behind

A request that fails leaves parts that were begun and have no forms: those on the trail of its error.
None of them can come to forms, so the rules of each go the same way below other parts of the trail
as they went below the parts that were above it, up to a request for another part that was lost. Main
statement: if requests come to an end, each part that they list without its forms fails by itself as
well, with an error of its own.
-/

namespace Paradigm

open Halting

namespace Inventory

variable {i : Inventory} {seeds : List (String × String)}

/-! ## Other parts above -/

/-- What comes to forms below a trail comes to them below fewer parts. -/
theorem entails_of_subset (trail trail' : Trail i) (fewer : trail'.parts ⊆ trail.parts)
    (part : String) : Entails (i.evaluate seeds trail part) (i.evaluate seeds trail' part) := by
  induction trail using Trail.induction generalizing trail' part with
  | step trail ih =>
      intro forms ok
      have answer := i.evaluate_answer seeds trail part
      rw [ok] at answer
      cases answer with
      | given given => exact evaluate_of_given given
      | @yielded rules results unseeded fresh ruled outcome =>
          have fresh' : part ∉ trail'.parts := fun member => fresh (fewer member)
          let below := trail.extend part fresh ruled
          let below' := trail'.extend part fresh' ruled
          have fewer' : below'.parts ⊆ below.parts := fun p member =>
            List.mem_append.mpr ((List.mem_append.mp member).imp_left (@fewer p))
          have entails := ih part fresh rules ruled below' fewer'
          have outcome' : (i.directAt seeds below').rules rules = .ok results :=
            (related_entails entails).rules rules results outcome
          rw [evaluate_of_ruled unseeded fresh' ruled, outcome']
          rfl

/-- What comes to forms comes to them below any parts that do not: memory has none of these. -/
theorem evaluate_of_hopeless {trail trail' : Trail i} {part : String} {forms : List String}
    (ok : i.evaluate seeds trail part = .ok forms)
    (hopeless : ∀ p ∈ trail'.parts, i.Hopeless seeds p) :
    i.evaluate seeds trail' part = .ok forms := by
  have alone := entails_of_subset trail .empty (List.nil_subset _) part forms ok
  have asked : i.Reachable seeds .empty _ := .asked part .fresh
  have answered := (Reachable.fresh.generate_eq part).trans alone
  have known := known_of_generate_ok (Prod.ext answered rfl)
  refine asked.sound.1.answers part forms known trail' fun p member => ?_
  by_contra other
  obtain ⟨found, other⟩ := Option.ne_none_iff_exists'.mp other
  exact hopeless p member found (asked.sound.1.answers p found other .empty (Trail.empty_avoids _))

/-! ## The trail of an error -/

theorem unseeded_of_error {trail : Trail i} {part : String} {halt : Halt}
    (failed : i.evaluate seeds trail part = .error halt) : givenForm? seeds part = none := by
  cases given : givenForm? seeds part with
  | none => rfl
  | some form => cases failed.symm.trans (evaluate_of_given given)

/-- The trail of an error goes on from the parts above, with the part that failed if it has rules. -/
theorem trail_of_failed {trail : Trail i} {part : String} {e : Error}
    (failed : i.evaluate seeds trail part = .error (.failed e)) :
    trail.parts <+: e.trail ∧ (part ∈ e.trail ∨ i.rules? part = none) := by
  induction trail using Trail.induction generalizing part with
  | step trail ih =>
      have answer := i.evaluate_answer seeds trail part
      rw [failed] at answer
      cases answer with
      | begun _ begun => exact ⟨List.prefix_rfl, .inl begun⟩
      | unruled _ _ unruled => exact ⟨List.prefix_rfl, .inr unruled⟩
      | halted _ fresh ruled outcome =>
          have below : trail.parts ++ [part] <+: e.trail := by
            rcases error_of_rules outcome with ⟨_, _, failed⟩ | ⟨_, _, same⟩
            · exact (ih part fresh _ ruled failed).1
            · cases same
              exact List.prefix_rfl
          have inside : part ∈ trail.parts ++ [part] :=
            List.mem_append_right _ List.mem_cons_self
          exact ⟨(List.prefix_append _ _).trans below, .inl (below.subset inside)⟩

/-- All that rules are recorded to ask for is what they ask for. -/
theorem asks_of_mem_requests {trail : Trail i} {rules : List Rule} {part : String}
    (member : part ∈ i.requests seeds trail rules) : i.Asks seeds rules part := by
  let I (_ : Nat) (journal : List String) : Prop := ∀ p ∈ journal, i.Asks seeds rules p
  have carries : i.Carries seeds rules I (fun _ => I 0)
      (i.recordingDemand trail.parts (i.evaluate seeds trail)) := by
    constructor
    case forms =>
      intro p asks n
      refine .of_outcome fun journal all => ⟨_, _, outcome_forms_recording .., ?_⟩
      have more : ∀ q ∈ journal ++ [p], i.Asks seeds rules q :=
        List.forall_mem_append.mpr ⟨all, List.forall_mem_singleton.mpr asks⟩
      exact ⟨fun _ ok => ⟨more, entails_of_subset _ _ (List.nil_subset _) p _ ok⟩, fun _ _ => more⟩
    case refuse => exact fun _ _ => .throw fun _ all => all
    case giveUp => exact fun _ => .throw fun _ all => all
    case settle => exact fun _ => rfl
    case countExpansion => exact fun _ => .pure fun _ all => all
    case countMatch => exact fun _ => .pure fun _ all => all
  have all := carries.rules 0 [] (List.forall_mem_nil _)
  rw [requests] at member
  generalize Halting.outcome _ [] = r at all member
  rcases r with ⟨halt | results, journal⟩ <;> exact all part member

/-- A part on the trail of an error was on the way already, or failed with this very error below
parts that need each other and it. -/
theorem exists_failed_above {trail : Trail i} {start part : String} {e : Error}
    (linked : i.Linked seeds (trail.parts ++ [start]))
    (failed : i.evaluate seeds trail start = .error (.failed e)) (member : part ∈ e.trail) :
    part ∈ trail.parts ∨ ∃ above : Trail i, part ∉ above.parts ∧
      i.Linked seeds (above.parts ++ [part]) ∧
        i.evaluate seeds above part = .error (.failed e) := by
  induction trail using Trail.induction generalizing start with
  | step trail ih =>
      have answer := i.evaluate_answer seeds trail start
      rw [failed] at answer
      cases answer with
      | begun _ _ => exact .inl member
      | unruled _ _ _ => exact .inl member
      | halted unseeded fresh ruled outcome =>
          by_cases here : part = start
          · subst here
            exact .inr ⟨trail, fresh, linked, failed⟩
          have above_or_here : part ∈ trail.parts ++ [start] → part ∈ trail.parts := fun inside =>
            (List.mem_append.mp inside).resolve_right fun last => here (List.mem_singleton.mp last)
          rcases error_of_rules outcome with ⟨below, last, failed⟩ | ⟨_, _, same⟩
          · have asks := asks_of_mem_requests (List.mem_of_getLast? last)
            have linked' := linked.snoc ⟨unseeded, _, ruled, asks⟩
            exact (ih start fresh _ ruled linked' failed).imp_left above_or_here
          · cases same
            exact .inl (above_or_here member)

/-! ## Failing alike -/

/-- Where the first comes to a value, so does the second; where it fails with a trail of lost parts,
the second fails in some way. -/
structure Foretells (lost : List String) {α : Type} (x y : Except Halt α) : Prop where
  entails : Entails x y
  fails : ∀ e, x = .error (.failed e) → e.trail ⊆ lost → ∃ e', y = .error (.failed e')

theorem Foretells.bind {lost : List String} {α β : Type} {x y : Except Halt α}
    {f g : α → Except Halt β} (h : Foretells lost x y) (rest : ∀ a, Foretells lost (f a) (g a)) :
    Foretells lost (x >>= f) (y >>= g) := by
  cases x with
  | ok a =>
      cases h.entails a rfl
      exact rest a
  | error halt =>
      refine ⟨nofun, fun e same inside => ?_⟩
      cases same
      obtain ⟨e', failed⟩ := h.fails e rfl inside
      exact ⟨e', by rw [failed]; rfl⟩

theorem related_foretells {lost trail trail' : List String}
    {answers answers' : String → Except Halt (List String)}
    (foretells : ∀ part, Foretells lost (answers part) (answers' part)) :
    Demand.Related (fun _ x y => Foretells lost x (y ())) (i.directDemand trail answers)
      fun _ : Unit => i.directDemand trail' answers' where
  pure _ := ⟨fun _ ok => ok, nofun⟩
  bind := .bind
  forms := foretells
  refuse _ := ⟨nofun, fun _ _ _ => ⟨_, rfl⟩⟩
  giveUp := ⟨nofun, nofun⟩
  expand := by
    intro text attempts
    obtain ⟨fuel, same⟩ := i.expand_eq_expandWithin trail answers text
    rw [same]
    refine ⟨fun forms ok => ?_, fun e failed inside => ?_⟩
    · have done : (i.directDemand trail' answers').expandWithin fuel 0 text.toList = .ok forms :=
        (attempts fuel).entails forms ok
      exact (expand_eq (by rw [done]; rfl)).trans done
    · obtain ⟨e', done⟩ : ∃ e', (i.directDemand trail' answers').expandWithin fuel 0 text.toList =
          .error (.failed e') := (attempts fuel).fails e failed inside
      exact ⟨e', (expand_eq (by rw [done]; rfl)).trans done⟩
  countExpansion := ⟨fun _ ok => ok, nofun⟩
  countMatch := ⟨fun _ ok => ok, nofun⟩

/-- A part on the trail of an error fails below any parts of this trail, and so below none. -/
theorem failed_of_mem_trail {start part : String} {e : Error}
    (failed : i.evaluate seeds .empty start = .error (.failed e)) (member : part ∈ e.trail)
    (trail : Trail i) (inside : trail.parts ⊆ e.trail) :
    ∃ e', i.evaluate seeds trail part = .error (.failed e') := by
  have lost : ∀ p ∈ e.trail, ∃ above : Trail i, p ∉ above.parts ∧
      i.Linked seeds (above.parts ++ [p]) ∧ i.evaluate seeds above p = .error (.failed e) :=
    fun p here => (@exists_failed_above i seeds .empty start p e (List.isChain_singleton start)
      failed here).resolve_left List.not_mem_nil
  have hopeless : ∀ p ∈ e.trail, i.Hopeless seeds p := by
    intro p here
    obtain ⟨above, fresh, linked, failed⟩ := lost p here
    exact hopeless_of_linked fresh linked fun forms ok => by cases failed.symm.trans ok
  induction trail using Trail.induction generalizing part with
  | step trail ih =>
      obtain ⟨above, fresh, _, failed⟩ := lost part member
      by_cases begun : part ∈ trail.parts
      · exact ⟨_, evaluate_of_begun (unseeded_of_error failed) begun⟩
      have answer := i.evaluate_answer seeds above part
      rw [failed] at answer
      cases answer with
      | begun _ within => exact absurd within fresh
      | unruled unseeded _ unruled => exact ⟨_, evaluate_of_unruled unseeded begun unruled⟩
      | @halted rules _ unseeded _ ruled outcome =>
          let below := trail.extend part begun ruled
          have inside' : below.parts ⊆ e.trail :=
            List.append_subset.mpr ⟨inside, List.cons_subset.mpr ⟨member, List.nil_subset _⟩⟩
          have foretells : ∀ other, Foretells e.trail
              (i.evaluate seeds (above.extend part fresh ruled) other)
              (i.evaluate seeds below other) := by
            refine fun other => ⟨fun forms ok => ?_, fun e' failed' within => ?_⟩
            · exact evaluate_of_hopeless ok fun p here => hopeless p (inside' here)
            · rcases (trail_of_failed failed').2 with here | unruled
              · exact ih part begun rules ruled (within here) inside'
              · have fresh' : other ∉ below.parts := fun here => by
                  simpa [unruled] using below.ruled other here
                exact ⟨_, evaluate_of_unruled (unseeded_of_error failed') fresh' unruled⟩
          obtain ⟨e', failed'⟩ : ∃ e', (i.directAt seeds below).rules rules = .error (.failed e') :=
            ((related_foretells foretells).rules rules).fails e outcome (List.Subset.refl _)
          refine ⟨e', ?_⟩
          rw [evaluate_of_ruled unseeded begun ruled, failed']
          rfl

/-! ## What requests list -/

/-- Requests list parts that come to be known, but for those on the trail of an error. -/
theorem settled_generate (seeds : List (String × String)) (names : List String) (trail : Trail i)
    (part : String) :
    Triple (fun s => i.Reachable seeds trail s ∧ s.Settled (names ++ trail.parts))
      (i.generate trail part)
      (fun _ s => i.Reachable seeds trail s ∧ s.Settled (names ++ trail.parts))
      (fun halt s => ∀ e, halt = .failed e → s.Settled (names ++ e.trail)) := by
  induction trail using Trail.induction generalizing part with
  | step trail ih =>
      rintro s ⟨reachable, settled⟩
      have after := reachable.asked part
      have below : ∀ fresh rules (ruled : i.rules? part = some rules),
          let inner := trail.extend part fresh ruled
          Triple (fun s => i.Reachable seeds inner s ∧ s.Settled (names ++ inner.parts))
            ((i.demandAt inner).rules rules)
            (fun _ s => i.Reachable seeds inner s ∧ s.Settled (names ++ inner.parts))
            (fun halt s => ∀ e, halt = .failed e → s.Settled (names ++ e.trail)) := by
        intro fresh rules ruled inner
        refine Carries.rules (carries_demandAt (fun _ _ h => h.1)
          (fun other _ _ => ih part fresh rules ruled other) (fun _ _ h => ⟨?_, ?_⟩)
          fun _ _ h => ⟨⟨.expanded h.1, h.2⟩, ⟨.matched h.1, h.2⟩⟩) 0
        · rintro fault _ ⟨⟩
          exact h.2
        · rintro _ ⟨⟩
      have begun : ∀ rules : List Rule,
          (s.begin part trail.parts.length rules.length).Settled
            (names ++ (trail.parts ++ [part])) := by
        intro rules
        rw [← List.append_assoc]
        exact settled.begin part _ _
      have answer := i.generate_answer trail part s
      generalize (i.generate trail part).outcome s = r at after answer ⊢
      cases answer with
      | known _ => exact ⟨after, settled⟩
      | begun _ _ =>
          rintro _ ⟨⟩
          exact settled
      | unruled _ _ _ =>
          rintro _ ⟨⟩
          exact settled
      | halted unknown fresh ruled outcome =>
          exact (below fresh _ ruled).error
            ⟨reachable.begun unknown fresh ruled, begun _⟩ outcome
      | @yielded rules results s' unknown fresh ruled outcome =>
          have evaluated := (below fresh rules ruled).ok
            ⟨reachable.begun unknown fresh ruled, begun _⟩ outcome
          have listed : s'.Settled (names ++ trail.parts ++ [part]) := by
            rw [List.append_assoc]
            exact evaluated.2
          exact ⟨after, listed.finish _ _⟩

/-- The requests come to an end, each with an answer or with an error. -/
def AllEnded (i : Inventory) (seeds : List (String × String)) (history : List String) : Prop :=
  ∀ before part after, history = before ++ part :: after →
    Halt.isFinal (((Inflector.fresh i seeds).after before).generate part).1 = true

/-- After requests that came to an end, listed parts are known, but for some that fail. -/
theorem settled_after {history : List String} (ended : i.AllEnded seeds history) :
    ∃ names, ((Inflector.fresh i seeds).after history).session.Settled names ∧
      ∀ part ∈ names, ∃ e, i.evaluate seeds .empty part = .error (.failed e) := by
  have final : ∀ part ∈ history, Halt.isFinal (i.evaluate seeds .empty part) = true :=
    forall_of_answers (Halt.isFinal · = true) ended
  let I (s : Session) : Prop := ∃ names, s.Settled names ∧
    ∀ part ∈ names, ∃ e, i.evaluate seeds .empty part = .error (.failed e)
  refine after_keeps (I := I) ⟨[], List.forall_mem_nil _, List.forall_mem_nil _⟩ ?_
  rintro part member s reachable ⟨names, settled, fail⟩
  have same := reachable.generate_eq part
  have none_above : names ++ (Trail.empty : Trail i).parts = names := List.append_nil names
  have listed := settled_generate seeds names (.empty : Trail i) part
  rw [none_above] at listed
  cases answer : i.evaluate seeds .empty part with
  | ok forms =>
      have known := listed.ok ⟨reachable, settled⟩ (Prod.ext (same.trans answer) rfl)
      exact ⟨names, known.2, fail⟩
  | error halt =>
      cases halt with
      | outOfFuel => cases answer ▸ final part member
      | failed e =>
          have lost := listed.error ⟨reachable, settled⟩ (Prod.ext (same.trans answer) rfl) e rfl
          have fail' : ∀ p ∈ e.trail, ∃ e', i.evaluate seeds .empty p = .error (.failed e') :=
            fun p member => failed_of_mem_trail answer member .empty (List.nil_subset _)
          exact ⟨names ++ e.trail, lost, List.forall_mem_append.mpr ⟨fail, fail'⟩⟩

end Inventory

end Paradigm
