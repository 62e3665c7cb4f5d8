import Paradigm.Proofs.Generation.Atomicity
import Paradigm.Proofs.Inheritance

/-!
# Answers depend on what is asked for

Rules are looked up only for parts that are asked for, and what is asked for shows only on the way:
placeholders come with inserted forms, and errors cut the work short. Main statement: an inventory
with the same rules for the parts that were asked for over another one answers as that one does,
count by count, its errors under the name of its own category.
-/

namespace Paradigm

namespace Halt

/-- The same, met in another category. -/
def renamed (category : String) : Halt → Halt
  | .failed e => .failed { e with category := some category }
  | .outOfFuel => .outOfFuel

theorem isFinal_renamed {α : Type} (category : String) (x : Except Halt α) :
    isFinal (x.mapError (renamed category)) = isFinal x := by
  rcases x with (e | _) | a <;> rfl

theorem isFinal_error {α β : Type} {halt : Halt}
    (h : isFinal (.error halt : Except Halt β) = true) :
    isFinal (.error halt : Except Halt α) = true := by
  cases halt with
  | failed e => rfl
  | outOfFuel => cases h

end Halt

/-! ## More fuel with a state -/

namespace Halting

variable {σ α β : Type}

/-- The second computation is what becomes of the first one with more fuel. -/
def Refines (x y : Halting σ α) : Prop :=
  ∀ s, Halt.isFinal (x.outcome s).1 = true → y.outcome s = x.outcome s

theorem Refines.refl (x : Halting σ α) : Refines x x := fun _ _ => rfl

theorem Refines.bind {x y : Halting σ α} {f g : α → Halting σ β} (h : Refines x y)
    (rest : ∀ a, Refines (f a) (g a)) : Refines (x >>= f) (y >>= g) := by
  intro s final
  have first := h s
  rw [outcome_bind] at final ⊢
  rw [outcome_bind]
  rcases e : x.outcome s with ⟨halt | a, s'⟩ <;> rw [e] at final first
  · rw [first (Halt.isFinal_error final)]
  · rw [first rfl]
    exact rest a s' final

/-- A computation settles to what it comes to with any fuel that is enough. -/
theorem settle_eq_of_final {attempt : Nat → Halting σ α} {fuel : Nat} {s : σ}
    (more : ∀ k k', k ≤ k' → Refines (attempt k) (attempt k'))
    (final : Halt.isFinal ((attempt fuel).outcome s).1 = true) :
    (settle attempt).outcome s = (attempt fuel).outcome s := by
  rw [outcome_settle]
  exact Fuel.settle_eq (fun k k' le final => more k k' le s final) final

end Halting

namespace Inventory

open Halting

theorem refining_demand (i : Inventory) (trail : List String)
    (forms : String → Inflecting (List String)) :
    Demand.Refining (fun _ => Refines) (i.demand trail forms) where
  refl := .refl
  bind := .bind
  giveUp _ _ final := by cases final

/-! ## Two inventories abreast -/

/-- Both inventories have the same rules, or none, for the parts that are asked for and not given. -/
def AgreeOn (i j : Inventory) (seeds : List (String × String)) (asked : List String) : Prop :=
  ∀ part ∈ asked, givenForm? seeds part = none → j.rules? part = i.rules? part

variable {i j : Inventory} {seeds : List (String × String)} {trail : Trail i}

theorem AgreeOn.of_append {asked asked' : List String}
    (h : i.AgreeOn j seeds (asked ++ asked')) : i.AgreeOn j seeds asked :=
  fun part member => h part (List.mem_append_left _ member)

theorem Served.agreeOn {m m' : Run} {r : Except Halt Unit} (served : Served seeds trail m r m')
    (agree : i.AgreeOn j seeds m'.asked) : i.AgreeOn j seeds m.asked := by
  obtain ⟨requested, asked, _⟩ := served.asked
  exact .of_append (asked ▸ agree)

/-- From ready engines of the first inventory, the first computation serves; and where it comes to an
end, and the inventories agree on all that was asked for by then, the second one comes to the same
over the second inventory. -/
structure Tracks (j : Inventory) (seeds : List (String × String)) (trail : Trail i) {α : Type}
    (x : Halting Run α) (y : Inflecting α) : Prop where
  serves : Follows (Serves seeds trail) x
  same : ∀ m, Ready seeds trail m → Halt.isFinal (x.outcome m).1 = true →
    i.AgreeOn j seeds (x.outcome m).2.asked →
    y.outcome m.session =
      ((x.outcome m).1.mapError (Halt.renamed j.category), (x.outcome m).2.session)

theorem Tracks.bind {α β : Type} {x : Halting Run α} {y : Inflecting α} {f : α → Halting Run β}
    {g : α → Inflecting β} (h : Tracks j seeds trail x y)
    (rest : ∀ a, Tracks j seeds trail (f a) (g a)) :
    Tracks j seeds trail (x >>= f) (y >>= g) where
  serves := (composes_serves trail).bind h.serves fun a => (rest a).serves
  same m ready final agree := by
    have first := h.same m ready
    have served := h.serves m ready
    rw [outcome_bind] at final agree ⊢
    rw [outcome_bind]
    rcases e : x.outcome m with ⟨halt | a, m'⟩ <;> rw [e] at first served final agree
    · rw [first (Halt.isFinal_error final) agree]
      rfl
    · have served' := (rest a).serves m' served.ready
      rw [first rfl (served'.agreeOn agree)]
      exact (rest a).same m' served.ready final agree

theorem Tracks.settle {α : Type} {x : Nat → Halting Run α} {y : Nat → Inflecting α}
    (more : ∀ k k', k ≤ k' → Refines (y k) (y k'))
    (h : ∀ fuel, Tracks j seeds trail (x fuel) (y fuel)) :
    Tracks j seeds trail (Halting.settle x) (Halting.settle y) where
  serves := .settle fun fuel => (h fuel).serves
  same m ready final agree := by
    obtain ⟨fuel, found⟩ := settle_eq_attempt x m
    rw [found] at final agree ⊢
    have attempted := (h fuel).same m ready final agree
    -- the same fuel is enough over the second inventory, which may settle with other fuel first
    rw [settle_eq_of_final more, attempted]
    rw [attempted, Halt.isFinal_renamed]
    exact final

theorem tracks_demand {trail' : Trail j} (along : trail'.parts = trail.parts)
    {forms : String → Halting Run (List String)}
    (h : ∀ part, Tracks j seeds trail (forms part) (j.generate trail' part)) :
    Demand.Related (fun _ x y => Tracks j seeds trail x (y ())) (i.engineDemand forms)
      fun _ : Unit => j.demandAt trail' where
  pure a := ⟨(composes_serves trail).refl, fun _ _ _ _ => rfl⟩
  bind := .bind
  forms := h
  refuse fault := by
    constructor
    case serves => exact fun m => (composes_serves trail).refuse m fault
    case same =>
      intro m ready _ _
      show (Except.error (j.refusal trail'.parts fault), m.session) =
        (.error (j.refusal m.stack fault), m.session)
      rw [along, ready.stack]
  giveUp := ⟨(composes_serves trail).giveUp, fun _ _ final _ => by cases final⟩
  expand text := .settle fun _ _ le => (refining_demand j _ _).expandWithin le 0 text.toList
  countExpansion := ⟨(composes_serves trail).countExpansion, fun _ _ _ _ => rfl⟩
  countMatch := ⟨(composes_serves trail).countMatch, fun _ _ _ _ => rfl⟩

/-! ## Calls over both inventories -/

section

variable {trail' : Trail j} (along : trail'.parts = trail.parts)
  {forms : String → Halting Run (List String)} {part : String} {m : Run}
  (ready : Ready seeds trail m)
  (final : Halt.isFinal ((i.answer forms part).outcome m).1 = true)
  (agree : i.AgreeOn j seeds ((i.answer forms part).outcome m).2.asked)

include along ready final agree

theorem tracks_answer_of_ruled {rules : List Rule} (known : m.session.memo.get? part = none)
    (fresh : part ∉ trail.parts) (ruled : i.rules? part = some rules) (fresh' : part ∉ trail'.parts)
    (ruled' : j.rules? part = some rules)
    (below : ∀ other, Tracks j seeds (trail.extend part fresh ruled) (forms other)
      (j.generate (trail'.extend part fresh' ruled') other)) :
    (j.generate trail' part).outcome m.session =
      (((i.answer forms part).outcome m).1.mapError (Halt.renamed j.category),
        ((i.answer forms part).outcome m).2.session) := by
  have begun : part ∉ m.stack := ready.stack ▸ fresh
  have along' : (trail'.extend part fresh' ruled').parts = (trail.extend part fresh ruled).parts :=
    congrArg (· ++ [part]) along
  have inner := (tracks_demand along' below).rules rules
  have tracked := inner.same (m.enter part rules.length) (ready.enter known fresh ruled)
  have entered : (m.enter part rules.length).session =
      m.session.begin part trail'.parts.length rules.length := by
    rw [along, ← ready.stack]
    rfl
  rw [entered] at tracked
  rw [answer_of_ruled known begun ruled] at final agree ⊢
  rw [generate_of_ruled known fresh' ruled']
  rcases outcome : Halting.outcome _ (m.enter part rules.length) with ⟨halt | results, m'⟩ <;>
    rw [outcome] at tracked final agree
  · rw [tracked (Halt.isFinal_error final) agree]
    rfl
  · rw [tracked rfl agree]
    rfl

theorem tracks_answer (asked : part ∈ ((i.answer forms part).outcome m).2.asked)
    (below : ∀ fresh rules (ruled : i.rules? part = some rules) fresh'
      (ruled' : j.rules? part = some rules) other,
      Tracks j seeds (trail.extend part fresh ruled) (forms other)
        (j.generate (trail'.extend part fresh' ruled') other)) :
    (j.generate trail' part).outcome m.session =
      (((i.answer forms part).outcome m).1.mapError (Halt.renamed j.category),
        ((i.answer forms part).outcome m).2.session) := by
  cases known : m.session.memo.get? part with
  | some found =>
      rw [answer_of_known known, generate_of_known known]
      rfl
  | none =>
      have same : j.rules? part = i.rules? part :=
        agree part asked (ready.reachable.sound.1.given part known)
      by_cases begun : part ∈ m.stack
      · have begun' : part ∈ trail'.parts := by rwa [along, ← ready.stack]
        rw [answer_of_begun known begun, generate_of_begun known begun', along, ready.stack]
        rfl
      have fresh : part ∉ trail.parts := ready.stack ▸ begun
      have fresh' : part ∉ trail'.parts := along ▸ fresh
      cases ruled : i.rules? part with
      | none =>
          have unruled : j.rules? part = none := same.trans ruled
          rw [answer_of_unruled known begun ruled, generate_of_unruled known fresh' unruled, along,
            ready.stack]
          rfl
      | some rules =>
          have ruled' : j.rules? part = some rules := same.trans ruled
          exact tracks_answer_of_ruled along ready final agree known fresh ruled fresh' ruled'
            (below fresh rules ruled fresh' ruled')

end

theorem tracks_call (seeds : List (String × String)) {room : Nat} (trail : Trail i)
    (trail' : Trail j) (along : trail'.parts = trail.parts) (part : String)
    (enough : trail.room < room) :
    Tracks j seeds trail (i.call room part) (j.generate trail' part) := by
  induction room generalizing trail trail' part with
  | zero => exact absurd enough (Nat.not_lt_zero _)
  | succ room ih =>
      constructor
      case serves => exact serves_call trail part enough
      case same =>
        intro m ready final agree
        have noted : Ready seeds trail (m.ask part) := ⟨ready.stack, ready.reachable, ready.calls⟩
        -- the call is written down, and calls that are sound note the part they are made for
        have asked : part ∈ ((i.answer (i.call room) part).outcome (m.ask part)).2.asked := by
          have served := serves_call trail part enough m ready
          rw [outcome_call] at served
          have sound := served.ready.calls _ (List.mem_append_right _ (List.mem_singleton_self _))
          obtain ⟨requested, asked, _⟩ := sound.atomic.asked
          exact asked ▸ List.mem_append_right _ List.mem_cons_self
        apply tracks_answer along noted final agree asked
        intro fresh rules ruled fresh' ruled' other
        apply ih
        · exact congrArg (· ++ [part]) along
        · exact room_extend_lt enough fresh ruled

/-! ## Requests -/

/-- A request is answered over the second inventory as over the first: with the same forms, or the
same error but for the category, and it leaves the same memory and the same counts. -/
structure AnswersAlike (i j : Inventory) (seeds : List (String × String)) (part : String) : Prop where
  outcome : ((Inflector.fresh j seeds).generate part).1 =
    ((Inflector.fresh i seeds).generate part).1.mapError (Halt.renamed j.category)
  session : ((Inflector.fresh j seeds).generate part).2.session =
    ((Inflector.fresh i seeds).generate part).2.session

/-- All that a new engine asks for when it is asked for a part, the part itself first. -/
def requested (i : Inventory) (seeds : List (String × String)) (part : String) : List String :=
  (i.run seeds [part]).asked

theorem answersAlike_of_agreeOn {part : String}
    (terminates : Halt.isFinal ((Inflector.fresh i seeds).generate part).1 = true)
    (agree : i.AgreeOn j seeds (i.requested seeds part)) : AnswersAlike i j seeds part := by
  have enough := room_empty_lt i
  have ready : Ready seeds (.empty : Trail i) { session := .seeded seeds } :=
    ready_run i seeds []
  obtain ⟨same, session, _⟩ := mirrors_call .empty part enough _ ready.stack
  have tracks := tracks_call seeds (.empty : Trail i) (.empty : Trail j) rfl part enough
  have final := (congrArg Halt.isFinal same).trans terminates
  have tracked := tracks.same _ ready final agree
  rw [same, session] at tracked
  obtain ⟨outcome, session⟩ := Prod.mk.inj tracked
  exact ⟨outcome, session⟩

/-- A request that comes to an end depends on the rules of what it asks for only, given parts apart:
an inventory that has the same rules for it, or none, answers alike; and so does that of a category
that inherits from this one, and has no rules of its own for it. -/
theorem generate_depends_on_requested {part : String}
    (terminates : Halt.isFinal ((Inflector.fresh i seeds).generate part).1 = true) :
    (∀ j, i.AgreeOn j seeds (i.requested seeds part) → AnswersAlike i j seeds part) ∧
      ∀ (grammar : Grammar) (parent child : String) (j : Inventory),
        resolve grammar parent = .ok i → grammar.parent? child = some parent →
        resolve grammar child = .ok j →
        (∀ other ∈ i.requested seeds part, givenForm? seeds other = none →
          grammar.ownRules? other child = none) →
        AnswersAlike i j seeds part := by
  constructor
  · exact fun j agree => answersAlike_of_agreeOn terminates agree
  · intro grammar parent child j resolved up resolved' foreign
    obtain ⟨above, same, _, inherits⟩ := resolve_parent resolved' up
    cases resolved.symm.trans same
    apply answersAlike_of_agreeOn terminates
    intro other asked unseeded
    rw [inherits, foreign other asked unseeded, Option.none_or]

/-- The strong verbs, and verbs that inherit from them but have two parts in their own way. -/
def mixedVerbs : Grammar :=
  (Grammar.compile (strongRules.insert "mixed" { parent := some "strong", rules := .ofList [
    ("tense", .one (.template "{past}")), ("lost", .one (.template ""))] })).toOption.getD .empty

/-- The inventory of a kind of verbs. -/
def verbs (kind : String) : Inventory := (resolve mixedVerbs kind).toOption.getD ⟨"", [], .empty⟩

theorem mixed_mood_alike :
    Halt.isFinal ((Inflector.fresh (verbs "strong") [("stem", "bind")]).generate "mood").1 = true ∧
      resolve mixedVerbs "mixed" = .ok (verbs "mixed") ∧
      AnswersAlike (verbs "strong") (verbs "mixed") [("stem", "bind")] "mood" :=
  have terminates : Halt.isFinal
      ((Inflector.fresh (verbs "strong") [("stem", "bind")]).generate "mood").1 = true := by
    decide +kernel
  have above : resolve mixedVerbs "strong" = .ok (verbs "strong") := eq_ok_getD (by decide +kernel) _
  have below : resolve mixedVerbs "mixed" = .ok (verbs "mixed") := eq_ok_getD (by decide +kernel) _
  ⟨terminates, below, (generate_depends_on_requested terminates).2 mixedVerbs "strong" "mixed" _
    above (by decide +kernel) below (by decide +kernel)⟩

end Inventory

end Paradigm
