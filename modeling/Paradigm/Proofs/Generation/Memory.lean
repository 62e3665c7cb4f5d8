import Paradigm.Proofs.Generation.Direct
import Paradigm.Proofs.Generation.Related

/-!
# Memory does not show

An inflector answers from memory where it can. Its answers, errors included, are those of evaluation
without memory, whatever has been asked before. The invariant is that the memory is faithful: each
part in it comes to the forms it has there below every trail of unknown parts.
-/

namespace Paradigm

/-- The parts of the trail are unknown. -/
def Trail.Avoids {i : Inventory} (t : Trail i) (memo : SortedMap (List String)) : Prop :=
  ∀ part ∈ t.parts, memo.get? part = none

/-- What is known stays as it is. -/
def Extends (memo memo' : SortedMap (List String)) : Prop :=
  ∀ part forms, memo.get? part = some forms → memo'.get? part = some forms

theorem Extends.refl (memo : SortedMap (List String)) : Extends memo memo := fun _ _ h => h

theorem Extends.trans {memo memo' memo'' : SortedMap (List String)} (h : Extends memo memo')
    (h' : Extends memo' memo'') : Extends memo memo'' :=
  fun part forms known => h' part forms (h part forms known)

theorem Extends.insert {memo : SortedMap (List String)} {part : String}
    (unknown : memo.get? part = none) (forms : List String) :
    Extends memo (memo.insert part forms) := by
  intro p f known
  rwa [SortedMap.get?_insert_of_ne]
  rintro rfl
  simp [unknown] at known

theorem Trail.Avoids.mono {i : Inventory} {t : Trail i} {memo memo' : SortedMap (List String)}
    (h : t.Avoids memo') (grows : Extends memo memo') : t.Avoids memo := by
  intro part member
  cases known : memo.get? part with
  | none => rfl
  | some forms => exact absurd (grows part forms known) (by simp [h part member])

theorem Trail.Avoids.extend {i : Inventory} {t : Trail i} {memo : SortedMap (List String)}
    {part : String} (h : t.Avoids memo) (unknown : memo.get? part = none) (fresh : part ∉ t.parts)
    {rules : List Rule} (ruled : i.rules? part = some rules) :
    (t.extend part fresh ruled).Avoids memo := by
  intro p member
  rcases List.mem_append.mp member with member | member
  · exact h p member
  · rwa [List.mem_singleton.mp member]

theorem Trail.empty_avoids {i : Inventory} (memo : SortedMap (List String)) :
    (Trail.empty : Trail i).Avoids memo :=
  nofun

namespace Inventory

variable {i : Inventory} {seeds : List (String × String)}

/-- The memory has the given parts, and what it says of a part is what the part comes to below any
trail of parts it does not know. -/
structure Faithful (i : Inventory) (seeds : List (String × String))
    (memo : SortedMap (List String)) : Prop where
  given : ∀ part, memo.get? part = none → givenForm? seeds part = none
  answers : ∀ part forms, memo.get? part = some forms → ∀ t : Trail i, t.Avoids memo →
    i.evaluate seeds t part = .ok forms

theorem faithful_seeded (i : Inventory) (seeds : List (String × String)) :
    i.Faithful seeds (Session.seeded seeds).memo where
  given part unknown := by simpa [Session.get?_memo_seeded] using unknown
  answers part forms known t _ := by
    rw [Session.get?_memo_seeded] at known
    obtain ⟨form, given, rfl⟩ := Option.map_eq_some_iff.mp known
    exact evaluate_of_given given

/-- How a computation below a trail that went from `s` to `r` compares with direct evaluation: it
came to the same, and where it came to an answer, this is the answer below all trails of parts that
are still unknown. -/
structure Agreement (i : Inventory) (seeds : List (String × String)) (trail : Trail i) {α : Type}
    (direct : Trail i → Except Halt α) (s : Session) (r : Except Halt α × Session) : Prop where
  faithful : i.Faithful seeds r.2.memo
  avoids : trail.Avoids r.2.memo
  grows : Extends s.memo r.2.memo
  same : direct trail = r.1
  everywhere : ∀ a, r.1 = .ok a → ∀ t : Trail i, t.Avoids r.2.memo → direct t = .ok a

/-- The computation agrees with direct evaluation from every faithful memory. -/
def Agrees (i : Inventory) (seeds : List (String × String)) (trail : Trail i) (α : Type)
    (x : Inflecting α) (direct : Trail i → Except Halt α) : Prop :=
  ∀ s, i.Faithful seeds s.memo → trail.Avoids s.memo →
    i.Agreement seeds trail direct s (x.outcome s)

/-- What leaves the memory alone agrees if it comes to the same. -/
theorem Agrees.of_kept {trail : Trail i} {α : Type} {x : Inflecting α}
    {direct : Trail i → Except Halt α} (kept : ∀ s, (x.outcome s).2.memo = s.memo)
    (same : ∀ s, direct trail = (x.outcome s).1)
    (everywhere : ∀ s a, (x.outcome s).1 = .ok a → ∀ t, direct t = .ok a) :
    i.Agrees seeds trail α x direct := by
  intro s faithful avoids
  refine ⟨?_, ?_, ?_, same s, fun a ok t _ => everywhere s a ok t⟩
  · rwa [kept]
  · rwa [kept]
  · rw [kept]
    exact .refl _

theorem Agrees.bind {trail : Trail i} {α β : Type} {x : Inflecting α}
    {direct : Trail i → Except Halt α} {f : α → Inflecting β}
    {rest : Trail i → α → Except Halt β} (h : i.Agrees seeds trail α x direct)
    (h' : ∀ a, i.Agrees seeds trail β (f a) fun t => rest t a) :
    i.Agrees seeds trail β (x >>= f) fun t => direct t >>= rest t := by
  intro s faithful avoids
  have first := h s faithful avoids
  rw [Halting.outcome_bind]
  rcases e : x.outcome s with ⟨halt | a, s'⟩ <;> rw [e] at first
  · refine ⟨first.faithful, first.avoids, first.grows, ?_, nofun⟩
    rw [first.same]
    rfl
  · have second := h' a s' first.faithful first.avoids
    refine ⟨second.faithful, second.avoids, first.grows.trans second.grows, ?_, ?_⟩
    · rw [first.same]
      exact second.same
    · intro b ok t clear
      rw [first.everywhere a rfl t (clear.mono second.grows)]
      exact second.everywhere b ok t clear

theorem Agrees.expand {trail : Trail i} {forms : String → Inflecting (List String)} (text : String)
    (h : ∀ fuel, i.Agrees seeds trail _
      ((i.demand trail.parts forms).expandWithin fuel 0 text.toList)
      fun t => (i.directAt seeds t).expandWithin fuel 0 text.toList) :
    i.Agrees seeds trail _ ((i.demand trail.parts forms).expand text)
      fun t => (i.directAt seeds t).expand text := by
  intro s faithful avoids
  have agreed := fun fuel => h fuel s faithful avoids
  -- The two sides settle with the same fuel, so all but the last clause goes over as it is.
  have related := Halting.settle_related
    (fun r direct => i.Faithful seeds r.2.memo ∧ trail.Avoids r.2.memo ∧
      Extends s.memo r.2.memo ∧ direct = r.1)
    (fun fuel => (agreed fuel).same)
    (fun fuel => ⟨(agreed fuel).faithful, (agreed fuel).avoids, (agreed fuel).grows,
      (agreed fuel).same⟩)
  obtain ⟨faithful', avoids', grows, same⟩ := related
  refine ⟨faithful', avoids', grows, same, ?_⟩
  intro a ok t clear
  obtain ⟨fuel, found⟩ := Halting.settle_eq_attempt
    (fun fuel => (i.demand trail.parts forms).expandWithin fuel 0 text.toList) s
  have direct := (agreed fuel).everywhere a (found ▸ ok) t (found ▸ clear)
  rw [expand_eq (by rw [direct]; rfl), direct]

theorem related_direct {trail : Trail i} {forms : String → Inflecting (List String)}
    (h : ∀ part, i.Agrees seeds trail _ (forms part) fun t => i.evaluate seeds t part) :
    Demand.Related (i.Agrees seeds trail) (i.demand trail.parts forms)
      fun t : Trail i => i.directAt seeds t where
  pure _ := .of_kept (fun _ => rfl) (fun _ => rfl) (fun _ _ ok _ => ok)
  bind := .bind
  forms := h
  refuse _ := .of_kept (fun _ => rfl) (fun _ => rfl) nofun
  giveUp := .of_kept (fun _ => rfl) (fun _ => rfl) nofun
  expand := .expand
  countExpansion := .of_kept (fun _ => rfl) (fun _ => rfl) (fun _ _ _ _ => rfl)
  countMatch := .of_kept (fun _ => rfl) (fun _ => rfl) (fun _ _ _ _ => rfl)

/-! ## Keeping an answer -/

/-- The answer of a part that was evaluated below `t` may be kept: what it asked for is known, and a
trail of unknown parts cannot meet it. -/
theorem Faithful.insert {memo : SortedMap (List String)} {part : String} {forms : List String}
    (h : i.Faithful seeds memo)
    (answer : ∀ t : Trail i, t.Avoids memo → part ∉ t.parts → i.evaluate seeds t part = .ok forms)
    (unknown : memo.get? part = none) : i.Faithful seeds (memo.insert part forms) where
  given p absent := by
    rw [SortedMap.get?_insert] at absent
    split at absent
    · cases absent
    · exact h.given p absent
  answers p f known t clear := by
    have clear' : t.Avoids memo := clear.mono (.insert unknown forms)
    rw [SortedMap.get?_insert] at known
    split at known
    · rename_i same
      cases known
      subst same
      refine answer t clear' fun member => ?_
      simpa using clear p member
    · exact h.answers p f known t clear'

/-- What rules yielded may be kept as the answer of their part: a trail of parts that are still
unknown stays clear of all that the rules asked for. -/
theorem Agreement.answer {trail : Trail i} {part : String} {rules : List Rule}
    {results : List String} {s s' : Session} (unseeded : givenForm? seeds part = none)
    (fresh : part ∉ trail.parts) (ruled : i.rules? part = some rules)
    (h : i.Agreement seeds (trail.extend part fresh ruled)
      (fun t => (i.directAt seeds t).rules rules) s (.ok results, s')) :
    ∀ t : Trail i, t.Avoids s'.memo → part ∉ t.parts →
      i.evaluate seeds t part = .ok (distinctForms results) := by
  intro t clear fresh'
  have unknown := h.avoids part (List.mem_append_right _ List.mem_cons_self)
  have direct := h.everywhere results rfl _ (clear.extend unknown fresh' ruled)
  rw [evaluate_of_ruled unseeded fresh' ruled, direct]
  rfl

theorem generate_agrees (trail : Trail i) (part : String) :
    i.Agrees seeds trail _ (i.generate trail part) fun t => i.evaluate seeds t part := by
  induction trail using Trail.induction generalizing part with
  | step trail ih =>
      intro s faithful avoids
      have below := fun fresh rules ruled unknown =>
        ((related_direct (ih part fresh rules ruled)).rules rules)
          (s.begin part trail.parts.length rules.length) faithful
          (avoids.extend unknown fresh ruled)
      have answer := i.generate_answer trail part s
      generalize (i.generate trail part).outcome s = r at answer ⊢
      cases answer with
      | known known =>
          have answer := faithful.answers part _ known
          exact ⟨faithful, avoids, .refl _, answer trail avoids, fun _ ok t clear =>
            ok ▸ answer t clear⟩
      | begun unknown begun =>
          have unseeded := faithful.given part unknown
          exact ⟨faithful, avoids, .refl _, evaluate_of_begun unseeded begun, nofun⟩
      | unruled unknown fresh unruled =>
          have unseeded := faithful.given part unknown
          exact ⟨faithful, avoids, .refl _, evaluate_of_unruled unseeded fresh unruled, nofun⟩
      | halted unknown fresh ruled outcome =>
          have below := below fresh _ ruled unknown
          have same := evaluate_of_ruled (faithful.given part unknown) fresh ruled
          rw [outcome] at below
          rw [below.same] at same
          exact ⟨below.faithful, fun p member => below.avoids p (List.mem_append_left _ member),
            below.grows, same, nofun⟩
      | yielded unknown fresh ruled outcome =>
          have below := below fresh _ ruled unknown
          rw [outcome] at below
          have unseeded := faithful.given part unknown
          have unknown' := below.avoids part (List.mem_append_right _ List.mem_cons_self)
          have answer := below.answer unseeded fresh ruled
          have faithful' := below.faithful.insert answer unknown'
          have same := evaluate_of_ruled unseeded fresh ruled
          rw [below.same] at same
          refine ⟨faithful', ?_, below.grows.trans (.insert unknown' _), same, ?_⟩
          · intro p member
            have apart : p ≠ part := fun e => fresh (e ▸ member)
            have outside := below.avoids p (List.mem_append_left _ member)
            exact (SortedMap.get?_insert_of_ne _ _ apart).trans outside
          · intro a ok t clear
            cases ok
            exact faithful'.answers part _ (SortedMap.get?_insert_self ..) t clear

end Inventory

end Paradigm
