import Paradigm.Proofs.Generation.Engine

/-!
# Calls are atomic

Rules may fail at any depth, after other parts have been computed. Main statement: every call, also
one inside another, finds a sound engine and leaves one; it turns back to the stack it found; what
it adds to memory is complete; and if it fails, the parts on the way to the error stay unknown.
-/

namespace Paradigm

namespace Inventory

variable {i : Inventory} {seeds : List (String × String)} {trail : Trail i}

/-- The parts on the stack differ and are unknown; a known part is given or has rules, and its forms
increase; and a given part has the form that is given for it. -/
structure Coherent (i : Inventory) (seeds : List (String × String)) (e : Engine) : Prop where
  distinct : e.stack.Nodup
  unknown : ∀ part ∈ e.stack, e.session.memo.get? part = none
  named : ∀ part, (e.session.memo.get? part).isSome →
    (givenForm? seeds part).isSome ∨ (i.rules? part).isSome
  increasing : ∀ part forms, e.session.memo.get? part = some forms → forms.Pairwise (· < ·)
  given : ∀ part form, givenForm? seeds part = some form → e.session.memo.get? part = some [form]

/-- The call leaves the stack and what was known as they were. What it adds to memory is what a new
engine answers. If it comes to forms, its part is known with them, and all parts that were asked for
on the way are known; if it fails, its part is unknown, and so are the parts where it failed. -/
structure Atomic (i : Inventory) (seeds : List (String × String)) (c : Call) : Prop where
  stack : c.after.stack = c.before.stack
  kept : Extends c.before.session.memo c.after.session.memo
  complete : ∀ part forms, c.before.session.memo.get? part = none →
    c.after.session.memo.get? part = some forms →
      ((Inflector.fresh i seeds).generate part).1 = .ok forms
  answered : ∀ forms, c.outcome = .ok forms → c.after.session.memo.get? c.part = some forms
  asked : ∃ requested, c.after.asked = c.before.asked ++ c.part :: requested ∧
    ∀ forms, c.outcome = .ok forms → ∀ part ∈ requested,
      (c.after.session.memo.get? part).isSome
  unanswered : ∀ halt, c.outcome = .error halt → c.after.session.memo.get? c.part = none
  unfinished : ∀ e, c.outcome = .error (.failed e) → ∀ part ∈ e.trail,
    c.after.session.memo.get? part = none

/-- A call is atomic, from a coherent engine to a coherent one. -/
structure Sound (i : Inventory) (seeds : List (String × String)) (c : Call) : Prop where
  before : i.Coherent seeds c.before
  after : i.Coherent seeds c.after
  atomic : i.Atomic seeds c

/-! ## States of the engine -/

/-- With the parts of a trail on its stack, the engine is in a state that requests lead to, and all
calls that are over were sound. -/
structure Ready (seeds : List (String × String)) (trail : Trail i) (m : Run) : Prop where
  stack : m.stack = trail.parts
  reachable : i.Reachable seeds trail m.session
  calls : ∀ c ∈ m.calls, i.Sound seeds c

theorem Ready.coherent {m : Run} (h : Ready seeds trail m) : i.Coherent seeds m.toEngine := by
  obtain ⟨faithful, avoids⟩ := h.reachable.sound
  have found := fun part forms known =>
    faithful.answers part forms known .empty (Trail.empty_avoids _)
  constructor
  case distinct => exact h.stack ▸ trail.nodup
  case unknown => exact fun part member => avoids part (h.stack ▸ member)
  case named =>
    intro part known
    obtain ⟨forms, known⟩ := Option.isSome_iff_exists.mp known
    have answer := i.evaluate_answer seeds .empty part
    rw [found part forms known] at answer
    cases answer with
    | given given => exact .inl (Option.isSome_of_eq_some given)
    | yielded _ _ ruled _ => exact .inr (Option.isSome_of_eq_some ruled)
  case increasing => exact fun part forms known => evaluate_increasing (found part forms known)
  case given =>
    intro part form given
    rcases known : m.session.memo.get? part with _ | forms
    · cases (faithful.given part known).symm.trans given
    · have same := (found part forms known).symm.trans (evaluate_of_given given)
      exact congrArg some (Except.ok.inj same)

theorem Ready.enter {m : Run} {part : String} {rules : List Rule} (h : Ready seeds trail m)
    (unknown : m.session.memo.get? part = none) (fresh : part ∉ trail.parts)
    (ruled : i.rules? part = some rules) :
    Ready seeds (trail.extend part fresh ruled) (m.enter part rules.length) where
  stack := congrArg (· ++ [part]) h.stack
  reachable := by
    have entered := h.reachable.begun unknown fresh ruled
    rwa [← h.stack] at entered
  calls := h.calls

/-- From a ready engine, the engine becomes ready again. What was known stays; what was asked for
meanwhile is known if nothing halted; and the parts of the trail of an error are unknown. -/
structure Served (seeds : List (String × String)) (trail : Trail i) (m : Run)
    (r : Except Halt Unit) (m' : Run) : Prop where
  ready : Ready seeds trail m'
  kept : Extends m.session.memo m'.session.memo
  asked : ∃ requested, m'.asked = m.asked ++ requested ∧
    (r = .ok () → ∀ part ∈ requested, (m'.session.memo.get? part).isSome)
  unfinished : ∀ e, r = .error (.failed e) → ∀ part ∈ e.trail, m'.session.memo.get? part = none

/-- What is done from ready engines on serves. -/
def Serves (seeds : List (String × String)) (trail : Trail i) (m : Run) (r : Except Halt Unit)
    (m' : Run) : Prop :=
  Ready seeds trail m → Served seeds trail m r m'

theorem Served.of_same {m m' : Run} {r : Except Halt Unit} (ready : Ready seeds trail m')
    (memo : m'.session.memo = m.session.memo) (asked : m'.asked = m.asked)
    (unfinished : ∀ e, r = .error (.failed e) → e.trail = trail.parts) :
    Served seeds trail m r m' where
  ready := ready
  kept := memo ▸ .refl _
  asked := ⟨[], by rw [asked, List.append_nil], fun _ => List.forall_mem_nil _⟩
  unfinished e failed part member :=
    ready.reachable.sound.2 part (unfinished e failed ▸ member)

theorem composes_serves (trail : Trail i) : i.Composes (Serves seeds trail) where
  refl m ready := .of_same ready rfl rfl fun _ failed => by cases failed
  trans m m' r m'' first second ready := by
    have first := first ready
    have second := second first.ready
    obtain ⟨requested, asked, known⟩ := first.asked
    obtain ⟨requested', asked', known'⟩ := second.asked
    refine ⟨second.ready, first.kept.trans second.kept, ?_, second.unfinished⟩
    refine ⟨requested ++ requested', by rw [asked', asked, List.append_assoc], fun ok part => ?_⟩
    intro member
    rcases List.mem_append.mp member with member | member
    · obtain ⟨forms, found⟩ := Option.isSome_iff_exists.mp (known rfl part member)
      exact Option.isSome_of_eq_some (second.kept part forms found)
    · exact known' ok part member
  refuse m fault ready := .of_same ready rfl rfl fun e failed => by
    cases failed
    exact ready.stack
  giveUp m ready := .of_same ready rfl rfl fun _ failed => by cases failed
  countExpansion m ready :=
    .of_same ⟨ready.stack, .expanded ready.reachable, ready.calls⟩ rfl rfl
      fun _ failed => by cases failed
  countMatch m ready :=
    .of_same ⟨ready.stack, .matched ready.reachable, ready.calls⟩ rfl rfl
      fun _ failed => by cases failed

/-! ## Calls -/

theorem serves_answer {forms : String → Halting Run (List String)} {part : String}
    (mirrors : Mirrors trail (i.generate trail part) (i.answer forms part))
    (below : ∀ fresh rules (ruled : i.rules? part = some rules) other,
      Follows (Serves seeds (trail.extend part fresh ruled)) (forms other)) :
    Follows (Serves seeds trail) (i.answer forms part) := by
  intro m ready
  obtain ⟨faithful, avoids⟩ := ready.reachable.sound
  obtain ⟨_, session, stack⟩ := mirrors m ready.stack
  have reachable := ready.reachable.asked part
  have kept := (generate_agrees trail part m.session faithful avoids).grows
  rw [← session] at reachable kept
  rcases known : m.session.memo.get? part with _ | found
  · by_cases begun : part ∈ m.stack
    · rw [answer_of_begun known begun]
      refine .of_same ready rfl rfl fun e failed => ?_
      cases failed
      exact ready.stack
    have fresh : part ∉ trail.parts := ready.stack ▸ begun
    rcases ruled : i.rules? part with _ | rules
    · rw [answer_of_unruled known begun ruled]
      refine .of_same ready rfl rfl fun e failed => ?_
      cases failed
      exact ready.stack
    · have inner := (composes_serves _).rules (below fresh rules ruled) rules
        (m.enter part rules.length) (ready.enter known fresh ruled)
      rw [answer_of_ruled known begun ruled] at reachable kept stack ⊢
      rcases outcome : Halting.outcome _ (m.enter part rules.length) with ⟨halt | results, m'⟩ <;>
        rw [outcome] at reachable kept stack inner
      · exact ⟨⟨stack, reachable, inner.ready.calls⟩, kept, inner.asked, inner.unfinished⟩
      · obtain ⟨requested, asked, answered⟩ := inner.asked
        refine ⟨⟨stack, reachable, inner.ready.calls⟩, kept, ⟨requested, asked, ?_⟩,
          fun _ failed => by cases failed⟩
        intro ok p member
        exact (i.kept_known p).finish _ part _ _ (answered rfl p member)
  · rw [answer_of_known known] at reachable ⊢
    exact .of_same ⟨ready.stack, reachable, ready.calls⟩ rfl rfl fun _ failed => by cases failed

/-- A call from a ready engine is sound. -/
theorem sound_call {part : String} {m m' : Run} {r : Except Halt (List String)}
    (ready : Ready seeds trail m)
    (same : (i.generate trail part).outcome m.session = (r, m'.session))
    (served : Served seeds trail (m.ask part) (r.map fun _ => ()) m') :
    i.Sound seeds ⟨part, m.toEngine, r, m'.toEngine⟩ := by
  refine ⟨ready.coherent, served.ready.coherent, ?_⟩
  obtain ⟨faithful, avoids⟩ := served.ready.reachable.sound
  have known : ∀ forms, r = .ok forms → m'.session.memo.get? part = some forms := by
    rintro forms rfl
    exact known_of_generate_ok same
  constructor
  case stack => exact served.ready.stack.trans ready.stack.symm
  case kept => exact served.kept
  case complete =>
    intro p forms _ known
    have answer := faithful.answers p forms known .empty (Trail.empty_avoids _)
    exact (Reachable.fresh.generate_eq p).trans answer
  case answered => exact known
  case asked =>
    obtain ⟨requested, asked, answered⟩ := served.asked
    refine ⟨requested, by rw [asked]; simp [Run.ask], ?_⟩
    rintro forms rfl
    exact answered rfl
  case unanswered =>
    rintro halt rfl
    by_contra present
    obtain ⟨forms, present⟩ := Option.ne_none_iff_exists'.mp present
    have failed := ready.reachable.generate_eq part
    rw [same, faithful.answers part forms present trail avoids] at failed
    cases failed
  case unfinished =>
    rintro e rfl
    exact served.unfinished e rfl

theorem serves_call {room : Nat} (trail : Trail i) (part : String) (enough : trail.room < room) :
    Follows (Serves seeds trail) (i.call room part) := by
  induction room generalizing trail part with
  | zero => exact absurd enough (Nat.not_lt_zero _)
  | succ room ih =>
      have smaller := fun fresh rules (ruled : i.rules? part = some rules) =>
        room_extend_lt enough fresh ruled
      have mirrors : Mirrors trail (i.generate trail part) (i.answer (i.call room) part) :=
        mirrors_answer part fun fresh rules ruled other =>
          mirrors_call (trail.extend part fresh ruled) other (smaller fresh rules ruled)
      intro m ready
      have asked : Ready seeds trail (m.ask part) := ⟨ready.stack, ready.reachable, ready.calls⟩
      have served := serves_answer mirrors
        (fun fresh rules ruled other => ih _ other (smaller fresh rules ruled)) (m.ask part) asked
      obtain ⟨same, session, _⟩ := mirrors (m.ask part) ready.stack
      have sound := sound_call ready (Prod.ext same.symm session.symm) served
      obtain ⟨requested, noted, known⟩ := sound.atomic.asked
      refine ⟨⟨served.ready.stack, served.ready.reachable, ?_⟩, served.kept,
        ⟨part :: requested, noted, ?_⟩, served.unfinished⟩
      · intro c member
        rcases List.mem_append.mp member with member | member
        · exact served.ready.calls c member
        · rw [List.mem_singleton.mp member]
          exact sound
      · intro ok p member
        obtain ⟨forms, found, _⟩ := of_map_ok ok
        rcases List.mem_cons.mp member with rfl | member
        · exact Option.isSome_of_eq_some (sound.atomic.answered forms found)
        · exact known forms found p member

theorem ready_run (i : Inventory) (seeds : List (String × String)) (history : List String) :
    Ready seeds (.empty : Trail i) (i.run seeds history) := by
  suffices ∀ m : Run, Ready seeds (.empty : Trail i) m →
      Ready seeds (.empty : Trail i) (i.callAll m history) from
    this _ ⟨rfl, .fresh, List.forall_mem_nil _⟩
  induction history with
  | nil => exact fun _ ready => ready
  | cons part history ih =>
      intro m ready
      exact ih _ (serves_call .empty part (room_empty_lt i) m ready).ready

/-- After any requests, the engine is coherent, with nothing on its stack; its session is that of an
inflector after the same requests; and all calls that were made, also inside others, whether they
came to forms or failed, were atomic, from coherent engines to coherent ones. -/
theorem calls_atomic (i : Inventory) (seeds : List (String × String)) (history : List String) :
    (i.run seeds history).session = ((Inflector.fresh i seeds).after history).session ∧
      (i.run seeds history).stack = [] ∧ i.Coherent seeds (i.run seeds history).toEngine ∧
      ∀ c ∈ (i.run seeds history).calls,
        i.Coherent seeds c.before ∧ i.Coherent seeds c.after ∧ i.Atomic seeds c := by
  obtain ⟨session, empty⟩ := run_session i seeds history
  have ready := ready_run i seeds history
  refine ⟨session, empty, ready.coherent, fun c member => ?_⟩
  obtain ⟨before, after, atomic⟩ := ready.calls c member
  exact ⟨before, after, atomic⟩

end Inventory

end Paradigm
