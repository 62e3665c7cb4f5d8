import Paradigm.Proofs.Generation.Triple

/-!
# The list of computed parts

A part is listed when its computation is begun, and its number of forms is written down when it is
finished, below all that was listed meanwhile. The list keeps books on the memory: a known part that
was not given is listed once, with the number of its forms; all others that are listed wait for the
end of their computation, or have failed for ever.
-/

namespace Paradigm

open Halting

/-! ## Listing and finishing -/

theorem modify_at_length {α : Type} (before : List α) (a : α) (after : List α) (f : α → α) :
    (before ++ a :: after).modify before.length f = before ++ f a :: after := by
  induction before with
  | nil => rfl
  | cons b before ih => simpa using ih

theorem Session.computed_finish {s : Session} {before after : List PartTrace} {trace : PartTrace}
    (split : s.stats.computed = before ++ trace :: after) (part : String) (forms : List String) :
    (s.finish part before.length forms).stats.computed =
      before ++ { trace with forms := forms.length } :: after := by
  simp only [Session.finish, Stats.record, split]
  exact modify_at_length ..

/-- From `s` to `s'`, parts were listed, none of them among `parts`. -/
def Lists (parts : List String) (s s' : Session) : Prop :=
  ∃ listed, s'.stats.computed = s.stats.computed ++ listed ∧ ∀ trace ∈ listed, trace.part ∉ parts

theorem Lists.refl (parts : List String) (s : Session) : Lists parts s s :=
  ⟨[], (List.append_nil _).symm, nofun⟩

theorem Lists.trans {parts : List String} {s s' s'' : Session} (h : Lists parts s s')
    (h' : Lists parts s' s'') : Lists parts s s'' := by
  obtain ⟨listed, same, outside⟩ := h
  obtain ⟨listed', same', outside'⟩ := h'
  refine ⟨listed ++ listed', by rw [same', same, List.append_assoc], fun trace member => ?_⟩
  exact (List.mem_append.mp member).elim (outside trace) (outside' trace)

/-- What was listed since a part was begun stands after it. -/
theorem Lists.of_begin {parts : List String} {part : String} {depth rules : Nat} {s s' : Session}
    (h : Lists parts (s.begin part depth rules) s') :
    ∃ listed, s'.stats.computed = s.stats.computed ++ ⟨part, depth, rules, 0⟩ :: listed ∧
      ∀ trace ∈ listed, trace.part ∉ parts := by
  obtain ⟨listed, same, outside⟩ := h
  refine ⟨listed, ?_, outside⟩
  rw [same, Session.begin, List.append_assoc, List.singleton_append]

namespace Inventory

variable {i : Inventory} {seeds : List (String × String)} {trail : Trail i}

/-- What rules list while a trail is being computed. -/
theorem lists_rules (rules : List Rule) {s : Session} (reachable : i.Reachable seeds trail s)
    (asked : ∀ part s, i.Reachable seeds trail s →
      Lists trail.parts s ((i.generate trail part).outcome s).2) :
    i.Reachable seeds trail (((i.demandAt trail).rules rules).outcome s).2 ∧
      Lists trail.parts s (((i.demandAt trail).rules rules).outcome s).2 := by
  let I (s' : Session) : Prop := i.Reachable seeds trail s' ∧ Lists trail.parts s s'
  have carries : i.Carries seeds rules (fun _ => I) (fun _ => I) (i.demandAt trail) := by
    refine carries_demandAt (fun _ _ h => h.1) (fun part _ _ => ?_) (fun _ _ h => ⟨fun _ => h, h⟩)
      fun _ _ h => ⟨⟨.expanded h.1, h.2⟩, ⟨.matched h.1, h.2⟩⟩
    exact .of_outcome fun s' h =>
      have after := And.intro (h.1.asked part) (h.2.trans (asked part s' h.1))
      ⟨_, _, rfl, fun _ _ => after, fun _ _ => after⟩
  have after := carries.rules 0 s ⟨reachable, .refl _ _⟩
  generalize ((i.demandAt trail).rules rules).outcome s = r at after ⊢
  rcases r with ⟨halt | results, s'⟩ <;> exact after

theorem lists_generate (trail : Trail i) (part : String) {s : Session}
    (reachable : i.Reachable seeds trail s) :
    Lists trail.parts s ((i.generate trail part).outcome s).2 := by
  induction trail using Trail.induction generalizing part s with
  | step trail ih =>
      have below := fun fresh rules ruled unknown =>
        (lists_rules rules (reachable.begun unknown fresh ruled) fun part' _ h =>
          ih part fresh rules ruled part' h).2
      have answer := i.generate_answer trail part s
      generalize (i.generate trail part).outcome s = r at answer ⊢
      cases answer with
      | known _ => exact .refl _ _
      | begun _ _ => exact .refl _ _
      | unruled _ _ _ => exact .refl _ _
      | halted unknown fresh ruled outcome =>
          have below := below fresh _ ruled unknown
          rw [outcome] at below
          obtain ⟨listed, split, outside⟩ := below.of_begin
          exact ⟨_, split, List.forall_mem_cons.mpr ⟨fresh, fun trace member inside =>
            outside trace member (List.mem_append_left _ inside)⟩⟩
      | yielded unknown fresh ruled outcome =>
          have below := below fresh _ ruled unknown
          rw [outcome] at below
          obtain ⟨listed, split, outside⟩ := below.of_begin
          exact ⟨_, Session.computed_finish split .., List.forall_mem_cons.mpr ⟨fresh,
            fun trace member inside => outside trace member (List.mem_append_left _ inside)⟩⟩

/-! ## The books -/

/-- The list of computed parts while those of a stack are being computed: it says of each part how
many rules it has; a part that is not known has no forms written down, and is on the stack or has
failed for ever; and a known part that was not given is listed once, with the number of its forms. -/
structure Ledger (i : Inventory) (seeds : List (String × String)) (stack : List String)
    (s : Session) : Prop where
  entries : ∀ trace ∈ s.stats.computed, givenForm? seeds trace.part = none ∧
    ∃ rules, i.rules? trace.part = some rules ∧ trace.rules = rules.length
  pending : ∀ trace ∈ s.stats.computed, s.memo.get? trace.part = none →
    trace.forms = 0 ∧ (trace.part ∈ stack ∨ i.Hopeless seeds trace.part)
  closed : ∀ part forms, s.memo.get? part = some forms → givenForm? seeds part = none →
    ∃ trace, s.stats.computed.filter (·.part = part) = [trace] ∧ trace.forms = forms.length

theorem ledger_seeded (i : Inventory) (seeds : List (String × String)) :
    i.Ledger seeds [] (.seeded seeds) where
  entries := nofun
  pending := nofun
  closed part forms known unseeded := by
    rw [Session.get?_memo_seeded, unseeded] at known
    cases known

section

variable {s : Session} {part : String} {rules : List Rule}

theorem Ledger.begin (h : i.Ledger seeds trail.parts s) (unseeded : givenForm? seeds part = none)
    (unknown : s.memo.get? part = none) (ruled : i.rules? part = some rules) :
    i.Ledger seeds (trail.parts ++ [part]) (s.begin part trail.parts.length rules.length) where
  entries trace member := by
    rcases List.mem_append.mp member with member | member
    · exact h.entries trace member
    · rw [List.mem_singleton.mp member]
      exact ⟨unseeded, rules, ruled, rfl⟩
  pending trace member absent := by
    rcases List.mem_append.mp member with member | member
    · exact (h.pending trace member absent).imp_right (.imp_left (List.mem_append_left _))
    · rw [List.mem_singleton.mp member]
      exact ⟨rfl, .inl (List.mem_append_right _ List.mem_cons_self)⟩
  closed p forms known unseeded := by
    have apart : part ≠ p := by
      rintro rfl
      cases unknown.symm.trans known
    obtain ⟨trace, only, same⟩ := h.closed p forms known unseeded
    refine ⟨trace, ?_, same⟩
    simp only [Session.begin, List.filter_append, only]
    simp [apart]

/-- A part whose rules halted has failed for ever. -/
theorem Ledger.halt (h : i.Ledger seeds (trail.parts ++ [part]) s)
    (hopeless : i.Hopeless seeds part) : i.Ledger seeds trail.parts s where
  entries := h.entries
  pending trace member absent := by
    refine (h.pending trace member absent).imp_right fun waiting => ?_
    rcases waiting with inside | failed
    · rcases List.mem_append.mp inside with inside | inside
      · exact .inl inside
      · rw [List.mem_singleton.mp inside]
        exact .inr hopeless
    · exact .inr failed
  closed := h.closed

/-- A part that is finished is listed once, now with the number of its forms. -/
theorem Ledger.finish {forms : List String} {before after : List PartTrace} {trace : PartTrace}
    (h : i.Ledger seeds (trail.parts ++ [part]) s)
    (split : s.stats.computed = before ++ trace :: after) (here : trace.part = part)
    (earlier : ∀ t ∈ before, t.part ≠ part) (later : ∀ t ∈ after, t.part ≠ part) :
    i.Ledger seeds trail.parts (s.finish part before.length forms) where
  entries t member := by
    rw [Session.computed_finish split] at member
    have old := h.entries
    rw [split] at old
    rcases List.mem_append.mp member with member | member
    · exact old t (List.mem_append_left _ member)
    · rcases List.mem_cons.mp member with rfl | member
      · exact old trace (List.mem_append_right _ List.mem_cons_self)
      · exact old t (List.mem_append_right _ (List.mem_cons_of_mem _ member))
  pending t member absent := by
    rw [Session.computed_finish split] at member
    have apart : t.part ≠ part := by
      rintro same
      rw [same] at absent
      cases absent.symm.trans (SortedMap.get?_insert_self ..)
    have unknown : s.memo.get? t.part = none :=
      (SortedMap.get?_insert_of_ne _ _ apart).symm.trans absent
    have old : t ∈ s.stats.computed := by
      rw [split]
      rcases List.mem_append.mp member with member | member
      · exact List.mem_append_left _ member
      · rcases List.mem_cons.mp member with rfl | member
        · exact absurd here apart
        · exact List.mem_append_right _ (List.mem_cons_of_mem _ member)
    refine (h.pending t old unknown).imp_right (.imp_left fun inside => ?_)
    exact (List.mem_append.mp inside).resolve_right fun same =>
      apart (List.mem_singleton.mp same)
  closed p forms' known unseeded := by
    rw [Session.computed_finish split]
    by_cases same : p = part
    · subst same
      cases known.symm.trans (SortedMap.get?_insert_self ..)
      refine ⟨{ trace with forms := forms.length }, ?_, rfl⟩
      rw [List.filter_append, List.filter_cons_of_pos (by simpa using here),
        List.filter_eq_nil_iff.mpr (by simpa using earlier),
        List.filter_eq_nil_iff.mpr (by simpa using later), List.nil_append]
    · have known' := (SortedMap.get?_insert_of_ne _ _ same).symm.trans known
      obtain ⟨t, only, count⟩ := h.closed p forms' known' unseeded
      refine ⟨t, ?_, count⟩
      have apart : trace.part ≠ p := here ▸ Ne.symm same
      rw [split, List.filter_append, List.filter_cons_of_neg (by simpa using apart)] at only
      rw [List.filter_append, List.filter_cons_of_neg (by simpa using apart), only]

end

/-- Requests keep the books, as long as each part needs the next one. -/
theorem ledger_generate (trail : Trail i) (part : String)
    (linked : i.Linked seeds (trail.parts ++ [part])) {s : Session}
    (reachable : i.Reachable seeds trail s) (ledger : i.Ledger seeds trail.parts s) :
    i.Ledger seeds trail.parts ((i.generate trail part).outcome s).2 := by
  induction trail using Trail.induction generalizing part s with
  | step trail ih =>
      have below : ∀ fresh rules (ruled : i.rules? part = some rules)
          (unknown : s.memo.get? part = none),
          i.Ledger seeds (trail.parts ++ [part])
            (((i.demandAt (trail.extend part fresh ruled)).rules rules).outcome
              (s.begin part trail.parts.length rules.length)).2 := by
        intro fresh rules ruled unknown
        have unseeded := reachable.sound.1.given part unknown
        let inner := trail.extend part fresh ruled
        let I (s' : Session) : Prop := i.Reachable seeds inner s' ∧ i.Ledger seeds inner.parts s'
        have carries : i.Carries seeds rules (fun _ => I) (fun _ => I) (i.demandAt inner) := by
          refine carries_demandAt (fun _ _ h => h.1) (fun other asks _ => ?_)
            (fun _ _ h => ⟨fun _ => h, h⟩) fun _ _ h => ⟨⟨.expanded h.1, h.2.entries, h.2.pending,
              h.2.closed⟩, ⟨.matched h.1, h.2.entries, h.2.pending, h.2.closed⟩⟩
          have linked' : i.Linked seeds (inner.parts ++ [other]) :=
            Linked.snoc linked ⟨unseeded, rules, ruled, asks⟩
          exact .of_outcome fun s' h =>
            have after := And.intro (h.1.asked other)
              (ih part fresh rules ruled other linked' h.1 h.2)
            ⟨_, _, rfl, fun _ _ => after, fun _ _ => after⟩
        have after := carries.rules 0 _
          ⟨reachable.begun unknown fresh ruled, ledger.begin unseeded unknown ruled⟩
        generalize Halting.outcome _ (s.begin part trail.parts.length rules.length) = r at after ⊢
        rcases r with ⟨halt | results, s'⟩ <;> exact after.2
      have same := reachable.generate_eq part
      have found : ∀ forms s', (i.generate trail part).outcome s = (.ok forms, s') →
          i.evaluate seeds .empty part = .ok forms := fun _ _ => reachable.evaluate_of_ok
      have answer := i.generate_answer trail part s
      generalize (i.generate trail part).outcome s = r at same answer found ⊢
      cases answer with
      | known _ => exact ⟨ledger.entries, ledger.pending, ledger.closed⟩
      | begun _ _ => exact ledger
      | unruled _ _ _ => exact ledger
      | halted unknown fresh ruled outcome =>
          have below := below fresh _ ruled unknown
          rw [outcome] at below
          refine below.halt (hopeless_of_linked fresh linked fun forms ok => ?_)
          cases same.trans ok
      | @yielded rules _ _ unknown fresh ruled outcome =>
          have below := below fresh _ ruled unknown
          have lists := (lists_rules rules (reachable.begun unknown fresh ruled)
            fun part' _ h => lists_generate _ part' h).2
          rw [outcome] at below lists
          obtain ⟨listed, split, outside⟩ := lists.of_begin
          refine below.finish split rfl (fun t member here => ?_) fun t member here =>
            outside t member (here ▸ List.mem_append_right _ List.mem_cons_self)
          subst here
          rcases (ledger.pending t member unknown).2 with inside | hopeless
          · exact fresh inside
          · exact hopeless _ (found _ _ rfl)

end Inventory

end Paradigm
