import Paradigm.Proofs.Generation.Failures
import Paradigm.Proofs.Generation.Ledger
import Paradigm.Proofs.Generation.Matches

/-!
# The statistics of a session

What the counts of a session say about its requests. Main statement: the list of computed parts is
the outline of the calls; it has each known part once, with its rules and forms, besides parts that
fail for ever, each with an error if the requests came to an end; and where nothing failed, the
matches are those of the rules of these parts.
-/

namespace Paradigm

/-- The number of forms that a rule matches by itself: a substitution those of its source. -/
def Session.matchCount (s : Session) : Rule → Nat
  | .pattern _ => 0
  | .substitution r => ((s.memo.get? r.source).getD []).length

namespace Inventory

open Halting

variable {i : Inventory} {seeds : List (String × String)}

/-! ## Books between requests -/

theorem ledger_after (i : Inventory) (seeds : List (String × String)) (history : List String) :
    i.Ledger seeds [] ((Inflector.fresh i seeds).after history).session := by
  refine after_keeps (i.ledger_seeded seeds) fun part _ s reachable ledger => ?_
  have alone : i.Linked seeds ([] ++ [part]) := List.isChain_singleton part
  exact ledger_generate .empty part alone reachable ledger

theorem foldr_forms_eq_sum {computed : List PartTrace} {p : PartTrace → Bool}
    (h : ∀ trace ∈ computed, ¬ p trace → trace.forms = 0) :
    computed.foldr (fun trace n => trace.forms + n) 0 =
      ((computed.filter p).map fun trace => trace.forms).sum := by
  induction computed with
  | nil => rfl
  | cons trace rest ih =>
      obtain ⟨head, tail⟩ := List.forall_mem_cons.mp h
      rw [List.foldr_cons, ih tail]
      by_cases kept : p trace
      · rw [List.filter_cons_of_pos kept, List.map_cons, List.sum_cons]
      · rw [List.filter_cons_of_neg kept, head kept, Nat.zero_add]

/-- The listed parts that are known, with the numbers of their forms, are the parts of the memory that
were not given. -/
theorem Ledger.perm {s : Session} (h : i.Ledger seeds [] s) :
    ((s.stats.computed.filter fun trace => (s.memo.get? trace.part).isSome).map fun trace =>
        (trace.part, trace.forms)).Perm
      ((s.memo.entries.filter fun entry => (givenForm? seeds entry.1).isNone).map fun entry =>
        (entry.1, entry.2.length)) := by
  have listed : ∀ {trace : PartTrace} {forms : List String}, trace ∈ s.stats.computed →
      s.memo.get? trace.part = some forms →
      s.stats.computed.filter (·.part = trace.part) = [trace] ∧ trace.forms = forms.length := by
    intro trace forms member known
    obtain ⟨trace', only, count⟩ := h.closed _ forms known (h.entries trace member).1
    have inside : trace ∈ s.stats.computed.filter (·.part = trace.part) := by simp [member]
    rw [only, List.mem_singleton] at inside
    exact ⟨inside ▸ only, inside ▸ count⟩
  refine (List.perm_ext_iff_of_nodup ?_ ?_).mpr fun pair => ?_
  · refine .of_map Prod.fst (List.nodup_iff_count_le_one.mpr fun part => ?_)
    rw [List.map_map]
    by_cases present : part ∈ (s.stats.computed.filter fun trace =>
        (s.memo.get? trace.part).isSome).map fun trace => trace.part
    · obtain ⟨trace, member, rfl⟩ := List.mem_map.mp present
      obtain ⟨member, known⟩ := List.mem_filter.mp member
      obtain ⟨forms, known⟩ := Option.isSome_iff_exists.mp known
      refine ((List.filter_sublist.map _).count_le trace.part).trans ?_
      rw [List.count, List.countP_map, List.countP_eq_length_filter]
      simp only [Function.comp_def, beq_eq_decide, (listed member known).1, List.length_singleton,
        Nat.le_refl]
    · exact (List.count_eq_zero.mpr present).trans_le (Nat.zero_le 1)
  · refine .of_map Prod.fst ?_
    rw [List.map_map]
    exact (s.memo.keys_pairwise_lt.imp fun less => String.ne_of_lt less).sublist
      (List.filter_sublist.map _)
  · obtain ⟨part, count⟩ := pair
    simp only [List.mem_map, List.mem_filter, Prod.mk.injEq]
    constructor
    · rintro ⟨trace, ⟨member, known⟩, rfl, rfl⟩
      obtain ⟨forms, known⟩ := Option.isSome_iff_exists.mp known
      refine ⟨(trace.part, forms), ⟨SortedMap.mem_entries_iff.mpr known, ?_⟩, rfl,
        (listed member known).2.symm⟩
      simp [(h.entries trace member).1]
    · rintro ⟨⟨part, forms⟩, ⟨member, unseeded⟩, rfl, rfl⟩
      have known := SortedMap.mem_entries_iff.mp member
      obtain ⟨trace, only, count⟩ := h.closed part forms known (by simpa using unseeded)
      have inside : trace ∈ s.stats.computed.filter (·.part = part) := by simp [only]
      obtain ⟨member, here⟩ := List.mem_filter.mp inside
      have here : trace.part = part := by simpa using here
      exact ⟨trace, ⟨member, by simp [here, known]⟩, here, count⟩

/-- The total counts the forms of the known parts that were not given. -/
theorem Ledger.totalForms {s : Session} (h : i.Ledger seeds [] s) :
    s.stats.totalForms =
      ((s.memo.entries.filter fun entry => (givenForm? seeds entry.1).isNone).map fun entry =>
        entry.2.length).sum := by
  have failed : ∀ trace ∈ s.stats.computed, ¬ (s.memo.get? trace.part).isSome → trace.forms = 0 :=
    fun trace member unknown => (h.pending trace member (by simpa using unknown)).1
  have same := (h.perm.map Prod.snd).sum_nat
  simp only [List.map_map, Function.comp_def] at same
  rw [← same, Stats.totalForms]
  exact foldr_forms_eq_sum failed

/-! ## Matches from memory -/

section

variable {s : Session} {trace : PartTrace} {rules : List Rule}

/-- What is needed for a part that was listed and came to forms is known. -/
theorem Matched.known_source {start : Session} {n : Nat}
    (h : i.Matched seeds .empty start n s) (ledger : i.Ledger seeds [] s)
    (member : trace ∈ s.stats.computed) (ruled : i.rules? trace.part = some rules)
    {r : Substitution} (inside : .substitution r ∈ rules) : (s.memo.get? r.source).isSome := by
  have line : (trace.part, trace.depth) ∈ s.outline := List.mem_map_of_mem member
  have known := (h.settled _ line).resolve_right List.not_mem_nil
  have unseeded := (ledger.entries trace member).1
  exact h.reachable.sound.1.closed known ⟨unseeded, rules, ruled, .source inside⟩

theorem Matched.matchesOf_eq {start : Session} {n : Nat} (h : i.Matched seeds .empty start n s)
    (ledger : i.Ledger seeds [] s) (member : trace ∈ s.stats.computed) :
    i.matchesOf seeds trace.part = (((i.rules? trace.part).getD []).map s.matchCount).sum := by
  obtain ⟨_, rules, ruled, _⟩ := ledger.entries trace member
  rw [matchesOf, ruled, Option.getD_some]
  refine congrArg List.sum (List.map_congr_left fun rule inside => ?_)
  cases rule with
  | pattern _ => rfl
  | substitution r =>
      have known := h.known_source ledger member ruled inside
      obtain ⟨forms, known⟩ := Option.isSome_iff_exists.mp known
      have found := h.reachable.sound.1.answers _ _ known .empty (Trail.empty_avoids _)
      simp [matchCount, Session.matchCount, formsOf, found, known]

end

/-! ## The whole -/

/-- What the statistics of a session say about the requests that were made in it:
the list of computed parts is the outline of the calls, none of the parts given; a known part that
was not given is listed once, with the numbers of its rules and of its forms; a listed part that is
not known has no forms, and fails whenever it is asked for again, with an error if all requests came
to an end; the total counts the forms of known parts that were not given; and if all requests were
answered, the matches that were counted are those of the substitutions of the listed parts, one for
each form of the source, which is known. -/
structure Accounted (i : Inventory) (seeds : List (String × String)) (history : List String)
    (s : Session) : Prop where
  outline : ∀ before part depth after, s.outline = before ++ (part, depth) :: after →
    depth ≤ (before.getLast?.map (·.2 + 1)).getD 0 ∧
      ∃ c ∈ (i.run seeds history).calls, Opens c before part depth
  unseeded : ∀ trace ∈ s.stats.computed, givenForm? seeds trace.part = none
  known : ∀ part forms, s.memo.get? part = some forms → givenForm? seeds part = none →
    ∃ trace rules, s.stats.computed.filter (·.part = part) = [trace] ∧
      trace.forms = forms.length ∧ i.rules? part = some rules ∧ trace.rules = rules.length
  unknown : ∀ trace ∈ s.stats.computed, s.memo.get? trace.part = none → trace.forms = 0 ∧
    ∀ later, ∃ halt, (((Inflector.fresh i seeds).after (history ++ later)).generate
      trace.part).1 = .error halt ∧ (i.AllEnded seeds history → ∃ e, halt = .failed e)
  total : s.stats.totalForms =
    ((s.memo.entries.filter fun entry => (givenForm? seeds entry.1).isNone).map fun entry =>
      entry.2.length).sum
  matched : i.AllAnswered seeds history →
    s.stats.regexEvaluations = (s.stats.computed.map fun trace =>
      (((i.rules? trace.part).getD []).map s.matchCount).sum).sum ∧
    ∀ trace ∈ s.stats.computed, ∀ rules, i.rules? trace.part = some rules →
      ∀ r, .substitution r ∈ rules → (s.memo.get? r.source).isSome

theorem statistics_accounted (i : Inventory) (seeds : List (String × String))
    (history : List String) :
    i.Accounted seeds history ((Inflector.fresh i seeds).after history).session := by
  have ledger := i.ledger_after seeds history
  constructor
  case outline =>
    rw [← (run_session i seeds history).1]
    exact fun before part depth after split => outline_of_calls i seeds history split
  case unseeded => exact fun trace member => (ledger.entries trace member).1
  case known =>
    intro part forms known unseeded
    obtain ⟨trace, only, count⟩ := ledger.closed part forms known unseeded
    have listed : trace ∈ _ := only ▸ List.mem_singleton_self trace
    obtain ⟨member, here⟩ := List.mem_filter.mp listed
    obtain ⟨_, rules, ruled, number⟩ := ledger.entries trace member
    exact ⟨trace, rules, only, count, of_decide_eq_true here ▸ ruled, number⟩
  case unknown =>
    intro trace member unknown
    obtain ⟨none, waiting⟩ := ledger.pending trace member unknown
    have hopeless := waiting.resolve_left List.not_mem_nil
    refine ⟨none, fun later => ?_⟩
    rw [(reachable_after i seeds _).answer (Inflector.inventory_after _ _) trace.part]
    cases alone : i.evaluate seeds .empty trace.part with
    | ok forms => exact absurd alone (hopeless forms)
    | error halt =>
        refine ⟨halt, rfl, fun ended => ?_⟩
        obtain ⟨names, settled, fail⟩ := settled_after ended
        have line : (trace.part, trace.depth) ∈ Session.outline _ := List.mem_map_of_mem member
        have lost := (settled _ line).resolve_left fun known => by simp [unknown] at known
        obtain ⟨e, failed⟩ := fail trace.part lost
        cases alone.symm.trans failed
        exact ⟨e, rfl⟩
  case total => exact ledger.totalForms
  case matched =>
    intro answered
    have matched := matched_after answered
    refine ⟨?_, fun trace member rules ruled r inside =>
      matched.known_source ledger member ruled inside⟩
    have balance : _ + 0 = 0 + i.work seeds _ + 0 := matched.balance
    rw [Nat.add_zero, Nat.add_zero, Nat.zero_add] at balance
    rw [balance, work, Session.outline, List.map_map]
    exact congrArg List.sum (List.map_congr_left fun trace member =>
      matched.matchesOf_eq ledger member)

theorem strong_past_accounted :
    strongVerbs.AllAnswered [("stem", "bind")] ["past"] ∧
      ((Inflector.fresh strongVerbs [("stem", "bind")]).after ["past"]).session.stats.regexEvaluations
        = 1 :=
  have answered : strongVerbs.AllAnswered [("stem", "bind")] ["past"] := by
    intro before part after split
    obtain ⟨rfl, rest⟩ | ⟨_, empty⟩ := List.singleton_eq_append_iff.mp split
    · cases rest
      exact ⟨["bande-band", "bandon", "binde-bind", "bindon"], by decide +kernel⟩
    · cases empty
  have counted := ((statistics_accounted strongVerbs _ _).matched answered).1
  ⟨answered, counted.trans (by decide +kernel)⟩

end Inventory

end Paradigm
