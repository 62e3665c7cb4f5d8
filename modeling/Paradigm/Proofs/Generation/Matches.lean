import Paradigm.Proofs.Generation.Outline
import Paradigm.Proofs.Generation.Triple

/-!
# Matches

Each substitution matches every form of its source once, when its part is computed. Main statement:
while no request fails, the matches that are counted are those of the rules of the listed parts.
-/

namespace Paradigm

namespace Inventory

open Halting

variable {i : Inventory} {seeds : List (String × String)} {trail : Trail i}

/-- The matches that the rules of a part make by themselves. -/
def matchesOf (i : Inventory) (seeds : List (String × String)) (part : String) : Nat :=
  (((i.rules? part).getD []).map (i.matchCount seeds)).sum

/-- The matches that the rules of all listed parts make. -/
def work (i : Inventory) (seeds : List (String × String)) (s : Session) : Nat :=
  (s.outline.map fun line => i.matchesOf seeds line.1).sum

theorem work_begin {part : String} {rules : List Rule} (ruled : i.rules? part = some rules)
    (s : Session) (depth : Nat) :
    i.work seeds (s.begin part depth rules.length) =
      i.work seeds s + (rules.map (i.matchCount seeds)).sum := by
  simp [work, matchesOf, ruled]

theorem work_finish (s : Session) (part : String) (slot : Nat) (forms : List String) :
    i.work seeds (s.finish part slot forms) = i.work seeds s := by
  rw [work, Session.outline_finish, work]

/-- Below the trail, listed parts are known or still being computed, and the matches that were counted
since `s` are the work of the parts that were listed since, and `n` more. -/
structure Matched (i : Inventory) (seeds : List (String × String)) (trail : Trail i) (s : Session)
    (n : Nat) (s' : Session) : Prop where
  reachable : i.Reachable seeds trail s'
  settled : s'.Settled trail.parts
  balance : s'.stats.regexEvaluations + i.work seeds s =
    s.stats.regexEvaluations + i.work seeds s' + n

theorem Matched.trans {s s' s'' : Session} {n n' : Nat} (h : i.Matched seeds trail s n s')
    (h' : i.Matched seeds trail s' n' s'') : i.Matched seeds trail s (n + n') s'' := by
  refine ⟨h'.reachable, h'.settled, ?_⟩
  have before := h.balance
  have since := h'.balance
  omega

theorem Matched.begin {s : Session} {part : String} {rules : List Rule}
    (reachable : i.Reachable seeds trail s) (settled : s.Settled trail.parts)
    (unknown : s.memo.get? part = none) (fresh : part ∉ trail.parts)
    (ruled : i.rules? part = some rules) :
    let s' := s.begin part trail.parts.length rules.length
    i.Matched seeds (trail.extend part fresh ruled) s' 0 s' :=
  ⟨reachable.begun unknown fresh ruled, settled.begin part _ _, rfl⟩

/-- A request that is answered adds as many matches as the parts that it adds to the list make. -/
theorem matched_generate (trail : Trail i) (part : String) {s s' : Session} {forms : List String}
    (reachable : i.Reachable seeds trail s) (settled : s.Settled trail.parts)
    (ok : (i.generate trail part).outcome s = (.ok forms, s')) :
    i.Matched seeds trail s 0 s' := by
  induction trail using Trail.induction generalizing part s s' forms with
  | step trail ih =>
      have after := reachable.asked part
      have answer := i.generate_answer trail part s
      rw [ok] at after answer
      cases answer with
      | known _ => exact ⟨after, settled, rfl⟩
      | @yielded rules results s' unknown fresh ruled outcome =>
          let inner := trail.extend part fresh ruled
          let start := s.begin part trail.parts.length rules.length
          have carries : i.Carries seeds rules (i.Matched seeds inner start) (fun _ _ => True)
              (i.demandAt inner) := by
            refine carries_demandAt (fun _ _ h => h.reachable) (fun other _ n => ?_)
              (fun _ _ _ => ⟨fun _ => trivial, trivial⟩) fun n s' h => ⟨?_, ?_⟩
            · refine .of_outcome fun s' h => ⟨_, _, rfl, fun forms ok => ?_, fun _ _ => trivial⟩
              exact h.trans
                (ih part fresh rules ruled other h.reachable h.settled (Prod.ext ok rfl))
            · exact ⟨.expanded h.reachable, h.settled, h.balance⟩
            · refine ⟨.matched h.reachable, h.settled, ?_⟩
              have before : s'.stats.regexEvaluations + i.work seeds start =
                  start.stats.regexEvaluations + i.work seeds s' + n := h.balance
              show s'.stats.regexEvaluations + 1 + i.work seeds start =
                start.stats.regexEvaluations + i.work seeds s' + (n + 1)
              omega
          have evaluated := (carries.rules 0).ok
            (Matched.begin reachable settled unknown fresh ruled) outcome
          refine ⟨after, evaluated.settled.finish _ _, ?_⟩
          have balance : s'.stats.regexEvaluations + i.work seeds start =
              s.stats.regexEvaluations + i.work seeds s' +
                (0 + (rules.map (i.matchCount seeds)).sum) := evaluated.balance
          have more : i.work seeds start = _ := work_begin ruled s trail.parts.length
          show s'.stats.regexEvaluations + i.work seeds s = _
          rw [work_finish]
          omega

/-- The requests are answered, one after the other. -/
def AllAnswered (i : Inventory) (seeds : List (String × String)) (history : List String) : Prop :=
  ∀ before part after, history = before ++ part :: after →
    ∃ forms, (((Inflector.fresh i seeds).after before).generate part).1 = .ok forms

theorem matched_after {history : List String} (answered : i.AllAnswered seeds history) :
    i.Matched seeds .empty (.seeded seeds) 0
      ((Inflector.fresh i seeds).after history).session := by
  have all : ∀ part ∈ history, ∃ forms, i.evaluate seeds .empty part = .ok forms :=
    forall_of_answers (∃ forms, · = .ok forms) answered
  refine after_keeps ⟨.fresh, nofun, rfl⟩ fun part member s reachable h => ?_
  obtain ⟨forms, ok⟩ := all part member
  have ok := (reachable.generate_eq part).trans ok
  exact h.trans (matched_generate .empty part reachable h.settled (Prod.ext ok rfl))

end Inventory

end Paradigm
