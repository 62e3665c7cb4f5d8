import Paradigm.Proofs.Generation.Memory

/-!
# Requests in a row

The states of a session: those between requests, and those inside one, where parts are being
computed. In all of them the memory is faithful and the trail is unknown. Main statement: whatever
was asked before, an inflector answers as evaluation without memory does.
-/

namespace Paradigm

namespace Inflector

/-- The inflector after requests for parts, whether they were answered or failed. -/
def after (f : Inflector) (history : List String) : Inflector :=
  history.foldl (fun f part => (f.generate part).2) f

theorem inventory_after (f : Inflector) (history : List String) :
    (f.after history).inventory = f.inventory := by
  induction history generalizing f with
  | nil => rfl
  | cons part history ih => exact ih (f.generate part).2

end Inflector

namespace Inventory

/-- Trails and sessions that requests lead to: between requests nothing is being computed; inside
one, a part is begun, parts are asked for, insertions and matches are counted. -/
inductive Reachable (i : Inventory) (seeds : List (String × String)) :
    Trail i → Session → Prop where
  | fresh : Reachable i seeds .empty (.seeded seeds)
  | asked {trail : Trail i} {s : Session} (part : String) :
    Reachable i seeds trail s → Reachable i seeds trail ((i.generate trail part).outcome s).2
  | begun {trail : Trail i} {s : Session} {part : String} {rules : List Rule}
    (unknown : s.memo.get? part = none) (fresh : part ∉ trail.parts)
    (ruled : i.rules? part = some rules) :
    Reachable i seeds trail s →
      Reachable i seeds (trail.extend part fresh ruled)
        (s.begin part trail.parts.length rules.length)
  | expanded {trail : Trail i} {s : Session} :
    Reachable i seeds trail s → Reachable i seeds trail s.countExpansion
  | matched {trail : Trail i} {s : Session} :
    Reachable i seeds trail s → Reachable i seeds trail s.countMatch

variable {i : Inventory} {seeds : List (String × String)} {trail : Trail i} {s : Session}

theorem Reachable.sound (h : i.Reachable seeds trail s) :
    i.Faithful seeds s.memo ∧ trail.Avoids s.memo := by
  induction h with
  | fresh => exact ⟨i.faithful_seeded seeds, Trail.empty_avoids _⟩
  | asked part _ ih =>
      have agreed := generate_agrees _ part _ ih.1 ih.2
      exact ⟨agreed.faithful, agreed.avoids⟩
  | begun unknown fresh ruled _ ih => exact ⟨ih.1, ih.2.extend unknown fresh ruled⟩
  | expanded _ ih => exact ih
  | matched _ ih => exact ih

/-- In every state, also inside a request, a part comes to what it comes to without memory. -/
theorem Reachable.generate_eq (h : i.Reachable seeds trail s) (part : String) :
    ((i.generate trail part).outcome s).1 = i.evaluate seeds trail part :=
  (generate_agrees trail part s h.sound.1 h.sound.2).same.symm

/-- What each request keeps, if it holds at first, holds after all of them. -/
theorem after_keeps {I : Session → Prop} {history : List String} (start : I (.seeded seeds))
    (step : ∀ part ∈ history, ∀ s, i.Reachable seeds .empty s → I s →
      I ((i.generate .empty part).outcome s).2) :
    I ((Inflector.fresh i seeds).after history).session := by
  suffices ∀ f : Inflector, f.inventory = i → i.Reachable seeds .empty f.session → I f.session →
      I (f.after history).session from this _ rfl .fresh start
  induction history with
  | nil => exact fun _ _ _ h => h
  | cons part history ih =>
      obtain ⟨here, rest⟩ := List.forall_mem_cons.mp step
      rintro f rfl reachable h
      exact ih rest (f.generate part).2 rfl (reachable.asked part) (here _ reachable h)

theorem reachable_after (i : Inventory) (seeds : List (String × String)) (history : List String) :
    i.Reachable seeds .empty ((Inflector.fresh i seeds).after history).session :=
  after_keeps .fresh fun part _ _ reachable _ => reachable.asked part

/-- Between requests an inflector answers as evaluation without memory does. -/
theorem Reachable.answer {f : Inflector} (h : i.Reachable seeds .empty f.session)
    (same : f.inventory = i) (part : String) :
    (f.generate part).1 = i.evaluate seeds .empty part := by
  subst same
  exact h.generate_eq part

/-- What holds of the answers to requests in a row holds of what the parts come to alone. -/
theorem forall_of_answers (P : Except Halt (List String) → Prop) {history : List String}
    (answers : ∀ before part after, history = before ++ part :: after →
      P (((Inflector.fresh i seeds).after before).generate part).1) :
    ∀ part ∈ history, P (i.evaluate seeds .empty part) := by
  intro part member
  obtain ⟨before, after, split⟩ := List.append_of_mem member
  have same := (reachable_after i seeds before).answer (Inflector.inventory_after _ before) part
  exact same ▸ answers before part after split

/-- After any requests, answered or failed, a part has the forms or the error that it has when it is
evaluated without memory: memory never shows, and a part that failed fails in the same way again. -/
theorem generate_after_eq_evaluate (i : Inventory) (seeds : List (String × String))
    (history : List String) (part : String) :
    (((Inflector.fresh i seeds).after history).generate part).1 =
      i.evaluate seeds .empty part :=
  (reachable_after i seeds history).answer (Inflector.inventory_after _ history) part

/-! ## A sample category -/

/-- Some parts of a strong verb: two grades of its stem, two shapes of its past, and parts without
forms, for a value that does not match or a name that has no rules. -/
def strongRules : Repository :=
  .ofList [("strong", { rules := .ofList [
    ("grade", .many [.template "{stem}", .rewrite ⟨"stem", "(b)ind", "\\1and"⟩]),
    ("past", .many [.template "{grade}on", .template "{grade}e-{grade}"]),
    ("mood", .one (.rewrite ⟨"past", "(.*)on", "\\1"⟩)),
    ("tense", .one (.template "to {mood}")),
    ("lost", .one (.template "{grade}{nowhere}"))] })]

/-- The inventory of the strong verbs. -/
def strongVerbs : Inventory :=
  ((Grammar.compile strongRules).bind (resolve · "strong")).toOption.getD ⟨"", [], .empty⟩

/-- The state after a request for a part of the verb that fails. -/
def afterLost : Session :=
  ((strongVerbs.generate .empty "lost").outcome (.seeded [("stem", "bind")])).2

theorem reachable_afterLost : strongVerbs.Reachable [("stem", "bind")] .empty afterLost :=
  .asked "lost" .fresh

end Inventory

end Paradigm
