import Paradigm.Proofs.Generation.Derivation

/-!
# Requests that rules make

Evaluation without memory is run once more with a journal of the parts it asks for. Where rules
fail, the last request in the journal has no answer, or a rule itself refuses to go on.
-/

namespace Paradigm

/-! ## How computations fail -/

namespace Halting

variable {σ α β : Type} {P : Error → σ → Prop}

/-- What holds of the error and of the state, whenever the computation fails. -/
def FailsAs (P : Error → σ → Prop) (x : Halting σ α) : Prop :=
  ∀ s e s', x.outcome s = (.error (.failed e), s') → P e s'

theorem FailsAs.pure (a : α) : FailsAs P (Pure.pure a : Halting σ α) := by
  intro s e s' failed
  cases failed

theorem FailsAs.modify (f : σ → σ) : FailsAs P (modify f : Halting σ Unit) := by
  intro s e s' failed
  cases failed

theorem FailsAs.outOfFuel : FailsAs P (throw .outOfFuel : Halting σ α) := by
  intro s e s' failed
  cases failed

theorem FailsAs.of_bind {x : Halting σ α} {f : α → Halting σ β} (h : FailsAs P x)
    (h' : ∀ s a s', x.outcome s = (.ok a, s') →
      ∀ e s'', (f a).outcome s' = (.error (.failed e), s'') → P e s'') : FailsAs P (x >>= f) := by
  intro s e s'' failed
  rw [outcome_bind] at failed
  rcases first : x.outcome s with ⟨halt | a, s'⟩ <;> rw [first] at failed
  · cases failed
    exact h s e _ first
  · exact h' s a s' first e s'' failed

theorem FailsAs.bind {x : Halting σ α} {f : α → Halting σ β} (h : FailsAs P x)
    (h' : ∀ a, FailsAs P (f a)) : FailsAs P (x >>= f) :=
  h.of_bind fun _ a s' _ => h' a s'

/-- A list of computations fails as the first of them that fails. -/
theorem FailsAs.mapM_first {f : α → Halting σ β} {l : List α}
    (h : ∀ before a after, l = before ++ a :: after →
      (∀ b ∈ before, ∃ s, ((f b).outcome s).1.isOk) → FailsAs P (f a)) :
    FailsAs P (l.mapM f) := by
  induction l with
  | nil => exact .pure _
  | cons a l ih =>
      rw [List.mapM_cons]
      refine (h [] a l rfl nofun).of_bind fun s b s' done => ?_
      refine (ih fun before c after split passed => ?_).bind (fun _ => .pure _) s'
      refine h (a :: before) c after (congrArg (a :: ·) split) ?_
      exact List.forall_mem_cons.mpr ⟨⟨s, by rw [done]; rfl⟩, passed⟩

theorem FailsAs.mapM {f : α → Halting σ β} {l : List α} (h : ∀ a ∈ l, FailsAs P (f a)) :
    FailsAs P (l.mapM f) :=
  .mapM_first fun _ a _ split _ => h a (by simp [split])

theorem FailsAs.settle {attempt : Nat → Halting σ α} (h : ∀ fuel, FailsAs P (attempt fuel)) :
    FailsAs P (Halting.settle attempt) := by
  intro s e s' failed
  obtain ⟨fuel, found⟩ := settle_eq_attempt attempt s
  exact h fuel s e s' (found ▸ failed)

end Halting

namespace Inventory

open Halting

/-! ## The journal -/

/-- What rules may do where every request is written down before it is answered. -/
def recordingDemand (i : Inventory) (trail : List String)
    (answers : String → Except Halt (List String)) : Demand (Halting (List String)) where
  forms part := do
    modify (· ++ [part])
    match answers part with
    | .ok forms => return forms
    | .error halt => throw halt
  refuse fault := throw (i.refusal trail fault)
  giveUp := throw .outOfFuel
  settle := Halting.settle
  countExpansion := return
  countMatch := return

/-- The parts that the rules of the last part of a trail ask for, in the order of the requests. -/
def requests (i : Inventory) (seeds : List (String × String)) (trail : Trail i)
    (rules : List Rule) : List String :=
  (((i.recordingDemand trail.parts (i.evaluate seeds trail)).rules rules).outcome []).2

section

variable {i : Inventory} {seeds : List (String × String)} {trail : List String}
  {answers : String → Except Halt (List String)}

theorem outcome_forms_recording (part : String) (journal : List String) :
    ((i.recordingDemand trail answers).forms part).outcome journal =
      (answers part, journal ++ [part]) := by
  simp only [recordingDemand, outcome_bind, outcome_modify]
  cases answers part <;> rfl

/-- The journal changes nothing. -/
theorem related_recording (i : Inventory) (trail : List String)
    (answers : String → Except Halt (List String)) :
    Demand.Related (fun _ x y => ∀ journal, (x.outcome journal).1 = y ())
      (i.recordingDemand trail answers) fun _ : Unit => i.directDemand trail answers where
  pure _ _ := rfl
  bind {_ _ x y f g} h h' journal := by
    show _ = y () >>= g ()
    rw [outcome_bind, ← h journal]
    rcases x.outcome journal with ⟨halt | a, journal'⟩
    · rfl
    · exact h' a journal'
  forms part journal := congrArg Prod.fst (outcome_forms_recording part journal)
  refuse _ _ := rfl
  giveUp _ := rfl
  expand _ h journal := by
    have settled := Halting.settle_related (fun r direct => r.1 = direct)
      (fun fuel => (h fuel journal).symm) fun fuel => h fuel journal
    exact settled
  countExpansion _ := rfl
  countMatch _ := rfl

theorem outcome_rules_recording (i : Inventory) (trail : List String)
    (answers : String → Except Halt (List String)) (rules : List Rule) (journal : List String) :
    (((i.recordingDemand trail answers).rules rules).outcome journal).1 =
      (i.directDemand trail answers).rules rules :=
  (i.related_recording trail answers).rules rules journal

end

/-! ## Why rules fail -/

/-- A text that an expansion of the template comes to, and how many of the forms that were put in
on the way brought placeholders along. -/
inductive Inserted (i : Inventory) (seeds : List (String × String)) (template : List Char) :
    Nat → List Char → Prop where
  | start : Inserted i seeds template 0 template
  | insert {depth : Nat} {text name : List Char} {value : String}
    (reached : Inserted i seeds template depth text)
    (first : Placeholder.first? text = some name)
    (derives : Derives i seeds (String.ofList name) value) :
    Inserted i seeds template (depth + if Placeholder.occurs value.toList then 1 else 0)
      (Placeholder.fill name value.toList text)

/-- A fault of the rules themselves: the least of the forms of a source that do not match, or a text
with placeholders after as many insertions of placeholders as are allowed. -/
inductive Refuses (i : Inventory) (seeds : List (String × String))
    (answers : String → Except Halt (List String)) (rules : List Rule) : Fault → Prop where
  | mismatch {s : Substitution} {forms : List String} {value : String}
    (member : .substitution s ∈ rules) (answered : answers s.source = .ok forms)
    (inside : value ∈ forms) (unmatched : s.regex.find? value = none)
    (least : ∀ form ∈ forms, s.regex.find? form = none → value ≤ form) :
    Refuses i seeds answers rules (.patternMismatch s.source value s.pattern)
  | tooDeep {template : String} {text : List Char} (member : .pattern template ∈ rules)
    (reached : Inserted i seeds template.toList expansionLimit text)
    (left : Placeholder.occurs text = true) :
    Refuses i seeds answers rules (.expansionTooDeep (String.ofList text) expansionLimit)

section

variable {i : Inventory} {seeds : List (String × String)} {trail : List String}
  {answers : String → Except Halt (List String)} {rules : List Rule}

/-- The error is that of the last request, or a fault of the rules. -/
def Blames (i : Inventory) (seeds : List (String × String)) (trail : List String)
    (answers : String → Except Halt (List String)) (rules : List Rule) (e : Error)
    (journal : List String) : Prop :=
  (∃ part, journal.getLast? = some part ∧ answers part = .error (.failed e)) ∨
    ∃ fault, i.Refuses seeds answers rules fault ∧ .failed e = i.refusal trail fault

theorem fails_forms (part : String) :
    FailsAs (i.Blames seeds trail answers rules)
      ((i.recordingDemand trail answers).forms part) := by
  intro journal e journal' failed
  rw [outcome_forms_recording] at failed
  obtain ⟨unanswered, rfl⟩ := Prod.mk.inj failed
  exact .inl ⟨part, List.getLast?_concat, unanswered⟩

theorem fails_refuse {fault : Fault} {α : Type} (h : i.Refuses seeds answers rules fault) :
    FailsAs (i.Blames seeds trail answers rules)
      ((i.recordingDemand trail answers).refuse fault : Halting _ α) := by
  intro journal e journal' failed
  cases failed
  exact .inr ⟨fault, h, rfl⟩

theorem fails_expandWithin (complete : i.Complete seeds answers) {template : String}
    (member : .pattern template ∈ rules) {fuel depth : Nat} {text : List Char}
    (reached : i.Inserted seeds template.toList depth text) (within : depth ≤ expansionLimit) :
    FailsAs (i.Blames seeds trail answers rules)
      ((i.recordingDemand trail answers).expandWithin fuel depth text) := by
  induction fuel generalizing depth text with
  | zero => exact .outOfFuel
  | succ fuel ih =>
      simp only [Demand.expandWithin]
      cases first : Placeholder.first? text with
      | none => exact .pure _
      | some name =>
          simp only
          split
          · rename_i limited
            obtain rfl := Nat.le_antisymm within limited
            exact fails_refuse (.tooDeep member reached (by simp [Placeholder.occurs, first]))
          · rename_i free
            refine (fails_forms _).of_bind fun journal values journal' asked => ?_
            rw [outcome_forms_recording] at asked
            have answered := (Prod.mk.inj asked).1
            have derives := complete _ values answered
            refine (FailsAs.mapM fun value chosen => ?_).bind (fun _ => .pure _) journal'
            refine FailsAs.bind (.pure _) fun _ => ?_
            refine ih (.insert reached first ((derives value).mp chosen)) ?_
            split <;> omega

/-- The forms are tried in order, so the first one that fails is the least of those that do. -/
theorem fails_substitute
    (increasing : ∀ part forms, answers part = .ok forms → forms.Pairwise (· < ·))
    {s : Substitution} (member : .substitution s ∈ rules) :
    FailsAs (i.Blames seeds trail answers rules)
      ((i.recordingDemand trail answers).substitute s) := by
  refine (fails_forms _).of_bind fun journal values journal' asked => ?_
  rw [outcome_forms_recording] at asked
  have answered := (Prod.mk.inj asked).1
  have ordered := increasing _ values answered
  refine (FailsAs.mapM_first fun before value after split passed => ?_) journal'
  refine FailsAs.bind (.pure _) fun _ => ?_
  cases unmatched : s.regex.find? value with
  | some found => exact .pure _
  | none =>
      refine fails_refuse (.mismatch member answered (by simp [split]) unmatched ?_)
      intro form inside failing
      rw [split] at inside ordered
      rcases List.mem_append.mp inside with inside | inside
      · obtain ⟨journal, matched⟩ := passed form inside
        simp [Demand.rewrite, failing, recordingDemand, Except.isOk, Except.toBool] at matched
      · rcases List.mem_cons.mp inside with rfl | inside
        · exact String.le_refl _
        · have later := List.pairwise_cons.mp (List.pairwise_append.mp ordered).2.1
          exact String.not_lt.mp (String.lt_asymm (later.1 form inside))

theorem fails_rules (complete : i.Complete seeds answers)
    (increasing : ∀ part forms, answers part = .ok forms → forms.Pairwise (· < ·)) :
    FailsAs (i.Blames seeds trail answers rules)
      ((i.recordingDemand trail answers).rules rules) := by
  refine (FailsAs.mapM fun rule member => ?_).bind fun _ => .pure _
  cases rule with
  | pattern template =>
      show FailsAs _ (Halting.settle fun fuel =>
        (i.recordingDemand trail answers).expandWithin fuel 0 template.toList)
      exact .settle fun fuel => fails_expandWithin complete member .start (Nat.zero_le _)
  | substitution s => exact fails_substitute increasing member

end

/-- The evaluation of rules fails because the last part they ask for does, or because a rule
refuses. -/
theorem error_of_rules {i : Inventory} {seeds : List (String × String)} {trail : Trail i}
    {rules : List Rule} {e : Error}
    (failed : (i.directAt seeds trail).rules rules =
      .error (.failed e)) :
    (∃ part, (i.requests seeds trail rules).getLast? = some part ∧
        i.evaluate seeds trail part = .error (.failed e)) ∨
      ∃ fault, i.Refuses seeds (i.evaluate seeds trail) rules fault ∧
        .failed e = i.refusal trail.parts fault := by
  have recorded := i.outcome_rules_recording trail.parts (i.evaluate seeds trail) rules []
  rw [failed] at recorded
  exact fails_rules (complete_evaluate trail) (fun _ _ => evaluate_increasing) [] e _
    (Prod.ext recorded rfl)

end Inventory

end Paradigm
