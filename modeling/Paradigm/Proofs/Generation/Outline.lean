import Mathlib.Data.List.Infix
import Paradigm.Proofs.Generation.Engine

/-!
# The outline of the computed parts

Parts are listed in the order in which they were begun, each with its depth. Main statement: the list
is the outline of a tree, that of the calls: no line is more than one level below the line before
it, and the nearest line before it that is one level above has the part that asked for it.
-/

namespace Paradigm

/-- The computed parts with their depths, in the order in which they were begun. -/
def Session.outline (s : Session) : List (String × Nat) :=
  s.stats.computed.map fun trace => (trace.part, trace.depth)

namespace Outline

/-- The part of the nearest line one level above a line. -/
def above? (before : List (String × Nat)) (depth : Nat) : Option String :=
  (before.reverse.find? (·.2 + 1 = depth)).map Prod.fst

/-- The parts above the end of an outline, and the part of its last line. -/
def path (outline : List (String × Nat)) : List String :=
  outline.foldl (fun path line => path.take line.2 ++ [line.1]) []

theorem path_concat (outline : List (String × Nat)) (line : String × Nat) :
    path (outline ++ [line]) = (path outline).take line.2 ++ [line.1] := by
  rw [path, List.foldl_append]
  rfl

/-- No line is deeper than one level below the line before it. -/
def Stepwise (outline : List (String × Nat)) : Prop :=
  ∀ before line after, outline = before ++ line :: after → line.2 ≤ (path before).length

theorem Stepwise.of_append {outline more : List (String × Nat)} (h : Stepwise (outline ++ more)) :
    Stepwise outline := fun before line after split =>
  h before line (after ++ more) (by rw [split, List.append_assoc, List.cons_append])

theorem Stepwise.concat {outline : List (String × Nat)} {line : String × Nat}
    (h : Stepwise outline) (step : line.2 ≤ (path outline).length) :
    Stepwise (outline ++ [line]) := by
  intro before line' after split
  rcases List.eq_nil_or_concat after with rfl | ⟨after, last, rfl⟩
  · obtain ⟨rfl, same⟩ := List.append_inj' split rfl
    cases same
    exact step
  · rw [List.concat_eq_append, ← List.cons_append, ← List.append_assoc] at split
    exact h before line' after (List.append_inj' split rfl).1

theorem length_path_concat {outline : List (String × Nat)} {line : String × Nat}
    (h : Stepwise (outline ++ [line])) : (path (outline ++ [line])).length = line.2 + 1 := by
  have step := h outline line [] rfl
  rw [path_concat, List.length_append, List.length_take, Nat.min_eq_left step]
  rfl

/-- The path of an outline is one level longer than its last line is deep. -/
theorem length_path {outline : List (String × Nat)} (h : Stepwise outline) :
    (path outline).length = (outline.getLast?.map (·.2 + 1)).getD 0 := by
  rcases List.eq_nil_or_concat outline with rfl | ⟨outline, line, rfl⟩
  · rfl
  · rw [List.concat_eq_append] at h ⊢
    rw [length_path_concat h, List.getLast?_concat]
    rfl

/-- On each level of the path stands the nearest line of this level. -/
theorem getElem?_path {outline : List (String × Nat)} (h : Stepwise outline) {depth : Nat}
    (within : depth < (path outline).length) :
    (path outline)[depth]? = above? outline (depth + 1) := by
  induction outline using List.reverseRecOn with
  | nil => exact absurd within (Nat.not_lt_zero _)
  | append_singleton outline line ih =>
      have step := h outline line [] rfl
      rw [length_path_concat h] at within
      have length : ((path outline).take line.2).length = line.2 := by
        rw [List.length_take, Nat.min_eq_left step]
      rw [path_concat, above?, List.reverse_append, List.reverse_singleton, List.singleton_append]
      rcases Nat.lt_or_eq_of_le (Nat.le_of_lt_succ within) with less | rfl
      · have other : ¬ line.2 + 1 = depth + 1 := by omega
        rw [List.getElem?_append_left (by omega), List.getElem?_take_of_lt less,
          List.find?_cons_of_neg (by simpa using other)]
        exact ih h.of_append (Nat.lt_of_lt_of_le less step)
      · rw [List.find?_cons_of_pos (by simp), List.getElem?_append_right (by omega), length]
        simp

/-- What stands on a stack along the path of an outline was asked for by the nearest line above. -/
theorem getLast?_of_prefix {outline : List (String × Nat)} (h : Stepwise outline)
    {stack : List String} (along : stack <+: path outline) :
    stack.getLast? = above? outline stack.length := by
  rcases List.eq_nil_or_concat stack with rfl | ⟨stack, part, rfl⟩
  · simp [above?]
  · rw [List.concat_eq_append] at along ⊢
    obtain ⟨rest, split⟩ := along
    have within : stack.length < (path outline).length := by
      rw [← split, List.length_append, List.length_append, List.length_singleton]
      omega
    have found : (path outline)[stack.length]? = some part := by simp [← split]
    rw [List.getLast?_concat, List.length_append, List.length_singleton, ← getElem?_path h within,
      found]

end Outline

/-! ## What sessions do to their outline -/

@[simp] theorem Session.outline_begin (s : Session) (part : String) (depth rules : Nat) :
    (s.begin part depth rules).outline = s.outline ++ [(part, depth)] := by
  simp [outline, begin]

@[simp] theorem Session.outline_finish (s : Session) (part : String) (slot : Nat)
    (forms : List String) : (s.finish part slot forms).outline = s.outline := by
  refine List.ext_getElem? fun n => ?_
  simp only [outline, finish, Stats.record, List.getElem?_map, List.getElem?_modify]
  rcases s.stats.computed[n]? with _ | trace
  · rfl
  · by_cases here : slot = n <;> simp [here]

/-- The parts of the outline are known, or they are among those that are named. -/
def Session.Settled (names : List String) (s : Session) : Prop :=
  ∀ line ∈ s.outline, (s.memo.get? line.1).isSome ∨ line.1 ∈ names

namespace Session.Settled

variable {names : List String} {s : Session}

theorem begin (h : s.Settled names) (part : String) (depth rules : Nat) :
    (s.begin part depth rules).Settled (names ++ [part]) := by
  intro line member
  rw [outline_begin] at member
  rcases List.mem_append.mp member with member | member
  · exact (h line member).imp_right (List.mem_append_left _)
  · rw [List.mem_singleton.mp member]
    exact .inr (List.mem_append_right _ List.mem_cons_self)

theorem finish {part : String} (h : s.Settled (names ++ [part])) (slot : Nat)
    (forms : List String) : (s.finish part slot forms).Settled names := by
  intro line member
  rw [outline_finish] at member
  show ((s.memo.insert part forms).get? line.1).isSome ∨ _
  rw [SortedMap.get?_insert]
  by_cases here : line.1 = part
  · rw [if_pos here]
    exact .inl rfl
  · rw [if_neg here]
    refine (h line member).imp_right fun inside => ?_
    exact (List.mem_append.mp inside).resolve_right fun last => here (List.mem_singleton.mp last)

end Session.Settled

namespace Inventory

open Halting Outline

variable {i : Inventory}

/-- The call began the line of an outline: with the lines before it in the outline, as deep as the
stack was high, asked for by the part of the nearest line above, and the line stayed. -/
structure Opens (c : Call) (before : List (String × Nat)) (part : String) (depth : Nat) :
    Prop where
  asked : c.part = part
  level : c.before.stack.length = depth
  start : c.before.session.outline = before
  stays : before ++ [(part, depth)] <+: c.after.session.outline
  asker : c.before.stack.getLast? = above? before depth

/-- The stack follows the path of the outline. -/
structure Plotted (m : Run) : Prop where
  stepwise : Stepwise m.session.outline
  along : m.stack <+: path m.session.outline

/-- From a plotted run to a plotted one, with the same stack; each line that was added to the outline
was begun by a call that is over. -/
structure Charted (m m' : Run) : Prop where
  plotted : Plotted m'
  stack : m'.stack = m.stack
  grows : m.session.outline <+: m'.session.outline
  calls : m.calls <+: m'.calls
  opened : ∀ before part depth after, m'.session.outline = before ++ (part, depth) :: after →
    m.session.outline.length ≤ before.length → ∃ c ∈ m'.calls, Opens c before part depth

/-- What is done from plotted runs on charts. -/
def Charts (m : Run) (_ : Except Halt Unit) (m' : Run) : Prop := Plotted m → Charted m m'

theorem Charted.of_same {m m' : Run} (plotted : Plotted m) (stack : m'.stack = m.stack)
    (outline : m'.session.outline = m.session.outline) (calls : m.calls <+: m'.calls) :
    Charted m m' where
  plotted := ⟨outline ▸ plotted.stepwise, stack ▸ outline ▸ plotted.along⟩
  stack := stack
  grows := outline ▸ List.prefix_rfl
  calls := calls
  opened before part depth after split beyond := by
    have short := congrArg List.length split
    rw [outline, List.length_append, List.length_cons] at short
    omega

theorem Charted.trans {m m' m'' : Run} (h : Charted m m') (h' : Charted m' m'') :
    Charted m m'' where
  plotted := h'.plotted
  stack := h'.stack.trans h.stack
  grows := h.grows.trans h'.grows
  calls := h.calls.trans h'.calls
  opened before part depth after split beyond := by
    rcases Nat.lt_or_ge before.length m'.session.outline.length with early | late
    · obtain ⟨more, grown⟩ := h'.grows
      obtain ⟨after, split⟩ : ∃ after, m'.session.outline = before ++ (part, depth) :: after := by
        rw [← grown] at split
        rcases List.append_eq_append_iff.mp split with ⟨_, same, _⟩ | ⟨lines, same, split⟩
        · have short := congrArg List.length same
          rw [List.length_append] at short
          omega
        · cases lines with
          | nil => simp [same] at early
          | cons line lines =>
              cases split
              exact ⟨lines, same⟩
      obtain ⟨c, member, opens⟩ := h.opened before part depth after split beyond
      exact ⟨c, h'.calls.subset member, opens⟩
    · exact h'.opened before part depth after split late

theorem composes_charts (i : Inventory) : i.Composes Charts where
  refl _ plotted := .of_same plotted rfl rfl List.prefix_rfl
  trans _ _ _ _ first second plotted := (first plotted).trans (second (first plotted).plotted)
  refuse _ _ plotted := .of_same plotted rfl rfl List.prefix_rfl
  giveUp _ plotted := .of_same plotted rfl rfl List.prefix_rfl
  countExpansion _ plotted := .of_same plotted rfl rfl List.prefix_rfl
  countMatch _ plotted := .of_same plotted rfl rfl List.prefix_rfl

/-! ## Calls -/

theorem Plotted.enter {m : Run} (h : Plotted m) (part : String) (rules : Nat) :
    Plotted (m.enter part rules) := by
  have short := h.along.length_le
  have stands : path (m.session.outline ++ [(part, m.stack.length)]) = m.stack ++ [part] := by
    rw [path_concat, ← List.prefix_iff_eq_take.mp h.along]
  constructor
  · rw [Run.enter, Session.outline_begin]
    exact h.stepwise.concat short
  · rw [Run.enter, Session.outline_begin, stands]

/-- A part was computed: the call that did so began the line that is there first. -/
theorem Charted.log {m m' : Run} {part : String} {rules : Nat} (m'' : Run) (c : Call)
    (plotted : Plotted m) (inner : Charted (m.enter part rules) m')
    (stack : m''.stack = m'.stack.dropLast)
    (outline : m''.session.outline = m'.session.outline) (calls : m''.calls = m'.calls)
    (asked : c.part = part) (stack' : c.before.stack = m.stack)
    (outline' : c.before.session.outline = m.session.outline)
    (ends : c.after.session.outline = m''.session.outline) : Charted m (m''.log c) := by
  have left : m''.stack = m.stack := by
    rw [stack, inner.stack, Run.enter, List.dropLast_concat]
  have grown : m.session.outline ++ [(part, m.stack.length)] <+: m'.session.outline := by
    have grows := inner.grows
    rwa [Run.enter, Session.outline_begin] at grows
  have logged : m.calls <+: (m''.log c).calls := by
    rw [Run.log, calls]
    exact inner.calls.trans (List.prefix_append _ _)
  refine ⟨⟨?_, ?_⟩, left, ?_, logged, ?_⟩
  · exact outline ▸ inner.plotted.stepwise
  · show m''.stack <+: path m''.session.outline
    rw [left, outline]
    refine List.IsPrefix.trans (List.prefix_append _ [part]) ?_
    have along := inner.plotted.along
    rwa [inner.stack, Run.enter] at along
  · exact outline ▸ (List.prefix_append _ _).trans grown
  · intro before p depth rest split beyond
    have split : m'.session.outline = before ++ (p, depth) :: rest := outline ▸ split
    rcases Nat.lt_or_eq_of_le beyond with later | first
    · have beyond : (m.enter part rules).session.outline.length ≤ before.length := by
        rw [Run.enter, Session.outline_begin, List.length_append]
        exact later
      obtain ⟨c', member, opens⟩ := inner.opened before p depth rest split beyond
      exact ⟨c', List.mem_append_left _ (calls ▸ member), opens⟩
    · obtain ⟨more, grown⟩ := grown
      rw [split, List.append_assoc] at grown
      obtain ⟨rfl, same⟩ := List.append_inj grown first
      cases same
      refine ⟨c, List.mem_append_right _ List.mem_cons_self, asked, by rw [stack'], outline', ?_, ?_⟩
      · exact ⟨more, by rw [ends, outline, split, List.append_assoc]; rfl⟩
      · rw [stack']
        exact getLast?_of_prefix plotted.stepwise plotted.along

/-- What is charted after a request was noted is so from before. -/
theorem Charted.of_ask {m m' : Run} {part : String} (h : Charted (m.ask part) m') : Charted m m' :=
  ⟨h.plotted, h.stack, h.grows, h.calls, h.opened⟩

theorem charts_call (i : Inventory) (room : Nat) (part : String) :
    Follows Charts (i.call room part) := by
  induction room generalizing part with
  | zero => exact fun _ plotted => .of_same plotted rfl rfl List.prefix_rfl
  | succ room ih =>
      intro m plotted
      have asked : Plotted (m.ask part) := ⟨plotted.stepwise, plotted.along⟩
      have logged : ∀ c : Call, m.calls <+: m.calls ++ [c] := fun _ => List.prefix_append _ _
      rw [outcome_call]
      rcases known : (m.ask part).session.memo.get? part with _ | found
      · by_cases begun : part ∈ (m.ask part).stack
        · rw [answer_of_begun known begun]
          exact .of_same plotted rfl rfl (logged _)
        rcases ruled : i.rules? part with _ | rules
        · rw [answer_of_unruled known begun ruled]
          exact .of_same plotted rfl rfl (logged _)
        · rw [answer_of_ruled known begun ruled]
          have inner := i.composes_charts.rules ih rules ((m.ask part).enter part rules.length)
            (asked.enter part rules.length)
          generalize Halting.outcome _ ((m.ask part).enter part rules.length) = r at inner ⊢
          rcases r with ⟨halt | results, m'⟩
          · let c : Call := ⟨part, m.toEngine, .error halt, m'.leave.toEngine⟩
            exact (Charted.log m'.leave c asked inner rfl rfl rfl rfl rfl rfl rfl).of_ask
          · let forms := distinctForms results
            let m'' := m'.leave.update fun s =>
              s.finish part (m.ask part).session.stats.computed.length forms
            let c : Call := ⟨part, m.toEngine, .ok forms, m''.toEngine⟩
            have same : m''.session.outline = m'.session.outline := Session.outline_finish ..
            exact (Charted.log m'' c asked inner rfl same rfl rfl rfl rfl rfl).of_ask
      · rw [answer_of_known known]
        exact .of_same plotted rfl rfl (logged _)

/-- After any requests, the computed parts are the outline of the calls: each line is at most one
level deeper than the one before it, and was begun by a call that was made when the lines before it
were there, by the part of the nearest of these lines that is one level above. -/
theorem outline_of_calls (i : Inventory) (seeds : List (String × String)) (history : List String)
    {before after : List (String × Nat)} {part : String} {depth : Nat}
    (split : (i.run seeds history).session.outline = before ++ (part, depth) :: after) :
    depth ≤ (before.getLast?.map (·.2 + 1)).getD 0 ∧
      ∃ c ∈ (i.run seeds history).calls, Opens c before part depth := by
  have charted : ∀ m : Run, Plotted m → Charted m (i.callAll m history) := by
    clear split
    induction history with
    | nil => exact i.composes_charts.refl
    | cons part history ih =>
        intro m plotted
        have first := i.charts_call (i.partNames.length + 1) part m plotted
        exact first.trans (ih _ first.plotted)
  have start : Plotted { session := .seeded seeds } := by
    refine ⟨fun before line after empty => ?_, List.prefix_rfl⟩
    exact absurd empty.symm (List.append_ne_nil_of_right_ne_nil before (List.cons_ne_nil line after))
  have whole := charted _ start
  have stepwise := whole.plotted.stepwise
  have step := stepwise before (part, depth) after split
  rw [length_path (Stepwise.of_append (split ▸ stepwise))] at step
  exact ⟨step, whole.opened before part depth after split (Nat.zero_le _)⟩

example : (strongVerbs.run [("stem", "bind")] ["lost", "tense"]).session.outline =
    [("lost", 0), ("grade", 1), ("tense", 0), ("mood", 1), ("past", 2)] := by decide +kernel

end Inventory

end Paradigm
