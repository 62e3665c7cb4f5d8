import Paradigm.Proofs.Regex.Atoms

/-!
# Enclosed patterns

A pattern that reads by itself is read alike when it is enclosed: if the enclosed pattern reads too,
it is a group between the two anchors. Main statement: `read_enclosed`.
-/

namespace Paradigm.Regex

/-- The groups of a part are numbered from one on. -/
def Ast.Numbered (a : Ast) : Prop := ∀ i ∈ a.indices, 1 ≤ i

namespace Reader

variable {n : Nat} {c c' : Cursor}

/-! ## Repetitions -/

theorem abreast_repeated (h : Enclosed n c c') (items items' : List Ast) :
    Abreast n c c' (repeated items) (repeated items') fun _ b d => items' = b.1 :: b.2 ∧ d = c := by
  unfold repeated
  split
  · exact .left (by simp)
  · exact .left (by simp)
  · exact .left (by simp)
  · split
    · exact .right (by simp)
    · exact .right (by simp)
    · exact .right (by simp)
    · exact .pure h ⟨rfl, rfl⟩

theorem abreast_readLazy (h : Enclosed n c c') :
    Abreast n c c' readLazy readLazy fun _ _ _ => True := by
  unfold readLazy
  refine .peek ?_
  refine .both (h.rest.head?_eq (by decide)) (fun mark => ?_) fun _ => .pure h trivial
  have more := ne_nil_of_head? (eq_of_beq mark)
  refine .bind (abreast_pass h more) fun h _ => ?_
  exact .pure (h.mono (Nat.sub_le ..)) trivial

theorem abreast_readSimpleRepetition (h : Enclosed n c c') (more : c.rest ≠ []) (count : Count)
    {items items' : List Ast} (numbered : ∀ a ∈ items', a.Numbered) :
    Abreast (n - 1) c c' (readSimpleRepetition count items) (readSimpleRepetition count items')
      fun _ b _ => ∀ a ∈ b, a.Numbered := by
  unfold readSimpleRepetition
  refine .bind (abreast_repeated h items items') @fun _ (last, before) d _ next split => ?_
  obtain ⟨parts, rfl⟩ := split
  rw [parts] at numbered
  obtain ⟨first, others⟩ := List.forall_mem_cons.mp numbered
  refine .bind (abreast_pass next more) fun h _ => ?_
  refine .bind (abreast_readLazy h) fun h _ => ?_
  exact .position fun _ _ => .pure h (List.forall_mem_cons.mpr ⟨first, others⟩)

theorem abreast_readBounds (h : Enclosed n c c') (more : c.rest ≠ []) (start start' : Nat) :
    Abreast (n - 1) c c' (readBounds start) (readBounds start') fun _ _ _ => True := by
  unfold readBounds
  refine .bind (abreast_bumpSkip h more) fun h _ => ?_
  refine .check (by simp) (by simp) fun _ _ => ?_
  refine .bind (abreast_readDecimal h) fun h _ => ?_
  refine .atEnd ?_
  refine .check (by simp) (by simp) fun more _ => ?_
  refine .peek ?_
  refine .both (h.rest.head?_eq (by decide)) (fun _ => ?_) fun _ => ?_
  · refine .bind (abreast_bumpSkip h (by simpa using more)) fun h _ => ?_
    refine .check (by simp) (by simp) fun _ _ => ?_
    refine .peek ?_
    refine .both ?_ (fun _ => ?_) fun _ => ?_
    · rw [bne, h.rest.head?_eq (by decide), bne]
    · refine .bind (.stays h (stays_orFail _) (stays_orFail _)) fun h _ => ?_
      refine .bind (abreast_readDecimal h) fun h _ => ?_
      refine .bind (.stays h (stays_orFail _) (stays_orFail _)) fun h _ => ?_
      exact .pure (h.mono (by omega)) trivial
    · refine .bind (.stays h (stays_orFail _) (stays_orFail _)) fun h _ => ?_
      exact .pure (h.mono (by omega)) trivial
  · refine .bind (.stays h (stays_orFail _) (stays_orFail _)) fun h _ => ?_
    exact .pure h trivial

theorem abreast_readCountedRepetition (h : Enclosed n c c') (more : c.rest ≠ [])
    {items items' : List Ast} (numbered : ∀ a ∈ items', a.Numbered) :
    Abreast (n - 1) c c' (readCountedRepetition items) (readCountedRepetition items')
      fun _ b _ => ∀ a ∈ b, a.Numbered := by
  unfold readCountedRepetition
  refine .position fun _ _ => ?_
  refine .bind (abreast_repeated h items items') @fun _ (last, before) d _ next split => ?_
  obtain ⟨parts, rfl⟩ := split
  rw [parts] at numbered
  obtain ⟨first, others⟩ := List.forall_mem_cons.mp numbered
  refine .bind (abreast_readBounds next more _ _) fun h _ => ?_
  refine .peek ?_
  refine .check (by simp) (by simp) fun brace _ => ?_
  have more := ne_nil_of_head? (by simpa using brace)
  refine .bind (abreast_bumpSkip h more) fun h _ => ?_
  refine .bind (abreast_readLazy h) fun h _ => ?_
  refine .since fun _ _ => ?_
  refine .check (by simp) (by simp) fun _ _ => ?_
  exact .position fun _ _ =>
    .pure (h.mono (by omega)) (List.forall_mem_cons.mpr ⟨first, others⟩)

/-! ## Groups -/

/-- The flags are the same, whatever their places. -/
def SameFlags (items items' : List FlagItem) : Prop := items'.map (·.flag) = items.map (·.flag)

theorem SameFlags.state {items items' : List FlagItem} (h : SameFlags items items') (flag : Flag)
    (negated : Bool) : flagState? flag items' negated = flagState? flag items negated := by
  induction items generalizing items' negated with
  | nil =>
      cases List.map_eq_nil_iff.mp h
      rfl
  | cons item items ih =>
      obtain ⟨_, named⟩ := item
      obtain ⟨⟨_, _⟩, items', rfl, rfl, rest⟩ := List.map_eq_cons_iff.mp h
      simp only [flagState?, ih rest]

theorem abreast_readFlags (h : Enclosed n c c') (more : c.rest ≠ []) {k k' : Nat}
    {seen seen' : List FlagItem} (same : SameFlags seen seen') (enough : c.rest.length < k)
    (enough' : c'.rest.length < k') :
    Abreast n c c' (readFlags k seen) (readFlags k' seen')
      fun a b d => SameFlags a b ∧ d.rest ≠ [] := by
  induction k generalizing n c c' k' seen seen' with
  | zero => omega
  | succ k ih =>
      obtain ⟨k', rfl⟩ : ∃ less, k' = less + 1 := ⟨k' - 1, by omega⟩
      unfold readFlags
      refine .peekChar h (fun ch more _ => ?_) fun _ nothing => (more nothing).elim
      refine .both rfl (fun _ => ?_) fun _ => ?_
      · have reversed : SameFlags seen.reverse seen'.reverse := by
          rw [SameFlags, List.map_reverse, List.map_reverse, same]
        split
        · exact .left (by simp)
        · split
          · exact .right (by simp)
          · exact .pure h ⟨reversed, more⟩
      · refine .hereChar fun span span' => ?_
        have next (flag : Option Flag) : Abreast n c c'
            (do
              if !(← bump) then failAt (← here) .flagUnexpectedEnd
              readFlags k (⟨span, flag⟩ :: seen))
            (do
              if !(← bump) then failAt (← here) .flagUnexpectedEnd
              readFlags k' (⟨span', flag⟩ :: seen')) fun a b d => SameFlags a b ∧ d.rest ≠ [] := by
          refine .bind (abreast_bump h.tight more) @fun _ _ d _ next ended => ?_
          refine .check (by simp) (by simp) fun left _ => ?_
          obtain ⟨short, short'⟩ := h.shorter more next
          have known : SameFlags (⟨span, flag⟩ :: seen) (⟨span', flag⟩ :: seen') := by
            rw [SameFlags, List.map_cons, List.map_cons, same]
          refine (ih next (by simpa [ended] using left) known (by omega) (by omega)).atMost ?_
          exact Nat.le_trans (Nat.sub_le ..) h.within
        refine .both rfl (fun hyphen => .still rfl rfl ?_) fun letter => ?_
        · simp only [hyphen, if_true]
          split
          · exact .left (by simp)
          split
          · exact .right (by simp)
          · exact next none
        · split
          · refine .still rfl rfl ?_
            simp only [letter, Bool.false_eq_true, if_false]
            split
            · exact .left (by simp)
            split
            · exact .right (by simp)
            · exact next _
          · exact .left (by simp)

theorem abreast_readName (h : Enclosed n c c') {k k' : Nat} (first : Bool)
    (enough : c.rest.length < k) (enough' : c'.rest.length < k') :
    Abreast n c c' (readName k first) (readName k' first) fun _ _ d => d.rest ≠ [] := by
  induction k generalizing n c c' k' first with
  | zero => omega
  | succ k ih =>
      obtain ⟨k', rfl⟩ : ∃ less, k' = less + 1 := ⟨k' - 1, by omega⟩
      unfold readName
      refine .peekChar h (fun ch more _ => ?_) fun _ _ _ => .left (by simp)
      split
      · exact .left (by simp)
      · exact .pure h more
      · rename_i at_head
        cases at_head
        refine .both rfl (fun _ => ?_) fun _ => .left (by simp)
        refine .bind (abreast_pass h.tight more) fun next _ => ?_
        obtain ⟨short, short'⟩ := h.shorter more next
        refine .bind (ih next false (by omega) (by omega)) fun last more => ?_
        exact .pure (h.loosen last) more

/-- Whether blanks count in a group of this kind. -/
def blanksWithin (outer : Bool) : GroupKind → Bool
  | .plain flags => (flagState? .ignoreBlanks flags false).getD outer
  | .capture _ _ => outer

/-- What opens a group means the same for blanks; a group that captures is numbered. -/
inductive Opening.Alike : Opening → Opening → Prop where
  | flags {span span' : Span} {items items' : List FlagItem} (same : SameFlags items items') :
    Alike (.flags span items) (.flags span' items')
  | group {span span' : Span} {kind kind' : GroupKind}
    (blanks : ∀ outer, blanksWithin outer kind' = blanksWithin outer kind)
    (numbered : ∀ index name, kind' = .capture index name → 1 ≤ index) :
    Alike (.group span kind) (.group span' kind')

theorem Opening.Alike.plain {span span' : Span} {items items' : List FlagItem}
    (same : SameFlags items items') :
    Alike (.group span (.plain items)) (.group span' (.plain items')) :=
  .group (fun outer => by rw [blanksWithin, blanksWithin, same.state]) nofun

theorem Opening.Alike.capture {span span' : Span} {index index' : Nat} {name name' : Option String}
    (numbered : 1 ≤ index') :
    Alike (.group span (.capture index name)) (.group span' (.capture index' name')) := by
  refine .group (fun _ => rfl) fun _ _ same => ?_
  cases same
  exact numbered

theorem abreast_nextCapture (h : Enclosed n c c') :
    Abreast n c c' nextCapture nextCapture fun _ b _ => 1 ≤ b := by
  refine .modify (.get (.pure ⟨h.within, h.blanks, h.rest⟩ ?_))
  exact Nat.le_add_left ..

theorem abreast_readNamedGroup (h : Enclosed n c c') (s s' : Span) :
    Abreast n c c' (readNamedGroup s) (readNamedGroup s') fun a b _ => Opening.Alike a b := by
  unfold readNamedGroup
  refine .bind (abreast_nextCapture h) fun h numbered => ?_
  refine .position fun _ _ => ?_
  refine .remaining ?_
  refine .bind (abreast_readName h true (Nat.lt_succ_self _) (Nat.lt_succ_self _)) fun h more => ?_
  refine .since fun _ _ => ?_
  refine .bind (abreast_pass h more) fun h _ => ?_
  refine .check (by simp) (by simp) fun _ _ => ?_
  refine .get ?_
  split
  · exact .left (by simp)
  split
  · exact .right (by simp)
  refine .modify (.pure (Enclosed.mono ⟨h.within, h.blanks, h.rest⟩ (Nat.sub_le ..)) ?_)
  exact .capture numbered

theorem abreast_readFlagGroup (h : Enclosed n c c') (s s' inner inner' : Span) :
    Abreast n c c' (readFlagGroup s inner) (readFlagGroup s' inner')
      fun a b _ => Opening.Alike a b := by
  unfold readFlagGroup
  refine .atEnd ?_
  refine .check (by simp) (by simp) fun more _ => ?_
  refine .remaining ?_
  refine .bind (abreast_readFlags h (by simpa using more) rfl (Nat.lt_succ_self _)
    (Nat.lt_succ_self _)) fun h found => ?_
  obtain ⟨same, more⟩ := found
  refine .peekChar h (fun ch more _ => ?_) fun _ nothing => (more nothing).elim
  refine .bind (abreast_pass h more) fun h _ => ?_
  refine .both rfl (fun _ => ?_) fun _ => ?_
  · refine .check (by simp) (by simp) fun _ _ => ?_
    exact .since fun _ _ => .pure (h.mono (Nat.sub_le ..)) (.flags same)
  · exact .pure (h.mono (Nat.sub_le ..)) (.plain same)

theorem abreast_accept (h : Enclosed n c c') {text : List Char} (other : ∀ ch ∈ text, ch ≠ ')') :
    Abreast n c c' (accept text) (accept text) fun a b _ => b = a := by
  unfold accept
  refine .get ?_
  rcases h.rest.dropPrefix? text other with ⟨left, right⟩ | ⟨rest, rest', left, right, parts, _⟩
  · rw [left, right]
    exact .pure h rfl
  · rw [left, right]
    have within : text.length ≤ c.rest.length := by
      rw [parts, List.length_append]
      exact Nat.le_add_right ..
    refine .bind (abreast_advance h within) fun h _ => ?_
    exact .pure (h.mono (Nat.sub_le ..)) rfl

theorem abreast_refusals (h : Enclosed n c c') (texts : List String)
    (other : ∀ text ∈ texts, ∀ ch ∈ text.toList, ch ≠ ')') (start start' : Nat) :
    Abreast n c c'
      (forIn texts () fun text _ => do
        if ← accept text.toList then failAt (← since start) .lookAround
        return .yield ())
      (forIn texts () fun text _ => do
        if ← accept text.toList then failAt (← since start') .lookAround
        return .yield ()) fun _ _ _ => True := by
  induction texts generalizing c c' with
  | nil => exact .pure h trivial
  | cons text texts ih =>
      obtain ⟨first, others⟩ := List.forall_mem_cons.mp other
      rw [List.forIn_cons, List.forIn_cons]
      have step : Abreast n c c'
          (do
            if ← accept text.toList then failAt (← since start) .lookAround
            return ForInStep.yield ())
          (do
            if ← accept text.toList then failAt (← since start') .lookAround
            return ForInStep.yield ()) fun a b _ => a = .yield () ∧ b = .yield () := by
        refine .bind (abreast_accept h first) fun h _ => ?_
        exact .check (by simp) (by simp) fun _ _ => .pure h ⟨rfl, rfl⟩
      refine .bind step @fun a b d d' h went => ?_
      obtain ⟨rfl, rfl⟩ := went
      exact ih h others

theorem abreast_readOpening (h : Enclosed n c c') (more : c.rest ≠ []) :
    Abreast (n - 1) c c' readOpening readOpening fun a b _ => Opening.Alike a b := by
  unfold readOpening
  refine .hereChar fun _ _ => ?_
  refine .bind (abreast_pass h more) fun h _ => ?_
  refine .bind (abreast_skipBlanks h) fun h _ => ?_
  refine .bind (abreast_refusals h _ (by simp) _ _) fun h _ => ?_
  refine .here fun _ _ => ?_
  refine .bind (abreast_accept h (by simp)) fun h same => ?_
  refine .both same (fun _ => abreast_readNamedGroup h _ _) fun _ => ?_
  refine .bind (abreast_accept h (by simp)) fun h same => ?_
  refine .both same (fun _ => abreast_readNamedGroup h _ _) fun _ => ?_
  refine .bind (abreast_accept h (by simp)) fun h same => ?_
  refine .both same (fun _ => abreast_readFlagGroup h _ _ _ _) fun _ => ?_
  refine .bind (abreast_nextCapture h) fun h numbered => ?_
  exact .pure h (.capture numbered)

/-! ## The whole pattern -/

theorem abreast_readPrimitive (h : Enclosed n c c') (more : c.rest ≠ []) (ch : Char) :
    Abreast (n - 1) c c' (readPrimitive ch) (readPrimitive ch) fun _ b _ => b.indices = [] := by
  unfold readPrimitive
  refine .both rfl (fun _ => abreast_readEscape h more) fun _ => ?_
  refine .hereChar fun _ _ => ?_
  refine .bind (abreast_pass h more) fun h _ => ?_
  refine .both rfl (fun _ => .pure h rfl) fun _ => ?_
  refine .both rfl (fun _ => .pure h rfl) fun _ => ?_
  exact .both rfl (fun _ => .pure h rfl) fun _ => .pure h rfl

theorem mem_indicesAll {asts : List Ast} {i : Nat} :
    i ∈ Ast.indicesAll asts ↔ ∃ a ∈ asts, i ∈ a.indices := by
  induction asts with
  | nil => simp [Ast.indicesAll]
  | cons a asts ih => simp [Ast.indicesAll, ih]

theorem numbered_sequence {start stop : Nat} {items : List Ast}
    (h : ∀ a ∈ items, a.Numbered) : (sequence start stop items).Numbered := by
  unfold sequence
  split
  · exact nofun
  · exact h _ List.mem_cons_self
  · intro i inside
    obtain ⟨a, member, inside⟩ := mem_indicesAll.mp inside
    exact h a (List.mem_reverse.mp member) i inside

theorem numbered_alternatives {start stop : Nat} {branches : List Ast}
    (h : ∀ a ∈ branches, a.Numbered) : (alternatives start stop branches).Numbered := by
  unfold alternatives
  split
  · exact h _ List.mem_cons_self
  · intro i inside
    obtain ⟨a, member, inside⟩ := mem_indicesAll.mp inside
    exact h a (List.mem_reverse.mp member) i inside

theorem numbered_group {span : Span} {kind : GroupKind} {sub : Ast}
    (known : ∀ index name, kind = .capture index name → 1 ≤ index) (h : sub.Numbered) :
    (Ast.group span kind sub).Numbered := by
  cases kind with
  | capture index name => exact List.forall_mem_cons.mpr ⟨known index name rfl, h⟩
  | plain items => exact h

/-- Bodies end alike, at the end of the pattern by itself or before a closing parenthesis. The fuel
of the second body has room for the closing. -/
theorem abreast_readBody (h : Enclosed n c c') {k k' : Nat} (enough : n < k) (enough' : n + 2 < k')
    {start start' branchStart branchStart' : Nat} {branches branches' items items' : List Ast}
    (numbered : ∀ a ∈ branches', a.Numbered) (numbered' : ∀ a ∈ items', a.Numbered) :
    Abreast n c c' (readBody start k branchStart branches items)
      (readBody start' k' branchStart' branches' items')
      fun _ b d => b.Numbered ∧ (d.rest = [] ∨ d.rest.head? = some ')') := by
  induction k generalizing n c c' k' start start' branchStart branchStart' branches branches' items
    items' with
  | zero => omega
  | succ k ih =>
      obtain ⟨k', rfl⟩ : ∃ less, k' = less + 1 := ⟨k' - 1, by omega⟩
      unfold readBody
      refine .bind (abreast_skipBlanks h) @fun _ _ c c' h _ => ?_
      refine .position fun stop stop' => ?_
      have finished : (alternatives start' stop'
          (sequence branchStart' stop' items' :: branches')).Numbered :=
        numbered_alternatives (List.forall_mem_cons.mpr ⟨numbered_sequence numbered', numbered⟩)
      refine .peekChar h (fun ch more at_head => ?_) fun o nothing closes => ?_
      · have pos := h.pos more
        have next {d d'} (h : Enclosed (n - 1) d d') {items items' : List Ast}
            (numbered' : ∀ a ∈ items', a.Numbered) :
            Abreast n d d' (readBody start k branchStart branches items)
              (readBody start' k' branchStart' branches' items')
              fun _ b d => b.Numbered ∧ (d.rest = [] ∨ d.rest.head? = some ')') :=
          (ih h (by omega) (by omega) numbered numbered').atMost (Nat.sub_le ..)
        have plain {a : Ast} (none : a.indices = []) : ∀ b ∈ a :: items', b.Numbered := by
          refine List.forall_mem_cons.mpr ⟨?_, numbered'⟩
          intro i inside
          rw [none] at inside
          cases inside
        split
        · rename_i none
          cases none
        · exact .pure h ⟨finished, .inr (at_head.trans ‹some ch = some ')'›)⟩
        · refine .bind (abreast_pass h more) fun h _ => ?_
          refine .position fun _ _ => ?_
          refine (ih h (by omega) (by omega) ?_ (List.forall_mem_nil _)).atMost (Nat.sub_le ..)
          exact List.forall_mem_cons.mpr ⟨numbered_sequence numbered', numbered⟩
        · have outer := h.blanks
          refine .get ?_
          refine .bind (abreast_readOpening h more) fun h opening => ?_
          cases opening with
          | flags same =>
              refine .modify (next (h.withBlanks ?_) (plain rfl))
              rw [same.state, h.blanks]
          | @group _ _ kind kind' blanks known =>
              refine .modify (.position fun _ _ => ?_)
              have inner : blanksWithin c'.ignoreBlanks kind' = blanksWithin c.ignoreBlanks kind :=
                outer ▸ blanks _
              unfold blanksWithin at inner
              have inner := h.withBlanks inner
              refine .bind (ih inner ?_ ?_ (List.forall_mem_nil _) (List.forall_mem_nil _))
                fun h sub => ?_
              · omega
              · omega
              refine .atEnd ?_
              refine .check (by simp) (by simp) fun more _ => ?_
              refine .modify ?_
              refine .bind (abreast_pass (h.withBlanks outer) (by simpa using more)) fun h _ => ?_
              refine .since fun _ _ => next (h.mono (Nat.sub_le ..)) ?_
              refine List.forall_mem_cons.mpr ⟨?_, numbered'⟩
              exact numbered_group known sub.1
        · refine .bind (abreast_readClass h more) fun h none => ?_
          exact next h (plain none)
        · refine .bind (abreast_readSimpleRepetition h more _ numbered') fun h numbered' => ?_
          exact next h numbered'
        · refine .bind (abreast_readSimpleRepetition h more _ numbered') fun h numbered' => ?_
          exact next h numbered'
        · refine .bind (abreast_readSimpleRepetition h more _ numbered') fun h numbered' => ?_
          exact next h numbered'
        · refine .bind (abreast_readCountedRepetition h more numbered') fun h numbered' => ?_
          exact next h numbered'
        · refine .bind (abreast_readPrimitive h more _) fun h none => ?_
          exact next h (plain none)
      · rcases closes with rfl | rfl
        · exact .pure h ⟨finished, .inl nothing⟩
        · exact .pure h ⟨finished, .inl nothing⟩

/-! ## Between the anchors -/

section

variable {d : Cursor}

theorem run_readOpening_plain {rest : List Char}
    (here : c.rest = '(' :: '?' :: ':' :: rest) (bare : c.ignoreBlanks = false) :
    readOpening.run c = .ok (.group ⟨c.offset, c.offset + 1⟩ (.plain []),
      { c with rest, offset := c.offset + 3 }) := by
  obtain ⟨pattern, _, offset, _, captures, names⟩ := c
  cases here
  cases bare
  rfl

variable {start k branchStart : Nat} {branches items : List Ast}

theorem run_readBody_startLine {rest : List Char} (here : c.rest = '^' :: rest)
    (bare : c.ignoreBlanks = false) :
    (readBody start (k + 1) branchStart branches items).run c =
      (readBody start k branchStart branches
        (.assertion ⟨c.offset, c.offset + 1⟩ .startLine :: items)).run
        { c with rest, offset := c.offset + 1 } := by
  obtain ⟨pattern, _, offset, _, captures, names⟩ := c
  cases here
  cases bare
  rfl

theorem run_readBody_endLine (here : c.rest = ['$']) (bare : c.ignoreBlanks = false) :
    (readBody start (k + 2) branchStart branches items).run c =
      .ok (alternatives start (c.offset + 1) (sequence branchStart (c.offset + 1)
        (.assertion ⟨c.offset, c.offset + 1⟩ .endLine :: items) :: branches),
        { c with rest := [], offset := c.offset + 1 }) := by
  obtain ⟨pattern, _, offset, _, captures, names⟩ := c
  cases here
  cases bare
  rfl

theorem of_run_readBody_group {rest : List Char} {a : Ast}
    (here : c.rest = '(' :: '?' :: ':' :: rest) (bare : c.ignoreBlanks = false)
    (ran : (readBody start (k + 1) branchStart branches items).run c = .ok (a, d)) :
    ∃ sub e span, (readBody (c.offset + 3) k (c.offset + 3) [] []).run
        { c with rest, offset := c.offset + 3 } = .ok (sub, e) ∧ e.rest ≠ [] ∧
      (readBody start k branchStart branches (.group span (.plain []) sub :: items)).run
        { e with ignoreBlanks := false, rest := e.rest.drop 1, offset := e.offset + 1 } =
          .ok (a, d) := by
  have opened := run_readOpening_plain here bare
  obtain ⟨pattern, _, offset, _, captures, names⟩ := c
  cases here
  cases bare
  unfold readBody at ran
  obtain ⟨_, _, skipped, ran⟩ := of_run_bind ran
  cases skipped
  obtain ⟨_, _, at_position, ran⟩ := of_run_bind ran
  cases at_position
  obtain ⟨_, _, peeked, ran⟩ := of_run_bind ran
  cases peeked
  obtain ⟨_, _, got, ran⟩ := of_run_bind (f := fun _ => readOpening >>= _) ran
  cases got
  obtain ⟨_, _, opened', ran⟩ := of_run_bind ran
  cases opened.symm.trans opened'
  obtain ⟨_, _, set, ran⟩ := of_run_bind ran
  cases set
  obtain ⟨_, _, at_position, ran⟩ := of_run_bind ran
  cases at_position
  obtain ⟨sub, e, inner, ran⟩ := of_run_bind ran
  obtain ⟨_, _, ended, ran⟩ := of_run_bind ran
  cases ended
  obtain ⟨pattern', rest', offset', blanks', captures', names'⟩ := e
  cases rest' with
  | nil => cases ran
  | cons ch rest' => exact ⟨sub, _, ⟨offset, offset' + 1⟩, inner, List.cons_ne_nil ch rest', ran⟩

theorem of_run_readPattern {a : Ast} (ran : readPattern.run c = .ok (a, d)) :
    (readBody 0 (c.rest.length + 1) 0 [] []).run c = .ok (a, d) ∧ d.rest = [] := by
  unfold readPattern at ran
  obtain ⟨_, _, counted, ran⟩ := of_run_bind ran
  cases counted
  obtain ⟨ast, e, body, ran⟩ := of_run_bind ran
  obtain ⟨_, _, ended, ran⟩ := of_run_bind ran
  cases ended
  obtain ⟨pattern, rest, offset, blanks, captures, names⟩ := e
  cases rest with
  | cons ch rest => cases ran
  | nil =>
      cases deep : ast.tooDeep? nestingLimit with
      | some span =>
          rw [deep] at ran
          cases ran
      | none =>
          rw [deep] at ran
          cases ran
          exact ⟨body, rfl⟩

end

/-- A pattern that reads by itself is the inner group of the enclosed pattern, if this one reads. -/
theorem read_enclosed {pattern : List Char} {alone whole : Ast} (h : Ast.read pattern = .ok alone)
    (h' : Ast.read ('^' :: '(' :: '?' :: ':' :: (pattern ++ closing)) = .ok whole) :
    ∃ s s₁ s₂ s₃ body, body.Numbered ∧ whole = .concat s
      [.assertion s₁ .startLine, .group s₂ (.plain []) body, .assertion s₃ .endLine] := by
  obtain ⟨⟨_, d⟩, ran, rfl⟩ := of_map_ok h
  obtain ⟨⟨_, d'⟩, ran', rfl⟩ := of_map_ok h'
  obtain ⟨body, nothing⟩ := of_run_readPattern ran
  obtain ⟨body', _⟩ := of_run_readPattern ran'
  dsimp only at body body'
  rw [run_readBody_startLine rfl rfl] at body'
  obtain ⟨sub, e, span, inner, more, rest⟩ := of_run_readBody_group (k := _) rfl rfl body'
  have enclosed : Enclosed pattern.length ⟨pattern, pattern, 0, false, 0, []⟩
      ⟨'^' :: '(' :: '?' :: ':' :: (pattern ++ closing), pattern ++ closing, 4, false, 0, []⟩ :=
    ⟨Nat.le_refl _, rfl, .inl rfl⟩
  obtain ⟨⟨_, _, closes⟩, numbered, _⟩ := abreast_readBody enclosed (Nat.lt_succ_self _)
    (by simp [closing]) (List.forall_mem_nil _) (List.forall_mem_nil _) _ _ _ _ body inner
  have left : e.rest = closing := (nothing ▸ closes).nil.resolve_right more
  have last : e.rest.drop 1 = ['$'] := by
    rw [left]
    rfl
  cases (run_readBody_endLine (k := (pattern ++ closing).length + 1) last rfl).symm.trans rest
  exact ⟨_, _, _, _, sub, numbered, rfl⟩

end Reader

end Paradigm.Regex
