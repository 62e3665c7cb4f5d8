import Paradigm.Proofs.Result
import Paradigm.Regex.Meaning
import Paradigm.Regex.Program

/-!
# Groups of expressions

The normal form of an expression has groups of the pattern only: some may be left out, none is added.
-/

namespace Paradigm.Regex

namespace Expr

/-! ## Normal form -/

theorem groupsAll_append (es es' : List Expr) :
    groupsAll (es ++ es') = groupsAll es ++ groupsAll es' := by
  induction es with
  | nil => rfl
  | cons e es ih => rw [List.cons_append, groupsAll, groupsAll, ih, List.append_assoc]

theorem mem_groupsAll {es : List Expr} {g : Nat × Option String} :
    g ∈ groupsAll es ↔ ∃ e ∈ es, g ∈ e.groups := by
  induction es with
  | nil => simp [groupsAll]
  | cons e es ih => simp [groupsAll, ih]

theorem groupsAll_subset {es es' : List Expr} (h : es ⊆ es') : groupsAll es ⊆ groupsAll es' := by
  intro g member
  obtain ⟨e, listed, inside⟩ := mem_groupsAll.mp member
  exact mem_groupsAll.mpr ⟨e, h listed, inside⟩

theorem groups_ofSet (chars : CharSet) : (ofSet chars).groups = [] := by
  rw [ofSet]
  split <;> rw [groups]

theorem groups_ofRepetition {min : Nat} {max : Option Nat} {greedy : Bool} {sub : Expr} :
    ∀ g ∈ (ofRepetition min max greedy sub).groups, g ∈ sub.groups := by
  intro g member
  unfold ofRepetition at member
  generalize (if sub.onlyEmpty then _ else _ : Nat × Option Nat) = bounds at member
  obtain ⟨min, max⟩ := bounds
  dsimp only at member
  split at member
  · cases member
  split at member
  · exact member
  · exact member

theorem groupsAll_flatten (es : List Expr) : groupsAll (flatten es) = groupsAll es := by
  induction es with
  | nil => rfl
  | cons e es ih =>
      cases e <;> simp only [flatten, groupsAll, groupsAll_append, groups, ih, List.nil_append]

theorem groupsAll_joinTexts (es : List Expr) : groupsAll (joinTexts es) = groupsAll es := by
  induction es with
  | nil => rfl
  | cons e es ih =>
      unfold joinTexts
      split
      · rename_i joined
        rw [joined] at ih
        simp only [groupsAll, groups, List.nil_append] at ih ⊢
        exact ih
      · rw [groupsAll, groupsAll, ih]

theorem groups_ofConcat (es : List Expr) : (ofConcat es).groups = groupsAll es := by
  rw [← groupsAll_flatten, ← groupsAll_joinTexts, ofConcat]
  split
  · rename_i none
    rw [none, groups, groupsAll]
  · rename_i one
    rw [one, groupsAll, groupsAll, List.append_nil]
  · rw [groups]

theorem groupsAll_openAlternatives (es : List Expr) :
    groupsAll (openAlternatives es) = groupsAll es := by
  induction es with
  | nil => rfl
  | cons e es ih =>
      cases e <;> simp only [openAlternatives, groupsAll, groupsAll_append, groups, ih]

theorem start_of_commonStart (es es' : List Expr) : commonStart es es' <+: es := by
  induction es generalizing es' with
  | nil => exact List.prefix_rfl
  | cons e es ih =>
      cases es' with
      | nil => exact List.nil_prefix
      | cons e' es' =>
          rw [commonStart]
          split
          · exact (List.prefix_cons_inj e).mpr (ih es')
          · exact List.nil_prefix

theorem start_of_foldl_commonStart (others : List (List Expr)) (first : List Expr) :
    others.foldl commonStart first <+: first := by
  induction others generalizing first with
  | nil => exact List.prefix_rfl
  | cons other others ih => exact (ih _).trans (start_of_commonStart first other)

theorem groupsAll_of_parts {es : List Expr} {parts : List (List Expr)}
    (h : es.mapM parts? = some parts) :
    ∀ part ∈ parts, ∀ g ∈ groupsAll part, g ∈ groupsAll es := by
  induction es generalizing parts with
  | nil =>
      cases h
      exact nofun
  | cons e es ih =>
      simp only [List.mapM_cons, Option.bind_eq_bind, Option.bind_eq_some_iff] at h
      obtain ⟨head, opened, tail, rest, same⟩ := h
      cases same
      intro part member g inside
      rw [groupsAll]
      rcases List.mem_cons.mp member with rfl | member
      · cases e <;> cases opened
        exact List.mem_append_left _ inside
      · exact List.mem_append_right _ (ih rest part member g inside)

theorem groups_ofAlternatives (fuel : Nat) (es : List Expr) :
    ∀ g ∈ (ofAlternatives fuel es).groups, g ∈ groupsAll es := by
  induction fuel generalizing es with
  | zero =>
      intro g member
      rw [← groupsAll_openAlternatives]
      unfold ofAlternatives at member
      split at member
      · cases member
      · rename_i one
        rw [one, groupsAll, groupsAll, List.append_nil]
        exact member
      · split at member
        · rw [groups_ofSet] at member
          cases member
        · exact member
  | succ fuel ih =>
      intro g member
      rw [← groupsAll_openAlternatives]
      unfold ofAlternatives at member
      split at member
      · cases member
      · rename_i one
        rw [one, groupsAll, groupsAll, List.append_nil]
        exact member
      · split at member
        · rw [groups_ofSet] at member
          cases member
        · split at member
          · rename_i first others same found
            cases same
            have inside := groupsAll_of_parts found
            dsimp only at member
            split at member
            · exact member
            · rw [groups_ofConcat, groupsAll_append] at member
              rcases List.mem_append.mp member with member | member
              · have start := (start_of_foldl_commonStart others first).subset
                exact inside first List.mem_cons_self g (groupsAll_subset start member)
              · rw [groupsAll, groupsAll, List.append_nil] at member
                obtain ⟨tail, listed, member⟩ := mem_groupsAll.mp (ih _ g member)
                obtain ⟨part, chosen, rfl⟩ := List.mem_map.mp listed
                rw [groups_ofConcat] at member
                exact inside part chosen g (groupsAll_subset (List.drop_subset _ _) member)
          · exact member

theorem groups_ofAlternation (es : List Expr) :
    ∀ g ∈ (ofAlternation es).groups, g ∈ groupsAll es :=
  groups_ofAlternatives _ es

end Expr

/-! ## Resolving -/

mutual

/-- The indices of the groups of a pattern. -/
def Ast.indices : Ast → List Nat
  | .empty _ | .flags _ _ | .literal _ | .dot _ | .assertion _ _ | .property _ _ _ | .short _ _ _
  | .bracketed _ _ _ => []
  | .repetition _ _ _ sub => Ast.indices sub
  | .group _ (.capture index _) sub => index :: Ast.indices sub
  | .group _ (.plain _) sub => Ast.indices sub
  | .alternation _ subs | .concat _ subs => Ast.indicesAll subs

def Ast.indicesAll : List Ast → List Nat
  | [] => []
  | sub :: rest => Ast.indices sub ++ Ast.indicesAll rest

end

theorem groups_of_resolveChar {flags : Flags} {l : Literal} {e : Expr}
    (h : resolveChar flags l = .ok e) : e.groups = [] := by
  obtain ⟨c, _, h⟩ := of_bind_ok h
  cases h
  split
  · exact Expr.groups_ofSet _
  · rw [Expr.groups]

theorem groups_of_resolveDot {flags : Flags} {span : Span} {e : Expr}
    (h : resolveDot flags span = .ok e) : e.groups = [] := by
  unfold resolveDot at h
  repeat' split at h
  all_goals cases h
  all_goals rw [Expr.groups]

mutual

/-- The groups of what a pattern means are groups of the pattern. -/
theorem groups_of_resolve {flags after : Flags} {e : Expr} :
    (ast : Ast) → resolve flags ast = .ok (e, after) → ∀ g ∈ e.groups, g.1 ∈ ast.indices
  | .empty _, h => by
      cases h
      exact nofun
  | .flags _ _, h => by
      cases h
      exact nofun
  | .assertion _ _, h => by
      cases h
      exact nofun
  | .literal _, h => by
      rw [resolve] at h
      obtain ⟨e, resolved, h⟩ := of_bind_ok h
      cases h
      rw [groups_of_resolveChar resolved]
      exact nofun
  | .dot _, h => by
      rw [resolve] at h
      obtain ⟨e, resolved, h⟩ := of_bind_ok h
      cases h
      rw [groups_of_resolveDot resolved]
      exact nofun
  | .property _ _ _, h => by
      rw [resolve] at h
      obtain ⟨chars, _, h⟩ := of_bind_ok h
      cases h
      rw [Expr.groups_ofSet]
      exact nofun
  | .short _ _ _, h => by
      rw [resolve] at h
      obtain ⟨chars, _, h⟩ := of_bind_ok h
      cases h
      rw [Expr.groups_ofSet]
      exact nofun
  | .bracketed _ _ _, h => by
      rw [resolve] at h
      obtain ⟨chars, _, h⟩ := of_bind_ok h
      obtain ⟨chars, _, h⟩ := of_bind_ok h
      cases h
      rw [Expr.groups_ofSet]
      exact nofun
  | .repetition _ _ _ sub, h => by
      rw [resolve] at h
      obtain ⟨⟨e, after⟩, resolved, h⟩ := of_bind_ok h
      cases h
      intro g member
      exact groups_of_resolve sub resolved g (Expr.groups_ofRepetition g member)
  | .group _ (.capture index name) sub, h => by
      rw [resolve] at h
      obtain ⟨⟨e, after⟩, resolved, h⟩ := of_bind_ok h
      cases h
      intro g member
      rw [Expr.groups] at member
      rcases List.mem_cons.mp member with rfl | member
      · exact List.mem_cons_self
      · exact List.mem_cons_of_mem _ (groups_of_resolve sub resolved g member)
  | .group _ (.plain items) sub, h => by
      rw [resolve] at h
      obtain ⟨⟨e, after⟩, resolved, h⟩ := of_bind_ok h
      cases h
      exact groups_of_resolve sub resolved
  | .alternation _ subs, h => by
      rw [resolve] at h
      obtain ⟨⟨es, after⟩, resolved, h⟩ := of_bind_ok h
      cases h
      intro g member
      exact groups_of_resolveAll subs resolved g (Expr.groups_ofAlternation es g member)
  | .concat _ subs, h => by
      rw [resolve] at h
      obtain ⟨⟨es, after⟩, resolved, h⟩ := of_bind_ok h
      cases h
      rw [Expr.groups_ofConcat]
      exact groups_of_resolveAll subs resolved

theorem groups_of_resolveAll {flags after : Flags} {es : List Expr} :
    (asts : List Ast) → resolveAll flags asts = .ok (es, after) →
      ∀ g ∈ Expr.groupsAll es, g.1 ∈ Ast.indicesAll asts
  | [], h => by
      cases h
      exact nofun
  | ast :: asts, h => by
      rw [resolveAll] at h
      obtain ⟨⟨e, between⟩, resolved, h⟩ := of_bind_ok h
      obtain ⟨⟨es, after⟩, rest, h⟩ := of_bind_ok h
      cases h
      intro g member
      rw [Expr.groupsAll] at member
      rcases List.mem_append.mp member with member | member
      · exact List.mem_append_left _ (groups_of_resolve ast resolved g member)
      · exact List.mem_append_right _ (groups_of_resolveAll asts rest g member)

end

end Paradigm.Regex
