import Mathlib.Data.List.Basic

/-!
Trees by first child and next sibling, read by a walk that changes a state and may get
stuck, and the walk as a fold over the elements in document order.
-/

namespace LibraDevice.ElementTree

universe u v w x

/-- A node with its first child and its next sibling. -/
inductive NodeTree (ν : Type u) where
  | null
  | node (label : ν) (children next : NodeTree ν)
deriving DecidableEq, Repr

variable {ν : Type u} {α : Type v} {σ : Type w} {β : Type x}

/-- The elements in document order. `element` says what a node with these children is, if
it is one that counts; only the children of elements that `descends` holds of are visited. -/
def elements (element : ν → NodeTree ν → Option α) (descends : α → Bool) : NodeTree ν → List α
  | .null => []
  | .node label children next =>
      match element label children with
      | none => elements element descends next
      | some a =>
          a :: ((if descends a then elements element descends children else []) ++
            elements element descends next)

/-- A walk over the tree that follows the pointers. -/
def walk (element : ν → NodeTree ν → Option α) (descends : α → Bool) (step : σ → α → Option σ) :
    NodeTree ν → σ → Option σ
  | .null, s => some s
  | .node label children next, s =>
      match element label children with
      | none => walk element descends step next s
      | some a =>
          (step s a).bind fun s =>
            (if descends a then walk element descends step children s else some s).bind fun s =>
              walk element descends step next s

theorem walk_eq_foldlM (element : ν → NodeTree ν → Option α) (descends : α → Bool)
    (step : σ → α → Option σ) (t : NodeTree ν) (s : σ) :
    walk element descends step t s = (elements element descends t).foldlM step s := by
  induction t generalizing s with
  | null => rfl
  | node label children next ihChildren ihNext =>
      rw [walk, elements]
      rcases element label children with _ | a
      · exact ihNext s
      · dsimp only
        rw [List.foldlM_cons]
        change (step s a).bind _ = (step s a).bind _
        congr 1
        funext s'
        rcases descends a with _ | _
        · exact ihNext s'
        · rw [if_pos rfl, if_pos rfl, ihChildren, List.foldlM_append]
          change Option.bind _ _ = Option.bind _ _
          congr 1
          funext s''
          exact ihNext s''

/-- What a fold needs, when the part of the state that its steps check moves by `next`. -/
def AllOk (ok : β → α → Prop) (next : β → α → β) (b : β) (l : List α) : Prop :=
  ∀ before a after, l = before ++ a :: after → ok (before.foldl next b) a

theorem allOk_nil (ok : β → α → Prop) (next : β → α → β) (b : β) : AllOk ok next b [] := by
  intro before a after h
  cases before <;> cases h

theorem allOk_cons {ok : β → α → Prop} {next : β → α → β} {b : β} {a : α} {l : List α} :
    AllOk ok next b (a :: l) ↔ ok b a ∧ AllOk ok next (next b a) l := by
  constructor
  · intro h
    refine ⟨h [] a l rfl, ?_⟩
    intro before a' after hl
    exact h (a :: before) a' after (by rw [hl, List.cons_append])
  · rintro ⟨ha, hl⟩ before a' after h
    cases before with
    | nil =>
        obtain ⟨rfl, rfl⟩ := List.cons.inj h
        exact ha
    | cons a'' before =>
        obtain ⟨rfl, htail⟩ := List.cons.inj h
        exact hl before a' after htail

theorem foldlM_isSome_iff {step : σ → α → Option σ} {observe : σ → β} {ok : β → α → Prop}
    {next : β → α → β} (hok : ∀ s a, (step s a).isSome = true ↔ ok (observe s) a)
    (hnext : ∀ s a s', step s a = some s' → observe s' = next (observe s) a) (l : List α)
    (s : σ) : (l.foldlM step s).isSome = true ↔ AllOk ok next (observe s) l := by
  induction l generalizing s with
  | nil => exact iff_of_true rfl (allOk_nil ok next _)
  | cons a l ih =>
      rw [List.foldlM_cons, allOk_cons, ← hok]
      rcases hstep : step s a with _ | s'
      · exact iff_of_false Bool.false_ne_true fun h => Bool.false_ne_true h.1
      · rw [← hnext s a s' hstep]
        exact (ih s').trans (and_iff_right rfl).symm

end LibraDevice.ElementTree
