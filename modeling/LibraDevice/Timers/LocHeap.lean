import Mathlib.Data.List.Perm.Basic
import Mathlib.Order.Lattice

/-!
The heap of rankable objects: a binary tree that is sorted vertically only. A
new object goes into the smaller subtree, a popped one is replaced by its
higher ranking child down to a leaf.
-/

namespace LibraDevice.Timers

universe u v

variable {α : Type u}

/-- `LocHeapNode`, or the null pointer. -/
inductive LocHeap (α : Type u)
  | null
  | node (mSize : Nat) (mData : α) (mLeft mRight : LocHeap α)
deriving DecidableEq, Repr

namespace LocHeap

def mSizeOf : LocHeap α → Nat
  | null => 0
  | node mSize _ _ _ => mSize

/-- `LocHeap::peek`. -/
def peek : LocHeap α → Option α
  | null => none
  | node _ mData _ _ => some mData

section

variable (outRanks : α → α → Bool)

/-- `push`: the higher ranking of the new object and the top stays, the other
one drops into a subtree. -/
def push (data : α) : LocHeap α → LocHeap α
  | null => node 1 data null null
  | node mSize mData mLeft mRight =>
      let top := if outRanks data mData then data else mData
      let lower := if outRanks data mData then mData else data
      match mLeft, mRight with
      | null, r => node (mSize + 1) top (node 1 lower null null) r
      | l, null => node (mSize + 1) top l (node 1 lower null null)
      | l, r =>
          if l.mSizeOf ≤ r.mSizeOf then node (mSize + 1) top (push lower l) r
          else node (mSize + 1) top l (push lower r)

/-- `LocHeapNode::pop` without the data of the top, which is swapped down to a
leaf and leaves with it. -/
def dropTop : LocHeap α → LocHeap α
  | null => null
  | node mSize _ mLeft mRight =>
      match mLeft.peek, mRight.peek with
      | none, none => null
      | none, some r => node (mSize - 1) r mLeft (dropTop mRight)
      | some l, none => node (mSize - 1) l (dropTop mLeft) mRight
      | some l, some r =>
          if outRanks l r then node (mSize - 1) l (dropTop mLeft) mRight
          else node (mSize - 1) r mLeft (dropTop mRight)

/-- `LocHeap::pop`. -/
def pop (h : LocHeap α) : Option (α × LocHeap α) :=
  h.peek.map fun data => (data, dropTop outRanks h)

/-- `LocHeapNode::remove`, by address: the tree without the object, or none if
it is not found. A subtree that the object outranks is not searched. -/
def remove [DecidableEq α] (data : α) : LocHeap α → Option (LocHeap α)
  | null => none
  | node mSize mData mLeft mRight =>
      if data = mData then
        some (dropTop outRanks (node mSize mData mLeft mRight))
      else if outRanks data mData then
        none
      else
        match remove data mLeft with
        | some l => some (node (mSize - 1) mData l mRight)
        | none => (remove data mRight).map fun r => node (mSize - 1) mData mLeft r

end

/-- The objects of the heap. -/
def toList : LocHeap α → List α
  | null => []
  | node _ mData mLeft mRight => mData :: (mLeft.toList ++ mRight.toList)

@[simp] theorem toList_null : (null : LocHeap α).toList = [] := rfl

@[simp] theorem toList_node (n : Nat) (d : α) (l r : LocHeap α) :
    (node n d l r).toList = d :: (l.toList ++ r.toList) := rfl

theorem toList_eq_nil {h : LocHeap α} : h.toList = [] ↔ h = null := by
  cases h <;> simp

theorem peek_eq_none {h : LocHeap α} : h.peek = none ↔ h = null := by
  cases h <;> simp [peek]

theorem peek_mem {h : LocHeap α} {d : α} (hd : h.peek = some d) : d ∈ h.toList := by
  cases h with
  | null => cases hd
  | node n d' l r =>
      cases hd
      exact List.mem_cons_self

section

variable {outRanks : α → α → Bool}

theorem push_perm (data : α) (h : LocHeap α) :
    (push outRanks data h).toList.Perm (data :: h.toList) := by
  induction h generalizing data with
  | null => exact List.Perm.refl _
  | node n d l r ihl ihr =>
      have hswap : ∀ rest : List α,
          ((if outRanks data d then data else d) ::
            (if outRanks data d then d else data) :: rest).Perm (data :: d :: rest) := by
        intro rest
        split
        · exact List.Perm.refl _
        · exact List.Perm.swap ..
      cases l with
      | null => exact hswap _
      | node nl dl ll rl =>
          cases r with
          | null =>
              refine List.Perm.trans ?_ (hswap _)
              refine List.Perm.cons _ ?_
              simp only [toList_node, toList_null, List.append_nil]
              exact List.perm_append_singleton _ _
          | node nr dr lr rr =>
              simp only [push]
              split
              · refine List.Perm.trans (List.Perm.cons _ ?_) (hswap _)
                exact (ihl _).append_right _
              · refine List.Perm.trans (List.Perm.cons _ ?_) (hswap _)
                refine List.Perm.trans ((ihr _).append_left _) ?_
                exact List.perm_middle

theorem peek_push (data : α) (h : LocHeap α) :
    (push outRanks data h).peek =
      some (h.peek.elim data fun d => if outRanks data d then data else d) := by
  cases h with
  | null => rfl
  | node n d l r =>
      cases l with
      | null => rfl
      | node nl dl ll rl =>
          cases r with
          | null => rfl
          | node nr dr lr rr =>
              simp only [push]
              split <;> rfl

theorem dropTop_perm {h : LocHeap α} {d : α} (hd : h.peek = some d) :
    h.toList.Perm (d :: (dropTop outRanks h).toList) := by
  induction h generalizing d with
  | null => cases hd
  | node n d' l r ihl ihr =>
      cases hd
      refine List.Perm.cons _ ?_
      simp only [dropTop]
      cases hl : l.peek with
      | none =>
          obtain rfl := peek_eq_none.mp hl
          cases hr : r.peek with
          | none =>
              obtain rfl := peek_eq_none.mp hr
              exact List.Perm.refl _
          | some dr => exact ihr hr
      | some dl =>
          cases hr : r.peek with
          | none => exact (ihl hl).append_right _
          | some dr =>
              simp only
              split
              · exact (ihl hl).append_right _
              · exact List.Perm.trans ((ihr hr).append_left _) List.perm_middle

theorem remove_perm [DecidableEq α] {data : α} {h h' : LocHeap α}
    (hr : remove outRanks data h = some h') : h.toList.Perm (data :: h'.toList) := by
  induction h generalizing h' with
  | null => cases hr
  | node n d l r ihl ihr =>
      simp only [remove] at hr
      split at hr
      · next heq =>
          subst heq
          cases hr
          exact dropTop_perm rfl
      · split at hr
        · cases hr
        · cases hl : remove outRanks data l with
          | some l' =>
              simp only [hl, Option.some.injEq] at hr
              subst hr
              refine List.Perm.trans (List.Perm.cons d ((ihl hl).append_right _)) ?_
              exact List.Perm.swap ..
          | none =>
              simp only [hl, Option.map_eq_some_iff] at hr
              obtain ⟨r', hr', rfl⟩ := hr
              refine List.Perm.trans (List.Perm.cons d ?_) (List.Perm.swap ..)
              exact List.Perm.trans ((ihr hr').append_left _) List.perm_middle

theorem peek_remove [DecidableEq α] {data : α} {h h' : LocHeap α}
    (hr : remove outRanks data h = some h') (hne : h.peek ≠ some data) : h'.peek = h.peek := by
  cases h with
  | null => cases hr
  | node n d l r =>
      have hd : data ≠ d := fun heq => hne (by rw [heq]; rfl)
      simp only [remove, if_neg hd] at hr
      split at hr
      · cases hr
      · split at hr
        · cases hr
          rfl
        · simp only [Option.map_eq_some_iff] at hr
          obtain ⟨r', -, rfl⟩ := hr
          rfl

variable {β : Type v} [LinearOrder β]

/-- Every object ranks no higher than the one above it; the rank is the key, a
smaller key ranking higher. -/
def Ordered (key : α → β) : LocHeap α → Prop
  | null => True
  | node _ d l r => (∀ x ∈ l.toList ++ r.toList, key d ≤ key x) ∧ l.Ordered key ∧ r.Ordered key

variable {key : α → β}

theorem Ordered.peek_le {h : LocHeap α} (ho : h.Ordered key) {d x : α} (hd : h.peek = some d)
    (hx : x ∈ h.toList) : key d ≤ key x := by
  cases h with
  | null => cases hd
  | node n d' l r =>
      cases hd
      rcases List.mem_cons.mp hx with rfl | hx
      · exact le_refl _
      · exact ho.1 x hx

theorem Ordered.push (hkey : ∀ x y, outRanks x y = true ↔ key x < key y) {h : LocHeap α}
    (ho : h.Ordered key) (data : α) : (push outRanks data h).Ordered key := by
  induction h generalizing data with
  | null =>
      refine ⟨?_, trivial, trivial⟩
      intro x hx
      cases hx
  | node n d l r ihl ihr =>
      obtain ⟨htop, hl, hr⟩ := ho
      have hpair : ∃ top lower, (if outRanks data d then data else d) = top ∧
          (if outRanks data d then d else data) = lower ∧ key top ≤ key lower ∧
          key top ≤ key d := by
        cases hrank : outRanks data d with
        | true =>
            have hlt := (hkey data d).mp hrank
            exact ⟨data, d, rfl, rfl, le_of_lt hlt, le_of_lt hlt⟩
        | false =>
            have hle : key d ≤ key data :=
              not_lt.mp fun hlt => by rw [(hkey data d).mpr hlt] at hrank; cases hrank
            exact ⟨d, data, rfl, rfl, hle, le_refl _⟩
      obtain ⟨top, lower, htopeq, hlowereq, hle, hled⟩ := hpair
      have hrest : ∀ x ∈ l.toList ++ r.toList, key top ≤ key x :=
        fun x hx => le_trans hled (htop x hx)
      have hleaf : (node 1 lower null null).Ordered key := by
        refine ⟨?_, trivial, trivial⟩
        intro x hx
        cases hx
      cases l with
      | null =>
          simp only [LocHeap.push, htopeq, hlowereq]
          refine ⟨?_, hleaf, hr⟩
          intro x hx
          rcases List.mem_cons.mp hx with rfl | hx
          · exact hle
          · exact hrest x hx
      | node nl dl ll rl =>
          cases r with
          | null =>
              simp only [LocHeap.push, htopeq, hlowereq]
              refine ⟨?_, hl, hleaf⟩
              intro x hx
              rcases List.mem_append.mp hx with hx | hx
              · exact hrest x (List.mem_append_left _ hx)
              · rw [List.mem_singleton.mp hx]
                exact hle
          | node nr dr lr rr =>
              simp only [LocHeap.push, htopeq, hlowereq]
              split
              · refine ⟨?_, ihl hl lower, hr⟩
                intro x hx
                rcases List.mem_append.mp hx with hx | hx
                · rcases List.mem_cons.mp ((push_perm lower _).subset hx) with rfl | hx
                  · exact hle
                  · exact hrest x (List.mem_append_left _ hx)
                · exact hrest x (List.mem_append_right _ hx)
              · refine ⟨?_, hl, ihr hr lower⟩
                intro x hx
                rcases List.mem_append.mp hx with hx | hx
                · exact hrest x (List.mem_append_left _ hx)
                · rcases List.mem_cons.mp ((push_perm lower _).subset hx) with rfl | hx
                  · exact hle
                  · exact hrest x (List.mem_append_right _ hx)

theorem Ordered.dropTop (hkey : ∀ x y, outRanks x y = true ↔ key x < key y) {h : LocHeap α}
    (ho : h.Ordered key) : (dropTop outRanks h).Ordered key := by
  induction h with
  | null => trivial
  | node n d l r ihl ihr =>
      obtain ⟨htop, hl, hr⟩ := ho
      -- the child that moves up ranks no lower than what is left of both subtrees
      have hupl : ∀ dl, l.peek = some dl → (∀ x ∈ r.toList, key dl ≤ key x) →
          (node (n - 1) dl (LocHeap.dropTop outRanks l) r).Ordered key := by
        intro dl hdl hothers
        refine ⟨?_, ihl hl, hr⟩
        intro x hx
        rcases List.mem_append.mp hx with hx | hx
        · exact hl.peek_le hdl ((dropTop_perm hdl).symm.subset (List.mem_cons_of_mem _ hx))
        · exact hothers x hx
      have hupr : ∀ dr, r.peek = some dr → (∀ x ∈ l.toList, key dr ≤ key x) →
          (node (n - 1) dr l (LocHeap.dropTop outRanks r)).Ordered key := by
        intro dr hdr hothers
        refine ⟨?_, hl, ihr hr⟩
        intro x hx
        rcases List.mem_append.mp hx with hx | hx
        · exact hothers x hx
        · exact hr.peek_le hdr ((dropTop_perm hdr).symm.subset (List.mem_cons_of_mem _ hx))
      simp only [LocHeap.dropTop]
      cases hdl : l.peek with
      | none =>
          obtain rfl := peek_eq_none.mp hdl
          cases hdr : r.peek with
          | none => trivial
          | some dr => exact hupr dr hdr (fun x hx => by cases hx)
      | some dl =>
          cases hdr : r.peek with
          | none =>
              obtain rfl := peek_eq_none.mp hdr
              exact hupl dl hdl (fun x hx => by cases hx)
          | some dr =>
              simp only
              split
              · next hrank =>
                  refine hupl dl hdl fun x hx => ?_
                  exact le_trans (le_of_lt ((hkey dl dr).mp hrank)) (hr.peek_le hdr hx)
              · next hrank =>
                  refine hupr dr hdr fun x hx => ?_
                  have hle : key dr ≤ key dl := not_lt.mp fun hlt => hrank ((hkey dl dr).mpr hlt)
                  exact le_trans hle (hl.peek_le hdl hx)

theorem Ordered.remove [DecidableEq α] (hkey : ∀ x y, outRanks x y = true ↔ key x < key y)
    {data : α} {h h' : LocHeap α} (ho : h.Ordered key)
    (hrem : remove outRanks data h = some h') : h'.Ordered key := by
  induction h generalizing h' with
  | null => cases hrem
  | node n d l r ihl ihr =>
      simp only [LocHeap.remove] at hrem
      split at hrem
      · cases hrem
        exact ho.dropTop hkey
      · split at hrem
        · cases hrem
        · obtain ⟨htop, hl, hr⟩ := ho
          cases hrl : LocHeap.remove outRanks data l with
          | some l' =>
              simp only [hrl, Option.some.injEq] at hrem
              subst hrem
              refine ⟨fun x hx => htop x ?_, ihl hl hrl, hr⟩
              rcases List.mem_append.mp hx with hx | hx
              · exact List.mem_append_left _
                  ((remove_perm hrl).symm.subset (List.mem_cons_of_mem _ hx))
              · exact List.mem_append_right _ hx
          | none =>
              simp only [hrl, Option.map_eq_some_iff] at hrem
              obtain ⟨r', hrr, rfl⟩ := hrem
              refine ⟨fun x hx => htop x ?_, hl, ihr hr hrr⟩
              rcases List.mem_append.mp hx with hx | hx
              · exact List.mem_append_left _ hx
              · exact List.mem_append_right _
                  ((remove_perm hrr).symm.subset (List.mem_cons_of_mem _ hx))

theorem Ordered.remove_isSome [DecidableEq α]
    (hkey : ∀ x y, outRanks x y = true ↔ key x < key y) {data : α} {h : LocHeap α}
    (ho : h.Ordered key) (hmem : data ∈ h.toList) : (LocHeap.remove outRanks data h).isSome := by
  induction h with
  | null => cases hmem
  | node n d l r ihl ihr =>
      simp only [LocHeap.remove]
      split
      · rfl
      · next hne =>
          obtain ⟨htop, hl, hr⟩ := ho
          have hin : data ∈ l.toList ++ r.toList := (List.mem_cons.mp hmem).resolve_left hne
          rw [if_neg]
          · cases hrl : LocHeap.remove outRanks data l with
            | some l' => rfl
            | none =>
                rcases List.mem_append.mp hin with hx | hx
                · have := ihl hl hx
                  rw [hrl] at this
                  cases this
                · simp only [Option.isSome_map]
                  exact ihr hr hx
          · intro hrank
            exact absurd ((hkey data d).mp hrank) (not_lt.mpr (htop data hin))

end

end LocHeap

end LibraDevice.Timers
