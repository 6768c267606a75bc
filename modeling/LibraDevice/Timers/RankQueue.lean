import LibraDevice.Timers.LocHeap
import Mathlib.Data.List.Induction
import Mathlib.Data.Multiset.AddSub
import Mathlib.Order.Antisymmetrization

/-!
The heap as a priority queue over a multiset: what each operation hands out and
leaves, the shape of the tree over any run, and the balance of a heap that was
only pushed to.
-/

namespace LibraDevice.Timers

universe u

variable {α : Type u}

/-- `ranks` of `LocRankable`: positive if the first object ranks higher, zero
if both rank equally, negative if it ranks lower. -/
structure TotalRank (ranks : α → α → Int) : Prop where
  swap : ∀ x y, 0 < ranks x y ↔ ranks y x < 0
  trans : ∀ x y z, 0 ≤ ranks x y → 0 ≤ ranks y z → 0 ≤ ranks x z

def outRanks (ranks : α → α → Int) (x y : α) : Bool := decide (0 < ranks x y)

section

variable {ranks : α → α → Int} (hranks : TotalRank ranks)
include hranks

theorem TotalRank.self (x : α) : 0 ≤ ranks x x := by
  have := hranks.swap x x
  omega

theorem TotalRank.total (x y : α) : 0 ≤ ranks x y ∨ 0 ≤ ranks y x := by
  have := hranks.swap y x
  omega

theorem TotalRank.exists_key : ∃ (β : Type u) (_ : LinearOrder β) (key : α → β),
    ∀ x y, outRanks ranks x y = true ↔ key x < key y := by
  classical
  let _ : Preorder α :=
    { le := fun x y => 0 ≤ ranks x y
      le_refl := hranks.self
      le_trans := hranks.trans }
  have _ : Std.Total (α := α) (· ≤ ·) := ⟨hranks.total⟩
  refine ⟨Antisymmetrization α (· ≤ ·), inferInstance, toAntisymmetrization (· ≤ ·), ?_⟩
  intro x y
  rw [toAntisymmetrization_lt_toAntisymmetrization_iff, lt_iff_le_not_ge]
  change decide (0 < ranks x y) = true ↔ 0 ≤ ranks x y ∧ ¬ 0 ≤ ranks y x
  rw [decide_eq_true_eq]
  have := hranks.swap x y
  omega

end

namespace LocHeap

section

variable (outRanks : α → α → Bool)

/-- `LocHeapNode::pop` of a top whose data was swapped for `data`: the tree
that is left, and the data of the leaf that is unlinked. -/
def popNode (data : α) : LocHeap α → LocHeap α × α
  | null => (null, data)
  | node mSize _ mLeft mRight =>
      match mLeft.peek, mRight.peek with
      | none, none => (null, data)
      | none, some r =>
          let popped := popNode data mRight
          (node (mSize - 1) r mLeft popped.1, popped.2)
      | some l, none =>
          let popped := popNode data mLeft
          (node (mSize - 1) l popped.1 mRight, popped.2)
      | some l, some r =>
          if outRanks l r then
            let popped := popNode data mLeft
            (node (mSize - 1) l popped.1 mRight, popped.2)
          else
            let popped := popNode data mRight
            (node (mSize - 1) r mLeft popped.1, popped.2)

/-- `LocHeapNode::remove`: the tree that is left, and the data of the removed
node. -/
def removeNode [DecidableEq α] (data : α) : LocHeap α → LocHeap α × Option α
  | null => (null, none)
  | node mSize mData mLeft mRight =>
      if data = mData then
        let popped := popNode outRanks mData (node mSize mData mLeft mRight)
        (popped.1, some popped.2)
      else if outRanks data mData then
        (node mSize mData mLeft mRight, none)
      else
        let left := removeNode data mLeft
        match left.2 with
        | some x => (node (mSize - 1) mData left.1 mRight, some x)
        | none =>
            let right := removeNode data mRight
            match right.2 with
            | some x => (node (mSize - 1) mData left.1 right.1, some x)
            | none => (node mSize mData left.1 right.1, none)

theorem popNode_eq (data : α) (h : LocHeap α) :
    popNode outRanks data h = (dropTop outRanks h, data) := by
  induction h with
  | null => rfl
  | node n d l r ihl ihr =>
      simp only [popNode, dropTop, ihl, ihr]
      cases l.peek with
      | none => cases r.peek <;> rfl
      | some dl =>
          cases r.peek with
          | none => rfl
          | some dr =>
              simp only
              split <;> rfl

theorem removeNode_eq [DecidableEq α] (data : α) (h : LocHeap α) :
    removeNode outRanks data h =
      ((remove outRanks data h).getD h, (remove outRanks data h).map fun _ => data) := by
  induction h with
  | null => rfl
  | node n d l r ihl ihr =>
      simp only [removeNode, remove, popNode_eq]
      split
      · next heq =>
          rw [heq]
          rfl
      · split
        · rfl
        · rw [ihl, ihr]
          cases remove outRanks data l with
          | some l' => rfl
          | none => cases remove outRanks data r <;> rfl

/-- `LocHeapNode::checkNodes`. -/
def checkNodes : LocHeap α → Bool
  | null => true
  | node mSize mData mLeft mRight =>
      !(mLeft.peek.any fun l => outRanks l mData) && checkNodes mLeft &&
        !(mRight.peek.any fun r => outRanks r mData) && checkNodes mRight &&
        decide ((mSize : Int) - mLeft.mSizeOf - mRight.mSizeOf = 1)

/-- No object of a subtree outranks the one above it. -/
def NotOutranked : LocHeap α → Prop
  | null => True
  | node _ d l r =>
      (∀ x ∈ l.toList ++ r.toList, outRanks x d = false) ∧ l.NotOutranked ∧ r.NotOutranked

end

/-- Every node counts its subtree. -/
def Sized : LocHeap α → Prop
  | null => True
  | node n d l r => n = (node n d l r).toList.length ∧ l.Sized ∧ r.Sized

/-- Two sibling subtrees differ by at most one object. -/
def Balanced : LocHeap α → Prop
  | null => True
  | node _ _ l r =>
      l.toList.length ≤ r.toList.length + 1 ∧ r.toList.length ≤ l.toList.length + 1 ∧
        l.Balanced ∧ r.Balanced

/-- What pushes alone build: the left subtree is never the smaller one. -/
def Leaning : LocHeap α → Prop
  | null => True
  | node _ _ l r =>
      r.toList.length ≤ l.toList.length ∧ l.toList.length ≤ r.toList.length + 1 ∧
        l.Leaning ∧ r.Leaning

theorem Leaning.balanced {h : LocHeap α} (hl : h.Leaning) : h.Balanced := by
  induction h with
  | null => trivial
  | node n d l r ihl ihr =>
      obtain ⟨hle, hge, hl, hr⟩ := hl
      exact ⟨hge, Nat.le_succ_of_le hle, ihl hl, ihr hr⟩

theorem Sized.mSizeOf_eq {h : LocHeap α} (hs : h.Sized) : h.mSizeOf = h.toList.length := by
  cases h with
  | null => rfl
  | node n d l r => exact hs.1

section

variable {outRanks : α → α → Bool}

theorem Sized.push_node (outRanks : α → α → Bool) {n : Nat} {d : α} {l r : LocHeap α}
    (hs : (node n d l r).Sized) (data : α) : ∃ top lower, push outRanks data (node n d l r) =
      if l.toList.length ≤ r.toList.length then
        node (n + 1) top (push outRanks lower l) r
      else node (n + 1) top l (push outRanks lower r) := by
  refine ⟨if outRanks data d then data else d, if outRanks data d then d else data, ?_⟩
  obtain ⟨-, hl, hr⟩ := hs
  cases l with
  | null => rfl
  | node nl dl ll rl =>
      cases r with
      | null => rfl
      | node nr dr lr rr =>
          rw [← hl.mSizeOf_eq, ← hr.mSizeOf_eq]
          rfl

theorem push_length (outRanks : α → α → Bool) (data : α) (h : LocHeap α) :
    (push outRanks data h).toList.length = h.toList.length + 1 :=
  (push_perm data h).length_eq

theorem Sized.push {h : LocHeap α} (hs : h.Sized) (data : α) :
    (LocHeap.push outRanks data h).Sized := by
  induction h generalizing data with
  | null => exact ⟨rfl, trivial, trivial⟩
  | node n d l r ihl ihr =>
      obtain ⟨top, lower, hpush⟩ := hs.push_node outRanks data
      have hlength := push_length outRanks data (node n d l r)
      obtain ⟨hn, hl, hr⟩ := hs
      rw [hpush] at hlength ⊢
      split
      · next hle =>
          rw [if_pos hle, ← hn] at hlength
          exact ⟨hlength.symm, ihl hl lower, hr⟩
      · next hle =>
          rw [if_neg hle, ← hn] at hlength
          exact ⟨hlength.symm, hl, ihr hr lower⟩

theorem Leaning.push {h : LocHeap α} (hlean : h.Leaning) (hs : h.Sized) (data : α) :
    (LocHeap.push outRanks data h).Leaning := by
  induction h generalizing data with
  | null => exact ⟨le_refl _, Nat.zero_le _, trivial, trivial⟩
  | node n d l r ihl ihr =>
      obtain ⟨top, lower, hpush⟩ := hs.push_node outRanks data
      obtain ⟨-, hsl, hsr⟩ := hs
      obtain ⟨hle, hge, hl, hr⟩ := hlean
      rw [hpush]
      split
      · refine ⟨?_, ?_, ihl hl hsl lower, hr⟩
        · rw [push_length]
          exact Nat.le_succ_of_le hle
        · rw [push_length]
          omega
      · refine ⟨?_, ?_, hl, ihr hr hsr lower⟩
        · rw [push_length]
          omega
        · rw [push_length]
          omega

theorem dropTop_length (outRanks : α → α → Bool) (h : LocHeap α) :
    (dropTop outRanks h).toList.length = h.toList.length - 1 := by
  cases hd : h.peek with
  | none => rw [peek_eq_none.mp hd]; rfl
  | some d =>
      have hperm : h.toList.Perm (d :: (dropTop outRanks h).toList) := dropTop_perm hd
      have hlength := hperm.length_eq
      rw [List.length_cons] at hlength
      omega

theorem Sized.dropTop {h : LocHeap α} (hs : h.Sized) : (dropTop outRanks h).Sized := by
  induction h with
  | null => trivial
  | node n d l r ihl ihr =>
      have hlength := dropTop_length outRanks (node n d l r)
      obtain ⟨hn, hl, hr⟩ := hs
      rw [← hn] at hlength
      simp only [LocHeap.dropTop] at hlength ⊢
      cases hdl : l.peek with
      | none =>
          cases hdr : r.peek with
          | none => trivial
          | some dr =>
              simp only [hdl, hdr] at hlength
              exact ⟨hlength.symm, hl, ihr hr⟩
      | some dl =>
          cases hdr : r.peek with
          | none =>
              simp only [hdl, hdr] at hlength
              exact ⟨hlength.symm, ihl hl, hr⟩
          | some dr =>
              simp only [hdl, hdr] at hlength ⊢
              split
              · next hrank =>
                  rw [if_pos hrank] at hlength
                  exact ⟨hlength.symm, ihl hl, hr⟩
              · next hrank =>
                  rw [if_neg hrank] at hlength
                  exact ⟨hlength.symm, hl, ihr hr⟩

theorem Sized.remove [DecidableEq α] {data : α} {h h' : LocHeap α} (hs : h.Sized)
    (hrem : remove outRanks data h = some h') : h'.Sized := by
  induction h generalizing h' with
  | null => cases hrem
  | node n d l r ihl ihr =>
      have hlength := (remove_perm hrem).length_eq
      rw [List.length_cons, ← hs.1] at hlength
      simp only [LocHeap.remove] at hrem
      split at hrem
      · cases hrem
        exact hs.dropTop
      · split at hrem
        · cases hrem
        · obtain ⟨-, hl, hr⟩ := hs
          cases hrl : LocHeap.remove outRanks data l with
          | some l' =>
              simp only [hrl, Option.some.injEq] at hrem
              subst hrem
              exact ⟨by omega, ihl hl hrl, hr⟩
          | none =>
              simp only [hrl, Option.map_eq_some_iff] at hrem
              obtain ⟨r', hrr, rfl⟩ := hrem
              exact ⟨by omega, hl, ihr hr hrr⟩

theorem ordered_iff {β : Type u} [LinearOrder β] {key : α → β}
    (hkey : ∀ x y, outRanks x y = true ↔ key x < key y) {h : LocHeap α} :
    h.Ordered key ↔ h.NotOutranked outRanks := by
  have hbelow : ∀ d x, key d ≤ key x ↔ outRanks x d = false := by
    intro d x
    rw [← not_lt, ← hkey, Bool.not_eq_true]
  induction h with
  | null => exact Iff.rfl
  | node n d l r ihl ihr => simp only [Ordered, NotOutranked, hbelow, ihl, ihr]

theorem checkNodes_eq {h : LocHeap α} (ho : h.NotOutranked outRanks) (hs : h.Sized) :
    h.checkNodes outRanks = true := by
  have htop : ∀ {t : LocHeap α} {d : α}, (∀ x ∈ t.toList, outRanks x d = false) →
      (t.peek.any fun x => outRanks x d) = false := by
    intro t d hbelow
    cases hx : t.peek with
    | none => rfl
    | some x => exact hbelow x (peek_mem hx)
  induction h with
  | null => rfl
  | node n d l r ihl ihr =>
      obtain ⟨hbelow, hol, hor⟩ := ho
      obtain ⟨hn, hsl, hsr⟩ := hs
      have hsize : (n : Int) - l.mSizeOf - r.mSizeOf = 1 := by
        rw [hsl.mSizeOf_eq, hsr.mSizeOf_eq]
        simp only [toList_node, List.length_cons, List.length_append] at hn
        omega
      simp only [checkNodes, ihl hol hsl, ihr hor hsr, hsize,
        htop fun x hx => hbelow x (List.mem_append_left _ hx),
        htop fun x hx => hbelow x (List.mem_append_right _ hx)]
      rfl

end

/-- The objects of the heap as a bag. -/
def contents (h : LocHeap α) : Multiset α := h.toList

end LocHeap

inductive HeapOp (α : Type u)
  | push (x : α)
  | pop
  | remove (x : α)

namespace HeapOp

/-- What a priority queue over a multiset hands out and keeps. -/
inductive Serves (outRanks : α → α → Bool) :
    HeapOp α → Multiset α → Option α → Multiset α → Prop
  | push (x : α) (s : Multiset α) : Serves outRanks (.push x) s none (x ::ₘ s)
  | popNothing : Serves outRanks .pop 0 none 0
  | pop (d : α) (s : Multiset α) (highest : ∀ x ∈ s, outRanks x d = false) :
      Serves outRanks .pop (d ::ₘ s) (some d) s
  | remove (x : α) (s : Multiset α) : Serves outRanks (.remove x) (x ::ₘ s) (some x) s
  | removeNothing (x : α) (s : Multiset α) (missing : x ∉ s) :
      Serves outRanks (.remove x) s none s

variable [DecidableEq α] (outRanks : α → α → Bool)

/-- `LocHeap::push`, `LocHeap::pop` and `LocHeap::remove`: the tree afterwards
and the object that is returned. -/
def perform (h : LocHeap α) : HeapOp α → LocHeap α × Option α
  | push x => (h.push outRanks x, none)
  | pop =>
      match h.peek with
      | none => (h, none)
      | some top =>
          let popped := h.popNode outRanks top
          (popped.1, some popped.2)
  | remove x => h.removeNode outRanks x

/-- The heap after a run that starts with an empty one. -/
def after (ops : List (HeapOp α)) : LocHeap α :=
  ops.foldl (fun h op => (op.perform outRanks h).1) .null

theorem after_concat (ops : List (HeapOp α)) (op : HeapOp α) :
    after outRanks (ops ++ [op]) = (op.perform outRanks (after outRanks ops)).1 := by
  simp only [after, List.foldl_append, List.foldl_cons, List.foldl_nil]

variable {outRanks}

theorem perform_pop {h : LocHeap α} {d : α} (hd : h.peek = some d) :
    perform outRanks h .pop = (h.dropTop outRanks, some d) := by
  simp only [perform, hd, LocHeap.popNode_eq]

theorem perform_remove (h : LocHeap α) (x : α) :
    perform outRanks h (.remove x) =
      ((h.remove outRanks x).getD h, (h.remove outRanks x).map fun _ => x) :=
  LocHeap.removeNode_eq outRanks x h

theorem perform_sized {h : LocHeap α} (hs : h.Sized) (op : HeapOp α) :
    (op.perform outRanks h).1.Sized := by
  cases op with
  | push x => exact hs.push x
  | pop =>
      cases hd : h.peek with
      | none =>
          simp only [perform, hd]
          exact hs
      | some d =>
          rw [perform_pop hd]
          exact hs.dropTop
  | remove x =>
      rw [perform_remove]
      cases hrem : h.remove outRanks x with
      | none => exact hs
      | some h' => exact hs.remove hrem

theorem perform_ordered {β : Type u} [LinearOrder β] {key : α → β}
    (hkey : ∀ x y, outRanks x y = true ↔ key x < key y) {h : LocHeap α} (ho : h.Ordered key)
    (op : HeapOp α) : (op.perform outRanks h).1.Ordered key := by
  cases op with
  | push x => exact ho.push hkey x
  | pop =>
      cases hd : h.peek with
      | none =>
          simp only [perform, hd]
          exact ho
      | some d =>
          rw [perform_pop hd]
          exact ho.dropTop hkey
  | remove x =>
      rw [perform_remove]
      cases hrem : h.remove outRanks x with
      | none => exact ho
      | some h' => exact ho.remove hkey hrem

theorem perform_serves {β : Type u} [LinearOrder β] {key : α → β}
    (hkey : ∀ x y, outRanks x y = true ↔ key x < key y) {h : LocHeap α} (ho : h.Ordered key)
    (op : HeapOp α) : Serves outRanks op h.contents (op.perform outRanks h).2
      (op.perform outRanks h).1.contents := by
  cases op with
  | push x =>
      have hbag : (h.push outRanks x).contents = x ::ₘ h.contents :=
        Multiset.coe_eq_coe.mpr (LocHeap.push_perm x h)
      change Serves outRanks (.push x) h.contents none (h.push outRanks x).contents
      rw [hbag]
      exact .push x _
  | pop =>
      cases hd : h.peek with
      | none =>
          rw [LocHeap.peek_eq_none.mp hd]
          exact .popNothing
      | some d =>
          have hbag : h.contents = d ::ₘ (h.dropTop outRanks).contents :=
            Multiset.coe_eq_coe.mpr (LocHeap.dropTop_perm hd)
          rw [perform_pop hd, hbag]
          refine .pop d _ fun x hx => ?_
          have hmem : x ∈ h.contents := by
            rw [hbag]
            exact Multiset.mem_cons_of_mem hx
          rw [← Bool.not_eq_true, hkey, not_lt]
          exact ho.peek_le hd hmem
  | remove x =>
      rw [perform_remove]
      cases hrem : h.remove outRanks x with
      | none =>
          refine .removeNothing x _ fun hx => ?_
          have hfound := ho.remove_isSome hkey hx
          rw [hrem] at hfound
          cases hfound
      | some h' =>
          have hbag : h.contents = x ::ₘ h'.contents :=
            Multiset.coe_eq_coe.mpr (LocHeap.remove_perm hrem)
          rw [hbag]
          exact .remove x _

theorem perform_pop_peek (h : LocHeap α) : (perform outRanks h .pop).2 = h.peek := by
  cases hd : h.peek with
  | none => simp only [perform, hd]
  | some d => rw [perform_pop hd]

theorem perform_remove_missing {h : LocHeap α} {x : α} (hx : x ∉ h.contents) :
    perform outRanks h (.remove x) = (h, none) := by
  rw [perform_remove]
  cases hrem : h.remove outRanks x with
  | none => rfl
  | some h' => exact absurd ((LocHeap.remove_perm hrem).symm.subset List.mem_cons_self) hx

theorem after_sized (ops : List (HeapOp α)) : (after outRanks ops).Sized := by
  induction ops using List.reverseRecOn with
  | nil => trivial
  | append_singleton ops op ih =>
      rw [after_concat]
      exact perform_sized ih op

theorem after_ordered {β : Type u} [LinearOrder β] {key : α → β}
    (hkey : ∀ x y, outRanks x y = true ↔ key x < key y) (ops : List (HeapOp α)) :
    (after outRanks ops).Ordered key := by
  induction ops using List.reverseRecOn with
  | nil => trivial
  | append_singleton ops op ih =>
      rw [after_concat]
      exact perform_ordered hkey ih op

theorem after_leaning {ops : List (HeapOp α)} (hpush : ∀ op ∈ ops, ∃ x, op = .push x) :
    (after outRanks ops).Leaning := by
  induction ops using List.reverseRecOn with
  | nil => trivial
  | append_singleton ops op ih =>
      obtain ⟨x, rfl⟩ := hpush op (List.mem_append_right _ List.mem_cons_self)
      rw [after_concat]
      exact (ih fun op hop => hpush op (List.mem_append_left _ hop)).push (after_sized ops) x

end HeapOp

open HeapOp in
/-- Over every run from an empty heap, whatever the ranks tie: the tree is
sorted vertically and sized, it serves as a priority queue, and after pushes
alone it is balanced. -/
theorem locHeap_serves [DecidableEq α] {ranks : α → α → Int} (hranks : TotalRank ranks)
    (ops : List (HeapOp α)) :
    let h := after (outRanks ranks) ops
    h.NotOutranked (outRanks ranks) ∧ h.Sized ∧ h.checkNodes (outRanks ranks) = true ∧
      (∀ op, Serves (outRanks ranks) op h.contents (op.perform (outRanks ranks) h).2
        (op.perform (outRanks ranks) h).1.contents) ∧
      h.peek = (perform (outRanks ranks) h .pop).2 ∧
      (∀ x, x ∉ h.contents → perform (outRanks ranks) h (.remove x) = (h, none)) ∧
      ((∀ op ∈ ops, ∃ x, op = .push x) → h.Balanced) := by
  intro h
  obtain ⟨β, _, key, hkey⟩ := hranks.exists_key
  have hordered : h.Ordered key := after_ordered hkey ops
  have hsized : h.Sized := after_sized ops
  have hnot : h.NotOutranked (outRanks ranks) := (LocHeap.ordered_iff hkey).mp hordered
  exact ⟨hnot, hsized, LocHeap.checkNodes_eq hnot hsized, perform_serves hkey hordered,
    (perform_pop_peek h).symm, fun x hx => perform_remove_missing hx,
    fun hpush => (after_leaning hpush).balanced⟩

theorem locHeap_serves_ties :
    let ranks : Nat × Bool → Nat × Bool → Int := fun x y => (y.1 : Int) - x.1
    let h := HeapOp.after (outRanks ranks) [.push (1, false), .push (2, false), .push (2, true)]
    h.Sized ∧ h.Balanced ∧
      (HeapOp.perform (outRanks ranks) h (.remove (2, true))).2 = some (2, true) := by
  intro ranks h
  have hranks : TotalRank ranks := by
    refine ⟨fun x y => ?_, fun x y z hxy hyz => ?_⟩
    · change 0 < (y.1 : Int) - x.1 ↔ (x.1 : Int) - y.1 < 0
      omega
    · change 0 ≤ (z.1 : Int) - x.1
      change 0 ≤ (y.1 : Int) - x.1 at hxy
      change 0 ≤ (z.1 : Int) - y.1 at hyz
      omega
  obtain ⟨-, hsized, -, -, -, -, hbalanced⟩ :=
    locHeap_serves hranks [.push (1, false), .push (2, false), .push (2, true)]
  refine ⟨hsized, hbalanced ?_, by decide⟩
  intro op hop
  rcases List.mem_cons.mp hop with rfl | hop
  · exact ⟨_, rfl⟩
  · rcases List.mem_cons.mp hop with rfl | hop
    · exact ⟨_, rfl⟩
    · exact ⟨_, List.mem_singleton.mp hop⟩

end LibraDevice.Timers
