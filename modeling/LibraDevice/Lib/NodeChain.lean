import Mathlib.Data.List.Nodup
import Mathlib.Logic.Function.Basic

/-!
Singly linked nodes in a heap. A segment is the list of the nodes that lead
from one pointer to another; a heap that agrees on the nodes of a segment has
the segment too.
-/

namespace LibraDevice.NodeChain

universe u

variable {α : Type u}

/-- A node: what it carries and the pointer to the next one. -/
structure Cell (α : Type u) where
  data : α
  next : Option Nat
deriving DecidableEq, Repr

/-- Following the links from `p` visits the nodes `l` and arrives at `q`. -/
def Seg (c : Nat → Option (Cell α)) : Option Nat → List (Nat × α) → Option Nat → Prop
  | p, [], q => p = q
  | p, (a, x) :: l, q => p = some a ∧ ∃ n, c a = some ⟨x, n⟩ ∧ Seg c n l q

/-- The addresses of a segment. -/
def addrs (l : List (Nat × α)) : List Nat :=
  l.map Prod.fst

@[simp] theorem addrs_nil : addrs ([] : List (Nat × α)) = [] := rfl

@[simp] theorem addrs_cons (a : Nat) (x : α) (l : List (Nat × α)) :
    addrs ((a, x) :: l) = a :: addrs l := rfl

@[simp] theorem addrs_append (l l' : List (Nat × α)) :
    addrs (l ++ l') = addrs l ++ addrs l' :=
  List.map_append

variable {c c' : Nat → Option (Cell α)} {p q r : Option Nat} {l l' : List (Nat × α)} {a : Nat}
  {x : α}

@[simp] theorem seg_nil : Seg c p [] q ↔ p = q :=
  Iff.rfl

theorem seg_append :
    Seg c p (l ++ l') r ↔ ∃ q, Seg c p l q ∧ Seg c q l' r := by
  induction l generalizing p with
  | nil =>
      constructor
      · intro h
        exact ⟨p, rfl, h⟩
      · rintro ⟨q, rfl, h⟩
        exact h
  | cons e l ih =>
      obtain ⟨a, x⟩ := e
      constructor
      · rintro ⟨hp, n, hn, h⟩
        obtain ⟨q, hl, hl'⟩ := ih.mp h
        exact ⟨q, ⟨hp, n, hn, hl⟩, hl'⟩
      · rintro ⟨q, ⟨hp, n, hn, hl⟩, hl'⟩
        exact ⟨hp, n, hn, ih.mpr ⟨q, hl, hl'⟩⟩

theorem Seg.congr (h : Seg c p l q) (hc : ∀ b ∈ addrs l, c' b = c b) : Seg c' p l q := by
  induction l generalizing p with
  | nil => exact h
  | cons e l ih =>
      obtain ⟨a, x⟩ := e
      obtain ⟨hp, n, hn, hs⟩ := h
      refine ⟨hp, n, ?_, ih hs fun b hb => hc b (List.mem_cons_of_mem _ hb)⟩
      rw [hc a List.mem_cons_self, hn]

theorem Seg.update (h : Seg c p l q) (ha : a ∉ addrs l) (v : Option (Cell α)) :
    Seg (Function.update c a v) p l q := by
  refine h.congr fun b hb => ?_
  rw [Function.update_of_ne]
  rintro rfl
  exact ha hb

theorem Seg.read (h : Seg c p l q) (hx : (a, x) ∈ l) : ∃ n, c a = some ⟨x, n⟩ := by
  induction l generalizing p with
  | nil => cases hx
  | cons e l ih =>
      obtain ⟨b, y⟩ := e
      obtain ⟨-, n, hn, hs⟩ := h
      rcases List.mem_cons.mp hx with heq | hl
      · cases heq
        exact ⟨n, hn⟩
      · exact ih hs hl

theorem Seg.redirect (h : Seg c p (l ++ [(a, x)]) q) (ha : a ∉ addrs l) (r : Option Nat) :
    Seg (Function.update c a (some ⟨x, r⟩)) p (l ++ [(a, x)]) r := by
  obtain ⟨m, hl, hp, -⟩ := seg_append.mp h
  exact seg_append.mpr ⟨m, hl.update ha _, hp, r, by rw [Function.update_self], rfl⟩

theorem Seg.start_mem (h : Seg c p (l ++ [(a, x)]) q) :
    ∃ b ∈ addrs (l ++ [(a, x)]), p = some b := by
  cases l with
  | nil => exact ⟨a, List.mem_cons_self, h.1⟩
  | cons e l => exact ⟨e.1, List.mem_cons_self, h.1⟩

theorem Seg.start_eq (h : Seg c p l none) : p = (addrs l).head? := by
  cases l with
  | nil => exact h
  | cons e l => exact h.1

/-- The link that leads on from the node at `b`, or the start `p` where there
is no such node, is redirected to `n`. -/
def relinked (c : Nat → Option (Cell α)) (p b n : Option Nat) :
    (Nat → Option (Cell α)) × Option Nat :=
  match b with
  | none => (c, n)
  | some b => (Function.update c b ((c b).map fun e => ⟨e.data, n⟩), p)

/-- A segment goes on with another one once its last node, if there is one,
leads there. -/
theorem Seg.relink {m n : Option Nat} (h : Seg c p l m) (hnodup : (addrs (l ++ l')).Nodup)
    (h' : Seg c n l' q) :
    Seg (relinked c p (addrs l).getLast? n).1 (relinked c p (addrs l).getLast? n).2
      (l ++ l') q := by
  rcases List.eq_nil_or_concat l with rfl | ⟨k, ⟨b, y⟩, rfl⟩
  · exact h'
  · rw [List.concat_eq_append] at *
    rw [addrs_append, addrs_append, addrs_cons, addrs_nil, List.append_assoc,
      List.singleton_append, List.nodup_middle, List.nodup_cons, List.mem_append, not_or] at hnodup
    obtain ⟨⟨hbk, hbl⟩, -⟩ := hnodup
    obtain ⟨n', hcell⟩ := h.read (List.mem_append_right k List.mem_cons_self)
    rw [addrs_append, addrs_cons, addrs_nil, List.getLast?_concat]
    simp only [relinked, hcell, Option.map_some]
    exact seg_append.mpr ⟨n, h.redirect hbk n, h'.update hbl _⟩

theorem Seg.skip {n : Option Nat} (h : Seg c p (l ++ (a, x) :: l') q)
    (hnodup : (addrs (l ++ (a, x) :: l')).Nodup) (hcell : c a = some ⟨x, n⟩) :
    Seg (relinked c p (addrs l).getLast? n).1 (relinked c p (addrs l).getLast? n).2
      (l ++ l') q := by
  obtain ⟨m, hl, -, n', hn, hl'⟩ := seg_append.mp h
  obtain rfl : n' = n := by
    rw [hcell] at hn
    cases hn
    rfl
  refine hl.relink ?_ hl'
  rw [addrs_append, addrs_cons, List.nodup_middle] at hnodup
  rw [addrs_append]
  exact (List.nodup_cons.mp hnodup).2

/-- A list linked both ways: the forward links lead from the head along `l` to
the end, the backward links from the tail along the reverse of `l`. -/
structure Linked (nexts prevs : Nat → Option (Cell α)) (head tail : Option Nat)
    (l : List (Nat × α)) : Prop where
  forward : Seg nexts head l none
  backward : Seg prevs tail l.reverse none
  nodup : (addrs l).Nodup

theorem addrs_reverse (l : List (Nat × α)) : addrs l.reverse = (addrs l).reverse :=
  List.map_reverse

section

variable {nexts prevs : Nat → Option (Cell α)} {head tail : Option Nat}

theorem linked_nil (nexts prevs : Nat → Option (Cell α)) : Linked nexts prevs none none [] where
  forward := rfl
  backward := rfl
  nodup := List.nodup_nil

theorem Linked.head_eq (h : Linked nexts prevs head tail l) : head = (addrs l).head? :=
  h.forward.start_eq

theorem Linked.tail_eq (h : Linked nexts prevs head tail l) : tail = (addrs l).getLast? := by
  rw [h.backward.start_eq, addrs_reverse, List.head?_reverse]

theorem Linked.links (h : Linked nexts prevs head tail (l ++ (a, x) :: l')) :
    nexts a = some ⟨x, (addrs l').head?⟩ ∧ prevs a = some ⟨x, (addrs l).getLast?⟩ := by
  constructor
  · obtain ⟨m, -, -, n, hn, hs⟩ := seg_append.mp h.forward
    rw [hn, hs.start_eq]
  · have hb := h.backward
    rw [List.reverse_append, List.reverse_cons, List.append_assoc,
      List.singleton_append] at hb
    obtain ⟨m, -, -, n, hn, hs⟩ := seg_append.mp hb
    rw [hn, hs.start_eq, addrs_reverse, List.head?_reverse]

theorem Linked.congr {nexts' prevs' : Nat → Option (Cell α)}
    (h : Linked nexts prevs head tail l) (hn : ∀ b ∈ addrs l, nexts' b = nexts b)
    (hp : ∀ b ∈ addrs l, prevs' b = prevs b) : Linked nexts' prevs' head tail l where
  forward := h.forward.congr hn
  backward := h.backward.congr fun b hb => hp b (by
    rw [addrs_reverse, List.mem_reverse] at hb
    exact hb)
  nodup := h.nodup

theorem Linked.pushFront (h : Linked nexts prevs head tail l) (ha : a ∉ addrs l)
    (hn : nexts a = some ⟨x, head⟩) (hp : prevs a = some ⟨x, none⟩) :
    Linked nexts (relinked prevs tail head (some a)).1 (some a)
      (relinked prevs tail head (some a)).2 ((a, x) :: l) := by
  refine ⟨⟨rfl, head, hn, h.forward⟩, ?_, List.nodup_cons.mpr ⟨ha, h.nodup⟩⟩
  have hlast : head = (addrs l.reverse).getLast? := by
    rw [addrs_reverse, List.getLast?_reverse]
    exact h.head_eq
  rw [List.reverse_cons]
  nth_rewrite 1 2 [hlast]
  refine h.backward.relink ?_ ⟨rfl, none, hp, rfl⟩
  rw [addrs_append, addrs_reverse, addrs_cons, addrs_nil]
  refine List.nodup_append.mpr ⟨List.nodup_reverse.mpr h.nodup, List.nodup_singleton a, ?_⟩
  rintro b hb c hc rfl
  exact ha (List.mem_reverse.mp (List.mem_singleton.mp hc ▸ hb))

theorem Linked.unlink {n r : Option Nat} (h : Linked nexts prevs head tail (l ++ (a, x) :: l'))
    (hn : nexts a = some ⟨x, n⟩) (hr : prevs a = some ⟨x, r⟩) :
    Linked (relinked nexts head r n).1 (relinked prevs tail n r).1
      (relinked nexts head r n).2 (relinked prevs tail n r).2 (l ++ l') := by
  obtain ⟨hnx, hpv⟩ := h.links
  obtain rfl : n = (addrs l').head? := by
    rw [hn] at hnx
    cases hnx
    rfl
  obtain rfl : r = (addrs l).getLast? := by
    rw [hr] at hpv
    cases hpv
    rfl
  have hlast : (addrs l').head? = (addrs l'.reverse).getLast? := by
    rw [addrs_reverse, List.getLast?_reverse]
  have hb := h.backward
  have hnodup := h.nodup
  rw [List.reverse_append, List.reverse_cons, List.append_assoc, List.singleton_append] at hb
  refine ⟨h.forward.skip hnodup hn, ?_, ?_⟩
  · rw [List.reverse_append, hlast]
    refine hb.skip ?_ hr
    have hrev : l'.reverse ++ (a, x) :: l.reverse = (l ++ (a, x) :: l').reverse := by
      rw [List.reverse_append, List.reverse_cons, List.append_assoc, List.singleton_append]
    rw [hrev, addrs_reverse]
    exact List.nodup_reverse.mpr hnodup
  · rw [addrs_append, addrs_cons, List.nodup_middle] at hnodup
    rw [addrs_append]
    exact (List.nodup_cons.mp hnodup).2

end

end LibraDevice.NodeChain
