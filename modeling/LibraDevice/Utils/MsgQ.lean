import LibraDevice.Utils.ListRuns

/-!
The message queue over the linked list. Every function holds the queue's mutex
while it works on the list; a receiver that finds the list empty waits until it
is woken, and several may wait at once.
-/

namespace LibraDevice.Utils

open LibraDevice.NodeChain
open LibraDevice.StepRun

variable {α δ : Type}

/-- `msq_q_err_type`. -/
inductive MsgQErr
  | success
  | failureGeneral
  | invalidParameter
  | invalidHandle
  | unavailableResource
  | insufficientBuffer
deriving DecidableEq, Repr

/-- `convert_linked_list_err_type`. -/
def LinkedListErr.convert : LinkedListErr → MsgQErr
  | .success => .success
  | .invalidParameter => .invalidParameter
  | .invalidHandle => .invalidHandle
  | .unavailableResource => .unavailableResource
  | .insufficientBuffer => .insufficientBuffer
  | .failureGeneral => .failureGeneral

structure MsgQ (α δ : Type) where
  msgList : ListState α δ
  unblocked : Bool

namespace MsgQ

/-- `msg_q_init`. -/
def init (α δ : Type) : MsgQ α δ where
  msgList := ListState.init α δ
  unblocked := false

/-- `msg_q_snd`. -/
def snd (msgObj : Option α) (dealloc : Option δ) (elem : Option Nat) (q : MsgQ α δ) :
    Option (MsgQErr × MsgQ α δ) :=
  if msgObj.isNone then
    some (.invalidParameter, q)
  else if q.unblocked then
    some (.unavailableResource, q)
  else
    (q.msgList.add msgObj dealloc elem).map fun r =>
      (r.1.convert, { q with msgList := r.2 })

/-- The condition on which a receiver waits. -/
def waits (q : MsgQ α δ) : Bool :=
  q.msgList.isEmpty && !q.unblocked

/-- The end of `msg_q_rcv`, once there is nothing to wait for. -/
def receive (q : MsgQ α δ) : Option ((MsgQErr × Option α) × MsgQ α δ) :=
  (q.msgList.remove true).map fun r =>
    ((r.1.err.convert, r.1.data), { q with msgList := r.2 })

/-- `msg_q_flush`. -/
def flush (q : MsgQ α δ) : Option (MsgQErr × MsgQ α δ) :=
  q.msgList.flush.map fun l => (.success, { q with msgList := l })

/-- `msg_q_unblock`. -/
def unblock (q : MsgQ α δ) : MsgQErr × MsgQ α δ :=
  if q.unblocked then (.unavailableResource, q) else (.success, { q with unblocked := true })

end MsgQ

/-- What the threads do: `msg_q_rcv` is entered by `rcv`, and a receiver that
waits goes on with `wake`. -/
inductive MsgQOp (α δ : Type)
  | snd (msgObj : Option α) (dealloc : Option δ) (elem : Option Nat)
  | rcv (wanted : Bool)
  | wake
  | flush
  | unblock

/-- A queue in use: the receivers that wait, and what has been sent and
received so far, in order. -/
structure Traffic (α δ : Type) where
  q : MsgQ α δ
  waiting : Nat
  sent : List (Entry α δ)
  received : List α

namespace Traffic

def init (α δ : Type) : Traffic α δ where
  q := MsgQ.init α δ
  waiting := 0
  sent := []
  received := []

/-- A receiver takes what the list has for it. -/
def receive (t : Traffic α δ) : Option (Traffic α δ) :=
  t.q.receive.map fun r =>
    { t with q := r.2, received := t.received ++ r.1.2.toList }

def perform (t : Traffic α δ) : MsgQOp α δ → Option (Traffic α δ)
  | .snd msgObj dealloc elem =>
      (t.q.snd msgObj dealloc elem).map fun r =>
        { t with
          q := r.2
          sent := t.sent ++
            if r.1 = .success then (msgObj.map fun x => (x, dealloc)).toList else [] }
  | .rcv wanted =>
      if !wanted || t.q.unblocked then some t
      else if t.q.waits then some { t with waiting := t.waiting + 1 }
      else t.receive
  | .wake =>
      if t.q.waits then some t
      else (t.receive).map fun t => { t with waiting := t.waiting - 1 }
  | .flush => t.q.flush.map fun r => { t with q := r.2 }
  | .unblock => some { t with q := t.q.unblock.2 }

/-- The allocator gives no address that is in use, and only a receiver that
waits is woken. -/
def Allows (t : Traffic α δ) : MsgQOp α δ → Prop
  | .snd _ _ (some a) => t.q.msgList.elems a = none
  | .wake => 0 < t.waiting
  | _ => True

def Step (t : Traffic α δ) (op : MsgQOp α δ) (t' : Traffic α δ) : Prop :=
  t.Allows op ∧ t.perform op = some t'

/-- The messages leave the queue in the order they were sent, each with its
fate: it is received, or flushed and then deallocated. -/
structure Fifo (t : Traffic α δ) (gone : List (Entry α δ × Bool)) (left : List (Entry α δ)) :
    Prop where
  sent : t.sent = gone.map Prod.fst ++ left
  received : t.received = (gone.filter Prod.snd).map fun m => m.1.1
  deallocated : t.q.msgList.deallocated.Perm
    (deallocations ((gone.filter fun m => !m.2).map Prod.fst))

/-- The list in the heap holds what is left, the last one sent at the head. -/
def Sound (t : Traffic α δ) : Prop :=
  ∃ gone l, t.q.msgList.Lists l ∧ t.Fifo gone (l.map Prod.snd).reverse

theorem init_sound : (init α δ).Sound :=
  ⟨[], [], ListState.init_lists, rfl, rfl, List.Perm.nil⟩

theorem deallocations_reverse (q : List (Entry α δ)) :
    (deallocations q).Perm (deallocations q.reverse) := by
  rw [deallocations, deallocations, List.filterMap_reverse]
  exact (List.reverse_perm _).symm

theorem deallocations_append (q q' : List (Entry α δ)) :
    deallocations (q ++ q') = deallocations q ++ deallocations q' :=
  List.filterMap_append

variable {t t' : Traffic α δ}

theorem Sound.waiting (h : t.Sound) (n : Nat) : Sound { t with waiting := n } := by
  obtain ⟨gone, l, hl, hfifo⟩ := h
  exact ⟨gone, l, hl, hfifo.sent, hfifo.received, hfifo.deallocated⟩

theorem Sound.receive (h : t.Sound) :
    ∃ t', t.receive = some t' ∧ t'.Sound := by
  obtain ⟨gone, l, hl, hfifo⟩ := h
  rcases List.eq_nil_or_concat l with rfl | ⟨l, ⟨a, x, f⟩, rfl⟩
  · have htail := hl.nil_iff.mpr rfl
    refine ⟨t, ?_, gone, [], hl, hfifo⟩
    simp only [Traffic.receive, MsgQ.receive, ListState.remove, htail, if_true, Option.map_some,
      Option.toList_none, List.append_nil]
  · rw [List.concat_eq_append] at hl hfifo
    obtain ⟨s', hs', hl', hd'⟩ := hl.remove
    have hflushed : (gone ++ [((x, f), true)]).filter (fun m => !m.2) =
        gone.filter fun m => !m.2 := by
      rw [List.filter_append]
      exact List.append_nil _
    refine ⟨{ t with q := { t.q with msgList := s' }, received := t.received ++ [x] }, ?_,
      gone ++ [((x, f), true)], l, hl', ?_, ?_, ?_⟩
    · simp only [Traffic.receive, MsgQ.receive, hs', Option.map_some, Option.toList_some]
    · rw [hfifo.sent, List.map_append, List.map_append, List.reverse_append, List.append_assoc]
      rfl
    · simp only [hfifo.received, List.filter_append, List.map_append]
      rfl
    · rw [hflushed, hd']
      exact hfifo.deallocated

theorem Sound.snd (h : t.Sound) (msgObj : Option α) (dealloc : Option δ) (elem : Option Nat)
    (hfresh : t.Allows (.snd msgObj dealloc elem)) :
    ∃ t', t.perform (.snd msgObj dealloc elem) = some t' ∧ t'.Sound := by
  have hrefused : { t with sent := t.sent ++ [] } = t := by
    rw [List.append_nil]
  cases msgObj with
  | none =>
      refine ⟨t, ?_, h⟩
      simp only [perform, MsgQ.snd, Option.isNone_none, if_true, Option.map_some,
        reduceCtorEq, if_false, hrefused]
  | some x =>
      cases hunblocked : t.q.unblocked with
      | true =>
          refine ⟨t, ?_, h⟩
          simp only [perform, MsgQ.snd, Option.isNone_some, Bool.false_eq_true, if_false,
            hunblocked, if_true, Option.map_some, reduceCtorEq, hrefused]
      | false =>
          cases elem with
          | none =>
              have hq : ({ msgList := t.q.msgList, unblocked := false } : MsgQ α δ) = t.q := by
                rw [← hunblocked]
              refine ⟨t, ?_, h⟩
              simp only [perform, MsgQ.snd, Option.isNone_some, Bool.false_eq_true, if_false,
                hunblocked, ListState.add, Option.map_some, LinkedListErr.convert, reduceCtorEq,
                hq, hrefused]
          | some a =>
              obtain ⟨gone, l, hl, hfifo⟩ := h
              obtain ⟨s', hs', hl', hd'⟩ := hl.add hfresh x dealloc
              refine ⟨{ t with
                q := { t.q with msgList := s' }, sent := t.sent ++ [(x, dealloc)] }, ?_,
                ⟨gone, (a, (x, dealloc)) :: l, hl', ?_, hfifo.received, ?_⟩⟩
              · simp only [perform, MsgQ.snd, Option.isNone_some, Bool.false_eq_true, if_false,
                  hunblocked, hs', Option.map_some, LinkedListErr.convert, if_true,
                  Option.toList_some]
              · rw [List.map_cons, List.reverse_cons, ← List.append_assoc, ← hfifo.sent]
              · rw [hd']
                exact hfifo.deallocated

theorem Sound.flush (h : t.Sound) : ∃ t', t.perform .flush = some t' ∧ t'.Sound := by
  obtain ⟨gone, l, hl, hfifo⟩ := h
  obtain ⟨s', hs', hl', hd'⟩ := hl.flush
  have hkept : ((l.map Prod.snd).reverse.map fun e => (e, false)).filter Prod.snd = [] := by
    refine List.filter_eq_nil_iff.mpr ?_
    intro m hm
    obtain ⟨e, -, rfl⟩ := List.mem_map.mp hm
    exact Bool.false_ne_true
  have hflushed : ((l.map Prod.snd).reverse.map fun e => (e, false)).filter (fun m => !m.2) =
      (l.map Prod.snd).reverse.map fun e => (e, false) := by
    refine List.filter_eq_self.mpr ?_
    intro m hm
    obtain ⟨e, -, rfl⟩ := List.mem_map.mp hm
    rfl
  have hfst : ((l.map Prod.snd).reverse.map fun e => (e, false)).map Prod.fst =
      (l.map Prod.snd).reverse := by
    rw [List.map_map]
    exact List.map_id _
  refine ⟨{ t with q := { t.q with msgList := s' } }, ?_,
    ⟨gone ++ (l.map Prod.snd).reverse.map fun e => (e, false), [], hl', ?_, ?_, ?_⟩⟩
  · simp only [perform, MsgQ.flush, hs', Option.map_some]
  · rw [hfifo.sent, List.map_append, hfst]
    exact (List.append_nil _).symm
  · rw [List.filter_append, hkept, List.append_nil]
    exact hfifo.received
  · rw [hd', List.filter_append, hflushed, List.map_append, hfst, deallocations_append]
    exact hfifo.deallocated.append (deallocations_reverse _)

theorem Sound.step (h : t.Sound) (op : MsgQOp α δ) (hallows : t.Allows op) :
    ∃ t', t.perform op = some t' ∧ t'.Sound := by
  cases op with
  | snd msgObj dealloc elem => exact h.snd msgObj dealloc elem hallows
  | rcv wanted =>
      simp only [perform]
      split
      · exact ⟨t, rfl, h⟩
      · split
        · exact ⟨_, rfl, h.waiting _⟩
        · exact h.receive
  | wake =>
      simp only [perform]
      split
      · exact ⟨t, rfl, h⟩
      · obtain ⟨t', ht', h'⟩ := h.receive
        rw [ht']
        exact ⟨_, rfl, h'.waiting _⟩
  | flush => exact h.flush
  | unblock =>
      refine ⟨_, rfl, ?_⟩
      obtain ⟨gone, l, hl, hfifo⟩ := h
      have hlist : t.q.unblock.2.msgList = t.q.msgList := by
        cases hunblocked : t.q.unblocked <;> simp only [MsgQ.unblock, hunblocked] <;> rfl
      refine ⟨gone, l, ?_, hfifo.sent, hfifo.received, ?_⟩
      · rw [hlist]
        exact hl
      · rw [hlist]
        exact hfifo.deallocated

theorem run_sound {ops : List (MsgQOp α δ)} (h : Run Step (init α δ) ops t) : t.Sound := by
  refine h.invariant init_sound ?_
  intro t op t' ht hs
  obtain ⟨t₁, ht₁, hsound⟩ := ht.step op hs.1
  rw [hs.2] at ht₁
  cases ht₁
  exact hsound

end Traffic

/-- The list over any run of its operations, and the queue over any run of its
users: both directions of the links describe one sequence, every operation does
on it what it should, every object is accounted for, and messages leave the
queue once and in the order they were sent. -/
theorem linkedList_fifo (α δ : Type) :
    (∀ (ops : List (ListOp α δ)) (u : Usage α δ), Run Usage.Step (Usage.init α δ) ops u →
      ∃ l, u.list.Lists l ∧
        Accounted u.added (l.map Prod.snd : List (Entry α δ)) u.handed u.list.deallocated ∧
        ∀ op : ListOp α δ, op.Fresh u.list → ∃ out s' q calls, op.perform u.list = some (out, s') ∧
          s'.Holds q ∧ s'.deallocated = u.list.deallocated ++ calls ∧
            op.Serves (l.map Prod.snd) out q calls) ∧
      ∀ (ops : List (MsgQOp α δ)) (t : Traffic α δ),
        Run Traffic.Step (Traffic.init α δ) ops t →
        (∃ gone l, t.q.msgList.Lists l ∧ t.Fifo gone (l.map Prod.snd).reverse) ∧
          ∀ op, t.Allows op → ∃ t', t.perform op = some t' := by
  constructor
  · intro ops u hrun
    obtain ⟨l, hl, haccounted⟩ := Usage.run_sound hrun
    exact ⟨l, hl, haccounted, ListOp.perform_serves hl⟩
  · intro ops t hrun
    have hsound := Traffic.run_sound hrun
    refine ⟨hsound, fun op hallows => ?_⟩
    obtain ⟨t', ht', -⟩ := hsound.step op hallows
    exact ⟨t', ht'⟩

instance ListOp.instDecidableFresh (s : ListState Nat Unit) :
    (op : ListOp Nat Unit) → Decidable (op.Fresh s)
  | .add _ _ (some a) => inferInstanceAs (Decidable (s.elems a = none))
  | .add _ _ none => isTrue trivial
  | .remove _ => isTrue trivial
  | .search _ _ _ => isTrue trivial
  | .flush => isTrue trivial

instance Traffic.instDecidableAllows (t : Traffic Nat Unit) :
    (op : MsgQOp Nat Unit) → Decidable (t.Allows op)
  | .snd _ _ (some a) => inferInstanceAs (Decidable (t.q.msgList.elems a = none))
  | .snd _ _ none => isTrue trivial
  | .rcv _ => isTrue trivial
  | .wake => inferInstanceAs (Decidable (0 < t.waiting))
  | .flush => isTrue trivial
  | .unblock => isTrue trivial

def Usage.next (u : Usage Nat Unit) (op : ListOp Nat Unit) : Option (Usage Nat Unit) :=
  if op.Fresh u.list then
    (op.perform u.list).map fun r => ⟨r.2, u.added + op.adds r.1, u.handed + op.hands r.1⟩
  else none

theorem Usage.next_step (u : Usage Nat Unit) (op : ListOp Nat Unit) (u' : Usage Nat Unit)
    (h : u.next op = some u') : u.Step op u' := by
  rw [Usage.next, Option.ite_none_right_eq_some] at h
  obtain ⟨hfresh, h⟩ := h
  obtain ⟨⟨out, s⟩, hperform, rfl⟩ := Option.map_eq_some_iff.mp h
  exact ⟨hfresh, out, hperform, rfl, rfl⟩

def Traffic.next (t : Traffic Nat Unit) (op : MsgQOp Nat Unit) : Option (Traffic Nat Unit) :=
  if t.Allows op then t.perform op else none

theorem Traffic.next_step (t : Traffic Nat Unit) (op : MsgQOp Nat Unit) (t' : Traffic Nat Unit)
    (h : t.next op = some t') : t.Step op t' :=
  Option.ite_none_right_eq_some.mp h

/-- Three objects: the oldest is removed, the next found, and the last flushed. -/
def threeObjects : List (ListOp Nat Unit) :=
  [.add (some 5) (some ()) (some 1), .add (some 6) none (some 2), .remove true,
    .add (some 7) (some ()) (some 1), .search (fun x => x = 6) true true, .flush]

/-- Two receivers wait for the first two of three messages. -/
def threeMessages : List (MsgQOp Nat Unit) :=
  [.rcv true, .rcv true, .snd (some 5) none (some 1), .snd (some 6) none (some 2), .wake,
    .snd (some 7) (some ()) (some 1), .wake, .unblock]

theorem linkedList_fifo_three :
    (∃ u l, Run Usage.Step (Usage.init Nat Unit) threeObjects u ∧ u.handed = {5, 6} ∧
        u.list.deallocated = [((), 7)] ∧ u.list.Lists l) ∧
      ∃ t gone l, Run Traffic.Step (Traffic.init Nat Unit) threeMessages t ∧
        t.received = [5, 6] ∧ t.q.msgList.Lists l ∧ t.Fifo gone (l.map Prod.snd).reverse := by
  have hobjects : (threeObjects.foldlM Usage.next (Usage.init Nat Unit)).map
      (fun u => (u.handed, u.list.deallocated)) = some ({5, 6}, [((), 7)]) := by
    decide
  have hmessages : (threeMessages.foldlM Traffic.next (Traffic.init Nat Unit)).map
      Traffic.received = some [5, 6] := by
    decide
  obtain ⟨u, hu, hhanded⟩ := Option.map_eq_some_iff.mp hobjects
  obtain ⟨t, ht, hreceived⟩ := Option.map_eq_some_iff.mp hmessages
  obtain ⟨hhanded, hdeallocated⟩ := Prod.mk.inj hhanded
  have hrun := Run.of_foldlM Usage.next_step hu
  have hsent := Run.of_foldlM Traffic.next_step ht
  obtain ⟨l, hl, -⟩ := (linkedList_fifo Nat Unit).1 _ _ hrun
  obtain ⟨⟨gone, l', hl', hfifo⟩, -⟩ := (linkedList_fifo Nat Unit).2 _ _ hsent
  exact ⟨⟨u, l, hrun, hhanded, hdeallocated, hl⟩, t, gone, l', hsent, hreceived, hl', hfifo⟩

/-- The list with one object at address `1`. -/
def Usage.one : Usage Nat Unit where
  list :=
    { pHead := some 1
      pTail := some 1
      elems := Function.update (fun _ => none) 1 (some ⟨none, none, 5, none⟩)
      live := 1
      deallocated := [] }
  added := 0 + {(5, none)}
  handed := 0 + 0

theorem Usage.run_one :
    Run Usage.Step (Usage.init Nat Unit) [.add (some 5) none (some 1)] Usage.one :=
  Run.snoc .nil ⟨rfl, _, rfl, rfl, rfl⟩

/-- An object without a dealloc function is flushed: it is neither stored any
more, nor was it handed out or passed to such a function. -/
theorem flush_drops : ∃ u : Usage Nat Unit,
    Run Usage.Step (Usage.init Nat Unit) [.add (some 5) none (some 1), .flush] u ∧
      u.added = {(5, none)} ∧ u.list.Holds [] ∧ u.handed = 0 ∧ u.list.deallocated = [] := by
  refine ⟨⟨⟨none, none, Function.update Usage.one.list.elems 1 none, 0, []⟩, _, _⟩,
    Usage.run_one.snoc ⟨trivial, ⟨.success, none⟩, rfl, rfl, rfl⟩, rfl,
    ⟨[], ⟨linked_nil _ _, rfl, ?_⟩, rfl⟩, rfl, rfl⟩
  intro a e he
  change Function.update Usage.one.list.elems 1 none a = some e at he
  rw [Usage.one, Function.update_idem] at he
  rcases eq_or_ne a 1 with rfl | ha
  · rw [Function.update_self] at he
    cases he
  · rw [Function.update_of_ne ha] at he
    cases he

end LibraDevice.Utils
