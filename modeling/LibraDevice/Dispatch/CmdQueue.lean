import LibraDevice.Lib.NodeChain
import LibraDevice.Lib.StepRun

/-!
The command queue. Any number of threads post messages and one thread processes them; all
share a mutex and a condition variable. The queue is made by the first thread that asks for
it, which no mutex protects.
-/

namespace LibraDevice.Dispatch

open LibraDevice.NodeChain
open LibraDevice.StepRun

variable {ι ε : Type}

structure MessageQueue where
  Head : Option Nat
  Tail : Option Nat
deriving DecidableEq, Repr

namespace MessageQueue

/-- `Message::setnext` of the message at `item`. -/
def setnext (cell : Nat → Option (Cell ε)) (item : Nat) (next : Option Nat) :
    Option (Nat → Option (Cell ε)) :=
  (cell item).map fun node => Function.update cell item (some { node with next := next })

def enqueue (item : Nat) (cell : Nat → Option (Cell ε)) (Q : MessageQueue) :
    Option ((Nat → Option (Cell ε)) × MessageQueue) :=
  match Q.Head with
  | none => some (cell, ⟨some item, some item⟩)
  | some head =>
      match Q.Tail with
      | none => (setnext cell head (some item)).map fun cell => (cell, { Q with Tail := some item })
      | some tail =>
          (setnext cell tail (some item)).map fun cell => (cell, { Q with Tail := some item })

/-- `dequeue` leaves `Tail` where it is. -/
def dequeue (cell : Nat → Option (Cell ε)) (Q : MessageQueue) :
    Option (Option Nat × MessageQueue) :=
  match Q.Head with
  | none => some (none, Q)
  | some tmp => (cell tmp).map fun node => (some tmp, { Q with Head := node.next })

/-- The queue holds the messages `l`, from the head on. Of an empty queue the tail may be the
address of a message that is gone. -/
structure Chain (cell : Nat → Option (Cell ε)) (Q : MessageQueue) (l : List (Nat × ε)) : Prop where
  seg : Seg cell Q.Head l none
  nodup : (addrs l).Nodup
  tail : l ≠ [] → Q.Tail = (addrs l).getLast?

variable {cell cell' : Nat → Option (Cell ε)} {Q : MessageQueue} {l : List (Nat × ε)} {item : Nat}
  {data : ε}

theorem Chain.congr (h : Chain cell Q l) (hcell : ∀ a ∈ addrs l, cell' a = cell a) :
    Chain cell' Q l where
  seg := h.seg.congr hcell
  nodup := h.nodup
  tail := h.tail

theorem Chain.enqueue (h : Chain cell Q l) (hitem : item ∉ addrs l)
    (hcell : cell item = some ⟨data, none⟩) :
    ∃ cell' Q', Q.enqueue item cell = some (cell', Q') ∧ Chain cell' Q' (l ++ [(item, data)]) ∧
      (∀ a, a ∉ addrs l → cell' a = cell a) ∧ ∀ a, cell' a = none ↔ cell a = none := by
  have hnodup : (addrs (l ++ [(item, data)])).Nodup := by
    rw [addrs_append, addrs_cons, addrs_nil]
    refine List.nodup_append.mpr ⟨h.nodup, List.nodup_singleton item, ?_⟩
    rintro a ha b hb rfl
    exact hitem (List.mem_singleton.mp hb ▸ ha)
  rcases List.eq_nil_or_concat l with rfl | ⟨l, ⟨a, x⟩, rfl⟩
  · have hhead : Q.Head = none := h.seg
    refine ⟨cell, ⟨some item, some item⟩, ?_, ⟨?_, hnodup, fun _ => rfl⟩, fun _ _ => rfl,
      fun _ => Iff.rfl⟩
    · simp only [MessageQueue.enqueue, hhead]
    · exact ⟨rfl, none, hcell, rfl⟩
  · rw [List.concat_eq_append] at *
    obtain ⟨b, -, hb⟩ := h.seg.start_mem
    obtain ⟨n, hn⟩ := h.seg.read (List.mem_append_right l List.mem_cons_self)
    have htail : Q.Tail = some a := by
      rw [h.tail (by simp), addrs_append, addrs_cons, addrs_nil, List.getLast?_concat]
    have hal : a ∉ addrs l := by
      have hnd := h.nodup
      rw [addrs_append, addrs_cons, addrs_nil] at hnd
      exact fun hmem => (List.nodup_append.mp hnd).2.2 a hmem a (List.mem_singleton_self a) rfl
    have hne : item ≠ a := by
      rintro rfl
      exact hitem (by simp)
    refine ⟨Function.update cell a (some ⟨x, some item⟩), { Q with Tail := some item }, ?_,
      ⟨?_, hnodup, fun _ => ?_⟩, ?_, ?_⟩
    · simp only [MessageQueue.enqueue, hb, htail, setnext, hn, Option.map_some]
    · refine seg_append.mpr ⟨some item, h.seg.redirect hal (some item), rfl, none, ?_, rfl⟩
      rw [Function.update_of_ne hne, hcell]
    · rw [addrs_append, addrs_cons, addrs_nil, List.getLast?_concat]
    · intro c hc
      refine Function.update_of_ne ?_ _ _
      rintro rfl
      exact hc (by simp)
    · intro c
      rcases eq_or_ne c a with rfl | hca
      · rw [Function.update_self, hn]
        exact iff_of_false (Option.some_ne_none _) (Option.some_ne_none _)
      · rw [Function.update_of_ne hca]

theorem Chain.dequeue_nil (h : Chain cell Q []) : Q.dequeue cell = some (none, Q) := by
  have hhead : Q.Head = none := h.seg
  simp only [MessageQueue.dequeue, hhead]

theorem Chain.dequeue_cons (h : Chain cell Q ((item, data) :: l)) :
    ∃ Q', Q.dequeue cell = some (some item, Q') ∧ Chain cell Q' l := by
  obtain ⟨hhead, n, hn, hseg⟩ := h.seg
  refine ⟨{ Q with Head := n }, ?_, hseg, (List.nodup_cons.mp h.nodup).2, fun hne => ?_⟩
  · simp only [MessageQueue.dequeue, hhead, hn, Option.map_some]
  · obtain ⟨e, l, rfl⟩ := List.exists_cons_of_ne_nil hne
    exact h.tail (List.cons_ne_nil _ _)

end MessageQueue

/-- Who holds the mutex: the thread that processes, or one that posts. -/
inductive Thread (ι : Type)
  | process
  | poster (t : ι)

/-- Where `MessageQueue::Process` is. Between `asleep` and `woken` it waits for the condition
variable, in `dequeuing`, `waited` and `unlocking` it holds the mutex. -/
inductive Consumer
  | testing
  | creating
  | returning
  | locking (q : Nat)
  | dequeuing (q : Nat)
  | asleep (q : Nat)
  | woken (q : Nat)
  | waited (q : Nat)
  | unlocking (q item : Nat)
  | processing (q item : Nat)
  | ended
deriving DecidableEq, Repr

/-- Where `PostEvt` is; in `enqueuing`, `signalling` and `unlocking` it holds the mutex. -/
inductive Poster (ε : Type)
  | outside
  | testing (data : ε)
  | creating (data : ε)
  | returning (data : ε)
  | allocating (q : Nat) (data : ε)
  | locking (q item : Nat) (data : ε)
  | enqueuing (q item : Nat) (data : ε)
  | signalling
  | unlocking
deriving DecidableEq, Repr

/-- The messages in the heap, the queues, the mutex and the threads; `posted` are the messages
enqueued so far, with their queues, and `delivered` those processed. The callbacks that
`Process` makes post as one more thread. -/
structure CmdSys (ι ε : Type) where
  cell : Nat → Option (Cell ε)
  queue : Nat → Option MessageQueue
  inst : Option Nat
  mutex : Option (Thread ι)
  consumer : Consumer
  poster : ι → Poster ε
  posted : List (Nat × ε)
  delivered : List ε

/-- What happens next: a thread calls `PostEvt`, or a thread goes one step on, where `nw` is
the address that `new` gives. -/
inductive CmdAct (ι ε : Type)
  | post (t : ι) (data : ε)
  | run (t : ι) (nw : Nat)
  | process (nw : Nat)

namespace CmdSys

variable (ι ε) in
def init : CmdSys ι ε where
  cell := fun _ => none
  queue := fun _ => none
  inst := none
  mutex := none
  consumer := .testing
  poster := fun _ => .outside
  posted := []
  delivered := []

/-- `inst = new MessageQueue()`. -/
def create (nw : Nat) (s : CmdSys ι ε) : CmdSys ι ε :=
  { s with queue := Function.update s.queue nw (some ⟨none, none⟩), inst := some nw }

/-- `pthread_cond_signal`: the only thread that ever waits is the one that processes. -/
def signal (s : CmdSys ι ε) : CmdSys ι ε :=
  match s.consumer with
  | .asleep q => { s with consumer := .woken q }
  | _ => s

/-- One step of `MessageQueue::Process`, which may wake up without a signal. -/
def process (nw : Nat) (s : CmdSys ι ε) : Option (CmdSys ι ε) :=
  match s.consumer with
  | .testing => some { s with consumer := if s.inst.isNone then .creating else .returning }
  | .creating => some { s.create nw with consumer := .returning }
  | .returning => some { s with consumer := s.inst.elim .ended .locking }
  | .locking q => some { s with mutex := some .process, consumer := .dequeuing q }
  | .dequeuing q => do
      let Q ← s.queue q
      let (item, Q) ← Q.dequeue s.cell
      match item with
      | none => some { s with mutex := none, consumer := .asleep q }
      | some item =>
          some
            { s with
              queue := Function.update s.queue q (some Q)
              consumer := .unlocking q item }
  | .asleep q => some { s with consumer := .woken q }
  | .woken q => some { s with mutex := some .process, consumer := .waited q }
  | .waited q => some { s with mutex := none, consumer := .locking q }
  | .unlocking q item => some { s with mutex := none, consumer := .processing q item }
  | .processing q item => do
      let node ← s.cell item
      some
        { s with
          cell := Function.update s.cell item none
          delivered := s.delivered ++ [node.data]
          consumer := .locking q }
  | .ended => some s

section

variable [DecidableEq ι]

def put (t : ι) (pc : Poster ε) (s : CmdSys ι ε) : CmdSys ι ε :=
  { s with poster := Function.update s.poster t pc }

/-- One step of `PostEvt`. -/
def run (t : ι) (nw : Nat) (s : CmdSys ι ε) : Option (CmdSys ι ε) :=
  match s.poster t with
  | .outside => some s
  | .testing data => some (s.put t (if s.inst.isNone then .creating data else .returning data))
  | .creating data => some ((s.create nw).put t (.returning data))
  | .returning data => some (s.put t (s.inst.elim .outside fun q => .allocating q data))
  | .allocating q data =>
      some (({ s with cell := Function.update s.cell nw (some ⟨data, none⟩) }).put t
        (.locking q nw data))
  | .locking q item data =>
      some (({ s with mutex := some (.poster t) }).put t (.enqueuing q item data))
  | .enqueuing q item data => do
      let Q ← s.queue q
      let (cell, Q) ← Q.enqueue item s.cell
      some
        (({ s with
          cell := cell
          queue := Function.update s.queue q (some Q)
          posted := s.posted ++ [(q, data)] }).put t .signalling)
  | .signalling => some (s.signal.put t .unlocking)
  | .unlocking => some (({ s with mutex := none }).put t .outside)

def perform (s : CmdSys ι ε) : CmdAct ι ε → Option (CmdSys ι ε)
  | .post t data => some (s.put t (.testing data))
  | .run t nw => s.run t nw
  | .process nw => s.process nw

/-- A thread waits for the mutex, and `new` gives no address that is in use. -/
def Allows (s : CmdSys ι ε) : CmdAct ι ε → Prop
  | .post t _ => s.poster t = .outside
  | .run t nw =>
      match s.poster t with
      | .outside => False
      | .creating _ => s.queue nw = none
      | .allocating _ _ => s.cell nw = none
      | .locking _ _ _ => s.mutex = none
      | _ => True
  | .process nw =>
      match s.consumer with
      | .creating => s.queue nw = none
      | .locking _ | .woken _ => s.mutex = none
      | .ended => False
      | _ => True

def Step (s : CmdSys ι ε) (act : CmdAct ι ε) (s' : CmdSys ι ε) : Prop :=
  s.Allows act ∧ s.perform act = some s'

end

end CmdSys

end LibraDevice.Dispatch
