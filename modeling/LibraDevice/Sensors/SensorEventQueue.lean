import Mathlib.Algebra.Group.Int.Defs
import Mathlib.Algebra.Group.Nat.Defs
import Mathlib.Tactic.SplitIfs
import LibraDevice.Lib.Bytes
import LibraDevice.Lib.Ring
import LibraDevice.Lib.StepRun

/-!
The event queue of a sub-HAL: one writer, which fills a region of the array
without the lock, and one reader, and their interleavings.
-/

namespace LibraDevice.Sensors

open LibraDevice.Ring
open Bytes (toInt toInt_of_range)
open LibraDevice.StepRun

universe u

variable {α : Type u}

/-- `mData` goes on with what lies around the array. -/
structure SensorEventQueue (α : Type u) where
  mCapacity : Int
  mStart : Int
  mSize : Int
  mData : Int → α

namespace SensorEventQueue

def new (capacity : Int) (mData : Int → α) : SensorEventQueue α where
  mCapacity := capacity
  mStart := 0
  mSize := 0
  mData := mData

def firstWritable (q : SensorEventQueue α) : Int :=
  (toInt (q.mStart + q.mSize)).tmod q.mCapacity

/-- The index of the region, if any, and its length. -/
def getWritableRegion (q : SensorEventQueue α) (requestedLength : Int) : Option Int × Int :=
  if q.mSize = q.mCapacity ∨ requestedLength ≤ 0 then (none, 0)
  else
    let lastWritable := toInt (toInt (q.firstWritable + requestedLength) - 1)
    let lastWritable := if q.mCapacity - 1 < lastWritable then q.mCapacity - 1 else lastWritable
    let lastWritable :=
      if q.firstWritable < q.mStart ∧ q.mStart ≤ lastWritable then q.mStart - 1 else lastWritable
    (some q.firstWritable, toInt (toInt (lastWritable - q.firstWritable) + 1))

def markAsWritten (q : SensorEventQueue α) (count : Int) : SensorEventQueue α :=
  { q with mSize := toInt (q.mSize + count) }

def peek (q : SensorEventQueue α) : Option α :=
  if q.mSize = 0 then none else some (q.mData q.mStart)

def dequeue (q : SensorEventQueue α) : SensorEventQueue α :=
  if q.mSize = 0 then q
  else
    { q with
      mSize := q.mSize - 1
      mStart := (toInt (q.mStart + 1)).tmod q.mCapacity }

/-- A write to the array by the owner of a region. -/
def write (q : SensorEventQueue α) (i : Int) (event : α) : SensorEventQueue α :=
  { q with mData := Function.update q.mData i event }

/-- The events that have not been read, in order. -/
def unread (q : SensorEventQueue α) : List α :=
  contents q.mData q.mCapacity q.mStart q.mSize.toNat

/-- The slot holds an event that has not been read. -/
def Unread (q : SensorEventQueue α) (i : Int) : Prop :=
  ∃ j : Nat, j < q.mSize ∧ i = slot q.mCapacity q.mStart j

/-- The sums of `getWritableRegion` are in the range of an `int`. -/
def InRange (q : SensorEventQueue α) (requestedLength : Int) : Prop :=
  q.mSize ≠ q.mCapacity → 0 < requestedLength →
    q.mStart + q.mSize < 2 ^ 31 ∧ q.firstWritable + requestedLength < 2 ^ 31

/-- The start is a slot, and no more events are stored than there are slots. -/
structure Valid (q : SensorEventQueue α) : Prop where
  start_nonneg : 0 ≤ q.mStart
  start_lt : q.mStart < q.mCapacity
  size_nonneg : 0 ≤ q.mSize
  size_le : q.mSize ≤ q.mCapacity
  capacity_lt : q.mCapacity < 2 ^ 31

variable {q : SensorEventQueue α}

theorem firstWritable_eq (h : q.Valid) (hsum : q.mStart + q.mSize < 2 ^ 31) :
    q.firstWritable = slot q.mCapacity q.mStart q.mSize.toNat := by
  obtain ⟨h0, hstart, hsize0, hsize, hcap⟩ := h
  have hnat : q.mStart + q.mSize = q.mStart + (q.mSize.toNat : Int) := by omega
  rw [firstWritable, toInt_of_range (by omega) hsum, hnat]
  exact tmod_eq_slot h0 hstart (by omega)

/-- A region of a queue that is not full: it begins behind the last event, and
ends before the first one and within the array. -/
theorem getWritableRegion_spec (h : q.Valid) {requestedLength : Int}
    (hrange : q.InRange requestedLength) (hfull : q.mSize ≠ q.mCapacity)
    (hpos : 0 < requestedLength) :
    (q.getWritableRegion requestedLength).1 =
        some (slot q.mCapacity q.mStart q.mSize.toNat) ∧
      1 ≤ (q.getWritableRegion requestedLength).2 ∧
      slot q.mCapacity q.mStart q.mSize.toNat + (q.getWritableRegion requestedLength).2 ≤
        q.mCapacity ∧
      q.mSize + (q.getWritableRegion requestedLength).2 ≤ q.mCapacity := by
  obtain ⟨hsum, hlast⟩ := hrange hfull hpos
  rw [firstWritable_eq h hsum] at hlast
  rw [getWritableRegion, if_neg (by omega), firstWritable_eq h hsum]
  obtain ⟨h0, hstart, hsize0, hsize, hcap⟩ := h
  have hfirst : slot q.mCapacity q.mStart q.mSize.toNat =
      if q.mStart + q.mSize < q.mCapacity then q.mStart + q.mSize
      else q.mStart + q.mSize - q.mCapacity := by
    rw [slot, Int.toNat_of_nonneg hsize0]
  generalize slot q.mCapacity q.mStart q.mSize.toNat = first at *
  have hfirst0 : 0 ≤ first := by
    rw [hfirst]
    split <;> omega
  have hfirstcap : first < q.mCapacity := by
    rw [hfirst]
    split <;> omega
  simp only
  rw [toInt_of_range (x := first + requestedLength) (by omega) hlast,
    toInt_of_range (x := first + requestedLength - 1) (by omega) (by omega)]
  -- the region ends at the request, at the end of the array or before the first event
  obtain ⟨last, hlasteq, hlow, hhigh, hroom⟩ : ∃ last,
      (if first < q.mStart ∧
          q.mStart ≤ if q.mCapacity - 1 < first + requestedLength - 1 then q.mCapacity - 1
            else first + requestedLength - 1 then q.mStart - 1
        else if q.mCapacity - 1 < first + requestedLength - 1 then q.mCapacity - 1
          else first + requestedLength - 1) = last ∧
        first ≤ last ∧ last < q.mCapacity ∧ q.mSize + (last - first + 1) ≤ q.mCapacity := by
    refine ⟨_, rfl, ?_⟩
    split at hfirst <;> split_ifs <;> omega
  rw [hlasteq, toInt_of_range (x := last - first) (by omega) (by omega),
    toInt_of_range (by omega) (by omega)]
  exact ⟨trivial, by omega, by omega, by omega⟩

theorem getWritableRegion_none {requestedLength : Int}
    (h : q.mSize = q.mCapacity ∨ requestedLength ≤ 0) :
    q.getWritableRegion requestedLength = (none, 0) :=
  if_pos h

theorem not_unread_of_region (h : q.Valid) {length i : Int}
    (hroom : q.mSize + length ≤ q.mCapacity)
    (hlow : slot q.mCapacity q.mStart q.mSize.toNat ≤ i)
    (hhigh : i < slot q.mCapacity q.mStart q.mSize.toNat + length) : ¬ q.Unread i := by
  obtain ⟨h0, hstart, hsize0, hsize, -⟩ := h
  rintro ⟨j, hj, rfl⟩
  simp only [slot] at *
  split at hlow <;> split at hlow <;> omega

theorem peek_eq (h : q.Valid) : q.peek = q.unread.head? := by
  rw [peek, unread]
  split
  · next hzero =>
      rw [hzero]
      rfl
  · next hzero =>
      obtain ⟨n, hn⟩ : ∃ n, q.mSize.toNat = n + 1 := ⟨q.mSize.toNat - 1, by
        have hsize0 := h.size_nonneg
        omega⟩
      have hlt := h.size_le
      rw [hn, contents_succ h.start_lt (by omega)]
      rfl

theorem dequeue_spec (h : q.Valid) (hsize : q.mSize ≠ 0) :
    q.dequeue.Valid ∧ q.unread = q.mData q.mStart :: q.dequeue.unread ∧
      q.dequeue.mCapacity = q.mCapacity ∧ q.dequeue.mData = q.mData ∧
      q.dequeue.mSize = q.mSize - 1 ∧
      slot q.dequeue.mCapacity q.dequeue.mStart q.dequeue.mSize.toNat =
        slot q.mCapacity q.mStart q.mSize.toNat := by
  obtain ⟨h0, hstart, hsize0, hsize', hcap⟩ := h
  obtain ⟨n, hn⟩ : ∃ n, q.mSize.toNat = n + 1 := ⟨q.mSize.toNat - 1, by omega⟩
  have hpred : (q.mSize - 1).toNat = n := by omega
  have hnext : (toInt (q.mStart + 1)).tmod q.mCapacity = slot q.mCapacity q.mStart 1 := by
    rw [toInt_of_range (by omega) (by omega)]
    exact tmod_eq_slot (i := 1) h0 hstart (by omega)
  rw [dequeue, if_neg hsize, hnext]
  refine ⟨⟨slot_nonneg h0, slot_lt hstart (by omega), ?_, ?_, hcap⟩, ?_, rfl, rfl, rfl, ?_⟩
  · change 0 ≤ q.mSize - 1
    omega
  · change q.mSize - 1 ≤ q.mCapacity
    omega
  · rw [unread, hn, contents_succ hstart (by omega), unread]
    simp only [hpred]
  · simp only [hpred, hn, slot]
    split <;> split <;> split <;> omega

theorem markAsWritten_spec (h : q.Valid) (count : Nat)
    (hroom : q.mSize + count ≤ q.mCapacity)
    (hend : slot q.mCapacity q.mStart q.mSize.toNat + count ≤ q.mCapacity) :
    (q.markAsWritten count).Valid ∧ (q.markAsWritten count).mSize = q.mSize + count ∧
      (q.markAsWritten count).unread = q.unread ++ (List.range count).map fun j =>
        q.mData (slot q.mCapacity q.mStart q.mSize.toNat + (j : Nat)) := by
  obtain ⟨h0, hstart, hsize0, hsize, hcap⟩ := h
  have hsum : toInt (q.mSize + count) = q.mSize + count :=
    toInt_of_range (by omega) (by omega)
  refine ⟨⟨h0, hstart, ?_, ?_, hcap⟩, hsum, ?_⟩
  · change 0 ≤ toInt (q.mSize + count)
    omega
  · change toInt (q.mSize + count) ≤ q.mCapacity
    omega
  · have hnat : (q.mSize + count).toNat = q.mSize.toNat + count := by omega
    rw [unread, unread]
    simp only [markAsWritten, hsum, hnat]
    rw [contents_add]
    congr 1
    apply List.map_congr_left
    intro j hj
    rw [List.mem_range] at hj
    have hslot : slot q.mCapacity q.mStart (q.mSize.toNat + j) =
        slot q.mCapacity q.mStart q.mSize.toNat + (j : Int) := by
      simp only [slot] at *
      split at hend <;> split <;> omega
    rw [hslot]

theorem write_unread {i : Int} (hi : ¬ q.Unread i) (event : α) :
    (q.write i event).unread = q.unread := by
  apply contents_congr
  intro j hj
  change j < q.mSize.toNat at hj
  apply Function.update_of_ne
  intro heq
  exact hi ⟨j, by omega, heq.symm⟩

end SensorEventQueue

/-- What the writer has in hand: the region, and the events written to it so far. -/
inductive Writer (α : Type u)
  | idle
  | filling (first length : Int) (filled : List α)

/-- The writer's region begins behind the last event, and holds what has been
written to it. -/
def Writer.Fills (q : SensorEventQueue α) : Writer α → Prop
  | .idle => True
  | .filling first length filled =>
      first = slot q.mCapacity q.mStart q.mSize.toNat ∧ first + length ≤ q.mCapacity ∧
        q.mSize + length ≤ q.mCapacity ∧ (filled.length : Int) ≤ length ∧
        filled = (List.range filled.length).map fun j => q.mData (first + (j : Nat))

inductive QueueAct (α : Type u)
  | getWritableRegion (requestedLength : Int)
  | write (event : α)
  | markAsWritten
  | peek
  | dequeue

/-- `seen` is the event at the pointer of the last `peek`. -/
structure QueueSys (α : Type u) where
  queue : SensorEventQueue α
  writer : Writer α
  seen : Option α
  written : List α
  read : List α

namespace QueueSys

def new (capacity : Int) (mData : Int → α) : QueueSys α where
  queue := SensorEventQueue.new capacity mData
  writer := .idle
  seen := none
  written := []
  read := []

/-- The writer asks for a region, writes the next event to it, or marks what it
has written; the reader peeks or dequeues. -/
def step (s : QueueSys α) : QueueAct α → Option (QueueSys α)
  | .getWritableRegion requestedLength =>
      let r := s.queue.getWritableRegion requestedLength
      some { s with writer := r.1.elim .idle fun first => .filling first r.2 [] }
  | .write event =>
      match s.writer with
      | .idle => none
      | .filling first length filled =>
          if filled.length < length then
            some
              { s with
                queue := s.queue.write (first + filled.length) event
                writer := .filling first length (filled ++ [event]) }
          else none
  | .markAsWritten =>
      match s.writer with
      | .idle => none
      | .filling _ _ filled =>
          some
            { s with
              queue := s.queue.markAsWritten filled.length
              writer := .idle
              written := s.written ++ filled }
  | .peek => s.queue.peek.map fun event => { s with seen := some event }
  | .dequeue =>
      s.queue.peek.map fun event =>
        { s with
          queue := s.queue.dequeue
          seen := none
          read := s.read ++ [s.seen.getD event] }

def Step (s : QueueSys α) (a : QueueAct α) (s' : QueueSys α) : Prop :=
  s.step a = some s'

/-- The sums of a request are in the range of an `int`. -/
def InRange (s : QueueSys α) : QueueAct α → Prop
  | .getWritableRegion requestedLength => s.queue.InRange requestedLength
  | _ => True

/-- The bounded queue: what has been written is what has been read and what is
stored, and the writer's region is within the array and free. -/
structure Fifo (s : QueueSys α) : Prop where
  size : 0 ≤ s.queue.mSize ∧ s.queue.mSize ≤ s.queue.mCapacity
  order : s.written = s.read ++ s.queue.unread
  region : ∀ first length filled, s.writer = .filling first length filled →
    0 ≤ first ∧ first + length ≤ s.queue.mCapacity ∧
      ∀ i, first ≤ i → i < first + length → ¬ s.queue.Unread i

/-- A request for at least one event of a queue that is not full gets a region. -/
def Writable (s : QueueSys α) (requestedLength : Int) : Prop :=
  s.queue.mSize < s.queue.mCapacity → 1 ≤ (s.queue.getWritableRegion requestedLength).2

structure Sound (s : QueueSys α) : Prop where
  valid : s.queue.Valid
  order : s.written = s.read ++ s.queue.unread
  fills : s.writer.Fills s.queue
  seen : ∀ event, s.seen = some event → s.queue.mSize ≠ 0 ∧ s.queue.mData s.queue.mStart = event

variable {s s' : QueueSys α}

theorem Sound.new {capacity : Int} (hpos : 1 ≤ capacity) (hint : capacity < 2 ^ 31)
    (mData : Int → α) : (QueueSys.new capacity mData).Sound where
  valid := ⟨Int.le_refl 0, by
    change 0 < capacity
    omega, Int.le_refl 0, by
    change 0 ≤ capacity
    omega, hint⟩
  order := rfl
  fills := trivial
  seen := fun _ h => nomatch h

theorem Sound.fifo (h : s.Sound) : s.Fifo where
  size := ⟨h.valid.size_nonneg, h.valid.size_le⟩
  order := h.order
  region := by
    intro first length filled hwriter
    have hfills := h.fills
    rw [hwriter] at hfills
    obtain ⟨rfl, hend, hroom, -, -⟩ := hfills
    refine ⟨slot_nonneg h.valid.start_nonneg, hend, ?_⟩
    intro i hlow hhigh
    exact SensorEventQueue.not_unread_of_region h.valid hroom hlow hhigh

theorem Sound.getWritableRegion (h : s.Sound) {requestedLength : Int}
    (hrange : s.queue.InRange requestedLength)
    (hs : s.Step (.getWritableRegion requestedLength) s') : s'.Sound := by
  cases hs
  refine ⟨h.valid, h.order, ?_, h.seen⟩
  rcases Decidable.em (s.queue.mSize = s.queue.mCapacity ∨ requestedLength ≤ 0) with hno | hyes
  · rw [SensorEventQueue.getWritableRegion_none hno]
    trivial
  · obtain ⟨hsome, hlen, hend, hroom⟩ := SensorEventQueue.getWritableRegion_spec h.valid hrange
      (fun heq => hyes (Or.inl heq)) (by omega)
    rw [hsome]
    refine ⟨rfl, hend, hroom, ?_, rfl⟩
    change (0 : Int) ≤ _
    omega

theorem Sound.write (h : s.Sound) {event : α} (hs : s.Step (.write event) s') : s'.Sound := by
  rw [Step, step] at hs
  have hfills := h.fills
  split at hs
  · cases hs
  · next first length filled hwriter =>
      rw [hwriter] at hfills
      obtain ⟨rfl, hend, hroom, -, hfilled⟩ := hfills
      rw [Option.ite_none_right_eq_some] at hs
      obtain ⟨hlt, heq⟩ := hs
      cases heq
      have hfree : ¬ s.queue.Unread
          (slot s.queue.mCapacity s.queue.mStart s.queue.mSize.toNat + filled.length) :=
        SensorEventQueue.not_unread_of_region h.valid hroom (by omega) (by omega)
      refine ⟨⟨h.valid.start_nonneg, h.valid.start_lt, h.valid.size_nonneg, h.valid.size_le,
        h.valid.capacity_lt⟩, ?_, ⟨rfl, hend, hroom, ?_, ?_⟩, ?_⟩
      · rw [SensorEventQueue.write_unread hfree]
        exact h.order
      · rw [List.length_append, List.length_singleton]
        omega
      · rw [List.length_append, List.length_singleton, List.range_succ, List.map_append]
        congr 1
        · refine hfilled.trans (List.map_congr_left ?_)
          intro j hj
          rw [List.mem_range] at hj
          exact (Function.update_of_ne (by omega) _ _).symm
        · change [event] = [Function.update s.queue.mData _ event _]
          rw [Function.update_self]
      · intro e he
        obtain ⟨hsize, hhead⟩ := h.seen e he
        refine ⟨hsize, ?_⟩
        change Function.update s.queue.mData _ event s.queue.mStart = e
        rw [Function.update_of_ne, hhead]
        intro heq
        apply hfree
        have hsize0 := h.valid.size_nonneg
        have hstart := h.valid.start_lt
        refine ⟨0, by omega, ?_⟩
        rw [← heq, slot, if_pos (by omega)]
        omega

theorem Sound.markAsWritten (h : s.Sound) (hs : s.Step .markAsWritten s') : s'.Sound := by
  rw [Step, step] at hs
  have hfills := h.fills
  split at hs
  · cases hs
  · next first length filled hwriter =>
      cases hs
      rw [hwriter] at hfills
      obtain ⟨rfl, hend, hroom, hlen, hfilled⟩ := hfills
      obtain ⟨hvalid, hsize, hunread⟩ := SensorEventQueue.markAsWritten_spec h.valid
        filled.length (by omega) (by omega)
      refine ⟨hvalid, ?_, trivial, ?_⟩
      · rw [hunread, ← hfilled, h.order, List.append_assoc]
      · intro e he
        obtain ⟨hne, hhead⟩ := h.seen e he
        have hsize0 := h.valid.size_nonneg
        refine ⟨?_, hhead⟩
        change (s.queue.markAsWritten filled.length).mSize ≠ 0
        omega

theorem Sound.peek (h : s.Sound) (hs : s.Step .peek s') : s'.Sound := by
  obtain ⟨event, hpeek, rfl⟩ := Option.map_eq_some_iff.mp hs
  refine ⟨h.valid, h.order, h.fills, ?_⟩
  intro e he
  cases he
  rw [SensorEventQueue.peek, Option.ite_none_left_eq_some] at hpeek
  exact ⟨hpeek.1, Option.some.inj hpeek.2⟩

theorem Sound.dequeue (h : s.Sound) (hs : s.Step .dequeue s') : s'.Sound := by
  obtain ⟨event, hpeek, rfl⟩ := Option.map_eq_some_iff.mp hs
  rw [SensorEventQueue.peek, Option.ite_none_left_eq_some] at hpeek
  obtain ⟨hne, hevent⟩ := hpeek
  obtain ⟨hvalid, hunread, hcap, hdata, hsize, hslot⟩ := SensorEventQueue.dequeue_spec h.valid hne
  refine ⟨hvalid, ?_, ?_, fun e he => (by cases he)⟩
  · have hread : s.seen.getD event = s.queue.mData s.queue.mStart := by
      cases hseen : s.seen with
      | none => exact (Option.some.inj hevent).symm
      | some e => exact (h.seen e hseen).2.symm
    change s.written = (s.read ++ [s.seen.getD event]) ++ s.queue.dequeue.unread
    rw [h.order, hunread, hread, List.append_assoc]
    rfl
  · have hfills := h.fills
    change s.writer.Fills s.queue.dequeue
    cases hwriter : s.writer with
    | idle => trivial
    | filling first length filled =>
        rw [hwriter] at hfills
        obtain ⟨hfirst, hend, hroom, hlen, hfilled⟩ := hfills
        refine ⟨hfirst.trans hslot.symm, hcap ▸ hend, ?_, hlen, ?_⟩
        · rw [hcap, hsize]
          omega
        · rw [hdata]
          exact hfilled

theorem Sound.step (h : s.Sound) {a : QueueAct α} (hrange : s.InRange a) (hs : s.Step a s') :
    s'.Sound := by
  cases a with
  | getWritableRegion requestedLength => exact h.getWritableRegion hrange hs
  | write event => exact h.write hs
  | markAsWritten => exact h.markAsWritten hs
  | peek => exact h.peek hs
  | dequeue => exact h.dequeue hs

/-- In every interleaving of the writer with the reader the queue is a bounded
queue, and a request for at least one event gets a region unless it is full. -/
theorem run_fifo {capacity : Int} (hpos : 1 ≤ capacity) (hint : capacity < 2 ^ 31)
    {mData : Int → α} {acts : List (QueueAct α)}
    (hrun : Run (Guarded InRange Step) (QueueSys.new capacity mData) acts s) :
    s.Fifo ∧ ∀ requestedLength, 1 ≤ requestedLength → s.queue.InRange requestedLength →
      s.Writable requestedLength := by
  have hsound : s.Sound := by
    refine Run.invariant (I := Sound) (Sound.new hpos hint mData) ?_ hrun
    rintro s a s' h ⟨hrange, hs⟩
    exact h.step hrange hs
  refine ⟨hsound.fifo, ?_⟩
  intro requestedLength hlen hrange hsize
  exact (SensorEventQueue.getWritableRegion_spec hsound.valid hrange (by omega) (by omega)).2.1

/-- Three slots, all zero. -/
def threeSlots : QueueSys Nat :=
  QueueSys.new 3 fun _ => 0

theorem run_fifo_threeSlots :
    ∃ s : QueueSys Nat, s.Fifo ∧ s.read = [7] ∧ s.queue.unread = [8] ∧ s.Writable 36 := by
  have h₁ : Run (Guarded InRange Step) threeSlots [.getWritableRegion 36] _ :=
    .snoc .nil ⟨fun _ _ => by decide, by rfl⟩
  have h₂ : Run (Guarded InRange Step) threeSlots [_, .write 7] _ := .snoc h₁ ⟨trivial, by rfl⟩
  have h₃ : Run (Guarded InRange Step) threeSlots [_, _, .write 8] _ := .snoc h₂ ⟨trivial, by rfl⟩
  have h₄ : Run (Guarded InRange Step) threeSlots [_, _, _, .markAsWritten] _ :=
    .snoc h₃ ⟨trivial, by rfl⟩
  have h₅ : Run (Guarded InRange Step) threeSlots [_, _, _, _, .dequeue] _ :=
    .snoc h₄ ⟨trivial, by rfl⟩
  obtain ⟨hfifo, hwritable⟩ := run_fifo (by decide) (by decide) h₅
  exact ⟨_, hfifo, by decide, by decide, hwritable 36 (by decide) fun _ _ => by decide⟩

/-- A request for no event gets no region, and a request for the greatest `int`
of events wraps around to a region beyond the array. -/
theorem not_fifo_anyRequest :
    ¬ threeSlots.Writable 0 ∧ ∃ acts s, Run Step threeSlots acts s ∧ ¬ s.Fifo := by
  refine ⟨fun h => absurd (h (by decide)) (by decide), ?_⟩
  have h₁ : Run Step threeSlots [.getWritableRegion 2] _ := .snoc .nil (by rfl)
  have h₂ : Run Step threeSlots [_, .write 7] _ := .snoc h₁ (by rfl)
  have h₃ : Run Step threeSlots [_, _, .write 8] _ := .snoc h₂ (by rfl)
  have h₄ : Run Step threeSlots [_, _, _, .markAsWritten] _ := .snoc h₃ (by rfl)
  have h₅ : Run Step threeSlots [_, _, _, _, .getWritableRegion (2 ^ 31 - 1)] _ :=
    .snoc h₄ (by rfl)
  refine ⟨_, _, h₅, fun h => ?_⟩
  exact absurd (h.region 2 (2 ^ 31 - 1) [] (by rfl)).2.1 (by decide)

end QueueSys

end LibraDevice.Sensors
