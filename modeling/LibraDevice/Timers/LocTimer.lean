import LibraDevice.Timers.LocHeap
import LibraDevice.Lib.Bytes
import LibraDevice.Lib.StepRun
import Mathlib.Algebra.Group.Int.Defs
import Mathlib.Algebra.Group.Nat.Defs
import Mathlib.Logic.Function.Basic

/-!
The timer service as a step relation: client threads start and stop timers,
the poll thread waits for the two timerfds, and the MsgTask thread executes the
messages they both post. Every system call and every access to shared state is
a step of its own, so the threads interleave between any two of them.
-/

namespace LibraDevice.Timers

open LibraDevice.StepRun
open Bytes (toInt)

universe u

/-- `struct timespec`: seconds in the range of `time_t`, normalised nanoseconds. -/
structure Timespec where
  tvSec : Nat
  tvNsec : Nat
  sec_lt : tvSec < 2 ^ 31
  nsec_lt : tvNsec < 1000000000
deriving DecidableEq, Repr

namespace Timespec

def nanos (t : Timespec) : Nat :=
  t.tvSec * 1000000000 + t.tvNsec

/-- The zero value, which disarms a timerfd. -/
def zero : Timespec where
  tvSec := 0
  tvNsec := 0
  sec_lt := by decide
  nsec_lt := by decide

/-- `LocTimerDelegate::ranks`. -/
def ranks (self timer : Timespec) : Int :=
  let rank := toInt (timer.tvSec - self.tvSec)
  if rank = 0 then toInt (timer.tvNsec - self.tvNsec) else rank

def outRanks (self timer : Timespec) : Bool :=
  self.ranks timer > 0

theorem ranks_eq (self timer : Timespec) :
    self.ranks timer =
      if (timer.tvSec : Int) = self.tvSec then (timer.tvNsec : Int) - self.tvNsec
      else (timer.tvSec : Int) - self.tvSec := by
  have hs := self.sec_lt
  have ht := timer.sec_lt
  have hsn := self.nsec_lt
  have htn := timer.nsec_lt
  have hsec : toInt (timer.tvSec - self.tvSec) = timer.tvSec - self.tvSec :=
    Int.bmod_eq_of_le (by omega) (by omega)
  have hnsec : toInt (timer.tvNsec - self.tvNsec) = timer.tvNsec - self.tvNsec :=
    Int.bmod_eq_of_le (by omega) (by omega)
  simp only [ranks, hsec, hnsec, Int.sub_eq_zero]

theorem outRanks_iff (self timer : Timespec) :
    self.outRanks timer = true ↔ self.nanos < timer.nanos := by
  have hsn := self.nsec_lt
  have htn := timer.nsec_lt
  simp only [outRanks, nanos, ranks_eq, decide_eq_true_eq]
  split <;> omega

theorem outRanks_eq_false (self timer : Timespec) :
    self.outRanks timer = false ↔ timer.nanos ≤ self.nanos := by
  rw [← Bool.not_eq_true, outRanks_iff, Nat.not_lt]

end Timespec

/-- What the boot clock reads: never zero, and so far from the end of `time_t`
that no timeout reaches it. -/
structure Clock extends Timespec where
  pos : 0 < toTimespec.nanos
  room : tvSec + 4294968 < 2 ^ 31
deriving DecidableEq, Repr

/-- The clock after a whole number of seconds. -/
def Clock.seconds (n : Nat) (hn : 0 < n ∧ n < 2 ^ 30) : Clock where
  tvSec := n
  tvNsec := 0
  sec_lt := by omega
  nsec_lt := by decide
  pos := Nat.add_pos_left (Nat.mul_pos hn.1 (by decide)) 0
  room := by omega

/-- The time computed in `LocTimer::start`. -/
def futureTime (now : Clock) (timeOutInMs : BitVec 32) : Timespec :=
  let nsec := now.tvNsec + timeOutInMs.toNat % 1000 * 1000000
  { tvSec := now.tvSec + timeOutInMs.toNat / 1000 + nsec / 1000000000
    tvNsec := nsec % 1000000000
    sec_lt := by
      have hms := timeOutInMs.isLt
      have hroom := now.room
      have hnsec := now.nsec_lt
      omega
    nsec_lt := Nat.mod_lt _ (by decide) }

theorem futureTime_nanos (now : Clock) (timeOutInMs : BitVec 32) :
    (futureTime now timeOutInMs).nanos = now.nanos + timeOutInMs.toNat * 1000000 := by
  simp only [futureTime, Timespec.nanos]
  omega

theorem futureTime_ne_zero (now : Clock) (timeOutInMs : BitVec 32) :
    futureTime now timeOutInMs ≠ Timespec.zero := by
  intro hzero
  have hnanos := futureTime_nanos now timeOutInMs
  have hpos := now.pos
  rw [hzero] at hnanos
  simp only [Timespec.nanos, Timespec.zero] at hnanos hpos
  omega

/-- The two containers: timers and alarms. -/
inductive Kind
  | sw
  | hw
deriving DecidableEq, Repr

/-- What stays as it is in a `LocTimerDelegate`; `id` is its address. -/
structure Timer where
  id : Nat
  mContainer : Kind
  mFutureTime : Timespec
deriving DecidableEq, Repr

namespace Timer

def outRanks (self timer : Timer) : Bool :=
  self.mFutureTime.outRanks timer.mFutureTime

/-- When the timer expires, the key of the heap. -/
def nanos (t : Timer) : Nat :=
  t.mFutureTime.nanos

/-- The clock has reached the time of the timer. -/
def Due (t : Timer) (clock : Clock) : Prop :=
  t.nanos ≤ clock.nanos

instance instDecidableDue (t : Timer) (clock : Clock) : Decidable (t.Due clock) :=
  inferInstanceAs (Decidable (_ ≤ _))

theorem Due.mono {t : Timer} {c c' : Clock} (h : t.Due c) (hle : c.nanos ≤ c'.nanos) : t.Due c' :=
  Nat.le_trans h hle

theorem outRanks_iff (self timer : Timer) :
    self.outRanks timer = true ↔ self.nanos < timer.nanos :=
  Timespec.outRanks_iff _ _

end Timer

/-- A container, with the state of its timerfd: the time it is armed with and
whether it is registered with the epoll fd. -/
structure Container where
  heap : LocHeap Timer
  armed : Option Timespec
  polled : Bool
deriving DecidableEq, Repr

inductive Msg
  | push (timer : Timer)
  | remove (timer : Timer)
  | expire (container : Kind)
deriving DecidableEq, Repr

/-- The calls `updateSoonestTime` makes for a container. -/
inductive Syscall
  | addPoll
  | removePoll
  | settime (delay : Timespec)
deriving DecidableEq, Repr

/-- Where the MsgTask thread is: between messages, in `updateSoonestTime`, in
the loop of an expire message before `timer->expire()` reads its client, before
`client->stop()`, or before `client->timeOutCallback()`. -/
inductive Task (ι : Type u)
  | idle
  | updating (container : Kind) (todo : List Syscall)
  | expiring (container : Kind) (now : Clock) (timer : Timer)
  | stopping (container : Kind) (now : Clock) (timer : Timer) (client : ι)
  | calling (container : Kind) (now : Clock) (client : ι) (stopped : Timer)
deriving DecidableEq, Repr

/-- How far `LocTimerContainer::expire` has got. -/
inductive Phase
  | called
  | disarmed
  | removed
deriving DecidableEq, Repr

/-- The poll thread: the containers of the events it still has to handle, and
how far it is with the first of them. -/
structure PollTask where
  events : List Kind
  phase : Phase
deriving DecidableEq, Repr

/-- A `timeOutCallback`: the client, the timer its `stop` stopped, and the time
of the call. -/
structure Callback (ι : Type u) where
  client : ι
  stopped : Timer
  time : Clock
deriving DecidableEq, Repr

structure Sys (ι : Type u) where
  clock : Clock
  mTimer : ι → Option Timer
  mClient : Nat → Option ι
  nextId : Nat
  container : Kind → Container
  queue : List Msg
  task : Task ι
  poll : PollTask
  callbacks : List (Callback ι)

variable {ι : Type u}

namespace Container

def getSoonestTimer (c : Container) : Option Timer :=
  c.heap.peek

/-- `updateSoonestTime`: the calls it makes. -/
def updateSoonestTime (priorTop : Option Timer) (c : Container) : List Syscall :=
  if c.getSoonestTimer = priorTop then
    []
  else
    match c.getSoonestTimer with
    | none => [.removePoll, .settime Timespec.zero]
    | some curTop =>
        if priorTop.all curTop.outRanks then
          [.addPoll, .settime curTop.mFutureTime]
        else
          []

theorem updateSoonestTime_same {priorTop : Option Timer} {c : Container}
    (h : c.heap.peek = priorTop) : c.updateSoonestTime priorTop = [] :=
  if_pos h

theorem updateSoonestTime_top {priorTop : Option Timer} {c : Container} {t : Timer}
    (hpeek : c.heap.peek = some t) (hne : priorTop ≠ some t)
    (hranks : priorTop.all t.outRanks = true) :
    c.updateSoonestTime priorTop = [.addPoll, .settime t.mFutureTime] := by
  have htop : c.getSoonestTimer = some t := hpeek
  rw [updateSoonestTime, if_neg (htop ▸ hne.symm), htop]
  exact if_pos hranks

def popIfOutRanks (now : Clock) (c : Container) : Option (Timer × Container) :=
  match c.heap.peek with
  | none => none
  | some top =>
      if now.outRanks top.mFutureTime then
        none
      else
        some (top, { c with heap := c.heap.dropTop Timer.outRanks })

theorem popIfOutRanks_some {now : Clock} {c c' : Container} {t : Timer}
    (h : c.popIfOutRanks now = some (t, c')) :
    c.heap.peek = some t ∧ t.Due now ∧ c' = { c with heap := c.heap.dropTop Timer.outRanks } := by
  simp only [popIfOutRanks] at h
  split at h
  · cases h
  · next top hpeek =>
      split at h
      · cases h
      · next hrank =>
          cases h
          refine ⟨hpeek, ?_, rfl⟩
          exact (Timespec.outRanks_eq_false _ _).mp (Bool.not_eq_true _ ▸ hrank)

def syscall (c : Container) : Syscall → Container
  | .addPoll => { c with polled := true }
  | .removePoll => { c with polled := false }
  | .settime delay => { c with armed := if delay = Timespec.zero then none else some delay }

@[simp] theorem heap_syscall (c : Container) (call : Syscall) : (c.syscall call).heap = c.heap := by
  cases call <;> rfl

/-- The timerfd has fired and the poll thread can see it. -/
def Fired (c : Container) (clock : Clock) : Prop :=
  c.polled = true ∧ ∃ t, c.armed = some t ∧ t.nanos ≤ clock.nanos

end Container

namespace Sys

def setContainer (s : Sys ι) (k : Kind) (c : Container) : Sys ι :=
  { s with container := Function.update s.container k c }

@[simp] theorem setContainer_same (s : Sys ι) (k : Kind) (c : Container) :
    (s.setContainer k c).container k = c :=
  Function.update_self ..

theorem setContainer_ne (s : Sys ι) {k k' : Kind} (c : Container) (hne : k' ≠ k) :
    (s.setContainer k c).container k' = s.container k' :=
  Function.update_of_ne hne ..

def post (s : Sys ι) (msg : Msg) : Sys ι :=
  { s with queue := s.queue ++ [msg] }

/-- The MsgTask goes on with these calls, or is done with its message. -/
def update (s : Sys ι) (k : Kind) (todo : List Syscall) : Sys ι :=
  { s with task := if todo = [] then .idle else .updating k todo }

/-- The next turn of the loop of an expire message. -/
def popNext (s : Sys ι) (k : Kind) (now : Clock) : Sys ι :=
  match (s.container k).popIfOutRanks now with
  | some (timer, c) => { s.setContainer k c with task := .expiring k now timer }
  | none => s.update k ((s.container k).updateSoonestTime none)

theorem popNext_eq (s : Sys ι) (k : Kind) (now : Clock) :
    (∃ t, (s.container k).heap.peek = some t ∧ t.Due now ∧
      s.popNext k now =
        { s.setContainer k
            { s.container k with heap := (s.container k).heap.dropTop Timer.outRanks } with
          task := .expiring k now t }) ∨
    s.popNext k now = s.update k ((s.container k).updateSoonestTime none) := by
  simp only [popNext]
  split
  · next t c hpop =>
      obtain ⟨hpeek, hdue, rfl⟩ := Container.popIfOutRanks_some hpop
      exact Or.inl ⟨t, hpeek, hdue, rfl⟩
  · exact Or.inr rfl

/-- The container of the expire message that is received next. -/
def expires (s : Sys ι) : Option Kind :=
  match s.task, s.queue with
  | .idle, .expire k :: _ => some k
  | _, _ => none

/-- A message of the queue up to its first system call. -/
def proc (s : Sys ι) : Msg → Sys ι
  | .push timer =>
      let k := timer.mContainer
      let priorTop := (s.container k).getSoonestTimer
      let c : Container :=
        { s.container k with heap := (s.container k).heap.push Timer.outRanks timer }
      (s.setContainer k c).update k (c.updateSoonestTime priorTop)
  | .remove timer =>
      let k := timer.mContainer
      let priorTop := (s.container k).getSoonestTimer
      match (s.container k).heap.remove Timer.outRanks timer with
      | some heap =>
          let c : Container := { s.container k with heap := heap }
          (s.setContainer k c).update k
            (if priorTop = some timer then c.updateSoonestTime none else [])
      | none =>
          s.update k (if priorTop = none then (s.container k).updateSoonestTime none else [])
  | .expire k =>
      match (s.container k).heap.pop Timer.outRanks with
      | some (timer, heap) =>
          { s.setContainer k { s.container k with heap := heap } with
            task := .expiring k s.clock timer }
      | none => s.update k ((s.container k).updateSoonestTime none)

/-- `LocTimer::stop` of a running timer. -/
def stopTimer [DecidableEq ι] (s : Sys ι) (client : ι) (timer : Timer) : Sys ι :=
  { s with
    mTimer := Function.update s.mTimer client none
    mClient := Function.update s.mClient timer.id none
    queue := s.queue ++ [.remove timer] }

end Sys

/-- The steps: the clock goes on; a client starts a timer, having read the
clock at `read`, or stops it; the poll thread; the MsgTask thread. -/
inductive Act (ι : Type u)
  | tick (clock : Clock)
  | start (client : ι) (timeOutInMs : BitVec 32) (wakeOnExpire : Bool) (read : Clock)
  | stop (client : ι)
  | epollWait (events : List Kind)
  | expireDisarm
  | expireRemovePoll
  | expirePost
  | receive
  | syscall
  | readClient
  | stopClient
  | callback
deriving DecidableEq, Repr

namespace Sys

variable [DecidableEq ι]

/-- One step, where it can be taken. -/
def step (s : Sys ι) : Act ι → Option (Sys ι)
  | .tick clock =>
      if s.clock.nanos ≤ clock.nanos then some { s with clock := clock } else none
  | .start client timeOutInMs wakeOnExpire read =>
      if read.nanos ≤ s.clock.nanos then
        match s.mTimer client with
        | some _ => some s
        | none =>
            let timer : Timer :=
              ⟨s.nextId, if wakeOnExpire then .hw else .sw, futureTime read timeOutInMs⟩
            some
              { s with
                mTimer := Function.update s.mTimer client (some timer)
                mClient := Function.update s.mClient timer.id (some client)
                nextId := s.nextId + 1
                queue := s.queue ++ [.push timer] }
      else none
  | .stop client =>
      match s.mTimer client with
      | none => some s
      | some timer => some (s.stopTimer client timer)
  | .epollWait events =>
      if s.poll.events = [] ∧ events.Nodup ∧ ∀ k ∈ events, (s.container k).polled = true ∧
          ∃ t ∈ (s.container k).armed, t.nanos ≤ s.clock.nanos then
        some { s with poll := ⟨events, .called⟩ }
      else none
  | .expireDisarm =>
      match s.poll.events, s.poll.phase with
      | k :: _, .called =>
          some
            { s.setContainer k ((s.container k).syscall (.settime Timespec.zero)) with
              poll := { s.poll with phase := .disarmed } }
      | _, _ => none
  | .expireRemovePoll =>
      match s.poll.events, s.poll.phase with
      | k :: _, .disarmed =>
          some
            { s.setContainer k ((s.container k).syscall .removePoll) with
              poll := { s.poll with phase := .removed } }
      | _, _ => none
  | .expirePost =>
      match s.poll.events, s.poll.phase with
      | k :: events, .removed =>
          some { s.post (.expire k) with poll := ⟨events, .called⟩ }
      | _, _ => none
  | .receive =>
      match s.task, s.queue with
      | .idle, msg :: queue => some (Sys.proc { s with queue := queue } msg)
      | _, _ => none
  | .syscall =>
      match s.task with
      | .updating k (call :: todo) =>
          some ((s.setContainer k ((s.container k).syscall call)).update k todo)
      | _ => none
  | .readClient =>
      match s.task with
      | .expiring k now timer =>
          match s.mClient timer.id with
          | none => some (s.popNext k now)
          | some client => some { s with task := .stopping k now timer client }
      | _ => none
  | .stopClient =>
      match s.task with
      | .stopping k now _ client =>
          match s.mTimer client with
          | none => some (s.popNext k now)
          | some stopped =>
              some { s.stopTimer client stopped with task := .calling k now client stopped }
      | _ => none
  | .callback =>
      match s.task with
      | .calling k now client stopped =>
          some
            (Sys.popNext { s with callbacks := s.callbacks ++ [⟨client, stopped, s.clock⟩] }
              k now)
      | _ => none

/-- The service before the first timer. -/
def init (ι : Type u) (clock : Clock) : Sys ι where
  clock := clock
  mTimer := fun _ => none
  mClient := fun _ => none
  nextId := 0
  container := fun _ => ⟨.null, none, false⟩
  queue := []
  task := .idle
  poll := ⟨[], .called⟩
  callbacks := []

/-- `Steps s a s'`: the step `a` leads from `s` to `s'`. -/
def Steps (s : Sys ι) (a : Act ι) (s' : Sys ι) : Prop :=
  s.step a = some s'

end Sys

end LibraDevice.Timers
