import LibraDevice.Lib.StepRun
import LibraDevice.Sensors.Handles

/-!
`sensors_poll_context_t::poll`: the events of the sub-devices are taken in turn
from their queues, and their handles made global.
-/

namespace LibraDevice.Sensors

open LibraDevice.StepRun

universe u

variable {β : Type u}

/-- `sensors_event_t`; the rest is copied as it is. -/
structure SensorsEvent (β : Type u) where
  type : Int
  sensor : Int
  metaSensor : Int
  rest : β
deriving DecidableEq

def sensorTypeMetaData : Int := 0

namespace SensorsEvent

/-- The handle of the sensor that the event is about. -/
def handle (e : SensorsEvent β) : Int :=
  if e.type = sensorTypeMetaData then e.metaSensor else e.sensor

/-- `copy_event_remap_handle`. -/
def remap (hal : Hal) (subIndex : Nat) (e : SensorsEvent β) : SensorsEvent β :=
  let globalHandle := hal.getGlobalHandle ⟨subIndex, e.handle⟩
  if e.type = sensorTypeMetaData then { e with metaSensor := globalHandle }
  else { e with sensor := globalHandle }

end SensorsEvent

/-- The inner loop of `poll`: the queues, the cursor, what has been read, each
event with its sub-device, and how many queues in a row were empty. -/
structure Scan (β : Type u) where
  queues : Nat → List (SensorsEvent β)
  nextReadIndex : Nat
  data : List (Nat × SensorsEvent β)
  empties : Nat

/-- The events stored in the first `n` queues. -/
def stored (queues : Nat → List (SensorsEvent β)) : Nat → Nat
  | 0 => 0
  | n + 1 => stored queues n + (queues n).length

section

variable (hal : Hal) (queueCount : Nat)

namespace Scan

/-- One turn of the loop. -/
def turn (s : Scan β) : Scan β :=
  let next := (s.nextReadIndex + 1) % queueCount
  match s.queues s.nextReadIndex with
  | [] =>
      { s with
        nextReadIndex := next
        empties := s.empties + 1 }
  | event :: rest =>
      let copy := event.remap hal s.nextReadIndex
      { queues := Function.update s.queues s.nextReadIndex rest
        nextReadIndex := next
        -- an event with a bad handle is dropped
        data := if copy.sensor = -1 then s.data else s.data ++ [(s.nextReadIndex, copy)]
        empties := 0 }

/-- None when the fuel does not suffice. -/
def loop (maxReads : Nat) : Nat → Scan β → Option (Scan β)
  | 0, _ => none
  | fuel + 1, s =>
      if s.empties < queueCount ∧ s.data.length < maxReads then
        loop maxReads fuel (s.turn hal queueCount)
      else some s

/-- Each turn takes an event or counts one more empty queue. -/
def fuel (queues : Nat → List (SensorsEvent β)) : Nat :=
  stored queues queueCount * (queueCount + 1) + queueCount + 1

end Scan

inductive PollAct (β : Type u)
  | append (subIndex : Nat) (events : List (SensorsEvent β))
  | poll (maxReads : Nat)
  | wake

/-- The queues, the cursor, the poll that waits for data, the events the writers
have appended, and the polls that have returned. -/
structure PollSys (β : Type u) where
  queues : Nat → List (SensorsEvent β)
  nextReadIndex : Nat
  waiting : Option Nat
  appended : Nat → List (SensorsEvent β)
  polls : List (Nat × List (Nat × SensorsEvent β))

namespace PollSys

variable (β) in
def new : PollSys β where
  queues := fun _ => []
  nextReadIndex := 0
  waiting := none
  appended := fun _ => []
  polls := []

/-- The queues are scanned under the lock; without an event the poll waits. -/
def scan (s : PollSys β) (maxReads : Nat) : Option (PollSys β) :=
  (Scan.loop hal queueCount maxReads (Scan.fuel queueCount s.queues)
      ⟨s.queues, s.nextReadIndex, [], 0⟩).map fun r =>
    if r.data = [] then
      { s with
        queues := r.queues
        nextReadIndex := r.nextReadIndex
        waiting := some maxReads }
    else
      { s with
        queues := r.queues
        nextReadIndex := r.nextReadIndex
        waiting := none
        polls := s.polls ++ [(maxReads, r.data)] }

/-- A writer appends events, `poll` is called, or a poll that waits wakes up. -/
def step (s : PollSys β) : PollAct β → Option (PollSys β)
  | .append subIndex events =>
      if subIndex < queueCount then
        some
          { s with
            queues := Function.update s.queues subIndex (s.queues subIndex ++ events)
            appended := Function.update s.appended subIndex (s.appended subIndex ++ events) }
      else none
  | .poll maxReads =>
      if s.waiting = none ∧ 1 ≤ maxReads then s.scan hal queueCount maxReads else none
  | .wake => s.waiting.elim none fun maxReads => s.scan hal queueCount maxReads

def Step (s : PollSys β) (a : PollAct β) (s' : PollSys β) : Prop :=
  s.step hal queueCount a = some s'

/-- The events passed on so far, each with its sub-device. -/
def delivered (s : PollSys β) : List (Nat × SensorsEvent β) :=
  s.polls.flatMap Prod.snd

end PollSys

end

/-- The events of one sub-device. -/
def fromSub (subIndex : Nat) (data : List (Nat × SensorsEvent β)) : List (SensorsEvent β) :=
  (data.filter fun p => decide (p.1 = subIndex)).map Prod.snd

/-- The handle of the event is registered under the sub-device's index. -/
def SensorsEvent.Known (hal : Hal) (subIndex : Nat) (e : SensorsEvent β) : Prop :=
  (hal.fullToGlobal ⟨subIndex, e.handle⟩).isSome = true

instance SensorsEvent.instDecidableKnown (hal : Hal) (subIndex : Nat) (e : SensorsEvent β) :
    Decidable (e.Known hal subIndex) :=
  inferInstanceAs (Decidable (_ = true))

/-- `poll` passes the event on. -/
def SensorsEvent.Kept (hal : Hal) (subIndex : Nat) (e : SensorsEvent β) : Prop :=
  (e.remap hal subIndex).sensor ≠ -1

instance SensorsEvent.instDecidableKept (hal : Hal) (subIndex : Nat) (e : SensorsEvent β) :
    Decidable (e.Kept hal subIndex) :=
  inferInstanceAs (Decidable (_ ≠ _))

variable {hal : Hal} {queueCount : Nat}

@[simp] theorem fromSub_append (subIndex : Nat) (data data' : List (Nat × SensorsEvent β)) :
    fromSub subIndex (data ++ data') = fromSub subIndex data ++ fromSub subIndex data' := by
  rw [fromSub, List.filter_append, List.map_append]
  rfl

theorem stored_of_ne {queues : Nat → List (SensorsEvent β)} {i : Nat} (n : Nat) (hi : n ≤ i)
    (events : List (SensorsEvent β)) :
    stored (Function.update queues i events) n = stored queues n := by
  induction n with
  | zero => rfl
  | succ n ih => rw [stored, ih (by omega), Function.update_of_ne (by omega), stored]

theorem stored_take {queues : Nat → List (SensorsEvent β)} {i n : Nat} (hi : i < n)
    {event : SensorsEvent β} {rest : List (SensorsEvent β)} (hqueue : queues i = event :: rest) :
    stored queues n = stored (Function.update queues i rest) n + 1 := by
  induction n with
  | zero => omega
  | succ n ih =>
      rw [stored, stored]
      rcases Nat.eq_or_lt_of_le (Nat.le_of_lt_succ hi) with rfl | hlt
      · rw [stored_of_ne i (Nat.le_refl i), hqueue, Function.update_self, List.length_cons]
        omega
      · rw [ih hlt, Function.update_of_ne (by omega)]
        omega

/-- From one state to the other, events of each sub-device have been taken in
order, and the kept ones have been read. -/
def Took (hal : Hal) (s s' : Scan β) : Prop :=
  ∀ subIndex, ∃ taken, s.queues subIndex = taken ++ s'.queues subIndex ∧
    fromSub subIndex s'.data = fromSub subIndex s.data ++
      (taken.filter fun e => decide (e.Kept hal subIndex)).map (SensorsEvent.remap hal subIndex)

theorem Took.refl (s : Scan β) : Took hal s s :=
  fun _ => ⟨[], rfl, (List.append_nil _).symm⟩

theorem Took.trans {s s' s'' : Scan β} (h : Took hal s s') (h' : Took hal s' s'') :
    Took hal s s'' := by
  intro subIndex
  obtain ⟨taken, hqueue, hdata⟩ := h subIndex
  obtain ⟨taken', hqueue', hdata'⟩ := h' subIndex
  refine ⟨taken ++ taken', ?_, ?_⟩
  · rw [hqueue, hqueue', List.append_assoc]
  · rw [hdata', hdata, List.filter_append, List.map_append, List.append_assoc]

namespace Scan

/-- How many queues lie between the queue and the cursor, on the way on from it. -/
def behind (queueCount next i : Nat) : Nat :=
  if i < next then next - 1 - i else next + queueCount - 1 - i

/-- The cursor is a queue, no more events than asked for have been read, and the
queues counted as empty are empty. -/
structure Sound (queueCount maxReads : Nat) (s : Scan β) : Prop where
  cursor : queueCount = 0 ∨ s.nextReadIndex < queueCount
  length : s.data.length ≤ maxReads
  empty : ∀ i < queueCount, behind queueCount s.nextReadIndex i < s.empties → s.queues i = []

variable {s r : Scan β} {maxReads : Nat}

theorem succ_mod {next : Nat} (hnext : next < queueCount) :
    (next + 1) % queueCount = if next + 1 < queueCount then next + 1 else 0 := by
  split
  · next hlt => exact Nat.mod_eq_of_lt hlt
  · have heq : next + 1 = queueCount := by omega
    rw [heq, Nat.mod_self]

theorem turn_took : Took hal s (s.turn hal queueCount) := by
  intro subIndex
  simp only [turn]
  split
  · exact ⟨[], rfl, (List.append_nil _).symm⟩
  · next event rest hqueue =>
      rcases eq_or_ne subIndex s.nextReadIndex with rfl | hne
      · refine ⟨[event], ?_, ?_⟩
        · change s.queues s.nextReadIndex =
            [event] ++ Function.update s.queues s.nextReadIndex rest s.nextReadIndex
          rw [Function.update_self, hqueue]
          rfl
        · split
          · next hbad =>
              have hdrop : ¬ event.Kept hal s.nextReadIndex := not_not.mpr hbad
              simp [hdrop]
          · next hgood =>
              have hkeep : event.Kept hal s.nextReadIndex := hgood
              simp [hkeep, fromSub]
      · refine ⟨[], ?_, ?_⟩
        · change s.queues subIndex =
            [] ++ Function.update s.queues s.nextReadIndex rest subIndex
          rw [Function.update_of_ne hne]
          rfl
        · split
          · exact (List.append_nil _).symm
          · rw [fromSub_append]
            simp [fromSub, hne.symm]

theorem Sound.turn (hal : Hal) (h : s.Sound queueCount maxReads) (hempties : s.empties < queueCount)
    (hlength : s.data.length < maxReads) : (s.turn hal queueCount).Sound queueCount maxReads := by
  have hcursor : s.nextReadIndex < queueCount := by
    have hc := h.cursor
    omega
  have hnext := succ_mod hcursor
  simp only [Scan.turn]
  split
  · next hnone =>
      refine ⟨Or.inr ?_, h.length, ?_⟩
      · exact Nat.mod_lt _ (by omega)
      · intro i hi hbehind
        rcases eq_or_ne i s.nextReadIndex with rfl | hne
        · exact hnone
        · apply h.empty i hi
          simp only [hnext, behind] at hbehind ⊢
          split at hbehind <;> split at hbehind <;> split <;> omega
  · refine ⟨Or.inr ?_, ?_, fun i _ hbehind => absurd hbehind (Nat.not_lt_zero _)⟩
    · exact Nat.mod_lt _ (by omega)
    · split
      · exact h.length
      · rw [List.length_append, List.length_singleton]
        exact hlength

/-- What remains to be done: the events stored, and the queues not yet counted. -/
def rest (queueCount : Nat) (s : Scan β) : Nat :=
  stored s.queues queueCount * (queueCount + 1) + (queueCount - s.empties)

theorem rest_turn (hal : Hal) (hcursor : s.nextReadIndex < queueCount)
    (hempties : s.empties < queueCount) :
    (s.turn hal queueCount).rest queueCount < s.rest queueCount := by
  simp only [turn, rest]
  split
  · simp only
    omega
  · next event tail hqueue =>
      rw [stored_take hcursor hqueue, Nat.succ_mul]
      simp only
      omega

/-- The loop ends, with all that a turn keeps; it ends early only when every queue
is empty. -/
theorem loop_spec (hal : Hal) (fuel : Nat) (h : s.Sound queueCount maxReads)
    (hfuel : s.rest queueCount < fuel) :
    ∃ r, loop hal queueCount maxReads fuel s = some r ∧ Took hal s r ∧
      r.Sound queueCount maxReads ∧ (queueCount ≤ r.empties ∨ maxReads ≤ r.data.length) := by
  induction fuel generalizing s with
  | zero => omega
  | succ fuel ih =>
      rw [loop]
      split
      · next hgo =>
          have hcursor : s.nextReadIndex < queueCount := by
            have hc := h.cursor
            omega
          have hrest := rest_turn hal hcursor hgo.1
          obtain ⟨r, hr, htook, hsound, hend⟩ := ih (h.turn hal hgo.1 hgo.2) (by omega)
          exact ⟨r, hr, turn_took.trans htook, hsound, hend⟩
      · next hstop => exact ⟨s, rfl, Took.refl s, h, by omega⟩

end Scan

end LibraDevice.Sensors
