import LibraDevice.Sensors.Poll

/-!
What `poll` passes on in any interleaving with the writers. A meta-data event is
looked up by its inner handle, but kept or dropped by its outer one.
-/

namespace LibraDevice.Sensors

open LibraDevice.StepRun

universe u

variable {β : Type u}

namespace Hal

/-- The handles that upstream knows. -/
def advertised (hal : Hal) : List Int :=
  hal.sensors.map Sensor.handle

/-- A global handle that is looked up is advertised, and not the bad one. -/
def Registers (hal : Hal) : Prop :=
  ∀ f g, hal.fullToGlobal f = some g → g ∈ hal.advertised ∧ g ≠ -1

theorem registers_start (modules : List SubModule) : (PollContext.start modules).hal.Registers := by
  intro f g hg
  obtain ⟨hassigned, hhandles⟩ := listing_start modules
  have hfull := hassigned.inverse f g hg
  rw [hassigned.globalToFull, Option.ite_none_right_eq_some] at hfull
  obtain ⟨hpos, hindex⟩ := hfull
  have hlen := (List.getElem?_eq_some_iff.mp hindex).1
  refine ⟨?_, by omega⟩
  rw [advertised, hhandles, List.mem_map]
  refine ⟨(g - 1).toNat, List.mem_range.mpr hlen, ?_⟩
  omega

end Hal

variable {hal : Hal} {queueCount : Nat}

theorem SensorsEvent.getGlobalHandle_of_known {subIndex : Nat} {e : SensorsEvent β}
    (h : e.Known hal subIndex) :
    hal.fullToGlobal ⟨subIndex, e.handle⟩ = some (hal.getGlobalHandle ⟨subIndex, e.handle⟩) := by
  obtain ⟨g, hg⟩ := Option.isSome_iff_exists.mp h
  rw [Hal.getGlobalHandle, hg]
  rfl

theorem SensorsEvent.handle_remap (subIndex : Nat) (e : SensorsEvent β) :
    (e.remap hal subIndex).handle = hal.getGlobalHandle ⟨subIndex, e.handle⟩ := by
  simp only [remap]
  split
  · next hmeta => exact if_pos hmeta
  · next hmeta => exact if_neg hmeta

/-- The outer handle of a meta-data event is bad just where its inner one is not
known. -/
def SensorsEvent.Plain (hal : Hal) (subIndex : Nat) (e : SensorsEvent β) : Prop :=
  e.type = sensorTypeMetaData → (e.sensor ≠ -1 ↔ e.Known hal subIndex)

theorem SensorsEvent.kept_iff_known (hreg : hal.Registers) {subIndex : Nat} {e : SensorsEvent β}
    (h : e.Plain hal subIndex) : e.Kept hal subIndex ↔ e.Known hal subIndex := by
  simp only [Kept, remap]
  split
  · next hmeta => exact h hmeta
  · constructor
    · intro hgood
      cases hg : hal.fullToGlobal ⟨subIndex, e.handle⟩ with
      | none =>
          rw [Hal.getGlobalHandle, hg] at hgood
          exact absurd rfl hgood
      | some g => exact Option.isSome_iff_exists.mpr ⟨g, hg⟩
    · intro hknown
      exact (hreg _ _ (getGlobalHandle_of_known hknown)).2

namespace PollSys

/-- Each poll gives between one and as many events as asked for; what comes from
a sub-device are its events with a known handle, in order; and each event is about
an advertised sensor. -/
structure Delivered (hal : Hal) (s : PollSys β) : Prop where
  counted : ∀ p ∈ s.polls, 1 ≤ p.2.length ∧ p.2.length ≤ p.1
  ordered : ∀ subIndex, ∃ taken, s.appended subIndex = taken ++ s.queues subIndex ∧
    fromSub subIndex s.delivered =
      (taken.filter fun e => decide (e.Known hal subIndex)).map (SensorsEvent.remap hal subIndex)
  advertised : ∀ p ∈ s.delivered, p.2.handle ∈ hal.advertised

/-- The step is taken and a poll returns. -/
def Returns (hal : Hal) (queueCount : Nat) (s : PollSys β) (a : PollAct β) : Prop :=
  ∃ s' p, s.Step hal queueCount a s' ∧ s'.polls = s.polls ++ [p]

def Fits (hal : Hal) (_ : PollSys β) : PollAct β → Prop
  | .append subIndex events => ∀ e ∈ events, e.Plain hal subIndex
  | _ => True

structure Sound (hal : Hal) (queueCount : Nat) (s : PollSys β) : Prop where
  cursor : queueCount = 0 ∨ s.nextReadIndex < queueCount
  counted : ∀ p ∈ s.polls, 1 ≤ p.2.length ∧ p.2.length ≤ p.1
  waiting : ∀ maxReads ∈ s.waiting, 1 ≤ maxReads
  plain : ∀ subIndex, ∀ e ∈ s.appended subIndex, e.Plain hal subIndex
  took : ∀ subIndex, ∃ taken, s.appended subIndex = taken ++ s.queues subIndex ∧
    fromSub subIndex s.delivered =
      (taken.filter fun e => decide (e.Kept hal subIndex)).map (SensorsEvent.remap hal subIndex)

variable {s s' : PollSys β} {maxReads : Nat}

theorem Sound.new : (PollSys.new β).Sound hal queueCount where
  cursor := by
    change queueCount = 0 ∨ 0 < queueCount
    omega
  counted := fun _ hp => by cases hp
  waiting := fun _ hm => by cases hm
  plain := fun _ _ he => by cases he
  took := fun _ => ⟨[], rfl, rfl⟩

theorem filter_kept_eq (hreg : hal.Registers) {subIndex : Nat} {events : List (SensorsEvent β)}
    (h : ∀ e ∈ events, e.Plain hal subIndex) :
    events.filter (fun e => decide (e.Kept hal subIndex)) =
      events.filter fun e => decide (e.Known hal subIndex) := by
  apply List.filter_congr
  intro e he
  exact decide_eq_decide.mpr (SensorsEvent.kept_iff_known hreg (h e he))

theorem Sound.delivered (hreg : hal.Registers) (h : s.Sound hal queueCount) :
    s.Delivered hal := by
  have hordered : ∀ subIndex, ∃ taken, s.appended subIndex = taken ++ s.queues subIndex ∧
      fromSub subIndex s.delivered =
        (taken.filter fun e => decide (e.Known hal subIndex)).map
          (SensorsEvent.remap hal subIndex) := by
    intro subIndex
    obtain ⟨taken, hqueue, hdata⟩ := h.took subIndex
    refine ⟨taken, hqueue, ?_⟩
    rw [hdata, filter_kept_eq hreg]
    intro e he
    exact h.plain subIndex e (hqueue ▸ List.mem_append_left _ he)
  refine ⟨h.counted, hordered, ?_⟩
  intro p hp
  obtain ⟨taken, -, hdata⟩ := hordered p.1
  have hmem : p.2 ∈ fromSub p.1 s.delivered :=
    List.mem_map.mpr ⟨p, List.mem_filter.mpr ⟨hp, decide_eq_true rfl⟩, rfl⟩
  rw [hdata, List.mem_map] at hmem
  obtain ⟨e, he, heq⟩ := hmem
  have hknown : e.Known hal p.1 := of_decide_eq_true (List.mem_filter.mp he).2
  rw [← heq, SensorsEvent.handle_remap]
  exact (hreg _ _ (SensorsEvent.getGlobalHandle_of_known hknown)).1

theorem Sound.append (h : s.Sound hal queueCount) {subIndex : Nat}
    {events : List (SensorsEvent β)} (hfits : ∀ e ∈ events, e.Plain hal subIndex)
    (hs : s.Step hal queueCount (.append subIndex events) s') : s'.Sound hal queueCount := by
  rw [Step, step, Option.ite_none_right_eq_some] at hs
  obtain ⟨-, heq⟩ := hs
  cases heq
  refine ⟨h.cursor, h.counted, h.waiting, ?_, ?_⟩
  · intro i e he
    change e ∈ Function.update s.appended subIndex (s.appended subIndex ++ events) i at he
    rcases eq_or_ne i subIndex with rfl | hne
    · rw [Function.update_self, List.mem_append] at he
      exact he.elim (h.plain i e) (hfits e)
    · rw [Function.update_of_ne hne] at he
      exact h.plain i e he
  · intro i
    obtain ⟨taken, hqueue, hdata⟩ := h.took i
    refine ⟨taken, ?_, hdata⟩
    change Function.update s.appended subIndex (s.appended subIndex ++ events) i =
      taken ++ Function.update s.queues subIndex (s.queues subIndex ++ events) i
    rcases eq_or_ne i subIndex with rfl | hne
    · rw [Function.update_self, Function.update_self, hqueue, List.append_assoc]
    · rw [Function.update_of_ne hne, Function.update_of_ne hne, hqueue]

theorem Sound.scan (h : s.Sound hal queueCount) (hmax : 1 ≤ maxReads) :
    ∃ s', s.scan hal queueCount maxReads = some s' ∧ s'.Sound hal queueCount ∧
      ((∃ subIndex < queueCount, ∃ e ∈ s.queues subIndex, e.Kept hal subIndex) →
        ∃ p, s'.polls = s.polls ++ [p]) := by
  have hstart : Scan.Sound queueCount maxReads ⟨s.queues, s.nextReadIndex, [], 0⟩ :=
    ⟨h.cursor, Nat.zero_le _, fun _ _ hbehind => absurd hbehind (Nat.not_lt_zero _)⟩
  obtain ⟨r, hr, htook, hsound, hend⟩ := Scan.loop_spec hal
    (Scan.fuel queueCount s.queues) hstart (by
      simp only [Scan.rest, Scan.fuel]
      omega)
  have htaken : ∀ subIndex, ∃ taken, s.appended subIndex = taken ++ r.queues subIndex ∧
      fromSub subIndex s.delivered ++ fromSub subIndex r.data =
        (taken.filter fun e => decide (e.Kept hal subIndex)).map
          (SensorsEvent.remap hal subIndex) := by
    intro subIndex
    obtain ⟨taken, hqueue, hdata⟩ := h.took subIndex
    obtain ⟨taken', hqueue', hdata'⟩ := htook subIndex
    refine ⟨taken ++ taken', ?_, ?_⟩
    · rw [hqueue, List.append_assoc]
      exact congrArg (taken ++ ·) hqueue'
    · rw [hdata, hdata', List.filter_append, List.map_append]
      rfl
  rw [PollSys.scan, hr, Option.map_some]
  split
  · next hnone =>
      refine ⟨_, rfl, ⟨hsound.cursor, h.counted, ?_, h.plain, ?_⟩, ?_⟩
      · rintro _ ⟨⟩
        exact hmax
      · intro subIndex
        obtain ⟨taken, hqueue, hdata⟩ := htaken subIndex
        refine ⟨taken, hqueue, ?_⟩
        rw [hnone] at hdata
        exact (List.append_nil _).symm.trans hdata
      · rintro ⟨subIndex, hsub, e, he, hkept⟩
        -- all queues have been scanned, and nothing kept was in them
        have hall : queueCount ≤ r.empties := by
          rw [hnone] at hend
          exact hend.resolve_right (by
            change ¬ maxReads ≤ 0
            omega)
        have hempty : r.queues subIndex = [] := by
          apply hsound.empty subIndex hsub
          have hcursor := hsound.cursor
          rw [Scan.behind]
          split <;> omega
        obtain ⟨taken, hqueue, hdata⟩ := htook subIndex
        rw [hempty, List.append_nil] at hqueue
        rw [hnone] at hdata
        have hnil : taken.filter (fun e => decide (e.Kept hal subIndex)) = [] :=
          List.map_eq_nil_iff.mp hdata.symm
        have hdrop := List.filter_eq_nil_iff.mp hnil e (hqueue ▸ he)
        exact absurd (decide_eq_true hkept) hdrop
  · next hsome =>
      refine ⟨_, rfl, ⟨hsound.cursor, ?_, ?_, h.plain, ?_⟩, fun _ => ⟨_, rfl⟩⟩
      · intro p hp
        rcases List.mem_append.mp hp with hp | hp
        · exact h.counted p hp
        · rw [List.mem_singleton.mp hp]
          exact ⟨List.length_pos_iff.mpr hsome, hsound.length⟩
      · intro _ hm
        cases hm
      · intro subIndex
        obtain ⟨taken, hqueue, hdata⟩ := htaken subIndex
        refine ⟨taken, hqueue, ?_⟩
        rw [PollSys.delivered, List.flatMap_append, fromSub_append, List.flatMap_singleton]
        exact hdata

theorem Sound.step (h : s.Sound hal queueCount) {a : PollAct β} (hfits : s.Fits hal a)
    (hs : s.Step hal queueCount a s') : s'.Sound hal queueCount := by
  cases a with
  | append subIndex events => exact h.append hfits hs
  | poll maxReads =>
      rw [Step, PollSys.step, Option.ite_none_right_eq_some] at hs
      obtain ⟨t, ht, hsound, -⟩ := h.scan hs.1.2
      exact Option.some.inj (ht.symm.trans hs.2) ▸ hsound
  | wake =>
      cases hw : s.waiting with
      | none =>
          rw [Step, PollSys.step, hw] at hs
          cases hs
      | some maxReads =>
          rw [Step, PollSys.step, hw] at hs
          obtain ⟨t, ht, hsound, -⟩ := h.scan (h.waiting maxReads hw)
          exact Option.some.inj (ht.symm.trans hs) ▸ hsound

/-- In every run whose meta-data events are plain, `poll` delivers what it should,
and returns where an event with a known handle is stored. -/
theorem run_delivered {modules : List SubModule} {acts : List (PollAct β)}
    (hrun : Run (Guarded (Fits (PollContext.start modules).hal)
      (Step (PollContext.start modules).hal queueCount)) (PollSys.new β) acts s) :
    s.Delivered (PollContext.start modules).hal ∧
      ((∃ subIndex < queueCount, ∃ e ∈ s.queues subIndex,
          e.Known (PollContext.start modules).hal subIndex) →
        (s.waiting = none → ∀ maxReads, 1 ≤ maxReads →
          s.Returns (PollContext.start modules).hal queueCount (.poll maxReads)) ∧
        (s.waiting ≠ none → s.Returns (PollContext.start modules).hal queueCount .wake)) := by
  have hreg := Hal.registers_start modules
  generalize (PollContext.start modules).hal = hal at *
  have hsound : s.Sound hal queueCount := by
    refine Run.invariant (I := Sound hal queueCount) Sound.new ?_ hrun
    rintro s a s' h ⟨hfits, hs⟩
    exact h.step hfits hs
  refine ⟨hsound.delivered hreg, ?_⟩
  rintro ⟨subIndex, hsub, e, he, hknown⟩
  have hkept : e.Kept hal subIndex := by
    obtain ⟨taken, hqueue, -⟩ := hsound.took subIndex
    refine (SensorsEvent.kept_iff_known hreg (hsound.plain subIndex e ?_)).mpr hknown
    rw [hqueue]
    exact List.mem_append_right _ he
  constructor
  · intro hidle maxReads hmax
    obtain ⟨s', hs', -, hreturns⟩ := hsound.scan hmax
    obtain ⟨p, hp⟩ := hreturns ⟨subIndex, hsub, e, he, hkept⟩
    refine ⟨s', p, ?_, hp⟩
    rw [Step, PollSys.step, if_pos ⟨hidle, hmax⟩, hs']
  · intro hwait
    obtain ⟨maxReads, hw⟩ := Option.ne_none_iff_exists'.mp hwait
    obtain ⟨s', hs', -, hreturns⟩ := hsound.scan (hsound.waiting maxReads hw)
    obtain ⟨p, hp⟩ := hreturns ⟨subIndex, hsub, e, he, hkept⟩
    refine ⟨s', p, ?_, hp⟩
    rw [Step, PollSys.step, hw]
    exact hs'

/-- A module with one sensor, whose local handle is 7. -/
def oneSensor : List SubModule :=
  [⟨[⟨7, 1, 1, 0, 0, 0⟩], true⟩]

theorem run_delivered_oneSensor :
    ∃ s : PollSys Unit, s.Delivered (PollContext.start oneSensor).hal ∧
      s.polls = [(4, [(0, ⟨1, 1, 0, ()⟩)])] := by
  have hplain : ∀ e ∈ [(⟨1, 7, 0, ()⟩ : SensorsEvent Unit), ⟨1, 8, 0, ()⟩],
      e.Plain (PollContext.start oneSensor).hal 0 := by
    intro e he hmeta
    simp only [List.mem_cons, List.not_mem_nil, or_false] at he
    rcases he with rfl | rfl <;> exact absurd hmeta (by decide)
  have h₁ : Run (Guarded (Fits (PollContext.start oneSensor).hal)
      (Step (PollContext.start oneSensor).hal 1)) (PollSys.new Unit)
      [.append 0 [⟨1, 7, 0, ()⟩, ⟨1, 8, 0, ()⟩]] _ := .snoc .nil ⟨hplain, by rfl⟩
  have h₂ : Run (Guarded (Fits (PollContext.start oneSensor).hal)
      (Step (PollContext.start oneSensor).hal 1)) (PollSys.new Unit) [_, .poll 4] _ :=
    .snoc h₁ ⟨trivial, by rfl⟩
  exact ⟨_, (run_delivered h₂).1, by rfl⟩

/-- A meta-data event about a sensor that is not known is passed on with the
handle -1. -/
theorem not_delivered_metaData :
    ∃ acts s, Run (Step (PollContext.start oneSensor).hal 1) (PollSys.new Unit) acts s ∧
      ¬ s.Delivered (PollContext.start oneSensor).hal := by
  have h₁ : Run (Step (PollContext.start oneSensor).hal 1) (PollSys.new Unit)
      [.append 0 [⟨0, 0, 9, ()⟩]] _ := .snoc .nil (by rfl)
  have h₂ : Run (Step (PollContext.start oneSensor).hal 1) (PollSys.new Unit) [_, .poll 1] _ :=
    .snoc h₁ (by rfl)
  refine ⟨_, _, h₂, fun h => ?_⟩
  exact absurd (h.advertised (0, ⟨0, 0, -1, ()⟩) (by decide)) (by decide)

end PollSys

end LibraDevice.Sensors
