import LibraDevice.Timers.LocTimer

/-!
When timers expire. An expire message pops the soonest timer without a look at
the clock: a message before it may have removed the timer that fired, and the
lock is not held between the read of the client and its `stop`.
-/

namespace LibraDevice.Timers

open LibraDevice.StepRun

universe u

variable {ι : Type u}

/-- The timer and the client of the `stop` to come. -/
def Task.stops : Task ι → Option (Timer × ι)
  | .stopping _ _ t client => some (t, client)
  | _ => none

namespace Sys

/-- No callback was called before the time its timer was started for. -/
def NoneEarly (s : Sys ι) : Prop :=
  ∀ e ∈ s.callbacks, e.stopped.Due e.time

/-- An expire message meets a timer that is due, or whose client has stopped it;
the client stopped for it still has its timer, or none, or another one that is
due. -/
def Prompt (s : Sys ι) : Act ι → Prop
  | .receive =>
      ∀ k ∈ s.expires, ∀ t ∈ (s.container k).heap.peek,
        t.Due s.clock ∨ s.mClient t.id = none
  | .stopClient =>
      ∀ p ∈ s.task.stops, ∀ d ∈ s.mTimer p.2, d = p.1 ∨ d.Due s.clock
  | _ => True

instance instDecidablePrompt [DecidableEq ι] (s : Sys ι) : (a : Act ι) → Decidable (s.Prompt a)
  | .receive =>
      inferInstanceAs (Decidable (∀ k ∈ s.expires, ∀ t ∈ (s.container k).heap.peek,
        t.Due s.clock ∨ s.mClient t.id = none))
  | .stopClient =>
      inferInstanceAs (Decidable (∀ p ∈ s.task.stops, ∀ d ∈ s.mTimer p.2,
        d = p.1 ∨ d.Due s.clock))
  | .tick .. | .start .. | .stop .. | .epollWait .. | .expireDisarm | .expireRemovePoll
  | .expirePost | .syscall | .readClient | .callback => .isTrue trivial

/-- The timers of the messages and of the heaps have been started. -/
structure Issued (s : Sys ι) : Prop where
  queued : ∀ t, .push t ∈ s.queue → t.id < s.nextId
  heaps : ∀ k, ∀ t ∈ (s.container k).heap.toList, t.id < s.nextId

variable {s s' : Sys ι}

theorem Issued.setContainer (h : s.Issued) (k : Kind) {c : Container}
    (hc : ∀ t ∈ c.heap.toList, t ∈ (s.container k).heap.toList ∨ t.id < s.nextId) :
    (s.setContainer k c).Issued where
  queued := h.queued
  heaps := by
    intro k' t ht
    rcases eq_or_ne k' k with rfl | hne
    · rw [setContainer_same] at ht
      exact (hc t ht).elim (h.heaps k' t) id
    · rw [setContainer_ne s c hne] at ht
      exact h.heaps k' t ht

theorem Issued.dropTop (h : s.Issued) {k : Kind} {t : Timer}
    (hpeek : (s.container k).heap.peek = some t) :
    (s.setContainer k
      { s.container k with heap := (s.container k).heap.dropTop Timer.outRanks }).Issued := by
  refine h.setContainer k ?_
  intro u hu
  exact Or.inl ((LocHeap.dropTop_perm hpeek).symm.subset (List.mem_cons_of_mem _ hu))

end Sys

/-- What the MsgTask has in hand is due, unless its client has stopped it. -/
def Task.Timely (s : Sys ι) : Task ι → Prop
  | .expiring _ now t =>
      now.nanos ≤ s.clock.nanos ∧ t.id < s.nextId ∧ (t.Due s.clock ∨ s.mClient t.id = none)
  | .stopping _ now t _ => now.nanos ≤ s.clock.nanos ∧ t.Due s.clock
  | .calling _ now _ stopped => now.nanos ≤ s.clock.nanos ∧ stopped.Due s.clock
  | _ => True

theorem Task.Timely.mono {s s' : Sys ι} {task : Task ι} (h : task.Timely s)
    (hclock : s.clock.nanos ≤ s'.clock.nanos) (hid : s.nextId ≤ s'.nextId)
    (hclient : ∀ i, i < s.nextId → s.mClient i = none → s'.mClient i = none) :
    task.Timely s' := by
  cases task with
  | idle => trivial
  | updating k todo => trivial
  | expiring k now t =>
      obtain ⟨hnow, ht, hdue⟩ := h
      refine ⟨Nat.le_trans hnow hclock, Nat.lt_of_lt_of_le ht hid, ?_⟩
      exact hdue.imp (fun hd => hd.mono hclock) (hclient t.id ht)
  | stopping k now t client => exact ⟨Nat.le_trans h.1 hclock, h.2.mono hclock⟩
  | calling k now client stopped => exact ⟨Nat.le_trans h.1 hclock, h.2.mono hclock⟩

namespace Sys

structure Punctual (s : Sys ι) : Prop where
  issued : s.Issued
  task : s.task.Timely s
  noneEarly : s.NoneEarly

variable {s s' : Sys ι}

theorem Punctual.init (clock : Clock) : (Sys.init ι clock).Punctual where
  issued :=
    { queued := fun _ ht => by cases ht
      heaps := fun _ _ ht => by cases ht }
  task := trivial
  noneEarly := fun _ he => by cases he

theorem Punctual.update (hi : s.Issued) (he : s.NoneEarly) (k : Kind) (todo : List Syscall) :
    (s.update k todo).Punctual where
  issued := ⟨hi.queued, hi.heaps⟩
  task := by
    simp only [Sys.update]
    split <;> trivial
  noneEarly := he

theorem Punctual.popNext (hi : s.Issued) (he : s.NoneEarly) (k : Kind) {now : Clock}
    (hnow : now.nanos ≤ s.clock.nanos) : (s.popNext k now).Punctual := by
  rcases s.popNext_eq k now with ⟨t, hpeek, hdue, heq⟩ | heq
  · rw [heq]
    have hid := hi.heaps k t (LocHeap.peek_mem hpeek)
    have hi' := hi.dropTop hpeek
    exact ⟨⟨hi'.queued, hi'.heaps⟩, ⟨hnow, hid, Or.inl (hdue.mono hnow)⟩, he⟩
  · rw [heq]
    exact Punctual.update hi he k _

theorem Punctual.proc (hi : s.Issued) (he : s.NoneEarly) {msg : Msg}
    (hpush : ∀ t, msg = .push t → t.id < s.nextId)
    (hexpire : ∀ k, msg = .expire k → ∀ t ∈ (s.container k).heap.peek,
      t.Due s.clock ∨ s.mClient t.id = none) : (s.proc msg).Punctual := by
  cases msg with
  | push t =>
      refine Punctual.update (hi.setContainer _ ?_) he _ _
      intro u hu
      rcases List.mem_cons.mp ((LocHeap.push_perm t _).subset hu) with rfl | hu
      · exact Or.inr (hpush u rfl)
      · exact Or.inl hu
  | remove t =>
      simp only [Sys.proc]
      split
      · next heap hrem =>
          refine Punctual.update (hi.setContainer _ ?_) he _ _
          intro u hu
          exact Or.inl ((LocHeap.remove_perm hrem).symm.subset (List.mem_cons_of_mem _ hu))
      · exact Punctual.update hi he _ _
  | expire k =>
      simp only [Sys.proc, LocHeap.pop]
      cases hpeek : (s.container k).heap.peek with
      | none => exact Punctual.update hi he _ _
      | some t =>
          have hid := hi.heaps k t (LocHeap.peek_mem hpeek)
          have hi' := hi.dropTop hpeek
          exact ⟨⟨hi'.queued, hi'.heaps⟩, ⟨Nat.le_refl _, hid, hexpire k rfl t hpeek⟩, he⟩

theorem Issued.stopTimer [DecidableEq ι] (hi : s.Issued) (client : ι) (timer : Timer) :
    (s.stopTimer client timer).Issued where
  queued := by
    intro t ht
    rcases List.mem_append.mp ht with ht | ht
    · exact hi.queued t ht
    · cases List.mem_singleton.mp ht
  heaps := hi.heaps

theorem Punctual.polling (h : s.Punctual) (k : Kind) (call : Syscall) (poll : PollTask) :
    Punctual { s.setContainer k ((s.container k).syscall call) with poll := poll } where
  issued :=
    have hi := h.issued.setContainer k fun _ ht => Or.inl (Container.heap_syscall .. ▸ ht)
    ⟨hi.queued, hi.heaps⟩
  task := h.task.mono (Nat.le_refl _) (Nat.le_refl _) fun _ _ hclient => hclient
  noneEarly := h.noneEarly

theorem Punctual.start [DecidableEq ι] (h : s.Punctual) {client : ι} {timeOutInMs : BitVec 32}
    {wakeOnExpire : Bool} {read : Clock}
    (hs : s.step (.start client timeOutInMs wakeOnExpire read) = some s') : s'.Punctual := by
  obtain ⟨hi, ht, he⟩ := h
  simp only [Sys.step, Option.ite_none_right_eq_some] at hs
  obtain ⟨-, hs⟩ := hs
  split at hs
  · cases hs
    exact ⟨hi, ht, he⟩
  · cases hs
    have hlt : ∀ i, i < s.nextId → i < s.nextId + 1 := fun i hlt => Nat.lt_succ_of_lt hlt
    refine ⟨⟨?_, fun k t hk => hlt _ (hi.heaps k t hk)⟩, ?_, he⟩
    · intro t hk
      rcases List.mem_append.mp hk with hk | hk
      · exact hlt _ (hi.queued t hk)
      · cases List.mem_singleton.mp hk
        exact Nat.lt_succ_self _
    · refine ht.mono (Nat.le_refl _) (Nat.le_succ _) ?_
      intro i hlt' hc
      rw [← hc]
      exact Function.update_of_ne (Nat.ne_of_lt hlt') ..

theorem Punctual.stop [DecidableEq ι] (h : s.Punctual) {client : ι}
    (hs : s.step (.stop client) = some s') : s'.Punctual := by
  obtain ⟨hi, ht, he⟩ := h
  simp only [Sys.step] at hs
  split at hs
  · cases hs
    exact ⟨hi, ht, he⟩
  · next timer htimer =>
      cases hs
      refine ⟨hi.stopTimer client timer, ?_, he⟩
      refine ht.mono (Nat.le_refl _) (Nat.le_refl _) ?_
      intro i _ hc
      simp only [Sys.stopTimer, Function.update_apply]
      split
      · rfl
      · exact hc

theorem Punctual.receive [DecidableEq ι] (h : s.Punctual) (hp : s.Prompt .receive)
    (hs : s.step .receive = some s') : s'.Punctual := by
  obtain ⟨hi, ht, he⟩ := h
  simp only [Sys.step] at hs
  split at hs
  · next msg queue htask hqueue =>
      cases hs
      refine Punctual.proc (s := { s with queue := queue }) ⟨?_, hi.heaps⟩ he ?_ ?_
      · intro t hk
        exact hi.queued t (hqueue ▸ List.mem_cons_of_mem _ hk)
      · rintro t rfl
        exact hi.queued t (hqueue ▸ List.mem_cons_self)
      · rintro k rfl
        exact hp k (by simp only [Sys.expires, htask, hqueue]; rfl)
  · cases hs

theorem Punctual.readClient [DecidableEq ι] (h : s.Punctual)
    (hs : s.step .readClient = some s') : s'.Punctual := by
  obtain ⟨hi, ht, he⟩ := h
  simp only [Sys.step] at hs
  split at hs
  · next k now t htask =>
      rw [htask] at ht
      obtain ⟨hnow, -, hdue⟩ := ht
      split at hs
      · cases hs
        exact Punctual.popNext hi he k hnow
      · next client hclient =>
          cases hs
          have hdue : t.Due s.clock := hdue.resolve_right (by rw [hclient]; simp)
          exact ⟨⟨hi.queued, hi.heaps⟩, ⟨hnow, hdue⟩, he⟩
  · cases hs

theorem Punctual.stopClient [DecidableEq ι] (h : s.Punctual) (hp : s.Prompt .stopClient)
    (hs : s.step .stopClient = some s') : s'.Punctual := by
  obtain ⟨hi, ht, he⟩ := h
  simp only [Sys.step] at hs
  split at hs
  · next k now t client htask =>
      rw [htask] at ht
      obtain ⟨hnow, hdue⟩ := ht
      split at hs
      · cases hs
        exact Punctual.popNext hi he k hnow
      · next stopped hstopped =>
          cases hs
          have hstop : stopped.Due s.clock := by
            rcases hp (t, client) (by rw [htask]; rfl) stopped hstopped with rfl | hd
            · exact hdue
            · exact hd
          have hi' := hi.stopTimer client stopped
          exact ⟨⟨hi'.queued, hi'.heaps⟩, ⟨hnow, hstop⟩, he⟩
  · cases hs

theorem Punctual.callback [DecidableEq ι] (h : s.Punctual)
    (hs : s.step .callback = some s') : s'.Punctual := by
  obtain ⟨hi, ht, he⟩ := h
  simp only [Sys.step] at hs
  split at hs
  · next k now client stopped htask =>
      rw [htask] at ht
      obtain ⟨hnow, hdue⟩ := ht
      cases hs
      let s₁ : Sys ι := { s with callbacks := s.callbacks ++ [⟨client, stopped, s.clock⟩] }
      have he₁ : s₁.NoneEarly := by
        intro e hk
        rcases List.mem_append.mp hk with hk | hk
        · exact he e hk
        · cases List.mem_singleton.mp hk
          exact hdue
      exact Punctual.popNext (s := s₁) ⟨hi.queued, hi.heaps⟩ he₁ k hnow
  · cases hs

theorem Punctual.step [DecidableEq ι] (h : s.Punctual) {a : Act ι} (hp : s.Prompt a)
    (hs : s.step a = some s') : s'.Punctual := by
  have hi := h.issued
  have ht := h.task
  have he := h.noneEarly
  cases a with
  | tick clock =>
      simp only [Sys.step, Option.ite_none_right_eq_some, Option.some.injEq] at hs
      obtain ⟨hclock, rfl⟩ := hs
      exact ⟨⟨hi.queued, hi.heaps⟩, ht.mono hclock (Nat.le_refl _) (fun _ _ hc => hc), he⟩
  | start => exact h.start hs
  | stop => exact h.stop hs
  | epollWait events =>
      simp only [Sys.step, Option.ite_none_right_eq_some, Option.some.injEq] at hs
      obtain ⟨-, rfl⟩ := hs
      exact ⟨⟨hi.queued, hi.heaps⟩, ht.mono (Nat.le_refl _) (Nat.le_refl _) (fun _ _ hc => hc), he⟩
  | expireDisarm =>
      simp only [Sys.step] at hs
      split at hs
      · cases hs
        exact h.polling _ _ _
      · cases hs
  | expireRemovePoll =>
      simp only [Sys.step] at hs
      split at hs
      · cases hs
        exact h.polling _ _ _
      · cases hs
  | expirePost =>
      simp only [Sys.step] at hs
      split at hs
      · cases hs
        refine ⟨⟨?_, hi.heaps⟩, ht.mono (Nat.le_refl _) (Nat.le_refl _) (fun _ _ hc => hc), he⟩
        intro t hk
        rcases List.mem_append.mp hk with hk | hk
        · exact hi.queued t hk
        · cases List.mem_singleton.mp hk
      · cases hs
  | receive => exact h.receive hp hs
  | syscall =>
      simp only [Sys.step] at hs
      split at hs
      · next k call todo htask =>
          cases hs
          refine Punctual.update (hi.setContainer k ?_) he k todo
          intro t hk
          exact Or.inl (Container.heap_syscall .. ▸ hk)
      · cases hs
  | readClient => exact h.readClient hs
  | stopClient => exact h.stopClient hp hs
  | callback => exact h.callback hs

/-- In a run of prompt steps no callback comes early. -/
theorem run_noneEarly [DecidableEq ι] (clock : Clock) {acts : List (Act ι)}
    (h : Run (Guarded Prompt Steps) (Sys.init ι clock) acts s) : s.NoneEarly := by
  have hpunctual : s.Punctual := by
    refine h.invariant (Punctual.init clock) ?_
    rintro s a s' hs ⟨hp, hstep⟩
    exact hs.step hp hstep
  exact hpunctual.noneEarly

/-- One timer is started and expires. -/
theorem run_noneEarly_expired :
    ∃ s : Sys Bool,
      Run (Guarded Prompt Steps) (Sys.init Bool (.seconds 1 (by decide)))
        [.start true 1000 false (.seconds 1 (by decide)), .receive, .syscall, .syscall,
          .tick (.seconds 2 (by decide)), .epollWait [.sw], .expireDisarm,
          .expireRemovePoll, .expirePost, .receive, .readClient, .stopClient, .callback] s ∧
      s.callbacks.length = 1 ∧ s.NoneEarly := by
  let run : Option (Sys Bool) :=
    [.start true 1000 false (.seconds 1 (by decide)), .receive, .syscall, .syscall,
      .tick (.seconds 2 (by decide)), .epollWait [.sw], .expireDisarm,
      .expireRemovePoll, .expirePost, .receive, .readClient, .stopClient, .callback].foldlM
        (fun s a => if s.Prompt a then s.step a else none)
        (Sys.init Bool (.seconds 1 (by decide)))
  have hcalls : run.map (·.callbacks.length) = some 1 := by decide
  obtain ⟨s, hs, hlength⟩ := Option.map_eq_some_iff.mp hcalls
  have hrun := Run.of_guarded_foldlM (fun _ _ _ h => h) hs
  exact ⟨s, hrun, hlength, run_noneEarly _ hrun⟩

/-- The timer that fired is stopped and removed, and the expire message pops the
other one four seconds before its time. -/
theorem run_removed_early :
    ∃ s : Sys Bool,
      Run Steps (Sys.init Bool (.seconds 1 (by decide)))
        [.start true 1000 false (.seconds 1 (by decide)),
          .start false 5000 false (.seconds 1 (by decide)), .receive, .syscall, .syscall,
          .receive, .tick (.seconds 2 (by decide)), .epollWait [.sw], .stop true,
          .expireDisarm, .expireRemovePoll, .expirePost, .receive, .syscall, .syscall,
          .receive, .readClient, .stopClient, .callback] s ∧
      ¬ s.NoneEarly := by
  let run : Option (Sys Bool) :=
    [.start true 1000 false (.seconds 1 (by decide)),
      .start false 5000 false (.seconds 1 (by decide)), .receive, .syscall, .syscall,
      .receive, .tick (.seconds 2 (by decide)), .epollWait [.sw], .stop true,
      .expireDisarm, .expireRemovePoll, .expirePost, .receive, .syscall, .syscall,
      .receive, .readClient, .stopClient, .callback].foldlM
        Sys.step (Sys.init Bool (.seconds 1 (by decide)))
  let stopped : Timer := ⟨1, .sw, futureTime (.seconds 1 (by decide)) 5000⟩
  have hcalls : run.map (·.callbacks) = some [⟨false, stopped, .seconds 2 (by decide)⟩] := by
    decide
  obtain ⟨s, hs, hcallbacks⟩ := Option.map_eq_some_iff.mp hcalls
  refine ⟨s, Run.of_foldlM (fun _ _ _ h => h) hs, fun hnone => ?_⟩
  have hdue : stopped.Due (.seconds 2 (by decide)) :=
    hnone ⟨false, stopped, .seconds 2 (by decide)⟩ (hcallbacks ▸ List.mem_singleton_self _)
  revert hdue
  decide

end Sys

end LibraDevice.Timers
