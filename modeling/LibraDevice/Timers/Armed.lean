import LibraDevice.Timers.LocTimer
import Mathlib.Data.Nat.Basic

/-!
What the timerfds are armed with. The MsgTask arms one when the top of its heap
changes to another timer; only the poll thread disarms one, when it has fired.
-/

namespace LibraDevice.Timers

open LibraDevice.StepRun

universe u

variable {ι : Type u}

namespace Container

/-- What holds of a container at any time. -/
structure Sorted (c : Container) : Prop where
  ordered : c.heap.Ordered Timer.nanos
  positive : ∀ t ∈ c.heap.toList, t.mFutureTime ≠ Timespec.zero

/-- The timerfd is polled, and armed with the time of the soonest timer. -/
def ArmedForTop (c : Container) : Prop :=
  c.polled = true ∧ ∃ t, c.heap.peek = some t ∧ c.armed = some t.mFutureTime

/-- The MsgTask still has the calls `todo` to make for the container, and an
expiry is coming its way or not. -/
structure Kept (c : Container) (todo : List Syscall) (pending : Prop) : Prop where
  sorted : c.Sorted
  calls : todo = [] ∨ ∃ t, c.heap.peek = some t ∧
    (todo = [.addPoll, .settime t.mFutureTime] ∨ todo = [.settime t.mFutureTime])
  polled : ¬ pending → ∀ d, todo = [.settime d] → c.polled = true
  armed : ¬ pending → todo = [] → c.heap = .null ∨ c.ArmedForTop

variable {c : Container} {todo : List Syscall} {p p' : Prop}

theorem Kept.mono (h : c.Kept todo p) (hp : p → p') : c.Kept todo p' where
  sorted := h.sorted
  calls := h.calls
  polled := fun hnp => h.polled fun hp' => hnp (hp hp')
  armed := fun hnp => h.armed fun hp' => hnp (hp hp')

theorem Sorted.kept_top (h : c.Sorted) {t : Timer} (hpeek : c.heap.peek = some t) :
    c.Kept [.addPoll, .settime t.mFutureTime] p where
  sorted := h
  calls := Or.inr ⟨t, hpeek, Or.inl rfl⟩
  polled := fun _ _ hd => by cases hd
  armed := fun _ hnil => by cases hnil

theorem Sorted.rearm (h : c.Sorted) : c.Kept (c.updateSoonestTime none) p := by
  cases hpeek : c.heap.peek with
  | none =>
      have hnull := LocHeap.peek_eq_none.mp hpeek
      rw [updateSoonestTime_same hpeek]
      exact ⟨h, Or.inl rfl, fun _ d hd => (by cases hd), fun _ _ => Or.inl hnull⟩
  | some t =>
      rw [updateSoonestTime_top hpeek (Option.some_ne_none t).symm rfl]
      exact h.kept_top hpeek

theorem Sorted.push (h : c.Sorted) {t : Timer} (ht : t.mFutureTime ≠ Timespec.zero) :
    Sorted { c with heap := c.heap.push Timer.outRanks t } where
  ordered := h.ordered.push Timer.outRanks_iff t
  positive := by
    intro u hu
    rcases List.mem_cons.mp ((LocHeap.push_perm t _).subset hu) with rfl | hu
    · exact ht
    · exact h.positive u hu

theorem Kept.push (h : c.Kept [] p) {t : Timer} (ht : t.mFutureTime ≠ Timespec.zero) :
    Kept { c with heap := c.heap.push Timer.outRanks t }
      (updateSoonestTime c.getSoonestTimer { c with heap := c.heap.push Timer.outRanks t })
      p := by
  have hs := h.sorted.push ht
  have hpush := @LocHeap.peek_push _ Timer.outRanks t c.heap
  rw [getSoonestTimer]
  rcases eq_or_ne (c.heap.push Timer.outRanks t).peek c.heap.peek with htop | htop
  · rw [updateSoonestTime_same htop]
    refine ⟨hs, Or.inl rfl, fun _ d hd => (by cases hd), fun hnp _ => ?_⟩
    rcases h.armed hnp rfl with hnull | ⟨hpolled, u, hu, harmed⟩
    · rw [hpush, hnull] at htop
      cases htop
    · exact Or.inr ⟨hpolled, u, htop.trans hu, harmed⟩
  · have hnew : (c.heap.push Timer.outRanks t).peek = some t ∧
        c.heap.peek.all t.outRanks = true := by
      rw [hpush] at htop ⊢
      cases hpeek : c.heap.peek with
      | none => exact ⟨rfl, rfl⟩
      | some u =>
          rw [hpeek] at htop
          simp only [Option.elim_some, Option.all_some] at htop ⊢
          split at htop
          · next hrank => exact ⟨by rw [if_pos hrank], hrank⟩
          · exact absurd rfl htop
    have htopt : c.heap.peek ≠ some t := fun heq => htop (hnew.1.trans heq.symm)
    rw [updateSoonestTime_top hnew.1 htopt hnew.2]
    exact hs.kept_top hnew.1

theorem Sorted.pending (h : c.Sorted) (hp : p) : c.Kept [] p where
  sorted := h
  calls := Or.inl rfl
  polled := fun hnp => absurd hp hnp
  armed := fun hnp => absurd hp hnp

theorem Sorted.without (h : c.Sorted) {t : Timer} {heap : LocHeap Timer}
    (ho : heap.Ordered Timer.nanos) (hperm : c.heap.toList.Perm (t :: heap.toList)) :
    Sorted { c with heap := heap } where
  ordered := ho
  positive := fun u hu => h.positive u (hperm.symm.subset (List.mem_cons_of_mem _ hu))

theorem Sorted.dropTop (h : c.Sorted) {t : Timer} (hpeek : c.heap.peek = some t) :
    Sorted { c with heap := c.heap.dropTop Timer.outRanks } :=
  h.without (h.ordered.dropTop Timer.outRanks_iff) (LocHeap.dropTop_perm hpeek)

theorem Kept.remove (h : c.Kept [] p) {t : Timer} {heap : LocHeap Timer}
    (hrem : c.heap.remove Timer.outRanks t = some heap) :
    Kept { c with heap := heap }
      (if c.getSoonestTimer = some t then updateSoonestTime none { c with heap := heap } else [])
      p := by
  have hs := h.sorted.without (h.sorted.ordered.remove Timer.outRanks_iff hrem)
    (LocHeap.remove_perm hrem)
  split
  · exact hs.rearm
  · next htop =>
      have hpeek : heap.peek = c.heap.peek := LocHeap.peek_remove hrem htop
      refine ⟨hs, Or.inl rfl, fun _ d hd => (by cases hd), fun hnp _ => ?_⟩
      rcases h.armed hnp rfl with hnull | ⟨hpolled, u, hu, harmed⟩
      · rw [hnull] at hrem
        cases hrem
      · exact Or.inr ⟨hpolled, u, hpeek.trans hu, harmed⟩

theorem Kept.syscall {call : Syscall} (h : c.Kept (call :: todo) p) :
    (c.syscall call).Kept todo p := by
  rcases h.calls with hnil | ⟨t, hpeek, hcalls⟩
  · cases hnil
  · have hzero := h.sorted.positive t (LocHeap.peek_mem hpeek)
    rcases hcalls with hcalls | hcalls
    · cases hcalls
      refine ⟨⟨h.sorted.ordered, h.sorted.positive⟩, Or.inr ⟨t, hpeek, Or.inr rfl⟩,
        fun _ _ _ => rfl,
        fun _ hnil => ?_⟩
      cases hnil
    · cases hcalls
      refine ⟨⟨h.sorted.ordered, h.sorted.positive⟩, Or.inl rfl, fun _ d hd => (by cases hd),
        fun hnp _ => Or.inr ⟨?_, t, hpeek, ?_⟩⟩
      · exact h.polled hnp _ rfl
      · exact if_neg hzero

theorem Kept.polling (h : c.Kept todo p) {call : Syscall}
    (hcall : call = .settime Timespec.zero ∨ call = .removePoll) :
    (c.syscall call).Kept todo True := by
  rcases hcall with rfl | rfl
  · exact ⟨⟨h.sorted.ordered, h.sorted.positive⟩, h.calls,
      fun hnp => absurd trivial hnp, fun hnp => absurd trivial hnp⟩
  · exact ⟨⟨h.sorted.ordered, h.sorted.positive⟩, h.calls,
      fun hnp => absurd trivial hnp, fun hnp => absurd trivial hnp⟩

end Container

def Msg.container : Msg → Kind
  | .push t | .remove t => t.mContainer
  | .expire k => k

namespace Task

/-- The MsgTask is in the middle of a message for the container. -/
def On (k : Kind) : Task ι → Prop
  | .idle => False
  | .updating k' _ | .expiring k' _ _ | .stopping k' _ _ _ | .calling k' _ _ _ => k' = k

/-- The calls the MsgTask still has to make for the container. -/
def todo (k : Kind) : Task ι → List Syscall
  | .updating k' todo => if k' = k then todo else []
  | _ => []

/-- The MsgTask is in the loop of an expire message for the container. -/
def Expires (k : Kind) : Task ι → Prop
  | .expiring k' _ _ | .stopping k' _ _ _ | .calling k' _ _ _ => k' = k
  | _ => False

theorem todo_of_not_on {k : Kind} {task : Task ι} (h : ¬ task.On k) : task.todo k = [] := by
  cases task with
  | updating k' todo => exact if_neg h
  | idle | expiring | stopping | calling => rfl

theorem not_expires_of_not_on {k : Kind} {task : Task ι} (h : ¬ task.On k) :
    ¬ task.Expires k := by
  cases task with
  | idle | updating => exact id
  | expiring | stopping | calling => exact h

end Task

namespace Sys

/-- Neither a message nor an expiry is pending for the container. -/
structure Quiet (s : Sys ι) (k : Kind) : Prop where
  queue : ∀ msg ∈ s.queue, msg.container ≠ k
  task : ¬ s.task.On k
  poll : k ∉ s.poll.events
  fired : ¬ (s.container k).Fired s.clock

/-- A quiet container with timers is polled and armed with the time of its soonest timer. -/
def SoonestArmed (s : Sys ι) : Prop :=
  ∀ k, (s.container k).heap ≠ .null → s.Quiet k →
    (s.container k).polled = true ∧
      ∃ t ∈ (s.container k).heap.toList,
        (s.container k).armed = some t.mFutureTime ∧
          ∀ u ∈ (s.container k).heap.toList, t.nanos ≤ u.nanos

/-- A container without timers is disarmed. -/
def EmptyDisarmed (s : Sys ι) : Prop :=
  ∀ k, (s.container k).heap = .null → (s.container k).armed = none

/-- An expire message is under way. -/
def Awaits (s : Sys ι) (k : Kind) : Prop :=
  .expire k ∈ s.queue ∨ k ∈ s.poll.events

def Pending (s : Sys ι) (k : Kind) : Prop :=
  s.Awaits k ∨ s.task.Expires k

structure Watched (s : Sys ι) : Prop where
  pushed : ∀ t, .push t ∈ s.queue → t.mFutureTime ≠ Timespec.zero
  kept : ∀ k, (s.container k).Kept (s.task.todo k) (s.Pending k)

variable {s s' : Sys ι}

theorem Watched.init (clock : Clock) : (Sys.init ι clock).Watched where
  pushed := fun _ ht => by cases ht
  kept := by
    intro k
    refine ⟨⟨trivial, fun _ ht => (by cases ht)⟩, Or.inl rfl,
      fun _ _ hd => (by cases hd), fun _ _ => Or.inl rfl⟩

theorem Watched.soonestArmed (h : s.Watched) : s.SoonestArmed := by
  intro k hne hq
  have hk := h.kept k
  have hpending : ¬ s.Pending k := by
    rintro ((hqueue | hpoll) | htask)
    · exact hq.queue _ hqueue rfl
    · exact hq.poll hpoll
    · exact Task.not_expires_of_not_on hq.task htask
  rcases hk.armed hpending (Task.todo_of_not_on hq.task) with hnull | ⟨hpolled, t, ht, harmed⟩
  · exact absurd hnull hne
  · exact ⟨hpolled, t, LocHeap.peek_mem ht, harmed, fun _ hu => hk.sorted.ordered.peek_le ht hu⟩

theorem Watched.other (h : s.Watched) {k : Kind} (hon : ¬ s.task.On k) :
    (s.container k).Kept [] (s.Awaits k) := by
  have hk := h.kept k
  rw [Task.todo_of_not_on hon] at hk
  exact hk.mono fun hp => hp.resolve_right (Task.not_expires_of_not_on hon)

theorem Watched.update (hpushed : ∀ t, .push t ∈ s.queue → t.mFutureTime ≠ Timespec.zero)
    {k : Kind} {todo : List Syscall} (hk : (s.container k).Kept todo (s.Awaits k))
    (hother : ∀ k', k' ≠ k → (s.container k').Kept [] (s.Awaits k')) :
    (s.update k todo).Watched where
  pushed := hpushed
  kept := by
    intro k'
    have hawaits : s.Awaits k' → (s.update k todo).Pending k' := Or.inl
    have htodo : (s.update k todo).task.todo k' = if k = k' then todo else [] := by
      simp only [Sys.update]
      split
      · next hnil => rw [hnil, ite_self]; rfl
      · rfl
    rw [htodo]
    split
    · next heq =>
        subst heq
        exact hk.mono hawaits
    · next hne => exact (hother k' (Ne.symm hne)).mono hawaits

theorem Watched.expiring (hpushed : ∀ t, .push t ∈ s.queue → t.mFutureTime ≠ Timespec.zero)
    {k : Kind} (hk : (s.container k).Sorted) (now : Clock) (t : Timer)
    (hother : ∀ k', k' ≠ k → (s.container k').Kept [] (s.Awaits k')) :
    Watched { s with task := .expiring k now t } where
  pushed := hpushed
  kept := by
    intro k'
    rcases eq_or_ne k' k with rfl | hne
    · exact hk.pending (Or.inr rfl)
    · exact (hother k' hne).mono Or.inl

theorem Watched.popNext (hpushed : ∀ t, .push t ∈ s.queue → t.mFutureTime ≠ Timespec.zero)
    {k : Kind} {now : Clock} (hk : (s.container k).Sorted)
    (hother : ∀ k', k' ≠ k → (s.container k').Kept [] (s.Awaits k')) :
    (s.popNext k now).Watched := by
  rcases s.popNext_eq k now with ⟨t, hpeek, -, heq⟩ | heq
  · rw [heq]
    refine Watched.expiring (s := s.setContainer k _) hpushed ?_ now t ?_
    · rw [setContainer_same]
      exact hk.dropTop hpeek
    · intro k' hne
      rw [setContainer_ne s _ hne]
      exact hother k' hne
  · rw [heq]
    exact Watched.update hpushed hk.rearm hother

theorem Watched.push (hpushed : ∀ t, .push t ∈ s.queue → t.mFutureTime ≠ Timespec.zero)
    (hkept : ∀ k, (s.container k).Kept [] (s.Awaits k)) {t : Timer}
    (ht : t.mFutureTime ≠ Timespec.zero) : (s.proc (.push t)).Watched := by
  refine Watched.update (s := s.setContainer t.mContainer _) hpushed ?_ ?_
  · rw [setContainer_same]
    exact (hkept t.mContainer).push ht
  · intro k' hne
    rw [setContainer_ne s _ hne]
    exact hkept k'

theorem Watched.remove (hpushed : ∀ t, .push t ∈ s.queue → t.mFutureTime ≠ Timespec.zero)
    (hkept : ∀ k, (s.container k).Kept [] (s.Awaits k)) (t : Timer) :
    (s.proc (.remove t)).Watched := by
  simp only [Sys.proc]
  split
  · next heap hrem =>
      refine Watched.update (s := s.setContainer t.mContainer _) hpushed ?_ ?_
      · rw [setContainer_same]
        exact (hkept t.mContainer).remove hrem
      · intro k' hne
        rw [setContainer_ne s _ hne]
        exact hkept k'
  · refine Watched.update hpushed ?_ fun k' _ => hkept k'
    split
    · exact (hkept t.mContainer).sorted.rearm
    · exact hkept t.mContainer

theorem Watched.expire (hpushed : ∀ t, .push t ∈ s.queue → t.mFutureTime ≠ Timespec.zero)
    {k : Kind} (hk : (s.container k).Sorted)
    (hother : ∀ k', k' ≠ k → (s.container k').Kept [] (s.Awaits k')) :
    (s.proc (.expire k)).Watched := by
  simp only [Sys.proc, LocHeap.pop]
  cases hpeek : (s.container k).heap.peek with
  | none => exact Watched.update hpushed hk.rearm hother
  | some t =>
      refine Watched.expiring (s := s.setContainer k _) hpushed ?_ s.clock t ?_
      · rw [setContainer_same]
        exact hk.dropTop hpeek
      · intro k' hne
        rw [setContainer_ne s _ hne]
        exact hother k' hne

theorem Watched.grow (h : s.Watched) {s' : Sys ι} (hcontainer : s'.container = s.container)
    (htodo : ∀ k, s'.task.todo k = s.task.todo k)
    (hexpires : ∀ k, s.task.Expires k → s'.task.Expires k)
    (hpoll : ∀ k ∈ s.poll.events, k ∈ s'.poll.events)
    (hqueue : ∀ k, .expire k ∈ s.queue → .expire k ∈ s'.queue)
    (hpushed : ∀ t, .push t ∈ s'.queue → .push t ∈ s.queue ∨ t.mFutureTime ≠ Timespec.zero) :
    s'.Watched where
  pushed := fun t ht => (hpushed t ht).elim (h.pushed t) id
  kept := by
    intro k
    rw [hcontainer, htodo]
    refine (h.kept k).mono ?_
    rintro ((hq | he) | ht)
    · exact Or.inl (Or.inl (hqueue k hq))
    · exact Or.inl (Or.inr (hpoll k he))
    · exact Or.inr (hexpires k ht)

theorem Watched.polling (h : s.Watched) {k : Kind} {call : Syscall} {poll : PollTask}
    (hcall : call = .settime Timespec.zero ∨ call = .removePoll) (hk : k ∈ poll.events)
    (hevents : poll.events = s.poll.events) :
    Watched { s.setContainer k ((s.container k).syscall call) with poll := poll } where
  pushed := h.pushed
  kept := by
    intro k'
    rcases eq_or_ne k' k with rfl | hne
    · change Container.Kept ((s.setContainer k' _).container k') _ _
      rw [setContainer_same]
      exact ((h.kept k').polling hcall).mono fun _ => Or.inl (Or.inr hk)
    · change Container.Kept ((s.setContainer k _).container k') _ _
      rw [setContainer_ne s _ hne]
      refine (h.kept k').mono ?_
      rintro ((hq | he) | ht)
      · exact Or.inl (Or.inl hq)
      · exact Or.inl (Or.inr (hevents ▸ he))
      · exact Or.inr ht

theorem Watched.others (h : s.Watched) {k k' : Kind} (htask : ∀ j, s.task.On j → j = k)
    (hne : k' ≠ k) : (s.container k').Kept [] (s.Awaits k') :=
  h.other fun hon => hne (htask k' hon)

theorem Watched.client [DecidableEq ι] (h : s.Watched) {a : Act ι}
    (ha : (∃ c, a = .tick c) ∨ (∃ i ms w r, a = .start i ms w r) ∨ ∃ i, a = .stop i)
    (hs : s.step a = some s') : s'.Watched := by
  rcases ha with ⟨clock, rfl⟩ | ⟨client, timeOutInMs, wakeOnExpire, read, rfl⟩ | ⟨client, rfl⟩
  · simp only [Sys.step, Option.ite_none_right_eq_some, Option.some.injEq] at hs
    obtain ⟨-, rfl⟩ := hs
    exact h.grow rfl (fun _ => rfl) (fun _ hk => hk) (fun _ hk => hk) (fun _ hk => hk)
      (fun _ ht => Or.inl ht)
  · simp only [Sys.step, Option.ite_none_right_eq_some] at hs
    obtain ⟨-, hs⟩ := hs
    split at hs
    · cases hs
      exact h
    · cases hs
      refine h.grow rfl (fun _ => rfl) (fun _ hk => hk) (fun _ hk => hk)
        (fun _ hk => List.mem_append_left _ hk) ?_
      intro t ht
      rcases List.mem_append.mp ht with ht | ht
      · exact Or.inl ht
      · cases List.mem_singleton.mp ht
        exact Or.inr (futureTime_ne_zero _ _)
  · simp only [Sys.step] at hs
    split at hs
    · cases hs
      exact h
    · cases hs
      refine h.grow rfl (fun _ => rfl) (fun _ hk => hk) (fun _ hk => hk)
        (fun _ hk => List.mem_append_left _ hk) ?_
      intro t ht
      rcases List.mem_append.mp ht with ht | ht
      · exact Or.inl ht
      · cases List.mem_singleton.mp ht

theorem Watched.epollWait [DecidableEq ι] (h : s.Watched) {events : List Kind}
    (hs : s.step (.epollWait events) = some s') : s'.Watched := by
  simp only [Sys.step, Option.ite_none_right_eq_some, Option.some.injEq] at hs
  obtain ⟨⟨hnone, -⟩, rfl⟩ := hs
  refine h.grow rfl (fun _ => rfl) (fun _ hk => hk) (fun k hk => ?_) (fun _ hk => hk)
    (fun _ ht => Or.inl ht)
  rw [hnone] at hk
  cases hk

theorem Watched.expirePost [DecidableEq ι] (h : s.Watched) (hs : s.step .expirePost = some s') :
    s'.Watched := by
  simp only [Sys.step] at hs
  split at hs
  · next k events hevents _ =>
      cases hs
      refine ⟨fun t ht => ?_, fun k' => (h.kept k').mono ?_⟩
      · rcases List.mem_append.mp ht with ht | ht
        · exact h.pushed t ht
        · cases List.mem_singleton.mp ht
      · rintro ((hq | he) | ht)
        · exact Or.inl (Or.inl (List.mem_append_left _ hq))
        · rw [hevents] at he
          rcases List.mem_cons.mp he with rfl | he
          · exact Or.inl (Or.inl (List.mem_append_right _ (List.mem_singleton_self _)))
          · exact Or.inl (Or.inr he)
        · exact Or.inr ht
  · cases hs

theorem Watched.receive [DecidableEq ι] (h : s.Watched) (hs : s.step .receive = some s') :
    s'.Watched := by
  simp only [Sys.step] at hs
  split at hs
  · next msg queue htask hqueue =>
      cases hs
      have hidle : ∀ k, (s.container k).Kept [] (s.Awaits k) := fun k => h.other (htask ▸ id)
      have hpushed : ∀ t, .push t ∈ queue → t.mFutureTime ≠ Timespec.zero :=
        fun t ht => h.pushed t (hqueue ▸ List.mem_cons_of_mem _ ht)
      -- only an expire message is awaited, and by its own container
      have hrest : ∀ k, msg ≠ .expire k →
          (s.container k).Kept [] (Awaits { s with queue := queue } k) := by
        intro k hne
        refine (hidle k).mono ?_
        rintro (hq | he)
        · rw [hqueue] at hq
          exact Or.inl ((List.mem_cons.mp hq).resolve_left hne.symm)
        · exact Or.inr he
      cases msg with
      | push t =>
          have ht := h.pushed t (hqueue ▸ List.mem_cons_self)
          exact Watched.push (s := { s with queue := queue }) hpushed
            (fun k => hrest k (by simp)) ht
      | remove t =>
          exact Watched.remove (s := { s with queue := queue }) hpushed
            (fun k => hrest k (by simp)) t
      | expire k =>
          exact Watched.expire (s := { s with queue := queue }) hpushed (hidle k).sorted
            (fun k' hne => hrest k' (by simpa using hne.symm))
  · cases hs

theorem Watched.call [DecidableEq ι] (h : s.Watched) (hs : s.step .syscall = some s') :
    s'.Watched := by
  simp only [Sys.step] at hs
  split at hs
  · next k call todo htask =>
      cases hs
      have hon : ∀ j, s.task.On j → j = k := by
        rw [htask]
        exact fun j hj => hj.symm
      have hk : (s.container k).Kept (call :: todo) (s.Awaits k) := by
        have hk := h.kept k
        rw [htask, Task.todo, if_pos rfl] at hk
        refine hk.mono fun hp => hp.resolve_right ?_
        rw [htask]
        exact id
      refine Watched.update (s := s.setContainer k _) h.pushed ?_ fun k' hne => ?_
      · rw [setContainer_same]
        exact hk.syscall
      · rw [setContainer_ne s _ hne]
        exact h.others hon hne
  · cases hs

theorem Watched.loop [DecidableEq ι] (h : s.Watched) {a : Act ι}
    (ha : a = .readClient ∨ a = .stopClient ∨ a = .callback) (hs : s.step a = some s') :
    s'.Watched := by
  rcases ha with rfl | rfl | rfl
  · simp only [Sys.step] at hs
    split at hs
    · next k now t htask =>
        have hon : ∀ j, s.task.On j → j = k := by
          rw [htask]
          exact fun j hj => hj.symm
        split at hs
        · cases hs
          exact Watched.popNext h.pushed (h.kept k).sorted fun k' hne => h.others hon hne
        · cases hs
          refine h.grow rfl (fun j => ?_) (fun j hj => ?_) (fun _ hk => hk) (fun _ hk => hk)
            (fun _ ht => Or.inl ht)
          · rw [htask]
            rfl
          · rw [htask] at hj
            exact hj
    · cases hs
  · simp only [Sys.step] at hs
    split at hs
    · next k now t client htask =>
        have hon : ∀ j, s.task.On j → j = k := by
          rw [htask]
          exact fun j hj => hj.symm
        split at hs
        · cases hs
          exact Watched.popNext h.pushed (h.kept k).sorted fun k' hne => h.others hon hne
        · cases hs
          refine h.grow rfl (fun j => ?_) (fun j hj => ?_) (fun _ hk => hk)
            (fun _ hk => List.mem_append_left _ hk) (fun t ht => ?_)
          · rw [htask]
            rfl
          · rw [htask] at hj
            exact hj
          · rcases List.mem_append.mp ht with ht | ht
            · exact Or.inl ht
            · cases List.mem_singleton.mp ht
    · cases hs
  · simp only [Sys.step] at hs
    split at hs
    · next k now client stopped htask =>
        cases hs
        have hon : ∀ j, s.task.On j → j = k := by
          rw [htask]
          exact fun j hj => hj.symm
        let s₁ : Sys ι := { s with callbacks := s.callbacks ++ [⟨client, stopped, s.clock⟩] }
        exact Watched.popNext (s := s₁) h.pushed (h.kept k).sorted fun k' hne => h.others hon hne
    · cases hs

theorem Watched.step [DecidableEq ι] (h : s.Watched) {a : Act ι} (hs : s.step a = some s') :
    s'.Watched := by
  cases a with
  | tick | start | stop => exact h.client (by simp) hs
  | epollWait => exact h.epollWait hs
  | expireDisarm | expireRemovePoll =>
      simp only [Sys.step] at hs
      split at hs
      · next k events hevents _ =>
          cases hs
          exact h.polling (by simp) (hevents ▸ List.mem_cons_self) rfl
      · cases hs
  | expirePost => exact h.expirePost hs
  | receive => exact h.receive hs
  | syscall => exact h.call hs
  | readClient | stopClient | callback => exact h.loop (by simp) hs

theorem Watched.of_run [DecidableEq ι] {clock : Clock} {acts : List (Act ι)}
    (h : Run Steps (Sys.init ι clock) acts s) : s.Watched :=
  h.invariant (Watched.init clock) fun _ _ _ hs hstep => hs.step hstep

end Sys

end LibraDevice.Timers
