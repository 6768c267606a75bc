import LibraDevice.Timers.Armed
import Mathlib.Data.List.Nodup

/-!
Whether a container without timers is disarmed. Only the poll thread disarms a
timerfd, so its last timer has to leave between that and the end of the expire
message, and no other message may arm the timerfd again in that time.
-/

namespace LibraDevice.Timers

open LibraDevice.StepRun

universe u

variable {ι : Type u}

namespace Sys

/-- The poll thread has disarmed the timerfd, and the MsgTask has not received the
expire message yet. -/
def Fires (s : Sys ι) (k : Kind) : Prop :=
  .expire k ∈ s.queue ∨ s.poll.phase ≠ .called ∧ s.poll.events.head? = some k

instance instDecidableFires (s : Sys ι) (k : Kind) : Decidable (s.Fires k) :=
  inferInstanceAs (Decidable (_ ∨ _))

/-- A message for a timerfd that has fired does not change the soonest timer, unless it
removes the only one; no other message removes the only one. -/
def KeepsTop (s : Sys ι) : Msg → Prop
  | .push t => s.Fires t.mContainer →
      ∃ u ∈ (s.container t.mContainer).heap.peek, u.nanos ≤ t.nanos
  | .remove t =>
      if s.Fires t.mContainer then
        (s.container t.mContainer).heap.peek = some t →
          (s.container t.mContainer).heap.toList = [t]
      else (s.container t.mContainer).heap.toList ≠ [t]
  | .expire _ => True

/-- The message received keeps the soonest timer, and the poll thread disarms no timerfd
that the MsgTask is about to arm. -/
def Undisturbed (s : Sys ι) : Act ι → Prop
  | .receive => ∀ msg ∈ s.queue.head?, s.KeepsTop msg
  | .expireDisarm => ∀ k ∈ s.poll.events.head?, s.task.todo k = []
  | _ => True

instance instDecidableKeepsTop (s : Sys ι) : ∀ msg, Decidable (s.KeepsTop msg)
  | .push t => inferInstanceAs (Decidable (s.Fires t.mContainer → _))
  | .remove t => inferInstanceAs (Decidable (if s.Fires t.mContainer then _ → _ else _ ≠ _))
  | .expire _ => inferInstanceAs (Decidable True)

instance instDecidableUndisturbed (s : Sys ι) : ∀ a, Decidable (s.Undisturbed a)
  | .receive => inferInstanceAs (Decidable (∀ msg ∈ s.queue.head?, s.KeepsTop msg))
  | .expireDisarm => inferInstanceAs (Decidable (∀ k ∈ s.poll.events.head?, s.task.todo k = []))
  | .tick _ | .start .. | .stop _ | .epollWait _ | .expireRemovePoll | .expirePost | .syscall
  | .readClient | .stopClient | .callback => inferInstanceAs (Decidable True)

/-- Both halves. -/
def NoneForgotten (s : Sys ι) : Prop :=
  s.SoonestArmed ∧ s.EmptyDisarmed

/-- What is on the way to the MsgTask. -/
def expiries (s : Sys ι) (k : Kind) : Nat :=
  s.queue.count (.expire k) + s.poll.events.count k

/-- What holds of a container whatever the MsgTask does. -/
structure Waiting (s : Sys ι) (k : Kind) : Prop where
  once : s.expiries k ≤ 1
  fired : s.Fires k → (s.container k).armed = none
  empty : (s.container k).heap = .null → (s.container k).armed = none

/-- From the disarming to the end of the expire message the timerfd is disarmed, and
there is one such message. -/
structure Settled (s : Sys ι) (k : Kind) : Prop extends Waiting s k where
  todo : s.Fires k → s.task.todo k = []
  expires : s.task.Expires k → s.expiries k = 0 ∧ (s.container k).armed = none

variable {s s' : Sys ι} {k : Kind}

theorem Fires.expiries_pos (h : s.Fires k) : 0 < s.expiries k := by
  rcases h with hqueue | ⟨-, hhead⟩
  · exact Nat.add_pos_left (List.count_pos_iff.mpr hqueue) _
  · have hmem : k ∈ s.poll.events := List.mem_of_head? hhead
    exact Nat.add_pos_right _ (List.count_pos_iff.mpr hmem)

theorem Settled.init (clock : Clock) (k : Kind) : (Sys.init ι clock).Settled k where
  once := Nat.zero_le 1
  fired := fun _ => rfl
  empty := fun _ => rfl
  todo := fun _ => rfl
  expires := False.elim

theorem Settled.update (h : ∀ k, s.Waiting k) {todo : List Syscall}
    (htodo : s.Fires k → todo = []) (k' : Kind) : (s.update k todo).Settled k' where
  once := (h k').once
  fired := (h k').fired
  empty := (h k').empty
  todo := by
    intro hfires
    simp only [Sys.update]
    split
    · rfl
    · next hne =>
        refine if_neg ?_
        rintro rfl
        exact hne (htodo hfires)
  expires := by
    intro hexpires
    simp only [Sys.update] at hexpires
    split at hexpires
    · exact hexpires.elim
    · exact hexpires.elim

theorem Settled.expiring (h : ∀ k, s.Waiting k) (hnone : s.expiries k = 0)
    (harmed : (s.container k).armed = none) (now : Clock) (t : Timer) (k' : Kind) :
    Settled { s with task := .expiring k now t } k' where
  once := (h k').once
  fired := (h k').fired
  empty := (h k').empty
  todo := fun _ => rfl
  expires := by
    rintro rfl
    exact ⟨hnone, harmed⟩

theorem Waiting.setHeap (h : ∀ k, s.Waiting k) {heap : LocHeap Timer}
    (hnull : heap = .null → (s.container k).armed = none) (k' : Kind) :
    (s.setContainer k { s.container k with heap := heap }).Waiting k' := by
  have hk := h k'
  rcases eq_or_ne k' k with rfl | hne
  · refine ⟨hk.once, ?_, ?_⟩
    · rw [setContainer_same]
      exact hk.fired
    · rw [setContainer_same]
      exact hnull
  · refine ⟨hk.once, ?_, ?_⟩
    · rw [setContainer_ne s _ hne]
      exact hk.fired
    · rw [setContainer_ne s _ hne]
      exact hk.empty

theorem Settled.popNext (h : ∀ k, s.Waiting k) (hnone : s.expiries k = 0)
    (harmed : (s.container k).armed = none) (now : Clock) (k' : Kind) :
    (s.popNext k now).Settled k' := by
  rcases s.popNext_eq k now with ⟨t, -, -, heq⟩ | heq
  · rw [heq]
    refine Settled.expiring (s := s.setContainer k _) (Waiting.setHeap h fun _ => harmed) hnone
      ?_ now t k'
    rw [setContainer_same]
    exact harmed
  · rw [heq]
    refine Settled.update h (fun hfires => ?_) k'
    exact absurd hnone hfires.expiries_pos.ne'

theorem Waiting.dequeue {msg : Msg} {queue : List Msg} (hqueue : s.queue = msg :: queue)
    (h : s.Waiting k) : Waiting { s with queue := queue } k where
  once := by
    have honce := h.once
    rw [expiries, hqueue, List.count_cons] at honce
    exact Nat.le_trans (Nat.add_le_add_right (Nat.le_add_right _ _) _) honce
  fired := by
    rintro (hmem | hpoll)
    · exact h.fired (Or.inl (hqueue ▸ List.mem_cons_of_mem msg hmem))
    · exact h.fired (Or.inr hpoll)
  empty := h.empty

theorem Settled.push (h : ∀ k, s.Waiting k) {t : Timer} (hkeeps : s.KeepsTop (.push t)) (k : Kind) :
    (s.proc (.push t)).Settled k := by
  refine Settled.update (Waiting.setHeap h fun hnull => ?_) (fun hfires => ?_) k
  · have hmem := (@LocHeap.push_perm _ Timer.outRanks t (s.container t.mContainer).heap).symm.subset
      List.mem_cons_self
    rw [hnull] at hmem
    cases hmem
  · obtain ⟨u, hu, hle⟩ := hkeeps hfires
    have hrank : t.outRanks u = false := (Timespec.outRanks_eq_false _ _).mpr hle
    refine Container.updateSoonestTime_same ?_
    rw [LocHeap.peek_push, Container.getSoonestTimer, Option.mem_def.mp hu, Option.elim_some, hrank]
    rfl

theorem Settled.remove (h : ∀ k, s.Waiting k) {t : Timer} (hkeeps : s.KeepsTop (.remove t))
    (k : Kind) : (s.proc (.remove t)).Settled k := by
  have hcalls : ∀ c : Container, c.heap = .null → c.updateSoonestTime none = [] := by
    intro c hnull
    exact Container.updateSoonestTime_same (LocHeap.peek_eq_none.mpr hnull)
  simp only [Sys.proc]
  split
  · next heap hrem =>
      have hperm := LocHeap.remove_perm hrem
      refine Settled.update (Waiting.setHeap h fun hnull => ?_) (fun hfires => ?_) k
      · -- the only timer is removed, so the timerfd has fired
        rw [hnull, LocHeap.toList_null, List.perm_singleton] at hperm
        refine (h t.mContainer).fired (Classical.byContradiction fun hfires => ?_)
        rw [KeepsTop, if_neg hfires] at hkeeps
        exact hkeeps hperm
      · have hf : s.Fires t.mContainer := hfires
        rw [KeepsTop, if_pos hf] at hkeeps
        split
        · next hpeek =>
            rw [hkeeps hpeek, List.singleton_perm, List.cons.injEq] at hperm
            exact hcalls _ (LocHeap.toList_eq_nil.mp hperm.2.symm)
        · rfl
  · refine Settled.update h (fun _ => ?_) k
    split
    · next hpeek => exact hcalls _ (LocHeap.peek_eq_none.mp hpeek)
    · rfl

theorem Settled.expire (h : ∀ k, s.Waiting k) (hnone : s.expiries k = 0)
    (harmed : (s.container k).armed = none) (k' : Kind) : (s.proc (.expire k)).Settled k' := by
  simp only [Sys.proc]
  split
  · next t heap hpop =>
      refine Settled.expiring (s := s.setContainer k _) (Waiting.setHeap h fun _ => harmed) hnone
        ?_ s.clock t k'
      rw [setContainer_same]
      exact harmed
  · refine Settled.update h (fun hfires => ?_) k'
    exact absurd hnone hfires.expiries_pos.ne'

theorem Waiting.post (h : s.Waiting k) (msg : Msg) (hne : msg ≠ .expire k)
    (hqueue : s'.queue = s.queue ++ [msg]) (hcontainer : s'.container = s.container)
    (hpoll : s'.poll = s.poll) :
    s'.Waiting k ∧ s'.expiries k = s.expiries k ∧ (s'.Fires k → s.Fires k) := by
  have hexpiries : s'.expiries k = s.expiries k := by
    have hzero : [msg].count (.expire k) = 0 :=
      List.count_eq_zero.mpr fun hmem => hne (List.mem_singleton.mp hmem).symm
    rw [expiries, expiries, hqueue, hpoll, List.count_append, hzero]
    rfl
  have hfires : s'.Fires k → s.Fires k := by
    rw [Fires, Fires, hqueue, hpoll]
    refine Or.imp_left fun hmem => (List.mem_append.mp hmem).resolve_right fun hlast => ?_
    exact hne (List.mem_singleton.mp hlast).symm
  refine ⟨⟨hexpiries ▸ h.once, ?_, ?_⟩, hexpiries, hfires⟩
  · rw [hcontainer]
    exact fun hf => h.fired (hfires hf)
  · rw [hcontainer]
    exact h.empty

theorem Settled.post (h : s.Settled k) (msg : Msg) (hne : msg ≠ .expire k)
    (hqueue : s'.queue = s.queue ++ [msg]) (hcontainer : s'.container = s.container)
    (hpoll : s'.poll = s.poll) (htask : s'.task = s.task) : s'.Settled k := by
  obtain ⟨hwait, hexpiries, hfires⟩ := h.toWaiting.post msg hne hqueue hcontainer hpoll
  refine ⟨hwait, ?_, ?_⟩
  · rw [htask]
    exact fun hf => h.todo (hfires hf)
  · rw [htask, hexpiries, hcontainer]
    exact h.expires

theorem Settled.client [DecidableEq ι] (h : s.Settled k) {a : Act ι}
    (ha : (∃ c, a = .tick c) ∨ (∃ i ms w r, a = .start i ms w r) ∨ ∃ i, a = .stop i)
    (hs : s.step a = some s') : s'.Settled k := by
  rcases ha with ⟨clock, rfl⟩ | ⟨client, timeOutInMs, wakeOnExpire, read, rfl⟩ | ⟨client, rfl⟩
  · simp only [Sys.step, Option.ite_none_right_eq_some, Option.some.injEq] at hs
    obtain ⟨-, rfl⟩ := hs
    exact ⟨⟨h.once, h.fired, h.empty⟩, h.todo, h.expires⟩
  · simp only [Sys.step, Option.ite_none_right_eq_some] at hs
    obtain ⟨-, hs⟩ := hs
    split at hs
    · cases hs
      exact h
    · cases hs
      exact h.post (.push _) (by simp) rfl rfl rfl rfl
  · simp only [Sys.step] at hs
    split at hs
    · cases hs
      exact h
    · cases hs
      exact h.post (.remove _) (by simp) rfl rfl rfl rfl

/-- An event is only read of a timerfd that is armed, so no expire message of its container
is on the way. -/
theorem Settled.epollWait [DecidableEq ι] (h : s.Settled k) {events : List Kind}
    (hs : s.step (.epollWait events) = some s') : s'.Settled k := by
  simp only [Sys.step, Option.ite_none_right_eq_some, Option.some.injEq] at hs
  obtain ⟨⟨hnone, hnodup, hfired⟩, rfl⟩ := hs
  have hfires : Fires { s with poll := ⟨events, .called⟩ } k → s.Fires k :=
    fun hf => Or.inl (hf.resolve_right fun hp => hp.1 rfl)
  have hold : s.expiries k = s.queue.count (.expire k) := by
    rw [expiries, hnone]
    rfl
  have hnew : k ∈ events → s.queue.count (.expire k) = 0 ∧ ¬ s.task.Expires k := by
    intro hmem
    obtain ⟨-, t, ht, -⟩ := hfired k hmem
    have harmed : (s.container k).armed ≠ none := by
      rw [Option.mem_def.mp ht]
      exact Option.some_ne_none t
    refine ⟨List.count_eq_zero.mpr fun hq => harmed (h.fired (Or.inl hq)), fun hexp => ?_⟩
    exact harmed (h.expires hexp).2
  refine ⟨⟨?_, fun hf => h.fired (hfires hf), h.empty⟩, fun hf => h.todo (hfires hf), ?_⟩
  · change s.queue.count (.expire k) + events.count k ≤ 1
    rcases Decidable.em (k ∈ events) with hmem | hmem
    · rw [(hnew hmem).1, Nat.zero_add]
      exact List.nodup_iff_count_le_one.mp hnodup k
    · rw [List.count_eq_zero.mpr hmem, ← hold]
      exact h.once
  · intro hexp
    refine ⟨?_, (h.expires hexp).2⟩
    change s.queue.count (.expire k) + events.count k = 0
    rw [List.count_eq_zero.mpr fun hmem => (hnew hmem).2 hexp, ← hold]
    exact (h.expires hexp).1

theorem Settled.expireDisarm [DecidableEq ι] (h : ∀ k, s.Settled k)
    (hok : s.Undisturbed .expireDisarm) (hs : s.step .expireDisarm = some s') (k' : Kind) :
    s'.Settled k' := by
  simp only [Sys.step] at hs
  split at hs
  · next k events hevents _ =>
      cases hs
      have hk := h k'
      have hhead : s.poll.events.head? = some k := by
        rw [hevents]
        rfl
      rcases eq_or_ne k' k with rfl | hne
      · refine ⟨⟨hk.once, ?_, ?_⟩, fun _ => hok k' hhead, ?_⟩
        · exact fun _ => congrArg Container.armed (setContainer_same s k' _)
        · exact fun _ => congrArg Container.armed (setContainer_same s k' _)
        · exact fun hexp =>
            ⟨(hk.expires hexp).1, congrArg Container.armed (setContainer_same s k' _)⟩
      · have hfires :
          Fires { s.setContainer k ((s.container k).syscall (.settime Timespec.zero)) with
            poll := { s.poll with phase := .disarmed } } k' → s.Fires k' := by
          refine Or.imp_right fun hp => absurd ?_ hne
          exact Option.some.inj (hp.2.symm.trans hhead)
        have hcontainer := setContainer_ne s ((s.container k).syscall (.settime Timespec.zero)) hne
        refine ⟨⟨hk.once, fun hf => ?_, fun hnull => ?_⟩, fun hf => hk.todo (hfires hf), ?_⟩
        · exact (congrArg Container.armed hcontainer).trans (hk.fired (hfires hf))
        · exact (congrArg Container.armed hcontainer).trans
            (hk.empty ((congrArg Container.heap hcontainer).symm.trans hnull))
        · exact fun hexp => ⟨(hk.expires hexp).1,
            (congrArg Container.armed hcontainer).trans (hk.expires hexp).2⟩
  · cases hs

theorem Settled.expireRemovePoll [DecidableEq ι] (h : ∀ k, s.Settled k)
    (hs : s.step .expireRemovePoll = some s') (k' : Kind) : s'.Settled k' := by
  simp only [Sys.step] at hs
  split at hs
  · next k events _ hphase =>
      cases hs
      have hk := h k'
      have hfires : Fires { s.setContainer k ((s.container k).syscall .removePoll) with
          poll := { s.poll with phase := .removed } } k' → s.Fires k' := by
        refine Or.imp_right fun hp => ⟨?_, hp.2⟩
        rw [hphase]
        intro heq
        cases heq
      have hcontainer : ((s.setContainer k ((s.container k).syscall .removePoll)).container
          k').armed = (s.container k').armed ∧
          ((s.setContainer k ((s.container k).syscall .removePoll)).container k').heap =
            (s.container k').heap := by
        rcases eq_or_ne k' k with rfl | hne
        · rw [setContainer_same]
          exact ⟨rfl, rfl⟩
        · rw [setContainer_ne s _ hne]
          exact ⟨rfl, rfl⟩
      refine ⟨⟨hk.once, fun hf => ?_, fun hnull => ?_⟩, fun hf => hk.todo (hfires hf), ?_⟩
      · exact hcontainer.1.trans (hk.fired (hfires hf))
      · exact hcontainer.1.trans (hk.empty (hcontainer.2.symm.trans hnull))
      · exact fun hexp => ⟨(hk.expires hexp).1, hcontainer.1.trans (hk.expires hexp).2⟩
  · cases hs

theorem Settled.expirePost [DecidableEq ι] (h : s.Settled k) (hs : s.step .expirePost = some s') :
    s'.Settled k := by
  simp only [Sys.step] at hs
  split at hs
  · next k' events hevents hphase =>
      cases hs
      have hexpiries : expiries { s.post (.expire k') with poll := ⟨events, .called⟩ } k =
          s.expiries k := by
        change (s.queue ++ [Msg.expire k']).count (.expire k) + events.count k = _
        rw [expiries, hevents, List.count_append, List.count_singleton, List.count_cons]
        have hsame : ((Msg.expire k' == Msg.expire k) : Bool) = (k' == k) := by
          cases k' <;> cases k <;> rfl
        rw [hsame]
        omega
      have hfires : Fires { s.post (.expire k') with poll := ⟨events, .called⟩ } k → s.Fires k := by
        rintro (hmem | ⟨hcalled, -⟩)
        · rcases List.mem_append.mp hmem with hold | hlast
          · exact Or.inl hold
          · cases List.mem_singleton.mp hlast
            refine Or.inr ⟨?_, ?_⟩
            · rw [hphase]
              intro heq
              cases heq
            · rw [hevents]
              rfl
        · exact absurd rfl hcalled
      refine ⟨⟨hexpiries ▸ h.once, fun hf => h.fired (hfires hf), h.empty⟩,
        fun hf => h.todo (hfires hf), ?_⟩
      rw [hexpiries]
      exact h.expires
  · cases hs

theorem Settled.receive [DecidableEq ι] (h : ∀ k, s.Settled k) (hok : s.Undisturbed .receive)
    (hs : s.step .receive = some s') (k' : Kind) : s'.Settled k' := by
  simp only [Sys.step] at hs
  split at hs
  · next msg queue htask hqueue =>
      cases hs
      have hrest : ∀ k, Waiting { s with queue := queue } k :=
        fun k => (h k).toWaiting.dequeue hqueue
      have hkeeps : s.KeepsTop msg := hok msg (by rw [hqueue]; rfl)
      -- for another message the same timerfds have fired as before
      have hfires : ∀ k, msg ≠ .expire k → (Fires { s with queue := queue } k ↔ s.Fires k) := by
        intro k hne
        rw [Fires, Fires, hqueue, List.mem_cons, or_iff_right hne.symm]
      cases msg with
      | push t =>
          refine Settled.push (s := { s with queue := queue }) hrest (fun hf => ?_) k'
          exact hkeeps ((hfires _ (by simp)).mp hf)
      | remove t =>
          refine Settled.remove (s := { s with queue := queue }) hrest ?_ k'
          simp only [KeepsTop, hfires t.mContainer (by simp)]
          exact hkeeps
      | expire k =>
          have hk := h k
          have hmem : .expire k ∈ s.queue := hqueue ▸ List.mem_cons_self
          have hnone : expiries { s with queue := queue } k = 0 := by
            have honce := hk.once
            rw [expiries, hqueue, List.count_cons_self] at honce
            have hrest : queue.count (.expire k) + s.poll.events.count k = 0 := by omega
            exact hrest
          exact Settled.expire (s := { s with queue := queue }) hrest hnone
            (hk.fired (Or.inl hmem)) k'
  · cases hs

theorem Settled.call [DecidableEq ι] (hw : s.Watched) (h : ∀ k, s.Settled k)
    (hs : s.step .syscall = some s') (k' : Kind) : s'.Settled k' := by
  simp only [Sys.step] at hs
  split at hs
  · next k call todo htask =>
      cases hs
      have htodo : s.task.todo k = call :: todo := by
        rw [htask]
        exact if_pos rfl
      have hnot : ¬ s.Fires k := fun hf => List.cons_ne_nil _ _ (htodo.symm.trans ((h k).todo hf))
      have hne : (s.container k).heap ≠ .null := by
        intro hnull
        rcases (hw.kept k).calls with hnil | ⟨t, hpeek, -⟩
        · exact List.cons_ne_nil _ _ (htodo.symm.trans hnil)
        · rw [hnull] at hpeek
          cases hpeek
      refine Settled.update (s := s.setContainer k _) (fun j => ?_) (fun hf => absurd hf hnot) k'
      have hj := (h j).toWaiting
      rcases eq_or_ne j k with rfl | hjk
      · refine ⟨hj.once, fun hf => absurd hf hnot, ?_⟩
        rw [setContainer_same, Container.heap_syscall]
        exact fun hnull => absurd hnull hne
      · refine ⟨hj.once, ?_, ?_⟩
        · rw [setContainer_ne s _ hjk]
          exact hj.fired
        · rw [setContainer_ne s _ hjk]
          exact hj.empty
  · cases hs

theorem Settled.loop [DecidableEq ι] (h : ∀ k, s.Settled k) {a : Act ι}
    (ha : a = .readClient ∨ a = .stopClient ∨ a = .callback) (hs : s.step a = some s')
    (k' : Kind) : s'.Settled k' := by
  have hwait : ∀ k, s.Waiting k := fun k => (h k).toWaiting
  rcases ha with rfl | rfl | rfl
  · simp only [Sys.step] at hs
    split at hs
    · next k now t htask =>
        obtain ⟨hnone, harmed⟩ := (h k).expires (htask ▸ rfl)
        split at hs
        · cases hs
          exact Settled.popNext hwait hnone harmed now k'
        · cases hs
          have hk := h k'
          refine ⟨⟨hk.once, hk.fired, hk.empty⟩, fun _ => rfl, ?_⟩
          rintro rfl
          exact ⟨hnone, harmed⟩
    · cases hs
  · simp only [Sys.step] at hs
    split at hs
    · next k now t client htask =>
        obtain ⟨hnone, harmed⟩ := (h k).expires (htask ▸ rfl)
        split at hs
        · cases hs
          exact Settled.popNext hwait hnone harmed now k'
        · next stopped _ =>
            cases hs
            have hposted : ({ s.stopTimer client stopped with
                task := .calling k now client stopped } : Sys ι).queue =
                s.queue ++ [.remove stopped] := rfl
            obtain ⟨hk, hexpiries, -⟩ := (hwait k').post _ (by simp) hposted rfl rfl
            refine ⟨hk, fun _ => rfl, ?_⟩
            rintro rfl
            exact ⟨hexpiries.trans hnone, harmed⟩
    · cases hs
  · simp only [Sys.step] at hs
    split at hs
    · next k now client stopped htask =>
        cases hs
        obtain ⟨hnone, harmed⟩ := (h k).expires (htask ▸ rfl)
        let s₁ : Sys ι := { s with callbacks := s.callbacks ++ [⟨client, stopped, s.clock⟩] }
        have hwait₁ : ∀ k, s₁.Waiting k :=
          fun k => ⟨(hwait k).once, (hwait k).fired, (hwait k).empty⟩
        exact Settled.popNext (s := s₁) hwait₁ hnone harmed now k'
    · cases hs

theorem Settled.step [DecidableEq ι] (hw : s.Watched) (h : ∀ k, s.Settled k) {a : Act ι}
    (hok : s.Undisturbed a) (hs : s.step a = some s') (k : Kind) : s'.Settled k := by
  cases a with
  | tick | start | stop => exact (h k).client (by simp) hs
  | epollWait => exact (h k).epollWait hs
  | expireDisarm => exact Settled.expireDisarm h hok hs k
  | expireRemovePoll => exact Settled.expireRemovePoll h hs k
  | expirePost => exact (h k).expirePost hs
  | receive => exact Settled.receive h hok hs k
  | syscall => exact Settled.call hw h hs k
  | readClient | stopClient | callback => exact Settled.loop h (by simp) hs k

theorem emptyDisarmed_of_run [DecidableEq ι] {clock : Clock} {acts : List (Act ι)}
    (h : Run (Guarded Undisturbed Steps) (Sys.init ι clock) acts s) : s.EmptyDisarmed := by
  have hsettled : s.Watched ∧ ∀ k, s.Settled k := by
    refine h.invariant (I := fun s => s.Watched ∧ ∀ k, s.Settled k)
      ⟨Watched.init clock, Settled.init clock⟩ ?_
    rintro s a s' ⟨hw, hs⟩ ⟨hok, hstep⟩
    exact ⟨hw.step hstep, Settled.step hw hs hok hstep⟩
  exact fun k => (hsettled.2 k).empty

/-- The timers of a quiet container are never forgotten; an empty container is disarmed if
no message disturbs the expiries. -/
theorem run_noneForgotten [DecidableEq ι] (clock : Clock) :
    (∀ acts s, Run Steps (Sys.init ι clock) acts s → s.SoonestArmed) ∧
      ∀ acts s, Run (Guarded Undisturbed Steps) (Sys.init ι clock) acts s → s.NoneForgotten := by
  have hsoonest : ∀ acts s, Run Steps (Sys.init ι clock) acts s → s.SoonestArmed :=
    fun _ _ h => (Watched.of_run h).soonestArmed
  exact ⟨hsoonest, fun acts s h => ⟨hsoonest acts s h.unguarded, emptyDisarmed_of_run h⟩⟩

/-- Two timers are started and expire one after the other. -/
theorem run_noneForgotten_next :
    ∃ s : Sys Bool,
      Run (Guarded Undisturbed Steps) (Sys.init Bool (.seconds 1 (by decide)))
        [.start true 1000 false (.seconds 1 (by decide)),
          .start false 5000 false (.seconds 1 (by decide)), .receive, .syscall, .syscall,
          .receive, .tick (.seconds 2 (by decide)), .epollWait [.sw], .expireDisarm,
          .expireRemovePoll, .expirePost, .receive, .readClient, .stopClient, .callback,
          .syscall, .syscall, .receive, .tick (.seconds 7 (by decide)), .epollWait [.sw],
          .expireDisarm, .expireRemovePoll, .expirePost, .receive, .readClient, .stopClient,
          .callback, .receive] s ∧
      s.callbacks.length = 2 ∧ s.NoneForgotten := by
  let run : Option (Sys Bool) :=
    [.start true 1000 false (.seconds 1 (by decide)),
      .start false 5000 false (.seconds 1 (by decide)), .receive, .syscall, .syscall,
      .receive, .tick (.seconds 2 (by decide)), .epollWait [.sw], .expireDisarm,
      .expireRemovePoll, .expirePost, .receive, .readClient, .stopClient, .callback,
      .syscall, .syscall, .receive, .tick (.seconds 7 (by decide)), .epollWait [.sw],
      .expireDisarm, .expireRemovePoll, .expirePost, .receive, .readClient, .stopClient,
      .callback, .receive].foldlM
        (fun s a => if s.Undisturbed a then s.step a else none)
        (Sys.init Bool (.seconds 1 (by decide)))
  have hcalls : run.map (fun s => s.callbacks.length) = some 2 := by decide
  obtain ⟨s, hs, hlength⟩ := Option.map_eq_some_iff.mp hcalls
  have hrun := Run.of_guarded_foldlM (fun _ _ _ h => h) hs
  exact ⟨s, hrun, hlength, (run_noneForgotten _).2 _ s hrun⟩

/-- The only timer is stopped, and its timerfd stays armed. -/
theorem run_stopped_armed :
    ∃ s : Sys Bool,
      Run Steps (Sys.init Bool (.seconds 1 (by decide)))
        [.start true 1000 false (.seconds 1 (by decide)), .receive, .syscall, .syscall,
          .stop true, .receive] s ∧
      s.Quiet .sw ∧ ¬ s.NoneForgotten := by
  let run : Option (Sys Bool) :=
    [.start true 1000 false (.seconds 1 (by decide)), .receive, .syscall, .syscall,
      .stop true, .receive].foldlM Sys.step (Sys.init Bool (.seconds 1 (by decide)))
  let armed : Container := ⟨.null, some (futureTime (.seconds 1 (by decide)) 1000), true⟩
  have hend : run.map (fun s => (s.container .sw, s.queue, s.task, s.poll.events, s.clock)) =
      some (armed, [], .idle, [], .seconds 1 (by decide)) := by
    decide
  obtain ⟨s, hs, heq⟩ := Option.map_eq_some_iff.mp hend
  simp only [Prod.mk.injEq] at heq
  obtain ⟨hcontainer, hqueue, htask, hevents, hclock⟩ := heq
  refine ⟨s, Run.of_foldlM (fun _ _ _ h => h) hs, ⟨?_, ?_, ?_, ?_⟩, fun hnone => ?_⟩
  · rw [hqueue]
    exact fun _ hmsg => by cases hmsg
  · rw [htask]
    exact id
  · rw [hevents]
    exact List.not_mem_nil
  · rw [hcontainer, hclock]
    rintro ⟨-, t, ht, hle⟩
    cases ht
    revert hle
    decide
  · have hdisarmed := hnone.2 .sw
    rw [hcontainer] at hdisarmed
    exact absurd (hdisarmed rfl) (by decide)

end Sys

end LibraDevice.Timers
