import LibraDevice.Timers.LocTimer
import Mathlib.Data.List.Nodup
import Mathlib.Data.List.Perm.Basic
import Mathlib.Data.Nat.Basic

/-!
How timers end. Only the client's handle is cleared under the lock, and whoever
clears it posts the remove message, which alone deletes the delegate.
-/

namespace LibraDevice.Timers

open LibraDevice.StepRun

universe u

variable {ι : Type u}

/-- The service with its past: the delegates constructed, in order, those for
which a call of `stop` returned true, and those deleted. -/
structure Hist (ι : Type u) where
  sys : Sys ι
  started : List Timer
  stops : List Nat
  deleted : List Nat

namespace Sys

def heaps (s : Sys ι) (k : Kind) : LocHeap Timer :=
  (s.container k).heap

/-- The delegate that a start constructs. -/
def startedBy (s : Sys ι) : Act ι → List Timer
  | .start client timeOutInMs wakeOnExpire read =>
      match s.mTimer client with
      | some _ => []
      | none => [⟨s.nextId, if wakeOnExpire then .hw else .sw, futureTime read timeOutInMs⟩]
  | _ => []

/-- The delegate for which the client's `stop` returns true. -/
def stoppedBy (s : Sys ι) : Act ι → List Nat
  | .stop client => (s.mTimer client).toList.map Timer.id
  | _ => []

/-- The delegate that the message deletes. -/
def deletedBy (s : Sys ι) : Act ι → List Nat
  | .receive =>
      match s.task, s.queue with
      | .idle, .remove timer :: _ => [timer.id]
      | _, _ => []
  | _ => []

/-- A message, a heap or the expiry in hand refers to the delegate. -/
def Refers (s : Sys ι) (id : Nat) : Prop :=
  (∃ t, t.id = id ∧ (.push t ∈ s.queue ∨ .remove t ∈ s.queue)) ∨
    (∃ k, ∃ t ∈ (s.heaps k).toList, t.id = id) ∨
    ∃ k now t, s.task = .expiring k now t ∧ t.id = id

end Sys

namespace Hist

def init (ι : Type u) (clock : Clock) : Hist ι where
  sys := Sys.init ι clock
  started := []
  stops := []
  deleted := []

def Step [DecidableEq ι] (h : Hist ι) (a : Act ι) (h' : Hist ι) : Prop :=
  h.sys.step a = some h'.sys ∧
    h'.started = h.started ++ h.sys.startedBy a ∧
    h'.stops = h.stops ++ h.sys.stoppedBy a ∧
    h'.deleted = h.deleted ++ h.sys.deletedBy a

/-- The delegates that a callback has been called for. -/
def calledBack (h : Hist ι) : List Nat :=
  h.sys.callbacks.map fun c => c.stopped.id

/-- Each delegate that was started ends by at most one callback or one call of
`stop`, and is deleted at most once; nothing refers to it afterwards. -/
structure EndsOnce (h : Hist ι) : Prop where
  started : ∀ id ∈ h.stops ++ h.calledBack ++ h.deleted, id < h.started.length
  once : (h.stops ++ h.calledBack).Nodup
  deleted : h.deleted.Nodup
  gone : ∀ id ∈ h.deleted, ¬ h.sys.Refers id ∧ ∀ client, ∀ t ∈ h.sys.mTimer client, t.id ≠ id

end Hist

/-- The timer whose callback is to be called next. -/
def Task.called : Task ι → List Nat
  | .calling _ _ _ stopped => [stopped.id]
  | _ => []

/-- The delegates that have ended. -/
def Hist.ended (h : Hist ι) : List Nat :=
  h.stops ++ h.calledBack ++ h.sys.task.called

/-- A client has a delegate that has not ended, and that knows its client. -/
structure Ownership (started : List Timer) (mTimer : ι → Option Timer) (mClient : Nat → Option ι)
    (ended : List Nat) : Prop where
  known : ∀ c t, mTimer c = some t → started[t.id]? = some t
  owner : ∀ c t, mTimer c = some t → mClient t.id = some c
  live : ∀ c t, mTimer c = some t → t.id ∉ ended
  ended_known : ∀ id ∈ ended, id < started.length

variable {started : List Timer} {mTimer : ι → Option Timer} {mClient : Nat → Option ι}
  {ended ended' deleted : List Nat}

theorem getElem?_concat_of_some {t u : Timer} {id : Nat} (h : started[id]? = some t) :
    (started ++ [u])[id]? = some t := by
  obtain ⟨hlt, -⟩ := List.getElem?_eq_some_iff.mp h
  rw [List.getElem?_append_left hlt, h]

theorem Ownership.start [DecidableEq ι] (h : Ownership started mTimer mClient ended) {c : ι}
    {t : Timer} (hid : t.id = started.length) :
    Ownership (started ++ [t]) (Function.update mTimer c (some t))
      (Function.update mClient t.id (some c)) ended where
  known := by
    intro c' t' ht
    rcases eq_or_ne c' c with rfl | hne
    · rw [Function.update_self] at ht
      cases ht
      rw [hid, List.getElem?_concat_length]
    · rw [Function.update_of_ne hne] at ht
      exact getElem?_concat_of_some (h.known c' t' ht)
  owner := by
    intro c' t' ht
    rcases eq_or_ne c' c with rfl | hne
    · rw [Function.update_self] at ht
      cases ht
      rw [Function.update_self]
    · rw [Function.update_of_ne hne] at ht
      have hlt := (List.getElem?_eq_some_iff.mp (h.known c' t' ht)).1
      rw [Function.update_of_ne (by omega)]
      exact h.owner c' t' ht
  live := by
    intro c' t' ht
    rcases eq_or_ne c' c with rfl | hne
    · rw [Function.update_self] at ht
      cases ht
      intro hmem
      have hlt := h.ended_known _ hmem
      omega
    · rw [Function.update_of_ne hne] at ht
      exact h.live c' t' ht
  ended_known := by
    intro id hid'
    rw [List.length_append]
    exact Nat.lt_add_right _ (h.ended_known id hid')

theorem Ownership.stop [DecidableEq ι] (h : Ownership started mTimer mClient ended) {c : ι}
    {t : Timer} (ht : mTimer c = some t) (hended : ended'.Perm (t.id :: ended)) :
    Ownership started (Function.update mTimer c none) (Function.update mClient t.id none)
      ended' where
  known := by
    intro c' t' ht'
    rcases eq_or_ne c' c with rfl | hne
    · rw [Function.update_self] at ht'
      cases ht'
    · rw [Function.update_of_ne hne] at ht'
      exact h.known c' t' ht'
  owner := by
    intro c' t' ht'
    rcases eq_or_ne c' c with rfl | hne
    · rw [Function.update_self] at ht'
      cases ht'
    · rw [Function.update_of_ne hne] at ht'
      have howner := h.owner c' t' ht'
      rw [Function.update_of_ne, howner]
      intro hid
      rw [hid, h.owner c t ht] at howner
      exact hne (Option.some.inj howner).symm
  live := by
    intro c' t' ht' hmem
    rcases eq_or_ne c' c with rfl | hne
    · rw [Function.update_self] at ht'
      cases ht'
    · rw [Function.update_of_ne hne] at ht'
      rcases List.mem_cons.mp (hended.subset hmem) with hid | hmem
      · have howner := h.owner c' t' ht'
        rw [hid, h.owner c t ht] at howner
        exact hne (Option.some.inj howner).symm
      · exact h.live c' t' ht' hmem
  ended_known := by
    intro id hmem
    rcases List.mem_cons.mp (hended.subset hmem) with rfl | hmem
    · exact (List.getElem?_eq_some_iff.mp (h.known c t ht)).1
    · exact h.ended_known id hmem

namespace Msg

def pushed : Msg → Option Timer
  | .push t => some t
  | _ => none

def removed : Msg → Option Timer
  | .remove t => some t
  | _ => none

/-- A delegate is not pushed behind its removal. -/
def Before (m m' : Msg) : Prop :=
  ∀ r ∈ m.removed, ∀ t ∈ m'.pushed, r.id ≠ t.id

end Msg

/-- The timers that are to be pushed, or are in a heap. -/
def held (queue : List Msg) (heaps : Kind → LocHeap Timer) : List Timer :=
  queue.filterMap Msg.pushed ++ ((heaps .sw).toList ++ (heaps .hw).toList)

/-- The timers held are alive, and in one place; the ones that have ended are to
be removed, or deleted. -/
structure Messages (started : List Timer) (queue : List Msg) (heaps : Kind → LocHeap Timer)
    (ended deleted : List Nat) : Prop where
  known : ∀ t ∈ held queue heaps, started[t.id]? = some t
  nodup : (held queue heaps).Nodup
  alive : ∀ t ∈ held queue heaps, t.id ∉ deleted
  place : ∀ k, ∀ t ∈ (heaps k).toList, t.mContainer = k
  ordered : ∀ k, (heaps k).Ordered Timer.nanos
  removed_known : ∀ t ∈ queue.filterMap Msg.removed, started[t.id]? = some t
  order : queue.Pairwise Msg.Before
  ended_perm : ended.Perm ((queue.filterMap Msg.removed).map Timer.id ++ deleted)
  ended_nodup : ended.Nodup

variable {queue : List Msg} {heaps : Kind → LocHeap Timer}

theorem mem_held {t : Timer} :
    t ∈ held queue heaps ↔ .push t ∈ queue ∨ ∃ k, t ∈ (heaps k).toList := by
  rw [held, List.mem_append, List.mem_append, List.mem_filterMap]
  constructor
  · rintro (⟨m, hm, hpush⟩ | hsw | hhw)
    · cases m with
      | push u =>
          cases hpush
          exact Or.inl hm
      | remove u => cases hpush
      | expire k => cases hpush
    · exact Or.inr ⟨.sw, hsw⟩
    · exact Or.inr ⟨.hw, hhw⟩
  · rintro (hm | ⟨k, hk⟩)
    · exact Or.inl ⟨_, hm, rfl⟩
    · cases k with
      | sw => exact Or.inr (Or.inl hk)
      | hw => exact Or.inr (Or.inr hk)

theorem held_concat (m : Msg) :
    (held (queue ++ [m]) heaps).Perm (m.pushed.toList ++ held queue heaps) := by
  have hone : [m].filterMap Msg.pushed = m.pushed.toList := by
    cases m <;> rfl
  rw [held, held, List.filterMap_append, hone, List.append_assoc]
  exact List.perm_append_comm_assoc _ _ _

theorem held_cons (m : Msg) : held (m :: queue) heaps = m.pushed.toList ++ held queue heaps := by
  cases m <;> rfl

theorem held_heap (heaps heaps' : Kind → LocHeap Timer) (extra : List Timer) {k : Kind}
    (hk : (heaps' k).toList.Perm (extra ++ (heaps k).toList))
    (hne : ∀ j, j ≠ k → heaps' j = heaps j) :
    (held queue heaps').Perm (extra ++ held queue heaps) := by
  have hboth : ((heaps' .sw).toList ++ (heaps' .hw).toList).Perm
      (extra ++ ((heaps .sw).toList ++ (heaps .hw).toList)) := by
    cases k with
    | sw =>
        rw [hne .hw (by decide), ← List.append_assoc]
        exact hk.append_right _
    | hw =>
        rw [hne .sw (by decide)]
        exact (hk.append_left _).trans (List.perm_append_comm_assoc _ _ _)
  exact (hboth.append_left _).trans (List.perm_append_comm_assoc _ _ _)

theorem Messages.expire (h : Messages started queue heaps ended deleted) (k : Kind) :
    Messages started (queue ++ [.expire k]) heaps ended deleted := by
  have hheld : (held (queue ++ [.expire k]) heaps).Perm (held queue heaps) := held_concat _
  have hremoved : (queue ++ [Msg.expire k]).filterMap Msg.removed =
      queue.filterMap Msg.removed := by
    rw [List.filterMap_append]
    exact List.append_nil _
  refine ⟨fun t ht => h.known t (hheld.subset ht), hheld.nodup_iff.mpr h.nodup,
    fun t ht => h.alive t (hheld.subset ht), h.place, h.ordered, ?_, ?_, ?_, h.ended_nodup⟩
  · rw [hremoved]
    exact h.removed_known
  · refine List.pairwise_append.mpr ⟨h.order, List.pairwise_singleton _ _, ?_⟩
    intro m _ m' hm' r _ t ht
    rw [List.mem_singleton.mp hm'] at ht
    cases ht
  · rw [hremoved]
    exact h.ended_perm

theorem Messages.deleted_ended (h : Messages started queue heaps ended deleted) :
    ∀ id ∈ deleted, id ∈ ended :=
  fun _ hid => h.ended_perm.symm.subset (List.mem_append_right _ hid)

theorem Messages.start (h : Messages started queue heaps ended deleted) {t : Timer}
    (hid : t.id = started.length) (hended : ∀ id ∈ ended, id < started.length) :
    Messages (started ++ [t]) (queue ++ [.push t]) heaps ended deleted := by
  have hheld : (held (queue ++ [.push t]) heaps).Perm (t :: held queue heaps) := held_concat _
  have hremoved : (queue ++ [Msg.push t]).filterMap Msg.removed = queue.filterMap Msg.removed := by
    rw [List.filterMap_append]
    exact List.append_nil _
  refine ⟨?_, ?_, ?_, h.place, h.ordered, ?_, ?_, ?_, h.ended_nodup⟩
  · intro u hu
    rcases List.mem_cons.mp (hheld.subset hu) with rfl | hu
    · rw [hid, List.getElem?_concat_length]
    · exact getElem?_concat_of_some (h.known u hu)
  · rw [hheld.nodup_iff, List.nodup_cons]
    refine ⟨fun hmem => ?_, h.nodup⟩
    have hlt := (List.getElem?_eq_some_iff.mp (h.known t hmem)).1
    omega
  · intro u hu hdeleted
    rcases List.mem_cons.mp (hheld.subset hu) with rfl | hu
    · have hlt := hended _ (h.deleted_ended _ hdeleted)
      omega
    · exact h.alive u hu hdeleted
  · rw [hremoved]
    exact fun u hu => getElem?_concat_of_some (h.removed_known u hu)
  · refine List.pairwise_append.mpr ⟨h.order, List.pairwise_singleton _ _, ?_⟩
    intro m hm m' hm' r hr u hu
    rw [List.mem_singleton.mp hm'] at hu
    cases hu
    have hlt := (List.getElem?_eq_some_iff.mp
      (h.removed_known r (List.mem_filterMap.mpr ⟨m, hm, hr⟩))).1
    omega
  · rw [hremoved]
    exact h.ended_perm

theorem Messages.stop (h : Messages started queue heaps ended deleted) {t : Timer}
    (ht : started[t.id]? = some t) (hlive : t.id ∉ ended) (hended : ended'.Perm (t.id :: ended)) :
    Messages started (queue ++ [.remove t]) heaps ended' deleted := by
  have hheld : (held (queue ++ [.remove t]) heaps).Perm (held queue heaps) := held_concat _
  have hremoved : (queue ++ [Msg.remove t]).filterMap Msg.removed =
      queue.filterMap Msg.removed ++ [t] := List.filterMap_append ..
  refine ⟨fun u hu => h.known u (hheld.subset hu), hheld.nodup_iff.mpr h.nodup,
    fun u hu => h.alive u (hheld.subset hu), h.place, h.ordered, ?_, ?_, ?_, ?_⟩
  · rw [hremoved]
    intro u hu
    rcases List.mem_append.mp hu with hu | hu
    · exact h.removed_known u hu
    · rw [List.mem_singleton.mp hu]
      exact ht
  · refine List.pairwise_append.mpr ⟨h.order, List.pairwise_singleton _ _, ?_⟩
    intro m _ m' hm' r _ u hu
    rw [List.mem_singleton.mp hm'] at hu
    cases hu
  · rw [hremoved, List.map_append, List.append_assoc]
    refine hended.trans (((List.perm_cons _).mpr h.ended_perm).trans ?_)
    exact List.perm_middle.symm
  · rw [hended.nodup_iff, List.nodup_cons]
    exact ⟨hlive, h.ended_nodup⟩

theorem Messages.receive_push {t : Timer}
    (h : Messages started (.push t :: queue) heaps ended deleted) :
    Messages started queue
      (Function.update heaps t.mContainer ((heaps t.mContainer).push Timer.outRanks t))
      ended deleted := by
  have hheld : (held queue (Function.update heaps t.mContainer
      ((heaps t.mContainer).push Timer.outRanks t))).Perm (held (.push t :: queue) heaps) := by
    rw [held_cons]
    refine held_heap heaps _ [t] (k := t.mContainer) ?_ fun j hj => Function.update_of_ne hj _ _
    rw [Function.update_self]
    exact LocHeap.push_perm t _
  refine ⟨fun u hu => h.known u (hheld.subset hu), hheld.nodup_iff.mpr h.nodup,
    fun u hu => h.alive u (hheld.subset hu), ?_, ?_, h.removed_known, h.order.of_cons,
    h.ended_perm, h.ended_nodup⟩
  · intro k u hu
    rcases eq_or_ne k t.mContainer with rfl | hne
    · rw [Function.update_self] at hu
      rcases List.mem_cons.mp ((LocHeap.push_perm t _).subset hu) with rfl | hu
      · rfl
      · exact h.place _ u hu
    · rw [Function.update_of_ne hne] at hu
      exact h.place k u hu
  · intro k
    rcases eq_or_ne k t.mContainer with rfl | hne
    · rw [Function.update_self]
      exact (h.ordered _).push Timer.outRanks_iff t
    · rw [Function.update_of_ne hne]
      exact h.ordered k

theorem Messages.receive_expire {k : Kind}
    (h : Messages started (.expire k :: queue) heaps ended deleted) :
    Messages started queue heaps ended deleted :=
  ⟨h.known, h.nodup, h.alive, h.place, h.ordered, h.removed_known, h.order.of_cons,
    h.ended_perm, h.ended_nodup⟩

theorem Messages.shrink (h : Messages started queue heaps ended deleted) {k : Kind} {t : Timer}
    {heap : LocHeap Timer} (hperm : (heaps k).toList.Perm (t :: heap.toList))
    (hordered : heap.Ordered Timer.nanos) :
    Messages started queue (Function.update heaps k heap) ended deleted ∧
      t ∈ held queue heaps ∧ t ∉ held queue (Function.update heaps k heap) := by
  have hheld : (held queue heaps).Perm (t :: held queue (Function.update heaps k heap)) := by
    refine held_heap (Function.update heaps k heap) heaps [t] (k := k) ?_ fun j hj =>
      (Function.update_of_ne hj _ _).symm
    rw [Function.update_self]
    exact hperm
  have hsub : ∀ u ∈ held queue (Function.update heaps k heap), u ∈ held queue heaps :=
    fun u hu => hheld.symm.subset (List.mem_cons_of_mem t hu)
  have hnodup := List.nodup_cons.mp (hheld.nodup_iff.mp h.nodup)
  refine ⟨⟨fun u hu => h.known u (hsub u hu), hnodup.2, fun u hu => h.alive u (hsub u hu), ?_, ?_,
    h.removed_known, h.order, h.ended_perm, h.ended_nodup⟩,
    hheld.symm.subset List.mem_cons_self, hnodup.1⟩
  · intro k' u hu
    rcases eq_or_ne k' k with rfl | hne
    · rw [Function.update_self] at hu
      exact h.place k' u (hperm.symm.subset (List.mem_cons_of_mem t hu))
    · rw [Function.update_of_ne hne] at hu
      exact h.place k' u hu
  · intro k'
    rcases eq_or_ne k' k with rfl | hne
    · rw [Function.update_self]
      exact hordered
    · rw [Function.update_of_ne hne]
      exact h.ordered k'

/-- The message deletes a delegate that is in no heap any more, and that no
message behind it pushes. -/
theorem Messages.delete {t : Timer} (h : Messages started (.remove t :: queue) heaps ended deleted)
    (hgone : ∀ k, t ∉ (heaps k).toList) :
    Messages started queue heaps ended (deleted ++ [t.id]) := by
  have ht : started[t.id]? = some t := h.removed_known t List.mem_cons_self
  refine ⟨h.known, h.nodup, ?_, h.place, h.ordered, ?_, h.order.of_cons, ?_, h.ended_nodup⟩
  · intro u hu hdeleted
    rcases List.mem_append.mp hdeleted with hdeleted | hid
    · exact h.alive u hu hdeleted
    · have hid' : u.id = t.id := List.mem_singleton.mp hid
      have hsame : u = t := by
        have hu' := h.known u hu
        rw [hid', ht] at hu'
        exact (Option.some.inj hu').symm
      subst hsame
      rcases mem_held.mp hu with hpush | ⟨k, hk⟩
      · exact (List.pairwise_cons.mp h.order).1 _ hpush u rfl u rfl rfl
      · exact hgone k hk
  · exact fun u hu => h.removed_known u (List.mem_cons_of_mem t hu)
  · refine h.ended_perm.trans ?_
    change (t.id :: ((queue.filterMap Msg.removed).map Timer.id ++ deleted)).Perm _
    rw [← List.append_assoc]
    exact (List.perm_append_singleton _ _).symm

theorem Messages.receive_remove {t : Timer}
    (h : Messages started (.remove t :: queue) heaps ended deleted) :
    (∀ heap, (heaps t.mContainer).remove Timer.outRanks t = some heap →
      Messages started queue (Function.update heaps t.mContainer heap) ended
        (deleted ++ [t.id])) ∧
    ((heaps t.mContainer).remove Timer.outRanks t = none →
      Messages started queue heaps ended (deleted ++ [t.id])) := by
  constructor
  · intro heap hremove
    obtain ⟨hshrink, -, hnot⟩ := h.shrink (LocHeap.remove_perm hremove)
      ((h.ordered _).remove Timer.outRanks_iff hremove)
    refine hshrink.delete fun k hk => hnot (mem_held.mpr (Or.inr ⟨k, hk⟩))
  · intro hremove
    refine h.delete fun k hk => ?_
    have hplace := h.place k t hk
    subst hplace
    have hsome := (h.ordered _).remove_isSome Timer.outRanks_iff hk
    rw [hremove] at hsome
    cases hsome

/-- The clients and the messages, whatever the MsgTask has in hand. -/
structure Core (s : Sys ι) (started : List Timer) (ended deleted : List Nat) : Prop where
  messages : Messages started s.queue s.heaps ended deleted
  ownership : Ownership started s.mTimer s.mClient ended
  nextId : s.nextId = started.length

/-- The timer whose expiry is in hand has not been deleted. -/
def Task.Alive (deleted : List Nat) (task : Task ι) : Prop :=
  ∀ k now t, task = .expiring k now t → t.id ∉ deleted

variable {s : Sys ι}

theorem Core.perm (h : Core s started ended deleted) (hperm : ended'.Perm ended) :
    Core s started ended' deleted := by
  obtain ⟨⟨h1, h2, h3, h4, h5, h6, h7, h8, h9⟩, ⟨g1, g2, g3, g4⟩, hid⟩ := h
  exact ⟨⟨h1, h2, h3, h4, h5, h6, h7, hperm.trans h8, hperm.nodup_iff.mpr h9⟩,
    ⟨g1, g2, fun c t ht hmem => g3 c t ht (hperm.subset hmem),
      fun id hmem => g4 id (hperm.subset hmem)⟩, hid⟩

theorem heaps_setContainer (k : Kind) (c : Container) :
    (s.setContainer k c).heaps = Function.update s.heaps k c.heap := by
  funext j
  rcases eq_or_ne j k with rfl | hne
  · rw [Function.update_self]
    exact congrArg Container.heap (Sys.setContainer_same s j c)
  · rw [Function.update_of_ne hne]
    exact congrArg Container.heap (Sys.setContainer_ne s c hne)

theorem Core.setContainer (h : Core s started ended deleted) {k : Kind} {c : Container}
    (hheap : c.heap = s.heaps k) : Core (s.setContainer k c) started ended deleted := by
  refine ⟨?_, h.ownership, h.nextId⟩
  rw [heaps_setContainer, hheap, Function.update_eq_self]
  exact h.messages

theorem Core.update (h : Core s started ended deleted) (k : Kind) (todo : List Syscall) :
    Core (s.update k todo) started ended deleted ∧ (s.update k todo).task.Alive deleted ∧
      (s.update k todo).task.called = [] ∧ (s.update k todo).callbacks = s.callbacks := by
  refine ⟨⟨h.messages, h.ownership, h.nextId⟩, ?_, ?_, rfl⟩
  · intro _ _ _ htask
    simp only [Sys.update] at htask
    split at htask <;> cases htask
  · simp only [Sys.update]
    split <;> rfl

theorem Core.popNext (h : Core s started ended deleted) (k : Kind) (now : Clock) :
    Core (s.popNext k now) started ended deleted ∧ (s.popNext k now).task.Alive deleted ∧
      (s.popNext k now).task.called = [] ∧ (s.popNext k now).callbacks = s.callbacks := by
  rcases s.popNext_eq k now with ⟨t, hpeek, -, heq⟩ | heq
  · obtain ⟨hshrink, hheld, -⟩ := h.messages.shrink (LocHeap.dropTop_perm hpeek)
      ((h.messages.ordered k).dropTop Timer.outRanks_iff)
    rw [heq]
    refine ⟨⟨?_, h.ownership, h.nextId⟩, ?_, rfl, rfl⟩
    · change Messages started s.queue (s.setContainer k _).heaps ended deleted
      rw [heaps_setContainer]
      exact hshrink
    · intro _ _ _ htask
      cases htask
      exact h.messages.alive t hheld
  · rw [heq]
    exact h.update k _

theorem Core.proc {msg : Msg} (hqueue : s.queue = msg :: queue)
    (h : Core s started ended deleted) {deleted' : List Nat}
    (hdeleted : deleted' = deleted ++ msg.removed.toList.map Timer.id) :
    Core (Sys.proc { s with queue := queue } msg) started ended deleted' ∧
      (Sys.proc { s with queue := queue } msg).task.Alive deleted' ∧
      (Sys.proc { s with queue := queue } msg).task.called = [] ∧
      (Sys.proc { s with queue := queue } msg).callbacks = s.callbacks := by
  subst hdeleted
  obtain ⟨hmessages, hownership, hid⟩ := h
  rw [hqueue] at hmessages
  cases msg with
  | push t =>
      change Messages started (.push t :: queue) s.heaps ended deleted at hmessages
      simp only [Msg.removed, Option.toList_none, List.map_nil, List.append_nil, Sys.proc]
      apply Core.update
      refine ⟨?_, hownership, hid⟩
      rw [heaps_setContainer]
      exact hmessages.receive_push
  | remove t =>
      obtain ⟨hfound, hnot⟩ := hmessages.receive_remove
      simp only [Sys.proc]
      split
      · next heap hremove =>
          apply Core.update
          refine ⟨?_, hownership, hid⟩
          rw [heaps_setContainer]
          exact hfound heap hremove
      · next hremove =>
          apply Core.update
          exact ⟨hnot hremove, hownership, hid⟩
  | expire k =>
      simp only [Msg.removed, Option.toList_none, List.map_nil, List.append_nil, Sys.proc]
      have hmessages' := hmessages.receive_expire
      split
      · next t heap hpop =>
          obtain ⟨_, hpeek, heq⟩ := Option.map_eq_some_iff.mp hpop
          cases heq
          obtain ⟨hshrink, hheld, -⟩ := hmessages'.shrink (LocHeap.dropTop_perm hpeek)
            ((hmessages'.ordered k).dropTop Timer.outRanks_iff)
          refine ⟨⟨?_, hownership, hid⟩, ?_, rfl, rfl⟩
          · change Messages started queue (Sys.heaps (Sys.setContainer _ k _)) ended deleted
            rw [heaps_setContainer]
            exact hshrink
          · intro _ _ _ htask
            cases htask
            exact hmessages'.alive t hheld
      · apply Core.update
        exact ⟨hmessages', hownership, hid⟩

theorem Core.stopTimer [DecidableEq ι] (h : Core s started ended deleted) {c : ι} {t : Timer}
    (ht : s.mTimer c = some t) (hended : ended'.Perm (t.id :: ended)) :
    Core (s.stopTimer c t) started ended' deleted :=
  ⟨h.messages.stop (h.ownership.known c t ht) (h.ownership.live c t ht) hended,
    h.ownership.stop ht hended, h.nextId⟩

namespace Hist

structure Sound (h : Hist ι) : Prop where
  core : Core h.sys h.started h.ended h.deleted
  task : h.sys.task.Alive h.deleted

variable {h h' : Hist ι}

theorem Sound.init (clock : Clock) : (Hist.init ι clock).Sound where
  core :=
    { messages :=
        { known := fun _ ht => by cases ht
          nodup := List.nodup_nil
          alive := fun _ ht => by cases ht
          place := fun _ _ ht => by cases ht
          ordered := fun _ => trivial
          removed_known := fun _ ht => by cases ht
          order := List.Pairwise.nil
          ended_perm := List.Perm.nil
          ended_nodup := List.nodup_nil }
      ownership :=
        { known := fun _ _ ht => by cases ht
          owner := fun _ _ ht => by cases ht
          live := fun _ _ ht => by cases ht
          ended_known := fun _ ht => by cases ht }
      nextId := rfl }
  task := fun _ _ _ htask => by cases htask

theorem Sound.frame (hs : h.Sound) {s : Sys ι} (hcore : Core s h.started h.ended h.deleted)
    (htask : s.task = h.sys.task) (hcallbacks : s.callbacks = h.sys.callbacks) :
    Sound ⟨s, h.started, h.stops, h.deleted⟩ where
  core := by
    rw [ended, calledBack, htask, hcallbacks]
    exact hcore
  task := by
    change s.task.Alive h.deleted
    rw [htask]
    exact hs.task

theorem Sound.msgTask {s : Sys ι} {deleted' : List Nat}
    (hcore : Core s h.started h.ended deleted' ∧ s.task.Alive deleted' ∧ s.task.called = [] ∧
      s.callbacks.map (fun c => c.stopped.id) = h.calledBack ++ h.sys.task.called) :
    Sound ⟨s, h.started, h.stops, deleted'⟩ := by
  obtain ⟨hcore, htask, hcalled, hcallbacks⟩ := hcore
  refine ⟨?_, htask⟩
  rw [ended, calledBack, hcallbacks, hcalled, List.append_nil, ← List.append_assoc]
  exact hcore

theorem Sound.endsOnce (hs : h.Sound) : h.EndsOnce := by
  obtain ⟨⟨hmessages, hownership, hid⟩, htask⟩ := hs
  have hended := hmessages.ended_nodup
  have hperm := hmessages.ended_perm
  have hdeleted := hperm.nodup_iff.mp hended
  refine ⟨?_, List.Nodup.of_append_left hended, List.Nodup.of_append_right hdeleted, ?_⟩
  · intro id hmem
    apply hownership.ended_known
    rcases List.mem_append.mp hmem with hmem | hmem
    · exact List.mem_append_left _ hmem
    · exact hmessages.deleted_ended id hmem
  · intro id hmem
    refine ⟨?_, ?_⟩
    · rintro (⟨t, rfl, hpush | hremove⟩ | ⟨k, t, ht, rfl⟩ | ⟨k, now, t, hexpiring, rfl⟩)
      · exact hmessages.alive t (mem_held.mpr (Or.inl hpush)) hmem
      · have hremoved : t.id ∈ (h.sys.queue.filterMap Msg.removed).map Timer.id :=
          List.mem_map_of_mem (List.mem_filterMap.mpr ⟨_, hremove, rfl⟩)
        exact (List.disjoint_of_nodup_append hdeleted) hremoved hmem
      · exact hmessages.alive t (mem_held.mpr (Or.inr ⟨k, ht⟩)) hmem
      · exact htask k now t hexpiring hmem
    · rintro client t ht rfl
      exact hownership.live client t ht (hmessages.deleted_ended _ hmem)

/-- The past after a step to `s'`. -/
def after (h : Hist ι) (a : Act ι) (s' : Sys ι) : Hist ι where
  sys := s'
  started := h.started ++ h.sys.startedBy a
  stops := h.stops ++ h.sys.stoppedBy a
  deleted := h.deleted ++ h.sys.deletedBy a

variable {s' : Sys ι}

theorem Sound.start [DecidableEq ι] (hs : h.Sound) {client : ι} {timeOutInMs : BitVec 32}
    {wakeOnExpire : Bool} {read : Clock}
    (hsys : h.sys.step (.start client timeOutInMs wakeOnExpire read) = some s') :
    (h.after (.start client timeOutInMs wakeOnExpire read) s').Sound := by
  rw [Sys.step, Option.ite_none_right_eq_some] at hsys
  obtain ⟨-, heq⟩ := hsys
  simp only [after, Sys.startedBy, Sys.stoppedBy, Sys.deletedBy, List.append_nil]
  cases htimer : h.sys.mTimer client with
  | some timer =>
      rw [htimer] at heq
      cases heq
      simp only [List.append_nil]
      exact hs.frame ⟨hs.core.messages, hs.core.ownership, hs.core.nextId⟩ rfl rfl
  | none =>
      rw [htimer] at heq
      cases heq
      refine ⟨⟨?_, ?_, ?_⟩, hs.task⟩
      · exact hs.core.messages.start hs.core.nextId hs.core.ownership.ended_known
      · exact hs.core.ownership.start hs.core.nextId
      · change h.sys.nextId + 1 = _
        rw [hs.core.nextId, List.length_append]
        rfl

theorem Sound.stop [DecidableEq ι] (hs : h.Sound) {client : ι}
    (hsys : h.sys.step (.stop client) = some s') : (h.after (.stop client) s').Sound := by
  simp only [Sys.step] at hsys
  simp only [after, Sys.startedBy, Sys.stoppedBy, Sys.deletedBy, List.append_nil]
  split at hsys
  · next hnone =>
      cases hsys
      rw [hnone]
      simp only [Option.toList_none, List.map_nil, List.append_nil]
      exact hs
  · next t hsome =>
      cases hsys
      rw [hsome]
      have hended : ((h.stops ++ [t.id]) ++ h.calledBack ++ h.sys.task.called).Perm
          (t.id :: h.ended) := by
        rw [ended, List.append_assoc, List.append_assoc, List.append_assoc]
        exact List.perm_middle
      exact ⟨hs.core.stopTimer hsome hended, hs.task⟩

theorem Sound.receive [DecidableEq ι] (hs : h.Sound)
    (hsys : h.sys.step .receive = some s') : (h.after .receive s').Sound := by
  simp only [Sys.step] at hsys
  simp only [after, Sys.startedBy, Sys.stoppedBy, List.append_nil]
  split at hsys
  · next msg queue hidle hqueue =>
      cases hsys
      apply Sound.msgTask
      have hproc := hs.core.proc hqueue (rfl : _ = h.deleted ++ msg.removed.toList.map Timer.id)
      have hdeleted : h.sys.deletedBy .receive = msg.removed.toList.map Timer.id := by
        rw [Sys.deletedBy, hidle, hqueue]
        cases msg <;> rfl
      rw [hdeleted]
      refine ⟨hproc.1, hproc.2.1, hproc.2.2.1, ?_⟩
      rw [hproc.2.2.2, hidle]
      exact (List.append_nil _).symm
  · cases hsys

theorem Sound.syscall [DecidableEq ι] (hs : h.Sound)
    (hsys : h.sys.step .syscall = some s') : (h.after .syscall s').Sound := by
  simp only [Sys.step] at hsys
  simp only [after, Sys.startedBy, Sys.stoppedBy, Sys.deletedBy, List.append_nil]
  split at hsys
  · next k call todo htask =>
      cases hsys
      apply Sound.msgTask
      have hcore := hs.core.setContainer (Container.heap_syscall (h.sys.container k) call)
      have hupdate := hcore.update k todo
      refine ⟨hupdate.1, hupdate.2.1, hupdate.2.2.1, ?_⟩
      rw [hupdate.2.2.2, htask]
      exact (List.append_nil _).symm
  · cases hsys

theorem Sound.readClient [DecidableEq ι] (hs : h.Sound)
    (hsys : h.sys.step .readClient = some s') : (h.after .readClient s').Sound := by
  simp only [Sys.step] at hsys
  simp only [after, Sys.startedBy, Sys.stoppedBy, Sys.deletedBy, List.append_nil]
  split at hsys
  · next k now t htask =>
      apply Sound.msgTask
      split at hsys
      · cases hsys
        have hpop := hs.core.popNext k now
        refine ⟨hpop.1, hpop.2.1, hpop.2.2.1, ?_⟩
        rw [hpop.2.2.2, htask]
        exact (List.append_nil _).symm
      · cases hsys
        refine ⟨⟨hs.core.messages, hs.core.ownership, hs.core.nextId⟩, ?_, rfl, ?_⟩
        · intro _ _ _ heq
          cases heq
        · rw [htask]
          exact (List.append_nil _).symm
  · cases hsys

theorem Sound.stopClient [DecidableEq ι] (hs : h.Sound)
    (hsys : h.sys.step .stopClient = some s') : (h.after .stopClient s').Sound := by
  simp only [Sys.step] at hsys
  simp only [after, Sys.startedBy, Sys.stoppedBy, Sys.deletedBy, List.append_nil]
  split at hsys
  · next k now t client htask =>
      split at hsys
      · cases hsys
        apply Sound.msgTask
        have hpop := hs.core.popNext k now
        refine ⟨hpop.1, hpop.2.1, hpop.2.2.1, ?_⟩
        rw [hpop.2.2.2, htask]
        exact (List.append_nil _).symm
      · next stopped hsome =>
          cases hsys
          have hended : (h.stops ++ h.calledBack ++ [stopped.id]).Perm
              (stopped.id :: h.ended) := by
            rw [ended, htask]
            exact (List.perm_append_singleton _ _).trans
              (List.Perm.of_eq (congrArg (stopped.id :: ·) (List.append_nil _).symm))
          have hcore := hs.core.stopTimer hsome hended
          refine ⟨⟨hcore.messages, hcore.ownership, hcore.nextId⟩, ?_⟩
          intro _ _ _ heq
          cases heq
  · cases hsys

theorem Sound.callback [DecidableEq ι] (hs : h.Sound)
    (hsys : h.sys.step .callback = some s') : (h.after .callback s').Sound := by
  simp only [Sys.step] at hsys
  simp only [after, Sys.startedBy, Sys.stoppedBy, Sys.deletedBy, List.append_nil]
  split at hsys
  · next k now client stopped htask =>
      cases hsys
      apply Sound.msgTask
      have hcore : Core { h.sys with
          callbacks := h.sys.callbacks ++ [⟨client, stopped, h.sys.clock⟩] }
          h.started h.ended h.deleted :=
        ⟨hs.core.messages, hs.core.ownership, hs.core.nextId⟩
      have hpop := hcore.popNext k now
      refine ⟨hpop.1, hpop.2.1, hpop.2.2.1, ?_⟩
      rw [hpop.2.2.2, htask, List.map_append]
      rfl
  · cases hsys

theorem Sound.step [DecidableEq ι] (hs : h.Sound) {a : Act ι} (hstep : h.Step a h') :
    h'.Sound := by
  obtain ⟨sys', started', stops', deleted'⟩ := h'
  obtain ⟨hsys, rfl, rfl, rfl⟩ := hstep
  simp only at hsys
  cases a with
  | tick clock =>
      rw [Sys.step, Option.ite_none_right_eq_some] at hsys
      obtain ⟨-, heq⟩ := hsys
      cases heq
      simp only [Sys.startedBy, Sys.stoppedBy, Sys.deletedBy, List.append_nil]
      exact hs.frame ⟨hs.core.messages, hs.core.ownership, hs.core.nextId⟩ rfl rfl
  | start => exact hs.start hsys
  | stop => exact hs.stop hsys
  | epollWait events =>
      rw [Sys.step, Option.ite_none_right_eq_some] at hsys
      obtain ⟨-, heq⟩ := hsys
      cases heq
      simp only [Sys.startedBy, Sys.stoppedBy, Sys.deletedBy, List.append_nil]
      exact hs.frame ⟨hs.core.messages, hs.core.ownership, hs.core.nextId⟩ rfl rfl
  | expireDisarm =>
      simp only [Sys.step] at hsys
      simp only [Sys.startedBy, Sys.stoppedBy, Sys.deletedBy, List.append_nil]
      split at hsys
      · next k _ _ _ =>
          cases hsys
          have hcore := hs.core.setContainer
            (Container.heap_syscall (h.sys.container k) (.settime Timespec.zero))
          exact hs.frame ⟨hcore.messages, hcore.ownership, hcore.nextId⟩ rfl rfl
      · cases hsys
  | expireRemovePoll =>
      simp only [Sys.step] at hsys
      simp only [Sys.startedBy, Sys.stoppedBy, Sys.deletedBy, List.append_nil]
      split at hsys
      · next k _ _ _ =>
          cases hsys
          have hcore := hs.core.setContainer
            (Container.heap_syscall (h.sys.container k) .removePoll)
          exact hs.frame ⟨hcore.messages, hcore.ownership, hcore.nextId⟩ rfl rfl
      · cases hsys
  | expirePost =>
      simp only [Sys.step] at hsys
      simp only [Sys.startedBy, Sys.stoppedBy, Sys.deletedBy, List.append_nil]
      split at hsys
      · next k events _ _ =>
          cases hsys
          exact hs.frame ⟨hs.core.messages.expire k, hs.core.ownership, hs.core.nextId⟩ rfl rfl
      · cases hsys
  | receive => exact hs.receive hsys
  | syscall => exact hs.syscall hsys
  | readClient => exact hs.readClient hsys
  | stopClient => exact hs.stopClient hsys
  | callback => exact hs.callback hsys

/-- In every interleaving each timer that was started ends at most once. -/
theorem run_endsOnce [DecidableEq ι] (clock : Clock) {acts : List (Act ι)}
    (hrun : Run Step (Hist.init ι clock) acts h) : h.EndsOnce := by
  refine Sound.endsOnce (Run.invariant (I := Sound) (Sound.init clock) ?_ hrun)
  intro h a h' hs hstep
  exact hs.step hstep

/-- One timer is stopped, the next one expires. -/
theorem run_endsOnce_both :
    ∃ h : Hist Bool,
      Run Step (Hist.init Bool (.seconds 1 (by decide)))
        [.start true 5000 false (.seconds 1 (by decide)), .receive, .syscall, .syscall,
          .stop true, .receive,
          .start true 1000 false (.seconds 1 (by decide)), .receive, .syscall, .syscall,
          .tick (.seconds 2 (by decide)), .epollWait [.sw], .expireDisarm, .expireRemovePoll,
          .expirePost, .receive, .readClient, .stopClient, .callback, .receive] h ∧
      (h.stops, h.calledBack, h.deleted) = ([0], [1], [0, 1]) ∧ h.EndsOnce := by
  let run : Option (Hist Bool) :=
    [.start true 5000 false (.seconds 1 (by decide)), .receive, .syscall, .syscall,
      .stop true, .receive,
      .start true 1000 false (.seconds 1 (by decide)), .receive, .syscall, .syscall,
      .tick (.seconds 2 (by decide)), .epollWait [.sw], .expireDisarm, .expireRemovePoll,
      .expirePost, .receive, .readClient, .stopClient, .callback, .receive].foldlM
        (fun h a => (h.sys.step a).map fun s =>
          ⟨s, h.started ++ h.sys.startedBy a, h.stops ++ h.sys.stoppedBy a,
            h.deleted ++ h.sys.deletedBy a⟩)
        (Hist.init Bool (.seconds 1 (by decide)))
  have hends : run.map (fun h => (h.stops, h.calledBack, h.deleted)) = some ([0], [1], [0, 1]) := by
    decide
  obtain ⟨h, hh, hends⟩ := Option.map_eq_some_iff.mp hends
  refine ⟨h, ?_⟩
  suffices hrun : Run Step (Hist.init Bool (.seconds 1 (by decide))) _ h from
    ⟨hrun, hends, run_endsOnce _ hrun⟩
  refine Run.of_foldlM (fun g a g' hstep => ?_) hh
  obtain ⟨s, hs, rfl⟩ := Option.map_eq_some_iff.mp hstep
  exact ⟨hs, rfl, rfl, rfl⟩

end Hist

end LibraDevice.Timers
