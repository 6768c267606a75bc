import Mathlib.Data.Finset.Insert
import LibraDevice.Utils.LocThread

/-!
Who holds the delegate: the client until it has been through `destroy`, and the
thread until it has. The reference count is theirs, so that the delegate is
deleted once and only used by those who hold it.
-/

namespace LibraDevice.Utils.LocThread

open SharedObject StepRun

namespace State

/-- `start` has not returned. -/
structure Creating (s : State) : Prop where
  mThread : s.mThread = false
  taskThread : s.taskThread = true
  startResult : s.startResult = none
  stopReturned : s.stopReturned = false

/-- `start` has returned false. -/
structure Unstarted (s : State) : Prop where
  mThread : s.mThread = false
  startResult : s.startResult = some false
  stopReturned : s.stopReturned = false

/-- `start` has returned true. -/
structure Started (s : State) : Prop where
  startResult : s.startResult = some true
  spawned : s.spawned.isSome = true

/-- The client has the delegate. -/
structure Held (s : State) : Prop extends Started s where
  mThread : s.mThread = true
  stopReturned : s.stopReturned = false

/-- The thread of a joinable delegate has been waited for. -/
def Joined (s : State) : Prop :=
  s.joinable = true → s.spawned = some .ended

/-- The client is past the delegate. -/
structure Stopped (s : State) : Prop extends Started s where
  mThread : s.mThread = false
  joined : s.Joined

/-- The client is in `stop` or in the destructor. -/
structure Stopping (s : State) : Prop where
  caller : s.caller ≠ .create
  task : s.caller = .stop → s.task = false

/-- What holds at each statement of the client. -/
def ClientOk (s : State) : Prop :=
  match s.client with
  | .pthreadCreate =>
      s.Creating ∧ s.spawned = none ∧ s.delegate.mJoinable = s.joinable ∧
        s.delegate.mRunnable = true
  | .failed => s.Creating ∧ s.spawned = none ∧ s.delegate.mJoinable = s.joinable
  | .setName | .detach =>
      s.Creating ∧ s.spawned.isSome = true ∧ s.delegate.mJoinable = s.joinable
  | .isRunning =>
      s.Creating ∧
        (s.spawned.isSome = true ∧ s.delegate.mJoinable = s.joinable ∨
          s.spawned = none ∧ s.delegate.mRunnable = false)
  | .noThread => s.Unstarted
  | .idle =>
      (s.Held ∧ s.delegate.mJoinable = s.joinable ∧ s.taskThread = true) ∨
        (s.Unstarted ∧ (s.task = true → s.taskThread = false)) ∨ s.Stopped ∧ s.task = false
  | .stopTest | .stopRunnable | .stopJoinable | .stopClear | .bye =>
      s.Held ∧ s.delegate.mJoinable = s.joinable ∧ s.Stopping
  | .stopJoin => s.Held ∧ s.Stopping
  | .destroy _ => s.caller = .create ∧ s.Creating ∨ s.Held ∧ s.Stopping ∧ s.Joined
  | .taskThread =>
      s.task = true ∧ ((s.Held ∧ s.delegate.mJoinable = s.joinable ∧ s.taskThread = true) ∨
        s.Unstarted ∧ s.taskThread = false)
  | .taskUnblock true => s.Held ∧ s.delegate.mJoinable = s.joinable
  | .taskUnblock false => s.Unstarted
  | .taskForget => s.Held ∧ s.delegate.mJoinable = s.joinable
  | .taskDelete => s.Unstarted
  | .done => s.Unstarted ∨ s.Stopped

end State

variable {s s' : State}

theorem returned_clientOk
    (h : s.caller = .create ∧ s.Creating ∨ s.Held ∧ s.Stopping ∧ s.Joined) :
    s.returned.ClientOk := by
  rw [State.returned]
  rcases h with ⟨hcaller, hm, htask, hres, hstop⟩ |
    ⟨⟨⟨hres, hsp⟩, hm, hstop⟩, ⟨hcaller, htask⟩, hjoined⟩
  · simp only [hcaller]
    cases hkind : s.task with
    | false =>
        refine Or.inr (Or.inl ⟨⟨hm, rfl, hstop⟩, ?_⟩)
        intro h
        cases h
    | true => exact ⟨hm, rfl, hstop⟩
  · cases hwho : s.caller with
    | create => exact absurd hwho hcaller
    | stop => exact Or.inr (Or.inr ⟨⟨⟨hres, hsp⟩, rfl, hjoined⟩, htask hwho⟩)
    | destructor => exact Or.inr ⟨⟨hres, hsp⟩, rfl, hjoined⟩

theorem isRunning_clientOk (hpc : s.client = .isRunning) (h : s.ClientOk)
    (hstep : s.clientStep = some s') : s'.ClientOk := by
  rw [State.ClientOk] at h
  rw [State.clientStep.eq_def] at hstep
  simp only [hpc] at h hstep
  obtain ⟨⟨hm, htask, hres, hstop⟩, hrest⟩ := h
  split at hstep
  · next hrunning =>
      cases hstep
      rcases hrest with ⟨hsome, hjoinable⟩ | ⟨-, hfalse⟩
      · exact Or.inl ⟨⟨⟨rfl, hsome⟩, rfl, hstop⟩, hjoinable, htask⟩
      · rw [hfalse] at hrunning
        cases hrunning
  · cases hstep
    exact Or.inl ⟨rfl, hm, htask, hres, hstop⟩

/-- `mJoinable` decides whether the thread is joined. -/
theorem joinable_clientOk (hheld : s.Held) (hjoinable : s.delegate.mJoinable = s.joinable)
    (hstopping : s.Stopping) {pc : ClientPc} (hpc : pc = .stopClear ∨ pc = .stopTest) :
    State.ClientOk
      { s.touch with client := if s.delegate.mJoinable then pc else .destroy .test } := by
  obtain ⟨⟨hres, hsp⟩, hm, hstop⟩ := hheld
  obtain ⟨hcaller, htask⟩ := hstopping
  cases hset : s.delegate.mJoinable with
  | true =>
      rcases hpc with rfl | rfl
      · exact ⟨⟨⟨hres, hsp⟩, hm, hstop⟩, hjoinable, hcaller, htask⟩
      · exact ⟨⟨⟨hres, hsp⟩, hm, hstop⟩, hjoinable, hcaller, htask⟩
  | false =>
      refine Or.inr ⟨⟨⟨hres, hsp⟩, hm, hstop⟩, ⟨hcaller, htask⟩, fun hdetached => ?_⟩
      rw [hset] at hjoinable
      exact absurd (hjoinable.trans hdetached) (by decide)

theorem destroying_frame {t : State}
    (h : s.caller = .create ∧ s.Creating ∨ s.Held ∧ s.Stopping ∧ s.Joined)
    (h1 : t.caller = s.caller) (h2 : t.mThread = s.mThread) (h3 : t.taskThread = s.taskThread)
    (h4 : t.startResult = s.startResult) (h5 : t.stopReturned = s.stopReturned)
    (h6 : t.spawned = s.spawned) (h7 : t.task = s.task) (h8 : t.joinable = s.joinable) :
    t.caller = .create ∧ t.Creating ∨ t.Held ∧ t.Stopping ∧ t.Joined := by
  rcases h with ⟨hcaller, hm, htask, hres, hstop⟩ |
    ⟨⟨⟨hres, hsp⟩, hm, hstop⟩, ⟨hcaller, htask⟩, hjoined⟩
  · exact Or.inl ⟨h1.trans hcaller, h2.trans hm, h3.trans htask, h4.trans hres,
      h5.trans hstop⟩
  · refine Or.inr ⟨⟨⟨h4.trans hres, by rw [h6]; exact hsp⟩, h2.trans hm, h5.trans hstop⟩,
      ⟨by rw [h1]; exact hcaller, fun hwho => h7.trans (htask (h1.symm.trans hwho))⟩, ?_⟩
    exact fun hj => h6.trans (hjoined (h8.symm.trans hj))

theorem destroy_clientOk {pc : DestroyPc} (hpc : s.client = .destroy pc) (h : s.ClientOk)
    (hstep : s.clientStep = some s') : s'.ClientOk := by
  rw [State.ClientOk] at h
  rw [State.clientStep.eq_def] at hstep
  simp only [hpc] at h hstep
  cases pc with
  | test =>
      simp only at hstep
      split at hstep
      · cases hstep
        exact destroying_frame h rfl rfl rfl rfl rfl rfl rfl rfl
      · cases hstep
        exact returned_clientOk (destroying_frame h rfl rfl rfl rfl rfl rfl rfl rfl)
  | region =>
      cases hstep
      exact destroying_frame h rfl rfl rfl rfl rfl rfl rfl rfl
  | last callDelete =>
      cases hstep
      apply returned_clientOk
      cases callDelete <;> exact destroying_frame h rfl rfl rfl rfl rfl rfl rfl rfl

/-- `MsgTask::destroy`. -/
theorem taskDestroy_clientOk
    (hpc : s.client = .taskThread ∨ (∃ thread, s.client = .taskUnblock thread) ∨
      s.client = .taskForget ∨ s.client = .taskDelete)
    (h : s.ClientOk) (hstep : s.clientStep = some s') : s'.ClientOk := by
  rw [State.ClientOk] at h
  rw [State.clientStep.eq_def] at hstep
  rcases hpc with hpc | ⟨thread, hpc⟩ | hpc | hpc
  · simp only [hpc] at h hstep
    cases hstep
    rcases h with
      ⟨-, ⟨⟨⟨hres, hsp⟩, hm, hstop⟩, hjoinable, hthread⟩ | ⟨⟨hm, hres, hstop⟩, hthread⟩⟩
    · rw [hthread]
      exact ⟨⟨⟨hres, hsp⟩, hm, hstop⟩, hjoinable⟩
    · rw [hthread]
      exact ⟨hm, hres, hstop⟩
  · simp only [hpc] at hstep
    cases hstep
    cases thread with
    | true =>
        simp only [hpc] at h
        obtain ⟨⟨⟨hres, hsp⟩, hm, hstop⟩, hjoinable⟩ := h
        exact ⟨⟨⟨hres, hsp⟩, hm, hstop⟩, hjoinable⟩
    | false =>
        simp only [hpc] at h
        obtain ⟨hm, hres, hstop⟩ := h
        exact ⟨hm, hres, hstop⟩
  · simp only [hpc] at h hstep
    obtain ⟨⟨⟨hres, hsp⟩, hm, hstop⟩, hjoinable⟩ := h
    rw [if_pos hm] at hstep
    cases hstep
    exact ⟨⟨⟨hres, hsp⟩, hm, hstop⟩, hjoinable, fun h => (by cases h), fun h => (by cases h)⟩
  · simp only [hpc] at h hstep
    obtain ⟨hm, hres, hstop⟩ := h
    cases hstep
    exact Or.inl ⟨hm, hres, hstop⟩

theorem clientStep_clientOk (h : s.ClientOk) (hstep : s.clientStep = some s') : s'.ClientOk := by
  rw [State.ClientOk] at h
  rw [State.clientStep.eq_def] at hstep
  cases hpc : s.client with
  | pthreadCreate | idle | done =>
      simp only [hpc] at hstep
      cases hstep
  | setName =>
      simp only [hpc] at h hstep
      obtain ⟨⟨hm, htask, hres, hstop⟩, hrest⟩ := h
      cases hstep
      exact ⟨⟨hm, htask, hres, hstop⟩, hrest⟩
  | detach =>
      simp only [hpc] at h hstep
      obtain ⟨⟨hm, htask, hres, hstop⟩, hrest⟩ := h
      cases hstep
      split
      · exact ⟨⟨hm, htask, hres, hstop⟩, Or.inl hrest⟩
      · exact ⟨⟨hm, htask, hres, hstop⟩, Or.inl hrest⟩
  | failed =>
      simp only [hpc] at h hstep
      obtain ⟨⟨hm, htask, hres, hstop⟩, hnone, -⟩ := h
      cases hstep
      exact ⟨⟨hm, htask, hres, hstop⟩, Or.inr ⟨hnone, rfl⟩⟩
  | isRunning => exact isRunning_clientOk hpc h hstep
  | noThread =>
      simp only [hpc] at h hstep
      obtain ⟨hm, hres, hstop⟩ := h
      cases hstep
      exact Or.inr (Or.inl ⟨⟨hm, hres, hstop⟩, fun _ => rfl⟩)
  | stopTest =>
      simp only [hpc] at h hstep
      obtain ⟨⟨⟨hres, hsp⟩, hm, hstop⟩, hjoinable, hcaller, htask⟩ := h
      cases hstep
      cases s.delegate.mRunnable <;>
        exact ⟨⟨⟨hres, hsp⟩, hm, hstop⟩, hjoinable, hcaller, htask⟩
  | stopRunnable =>
      simp only [hpc] at h hstep
      obtain ⟨⟨⟨hres, hsp⟩, hm, hstop⟩, hjoinable, hcaller, htask⟩ := h
      cases hstep
      exact ⟨⟨⟨hres, hsp⟩, hm, hstop⟩, hjoinable, hcaller, htask⟩
  | stopJoinable =>
      simp only [hpc] at h hstep
      cases hstep
      exact joinable_clientOk h.1 h.2.1 h.2.2 (Or.inl rfl)
  | stopClear =>
      simp only [hpc] at h hstep
      obtain ⟨⟨⟨hres, hsp⟩, hm, hstop⟩, -, hcaller, htask⟩ := h
      cases hstep
      exact ⟨⟨⟨hres, hsp⟩, hm, hstop⟩, hcaller, htask⟩
  | stopJoin =>
      simp only [hpc] at h hstep
      obtain ⟨⟨⟨hres, hsp⟩, hm, hstop⟩, hcaller, htask⟩ := h
      split at hstep
      · next hended =>
          cases hstep
          exact Or.inr ⟨⟨⟨hres, hsp⟩, hm, hstop⟩, ⟨hcaller, htask⟩, fun _ => hended⟩
      · cases hstep
  | destroy pc => exact destroy_clientOk hpc h hstep
  | bye =>
      simp only [hpc] at h hstep
      cases hstep
      exact joinable_clientOk h.1 h.2.1 h.2.2 (Or.inr rfl)
  | taskThread => exact taskDestroy_clientOk (Or.inl hpc) h hstep
  | taskUnblock thread => exact taskDestroy_clientOk (Or.inr (Or.inl ⟨thread, hpc⟩)) h hstep
  | taskForget => exact taskDestroy_clientOk (Or.inr (Or.inr (Or.inl hpc))) h hstep
  | taskDelete => exact taskDestroy_clientOk (Or.inr (Or.inr (Or.inr hpc))) h hstep

/-- What the thread leaves to the client. -/
structure ThreadFrame (s s' : State) : Prop where
  joinable : s'.joinable = s.joinable
  task : s'.task = s.task
  client : s'.client = s.client
  caller : s'.caller = s.caller
  mThread : s'.mThread = s.mThread
  taskThread : s'.taskThread = s.taskThread
  startResult : s'.startResult = s.startResult
  stopReturned : s'.stopReturned = s.stopReturned
  mJoinable : s'.delegate.mJoinable = s.delegate.mJoinable
  running : s.spawned ≠ none ∧ s.spawned ≠ some .ended
  spawned : s'.spawned.isSome = true

theorem destroyLast_frame (callDelete : Bool)
    (hrunning : s.spawned ≠ none ∧ s.spawned ≠ some .ended) :
    ThreadFrame s { s.destroyLast callDelete with spawned := some .ended } := by
  cases callDelete <;> exact ⟨rfl, rfl, rfl, rfl, rfl, rfl, rfl, rfl, rfl, hrunning, rfl⟩

theorem spawnedStep_frame {pc : SpawnedPc} (hpc : s.spawned = some pc)
    (hstep : s.spawnedStep pc = some s') : ThreadFrame s s' := by
  have hrunning : pc ≠ .ended → s.spawned ≠ none ∧ s.spawned ≠ some .ended := by
    intro hne
    rw [hpc]
    exact ⟨by simp, by simpa using hne⟩
  rw [State.spawnedStep.eq_def] at hstep
  cases pc with
  | run | ended => cases hstep
  | readRunnable | prerunTest | loopTest | postrunTest =>
      cases hstep
      refine ⟨rfl, rfl, rfl, rfl, rfl, rfl, rfl, rfl, rfl, hrunning (by simp), ?_⟩
      cases s.delegate.mRunnable <;> rfl
  | prerun | postrun | clear | deleteRunnable =>
      cases hstep
      exact ⟨rfl, rfl, rfl, rfl, rfl, rfl, rfl, rfl, rfl, hrunning (by simp), rfl⟩
  | destroy pc =>
      cases pc with
      | test =>
          simp only at hstep
          split at hstep
          · cases hstep
            exact ⟨rfl, rfl, rfl, rfl, rfl, rfl, rfl, rfl, rfl, hrunning (by simp), rfl⟩
          · cases hstep
            exact ⟨rfl, rfl, rfl, rfl, rfl, rfl, rfl, rfl, rfl, hrunning (by simp), rfl⟩
      | region =>
          cases hstep
          exact ⟨rfl, rfl, rfl, rfl, rfl, rfl, rfl, rfl, rfl, hrunning (by simp), rfl⟩
      | last callDelete =>
          cases hstep
          exact destroyLast_frame callDelete (hrunning (by simp))

section

variable (h : ThreadFrame s s')

include h

theorem ThreadFrame.creating (hs : s.Creating) : s'.Creating :=
  ⟨h.mThread.trans hs.mThread, h.taskThread.trans hs.taskThread,
    h.startResult.trans hs.startResult, h.stopReturned.trans hs.stopReturned⟩

theorem ThreadFrame.unstarted (hs : s.Unstarted) : s'.Unstarted :=
  ⟨h.mThread.trans hs.mThread, h.startResult.trans hs.startResult,
    h.stopReturned.trans hs.stopReturned⟩

theorem ThreadFrame.held (hs : s.Held) : s'.Held :=
  ⟨⟨h.startResult.trans hs.startResult, h.spawned⟩, h.mThread.trans hs.mThread,
    h.stopReturned.trans hs.stopReturned⟩

theorem ThreadFrame.joined (hs : s.Joined) : s'.Joined := by
  intro hj
  exact absurd (hs (h.joinable.symm.trans hj)) h.running.2

theorem ThreadFrame.stopped (hs : s.Stopped) : s'.Stopped :=
  ⟨⟨h.startResult.trans hs.startResult, h.spawned⟩, h.mThread.trans hs.mThread,
    h.joined hs.joined⟩

theorem ThreadFrame.stopping (hs : s.Stopping) : s'.Stopping := by
  refine ⟨?_, ?_⟩
  · rw [h.caller]
    exact hs.caller
  · intro hwho
    rw [h.task]
    exact hs.task (h.caller.symm.trans hwho)

theorem ThreadFrame.clientOk (hs : s.ClientOk) : s'.ClientOk := by
  have hjoinable : s.delegate.mJoinable = s.joinable →
      s'.delegate.mJoinable = s'.joinable := by
    intro heq
    rw [h.mJoinable, h.joinable]
    exact heq
  rw [State.ClientOk] at hs ⊢
  rw [h.client]
  cases hpc : s.client with
  | pthreadCreate | failed =>
      simp only [hpc] at hs
      exact absurd hs.2.1 h.running.1
  | setName | detach =>
      simp only [hpc] at hs
      exact ⟨h.creating hs.1, h.spawned, hjoinable hs.2.2⟩
  | isRunning =>
      simp only [hpc] at hs
      rcases hs.2 with ⟨-, heq⟩ | ⟨hnone, -⟩
      · exact ⟨h.creating hs.1, Or.inl ⟨h.spawned, hjoinable heq⟩⟩
      · exact absurd hnone h.running.1
  | noThread | taskDelete =>
      simp only [hpc] at hs
      exact h.unstarted hs
  | idle =>
      simp only [hpc] at hs
      rcases hs with ⟨hheld, heq, htask⟩ | ⟨hun, htask⟩ | ⟨hstopped, htask⟩
      · exact Or.inl ⟨h.held hheld, hjoinable heq, h.taskThread.trans htask⟩
      · exact Or.inr (Or.inl ⟨h.unstarted hun, fun hk =>
          h.taskThread.trans (htask (h.task.symm.trans hk))⟩)
      · exact Or.inr (Or.inr ⟨h.stopped hstopped, h.task.trans htask⟩)
  | stopTest | stopRunnable | stopJoinable | stopClear | bye =>
      simp only [hpc] at hs
      exact ⟨h.held hs.1, hjoinable hs.2.1, h.stopping hs.2.2⟩
  | stopJoin =>
      simp only [hpc] at hs
      exact ⟨h.held hs.1, h.stopping hs.2⟩
  | destroy pc =>
      simp only [hpc] at hs
      rcases hs with ⟨hcaller, hcreating⟩ | ⟨hheld, hstopping, hjoined⟩
      · exact Or.inl ⟨h.caller.trans hcaller, h.creating hcreating⟩
      · exact Or.inr ⟨h.held hheld, h.stopping hstopping, h.joined hjoined⟩
  | taskThread =>
      simp only [hpc] at hs
      rcases hs with ⟨hkind, ⟨hheld, heq, htask⟩ | ⟨hun, htask⟩⟩
      · exact ⟨h.task.trans hkind, Or.inl ⟨h.held hheld, hjoinable heq, h.taskThread.trans htask⟩⟩
      · exact ⟨h.task.trans hkind, Or.inr ⟨h.unstarted hun, h.taskThread.trans htask⟩⟩
  | taskUnblock thread =>
      cases thread with
      | true =>
          simp only [hpc] at hs
          exact ⟨h.held hs.1, hjoinable hs.2⟩
      | false =>
          simp only [hpc] at hs
          exact h.unstarted hs
  | taskForget =>
      simp only [hpc] at hs
      exact ⟨h.held hs.1, hjoinable hs.2⟩
  | done =>
      simp only [hpc] at hs
      rcases hs with hun | hstopped
      · exact Or.inl (h.unstarted hun)
      · exact Or.inr (h.stopped hstopped)

end

theorem call_clientOk {c : Call}
    (h : (s.Held ∧ s.delegate.mJoinable = s.joinable ∧ s.taskThread = true) ∨
      (s.Unstarted ∧ (s.task = true → s.taskThread = false)) ∨ s.Stopped ∧ s.task = false)
    (hstep : s.call c = some s') (hpc : s.client = .idle) : s'.ClientOk := by
  have hsame : s.ClientOk := by
    rw [State.ClientOk, hpc]
    exact h
  cases c with
  | stop =>
      simp only [State.call] at hstep
      split at hstep
      · cases hstep
      · next htask =>
          split at hstep
          · next hm =>
              cases hstep
              rcases h with ⟨⟨⟨hres, hsp⟩, -, hstop⟩, hjoinable, -⟩ | ⟨⟨hm', -⟩, -⟩ |
                ⟨⟨-, hm', -⟩, -⟩
              · exact ⟨⟨⟨hres, hsp⟩, hm, hstop⟩, hjoinable, fun h => (by cases h),
                  fun _ => Bool.eq_false_iff.mpr htask⟩
              · exact absurd (hm.symm.trans hm') (by decide)
              · exact absurd (hm.symm.trans hm') (by decide)
          · cases hstep
            exact hsame
  | destructor =>
      simp only [State.call] at hstep
      split at hstep
      · cases hstep
      · split at hstep
        · next hm =>
            cases hstep
            rcases h with ⟨⟨⟨hres, hsp⟩, -, hstop⟩, hjoinable, -⟩ | ⟨⟨hm', -⟩, -⟩ | ⟨⟨-, hm', -⟩, -⟩
            · exact ⟨⟨⟨hres, hsp⟩, hm, hstop⟩, hjoinable, fun h => (by cases h),
                fun h => (by cases h)⟩
            · exact absurd (hm.symm.trans hm') (by decide)
            · exact absurd (hm.symm.trans hm') (by decide)
        · next hm =>
            cases hstep
            rcases h with ⟨⟨-, hm', -⟩, -⟩ | ⟨⟨hm', hres, hstop⟩, -⟩ |
              ⟨⟨⟨hres, hsp⟩, hm', hjoined⟩, -⟩
            · exact absurd hm' hm
            · exact Or.inl ⟨hm', hres, hstop⟩
            · exact Or.inr ⟨⟨hres, hsp⟩, hm', hjoined⟩
  | destroy =>
      simp only [State.call] at hstep
      split at hstep
      · next htask =>
          cases hstep
          rcases h with ⟨⟨⟨hres, hsp⟩, hm, hstop⟩, hrest⟩ | ⟨⟨hm, hres, hstop⟩, hthread⟩ | ⟨-, hno⟩
          · exact ⟨htask, Or.inl ⟨⟨⟨hres, hsp⟩, hm, hstop⟩, hrest⟩⟩
          · exact ⟨htask, Or.inr ⟨⟨hm, hres, hstop⟩, hthread htask⟩⟩
          · exact absurd (htask.symm.trans hno) (by decide)
      · cases hstep

theorem step_clientOk {a : Action} (h : s.ClientOk) (hstep : Step s a s') : s'.ClientOk := by
  rw [Step, State.step.eq_def] at hstep
  cases a with
  | pthreadCreate success =>
      simp only at hstep
      split at hstep
      · next hpc =>
          rw [State.ClientOk, hpc] at h
          obtain ⟨⟨hm, htask, hres, hstop⟩, hnone, hjoinable, -⟩ := h
          cases success with
          | true =>
              cases hstep
              exact ⟨⟨hm, htask, hres, hstop⟩, rfl, hjoinable⟩
          | false =>
              cases hstep
              exact ⟨⟨hm, htask, hres, hstop⟩, hnone, hjoinable⟩
      · cases hstep
  | call c =>
      simp only at hstep
      split at hstep
      · next hpc =>
          rw [State.ClientOk, hpc] at h
          exact call_clientOk h hstep hpc
      · cases hstep
  | client => exact clientStep_clientOk h hstep
  | spawned =>
      obtain ⟨pc, hpc, hstep⟩ := Option.bind_eq_some_iff.mp hstep
      exact (spawnedStep_frame hpc hstep).clientOk h
  | ran again =>
      simp only at hstep
      split at hstep
      · next hpc =>
          cases hstep
          refine ThreadFrame.clientOk (s := s)
            ⟨rfl, rfl, rfl, rfl, rfl, rfl, rfl, rfl, rfl, ?_, ?_⟩ h
          · rw [hpc]
            simp
          · cases again <;> rfl
      · cases hstep

end LibraDevice.Utils.LocThread
