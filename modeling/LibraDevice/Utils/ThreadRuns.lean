import LibraDevice.Utils.ThreadOnce

/-!
Whole runs of a client and its thread: the delegate in every order of steps, and
the runnable where `stop` and `MsgTask::destroy` come in time.
-/

namespace LibraDevice.Utils.LocThread

open StepRun

variable {s s' : State}

theorem init_clientOk (joinable task : Bool) : (State.init joinable task).ClientOk :=
  ⟨⟨rfl, rfl, rfl, rfl⟩, rfl, rfl, rfl⟩

theorem State.ClientOk.joined (h : s.ClientOk) (hstop : s.stopReturned = true) : s.Joined := by
  have hno : s.stopReturned = false → s.Joined := by
    intro hfalse
    rw [hfalse] at hstop
    cases hstop
  rw [State.ClientOk] at h
  cases hpc : s.client with
  | pthreadCreate | failed | setName | detach | isRunning =>
      simp only [hpc] at h
      exact hno h.1.stopReturned
  | noThread | taskDelete =>
      simp only [hpc] at h
      exact hno h.stopReturned
  | idle =>
      simp only [hpc] at h
      rcases h with ⟨hheld, -⟩ | ⟨hun, -⟩ | ⟨hstopped, -⟩
      · exact hno hheld.stopReturned
      · exact hno hun.stopReturned
      · exact hstopped.joined
  | stopTest | stopRunnable | stopJoinable | stopClear | bye | stopJoin | taskForget =>
      simp only [hpc] at h
      exact hno h.1.stopReturned
  | destroy pc =>
      simp only [hpc] at h
      rcases h with ⟨-, hcreating⟩ | ⟨hheld, -⟩
      · exact hno hcreating.stopReturned
      · exact hno hheld.stopReturned
  | taskThread =>
      simp only [hpc] at h
      rcases h with ⟨-, ⟨hheld, -⟩ | ⟨hun, -⟩⟩
      · exact hno hheld.stopReturned
      · exact hno hun.stopReturned
  | taskUnblock thread =>
      cases thread with
      | true =>
          simp only [hpc] at h
          exact hno h.1.stopReturned
      | false =>
          simp only [hpc] at h
          exact hno h.stopReturned
  | done =>
      simp only [hpc] at h
      rcases h with hun | hstopped
      · exact hno hun.stopReturned
      · exact hstopped.joined

theorem clientStep_spawned (hstep : s.clientStep = some s') :
    s'.spawned = s.spawned ∧ s'.ranAfterStop = s.ranAfterStop := by
  have hreturned : ∀ t : State, t.returned.spawned = t.spawned ∧
      t.returned.ranAfterStop = t.ranAfterStop := by
    intro t
    rw [State.returned]
    cases t.caller <;> exact ⟨rfl, rfl⟩
  rw [State.clientStep.eq_def] at hstep
  cases hpc : s.client with
  | pthreadCreate | idle | done =>
      simp only [hpc] at hstep
      cases hstep
  | setName | failed | noThread | stopTest | stopRunnable | stopJoinable | stopClear | bye
    | taskThread | taskUnblock thread | taskForget | taskDelete =>
      simp only [hpc] at hstep
      cases hstep
      exact ⟨rfl, rfl⟩
  | detach =>
      simp only [hpc] at hstep
      cases hstep
      cases s.joinable <;> exact ⟨rfl, rfl⟩
  | isRunning | stopJoin =>
      simp only [hpc] at hstep
      split at hstep
      · cases hstep
        exact ⟨rfl, rfl⟩
      · cases hstep <;> exact ⟨rfl, rfl⟩
  | destroy pc =>
      simp only [hpc] at hstep
      cases pc with
      | test =>
          simp only at hstep
          split at hstep
          · cases hstep
            exact ⟨rfl, rfl⟩
          · cases hstep
            exact hreturned s.touch
      | region =>
          cases hstep
          exact ⟨rfl, rfl⟩
      | last callDelete =>
          cases hstep
          cases callDelete with
          | false => exact hreturned s
          | true => exact hreturned _

theorem spawnedStep_ran {pc : SpawnedPc} (hstep : s.spawnedStep pc = some s') :
    s'.ranAfterStop = s.ranAfterStop := by
  rw [State.spawnedStep.eq_def] at hstep
  cases pc with
  | run | ended => cases hstep
  | readRunnable | prerunTest | prerun | loopTest | postrunTest | postrun | clear
    | deleteRunnable =>
      cases hstep
      rfl
  | destroy pc =>
      cases pc with
      | test =>
          simp only at hstep
          split at hstep
          · cases hstep
            rfl
          · cases hstep
            rfl
      | region =>
          cases hstep
          rfl
      | last callDelete =>
          cases hstep
          cases callDelete <;> rfl

theorem call_keeps {c : Call} (hstep : s.call c = some s') :
    s'.spawned = s.spawned ∧ s'.ranAfterStop = s.ranAfterStop ∧ s'.startResult = s.startResult ∧
      s'.delegate = s.delegate ∧ s'.usedRunnable = s.usedRunnable ∧
      s'.runnableDeleted = s.runnableDeleted := by
  cases c with
  | stop | destructor =>
      simp only [State.call] at hstep
      split at hstep
      · cases hstep
      · split at hstep
        · cases hstep
          exact ⟨rfl, rfl, rfl, rfl, rfl, rfl⟩
        · cases hstep
          exact ⟨rfl, rfl, rfl, rfl, rfl, rfl⟩
  | destroy =>
      simp only [State.call] at hstep
      split at hstep
      · cases hstep
        exact ⟨rfl, rfl, rfl, rfl, rfl, rfl⟩
      · cases hstep

theorem step_ranAfterStop {a : Action} (hok : s.ClientOk) (h : s.ranAfterStop = false)
    (hstep : Step s a s') : s'.ranAfterStop = false := by
  rw [Step, State.step.eq_def] at hstep
  cases a with
  | pthreadCreate success =>
      simp only at hstep
      split at hstep
      · cases success with
        | true =>
            cases hstep
            exact h
        | false =>
            cases hstep
            exact h
      · cases hstep
  | call c =>
      simp only at hstep
      split at hstep
      · exact (call_keeps hstep).2.1.trans h
      · cases hstep
  | client => exact (clientStep_spawned hstep).2.trans h
  | spawned =>
      obtain ⟨pc, -, hstep⟩ := Option.bind_eq_some_iff.mp hstep
      exact (spawnedStep_ran hstep).trans h
  | ran again =>
      simp only at hstep
      split at hstep
      · next hrun =>
          cases hstep
          change (s.ranAfterStop || (s.stopReturned && s.joinable)) = false
          rw [h, Bool.false_or, Bool.and_eq_false_iff]
          cases hstop : s.stopReturned with
          | false => exact Or.inl rfl
          | true =>
              refine Or.inr (Bool.eq_false_iff.mpr fun hjoinable => ?_)
              rw [hok.joined hstop hjoinable] at hrun
              cases hrun
      · cases hstep

/-- The thread has deleted the runnable, if it had one. -/
def SpawnedPc.past : SpawnedPc → Bool
  | .destroy _ | .ended => true
  | _ => false

namespace State

def past (s : State) : Bool :=
  s.spawned.any SpawnedPc.past

/-- What holds of the runnable while nobody is late. -/
structure RunnableOk (s : State) : Prop where
  fresh : s.spawned = some .readRunnable → s.delegate.mRunnable = true
  unused : s.startResult ≠ some false → s.usedRunnable = false
  deleted : s.startResult ≠ some false → s.runnableDeleted = if s.past then 1 else 0

theorem RunnableOk.congr {t : State} (h : s.RunnableOk) (hspawned : t.spawned = s.spawned)
    (hfresh : s.spawned = some .readRunnable → t.delegate.mRunnable = s.delegate.mRunnable)
    (hstart : t.startResult ≠ some false → s.startResult ≠ some false)
    (hused : t.startResult ≠ some false → t.usedRunnable = s.usedRunnable)
    (hdeleted : t.startResult ≠ some false → t.runnableDeleted = s.runnableDeleted) :
    t.RunnableOk := by
  refine ⟨?_, ?_, ?_⟩
  · intro hread
    rw [hspawned] at hread
    exact (hfresh hread).trans (h.fresh hread)
  · intro hne
    exact (hused hne).trans (h.unused (hstart hne))
  · intro hne
    rw [hdeleted hne, past, hspawned]
    exact h.deleted (hstart hne)

theorem touchRunnable_eq (h : s.runnableDeleted = 0) : s.touchRunnable = s := by
  have hzero : ¬ 0 < s.runnableDeleted := by omega
  rw [touchRunnable, decide_eq_false hzero, Bool.or_false]

theorem RunnableOk.kept_inLoop (h : s.RunnableOk) (hloop : s.spawned.all SpawnedPc.inLoop = true)
    (hstart : s.startResult ≠ some false) : s.runnableDeleted = 0 := by
  have hpast : s.past = false := by
    rw [past]
    cases hpc : s.spawned with
    | none => rfl
    | some pc =>
        rw [hpc] at hloop
        cases pc with
        | readRunnable | prerunTest | prerun | loopTest | run => rfl
        | postrunTest | postrun | clear | deleteRunnable | destroy pc | ended => cases hloop
  rw [h.deleted hstart, hpast]
  rfl

end State

theorem returned_runnableOk {t : State} (h : s.RunnableOk) (hspawned : t.spawned = s.spawned)
    (hfresh : t.delegate.mRunnable = s.delegate.mRunnable) (hstart : t.startResult = s.startResult)
    (hused : t.usedRunnable = s.usedRunnable) (hdeleted : t.runnableDeleted = s.runnableDeleted) :
    t.returned.RunnableOk := by
  have ht : t.RunnableOk :=
    h.congr hspawned (fun _ => hfresh) (by rw [hstart]; exact id) (fun _ => hused)
      (fun _ => hdeleted)
  rw [State.returned]
  cases t.caller with
  | create =>
      exact ht.congr rfl (fun _ => rfl) (fun hne => absurd rfl hne) (fun _ => rfl) (fun _ => rfl)
  | stop | destructor => exact ht.congr rfl (fun _ => rfl) id (fun _ => rfl) (fun _ => rfl)

theorem clientStep_runnableOk (hok : s.ClientOk) (h : s.RunnableOk)
    (hguard : s.inTime .client = true) (hstep : s.clientStep = some s') : s'.RunnableOk := by
  rw [State.ClientOk] at hok
  rw [State.inTime.eq_def] at hguard
  rw [State.clientStep.eq_def] at hstep
  cases hpc : s.client with
  | pthreadCreate | idle | done =>
      simp only [hpc] at hstep
      cases hstep
  | setName | stopTest | stopJoinable | stopClear | bye =>
      simp only [hpc] at hstep
      cases hstep
      exact h.congr rfl (fun _ => rfl) id (fun _ => rfl) (fun _ => rfl)
  | detach =>
      simp only [hpc] at hstep
      cases hstep
      cases s.joinable <;> exact h.congr rfl (fun _ => rfl) id (fun _ => rfl) (fun _ => rfl)
  | failed =>
      simp only [hpc] at hok hstep
      cases hstep
      refine h.congr rfl (fun hread => ?_) id (fun _ => rfl) (fun _ => rfl)
      rw [hok.2.1] at hread
      cases hread
  | isRunning =>
      simp only [hpc] at hok hstep
      have hcreating : s.startResult ≠ some false := by
        rw [hok.1.startResult]
        simp
      split at hstep
      · cases hstep
        exact h.congr rfl (fun _ => rfl) (fun _ => hcreating) (fun _ => rfl) (fun _ => rfl)
      · cases hstep
        exact h.congr rfl (fun _ => rfl) id (fun _ => rfl) (fun _ => rfl)
  | noThread | taskDelete =>
      -- `start` has returned false
      simp only [hpc] at hok hstep
      cases hstep
      exact h.congr rfl (fun _ => rfl) id (fun hne => absurd hok.startResult hne)
        (fun hne => absurd hok.startResult hne)
  | stopRunnable =>
      simp only [hpc] at hguard hstep
      cases hstep
      refine h.congr rfl (fun hread => ?_) id (fun _ => rfl) (fun _ => rfl)
      exact absurd hread (of_decide_eq_true hguard)
  | stopJoin =>
      simp only [hpc] at hstep
      split at hstep
      · cases hstep
        exact h.congr rfl (fun _ => rfl) id (fun _ => rfl) (fun _ => rfl)
      · cases hstep
  | destroy pc =>
      simp only [hpc] at hstep
      cases pc with
      | test =>
          simp only at hstep
          split at hstep
          · cases hstep
            exact h.congr rfl (fun _ => rfl) id (fun _ => rfl) (fun _ => rfl)
          · cases hstep
            exact returned_runnableOk h rfl rfl rfl rfl rfl
      | region =>
          cases hstep
          exact h.congr rfl (fun _ => rfl) id (fun _ => rfl) (fun _ => rfl)
      | last callDelete =>
          cases hstep
          cases callDelete with
          | false => exact returned_runnableOk h rfl rfl rfl rfl rfl
          | true => exact returned_runnableOk h rfl rfl rfl rfl rfl
  | taskThread | taskUnblock thread | taskForget =>
      simp only [hpc] at hguard hstep
      cases hstep
      refine h.congr rfl (fun _ => rfl) id (fun hne => ?_) (fun _ => rfl)
      have hused : s.touchRunnable.usedRunnable = s.usedRunnable := by
        rw [State.touchRunnable_eq (h.kept_inLoop hguard hne)]
      exact hused

theorem spawnedStep_runnableOk {pc : SpawnedPc} (h : s.RunnableOk) (hpc : s.spawned = some pc)
    (hstep : s.spawnedStep pc = some s') : s'.RunnableOk := by
  have hpast : s.past = pc.past := by
    rw [State.past, hpc]
    rfl
  have hdeleted := h.deleted
  rw [hpast] at hdeleted
  have hused : ∀ n, (s.startResult ≠ some false → s.runnableDeleted = n) → n = 0 →
      s.startResult ≠ some false → (s.usedRunnable || decide (0 < s.runnableDeleted)) = false := by
    intro n hn hzero hne
    have hnot : ¬ 0 < s.runnableDeleted := by
      rw [hn hne, hzero]
      exact Nat.lt_irrefl 0
    rw [h.unused hne, decide_eq_false hnot]
    rfl
  rw [State.spawnedStep.eq_def] at hstep
  cases pc with
  | run | ended => cases hstep
  | readRunnable =>
      simp only [h.fresh hpc, if_true] at hstep
      cases hstep
      exact ⟨fun hread => (by cases hread), h.unused, hdeleted⟩
  | prerunTest | loopTest | postrunTest =>
      simp only at hstep
      cases hstep
      cases s.delegate.mRunnable with
      | true => exact ⟨fun hread => (by cases hread), h.unused, hdeleted⟩
      | false => exact ⟨fun hread => (by cases hread), h.unused, hdeleted⟩
  | prerun | postrun =>
      cases hstep
      exact ⟨fun hread => (by cases hread), hused _ hdeleted rfl, hdeleted⟩
  | clear =>
      cases hstep
      exact ⟨fun hread => (by cases hread), h.unused, hdeleted⟩
  | deleteRunnable =>
      cases hstep
      refine ⟨fun hread => (by cases hread), hused _ hdeleted rfl, fun hne => ?_⟩
      change s.runnableDeleted + 1 = 1
      rw [hdeleted hne]
      rfl
  | destroy pc =>
      cases pc with
      | test =>
          simp only at hstep
          split at hstep
          · cases hstep
            exact ⟨fun hread => (by cases hread), h.unused, hdeleted⟩
          · cases hstep
            exact ⟨fun hread => (by cases hread), h.unused, hdeleted⟩
      | region =>
          cases hstep
          exact ⟨fun hread => (by cases hread), h.unused, hdeleted⟩
      | last callDelete =>
          cases hstep
          cases callDelete with
          | false => exact ⟨fun hread => (by cases hread), h.unused, hdeleted⟩
          | true => exact ⟨fun hread => (by cases hread), h.unused, hdeleted⟩

theorem step_runnableOk {a : Action} (hok : s.ClientOk) (h : s.RunnableOk)
    (hguard : s.inTime a = true) (hstep : Step s a s') : s'.RunnableOk := by
  rw [Step, State.step.eq_def] at hstep
  cases a with
  | pthreadCreate success =>
      simp only at hstep
      split at hstep
      · next hpc =>
          rw [State.ClientOk, hpc] at hok
          obtain ⟨-, hnone, -, hrunnable⟩ := hok
          cases success with
          | true =>
              cases hstep
              refine ⟨fun _ => hrunnable, h.unused, fun hne => ?_⟩
              refine (h.deleted hne).trans ?_
              rw [State.past, hnone]
              rfl
          | false =>
              cases hstep
              exact h.congr rfl (fun _ => rfl) id (fun _ => rfl) (fun _ => rfl)
      · cases hstep
  | call c =>
      simp only at hstep
      split at hstep
      · obtain ⟨hspawned, -, hstart, hdelegate, hused, hdeleted⟩ := call_keeps hstep
        refine h.congr hspawned (fun _ => by rw [hdelegate]) ?_ (fun _ => hused) (fun _ => hdeleted)
        rw [hstart]
        exact id
      · cases hstep
  | client => exact clientStep_runnableOk hok h hguard hstep
  | spawned =>
      obtain ⟨pc, hpc, hstep⟩ := Option.bind_eq_some_iff.mp hstep
      exact spawnedStep_runnableOk h hpc hstep
  | ran again =>
      simp only at hstep
      split at hstep
      · next hrun =>
          have hzero : s.startResult ≠ some false → s.runnableDeleted = 0 := by
            intro hne
            rw [h.deleted hne, State.past, hrun]
            rfl
          cases hstep
          refine ⟨?_, ?_, ?_⟩
          · cases again with
            | true => exact fun hread => (by cases hread)
            | false => exact fun hread => (by cases hread)
          · intro hne
            change (s.usedRunnable || decide (0 < s.runnableDeleted)) = false
            rw [h.unused hne, hzero hne]
            rfl
          · intro hne
            refine (hzero hne).trans ?_
            cases again <;> rfl
      · cases hstep

theorem init_runnableOk (joinable task : Bool) : (State.init joinable task).RunnableOk :=
  ⟨fun _ => rfl, fun _ => rfl, fun _ => rfl⟩

/-- What every run of the two keeps, whoever is late. -/
structure State.Kept (s : State) : Prop where
  client : s.ClientOk
  owned : s.Owned
  notAfter : s.ranAfterStop = false

theorem step_kept {a : Action} (h : s.Kept) (hstep : Step s a s') : s'.Kept :=
  ⟨step_clientOk h.client hstep, step_owned h.client h.owned hstep,
    step_ranAfterStop h.client h.notAfter hstep⟩

theorem init_kept (joinable task : Bool) : (State.init joinable task).Kept :=
  ⟨init_clientOk joinable task, init_owned joinable task, rfl⟩

theorem run_kept {joinable task : Bool} {as : List Action}
    (h : Run Step (State.init joinable task) as s) : s.Kept :=
  h.invariant (init_kept joinable task) fun _ _ _ => step_kept

theorem run_runnableOk {joinable task : Bool} {as : List Action}
    (h : Run (Guarded (fun s a => s.inTime a = true) Step) (State.init joinable task) as s) :
    s.Kept ∧ s.RunnableOk := by
  refine h.invariant (I := fun s => s.Kept ∧ s.RunnableOk)
    ⟨init_kept joinable task, init_runnableOk joinable task⟩ ?_
  rintro s a s' ⟨hkept, hrunnable⟩ ⟨hguard, hstep⟩
  exact ⟨step_kept hkept hstep, step_runnableOk hkept.client hrunnable hguard hstep⟩

theorem past_of_finished (hok : s.ClientOk) (hstart : s.startResult = some true)
    (h : s.Finished) : s.past = true := by
  have hsome : s.spawned.isSome = true := by
    rw [State.ClientOk] at hok
    have hno : ¬ s.Unstarted := by
      intro hun
      rw [hun.startResult] at hstart
      cases hstart
    rcases h.1 with hdone | ⟨hidle, hm⟩
    · rw [hdone] at hok
      rcases hok with hun | hstopped
      · exact absurd hun hno
      · exact hstopped.spawned
    · rw [hidle] at hok
      rcases hok with ⟨hheld, -⟩ | ⟨hun, -⟩ | ⟨hstopped, -⟩
      · exact hheld.spawned
      · exact absurd hun hno
      · exact hstopped.spawned
  rcases h.2 with hnone | hended
  · rw [hnone] at hsome
    cases hsome
  · rw [State.past, hended]
    rfl

theorem State.RunnableOk.once (h : s.RunnableOk) (hok : s.ClientOk)
    (hstart : s.startResult = some true) : RunnableOnce s := by
  have hne : s.startResult ≠ some false := by
    rw [hstart]
    simp
  refine ⟨?_, h.unused hne, fun hfinished => ?_⟩
  · rw [h.deleted hne]
    split
    · exact Nat.le_refl 1
    · exact Nat.zero_le 1
  · rw [h.deleted hne, past_of_finished hok hstart hfinished]
    rfl

/-- The delegate is torn down once in every run, and the runnable in every run
in which `stop` is not early and `MsgTask::destroy` not late. -/
theorem torn_down_once (joinable task : Bool) :
    (∀ as s, Run Step (State.init joinable task) as s →
      DelegateOnce s ∧ s.ranAfterStop = false) ∧
    ∀ as s, Run (Guarded (fun s a => s.inTime a = true) Step) (State.init joinable task) as s →
      s.startResult = some true → RunnableOnce s := by
  constructor
  · intro as s h
    exact ⟨(run_kept h).owned.once, (run_kept h).notAfter⟩
  · intro as s h hstart
    obtain ⟨hkept, hrunnable⟩ := run_runnableOk h
    exact hrunnable.once hkept.client hstart

/-- A joinable thread is stopped while it waits in `run()`. -/
def stopped : List Action :=
  [.pthreadCreate true, .client, .client, .client, .spawned, .spawned, .spawned, .spawned,
    .call .stop, .client, .client, .client, .client, .ran false, .spawned, .spawned, .spawned,
    .spawned, .spawned, .spawned, .client, .client, .client, .client]

theorem torn_down_once_stopped :
    ∃ s, Run Step (State.init true false) stopped s ∧ s.Finished ∧ s.deleted = 1 ∧
      s.ranAfterStop = false ∧ s.runnableDeleted = 1 := by
  obtain ⟨s, hs, hidle, hm, hended, hstart⟩ : ∃ s, stopped.foldlM
      (fun s a => if s.inTime a = true then s.step a else none) (State.init true false) = some s ∧
      s.client = .idle ∧ s.mThread = false ∧ s.spawned = some .ended ∧
      s.startResult = some true := ⟨_, rfl, rfl, rfl, rfl, rfl⟩
  have hrun : Run (Guarded (fun s a => s.inTime a = true) Step) (State.init true false) stopped s :=
    Run.of_guarded_foldlM (fun _ _ _ => id) hs
  obtain ⟨honce, hrunnable⟩ := torn_down_once true false
  have hfinished : s.Finished := ⟨Or.inr ⟨hidle, hm⟩, Or.inr hended⟩
  obtain ⟨hdelegate, hran⟩ := honce _ _ hrun.unguarded
  exact ⟨s, hrun.unguarded, hfinished, hdelegate.finished hfinished, hran,
    (hrunnable _ _ hrun hstart).finished hfinished⟩

/-- `stop` comes before the thread has read the runnable. -/
def stoppedAtOnce : List Action :=
  [.pthreadCreate true, .client, .client, .client, .call .stop, .client, .client, .client, .client,
    .spawned, .spawned, .spawned, .spawned, .client, .client, .client, .client]

/-- The thread of a `MsgTask` is woken by `destroy` and deletes the task. -/
def destroyedLate : List Action :=
  [.pthreadCreate true, .client, .client, .client, .spawned, .spawned, .spawned, .spawned,
    .call .destroy, .client, .client, .ran false, .spawned, .spawned, .spawned, .spawned, .client]

theorem runnable_not_once :
    (∃ s, Run Step (State.init true false) stoppedAtOnce s ∧ s.startResult = some true ∧
      s.Finished ∧ s.runnableDeleted = 0) ∧
    ∃ s, Run Step (State.init false true) destroyedLate s ∧ s.startResult = some true ∧
      s.usedRunnable = true := by
  constructor
  · obtain ⟨s, hs, hidle, hm, hended, hstart, hzero⟩ : ∃ s, stoppedAtOnce.foldlM State.step
        (State.init true false) = some s ∧ s.client = .idle ∧ s.mThread = false ∧
        s.spawned = some .ended ∧ s.startResult = some true ∧ s.runnableDeleted = 0 :=
      ⟨_, rfl, rfl, rfl, rfl, rfl, rfl⟩
    exact ⟨s, Run.of_foldlM (fun _ _ _ => id) hs, hstart,
      ⟨Or.inr ⟨hidle, hm⟩, Or.inr hended⟩, hzero⟩
  · obtain ⟨s, hs, hstart, hused⟩ : ∃ s, destroyedLate.foldlM State.step
        (State.init false true) = some s ∧ s.startResult = some true ∧ s.usedRunnable = true :=
      ⟨_, rfl, rfl, rfl⟩
    exact ⟨s, Run.of_foldlM (fun _ _ _ => id) hs, hstart, hused⟩

end LibraDevice.Utils.LocThread
