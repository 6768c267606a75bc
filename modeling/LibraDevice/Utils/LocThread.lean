import LibraDevice.Lib.SharedObject
import LibraDevice.Lib.StepRun

/-!
`LocThread` and `MsgTask`: the client that starts a thread and lets go of it,
and the thread, each statement or region under the mutex a step of its own.
-/

namespace LibraDevice.Utils.LocThread

/-- `LocThreadDelegate::destroy`. -/
inductive DestroyPc where
  | test
  | region
  | last (callDelete : Bool)
deriving DecidableEq, Repr

/-- Who called `LocThreadDelegate::destroy` on the client's side. -/
inductive Caller where
  | create
  | stop
  | destructor
deriving DecidableEq, Repr

/-- Where the client is. -/
inductive ClientPc where
  /-- In the constructor of the delegate. -/
  | pthreadCreate
  | setName
  | detach
  | failed
  /-- In `LocThreadDelegate::create`. -/
  | isRunning
  /-- In the constructor of a `MsgTask` whose `start` returned false. -/
  | noThread
  | idle
  /-- In `LocThreadDelegate::stop`. -/
  | stopTest
  | stopRunnable
  | stopJoinable
  | stopClear
  | stopJoin
  | destroy (pc : DestroyPc)
  | bye
  /-- In `MsgTask::destroy`. -/
  | taskThread
  | taskUnblock (thread : Bool)
  | taskForget
  | taskDelete
  | done
deriving DecidableEq, Repr

/-- Where the thread is in `threadMain`. -/
inductive SpawnedPc where
  | readRunnable
  | prerunTest
  | prerun
  | loopTest
  | run
  | postrunTest
  | postrun
  | clear
  | deleteRunnable
  | destroy (pc : DestroyPc)
  | ended
deriving DecidableEq, Repr

/-- `LocThreadDelegate`. Of `mRunnable` only whether it is set counts. -/
structure Delegate where
  mRunnable : Bool
  mJoinable : Bool
  mRefCount : Nat
deriving DecidableEq, Repr

/-- `joinable` and `task` say how the client started the thread: joinable or
detached, with a runnable of its own or as a `MsgTask` that is the runnable. -/
structure State where
  joinable : Bool
  task : Bool
  client : ClientPc
  caller : Caller
  spawned : Option SpawnedPc
  delegate : Delegate
  /-- `LocThread::mThread` is set. -/
  mThread : Bool
  /-- `MsgTask::mThread` is set. -/
  taskThread : Bool
  startResult : Option Bool
  stopReturned : Bool
  deleted : Nat
  usedDeleted : Bool
  runnableDeleted : Nat
  usedRunnable : Bool
  ranAfterStop : Bool
deriving DecidableEq, Repr

/-- `start` has been called with a runnable, and the members of the delegate are
as if `pthread_create` had succeeded. -/
def State.init (joinable task : Bool) : State where
  joinable := joinable
  task := task
  client := .pthreadCreate
  caller := .create
  spawned := none
  delegate := ⟨true, joinable, 2⟩
  mThread := false
  taskThread := true
  startResult := none
  stopReturned := false
  deleted := 0
  usedDeleted := false
  runnableDeleted := 0
  usedRunnable := false
  ranAfterStop := false

namespace State

/-- A statement uses the delegate. -/
def touch (s : State) : State :=
  { s with usedDeleted := s.usedDeleted || decide (0 < s.deleted) }

/-- A statement uses the runnable. -/
def touchRunnable (s : State) : State :=
  { s with usedRunnable := s.usedRunnable || decide (0 < s.runnableDeleted) }

/-- `if (mRefCount > 0)`: where `destroy` goes on, or `none` if it returns. -/
def destroyTest (s : State) : Option DestroyPc :=
  if s.delegate.mRefCount > 0 then some .region else none

/-- The region of `destroy`, with what `callDelete` is set to. -/
def destroyRegion (s : State) : State × Bool :=
  ({ s with delegate := { s.delegate with mRefCount := s.delegate.mRefCount - 1 } },
    decide (s.delegate.mRefCount = 1))

def destroyLast (s : State) (callDelete : Bool) : State :=
  if callDelete then { s.touch with deleted := s.deleted + 1 } else s

/-- The call that led to `destroy` returns to the client. -/
def returned (s : State) : State :=
  match s.caller with
  | .create =>
      { s with startResult := some false, client := if s.task then .noThread else .idle }
  | .stop => { s with mThread := false, stopReturned := true, client := .idle }
  | .destructor => { s with mThread := false, stopReturned := true, client := .done }

/-- The next statement of the client, inside a call. -/
def clientStep (s : State) : Option State :=
  match s.client with
  | .setName => some { s.touch with client := .detach }
  | .detach => some { (if s.joinable then s else s.touch) with client := .isRunning }
  | .failed => some { s.touch with delegate := ⟨false, false, 1⟩, client := .isRunning }
  | .isRunning =>
      if s.delegate.mRunnable then
        some { s.touch with mThread := true, startResult := some true, client := .idle }
      else some { s.touch with caller := .create, client := .destroy .test }
  | .noThread => some { s.touchRunnable with taskThread := false, client := .idle }
  | .stopTest =>
      some { s.touch with client := if s.delegate.mRunnable then .stopRunnable else .stopJoinable }
  | .stopRunnable =>
      some { s.touch with
        delegate := { s.delegate with mRunnable := false }
        client := .stopJoinable }
  | .stopJoinable =>
      some { s.touch with
        client := if s.delegate.mJoinable then .stopClear else .destroy .test }
  | .stopClear =>
      some { s.touch with
        delegate := { s.delegate with mJoinable := false }
        client := .stopJoin }
  | .stopJoin =>
      if s.spawned = some .ended then some { s.touch with client := .destroy .test } else none
  | .destroy .test =>
      match s.destroyTest with
      | some pc => some { s.touch with client := .destroy pc }
      | none => some s.touch.returned
  | .destroy .region =>
      some { s.touch.destroyRegion.1 with client := .destroy (.last s.destroyRegion.2) }
  | .destroy (.last callDelete) => some (s.destroyLast callDelete).returned
  | .bye =>
      some { s.touch with client := if s.delegate.mJoinable then .stopTest else .destroy .test }
  | .taskThread => some { s.touchRunnable with client := .taskUnblock s.taskThread }
  | .taskUnblock thread =>
      some { s.touchRunnable with client := if thread then .taskForget else .taskDelete }
  | .taskForget =>
      some { s.touchRunnable with
        taskThread := false
        caller := .destructor
        client := if s.mThread then .bye else .done }
  | .taskDelete =>
      some { s.touchRunnable with runnableDeleted := s.runnableDeleted + 1, client := .done }
  | .pthreadCreate | .idle | .done => none

/-- The next statement of the thread, but for the return of `run()`. -/
def spawnedStep (s : State) (pc : SpawnedPc) : Option State :=
  match pc with
  | .readRunnable =>
      some { s.touch with
        spawned := if s.delegate.mRunnable then some .prerunTest else some (.destroy .test) }
  | .prerunTest =>
      some { s.touch with
        spawned := if s.delegate.mRunnable then some .prerun else some .loopTest }
  | .prerun => some { s.touchRunnable with spawned := some .loopTest }
  | .loopTest =>
      some { s.touch with
        spawned := if s.delegate.mRunnable then some .run else some .postrunTest }
  | .run => none
  | .postrunTest =>
      some { s.touch with
        spawned := if s.delegate.mRunnable then some .postrun else some .clear }
  | .postrun => some { s.touchRunnable with spawned := some .clear }
  | .clear =>
      some { s.touch with
        delegate := { s.delegate with mRunnable := false }
        spawned := some .deleteRunnable }
  | .deleteRunnable =>
      some { s.touchRunnable with
        runnableDeleted := s.runnableDeleted + 1
        spawned := some (.destroy .test) }
  | .destroy .test =>
      match s.destroyTest with
      | some pc => some { s.touch with spawned := some (.destroy pc) }
      | none => some { s.touch with spawned := some .ended }
  | .destroy .region =>
      some { s.touch.destroyRegion.1 with spawned := some (.destroy (.last s.destroyRegion.2)) }
  | .destroy (.last callDelete) =>
      some { s.destroyLast callDelete with spawned := some .ended }
  | .ended => none

end State

/-- What a client that waits for nothing may call. -/
inductive Call where
  /-- `LocThread::stop`. -/
  | stop
  /-- `LocThread::~LocThread`. -/
  | destructor
  /-- `MsgTask::destroy`. -/
  | destroy
deriving DecidableEq, Repr

inductive Action where
  | pthreadCreate (success : Bool)
  | call (c : Call)
  | client
  | spawned
  /-- `run()` returns. -/
  | ran (again : Bool)
deriving DecidableEq, Repr

/-- A `MsgTask` keeps its `LocThread` to itself. -/
def State.call (s : State) : Call → Option State
  | .stop =>
      if s.task then none
      else if s.mThread then some { s with caller := .stop, client := .stopTest }
      else some s
  | .destructor =>
      if s.task then none
      else if s.mThread then some { s with caller := .destructor, client := .bye }
      else some { s with client := .done }
  | .destroy => if s.task then some { s with client := .taskThread } else none

def State.step (s : State) : Action → Option State
  | .pthreadCreate success =>
      if s.client = .pthreadCreate then
        if success then some { s with spawned := some .readRunnable, client := .setName }
        else some { s with client := .failed }
      else none
  | .call c => if s.client = .idle then s.call c else none
  | .client => s.clientStep
  | .spawned => s.spawned.bind s.spawnedStep
  | .ran again =>
      if s.spawned = some .run then
        some { s.touchRunnable with
          ranAfterStop := s.ranAfterStop || (s.stopReturned && s.joinable)
          spawned := if again then some .loopTest else some .postrunTest }
      else none

def Step (s : State) (a : Action) (s' : State) : Prop :=
  s.step a = some s'

/-- Both are through. -/
def State.Finished (s : State) : Prop :=
  (s.client = .done ∨ s.client = .idle ∧ s.mThread = false) ∧
    (s.spawned = none ∨ s.spawned = some .ended)

/-- The delegate is deleted exactly once and not used afterwards. -/
structure DelegateOnce (s : State) : Prop where
  atMost : s.deleted ≤ 1
  unused : s.usedDeleted = false
  finished : s.Finished → s.deleted = 1

/-- So is the runnable of a start that succeeded. -/
structure RunnableOnce (s : State) : Prop where
  atMost : s.runnableDeleted ≤ 1
  unused : s.usedRunnable = false
  finished : s.Finished → s.runnableDeleted = 1

/-- The thread has not left its loop. -/
def SpawnedPc.inLoop : SpawnedPc → Bool
  | .readRunnable | .prerunTest | .prerun | .loopTest | .run => true
  | .postrunTest | .postrun | .clear | .deleteRunnable | .destroy _ | .ended => false

/-- `stop` clears the runnable only after the thread has read it, and the statements of
`MsgTask::destroy` come before the thread leaves its loop. -/
def State.inTime (s : State) (a : Action) : Bool :=
  match a, s.client with
  | .client, .stopRunnable => s.spawned ≠ some .readRunnable
  | .client, .taskThread | .client, .taskUnblock _ | .client, .taskForget =>
      s.spawned.all SpawnedPc.inLoop
  | _, _ => true

end LibraDevice.Utils.LocThread
