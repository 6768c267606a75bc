import LibraDevice.Agps.Steps
import LibraDevice.Lib.StepRun

/-!
The state machine of the emergency data call. Its subscribers fall back to the
ATL when the call is denied; a data service that is busy is asked again, and
the subscriber stays in the list of the Released state meanwhile.
-/

namespace LibraDevice.Agps

open LibraDevice.StepRun

structure DSSubscriber where
  ID : BitVec 32
  mIsInactive : Bool
deriving DecidableEq, Repr

/-- What can be seen of a run: the calls of the clients, and what
`informStatus` and the servicer are made to do. -/
inductive DsEffect
  | subscribed (ID : BitVec 32)
  | unsubscribed (ID : BitVec 32)
  | requestRsrc (action : AGpsStatusValue)
  | atlCloseStatus (ID : BitVec 32)
  | closeDataCall
  | requestATL (ID : BitVec 32)
  | atlOpenStatus (ID : BitVec 32)
deriving DecidableEq, Repr

/-- `DSStateMachine`, with the number of its retry timers that run, the ids of
the requests that its retry callbacks have posted, and the effects so far. -/
structure DSStateMachine where
  mSubscribers : List DSSubscriber
  mState : AgpsState
  mRetries : Nat
  timers : Nat
  requests : List (BitVec 32)
  log : List DsEffect
deriving DecidableEq, Repr

/-- How the start of a data call goes: what `openAndStartDataCall` returns, and
whether `loc_timer_start` starts a timer. -/
structure Start where
  ret : Int
  timer : Bool
deriving DecidableEq, Repr

/-- An event as the states get it. -/
inductive DsEvent
  | subscribe (ID : BitVec 32) (start : Start)
  | unsubscribe (subscriber : DSSubscriber)
  | granted
  | released (start : Start)
  | denied (start : Start)
deriving DecidableEq, Repr

namespace DSStateMachine

def maxStartDataCallRetries : Nat :=
  4

/-- `LOC_API_ADAPTER_ERR_ENGINE_BUSY`. -/
def errEngineBusy : Int :=
  6

/-- `LOC_API_ADAPTER_ERR_UNSUPPORTED`. -/
def errUnsupported : Int :=
  2

def init : DSStateMachine where
  mSubscribers := []
  mState := .released
  mRetries := 0
  timers := 0
  requests := []
  log := []

def emit (effect : DsEffect) (m : DSStateMachine) : DSStateMachine :=
  { m with log := m.log ++ [effect] }

def moveTo (state : AgpsState) (m : DSStateMachine) : DSStateMachine :=
  { m with mState := state }

def hasSubscribers (m : DSStateMachine) : Bool :=
  !m.mSubscribers.isEmpty

/-- The subscriber that a search for the active ones finds. -/
def activeSubscriber (m : DSStateMachine) : Option DSSubscriber :=
  m.mSubscribers.find? fun s => !s.mIsInactive

def hasActiveSubscribers (m : DSStateMachine) : Bool :=
  m.activeSubscriber.isSome

def informStatus (status : AgpsRsrcStatus) (ID : BitVec 32) (m : DSStateMachine) :
    DSStateMachine :=
  match status with
  | .unsubscribe => m.emit (.atlCloseStatus ID)
  | .released => m.emit .closeDataCall
  | .denied => ({ m with mRetries := 0 } : DSStateMachine).emit (.requestATL ID)
  | .granted => m.emit (.atlOpenStatus ID)
  | .subscribe => m
  | .statusMax => m

/-- The subscribers `l` are notified one after the other. -/
def informAll (status : AgpsRsrcStatus) (l : List DSSubscriber) (m : DSStateMachine) :
    DSStateMachine :=
  l.foldl (fun m s => m.informStatus status s.ID) m

/-- `notifySubscribers` of the active ones, which stay in the list. -/
def notifyActive (status : AgpsRsrcStatus) (m : DSStateMachine) : DSStateMachine :=
  m.informAll status (m.mSubscribers.filter fun s => !s.mIsInactive)

/-- `notifySubscribers` with deletion: each search of its loop deletes the first
one that the notification is for. -/
def notifyDeleting (forMe : DSSubscriber → Bool) (status : AgpsRsrcStatus) (m : DSStateMachine) :
    DSStateMachine :=
  let m' := m.informAll status (m.mSubscribers.filter forMe)
  { m' with mSubscribers := m'.mSubscribers.filter fun s => !forMe s }

def addSubscriber (ID : BitVec 32) (m : DSStateMachine) : DSStateMachine :=
  match m.mSubscribers.find? (·.ID = ID) with
  | some _ => m
  | none => { m with mSubscribers := ⟨ID, false⟩ :: m.mSubscribers }

/-- `DSSubscriber::setInactive` of an entry. -/
def setInactive (s : DSSubscriber) (m : DSStateMachine) : DSStateMachine :=
  ({ m with mSubscribers := m.mSubscribers.replace s { s with mIsInactive := true } } :
    DSStateMachine).informStatus .unsubscribe s.ID

/-- The answer of `dataCallCb`. -/
def requestRsrc (action : AGpsStatusValue) (start : Start) : Int :=
  match action with
  | .requestAgpsDataConn => start.ret
  | .releaseAgpsDataConn => 0

/-- `sendRsrcRequest`, with its result. -/
def sendRsrcRequest (action : AGpsStatusValue) (start : Start) (m : DSStateMachine) :
    Int × DSStateMachine :=
  let connHandle := (m.activeSubscriber.map DSSubscriber.ID).getD (-1)
  let m := m.emit (.requestRsrc action)
  let ret := requestRsrc action start
  if ret = errEngineBusy then
    let m := { m with mRetries := m.mRetries + 1 }
    if maxStartDataCallRetries < m.mRetries then
      (ret, m.informStatus .denied connHandle)
    else if start.timer then
      -- the handle of a timer that was started is taken for an error
      (-1, { m with timers := m.timers + 1 })
    else
      (ret, m)
  else if ret = errUnsupported ∨ ret = -1 then
    (ret, m.informStatus .denied connHandle)
  else
    (ret, m)

/-- `AgpsReleasedState::onRsrcEvent`. -/
def releasedOnRsrcEvent (m : DSStateMachine) : DsEvent → DSStateMachine
  | .subscribe ID start =>
      let sent := (m.addSubscriber ID).sendRsrcRequest .requestAgpsDataConn start
      if sent.1 = 0 then sent.2.moveTo .pending else sent.2
  | .unsubscribe s => m.informStatus .unsubscribe s.ID
  | .granted => m
  | .released _ => m
  | .denied _ => m

/-- `RSRC_UNSUBSCRIBE` while the data call is asked for or up. -/
def leave (s : DSSubscriber) (m : DSStateMachine) : DSStateMachine :=
  let m := m.setInactive s
  if !m.hasSubscribers then
    (m.sendRsrcRequest .releaseAgpsDataConn ⟨0, false⟩).2.moveTo .released
  else if !m.hasActiveSubscribers then
    (m.sendRsrcRequest .releaseAgpsDataConn ⟨0, false⟩).2.moveTo .releasing
  else
    m

/-- `AgpsPendingState::onRsrcEvent`. -/
def pendingOnRsrcEvent (m : DSStateMachine) : DsEvent → DSStateMachine
  | .subscribe ID _ => m.addSubscriber ID
  | .unsubscribe s => m.leave s
  | .granted => (m.notifyActive .granted).moveTo .acquired
  | .released _ => m
  | .denied _ => (m.notifyDeleting (fun _ => true) .denied).moveTo .released

/-- `AgpsAcquiredState::onRsrcEvent`. -/
def acquiredOnRsrcEvent (m : DSStateMachine) : DsEvent → DSStateMachine
  | .subscribe ID _ => (m.informStatus .granted ID).addSubscriber ID
  | .unsubscribe s => m.leave s
  | .granted => m
  | .released _ => (m.notifyDeleting (fun _ => true) .released).moveTo .released
  | .denied _ => m

/-- The answer in Releasing. What the new request returns is not looked at. -/
def closed (status : AgpsRsrcStatus) (start : Start) (m : DSStateMachine) : DSStateMachine :=
  let m := m.notifyDeleting (·.mIsInactive) status
  if m.hasActiveSubscribers then
    (m.sendRsrcRequest .requestAgpsDataConn start).2.moveTo .pending
  else
    m.moveTo .released

/-- `AgpsReleasingState::onRsrcEvent`. -/
def releasingOnRsrcEvent (m : DSStateMachine) : DsEvent → DSStateMachine
  | .subscribe ID _ => m.addSubscriber ID
  | .unsubscribe s =>
      let m := m.setInactive s
      if !m.hasSubscribers then m.moveTo .released else m
  | .granted => m
  | .released start => m.closed .released start
  | .denied start => m.closed .denied start

/-- `mStatePtr->onRsrcEvent`. -/
def stateOnRsrcEvent (m : DSStateMachine) (event : DsEvent) : DSStateMachine :=
  match m.mState with
  | .released => m.releasedOnRsrcEvent event
  | .pending => m.pendingOnRsrcEvent event
  | .acquired => m.acquiredOnRsrcEvent event
  | .releasing => m.releasingOnRsrcEvent event

/-- `onRsrcEvent` with `RSRC_RELEASED`: a release that changes no state is
turned into a denial. -/
def onReleased (start : Start) (m : DSStateMachine) : DSStateMachine :=
  let m' := m.stateOnRsrcEvent (.released start)
  if m'.mState ≠ m.mState then m' else m'.stateOnRsrcEvent (.denied start)

def subscribeRsrc (ID : BitVec 32) (start : Start) (m : DSStateMachine) : DSStateMachine :=
  m.stateOnRsrcEvent (.subscribe ID start)

def unsubscribeRsrc (ID : BitVec 32) (m : DSStateMachine) : DSStateMachine :=
  match m.mSubscribers.find? (·.ID = ID) with
  | some s => m.stateOnRsrcEvent (.unsubscribe s)
  | none => m

/-- `retryCallback`: the request for the first active subscriber is posted. -/
def retryCallback (m : DSStateMachine) : DSStateMachine :=
  match m.activeSubscriber with
  | some s => { m with requests := m.requests ++ [s.ID] }
  | none => m

end DSStateMachine

/-- The calls on the machine. `retried` processes the request that a retry
callback has posted. -/
inductive DsCall
  | subscribeRsrc (ID : BitVec 32) (start : Start)
  | unsubscribeRsrc (ID : BitVec 32)
  | granted
  | released (start : Start)
  | denied (start : Start)
  | retryCallback
  | retried (start : Start)
deriving DecidableEq, Repr

namespace DSStateMachine

/-- One call, where it can be made. -/
def call (m : DSStateMachine) : DsCall → Option DSStateMachine
  | .subscribeRsrc ID start => some ((m.emit (.subscribed ID)).subscribeRsrc ID start)
  | .unsubscribeRsrc ID => some ((m.emit (.unsubscribed ID)).unsubscribeRsrc ID)
  | .granted => some (m.stateOnRsrcEvent .granted)
  | .released start => some (m.onReleased start)
  | .denied start => some (m.stateOnRsrcEvent (.denied start))
  | .retryCallback =>
      match m.timers with
      | 0 => none
      | timers + 1 => some (retryCallback { m with timers := timers })
  | .retried start =>
      match m.requests with
      | [] => none
      | ID :: requests => some (subscribeRsrc ID start { m with requests := requests })

def Steps (m : DSStateMachine) (c : DsCall) (m' : DSStateMachine) : Prop :=
  m.call c = some m'

section

variable {m : DSStateMachine} {status : AgpsRsrcStatus} {ID : BitVec 32}

@[simp] theorem informStatus_mSubscribers :
    (m.informStatus status ID).mSubscribers = m.mSubscribers := by
  cases status <;> rfl

@[simp] theorem informStatus_mState : (m.informStatus status ID).mState = m.mState := by
  cases status <;> rfl

@[simp] theorem informAll_mSubscribers (l : List DSSubscriber) :
    (m.informAll status l).mSubscribers = m.mSubscribers := by
  induction l generalizing m with
  | nil => rfl
  | cons s l ih => exact ih.trans informStatus_mSubscribers

end

end DSStateMachine

end LibraDevice.Agps
