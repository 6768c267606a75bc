import Mathlib.Data.List.Basic

/-!
The state machine of an AGPS network interface: four states that react to the
calls of the subscribers (clients of the modem (ATL), the BIT daemon and the WIFI
requesters) and to the platform's answers by editing one list of subscribers and
asking the platform for the data call or releasing it.
-/

namespace LibraDevice.Agps

/-- The events and statuses of the resource. -/
inductive AgpsRsrcStatus
  | subscribe
  | unsubscribe
  | granted
  | released
  | denied
  | statusMax
deriving DecidableEq, Repr

inductive AGpsExtType
  | invalid
  | any
  | supl
  | c2k
  | wwanAny
  | wifi
  | suplES
deriving DecidableEq, Repr

inductive AGpsBearerType
  | invalid
  | ipv4
  | ipv6
  | ipv4v6
deriving DecidableEq, Repr

/-- `loc_if_req_sender_id_e_type`. -/
inductive IfReqSenderId
  | quipc
  | msapm
  | msapu
  | gpsoneDaemon
  | modem
  | unknown
deriving DecidableEq, Repr

def IfReqSenderId.toId : IfReqSenderId → BitVec 32
  | .quipc => 0
  | .msapm => 1
  | .msapu => 2
  | .gpsoneDaemon => 3
  | .modem => 4
  | .unknown => 5

def inaddrNone : BitVec 32 := 0xffffffff

abbrev Bytes := List (BitVec 8)

/-- What the comparisons read of a subscriber object: its `ID`, and the sixteen
bytes where a `BITSubscriber` keeps its IPv6 address. -/
structure Memory where
  ID : BitVec 32
  mIPv6Addr : Bytes
deriving DecidableEq, Repr

/-- The string `strncmp` sees in sixteen bytes. -/
def cstr (b : Bytes) : Bytes :=
  (b.take 16).takeWhile (· ≠ 0)

/-- A subscriber. The objects that are no `BITSubscriber` are followed by some
bytes `tail`, which a cast to that class reads as the address. -/
inductive Subscriber
  | bit (ipv4 : BitVec 32) (mIPv6Addr : Bytes)
  | atl (id : BitVec 32) (mBackwardCompatibleMode : Bool) (tail : Bytes)
  | wifi (senderId : IfReqSenderId) (mSSID mPassword : Option String) (mIsInactive : Bool)
      (tail : Bytes)
deriving DecidableEq, Repr

namespace Subscriber

def ID : Subscriber → BitVec 32
  | bit ipv4 _ => ipv4
  | atl id _ _ => id
  | wifi senderId _ _ _ _ => senderId.toId

def memory : Subscriber → Memory
  | bit ipv4 mIPv6Addr => ⟨ipv4, mIPv6Addr⟩
  | atl id _ tail => ⟨id, tail⟩
  | wifi senderId _ _ _ tail => ⟨senderId.toId, tail⟩

def equals (s : Subscriber) (m : Memory) : Bool :=
  match s with
  | bit ipv4 mIPv6Addr =>
      ipv4 = m.ID && (ipv4 ≠ inaddrNone || cstr mIPv6Addr = cstr m.mIPv6Addr)
  | atl id _ _ => id = m.ID
  | wifi senderId _ _ _ _ => senderId.toId = m.ID

def waitForCloseComplete : Subscriber → Bool
  | wifi _ _ _ _ _ => true
  | _ => false

def setInactive : Subscriber → Subscriber
  | wifi senderId mSSID mPassword _ tail => wifi senderId mSSID mPassword true tail
  | s => s

def isInactive : Subscriber → Bool
  | wifi _ _ _ mIsInactive _ => mIsInactive
  | _ => false

/-- `clone`: a new object, in front of other bytes. -/
def clone (s : Subscriber) (tail : Bytes) : Subscriber :=
  match s with
  | bit ipv4 mIPv6Addr => bit ipv4 mIPv6Addr
  | atl id mBackwardCompatibleMode _ => atl id mBackwardCompatibleMode tail
  | wifi senderId mSSID mPassword _ _ => wifi senderId mSSID mPassword false tail

/-- `setWifiInfo`. -/
def wifiInfo : Subscriber → String × String
  | wifi _ mSSID mPassword _ _ => (mSSID.getD "", mPassword.getD "")
  | _ => ("", "")

end Subscriber

/-- Whom a notification is for. -/
inductive Target
  | rcver (m : Memory)
  | broadcastAll
  | broadcastActive
  | broadcastInactive
deriving DecidableEq, Repr

def Subscriber.forMe (target : Target) (s : Subscriber) : Bool :=
  match target with
  | .rcver m => s.equals m
  | .broadcastAll => true
  | .broadcastActive => !s.isInactive
  | .broadcastInactive => s.isInactive

inductive IfStatus
  | releaseSuccess
  | failure
  | requestSuccess
deriving DecidableEq, Repr

/-- What a subscriber tells its client. -/
inductive Message
  | serverDataConn (sender : IfReqSenderId) (status : IfStatus)
  | atlCloseStatus (handle : BitVec 32) (isSucc : Bool)
  | atlOpenStatus (handle : BitVec 32) (isSucc : Bool) (apn : Option String)
      (bearer : AGpsBearerType) (agpsType : AGpsExtType)
deriving DecidableEq, Repr

/-- What the state machine keeps of the network interface. -/
structure Nif where
  mType : AGpsExtType
  mAPN : Option String
  mBearer : AGpsBearerType
deriving DecidableEq, Repr

/-- The switch of `notifyRsrcStatus`: none where the status is not taken, else
the message, if there is one. -/
def Subscriber.message (nif : Nif) (status : AgpsRsrcStatus) :
    Subscriber → Option (Option Message)
  | bit _ _ =>
      match status with
      | .unsubscribe => some (some (.serverDataConn .gpsoneDaemon .releaseSuccess))
      | .released => some (some (.serverDataConn .gpsoneDaemon .releaseSuccess))
      | .denied => some (some (.serverDataConn .gpsoneDaemon .failure))
      | .granted => some (some (.serverDataConn .gpsoneDaemon .requestSuccess))
      | _ => none
  | atl id mBackwardCompatibleMode _ =>
      let type := if mBackwardCompatibleMode then AGpsExtType.invalid else nif.mType
      match status with
      | .unsubscribe => some (some (.atlCloseStatus id true))
      | .released => some (some (.atlCloseStatus id true))
      | .denied => some (some (.atlOpenStatus id false nif.mAPN nif.mBearer type))
      | .granted => some (some (.atlOpenStatus id true nif.mAPN nif.mBearer type))
      | _ => none
  | wifi senderId _ _ _ _ =>
      match status with
      | .unsubscribe => some none
      | .released => some (some (.serverDataConn senderId .releaseSuccess))
      | .denied => some (some (.serverDataConn senderId .failure))
      | .granted => some (some (.serverDataConn senderId .requestSuccess))
      | _ => none

/-- `notifyRsrcStatus`, as the answer of the function. -/
def Subscriber.takes (nif : Nif) (target : Target) (status : AgpsRsrcStatus) (s : Subscriber) :
    Bool :=
  s.forMe target && (s.message nif status).isSome

/-- The statuses that every subscriber takes. -/
def AgpsRsrcStatus.Told : AgpsRsrcStatus → Prop
  | .subscribe => False
  | .statusMax => False
  | _ => True

theorem Subscriber.takes_eq {nif : Nif} {target : Target} {status : AgpsRsrcStatus}
    (h : status.Told) (s : Subscriber) : s.takes nif target status = s.forMe target := by
  have hm : (s.message nif status).isSome = true := by
    cases s <;> cases status <;> first | rfl | exact h.elim
  rw [takes, hm, Bool.and_true]

namespace Subscriber

@[simp] theorem memory_ID (s : Subscriber) : s.memory.ID = s.ID := by
  cases s <;> rfl

theorem equals_memory (s : Subscriber) : s.equals s.memory = true := by
  cases s <;> simp [equals, memory]

theorem ID_of_equals {s : Subscriber} {m : Memory} (h : s.equals m = true) : s.ID = m.ID := by
  cases s with
  | bit ipv4 addr =>
      simp only [equals, Bool.and_eq_true, decide_eq_true_eq] at h
      exact h.1
  | atl id mode tail => exact of_decide_eq_true h
  | wifi sender ssid password inactive tail => exact of_decide_eq_true h

/-- Only a BIT subscriber without an IPv4 address may differ from a subscriber
of the same id. -/
theorem equals_of_ID {s : Subscriber} {m : Memory} (h : s.ID = m.ID) (hne : m.ID ≠ inaddrNone) :
    s.equals m = true := by
  cases s with
  | bit ipv4 addr =>
      have hid : ipv4 = m.ID := h
      have hip : ipv4 ≠ inaddrNone := hid ▸ hne
      simp [equals, hid, hne]
  | atl id mode tail => exact decide_eq_true h
  | wifi sender ssid password inactive tail => exact decide_eq_true h

@[simp] theorem clone_ID (s : Subscriber) (tail : Bytes) : (s.clone tail).ID = s.ID := by
  cases s <;> rfl

@[simp] theorem clone_isInactive (s : Subscriber) (tail : Bytes) :
    (s.clone tail).isInactive = false := by
  cases s <;> rfl

@[simp] theorem setInactive_ID (s : Subscriber) : s.setInactive.ID = s.ID := by
  cases s <;> rfl

theorem setInactive_isInactive {s : Subscriber} (h : s.waitForCloseComplete = true) :
    s.setInactive.isInactive = true := by
  cases s with
  | wifi sender ssid password inactive tail => rfl
  | bit ipv4 addr => cases h
  | atl id mode tail => cases h

theorem waits_of_isInactive {s : Subscriber} (h : s.isInactive = true) :
    s.waitForCloseComplete = true := by
  cases s with
  | wifi sender ssid password inactive tail => rfl
  | bit ipv4 addr => cases h
  | atl id mode tail => cases h

theorem ID_ne_of_waits {s : Subscriber} (h : s.waitForCloseComplete = true) :
    s.ID ≠ inaddrNone := by
  cases s with
  | wifi sender ssid password inactive tail =>
      change sender.toId ≠ inaddrNone
      cases sender <;> decide
  | bit ipv4 addr => cases h
  | atl id mode tail => cases h

end Subscriber

inductive AgpsState
  | released
  | pending
  | acquired
  | releasing
deriving DecidableEq, Repr

/-- The two requests to the platform. -/
inductive AGpsStatusValue
  | requestAgpsDataConn
  | releaseAgpsDataConn
deriving DecidableEq, Repr

/-- `AGpsExtStatus`: `ipv4_addr` and `inet6` (the family of `addr`) are set on
different branches. -/
structure AGpsExtStatus where
  type : AGpsExtType
  status : AGpsStatusValue
  ipv4Addr : Option (BitVec 32)
  inet6 : Bool
  ssid : String
  password : String
deriving DecidableEq, Repr

/-- What can be seen of a run: the calls with their outcome, the events as the
states process them, the notifications and the requests. -/
inductive Effect
  | subscribed (subscriber : Subscriber) (accepted : Bool)
  | unsubscribed (subscriber : Subscriber) (found : Bool)
  | processed (state : AgpsState) (event : AgpsRsrcStatus)
  | notified (subscriber : Subscriber) (status : AgpsRsrcStatus) (message : Option Message)
  | requested (nifRequest : AGpsExtStatus)
deriving DecidableEq, Repr

/-- `AgpsStateMachine`, with the effects so far. The head of the list of
subscribers is the one added last. -/
structure AgpsStateMachine where
  mSubscribers : List Subscriber
  mState : AgpsState
  mEnforceSingleSubscriber : Bool
  nif : Nif
  log : List Effect
deriving DecidableEq, Repr

/-- An event as the states get it: with the subscriber that subscribes and the
bytes behind its clone, or with the listed subscriber that unsubscribes and
what the memory of that entry reads as once it is freed and so many entries
are left. -/
inductive RsrcEvent
  | subscribe (subscriber : Subscriber) (tail : Bytes)
  | unsubscribe (subscriber : Subscriber) (freed : Nat → Memory)
  | granted
  | released
  | denied

def RsrcEvent.status : RsrcEvent → AgpsRsrcStatus
  | .subscribe _ _ => .subscribe
  | .unsubscribe _ _ => .unsubscribe
  | .granted => .granted
  | .released => .released
  | .denied => .denied

namespace AgpsStateMachine

def init (mEnforceSingleSubscriber : Bool) (nif : Nif) : AgpsStateMachine where
  mSubscribers := []
  mState := .released
  mEnforceSingleSubscriber := mEnforceSingleSubscriber
  nif := nif
  log := []

def emit (effects : List Effect) (m : AgpsStateMachine) : AgpsStateMachine :=
  { m with log := m.log ++ effects }

def moveTo (state : AgpsState) (m : AgpsStateMachine) : AgpsStateMachine :=
  { m with mState := state }

def hasSubscribers (m : AgpsStateMachine) : Bool :=
  !m.mSubscribers.isEmpty

def hasActiveSubscribers (m : AgpsStateMachine) : Bool :=
  (m.mSubscribers.find? (·.forMe .broadcastActive)).isSome

/-- The effect of `notifyRsrcStatus` on a subscriber that takes the status. -/
def notice (nif : Nif) (status : AgpsRsrcStatus) (s : Subscriber) : Effect :=
  .notified s status ((s.message nif status).getD none)

/-- `notifySubscribers` where the subscribers stay in the list. -/
def notifyKeeping (target : Target) (status : AgpsRsrcStatus) (m : AgpsStateMachine) :
    AgpsStateMachine :=
  m.emit ((m.mSubscribers.filter (·.takes m.nif target status)).map (notice m.nif status))

/-- The loop of `notifySubscribers` where they are deleted: each search stops
at the first subscriber that takes the notification. `target` says whom the
notification names, which is read again in every search. -/
def notifyDeleting (target : List Subscriber → Target) (status : AgpsRsrcStatus) :
    Nat → AgpsStateMachine → AgpsStateMachine
  | 0, m => m
  | n + 1, m =>
      match m.mSubscribers.find? (·.takes m.nif (target m.mSubscribers) status) with
      | none => m
      | some s =>
          notifyDeleting target status n
            (({ m with
              mSubscribers :=
                m.mSubscribers.eraseP (·.takes m.nif (target m.mSubscribers) status) } :
              AgpsStateMachine).emit [notice m.nif status s])

/-- A broadcast with `postNotifyDelete`. -/
def broadcastDeleting (target : Target) (status : AgpsRsrcStatus) (m : AgpsStateMachine) :
    AgpsStateMachine :=
  m.notifyDeleting (fun _ => target) status m.mSubscribers.length

/-- The notification to the listed subscriber `s`, with `postNotifyDelete`: the
loop goes on searching for the one that `s` names after `s` is deleted. -/
def notifyDeletingOne (s : Subscriber) (freed : Nat → Memory) (status : AgpsRsrcStatus)
    (m : AgpsStateMachine) : AgpsStateMachine :=
  m.notifyDeleting
    (fun l => .rcver (if s ∈ l then s.memory else freed l.length)) status m.mSubscribers.length

def addSubscriber (s : Subscriber) (tail : Bytes) (m : AgpsStateMachine) : AgpsStateMachine :=
  match m.mSubscribers.find? (·.forMe (.rcver s.memory)) with
  | some _ => m
  | none => { m with mSubscribers := s.clone tail :: m.mSubscribers }

/-- The request `sendRsrcRequest` fills in. -/
def nifRequest (m : AgpsStateMachine) (action : AGpsStatusValue) (s : Option Subscriber) :
    AGpsExtStatus where
  type := m.nif.mType
  status := action
  ipv4Addr := if s.isNone then some inaddrNone else none
  inet6 := s.isSome
  ssid := (s.map (·.wifiInfo.1)).getD ""
  password := (s.map (·.wifiInfo.2)).getD ""

def sendRsrcRequest (action : AGpsStatusValue) (m : AgpsStateMachine) : AgpsStateMachine :=
  let s := m.mSubscribers.find? (·.forMe .broadcastActive)
  if s.isNone = decide (action = .releaseAgpsDataConn) then
    m.emit [.requested (m.nifRequest action s)]
  else
    m

/-- The first part of `RSRC_UNSUBSCRIBE`, in every state but Released: the
subscriber waits for the close as an inactive entry, or is told and deleted. -/
def leave (s : Subscriber) (freed : Nat → Memory) (m : AgpsStateMachine) : AgpsStateMachine :=
  if s.waitForCloseComplete then
    { m with mSubscribers := m.mSubscribers.replace s s.setInactive }
  else
    m.notifyDeletingOne s freed .unsubscribe

/-- The second part of `RSRC_UNSUBSCRIBE` while the data call is asked for or
up. -/
def afterLeave (m : AgpsStateMachine) : AgpsStateMachine :=
  if !m.hasSubscribers then
    (m.moveTo .released).sendRsrcRequest .releaseAgpsDataConn
  else if !m.hasActiveSubscribers then
    (m.moveTo .releasing).sendRsrcRequest .releaseAgpsDataConn
  else
    m

/-- `AgpsReleasedState::onRsrcEvent`. -/
def releasedOnRsrcEvent (m : AgpsStateMachine) : RsrcEvent → AgpsStateMachine
  | .subscribe s tail =>
      ((m.addSubscriber s tail).sendRsrcRequest .requestAgpsDataConn).moveTo .pending
  | .unsubscribe s _ => m.emit [notice m.nif .unsubscribe s]
  | .granted => m
  | .released => m
  | .denied => m

/-- `AgpsPendingState::onRsrcEvent`. -/
def pendingOnRsrcEvent (m : AgpsStateMachine) : RsrcEvent → AgpsStateMachine
  | .subscribe s tail => m.addSubscriber s tail
  | .unsubscribe s freed => (m.leave s freed).afterLeave
  | .granted => (m.notifyKeeping .broadcastActive .granted).moveTo .acquired
  | .released => m
  | .denied => (m.broadcastDeleting .broadcastAll .denied).moveTo .released

/-- `AgpsAcquiredState::onRsrcEvent`. -/
def acquiredOnRsrcEvent (m : AgpsStateMachine) : RsrcEvent → AgpsStateMachine
  | .subscribe s tail => (m.emit [notice m.nif .granted s]).addSubscriber s tail
  | .unsubscribe s freed => (m.leave s freed).afterLeave
  | .granted => m
  | .released => (m.broadcastDeleting .broadcastAll .released).moveTo .released
  | .denied => m

/-- The answer in Releasing, a denial included: the inactive subscribers are
told and deleted, and the active ones get a new request. -/
def closed (status : AgpsRsrcStatus) (m : AgpsStateMachine) : AgpsStateMachine :=
  let m := m.broadcastDeleting .broadcastInactive status
  if m.hasActiveSubscribers then
    (m.moveTo .pending).sendRsrcRequest .requestAgpsDataConn
  else
    m.moveTo .released

/-- `AgpsReleasingState::onRsrcEvent`. -/
def releasingOnRsrcEvent (m : AgpsStateMachine) : RsrcEvent → AgpsStateMachine
  | .subscribe s tail => m.addSubscriber s tail
  | .unsubscribe s freed =>
      let m := m.leave s freed
      if !m.hasSubscribers then m.moveTo .released else m
  | .granted => m
  | .released => m.closed .released
  | .denied => m.closed .denied

/-- `mStatePtr->onRsrcEvent`. -/
def onRsrcEvent (m : AgpsStateMachine) (event : RsrcEvent) : AgpsStateMachine :=
  let m' := m.emit [.processed m.mState event.status]
  match m.mState with
  | .released => m'.releasedOnRsrcEvent event
  | .pending => m'.pendingOnRsrcEvent event
  | .acquired => m'.acquiredOnRsrcEvent event
  | .releasing => m'.releasingOnRsrcEvent event

/-- `mEnforceSingleSubscriber` refuses a second subscriber. -/
def refuses (m : AgpsStateMachine) : Bool :=
  m.mEnforceSingleSubscriber && m.hasSubscribers

def subscribeRsrc (s : Subscriber) (tail : Bytes) (m : AgpsStateMachine) : AgpsStateMachine :=
  if m.refuses then
    m.emit [.subscribed s false, notice m.nif .denied s]
  else
    (m.emit [.subscribed s true]).onRsrcEvent (.subscribe s tail)

/-- The entry `unsubscribeRsrc` finds. -/
def entryOf (m : AgpsStateMachine) (s : Subscriber) : Option Subscriber :=
  m.mSubscribers.find? (·.forMe (.rcver s.memory))

def unsubscribeRsrc (s : Subscriber) (freed : Nat → Memory) (m : AgpsStateMachine) :
    AgpsStateMachine :=
  match m.entryOf s with
  | none => m.emit [.unsubscribed s false]
  | some entry => (m.emit [.unsubscribed s true]).onRsrcEvent (.unsubscribe entry freed)

end AgpsStateMachine

/-- The calls on the machine. -/
inductive Call
  | subscribeRsrc (s : Subscriber) (tail : Bytes)
  | unsubscribeRsrc (s : Subscriber) (freed : Nat → Memory)
  | granted
  | released
  | denied

def AgpsStateMachine.call (m : AgpsStateMachine) : Call → AgpsStateMachine
  | .subscribeRsrc s tail => m.subscribeRsrc s tail
  | .unsubscribeRsrc s freed => m.unsubscribeRsrc s freed
  | .granted => m.onRsrcEvent .granted
  | .released => m.onRsrcEvent .released
  | .denied => m.onRsrcEvent .denied

/-- The machine after a sequence of calls. -/
def AgpsStateMachine.run (m : AgpsStateMachine) (calls : List Call) : AgpsStateMachine :=
  calls.foldl AgpsStateMachine.call m

end LibraDevice.Agps
