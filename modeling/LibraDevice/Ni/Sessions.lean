import LibraDevice.Lib.StepRun
import Mathlib.Logic.Function.Basic

/-!
Network initiated requests: the two session records, the worker thread of each
request that is accepted, and the messages for the adapter.
-/

namespace LibraDevice.Ni

open LibraDevice.StepRun

/-- A `GpsUserResponseType`. -/
abbrev UserResponse : Type :=
  BitVec 32

namespace UserResponse

def accept : UserResponse := 1

def noresp : UserResponse := 3

def ignore : UserResponse := 4

end UserResponse

/-- `LOC_NI_NO_RESPONSE_TIME`, in seconds. -/
def noResponseTime : Int :=
  20

/-- The members of `loc_eng_ni_data_s_type`. -/
inductive Session
  | session
  | sessionEs
deriving DecidableEq, Repr

/-- A `LocEngInformNiResponse`. A payload is known by the number of the request
it came with. -/
structure Msg where
  mResponse : UserResponse
  mPayload : Nat
deriving DecidableEq, Repr

/-- A `loc_eng_ni_session_s_type`. -/
structure SessionData where
  respTimeLeft : Int
  respRecvd : Bool
  rawRequest : Option Nat
  reqID : BitVec 32
  resp : UserResponse
deriving DecidableEq, Repr

namespace SessionData

def init : SessionData where
  respTimeLeft := 0
  respRecvd := false
  rawRequest := none
  reqID := 0
  resp := 0

/-- A response is there for the worker. -/
def respond (d : SessionData) (userResponse : UserResponse) : SessionData :=
  { d with resp := userResponse, respRecvd := true }

/-- What the worker sends. -/
def msg (d : SessionData) : Option Msg :=
  match d.rawRequest with
  | none => none
  | some payload => if d.resp ≠ UserResponse.ignore then some ⟨d.resp, payload⟩ else none

/-- What the worker frees itself. -/
def unsent (d : SessionData) : Option Nat :=
  match d.rawRequest with
  | none => none
  | some payload => if d.resp ≠ UserResponse.ignore then none else some payload

end SessionData

/-- How far a `ni_thread_proc` is: not started, in its timed wait, or past its
critical section, with what it has to send. -/
inductive Phase
  | starting
  | waiting (delay : Int)
  | leaving (msg : Option Msg)
deriving DecidableEq, Repr

structure Worker where
  pSession : Session
  phase : Phase
deriving DecidableEq, Repr

/-- A request that was accepted: its `notification_id`, and whether there was a
payload to pass through. -/
structure Request where
  notificationId : BitVec 32
  passThrough : Bool
deriving DecidableEq, Repr

/-- A call of `loc_eng_ni_respond`, with the number of requests accepted before. -/
structure Call where
  notifId : BitVec 32
  userResponse : UserResponse
  accepted : Nat
deriving DecidableEq, Repr

/-- The state. The last five fields are what has happened: the requests that
were accepted, the calls of `loc_eng_ni_respond`, the workers that have timed
out, the responses given to `informNiResponse` and the payloads freed. -/
structure Sys where
  reqIDCounter : BitVec 32
  data : Session → SessionData
  worker : Nat → Option Worker
  queue : List Msg
  accepted : List Request
  responds : List Call
  timedOut : List Nat
  informed : List Msg
  freed : List Nat

inductive Act
  | request (emergency : Bool) (timeout : Int) (passThrough : Bool)
  | respond (notifId : BitVec 32) (userResponse : UserResponse)
  | resetOnEngineRestart
  | startWaiting (worker : Nat)
  | wakeUp (worker : Nat)
  | timeOut (worker : Nat)
  | leave (worker : Nat)
  | proc
deriving DecidableEq, Repr

namespace Sys

def init : Sys where
  reqIDCounter := 0
  data := fun _ => SessionData.init
  worker := fun _ => none
  queue := []
  accepted := []
  responds := []
  timedOut := []
  informed := []
  freed := []

/-- The session that takes a request. -/
def sessionFor (s : Sys) (emergency : Bool) : Option Session :=
  if emergency then
    if (s.data .sessionEs).rawRequest = none then some .sessionEs else none
  else if (s.data .session).rawRequest = none ∧ (s.data .sessionEs).rawRequest = none then
    some .session
  else none

/-- The session is taken: `loc_eng_ni_request_handler` from there on. -/
def accept (s : Sys) (pSession : Session) (timeout : Int) (passThrough : Bool) : Sys :=
  let reqID := s.reqIDCounter + 1
  { s with
    reqIDCounter := reqID
    data := Function.update s.data pSession
      { s.data pSession with
        rawRequest := if passThrough then some s.accepted.length else none
        reqID := reqID
        respTimeLeft := 5 + if timeout ≠ 0 then timeout else noResponseTime }
    worker := Function.update s.worker s.accepted.length (some ⟨pSession, .starting⟩)
    accepted := s.accepted ++ [⟨reqID, passThrough⟩] }

/-- `loc_eng_ni_request_handler`. The payload of a request that is ignored is
freed there. -/
def request (s : Sys) (emergency : Bool) (timeout : Int) (passThrough : Bool) : Sys :=
  match s.sessionFor emergency with
  | none => s
  | some pSession => s.accept pSession timeout passThrough

/-- The session that a response is for. -/
def activeSession (s : Sys) (notifId : BitVec 32) : Option Session :=
  if notifId = (s.data .sessionEs).reqID ∧ (s.data .sessionEs).rawRequest ≠ none then
    some .sessionEs
  else if notifId = (s.data .session).reqID ∧ (s.data .session).rawRequest ≠ none then
    some .session
  else none

/-- A session that is accepted as emergency ends the other one. -/
def ignoreOther (s : Sys) (pSession : Session) (userResponse : UserResponse) :
    Session → SessionData :=
  if pSession = .sessionEs ∧ userResponse = UserResponse.accept ∧
      (s.data .session).rawRequest ≠ none then
    Function.update s.data .session ((s.data .session).respond UserResponse.ignore)
  else s.data

/-- `loc_eng_ni_respond`. -/
def respond (s : Sys) (notifId : BitVec 32) (userResponse : UserResponse) : Sys :=
  let responds := s.responds ++ [⟨notifId, userResponse, s.accepted.length⟩]
  match s.activeSession notifId with
  | none => { s with responds := responds }
  | some pSession =>
      let data := s.ignoreOther pSession userResponse
      { s with
        responds := responds
        data := Function.update data pSession ((data pSession).respond userResponse) }

/-- The payload is freed and the worker woken. -/
def reset (s : Sys) (pSession : Session) : Sys :=
  match (s.data pSession).rawRequest with
  | none => s
  | some payload =>
      { s with
        data := Function.update s.data pSession
          { s.data pSession with rawRequest := none, respRecvd := true }
        freed := s.freed ++ [payload] }

/-- `loc_eng_ni_reset_on_engine_restart`. -/
def resetOnEngineRestart (s : Sys) : Sys :=
  (s.reset .sessionEs).reset .session

/-- The critical section of the worker `w`, after its wait has left the session
as `d`. -/
def finish (s : Sys) (w : Nat) (pSession : Session) (d : SessionData) : Sys :=
  { s with
    data := Function.update s.data pSession { d with respRecvd := false, rawRequest := none }
    worker := Function.update s.worker w (some ⟨pSession, .leaving d.msg⟩)
    freed := s.freed ++ d.unsent.toList }

/-- One step, where it can be taken. The time of a wait is not modelled: it may
end at any moment. -/
def step (s : Sys) : Act → Option Sys
  | .request emergency timeout passThrough => some (s.request emergency timeout passThrough)
  | .respond notifId userResponse => some (s.respond notifId userResponse)
  | .resetOnEngineRestart => some s.resetOnEngineRestart
  | .startWaiting w =>
      match s.worker w with
      | some ⟨pSession, .starting⟩ =>
          some
            { s with
              worker := Function.update s.worker w
                (some ⟨pSession, .waiting (s.data pSession).respTimeLeft⟩) }
      | _ => none
  | .wakeUp w =>
      match s.worker w with
      | some ⟨pSession, .waiting _⟩ =>
          if (s.data pSession).respRecvd = true then
            some (s.finish w pSession (s.data pSession))
          else none
      | _ => none
  | .timeOut w =>
      match s.worker w with
      | some ⟨pSession, .waiting _⟩ =>
          some
            ({ s with timedOut := s.timedOut ++ [w] }.finish w pSession
              { s.data pSession with resp := UserResponse.noresp })
      | _ => none
  | .leave w =>
      match s.worker w with
      | some ⟨pSession, .leaving msg⟩ =>
          some
            { s with
              data := Function.update s.data pSession
                { s.data pSession with respTimeLeft := 0, reqID := 0 }
              worker := Function.update s.worker w none
              queue := s.queue ++ msg.toList }
      | _ => none
  | .proc =>
      match s.queue with
      | [] => none
      | msg :: queue =>
          some
            { s with
              queue := queue
              informed := s.informed ++ [msg]
              freed := s.freed ++ [msg.mPayload] }

/-- `Steps s a s'`: the step `a` leads from `s` to `s'`. -/
def Steps (s : Sys) (a : Act) (s' : Sys) : Prop :=
  s.step a = some s'

/-- The response is one that was given for the request, or there was none in
time. -/
def Answer (s : Sys) (msg : Msg) : Prop :=
  (msg.mResponse = UserResponse.noresp ∧ msg.mPayload ∈ s.timedOut) ∨
    ∃ request ∈ s.accepted[msg.mPayload]?, ∃ call ∈ s.responds,
      call.notifId = request.notificationId ∧ call.userResponse = msg.mResponse ∧
        msg.mPayload < call.accepted

/-- The payload is neither freed nor on its way to the modem. -/
def Unanswered (s : Sys) (payload : Nat) : Prop :=
  payload ∉ s.freed ∧ payload ∉ s.queue.map Msg.mPayload ∧
    ∀ w pSession msg, s.worker w = some ⟨pSession, .leaving (some msg)⟩ → msg.mPayload ≠ payload

/-- Each request gets its own answer. -/
structure OwnAnswers (s : Sys) : Prop where
  informed_once : (s.informed.map Msg.mPayload).Nodup
  freed_once : s.freed.Nodup
  freed_all : (∀ w, s.worker w = none) → s.queue = [] →
    ∀ payload, ∀ request ∈ s.accepted[payload]?, request.passThrough = true → payload ∈ s.freed
  answer : ∀ msg ∈ s.queue ++ s.informed, s.Answer msg
  active : ∀ payload, ∀ request ∈ s.accepted[payload]?, s.Unanswered payload →
    s.activeSession request.notificationId ≠ none

end Sys

end LibraDevice.Ni
