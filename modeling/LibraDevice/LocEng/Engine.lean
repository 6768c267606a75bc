import LibraDevice.Ni.Sessions

/-!
The location engine: what its message thread does with the messages of a position session,
with the reports of the modem and with network-initiated requests.
-/

namespace LibraDevice.LocEng

inductive LocPositionMode where
  | invalid
  | standalone
  | msBased
  | msAssisted
  | reserved1
  | reserved2
  | reserved3
  | reserved4
  | reserved5
deriving DecidableEq, Repr

def gpsPositionRecurrencePeriodic : UInt32 := 0
def gpsPositionRecurrenceSingle : UInt32 := 1

def minPossibleFixInterval : UInt32 := 1000

structure LocPosMode where
  mode : LocPositionMode
  recurrence : UInt32
  minInterval : UInt32
  preferredAccuracy : UInt32
  preferredTime : UInt32
  credentials : String
  provider : String
deriving DecidableEq, Repr

/-- The constructor without arguments. -/
def LocPosMode.default : LocPosMode where
  mode := .msBased
  recurrence := gpsPositionRecurrencePeriodic
  minInterval := minPossibleFixInterval
  preferredAccuracy := 50
  preferredTime := 120000
  credentials := ""
  provider := ""

def LocPosMode.invalidate (m : LocPosMode) : LocPosMode :=
  { m with mode := .invalid }

/-- `loc_api_adapter_err`; `LOC_API_ADAPTER_ERR_ENGINE_DOWN` is `phoneOffline`. -/
inductive LocApiErr where
  | success
  | generalFailure
  | unsupported
  | invalidHandle
  | invalidParameter
  | engineBusy
  | phoneOffline
  | timeout
  | serviceNotPresent
  | internal
  | failure
  | unknown
deriving DecidableEq, Repr

inductive LocSessStatus where
  | success
  | intermediate
  | failure
deriving DecidableEq, Repr

inductive GpsStatusValue where
  | none
  | sessionBegin
  | sessionEnd
  | engineOn
  | engineOff
  | other (value : UInt16)
deriving DecidableEq, Repr

inductive LocMuteSession where
  | none
  | wait
  | inSession
deriving DecidableEq, Repr

/-- `accuracyOver` says whether the accuracy, a float, exceeds a threshold; `rawData` is a
pointer. -/
structure UlpLocation where
  hasAccuracy : Bool
  accuracyOver : UInt32 → Bool
  rawData : Option Nat

def gpsNiPrivacyOverride : UInt32 := 4

/-- Which callbacks are there, and the parts of `gps.conf` that are read. -/
structure Config where
  locationCb : Bool
  gnssSvStatusCb : Bool
  statusCb : Bool
  niNotifyCb : Bool
  generateNmea : Bool
  intermediateFix : UInt8
  accuracyThres : UInt32
deriving DecidableEq, Repr

/-- The members of `loc_eng_data_s_type` and of its `LocEngAdapter`; of the network-initiated
sessions only `rawRequest`. -/
structure LocEngData where
  mFixCriteria : LocPosMode
  mNavigating : Bool
  muteSessionState : LocMuteSession
  engineStatus : GpsStatusValue
  fixSessionStatus : GpsStatusValue
  niSession : Option Nat
  niSessionEs : Option Nat
deriving DecidableEq, Repr

/-- The constructor of `LocEngAdapter` clears the criteria. -/
def LocEngData.init : LocEngData where
  mFixCriteria := ⟨.invalid, gpsPositionRecurrencePeriodic, 0, 0, 0, "", ""⟩
  mNavigating := false
  muteSessionState := .none
  engineStatus := .none
  fixSessionStatus := .none
  niSession := none
  niSessionEs := none

/-- Calls of `LocApi` and of the callbacks, and what is freed. -/
inductive Effect where
  | setPositionMode (mode : LocPosMode)
  | startFix (mode : LocPosMode)
  | stopFix
  | setInSession (inSession : Bool)
  | locationCb (fix : Bool)
  | gnssSvStatusCb
  | statusCb (status : GpsStatusValue)
  | niNotifyCb
  | nmeaPos (generate : Bool)
  | nmeaSv
  | freeRawData (p : Nat)
  | freePassThrough (p : Nat)
deriving DecidableEq, Repr

/-- The messages, those that call `startFix` with what `LocApi` returns. -/
inductive Msg where
  | positionMode (mode : LocPosMode)
  | startFix (result : LocApiErr)
  | stopFix
  | reportPosition (location : UlpLocation) (status : LocSessStatus) (techMask : UInt32)
  | reportSv
  | reportStatus (status : GpsStatusValue)
  | requestNi (emergency : Bool) (notifyFlags : UInt32) (passThrough : Option Nat)
  /-- A session is over: `ni_thread_proc` sets its `rawRequest` to NULL. -/
  | niAnswered (emergency : Bool)
  | engineDown
  | engineUp (result : LocApiErr)

namespace LocEngData

/-- `LocEngAdapter::setInSession`. -/
def setInSession (inSession : Bool) (s : LocEngData) : LocEngData × List Effect :=
  ({ s with
      mNavigating := inSession
      mFixCriteria := if inSession then s.mFixCriteria else s.mFixCriteria.invalidate },
    [.setInSession inSession])

/-- `LocEngAdapter::setPositionMode`. -/
def setPositionMode (mode : LocPosMode) (s : LocEngData) : LocEngData × List Effect :=
  ({ s with mFixCriteria := mode }, [.setPositionMode mode])

/-- The results of `startFix` with which `loc_eng_start_handler` goes into session. -/
def accepts : LocApiErr → Bool
  | .success | .phoneOffline | .internal => true
  | _ => false

/-- `loc_eng_start_handler`. -/
def startHandler (result : LocApiErr) (s : LocEngData) : LocEngData × List Effect :=
  if s.mNavigating then (s, [])
  else if accepts result then
    ((s.setInSession true).1, .startFix s.mFixCriteria :: (s.setInSession true).2)
  else (s, [.startFix s.mFixCriteria])

/-- `loc_eng_stop_handler`. -/
def stopHandler (s : LocEngData) : LocEngData × List Effect :=
  if s.mNavigating then ((s.setInSession false).1, .stopFix :: (s.setInSession false).2)
  else (s, [])

/-- `SATELLITE`, `SENSORS` and `HYBRID`. -/
def finalTechMask : UInt32 := 0x89

/-- "this is a final fix", or an intermediate one that is accurate enough. -/
def wanted (cfg : Config) (location : UlpLocation) (status : LocSessStatus) (techMask : UInt32) :
    Bool :=
  (status = .success && finalTechMask &&& techMask != 0) ||
    (cfg.intermediateFix = 1 &&
      !(location.hasAccuracy && cfg.accuracyThres != 0 &&
        location.accuracyOver cfg.accuracyThres))

/-- The position is given to `location_cb`. -/
def reported (cfg : Config) (location : UlpLocation) (status : LocSessStatus)
    (techMask : UInt32) : Bool :=
  cfg.locationCb && (status = .failure || wanted cfg location status techMask)

/-- The reported fix is all the session was for. -/
def singleShot (s : LocEngData) : Bool :=
  s.mFixCriteria.recurrence = gpsPositionRecurrenceSingle

/-- The calls of `LocEngReportPosition::proc`, for a fix with which the session is `ended` or
not. -/
def positionEffects (cfg : Config) (location : UlpLocation) (status : LocSessStatus)
    (isReported ended navigating : Bool) : List Effect :=
  (if isReported then [.locationCb (status ≠ .failure)] else []) ++
  (if ended && status = .intermediate then [.stopFix] else []) ++
  (if ended then [.setInSession false] else []) ++
  (if cfg.generateNmea && navigating then [.nmeaPos (isReported && status ≠ .failure)] else []) ++
  location.rawData.toList.map .freeRawData

/-- `LocEngReportPosition::proc`. -/
def reportPosition (cfg : Config) (location : UlpLocation) (status : LocSessStatus)
    (techMask : UInt32) (s : LocEngData) : LocEngData × List Effect :=
  if s.muteSessionState = .inSession then (s, [])
  else
    let isReported := reported cfg location status techMask
    let ended := isReported && s.singleShot
    let s' := if ended then (s.setInSession false).1 else s
    (s', positionEffects cfg location status isReported ended s'.mNavigating)

/-- `LocEngReportSv::proc`. -/
def reportSv (cfg : Config) (s : LocEngData) : LocEngData × List Effect :=
  if s.muteSessionState = .inSession then (s, [])
  else
    (s, (if cfg.gnssSvStatusCb then [.gnssSvStatusCb] else []) ++
      (if cfg.generateNmea then [.nmeaSv] else []))

def begins (status : GpsStatusValue) : Bool :=
  status = .sessionBegin || status = .engineOn

def ends (status : GpsStatusValue) : Bool :=
  status = .sessionEnd || status = .engineOff

/-- The first two parts of `loc_eng_report_status`. -/
def muteOn (status : GpsStatusValue) (mute : LocMuteSession) : LocMuteSession :=
  let mute := if begins status && mute = .wait then .inSession else mute
  if mute = .inSession && ends status then .none else mute

/-- "Session End is not reported during Android navigating state". -/
def announced (status : GpsStatusValue) (navigating : Bool) : Bool :=
  status ≠ .none && !(status = .sessionEnd && navigating) &&
    !(status = .sessionBegin && !navigating)

/-- `loc_eng_report_status`. -/
def reportStatus (cfg : Config) (status : GpsStatusValue) (s : LocEngData) :
    LocEngData × List Effect :=
  let mute := muteOn status s.muteSessionState
  ({ s with
      muteSessionState := mute
      engineStatus :=
        if status = .engineOn || status = .engineOff then status else s.engineStatus
      fixSessionStatus :=
        if status = .sessionBegin || status = .sessionEnd then status else s.fixSessionStatus },
    if announced status s.mNavigating && mute ≠ .inSession && cfg.statusCb then
      [.statusCb status] else [])

/-- A request is taken, not ignored. -/
def takes (cfg : Config) (emergency : Bool) (s : LocEngData) : Bool :=
  cfg.niNotifyCb && s.niSessionEs.isNone && (emergency || s.niSession.isNone)

/-- `loc_eng_ni_request_handler`. -/
def requestNi (cfg : Config) (emergency : Bool) (notifyFlags : UInt32) (passThrough : Option Nat)
    (s : LocEngData) : LocEngData × List Effect :=
  if s.takes cfg emergency then
    ({ s with
        niSession := if emergency then s.niSession else passThrough
        niSessionEs := if emergency then passThrough else s.niSessionEs
        muteSessionState :=
          if notifyFlags = gpsNiPrivacyOverride then .wait else s.muteSessionState },
      [.niNotifyCb])
  else (s, if cfg.niNotifyCb then passThrough.toList.map .freePassThrough else [])

/-- `loc_eng_ni_reset_on_engine_restart`. -/
def niResetOnEngineRestart (cfg : Config) (s : LocEngData) : LocEngData × List Effect :=
  if cfg.niNotifyCb then
    ({ s with niSession := none, niSessionEs := none },
      (s.niSessionEs.toList ++ s.niSession.toList).map .freePassThrough)
  else (s, [])

/-- `loc_eng_handle_engine_down`. -/
def handleEngineDown (cfg : Config) (s : LocEngData) : LocEngData × List Effect :=
  let reset := s.niResetOnEngineRestart cfg
  let status := reset.1.reportStatus cfg .engineOff
  (status.1, reset.2 ++ status.2)

/-- `loc_eng_handle_engine_up`, the part about the session. -/
def handleEngineUp (result : LocApiErr) (s : LocEngData) : LocEngData × List Effect :=
  if s.mNavigating then
    let left := s.setInSession false
    let started := left.1.startHandler result
    (started.1, left.2 ++ started.2)
  else (s, [])

/-- What the message thread does with a message. -/
def proc (cfg : Config) (s : LocEngData) : Msg → LocEngData × List Effect
  | .positionMode mode => s.setPositionMode mode
  | .startFix result => s.startHandler result
  | .stopFix => s.stopHandler
  | .reportPosition location status techMask => s.reportPosition cfg location status techMask
  | .reportSv => s.reportSv cfg
  | .reportStatus status => s.reportStatus cfg status
  | .requestNi emergency notifyFlags passThrough =>
      s.requestNi cfg emergency notifyFlags passThrough
  | .niAnswered true => ({ s with niSessionEs := none }, [])
  | .niAnswered false => ({ s with niSession := none }, [])
  | .engineDown => s.handleEngineDown cfg
  | .engineUp result => s.handleEngineUp result

/-- The engine knows of the two session records what their `rawRequest` is. -/
structure Sees (s : LocEngData) (ni : Ni.Sys) : Prop where
  session : s.niSession = (ni.data .session).rawRequest
  sessionEs : s.niSessionEs = (ni.data .sessionEs).rawRequest

section

variable {cfg : Config} {s : LocEngData} {ni : Ni.Sys}

theorem Sees.takes (h : s.Sees ni) (hcb : cfg.niNotifyCb = true) (emergency : Bool) :
    s.takes cfg emergency = (ni.sessionFor emergency).isSome := by
  rw [LocEngData.takes, hcb, h.session, h.sessionEs, Ni.Sys.sessionFor]
  cases (ni.data .session).rawRequest <;> cases (ni.data .sessionEs).rawRequest <;>
    cases emergency <;> rfl

theorem rawRequest_accept (ni : Ni.Sys) (pSession : Ni.Session) (timeout : Int)
    (passThrough : Bool) (other : Ni.Session) :
    ((ni.accept pSession timeout passThrough).data other).rawRequest =
      if other = pSession then if passThrough then some ni.accepted.length else none
      else (ni.data other).rawRequest := by
  simp only [Ni.Sys.accept, Function.update_apply]
  split <;> rfl

/-- The request goes to the session that takes it. -/
theorem Sees.request (h : s.Sees ni) (hcb : cfg.niNotifyCb = true) (emergency : Bool)
    (notifyFlags : UInt32) (timeout : Int) (passThrough : Bool) :
    (s.requestNi cfg emergency notifyFlags
      (if passThrough then some ni.accepted.length else none)).1.Sees
        (ni.request emergency timeout passThrough) := by
  rw [requestNi, Ni.Sys.request, h.takes hcb emergency]
  cases hfor : ni.sessionFor emergency with
  | none => exact h
  | some pSession =>
      rw [Option.isSome_some, if_pos rfl]
      cases emergency with
      | true =>
          obtain rfl : pSession = .sessionEs := by
            rw [Ni.Sys.sessionFor, if_pos rfl, Option.ite_none_right_eq_some] at hfor
            exact (Option.some.inj hfor.2).symm
          have hraw := rawRequest_accept ni .sessionEs timeout passThrough
          exact ⟨h.session.trans (hraw .session).symm, (hraw .sessionEs).symm⟩
      | false =>
          obtain rfl : pSession = .session := by
            rw [Ni.Sys.sessionFor, if_neg Bool.false_ne_true, Option.ite_none_right_eq_some] at hfor
            exact (Option.some.inj hfor.2).symm
          have hraw := rawRequest_accept ni .session timeout passThrough
          exact ⟨(hraw .session).symm, h.sessionEs.trans (hraw .sessionEs).symm⟩

theorem rawRequest_reset (pSession : Ni.Session) (ni : Ni.Sys) :
    (∀ other, ((ni.reset pSession).data other).rawRequest =
        if other = pSession then none else (ni.data other).rawRequest) ∧
      (ni.reset pSession).freed = ni.freed ++ (ni.data pSession).rawRequest.toList := by
  rw [Ni.Sys.reset]
  split
  · next hraw =>
      refine ⟨fun other => ?_, by rw [hraw]; exact (List.append_nil _).symm⟩
      split
      · next heq => rw [heq, hraw]
      · rfl
  · next payload hraw =>
      refine ⟨fun other => ?_, by rw [hraw]; rfl⟩
      simp only [Function.update_apply]
      split <;> rfl

/-- The engine goes down: what it frees are the payloads of the sessions. -/
theorem Sees.reset (h : s.Sees ni) (hcb : cfg.niNotifyCb = true) :
    (s.niResetOnEngineRestart cfg).1.Sees ni.resetOnEngineRestart ∧
      ∃ payloads, ni.resetOnEngineRestart.freed = ni.freed ++ payloads ∧
        (s.niResetOnEngineRestart cfg).2 = payloads.map .freePassThrough := by
  obtain ⟨hes, hfreedEs⟩ := rawRequest_reset .sessionEs ni
  obtain ⟨hboth, hfreed⟩ := rawRequest_reset .session (ni.reset .sessionEs)
  rw [niResetOnEngineRestart, if_pos hcb]
  refine ⟨⟨?_, ?_⟩, s.niSessionEs.toList ++ s.niSession.toList, ?_, rfl⟩
  · exact ((hboth .session).trans (if_pos rfl)).symm
  · exact ((hboth .sessionEs).trans ((if_neg (by decide)).trans
      ((hes .sessionEs).trans (if_pos rfl)))).symm
  · change ((ni.reset .sessionEs).reset .session).freed = _
    rw [hfreed, hfreedEs, hes .session, if_neg (by decide), ← h.session, ← h.sessionEs,
      List.append_assoc]

theorem Sees.finish (h : s.Sees ni) (w : Nat) (pSession : Ni.Session) (d : Ni.SessionData) :
    (s.proc cfg (.niAnswered (pSession = .sessionEs))).1.Sees (ni.finish w pSession d) := by
  have hraw : ∀ other, ((ni.finish w pSession d).data other).rawRequest =
      if other = pSession then none else (ni.data other).rawRequest := by
    intro other
    simp only [Ni.Sys.finish, Function.update_apply]
    split <;> rfl
  cases pSession with
  | session => exact ⟨(hraw .session).symm, h.sessionEs.trans (hraw .sessionEs).symm⟩
  | sessionEs => exact ⟨h.session.trans (hraw .session).symm, (hraw .sessionEs).symm⟩

end

end LocEngData

end LibraDevice.LocEng
