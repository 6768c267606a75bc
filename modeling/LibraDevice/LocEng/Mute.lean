import LibraDevice.Lib.StepRun
import LibraDevice.LocEng.Engine

/-!
Privacy override: the intervals in which reports are to be muted, beside what the engine
does.
-/

namespace LibraDevice.LocEng

open StepRun Watch

/-- The override is accepted with the request. -/
def LocEngData.overrides (cfg : Config) (s : LocEngData) : Msg → Bool
  | .requestNi emergency notifyFlags _ =>
      s.takes cfg emergency && notifyFlags = gpsNiPrivacyOverride
  | _ => false

/-- The status a message stands for. -/
def Msg.status : Msg → Option GpsStatusValue
  | .reportStatus status => some status
  | .engineDown => some .engineOff
  | _ => none

/-- What a position report has to be freed. -/
def Msg.rawData : Msg → Option Nat
  | .reportPosition location _ _ => location.rawData
  | _ => none

/-- Whether an override waits for its interval, whether this is one, and how many there were
of both. -/
structure Muting where
  pending : Bool
  inside : Bool
  overrides : Nat
  intervals : Nat
deriving DecidableEq, Repr

namespace Muting

def init : Muting := ⟨false, false, 0, 0⟩

/-- The first begin after an override opens an interval, the next end closes it. -/
def status (status : GpsStatusValue) (m : Muting) : Muting :=
  let m :=
    if LocEngData.begins status && m.pending then
      { m with pending := false, inside := true, intervals := m.intervals + 1 }
    else m
  if LocEngData.ends status then { m with inside := false } else m

def watch (cfg : Config) (m : Muting) (s : LocEngData) (msg : Msg) : Muting :=
  if s.overrides cfg msg then { m with pending := true, overrides := m.overrides + 1 }
  else
    match msg.status with
    | some status => m.status status
    | none => m

end Muting

/-- The callbacks that reports are given to. -/
def Effect.isCallback : Effect → Bool
  | .locationCb _ | .gnssSvStatusCb | .statusCb _ => true
  | _ => false

def Effect.freedRawData : Effect → Option Nat
  | .freeRawData p => some p
  | _ => none

/-- What the engine did with a message, and what it would have done unmuted; `inside` is
about the time after the message. -/
structure Answer where
  msg : Msg
  inside : Bool
  effects : List Effect
  unmuted : List Effect

/-- Inside an interval nothing is reported, outside all that would be without muting; raw
data is freed once. -/
structure Answer.Right (r : Answer) : Prop where
  muted : r.inside = true → r.effects.filter Effect.isCallback = []
  heard : r.inside = false →
    r.effects.filter Effect.isCallback = r.unmuted.filter Effect.isCallback
  freed : r.effects.filterMap Effect.freedRawData = r.msg.rawData.toList

/-- The engine, with the intervals beside it. -/
def muteWatcher (cfg : Config) : Watcher LocEngData Muting Msg Effect Answer where
  react := LocEngData.proc cfg
  watch m s msg _ := m.watch cfg s msg
  record m s msg es :=
    ⟨msg, m.inside, es, (LocEngData.proc cfg { s with muteSessionState := .none } msg).2⟩

abbrev MuteState := Watched LocEngData Muting Answer

/-- No override is accepted inside an interval, and no position with raw data is reported
there. -/
def Unhurried (cfg : Config) (s : MuteState) (msg : Msg) : Prop :=
  s.seen.inside = true → s.prog.overrides cfg msg = false ∧ msg.rawData = none

instance instDecidableUnhurried (cfg : Config) (s : MuteState) (msg : Msg) :
    Decidable (Unhurried cfg s msg) :=
  inferInstanceAs (Decidable (_ → _))

namespace LocEngData

variable {cfg : Config} {s : LocEngData}

theorem startHandler_mute (result : LocApiErr) :
    (s.startHandler result).1.muteSessionState = s.muteSessionState := by
  rw [startHandler]
  split
  · rfl
  · split <;> rfl

theorem proc_mute (cfg : Config) (s : LocEngData) (msg : Msg) :
    (s.proc cfg msg).1.muteSessionState =
    if s.overrides cfg msg then .wait
    else
      match msg.status with
      | some status => muteOn status s.muteSessionState
      | none => s.muteSessionState := by
  cases msg with
  | positionMode mode => rfl
  | startFix result => exact startHandler_mute result
  | stopFix =>
      change (s.stopHandler).1.muteSessionState = s.muteSessionState
      rw [stopHandler]
      split <;> rfl
  | reportPosition location status techMask =>
      change (s.reportPosition cfg location status techMask).1.muteSessionState =
        s.muteSessionState
      rw [reportPosition]
      split
      · rfl
      · simp only
        split <;> rfl
  | reportSv =>
      change (s.reportSv cfg).1.muteSessionState = s.muteSessionState
      rw [reportSv]
      split <;> rfl
  | reportStatus status => rfl
  | requestNi emergency notifyFlags passThrough =>
      change (s.requestNi cfg emergency notifyFlags passThrough).1.muteSessionState = _
      rw [requestNi, overrides]
      cases s.takes cfg emergency with
      | true => simp [Msg.status]
      | false => simp [Msg.status]
  | niAnswered emergency =>
      cases emergency with
      | true => rfl
      | false => rfl
  | engineDown =>
      change (s.handleEngineDown cfg).1.muteSessionState = muteOn .engineOff s.muteSessionState
      change muteOn .engineOff (s.niResetOnEngineRestart cfg).1.muteSessionState = _
      rw [niResetOnEngineRestart]
      split <;> rfl
  | engineUp result =>
      change (s.handleEngineUp result).1.muteSessionState = s.muteSessionState
      rw [handleEngineUp]
      split
      · exact startHandler_mute result
      · rfl

theorem filter_freePassThrough (ps : List Nat) :
    (ps.map Effect.freePassThrough).filter Effect.isCallback = [] ∧
      (ps.map Effect.freePassThrough).filterMap Effect.freedRawData = [] := by
  induction ps with
  | nil => exact ⟨rfl, rfl⟩
  | cons p ps ih => exact ih

theorem startHandler_silent (result : LocApiErr) :
    (s.startHandler result).2.filter Effect.isCallback = [] ∧
      (s.startHandler result).2.filterMap Effect.freedRawData = [] := by
  rw [startHandler]
  split
  · exact ⟨rfl, rfl⟩
  · split <;> exact ⟨rfl, rfl⟩

theorem proc_silent (cfg : Config) (s : LocEngData) {msg : Msg} (hstatus : msg.status = none)
    (hposition : ∀ l st t, msg ≠ .reportPosition l st t) (hsv : msg ≠ .reportSv) :
    (s.proc cfg msg).2.filter Effect.isCallback = [] ∧
      (s.proc cfg msg).2.filterMap Effect.freedRawData = [] := by
  cases msg with
  | positionMode mode => exact ⟨rfl, rfl⟩
  | startFix result => exact startHandler_silent result
  | stopFix =>
      change (s.stopHandler).2.filter _ = [] ∧ (s.stopHandler).2.filterMap _ = []
      rw [stopHandler]
      split <;> exact ⟨rfl, rfl⟩
  | reportPosition location status techMask => exact absurd rfl (hposition _ _ _)
  | reportSv => exact absurd rfl hsv
  | reportStatus status => cases hstatus
  | requestNi emergency notifyFlags passThrough =>
      change (s.requestNi cfg emergency notifyFlags passThrough).2.filter _ = [] ∧
        (s.requestNi cfg emergency notifyFlags passThrough).2.filterMap _ = []
      rw [requestNi]
      split
      · exact ⟨rfl, rfl⟩
      · split
        · exact filter_freePassThrough _
        · exact ⟨rfl, rfl⟩
  | niAnswered emergency =>
      cases emergency with
      | true => exact ⟨rfl, rfl⟩
      | false => exact ⟨rfl, rfl⟩
  | engineDown => cases hstatus
  | engineUp result =>
      change (s.handleEngineUp result).2.filter _ = [] ∧
        (s.handleEngineUp result).2.filterMap _ = []
      rw [handleEngineUp]
      split
      · exact startHandler_silent result
      · exact ⟨rfl, rfl⟩

theorem reportPosition_muted (location : UlpLocation) (status : LocSessStatus) (techMask : UInt32)
    (h : s.muteSessionState = .inSession) :
    s.reportPosition cfg location status techMask = (s, []) := by
  rw [reportPosition, if_pos h]

theorem navigating_over (ended : Bool) (s : LocEngData) :
    (if ended then (s.setInSession false).1 else s).mNavigating = (s.mNavigating && !ended) := by
  cases ended with
  | true => exact (Bool.and_false _).symm
  | false => exact (Bool.and_true _).symm

theorem reportPosition_heard (location : UlpLocation) (status : LocSessStatus) (techMask : UInt32)
    (h : s.muteSessionState ≠ .inSession) :
    (s.reportPosition cfg location status techMask).2 =
      ({ s with muteSessionState := .none }.reportPosition cfg location status techMask).2 := by
  rw [reportPosition, reportPosition, if_neg h, if_neg (by simp)]
  simp only [navigating_over]
  rfl

theorem positionEffects_frees (location : UlpLocation) (status : LocSessStatus)
    (isReported ended navigating : Bool) :
    (positionEffects cfg location status isReported ended navigating).filterMap
      Effect.freedRawData = location.rawData.toList := by
  have hraw : (location.rawData.toList.map Effect.freeRawData).filterMap Effect.freedRawData =
      location.rawData.toList := by
    cases location.rawData with
    | none => rfl
    | some p => rfl
  have hite : ∀ (b : Bool) (e : Effect), e.freedRawData = none →
      (if b then [e] else []).filterMap Effect.freedRawData = [] := by
    intro b e he
    cases b with
    | true => simp [he]
    | false => rfl
  rw [positionEffects]
  simp only [List.filterMap_append, hraw]
  rw [hite _ _ rfl, hite _ _ rfl, hite _ _ rfl, hite _ _ rfl]
  rfl

theorem reportPosition_frees (location : UlpLocation) (status : LocSessStatus) (techMask : UInt32)
    (h : s.muteSessionState ≠ .inSession) :
    (s.reportPosition cfg location status techMask).2.filterMap Effect.freedRawData =
      location.rawData.toList := by
  rw [reportPosition, if_neg h]
  exact positionEffects_frees _ _ _ _ _

theorem reportStatus_muted {status : GpsStatusValue}
    (h : muteOn status s.muteSessionState = .inSession) : (s.reportStatus cfg status).2 = [] := by
  simp [reportStatus, h]

theorem reportStatus_heard {status : GpsStatusValue}
    (h : muteOn status s.muteSessionState ≠ .inSession) :
    (s.reportStatus cfg status).2 =
      ({ s with muteSessionState := .none }.reportStatus cfg status).2 := by
  have hnone : muteOn status .none = .none := by
    rw [muteOn]
    simp
  simp [reportStatus, h, hnone]

theorem reportStatus_frees (status : GpsStatusValue) :
    (s.reportStatus cfg status).2.filterMap Effect.freedRawData = [] := by
  rw [reportStatus]
  simp only
  split <;> rfl

end LocEngData

/-- The mute state follows the intervals, and every interval has an override of its own. -/
structure Agrees (s : LocEngData) (m : Muting) : Prop where
  state : s.muteSessionState =
    if m.inside then .inSession else if m.pending then .wait else .none
  single : m.inside = true → m.pending = false
  count : m.intervals + (if m.pending then 1 else 0) ≤ m.overrides

variable {cfg : Config} {s : LocEngData} {m : Muting}

theorem Agrees.muted_iff (h : Agrees s m) : s.muteSessionState = .inSession ↔ m.inside = true := by
  rw [h.state]
  cases m.inside with
  | true => exact iff_of_true rfl rfl
  | false => cases m.pending <;> exact iff_of_false (by simp) (by simp)

theorem not_begins_and_ends (status : GpsStatusValue) :
    LocEngData.begins status = true → LocEngData.ends status = false := by
  cases status <;> simp [LocEngData.begins, LocEngData.ends]

theorem Agrees.status (h : Agrees s m) (status : GpsStatusValue) {s' : LocEngData}
    (hs : s'.muteSessionState = LocEngData.muteOn status s.muteSessionState) :
    Agrees s' (m.status status) := by
  obtain ⟨hstate, hsingle, hcount⟩ := h
  have hnot := not_begins_and_ends status
  cases hb : LocEngData.begins status with
  | true =>
      have he := hnot hb
      cases hpending : m.pending with
      | true =>
          have hout : m.inside = false := by
            cases hin : m.inside with
            | false => rfl
            | true => exact absurd (hsingle hin) (by simp [hpending])
          have hnext : m.status status =
              { m with pending := false, inside := true, intervals := m.intervals + 1 } := by
            simp [Muting.status, hb, he, hpending]
          rw [hnext]
          refine ⟨?_, fun _ => rfl, ?_⟩
          · rw [hs, hstate, hout, hpending]
            simp [LocEngData.muteOn, hb, he]
          · simpa [hpending] using hcount
      | false =>
          have hnext : m.status status = m := by
            simp [Muting.status, he, hpending]
          rw [hnext]
          refine ⟨?_, hsingle, hcount⟩
          rw [hs, hstate, hpending]
          cases m.inside with
          | true => simp [LocEngData.muteOn, he]
          | false => simp [LocEngData.muteOn]
  | false =>
      have hnext : m.status status =
          if LocEngData.ends status then { m with inside := false } else m := by
        simp [Muting.status, hb]
      rw [hnext]
      cases he : LocEngData.ends status with
      | true =>
          refine ⟨?_, fun h => (by cases h), hcount⟩
          rw [hs, hstate]
          cases hin : m.inside with
          | true =>
              rw [hsingle hin]
              simp [LocEngData.muteOn, hb, he]
          | false => cases m.pending <;> simp [LocEngData.muteOn, hb]
      | false =>
          refine ⟨?_, hsingle, hcount⟩
          rw [hs, hstate]
          simp [LocEngData.muteOn, hb, he]

theorem Agrees.next {s : MuteState} (h : Agrees s.prog s.seen) {msg : Msg}
    (hguard : Unhurried cfg s msg) :
    Agrees ((muteWatcher cfg).next s msg).prog ((muteWatcher cfg).next s msg).seen := by
  have hmute := LocEngData.proc_mute cfg s.prog msg
  change Agrees (s.prog.proc cfg msg).1 (s.seen.watch cfg s.prog msg)
  rw [Muting.watch]
  cases hover : s.prog.overrides cfg msg with
  | true =>
      rw [hover, if_pos rfl] at hmute
      have hout : s.seen.inside = false := by
        cases hin : s.seen.inside with
        | false => rfl
        | true =>
            have hno := (hguard hin).1
            rw [hover] at hno
            cases hno
      rw [if_pos rfl]
      refine ⟨?_, ?_, ?_⟩
      · rw [hmute]
        simp [hout]
      · intro hin
        rw [hout] at hin
        cases hin
      · have hcount := h.count
        simp only [if_true]
        omega
  | false =>
      rw [hover, if_neg (by simp)] at hmute
      rw [if_neg (by simp)]
      cases hstatus : msg.status with
      | some status =>
          rw [hstatus] at hmute
          exact h.status status hmute
      | none =>
          rw [hstatus] at hmute
          exact ⟨hmute.trans h.state, h.single, h.count⟩

theorem engineDown_effects (cfg : Config) (s : LocEngData) :
    (s.handleEngineDown cfg).2.filter Effect.isCallback =
        (s.reportStatus cfg .engineOff).2.filter Effect.isCallback ∧
      (s.handleEngineDown cfg).2.filterMap Effect.freedRawData =
        (s.reportStatus cfg .engineOff).2.filterMap Effect.freedRawData := by
  have hfree := LocEngData.filter_freePassThrough (s.niSessionEs.toList ++ s.niSession.toList)
  rw [LocEngData.handleEngineDown, LocEngData.niResetOnEngineRestart]
  simp only
  split
  · rw [List.filter_append, List.filterMap_append, hfree.1, hfree.2]
    exact ⟨rfl, rfl⟩
  · exact ⟨rfl, rfl⟩

theorem right_of_silent {msg : Msg} (inside : Bool) (hstatus : msg.status = none)
    (hposition : ∀ l st t, msg ≠ .reportPosition l st t) (hsv : msg ≠ .reportSv) :
    Answer.Right ⟨msg, inside, (s.proc cfg msg).2,
      ({ s with muteSessionState := .none }.proc cfg msg).2⟩ := by
  have hsilent := LocEngData.proc_silent cfg s hstatus hposition hsv
  have hplain := LocEngData.proc_silent cfg { s with muteSessionState := .none }
    hstatus hposition hsv
  have hraw : msg.rawData = none := by
    cases msg with
    | reportPosition l st t => exact absurd rfl (hposition l st t)
    | positionMode | startFix | stopFix | reportSv | reportStatus | requestNi | niAnswered
      | engineDown | engineUp => rfl
  refine ⟨fun _ => hsilent.1, fun _ => hsilent.1.trans hplain.1.symm, ?_⟩
  rw [hraw]
  exact hsilent.2

theorem Agrees.right {s : MuteState} (h : Agrees s.prog s.seen) {msg : Msg}
    (hguard : Unhurried cfg s msg) :
    ((muteWatcher cfg).record ((muteWatcher cfg).next s msg).seen s.prog msg
      (s.prog.proc cfg msg).2).Right := by
  have hnext := (h.next hguard).muted_iff
  have hmute := LocEngData.proc_mute cfg s.prog msg
  change (s.prog.proc cfg msg).1.muteSessionState = .inSession ↔
    (s.seen.watch cfg s.prog msg).inside = true at hnext
  change Answer.Right ⟨msg, (s.seen.watch cfg s.prog msg).inside, _, _⟩
  cases msg with
  | reportPosition location status techMask =>
      have hin := h.muted_iff
      have hguard' : s.seen.inside = true → location.rawData = none := fun h => (hguard h).2
      refine ⟨?_, ?_, ?_⟩
      · intro hinside
        change (s.prog.reportPosition cfg location status techMask).2.filter _ = []
        rw [LocEngData.reportPosition_muted _ _ _ (hin.mpr hinside)]
        rfl
      · intro hout
        have hheard : s.prog.muteSessionState ≠ .inSession := by
          intro hmuted
          rw [show (s.seen.watch cfg s.prog (.reportPosition location status techMask)).inside =
            s.seen.inside from rfl, hin.mp hmuted] at hout
          cases hout
        exact congrArg _ (LocEngData.reportPosition_heard location status techMask hheard)
      · change (s.prog.reportPosition cfg location status techMask).2.filterMap _ =
          location.rawData.toList
        cases hinside : s.seen.inside with
        | true =>
            rw [LocEngData.reportPosition_muted _ _ _ (hin.mpr hinside), hguard' hinside]
            rfl
        | false =>
            apply LocEngData.reportPosition_frees
            intro hmuted
            rw [hin.mp hmuted] at hinside
            cases hinside
  | reportSv =>
      have hin := h.muted_iff
      refine ⟨?_, ?_, ?_⟩
      · intro hinside
        change (s.prog.reportSv cfg).2.filter _ = []
        rw [LocEngData.reportSv, if_pos (hin.mpr hinside)]
        rfl
      · intro hout
        have hheard : s.prog.muteSessionState ≠ .inSession := by
          intro hmuted
          rw [show (s.seen.watch cfg s.prog .reportSv).inside = s.seen.inside from rfl,
            hin.mp hmuted] at hout
          cases hout
        change (s.prog.reportSv cfg).2.filter _ =
          ({ s.prog with muteSessionState := .none }.reportSv cfg).2.filter _
        rw [LocEngData.reportSv, if_neg hheard]
        rfl
      · change (s.prog.reportSv cfg).2.filterMap _ = []
        rw [LocEngData.reportSv]
        split
        · rfl
        · cases cfg.gnssSvStatusCb <;> cases cfg.generateNmea <;> rfl
  | reportStatus status =>
      refine ⟨?_, ?_, LocEngData.reportStatus_frees status⟩
      · intro hinside
        change (s.prog.reportStatus cfg status).2.filter _ = []
        rw [LocEngData.reportStatus_muted (hnext.mpr hinside)]
        rfl
      · intro hout
        apply congrArg
        apply LocEngData.reportStatus_heard
        intro hmuted
        rw [hnext.mp hmuted] at hout
        cases hout
  | engineDown =>
      have hdown := engineDown_effects cfg s.prog
      have hplain := engineDown_effects cfg { s.prog with muteSessionState := .none }
      refine ⟨?_, ?_, hdown.2.trans (LocEngData.reportStatus_frees _)⟩
      · intro hinside
        refine hdown.1.trans ?_
        rw [LocEngData.reportStatus_muted (hmute.symm.trans (hnext.mpr hinside))]
        rfl
      · intro hout
        refine hdown.1.trans (Eq.trans ?_ hplain.1.symm)
        apply congrArg
        apply LocEngData.reportStatus_heard
        intro hmuted
        rw [hnext.mp (hmute.trans hmuted)] at hout
        cases hout
  | positionMode | startFix | stopFix | requestNi | niAnswered | engineUp =>
      exact right_of_silent _ rfl (by simp) (by simp)

/-- In every run in which no override comes inside an interval, and no position with raw
data, reports are muted inside of the intervals and only there. -/
theorem mutes_intervals (cfg : Config) {ms : List Msg} {s : MuteState}
    (h : Run (Guarded (Unhurried cfg) (muteWatcher cfg).Step) ⟨.init, .init, []⟩ ms s) :
    (∀ r ∈ s.log, r.Right) ∧ s.seen.intervals ≤ s.seen.overrides := by
  have hinit : Agrees .init .init := ⟨rfl, fun h => (by cases h), Nat.le_refl 0⟩
  obtain ⟨hagrees, hright⟩ := Watcher.run_right (I := Agrees) (R := Answer.Right) hinit
    (fun _ _ hi hg => hi.next hg) (fun _ _ hi hg => hi.right hg) h
  exact ⟨hright, Nat.le_trans (Nat.le_add_right _ _) hagrees.count⟩

/-- All callbacks are there. -/
def allCallbacks : Config := ⟨true, true, true, true, false, 0, 0⟩

/-- A fix with raw data. -/
def fixWithRawData : Msg := .reportPosition ⟨false, fun _ => false, some 7⟩ .success 1

theorem mutes_intervals_once :
    ∃ s, Run (muteWatcher allCallbacks).Step ⟨.init, .init, []⟩
        [.requestNi false gpsNiPrivacyOverride (some 1), .reportStatus .engineOn, .reportSv,
          .reportStatus .engineOff, fixWithRawData] s ∧
      (∀ r ∈ s.log, r.Right) ∧ s.seen.intervals = 1 := by
  obtain ⟨s, hs, hone⟩ : ∃ s, [.requestNi false gpsNiPrivacyOverride (some 1),
      .reportStatus .engineOn, .reportSv, .reportStatus .engineOff, fixWithRawData].foldlM
      (fun s msg => if Unhurried allCallbacks s msg then
        some ((muteWatcher allCallbacks).next s msg) else none) ⟨.init, .init, []⟩ = some s ∧
      s.seen.intervals = 1 := ⟨_, rfl, rfl⟩
  have hnext : ∀ (s : MuteState) (msg : Msg) (s' : MuteState),
      some ((muteWatcher allCallbacks).next s msg) = some s' →
      (muteWatcher allCallbacks).Step s msg s' := fun _ _ _ h => Option.some_inj.mp h
  have hrun : Run (Guarded (Unhurried allCallbacks) (muteWatcher allCallbacks).Step)
      ⟨.init, .init, []⟩ _ s := Run.of_guarded_foldlM hnext hs
  exact ⟨s, hrun.unguarded, (mutes_intervals allCallbacks hrun).1, hone⟩

/-- An override inside an interval ends it, and raw data that comes inside is never freed. -/
theorem not_mutes_intervals :
    (∃ s, Run (muteWatcher allCallbacks).Step ⟨.init, .init, []⟩
        [.requestNi true gpsNiPrivacyOverride (some 1), .reportStatus .engineOn, .niAnswered true,
          .requestNi true gpsNiPrivacyOverride (some 2), .reportSv] s ∧
      ∃ r ∈ s.log, r.inside = true ∧ .gnssSvStatusCb ∈ r.effects) ∧
    ∃ s, Run (muteWatcher allCallbacks).Step ⟨.init, .init, []⟩
        [.requestNi true gpsNiPrivacyOverride (some 1), .reportStatus .engineOn,
          fixWithRawData] s ∧
      ∃ r ∈ s.log, r.msg.rawData = some 7 ∧ r.effects.filterMap Effect.freedRawData = [] := by
  constructor
  · exact ⟨_, .snoc (.snoc (.snoc (.snoc (.snoc .nil rfl) rfl) rfl) rfl) rfl, _,
      List.mem_append_right _ (List.mem_singleton_self _), rfl, List.mem_singleton_self _⟩
  · exact ⟨_, .snoc (.snoc (.snoc .nil rfl) rfl) rfl, _,
      List.mem_append_right _ (List.mem_singleton_self _), rfl, rfl⟩

end LibraDevice.LocEng
