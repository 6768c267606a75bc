import LibraDevice.Lib.StepRun
import LibraDevice.LocEng.Engine

/-!
The criteria of a position session: those of the latest position-mode message, beside what
the adapter keeps of them.
-/

namespace LibraDevice.LocEng

open StepRun Watch

/-- The latest position-mode message, whether there was one since the previous stop, whether
a single-shot fix was reported since, and whether a session is on. -/
structure Session where
  latest : Option LocPosMode
  preceded : Bool
  spent : Bool
  inSession : Bool
deriving DecidableEq, Repr

def Effect.isLocationCb : Effect → Bool
  | .locationCb _ => true
  | _ => false

namespace Session

def init : Session := ⟨none, false, false, false⟩

/-- The criteria in force ask for a single fix. -/
def single (h : Session) : Bool :=
  h.latest.any fun m => m.recurrence = gpsPositionRecurrenceSingle

/-- A start that is accepted opens a session; a stop, and the fix of a single-shot one, closes
it. -/
def watch (h : Session) (msg : Msg) (es : List Effect) : Session :=
  match msg with
  | .positionMode mode => { h with latest := some mode, preceded := true, spent := false }
  | .startFix result => { h with inSession := h.inSession || LocEngData.accepts result }
  | .stopFix => { h with preceded := false, inSession := false }
  | .reportPosition _ _ _ =>
      if es.any Effect.isLocationCb && h.single then { h with spent := true, inSession := false }
      else h
  | _ => h

end Session

/-- What a message has `LocApi` do, in session or not. -/
structure ApiCalls where
  latest : Option LocPosMode
  navigating : Bool
  effects : List Effect

structure ApiCalls.Right (r : ApiCalls) : Prop where
  started : ∀ m, .startFix m ∈ r.effects → r.latest = some m
  stopped : .stopFix ∈ r.effects → r.navigating = true

def sessionWatcher (cfg : Config) : Watcher LocEngData Session Msg Effect ApiCalls where
  react := LocEngData.proc cfg
  watch h _ msg es := h.watch msg es
  record h s _ es := ⟨h.latest, s.mNavigating, es⟩

abbrev SessionState := Watched LocEngData Session ApiCalls

/-- A start is preceded by a position-mode message sent since the previous stop. -/
def Preceded (s : SessionState) : Msg → Prop
  | .startFix _ => s.seen.preceded = true
  | _ => True

instance instDecidablePreceded (s : SessionState) (msg : Msg) : Decidable (Preceded s msg) :=
  match msg with
  | .startFix _ => inferInstanceAs (Decidable (_ = _))
  | .positionMode _ | .stopFix | .reportPosition _ _ _ | .reportSv | .reportStatus _
    | .requestNi _ _ _ | .niAnswered _ | .engineDown | .engineUp _ => isTrue trivial

/-- The mode that was asked for is none. -/
def Session.Invalid (h : Session) : Prop :=
  ∃ m ∈ h.latest, m.mode = .invalid

/-- A start out of session comes before a single-shot fix is reported, an intermediate one is
reported in session, and the engine does not come up in session, but with a mode that is no
mode. -/
def Timely (cfg : Config) (s : SessionState) : Msg → Prop
  | .startFix _ => s.prog.mNavigating = true ∨ s.seen.spent = false ∨ s.seen.Invalid
  | .reportPosition location status techMask =>
      s.prog.muteSessionState ≠ .inSession →
      LocEngData.reported cfg location status techMask = true → s.seen.single = true →
      status = .intermediate → s.prog.mNavigating = true
  | .engineUp result =>
      s.prog.mNavigating = true → s.seen.Invalid ∧ LocEngData.accepts result = true
  | _ => True

structure Keeps (s : LocEngData) (h : Session) : Prop where
  navigating : s.mNavigating = h.inSession
  known : h.inSession = true ∨ h.preceded = true → h.latest.isSome = true
  single : s.singleShot = h.single
  criteria : ∀ m ∈ h.latest, s.mFixCriteria = m ∨ s.mFixCriteria = m.invalidate
  unspent : ∀ m ∈ h.latest, h.preceded = true → h.spent = false → s.mFixCriteria = m

variable {cfg : Config} {s : LocEngData} {h : Session}

theorem invalidate_of_invalid {m : LocPosMode} (hm : m.mode = .invalid) : m.invalidate = m := by
  rw [LocPosMode.invalidate, ← hm]

theorem Keeps.init : Keeps .init .init := by
  refine ⟨rfl, ?_, rfl, ?_, ?_⟩
  · rintro (hsession | hpreceded)
    · cases hsession
    · cases hpreceded
  · intro m hm
    cases hm
  · intro m hm
    cases hm

theorem Keeps.criteria_of_invalid (hk : Keeps s h) {m : LocPosMode} (hm : m ∈ h.latest)
    (hmode : m.mode = .invalid) : s.mFixCriteria = m := by
  rcases hk.criteria m hm with hsame | hinvalid
  · exact hsame
  · rw [hinvalid, invalidate_of_invalid hmode]

theorem Keeps.invalidate (hk : Keeps s h) {m : LocPosMode} (hm : m ∈ h.latest) :
    s.mFixCriteria.invalidate = m.invalidate := by
  rcases hk.criteria m hm with hsame | hinvalid
  · rw [hsame]
  · rw [hinvalid]
    rfl

theorem Keeps.leave (hk : Keeps s h) {h' : Session} (hlatest : h'.latest = h.latest)
    (hout : h'.inSession = false) (hpreceded : h'.preceded = true → h.preceded = true)
    (hgone : h'.preceded = true → h'.spent = false → False) :
    Keeps (s.setInSession false).1 h' := by
  refine ⟨hout.symm, ?_, ?_, ?_, ?_⟩
  · intro hor
    rw [hlatest]
    rcases hor with hsession | hp
    · rw [hout] at hsession
      cases hsession
    · exact hk.known (Or.inr (hpreceded hp))
  · rw [Session.single, hlatest]
    exact hk.single
  · intro m hm
    rw [hlatest] at hm
    exact Or.inr (hk.invalidate hm)
  · intro m _ hp hs
    exact absurd (hgone hp hs) id

theorem Keeps.congr (hk : Keeps s h) {s' : LocEngData}
    (hcriteria : s'.mFixCriteria = s.mFixCriteria)
    (hnavigating : s'.mNavigating = s.mNavigating) : Keeps s' h := by
  refine ⟨hnavigating.trans hk.navigating, hk.known, ?_, ?_, ?_⟩
  · rw [LocEngData.singleShot, hcriteria]
    exact hk.single
  · rw [hcriteria]
    exact hk.criteria
  · rw [hcriteria]
    exact hk.unspent

theorem Keeps.enter (hk : Keeps s h) (hlatest : h.latest.isSome = true) :
    Keeps (s.setInSession true).1 { h with inSession := true } :=
  ⟨rfl, fun _ => hlatest, hk.single, hk.criteria, hk.unspent⟩

theorem Keeps.start (hk : Keeps s h) (result : LocApiErr) (hpreceded : h.preceded = true)
    (htimely : s.mNavigating = true ∨ h.spent = false ∨ h.Invalid) :
    Keeps (s.startHandler result).1
        { h with inSession := h.inSession || LocEngData.accepts result } ∧
      (∀ m, .startFix m ∈ (s.startHandler result).2 → h.latest = some m) ∧
      (.stopFix ∉ (s.startHandler result).2) := by
  have hknown := hk.known (Or.inr hpreceded)
  have hopen : ∀ m ∈ h.latest, s.mNavigating = false → s.mFixCriteria = m := by
    intro m hm hout
    rcases htimely with hin | hunspent | ⟨m', hm', hinvalid⟩
    · rw [hout] at hin
      cases hin
    · exact hk.unspent m hm hpreceded hunspent
    · cases Option.mem_unique hm hm'
      exact hk.criteria_of_invalid hm hinvalid
  obtain ⟨latest, hlatest⟩ := Option.isSome_iff_exists.mp hknown
  rw [LocEngData.startHandler]
  cases hnav : s.mNavigating with
  | true =>
      have hin : h.inSession = true := hk.navigating.symm.trans hnav
      rw [if_pos rfl]
      refine ⟨?_, fun m hm => (by cases hm), fun hm => (by cases hm)⟩
      rw [hin, Bool.true_or, ← hin]
      exact hk
  | false =>
      have hout : h.inSession = false := hk.navigating.symm.trans hnav
      have hcriteria : s.mFixCriteria = latest := hopen latest hlatest hnav
      rw [if_neg (by simp), hout, Bool.false_or, hcriteria]
      cases haccepts : LocEngData.accepts result with
      | true =>
          rw [if_pos rfl]
          refine ⟨hk.enter hknown, ?_, ?_⟩
          · intro m hm
            simp only [LocEngData.setInSession, List.mem_cons, Effect.startFix.injEq,
              List.not_mem_nil, or_false, reduceCtorEq] at hm
            rw [hm]
            exact hlatest
          · simp [LocEngData.setInSession]
      | false =>
          rw [if_neg (by simp)]
          refine ⟨?_, ?_, ?_⟩
          · rw [← hout]
            exact hk
          · intro m hm
            simp only [List.mem_singleton, Effect.startFix.injEq] at hm
            rw [hm]
            exact hlatest
          · simp

theorem Keeps.stop (hk : Keeps s h) :
    Keeps (s.stopHandler).1 { h with preceded := false, inSession := false } ∧
      (∀ m, .startFix m ∉ (s.stopHandler).2) ∧
      (.stopFix ∈ (s.stopHandler).2 → s.mNavigating = true) := by
  rw [LocEngData.stopHandler]
  cases hnav : s.mNavigating with
  | true =>
      rw [if_pos rfl]
      refine ⟨hk.leave rfl rfl (fun h => (by cases h)) (fun h => (by cases h)), ?_, fun _ => rfl⟩
      simp [LocEngData.setInSession]
  | false =>
      rw [if_neg (by simp)]
      refine ⟨⟨hnav, ?_, hk.single, hk.criteria, fun _ _ h => (by cases h)⟩, ?_, ?_⟩
      · rintro (h | h) <;> cases h
      · intro m hm
        cases hm
      · intro hm
        cases hm

theorem positionEffects_startFix (location : UlpLocation) (status : LocSessStatus)
    (isReported ended navigating : Bool) (m : LocPosMode) :
    .startFix m ∉ LocEngData.positionEffects cfg location status isReported ended navigating := by
  rw [LocEngData.positionEffects]
  simp only [List.mem_append, List.mem_map, not_or]
  refine ⟨⟨⟨⟨?_, ?_⟩, ?_⟩, ?_⟩, ?_⟩
  · split <;> simp
  · split <;> simp
  · split <;> simp
  · split <;> simp
  · rintro ⟨p, -, hp⟩
    cases hp

theorem positionEffects_stopFix {location : UlpLocation} {status : LocSessStatus}
    {isReported ended navigating : Bool}
    (hmem : .stopFix ∈ LocEngData.positionEffects cfg location status isReported ended navigating) :
    ended = true ∧ status = .intermediate := by
  rw [LocEngData.positionEffects] at hmem
  simp only [List.mem_append, List.mem_map] at hmem
  rcases hmem with (((hmem | hmem) | hmem) | hmem) | ⟨p, -, hp⟩
  · split at hmem <;> simp at hmem
  · split at hmem
    · next hover =>
        simpa using hover
    · cases hmem
  · split at hmem <;> simp at hmem
  · split at hmem <;> simp at hmem
  · cases hp

theorem positionEffects_locationCb (location : UlpLocation) (status : LocSessStatus)
    (isReported ended navigating : Bool) :
    (LocEngData.positionEffects cfg location status isReported ended navigating).any
      Effect.isLocationCb = isReported := by
  have hite : ∀ (b : Bool) (e : Effect), e.isLocationCb = false →
      (if b then [e] else []).any Effect.isLocationCb = false := by
    intro b e he
    cases b with
    | true => simp [he]
    | false => rfl
  rw [LocEngData.positionEffects]
  simp only [List.any_append]
  rw [hite _ .stopFix rfl, hite _ (.setInSession false) rfl, hite _ (.nmeaPos _) rfl]
  cases isReported <;> cases location.rawData <;> rfl

theorem Keeps.report (hk : Keeps s h) (location : UlpLocation) (status : LocSessStatus)
    (techMask : UInt32)
    (htimely : s.muteSessionState ≠ .inSession →
      LocEngData.reported cfg location status techMask = true → h.single = true →
      status = .intermediate → s.mNavigating = true) :
    Keeps (s.reportPosition cfg location status techMask).1
        (h.watch (.reportPosition location status techMask)
          (s.reportPosition cfg location status techMask).2) ∧
      (∀ m, .startFix m ∉ (s.reportPosition cfg location status techMask).2) ∧
      (.stopFix ∈ (s.reportPosition cfg location status techMask).2 → s.mNavigating = true) := by
  rw [LocEngData.reportPosition, Session.watch]
  split
  · exact ⟨hk, fun m hm => (by cases hm), fun hm => (by cases hm)⟩
  · next hmute =>
      simp only [positionEffects_locationCb, hk.single]
      refine ⟨?_, fun m => positionEffects_startFix _ _ _ _ _ m, ?_⟩
      · split
        · exact hk.leave rfl rfl id (fun _ h => (by cases h))
        · exact hk
      · intro hmem
        obtain ⟨hover, hstatus⟩ := positionEffects_stopFix hmem
        rw [Bool.and_eq_true] at hover
        exact htimely hmute hover.1 hover.2 hstatus

theorem Keeps.engineUp (hk : Keeps s h) (result : LocApiErr)
    (htimely : s.mNavigating = true → h.Invalid ∧ LocEngData.accepts result = true) :
    Keeps (s.handleEngineUp result).1 h ∧
      (∀ m, .startFix m ∈ (s.handleEngineUp result).2 → h.latest = some m) ∧
      (.stopFix ∉ (s.handleEngineUp result).2) := by
  rw [LocEngData.handleEngineUp]
  cases hnav : s.mNavigating with
  | false =>
      rw [if_neg (by simp)]
      exact ⟨hk, fun m hm => (by cases hm), fun hm => (by cases hm)⟩
  | true =>
      obtain ⟨⟨latest, hlatest, hinvalid⟩, haccepts⟩ := htimely hnav
      have hin : h.inSession = true := hk.navigating.symm.trans hnav
      have hcriteria : s.mFixCriteria.invalidate = latest :=
        (hk.invalidate hlatest).trans (invalidate_of_invalid hinvalid)
      rw [if_pos rfl]
      simp only [LocEngData.startHandler, LocEngData.setInSession, haccepts, hcriteria,
        Bool.false_eq_true, if_false, if_true]
      refine ⟨?_, ?_, ?_⟩
      · refine ⟨hin.symm, hk.known, ?_, ?_, ?_⟩
        · rw [← hk.single, LocEngData.singleShot, LocEngData.singleShot, ← hcriteria]
          rfl
        · intro m hm
          exact Or.inl (Option.mem_unique hlatest hm)
        · intro m hm _ _
          exact Option.mem_unique hlatest hm
      · intro m hm
        have heq : m = latest := by
          simpa using hm
        rw [heq]
        exact hlatest
      · simp

theorem startFix_notMem_free (ps : List Nat) :
    (∀ m, .startFix m ∉ ps.map Effect.freePassThrough) ∧
    .stopFix ∉ ps.map Effect.freePassThrough := by
  constructor
  · intro m hm
    obtain ⟨p, -, hp⟩ := List.mem_map.mp hm
    cases hp
  · intro hm
    obtain ⟨p, -, hp⟩ := List.mem_map.mp hm
    cases hp

theorem reportStatus_apart (cfg : Config) (status : GpsStatusValue) (s : LocEngData) :
    (∀ m, .startFix m ∉ (s.reportStatus cfg status).2) ∧
      .stopFix ∉ (s.reportStatus cfg status).2 := by
  rw [LocEngData.reportStatus]
  simp only
  split <;> simp

theorem Keeps.other (hk : Keeps s h) {s' : LocEngData} {es : List Effect} {navigating : Bool}
    (hs : s'.mFixCriteria = s.mFixCriteria ∧ s'.mNavigating = s.mNavigating)
    (hes : (∀ m, .startFix m ∉ es) ∧ .stopFix ∉ es) :
    Keeps s' h ∧ ApiCalls.Right ⟨h.latest, navigating, es⟩ :=
  ⟨hk.congr hs.1 hs.2, fun m hm => absurd hm (hes.1 m), fun hm => absurd hm hes.2⟩

theorem Keeps.next {s : SessionState} (hk : Keeps s.prog s.seen) {msg : Msg}
    (hpreceded : Preceded s msg) (htimely : Timely cfg s msg) :
    Keeps ((sessionWatcher cfg).next s msg).prog ((sessionWatcher cfg).next s msg).seen ∧
      ((sessionWatcher cfg).record ((sessionWatcher cfg).next s msg).seen s.prog msg
        (s.prog.proc cfg msg).2).Right := by
  change Keeps (s.prog.proc cfg msg).1 (s.seen.watch msg (s.prog.proc cfg msg).2) ∧
    ApiCalls.Right ⟨(s.seen.watch msg (s.prog.proc cfg msg).2).latest, s.prog.mNavigating,
      (s.prog.proc cfg msg).2⟩
  cases msg with
  | positionMode mode =>
      refine ⟨⟨hk.navigating, fun _ => rfl, rfl, ?_, ?_⟩, ?_, ?_⟩
      · rintro m ⟨⟩
        exact Or.inl rfl
      · rintro m ⟨⟩ _ _
        rfl
      · intro m hm
        simp [LocEngData.proc, LocEngData.setPositionMode] at hm
      · intro hm
        simp [LocEngData.proc, LocEngData.setPositionMode] at hm
  | startFix result =>
      obtain ⟨hnext, hstarted, hstopped⟩ := hk.start result hpreceded htimely
      exact ⟨hnext, hstarted, fun hm => absurd hm hstopped⟩
  | stopFix =>
      obtain ⟨hnext, hstarted, hstopped⟩ := hk.stop
      exact ⟨hnext, fun m hm => absurd hm (hstarted m), hstopped⟩
  | reportPosition location status techMask =>
      obtain ⟨hnext, hstarted, hstopped⟩ := hk.report location status techMask htimely
      exact ⟨hnext, fun m hm => absurd hm (hstarted m), hstopped⟩
  | engineUp result =>
      obtain ⟨hnext, hstarted, hstopped⟩ := hk.engineUp result htimely
      exact ⟨hnext, hstarted, fun hm => absurd hm hstopped⟩
  | reportSv =>
      refine hk.other ⟨?_, ?_⟩ ?_
      · change (s.prog.reportSv cfg).1.mFixCriteria = _
        rw [LocEngData.reportSv]
        split <;> rfl
      · change (s.prog.reportSv cfg).1.mNavigating = _
        rw [LocEngData.reportSv]
        split <;> rfl
      · change (∀ m, .startFix m ∉ (s.prog.reportSv cfg).2) ∧ .stopFix ∉ (s.prog.reportSv cfg).2
        rw [LocEngData.reportSv]
        split
        · simp
        · cases cfg.gnssSvStatusCb <;> cases cfg.generateNmea <;> simp
  | reportStatus status => exact hk.other ⟨rfl, rfl⟩ (reportStatus_apart cfg status s.prog)
  | requestNi emergency notifyFlags passThrough =>
      refine hk.other ⟨?_, ?_⟩ ?_
      · change (s.prog.requestNi cfg emergency notifyFlags passThrough).1.mFixCriteria = _
        rw [LocEngData.requestNi]
        split <;> rfl
      · change (s.prog.requestNi cfg emergency notifyFlags passThrough).1.mNavigating = _
        rw [LocEngData.requestNi]
        split <;> rfl
      · change (∀ m, .startFix m ∉ (s.prog.requestNi cfg emergency notifyFlags passThrough).2) ∧
          .stopFix ∉ (s.prog.requestNi cfg emergency notifyFlags passThrough).2
        rw [LocEngData.requestNi]
        split
        · simp
        · split
          · exact startFix_notMem_free _
          · simp
  | niAnswered emergency =>
      cases emergency with
      | true => exact hk.other ⟨rfl, rfl⟩ ⟨fun m hm => (by cases hm), fun hm => (by cases hm)⟩
      | false => exact hk.other ⟨rfl, rfl⟩ ⟨fun m hm => (by cases hm), fun hm => (by cases hm)⟩
  | engineDown =>
      have hfree := startFix_notMem_free (s.prog.niSessionEs.toList ++ s.prog.niSession.toList)
      have hreset : (s.prog.niResetOnEngineRestart cfg).1.mFixCriteria = s.prog.mFixCriteria ∧
          (s.prog.niResetOnEngineRestart cfg).1.mNavigating = s.prog.mNavigating ∧
          (∀ m, .startFix m ∉ (s.prog.niResetOnEngineRestart cfg).2) ∧
          .stopFix ∉ (s.prog.niResetOnEngineRestart cfg).2 := by
        rw [LocEngData.niResetOnEngineRestart]
        split
        · exact ⟨rfl, rfl, hfree.1, hfree.2⟩
        · exact ⟨rfl, rfl, fun m hm => (by cases hm), fun hm => (by cases hm)⟩
      obtain ⟨hcriteria, hnavigating, hstart, hstop⟩ := hreset
      have hstatus := reportStatus_apart cfg .engineOff (s.prog.niResetOnEngineRestart cfg).1
      refine hk.other ⟨hcriteria, hnavigating⟩ ⟨?_, ?_⟩
      · intro m hm
        rcases List.mem_append.mp hm with hm | hm
        · exact hstart m hm
        · exact hstatus.1 m hm
      · intro hm
        rcases List.mem_append.mp hm with hm | hm
        · exact hstop hm
        · exact hstatus.2 hm

/-- In every run of messages that come in time, with a mode before each start, the criteria
are those of the latest mode, and the session and its stops are as expected. -/
theorem session_keeps_criteria (cfg : Config) {ms : List Msg} {s : SessionState}
    (h : Run (Guarded (fun s msg => Preceded s msg ∧ Timely cfg s msg) (sessionWatcher cfg).Step)
      ⟨.init, .init, []⟩ ms s) :
    (∀ r ∈ s.log, r.Right) ∧ s.prog.mNavigating = s.seen.inSession := by
  obtain ⟨hkeeps, hright⟩ := Watcher.run_right (I := Keeps) (R := ApiCalls.Right) Keeps.init
    (fun _ _ hi hg => (hi.next hg.1 hg.2).1) (fun _ _ hi hg => (hi.next hg.1 hg.2).2) h
  exact ⟨hright, hkeeps.navigating⟩

/-- Positions are given to the client, intermediate ones as well. -/
def intermediateFixes : Config := ⟨true, true, true, true, false, 1, 0⟩

def singleShotMode : LocPosMode :=
  { LocPosMode.default with recurrence := gpsPositionRecurrenceSingle }

def fix (status : LocSessStatus) : Msg :=
  .reportPosition ⟨false, fun _ => false, none⟩ status 1

theorem session_keeps_criteria_single :
    ∃ s, Run (sessionWatcher intermediateFixes).Step ⟨.init, .init, []⟩
        [.positionMode singleShotMode, .startFix .success, fix .intermediate, .stopFix] s ∧
      (∀ r ∈ s.log, r.Right) ∧ s.prog.mNavigating = s.seen.inSession := by
  have hmode : Run (Guarded (fun s msg => Preceded s msg ∧ Timely intermediateFixes s msg)
      (sessionWatcher intermediateFixes).Step) ⟨.init, .init, []⟩
      [.positionMode singleShotMode] _ := .snoc .nil ⟨⟨trivial, trivial⟩, rfl⟩
  have hstart := hmode.snoc (a := Msg.startFix .success) ⟨⟨rfl, Or.inr (Or.inl rfl)⟩, rfl⟩
  have hfix := hstart.snoc (a := fix .intermediate) ⟨⟨trivial, fun _ _ _ _ => rfl⟩, rfl⟩
  have hstop := hfix.snoc (a := Msg.stopFix) ⟨⟨trivial, trivial⟩, rfl⟩
  exact ⟨_, hstop.unguarded, session_keeps_criteria intermediateFixes hstop⟩

/-- The engine goes through the messages, each start preceded by a mode. -/
def after (ms : List Msg) : Option SessionState :=
  ms.foldlM (fun s msg => if Preceded s msg then
    some ((sessionWatcher intermediateFixes).next s msg) else none) ⟨.init, .init, []⟩

theorem run_of_after {ms : List Msg} {s : SessionState} (h : after ms = some s) :
    Run (Guarded Preceded (sessionWatcher intermediateFixes).Step) ⟨.init, .init, []⟩ ms s := by
  have hnext : ∀ (s : SessionState) (msg : Msg) (s' : SessionState),
      some ((sessionWatcher intermediateFixes).next s msg) = some s' →
      (sessionWatcher intermediateFixes).Step s msg s' := fun _ _ _ h => Option.some_inj.mp h
  exact Run.of_guarded_foldlM hnext h

/-- The engine comes up in session, or a fix of the session before is still queued: the mode
handed over is not the one asked for, or a stop comes out of session. -/
theorem not_session_keeps_criteria :
    (∃ s, Run (Guarded Preceded (sessionWatcher intermediateFixes).Step) ⟨.init, .init, []⟩
        [.positionMode .default, .startFix .success, .engineUp .success] s ∧
      ∃ r ∈ s.log, .startFix LocPosMode.default.invalidate ∈ r.effects ∧
        r.latest = some .default) ∧
    (∃ s, Run (Guarded Preceded (sessionWatcher intermediateFixes).Step) ⟨.init, .init, []⟩
        [.positionMode singleShotMode, fix .failure, .startFix .success] s ∧
      ∃ r ∈ s.log, .startFix singleShotMode.invalidate ∈ r.effects ∧
        r.latest = some singleShotMode) ∧
    ∃ s, Run (Guarded Preceded (sessionWatcher intermediateFixes).Step) ⟨.init, .init, []⟩
        [.positionMode singleShotMode, fix .intermediate] s ∧
      ∃ r ∈ s.log, .stopFix ∈ r.effects ∧ r.navigating = false := by
  refine ⟨?_, ?_, ?_⟩
  · exact ⟨_, run_of_after rfl, _, List.mem_append_right _ (List.mem_singleton_self _),
      .tail _ (.head _), rfl⟩
  · exact ⟨_, run_of_after rfl, _, List.mem_append_right _ (List.mem_singleton_self _),
      .head _, rfl⟩
  · exact ⟨_, run_of_after rfl, _, List.mem_append_right _ (List.mem_singleton_self _),
      .tail _ (.head _), rfl⟩

end LibraDevice.LocEng
