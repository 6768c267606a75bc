import Mathlib.Data.List.Sort
import Mathlib.Data.List.TakeWhile
import Mathlib.Tactic.Common
import LibraDevice.Lib.Assignments

/-!
The light service: states are cached for each type of light, and the types that share
hardware light it up in the order of their importance.
-/

namespace LibraDevice.Lights

open LibraDevice.Assignments

/-- A type the service does not list is `other`, with its number in the interface. -/
inductive LightType
  | attention
  | notifications
  | battery
  | backlight
  | buttons
  | other (n : Nat)
  deriving DecidableEq, Repr

inductive Flash
  | none
  | timed
  | hardware
  deriving DecidableEq, Repr

structure LightState where
  color : BitVec 32
  flashMode : Flash
  flashOnMs : Int32
  flashOffMs : Int32
  deriving DecidableEq, Repr

/-- The directories below `/sys/class/leds/`. -/
inductive Led
  | lcdBacklight
  | buttonBacklight
  | buttonBacklight1
  | red
  | green
  | blue
  | rgb
  deriving DecidableEq, Repr

inductive Attribute
  | brightness
  | dutyPcts
  | startIdx
  | pauseLo
  | pauseHi
  | rampStepMs
  | rgbBlink
  deriving DecidableEq, Repr

structure Path where
  led : Led
  file : Attribute
  deriving DecidableEq, Repr

def maxLedBrightness : BitVec 32 := 255
def maxLcdBrightness : BitVec 32 := 3200
def rampSteps : Int := 8
def rampStepDuration : Int := 50
def brightnessRamp : List (BitVec 32) := [0, 12, 25, 37, 50, 72, 85, 100]

/-- A write of the text that stands for a number. -/
def number (path : Path) (value : Int) : Path × String :=
  (path, toString value)

def channel (color : BitVec 32) (shift : Nat) : BitVec 32 :=
  (color >>> shift) &&& 0xFF

/-- The channel, scaled when the alpha channel is not full. -/
def scaledChannel (color : BitVec 32) (shift : Nat) : BitVec 32 :=
  let alpha := channel color 24
  if alpha ≠ 0xFF then channel color shift * alpha / 0xFF else channel color shift

def getBrightness (state : LightState) : BitVec 32 :=
  (77 * scaledChannel state.color 16 + 150 * scaledChannel state.color 8 +
    29 * scaledChannel state.color 0) >>> 8

def scaleBrightness (brightness maxBrightness : BitVec 32) : BitVec 32 :=
  brightness * maxBrightness / 0xFF

def getScaledBrightness (state : LightState) (maxBrightness : BitVec 32) : BitVec 32 :=
  scaleBrightness (getBrightness state) maxBrightness

def handleBacklight (state : LightState) : List (Path × String) :=
  [number ⟨.lcdBacklight, .brightness⟩ (getScaledBrightness state maxLcdBrightness).toNat]

def handleButtons (state : LightState) : List (Path × String) :=
  let brightness := (getScaledBrightness state maxLedBrightness).toNat
  [number ⟨.buttonBacklight, .brightness⟩ brightness,
    number ⟨.buttonBacklight1, .brightness⟩ brightness]

def getScaledRamp (brightness : BitVec 32) : String :=
  (brightnessRamp.foldl
    (fun (ramp, pad) step =>
      (ramp ++ (pad ++ toString ((step * brightness / 0xFF).toInt)), ","))
    ("", "")).1

/-- The five writes that one color gets for a blinking light. -/
def blink (led : Led) (index : Int) (brightness : BitVec 32) (pauseLo pauseHi stepDuration : Int) :
    List (Path × String) :=
  [number ⟨led, .startIdx⟩ (index * rampSteps),
    (⟨led, .dutyPcts⟩, getScaledRamp brightness),
    number ⟨led, .pauseLo⟩ pauseLo,
    number ⟨led, .pauseHi⟩ pauseHi,
    number ⟨led, .rampStepMs⟩ stepDuration]

/-- The step duration and the pause at the top of the ramp: the steps get shorter
where ramping up and down does not fit. -/
def blinkTimes (flashOnMs : Int) : Int × Int :=
  let pauseHi := flashOnMs - rampStepDuration * rampSteps * 2
  if pauseHi < 0 then (flashOnMs.tdiv (rampSteps * 2), 0) else (rampStepDuration, pauseHi)

def handleNotification (state : LightState) : List (Path × String) :=
  let red := scaledChannel state.color 16
  let green := scaledChannel state.color 8
  let blue := scaledChannel state.color 0
  number ⟨.rgb, .rgbBlink⟩ 0 ::
    if state.flashMode = .timed then
      let (stepDuration, pauseHi) := blinkTimes state.flashOnMs.toInt
      let pauseLo := state.flashOffMs.toInt
      blink .red 0 red pauseLo pauseHi stepDuration ++
        blink .green 1 green pauseLo pauseHi stepDuration ++
        blink .blue 2 blue pauseLo pauseHi stepDuration ++
        [number ⟨.rgb, .rgbBlink⟩ 1]
    else
      [number ⟨.red, .brightness⟩ red.toNat,
        number ⟨.green, .brightness⟩ green.toNat,
        number ⟨.blue, .brightness⟩ blue.toNat]

def isLit (state : LightState) : Bool :=
  state.color &&& 0x00ffffff ≠ 0

inductive LightStateHandler
  | handleBacklight
  | handleButtons
  | handleNotification
  deriving DecidableEq, Repr

/-- What a handler writes, in this order. -/
def LightStateHandler.writes : LightStateHandler → LightState → List (Path × String)
  | .handleBacklight, state => Lights.handleBacklight state
  | .handleButtons, state => Lights.handleButtons state
  | .handleNotification, state => Lights.handleNotification state

structure LightBackend where
  type : LightType
  state : LightState
  handler : LightStateHandler

/-- The constructor sets the color; the rest of the state is whatever it is. -/
def LightBackend.new (fresh : LightState) (type : LightType) (handler : LightStateHandler) :
    LightBackend :=
  ⟨type, { fresh with color := 0xff000000 }, handler⟩

/-- Sorted in the order of importance. -/
def backends (fresh : LightState) : List LightBackend :=
  [.new fresh .attention .handleNotification,
    .new fresh .notifications .handleNotification,
    .new fresh .battery .handleNotification,
    .new fresh .backlight .handleBacklight,
    .new fresh .buttons .handleButtons]

/-- The service and the files it writes. -/
structure Light where
  backends : List LightBackend
  files : Path → String

def Light.start (fresh : LightState) (files : Path → String) : Light :=
  ⟨Lights.backends fresh, files⟩

inductive Status
  | success
  | lightNotSupported
  deriving DecidableEq, Repr

/-- What the local `handler` holds; nothing sets it before the first loop. -/
inductive HandlerPointer
  | null
  | handler (h : LightStateHandler)
  | wild
  deriving DecidableEq, Repr

/-- The first loop of `setLight`. -/
def cacheState (type : LightType) (state : LightState) :
    List LightBackend → HandlerPointer → List LightBackend × HandlerPointer
  | [], handler => ([], handler)
  | backend :: rest, handler =>
      if backend.type = type then
        let (rest', handler') := cacheState type state rest (.handler backend.handler)
        ({ backend with state := state } :: rest', handler')
      else
        let (rest', handler') := cacheState type state rest handler
        (backend :: rest', handler')

/-- `setLight`, with what its stack happens to hold for `handler`. A wild pointer is equal
to no handler and is called in the end: `none` is the crash. -/
def Light.setLight (isOpen : Path → Bool) (stale : HandlerPointer)
    (type : LightType) (state : LightState) (light : Light) : Option (Status × Light) :=
  let (backends, handler) := cacheState type state light.backends stale
  match handler with
  | .null => some (.lightNotSupported, { light with backends := backends })
  | .wild => none
  | .handler handler =>
      match backends.find? fun backend => handler = backend.handler ∧ isLit backend.state with
      | some backend =>
          some (.success,
            ⟨backends, assignAll isOpen (handler.writes backend.state) light.files⟩)
      | none => some (.success, ⟨backends, assignAll isOpen (handler.writes state) light.files⟩)

def Light.getSupportedTypes (light : Light) : List LightType :=
  light.backends.map LightBackend.type

/-- A call of the service, with what is left on the stack for it. -/
structure Call where
  type : LightType
  state : LightState
  stale : HandlerPointer
  deriving DecidableEq, Repr

def Light.call (isOpen : Path → Bool) (light : Light) (c : Call) : Option Light :=
  (light.setLight isOpen c.stale c.type c.state).map Prod.snd

/-- The calls, up to one that crashes the service. -/
def Light.run (isOpen : Path → Bool) (light : Light) : List Call → Light
  | [] => light
  | c :: calls =>
      match light.call isOpen c with
      | none => light
      | some light => light.run isOpen calls

def handlerOf : LightType → Option LightStateHandler
  | .attention => some .handleNotification
  | .notifications => some .handleNotification
  | .battery => some .handleNotification
  | .backlight => some .handleBacklight
  | .buttons => some .handleButtons
  | .other _ => none

/-- The types that share the hardware, the most important one first. -/
def LightStateHandler.types : LightStateHandler → List LightType
  | .handleBacklight => [.backlight]
  | .handleButtons => [.buttons]
  | .handleNotification => [.attention, .notifications, .battery]

/-- What a call has for `handler` after the first loop. -/
def Call.pointer (c : Call) : HandlerPointer :=
  match handlerOf c.type with
  | some h => .handler h
  | none => c.stale

/-- The handler that a call runs in the end. -/
def Call.reaches (h : LightStateHandler) (c : Call) : Bool :=
  c.pointer = .handler h

/-- The calls before the first one that crashes. -/
def served (calls : List Call) : List Call :=
  calls.takeWhile fun c => c.pointer ≠ .wild

/-- The state last set for a type. -/
def latest (fresh : LightState) (calls : List Call) (type : LightType) : LightState :=
  match calls.reverse.find? fun c => c.type = type with
  | some c => c.state
  | none => { fresh with color := 0xff000000 }

/-- The most important state that is lit. -/
def winner (h : LightStateHandler) (cached : LightType → LightState) : Option LightState :=
  (h.types.map cached).find? isLit

/-- The hardware shows the state: every file the handler writes for it holds what the
handler writes there last. -/
def Shows (isOpen : Path → Bool) (h : LightStateHandler) (state : LightState)
    (files : Path → String) : Prop :=
  InForce isOpen (h.writes state) files

/-- The hardware a handler writes to. -/
def LightStateHandler.leds : LightStateHandler → List Led
  | .handleBacklight => [.lcdBacklight]
  | .handleButtons => [.buttonBacklight, .buttonBacklight1]
  | .handleNotification => [.red, .green, .blue, .rgb]

theorem writes_led {h : LightStateHandler} {state : LightState} {w : Path × String}
    (hw : w ∈ h.writes state) : w.1.led ∈ h.leds := by
  cases h with
  | handleBacklight =>
      obtain rfl := List.mem_singleton.mp hw
      exact List.mem_cons_self
  | handleButtons =>
      rcases List.mem_pair.mp hw with rfl | rfl
      · exact List.mem_cons_self
      · exact List.mem_cons_of_mem _ List.mem_cons_self
  | handleNotification =>
      simp only [LightStateHandler.writes, handleNotification, blink, number] at hw
      split at hw
      · simp only [List.mem_cons, List.mem_append, List.not_mem_nil, or_false] at hw
        simp only [LightStateHandler.leds]
        aesop
      · simp only [List.mem_cons, List.not_mem_nil, or_false] at hw
        simp only [LightStateHandler.leds]
        aesop

theorem leds_disjoint {h h' : LightStateHandler} {led : Led} (hled : led ∈ h.leds)
    (hled' : led ∈ h'.leds) : h = h' := by
  revert hled hled'
  cases h <;> cases h' <;> cases led <;> decide

theorem Shows.frame {isOpen : Path → Bool} {h h' : LightStateHandler} {state state' : LightState}
    {files : Path → String} (hshows : Shows isOpen h state files) (hne : h' ≠ h) :
    Shows isOpen h state (assignAll isOpen (h'.writes state') files) := by
  apply InForce.frame hshows
  intro a ha b hb heq
  apply hne
  exact leds_disjoint (writes_led hb) (heq ▸ writes_led ha)

/-- The backends, with the states cached in them. -/
def table (cached : LightType → LightState) : List LightBackend :=
  [⟨.attention, cached .attention, .handleNotification⟩,
    ⟨.notifications, cached .notifications, .handleNotification⟩,
    ⟨.battery, cached .battery, .handleNotification⟩,
    ⟨.backlight, cached .backlight, .handleBacklight⟩,
    ⟨.buttons, cached .buttons, .handleButtons⟩]

theorem cacheState_table (type : LightType) (state : LightState)
    (cached : LightType → LightState) (stale : HandlerPointer) :
    cacheState type state (table cached) stale =
      (table (Function.update cached type state), (Call.mk type state stale).pointer) := by
  cases type <;> rfl

theorem find_table (h : LightStateHandler) (cached : LightType → LightState) :
    ((table cached).find? fun backend => h = backend.handler ∧ isLit backend.state).map
        LightBackend.state = winner h cached := by
  cases h with
  | handleBacklight =>
      cases hlit : isLit (cached .backlight) <;>
        simp [table, winner, LightStateHandler.types, hlit]
  | handleButtons =>
      cases hlit : isLit (cached .buttons) <;>
        simp [table, winner, LightStateHandler.types, hlit]
  | handleNotification =>
      cases h1 : isLit (cached .attention) <;> cases h2 : isLit (cached .notifications) <;>
        cases h3 : isLit (cached .battery) <;>
        simp [table, winner, LightStateHandler.types, h1, h2, h3]

/-- What the files hold after a call that does not crash. -/
def filesAfter (isOpen : Path → Bool) (cached : LightType → LightState) (files : Path → String)
    (c : Call) : Path → String :=
  match c.pointer with
  | .handler h => assignAll isOpen (h.writes ((winner h cached).getD c.state)) files
  | _ => files

theorem call_table (isOpen : Path → Bool) (cached : LightType → LightState)
    (files : Path → String) (c : Call) :
    Light.call isOpen ⟨table cached, files⟩ c =
      if c.pointer = .wild then none
      else
        some ⟨table (Function.update cached c.type c.state),
          filesAfter isOpen (Function.update cached c.type c.state) files c⟩ := by
  rw [Light.call, Light.setLight, cacheState_table, filesAfter]
  cases hpointer : c.pointer with
  | null => rfl
  | wild => rfl
  | handler h =>
      have hfind := find_table h (Function.update cached c.type c.state)
      dsimp only
      rw [if_neg (by rintro ⟨⟩), ← hfind]
      cases (table (Function.update cached c.type c.state)).find?
          fun backend => h = backend.handler ∧ isLit backend.state with
      | none => rfl
      | some backend => rfl

theorem served_eq_self {calls : List Call} (h : ∀ c ∈ calls, c.pointer ≠ .wild) :
    served calls = calls := by
  rw [served, List.takeWhile_eq_self_iff]
  intro c hc
  exact decide_eq_true (h c hc)

/-- Nothing happens behind a crash. -/
theorem run_served (isOpen : Path → Bool) (cached : LightType → LightState)
    (files : Path → String) (calls : List Call) :
    Light.run isOpen ⟨table cached, files⟩ calls =
      Light.run isOpen ⟨table cached, files⟩ (served calls) := by
  induction calls generalizing cached files with
  | nil => rfl
  | cons c calls ih =>
      rw [Light.run, call_table, served, List.takeWhile_cons]
      by_cases hwild : c.pointer = .wild
      · simp [hwild, Light.run]
      · simp only [hwild, if_false, ne_eq, not_false_eq_true, decide_true, if_true]
        rw [Light.run, call_table, if_neg hwild]
        exact ih _ _

/-- One more call. -/
theorem run_concat (isOpen : Path → Bool) (cached : LightType → LightState)
    (files : Path → String) {calls : List Call} (hserved : ∀ c ∈ calls, c.pointer ≠ .wild)
    {c : Call} (hc : c.pointer ≠ .wild) {cached' : LightType → LightState}
    (hrun : (Light.run isOpen ⟨table cached, files⟩ calls).backends = table cached') :
    Light.run isOpen ⟨table cached, files⟩ (calls ++ [c]) =
      ⟨table (Function.update cached' c.type c.state),
        filesAfter isOpen (Function.update cached' c.type c.state)
          (Light.run isOpen ⟨table cached, files⟩ calls).files c⟩ := by
  induction calls generalizing cached files with
  | nil =>
      have htable : table cached = table cached' := hrun
      rw [htable]
      change (match Light.call isOpen ⟨table cached', files⟩ c with
        | none => _
        | some light => light.run isOpen []) = _
      rw [call_table, if_neg hc]
      rfl
  | cons c' calls ih =>
      have hc' := hserved c' List.mem_cons_self
      rw [Light.run, call_table, if_neg hc'] at hrun
      rw [List.cons_append, Light.run, Light.run, call_table, if_neg hc']
      exact ih _ _ (fun a ha => hserved a (List.mem_cons_of_mem c' ha)) hrun

theorem latest_nil (fresh : LightState) :
    latest fresh [] = fun _ => { fresh with color := 0xff000000 } :=
  rfl

theorem latest_append (fresh : LightState) (calls : List Call) (c : Call) :
    latest fresh (calls ++ [c]) = Function.update (latest fresh calls) c.type c.state := by
  funext type
  rw [latest, List.reverse_append, List.reverse_singleton, List.singleton_append,
    List.find?_cons]
  by_cases htype : c.type = type
  · subst htype
    simp
  · simp [htype, Function.update_of_ne (Ne.symm htype), latest]

theorem handlerOf_of_mem {h : LightStateHandler} {type : LightType} (htype : type ∈ h.types) :
    handlerOf type = some h := by
  cases h with
  | handleBacklight =>
      obtain rfl := List.mem_singleton.mp htype
      rfl
  | handleButtons =>
      obtain rfl := List.mem_singleton.mp htype
      rfl
  | handleNotification =>
      simp only [LightStateHandler.types, List.mem_cons, List.not_mem_nil, or_false] at htype
      rcases htype with rfl | rfl | rfl <;> rfl

theorem winner_update {h : LightStateHandler} {type : LightType} (htype : handlerOf type ≠ some h)
    (cached : LightType → LightState) (state : LightState) :
    winner h (Function.update cached type state) = winner h cached := by
  have hmem : ∀ t ∈ h.types, t ≠ type := by
    rintro t ht rfl
    exact htype (handlerOf_of_mem ht)
  rw [winner, winner]
  congr 1
  apply List.map_congr_left
  intro t ht
  exact Function.update_of_ne (hmem t ht) state cached

/-- What the hardware of a handler shows once the calls have been made. -/
structure Arbitrated (isOpen : Path → Bool) (files files' : Path → String)
    (cached : LightType → LightState) (calls : List Call) (h : LightStateHandler) : Prop where
  lit : ∀ state, winner h cached = some state → Shows isOpen h state files'
  unlit : winner h cached = none → ∀ c, calls.reverse.find? (Call.reaches h) = some c →
    Shows isOpen h c.state files'
  untouched : calls.reverse.find? (Call.reaches h) = none →
    ∀ path, path.led ∈ h.leds → files' path = files path

theorem isLit_fresh (fresh : LightState) : isLit { fresh with color := 0xff000000 } = false := by
  change decide ((0xff000000 : BitVec 32) &&& 0x00ffffff ≠ 0) = false
  decide

theorem winner_fresh (h : LightStateHandler) (fresh : LightState) :
    winner h (latest fresh []) = none := by
  rw [winner, List.find?_eq_none]
  intro state hstate
  obtain ⟨t, -, rfl⟩ := List.mem_map.mp hstate
  rw [latest_nil, isLit_fresh]
  exact Bool.false_ne_true

theorem find_reaches (h : LightStateHandler) (calls : List Call) (c : Call) :
    (calls ++ [c]).reverse.find? (Call.reaches h) =
      if c.pointer = .handler h then some c
      else calls.reverse.find? (Call.reaches h) := by
  rw [List.reverse_append, List.reverse_singleton, List.singleton_append, List.find?_cons,
    Call.reaches]
  by_cases hreach : c.pointer = .handler h
  · simp [hreach]
  · simp [hreach]

theorem Arbitrated.reached {isOpen : Path → Bool} {files files' : Path → String}
    {cached : LightType → LightState} {calls : List Call} {h : LightStateHandler} {c : Call}
    (hreach : c.pointer = .handler h) :
    Arbitrated isOpen files
      (assignAll isOpen (h.writes ((winner h cached).getD c.state)) files') cached
      (calls ++ [c]) h := by
  refine ⟨?_, ?_, ?_⟩
  · intro state hwin
    rw [hwin, Option.getD_some]
    exact inForce_assignAll isOpen _ files'
  · intro hwin c' hfind
    rw [find_reaches, if_pos hreach] at hfind
    obtain rfl := Option.some.inj hfind
    rw [hwin, Option.getD_none]
    exact inForce_assignAll isOpen _ files'
  · intro hfind
    rw [find_reaches, if_pos hreach] at hfind
    cases hfind

theorem Arbitrated.passed {isOpen : Path → Bool} {files files' files'' : Path → String}
    {cached : LightType → LightState} {calls : List Call} {h : LightStateHandler} {c : Call}
    (harb : Arbitrated isOpen files files' cached calls h)
    (hreach : c.pointer ≠ .handler h)
    (hshows : ∀ state, Shows isOpen h state files' → Shows isOpen h state files'')
    (hsame : ∀ path, path.led ∈ h.leds → files'' path = files' path) :
    Arbitrated isOpen files files'' (Function.update cached c.type c.state) (calls ++ [c]) h := by
  have htype : handlerOf c.type ≠ some h := by
    intro heq
    apply hreach
    rw [Call.pointer, heq]
  refine ⟨?_, ?_, ?_⟩
  · intro state hwin
    rw [winner_update htype] at hwin
    exact hshows state (harb.lit state hwin)
  · intro hwin c' hfind
    rw [winner_update htype] at hwin
    rw [find_reaches, if_neg hreach] at hfind
    exact hshows c'.state (harb.unlit hwin c' hfind)
  · intro hfind path hpath
    rw [find_reaches, if_neg hreach] at hfind
    exact (hsame path hpath).trans (harb.untouched hfind path hpath)

/-- In every run, the states cached are the ones set last, and each piece of hardware
shows the most important state that is lit, or, with none lit, the state set last. -/
theorem run_arbitrated (isOpen : Path → Bool) (fresh : LightState) (files : Path → String)
    (calls : List Call) :
    let light := (Light.start fresh files).run isOpen calls
    light.backends = table (latest fresh (served calls)) ∧
      ∀ h, Arbitrated isOpen files light.files (latest fresh (served calls)) (served calls) h := by
  have hserved : ∀ c ∈ served calls, c.pointer ≠ .wild := by
    intro c hc
    simpa using List.mem_takeWhile_imp hc
  have hstart : Light.start fresh files = ⟨table (latest fresh []), files⟩ := rfl
  rw [hstart, run_served]
  generalize served calls = calls at hserved
  induction calls using List.reverseRecOn with
  | nil =>
      refine ⟨rfl, fun h => ⟨?_, ?_, fun _ _ _ => rfl⟩⟩
      · intro state hwin
        rw [winner_fresh] at hwin
        cases hwin
      · rintro - c ⟨⟩
  | append_singleton calls c ih =>
      have hcalls : ∀ c ∈ calls, c.pointer ≠ .wild :=
        fun c' hc' => hserved c' (List.mem_append_left [c] hc')
      obtain ⟨htable, harb⟩ := ih hcalls
      have hc := hserved c (List.mem_append_right calls List.mem_cons_self)
      dsimp only
      rw [run_concat isOpen _ files hcalls hc htable, latest_append]
      refine ⟨rfl, fun h => ?_⟩
      dsimp only
      rw [filesAfter]
      cases hreach : c.pointer with
      | wild => exact absurd hreach hc
      | null =>
          have hne : c.pointer ≠ .handler h := by
            rw [hreach]
            rintro ⟨⟩
          exact (harb h).passed hne (fun _ hshows => hshows) (fun _ _ => rfl)
      | handler h' =>
          by_cases heq : h' = h
          · subst heq
            exact Arbitrated.reached hreach
          · apply (harb h).passed
            · rw [hreach]
              exact fun hsome => heq (HandlerPointer.handler.inj hsome)
            · intro state hshows
              exact hshows.frame heq
            · intro path hpath
              apply assignAll_of_forall_ne
              rintro w hw rfl
              exact heq (leds_disjoint (writes_led hw) hpath)

theorem getSupportedTypes_run (isOpen : Path → Bool) (fresh : LightState) (files : Path → String)
    (calls : List Call) :
    ((Light.start fresh files).run isOpen calls).getSupportedTypes =
      [.attention, .notifications, .battery, .backlight, .buttons] := by
  rw [Light.getSupportedTypes, (run_arbitrated isOpen fresh files calls).1]
  rfl

end LibraDevice.Lights
