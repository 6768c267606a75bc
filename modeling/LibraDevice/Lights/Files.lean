import LibraDevice.Lights.SetLight

/-!
What the files of the lights hold: the ranges of the values, blinking lights, and the dark.
-/

namespace LibraDevice.Lights

open LibraDevice.Assignments

theorem channel_le (color : BitVec 32) (shift : Nat) : (channel color shift).toNat ≤ 255 := by
  rw [channel, BitVec.toNat_and]
  exact Nat.and_le_right

theorem scale_toNat {a b : BitVec 32} (ha : a.toNat ≤ 3200) (hb : b.toNat ≤ 3200) :
    (a * b / 0xFF).toNat = a.toNat * b.toNat / 255 := by
  have hmul : a.toNat * b.toNat ≤ 3200 * 3200 := Nat.mul_le_mul ha hb
  rw [BitVec.toNat_udiv, BitVec.toNat_mul, Nat.mod_eq_of_lt (by omega)]
  rfl

theorem scaled_le {a b : Nat} (hb : b ≤ 255) : a * b / 255 ≤ a :=
  Nat.div_le_of_le_mul (Nat.mul_comm 255 a ▸ Nat.mul_le_mul_left a hb)

theorem scaledChannel_le (color : BitVec 32) (shift : Nat) :
    (scaledChannel color shift).toNat ≤ 255 := by
  have hchannel := channel_le color shift
  have halpha := channel_le color 24
  rw [scaledChannel]
  split
  · rw [scale_toNat (by omega) (by omega)]
    exact (scaled_le halpha).trans hchannel
  · exact hchannel

theorem getBrightness_toNat (state : LightState) :
    (getBrightness state).toNat =
      (77 * (scaledChannel state.color 16).toNat + 150 * (scaledChannel state.color 8).toNat +
        29 * (scaledChannel state.color 0).toNat) / 256 := by
  have hred := scaledChannel_le state.color 16
  have hgreen := scaledChannel_le state.color 8
  have hblue := scaledChannel_le state.color 0
  rw [getBrightness, BitVec.toNat_ushiftRight, Nat.shiftRight_eq_div_pow]
  congr 1
  have hweights : (77 : BitVec 32).toNat = 77 ∧ (150 : BitVec 32).toNat = 150 ∧
      (29 : BitVec 32).toNat = 29 := ⟨rfl, rfl, rfl⟩
  simp only [BitVec.toNat_add, BitVec.toNat_mul, hweights]
  omega

theorem getScaledBrightness_le (state : LightState) {maxBrightness : BitVec 32}
    (hmax : maxBrightness.toNat ≤ 3200) :
    (getScaledBrightness state maxBrightness).toNat ≤ maxBrightness.toNat := by
  have hred := scaledChannel_le state.color 16
  have hgreen := scaledChannel_le state.color 8
  have hblue := scaledChannel_le state.color 0
  have hle : (getBrightness state).toNat ≤ 255 := by
    rw [getBrightness_toNat]
    omega
  rw [getScaledBrightness, scaleBrightness, scale_toNat (by omega) hmax, Nat.mul_comm]
  exact scaled_le hle

/-- The text of eight ascending duty percents. -/
def IsRamp (text : String) : Prop :=
  ∃ pcts : List Nat, text = ",".intercalate (pcts.map toString) ∧ pcts.length = 8 ∧
    pcts.Pairwise (· ≤ ·) ∧ ∀ pct ∈ pcts, pct ≤ 100

theorem padded_eq (texts : List String) :
    texts.foldl (fun (ramp, pad) text => (ramp ++ (pad ++ text), ",")) ("", "") =
      (",".intercalate texts, if texts = [] then "" else ",") := by
  induction texts using List.reverseRecOn with
  | nil => rfl
  | append_singleton texts text ih =>
      rw [List.foldl_concat, ih]
      by_cases hnil : texts = []
      · subst hnil
        simp
      · rw [String.intercalate_append_of_ne_nil hnil (List.cons_ne_nil _ _)]
        simp [hnil, String.append_assoc]

theorem step_toString {step brightness : BitVec 32} (hstep : step.toNat ≤ 100)
    (hbrightness : brightness.toNat ≤ 255) :
    toString (step * brightness / 0xFF).toInt = toString (step.toNat * brightness.toNat / 255) := by
  have hscale := scale_toNat (a := step) (b := brightness) (by omega) (by omega)
  have hle : step.toNat * brightness.toNat / 255 ≤ step.toNat := scaled_le hbrightness
  rw [BitVec.toInt_eq_toNat_of_lt (by omega), hscale]
  rfl

theorem getScaledRamp_isRamp {brightness : BitVec 32} (hbrightness : brightness.toNat ≤ 255) :
    IsRamp (getScaledRamp brightness) := by
  have hsteps : ∀ step ∈ brightnessRamp, step.toNat ≤ 100 := by simp [brightnessRamp]
  have hascending : brightnessRamp.Pairwise fun a b => a.toNat ≤ b.toNat := by
    simp [brightnessRamp]
  refine ⟨brightnessRamp.map fun step => step.toNat * brightness.toNat / 255, ?_, ?_, ?_, ?_⟩
  · have htexts : brightnessRamp.map (fun step => toString (step * brightness / 0xFF).toInt) =
        (brightnessRamp.map fun step => step.toNat * brightness.toNat / 255).map toString := by
      rw [List.map_map]
      apply List.map_congr_left
      intro step hstep
      exact step_toString (hsteps step hstep) hbrightness
    have hjoined := congrArg Prod.fst
      (padded_eq (brightnessRamp.map fun step => toString (step * brightness / 0xFF).toInt))
    rw [List.foldl_map, htexts] at hjoined
    exact hjoined
  · rfl
  · rw [List.pairwise_map]
    apply hascending.imp
    intro a b hab
    exact Nat.div_le_div_right (Nat.mul_le_mul_right _ hab)
  · intro pct hpct
    obtain ⟨step, hstep, rfl⟩ := List.mem_map.mp hpct
    exact (scaled_le hbrightness).trans (hsteps step hstep)

/-- Ramping up and down and the pause at the top fit the time the light is on, and fill
it up to less than one millisecond for each step. -/
theorem blinkTimes_fit {flashOnMs : Int} (hon : 0 ≤ flashOnMs) :
    ∃ step hi : Nat, blinkTimes flashOnMs = (↑step, ↑hi) ∧ step ≤ 50 ∧
      (16 * step + hi : Int) ≤ flashOnMs ∧ flashOnMs < 16 * step + hi + 16 := by
  have htimes : blinkTimes flashOnMs =
      if flashOnMs - 800 < 0 then (flashOnMs.tdiv 16, 0) else (50, flashOnMs - 800) := rfl
  rw [htimes]
  by_cases hshort : flashOnMs - 800 < 0
  · rw [if_pos hshort, Int.tdiv_eq_ediv_of_nonneg hon]
    refine ⟨(flashOnMs / 16).toNat, 0, ?_, by omega, by omega, by omega⟩
    rw [Int.toNat_of_nonneg (by omega)]
    rfl
  · rw [if_neg hshort]
    refine ⟨50, (flashOnMs - 800).toNat, ?_, by omega, by omega, by omega⟩
    rw [Int.toNat_of_nonneg (by omega)]
    rfl

/-- The texts the drivers of the lights take. -/
def Legal (path : Path) (text : String) : Prop :=
  match path.file with
  | .brightness =>
      ∃ n : Nat, text = toString n ∧ n ≤ if path.led = .lcdBacklight then 3200 else 255
  | .dutyPcts => IsRamp text
  | .startIdx => text = "0" ∨ text = "8" ∨ text = "16"
  | .pauseLo => ∃ n : Nat, text = toString n
  | .pauseHi => ∃ n : Nat, text = toString n
  | .rampStepMs => ∃ n : Nat, text = toString n ∧ n ≤ 50
  | .rgbBlink => text = "0" ∨ text = "1"

def LightState.TimesOk (state : LightState) : Prop :=
  state.flashMode = .timed → 0 ≤ state.flashOnMs.toInt ∧ 0 ≤ state.flashOffMs.toInt

theorem blink_legal {led : Led} {index pauseLo : Int} {brightness : BitVec 32} {hi step : Nat}
    (hindex : index = 0 ∨ index = 1 ∨ index = 2) (hbrightness : brightness.toNat ≤ 255)
    (hlo : 0 ≤ pauseLo) (hstep : step ≤ 50) :
    ∀ w ∈ blink led index brightness pauseLo hi step, Legal w.1 w.2 := by
  intro w hw
  simp only [blink, number, List.mem_cons, List.not_mem_nil, or_false] at hw
  rcases hw with rfl | rfl | rfl | rfl | rfl
  · rcases hindex with rfl | rfl | rfl
    · exact Or.inl rfl
    · exact Or.inr (Or.inl rfl)
    · exact Or.inr (Or.inr rfl)
  · exact getScaledRamp_isRamp hbrightness
  · obtain ⟨n, rfl⟩ := Int.eq_ofNat_of_zero_le hlo
    exact ⟨n, rfl⟩
  · exact ⟨hi, rfl⟩
  · exact ⟨step, rfl, hstep⟩

theorem brightness_legal {led : Led} {n : Nat} (hn : n ≤ 255) :
    Legal ⟨led, .brightness⟩ (toString (n : Int)) := by
  refine ⟨n, rfl, ?_⟩
  split
  · exact hn.trans (by decide)
  · exact hn

theorem writes_legal {h : LightStateHandler} {state : LightState} (htimes : state.TimesOk) :
    ∀ w ∈ h.writes state, Legal w.1 w.2 := by
  intro w hw
  cases h with
  | handleBacklight =>
      obtain rfl := List.mem_singleton.mp hw
      exact ⟨_, rfl, getScaledBrightness_le state le_rfl⟩
  | handleButtons =>
      have hle : (getScaledBrightness state maxLedBrightness).toNat ≤ 255 :=
        getScaledBrightness_le state (by decide)
      rcases List.mem_pair.mp hw with rfl | rfl
      · exact brightness_legal hle
      · exact brightness_legal hle
  | handleNotification =>
      have hchannel : ∀ shift, (scaledChannel state.color shift).toNat ≤ 255 :=
        scaledChannel_le state.color
      rcases List.mem_cons.mp hw with rfl | hw
      · exact Or.inl rfl
      · split at hw
        · rename_i htimed
          obtain ⟨hon, hoff⟩ := htimes htimed
          obtain ⟨step, hi, htimes, hstep, -, -⟩ := blinkTimes_fit hon
          rw [htimes] at hw
          simp only [List.mem_append, List.mem_singleton] at hw
          rcases hw with ((hw | hw) | hw) | rfl
          · exact blink_legal (Or.inl rfl) (hchannel 16) hoff hstep w hw
          · exact blink_legal (Or.inr (Or.inl rfl)) (hchannel 8) hoff hstep w hw
          · exact blink_legal (Or.inr (Or.inr rfl)) (hchannel 0) hoff hstep w hw
          · exact Or.inr rfl
        · simp only [List.mem_cons, List.not_mem_nil, or_false] at hw
          rcases hw with rfl | rfl | rfl
          · exact brightness_legal (hchannel 16)
          · exact brightness_legal (hchannel 8)
          · exact brightness_legal (hchannel 0)

theorem exists_call_of_isLit {fresh : LightState} {calls : List Call} {type : LightType}
    (hlit : isLit (latest fresh calls type) = true) :
    ∃ c ∈ calls, c.state = latest fresh calls type := by
  rw [latest] at hlit ⊢
  cases hfind : calls.reverse.find? fun c => c.type = type with
  | none =>
      rw [hfind] at hlit
      have hunlit := isLit_fresh fresh
      exact absurd (hlit.symm.trans hunlit) Bool.noConfusion
  | some c => exact ⟨c, List.mem_reverse.mp (List.mem_of_find?_eq_some hfind), rfl⟩

theorem exists_call_of_winner {h : LightStateHandler} {fresh state : LightState}
    {calls : List Call} (hwin : winner h (latest fresh calls) = some state) :
    ∃ c ∈ calls, c.state = state := by
  have hlit := List.find?_some hwin
  obtain ⟨t, -, rfl⟩ := List.mem_map.mp (List.mem_of_find?_eq_some hwin)
  exact exists_call_of_isLit hlit

/-- In every run, a file is as it was at the start or holds a text its driver takes. -/
theorem run_legal (isOpen : Path → Bool) (fresh : LightState) (files : Path → String)
    {calls : List Call} (htimes : ∀ c ∈ calls, c.state.TimesOk) (path : Path) :
    let files' := ((Light.start fresh files).run isOpen calls).files
    files' path = files path ∨ Legal path (files' path) := by
  have hserved : ∀ c ∈ served calls, c.pointer ≠ .wild := by
    intro c hc
    simpa using List.mem_takeWhile_imp hc
  have hok : ∀ c ∈ served calls, c.state.TimesOk :=
    fun c hc => htimes c (List.takeWhile_subset _ hc)
  have hstart : Light.start fresh files = ⟨table (latest fresh []), files⟩ := rfl
  have htable := fun cs => (run_arbitrated isOpen fresh files cs).1
  rw [hstart] at htable ⊢
  rw [run_served]
  generalize served calls = calls at hserved hok
  induction calls using List.reverseRecOn generalizing path with
  | nil => exact Or.inl rfl
  | append_singleton calls c ih =>
      have hcalls : ∀ c ∈ calls, c.pointer ≠ .wild :=
        fun c' hc' => hserved c' (List.mem_append_left [c] hc')
      have hc := hserved c (List.mem_append_right calls List.mem_cons_self)
      replace ih := fun path => ih path hcalls fun c' hc' => hok c' (List.mem_append_left [c] hc')
      have hbefore := htable calls
      rw [served_eq_self hcalls] at hbefore
      dsimp only
      rw [run_concat isOpen _ files hcalls hc hbefore, ← latest_append, filesAfter]
      dsimp only
      cases c.pointer with
      | null => exact ih path
      | wild => exact ih path
      | handler h =>
          have hshown : ((winner h (latest fresh (calls ++ [c]))).getD c.state).TimesOk := by
            cases hwin : winner h (latest fresh (calls ++ [c])) with
            | none => exact hok c (List.mem_append_right _ List.mem_cons_self)
            | some state =>
                obtain ⟨c', hc', rfl⟩ := exists_call_of_winner hwin
                exact hok c' hc'
          exact assignAll_forall (P := fun path text => text = files path ∨ Legal path text) ih
            (fun w hw => Or.inr (writes_legal hshown w hw)) path

/-- A blinking light, then a steady one that is more important. -/
def messageAndAlarm : List Call :=
  [⟨.notifications, ⟨0xff00ff00, .timed, 500, 2000⟩, .null⟩,
    ⟨.attention, ⟨0x80ff0000, .none, 0, 0⟩, .null⟩]

theorem run_legal_messageAndAlarm :
    let files' := ((Light.start ⟨0, .none, 0, 0⟩ fun _ => "").run (fun _ => true)
      messageAndAlarm).files
    files' ⟨.green, .pauseLo⟩ = "" ∨ Legal ⟨.green, .pauseLo⟩ (files' ⟨.green, .pauseLo⟩) :=
  run_legal (fun _ => true) ⟨0, .none, 0, 0⟩ (fun _ => "")
    (by simp [messageAndAlarm, LightState.TimesOk]) ⟨.green, .pauseLo⟩

/-- While the light that is shown blinks, each color is given the ramp and the times of the
light, and what it is on for fits. -/
theorem run_blinks (isOpen : Path → Bool) (fresh : LightState) (files : Path → String)
    (calls : List Call) {state : LightState}
    (hwin : winner .handleNotification (latest fresh (served calls)) = some state)
    (htimed : state.flashMode = .timed) (hon : 0 ≤ state.flashOnMs.toInt)
    {led : Led} (hled : led = .red ∨ led = .green ∨ led = .blue)
    (hopen : ∀ file, isOpen ⟨led, file⟩ = true) :
    let files' := ((Light.start fresh files).run isOpen calls).files
    IsRamp (files' ⟨led, .dutyPcts⟩) ∧
      files' ⟨led, .pauseLo⟩ = toString state.flashOffMs.toInt ∧
      ∃ step hi : Nat,
        files' ⟨led, .rampStepMs⟩ = toString step ∧ files' ⟨led, .pauseHi⟩ = toString hi ∧
          step ≤ 50 ∧ (16 * step + hi : Int) ≤ state.flashOnMs.toInt ∧
            state.flashOnMs.toInt < 16 * step + hi + 16 := by
  have hshows := ((run_arbitrated isOpen fresh files calls).2 .handleNotification).lit state hwin
  obtain ⟨step, hi, htimes, hstep, hfits, hfills⟩ := blinkTimes_fit hon
  have hchannel := scaledChannel_le state.color
  rw [Shows, LightStateHandler.writes, handleNotification, if_pos htimed, htimes] at hshows
  intro files'
  have hholds := fun (file : Attribute) (text : String) hlast =>
    hshows ⟨led, file⟩ text hlast (hopen file)
  rcases hled with rfl | rfl | rfl
  · refine ⟨?_, hholds _ _ rfl, step, hi, hholds _ _ rfl, hholds _ _ rfl, hstep, hfits, hfills⟩
    have hramp : files' _ = getScaledRamp (scaledChannel state.color 16) := hholds .dutyPcts _ rfl
    exact hramp ▸ getScaledRamp_isRamp (hchannel 16)
  · refine ⟨?_, hholds _ _ rfl, step, hi, hholds _ _ rfl, hholds _ _ rfl, hstep, hfits, hfills⟩
    have hramp : files' _ = getScaledRamp (scaledChannel state.color 8) := hholds .dutyPcts _ rfl
    exact hramp ▸ getScaledRamp_isRamp (hchannel 8)
  · refine ⟨?_, hholds _ _ rfl, step, hi, hholds _ _ rfl, hholds _ _ rfl, hstep, hfits, hfills⟩
    have hramp : files' _ = getScaledRamp (scaledChannel state.color 0) := hholds .dutyPcts _ rfl
    exact hramp ▸ getScaledRamp_isRamp (hchannel 0)

theorem run_blinks_message :
    let files' := ((Light.start ⟨0, .none, 0, 0⟩ fun _ => "").run (fun _ => true)
      [⟨.notifications, ⟨0xff00ff00, .timed, 500, 2000⟩, .null⟩]).files
    IsRamp (files' ⟨.green, .dutyPcts⟩) ∧ files' ⟨.green, .pauseLo⟩ = toString (2000 : Int) ∧
      ∃ step hi : Nat,
        files' ⟨.green, .rampStepMs⟩ = toString step ∧ files' ⟨.green, .pauseHi⟩ = toString hi ∧
          step ≤ 50 ∧ (16 * step + hi : Int) ≤ 500 ∧ (500 : Int) < 16 * step + hi + 16 :=
  @run_blinks (fun _ => true) ⟨0, .none, 0, 0⟩ (fun _ => "")
    [⟨.notifications, ⟨0xff00ff00, .timed, 500, 2000⟩, .null⟩]
    ⟨0xff00ff00, .timed, 500, 2000⟩ (by decide) rfl (by decide) .green
    (Or.inr (Or.inl rfl)) (fun _ => rfl)

theorem scaledChannel_unlit {state : LightState} (hunlit : isLit state = false) {shift : Nat}
    (hshift : shift = 0 ∨ shift = 8 ∨ shift = 16) :
    (scaledChannel state.color shift).toNat = 0 := by
  have hand : state.color &&& 0x00ffffff = 0 := by simpa [isLit] using hunlit
  have hmod : state.color.toNat % 2 ^ 24 = 0 := by
    have htoNat := congrArg BitVec.toNat hand
    rw [BitVec.toNat_and] at htoNat
    change state.color.toNat &&& (2 ^ 24 - 1) = 0 at htoNat
    rwa [Nat.and_two_pow_sub_one_eq_mod] at htoNat
  have hchannel : (channel state.color shift).toNat = 0 := by
    rw [channel, BitVec.toNat_and, BitVec.toNat_ushiftRight, Nat.shiftRight_eq_div_pow]
    change state.color.toNat / 2 ^ shift &&& (2 ^ 8 - 1) = 0
    rw [Nat.and_two_pow_sub_one_eq_mod]
    rcases hshift with rfl | rfl | rfl <;> omega
  rw [scaledChannel]
  split
  · have halpha := channel_le state.color 24
    rw [scale_toNat (by omega) (by omega), hchannel, Nat.zero_mul]
  · exact hchannel

theorem getScaledBrightness_unlit {state : LightState} (hunlit : isLit state = false)
    {maxBrightness : BitVec 32} (hmax : maxBrightness.toNat ≤ 3200) :
    (getScaledBrightness state maxBrightness).toNat = 0 := by
  have hzero : (getBrightness state).toNat = 0 := by
    rw [getBrightness_toNat, scaledChannel_unlit hunlit (Or.inl rfl),
      scaledChannel_unlit hunlit (Or.inr (Or.inl rfl)),
      scaledChannel_unlit hunlit (Or.inr (Or.inr rfl))]
  rw [getScaledBrightness, scaleBrightness, scale_toNat (by omega) hmax, hzero, Nat.zero_mul]

/-- The files that make a piece of hardware dark when they hold zero. -/
def LightStateHandler.switches : LightStateHandler → List Path
  | .handleBacklight => [⟨.lcdBacklight, .brightness⟩]
  | .handleButtons => [⟨.buttonBacklight, .brightness⟩, ⟨.buttonBacklight1, .brightness⟩]
  | .handleNotification =>
      [⟨.rgb, .rgbBlink⟩, ⟨.red, .brightness⟩, ⟨.green, .brightness⟩, ⟨.blue, .brightness⟩]

theorem lastValue_unlit {h : LightStateHandler} {state : LightState}
    (hunlit : isLit state = false) (hmode : state.flashMode ≠ .timed) {path : Path}
    (hpath : path ∈ h.switches) : lastValue path (h.writes state) = some "0" := by
  have hzero : toString ((0 : Nat) : Int) = "0" := rfl
  cases h with
  | handleBacklight =>
      obtain rfl := List.mem_singleton.mp hpath
      change some (toString (_ : Int)) = _
      rw [getScaledBrightness_unlit hunlit le_rfl, hzero]
  | handleButtons =>
      have hdark : (getScaledBrightness state maxLedBrightness).toNat = 0 :=
        getScaledBrightness_unlit hunlit (by decide)
      rcases List.mem_pair.mp hpath with rfl | rfl
      · change some (toString (_ : Int)) = _
        rw [hdark, hzero]
      · change some (toString (_ : Int)) = _
        rw [hdark, hzero]
  | handleNotification =>
      rw [LightStateHandler.writes, handleNotification, if_neg hmode,
        scaledChannel_unlit hunlit (Or.inl rfl), scaledChannel_unlit hunlit (Or.inr (Or.inl rfl)),
        scaledChannel_unlit hunlit (Or.inr (Or.inr rfl))]
      simp only [LightStateHandler.switches, List.mem_cons, List.not_mem_nil, or_false] at hpath
      rcases hpath with rfl | rfl | rfl | rfl <;> rfl

theorem find_narrower {α : Type} {p q : α → Bool} {l : List α} {a : α}
    (hfind : l.find? p = some a) (ha : q a = true) (himp : ∀ b, q b = true → p b = true) :
    l.find? q = some a := by
  induction l with
  | nil => cases hfind
  | cons b l ih =>
      rw [List.find?_cons] at hfind ⊢
      cases hq : q b with
      | true =>
          rw [himp b hq] at hfind
          exact hfind
      | false =>
          cases hp : p b with
          | true =>
              rw [hp] at hfind
              obtain rfl := Option.some.inj hfind
              exact absurd (ha.symm.trans hq) Bool.noConfusion
          | false =>
              rw [hp] at hfind
              exact ih hfind

theorem mem_types {h : LightStateHandler} {type : LightType} (htype : handlerOf type = some h) :
    type ∈ h.types := by
  cases type <;> cases htype <;> decide

/-- Once every light of a piece of hardware is off, and the last of them was not set to blink,
the hardware is dark. -/
theorem run_dark (isOpen : Path → Bool) (fresh : LightState) (files : Path → String)
    {calls : List Call}
    (hstale : ∀ c ∈ calls, handlerOf c.type = none → ∀ h, c.stale ≠ .handler h)
    {h : LightStateHandler} (hunlit : winner h (latest fresh (served calls)) = none) {c : Call}
    (hlast : (served calls).reverse.find? (Call.reaches h) = some c)
    (hmode : c.state.flashMode ≠ .timed) {path : Path} (hpath : path ∈ h.switches)
    (hopen : isOpen path = true) :
    ((Light.start fresh files).run isOpen calls).files path = "0" := by
  have hshows := ((run_arbitrated isOpen fresh files calls).2 h).unlit hunlit c hlast
  have hmem : c ∈ calls :=
    List.takeWhile_subset _ (List.mem_reverse.mp (List.mem_of_find?_eq_some hlast))
  have hreaches : c.pointer = .handler h := by
    simpa [Call.reaches] using List.find?_some hlast
  have htype : handlerOf c.type = some h := by
    rw [Call.pointer] at hreaches
    cases hhandler : handlerOf c.type with
    | none =>
        rw [hhandler] at hreaches
        exact absurd hreaches (hstale c hmem hhandler h)
    | some h' =>
        rw [hhandler] at hreaches
        rw [HandlerPointer.handler.inj hreaches]
  have hlatest : latest fresh (served calls) c.type = c.state := by
    have hfind : (served calls).reverse.find? (fun c' => c'.type = c.type) = some c := by
      apply find_narrower hlast (decide_eq_true rfl)
      intro c' hc'
      rw [Call.reaches, Call.pointer, of_decide_eq_true hc', htype]
      exact decide_eq_true rfl
    rw [latest, hfind]
  have hoff : isLit c.state = false := by
    rw [winner, List.find?_eq_none] at hunlit
    have hnot := hunlit _ (List.mem_map.mpr ⟨c.type, mem_types htype, rfl⟩)
    rw [hlatest] at hnot
    exact Bool.eq_false_iff.mpr hnot
  exact hshows path "0" (lastValue_unlit hoff hmode hpath) hopen

theorem run_dark_backlight :
    ((Light.start ⟨0, .none, 0, 0⟩ fun _ => "").run (fun _ => true)
      [⟨.backlight, ⟨0xffffffff, .none, 0, 0⟩, .null⟩,
        ⟨.backlight, ⟨0xff000000, .none, 0, 0⟩, .null⟩]).files ⟨.lcdBacklight, .brightness⟩ =
      "0" :=
  run_dark (fun _ => true) ⟨0, .none, 0, 0⟩ (fun _ => "") (h := .handleBacklight)
    (c := ⟨.backlight, ⟨0xff000000, .none, 0, 0⟩, .null⟩)
    (by simp) (by decide) (by decide) (by decide) (List.mem_singleton.mpr rfl) rfl

end LibraDevice.Lights
