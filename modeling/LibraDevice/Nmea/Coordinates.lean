import LibraDevice.Nmea.Position
import LibraDevice.Lib.DecimalRounding

/-!
The conversions on whole numbers, as `printf` does them, and what the sentences of a
position report say of the fix, in exact arithmetic.
-/

namespace LibraDevice.Nmea

def decimalDigit (n : Nat) : Char :=
  ['0', '1', '2', '3', '4', '5', '6', '7', '8', '9'].getD n '0'

/-- The digits of a number, with enough fuel for each of them. -/
def decimalDigits : Nat → Nat → List Char
  | 0, _ => []
  | fuel + 1, n =>
      if n < 10 then [decimalDigit n]
      else decimalDigits fuel (n / 10) ++ [decimalDigit (n % 10)]

def zeroPadded (width n : Nat) : List Char :=
  List.replicate (width - (decimalDigits (n + 1) n).length) '0' ++ decimalDigits (n + 1) n

/-- `%0wd`. -/
def printInt (width : Nat) (n : Int) : List Char :=
  if n < 0 then '-' :: zeroPadded (width - 1) n.natAbs else zeroPadded width n.natAbs

/-- `%2.2d`. -/
def printInt22 (n : Int) : List Char :=
  if n < 0 then '-' :: zeroPadded 2 n.natAbs else zeroPadded 2 n.natAbs

theorem decimalDigit_all {q : Char → Bool}
    (hq : ['0', '1', '2', '3', '4', '5', '6', '7', '8', '9'].all q = true) (n : Nat) :
    q (decimalDigit n) = true := by
  rw [List.all_eq_true] at hq
  rw [decimalDigit, List.getD_eq_getElem?_getD]
  rcases h : ['0', '1', '2', '3', '4', '5', '6', '7', '8', '9'][n]? with _ | c
  · exact hq '0' List.mem_cons_self
  · exact hq c (List.mem_of_getElem? h)

theorem decimalDigits_all {q : Char → Bool}
    (hq : ['0', '1', '2', '3', '4', '5', '6', '7', '8', '9'].all q = true) (fuel n : Nat) :
    (decimalDigits fuel n).all q = true := by
  induction fuel generalizing n with
  | zero => rfl
  | succ fuel ih =>
      rw [decimalDigits]
      split_ifs
      · simp [decimalDigit_all hq]
      · rw [List.all_append, ih]
        simp [decimalDigit_all hq]

theorem zeroPadded_all {q : Char → Bool}
    (hq : ['0', '1', '2', '3', '4', '5', '6', '7', '8', '9'].all q = true) (width n : Nat) :
    (zeroPadded width n).all q = true := by
  have hzero : q '0' = true := List.all_eq_true.mp hq '0' List.mem_cons_self
  rw [zeroPadded, List.all_append, decimalDigits_all hq]
  simp [hzero]

theorem zeroPadded_body (width n : Nat) : (zeroPadded width n).all isBody = true :=
  zeroPadded_all (by decide) width n

theorem decimalDigits_ne_nil (fuel n : Nat) : decimalDigits (fuel + 1) n ≠ [] := by
  rw [decimalDigits]
  split_ifs <;> simp

theorem zeroPadded_ne_nil (width n : Nat) : zeroPadded width n ≠ [] := by
  intro h
  exact decimalDigits_ne_nil n n (List.append_eq_nil_iff.mp h).2

theorem signed_body (negative : Prop) [Decidable negative] {s t : List Char}
    (hs : s.all isBody = true) (ht : t.all isBody = true) :
    (if negative then '-' :: s else t).all isBody = true := by
  have hminus : isBody '-' = true := by decide
  split_ifs
  · rw [List.all_cons, hminus, hs]
    rfl
  · exact ht

theorem signed_ne_nil (negative : Prop) [Decidable negative] {s t : List Char} (ht : t ≠ []) :
    (if negative then '-' :: s else t) ≠ [] := by
  split_ifs
  · exact List.cons_ne_nil _ _
  · exact ht

def intText (width : Nat) (n : Int) : NumText where
  text := printInt width n
  nonempty := signed_ne_nil _ (zeroPadded_ne_nil _ _)
  body := signed_body _ (zeroPadded_body _ _) (zeroPadded_body _ _)

def int22Text (n : Int) : NumText where
  text := printInt22 n
  nonempty := signed_ne_nil _ (zeroPadded_ne_nil _ _)
  body := signed_body _ (zeroPadded_body _ _) (zeroPadded_body _ _)

/-- A whole number with a point and zeros behind it. -/
def wholeText (width zeros : Nat) (n : Int) : NumText where
  text := printInt width n ++ '.' :: List.replicate zeros '0'
  nonempty := by simp
  body := by
    have hzero : isBody '0' = true := by decide
    have hpoint : isBody '.' = true := by decide
    have hint : (printInt width n).all isBody = true := (intText width n).body
    rw [List.all_append, hint, List.all_cons, hpoint]
    simp [hzero]

/-- Printing where every floating point value is a whole number. -/
def wholePrintf : Printf Int where
  d := intText
  d22 := int22Text
  f1 := wholeText 0 1
  f6 := wholeText 2 6

/-- The operations on whole numbers; the constants that are none are cut. -/
def wholeOps : FloatOps Int where
  const := fun q => q.floor
  single := id
  lt := fun a b => decide (a < b)
  add := (· + ·)
  sub := (· - ·)
  mul := (· * ·)
  fmod := Int.tmod
  floorU8 := fun x => UInt8.ofInt x
  toInt := id

open DecimalRounding

/-- `trunc`. -/
def truncate (x : ℚ) : ℤ :=
  if x < 0 then ⌈x⌉ else ⌊x⌋

/-- The operations on exact numbers. -/
def exactOps : FloatOps ℚ where
  const := id
  single := id
  lt := fun x y => decide (x < y)
  add := (· + ·)
  sub := (· - ·)
  mul := (· * ·)
  fmod := fun x y => x - y * truncate (x / y)
  floorU8 := fun x => UInt8.ofInt ⌊x⌋
  toInt := truncate

/-- An angle as it is printed: the digits of the degrees and of the minutes, and the
hemisphere. -/
structure PrintedAngle where
  degrees : ℚ
  minutes : ℚ
  hemisphere : Char

/-- The place that a piece prints; minutes have six digits behind the point. -/
def readPlace : Piece ℚ → Option (PrintedAngle × PrintedAngle)
  | [.d 2 latDegrees, .f6 latMinutes, .lit [','], .c latHemisphere, .lit [','], .d 3 lonDegrees,
      .f6 lonMinutes, .lit [','], .c lonHemisphere, .lit [',']] =>
      some (⟨latDegrees, roundTo 6 latMinutes, latHemisphere⟩,
        ⟨lonDegrees, roundTo 6 lonMinutes, lonHemisphere⟩)
  | _ => none

/-- The second of the tracks that a piece prints, with one digit behind the point. -/
def readMagTrack : Piece ℚ → Option ℚ
  | [.lit _, .f1 _, .lit [',', 'T', ','], .f1 track, .lit [',', 'M', ',']] =>
      some (roundTo 1 track)
  | _ => none

/-- The angle in minutes, north and east counted positive. -/
def PrintedAngle.decode (angle : PrintedAngle) : Option ℚ :=
  if angle.hemisphere = 'N' ∨ angle.hemisphere = 'E' then
    some (angle.degrees * 60 + angle.minutes)
  else if angle.hemisphere = 'S' ∨ angle.hemisphere = 'W' then
    some (-(angle.degrees * 60 + angle.minutes))
  else none

/-- The printed angle is the angle to half a millionth of a minute, with less than sixty
minutes. -/
def PrintedAngle.Encodes (angle : PrintedAngle) (degrees : ℚ) : Prop :=
  (∃ minutes, angle.decode = some minutes ∧ |minutes - degrees * 60| ≤ 5 / 10 ^ 7) ∧
    angle.minutes < 60

/-- The angle in `[0, 360)`. -/
def modulo360 (x : ℚ) : ℚ :=
  x - 360 * ⌊x / 360⌋

/-- The sentences of a report encode the fix. -/
structure FixEncoded (tm : Tm) (loc : GpsLocation ℚ) (ext : GpsLocationExtended ℚ)
    (eng : LocEngData ℚ) : Prop where
  place : ∀ latitude longitude, loc.latLong = some (latitude, longitude) →
    ∃ lat lon, ((gprmc exactOps tm loc ext eng).checked[1]?.bind readPlace) = some (lat, lon) ∧
      ((gpgga exactOps tm loc ext eng).checked[1]?.bind readPlace) = some (lat, lon) ∧
      lat.Encodes latitude ∧ lon.Encodes longitude
  track : ∀ bearing deviation, loc.bearing = some bearing →
    ext.magneticDeviation = some deviation →
    ((gpvtg exactOps loc eng).checked[0]?.bind readMagTrack) =
      some (roundTo 1 (modulo360 (bearing - deviation)))

/-- The values are those that the engine reports. -/
structure InRange (loc : GpsLocation ℚ) (ext : GpsLocationExtended ℚ) : Prop where
  latitude : ∀ latitude longitude, loc.latLong = some (latitude, longitude) →
    -90 ≤ latitude ∧ latitude ≤ 90
  longitude : ∀ latitude longitude, loc.latLong = some (latitude, longitude) →
    -180 ≤ longitude ∧ longitude ≤ 180
  bearing : ∀ bearing, loc.bearing = some bearing → 0 ≤ bearing ∧ bearing < 360
  deviation : ∀ deviation, ext.magneticDeviation = some deviation →
    -180 ≤ deviation ∧ deviation ≤ 180

/-- No minutes are rounded up to sixty, and no deviation shows in the first digit of the
track. -/
structure Unrounded (loc : GpsLocation ℚ) (ext : GpsLocationExtended ℚ) : Prop where
  place : ∀ latitude longitude, loc.latLong = some (latitude, longitude) →
    60 * Int.fract |latitude| < 60 - 5 / 10 ^ 7 ∧ 60 * Int.fract |longitude| < 60 - 5 / 10 ^ 7
  track : ∀ bearing deviation, loc.bearing = some bearing →
    ext.magneticDeviation = some deviation →
    0 ≤ bearing - deviation ∧ bearing - deviation < 360 ∧
      roundTo 1 (bearing - deviation) = roundTo 1 bearing

theorem minutesOf_exactOps {x : ℚ} (hx : 0 ≤ x) :
    minutesOf exactOps x = 60 * Int.fract x := by
  have hscale : x * 60 / 60 = x := by ring
  change x * 60 - 60 * (truncate (x * 60 / 60) : ℚ) = 60 * Int.fract x
  rw [hscale, truncate, if_neg (not_lt.mpr hx), Int.fract]
  ring

theorem floorU8_exactOps {x : ℚ} (hx : 0 ≤ x) (hle : x ≤ 180) :
    ((exactOps.floorU8 x).toNat : ℤ) = ⌊x⌋ := by
  have hlow : 0 ≤ ⌊x⌋ := Int.floor_nonneg.mpr hx
  have hhigh : ⌊x⌋ ≤ 180 := by
    have hfloor : (⌊x⌋ : ℚ) ≤ 180 := (Int.floor_le x).trans hle
    exact_mod_cast hfloor
  change ((UInt8.ofNat (⌊x⌋ % 256).toNat).toNat : ℤ) = ⌊x⌋
  have hmod : ⌊x⌋ % 256 = ⌊x⌋ := Int.emod_eq_of_lt hlow (by omega)
  have hlt : ⌊x⌋.toNat < 256 := by omega
  have htoNat : (UInt8.ofNat ⌊x⌋.toNat).toNat = ⌊x⌋.toNat := UInt8.toNat_ofNat_of_lt hlt
  rw [hmod, htoNat, Int.toNat_of_nonneg hlow]

theorem splitLatitude_exactOps (x : ℚ) :
    splitLatitude exactOps x = (if 0 < x then 'N' else 'S', |x|) := by
  change (if decide ((0 : ℚ) < x) = true then ('N', x) else ('S', x * (-1))) = _
  rcases lt_or_ge 0 x with h | h
  · rw [if_pos (by simpa using h), if_pos h, abs_of_pos h]
  · rw [if_neg (by simpa using h), if_neg (not_lt.mpr h), abs_of_nonpos h, mul_neg_one]

theorem splitLongitude_exactOps (x : ℚ) :
    splitLongitude exactOps x = (if x < 0 then 'W' else 'E', |x|) := by
  change (if decide (x < (0 : ℚ)) = true then ('W', x * (-1)) else ('E', x)) = _
  rcases lt_or_ge x 0 with h | h
  · rw [if_pos (by simpa using h), if_pos h, abs_of_neg h, mul_neg_one]
  · rw [if_neg (by simpa using h), if_neg (not_lt.mpr h), abs_of_nonneg h]

/-- An angle as the report prints it. -/
def printedAngle (hemisphere : Char) (x : ℚ) : PrintedAngle where
  degrees := ⌊|x|⌋
  minutes := roundTo 6 (60 * Int.fract |x|)
  hemisphere := hemisphere

theorem readPlace_latLongPiece {latitude longitude : ℚ} (hlat : |latitude| ≤ 180)
    (hlon : |longitude| ≤ 180) :
    readPlace (latLongPiece exactOps (some (latitude, longitude))) =
      some (printedAngle (if 0 < latitude then 'N' else 'S') latitude,
        printedAngle (if longitude < 0 then 'W' else 'E') longitude) := by
  have hlatDegrees := floorU8_exactOps (abs_nonneg latitude) hlat
  have hlonDegrees := floorU8_exactOps (abs_nonneg longitude) hlon
  simp only [latLongPiece, splitLatitude_exactOps, splitLongitude_exactOps, readPlace,
    minutesOf_exactOps (abs_nonneg _), printedAngle, hlatDegrees, hlonDegrees]

theorem roundTo_minutes_error (x : ℚ) : |roundTo 6 x - x| ≤ 5 / 10 ^ 7 := by
  have herror := roundTo_error 6 x
  have hbound : (1 : ℚ) / 2 / 10 ^ 6 = 5 / 10 ^ 7 := by norm_num
  rw [hbound] at herror
  exact herror

theorem roundTo_minutes_lt_iff (x : ℚ) : roundTo 6 x < 60 ↔ x < 60 - 5 / 10 ^ 7 := by
  have hiff : roundTo 6 x < ((60 : ℤ) : ℚ) ↔ x < ((60 : ℤ) : ℚ) - 1 / 2 / 10 ^ 6 :=
    roundTo_lt_iff (by norm_num)
  have hbound : ((60 : ℤ) : ℚ) - 1 / 2 / 10 ^ 6 = 60 - 5 / 10 ^ 7 := by norm_num
  rw [hbound] at hiff
  exact_mod_cast hiff

theorem printedAngle_encodes_iff {north south : Char} {x : ℚ}
    (hnorth : north = 'N' ∨ north = 'E') (hsouth : south = 'S' ∨ south = 'W')
    (hemisphere : Char) (hpos : hemisphere = north → 0 ≤ x) (hneg : hemisphere = south → x ≤ 0)
    (hor : hemisphere = north ∨ hemisphere = south) :
    (printedAngle hemisphere x).Encodes x ↔ 60 * Int.fract |x| < 60 - 5 / 10 ^ 7 := by
  have herror := roundTo_minutes_error (60 * Int.fract |x|)
  have hsplit : (⌊|x|⌋ : ℚ) * 60 + 60 * Int.fract |x| = |x| * 60 := by
    rw [Int.fract]
    ring
  rw [PrintedAngle.Encodes, ← roundTo_minutes_lt_iff]
  refine and_iff_right ?_
  rw [abs_le] at herror
  rcases hor with hhem | hhem
  · have habs : |x| = x := abs_of_nonneg (hpos hhem)
    refine ⟨(⌊|x|⌋ : ℚ) * 60 + roundTo 6 (60 * Int.fract |x|), ?_, ?_⟩
    · rw [PrintedAngle.decode, if_pos (by simpa [printedAngle, hhem] using hnorth)]
      rfl
    · rw [abs_le]
      rw [habs] at hsplit herror ⊢
      constructor <;> linarith
  · have habs : |x| = -x := abs_of_nonpos (hneg hhem)
    have hnot : ¬ (south = 'N' ∨ south = 'E') := by
      rcases hsouth with rfl | rfl <;> decide
    refine ⟨-((⌊|x|⌋ : ℚ) * 60 + roundTo 6 (60 * Int.fract |x|)), ?_, ?_⟩
    · rw [PrintedAngle.decode, if_neg (by simpa [printedAngle, hhem] using hnot),
        if_pos (by simpa [printedAngle, hhem] using hsouth)]
      rfl
    · rw [abs_le]
      have hneg' : |x| * 60 = -(x * 60) := by rw [habs]; ring
      rw [hneg'] at hsplit
      constructor <;> linarith

theorem modulo360_of_lt {x : ℚ} (h : 0 ≤ x) (hlt : x < 360) : modulo360 x = x := by
  have hfloor : ⌊x / 360⌋ = 0 := by
    rw [Int.floor_eq_zero_iff]
    exact ⟨by positivity, by linarith⟩
  rw [modulo360, hfloor]
  norm_num

theorem modulo360_of_neg {x : ℚ} (h : x < 0) (hle : -360 ≤ x) : modulo360 x = x + 360 := by
  have hfloor : ⌊x / 360⌋ = -1 := by
    rw [Int.floor_eq_iff]
    constructor
    · push_cast
      linarith
    · push_cast
      linarith
  rw [modulo360, hfloor]
  push_cast
  ring

theorem modulo360_of_ge {x : ℚ} (h : 360 ≤ x) (hlt : x < 720) : modulo360 x = x - 360 := by
  have hfloor : ⌊x / 360⌋ = 1 := by
    rw [Int.floor_eq_iff]
    constructor
    · push_cast
      linarith
    · push_cast
      linarith
  rw [modulo360, hfloor]
  push_cast
  ring

theorem roundTo_modulo360_iff {b d : ℚ} (hb : 0 ≤ b ∧ b < 360) (hd : -180 ≤ d ∧ d ≤ 180) :
    roundTo 1 b = roundTo 1 (modulo360 (b - d)) ↔
      0 ≤ b - d ∧ b - d < 360 ∧ roundTo 1 (b - d) = roundTo 1 b := by
  constructor
  · intro heq
    have hnear := abs_le.mp (abs_sub_le_of_roundTo_eq heq)
    have htenth : (1 : ℚ) / 10 ^ 1 = 1 / 10 := by norm_num
    rw [htenth] at hnear
    have hlow : 0 ≤ b - d := by
      by_contra hneg
      rw [modulo360_of_neg (not_le.mp hneg) (by linarith)] at hnear
      linarith
    have hhigh : b - d < 360 := by
      by_contra hge
      rw [modulo360_of_ge (not_lt.mp hge) (by linarith)] at hnear
      linarith
    rw [modulo360_of_lt hlow hhigh] at heq
    exact ⟨hlow, hhigh, heq.symm⟩
  · rintro ⟨hlow, hhigh, heq⟩
    rw [modulo360_of_lt hlow hhigh, heq]

theorem latitude_encodes_iff (x : ℚ) :
    (printedAngle (if 0 < x then 'N' else 'S') x).Encodes x ↔
      60 * Int.fract |x| < 60 - 5 / 10 ^ 7 := by
  rcases lt_or_ge 0 x with h | h
  · rw [if_pos h]
    exact printedAngle_encodes_iff (Or.inl rfl) (Or.inl rfl) 'N' (fun _ => h.le)
      (fun heq => absurd heq (by decide)) (Or.inl rfl)
  · rw [if_neg (not_lt.mpr h)]
    exact printedAngle_encodes_iff (Or.inl rfl) (Or.inl rfl) 'S'
      (fun heq => absurd heq (by decide)) (fun _ => h) (Or.inr rfl)

theorem longitude_encodes_iff (x : ℚ) :
    (printedAngle (if x < 0 then 'W' else 'E') x).Encodes x ↔
      60 * Int.fract |x| < 60 - 5 / 10 ^ 7 := by
  rcases lt_or_ge x 0 with h | h
  · rw [if_pos h]
    exact printedAngle_encodes_iff (Or.inr rfl) (Or.inr rfl) 'W'
      (fun heq => absurd heq (by decide)) (fun _ => h.le) (Or.inr rfl)
  · rw [if_neg (not_lt.mpr h)]
    exact printedAngle_encodes_iff (Or.inr rfl) (Or.inr rfl) 'E' (fun _ => h)
      (fun heq => absurd heq (by decide)) (Or.inl rfl)

theorem readPlace_sentences (tm : Tm) (loc : GpsLocation ℚ) (ext : GpsLocationExtended ℚ)
    (eng : LocEngData ℚ) {latitude longitude : ℚ} (hloc : loc.latLong = some (latitude, longitude))
    (hlat : -90 ≤ latitude ∧ latitude ≤ 90) (hlon : -180 ≤ longitude ∧ longitude ≤ 180) :
    ((gprmc exactOps tm loc ext eng).checked[1]?.bind readPlace) =
        some (printedAngle (if 0 < latitude then 'N' else 'S') latitude,
          printedAngle (if longitude < 0 then 'W' else 'E') longitude) ∧
      ((gpgga exactOps tm loc ext eng).checked[1]?.bind readPlace) =
        some (printedAngle (if 0 < latitude then 'N' else 'S') latitude,
          printedAngle (if longitude < 0 then 'W' else 'E') longitude) := by
  have hlatitude : |latitude| ≤ 180 := abs_le.mpr ⟨by linarith [hlat.1], by linarith [hlat.2]⟩
  have hread := readPlace_latLongPiece hlatitude (abs_le.mpr hlon)
  rw [← hloc] at hread
  exact ⟨hread, hread⟩

theorem readMagTrack_gpvtg (loc : GpsLocation ℚ) (eng : LocEngData ℚ) {bearing : ℚ}
    (hloc : loc.bearing = some bearing) :
    ((gpvtg exactOps loc eng).checked[0]?.bind readMagTrack) = some (roundTo 1 bearing) := by
  change readMagTrack (trackPiece exactOps loc.bearing) = _
  rw [hloc]
  rfl

/-- The sentences encode the fix exactly when no minutes round up to sixty and the deviation
does not show: the magnetic track is printed without it. -/
theorem fixEncoded_iff (tm : Tm) (loc : GpsLocation ℚ) (ext : GpsLocationExtended ℚ)
    (eng : LocEngData ℚ) (hrange : InRange loc ext) :
    FixEncoded tm loc ext eng ↔ Unrounded loc ext := by
  constructor
  · rintro ⟨hplace, htrack⟩
    constructor
    · intro latitude longitude hloc
      obtain ⟨lat, lon, hread, _, hlat, hlon⟩ := hplace latitude longitude hloc
      rw [(readPlace_sentences tm loc ext eng hloc (hrange.latitude _ _ hloc)
        (hrange.longitude _ _ hloc)).1] at hread
      cases hread
      exact ⟨(latitude_encodes_iff latitude).mp hlat, (longitude_encodes_iff longitude).mp hlon⟩
    · intro bearing deviation hloc hext
      have hread := htrack bearing deviation hloc hext
      rw [readMagTrack_gpvtg loc eng hloc] at hread
      exact (roundTo_modulo360_iff (hrange.bearing _ hloc) (hrange.deviation _ hext)).mp
        (Option.some.inj hread)
  · rintro ⟨hplace, htrack⟩
    constructor
    · intro latitude longitude hloc
      obtain ⟨hrmc, hgga⟩ := readPlace_sentences tm loc ext eng hloc
        (hrange.latitude _ _ hloc) (hrange.longitude _ _ hloc)
      obtain ⟨hlat, hlon⟩ := hplace latitude longitude hloc
      exact ⟨_, _, hrmc, hgga, (latitude_encodes_iff latitude).mpr hlat,
        (longitude_encodes_iff longitude).mpr hlon⟩
    · intro bearing deviation hloc hext
      rw [readMagTrack_gpvtg loc eng hloc, (roundTo_modulo360_iff (hrange.bearing _ hloc)
        (hrange.deviation _ hext)).mpr (htrack bearing deviation hloc hext)]

def noon : Tm :=
  ⟨124, 5, 1, 12, 0, 0⟩

def fixAt (latitude longitude bearing : ℚ) : GpsLocation ℚ where
  timestamp := 43200000
  latLong := some (latitude, longitude)
  altitude := none
  speed := none
  bearing := some bearing

def deviating (deviation : ℚ) : GpsLocationExtended ℚ where
  dop := none
  altitudeMeanSeaLevel := none
  magneticDeviation := some deviation

def exactEngine : LocEngData ℚ where
  gpsUsedMask := 0
  gloUsedMask := 0
  dop := ⟨0, 0, 0⟩
  nmeaCb := true
  positionMode := .standalone

theorem fixAt_inRange {latitude longitude bearing deviation : ℚ}
    (hlat : -90 ≤ latitude ∧ latitude ≤ 90) (hlon : -180 ≤ longitude ∧ longitude ≤ 180)
    (hbearing : 0 ≤ bearing ∧ bearing < 360) (hdeviation : -180 ≤ deviation ∧ deviation ≤ 180) :
    InRange (fixAt latitude longitude bearing) (deviating deviation) where
  latitude := by
    rintro _ _ ⟨⟩
    exact hlat
  longitude := by
    rintro _ _ ⟨⟩
    exact hlon
  bearing := by
    rintro _ ⟨⟩
    exact hbearing
  deviation := by
    rintro _ ⟨⟩
    exact hdeviation

theorem fixEncoded_south_west :
    FixEncoded noon (fixAt (-97 / 2) (-9 / 4) 90) (deviating (1 / 100)) exactEngine := by
  refine (fixEncoded_iff noon (fixAt (-97 / 2) (-9 / 4) 90) (deviating (1 / 100)) exactEngine
    (fixAt_inRange (by norm_num) (by norm_num) (by norm_num) (by norm_num))).mpr ⟨?_, ?_⟩
  · rintro _ _ ⟨⟩
    norm_num
  · rintro _ _ ⟨⟩ ⟨⟩
    refine ⟨by norm_num, by norm_num, ?_⟩
    norm_num [roundTo, roundEven]

/-- A millionth of a minute below one degree prints as sixty minutes. -/
theorem carried_minutes_not_encoded :
    ¬ FixEncoded noon (fixAt (599999999 / 600000000) 0 90) (deviating 0) exactEngine := by
  rintro ⟨hplace, _⟩
  obtain ⟨lat, lon, hread, _, hlat, _⟩ := hplace _ _ rfl
  rw [(readPlace_sentences noon (fixAt (599999999 / 600000000) 0 90) (deviating 0) exactEngine
    rfl (by norm_num) (by norm_num)).1] at hread
  cases hread
  have hlt := (latitude_encodes_iff _).mp hlat
  norm_num at hlt

end LibraDevice.Nmea
