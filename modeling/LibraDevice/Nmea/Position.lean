import Mathlib.Data.Rat.Defs
import LibraDevice.LocEng.Engine
import LibraDevice.Nmea.Sentence

/-!
The sentences of a position report.
-/

namespace LibraDevice.Nmea

open LocEng (LocPositionMode)

/-- The floating point operations of the report functions; `single` is the conversion to
`float`, `floorU8` that of a rounded down value to `uint8_t`. -/
structure FloatOps (δ : Type*) where
  const : ℚ → δ
  single : δ → δ
  lt : δ → δ → Bool
  add : δ → δ → δ
  sub : δ → δ → δ
  mul : δ → δ → δ
  fmod : δ → δ → δ
  floorU8 : δ → UInt8
  toInt : δ → Int

/-- `struct tm`, as far as it is read. -/
structure Tm where
  tmYear : Int
  tmMon : Int
  tmMday : Int
  tmHour : Int
  tmMin : Int
  tmSec : Int
deriving DecidableEq, Repr

structure Dop (δ : Type*) where
  pdop : δ
  hdop : δ
  vdop : δ
deriving DecidableEq, Repr

/-- A location with those of its values that its flags mark. -/
structure GpsLocation (δ : Type*) where
  timestamp : Int
  latLong : Option (δ × δ)
  altitude : Option δ
  speed : Option δ
  bearing : Option δ
deriving DecidableEq, Repr

structure GpsLocationExtended (δ : Type*) where
  dop : Option (Dop δ)
  altitudeMeanSeaLevel : Option δ
  magneticDeviation : Option δ
deriving DecidableEq, Repr

/-- The members of `loc_eng_data_s_type` that the reports read and write. -/
structure LocEngData (δ : Type*) where
  gpsUsedMask : BitVec 32
  gloUsedMask : BitVec 32
  dop : Dop δ
  nmeaCb : Bool
  positionMode : LocPositionMode
deriving DecidableEq, Repr

variable {δ : Type*}

/-- The loop over a mask, from number `i` on; a mask is used up after 32 shifts. -/
def usedFrom : Nat → Nat → BitVec 32 → List Nat
  | 0, _, _ => []
  | n + 1, i, mask =>
      if mask = 0 then []
      else if mask.getLsbD 0 then i :: usedFrom n (i + 1) (mask >>> 1)
      else usedFrom n (i + 1) (mask >>> 1)

def svUsedList (mask : BitVec 32) : List Nat :=
  usedFrom 32 1 mask

def glonassSvIdOffset : Nat := 64

def gloUsedList (mask : BitVec 32) : List Nat :=
  (usedFrom 32 1 mask).map (· + glonassSvIdOffset)

def fixType (usedCount : Nat) : Char :=
  if usedCount = 0 then '1' else if usedCount ≤ 3 then '2' else '3'

/-- The dilution of precision of the report, else the one of the last satellite report. -/
def reportDop (ops : FloatOps δ) (ext : GpsLocationExtended δ) (eng : LocEngData δ) :
    Option (Dop δ) :=
  match ext.dop with
  | some dop => some dop
  | none =>
      if ops.lt (ops.const 0) eng.dop.pdop && ops.lt (ops.const 0) eng.dop.hdop &&
          ops.lt (ops.const 0) eng.dop.vdop then some eng.dop
      else none

/-- The field of the satellite with this index, of the twelve. -/
def usedPiece (used : List Nat) (i : Nat) : Piece δ :=
  match used[i]? with
  | some id => [.d 2 id, .lit [',']]
  | none => [.lit [',']]

def gsaLast (dop : Option (Dop δ)) : Piece δ :=
  match dop with
  | some dop => [.f1 dop.pdop, .lit [','], .f1 dop.hdop, .lit [','], .f1 dop.vdop]
  | none => [.lit [',', ',']]

/-- `$GPGSA` and `$GNGSA`. -/
def gsaSentence (talker : List Char) (used : List Nat) (dop : Option (Dop δ)) : Sentence δ where
  checked :=
    [.lit ('$' :: talker ++ ['G', 'S', 'A', ',', 'A', ',']), .c (fixType used.length),
      .lit [',']] :: (List.range 12).map (usedPiece used)
  last := some (gsaLast dop)

/-- The track that is printed as the magnetic one: the `magTrack` that the deviation corrects is
another variable, of the inner block. -/
def magTrack (ops : FloatOps δ) (bearing : δ) : δ :=
  ops.single bearing

/-- The inner `magTrack`. -/
def innerMagTrack (ops : FloatOps δ) (bearing magneticDeviation : δ) : δ :=
  let magTrack := ops.single (ops.sub bearing magneticDeviation)
  if ops.lt magTrack (ops.const 0) then ops.single (ops.add magTrack (ops.const 360))
  else if ops.lt (ops.const 360) magTrack then ops.single (ops.sub magTrack (ops.const 360))
  else magTrack

def speedKnots (ops : FloatOps δ) (speed : δ) : δ :=
  ops.single (ops.mul speed (ops.const (3600 / 1852)))

def speedKmPerHour (ops : FloatOps δ) (speed : δ) : δ :=
  ops.single (ops.mul speed (ops.const (36 / 10)))

/-- The last piece of `$GPVTG` and `$GPRMC`. -/
def modeIndicator (loc : GpsLocation δ) (eng : LocEngData δ) : Piece δ :=
  if loc.latLong = none then [.c 'N']
  else if eng.positionMode = .standalone then [.c 'A']
  else [.c 'D']

def trackPiece (ops : FloatOps δ) (bearing : Option δ) : Piece δ :=
  match bearing with
  | some bearing => [.lit ['$', 'G', 'P', 'V', 'T', 'G', ','], .f1 bearing,
      .lit [',', 'T', ','], .f1 (magTrack ops bearing), .lit [',', 'M', ',']]
  | none => [.lit ['$', 'G', 'P', 'V', 'T', 'G', ',', ',', 'T', ',', ',', 'M', ',']]

def speedPiece (ops : FloatOps δ) (speed : Option δ) : Piece δ :=
  match speed with
  | some speed => [.f1 (speedKnots ops speed), .lit [',', 'N', ','],
      .f1 (speedKmPerHour ops speed), .lit [',', 'K', ',']]
  | none => [.lit [',', 'N', ',', ',', 'K', ',']]

def gpvtg (ops : FloatOps δ) (loc : GpsLocation δ) (eng : LocEngData δ) : Sentence δ where
  checked := [trackPiece ops loc.bearing, speedPiece ops loc.speed]
  last := some (modeIndicator loc eng)

def utcTime (tm : Tm) (timestamp : Int) : Piece δ :=
  [.d 2 tm.tmHour, .d 2 tm.tmMin, .d 2 tm.tmSec, .lit ['.'],
    .d 2 ((timestamp.tmod 1000).tdiv 10), .lit [',']]

/-- The hemisphere and the magnitude of a latitude. -/
def splitLatitude (ops : FloatOps δ) (latitude : δ) : Char × δ :=
  if ops.lt (ops.const 0) latitude then ('N', latitude)
  else ('S', ops.mul latitude (ops.const (-1)))

def splitLongitude (ops : FloatOps δ) (longitude : δ) : Char × δ :=
  if ops.lt longitude (ops.const 0) then ('W', ops.mul longitude (ops.const (-1)))
  else ('E', longitude)

def minutesOf (ops : FloatOps δ) (degrees : δ) : δ :=
  ops.fmod (ops.mul degrees (ops.const 60)) (ops.const 60)

/-- The piece of `$GPRMC` and `$GPGGA` that holds the place. -/
def latLongPiece (ops : FloatOps δ) (latLong : Option (δ × δ)) : Piece δ :=
  match latLong with
  | some latLong =>
      let lat := splitLatitude ops latLong.1
      let lon := splitLongitude ops latLong.2
      [.d 2 (ops.floorU8 lat.2).toNat, .f6 (minutesOf ops lat.2), .lit [','], .c lat.1,
        .lit [','], .d 3 (ops.floorU8 lon.2).toNat, .f6 (minutesOf ops lon.2), .lit [','],
        .c lon.1, .lit [',']]
  | none => [.lit [',', ',', ',', ',']]

/-- A number of one digit behind the point, or nothing, and a comma. -/
def optionalPiece (x : Option δ) : Piece δ :=
  match x with
  | some x => [.f1 x, .lit [',']]
  | none => [.lit [',']]

def magneticVariation (ops : FloatOps δ) (ext : GpsLocationExtended δ) : Piece δ :=
  match ext.magneticDeviation with
  | some deviation =>
      if ops.lt deviation (ops.const 0) then
        [.f1 (ops.single (ops.mul deviation (ops.const (-1)))), .lit [','], .c 'W', .lit [',']]
      else [.f1 deviation, .lit [','], .c 'E', .lit [',']]
  | none => [.lit [',', ',']]

def gprmc (ops : FloatOps δ) (tm : Tm) (loc : GpsLocation δ) (ext : GpsLocationExtended δ)
    (eng : LocEngData δ) : Sentence δ where
  checked := [
    .lit ['$', 'G', 'P', 'R', 'M', 'C', ','] :: utcTime tm loc.timestamp ++ [.lit ['A', ',']],
    latLongPiece ops loc.latLong,
    optionalPiece (loc.speed.map (speedKnots ops)),
    optionalPiece loc.bearing,
    [.d22 tm.tmMday, .d22 (tm.tmMon + 1), .d22 (tm.tmYear.tmod 100), .lit [',']],
    magneticVariation ops ext]
  last := some (modeIndicator loc eng)

def gpsQuality (loc : GpsLocation δ) (eng : LocEngData δ) : Char :=
  if loc.latLong = none then '0' else if eng.positionMode = .standalone then '1' else '2'

def gpgga (ops : FloatOps δ) (tm : Tm) (loc : GpsLocation δ) (ext : GpsLocationExtended δ)
    (eng : LocEngData δ) : Sentence δ where
  checked := [
    .lit ['$', 'G', 'P', 'G', 'G', 'A', ','] :: utcTime tm loc.timestamp,
    latLongPiece ops loc.latLong,
    [.c (gpsQuality loc eng), .lit [','], .d 2 (svUsedList eng.gpsUsedMask).length,
      .lit [',']] ++ optionalPiece ((reportDop ops ext eng).map Dop.hdop),
    match ext.altitudeMeanSeaLevel with
    | some altitude => [.f1 altitude, .lit [',', 'M', ',']]
    | none => [.lit [',', ',']]]
  last := some (match loc.altitude with
    | some altitude =>
        match ext.altitudeMeanSeaLevel with
        | some meanSeaLevel => [.f1 (ops.sub altitude meanSeaLevel), .lit [',', 'M', ',', ',']]
        | none => [.lit [',', ',', ',']]
    | none => [.lit [',', ',', ',']])

/-- A sentence that is copied as a whole. -/
def blankSentence (text : List Char) : Sentence δ where
  checked := []
  last := some [.lit text]

/-- The sentences of a position report, in order. -/
def posSentences (ops : FloatOps δ) (tm : Tm) (loc : GpsLocation δ)
    (ext : GpsLocationExtended δ) (eng : LocEngData δ) (generateNmea : Bool) :
    List (Sentence δ) :=
  if generateNmea then
    [gsaSentence ['G', 'P'] (svUsedList eng.gpsUsedMask) (reportDop ops ext eng),
      gsaSentence ['G', 'N'] (gloUsedList eng.gloUsedMask) (reportDop ops ext eng),
      gpvtg ops loc eng, gprmc ops tm loc ext eng, gpgga ops tm loc ext eng]
  else
    [blankSentence ['$', 'G', 'P', 'G', 'S', 'A', ',', 'A', ',', '1', ',', ',', ',', ',', ',',
        ',', ',', ',', ',', ',', ',', ',', ',', ',', ','],
      blankSentence ['$', 'G', 'N', 'G', 'S', 'A', ',', 'A', ',', '1', ',', ',', ',', ',', ',',
        ',', ',', ',', ',', ',', ',', ',', ',', ',', ','],
      blankSentence ['$', 'G', 'P', 'V', 'T', 'G', ',', ',', 'T', ',', ',', 'M', ',', ',', 'N',
        ',', ',', 'K', ',', 'N'],
      blankSentence ['$', 'G', 'P', 'R', 'M', 'C', ',', ',', 'V', ',', ',', ',', ',', ',', ',',
        ',', ',', ',', ',', 'N'],
      blankSentence ['$', 'G', 'P', 'G', 'G', 'A', ',', ',', ',', ',', ',', ',', '0', ',', ',',
        ',', ',', ',', ',', ',', ',']]

/-- `loc_eng_nmea_generate_pos`: what is sent, and the engine with the caches cleared that the
function came to. -/
def generatePos (p : Printf δ) (ops : FloatOps δ) (gmtime : Int → Option Tm)
    (loc : GpsLocation δ) (ext : GpsLocationExtended δ) (generateNmea : Bool)
    (eng : LocEngData δ) : Run × LocEngData δ :=
  match gmtime (loc.timestamp.tdiv 1000) with
  | none => (⟨[], .returned⟩, eng)
  | some tm =>
      let run := sendAll p (posSentences ops tm loc ext eng generateNmea) emptySentence
      (run,
        { eng with
          gpsUsedMask := if generateNmea then 0 else eng.gpsUsedMask
          gloUsedMask := if generateNmea ∧ run.sent ≠ [] then 0 else eng.gloUsedMask
          dop := if run.finish = .ok () then ⟨ops.const 0, ops.const 0, ops.const 0⟩
            else eng.dop })

theorem generatePos_fst (p : Printf δ) (ops : FloatOps δ) (gmtime : Int → Option Tm)
    (loc : GpsLocation δ) (ext : GpsLocationExtended δ) (generateNmea : Bool)
    (eng : LocEngData δ) {tm : Tm} (htm : gmtime (loc.timestamp.tdiv 1000) = some tm) :
    (generatePos p ops gmtime loc ext generateNmea eng).1 =
      sendAll p (posSentences ops tm loc ext eng generateNmea) emptySentence := by
  rw [generatePos, htm]

/-- What the callback gets. -/
def nmeaCalls (eng : LocEngData δ) (run : Run) : List Send :=
  if eng.nmeaCb then run.sent else []

end LibraDevice.Nmea
