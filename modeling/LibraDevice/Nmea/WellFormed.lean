import LibraDevice.Nmea.Coordinates
import LibraDevice.Nmea.Satellites

/-!
When what the callback gets is well formed.
-/

namespace LibraDevice.Nmea

variable {δ : Type*}

/-- A sentence with a tag and nothing special behind it, item by item. -/
def Sentence.Tagged (s : Sentence δ) : Prop :=
  ∃ (tag : List Char) (items : Piece δ), s.items = .lit ('$' :: tag) :: items ∧
    tag.all isBody = true ∧ items.all Item.plain = true

theorem Sentence.Tagged.formed {s : Sentence δ} (h : s.Tagged) (p : Printf δ) : s.Formed p := by
  obtain ⟨tag, items, hitems, htag, hplain⟩ := h
  exact s.formed_of_items p hitems htag hplain

theorem plain_usedPiece (used : List Nat) (i : Nat) :
    (usedPiece used i : Piece δ).all Item.plain = true := by
  rw [usedPiece]
  rcases used[i]? with _ | id <;> rfl

theorem plain_gsaLast (dop : Option (Dop δ)) : (gsaLast dop).all Item.plain = true := by
  rcases dop with _ | dop <;> rfl

theorem isBody_fixType (n : Nat) : isBody (fixType n) = true := by
  rw [fixType]
  split_ifs <;> decide

theorem plain_modeIndicator (loc : GpsLocation δ) (eng : LocEngData δ) :
    (modeIndicator loc eng).all Item.plain = true := by
  rw [modeIndicator]
  split_ifs <;> rfl

theorem isBody_splitLatitude (ops : FloatOps δ) (x : δ) :
    isBody (splitLatitude ops x).1 = true := by
  rw [splitLatitude]
  split_ifs <;> rfl

theorem isBody_splitLongitude (ops : FloatOps δ) (x : δ) :
    isBody (splitLongitude ops x).1 = true := by
  rw [splitLongitude]
  split_ifs <;> rfl

theorem plain_latLongPiece (ops : FloatOps δ) (latLong : Option (δ × δ)) :
    (latLongPiece ops latLong).all Item.plain = true := by
  rcases latLong with _ | latLong
  · rfl
  · have hcomma : isBody ',' = true := by decide
    simp [latLongPiece, Item.plain, hcomma, isBody_splitLatitude, isBody_splitLongitude]

theorem plain_optionalPiece (x : Option δ) : (optionalPiece x).all Item.plain = true := by
  rcases x with _ | x <;> rfl

theorem plain_magneticVariation (ops : FloatOps δ) (ext : GpsLocationExtended δ) :
    (magneticVariation ops ext).all Item.plain = true := by
  rw [magneticVariation]
  rcases ext.magneticDeviation with _ | deviation
  · rfl
  · dsimp only
    split_ifs <;> rfl

theorem isBody_gpsQuality (loc : GpsLocation δ) (eng : LocEngData δ) :
    isBody (gpsQuality loc eng) = true := by
  rw [gpsQuality]
  split_ifs <;> rfl

theorem plain_flatten {pieces : List (Piece δ)}
    (h : ∀ piece ∈ pieces, piece.all Item.plain = true) :
    pieces.flatten.all Item.plain = true := by
  rw [List.all_flatten, List.all_eq_true]
  exact h

theorem plain_svPieces (ops : FloatOps δ) (sv : GnssSvInfo δ) :
    ∀ piece ∈ svPieces ops sv, piece.all Item.plain = true := by
  rw [svPieces]
  split_ifs
  · simp only [List.mem_cons, List.not_mem_nil, or_false]
    rintro piece (rfl | rfl) <;> rfl
  · simp only [List.mem_cons, List.not_mem_nil, or_false]
    rintro piece rfl
    rfl

theorem isBody_comma : isBody ',' = true := by decide

theorem Sentence.tagged_of_plain {s : Sentence δ} (tag : List Char) {first : Piece δ}
    {pieces : List (Piece δ)} (hchecked : s.checked = (.lit ('$' :: tag) :: first) :: pieces)
    (htag : tag.all isBody = true) (hfirst : first.all Item.plain = true)
    (hpieces : ∀ piece ∈ pieces, piece.all Item.plain = true)
    (hlast : (s.last.getD []).all Item.plain = true) : s.Tagged := by
  refine ⟨tag, first ++ pieces.flatten ++ s.last.getD [], ?_, htag, ?_⟩
  · rw [Sentence.items, hchecked, List.flatten_cons]
    simp
  · rw [List.all_append, List.all_append, hfirst, plain_flatten hpieces, hlast]
    rfl

theorem gsaSentence_tagged {talker : List Char} (htalker : talker.all isBody = true)
    (used : List Nat) (dop : Option (Dop δ)) : (gsaSentence talker used dop).Tagged := by
  apply Sentence.tagged_of_plain (talker ++ ['G', 'S', 'A', ',', 'A', ',']) rfl
  · rw [List.all_append, htalker]
    rfl
  · simp [Item.plain, isBody_fixType, isBody_comma]
  · simp only [List.mem_map]
    rintro piece ⟨i, _, rfl⟩
    exact plain_usedPiece used i
  · exact plain_gsaLast dop

theorem plain_speedPiece (ops : FloatOps δ) (speed : Option δ) :
    (speedPiece ops speed).all Item.plain = true := by
  rcases speed with _ | speed <;> rfl

theorem gpvtg_tagged (ops : FloatOps δ) (loc : GpsLocation δ) (eng : LocEngData δ) :
    (gpvtg ops loc eng).Tagged := by
  have hspeed : ∀ piece ∈ [speedPiece ops loc.speed], piece.all Item.plain = true := by
    simpa using plain_speedPiece ops loc.speed
  rcases hbearing : loc.bearing with _ | bearing
  · apply Sentence.tagged_of_plain ['G', 'P', 'V', 'T', 'G', ',', ',', 'T', ',', ',', 'M', ',']
      (by rw [gpvtg, hbearing]; rfl) rfl rfl hspeed
    exact plain_modeIndicator loc eng
  · apply Sentence.tagged_of_plain ['G', 'P', 'V', 'T', 'G', ',']
      (by rw [gpvtg, hbearing]; rfl) rfl rfl hspeed
    exact plain_modeIndicator loc eng

theorem utcTime_plain (tm : Tm) (timestamp : Int) :
    (utcTime tm timestamp : Piece δ).all Item.plain = true := rfl

theorem gprmc_tagged (ops : FloatOps δ) (tm : Tm) (loc : GpsLocation δ)
    (ext : GpsLocationExtended δ) (eng : LocEngData δ) : (gprmc ops tm loc ext eng).Tagged := by
  refine Sentence.tagged_of_plain ['G', 'P', 'R', 'M', 'C', ','] rfl rfl ?_ ?_ ?_
  · change (utcTime tm loc.timestamp ++ [Item.lit ['A', ',']]).all Item.plain = true
    rw [List.all_append, utcTime_plain]
    rfl
  · simp only [List.forall_mem_cons]
    exact ⟨plain_latLongPiece ops _, plain_optionalPiece _, plain_optionalPiece _, rfl,
      plain_magneticVariation ops ext, fun _ h => absurd h List.not_mem_nil⟩
  · exact plain_modeIndicator loc eng

theorem gpgga_tagged (ops : FloatOps δ) (tm : Tm) (loc : GpsLocation δ)
    (ext : GpsLocationExtended δ) (eng : LocEngData δ) : (gpgga ops tm loc ext eng).Tagged := by
  refine Sentence.tagged_of_plain ['G', 'P', 'G', 'G', 'A', ','] rfl rfl ?_ ?_ ?_
  · exact utcTime_plain tm loc.timestamp
  · simp only [List.forall_mem_cons]
    refine ⟨plain_latLongPiece ops _, ?_, ?_, fun _ h => absurd h List.not_mem_nil⟩
    · rw [List.all_append, plain_optionalPiece]
      simp [Item.plain, isBody_gpsQuality, isBody_comma]
    · rcases ext.altitudeMeanSeaLevel with _ | altitude <;> rfl
  · rw [gpgga]
    rcases loc.altitude with _ | altitude <;> rcases ext.altitudeMeanSeaLevel with _ | level <;> rfl

theorem blankSentence_tagged {text : List Char} (htext : text.all isBody = true) :
    (blankSentence ('$' :: text) : Sentence δ).Tagged :=
  ⟨text, [], rfl, htext, rfl⟩

theorem posSentences_tagged (ops : FloatOps δ) (tm : Tm) (loc : GpsLocation δ)
    (ext : GpsLocationExtended δ) (eng : LocEngData δ) (generateNmea : Bool) :
    ∀ s ∈ posSentences ops tm loc ext eng generateNmea, s.Tagged := by
  have hnone : ∀ s : Sentence δ, s ∈ [] → s.Tagged := fun _ h => absurd h List.not_mem_nil
  cases generateNmea with
  | false =>
      simp only [posSentences, Bool.false_eq_true, if_false, List.forall_mem_cons]
      exact ⟨blankSentence_tagged (by decide), blankSentence_tagged (by decide),
        blankSentence_tagged (by decide), blankSentence_tagged (by decide),
        blankSentence_tagged (by decide), hnone⟩
  | true =>
      simp only [posSentences, if_true, List.forall_mem_cons]
      exact ⟨gsaSentence_tagged (by decide) _ _, gsaSentence_tagged (by decide) _ _,
        gpvtg_tagged ops loc eng, gprmc_tagged ops tm loc ext eng,
        gpgga_tagged ops tm loc ext eng, hnone⟩

theorem gsvSentence_tagged (ops : FloatOps δ) {talker : List Char}
    (htalker : talker.all isBody = true) (count number svCount : Nat)
    (group : List (GnssSvInfo δ)) :
    (gsvSentence ops talker count number svCount group).Tagged := by
  apply Sentence.tagged_of_plain (talker ++ ['G', 'S', 'V', ',']) rfl
  · rw [List.all_append, htalker]
    rfl
  · rfl
  · simp only [List.mem_flatMap]
    rintro piece ⟨sv, _, hpiece⟩
    exact plain_svPieces ops sv piece hpiece
  · rfl

theorem gsvLoop_tagged (ops : FloatOps δ) {talker : List Char}
    (htalker : talker.all isBody = true) (constellation : Constellation)
    (count svCount n number : Nat) (svs : List (GnssSvInfo δ)) :
    ∀ s ∈ gsvLoop ops talker constellation count svCount n number svs, s.Tagged := by
  induction n generalizing number svs with
  | zero => simp [gsvLoop]
  | succ n ih =>
      rw [gsvLoop, List.forall_mem_cons]
      exact ⟨gsvSentence_tagged ops htalker _ _ _ _, ih _ _⟩

theorem gsvSentences_tagged (ops : FloatOps δ) {talker : List Char}
    (htalker : talker.all isBody = true) (constellation : Constellation)
    (svs : List (GnssSvInfo δ)) :
    ∀ s ∈ gsvSentences ops talker constellation svs, s.Tagged := by
  rw [gsvSentences]
  split_ifs
  · rw [List.forall_mem_singleton]
    apply blankSentence_tagged
    change (talker ++ ['G', 'S', 'V', ',', '1', ',', '1', ',', '0', ',']).all isBody = true
    rw [List.all_append, htalker]
    rfl
  · exact gsvLoop_tagged ops htalker _ _ _ _ _ _

theorem svSentences_tagged (ops : FloatOps δ) (svs : List (GnssSvInfo δ)) :
    ∀ s ∈ svSentences ops svs, s.Tagged := by
  rw [svSentences, List.forall_mem_append]
  exact ⟨gsvSentences_tagged ops (by decide) _ _, gsvSentences_tagged ops (by decide) _ _⟩

/-- What a report gives the callback, and the buffer it is written in, are as they should be. -/
def CallsWellFormed (eng : LocEngData δ) (run : Run) : Prop :=
  run.finish ≠ .fault ∧ ∀ send ∈ nmeaCalls eng run, send.WellFormed

/-- The sentences that are sent fit into the buffer with their checksums. -/
def AllFit (p : Printf δ) (eng : LocEngData δ) (sentences : List (Sentence δ)) : Prop :=
  eng.nmeaCb = true → ∀ s ∈ sentSentences p sentences, s.Fits p

theorem sendAll_callsWellFormed_iff (p : Printf δ) (eng : LocEngData δ)
    (sentences : List (Sentence δ)) (htagged : ∀ s ∈ sentences, s.Tagged) :
    CallsWellFormed eng (sendAll p sentences emptySentence) ↔ AllFit p eng sentences := by
  have hsize : emptySentence.length = nmeaSentenceMaxLength := List.length_replicate
  obtain ⟨hfinish, hiff⟩ := sendAll_wellFormed_iff p sentences
    (fun s hs => (htagged s hs).formed p) hsize
  rw [CallsWellFormed, AllFit, nmeaCalls, ← hiff]
  cases eng.nmeaCb with
  | false => simp [hfinish]
  | true => simp [hfinish]

/-- The callback gets well-formed sentences exactly as long as they fit with their checksums. -/
theorem callsWellFormed_iff (p : Printf δ) (ops : FloatOps δ) (gmtime : Int → Option Tm)
    (loc : GpsLocation δ) (ext : GpsLocationExtended δ) (generateNmea : Bool)
    (svs : List (GnssSvInfo δ)) (eng : LocEngData δ) :
    (CallsWellFormed eng (generatePos p ops gmtime loc ext generateNmea eng).1 ↔
        ∀ tm, gmtime (loc.timestamp.tdiv 1000) = some tm →
          AllFit p eng (posSentences ops tm loc ext eng generateNmea)) ∧
      (CallsWellFormed eng (generateSv p ops svs ext eng).1 ↔
        AllFit p eng (svSentences ops svs)) := by
  constructor
  · rcases htm : gmtime (loc.timestamp.tdiv 1000) with _ | tm
    · simp [generatePos, htm, CallsWellFormed, nmeaCalls]
    · rw [generatePos_fst p ops gmtime loc ext generateNmea eng htm]
      simp only [Option.some.injEq, forall_eq']
      exact sendAll_callsWellFormed_iff p eng _ (posSentences_tagged ops tm loc ext eng _)
  · exact sendAll_callsWellFormed_iff p eng _ (svSentences_tagged ops svs)

/-- An hour past midnight. -/
def oneOClock : Tm :=
  ⟨70, 0, 1, 1, 0, 0⟩

/-- An altitude whose digits do not fit into a sentence. -/
def highLocation : GpsLocation Int where
  timestamp := 3600000
  latLong := none
  altitude := some (Int.pow 10 190)
  speed := none
  bearing := none

def seaLevel : GpsLocationExtended Int where
  dop := none
  altitudeMeanSeaLevel := some 0
  magneticDeviation := none

def idleEngine : LocEngData Int where
  gpsUsedMask := 0
  gloUsedMask := 0
  dop := ⟨0, 0, 0⟩
  nmeaCb := true
  positionMode := .standalone

/-- The last piece of `$GPGGA` takes the room of the checksum. -/
theorem high_altitude_not_wellFormed :
    ¬ CallsWellFormed idleEngine
      (generatePos wholePrintf wholeOps (fun _ => some oneOClock) highLocation seaLevel true
        idleEngine).1 := by
  intro h
  rw [generatePos_fst wholePrintf wholeOps _ highLocation seaLevel true idleEngine rfl] at h
  have hfit := (sendAll_callsWellFormed_iff wholePrintf idleEngine _
    (posSentences_tagged wholeOps oneOClock highLocation seaLevel idleEngine true)).mp h rfl
  have hsent : ∃ s ∈ sentSentences wholePrintf
      (posSentences wholeOps oneOClock highLocation seaLevel idleEngine true),
      ¬ s.Fits wholePrintf := by
    decide +kernel
  obtain ⟨s, hs, hnot⟩ := hsent
  exact hnot (hfit s hs)

end LibraDevice.Nmea
