import LibraDevice.Lib.TextLines
import LibraDevice.Nmea.Satellites
import LibraDevice.Nmea.WellFormed

/-!
Whether the sentences list each satellite once and under one identifier.
-/

namespace LibraDevice.Nmea

open CBuffer
open TextLines

variable {δ : Type*}

/-- The identifier under which a satellite is listed. -/
def svName (p : Printf δ) (svid : Int) : List Char :=
  (p.d 2 svid).text

/-- What a `GSV` sentence says of a satellite: identifier, elevation, azimuth and strength. -/
def svText (p : Printf δ) (ops : FloatOps δ) (sv : GnssSvInfo δ) : List Char :=
  ',' :: svName p sv.svid.toInt ++ ',' :: (p.d 2 (roundedInt ops sv.elevation)).text ++
    ',' :: (p.d 3 (roundedInt ops sv.azimuth)).text ++ ',' ::
      if ops.lt (ops.const 0) sv.cN0Dbhz then (p.d 2 (roundedInt ops sv.cN0Dbhz)).text else []

/-- A `GSV` sentence about a group, or the blank one. -/
def gsvText (p : Printf δ) (ops : FloatOps δ) (talker : List Char) (total number svCount : Nat)
    (group : List (GnssSvInfo δ)) : List Char :=
  if svCount = 0 then '$' :: talker ++ ['G', 'S', 'V', ',', '1', ',', '1', ',', '0', ',']
  else '$' :: talker ++ ['G', 'S', 'V', ','] ++ (p.d 0 total).text ++ ',' ::
    (p.d 0 number).text ++ ',' :: (p.d 2 svCount).text ++ group.flatMap (svText p ops)

def finished (text : List Char) : List Char :=
  text ++ checksumText text.tail

/-- The texts are the numbered sentences about the satellites, four in each at most. -/
def Lists (p : Printf δ) (ops : FloatOps δ) (talker : List Char) (sats : List (GnssSvInfo δ))
    (texts : List (List Char)) : Prop :=
  ∃ groups : List (List (GnssSvInfo δ)), groups.flatten = sats ∧
    (∀ group ∈ groups, group.length ≤ 4) ∧
    groups.length = max 1 ((sats.length + 3) / 4) ∧
    texts = groups.mapIdx fun i group =>
      finished (gsvText p ops talker groups.length (i + 1) sats.length group)

/-- The twelve fields of a `GSA` sentence for identifiers. -/
def gsaFields (text : List Char) : List (List Char) :=
  ((split ',' text).drop 3).take 12

/-- The fields name the first twelve of the used satellites, in ascending order. -/
def ListsUsed (p : Printf δ) (constellation : Constellation) (svs : List (GnssSvInfo δ))
    (fields : List (List Char)) : Prop :=
  ∃ ids : List Nat, ids.Pairwise (· < ·) ∧
    (∀ id, id ∈ ids ↔ ∃ sv ∈ svs, isOf constellation sv = true ∧ sv.usedInFix = true ∧
      sv.svid.toInt = id) ∧
    fields = (ids.take 12).map (fun id : Nat => svName p id) ++ List.replicate (12 - ids.length) []

def Run.texts (run : Run) : List (Option (List Char)) :=
  run.sent.map fun send => textAt 0 send.sentence

/-- A satellite report and the position report generated next list the satellites. -/
structure SatellitesListed (p : Printf δ) (ops : FloatOps δ) (svs : List (GnssSvInfo δ))
    (sv pos : Run) : Prop where
  inView : ∃ gps glonass, sv.texts = (gps ++ glonass).map some ∧
    Lists p ops gpsTalker (svs.filter (isOf .gps)) gps ∧
    Lists p ops glonassTalker (svs.filter (isOf .glonass)) glonass
  gps : ∃ text, pos.texts[0]? = some (some text) ∧
    text.take 6 = ['$', 'G', 'P', 'G', 'S', 'A'] ∧ ListsUsed p .gps svs (gsaFields text)
  glonass : ∃ text, pos.texts[1]? = some (some text) ∧
    text.take 6 = ['$', 'G', 'N', 'G', 'S', 'A'] ∧ ListsUsed p .glonass svs (gsaFields text)

/-- Identifiers are printed without commas and each differently. -/
structure Printf.NamesApart (p : Printf δ) : Prop where
  noComma : ∀ id : Nat, ',' ∉ svName p id
  apart : ∀ a b : Nat, a ≤ 96 → b ≤ 96 → svName p a = svName p b → a = b

theorem render_svPieces (p : Printf δ) (ops : FloatOps δ) (sv : GnssSvInfo δ) :
    (svPieces ops sv).flatMap (render p) = svText p ops sv := by
  rw [svPieces, svText]
  split_ifs
  · simp [render, Item.render, svName]
  · simp [render, Item.render, svName]

theorem gsvSentence_text (p : Printf δ) (ops : FloatOps δ) (talker : List Char)
    (total number svCount : Nat) (group : List (GnssSvInfo δ)) (hcount : svCount ≠ 0) :
    (gsvSentence ops talker total number svCount group).text p =
      gsvText p ops talker total number svCount group := by
  have hgroup : (group.flatMap (svPieces ops)).flatMap (render p) =
      group.flatMap (svText p ops) := by
    rw [List.flatMap_assoc]
    exact List.flatMap_congr fun sv _ => render_svPieces p ops sv
  rw [gsvText, if_neg hcount, Sentence.text, Sentence.checkedText]
  simp only [gsvSentence, List.flatMap_cons, hgroup]
  simp [render, Item.render]

theorem mapIdx_map_range {α β : Type*} (f : Nat → α → β) (g : Nat → α) (n : Nat) :
    ((List.range n).map g).mapIdx f = (List.range n).map fun i => f i (g i) := by
  apply List.ext_getElem?
  intro i
  rw [List.getElem?_mapIdx, List.getElem?_map, List.getElem?_map]
  rcases Nat.lt_or_ge i n with hlt | hge
  · rw [List.getElem?_range hlt]
    rfl
  · rw [List.getElem?_eq_none (by simpa using hge)]
    rfl

theorem gsvSentences_lists (p : Printf δ) (ops : FloatOps δ) (talker : List Char)
    (constellation : Constellation) (svs : List (GnssSvInfo δ)) :
    Lists p ops talker (svs.filter (isOf constellation))
      ((gsvSentences ops talker constellation svs).map fun s => finished (s.text p)) := by
  have hcount : svs.countP (isOf constellation) = (svs.filter (isOf constellation)).length :=
    List.countP_eq_length_filter
  rw [gsvSentences, hcount]
  by_cases hzero : (svs.filter (isOf constellation)).length = 0
  · refine ⟨[[]], ?_, ?_, ?_, ?_⟩
    · rw [List.eq_nil_of_length_eq_zero hzero]
      rfl
    · simp
    · rw [hzero]
      rfl
    · rw [if_pos hzero]
      simp [gsvText, hzero, blankSentence, Sentence.text, Sentence.checkedText, render,
        Item.render]
  · rw [if_neg hzero, gsvLoop_eq]
    have hlength : (groupsOfFour (sentenceCount (svs.filter (isOf constellation)).length)
        (svs.filter (isOf constellation))).length =
        sentenceCount (svs.filter (isOf constellation)).length := by
      simp [groupsOfFour]
    refine ⟨groupsOfFour (sentenceCount (svs.filter (isOf constellation)).length)
      (svs.filter (isOf constellation)), ?_, groupsOfFour_length_le _ _, ?_, ?_⟩
    · apply groupsOfFour_flatten
      rw [sentenceCount_eq]
      omega
    · rw [hlength, sentenceCount_eq]
      omega
    · rw [hlength, groupsOfFour, mapIdx_map_range, List.map_map]
      refine List.map_congr_left fun i _ => ?_
      rw [Function.comp_apply, gsvSentence_text p ops talker _ _ _ _ hzero, Nat.add_comm 1 i]

/-- The field of an identifier, empty behind the last. -/
def fieldText (p : Printf δ) (used : List Nat) (i : Nat) : List Char :=
  match used[i]? with
  | some id => svName p id
  | none => []

theorem render_usedPiece (p : Printf δ) (used : List Nat) (i : Nat) :
    render p (usedPiece used i) = fieldText p used i ++ [','] := by
  rw [usedPiece, fieldText]
  rcases used[i]? with _ | id
  · rfl
  · simp [render, Item.render, svName]

theorem fieldTexts_eq (p : Printf δ) (used : List Nat) :
    (List.range 12).map (fieldText p used) =
      (used.take 12).map (fun id : Nat => svName p id) ++ List.replicate (12 - used.length) [] := by
  apply List.ext_getElem?
  intro i
  rw [List.getElem?_map, List.getElem?_append, List.length_map, List.length_take,
    List.getElem?_map, List.getElem?_replicate, List.getElem?_take]
  rcases Nat.lt_or_ge i 12 with hlt | hge
  · rw [List.getElem?_range hlt, Option.map_some, fieldText]
    rcases Nat.lt_or_ge i used.length with hused | hnone
    · rw [if_pos (by omega), if_pos hlt, List.getElem?_eq_getElem hused]
      rfl
    · rw [List.getElem?_eq_none hnone, if_neg (by omega), if_pos (by omega)]
  · rw [List.getElem?_eq_none (by simpa using hge), if_neg (by omega), if_neg (by omega)]
    rfl

theorem gsaSentence_text (p : Printf δ) (talker : List Char) (used : List Nat)
    (dop : Option (Dop δ)) :
    (gsaSentence talker used dop).text p =
      ('$' :: talker ++ ['G', 'S', 'A']) ++ ',' :: (['A'] ++ ',' ::
        ([fixType used.length] ++ ',' ::
          (((List.range 12).map (fieldText p used)).flatMap (fun part => part ++ [',']) ++
            render p (gsaLast dop)))) := by
  have hfields : ((List.range 12).map (usedPiece used)).flatMap (render p) =
      ((List.range 12).map (fieldText p used)).flatMap (fun part => part ++ [',']) := by
    rw [List.flatMap_map, List.flatMap_map]
    exact List.flatMap_congr fun i _ => render_usedPiece p used i
  rw [Sentence.text, Sentence.checkedText]
  simp only [gsaSentence, List.flatMap_cons, hfields, Option.getD_some]
  simp [render, Item.render]

theorem gsaFields_finished (p : Printf δ) (hp : ∀ id : Nat, ',' ∉ svName p id)
    {talker : List Char} (htalker : ',' ∉ talker) (used : List Nat) (dop : Option (Dop δ)) :
    gsaFields (finished ((gsaSentence talker used dop).text p)) =
      (used.take 12).map (fun id : Nat => svName p id) ++ List.replicate (12 - used.length) [] := by
  have htag : ',' ∉ '$' :: talker ++ ['G', 'S', 'A'] := by
    simpa using htalker
  have hfix : ',' ∉ [fixType used.length] := by
    rw [fixType]
    split_ifs <;> decide
  have hfields : ∀ part ∈ (List.range 12).map (fieldText p used), ',' ∉ part := by
    simp only [List.mem_map]
    rintro part ⟨i, _, rfl⟩
    rw [fieldText]
    rcases used[i]? with _ | id
    · exact List.not_mem_nil
    · exact hp id
  have hlength : ((List.range 12).map (fieldText p used)).length = 12 := by
    rw [List.length_map, List.length_range]
  have hassoc : ∀ a b c rest t : List Char,
      a ++ ',' :: (b ++ ',' :: (c ++ ',' :: rest)) ++ t =
        a ++ ',' :: (b ++ ',' :: (c ++ ',' :: (rest ++ t))) := by
    simp
  rw [← fieldTexts_eq, gsaFields, finished, gsaSentence_text, hassoc, split_append_cons htag,
    split_append_cons (by decide), split_append_cons hfix, List.append_assoc,
    split_flatMap hfields]
  simp only [List.drop_succ_cons, List.drop_zero]
  exact List.take_left' hlength

theorem usedFrom_usedMask (constellation : Constellation) (svs : List (GnssSvInfo δ))
    (hsvid : ∀ sv ∈ svs, isOf constellation sv = true → 1 ≤ sv.svid.toInt ∧ sv.svid.toInt ≤ 32) (id : Nat) :
    id ∈ usedFrom 32 1 (usedMask constellation svs) ↔
      ∃ sv ∈ svs, isOf constellation sv = true ∧ sv.usedInFix = true ∧ sv.svid.toInt = id := by
  rw [(usedFrom_spec _).2 id, getLsbD_usedMask]
  constructor
  · rintro ⟨hlow, hhigh, sv, hmem, hof, hused, _, hbit⟩
    have hrange := hsvid sv hmem hof
    exact ⟨sv, hmem, hof, hused, by omega⟩
  · rintro ⟨sv, hmem, hof, hused, hid⟩
    have hrange := hsvid sv hmem hof
    exact ⟨by omega, by omega, sv, hmem, hof, hused, by omega, by omega⟩

theorem texts_sendAll (p : Printf δ) {sentences : List (Sentence δ)}
    (htagged : ∀ s ∈ sentences, s.Tagged) (hfits : ∀ s ∈ sentences, s.Fits p) :
    (sendAll p sentences emptySentence).texts =
      sentences.map fun s => some (finished (s.text p)) :=
  (sendAll_of_fits p sentences (fun s hs => (htagged s hs).formed p) hfits
    List.length_replicate).2

theorem isOf_eq_true {constellation : Constellation} {sv : GnssSvInfo δ} :
    isOf constellation sv = true ↔ sv.constellation = constellation := by
  simp [isOf]

theorem texts_generatePos (p : Printf δ) (ops : FloatOps δ) (gmtime : Int → Option Tm)
    (loc : GpsLocation δ) (ext : GpsLocationExtended δ) (eng : LocEngData δ) {tm : Tm}
    (htm : gmtime (loc.timestamp.tdiv 1000) = some tm)
    (hfits : ∀ s ∈ posSentences ops tm loc ext eng true, s.Fits p) :
    (generatePos p ops gmtime loc ext true eng).1.texts[0]? =
        some (some (finished ((gsaSentence ['G', 'P'] (svUsedList eng.gpsUsedMask)
          (reportDop ops ext eng)).text p))) ∧
      (generatePos p ops gmtime loc ext true eng).1.texts[1]? =
        some (some (finished ((gsaSentence ['G', 'N'] (gloUsedList eng.gloUsedMask)
          (reportDop ops ext eng)).text p))) := by
  rw [generatePos_fst p ops gmtime loc ext true eng htm,
    texts_sendAll p (posSentences_tagged ops tm loc ext eng true) hfits, posSentences,
    if_pos rfl]
  exact ⟨rfl, rfl⟩

theorem listsUsed_usedMask (p : Printf δ) (hp : ∀ id : Nat, ',' ∉ svName p id)
    {talker : List Char} (htalker : ',' ∉ talker) (constellation : Constellation)
    (svs : List (GnssSvInfo δ))
    (hsvid : ∀ sv ∈ svs, isOf constellation sv = true → 1 ≤ sv.svid.toInt ∧ sv.svid.toInt ≤ 32)
    (dop : Option (Dop δ)) :
    ListsUsed p constellation svs (gsaFields (finished
      ((gsaSentence talker (svUsedList (usedMask constellation svs)) dop).text p))) :=
  ⟨svUsedList (usedMask constellation svs), (usedFrom_spec _).1,
    usedFrom_usedMask constellation svs hsvid, gsaFields_finished p hp htalker _ _⟩

theorem listsUsed_gloUsedList_iff (p : Printf δ) (hp : p.NamesApart) {talker : List Char}
    (htalker : ',' ∉ talker) (svs : List (GnssSvInfo δ))
    (hsvid : ∀ sv ∈ svs, isOf .glonass sv = true → 1 ≤ sv.svid.toInt ∧ sv.svid.toInt ≤ 32)
    (dop : Option (Dop δ)) :
    ListsUsed p .glonass svs (gsaFields (finished
        ((gsaSentence talker (gloUsedList (usedMask .glonass svs)) dop).text p))) ↔
      ∀ sv ∈ svs, sv.constellation = .glonass → sv.usedInFix = false := by
  have hmem := usedFrom_usedMask .glonass svs hsvid
  rw [gsaFields_finished p hp.noComma htalker, gloUsedList]
  constructor
  · rintro ⟨ids, _, hids, hfields⟩ sv hsv hof
    by_contra hused
    have hsame : ∀ id, id ∈ usedFrom 32 1 (usedMask .glonass svs) ↔ id ∈ ids :=
      fun id => (hmem id).trans (hids id).symm
    have hrange := hsvid sv hsv (isOf_eq_true.mpr hof)
    have hin : sv.svid.toInt.toNat ∈ usedFrom 32 1 (usedMask .glonass svs) :=
      (hmem _).mpr ⟨sv, hsv, isOf_eq_true.mpr hof, by simpa using hused, by omega⟩
    have hle : ∀ id ∈ usedFrom 32 1 (usedMask .glonass svs), id ≤ 32 :=
      fun id hid => ((usedFrom_spec _).2 id |>.mp hid).2.1
    rcases hcode : usedFrom 32 1 (usedMask .glonass svs) with _ | ⟨a, rest⟩
    · rw [hcode] at hin
      exact absurd hin List.not_mem_nil
    · rcases ids with _ | ⟨b, ids⟩
      · exact absurd ((hsame _).mp hin) List.not_mem_nil
      · have ha : a ≤ 32 := hle a (by rw [hcode]; exact List.mem_cons_self)
        have hb : b ≤ 32 := hle b ((hsame b).mpr List.mem_cons_self)
        rw [hcode] at hfields
        simp only [List.map_cons, List.take_succ_cons, List.cons_append, List.cons.injEq]
          at hfields
        have heq := hp.apart _ _ (by rw [glonassSvIdOffset]; omega) (by omega) hfields.1
        rw [glonassSvIdOffset] at heq
        omega
  · intro hnone
    have hempty : usedFrom 32 1 (usedMask .glonass svs) = [] := by
      apply List.eq_nil_iff_forall_not_mem.mpr
      intro id hid
      obtain ⟨sv, hsv, hof, hused, _⟩ := (hmem id).mp hid
      rw [hnone sv hsv (isOf_eq_true.mp hof)] at hused
      exact absurd hused Bool.false_ne_true
    refine ⟨[], List.Pairwise.nil, ?_, ?_⟩
    · intro id
      rw [← hmem id, hempty]
    · rw [hempty]
      rfl

theorem wholePrintf_namesApart : wholePrintf.NamesApart where
  noComma := by
    intro id
    have hall : (zeroPadded 2 id).all (fun c => c != ',') = true :=
      zeroPadded_all (by decide) 2 id
    rw [List.all_eq_true] at hall
    intro hmem
    exact absurd (hall ',' hmem) (by decide)
  apart := by
    intro a b ha hb heq
    have hall : ∀ a b : Fin 97, svName wholePrintf a.val = svName wholePrintf b.val → a = b := by
      decide +kernel
    exact congrArg Fin.val (hall ⟨a, by omega⟩ ⟨b, by omega⟩ heq)

/-- Position reports that are not generated: blank sentences are sent. -/
def blankReports (p : Printf δ) (ops : FloatOps δ) (gmtime : Int → Option Tm)
    (reports : List (GpsLocation δ × GpsLocationExtended δ)) (eng : LocEngData δ) :
    LocEngData δ :=
  reports.foldl (fun eng report => (generatePos p ops gmtime report.1 report.2 false eng).2) eng

theorem blankReports_masks (p : Printf δ) (ops : FloatOps δ) (gmtime : Int → Option Tm)
    (reports : List (GpsLocation δ × GpsLocationExtended δ)) (eng : LocEngData δ) :
    (blankReports p ops gmtime reports eng).gpsUsedMask = eng.gpsUsedMask ∧
      (blankReports p ops gmtime reports eng).gloUsedMask = eng.gloUsedMask := by
  induction reports generalizing eng with
  | nil => exact ⟨rfl, rfl⟩
  | cons report reports ih =>
      have hone : (generatePos p ops gmtime report.1 report.2 false eng).2.gpsUsedMask =
            eng.gpsUsedMask ∧
          (generatePos p ops gmtime report.1 report.2 false eng).2.gloUsedMask =
            eng.gloUsedMask := by
        rw [generatePos]
        split
        · exact ⟨rfl, rfl⟩
        · simp only [Bool.false_eq_true, false_and, if_false, and_self]
      obtain ⟨hgps, hglo⟩ := ih (generatePos p ops gmtime report.1 report.2 false eng).2
      exact ⟨hgps.trans hone.1, hglo.trans hone.2⟩

/-- The satellites are listed under one identifier exactly when no used one is of GLONASS: the
position report adds an offset to its numbers that the satellite report does not. -/
theorem satellitesListed_iff (p : Printf δ) (hp : p.NamesApart) (ops : FloatOps δ)
    (svs : List (GnssSvInfo δ)) (ext ext' : GpsLocationExtended δ) (gmtime : Int → Option Tm)
    (blanks : List (GpsLocation δ × GpsLocationExtended δ)) (loc : GpsLocation δ)
    (eng : LocEngData δ) {tm : Tm}
    (htm : gmtime (loc.timestamp.tdiv 1000) = some tm)
    (hsvid : ∀ sv ∈ svs, sv.constellation ≠ .other → 1 ≤ sv.svid.toInt ∧ sv.svid.toInt ≤ 32)
    (hfits : ∀ s ∈ svSentences ops svs, s.Fits p)
    (hfits' : ∀ s ∈ posSentences ops tm loc ext'
      (blankReports p ops gmtime blanks (generateSv p ops svs ext eng).2) true, s.Fits p) :
    SatellitesListed p ops svs (generateSv p ops svs ext eng).1
        (generatePos p ops gmtime loc ext' true
          (blankReports p ops gmtime blanks (generateSv p ops svs ext eng).2)).1 ↔
      ∀ sv ∈ svs, sv.constellation = .glonass → sv.usedInFix = false := by
  obtain ⟨hgps, hglonass⟩ := texts_generatePos p ops gmtime loc ext' _ htm hfits'
  obtain ⟨hgpsMask, hgloMask⟩ := blankReports_masks p ops gmtime blanks
    (generateSv p ops svs ext eng).2
  rw [hgpsMask] at hgps
  rw [hgloMask] at hglonass
  have hsvidOf : ∀ constellation, constellation ≠ .other → ∀ sv ∈ svs,
      isOf constellation sv = true → 1 ≤ sv.svid.toInt ∧ sv.svid.toInt ≤ 32 := by
    intro constellation hother sv hsv hof
    refine hsvid sv hsv ?_
    rw [isOf_eq_true.mp hof]
    exact hother
  have hiff := listsUsed_gloUsedList_iff p hp (by decide : ',' ∉ ['G', 'N']) svs
    (hsvidOf .glonass (by decide)) (reportDop ops ext'
      (blankReports p ops gmtime blanks (generateSv p ops svs ext eng).2))
  constructor
  · rintro ⟨_, _, text, htext, _, hlists⟩
    rw [hglonass] at htext
    cases htext
    exact hiff.mp hlists
  · intro hnone
    refine ⟨⟨_, _, ?_, gsvSentences_lists p ops gpsTalker .gps svs,
      gsvSentences_lists p ops glonassTalker .glonass svs⟩, ⟨_, hgps, ?_, ?_⟩,
      ⟨_, hglonass, ?_, hiff.mpr hnone⟩⟩
    · change (sendAll p (svSentences ops svs) emptySentence).texts = _
      rw [texts_sendAll p (svSentences_tagged ops svs) hfits, svSentences, List.map_append,
        List.map_append, List.map_map, List.map_map]
      rfl
    · rw [gsaSentence_text]
      rfl
    · exact listsUsed_usedMask p hp.noComma (by decide) .gps svs (hsvidOf .gps (by decide)) _
    · rw [gsaSentence_text]
      rfl

/-- Five satellites of one constellation, two of them used, and one of the other. -/
def sixInView : List (GnssSvInfo Int) :=
  [⟨7, .gps, true, 10, 20, 30⟩, ⟨32, .gps, false, 11, 21, 0⟩, ⟨5, .glonass, false, 12, 22, 31⟩,
    ⟨1, .gps, false, 13, 23, 32⟩, ⟨2, .gps, true, 14, 24, 33⟩, ⟨3, .gps, false, 15, 25, 34⟩]

/-- The sixth satellite alone, and used. -/
def glonassInView : List (GnssSvInfo Int) :=
  [⟨5, .glonass, true, 12, 22, 31⟩]

def placeless : GpsLocation Int where
  timestamp := 3600000
  latLong := none
  altitude := none
  speed := none
  bearing := none

theorem satellitesListed_six :
    SatellitesListed wholePrintf wholeOps sixInView
      (generateSv wholePrintf wholeOps sixInView seaLevel idleEngine).1
      (generatePos wholePrintf wholeOps (fun _ => some oneOClock) placeless seaLevel true
        (blankReports wholePrintf wholeOps (fun _ => some oneOClock) [(placeless, seaLevel)]
          (generateSv wholePrintf wholeOps sixInView seaLevel idleEngine).2)).1 :=
  (satellitesListed_iff wholePrintf wholePrintf_namesApart wholeOps sixInView seaLevel seaLevel
    (fun _ => some oneOClock) [(placeless, seaLevel)] placeless idleEngine rfl (by decide)
    (by decide +kernel) (by decide +kernel)).mpr (by decide)

/-- A used satellite of GLONASS has one number in view and another in use. -/
theorem glonass_not_listed :
    ¬ SatellitesListed wholePrintf wholeOps glonassInView
      (generateSv wholePrintf wholeOps glonassInView seaLevel idleEngine).1
      (generatePos wholePrintf wholeOps (fun _ => some oneOClock) placeless seaLevel true
        (generateSv wholePrintf wholeOps glonassInView seaLevel idleEngine).2).1 := by
  rintro ⟨_, _, text, htext, _, hlists⟩
  have hfits : ∀ s ∈ posSentences wholeOps oneOClock placeless seaLevel
      (generateSv wholePrintf wholeOps glonassInView seaLevel idleEngine).2 true,
      s.Fits wholePrintf := by
    decide +kernel
  have hsent := (texts_generatePos wholePrintf wholeOps (fun _ => some oneOClock) placeless
    seaLevel _ rfl hfits).2
  rw [hsent] at htext
  cases htext
  have hnone := (listsUsed_gloUsedList_iff wholePrintf wholePrintf_namesApart
    (by decide : ',' ∉ ['G', 'N']) glonassInView (by decide) _).mp hlists
  exact absurd (hnone ⟨5, .glonass, true, 12, 22, 31⟩ List.mem_cons_self rfl) (by decide)

end LibraDevice.Nmea
