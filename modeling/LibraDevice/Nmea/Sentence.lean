import LibraDevice.Lib.CBuffer
import LibraDevice.Lib.Hex

/-!
How the sentences of a report are written into the one buffer they share, and
sent, and when they are well formed.
-/

namespace LibraDevice.Nmea

open CBuffer
open Hex

def nmeaSentenceMaxLength : Nat := 200

/-- A character that may stand in the body of a sentence. -/
def isBody (c : Char) : Bool :=
  c != nul && c != '$' && c != '*'

/-- A printed number. -/
structure NumText where
  text : List Char
  nonempty : text ≠ []
  body : text.all isBody = true

/-- What one call of `snprintf` prints, conversion by conversion: text, `%c`, `%0wd` (with width
zero for `%d`), `%2.2d`, `%.1f` and `%09.6lf`. -/
inductive Item (δ : Type*) where
  | lit (text : List Char)
  | c (char : Char)
  | d (width : Nat) (n : Int)
  | d22 (n : Int)
  | f1 (x : δ)
  | f6 (x : δ)
deriving DecidableEq, Repr

/-- How numbers are printed. -/
structure Printf (δ : Type*) where
  d : Nat → Int → NumText
  d22 : Int → NumText
  f1 : δ → NumText
  f6 : δ → NumText

abbrev Piece (δ : Type*) := List (Item δ)

/-- A sentence without its checksum: the pieces whose length is checked as they are appended, and
the last one of which it is not. -/
structure Sentence (δ : Type*) where
  checked : List (Piece δ)
  last : Option (Piece δ)

variable {δ : Type*}

def Item.render (p : Printf δ) : Item δ → List Char
  | .lit text => text
  | .c char => [char]
  | .d width n => (p.d width n).text
  | .d22 n => (p.d22 n).text
  | .f1 x => (p.f1 x).text
  | .f6 x => (p.f6 x).text

def render (p : Printf δ) (piece : Piece δ) : List Char :=
  piece.flatMap (Item.render p)

/-- How a function that may leave early ends; `fault` when it writes or reads outside of the
sentence buffer. -/
inductive Result (α : Type*) where
  | fault
  | returned
  | ok (value : α)
deriving DecidableEq, Repr

/-- `sentence`, `pMarker` and `lengthRemaining`. -/
structure Draft where
  sentence : List Char
  pMarker : Nat
  lengthRemaining : Int

def putPiece (s : List Char) (draft : Draft) : Result Draft :=
  match snprintf draft.pMarker draft.lengthRemaining s draft.sentence with
  | none => .fault
  | some sentence =>
      if (s.length : Int) ≥ draft.lengthRemaining then .returned
      else .ok ⟨sentence, draft.pMarker + s.length, draft.lengthRemaining - s.length⟩

def putPieces (p : Printf δ) : List (Piece δ) → Draft → Result Draft
  | [], draft => .ok draft
  | piece :: pieces, draft =>
      match putPiece (render p piece) draft with
      | .fault => .fault
      | .returned => .returned
      | .ok draft => putPieces p pieces draft

/-- The last piece, for which nobody looks at the length. -/
def putLast (p : Printf δ) (last : Option (Piece δ)) (draft : Draft) : Option (List Char) :=
  match last with
  | none => some draft.sentence
  | some piece =>
      snprintf draft.pMarker draft.lengthRemaining (render p piece) draft.sentence

/-- The XOR of the characters. -/
def checksum (body : List Char) : UInt8 :=
  body.foldl (fun sum c => sum ^^^ UInt8.ofNat c.toNat) 0

def checksumText (body : List Char) : List Char :=
  '*' :: hex02 (checksum body).toNat ++ ['\r', '\n']

/-- `loc_eng_nmea_put_checksum`: the buffer, and the length as it reports it. -/
def putChecksum (maxSize : Nat) (sentence : List Char) : Option (List Char × Int) :=
  match textAt 1 sentence with
  | none => none
  | some body =>
      (snprintf (1 + body.length) ((maxSize : Int) - body.length - 1) (checksumText body)
        sentence).map fun sentence =>
          (sentence, (body.length : Int) + (checksumText body).length + 1)

/-- A call of `loc_eng_nmea_send`. -/
structure Send where
  sentence : List Char
  length : Int
deriving DecidableEq, Repr

/-- One sentence, in the buffer that the one before it has left. -/
def putSentence (p : Printf δ) (s : Sentence δ) (sentence : List Char) : Result Send :=
  match putPieces p s.checked ⟨sentence, 0, nmeaSentenceMaxLength⟩ with
  | .fault => .fault
  | .returned => .returned
  | .ok draft =>
      match (putLast p s.last draft).bind (putChecksum nmeaSentenceMaxLength) with
      | none => .fault
      | some sent => .ok ⟨sent.1, sent.2⟩

/-- What a report function has sent, and how it ended. -/
structure Run where
  sent : List Send
  finish : Result Unit
deriving DecidableEq, Repr

def sendAll (p : Printf δ) : List (Sentence δ) → List Char → Run
  | [], _ => ⟨[], .ok ()⟩
  | s :: rest, sentence =>
      match putSentence p s sentence with
      | .fault => ⟨[], .fault⟩
      | .returned => ⟨[], .returned⟩
      | .ok send =>
          let run := sendAll p rest send.sentence
          ⟨send :: run.sent, run.finish⟩

/-- `char sentence[NMEA_SENTENCE_MAX_LENGTH] = {0}`. -/
def emptySentence : List Char :=
  List.replicate nmeaSentenceMaxLength nul

/-- The text of the checked pieces. -/
def Sentence.checkedText (p : Printf δ) (s : Sentence δ) : List Char :=
  s.checked.flatMap (render p)

/-- The text of a sentence up to its checksum. -/
def Sentence.text (p : Printf δ) (s : Sentence δ) : List Char :=
  s.checkedText p ++ render p (s.last.getD [])

/-- The pieces fit, one after the other, with the zero behind them. -/
def Sentence.Sent (p : Printf δ) (s : Sentence δ) : Prop :=
  (s.checkedText p).length < nmeaSentenceMaxLength

instance instDecidableSent (p : Printf δ) (s : Sentence δ) : Decidable (s.Sent p) :=
  inferInstanceAs (Decidable (_ < _))

/-- The checksum fits too. -/
def Sentence.Fits (p : Printf δ) (s : Sentence δ) : Prop :=
  (s.text p).length + 5 < nmeaSentenceMaxLength

instance instDecidableFits (p : Printf δ) (s : Sentence δ) : Decidable (s.Fits p) :=
  inferInstanceAs (Decidable (_ < _))

@[simp]
theorem checksumText_length (body : List Char) : (checksumText body).length = 5 := by
  rw [checksumText, hex02_byte]
  rfl

/-- The draft holds the text `t`. -/
structure Draft.Holds (t : List Char) (draft : Draft) : Prop where
  size : draft.sentence.length = nmeaSentenceMaxLength
  text : draft.sentence.take t.length = t
  pMarker : draft.pMarker = t.length
  lengthRemaining : draft.lengthRemaining = (nmeaSentenceMaxLength : Int) - t.length
  room : t.length < nmeaSentenceMaxLength
  ended : t ≠ [] → ∃ rest, draft.sentence = t ++ nul :: rest

theorem Draft.Holds.snprintf {t : List Char} {draft : Draft} (h : draft.Holds t)
    (s : List Char) :
    ∃ rest, snprintf draft.pMarker draft.lengthRemaining s draft.sentence =
        some (t ++ s.take (nmeaSentenceMaxLength - t.length - 1) ++ nul :: rest) ∧
      (t ++ s.take (nmeaSentenceMaxLength - t.length - 1) ++ nul :: rest).length =
        nmeaSentenceMaxLength := by
  have happend := snprintf_append s h.text (by rw [h.size]; exact h.room)
  rw [h.size] at happend
  rw [h.pMarker, h.lengthRemaining]
  exact happend

theorem putPiece_spec {t : List Char} {draft : Draft} (h : draft.Holds t) (s : List Char) :
    (t.length + s.length < nmeaSentenceMaxLength →
        ∃ next, putPiece s draft = .ok next ∧ next.Holds (t ++ s)) ∧
      (nmeaSentenceMaxLength ≤ t.length + s.length → putPiece s draft = .returned) := by
  obtain ⟨rest, hwrite, hsize⟩ := h.snprintf s
  have hremaining := h.lengthRemaining
  rw [putPiece, hwrite]
  dsimp only
  constructor
  · intro hlt
    have htake : s.take (nmeaSentenceMaxLength - t.length - 1) = s :=
      List.take_of_length_le (by omega)
    rw [htake] at hsize
    rw [htake, if_neg (by omega)]
    refine ⟨_, rfl, hsize, ?_, ?_, ?_, ?_, fun _ => ⟨rest, rfl⟩⟩
    · rw [List.take_left]
    · rw [h.pMarker, List.length_append]
    · rw [List.length_append]
      push_cast
      omega
    · rw [List.length_append]
      exact hlt
  · intro hge
    rw [if_pos (by omega)]

theorem putPieces_spec (p : Printf δ) (pieces : List (Piece δ)) {t : List Char} {draft : Draft}
    (h : draft.Holds t) :
    (t.length + (pieces.flatMap (render p)).length < nmeaSentenceMaxLength →
        ∃ next, putPieces p pieces draft = .ok next ∧
          next.Holds (t ++ pieces.flatMap (render p))) ∧
      (nmeaSentenceMaxLength ≤ t.length + (pieces.flatMap (render p)).length →
        putPieces p pieces draft = .returned) := by
  induction pieces generalizing t draft with
  | nil =>
      have hroom := h.room
      constructor
      · intro _
        exact ⟨draft, rfl, by simpa using h⟩
      · intro hge
        simp only [List.flatMap_nil, List.length_nil] at hge
        omega
  | cons piece pieces ih =>
      obtain ⟨hfits, hlong⟩ := putPiece_spec h (render p piece)
      rw [putPieces, List.flatMap_cons, List.length_append]
      rcases Nat.lt_or_ge (t.length + (render p piece).length) nmeaSentenceMaxLength with hlt | hge
      · obtain ⟨next, hput, hnext⟩ := hfits hlt
        rw [hput]
        have hrest := ih hnext
        rw [List.length_append, List.append_assoc] at hrest
        constructor
        · intro htotal
          exact hrest.1 (by omega)
        · intro htotal
          exact hrest.2 (by omega)
      · rw [hlong hge]
        constructor
        · intro htotal
          omega
        · intro _
          rfl

theorem putChecksum_spec {body rest : List Char} (hbody : nul ∉ body)
    (hsize : ('$' :: body ++ nul :: rest).length = nmeaSentenceMaxLength) :
    ∃ rest', putChecksum nmeaSentenceMaxLength ('$' :: body ++ nul :: rest) =
        some ('$' :: body ++ (checksumText body).take (198 - body.length) ++ nul :: rest',
          (body.length : Int) + 6) ∧
      ('$' :: body ++ (checksumText body).take (198 - body.length) ++ nul :: rest').length =
        nmeaSentenceMaxLength := by
  have htext : textAt 1 ('$' :: body ++ nul :: rest) = some body :=
    textAt_append hbody ['$'] rest
  have hlt : ('$' :: body).length < ('$' :: body ++ nul :: rest).length := by
    simp only [List.length_append, List.length_cons]
    omega
  have hheld : ('$' :: body ++ nul :: rest).take ('$' :: body).length = '$' :: body :=
    List.take_left
  obtain ⟨rest', hwrite, hlen⟩ := snprintf_append (checksumText body) hheld hlt
  have hroom : nmeaSentenceMaxLength - ('$' :: body).length - 1 = 198 - body.length := by
    rw [List.length_cons, nmeaSentenceMaxLength]
    omega
  have hpos : ('$' :: body).length = 1 + body.length := by
    rw [List.length_cons, Nat.add_comm]
  have harg : (nmeaSentenceMaxLength : Int) - ('$' :: body).length =
      (nmeaSentenceMaxLength : Int) - body.length - 1 := by
    rw [List.length_cons]
    omega
  rw [hsize, hroom] at hwrite hlen
  rw [harg, hpos] at hwrite
  refine ⟨rest', ?_, hlen⟩
  rw [putChecksum, htext]
  dsimp only
  rw [hwrite, Option.map_some, checksumText_length]
  rfl

theorem putLast_spec (p : Printf δ) (s : Sentence δ) {draft : Draft}
    (h : draft.Holds (s.checkedText p)) (hne : s.text p ≠ []) :
    ∃ rest, putLast p s.last draft =
        some ((s.text p).take (nmeaSentenceMaxLength - 1) ++ nul :: rest) ∧
      ((s.text p).take (nmeaSentenceMaxLength - 1) ++ nul :: rest).length =
        nmeaSentenceMaxLength := by
  have hroom := h.room
  have htake : (s.checkedText p).take (nmeaSentenceMaxLength - 1) = s.checkedText p :=
    List.take_of_length_le (by omega)
  rcases hlast : s.last with _ | piece
  · have htext : s.text p = s.checkedText p := by
      simp [Sentence.text, hlast, render]
    rw [htext] at hne ⊢
    obtain ⟨rest, hrest⟩ := h.ended hne
    refine ⟨rest, ?_, ?_⟩
    · rw [putLast, htake, hrest]
    · rw [htake, ← hrest, h.size]
  · have htext : (s.text p).take (nmeaSentenceMaxLength - 1) = s.checkedText p ++
        (render p piece).take (nmeaSentenceMaxLength - (s.checkedText p).length - 1) := by
      rw [Sentence.text, hlast, Option.getD_some, List.take_append, htake]
      congr 2
      omega
    rw [htext]
    exact h.snprintf (render p piece)

/-- The text as far as the buffer holds it, and as much of the checksum as fits behind it. -/
def cutText (body : List Char) : List Char :=
  '$' :: body.take 198 ++ (checksumText (body.take 198)).take (198 - (body.take 198).length)

theorem putSentence_spec (p : Printf δ) (s : Sentence δ) {sentence : List Char}
    (hsize : sentence.length = nmeaSentenceMaxLength) {body : List Char}
    (htext : s.text p = '$' :: body) (hbody : nul ∉ body) :
    (¬ s.Sent p → putSentence p s sentence = .returned) ∧
      (s.Sent p → ∃ rest, putSentence p s sentence =
          .ok ⟨cutText body ++ nul :: rest, ((body.take 198).length : Int) + 6⟩ ∧
        (cutText body ++ nul :: rest).length = nmeaSentenceMaxLength) := by
  have hstart : Draft.Holds [] ⟨sentence, 0, nmeaSentenceMaxLength⟩ :=
    ⟨hsize, rfl, rfl, rfl, by decide, fun h => absurd rfl h⟩
  obtain ⟨hfits, hlong⟩ := putPieces_spec p s.checked hstart
  rw [List.length_nil, Nat.zero_add, List.nil_append] at hfits
  rw [List.length_nil, Nat.zero_add] at hlong
  rw [putSentence]
  constructor
  · intro hnot
    rw [hlong (Nat.le_of_not_lt hnot)]
  · intro hsent
    obtain ⟨draft, hput, hdraft⟩ := hfits hsent
    have hne : s.text p ≠ [] := by
      rw [htext]
      exact List.cons_ne_nil _ _
    obtain ⟨rest, hlast, hlen⟩ := putLast_spec p s hdraft hne
    have hcut : (s.text p).take (nmeaSentenceMaxLength - 1) = '$' :: body.take 198 := by
      rw [htext]
      rfl
    rw [hcut] at hlast hlen
    have hnul : nul ∉ body.take 198 := fun h => hbody (List.mem_of_mem_take h)
    obtain ⟨rest', hchecksum, hsize'⟩ := putChecksum_spec hnul hlen
    refine ⟨rest', ?_, hsize'⟩
    rw [hput]
    dsimp only
    rw [hlast, Option.bind_some, hchecksum]
    rfl

/-- The sentence starts with a dollar sign and has no other special character. -/
def Sentence.Formed (p : Printf δ) (s : Sentence δ) : Prop :=
  ∃ body, s.text p = '$' :: body ∧ body.all isBody = true

/-- The callback gets a text with its end, of the length that it is told and of the form of the
standard. -/
def Send.WellFormed (send : Send) : Prop :=
  ∃ body : List Char, '*' ∉ body ∧
    textAt 0 send.sentence =
      some ('$' :: body ++ '*' :: hexByte (checksum body) ++ ['\r', '\n']) ∧
    send.length = ('$' :: body ++ '*' :: hexByte (checksum body) ++ ['\r', '\n']).length ∧
    send.length < nmeaSentenceMaxLength

theorem checksumText_eq (body : List Char) :
    checksumText body = '*' :: hexByte (checksum body) ++ ['\r', '\n'] := by
  rw [checksumText, hex02_byte]

theorem not_mem_of_all_isBody {body : List Char} (h : body.all isBody = true) :
    nul ∉ body ∧ '*' ∉ body := by
  rw [List.all_eq_true] at h
  constructor
  · intro hmem
    exact absurd (h _ hmem) (by decide)
  · intro hmem
    exact absurd (h _ hmem) (by decide)

theorem nul_not_mem_checksumText (body : List Char) : nul ∉ checksumText body := by
  have hupper : ∀ c, IsUpperHex c → c ≠ nul := by
    intro c hc heq
    rw [heq, IsUpperHex] at hc
    exact absurd hc (by decide)
  rw [checksumText_eq, hexByte]
  simp only [List.cons_append, List.nil_append, List.mem_cons, List.not_mem_nil, or_false,
    not_or]
  exact ⟨by decide, (hupper _ (hexDigit_isUpperHex _)).symm,
    (hupper _ (hexDigit_isUpperHex _)).symm, by decide, by decide⟩

theorem Sentence.Fits.sent {p : Printf δ} {s : Sentence δ} (h : s.Fits p) : s.Sent p := by
  rw [Sentence.Fits, Sentence.text, List.length_append] at h
  rw [Sentence.Sent]
  omega

theorem fits_iff_length {p : Printf δ} {s : Sentence δ} {body : List Char}
    (htext : s.text p = '$' :: body) : s.Fits p ↔ body.length ≤ 193 := by
  rw [Sentence.Fits, htext, List.length_cons, nmeaSentenceMaxLength]
  omega

theorem cutText_of_le {body : List Char} (h : body.length ≤ 193) :
    cutText body = '$' :: body ++ checksumText body := by
  have htake : body.take 198 = body := List.take_of_length_le (by omega)
  have hchecksum : (checksumText body).take (198 - body.length) = checksumText body :=
    List.take_of_length_le (by rw [checksumText_length]; omega)
  rw [cutText, htake, hchecksum]

theorem textAt_cutText {body : List Char} (h : body.length ≤ 193) (hbody : nul ∉ body)
    (rest : List Char) :
    textAt 0 (cutText body ++ nul :: rest) = some ('$' :: body ++ checksumText body) := by
  have hnul : nul ∉ '$' :: body ++ checksumText body := by
    simp only [List.cons_append, List.mem_cons, List.mem_append, not_or]
    exact ⟨by decide, hbody, nul_not_mem_checksumText body⟩
  rw [cutText_of_le h]
  exact textAt_append hnul [] rest

theorem send_wellFormed_iff {p : Printf δ} {s : Sentence δ} {body : List Char}
    (htext : s.text p = '$' :: body) (hbody : body.all isBody = true) (rest : List Char) :
    Send.WellFormed ⟨cutText body ++ nul :: rest, ((body.take 198).length : Int) + 6⟩ ↔
      s.Fits p := by
  obtain ⟨hnul, hstar⟩ := not_mem_of_all_isBody hbody
  rw [fits_iff_length htext]
  constructor
  · rintro ⟨_, _, _, _, hmax⟩
    simp only [List.length_take, nmeaSentenceMaxLength] at hmax
    omega
  · intro hle
    have htake : body.take 198 = body := List.take_of_length_le (by omega)
    refine ⟨body, hstar, ?_, ?_, ?_⟩
    · dsimp only
      rw [textAt_cutText hle hnul, checksumText_eq]
      simp
    · dsimp only
      rw [htake]
      simp only [List.length_append, List.length_cons, hexByte_length, List.length_nil]
      omega
    · dsimp only
      rw [htake, nmeaSentenceMaxLength]
      omega

/-- The sentences that are sent: those before the first that is given up. -/
def sentSentences (p : Printf δ) (sentences : List (Sentence δ)) : List (Sentence δ) :=
  sentences.takeWhile fun s => decide (s.Sent p)

def Run.WellFormed (run : Run) : Prop :=
  run.finish ≠ .fault ∧ ∀ send ∈ run.sent, send.WellFormed

theorem sendAll_wellFormed_iff (p : Printf δ) (sentences : List (Sentence δ))
    (hformed : ∀ s ∈ sentences, s.Formed p) {sentence : List Char}
    (hsize : sentence.length = nmeaSentenceMaxLength) :
    (sendAll p sentences sentence).finish ≠ .fault ∧
      ((∀ send ∈ (sendAll p sentences sentence).sent, send.WellFormed) ↔
        ∀ s ∈ sentSentences p sentences, s.Fits p) := by
  induction sentences generalizing sentence with
  | nil => simp [sendAll, sentSentences]
  | cons s sentences ih =>
      simp only [List.mem_cons, forall_eq_or_imp] at hformed
      obtain ⟨⟨body, htext, hbody⟩, hrest⟩ := hformed
      obtain ⟨hleave, hput⟩ := putSentence_spec p s hsize htext (not_mem_of_all_isBody hbody).1
      rw [sendAll]
      by_cases hsent : s.Sent p
      · obtain ⟨rest, hsend, hsize'⟩ := hput hsent
        obtain ⟨hfinish, hiff⟩ := ih hrest hsize'
        have htake : sentSentences p (s :: sentences) = s :: sentSentences p sentences :=
          List.takeWhile_cons_of_pos (by simpa using hsent)
        rw [hsend, htake]
        refine ⟨hfinish, ?_⟩
        dsimp only
        rw [List.forall_mem_cons, List.forall_mem_cons, hiff,
          send_wellFormed_iff htext hbody rest]
      · have htake : sentSentences p (s :: sentences) = [] :=
          List.takeWhile_cons_of_neg (by simpa using hsent)
        rw [hleave hsent, htake]
        simp

theorem sendAll_of_fits (p : Printf δ) (sentences : List (Sentence δ))
    (hformed : ∀ s ∈ sentences, s.Formed p) (hfits : ∀ s ∈ sentences, s.Fits p)
    {sentence : List Char} (hsize : sentence.length = nmeaSentenceMaxLength) :
    (sendAll p sentences sentence).finish = .ok () ∧
      (sendAll p sentences sentence).sent.map (fun send => textAt 0 send.sentence) =
        sentences.map fun s => some (s.text p ++ checksumText (s.text p).tail) := by
  induction sentences generalizing sentence with
  | nil => simp [sendAll]
  | cons s sentences ih =>
      simp only [List.mem_cons, forall_eq_or_imp] at hformed hfits
      obtain ⟨⟨body, htext, hbody⟩, hrest⟩ := hformed
      have hnul := (not_mem_of_all_isBody hbody).1
      obtain ⟨_, hput⟩ := putSentence_spec p s hsize htext hnul
      obtain ⟨rest, hsend, hsize'⟩ := hput hfits.1.sent
      obtain ⟨hfinish, hmap⟩ := ih hrest hfits.2 hsize'
      rw [sendAll, hsend]
      refine ⟨hfinish, ?_⟩
      dsimp only
      rw [List.map_cons, List.map_cons, hmap, htext,
        textAt_cutText ((fits_iff_length htext).mp hfits.1) hnul]
      rfl

/-- The texts and numbers of an item other than the first have no special character. -/
def Item.plain : Item δ → Bool
  | .lit text => text.all isBody
  | .c char => isBody char
  | _ => true

theorem all_render_of_plain (p : Printf δ) {piece : Piece δ}
    (h : piece.all Item.plain = true) : (render p piece).all isBody = true := by
  induction piece with
  | nil => rfl
  | cons item piece ih =>
      simp only [List.all_cons, Bool.and_eq_true] at h
      obtain ⟨hitem, hpiece⟩ := h
      rw [render, List.flatMap_cons, List.all_append, Bool.and_eq_true]
      refine ⟨?_, ih hpiece⟩
      cases item with
      | lit text => exact hitem
      | c char => simpa [Item.plain, Item.render] using hitem
      | d width n => exact (p.d width n).body
      | d22 n => exact (p.d22 n).body
      | f1 x => exact (p.f1 x).body
      | f6 x => exact (p.f6 x).body

/-- All the items of a sentence. -/
def Sentence.items (s : Sentence δ) : Piece δ :=
  s.checked.flatten ++ s.last.getD []

theorem Sentence.text_eq_render (p : Printf δ) (s : Sentence δ) :
    s.text p = render p s.items := by
  have hflat : s.checked.flatMap (render p) = render p s.checked.flatten := by
    induction s.checked with
    | nil => rfl
    | cons piece pieces ih =>
        rw [List.flatMap_cons, ih, List.flatten_cons, render, render, render,
          List.flatMap_append]
  rw [Sentence.text, Sentence.checkedText, hflat, Sentence.items, render, render, render,
    List.flatMap_append]

theorem Sentence.formed_of_items (p : Printf δ) {s : Sentence δ} {tag : List Char}
    {items : Piece δ} (hitems : s.items = .lit ('$' :: tag) :: items)
    (htag : tag.all isBody = true) (hplain : items.all Item.plain = true) : s.Formed p := by
  refine ⟨tag ++ render p items, ?_, ?_⟩
  · rw [s.text_eq_render, hitems, render, List.flatMap_cons]
    rfl
  · rw [List.all_append, htag, all_render_of_plain p hplain]
    rfl

end LibraDevice.Nmea
