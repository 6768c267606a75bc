import LibraDevice.LocEng.EncodeInPlace
import LibraDevice.Xml.Node
import Mathlib.Data.List.DropRight

/-!
The chipset's serial number, as it is read for the user agent string.
-/

namespace LibraDevice.LocEng

open CBuffer
open Xml (isSpace)

/-- The largest `size_t`. -/
def sizeMax : Nat := 18446744073709551615

/-- `strlcpy` into the whole of an array, with a size that is not zero. -/
def strlcpyInto (src : List Char) (size : Nat) (buf : List Char) : Option (List Char) :=
  write 0 (strlcpy src size ++ [nul]) buf

/-- The loop that removes trailing spaces, for at most `n` turns; `none` when it has not ended
then, or has read outside of the array. -/
def removeTrailing : Nat → Nat → List Char → Option (List Char)
  | 0, _, _ => none
  | n + 1, len, buf =>
      -- `--len` of a `size_t`
      let len := (len + sizeMax) % (sizeMax + 1)
      if len ≥ 0 then
        match buf[len]? with
        | none => none
        | some c => if isSpace c then removeTrailing n len (buf.set len nul) else some buf
      else some buf

/-- `getChipsetSerialNo`, with what the file holds when it can be opened. -/
def getChipsetSerialNo (file : Option (List Char)) (buf : List Char) (buflen : Nat)
    (dflt : List Char) : Option (List Char) :=
  match file with
  | none => strlcpyInto dflt buflen buf
  | some content =>
      let data := content.take (buflen - 1)
      match write 0 data buf with
      | none => none
      | some buf =>
          match if data.length = 0 then strlcpyInto dflt buflen buf
            else write data.length [nul] buf with
          | none => none
          | some buf =>
              match textAt 0 buf with
              | none => none
              | some text => removeTrailing (text.length + 1) text.length buf

theorem removeTrailing_nil {buf : List Char} (hbuf : buf.length ≤ sizeMax) (n : Nat) :
    removeTrailing (n + 1) 0 buf = none := by
  have hlen : (0 + sizeMax) % (sizeMax + 1) = sizeMax := by decide
  have hread : buf[sizeMax]? = none := List.getElem?_eq_none hbuf
  simp only [removeTrailing, hlen, ge_iff_le, Nat.zero_le, if_true, hread]

theorem removeTrailing_concat {text rest : List Char} {c : Char}
    (hbuf : (text ++ c :: rest).length ≤ sizeMax) (n : Nat) :
    removeTrailing (n + 1) (text.length + 1) (text ++ c :: rest) =
      if isSpace c then removeTrailing n text.length (text ++ nul :: rest)
      else some (text ++ c :: rest) := by
  have hlen : (text.length + 1 + sizeMax) % (sizeMax + 1) = text.length := by
    have hlt : text.length < sizeMax + 1 := by
      rw [List.length_append] at hbuf
      omega
    rw [Nat.add_right_comm, Nat.add_assoc, Nat.add_mod_right, Nat.mod_eq_of_lt hlt]
  simp only [removeTrailing, hlen, ge_iff_le, Nat.zero_le, if_true, getElem?_middle, set_middle]

/-- A text with a character that is no space loses what is behind the last of them; without
one, the loop leaves the array. -/
theorem removeTrailing_spec (text rest : List Char)
    (hbuf : (text ++ nul :: rest).length ≤ sizeMax) :
    ∃ rest', removeTrailing (text.length + 1) text.length (text ++ nul :: rest) =
      if text.rdropWhile isSpace = [] then none
      else some (text.rdropWhile isSpace ++ nul :: rest') := by
  induction text using List.reverseRecOn generalizing rest with
  | nil => exact ⟨rest, removeTrailing_nil hbuf 0⟩
  | append_singleton text c ih =>
      have hmid : text ++ [c] ++ nul :: rest = text ++ c :: nul :: rest := by simp
      rw [hmid] at hbuf ⊢
      rw [List.length_append, List.length_singleton, removeTrailing_concat hbuf,
        List.rdropWhile_concat]
      by_cases hc : isSpace c = true
      · obtain ⟨rest', hrest⟩ := ih (nul :: rest) (by simpa using hbuf)
        refine ⟨rest', ?_⟩
        rw [if_pos hc, if_pos hc, hrest]
      · refine ⟨rest, ?_⟩
        rw [if_neg hc, if_neg hc, if_neg (by simp)]
        simp

theorem cut_at_nul (data rest : List Char) :
    ∃ rest', data ++ nul :: rest =
      data.takeWhile (fun c => decide (c ≠ nul)) ++ nul :: rest' := by
  induction data with
  | nil => exact ⟨rest, rfl⟩
  | cons c data ih =>
      obtain ⟨rest', hrest⟩ := ih
      by_cases hc : c = nul
      · refine ⟨data ++ nul :: rest, ?_⟩
        rw [List.takeWhile_cons_of_neg (by simpa using hc), hc]
        rfl
      · refine ⟨rest', ?_⟩
        rw [List.takeWhile_cons_of_pos (by simpa using hc), List.cons_append, hrest,
          List.cons_append]

/-- The text that the array holds before spaces are removed. -/
def serialText (content : List Char) (buflen : Nat) (dflt : List Char) : List Char :=
  if content = [] then dflt.take (buflen - 1)
  else (content.take (buflen - 1)).takeWhile (fun c => decide (c ≠ nul))

theorem write_start {data buf : List Char} (h : data.length < buf.length) :
    write 0 (data ++ [nul]) buf = some (data ++ nul :: buf.drop (data.length + 1)) := by
  have hlen : 0 + (data ++ [nul]).length = data.length + 1 := by
    rw [List.length_append, List.length_singleton, Nat.zero_add]
  rw [write, hlen, if_pos (Nat.succ_le_of_lt h), List.take_zero, List.nil_append, List.append_assoc]
  rfl

theorem getChipsetSerialNo_some (content : List Char) {buf dflt : List Char} {buflen : Nat}
    (hdflt : nul ∉ dflt) (hlen : 2 ≤ buflen) (hbuf : buf.length = buflen) :
    ∃ rest, (serialText content buflen dflt ++ nul :: rest).length = buflen ∧
      getChipsetSerialNo (some content) buf buflen dflt =
        removeTrailing ((serialText content buflen dflt).length + 1)
          (serialText content buflen dflt).length
          (serialText content buflen dflt ++ nul :: rest) := by
  rcases content with _ | ⟨c, content⟩
  · have htake : (dflt.take (buflen - 1)).length < buf.length := by
      rw [List.length_take]
      omega
    have hnul : nul ∉ dflt.take (buflen - 1) := fun h => hdflt (List.mem_of_mem_take h)
    have hempty : write 0 [] buf = some buf := by
      simp [write]
    refine ⟨buf.drop ((dflt.take (buflen - 1)).length + 1), ?_, ?_⟩
    · simp only [serialText, if_true, List.length_append, List.length_cons, List.length_drop]
      omega
    · have htext : textAt 0 (dflt.take (buflen - 1) ++
          nul :: buf.drop ((dflt.take (buflen - 1)).length + 1)) =
            some (dflt.take (buflen - 1)) := textAt_append hnul [] _
      simp only [getChipsetSerialNo, List.take_nil, hempty, List.length_nil, if_true,
        strlcpyInto, strlcpy, write_start htake, htext, serialText]
  · have hdata : ((c :: content).take (buflen - 1)).length < buf.length := by
      rw [List.length_take]
      omega
    have hsome : ((c :: content).take (buflen - 1)).length ≠ 0 := by
      rw [List.length_take, List.length_cons]
      omega
    have hfread : write 0 ((c :: content).take (buflen - 1)) buf =
        some ((c :: content).take (buflen - 1) ++
          buf.drop ((c :: content).take (buflen - 1)).length) := by
      rw [write, if_pos (by omega), List.take_zero, List.nil_append, Nat.zero_add]
    obtain ⟨old, more, hmore⟩ : ∃ old more,
        buf.drop ((c :: content).take (buflen - 1)).length = old :: more := by
      rcases h : buf.drop ((c :: content).take (buflen - 1)).length with _ | ⟨old, more⟩
      · rw [List.drop_eq_nil_iff] at h
        omega
      · exact ⟨old, more, rfl⟩
    obtain ⟨rest, hcut⟩ := cut_at_nul ((c :: content).take (buflen - 1)) more
    have htext : textAt 0 (serialText (c :: content) buflen dflt ++ nul :: rest) =
        some (serialText (c :: content) buflen dflt) := by
      refine textAt_append (fun h => ?_) [] rest
      rw [serialText, if_neg (List.cons_ne_nil c content)] at h
      simpa using List.mem_takeWhile_imp h
    have hsame : (c :: content).take (buflen - 1) ++ nul :: more =
        serialText (c :: content) buflen dflt ++ nul :: rest := by
      rw [hcut, serialText, if_neg (List.cons_ne_nil c content)]
    refine ⟨rest, ?_, ?_⟩
    · have hcount := congrArg List.length hmore
      rw [List.length_drop, List.length_cons] at hcount
      rw [← hsame, List.length_append, List.length_cons]
      omega
    · simp only [getChipsetSerialNo, hfread, hmore, hsome, if_false, write_middle, hsame, htext]

/-- What is wanted of the serial number for a file's content: no byte outside of the array is
read or written, and the array then holds the first bytes of the content up to a zero without
trailing spaces, or the default when there are none. -/
def SerialNoRight (content : List Char) (buflen : Nat) (dflt : List Char) : Prop :=
  ∀ buf : List Char, buf.length = buflen →
    ∃ buf', getChipsetSerialNo (some content) buf buflen dflt = some buf' ∧
      textAt 0 buf' = some (if content = [] then dflt
        else ((content.take (buflen - 1)).takeWhile (fun c => decide (c ≠ nul))).rdropWhile
          isSpace)

/-- The default is taken as it is when it fits and does not end with a space; a content needs a
character that is no space in front of the first zero. -/
def SerialNoKept (content : List Char) (buflen : Nat) (dflt : List Char) : Prop :=
  if content = [] then dflt.length < buflen ∧ ∃ c ∈ dflt.getLast?, isSpace c = false
  else ∃ c ∈ (content.take (buflen - 1)).takeWhile (fun c => decide (c ≠ nul)),
    isSpace c = false

theorem rdropWhile_eq_nil_iff_forall (text : List Char) :
    text.rdropWhile isSpace = [] ↔ ¬ ∃ c ∈ text, isSpace c = false := by
  rw [List.rdropWhile_eq_nil_iff]
  simp

theorem nul_not_mem_serialText {content dflt : List Char} {buflen : Nat} (hdflt : nul ∉ dflt) :
    nul ∉ serialText content buflen dflt := by
  rw [serialText]
  split_ifs
  · exact fun h => hdflt (List.mem_of_mem_take h)
  · exact fun h => by simpa using List.mem_takeWhile_imp h

theorem serialNo_cases (content : List Char) {buf dflt : List Char} {buflen : Nat}
    (hdflt : nul ∉ dflt)
    (hlen : 2 ≤ buflen) (hint : buflen < 2147483648) (hbuf : buf.length = buflen) :
    ((serialText content buflen dflt).rdropWhile isSpace = [] ∧
      getChipsetSerialNo (some content) buf buflen dflt = none) ∨
    (serialText content buflen dflt).rdropWhile isSpace ≠ [] ∧
      ∃ buf', getChipsetSerialNo (some content) buf buflen dflt = some buf' ∧
        textAt 0 buf' = some ((serialText content buflen dflt).rdropWhile isSpace) := by
  obtain ⟨rest, hcount, hrun⟩ := getChipsetSerialNo_some content hdflt hlen hbuf
  have hmax : (serialText content buflen dflt ++ nul :: rest).length ≤ sizeMax := by
    rw [hcount, sizeMax]
    omega
  obtain ⟨rest', hloop⟩ := removeTrailing_spec (serialText content buflen dflt) rest hmax
  rw [hrun, hloop]
  by_cases hnil : (serialText content buflen dflt).rdropWhile isSpace = []
  · exact Or.inl ⟨hnil, if_pos hnil⟩
  · refine Or.inr ⟨hnil, _, if_neg hnil, textAt_append (fun hmem => ?_) [] rest'⟩
    exact nul_not_mem_serialText hdflt ((List.rdropWhile_prefix isSpace _).subset hmem)

theorem serialNo_empty {dflt : List Char} {buflen : Nat} (hdflt : nul ∉ dflt)
    (hlen : 2 ≤ buflen) (hint : buflen < 2147483648) :
    SerialNoRight [] buflen dflt ↔ SerialNoKept [] buflen dflt := by
  have htext : serialText [] buflen dflt = dflt.take (buflen - 1) := if_pos rfl
  simp only [SerialNoRight, SerialNoKept, if_true]
  constructor
  · intro h
    obtain ⟨buf', hrun, hbuf'⟩ := h (List.replicate buflen nul) List.length_replicate
    rcases serialNo_cases [] hdflt hlen hint (List.length_replicate (a := nul)) with
      ⟨-, hnone⟩ | ⟨hne, buf, hsome, hleft⟩
    · rw [hnone] at hrun
      exact absurd hrun (Option.some_ne_none buf').symm
    · rw [htext] at hne hleft
      rw [hsome] at hrun
      rw [Option.some.inj hrun, hbuf'] at hleft
      have hdrop : dflt = (dflt.take (buflen - 1)).rdropWhile isSpace := Option.some.inj hleft
      have hpre := List.IsPrefix.length_le (List.rdropWhile_prefix isSpace (dflt.take (buflen - 1)))
      rw [← hdrop, List.length_take] at hpre
      have hfits : dflt.length < buflen := by omega
      rw [List.take_of_length_le (by omega)] at hdrop hne
      have hne' : dflt ≠ [] := fun hnil => hne (by rw [hnil, List.rdropWhile_nil])
      refine ⟨hfits, dflt.getLast hne', List.getLast?_eq_some_getLast hne', ?_⟩
      exact Bool.eq_false_of_not_eq_true (List.rdropWhile_eq_self_iff.mp hdrop.symm hne')
  · rintro ⟨hfits, c, hlast, hc⟩ buf hbuf
    have htake : dflt.take (buflen - 1) = dflt := List.take_of_length_le (by omega)
    have hne : dflt ≠ [] := by
      rintro rfl
      exact absurd hlast (Option.not_mem_none c)
    have hself : dflt.rdropWhile isSpace = dflt := by
      refine List.rdropWhile_eq_self_iff.mpr fun hl => ?_
      rw [List.getLast?_eq_some_getLast hl, Option.mem_some_iff] at hlast
      rw [hlast, hc]
      exact Bool.false_ne_true
    rcases serialNo_cases [] hdflt hlen hint hbuf with ⟨hnil, -⟩ | ⟨-, hsome⟩
    · rw [htext, htake, hself] at hnil
      exact absurd hnil hne
    · rw [htext, htake, hself] at hsome
      exact hsome

theorem serialNoRight_iff {content dflt : List Char} {buflen : Nat} (hdflt : nul ∉ dflt)
    (hlen : 2 ≤ buflen) (hint : buflen < 2147483648) :
    SerialNoRight content buflen dflt ↔ SerialNoKept content buflen dflt := by
  rcases content with _ | ⟨c, content⟩
  · exact serialNo_empty hdflt hlen hint
  · have hne := List.cons_ne_nil c content
    have htext : serialText (c :: content) buflen dflt =
        ((c :: content).take (buflen - 1)).takeWhile (fun c => decide (c ≠ nul)) := if_neg hne
    simp only [SerialNoRight, SerialNoKept, if_neg hne, ← htext]
    constructor
    · intro h
      obtain ⟨buf', hrun, -⟩ := h (List.replicate buflen nul) List.length_replicate
      rcases serialNo_cases (c :: content) hdflt hlen hint
          (List.length_replicate (a := nul)) with ⟨-, hnone⟩ | ⟨hleft, -⟩
      · rw [hnone] at hrun
        exact absurd hrun (Option.some_ne_none buf').symm
      · rw [ne_eq, rdropWhile_eq_nil_iff_forall] at hleft
        exact not_not.mp hleft
    · intro hsome buf hbuf
      rcases serialNo_cases (c :: content) hdflt hlen hint hbuf with
        ⟨hnil, -⟩ | ⟨-, hrun⟩
      · exact absurd hsome ((rdropWhile_eq_nil_iff_forall _).mp hnil)
      · exact hrun

/-- Fields of the user agent string: their encoding is right, and so is the serial number when
something other than spaces was read. -/
theorem userAgentFields_iff {s content dflt : List Char} {size buflen : Nat} (hs : nul ∉ s)
    (hsize : s.length < size) (hdflt : nul ∉ dflt) (hlen : 2 ≤ buflen)
    (hint : buflen < 2147483648) :
    (EncodesRight s size ∧ SerialNoRight content buflen dflt) ↔
      SerialNoKept content buflen dflt := by
  rw [serialNoRight_iff hdflt hlen hint]
  exact and_iff_right (encodesRight hs hsize)

theorem userAgentFields_iff_number :
    (EncodesRight ['a', '/'] 4 ∧ SerialNoRight ['7', Char.ofNat 10] 8 ['-']) ↔
      SerialNoKept ['7', Char.ofNat 10] 8 ['-'] :=
  userAgentFields_iff (by decide) (by decide) (by decide) (by decide) (by decide)

/-- The file holds one line end. -/
theorem lineEnd_not_serialNo :
    ¬ ∀ s size content buflen, nul ∉ s → s.length < size → 2 ≤ buflen → buflen < 2147483648 →
      EncodesRight s size ∧ SerialNoRight content buflen ['-'] := by
  intro h
  have hright := (h [] 1 [Char.ofNat 10] 8 (by decide) (by decide) (by decide) (by decide)).2
  rw [serialNoRight_iff (by decide) (by decide) (by decide)] at hright
  obtain ⟨c, hmem, hc⟩ := hright
  rw [List.mem_singleton.mp hmem] at hc
  exact absurd hc (by decide)

end LibraDevice.LocEng
