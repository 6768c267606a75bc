import LibraDevice.Lib.CBuffer
import LibraDevice.Lib.TextLines

/-!
Splitting a text in place.
-/

namespace LibraDevice.MiscUtils

open CBuffer
open TextLines

/-- The variables of `loc_util_split_string`, with the buffer and the pointers written so far:
which one, and the place in the buffer that it is set to. -/
structure SplitState where
  rawString : List Char
  rawStringIndex : Nat
  numSplitStrings : Nat
  splitStringsPtr : List (Nat × Nat)
deriving DecidableEq, Repr

/-- The loop, for at most `n` more characters of the `rawStringLength`. -/
def splitLoop (delimiter : Char) (maxNumSubstrings rawStringLength : Nat) :
    Nat → SplitState → SplitState
  | 0, s => s
  | n + 1, s =>
      let c := s.rawString.getD s.rawStringIndex nul
      if c = delimiter ∨ c = nul then
        let rawString := s.rawString.set s.rawStringIndex nul
        let num := s.numSplitStrings + 1
        if s.rawStringIndex + 1 < rawStringLength ∧ num < maxNumSubstrings then
          let next : SplitState := ⟨rawString, s.rawStringIndex + 1, num,
            s.splitStringsPtr ++ [(num, s.rawStringIndex + 1)]⟩
          if c = nul then next else splitLoop delimiter maxNumSubstrings rawStringLength n next
        else ⟨rawString, s.rawStringIndex, num, s.splitStringsPtr⟩
      else
        splitLoop delimiter maxNumSubstrings rawStringLength n
          { s with rawStringIndex := s.rawStringIndex + 1 }

/-- `loc_util_split_string`; `none` when the text has no end in its buffer. -/
def splitString (rawString : List Char) (maxNumSubstrings : Nat) (delimiter : Char) :
    Option SplitState :=
  (textAt 0 rawString).map fun text =>
    splitLoop delimiter maxNumSubstrings (text.length + 1) (text.length + 1)
      ⟨rawString, 0, 0, [(0, 0)]⟩

/-- The pointers to parts that stand one behind the other, each with its end. -/
def pointers : Nat → Nat → List (List Char) → List (Nat × Nat)
  | _, _, [] => []
  | num, start, part :: parts => (num, start) :: pointers (num + 1) (start + part.length + 1) parts

/-- Parts one behind the other, each with its end. -/
def laidOut (parts : List (List Char)) : List Char :=
  parts.flatMap fun part => part ++ [nul]

theorem pointers_fst (num start : Nat) (parts : List (List Char)) :
    (pointers num start parts).map Prod.fst = List.range' num parts.length := by
  induction parts generalizing num start with
  | nil => rfl
  | cons part parts ih =>
      rw [pointers, List.map_cons, ih, List.length_cons, List.range'_succ]

theorem textAt_pointers (num : Nat) (pre rest : List Char) {parts : List (List Char)}
    (h : ∀ part ∈ parts, nul ∉ part) :
    (pointers num pre.length parts).map
        (fun w => textAt w.2 (pre ++ laidOut parts ++ rest)) = parts.map some := by
  induction parts generalizing num pre with
  | nil => rfl
  | cons part parts ih =>
      rw [List.forall_mem_cons] at h
      have hlen : (pre ++ part ++ [nul]).length = pre.length + part.length + 1 := by
        simp only [List.length_append, List.length_singleton]
      have hbuf : pre ++ laidOut (part :: parts) ++ rest =
          pre ++ part ++ [nul] ++ laidOut parts ++ rest := by
        simp [laidOut]
      have hfirst : textAt pre.length (pre ++ laidOut (part :: parts) ++ rest) = some part := by
        have happ := textAt_append h.1 pre (laidOut parts ++ rest)
        rw [← happ]
        simp [laidOut]
      rw [pointers, List.map_cons, List.map_cons, hfirst, hbuf, ← hlen, ih _ _ h.2]

theorem laidOut_cons (part : List Char) (parts : List (List Char)) :
    laidOut (part :: parts) = part ++ [nul] ++ laidOut parts := rfl

/-- What the loop makes of the text behind the part that it is in: the part goes on with the
text's first part, and each further part begins behind the end of the one before it. -/
theorem splitLoop_spec {delimiter : Char} (max : Nat)
    (s cur pre extra : List Char) (hs : nul ∉ s) (num : Nat) (ptrs : List (Nat × Nat))
    (hnum : num < max) (parts : List (List Char))
    (hparts : parts = ((split delimiter s).modifyHead (cur ++ ·)).take (max - num)) :
    ∃ index rest, splitLoop delimiter max ((pre ++ cur).length + s.length + 1) (s.length + 1)
        ⟨pre ++ cur ++ (s ++ nul :: extra), (pre ++ cur).length, num, ptrs⟩ =
      ⟨pre ++ laidOut parts ++ rest, index, num + parts.length,
        ptrs ++ (pointers num pre.length parts).tail⟩ := by
  induction s generalizing cur pre num ptrs parts with
  | nil =>
      have hpos : max - num = (max - num - 1) + 1 := by omega
      have hone : parts = [cur] := by
        rw [hparts, hpos, split, List.modifyHead_cons, List.append_nil, List.take_succ_cons,
          List.take_nil]
      have hget : (pre ++ cur ++ nul :: extra).getD (pre ++ cur).length nul = nul :=
        getD_middle _ _ _ _
      have hset : (pre ++ cur ++ nul :: extra).set (pre ++ cur).length nul =
          pre ++ cur ++ nul :: extra := set_middle _ _ _ _
      refine ⟨(pre ++ cur).length, extra, ?_⟩
      rw [splitLoop, List.nil_append, hget, hset, hone]
      simp [laidOut, pointers]
  | cons c s ih =>
      simp only [List.mem_cons, not_or] at hs
      have hpos : max - num = (max - num - 1) + 1 := by omega
      have hc : c ≠ nul := fun h => hs.1 h.symm
      have hget : (pre ++ cur ++ (c :: s ++ nul :: extra)).getD (pre ++ cur).length nul = c :=
        getD_middle _ _ _ _
      have hset : (pre ++ cur ++ (c :: s ++ nul :: extra)).set (pre ++ cur).length nul =
          pre ++ cur ++ nul :: (s ++ nul :: extra) := set_middle _ _ _ _
      have hlen : (pre ++ cur).length + (s.length + 1) + 1 =
          (pre ++ cur).length + 1 + s.length + 1 := by omega
      rw [List.length_cons, splitLoop, hget, hset, hlen]
      by_cases h : c = delimiter
      · -- the part ends here
        subst h
        have hroom : (pre ++ cur).length + 1 < (pre ++ cur).length + 1 + s.length + 1 := by omega
        rw [split, if_pos rfl, List.modifyHead_cons, List.append_nil, hpos,
          List.take_succ_cons] at hparts
        rw [if_pos (Or.inl rfl)]
        by_cases hlast : num + 1 < max
        · have hhead : (split c s).modifyHead ([] ++ ·) = split c s := by
            cases split c s with
            | nil => rfl
            | cons part parts => rfl
          have hlenPre : (pre ++ cur ++ [nul] ++ []).length = (pre ++ cur).length + 1 := by
            simp [Nat.add_assoc]
          obtain ⟨index, rest, hloop⟩ := ih [] (pre ++ cur ++ [nul]) hs.2 (num + 1)
            (ptrs ++ [(num + 1, (pre ++ cur).length + 1)]) hlast
            ((split c s).take (max - num - 1)) (by rw [hhead, Nat.sub_sub])
          refine ⟨index, rest, ?_⟩
          simp only [if_pos (And.intro hroom hlast), if_neg hc]
          rw [hlenPre] at hloop
          have hbuf : pre ++ cur ++ nul :: (s ++ nul :: extra) =
              pre ++ cur ++ [nul] ++ [] ++ (s ++ nul :: extra) := by simp
          have hlenCur : (pre ++ cur ++ [nul]).length = pre.length + cur.length + 1 := by
            simp [Nat.add_assoc]
          have hptrs : pointers (num + 1) (pre ++ cur ++ [nul]).length
              ((split c s).take (max - num - 1)) =
                (num + 1, (pre ++ cur).length + 1) ::
                  (pointers (num + 1) (pre ++ cur ++ [nul]).length
                    ((split c s).take (max - num - 1))).tail := by
            have hsome : max - num - 1 = (max - num - 2) + 1 := by omega
            rw [hsome]
            rcases hsplit : split c s with _ | ⟨part, rest'⟩
            · exact absurd hsplit (split_ne_nil c s)
            · rw [List.take_succ_cons, pointers, List.tail_cons]
              simp [Nat.add_assoc]
          rw [hbuf, hloop, hparts, pointers, List.tail_cons, laidOut_cons, List.length_cons,
            ← hlenCur]
          simp only [List.append_assoc] at hptrs ⊢
          rw [hptrs]
          simp [Nat.add_assoc, Nat.add_comm 1]
        · have hstop : parts = [cur] := by
            have hzero : max - num - 1 = 0 := by omega
            rw [hparts, hzero, List.take_zero]
          refine ⟨(pre ++ cur).length, s ++ nul :: extra, ?_⟩
          simp only [if_neg (fun hb : _ ∧ num + 1 < max => hlast hb.2), hstop]
          simp [laidOut, pointers]
      · have hhead : (split delimiter (c :: s)).modifyHead (cur ++ ·) =
            (split delimiter s).modifyHead (cur ++ [c] ++ ·) := by
          rw [split_cons_of_ne h, List.modifyHead_modifyHead]
          congr 1
          funext part
          simp
        obtain ⟨index, rest, hloop⟩ := ih (cur ++ [c]) pre hs.2 num ptrs hnum parts
          (by rw [hparts, hhead])
        refine ⟨index, rest, ?_⟩
        rw [if_neg (not_or.mpr ⟨h, hc⟩), ← hloop]
        simp [Nat.add_assoc]

/-- The texts that the written pointers lead to, in the order in which they were written. -/
def SplitState.pieces (s : SplitState) : List (Option (List Char)) :=
  s.splitStringsPtr.map fun w => textAt w.2 s.rawString

/-- What is wanted of splitting a text at a delimiter into at most `max` parts. -/
def SplitsRight (s : List Char) (delimiter : Char) (max : Nat) : Prop :=
  ∀ extra, ∃ r, splitString (s ++ nul :: extra) max delimiter = some r ∧
    r.numSplitStrings = Nat.min max (s.count delimiter + 1) ∧
    r.splitStringsPtr.map Prod.fst = List.range r.numSplitStrings ∧
    r.pieces = ((s.splitOn delimiter).take r.numSplitStrings).map some ∧
    (r.numSplitStrings < max ∨ s.count delimiter = r.numSplitStrings - 1 →
      List.intercalate [delimiter] ((s.splitOn delimiter).take r.numSplitStrings) = s)

theorem pointers_head_tail (num start : Nat) {parts : List (List Char)} (h : parts ≠ []) :
    [(num, start)] ++ (pointers num start parts).tail = pointers num start parts := by
  cases parts with
  | nil => exact absurd rfl h
  | cons part parts => rfl

theorem splitString_spec {s : List Char} (hs : nul ∉ s) (delimiter : Char) {max : Nat}
    (hmax : 0 < max) (extra : List Char) {parts : List (List Char)}
    (hparts : parts = (split delimiter s).take max) :
    ∃ index rest, splitString (s ++ nul :: extra) max delimiter =
      some ⟨laidOut parts ++ rest, index, parts.length, pointers 0 0 parts⟩ := by
  have hhead : (split delimiter s).modifyHead ([] ++ ·) = split delimiter s := by
    cases split delimiter s with
    | nil => rfl
    | cons part parts => rfl
  have hne : parts ≠ [] := by
    rw [hparts]
    intro h
    rcases List.take_eq_nil_iff.mp h with hzero | hnil
    · omega
    · exact split_ne_nil delimiter s hnil
  have htext : textAt 0 (s ++ nul :: extra) = some s := textAt_append hs [] extra
  obtain ⟨index, rest, hloop⟩ := splitLoop_spec max s [] [] extra hs 0 [(0, 0)] hmax parts
    (by rw [hhead, Nat.sub_zero, hparts])
  refine ⟨index, rest, ?_⟩
  rw [splitString, htext, Option.map_some]
  simp only [List.nil_append, List.length_nil, Nat.zero_add] at hloop
  rw [hloop, pointers_head_tail 0 0 hne]

theorem splitsRight {s : List Char} (hs : nul ∉ s) (delimiter : Char) {max : Nat}
    (hmax : 0 < max) : SplitsRight s delimiter max := by
  intro extra
  obtain ⟨index, rest, hrun⟩ := splitString_spec hs delimiter hmax extra rfl
  have hlen : ((split delimiter s).take max).length = Nat.min max (s.count delimiter + 1) := by
    rw [List.length_take, length_split]
  have hall : ((split delimiter s).take max) =
      (split delimiter s).take ((split delimiter s).take max).length := by
    rw [List.length_take, List.take_eq_take_min]
  have hnul : ∀ part ∈ (split delimiter s).take max, nul ∉ part := fun part hpart hmem =>
    hs (mem_of_mem_split delimiter s part (List.mem_of_mem_take hpart) nul hmem)
  refine ⟨_, hrun, hlen, ?_, ?_, ?_⟩
  · rw [pointers_fst, List.range_eq_range']
  · have hpieces := textAt_pointers 0 [] rest hnul
    rw [List.nil_append, List.length_nil] at hpieces
    rw [SplitState.pieces, hpieces, ← split_eq_splitOn]
    exact congrArg (List.map some) hall
  · -- every part is there
    intro hevery
    have hwhole : (split delimiter s).length ≤ ((split delimiter s).take max).length := by
      rw [length_split, hlen]
      have hmin : ((split delimiter s).take max).length =
          min max (s.count delimiter + 1) := hlen
      simp only [hmin] at hevery
      change s.count delimiter + 1 ≤ min max (s.count delimiter + 1)
      omega
    rw [← split_eq_splitOn, List.take_of_length_le hwhole]
    exact intercalate_split delimiter s

end LibraDevice.MiscUtils
