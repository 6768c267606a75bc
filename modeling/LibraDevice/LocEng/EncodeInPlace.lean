import LibraDevice.Lib.CBuffer
import LibraDevice.Lib.Hex

/-!
Encoding the separators in a field of the user agent string.
-/

namespace LibraDevice.LocEng

open CBuffer
open PercentCoding

def encodings : List (Char × List Char) :=
  [('/', ['%', '2', 'F']), ('+', ['%', '2', 'B']), ('|', ['%', '7', 'C']), ('%', ['%', '2', '5'])]

def numCharsInCode : Nat := 3

structure EncodeState where
  buffer : List Char
  inpos : Nat
  outpos : Nat
deriving DecidableEq, Repr

/-- The inner loop, from a place in the code on; `none` for a write outside of the buffer. -/
def copyCode (size : Nat) : List Char → EncodeState → Option EncodeState
  | [], s => some s
  | c :: code, s =>
      if s.outpos < size - 1 then
        match write s.outpos [c] s.buffer with
        | none => none
        | some buffer => copyCode size code { s with buffer := buffer, outpos := s.outpos + 1 }
      else some s

/-- The outer loop, for less than `n` characters; `none` when it has not ended then, or has
read or written outside of the arrays. -/
def encodeLoop (value : List Char) (size : Nat) : Nat → EncodeState → Option EncodeState
  | 0, _ => none
  | n + 1, s =>
      match value[s.inpos]? with
      | none => none
      | some c =>
          if c ≠ nul ∧ s.outpos < size - 1 then
            match encodings.find? (fun e => decide (e.1 = c)) with
            | none =>
                match write s.outpos [c] s.buffer with
                | none => none
                | some buffer => encodeLoop value size n ⟨buffer, s.inpos + 1, s.outpos + 1⟩
            | some e =>
                if s.outpos + numCharsInCode ≥ size then some s
                else
                  match copyCode size e.2 s with
                  | none => none
                  | some s => encodeLoop value size n { s with inpos := s.inpos + 1 }
          else some s

/-- The loop that copies the characters below a place back. -/
def copyBack (buffer : List Char) : Nat → List Char → Option (List Char)
  | 0, value => some value
  | n + 1, value =>
      match buffer[n]? with
      | none => none
      | some c =>
          match write n [c] value with
          | none => none
          | some value => copyBack buffer n value

/-- `encodeInPlace`; `buffer` is what the array on the stack holds before it is written. -/
def encodeInPlace (value : List Char) (size : Nat) (buffer : List Char) : Option (List Char) :=
  match encodeLoop value size value.length ⟨buffer, 0, 0⟩ with
  | none => none
  | some s =>
      match write s.outpos [nul] value with
      | none => none
      | some value => copyBack s.buffer s.outpos value

/-- What stands for a character. -/
def codeOf (c : Char) : List Char :=
  match encodings.find? (fun e => decide (e.1 = c)) with
  | none => [c]
  | some e => e.2

theorem codeOf_cases (c : Char) :
    (encodings.find? (fun e => decide (e.1 = c)) = none ∧ codeOf c = [c] ∧
      c ∉ ['/', '+', '|', '%']) ∨
    ∃ e ∈ encodings, encodings.find? (fun e => decide (e.1 = c)) = some e ∧ codeOf c = e.2 ∧
      e.1 = c := by
  rcases hfind : encodings.find? (fun e => decide (e.1 = c)) with _ | e
  · refine Or.inl ⟨hfind, by rw [codeOf, hfind], fun hmem => ?_⟩
    rw [List.find?_eq_none] at hfind
    have hout : ∀ e ∈ encodings, e.1 ≠ c := fun e he h => hfind e he (decide_eq_true h)
    simp only [encodings, List.forall_mem_cons] at hout
    simp only [List.mem_cons, List.not_mem_nil, or_false] at hmem
    rcases hmem with rfl | rfl | rfl | rfl
    · exact hout.1 rfl
    · exact hout.2.1 rfl
    · exact hout.2.2.1 rfl
    · exact hout.2.2.2.1 rfl
  · have hkey : decide (e.1 = c) = true :=
      List.find?_some (p := fun e : Char × List Char => decide (e.1 = c)) hfind
    exact Or.inr ⟨e, List.mem_of_find?_eq_some hfind, hfind, by rw [codeOf, hfind],
      of_decide_eq_true hkey⟩

theorem length_of_mem_encodings : ∀ e ∈ encodings, e.2.length = numCharsInCode := by
  decide

theorem readable_codeOf : Readable codeOf := by
  intro c
  rcases codeOf_cases c with ⟨-, hcode, hmem⟩ | ⟨e, he, -, hcode, rfl⟩
  · exact Or.inl ⟨hcode, fun h => hmem (by simp [h])⟩
  · refine Or.inr ?_
    rw [hcode]
    simp only [encodings, List.mem_cons, List.not_mem_nil, or_false] at he
    rcases he with rfl | rfl | rfl | rfl
    · exact ⟨'2', 'F', 2, 15, rfl, rfl, rfl, rfl⟩
    · exact ⟨'2', 'B', 2, 11, rfl, rfl, rfl, rfl⟩
    · exact ⟨'7', 'C', 7, 12, rfl, rfl, rfl, rfl⟩
    · exact ⟨'2', '5', 2, 5, rfl, rfl, rfl, rfl⟩

theorem not_mem_codeOf {c x : Char} (hx : x = '/' ∨ x = '+' ∨ x = '|' ∨ x = nul)
    (hc : c ≠ nul) : x ∉ codeOf c := by
  rcases codeOf_cases c with ⟨-, hcode, hmem⟩ | ⟨e, he, -, hcode, -⟩
  · rw [hcode, List.mem_singleton]
    rintro rfl
    rcases hx with rfl | rfl | rfl | rfl
    · exact hmem (by simp)
    · exact hmem (by simp)
    · exact hmem (by simp)
    · exact hc rfl
  · rw [hcode]
    simp only [encodings, List.mem_cons, List.not_mem_nil, or_false] at he
    rcases he with rfl | rfl | rfl | rfl <;> rcases hx with rfl | rfl | rfl | rfl <;> decide

theorem copyCode_spec {size : Nat} (code pre free : List Char) (inpos : Nat)
    (hsize : pre.length + free.length = size) (hroom : pre.length + code.length < size) :
    ∃ free' : List Char, (pre ++ code).length + free'.length = size ∧
      copyCode size code ⟨pre ++ free, inpos, pre.length⟩ =
        some ⟨pre ++ code ++ free', inpos, (pre ++ code).length⟩ := by
  induction code generalizing pre free with
  | nil => exact ⟨free, by rw [List.append_nil, hsize], by rw [List.append_nil]; rfl⟩
  | cons c code ih =>
      rw [List.length_cons] at hroom
      rcases free with _ | ⟨old, free⟩
      · rw [List.length_nil] at hsize
        omega
      · rw [List.length_cons] at hsize
        have hlen : (pre ++ [c]).length = pre.length + 1 := by simp
        have hbuf : pre ++ c :: free = pre ++ [c] ++ free := by simp
        have hcode : pre ++ c :: code = pre ++ [c] ++ code := by simp
        obtain ⟨free', hsize', hcopy⟩ := ih (pre ++ [c]) free (by omega) (by omega)
        refine ⟨free', by rw [hcode, hsize'], ?_⟩
        have hlt : pre.length < size - 1 := by omega
        rw [hcode, ← hcopy, hlen]
        simp only [copyCode, if_pos hlt, write_middle, hbuf]

/-- What the outer loop is to do behind the characters `p`, with `t` in front of it: it takes
characters as long as their codes fit, and stops at the first whose code does not. -/
def Encodes (value : List Char) (size : Nat) (p t free : List Char) : Prop :=
  ∃ q free' : List Char, q <+: t ∧ ((p ++ q).flatMap codeOf).length < size ∧
    (∀ c, q ++ [c] <+: t → size ≤ ((p ++ q ++ [c]).flatMap codeOf).length) ∧
    ∀ n, encodeLoop value size (n + t.length + 1)
        ⟨p.flatMap codeOf ++ free, p.length, (p.flatMap codeOf).length⟩ =
      some ⟨(p ++ q).flatMap codeOf ++ free', (p ++ q).length, ((p ++ q).flatMap codeOf).length⟩

theorem encodes_of_stop {value p t free : List Char} {size : Nat}
    (hroom : (p.flatMap codeOf).length < size)
    (hnext : ∀ c ∈ t.head?, size ≤ ((p ++ [c]).flatMap codeOf).length)
    (hloop : ∀ n, encodeLoop value size (n + t.length + 1)
        ⟨p.flatMap codeOf ++ free, p.length, (p.flatMap codeOf).length⟩ =
      some ⟨p.flatMap codeOf ++ free, p.length, (p.flatMap codeOf).length⟩) :
    Encodes value size p t free := by
  refine ⟨[], free, List.nil_prefix, ?_, fun c hc => ?_, fun n => ?_⟩
  · rw [List.append_nil]
    exact hroom
  · rw [List.append_nil]
    obtain ⟨t', rfl⟩ := hc
    exact hnext c rfl
  · rw [List.append_nil]
    exact hloop n

theorem encodes_of_step {value p t free free' : List Char} {size : Nat} {c : Char}
    (hrest : Encodes value size (p ++ [c]) t free')
    (hstep : ∀ n, encodeLoop value size (n + 1)
        ⟨p.flatMap codeOf ++ free, p.length, (p.flatMap codeOf).length⟩ =
      encodeLoop value size n ⟨(p ++ [c]).flatMap codeOf ++ free', (p ++ [c]).length,
        ((p ++ [c]).flatMap codeOf).length⟩) :
    Encodes value size p (c :: t) free := by
  obtain ⟨q, free'', hq, hroom, hnext, hloop⟩ := hrest
  have happ : p ++ c :: q = p ++ [c] ++ q := by simp
  refine ⟨c :: q, free'', List.cons_prefix_cons.mpr ⟨rfl, hq⟩, ?_, fun c' hc' => ?_,
    fun n => ?_⟩
  · rw [happ]
    exact hroom
  · rw [happ]
    exact hnext c' (List.cons_prefix_cons.mp hc').2
  · rw [happ, List.length_cons, ← Nat.add_assoc, hstep, hloop]

theorem encodeLoop_spec {size : Nat} (t p extra free : List Char) (hnul : nul ∉ t)
    (hsize : (p.flatMap codeOf).length + free.length = size)
    (hroom : (p.flatMap codeOf).length < size) :
    Encodes (p ++ (t ++ nul :: extra)) size p t free := by
  induction t generalizing p free with
  | nil =>
      refine encodes_of_stop hroom (fun c hc => absurd hc (Option.not_mem_none c)) fun n => ?_
      simp only [List.nil_append, encodeLoop, getElem?_middle, ne_eq, not_true_eq_false,
        false_and, if_false]
  | cons c t ih =>
      simp only [List.mem_cons, not_or] at hnul
      have hc : c ≠ nul := fun h => hnul.1 h.symm
      have hread : (p ++ (c :: t ++ nul :: extra))[p.length]? = some c := getElem?_middle _ _ _
      have hvalue : p ++ (c :: t ++ nul :: extra) = p ++ [c] ++ (t ++ nul :: extra) := by simp
      have hencode : (p ++ [c]).flatMap codeOf = p.flatMap codeOf ++ codeOf c := by simp
      have hlen : ((p ++ [c]).flatMap codeOf).length =
          (p.flatMap codeOf).length + (codeOf c).length := by rw [hencode, List.length_append]
      by_cases hlt : (p.flatMap codeOf).length < size - 1
      · rcases codeOf_cases c with ⟨hfind, hcode, -⟩ | ⟨e, he, hfind, hcode, -⟩
        · -- the character stands for itself
          rcases free with _ | ⟨old, free⟩
          · rw [List.length_nil] at hsize
            omega
          · rw [List.length_cons] at hsize
            rw [hcode, List.length_singleton] at hlen
            have hrest := ih (p ++ [c]) free hnul.2 (by omega) (by omega)
            rw [← hvalue] at hrest
            refine encodes_of_step hrest fun n => ?_
            have hbuf : p.flatMap codeOf ++ c :: free = (p ++ [c]).flatMap codeOf ++ free := by
              rw [hencode, hcode]
              simp
            simp only [encodeLoop, hread, hc, hlt, ne_eq, not_false_eq_true, and_self, if_true,
              hfind, write_middle, hbuf, hlen, List.length_append, List.length_singleton]
        · have hcount := length_of_mem_encodings e he
          rw [hcode, hcount] at hlen
          by_cases hstop : (p.flatMap codeOf).length + numCharsInCode ≥ size
          · refine encodes_of_stop hroom (fun c' hc' => ?_) fun n => ?_
            · obtain rfl : c = c' := Option.some.inj hc'
              rw [hlen]
              exact hstop
            · simp only [encodeLoop, hread, hc, hlt, ne_eq, not_false_eq_true, and_self, if_true,
                hfind, hstop]
          · have hcopied := copyCode_spec e.2 (p.flatMap codeOf) free p.length hsize
              (by rw [hcount]; omega)
            obtain ⟨free', hsize', hcopy⟩ := hcopied
            have happ : p.flatMap codeOf ++ e.2 = (p ++ [c]).flatMap codeOf := by
              rw [hencode, hcode]
            rw [happ] at hsize' hcopy
            have hrest := ih (p ++ [c]) free' hnul.2 hsize' (by omega)
            rw [← hvalue] at hrest
            refine encodes_of_step hrest fun n => ?_
            simp only [encodeLoop, hread, hc, hlt, ne_eq, not_false_eq_true, and_self, if_true,
              hfind, hstop, if_false, hcopy, List.length_append, List.length_singleton]
      · refine encodes_of_stop hroom (fun c' hc' => ?_) fun n => ?_
        · obtain rfl : c = c' := Option.some.inj hc'
          have hpos := length_pos readable_codeOf c
          rw [hlen]
          omega
        · simp only [encodeLoop, hread, hlt, and_false, if_false]

theorem copyBack_spec (buffer : List Char) (n : Nat) (value : List Char)
    (hbuffer : n ≤ buffer.length) (hvalue : n ≤ value.length) :
    copyBack buffer n value = some (buffer.take n ++ value.drop n) := by
  induction n generalizing value with
  | zero => rfl
  | succ n ih =>
      have hread : buffer[n]? = some buffer[n] := List.getElem?_eq_getElem hbuffer
      have hwrite : write n [buffer[n]] value =
          some (value.take n ++ [buffer[n]] ++ value.drop (n + 1)) := by
        rw [write, if_pos (by simpa using hvalue)]
        rfl
      have hlen : (value.take n).length = n := List.length_take_of_le (by omega)
      have hnext : n ≤ (value.take n ++ [buffer[n]] ++ value.drop (n + 1)).length := by
        simp only [List.length_append, hlen]
        omega
      have hdrop : (value.take n ++ [buffer[n]] ++ value.drop (n + 1)).drop n =
          [buffer[n]] ++ value.drop (n + 1) := by
        rw [List.append_assoc, List.drop_left' hlen]
      simp only [copyBack, hread, hwrite]
      rw [ih _ (by omega) hnext, hdrop, ← List.append_assoc, List.take_append_getElem hbuffer]

/-- What is wanted of encoding the text of a field in an array of at least `size` characters:
the array then holds the encoding of the longest part of the text whose encoding is shorter
than `size`, it reads back as that part, and it has no separator. -/
def EncodesRight (s : List Char) (size : Nat) : Prop :=
  ∀ extra buffer : List Char, size ≤ (s ++ nul :: extra).length → buffer.length = size →
    ∃ value p, encodeInPlace (s ++ nul :: extra) size buffer = some value ∧
      textAt 0 value = some (p.flatMap codeOf) ∧
      p <+: s ∧ (p.flatMap codeOf).length < size ∧
      (∀ q, q <+: s → (q.flatMap codeOf).length < size → q <+: p) ∧
      decode (p.flatMap codeOf) = p ∧
      ∀ c ∈ p.flatMap codeOf, c ≠ '/' ∧ c ≠ '+' ∧ c ≠ '|'

theorem not_mem_flatMap_codeOf {x : Char} (hx : x = '/' ∨ x = '+' ∨ x = '|' ∨ x = nul)
    {p : List Char} (hp : nul ∉ p) : x ∉ p.flatMap codeOf := by
  intro hmem
  obtain ⟨c, hc, hin⟩ := List.mem_flatMap.mp hmem
  exact not_mem_codeOf hx (fun h => hp (h ▸ hc)) hin

theorem encodesRight {s : List Char} (hs : nul ∉ s) {size : Nat} (hsize : s.length < size) :
    EncodesRight s size := by
  intro extra buffer hvalue hbuffer
  obtain ⟨p, free, hp, hroom, hnext, hloop⟩ := encodeLoop_spec s [] extra buffer hs
    (by simpa using hbuffer) (by simpa using Nat.lt_of_le_of_lt (Nat.zero_le _) hsize)
  rw [List.nil_append] at hroom
  simp only [List.nil_append] at hloop hnext
  have hnul : nul ∉ p := fun h => hs (hp.subset h)
  have hrun := hloop extra.length
  have hfuel : extra.length + s.length + 1 = (s ++ nul :: extra).length := by
    simp only [List.length_append, List.length_cons]
    omega
  have hwrite : write (p.flatMap codeOf).length [nul] (s ++ nul :: extra) =
      some ((s ++ nul :: extra).take (p.flatMap codeOf).length ++ [nul] ++
        (s ++ nul :: extra).drop ((p.flatMap codeOf).length + 1)) := by
    rw [write, if_pos (by rw [List.length_singleton]; omega)]
    rfl
  have hlen : ((s ++ nul :: extra).take (p.flatMap codeOf).length).length =
      (p.flatMap codeOf).length := List.length_take_of_le (by omega)
  refine ⟨p.flatMap codeOf ++ nul :: (s ++ nul :: extra).drop ((p.flatMap codeOf).length + 1), p,
    ?_, ?_, hp, hroom, fun q hq hfits => prefix_of_fits hp (fun c hc => ?_) hq hfits, ?_,
    fun c hc => ?_⟩
  · have hback := copyBack_spec (p.flatMap codeOf ++ free) (p.flatMap codeOf).length
      ((s ++ nul :: extra).take (p.flatMap codeOf).length ++ [nul] ++
        (s ++ nul :: extra).drop ((p.flatMap codeOf).length + 1))
      (by simp) (by simp only [List.length_append, hlen]; omega)
    rw [List.take_left, List.append_assoc, List.drop_left' hlen] at hback
    rw [hfuel] at hrun
    simp only [encodeInPlace, List.flatMap_nil, List.nil_append, List.length_nil] at hrun ⊢
    rw [hrun]
    simp only [hwrite]
    rw [List.append_assoc, hback]
    rfl
  · exact textAt_append (not_mem_flatMap_codeOf (by simp) hnul) []
      ((s ++ nul :: extra).drop ((p.flatMap codeOf).length + 1))
  · exact hnext c hc
  · have hdecode := decode_flatMap readable_codeOf p []
    rw [List.append_nil] at hdecode
    rw [hdecode]
    exact List.append_nil p
  · refine ⟨?_, ?_, ?_⟩ <;> rintro rfl
    · exact not_mem_flatMap_codeOf (Or.inl rfl) hnul hc
    · exact not_mem_flatMap_codeOf (Or.inr (Or.inl rfl)) hnul hc
    · exact not_mem_flatMap_codeOf (Or.inr (Or.inr (Or.inl rfl))) hnul hc

end LibraDevice.LocEng
