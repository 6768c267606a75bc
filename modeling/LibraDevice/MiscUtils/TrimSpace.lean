import LibraDevice.LocCfg.Conf
import LibraDevice.MiscUtils.SplitString
import Mathlib.Data.List.DropRight

/-!
Trimming a text in place.
-/

namespace LibraDevice.MiscUtils

open CBuffer
open Xml (isSpace)

/-- The variables of `loc_util_trim_space`; the pointers are places in the buffer. -/
structure TrimState where
  orgString : List Char
  scanPtr : Nat
  writePtr : Nat
  firstNonspace : Option Nat
  lastNonspace : Option Nat
deriving DecidableEq, Repr

/-- One turn of the loop, with the character that was read. -/
def trimStep (c : Char) (s : TrimState) : TrimState :=
  let first :=
    if !isSpace c && s.firstNonspace.isNone then some s.scanPtr else s.firstNonspace
  if first.isSome then
    { orgString := s.orgString.set s.writePtr c
      scanPtr := s.scanPtr + 1
      writePtr := s.writePtr + 1
      firstNonspace := first
      lastNonspace := if !isSpace c then some (s.writePtr + 1) else s.lastNonspace }
  else { s with scanPtr := s.scanPtr + 1, firstNonspace := first }

/-- The loop, for at most `n` characters; `none` when it has not ended then, or has read
behind the buffer. -/
def trimLoop : Nat → TrimState → Option TrimState
  | 0, _ => none
  | n + 1, s =>
      match s.orgString[s.scanPtr]? with
      | none => none
      | some c => if c = nul then some s else trimLoop n (trimStep c s)

/-- `loc_util_trim_space`. -/
def trimSpace (n : Nat) (orgString : List Char) : Option (List Char) :=
  (trimLoop n ⟨orgString, 0, 0, none, none⟩).map fun s =>
    match s.lastNonspace with
    | none => s.orgString
    | some lastNonspace => s.orgString.set lastNonspace nul

theorem trimLoop_nul (n : Nat) (pre extra : List Char) (w : Nat) (first last : Option Nat) :
    trimLoop (n + 1) ⟨pre ++ nul :: extra, pre.length, w, first, last⟩ =
      some ⟨pre ++ nul :: extra, pre.length, w, first, last⟩ := by
  simp only [trimLoop, getElem?_middle, if_true]

theorem trimLoop_cons (n : Nat) {c : Char} (hc : c ≠ nul) (pre rest : List Char) (w : Nat)
    (first last : Option Nat) :
    trimLoop (n + 1) ⟨pre ++ c :: rest, pre.length, w, first, last⟩ =
      trimLoop n (trimStep c ⟨pre ++ c :: rest, pre.length, w, first, last⟩) := by
  simp only [trimLoop, getElem?_middle, if_neg hc]

theorem trimStep_some (c : Char) (buf : List Char) (scan w first : Nat) (last : Option Nat) :
    trimStep c ⟨buf, scan, w, some first, last⟩ =
      ⟨buf.set w c, scan + 1, w + 1, some first,
        if !isSpace c then some (w + 1) else last⟩ := by
  simp [trimStep]

theorem trimLoop_spaces (n : Nat) {spaces : List Char} (hspaces : ∀ c ∈ spaces, isSpace c = true)
    (hnul : nul ∉ spaces) (pre rest : List Char) :
    trimLoop (n + spaces.length) ⟨pre ++ (spaces ++ rest), pre.length, 0, none, none⟩ =
      trimLoop n ⟨pre ++ spaces ++ rest, (pre ++ spaces).length, 0, none, none⟩ := by
  induction spaces generalizing pre with
  | nil => simp
  | cons c spaces ih =>
      rw [List.forall_mem_cons] at hspaces
      simp only [List.mem_cons, not_or] at hnul
      have hstep : trimStep c ⟨pre ++ c :: (spaces ++ rest), pre.length, 0, none, none⟩ =
          ⟨pre ++ [c] ++ (spaces ++ rest), (pre ++ [c]).length, 0, none, none⟩ := by
        simp [trimStep, hspaces.1]
      rw [List.length_cons, ← Nat.add_assoc, List.cons_append,
        trimLoop_cons _ (fun h => hnul.1 h.symm), hstep, ih hspaces.2 hnul.2]
      simp

/-- Behind the first character that is no space, everything is moved to the front, and the end
of what is kept is known: `moved` is what was moved so far, `gap` what stands between it and
the place that is read. -/
theorem trimLoop_move (rest moved gap extra : List Char) (hnul : nul ∉ rest)
    (first : Nat) :
    ∃ gap' : List Char, gap'.length = gap.length ∧ ∀ n,
      trimLoop (n + rest.length + 1)
        ⟨moved ++ gap ++ (rest ++ nul :: extra), (moved ++ gap).length, moved.length, some first,
          some (moved.rdropWhile isSpace).length⟩ =
      some ⟨moved ++ rest ++ gap' ++ nul :: extra, (moved ++ rest ++ gap').length,
        (moved ++ rest).length, some first,
        some ((moved ++ rest).rdropWhile isSpace).length⟩ := by
  induction rest generalizing moved gap with
  | nil =>
      refine ⟨gap, rfl, fun n => ?_⟩
      rw [List.nil_append, List.append_nil]
      exact trimLoop_nul n (moved ++ gap) extra _ _ _
  | cons c rest ih =>
      simp only [List.mem_cons, not_or] at hnul
      -- the place that is written holds the first character of the gap
      obtain ⟨old, gap', hgap⟩ : ∃ old gap', gap ++ [c] = old :: gap' := by
        rcases gap with _ | ⟨old, gap⟩
        · exact ⟨c, [], rfl⟩
        · exact ⟨old, gap ++ [c], rfl⟩
      have hlen : gap'.length = gap.length := by
        have h := congrArg List.length hgap
        simp only [List.length_append, List.length_cons, List.length_nil] at h
        omega
      have hlast : (if !isSpace c then some (moved.length + 1)
          else some (moved.rdropWhile isSpace).length) =
            some ((moved ++ [c]).rdropWhile isSpace).length := by
        rw [List.rdropWhile_concat]
        by_cases h : isSpace c = true
        · simp [h]
        · simp [h]
      have hset : (moved ++ gap ++ c :: (rest ++ nul :: extra)).set moved.length c =
          moved ++ [c] ++ gap' ++ (rest ++ nul :: extra) := by
        have hsplit : moved ++ gap ++ c :: (rest ++ nul :: extra) =
            moved ++ old :: (gap' ++ (rest ++ nul :: extra)) := by
          calc moved ++ gap ++ c :: (rest ++ nul :: extra)
              = moved ++ ((gap ++ [c]) ++ (rest ++ nul :: extra)) := by simp
            _ = _ := by rw [hgap, List.cons_append]
        rw [hsplit, set_middle]
        simp
      have hstep : trimStep c ⟨moved ++ gap ++ c :: (rest ++ nul :: extra), (moved ++ gap).length,
          moved.length, some first, some (moved.rdropWhile isSpace).length⟩ =
          ⟨moved ++ [c] ++ gap' ++ (rest ++ nul :: extra), (moved ++ [c] ++ gap').length,
            (moved ++ [c]).length, some first,
            some ((moved ++ [c]).rdropWhile isSpace).length⟩ := by
        have hscan : (moved ++ gap).length + 1 = (moved ++ [c] ++ gap').length := by
          simp only [List.length_append, List.length_singleton, hlen]
          omega
        have hwrite : moved.length + 1 = (moved ++ [c]).length := by
          rw [List.length_append, List.length_singleton]
        rw [trimStep_some, hset, hlast, hscan, hwrite]
      obtain ⟨gap'', hgap'', hloop⟩ := ih (moved ++ [c]) gap' hnul.2
      refine ⟨gap'', hgap''.trans hlen, fun n => ?_⟩
      rw [List.length_cons, ← Nat.add_assoc, List.cons_append,
        trimLoop_cons _ (fun h => hnul.1 h.symm), hstep, hloop]
      simp

/-- What stands between the first and the last character that is no space. -/
def nonspacePart (s : List Char) : List Char :=
  (s.dropWhile isSpace).rdropWhile isSpace

/-- What is wanted of trimming a text: the loop ends, the buffer then holds the part between the
first and the last character that is no space, and nothing behind the text has changed. -/
def TrimsRight (s : List Char) : Prop :=
  ∀ extra, ∃ buf, (∃ enough, ∀ n ≥ enough, trimSpace n (s ++ nul :: extra) = some buf) ∧
    textAt 0 buf = some (nonspacePart s) ∧ buf.drop (s.length + 1) = extra

theorem trimSpace_spaces {s : List Char} (hspaces : ∀ c ∈ s, isSpace c = true) (hnul : nul ∉ s)
    (extra : List Char) (n : Nat) :
    trimSpace (n + 1 + s.length) (s ++ nul :: extra) = some (s ++ nul :: extra) := by
  have hloop := trimLoop_spaces (n + 1) hspaces hnul [] (nul :: extra)
  simp only [List.nil_append, List.length_nil] at hloop
  rw [trimSpace, hloop, trimLoop_nul]
  rfl

theorem set_rdropWhile {moved : List Char} (hnul : nul ∉ moved) (gap extra : List Char) :
    textAt 0 ((moved ++ gap ++ nul :: extra).set (moved.rdropWhile isSpace).length nul) =
        some (moved.rdropWhile isSpace) ∧
      ((moved ++ gap ++ nul :: extra).set (moved.rdropWhile isSpace).length nul).drop
        (moved.length + gap.length + 1) = extra := by
  obtain ⟨spaces, hmoved⟩ := List.rdropWhile_prefix isSpace moved
  obtain ⟨old, more, hmore⟩ : ∃ old more, spaces ++ gap ++ [nul] = old :: more := by
    rcases h : spaces ++ gap ++ [nul] with _ | ⟨old, more⟩
    · simp at h
    · exact ⟨old, more, rfl⟩
  have hkept : nul ∉ moved.rdropWhile isSpace := fun h =>
    hnul ((List.rdropWhile_prefix isSpace moved).subset h)
  have hbuf : moved ++ gap ++ nul :: extra = moved.rdropWhile isSpace ++
      old :: (more ++ extra) := by
    calc moved ++ gap ++ nul :: extra
        = moved.rdropWhile isSpace ++ (spaces ++ gap ++ [nul]) ++ extra := by
          conv_lhs => rw [← hmoved]
          simp
      _ = _ := by rw [hmore]; simp
  have hlen : moved.length + gap.length + 1 =
      (moved.rdropWhile isSpace ++ nul :: more).length := by
    have h := congrArg List.length hmore
    have hm := congrArg List.length hmoved
    simp only [List.length_append, List.length_cons, List.length_nil] at h hm ⊢
    omega
  rw [hbuf, set_middle]
  constructor
  · exact textAt_append hkept [] (more ++ extra)
  · rw [hlen, ← List.cons_append, ← List.append_assoc, List.drop_left]

theorem trimSpace_nonspace {spaces rest : List Char} {c : Char}
    (hspaces : ∀ c ∈ spaces, isSpace c = true) (hc : isSpace c = false)
    (hnul : nul ∉ spaces ++ c :: rest) (extra : List Char) :
    ∃ buf, textAt 0 buf = some ((c :: rest).rdropWhile isSpace) ∧
      buf.drop ((spaces ++ c :: rest).length + 1) = extra ∧
      ∀ n, trimSpace (n + rest.length + 1 + 1 + spaces.length)
        (spaces ++ c :: rest ++ nul :: extra) = some buf := by
  simp only [List.mem_append, List.mem_cons, not_or] at hnul
  obtain ⟨hnulSpaces, hnulc, hnulRest⟩ := hnul
  obtain ⟨old, gap, hgap⟩ : ∃ old gap, spaces ++ [c] = old :: gap := by
    rcases spaces with _ | ⟨old, spaces⟩
    · exact ⟨c, [], rfl⟩
    · exact ⟨old, spaces ++ [c], rfl⟩
  have hlenGap : gap.length = spaces.length := by
    have h := congrArg List.length hgap
    simp only [List.length_append, List.length_cons, List.length_nil] at h
    omega
  obtain ⟨gap', hlen, hmove⟩ := trimLoop_move rest [c] gap extra hnulRest spaces.length
  obtain ⟨htext, hdrop⟩ := set_rdropWhile (by simp [hnulc, hnulRest] : nul ∉ [c] ++ rest) gap' extra
  refine ⟨_, htext, ?_, fun n => ?_⟩
  · have hplace : (spaces ++ c :: rest).length + 1 = ([c] ++ rest).length + gap'.length + 1 := by
      simp only [List.length_append, List.length_cons, List.length_nil]
      omega
    rw [hplace]
    exact hdrop
  · have hset : (spaces ++ c :: (rest ++ nul :: extra)).set 0 c =
        [c] ++ gap ++ (rest ++ nul :: extra) := by
      have hsplit : spaces ++ c :: (rest ++ nul :: extra) =
          old :: (gap ++ (rest ++ nul :: extra)) := by
        calc spaces ++ c :: (rest ++ nul :: extra)
            = spaces ++ [c] ++ (rest ++ nul :: extra) := by simp
          _ = _ := by rw [hgap, List.cons_append]
      rw [hsplit]
      rfl
    have hstep : trimStep c ⟨spaces ++ c :: (rest ++ nul :: extra), spaces.length, 0, none, none⟩ =
        ⟨[c] ++ gap ++ (rest ++ nul :: extra), ([c] ++ gap).length, [c].length,
          some spaces.length, some ([c].rdropWhile isSpace).length⟩ := by
      have hlast : ([c].rdropWhile isSpace).length = 1 := by
        simp [List.rdropWhile_singleton, hc]
      rw [hlast, ← hset]
      simp [trimStep, hc, hlenGap]
    have hskip := trimLoop_spaces (n + rest.length + 1 + 1) hspaces hnulSpaces []
      (c :: (rest ++ nul :: extra))
    simp only [List.nil_append, List.length_nil] at hskip
    have hbuf : spaces ++ c :: rest ++ nul :: extra = spaces ++ c :: (rest ++ nul :: extra) := by
      simp
    rw [trimSpace, hbuf, hskip, trimLoop_cons _ (fun h => hnulc h.symm), hstep, hmove]
    rfl

theorem spaces_or_nonspace (s : List Char) :
    (∀ c ∈ s, isSpace c = true) ∨
      ∃ spaces c rest, s = spaces ++ c :: rest ∧ (∀ c ∈ spaces, isSpace c = true) ∧
        isSpace c = false := by
  induction s with
  | nil => exact Or.inl fun c hc => absurd hc List.not_mem_nil
  | cons c s ih =>
      by_cases hc : isSpace c = true
      · rcases ih with hall | ⟨spaces, c', rest, hs, hspaces, hc'⟩
        · exact Or.inl (List.forall_mem_cons.mpr ⟨hc, hall⟩)
        · exact Or.inr ⟨c :: spaces, c', rest, by rw [hs, List.cons_append],
            List.forall_mem_cons.mpr ⟨hc, hspaces⟩, hc'⟩
      · exact Or.inr ⟨[], c, s, rfl, fun c hc => absurd hc List.not_mem_nil,
          Bool.eq_false_of_not_eq_true hc⟩

theorem nonspacePart_append {spaces rest : List Char} {c : Char}
    (hspaces : ∀ c ∈ spaces, isSpace c = true) (hc : isSpace c = false) :
    nonspacePart (spaces ++ c :: rest) = (c :: rest).rdropWhile isSpace := by
  have hdrop : (spaces ++ c :: rest).dropWhile isSpace = c :: rest := by
    induction spaces with
    | nil => rw [List.nil_append, List.dropWhile_cons_of_neg (by simp [hc])]
    | cons c' spaces ih =>
        rw [List.forall_mem_cons] at hspaces
        rw [List.cons_append, List.dropWhile_cons_of_pos hspaces.1, ih hspaces.2]
  rw [nonspacePart, hdrop]

theorem trimsRight_iff {s : List Char} (hnul : nul ∉ s) :
    TrimsRight s ↔ s = [] ∨ ∃ c ∈ s, isSpace c = false := by
  rcases spaces_or_nonspace s with hspaces | ⟨spaces, c, rest, rfl, hspaces, hc⟩
  · have hrun := trimSpace_spaces hspaces hnul
    have hpart : nonspacePart s = [] := by
      rw [nonspacePart, List.dropWhile_eq_nil_iff.mpr hspaces, List.rdropWhile_nil]
    have hnone : ¬ ∃ c ∈ s, isSpace c = false := by
      rintro ⟨c, hmem, hc⟩
      rw [hspaces c hmem] at hc
      exact absurd hc (by decide)
    simp only [hnone, or_false]
    constructor
    · intro htrim
      obtain ⟨buf, ⟨enough, hbuf⟩, htext, -⟩ := htrim []
      have hsame := (hrun [] enough).symm.trans (hbuf _ (by omega))
      have htextSame : textAt 0 (s ++ nul :: []) = some s := textAt_append hnul [] []
      rw [hpart, ← Option.some.inj hsame, htextSame] at htext
      exact Option.some.inj htext
    · rintro rfl
      refine fun extra => ⟨nul :: extra, ⟨1, fun n hn => ?_⟩, ?_, rfl⟩
      · obtain ⟨m, rfl⟩ := Nat.exists_eq_add_of_le' hn
        exact hrun extra m
      · rw [hpart]
        exact textAt_append hnul [] extra
  · have hsome : ∃ c' ∈ spaces ++ c :: rest, isSpace c' = false :=
      ⟨c, List.mem_append_right _ List.mem_cons_self, hc⟩
    refine iff_of_true (fun extra => ?_) (Or.inr hsome)
    obtain ⟨buf, htext, hdrop, hrun⟩ := trimSpace_nonspace hspaces hc hnul extra
    refine ⟨buf, ⟨rest.length + 1 + 1 + spaces.length, fun n hn => ?_⟩, ?_, hdrop⟩
    · obtain ⟨m, rfl⟩ := Nat.exists_eq_add_of_le' hn
      rw [← hrun m]
      congr 1
      omega
    · rw [htext, nonspacePart_append hspaces hc]

theorem trimSpace_eq {s : List Char} (hnul : nul ∉ s) (extra : List Char) :
    ∃ buf enough, (∀ n ≥ enough, trimSpace n (s ++ nul :: extra) = some buf) ∧
      textAt 0 buf = some (LocCfg.trimSpace s) := by
  rcases spaces_or_nonspace s with hspaces | ⟨spaces, c, rest, rfl, hspaces, hc⟩
  · refine ⟨s ++ nul :: extra, 1 + s.length, fun n hn => ?_, ?_⟩
    · obtain ⟨m, rfl⟩ := Nat.exists_eq_add_of_le' hn
      rw [← trimSpace_spaces hspaces hnul extra m, Nat.add_assoc]
    · rw [LocCfg.trimSpace, if_pos (List.all_eq_true.mpr hspaces)]
      exact textAt_append hnul [] extra
  · have hsome : ∃ c' ∈ spaces ++ c :: rest, isSpace c' = false :=
      ⟨c, List.mem_append_right _ List.mem_cons_self, hc⟩
    have hall : ¬ ((spaces ++ c :: rest).all isSpace = true) := by
      simp [hc]
    obtain ⟨buf, ⟨enough, hbuf⟩, htext, -⟩ := (trimsRight_iff hnul).mpr (Or.inr hsome) extra
    refine ⟨buf, enough, hbuf, ?_⟩
    rw [htext, LocCfg.trimSpace, if_neg hall]
    rfl

/-- Both operations are right for a text, as far as their callers may ask for. -/
theorem trims_and_splits_iff {s : List Char} (hnul : nul ∉ s) :
    (TrimsRight s ∧ ∀ delimiter ≠ nul, ∀ max ≥ 1, SplitsRight s delimiter max) ↔
      s = [] ∨ ∃ c ∈ s, isSpace c = false := by
  rw [trimsRight_iff hnul]
  exact and_iff_left fun delimiter _ max hmax => splitsRight hnul delimiter hmax

theorem trims_and_splits_iff_padded :
    (TrimsRight [' ', 'a', ' '] ∧
        ∀ delimiter ≠ nul, ∀ max ≥ 1, SplitsRight [' ', 'a', ' '] delimiter max) ↔
      [' ', 'a', ' '] = ([] : List Char) ∨ ∃ c ∈ [' ', 'a', ' '], isSpace c = false :=
  trims_and_splits_iff (by decide)

/-- A text of one space is left alone. -/
theorem space_not_trimmed :
    ¬ ∀ s : List Char, nul ∉ s →
      TrimsRight s ∧ ∀ delimiter ≠ nul, ∀ max ≥ 1, SplitsRight s delimiter max := by
  intro h
  have htrim := (h [' '] (by decide)).1
  rcases (trimsRight_iff (by decide)).mp htrim with hnil | ⟨c, hmem, hc⟩
  · exact absurd hnil (List.cons_ne_nil _ _)
  · rw [List.mem_singleton.mp hmem] at hc
    exact absurd hc (by decide)

end LibraDevice.MiscUtils
