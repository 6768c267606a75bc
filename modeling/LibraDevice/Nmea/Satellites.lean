import LibraDevice.Nmea.Position

/-!
The sentences of a satellite report.
-/

namespace LibraDevice.Nmea

inductive Constellation where
  | gps
  | glonass
  | other
deriving DecidableEq, Repr

structure GnssSvInfo (δ : Type*) where
  svid : Int16
  constellation : Constellation
  usedInFix : Bool
  elevation : δ
  azimuth : δ
  cN0Dbhz : δ
deriving DecidableEq, Repr

variable {δ : Type*}

def isOf (constellation : Constellation) (sv : GnssSvInfo δ) : Bool :=
  decide (sv.constellation = constellation)

/-- `used_mask |= (1 << (svid - 1))`, for the satellites of a constellation that are used. -/
def usedMask (constellation : Constellation) (svs : List (GnssSvInfo δ)) : BitVec 32 :=
  svs.foldl (fun mask sv =>
    if isOf constellation sv && sv.usedInFix then mask ||| (1#32 <<< (sv.svid.toInt - 1).toNat)
    else mask) 0

/-- `(int)(0.5 + x)`. -/
def roundedInt (ops : FloatOps δ) (x : δ) : Int :=
  ops.toInt (ops.add (ops.const (1 / 2)) x)

/-- The calls of `snprintf` for one satellite. -/
def svPieces (ops : FloatOps δ) (sv : GnssSvInfo δ) : List (Piece δ) :=
  [.lit [','], .d 2 sv.svid.toInt, .lit [','], .d 2 (roundedInt ops sv.elevation), .lit [','],
      .d 3 (roundedInt ops sv.azimuth), .lit [',']] ::
    if ops.lt (ops.const 0) sv.cN0Dbhz then [[.d 2 (roundedInt ops sv.cN0Dbhz)]] else []

/-- The inner loop: the next satellites of the constellation, at most as many as are asked for,
and where the cursor stands after them. -/
def nextGroup (constellation : Constellation) :
    Nat → List (GnssSvInfo δ) → List (GnssSvInfo δ) × List (GnssSvInfo δ)
  | _, [] => ([], [])
  | 0, svs => ([], svs)
  | n + 1, sv :: svs =>
      if isOf constellation sv then
        let r := nextGroup constellation n svs
        (sv :: r.1, r.2)
      else nextGroup constellation (n + 1) svs

/-- One sentence about a group of satellites. -/
def gsvSentence (ops : FloatOps δ) (talker : List Char) (sentenceCount sentenceNumber svCount : Nat)
    (group : List (GnssSvInfo δ)) : Sentence δ where
  checked :=
    [.lit ('$' :: talker ++ ['G', 'S', 'V', ',']), .d 0 sentenceCount, .lit [','],
      .d 0 sentenceNumber, .lit [','], .d 2 svCount] :: group.flatMap (svPieces ops)
  last := none

/-- The `while` loop: as many sentences as are left, from the satellites behind the cursor. -/
def gsvLoop (ops : FloatOps δ) (talker : List Char) (constellation : Constellation)
    (sentenceCount svCount : Nat) : Nat → Nat → List (GnssSvInfo δ) → List (Sentence δ)
  | 0, _, _ => []
  | n + 1, sentenceNumber, svs =>
      let r := nextGroup constellation 4 svs
      gsvSentence ops talker sentenceCount sentenceNumber svCount r.1 ::
        gsvLoop ops talker constellation sentenceCount svCount n (sentenceNumber + 1) r.2

def sentenceCount (svCount : Nat) : Nat :=
  svCount / 4 + (if svCount % 4 ≠ 0 then 1 else 0)

/-- The sentences about one constellation. -/
def gsvSentences (ops : FloatOps δ) (talker : List Char) (constellation : Constellation)
    (svs : List (GnssSvInfo δ)) : List (Sentence δ) :=
  let svCount := svs.countP (isOf constellation)
  if svCount = 0 then
    [blankSentence ('$' :: talker ++ ['G', 'S', 'V', ',', '1', ',', '1', ',', '0', ','])]
  else
    gsvLoop ops talker constellation (sentenceCount svCount) svCount (sentenceCount svCount) 1 svs

def gpsTalker : List Char := ['G', 'P']

def glonassTalker : List Char := ['G', 'L']

def svSentences (ops : FloatOps δ) (svs : List (GnssSvInfo δ)) : List (Sentence δ) :=
  gsvSentences ops gpsTalker .gps svs ++ gsvSentences ops glonassTalker .glonass svs

/-- `loc_eng_nmea_generate_sv`: what is sent, and the engine with its caches. -/
def generateSv (p : Printf δ) (ops : FloatOps δ) (svs : List (GnssSvInfo δ))
    (ext : GpsLocationExtended δ) (eng : LocEngData δ) : Run × LocEngData δ :=
  let run := sendAll p (svSentences ops svs) emptySentence
  (run,
    { eng with
      gpsUsedMask := usedMask .gps svs
      gloUsedMask := usedMask .glonass svs
      dop := if run.finish = .ok () then
          ext.dop.getD ⟨ops.const 0, ops.const 0, ops.const 0⟩
        else eng.dop })

theorem nextGroup_spec (constellation : Constellation) (n : Nat) (svs : List (GnssSvInfo δ)) :
    (nextGroup constellation n svs).1 = (svs.filter (isOf constellation)).take n ∧
      (nextGroup constellation n svs).2.filter (isOf constellation) =
        (svs.filter (isOf constellation)).drop n := by
  induction svs generalizing n with
  | nil => cases n <;> simp [nextGroup]
  | cons sv svs ih =>
      rcases n with _ | n
      · simp [nextGroup]
      · rw [nextGroup]
        by_cases h : isOf constellation sv = true
        · rw [if_pos h, List.filter_cons_of_pos h]
          exact ⟨congrArg (sv :: ·) (ih n).1, (ih n).2⟩
        · rw [if_neg h, List.filter_cons_of_neg h]
          exact ih (n + 1)

theorem gsvLoop_eq (ops : FloatOps δ) (talker : List Char) (constellation : Constellation)
    (total svCount n number : Nat) (svs : List (GnssSvInfo δ)) :
    gsvLoop ops talker constellation total svCount n number svs =
      (List.range n).map fun i => gsvSentence ops talker total (number + i) svCount
        (((svs.filter (isOf constellation)).drop (4 * i)).take 4) := by
  induction n generalizing number svs with
  | zero => rfl
  | succ n ih =>
      obtain ⟨hgroup, hrest⟩ := nextGroup_spec constellation 4 svs
      rw [gsvLoop, ih, hgroup, hrest, List.range_succ_eq_map, List.map_cons, List.map_map]
      refine congrArg₂ List.cons rfl (List.map_congr_left fun i _ => ?_)
      have hnumber : number + 1 + i = number + i.succ := by omega
      have hplace : 4 + 4 * i = 4 * i.succ := by omega
      rw [Function.comp_apply, List.drop_drop, hnumber, hplace]

/-- A list cut into groups of four. -/
def groupsOfFour {α : Type*} (n : Nat) (as : List α) : List (List α) :=
  (List.range n).map fun i => (as.drop (4 * i)).take 4

theorem groupsOfFour_length_le {α : Type*} (n : Nat) (as : List α) :
    ∀ group ∈ groupsOfFour n as, group.length ≤ 4 := by
  simp only [groupsOfFour, List.mem_map]
  rintro group ⟨i, _, rfl⟩
  exact List.length_take_le _ _

theorem groupsOfFour_flatten {α : Type*} (n : Nat) (as : List α) (h : as.length ≤ 4 * n) :
    (groupsOfFour n as).flatten = as := by
  induction n generalizing as with
  | zero =>
      have hnil : as = [] := List.eq_nil_of_length_eq_zero (by omega)
      subst hnil
      rfl
  | succ n ih =>
      have htail : ((List.range n).map fun i => (as.drop (4 * (i + 1))).take 4) =
          groupsOfFour n (as.drop 4) := by
        refine List.map_congr_left fun i _ => ?_
        rw [List.drop_drop]
        congr 2
        omega
      have hcut : groupsOfFour (n + 1) as = as.take 4 :: groupsOfFour n (as.drop 4) := by
        rw [← htail, groupsOfFour, List.range_succ_eq_map, List.map_cons, List.map_map]
        rfl
      rw [hcut, List.flatten_cons, ih]
      · exact List.take_append_drop 4 as
      · rw [List.length_drop]
        omega

theorem sentenceCount_eq (n : Nat) : sentenceCount n = (n + 3) / 4 := by
  rw [sentenceCount]
  split_ifs <;> omega

theorem usedFrom_eq (n i : Nat) (mask : BitVec 32) :
    usedFrom n i mask = (List.range' i n).filter fun j => mask.getLsbD (j - i) := by
  induction n generalizing i mask with
  | zero => rfl
  | succ n ih =>
      rw [usedFrom, List.range'_succ]
      by_cases hzero : mask = 0
      · subst hzero
        simp
      · have hshift : ∀ j ∈ List.range' (i + 1) n,
            (mask >>> 1).getLsbD (j - (i + 1)) = mask.getLsbD (j - i) := by
          intro j hj
          have hle : i + 1 ≤ j := (List.mem_range'_1.mp hj).1
          rw [BitVec.getLsbD_ushiftRight]
          congr 1
          omega
        have hrest : usedFrom n (i + 1) (mask >>> 1) =
            (List.range' (i + 1) n).filter fun j => mask.getLsbD (j - i) := by
          rw [ih]
          exact List.filter_congr hshift
        have hfirst : i - i = 0 := Nat.sub_self i
        rw [if_neg hzero, hrest, List.filter_cons, hfirst]

theorem usedFrom_spec (mask : BitVec 32) :
    (usedFrom 32 1 mask).Pairwise (· < ·) ∧
      ∀ id, id ∈ usedFrom 32 1 mask ↔ 1 ≤ id ∧ id ≤ 32 ∧ mask.getLsbD (id - 1) = true := by
  rw [usedFrom_eq]
  constructor
  · exact List.Pairwise.filter _ List.pairwise_lt_range'
  · intro id
    rw [List.mem_filter, List.mem_range'_1]
    constructor
    · rintro ⟨⟨hlow, hhigh⟩, hbit⟩
      exact ⟨hlow, by omega, hbit⟩
    · rintro ⟨hlow, hhigh, hbit⟩
      exact ⟨⟨hlow, by omega⟩, hbit⟩

theorem getLsbD_usedMask_aux (constellation : Constellation) (svs : List (GnssSvInfo δ))
    (mask : BitVec 32) (j : Nat) :
    (svs.foldl (fun mask sv =>
      if isOf constellation sv && sv.usedInFix then mask ||| (1#32 <<< (sv.svid.toInt - 1).toNat)
      else mask) mask).getLsbD j = true ↔
      mask.getLsbD j = true ∨
        ∃ sv ∈ svs, isOf constellation sv = true ∧ sv.usedInFix = true ∧ j < 32 ∧
          (sv.svid.toInt - 1).toNat = j := by
  induction svs generalizing mask with
  | nil => simp
  | cons sv svs ih =>
      rw [List.foldl_cons, ih]
      by_cases h : isOf constellation sv = true ∧ sv.usedInFix = true
      · have hbit : (1#32 <<< (sv.svid.toInt - 1).toNat).getLsbD j = true ↔
            j < 32 ∧ (sv.svid.toInt - 1).toNat = j := by
          rw [← BitVec.twoPow_eq, BitVec.getLsbD_twoPow]
          simp only [Bool.and_eq_true, decide_eq_true_eq]
          omega
        rw [if_pos (by simpa using h), BitVec.getLsbD_or, Bool.or_eq_true, hbit]
        simp only [List.mem_cons, exists_eq_or_imp, h.1, h.2, true_and, or_assoc]
      · rw [if_neg (by simpa using h)]
        simp only [List.mem_cons, exists_eq_or_imp]
        tauto

theorem getLsbD_usedMask (constellation : Constellation) (svs : List (GnssSvInfo δ)) (j : Nat) :
    (usedMask constellation svs).getLsbD j = true ↔
      ∃ sv ∈ svs, isOf constellation sv = true ∧ sv.usedInFix = true ∧ j < 32 ∧
        (sv.svid.toInt - 1).toNat = j := by
  rw [usedMask, getLsbD_usedMask_aux]
  simp

end LibraDevice.Nmea
