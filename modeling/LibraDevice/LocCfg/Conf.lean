import LibraDevice.Lib.Countdown
import LibraDevice.Lib.TextLines
import LibraDevice.Xml.Node

/-!
Reading a table of parameters from a configuration text, line by line.
-/

namespace LibraDevice.LocCfg

open Countdown
open TextLines
open Xml (CString atoi isSpace)

def maxParamName : Nat := 80

def maxParamString : Nat := 80

def maxParamLine : Nat := maxParamName + maxParamString

/-- How the C library reads numbers; `δ` are the values of a `double`. -/
structure Libc (δ : Type*) where
  strtolHex : CString → Int
  atof : CString → δ
  atoi : CString → Int
  zero : δ

/-- The storage of a parameter, of the kind that `param_type` names. -/
inductive ParamValue (δ : Type*) where
  | n (value : Int)
  | s (value : CString)
  | f (value : δ)
deriving DecidableEq, Repr

/-- An entry of the table with the storage that its pointers name. -/
structure Param (δ : Type*) where
  paramName : CString
  value : ParamValue δ
  paramSet : UInt8
deriving DecidableEq, Repr

structure ConfigValue (δ : Type*) where
  paramName : CString
  paramStrValue : CString
  paramIntValue : Int
  paramDoubleValue : δ

variable {δ : Type*}

/-- `loc_util_trim_space`, which leaves a text of nothing but spaces alone. -/
def trimSpace (s : CString) : CString :=
  if s.all isSpace then s
  else ((s.dropWhile isSpace).reverse.dropWhile isSpace).reverse

/-- What is written to a parameter that held `old`. -/
def ConfigValue.stored (v : ConfigValue δ) (old : ParamValue δ) : ParamValue δ :=
  match old with
  | .s _ => .s (if v.paramStrValue = ['N', 'U', 'L', 'L'] then []
      else v.paramStrValue.take maxParamString)
  | .n _ => .n v.paramIntValue
  | .f _ => .f v.paramDoubleValue

def Param.set (entry : Param δ) (v : ConfigValue δ) : Param δ :=
  { entry with value := v.stored entry.value, paramSet := 1 }

/-- `loc_set_config_entry`; `none` when it leaves the entry alone. -/
def setConfigEntry (entry : Param δ) (v : ConfigValue δ) : Option (Param δ) :=
  if entry.paramName = v.paramName then some (entry.set v) else none

def isHex (s : CString) : Bool :=
  3 ≤ s.length && s.head? = some '0' && (s.tail.head?.map Char.toLower) = some 'x'

/-- The part of `loc_fill_conf_item` before its loop: the name and the value of a line. -/
def readLine (libc : Libc δ) (inputBuf : CString) : Option (ConfigValue δ) :=
  match strtok '=' inputBuf with
  | none => none
  | some name =>
      match strtok '=' name.2 with
      | none => none
      | some value =>
          let str := trimSpace value.1
          if isHex str then
            some ⟨trimSpace name.1, str, libc.strtolHex (str.drop 2), libc.zero⟩
          else some ⟨trimSpace name.1, str, libc.atoi str, libc.atof str⟩

/-- The loop of `loc_fill_conf_item` over the table, with the number of entries it set. -/
def setEntries (v : ConfigValue δ) : List (Param δ) → Nat × List (Param δ)
  | [] => (0, [])
  | entry :: table =>
      let r := setEntries v table
      match setConfigEntry entry v with
      | some set => (r.1 + 1, set :: r.2)
      | none => (r.1, entry :: r.2)

def fillConfItem (libc : Libc δ) (inputBuf : CString) (table : List (Param δ)) :
    Nat × List (Param δ) :=
  match readLine libc inputBuf with
  | none => (0, table)
  | some v => setEntries v table

/-- What a loop over lines leaves: the table, and for each line that it took the counter before
it with the number that was subtracted. -/
structure LoopResult (δ : Type*) where
  table : List (Param δ)
  taken : List (UInt32 × Nat)

/-- The loop of both readers: while the counter is not zero and there is a line. -/
def confLoop (libc : Libc δ) : List CString → UInt32 → List (Param δ) → LoopResult δ
  | [], _, table => ⟨table, []⟩
  | line :: lines, numParams, table =>
      if numParams = 0 then ⟨table, []⟩
      else
        let filled := fillConfItem libc line table
        let rest := confLoop libc lines (numParams - UInt32.ofNat filled.1) filled.2
        ⟨rest.table, (numParams, filled.1) :: rest.taken⟩

def Param.cleared (entry : Param δ) : Param δ :=
  { entry with paramSet := 0 }

def clearSet (table : List (Param δ)) : List (Param δ) :=
  table.map Param.cleared

/-- The lines that `fgets` delivers to a buffer of `LOC_MAX_PARAM_LINE` bytes. -/
def fgetsLines (text : CString) : List CString :=
  fgets '\n' (maxParamLine - 1) (maxParamLine - 1) text

def readConf (libc : Libc δ) (text : CString) (table : List (Param δ)) : LoopResult δ :=
  confLoop libc (fgetsLines text) (UInt32.ofNat table.length) (clearSet table)

/-- `loc_update_conf`, with its result: the number of lines it took. -/
def updateConf (libc : Libc δ) (text : CString) (table : List (Param δ)) : Int × LoopResult δ :=
  if text.length ≠ 0 ∧ table.length ≠ 0 then
    let r := confLoop libc (tokens '\n' text) (UInt32.ofNat table.length - 1) table
    (r.taken.length, r)
  else (-1, ⟨table, []⟩)

/-- The line is a `name = value` line for the parameter of this name. -/
def Names (libc : Libc δ) (name line : CString) : Prop :=
  ∃ v, readLine libc line = some v ∧ v.paramName = name

instance instDecidableNames (libc : Libc δ) (name line : CString) :
    Decidable (Names libc name line) :=
  decidable_of_iff ((readLine libc line).any fun v => decide (v.paramName = name)) (by
    simp [Names, Option.any_eq_true])

def NamedBy (libc : Libc δ) (lines : List CString) (name : CString) : Prop :=
  ∃ line ∈ lines, Names libc name line

instance instDecidableNamedBy (libc : Libc δ) (lines : List CString) (name : CString) :
    Decidable (NamedBy libc lines name) :=
  inferInstanceAs (Decidable (∃ line ∈ lines, Names libc name line))

/-- How many entries of a table with these names the line sets. -/
def matched (libc : Libc δ) (names : List CString) (line : CString) : Nat :=
  names.countP fun name => decide (Names libc name line)

def paramNames (table : List (Param δ)) : List CString :=
  table.map Param.paramName

@[simp]
theorem paramNames_clearSet (table : List (Param δ)) :
    paramNames (clearSet table) = paramNames table := by
  simp [paramNames, clearSet, Param.cleared, Function.comp_def]

@[simp]
theorem length_clearSet (table : List (Param δ)) : (clearSet table).length = table.length := by
  simp [clearSet]

/-- What one line makes of an entry. -/
def Param.after (libc : Libc δ) (entry : Param δ) (line : CString) : Param δ :=
  match readLine libc line with
  | none => entry
  | some v => (setConfigEntry entry v).getD entry

theorem Param.after_of_names (libc : Libc δ) (entry : Param δ) (line : CString)
    (v : ConfigValue δ) (hread : readLine libc line = some v)
    (hname : v.paramName = entry.paramName) :
    entry.after libc line = entry.set v := by
  simp [Param.after, hread, setConfigEntry, hname]

theorem Param.after_of_not_names (libc : Libc δ) (entry : Param δ) (line : CString)
    (h : ¬ Names libc entry.paramName line) : entry.after libc line = entry := by
  rw [Param.after]
  rcases hread : readLine libc line with _ | v
  · rfl
  · have hname : entry.paramName ≠ v.paramName := fun hname => h ⟨v, hread, hname.symm⟩
    simp [setConfigEntry, hname]

@[simp]
theorem Param.paramName_after (libc : Libc δ) (entry : Param δ) (line : CString) :
    (entry.after libc line).paramName = entry.paramName := by
  rw [Param.after]
  rcases readLine libc line with _ | v
  · rfl
  · simp only [setConfigEntry]
    split_ifs <;> rfl

theorem Param.set_after (libc : Libc δ) (entry : Param δ) (line : CString)
    (v : ConfigValue δ) : (entry.after libc line).set v = entry.set v := by
  rw [Param.after]
  rcases readLine libc line with _ | w
  · rfl
  · simp only [setConfigEntry]
    split_ifs
    · rcases entry with ⟨name, value, set⟩
      cases value <;> rfl
    · rfl

theorem setEntries_eq (v : ConfigValue δ) (table : List (Param δ)) :
    setEntries v table =
      ((paramNames table).countP fun name => decide (v.paramName = name),
        table.map fun entry => (setConfigEntry entry v).getD entry) := by
  induction table with
  | nil => rfl
  | cons entry table ih =>
      rw [setEntries, ih, setConfigEntry]
      by_cases h : entry.paramName = v.paramName
      · simp [h, paramNames, setConfigEntry]
      · have h' : v.paramName ≠ entry.paramName := Ne.symm h
        simp [h, h', paramNames, setConfigEntry]

theorem fillConfItem_eq (libc : Libc δ) (line : CString) (table : List (Param δ)) :
    fillConfItem libc line table =
      (matched libc (paramNames table) line, table.map fun entry => entry.after libc line) := by
  rw [fillConfItem]
  rcases hread : readLine libc line with _ | v
  · have hcount : matched libc (paramNames table) line = 0 := by
      simp [matched, Names, hread]
    have hmap : (table.map fun entry => entry.after libc line) = table := by
      simp [Param.after, hread]
    rw [hcount, hmap]
  · have hnames : ∀ name, Names libc name line ↔ v.paramName = name := by
      simp [Names, hread]
    change setEntries v table = _
    rw [setEntries_eq]
    simp only [matched, hnames, Param.after, hread]

theorem paramNames_map_after (libc : Libc δ) (line : CString) (table : List (Param δ)) :
    paramNames (table.map fun entry => entry.after libc line) = paramNames table := by
  simp [paramNames, Function.comp_def]

def Param.afterAll (libc : Libc δ) (entry : Param δ) (lines : List CString) : Param δ :=
  lines.foldl (fun entry line => entry.after libc line) entry

/-- The table after a number of lines. -/
def applyLines (libc : Libc δ) (lines : List CString) (table : List (Param δ)) :
    List (Param δ) :=
  table.map fun entry => entry.afterAll libc lines

theorem applyLines_cons (libc : Libc δ) (line : CString) (lines : List CString)
    (table : List (Param δ)) :
    applyLines libc (line :: lines) table =
      applyLines libc lines (table.map fun entry => entry.after libc line) := by
  simp [applyLines, Param.afterAll, Function.comp_def]

@[simp]
theorem applyLines_nil (libc : Libc δ) (table : List (Param δ)) :
    applyLines libc [] table = table := by
  simp [applyLines, Param.afterAll]

theorem Param.afterAll_of_not_named (libc : Libc δ) (lines : List CString) (entry : Param δ)
    (h : ¬ NamedBy libc lines entry.paramName) :
    entry.afterAll libc lines = entry := by
  induction lines with
  | nil => rfl
  | cons line lines ih =>
      simp only [NamedBy, List.mem_cons, exists_eq_or_imp, not_or] at h
      rw [Param.afterAll, List.foldl_cons, entry.after_of_not_names libc line h.1]
      exact ih h.2

theorem Param.afterAll_of_named (libc : Libc δ) (lines : List CString) (entry : Param δ)
    (h : NamedBy libc lines entry.paramName) :
    ∃ line ∈ lines, ∃ v, readLine libc line = some v ∧ v.paramName = entry.paramName ∧
      entry.afterAll libc lines = entry.set v := by
  induction lines generalizing entry with
  | nil => simp [NamedBy] at h
  | cons line lines ih =>
      change ∃ line' ∈ _, ∃ v, _ ∧ _ ∧ (entry.after libc line).afterAll libc lines = _
      by_cases hlater : NamedBy libc lines (entry.after libc line).paramName
      · obtain ⟨line', hmem, v, hread, hname, hfold⟩ := ih _ hlater
        rw [Param.paramName_after] at hname
        rw [Param.set_after] at hfold
        exact ⟨line', List.mem_cons_of_mem _ hmem, v, hread, hname, hfold⟩
      · rw [Param.afterAll_of_not_named libc lines _ hlater]
        rw [Param.paramName_after] at hlater
        simp only [NamedBy, List.mem_cons, exists_eq_or_imp] at h
        obtain ⟨v, hread, hname⟩ := h.resolve_right hlater
        exact ⟨line, List.mem_cons_self, v, hread, hname,
          entry.after_of_names libc line v hread hname⟩

/-- The counter never goes below zero. -/
def LoopResult.NoWrap (r : LoopResult δ) : Prop :=
  ∀ p ∈ r.taken, p.2 ≤ p.1.toNat

instance instDecidableNoWrap (r : LoopResult δ) : Decidable r.NoWrap :=
  inferInstanceAs (Decidable (∀ p ∈ r.taken, p.2 ≤ p.1.toNat))

/-- The lines that a loop takes whose counter stops at zero. -/
def linesTaken (libc : Libc δ) (names : List CString) (numParams : Nat)
    (lines : List CString) : List CString :=
  takeUntil (matched libc names) numParams lines

theorem toNat_sub_ofNat {a : UInt32} {n : Nat} (h : n ≤ a.toNat) :
    (a - UInt32.ofNat n).toNat = a.toNat - n := by
  have hlt : n < 4294967296 := Nat.lt_of_le_of_lt h a.toNat_lt
  have hn : (UInt32.ofNat n).toNat = n := UInt32.toNat_ofNat_of_lt hlt
  rw [UInt32.toNat_sub_of_le _ _ (UInt32.le_iff_toNat_le.mpr (by omega)), hn]

theorem confLoop_noWrap_iff (libc : Libc δ) (lines : List CString) (numParams : UInt32)
    (table : List (Param δ)) :
    (confLoop libc lines numParams table).NoWrap ↔
      total (matched libc (paramNames table))
        (linesTaken libc (paramNames table) numParams.toNat lines) ≤ numParams.toNat := by
  induction lines generalizing numParams table with
  | nil => simp [confLoop, LoopResult.NoWrap, linesTaken, takeUntil]
  | cons line lines ih =>
      rw [confLoop, linesTaken]
      by_cases hzero : numParams = 0
      · subst hzero
        simp [LoopResult.NoWrap]
      · have hpos : numParams.toNat ≠ 0 := fun h => hzero (UInt32.toNat_inj.mp h)
        rw [if_neg hzero, takeUntil_cons _ hpos, total_cons, fillConfItem_eq]
        have hih := ih (numParams - UInt32.ofNat (matched libc (paramNames table) line))
          (table.map fun entry => entry.after libc line)
        rw [paramNames_map_after] at hih
        simp only [LoopResult.NoWrap, List.mem_cons, forall_eq_or_imp] at hih ⊢
        constructor
        · rintro ⟨hle, hrest⟩
          have hsub := toNat_sub_ofNat hle
          have hsum := hih.mp hrest
          rw [hsub] at hsum
          simp only [linesTaken] at hsum
          omega
        · intro hsum
          have hle : matched libc (paramNames table) line ≤ numParams.toNat := by omega
          have hsub := toNat_sub_ofNat hle
          refine ⟨hle, hih.mpr ?_⟩
          rw [hsub]
          simp only [linesTaken]
          omega

theorem confLoop_eq (libc : Libc δ) (lines : List CString) (numParams : UInt32)
    (table : List (Param δ)) (h : (confLoop libc lines numParams table).NoWrap) :
    (confLoop libc lines numParams table).table =
        applyLines libc (linesTaken libc (paramNames table) numParams.toNat lines) table ∧
      (confLoop libc lines numParams table).taken.length =
        (linesTaken libc (paramNames table) numParams.toNat lines).length := by
  induction lines generalizing numParams table with
  | nil => simp [confLoop, linesTaken, takeUntil]
  | cons line lines ih =>
      rw [confLoop, linesTaken] at *
      by_cases hzero : numParams = 0
      · subst hzero
        simp
      · have hpos : numParams.toNat ≠ 0 := fun h => hzero (UInt32.toNat_inj.mp h)
        rw [if_neg hzero, fillConfItem_eq] at h
        simp only [LoopResult.NoWrap, List.mem_cons, forall_eq_or_imp] at h
        obtain ⟨hle, hrest⟩ := h
        have hih := ih _ _ hrest
        rw [paramNames_map_after, toNat_sub_ofNat hle] at hih
        rw [if_neg hzero, takeUntil_cons _ hpos, fillConfItem_eq, applyLines_cons]
        exact ⟨hih.1, congrArg (· + 1) hih.2⟩

end LibraDevice.LocCfg
