import LibraDevice.LocCfg.Conf

/-!
What a `name = value` line says, and what is kept of it.
-/

namespace LibraDevice.LocCfg

open TextLines
open Xml (CString isSpace)

variable {δ : Type*}

def trim (s : CString) : CString :=
  ((s.dropWhile isSpace).reverse.dropWhile isSpace).reverse

/-- Name and value of a `name = value` line: the texts on the two sides of its first `=`. -/
def assignment (line : CString) : Option (CString × CString) :=
  let name := trim (line.takeWhile fun c => !decide (c = '='))
  let text := trim (line.dropWhile fun c => !decide (c = '=')).tail
  if name ≠ [] ∧ text ≠ [] then some (name, text) else none

def Gives (name line : CString) : Prop := (assignment line).map Prod.fst = some name

/-- Some line is a `name = value` line for the parameter of this name. -/
def GivenBy (confLines : List CString) (name : CString) : Prop :=
  ∃ line ∈ confLines, Gives name line

instance instDecidableGivenBy (confLines : List CString) (name : CString) :
    Decidable (GivenBy confLines name) :=
  inferInstanceAs (Decidable (∃ line ∈ confLines, (assignment line).map Prod.fst = some name))

/-- The digits of a hexadecimal number. -/
def hexDigits : CString → Option CString
  | '0' :: x :: c :: digits => if x.toLower = 'x' then some (c :: digits) else none
  | _ => none

/-- What a text stands for, in a storage of the same kind as `old`. -/
def denoted (libc : Libc δ) (old : ParamValue δ) (text : CString) : ParamValue δ :=
  match old with
  | .s _ => .s (if text = ['N', 'U', 'L', 'L'] then [] else text)
  | .n _ => .n ((hexDigits text).elim (libc.atoi text) libc.strtolHex)
  | .f _ => .f (libc.atof text)

/-- The operands that a line is taken apart into, which ends the value at a second `=`. -/
def operands (line : CString) : Option (CString × CString) :=
  (strtok '=' line).bind fun name =>
    (strtok '=' name.2).map fun value => (trimSpace name.1, trimSpace value.1)

/-- What is kept of an operand: 80 characters, and nothing of a hexadecimal `double`. -/
def kept (libc : Libc δ) (old : ParamValue δ) (text : CString) : ParamValue δ :=
  match old with
  | .s _ => .s (if text = ['N', 'U', 'L', 'L'] then [] else text.take 80)
  | .n _ => denoted libc old text
  | .f _ => if (hexDigits text).isSome then .f libc.zero else denoted libc old text

theorem hexDigits_eq (s : CString) : hexDigits s = if isHex s then some (s.drop 2) else none := by
  rw [hexDigits.eq_def]
  split
  case h_1 x c digits => simp [isHex]
  case h_2 hother =>
    have hnot : ¬isHex s = true := by
      rcases s with _ | ⟨a, _ | ⟨x, _ | ⟨c, digits⟩⟩⟩
      · simp [isHex]
      · simp [isHex]
      · simp [isHex]
      · intro hhex
        simp only [isHex, List.head?_cons, Bool.and_eq_true, decide_eq_true_eq,
          Option.some.injEq] at hhex
        exact hother x c digits (by rw [hhex.1.2])
    rw [if_neg hnot]

theorem readLine_eq (libc : Libc δ) (line : CString) :
    readLine libc line = (operands line).map fun operand =>
      if isHex operand.2 then
        ⟨operand.1, operand.2, libc.strtolHex (operand.2.drop 2), libc.zero⟩
      else ⟨operand.1, operand.2, libc.atoi operand.2, libc.atof operand.2⟩ := by
  rw [readLine, operands]
  rcases strtok '=' line with _ | name
  · rfl
  · dsimp only [Option.bind_some]
    rcases strtok '=' name.2 with _ | value
    · rfl
    · dsimp only [Option.map_some]
      split_ifs <;> rfl

theorem names_iff (libc : Libc δ) (name line : CString) :
    Names libc name line ↔ ∃ text, operands line = some (name, text) := by
  rw [Names, readLine_eq]
  rcases operands line with _ | ⟨name', text⟩
  · simp
  · simp only [Option.map_some, Option.some.injEq, exists_eq_left', Prod.mk.injEq]
    split_ifs <;> simp

theorem Param.after_of_operands (libc : Libc δ) (entry : Param δ) {line text : CString}
    (h : operands line = some (entry.paramName, text)) :
    entry.after libc line = ⟨entry.paramName, kept libc entry.value text, 1⟩ := by
  have hread := readLine_eq libc line
  rw [h, Option.map_some] at hread
  have hname : (if isHex text then
        (⟨entry.paramName, text, libc.strtolHex (text.drop 2), libc.zero⟩ : ConfigValue δ)
      else ⟨entry.paramName, text, libc.atoi text, libc.atof text⟩).paramName =
      entry.paramName := by
    split_ifs <;> rfl
  rw [entry.after_of_names libc line _ hread hname, Param.set]
  congr 1
  rcases entry with ⟨name, value, set⟩
  rcases hhex : isHex text with _ | _
  · cases value <;> simp [ConfigValue.stored, kept, denoted, hexDigits_eq, hhex, maxParamString]
  · cases value <;> simp [ConfigValue.stored, kept, denoted, hexDigits_eq, hhex, maxParamString]

/-- The last of the lines that names the parameter. -/
def lastNaming (libc : Libc δ) (name : CString) (confLines : List CString) : Option CString :=
  (confLines.filter fun line => decide (Names libc name line)).getLast?

theorem lastNaming_eq_none_iff (libc : Libc δ) (name : CString) (confLines : List CString) :
    lastNaming libc name confLines = none ↔ ¬ NamedBy libc confLines name := by
  simp [lastNaming, NamedBy]

/-- The lines of a text give the entry what the last line leaves of it that names it. -/
def LastGiven (libc : Libc δ) (taken confLines : List CString) (entry : Param δ) : Prop :=
  ∀ line text, lastNaming libc entry.paramName taken = some line →
    operands line = some (entry.paramName, text) →
    ∃ given ∈ confLines, ∃ value, assignment given = some (entry.paramName, value) ∧
      kept libc entry.value text = denoted libc entry.value value

theorem Param.paramName_afterAll (libc : Libc δ) (confLines : List CString) (entry : Param δ) :
    (entry.afterAll libc confLines).paramName = entry.paramName := by
  induction confLines generalizing entry with
  | nil => rfl
  | cons line confLines ih =>
      change ((entry.after libc line).afterAll libc confLines).paramName = _
      rw [ih, Param.paramName_after]

theorem Param.set_afterAll (libc : Libc δ) (confLines : List CString) (entry : Param δ)
    (v : ConfigValue δ) : (entry.afterAll libc confLines).set v = entry.set v := by
  induction confLines generalizing entry with
  | nil => rfl
  | cons line confLines ih =>
      change ((entry.after libc line).afterAll libc confLines).set v = _
      rw [ih, Param.set_after]

theorem Param.afterAll_eq (libc : Libc δ) (confLines : List CString) (entry : Param δ) :
    entry.afterAll libc confLines =
      (lastNaming libc entry.paramName confLines).elim entry (entry.after libc) := by
  induction confLines using List.reverseRecOn with
  | nil => rfl
  | append_singleton confLines line ih =>
      have hlast : entry.afterAll libc (confLines ++ [line]) =
          (entry.afterAll libc confLines).after libc line := by
        rw [Param.afterAll, List.foldl_append]
        rfl
      rw [hlast, lastNaming, List.filter_append]
      by_cases h : Names libc entry.paramName line
      · obtain ⟨v, hread, hname⟩ := h
        have hnames : Names libc entry.paramName line := ⟨v, hread, hname⟩
        have hkept := Param.paramName_afterAll libc confLines entry
        rw [List.filter_singleton, decide_eq_true hnames, cond_true, List.getLast?_concat,
          Option.elim_some, Param.after_of_names libc _ line v hread (hname.trans hkept.symm),
          Param.set_afterAll, entry.after_of_names libc line v hread hname]
      · rw [List.filter_singleton, decide_eq_false h, cond_false, List.append_nil,
          Param.after_of_not_names libc _ line
            (by rw [Param.paramName_afterAll]; exact h), ih]
        rfl

/-- A line with no `=`, or with one and more than spaces on both sides of it. -/
inductive PlainLine : CString → Prop
  | noValue {line : CString} (h : '=' ∉ line) : PlainLine line
  | value {name text : CString} (hname : '=' ∉ name) (htext : '=' ∉ text)
      (hnamed : trim name ≠ []) (hgiven : trim text ≠ []) : PlainLine (name ++ '=' :: text)

theorem trimSpace_of_trim {s : CString} (h : trim s ≠ []) : trimSpace s = trim s := by
  rw [trimSpace, if_neg]
  · rfl
  · intro hall
    apply h
    rw [trim, List.dropWhile_eq_nil_iff.mpr (List.all_eq_true.mp hall)]
    rfl

theorem ne_nil_of_trim {s : CString} (h : trim s ≠ []) : s ≠ [] := by
  rintro rfl
  exact h rfl

theorem operands_of_plainLine {line : CString} (h : PlainLine line) :
    operands line = assignment line := by
  cases h with
  | noValue h =>
      have hall : ∀ c ∈ line, (fun c => !decide (c = '=')) c = true := by
        intro c hc
        have hne : c ≠ '=' := fun heq => h (heq ▸ hc)
        simp [hne]
      have hnone : assignment line = none := by
        simp [assignment, List.dropWhile_eq_nil_iff.mpr hall, trim]
      rw [hnone, operands]
      rcases line with _ | ⟨c, line⟩
      · rfl
      · rw [strtok_of_not_mem (List.cons_ne_nil c line) h]
        rfl
  | @value name text hname htext hnamed hgiven =>
      have hall : ∀ c ∈ name, (fun c => !decide (c = '=')) c = true := by
        intro c hc
        have hne : c ≠ '=' := fun heq => hname (heq ▸ hc)
        simp [hne]
      have hbefore : (name ++ '=' :: text).takeWhile (fun c => !decide (c = '=')) = name := by
        simp [List.takeWhile_append_of_pos hall]
      have hbehind : ((name ++ '=' :: text).dropWhile fun c => !decide (c = '=')).tail = text := by
        simp [List.dropWhile_append_of_pos hall]
      rw [operands, strtok_append_cons (ne_nil_of_trim hnamed) hname, Option.bind_some,
        strtok_of_not_mem (ne_nil_of_trim hgiven) htext, Option.map_some,
        trimSpace_of_trim hnamed, trimSpace_of_trim hgiven, assignment, hbefore, hbehind,
        if_pos ⟨hnamed, hgiven⟩]

/-- The storage takes the whole value. -/
def Fits (old : ParamValue δ) (text : CString) : Prop :=
  match old with
  | .s _ => text.length ≤ 80
  | .n _ => True
  | .f _ => hexDigits text = none

theorem kept_of_fits (libc : Libc δ) {old : ParamValue δ} {text : CString}
    (h : Fits old text) : kept libc old text = denoted libc old text := by
  cases old with
  | n value => rfl
  | s value => rw [kept, denoted, List.take_of_length_le h]
  | f value =>
      have hdec : hexDigits text = none := h
      simp [kept, hdec]

theorem lastGiven_of_plain (libc : Libc δ) {taken confLines : List CString} {entry : Param δ}
    (hsub : ∀ line ∈ taken, line ∈ confLines) (hplain : ∀ line ∈ taken, PlainLine line)
    (hfits : ∀ line ∈ taken, ∀ value, assignment line = some (entry.paramName, value) →
      Fits entry.value value) : LastGiven libc taken confLines entry := by
  intro line text hlast hoperands
  have hmem := (List.mem_filter.mp (List.mem_of_getLast? hlast)).1
  rw [operands_of_plainLine (hplain line hmem)] at hoperands
  exact ⟨line, hsub line hmem, text, hoperands,
    kept_of_fits libc (hfits line hmem text hoperands)⟩

end LibraDevice.LocCfg
