import Mathlib.Data.List.Forall2
import LibraDevice.LocCfg.LineValue

/-!
When a configuration text reaches every entry of the table.
-/

namespace LibraDevice.LocCfg

open Countdown
open TextLines
open Xml (CString atoi)

variable {δ : Type*}

/-- How the lines should leave an entry: with the value that a line gives it, or untouched and
marked as not set. -/
def Settled (libc : Libc δ) (confLines : List CString) (entry after : Param δ) : Prop :=
  (GivenBy confLines entry.paramName →
    ∃ given ∈ confLines, ∃ value, assignment given = some (entry.paramName, value) ∧
      after = ⟨entry.paramName, denoted libc entry.value value, 1⟩) ∧
  (¬ GivenBy confLines entry.paramName → after = ⟨entry.paramName, entry.value, 0⟩)

/-- Both readers apply the whole text. -/
structure Applied (libc : Libc δ) (text : CString) (table : List (Param δ)) : Prop where
  settled : List.Forall₂ (Settled libc (lines '\n' text)) table
    (readConf libc text table).table
  readCounter : (readConf libc text table).NoWrap
  updateCounter : (updateConf libc text (clearSet table)).2.NoWrap
  sameEntries : List.Forall₂ (fun a b : Param δ => a.paramSet = b.paramSet)
    (readConf libc text table).table (updateConf libc text (clearSet table)).2.table
  result : (updateConf libc text (clearSet table)).1 =
    (updateConf libc text (clearSet table)).2.table.countP fun entry => entry.paramSet = 1

def linesRead (libc : Libc δ) (text : CString) (table : List (Param δ)) : List CString :=
  linesTaken libc (paramNames table) table.length (lines '\n' text)

def linesUpdated (libc : Libc δ) (text : CString) (table : List (Param δ)) : List CString :=
  linesTaken libc (paramNames table) (table.length - 1) (tokens '\n' text)

/-- The lines that the two readers take do not name more entries than their counters hold; they
name the parameters that the text gives a value, and leave them such a value; and those of the
second reader are as many as the parameters that they name. -/
structure Covered (libc : Libc δ) (text : CString) (table : List (Param δ)) : Prop where
  nonempty : text ≠ []
  readTotal : total (matched libc (paramNames table)) (linesRead libc text table) ≤
    table.length
  updateTotal : total (matched libc (paramNames table)) (linesUpdated libc text table) ≤
    table.length - 1
  named : ∀ entry ∈ table, GivenBy (lines '\n' text) entry.paramName ↔
    NamedBy libc (linesRead libc text table) entry.paramName
  values : ∀ entry ∈ table, LastGiven libc (linesRead libc text table) (lines '\n' text) entry
  updated : ∀ entry ∈ table, NamedBy libc (linesRead libc text table) entry.paramName ↔
    NamedBy libc (linesUpdated libc text table) entry.paramName
  result : (linesUpdated libc text table).length =
    table.countP fun entry => NamedBy libc (linesUpdated libc text table) entry.paramName

theorem applyLines_clearSet (libc : Libc δ) (confLines : List CString)
    (table : List (Param δ)) :
    applyLines libc confLines (clearSet table) =
      table.map fun entry => entry.cleared.afterAll libc confLines := by
  simp [applyLines, clearSet, Function.comp_def]

theorem paramSet_afterAll (libc : Libc δ) (confLines : List CString) (entry : Param δ) :
    (entry.cleared.afterAll libc confLines).paramSet =
      if NamedBy libc confLines entry.paramName then 1 else 0 := by
  by_cases h : NamedBy libc confLines entry.paramName
  · obtain ⟨line, _, v, _, _, hfold⟩ :=
      Param.afterAll_of_named libc confLines entry.cleared h
    rw [hfold, if_pos h]
    rfl
  · rw [Param.afterAll_of_not_named libc confLines entry.cleared h, if_neg h]
    rfl

/-- Taken lines settle an entry when they name it as the text does, and the last one leaves it a
value that the text gives it. -/
theorem settled_afterAll_iff (libc : Libc δ) (taken confLines : List CString)
    (entry : Param δ) :
    Settled libc confLines entry (entry.cleared.afterAll libc taken) ↔
      (GivenBy confLines entry.paramName ↔ NamedBy libc taken entry.paramName) ∧
        LastGiven libc taken confLines entry := by
  rw [Param.afterAll_eq]
  change Settled _ _ _ ((lastNaming libc entry.paramName taken).elim _ _) ↔ _
  rcases hlast : lastNaming libc entry.paramName taken with _ | line
  · have hnot := (lastNaming_eq_none_iff libc entry.paramName taken).mp hlast
    constructor
    · rintro ⟨hset, -⟩
      refine ⟨iff_of_false (fun hgiven => ?_) hnot, fun line text hline => ?_⟩
      · obtain ⟨given, -, value, -, hafter⟩ := hset hgiven
        have hmark : (0 : UInt8) = 1 := congrArg Param.paramSet hafter
        exact absurd hmark (by decide)
      · rw [hlast] at hline
        cases hline
    · rintro ⟨hnamed, -⟩
      exact ⟨fun hgiven => absurd (hnamed.mp hgiven) hnot, fun _ => rfl⟩
  · have hmem := List.mem_filter.mp (List.mem_of_getLast? hlast)
    obtain ⟨text, hoperands⟩ :=
      (names_iff libc entry.paramName line).mp (of_decide_eq_true hmem.2)
    have hnamed : NamedBy libc taken entry.paramName :=
      ⟨line, hmem.1, of_decide_eq_true hmem.2⟩
    rw [Option.elim_some, entry.cleared.after_of_operands libc hoperands]
    constructor
    · rintro ⟨hset, hkeep⟩
      have hgiven : GivenBy confLines entry.paramName := by
        by_contra hnot
        have hmark : (1 : UInt8) = 0 := congrArg Param.paramSet (hkeep hnot)
        exact absurd hmark (by decide)
      refine ⟨iff_of_true hgiven hnamed, fun line' text' hline' htext' => ?_⟩
      obtain ⟨given, hin, value, hvalue, hafter⟩ := hset hgiven
      rw [hlast] at hline'
      cases hline'
      rw [hoperands] at htext'
      cases htext'
      exact ⟨given, hin, value, hvalue, congrArg Param.value hafter⟩
    · rintro ⟨hiff, hvalues⟩
      refine ⟨fun _ => ?_, fun hnot => absurd (hiff.mpr hnamed) hnot⟩
      obtain ⟨given, hin, value, hvalue, hkept⟩ := hvalues line text hlast hoperands
      refine ⟨given, hin, value, hvalue, ?_⟩
      rw [← hkept]
      rfl

theorem fgetsLines_eq (text : CString)
    (hshort : ∀ line ∈ lines '\n' text, line.length < maxParamLine) :
    fgetsLines text = lines '\n' text := by
  have hle : ∀ line ∈ lines '\n' text, line.length ≤ maxParamLine - 1 :=
    fun line hline => Nat.le_pred_of_lt (hshort line hline)
  exact fgets_eq_lines _ _ _ _ hle fun line hline => hle line (List.mem_of_mem_head? hline)

section

variable (libc : Libc δ) (text : CString) (table : List (Param δ))

theorem readConf_spec (hlen : table.length < 4294967296)
    (hshort : ∀ line ∈ lines '\n' text, line.length < maxParamLine) :
    ((readConf libc text table).NoWrap ↔
        total (matched libc (paramNames table)) (linesRead libc text table) ≤ table.length) ∧
      ((readConf libc text table).NoWrap →
        (readConf libc text table).table =
          table.map fun entry => entry.cleared.afterAll libc (linesRead libc text table)) := by
  have htoNat : (UInt32.ofNat table.length).toNat = table.length :=
    UInt32.toNat_ofNat_of_lt hlen
  rw [readConf, fgetsLines_eq text hshort, ← applyLines_clearSet]
  constructor
  · rw [confLoop_noWrap_iff, paramNames_clearSet, htoNat]
    rfl
  · intro hwrap
    rw [(confLoop_eq libc _ _ _ hwrap).1, paramNames_clearSet, htoNat]
    rfl

theorem updateConf_spec (hpos : table ≠ []) (hlen : table.length < 4294967296)
    (htext : text ≠ []) :
    ((updateConf libc text (clearSet table)).2.NoWrap ↔
        total (matched libc (paramNames table)) (linesUpdated libc text table) ≤
          table.length - 1) ∧
      ((updateConf libc text (clearSet table)).2.NoWrap →
        (updateConf libc text (clearSet table)).2.table =
            table.map (fun entry => entry.cleared.afterAll libc (linesUpdated libc text table)) ∧
          (updateConf libc text (clearSet table)).1 = (linesUpdated libc text table).length) := by
  have hsome : text.length ≠ 0 ∧ (clearSet table).length ≠ 0 := by
    simpa using ⟨htext, hpos⟩
  have htoNat : (UInt32.ofNat table.length - 1).toNat = table.length - 1 := by
    have hlength : (UInt32.ofNat table.length).toNat = table.length :=
      UInt32.toNat_ofNat_of_lt hlen
    have hone : 1 ≤ (UInt32.ofNat table.length).toNat := by
      rw [hlength]
      exact List.length_pos_of_ne_nil hpos
    have hsub := toNat_sub_ofNat hone
    rw [hlength] at hsub
    exact hsub
  rw [updateConf, if_pos hsome, length_clearSet, ← applyLines_clearSet]
  constructor
  · rw [confLoop_noWrap_iff, paramNames_clearSet, htoNat]
    rfl
  · intro hwrap
    have heq := confLoop_eq libc _ _ _ hwrap
    rw [paramNames_clearSet, htoNat] at heq
    exact ⟨heq.1, congrArg Nat.cast heq.2⟩

theorem countP_paramSet (confLines : List CString) :
    ((table.map fun entry => entry.cleared.afterAll libc confLines).countP
      fun entry => entry.paramSet = 1) =
      table.countP fun entry => NamedBy libc confLines entry.paramName := by
  rw [List.countP_map]
  apply List.countP_congr
  intro entry _
  simp only [Function.comp_apply, decide_eq_true_eq]
  rw [paramSet_afterAll]
  split_ifs with h
  · simp [h]
  · simp [h]

theorem sameEntries_iff (first second : List CString) :
    List.Forall₂ (fun a b : Param δ => a.paramSet = b.paramSet)
        (table.map fun entry => entry.cleared.afterAll libc first)
        (table.map fun entry => entry.cleared.afterAll libc second) ↔
      ∀ entry ∈ table, NamedBy libc first entry.paramName ↔
        NamedBy libc second entry.paramName := by
  rw [List.forall₂_map_left_iff, List.forall₂_map_right_iff, List.forall₂_same]
  refine forall₂_congr fun entry _ => ?_
  rw [paramSet_afterAll, paramSet_afterAll]
  split_ifs with h₁ h₂ h₂ <;> simp [h₁, h₂]

theorem settled_iff (taken confLines : List CString) :
    List.Forall₂ (Settled libc confLines) table
        (table.map fun entry => entry.cleared.afterAll libc taken) ↔
      (∀ entry ∈ table, GivenBy confLines entry.paramName ↔
        NamedBy libc taken entry.paramName) ∧
        ∀ entry ∈ table, LastGiven libc taken confLines entry := by
  rw [List.forall₂_map_right_iff, List.forall₂_same, ← forall₂_and]
  exact forall₂_congr fun entry _ => settled_afterAll_iff libc taken confLines entry

theorem updateConf_nil : updateConf libc [] (clearSet table) = (-1, ⟨clearSet table, []⟩) := rfl

end

/-- The two readers apply a text exactly when their counters let them see what it names. -/
theorem applied_iff (libc : Libc δ) (text : CString) (table : List (Param δ))
    (hpos : table ≠ []) (hlen : table.length < 4294967296)
    (hshort : ∀ line ∈ lines '\n' text, line.length < maxParamLine) :
    Applied libc text table ↔ Covered libc text table := by
  have hread := readConf_spec libc text table hlen hshort
  constructor
  · rintro ⟨hsettled, hreadCounter, hupdateCounter, hsame, hresult⟩
    have htext : text ≠ [] := by
      rintro rfl
      rw [updateConf_nil] at hresult
      exact absurd hresult (by simp)
    have hupdate := updateConf_spec libc text table hpos hlen htext
    obtain ⟨htable, hreturned⟩ := hupdate.2 hupdateCounter
    rw [hread.2 hreadCounter] at hsettled hsame
    rw [htable] at hsame hresult
    rw [hreturned, countP_paramSet] at hresult
    obtain ⟨hnamed, hvalues⟩ := (settled_iff libc table _ _).mp hsettled
    exact ⟨htext, hread.1.mp hreadCounter, hupdate.1.mp hupdateCounter, hnamed, hvalues,
      (sameEntries_iff libc table _ _).mp hsame, Int.ofNat.inj hresult⟩
  · rintro ⟨htext, hreadTotal, hupdateTotal, hnamed, hvalues, hupdated, hresult⟩
    have hupdate := updateConf_spec libc text table hpos hlen htext
    have hreadCounter := hread.1.mpr hreadTotal
    have hupdateCounter := hupdate.1.mpr hupdateTotal
    obtain ⟨htable, hreturned⟩ := hupdate.2 hupdateCounter
    refine ⟨?_, hreadCounter, hupdateCounter, ?_, ?_⟩
    · rw [hread.2 hreadCounter]
      exact (settled_iff libc table _ _).mpr ⟨hnamed, hvalues⟩
    · rw [hread.2 hreadCounter, htable]
      exact (sameEntries_iff libc table _ _).mpr hupdated
    · rw [hreturned, htable, countP_paramSet]
      exact congrArg Nat.cast hresult

/-- Texts of decimal integers. -/
def decimal : Libc Int where
  strtolHex := fun _ => 0
  atof := atoi
  atoi := atoi
  zero := 0

def switches : List (Param Int) :=
  [⟨['A'], .n 7, 0⟩, ⟨['B'], .n 7, 0⟩]

theorem applied_one_line : Applied decimal ['A', '=', '1', '\n'] switches := by
  refine (applied_iff decimal ['A', '=', '1', '\n'] switches (by decide) (by decide)
    (by decide)).mpr
    ⟨by decide, by decide, by decide, by decide, ?_, by decide, by decide⟩
  intro entry hentry
  have hline : linesRead decimal ['A', '=', '1', '\n'] switches = [['A', '=', '1', '\n']] := by
    decide
  rw [hline]
  apply lastGiven_of_plain
  · decide
  · intro line hmem
    cases List.mem_singleton.mp hmem
    exact @PlainLine.value ['A'] ['1', '\n'] (by decide) (by decide) (by decide) (by decide)
  · intro line _ value _
    rcases List.mem_pair.mp hentry with rfl | rfl
    · trivial
    · trivial

/-- A repeated line uses up the counter, and the line behind it is not read. -/
theorem repeated_line_not_applied :
    ¬ Applied decimal ['A', '=', '1', '\n', 'A', '=', '2', '\n', 'B', '=', '3', '\n']
      switches := by
  intro h
  have hread : (readConf decimal ['A', '=', '1', '\n', 'A', '=', '2', '\n', 'B', '=', '3', '\n']
      switches).table = [⟨['A'], .n 2, 1⟩, ⟨['B'], .n 7, 0⟩] := by
    decide
  have hsettled := h.settled
  rw [hread, switches, List.forall₂_cons, List.forall₂_cons] at hsettled
  have hgiven : GivenBy
      (lines '\n' ['A', '=', '1', '\n', 'A', '=', '2', '\n', 'B', '=', '3', '\n']) ['B'] := by
    decide
  obtain ⟨line, _, value, _, hset⟩ := hsettled.2.1.1 hgiven
  have hmark : (0 : UInt8) = 1 := congrArg Param.paramSet hset
  exact absurd hmark (by decide)

end LibraDevice.LocCfg
