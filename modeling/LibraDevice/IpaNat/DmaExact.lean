import LibraDevice.IpaNat.DmaOffset
import LibraDevice.IpaNat.RuleStore
import Mathlib.Data.List.Forall2

/-!
When the DMA commands go to the fields they are for: no offset may exceed the variable it is
computed in, and rules of the base table need a table that starts at offset zero.
-/

namespace LibraDevice.IpaNat

open StepRun Ip4TableCache

/-- A command for the field, whose offset has gone through a variable that keeps `cut` of it. -/
structure CutTo (cut : Nat → Nat) (c : Ip4TableCache) (cmd : NatDmaOne) (f : DmaField) :
    Prop where
  table : cmd.baseAddr = f.table
  offset : cmd.offset = cut (f.offset c)

theorem u16_eq_iff (n : Nat) : u16 n = n ↔ n < 65536 := by
  rw [u16]
  omega

theorem u32_eq_iff (n : Nat) : u32 n = n ↔ n < 4294967296 := by
  rw [u32]
  omega

section

variable {c : Ip4TableCache}

theorem CutTo.addresses_iff {cut : Nat → Nat} {cmd : NatDmaOne} {f : DmaField}
    (h : CutTo cut c cmd f) : Addresses c cmd f ↔ cut (f.offset c) = f.offset c := by
  rw [Addresses, h.offset]
  exact and_iff_right h.table

theorem forall₂_addresses_iff {cmds : List NatDmaOne} {fields : List DmaField}
    (h : List.Forall₂ (CutTo u32 c) cmds fields) :
    List.Forall₂ (Addresses c) cmds fields ↔ ∀ f ∈ fields, f.offset c < 4294967296 := by
  induction h with
  | nil => exact iff_of_true .nil (List.forall_mem_nil _)
  | cons hcut _ ih =>
      rw [List.forall₂_cons, List.forall_mem_cons, ih, hcut.addresses_iff, u32_eq_iff]

theorem forall₂_append_iff {α β : Type} {R : α → β → Prop} {xs xs' : List α} {ys ys' : List β}
    (hlen : xs.length = ys.length) :
    List.Forall₂ R (xs ++ xs') (ys ++ ys') ↔ List.Forall₂ R xs ys ∧ List.Forall₂ R xs' ys' := by
  induction xs generalizing ys with
  | nil =>
      cases ys with
      | nil => exact (and_iff_right .nil).symm
      | cons y ys => exact absurd hlen (by simp)
  | cons x xs ih =>
      cases ys with
      | nil => exact absurd hlen (by simp)
      | cons y ys =>
          rw [List.cons_append, List.cons_append, List.forall₂_cons, List.forall₂_cons,
            ih (Nat.succ.inj hlen), and_assoc]

theorem entryOffset_cut (c : Ip4TableCache) (k off : Nat) :
    u32 (getEntryOffset c k + off) = u32 (c.tblAddrOffset + k * tableEntrySize + off) := by
  rw [getEntryOffset, u32, u32, u32, tableEntrySize]
  omega

theorem indexEntryOffset_cut (c : Ip4TableCache) (k off : Nat) :
    u32 (getIndexEntryOffset c k + off) =
      u32 (c.tblAddrOffset + k * indexTableEntrySize + off) := by
  rw [getIndexEntryOffset, u32, u32, u32, indexTableEntrySize]
  omega

theorem indexEntryOffset_cut_u16 (c : Ip4TableCache) (k off : Nat) :
    u16 (u16 (getIndexEntryOffset c k) + off) =
      u16 (c.tblAddrOffset + k * indexTableEntrySize + off) := by
  rw [getIndexEntryOffset, u16, u16, u16, u32, indexTableEntrySize]
  omega

theorem ruleNextCmd_cut (c : Ip4TableCache) (prevEntry data : Nat) :
    CutTo u32 c (ruleNextCmd c prevEntry data) (ruleField c prevEntry ruleNextFieldOffset) := by
  rw [ruleNextCmd, ruleField]
  split <;> exact ⟨rfl, entryOffset_cut ..⟩

theorem indexNextCmd_cut (c : Ip4TableCache) (prevEntry data : Nat) :
    CutTo u32 c (indexNextCmd c prevEntry data)
      (indexField c prevEntry indexRuleNextFieldOffset) := by
  rw [indexNextCmd, indexField]
  split <;> exact ⟨rfl, indexEntryOffset_cut ..⟩

theorem delRuleCmd_cut (c : Ip4TableCache) (expnTbl : Bool) (tblEntry : Nat) (pos : DelType) :
    CutTo u32 c (delRuleCmd c expnTbl tblEntry pos) (delRuleField c expnTbl tblEntry pos) := by
  cases pos with
  | onlyOne => exact ⟨rfl, entryOffset_cut ..⟩
  | head => exact ⟨rfl, entryOffset_cut ..⟩
  | middle => exact ruleNextCmd_cut ..
  | last => exact ruleNextCmd_cut ..

theorem delIndexCmds_cut (c : Ip4TableCache) (expnTbl : Bool) (indxTblEntry : Nat)
    (pos : DelType) :
    List.Forall₂ (CutTo u32 c) (delIndexCmds c expnTbl indxTblEntry pos)
      (delIndexFields c indxTblEntry pos) := by
  cases pos with
  | onlyOne => exact .cons ⟨rfl, indexEntryOffset_cut ..⟩ .nil
  | head =>
      exact .cons ⟨rfl, indexEntryOffset_cut ..⟩ (.cons ⟨rfl, indexEntryOffset_cut ..⟩ .nil)
  | middle => exact .cons (indexNextCmd_cut ..) .nil
  | last => exact .cons (indexNextCmd_cut ..) .nil

theorem delCmds_cut (c : Ip4TableCache) (expnTbl : Bool) (tblEntry : Nat) :
    List.Forall₂ (CutTo u32 c) (delCmds c expnTbl tblEntry) (delFields c expnTbl tblEntry) :=
  .cons (delRuleCmd_cut ..) (delIndexCmds_cut ..)

theorem ruleLinkCmds_exact_iff (c : Ip4TableCache) (prevIndex entry : Nat) :
    List.Forall₂ (Addresses c) (ruleLinkCmds c prevIndex entry)
        (if prevIndex = 0 then [] else [ruleField c prevIndex ruleNextFieldOffset]) ↔
      (prevIndex ≠ 0 → (ruleField c prevIndex ruleNextFieldOffset).offset c < 4294967296) := by
  rw [ruleLinkCmds]
  split
  · rename_i hzero
    exact iff_of_true .nil fun h => absurd hzero h
  · rename_i hne
    rw [forall₂_addresses_iff (.cons (ruleNextCmd_cut ..) .nil), List.forall_mem_singleton,
      imp_iff_right hne]

theorem indexLinkCmds_exact_iff (c : Ip4TableCache) (prevIndex entry : Nat) :
    List.Forall₂ (Addresses c) (indexLinkCmds c prevIndex entry)
        (if prevIndex = 0 then [] else [indexField c prevIndex indexRuleNextFieldOffset]) ↔
      (prevIndex ≠ 0 → (indexField c prevIndex indexRuleNextFieldOffset).offset c < 65536) := by
  by_cases hzero : prevIndex = 0
  · rw [indexLinkCmds, if_pos hzero, if_pos hzero]
    exact iff_of_true .nil fun h => absurd hzero h
  · have hcut : ∃ cmd, indexLinkCmds c prevIndex entry = [cmd] ∧
        CutTo u16 c cmd (indexField c prevIndex indexRuleNextFieldOffset) := by
      rw [indexLinkCmds, if_neg hzero, indexField]
      split <;> exact ⟨_, rfl, rfl, indexEntryOffset_cut_u16 ..⟩
    obtain ⟨cmd, hcmd, hcut⟩ := hcut
    rw [hcmd, if_neg hzero, List.forall₂_cons, hcut.addresses_iff, u16_eq_iff, imp_iff_right hzero]
    exact and_iff_left .nil

theorem enableCmd_exact_iff (c : Ip4TableCache) (entry : Nat) :
    Addresses c (enableCmd c entry) (ruleField c entry ruleFlagFieldOffset) ↔
      (ruleField c entry ruleFlagFieldOffset).offset c < 4294967296 ∧
        (entry < c.tableEntries → c.tblAddrOffset = 0) := by
  by_cases hbase : entry < c.tableEntries
  · rw [enableCmd, if_pos hbase, ruleField, if_neg (Nat.not_le.mpr hbase), imp_iff_right hbase]
    change NatTableType.baseTbl = .baseTbl ∧ u32 (32 * entry + 18) =
      c.tblAddrOffset + entry * 32 + 18 ↔ c.tblAddrOffset + entry * 32 + 18 < 4294967296 ∧ _
    rw [u32, and_iff_right rfl]
    omega
  · rw [enableCmd, if_neg hbase, ruleField, if_pos (Nat.le_of_not_lt hbase)]
    change NatTableType.expnTbl = .expnTbl ∧ u32 (32 * subU16 entry c.tableEntries + 18 +
      c.tblAddrOffset) = c.tblAddrOffset + subU16 entry c.tableEntries * 32 + 18 ↔
        c.tblAddrOffset + subU16 entry c.tableEntries * 32 + 18 < 4294967296 ∧ _
    rw [u32, and_iff_right rfl]
    omega

/-- What the commands of an addition need. -/
structure AddFits (c : Ip4TableCache) (gen : GeneratedRule) : Prop where
  ruleLink : gen.rule.prevIndex ≠ 0 →
    (ruleField c gen.rule.prevIndex ruleNextFieldOffset).offset c < 4294967296
  indexLink : gen.indexSwRule.prevIndex ≠ 0 →
    (indexField c gen.indexSwRule.prevIndex indexRuleNextFieldOffset).offset c < 65536
  flag : (ruleField c gen.tblEntry ruleFlagFieldOffset).offset c < 4294967296
  base : gen.tblEntry < c.tableEntries → c.tblAddrOffset = 0

theorem addCmds_exact_iff (c : Ip4TableCache) (gen : GeneratedRule) :
    List.Forall₂ (Addresses c) (addCmds c gen) (addFields c gen) ↔ AddFits c gen := by
  have hlen : (ruleLinkCmds c gen.rule.prevIndex gen.tblEntry).length =
      (if gen.rule.prevIndex = 0 then []
        else [ruleField c gen.rule.prevIndex ruleNextFieldOffset]).length := by
    rw [ruleLinkCmds]
    split <;> rfl
  have hlen' : (indexLinkCmds c gen.indexSwRule.prevIndex gen.indxTblEntry).length =
      (if gen.indexSwRule.prevIndex = 0 then []
        else [indexField c gen.indexSwRule.prevIndex indexRuleNextFieldOffset]).length := by
    rw [indexLinkCmds]
    split
    · rfl
    · split <;> rfl
  rw [addCmds, addFields, forall₂_append_iff (by rw [List.length_append, List.length_append, hlen,
    hlen']), forall₂_append_iff hlen, ruleLinkCmds_exact_iff, indexLinkCmds_exact_iff,
    List.forall₂_cons, enableCmd_exact_iff]
  constructor
  · rintro ⟨⟨hrule, hindex⟩, ⟨hflag, hbase⟩, -⟩
    exact ⟨hrule, hindex, hflag, hbase⟩
  · rintro ⟨hrule, hindex, hflag, hbase⟩
    exact ⟨⟨hrule, hindex⟩, ⟨hflag, hbase⟩, .nil⟩

theorem AddFits.sameField {gen : GeneratedRule} (h : AddFits c gen)
    (hbase : gen.tblEntry < c.tableEntries) :
    SameField (enableCmd c gen.tblEntry) (delRuleCmd c false gen.tblEntry .onlyOne) := by
  obtain ⟨htable, hoffset⟩ := (enableCmd_exact_iff c gen.tblEntry).mpr ⟨h.flag, h.base⟩
  have hflag := h.flag
  have hcut := delRuleCmd_cut c false gen.tblEntry .onlyOne
  rw [ruleField, if_neg (Nat.not_le.mpr hbase)] at htable hoffset hflag
  refine ⟨htable.trans hcut.table.symm, hoffset.trans ?_⟩
  rw [hcut.offset]
  exact (u32_of_lt hflag).symm

/-- The commands of the request go to the fields they are for, and a base entry is enabled at
the field at which it will be disabled. -/
def CommandsExact (c : Ip4TableCache) : NatRequest → Prop
  | .add _ clntRule => ∀ gen c₁, generateRule c clntRule = some (some (gen, c₁)) →
      List.Forall₂ (Addresses c) (addCmds c gen) (addFields c gen) ∧
        (gen.tblEntry < c.tableEntries →
          SameField (enableCmd c gen.tblEntry) (delRuleCmd c false gen.tblEntry .onlyOne))
  | .del _ ruleHdl => ∀ e ∈ deletedEntry c ruleHdl.toNat,
      List.Forall₂ (Addresses c) (delCmds c e.1 e.2) (delFields c e.1 e.2)

/-- The offsets of the request fit in their variables, and no rule goes to the base part of a
table that starts elsewhere than at zero. -/
def OffsetsFit (c : Ip4TableCache) : NatRequest → Prop
  | .add _ clntRule => ∀ gen c₁, generateRule c clntRule = some (some (gen, c₁)) → AddFits c gen
  | .del _ ruleHdl => ∀ e ∈ deletedEntry c ruleHdl.toNat,
      ∀ f ∈ delFields c e.1 e.2, f.offset c < 4294967296

theorem commandsExact_iff (c : Ip4TableCache) (req : NatRequest) :
    CommandsExact c req ↔ OffsetsFit c req := by
  cases req with
  | add dma clntRule =>
      refine forall₂_congr fun gen c₁ => imp_congr_right fun _ => ?_
      rw [addCmds_exact_iff]
      exact and_iff_left_of_imp fun h => h.sameField
  | del ok ruleHdl =>
      refine forall₂_congr fun e _ => ?_
      exact forall₂_addresses_iff (delCmds_cut c e.1 e.2)

end

section

variable {c : Ip4TableCache} {home rank ihome irank : Nat → Nat}

theorem Dims.ruleField_lt (hd : Dims c) {e off : Nat} (he : e < c.total) (hoff : off < 32) :
    (ruleField c e off).offset c < 4294967296 := by
  have hle := hd.total_le
  rw [ruleField]
  split
  · rename_i hexpn
    rw [hd.subU16_base hexpn he]
    change c.tblAddrOffset + (e - c.tableEntries) * 32 + off < _
    rw [hd.offset]
    omega
  · change c.tblAddrOffset + e * 32 + off < _
    rw [hd.offset]
    omega

theorem Dims.indexField_lt (hd : Dims c) {i off : Nat} (hi : i < c.total) (hoff : off < 4) :
    (indexField c i off).offset c < 65536 := by
  have hbase := hd.base_le
  have hexpnle := hd.expn_le
  rw [indexField]
  split
  · rename_i hexpn
    rw [hd.subU16_base hexpn hi]
    change c.tblAddrOffset + (i - c.tableEntries) * 4 + off < _
    rw [total] at hi
    rw [hd.offset]
    omega
  · change c.tblAddrOffset + i * 4 + off < _
    rw [hd.offset]
    omega

theorem LinkInv.addFits (h : LinkInv c home rank ihome irank) {clntRule : Ipv4Rule}
    {gen : GeneratedRule} {c₁ : Ip4TableCache}
    (hgen : generateRule c clntRule = some (some (gen, c₁))) : AddFits c gen := by
  obtain ⟨p, e, hdst, -, hfresh⟩ := generateTblRule_spec h clntRule
  obtain ⟨ip, i, hsrc, -, hifresh⟩ := generateIndexRule_spec h clntRule
  simp only [generateRule, hdst, hsrc, Option.bind_eq_bind, Option.bind_some] at hgen
  split at hgen
  · exact absurd (Option.some.inj hgen) (by simp)
  · rename_i he
    split at hgen
    · exact absurd (Option.some.inj hgen) (by simp)
    · rename_i hi
      obtain ⟨rfl, -⟩ := Prod.mk.inj (Option.some.inj (Option.some.inj hgen))
      refine ⟨fun hp => ?_, fun hip => ?_, ?_, fun _ => h.dims.offset⟩
      · rcases hfresh he with ⟨hp0, -, -⟩ | ⟨-, hocc, -⟩
        · exact absurd hp0 hp
        · exact h.dims.ruleField_lt hocc.1 (by decide)
      · rcases hifresh hi with ⟨hip0, -, -⟩ | ⟨-, hocc, -⟩
        · exact absurd hip0 hip
        · exact h.dims.indexField_lt hocc.1 (by decide)
      · exact h.dims.ruleField_lt
          ((hfresh he).lt_total (lt_total (h.dims.dstSlot_mem clntRule).2)) (by decide)

theorem LinkInv.delFields_fit (h : LinkInv c home rank ihome irank) {e : Nat} (he : Live c e) :
    ∀ f ∈ delFields c (entryOf c e).1 (entryOf c e).2, f.offset c < 4294967296 := by
  obtain ⟨hio, -⟩ := h.index_of_rule e he
  generalize hi : (c.slot e).indxTblEntry = i at hio
  have hrule : ∀ off, off < 32 → (ruleField c e off).offset c < 4294967296 :=
    fun off hoff => h.dims.ruleField_lt he.1.1 hoff
  have hindex : ∀ off, off < 4 → (indexField c i off).offset c < 4294967296 :=
    fun off hoff => Nat.lt_trans (h.dims.indexField_lt hio.1 hoff) (by decide)
  have hof : indexOf c (entryOf c e).1 (entryOf c e).2 =
      ((entryOf c i).1, (entryOf c i).2, findIndexRulePos c i) := by
    rw [indexOf, rules_entryOf, hi]
    by_cases hexpn : c.tableEntries ≤ i
    · rw [if_pos hexpn, entryOf_of_le hexpn, h.dims.subU16_base hexpn hio.1]
    · rw [if_neg hexpn, entryOf_of_lt (Nat.lt_of_not_le hexpn)]
  rw [delFields, hof, List.forall_mem_cons]
  constructor
  · rw [findRulePos_entryOf]
    split
    · rename_i hbase
      have hfield : ∀ off, ruleField c e off = ⟨.baseTbl, e, off⟩ :=
        fun off => if_neg (Nat.not_le.mpr hbase)
      rw [entryOf_of_lt hbase]
      split
      · rw [delRuleField, ← hfield]
        exact hrule _ (by decide)
      · rw [delRuleField, ← hfield]
        exact hrule _ (by decide)
    · rename_i hexpn
      have hprev := (h.rules.prev_link he.1 (Nat.le_of_not_lt hexpn)).1.1
      split
      · rw [delRuleField, rules_entryOf]
        exact h.dims.ruleField_lt hprev (by decide)
      · rw [delRuleField, rules_entryOf]
        exact h.dims.ruleField_lt hprev (by decide)
  · rw [findIndexRulePos_eq h.dims hio.1]
    split
    · rename_i hbase
      have hfield : ∀ off, indexField c i off = ⟨.indxTbl, i, off⟩ :=
        fun off => if_neg (Nat.not_le.mpr hbase)
      rw [entryOf_of_lt hbase]
      split
      · rw [delIndexFields, List.forall_mem_singleton, ← hfield]
        exact hindex _ (by decide)
      · rw [delIndexFields, List.forall_mem_cons, List.forall_mem_singleton, ← hfield, ← hfield]
        exact ⟨hindex _ (by decide), hindex _ (by decide)⟩
    · rename_i hexpn
      have hle := Nat.le_of_not_lt hexpn
      have hprev : (indexField c (c.indexPrev i) indexRuleNextFieldOffset).offset c <
          4294967296 :=
        Nat.lt_trans (h.dims.indexField_lt (h.index.prev_link hio hle).1.1 (by decide))
          (by decide)
      rw [entryOf_of_le hle]
      split
      · rw [delIndexFields, List.forall_mem_singleton]
        exact hprev
      · rw [delIndexFields, List.forall_mem_singleton]
        exact hprev

theorem TableInv.deletedEntry_live (h : TableInv c home rank ihome irank) {ruleHdl : Nat}
    (hgood : ruleHdl < 65536 ∨ (parseIpv4RuleHdl c (u16 ruleHdl)).2 = 0) {e : Bool × Nat}
    (he : deletedEntry c ruleHdl = some e) : ∃ x, Live c x ∧ e = entryOf c x := by
  have hparse : e = parseIpv4RuleHdl c (u16 ruleHdl) ∧ ruleHdl ≠ 0 ∧
      (parseIpv4RuleHdl c (u16 ruleHdl)).2 ≠ 0 := by
    rw [deletedEntry] at he
    dsimp only at he
    split at he
    · exact absurd he (by simp)
    · rename_i hor
      rw [not_or, not_or] at hor
      exact ⟨(Option.some.inj he).symm, hor.1, hor.2.1⟩
  obtain ⟨rfl, h0, hentry⟩ := hparse
  have hlt := hgood.resolve_right hentry
  obtain ⟨k, rfl⟩ := Nat.exists_eq_succ_of_ne_zero h0
  rw [u16_of_lt hlt] at hentry ⊢
  have hk : k + 1 < c.total := by
    refine Nat.lt_of_not_le fun hle => hentry ?_
    rw [parseIpv4RuleHdl, if_pos (by exact hle)]
  have hne : c.ruleIdArray k ≠ 0 := by
    intro hz
    refine hentry ?_
    rw [parseIpv4RuleHdl, if_neg (by exact Nat.not_le.mpr hk), cast_succ_sub_one, hz]
  obtain ⟨x, hx, hid⟩ := h.id_live k (by omega) hne
  exact ⟨x, hx, parseIpv4RuleHdl_eq hk hid⟩

end

def RequestStep (c : Ip4TableCache) (req : NatRequest) (c' : Ip4TableCache) : Prop :=
  ∃ res, reply c req = some (res, c')

/-- A table as `ipa_nati_add_ipv4_tbl` leaves it, with the offset that the kernel gave it. -/
def createdTable (publicAddr : UInt32) (tableEntries expnTableEntries : UInt16)
    (offset : UInt32) (outside : Int → Nat) : Ip4TableCache :=
  { freshTable publicAddr tableEntries.toNat expnTableEntries.toNat outside with
    tblAddrOffset := offset.toNat }

/-- All commands of a run are exact when the offsets of all its requests fit, and only then. -/
theorem run_commandsExact_iff (c c' : Ip4TableCache) (reqs : List NatRequest) :
    Run (Guarded CommandsExact RequestStep) c reqs c' ↔
      Run (Guarded OffsetsFit RequestStep) c reqs c' :=
  Run.guarded_congr commandsExact_iff

/-- After a run of good requests, in a table that starts at offset zero and has at most 16384
entries of each kind, no request posts a wrong offset. -/
theorem commandsExact_of_run {publicAddr : UInt32} {tableEntries expnTableEntries : Nat}
    {outside : Int → Nat} {calls : List NatCall} {c : Ip4TableCache}
    (hN : 2 ≤ tableEntries ∧ tableEntries ≤ 16384)
    (hM : 2 ≤ expnTableEntries ∧ expnTableEntries ≤ 16384)
    (hrun : Run (Guarded GoodCall NatStep)
      (freshTable publicAddr tableEntries expnTableEntries outside) calls c) :
    (∀ dma clntRule, CommandsExact c (.add dma clntRule)) ∧
      ∀ ok ruleHdl, HandleFits c (.del ruleHdl) → CommandsExact c (.del ok ruleHdl) := by
  obtain ⟨_, _, _, _, h⟩ := storeInv_of_run hN hM hrun
  refine ⟨fun dma clntRule => ?_, fun ok ruleHdl hfits => ?_⟩
  · rw [commandsExact_iff]
    exact fun _ _ hgen => h.toLinkInv.addFits hgen
  · rw [commandsExact_iff]
    intro e he
    obtain ⟨x, hx, rfl⟩ := h.deletedEntry_live hfits he
    exact h.toLinkInv.delFields_fit hx

theorem commandsExact_tableAB : (∀ dma clntRule, CommandsExact tableAB (.add dma clntRule)) ∧
    ∀ ok ruleHdl, HandleFits tableAB (.del ruleHdl) → CommandsExact tableAB (.del ok ruleHdl) :=
  commandsExact_of_run ⟨by decide, by decide⟩ ⟨by decide, by decide⟩ run_tableAB

/-- The first rule of a table at offset 4096 is enabled at offset 50. -/
theorem enabled_below_table :
    ¬ ∀ publicAddr numberOfEntries tableEntries expnTableEntries outside r s mem s' reqs c',
      natiAllocTable numberOfEntries r s = (0, mem, tableEntries, expnTableEntries, s') →
      Run RequestStep (createdTable publicAddr tableEntries expnTableEntries mem.offset outside)
        reqs c' →
      Run (Guarded CommandsExact RequestStep)
        (createdTable publicAddr tableEntries expnTableEntries mem.offset outside) reqs c' := by
  intro h
  have hrun := h 1 1 2 2 (fun _ => 0) { addSucceeds with allocNatMem := (0, 4096) } .init _ _
    ([] ++ [.add .allOk ruleA]) _ rfl (Run.nil.snoc ⟨_, rfl⟩)
  obtain ⟨c, hnil, hexact, -⟩ := hrun.last
  rw [hnil.eq_of_nil] at hexact
  have hsame := (hexact _ _ rfl).2 (by decide)
  exact absurd hsame.2 (by decide)

end LibraDevice.IpaNat
