import LibraDevice.IpaNat.FailedAdd
import LibraDevice.IpaNat.Lifecycle

/-!
Where the DMA commands of additions and deletions go: the field each command is for, its offset
as a number of any size, and the offsets that the driver really posts.
-/

namespace LibraDevice.IpaNat

open StepRun Ip4TableCache

/-- A field of an entry in one of the four tables. -/
structure DmaField where
  table : NatTableType
  entry : Nat
  fieldOffset : Nat
deriving DecidableEq, Repr

def NatTableType.entrySize : NatTableType → Nat
  | .baseTbl => tableEntrySize
  | .expnTbl => tableEntrySize
  | .indxTbl => indexTableEntrySize
  | .indexExpnTbl => indexTableEntrySize

/-- `tbl_addr_offset + entry * entry_size + field_offset`. -/
def DmaField.offset (c : Ip4TableCache) (f : DmaField) : Nat :=
  c.tblAddrOffset + f.entry * f.table.entrySize + f.fieldOffset

/-- The command goes to the field. -/
def Addresses (c : Ip4TableCache) (cmd : NatDmaOne) (f : DmaField) : Prop :=
  cmd.baseAddr = f.table ∧ cmd.offset = f.offset c

/-- Two commands go to the same place. -/
def SameField (cmd cmd' : NatDmaOne) : Prop :=
  cmd.baseAddr = cmd'.baseAddr ∧ cmd.offset = cmd'.offset

/-- The field of a rule, which is in the expansion table from `table_entries` on. -/
def ruleField (c : Ip4TableCache) (entry fieldOffset : Nat) : DmaField :=
  if c.tableEntries ≤ entry then ⟨.expnTbl, subU16 entry c.tableEntries, fieldOffset⟩
  else ⟨.baseTbl, entry, fieldOffset⟩

def indexField (c : Ip4TableCache) (indxTblEntry fieldOffset : Nat) : DmaField :=
  if c.tableEntries ≤ indxTblEntry then
    ⟨.indexExpnTbl, subU16 indxTblEntry c.tableEntries, fieldOffset⟩
  else ⟨.indxTbl, indxTblEntry, fieldOffset⟩

/-- The software part of `ipa_nati_copy_ipv4_rule_to_hw`. -/
def storeRule (c : Ip4TableCache) (rule : NatRule) (entry : Nat) : Ip4TableCache :=
  if entry < c.tableEntries then c.setRules false (Function.update c.ipv4Rules entry rule)
  else c.setRules true (Function.update c.ipv4ExpnRules (subU16 entry c.tableEntries) rule)

/-- The software part of `ipa_nati_copy_ipv4_index_rule_to_hw`. -/
def storeIndexRule (c : Ip4TableCache) (indxSwRule : IndxTblSwRule) (entry : Nat) :
    Ip4TableCache :=
  let swRule : IndxTblRule :=
    { tblEntry := indxSwRule.tblEntry, nextIndex := indxSwRule.nextIndex }
  if entry < c.tableEntries then
    c.setIndexRules false (Function.update c.indexTable entry swRule)
  else c.setIndexRules true
    (Function.update c.indexTableExpn (subU16 entry c.tableEntries) swRule)

/-- The command that links a new rule to the one before it, if there is one. -/
def ruleLinkCmds (c : Ip4TableCache) (prevIndex entry : Nat) : List NatDmaOne :=
  if prevIndex = 0 then [] else [ruleNextCmd c prevIndex entry]

/-- The command that links a new index entry; its offset has gone through 16 bits. -/
def indexLinkCmds (c : Ip4TableCache) (prevIndex entry : Nat) : List NatDmaOne :=
  if prevIndex = 0 then []
  else if c.tableEntries ≤ prevIndex then
    [{ baseAddr := .indexExpnTbl
       offset := u16 (u16 (getIndexEntryOffset c (subU16 prevIndex c.tableEntries)) +
         indexRuleNextFieldOffset)
       data := entry }]
  else
    [{ baseAddr := .indxTbl
       offset := u16 (u16 (getIndexEntryOffset c prevIndex) + indexRuleNextFieldOffset)
       data := entry }]

/-- The commands of an addition. -/
def addCmds (c : Ip4TableCache) (gen : GeneratedRule) : List NatDmaOne :=
  ruleLinkCmds c gen.rule.prevIndex gen.tblEntry ++
    indexLinkCmds c gen.indexSwRule.prevIndex gen.indxTblEntry ++ [enableCmd c gen.tblEntry]

/-- The fields that the commands of an addition are for. -/
def addFields (c : Ip4TableCache) (gen : GeneratedRule) : List DmaField :=
  (if gen.rule.prevIndex = 0 then []
    else [ruleField c gen.rule.prevIndex ruleNextFieldOffset]) ++
  (if gen.indexSwRule.prevIndex = 0 then []
    else [indexField c gen.indexSwRule.prevIndex indexRuleNextFieldOffset]) ++
  [ruleField c gen.tblEntry ruleFlagFieldOffset]

/-- The entry of the index tables that the rule of `tblEntry` has, with its position. -/
def indexOf (c : Ip4TableCache) (expnTbl : Bool) (tblEntry : Nat) : Bool × Nat × DelType :=
  let fullEntry := (c.rules expnTbl tblEntry).indxTblEntry
  if c.tableEntries ≤ fullEntry then
    (true, subU16 fullEntry c.tableEntries, findIndexRulePos c fullEntry)
  else (false, fullEntry, findIndexRulePos c fullEntry)

/-- The commands of a deletion, before `ReorderCmds`. -/
def delCmds (c : Ip4TableCache) (expnTbl : Bool) (tblEntry : Nat) : List NatDmaOne :=
  let (indxExpn, indxTblEntry, indxRulePos) := indexOf c expnTbl tblEntry
  delRuleCmd c expnTbl tblEntry (findRulePos c expnTbl tblEntry) ::
    delIndexCmds c indxExpn indxTblEntry indxRulePos

/-- The field that the command on the rule tables is for. -/
def delRuleField (c : Ip4TableCache) (expnTbl : Bool) (tblEntry : Nat) : DelType → DmaField
  | .onlyOne => ⟨.baseTbl, tblEntry, ruleFlagFieldOffset⟩
  | .head => ⟨.baseTbl, tblEntry, ruleProtoFieldOffset⟩
  | .middle => ruleField c (c.rules expnTbl tblEntry).prevIndex ruleNextFieldOffset
  | .last => ruleField c (c.rules expnTbl tblEntry).prevIndex ruleNextFieldOffset

/-- The fields that the commands on the index tables are for. -/
def delIndexFields (c : Ip4TableCache) (indxTblEntry : Nat) : DelType → List DmaField
  | .onlyOne => [⟨.indxTbl, indxTblEntry, indexRuleNatIndexFieldOffset⟩]
  | .head => [⟨.indxTbl, indxTblEntry, indexRuleNatIndexFieldOffset⟩,
      ⟨.indxTbl, indxTblEntry, indexRuleNextFieldOffset⟩]
  | .middle => [indexField c (c.indexExpnTableMeta indxTblEntry) indexRuleNextFieldOffset]
  | .last => [indexField c (c.indexExpnTableMeta indxTblEntry) indexRuleNextFieldOffset]

/-- The fields that the commands of a deletion are for. -/
def delFields (c : Ip4TableCache) (expnTbl : Bool) (tblEntry : Nat) : List DmaField :=
  let (_, indxTblEntry, indxRulePos) := indexOf c expnTbl tblEntry
  delRuleField c expnTbl tblEntry (findRulePos c expnTbl tblEntry) ::
    delIndexFields c indxTblEntry indxRulePos

theorem natDma_nil (c : Ip4TableCache) (ok : Bool) : c.natDma ok [] = c := ite_self c

theorem storeRule_sameFrame (c : Ip4TableCache) (rule : NatRule) (entry : Nat) :
    SameFrame c (storeRule c rule entry) := by
  rw [storeRule]
  split <;> exact ⟨rfl, rfl, rfl, rfl, rfl⟩

theorem storeIndexRule_sameFrame (c : Ip4TableCache) (indxSwRule : IndxTblSwRule) (entry : Nat) :
    SameFrame c (storeIndexRule c indxSwRule entry) := by
  rw [storeIndexRule]
  split <;> exact ⟨rfl, rfl, rfl, rfl, rfl⟩

theorem SameFrame.ruleNextCmd {c c' : Ip4TableCache} (h : SameFrame c c') (prevEntry data : Nat) :
    ruleNextCmd c' prevEntry data = IpaNat.ruleNextCmd c prevEntry data := by
  rw [IpaNat.ruleNextCmd, IpaNat.ruleNextCmd, getEntryOffset, getEntryOffset, getEntryOffset,
    getEntryOffset, h.tableEntries, h.tblAddrOffset]

theorem SameFrame.indexLinkCmds {c c' : Ip4TableCache} (h : SameFrame c c')
    (prevIndex entry : Nat) :
    indexLinkCmds c' prevIndex entry = IpaNat.indexLinkCmds c prevIndex entry := by
  rw [IpaNat.indexLinkCmds, IpaNat.indexLinkCmds, getIndexEntryOffset, getIndexEntryOffset,
    getIndexEntryOffset, getIndexEntryOffset, h.tableEntries, h.tblAddrOffset]

theorem SameFrame.enableCmd {c c' : Ip4TableCache} (h : SameFrame c c') (entry : Nat) :
    enableCmd c' entry = IpaNat.enableCmd c entry := by
  rw [IpaNat.enableCmd, IpaNat.enableCmd, h.tableEntries, h.tblAddrOffset]

theorem copyIpv4RuleToHw_posts (c : Ip4TableCache) (ok : Bool) (rule : NatRule) (entry : Nat) :
    copyIpv4RuleToHw c ok rule entry =
      (storeRule c rule entry).natDma ok (ruleLinkCmds c rule.prevIndex entry) := by
  have hs := storeRule_sameFrame c rule entry
  rw [ruleLinkCmds, ← hs.ruleNextCmd]
  change (if rule.prevIndex = 0 then storeRule c rule entry
    else if rule.prevIndex < (storeRule c rule entry).tableEntries then _ else _) = _
  split
  · exact (natDma_nil _ ok).symm
  · rw [ruleNextCmd]
    split
    · rename_i hlt
      rw [if_neg (Nat.not_le.mpr hlt)]
      rfl
    · rename_i hle
      rw [if_pos (Nat.le_of_not_lt hle)]
      rfl

theorem copyIpv4IndexRuleToHw_posts (c : Ip4TableCache) (ok : Bool) (indxSwRule : IndxTblSwRule)
    (entry : Nat) :
    copyIpv4IndexRuleToHw c ok indxSwRule entry =
      (storeIndexRule c indxSwRule entry).natDma ok
        (indexLinkCmds c indxSwRule.prevIndex entry) := by
  have hs := storeIndexRule_sameFrame c indxSwRule entry
  rw [← hs.indexLinkCmds, indexLinkCmds]
  change (if indxSwRule.prevIndex = 0 then storeIndexRule c indxSwRule entry
    else if indxSwRule.prevIndex < (storeIndexRule c indxSwRule entry).tableEntries then _
      else _) = _
  split
  · exact (natDma_nil _ ok).symm
  · split
    · rename_i hlt
      rw [if_neg (Nat.not_le.mpr hlt)]
      rfl
    · rename_i hle
      rw [if_pos (Nat.le_of_not_lt hle)]
      rfl

theorem indexLinkCmds_sameFrame (c : Ip4TableCache) (ok : Bool) (prevIndex entry : Nat) :
    SameFrame c (c.natDma ok (indexLinkCmds c prevIndex entry)) := by
  rw [indexLinkCmds]
  split
  · rw [natDma_nil]
    exact SameFrame.refl c
  · split <;> exact (natDma_sameFrame ..).1

/-- The table after the three parts of an addition, with the commands that were carried out. -/
def afterAdd (c : Ip4TableCache) (dma : AddDma) (gen : GeneratedRule) (c₁ : Ip4TableCache) :
    Ip4TableCache :=
  let ruleStored := (storeRule c₁ gen.rule gen.tblEntry).natDma dma.ruleNext
    (ruleLinkCmds c gen.rule.prevIndex gen.tblEntry)
  let indexStored := (storeIndexRule ruleStored gen.indexSwRule gen.indxTblEntry).natDma
    dma.indexNext (indexLinkCmds c gen.indexSwRule.prevIndex gen.indxTblEntry)
  indexStored.natDma dma.enable [enableCmd c gen.tblEntry]

theorem generateRule_sameFrame {c c₁ : Ip4TableCache} {clntRule : Ipv4Rule} {gen : GeneratedRule}
    (h : generateRule c clntRule = some (some (gen, c₁))) : SameFrame c c₁ := by
  obtain ⟨⟨prev, tblEntry⟩, -, h⟩ := Option.bind_eq_some_iff.mp h
  dsimp only at h
  split at h
  · exact absurd (Option.some.inj h) (by simp)
  · obtain ⟨⟨indxPrev, indxTblEntry⟩, -, h⟩ := Option.bind_eq_some_iff.mp h
    dsimp only at h
    split at h
    · exact absurd (Option.some.inj h) (by simp)
    · obtain ⟨-, rfl⟩ := Prod.mk.inj (Option.some.inj (Option.some.inj h))
      split
      · exact ⟨rfl, rfl, rfl, rfl, rfl⟩
      · exact SameFrame.refl c

theorem natiAddIpv4Rule_posts {c c₁ : Ip4TableCache} {clntRule : Ipv4Rule} {gen : GeneratedRule}
    (h : generateRule c clntRule = some (some (gen, c₁))) (dma : AddDma) :
    natiAddIpv4Rule c dma clntRule = some (
      if dma.enable = false then (.error .eio, afterAdd c dma gen c₁)
      else match makeRuleHdl (afterAdd c dma gen c₁) gen.tblEntry with
        | (0, d) => (.error .einval, d)
        | (ruleHdl, d) => (.ok ruleHdl, d)) := by
  have hs := generateRule_sameFrame h
  have hlink : ruleLinkCmds c₁ gen.rule.prevIndex gen.tblEntry =
      ruleLinkCmds c gen.rule.prevIndex gen.tblEntry := by
    rw [ruleLinkCmds, ruleLinkCmds, hs.ruleNextCmd]
  have hrule := copyIpv4RuleToHw_posts c₁ dma.ruleNext gen.rule gen.tblEntry
  rw [hlink] at hrule
  have hs₁ : SameFrame c (copyIpv4RuleToHw c₁ dma.ruleNext gen.rule gen.tblEntry) :=
    hs.trans (copyIpv4RuleToHw_keepsIndex ..).frame
  have hindex := copyIpv4IndexRuleToHw_posts
    (copyIpv4RuleToHw c₁ dma.ruleNext gen.rule gen.tblEntry) dma.indexNext gen.indexSwRule
    gen.indxTblEntry
  have hs₂ : SameFrame c (copyIpv4IndexRuleToHw
      (copyIpv4RuleToHw c₁ dma.ruleNext gen.rule gen.tblEntry) dma.indexNext gen.indexSwRule
      gen.indxTblEntry) := by
    rw [hindex, hs₁.indexLinkCmds, ← (hs₁.trans (storeIndexRule_sameFrame ..)).indexLinkCmds]
    exact (hs₁.trans (storeIndexRule_sameFrame ..)).trans (indexLinkCmds_sameFrame ..)
  have hafter : (copyIpv4IndexRuleToHw
      (copyIpv4RuleToHw c₁ dma.ruleNext gen.rule gen.tblEntry) dma.indexNext gen.indexSwRule
      gen.indxTblEntry).natDma dma.enable [enableCmd c gen.tblEntry] = afterAdd c dma gen c₁ := by
    rw [hindex, hs₁.indexLinkCmds, hrule]
    rfl
  rw [natiAddIpv4Rule, h, Option.map_some]
  simp only [postIpv4DmaCmd, hs₂.enableCmd, hafter]
  cases dma.enable with
  | false => rfl
  | true => rfl

/-- The table after the `ioctl` of a deletion and the fix-ups that follow it. -/
def afterDel (c : Ip4TableCache) (expnTbl : Bool) (tblEntry : Nat) : Ip4TableCache :=
  let (indxExpn, indxTblEntry, indxRulePos) := indexOf c expnTbl tblEntry
  let indxNextEntry := subU16 (c.indexRules indxExpn indxTblEntry).nextIndex c.tableEntries
  let posted := c.natDma true (reorderCmds (delCmds c expnTbl tblEntry))
  let fixed := delRuleFixup posted expnTbl tblEntry (findRulePos c expnTbl tblEntry)
  if indxRulePos = .head then delIndexHeadFixup fixed indxTblEntry indxNextEntry
  else delIndexFixup fixed indxExpn indxTblEntry indxRulePos

theorem postDelDmaCmd_posts {c : Ip4TableCache} {expnTbl : Bool} {tblEntry : Nat}
    (h : (c.rules expnTbl tblEntry).enable = true) (ok : Bool) :
    postDelDmaCmd c ok tblEntry expnTbl (findRulePos c expnTbl tblEntry) =
      if ok = false then (.error .eio, c) else (.ok (), afterDel c expnTbl tblEntry) := by
  rw [postDelDmaCmd, if_neg (by rw [h]; decide)]
  cases ok with
  | false => rfl
  | true =>
      simp only [Bool.true_eq_false, if_false, afterDel, delCmds, indexOf]
      by_cases hexpn : c.tableEntries ≤ (c.rules expnTbl tblEntry).indxTblEntry
      · simp only [if_pos hexpn]
      · simp only [if_neg hexpn]

/-- The table and the entry of the rule that a deletion reaches. -/
def deletedEntry (c : Ip4TableCache) (ruleHdl : Nat) : Option (Bool × Nat) :=
  let (expnTbl, tblEntry) := parseIpv4RuleHdl c (u16 ruleHdl)
  if ruleHdl = 0 ∨ tblEntry = 0 ∨ c.valid = false ∨ (c.rules expnTbl tblEntry).enable = false then
    none
  else some (expnTbl, tblEntry)

theorem ipaNatDelIpv4Rule_some {c : Ip4TableCache} {ruleHdl tblEntry : Nat} {expnTbl : Bool}
    (h : deletedEntry c ruleHdl = some (expnTbl, tblEntry)) (ok : Bool) :
    ipaNatDelIpv4Rule c ok ruleHdl =
      if ok = false then (.error .einval, c)
      else (.ok (), { delDeadIpv4HeadNodes (afterDel c expnTbl tblEntry) with
        ruleIdArray := Function.update
          (delDeadIpv4HeadNodes (afterDel c expnTbl tblEntry)).ruleIdArray
          ((ruleHdl : Int) - 1) 0 }) := by
  rw [deletedEntry] at h
  rcases hparse : parseIpv4RuleHdl c (u16 ruleHdl) with ⟨expn, entry⟩
  rw [hparse] at h
  dsimp only at h
  split at h
  · exact absurd h (by simp)
  · rename_i hor
    rw [not_or, not_or, not_or, Bool.not_eq_false (c.rules expn entry).enable] at hor
    obtain ⟨hhdl, hentry, hvalid, hen⟩ := hor
    obtain ⟨rfl, rfl⟩ := Prod.mk.inj (Option.some.inj h)
    rw [ipaNatDelIpv4Rule, if_neg hhdl, natiDelIpv4Rule, hparse]
    dsimp only
    rw [if_neg hentry, if_neg hvalid, postDelDmaCmd_posts hen]
    cases ok <;> rfl

end LibraDevice.IpaNat
