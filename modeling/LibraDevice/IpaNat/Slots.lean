import LibraDevice.IpaNat.Driver

/-!
Slots in the numbering the driver itself uses for links and handles: entry `e`
of the base table is slot `e`, entry `k` of the expansion table is slot
`tableEntries + k`. Each write of the driver is an update of one slot.
-/

namespace LibraDevice.IpaNat

namespace Ip4TableCache

def slot (c : Ip4TableCache) (e : Nat) : NatRule :=
  if e < c.tableEntries then c.ipv4Rules e else c.ipv4ExpnRules (e - c.tableEntries)

def indexSlot (c : Ip4TableCache) (i : Nat) : IndxTblRule :=
  if i < c.tableEntries then c.indexTable i else c.indexTableExpn (i - c.tableEntries)

/-- The predecessor kept beside an index expansion slot. -/
def indexPrev (c : Ip4TableCache) (i : Nat) : Nat := c.indexExpnTableMeta (i - c.tableEntries)

def total (c : Ip4TableCache) : Nat := c.tableEntries + c.expnTableEntries

def modifySlot (c : Ip4TableCache) (e : Nat) (f : NatRule → NatRule) : Ip4TableCache :=
  if e < c.tableEntries then
    { c with ipv4Rules := Function.update c.ipv4Rules e (f (c.ipv4Rules e)) }
  else
    { c with
      ipv4ExpnRules := Function.update c.ipv4ExpnRules (e - c.tableEntries)
        (f (c.ipv4ExpnRules (e - c.tableEntries))) }

def modifyIndexSlot (c : Ip4TableCache) (i : Nat) (f : IndxTblRule → IndxTblRule) :
    Ip4TableCache :=
  if i < c.tableEntries then
    { c with indexTable := Function.update c.indexTable i (f (c.indexTable i)) }
  else
    { c with
      indexTableExpn := Function.update c.indexTableExpn (i - c.tableEntries)
        (f (c.indexTableExpn (i - c.tableEntries))) }

end Ip4TableCache

/-- The fields no rule or index write touches. -/
structure SameFrame (c c' : Ip4TableCache) : Prop where
  valid : c'.valid = c.valid
  publicAddr : c'.publicAddr = c.publicAddr
  tblAddrOffset : c'.tblAddrOffset = c.tblAddrOffset
  tableEntries : c'.tableEntries = c.tableEntries
  expnTableEntries : c'.expnTableEntries = c.expnTableEntries

theorem SameFrame.refl (c : Ip4TableCache) : SameFrame c c := ⟨rfl, rfl, rfl, rfl, rfl⟩

theorem SameFrame.trans {a b c : Ip4TableCache} (h : SameFrame a b) (h' : SameFrame b c) :
    SameFrame a c :=
  ⟨h'.valid.trans h.valid, h'.publicAddr.trans h.publicAddr,
    h'.tblAddrOffset.trans h.tblAddrOffset, h'.tableEntries.trans h.tableEntries,
    h'.expnTableEntries.trans h.expnTableEntries⟩

theorem SameFrame.total_eq {c c' : Ip4TableCache} (h : SameFrame c c') : c'.total = c.total := by
  unfold Ip4TableCache.total
  rw [h.tableEntries, h.expnTableEntries]

namespace Ip4TableCache

section

variable (c : Ip4TableCache) (e e' i i' : Nat) (f : NatRule → NatRule)
  (g : IndxTblRule → IndxTblRule)

theorem modifySlot_sameFrame : SameFrame c (c.modifySlot e f) := by
  unfold modifySlot
  split <;> exact ⟨rfl, rfl, rfl, rfl, rfl⟩

theorem modifyIndexSlot_sameFrame : SameFrame c (c.modifyIndexSlot i g) := by
  unfold modifyIndexSlot
  split <;> exact ⟨rfl, rfl, rfl, rfl, rfl⟩

@[simp] theorem tableEntries_modifySlot : (c.modifySlot e f).tableEntries = c.tableEntries :=
  (modifySlot_sameFrame c e f).tableEntries

@[simp] theorem tableEntries_modifyIndexSlot :
    (c.modifyIndexSlot i g).tableEntries = c.tableEntries :=
  (modifyIndexSlot_sameFrame c i g).tableEntries

@[simp] theorem expnTableEntries_modifySlot :
    (c.modifySlot e f).expnTableEntries = c.expnTableEntries :=
  (modifySlot_sameFrame c e f).expnTableEntries

@[simp] theorem expnTableEntries_modifyIndexSlot :
    (c.modifyIndexSlot i g).expnTableEntries = c.expnTableEntries :=
  (modifyIndexSlot_sameFrame c i g).expnTableEntries

@[simp] theorem tblAddrOffset_modifySlot : (c.modifySlot e f).tblAddrOffset = c.tblAddrOffset :=
  (modifySlot_sameFrame c e f).tblAddrOffset

@[simp] theorem tblAddrOffset_modifyIndexSlot :
    (c.modifyIndexSlot i g).tblAddrOffset = c.tblAddrOffset :=
  (modifyIndexSlot_sameFrame c i g).tblAddrOffset

@[simp] theorem indexExpnTableMeta_modifySlot :
    (c.modifySlot e f).indexExpnTableMeta = c.indexExpnTableMeta := by
  unfold modifySlot
  split <;> rfl

@[simp] theorem indexExpnTableMeta_modifyIndexSlot :
    (c.modifyIndexSlot i g).indexExpnTableMeta = c.indexExpnTableMeta := by
  unfold modifyIndexSlot
  split <;> rfl

@[simp] theorem ruleIdArray_modifySlot : (c.modifySlot e f).ruleIdArray = c.ruleIdArray := by
  unfold modifySlot
  split <;> rfl

@[simp] theorem ruleIdArray_modifyIndexSlot :
    (c.modifyIndexSlot i g).ruleIdArray = c.ruleIdArray := by
  unfold modifyIndexSlot
  split <;> rfl

@[simp] theorem indexSlot_modifySlot : (c.modifySlot e f).indexSlot = c.indexSlot := by
  funext j
  unfold modifySlot indexSlot
  split <;> rfl

@[simp] theorem slot_modifyIndexSlot : (c.modifyIndexSlot i g).slot = c.slot := by
  funext j
  unfold modifyIndexSlot slot
  split <;> rfl

@[simp] theorem slot_modifySlot :
    (c.modifySlot e f).slot = Function.update c.slot e (f (c.slot e)) := by
  funext e'
  unfold modifySlot slot
  by_cases he : e < c.tableEntries
  · by_cases he' : e' < c.tableEntries
    · simp [he, he', Function.update_apply]
    · have hne : e' ≠ e := by omega
      simp [he, he', hne]
  · by_cases he' : e' < c.tableEntries
    · have hne : e' ≠ e := by omega
      simp [he, he', hne]
    · have hiff : e' - c.tableEntries = e - c.tableEntries ↔ e' = e := by omega
      simp [he, he', Function.update_apply, hiff]

@[simp] theorem indexSlot_modifyIndexSlot :
    (c.modifyIndexSlot i g).indexSlot = Function.update c.indexSlot i (g (c.indexSlot i)) := by
  funext i'
  unfold modifyIndexSlot indexSlot
  by_cases hi : i < c.tableEntries
  · by_cases hi' : i' < c.tableEntries
    · simp [hi, hi', Function.update_apply]
    · have hne : i' ≠ i := by omega
      simp [hi, hi', hne]
  · by_cases hi' : i' < c.tableEntries
    · have hne : i' ≠ i := by omega
      simp [hi, hi', hne]
    · have hiff : i' - c.tableEntries = i - c.tableEntries ↔ i' = i := by omega
      simp [hi, hi', Function.update_apply, hiff]

end

end Ip4TableCache

open Ip4TableCache

/-- The effect of the enable command on a rule. -/
def NatRule.enabled (r : NatRule) : NatRule :=
  { r with enable := true, redirect := false, rsvd1 := 0 }

/-- The effect of the disable command on a rule. -/
def NatRule.disabled (r : NatRule) : NatRule :=
  { r with enable := false, redirect := false, rsvd1 := 0 }

/-- The effect of the command that invalidates the protocol of a chain head. -/
def NatRule.deadHead (r : NatRule) : NatRule :=
  { r with protocol := invalidProtoFieldCmp, timeStamp := r.timeStamp % 65536 }

def NatRule.withNext (r : NatRule) (n : Nat) : NatRule := { r with nextIndex := n }

def IndxTblRule.withNext (r : IndxTblRule) (n : Nat) : IndxTblRule := { r with nextIndex := n }

def IndxTblRule.withEntry (r : IndxTblRule) (n : Nat) : IndxTblRule := { r with tblEntry := n }

/-- The table sizes of the driver, and a table that starts at offset zero. -/
structure Dims (c : Ip4TableCache) : Prop where
  two_le_base : 2 ≤ c.tableEntries
  base_le : c.tableEntries ≤ 16384
  two_le_expn : 2 ≤ c.expnTableEntries
  expn_le : c.expnTableEntries ≤ 16384
  offset : c.tblAddrOffset = 0
  valid : c.valid = true

theorem Dims.of_sameFrame {c c' : Ip4TableCache} (h : Dims c) (hs : SameFrame c c') : Dims c' := by
  obtain ⟨hv, _, ho, ht, he⟩ := hs
  exact ⟨by rw [ht]; exact h.two_le_base, by rw [ht]; exact h.base_le,
    by rw [he]; exact h.two_le_expn, by rw [he]; exact h.expn_le, by rw [ho]; exact h.offset,
    by rw [hv]; exact h.valid⟩

section

variable {c : Ip4TableCache} (hd : Dims c)

include hd

theorem Dims.subU16_base {e : Nat} (hN : c.tableEntries ≤ e) (he : e < c.total) :
    subU16 e c.tableEntries = e - c.tableEntries := by
  have := hd.expn_le
  unfold total at he
  exact subU16_of_le hN (by omega)

theorem Dims.total_le : c.total ≤ 32768 := by
  have := hd.base_le
  have := hd.expn_le
  unfold total
  omega

theorem Dims.entryOffset {k off : Nat} (hk : k < c.total) (hoff : off < 32) :
    u32 (getEntryOffset c k + off) = tableEntrySize * k + off := by
  have hle := hd.total_le
  unfold getEntryOffset tableEntrySize
  rw [hd.offset, Nat.add_zero, u32_of_lt (n := 32 * k) (by omega), u32_of_lt (by omega)]

theorem Dims.indexEntryOffset {k off : Nat} (hk : k < c.total) (hoff : off < 4) :
    u32 (getIndexEntryOffset c k + off) = indexTableEntrySize * k + off := by
  have hle := hd.total_le
  unfold getIndexEntryOffset indexTableEntrySize
  rw [hd.offset, Nat.add_zero, u32_of_lt (n := 4 * k) (by omega), u32_of_lt (by omega)]

end

section

variable (c : Ip4TableCache) {k off : Nat} (data : Nat)

theorem dmaOne_baseTbl (hk : k < c.tableEntries) (hoff : off < 32) :
    c.dmaOne ⟨.baseTbl, tableEntrySize * k + off, data⟩ =
      c.modifySlot k (·.write16 off data) := by
  have hdiv : (tableEntrySize * k + off) / tableEntrySize = k := by
    unfold tableEntrySize
    omega
  have hmod : (tableEntrySize * k + off) % tableEntrySize = off := by
    unfold tableEntrySize
    omega
  simp only [dmaOne, hdiv, hmod, modifySlot, if_pos hk]

theorem dmaOne_expnTbl (hoff : off < 32) :
    c.dmaOne ⟨.expnTbl, tableEntrySize * k + off, data⟩ =
      c.modifySlot (c.tableEntries + k) (·.write16 off data) := by
  have hdiv : (tableEntrySize * k + off) / tableEntrySize = k := by
    unfold tableEntrySize
    omega
  have hmod : (tableEntrySize * k + off) % tableEntrySize = off := by
    unfold tableEntrySize
    omega
  have hk : ¬ c.tableEntries + k < c.tableEntries := by omega
  simp only [dmaOne, hdiv, hmod, modifySlot, if_neg hk, Nat.add_sub_cancel_left]

theorem dmaOne_indxTbl (hk : k < c.tableEntries) (hoff : off < 4) :
    c.dmaOne ⟨.indxTbl, indexTableEntrySize * k + off, data⟩ =
      c.modifyIndexSlot k (·.write16 off data) := by
  have hdiv : (indexTableEntrySize * k + off) / indexTableEntrySize = k := by
    unfold indexTableEntrySize
    omega
  have hmod : (indexTableEntrySize * k + off) % indexTableEntrySize = off := by
    unfold indexTableEntrySize
    omega
  simp only [dmaOne, hdiv, hmod, modifyIndexSlot, if_pos hk]

theorem dmaOne_indexExpnTbl (hoff : off < 4) :
    c.dmaOne ⟨.indexExpnTbl, indexTableEntrySize * k + off, data⟩ =
      c.modifyIndexSlot (c.tableEntries + k) (·.write16 off data) := by
  have hdiv : (indexTableEntrySize * k + off) / indexTableEntrySize = k := by
    unfold indexTableEntrySize
    omega
  have hmod : (indexTableEntrySize * k + off) % indexTableEntrySize = off := by
    unfold indexTableEntrySize
    omega
  have hk : ¬ c.tableEntries + k < c.tableEntries := by omega
  simp only [dmaOne, hdiv, hmod, modifyIndexSlot, if_neg hk, Nat.add_sub_cancel_left]

end

section

variable {c c' : Ip4TableCache} (hd : Dims c) (hs : SameFrame c c')

include hd hs

theorem dmaOne_ruleNextCmd {p : Nat} (hp : p < c.total) (data : Nat) :
    c'.dmaOne (ruleNextCmd c p data) = c'.modifySlot p (·.withNext data) := by
  unfold ruleNextCmd
  split
  · rename_i hN
    rw [hd.subU16_base hN hp, hd.entryOffset (Nat.lt_of_le_of_lt (Nat.sub_le ..) hp) (by decide),
      dmaOne_expnTbl _ _ (by decide), hs.tableEntries, Nat.add_sub_cancel' hN]
    rfl
  · rename_i hN
    have hN' : p < c'.tableEntries := by rw [hs.tableEntries]; omega
    rw [hd.entryOffset hp (by decide), dmaOne_baseTbl _ _ hN' (by decide)]
    rfl

theorem dmaOne_indexNextCmd {p : Nat} (hp : p < c.total) (data : Nat) :
    c'.dmaOne (indexNextCmd c p data) = c'.modifyIndexSlot p (·.withNext data) := by
  unfold indexNextCmd
  split
  · rename_i hN
    rw [hd.subU16_base hN hp,
      hd.indexEntryOffset (Nat.lt_of_le_of_lt (Nat.sub_le ..) hp) (by decide),
      dmaOne_indexExpnTbl _ _ (by decide), hs.tableEntries, Nat.add_sub_cancel' hN]
    rfl
  · rename_i hN
    have hN' : p < c'.tableEntries := by rw [hs.tableEntries]; omega
    rw [hd.indexEntryOffset hp (by decide), dmaOne_indxTbl _ _ hN' (by decide)]
    rfl

theorem dmaOne_enableCmd {e : Nat} (he : e < c.total) :
    c'.dmaOne (enableCmd c e) = c'.modifySlot e NatRule.enabled := by
  have hle := hd.total_le
  have hoff : ∀ k, k ≤ e → u32 (tableEntrySize * k + ruleFlagFieldOffset) =
      tableEntrySize * k + ruleFlagFieldOffset := by
    intro k hk
    unfold tableEntrySize ruleFlagFieldOffset
    exact u32_of_lt (by omega)
  unfold enableCmd
  split
  · rename_i hN
    have hN' : e < c'.tableEntries := by rw [hs.tableEntries]; exact hN
    rw [hoff e (Nat.le_refl e), dmaOne_baseTbl _ _ hN' (by decide)]
    rfl
  · rename_i hN
    have hN : c.tableEntries ≤ e := Nat.le_of_not_lt hN
    rw [hd.subU16_base hN he, hd.offset, Nat.add_zero, hoff _ (Nat.sub_le ..),
      dmaOne_expnTbl _ _ (by decide), hs.tableEntries, Nat.add_sub_cancel' hN]
    rfl

end

end LibraDevice.IpaNat
