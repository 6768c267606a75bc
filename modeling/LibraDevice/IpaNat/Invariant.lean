import LibraDevice.Lib.LinkedChains
import LibraDevice.IpaNat.Slots

/-!
The invariant of the NAT table: both tables are well linked, the links between
rules and index entries are mutually inverse, and the rule id array names each
live rule once.
-/

namespace LibraDevice.IpaNat

open LinkedChains Ip4TableCache

/-- The client rule a table entry holds. -/
def NatRule.client (r : NatRule) : Ipv4Rule where
  targetIp := r.targetIp
  privateIp := r.privateIp
  targetPort := r.targetPort
  privatePort := r.privatePort
  publicPort := r.publicPort
  protocol := r.protocol

def ruleLinks (c : Ip4TableCache) : Links where
  occupied := fun e => e < c.total ∧ (c.slot e).enable = true
  next := fun e => (c.slot e).nextIndex
  prev := fun e => (c.slot e).prevIndex

def indexLinks (c : Ip4TableCache) : Links where
  occupied := fun i => i < c.total ∧ (c.indexSlot i).tblEntry ≠ 0
  next := fun i => (c.indexSlot i).nextIndex
  prev := c.indexPrev

/-- An enabled rule that is not a dead head. -/
def Live (c : Ip4TableCache) (e : Nat) : Prop :=
  (ruleLinks c).occupied e ∧ (c.slot e).protocol ≠ invalidProtoFieldCmp

/-- The id `ipa_nati_make_rule_hdl` stores for the rule in slot `e`. -/
def ruleIdOf (c : Ip4TableCache) (e : Nat) : Nat :=
  if c.tableEntries ≤ e then 2 * (e - c.tableEntries) + 1 else 2 * e

/-- The invariant of the four tables. -/
structure LinkInv (c : Ip4TableCache) (home rank ihome irank : Nat → Nat) : Prop where
  dims : Dims c
  rules : WellLinked c.tableEntries c.total (ruleLinks c) home rank
  index : WellLinked c.tableEntries c.total (indexLinks c) ihome irank
  dead_head : ∀ e, (ruleLinks c).occupied e → (c.slot e).protocol = invalidProtoFieldCmp →
    e < c.tableEntries ∧ (c.slot e).nextIndex ≠ 0
  dst_home : ∀ e, Live c e → dstSlot c (c.slot e).client = home e
  index_of_rule : ∀ e, Live c e → (indexLinks c).occupied (c.slot e).indxTblEntry ∧
    (c.indexSlot (c.slot e).indxTblEntry).tblEntry = e
  rule_of_index : ∀ i, (indexLinks c).occupied i → Live c (c.indexSlot i).tblEntry ∧
    (c.slot (c.indexSlot i).tblEntry).indxTblEntry = i ∧
    srcSlot c (c.slot (c.indexSlot i).tblEntry).client = ihome i

/-- The ids in use name the live rules, each once. -/
structure IdInv (c : Ip4TableCache) : Prop where
  id_small : ∀ k : Nat, k < c.total → c.ruleIdArray k ≠ 0 → k + 1 < c.total
  id_live : ∀ k : Nat, k < c.total → c.ruleIdArray k ≠ 0 →
    ∃ e, Live c e ∧ c.ruleIdArray k = ruleIdOf c e
  id_inj : ∀ j k : Nat, j < c.total → k < c.total → c.ruleIdArray j ≠ 0 →
    c.ruleIdArray j = c.ruleIdArray k → j = k
  id_surj : ∀ e, Live c e → ∃ k : Nat, k < c.total ∧ c.ruleIdArray k = ruleIdOf c e

structure TableInv (c : Ip4TableCache) (home rank ihome irank : Nat → Nat) : Prop
    extends LinkInv c home rank ihome irank, IdInv c

theorem slot_of_lt {c : Ip4TableCache} {e : Nat} (h : e < c.tableEntries) :
    c.slot e = c.ipv4Rules e := if_pos h

theorem slot_of_le {c : Ip4TableCache} {e : Nat} (h : c.tableEntries ≤ e) :
    c.slot e = c.ipv4ExpnRules (e - c.tableEntries) := if_neg (Nat.not_lt.mpr h)

theorem indexSlot_of_lt {c : Ip4TableCache} {i : Nat} (h : i < c.tableEntries) :
    c.indexSlot i = c.indexTable i := if_pos h

theorem indexSlot_of_le {c : Ip4TableCache} {i : Nat} (h : c.tableEntries ≤ i) :
    c.indexSlot i = c.indexTableExpn (i - c.tableEntries) := if_neg (Nat.not_lt.mpr h)

theorem dstHash_mem (trgtIp : UInt32) (trgtPort publicPort : UInt16) (proto : UInt8) {size : Nat}
    (h : 0 < size) : 0 < dstHash trgtIp trgtPort publicPort proto size ∧
      dstHash trgtIp trgtPort publicPort proto size ≤ size := by
  unfold dstHash
  dsimp only
  split
  · exact ⟨h, le_rfl⟩
  · rename_i hne
    exact ⟨Nat.pos_of_ne_zero hne, Nat.and_le_right⟩

theorem srcHash_mem (privIp : UInt32) (privPort : UInt16) (trgtIp : UInt32) (trgtPort : UInt16)
    (proto : UInt8) {size : Nat} (h : 0 < size) :
    0 < srcHash privIp privPort trgtIp trgtPort proto size ∧
      srcHash privIp privPort trgtIp trgtPort proto size ≤ size := by
  unfold srcHash
  dsimp only
  split
  · exact ⟨h, le_rfl⟩
  · rename_i hne
    exact ⟨Nat.pos_of_ne_zero hne, Nat.and_le_right⟩

theorem Dims.subU16_one {c : Ip4TableCache} (hd : Dims c) :
    subU16 c.tableEntries 1 = c.tableEntries - 1 := by
  have := hd.two_le_base
  have := hd.base_le
  exact subU16_of_le (by omega) (by omega)

theorem Dims.dstSlot_mem {c : Ip4TableCache} (hd : Dims c) (r : Ipv4Rule) :
    0 < dstSlot c r ∧ dstSlot c r < c.tableEntries := by
  have h2 := hd.two_le_base
  unfold dstSlot
  rw [hd.subU16_one]
  obtain ⟨hpos, hle⟩ := dstHash_mem r.targetIp r.targetPort r.publicPort r.protocol
    (show 0 < c.tableEntries - 1 by omega)
  exact ⟨hpos, by omega⟩

theorem Dims.srcSlot_mem {c : Ip4TableCache} (hd : Dims c) (r : Ipv4Rule) :
    0 < srcSlot c r ∧ srcSlot c r < c.tableEntries := by
  have h2 := hd.two_le_base
  unfold srcSlot
  rw [hd.subU16_one]
  obtain ⟨hpos, hle⟩ := srcHash_mem r.privateIp r.privatePort r.targetIp r.targetPort r.protocol
    (show 0 < c.tableEntries - 1 by omega)
  exact ⟨hpos, by omega⟩

theorem ruleIdOf_pos {c : Ip4TableCache} {e : Nat} (he : 0 < e) : ruleIdOf c e ≠ 0 := by
  unfold ruleIdOf
  split <;> omega

theorem ruleIdOf_inj {c : Ip4TableCache} {e f : Nat} (h : ruleIdOf c e = ruleIdOf c f) :
    e = f := by
  unfold ruleIdOf at h
  split at h <;> split at h <;> omega

theorem not_occupied_fresh (publicAddr : UInt32) (N M : Nat) (outside : Int → Nat) (e : Nat) :
    ¬ (ruleLinks (freshTable publicAddr N M outside)).occupied e ∧
      ¬ (indexLinks (freshTable publicAddr N M outside)).occupied e := by
  have hslot : (freshTable publicAddr N M outside).slot e = NatRule.zeroed := ite_self _
  have hindex : (freshTable publicAddr N M outside).indexSlot e = IndxTblRule.zeroed := ite_self _
  constructor
  · rintro ⟨_, h⟩
    rw [hslot] at h
    exact absurd h (by decide)
  · rintro ⟨_, h⟩
    rw [hindex] at h
    exact h rfl

theorem ruleIdArray_fresh (publicAddr : UInt32) {N M k : Nat} (outside : Int → Nat)
    (hk : k < (freshTable publicAddr N M outside).total) :
    (freshTable publicAddr N M outside).ruleIdArray k = 0 := by
  have hk' : (k : Int) < N + M := by
    simp only [total, freshTable] at hk
    omega
  exact if_pos ⟨by omega, hk'⟩

theorem wellLinked_of_empty {N T : Nat} {L : Links} {home rank : Nat → Nat}
    (h : ∀ e, ¬ L.occupied e) : WellLinked N T L home rank where
  null_free := h 0
  overflow_null_free := h N
  lt_of_occupied := fun he => absurd he (h _)
  next_link := fun he => absurd he (h _)
  prev_link := fun he => absurd he (h _)
  home_head := fun he => absurd he (h _)
  home_prev := fun he => absurd he (h _)
  rank_prev := fun he => absurd he (h _)

theorem tableInv_fresh (publicAddr : UInt32) {N M : Nat} (outside : Int → Nat)
    (hN : 2 ≤ N ∧ N ≤ 16384) (hM : 2 ≤ M ∧ M ≤ 16384) :
    TableInv (freshTable publicAddr N M outside) id id id id where
  dims := ⟨hN.1, hN.2, hM.1, hM.2, rfl, rfl⟩
  rules := wellLinked_of_empty fun e => (not_occupied_fresh publicAddr N M outside e).1
  index := wellLinked_of_empty fun e => (not_occupied_fresh publicAddr N M outside e).2
  dead_head := fun e he => absurd he (not_occupied_fresh publicAddr N M outside e).1
  dst_home := fun e he => absurd he.1 (not_occupied_fresh publicAddr N M outside e).1
  index_of_rule := fun e he => absurd he.1 (not_occupied_fresh publicAddr N M outside e).1
  rule_of_index := fun i hi => absurd hi (not_occupied_fresh publicAddr N M outside i).2
  id_small := fun _ hk hne => absurd (ruleIdArray_fresh publicAddr outside hk) hne
  id_live := fun _ hk hne => absurd (ruleIdArray_fresh publicAddr outside hk) hne
  id_inj := fun _ _ hj _ hne => absurd (ruleIdArray_fresh publicAddr outside hj) hne
  id_surj := fun e he => absurd he.1 (not_occupied_fresh publicAddr N M outside e).1

end LibraDevice.IpaNat
