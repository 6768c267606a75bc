import Mathlib.Logic.Function.Basic

/-!
The IPv4 NAT table of `libipanat` as it lies in memory: the base and expansion
rule tables, the two index tables, and the software side of them. A table is a
function from slot numbers to entries, of which the first `tableEntries` (or
`expnTableEntries`) cells belong to the table.
-/

namespace LibraDevice.IpaNat

def ipprotoTcp : UInt8 := 6
def ipprotoUdp : UInt8 := 17

/-- `ipa_nat_ipv4_rule`: a rule as the client of the driver states it. -/
structure Ipv4Rule where
  targetIp : UInt32
  privateIp : UInt32
  targetPort : UInt16
  privatePort : UInt16
  publicPort : UInt16
  protocol : UInt8
deriving DecidableEq, Repr

/-- `ipa_nat_sw_rule`, the software view of the 32 bytes of a table entry. -/
structure NatRule where
  privateIp : UInt32
  targetIp : UInt32
  nextIndex : Nat
  publicPort : UInt16
  privatePort : UInt16
  targetPort : UInt16
  ipChksum : UInt16
  rsvd1 : Nat
  redirect : Bool
  enable : Bool
  timeStamp : Nat
  protocol : UInt8
  prevIndex : Nat
  indxTblEntry : Nat
  rsvd2 : Nat
  tcpUdpChksum : UInt16
deriving DecidableEq, Repr

/-- An entry after `memset(.., 0, sizeof(struct ipa_nat_rule))`. -/
def NatRule.zeroed : NatRule where
  privateIp := 0
  targetIp := 0
  nextIndex := 0
  publicPort := 0
  privatePort := 0
  targetPort := 0
  ipChksum := 0
  rsvd1 := 0
  redirect := false
  enable := false
  timeStamp := 0
  protocol := 0
  prevIndex := 0
  indxTblEntry := 0
  rsvd2 := 0
  tcpUdpChksum := 0

/-- `ipa_nat_sw_indx_tbl_rule`. -/
structure IndxTblRule where
  tblEntry : Nat
  nextIndex : Nat
deriving DecidableEq, Repr

def IndxTblRule.zeroed : IndxTblRule where
  tblEntry := 0
  nextIndex := 0

/-- `ipa_nat_indx_tbl_sw_rule`: an index entry before it is copied out. -/
structure IndxTblSwRule where
  tblEntry : Nat
  nextIndex : Nat
  prevIndex : Nat
deriving DecidableEq, Repr

inductive NatTableType where
  | baseTbl
  | expnTbl
  | indxTbl
  | indexExpnTbl
deriving DecidableEq, Repr

/-- `del_type`: where an entry stands on its chain. -/
inductive DelType where
  | onlyOne
  | head
  | middle
  | last
deriving DecidableEq, Repr

/-- The error codes the driver returns, as negated `errno` values. -/
inductive Errno where
  | einval
  | eio
deriving DecidableEq, Repr

/-- `ipa_ioc_nat_dma_one`: one 16 bit write asked of the hardware. -/
structure NatDmaOne where
  baseAddr : NatTableType
  offset : Nat
  data : Nat
deriving DecidableEq, Repr

/-- `ipa_nat_ip4_table_cache`. `ruleIdArray` is indexed by the integers since
`ipa_nati_parse_ipv4_rule_hdl` reads the cell before the first one when the low
half of a handle is zero; cells outside the array are other heap memory. -/
structure Ip4TableCache where
  valid : Bool
  publicAddr : UInt32
  tblAddrOffset : Nat
  tableEntries : Nat
  expnTableEntries : Nat
  ipv4Rules : Nat → NatRule
  ipv4ExpnRules : Nat → NatRule
  indexTable : Nat → IndxTblRule
  indexTableExpn : Nat → IndxTblRule
  indexExpnTableMeta : Nat → Nat
  ruleIdArray : Int → Nat

def ruleFlagFieldOffset : Nat := 18
def ruleNextFieldOffset : Nat := 8
def ruleProtoFieldOffset : Nat := 22
def indexRuleNextFieldOffset : Nat := 2
def indexRuleNatIndexFieldOffset : Nat := 0
def tableEntrySize : Nat := 32
def indexTableEntrySize : Nat := 4
def flagEnableBitMask : Nat := 0x8000
def flagDisableBitMask : Nat := 0x0000
def invalidProtoFieldValue : Nat := 0xFF00
def invalidProtoFieldCmp : UInt8 := 0xFF

/-- The value stored by an assignment to a `uint16_t`. -/
def u16 (n : Nat) : Nat := n % 65536

/-- The value stored by an assignment to a `uint32_t`. -/
def u32 (n : Nat) : Nat := n % 4294967296

/-- `a -= b` on a `uint16_t`. -/
def subU16 (a b : Nat) : Nat := (a + 65536 - b) % 65536

theorem u16_of_lt {n : Nat} (h : n < 65536) : u16 n = n := Nat.mod_eq_of_lt h

theorem u32_of_lt {n : Nat} (h : n < 4294967296) : u32 n = n := Nat.mod_eq_of_lt h

theorem subU16_of_le {a b : Nat} (hb : b ≤ a) (ha : a - b < 65536) : subU16 a b = a - b := by
  unfold subU16
  omega

namespace Ip4TableCache

variable (c : Ip4TableCache)

/-- `tbl_ptr` as the base (`false`) or the expansion (`true`) rule table. -/
def rules : Bool → Nat → NatRule
  | false => c.ipv4Rules
  | true => c.ipv4ExpnRules

def setRules : Bool → (Nat → NatRule) → Ip4TableCache
  | false, tbl => { c with ipv4Rules := tbl }
  | true, tbl => { c with ipv4ExpnRules := tbl }

/-- `indx_tbl_ptr` as the base (`false`) or the expansion (`true`) index table. -/
def indexRules : Bool → Nat → IndxTblRule
  | false => c.indexTable
  | true => c.indexTableExpn

def setIndexRules : Bool → (Nat → IndxTblRule) → Ip4TableCache
  | false, tbl => { c with indexTable := tbl }
  | true, tbl => { c with indexTableExpn := tbl }

end Ip4TableCache

/-- The effect of a 16 bit write at a byte offset inside a rule entry; the
driver only ever addresses the three half words listed. -/
def NatRule.write16 (r : NatRule) (offset data : Nat) : NatRule :=
  if offset = ruleNextFieldOffset then { r with nextIndex := data }
  else if offset = ruleFlagFieldOffset then
    { r with enable := data.testBit 15, redirect := data.testBit 14, rsvd1 := data % 16384 }
  else if offset = ruleProtoFieldOffset then
    { r with
      protocol := UInt8.ofNat (data / 256)
      timeStamp := r.timeStamp % 65536 + data % 256 * 65536 }
  else r

def IndxTblRule.write16 (r : IndxTblRule) (offset data : Nat) : IndxTblRule :=
  if offset = indexRuleNatIndexFieldOffset then { r with tblEntry := data }
  else if offset = indexRuleNextFieldOffset then { r with nextIndex := data }
  else r

/-- One DMA write. The offset counts bytes from the start of the named table. -/
def Ip4TableCache.dmaOne (c : Ip4TableCache) (cmd : NatDmaOne) : Ip4TableCache :=
  let onRule (tbl : Nat → NatRule) : Nat → NatRule :=
    Function.update tbl (cmd.offset / tableEntrySize)
      ((tbl (cmd.offset / tableEntrySize)).write16 (cmd.offset % tableEntrySize) cmd.data)
  let onIndex (tbl : Nat → IndxTblRule) : Nat → IndxTblRule :=
    Function.update tbl (cmd.offset / indexTableEntrySize)
      ((tbl (cmd.offset / indexTableEntrySize)).write16 (cmd.offset % indexTableEntrySize) cmd.data)
  match cmd.baseAddr with
  | .baseTbl => { c with ipv4Rules := onRule c.ipv4Rules }
  | .expnTbl => { c with ipv4ExpnRules := onRule c.ipv4ExpnRules }
  | .indxTbl => { c with indexTable := onIndex c.indexTable }
  | .indexExpnTbl => { c with indexTableExpn := onIndex c.indexTableExpn }

/-- `IPA_IOC_NAT_DMA`: a request that is carried out applies its writes in
order, a failing one applies none. -/
def Ip4TableCache.natDma (c : Ip4TableCache) (ok : Bool) (cmds : List NatDmaOne) :
    Ip4TableCache :=
  if ok then cmds.foldl Ip4TableCache.dmaOne c else c

/-- `ipa_nati_reset_tbl` on a table whose index meta data and rule id array
are freshly allocated and cleared. -/
def freshTable (publicAddr : UInt32) (tableEntries expnTableEntries : Nat)
    (outside : Int → Nat) : Ip4TableCache where
  valid := true
  publicAddr := publicAddr
  tblAddrOffset := 0
  tableEntries := tableEntries
  expnTableEntries := expnTableEntries
  ipv4Rules := fun _ => NatRule.zeroed
  ipv4ExpnRules := fun _ => NatRule.zeroed
  indexTable := fun _ => IndxTblRule.zeroed
  indexTableExpn := fun _ => IndxTblRule.zeroed
  indexExpnTableMeta := fun _ => 0
  ruleIdArray := fun i =>
    if 0 ≤ i ∧ i < tableEntries + expnTableEntries then 0 else outside i

end LibraDevice.IpaNat
