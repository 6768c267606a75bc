import Mathlib.Data.List.Basic
import LibraDevice.IpaNat.Table

/-!
The functions of `ipa_nat_drvi.c` and `ipa_nat_drv.c` that add and delete NAT
rules. Each `ioctl` is given its outcome as an argument.
-/

namespace LibraDevice.IpaNat

/-- `dst_hash`; `size` is one less than the number of base entries. -/
def dstHash (trgtIp : UInt32) (trgtPort publicPort : UInt16) (proto : UInt8) (size : Nat) : Nat :=
  let hash := (trgtIp.toUInt16 ^^^ (trgtIp >>> 16).toUInt16 ^^^ trgtPort ^^^ publicPort ^^^
    proto.toUInt16).toNat &&& size
  if hash = 0 then size else hash

def srcHash (privIp : UInt32) (privPort : UInt16) (trgtIp : UInt32) (trgtPort : UInt16)
    (proto : UInt8) (size : Nat) : Nat :=
  let hash := (privIp.toUInt16 ^^^ (privIp >>> 16).toUInt16 ^^^ privPort ^^^ trgtIp.toUInt16 ^^^
    (trgtIp >>> 16).toUInt16 ^^^ trgtPort ^^^ proto.toUInt16).toNat &&& size
  if hash = 0 then size else hash

/-- The end-around carry both checksum functions apply after each addition. -/
def foldCarry (cksum : UInt32) : UInt32 :=
  if cksum >>> 16 = 0 then cksum else (cksum &&& (0xFFFF : UInt32)) + 1

/-- `ipa_nati_calc_ip_cksum`. -/
def calcIpCksum (pubIpAddr privIpAddr : UInt32) : UInt16 :=
  let cksum := foldCarry ((pubIpAddr &&& (0xFFFF : UInt32)) + (pubIpAddr >>> 16))
  let cksum := foldCarry (cksum + (~~~privIpAddr &&& (0xFFFF : UInt32)))
  let cksum := foldCarry (cksum + (~~~privIpAddr >>> 16))
  cksum.toUInt16

/-- `ipa_nati_calc_tcp_udp_cksum`. -/
def calcTcpUdpCksum (pubIpAddr : UInt32) (pubPort : UInt16) (privIpAddr : UInt32)
    (privPort : UInt16) : UInt16 :=
  let cksum := foldCarry ((pubIpAddr &&& (0xFFFF : UInt32)) + (pubIpAddr >>> 16))
  let cksum := foldCarry (cksum + pubPort.toUInt32)
  let cksum := foldCarry (cksum + (~~~privIpAddr &&& (0xFFFF : UInt32)))
  let cksum := foldCarry (cksum + (~~~privIpAddr >>> 16))
  let cksum := foldCarry (cksum + (~~~privPort).toUInt32)
  cksum.toUInt16

/-- `ipa_nati_get_entry_offset`: the byte offset is the same for both tables. -/
def getEntryOffset (c : Ip4TableCache) (tblEntry : Nat) : Nat :=
  u32 (tableEntrySize * tblEntry + c.tblAddrOffset)

/-- `ipa_nati_get_index_entry_offset`. -/
def getIndexEntryOffset (c : Ip4TableCache) (indxTblEntry : Nat) : Nat :=
  u32 (indexTableEntrySize * indxTblEntry + c.tblAddrOffset)

/-- `ipa_nati_make_rule_hdl`: the handle, zero when `rule_id_array` is full. -/
def makeRuleHdl (c : Ip4TableCache) (tblEntry : Nat) : Nat × Ip4TableCache :=
  let ruleHdl :=
    if c.tableEntries ≤ tblEntry then u16 (2 * subU16 tblEntry c.tableEntries) ||| 1
    else u16 (2 * tblEntry)
  match (List.range (c.tableEntries + c.expnTableEntries)).find?
      fun cnt : Nat => c.ruleIdArray cnt == 0 with
  | some cnt => (cnt + 1, { c with ruleIdArray := Function.update c.ruleIdArray cnt ruleHdl })
  | none => (0, c)

/-- `ipa_nati_parse_ipv4_rule_hdl`: the table (`true` for expansion) and the
entry a handle stands for, entry zero for an invalid handle. -/
def parseIpv4RuleHdl (c : Ip4TableCache) (ruleHdl : Nat) : Bool × Nat :=
  if c.tableEntries + c.expnTableEntries ≤ ruleHdl then (false, 0)
  else
    let ruleId := c.ruleIdArray ((ruleHdl : Int) - 1)
    (ruleId % 2 == 1, ruleId / 2)

/-- The loops of `ipa_nati_generate_tbl_rule` and `ipa_nati_generate_index_rule`
that look for the last entry of a chain: the last entry, or `some none` where
they stop on an entry that is its own successor. The loop variable has 16 bits,
so a walk of 65536 steps never ends; `none` stands for it. -/
def walkToLast (next : Nat → Nat) : Nat → Nat → Nat → Option (Option Nat)
  | 0, _, _ => none
  | fuel + 1, prev, nxtIndx =>
      if nxtIndx = 0 then some (some prev)
      else if next nxtIndx = nxtIndx then some none
      else walkToLast next fuel nxtIndx (next nxtIndx)

/-- The predecessor of a new entry whose base slot `entry` is taken. -/
def collisionPrev (next : Nat → Nat) (entry nxtIndx : Nat) : Option (Option Nat) :=
  if nxtIndx = 0 then some (some entry) else walkToLast next 65536 0 nxtIndx

/-- `ipa_nati_expn_tbl_free_entry`. -/
def expnTblFreeEntry (expnTbl : Nat → NatRule) (size : Nat) : Nat :=
  ((List.range' 1 (size - 1)).find? fun cnt => !(expnTbl cnt).enable).getD 0

/-- `ipa_nati_index_expn_get_free_entry`. -/
def indexExpnGetFreeEntry (indxTbl : Nat → IndxTblRule) (size : Nat) : Nat :=
  ((List.range' 1 (size - 1)).find? fun cnt => (indxTbl cnt).tblEntry == 0).getD 0

/-- The fields `ipa_nati_generate_tbl_rule` fills in before it looks for a slot. -/
def swRuleOf (c : Ip4TableCache) (clntRule : Ipv4Rule) : NatRule where
  privateIp := clntRule.privateIp
  targetIp := clntRule.targetIp
  nextIndex := 0
  publicPort := clntRule.publicPort
  privatePort := clntRule.privatePort
  targetPort := clntRule.targetPort
  ipChksum := calcIpCksum c.publicAddr clntRule.privateIp
  rsvd1 := 0
  redirect := false
  enable := false
  timeStamp := 0
  protocol := clntRule.protocol
  prevIndex := 0
  indxTblEntry := 0
  rsvd2 := 0
  tcpUdpChksum :=
    if clntRule.protocol = ipprotoTcp ∨ clntRule.protocol = ipprotoUdp then
      calcTcpUdpCksum c.publicAddr clntRule.publicPort clntRule.privateIp clntRule.privatePort
    else 0

/-- The base slot a rule hashes to. -/
def dstSlot (c : Ip4TableCache) (clntRule : Ipv4Rule) : Nat :=
  dstHash clntRule.targetIp clntRule.targetPort clntRule.publicPort clntRule.protocol
    (subU16 c.tableEntries 1)

/-- The base index slot a rule hashes to. -/
def srcSlot (c : Ip4TableCache) (clntRule : Ipv4Rule) : Nat :=
  srcHash clntRule.privateIp clntRule.privatePort clntRule.targetIp clntRule.targetPort
    clntRule.protocol (subU16 c.tableEntries 1)

/-- `ipa_nati_generate_tbl_rule`: the back link and the entry of the new rule;
entry zero reports an error. -/
def generateTblRule (c : Ip4TableCache) (clntRule : Ipv4Rule) : Option (Nat × Nat) :=
  let newEntry := dstSlot c clntRule
  if (c.ipv4Rules newEntry).enable = false then some (0, newEntry)
  else
    let next := fun nxtIndx => (c.ipv4ExpnRules (subU16 nxtIndx c.tableEntries)).nextIndex
    (collisionPrev next newEntry (c.ipv4Rules newEntry).nextIndex).map fun
      | none => (0, 0)
      | some prev =>
        let free := expnTblFreeEntry c.ipv4ExpnRules c.expnTableEntries
        (prev, if free = 0 then 0 else u16 (free + c.tableEntries))

/-- `ipa_nati_generate_index_rule`. -/
def generateIndexRule (c : Ip4TableCache) (clntRule : Ipv4Rule) : Option (Nat × Nat) :=
  let newEntry := srcSlot c clntRule
  if (c.indexTable newEntry).tblEntry = 0 then some (0, newEntry)
  else
    let next := fun nxtIndx => (c.indexTableExpn (subU16 nxtIndx c.tableEntries)).nextIndex
    (collisionPrev next newEntry (c.indexTable newEntry).nextIndex).map fun
      | none => (0, 0)
      | some prev =>
        let free := indexExpnGetFreeEntry c.indexTableExpn c.expnTableEntries
        if free = 0 then (prev, 0)
        else if prev = u16 (free + c.tableEntries) then (prev, 0)
        else (prev, u16 (free + c.tableEntries))

/-- What `ipa_nati_generate_rule` hands to `ipa_nati_add_ipv4_rule`. -/
structure GeneratedRule where
  rule : NatRule
  indexSwRule : IndxTblSwRule
  tblEntry : Nat
  indxTblEntry : Nat

/-- `ipa_nati_generate_rule`; the inner `none` is its error return, which
leaves the table alone. -/
def generateRule (c : Ip4TableCache) (clntRule : Ipv4Rule) :
    Option (Option (GeneratedRule × Ip4TableCache)) := do
  let (prev, tblEntry) ← generateTblRule c clntRule
  if tblEntry = 0 then return none
  let (indxPrev, indxTblEntry) ← generateIndexRule c clntRule
  if indxTblEntry = 0 then return none
  let indexSwRule : IndxTblSwRule :=
    { tblEntry := tblEntry, nextIndex := 0, prevIndex := indxPrev }
  let rule := { swRuleOf c clntRule with prevIndex := prev, indxTblEntry := indxTblEntry }
  let c' :=
    if c.tableEntries ≤ indxTblEntry then
      { c with
        indexExpnTableMeta := Function.update c.indexExpnTableMeta
          (subU16 indxTblEntry c.tableEntries) indxPrev }
    else c
  return some (⟨rule, indexSwRule, tblEntry, indxTblEntry⟩, c')

/-- `ipa_nati_write_next_index`; a failing `ioctl` is only logged. -/
def writeNextIndex (c : Ip4TableCache) (ok : Bool) (tblType : NatTableType)
    (value offset : Nat) : Ip4TableCache :=
  c.natDma ok [{ baseAddr := tblType, offset := offset, data := value }]

/-- `ipa_nati_copy_ipv4_rule_to_hw`. -/
def copyIpv4RuleToHw (c : Ip4TableCache) (ok : Bool) (rule : NatRule) (entry : Nat) :
    Ip4TableCache :=
  let c :=
    if entry < c.tableEntries then c.setRules false (Function.update c.ipv4Rules entry rule)
    else c.setRules true
      (Function.update c.ipv4ExpnRules (subU16 entry c.tableEntries) rule)
  if rule.prevIndex = 0 then c
  else if rule.prevIndex < c.tableEntries then
    writeNextIndex c ok .baseTbl entry
      (u32 (getEntryOffset c rule.prevIndex + ruleNextFieldOffset))
  else
    writeNextIndex c ok .expnTbl entry
      (u32 (getEntryOffset c (subU16 rule.prevIndex c.tableEntries) + ruleNextFieldOffset))

/-- `ipa_nati_copy_ipv4_index_rule_to_hw`; the offset variable has 16 bits. -/
def copyIpv4IndexRuleToHw (c : Ip4TableCache) (ok : Bool) (indxSwRule : IndxTblSwRule)
    (entry : Nat) : Ip4TableCache :=
  let swRule : IndxTblRule :=
    { tblEntry := indxSwRule.tblEntry, nextIndex := indxSwRule.nextIndex }
  let c :=
    if entry < c.tableEntries then
      c.setIndexRules false (Function.update c.indexTable entry swRule)
    else c.setIndexRules true
      (Function.update c.indexTableExpn (subU16 entry c.tableEntries) swRule)
  if indxSwRule.prevIndex = 0 then c
  else if indxSwRule.prevIndex < c.tableEntries then
    writeNextIndex c ok .indxTbl entry
      (u16 (u16 (getIndexEntryOffset c indxSwRule.prevIndex) + indexRuleNextFieldOffset))
  else
    writeNextIndex c ok .indexExpnTbl entry
      (u16 (u16 (getIndexEntryOffset c (subU16 indxSwRule.prevIndex c.tableEntries)) +
        indexRuleNextFieldOffset))

/-- The command of `ipa_nati_post_ipv4_dma_cmd`; only the expansion branch
adds `tbl_addr_offset`. -/
def enableCmd (c : Ip4TableCache) (entry : Nat) : NatDmaOne :=
  if entry < c.tableEntries then
    { baseAddr := .baseTbl
      offset := u32 (tableEntrySize * entry + ruleFlagFieldOffset)
      data := flagEnableBitMask }
  else
    { baseAddr := .expnTbl
      offset := u32 (tableEntrySize * subU16 entry c.tableEntries + ruleFlagFieldOffset +
        c.tblAddrOffset)
      data := flagEnableBitMask }

/-- `ipa_nati_post_ipv4_dma_cmd`. -/
def postIpv4DmaCmd (c : Ip4TableCache) (ok : Bool) (entry : Nat) :
    Except Errno Unit × Ip4TableCache :=
  (if ok then .ok () else .error .eio, c.natDma ok [enableCmd c entry])

/-- The outcomes of the three `ioctl`s an addition can make. -/
structure AddDma where
  ruleNext : Bool
  indexNext : Bool
  enable : Bool
deriving DecidableEq, Repr

def AddDma.allOk : AddDma := ⟨true, true, true⟩

/-- `ipa_nati_add_ipv4_rule`; `none` when a chain walk never ends. -/
def natiAddIpv4Rule (c : Ip4TableCache) (dma : AddDma) (clntRule : Ipv4Rule) :
    Option (Except Errno Nat × Ip4TableCache) :=
  (generateRule c clntRule).map fun
    | none => (.error .einval, c)
    | some (gen, c) =>
      let c := copyIpv4RuleToHw c dma.ruleNext gen.rule gen.tblEntry
      let c := copyIpv4IndexRuleToHw c dma.indexNext gen.indexSwRule gen.indxTblEntry
      match postIpv4DmaCmd c dma.enable gen.tblEntry with
      | (.error _, c) => (.error .eio, c)
      | (.ok _, c) =>
        match makeRuleHdl c gen.tblEntry with
        | (0, c) => (.error .einval, c)
        | (ruleHdl, c) => (.ok ruleHdl, c)

/-- `ipa_nat_add_ipv4_rule` on table handle 1; every failure is `-EINVAL`. -/
def ipaNatAddIpv4Rule (c : Ip4TableCache) (dma : AddDma) (clntRule : Ipv4Rule) :
    Option (Except Errno Nat × Ip4TableCache) :=
  (natiAddIpv4Rule c dma clntRule).map fun
    | (.error _, c) => (.error .einval, c)
    | (.ok ruleHdl, c) => (.ok ruleHdl, c)

/-- `ipa_nati_find_rule_pos`. -/
def findRulePos (c : Ip4TableCache) (expnTbl : Bool) (tblEntry : Nat) : DelType :=
  match expnTbl, decide ((c.rules expnTbl tblEntry).nextIndex = 0) with
  | true, true => .last
  | true, false => .middle
  | false, true => .onlyOne
  | false, false => .head

/-- `ipa_nati_find_index_rule_pos`. -/
def findIndexRulePos (c : Ip4TableCache) (tblEntry : Nat) : DelType :=
  if c.tableEntries ≤ tblEntry then
    if (c.indexTableExpn (subU16 tblEntry c.tableEntries)).nextIndex = 0 then .last else .middle
  else if (c.indexTable tblEntry).nextIndex = 0 then .onlyOne
  else .head

/-- `ReorderCmds`: the commands on the index tables are moved to the front. -/
def reorderCmds (cmds : List NatDmaOne) : List NatDmaOne :=
  let indxTblStart := (cmds.findIdx? fun cmd =>
    cmd.baseAddr == .indxTbl || cmd.baseAddr == .indexExpnTbl).getD 0
  if indxTblStart = 0 then cmds else cmds.drop indxTblStart ++ cmds.take indxTblStart

/-- The command on a rule table that writes the next index of `prevEntry`. -/
def ruleNextCmd (c : Ip4TableCache) (prevEntry data : Nat) : NatDmaOne :=
  if c.tableEntries ≤ prevEntry then
    { baseAddr := .expnTbl
      offset := u32 (getEntryOffset c (subU16 prevEntry c.tableEntries) + ruleNextFieldOffset)
      data := data }
  else
    { baseAddr := .baseTbl
      offset := u32 (getEntryOffset c prevEntry + ruleNextFieldOffset)
      data := data }

/-- The command on an index table that writes the next index of `prevEntry`. -/
def indexNextCmd (c : Ip4TableCache) (prevEntry data : Nat) : NatDmaOne :=
  if c.tableEntries ≤ prevEntry then
    { baseAddr := .indexExpnTbl
      offset := u32
        (getIndexEntryOffset c (subU16 prevEntry c.tableEntries) + indexRuleNextFieldOffset)
      data := data }
  else
    { baseAddr := .indxTbl
      offset := u32 (getIndexEntryOffset c prevEntry + indexRuleNextFieldOffset)
      data := data }

/-- The first part of `ipa_nati_post_del_dma_cmd`, "Base Table rule Deletion". -/
def delRuleCmd (c : Ip4TableCache) (expnTbl : Bool) (curTblEntry : Nat) :
    DelType → NatDmaOne
  | .onlyOne =>
      { baseAddr := .baseTbl
        offset := u32 (getEntryOffset c curTblEntry + ruleFlagFieldOffset)
        data := flagDisableBitMask }
  | .head =>
      { baseAddr := .baseTbl
        offset := u32 (getEntryOffset c curTblEntry + ruleProtoFieldOffset)
        data := invalidProtoFieldValue }
  | .middle =>
      ruleNextCmd c (c.rules expnTbl curTblEntry).prevIndex
        (c.rules expnTbl curTblEntry).nextIndex
  | .last => ruleNextCmd c (c.rules expnTbl curTblEntry).prevIndex 0

/-- The second part, "Index Table rule Deletion", for the entry `indxTblEntry`
of the index table `expnTbl`. -/
def delIndexCmds (c : Ip4TableCache) (expnTbl : Bool) (indxTblEntry : Nat) :
    DelType → List NatDmaOne
  | .onlyOne =>
      [{ baseAddr := .indxTbl
         offset := u32 (getIndexEntryOffset c indxTblEntry + indexRuleNatIndexFieldOffset)
         data := 0 }]
  | .head =>
      let next := c.indexTableExpn
        (subU16 (c.indexRules expnTbl indxTblEntry).nextIndex c.tableEntries)
      [{ baseAddr := .indxTbl
         offset := u32 (getIndexEntryOffset c indxTblEntry + indexRuleNatIndexFieldOffset)
         data := next.tblEntry },
       { baseAddr := .indxTbl
         offset := u32 (getIndexEntryOffset c indxTblEntry + indexRuleNextFieldOffset)
         data := next.nextIndex }]
  | .middle =>
      [indexNextCmd c (c.indexExpnTableMeta indxTblEntry)
        (c.indexRules expnTbl indxTblEntry).nextIndex]
  | .last => [indexNextCmd c (c.indexExpnTableMeta indxTblEntry) 0]

/-- `UpdateSwSpecParams` with `IPA_NAT_SW_PARAM_PREV_INDX_BYTE`. -/
def NatRule.updatePrevIndx (r : NatRule) (value : Nat) : NatRule := { r with prevIndex := value }

/-- `UpdateSwSpecParams` with `IPA_NAT_SW_PARAM_INDX_TBL_ENTRY_BYTE`. -/
def NatRule.updateIndxTblEntry (r : NatRule) (value : Nat) : NatRule :=
  { r with indxTblEntry := value }

/-- The rule part of `ipa_nati_post_del_dma_cmd` after the `ioctl`: the back
link of the next rule, and the reset of the deleted entry. -/
def delRuleFixup (c : Ip4TableCache) (expnTbl : Bool) (curTblEntry : Nat) :
    DelType → Ip4TableCache
  | .middle =>
      let cur := c.rules expnTbl curTblEntry
      let nextEntry := subU16 cur.nextIndex c.tableEntries
      let tbl := Function.update c.ipv4ExpnRules nextEntry
        ((c.ipv4ExpnRules nextEntry).updatePrevIndx cur.prevIndex)
      c.setRules true (Function.update tbl curTblEntry NatRule.zeroed)
  | .head => c
  | _ => c.setRules expnTbl (Function.update (c.rules expnTbl) curTblEntry NatRule.zeroed)

/-- The index part after the `ioctl` for the head of a chain. `indxNextEntry`
is the expansion slot whose contents the `ioctl` has copied to the head. -/
def delIndexHeadFixup (c : Ip4TableCache) (indxTblEntry indxNextEntry : Nat) :
    Ip4TableCache :=
  let indxNextNextEntry := (c.indexTableExpn indxNextEntry).nextIndex
  let c :=
    if indxNextNextEntry ≠ 0 ∧ c.tableEntries ≤ indxNextNextEntry then
      { c with
        indexExpnTableMeta := Function.update c.indexExpnTableMeta
          (subU16 indxNextNextEntry c.tableEntries) indxTblEntry }
    else c
  let c := c.setIndexRules true (Function.update c.indexTableExpn indxNextEntry IndxTblRule.zeroed)
  let tableEntry := (c.indexTable indxTblEntry).tblEntry
  let (expn, entry) :=
    if c.tableEntries ≤ tableEntry then (true, subU16 tableEntry c.tableEntries)
    else (false, tableEntry)
  c.setRules expn (Function.update (c.rules expn) entry
    ((c.rules expn entry).updateIndxTblEntry indxTblEntry))

/-- The index part after the `ioctl` for the other positions. -/
def delIndexFixup (c : Ip4TableCache) (expnTbl : Bool) (indxTblEntry : Nat) (rulePos : DelType) :
    Ip4TableCache :=
  let c :=
    if rulePos = .middle then
      let nextIndex := (c.indexRules expnTbl indxTblEntry).nextIndex
      let nextEntry :=
        if c.tableEntries ≤ nextIndex then subU16 nextIndex c.tableEntries else nextIndex
      let tbl := Function.update c.indexExpnTableMeta nextEntry
        (c.indexExpnTableMeta indxTblEntry)
      { c with indexExpnTableMeta := Function.update tbl indxTblEntry 0 }
    else c
  c.setIndexRules expnTbl
    (Function.update (c.indexRules expnTbl) indxTblEntry IndxTblRule.zeroed)

/-- `ipa_nati_post_del_dma_cmd`. -/
def postDelDmaCmd (c : Ip4TableCache) (ok : Bool) (curTblEntry : Nat) (expnTbl : Bool)
    (rulePos : DelType) : Except Errno Unit × Ip4TableCache :=
  if (c.rules expnTbl curTblEntry).enable = false then (.error .einval, c)
  else
    let fullEntry := (c.rules expnTbl curTblEntry).indxTblEntry
    let indxRulePos := findIndexRulePos c fullEntry
    let (indxExpn, indxTblEntry) :=
      if c.tableEntries ≤ fullEntry then (true, subU16 fullEntry c.tableEntries)
      else (false, fullEntry)
    let indxNextEntry :=
      subU16 (c.indexRules indxExpn indxTblEntry).nextIndex c.tableEntries
    let cmds := delRuleCmd c expnTbl curTblEntry rulePos ::
      delIndexCmds c indxExpn indxTblEntry indxRulePos
    if ok = false then (.error .eio, c)
    else
      let c := c.natDma true (reorderCmds cmds)
      let c := delRuleFixup c expnTbl curTblEntry rulePos
      (.ok (), if indxRulePos = .head then delIndexHeadFixup c indxTblEntry indxNextEntry
        else delIndexFixup c indxExpn indxTblEntry indxRulePos)

/-- One turn of the loop of `ipa_nati_del_dead_ipv4_head_nodes`. -/
def delDeadHeadNode (tbl : Nat → NatRule) (cnt : Nat) : Nat → NatRule :=
  if (tbl cnt).protocol = invalidProtoFieldCmp ∧ (tbl cnt).nextIndex = 0 then
    Function.update tbl cnt NatRule.zeroed
  else tbl

/-- `ipa_nati_del_dead_ipv4_head_nodes`. -/
def delDeadIpv4HeadNodes (c : Ip4TableCache) : Ip4TableCache :=
  { c with ipv4Rules := (List.range c.tableEntries).foldl delDeadHeadNode c.ipv4Rules }

/-- `ipa_nati_del_ipv4_rule`. The handle is parsed as a `uint16_t`, but the id
that is reset is the one at the full 32 bit handle. -/
def natiDelIpv4Rule (c : Ip4TableCache) (ok : Bool) (ruleHdl : Nat) :
    Except Errno Unit × Ip4TableCache :=
  let (expnTbl, tblEntry) := parseIpv4RuleHdl c (u16 ruleHdl)
  if tblEntry = 0 then (.error .einval, c)
  else if c.valid = false then (.error .einval, c)
  else
    match postDelDmaCmd c ok tblEntry expnTbl (findRulePos c expnTbl tblEntry) with
    | (.error _, c) => (.error .einval, c)
    | (.ok _, c) =>
      let c := delDeadIpv4HeadNodes c
      (.ok (), { c with ruleIdArray := Function.update c.ruleIdArray ((ruleHdl : Int) - 1) 0 })

/-- `ipa_nat_del_ipv4_rule` on table handle 1. -/
def ipaNatDelIpv4Rule (c : Ip4TableCache) (ok : Bool) (ruleHdl : Nat) :
    Except Errno Unit × Ip4TableCache :=
  if ruleHdl = 0 then (.error .einval, c) else natiDelIpv4Rule c ok ruleHdl

end LibraDevice.IpaNat
