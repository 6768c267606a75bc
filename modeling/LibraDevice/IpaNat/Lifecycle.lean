import LibraDevice.Lib.StepRun
import Mathlib.Data.List.Count

/-!
The tables of `libipanat` as a whole: which slots of `ipv4_nat_cache` are valid,
and which descriptors and mappings are open for them. The results of the system
calls are arguments, and allocations succeed.
-/

namespace LibraDevice.IpaNat

open LibraDevice.StepRun

def ipaNatMaxIp4Tbls : Nat := 1
def ipaNatTableEntrySize : Nat := 32
def ipaNatIndexTableEntrySize : Nat := 4

def eio : Int := 5
def enomem : Int := 12
def einval : Int := 22

/-- `ipa_nat_ip4_table_cache`; `ipv4RulesAddr` is `none` for `MAP_FAILED`, and of
the arrays on the heap only the lengths are kept. -/
structure Ip4TableSlot where
  valid : UInt8
  publicAddr : UInt32
  natFd : Int
  size : Nat
  tblAddrOffset : UInt32
  ipv4RulesAddr : Option Nat
  tableEntries : UInt16
  expnTableEntries : UInt16
  indexExpnTableMeta : Option Nat
  ruleIdArray : Option Nat
deriving DecidableEq, Repr

def Ip4TableSlot.zeroed : Ip4TableSlot where
  valid := 0
  publicAddr := 0
  natFd := 0
  size := 0
  tblAddrOffset := 0
  ipv4RulesAddr := some 0
  tableEntries := 0
  expnTableEntries := 0
  indexExpnTableMeta := none
  ruleIdArray := none

/-- `ipv4_nat_cache`, with the open descriptors and the mappings. -/
structure LibState where
  ip4Tbl : List Ip4TableSlot
  ipaFd : Int
  tableCnt : UInt8
  fds : List Int
  maps : List (Nat × Nat)
deriving DecidableEq, Repr

def LibState.init : LibState where
  ip4Tbl := List.replicate ipaNatMaxIp4Tbls Ip4TableSlot.zeroed
  ipaFd := 0
  tableCnt := 0
  fds := []
  maps := []

/-- Where a call stops the process. -/
inductive TblFault where
  | indexOutOfBounds
  | mapFailed
deriving DecidableEq, Repr

/-- `ipa_ioc_nat_alloc_mem`. -/
structure NatMem where
  size : Nat
  offset : UInt32

/-- What the system calls of an addition return: `open` and `mmap` nothing when
they fail, the `ioctl` calls a code and `IPA_IOC_ALLOC_NAT_MEM` an offset. -/
structure AddResults where
  openIpa : Option Int
  allocNatMem : Int × UInt32
  openNat : Option Int
  mmap : Option Nat
  initNat : Int
deriving DecidableEq, Repr

/-- What the system calls of a deletion return. -/
structure DelResults where
  munmap : Int
  close : Int
  delNat : Int
deriving DecidableEq, Repr

/-- The loop of `GetNearest2Power`; 16 turns see the end of every number. -/
def nearest2PowerLoop (number : UInt16) : Nat → UInt16 → UInt16 → UInt16
  | 0, _, tmp => tmp
  | turns + 1, num, tmp =>
    if num = 1 then
      if number ≠ tmp then tmp * 2 else tmp
    else nearest2PowerLoop number turns (num >>> 1) (tmp * 2)

def getNearest2Power (num : UInt16) : Int × UInt16 :=
  if num = 0 then (-einval, 0)
  else if num = 1 then (0, 2)
  else (0, nearest2PowerLoop num 16 num 1)

def getNearestEven (num : UInt16) : UInt16 :=
  if num < 2 then 2
  else if num % 2 ≠ 0 then num + 1
  else num

/-- The number of base entries asked for; the percentage is `.8`. -/
def baseEntries (numberOfEntries : UInt16) : UInt16 :=
  let entries := UInt16.ofNat (numberOfEntries.toNat * 8 / 10)
  if entries = 0 then 1 else entries

/-- The number of expansion entries; the percentage is `.2`. -/
def expnEntries (numberOfEntries : UInt16) : UInt16 :=
  getNearestEven (UInt16.ofNat (numberOfEntries.toNat * 2 / 10))

/-- The device is opened by the first table and stays open. -/
def openIpaDevice (r : AddResults) (s : LibState) : Option LibState :=
  if s.ipaFd = 0 then
    match r.openIpa with
    | none => none
    | some fd => some { s with ipaFd := fd, fds := fd :: s.fds }
  else some s

/-- `ipa_nati_alloc_table`. -/
def natiAllocTable (numberOfEntries : UInt16) (r : AddResults) (s : LibState) :
    Int × NatMem × UInt16 × UInt16 × LibState :=
  match getNearest2Power (baseEntries numberOfEntries) with
  | (ret, tableEntries) =>
    let expnTableEntries := expnEntries numberOfEntries
    let totalEntries := (tableEntries + expnTableEntries).toNat
    let mem : NatMem :=
      { size := ipaNatTableEntrySize * totalEntries + ipaNatIndexTableEntrySize * totalEntries
        offset := r.allocNatMem.2 }
    if ret ≠ 0 then (-einval, mem, tableEntries, expnTableEntries, s)
    else
      match openIpaDevice r s with
      | none => (-eio, mem, tableEntries, expnTableEntries, s)
      | some s =>
        (if r.allocNatMem.1 ≠ 0 then -einval else 0, mem, tableEntries, expnTableEntries, s)

/-- `ipa_nati_update_cache`; only a mapping at address 0 counts as failed. -/
def natiUpdateCache (mem : NatMem) (publicAddr : UInt32) (tblEntries expnTblEntries : UInt16)
    (r : AddResults) (s : LibState) : Except TblFault (Int × LibState) :=
  let index := s.tableCnt.toNat
  match s.ip4Tbl[index]? with
  | none => .error .indexOutOfBounds
  | some tbl =>
    let tbl :=
      { tbl with
        valid := 1
        publicAddr := publicAddr
        size := mem.size
        tblAddrOffset := mem.offset
        tableEntries := tblEntries
        expnTableEntries := expnTblEntries
        indexExpnTableMeta := some (tbl.indexExpnTableMeta.getD expnTblEntries.toNat)
        ruleIdArray := some (tbl.ruleIdArray.getD (tblEntries.toNat + expnTblEntries.toNat)) }
    match r.openNat with
    | none => .ok (-eio, { s with ip4Tbl := s.ip4Tbl.set index tbl })
    | some fd =>
      let tbl := { tbl with natFd := fd }
      match r.mmap with
      | none =>
        .ok (0, { s with
          ip4Tbl := s.ip4Tbl.set index { tbl with ipv4RulesAddr := none }
          fds := fd :: s.fds })
      | some addr =>
        if addr = 0 then
          .ok (-einval, { s with
            ip4Tbl := s.ip4Tbl.set index tbl
            fds := fd :: s.fds
            maps := (addr, mem.size) :: s.maps })
        else
          .ok (0, { s with
            ip4Tbl := s.ip4Tbl.set index { tbl with ipv4RulesAddr := some addr }
            fds := fd :: s.fds
            maps := (addr, mem.size) :: s.maps })

/-- `ipa_nati_reset_tbl`, which writes through the mapping. -/
def natiResetTbl (tblIndx : UInt8) (s : LibState) : Except TblFault Unit :=
  match s.ip4Tbl[tblIndx.toNat]? with
  | none => .error .indexOutOfBounds
  | some tbl => if tbl.ipv4RulesAddr = none then .error .mapFailed else .ok ()

/-- `ipa_nati_post_ipv4_init_cmd`. -/
def natiPostIpv4InitCmd (tblIndex : UInt8) (r : AddResults) (s : LibState) :
    Except TblFault Int :=
  match s.ip4Tbl[tblIndex.toNat]? with
  | none => .error .indexOutOfBounds
  | some _ => .ok (if r.initNat ≠ 0 then -einval else 0)

/-- `ipa_nati_add_ipv4_tbl`. -/
def natiAddIpv4Tbl (publicIpAddr : UInt32) (numberOfEntries : UInt16) (r : AddResults)
    (s : LibState) : Except TblFault (Int × UInt32 × LibState) :=
  let tblIndx := s.tableCnt
  match natiAllocTable numberOfEntries r s with
  | (ret, mem, tableEntries, expnTableEntries, s) =>
    if ret ≠ 0 then .ok (-enomem, 0, s)
    else do
      let (ret, s) ← natiUpdateCache mem publicIpAddr tableEntries expnTableEntries r s
      if ret ≠ 0 then return (-einval, 0, s)
      natiResetTbl tblIndx s
      let ret ← natiPostIpv4InitCmd tblIndx r s
      if ret ≠ 0 then return (-einval, 0, s)
      return (0, (s.tableCnt + 1).toUInt32, { s with tableCnt := s.tableCnt + 1 })

/-- `ipa_nat_add_ipv4_tbl`, given whether `tbl_hdl` is null. -/
def natAddIpv4Tbl (publicIpAddr : UInt32) (numberOfEntries : UInt16) (hdlIsNull : Bool)
    (r : AddResults) (s : LibState) : Except TblFault (Int × UInt32 × LibState) :=
  if hdlIsNull = true ∨ numberOfEntries = 0 then .ok (-einval, 0, s)
  else do
    let (ret, tblHdl, s) ← natiAddIpv4Tbl publicIpAddr numberOfEntries r s
    if ret ≠ 0 then return (-einval, tblHdl, s)
    return (ret, tblHdl, s)

/-- `ipa_nati_del_ipv4_table`; the result of `munmap` is not looked at. -/
def natiDelIpv4Table (tblHdl : UInt32) (r : DelResults) (s : LibState) :
    Except TblFault (Int × LibState) :=
  let index := (tblHdl - 1).toUInt8.toNat
  match s.ip4Tbl[index]? with
  | none => .error .indexOutOfBounds
  | some tbl =>
    if tbl.valid = 0 then .ok (-einval, s)
    else
      let maps :=
        match tbl.ipv4RulesAddr with
        | none => s.maps
        | some addr => if r.munmap = 0 then s.maps.erase (addr, tbl.size) else s.maps
      if r.close ≠ 0 then .ok (-einval, { s with maps := maps })
      else
        let fds := s.fds.erase tbl.natFd
        if r.delNat ≠ 0 then .ok (-einval, { s with maps := maps, fds := fds })
        else
          .ok (0, { s with
            ip4Tbl := s.ip4Tbl.set index Ip4TableSlot.zeroed
            tableCnt := s.tableCnt - 1
            maps := maps
            fds := fds })

/-- `ipa_nat_del_ipv4_tbl`. -/
def natDelIpv4Tbl (tblHdl : UInt32) (r : DelResults) (s : LibState) :
    Except TblFault (Int × LibState) :=
  if tblHdl = 0 ∨ ipaNatMaxIp4Tbls < tblHdl.toNat then .ok (-einval, s)
  else natiDelIpv4Table tblHdl r s

/-- A call with its arguments and what the system calls return. -/
inductive TblCall where
  | add (publicIpAddr : UInt32) (numberOfEntries : UInt16) (hdlIsNull : Bool) (r : AddResults)
  | del (tblHdl : UInt32) (r : DelResults)

/-- The returned code and the state after a call. -/
def tblCall (s : LibState) : TblCall → Except TblFault (Int × LibState)
  | .add publicIpAddr numberOfEntries hdlIsNull r => do
    let (ret, _, s) ← natAddIpv4Tbl publicIpAddr numberOfEntries hdlIsNull r s
    return (ret, s)
  | .del tblHdl r => natDelIpv4Tbl tblHdl r s

/-- The number of slots with `valid` set. -/
def validCount (s : LibState) : Nat := s.ip4Tbl.countP fun tbl => tbl.valid != 0

/-- `table_cnt` counts the valid slots. -/
structure TblsCounted (s : LibState) : Prop where
  length : s.ip4Tbl.length = ipaNatMaxIp4Tbls
  count : s.tableCnt.toNat = validCount s

/-- The counter, the valid flags, the descriptors and the mappings agree. -/
structure SameTables (s s' : LibState) : Prop where
  tableCnt : s'.tableCnt = s.tableCnt
  valid : s'.ip4Tbl.map Ip4TableSlot.valid = s.ip4Tbl.map Ip4TableSlot.valid
  fds : s'.fds = s.fds
  maps : s'.maps = s.maps

theorem SameTables.refl (s : LibState) : SameTables s s := ⟨rfl, rfl, rfl, rfl⟩

/-- No table is allocated. -/
def AddResults.AllocFails (r : AddResults) (s : LibState) : Prop :=
  (s.ipaFd = 0 ∧ r.openIpa = none) ∨ r.allocNatMem.1 ≠ 0

instance (r : AddResults) (s : LibState) : Decidable (r.AllocFails s) :=
  inferInstanceAs (Decidable ((s.ipaFd = 0 ∧ r.openIpa = none) ∨ r.allocNatMem.1 ≠ 0))

/-- An addition that gets past its arguments opens no device it then has no
table for, or finds a free slot and none of its later steps fails. -/
def TblCall.Checked (s : LibState) : TblCall → Prop
  | .add _ numberOfEntries hdlIsNull r =>
    hdlIsNull = true ∨ numberOfEntries = 0 ∨
      (r.AllocFails s ∧ (s.ipaFd ≠ 0 ∨ r.openIpa = none)) ∨
      (¬r.AllocFails s ∧ s.tableCnt.toNat < ipaNatMaxIp4Tbls ∧ r.openNat.isSome ∧
        (r.mmap = none ∨ r.mmap ≠ some 0 ∧ r.initNat = 0))
  | .del _ _ => True

/-- The state of the tables is left alone by an opening of the device. -/
structure SameCache (s s' : LibState) : Prop where
  ip4Tbl : s'.ip4Tbl = s.ip4Tbl
  tableCnt : s'.tableCnt = s.tableCnt
  maps : s'.maps = s.maps

theorem baseEntries_ne_zero (numberOfEntries : UInt16) : baseEntries numberOfEntries ≠ 0 := by
  rw [baseEntries]
  split
  case isTrue => decide
  case isFalse hne => exact hne

theorem getNearest2Power_fst {num : UInt16} (h : num ≠ 0) : (getNearest2Power num).1 = 0 := by
  rw [getNearest2Power, if_neg h]
  split
  · rfl
  · rfl

theorem openIpaDevice_sameCache {r : AddResults} {s s' : LibState}
    (h : openIpaDevice r s = some s') : SameCache s s' := by
  rw [openIpaDevice] at h
  split at h
  · split at h
    · cases h
    · cases h
      exact ⟨rfl, rfl, rfl⟩
  · cases h
    exact ⟨rfl, rfl, rfl⟩

theorem natiAllocTable_cases (numberOfEntries : UInt16) (r : AddResults) (s : LibState) :
    ∃ ret mem tableEntries expnTableEntries s', natiAllocTable numberOfEntries r s =
        (ret, mem, tableEntries, expnTableEntries, s') ∧ SameCache s s' ∧
      (ret ≠ 0 ↔ r.AllocFails s) ∧ (s.ipaFd ≠ 0 ∨ r.openIpa = none → s' = s) := by
  rw [natiAllocTable]
  dsimp only
  rw [if_neg (not_not.mpr (getNearest2Power_fst (baseEntries_ne_zero numberOfEntries)))]
  cases hopen : openIpaDevice r s with
  | none =>
      refine ⟨_, _, _, _, _, rfl, ⟨rfl, rfl, rfl⟩, ?_, fun _ => rfl⟩
      constructor
      · intro _
        rw [openIpaDevice] at hopen
        split at hopen
        case isTrue hfd =>
          split at hopen
          case h_1 hnone => exact Or.inl ⟨hfd, hnone⟩
          case h_2 => cases hopen
        case isFalse => cases hopen
      · intro _
        decide
  | some s' =>
      refine ⟨_, _, _, _, _, rfl, openIpaDevice_sameCache hopen, ?_, ?_⟩
      · constructor
        · intro hret
          right
          intro hzero
          rw [if_neg (not_not.mpr hzero)] at hret
          exact hret rfl
        · rintro (⟨hfd, hnone⟩ | hret)
          · rw [openIpaDevice, if_pos hfd, hnone] at hopen
            cases hopen
          · rw [if_pos hret]
            decide
      · intro hor
        rw [openIpaDevice] at hopen
        split at hopen
        case isTrue hfd =>
          rw [hor.resolve_left (not_not.mpr hfd)] at hopen
          cases hopen
        case isFalse =>
          cases hopen
          rfl

/-- A free slot takes the table when the device opens: either the mapping has
failed, or it is there and the slot is valid. -/
theorem natiUpdateCache_of_room {m : NatMem} {p : UInt32} {t e : UInt16} {r : AddResults}
    {s : LibState} {tbl : Ip4TableSlot} (hslot : s.ip4Tbl[s.tableCnt.toNat]? = some tbl)
    (hopen : r.openNat.isSome) (hmmap : r.mmap ≠ some 0) :
    ∃ tbl' s', natiUpdateCache m p t e r s = .ok (0, s') ∧
      s'.ip4Tbl = s.ip4Tbl.set s.tableCnt.toNat tbl' ∧ s'.tableCnt = s.tableCnt ∧
      tbl'.valid = 1 ∧ tbl'.ipv4RulesAddr = r.mmap := by
  obtain ⟨fd, hfd⟩ := Option.isSome_iff_exists.mp hopen
  rw [natiUpdateCache]
  dsimp only
  rw [hslot]
  dsimp only
  rw [hfd]
  dsimp only
  cases hmap : r.mmap with
  | none => exact ⟨_, _, rfl, rfl, rfl, rfl, rfl⟩
  | some addr =>
      have hne : addr ≠ 0 := by
        rintro rfl
        exact hmmap hmap
      dsimp only
      rw [if_neg hne]
      exact ⟨_, _, rfl, rfl, rfl, rfl, rfl⟩

theorem TblsCounted.slot {s : LibState} (h : TblsCounted s)
    (hroom : s.tableCnt.toNat < ipaNatMaxIp4Tbls) :
    ∃ tbl, s.ip4Tbl = [tbl] ∧ s.tableCnt = 0 ∧ tbl.valid = 0 := by
  obtain ⟨tbl, htbl⟩ := List.length_eq_one_iff.mp h.length
  have hcnt : s.tableCnt.toNat = 0 := by
    rw [ipaNatMaxIp4Tbls] at hroom
    omega
  refine ⟨tbl, htbl, UInt8.toNat_inj.mp hcnt, ?_⟩
  have hcount := h.count
  rw [hcnt, validCount, htbl] at hcount
  have hnone := List.countP_eq_zero.mp hcount.symm tbl List.mem_cons_self
  simpa using hnone

/-- What holds of the end of a call. -/
def CallOk (s : LibState) (isAdd : Prop) : Except TblFault (Int × LibState) → Prop
  | .error fault => fault ≠ .indexOutOfBounds
  | .ok (ret, s') => TblsCounted s' ∧ (isAdd → ret ≠ 0 → SameTables s s')

theorem CallOk.same {s : LibState} {isAdd : Prop} {ret : Int} (h : TblsCounted s) :
    CallOk s isAdd (.ok (ret, s)) :=
  ⟨h, fun _ _ => SameTables.refl s⟩

theorem natAddIpv4Tbl_ok {s : LibState} (h : TblsCounted s) (publicIpAddr : UInt32)
    {numberOfEntries : UInt16} {hdlIsNull : Bool} {r : AddResults}
    (hok : (TblCall.add publicIpAddr numberOfEntries hdlIsNull r).Checked s) :
    CallOk s True (tblCall s (.add publicIpAddr numberOfEntries hdlIsNull r)) := by
  rw [tblCall, natAddIpv4Tbl]
  split
  case isTrue => exact CallOk.same h
  case isFalse hargs =>
  have hcalls := (hok.resolve_left fun hnull => hargs (Or.inl hnull)).resolve_left
    fun hzero => hargs (Or.inr hzero)
  obtain ⟨ret, mem, tableEntries, expnTableEntries, s₁, halloc, hsame, hret, hkeep⟩ :=
    natiAllocTable_cases numberOfEntries r s
  rw [natiAddIpv4Tbl]
  dsimp only
  rw [halloc]
  dsimp only
  rcases hcalls with ⟨hfails, hclosed⟩ | ⟨hfails, hroom, hopen, hlater⟩
  · rw [if_pos (hret.mpr hfails), hkeep hclosed]
    exact CallOk.same h
  · rw [if_neg (fun hne => hfails (hret.mp hne))]
    obtain ⟨tbl, htbl, hcnt, hfree⟩ := h.slot hroom
    have hmmap : r.mmap ≠ some 0 := by
      rcases hlater with hnone | hlater
      · rw [hnone]
        nofun
      · exact hlater.1
    have hslot : s₁.ip4Tbl[s₁.tableCnt.toNat]? = some tbl := by
      rw [hsame.ip4Tbl, hsame.tableCnt, htbl, hcnt]
      rfl
    obtain ⟨tbl', s₂, hupdate, hset, hcnt₂, hvalid, haddr⟩ := natiUpdateCache_of_room
      (m := mem) (p := publicIpAddr) (t := tableEntries) (e := expnTableEntries) hslot hopen hmmap
    have htbl₂ : s₂.ip4Tbl = [tbl'] := by
      rw [hset, hsame.ip4Tbl, hsame.tableCnt, htbl, hcnt]
      rfl
    have hindex : s₂.ip4Tbl[s.tableCnt.toNat]? = some tbl' := by
      rw [htbl₂, hcnt]
      rfl
    have hreset : natiResetTbl s.tableCnt s₂ =
        if r.mmap = none then .error .mapFailed else .ok () := by
      rw [natiResetTbl, hindex]
      dsimp only
      rw [haddr]
    have hpost : natiPostIpv4InitCmd s.tableCnt r s₂ =
        .ok (if r.initNat ≠ 0 then -einval else 0) := by
      rw [natiPostIpv4InitCmd, hindex]
    rw [hupdate]
    simp only [bind, Except.bind, pure, Except.pure, ne_eq, not_true_eq_false, if_false,
      hreset, hpost]
    cases hmap : r.mmap with
    | none =>
        rw [if_pos rfl]
        exact TblFault.noConfusion
    | some addr =>
        have hinit : r.initNat = 0 := by
          rcases hlater with hnone | hlater
          · rw [hmap] at hnone
            cases hnone
          · exact hlater.2
        rw [if_neg (Option.some_ne_none addr)]
        simp only [hinit, not_true_eq_false, if_false]
        refine ⟨⟨?_, ?_⟩, fun _ hne => absurd rfl hne⟩
        · rw [htbl₂]
          rfl
        · rw [validCount, htbl₂, hcnt₂, hsame.tableCnt, hcnt]
          rw [List.countP_cons_of_pos (by rw [hvalid]; rfl)]
          rfl

theorem natDelIpv4Tbl_ok {s : LibState} (h : TblsCounted s) (tblHdl : UInt32) (r : DelResults) :
    CallOk s False (tblCall s (.del tblHdl r)) := by
  have hsame : ∀ (fds : List Int) (maps : List (Nat × Nat)),
      CallOk s False (.ok (-einval, { s with fds := fds, maps := maps })) :=
    fun _ _ => ⟨⟨h.length, h.count⟩, False.elim⟩
  obtain ⟨tbl, htbl⟩ := List.length_eq_one_iff.mp h.length
  rw [tblCall, natDelIpv4Tbl]
  split
  case isTrue => exact hsame _ _
  case isFalse hhdl =>
  have hindex : tblHdl = 1 := by
    rw [ipaNatMaxIp4Tbls] at hhdl
    rw [← UInt32.toNat_inj] at hhdl ⊢
    change tblHdl.toNat = 1
    have hzero : (0 : UInt32).toNat = 0 := rfl
    omega
  subst hindex
  have hslot : s.ip4Tbl[((1 : UInt32) - 1).toUInt8.toNat]? = some tbl := by
    rw [htbl]
    rfl
  rw [natiDelIpv4Table]
  dsimp only
  rw [hslot]
  dsimp only
  split
  case isTrue => exact hsame _ _
  case isFalse hvalid =>
  have hcount := h.count
  rw [validCount, htbl, List.countP_cons_of_pos (by simpa using hvalid)] at hcount
  split
  case isTrue => exact hsame _ _
  case isFalse =>
  split
  case isTrue => exact hsame _ _
  case isFalse =>
    refine ⟨⟨?_, ?_⟩, False.elim⟩
    · change (s.ip4Tbl.set _ _).length = _
      rw [List.length_set]
      exact h.length
    · have hone : s.tableCnt = 1 := UInt8.toNat_inj.mp hcount
      rw [validCount, htbl, hone]
      rfl

theorem tblsCounted_init : TblsCounted LibState.init := ⟨rfl, rfl⟩

/-- One call that returns. -/
def tblStep (s : LibState) (call : TblCall) (s' : LibState) : Prop :=
  ∃ ret, tblCall s call = .ok (ret, s')

def TblCall.IsAdd : TblCall → Prop
  | .add _ _ _ _ => True
  | .del _ _ => False

theorem tblCall_ok {s : LibState} (h : TblsCounted s) {call : TblCall} (hok : call.Checked s) :
    CallOk s call.IsAdd (tblCall s call) := by
  cases call with
  | add publicIpAddr numberOfEntries hdlIsNull r => exact natAddIpv4Tbl_ok h publicIpAddr hok
  | del tblHdl r => exact natDelIpv4Tbl_ok h tblHdl r

/-- In every run whose additions are fit, the counter is right; and the next fit
call stays within the cache, and changes nothing if it is a failing addition. -/
theorem tblsCounted_of_run (calls : List TblCall) (s : LibState)
    (hrun : Run (Guarded (fun s call => call.Checked s) tblStep) LibState.init calls s) :
    TblsCounted s ∧ ∀ call : TblCall, call.Checked s → CallOk s call.IsAdd (tblCall s call) := by
  have hinv := hrun.invariant (I := TblsCounted) tblsCounted_init (by
    rintro s call s' h ⟨hok, ret, hcall⟩
    have hend := tblCall_ok h hok
    rw [hcall] at hend
    exact hend.1)
  exact ⟨hinv, fun call hok => tblCall_ok hinv hok⟩

/-- System calls that all succeed. -/
def addSucceeds : AddResults where
  openIpa := some 3
  allocNatMem := (0, 0)
  openNat := some 4
  mmap := some 4096
  initNat := 0

def delSucceeds : DelResults where
  munmap := 0
  close := 0
  delNat := 0

theorem tblsCounted_returned :
    TblsCounted { LibState.init with ipaFd := 3, fds := [3] } ∧
      ∀ call : TblCall, call.Checked { LibState.init with ipaFd := 3, fds := [3] } →
        CallOk { LibState.init with ipaFd := 3, fds := [3] } call.IsAdd
          (tblCall { LibState.init with ipaFd := 3, fds := [3] } call) :=
  tblsCounted_of_run [.add 9 100 false addSucceeds, .del 1 delSucceeds] _
    (Run.snoc (Run.snoc .nil
      ⟨Or.inr (Or.inr (Or.inr (by decide))), 0, rfl⟩) ⟨trivial, 0, rfl⟩)

/-- A second table goes past the end of the cache; a device that does not open
leaves the slot valid, and its deletion then wraps the counter. -/
theorem not_tblsCounted_failed :
    (∃ s, Run tblStep LibState.init [.add 9 100 false addSucceeds] s ∧
      tblCall s (.add 9 100 false addSucceeds) = .error .indexOutOfBounds) ∧
    (∃ s, Run tblStep LibState.init [.add 9 100 false { addSucceeds with openNat := none }] s ∧
      validCount s = 1 ∧ s.tableCnt = 0) ∧
    ∃ s, Run tblStep LibState.init
        [.add 9 100 false { addSucceeds with openNat := none }, .del 1 delSucceeds] s ∧
      s.tableCnt = 255 := by
  refine ⟨⟨_, Run.snoc .nil ⟨0, rfl⟩, ?_⟩, ⟨_, Run.snoc .nil ⟨-einval, rfl⟩, ?_⟩,
    ⟨_, Run.snoc (Run.snoc .nil ⟨-einval, rfl⟩) ⟨0, rfl⟩, ?_⟩⟩
  · rfl
  · exact ⟨rfl, rfl⟩
  · rfl

end LibraDevice.IpaNat
