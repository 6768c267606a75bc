import LibraDevice.Conntrack.Listener
import LibraDevice.NatCache.Slots

/-!
Where a message leads, by its flags and addresses and by the tables of the
listener.
-/

namespace LibraDevice.Conntrack

open NatCache

namespace NfConntrack

/-- Neither NAT flag is set. -/
def NoNatFlag (ct : NfConntrack) : Prop :=
  ipsDstNat &&& ct.status = 0 ∧ ipsSrcNat &&& ct.status = 0

/-- The end of a connection that is translated: a flag names it, or without a
flag it is the end with the WAN address. -/
inductive Translated (wanIpaddr : UInt32) (ct : NfConntrack) : NatStatus → Prop where
  | dstFlag (hdst : ipsDstNat &&& ct.status ≠ 0) : Translated wanIpaddr ct .dstNat
  | srcFlag (hdst : ipsDstNat &&& ct.status = 0) (hsrc : ipsSrcNat &&& ct.status ≠ 0) :
      Translated wanIpaddr ct .srcNat
  | fromWan (hno : ct.NoNatFlag) (hsrc : ct.origIpv4Src ≠ 0) (hdst : ct.origIpv4Dst ≠ 0)
      (hwan : ct.origIpv4Src = wanIpaddr) : Translated wanIpaddr ct .srcNat
  | toWan (hno : ct.NoNatFlag) (hsrc : ct.origIpv4Src ≠ 0) (hdst : ct.origIpv4Dst ≠ 0)
      (hne : ct.origIpv4Src ≠ wanIpaddr) (hwan : ct.origIpv4Dst = wanIpaddr) :
      Translated wanIpaddr ct .dstNat

/-- Private and target address, their ports and the protocol. A connection of the
WAN address itself goes by its public port. -/
def tuple (wanIpaddr : UInt32) (ct : NfConntrack) :
    NatStatus → UInt32 × UInt32 × UInt16 × UInt16 × UInt8
  | .dstNat =>
    (ct.replIpv4Src, ct.origIpv4Src,
      if ct.replIpv4Src = wanIpaddr then ct.origPortDst else ct.replPortSrc,
      ct.origPortSrc, ct.replL4proto)
  | .srcNat =>
    (ct.origIpv4Src, ct.origIpv4Dst,
      if ct.origIpv4Src = wanIpaddr then ct.replPortDst else ct.origPortSrc,
      ct.origPortDst, ct.replL4proto)

end NfConntrack

section

variable {δ : Type}

/-- An end of the rule is the address of a NAT interface. -/
def OnNatIface (rule : NatTableEntry) (lst : CtListener δ) : Prop :=
  ∃ addr ∈ lst.natIfaceIpv4Addr, addr ≠ 0 ∧ (rule.privateIp = addr ∨ rule.targetIp = addr)

/-- An end of the rule is in a private subnet. -/
def InPrivateSubnet (cfg : Config) (rule : NatTableEntry) : Prop :=
  ∃ subnet ∈ cfg.privateSubnetTable,
    subnet.1 = subnet.2 &&& rule.privateIp ∨ subnet.1 = subnet.2 &&& rule.targetIp

/-- In STA mode a target in the subnet of slot 0 is among the first `StaClntCnt`
slots. -/
def OfStaClnt (rule : NatTableEntry) (lst : CtListener δ) : Prop :=
  lst.isStaMode = true → lst.staClntCnt ≠ 0 →
    lst.staClntIpv4Addr.headD 0 &&& 0xFFFFFF00 = rule.targetIp &&& 0xFFFFFF00 →
    rule.targetIp ∈ lst.staClntIpv4Addr.take lst.staClntCnt.toNat

/-- The tables lead the rule to the cache. -/
def LedToCache (rule : NatTableEntry) (lst : CtListener δ) : Prop :=
  (if rule.privateIp = lst.wanIpaddr then lst.isStaMode = false else OnNatIface rule lst) ∧
    OfStaClnt rule lst

/-- The tables lead the rule to the temporary entries. -/
def LedToTemp (cfg : Config) (rule : NatTableEntry) (lst : CtListener δ) : Prop :=
  rule.privateIp ≠ lst.wanIpaddr ∧ ¬OnNatIface rule lst ∧ InPrivateSubnet cfg rule ∧
    OfStaClnt rule lst

/-- The message is one of the rule's connection. -/
def NfConntrack.Names (ct : NfConntrack) (rule : NatTableEntry) (lst : CtListener δ) : Prop :=
  ∃ status, ct.Translated lst.wanIpaddr status ∧ ct.tuple lst.wanIpaddr status = rule.tuple

theorem natStatus_iff {wanIpaddr : UInt32} {ct : NfConntrack} {status : NatStatus} :
    (∃ publicIp, natStatus wanIpaddr ct = some (status, publicIp)) ↔
      ct.Translated wanIpaddr status := by
  constructor
  · rintro ⟨publicIp, h⟩
    rw [natStatus] at h
    split at h
    case isTrue hdst =>
      cases h
      exact .dstFlag hdst
    case isFalse hdst =>
    rw [ne_eq, Decidable.not_not] at hdst
    split at h
    case isTrue hsrc =>
      cases h
      exact .srcFlag hdst hsrc
    case isFalse hsrc =>
    rw [ne_eq, Decidable.not_not] at hsrc
    split at h
    case isTrue => cases h
    case isFalse hsrc0 =>
    split at h
    case isTrue => cases h
    case isFalse hdst0 =>
    split at h
    case isTrue hwan =>
      cases h
      exact .fromWan ⟨hdst, hsrc⟩ hsrc0 hdst0 hwan
    case isFalse hne =>
    split at h
    case isTrue hwan =>
      cases h
      exact .toWan ⟨hdst, hsrc⟩ hsrc0 hdst0 hne hwan
    case isFalse => cases h
  · intro h
    cases h with
    | dstFlag hdst => exact ⟨0, if_pos hdst⟩
    | srcFlag hdst hsrc =>
        refine ⟨0, ?_⟩
        rw [natStatus, if_neg (fun h => h hdst), if_pos hsrc]
    | fromWan hno hsrc hdst hwan =>
        refine ⟨wanIpaddr.toUInt16, ?_⟩
        rw [natStatus, if_neg (fun h => h hno.1), if_neg (fun h => h hno.2), if_neg hsrc,
          if_neg hdst, if_pos hwan]
    | toWan hno hsrc hdst hne hwan =>
        refine ⟨wanIpaddr.toUInt16, ?_⟩
        rw [natStatus, if_neg (fun h => h hno.1), if_neg (fun h => h hno.2), if_neg hsrc,
          if_neg hdst, if_neg hne, if_pos hwan]

theorem ctRule_tuple {wanIpaddr : UInt32} {ct : NfConntrack} {status : NatStatus}
    (publicIp : UInt16) (hne : (ctRule status publicIp ct).privateIp ≠ wanIpaddr) :
    (ctRule status publicIp ct).tuple = ct.tuple wanIpaddr status := by
  cases status with
  | dstNat =>
      have hne : ct.replIpv4Src ≠ wanIpaddr := hne
      rw [NfConntrack.tuple, if_neg hne]
      rfl
  | srcNat =>
      have hne : ct.origIpv4Src ≠ wanIpaddr := hne
      rw [NfConntrack.tuple, if_neg hne]
      rfl

theorem ctRule_tuple_wan {wanIpaddr : UInt32} {ct : NfConntrack} {status : NatStatus}
    (publicIp : UInt16) (hwan : (ctRule status publicIp ct).privateIp = wanIpaddr) :
    { ctRule status publicIp ct with
      privatePort := (ctRule status publicIp ct).publicPort }.tuple =
      ct.tuple wanIpaddr status := by
  cases status with
  | dstNat =>
      have hwan : ct.replIpv4Src = wanIpaddr := hwan
      rw [NfConntrack.tuple, if_pos hwan]
      rfl
  | srcNat =>
      have hwan : ct.origIpv4Src = wanIpaddr := hwan
      rw [NfConntrack.tuple, if_pos hwan]
      rfl

theorem matchesNatIface_iff {rule : NatTableEntry} {lst : CtListener δ} :
    matchesNatIface rule lst = true ↔ OnNatIface rule lst := by
  simp [matchesNatIface, OnNatIface]

theorem isPrivateSubnet_or_iff {cfg : Config} {rule : NatTableEntry} :
    (cfg.isPrivateSubnet rule.privateIp || cfg.isPrivateSubnet rule.targetIp) = true ↔
      InPrivateSubnet cfg rule := by
  rw [Bool.or_eq_true, Config.isPrivateSubnet, Config.isPrivateSubnet, List.any_eq_true,
    List.any_eq_true, InPrivateSubnet]
  simp only [beq_iff_eq, and_or_left, exists_or]

theorem passesStaClnt_iff {rule : NatTableEntry} {lst : CtListener δ} :
    passesStaClnt rule lst = true ↔ OfStaClnt rule lst := by
  simp only [passesStaClnt, staSubnet, OfStaClnt, Bool.or_eq_true, Bool.not_eq_true',
    beq_iff_eq, bne_iff_ne, List.contains_iff_mem]
  cases lst.isStaMode with
  | false => simp
  | true =>
      simp only [Bool.true_eq_false, false_or, true_implies]
      tauto

theorem staVerdict_eq_add_iff {rule rule' : NatTableEntry} {isTempEntry isTempEntry' : Bool}
    {lst : CtListener δ} :
    staVerdict rule isTempEntry lst = .add rule' isTempEntry' ↔
      OfStaClnt rule lst ∧ rule = rule' ∧ isTempEntry = isTempEntry' := by
  rw [staVerdict, ← passesStaClnt_iff]
  split
  case isTrue h => simp [h]
  case isFalse h => simp [h]

theorem ends_of_tuple {rule rule' : NatTableEntry} (h : rule'.tuple = rule.tuple) :
    rule'.privateIp = rule.privateIp ∧ rule'.targetIp = rule.targetIp := by
  simp only [NatTableEntry.tuple, Prod.mk.injEq] at h
  exact ⟨h.1, h.2.1⟩

theorem ledToCache_congr {rule rule' : NatTableEntry} (h : rule'.tuple = rule.tuple)
    {lst : CtListener δ} : LedToCache rule' lst ↔ LedToCache rule lst := by
  obtain ⟨hprivate, htarget⟩ := ends_of_tuple h
  rw [LedToCache, LedToCache, OnNatIface, OnNatIface, OfStaClnt, OfStaClnt, hprivate, htarget]

theorem ledToTemp_congr {cfg : Config} {rule rule' : NatTableEntry}
    (h : rule'.tuple = rule.tuple) {lst : CtListener δ} :
    LedToTemp cfg rule' lst ↔ LedToTemp cfg rule lst := by
  obtain ⟨hprivate, htarget⟩ := ends_of_tuple h
  rw [LedToTemp, LedToTemp, OnNatIface, OnNatIface, InPrivateSubnet, InPrivateSubnet, OfStaClnt,
    OfStaClnt, hprivate, htarget]

variable {cfg : Config} {ct : NfConntrack} {lst : CtListener δ} {rule : NatTableEntry}

theorem ctVerdict_add {isTempEntry : Bool} (h : ctVerdict cfg ct lst = .add rule isTempEntry) :
    ct.Names rule lst ∧
      if isTempEntry = true then LedToTemp cfg rule lst else LedToCache rule lst := by
  rw [ctVerdict] at h
  split at h
  case h_1 => cases h
  case h_2 status publicIp hstatus =>
    have htrans := natStatus_iff.mp ⟨publicIp, hstatus⟩
    dsimp only at h
    split at h
    case isTrue hne =>
      have htuple := ctRule_tuple publicIp hne
      split at h
      case isTrue hmatch =>
        obtain ⟨hsta, rfl, rfl⟩ := staVerdict_eq_add_iff.mp h
        refine ⟨⟨status, htrans, htuple.symm⟩, ?_, hsta⟩
        rw [if_neg hne]
        exact matchesNatIface_iff.mp hmatch
      case isFalse hmatch =>
        split at h
        case isTrue hprivate =>
          obtain ⟨hsta, rfl, rfl⟩ := staVerdict_eq_add_iff.mp h
          refine ⟨⟨status, htrans, htuple.symm⟩, hne, ?_, ?_, hsta⟩
          · rw [← matchesNatIface_iff]
            exact hmatch
          · exact isPrivateSubnet_or_iff.mp hprivate
        case isFalse => cases h
    case isFalse hwan =>
      rw [ne_eq, Decidable.not_not] at hwan
      split at h
      case isTrue => cases h
      case isFalse hsta =>
        obtain ⟨hclnt, rfl, rfl⟩ := staVerdict_eq_add_iff.mp h
        refine ⟨⟨status, htrans, (ctRule_tuple_wan publicIp hwan).symm⟩, ?_, hclnt⟩
        rw [if_pos hwan]
        exact Bool.eq_false_iff.mpr hsta

theorem ctVerdict_of_ledToCache (hnames : ct.Names rule lst) (hled : LedToCache rule lst) :
    ∃ rule', ctVerdict cfg ct lst = .add rule' false ∧ rule'.tuple = rule.tuple := by
  obtain ⟨status, htrans, htuple⟩ := hnames
  obtain ⟨publicIp, hstatus⟩ := natStatus_iff.mpr htrans
  by_cases hwan : (ctRule status publicIp ct).privateIp = lst.wanIpaddr
  case pos =>
    have hrule := (ctRule_tuple_wan publicIp hwan).trans htuple
    obtain ⟨hside, hclnt⟩ := (ledToCache_congr hrule).mpr hled
    rw [if_pos hwan] at hside
    refine ⟨_, ?_, hrule⟩
    rw [ctVerdict, hstatus]
    dsimp only
    rw [if_neg (fun h => h hwan), hside, if_neg Bool.false_ne_true]
    exact staVerdict_eq_add_iff.mpr ⟨hclnt, rfl, rfl⟩
  case neg =>
    have hrule := (ctRule_tuple publicIp hwan).trans htuple
    obtain ⟨hside, hclnt⟩ := (ledToCache_congr hrule).mpr hled
    rw [if_neg hwan] at hside
    refine ⟨_, ?_, hrule⟩
    rw [ctVerdict, hstatus]
    dsimp only
    rw [if_pos hwan, if_pos (matchesNatIface_iff.mpr hside)]
    exact staVerdict_eq_add_iff.mpr ⟨hclnt, rfl, rfl⟩

theorem ctVerdict_of_ledToTemp (hnames : ct.Names rule lst) (hled : LedToTemp cfg rule lst) :
    ∃ rule', ctVerdict cfg ct lst = .add rule' true ∧ rule'.tuple = rule.tuple := by
  obtain ⟨status, htrans, htuple⟩ := hnames
  obtain ⟨publicIp, hstatus⟩ := natStatus_iff.mpr htrans
  have hne : (ctRule status publicIp ct).privateIp ≠ lst.wanIpaddr := by
    have hprivate : (ctRule status publicIp ct).privateIp = rule.privateIp := by
      have hfirst := congrArg Prod.fst htuple
      cases status with
      | dstNat => exact hfirst
      | srcNat => exact hfirst
    rw [hprivate]
    exact hled.1
  have hrule := (ctRule_tuple publicIp hne).trans htuple
  obtain ⟨-, hmatch, hprivate, hclnt⟩ := (ledToTemp_congr hrule).mpr hled
  refine ⟨_, ?_, hrule⟩
  rw [ctVerdict, hstatus]
  dsimp only
  rw [if_pos hne, if_neg (fun h => hmatch (matchesNatIface_iff.mp h)),
    if_pos (isPrivateSubnet_or_iff.mpr hprivate)]
  exact staVerdict_eq_add_iff.mpr ⟨hclnt, rfl, rfl⟩

theorem ctVerdict_add_false_iff :
    (∃ rule', ctVerdict cfg ct lst = .add rule' false ∧ rule'.tuple = rule.tuple) ↔
      ct.Names rule lst ∧ LedToCache rule lst := by
  constructor
  · rintro ⟨rule', hverdict, htuple⟩
    obtain ⟨⟨status, htrans, hnames⟩, hled⟩ := ctVerdict_add hverdict
    exact ⟨⟨status, htrans, hnames.trans htuple⟩, (ledToCache_congr htuple).mp hled⟩
  · rintro ⟨hnames, hled⟩
    exact ctVerdict_of_ledToCache hnames hled

/-- The message is handled as one of the rule's connection, among the temporary
entries. -/
theorem ctVerdict_add_true_iff :
    (∃ rule', ctVerdict cfg ct lst = .add rule' true ∧ rule'.tuple = rule.tuple) ↔
      ct.Names rule lst ∧ LedToTemp cfg rule lst := by
  constructor
  · rintro ⟨rule', hverdict, htuple⟩
    obtain ⟨⟨status, htrans, hnames⟩, hled⟩ := ctVerdict_add hverdict
    exact ⟨⟨status, htrans, hnames.trans htuple⟩, (ledToTemp_congr htuple).mp hled⟩
  · rintro ⟨hnames, hled⟩
    exact ctVerdict_of_ledToTemp hnames hled

end

end LibraDevice.Conntrack
