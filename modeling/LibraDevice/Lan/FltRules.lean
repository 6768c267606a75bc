import LibraDevice.Lan.ApSlots
import LibraDevice.Lan.Filtering

/-!
The filter rules of a LAN interface (no ODU) and of a WLAN access point, whose pipe has
RX properties, in the build for Android without software routing; the rules on the
pipe by class, and what the calls to the driver do to them.
-/

namespace LibraDevice.Lan

open Backhaul
open LanToLan (IpAddr maxOffloadPair)

def maxWanUlFilterRules : Nat := 20
def maxNumExtProps : Nat := 15
def numIpv6PrefixFltRule : Int := 1
def numIpv6IcmpFltRule : Int := 1

/-- `private_subnet_table` up to `ipa_num_private_subnet`. -/
structure SubnetTable where
  entries : List PrivateSubnet
  fits : (entries.length : Int) ≤ maxPrivateSubnetEntries

theorem SubnetTable.fits_append (subnet : PrivateSubnet) {t : SubnetTable}
    (hroom : (t.entries.length : Int) < maxPrivateSubnetEntries) :
    ((t.entries ++ [subnet]).length : Int) ≤ maxPrivateSubnetEntries := by
  rw [List.length_append, Int.natCast_add]
  exact hroom

/-- The result tells whether `IPA_PRIVATE_SUBNET_CHANGE_EVENT` is posted. -/
def SubnetTable.addPrivateSubnet (ipAddr : UInt32) (t : SubnetTable) : Bool × SubnetTable :=
  if ipAddr ∈ t.entries.map PrivateSubnet.subnetAddr then (false, t)
  else if hroom : (t.entries.length : Int) < maxPrivateSubnetEntries then
    (true, ⟨t.entries ++ [⟨ipAddr, 0xFFFFFF00⟩], fits_append _ hroom⟩)
  else (false, t)

/-- `ext_prop_v4` and `ext_prop_v6`, as `SetExtProp` fills them. -/
structure ExtProps where
  props : Fam (List ExtProp)
  fits : ∀ f, (props.get f).length ≤ maxNumExtProps

inductive FltKind where
  | lan
  | wlan (ap : WlanAp)
deriving DecidableEq, Repr

/-- The members for filter rules: `ep` is the `src_pipe` of its RX properties, `ipv6Addr` has
`num_dft_rt_v6` addresses, `wanFl` stands for `lan_wan_fl_rule_hdl[0]` and for
`dft_v6fl_rule_hdl[IPV6_DEFAULT_FILTERTING_RULES]`. -/
structure FltIface where
  kind : FltKind
  ep : Nat
  ipType : IfaceIpType
  ipv6Addr : List IpAddr
  dftFl : Fam (List Hdl)
  lan2lanFl : Fam (List Hdl)
  privateFl : List Hdl
  ipv6IcmpFl : Hdl
  ipv6PrefixFl : Hdl
  wanUlFl : Fam (List Hdl)
  wanFl : Fam Hdl
  fltRuleCount : Fam Int
  modemUlSet : Fam Bool
deriving DecidableEq, Repr

def numDefaultRules : IpType → Int
  | .v4 => ipv4DefaultFilteringRules
  | .v6 => ipv6DefaultFilteringRules

/-- What the constructors leave; `lan_wan_fl_rule_hdl` is not cleared. -/
def FltIface.new (kind : FltKind) (ep : Nat) (lanWanFl : Hdl) : FltIface where
  kind := kind
  ep := ep
  ipType := .null
  ipv6Addr := []
  dftFl := ⟨List.replicate 3 0, List.replicate 6 0⟩
  lan2lanFl := ⟨List.replicate 3 0, List.replicate 3 0⟩
  privateFl := List.replicate 3 0
  ipv6IcmpFl := 0
  ipv6PrefixFl := 0
  wanUlFl := ⟨[], []⟩
  wanFl := ⟨lanWanFl, 0⟩
  fltRuleCount := ⟨0, 0⟩
  modemUlSet := ⟨false, false⟩

def FltIface.addCount (f : IpType) (n : Int) (i : FltIface) : FltIface :=
  { i with fltRuleCount := i.fltRuleCount.set (i.fltRuleCount.get f + n) f }

/-- An interface and the driver. -/
structure FltSt where
  iface : FltIface
  ipa : FltDriver
deriving DecidableEq, Repr

/-- What does not change while the interface is there. -/
structure FltStatics where
  ext : ExtProps
  dummyFltRuleHdl : Fam (List Hdl)

/-- What the driver says to the calls of one event: `rtRules` of the routing rules of
`handle_addr_evt`, `modify` of `ModifyFilteringRule`, `qmapId` of `IPA_IOC_WRITE_QMAPID`,
`filterIndex` of `SendFilteringRuleIndex`. -/
structure Answers where
  ipv6Icmp : Answer
  rtRules : Bool
  dft : Answer
  lan2lan : Answer
  privateFl : Answer
  modify : Bool
  qmapId : Bool
  ipv6Prefix : Answer
  filterIndex : Bool
  uplink : Answer
  wan : Answer
  refused : List Hdl

inductive IfaceAddr where
  | v4 (addr : UInt32)
  | v6 (addr : IpAddr)
deriving DecidableEq, Repr

def IfaceAddr.iptype : IfaceAddr → IpType
  | .v4 _ => .v4
  | .v6 _ => .v6

def IfaceAddr.isZero : IfaceAddr → Bool
  | .v4 addr => addr = 0
  | .v6 addr => addr = ⟨0, 0, 0, 0⟩

/-- What an address event finds: the private subnets, `isWanUP` and `isWanUP_V6` of the
interface, and the static members of `IPACM_Wan`. -/
structure Surroundings where
  subnets : SubnetTable
  isWanUp : Fam Bool
  backhaulIsStaMode : Bool
  backhaulIpv6Prefix : UInt32 × UInt32

/-- The events of an interface that concern its filter rules. -/
inductive FltEvent where
  | addrAdd (addr : IfaceAddr) (env : Surroundings)
  | privateSubnetChange (fromItself : Bool) (subnets : SubnetTable)
  | wanUpTether (f : IpType) (isSta : Bool) (ipv6Prefix : UInt32 × UInt32)
  | wanDownTether (f : IpType) (isSta : Bool)

namespace FltSt

/-- Rules are added at the rear of the pipe's list, and their handles are stored. -/
def install (f : IpType) (rules : List FltRule) (answer : Answer)
    (store : List Hdl → FltIface → FltIface) (s : FltSt) : Option FltSt :=
  match answer with
  | none => some s
  | some hdls => do
      let ipa ← s.ipa.addFilteringRule s.iface.ep f rules hdls
      some { iface := store hdls s.iface, ipa := ipa }

variable (st : FltStatics) (a : Answers)

/-- The entries of a dummy array from `offset` on. -/
def dummySlots (f : IpType) (offset count : Int) : List Hdl :=
  ((st.dummyFltRuleHdl.get f).drop offset.toNat).take count.toNat

def modify (f : IpType) (new : List (Hdl × FltRule)) (s : FltSt) : Bool × FltSt :=
  if a.modify then
    let (ok, ipa) := s.ipa.modifyFilteringRule f new
    (ok, { s with ipa := ipa })
  else (false, s)

def delete (f : IpType) (hdls : List Hdl) (s : FltSt) : Bool × FltSt :=
  let (ok, ipa) := s.ipa.deleteFilteringHdls f a.refused hdls
  (ok, { s with ipa := ipa })

def installIpv6IcmpFltRule (s : FltSt) : Option FltSt :=
  s.install .v6 [.ipv6Icmp] a.ipv6Icmp fun hdls i =>
    { i.addCount .v6 1 with ipv6IcmpFl := hdls.headD 0 }

/-- The default rules of a family. -/
def dftRules (f : IpType) : List FltRule :=
  (List.range (numDefaultRules f).toNat).map (.dft f)

/-- `IPACM_Iface::init_fl_rule` and `IPACM_Wlan::init_fl_rule`, with `n` private subnets. -/
def initFlRule (n : Int) (f : IpType) (s : FltSt) : Option FltSt :=
  if s.iface.ipType.supports f then some s
  else
    let s := { s with iface := { s.iface with ipType := s.iface.ipType.add f } }
    match s.iface.kind with
    | .lan =>
        s.install f (dftRules f) a.dft fun hdls i =>
          { i.addCount f (numDefaultRules f) with dftFl := i.dftFl.set hdls f }
    | .wlan ap =>
        let slots := dummySlots st f (initFlRuleOffset ap n f) (numDefaultRules f)
        match s.modify a f (slots.zip (dftRules f)) with
        | (true, s) => some { s with iface := { s.iface with dftFl := s.iface.dftFl.set slots f } }
        | (false, s) => some s

def addDummyLan2lanFltRule (n : Int) (f : IpType) (s : FltSt) : Option FltSt :=
  match s.iface.kind with
  | .lan =>
      s.install f (List.replicate maxOffloadPair .dummy) a.lan2lan fun hdls i =>
        { i.addCount f maxOffloadPair with lan2lanFl := i.lan2lanFl.set hdls f }
  | .wlan ap =>
      let slots := dummySlots st f (lan2lanOffset ap n f) maxOffloadPair
      some { s with iface := { s.iface with lan2lanFl := s.iface.lan2lanFl.set slots f } }

/-- The rules that come with the first IPv6 address. -/
def firstIpv6Rules (n : Int) (s : FltSt) : Option FltSt :=
  if s.iface.ipv6Addr = [] then do
    let s ← s.addDummyLan2lanFltRule st a n .v6
    s.initFlRule st a n .v6
  else some s

/-- `handle_addr_evt`, after `AddPrivateSubnet`. The result is false for `IPACM_FAILURE`. -/
def handleAddrEvt (n : Int) (addr : IfaceAddr) (s : FltSt) : Option (Bool × FltSt) :=
  match addr with
  | .v4 _ =>
      if a.rtRules = false then some (false, s)
      else do
        let s ← s.initFlRule st a n .v4
        let s ← s.addDummyLan2lanFltRule st a n .v4
        some (true, s)
  | .v6 addr =>
      if addr ∈ s.iface.ipv6Addr ∨ a.rtRules = false then some (false, s)
      else do
        let s ← s.firstIpv6Rules st a n
        some (true, { s with iface := { s.iface with ipv6Addr := s.iface.ipv6Addr ++ [addr] } })

def handlePrivateSubnet (f : IpType) (subnets : SubnetTable) (s : FltSt) : Option FltSt :=
  match f with
  | .v4 =>
      s.install .v4 (subnets.entries.map .privateSubnet) a.privateFl fun hdls i =>
        { i.addCount .v4 subnets.entries.length with
          privateFl := hdls ++ i.privateFl.drop hdls.length }
  | .v6 => some s

/-- `IPACM_Wlan::add_dummy_private_subnet_flt_rule`. -/
def addDummyPrivateSubnetFltRule (ap : WlanAp) (n : Int) (f : IpType) (s : FltSt) : FltSt :=
  match f with
  | .v4 =>
      let slots := dummySlots st .v4 (privateSubnetOffset ap n) maxPrivateSubnetEntries
      { s with iface := { s.iface with privateFl := slots } }
  | .v6 => s

def resetToDummyFltRule (f : IpType) (h : Hdl) (s : FltSt) : Bool × FltSt :=
  s.modify a f [(h, .dummy)]

def handlePrivateSubnetAndroid (f : IpType) (subnets : SubnetTable) (s : FltSt) : FltSt :=
  match f with
  | .v4 =>
      let s := s.iface.privateFl.foldl (fun s h => (s.resetToDummyFltRule a .v4 h).2) s
      (s.modify a .v4 (s.iface.privateFl.zip (subnets.entries.map .privateSubnet))).2
  | .v6 => s

def installIpv6PrefixFltRule (ipv6Prefix : UInt32 × UInt32) (s : FltSt) : Option FltSt :=
  s.install .v6 [.ipv6Prefix ipv6Prefix.1 ipv6Prefix.2] a.ipv6Prefix fun hdls i =>
    { i.addCount .v6 1 with ipv6PrefixFl := hdls.headD 0 }

/-- `handle_wan_up`, for a station. -/
def handleWanUp (f : IpType) (s : FltSt) : Option FltSt :=
  s.install f [.wan f] a.wan fun hdls i => { i with wanFl := i.wanFl.set (hdls.headD 0) f }

/-- The indices from `offset` on are sent, then the rules are added. -/
def sendAndAdd (f : IpType) (offset : Int) (s : FltSt) : Option FltSt :=
  let props := st.ext.props.get f
  if a.filterIndex = false then some s
  else do
    let s ← s.install f (props.map (.uplink f)) a.uplink fun hdls i =>
      { i with wanUlFl := i.wanUlFl.set (i.wanUlFl.get f ++ hdls) f }
    let notice : Notice :=
      { iptype := f
        filterIndex := (List.range props.length).map fun cnt => offset + (cnt : Int)
        hdls := a.uplink.getD []
        pipe := s.ipa.pipe s.iface.ep f }
    some { s with ipa := { s.ipa with notices := s.ipa.notices ++ [notice] } }

/-- `offset` of `IPACM_Wlan::handle_uplink_filter_rule`. -/
def uplinkOffset (n : Int) : IpType → Int
  | .v4 =>
      2 * (ipv4DefaultFilteringRules + maxOffloadPair + n) + 2 * (maxPrivateSubnetEntries - n)
  | .v6 =>
      2 * (ipv6DefaultFilteringRules + maxOffloadPair) + numIpv6PrefixFltRule
        + numIpv6IcmpFltRule

/-- `IPACM_Lan::handle_uplink_filter_rule` and `IPACM_Wlan::handle_uplink_filter_rule`. -/
def handleUplinkFilterRule (n : Int) (f : IpType) (s : FltSt) : Option FltSt :=
  let props := st.ext.props.get f
  if props = [] then some s
  else
    match s.iface.kind with
    | .lan =>
        let offset := s.iface.fltRuleCount.get f
        { s with iface := s.iface.addCount f props.length }.sendAndAdd st a f offset
    | .wlan ap =>
        if 0 < ap.wlanApIndex then some s else s.sendAndAdd st a f (uplinkOffset n f)

/-- The static rules are added once, those for IPv6 for the first address. -/
def UplinkDue (f : IpType) (i : FltIface) : Prop :=
  i.modemUlSet.get f = false ∧ (f = .v6 → i.ipv6Addr.length = 1)

instance instDecidableUplinkDue (f : IpType) (i : FltIface) : Decidable (UplinkDue f i) :=
  inferInstanceAs (Decidable (i.modemUlSet.get f = false ∧ (f = .v6 → i.ipv6Addr.length = 1)))

def handleWanUpEx (n : Int) (f : IpType) (s : FltSt) : Option FltSt :=
  if a.qmapId = false then some s
  else if UplinkDue f s.iface then do
    let s ← s.handleUplinkFilterRule st a n f
    some { s with iface := { s.iface with modemUlSet := s.iface.modemUlSet.set true f } }
  else some s

/-- Whether the interface installs the rules an access point has only once. -/
def FltKind.isFirst : FltKind → Bool
  | .lan => true
  | .wlan ap => ap.wlanApIndex = 0

/-- The rule for the IPv6 prefix of the backhaul. -/
def wanUpPrefix (f : IpType) (ipv6Prefix : UInt32 × UInt32) (s : FltSt) : Option FltSt :=
  match f with
  | .v4 => some s
  | .v6 => if FltKind.isFirst s.iface.kind then s.installIpv6PrefixFltRule a ipv6Prefix else some s

/-- What an address event and `IPA_HANDLE_WAN_UP_TETHER` do for a backhaul that is up. -/
def onWanUp (n : Int) (f : IpType) (isSta : Bool) (ipv6Prefix : UInt32 × UInt32) (s : FltSt) :
    Option FltSt := do
  let s ← s.wanUpPrefix a f ipv6Prefix
  if isSta then s.handleWanUp a f else s.handleWanUpEx st a n f

/-- The count `handle_wan_down` and `handle_wan_down_v6` start again from;
`ipa_num_private_subnet` is added to it and subtracted. -/
def wanDownCount : IpType → Int
  | .v4 => ipv4DefaultFilteringRules + maxOffloadPair + maxPrivateSubnetEntries
  | .v6 => ipv6DefaultFilteringRules + maxOffloadPair + numIpv6IcmpFltRule

/-- The rules for the backhaul are deleted. -/
def dropWanRules (f : IpType) (isSta : Bool) (s : FltSt) : FltSt :=
  if isSta then (s.delete a f [s.iface.wanFl.get f]).2
  else if maxWanUlFilterRules < (s.iface.wanUlFl.get f).length then s
  else
    match s.delete a f (s.iface.wanUlFl.get f) with
    | (false, s) => s
    | (true, s) =>
        { s with
          iface := { s.iface with
            wanUlFl := s.iface.wanUlFl.set [] f
            modemUlSet := s.iface.modemUlSet.set false f } }

/-- `handle_wan_down` and `handle_wan_down_v6`. -/
def handleWanDown (f : IpType) (isSta : Bool) (s : FltSt) : FltSt :=
  let s := { s with
    iface := { s.iface with fltRuleCount := s.iface.fltRuleCount.set (wanDownCount f) f } }
  match f with
  | .v4 => s.dropWanRules a .v4 isSta
  | .v6 =>
      match s.delete a .v6 [s.iface.ipv6PrefixFl] with
      | (false, s) => s
      | (true, s) => s.dropWanRules a .v6 isSta

/-- The check of `IPA_ADDR_ADD_EVENT`: no IPv4 address yet, or room for an IPv6 address. -/
def AcceptsAddr (i : FltIface) : IfaceAddr → Prop
  | .v4 _ => i.ipType = .null ∨ i.ipType = .v6
  | .v6 _ => i.ipType = .null ∨ i.ipType = .v4 ∨ i.ipv6Addr.length ≠ maxDefaultV6RouteRules

instance instDecidableAcceptsAddr (i : FltIface) (addr : IfaceAddr) :
    Decidable (AcceptsAddr i addr) :=
  match addr with
  | .v4 _ => inferInstanceAs (Decidable (i.ipType = .null ∨ i.ipType = .v6))
  | .v6 _ => inferInstanceAs (Decidable
      (i.ipType = .null ∨ i.ipType = .v4 ∨ i.ipv6Addr.length ≠ maxDefaultV6RouteRules))

/-- Before `handle_addr_evt`. -/
def addrIcmpRule (f : IpType) (s : FltSt) : Option FltSt :=
  match f with
  | .v4 => some s
  | .v6 =>
      if s.iface.ipv6Addr = [] ∧ FltKind.isFirst s.iface.kind then s.installIpv6IcmpFltRule a
      else some s

/-- The rules for private subnets, after `handle_addr_evt`. -/
def addrPrivateSubnets (f : IpType) (subnets : SubnetTable) (s : FltSt) : Option FltSt :=
  match s.iface.kind with
  | .lan => s.handlePrivateSubnet a f subnets
  | .wlan ap =>
      some ((s.addDummyPrivateSubnetFltRule st ap subnets.entries.length
        f).handlePrivateSubnetAndroid a f subnets)

/-- The subnet of an IPv4 address is added to the private ones. -/
def addrSubnets (addr : IfaceAddr) (subnets : SubnetTable) : SubnetTable :=
  match addr with
  | .v4 addr => (subnets.addPrivateSubnet (addr >>> 8 <<< 8)).2
  | .v6 _ => subnets

/-- `IPA_ADDR_ADD_EVENT`, while `ipa_sw_rt_enable` is false. -/
def addrAdd (addr : IfaceAddr) (env : Surroundings) (s : FltSt) : Option FltSt :=
  let f := addr.iptype
  let subnets := addrSubnets addr env.subnets
  let n : Int := subnets.entries.length
  if addr.isZero ∨ ¬ AcceptsAddr s.iface addr then some s
  else do
    let s ← s.addrIcmpRule a f
    match ← s.handleAddrEvt st a n addr with
    | (false, s) => some s
    | (true, s) => do
        let s ← s.addrPrivateSubnets st a f subnets
        if env.isWanUp.get f ∧ (f = .v6 → s.iface.ipv6Addr.length = 1) then
          s.onWanUp st a n f env.backhaulIsStaMode env.backhaulIpv6Prefix
        else some s

/-- The cases of `event_callback` on filter rules, with `n` private subnets when the event
itself does not tell them. -/
def eventCallback (n : Int) (s : FltSt) : FltEvent → Option FltSt
  | .addrAdd addr env => s.addrAdd st a addr env
  | .privateSubnetChange fromItself subnets =>
      some (if fromItself then s else s.handlePrivateSubnetAndroid a .v4 subnets)
  | .wanUpTether f isSta ipv6Prefix =>
      if s.iface.ipType.supports f then s.onWanUp st a n f isSta ipv6Prefix else some s
  | .wanDownTether f isSta =>
      if isSta = false ∧ FltKind.isFirst s.iface.kind = false then some s
      else if s.iface.ipType.supports f then some (s.handleWanDown a f isSta)
      else some s

end FltSt

open KeyedList

namespace FltDriver

variable {d d' : FltDriver} {ep ep' : Nat} {c c' : RuleClass} {f g : IpType}
  {rules : List FltRule} {hs : List Hdl} {new : List (Hdl × FltRule)}

/-- The rules of a class on a pipe. -/
def entriesOf (d : FltDriver) (ep : Nat) (c : RuleClass) (f : IpType) : List FltEntry :=
  (d.pipe ep f).filter fun e => e.rule.ruleClass = c

theorem entriesOf_eq (d : FltDriver) (ep : Nat) (c : RuleClass) (f : IpType) :
    d.entriesOf ep c f =
      (d.rules.get f).filter fun e => decide (e.rule.ruleClass = c) && decide (e.ep = ep) := by
  rw [entriesOf, pipe, List.filter_filter]

theorem Added.entriesOf (h : d.Added ep f rules hs d') (hclass : ∀ r ∈ rules, r.ruleClass = c)
    (c' : RuleClass) (g : IpType) :
    d'.entriesOf ep c' g =
      if g = f ∧ c' = c then d.entriesOf ep c' g ++ entries ep hs rules
      else d.entriesOf ep c' g := by
  rw [FltDriver.entriesOf, FltDriver.entriesOf, h.pipe]
  rcases eq_or_ne g f with rfl | hg
  · rw [if_pos rfl, List.filter_append]
    rcases eq_or_ne c' c with rfl | hc
    · rw [if_pos ⟨rfl, rfl⟩]
      congr 1
      rw [List.filter_eq_self]
      intro e he
      exact decide_eq_true (hclass _ (entries_mem_rule he))
    · rw [if_neg fun heq => hc heq.2]
      have hnone : (entries ep hs rules).filter (fun e => decide (e.rule.ruleClass = c')) = [] := by
        rw [List.filter_eq_nil_iff]
        intro e he heq
        exact hc ((of_decide_eq_true heq).symm.trans (hclass _ (entries_mem_rule he)))
      rw [hnone, List.append_nil]
  · rw [if_neg hg, if_neg fun heq => hg heq.1]

theorem Deleted.entriesOf (h : d.Deleted f hs d') (ep : Nat) (c : RuleClass) (g : IpType) :
    d'.entriesOf ep c g =
      if g = f then without FltEntry.hdl hs (d.entriesOf ep c g) else d.entriesOf ep c g := by
  rw [FltDriver.entriesOf, FltDriver.entriesOf, h.pipe]
  split
  case isTrue =>
    rw [without, without, List.filter_filter, List.filter_filter]
    apply List.filter_congr
    intro e _
    exact Bool.and_comm _ _
  case isFalse => rfl

/-- What rewriting rules of the class `base` into such rules leaves. -/
structure Rewritten (d d' : FltDriver) : Prop where
  hdls : ∀ g, d'.hdls g = d.hdls g
  length : ∀ ep g, (d'.pipe ep g).length = (d.pipe ep g).length
  others : ∀ ep c g, c ≠ .base → d'.entriesOf ep c g = d.entriesOf ep c g
  base : ∀ ep g, (d'.entriesOf ep .base g).map FltEntry.hdl =
    (d.entriesOf ep .base g).map FltEntry.hdl
  notices : d'.notices = d.notices

theorem Rewritten.refl (d : FltDriver) : d.Rewritten d :=
  ⟨fun _ => rfl, fun _ _ => rfl, fun _ _ _ _ => rfl, fun _ _ => rfl, rfl⟩

theorem Rewritten.trans {d'' : FltDriver} (h : d.Rewritten d') (h' : d'.Rewritten d'') :
    d.Rewritten d'' where
  hdls g := (h'.hdls g).trans (h.hdls g)
  length ep g := (h'.length ep g).trans (h.length ep g)
  others ep c g hc := (h'.others ep c g hc).trans (h.others ep c g hc)
  base ep g := (h'.base ep g).trans (h.base ep g)
  notices := h'.notices.trans h.notices

theorem Rewritten.sound (h : d.Rewritten d') (hd : d.Sound) : d'.Sound := by
  constructor
  · intro g
    rw [h.hdls]
    exact hd.nodup g
  · intro g
    rw [h.hdls]
    exact hd.null g

/-- A handle is none of a rule that comes with the backhaul. -/
def Base (d : FltDriver) (f : IpType) (k : Hdl) : Prop :=
  ∀ e ∈ d.rules.get f, e.hdl = k → e.rule.ruleClass = .base

/-- The rule with the handle `k` becomes another one. -/
def rewriteRule (f : IpType) (k : Hdl) (rule : FltRule) (d : FltDriver) : FltDriver :=
  { d with
    rules := d.rules.set
      (rewrite FltEntry.hdl k (fun e => { e with rule := rule }) (d.rules.get f)) f }

theorem rewriteRule_get (f : IpType) (k : Hdl) (rule : FltRule) (d : FltDriver) (g : IpType) :
    (d.rewriteRule f k rule).rules.get g = if g = f then
      rewrite FltEntry.hdl k (fun e => { e with rule := rule }) (d.rules.get g)
        else d.rules.get g := by
  rw [rewriteRule, Fam.get_set]
  split
  case isTrue heq => rw [heq]
  case isFalse => rfl

theorem rewriteRule_rewritten {k : Hdl} {rule : FltRule} (hrule : rule.ruleClass = .base)
    (hk : d.Base f k) : d.Rewritten (d.rewriteRule f k rule) := by
  have hkey : ∀ e : FltEntry, FltEntry.hdl { e with rule := rule } = e.hdl := fun _ => rfl
  constructor
  · intro g
    rw [hdls, hdls, rewriteRule_get]
    split
    case isTrue => exact rewrite_map_key hkey k _
    case isFalse => rfl
  · intro ep g
    rw [pipe, pipe, rewriteRule_get]
    split
    case isTrue =>
      have hview := rewrite_filter_map_key (p := fun e => decide (e.ep = ep)) hkey
        fun e (_ : e ∈ d.rules.get g) (_ : e.hdl = k) => rfl
      simpa only [List.length_map] using congrArg List.length hview
    case isFalse => rfl
  · intro ep c g hc
    rw [entriesOf_eq, entriesOf_eq, rewriteRule_get]
    split
    case isTrue heq =>
      apply rewrite_filter
      intro e he hkey
      rw [hk e (heq ▸ he) hkey, hrule, decide_eq_false hc.symm]
      exact ⟨rfl, rfl⟩
    case isFalse => rfl
  · intro ep g
    rw [entriesOf_eq, entriesOf_eq, rewriteRule_get]
    split
    case isTrue heq =>
      apply rewrite_filter_map_key hkey
      intro e he hhdl
      rw [hk e (heq ▸ he) hhdl, hrule]
    case isFalse => rfl
  · rfl

theorem Base.rewriteRule {k k' : Hdl} {rule : FltRule} (hrule : rule.ruleClass = .base)
    (hk : d.Base f k') : (d.rewriteRule f k rule).Base f k' := by
  intro e he hkey
  rw [rewriteRule_get, if_pos rfl] at he
  rcases mem_rewrite he with hmem | ⟨e', -, -, rfl⟩
  · exact hk e hmem hkey
  · exact hrule

theorem modifyFilteringRule_rewritten
    (hnew : ∀ p ∈ new, p.2.ruleClass = .base ∧ d.Base f p.1) :
    d.Rewritten (d.modifyFilteringRule f new).2 := by
  have hfold : ∀ d : FltDriver, (∀ p ∈ new, p.2.ruleClass = .base ∧ d.Base f p.1) →
      d.Rewritten (new.foldl (fun d p => d.rewriteRule f p.1 p.2) d) := by
    clear hnew
    induction new with
    | nil => exact fun d _ => .refl d
    | cons p new ih =>
        intro d hnew
        obtain ⟨hrule, hbase⟩ := hnew p List.mem_cons_self
        refine (rewriteRule_rewritten hrule hbase).trans (ih _ ?_)
        intro p' hp'
        obtain ⟨hrule', hbase'⟩ := hnew p' (List.mem_cons_of_mem p hp')
        exact ⟨hrule', hbase'.rewriteRule hrule⟩
  have hrules : ∀ d : FltDriver, new.foldl (fun d p => d.rewriteRule f p.1 p.2) d =
      { d with
        rules := d.rules.set
          (new.foldl (fun l p => rewrite FltEntry.hdl p.1 (fun e => { e with rule := p.2 }) l)
            (d.rules.get f)) f } := by
    clear hnew hfold
    induction new with
    | nil =>
        intro d
        cases f <;> rfl
    | cons p new ih =>
        intro d
        rw [List.foldl_cons, ih]
        cases f <;> rfl
  have hall := hfold d hnew
  rw [hrules] at hall
  exact ⟨hall.hdls, hall.length, hall.others, hall.base, hall.notices⟩

end FltDriver

end LibraDevice.Lan
