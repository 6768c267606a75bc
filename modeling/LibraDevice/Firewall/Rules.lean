import LibraDevice.Firewall.Attrib

/-!
`IPACM_Wan`: the filter rules of the firewall. In station mode they are installed one by
one; for the modem they are written to the tables `flt_rule_v4` and `flt_rule_v6`.
Every driver call succeeds.
-/

namespace LibraDevice.Firewall

open Backhaul
open IpaNat (ipprotoTcp ipprotoUdp)

def numDefaultWanFilterRule : IpType → Nat
  | .v4 => 2
  | .v6 => 6

inductive Action where
  | passToException
  | passToDstNat
  | passToRouting
deriving DecidableEq, Repr

inductive RtTbl where
  | lanV4
  | wanV6
  | wanDl
deriving DecidableEq, Repr

/-- `ipa_flt_rule_add`: the table is named by `rt_tbl_hdl` in station mode and by
`rt_tbl_idx` for the modem. -/
structure FltRule where
  atRear : Bool
  retainHdr : Bool
  eqAttribType : Bool
  action : Action
  rtTbl : Option RtTbl
  attrib : RuleAttrib
deriving DecidableEq

/-- The attributes of `rx_prop->rx[0]` and `rx_prop->rx[1]`. -/
structure RxProp where
  rx : Fin 2 → RuleAttrib

/-- The metadata of the first PDN. -/
def RxProp.pdn : RxProp where
  rx := fun _ =>
    { RuleAttrib.zero with
      attribMask := {.metaData}
      metaData := 0x00010000
      metaDataMask := 0x00FF0000 }

/-- The attributes of an entry, on the interface of `rx`. -/
def onInterface (rx attrib : RuleAttrib) : RuleAttrib :=
  { attrib with
    attribMask := attrib.attribMask ∪ rx.attribMask
    metaDataMask := rx.metaDataMask
    metaData := rx.metaData }

/-- The attributes of the interface and the zero destination mask. -/
def anyDst (rx : RuleAttrib) : IpType → RuleAttrib
  | .v4 =>
      { rx with
        attribMask := insert .dstAddr rx.attribMask
        v4 := { rx.v4 with dstAddr := 0, dstAddrMask := 0 } }
  | .v6 =>
      { rx with
        attribMask := insert .dstAddr rx.attribMask
        v6 := { rx.v6 with dstAddr := .zero, dstAddrMask := .zero } }

def withNextHdr (rx : RuleAttrib) (nextHdr : UInt8) : RuleAttrib :=
  { rx with
    attribMask := insert .nextHdr rx.attribMask
    v6 := { rx.v6 with nextHdr := nextHdr } }

/-- The check for `TCP_UDP` looks at the entry, not at the rule made from it. -/
def splitTcpUdp (iptype : IpType) (e : ExtdFirewallEntry) (attrib : RuleAttrib) :
    List RuleAttrib :=
  if e.attrib.protocolOf iptype = ipprotoTcpUdp then
    [attrib.setProtocol ipprotoTcp iptype, attrib.setProtocol ipprotoUdp iptype]
  else [attrib]

/-- Where the handle of an installed rule is kept. -/
inductive HdlSlot where
  | ipv6FragFirewall
  | dftWan (i : Nat)
  | firewall (iptype : IpType) (i : Nat)
deriving DecidableEq, Repr

structure Installed where
  rule : FltRule
  hdl : HdlSlot

namespace Station

def entryRule (conf : FirewallConf) (iptype : IpType) (attrib : RuleAttrib) : FltRule :=
  match iptype with
  | .v4 =>
      { atRear := true, retainHdr := false, eqAttribType := false,
        action := if conf.ruleActionAccept then .passToDstNat else .passToException,
        rtTbl := some .lanV4, attrib := attrib }
  | .v6 =>
      { atRear := true, retainHdr := false, eqAttribType := false,
        action := if conf.ruleActionAccept then .passToRouting else .passToException,
        rtTbl := some .wanV6, attrib := attrib }

def fragRule (rx : RxProp) : FltRule where
  atRear := true
  retainHdr := false
  eqAttribType := false
  action := .passToException
  rtTbl := none
  attrib := withNextHdr (rx.rx 0) ipprotoFragHdr

def icmpRule (rx : RxProp) : FltRule where
  atRear := true
  retainHdr := true
  eqAttribType := false
  action := .passToException
  rtTbl := none
  attrib := withNextHdr (rx.rx 0) ipprotoIcmp6

def dftRule (rx : RxProp) (conf : FirewallConf) (iptype : IpType) : FltRule :=
  match iptype with
  | .v4 =>
      { atRear := true, retainHdr := false, eqAttribType := false,
        action :=
          if conf.firewallEnable then
            if conf.ruleActionAccept then .passToException else .passToDstNat
          else .passToDstNat,
        rtTbl := some .lanV4, attrib := anyDst (rx.rx 0) .v4 }
  | .v6 =>
      { atRear := true, retainHdr := false, eqAttribType := false,
        action :=
          if conf.firewallEnable then
            if conf.ruleActionAccept then .passToException else .passToRouting
          else .passToRouting,
        rtTbl := some .wanV6, attrib := anyDst (rx.rx 0) .v6 }

/-- The rules of one entry; `n` is `rule_v4` or `rule_v6`. -/
def entryRules (rx : RxProp) (conf : FirewallConf) (iptype : IpType) (n : Nat)
    (e : ExtdFirewallEntry) : List Installed :=
  ((splitTcpUdp iptype e (onInterface (rx.rx 0) e.attrib)).zipIdx n).map fun (attrib, i) =>
    ⟨entryRule conf iptype attrib, .firewall iptype i⟩

/-- The loop over the entries. -/
def entriesRules (rx : RxProp) (conf : FirewallConf) (iptype : IpType) :
    Nat → List ExtdFirewallEntry → List Installed
  | _, [] => []
  | n, e :: es =>
      if e.ipVsn = ipVsn iptype then
        let installed := entryRules rx conf iptype n e
        installed ++ entriesRules rx conf iptype (n + installed.length) es
      else entriesRules rx conf iptype n es

/-- `rule_v4` and `rule_v6` after the file is read: whatever is not IPv4 counts as IPv6. -/
def ruleCount (conf : FirewallConf) : IpType → Nat
  | .v4 => conf.entries.countP fun e => e.ipVsn = 4
  | .v6 => conf.entries.countP fun e => e.ipVsn ≠ 4

end Station

open Station in
def configDftFirewallRules (rxProp : Option RxProp) (conf : FirewallConf) (iptype : IpType) :
    List Installed :=
  match rxProp with
  | none => []
  | some rx =>
      let frag : List Installed :=
        if iptype = .v6 ∧ conf.firewallEnable then [⟨fragRule rx, .ipv6FragFirewall⟩] else []
      match iptype with
      | .v4 =>
          if ruleCount conf .v4 = 0 then
            frag ++ [⟨dftRule rx conf .v4, .dftWan 0⟩]
          else
            frag ++ (if conf.firewallEnable then entriesRules rx conf .v4 0 conf.entries else [])
              ++ [⟨dftRule rx conf .v4, .dftWan 0⟩]
      | .v6 =>
          if ruleCount conf .v6 = 0 then
            frag ++ [⟨icmpRule rx, .dftWan 2⟩, ⟨dftRule rx conf .v6, .dftWan 1⟩]
          else
            -- here the rule for ICMPv6 comes after the entries
            frag ++ (if conf.firewallEnable then entriesRules rx conf .v6 0 conf.entries else [])
              ++ [⟨icmpRule rx, .dftWan 2⟩, ⟨dftRule rx conf .v6, .dftWan 1⟩]

def maxFltRule : Nat := 50

/-- A rule copied to the position `pos` of `flt_rule_v4` or `flt_rule_v6`. -/
structure Write where
  pos : Nat
  rule : FltRule

/-- The rules in `flt_rule_v4` or `flt_rule_v6`. -/
abbrev FltTable := Nat → Option FltRule

/-- The writes one after the other; there is no table where one is past its end. -/
def FltTable.write (t : FltTable) (ws : List Write) : Option FltTable :=
  ws.foldlM (fun t w => if w.pos < maxFltRule then some (Function.update t w.pos (some w.rule))
    else none) t

namespace Modem

/-- A rule to the table of the downlink. -/
def toWanDl (attrib : RuleAttrib) : FltRule where
  atRear := true
  retainHdr := true
  eqAttribType := true
  action := .passToRouting
  rtTbl := some .wanDl
  attrib := attrib

def withoutMetaData (rx : RuleAttrib) : RuleAttrib :=
  { rx with attribMask := rx.attribMask.erase .metaData }

def icmpAttrib (rx : RxProp) : IpType → RuleAttrib
  | .v4 =>
      let attrib := withoutMetaData (rx.rx 0)
      { attrib with
        attribMask := insert .protocol attrib.attribMask
        v4 := { attrib.v4 with protocol := ipprotoIcmp } }
  | .v6 => withNextHdr (withoutMetaData (rx.rx 1)) ipprotoIcmp6

def algSrcAttrib (rx : RxProp) (alg : Alg) : RuleAttrib :=
  let attrib := withoutMetaData (rx.rx 0)
  { attrib with
    attribMask := insert .protocol (insert .srcPort attrib.attribMask)
    srcPort := alg.port
    v4 := { attrib.v4 with protocol := alg.protocol } }

def algDstAttrib (rx : RxProp) (alg : Alg) : RuleAttrib :=
  let attrib := withoutMetaData (rx.rx 0)
  { attrib with
    attribMask := insert .protocol (insert .dstPort attrib.attribMask)
    dstPort := alg.port
    v4 := { attrib.v4 with protocol := alg.protocol } }

/-- What a rule made from no attributes gets from the interface. -/
def fragAttrib (rx : RxProp) : RuleAttrib :=
  changeToNetworkOrder .v6 (withNextHdr (onInterface (rx.rx 0) .zero) ipprotoFragHdr)

def entryRule (conf : FirewallConf) (iptype : IpType) (attrib : RuleAttrib) : FltRule :=
  match iptype with
  | .v4 =>
      { atRear := true, retainHdr := true, eqAttribType := true,
        action := if conf.ruleActionAccept then .passToDstNat else .passToRouting,
        rtTbl := if conf.ruleActionAccept then some .lanV4 else some .wanDl,
        attrib := attrib }
  | .v6 =>
      { atRear := true, retainHdr := true, eqAttribType := true,
        action := .passToRouting,
        rtTbl := if conf.ruleActionAccept then some .wanV6 else some .wanDl,
        attrib := attrib }

/-- The last rule. For IPv6 it is made from `rx[1]`. -/
def dftRule (rx : RxProp) (conf : FirewallConf) (iptype : IpType) : FltRule :=
  match iptype with
  | .v4 =>
      let blocks := conf.firewallEnable && conf.ruleActionAccept
      { atRear := true, retainHdr := true, eqAttribType := true,
        action := if blocks then .passToRouting else .passToDstNat,
        rtTbl := if blocks then some .wanDl else some .lanV4,
        attrib := changeToNetworkOrder .v4 (anyDst (rx.rx 0) .v4) }
  | .v6 =>
      let blocks := conf.firewallEnable && conf.ruleActionAccept
      { atRear := true, retainHdr := true, eqAttribType := true,
        action := .passToRouting,
        rtTbl := if blocks then some .wanDl else some .wanV6,
        attrib := changeToNetworkOrder .v6 (anyDst (rx.rx 1) .v6) }

def entryRules (rx : RxProp) (conf : FirewallConf) (iptype : IpType) (pos : Nat)
    (e : ExtdFirewallEntry) : List Write :=
  ((splitTcpUdp iptype e
    (changeToNetworkOrder iptype (onInterface (rx.rx 0) e.attrib))).zipIdx pos).map
      fun (attrib, i) => ⟨i, entryRule conf iptype attrib⟩

/-- The loop over the entries. -/
def entriesRules (rx : RxProp) (conf : FirewallConf) (iptype : IpType) :
    Nat → List ExtdFirewallEntry → List Write
  | _, [] => []
  | pos, e :: es =>
      if e.ipVsn = ipVsn iptype then
        let written := entryRules rx conf iptype pos e
        written ++ entriesRules rx conf iptype (pos + written.length) es
      else entriesRules rx conf iptype pos es

end Modem

open Modem in
def addIcmpAlgRules (rx : RxProp) (algTable : List Alg) (ruleOffset : Nat) :
    IpType → List Write
  | .v4 =>
      [⟨ruleOffset, toWanDl (icmpAttrib rx .v4)⟩]
        ++ ((algTable.map (algSrcAttrib rx)).zipIdx (ruleOffset + 1)).map
          (fun (attrib, i) => ⟨i, toWanDl attrib⟩)
        ++ ((algTable.map (algDstAttrib rx)).zipIdx (ruleOffset + algTable.length + 1)).map
          (fun (attrib, i) => ⟨i, toWanDl attrib⟩)
  | .v6 => [⟨ruleOffset, toWanDl (icmpAttrib rx .v6)⟩]

open Modem in
def configDftFirewallRulesEx (rxProp : Option RxProp) (conf : FirewallConf) (ruleOffset : Nat)
    (iptype : IpType) : List Write :=
  match rxProp with
  | none => []
  | some rx =>
      let frag : List Write :=
        if iptype = .v6 ∧ conf.firewallEnable then [⟨ruleOffset, toWanDl (fragAttrib rx)⟩] else []
      let pos := ruleOffset + frag.length
      let entries :=
        if conf.firewallEnable then entriesRules rx conf iptype pos conf.entries else []
      frag ++ entries ++ [⟨pos + entries.length, dftRule rx conf iptype⟩]

/-- `num_v4_flt_rule` and `num_v6_flt_rule` are moved with every write. -/
def configWanFirewallRule (rx : RxProp) (conf : FirewallConf) (algTable : List Alg)
    (iptype : IpType) : List Write :=
  let num := numDefaultWanFilterRule iptype
  let icmpAlg := addIcmpAlgRules rx algTable num iptype
  icmpAlg ++ configDftFirewallRulesEx (some rx) conf (num + icmpAlg.length) iptype

end LibraDevice.Firewall
