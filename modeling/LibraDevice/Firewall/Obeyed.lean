import LibraDevice.Firewall.Budget
import LibraDevice.Xml.FirewallCfg

/-!
The firewall that is installed against the one that is configured, in station mode and in
the tables of the modem.
-/

namespace LibraDevice.Firewall

open Backhaul RuleList
open Xml (maxFirewallEntries)

variable {P : Type*} {R : Reading P}

theorem write_isSome (t : FltTable) (ws : List Write) :
    (t.write ws).isSome = true ↔ ∀ w ∈ ws, w.pos < maxFltRule := by
  induction ws generalizing t with
  | nil => exact iff_of_true rfl fun w hw => by cases hw
  | cons w ws ih =>
      rw [FltTable.write, List.foldlM_cons, List.forall_mem_cons]
      split
      · next hw => exact (ih _).trans (and_iff_right hw).symm
      · next hw => exact iff_of_false Bool.false_ne_true fun h => hw h.1

theorem write_consecutive {t tbl : FltTable} {n : Nat} {ws : List Write}
    (hpos : ws.map Write.pos = List.range' n ws.length) (h : t.write ws = some tbl) :
    (List.range' n ws.length).filterMap tbl = ws.map Write.rule ∧ ∀ pos < n, tbl pos = t pos := by
  induction ws generalizing t n with
  | nil =>
      cases h
      exact ⟨rfl, fun _ _ => rfl⟩
  | cons w ws ih =>
      rw [List.map_cons, List.length_cons, List.range'_succ] at hpos
      obtain ⟨rfl, hws⟩ := List.cons.inj hpos
      rw [FltTable.write, List.foldlM_cons] at h
      split at h
      · obtain ⟨hrules, hold⟩ := ih hws h
        have hhere : tbl w.pos = some w.rule :=
          (hold w.pos (Nat.lt_succ_self _)).trans (Function.update_self _ _ _)
        refine ⟨?_, fun pos hlt => ?_⟩
        · rw [List.length_cons, List.range'_succ, List.filterMap_cons, hhere, hrules]
          rfl
        · rw [hold pos (Nat.lt_succ_of_lt hlt)]
          exact Function.update_of_ne hlt.ne _ _
      · cases h

/-- What the first of the `k` rules from `n` on does with the packet. -/
def FltTable.accepts (R : Reading P) (iptype : IpType) (t : FltTable) (n k : Nat) (p : P) :
    Option Bool :=
  (first (FltRule.sel R iptype) ((List.range' n k).filterMap t) p).map FltRule.accepts

theorem modemAccepts_eq_accepts (iptype : IpType) {t tbl : FltTable} {n : Nat} {ws : List Write}
    (hpos : ws.map Write.pos = List.range' n ws.length) (h : t.write ws = some tbl) (p : P) :
    tbl.accepts R iptype n ws.length p = modemAccepts R iptype ws p := by
  rw [FltTable.accepts, (write_consecutive hpos h).1, modemAccepts, first, first,
    List.find?_map, Option.map_map]
  rfl

/-- No rule for ICMP or an ALG selects the packet; an IPv6 one is no fragment. -/
structure Ordinary (R : Reading P) (rx : RxProp) (algTable : List Alg) (iptype : IpType)
    (p : P) : Prop where
  skipped : Skips (Write.sel R iptype)
    (addIcmpAlgRules rx algTable (numDefaultWanFilterRule iptype) iptype) p
  icmp6 : iptype = .v6 → R.nextHdr p ≠ ipprotoIcmp6
  fragment : iptype = .v6 → R.nextHdr p ≠ ipprotoFragHdr

/-- Both paths treat the packet as the configuration asks for: station mode with the rules
installed, the modem with those in its table from the default rules on, whatever it held. -/
structure Obeyed (R : Reading P) (rx : RxProp) (algTable : List Alg) (conf : FirewallConf)
    (iptype : IpType) (p : P) : Prop where
  hdls : ∀ i ∈ configDftFirewallRules (some rx) conf iptype, ∀ f k, i.hdl = .firewall f k →
    k < maxFirewallEntries
  written : ∀ t : FltTable, (t.write (configWanFirewallRule rx conf algTable iptype)).isSome = true
  station : Ordinary R rx algTable iptype p →
    stationAccepts R iptype (configDftFirewallRules (some rx) conf iptype) p =
      some (conf.accepts R iptype p)
  modem : Ordinary R rx algTable iptype p → ∀ ruleOffset, ∀ t tbl : FltTable,
    t.write (configDftFirewallRulesEx (some rx) conf ruleOffset iptype) = some tbl →
      tbl.accepts R iptype ruleOffset
        (configDftFirewallRulesEx (some rx) conf ruleOffset iptype).length p =
          some (conf.accepts R iptype p)
  wan : Ordinary R rx algTable iptype p → ∀ t tbl : FltTable,
    t.write (configWanFirewallRule rx conf algTable iptype) = some tbl →
      tbl.accepts R iptype (numDefaultWanFilterRule iptype)
        (configWanFirewallRule rx conf algTable iptype).length p =
          some (conf.accepts R iptype p)
  icmp6 : iptype = .v6 → R.nextHdr p = ipprotoIcmp6 → ∀ t tbl : FltTable,
    t.write (configWanFirewallRule rx conf algTable iptype) = some tbl →
      stationAccepts R iptype (configDftFirewallRules (some rx) conf iptype) p =
        tbl.accepts R iptype (numDefaultWanFilterRule iptype)
          (configWanFirewallRule rx conf algTable iptype).length p

/-- An enabled firewall whose matching entries let an ICMPv6 packet through. -/
def LetsIcmp6In (R : Reading P) (conf : FirewallConf) (iptype : IpType) (p : P) : Prop :=
  iptype = .v6 ∧ R.nextHdr p = ipprotoIcmp6 ∧ conf.firewallEnable = true ∧
    conf.ruleActionAccept = true ∧ conf.matchesPacket R iptype p = true

theorem wan_consecutive (rx : RxProp) (conf : FirewallConf) (algTable : List Alg)
    (iptype : IpType) : (configWanFirewallRule rx conf algTable iptype).map Write.pos =
      List.range' (numDefaultWanFilterRule iptype)
        (configWanFirewallRule rx conf algTable iptype).length := by
  have hpos := configWanFirewallRule_pos rx conf algTable iptype
  have hlen := congrArg List.length hpos
  rw [List.length_map, List.length_range'] at hlen
  rw [hlen, hpos]

theorem ex_consecutive (rx : RxProp) (conf : FirewallConf) (iptype : IpType) (ruleOffset : Nat) :
    (configDftFirewallRulesEx (some rx) conf ruleOffset iptype).map Write.pos =
      List.range' ruleOffset
        (configDftFirewallRulesEx (some rx) conf ruleOffset iptype).length := by
  have hpos := configDftFirewallRulesEx_pos rx conf iptype ruleOffset
  have hlen := congrArg List.length hpos
  rw [List.length_map, List.length_range'] at hlen
  rw [hlen, hpos]

theorem wan_written (rx : RxProp) (conf : FirewallConf) (algTable : List Alg) (iptype : IpType)
    (t : FltTable) : (t.write (configWanFirewallRule rx conf algTable iptype)).isSome = true ↔
      WanBudget conf algTable iptype :=
  (write_isSome t _).trans (configWanFirewallRule_lt_iff rx conf algTable iptype)

/-- Within the table both paths obey, but for ICMPv6 packets that entries let in. -/
theorem obeyed_iff (R : Reading P) (rx : RxProp) (hrx : rx.OnlyMetaData) (algTable : List Alg)
    (conf : FirewallConf) (iptype : IpType) (p : P) (hp : Arrives R rx p) :
    Obeyed R rx algTable conf iptype p ↔
      WanBudget conf algTable iptype ∧ ¬ LetsIcmp6In R conf iptype p := by
  constructor
  · intro hobeyed
    have hbudget := (wan_written rx conf algTable iptype fun _ => none).mp (hobeyed.written _)
    refine ⟨hbudget, ?_⟩
    rintro ⟨rfl, hicmp, henable, haccept, hmatch⟩
    obtain ⟨tbl, htbl⟩ := Option.isSome_iff_exists.mp (hobeyed.written fun _ => none)
    have hsame := hobeyed.icmp6 rfl hicmp _ tbl htbl
    rw [modemAccepts_eq_accepts .v6 (wan_consecutive rx conf algTable .v6) htbl,
      stationAccepts_icmp6 hrx hp conf hicmp, modemAccepts_icmp6 hrx hp conf algTable hicmp,
      henable, haccept, hmatch] at hsame
    cases hsame
  · rintro ⟨hbudget, hnot⟩
    have hnum : conf.numRules iptype ≤ maxFirewallEntries := by
      rw [WanBudget, maxFltRule] at hbudget
      rw [maxFirewallEntries]
      omega
    refine ⟨?_, fun t => ?_, fun h => ?_, fun h pos t tbl htbl => ?_, fun h t tbl htbl => ?_, ?_⟩
    · exact (configDftFirewallRules_lt_iff rx conf iptype _).mpr hnum
    · exact (wan_written rx conf algTable iptype t).mpr hbudget
    · exact stationAccepts_eq hrx hp conf h.icmp6 h.fragment
    · rw [modemAccepts_eq_accepts iptype (ex_consecutive rx conf iptype pos) htbl]
      exact modemAccepts_eq hrx hp conf h.fragment pos
    · rw [modemAccepts_eq_accepts iptype (wan_consecutive rx conf algTable iptype) htbl,
        modemAccepts, configWanFirewallRule, first_skip h.skipped]
      exact modemAccepts_eq hrx hp conf h.fragment _
    · rintro rfl hicmp t tbl htbl
      rw [modemAccepts_eq_accepts .v6 (wan_consecutive rx conf algTable .v6) htbl,
        stationAccepts_icmp6 hrx hp conf hicmp, modemAccepts_icmp6 hrx hp conf algTable hicmp]
      rcases henable : conf.firewallEnable with _ | _
      · rfl
      · rcases hmatch : conf.matchesPacket R .v6 p with _ | _
        · rfl
        · rcases haccept : conf.ruleActionAccept with _ | _
          · rfl
          · exact absurd ⟨rfl, hicmp, henable, haccept, hmatch⟩ hnot

/-- The headers of a packet. -/
structure Packet where
  tos : UInt8
  protocol : UInt8
  srcAddr : UInt32
  dstAddr : UInt32
  tc : UInt8
  nextHdr : UInt8
  srcAddrV6 : Ipv6Addr
  dstAddrV6 : Ipv6Addr
  srcPort : UInt16
  dstPort : UInt16
  type : UInt8
  code : UInt8
  spi : UInt32
  metaData : UInt32
deriving DecidableEq

def underMask (addr mask actual : UInt32) : Bool :=
  actual &&& mask = addr &&& mask

def underMaskV6 (addr mask actual : Ipv6Addr) : Bool :=
  underMask addr.word0 mask.word0 actual.word0 && underMask addr.word1 mask.word1 actual.word1 &&
    underMask addr.word2 mask.word2 actual.word2 && underMask addr.word3 mask.word3 actual.word3

theorem underMask_zero (actual : UInt32) : underMask 0 0 actual = true := by
  simp [underMask]

/-- The flags on the headers themselves. -/
def Packet.reading : Reading Packet where
  tos := fun tos p => p.tos = tos
  protocol := fun p => p.protocol
  srcAddr := fun addr mask p => underMask addr mask p.srcAddr
  dstAddr := fun addr mask p => underMask addr mask p.dstAddr
  tc := fun tc p => p.tc = tc
  nextHdr := fun p => p.nextHdr
  srcAddrV6 := fun addr mask p => underMaskV6 addr mask p.srcAddrV6
  dstAddrV6 := fun addr mask p => underMaskV6 addr mask p.dstAddrV6
  srcPort := fun port p => p.srcPort = port
  dstPort := fun port p => p.dstPort = port
  srcPortRange := fun lo hi p => lo ≤ p.srcPort && p.srcPort ≤ hi
  dstPortRange := fun lo hi p => lo ≤ p.dstPort && p.dstPort ≤ hi
  type := fun type p => p.type = type
  code := fun code p => p.code = code
  spi := fun spi p => p.spi = spi
  metaData := fun data mask p => underMask data mask p.metaData
  dstAddr_zero := fun p => underMask_zero p.dstAddr
  dstAddrV6_zero := fun p => by
    simp only [underMaskV6, Ipv6Addr.zero, underMask_zero, Bool.and_self]

/-- One entry, for ICMPv6; what matches is accepted. -/
def FirewallConf.allowPing : FirewallConf where
  numExtdFirewallEntries := 1
  extdFirewallEntries := fun _ =>
    ⟨{ RuleAttrib.zero with
        attribMask := {.nextHdr}
        v6 := { RuleAttrib.zero.v6 with nextHdr := ipprotoIcmp6 } }, 6⟩
  ruleActionAccept := true
  firewallEnable := true

def Packet.ping : Packet where
  tos := 0
  protocol := 0
  srcAddr := 0
  dstAddr := 0
  tc := 0
  nextHdr := ipprotoIcmp6
  srcAddrV6 := ⟨0x20010DB8, 0, 0, 1⟩
  dstAddrV6 := ⟨0x20010DB8, 1, 0, 1⟩
  srcPort := 0
  dstPort := 0
  type := 128
  code := 0
  spi := 0
  metaData := 0x00010000

theorem RxProp.pdn_onlyMetaData : RxProp.pdn.OnlyMetaData :=
  fun _ => Finset.Subset.refl _

theorem Packet.ping_arrives : Arrives Packet.reading RxProp.pdn .ping := by
  change ∀ i, Packet.reading.metaData (RxProp.pdn.rx i).metaData
    (RxProp.pdn.rx i).metaDataMask .ping = true
  decide

theorem obeyed_iff_allowPing :
    Obeyed Packet.reading RxProp.pdn [] .allowPing .v6 .ping ↔
      WanBudget .allowPing [] .v6 ∧ ¬ LetsIcmp6In Packet.reading .allowPing .v6 .ping :=
  obeyed_iff Packet.reading RxProp.pdn RxProp.pdn_onlyMetaData [] .allowPing .v6 .ping
    Packet.ping_arrives

/-- Station mode hands the ping on, the modem hands it to the apps processor. -/
theorem not_obeyed_allowPing : ¬ Obeyed Packet.reading RxProp.pdn [] .allowPing .v6 .ping := by
  intro h
  obtain ⟨tbl, htbl⟩ := Option.isSome_iff_exists.mp (h.written fun _ => none)
  have hsame := h.icmp6 rfl rfl _ tbl htbl
  rw [modemAccepts_eq_accepts .v6 (wan_consecutive _ _ _ .v6) htbl] at hsame
  have hstation : stationAccepts Packet.reading .v6
      (configDftFirewallRules (some .pdn) .allowPing .v6) .ping = some true := by decide
  have hmodem : modemAccepts Packet.reading .v6
      (configWanFirewallRule .pdn .allowPing [] .v6) .ping = some false := by decide
  rw [hstation, hmodem] at hsame
  cases hsame

end LibraDevice.Firewall
