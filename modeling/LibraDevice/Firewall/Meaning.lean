import LibraDevice.Firewall.Policy

/-!
The rules of the firewall against its configuration, in station mode and on the modem.
-/

namespace LibraDevice.Firewall

open Backhaul RuleList

variable {P : Type*} {R : Reading P}

namespace Station

def fragRules (rx : RxProp) (conf : FirewallConf) (iptype : IpType) : List Installed :=
  if iptype = .v6 ∧ conf.firewallEnable then [⟨fragRule rx, .ipv6FragFirewall⟩] else []

def userRules (rx : RxProp) (conf : FirewallConf) (iptype : IpType) : List Installed :=
  if conf.firewallEnable then entriesRules rx conf iptype 0 conf.entries else []

def icmpRules (rx : RxProp) (iptype : IpType) : List Installed :=
  if iptype = .v6 then [⟨icmpRule rx, .dftWan 2⟩] else []

def dftSlot : IpType → HdlSlot
  | .v4 => .dftWan 0
  | .v6 => .dftWan 1

theorem entriesRules_eq_nil (rx : RxProp) (conf : FirewallConf) (iptype : IpType) (n : Nat)
    {es : List ExtdFirewallEntry} (h : ∀ e ∈ es, e.ipVsn ≠ ipVsn iptype) :
    entriesRules rx conf iptype n es = [] := by
  induction es generalizing n with
  | nil => rfl
  | cons e es ih =>
      rw [entriesRules, if_neg (h e List.mem_cons_self)]
      exact ih n fun e' he' => h e' (List.mem_cons_of_mem e he')

theorem userRules_eq_nil {rx : RxProp} {conf : FirewallConf} {iptype : IpType}
    (h : ruleCount conf iptype = 0) : userRules rx conf iptype = [] := by
  rw [userRules]
  split
  · apply entriesRules_eq_nil
    intro e he hvsn
    cases iptype with
    | v4 => exact List.countP_eq_zero.mp h e he (decide_eq_true hvsn)
    | v6 =>
        refine List.countP_eq_zero.mp h e he (decide_eq_true ?_)
        rw [hvsn]
        decide
  · rfl

theorem configDftFirewallRules_eq (rx : RxProp) (conf : FirewallConf) (iptype : IpType) :
    configDftFirewallRules (some rx) conf iptype =
      fragRules rx conf iptype ++ (userRules rx conf iptype ++
        (icmpRules rx iptype ++ [⟨dftRule rx conf iptype, dftSlot iptype⟩])) := by
  rcases eq_or_ne (ruleCount conf iptype) 0 with hzero | hsome
  · rw [userRules_eq_nil hzero]
    cases iptype with
    | v4 =>
        rw [configDftFirewallRules]
        rw [if_pos hzero]
        rfl
    | v6 =>
        rw [configDftFirewallRules]
        rw [if_pos hzero]
        rfl
  · cases iptype with
    | v4 =>
        rw [configDftFirewallRules]
        rw [if_neg hsome, List.append_assoc]
        rfl
    | v6 =>
        rw [configDftFirewallRules]
        rw [if_neg hsome, List.append_assoc]
        rfl

end Station

namespace Modem

def fragRules (rx : RxProp) (conf : FirewallConf) (iptype : IpType) (pos : Nat) : List Write :=
  if iptype = .v6 ∧ conf.firewallEnable then [⟨pos, toWanDl (fragAttrib rx)⟩] else []

def userRules (rx : RxProp) (conf : FirewallConf) (iptype : IpType) (pos : Nat) : List Write :=
  if conf.firewallEnable then entriesRules rx conf iptype pos conf.entries else []

theorem configDftFirewallRulesEx_eq (rx : RxProp) (conf : FirewallConf) (iptype : IpType)
    (pos : Nat) :
    ∃ posUser posDft, configDftFirewallRulesEx (some rx) conf pos iptype =
      fragRules rx conf iptype pos ++ (userRules rx conf iptype posUser ++
        [⟨posDft, dftRule rx conf iptype⟩]) :=
  ⟨_, _, List.append_assoc _ _ _⟩

end Modem

theorem Station.fragRules_skips {rx : RxProp} (hrx : rx.OnlyMetaData) {p : P}
    (hp : Arrives R rx p) (conf : FirewallConf) {iptype : IpType}
    (hfrag : iptype = .v6 → R.nextHdr p ≠ ipprotoFragHdr) :
    Skips (Installed.sel R iptype) (fragRules rx conf iptype) p := by
  intro i hi
  rw [fragRules] at hi
  split at hi
  next hv6 =>
    obtain ⟨rfl, -⟩ := hv6
    rw [List.mem_singleton.mp hi]
    exact (selects_withNextHdr (hrx 0) (hp 0) _).trans (decide_eq_false (hfrag rfl))
  next => cases hi

theorem Station.icmpRules_skips {rx : RxProp} (hrx : rx.OnlyMetaData) {p : P}
    (hp : Arrives R rx p) {iptype : IpType}
    (hicmp : iptype = .v6 → R.nextHdr p ≠ ipprotoIcmp6) :
    Skips (Installed.sel R iptype) (icmpRules rx iptype) p := by
  intro i hi
  rw [icmpRules] at hi
  split at hi
  next hv6 =>
    subst hv6
    rw [List.mem_singleton.mp hi]
    exact (selects_withNextHdr (hrx 0) (hp 0) _).trans (decide_eq_false (hicmp rfl))
  next => cases hi

theorem Modem.fragRules_skips {rx : RxProp} (hrx : rx.OnlyMetaData) {p : P}
    (hp : Arrives R rx p) (conf : FirewallConf) {iptype : IpType} (pos : Nat)
    (hfrag : iptype = .v6 → R.nextHdr p ≠ ipprotoFragHdr) :
    Skips (Write.sel R iptype) (fragRules rx conf iptype pos) p := by
  intro w hw
  rw [fragRules] at hw
  split at hw
  next hv6 =>
    obtain ⟨rfl, -⟩ := hv6
    rw [List.mem_singleton.mp hw]
    have hmask : (onInterface (rx.rx 0) RuleAttrib.zero).attribMask ⊆ {.metaData} :=
      Finset.union_subset (Finset.empty_subset _) (hrx 0)
    have hsel := selects_withNextHdr (R := R) (p := p) hmask (hp 0) ipprotoFragHdr
    change R.selects .v6 (changeToNetworkOrder .v6 (changeToNetworkOrder .v6 _)) p = false
    rw [changeToNetworkOrder_changeToNetworkOrder, hsel]
    exact decide_eq_false (hfrag rfl)
  next => cases hw

theorem Modem.sel_icmp6 {rx : RxProp} (hrx : rx.OnlyMetaData) {p : P} (hp : Arrives R rx p)
    (pos : Nat) :
    Write.sel R .v6 ⟨pos, toWanDl (icmpAttrib rx .v6)⟩ p =
      decide (R.nextHdr p = ipprotoIcmp6) := by
  change R.selects .v6 (changeToNetworkOrder .v6 (withNextHdr (withoutMetaData (rx.rx 1)) _)) p = _
  have hmask : (changeToNetworkOrder .v6 (withoutMetaData (rx.rx 1))).attribMask ⊆
      {.metaData} := (Finset.erase_subset _ _).trans (hrx 1)
  rw [changeToNetworkOrder_withNextHdr]
  exact selects_withNextHdr hmask (hp 1) _

theorem Station.any_userRules {rx : RxProp} (hrx : rx.OnlyMetaData) {p : P}
    (hp : Arrives R rx p) (conf : FirewallConf) (iptype : IpType) :
    (userRules rx conf iptype).any (fun i => Installed.sel R iptype i p) =
      (conf.firewallEnable && conf.matchesPacket R iptype p) := by
  rw [userRules]
  rcases henable : conf.firewallEnable with _ | _
  · rfl
  · rw [if_pos rfl, any_entriesRules hrx hp]
    rfl

theorem Modem.any_userRules {rx : RxProp} (hrx : rx.OnlyMetaData) {p : P}
    (hp : Arrives R rx p) (conf : FirewallConf) (iptype : IpType) (pos : Nat) :
    (userRules rx conf iptype pos).any (fun w => Write.sel R iptype w p) =
      (conf.firewallEnable && conf.matchesPacket R iptype p) := by
  rw [userRules]
  rcases henable : conf.firewallEnable with _ | _
  · rfl
  · rw [if_pos rfl, any_entriesRules hrx hp]
    rfl

theorem Station.userRules_accepts (rx : RxProp) (conf : FirewallConf) (iptype : IpType) :
    ∀ i ∈ userRules rx conf iptype, i.rule.accepts = conf.ruleActionAccept := by
  intro i hi
  rw [userRules] at hi
  split at hi
  · exact entriesRules_accepts rx conf iptype conf.entries 0 i hi
  · cases hi

theorem Modem.userRules_accepts (rx : RxProp) (conf : FirewallConf) (iptype : IpType)
    (pos : Nat) : ∀ w ∈ userRules rx conf iptype pos, w.rule.accepts = conf.ruleActionAccept := by
  intro w hw
  rw [userRules] at hw
  split at hw
  · exact entriesRules_accepts rx conf iptype conf.entries pos w hw
  · cases hw

theorem accepts_eq (conf : FirewallConf) (iptype : IpType) (p : P) :
    (if (conf.firewallEnable && conf.matchesPacket R iptype p) = true then conf.ruleActionAccept
      else !(conf.firewallEnable && conf.ruleActionAccept)) = conf.accepts R iptype p := by
  rw [FirewallConf.accepts]
  rcases conf.firewallEnable with _ | _ <;> rcases conf.matchesPacket R iptype p with _ | _ <;>
    rcases conf.ruleActionAccept with _ | _ <;> rfl

theorem stationAccepts_eq {rx : RxProp} (hrx : rx.OnlyMetaData) {p : P}
    (hp : Arrives R rx p) (conf : FirewallConf) {iptype : IpType}
    (hicmp : iptype = .v6 → R.nextHdr p ≠ ipprotoIcmp6)
    (hfrag : iptype = .v6 → R.nextHdr p ≠ ipprotoFragHdr) :
    stationAccepts R iptype (configDftFirewallRules (some rx) conf iptype) p =
      some (conf.accepts R iptype p) := by
  have hdft : Installed.sel R iptype ⟨Station.dftRule rx conf iptype, Station.dftSlot iptype⟩ p
      = true := by
    cases iptype <;> exact selects_anyDst (hrx 0) (hp 0) _
  rw [stationAccepts, Station.configDftFirewallRules_eq,
    first_skip (Station.fragRules_skips hrx hp conf hfrag),
    first_append_skip (Station.icmpRules_skips hrx hp hicmp),
    map_first_uniform (Station.userRules_accepts rx conf iptype) hdft [],
    Station.any_userRules hrx hp, Station.dftRule_accepts, accepts_eq]

theorem modemAccepts_eq {rx : RxProp} (hrx : rx.OnlyMetaData) {p : P}
    (hp : Arrives R rx p) (conf : FirewallConf) {iptype : IpType}
    (hfrag : iptype = .v6 → R.nextHdr p ≠ ipprotoFragHdr) (pos : Nat) :
    modemAccepts R iptype (configDftFirewallRulesEx (some rx) conf pos iptype) p =
      some (conf.accepts R iptype p) := by
  obtain ⟨posUser, posDft, hrules⟩ := Modem.configDftFirewallRulesEx_eq rx conf iptype pos
  have hdft : Write.sel R iptype ⟨posDft, Modem.dftRule rx conf iptype⟩ p = true := by
    cases iptype with
    | v4 => exact selects_anyDst (hrx 0) (hp 0) .v4
    | v6 =>
        change R.selects .v6 (changeToNetworkOrder .v6 (changeToNetworkOrder .v6 _)) p = true
        rw [changeToNetworkOrder_changeToNetworkOrder]
        exact selects_anyDst (hrx 1) (hp 1) .v6
  rw [modemAccepts, hrules, first_skip (Modem.fragRules_skips hrx hp conf pos hfrag),
    map_first_uniform (Modem.userRules_accepts rx conf iptype posUser) hdft [],
    Modem.any_userRules hrx hp, Modem.dftRule_accepts, accepts_eq]

theorem stationAccepts_icmp6 {rx : RxProp} (hrx : rx.OnlyMetaData) {p : P}
    (hp : Arrives R rx p) (conf : FirewallConf) (hicmp : R.nextHdr p = ipprotoIcmp6) :
    stationAccepts R .v6 (configDftFirewallRules (some rx) conf .v6) p =
      some (conf.firewallEnable && conf.matchesPacket R .v6 p && conf.ruleActionAccept) := by
  have hfrag : R.nextHdr p ≠ ipprotoFragHdr := by
    rw [hicmp]
    decide
  have hsel : Installed.sel R .v6 ⟨Station.icmpRule rx, .dftWan 2⟩ p = true :=
    (selects_withNextHdr (hrx 0) (hp 0) _).trans (decide_eq_true hicmp)
  have hicmpRules : Station.icmpRules rx .v6 = [⟨Station.icmpRule rx, .dftWan 2⟩] := rfl
  rw [stationAccepts, Station.configDftFirewallRules_eq,
    first_skip (Station.fragRules_skips hrx hp conf fun _ => hfrag), hicmpRules,
    List.singleton_append, map_first_uniform (Station.userRules_accepts rx conf .v6) hsel,
    Station.any_userRules hrx hp]
  rcases conf.firewallEnable && conf.matchesPacket R .v6 p with _ | _
  · rfl
  · rfl

theorem modemAccepts_icmp6 {rx : RxProp} (hrx : rx.OnlyMetaData) {p : P}
    (hp : Arrives R rx p) (conf : FirewallConf) (algTable : List Alg)
    (hicmp : R.nextHdr p = ipprotoIcmp6) :
    modemAccepts R .v6 (configWanFirewallRule rx conf algTable .v6) p = some false := by
  have hsel := (Modem.sel_icmp6 hrx hp (numDefaultWanFilterRule .v6)).trans (decide_eq_true hicmp)
  change (first (Write.sel R .v6) (_ :: _) p).map _ = _
  rw [first_cons_of_sel hsel]
  rfl

end LibraDevice.Firewall
