import LibraDevice.Firewall.Meaning

/-!
How many rules a configuration takes, and where they are written.
-/

namespace LibraDevice.Firewall

open Backhaul

def rulesOf (iptype : IpType) (e : ExtdFirewallEntry) : Nat :=
  if e.attrib.protocolOf iptype = ipprotoTcpUdp then 2 else 1

/-- The rules of the entries of one family. -/
def rulesOfEntries (iptype : IpType) (es : List ExtdFirewallEntry) : Nat :=
  ((es.filter fun e => e.ipVsn = ipVsn iptype).map (rulesOf iptype)).sum

def FirewallConf.numRules (conf : FirewallConf) (iptype : IpType) : Nat :=
  if conf.firewallEnable then rulesOfEntries iptype conf.entries else 0

/-- The rules for ICMP and the ALGs. -/
def numIcmpAlgRules (algTable : List Alg) : IpType → Nat
  | .v4 => 1 + 2 * algTable.length
  | .v6 => 1

/-- The rule for fragments. -/
def FirewallConf.numFragRules (conf : FirewallConf) : IpType → Nat
  | .v4 => 0
  | .v6 => if conf.firewallEnable then 1 else 0

theorem length_splitTcpUdp (iptype : IpType) (e : ExtdFirewallEntry) (a : RuleAttrib) :
    (splitTcpUdp iptype e a).length = rulesOf iptype e := by
  rw [splitTcpUdp, rulesOf]
  split <;> rfl

theorem rulesOfEntries_cons (iptype : IpType) (e : ExtdFirewallEntry)
    (es : List ExtdFirewallEntry) :
    rulesOfEntries iptype (e :: es) =
      (if e.ipVsn = ipVsn iptype then rulesOf iptype e else 0) + rulesOfEntries iptype es := by
  rw [rulesOfEntries, List.filter_cons]
  rcases eq_or_ne e.ipVsn (ipVsn iptype) with hvsn | hvsn
  · rw [if_pos hvsn, if_pos (decide_eq_true hvsn), List.map_cons, List.sum_cons]
    rfl
  · rw [if_neg hvsn, if_neg (by simpa using hvsn), Nat.zero_add]
    rfl

theorem Modem.entriesRules_pos (rx : RxProp) (conf : FirewallConf) (iptype : IpType)
    (es : List ExtdFirewallEntry) (pos : Nat) :
    (entriesRules rx conf iptype pos es).map Write.pos =
      List.range' pos (rulesOfEntries iptype es) := by
  induction es generalizing pos with
  | nil => rfl
  | cons e es ih =>
      rw [entriesRules, rulesOfEntries_cons]
      rcases eq_or_ne e.ipVsn (ipVsn iptype) with hvsn | hvsn
      · have hentry : (entryRules rx conf iptype pos e).map Write.pos =
            List.range' pos (rulesOf iptype e) := by
          rw [entryRules, List.map_map,
            ← length_splitTcpUdp iptype e (changeToNetworkOrder iptype
              (onInterface (rx.rx 0) e.attrib))]
          exact List.zipIdx_map_snd _ _
        have hlength : (entryRules rx conf iptype pos e).length = rulesOf iptype e := by
          have hlen := congrArg List.length hentry
          rwa [List.length_map, List.length_range'] at hlen
        rw [if_pos hvsn, if_pos hvsn]
        dsimp only
        rw [List.map_append, hentry, hlength, ih, List.range'_append_1]
      · rw [if_neg hvsn, if_neg hvsn, ih, Nat.zero_add]

theorem addIcmpAlgRules_pos (rx : RxProp) (algTable : List Alg) (ruleOffset : Nat)
    (iptype : IpType) :
    (addIcmpAlgRules rx algTable ruleOffset iptype).map Write.pos =
      List.range' ruleOffset (numIcmpAlgRules algTable iptype) := by
  cases iptype with
  | v6 => rfl
  | v4 =>
      have hpos : ∀ (l : List RuleAttrib) (n : Nat),
          ((l.zipIdx n).map fun x => (⟨x.2, Modem.toWanDl x.1⟩ : Write)).map Write.pos =
            List.range' n l.length := by
        intro l n
        rw [List.map_map]
        exact List.zipIdx_map_snd _ _
      have hfirst : List.range' ruleOffset 1 = [ruleOffset] := rfl
      rw [addIcmpAlgRules, List.map_append, List.map_append, hpos, hpos, List.length_map,
        List.length_map, List.map_singleton, ← hfirst, List.range'_append_1]
      have hoffset : ruleOffset + algTable.length + 1 = ruleOffset + (1 + algTable.length) := by
        omega
      have htotal : 1 + algTable.length + algTable.length = 1 + 2 * algTable.length := by omega
      rw [hoffset, List.range'_append_1, htotal]
      rfl

theorem configDftFirewallRulesEx_pos (rx : RxProp) (conf : FirewallConf) (iptype : IpType)
    (ruleOffset : Nat) :
    (configDftFirewallRulesEx (some rx) conf ruleOffset iptype).map Write.pos =
      List.range' ruleOffset (conf.numFragRules iptype + conf.numRules iptype + 1) := by
  have hlast : ∀ n, List.range' n 1 = [n] := fun _ => rfl
  have hfrag : ∀ l : List Write, l = (if iptype = .v6 ∧ conf.firewallEnable = true then
      [⟨ruleOffset, Modem.toWanDl (Modem.fragAttrib rx)⟩] else []) →
      l.map Write.pos = List.range' ruleOffset (conf.numFragRules iptype) := by
    rintro l rfl
    cases iptype with
    | v4 => rfl
    | v6 => rcases henable : conf.firewallEnable with _ | _ <;>
        simp [FirewallConf.numFragRules, henable]
  have huser : ∀ pos, (if conf.firewallEnable then
      Modem.entriesRules rx conf iptype pos conf.entries else []).map Write.pos =
        List.range' pos (conf.numRules iptype) := by
    intro pos
    rw [FirewallConf.numRules]
    split
    · exact Modem.entriesRules_pos rx conf iptype conf.entries pos
    · rfl
  have hlength : ∀ (l : List Write) (n k : Nat), l.map Write.pos = List.range' n k →
      l.length = k := by
    intro l n k h
    have hlen := congrArg List.length h
    rwa [List.length_map, List.length_range'] at hlen
  simp only [configDftFirewallRulesEx]
  rw [List.map_append, List.map_append, hfrag _ rfl, huser, List.map_singleton,
    hlength _ _ _ (hfrag _ rfl), hlength _ _ _ (huser _), List.range'_append_1, Nat.add_assoc,
    ← hlast, List.range'_append_1]

theorem configWanFirewallRule_pos (rx : RxProp) (conf : FirewallConf) (algTable : List Alg)
    (iptype : IpType) :
    (configWanFirewallRule rx conf algTable iptype).map Write.pos =
      List.range' (numDefaultWanFilterRule iptype)
        (numIcmpAlgRules algTable iptype +
          (conf.numFragRules iptype + conf.numRules iptype + 1)) := by
  have hicmp := addIcmpAlgRules_pos rx algTable (numDefaultWanFilterRule iptype) iptype
  have hlength := congrArg List.length hicmp
  rw [List.length_map, List.length_range'] at hlength
  rw [configWanFirewallRule, List.map_append, hicmp, hlength, configDftFirewallRulesEx_pos,
    List.range'_append_1]

/-- The default rules, those for ICMP, the ALGs and fragments, the rules of the entries and
the last one fit the table. -/
def WanBudget (conf : FirewallConf) (algTable : List Alg) (iptype : IpType) : Prop :=
  numDefaultWanFilterRule iptype + numIcmpAlgRules algTable iptype +
    conf.numFragRules iptype + conf.numRules iptype + 1 ≤ maxFltRule

theorem configWanFirewallRule_lt_iff (rx : RxProp) (conf : FirewallConf) (algTable : List Alg)
    (iptype : IpType) :
    (∀ w ∈ configWanFirewallRule rx conf algTable iptype, w.pos < maxFltRule) ↔
      WanBudget conf algTable iptype := by
  have hpos := configWanFirewallRule_pos rx conf algTable iptype
  have hmem : (∀ w ∈ configWanFirewallRule rx conf algTable iptype, w.pos < maxFltRule) ↔
      ∀ pos ∈ (configWanFirewallRule rx conf algTable iptype).map Write.pos,
        pos < maxFltRule := by
    rw [List.forall_mem_map]
  rw [hmem, hpos, WanBudget]
  constructor
  · intro h
    have hlast := h (numDefaultWanFilterRule iptype + (numIcmpAlgRules algTable iptype +
      (conf.numFragRules iptype + conf.numRules iptype))) (by rw [List.mem_range'_1]; omega)
    omega
  · intro h pos hposmem
    rw [List.mem_range'_1] at hposmem
    omega

theorem Station.entriesRules_hdl (rx : RxProp) (conf : FirewallConf) (iptype : IpType)
    (es : List ExtdFirewallEntry) (n : Nat) :
    (entriesRules rx conf iptype n es).map Installed.hdl =
      (List.range' n (rulesOfEntries iptype es)).map (.firewall iptype) := by
  induction es generalizing n with
  | nil => rfl
  | cons e es ih =>
      rw [entriesRules, rulesOfEntries_cons]
      rcases eq_or_ne e.ipVsn (ipVsn iptype) with hvsn | hvsn
      · have hentry : (entryRules rx conf iptype n e).map Installed.hdl =
            (List.range' n (rulesOf iptype e)).map (.firewall iptype) := by
          rw [entryRules, List.map_map,
            ← length_splitTcpUdp iptype e (onInterface (rx.rx 0) e.attrib),
            ← List.zipIdx_map_snd, List.map_map]
          rfl
        have hlength : (entryRules rx conf iptype n e).length = rulesOf iptype e := by
          have hlen := congrArg List.length hentry
          rwa [List.length_map, List.length_map, List.length_range'] at hlen
        rw [if_pos hvsn, if_pos hvsn]
        dsimp only
        rw [List.map_append, hentry, hlength, ih, ← List.map_append, List.range'_append_1]
      · rw [if_neg hvsn, if_neg hvsn, ih, Nat.zero_add]

theorem Station.userRules_hdl (rx : RxProp) (conf : FirewallConf) (iptype : IpType) :
    (userRules rx conf iptype).map Installed.hdl =
      (List.range' 0 (conf.numRules iptype)).map (.firewall iptype) := by
  rw [userRules, FirewallConf.numRules]
  split
  · exact entriesRules_hdl rx conf iptype conf.entries 0
  · rfl

theorem mem_configDftFirewallRules_hdl (rx : RxProp) (conf : FirewallConf) (iptype f : IpType)
    (k : Nat) :
    (∃ i ∈ configDftFirewallRules (some rx) conf iptype, i.hdl = .firewall f k) ↔
      f = iptype ∧ k < conf.numRules iptype := by
  have huser : (∃ i ∈ Station.userRules rx conf iptype, i.hdl = .firewall f k) ↔
      f = iptype ∧ k < conf.numRules iptype := by
    rw [← List.mem_map, Station.userRules_hdl, List.mem_map]
    simp only [List.mem_range'_1, Nat.zero_le, Nat.zero_add, true_and, HdlSlot.firewall.injEq]
    constructor
    · rintro ⟨k', hk, rfl, rfl⟩
      exact ⟨rfl, hk⟩
    · rintro ⟨rfl, hk⟩
      exact ⟨k, hk, rfl, rfl⟩
  rw [← huser, Station.configDftFirewallRules_eq]
  constructor
  · rintro ⟨i, hi, hhdl⟩
    rcases List.mem_append.mp hi with hi | hi
    · rw [Station.fragRules] at hi
      split at hi
      · rw [List.mem_singleton.mp hi] at hhdl
        cases hhdl
      · cases hi
    · rcases List.mem_append.mp hi with hi | hi
      · exact ⟨i, hi, hhdl⟩
      · rcases List.mem_append.mp hi with hi | hi
        · rw [Station.icmpRules] at hi
          split at hi
          · rw [List.mem_singleton.mp hi] at hhdl
            cases hhdl
          · cases hi
        · rw [List.mem_singleton.mp hi] at hhdl
          cases iptype <;> cases hhdl
  · rintro ⟨i, hi, hhdl⟩
    exact ⟨i, List.mem_append_right _ (List.mem_append_left _ hi), hhdl⟩

theorem configDftFirewallRules_lt_iff (rx : RxProp) (conf : FirewallConf) (iptype : IpType)
    (size : Nat) :
    (∀ i ∈ configDftFirewallRules (some rx) conf iptype, ∀ f k, i.hdl = .firewall f k →
      k < size) ↔ conf.numRules iptype ≤ size := by
  constructor
  · intro h
    rcases hnum : conf.numRules iptype with _ | k
    · exact Nat.zero_le size
    · obtain ⟨i, hi, hhdl⟩ := (mem_configDftFirewallRules_hdl rx conf iptype iptype k).mpr
        ⟨rfl, by omega⟩
      exact h i hi iptype k hhdl
  · intro h i hi f k hhdl
    have hk := (mem_configDftFirewallRules_hdl rx conf iptype f k).mp ⟨i, hi, hhdl⟩
    omega

end LibraDevice.Firewall
