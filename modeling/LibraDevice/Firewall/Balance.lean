import LibraDevice.Firewall.Station

/-!
The firewall rules of a station balance: what is deleted is live, and what is live is the
configuration.
-/

namespace LibraDevice.Firewall

open Backhaul Ledger StepRun
open Xml (maxFirewallEntries)

/-- The family whose rules are kept in the slot. -/
def HdlSlot.family : HdlSlot → IpType
  | .ipv6FragFirewall => .v6
  | .dftWan 0 => .v4
  | .dftWan _ => .v6
  | .firewall f _ => f

theorem configDftFirewallRules_hdl (rx : RxProp) (conf : FirewallConf) (iptype : IpType) :
    (configDftFirewallRules (some rx) conf iptype).map Installed.hdl =
      (if iptype = .v6 ∧ conf.firewallEnable then [.ipv6FragFirewall] else []) ++
        ((List.range' 0 (conf.numRules iptype)).map (.firewall iptype) ++
          ((if iptype = .v6 then [.dftWan 2] else []) ++ [Station.dftSlot iptype])) := by
  rw [Station.configDftFirewallRules_eq, List.map_append, List.map_append, List.map_append,
    Station.userRules_hdl, Station.fragRules, Station.icmpRules]
  congr 1
  · split <;> rfl
  · congr 2
    split <;> rfl

theorem configDftFirewallRules_hdl_nodup (rxProp : Option RxProp) (conf : FirewallConf)
    (iptype : IpType) :
    ((configDftFirewallRules rxProp conf iptype).map Installed.hdl).Nodup := by
  rcases rxProp with _ | rx
  · exact List.nodup_nil
  · rw [configDftFirewallRules_hdl]
    have huser : ((List.range' 0 (conf.numRules iptype)).map (HdlSlot.firewall iptype)).Nodup := by
      apply List.Nodup.map _ List.nodup_range'
      intro i j hij
      cases hij
      rfl
    cases iptype with
    | v4 => simp [List.nodup_append, huser, Station.dftSlot]
    | v6 =>
        rcases conf.firewallEnable with _ | _ <;>
          simp [List.nodup_append, huser, Station.dftSlot]

theorem configDftFirewallRules_family (rxProp : Option RxProp) (conf : FirewallConf)
    (iptype : IpType) :
    ∀ i ∈ configDftFirewallRules rxProp conf iptype, i.hdl.family = iptype := by
  intro i hi
  rcases rxProp with _ | rx
  · cases hi
  · have hslot := List.mem_map_of_mem (f := Installed.hdl) hi
    rw [configDftFirewallRules_hdl] at hslot
    cases iptype <;>
      simp only [List.mem_append, List.mem_map, Station.dftSlot] at hslot <;> grind [HdlSlot.family]

theorem countP_configDftFirewallRules (rx : RxProp) (conf : FirewallConf) (iptype : IpType) :
    ((configDftFirewallRules (some rx) conf iptype).countP fun i => i.hdl.isFirewall) =
      conf.numRules iptype := by
  have hmap : ∀ l : List Installed, (l.countP fun i => i.hdl.isFirewall) =
      (l.map Installed.hdl).countP HdlSlot.isFirewall := by
    intro l
    rw [List.countP_map]
    rfl
  have huser : ((List.range' 0 (conf.numRules iptype)).map (HdlSlot.firewall iptype)).countP
      HdlSlot.isFirewall = conf.numRules iptype := by
    rw [List.countP_map]
    exact (List.countP_eq_length.mpr fun _ _ => rfl).trans List.length_range'
  rw [hmap, configDftFirewallRules_hdl, List.countP_append, List.countP_append,
    List.countP_append, huser]
  cases iptype with
  | v4 => simp [HdlSlot.isFirewall, Station.dftSlot]
  | v6 => rcases conf.firewallEnable with _ | _ <;> simp [HdlSlot.isFirewall, Station.dftSlot]

namespace StaFirewall

variable {s s' : StaFirewall} {iptype f : IpType} {i : Installed} {h : Hdl}
  {rules rules' : List Installed}

/-- The handle `0` names no rule. -/
def NullFree (s : StaFirewall) : Prop := ∀ f, s.live f 0 = none

theorem addFilteringRule_eq (hadd : s.addFilteringRule iptype i h = some s') :
    h ≠ 0 ∧ (∀ f, s.live f h = none) ∧ s'.active = s.active ∧
      s'.live = Function.update s.live iptype
        (Function.update (s.live iptype) h (some i.rule)) ∧
      s'.hdl = Function.update s.hdl i.hdl h ∧
      ∀ f, s'.numFirewall f =
        s.numFirewall f + if i.hdl.isFirewall ∧ i.hdl.family = f then 1 else 0 := by
  rw [addFilteringRule] at hadd
  split at hadd
  case isFalse => cases hadd
  case isTrue hfree =>
    cases hadd
    refine ⟨hfree.1, ?_, rfl, rfl, rfl, ?_⟩
    · intro f
      cases f with
      | v4 => exact Option.isNone_iff_eq_none.mp hfree.2.1
      | v6 => exact Option.isNone_iff_eq_none.mp hfree.2.2
    · intro f
      rcases hslot : i.hdl with _ | k | ⟨g, k⟩
      · rfl
      · rfl
      · simp only [HdlSlot.isFirewall, HdlSlot.family, true_and]
        rcases eq_or_ne g f with rfl | hne
        · rw [Function.update_self, if_pos rfl]
        · rw [Function.update_of_ne hne.symm, if_neg hne]
          rfl

theorem addFilteringRule_nullFree (hadd : s.addFilteringRule iptype i h = some s')
    (hnull : s.NullFree) : s'.NullFree := by
  obtain ⟨hne, -, -, hlive, -, -⟩ := addFilteringRule_eq hadd
  intro f
  rw [hlive]
  rcases eq_or_ne f iptype with rfl | hf
  · rw [Function.update_self, Function.update_of_ne hne.symm]
    exact hnull f
  · rw [Function.update_of_ne hf]
    exact hnull f

theorem map_hdl_update (hnew : i.hdl ∉ rules.map Installed.hdl) :
    (rules.map fun j => (Function.update s.hdl i.hdl h j.hdl, j.rule)) =
      rules.map fun j => (s.hdl j.hdl, j.rule) := by
  apply List.map_congr_left
  intro j hj
  have hne : j.hdl ≠ i.hdl := by
    intro heq
    exact hnew (heq ▸ List.mem_map_of_mem (f := Installed.hdl) hj)
  rw [Function.update_of_ne hne]

theorem Holds.add (hadd : s.addFilteringRule iptype i h = some s')
    (hs : s.Holds iptype rules) (hfam : i.hdl.family = iptype)
    (hnew : i.hdl ∉ rules.map Installed.hdl) : s'.Holds iptype (rules ++ [i]) := by
  obtain ⟨-, hfree, -, hlive, hhdl, hnum⟩ := addFilteringRule_eq hadd
  constructor
  · rw [hlive, hhdl, Function.update_self, List.map_append, map_hdl_update hnew,
      List.map_singleton, Function.update_self]
    apply Accounted.acquire
    · rw [List.append_nil]
      exact hs.accounted
    · exact hfree iptype
  · rw [hnum, hs.counted, List.countP_append, List.countP_singleton, hfam]
    simp

theorem Holds.add_other (hadd : s.addFilteringRule iptype i h = some s')
    (hs : s.Holds f rules) (hfam : i.hdl.family = iptype) (hne : f ≠ iptype)
    (hrules : ∀ j ∈ rules, j.hdl.family = f) : s'.Holds f rules := by
  obtain ⟨-, -, -, hlive, hhdl, hnum⟩ := addFilteringRule_eq hadd
  have hnew : i.hdl ∉ rules.map Installed.hdl := by
    intro hmem
    obtain ⟨j, hj, hslot⟩ := List.mem_map.mp hmem
    exact hne (by rw [← hrules j hj, hslot, hfam])
  constructor
  · rw [hlive, hhdl, Function.update_of_ne hne, map_hdl_update hnew]
    exact hs.accounted
  · rw [hnum, hs.counted, if_neg fun hslot => hne (hslot.2.symm.trans hfam), Nat.add_zero]

theorem addFilteringRules_spec (f : IpType) (rules' : List Installed) {is : List Installed}
    {hs : List Hdl}
    (hadd : addFilteringRules iptype is hs s = some s') (hnull : s.NullFree)
    (hheld : s.Holds iptype rules) (hother : f ≠ iptype → s.Holds f rules')
    (hfam : ∀ i ∈ is, i.hdl.family = iptype)
    (hnodup : ((rules ++ is).map Installed.hdl).Nodup)
    (hrules' : ∀ j ∈ rules', j.hdl.family = f) :
    s'.active = s.active ∧ s'.NullFree ∧ s'.Holds iptype (rules ++ is) ∧
      (f ≠ iptype → s'.Holds f rules') := by
  induction is generalizing s hs rules with
  | nil =>
      rcases hs with _ | ⟨h, hs⟩
      · cases hadd
        rw [List.append_nil]
        exact ⟨rfl, hnull, hheld, hother⟩
      · cases hadd
  | cons i is ih =>
      rcases hs with _ | ⟨h, hs⟩
      · cases hadd
      · rw [addFilteringRules, Option.bind_eq_some_iff] at hadd
        obtain ⟨s₁, hfirst, hrest⟩ := hadd
        have hi : i.hdl.family = iptype := hfam i List.mem_cons_self
        have hnew : i.hdl ∉ rules.map Installed.hdl := by
          intro hmem
          rw [List.map_append, List.map_cons] at hnodup
          exact (List.nodup_append.mp hnodup).2.2 i.hdl hmem i.hdl List.mem_cons_self rfl
        have happend : rules ++ i :: is = rules ++ [i] ++ is := by simp
        rw [happend] at hnodup
        obtain ⟨hactive, hspec⟩ := ih hrest (addFilteringRule_nullFree hfirst hnull)
          (hheld.add hfirst hi hnew)
          (fun hne => (hother hne).add_other hfirst hi hne hrules')
          (fun j hj => hfam j (List.mem_cons_of_mem i hj)) hnodup
        rw [happend]
        exact ⟨hactive.trans (addFilteringRule_eq hfirst).2.2.1, hspec⟩

theorem holds_nil_iff : s.Holds f [] ↔ (∀ h, s.live f h = none) ∧ s.numFirewall f = 0 := by
  constructor
  · intro hs
    exact ⟨Accounted.nil_iff.mp hs.accounted, hs.counted⟩
  · rintro ⟨hlive, hnum⟩
    exact ⟨Accounted.nil_iff.mpr hlive, hnum⟩

theorem Holds.congr (hs : s.Holds f rules) (hlive : s'.live f = s.live f) (hhdl : s'.hdl = s.hdl)
    (hnum : s'.numFirewall f = s.numFirewall f) : s'.Holds f rules := by
  constructor
  · rw [hlive, hhdl]
    exact hs.accounted
  · rw [hnum]
    exact hs.counted

theorem firewallHdls_eq {rx : RxProp} {conf : FirewallConf}
    (hs : s.Holds iptype (configDftFirewallRules (some rx) conf iptype)) :
    s.firewallHdls iptype = ((Station.userRules rx conf iptype).map fun i =>
      (s.hdl i.hdl, i.rule)).map Prod.fst := by
  have hslots : ((Station.userRules rx conf iptype).map fun i =>
      (s.hdl i.hdl, i.rule)).map Prod.fst =
        ((Station.userRules rx conf iptype).map Installed.hdl).map s.hdl := by
    rw [List.map_map, List.map_map]
    rfl
  rw [hslots, Station.userRules_hdl, firewallHdls, hs.counted, countP_configDftFirewallRules,
    List.range_eq_range', List.map_map]
  rfl

/-- The deletion of the rules a configuration left. Only where the rule for fragments is
among them are the handles passed for IPv6 all live. -/
theorem delDftFirewallRules_spec {rx : RxProp} {conf : FirewallConf} (hnull : s.NullFree)
    (hs : s.Holds iptype (configDftFirewallRules (some rx) conf iptype))
    (hactive : s.active iptype = true) (hfit : conf.numRules iptype ≤ maxFirewallEntries)
    (hfrag : iptype = .v6 → conf.firewallEnable = true) :
    ∃ s', delDftFirewallRules (some rx) iptype s = (s', []) ∧ s'.active = s.active ∧
      s'.NullFree ∧ s'.Holds iptype [] ∧
      ∀ g ≠ iptype, ∀ rules, s.Holds g rules → s'.Holds g rules := by
  have hcount : s.numFirewall iptype ≤ maxFirewallEntries := by
    rw [hs.counted, countP_configDftFirewallRules]
    exact hfit
  have hguard : ¬ (s.active iptype = false ∨ maxFirewallEntries < s.numFirewall iptype) := by
    rw [hactive]
    simpa using hcount
  have hfinal : ∀ (live : Hdl → Option FltRule), live 0 = none → Accounted live [] →
      ∀ t : StaFirewall, t = { s with
        live := Function.update s.live iptype live
        numFirewall := Function.update s.numFirewall iptype 0 } →
      t.active = s.active ∧ t.NullFree ∧ t.Holds iptype [] ∧
        ∀ g ≠ iptype, ∀ rules, s.Holds g rules → t.Holds g rules := by
    rintro live hzero hempty t rfl
    refine ⟨rfl, ?_, ?_, ?_⟩
    · intro f
      rcases eq_or_ne f iptype with rfl | hf
      · simp only [Function.update_self]
        exact hzero
      · simp only [Function.update_of_ne hf]
        exact hnull f
    · rw [holds_nil_iff]
      simp only [Function.update_self, and_true]
      exact Accounted.nil_iff.mp hempty
    · intro g hg rules hrules
      exact hrules.congr (Function.update_of_ne hg _ _) rfl (Function.update_of_ne hg _ _)
  have hheld := hs.accounted
  rw [Station.configDftFirewallRules_eq] at hheld
  rw [delDftFirewallRules, if_neg hguard]
  dsimp only
  rw [firewallHdls_eq hs]
  cases iptype with
  | v4 =>
      have hheld₀ : Accounted (s.live .v4) ((Station.userRules rx conf .v4).map (fun i =>
          (s.hdl i.hdl, i.rule)) ++
            ([(s.hdl (.dftWan 0), Station.dftRule rx conf .v4)] ++ [])) := by
        rw [List.map_append, List.map_append] at hheld
        exact hheld
      obtain ⟨live₁, hdel₁, hnull₁, hheld₁⟩ := hheld₀.deleteAll (hnull .v4)
      obtain ⟨live₂, hdel₂, hnull₂, hheld₂⟩ := hheld₁.deleteAll hnull₁
      have hdel₂' : deleteAll 0 [s.hdl (.dftWan 0)] live₁ = ⟨live₂, [], true⟩ := hdel₂
      simp only [hdel₁, Deletion.andThen, if_true, hdel₂']
      exact ⟨_, rfl, hfinal live₂ hnull₂ hheld₂ _ rfl⟩
  | v6 =>
      have hperm : (Station.fragRules rx conf .v6 ++ (Station.userRules rx conf .v6 ++
          (Station.icmpRules rx .v6 ++
            [Installed.mk (Station.dftRule rx conf .v6) (Station.dftSlot .v6)]))).Perm
          (Station.userRules rx conf .v6 ++
            ([Installed.mk (Station.dftRule rx conf .v6) (.dftWan 1)] ++
              ([Installed.mk (Station.icmpRule rx) (.dftWan 2)] ++
                ([Installed.mk (Station.fragRule rx) .ipv6FragFirewall] ++ [])))) := by
        rw [Station.fragRules, if_pos ⟨rfl, hfrag rfl⟩]
        refine List.perm_append_comm.trans ?_
        rw [List.append_assoc]
        refine List.Perm.append_left _ ?_
        exact (List.Perm.swap _ _ _)
      have hheld₀ := hheld.perm (hperm.map fun i => (s.hdl i.hdl, i.rule))
      rw [List.map_append, List.map_append, List.map_append, List.map_append] at hheld₀
      obtain ⟨live₁, hdel₁, hnull₁, hheld₁⟩ := hheld₀.deleteAll (hnull .v6)
      obtain ⟨live₂, hdel₂, hnull₂, hheld₂⟩ := hheld₁.deleteAll hnull₁
      obtain ⟨live₃, hdel₃, hnull₃, hheld₃⟩ := hheld₂.deleteAll hnull₂
      obtain ⟨live₄, hdel₄, hnull₄, hheld₄⟩ := hheld₃.deleteAll hnull₃
      have hdel₂' : deleteAll 0 [s.hdl (.dftWan 1)] live₁ = ⟨live₂, [], true⟩ := hdel₂
      have hdel₃' : deleteAll 0 [s.hdl (.dftWan 2)] live₂ = ⟨live₃, [], true⟩ := hdel₃
      have hdel₄' : deleteAll 0 [s.hdl .ipv6FragFirewall] live₃ = ⟨live₄, [], true⟩ := hdel₄
      simp only [hdel₁, Deletion.andThen, if_true, hdel₂', hdel₃', hdel₄', List.append_nil]
      exact ⟨_, rfl, hfinal live₄ hnull₄ hheld₄ _ rfl⟩

theorem delDftFirewallRules_ok {rxProp : Option RxProp} {conf : FirewallConf}
    (hnull : s.NullFree) (hs : s.Holds iptype (configDftFirewallRules rxProp conf iptype))
    (hactive : s.active iptype = true) (hfit : conf.numRules iptype ≤ maxFirewallEntries)
    (hfrag : iptype = .v6 → rxProp.isSome → conf.firewallEnable = true) :
    ∃ s', delDftFirewallRules rxProp iptype s = (s', []) ∧ s'.active = s.active ∧
      s'.NullFree ∧ s'.Holds iptype [] ∧
      ∀ g ≠ iptype, ∀ rules, s.Holds g rules → s'.Holds g rules := by
  rcases rxProp with _ | rx
  · exact ⟨s, rfl, rfl, hnull, hs, fun _ _ _ h => h⟩
  · exact delDftFirewallRules_spec hnull hs hactive hfit fun hv6 => hfrag hv6 rfl

theorem config_spec {rxProp : Option RxProp} {conf : FirewallConf} {hdls : List Hdl}
    {calls : List Call} (hconfig : config rxProp iptype conf hdls s = some (s', calls))
    (hnull : s.NullFree) (hs : s.Holds iptype []) :
    calls = [.configured iptype conf s'] ∧ s'.active = s.active ∧ s'.NullFree ∧
      s'.Holds iptype (configDftFirewallRules rxProp conf iptype) ∧
      ∀ g ≠ iptype, ∀ rules, (∀ j ∈ rules, j.hdl.family = g) → s.Holds g rules →
        s'.Holds g rules := by
  rw [config, Option.map_eq_some_iff] at hconfig
  obtain ⟨t, hadd, heq⟩ := hconfig
  cases heq
  have hspec := fun g rules' => addFilteringRules_spec g rules' hadd hnull hs
  have hfam := configDftFirewallRules_family rxProp conf iptype
  have hnodup := configDftFirewallRules_hdl_nodup rxProp conf iptype
  obtain ⟨hactive, hnull', hheld, -⟩ :=
    hspec iptype [] (fun h => absurd rfl h) hfam hnodup (fun _ h => by cases h)
  refine ⟨rfl, hactive, hnull', hheld, ?_⟩
  intro g hg rules hrules hother
  exact (hspec g rules (fun _ => hother) hfam hnodup hrules).2.2.2 hg

end StaFirewall

/-- The configuration a call read for the family. -/
def Call.conf? (iptype : IpType) : Call → Option FirewallConf
  | .deleted _ _ _ => none
  | .configured f conf _ => if f = iptype then some conf else none

/-- The configuration last read for the family. -/
def lastConf (calls : List Call) (iptype : IpType) : Option FirewallConf :=
  calls.reverse.findSome? (Call.conf? iptype)

theorem lastConf_append (calls calls' : List Call) (iptype : IpType) :
    lastConf (calls ++ calls') iptype = (lastConf calls' iptype).or (lastConf calls iptype) := by
  rw [lastConf, List.reverse_append, List.findSome?_append]
  rfl

/-- An instance, with the calls it has made. -/
structure StaRun where
  firewall : StaFirewall
  calls : List Call

/-- One event, with handles of the driver's choice. -/
def StaRun.Step (rxProp : Option RxProp) (r : StaRun) (e : StaEvent) (r' : StaRun) : Prop :=
  ∃ hdls calls, r.firewall.eventCallback rxProp hdls e = some (r'.firewall, calls) ∧
    r'.calls = r.calls ++ calls

/-- The rules read for a family fit its handles. -/
def StaEvent.Valid : StaEvent → Prop
  | .routeAdd iptype _ conf => conf.numRules iptype ≤ maxFirewallEntries
  | .routeDel _ => True
  | .firewallChange conf => ∀ iptype, (conf iptype).numRules iptype ≤ maxFirewallEntries

def StaEvent.deletesV6 : StaEvent → Bool
  | .routeAdd _ _ _ => false
  | .routeDel iptype => iptype = .v6
  | .firewallChange _ => true

/-- When the IPv6 rules are deleted, the firewall was enabled as they were installed. -/
def StaRun.FragInstalled (rxProp : Option RxProp) (r : StaRun) (e : StaEvent) : Prop :=
  e.deletesV6 = true → r.firewall.active .v6 = true → rxProp.isSome →
    ∀ conf, lastConf r.calls .v6 = some conf → conf.firewallEnable = true

/-- The family against what was last read for it. -/
structure StaRun.Kept (rxProp : Option RxProp) (r : StaRun) (iptype : IpType) : Prop where
  idle : r.firewall.active iptype = false → r.firewall.Holds iptype []
  busy : r.firewall.active iptype = true → ∃ conf, lastConf r.calls iptype = some conf ∧
    conf.numRules iptype ≤ maxFirewallEntries ∧
    r.firewall.Holds iptype (configDftFirewallRules rxProp conf iptype)

structure StaRun.Inv (rxProp : Option RxProp) (r : StaRun) : Prop where
  nullFree : r.firewall.NullFree
  ok : ∀ c ∈ r.calls, c.Ok rxProp
  kept : ∀ iptype, r.Kept rxProp iptype

namespace StaRun

variable {rxProp : Option RxProp} {r r' : StaRun} {iptype : IpType}

theorem Kept.congr (h : r.Kept rxProp iptype)
    (hactive : r'.firewall.active iptype = r.firewall.active iptype)
    (hlast : lastConf r'.calls iptype = lastConf r.calls iptype)
    (hheld : ∀ rules : List Installed, (∀ j ∈ rules, j.hdl.family = iptype) →
      r.firewall.Holds iptype rules → r'.firewall.Holds iptype rules) :
    r'.Kept rxProp iptype := by
  constructor
  · intro hidle
    rw [hactive] at hidle
    exact hheld [] (fun _ hj => by cases hj) (h.idle hidle)
  · intro hbusy
    rw [hactive] at hbusy
    obtain ⟨conf, hconf, hfit, hrules⟩ := h.busy hbusy
    exact ⟨conf, hlast.trans hconf, hfit,
      hheld _ (configDftFirewallRules_family rxProp conf iptype) hrules⟩

theorem Inv.of_family (h : r.Inv rxProp) (iptype : IpType) (hnull : r'.firewall.NullFree)
    (hok : ∀ c ∈ r'.calls, c ∉ r.calls → c.Ok rxProp) (hkept : r'.Kept rxProp iptype)
    (hactive : ∀ g ≠ iptype, r'.firewall.active g = r.firewall.active g)
    (hlast : ∀ g ≠ iptype, lastConf r'.calls g = lastConf r.calls g)
    (hheld : ∀ g ≠ iptype, ∀ rules : List Installed, (∀ j ∈ rules, j.hdl.family = g) →
      r.firewall.Holds g rules → r'.firewall.Holds g rules) : r'.Inv rxProp := by
  constructor
  · exact hnull
  · intro c hc
    rcases Classical.em (c ∈ r.calls) with hold | hnew
    · exact h.ok c hold
    · exact hok c hc hnew
  · intro g
    rcases eq_or_ne g iptype with rfl | hg
    · exact hkept
    · exact (h.kept g).congr (hactive g hg) (hlast g hg) (hheld g hg)

theorem lastConf_configured (calls : List Call) (conf : FirewallConf) (s : StaFirewall)
    (g : IpType) : lastConf (calls ++ [.configured iptype conf s]) g =
      if g = iptype then some conf else lastConf calls g := by
  rw [lastConf_append]
  rcases eq_or_ne iptype g with rfl | hne
  · simp [lastConf, Call.conf?]
  · simp [lastConf, Call.conf?, hne, hne.symm]

theorem lastConf_deleted (calls : List Call) (dead : List Hdl) (s : StaFirewall) (g : IpType) :
    lastConf (calls ++ [.deleted iptype dead s]) g = lastConf calls g := by
  rw [lastConf_append]
  rfl

theorem Inv.handleRouteAddEvt {conf : FirewallConf} {hdls : List Hdl} {s' : StaFirewall}
    {calls : List Call} (h : r.Inv rxProp) (hidle : r.firewall.active iptype = false)
    (hfit : conf.numRules iptype ≤ maxFirewallEntries)
    (hadd : r.firewall.handleRouteAddEvt rxProp iptype conf hdls = some (s', calls)) :
    StaRun.Inv rxProp ⟨s', r.calls ++ calls⟩ := by
  have hempty : StaFirewall.Holds { r.firewall with
      active := Function.update r.firewall.active iptype true } iptype [] :=
    ((h.kept iptype).idle hidle).congr rfl rfl rfl
  obtain ⟨rfl, hactive, hnull, hheld, hother⟩ :=
    StaFirewall.config_spec hadd h.nullFree hempty
  refine h.of_family iptype hnull ?_ ?_ ?_ ?_ ?_
  · intro c hc hnew
    rcases List.mem_append.mp hc with hc | hc
    · exact absurd hc hnew
    · rw [List.mem_singleton.mp hc]
      exact hheld
  · constructor
    · intro hfalse
      change s'.active iptype = false at hfalse
      rw [hactive] at hfalse
      simp only [Function.update_self] at hfalse
      cases hfalse
    · intro _
      refine ⟨conf, ?_, hfit, hheld⟩
      rw [lastConf_configured, if_pos rfl]
  · intro g hg
    change s'.active g = _
    rw [hactive]
    exact Function.update_of_ne hg _ _
  · intro g hg
    rw [lastConf_configured, if_neg hg]
  · intro g hg rules hrules hold
    exact hother g hg rules hrules (hold.congr rfl rfl rfl)

theorem Inv.delDftFirewallRules (h : r.Inv rxProp) (hbusy : r.firewall.active iptype = true)
    (hfrag : iptype = .v6 → rxProp.isSome → ∀ conf, lastConf r.calls .v6 = some conf →
      conf.firewallEnable = true) :
    ∃ s', StaFirewall.delDftFirewallRules rxProp iptype r.firewall = (s', []) ∧
      s'.active = r.firewall.active ∧ s'.NullFree ∧ s'.Holds iptype [] ∧
      ∀ g ≠ iptype, ∀ rules, r.firewall.Holds g rules → s'.Holds g rules := by
  obtain ⟨conf, hlast, hfit, hheld⟩ := (h.kept iptype).busy hbusy
  refine StaFirewall.delDftFirewallRules_ok h.nullFree hheld hbusy hfit ?_
  rintro rfl hsome
  exact hfrag rfl hsome conf hlast

theorem Inv.handleFirewallChange {conf : FirewallConf} {hdls : List Hdl} {s' : StaFirewall}
    {calls : List Call} (h : r.Inv rxProp) (hfit : conf.numRules iptype ≤ maxFirewallEntries)
    (hfrag : iptype = .v6 → r.firewall.active .v6 = true → rxProp.isSome →
      ∀ conf, lastConf r.calls .v6 = some conf → conf.firewallEnable = true)
    (hchange : r.firewall.handleFirewallChange rxProp iptype conf hdls = some (s', calls)) :
    StaRun.Inv rxProp ⟨s', r.calls ++ calls⟩ ∧ s'.active = r.firewall.active ∧
      ∀ g ≠ iptype, lastConf (r.calls ++ calls) g = lastConf r.calls g := by
  rw [StaFirewall.handleFirewallChange] at hchange
  rcases hbusy : r.firewall.active iptype with _ | _
  · rw [hbusy] at hchange
    cases hchange
    rw [List.append_nil]
    exact ⟨h, rfl, fun _ _ => rfl⟩
  · have hfrag' : iptype = .v6 → rxProp.isSome → ∀ conf, lastConf r.calls .v6 = some conf →
        conf.firewallEnable = true := by
      rintro rfl
      exact hfrag rfl hbusy
    obtain ⟨s₁, hdel, hactive₁, hnull₁, hempty, hother₁⟩ := h.delDftFirewallRules hbusy hfrag'
    rw [hbusy, hdel] at hchange
    simp only [if_true, Option.map_eq_some_iff] at hchange
    obtain ⟨⟨s₂, calls₂⟩, hconfig, heq⟩ := hchange
    cases heq
    obtain ⟨rfl, hactive₂, hnull₂, hheld, hother₂⟩ :=
      StaFirewall.config_spec hconfig hnull₁ hempty
    have hactive := hactive₂.trans hactive₁
    have hcalls : r.calls ++ [.deleted iptype [] s₁, .configured iptype conf s₂] =
        r.calls ++ [.deleted iptype [] s₁] ++ [.configured iptype conf s₂] := by
      rw [List.append_assoc]
      rfl
    have hlast : ∀ g, lastConf (r.calls ++ [.deleted iptype [] s₁,
        .configured iptype conf s₂]) g =
          if g = iptype then some conf else lastConf r.calls g := by
      intro g
      rw [hcalls, lastConf_configured, lastConf_deleted]
    refine ⟨h.of_family iptype hnull₂ ?_ ?_ ?_ ?_ ?_, hactive, ?_⟩
    · intro c hc hnew
      rcases List.mem_append.mp hc with hc | hc
      · exact absurd hc hnew
      · rcases List.mem_cons.mp hc with rfl | hc
        · exact ⟨rfl, (StaFirewall.holds_nil_iff.mp hempty).1⟩
        · rw [List.mem_singleton.mp hc]
          exact hheld
    · constructor
      · intro hfalse
        change s₂.active iptype = false at hfalse
        rw [hactive, hbusy] at hfalse
        cases hfalse
      · intro _
        exact ⟨conf, (hlast iptype).trans (if_pos rfl), hfit, hheld⟩
    · intro g _
      exact congrFun hactive g
    · intro g hg
      exact (hlast g).trans (if_neg hg)
    · intro g hg rules hrules hold
      exact hother₂ g hg rules hrules (hother₁ g hg rules hold)
    · intro g hg
      exact (hlast g).trans (if_neg hg)

theorem Inv.routeDel (h : r.Inv rxProp) (hbusy : r.firewall.active iptype = true)
    (hfrag : iptype = .v6 → rxProp.isSome → ∀ conf, lastConf r.calls .v6 = some conf →
      conf.firewallEnable = true) {s' : StaFirewall} {dead : List Hdl}
    (hdel : StaFirewall.delDftFirewallRules rxProp iptype r.firewall = (s', dead)) :
    StaRun.Inv rxProp ⟨{ s' with active := Function.update s'.active iptype false },
      r.calls ++ [.deleted iptype dead s']⟩ := by
  obtain ⟨s₁, hdel₁, hactive, hnull, hempty, hother⟩ := h.delDftFirewallRules hbusy hfrag
  rw [hdel₁] at hdel
  cases hdel
  refine h.of_family iptype hnull ?_ ?_ ?_ ?_ ?_
  · intro c hc hnew
    rcases List.mem_append.mp hc with hc | hc
    · exact absurd hc hnew
    · rw [List.mem_singleton.mp hc]
      exact ⟨rfl, (StaFirewall.holds_nil_iff.mp hempty).1⟩
  · constructor
    · intro _
      exact hempty.congr rfl rfl rfl
    · intro htrue
      simp only [Function.update_self] at htrue
      cases htrue
  · intro g hg
    change Function.update s'.active iptype false g = _
    rw [Function.update_of_ne hg, hactive]
  · intro g _
    exact lastConf_deleted _ _ _ g
  · intro g hg rules _ hold
    exact (hother g hg rules hold).congr rfl rfl rfl

theorem Inv.step {e : StaEvent} (h : r.Inv rxProp) (hvalid : e.Valid)
    (hfrag : r.FragInstalled rxProp e) (hstep : StaRun.Step rxProp r e r') : r'.Inv rxProp := by
  obtain ⟨hdls, calls, hcall, hcalls⟩ := hstep
  rcases r' with ⟨s', calls'⟩
  change calls' = _ at hcalls
  subst hcalls
  change _ = some (s', calls) at hcall
  cases e with
  | routeAdd iptype hdrSet conf =>
      rw [StaFirewall.eventCallback] at hcall
      split at hcall
      case isTrue hidle => exact h.handleRouteAddEvt hidle.1 hvalid hcall
      case isFalse =>
        cases hcall
        rw [List.append_nil]
        exact h
  | routeDel iptype =>
      rw [StaFirewall.eventCallback] at hcall
      rcases hbusy : r.firewall.active iptype with _ | _
      · rw [hbusy] at hcall
        cases hcall
        rw [List.append_nil]
        exact h
      · rw [hbusy] at hcall
        cases hcall
        refine h.routeDel hbusy ?_ rfl
        rintro rfl hsome
        exact hfrag rfl hbusy hsome
  | firewallChange conf =>
      simp only [StaFirewall.eventCallback, Option.bind_eq_bind, Option.bind_eq_some_iff] at hcall
      obtain ⟨⟨s4, calls4⟩, hv4, ⟨s6, calls6⟩, hv6, heq⟩ := hcall
      cases heq
      obtain ⟨h4, hactive4, hlast4⟩ :=
        h.handleFirewallChange (hvalid .v4) (fun hne => by cases hne) hv4
      obtain ⟨h6, -, -⟩ := h4.handleFirewallChange (hvalid .v6) (by
        intro _ hbusy hsome conf' hconf
        rw [hlast4 .v6 (fun hne => by cases hne)] at hconf
        exact hfrag rfl (by rw [← hactive4]; exact hbusy) hsome conf' hconf) hv6
      rw [← List.append_assoc]
      exact h6

theorem Inv.init {s : StaFirewall} (hnew : s.New) : StaRun.Inv rxProp ⟨s, []⟩ := by
  constructor
  · intro f
    exact hnew.live f 0
  · intro c hc
    cases hc
  · intro f
    constructor
    · intro _
      exact StaFirewall.holds_nil_iff.mpr ⟨hnew.live f, hnew.numFirewall f⟩
    · intro hbusy
      change s.active f = true at hbusy
      rw [hnew.active f] at hbusy
      cases hbusy

/-- The step with the handles `hdls`. -/
def exec (rxProp : Option RxProp) (hdls : IpType → List Hdl) (r : StaRun) (e : StaEvent) :
    Option StaRun :=
  (r.firewall.eventCallback rxProp hdls e).map fun (s, calls) => ⟨s, r.calls ++ calls⟩

theorem step_of_exec (hdls : IpType → List Hdl) {e : StaEvent}
    (hexec : r.exec rxProp hdls e = some r') : StaRun.Step rxProp r e r' := by
  rw [exec, Option.map_eq_some_iff] at hexec
  obtain ⟨⟨s, calls⟩, hcall, rfl⟩ := hexec
  exact ⟨hdls, calls, hcall, rfl⟩

/-- An instance made in zeroed memory. -/
def made : StaRun where
  firewall :=
    { active := fun _ => false, numFirewall := fun _ => 0, hdl := fun _ => 0,
      live := fun _ _ => none }
  calls := []

theorem made_new : made.firewall.New := ⟨fun _ => rfl, fun _ => rfl, fun _ _ => rfl⟩

/-- The firewall rules balance in every run in which the rule for fragments is installed
whenever the IPv6 rules are deleted. -/
theorem firewall_balance {s : StaFirewall} (hnew : s.New) {es : List StaEvent}
    (hrun : Run (Guarded (fun r e => e.Valid ∧ r.FragInstalled rxProp e) (StaRun.Step rxProp))
      ⟨s, []⟩ es r) : ∀ c ∈ r.calls, c.Ok rxProp := by
  have hinv : r.Inv rxProp := by
    refine hrun.invariant (I := fun r => r.Inv rxProp) (Inv.init hnew) ?_
    intro r e r' h hstep
    exact h.step hstep.1.1 hstep.1.2 hstep.2
  exact hinv.ok

/-- The firewall, enabled and without entries. -/
def enabled : FirewallConf := { FirewallConf.zero with firewallEnable := true }

theorem firewall_balance_route : ∃ r : StaRun,
    Run (StaRun.Step (some .pdn)) made [.routeAdd .v6 true enabled, .routeDel .v6] r ∧
      r.calls.length = 2 ∧ ∀ c ∈ r.calls, c.Ok (some .pdn) := by
  have hrun : Run (Guarded (fun r e => e.Valid ∧ r.FragInstalled (some .pdn) e)
      (StaRun.Step (some .pdn))) made [.routeAdd .v6 true enabled, .routeDel .v6] _ :=
    (Run.nil.snoc ⟨⟨Nat.zero_le _, fun hdel => by cases hdel⟩,
      step_of_exec (fun _ => [1, 2, 3]) rfl⟩).snoc
        ⟨⟨trivial, by
          intro _ _ _ conf hconf
          cases hconf
          rfl⟩, step_of_exec (fun _ => []) rfl⟩
  exact ⟨_, hrun.unguarded, rfl, firewall_balance made_new hrun⟩

/-- The firewall is disabled before the IPv6 default route goes: the handle of the rule for
fragments is passed a second time. -/
theorem not_firewall_balance : ¬ ∀ (rxProp : Option RxProp) (s : StaFirewall)
    (es : List StaEvent) (r : StaRun), s.New →
      Run (Guarded (fun _ e => e.Valid) (StaRun.Step rxProp)) ⟨s, []⟩ es r →
        ∀ c ∈ r.calls, c.Ok rxProp := by
  intro hall
  have hrun : Run (Guarded (fun _ e => StaEvent.Valid e) (StaRun.Step (some .pdn))) made
      [.routeAdd .v6 true enabled, .firewallChange fun _ => .zero, .routeDel .v6] _ :=
    ((Run.nil.snoc ⟨Nat.zero_le _, step_of_exec (fun _ => [1, 2, 3]) rfl⟩).snoc
      ⟨fun _ => Nat.zero_le _, step_of_exec (fun _ => [4, 5]) rfl⟩).snoc
        ⟨trivial, step_of_exec (fun _ => []) rfl⟩
  have hlast := hall _ _ _ _ made_new hrun _ (List.mem_append_right _ List.mem_cons_self)
  cases hlast.1

end StaRun

end LibraDevice.Firewall
