import LibraDevice.Firewall.Budget
import LibraDevice.Xml.Cfg
import LibraDevice.Xml.FirewallCfg

/-!
When the parsers stay within their arrays and their buffer.
-/

namespace LibraDevice.Xml

open ElementTree CountedTables Firewall Backhaul

section

variable (libc : Libc)

theorem ipacmCfgXmlParseTree_eq_walk (t : XmlNode) (config : IpacmConf) :
    ipacmCfgXmlParseTree libc t config =
      walk cfgVisit (fun v => v.tag.descends)
        (fun config v => cfgElement libc v.tag v.content config) t config := by
  induction t generalizing config with
  | null => rfl
  | node label children next ihChildren ihNext =>
      rw [ipacmCfgXmlParseTree, walk, cfgVisit]
      rcases label.type with _ | _ | _
      · rcases CfgTag.ofName label.name with _ | tag
        · exact ihNext config
        · simp only [ihChildren, ihNext, Option.map_some]
      · exact ihNext config
      · exact ihNext config

namespace IpacmConf

/-- The last entry of the table lies in its array. -/
def InTable (config : IpacmConf) (t : CfgTable) : Prop :=
  1 ≤ (config.count t).toNat ∧ (config.count t).toNat ≤ t.size

variable {config config' : IpacmConf}

theorem modifyIface_isSome (f : IfiDevName → IfiDevName) :
    (config.modifyIface f).isSome = true ↔ config.InTable .iface := by
  rw [modifyIface, Option.isSome_map, modifyLast_isSome]
  rfl

theorem modifySubnet_isSome (f : PrivateSubnet → PrivateSubnet) :
    (config.modifySubnet f).isSome = true ↔ config.InTable .subnet := by
  rw [modifySubnet, Option.isSome_map, modifyLast_isSome]
  rfl

theorem modifyAlg_isSome (f : Alg → Alg) :
    (config.modifyAlg f).isSome = true ↔ config.InTable .alg := by
  rw [modifyAlg, Option.isSome_map, modifyLast_isSome]
  rfl

theorem count_of_modifyIface {f : IfiDevName → IfiDevName}
    (h : config.modifyIface f = some config') : config'.count = config.count := by
  obtain ⟨entries, -, rfl⟩ := Option.map_eq_some_iff.mp h
  funext t
  cases t <;> rfl

theorem count_of_modifySubnet {f : PrivateSubnet → PrivateSubnet}
    (h : config.modifySubnet f = some config') : config'.count = config.count := by
  obtain ⟨entries, -, rfl⟩ := Option.map_eq_some_iff.mp h
  funext t
  cases t <;> rfl

theorem count_of_modifyAlg {f : Alg → Alg} (h : config.modifyAlg f = some config') :
    config'.count = config.count := by
  obtain ⟨entries, -, rfl⟩ := Option.map_eq_some_iff.mp h
  funext t
  cases t <;> rfl

end IpacmConf

variable {libc}

theorem cfgField_isSome (tag : CfgTag) (hleaf : tag.descends = false) (config : IpacmConf)
    (text : CString) (hshort : text.length ≤ maxXmlStrLen) :
    (cfgField libc tag config text).isSome = true ↔
      text.length ≤ (CfgVisit.mk tag (some text)).room ∧
        ∀ t, (CfgVisit.mk tag (some text)).writes = some t → config.InTable t := by
  rcases eq_or_ne tag .name with rfl | hname
  · rw [cfgField]
    split
    next hlen =>
      rw [and_iff_right (show text.length ≤ (CfgVisit.mk .name (some text)).room from hlen)]
      refine (IpacmConf.modifyIface_isSome _).trans ?_
      simp [CfgVisit.writes]
    next hlen => exact iff_of_false Bool.false_ne_true fun h => hlen h.1
  rw [and_iff_right (show text.length ≤ (CfgVisit.mk tag (some text)).room by
    rw [CfgVisit.room, if_neg hname]
    exact hshort)]
  cases tag with
  | system | odu | ipacmCfg | ipacmIfaceCfg | iface | ipacmPrivateSubnetCfg | subnet | ipacmAlg
  | alg | ipacmNat => cases hleaf
  | oduMode =>
      refine iff_of_true ?_ fun _ h => by cases h
      rw [cfgField]
      repeat' split
      all_goals rfl
  | name => exact absurd rfl hname
  | category =>
      rw [cfgField, CfgVisit.writes]
      dsimp only
      rcases categoryOf text text.length with _ | ifCat
      · exact iff_of_true rfl fun _ h => by cases h
      · refine (IpacmConf.modifyIface_isSome _).trans ?_
        simp
  | subnetAddress =>
      refine (IpacmConf.modifySubnet_isSome _).trans ?_
      simp [CfgVisit.writes]
  | subnetMask =>
      refine (IpacmConf.modifySubnet_isSome _).trans ?_
      simp [CfgVisit.writes]
  | protocol =>
      rw [cfgField, CfgVisit.writes]
      dsimp only
      rcases protocolOf (clearLast text) text.length with _ | protocol
      · exact iff_of_true rfl fun _ h => by cases h
      · refine (IpacmConf.modifyAlg_isSome _).trans ?_
        simp
  | port =>
      refine (IpacmConf.modifyAlg_isSome _).trans ?_
      simp [CfgVisit.writes]
  | natMaxEntries => exact iff_of_true rfl fun _ h => by cases h

theorem count_of_cfgField {tag : CfgTag} {config config' : IpacmConf} {text : CString}
    (h : cfgField libc tag config text = some config') : config'.count = config.count := by
  cases tag with
  | system | odu | ipacmCfg | ipacmIfaceCfg | iface | ipacmPrivateSubnetCfg | subnet | ipacmAlg
  | alg | ipacmNat =>
      cases h
      rfl
  | oduMode =>
      rw [cfgField] at h
      split at h
      · cases h
        rfl
      · split at h
        all_goals
          cases h
          rfl
  | name =>
      rw [cfgField, Option.ite_none_right_eq_some] at h
      exact IpacmConf.count_of_modifyIface h.2
  | category =>
      rw [cfgField] at h
      split at h
      · exact IpacmConf.count_of_modifyIface h
      · cases h
        rfl
  | subnetAddress => exact IpacmConf.count_of_modifySubnet h
  | subnetMask => exact IpacmConf.count_of_modifySubnet h
  | protocol =>
      rw [cfgField] at h
      split at h
      · exact IpacmConf.count_of_modifyAlg h
      · cases h
        rfl
  | port => exact IpacmConf.count_of_modifyAlg h
  | natMaxEntries =>
      cases h
      rfl

theorem inTable_iff (config : IpacmConf) (t : CfgTable) :
    config.InTable t ↔
      1 ≤ (config.count t).toNat % 256 ∧ (config.count t).toNat % 256 ≤ t.size := by
  have hlt : (config.count t).toNat < 256 := (config.count t).toNat_lt
  rw [IpacmConf.InTable, Nat.mod_eq_of_lt hlt]

theorem CfgVisit.fits_of_idle {v : CfgVisit} (hcopied : v.copied = 0) (hwrites : v.writes = none)
    (opened : CfgTable → Nat) : v.access.Fits CfgTable.size opened := by
  refine ⟨?_, fun t ht => ?_⟩
  · change v.copied ≤ v.room
    rw [hcopied]
    exact Nat.zero_le _
  · exact absurd (hwrites.symm.trans ht) (fun h => by cases h)

theorem cfgElement_of_leaf {tag : CfgTag} (hleaf : tag.descends = false)
    (content : Option CString) (config : IpacmConf) :
    cfgElement libc tag content config =
      content.elim (some config) fun text =>
        (copyContent text).bind (cfgField libc tag config) := by
  cases tag with
  | system | odu | ipacmCfg | ipacmIfaceCfg | iface | ipacmPrivateSubnetCfg | subnet | ipacmAlg
  | alg | ipacmNat => cases hleaf
  | oduMode | name | category | subnetAddress | subnetMask | protocol | port | natMaxEntries =>
      cases content <;> rfl

theorem cfgElement_isSome (config : IpacmConf) (v : CfgVisit) :
    (cfgElement libc v.tag v.content config).isSome = true ↔
      v.access.Fits CfgTable.size fun t => (config.count t).toNat := by
  rcases v with ⟨tag, content⟩
  rcases hdescends : tag.descends with _ | _
  · rw [cfgElement_of_leaf hdescends]
    rcases content with _ | text
    · refine iff_of_true rfl (CfgVisit.fits_of_idle ?_ ?_ _)
      · cases tag <;> rfl
      · cases tag <;> rfl
    · have hcopied : (CfgVisit.mk tag (some text)).copied = text.length := by
        rw [CfgVisit.copied, hdescends]
        rfl
      have hroom : (CfgVisit.mk tag (some text)).room ≤ maxXmlStrLen := by
        rw [CfgVisit.room]
        split
        · exact (by decide : ifaceNameLen ≤ maxXmlStrLen)
        · exact le_rfl
      simp only [Access.Fits, CfgVisit.access, hcopied, ← inTable_iff]
      refine (copyContent_bind_isSome text _).trans ?_
      constructor
      · rintro ⟨hlen, hfield⟩
        exact (cfgField_isSome tag hdescends config text hlen).mp hfield
      · rintro ⟨hlen, htables⟩
        have hbuf := hlen.trans hroom
        exact ⟨hbuf, (cfgField_isSome tag hdescends config text hbuf).mpr ⟨hlen, htables⟩⟩
  · refine iff_of_true ?_ (CfgVisit.fits_of_idle ?_ ?_ _)
    · cases tag <;> first | rfl | cases hdescends
    · rw [CfgVisit.copied, if_pos hdescends]
    · cases tag <;> first | rfl | cases hdescends

theorem count_of_cfgElement {config config' : IpacmConf} {v : CfgVisit}
    (h : cfgElement libc v.tag v.content config = some config') :
    config'.count = v.access.count config.count := by
  rcases v with ⟨tag, content⟩
  have hsame : ∀ tag, (CfgVisit.mk tag content).opens = none →
      (CfgVisit.mk tag content).access.count config.count = config.count := by
    intro tag hopens
    funext t
    rw [Access.count, CfgVisit.access, hopens, if_neg (fun h => by cases h)]
  have hfield : ∀ tag, (CfgVisit.mk tag content).opens = none →
      tag.descends = false → cfgElement libc tag content config = some config' →
      config'.count = (CfgVisit.mk tag content).access.count config.count := by
    intro tag hopens hleaf hsome
    rw [cfgElement_of_leaf hleaf] at hsome
    rw [hsame tag hopens]
    rcases content with _ | text
    · cases hsome
      rfl
    · obtain ⟨buf, -, hbuf⟩ := Option.bind_eq_some_iff.mp hsome
      exact count_of_cfgField hbuf
  cases tag with
  | iface | subnet | alg =>
      cases h
      funext t
      cases t <;> rfl
  | system | odu | ipacmCfg | ipacmIfaceCfg | ipacmPrivateSubnetCfg | ipacmAlg | ipacmNat =>
      cases h
      exact (hsame _ rfl).symm
  | oduMode | name | category | subnetAddress | subnetMask | protocol | port | natMaxEntries =>
      exact hfield _ rfl rfl h

theorem ipacmReadCfgXml_isSome_iff (root : XmlNode) :
    (ipacmReadCfgXml libc root).isSome = true ↔ CfgFits root := by
  rw [ipacmReadCfgXml, ipacmCfgXmlParseTree_eq_walk, walk_eq_foldlM]
  apply foldlM_isSome_iff_allFit (c := IpacmConf.count)
  · exact fun config v => cfgElement_isSome config v
  · exact fun config v config' h => count_of_cfgElement h
  · intro t
    cases t <;> rfl

end

section

variable (libc : Libc)

/-- The elements visited, each with what its call's `ip6_addr` holds when it comes to it, and
the calls made. -/
def firewallReads (stack : Nat → Backhaul.Ipv6Addr) :
    XmlNode → Backhaul.Ipv6Addr → Nat → List (FirewallVisit × Backhaul.Ipv6Addr) × Nat
  | .null, _, calls => ([], calls)
  | .node label children next, ip6Addr, calls =>
      match firewallVisit label children with
      | none => firewallReads stack next ip6Addr calls
      | some v =>
          let inside := if v.tag.descends then
            firewallReads stack children (stack calls) (calls + 1) else ([], calls)
          let after := firewallReads stack next (libc.ip6After v.tag v.content ip6Addr) inside.2
          ((v, ip6Addr) :: (inside.1 ++ after.1), after.2)

theorem map_fst_firewallReads (stack : Nat → Backhaul.Ipv6Addr) (t : XmlNode)
    (ip6Addr : Backhaul.Ipv6Addr) (calls : Nat) :
    (firewallReads libc stack t ip6Addr calls).1.map Prod.fst = firewallVisits t := by
  induction t generalizing ip6Addr calls with
  | null => rfl
  | node label children next ihChildren ihNext =>
      rw [firewallReads, firewallVisits, elements]
      cases firewallVisit label children with
      | none => exact ihNext ip6Addr calls
      | some v =>
          simp only [List.map_cons, List.map_append, ihNext]
          cases v.tag.descends with
          | false => rfl
          | true =>
              simp only [if_true, ihChildren]
              rfl

/-- The parse, as a fold over the elements it visits. -/
def parseVisits (rs : List (FirewallVisit × Backhaul.Ipv6Addr)) (config : FirewallConf) :
    Option FirewallConf :=
  rs.foldlM (fun config r => firewallElement libc r.2 r.1.tag r.1.content config) config

theorem parseVisits_append (rs qs : List (FirewallVisit × Backhaul.Ipv6Addr))
    (config : FirewallConf) : parseVisits libc (rs ++ qs) config =
      (parseVisits libc rs config).bind (parseVisits libc qs) :=
  List.foldlM_append

theorem parseVisits_cons (r : FirewallVisit × Backhaul.Ipv6Addr)
    (rs : List (FirewallVisit × Backhaul.Ipv6Addr)) (config : FirewallConf) :
    parseVisits libc (r :: rs) config =
      (firewallElement libc r.2 r.1.tag r.1.content config).bind (parseVisits libc rs) :=
  List.foldlM_cons

theorem firewallXmlParseTree_eq_visits (stack : Nat → Backhaul.Ipv6Addr) (t : XmlNode)
    (ip6Addr : Backhaul.Ipv6Addr) (calls : Nat) (config : FirewallConf) :
    firewallXmlParseTree libc stack t ip6Addr calls config =
      (parseVisits libc (firewallReads libc stack t ip6Addr calls).1 config).map
        fun config => ((firewallReads libc stack t ip6Addr calls).2, config) := by
  induction t generalizing ip6Addr calls config with
  | null => rfl
  | node label children next ihChildren ihNext =>
      rw [firewallXmlParseTree, firewallReads, firewallVisit]
      rcases label.type with _ | _ | _
      · rcases FirewallTag.ofName label.name with _ | tag
        · exact ihNext ip6Addr calls config
        · simp only [Option.map_some, parseVisits_cons, Option.map_bind]
          congr 1
          funext config₁
          cases tag.descends with
          | false => exact ihNext _ calls config₁
          | true =>
              simp only [if_true, ihChildren, Option.bind_map, Function.comp_apply]
              rw [parseVisits_append, Option.map_bind]
              congr 1
              funext config₂
              exact ihNext _ _ config₂
      · exact ihNext ip6Addr calls config
      · exact ihNext ip6Addr calls config

/-- The last entry lies in the array. -/
def InEntries (config : FirewallConf) : Prop :=
  1 ≤ config.numExtdFirewallEntries.toNat ∧
    config.numExtdFirewallEntries.toNat ≤ maxFirewallEntries

variable {config config' : FirewallConf}

theorem modifyEntry_isSome (f : ExtdFirewallEntry → ExtdFirewallEntry) :
    (modifyEntry config f).isSome = true ↔ InEntries config := by
  rw [modifyEntry, Option.isSome_map, modifyLast_isSome]
  rfl

theorem num_of_modifyEntry {f : ExtdFirewallEntry → ExtdFirewallEntry}
    (h : modifyEntry config f = some config') :
    config'.numExtdFirewallEntries = config.numExtdFirewallEntries := by
  obtain ⟨entries, -, rfl⟩ := Option.map_eq_some_iff.mp h
  rfl

variable {libc} {ip6Addr : Backhaul.Ipv6Addr}

theorem firewallText_isSome {tag : FirewallTag} (hreads : tag.reads = true) (text : CString) :
    (firewallText libc ip6Addr tag config text).isSome = true ↔
      ((FirewallVisit.mk tag (some text)).writes = true → InEntries config) := by
  have hentry : (modifyEntry config (entryField libc ip6Addr tag text)).isSome = true ↔
      (true = true → InEntries config) := by
    rw [modifyEntry_isSome]
    exact ⟨fun h _ => h, fun h => h rfl⟩
  cases tag with
  | firewallEnabled | firewallPktsAllowed => exact iff_of_true rfl (fun h => by cases h)
  | system | mobileAPFirewallCfg | firewall | address | ipv4TypeOfService | ipv6TrafficClass
  | ports => cases hreads
  | ipFamily | ipAddress | subnetMask | tosValue | tosMask | ipv4NextHeaderProtocol | pfx
  | trfClsValue | trfClsMask | ipv6NextHeaderProtocol | port | range | icmpType | icmpCode
  | espSpi => exact hentry

theorem num_of_firewallText {tag : FirewallTag} {text : CString}
    (h : firewallText libc ip6Addr tag config text = some config') :
    config'.numExtdFirewallEntries = config.numExtdFirewallEntries := by
  rw [firewallText.eq_def] at h
  split at h
  · cases h
    rfl
  · cases h
    rfl
  · exact num_of_modifyEntry h

theorem fits_iff (v : FirewallVisit) :
    (v.access.Fits (fun _ => maxFirewallEntries)
      fun _ => config.numExtdFirewallEntries.toNat) ↔
      v.copied ≤ maxXmlStrLen ∧ (v.writes = true → InEntries config) := by
  have hlt : config.numExtdFirewallEntries.toNat < 256 :=
    config.numExtdFirewallEntries.toNat_lt
  simp only [Access.Fits, FirewallVisit.access, Nat.mod_eq_of_lt hlt, InEntries]
  rcases v.writes with _ | _
  · simp
  · simp

theorem firewallElement_isSome (config : FirewallConf) (v : FirewallVisit) :
    (firewallElement libc ip6Addr v.tag v.content config).isSome = true ↔
      v.access.Fits (fun _ => maxFirewallEntries)
        fun _ => config.numExtdFirewallEntries.toNat := by
  rcases v with ⟨tag, content⟩
  rw [fits_iff, firewallElement.eq_def, FirewallVisit.copied]
  rcases hreads : tag.reads with _ | _
  · rw [if_neg Bool.false_ne_true, if_neg Bool.false_ne_true, and_iff_right (Nat.zero_le _)]
    cases tag with
    | address iptype side =>
        cases side <;> exact (modifyEntry_isSome _).trans ⟨fun h _ => h, fun h => h rfl⟩
    | ipv4TypeOfService | ipv6TrafficClass =>
        exact (modifyEntry_isSome _).trans ⟨fun h _ => h, fun h => h rfl⟩
    | system | mobileAPFirewallCfg | firewall | ports => exact iff_of_true rfl (fun h => by cases h)
    | firewallEnabled | firewallPktsAllowed | ipFamily | ipAddress | subnetMask | tosValue
    | tosMask | ipv4NextHeaderProtocol | pfx | trfClsValue | trfClsMask
    | ipv6NextHeaderProtocol | port | range | icmpType | icmpCode | espSpi => cases hreads
  · rw [if_pos rfl, if_pos rfl]
    rcases content with _ | text
    · refine iff_of_true rfl ⟨Nat.zero_le _, ?_⟩
      cases tag with
      | system | mobileAPFirewallCfg | firewall | address | ipv4TypeOfService
      | ipv6TrafficClass | ports => cases hreads
      | firewallEnabled | firewallPktsAllowed | ipFamily | ipAddress | subnetMask | tosValue
      | tosMask | ipv4NextHeaderProtocol | pfx | trfClsValue | trfClsMask
      | ipv6NextHeaderProtocol | port | range | icmpType | icmpCode | espSpi =>
          exact (fun h => by cases h)
    · exact (copyContent_bind_isSome text _).trans
        (and_congr_right fun _ => firewallText_isSome hreads text)

theorem num_of_firewallElement {v : FirewallVisit}
    (h : firewallElement libc ip6Addr v.tag v.content config = some config') :
    (fun _ => config'.numExtdFirewallEntries) =
      v.access.count fun _ => config.numExtdFirewallEntries := by
  rcases v with ⟨tag, content⟩
  have hsame : tag ≠ .firewall →
      (FirewallVisit.mk tag content).access.count (fun _ => config.numExtdFirewallEntries) =
        fun _ => config.numExtdFirewallEntries := by
    intro hne
    funext t
    rw [Access.count, FirewallVisit.access, if_neg hne, if_neg (fun h => by cases h)]
  rw [firewallElement.eq_def] at h
  split at h
  next hreads =>
    have hne : tag ≠ .firewall := by
      rintro rfl
      cases hreads
    rw [hsame hne]
    rcases content with _ | text
    · cases h
      rfl
    · obtain ⟨buf, -, hbuf⟩ := Option.bind_eq_some_iff.mp h
      funext t
      exact num_of_firewallText hbuf
  next =>
    cases tag with
    | firewall =>
        cases h
        funext t
        rfl
    | address iptype side =>
        rw [hsame (fun h => by cases h)]
        funext t
        cases side <;> exact num_of_modifyEntry h
    | ipv4TypeOfService | ipv6TrafficClass =>
        rw [hsame (fun h => by cases h)]
        funext t
        exact num_of_modifyEntry h
    | system | mobileAPFirewallCfg | firewallEnabled | firewallPktsAllowed | ipFamily | ipAddress
    | subnetMask | tosValue | tosMask | ipv4NextHeaderProtocol | pfx | trfClsValue | trfClsMask
    | ipv6NextHeaderProtocol | ports | port | range | icmpType | icmpCode | espSpi =>
        cases h
        rw [hsame (fun h => by cases h)]

theorem readFirewallXml_isSome_iff (stack : Nat → Backhaul.Ipv6Addr) (root : XmlNode) :
    (readFirewallXml libc stack root).isSome = true ↔ FirewallFits root := by
  rw [readFirewallXml, Option.isSome_map, firewallXmlParseTree_eq_visits, Option.isSome_map,
    FirewallFits, ← map_fst_firewallReads libc stack root (stack 0) 1, List.map_map]
  refine foldlM_isSome_iff_allFit (c := fun config _ => config.numExtdFirewallEntries)
    ?_ ?_ _ fun _ => rfl
  · exact fun config r => firewallElement_isSome config r.1
  · exact fun config r config' h => num_of_firewallElement h

end

/-- Both documents are read within the arrays, and the rules of a configuration are written
within theirs. -/
structure ArraysInBounds (libc : Libc) (stack : Nat → Ipv6Addr) (cfgRoot firewallRoot : XmlNode)
    (rx : RxProp)
    (config : IpacmConf) (conf : FirewallConf) : Prop where
  cfg : (ipacmReadCfgXml libc cfgRoot).isSome = true
  firewall : (readFirewallXml libc stack firewallRoot).isSome = true
  wan : ∀ iptype, ∀ w ∈ configWanFirewallRule rx conf config.algTable iptype, w.pos < maxFltRule
  dft : ∀ iptype, ∀ i ∈ configDftFirewallRules (some rx) conf iptype,
    ∀ f k, i.hdl = .firewall f k → k < maxFirewallEntries

theorem arraysInBounds_iff (libc : Libc) (stack : Nat → Ipv6Addr)
    (cfgRoot firewallRoot : XmlNode) (rx : RxProp) (config : IpacmConf) (conf : FirewallConf) :
    ArraysInBounds libc stack cfgRoot firewallRoot rx config conf ↔
      CfgFits cfgRoot ∧ FirewallFits firewallRoot ∧
        (∀ iptype, WanBudget conf config.algTable iptype) ∧
        ∀ iptype, conf.numRules iptype ≤ maxFirewallEntries := by
  constructor
  · intro h
    refine ⟨(ipacmReadCfgXml_isSome_iff cfgRoot).mp h.cfg,
      (readFirewallXml_isSome_iff stack firewallRoot).mp h.firewall, fun iptype => ?_,
        fun iptype => ?_⟩
    · exact (configWanFirewallRule_lt_iff rx conf config.algTable iptype).mp (h.wan iptype)
    · exact (configDftFirewallRules_lt_iff rx conf iptype _).mp (h.dft iptype)
  · rintro ⟨hcfg, hfirewall, hwan, hdft⟩
    refine ⟨(ipacmReadCfgXml_isSome_iff cfgRoot).mpr hcfg,
      (readFirewallXml_isSome_iff stack firewallRoot).mpr hfirewall, fun iptype => ?_,
        fun iptype => ?_⟩
    · exact (configWanFirewallRule_lt_iff rx conf config.algTable iptype).mpr (hwan iptype)
    · exact (configDftFirewallRules_lt_iff rx conf iptype _).mpr (hdft iptype)

/-- An element with these children and no sibling after it. -/
def element (name : CString) (children : XmlNode) : XmlNode :=
  .node ⟨.element, some name, none⟩ children .null

def textNode (content : CString) : XmlNode :=
  .node ⟨.text, some "text".toList, some content⟩ .null .null

/-- An `IPFamily` that stands in no `Firewall`. -/
def strayFamily : XmlNode :=
  element "system".toList (element "MobileAPFirewallCfg".toList
    (element "IPFamily".toList (textNode "4".toList)))

def noLibc : Libc := ⟨fun _ => 0, fun _ => none⟩

/-- The family is written to the entry before the first one. -/
theorem not_arraysInBounds_strayFamily :
    ¬ ArraysInBounds noLibc (fun _ => .zero) .null strayFamily .pdn .zero .zero := by
  intro h
  have hnone : (readFirewallXml noLibc (fun _ => .zero) strayFamily).isSome = false := by decide
  exact Bool.false_ne_true (hnone.symm.trans h.firewall)

end LibraDevice.Xml
