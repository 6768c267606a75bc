import LibraDevice.Xml.Bounds

/-!
Which elements of the firewall file make an entry: the parser implies the entry
by a counter, and where the fields stand inside their `Firewall` elements, the
entries are those elements, in document order, each read on its own.
-/

namespace LibraDevice.Xml

open ElementTree CountedTables Firewall
open Backhaul (Ipv6Addr)

/-- What one visited element does to the entry that is open. -/
def visitEntry (libc : Libc) (ip6Addr : Ipv6Addr) (e : ExtdFirewallEntry) (v : FirewallVisit) :
    ExtdFirewallEntry :=
  match v.tag.groupFlt with
  | some f => { e with attrib := { e.attrib with attribMask := insert f e.attrib.attribMask } }
  | none =>
      if v.tag.descends then e
      else
        match v.content with
        | none => e
        | some text => entryField libc ip6Addr v.tag text e

/-- The entry that the elements `fs` make of a cleared one; `ip6Addr` stands for the addresses
that are rejected. -/
def entryOf (libc : Libc) (ip6Addr : Ipv6Addr) (fs : List FirewallVisit) : ExtdFirewallEntry :=
  fs.foldl (visitEntry libc ip6Addr) .zero

/-- The text that an element hands to `inet_pton`. -/
def FirewallVisit.ip6Text (v : FirewallVisit) : Option CString :=
  match v.tag with
  | .ipAddress .v6 _ => v.content
  | _ => none

/-- Every IPv6 address is one that `inet_pton` accepts. -/
def AddressesRead (libc : Libc) (fs : List FirewallVisit) : Prop :=
  ∀ v ∈ fs, ∀ text, v.ip6Text = some text → (libc.inetPton text).isSome = true

/-- The children of the `Firewall` elements, in document order. -/
def firewalls : XmlNode → List XmlNode
  | .null => []
  | .node label children next =>
      match firewallVisit label children with
      | none => firewalls next
      | some v =>
          if v.tag = .firewall then children :: firewalls next
          else if v.tag.descends then firewalls children ++ firewalls next
          else firewalls next

/-- No field stands outside of the `Firewall` elements, and none of these stands
inside another. -/
def Nested : XmlNode → Prop
  | .null => True
  | .node label children next =>
      (match firewallVisit label children with
        | none => True
        | some v =>
            if v.tag = .firewall then ∀ w ∈ firewallVisits children, w.tag ≠ .firewall
            else v.writes = false ∧ (v.tag.descends = true → Nested children)) ∧
        Nested next

/-- None of the siblings is an IPv6 address. -/
def NoAddress : XmlNode → Prop
  | .null => True
  | .node label children next =>
      (∀ v, firewallVisit label children = some v → v.ip6Text = none) ∧ NoAddress next

/-- No two siblings are IPv6 addresses: each stands in an element of its own. -/
def Separate : XmlNode → Prop
  | .null => True
  | .node label children next =>
      (match firewallVisit label children with
        | none => True
        | some v =>
            (v.ip6Text = none ∨ NoAddress next) ∧ (v.tag.descends = true → Separate children)) ∧
        Separate next

theorem firewallVisits_node (label : XmlLabel) (children next : XmlNode) :
    firewallVisits (.node label children next) =
      match firewallVisit label children with
      | none => firewallVisits next
      | some v =>
          v :: ((if v.tag.descends then firewallVisits children else []) ++
            firewallVisits next) := by
  rw [firewallVisits, elements]
  cases firewallVisit label children with
  | none => rfl
  | some v => rfl

section

variable {libc : Libc} {ip6Addr : Ipv6Addr} {config : FirewallConf} {v : FirewallVisit}

/-- The configuration with `f` applied to its last entry. -/
def withLast (config : FirewallConf) (f : ExtdFirewallEntry → ExtdFirewallEntry) : FirewallConf :=
  { config with
    extdFirewallEntries :=
      Function.update config.extdFirewallEntries (config.numExtdFirewallEntries.toNat - 1)
        (f (config.extdFirewallEntries (config.numExtdFirewallEntries.toNat - 1))) }

theorem modifyEntry_eq (hin : InEntries config) (f : ExtdFirewallEntry → ExtdFirewallEntry) :
    modifyEntry config f = some (withLast config f) := by
  obtain ⟨hone, hfifty⟩ := hin
  rw [modifyEntry, modifyLast, if_pos ⟨hone, hfifty⟩]
  rfl

theorem withLast_self {f : ExtdFirewallEntry → ExtdFirewallEntry} (hf : ∀ e, f e = e) :
    (withLast config f).extdFirewallEntries = config.extdFirewallEntries := by
  rw [withLast, hf, Function.update_eq_self]

theorem firewallElement_text {tag : FirewallTag} {text : CString} (hreads : tag.reads = true)
    (hlen : text.length ≤ maxXmlStrLen) :
    firewallElement libc ip6Addr tag (some text) config =
      firewallText libc ip6Addr tag config text := by
  rw [firewallElement.eq_def, if_pos hreads]
  simp only [copyContent, if_pos hlen, Option.bind_some]

variable (libc ip6Addr) in
theorem firewallElement_spec (hne : v.tag ≠ .firewall) (hcopied : v.copied ≤ maxXmlStrLen)
    (hin : v.writes = true → InEntries config) :
    ∃ config', firewallElement libc ip6Addr v.tag v.content config = some config' ∧
      config'.numExtdFirewallEntries = config.numExtdFirewallEntries ∧
      config'.extdFirewallEntries =
        (withLast config fun e => visitEntry libc ip6Addr e v).extdFirewallEntries := by
  obtain ⟨tag, content⟩ := v
  have hself : (∀ e, visitEntry libc ip6Addr e ⟨tag, content⟩ = e) → config.extdFirewallEntries =
      (withLast config fun e => visitEntry libc ip6Addr e ⟨tag, content⟩).extdFirewallEntries :=
    fun h => (withLast_self h).symm
  cases tag with
  | firewall => exact absurd rfl hne
  | system | mobileAPFirewallCfg | ports =>
      exact ⟨config, rfl, rfl, hself fun _ => rfl⟩
  | firewallEnabled | firewallPktsAllowed =>
      cases content with
      | none => exact ⟨config, rfl, rfl, hself fun _ => rfl⟩
      | some text =>
          exact ⟨_, firewallElement_text rfl hcopied, rfl, hself fun _ => rfl⟩
  | address iptype side =>
      cases side with
      | source => exact ⟨_, modifyEntry_eq (hin rfl) _, rfl, rfl⟩
      | destination => exact ⟨_, modifyEntry_eq (hin rfl) _, rfl, rfl⟩
  | ipv4TypeOfService | ipv6TrafficClass => exact ⟨_, modifyEntry_eq (hin rfl) _, rfl, rfl⟩
  | ipFamily | ipAddress | subnetMask | tosValue | tosMask | ipv4NextHeaderProtocol | pfx
  | trfClsValue | trfClsMask | ipv6NextHeaderProtocol | port | range | icmpType | icmpCode
  | espSpi =>
      cases content with
      | none => exact ⟨config, rfl, rfl, hself fun _ => rfl⟩
      | some text =>
          exact ⟨_, (firewallElement_text rfl hcopied).trans (modifyEntry_eq (hin rfl) _),
            rfl, rfl⟩

theorem visitEntry_of_not_writes (hwrites : v.writes = false) (e : ExtdFirewallEntry) :
    visitEntry libc ip6Addr e v = e := by
  obtain ⟨tag, content⟩ := v
  simp only [FirewallVisit.writes, Bool.or_eq_false_iff] at hwrites
  obtain ⟨hgroup, hfield⟩ := hwrites
  have hnone : tag.groupFlt = none := by
    rw [← Option.isNone_iff_eq_none, ← Option.not_isSome, hgroup]
    rfl
  simp only [visitEntry, hnone]
  cases hdescends : tag.descends with
  | true => rfl
  | false =>
      rw [hdescends, Bool.not_false, Bool.true_and] at hfield
      cases content with
      | none => rfl
      | some text => cases hfield

end

section

variable {libc : Libc}

theorem attribField_congr {ip6Addr ip6Addr' : Ipv6Addr} {tag : FirewallTag} {text : CString}
    (h : ∀ side, tag = .ipAddress .v6 side →
      (libc.inetPton text).getD ip6Addr = (libc.inetPton text).getD ip6Addr') (a : RuleAttrib) :
    attribField libc ip6Addr tag text a = attribField libc ip6Addr' tag text a := by
  cases tag with
  | ipAddress iptype side =>
      cases iptype with
      | v4 => cases side <;> rfl
      | v6 => cases side <;> simp only [attribField, h _ rfl]
  | subnetMask side | pfx side | port protocol side | range protocol side =>
      cases side <;> simp only [attribField]
  | _ => simp only [attribField]

theorem visitEntry_congr {ip6Addr ip6Addr' : Ipv6Addr} {v : FirewallVisit}
    (h : ∀ text, v.ip6Text = some text →
      (libc.inetPton text).getD ip6Addr = (libc.inetPton text).getD ip6Addr')
    (e : ExtdFirewallEntry) : visitEntry libc ip6Addr e v = visitEntry libc ip6Addr' e v := by
  obtain ⟨tag, content⟩ := v
  cases content with
  | none => simp only [visitEntry]
  | some text =>
      have hfield : entryField libc ip6Addr tag text e = entryField libc ip6Addr' tag text e := by
        rcases eq_or_ne tag .ipFamily with rfl | hne
        · rfl
        · rw [entryField.eq_2 _ _ _ _ _ hne, entryField.eq_2 _ _ _ _ _ hne,
            attribField_congr fun side htag => h text (by rw [htag]; rfl)]
      simp only [visitEntry, hfield]

theorem ip6After_of_ip6Text {v : FirewallVisit} (h : v.ip6Text = none) (ip6Addr : Ipv6Addr) :
    libc.ip6After v.tag v.content ip6Addr = ip6Addr := by
  obtain ⟨tag, content⟩ := v
  cases tag with
  | ipAddress iptype side =>
      cases iptype with
      | v4 => rfl
      | v6 =>
          change content = none at h
          subst h
          rfl
  | _ => rfl

theorem firewallReads_const {stack : Nat → Ipv6Addr} {a : Ipv6Addr} (hstack : ∀ n, stack n = a)
    {t : XmlNode} (hsep : Separate t) {ip6Addr : Ipv6Addr} (hip : ip6Addr = a ∨ NoAddress t)
    (calls : Nat) : ∀ r ∈ (firewallReads libc stack t ip6Addr calls).1,
      r.1.ip6Text ≠ none → r.2 = a := by
  induction t generalizing ip6Addr calls with
  | null =>
      intro r hr
      cases hr
  | node label children next ihChildren ihNext =>
      obtain ⟨hhere, hnext⟩ := hsep
      have hrest : ip6Addr = a ∨ NoAddress next := hip.imp_right And.right
      intro r hr htext
      rw [firewallReads] at hr
      cases hvisit : firewallVisit label children with
      | none =>
          simp only [hvisit] at hr
          exact ihNext hnext hrest calls r hr htext
      | some v =>
          simp only [hvisit] at hhere hr
          obtain ⟨hone, hinside⟩ := hhere
          rcases List.mem_cons.mp hr with rfl | hr
          · exact hip.resolve_right fun hno => htext (hno.1 v hvisit)
          · rcases List.mem_append.mp hr with hr | hr
            · cases hdescends : v.tag.descends with
              | false =>
                  rw [hdescends] at hr
                  cases hr
              | true =>
                  rw [hdescends] at hr
                  exact ihChildren (hinside hdescends) (Or.inl (hstack calls)) _ r hr htext
            · refine ihNext hnext ?_ _ r hr htext
              rcases hone with hnone | hno
              · rw [ip6After_of_ip6Text hnone]
                exact hrest
              · exact Or.inr hno

/-- What the children of a `Firewall` make of its entry does not depend on the stack: it
holds `a` everywhere, or all addresses are accepted. -/
def Settled (libc : Libc) (stack : Nat → Ipv6Addr) (a : Ipv6Addr) (t : XmlNode) : Prop :=
  AddressesRead libc (firewallVisits t) ∨ (∀ n, stack n = a) ∧ Separate t

theorem Settled.foldl_eq {stack : Nat → Ipv6Addr} {a : Ipv6Addr} {t : XmlNode}
    (h : Settled libc stack a t) (n calls : Nat) (e : ExtdFirewallEntry) :
    (firewallReads libc stack t (stack n) calls).1.foldl (fun e r => visitEntry libc r.2 e r.1) e =
      (firewallVisits t).foldl (visitEntry libc a) e := by
  have hsame : ∀ r ∈ (firewallReads libc stack t (stack n) calls).1, ∀ e,
      visitEntry libc r.2 e r.1 = visitEntry libc a e r.1 := by
    intro r hr
    refine visitEntry_congr fun text htext => ?_
    rcases h with hread | ⟨hstack, hsep⟩
    · have hmem : r.1 ∈ firewallVisits t := by
        rw [← map_fst_firewallReads libc stack t (stack n) calls]
        exact List.mem_map_of_mem hr
      obtain ⟨addr, haddr⟩ := Option.isSome_iff_exists.mp (hread r.1 hmem text htext)
      rw [haddr]
      rfl
    · rw [firewallReads_const hstack hsep (Or.inl (hstack n)) calls r hr
        (by rw [htext]; exact Option.some_ne_none text)]
  rw [← map_fst_firewallReads libc stack t (stack n) calls, List.foldl_map]
  exact List.foldl_ext _ _ _ fun e r hr => hsame r hr e

theorem parseVisits_inner (libc : Libc) {config : FirewallConf} (hin : InEntries config)
    (rs : List (FirewallVisit × Ipv6Addr)) (hne : ∀ r ∈ rs, r.1.tag ≠ .firewall)
    (hcopied : ∀ r ∈ rs, r.1.copied ≤ maxXmlStrLen) :
    ∃ config', parseVisits libc rs config = some config' ∧
      config'.numExtdFirewallEntries = config.numExtdFirewallEntries ∧
      config'.extdFirewallEntries = (withLast config fun e =>
        rs.foldl (fun e r => visitEntry libc r.2 e r.1) e).extdFirewallEntries := by
  induction rs generalizing config with
  | nil => exact ⟨config, rfl, rfl, (withLast_self fun _ => rfl).symm⟩
  | cons r rs ih =>
      obtain ⟨c₁, hc₁, hnum₁, hentries₁⟩ := firewallElement_spec libc r.2
        (hne r List.mem_cons_self) (hcopied r List.mem_cons_self) fun _ => hin
      have hin₁ : InEntries c₁ := by
        rw [InEntries, hnum₁]
        exact hin
      obtain ⟨c₂, hc₂, hnum₂, hentries₂⟩ := ih hin₁
        (fun w hw => hne w (List.mem_cons_of_mem _ hw))
        (fun w hw => hcopied w (List.mem_cons_of_mem _ hw))
      refine ⟨c₂, ?_, hnum₂.trans hnum₁, ?_⟩
      · rw [parseVisits_cons, hc₁]
        exact hc₂
      · rw [hentries₂, withLast, hnum₁, hentries₁]
        simp only [withLast, Function.update_self, Function.update_idem, List.foldl_cons]

/-- What the parse makes of a part of the document, `m` entries being there
already. -/
structure Parsed (libc : Libc) (stack : Nat → Ipv6Addr) (config config' : FirewallConf) (m : Nat)
    (es : List XmlNode) : Prop where
  num : config'.numExtdFirewallEntries.toNat = m + es.length
  old : ∀ k, k < m ∨ m + es.length ≤ k →
    config'.extdFirewallEntries k = config.extdFirewallEntries k
  entries : ∀ k (hk : k < es.length), ∀ a, Settled libc stack a es[k] →
    config'.extdFirewallEntries (m + k) =
      (firewallVisits es[k]).foldl (visitEntry libc a) (config.extdFirewallEntries (m + k))

variable {stack : Nat → Ipv6Addr}

theorem Parsed.nil {config config' : FirewallConf} {m : Nat}
    (hnum : config'.numExtdFirewallEntries.toNat = m)
    (hentries : config'.extdFirewallEntries = config.extdFirewallEntries) :
    Parsed libc stack config config' m [] where
  num := hnum
  old := fun k _ => congrFun hentries k
  entries := fun _ hk => absurd hk (Nat.not_lt_zero _)

theorem Parsed.append {config config₁ config₂ : FirewallConf} {m : Nat} {es fs : List XmlNode}
    (h₁ : Parsed libc stack config config₁ m es)
    (h₂ : Parsed libc stack config₁ config₂ (m + es.length) fs) :
    Parsed libc stack config config₂ m (es ++ fs) where
  num := by rw [h₂.num, List.length_append, Nat.add_assoc]
  old := by
    intro k hk
    rw [List.length_append] at hk
    exact (h₂.old k (by omega)).trans (h₁.old k (by omega))
  entries := by
    intro k hk a hsettled
    rw [List.length_append] at hk
    rcases Nat.lt_or_ge k es.length with hlt | hge
    · rw [List.getElem_append_left hlt] at hsettled ⊢
      rw [h₂.old (m + k) (by omega), h₁.entries k hlt a hsettled]
    · obtain ⟨j, rfl⟩ := Nat.exists_eq_add_of_le hge
      simp only [List.getElem_append_right (by omega : es.length ≤ es.length + j),
        Nat.add_sub_cancel_left] at hsettled ⊢
      have hj := h₂.entries j (by omega) a hsettled
      rw [Nat.add_assoc] at hj
      rw [hj, h₁.old _ (by omega)]

theorem parsed_firewall (libc : Libc) (stack : Nat → Ipv6Addr) {config : FirewallConf} {m : Nat}
    (hm : config.numExtdFirewallEntries.toNat = m) (hroom : m < maxFirewallEntries)
    {v : FirewallVisit} (hv : v.tag = .firewall) (ip6Addr : Ipv6Addr) (calls : Nat)
    {children : XmlNode} (hne : ∀ w ∈ firewallVisits children, w.tag ≠ .firewall)
    (hcopied : ∀ w ∈ firewallVisits children, w.copied ≤ maxXmlStrLen) :
    ∃ config', parseVisits libc ((v, ip6Addr) ::
        (firewallReads libc stack children (stack calls) (calls + 1)).1) config = some config' ∧
      Parsed libc stack config config' m [children] := by
  have hsucc : (config.numExtdFirewallEntries + 1).toNat = m + 1 := by
    rw [UInt8.toNat_add, hm]
    change (m + 1) % 256 = m + 1
    exact Nat.mod_eq_of_lt (by rw [maxFirewallEntries] at hroom; omega)
  let opened : FirewallConf :=
    { config with numExtdFirewallEntries := config.numExtdFirewallEntries + 1 }
  have hin : InEntries opened := by
    change 1 ≤ (config.numExtdFirewallEntries + 1).toNat ∧
      (config.numExtdFirewallEntries + 1).toNat ≤ maxFirewallEntries
    rw [hsucc]
    exact ⟨by omega, hroom⟩
  have hopen : firewallElement libc ip6Addr v.tag v.content config = some opened := by
    rw [hv]
    rfl
  have hmem : ∀ r ∈ (firewallReads libc stack children (stack calls) (calls + 1)).1,
      r.1 ∈ firewallVisits children := by
    intro r hr
    rw [← map_fst_firewallReads libc stack children (stack calls) (calls + 1)]
    exact List.mem_map_of_mem hr
  obtain ⟨config', hparse, hnum, hentries⟩ := parseVisits_inner libc hin _
    (fun r hr => hne r.1 (hmem r hr)) fun r hr => hcopied r.1 (hmem r hr)
  have hlast : opened.numExtdFirewallEntries.toNat - 1 = m := by
    change (config.numExtdFirewallEntries + 1).toNat - 1 = m
    rw [hsucc, Nat.add_sub_cancel]
  simp only [withLast, hlast] at hentries
  refine ⟨config', ?_, ?_, ?_, ?_⟩
  · rw [parseVisits_cons, hopen]
    exact hparse
  · rw [hnum]
    exact hsucc
  · intro k hk
    have hkm : k ≠ m := by
      simp only [List.length_singleton] at hk
      omega
    rw [hentries, Function.update_of_ne hkm]
  · intro k hk a hsettled
    have hk0 : k = 0 := by
      simp only [List.length_singleton] at hk
      omega
    subst hk0
    rw [hentries]
    exact (Function.update_self _ _ _).trans (hsettled.foldl_eq calls (calls + 1) _)

theorem parse_nested (libc : Libc) (stack : Nat → Ipv6Addr) (t : XmlNode) (ip6Addr : Ipv6Addr)
    (calls : Nat) {config : FirewallConf} {m : Nat} (hnested : Nested t)
    (hm : config.numExtdFirewallEntries.toNat = m)
    (hroom : m + (firewalls t).length ≤ maxFirewallEntries)
    (hcopied : ∀ v ∈ firewallVisits t, v.copied ≤ maxXmlStrLen) :
    ∃ config', parseVisits libc (firewallReads libc stack t ip6Addr calls).1 config =
        some config' ∧ Parsed libc stack config config' m (firewalls t) := by
  induction t generalizing config m ip6Addr calls with
  | null => exact ⟨config, rfl, .nil hm rfl⟩
  | node label children next ihChildren ihNext =>
      obtain ⟨hhere, hnext⟩ := hnested
      rw [firewallVisits_node] at hcopied
      rw [firewallReads]
      cases hvisit : firewallVisit label children with
      | none =>
          simp only [hvisit] at hcopied ⊢
          have hfirewalls : firewalls (.node label children next) = firewalls next := by
            simp only [firewalls, hvisit]
          rw [hfirewalls] at hroom ⊢
          exact ihNext _ _ hnext hm hroom hcopied
      | some v =>
          simp only [hvisit] at hhere hcopied ⊢
          rcases eq_or_ne v.tag .firewall with htag | htag
          · have hfirewalls :
                firewalls (.node label children next) = children :: firewalls next := by
              simp only [firewalls, hvisit, if_pos htag]
            have hdescends : v.tag.descends = true := by
              rw [htag]
              rfl
            rw [if_pos htag] at hhere
            simp only [if_pos hdescends] at hcopied ⊢
            rw [hfirewalls] at hroom ⊢
            rw [List.length_cons] at hroom
            obtain ⟨c₁, hc₁, hparsed₁⟩ := parsed_firewall libc stack hm (by omega) htag ip6Addr
              calls hhere
              fun w hw => hcopied w (List.mem_cons_of_mem _ (List.mem_append_left _ hw))
            obtain ⟨c₂, hc₂, hparsed₂⟩ := ihNext (libc.ip6After v.tag v.content ip6Addr)
              (firewallReads libc stack children (stack calls) (calls + 1)).2 hnext hparsed₁.num
              (by rw [List.length_singleton]; omega)
              fun w hw => hcopied w (List.mem_cons_of_mem _ (List.mem_append_right _ hw))
            refine ⟨c₂, ?_, hparsed₁.append hparsed₂⟩
            rw [← List.cons_append, parseVisits_append, hc₁]
            exact hc₂
          · rw [if_neg htag] at hhere
            obtain ⟨hwrites, hinside⟩ := hhere
            obtain ⟨c₁, hc₁, hnum₁, hentries₁⟩ := firewallElement_spec libc ip6Addr htag
              (hcopied v List.mem_cons_self) fun h => absurd h (by rw [hwrites]; decide)
            rw [withLast_self (visitEntry_of_not_writes hwrites)] at hentries₁
            have hparsed₁ : Parsed libc stack config c₁ m [] :=
              .nil (by rw [hnum₁, hm]) hentries₁
            cases hdescends : v.tag.descends with
            | false =>
                have hfirewalls : firewalls (.node label children next) = firewalls next := by
                  simp only [firewalls, hvisit, if_neg htag, hdescends, Bool.false_eq_true,
                    if_false]
                simp only [hdescends, Bool.false_eq_true, if_false, List.nil_append] at hcopied ⊢
                rw [hfirewalls] at hroom ⊢
                obtain ⟨c₂, hc₂, hparsed₂⟩ := ihNext (libc.ip6After v.tag v.content ip6Addr) calls
                  hnext hparsed₁.num hroom fun w hw => hcopied w (List.mem_cons_of_mem _ hw)
                refine ⟨c₂, ?_, hparsed₁.append hparsed₂⟩
                rw [parseVisits_cons, hc₁]
                exact hc₂
            | true =>
                have hfirewalls : firewalls (.node label children next) =
                    firewalls children ++ firewalls next := by
                  simp only [firewalls, hvisit, if_neg htag, hdescends, if_true]
                simp only [hdescends, if_true] at hcopied ⊢
                rw [hfirewalls] at hroom ⊢
                rw [List.length_append] at hroom
                obtain ⟨c₂, hc₂, hparsed₂⟩ := ihChildren (stack calls) (calls + 1)
                  (hinside hdescends) hparsed₁.num (by rw [List.length_nil]; omega)
                  fun w hw => hcopied w (List.mem_cons_of_mem _ (List.mem_append_left _ hw))
                obtain ⟨c₃, hc₃, hparsed₃⟩ := ihNext (libc.ip6After v.tag v.content ip6Addr)
                  (firewallReads libc stack children (stack calls) (calls + 1)).2 hnext
                  hparsed₂.num (by rw [List.length_nil]; omega)
                  fun w hw => hcopied w (List.mem_cons_of_mem _ (List.mem_append_right _ hw))
                refine ⟨c₃, ?_, (hparsed₁.append hparsed₂).append hparsed₃⟩
                rw [parseVisits_cons, hc₁, Option.bind_some, parseVisits_append, hc₂]
                exact hc₃

theorem readFirewallXml_nested (libc : Libc) (stack : Nat → Ipv6Addr) {root : XmlNode}
    (hnested : Nested root) (hroom : (firewalls root).length ≤ maxFirewallEntries)
    (hcopied : ∀ v ∈ firewallVisits root, v.copied ≤ maxXmlStrLen) :
    ∃ config, readFirewallXml libc stack root = some config ∧
      config.numExtdFirewallEntries.toNat = (firewalls root).length ∧
      ∀ k (hk : k < (firewalls root).length), ∀ a, Settled libc stack a (firewalls root)[k] →
        config.extdFirewallEntries k = entryOf libc a (firewallVisits (firewalls root)[k]) := by
  have hzero : FirewallConf.zero.numExtdFirewallEntries.toNat = 0 := rfl
  obtain ⟨config, hparse, hparsed⟩ := parse_nested libc stack root (stack 0) 1 hnested hzero
    (by rw [Nat.zero_add]; exact hroom) hcopied
  refine ⟨config, ?_, ?_, ?_⟩
  · rw [readFirewallXml, firewallXmlParseTree_eq_visits, hparse]
    rfl
  · rw [hparsed.num, Nat.zero_add]
  · intro k hk a hsettled
    have hentry := hparsed.entries k hk a hsettled
    rw [Nat.zero_add] at hentry
    exact hentry

end

end LibraDevice.Xml
