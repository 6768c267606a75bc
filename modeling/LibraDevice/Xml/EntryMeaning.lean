import LibraDevice.Xml.Elements

/-!
An entry as a conjunction of conditions, and the element it was read from: the
entry matches the packets that meet the conditions of its element, unless the
last port of a range is past 65535.
-/

namespace LibraDevice.Xml

open Firewall Backhaul

section

variable {σ α β γ : Type*}

theorem foldl_view {g : σ → β} {f : σ → α → σ} {w : α → Option γ} {k : β → γ → β}
    (h : ∀ s a, g (f s a) = (w a).elim (g s) (k (g s))) (s : σ) (l : List α) :
    g (l.foldl f s) = (l.filterMap w).foldl k (g s) := by
  induction l generalizing s with
  | nil => rfl
  | cons a l ih =>
      rw [List.foldl_cons, ih, h, List.filterMap_cons]
      cases w a with
      | none => rfl
      | some c => rfl

theorem foldl_last (val : γ → β) (b : β) (l : List γ) :
    l.foldl (fun _ c => val c) b = (l.getLast?.map val).getD b := by
  induction l using List.reverseRecOn with
  | nil => rfl
  | append_singleton l c _ =>
      rw [List.foldl_append, List.getLast?_concat]
      rfl

end

/-- The members for the ports of one side. -/
structure PortState where
  port : UInt16
  lo : UInt16
  hi : UInt16
deriving DecidableEq, Repr

def PortState.zero : PortState := ⟨0, 0, 0⟩

namespace Side

def addr : Side → RuleAttrib → UInt32
  | .source, a => a.v4.srcAddr
  | .destination, a => a.v4.dstAddr

def addrMask : Side → RuleAttrib → UInt32
  | .source, a => a.v4.srcAddrMask
  | .destination, a => a.v4.dstAddrMask

def addrV6 : Side → RuleAttrib → Ipv6Addr
  | .source, a => a.v6.srcAddr
  | .destination, a => a.v6.dstAddr

def addrMaskV6 : Side → RuleAttrib → Ipv6Addr
  | .source, a => a.v6.srcAddrMask
  | .destination, a => a.v6.dstAddrMask

def ports : Side → RuleAttrib → PortState
  | .source, a => ⟨a.srcPort, a.srcPortLo, a.srcPortHi⟩
  | .destination, a => ⟨a.dstPort, a.dstPortLo, a.dstPortHi⟩

def addrFlt : Side → Flt
  | .source => .srcAddr
  | .destination => .dstAddr

def portFlt : Side → Flt
  | .source => .srcPort
  | .destination => .dstPort

def rangeFlt : Side → Flt
  | .source => .srcPortRange
  | .destination => .dstPortRange

end Side

def serviceOf : IpType → RuleAttrib → UInt8
  | .v4, a => a.v4.tos
  | .v6, a => a.v6.tc

def serviceFlt : IpType → Flt
  | .v4 => .tos
  | .v6 => .tc

/-- The members after a port or range field. -/
def PortState.after (s : PortState) : PortField → PortState
  | .port value => { s with port := UInt16.ofInt value }
  | .range value => if value ≠ 0 then ⟨0, s.port, s.port + UInt16.ofInt value⟩ else s

section

variable {libc : Libc} {ip6Addr : Ipv6Addr} {β γ : Type*}

/-- The value `g` of the attributes is changed by the fields that `w` reads
alone, and these change it by `k`. -/
structure SetBy (libc : Libc) (ip6Addr : Ipv6Addr) (w : FirewallVisit → Option γ)
    (g : RuleAttrib → β)
    (k : β → γ → β) : Prop where
  leaf : ∀ v, (w v).isSome = true → v.content.isSome = true ∧ v.tag.groupFlt = none ∧
    v.tag.descends = false ∧ v.tag ≠ .ipFamily
  mask : ∀ a mask, g { a with attribMask := mask } = g a
  set : ∀ a tag text, tag ≠ .ipFamily →
    g (attribField libc ip6Addr tag text a) = (w ⟨tag, some text⟩).elim (g a) (k (g a))

section

variable {w : FirewallVisit → Option γ} {g : RuleAttrib → β} {k : β → γ → β}

theorem SetBy.visit (h : SetBy libc ip6Addr w g k) (e : ExtdFirewallEntry) (v : FirewallVisit) :
    g (visitEntry libc ip6Addr e v).attrib = (w v).elim (g e.attrib) (k (g e.attrib)) := by
  obtain ⟨tag, content⟩ := v
  -- an element that is no field of the attributes is not read by `w`
  have hnone : ¬ (content.isSome = true ∧ tag.groupFlt = none ∧ tag.descends = false ∧
      tag ≠ .ipFamily) → w ⟨tag, content⟩ = none := by
    intro hleaf
    rw [← Option.not_isSome_iff_eq_none]
    exact fun hsome => hleaf (h.leaf _ hsome)
  cases hgroup : tag.groupFlt with
  | some f =>
      rw [hnone fun hleaf => by simp [hgroup] at hleaf]
      simp only [visitEntry, hgroup]
      exact h.mask _ _
  | none =>
      cases hdescends : tag.descends with
      | true =>
          rw [hnone fun hleaf => by simp [hdescends] at hleaf]
          simp only [visitEntry, hgroup, hdescends, if_true]
          rfl
      | false =>
          cases content with
          | none =>
              rw [hnone fun hleaf => by simp at hleaf]
              simp only [visitEntry, hgroup, hdescends, Bool.false_eq_true, if_false]
              rfl
          | some text =>
              simp only [visitEntry, hgroup, hdescends, Bool.false_eq_true, if_false]
              rcases eq_or_ne tag .ipFamily with rfl | hfamily
              · rw [hnone fun hleaf => hleaf.2.2.2 rfl]
                rfl
              · rw [entryField.eq_2 _ _ _ _ _ hfamily]
                exact h.set _ _ _ hfamily

theorem SetBy.fold (h : SetBy libc ip6Addr w g k) (fs : List FirewallVisit) :
    g (entryOf libc ip6Addr fs).attrib = (fs.filterMap w).foldl k (g .zero) :=
  foldl_view (g := fun e : ExtdFirewallEntry => g e.attrib) h.visit .zero fs

end

theorem textOf_some (t tag : FirewallTag) (text : CString) :
    FirewallVisit.textOf t ⟨tag, some text⟩ = if tag = t then some text else none :=
  rfl

theorem SetBy.of_tag {t : FirewallTag} {g : RuleAttrib → β} {k : β → CString → β}
    (hleaf : t.groupFlt = none ∧ t.descends = false ∧ t ≠ .ipFamily)
    (hmask : ∀ a mask, g { a with attribMask := mask } = g a)
    (hset : ∀ a tag text, g (attribField libc ip6Addr tag text a) =
      if tag = t then k (g a) text else g a) : SetBy libc ip6Addr (FirewallVisit.textOf t) g k where
  leaf := by
    intro v hv
    rw [FirewallVisit.textOf] at hv
    split at hv
    · next htag =>
        rw [htag]
        exact ⟨hv, hleaf⟩
    · cases hv
  mask := hmask
  set := by
    intro a tag text _
    rw [hset, textOf_some]
    split
    · rfl
    · rfl

theorem SetBy.last {t : FirewallTag} {g : RuleAttrib → β} {val : CString → β}
    (h : SetBy libc ip6Addr (FirewallVisit.textOf t) g fun _ => val) (fs : List FirewallVisit) :
    g (entryOf libc ip6Addr fs).attrib = ((field t fs).map val).getD (g .zero) := by
  rw [h.fold, foldl_last]
  rfl

variable (libc ip6Addr)

theorem attribField_eq (tag : FirewallTag) (text : CString) (a : RuleAttrib) :
    ∃ a' : RuleAttrib, attribField libc ip6Addr tag text a =
      { a' with
        type := if tag = .icmpType then UInt8.ofInt (atoi text) else a.type
        code := if tag = .icmpCode then UInt8.ofInt (atoi text) else a.code
        spi := if tag = .espSpi then UInt32.ofInt (atoi text) else a.spi
        v4 :=
          { tos := if tag = .tosValue then UInt8.ofInt (atoi text)
              else if tag = .tosMask then a.v4.tos &&& UInt8.ofInt (atoi text) else a.v4.tos
            protocol := if tag = .ipv4NextHeaderProtocol then UInt8.ofInt (atoi text)
              else a.v4.protocol
            srcAddr := if tag = .ipAddress .v4 .source then
              htonl (libc.inetAddr (clearLast text)) else a.v4.srcAddr
            srcAddrMask := if tag = .subnetMask .source then
              htonl (libc.inetAddr (clearLast text)) else a.v4.srcAddrMask
            dstAddr := if tag = .ipAddress .v4 .destination then
              htonl (libc.inetAddr (clearLast text)) else a.v4.dstAddr
            dstAddrMask := if tag = .subnetMask .destination then
              htonl (libc.inetAddr (clearLast text)) else a.v4.dstAddrMask }
        v6 :=
          { tc := if tag = .trfClsValue then UInt8.ofInt (atoi text)
              else if tag = .trfClsMask then a.v6.tc &&& UInt8.ofInt (atoi text) else a.v6.tc
            nextHdr := if tag = .ipv6NextHeaderProtocol then UInt8.ofInt (atoi text)
              else a.v6.nextHdr
            srcAddr := if tag = .ipAddress .v6 .source then
              Ipv6Addr.htonl ((libc.inetPton text).getD ip6Addr) else a.v6.srcAddr
            srcAddrMask := if tag = .pfx .source then
              maskWords (atoi text) a.v6.srcAddrMask else a.v6.srcAddrMask
            dstAddr := if tag = .ipAddress .v6 .destination then
              Ipv6Addr.htonl ((libc.inetPton text).getD ip6Addr) else a.v6.dstAddr
            dstAddrMask := if tag = .pfx .destination then
              maskWords (atoi text) a.v6.dstAddrMask else a.v6.dstAddrMask } } := by
  refine ⟨attribField libc ip6Addr tag text a, ?_⟩
  cases tag with
  | range protocol side =>
      cases side with
      | source =>
          simp only [attribField]
          split
          · rfl
          · rfl
      | destination =>
          simp only [attribField]
          split
          · rfl
          · rfl
  | ipAddress iptype side => cases iptype <;> cases side <;> rfl
  | subnetMask side | pfx side | port protocol side => cases side <;> rfl
  | _ => rfl

theorem setBy_addr (side : Side) :
    SetBy libc ip6Addr (FirewallVisit.textOf (.ipAddress .v4 side)) side.addr fun _ text =>
      htonl (libc.inetAddr (clearLast text)) := by
  apply SetBy.of_tag ⟨rfl, rfl, by simp⟩
  · intro a mask
    cases side <;> rfl
  · intro a tag text
    obtain ⟨a', ha'⟩ := attribField_eq libc ip6Addr tag text a
    rw [ha']
    cases side <;> rfl

theorem setBy_addrMask (side : Side) :
    SetBy libc ip6Addr (FirewallVisit.textOf (.subnetMask side)) side.addrMask fun _ text =>
      htonl (libc.inetAddr (clearLast text)) := by
  apply SetBy.of_tag ⟨rfl, rfl, by simp⟩
  · intro a mask
    cases side <;> rfl
  · intro a tag text
    obtain ⟨a', ha'⟩ := attribField_eq libc ip6Addr tag text a
    rw [ha']
    cases side <;> rfl

theorem setBy_addrV6 (side : Side) :
    SetBy libc ip6Addr (FirewallVisit.textOf (.ipAddress .v6 side)) side.addrV6 fun _ text =>
      Ipv6Addr.htonl ((libc.inetPton text).getD ip6Addr) := by
  apply SetBy.of_tag ⟨rfl, rfl, by simp⟩
  · intro a mask
    cases side <;> rfl
  · intro a tag text
    obtain ⟨a', ha'⟩ := attribField_eq libc ip6Addr tag text a
    rw [ha']
    cases side <;> rfl

theorem setBy_addrMaskV6 (side : Side) :
    SetBy libc ip6Addr (FirewallVisit.textOf (.pfx side)) side.addrMaskV6 fun mask text =>
      maskWords (atoi text) mask := by
  apply SetBy.of_tag ⟨rfl, rfl, by simp⟩
  · intro a mask
    cases side <;> rfl
  · intro a tag text
    obtain ⟨a', ha'⟩ := attribField_eq libc ip6Addr tag text a
    rw [ha']
    cases side <;> rfl

theorem setBy_protocol (iptype : IpType) :
    SetBy libc ip6Addr (FirewallVisit.textOf (.nextHeader iptype)) (fun a => a.protocolOf iptype)
      fun _ text => UInt8.ofInt (atoi text) := by
  apply SetBy.of_tag (by cases iptype <;> exact ⟨rfl, rfl, by simp [FirewallTag.nextHeader]⟩)
  · intro a mask
    cases iptype <;> rfl
  · intro a tag text
    obtain ⟨a', ha'⟩ := attribField_eq libc ip6Addr tag text a
    rw [ha']
    cases iptype <;> rfl

theorem setBy_type :
    SetBy libc ip6Addr (FirewallVisit.textOf .icmpType) RuleAttrib.type fun _ text =>
    UInt8.ofInt (atoi text) := by
  apply SetBy.of_tag ⟨rfl, rfl, by simp⟩ fun _ _ => rfl
  intro a tag text
  obtain ⟨a', ha'⟩ := attribField_eq libc ip6Addr tag text a
  rw [ha']

theorem setBy_code :
    SetBy libc ip6Addr (FirewallVisit.textOf .icmpCode) RuleAttrib.code fun _ text =>
    UInt8.ofInt (atoi text) := by
  apply SetBy.of_tag ⟨rfl, rfl, by simp⟩ fun _ _ => rfl
  intro a tag text
  obtain ⟨a', ha'⟩ := attribField_eq libc ip6Addr tag text a
  rw [ha']

theorem setBy_spi : SetBy libc ip6Addr (FirewallVisit.textOf .espSpi) RuleAttrib.spi fun _ text =>
    UInt32.ofInt (atoi text) := by
  apply SetBy.of_tag ⟨rfl, rfl, by simp⟩ fun _ _ => rfl
  intro a tag text
  obtain ⟨a', ha'⟩ := attribField_eq libc ip6Addr tag text a
  rw [ha']

theorem serviceField_isSome {iptype : IpType} {v : FirewallVisit}
    (h : (v.serviceField iptype).isSome = true) : v.content.isSome = true ∧
      (v.tag = .serviceValue iptype ∨ v.tag = .serviceMask iptype) := by
  obtain ⟨tag, content⟩ := v
  cases content with
  | none => cases h
  | some text =>
      refine ⟨rfl, ?_⟩
      change (if tag = .serviceValue iptype then some (ServiceField.value _)
        else if tag = .serviceMask iptype then some (ServiceField.mask _) else none).isSome = true
          at h
      split at h
      · next htag => exact Or.inl htag
      · split at h
        · next htag => exact Or.inr htag
        · cases h

theorem setBy_service (iptype : IpType) : SetBy libc ip6Addr (FirewallVisit.serviceField iptype)
    (serviceOf iptype) ServiceField.apply where
  leaf := by
    intro v hv
    obtain ⟨hcontent, htag⟩ := serviceField_isSome hv
    refine ⟨hcontent, ?_⟩
    rcases htag with htag | htag
    · rw [htag]
      cases iptype <;> exact ⟨rfl, rfl, by simp [FirewallTag.serviceValue]⟩
    · rw [htag]
      cases iptype <;> exact ⟨rfl, rfl, by simp [FirewallTag.serviceMask]⟩
  mask := by
    intro a mask
    cases iptype <;> rfl
  set := by
    intro a tag text _
    obtain ⟨a', ha'⟩ := attribField_eq libc ip6Addr tag text a
    rw [ha']
    cases iptype with
    | v4 => cases tag <;> rfl
    | v6 => cases tag <;> rfl

theorem setBy_ports (side : Side) : SetBy libc ip6Addr (FirewallVisit.portField side) side.ports
    PortState.after where
  leaf := by
    rintro ⟨tag, content⟩ hv
    cases content with
    | none => cases tag <;> cases hv
    | some text =>
        refine ⟨rfl, ?_⟩
        cases tag with
        | port protocol s => exact ⟨rfl, rfl, by simp⟩
        | range protocol s => exact ⟨rfl, rfl, by simp⟩
        | _ => cases hv
  mask := by
    intro a mask
    cases side <;> rfl
  set := by
    intro a tag text _
    cases tag with
    | port protocol s => cases side <;> cases s <;> rfl
    | range protocol s =>
        rcases eq_or_ne (atoi text) 0 with hzero | hne
        · cases side <;> cases s <;>
            simp [FirewallVisit.portField, attribField, Side.ports, PortState.after, hzero]
        · cases side <;> cases s <;>
            simp [FirewallVisit.portField, attribField, Side.ports, PortState.after, hne]
    | ipAddress t s => cases side <;> cases t <;> cases s <;> rfl
    | subnetMask s => cases side <;> cases s <;> rfl
    | pfx s => cases side <;> cases s <;> rfl
    | _ => cases side <;> rfl

end

/-- The flag that the text of a field sets. -/
def fieldFlt (tag : FirewallTag) (text : CString) : Option Flt :=
  match tag with
  | .ipv4NextHeaderProtocol => some .protocol
  | .ipv6NextHeaderProtocol => some .nextHdr
  | .range _ side => some (if atoi text ≠ 0 then side.rangeFlt else side.portFlt)
  | .icmpType => some .type
  | .icmpCode => some .code
  | .espSpi => some .spi
  | _ => none

def FirewallVisit.flt (v : FirewallVisit) : Option Flt :=
  match v.tag.groupFlt with
  | some f => some f
  | none => v.content.bind (fieldFlt v.tag)

theorem attribField_attribMask (libc : Libc) (ip6Addr : Ipv6Addr) (tag : FirewallTag)
    (text : CString)
    (a : RuleAttrib) : (attribField libc ip6Addr tag text a).attribMask =
      (fieldFlt tag text).elim a.attribMask (insert · a.attribMask) := by
  cases tag with
  | range protocol side =>
      rcases eq_or_ne (atoi text) 0 with hzero | hne
      · cases side <;> simp [attribField, fieldFlt, Side.portFlt, hzero]
      · cases side <;> simp [attribField, fieldFlt, Side.rangeFlt, hne]
  | ipAddress iptype side => cases iptype <;> cases side <;> rfl
  | subnetMask side | pfx side | port protocol side => cases side <;> rfl
  | _ => rfl

theorem visitEntry_attribMask (libc : Libc) (ip6Addr : Ipv6Addr) (e : ExtdFirewallEntry)
    (v : FirewallVisit) :
    (visitEntry libc ip6Addr e v).attrib.attribMask =
      v.flt.elim e.attrib.attribMask fun f => insert f e.attrib.attribMask := by
  obtain ⟨tag, content⟩ := v
  cases hgroup : tag.groupFlt with
  | some f =>
      simp only [visitEntry, FirewallVisit.flt, hgroup]
      rfl
  | none =>
      cases content with
      | none =>
          simp only [visitEntry, FirewallVisit.flt, hgroup, ite_self]
          rfl
      | some text =>
          cases hdescends : tag.descends with
          | true =>
              have hnone : fieldFlt tag text = none := by
                cases tag <;> first | rfl | cases hdescends
              simp only [visitEntry, FirewallVisit.flt, hgroup, hdescends, if_true,
                Option.bind_some, hnone]
              rfl
          | false =>
              simp only [visitEntry, FirewallVisit.flt, hgroup, hdescends, Bool.false_eq_true,
                if_false, Option.bind_some]
              rcases eq_or_ne tag .ipFamily with rfl | hfamily
              · rfl
              · rw [entryField.eq_2 _ _ _ _ _ hfamily]
                exact attribField_attribMask libc ip6Addr tag text e.attrib

theorem mem_foldl_insert {f : Flt} (mask : Finset Flt) (l : List Flt) :
    f ∈ l.foldl (fun mask f => insert f mask) mask ↔ f ∈ mask ∨ f ∈ l := by
  induction l generalizing mask with
  | nil => simp
  | cons f' l ih =>
      rw [List.foldl_cons, ih, Finset.mem_insert, List.mem_cons]
      tauto

theorem mem_entryOf {libc : Libc} {ip6Addr : Ipv6Addr} {fs : List FirewallVisit} {f : Flt} :
    f ∈ (entryOf libc ip6Addr fs).attrib.attribMask ↔ ∃ v ∈ fs, v.flt = some f := by
  have hfold : (entryOf libc ip6Addr fs).attrib.attribMask =
      (fs.filterMap FirewallVisit.flt).foldl (fun mask f => insert f mask) ∅ :=
    foldl_view (g := fun e : ExtdFirewallEntry => e.attrib.attribMask)
      (k := fun mask f => insert f mask) (visitEntry_attribMask libc ip6Addr) .zero fs
  rw [hfold, mem_foldl_insert, List.mem_filterMap]
  simp

/-- The flags of the groups of fields. -/
def ofGroup : Flt → Bool
  | .tos | .tc | .srcAddr | .dstAddr => true
  | _ => false

theorem ofGroup_groupFlt {tag : FirewallTag} {f : Flt} (h : tag.groupFlt = some f) :
    ofGroup f = true ∧ ∀ text, fieldFlt tag text = none := by
  cases tag with
  | address iptype side => cases side <;> cases h <;> exact ⟨rfl, fun _ => rfl⟩
  | ipv4TypeOfService | ipv6TrafficClass =>
      cases h
      exact ⟨rfl, fun _ => rfl⟩
  | _ => cases h

theorem ofGroup_fieldFlt {tag : FirewallTag} {text : CString} {f : Flt}
    (h : fieldFlt tag text = some f) : ofGroup f = false := by
  cases tag with
  | range protocol side =>
      obtain rfl := Option.some.inj h
      split
      · cases side <;> rfl
      · cases side <;> rfl
  | ipv4NextHeaderProtocol | ipv6NextHeaderProtocol | icmpType | icmpCode | espSpi =>
      cases h
      rfl
  | _ => cases h

theorem flt_group {v : FirewallVisit} {f : Flt} (hf : ofGroup f = true) :
    v.flt = some f ↔ v.tag.groupFlt = some f := by
  rw [FirewallVisit.flt]
  cases v.tag.groupFlt with
  | some f' => rfl
  | none =>
      refine iff_of_false ?_ (by simp)
      intro h
      obtain ⟨text, _, htext⟩ := Option.bind_eq_some_iff.mp h
      rw [ofGroup_fieldFlt htext] at hf
      cases hf

theorem flt_field {v : FirewallVisit} {f : Flt} (hf : ofGroup f = false) :
    v.flt = some f ↔ v.content.bind (fieldFlt v.tag) = some f := by
  rw [FirewallVisit.flt]
  cases hgroup : v.tag.groupFlt with
  | none => rfl
  | some f' =>
      obtain ⟨hf', hnone⟩ := ofGroup_groupFlt hgroup
      refine iff_of_false ?_ ?_
      · intro h
        rw [← Option.some.inj h, hf'] at hf
        cases hf
      · intro h
        obtain ⟨text, _, htext⟩ := Option.bind_eq_some_iff.mp h
        rw [hnone] at htext
        cases htext

theorem flt_addr {v : FirewallVisit} {side : Side} :
    v.flt = some side.addrFlt ↔ ∃ iptype, v.tag = .address iptype side := by
  rw [flt_group (by cases side <;> rfl)]
  cases v.tag with
  | address iptype s => cases side <;> cases s <;> simp [FirewallTag.groupFlt, Side.addrFlt]
  | _ => cases side <;> simp [FirewallTag.groupFlt, Side.addrFlt]

theorem flt_service {v : FirewallVisit} {iptype : IpType} :
    v.flt = some (serviceFlt iptype) ↔ v.tag = .service iptype := by
  rw [flt_group (by cases iptype <;> rfl)]
  cases v.tag with
  | address t s =>
      cases iptype <;> cases s <;> simp [FirewallTag.groupFlt, serviceFlt, FirewallTag.service]
  | _ => cases iptype <;> simp [FirewallTag.groupFlt, serviceFlt, FirewallTag.service]

theorem flt_range {v : FirewallVisit} {side : Side} :
    (v.flt = some side.portFlt ↔ v.portField side = some (.range 0)) ∧
      (v.flt = some side.rangeFlt ↔ ∃ value ≠ 0, v.portField side = some (.range value)) := by
  rw [flt_field (by cases side <;> rfl), flt_field (by cases side <;> rfl)]
  obtain ⟨tag, content⟩ := v
  cases content with
  | none => cases tag <;> simp [FirewallVisit.portField]
  | some text =>
      cases tag with
      | range protocol s =>
          rcases eq_or_ne (atoi text) 0 with hzero | hne
          · cases side <;> cases s <;>
              simp [FirewallVisit.portField, fieldFlt, Side.portFlt, Side.rangeFlt, hzero]
          · cases side <;> cases s <;>
              simp [FirewallVisit.portField, fieldFlt, Side.portFlt, Side.rangeFlt, hne]
      | port protocol s => cases side <;> simp [FirewallVisit.portField, fieldFlt]
      | _ => cases side <;> simp [FirewallVisit.portField, fieldFlt, Side.portFlt, Side.rangeFlt]

theorem mem_entryOf_field {libc : Libc} {ip6Addr : Ipv6Addr} {t : FirewallTag} {f : Flt}
    (hf : ofGroup f = false)
    (ht : ∀ tag text, fieldFlt tag text = some f ↔ tag = t) {fs : List FirewallVisit} :
    f ∈ (entryOf libc ip6Addr fs).attrib.attribMask ↔ ∃ text, field t fs = some text := by
  have hvisit : ∀ v : FirewallVisit, v.flt = some f ↔ (v.textOf t).isSome = true := by
    rintro ⟨tag, content⟩
    rw [flt_field hf]
    cases content with
    | none => simp [FirewallVisit.textOf]
    | some text =>
        rw [textOf_some, Option.bind_some, ht]
        split <;> simp_all
  rw [mem_entryOf, ← Option.isSome_iff_exists, field, List.getLast?_isSome, texts, ne_eq,
    List.filterMap_eq_nil_iff]
  simp only [hvisit, not_forall, Option.isSome_iff_ne_none, exists_prop]

theorem fieldFlt_protocol {iptype : IpType} (tag : FirewallTag) (text : CString) :
    fieldFlt tag text = some (protocolFlt iptype) ↔ tag = .nextHeader iptype := by
  cases tag with
  | range protocol side =>
      cases iptype <;> cases side <;>
        simp [fieldFlt, protocolFlt, FirewallTag.nextHeader, Side.rangeFlt, Side.portFlt,
          ite_eq_iff]
  | _ => cases iptype <;> simp [fieldFlt, protocolFlt, FirewallTag.nextHeader]

theorem fieldFlt_type (tag : FirewallTag) (text : CString) :
    fieldFlt tag text = some .type ↔ tag = .icmpType := by
  cases tag with
  | range protocol side =>
      cases side <;> simp [fieldFlt, Side.rangeFlt, Side.portFlt, ite_eq_iff]
  | _ => simp [fieldFlt]

theorem fieldFlt_code (tag : FirewallTag) (text : CString) :
    fieldFlt tag text = some .code ↔ tag = .icmpCode := by
  cases tag with
  | range protocol side =>
      cases side <;> simp [fieldFlt, Side.rangeFlt, Side.portFlt, ite_eq_iff]
  | _ => simp [fieldFlt]

theorem fieldFlt_spi (tag : FirewallTag) (text : CString) :
    fieldFlt tag text = some .spi ↔ tag = .espSpi := by
  cases tag with
  | range protocol side =>
      cases side <;> simp [fieldFlt, Side.rangeFlt, Side.portFlt, ite_eq_iff]
  | _ => simp [fieldFlt]

/-- The address of the packet is that of the attributes, under their mask. -/
def AddrMeets (iptype : IpType) (side : Side) (a : RuleAttrib) (p : Packet) : Prop :=
  match iptype with
  | .v4 => p.addr side &&& side.addrMask a = side.addr a &&& side.addrMask a
  | .v6 => maskedV6 (side.addrV6 a) (side.addrMaskV6 a) (p.addrV6 side) = true

/-- What the attributes ask of the headers before the ports, flag by flag. -/
structure HeadersMeet (iptype : IpType) (a : RuleAttrib) (p : Packet) : Prop where
  address : ∀ side : Side, side.addrFlt ∈ a.attribMask → AddrMeets iptype side a p
  protocol : protocolFlt iptype ∈ a.attribMask →
    Reading.means (a.protocolOf iptype) (p.protocolOf iptype) = true
  service : serviceFlt iptype ∈ a.attribMask → p.service iptype = serviceOf iptype a
  type : .type ∈ a.attribMask → p.type = a.type
  code : .code ∈ a.attribMask → p.code = a.code
  spi : .spi ∈ a.attribMask → p.spi = a.spi

/-- What the attributes ask of the port of one side. -/
def PortMeets (side : Side) (a : RuleAttrib) (port : UInt16) : Prop :=
  (side.portFlt ∈ a.attribMask → port = (side.ports a).port) ∧
    (side.rangeFlt ∈ a.attribMask → (side.ports a).lo ≤ port ∧ port ≤ (side.ports a).hi)

section

variable {iptype : IpType} {side : Side} {a : RuleAttrib} {p : Packet}

theorem meets_addrFlt : packetReading.meets iptype a p side.addrFlt = true ↔
    AddrMeets iptype side a p := by
  cases iptype with
  | v4 => cases side <;> exact decide_eq_true_iff
  | v6 => cases side <;> exact Iff.rfl

theorem meets_portFlt : packetReading.meets iptype a p side.portFlt = true ↔
    p.port side = (side.ports a).port := by
  cases side <;> exact decide_eq_true_iff

theorem meets_rangeFlt : packetReading.meets iptype a p side.rangeFlt = true ↔
    (side.ports a).lo ≤ p.port side ∧ p.port side ≤ (side.ports a).hi := by
  have hand : ∀ lo hi port : UInt16, (decide (lo ≤ port) && decide (port ≤ hi)) = true ↔
      lo ≤ port ∧ port ≤ hi := by
    intro lo hi port
    rw [Bool.and_eq_true, decide_eq_true_iff, decide_eq_true_iff]
  cases side with
  | source => exact hand _ _ _
  | destination => exact hand _ _ _

theorem meets_serviceFlt : packetReading.meets iptype a p (serviceFlt iptype) = true ↔
    p.service iptype = serviceOf iptype a := by
  cases iptype <;> exact decide_eq_true_iff

end

/-- The flags of the other family. -/
def foreignFlt : IpType → Flt → Bool
  | .v4, .tc | .v4, .nextHdr | .v6, .tos | .v6, .protocol => true
  | _, _ => false

theorem matchesEntry_iff {iptype : IpType} {e : ExtdFirewallEntry} {p : Packet}
    (hforeign : ∀ f ∈ e.attrib.attribMask, foreignFlt iptype f = false) :
    packetReading.matchesEntry iptype e p = true ↔
      HeadersMeet iptype e.attrib p ∧ ∀ side, PortMeets side e.attrib (p.port side) := by
  have hother : ∀ {f : Flt}, f ≠ protocolFlt iptype →
      (if f = protocolFlt iptype then
          Reading.means (e.attrib.protocolOf iptype) (packetReading.protocolOf p iptype)
        else packetReading.meets iptype e.attrib p f) = packetReading.meets iptype e.attrib p f :=
    fun hne => if_neg hne
  rw [Reading.matchesEntry, decide_eq_true_eq]
  constructor
  · intro h
    have hmeets : ∀ f ∈ e.attrib.attribMask, f ≠ .metaData → f ≠ protocolFlt iptype →
        packetReading.meets iptype e.attrib p f = true := by
      intro f hf hmeta hne
      rw [← hother hne]
      exact h f hf hmeta
    constructor
    · constructor
      · intro side hside
        exact meets_addrFlt.mp (hmeets _ hside (by cases side <;> decide)
          (by cases side <;> cases iptype <;> decide))
      · intro hprotocol
        have hmeans := h _ hprotocol (by cases iptype <;> decide)
        rw [if_pos rfl] at hmeans
        cases iptype <;> exact hmeans
      · intro hservice
        exact meets_serviceFlt.mp (hmeets _ hservice (by cases iptype <;> decide)
          (by cases iptype <;> decide))
      · intro htype
        exact of_decide_eq_true (hmeets _ htype (by decide) (by cases iptype <;> decide))
      · intro hcode
        exact of_decide_eq_true (hmeets _ hcode (by decide) (by cases iptype <;> decide))
      · intro hspi
        exact of_decide_eq_true (hmeets _ hspi (by decide) (by cases iptype <;> decide))
    · intro side
      constructor
      · intro hside
        exact meets_portFlt.mp (hmeets _ hside (by cases side <;> decide)
          (by cases side <;> cases iptype <;> decide))
      · intro hside
        exact meets_rangeFlt.mp (hmeets _ hside (by cases side <;> decide)
          (by cases side <;> cases iptype <;> decide))
  · rintro ⟨h, hports⟩ f hf hmeta
    rcases eq_or_ne f (protocolFlt iptype) with rfl | hne
    · rw [if_pos rfl]
      cases iptype <;> exact h.protocol hf
    · rw [hother hne]
      have hforeign := hforeign f hf
      cases f with
      | srcAddr => exact meets_addrFlt.mpr (h.address .source hf)
      | dstAddr => exact meets_addrFlt.mpr (h.address .destination hf)
      | srcPort => exact meets_portFlt.mpr ((hports .source).1 hf)
      | dstPort => exact meets_portFlt.mpr ((hports .destination).1 hf)
      | srcPortRange => exact meets_rangeFlt.mpr ((hports .source).2 hf)
      | dstPortRange => exact meets_rangeFlt.mpr ((hports .destination).2 hf)
      | type => exact decide_eq_true (h.type hf)
      | code => exact decide_eq_true (h.code hf)
      | spi => exact decide_eq_true (h.spi hf)
      | tos =>
          cases iptype with
          | v4 => exact meets_serviceFlt.mpr (h.service hf)
          | v6 => cases hforeign
      | tc =>
          cases iptype with
          | v4 => cases hforeign
          | v6 => exact meets_serviceFlt.mpr (h.service hf)
      | protocol =>
          cases iptype with
          | v4 => exact absurd rfl hne
          | v6 => cases hforeign
      | nextHdr =>
          cases iptype with
          | v4 => cases hforeign
          | v6 => exact absurd rfl hne
      | metaData => exact absurd rfl hmeta

end LibraDevice.Xml
