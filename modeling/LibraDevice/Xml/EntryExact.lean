import LibraDevice.Xml.EntryMeaning

/-!
The entries of a firewall file against its elements. A range is kept in sixteen
bits, and an address that is rejected is taken from the stack: an entry is made
of its element, and matches what that asks for, as long as no range goes past
the last port and every address is accepted, and then only.
-/

namespace LibraDevice.Xml

open Firewall Backhaul PrefixMask

section

variable {libc : Libc} {ip6Addr : Ipv6Addr} {iptype : IpType} {fs : List FirewallVisit}

theorem mem_texts {t : FirewallTag} {text : CString} (h : text ∈ texts t fs) :
    (⟨t, some text⟩ : FirewallVisit) ∈ fs := by
  obtain ⟨⟨tag, content⟩, hmem, htext⟩ := List.mem_filterMap.mp h
  rw [FirewallVisit.textOf] at htext
  split at htext
  · next htag =>
      change tag = t at htag
      change content = some text at htext
      rw [← htag, ← htext]
      exact hmem
  · cases htext

theorem field_mem_texts {t : FirewallTag} {text : CString} (h : field t fs = some text) :
    text ∈ texts t fs :=
  List.mem_of_getLast? h

theorem clearLast_of_short {text : CString} (h : text.length < maxXmlStrLen) :
    clearLast text = text := by
  rw [clearLast, List.take_of_length_le]
  omega

theorem map_clearLast {β : Type*} (hshort : ∀ v ∈ fs, v.copied < maxXmlStrLen)
    {t : FirewallTag} (ht : t.reads = true) (val : CString → β) :
    (field t fs).map (fun text => val (clearLast text)) = (field t fs).map val := by
  cases hfield : field t fs with
  | none => rfl
  | some text =>
      have hlen := hshort _ (mem_texts (field_mem_texts hfield))
      rw [FirewallVisit.copied, if_pos ht] at hlen
      rw [Option.map_some, Option.map_some, clearLast_of_short hlen]

theorem foldl_maskWords_exact (l : List CString)
    (h : ∀ text ∈ l, 0 ≤ atoi text ∧ atoi text ≤ 128 ∧ 4 ∣ atoi text) :
    Exact ((l.getLast?.map fun text => (atoi text).toNat).getD 0)
      (Netlink.words (l.foldl (fun mask text => maskWords (atoi text) mask) .zero)) := by
  induction l using List.reverseRecOn with
  | nil =>
      rw [exact_iff]
      intro i k hk
      change (Netlink.words .zero i).getLsbD k = decide (32 - 1 - k < 0 - 32 * i.val)
      rw [decide_eq_false (by omega)]
      revert i k
      decide
  | append_singleton l text _ =>
      obtain ⟨hpos, hle, hdvd⟩ := h text (List.mem_append_right _ List.mem_cons_self)
      rw [List.foldl_append, List.getLast?_concat]
      obtain ⟨n, hn⟩ := Int.eq_ofNat_of_zero_le hpos
      change Exact (atoi text).toNat (Netlink.words (maskWords (atoi text) _))
      rw [hn] at hle hdvd ⊢
      have hexact := (Netlink.lengthWords_exact (by omega)
        (fun mem i => Netlink.lengthWord (n - 32 * i.val) (mem i)) fun _ _ => rfl).1.mpr
          (Int.natCast_dvd_natCast.mp hdvd)
      have hwords := hexact (Netlink.words
        (l.foldl (fun mask text => maskWords (atoi text) mask) .zero))
      rw [Int.toNat_natCast]
      convert hwords using 1
      funext i
      exact Netlink.maskWords_length n _ i

variable (ip6Addr) in
theorem addressV6_entryOf (hread : AddressesRead libc fs) (side : Side) :
    addressV6 libc side fs = some (side.addrV6 (entryOf libc ip6Addr fs).attrib) := by
  rw [(setBy_addrV6 libc ip6Addr side).last, addressV6]
  cases hfield : field (.ipAddress .v6 side) fs with
  | none => cases side <;> rfl
  | some text =>
      have hmem := mem_texts (field_mem_texts hfield)
      obtain ⟨addr, haddr⟩ := Option.isSome_iff_exists.mp (hread _ hmem text rfl)
      simp only [haddr, Option.map_some, Option.getD_some]

theorem addrMeets_iff (hwf : WellFormed iptype fs) (hread : AddressesRead libc fs)
    (hshort : ∀ v ∈ fs, v.copied < maxXmlStrLen) (side : Side) (p : Packet) :
    AddrMeets iptype side (entryOf libc ip6Addr fs).attrib p ↔
      AddressHeld libc iptype side fs p := by
  cases iptype with
  | v4 =>
      have haddr : side.addr (entryOf libc ip6Addr fs).attrib = addressV4 libc side fs := by
        rw [(setBy_addr libc ip6Addr side).last, map_clearLast hshort rfl fun text =>
          htonl (libc.inetAddr text)]
        cases side <;> rfl
      have hmask : side.addrMask (entryOf libc ip6Addr fs).attrib = subnetMaskV4 libc side fs := by
        rw [(setBy_addrMask libc ip6Addr side).last, map_clearLast hshort rfl fun text =>
          htonl (libc.inetAddr text)]
        cases side <;> rfl
      rw [AddrMeets, AddressHeld, haddr, hmask]
  | v6 =>
      have hmask : Exact (prefixLength side fs)
          (Netlink.words (side.addrMaskV6 (entryOf libc ip6Addr fs).attrib)) := by
        rw [(setBy_addrMaskV6 libc ip6Addr side).fold]
        cases side with
        | source => exact foldl_maskWords_exact _ (hwf.prefixes .source)
        | destination => exact foldl_maskWords_exact _ (hwf.prefixes .destination)
      simp only [AddrMeets, AddressHeld, addressV6_entryOf ip6Addr hread,
        Option.mem_some_iff, exists_eq_left']
      exact decide_eq_true_iff.trans (hmask _ _)

theorem toNat_ofInt_byte {n : Nat} (hn : n < 256) : (UInt8.ofInt (n : Int)).toNat = n := by
  rw [UInt8.ofInt, UInt8.toNat_ofNat']
  omega

theorem toNat_ofInt_port {n : Nat} (hn : n < 65536) : (UInt16.ofInt (n : Int)).toNat = n := by
  rw [UInt16.ofInt, UInt16.toNat_ofNat']
  omega

theorem means_iff {number : Int} (hpos : 0 ≤ number) (hle : number ≤ 255) (actual : UInt8) :
    Reading.means (UInt8.ofInt number) actual = true ↔ ProtocolHeld number actual := by
  obtain ⟨n, rfl⟩ := Int.eq_ofNat_of_zero_le hpos
  have hnat := toNat_ofInt_byte (n := n) (by omega)
  have heq : ∀ b : UInt8, (b = UInt8.ofInt (n : Int) ↔ (b.toNat : Int) = n) := by
    intro b
    rw [← UInt8.toNat_inj, hnat, Int.ofNat_inj]
  have htcpUdp : UInt8.ofInt (n : Int) = ipprotoTcpUdp ↔ (n : Int) = ipprotoTcpUdp.toNat := by
    rw [eq_comm, heq, eq_comm]
  rw [Reading.means, ProtocolHeld]
  rcases Classical.em ((n : Int) = ipprotoTcpUdp.toNat) with h | h
  · rw [if_pos (htcpUdp.mpr h), if_pos h, Bool.or_eq_true, decide_eq_true_iff, decide_eq_true_iff]
  · rw [if_neg (mt htcpUdp.mp h), if_neg h, decide_eq_true_iff, heq]

theorem mem_portFlt {side : Side} : side.portFlt ∈ (entryOf libc ip6Addr fs).attrib.attribMask ↔
    .range 0 ∈ portFields side fs := by
  rw [mem_entryOf, portFields, List.mem_filterMap]
  simp only [flt_range.1]

theorem mem_rangeFlt {side : Side} : side.rangeFlt ∈ (entryOf libc ip6Addr fs).attrib.attribMask ↔
    ∃ value ≠ 0, .range value ∈ portFields side fs := by
  rw [mem_entryOf]
  simp only [flt_range.2, portFields, List.mem_filterMap]
  constructor
  · rintro ⟨v, hv, value, hne, hvalue⟩
    exact ⟨value, hne, v, hv, hvalue⟩
  · rintro ⟨value, hne, v, hv, hvalue⟩
    exact ⟨v, hv, value, hne, hvalue⟩

theorem portMeets_nil {side : Side} (h : portFields side fs = []) (actual : UInt16) :
    PortMeets side (entryOf libc ip6Addr fs).attrib actual := by
  rw [PortMeets, mem_portFlt, mem_rangeFlt, h]
  refine ⟨fun hmem => absurd hmem List.not_mem_nil, ?_⟩
  rintro ⟨value, _, hmem⟩
  exact absurd hmem List.not_mem_nil

theorem portMeets_iff {side : Side} {port range : Nat} (hport : port ≤ 65535)
    (hrange : range ≤ 65535)
    (h : portFields side fs = [.port port, .range range]) (actual : UInt16) :
    PortMeets side (entryOf libc ip6Addr fs).attrib actual ↔
      port ≤ actual.toNat ∧ actual.toNat ≤ (port + range) % 65536 := by
  have hstate := (setBy_ports libc ip6Addr side).fold fs
  change side.ports (entryOf libc ip6Addr fs).attrib = (portFields side fs).foldl _ _ at hstate
  rw [h] at hstate
  have hnat := toNat_ofInt_port (n := port) (by omega)
  rw [PortMeets, mem_portFlt, mem_rangeFlt, hstate, h]
  rcases Nat.eq_zero_or_pos range with rfl | hpos
  · -- the port alone
    have hflt : PortField.range 0 ∈ [PortField.port port, PortField.range ((0 : Nat) : Int)] := by
      simp
    have hno : ¬ ∃ value ≠ 0, PortField.range value ∈
        [PortField.port port, PortField.range ((0 : Nat) : Int)] := by
      simp
    change (_ → actual = UInt16.ofInt port) ∧ _ ↔ _
    rw [← UInt16.toNat_inj, hnat, Nat.add_zero, Nat.mod_eq_of_lt (by omega)]
    constructor
    · rintro ⟨heq, _⟩
      have heq := heq hflt
      omega
    · intro hbounds
      exact ⟨fun _ => by omega, fun hex => absurd hex hno⟩
  · have hne : (range : Int) ≠ 0 := by omega
    have hflt : ∃ value ≠ 0, PortField.range value ∈
        [PortField.port port, PortField.range (range : Int)] := ⟨range, hne, by simp⟩
    have hno : PortField.range 0 ∉ [PortField.port port, PortField.range (range : Int)] := by
      simp [hne.symm]
    have hstate' : [PortField.port port, PortField.range (range : Int)].foldl PortState.after
        (side.ports RuleAttrib.zero) =
          ⟨0, UInt16.ofInt port, UInt16.ofInt port + UInt16.ofInt range⟩ := by
      simp only [List.foldl_cons, List.foldl_nil, PortState.after, if_pos hne]
    have hhi : (UInt16.ofInt (port : Int) + UInt16.ofInt (range : Int)).toNat =
        (port + range) % 65536 := by
      rw [UInt16.toNat_add, hnat, toNat_ofInt_port (by omega)]
    change _ ∧ (_ → (List.foldl PortState.after (side.ports RuleAttrib.zero) _).lo ≤ actual ∧
      actual ≤ (List.foldl PortState.after (side.ports RuleAttrib.zero) _).hi) ↔ _
    rw [hstate', UInt16.le_iff_toNat_le, UInt16.le_iff_toNat_le, hnat, hhi]
    constructor
    · rintro ⟨_, hbounds⟩
      exact hbounds hflt
    · intro hbounds
      exact ⟨fun hmem => absurd hmem hno, fun _ => hbounds⟩

theorem foreignFlt_of_mem (hwf : WellFormed iptype fs) {f : Flt}
    (hf : f ∈ (entryOf libc ip6Addr fs).attrib.attribMask) : foreignFlt iptype f = false := by
  have hfamily : ∀ t tag, tag.family = some t → (∃ v ∈ fs, v.tag = tag) → t = iptype := by
    rintro t tag htag ⟨v, hv, rfl⟩
    exact hwf.family v hv t htag
  have hservice : ∀ t, serviceFlt t ∈ (entryOf libc ip6Addr fs).attrib.attribMask → t = iptype := by
    intro t ht
    rw [mem_entryOf] at ht
    simp only [flt_service] at ht
    exact hfamily t (.service t) (by cases t <;> rfl) ht
  have hprotocol : ∀ t, protocolFlt t ∈ (entryOf libc ip6Addr fs).attrib.attribMask →
      t = iptype := by
    intro t ht
    rw [mem_entryOf_field (by cases t <;> rfl) fieldFlt_protocol] at ht
    obtain ⟨text, htext⟩ := ht
    exact hfamily t (.nextHeader t) (by cases t <;> rfl)
      ⟨_, mem_texts (field_mem_texts htext), rfl⟩
  cases iptype with
  | v4 =>
      cases f with
      | tc => cases hservice .v6 hf
      | nextHdr => cases hprotocol .v6 hf
      | _ => rfl
  | v6 =>
      cases f with
      | tos => cases hservice .v4 hf
      | protocol => cases hprotocol .v4 hf
      | _ => rfl

theorem mem_addrFlt (hwf : WellFormed iptype fs) {side : Side} :
    side.addrFlt ∈ (entryOf libc ip6Addr fs).attrib.attribMask ↔
      ∃ v ∈ fs, v.tag = .address iptype side := by
  rw [mem_entryOf]
  simp only [flt_addr]
  constructor
  · rintro ⟨v, hv, t, ht⟩
    have hfamily := hwf.family v hv t (by rw [ht]; rfl)
    subst hfamily
    exact ⟨v, hv, ht⟩
  · rintro ⟨v, hv, ht⟩
    exact ⟨v, hv, iptype, ht⟩

/-- The ports of a packet are in the ranges of the element. -/
def PortsHeld (fs : List FirewallVisit) (p : Packet) : Prop :=
  ∀ side port range, portFields side fs = [.port port, .range range] →
    port ≤ (p.port side).toNat ∧ ((p.port side).toNat : Int) ≤ port + range

theorem satisfies_iff (hwf : WellFormed iptype fs) (hread : AddressesRead libc fs)
    (hshort : ∀ v ∈ fs, v.copied < maxXmlStrLen) (p : Packet) :
    Satisfies libc iptype fs p ↔
      HeadersMeet iptype (entryOf libc ip6Addr fs).attrib p ∧ PortsHeld fs p := by
  have hservice : serviceOf iptype (entryOf libc ip6Addr fs).attrib = serviceByte iptype fs := by
    rw [(setBy_service libc ip6Addr iptype).fold, serviceByte]
    cases iptype <;> rfl
  have hfield : ∀ {β : Type} {t : FirewallTag} {g : RuleAttrib → β} {val : CString → β} {text},
      SetBy libc ip6Addr (FirewallVisit.textOf t) g (fun _ => val) → field t fs = some text →
        g (entryOf libc ip6Addr fs).attrib = val text := by
    intro β t g val text hset htext
    rw [hset.last, htext]
    rfl
  have hmem : ∀ {t : FirewallTag} {f : Flt}, ofGroup f = false →
      (∀ tag text, fieldFlt tag text = some f ↔ tag = t) →
        (f ∈ (entryOf libc ip6Addr fs).attrib.attribMask ↔ ∃ text, field t fs = some text) :=
    fun hf ht => mem_entryOf_field hf ht
  constructor
  · intro h
    refine ⟨?_, h.ports⟩
    constructor
    · intro side hside
      exact (addrMeets_iff hwf hread hshort side p).mpr
        (h.address side ((mem_addrFlt hwf).mp hside))
    · intro hprotocol
      obtain ⟨text, htext⟩ := (hmem (by cases iptype <;> rfl) fieldFlt_protocol).mp hprotocol
      obtain ⟨hpos, hle⟩ := hwf.protocol text htext
      have hvalue := hfield (setBy_protocol libc ip6Addr iptype) htext
      rw [hvalue, means_iff hpos hle]
      exact h.protocol text htext
    · intro hflt
      rw [mem_entryOf] at hflt
      simp only [flt_service] at hflt
      rw [hservice]
      exact h.service hflt
    · intro hflt
      obtain ⟨text, htext⟩ := (hmem rfl fieldFlt_type).mp hflt
      rw [hfield (setBy_type libc ip6Addr) htext]
      exact h.type text htext
    · intro hflt
      obtain ⟨text, htext⟩ := (hmem rfl fieldFlt_code).mp hflt
      rw [hfield (setBy_code libc ip6Addr) htext]
      exact h.code text htext
    · intro hflt
      obtain ⟨text, htext⟩ := (hmem rfl fieldFlt_spi).mp hflt
      rw [hfield (setBy_spi libc ip6Addr) htext]
      exact h.spi text htext
  · rintro ⟨h, hports⟩
    constructor
    · intro side hside
      exact (addrMeets_iff hwf hread hshort side p).mp
        (h.address side ((mem_addrFlt hwf).mpr hside))
    · intro text htext
      obtain ⟨hpos, hle⟩ := hwf.protocol text htext
      rw [← means_iff hpos hle, ← hfield (setBy_protocol libc ip6Addr iptype) htext]
      exact h.protocol ((hmem (by cases iptype <;> rfl) fieldFlt_protocol).mpr ⟨text, htext⟩)
    · exact hports
    · intro hflt
      rw [← hservice]
      refine h.service ?_
      rw [mem_entryOf]
      simp only [flt_service]
      exact hflt
    · intro text htext
      rw [← hfield (setBy_type libc ip6Addr) htext]
      exact h.type ((hmem rfl fieldFlt_type).mpr ⟨text, htext⟩)
    · intro text htext
      rw [← hfield (setBy_code libc ip6Addr) htext]
      exact h.code ((hmem rfl fieldFlt_code).mpr ⟨text, htext⟩)
    · intro text htext
      rw [← hfield (setBy_spi libc ip6Addr) htext]
      exact h.spi ((hmem rfl fieldFlt_spi).mpr ⟨text, htext⟩)

/-- The port that stands first on a side. -/
def firstPort (side : Side) (fs : List FirewallVisit) : UInt16 :=
  match portFields side fs with
  | .port port :: _ => UInt16.ofInt port
  | _ => 0

/-- A protocol that a protocol number stands for. -/
def protocolMeant (protocol : UInt8) : UInt8 :=
  if protocol = ipprotoTcpUdp then IpaNat.ipprotoTcp else protocol

theorem means_protocolMeant (protocol : UInt8) :
    Reading.means protocol (protocolMeant protocol) = true := by
  rw [Reading.means, protocolMeant]
  split
  · rfl
  · exact decide_eq_true rfl

/-- The packet with the very values of an element. -/
def ownPacket (libc : Libc) (ip6Addr : Ipv6Addr) (fs : List FirewallVisit) : Packet :=
  let a := (entryOf libc ip6Addr fs).attrib
  { tos := a.v4.tos
    protocol := protocolMeant a.v4.protocol
    srcAddr := a.v4.srcAddr
    dstAddr := a.v4.dstAddr
    tc := a.v6.tc
    nextHdr := protocolMeant a.v6.nextHdr
    srcAddrV6 := a.v6.srcAddr
    dstAddrV6 := a.v6.dstAddr
    srcPort := firstPort .source fs
    dstPort := firstPort .destination fs
    type := a.type
    code := a.code
    spi := a.spi
    metaData := a.metaData }

theorem ownPacket_headersMeet :
    HeadersMeet iptype (entryOf libc ip6Addr fs).attrib (ownPacket libc ip6Addr fs) := by
  constructor
  · intro side _
    cases iptype with
    | v4 => cases side <;> rfl
    | v6 => cases side <;> exact decide_eq_true fun _ => rfl
  · intro _
    cases iptype <;> exact means_protocolMeant _
  · intro _
    cases iptype <;> rfl
  · exact fun _ => rfl
  · exact fun _ => rfl
  · exact fun _ => rfl

theorem port_ownPacket (side : Side) :
    (ownPacket libc ip6Addr fs).port side = firstPort side fs := by
  cases side <;> rfl

theorem portFields_eq (hwf : WellFormed iptype fs) {side : Side} {port range : Int}
    (h : portFields side fs = [.port port, .range range]) :
    ∃ m n : Nat, port = m ∧ range = n ∧ m ≤ 65535 ∧ n ≤ 65535 := by
  rcases hwf.ports side with hnil | ⟨port', range', heq, ⟨hport, hport'⟩, hrange, hrange'⟩
  · rw [hnil] at h
    cases h
  · rw [heq] at h
    cases h
    obtain ⟨m, rfl⟩ := Int.eq_ofNat_of_zero_le hport
    obtain ⟨n, rfl⟩ := Int.eq_ofNat_of_zero_le hrange
    exact ⟨m, n, rfl, rfl, by omega, by omega⟩

theorem ownPacket_portsHeld (libc : Libc) (ip6Addr : Ipv6Addr) (hwf : WellFormed iptype fs) :
    PortsHeld fs (ownPacket libc ip6Addr fs) := by
  intro side port range h
  obtain ⟨m, n, rfl, rfl, hm, hn⟩ := portFields_eq hwf h
  have hport : (firstPort side fs).toNat = m := by
    rw [firstPort, h]
    exact toNat_ofInt_port (by omega)
  rw [port_ownPacket, hport]
  omega

/-- An entry matches as its element asks if no range goes past the last port,
and only then. -/
theorem matchesEntry_exact (hwf : WellFormed iptype fs) (hread : AddressesRead libc fs)
    (hshort : ∀ v ∈ fs, v.copied < maxXmlStrLen) :
    (∀ p, packetReading.matchesEntry iptype (entryOf libc ip6Addr fs) p = true ↔
        Satisfies libc iptype fs p) ↔ RangesFit fs := by
  have hmatch : ∀ p, packetReading.matchesEntry iptype (entryOf libc ip6Addr fs) p = true ↔ _ :=
    fun p => matchesEntry_iff fun f hf => foreignFlt_of_mem hwf hf
  constructor
  · intro hall side port range h
    have hown := (satisfies_iff hwf hread hshort (ownPacket libc ip6Addr fs)).mpr
      ⟨ownPacket_headersMeet, ownPacket_portsHeld _ _ hwf⟩
    obtain ⟨_, hports⟩ := (hmatch _).mp ((hall _).mpr hown)
    obtain ⟨hlow, -⟩ := ownPacket_portsHeld libc ip6Addr hwf side port range h
    obtain ⟨m, n, rfl, rfl, hm, hn⟩ := portFields_eq hwf h
    -- the packet with the port itself is below a bound that wrapped
    have hbounds := (portMeets_iff hm hn h _).mp (hports side)
    omega
  · intro hfit p
    rw [hmatch, satisfies_iff hwf hread hshort]
    refine and_congr_right fun _ => forall_congr' fun side => ?_
    constructor
    · intro hmeets port range h
      obtain ⟨m, n, rfl, rfl, hm, hn⟩ := portFields_eq hwf h
      have hsum := hfit side m n h
      have hbounds := (portMeets_iff hm hn h _).mp hmeets
      rw [Nat.mod_eq_of_lt (by omega)] at hbounds
      omega
    · intro hheld
      rcases hwf.ports side with hnil | ⟨port, range, h, -⟩
      · exact portMeets_nil hnil _
      · have hbounds := hheld port range h
        obtain ⟨m, n, rfl, rfl, hm, hn⟩ := portFields_eq hwf h
        have hsum := hfit side m n h
        rw [portMeets_iff hm hn h, Nat.mod_eq_of_lt (by omega)]
        omega

end

theorem visitEntry_ipVsn (libc : Libc) (ip6Addr : Ipv6Addr) (e : ExtdFirewallEntry)
    (v : FirewallVisit) :
    (visitEntry libc ip6Addr e v).ipVsn = (v.textOf .ipFamily).elim e.ipVsn atoi := by
  obtain ⟨tag, content⟩ := v
  cases tag with
  | address iptype side => cases side <;> cases content <;> rfl
  | _ => cases content <;> rfl

theorem entryOf_ipVsn (libc : Libc) (ip6Addr : Ipv6Addr) (fs : List FirewallVisit) :
    (entryOf libc ip6Addr fs).ipVsn = ((field .ipFamily fs).map atoi).getD 0 := by
  rw [entryOf, foldl_view (k := fun _ text => atoi text) (visitEntry_ipVsn libc ip6Addr),
    foldl_last]
  rfl

theorem firewallVisits_of_firewalls {root children : XmlNode} (h : children ∈ firewalls root)
    {v : FirewallVisit} (hv : v ∈ firewallVisits children) : v ∈ firewallVisits root := by
  induction root with
  | null => cases h
  | node label inside next ihInside ihNext =>
      rw [firewallVisits_node]
      rw [firewalls] at h
      cases hvisit : firewallVisit label inside with
      | none =>
          rw [hvisit] at h
          exact ihNext h
      | some w =>
          simp only [hvisit] at h ⊢
          refine List.mem_cons_of_mem _ (List.mem_append.mpr ?_)
          split at h
          · next htag =>
              have hdescends : w.tag.descends = true := by
                rw [htag]
                rfl
              rw [if_pos hdescends]
              rcases List.mem_cons.mp h with rfl | h
              · exact Or.inl hv
              · exact Or.inr (ihNext h)
          · split at h
            · next hdescends =>
                rw [if_pos hdescends]
                rcases List.mem_append.mp h with h | h
                · exact Or.inl (ihInside h)
                · exact Or.inr (ihNext h)
            · exact Or.inr (ihNext h)

/-- Entry `k` is what the `k`-th `Firewall` element alone makes, whatever is on the stack, and
it matches the packets that meet the conditions of that element. -/
def EntryHeld (libc : Libc) (iptype : IpType) (root : XmlNode) (k : Nat)
    (fs : List FirewallVisit) : Prop :=
  ∃ e, (∀ stack config, readFirewallXml libc stack root = some config →
      config.extdFirewallEntries k = e) ∧
    (∀ ip6Addr, entryOf libc ip6Addr fs = e) ∧
    e.ipVsn = ipVsn iptype ∧
    ∀ p, packetReading.matchesEntry iptype e p = true ↔ Satisfies libc iptype fs p

theorem addressesRead_of_texts (h : ∀ side, ∀ text ∈ texts (.ipAddress .v6 side) fs,
    (libc.inetPton text).isSome = true) : AddressesRead libc fs := by
  rintro ⟨tag, content⟩ hv text htext
  cases tag with
  | ipAddress iptype side =>
      cases iptype with
      | v4 => cases htext
      | v6 => exact h side text (List.mem_filterMap.mpr ⟨_, hv, (if_pos rfl).trans htext⟩)
  | _ => cases htext

theorem addrV6_of_rejected (hwf : WellFormed iptype fs) {side : Side} {text : CString}
    (htext : text ∈ texts (.ipAddress .v6 side) fs) (hnone : libc.inetPton text = none)
    (ip6Addr : Ipv6Addr) :
    side.addrV6 (entryOf libc ip6Addr fs).attrib = Ipv6Addr.htonl ip6Addr := by
  have hone : texts (.ipAddress .v6 side) fs = [text] := by
    obtain ⟨text', htext'⟩ := List.length_eq_one_iff.mp
      (Nat.le_antisymm (hwf.addresses side) (List.length_pos_of_mem htext))
    rw [htext', List.mem_singleton] at htext
    rw [htext', htext]
  rw [(setBy_addrV6 libc ip6Addr side).last, field, hone]
  simp only [List.getLast?_singleton, Option.map_some, Option.getD_some, hnone, Option.getD_none]

theorem addressesRead_of_entryHeld {root : XmlNode} (hnested : Nested root)
    (hroom : (firewalls root).length ≤ maxFirewallEntries)
    (hcopied : ∀ v ∈ firewallVisits root, v.copied ≤ maxXmlStrLen) {k : Nat}
    (hk : k < (firewalls root).length)
    (hwf : WellFormed iptype (firewallVisits (firewalls root)[k]))
    (hsep : Separate (firewalls root)[k])
    (h : EntryHeld libc iptype root k (firewallVisits (firewalls root)[k])) :
    AddressesRead libc (firewallVisits (firewalls root)[k]) := by
  obtain ⟨e, hsame, -⟩ := h
  have hconst : ∀ a, entryOf libc a (firewallVisits (firewalls root)[k]) = e := by
    intro a
    obtain ⟨config, hread, -, hentries⟩ :=
      readFirewallXml_nested libc (fun _ => a) hnested hroom hcopied
    rw [← hsame _ config hread]
    exact (hentries k hk a (Or.inr ⟨fun _ => rfl, hsep⟩)).symm
  refine addressesRead_of_texts fun side text htext => ?_
  rw [Option.isSome_iff_ne_none]
  intro hnone
  have haddr : ∀ a : Ipv6Addr, side.addrV6 e.attrib = Ipv6Addr.htonl a := by
    intro a
    rw [← hconst a]
    exact addrV6_of_rejected hwf htext hnone a
  have hzero := (haddr .zero).symm.trans (haddr ⟨1, 1, 1, 1⟩)
  revert hzero
  decide

/-- A file of at most fifty `Firewall` elements gives one entry for each, in
document order; an element whose addresses are accepted makes its entry alone; and
the entry of a well-formed element is held to it exactly if moreover its ranges fit. -/
theorem readFirewallXml_exact (libc : Libc) (root : XmlNode) (hnested : Nested root)
    (hroom : (firewalls root).length ≤ maxFirewallEntries)
    (hshort : ∀ v ∈ firewallVisits root, v.copied < maxXmlStrLen) :
    (∀ stack, ∃ config, readFirewallXml libc stack root = some config ∧
      config.numExtdFirewallEntries.toNat = (firewalls root).length ∧
      ∀ k (hk : k < (firewalls root).length),
        AddressesRead libc (firewallVisits (firewalls root)[k]) → ∀ ip6Addr,
          config.extdFirewallEntries k =
            entryOf libc ip6Addr (firewallVisits (firewalls root)[k])) ∧
    ∀ k (hk : k < (firewalls root).length), ∀ iptype,
      WellFormed iptype (firewallVisits (firewalls root)[k]) → Separate (firewalls root)[k] →
        (EntryHeld libc iptype root k (firewallVisits (firewalls root)[k]) ↔
          AddressesRead libc (firewallVisits (firewalls root)[k]) ∧
            RangesFit (firewallVisits (firewalls root)[k])) := by
  have hcopied : ∀ v ∈ firewallVisits root, v.copied ≤ maxXmlStrLen := fun v hv => (hshort v hv).le
  constructor
  · intro stack
    obtain ⟨config, hread, hnum, hentries⟩ :=
      readFirewallXml_nested libc stack hnested hroom hcopied
    exact ⟨config, hread, hnum, fun k hk haddrs a => hentries k hk a (Or.inl haddrs)⟩
  · intro k hk iptype hwf hsep
    have hexact := fun hread => @matchesEntry_exact libc .zero _ _ hwf hread
      fun v hv => hshort v (firewallVisits_of_firewalls (List.getElem_mem hk) hv)
    constructor
    · intro h
      have haddrs := addressesRead_of_entryHeld hnested hroom hcopied hk hwf hsep h
      obtain ⟨e, -, hentry, -, hmatch⟩ := h
      refine ⟨haddrs, (hexact haddrs).mp ?_⟩
      rw [hentry]
      exact hmatch
    · rintro ⟨haddrs, hfit⟩
      have hentry : ∀ stack config, readFirewallXml libc stack root = some config → ∀ a,
          config.extdFirewallEntries k =
            entryOf libc a (firewallVisits (firewalls root)[k]) := by
        intro stack config hread a
        obtain ⟨config', hread', -, hentries⟩ :=
          readFirewallXml_nested libc stack hnested hroom hcopied
        cases hread.symm.trans hread'
        exact hentries k hk a (Or.inl haddrs)
      obtain ⟨config, hread, -⟩ := readFirewallXml_nested libc (fun _ => .zero)
        hnested hroom hcopied
      refine ⟨entryOf libc .zero (firewallVisits (firewalls root)[k]), ?_, ?_, ?_, ?_⟩
      · exact fun stack config hread => hentry stack config hread .zero
      · exact fun a => (hentry _ config hread a).symm.trans (hentry _ config hread .zero)
      · rw [entryOf_ipVsn, hwf.version]
        rfl
      · exact (hexact haddrs).mpr hfit

/-- A node with the sibling after it. -/
def followedBy : XmlNode → XmlNode → XmlNode
  | .null, next => next
  | .node label children _, next => .node label children next

/-- The fields of an element with one source port. -/
def tcpSource (port range : CString) : XmlNode :=
  followedBy (element "IPFamily".toList (textNode "4".toList))
    (element "TCPSource".toList
      (followedBy (element "TCPSourcePort".toList (textNode port))
        (element "TCPSourceRange".toList (textNode range))))

def tcpSourceFile (port range : CString) : XmlNode :=
  element "system".toList (element "Firewall".toList (tcpSource port range))

theorem firewallVisits_element {name : CString} {children : XmlNode} {v : FirewallVisit}
    (h : firewallVisit ⟨.element, some name, none⟩ children = some v) :
    firewallVisits (element name children) =
      v :: if v.tag.descends then firewallVisits children else [] := by
  rw [element, firewallVisits_node, h]
  simp only [firewallVisits, ElementTree.elements, List.append_nil]

theorem firewallVisits_tcpSource (port range : CString) :
    firewallVisits (tcpSource port range) =
      [⟨.ipFamily, some "4".toList⟩, ⟨.ports .tcp .source, none⟩,
        ⟨.port .tcp .source, some port⟩, ⟨.range .tcp .source, some range⟩] := by
  rfl

theorem portFields_tcpSource (port range : CString) :
    portFields .source (firewallVisits (tcpSource port range)) =
      [.port (atoi port), .range (atoi range)] := by
  rw [firewallVisits_tcpSource]
  rfl

theorem wellFormed_tcpSource {port range : CString} (hport : 0 ≤ atoi port ∧ atoi port ≤ 65535)
    (hrange : 0 ≤ atoi range ∧ atoi range ≤ 65535) :
    WellFormed .v4 (firewallVisits (tcpSource port range)) where
  version := by
    rw [firewallVisits_tcpSource]
    rfl
  family := by
    intro v hv t ht
    rw [firewallVisits_tcpSource] at hv
    simp only [List.mem_cons, List.not_mem_nil, or_false] at hv
    rcases hv with rfl | rfl | rfl | rfl <;> cases ht
  protocol := by
    intro text htext
    rw [firewallVisits_tcpSource] at htext
    cases htext
  prefixes := by
    intro side text htext
    rw [firewallVisits_tcpSource] at htext
    cases side <;> cases htext
  addresses := by
    intro side
    rw [firewallVisits_tcpSource]
    exact Nat.zero_le 1
  ports := by
    intro side
    cases side with
    | source => exact Or.inr ⟨_, _, portFields_tcpSource port range, hport, hrange⟩
    | destination =>
        rw [firewallVisits_tcpSource]
        exact Or.inl rfl

theorem nested_tcpSourceFile (port range : CString) : Nested (tcpSourceFile port range) := by
  refine ⟨⟨rfl, fun _ => ⟨?_, trivial⟩⟩, trivial⟩
  change ∀ w ∈ firewallVisits (tcpSource port range), w.tag ≠ .firewall
  rw [firewallVisits_tcpSource]
  simp

theorem firewallVisits_tcpSourceFile (port range : CString) :
    firewallVisits (tcpSourceFile port range) =
      ⟨.system, none⟩ :: ⟨.firewall, none⟩ :: firewallVisits (tcpSource port range) := by
  rw [tcpSourceFile, firewallVisits_element (v := ⟨.system, none⟩) (by rfl),
    firewallVisits_element (v := ⟨.firewall, none⟩) (by rfl)]
  rfl

theorem copied_tcpSourceFile {port range : CString} (hport : port.length < maxXmlStrLen)
    (hrange : range.length < maxXmlStrLen) :
    ∀ v ∈ firewallVisits (tcpSourceFile port range), v.copied < maxXmlStrLen := by
  intro v hv
  rw [firewallVisits_tcpSourceFile, firewallVisits_tcpSource] at hv
  simp only [List.mem_cons, List.not_mem_nil, or_false] at hv
  rcases hv with rfl | rfl | rfl | rfl | rfl | rfl
  · decide
  · decide
  · decide
  · decide
  · exact hport
  · exact hrange

theorem addressesRead_tcpSource (libc : Libc) (port range : CString) :
    AddressesRead libc (firewallVisits (tcpSource port range)) := by
  apply addressesRead_of_texts
  intro side text htext
  rw [firewallVisits_tcpSource] at htext
  cases side <;> cases htext

theorem readFirewallXml_exact_http :
    EntryHeld noLibc .v4 (tcpSourceFile "80".toList "10".toList) 0
      (firewallVisits (tcpSource "80".toList "10".toList)) := by
  have hexact := (readFirewallXml_exact noLibc (tcpSourceFile "80".toList "10".toList)
    (nested_tcpSourceFile _ _) (by decide) (copied_tcpSourceFile (by decide) (by decide))).2
  refine (hexact 0 Nat.one_pos .v4 ?_ ?_).mpr ⟨addressesRead_tcpSource _ _ _, ?_⟩
  · exact wellFormed_tcpSource (by decide) (by decide)
  · exact ⟨⟨Or.inl rfl, fun h => (by cases h)⟩,
      ⟨Or.inl rfl, fun _ => ⟨⟨Or.inl rfl, fun h => (by cases h)⟩,
      ⟨Or.inl rfl, fun h => (by cases h)⟩, trivial⟩⟩, trivial⟩
  · intro side port range h
    cases side with
    | source =>
        change portFields .source (firewallVisits (tcpSource _ _)) = _ at h
        rw [portFields_tcpSource] at h
        cases h
        decide
    | destination =>
        change portFields .destination (firewallVisits (tcpSource _ _)) = _ at h
        rw [firewallVisits_tcpSource] at h
        cases h

/-- An element with a text that is no IPv6 address. -/
def badAddressFile : XmlNode :=
  element "system".toList (element "Firewall".toList
    (followedBy (element "IPFamily".toList (textNode "6".toList))
      (element "IPV6SourceAddress".toList
        (element "IPV6SourceIPAddress".toList (textNode "x".toList)))))

/-- A packet from the port 65000, the first of a range past the last port; and an address
that is rejected, which is read from the stack. -/
theorem readFirewallXml_misses :
    (∃ config, readFirewallXml noLibc (fun _ => .zero)
        (tcpSourceFile "65000".toList "1000".toList) = some config ∧
      ∃ p, Satisfies noLibc .v4 (firewallVisits (tcpSource "65000".toList "1000".toList)) p ∧
        packetReading.matchesEntry .v4 (config.extdFirewallEntries 0) p = false) ∧
    ∃ config config', readFirewallXml noLibc (fun _ => .zero) badAddressFile = some config ∧
      readFirewallXml noLibc (fun _ => ⟨1, 1, 1, 1⟩) badAddressFile = some config' ∧
        config.extdFirewallEntries 0 ≠ config'.extdFirewallEntries 0 := by
  constructor
  · have hshort : ∀ v ∈ firewallVisits (tcpSourceFile "65000".toList "1000".toList),
        v.copied < maxXmlStrLen := copied_tcpSourceFile (by decide) (by decide)
    obtain ⟨config, hread, -, hentries⟩ := readFirewallXml_nested noLibc (fun _ => .zero)
      (nested_tcpSourceFile "65000".toList "1000".toList) (by decide) fun v hv => (hshort v hv).le
    have hwf : WellFormed .v4 (firewallVisits (tcpSource "65000".toList "1000".toList)) :=
      wellFormed_tcpSource (by decide) (by decide)
    have haddrs := addressesRead_tcpSource noLibc "65000".toList "1000".toList
    refine ⟨config, hread,
      ownPacket noLibc .zero (firewallVisits (tcpSource "65000".toList "1000".toList)), ?_, ?_⟩
    · exact (satisfies_iff hwf haddrs (fun v hv => hshort v (List.mem_cons_of_mem _
        (List.mem_cons_of_mem _ hv))) _).mpr ⟨ownPacket_headersMeet, ownPacket_portsHeld _ _ hwf⟩
    · rw [hentries 0 Nat.one_pos .zero (Or.inl haddrs)]
      change packetReading.matchesEntry .v4
        (entryOf noLibc .zero (firewallVisits (tcpSource "65000".toList "1000".toList))) _ = false
      rw [firewallVisits_tcpSource]
      decide
  · have hsrc : ∀ addr : Ipv6Addr, addr = .zero ∨ addr = ⟨1, 1, 1, 1⟩ →
        (readFirewallXml noLibc (fun _ => addr) badAddressFile).map
          (fun config => (config.extdFirewallEntries 0).attrib.v6.srcAddr) =
            some (Ipv6Addr.htonl addr) := by
      rintro addr (rfl | rfl)
      · decide
      · decide
    obtain ⟨config, hread, hzero⟩ := Option.map_eq_some_iff.mp (hsrc _ (Or.inl rfl))
    obtain ⟨config', hread', hone⟩ := Option.map_eq_some_iff.mp (hsrc _ (Or.inr rfl))
    refine ⟨config, config', hread, hread', fun heq => ?_⟩
    rw [heq, hone] at hzero
    revert hzero
    decide

end LibraDevice.Xml
