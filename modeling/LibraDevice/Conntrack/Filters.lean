import Mathlib.Data.List.Basic

/-!
The conntrack filters of `IPACM_ConntrackClient`: what the announcement of a
local interface adds to the filter for UDP and to the one for TCP.
-/

namespace LibraDevice.Conntrack

/-- `NFCT_FILTER_SRC_IPV4` and `NFCT_FILTER_DST_IPV4`. -/
inductive FilterAttr
  | srcIpv4
  | dstIpv4
deriving DecidableEq

inductive FilterLogic
  | positive
  | negative
deriving DecidableEq

structure FilterEntry where
  attr : FilterAttr
  logic : FilterLogic
  addr : UInt32
  mask : UInt32
deriving DecidableEq

/-- A filter has one logic for each attribute. -/
structure NfctFilter where
  logic : FilterAttr → FilterLogic
  entries : List FilterEntry

/-- The data of `IPA_HANDLE_WLAN_UP` and `IPA_HANDLE_LAN_UP`, with the answers
to the look-ups of the bridge address during the two updates. -/
structure IfaceUp where
  ipv4Addr : UInt32
  addrMask : UInt32
  udpBridge : Option UInt32
  tcpBridge : Option UInt32

namespace NfctFilter

/-- `nfct_filter_create`. -/
def create : NfctFilter where
  logic := fun _ => .positive
  entries := []

/-- `nfct_filter_set_logic`. -/
def setLogic (f : NfctFilter) (attr : FilterAttr) (logic : FilterLogic) : NfctFilter :=
  { f with logic := fun a => if a = attr then logic else f.logic a }

/-- `nfct_filter_add_attr`. -/
def addAttr (f : NfctFilter) (attr : FilterAttr) (addr mask : UInt32) : NfctFilter :=
  { f with entries := f.entries ++ [⟨attr, f.logic attr, addr, mask⟩] }

/-- One pair of calls with `NFCT_FILTER_LOGIC_NEGATIVE` and a full mask. -/
def ignore (f : NfctFilter) (attr : FilterAttr) (addr : UInt32) : NfctFilter :=
  (f.setLogic attr .negative).addAttr attr addr 0xFFFFFFFF

/-- `IPA_Conntrack_Filters_Ignore_Bridge_Addrs`; without an address it returns
before it adds anything. -/
def ignoreBridgeAddrs (f : NfctFilter) (bridge : Option UInt32) : NfctFilter :=
  match bridge with
  | none => f
  | some addr => (f.ignore .dstIpv4 addr).ignore .srcIpv4 addr

def broadcast (param : IfaceUp) : UInt32 :=
  (0xFFFFFFFF &&& ~~~param.addrMask) ||| (param.ipv4Addr &&& param.addrMask)

/-- `IPA_Conntrack_Filters_Ignore_Local_Iface`. -/
def ignoreLocalIface (f : NfctFilter) (param : IfaceUp) : NfctFilter :=
  ((f.ignore .dstIpv4 param.ipv4Addr).ignore .srcIpv4 param.ipv4Addr).ignore .dstIpv4
    (broadcast param)

/-- `IPA_Conntrack_Filters_Ignore_Local_Addrs`. -/
def ignoreLocalAddrs (f : NfctFilter) : NfctFilter :=
  (f.ignore .dstIpv4 0xFFFFFFFF).ignore .srcIpv4 0xFFFFFFFF

end NfctFilter

/-- The filters of the client, and the static flags of the two updates. -/
structure CtFilters where
  udpFilter : NfctFilter
  tcpFilter : NfctFilter
  udpIsIgnore : Bool
  tcpIsIgnore : Bool

namespace CtFilters

def init : CtFilters where
  udpFilter := .create
  tcpFilter := .create
  udpIsIgnore := false
  tcpIsIgnore := false

def updateUDPFilters (s : CtFilters) (param : IfaceUp) (isWan : Bool) : CtFilters :=
  if isWan then s
  else
    let s' := { s with udpFilter := s.udpFilter.ignoreLocalIface param }
    if s'.udpIsIgnore then s'
    else
      { s' with
        udpFilter := (s'.udpFilter.ignoreBridgeAddrs param.udpBridge).ignoreLocalAddrs
        udpIsIgnore := true }

/-- What is added only once goes to `udp_filter` here too. -/
def updateTCPFilters (s : CtFilters) (param : IfaceUp) (isWan : Bool) : CtFilters :=
  if isWan then s
  else
    let s' := { s with tcpFilter := s.tcpFilter.ignoreLocalIface param }
    if s'.tcpIsIgnore then s'
    else
      { s' with
        udpFilter := (s'.udpFilter.ignoreBridgeAddrs param.tcpBridge).ignoreLocalAddrs
        tcpIsIgnore := true }

/-- `IPA_HANDLE_WLAN_UP` and `IPA_HANDLE_LAN_UP` in `event_callback`. -/
def ifaceUp (s : CtFilters) (param : IfaceUp) : CtFilters :=
  (s.updateUDPFilters param false).updateTCPFilters param false

end CtFilters

/-- A connection from or to the address is ignored. -/
def bothWays (addr : UInt32) : List FilterEntry :=
  [⟨.dstIpv4, .negative, addr, 0xFFFFFFFF⟩, ⟨.srcIpv4, .negative, addr, 0xFFFFFFFF⟩]

/-- The entries for one announced interface. -/
def localEntries (param : IfaceUp) : List FilterEntry :=
  bothWays param.ipv4Addr ++
    [⟨.dstIpv4, .negative, NfctFilter.broadcast param, 0xFFFFFFFF⟩]

/-- The bridge addresses found for the first announcement. -/
def bridgeAddrs (first : IfaceUp) : List UInt32 :=
  first.udpBridge.toList ++ first.tcpBridge.toList

/-- After the announcements both filters ignore the same, the announced
interfaces, 255.255.255.255 and the bridge among it. -/
structure IgnoreAlike (s : CtFilters) (first : IfaceUp) (rest : List IfaceUp) : Prop where
  same : ∀ e, e ∈ s.tcpFilter.entries ↔ e ∈ s.udpFilter.entries
  announced : ∀ param ∈ first :: rest, ∀ e ∈ localEntries param, e ∈ s.tcpFilter.entries
  everywhere : ∀ e ∈ bothWays 0xFFFFFFFF, e ∈ s.tcpFilter.entries
  bridge : ∀ addr ∈ bridgeAddrs first, ∀ e ∈ bothWays addr, e ∈ s.tcpFilter.entries

namespace NfctFilter

theorem entries_ignore (f : NfctFilter) (attr : FilterAttr) (addr : UInt32) :
    (f.ignore attr addr).entries =
      f.entries ++ [⟨attr, .negative, addr, 0xFFFFFFFF⟩] := by
  simp [ignore, addAttr, setLogic]

theorem entries_ignoreBridgeAddrs (f : NfctFilter) (bridge : Option UInt32) :
    (f.ignoreBridgeAddrs bridge).entries = f.entries ++ bridge.toList.flatMap bothWays := by
  rcases bridge with _ | addr
  · simp [ignoreBridgeAddrs]
  · simp [ignoreBridgeAddrs, entries_ignore, bothWays]

theorem entries_ignoreLocalIface (f : NfctFilter) (param : IfaceUp) :
    (f.ignoreLocalIface param).entries = f.entries ++ localEntries param := by
  simp [ignoreLocalIface, entries_ignore, localEntries, bothWays]

theorem entries_ignoreLocalAddrs (f : NfctFilter) :
    f.ignoreLocalAddrs.entries = f.entries ++ bothWays 0xFFFFFFFF := by
  simp [ignoreLocalAddrs, entries_ignore, bothWays]

end NfctFilter

namespace CtFilters

open NfctFilter

/-- The entries after some announcements. -/
structure Holds (s : CtFilters) (udp tcp : List FilterEntry) : Prop where
  udpIsIgnore : s.udpIsIgnore = true
  tcpIsIgnore : s.tcpIsIgnore = true
  udp : s.udpFilter.entries = udp
  tcp : s.tcpFilter.entries = tcp

theorem holds_first (first : IfaceUp) :
    Holds (init.ifaceUp first)
      (localEntries first ++ first.udpBridge.toList.flatMap bothWays ++ bothWays 0xFFFFFFFF ++
        first.tcpBridge.toList.flatMap bothWays ++ bothWays 0xFFFFFFFF)
      (localEntries first) where
  udpIsIgnore := rfl
  tcpIsIgnore := rfl
  udp := by
    simp [ifaceUp, updateUDPFilters, updateTCPFilters, init, create, entries_ignoreLocalAddrs,
      entries_ignoreBridgeAddrs, entries_ignoreLocalIface]
  tcp := by
    simp [ifaceUp, updateUDPFilters, updateTCPFilters, init, create, entries_ignoreLocalIface]

theorem Holds.ifaceUp {s : CtFilters} {udp tcp : List FilterEntry} (h : Holds s udp tcp)
    (param : IfaceUp) :
    Holds (s.ifaceUp param) (udp ++ localEntries param) (tcp ++ localEntries param) := by
  constructor
  · simp [CtFilters.ifaceUp, updateUDPFilters, updateTCPFilters, h.udpIsIgnore, h.tcpIsIgnore]
  · simp [CtFilters.ifaceUp, updateUDPFilters, updateTCPFilters, h.udpIsIgnore, h.tcpIsIgnore]
  · simp [CtFilters.ifaceUp, updateUDPFilters, updateTCPFilters, h.udpIsIgnore, h.tcpIsIgnore,
      entries_ignoreLocalIface, h.udp]
  · simp [CtFilters.ifaceUp, updateUDPFilters, updateTCPFilters, h.udpIsIgnore, h.tcpIsIgnore,
      entries_ignoreLocalIface, h.tcp]

theorem Holds.ifaceUps {s : CtFilters} {udp tcp : List FilterEntry} (h : Holds s udp tcp)
    (params : List IfaceUp) :
    Holds (params.foldl CtFilters.ifaceUp s) (udp ++ params.flatMap localEntries)
      (tcp ++ params.flatMap localEntries) := by
  induction params generalizing s udp tcp with
  | nil => simpa using h
  | cons param params ih =>
      have hrest := ih (h.ifaceUp param)
      rw [List.append_assoc, List.append_assoc] at hrest
      exact hrest

end CtFilters

/-- The state after a sequence of announcements. -/
def announce (first : IfaceUp) (rest : List IfaceUp) : CtFilters :=
  rest.foldl CtFilters.ifaceUp (CtFilters.init.ifaceUp first)

theorem tcp_entries (first : IfaceUp) (rest : List IfaceUp) :
    (announce first rest).tcpFilter.entries = (first :: rest).flatMap localEntries :=
  ((CtFilters.holds_first first).ifaceUps rest).tcp

theorem mem_udp_entries (first : IfaceUp) (rest : List IfaceUp) (e : FilterEntry) :
    e ∈ (announce first rest).udpFilter.entries ↔
      e ∈ (first :: rest).flatMap localEntries ∨ e ∈ bothWays 0xFFFFFFFF ∨
        e ∈ (bridgeAddrs first).flatMap bothWays := by
  rw [announce, ((CtFilters.holds_first first).ifaceUps rest).udp, bridgeAddrs,
    List.flatMap_append, List.flatMap_cons]
  simp only [List.mem_append]
  constructor
  · rintro (((((h | h) | h) | h) | h) | h)
    · exact Or.inl (Or.inl h)
    · exact Or.inr (Or.inr (Or.inl h))
    · exact Or.inr (Or.inl h)
    · exact Or.inr (Or.inr (Or.inr h))
    · exact Or.inr (Or.inl h)
    · exact Or.inl (Or.inr h)
  · rintro ((h | h) | h | h | h)
    · exact Or.inl (Or.inl (Or.inl (Or.inl (Or.inl h))))
    · exact Or.inr h
    · exact Or.inl (Or.inr h)
    · exact Or.inl (Or.inl (Or.inl (Or.inl (Or.inr h))))
    · exact Or.inl (Or.inl (Or.inr h))

/-- An address is ignored both ways exactly when it is the address of an
announced interface. -/
theorem bothWays_mem_iff (params : List IfaceUp) (addr : UInt32) :
    (∀ e ∈ bothWays addr, e ∈ params.flatMap localEntries) ↔
      ∃ param ∈ params, param.ipv4Addr = addr := by
  constructor
  · intro h
    have hsrc := h ⟨.srcIpv4, .negative, addr, 0xFFFFFFFF⟩ (by simp [bothWays])
    obtain ⟨param, hparam, hmem⟩ := List.mem_flatMap.mp hsrc
    simp only [localEntries, bothWays, List.cons_append, List.nil_append, List.mem_cons,
      FilterEntry.mk.injEq, List.not_mem_nil, or_false] at hmem
    rcases hmem with ⟨hattr, -⟩ | ⟨-, -, haddr, -⟩ | ⟨hattr, -⟩
    · exact absurd hattr (by decide)
    · exact ⟨param, hparam, haddr.symm⟩
    · exact absurd hattr (by decide)
  · rintro ⟨param, hparam, rfl⟩ e he
    exact List.mem_flatMap.mpr ⟨param, hparam, List.mem_append.mpr (Or.inl he)⟩

/-- After the announcements the filters are as expected exactly when
255.255.255.255 and each bridge address found are addresses of announced
interfaces. -/
theorem announce_ignoreAlike_iff (first : IfaceUp) (rest : List IfaceUp) :
    IgnoreAlike (announce first rest) first rest ↔
      ∀ addr ∈ 0xFFFFFFFF :: bridgeAddrs first, ∃ param ∈ first :: rest, param.ipv4Addr = addr := by
  constructor
  · intro h addr haddr
    rw [← bothWays_mem_iff, ← tcp_entries]
    rcases List.mem_cons.mp haddr with rfl | hbridge
    · exact h.everywhere
    · exact h.bridge addr hbridge
  · intro h
    have hall : ∀ addr ∈ 0xFFFFFFFF :: bridgeAddrs first, ∀ e ∈ bothWays addr,
        e ∈ (announce first rest).tcpFilter.entries := by
      intro addr haddr
      rw [tcp_entries, bothWays_mem_iff]
      exact h addr haddr
    constructor
    · intro e
      rw [mem_udp_entries, ← tcp_entries]
      constructor
      · exact Or.inl
      · rintro (hmem | hmem | hmem)
        · exact hmem
        · exact hall _ List.mem_cons_self e hmem
        · obtain ⟨addr, haddr, he⟩ := List.mem_flatMap.mp hmem
          exact hall addr (List.mem_cons_of_mem _ haddr) e he
    · intro param hparam e he
      rw [tcp_entries]
      exact List.mem_flatMap.mpr ⟨param, hparam, he⟩
    · exact hall _ List.mem_cons_self
    · exact fun addr haddr => hall addr (List.mem_cons_of_mem _ haddr)

/-- The first interface is announced with 192.168.225.1/24, the address of the
bridge. -/
theorem announce_not_ignoreAlike :
    ¬IgnoreAlike (announce ⟨0xC0A8E101, 0xFFFFFF00, some 0xC0A8E101, some 0xC0A8E101⟩ [])
      ⟨0xC0A8E101, 0xFFFFFF00, some 0xC0A8E101, some 0xC0A8E101⟩ [] := by
  intro h
  have hmem := h.everywhere ⟨.srcIpv4, .negative, 0xFFFFFFFF, 0xFFFFFFFF⟩ (by decide)
  exact absurd hmem (by decide)

end LibraDevice.Conntrack
