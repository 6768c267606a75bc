import LibraDevice.LanToLan.Client
import LibraDevice.Backhaul.Iface
import Mathlib.Data.List.Nodup

/-!
The neighbour cache: which client was last seen on which interface with which
IPv4 address, and the address events it posts for the interfaces.
-/

namespace LibraDevice.Neighbor

open Backhaul (IpType)
open LanToLan (MacAddr)

/-- The interface table, with every interface of an event known to it. -/
structure Ifaces where
  ifaceIpaIndexQuery : Int → Nat
  ifaceName : Nat → String
  ipaVirtualIfaceName : String

def Ifaces.isBridge (ifs : Ifaces) (ipaInterfaceIndex : Nat) : Bool :=
  ifs.ipaVirtualIfaceName == ifs.ifaceName ipaInterfaceIndex

/-- `ipa_neighbor_client`. -/
structure Client where
  macAddr : MacAddr
  ifaceIndex : Int
  v4Addr : BitVec 32
  ipaIfNum : Nat
deriving DecidableEq, Repr

def maxNumNeighborClients : Nat := 17

/-- `ipacm_event_data_all`. -/
structure EventDataAll where
  iptype : IpType
  ifIndex : Int
  ipv4Addr : BitVec 32
  ipv6Addr : Vector (BitVec 32) 4
  macAddr : MacAddr
deriving DecidableEq, Repr

/-- An attribute of a client: its MAC address, or another one. -/
inductive WlanHdrAttrib
  | macAddr (macAddr : MacAddr)
  | other
deriving DecidableEq, Repr

/-- `uninit` is what the stack holds where no attribute is the MAC address. -/
inductive Event
  | clientAddEx (ifIndex : Int) (attribs : List WlanHdrAttrib) (uninit : MacAddr)
  | newNeigh (data : EventDataAll)
  | delNeigh (data : EventDataAll)
deriving DecidableEq, Repr

inductive AddrEvent
  | add
  | del
deriving DecidableEq, Repr

/-- A posted event; the IPv6 address is not set in one for a client that
connects again. -/
structure Post where
  event : AddrEvent
  iptype : IpType
  ifIndex : Int
  ipv4Addr : BitVec 32
  ipv6Addr : Option (Vector (BitVec 32) 4)
  macAddr : MacAddr
deriving DecidableEq, Repr

/-- The cache entry of a client: the first one with its MAC address. -/
def lookup (mac : MacAddr) (cache : List Client) : Option Client :=
  cache.find? (·.macAddr = mac)

/-- The entry of the client is written. -/
def write (mac : MacAddr) (f : Client → Client) : List Client → List Client
  | [] => []
  | c :: cache => if c.macAddr = mac then f c :: cache else c :: write mac f cache

/-- A new entry, where there is room. -/
def append (c : Client) (cache : List Client) : List Client :=
  if cache.length < maxNumNeighborClients then cache ++ [c] else cache

def clientMacAddr (attribs : List WlanHdrAttrib) (uninit : MacAddr) : MacAddr :=
  attribs.foldl
    (fun mac a =>
      match a with
      | .macAddr macAddr => macAddr
      | .other => mac)
    uninit

/-- The copy of an event's data that is posted. -/
def postOf (event : AddrEvent) (data : EventDataAll) : Post where
  event := event
  iptype := data.iptype
  ifIndex := data.ifIndex
  ipv4Addr := data.ipv4Addr
  ipv6Addr := some data.ipv6Addr
  macAddr := data.macAddr

/-- A cached client is seen on an interface without an address: the entry takes
the interface index, and its previous IPv4 address is posted. -/
def reconnect (ifs : Ifaces) (ifIndex : Int) (c : Client) (cache : List Client) :
    List Client × List Post :=
  let ipaInterfaceIndex := ifs.ifaceIpaIndexQuery ifIndex
  if ifs.isBridge ipaInterfaceIndex then
    (cache, [])
  else
    let cache := write c.macAddr (fun c => { c with ifaceIndex := ifIndex }) cache
    if ipaInterfaceIndex ≠ c.ipaIfNum then
      (cache, [])
    else if c.v4Addr ≠ 0 then
      (cache, [⟨.add, .v4, ifIndex, c.v4Addr, none, c.macAddr⟩])
    else
      (cache, [])

/-- `IPA_WLAN_CLIENT_ADD_EVENT_EX`. -/
def clientAdd (ifs : Ifaces) (ifIndex : Int) (mac : MacAddr) (cache : List Client) :
    List Client × List Post :=
  match lookup mac cache with
  | some c => reconnect ifs ifIndex c cache
  | none => (cache, [])

/-- `IPA_NEW_NEIGH_EVENT` and `IPA_DEL_NEIGH_EVENT`, which post `event`. -/
def neigh (ifs : Ifaces) (event : AddrEvent) (data : EventDataAll) (cache : List Client) :
    List Client × List Post :=
  let ipaInterfaceIndex := ifs.ifaceIpaIndexQuery data.ifIndex
  match data.iptype with
  | .v4 =>
      if data.ipv4Addr = 0 then
        (cache, [])
      else if ifs.isBridge ipaInterfaceIndex then
        match lookup data.macAddr cache with
        | some c =>
            (write data.macAddr (fun c => { c with v4Addr := data.ipv4Addr }) cache,
              [postOf event { data with ifIndex := c.ifaceIndex }])
        | none => (cache, [])
      else
        let client : Client :=
          ⟨data.macAddr, data.ifIndex, data.ipv4Addr, ipaInterfaceIndex⟩
        match lookup data.macAddr cache with
        | some _ => (write data.macAddr (fun _ => client) cache, [postOf event data])
        | none => (append client cache, [postOf event data])
  | .v6 =>
      if data.ipv6Addr ≠ Vector.replicate 4 0 then
        if ifs.isBridge ipaInterfaceIndex then
          match lookup data.macAddr cache with
          | some c => (cache, [postOf event { data with ifIndex := c.ifaceIndex }])
          | none => (cache, [])
        else
          (cache, [postOf event data])
      else
        match lookup data.macAddr cache with
        | some c => reconnect ifs data.ifIndex c cache
        | none =>
            if ifs.isBridge ipaInterfaceIndex then
              (cache, [])
            else
              (append ⟨data.macAddr, data.ifIndex, 0, ipaInterfaceIndex⟩ cache, [])

/-- `IPACM_Neighbor::event_callback`. -/
def eventCallback (ifs : Ifaces) (cache : List Client) : Event → List Client × List Post
  | .clientAddEx ifIndex attribs uninit =>
      clientAdd ifs ifIndex (clientMacAddr attribs uninit) cache
  | .newNeigh data => neigh ifs .add data cache
  | .delNeigh data => neigh ifs .del data cache

section

variable {mac : MacAddr} {c : Client} {cache : List Client}

theorem lookup_mac (h : lookup mac cache = some c) : c.macAddr = mac := by
  simpa using List.find?_some h

theorem lookup_mem (h : lookup mac cache = some c) : c ∈ cache :=
  List.mem_of_find?_eq_some h

theorem lookup_eq_none (h : lookup mac cache = none) : mac ∉ cache.map Client.macAddr := by
  intro hmem
  obtain ⟨c, hc, hmac⟩ := List.mem_map.mp hmem
  exact absurd hmac (by simpa using List.find?_eq_none.mp h c hc)

theorem write_macs (f : Client → Client) (hf : ∀ c, c.macAddr = mac → (f c).macAddr = mac)
    (cache : List Client) :
    (write mac f cache).map Client.macAddr = cache.map Client.macAddr := by
  induction cache with
  | nil => rfl
  | cons c cache ih =>
      simp only [write]
      split
      · next hmac => rw [List.map_cons, List.map_cons, hf c hmac, hmac]
      · rw [List.map_cons, List.map_cons, ih]

theorem write_nodup {f : Client → Client} (hd : (cache.map Client.macAddr).Nodup)
    (hf : ∀ c, c.macAddr = mac → (f c).macAddr = mac) :
    ((write mac f cache).map Client.macAddr).Nodup := by
  rw [write_macs f hf]
  exact hd

/-- With distinct MAC addresses an entry of the new cache is the one written, or
one of another client. -/
theorem mem_write {f : Client → Client} (hd : (cache.map Client.macAddr).Nodup) {e : Client}
    (he : e ∈ write mac f cache) :
    (∃ c, lookup mac cache = some c ∧ e = f c) ∨ (e ∈ cache ∧ e.macAddr ≠ mac) := by
  induction cache with
  | nil => cases he
  | cons c cache ih =>
      rw [List.map_cons, List.nodup_cons] at hd
      simp only [write] at he
      split at he
      · next hmac =>
          rcases List.mem_cons.mp he with rfl | he
          · exact Or.inl ⟨c, List.find?_cons_of_pos (by simpa using hmac), rfl⟩
          · refine Or.inr ⟨List.mem_cons_of_mem _ he, fun heq => ?_⟩
            exact hd.1 (hmac ▸ heq ▸ List.mem_map_of_mem he)
      · next hmac =>
          rcases List.mem_cons.mp he with rfl | he
          · exact Or.inr ⟨List.mem_cons_self, hmac⟩
          · rcases ih hd.2 he with ⟨c', hc', heq⟩ | ⟨he, hne⟩
            · refine Or.inl ⟨c', ?_, heq⟩
              rw [lookup, List.find?_cons_of_neg (by simpa using hmac)]
              exact hc'
            · exact Or.inr ⟨List.mem_cons_of_mem _ he, hne⟩

theorem mem_append {e : Client} (he : e ∈ append c cache) : e ∈ cache ∨ e = c := by
  simp only [append] at he
  split at he
  · exact (List.mem_append.mp he).imp_right List.mem_singleton.mp
  · exact Or.inl he

theorem append_nodup (hd : (cache.map Client.macAddr).Nodup)
    (hc : c.macAddr ∉ cache.map Client.macAddr) :
    ((append c cache).map Client.macAddr).Nodup := by
  simp only [append]
  split
  · rw [List.map_append, List.map_singleton]
    exact List.nodup_append'.mpr ⟨hd, List.nodup_singleton _, by simpa using hc⟩
  · exact hd

end

end LibraDevice.Neighbor
