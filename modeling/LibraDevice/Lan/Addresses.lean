import LibraDevice.Lan.Clients
import LibraDevice.LanToLan.Owners

/-!
The addresses a LAN or WLAN interface keeps of its clients, and what it posts of them to
`IPACM_LanToLan`. The answers of the driver come with the events.
-/

namespace LibraDevice.Lan

open Backhaul
open LanToLan (IpAddr MacAddr ClientEventId ClientKey LanEvent v6Key)

/-- The addresses in an `ipa_eth_client` or `ipa_wlan_client`, as far as they are set. -/
structure ClientAddrs where
  mac : MacAddr
  v4Addr : Option UInt32
  v6Addr : List IpAddr
deriving DecidableEq

inductive IfaceKind where
  | lan
  | wlan
deriving DecidableEq, Repr

structure AddrIface where
  kind : IfaceKind
  ipType : IfaceIpType
  client : List ClientAddrs
  isActive : Bool

/-- An event of `IPACM_LanToLan` an interface has posted. -/
structure Post where
  id : ClientEventId
  iptype : IpType
  ipv4Addr : UInt32
  ipv6Addr : IpAddr
  macAddr : MacAddr
  pIface : Nat

/-- `done` counts the clients that are handled before the driver refuses something. The
interfaces are not registered for `IPA_NEIGH_CLIENT_IP_ADDR_DEL_EVENT`. -/
inductive IfaceEvent where
  | addrAdd (iptype : IpType) (ok : Bool)
  | clientAdd (mac : MacAddr) (ok : Bool)
  | clientDel (mac : MacAddr) (ok : Bool)
  | powerSave (mac : MacAddr)
  | recover (mac : MacAddr)
  | neighAdd (data : NeighData) (ok : Bool)
  | wanDownV6Tether (done : Nat)
  | linkDown (done : Nat)

def Post.event (p : Post) : LanEvent Nat :=
  .client p.id (some ⟨lan2lanIpType p.iptype, p.ipv4Addr, p.ipv6Addr, p.macAddr, some p.pIface⟩)

/-- The event with one address; `memset` clears the rest. -/
def Post.ofV4 (id : ClientEventId) (self : Nat) (addr : UInt32) : Post :=
  ⟨id, .v4, addr, ⟨0, 0, 0, 0⟩, Vector.replicate 6 0, self⟩

def Post.ofV6 (id : ClientEventId) (self : Nat) (addr : IpAddr) : Post :=
  ⟨id, .v6, 0, addr, Vector.replicate 6 0, self⟩

/-- The events with the addresses of a client, one each. -/
def ClientAddrs.posts (id : ClientEventId) (self : Nat) (c : ClientAddrs) : IpType → List Post
  | .v4 => c.v4Addr.toList.map (Post.ofV4 id self)
  | .v6 => c.v6Addr.map (Post.ofV6 id self)

/-- The first record of a MAC address is replaced. -/
def replaceClient (c : ClientAddrs) : List ClientAddrs → List ClientAddrs
  | [] => []
  | c' :: rest => if c'.mac = c.mac then c :: rest else c' :: replaceClient c rest

namespace AddrIface

def clientOf (mac : MacAddr) (s : AddrIface) : Option ClientAddrs :=
  s.client.find? fun c => c.mac = mac

/-- `handle_eth_hdr_init`; `ok` tells that the interface has TX properties and the driver
accepts the headers. -/
def handleEthHdrInit (ok : Bool) (mac : MacAddr) (s : AddrIface) : AddrIface :=
  match s.clientOf mac with
  | some _ => s
  | none =>
    if ipaMaxNumEthClients ≤ s.client.length then s
    else if ok then { s with client := s.client ++ [⟨mac, none, []⟩] }
    else s

/-- `handle_eth_client_ipaddr` and `handle_wlan_client_ipaddr`; the result is false for
`IPACM_FAILURE`. -/
def handleClientIpaddr (data : NeighData) (s : AddrIface) : Bool × AddrIface :=
  match s.clientOf data.macAddr with
  | none => (false, s)
  | some c =>
    match data.iptype with
    | .v4 =>
      if data.ipv4Addr = 0 then (false, s)
      else if c.v4Addr = some data.ipv4Addr then (false, s)
      else
        let c := { c with v4Addr := some data.ipv4Addr }
        (true, { s with client := replaceClient c s.client })
    | .v6 =>
      if data.ipv6Addr = ⟨0, 0, 0, 0⟩ then (true, s)
      else if ipv6NumAddr ≤ c.v6Addr.length then (false, s)
      else if data.ipv6Addr ∈ c.v6Addr then (false, s)
      else
        let c := { c with v6Addr := c.v6Addr ++ [data.ipv6Addr] }
        (true, { s with client := replaceClient c s.client })

variable (self : Nat)

def handleLan2lanClientActive (data : NeighData) (s : AddrIface) : List Post :=
  if s.ipType.supports data.iptype then
    [⟨.active, data.iptype, data.ipv4Addr, data.ipv6Addr, data.macAddr, self⟩]
  else []

/-- `handle_lan2lan_msg_post`; no result stands for `IPACM_FAILURE`. -/
def handleLan2lanMsgPost (mac : MacAddr) (id : ClientEventId) (iptype : IpType)
    (s : AddrIface) : Option (List Post) :=
  match s.clientOf mac with
  | none => some []
  | some c =>
    if c.posts id self iptype = [] then some []
    else if s.ipType.supports iptype then some (c.posts id self iptype)
    else none

/-- Both families are posted, whether the first one fails or not. -/
def postBoth (mac : MacAddr) (id : ClientEventId) (s : AddrIface) : List Post :=
  (s.handleLan2lanMsgPost self mac id .v4).getD [] ++
    (s.handleLan2lanMsgPost self mac id .v6).getD []

/-- The words of an IPv6 address `post_lan2lan_client_disconnect_msg` copies: all into the
first one. -/
def firstWord (addr : IpAddr) : IpAddr := ⟨addr.w0, 0, 0, 0⟩

def postLan2lanClientDisconnectMsg (iptype : IpType) (s : AddrIface) : List Post :=
  s.client.flatMap fun c =>
    match iptype with
    | .v4 => c.v4Addr.toList.map (Post.ofV4 .disconnect self)
    | .v6 => c.v6Addr.map fun addr => Post.ofV6 .disconnect self (firstWord addr)

/-- `handle_lan_client_reset_rt` for IPv6. -/
def handleLanClientResetRt (done : Nat) (s : AddrIface) : List Post × AddrIface :=
  if done < s.client.length then ([], s)
  else
    (s.postLan2lanClientDisconnectMsg self .v6,
      { s with client := s.client.map fun c => { c with v6Addr := [] } })

/-- The loop of `handle_wlan_client_reset_rt` for IPv6. -/
def resetLoop : List Nat → AddrIface → List Post × AddrIface
  | [], s => ([], s)
  | i :: rest, s =>
    match s.client[i]? with
    | none => ([], s)
    | some c =>
      match s.handleLan2lanMsgPost self c.mac .disconnect .v6 with
      | none => ([], s)
      | some posts =>
        let reset := resetLoop rest { s with client := s.client.set i { c with v6Addr := [] } }
        (posts ++ reset.1, reset.2)

def handleWlanClientResetRt (done : Nat) (s : AddrIface) : List Post × AddrIface :=
  s.resetLoop self (List.range (min done s.client.length))

/-- `handle_down_evt`, but for `post_del_self_evt` at its end. -/
def handleDownEvt (done : Nat) (s : AddrIface) : List Post × AddrIface :=
  let posts :=
    if s.ipType = .null then []
    else
      match s.kind with
      | .lan =>
        if done < s.client.length then []
        else s.postLan2lanClientDisconnectMsg self .v4 ++ s.postLan2lanClientDisconnectMsg self .v6
      | .wlan => (s.client.take done).flatMap fun c => s.postBoth self c.mac .disconnect
  (posts, { s with isActive := false })

/-- `IPA_NEIGH_CLIENT_IP_ADDR_ADD_EVENT`. -/
def neighAdd (data : NeighData) (ok : Bool) (s : AddrIface) : List Post × AddrIface :=
  match s.kind with
  | .lan =>
    let s := s.handleEthHdrInit ok data.macAddr
    (s.handleLan2lanClientActive self data, (s.handleClientIpaddr data).2)
  | .wlan =>
    match s.handleClientIpaddr data with
    | (false, s) => ([], s)
    | (true, s) => (s.handleLan2lanClientActive self data, s)

def eventCallback (s : AddrIface) : IfaceEvent → List Post × AddrIface
  | .addrAdd iptype ok => ([], if ok then { s with ipType := s.ipType.add iptype } else s)
  | .clientAdd mac ok =>
      ([], if s.kind = .wlan ∧ ok then { s with client := s.client ++ [⟨mac, none, []⟩] } else s)
  | .clientDel mac ok =>
      if s.kind = .wlan then
        (s.postBoth self mac .disconnect,
          if ok then { s with client := s.client.eraseP fun c => c.mac = mac } else s)
      else ([], s)
  | .powerSave mac => (if s.kind = .wlan then s.postBoth self mac .powerSave else [], s)
  | .recover mac => (if s.kind = .wlan then s.postBoth self mac .powerRecover else [], s)
  | .neighAdd data ok => s.neighAdd self data ok
  | .wanDownV6Tether done =>
      match s.kind with
      | .lan => s.handleLanClientResetRt self done
      | .wlan => s.handleWlanClientResetRt self done
  | .linkDown done => s.handleDownEvt self done

end AddrIface

end LibraDevice.Lan
