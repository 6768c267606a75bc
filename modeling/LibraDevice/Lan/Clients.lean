import LibraDevice.Conntrack.Listener
import LibraDevice.Lan.Filtering
import LibraDevice.LanToLan.Events
import LibraDevice.Lib.Rows

/-!
The client table of a LAN or WLAN interface, and the handlers `IPACM_Lan` and `IPACM_Wlan`
have in common.
-/

namespace LibraDevice.Lan

open Backhaul Conntrack NatCache Rows
open LanToLan (IpAddr MacAddr ClientEventId LanClientEvent)

def ipv6NumAddr : Nat := 3

/-- The members of `wlan_client_rt_hdl` and `eth_client_rt_hdl`. -/
inductive RtSlot where
  | v4
  | v6 (i : Nat)
  | v6Wan (i : Nat)
deriving DecidableEq, Repr

/-- The members `ipa_wlan_client` and `ipa_eth_client` have in common; the others are in
`ext`. `rtHdl` is given the index of a TX property. -/
structure Client (ε : Type) where
  mac : MacAddr
  v4Addr : UInt32
  v6Addr : Nat → IpAddr
  hdrHdl : Fam Hdl
  routeRuleSetV4 : Bool
  routeRuleSetV6 : Nat
  ipv4Set : Bool
  ipv6Set : Nat
  headerSet : Fam Bool
  rtHdl : Nat → RtSlot → Hdl
  ext : ε

/-- The data of `IPA_NEIGH_CLIENT_IP_ADDR_ADD_EVENT`, with the name of its interface. -/
structure NeighData where
  iptype : IpType
  ipv4Addr : UInt32
  ipv6Addr : IpAddr
  macAddr : MacAddr
  ifrName : Option String

/-- An interface: its address `self`, the `ip` of its TX properties, its client table, the
driver, the connection tracking and the events it has posted. -/
structure ClientIface (ε δ : Type) where
  self : Nat
  txProp : List IpType
  ipType : IfaceIpType
  client : Nat → Client ε
  numClient : Nat
  ipa : IpaDriver
  ctList : CtListener δ
  posted : List (ClientEventId × LanClientEvent Nat)

section

variable {ε δ : Type}

/-- The indices of the TX properties of a family. -/
def txIndices (txProp : List IpType) (iptype : IpType) : List Nat :=
  (List.range txProp.length).filter fun t => txProp[t]? = some iptype

def v6Slots (ks : List Nat) : List RtSlot := ks.flatMap fun k => [.v6 k, .v6Wan k]

namespace Client

/-- A record after `calloc`. -/
def zeroed (ext : ε) : Client ε where
  mac := Vector.replicate 6 0
  v4Addr := 0
  v6Addr _ := ⟨0, 0, 0, 0⟩
  hdrHdl := ⟨0, 0⟩
  routeRuleSetV4 := false
  routeRuleSetV6 := 0
  ipv4Set := false
  ipv6Set := 0
  headerSet := ⟨false, false⟩
  rtHdl _ _ := 0
  ext := ext

/-- The places of the rules that are set. -/
def rtSlots (c : Client ε) : IpType → List RtSlot
  | .v4 => if c.routeRuleSetV4 then [.v4] else []
  | .v6 => v6Slots (List.range c.routeRuleSetV6)

/-- The places of the rules that are to be set. -/
def newRtSlots (c : Client ε) : IpType → List RtSlot
  | .v4 => if c.routeRuleSetV4 = false ∧ c.ipv4Set then [.v4] else []
  | .v6 => v6Slots (List.range' c.routeRuleSetV6 (c.ipv6Set - c.routeRuleSetV6))

/-- The rule of the client for a TX property. -/
def rtRule (c : Client ε) (txIndex : Nat) : RtSlot → RtRule
  | .v4 =>
      { rtTbl := .lanV4, dst := .tx txIndex, hdrHdl := c.hdrHdl.v4, dstAddr := .v4 c.v4Addr }
  | .v6 i =>
      { rtTbl := .v6, dst := .appsLanCons, hdrHdl := 0, dstAddr := .v6 (c.v6Addr i) }
  | .v6Wan i =>
      { rtTbl := .wanV6, dst := .tx txIndex, hdrHdl := c.hdrHdl.v6, dstAddr := .v6 (c.v6Addr i) }

def setRtHdl (c : Client ε) (txIndex : Nat) (slot : RtSlot) (h : Hdl) : Client ε :=
  { c with
    rtHdl := Function.update c.rtHdl txIndex (Function.update (c.rtHdl txIndex) slot h) }

/-- The rules of a family are no longer set. -/
def clearRouteRules (c : Client ε) : IpType → Client ε
  | .v4 => { c with routeRuleSetV4 := false }
  | .v6 => { c with routeRuleSetV6 := 0 }

/-- All rules of a family are set. -/
def markRouteRules (c : Client ε) : IpType → Client ε
  | .v4 => if c.routeRuleSetV4 = false ∧ c.ipv4Set then { c with routeRuleSetV4 := true } else c
  | .v6 =>
      if c.routeRuleSetV6 < c.ipv6Set then { c with routeRuleSetV6 := c.ipv6Set } else c

/-- The record of a client that has left. -/
def reset (c : Client ε) : Client ε :=
  { c with
    ipv4Set := false
    ipv6Set := 0
    headerSet := ⟨false, false⟩
    routeRuleSetV4 := false
    routeRuleSetV6 := 0 }

/-- A record takes over the common members of the next one, from its arrays only what is in
use. -/
def takeOver (numTxProps : Nat) (c next : Client ε) : Client ε :=
  { c with
    mac := next.mac
    hdrHdl := next.hdrHdl
    v4Addr := next.v4Addr
    ipv4Set := next.ipv4Set
    ipv6Set := next.ipv6Set
    headerSet := next.headerSet
    routeRuleSetV4 := next.routeRuleSetV4
    routeRuleSetV6 := next.routeRuleSetV6
    v6Addr := fun i => if i < next.ipv6Set then next.v6Addr i else c.v6Addr i
    rtHdl := fun t slot =>
      if t < numTxProps then
        match slot with
        | .v4 => next.rtHdl t .v4
        | .v6 i => if i < next.routeRuleSetV6 then next.rtHdl t (.v6 i) else c.rtHdl t (.v6 i)
        | .v6Wan i =>
            if i < next.routeRuleSetV6 then next.rtHdl t (.v6Wan i) else c.rtHdl t (.v6Wan i)
      else c.rtHdl t slot }

end Client

namespace ClientIface

/-- An interface without clients. -/
def init (self : Nat) (txProp : List IpType) (ipType : IfaceIpType) (ext : ε)
    (supply : List Hdl) (ctList : CtListener δ) : ClientIface ε δ where
  self := self
  txProp := txProp
  ipType := ipType
  client _ := .zeroed ext
  numClient := 0
  ipa := .init supply
  ctList := ctList
  posted := []

/-- `get_wlan_client_index` and `get_eth_client_index`. -/
def clientIndex (mac : MacAddr) (s : ClientIface ε δ) : Option Nat :=
  (List.range s.numClient).find? fun i => (s.client i).mac == mac

def setClient (i : Nat) (c : Client ε) (s : ClientIface ε δ) : ClientIface ε δ :=
  { s with client := Function.update s.client i c }

/-- `delete_default_qos_rtrules` and `delete_eth_rtrules`. -/
def deleteRtrules (iptype : IpType) (i : Nat) (s : ClientIface ε δ) : ClientIface ε δ :=
  let c := s.client i
  let hdls := (txIndices s.txProp iptype).flatMap fun t => (c.rtSlots iptype).map (c.rtHdl t)
  { s with ipa := hdls.foldl (IpaDriver.deleteRoutingHdl iptype) s.ipa }.setClient i
    (c.clearRouteRules iptype)

variable (d : NatDriver δ)

/-- `CtList->HandleNeighIpAddrDelEvt`. -/
def neighIpAddrDel (addr : UInt32) (s : ClientIface ε δ) : ClientIface ε δ :=
  { s with ctList := handleNeighIpAddrDelEvt d addr s.ctList }

/-- `handle_wlan_client_ipaddr` and `handle_eth_client_ipaddr`; no result stands for
`IPACM_FAILURE`. -/
def handleClientIpaddr (data : NeighData) (s : ClientIface ε δ) : Option (ClientIface ε δ) :=
  match s.clientIndex data.macAddr with
  | none => none
  | some i =>
    let c := s.client i
    match data.iptype with
    | .v4 =>
      if data.ipv4Addr = 0 then none
      else if c.ipv4Set = false then
        some (s.setClient i { c with v4Addr := data.ipv4Addr, ipv4Set := true })
      else if data.ipv4Addr = c.v4Addr then none
      else
        let s := (s.neighIpAddrDel d c.v4Addr).deleteRtrules .v4 i
        some (s.setClient i
          { s.client i with routeRuleSetV4 := false, v4Addr := data.ipv4Addr })
    | .v6 =>
      if data.ipv6Addr = ⟨0, 0, 0, 0⟩ then some s
      else if ipv6NumAddr ≤ c.ipv6Set then none
      else if ∃ k < c.ipv6Set, c.v6Addr k = data.ipv6Addr then none
      else
        some (s.setClient i
          { c with
            v6Addr := Function.update c.v6Addr c.ipv6Set data.ipv6Addr
            ipv6Set := c.ipv6Set + 1 })

/-- The loops of `handle_wlan_client_route_rule` and `handle_eth_client_route_rule`: one
rule after the other, each with the place its handle goes to. -/
def addRtRules (iptype : IpType) :
    List (Nat × RtSlot) → Client ε × IpaDriver → Option (Client ε × IpaDriver)
  | [], s => some s
  | (t, slot) :: rest, (c, ipa) => do
      let (h, ipa) ← ipa.add (.rt iptype) (.rt (c.rtRule t slot))
      addRtRules iptype rest (c.setRtHdl t slot h, ipa)

/-- The rest of them, for the client `i`; no result stands for a rule the driver refuses. -/
def addClientRules (iptype : IpType) (i : Nat) (s : ClientIface ε δ) :
    Option (ClientIface ε δ) := do
  let c := s.client i
  let places := (txIndices s.txProp iptype).flatMap fun t =>
    (c.newRtSlots iptype).map fun slot => (t, slot)
  let (c, ipa) ← addRtRules iptype places (c, s.ipa)
  some ({ s with ipa := ipa }.setClient i (c.markRouteRules iptype))

/-- `handle_wlan_client_route_rule` and `handle_eth_client_route_rule`; a client in power
save gets no rules. -/
def handleClientRouteRule (powerSave : Client ε → Bool) (mac : MacAddr) (iptype : IpType)
    (s : ClientIface ε δ) : Option (ClientIface ε δ) :=
  if s.txProp = [] then some s
  else
    match s.clientIndex mac with
    | none => some s
    | some i => if powerSave (s.client i) then some s else s.addClientRules iptype i

/-- A client's header is deleted. -/
def deleteHeader (iptype : IpType) (i : Nat) (s : ClientIface ε δ) :
    Bool × ClientIface ε δ :=
  let c := s.client i
  if c.headerSet.get iptype then
    match s.ipa.deleteHeaderHdl (c.hdrHdl.get iptype) with
    | (false, ipa) => (false, { s with ipa := ipa })
    | (true, ipa) =>
        (true, { s with ipa := ipa }.setClient i
          { c with headerSet := c.headerSet.set false iptype })
  else (true, s)

/-- `handle_wlan_client_down_evt` and `handle_eth_client_down_evt` on the client `i`; `move`
is the body of the loop over the clients behind it. -/
def dropClient (move : Client ε → Client ε → Client ε) (i : Nat) (s : ClientIface ε δ) :
    Bool × ClientIface ε δ :=
  let c := s.client i
  let s := if c.ipv4Set then s.neighIpAddrDel d c.v4Addr else s
  let s := (s.deleteRtrules .v4 i).deleteRtrules .v6 i
  match s.deleteHeader .v4 i with
  | (false, s) => (false, s)
  | (true, s) =>
    match s.deleteHeader .v6 i with
    | (false, s) => (false, s)
    | (true, s) =>
      let s := s.setClient i (s.client i).reset
      (true, { s with
        client := moveDown move s.client i (s.numClient - 1 - i)
        numClient := s.numClient - 1 })

/-- `CtList->HandleNeighIpAddrAddEvt`. -/
def neighIpAddrAdd (cfg : Config) (data : NeighData) (s : ClientIface ε δ) : ClientIface ε δ :=
  { s with ctList := handleNeighIpAddrAddEvt d cfg data.ipv4Addr .v4 data.ifrName s.ctList }

end ClientIface

/-- The `iptype` of the events of `IPACM_LanToLan`. -/
def lan2lanIpType : IpType → LanToLan.IpType
  | .v4 => .v4
  | .v6 => .v6

/-- `handle_lan2lan_client_active`, for clients that are active and inactive ones. -/
def ClientIface.handleLan2lanClientActive (id : ClientEventId) (data : NeighData)
    (s : ClientIface ε δ) : ClientIface ε δ :=
  if s.ipType.supports data.iptype then
    { s with posted := s.posted ++ [(id,
      { iptype := lan2lanIpType data.iptype
        ipv4Addr := data.ipv4Addr
        ipv6Addr := data.ipv6Addr
        macAddr := data.macAddr
        pIface := some s.self })] }
  else s

end

def ipaMaxNumEthClients : Nat := 15

abbrev IpaEthClient := Client Unit

/-- The client events of a LAN interface. -/
inductive EthEvent where
  | neighAdd (data : NeighData)
  | neighDel (data : NeighData)

namespace ClientIface

variable {δ : Type}

/-- One of the two halves of `handle_eth_hdr_init`. -/
def addEthHeader (iptype : IpType) (mac : MacAddr) (i : Nat) (s : ClientIface Unit δ) :
    Option (ClientIface Unit δ) :=
  if iptype ∈ s.txProp then do
    let c := s.client i
    let (h, ipa) ← s.ipa.add .hdr (.hdr iptype mac)
    some ({ s with ipa := ipa }.setClient i
      { c with
        hdrHdl := c.hdrHdl.set h iptype
        headerSet := c.headerSet.set true iptype })
  else some s

/-- `handle_eth_hdr_init`; no result stands for a header the driver refuses. -/
def handleEthHdrInit (mac : MacAddr) (s : ClientIface Unit δ) :
    Option (ClientIface Unit δ) :=
  match s.clientIndex mac with
  | some _ => some s
  | none =>
    if ipaMaxNumEthClients ≤ s.numClient then some s
    else
      let i := s.numClient
      let s := s.setClient i { s.client i with mac := mac }
      if s.txProp = [] then some s
      else do
        let s ← s.addEthHeader .v4 mac i
        let s ← s.addEthHeader .v6 mac i
        let s := s.setClient i
          { s.client i with
            routeRuleSetV4 := false
            routeRuleSetV6 := 0
            ipv4Set := false
            ipv6Set := 0 }
        some { s with numClient := s.numClient + 1 }

def handleEthClientRouteRule (mac : MacAddr) (iptype : IpType) (s : ClientIface Unit δ) :
    Option (ClientIface Unit δ) :=
  s.handleClientRouteRule (fun _ => false) mac iptype

variable (d : NatDriver δ) (cfg : Config)

/-- The result is false for `IPACM_FAILURE`. -/
def handleEthClientDownEvt (mac : MacAddr) (s : ClientIface Unit δ) :
    Bool × ClientIface Unit δ :=
  match s.clientIndex mac with
  | none => (true, s)
  | some i => s.dropClient d (Client.takeOver s.txProp.length) i

/-- The client events of `IPACM_Lan::event_callback`. -/
def ethEventCallback (s : ClientIface Unit δ) : EthEvent → Option (ClientIface Unit δ)
  | .neighAdd data => do
      let s ← s.handleEthHdrInit data.macAddr
      let s := s.handleLan2lanClientActive .active data
      match s.handleClientIpaddr d data with
      | none => some s
      | some s => do
          let s ← s.handleEthClientRouteRule data.macAddr data.iptype
          some (match data.iptype with
            | .v4 => s.neighIpAddrAdd d cfg data
            | .v6 => s)
  | .neighDel data =>
      let t := (s.handleEthClientDownEvt d data.macAddr).2
      some (t.handleLan2lanClientActive .inactive data)

end ClientIface

end LibraDevice.Lan
