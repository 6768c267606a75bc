import LibraDevice.Lan.Clients
import LibraDevice.Lan.WlanClients
import LibraDevice.Lib.Acquire

/-!
The headers and routing rules of a new client, with a driver that may refuse any call.
-/

namespace LibraDevice.SetUp

open Acquire Backhaul Lan
open LanToLan (MacAddr)

/-- A driver. Each call is answered, or refused, as it likes; what it adds is live. -/
structure Driver where
  ipaHdrMaxSize : Nat
  /-- `CopyHeader`: the length of the partial header. -/
  copyHeader : IpType → IpaDriver → Option Nat
  /-- `AddHeader` and `AddRoutingRule`. -/
  add : Kind → Resource → IpaDriver → Option (Hdl × IpaDriver)
  add_live : ∀ {kind r d h d'}, add kind r d = some (h, d') →
    d'.live = Function.update d.live kind (Function.update (d.live kind) h (some r))

/-- Where the record of a client keeps a handle. -/
inductive Place where
  | hdr (iptype : IpType)
  | rt (iptype : IpType) (txIndex : Nat) (slot : RtSlot)
deriving DecidableEq, Repr

def Place.kind : Place → Kind
  | .hdr _ => .hdr
  | .rt iptype _ _ => .rt iptype

/-- Something a call has installed. -/
structure Installed where
  place : Place
  hdl : Hdl
  resource : Resource
deriving DecidableEq, Repr

def ipaMaxNumWanClients : Nat := 10

section

variable {ε δ : Type}

/-- The part of `handle_wlan_client_init_ex`, `handle_eth_hdr_init` and
`handle_wan_hdr_init` for one family; `onCopy` is what it writes to the record once the
partial header is copied. -/
def clientHeader (dr : Driver) (iptype : IpType) (onCopy : Client ε → Client ε) (i : Nat)
    (s : ClientIface ε δ) : Outcome (ClientIface ε δ) Installed :=
  if iptype ∈ s.txProp then
    match dr.copyHeader iptype s.ipa with
    | none => .fail s
    | some hdrLen =>
      if dr.ipaHdrMaxSize < hdrLen then .fail s
      else
        let c := onCopy (s.client i)
        match dr.add .hdr (.hdr iptype c.mac) s.ipa with
        | none => .fail (s.setClient i c)
        | some (h, ipa) =>
          .done
            ({ s with ipa := ipa }.setClient i
              { c with
                hdrHdl := c.hdrHdl.set h iptype
                headerSet := c.headerSet.set true iptype })
            [⟨.hdr iptype, h, .hdr iptype c.mac⟩]
  else .done s []

def clientHeaders (dr : Driver) (onCopy : Client ε → Client ε) (i : Nat)
    (s : ClientIface ε δ) : Outcome (ClientIface ε δ) Installed :=
  (clientHeader dr .v4 onCopy i s).andThen (clientHeader dr .v6 onCopy i)

/-- The record is that of a client. -/
def enrol (i : Nat) (s : ClientIface ε δ) : ClientIface ε δ :=
  { s.setClient i
      { s.client i with
        routeRuleSetV4 := false
        routeRuleSetV6 := 0
        ipv4Set := false
        ipv6Set := 0 } with
    numClient := s.numClient + 1 }

/-- `handle_eth_hdr_init` and `handle_wan_hdr_init`. -/
def hdrInit (maxNumClients : Nat) (mac : MacAddr) (dr : Driver) (s : ClientIface ε δ) :
    Outcome (ClientIface ε δ) Installed :=
  match s.clientIndex mac with
  | some _ => .fail s
  | none =>
    if maxNumClients ≤ s.numClient then .fail s
    else
      let i := s.numClient
      let s := s.setClient i { s.client i with mac := mac }
      if s.txProp = [] then .done s []
      else (clientHeaders dr id i s).andThen fun s => .done (enrol i s) []

def handleEthHdrInit (mac : MacAddr) (dr : Driver) (s : ClientIface Unit δ) :
    Outcome (ClientIface Unit δ) Installed :=
  hdrInit ipaMaxNumEthClients mac dr s

/-- `ipa_wan_client` has the members of `ipa_eth_client`. -/
def handleWanHdrInit (mac : MacAddr) (dr : Driver) (s : ClientIface Unit δ) :
    Outcome (ClientIface Unit δ) Installed :=
  hdrInit ipaMaxNumWanClients mac dr s

/-- The MAC address among the attributes goes to the record. -/
def copyAttribs (attribs : List WlanHdrAttrib) (c : Client ε) : Client ε :=
  { c with mac := attribMac attribs c.mac }

def handleWlanClientInitEx (attribs : List WlanHdrAttrib) (dr : Driver) (s : WlanIface δ) :
    Outcome (WlanIface δ) Installed :=
  if NatCache.ipaMaxNumWifiClients ≤ s.numClient ∨
      NatCache.ipaMaxNumWifiClients ≤ s.totalNumWifiClients then .fail s
  else if s.txProp = [] then .done s []
  else
    let i := s.numClient
    let c := s.client i
    let t := s.setClient i { c with ext := { c.ext with pHdrInfo := attribs } }
    ((clientHeaders dr (copyAttribs attribs) i t).map
      fun t => { s with toClientIface := t }).andThen fun s =>
        let c := s.client i
        .done
          { toClientIface := enrol i
              (s.setClient i { c with ext := { c.ext with powerSaveSet := false } })
            totalNumWifiClients := s.totalNumWifiClients + 1 }
          []

/-- One pass of the loops of `handle_wlan_client_route_rule` and
`handle_eth_client_route_rule`: the rule of a place is added and its handle stored. -/
def clientRule (dr : Driver) (rule : Client ε → Nat → RtSlot → RtRule) (iptype : IpType) (i : Nat)
    (p : Nat × RtSlot) (s : ClientIface ε δ) : Outcome (ClientIface ε δ) Installed :=
  let c := s.client i
  let r := Resource.rt (rule c p.1 p.2)
  match dr.add (.rt iptype) r s.ipa with
  | none => .fail s
  | some (h, ipa) =>
    .done ({ s with ipa := ipa }.setClient i (c.setRtHdl p.1 p.2 h)) [⟨.rt iptype p.1 p.2, h, r⟩]

/-- The places of the rules that are to be set, one TX property after the other. -/
def newPlaces (iptype : IpType) (i : Nat) (s : ClientIface ε δ) : List (Nat × RtSlot) :=
  (txIndices s.txProp iptype).flatMap fun t =>
    ((s.client i).newRtSlots iptype).map fun slot => (t, slot)

def clientRules (dr : Driver) (rule : Client ε → Nat → RtSlot → RtRule) (iptype : IpType)
    (i : Nat) (s : ClientIface ε δ) : Outcome (ClientIface ε δ) Installed :=
  (Outcome.each (clientRule dr rule iptype i) (newPlaces iptype i s) s).andThen fun s =>
    .done (s.setClient i ((s.client i).markRouteRules iptype)) []

/-- `handle_wlan_client_route_rule` and `handle_eth_client_route_rule`. -/
def clientRouteRule (powerSave : Client ε → Bool) (rule : Client ε → Nat → RtSlot → RtRule)
    (mac : MacAddr) (iptype : IpType) (dr : Driver) (s : ClientIface ε δ) :
    Outcome (ClientIface ε δ) Installed :=
  if s.txProp = [] then .done s []
  else
    match s.clientIndex mac with
    | none => .done s []
    | some i => if powerSave (s.client i) then .done s [] else clientRules dr rule iptype i s

def handleWlanClientRouteRule (mac : MacAddr) (iptype : IpType) (dr : Driver)
    (s : ClientIface WlanExt δ) : Outcome (ClientIface WlanExt δ) Installed :=
  clientRouteRule IpaWlanClient.powerSaveSet Client.rtRule mac iptype dr s

/-- "Replace the v4 header in ODU interface". -/
def ethRtRule (oduHdrHdlV4 : Option Hdl) (c : Client Unit) (txIndex : Nat) (slot : RtSlot) :
    RtRule :=
  match oduHdrHdlV4, slot with
  | some h, .v4 => { c.rtRule txIndex .v4 with hdrHdl := h }
  | _, slot => c.rtRule txIndex slot

/-- `oduHdrHdlV4` is there on an ODU interface. -/
def handleEthClientRouteRule (oduHdrHdlV4 : Option Hdl) (mac : MacAddr) (iptype : IpType)
    (dr : Driver) (s : ClientIface Unit δ) : Outcome (ClientIface Unit δ) Installed :=
  clientRouteRule (fun _ => false) (ethRtRule oduHdrHdlV4) mac iptype dr s

end

end LibraDevice.SetUp
