import LibraDevice.Lan.Clients
import LibraDevice.Lib.StepRun
import LibraDevice.NatCache.Coherence

/-!
The client events of `IPACM_Wlan`.
-/

namespace LibraDevice.Lan

open Backhaul Conntrack NatCache StepRun
open LanToLan (IpAddr MacAddr ClientEventId LanClientEvent)

/-- `ipa_wlan_hdr_attrib_val`. -/
inductive WlanHdrAttrib where
  | macAddr (mac : MacAddr)
  | staId (staId : UInt8)
  | other
deriving DecidableEq, Repr

/-- The members only `ipa_wlan_client` has; `pHdrInfo` is the copy of the event. -/
structure WlanExt where
  pHdrInfo : List WlanHdrAttrib
  powerSaveSet : Bool
deriving DecidableEq, Repr

abbrev IpaWlanClient := Client WlanExt

def IpaWlanClient.powerSaveSet (c : IpaWlanClient) : Bool := c.ext.powerSaveSet

def IpaWlanClient.setPowerSave (c : IpaWlanClient) (b : Bool) : IpaWlanClient :=
  { c with ext := { c.ext with powerSaveSet := b } }

/-- The body of the loop at the end of `handle_wlan_client_down_evt`. -/
def IpaWlanClient.moveTo (numTxProps : Nat) (c next : IpaWlanClient) : IpaWlanClient :=
  { c.takeOver numTxProps next with ext := { c.ext with pHdrInfo := next.ext.pHdrInfo } }

/-- The MAC address the attributes leave in the record. -/
def attribMac (attribs : List WlanHdrAttrib) (mac : MacAddr) : MacAddr :=
  attribs.foldl (fun mac attrib => match attrib with | .macAddr m => m | _ => mac) mac

/-- An access point and the number of clients of all of them. -/
structure WlanIface (δ : Type) extends ClientIface WlanExt δ where
  totalNumWifiClients : Int

/-- The client events of an access point, and `IPA_HANDLE_WAN_DOWN_V6_TETHER`. -/
inductive WlanEvent where
  | clientAdd (attribs : List WlanHdrAttrib)
  | clientDel (mac : MacAddr)
  | powerSave (mac : MacAddr)
  | recover (mac : MacAddr)
  | neighAdd (data : NeighData)
  | wanDownV6Tether

section

variable {δ : Type}

namespace ClientIface

/-- `handle_lan2lan_msg_post`; no result stands for `IPACM_FAILURE`. -/
def handleLan2lanMsgPost (mac : MacAddr) (id : ClientEventId) (iptype : IpType)
    (s : ClientIface WlanExt δ) : Option (ClientIface WlanExt δ) :=
  match s.clientIndex mac with
  | none => some s
  | some i =>
    let c := s.client i
    let msg (ipv4Addr : UInt32) (ipv6Addr : IpAddr) : ClientEventId × LanClientEvent Nat :=
      (id, ⟨lan2lanIpType iptype, ipv4Addr, ipv6Addr, Vector.replicate 6 0, some s.self⟩)
    let msgs :=
      match iptype with
      | .v4 => if c.ipv4Set then [msg c.v4Addr ⟨0, 0, 0, 0⟩] else []
      | .v6 => (List.range c.ipv6Set).map fun k => msg 0 (c.v6Addr k)
    if msgs = [] then some s
    else if s.ipType.supports iptype then some { s with posted := s.posted ++ msgs }
    else none

/-- Both families are posted, whether the first one fails or not. -/
def postBoth (mac : MacAddr) (id : ClientEventId) (s : ClientIface WlanExt δ) :
    ClientIface WlanExt δ :=
  let s := (s.handleLan2lanMsgPost mac id .v4).getD s
  (s.handleLan2lanMsgPost mac id .v6).getD s

def handleWlanClientRouteRule (mac : MacAddr) (iptype : IpType) (s : ClientIface WlanExt δ) :
    Option (ClientIface WlanExt δ) :=
  s.handleClientRouteRule IpaWlanClient.powerSaveSet mac iptype

/-- The loop of `handle_wlan_client_reset_rt`, which ends where a client's address cannot be
posted. -/
def resetRt (iptype : IpType) : List Nat → ClientIface WlanExt δ → ClientIface WlanExt δ
  | [], s => s
  | i :: rest, s =>
      let s := s.deleteRtrules iptype i
      match s.handleLan2lanMsgPost (s.client i).mac .disconnect iptype with
      | none => s
      | some s =>
          let c := s.client i
          resetRt iptype rest (s.setClient i
            (match iptype with
            | .v4 => { c with ipv4Set := false }
            | .v6 => { c with ipv6Set := 0 }))

def handleWlanClientResetRt (iptype : IpType) (s : ClientIface WlanExt δ) :
    ClientIface WlanExt δ :=
  s.resetRt iptype (List.range s.numClient)

variable (d : NatDriver δ)

/-- A call of `Nat_App`. -/
def onNatApp (f : NatApp δ → Int × NatApp δ) (s : ClientIface WlanExt δ) :
    ClientIface WlanExt δ :=
  { s with ctList := { s.ctList with natInst := (f s.ctList.natInst).2 } }

def handleWlanClientPwrsave (mac : MacAddr) (s : ClientIface WlanExt δ) :
    ClientIface WlanExt δ :=
  match s.clientIndex mac with
  | none => s
  | some i =>
    let c : IpaWlanClient := s.client i
    if c.powerSaveSet then s
    else
      let s := if c.ipv4Set then s.onNatApp (updatePwrSaveIf d c.v4Addr) else s
      let s := (s.deleteRtrules .v4 i).deleteRtrules .v6 i
      s.setClient i (IpaWlanClient.setPowerSave (s.client i) true)

/-- "First add route rules and then nat rules": the IPv4 part of
`IPA_WLAN_CLIENT_RECOVER_EVENT`, for the client `c`. -/
def recoverV4 (mac : MacAddr) (c : IpaWlanClient) (s : ClientIface WlanExt δ) :
    Option (ClientIface WlanExt δ) :=
  if c.ipv4Set then do
    let s ← s.handleWlanClientRouteRule mac .v4
    some (s.onNatApp (resetPwrSaveIf d c.v4Addr))
  else some s

/-- `IPA_WLAN_CLIENT_RECOVER_EVENT`, after the events are posted. -/
def recoverClient (mac : MacAddr) (s : ClientIface WlanExt δ) :
    Option (ClientIface WlanExt δ) :=
  match s.clientIndex mac with
  | none => some s
  | some i =>
    let c : IpaWlanClient := s.client i
    if c.powerSaveSet = false then some s
    else do
      let s ← (s.setClient i (c.setPowerSave false)).recoverV4 d mac c
      if c.ipv6Set ≠ 0 then s.handleWlanClientRouteRule mac .v6 else some s

/-- `IPA_NEIGH_CLIENT_IP_ADDR_ADD_EVENT`. -/
def neighClientAdd (cfg : Config) (data : NeighData) (s : ClientIface WlanExt δ) :
    Option (ClientIface WlanExt δ) :=
  match s.handleClientIpaddr d data with
  | none => some s
  | some s => do
      let s := s.handleLan2lanClientActive .active data
      let s ← s.handleWlanClientRouteRule data.macAddr data.iptype
      some (match data.iptype with
        | .v4 => s.neighIpAddrAdd d cfg data
        | .v6 => s)

end ClientIface

namespace WlanIface

/-- An access point without clients, while the others have `total` ones. -/
def init (self : Nat) (txProp : List IpType) (ipType : IfaceIpType) (supply : List Hdl)
    (ctList : CtListener δ) (total : Int) : WlanIface δ where
  toClientIface := .init self txProp ipType ⟨[], false⟩ supply ctList
  totalNumWifiClients := total

/-- One of the two halves of `handle_wlan_client_init_ex`. -/
def addClientHeader (iptype : IpType) (attribs : List WlanHdrAttrib) (i : Nat)
    (s : WlanIface δ) : Option (WlanIface δ) :=
  if iptype ∈ s.txProp then do
    let c := s.client i
    let mac := attribMac attribs c.mac
    let (h, ipa) ← s.ipa.add .hdr (.hdr iptype mac)
    some { s with
      ipa := ipa
      client := Function.update s.client i
        { c with
          mac := mac
          hdrHdl := c.hdrHdl.set h iptype
          headerSet := c.headerSet.set true iptype } }
  else some s

/-- `handle_wlan_client_init_ex`; no result stands for a header the driver refuses. -/
def handleWlanClientInitEx (attribs : List WlanHdrAttrib) (s : WlanIface δ) :
    Option (WlanIface δ) :=
  if ipaMaxNumWifiClients ≤ s.numClient ∨ ipaMaxNumWifiClients ≤ s.totalNumWifiClients then
    some s
  else if s.txProp = [] then some s
  else do
    let i := s.numClient
    let c := s.client i
    let s := { s with
      client := Function.update s.client i { c with ext := { c.ext with pHdrInfo := attribs } } }
    let s ← s.addClientHeader .v4 attribs i
    let s ← s.addClientHeader .v6 attribs i
    let c := s.client i
    some { s with
      client := Function.update s.client i
        { c with
          routeRuleSetV4 := false
          routeRuleSetV6 := 0
          ipv4Set := false
          ipv6Set := 0
          ext := { c.ext with powerSaveSet := false } }
      numClient := s.numClient + 1
      totalNumWifiClients := s.totalNumWifiClients + 1 }

variable (d : NatDriver δ) (cfg : Config)

/-- The result is false for `IPACM_FAILURE`. -/
def handleWlanClientDownEvt (mac : MacAddr) (s : WlanIface δ) : Bool × WlanIface δ :=
  match s.clientIndex mac with
  | none => (true, s)
  | some i =>
    match s.dropClient d (IpaWlanClient.moveTo s.txProp.length) i with
    | (false, t) => (false, { s with toClientIface := t })
    | (true, t) =>
        (true, { toClientIface := t, totalNumWifiClients := s.totalNumWifiClients - 1 })

/-- The client events of `IPACM_Wlan::event_callback`. -/
def eventCallback (s : WlanIface δ) : WlanEvent → Option (WlanIface δ)
  | .clientAdd attribs => s.handleWlanClientInitEx attribs
  | .clientDel mac =>
      let t := { s with toClientIface := s.postBoth mac .disconnect }
      some (t.handleWlanClientDownEvt d mac).2
  | .powerSave mac =>
      let t := (s.postBoth mac .powerSave).handleWlanClientPwrsave d mac
      some { s with toClientIface := t }
  | .recover mac => do
      let t ← (s.postBoth mac .powerRecover).recoverClient d mac
      some { s with toClientIface := t }
  | .neighAdd data => do
      let t ← s.neighClientAdd d cfg data
      some { s with toClientIface := t }
  | .wanDownV6Tether => some { s with toClientIface := s.handleWlanClientResetRt .v6 }

end WlanIface

end

def macA : MacAddr := #v[2, 0, 0, 0, 0, 0xA]
def macB : MacAddr := #v[2, 0, 0, 0, 0, 0xB]

/-- An access point with a TX property for each family, before any event. -/
def newAp : WlanIface (List (Nat × IpaNat.Ipv4Rule)) :=
  .init 1 [.v4, .v6] .max ((List.range 30).map fun n => UInt32.ofNat (n + 1))
    (.init false 0 smallApp) 0

def afterEvents (s : WlanIface (List (Nat × IpaNat.Ipv4Rule))) (es : List WlanEvent) :
    Option (WlanIface (List (Nat × IpaNat.Ipv4Rule))) :=
  es.foldlM (WlanIface.eventCallback ruleMapDriver lanConfig) s

end LibraDevice.Lan
