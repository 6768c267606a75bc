import LibraDevice.Backhaul.Iface
import LibraDevice.LanToLan.Client

/-!
The Ethernet bridge of one `IPACM_Lan`: filter rules for WLAN clients, whose
handles come from a pool for each IP family, and routing rules for USB
clients, in a table for each family.
-/

namespace LibraDevice.EthBridge

open Backhaul (IpType Fam Hdl)
open LanToLan (MacAddr)

def ipaLanToLanMaxWlanClient : Nat := 32
def ipaLanToLanMaxUsbClient : Nat := 1

/-- `ipa_hdr_l2_type`: Ethernet II, 802.3, and the values that are not expected. -/
inductive HdrL2Type
  | ethernetII
  | ieee802Dot3
  | other
deriving DecidableEq

/-- `lan2lan_flt_rule_hdl`; a slot is `valid` while no client has it. -/
structure Slot where
  ruleHdl : Hdl
  valid : Bool
deriving DecidableEq

/-- `eth_bridge_client_flt_info`. -/
structure FltInfo where
  mac : MacAddr
  fltRuleHdl : Fam Hdl
  fltRuleSet : Fam Bool
deriving DecidableEq

def FltInfo.record (e : FltInfo) (mac : MacAddr) (ip : IpType) (h : Hdl) : FltInfo where
  mac := mac
  fltRuleHdl := e.fltRuleHdl.set h ip
  fltRuleSet := e.fltRuleSet.set true ip

/-- The cleared entry behind the last client. -/
def FltInfo.cleared : FltInfo := ⟨Vector.replicate 6 0, ⟨0, 0⟩, ⟨false, false⟩⟩

/-- `eth_bridge_client_rt_info`. -/
structure RtInfo where
  mac : MacAddr
  rtRuleHdl : List Hdl
deriving DecidableEq

/-- The members the rules depend on; of the TX properties their IP type. -/
structure Config where
  rxProp : Bool
  txProp : Option (List IpType)
  usbToWlanHdrProcCtx : Bool
  wlanToUsbHdrProcCtx : Bool
  usbHdrType : HdrL2Type
  wlanHdrType : HdrL2Type

/-- The tables of the interface, and in the driver the client of each live
filter rule and of each live routing rule. -/
structure Bridge where
  wlanClientFltRuleHdl : Fam (List Slot)
  wlanClientFltInfo : List FltInfo
  usbClientRtInfo : Fam (List RtInfo)
  fltLive : Fam (Hdl → Option MacAddr)
  rtLive : Fam (Hdl → Option MacAddr)

namespace Bridge

def setSlot (s : Bridge) (ip : IpType) (j : Nat) (valid : Bool) : Bridge :=
  { s with
    wlanClientFltRuleHdl := s.wlanClientFltRuleHdl.set
      ((s.wlanClientFltRuleHdl.get ip).modify j fun slot => { slot with valid := valid }) ip }

/-- A `ModifyFilteringRule` that succeeds: the rule is for the client, or a
dummy. -/
def modifyFlt (s : Bridge) (ip : IpType) (h : Hdl) (client : Option MacAddr) : Bridge :=
  { s with fltLive := s.fltLive.set (Function.update (s.fltLive.get ip) h client) ip }

def findFlt (s : Bridge) (mac : MacAddr) : Option Nat :=
  s.wlanClientFltInfo.findIdx? fun e => e.mac = mac

/-- The entry of the client gets the handle, or a new entry does. -/
def recordFlt (s : Bridge) (mac : MacAddr) (ip : IpType) (h : Hdl) : Bridge :=
  { s with
    wlanClientFltInfo :=
      match s.findFlt mac with
      | some i => s.wlanClientFltInfo.modify i fun e => FltInfo.record e mac ip h
      | none => s.wlanClientFltInfo ++ [FltInfo.record .cleared mac ip h] }

def fltRuleIsSet (s : Bridge) (mac : MacAddr) (ip : IpType) : Bool :=
  s.wlanClientFltInfo.any fun e => e.mac = mac && e.fltRuleSet.get ip

/-- `eth_bridge_add_wlan_client_flt_rule`, for what `GetRoutingTable` and
`ModifyFilteringRule` answer. -/
def addWlanClientFltRule (cfg : Config) (s : Bridge) (mac : MacAddr) (ip : IpType)
    (getTable modify : Bool) : Bool × Bridge :=
  if cfg.rxProp = false then (false, s)
  else if cfg.usbToWlanHdrProcCtx = false then (false, s)
  else if s.fltRuleIsSet mac ip then (true, s)
  else if s.findFlt mac = none ∧ s.wlanClientFltInfo.length = ipaLanToLanMaxWlanClient then
    (false, s)
  else if getTable = false then (false, s)
  else if cfg.usbHdrType = .other then (false, s)
  else
    match (s.wlanClientFltRuleHdl.get ip).findIdx? Slot.valid with
    | none => (false, s)
    | some j =>
        let taken := s.setSlot ip j false
        let h := ((s.wlanClientFltRuleHdl.get ip).map Slot.ruleHdl).getD j 0
        if modify = false then (false, taken)
        else (true, (taken.modifyFlt ip h (some mac)).recordFlt mac ip h)

/-- One family of `eth_bridge_del_wlan_client_flt_rule`, for what the driver
answers to `reset_to_dummy_flt_rule`. -/
def resetFlt (s : Bridge) (e : FltInfo) (ip : IpType) (reset : Bool) : Bool × Bridge :=
  if e.fltRuleSet.get ip = false then (true, s)
  else if reset = false then (false, s)
  else
    let dummy := s.modifyFlt ip (e.fltRuleHdl.get ip) none
    match (s.wlanClientFltRuleHdl.get ip).findIdx? fun slot =>
        slot.ruleHdl = e.fltRuleHdl.get ip with
    | none => (false, dummy)
    | some j => (true, dummy.setSlot ip j true)

/-- `eth_bridge_del_wlan_client_flt_rule`. -/
def delWlanClientFltRule (s : Bridge) (mac : MacAddr) (reset : Fam Bool) : Bool × Bridge :=
  match s.findFlt mac with
  | none => (false, s)
  | some i =>
      let e := s.wlanClientFltInfo.getD i .cleared
      let v4 := s.resetFlt e .v4 reset.v4
      if v4.1 = false then (false, v4.2)
      else
        let v6 := v4.2.resetFlt e .v6 reset.v6
        if v6.1 = false then (false, v6.2)
        else (true, { v6.2 with wlanClientFltInfo := s.wlanClientFltInfo.eraseIdx i })

/-- `each_client_rt_rule_count_v4` and `each_client_rt_rule_count_v6`. -/
def eachClientRtRuleCount (tx : List IpType) (ip : IpType) : Nat :=
  tx.countP fun txIp => txIp = ip

/-- The loop over the TX properties fills the table of rules, from the place
`position`. -/
def fillRtRules (ip : IpType) (numRtRule : Nat) (hdrType : HdrL2Type) :
    List IpType → Nat → Bool
  | [], _ => true
  | txIp :: tx, position =>
      if txIp = ip then
        if numRtRule ≤ position then false
        else if hdrType = .other then false
        else fillRtRules ip numRtRule hdrType tx (position + 1)
      else fillRtRules ip numRtRule hdrType tx position

/-- `AddRoutingRule`: the driver refuses the rules, or takes them all under
handles that are not zero and not in use. -/
def takesRt (s : Bridge) (ip : IpType) (numRtRule : Nat) (offer : Option (List Hdl)) :
    Option (List Hdl) :=
  offer.filter fun hdls => hdls.length = numRtRule ∧ hdls.Nodup ∧
    hdls.all fun h => h ≠ 0 ∧ s.rtLive.get ip h = none

def recordRt (s : Bridge) (mac : MacAddr) (ip : IpType) (hdls : List Hdl) : Bridge :=
  { s with
    rtLive := s.rtLive.set (fun h => if h ∈ hdls then some mac else s.rtLive.get ip h) ip
    usbClientRtInfo := s.usbClientRtInfo.set (s.usbClientRtInfo.get ip ++ [⟨mac, hdls⟩]) ip }

/-- `eth_bridge_add_usb_client_rt_rule`. -/
def addUsbClientRtRule (cfg : Config) (s : Bridge) (mac : MacAddr) (ip : IpType)
    (offer : Option (List Hdl)) : Bool × Bridge :=
  match cfg.txProp with
  | none => (true, s)
  | some tx =>
      if (s.usbClientRtInfo.get ip).length = ipaLanToLanMaxUsbClient then (false, s)
      else if cfg.wlanToUsbHdrProcCtx = false then (false, s)
      else if (s.usbClientRtInfo.get ip).any fun e => e.mac = mac then (true, s)
      else if fillRtRules ip (eachClientRtRuleCount tx ip) cfg.wlanHdrType tx 0 = false then
        (false, s)
      else
        match s.takesRt ip (eachClientRtRuleCount tx ip) offer with
        | none => (false, s)
        | some hdls => (true, s.recordRt mac ip hdls)

/-- `DeleteRoutingHdl` returns true also when the driver refuses; it passes
over the handle 0. -/
def deleteRoutingHdl (willing : Hdl → Bool) (live : Hdl → Option MacAddr) (h : Hdl) :
    Bool × (Hdl → Option MacAddr) :=
  if h = 0 then (true, live)
  else if willing h = true then (true, Function.update live h none)
  else (true, live)

/-- The loop over the handles of a client. -/
def deleteRoutingHdls (willing : Hdl → Bool) :
    List Hdl → (Hdl → Option MacAddr) → Bool × (Hdl → Option MacAddr)
  | [], live => (true, live)
  | h :: hdls, live =>
      let deleted := deleteRoutingHdl willing live h
      if deleted.1 = false then (false, deleted.2)
      else deleteRoutingHdls willing hdls deleted.2

/-- One table of `eth_bridge_del_usb_client_rt_rule`. -/
def delRt (s : Bridge) (mac : MacAddr) (ip : IpType) (willing : Hdl → Bool) :
    Bool × Bridge :=
  match (s.usbClientRtInfo.get ip).findIdx? fun e => e.mac = mac with
  | none => (false, s)
  | some i =>
      let hdls := ((s.usbClientRtInfo.get ip).map RtInfo.rtRuleHdl).getD i []
      let deleted := deleteRoutingHdls willing hdls (s.rtLive.get ip)
      if deleted.1 = false then (false, { s with rtLive := s.rtLive.set deleted.2 ip })
      else
        (true, { s with
          rtLive := s.rtLive.set deleted.2 ip
          usbClientRtInfo :=
            s.usbClientRtInfo.set ((s.usbClientRtInfo.get ip).eraseIdx i) ip })

/-- `eth_bridge_del_usb_client_rt_rule`, for the handles the driver is willing
to delete. -/
def delUsbClientRtRule (cfg : Config) (s : Bridge) (mac : MacAddr)
    (willing : Fam (Hdl → Bool)) : Bool × Bridge :=
  if cfg.txProp = none then (true, s)
  else
    let v4 := s.delRt mac .v4 willing.v4
    if v4.1 = false then (false, v4.2)
    else v4.2.delRt mac .v6 willing.v6

end Bridge

end LibraDevice.EthBridge
