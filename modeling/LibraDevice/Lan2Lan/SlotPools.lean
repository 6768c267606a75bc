import LibraDevice.Backhaul.Iface
import LibraDevice.LanToLan.Client
import LibraDevice.Lib.CBuffer
import LibraDevice.Lib.HandlePool
import LibraDevice.Lib.StepRun
import Mathlib.Logic.Function.Basic

/-!
The rules and headers that the interfaces install for pairs of clients on
different interfaces: filter rules rewritten in place, headers with a name, and
routing rules. What the driver answers comes with each call.
-/

namespace LibraDevice.Lan2Lan

open LibraDevice.HandlePool
open CBuffer (strlcpy)
open Backhaul (Hdl)
open LanToLan (IpType MacAddr maxOffloadPair)

abbrev Ipv6Addr := BitVec 32 × BitVec 32 × BitVec 32 × BitVec 32

def maxNumProp : Nat := 8

/-- The classes of the interfaces, `IPACM_Lan` and `IPACM_Wlan`. -/
inductive Kind
  | lan
  | wlan
deriving DecidableEq, Repr

structure TxProp where
  ip : IpType
  dstPipe : Nat
deriving DecidableEq, Repr

/-- The properties of an interface. -/
structure Iface where
  kind : Kind
  rxProp : Bool
  txProp : Option (List TxProp)
deriving DecidableEq, Repr

/-- Sizes that the driver's header file gives. The longest name fits with its
end. -/
structure Limits where
  ipaHdrMaxSize : Nat
  ipaResourceNameMax : Nat
  name_fits : 17 ≤ ipaResourceNameMax

/-- The addresses of a pair of clients; those of the other IP type are not
looked at. -/
structure Pair where
  srcV4Addr : BitVec 32
  dstV4Addr : BitVec 32
  srcV6Addr : Option Ipv6Addr
  dstV6Addr : Option Ipv6Addr
deriving DecidableEq, Repr

/-- A filter rule is a dummy, or rewritten for a pair. -/
inductive FltRule
  | dummy
  | pair (pair : Pair)
deriving DecidableEq, Repr

structure Header (ι : Type) where
  iface : ι
  ip : IpType
  hdrHdl : Hdl
  name : List Char
deriving DecidableEq, Repr

structure RtRule where
  ip : IpType
  rtRuleHdl : Hdl
  hdrHdl : Hdl
  dstPipe : Nat
  pair : Pair
deriving DecidableEq, Repr

/-- The filter rules, the live headers and the live routing rules. -/
structure Driver (ι : Type) where
  flt : Hdl → Option FltRule
  headers : List (Header ι)
  rt : List RtRule

/-- The slots of an interface for one IP type. The counter is a byte. -/
structure Pool where
  lan2lanFltRuleHdl : List (Slot Hdl)
  numLan2lanFltRule : Nat
  lan2lanHdrHdl : List (Slot Hdl)
deriving DecidableEq, Repr

/-- The driver and the interfaces. The last fields are the handles that have
been returned and not been deleted since. -/
structure Sys (ι : Type) where
  driver : Driver ι
  pools : ι → IpType → Pool
  fltReturned : List Hdl
  hdrReturned : List Hdl
  rtReturned : List (List Hdl)

/-- What the interfaces are, and the filter rules as
`add_dummy_lan2lan_flt_rule` leaves them: no two slots have the same rule. -/
structure Setup (ι : Type) where
  ifaces : ι → Iface
  rules : Hdl → Bool
  fltHdls : ι → IpType → List Hdl
  length : ∀ i ip, (fltHdls i ip).length = maxOffloadPair
  once : ∀ i ip, ((fltHdls i ip).filter rules).Nodup
  apart : ∀ i ip i' ip', (i, ip) ≠ (i', ip') →
    ∀ h ∈ fltHdls i ip, h ∈ fltHdls i' ip' → rules h = false

/-- `IPACM_SUCCESS` and `IPACM_FAILURE`. -/
inductive Result
  | success
  | failure
deriving DecidableEq, Repr

/-- The driver refuses a request, or it says in the status of the entry that it
has not been done, or it is done. -/
inductive Answer
  | refused
  | badStatus
  | done
deriving DecidableEq, Repr

/-- The same for what is added, with the handle. -/
inductive AddAnswer
  | refused
  | badStatus
  | done (hdl : Hdl)
deriving DecidableEq, Repr

namespace Pool

/-- As the constructor leaves the slots, but for the filter rules. -/
def init (hdls : List Hdl) : Pool where
  lan2lanFltRuleHdl := hdls.map fun h => ⟨h, false⟩
  numLan2lanFltRule := 0
  lan2lanHdrHdl := List.replicate maxOffloadPair ⟨0, false⟩

end Pool

/-- `IPA_LAN_TO_LAN_USB_HDR_NAME_V4` and its siblings. -/
def hdrName : Kind → IpType → List Char
  | .lan, .v4 => "Lan2Lan_USB_v4".toList
  | .lan, _ => "Lan2Lan_USB_v6".toList
  | .wlan, .v4 => "Lan2Lan_Wlan_v4".toList
  | .wlan, _ => "Lan2Lan_Wlan_v6".toList

/-- `snprintf` of a number into `index`. -/
def index (j : Nat) : List Char := (Nat.toDigits 10 j).take 3

/-- The result, and the length that it would have with enough room. -/
def strlcat (dst src : List Char) (size : Nat) : List Char × Nat :=
  ((dst ++ src).take (size - 1), dst.length + src.length)

/-- The name of the header of a slot. -/
def slotName (lim : Limits) (kind : Kind) (ip : IpType) (j : Nat) : List Char × Nat :=
  strlcat (strlcpy (hdrName kind ip) lim.ipaResourceNameMax) (index j)
    lim.ipaResourceNameMax

namespace Sys

variable {ι : Type}

def init (setup : Setup ι) : Sys ι where
  driver := ⟨fun h => if setup.rules h then some .dummy else none, [], []⟩
  pools := fun i ip => .init (setup.fltHdls i ip)
  fltReturned := []
  hdrReturned := []
  rtReturned := []

/-- `ModifyFilteringRule` of one rule, which does not look at its status. -/
def modifyFilteringRule (h : Hdl) (rule : FltRule) (answer : Answer) (s : Sys ι) :
    Option (Bool × Sys ι) :=
  match answer with
  | .refused => some (false, s)
  | .badStatus => some (true, s)
  | .done =>
      if s.driver.flt h = none then none
      else
        some (true,
          { s with driver := { s.driver with flt := Function.update s.driver.flt h (some rule) } })

variable [DecidableEq ι]

def setPool (i : ι) (ip : IpType) (p : Pool) (s : Sys ι) : Sys ι :=
  { s with pools := Function.update s.pools i (Function.update (s.pools i) ip p) }

/-- `add_lan2lan_flt_rule`; `table` is the answer to `GetRoutingTable`. -/
def addLan2lanFltRule (setup : Setup ι) (i : ι) (iptype : IpType) (pair : Pair) (table : Bool)
    (mdfy : Answer) (s : Sys ι) : Option (Result × Sys ι) :=
  let p := s.pools i iptype
  if (setup.ifaces i).rxProp = false then some (.failure, s)
  else if iptype = .max then some (.failure, s)
  else if maxOffloadPair ≤ p.numLan2lanFltRule then some (.failure, s)
  else if iptype = .v6 ∧ (pair.srcV6Addr = none ∨ pair.dstV6Addr = none) then
    some (.failure, s)
  else if table = false then some (.failure, s)
  else
    match free? p.lan2lanFltRuleHdl with
    | none => some (.failure, s)
    | some j => do
        let x ← p.lan2lanFltRuleHdl[j]?
        let (modified, s) ← s.modifyFilteringRule x.hdl (.pair pair) mdfy
        if modified then
          let s := s.setPool i iptype
            { p with
              lan2lanFltRuleHdl := p.lan2lanFltRuleHdl.set j ⟨x.hdl, true⟩
              numLan2lanFltRule := (p.numLan2lanFltRule + 1) % 256 }
          some (.success, { s with fltReturned := x.hdl :: s.fltReturned })
        else some (.failure, s)

/-- `del_lan2lan_flt_rule`, with `reset_to_dummy_flt_rule`. -/
def delLan2lanFltRule (i : ι) (iptype : IpType) (ruleHdl : Hdl) (mdfy : Answer) (s : Sys ι) :
    Option (Result × Sys ι) :=
  let p := s.pools i iptype
  if iptype = .max then some (.failure, s)
  else
    match slotOf? ruleHdl p.lan2lanFltRuleHdl with
    | none => some (.failure, s)
    | some j => do
        let (modified, s) ← s.modifyFilteringRule ruleHdl .dummy mdfy
        if modified then
          let s := s.setPool i iptype
            { p with
              lan2lanFltRuleHdl := p.lan2lanFltRuleHdl.set j ⟨ruleHdl, false⟩
              numLan2lanFltRule := (p.numLan2lanFltRule + 255) % 256 }
          some (.success, { s with fltReturned := s.fltReturned.erase ruleHdl })
        else some (.failure, s)

omit [DecidableEq ι] in
/-- What `add_lan2lan_hdr` does before it has a slot for the header, which is
the number it goes on with. `copy` is the length that `CopyHeader` answers with,
and `clients` has the addresses of the clients of a WLAN interface. -/
def hdrSlot (setup : Setup ι) (lim : Limits) (i : ι) (iptype : IpType) (dstMac : MacAddr)
    (clients : List MacAddr) (copy : Option Nat) (s : Sys ι) : Except Result Nat :=
  match (setup.ifaces i).txProp with
  | none => .error .failure
  | some props =>
      if iptype = .max then .error .success
      else if props.all (·.ip ≠ iptype) then .error .success
      else
        match copy with
        | none => .error .failure
        | some hdr_len =>
            if lim.ipaHdrMaxSize < hdr_len then .error .failure
            else if (setup.ifaces i).kind = .wlan ∧ dstMac ∉ clients then .error .failure
            else
              match free? (s.pools i iptype).lan2lanHdrHdl with
              | none => .error .failure
              | some j => .ok j

/-- `add_lan2lan_hdr` of an interface of either class. -/
def addLan2lanHdr (setup : Setup ι) (lim : Limits) (i : ι) (iptype : IpType) (dstMac : MacAddr)
    (clients : List MacAddr) (copy : Option Nat) (add : AddAnswer) (s : Sys ι) :
    Option (Result × Sys ι) :=
  match s.hdrSlot setup lim i iptype dstMac clients copy with
  | .error result => some (result, s)
  | .ok j => do
      let p := s.pools i iptype
      let x ← p.lan2lanHdrHdl[j]?
      -- the slot is in use before its header is there
      let marked := s.setPool i iptype
        { p with lan2lanHdrHdl := p.lan2lanHdrHdl.set j ⟨x.hdl, true⟩ }
      let name := slotName lim (setup.ifaces i).kind iptype j
      if lim.ipaResourceNameMax < name.2 then some (.failure, marked)
      else
        match add with
        | .done h =>
            if h ∈ s.driver.headers.map Header.hdrHdl then none
            else
              let s := s.setPool i iptype
                { p with lan2lanHdrHdl := p.lan2lanHdrHdl.set j ⟨h, true⟩ }
              some (.success,
                { s with
                  driver := { s.driver with headers := ⟨i, iptype, h, name.1⟩ :: s.driver.headers }
                  hdrReturned := h :: s.hdrReturned })
        | .refused => some (.failure, marked)
        | .badStatus => some (.failure, marked)

/-- `del_lan2lan_hdr`; `accepts` is the answer of the driver. -/
def delLan2lanHdr (i : ι) (iptype : IpType) (hdrHdl : Hdl) (accepts : Bool) (s : Sys ι) :
    Option (Result × Sys ι) :=
  if hdrHdl = 0 ∨ accepts = false then some (.failure, s)
  else if hdrHdl ∉ s.driver.headers.map Header.hdrHdl then none
  else
    let p := s.pools i iptype
    let s :=
      { s with
        driver := { s.driver with
          headers := s.driver.headers.filter fun x => x.hdrHdl ≠ hdrHdl }
        hdrReturned := s.hdrReturned.erase hdrHdl }
    if iptype = .max then some (.failure, s)
    else
      match slotOf? hdrHdl p.lan2lanHdrHdl with
      | none => some (.failure, s)
      | some j =>
          some (.success, s.setPool i iptype
            { p with lan2lanHdrHdl := p.lan2lanHdrHdl.set j ⟨hdrHdl, false⟩ })

/-- The loop over the properties. A rule that has not been added for its status
leaves the handle of the entry as it was. -/
def addRoutingRules (iptype : IpType) (pair : Pair) (hdrHdl : Hdl) :
    List TxProp → List AddAnswer → Hdl → List Hdl → List RtRule →
      Option (Result × List Hdl × List RtRule)
  | [], [], _, ruleHdl, rt => some (.success, ruleHdl, rt)
  | _ :: _, [.refused], _, ruleHdl, rt => some (.failure, ruleHdl, rt)
  | _ :: props, .badStatus :: adds, entry, ruleHdl, rt =>
      addRoutingRules iptype pair hdrHdl props adds entry (ruleHdl ++ [entry]) rt
  | prop :: props, .done h :: adds, _, ruleHdl, rt =>
      if h ∈ rt.map RtRule.rtRuleHdl then none
      else
        addRoutingRules iptype pair hdrHdl props adds h (ruleHdl ++ [h])
          (⟨iptype, h, hdrHdl, prop.dstPipe, pair⟩ :: rt)
  | _, _, _, _, _ => none

omit [DecidableEq ι] in
def addLan2lanRtRule (setup : Setup ι) (i : ι) (iptype : IpType) (pair : Pair) (hdrHdl : Hdl)
    (adds : List AddAnswer) (s : Sys ι) : Option (Result × Sys ι) :=
  match (setup.ifaces i).txProp with
  | none => some (.failure, s)
  | some props =>
      if iptype = .max then some (.success, { s with rtReturned := [] :: s.rtReturned })
      else if iptype = .v6 ∧ (pair.srcV6Addr = none ∨ pair.dstV6Addr = none) then
        some (.failure, s)
      else do
        let (result, ruleHdl, rt) ←
          addRoutingRules iptype pair hdrHdl (props.filter (·.ip = iptype)) adds 0 [] s.driver.rt
        let s := { s with driver := { s.driver with rt := rt } }
        match result with
        | .success => some (.success, { s with rtReturned := ruleHdl :: s.rtReturned })
        | .failure => some (.failure, s)

omit [DecidableEq ι] in
/-- `del_lan2lan_rt_rule`. What the driver answers does not come back from
`DeleteRoutingHdl`. -/
def delLan2lanRtRule (ruleHdl : List Hdl) (accepts : List Bool) (s : Sys ι) :
    Option (Result × Sys ι) :=
  if ruleHdl.length = 0 ∨ maxNumProp < ruleHdl.length then some (.failure, s)
  else
    let deleted := (ruleHdl.zip accepts).filter fun x => x.1 ≠ 0 ∧ x.2
    some (.success,
      { s with
        driver := { s.driver with
          rt := s.driver.rt.filter fun x => x.rtRuleHdl ∉ deleted.map Prod.fst }
        rtReturned := s.rtReturned.erase ruleHdl })

end Sys

/-- A call of an interface, with the answers of the driver. -/
inductive Call (ι : Type)
  | addLan2lanFltRule (i : ι) (iptype : IpType) (pair : Pair) (table : Bool) (mdfy : Answer)
  | delLan2lanFltRule (i : ι) (iptype : IpType) (ruleHdl : Hdl) (mdfy : Answer)
  | addLan2lanHdr (i : ι) (iptype : IpType) (dstMac : MacAddr) (clients : List MacAddr)
      (copy : Option Nat) (add : AddAnswer)
  | delLan2lanHdr (i : ι) (iptype : IpType) (hdrHdl : Hdl) (accepts : Bool)
  | addLan2lanRtRule (i : ι) (iptype : IpType) (pair : Pair) (hdrHdl : Hdl)
      (adds : List AddAnswer)
  | delLan2lanRtRule (i : ι) (iptype : IpType) (ruleHdl : List Hdl) (accepts : List Bool)

namespace Sys

variable {ι : Type}

/-- Only handles that have been returned and not been deleted are deleted. -/
def Returned (s : Sys ι) : Call ι → Prop
  | .delLan2lanFltRule _ _ ruleHdl _ => ruleHdl ∈ s.fltReturned
  | .delLan2lanHdr _ _ hdrHdl _ => hdrHdl ∈ s.hdrReturned
  | .delLan2lanRtRule _ _ ruleHdl _ => ruleHdl ∈ s.rtReturned
  | _ => True

variable [DecidableEq ι]

def call (setup : Setup ι) (lim : Limits) (s : Sys ι) : Call ι → Option (Result × Sys ι)
  | .addLan2lanFltRule i iptype pair table mdfy =>
      s.addLan2lanFltRule setup i iptype pair table mdfy
  | .delLan2lanFltRule i iptype ruleHdl mdfy => s.delLan2lanFltRule i iptype ruleHdl mdfy
  | .addLan2lanHdr i iptype dstMac clients copy add =>
      s.addLan2lanHdr setup lim i iptype dstMac clients copy add
  | .delLan2lanHdr i iptype hdrHdl accepts => s.delLan2lanHdr i iptype hdrHdl accepts
  | .addLan2lanRtRule i iptype pair hdrHdl adds =>
      s.addLan2lanRtRule setup i iptype pair hdrHdl adds
  | .delLan2lanRtRule _ _ ruleHdl accepts => s.delLan2lanRtRule ruleHdl accepts

/-- A call, with its result. -/
def Steps (setup : Setup ι) (lim : Limits) (s : Sys ι) (c : Call ι × Result) (s' : Sys ι) :
    Prop :=
  s.Returned c.1 ∧ s.call setup lim c.1 = some (c.2, s')

end Sys

end LibraDevice.Lan2Lan
