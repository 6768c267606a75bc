import LibraDevice.NatCache.App
import LibraDevice.LanToLan.Client

/-!
`IPACM_ConntrackListener`: which connections reach the NAT cache, and how. The
lan to lan connections it also reports are left out.
-/

namespace LibraDevice.Conntrack

open IpaNat (ipprotoTcp ipprotoUdp)
open LanToLan (IpType)
open NatCache

def maxNatIfaces : Nat := 50
def maxStaClntIfaces : Nat := 10

def ipsSrcNat : UInt32 := 0x10
def ipsDstNat : UInt32 := 0x20
def tcpConntrackEstablished : UInt8 := 3
def tcpConntrackFinWait : UInt8 := 4

/-- `nf_conntrack_msg_type`. -/
inductive MsgType where
  | new
  | update
  | destroy
  | error
deriving DecidableEq, Repr

/-- The attributes of an `nf_conntrack` that are read, in host order. -/
structure NfConntrack where
  status : UInt32
  origL4proto : UInt8
  replL4proto : UInt8
  origIpv4Src : UInt32
  origIpv4Dst : UInt32
  origPortSrc : UInt16
  origPortDst : UInt16
  replIpv4Src : UInt32
  replPortSrc : UInt16
  replPortDst : UInt16
  tcpState : UInt8
deriving DecidableEq, Repr

/-- The part of `IPACM_Config` the listener asks for. -/
structure Config where
  privateSubnetTable : List (UInt32 × UInt32)
  natIfaces : List String

/-- `IPACM_Config::isPrivateSubnet`, on pairs of `subnet_addr` and `subnet_mask`. -/
def Config.isPrivateSubnet (cfg : Config) (ipAddr : UInt32) : Bool :=
  cfg.privateSubnetTable.any fun subnet => subnet.1 == (subnet.2 &&& ipAddr)

/-- The members of `IPACM_ConntrackListener`, with a `nat_inst` that is not null. -/
structure CtListener (δ : Type) where
  wanUp : Bool
  isStaMode : Bool
  wanIpaddr : UInt32
  natIfaceIpv4Addr : List UInt32
  nonnatIfaceIpv4Addr : List UInt32
  staClntIpv4Addr : List UInt32
  staClntCnt : Int
  natInst : NatApp δ

/-- After the constructor, which leaves `isStaMode` and `wan_ipaddr` as they are. -/
def CtListener.init {δ : Type} (isStaMode : Bool) (wanIpaddr : UInt32) (natInst : NatApp δ) :
    CtListener δ where
  wanUp := false
  isStaMode := isStaMode
  wanIpaddr := wanIpaddr
  natIfaceIpv4Addr := List.replicate maxNatIfaces 0
  nonnatIfaceIpv4Addr := List.replicate maxNatIfaces 0
  staClntIpv4Addr := List.replicate maxStaClntIfaces 0
  staClntCnt := 0
  natInst := natInst

/-- The `status` a connection is handled under. -/
inductive NatStatus where
  | dstNat
  | srcNat
deriving DecidableEq, Repr

/-- The status and the `public_ip`, which only a connection without NAT flags gets. -/
def natStatus (wanIpaddr : UInt32) (ct : NfConntrack) : Option (NatStatus × UInt16) :=
  if ipsDstNat &&& ct.status ≠ 0 then some (.dstNat, 0)
  else if ipsSrcNat &&& ct.status ≠ 0 then some (.srcNat, 0)
  else if ct.origIpv4Src = 0 then none
  else if ct.origIpv4Dst = 0 then none
  else if ct.origIpv4Src = wanIpaddr then some (.srcNat, wanIpaddr.toUInt16)
  else if ct.origIpv4Dst = wanIpaddr then some (.dstNat, wanIpaddr.toUInt16)
  else none

/-- The rule of a connection, from its original and its reply tuple. -/
def ctRule (status : NatStatus) (publicIp : UInt16) (ct : NfConntrack) : NatTableEntry :=
  let rule := { NatTableEntry.zeroed with protocol := ct.replL4proto, publicIp := publicIp }
  match status with
  | .dstNat =>
    { rule with
      dstNat := true
      targetIp := ct.origIpv4Src
      targetPort := ct.origPortSrc
      publicPort := ct.origPortDst
      privateIp := ct.replIpv4Src
      privatePort := ct.replPortSrc }
  | .srcNat =>
    { rule with
      dstNat := false
      targetIp := ct.origIpv4Dst
      targetPort := ct.origPortDst
      publicPort := ct.replPortDst
      privateIp := ct.origIpv4Src
      privatePort := ct.origPortSrc }

/-- Where a message leads: it is ignored, its rule is ignored as not that of a
STA client, or its rule is handled, as a temporary entry or not. -/
inductive Verdict where
  | ignore
  | notStaClnt (rule : NatTableEntry)
  | add (rule : NatTableEntry) (isTempEntry : Bool)
deriving DecidableEq, Repr

section

variable {δ : Type}

/-- The rule is between a client of a NAT interface and some address. -/
def matchesNatIface (rule : NatTableEntry) (lst : CtListener δ) : Bool :=
  lst.natIfaceIpv4Addr.any fun addr =>
    addr != 0 && (rule.privateIp == addr || rule.targetIp == addr)

def staSubnet (addr : UInt32) : UInt32 := addr &&& 0xFFFFFF00

/-- The test for a STA client as the target; only the first `StaClntCnt` slots
are looked at, and slot 0 names the subnet. -/
def passesStaClnt (rule : NatTableEntry) (lst : CtListener δ) : Bool :=
  !lst.isStaMode || lst.staClntCnt == 0 ||
    staSubnet (lst.staClntIpv4Addr.headD 0) != staSubnet rule.targetIp ||
    (lst.staClntIpv4Addr.take lst.staClntCnt.toNat).contains rule.targetIp

def staVerdict (rule : NatTableEntry) (isTempEntry : Bool) (lst : CtListener δ) : Verdict :=
  if passesStaClnt rule lst then .add rule isTempEntry else .notStaClnt rule

/-- `IPACM_ConntrackListener::ProcessTCPorUDPMsg` up to the label `ADD`. -/
def ctVerdict (cfg : Config) (ct : NfConntrack) (lst : CtListener δ) : Verdict :=
  match natStatus lst.wanIpaddr ct with
  | none => .ignore
  | some (status, publicIp) =>
    let rule := ctRule status publicIp ct
    if rule.privateIp ≠ lst.wanIpaddr then
      if matchesNatIface rule lst then staVerdict rule false lst
      else if cfg.isPrivateSubnet rule.privateIp || cfg.isPrivateSubnet rule.targetIp then
        staVerdict rule true lst
      else .ignore
    else if lst.isStaMode then .ignore
    else staVerdict { rule with privatePort := rule.publicPort } false lst

/-- What a message says about its connection. -/
inductive CtChange where
  | opened
  | closed
  | other
deriving DecidableEq, Repr

def ctChange (protocol : UInt8) (tcpState : UInt8) (type : MsgType) : CtChange :=
  if protocol = ipprotoTcp then
    if tcpState = tcpConntrackEstablished then .opened
    else if tcpState = tcpConntrackFinWait ∨ type = .destroy then .closed
    else .other
  else if protocol = ipprotoUdp then
    match type with
    | .new => .opened
    | .destroy => .closed
    | _ => .other
  else .other

variable (d : NatDriver δ) (cfg : Config)

/-- `ProcessTCPorUDPMsg` from the label `ADD` on; `cnt` is the value that
`CacheEntry` starts from. -/
def addRule (rule : NatTableEntry) (isTempEntry : Bool) (change : CtChange) (cnt : Nat)
    (lst : CtListener δ) : NatApp δ :=
  match change with
  | .opened =>
    if lst.wanUp = false then cacheEntry cnt rule lst.natInst
    else if isTempEntry then addTempEntry rule lst.natInst
    else (addEntry d rule lst.natInst).2
  | .closed =>
    if isTempEntry then deleteTempEntry rule lst.natInst
    else (deleteEntry d rule lst.natInst).2
  | .other => lst.natInst

/-- `IPACM_ConntrackListener::ProcessTCPorUDPMsg`. -/
def processTCPorUDPMsg (ct : NfConntrack) (type : MsgType) (cnt : Nat) (lst : CtListener δ) :
    CtListener δ :=
  match ctVerdict cfg ct lst with
  | .add rule isTempEntry =>
    { lst with
      natInst := addRule d rule isTempEntry (ctChange rule.protocol ct.tcpState type) cnt lst }
  | _ => lst

/-- `IPACM_ConntrackListener::ProcessCTMessage`. -/
def processCTMessage (ct : NfConntrack) (type : MsgType) (cnt : Nat) (lst : CtListener δ) :
    CtListener δ :=
  if ct.origL4proto ≠ ipprotoUdp ∧ ct.origL4proto ≠ ipprotoTcp then lst
  else processTCPorUDPMsg d cfg ct type cnt lst

/-- `HandleNeighIpAddrAddEvt` on an address of no NAT interface. -/
def cacheNonNatIface (ipv4Addr : UInt32) (lst : CtListener δ) : CtListener δ :=
  match lst.nonnatIfaceIpv4Addr.findIdx? (· == 0) with
  | none => lst
  | some i =>
    { lst with
      nonnatIfaceIpv4Addr := lst.nonnatIfaceIpv4Addr.set i ipv4Addr
      natInst := flushTempEntries d ipv4Addr false lst.natInst }

/-- `HandleNeighIpAddrAddEvt` on an address of a NAT interface; with no slot left
it is treated like the others. -/
def addNatIface (ipv4Addr : UInt32) (lst : CtListener δ) : CtListener δ :=
  match lst.natIfaceIpv4Addr.findIdx? fun addr => addr == ipv4Addr || addr == 0 with
  | none => cacheNonNatIface d ipv4Addr lst
  | some j =>
    if lst.natIfaceIpv4Addr.getD j 0 = ipv4Addr then lst
    else
      { lst with
        natIfaceIpv4Addr := lst.natIfaceIpv4Addr.set j ipv4Addr
        natInst := flushTempEntries d ipv4Addr true (resetPwrSaveIf d ipv4Addr lst.natInst).2 }

/-- `IPACM_ConntrackListener::HandleNeighIpAddrAddEvt`; `ifrName` is missing when
one of the calls that look it up fails. -/
def handleNeighIpAddrAddEvt (ipv4Addr : UInt32) (iptype : IpType) (ifrName : Option String)
    (lst : CtListener δ) : CtListener δ :=
  if ipv4Addr = 0 ∨ iptype ≠ .v4 then lst
  else
    match ifrName with
    | none => lst
    | some name =>
      if cfg.natIfaces.contains name then addNatIface d ipv4Addr lst
      else cacheNonNatIface d ipv4Addr lst

/-- `IPACM_ConntrackListener::HandleNeighIpAddrDelEvt`. -/
def handleNeighIpAddrDelEvt (ipv4Addr : UInt32) (lst : CtListener δ) : CtListener δ :=
  if ipv4Addr = 0 then lst
  else
    { lst with
      natIfaceIpv4Addr := lst.natIfaceIpv4Addr.map fun addr => if addr = ipv4Addr then 0 else addr
      nonnatIfaceIpv4Addr :=
        lst.nonnatIfaceIpv4Addr.map fun addr => if addr = ipv4Addr then 0 else addr
      natInst := (delEntriesOnClntDiscon d ipv4Addr
        (flushTempEntries d ipv4Addr false lst.natInst)).2 }

/-- `IPACM_ConntrackListener::TriggerWANUp`, as `event_callback` calls it. -/
def handleWanUp (ipv4Addr : UInt32) (isSta : Bool) (lst : CtListener δ) : CtListener δ :=
  if lst.wanUp then lst
  else if ipv4Addr = 0 then lst
  else
    { lst with
      wanUp := true
      isStaMode := isSta
      wanIpaddr := ipv4Addr
      natInst := (addTable d ipv4Addr lst.natInst).2 }

/-- `IPACM_ConntrackListener::TriggerWANDown`, as `event_callback` calls it. -/
def handleWanDown (wanAddr : UInt32) (lst : CtListener δ) : CtListener δ :=
  if lst.wanUp then
    { lst with
      wanUp := false
      natInst := (deleteTable d wanAddr lst.natInst).2 }
  else lst

/-- `IPACM_ConntrackListener::HandleSTAClientAddEvt`. -/
def handleSTAClientAddEvt (clntIpAddr : UInt32) (lst : CtListener δ) : CtListener δ :=
  if (maxStaClntIfaces : Int) ≤ lst.staClntCnt then lst
  else
    match lst.staClntIpv4Addr.findIdx? fun addr => (addr != 0 && addr == clntIpAddr) || addr == 0
      with
    | none => lst
    | some cnt =>
      if lst.staClntIpv4Addr.getD cnt 0 = 0 then
        { lst with
          staClntIpv4Addr := lst.staClntIpv4Addr.set cnt clntIpAddr
          staClntCnt := lst.staClntCnt + 1 }
      else lst

/-- `IPACM_ConntrackListener::HandleSTAClientDelEvt`. -/
def handleSTAClientDelEvt (clntIpAddr : UInt32) (lst : CtListener δ) : CtListener δ :=
  match lst.staClntIpv4Addr.findIdx? fun addr => addr != 0 && addr == clntIpAddr with
  | none => lst
  | some cnt =>
    { lst with
      staClntIpv4Addr := lst.staClntIpv4Addr.set cnt 0
      staClntCnt := lst.staClntCnt - 1
      natInst := (delEntriesOnSTAClntDiscon d clntIpAddr lst.natInst).2 }

/-- What the listener is called with. -/
inductive CtEvent where
  | ctMessage (ct : NfConntrack) (type : MsgType) (cnt : Nat)
  | neighIpAddrAdd (ipv4Addr : UInt32) (iptype : IpType) (ifrName : Option String)
  | neighIpAddrDel (ipv4Addr : UInt32)
  | wanUp (ipv4Addr : UInt32) (isSta : Bool)
  | wanDown (wanAddr : UInt32)
  | staClientAdd (clntIpAddr : UInt32)
  | staClientDel (clntIpAddr : UInt32)

def eventCallback (lst : CtListener δ) : CtEvent → CtListener δ
  | .ctMessage ct type cnt => processCTMessage d cfg ct type cnt lst
  | .neighIpAddrAdd ipv4Addr iptype ifrName =>
    handleNeighIpAddrAddEvt d cfg ipv4Addr iptype ifrName lst
  | .neighIpAddrDel ipv4Addr => handleNeighIpAddrDelEvt d ipv4Addr lst
  | .wanUp ipv4Addr isSta => handleWanUp d ipv4Addr isSta lst
  | .wanDown wanAddr => handleWanDown d wanAddr lst
  | .staClientAdd clntIpAddr => handleSTAClientAddEvt clntIpAddr lst
  | .staClientDel clntIpAddr => handleSTAClientDelEvt d clntIpAddr lst

end

/-- A subnet that is private, and a NAT interface. -/
def lanConfig : Config where
  privateSubnetTable := [(0xC0A80000, 0xFFFF0000)]
  natIfaces := ["wlan0"]

end LibraDevice.Conntrack
