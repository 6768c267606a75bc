import Mathlib.Algebra.GroupWithZero.Nat
import Mathlib.Data.Fintype.Basic
import LibraDevice.Backhaul.Iface
import LibraDevice.Lib.Records

/-!
The decoder of netlink messages: the type-specific decoders fill the fields of
one `ipa_nl_msg_t`, and the events of each type of message are posted from these,
message by message of a buffer.
-/

namespace LibraDevice.Netlink

open LibraDevice.Bytes
open LibraDevice.Records
open Backhaul (IpType)

abbrev Word := BitVec 32

/-- The first four words of a `sockaddr_storage`. -/
abbrev Addr := Fin 4 → Word

def noAddr : Addr :=
  fun _ => 0

/-- An address has words. -/
scoped instance instNeZeroWords : NeZero 4 := ⟨by decide⟩

def afInet : Byte := 2

def afBridge : Byte := 7

def afInet6 : Byte := 10

/-- `ipa_nl_link_info_t`. -/
structure LinkInfo where
  ifiFamily : Byte
  ifiIndex : Word
  ifiFlags : Word
  ifiChange : Word
deriving DecidableEq

/-- `ipa_nl_addr_info_t`. -/
structure AddrInfo where
  ifaFamily : Byte
  ifaIndex : Word
  prefixFamily : Byte
  prefixAddr : Addr
deriving DecidableEq

/-- `ipa_nl_neigh_info_t`. -/
structure NeighInfo where
  ndmFamily : Byte
  ndmIfindex : Word
  localFamily : Byte
  localAddr : Addr
  lladdrHwaddr : Fin 6 → Byte
deriving DecidableEq

/-- `ipa_nl_route_info_t`; `dst` and `gateway` are bits of `param_mask`. -/
structure RouteInfo where
  rtmFamily : Byte
  rtmDstLen : Byte
  rtmTable : Byte
  rtmProtocol : Byte
  rtmScope : Byte
  rtmType : Byte
  dst : Bool
  gateway : Bool
  dstAddr : Addr
  oifIndex : Word
deriving DecidableEq

/-- `ipa_nl_msg_t`. -/
structure NlMsg where
  nlLinkInfo : LinkInfo
  nlAddrInfo : AddrInfo
  nlNeighInfo : NeighInfo
  nlRouteInfo : RouteInfo
deriving DecidableEq

def NlMsg.zeroed : NlMsg where
  nlLinkInfo := ⟨0, 0, 0, 0⟩
  nlAddrInfo := ⟨0, 0, 0, noAddr⟩
  nlNeighInfo := ⟨0, 0, 0, noAddr, fun _ => 0⟩
  nlRouteInfo := ⟨0, 0, 0, 0, 0, 0, false, false, noAddr, 0⟩

/-- `IPACM_NL_COPY_ADDR`, as far as anything reads of it. -/
def copyAddr (p : Ptr) : Addr :=
  fun i => (p.advance (4 * i)).u32

/-- The walk over the attributes: `RTA_OK` and `RTA_NEXT`. -/
def attributes {σ : Type} (attr : Nat → Ptr → σ → σ) (p : Ptr) (buflen : Nat) (s : σ) :
    Option σ :=
  records Ptr.u16 4 (fun p _ s => .next (attr (p.advance 2).u16 (p.advance 4) s)) p buflen s

def nlmsgData (buffer : Ptr) : Ptr :=
  buffer.advance 16

def decodeRtmLink (buffer : Ptr) : LinkInfo where
  ifiFamily := nlmsgData buffer 0
  ifiIndex := ((nlmsgData buffer).advance 4).u32
  ifiFlags := ((nlmsgData buffer).advance 8).u32
  ifiChange := ((nlmsgData buffer).advance 12).u32

/-- `IFA_ADDRESS` is 1. -/
def addrAttr (rtaType : Nat) (data : Ptr) (info : AddrInfo) : AddrInfo :=
  if rtaType = 1 then
    { info with prefixFamily := info.ifaFamily, prefixAddr := copyAddr data }
  else info

def decodeRtmAddr (buffer : Ptr) (buflen : Nat) (info : AddrInfo) : Option AddrInfo :=
  let data := nlmsgData buffer
  attributes addrAttr (data.advance 8) (buflen - 16)
    { info with
      ifaFamily := data 0
      ifaIndex := (data.advance 4).u32 }

/-- `NDA_DST` is 1, `NDA_LLADDR` is 2. -/
def neighAttr (rtaType : Nat) (data : Ptr) (info : NeighInfo) : NeighInfo :=
  if rtaType = 1 then
    { info with localFamily := info.ndmFamily, localAddr := copyAddr data }
  else if rtaType = 2 then
    { info with lladdrHwaddr := fun i => data i }
  else info

def decodeRtmNeigh (buffer : Ptr) (buflen : Nat) (info : NeighInfo) : Option NeighInfo :=
  let data := nlmsgData buffer
  attributes neighAttr (data.advance 12) (buflen - 16)
    { info with
      ndmFamily := data 0
      ndmIfindex := (data.advance 4).u32 }

/-- `RTA_DST` is 1, `RTA_OIF` is 4, `RTA_GATEWAY` is 5. -/
def routeAttr (rtaType : Nat) (data : Ptr) (info : RouteInfo) : RouteInfo :=
  if rtaType = 1 then
    { info with dstAddr := copyAddr data, dst := true }
  else if rtaType = 4 then
    { info with oifIndex := data.u32 }
  else if rtaType = 5 then
    { info with gateway := true }
  else info

def decodeRtmRoute (buffer : Ptr) (buflen : Nat) (info : RouteInfo) : Option RouteInfo :=
  let data := nlmsgData buffer
  attributes routeAttr (data.advance 12) (buflen - 16)
    { info with
      rtmFamily := data 0
      rtmDstLen := data 1
      rtmTable := data 4
      rtmProtocol := data 5
      rtmScope := data 6
      rtmType := data 7
      dst := false
      gateway := false }

def ntohl (w : Word) : Word :=
  w.extractLsb' 0 8 ++ w.extractLsb' 8 8 ++ w.extractLsb' 16 8 ++ w.extractLsb' 24 8

/-- `ipacm_event_data_addr`; a field that the code does not write is none. -/
structure EventDataAddr where
  iptype : IpType
  ifIndex : Word
  ipv4Addr : Option Word
  ipv4AddrMask : Option Word
  ipv6Addr : Option Addr
  ipv6AddrMask : Fin 4 → Option Word
deriving DecidableEq

/-- `ipacm_event_data_all`, zeroed before it is filled. -/
structure EventDataAll where
  iptype : IpType
  ifIndex : Word
  ipv4Addr : Word
  ipv6Addr : Addr
  macAddr : Fin 6 → Byte
deriving DecidableEq

inductive Event
  | linkUp (ifIndex : Word)
  | linkDown (ifIndex : Word)
  | usbLinkUp (ifIndex : Word)
  | addrAdd (data : EventDataAddr)
  | routeAdd (data : EventDataAddr)
  | routeDel (data : EventDataAddr)
  | newNeigh (data : EventDataAll)
  | delNeigh (data : EventDataAll)
deriving DecidableEq

/-- The parsed message, the locals that keep their values from message to
message, and the events posted so far. -/
structure State where
  msg : NlMsg
  ifIpv4Addr : Word
  ifIpipv4AddrMask : Word
  posted : List Event
deriving DecidableEq

def State.init : State where
  msg := NlMsg.zeroed
  ifIpv4Addr := 0
  ifIpipv4AddrMask := 0
  posted := []

def State.post (s : State) (event : Event) : State :=
  { s with posted := s.posted ++ [event] }

/-- The handled types, by the value of `nlmsg_type`. -/
inductive MsgType
  | newLink
  | delLink
  | newAddr
  | newRoute
  | delRoute
  | newNeigh
  | delNeigh
  | other
deriving DecidableEq

def MsgType.of (nlmsgType : Nat) : MsgType :=
  if nlmsgType = 16 then .newLink
  else if nlmsgType = 17 then .delLink
  else if nlmsgType = 20 then .newAddr
  else if nlmsgType = 24 then .newRoute
  else if nlmsgType = 25 then .delRoute
  else if nlmsgType = 28 then .newNeigh
  else if nlmsgType = 29 then .delNeigh
  else .other

def iffUp : Word := 1

def iffRunning : Word := 0x40

def iffLowerUp : Word := 0x10000

section

variable (ifName : Word → Bool)

/-- `RTM_NEWLINK`; `ifName` is whether `ipa_get_if_name` finds a name. -/
def newLink (s : State) : Visit State :=
  let link := s.msg.nlLinkInfo
  if link.ifiFamily = afBridge then
    .done s
  else if iffUp &&& link.ifiChange ≠ 0 ∧ ifName link.ifiIndex = false then
    .done s
  else
    let s :=
      if iffUp &&& link.ifiChange ≠ 0 then
        s.post (if link.ifiFlags &&& iffUp ≠ 0 then .linkUp link.ifiIndex
          else .linkDown link.ifiIndex)
      else s
    if link.ifiFlags &&& iffRunning ≠ 0 ∧ link.ifiFlags &&& iffLowerUp ≠ 0 then
      if ifName link.ifiIndex then .next (s.post (.usbLinkUp link.ifiIndex)) else .done s
    else if link.ifiFlags &&& iffLowerUp = 0 then
      if ifName link.ifiIndex then .next (s.post (.linkDown link.ifiIndex)) else .done s
    else
      .next s

/-- `RTM_DELLINK`. -/
def delLink (s : State) : Visit State :=
  let link := s.msg.nlLinkInfo
  if link.ifiFamily = afBridge ∨ ifName link.ifiIndex = false then .done s
  else .next (s.post (.linkDown link.ifiIndex))

/-- `RTM_NEWADDR`, which does without a name. -/
def newAddr (s : State) : Visit State :=
  let info := s.msg.nlAddrInfo
  let data : EventDataAddr :=
    if info.prefixFamily = afInet6 then
      ⟨.v6, info.ifaIndex, none, none, some (ntohl ∘ info.prefixAddr),
        fun _ => none⟩
    else
      ⟨.v4, info.ifaIndex, some (ntohl (info.prefixAddr 0)), none, none,
        fun _ => none⟩
  .next (s.post (.addrAdd data))

/-- The data of a neighbour event. -/
def neighData (info : NeighInfo) : EventDataAll :=
  if info.localFamily = afInet6 then
    ⟨.v6, info.ndmIfindex, 0, ntohl ∘ info.localAddr, info.lladdrHwaddr⟩
  else if info.localFamily = afInet then
    ⟨.v4, info.ndmIfindex, ntohl (info.localAddr 0), noAddr, info.lladdrHwaddr⟩
  else
    ⟨.v6, info.ndmIfindex, 0, noAddr, info.lladdrHwaddr⟩

/-- `RTM_NEWNEIGH` and `RTM_DELNEIGH`. -/
def neigh (event : EventDataAll → Event) (s : State) : Visit State :=
  let info := s.msg.nlNeighInfo
  if ifName info.ndmIfindex then .next (s.post (event (neighData info))) else .done s

/-- `mask_v6`; other lengths leave the mask as it is. -/
def maskV6 (index : Int) : Option Word :=
  match index with
  | 0 => some 0x00000000
  | 4 => some 0xf0000000
  | 8 => some 0xff000000
  | 12 => some 0xfff00000
  | 16 => some 0xffff0000
  | 20 => some 0xfffff000
  | 24 => some 0xffffff00
  | 28 => some 0xfffffff0
  | 32 => some 0xffffffff
  | _ => none

/-- `mask_v6` on a word of the mask. -/
def writeMask (index : Nat) (i : Fin 4) (mask : Fin 4 → Option Word) : Fin 4 → Option Word :=
  match maskV6 index with
  | some w => Function.update mask i (some w)
  | none => mask

/-- One turn of the loop that fills the mask of an added route. -/
def addMaskStep (m : Nat × (Fin 4 → Option Word)) (maskIndex : Fin 4) :
    Nat × (Fin 4 → Option Word) :=
  if 32 ≤ m.1 then (m.1 - 32, writeMask 32 maskIndex m.2)
  else (0, writeMask m.1 maskIndex m.2)

/-- One turn of the loop of a deleted route, which writes the rest of the length
to the first word. -/
def delMaskStep (m : Nat × (Fin 4 → Option Word)) (maskIndex : Fin 4) :
    Nat × (Fin 4 → Option Word) :=
  if 32 ≤ m.1 then (m.1 - 32, writeMask 32 maskIndex m.2)
  else (0, writeMask m.1 0 m.2)

def maskOf (step : Nat × (Fin 4 → Option Word) → Fin 4 → Nat × (Fin 4 → Option Word))
    (dstLen : Nat) : Fin 4 → Option Word :=
  Option.map ntohl ∘ ([0, 1, 2, 3].foldl step (dstLen, fun _ => none)).2

theorem writeMask_of_ne {index : Nat} {i j : Fin 4} {f : Fin 4 → Option Word} (hj : j ≠ i) :
    writeMask index i f j = f j := by
  rw [writeMask]
  cases maskV6 index with
  | none => rfl
  | some word => exact Function.update_of_ne hj _ _

section

variable (m : Nat × (Fin 4 → Option Word)) (i : Fin 4)

theorem delMaskStep_rest : (delMaskStep m i).1 = m.1 - 32 := by
  rw [delMaskStep]
  split
  · rfl
  · exact (Nat.sub_eq_zero_of_le (by omega)).symm

theorem delMaskStep_of_ne {j : Fin 4} (hj : j ≠ i) (h0 : j ≠ 0) :
    (delMaskStep m i).2 j = m.2 j := by
  rw [delMaskStep]
  split
  · change writeMask 32 i m.2 j = m.2 j
    exact writeMask_of_ne hj
  · exact writeMask_of_ne h0

theorem delMaskStep_self (hm : m.1 < 32) (h0 : i ≠ 0) : (delMaskStep m i).2 i = m.2 i := by
  rw [delMaskStep, if_neg (Nat.not_le.mpr hm)]
  exact writeMask_of_ne h0

end

def rtnUnicast : Byte := 1

def rtprotKernel : Byte := 2

def rtprotBoot : Byte := 3

def rtScopeUniverse : Byte := 0

def rtTableMain : Byte := 254

/-- A default route or a uniroute. -/
def RouteInfo.Boot (info : RouteInfo) : Prop :=
  info.rtmType = rtnUnicast ∧ info.rtmProtocol = rtprotBoot ∧
    info.rtmScope = rtScopeUniverse ∧ info.rtmTable = rtTableMain

/-- A route of the IPv6 routing table. -/
def RouteInfo.Kernel (info : RouteInfo) : Prop :=
  info.rtmFamily = afInet6 ∧ info.rtmType = rtnUnicast ∧ info.rtmProtocol = rtprotKernel ∧
    info.rtmTable = rtTableMain

instance RouteInfo.instDecidableBoot (info : RouteInfo) : Decidable info.Boot :=
  inferInstanceAs (Decidable (_ ∧ _ ∧ _ ∧ _))

instance RouteInfo.instDecidableKernel (info : RouteInfo) : Decidable info.Kernel :=
  inferInstanceAs (Decidable (_ ∧ _ ∧ _ ∧ _))

/-- An event with an IPv6 address that is also its mask. -/
def sameAddrMask (info : RouteInfo) : EventDataAddr :=
  ⟨.v6, info.oifIndex, none, none, some (ntohl ∘ info.dstAddr),
    some ∘ ntohl ∘ info.dstAddr⟩

/-- An event with an IPv4 address and a mask. -/
def v4AddrMask (info : RouteInfo) (addr mask : Word) : EventDataAddr :=
  ⟨.v4, info.oifIndex, some (ntohl addr), some (ntohl mask), none, fun _ => none⟩

/-- The first part of `RTM_NEWROUTE`. -/
def newRouteBoot (s : State) : Visit State :=
  let info := s.msg.nlRouteInfo
  if ifName info.oifIndex = false then
    .done s
  else if info.dst then
    let s := { s with ifIpv4Addr := info.dstAddr 0 }
    .next (s.post (.routeAdd (v4AddrMask info s.ifIpv4Addr s.ifIpipv4AddrMask)))
  else if info.rtmFamily = afInet6 then
    .next (s.post (.routeAdd (sameAddrMask info)))
  else
    let s :=
      { s with
        ifIpv4Addr := info.dstAddr 0
        ifIpipv4AddrMask := info.dstAddr 0 }
    .next (s.post (.routeAdd (v4AddrMask info s.ifIpv4Addr s.ifIpipv4AddrMask)))

/-- The second part of `RTM_NEWROUTE`. -/
def newRouteKernel (s : State) : Visit State :=
  let info := s.msg.nlRouteInfo
  if ifName info.oifIndex = false then
    .done s
  else
    let s :=
      if info.dst then
        s.post (.routeAdd
          ⟨.v6, info.oifIndex, none, none, some (ntohl ∘ info.dstAddr),
            maskOf addMaskStep info.rtmDstLen.toNat⟩)
      else s
    .next (if info.gateway then s.post (.routeAdd (sameAddrMask info)) else s)

/-- The first part of `RTM_DELROUTE`. -/
def delRouteBoot (s : State) : Visit State :=
  let info := s.msg.nlRouteInfo
  if ifName info.oifIndex = false then
    .done s
  else if info.dst then
    let s :=
      { s with
        ifIpv4Addr := info.dstAddr 0
        ifIpipv4AddrMask := ntohl (-1) }
    .next (s.post (.routeDel (v4AddrMask info s.ifIpv4Addr s.ifIpipv4AddrMask)))
  else if info.rtmFamily = afInet6 then
    .next (s.post (.routeDel (sameAddrMask info)))
  else
    .next (s.post (.routeDel (v4AddrMask info (info.dstAddr 0) (info.dstAddr 0))))

/-- The second part of `RTM_DELROUTE`. -/
def delRouteKernel (s : State) : Visit State :=
  let info := s.msg.nlRouteInfo
  if ifName info.oifIndex = false then
    .done s
  else
    .next
      (if info.dst then
        s.post (.routeDel
          ⟨.v6, info.oifIndex, none, none, some (ntohl ∘ info.dstAddr),
            maskOf delMaskStep info.rtmDstLen.toNat⟩)
      else s)

/-- `RTM_NEWROUTE` and `RTM_DELROUTE`: a route is of the first part, of the
second part, or of none. -/
def route (boot kernel : State → Visit State) (s : State) : Visit State :=
  if s.msg.nlRouteInfo.Boot then boot s
  else if s.msg.nlRouteInfo.Kernel then kernel s
  else .next s

/-- The events of a message whose contents have been parsed. -/
def act (type : MsgType) (s : State) : Visit State :=
  match type with
  | .newLink => newLink ifName s
  | .delLink => delLink ifName s
  | .newAddr => newAddr s
  | .newRoute => route (newRouteBoot ifName) (newRouteKernel ifName) s
  | .delRoute => route (delRouteBoot ifName) (delRouteKernel ifName) s
  | .newNeigh => neigh ifName .newNeigh s
  | .delNeigh => neigh ifName .delNeigh s
  | .other => .next s

/-- The fields that the decoder of the type fills. -/
def parse (type : MsgType) (buffer : Ptr) (buflen : Nat) (msg : NlMsg) : Option NlMsg :=
  match type with
  | .newLink | .delLink => some { msg with nlLinkInfo := decodeRtmLink buffer }
  | .newAddr =>
      (decodeRtmAddr buffer buflen msg.nlAddrInfo).map fun info =>
        { msg with nlAddrInfo := info }
  | .newRoute | .delRoute =>
      (decodeRtmRoute buffer buflen msg.nlRouteInfo).map fun info =>
        { msg with nlRouteInfo := info }
  | .newNeigh | .delNeigh =>
      (decodeRtmNeigh buffer buflen msg.nlNeighInfo).map fun info =>
        { msg with nlNeighInfo := info }
  | .other => some msg

/-- One message: its type is read where it is, its contents at the start of the
buffer. -/
def handle (buffer nlh : Ptr) (buflen : Nat) (s : State) : Visit State :=
  let type := MsgType.of (nlh.advance 4).u16
  match parse type buffer buflen s.msg with
  | none => .fault
  | some msg => act ifName type { s with msg := msg }

/-- The `nlmsg_len` of a message. -/
def nlmsgLen (nlh : Ptr) : Nat :=
  nlh.u32.toNat

/-- `ipa_nl_decode_nlmsg` with a zeroed `ipa_nl_msg_t`: the events it posts. -/
def decodeNlmsg (buffer : Ptr) (buflen : Nat) : Option (List Event) :=
  (records nlmsgLen 16 (handle ifName buffer) buffer buflen State.init).map State.posted

end

end LibraDevice.Netlink
