import LibraDevice.Netlink.Masks
import LibraDevice.Xml.Entries

/-!
What a `Firewall` element asks of a packet, and the packet held against the
attributes of an entry.
-/

namespace LibraDevice.Xml

open Firewall Backhaul
open IpaNat (ipprotoTcp ipprotoUdp)

/-- The headers that the attributes of a rule look at. -/
structure Packet where
  tos : UInt8
  protocol : UInt8
  srcAddr : UInt32
  dstAddr : UInt32
  tc : UInt8
  nextHdr : UInt8
  srcAddrV6 : Ipv6Addr
  dstAddrV6 : Ipv6Addr
  srcPort : UInt16
  dstPort : UInt16
  type : UInt8
  code : UInt8
  spi : UInt32
  metaData : UInt32
deriving DecidableEq

namespace Packet

def addr (p : Packet) : Side → UInt32
  | .source => p.srcAddr
  | .destination => p.dstAddr

def addrV6 (p : Packet) : Side → Ipv6Addr
  | .source => p.srcAddrV6
  | .destination => p.dstAddrV6

def port (p : Packet) : Side → UInt16
  | .source => p.srcPort
  | .destination => p.dstPort

def protocolOf (p : Packet) : IpType → UInt8
  | .v4 => p.protocol
  | .v6 => p.nextHdr

def service (p : Packet) : IpType → UInt8
  | .v4 => p.tos
  | .v6 => p.tc

end Packet

/-- Under the mask the addresses are the same. -/
def maskedV6 (addr mask actual : Ipv6Addr) : Bool :=
  decide (∀ i, Netlink.words actual i &&& Netlink.words mask i =
    Netlink.words addr i &&& Netlink.words mask i)

theorem maskedV6_zero (actual : Ipv6Addr) : maskedV6 .zero .zero actual = true := by
  apply decide_eq_true
  intro i
  have hmask : Netlink.words .zero i = 0 := by
    match i with
    | 0 => rfl
    | 1 => rfl
    | 2 => rfl
    | 3 => rfl
  rw [hmask]
  exact BitVec.and_zero.trans BitVec.and_zero.symm

/-- An address is compared under its mask, a port with its bounds, and every
other field with its value. -/
def packetReading : Reading Packet where
  tos := fun value p => p.tos = value
  protocol := Packet.protocol
  srcAddr := fun addr mask p => p.srcAddr &&& mask = addr &&& mask
  dstAddr := fun addr mask p => p.dstAddr &&& mask = addr &&& mask
  tc := fun value p => p.tc = value
  nextHdr := Packet.nextHdr
  srcAddrV6 := fun addr mask p => maskedV6 addr mask p.srcAddrV6
  dstAddrV6 := fun addr mask p => maskedV6 addr mask p.dstAddrV6
  srcPort := fun port p => p.srcPort = port
  dstPort := fun port p => p.dstPort = port
  srcPortRange := fun lo hi p => lo ≤ p.srcPort && p.srcPort ≤ hi
  dstPortRange := fun lo hi p => lo ≤ p.dstPort && p.dstPort ≤ hi
  type := fun value p => p.type = value
  code := fun value p => p.code = value
  spi := fun value p => p.spi = value
  metaData := fun value mask p => p.metaData &&& mask = value &&& mask
  dstAddr_zero := by
    intro p
    apply decide_eq_true
    rw [UInt32.and_zero, UInt32.and_zero]
  dstAddrV6_zero := fun p => maskedV6_zero p.dstAddrV6

namespace FirewallTag

/-- The protocol that a field or a group of fields belongs to. -/
def family : FirewallTag → Option IpType
  | .address iptype _ | .ipAddress iptype _ => some iptype
  | .subnetMask _ | .ipv4TypeOfService | .tosValue | .tosMask | .ipv4NextHeaderProtocol =>
      some .v4
  | .pfx _ | .ipv6TrafficClass | .trfClsValue | .trfClsMask | .ipv6NextHeaderProtocol =>
      some .v6
  | _ => none

def nextHeader : IpType → FirewallTag
  | .v4 => .ipv4NextHeaderProtocol
  | .v6 => .ipv6NextHeaderProtocol

def service : IpType → FirewallTag
  | .v4 => .ipv4TypeOfService
  | .v6 => .ipv6TrafficClass

def serviceValue : IpType → FirewallTag
  | .v4 => .tosValue
  | .v6 => .trfClsValue

def serviceMask : IpType → FirewallTag
  | .v4 => .tosMask
  | .v6 => .trfClsMask

end FirewallTag

def FirewallVisit.textOf (tag : FirewallTag) (v : FirewallVisit) : Option CString :=
  if v.tag = tag then v.content else none

/-- The texts of the fields with this tag. -/
def texts (tag : FirewallTag) (fs : List FirewallVisit) : List CString :=
  fs.filterMap (FirewallVisit.textOf tag)

/-- The field with this tag, the last one where there are several. -/
def field (tag : FirewallTag) (fs : List FirewallVisit) : Option CString :=
  (texts tag fs).getLast?

inductive PortField where
  | port (value : Int)
  | range (value : Int)
deriving DecidableEq, Repr

def FirewallVisit.portField (side : Side) (v : FirewallVisit) : Option PortField :=
  match v.tag, v.content with
  | .port _ s, some text => if s = side then some (.port (atoi text)) else none
  | .range _ s, some text => if s = side then some (.range (atoi text)) else none
  | _, _ => none

/-- The port and range fields of one side, in document order. -/
def portFields (side : Side) (fs : List FirewallVisit) : List PortField :=
  fs.filterMap (FirewallVisit.portField side)

inductive ServiceField where
  | value (byte : UInt8)
  | mask (byte : UInt8)
deriving DecidableEq, Repr

def ServiceField.apply (byte : UInt8) : ServiceField → UInt8
  | .value b => b
  | .mask b => byte &&& b

/-- A field of the type of service or of the traffic class. -/
def FirewallVisit.serviceField (iptype : IpType) (v : FirewallVisit) : Option ServiceField :=
  v.content.bind fun text =>
    if v.tag = .serviceValue iptype then some (.value (UInt8.ofInt (atoi text)))
    else if v.tag = .serviceMask iptype then some (.mask (UInt8.ofInt (atoi text)))
    else none

section

variable (libc : Libc) (iptype : IpType) (side : Side) (fs : List FirewallVisit)

def addressV4 : UInt32 :=
  ((field (.ipAddress .v4 side) fs).map fun text => htonl (libc.inetAddr text)).getD 0

def subnetMaskV4 : UInt32 :=
  ((field (.subnetMask side) fs).map fun text => htonl (libc.inetAddr text)).getD 0

/-- There is none where the text is no address. -/
def addressV6 : Option Ipv6Addr :=
  match field (.ipAddress .v6 side) fs with
  | none => some .zero
  | some text => (libc.inetPton text).map Ipv6Addr.htonl

def prefixLength : Nat :=
  ((field (.pfx side) fs).map fun text => (atoi text).toNat).getD 0

/-- The address of the packet is the one of the element, as far as the subnet
mask or the prefix goes. -/
def AddressHeld (p : Packet) : Prop :=
  match iptype with
  | .v4 => p.addr side &&& subnetMaskV4 libc side fs =
      addressV4 libc side fs &&& subnetMaskV4 libc side fs
  | .v6 => ∃ addr ∈ addressV6 libc side fs,
      PrefixMask.Agree (prefixLength side fs) (Netlink.words (p.addrV6 side)) (Netlink.words addr)

/-- The number `ipprotoTcpUdp` stands for TCP or UDP. -/
def ProtocolHeld (number : Int) (actual : UInt8) : Prop :=
  if number = ipprotoTcpUdp.toNat then actual = ipprotoTcp ∨ actual = ipprotoUdp
  else actual.toNat = number

/-- The value of the type of service or traffic class, under the mask after it. -/
def serviceByte : UInt8 :=
  (fs.filterMap (FirewallVisit.serviceField iptype)).foldl ServiceField.apply 0

/-- The packet meets every condition of the element. -/
structure Satisfies (p : Packet) : Prop where
  address : ∀ side, (∃ v ∈ fs, v.tag = .address iptype side) → AddressHeld libc iptype side fs p
  protocol : ∀ text, field (.nextHeader iptype) fs = some text →
    ProtocolHeld (atoi text) (p.protocolOf iptype)
  ports : ∀ side port range, portFields side fs = [.port port, .range range] →
    port ≤ (p.port side).toNat ∧ (p.port side).toNat ≤ port + range
  service : (∃ v ∈ fs, v.tag = .service iptype) → p.service iptype = serviceByte iptype fs
  type : ∀ text, field .icmpType fs = some text → p.type = UInt8.ofInt (atoi text)
  code : ∀ text, field .icmpCode fs = some text → p.code = UInt8.ofInt (atoi text)
  spi : ∀ text, field .espSpi fs = some text → p.spi = UInt32.ofInt (atoi text)

/-- An element of one family, which its `IPFamily` names: the protocol is a
byte, the prefixes are lengths that `mask_v6` knows, and on either side there is
at most one IPv6 address, and at most one port, with its range after it. -/
structure WellFormed : Prop where
  version : (field .ipFamily fs).map atoi = some (ipVsn iptype)
  family : ∀ v ∈ fs, ∀ t, v.tag.family = some t → t = iptype
  protocol : ∀ text, field (.nextHeader iptype) fs = some text →
    0 ≤ atoi text ∧ atoi text ≤ 255
  prefixes : ∀ side, ∀ text ∈ texts (.pfx side) fs,
    0 ≤ atoi text ∧ atoi text ≤ 128 ∧ 4 ∣ atoi text
  addresses : ∀ side, (texts (.ipAddress .v6 side) fs).length ≤ 1
  ports : ∀ side, portFields side fs = [] ∨ ∃ port range,
    portFields side fs = [.port port, .range range] ∧ (0 ≤ port ∧ port ≤ 65535) ∧
      0 ≤ range ∧ range ≤ 65535

/-- No range goes past the last port. -/
def RangesFit : Prop :=
  ∀ side port range, portFields side fs = [.port port, .range range] → port + range ≤ 65535

end

end LibraDevice.Xml
