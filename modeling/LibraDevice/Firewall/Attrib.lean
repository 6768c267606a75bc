import Mathlib.Data.Finset.Basic
import Mathlib.Tactic.IntervalCases
import LibraDevice.Backhaul.Iface
import LibraDevice.IpaNat.Table

/-!
The attributes of a filter rule, the firewall configuration, and how a packet is held
against them.
-/

namespace LibraDevice.Firewall

open Backhaul
open IpaNat (ipprotoTcp ipprotoUdp)

/-- The bits of `attrib_mask` that the firewall uses. -/
inductive Flt where
  | tos
  | protocol
  | srcAddr
  | dstAddr
  | srcPortRange
  | dstPortRange
  | srcPort
  | dstPort
  | type
  | code
  | spi
  | tc
  | nextHdr
  | metaData
deriving DecidableEq, Repr

def ipprotoIcmp : UInt8 := 1
def ipprotoFragHdr : UInt8 := 44
def ipprotoIcmp6 : UInt8 := 58
def ipprotoTcpUdp : UInt8 := 253

structure AttribV4 where
  tos : UInt8
  protocol : UInt8
  srcAddr : UInt32
  srcAddrMask : UInt32
  dstAddr : UInt32
  dstAddrMask : UInt32
deriving DecidableEq, Repr

structure AttribV6 where
  tc : UInt8
  nextHdr : UInt8
  srcAddr : Ipv6Addr
  srcAddrMask : Ipv6Addr
  dstAddr : Ipv6Addr
  dstAddrMask : Ipv6Addr
deriving DecidableEq, Repr

/-- `ipa_rule_attrib`. The members of the union `u` stand side by side: a rule of one
family only ever uses its own. -/
structure RuleAttrib where
  attribMask : Finset Flt
  srcPort : UInt16
  dstPort : UInt16
  srcPortLo : UInt16
  srcPortHi : UInt16
  dstPortLo : UInt16
  dstPortHi : UInt16
  type : UInt8
  code : UInt8
  spi : UInt32
  metaData : UInt32
  metaDataMask : UInt32
  v4 : AttribV4
  v6 : AttribV6
deriving DecidableEq

/-- What `memset` leaves. -/
def RuleAttrib.zero : RuleAttrib where
  attribMask := ∅
  srcPort := 0
  dstPort := 0
  srcPortLo := 0
  srcPortHi := 0
  dstPortLo := 0
  dstPortHi := 0
  type := 0
  code := 0
  spi := 0
  metaData := 0
  metaDataMask := 0
  v4 := ⟨0, 0, 0, 0, 0, 0⟩
  v6 := ⟨0, 0, .zero, .zero, .zero, .zero⟩

/-- `IPACM_extd_firewall_entry_conf_t`. -/
structure ExtdFirewallEntry where
  attrib : RuleAttrib
  ipVsn : Int
deriving DecidableEq

def ExtdFirewallEntry.zero : ExtdFirewallEntry := ⟨.zero, 0⟩

/-- `IPACM_firewall_conf_t`. Past the array an index reads whatever memory holds. -/
structure FirewallConf where
  numExtdFirewallEntries : UInt8
  extdFirewallEntries : Nat → ExtdFirewallEntry
  ruleActionAccept : Bool
  firewallEnable : Bool

def FirewallConf.zero : FirewallConf where
  numExtdFirewallEntries := 0
  extdFirewallEntries := fun _ => .zero
  ruleActionAccept := false
  firewallEnable := false

/-- The entries that a loop up to `num_extd_firewall_entries` visits. -/
def FirewallConf.entries (conf : FirewallConf) : List ExtdFirewallEntry :=
  (List.range conf.numExtdFirewallEntries.toNat).map conf.extdFirewallEntries

/-- `ipacm_alg`. -/
structure Alg where
  protocol : UInt8
  port : UInt16
deriving DecidableEq, Repr

/-- What `ip_vsn` is compared with. -/
def ipVsn : IpType → Int
  | .v4 => 4
  | .v6 => 6

namespace RuleAttrib

/-- The field that names the transport protocol. -/
def protocolOf (a : RuleAttrib) : IpType → UInt8
  | .v4 => a.v4.protocol
  | .v6 => a.v6.nextHdr

def setProtocol (a : RuleAttrib) (protocol : UInt8) : IpType → RuleAttrib
  | .v4 => { a with v4 := { a.v4 with protocol := protocol } }
  | .v6 => { a with v6 := { a.v6 with nextHdr := protocol } }

end RuleAttrib

/-- The flag of that field. -/
def protocolFlt : IpType → Flt
  | .v4 => .protocol
  | .v6 => .nextHdr

/-- `htonl` on a little-endian machine. -/
def htonl (w : UInt32) : UInt32 :=
  (w <<< (24 : UInt32)) ||| ((w &&& (0xff00 : UInt32)) <<< (8 : UInt32)) |||
    ((w >>> (8 : UInt32)) &&& (0xff00 : UInt32)) ||| (w >>> (24 : UInt32))

theorem htonl_htonl (w : UInt32) : htonl (htonl w) = w := by
  apply UInt32.eq_of_toBitVec_eq
  ext i hi
  simp [htonl]
  interval_cases i <;> simp

def Ipv6Addr.htonl (addr : Ipv6Addr) : Ipv6Addr :=
  ⟨Firewall.htonl addr.word0, Firewall.htonl addr.word1, Firewall.htonl addr.word2,
    Firewall.htonl addr.word3⟩

@[simp]
theorem Ipv6Addr.htonl_htonl (addr : Ipv6Addr) : htonl (htonl addr) = addr := by
  simp [htonl, Firewall.htonl_htonl]

def changeToNetworkOrder (iptype : IpType) (attrib : RuleAttrib) : RuleAttrib :=
  match iptype with
  | .v4 => attrib
  | .v6 =>
      { attrib with
        v6 :=
          { attrib.v6 with
            srcAddr := Ipv6Addr.htonl attrib.v6.srcAddr
            srcAddrMask := Ipv6Addr.htonl attrib.v6.srcAddrMask
            dstAddr := Ipv6Addr.htonl attrib.v6.dstAddr
            dstAddrMask := Ipv6Addr.htonl attrib.v6.dstAddrMask } }

@[simp]
theorem changeToNetworkOrder_changeToNetworkOrder (iptype : IpType) (a : RuleAttrib) :
    changeToNetworkOrder iptype (changeToNetworkOrder iptype a) = a := by
  cases iptype <;> simp [changeToNetworkOrder]

@[simp]
theorem changeToNetworkOrder_setProtocol (iptype : IpType) (a : RuleAttrib) (protocol : UInt8) :
    changeToNetworkOrder iptype (a.setProtocol protocol iptype) =
      (changeToNetworkOrder iptype a).setProtocol protocol iptype := by
  cases iptype <;> rfl

@[simp]
theorem changeToNetworkOrder_attribMask (iptype : IpType) (a : RuleAttrib) :
    (changeToNetworkOrder iptype a).attribMask = a.attribMask := by
  cases iptype <;> rfl

/-- How packets are held against the attributes: one predicate for each flag, on the fields
the flag is about. A destination under the zero mask is any destination. -/
structure Reading (P : Type*) where
  tos : UInt8 → P → Bool
  protocol : P → UInt8
  srcAddr : UInt32 → UInt32 → P → Bool
  dstAddr : UInt32 → UInt32 → P → Bool
  tc : UInt8 → P → Bool
  nextHdr : P → UInt8
  srcAddrV6 : Ipv6Addr → Ipv6Addr → P → Bool
  dstAddrV6 : Ipv6Addr → Ipv6Addr → P → Bool
  srcPort : UInt16 → P → Bool
  dstPort : UInt16 → P → Bool
  srcPortRange : UInt16 → UInt16 → P → Bool
  dstPortRange : UInt16 → UInt16 → P → Bool
  type : UInt8 → P → Bool
  code : UInt8 → P → Bool
  spi : UInt32 → P → Bool
  metaData : UInt32 → UInt32 → P → Bool
  dstAddr_zero : ∀ p, dstAddr 0 0 p = true
  dstAddrV6_zero : ∀ p, dstAddrV6 .zero .zero p = true

namespace Reading

variable {P : Type*} (R : Reading P)

def protocolOf (p : P) : IpType → UInt8
  | .v4 => R.protocol p
  | .v6 => R.nextHdr p

/-- The packet meets one flag of the attributes of a rule. -/
def meets (iptype : IpType) (a : RuleAttrib) (p : P) : Flt → Bool
  | .tos => R.tos a.v4.tos p
  | .protocol => R.protocol p = a.v4.protocol
  | .srcAddr =>
      match iptype with
      | .v4 => R.srcAddr a.v4.srcAddr a.v4.srcAddrMask p
      | .v6 => R.srcAddrV6 a.v6.srcAddr a.v6.srcAddrMask p
  | .dstAddr =>
      match iptype with
      | .v4 => R.dstAddr a.v4.dstAddr a.v4.dstAddrMask p
      | .v6 => R.dstAddrV6 a.v6.dstAddr a.v6.dstAddrMask p
  | .srcPortRange => R.srcPortRange a.srcPortLo a.srcPortHi p
  | .dstPortRange => R.dstPortRange a.dstPortLo a.dstPortHi p
  | .srcPort => R.srcPort a.srcPort p
  | .dstPort => R.dstPort a.dstPort p
  | .type => R.type a.type p
  | .code => R.code a.code p
  | .spi => R.spi a.spi p
  | .tc => R.tc a.v6.tc p
  | .nextHdr => R.nextHdr p = a.v6.nextHdr
  | .metaData => R.metaData a.metaData a.metaDataMask p

/-- The attributes of a rule select the packet. -/
def selects (iptype : IpType) (a : RuleAttrib) (p : P) : Bool :=
  decide (∀ f ∈ a.attribMask, R.meets iptype a p f = true)

/-- `TCP_UDP` means TCP or UDP. -/
def means (protocol actual : UInt8) : Bool :=
  if protocol = ipprotoTcpUdp then actual = ipprotoTcp || actual = ipprotoUdp
  else actual = protocol

/-- The headers of the packet match a configured entry. -/
def matchesEntry (iptype : IpType) (e : ExtdFirewallEntry) (p : P) : Bool :=
  decide (∀ f ∈ e.attrib.attribMask, f ≠ .metaData →
    (if f = protocolFlt iptype then means (e.attrib.protocolOf iptype) (R.protocolOf p iptype)
      else R.meets iptype e.attrib p f) = true)

end Reading

end LibraDevice.Firewall
