import LibraDevice.Lib.CountedTables
import LibraDevice.Netlink.Events
import LibraDevice.Xml.Node

/-!
The firewall file and `IPACM_firewall_xml_parse_tree`. A write outside of the array or of
the buffer ends the parse with `none`.
-/

namespace LibraDevice.Xml

open ElementTree CountedTables Firewall Backhaul

def maxFirewallEntries : Nat := 50

inductive Side where
  | source
  | destination
deriving DecidableEq, Repr

/-- The protocols that have elements for their ports. -/
inductive PortProtocol where
  | tcp
  | udp
  | tcpUdp
deriving DecidableEq, Repr

/-- The elements of the file. -/
inductive FirewallTag where
  | system
  | mobileAPFirewallCfg
  | firewall
  | firewallEnabled
  | firewallPktsAllowed
  | ipFamily
  | address (iptype : IpType) (side : Side)
  | ipAddress (iptype : IpType) (side : Side)
  | subnetMask (side : Side)
  | ipv4TypeOfService
  | tosValue
  | tosMask
  | ipv4NextHeaderProtocol
  | pfx (side : Side)
  | ipv6TrafficClass
  | trfClsValue
  | trfClsMask
  | ipv6NextHeaderProtocol
  | ports (protocol : PortProtocol) (side : Side)
  | port (protocol : PortProtocol) (side : Side)
  | range (protocol : PortProtocol) (side : Side)
  | icmpType
  | icmpCode
  | espSpi
deriving DecidableEq, Repr

namespace FirewallTag

def text : FirewallTag → CString
  | .system => "system".toList
  | .mobileAPFirewallCfg => "MobileAPFirewallCfg".toList
  | .firewall => "Firewall".toList
  | .firewallEnabled => "FirewallEnabled".toList
  | .firewallPktsAllowed => "FirewallPktsAllowed".toList
  | .ipFamily => "IPFamily".toList
  | .address .v4 .source => "IPV4SourceAddress".toList
  | .ipAddress .v4 .source => "IPV4SourceIPAddress".toList
  | .subnetMask .source => "IPV4SourceSubnetMask".toList
  | .address .v4 .destination => "IPV4DestinationAddress".toList
  | .ipAddress .v4 .destination => "IPV4DestinationIPAddress".toList
  | .subnetMask .destination => "IPV4DestinationSubnetMask".toList
  | .ipv4TypeOfService => "IPV4TypeOfService".toList
  | .tosValue => "TOSValue".toList
  | .tosMask => "TOSMask".toList
  | .ipv4NextHeaderProtocol => "IPV4NextHeaderProtocol".toList
  | .address .v6 .source => "IPV6SourceAddress".toList
  | .ipAddress .v6 .source => "IPV6SourceIPAddress".toList
  | .pfx .source => "IPV6SourcePrefix".toList
  | .address .v6 .destination => "IPV6DestinationAddress".toList
  | .ipAddress .v6 .destination => "IPV6DestinationIPAddress".toList
  | .pfx .destination => "IPV6DestinationPrefix".toList
  | .ipv6TrafficClass => "IPV6TrafficClass".toList
  | .trfClsValue => "TrfClsValue".toList
  | .trfClsMask => "TrfClsMask".toList
  | .ipv6NextHeaderProtocol => "IPV6NextHeaderProtocol".toList
  | .ports .tcp .source => "TCPSource".toList
  | .port .tcp .source => "TCPSourcePort".toList
  | .range .tcp .source => "TCPSourceRange".toList
  | .ports .tcp .destination => "TCPDestination".toList
  | .port .tcp .destination => "TCPDestinationPort".toList
  | .range .tcp .destination => "TCPDestinationRange".toList
  | .ports .udp .source => "UDPSource".toList
  | .port .udp .source => "UDPSourcePort".toList
  | .range .udp .source => "UDPSourceRange".toList
  | .ports .udp .destination => "UDPDestination".toList
  | .port .udp .destination => "UDPDestinationPort".toList
  | .range .udp .destination => "UDPDestinationRange".toList
  | .icmpType => "ICMPType".toList
  | .icmpCode => "ICMPCode".toList
  | .espSpi => "ESPSPI".toList
  | .ports .tcpUdp .source => "TCP_UDPSource".toList
  | .port .tcpUdp .source => "TCP_UDPSourcePort".toList
  | .range .tcpUdp .source => "TCP_UDPSourceRange".toList
  | .ports .tcpUdp .destination => "TCP_UDPDestination".toList
  | .port .tcpUdp .destination => "TCP_UDPDestinationPort".toList
  | .range .tcpUdp .destination => "TCP_UDPDestinationRange".toList

def allPorts (protocol : PortProtocol) : List FirewallTag :=
  [.ports protocol .source, .port protocol .source, .range protocol .source,
    .ports protocol .destination, .port protocol .destination, .range protocol .destination]

/-- In the order of the comparisons. -/
def all : List FirewallTag :=
  [.system, .mobileAPFirewallCfg, .firewall, .firewallEnabled, .firewallPktsAllowed, .ipFamily,
    .address .v4 .source, .ipAddress .v4 .source, .subnetMask .source,
    .address .v4 .destination, .ipAddress .v4 .destination, .subnetMask .destination,
    .ipv4TypeOfService, .tosValue, .tosMask, .ipv4NextHeaderProtocol,
    .address .v6 .source, .ipAddress .v6 .source, .pfx .source,
    .address .v6 .destination, .ipAddress .v6 .destination, .pfx .destination,
    .ipv6TrafficClass, .trfClsValue, .trfClsMask, .ipv6NextHeaderProtocol]
    ++ allPorts .tcp ++ allPorts .udp ++ [.icmpType, .icmpCode, .espSpi] ++ allPorts .tcpUdp

def ofName (name : Option CString) : Option FirewallTag :=
  all.find? fun tag => utilIcmpString name tag.text

/-- The flag that a group of fields sets before its children are visited. -/
def groupFlt : FirewallTag → Option Flt
  | .address _ .source => some .srcAddr
  | .address _ .destination => some .dstAddr
  | .ipv4TypeOfService => some .tos
  | .ipv6TrafficClass => some .tc
  | _ => none

/-- The elements whose children are visited. -/
def descends : FirewallTag → Bool
  | .system | .mobileAPFirewallCfg | .firewall | .firewallEnabled | .firewallPktsAllowed
  | .address _ _ | .ipv4TypeOfService | .ipv6TrafficClass | .ports _ _ => true
  | _ => false

end FirewallTag

/-- A word of the mask, after `mask_v6`. -/
def maskV6 (index : Int) (mask : UInt32) : UInt32 :=
  .ofBitVec ((Netlink.maskV6 index).getD mask.toBitVec)

/-- One word of the loop over `mask_index`: the word, and what is left of the length. -/
def maskWord (value : Int) (mask : UInt32) : UInt32 × Int :=
  if value ≥ 32 then (maskV6 32 mask, value - 32) else (maskV6 value mask, 0)

def maskWords (value : Int) (mask : Ipv6Addr) : Ipv6Addr :=
  let w0 := maskWord value mask.word0
  let w1 := maskWord w0.2 mask.word1
  let w2 := maskWord w1.2 mask.word2
  let w3 := maskWord w2.2 mask.word3
  ⟨w0.1, w1.1, w2.1, w3.1⟩

/-- The attributes after a field has been read. An address that `inet_pton` rejects leaves
`ip6_addr` as it was, and what it holds is copied all the same. -/
def attribField (libc : Libc) (ip6Addr : Ipv6Addr) (tag : FirewallTag) (contentBuf : CString)
    (a : RuleAttrib) : RuleAttrib :=
  let value := atoi contentBuf
  match tag with
  | .ipAddress .v4 .source =>
      { a with v4 := { a.v4 with srcAddr := htonl (libc.inetAddr (clearLast contentBuf)) } }
  | .subnetMask .source =>
      { a with v4 := { a.v4 with srcAddrMask := htonl (libc.inetAddr (clearLast contentBuf)) } }
  | .ipAddress .v4 .destination =>
      { a with v4 := { a.v4 with dstAddr := htonl (libc.inetAddr (clearLast contentBuf)) } }
  | .subnetMask .destination =>
      { a with v4 := { a.v4 with dstAddrMask := htonl (libc.inetAddr (clearLast contentBuf)) } }
  | .tosValue => { a with v4 := { a.v4 with tos := UInt8.ofInt value } }
  | .tosMask => { a with v4 := { a.v4 with tos := a.v4.tos &&& UInt8.ofInt value } }
  | .ipv4NextHeaderProtocol =>
      { a with
        attribMask := insert .protocol a.attribMask
        v4 := { a.v4 with protocol := UInt8.ofInt value } }
  | .ipAddress .v6 .source =>
      { a with
        v6 := { a.v6 with
          srcAddr := Ipv6Addr.htonl ((libc.inetPton contentBuf).getD ip6Addr) } }
  | .pfx .source =>
      { a with v6 := { a.v6 with srcAddrMask := maskWords value a.v6.srcAddrMask } }
  | .ipAddress .v6 .destination =>
      { a with
        v6 := { a.v6 with
          dstAddr := Ipv6Addr.htonl ((libc.inetPton contentBuf).getD ip6Addr) } }
  | .pfx .destination =>
      { a with v6 := { a.v6 with dstAddrMask := maskWords value a.v6.dstAddrMask } }
  | .trfClsValue => { a with v6 := { a.v6 with tc := UInt8.ofInt value } }
  | .trfClsMask => { a with v6 := { a.v6 with tc := a.v6.tc &&& UInt8.ofInt value } }
  | .ipv6NextHeaderProtocol =>
      { a with
        attribMask := insert .nextHdr a.attribMask
        v6 := { a.v6 with nextHdr := UInt8.ofInt value } }
  | .port _ .source => { a with srcPort := UInt16.ofInt value }
  | .port _ .destination => { a with dstPort := UInt16.ofInt value }
  | .range _ .source =>
      if value ≠ 0 then
        { a with
          attribMask := insert .srcPortRange a.attribMask
          srcPortLo := a.srcPort
          srcPortHi := a.srcPort + UInt16.ofInt value
          srcPort := 0 }
      else { a with attribMask := insert .srcPort a.attribMask }
  | .range _ .destination =>
      if value ≠ 0 then
        { a with
          attribMask := insert .dstPortRange a.attribMask
          dstPortLo := a.dstPort
          dstPortHi := a.dstPort + UInt16.ofInt value
          dstPort := 0 }
      else { a with attribMask := insert .dstPort a.attribMask }
  | .icmpType =>
      { a with type := UInt8.ofInt value, attribMask := insert .type a.attribMask }
  | .icmpCode =>
      { a with code := UInt8.ofInt value, attribMask := insert .code a.attribMask }
  | .espSpi =>
      { a with spi := UInt32.ofInt value, attribMask := insert .spi a.attribMask }
  | _ => a

/-- A field writes to the entry opened last. -/
def entryField (libc : Libc) (ip6Addr : Ipv6Addr) (tag : FirewallTag) (contentBuf : CString)
    (e : ExtdFirewallEntry) : ExtdFirewallEntry :=
  match tag with
  | .ipFamily => { e with ipVsn := atoi contentBuf }
  | tag => { e with attrib := attribField libc ip6Addr tag contentBuf e.attrib }

def modifyEntry (config : FirewallConf) (f : ExtdFirewallEntry → ExtdFirewallEntry) :
    Option FirewallConf :=
  (modifyLast maxFirewallEntries config.numExtdFirewallEntries config.extdFirewallEntries f).map
    fun entries => { config with extdFirewallEntries := entries }

/-- Where the text of an element goes once it is in the buffer. -/
def firewallText (libc : Libc) (ip6Addr : Ipv6Addr) (tag : FirewallTag) (config : FirewallConf)
    (contentBuf : CString) : Option FirewallConf :=
  match tag with
  | .firewallPktsAllowed => some { config with ruleActionAccept := atoi contentBuf = 1 }
  | .firewallEnabled => some { config with firewallEnable := atoi contentBuf = 1 }
  | tag => modifyEntry config (entryField libc ip6Addr tag contentBuf)

namespace FirewallTag

/-- The elements whose text is read. -/
def reads : FirewallTag → Bool
  | .firewallEnabled | .firewallPktsAllowed => true
  | tag => !tag.descends

end FirewallTag

/-- What is done for one element before its children are visited. -/
def firewallElement (libc : Libc) (ip6Addr : Ipv6Addr) (tag : FirewallTag)
    (content : Option CString) (config : FirewallConf) : Option FirewallConf :=
  if tag.reads then
    match content with
    | none => some config
    | some content => (copyContent content).bind (firewallText libc ip6Addr tag config)
  else
    match tag, tag.groupFlt with
    | .firewall, _ =>
        some { config with numExtdFirewallEntries := config.numExtdFirewallEntries + 1 }
    | _, some f =>
        modifyEntry config fun e =>
          { e with attrib := { e.attrib with attribMask := insert f e.attrib.attribMask } }
    | _, none => some config

/-- What `ip6_addr` holds after the element. -/
def Libc.ip6After (libc : Libc) (tag : FirewallTag) (content : Option CString)
    (ip6Addr : Ipv6Addr) : Ipv6Addr :=
  match tag, content with
  | .ipAddress .v6 _, some contentBuf => (libc.inetPton contentBuf).getD ip6Addr
  | _, _ => ip6Addr

/-- Every call has an `ip6_addr` of its own, which it does not initialise: `stack n` is what
call number `n` finds there. The result counts the calls made. -/
def firewallXmlParseTree (libc : Libc) (stack : Nat → Ipv6Addr) :
    XmlNode → Ipv6Addr → Nat → FirewallConf → Option (Nat × FirewallConf)
  | .null, _, calls, config => some (calls, config)
  | .node label children next, ip6Addr, calls, config =>
      match label.type with
      | .element =>
          match FirewallTag.ofName label.name with
          | none => firewallXmlParseTree libc stack next ip6Addr calls config
          | some tag =>
              let content := readContentElement children
              (firewallElement libc ip6Addr tag content config).bind fun config =>
                (if tag.descends then
                    firewallXmlParseTree libc stack children (stack calls) (calls + 1) config
                  else some (calls, config)).bind fun (calls, config) =>
                    firewallXmlParseTree libc stack next (libc.ip6After tag content ip6Addr) calls
                      config
      | _ => firewallXmlParseTree libc stack next ip6Addr calls config

/-- `IPACM_read_firewall_xml` on the configuration that its callers have cleared. -/
def readFirewallXml (libc : Libc) (stack : Nat → Ipv6Addr) (root : XmlNode) :
    Option FirewallConf :=
  (firewallXmlParseTree libc stack root (stack 0) 1 .zero).map Prod.snd

/-- An element that the parser visits, with its text. -/
structure FirewallVisit where
  tag : FirewallTag
  content : Option CString

def firewallVisit (label : XmlLabel) (children : XmlNode) : Option FirewallVisit :=
  match label.type with
  | .element =>
      (FirewallTag.ofName label.name).map fun tag => ⟨tag, readContentElement children⟩
  | _ => none

/-- The elements visited, in document order. -/
def firewallVisits (root : XmlNode) : List FirewallVisit :=
  elements firewallVisit (fun v => v.tag.descends) root

namespace FirewallVisit

/-- A field with a text, or a group of fields, writes to the last entry. -/
def writes (v : FirewallVisit) : Bool :=
  v.tag.groupFlt.isSome || (!v.tag.descends && v.content.isSome)

def copied (v : FirewallVisit) : Nat :=
  if v.tag.reads then (v.content.map List.length).getD 0 else 0

/-- There is one table only. -/
def access (v : FirewallVisit) : Access Unit :=
  ⟨v.copied, maxXmlStrLen, if v.tag = .firewall then some () else none,
    if v.writes then some () else none⟩

end FirewallVisit

/-- Every text fits the buffer, and every field comes after the opening of one to fifty
entries, counted in a byte. -/
def FirewallFits (root : XmlNode) : Prop :=
  AllFit (fun _ => maxFirewallEntries)
    ((firewallVisits root).map FirewallVisit.access)

end LibraDevice.Xml
