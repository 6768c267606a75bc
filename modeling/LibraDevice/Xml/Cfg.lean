import LibraDevice.Lib.CountedTables
import LibraDevice.Xml.Node

/-!
The IPACM configuration file and `ipacm_cfg_xml_parse_tree`. A write outside of an array, of
a name or of the buffer ends the parse with `none`.
-/

namespace LibraDevice.Xml

open ElementTree CountedTables Firewall
open Backhaul (maxIfaceEntries maxPrivateSubnetEntries)
open IpaNat (ipprotoTcp ipprotoUdp)

def maxAlgEntries : Nat := 20
def ifaceNameLen : Nat := 16

inductive IfaceType where
  | lanIf
  | wlanIf
  | wanIf
  | virtualIf
  | ethIf
  | embmsIf
  | oduIf
  | unknownIf
deriving DecidableEq, Repr

structure IfiDevName where
  ifaceName : CString
  ifCat : IfaceType
deriving DecidableEq, Repr

structure PrivateSubnet where
  subnetAddr : UInt32
  subnetMask : UInt32
deriving DecidableEq, Repr

/-- `IPACM_conf_t`. -/
structure IpacmConf where
  numIfaceEntries : UInt8
  ifaceEntries : Nat → IfiDevName
  numSubnetEntries : UInt8
  privateSubnetEntries : Nat → PrivateSubnet
  numAlgEntries : UInt8
  algEntries : Nat → Alg
  natMaxEntries : Int
  routerModeEnable : Bool

def IpacmConf.zero : IpacmConf where
  numIfaceEntries := 0
  ifaceEntries := fun _ => ⟨[], .lanIf⟩
  numSubnetEntries := 0
  privateSubnetEntries := fun _ => ⟨0, 0⟩
  numAlgEntries := 0
  algEntries := fun _ => ⟨0, 0⟩
  natMaxEntries := 0
  routerModeEnable := false

/-- `alg_table` of `IPACM_Config::Init`. -/
def IpacmConf.algTable (config : IpacmConf) : List Alg :=
  (List.range config.numAlgEntries.toNat).map config.algEntries

/-- The elements of the file. -/
inductive CfgTag where
  | system
  | odu
  | ipacmCfg
  | ipacmIfaceCfg
  | iface
  | ipacmPrivateSubnetCfg
  | subnet
  | ipacmAlg
  | alg
  | ipacmNat
  | oduMode
  | name
  | category
  | subnetAddress
  | subnetMask
  | protocol
  | port
  | natMaxEntries
deriving DecidableEq, Repr

namespace CfgTag

def text : CfgTag → CString
  | .system => "system".toList
  | .odu => "ODUCFG".toList
  | .ipacmCfg => "IPACM".toList
  | .ipacmIfaceCfg => "IPACMIface".toList
  | .iface => "Iface".toList
  | .ipacmPrivateSubnetCfg => "IPACMPrivateSubnet".toList
  | .subnet => "Subnet".toList
  | .ipacmAlg => "IPACMALG".toList
  | .alg => "ALG".toList
  | .ipacmNat => "IPACMNAT".toList
  | .oduMode => "Mode".toList
  | .name => "Name".toList
  | .category => "Category".toList
  | .subnetAddress => "SubnetAddress".toList
  | .subnetMask => "SubnetMask".toList
  | .protocol => "Protocol".toList
  | .port => "Port".toList
  | .natMaxEntries => "MaxNatEntries".toList

/-- In the order of the comparisons. -/
def all : List CfgTag :=
  [.system, .odu, .ipacmCfg, .ipacmIfaceCfg, .iface, .ipacmPrivateSubnetCfg, .subnet, .ipacmAlg,
    .alg, .ipacmNat, .oduMode, .name, .category, .subnetAddress, .subnetMask, .protocol, .port,
    .natMaxEntries]

def ofName (name : Option CString) : Option CfgTag :=
  all.find? fun tag => utilIcmpString name tag.text

/-- The elements whose children are visited. -/
def descends : CfgTag → Bool
  | .system | .odu | .ipacmCfg | .ipacmIfaceCfg | .iface | .ipacmPrivateSubnetCfg | .subnet
  | .ipacmAlg | .alg | .ipacmNat => true
  | _ => false

end CfgTag

/-- The categories in the order of the comparisons. -/
def categories : List (CString × IfaceType) :=
  [("WAN".toList, .wanIf), ("LAN".toList, .lanIf), ("WLAN".toList, .wlanIf),
    ("VIRTUAL".toList, .virtualIf), ("UNKNOWN".toList, .unknownIf), ("ETH".toList, .ethIf),
    ("ODU".toList, .oduIf)]

/-- As many characters are compared as the text has. -/
def categoryOf (contentBuf : CString) (strSize : Nat) : Option IfaceType :=
  (categories.find? fun c => strncasecmp contentBuf c.1 strSize).map Prod.snd

def protocolOf (contentBuf : CString) (strSize : Nat) : Option UInt8 :=
  if strncasecmp contentBuf "TCP".toList strSize then some ipprotoTcp
  else if strncasecmp contentBuf "UDP".toList strSize then some ipprotoUdp
  else none

namespace IpacmConf

def modifyIface (config : IpacmConf) (f : IfiDevName → IfiDevName) : Option IpacmConf :=
  (modifyLast maxIfaceEntries config.numIfaceEntries config.ifaceEntries f).map fun entries =>
    { config with ifaceEntries := entries }

def modifySubnet (config : IpacmConf) (f : PrivateSubnet → PrivateSubnet) : Option IpacmConf :=
  (modifyLast maxPrivateSubnetEntries config.numSubnetEntries config.privateSubnetEntries f).map
    fun entries => { config with privateSubnetEntries := entries }

def modifyAlg (config : IpacmConf) (f : Alg → Alg) : Option IpacmConf :=
  (modifyLast maxAlgEntries config.numAlgEntries config.algEntries f).map fun entries =>
    { config with algEntries := entries }

end IpacmConf

/-- What a field does with its text, once it is in the buffer. -/
def cfgField (libc : Libc) (tag : CfgTag) (config : IpacmConf) (contentBuf : CString) :
    Option IpacmConf :=
  match tag with
  | .oduMode =>
      if strncasecmp contentBuf "router".toList contentBuf.length then
        some { config with routerModeEnable := true }
      else if strncasecmp contentBuf "bridge".toList contentBuf.length then
        some { config with routerModeEnable := false }
      else some config
  | .name =>
      if contentBuf.length ≤ ifaceNameLen then
        config.modifyIface fun e => { e with ifaceName := strncpy e.ifaceName contentBuf }
      else none
  | .category =>
      match categoryOf contentBuf contentBuf.length with
      | some ifCat => config.modifyIface fun e => { e with ifCat := ifCat }
      | none => some config
  | .subnetAddress =>
      config.modifySubnet fun e =>
        { e with subnetAddr := htonl (libc.inetAddr (clearLast contentBuf)) }
  | .subnetMask =>
      config.modifySubnet fun e =>
        { e with subnetMask := htonl (libc.inetAddr (clearLast contentBuf)) }
  | .protocol =>
      match protocolOf (clearLast contentBuf) contentBuf.length with
      | some protocol => config.modifyAlg fun e => { e with protocol := protocol }
      | none => some config
  | .port => config.modifyAlg fun e => { e with port := UInt16.ofInt (atoi contentBuf) }
  | .natMaxEntries => some { config with natMaxEntries := atoi contentBuf }
  | _ => some config

/-- What is done for one element before its children are visited. -/
def cfgElement (libc : Libc) (tag : CfgTag) (content : Option CString) (config : IpacmConf) :
    Option IpacmConf :=
  match tag with
  | .iface => some { config with numIfaceEntries := config.numIfaceEntries + 1 }
  | .subnet => some { config with numSubnetEntries := config.numSubnetEntries + 1 }
  | .alg => some { config with numAlgEntries := config.numAlgEntries + 1 }
  | tag =>
      if tag.descends then some config
      else
        match content with
        | none => some config
        | some content => (copyContent content).bind (cfgField libc tag config)

def ipacmCfgXmlParseTree (libc : Libc) : XmlNode → IpacmConf → Option IpacmConf
  | .null, config => some config
  | .node label children next, config =>
      match label.type with
      | .element =>
          match CfgTag.ofName label.name with
          | none => ipacmCfgXmlParseTree libc next config
          | some tag =>
              (cfgElement libc tag (readContentElement children) config).bind fun config =>
                (if tag.descends then ipacmCfgXmlParseTree libc children config
                  else some config).bind fun config => ipacmCfgXmlParseTree libc next config
      | _ => ipacmCfgXmlParseTree libc next config

/-- `ipacm_read_cfg_xml`, with the root of the document. -/
def ipacmReadCfgXml (libc : Libc) (root : XmlNode) : Option IpacmConf :=
  ipacmCfgXmlParseTree libc root .zero

inductive CfgTable where
  | iface
  | subnet
  | alg
deriving DecidableEq, Repr

def CfgTable.size : CfgTable → Nat
  | .iface => maxIfaceEntries
  | .subnet => maxPrivateSubnetEntries
  | .alg => maxAlgEntries

/-- An element that the parser visits, with its text. -/
structure CfgVisit where
  tag : CfgTag
  content : Option CString

def cfgVisit (label : XmlLabel) (children : XmlNode) : Option CfgVisit :=
  match label.type with
  | .element => (CfgTag.ofName label.name).map fun tag => ⟨tag, readContentElement children⟩
  | _ => none

/-- The elements visited, in document order. -/
def cfgVisits (root : XmlNode) : List CfgVisit :=
  elements cfgVisit (fun v => v.tag.descends) root

namespace CfgVisit

/-- The table whose last entry a field writes to. A category or a protocol that is not
recognised writes nothing. -/
def writes (v : CfgVisit) : Option CfgTable :=
  match v.tag, v.content with
  | .name, some _ => some .iface
  | .category, some text => (categoryOf text text.length).map fun _ => .iface
  | .subnetAddress, some _ => some .subnet
  | .subnetMask, some _ => some .subnet
  | .protocol, some text => (protocolOf (clearLast text) text.length).map fun _ => .alg
  | .port, some _ => some .alg
  | _, _ => none

def opens (v : CfgVisit) : Option CfgTable :=
  match v.tag with
  | .iface => some .iface
  | .subnet => some .subnet
  | .alg => some .alg
  | _ => none

def copied (v : CfgVisit) : Nat :=
  if v.tag.descends then 0 else (v.content.map List.length).getD 0

/-- A name goes on from the buffer to its member. -/
def room (v : CfgVisit) : Nat :=
  if v.tag = .name then ifaceNameLen else maxXmlStrLen

def access (v : CfgVisit) : Access CfgTable :=
  ⟨v.copied, v.room, v.opens, v.writes⟩

end CfgVisit

/-- Every text fits the buffer, every name its member, and every field of a table comes after the
opening of one to as many entries as the table has, counted in a byte. -/
def CfgFits (root : XmlNode) : Prop :=
  AllFit CfgTable.size ((cfgVisits root).map CfgVisit.access)

def IpacmConf.count (config : IpacmConf) : CfgTable → UInt8
  | .iface => config.numIfaceEntries
  | .subnet => config.numSubnetEntries
  | .alg => config.numAlgEntries

end LibraDevice.Xml
