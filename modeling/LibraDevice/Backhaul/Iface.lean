import LibraDevice.Lib.Broadcast

/-!
`IPACM_Wan`: the default routes and the tethered interfaces of the WAN interfaces.
-/

namespace LibraDevice.Backhaul

open Broadcast

def maxIfaceEntries : Nat := 15
def maxPrivateSubnetEntries : Nat := 3
def maxDefaultV6RouteRules : Nat := 2

/-- The `iptype` of an event. -/
inductive IpType where
  | v4
  | v6
deriving DecidableEq, Repr

/-- The handle of a rule or a header in the driver. -/
abbrev Hdl := UInt32

/-- A pair of members, one for IPv4 and one for IPv6. -/
structure Fam (α : Type) where
  v4 : α
  v6 : α
deriving DecidableEq, Repr

namespace Fam

variable {α : Type}

def get (x : Fam α) : IpType → α
  | .v4 => x.v4
  | .v6 => x.v6

def set (x : Fam α) (a : α) : IpType → Fam α
  | .v4 => { x with v4 := a }
  | .v6 => { x with v6 := a }

@[simp]
theorem get_set (x : Fam α) (a : α) (f g : IpType) :
    (x.set a f).get g = if g = f then a else x.get g := by
  cases f <;> cases g <;> rfl

end Fam

/-- `ipacm_wan_iface_type`. -/
inductive WanIfaceType where
  | q6Wan
  | wlanWan
  | ecmWan
deriving DecidableEq, Repr

/-- `ip_type`: `IPACM_IP_NULL`, one family, or `IPA_IP_MAX`. -/
inductive IfaceIpType where
  | null
  | v4
  | v6
  | max
deriving DecidableEq, Repr

namespace IfaceIpType

def supports : IfaceIpType → IpType → Bool
  | .null, _ => false
  | .v4, f => f = .v4
  | .v6, f => f = .v6
  | .max, _ => true

/-- What `init_fl_rule` and `init_fl_rule_ex` make of it. -/
def add : IfaceIpType → IpType → IfaceIpType
  | .null, .v4 => .v4
  | .null, .v6 => .v6
  | .v4, .v6 => .max
  | .v6, .v4 => .max
  | t, _ => t

theorem supports_add (t : IfaceIpType) (f g : IpType) :
    (t.add f).supports g = (t.supports g || decide (g = f)) := by
  cases t <;> cases f <;> cases g <;> rfl

end IfaceIpType

structure Ipv6Addr where
  word0 : UInt32
  word1 : UInt32
  word2 : UInt32
  word3 : UInt32
deriving DecidableEq, Repr

def Ipv6Addr.zero : Ipv6Addr := ⟨0, 0, 0, 0⟩

/-- `is_global_ipv6_addr`. -/
def Ipv6Addr.isGlobal (addr : Ipv6Addr) : Bool :=
  addr.word0 &&& 0xFFC00000 != 0xFE800000 &&& 0xFFC00000

/-- The first two words. -/
def Ipv6Addr.pfx (addr : Ipv6Addr) : UInt32 × UInt32 := (addr.word0, addr.word1)

/-- A TX property, with what `IPA_IOC_COPY_HDR` says of the header it names. -/
structure TxProp where
  ip : IpType
  isPartial : Bool
deriving DecidableEq, Repr

/-- The members of `IPACM_Wan`. -/
structure Wan where
  ipaIfNum : Int
  devName : String
  mIsStaMode : WanIfaceType
  isEmbmsIf : Bool
  txProp : Option (List TxProp)
  hasRxProp : Bool
  numExtProps : Nat
  hasExtProp : Bool
  ipType : IfaceIpType
  wanV4Addr : UInt32
  ipv6Addr : List Ipv6Addr
  ipv6Prefix : UInt32 × UInt32
  numIpv6DestFltRule : Nat
  active : Fam Bool
  headerSet : Fam Bool
  headerPartialDefaultWan : Fam Bool
  isDefaultGateway : Bool
deriving DecidableEq, Repr

/-- What the constructor leaves: `is_default_gateway` is cleared for a modem only. -/
structure Wan.Constructed (w : Wan) : Prop where
  ipType : w.ipType = .null
  ipv6Addr : w.ipv6Addr = []
  numIpv6DestFltRule : w.numIpv6DestFltRule = 0
  active : w.active = ⟨false, false⟩
  headerSet : w.headerSet = ⟨false, false⟩
  headerPartialDefaultWan : w.headerPartialDefaultWan = ⟨false, false⟩
  isDefaultGateway : w.mIsStaMode = .q6Wan → w.isDefaultGateway = false

def Wan.isSta (w : Wan) : Bool := w.mIsStaMode != .q6Wan

/-- The events `PostEvt` is called with. -/
inductive Posted where
  | wanUp (ifname : String) (ipv4Addr : UInt32) (isSta : Bool)
  | wanUpV6 (ifname : String) (ipv6Prefix : UInt32 × UInt32) (isSta : Bool)
  | wanDown (ipv4Addr : UInt32) (isSta : Bool)
  | wanDownV6 (ipv6Prefix : UInt32 × UInt32) (isSta : Bool)
  | wanUpTether (iptype : IpType) (ifIndexTether : Int) (ipv6Prefix : UInt32 × UInt32)
      (isSta : Bool)
  | wanDownTether (iptype : IpType) (ifIndexTether : Int) (isSta : Bool)
deriving DecidableEq, Repr

/-- What is done to the firewall rules. -/
inductive FirewallOp where
  | delWanFirewallRule (iptype : IpType)
  | configWanFirewallRule (iptype : IpType)
  | delDftFirewallRules (iptype : IpType)
  | configDftFirewallRules (iptype : IpType)
  | installWanFilteringRule
deriving DecidableEq, Repr

/-- The static members. The tether tables are the entries below their totals. -/
structure Static where
  wanUp : Fam Bool
  wanUpDevName : String
  backhaulIsStaMode : Bool
  backhaulIpv6Prefix : UInt32 × UInt32
  ipaIfNumTether : Fam (List Int)
  posted : List Posted
  firewallOps : List FirewallOp
deriving DecidableEq, Repr

def Static.init : Static where
  wanUp := ⟨false, false⟩
  wanUpDevName := ""
  backhaulIsStaMode := false
  backhaulIpv6Prefix := (0, 0)
  ipaIfNumTether := ⟨[], []⟩
  posted := []
  firewallOps := []

/-- `isWanUP` and `isWanUP_V6`. -/
def Static.isWanUP (s : Static) (iptype : IpType) (ipaIfNumTether : Int) : Bool :=
  if ipaIfNumTether ∈ s.ipaIfNumTether.get iptype then s.wanUp.get iptype else false

def Static.post (s : Static) (e : Posted) : Static :=
  { s with posted := s.posted ++ [e] }

def Static.firewall (s : Static) (ops : List FirewallOp) : Static :=
  { s with firewallOps := s.firewallOps ++ ops }

/-- The name is kept while the other family is up. -/
def Static.resetDevName (s : Static) (up : Bool) : Static :=
  { s with wanUpDevName := if up then s.wanUpDevName else "" }

/-- Which driver calls of one callback succeed. -/
structure Io where
  copyHeader : IpType → Bool
  addHeader : IpType → Bool
  getHeaderHandle : IpType → Bool
  addRoutingRule : IpType → Bool
  deleteRoutingHdl : IpType → Bool
  addFilteringRule : Bool

def Io.succeeding : Io where
  copyHeader := fun _ => true
  addHeader := fun _ => true
  getHeaderHandle := fun _ => true
  addRoutingRule := fun _ => true
  deleteRoutingHdl := fun _ => true
  addFilteringRule := true

/-- The address of an `ipacm_event_data_addr`. -/
structure EventDataAddr where
  iptype : IpType
  ipv4Addr : UInt32
  ipv4AddrMask : UInt32
  ipv6Addr : Ipv6Addr
deriving DecidableEq, Repr

namespace EventDataAddr

/-- "Invalid address". -/
def isZero (data : EventDataAddr) : Bool :=
  match data.iptype with
  | .v4 => data.ipv4Addr = 0
  | .v6 => data.ipv6Addr = .zero

/-- A default route. -/
def isDefault (data : EventDataAddr) : Bool :=
  match data.iptype with
  | .v4 => data.ipv4Addr = 0 && data.ipv4AddrMask = 0
  | .v6 => data.ipv6Addr = .zero

end EventDataAddr

/-- The events of `event_callback`, with the `ipa_interface_index` of their `if_index`. -/
inductive Event where
  | wlanLinkDown (index : Int)
  | linkDown (index : Int)
  | addrAdd (index : Int) (data : EventDataAddr)
  | upstreamRouteAdd (index : Int) (iptype : IpType) (indexTether : Int)
  | upstreamRouteDel (index : Int) (iptype : IpType) (indexTether : Int)
  | routeAdd (index : Int) (data : EventDataAddr)
  | routeDel (index : Int) (data : EventDataAddr)
  | neighClientIpAddrAdd (index : Int) (data : EventDataAddr) (validMac : Bool)
  | firewallChange
deriving DecidableEq, Repr

namespace Wan

/-- `handle_addr_evt`: the routing rule to the host, the type of the interface, and for a
station a filtering rule. -/
def handleAddrEvt (io : Io) (data : EventDataAddr) (w : Wan) : Wan :=
  match data.iptype with
  | .v4 =>
      if io.addRoutingRule .v4 then
        { w with ipType := w.ipType.add .v4, wanV4Addr := data.ipv4Addr }
      else w
  | .v6 =>
      if data.ipv6Addr ∈ w.ipv6Addr then w
      else if io.addRoutingRule .v6 = false then w
      else
        let w := if w.ipv6Addr = [] then { w with ipType := w.ipType.add .v6 } else w
        if w.isSta && w.hasRxProp && data.ipv6Addr.isGlobal &&
            w.numIpv6DestFltRule < maxDefaultV6RouteRules then
          if io.addFilteringRule then
            { w with
              numIpv6DestFltRule := w.numIpv6DestFltRule + 1
              ipv6Prefix := data.ipv6Addr.pfx
              ipv6Addr := w.ipv6Addr ++ [data.ipv6Addr] }
          else w
        else
          { w with
            ipv6Prefix := if data.ipv6Addr.isGlobal then data.ipv6Addr.pfx else w.ipv6Prefix
            ipv6Addr := w.ipv6Addr ++ [data.ipv6Addr] }

/-- The guard of `IPA_ADDR_ADD_EVENT`. -/
def takesAddr (w : Wan) (data : EventDataAddr) : Bool :=
  match data.iptype with
  | .v4 => w.ipType = .null || w.ipType = .v6
  | .v6 => w.ipType = .null || w.ipType = .v4 || w.ipv6Addr.length ≠ maxDefaultV6RouteRules

/-- What `IPA_IOC_COPY_HDR` says of the header of the family's first property. Past the
last property there is no header's name. -/
def headerIsPartial (w : Wan) (iptype : IpType) : Option Bool :=
  ((w.txProp.getD []).find? fun tx => tx.ip = iptype).map TxProp.isPartial

def hasTx (w : Wan) (iptype : IpType) : Bool :=
  (w.txProp.getD []).any fun tx => tx.ip = iptype

/-- "Setup default WAN routing rules", once the header is complete. -/
def routeUp (iptype : IpType) (w : Wan) (s : Static) : Wan × Static :=
  let s := { s with wanUp := s.wanUp.set true iptype, wanUpDevName := w.devName }
  let s := s.firewall
    (if w.isSta then [.configDftFirewallRules iptype]
      else [.configWanFirewallRule iptype, .installWanFilteringRule])
  let s := s.post
    (match iptype with
      | .v4 => .wanUp w.devName w.wanV4Addr w.isSta
      | .v6 => .wanUpV6 w.devName w.ipv6Prefix w.isSta)
  ({ w with active := w.active.set true iptype }, s)

/-- From the header on. -/
def routeAddRules (io : Io) (iptype : IpType) (w : Wan) (s : Static) : Wan × Static :=
  match w.headerIsPartial iptype with
  | none => (w, s)
  | some isPartial =>
      if io.copyHeader iptype = false then (w, s)
      else
        let w := { w with
          headerPartialDefaultWan := w.headerPartialDefaultWan.set isPartial iptype }
        if isPartial then (w, s)
        else if w.isSta && !io.getHeaderHandle iptype then (w, s)
        else if (w.isSta || iptype = .v6) && !io.addRoutingRule iptype then (w, s)
        else w.routeUp iptype s

def handleRouteAddEvt (io : Io) (iptype : IpType) (w : Wan) (s : Static) : Wan × Static :=
  if w.txProp = none then (w, s)
  else
    let w := { w with isDefaultGateway := true }
    let s := { s with backhaulIpv6Prefix := w.ipv6Prefix, backhaulIsStaMode := w.isSta }
    if w.isSta then
      if w.headerSet.get iptype = false then
        ({ w with headerPartialDefaultWan := w.headerPartialDefaultWan.set true iptype }, s)
      else w.routeAddRules io iptype s
    else if 0 < w.numExtProps ∧ w.hasExtProp = true then w.routeAddRules io iptype s
    else (w, s)

/-- The default route is deleted, once its rules are. -/
def routeDown (iptype : IpType) (w : Wan) (s : Static) : Wan × Static :=
  let s := s.post
    (match iptype with
      | .v4 => .wanDown w.wanV4Addr w.isSta
      | .v6 => .wanDownV6 w.ipv6Prefix w.isSta)
  let s := { s with wanUp := s.wanUp.set false iptype }
  let s := s.resetDevName (s.wanUp.v4 || s.wanUp.v6)
  ({ w with active := w.active.set false iptype }, s)

/-- Both forms of the deletion; `deleted` says whether the rules could be. -/
def routeDel (deleted : Bool) (iptype : IpType) (w : Wan) (s : Static) : Wan × Static :=
  if w.txProp = none then (w, s)
  else
    let w := { w with isDefaultGateway := false }
    if w.active.get iptype && deleted then w.routeDown iptype s else (w, s)

/-- `handle_route_del_evt`, of a station. -/
def handleRouteDelEvt (io : Io) (iptype : IpType) (w : Wan) (s : Static) : Wan × Static :=
  w.routeDel (io.deleteRoutingHdl iptype || (iptype = .v4 && !w.hasTx .v4)) iptype s

/-- `handle_route_del_evt_ex`, of a modem, which has no rules of its own for IPv4. -/
def handleRouteDelEvtEx (io : Io) (iptype : IpType) (w : Wan) (s : Static) : Wan × Static :=
  w.routeDel (io.deleteRoutingHdl iptype || iptype = .v4) iptype s

/-- The default route goes, with its firewall. -/
def cleanDefaultRoute (io : Io) (iptype : IpType) (w : Wan) (s : Static) : Wan × Static :=
  if w.isSta then
    w.handleRouteDelEvt io iptype (s.firewall [.delDftFirewallRules iptype])
  else
    w.handleRouteDelEvtEx io iptype
      (s.firewall [.delWanFirewallRule iptype, .installWanFilteringRule])

/-- `post_wan_up_tether_evt`; neither the bound of the table nor its entries are looked at. -/
def postWanUpTetherEvt (iptype : IpType) (ifNumTether : Int) (w : Wan) (s : Static) : Static :=
  let tethers := s.ipaIfNumTether.get iptype ++ [ifNumTether]
  let s := { s with ipaIfNumTether := s.ipaIfNumTether.set tethers iptype }
  s.post
    (.wanUpTether iptype ifNumTether (if iptype = .v6 then w.ipv6Prefix else (0, 0)) w.isSta)

def postWanDownTetherEvt (iptype : IpType) (ifNumTether : Int) (w : Wan) (s : Static) : Static :=
  if ifNumTether ∈ s.ipaIfNumTether.get iptype then
    let tethers := (s.ipaIfNumTether.get iptype).erase ifNumTether
    let s := { s with ipaIfNumTether := s.ipaIfNumTether.set tethers iptype }
    s.post (.wanDownTether iptype ifNumTether w.isSta)
  else s

/-- The full header of the family, if a property names one. -/
def addFullHeader (io : Io) (iptype : IpType) (w : Wan) : Option Wan :=
  if w.hasTx iptype = false then some w
  else if io.copyHeader iptype && io.addHeader iptype then
    some { w with
      headerSet := w.headerSet.set true iptype
      txProp := w.txProp.map fun txs =>
        txs.map fun tx => if tx.ip = iptype then { tx with isPartial := false } else tx }
  else none

/-- "see if default routes are setup before constructing full header". -/
def replayRouteAdd (io : Io) (iptype : IpType) (w : Wan) (s : Static) : Wan × Static :=
  if w.headerPartialDefaultWan.get iptype then w.handleRouteAddEvt io iptype s else (w, s)

/-- `handle_header_add_evt`, with TX properties. Where the second header fails, the first
stays and no route is replayed. -/
def handleHeaderAddEvt (io : Io) (w : Wan) (s : Static) : Wan × Static :=
  if w.headerSet.v4 || w.headerSet.v6 then (w, s)
  else
    match w.addFullHeader io .v4 with
    | none => (w, s)
    | some w =>
        match w.addFullHeader io .v6 with
        | none => (w, s)
        | some w =>
            let r := w.replayRouteAdd io .v4 s
            r.1.replayRouteAdd io .v6 r.2

/-- A neighbour's address is one of the interface's own. -/
def isOwnAddr (w : Wan) (data : EventDataAddr) : Bool :=
  match data.iptype with
  | .v4 => data.ipv4Addr = w.wanV4Addr
  | .v6 => data.ipv6Addr ∈ w.ipv6Addr

/-- `IPA_NEIGH_CLIENT_IP_ADDR_ADD_EVENT`, up to the client's own rules. -/
def handleNeighAddEvt (io : Io) (data : EventDataAddr) (validMac : Bool) (w : Wan)
    (s : Static) : Wan × Static :=
  let r := if w.mIsStaMode = .wlanWan then w.handleHeaderAddEvt io s else (w, s)
  if w.mIsStaMode = .wlanWan ∧ w.isOwnAddr data = true then r
  else if validMac then r.1.handleHeaderAddEvt io r.2
  else r

/-- The interface's default route of one family, in `handle_down_evt`. -/
def downRoute (io : Io) (iptype : IpType) (w : Wan) (s : Static) : Wan × Static :=
  if w.active.get iptype then
    let ops := if w.hasRxProp then [.delDftFirewallRules iptype] else []
    w.handleRouteDelEvt io iptype (s.firewall ops)
  else (w, s)

/-- `handle_down_evt`, of a station. -/
def handleDownEvt (io : Io) (w : Wan) (s : Static) : Static :=
  if w.ipType = .null then s
  else
    let r := w.downRoute io .v4 s
    (r.1.downRoute io .v6 r.2).2

/-- "posting wan_down_tether for all lan clients". -/
def postWanDownTethers (iptype : IpType) (w : Wan) (s : Static) : Static :=
  (s.ipaIfNumTether.get iptype).foldl (fun s t => w.postWanDownTetherEvt iptype t s) s

/-- One family of a default gateway, in `handle_down_evt_ex`: the shared flag is cleared
before the interface's own is looked at. -/
def downRouteEx (io : Io) (ops : List FirewallOp) (iptype : IpType) (w : Wan) (s : Static) :
    Wan × Static :=
  let s := { s with wanUp := s.wanUp.set false iptype }
  let r := w.handleRouteDelEvtEx io iptype (s.firewall ops)
  (r.1, r.1.postWanDownTethers iptype r.2)

/-- `handle_down_evt_ex`, of a modem. -/
def handleDownEvtEx (io : Io) (w : Wan) (s : Static) : Static :=
  if w.ipType = .null then s
  else if w.isEmbmsIf then s
  else if w.isDefaultGateway = false then s
  else
    match w.ipType with
    | .v4 =>
        let r := w.downRouteEx io [.delWanFirewallRule .v4, .installWanFilteringRule] .v4 s
        r.2.resetDevName r.2.wanUp.v6
    | .v6 =>
        let r := w.downRouteEx io [.delWanFirewallRule .v6, .installWanFilteringRule] .v6 s
        r.2.resetDevName r.2.wanUp.v4
    | _ =>
        let r := w.downRouteEx io [.delWanFirewallRule .v4] .v4 s
        let r := r.1.downRouteEx io [.delWanFirewallRule .v6] .v6 r.2
        (r.2.resetDevName false).firewall [.installWanFilteringRule]

/-- The families of `ip_type`, as `IPA_FIREWALL_CHANGE_EVENT` goes through them. -/
def firewallFamilies (w : Wan) : List IpType :=
  if w.isSta then [IpType.v4, IpType.v6].filter w.active.get
  else if w.isDefaultGateway then [IpType.v4, IpType.v6].filter w.ipType.supports
  else []

/-- `IPA_FIREWALL_CHANGE_EVENT`. -/
def handleFirewallChange (w : Wan) : List FirewallOp :=
  if w.isSta then
    w.firewallFamilies.flatMap fun f => [.delDftFirewallRules f, .configDftFirewallRules f]
  else if w.firewallFamilies = [] then []
  else
    (w.firewallFamilies.flatMap fun f => [.delWanFirewallRule f, .configWanFirewallRule f]) ++
      [.installWanFilteringRule]

/-- `event_callback`; without an instance, it has deleted itself. -/
def eventCallback (io : Io) (e : Event) (w : Wan) (s : Static) : Option Wan × Static :=
  match e with
  | .wlanLinkDown index =>
      if w.mIsStaMode = .wlanWan ∧ index = w.ipaIfNum then (none, w.handleDownEvt io s)
      else (some w, s)
  | .linkDown index =>
      match w.mIsStaMode with
      | .q6Wan =>
          if index = w.ipaIfNum then (none, w.handleDownEvtEx io s) else (some w, s)
      | .ecmWan => (none, w.handleDownEvt io s)
      | .wlanWan => (some w, s)
  | .addrAdd index data =>
      if index = w.ipaIfNum ∧ data.isZero = false ∧ w.takesAddr data = true then
        (some (w.handleAddrEvt io data), s)
      else (some w, s)
  | .upstreamRouteAdd index iptype indexTether =>
      if index = w.ipaIfNum then
        if w.ipType.supports iptype then
          let r := if w.active.get iptype then (w, s) else w.handleRouteAddEvt io iptype s
          (some r.1, r.1.postWanUpTetherEvt iptype indexTether r.2)
        else (some w, s)
      else if w.active.get iptype then
        let r := w.cleanDefaultRoute io iptype s
        (some r.1, r.2)
      else (some w, s)
  | .upstreamRouteDel index iptype indexTether =>
      if index = w.ipaIfNum ∧ w.active.get iptype = true then
        let s := w.postWanDownTetherEvt iptype indexTether s
        if s.ipaIfNumTether.get iptype ≠ [] then (some w, s)
        else
          let r := w.cleanDefaultRoute io iptype s
          (some r.1, r.2)
      else (some w, s)
  | .routeAdd index data =>
      if data.isDefault = false then (some w, s)
      else if index = w.ipaIfNum then
        if w.active.get data.iptype = false ∧ w.ipType.supports data.iptype = true then
          let r := w.handleRouteAddEvt io data.iptype s
          (some r.1, r.2)
        else (some w, s)
      else if w.active.get data.iptype then
        let r := w.cleanDefaultRoute io data.iptype s
        (some r.1, r.2)
      else (some w, s)
  | .routeDel index data =>
      if index = w.ipaIfNum ∧ data.isDefault = true ∧ w.active.get data.iptype = true then
        let r := w.cleanDefaultRoute io data.iptype s
        (some r.1, r.2)
      else (some w, s)
  | .neighClientIpAddrAdd index data validMac =>
      if index = w.ipaIfNum then
        let r := w.handleNeighAddEvt io data validMac s
        (some r.1, r.2)
      else (some w, s)
  | .firewallChange => (some w, s.firewall w.handleFirewallChange)

end Wan

/-- The live instances, in the order their callbacks were registered in, and the static
members. -/
structure System where
  wans : List Wan
  static : Static
deriving DecidableEq, Repr

def System.init : System := ⟨[], .init⟩

/-- An instance is constructed, or the callbacks take an event in some order. -/
inductive Call where
  | construct (w : Wan)
  | event (io : Io) (e : Event) (order : List Wan)

def System.deliver (io : Io) (e : Event) (order : List Wan) (s : Static) : System :=
  ⟨(Broadcast.deliver (Wan.eventCallback io e) order s).1,
    (Broadcast.deliver (Wan.eventCallback io e) order s).2⟩

def System.Step (sys : System) : Call → System → Prop
  | .construct w, sys' =>
      w.Constructed ∧ (∀ o ∈ sys.wans, o.ipaIfNum ≠ w.ipaIfNum) ∧
        sys' = { sys with wans := sys.wans ++ [w] }
  | .event io e order, sys' =>
      order.Perm sys.wans ∧ sys' = System.deliver io e order sys.static

end LibraDevice.Backhaul
