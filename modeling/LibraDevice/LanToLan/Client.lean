import Mathlib.Logic.Function.Basic

/-!
The client tables of `IPACM_LanToLan`: clients point to their peers, and the
offload links between two clients are kept in the lists of both. A function that
follows a pointer to an erased entry has no result.
-/

namespace LibraDevice.LanToLan

def maxOffloadPair : Nat := 3

/-- `ipa_ip_type`. -/
inductive IpType where
  | v4
  | v6
  | max
deriving DecidableEq, Repr

/-- The address union; `ipv4_addr` is its first word. -/
structure IpAddr where
  w0 : UInt32
  w1 : UInt32
  w2 : UInt32
  w3 : UInt32
deriving DecidableEq, Repr

abbrev MacAddr := Vector UInt8 6

/-- `lan_to_lan_rt_rule_hdl`. -/
structure RtRuleHdl where
  numRule : UInt8
  ruleHdl : List Nat
deriving DecidableEq, Repr

/-- The address of a table entry. An address is not given out twice. -/
abbrev ClientPtr := Nat

/-- `peer_info`; `num_connection` is taken to stay below `2 ^ 31`. -/
structure PeerInfo where
  peerPointer : ClientPtr
  numConnection : Int
deriving DecidableEq, Repr

/-- `offload_link_info`, one direction of an offload link. -/
structure OffloadLinkInfo where
  peerPointer : ClientPtr
  fltRuleHdl : Nat
  rtRuleHdl : RtRuleHdl
  hdrHdl : Nat
deriving DecidableEq, Repr

/-- `client_info`, over a type of interfaces. -/
structure ClientInfo (ι : Type) where
  ip : IpAddr
  macAddr : MacAddr
  isActive : Bool
  isPowersave : Bool
  pIface : ι
  peer : List PeerInfo
  link : List OffloadLinkInfo

/-- The calls on an interface. `none` and `false` stand for `IPACM_FAILURE`. -/
structure LanDriver (ι δ : Type) where
  addLan2lanHdr : ι → IpType → MacAddr → MacAddr → δ → Option Nat × δ
  addLan2lanRtRule : ι → IpType → IpAddr → IpAddr → Nat → δ → Option RtRuleHdl × δ
  addLan2lanFltRule : ι → IpType → IpAddr → IpAddr → δ → Option Nat × δ
  delLan2lanFltRule : ι → IpType → Nat → δ → Bool × δ
  delLan2lanRtRule : ι → IpType → RtRuleHdl → δ → Bool × δ
  delLan2lanHdr : ι → IpType → Nat → δ → Bool × δ

/-- A client table: `clientInfo` finds the entry of an address, `node` its
contents. -/
structure ClientTable (κ ι : Type) where
  numOffloadPair : UInt8
  clientInfo : κ → Option ClientPtr
  node : ClientPtr → Option (ClientInfo ι)
  nextNode : ClientPtr

/-- A client table and the state of the interfaces. -/
structure LanState (κ ι δ : Type) extends ClientTable κ ι where
  driver : δ

section

variable {κ ι δ : Type}

def LanState.setNode (s : LanState κ ι δ) (client : ClientPtr) (c : ClientInfo ι) :
    LanState κ ι δ :=
  { s with node := Function.update s.node client (some c) }

variable (d : LanDriver ι δ)

/-- The header, the routing rules and the filter rule of a link, all of them or
none. -/
def addLinkRules (iptype : IpType) (client peer : ClientInfo ι) (drv : δ) :
    Option (Nat × RtRuleHdl × Nat) × δ :=
  match d.addLan2lanHdr peer.pIface iptype client.macAddr peer.macAddr drv with
  | (none, drv) => (none, drv)
  | (some hdrHdl, drv) =>
    match d.addLan2lanRtRule peer.pIface iptype client.ip peer.ip hdrHdl drv with
    | (none, drv) => (none, (d.delLan2lanHdr peer.pIface iptype hdrHdl drv).2)
    | (some rtRuleHdl, drv) =>
      match d.addLan2lanFltRule client.pIface iptype client.ip peer.ip drv with
      | (none, drv) =>
        let drv := (d.delLan2lanRtRule peer.pIface iptype rtRuleHdl drv).2
        (none, (d.delLan2lanHdr peer.pIface iptype hdrHdl drv).2)
      | (some fltHdl, drv) => (some (fltHdl, rtRuleHdl, hdrHdl), drv)

/-- `add_offload_link`; other IP types fail as a full table does. -/
def addOffloadLink (iptype : IpType) (client peer : ClientPtr) (s : LanState κ ι δ) :
    Option (Bool × LanState κ ι δ) :=
  if iptype = .max ∨ maxOffloadPair ≤ s.numOffloadPair.toNat then some (false, s)
  else do
    let c ← s.node client
    let p ← s.node peer
    match addLinkRules d iptype c p s.driver with
    | (none, drv) => some (false, { s with driver := drv })
    | (some (fltHdl, rtRuleHdl, hdrHdl), drv) =>
      some (true,
        { s.setNode client { c with link := c.link ++ [⟨peer, fltHdl, rtRuleHdl, hdrHdl⟩] } with
          driver := drv })

/-- `del_offload_link`: all three deletions are tried. -/
def delOffloadLink (iptype : IpType) (client peer : ι) (link : OffloadLinkInfo) (drv : δ) :
    Bool × δ :=
  let flt := d.delLan2lanFltRule client iptype link.fltRuleHdl drv
  let rt := d.delLan2lanRtRule peer iptype link.rtRuleHdl flt.2
  let hdr := d.delLan2lanHdr peer iptype link.hdrHdl rt.2
  (flt.1 && rt.1 && hdr.1, hdr.2)

/-- The loop of `turnoff_offload_links` over the links of `client`. A link to
`client` itself would be erased under the iterator. -/
def turnoffLoop (iptype : IpType) (client : ClientPtr) :
    List OffloadLinkInfo → LanState κ ι δ → Option (Bool × LanState κ ι δ)
  | [], s => do
    let c ← s.node client
    some (true, s.setNode client { c with link := [] })
  | link :: rest, s => do
    let c ← s.node client
    let p ← s.node link.peerPointer
    let own := delOffloadLink d iptype c.pIface p.pIface link s.driver
    if own.1 = false then some (false, { s with driver := own.2 })
    else
      match p.link.find? fun l => l.peerPointer = client with
      | none => some (false, { s with driver := own.2 })
      | some back =>
        let other := delOffloadLink d iptype p.pIface c.pIface back own.2
        if other.1 = false then some (false, { s with driver := other.2 })
        else if link.peerPointer = client then none
        else
          turnoffLoop iptype client rest
            { s.setNode link.peerPointer
                { p with link := p.link.eraseP fun l => l.peerPointer = client } with
              numOffloadPair := s.numOffloadPair - 1
              driver := other.2 }

def turnoffOffloadLinks (iptype : IpType) (client : ClientPtr) (s : LanState κ ι δ) :
    Option (Bool × LanState κ ι δ) := do
  let c ← s.node client
  turnoffLoop d iptype client c.link s

/-- The loop of `clear_peer_list`. -/
def clearPeerLoop (client : ClientPtr) :
    List PeerInfo → LanState κ ι δ → Option (Bool × LanState κ ι δ)
  | [], s => do
    let c ← s.node client
    some (true, s.setNode client { c with peer := [] })
  | e :: rest, s => do
    let p ← s.node e.peerPointer
    match p.peer.find? fun b => b.peerPointer = client with
    | none => some (false, s)
    | some _ =>
      if e.peerPointer = client then none
      else
        clearPeerLoop client rest
          (s.setNode e.peerPointer { p with peer := p.peer.eraseP fun b => b.peerPointer = client })

def clearPeerList (client : ClientPtr) (s : LanState κ ι δ) : Option (Bool × LanState κ ι δ) := do
  let c ← s.node client
  clearPeerLoop client c.peer s

/-- The loop of `remove_flt_rules`, whose deletions may fail. -/
def removeFltLoop (iptype : IpType) (client : ClientPtr) :
    List OffloadLinkInfo → LanState κ ι δ → Option (Bool × LanState κ ι δ)
  | [], s => some (true, s)
  | link :: rest, s => do
    let c ← s.node client
    let drv := (d.delLan2lanFltRule c.pIface iptype link.fltRuleHdl s.driver).2
    let p ← s.node link.peerPointer
    match p.link.find? fun l => l.peerPointer = client with
    | none => some (false, { s with driver := drv })
    | some back =>
      removeFltLoop iptype client rest
        { s with driver := (d.delLan2lanFltRule p.pIface iptype back.fltRuleHdl drv).2 }

def removeFltRules (iptype : IpType) (client : ClientPtr) (s : LanState κ ι δ) :
    Option (Bool × LanState κ ι δ) := do
  let c ← s.node client
  removeFltLoop d iptype client c.link s

/-- The filter handle of the first link to `peer` is overwritten. -/
def setFltTo (peer : ClientPtr) (fltHdl : Nat) : List OffloadLinkInfo → List OffloadLinkInfo
  | [] => []
  | link :: rest =>
    if link.peerPointer = peer then { link with fltRuleHdl := fltHdl } :: rest
    else link :: setFltTo peer fltHdl rest

/-- The loop of `add_flt_rules` over the `n` links of `client` from the `i`th on. -/
def addFltLoop (iptype : IpType) (client : ClientPtr) :
    Nat → Nat → LanState κ ι δ → Option (Bool × LanState κ ι δ)
  | 0, _, s => some (true, s)
  | n + 1, i, s => do
    let c ← s.node client
    let link ← c.link[i]?
    let p ← s.node link.peerPointer
    match d.addLan2lanFltRule c.pIface iptype c.ip p.ip s.driver with
    | (none, drv) => some (false, { s with driver := drv })
    | (some fltHdl, drv) =>
      let s := { s.setNode client { c with link := c.link.set i { link with fltRuleHdl := fltHdl } }
        with driver := drv }
      let p ← s.node link.peerPointer
      match p.link.find? fun l => l.peerPointer = client with
      | none => some (false, s)
      | some _ =>
        match d.addLan2lanFltRule p.pIface iptype p.ip c.ip s.driver with
        | (none, drv) => some (false, { s with driver := drv })
        | (some fltHdl, drv) =>
          addFltLoop iptype client n (i + 1)
            { s.setNode link.peerPointer { p with link := setFltTo client fltHdl p.link } with
              driver := drv }

def addFltRules (iptype : IpType) (client : ClientPtr) (s : LanState κ ι δ) :
    Option (Bool × LanState κ ι δ) := do
  let c ← s.node client
  addFltLoop d iptype client c.link.length 0 s

/-- The loop of `check_potential_link`; only the result of the second direction
is looked at. -/
def checkPotentialLoop (iptype : IpType) (client : ClientPtr) :
    List PeerInfo → LanState κ ι δ → Option (LanState κ ι δ)
  | [], s => some s
  | e :: rest, s => do
    let p ← s.node e.peerPointer
    if p.isActive = true ∧ 0 < e.numConnection then
      let there ← addOffloadLink d iptype client e.peerPointer s
      let back ← addOffloadLink d iptype e.peerPointer client there.2
      checkPotentialLoop iptype client rest
        (if back.1 then { back.2 with numOffloadPair := back.2.numOffloadPair + 1 } else back.2)
    else checkPotentialLoop iptype client rest s

def checkPotentialLink (iptype : IpType) (client : ClientPtr) (s : LanState κ ι δ) :
    Option (LanState κ ι δ) := do
  let c ← s.node client
  checkPotentialLoop d iptype client c.peer s

/-- One loop of `add_connection`: the new list, and whether an entry was inserted. -/
def countUp (peer : ClientPtr) : List PeerInfo → List PeerInfo × Bool
  | [] => ([⟨peer, 1⟩], true)
  | e :: rest =>
    if e.peerPointer = peer then ({ e with numConnection := e.numConnection + 1 } :: rest, false)
    else (e :: (countUp peer rest).1, (countUp peer rest).2)

def addConnection (src dst : ClientPtr) (s : LanState κ ι δ) :
    Option (Bool × LanState κ ι δ) := do
  let c ← s.node src
  let s := s.setNode src { c with peer := (countUp dst c.peer).1 }
  let p ← s.node dst
  some ((countUp dst c.peer).2 || (countUp src p.peer).2,
    s.setNode dst { p with peer := (countUp src p.peer).1 })

/-- One loop of `remove_connection`: the new list, and whether an entry went. -/
def countDown (peer : ClientPtr) : List PeerInfo → List PeerInfo × Bool
  | [] => ([], false)
  | e :: rest =>
    if e.peerPointer = peer then
      if e.numConnection - 1 = 0 then (rest, true)
      else ({ e with numConnection := e.numConnection - 1 } :: rest, false)
    else (e :: (countDown peer rest).1, (countDown peer rest).2)

/-- `remove_connection`, which returns what happened in the list of `dst`. -/
def removeConnection (src dst : ClientPtr) (s : LanState κ ι δ) :
    Option (Bool × LanState κ ι δ) := do
  let c ← s.node src
  let s := s.setNode src { c with peer := (countDown dst c.peer).1 }
  let p ← s.node dst
  some ((countDown src p.peer).2, s.setNode dst { p with peer := (countDown src p.peer).1 })

/-- One half of `erase_offload_link`: the first link of `client` to `peer` goes. -/
def eraseLinkTo (iptype : IpType) (client peer : ClientPtr) (s : LanState κ ι δ) :
    Option (Bool × LanState κ ι δ) := do
  let c ← s.node client
  match c.link.find? fun l => l.peerPointer = peer with
  | none => some (false, s)
  | some link =>
    let p ← s.node peer
    let res := delOffloadLink d iptype c.pIface p.pIface link s.driver
    some (res.1,
      { s.setNode client { c with link := c.link.eraseP fun l => l.peerPointer = peer } with
        driver := res.2 })

def eraseOffloadLink (iptype : IpType) (src dst : ClientPtr) (s : LanState κ ι δ) :
    Option (LanState κ ι δ) := do
  let there ← eraseLinkTo d iptype src dst s
  let back ← eraseLinkTo d iptype dst src there.2
  some (if there.1 && back.1 then { back.2 with numOffloadPair := back.2.numOffloadPair - 1 }
    else back.2)

end

end LibraDevice.LanToLan
