import LibraDevice.LanToLan.Client

/-!
The event handlers of `IPACM_LanToLan`, on one client table, and the event
callback that picks the table.
-/

namespace LibraDevice.LanToLan

/-- `ipacm_event_lan_client`; `pIface` may be `NULL`. -/
structure LanClientEvent (ι : Type) where
  iptype : IpType
  ipv4Addr : UInt32
  ipv6Addr : IpAddr
  macAddr : MacAddr
  pIface : Option ι

/-- `ipacm_event_connection`. -/
structure ConnectionEvent where
  iptype : IpType
  srcIpv4Addr : UInt32
  dstIpv4Addr : UInt32
  srcIpv6Addr : IpAddr
  dstIpv6Addr : IpAddr

/-- The data of a client event that passed the checks of its handler. -/
structure ClientData (ι : Type) where
  iptype : IpType
  ipv4Addr : UInt32
  ipv6Addr : IpAddr
  macAddr : MacAddr
  pIface : ι

/-- `IPA_LAN_CLIENT_ACTIVE` and its siblings. -/
inductive ClientEventId where
  | active
  | inactive
  | disconnect
  | powerSave
  | powerRecover
deriving DecidableEq, Repr

/-- `IPA_LAN_TO_LAN_NEW_CONNECTION` and `IPA_LAN_TO_LAN_DEL_CONNECTION`. -/
inductive ConnectionEventId where
  | new
  | del
deriving DecidableEq, Repr

/-- An event as the handlers of one table see it. -/
inductive TableEvent (κ ι : Type) where
  | client (id : ClientEventId) (key : κ) (data : ClientData ι)
  | connection (id : ConnectionEventId) (iptype : IpType) (src dst : κ)

section

variable {κ ι δ : Type}

/-- The address written into an entry; an IPv4 address leaves the other words. -/
def ClientData.writeIp (data : ClientData ι) (old : IpAddr) : IpAddr :=
  if data.iptype = .v4 then { old with w0 := data.ipv4Addr } else data.ipv6Addr

def ClientInfo.update (c : ClientInfo ι) (data : ClientData ι) : ClientInfo ι :=
  { c with
    ip := data.writeIp c.ip
    macAddr := data.macAddr
    isActive := true
    isPowersave := false
    pIface := data.pIface }

/-- The entry made for an address that is not in the table. -/
def newClient (data : ClientData ι) : ClientInfo ι where
  ip := data.writeIp ⟨0, 0, 0, 0⟩
  macAddr := data.macAddr
  isActive := true
  isPowersave := false
  pIface := data.pIface
  peer := []
  link := []

variable [DecidableEq κ] (d : LanDriver ι δ)

/-- `erase` of the table. -/
def LanState.erase (s : LanState κ ι δ) (key : κ) : LanState κ ι δ :=
  match s.clientInfo key with
  | none => s
  | some client =>
    { s with
      clientInfo := Function.update s.clientInfo key none
      node := Function.update s.node client none }

/-- `handle_client_active`. -/
def clientActive (key : κ) (data : ClientData ι) (s : LanState κ ι δ) :
    Option (LanState κ ι δ) :=
  match s.clientInfo key with
  | none =>
    some { s with
      clientInfo := Function.update s.clientInfo key (some s.nextNode)
      node := Function.update s.node s.nextNode (some (newClient data))
      nextNode := s.nextNode + 1 }
  | some client => do
    let c ← s.node client
    if c.isActive then
      if c.macAddr = data.macAddr then some s
      else
        let turned ← turnoffOffloadLinks d data.iptype client s
        let cleared ← clearPeerList client turned.2
        let c ← cleared.2.node client
        some (cleared.2.setNode client (c.update data))
    else checkPotentialLink d data.iptype client (s.setNode client (c.update data))

/-- `handle_client_inactive`. -/
def clientInactive (key : κ) (data : ClientData ι) (s : LanState κ ι δ) :
    Option (LanState κ ι δ) :=
  match s.clientInfo key with
  | none => some s
  | some client => do
    let turned ← turnoffOffloadLinks d data.iptype client s
    let c ← turned.2.node client
    let s := turned.2.setNode client { c with isActive := false }
    some (if c.peer = [] then s.erase key else s)

/-- `handle_client_disconnect`. -/
def clientDisconnect (key : κ) (data : ClientData ι) (s : LanState κ ι δ) :
    Option (LanState κ ι δ) :=
  match s.clientInfo key with
  | none => some s
  | some client => do
    let turned ← turnoffOffloadLinks d data.iptype client s
    let cleared ← clearPeerList client turned.2
    some (cleared.2.erase key)

/-- `handle_client_power_save`. -/
def clientPowerSave (key : κ) (data : ClientData ι) (s : LanState κ ι δ) :
    Option (LanState κ ι δ) :=
  match s.clientInfo key with
  | none => some s
  | some client => do
    let removed ← removeFltRules d data.iptype client s
    if removed.1 = false then some removed.2
    else
      let c ← removed.2.node client
      some (removed.2.setNode client { c with isActive := false, isPowersave := true })

/-- `handle_client_power_recover`. -/
def clientPowerRecover (key : κ) (data : ClientData ι) (s : LanState κ ι δ) :
    Option (LanState κ ι δ) :=
  match s.clientInfo key with
  | none => some s
  | some client => do
    let c ← s.node client
    if c.isActive = true ∨ c.isPowersave ≠ true then some s
    else
      let added ← addFltRules d data.iptype client s
      if added.1 = false then some added.2
      else
        let c ← added.2.node client
        checkPotentialLink d data.iptype client
          (added.2.setNode client { c with isActive := true, isPowersave := false })

/-- `handle_new_lan2lan_connection`. -/
def newLan2lanConnection (iptype : IpType) (src dst : κ) (s : LanState κ ι δ) :
    Option (LanState κ ι δ) :=
  match s.clientInfo src, s.clientInfo dst with
  | some srcClient, some dstClient => do
    let added ← addConnection srcClient dstClient s
    let s := added.2
    let c ← s.node srcClient
    let p ← s.node dstClient
    if added.1 && c.isActive && p.isActive then
      let there ← addOffloadLink d iptype srcClient dstClient s
      if there.1 = false then some there.2
      else
        let back ← addOffloadLink d iptype dstClient srcClient there.2
        if back.1 = false then some back.2
        else some { back.2 with numOffloadPair := back.2.numOffloadPair + 1 }
    else some s
  | _, _ => some s

/-- The entry of a client that is neither active nor in power save goes with its
last peer. -/
def eraseIdle (key : κ) (client : ClientPtr) (s : LanState κ ι δ) : Option (LanState κ ι δ) := do
  let c ← s.node client
  some (if c.isActive = false ∧ c.isPowersave = false ∧ c.peer = [] then s.erase key else s)

/-- The links that go with the last connection, in `handle_del_lan2lan_connection`. -/
def eraseLastLinks (iptype : IpType) (src dst : ClientPtr) (s : LanState κ ι δ) :
    Option (LanState κ ι δ) := do
  let c ← s.node src
  let p ← s.node dst
  if c.isActive && p.isActive then eraseOffloadLink d iptype src dst s
  else
    (if c.isPowersave && (p.isActive || p.isPowersave)
      then eraseOffloadLink d iptype src dst s else some s).bind fun s =>
    if p.isPowersave && (c.isActive || c.isPowersave)
    then eraseOffloadLink d iptype dst src s else some s

/-- `handle_del_lan2lan_connection`. -/
def delLan2lanConnection (iptype : IpType) (src dst : κ) (s : LanState κ ι δ) :
    Option (LanState κ ι δ) :=
  match s.clientInfo src, s.clientInfo dst with
  | some srcClient, some dstClient => do
    let removed ← removeConnection srcClient dstClient s
    if removed.1 then
      let s ← eraseLastLinks d iptype srcClient dstClient removed.2
      let s ← eraseIdle src srcClient s
      eraseIdle dst dstClient s
    else some removed.2
  | _, _ => some s

/-- The handler of an event. -/
def tableStep (s : LanState κ ι δ) : TableEvent κ ι → Option (LanState κ ι δ)
  | .client .active key data => clientActive d key data s
  | .client .inactive key data => clientInactive d key data s
  | .client .disconnect key data => clientDisconnect d key data s
  | .client .powerSave key data => clientPowerSave d key data s
  | .client .powerRecover key data => clientPowerRecover d key data s
  | .connection .new iptype src dst => newLan2lanConnection d iptype src dst s
  | .connection .del iptype src dst => delLan2lanConnection d iptype src dst s

end

/-- The members of `IPACM_LanToLan`. -/
structure Lan2Lan (ι δ : Type) where
  v4 : ClientTable UInt32 ι
  v6 : ClientTable UInt64 ι
  driver : δ

/-- An event for `event_callback`; the data of a client event may be `NULL`. -/
inductive LanEvent (ι : Type) where
  | client (id : ClientEventId) (data : Option (LanClientEvent ι))
  | connection (id : ConnectionEventId) (data : ConnectionEvent)

/-- The key of an IPv6 client: the last two words of its address, as they lie in
memory. -/
def v6Key (addr : IpAddr) : UInt64 := addr.w2.toUInt64 ||| (addr.w3.toUInt64 <<< 32)

section

variable {κ ι δ : Type}

/-- The checks every client handler starts with. -/
def LanClientEvent.check (data : LanClientEvent ι) : Option (ClientData ι) :=
  match data.pIface with
  | none => none
  | some iface =>
    if data.iptype ≠ .v4 ∧ data.iptype ≠ .v6 then none
    else some ⟨data.iptype, data.ipv4Addr, data.ipv6Addr, data.macAddr, iface⟩

/-- What an event does to the IPv4 table, if it is for that table. -/
def LanEvent.v4Event : LanEvent ι → Option (TableEvent UInt32 ι)
  | .client id data => (data.bind LanClientEvent.check).bind fun data =>
      if data.iptype = .v4 then some (.client id data.ipv4Addr data) else none
  | .connection id data =>
      if data.iptype = .v4
      then some (.connection id data.iptype data.srcIpv4Addr data.dstIpv4Addr) else none

/-- What an event does to the IPv6 table, if it is for that table. -/
def LanEvent.v6Event : LanEvent ι → Option (TableEvent UInt64 ι)
  | .client id data => (data.bind LanClientEvent.check).bind fun data =>
      if data.iptype = .v4 then none else some (.client id (v6Key data.ipv6Addr) data)
  | .connection id data =>
      if data.iptype = .v4 then none
      else some
        (.connection id data.iptype (v6Key data.srcIpv6Addr) (v6Key data.dstIpv6Addr))

def ClientTable.empty : ClientTable κ ι where
  numOffloadPair := 0
  clientInfo := fun _ => none
  node := fun _ => none
  nextNode := 0

def Lan2Lan.init (driver : δ) : Lan2Lan ι δ := ⟨ClientTable.empty, ClientTable.empty, driver⟩

def eventCallback (d : LanDriver ι δ) (s : Lan2Lan ι δ) (e : LanEvent ι) :
    Option (Lan2Lan ι δ) :=
  match e.v4Event, e.v6Event with
  | some event, _ =>
    (tableStep d ⟨s.v4, s.driver⟩ event).map fun t =>
      { s with v4 := t.toClientTable, driver := t.driver }
  | none, some event =>
    (tableStep d ⟨s.v6, s.driver⟩ event).map fun t =>
      { s with v6 := t.toClientTable, driver := t.driver }
  | none, none => some s

theorem eventCallback_cases {d : LanDriver ι δ} {s s' : Lan2Lan ι δ} {e : LanEvent ι}
    (h : eventCallback d s e = some s') :
    (∃ event, e.v4Event = some event ∧ e.v6Event = none ∧ s'.v6 = s.v6 ∧
      tableStep d ⟨s.v4, s.driver⟩ event = some ⟨s'.v4, s'.driver⟩) ∨
    (∃ event, e.v6Event = some event ∧ e.v4Event = none ∧ s'.v4 = s.v4 ∧
      tableStep d ⟨s.v6, s.driver⟩ event = some ⟨s'.v6, s'.driver⟩) ∨
    (e.v4Event = none ∧ e.v6Event = none ∧ s' = s) := by
  have hone : ∀ event, e.v4Event = some event → e.v6Event = none := by
    intro event hevent
    cases e with
    | client id data =>
        simp only [LanEvent.v4Event, Option.bind_eq_some_iff] at hevent
        obtain ⟨data', ⟨raw, rfl, hcheck⟩, hevent⟩ := hevent
        split at hevent
        case isTrue hip =>
          simp only [LanEvent.v6Event]
          rw [Option.bind_eq_none_iff]
          intro data'' hdata''
          rw [Option.bind_some, hcheck] at hdata''
          cases hdata''
          exact if_pos hip
        case isFalse => cases hevent
    | connection id data =>
        simp only [LanEvent.v4Event] at hevent
        split at hevent
        case isTrue hip => exact if_pos hip
        case isFalse => cases hevent
  rw [eventCallback] at h
  split at h
  case h_1 event heq =>
    obtain ⟨t, ht, hs'⟩ := Option.map_eq_some_iff.mp h
    cases hs'
    exact Or.inl ⟨event, heq, hone event heq, rfl, ht⟩
  case h_2 event hnone heq =>
    obtain ⟨t, ht, hs'⟩ := Option.map_eq_some_iff.mp h
    cases hs'
    exact Or.inr (Or.inl ⟨event, heq, hnone, rfl, ht⟩)
  case h_3 hnone hnone' =>
    cases h
    exact Or.inr (Or.inr ⟨hnone, hnone', rfl⟩)

end

end LibraDevice.LanToLan
