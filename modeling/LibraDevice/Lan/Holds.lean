import LibraDevice.Lan.Addresses
import LibraDevice.Lib.Mailbox

/-!
The keys that an interface holds for its clients, and that the messages about a new
address hand over what they should.
-/

namespace LibraDevice.Lan

open Backhaul Mailbox
open LanToLan (IpAddr MacAddr ClientEventId ClientKey LanEvent v6Key)

/-- The keys of a client's addresses, as far as the interface has the family. -/
def ClientAddrs.keys (ipType : IfaceIpType) (c : ClientAddrs) : List ClientKey :=
  (if ipType.supports .v4 then c.v4Addr.toList.map .v4 else []) ++
    (if ipType.supports .v6 then c.v6Addr.map fun addr => .v6 (v6Key addr) else [])

/-- The interface has the address of a key on record. -/
def AddrIface.Holds (s : AddrIface) (k : ClientKey) : Prop :=
  ∃ mac c, s.clientOf mac = some c ∧ k ∈ c.keys s.ipType

def Post.key (p : Post) : ClientKey :=
  match p.iptype with
  | .v4 => .v4 p.ipv4Addr
  | .v6 => .v6 (v6Key p.ipv6Addr)

def NeighData.key (data : NeighData) : ClientKey :=
  match data.iptype with
  | .v4 => .v4 data.ipv4Addr
  | .v6 => .v6 (v6Key data.ipv6Addr)

def NeighData.IsSet (data : NeighData) : Prop :=
  (data.iptype = .v4 → data.ipv4Addr ≠ 0) ∧ (data.iptype = .v6 → data.ipv6Addr ≠ ⟨0, 0, 0, 0⟩)

/-- The client has no other IPv4 address. -/
def ClientAddrs.SameV4 (c : ClientAddrs) (data : NeighData) : Prop :=
  data.iptype = .v4 → c.v4Addr = none ∨ c.v4Addr = some data.ipv4Addr

/-- The client has room for another IPv6 address. -/
def ClientAddrs.RoomV6 (c : ClientAddrs) (data : NeighData) : Prop :=
  data.iptype = .v6 → c.v6Addr.length < ipv6NumAddr ∨ data.ipv6Addr ∈ c.v6Addr

/-- What an event does to the owners of addresses. -/
def Post.note (p : Post) : Note ClientKey Nat :=
  match p.id with
  | .active => .grant p.key p.pIface
  | .disconnect => .release p.key
  | _ => .silent

theorem post_hands {own : ClientKey → Nat → Prop} {p : Post} {k : ClientKey} {i : Nat}
    (h : p.event.hands own k i) : p.note.after own k i := by
  have hkey : LanToLan.LanClientEvent.key ⟨lan2lanIpType p.iptype, p.ipv4Addr, p.ipv6Addr,
      p.macAddr, some p.pIface⟩ = p.key := by
    rw [LanToLan.LanClientEvent.key, Post.key]
    cases p.iptype <;> rfl
  have hcheck : (LanToLan.LanClientEvent.check ⟨lan2lanIpType p.iptype, p.ipv4Addr, p.ipv6Addr,
      p.macAddr, some p.pIface⟩).isSome := by
    rw [LanToLan.LanClientEvent.check]
    cases p.iptype <;> rfl
  rw [Post.event] at h
  rw [Post.note]
  cases hid : p.id with
  | active =>
      rw [hid] at h
      rcases h with hown | ⟨rfl, hiface⟩
      · exact Or.inl hown
      · exact Or.inr ⟨hkey, (Option.some.inj hiface).symm⟩
  | disconnect =>
      rw [hid] at h
      rw [← hkey]
      exact ⟨h.1, h.2 hcheck⟩
  | inactive =>
      rw [hid] at h
      exact h
  | powerSave =>
      rw [hid] at h
      exact h
  | powerRecover =>
      rw [hid] at h
      exact h

def notes (posts : List Post) : List (Note ClientKey Nat) := posts.map Post.note

theorem notes_append (ps qs : List Post) : notes (ps ++ qs) = notes ps ++ notes qs :=
  List.map_append

theorem note_ofV6 (self : Nat) (addr : IpAddr) :
    (Post.ofV6 .disconnect self addr).note = .release (.v6 (v6Key addr)) := rfl

theorem not_isOf_of_id {posts : List Post} (h : ∀ p ∈ posts, p.id ≠ .active) (i : Nat) :
    ∀ n ∈ notes posts, ¬ n.IsOf i := by
  intro n hn
  obtain ⟨p, hp, rfl⟩ := List.mem_map.mp hn
  have hid := h p hp
  rw [Post.note]
  cases hpid : p.id with
  | active => exact absurd hpid hid
  | inactive => exact id
  | disconnect => exact id
  | powerSave => exact id
  | powerRecover => exact id

theorem close_not_mem_notes (posts : List Post) (i : Nat) : .close i ∉ notes posts := by
  intro hn
  obtain ⟨p, -, hp⟩ := List.mem_map.mp hn
  rw [Post.note] at hp
  cases hid : p.id <;> rw [hid] at hp <;> cases hp

theorem posts_id {id : ClientEventId} {self : Nat} {c : ClientAddrs} {iptype : IpType} :
    ∀ p ∈ c.posts id self iptype, p.id = id ∧ p.pIface = self := by
  intro p hp
  cases iptype with
  | v4 =>
      obtain ⟨addr, -, rfl⟩ := List.mem_map.mp hp
      exact ⟨rfl, rfl⟩
  | v6 =>
      obtain ⟨addr, -, rfl⟩ := List.mem_map.mp hp
      exact ⟨rfl, rfl⟩

theorem release_mem_posts (self : Nat) {c : ClientAddrs} {ipType : IfaceIpType} {k : ClientKey}
    (h : k ∈ c.keys ipType) : ∃ iptype, ipType.supports iptype = true ∧
      .release k ∈ notes (c.posts .disconnect self iptype) := by
  rcases List.mem_append.mp h with hv4 | hv6
  · split at hv4
    case isFalse => cases hv4
    case isTrue hup =>
      refine ⟨.v4, hup, ?_⟩
      obtain ⟨addr, haddr, rfl⟩ := List.mem_map.mp hv4
      exact List.mem_map.mpr ⟨_, List.mem_map_of_mem haddr, rfl⟩
  · split at hv6
    case isFalse => cases hv6
    case isTrue hup =>
      refine ⟨.v6, hup, ?_⟩
      obtain ⟨addr, haddr, rfl⟩ := List.mem_map.mp hv6
      exact List.mem_map.mpr ⟨_, List.mem_map_of_mem haddr, rfl⟩

namespace AddrIface

variable {s : AddrIface} {self : Nat} {mac : MacAddr} {id : ClientEventId} {iptype : IpType}
  {k : ClientKey} {c : ClientAddrs}

theorem msgPost_id {posts : List Post}
    (h : s.handleLan2lanMsgPost self mac id iptype = some posts) :
    ∀ p ∈ posts, p.id = id ∧ p.pIface = self := by
  rw [handleLan2lanMsgPost] at h
  split at h
  case h_1 =>
    cases h
    intro p hp
    cases hp
  case h_2 c _ =>
    split at h
    case isTrue =>
      cases h
      intro p hp
      cases hp
    case isFalse =>
      split at h
      case isTrue =>
        cases h
        exact posts_id
      case isFalse => cases h

theorem msgPost_eq (hclient : s.clientOf mac = some c) (hup : s.ipType.supports iptype = true) :
    s.handleLan2lanMsgPost self mac id iptype = some (c.posts id self iptype) := by
  rw [handleLan2lanMsgPost]
  simp only [hclient, hup, if_true]
  split
  case isTrue hnone => rw [hnone]
  case isFalse => rfl

theorem getD_msgPost_id : ∀ p ∈ (s.handleLan2lanMsgPost self mac id iptype).getD [],
    p.id = id ∧ p.pIface = self := by
  cases h : s.handleLan2lanMsgPost self mac id iptype with
  | none =>
      intro p hp
      cases hp
  | some posts => exact msgPost_id h

theorem postBoth_id : ∀ p ∈ s.postBoth self mac id, p.id = id ∧ p.pIface = self := by
  intro p hp
  rcases List.mem_append.mp hp with hp | hp
  · exact getD_msgPost_id p hp
  · exact getD_msgPost_id p hp

theorem release_mem_postBoth (self : Nat) (hclient : s.clientOf mac = some c)
    (hk : k ∈ c.keys s.ipType) :
    .release k ∈ notes (s.postBoth self mac .disconnect) := by
  obtain ⟨iptype, hup, hmem⟩ := release_mem_posts self hk
  rw [postBoth, notes_append, List.mem_append]
  cases iptype with
  | v4 =>
      rw [msgPost_eq hclient hup]
      exact Or.inl hmem
  | v6 =>
      rw [msgPost_eq hclient hup]
      exact Or.inr hmem

theorem holds_of_afterAll {s' : AddrIface} {posts : List Post}
    (hposts : ∀ p ∈ posts, p.id ≠ .active)
    (hkeeps : s.Holds k → .release k ∈ notes posts ∨ s'.Holds k)
    (hk : afterAll (fun k _ => s.Holds k) (notes posts) k self) : s'.Holds k := by
  have hquiet := not_isOf_of_id hposts self
  rcases hkeeps (own_of_afterAll hquiet hk) with hrelease | hholds
  · exact absurd hk (not_afterAll_of_release hrelease hquiet)
  · exact hholds

theorem Holds.of_clients {s' : AddrIface} (h : s.Holds k)
    (hclients : ∀ mac c, s.clientOf mac = some c →
      ∃ c', s'.clientOf mac = some c' ∧ (k ∈ c.keys s.ipType → k ∈ c'.keys s'.ipType)) :
    s'.Holds k := by
  obtain ⟨mac, c, hclient, hk⟩ := h
  obtain ⟨c', hclient', hkeys⟩ := hclients mac c hclient
  exact ⟨mac, c', hclient', hkeys hk⟩

theorem mac_of_clientOf (h : s.clientOf mac = some c) : c.mac = mac := by
  have hmac := List.find?_some h
  exact of_decide_eq_true hmac

theorem mem_of_clientOf (h : s.clientOf mac = some c) : c ∈ s.client :=
  List.mem_of_find?_eq_some h

theorem clientOf_append (rest : List ClientAddrs) (h : s.clientOf mac = some c) :
    { s with client := s.client ++ rest }.clientOf mac = some c := by
  rw [clientOf] at h ⊢
  rw [List.find?_append, h]
  rfl

theorem keys_add (f : IpType) (ipType : IfaceIpType) (h : k ∈ c.keys ipType) :
    k ∈ c.keys (ipType.add f) := by
  have hup : ∀ g, ipType.supports g = true → (ipType.add f).supports g = true := by
    intro g hg
    rw [IfaceIpType.supports_add, hg, Bool.true_or]
  rcases List.mem_append.mp h with hv4 | hv6
  · apply List.mem_append_left
    split at hv4
    case isTrue hv => rwa [if_pos (hup .v4 hv)]
    case isFalse => cases hv4
  · apply List.mem_append_right
    split at hv6
    case isTrue hv => rwa [if_pos (hup .v6 hv)]
    case isFalse => cases hv6

theorem find?_replaceClient_of_ne {c : ClientAddrs} {mac : MacAddr} (hne : c.mac ≠ mac)
    (l : List ClientAddrs) :
    (replaceClient c l).find? (fun c => c.mac = mac) = l.find? fun c => c.mac = mac := by
  induction l with
  | nil => rfl
  | cons c' l ih =>
      rw [replaceClient]
      split
      case isTrue heq =>
        rw [List.find?_cons_of_neg (by simpa using hne),
          List.find?_cons_of_neg (by simpa [heq] using hne)]
      case isFalse =>
        rw [List.find?_cons, List.find?_cons, ih]

theorem find?_replaceClient_self {c c' : ClientAddrs} {l : List ClientAddrs}
    (h : l.find? (fun x => x.mac = c.mac) = some c') :
    (replaceClient c l).find? (fun x => x.mac = c.mac) = some c := by
  induction l with
  | nil => cases h
  | cons x l ih =>
      rw [replaceClient]
      split
      case isTrue => exact List.find?_cons_of_pos (by simp)
      case isFalse hne =>
        rw [List.find?_cons_of_neg (by simpa using hne)] at h ⊢
        exact ih h

theorem clientOf_replaceClient {c' : ClientAddrs} (hclient : s.clientOf mac = some c)
    (hmac : c'.mac = mac) :
    { s with client := replaceClient c' s.client }.clientOf mac = some c' := by
  subst hmac
  exact find?_replaceClient_self hclient

theorem Holds.replaceClient {c' : ClientAddrs} (h : s.Holds k)
    (hclient : s.clientOf mac = some c) (hmac : c'.mac = mac)
    (hkeys : k ∈ c.keys s.ipType → k ∈ c'.keys s.ipType) :
    { s with client := replaceClient c' s.client }.Holds k := by
  apply h.of_clients
  intro mac' x hx
  rcases eq_or_ne mac' mac with rfl | hne
  · refine ⟨c', clientOf_replaceClient hclient hmac, ?_⟩
    rw [hclient] at hx
    cases hx
    exact hkeys
  · refine ⟨x, ?_, id⟩
    rw [clientOf] at hx ⊢
    rw [find?_replaceClient_of_ne (by rw [hmac]; exact hne.symm)]
    exact hx

theorem v4_mem_keys {ipType : IfaceIpType} {addr : UInt32} (hup : ipType.supports .v4 = true)
    (h : c.v4Addr = some addr) : .v4 addr ∈ c.keys ipType := by
  apply List.mem_append_left
  rw [if_pos hup, h]
  exact List.mem_singleton_self _

theorem v6_mem_keys {ipType : IfaceIpType} {addr : IpAddr} (hup : ipType.supports .v6 = true)
    (h : addr ∈ c.v6Addr) : .v6 (v6Key addr) ∈ c.keys ipType := by
  apply List.mem_append_right
  rw [if_pos hup]
  exact List.mem_map_of_mem h

theorem keys_setV4 {ipType : IfaceIpType} {addr : UInt32} {k : ClientKey}
    (hsame : ipType.supports .v4 = true → c.v4Addr = none ∨ c.v4Addr = some addr)
    (hk : k ∈ c.keys ipType) : k ∈ ({ c with v4Addr := some addr } : ClientAddrs).keys ipType := by
  rcases List.mem_append.mp hk with hv4 | hv6
  · apply List.mem_append_left
    split at hv4
    case isFalse => cases hv4
    case isTrue hup =>
      rw [if_pos hup]
      rcases hsame hup with hnone | hone
      · rw [hnone] at hv4
        cases hv4
      · rw [hone] at hv4
        exact hv4
  · exact List.mem_append_right _ hv6

theorem keys_addV6 {ipType : IfaceIpType} {addr : IpAddr} {k : ClientKey}
    (hk : k ∈ c.keys ipType) :
    k ∈ ({ c with v6Addr := c.v6Addr ++ [addr] } : ClientAddrs).keys ipType := by
  rcases List.mem_append.mp hk with hv4 | hv6
  · exact List.mem_append_left _ hv4
  · apply List.mem_append_right
    split at hv6
    case isFalse => cases hv6
    case isTrue hup =>
      rw [if_pos hup, List.map_append]
      exact List.mem_append_left _ hv6

variable {data : NeighData}

theorem Holds.handleClientIpaddr (h : s.Holds k)
    (hsame : ∀ c, s.clientOf data.macAddr = some c → s.ipType.supports .v4 = true →
      data.ipv4Addr ≠ 0 → c.SameV4 data) : (s.handleClientIpaddr data).2.Holds k := by
  rw [AddrIface.handleClientIpaddr]
  split
  case h_1 => exact h
  case h_2 c hclient =>
    have hmac := mac_of_clientOf hclient
    split
    case h_1 hfamily =>
      split
      case isTrue => exact h
      case isFalse hzero =>
        split
        case isTrue => exact h
        case isFalse =>
          refine h.replaceClient hclient hmac fun hk => keys_setV4 ?_ hk
          intro hup
          exact hsame c hclient hup hzero hfamily
    case h_2 hfamily =>
      split
      case isTrue => exact h
      case isFalse =>
        split
        case isTrue => exact h
        case isFalse =>
          split
          case isTrue => exact h
          case isFalse => exact h.replaceClient hclient hmac keys_addV6

theorem holds_new (hclient : s.clientOf data.macAddr = some c)
    (hup : s.ipType.supports data.iptype = true) (hset : data.IsSet) (hroom : c.RoomV6 data) :
    (s.handleClientIpaddr data).2.Holds data.key := by
  have hmac := mac_of_clientOf hclient
  rw [AddrIface.handleClientIpaddr, hclient]
  cases hfamily : data.iptype with
  | v4 =>
      rw [hfamily] at hup
      rw [NeighData.key, hfamily]
      dsimp only
      rw [if_neg (hset.1 hfamily)]
      split
      case isTrue hone => exact ⟨_, c, hclient, v4_mem_keys hup hone⟩
      case isFalse =>
        exact ⟨_, _, clientOf_replaceClient hclient hmac, v4_mem_keys hup rfl⟩
  | v6 =>
      rw [hfamily] at hup
      rw [NeighData.key, hfamily]
      dsimp only
      rw [if_neg (hset.2 hfamily)]
      split
      case isTrue hfull =>
        rcases hroom hfamily with hlt | hmem
        · exact absurd hfull (Nat.not_le.mpr hlt)
        · exact ⟨_, c, hclient, v6_mem_keys hup hmem⟩
      case isFalse =>
        split
        case isTrue hmem => exact ⟨_, c, hclient, v6_mem_keys hup hmem⟩
        case isFalse =>
          refine ⟨_, _, clientOf_replaceClient hclient hmac, v6_mem_keys hup ?_⟩
          exact List.mem_append_right _ (List.mem_singleton_self _)

/-- No IPv6 address of a client is lost with its last words. -/
def LastWordsZero (s : AddrIface) : Prop :=
  s.ipType.supports .v6 = true → ∀ c ∈ s.client, ∀ addr ∈ c.v6Addr, v6Key addr = 0

/-- The clients that have addresses are among the first ones. -/
def AddressesBefore (done : Nat) (s : AddrIface) : Prop :=
  ∀ c ∈ s.client.drop done, c.v4Addr = none ∧ c.v6Addr = []

/-- A LAN client's address goes on record, and no other goes off it. -/
def LanRecords (data : NeighData) (ok : Bool) (s : AddrIface) : Prop :=
  data.IsSet ∧
    (s.clientOf data.macAddr = none → ok = true ∧ s.client.length < ipaMaxNumEthClients) ∧
    ∀ c ∈ s.clientOf data.macAddr, c.SameV4 data ∧ c.RoomV6 data

/-- A WLAN client's address goes on record if it is posted, and no other goes off it. -/
def WlanRecords (data : NeighData) (s : AddrIface) : Prop :=
  ∀ c ∈ s.clientOf data.macAddr, (data.IsSet → c.SameV4 data) ∧ (data.iptype = .v6 → data.IsSet)

theorem mem_handleEthHdrInit {ok : Bool} (h : s.clientOf mac = some c) (mac' : MacAddr) :
    (s.handleEthHdrInit ok mac').clientOf mac = some c := by
  rw [handleEthHdrInit]
  split
  case h_1 => exact h
  case h_2 =>
    split
    case isTrue => exact h
    case isFalse =>
      split
      case isTrue => exact clientOf_append _ h
      case isFalse => exact h

theorem handleEthHdrInit_ipType (ok : Bool) (mac : MacAddr) (s : AddrIface) :
    (s.handleEthHdrInit ok mac).ipType = s.ipType := by
  rw [handleEthHdrInit]
  split
  case h_1 => rfl
  case h_2 =>
    split
    case isTrue => rfl
    case isFalse => split <;> rfl

theorem clientOf_handleEthHdrInit {ok : Bool} (hnone : s.clientOf mac = none)
    (h : (s.handleEthHdrInit ok mac).clientOf mac = some c) : c = ⟨mac, none, []⟩ := by
  rw [handleEthHdrInit, hnone] at h
  dsimp only at h
  split at h
  case isTrue =>
    rw [hnone] at h
    cases h
  case isFalse =>
    split at h
    case isTrue =>
      rw [clientOf, List.find?_append] at h
      rw [clientOf] at hnone
      rw [hnone] at h
      simpa using h.symm
    case isFalse =>
      rw [hnone] at h
      cases h

theorem attached_of_room {ok : Bool} (hnone : s.clientOf mac = none) (hok : ok = true)
    (hroom : s.client.length < ipaMaxNumEthClients) :
    (s.handleEthHdrInit ok mac).clientOf mac = some ⟨mac, none, []⟩ := by
  rw [handleEthHdrInit, hnone]
  dsimp only
  rw [if_neg (Nat.not_le.mpr hroom), if_pos hok, clientOf, List.find?_append]
  rw [clientOf] at hnone
  rw [hnone, List.find?_cons_of_pos (by simp)]
  rfl

theorem after_active {own : ClientKey → Nat → Prop}
    (h : afterAll own (notes (s.handleLan2lanClientActive self data)) k self) :
    own k self ∨ s.ipType.supports data.iptype = true ∧ k = data.key := by
  rw [handleLan2lanClientActive] at h
  split at h
  case isFalse => exact Or.inl h
  case isTrue hup =>
    rcases h with hown | ⟨hkey, -⟩
    · exact Or.inl hown
    · refine Or.inr ⟨hup, ?_⟩
      rw [hkey, Post.key, NeighData.key]

theorem lan_neighAdd_holds {ok : Bool}
    (hfits : s.ipType.supports data.iptype = true → s.LanRecords data ok)
    (hk : afterAll (fun k _ => s.Holds k)
      (notes ((s.handleEthHdrInit ok data.macAddr).handleLan2lanClientActive self data)) k self) :
    ((s.handleEthHdrInit ok data.macAddr).handleClientIpaddr data).2.Holds k := by
  have hipType := handleEthHdrInit_ipType ok data.macAddr s
  have hrecord : ∀ c, (s.handleEthHdrInit ok data.macAddr).clientOf data.macAddr = some c →
      s.ipType.supports data.iptype = true → c.SameV4 data ∧ c.RoomV6 data := by
    intro c hc hup
    obtain ⟨-, -, hrecords⟩ := hfits hup
    cases hclient : s.clientOf data.macAddr with
    | none =>
        rw [clientOf_handleEthHdrInit hclient hc]
        exact ⟨fun _ => Or.inl rfl, fun _ => Or.inl (Nat.zero_lt_succ 2)⟩
    | some c' =>
        rw [mem_handleEthHdrInit hclient] at hc
        cases hc
        exact hrecords c hclient
  rcases after_active hk with hholds | ⟨hup, rfl⟩
  · apply Holds.handleClientIpaddr
    · apply Holds.of_clients hholds
      intro mac c hclient
      refine ⟨c, mem_handleEthHdrInit hclient _, ?_⟩
      rw [hipType]
      exact id
    · intro c hc hup _ hfamily
      rw [hipType, ← hfamily] at hup
      exact (hrecord c hc hup).1 hfamily
  · rw [hipType] at hup
    obtain ⟨hset, hroom, -⟩ := hfits hup
    have hattached : ∃ c,
        (s.handleEthHdrInit ok data.macAddr).clientOf data.macAddr = some c := by
      cases hclient : s.clientOf data.macAddr with
      | none => exact ⟨_, attached_of_room hclient (hroom hclient).1 (hroom hclient).2⟩
      | some c => exact ⟨c, mem_handleEthHdrInit hclient _⟩
    obtain ⟨c, hc⟩ := hattached
    rw [← hipType] at hup
    refine holds_new hc hup hset ?_
    rw [hipType] at hup
    exact (hrecord c hc hup).2

theorem handleClientIpaddr_ipType (data : NeighData) (s : AddrIface) :
    (s.handleClientIpaddr data).2.ipType = s.ipType := by
  rw [AddrIface.handleClientIpaddr]
  split
  case h_1 => rfl
  case h_2 =>
    split
    · split
      · rfl
      · split <;> rfl
    · split
      · rfl
      · split
        · rfl
        · split <;> rfl

theorem handleClientIpaddr_true {s' : AddrIface} (hclient : s.clientOf data.macAddr = some c)
    (h : s.handleClientIpaddr data = (true, s')) :
    (data.iptype = .v4 → data.ipv4Addr ≠ 0) ∧
      (data.iptype = .v6 → data.ipv6Addr ≠ ⟨0, 0, 0, 0⟩ → c.v6Addr.length < ipv6NumAddr) := by
  rw [AddrIface.handleClientIpaddr, hclient] at h
  constructor
  · intro hfamily hzero
    simp only [hfamily] at h
    rw [if_pos hzero] at h
    cases h
  · intro hfamily hset
    simp only [hfamily] at h
    rw [if_neg hset] at h
    split at h
    case isTrue => cases h
    case isFalse hroom => exact Nat.not_le.mp hroom

theorem handleClientIpaddr_false {s' : AddrIface} (h : s.handleClientIpaddr data = (false, s')) :
    s' = s := by
  rw [AddrIface.handleClientIpaddr] at h
  split at h
  case h_1 =>
    cases h
    rfl
  case h_2 =>
    split at h
    · split at h
      · cases h
        rfl
      · split at h
        · cases h
          rfl
        · cases h
    · split at h
      · cases h
      · split at h
        · cases h
          rfl
        · split at h
          · cases h
            rfl
          · cases h

theorem wlan_neighAdd_holds (hfits : s.ipType.supports data.iptype = true → s.WlanRecords data)
    {s' : AddrIface} (hip : s.handleClientIpaddr data = (true, s'))
    (hk : afterAll (fun k _ => s.Holds k) (notes (s'.handleLan2lanClientActive self data)) k
      self) : s'.Holds k := by
  have hs' : (s.handleClientIpaddr data).2 = s' := by rw [hip]
  have hipType : s'.ipType = s.ipType := by
    rw [← hs', handleClientIpaddr_ipType]
  rw [← hs']
  rcases after_active hk with hholds | ⟨hup, rfl⟩
  · apply hholds.handleClientIpaddr
    intro c hc hup hzero hfamily
    rw [← hfamily] at hup
    refine (hfits hup c hc).1 ⟨fun _ => hzero, fun hv6 => ?_⟩ hfamily
    rw [hfamily] at hv6
    cases hv6
  · rw [hipType] at hup
    cases hclient : s.clientOf data.macAddr with
    | none =>
        rw [AddrIface.handleClientIpaddr, hclient] at hip
        cases hip
    | some c =>
        have hrecords := hfits hup c hclient
        have hstored := handleClientIpaddr_true hclient hip
        refine holds_new hclient hup ?_ fun hfamily => Or.inl ?_
        · exact ⟨hstored.1, fun hfamily => (hrecords.2 hfamily).2 hfamily⟩
        · exact hstored.2 hfamily ((hrecords.2 hfamily).2 hfamily)

end AddrIface

end LibraDevice.Lan
