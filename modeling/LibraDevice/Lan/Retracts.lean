import LibraDevice.Lan.Holds

/-!
What an interface has told `IPACM_LanToLan` of its clients stays in its records, or is taken
back.
-/

namespace LibraDevice.Lan

open Backhaul Mailbox
open LanToLan (IpAddr MacAddr ClientEventId ClientKey LanEvent v6Key)

namespace AddrIface

variable {s : AddrIface} {self : Nat} {mac : MacAddr} {id : ClientEventId} {iptype : IpType}
  {k : ClientKey} {c : ClientAddrs}

variable {data : NeighData}

theorem find?_set {l : List ClientAddrs} {i : Nat} {c x : ClientAddrs} (c' : ClientAddrs)
    (hc : l[i]? = some c) (hmac : c'.mac = c.mac) (hx : l.find? (fun c => c.mac = mac) = some x) :
    (l.set i c').find? (fun c => c.mac = mac) = some x ∨
      x = c ∧ (l.set i c').find? (fun c => c.mac = mac) = some c' := by
  induction l generalizing i with
  | nil => cases hx
  | cons y l ih =>
      cases i with
      | zero =>
          cases hc
          rw [List.set_cons_zero]
          rcases eq_or_ne c.mac mac with heq | hne
          · rw [List.find?_cons_of_pos (by simpa using heq)] at hx
            cases hx
            refine Or.inr ⟨rfl, ?_⟩
            rw [List.find?_cons_of_pos (by simpa [hmac] using heq)]
          · rw [List.find?_cons_of_neg (by simpa using hne)] at hx
            refine Or.inl ?_
            rw [List.find?_cons_of_neg (by simpa [hmac] using hne)]
            exact hx
      | succ i =>
          rw [List.set_cons_succ]
          rcases eq_or_ne y.mac mac with heq | hne
          · rw [List.find?_cons_of_pos (by simpa using heq)] at hx ⊢
            exact Or.inl hx
          · rw [List.find?_cons_of_neg (by simpa using hne)] at hx ⊢
            exact ih hc hx

theorem resetLoop_id (is : List Nat) : ∀ p ∈ (s.resetLoop self is).1,
    p.id = .disconnect ∧ p.pIface = self := by
  induction is generalizing s with
  | nil =>
      intro p hp
      cases hp
  | cons i is ih =>
      rw [resetLoop]
      split
      case h_1 =>
        intro p hp
        cases hp
      case h_2 c _ =>
        split
        case h_1 =>
          intro p hp
          cases hp
        case h_2 posts hposts =>
          intro p hp
          rcases List.mem_append.mp hp with hp | hp
          · exact msgPost_id hposts p hp
          · exact ih p hp

theorem keys_clearV6 {ipType : IfaceIpType} (hk : k ∈ c.keys ipType) :
    k ∈ ({ c with v6Addr := [] } : ClientAddrs).keys ipType ∨
      ipType.supports .v6 = true ∧ k ∈ c.v6Addr.map fun addr => .v6 (v6Key addr) := by
  rcases List.mem_append.mp hk with hv4 | hv6
  · exact Or.inl (List.mem_append_left _ hv4)
  · split at hv6
    case isFalse => cases hv6
    case isTrue hup => exact Or.inr ⟨hup, hv6⟩

theorem release_mem_v6 (h : k ∈ c.v6Addr.map fun addr => ClientKey.v6 (v6Key addr)) :
    .release k ∈ notes (c.posts .disconnect self .v6) := by
  obtain ⟨addr, haddr, rfl⟩ := List.mem_map.mp h
  exact List.mem_map.mpr ⟨_, List.mem_map_of_mem haddr, rfl⟩

theorem resetLoop_holds (is : List Nat) (h : s.Holds k) :
    .release k ∈ notes (s.resetLoop self is).1 ∨ (s.resetLoop self is).2.Holds k := by
  induction is generalizing s with
  | nil => exact Or.inr h
  | cons i is ih =>
      rw [resetLoop]
      split
      case h_1 => exact Or.inr h
      case h_2 c hc =>
        split
        case h_1 => exact Or.inr h
        case h_2 posts hposts =>
          have hrest :
            ∀ hnext : { s with client := s.client.set i { c with v6Addr := [] } }.Holds k,
              .release k ∈ notes (posts ++ ({ s with
                client := s.client.set i { c with v6Addr := [] } }.resetLoop self is).1) ∨
              ({ s with client := s.client.set i { c with v6Addr := [] } }.resetLoop self
                is).2.Holds k := by
            intro hnext
            rw [notes_append]
            exact (ih hnext).imp_left (List.mem_append_right _)
          obtain ⟨mac, x, hclient, hk⟩ := h
          rcases find?_set { c with v6Addr := [] } hc rfl hclient with hsame | ⟨rfl, hset⟩
          · exact hrest ⟨mac, x, hsame, hk⟩
          · rcases keys_clearV6 hk with hkept | ⟨hup, hlost⟩
            · exact hrest ⟨mac, _, hset, hkept⟩
            · refine Or.inl ?_
              have hmac := mac_of_clientOf hclient
              rw [hmac, msgPost_eq hclient hup] at hposts
              cases hposts
              rw [notes_append]
              exact List.mem_append_left _ (release_mem_v6 hlost)

theorem find?_eraseP_of_ne {mac mac' : MacAddr} (hne : mac' ≠ mac) (l : List ClientAddrs) :
    (l.eraseP fun c => c.mac = mac).find? (fun c => c.mac = mac') =
      l.find? fun c => c.mac = mac' := by
  induction l with
  | nil => rfl
  | cons c l ih =>
      rcases eq_or_ne c.mac mac with heq | hne'
      · rw [List.eraseP_cons_of_pos (by simpa using heq),
          List.find?_cons_of_neg (by simpa [heq] using hne.symm)]
      · rw [List.eraseP_cons_of_neg (by simpa using hne'), List.find?_cons, List.find?_cons, ih]

theorem clientDel_holds (h : s.Holds k) (mac : MacAddr) :
    .release k ∈ notes (s.postBoth self mac .disconnect) ∨
      { s with client := s.client.eraseP fun c => c.mac = mac }.Holds k := by
  obtain ⟨mac', c, hclient, hk⟩ := h
  rcases eq_or_ne mac' mac with rfl | hne
  · exact Or.inl (release_mem_postBoth self hclient hk)
  · refine Or.inr ⟨mac', c, ?_, hk⟩
    rw [clientOf, find?_eraseP_of_ne hne]
    exact hclient

theorem disconnectMsg_id {iptype : IpType} :
    ∀ p ∈ s.postLan2lanClientDisconnectMsg self iptype,
      p.id = .disconnect ∧ p.pIface = self := by
  intro p hp
  obtain ⟨c, -, hp⟩ := List.mem_flatMap.mp hp
  cases iptype with
  | v4 =>
      obtain ⟨addr, -, rfl⟩ := List.mem_map.mp hp
      exact ⟨rfl, rfl⟩
  | v6 =>
      obtain ⟨addr, -, rfl⟩ := List.mem_map.mp hp
      exact ⟨rfl, rfl⟩

theorem v6Key_firstWord (addr : IpAddr) : v6Key (firstWord addr) = 0 := by
  change (0 : UInt32).toUInt64 ||| ((0 : UInt32).toUInt64 <<< 32) = 0
  decide

theorem release_mem_disconnectV6 (hzero : s.LastWordsZero)
    (hup : s.ipType.supports .v6 = true) (hmem : c ∈ s.client)
    (h : k ∈ c.v6Addr.map fun addr => ClientKey.v6 (v6Key addr)) :
    .release k ∈ notes (s.postLan2lanClientDisconnectMsg self .v6) := by
  obtain ⟨addr, haddr, rfl⟩ := List.mem_map.mp h
  rw [hzero hup c hmem addr haddr]
  apply List.mem_map.mpr
  refine ⟨Post.ofV6 .disconnect self (firstWord addr), ?_, ?_⟩
  · exact List.mem_flatMap.mpr ⟨c, hmem, List.mem_map_of_mem haddr⟩
  · rw [note_ofV6, v6Key_firstWord]

theorem release_mem_disconnectV4 (hmem : c ∈ s.client)
    (h : k ∈ c.v4Addr.toList.map ClientKey.v4) :
    .release k ∈ notes (s.postLan2lanClientDisconnectMsg self .v4) := by
  obtain ⟨addr, haddr, rfl⟩ := List.mem_map.mp h
  apply List.mem_map.mpr
  refine ⟨Post.ofV4 .disconnect self addr, ?_, rfl⟩
  exact List.mem_flatMap.mpr ⟨c, hmem, List.mem_map_of_mem haddr⟩

theorem find?_map_clearV6 {l : List ClientAddrs} (h : l.find? (fun c => c.mac = mac) = some c) :
    (l.map fun c => { c with v6Addr := [] }).find? (fun c => c.mac = mac) =
      some { c with v6Addr := [] } := by
  rw [List.find?_map]
  change Option.map _ (l.find? fun c => c.mac = mac) = _
  rw [h]
  rfl

theorem lanResetRt_holds {done : Nat} (hzero : s.client.length ≤ done → s.LastWordsZero)
    (h : s.Holds k) : .release k ∈ notes (s.handleLanClientResetRt self done).1 ∨
      (s.handleLanClientResetRt self done).2.Holds k := by
  rw [handleLanClientResetRt]
  split
  case isTrue => exact Or.inr h
  case isFalse hall =>
    obtain ⟨mac, c, hclient, hk⟩ := h
    rcases keys_clearV6 hk with hkept | ⟨hup, hlost⟩
    · exact Or.inr ⟨mac, _, find?_map_clearV6 hclient, hkept⟩
    · refine Or.inl ?_
      exact release_mem_disconnectV6 (hzero (Nat.not_lt.mp hall)) hup
        (mem_of_clientOf hclient) hlost

theorem lanResetRt_id {done : Nat} : ∀ p ∈ (s.handleLanClientResetRt self done).1,
    p.id = .disconnect ∧ p.pIface = self := by
  rw [handleLanClientResetRt]
  split
  case isTrue =>
    intro p hp
    cases hp
  case isFalse =>
    intro p hp
    change p ∈ s.postLan2lanClientDisconnectMsg self .v6 at hp
    exact disconnectMsg_id p hp

/-- Where `handle_down_evt` takes back every address. -/
def DownFits (done : Nat) (s : AddrIface) : Prop :=
  s.ipType ≠ .null →
    (s.kind = .lan → s.AddressesBefore 0 ∨ s.client.length ≤ done ∧ s.LastWordsZero) ∧
      (s.kind = .wlan → s.AddressesBefore done)

theorem keys_of_none {ipType : IfaceIpType} (hv4 : c.v4Addr = none) (hv6 : c.v6Addr = []) :
    c.keys ipType = [] := by
  rw [ClientAddrs.keys, hv4, hv6]
  simp

theorem not_holds_of_null (hnull : s.ipType = .null) : ¬ s.Holds k := by
  rintro ⟨mac, c, -, hk⟩
  rw [ClientAddrs.keys, hnull] at hk
  cases hk

theorem downEvt_releases {done : Nat} (hfits : s.DownFits done) (h : s.Holds k) :
    .release k ∈ notes (s.handleDownEvt self done).1 := by
  rw [handleDownEvt]
  dsimp only
  split
  case isTrue hnull => exact absurd h (not_holds_of_null hnull)
  case isFalse hnull =>
    have hdown := hfits hnull
    obtain ⟨mac, c, hclient, hk⟩ := h
    have hmem := mem_of_clientOf hclient
    split
    case h_1 hkind =>
      rcases hdown.1 hkind with hnone | ⟨hall, hzero⟩
      · rw [keys_of_none (hnone c hmem).1 (hnone c hmem).2] at hk
        cases hk
      · rw [if_neg (Nat.not_lt.mpr hall), notes_append]
        rcases List.mem_append.mp hk with hv4 | hv6
        · split at hv4
          case isFalse => cases hv4
          case isTrue =>
            exact List.mem_append_left _ (release_mem_disconnectV4 hmem hv4)
        · split at hv6
          case isFalse => cases hv6
          case isTrue hup =>
            exact List.mem_append_right _ (release_mem_disconnectV6 hzero hup hmem hv6)
    case h_2 hkind =>
      have hnone := hdown.2 hkind
      have hbefore : c ∈ s.client.take done := by
        rw [← List.take_append_drop done s.client, List.mem_append] at hmem
        rcases hmem with hbefore | hbehind
        · exact hbefore
        · rw [keys_of_none (hnone c hbehind).1 (hnone c hbehind).2] at hk
          cases hk
      have hmac := mac_of_clientOf hclient
      rw [← hmac] at hclient
      obtain ⟨p, hp, hnote⟩ := List.mem_map.mp (release_mem_postBoth self hclient hk)
      exact List.mem_map.mpr ⟨p, List.mem_flatMap.mpr ⟨c, hbefore, hp⟩, hnote⟩

theorem downEvt_id {done : Nat} : ∀ p ∈ (s.handleDownEvt self done).1,
    p.id = .disconnect ∧ p.pIface = self := by
  rw [handleDownEvt]
  dsimp only
  split
  case isTrue =>
    intro p hp
    cases hp
  case isFalse =>
    split
    case h_1 =>
      split
      case isTrue =>
        intro p hp
        cases hp
      case isFalse =>
        intro p hp
        rcases List.mem_append.mp hp with hp | hp
        · exact disconnectMsg_id p hp
        · exact disconnectMsg_id p hp
    case h_2 =>
      intro p hp
      obtain ⟨c, -, hp⟩ := List.mem_flatMap.mp hp
      exact postBoth_id p hp

/-- The events after which every address that was posted is on record or taken back. -/
def Fits (s : AddrIface) : IfaceEvent → Prop
  | .neighAdd data ok => s.ipType.supports data.iptype = true →
      (s.kind = .lan → s.LanRecords data ok) ∧ (s.kind = .wlan → s.WlanRecords data)
  | .wanDownV6Tether done => s.kind = .lan → s.client.length ≤ done → s.LastWordsZero
  | .linkDown done => s.DownFits done
  | _ => True

instance decidableIsSet (data : NeighData) : Decidable data.IsSet :=
  inferInstanceAs (Decidable ((_ → _) ∧ (_ → _)))

instance decidableSameV4 (c : ClientAddrs) (data : NeighData) : Decidable (c.SameV4 data) :=
  inferInstanceAs (Decidable (_ → _))

instance decidableRoomV6 (c : ClientAddrs) (data : NeighData) : Decidable (c.RoomV6 data) :=
  inferInstanceAs (Decidable (_ → _))

instance decidableLastWordsZero (s : AddrIface) : Decidable s.LastWordsZero :=
  inferInstanceAs (Decidable (_ → ∀ c ∈ s.client, ∀ addr ∈ c.v6Addr, _))

instance decidableAddressesBefore (done : Nat) (s : AddrIface) :
    Decidable (s.AddressesBefore done) :=
  inferInstanceAs (Decidable (∀ c ∈ s.client.drop done, _ ∧ _))

instance decidableLanRecords (data : NeighData) (ok : Bool) (s : AddrIface) :
    Decidable (s.LanRecords data ok) :=
  inferInstanceAs (Decidable (_ ∧ (_ → _) ∧ ∀ c ∈ s.clientOf data.macAddr, _))

instance decidableWlanRecords (data : NeighData) (s : AddrIface) :
    Decidable (s.WlanRecords data) :=
  inferInstanceAs (Decidable (∀ c ∈ s.clientOf data.macAddr, (_ → _) ∧ (_ → _)))

instance decidableDownFits (done : Nat) (s : AddrIface) :
    Decidable (s.DownFits done) :=
  inferInstanceAs (Decidable (_ → (_ → _) ∧ (_ → _)))

instance decidableIfaceFits (s : AddrIface) : (e : IfaceEvent) → Decidable (s.Fits e)
  | .addrAdd _ _ => isTrue trivial
  | .clientAdd _ _ => isTrue trivial
  | .clientDel _ _ => isTrue trivial
  | .powerSave _ => isTrue trivial
  | .recover _ => isTrue trivial
  | .neighAdd _ _ => inferInstanceAs (Decidable (_ → (_ → _) ∧ (_ → _)))
  | .wanDownV6Tether _ => inferInstanceAs (Decidable (_ → _ → _))
  | .linkDown done => inferInstanceAs (Decidable (s.DownFits done))

theorem quiet_postBoth (mac : MacAddr) (hid : id ≠ .active) (s : AddrIface) :
    ∀ n ∈ notes (if s.kind = .wlan then s.postBoth self mac id else []), ¬ n.IsOf self := by
  apply not_isOf_of_id
  intro p hp
  split at hp
  case isTrue =>
    rw [(postBoth_id p hp).1]
    exact hid
  case isFalse => cases hp

theorem eventCallback_holds {e : IfaceEvent} (hfits : s.Fits e) (hup : ∀ done, e ≠ .linkDown done)
    (hk : afterAll (fun k _ => s.Holds k) (notes (s.eventCallback self e).1) k self) :
    (s.eventCallback self e).2.Holds k := by
  cases e with
  | addrAdd iptype ok =>
      cases ok with
      | false => exact hk
      | true =>
          apply Holds.of_clients hk
          intro mac c hclient
          exact ⟨c, hclient, keys_add iptype s.ipType⟩
  | clientAdd mac ok =>
      rw [eventCallback]
      split
      case isFalse => exact hk
      case isTrue =>
        apply Holds.of_clients hk
        intro mac' c hclient
        exact ⟨c, clientOf_append _ hclient, id⟩
  | clientDel mac ok =>
      rw [eventCallback] at hk ⊢
      split at hk
      case isFalse hkind =>
        rw [if_neg hkind]
        exact hk
      case isTrue hkind =>
        rw [if_pos hkind]
        apply holds_of_afterAll ?_ ?_ hk
        · intro p hp
          rw [(postBoth_id p hp).1]
          decide
        · intro hholds
          cases ok with
          | false => exact Or.inr hholds
          | true => exact clientDel_holds hholds mac
  | powerSave mac =>
      exact own_of_afterAll (quiet_postBoth mac (by decide) s) hk
  | recover mac =>
      exact own_of_afterAll (quiet_postBoth mac (by decide) s) hk
  | neighAdd data ok =>
      rw [eventCallback, neighAdd] at hk ⊢
      rw [Fits] at hfits
      cases hkind : s.kind with
      | lan =>
          rw [hkind] at hk
          exact lan_neighAdd_holds (fun hup => (hfits hup).1 hkind) hk
      | wlan =>
          rw [hkind] at hk
          dsimp only at hk ⊢
          split
          case h_1 s' hip =>
            rw [hip] at hk
            rw [handleClientIpaddr_false hip]
            exact hk
          case h_2 s' hip =>
            rw [hip] at hk
            exact wlan_neighAdd_holds (fun hup => (hfits hup).2 hkind) hip hk
  | wanDownV6Tether done =>
      rw [eventCallback] at hk ⊢
      cases hkind : s.kind with
      | lan =>
          rw [hkind] at hk
          apply holds_of_afterAll ?_ ?_ hk
          · intro p hp
            rw [(lanResetRt_id p hp).1]
            decide
          · exact lanResetRt_holds (hfits hkind)
      | wlan =>
          rw [hkind] at hk
          apply holds_of_afterAll ?_ ?_ hk
          · intro p hp
            rw [(resetLoop_id _ p hp).1]
            decide
          · exact resetLoop_holds _
  | linkDown done => exact absurd rfl (hup done)

theorem active_pIface : ∀ p ∈ s.handleLan2lanClientActive self data, p.pIface = self := by
  intro p hp
  rw [handleLan2lanClientActive] at hp
  split at hp
  case isTrue =>
    cases List.mem_singleton.mp hp
    rfl
  case isFalse => cases hp

theorem eventCallback_pIface (e : IfaceEvent) :
    ∀ p ∈ (s.eventCallback self e).1, p.pIface = self := by
  intro p hp
  cases e with
  | addrAdd iptype ok => cases hp
  | clientAdd mac ok => cases hp
  | clientDel mac ok =>
      rw [eventCallback] at hp
      split at hp
      case isTrue => exact (postBoth_id p hp).2
      case isFalse => cases hp
  | powerSave mac =>
      rw [eventCallback] at hp
      dsimp only at hp
      split at hp
      case isTrue => exact (postBoth_id p hp).2
      case isFalse => cases hp
  | recover mac =>
      rw [eventCallback] at hp
      dsimp only at hp
      split at hp
      case isTrue => exact (postBoth_id p hp).2
      case isFalse => cases hp
  | neighAdd data ok =>
      rw [eventCallback, neighAdd] at hp
      split at hp
      case h_1 => exact active_pIface p hp
      case h_2 =>
        split at hp
        case h_1 => cases hp
        case h_2 => exact active_pIface p hp
  | wanDownV6Tether done =>
      rw [eventCallback] at hp
      split at hp
      case h_1 => exact (lanResetRt_id p hp).2
      case h_2 => exact (resetLoop_id _ p hp).2
  | linkDown done => exact (downEvt_id p hp).2

theorem handleClientIpaddr_isActive (data : NeighData) (s : AddrIface) :
    (s.handleClientIpaddr data).2.isActive = s.isActive := by
  rw [AddrIface.handleClientIpaddr]
  split
  case h_1 => rfl
  case h_2 =>
    split
    · split
      · rfl
      · split <;> rfl
    · split
      · rfl
      · split
        · rfl
        · split <;> rfl

theorem handleEthHdrInit_isActive (ok : Bool) (mac : MacAddr) (s : AddrIface) :
    (s.handleEthHdrInit ok mac).isActive = s.isActive := by
  rw [handleEthHdrInit]
  split
  case h_1 => rfl
  case h_2 =>
    split
    case isTrue => rfl
    case isFalse => split <;> rfl

theorem resetLoop_isActive (is : List Nat) (s : AddrIface) :
    (s.resetLoop self is).2.isActive = s.isActive := by
  induction is generalizing s with
  | nil => rfl
  | cons i is ih =>
      rw [resetLoop]
      split
      case h_1 => rfl
      case h_2 =>
        split
        case h_1 => rfl
        case h_2 => exact ih _

theorem eventCallback_isActive (self : Nat) {e : IfaceEvent}
    (hup : ∀ done, e ≠ .linkDown done) (s : AddrIface) :
    (s.eventCallback self e).2.isActive = s.isActive := by
  cases e with
  | addrAdd iptype ok => cases ok <;> rfl
  | clientAdd mac ok =>
      rw [eventCallback]
      dsimp only
      split <;> rfl
  | clientDel mac ok =>
      rw [eventCallback]
      split
      case isTrue => cases ok <;> rfl
      case isFalse => rfl
  | powerSave mac => rfl
  | recover mac => rfl
  | neighAdd data ok =>
      rw [eventCallback, neighAdd]
      split
      case h_1 => rw [handleClientIpaddr_isActive, handleEthHdrInit_isActive]
      case h_2 =>
        have hip := handleClientIpaddr_isActive data s
        split
        case h_1 s' heq =>
          rw [heq] at hip
          exact hip
        case h_2 s' heq =>
          rw [heq] at hip
          exact hip
  | wanDownV6Tether done =>
      rw [eventCallback]
      split
      case h_1 =>
        rw [handleLanClientResetRt]
        split <;> rfl
      case h_2 => exact resetLoop_isActive _ s
  | linkDown done => exact absurd rfl (hup done)

end AddrIface

end LibraDevice.Lan
