import LibraDevice.LanToLan.Dangling

/-!
The interfaces the clients of a table belong to.
-/

namespace LibraDevice.LanToLan

section

variable {κ ι δ : Type}

/-- The table and the interfaces of its entries are the same. -/
structure SameOwners (s s' : LanState κ ι δ) : Prop where
  keys : SameKeys s s'
  iface : s'.iface = s.iface

namespace SameOwners

theorem refl (s : LanState κ ι δ) : SameOwners s s := ⟨.refl s, rfl⟩

theorem trans {s t u : LanState κ ι δ} (h : SameOwners s t) (h' : SameOwners t u) :
    SameOwners s u :=
  ⟨h.keys.trans h'.keys, h'.iface.trans h.iface⟩

theorem of_shape {s s' : LanState κ ι δ} (h : SameShape s s') : SameOwners s s' :=
  ⟨.of_shape h, h.iface_eq⟩

theorem setNode {s : LanState κ ι δ} {p : ClientPtr} {c c' : ClientInfo ι}
    (hc : s.node p = some c) (hiface : c'.pIface = c.pIface) : SameOwners s (s.setNode p c') := by
  refine ⟨.setNode (by rw [hc]; rfl) c', ?_⟩
  funext q
  rcases eq_or_ne q p with rfl | hne
  · rw [LanState.iface, LanState.iface, node_setNode_self, hc, Option.map_some, Option.map_some,
      hiface]
  · rw [LanState.iface, LanState.iface, node_setNode_of_ne s hne]

end SameOwners

theorem clearPeerLoop_owners {client : ClientPtr} {rest : List PeerInfo} {s s' : LanState κ ι δ}
    {res : Bool} (h : clearPeerLoop client rest s = some (res, s')) : SameOwners s s' := by
  induction rest generalizing s with
  | nil =>
      simp only [clearPeerLoop, Option.bind_eq_bind, Option.bind_eq_some_iff] at h
      obtain ⟨c, hc, h⟩ := h
      cases h
      exact .setNode hc rfl
  | cons e rest ih =>
      simp only [clearPeerLoop, Option.bind_eq_bind, Option.bind_eq_some_iff] at h
      obtain ⟨p, hp, h⟩ := h
      split at h
      case h_1 =>
        cases h
        exact .refl _
      case h_2 =>
        split at h
        case isTrue => cases h
        case isFalse =>
          refine .trans (.setNode hp ?_) (ih h)
          rfl

theorem clearPeerList_owners {client : ClientPtr} {s s' : LanState κ ι δ} {res : Bool}
    (h : clearPeerList client s = some (res, s')) : SameOwners s s' := by
  simp only [clearPeerList, Option.bind_eq_bind, Option.bind_eq_some_iff] at h
  obtain ⟨c, hc, h⟩ := h
  exact clearPeerLoop_owners h

theorem addConnection_owners {src dst : ClientPtr} {s s' : LanState κ ι δ} {res : Bool}
    (h : addConnection src dst s = some (res, s')) : SameOwners s s' := by
  simp only [addConnection, Option.bind_eq_bind, Option.bind_eq_some_iff] at h
  obtain ⟨c, hc, p, hp, h⟩ := h
  cases h
  refine .trans (.setNode hc ?_) (.setNode hp ?_)
  · rfl
  · rfl

theorem removeConnection_owners {src dst : ClientPtr} {s s' : LanState κ ι δ} {res : Bool}
    (h : removeConnection src dst s = some (res, s')) : SameOwners s s' := by
  simp only [removeConnection, Option.bind_eq_bind, Option.bind_eq_some_iff] at h
  obtain ⟨c, hc, p, hp, h⟩ := h
  cases h
  refine .trans (.setNode hc ?_) (.setNode hp ?_)
  · rfl
  · rfl

/-- The interface of the client under a key. -/
def LanState.owner (s : LanState κ ι δ) (key : κ) : Option ι :=
  (s.clientInfo key).bind s.iface

theorem SameOwners.owner {s s' : LanState κ ι δ} (h : SameOwners s s') : s'.owner = s.owner := by
  funext key
  rw [LanState.owner, LanState.owner, h.iface, h.keys.clientInfo]

/-- Every client was there before, with the same interface, but as `P` says. -/
structure Hands (P : κ → ι → Prop) (s' : LanState κ ι δ) : Prop where
  keyed : WellKeyed s'
  owner : ∀ k i, s'.owner k = some i → P k i

theorem SameOwners.hands {s s' : LanState κ ι δ} (h : SameOwners s s') (hs : WellKeyed s) :
    Hands (fun k i => s.owner k = some i) s' := by
  refine ⟨h.keys.wellKeyed hs, ?_⟩
  intro k i hk
  rw [h.owner] at hk
  exact hk

theorem Hands.imp {P Q : κ → ι → Prop} {s : LanState κ ι δ} (h : Hands P s)
    (hPQ : ∀ k i, P k i → Q k i) : Hands Q s :=
  ⟨h.keyed, fun k i hk => hPQ k i (h.owner k i hk)⟩

theorem Hands.setNode {P : κ → ι → Prop} {s : LanState κ ι δ} {key : κ} {client : ClientPtr}
    (h : Hands P s) (hkey : s.clientInfo key = some client) (c : ClientInfo ι) :
    Hands (fun k i => P k i ∨ k = key ∧ i = c.pIface) (s.setNode client c) := by
  refine ⟨?_, ?_⟩
  · exact (SameKeys.setNode (h.keyed.node_of_key key client hkey) c).wellKeyed h.keyed
  · intro k i hk
    obtain ⟨p, hp, hiface⟩ := Option.bind_eq_some_iff.mp hk
    rcases eq_or_ne p client with rfl | hne
    · rw [LanState.iface, node_setNode_self] at hiface
      exact Or.inr ⟨h.keyed.injective k key p hp hkey, (Option.some.inj hiface).symm⟩
    · rw [LanState.iface, node_setNode_of_ne s hne] at hiface
      refine Or.inl (h.owner k i ?_)
      rw [LanState.owner, Option.bind_eq_some_iff]
      exact ⟨p, hp, hiface⟩

variable [DecidableEq κ]

theorem owner_erase {s : LanState κ ι δ} {key k : κ} {client : ClientPtr} {i : ι}
    (hkey : s.clientInfo key = some client) (hk : (s.erase key).owner k = some i) :
    s.owner k = some i ∧ k ≠ key := by
  obtain ⟨p, hp, hiface⟩ := Option.bind_eq_some_iff.mp hk
  obtain ⟨hne, hp⟩ := clientInfo_of_erase hkey hp
  rw [LanState.iface, node_erase hkey] at hiface
  split at hiface
  case isTrue => cases hiface
  case isFalse =>
    refine ⟨?_, hne⟩
    rw [LanState.owner, hp]
    exact hiface

theorem Hands.erase {P : κ → ι → Prop} {s : LanState κ ι δ} {key : κ} {client : ClientPtr}
    (h : Hands P s) (hkey : s.clientInfo key = some client) :
    Hands (fun k i => P k i ∧ k ≠ key) (s.erase key) := by
  refine ⟨erase_keyed h.keyed hkey, ?_⟩
  intro k i hk
  obtain ⟨hold, hne⟩ := owner_erase hkey hk
  exact ⟨h.owner k i hold, hne⟩

/-- What may be owned after an event. -/
def TableEvent.hands (own : κ → ι → Prop) : TableEvent κ ι → κ → ι → Prop
  | .client .active key data => fun k i => own k i ∨ k = key ∧ i = data.pIface
  | .client .disconnect key _ => fun k i => own k i ∧ k ≠ key
  | _ => own

variable {d : LanDriver ι δ}

theorem clientActive_hands {key : κ} {data : ClientData ι} {s s' : LanState κ ι δ}
    (hs : WellKeyed s) (h : clientActive d key data s = some s') :
    Hands (fun k i => s.owner k = some i ∨ k = key ∧ i = data.pIface) s' := by
  rw [clientActive] at h
  split at h
  case h_1 hkey =>
    cases h
    refine ⟨insert_keyed data hs hkey, ?_⟩
    intro k i hk
    obtain ⟨p, hp, hiface⟩ := Option.bind_eq_some_iff.mp hk
    change Function.update s.clientInfo key _ k = some p at hp
    rcases eq_or_ne k key with rfl | hne
    · rw [Function.update_self] at hp
      cases hp
      change Option.map _ (Function.update s.node s.nextNode _ s.nextNode) = some i at hiface
      rw [Function.update_self] at hiface
      exact Or.inr ⟨rfl, (Option.some.inj hiface).symm⟩
    · rw [Function.update_of_ne hne] at hp
      have hold : p ≠ s.nextNode := by
        rintro rfl
        have hsome := hs.node_of_key k _ hp
        rw [nextNode_free hs] at hsome
        cases hsome
      change Option.map _ (Function.update s.node s.nextNode _ p) = some i at hiface
      rw [Function.update_of_ne hold] at hiface
      refine Or.inl ?_
      rw [LanState.owner, Option.bind_eq_some_iff]
      exact ⟨p, hp, hiface⟩
  case h_2 client hkey =>
    simp only [Option.bind_eq_bind, Option.bind_eq_some_iff] at h
    obtain ⟨c, hc, h⟩ := h
    split at h
    · split at h
      · cases h
        exact ((SameOwners.refl s).hands hs).imp fun k i hk => Or.inl hk
      · simp only [Option.bind_eq_some_iff] at h
        obtain ⟨⟨_, t⟩, hturned, ⟨_, u⟩, hcleared, c', hc', h⟩ := h
        cases h
        have hsame := (SameOwners.of_shape (turnoffOffloadLinks_shape d _ hturned)).trans
          (clearPeerList_owners hcleared)
        have hkey' : u.clientInfo key = some client := by
          rw [hsame.keys.clientInfo]
          exact hkey
        exact (hsame.hands hs).setNode hkey' (c'.update data)
    · have hset := ((SameOwners.refl s).hands hs).setNode hkey (c.update data)
      have hsame := SameOwners.of_shape (checkPotentialLink_shape d _ h)
      refine ⟨hsame.keys.wellKeyed hset.keyed, ?_⟩
      intro k i hk
      rw [hsame.owner] at hk
      exact hset.owner k i hk

theorem clientInactive_hands {key : κ} {data : ClientData ι} {s s' : LanState κ ι δ}
    (hs : WellKeyed s) (h : clientInactive d key data s = some s') :
    Hands (fun k i => s.owner k = some i) s' := by
  rw [clientInactive] at h
  split at h
  case h_1 =>
    cases h
    exact (SameOwners.refl s).hands hs
  case h_2 client hkey =>
    simp only [Option.bind_eq_bind, Option.bind_eq_some_iff] at h
    obtain ⟨⟨_, t⟩, hturned, c, hc, h⟩ := h
    have hturn := SameOwners.of_shape (turnoffOffloadLinks_shape d _ hturned)
    have hset : SameOwners s (t.setNode client { c with isActive := false }) :=
      hturn.trans (.setNode hc rfl)
    cases h
    split
    case isTrue =>
      have hkey' : (t.setNode client { c with isActive := false }).clientInfo key =
          some client := by
        rw [hset.keys.clientInfo]
        exact hkey
      exact ((hset.hands hs).erase hkey').imp fun k i hk => hk.1
    case isFalse => exact hset.hands hs

theorem clientDisconnect_hands {key : κ} {data : ClientData ι} {s s' : LanState κ ι δ}
    (hs : WellKeyed s) (h : clientDisconnect d key data s = some s') :
    Hands (fun k i => s.owner k = some i ∧ k ≠ key) s' := by
  rw [clientDisconnect] at h
  split at h
  case h_1 hkey =>
    cases h
    refine ⟨hs, ?_⟩
    intro k i hk
    refine ⟨hk, ?_⟩
    rintro rfl
    rw [LanState.owner, hkey] at hk
    cases hk
  case h_2 client hkey =>
    simp only [Option.bind_eq_bind, Option.bind_eq_some_iff] at h
    obtain ⟨⟨_, t⟩, hturned, ⟨_, u⟩, hcleared, h⟩ := h
    cases h
    have hsame := (SameOwners.of_shape (turnoffOffloadLinks_shape d _ hturned)).trans
      (clearPeerList_owners hcleared)
    have hkey' : u.clientInfo key = some client := by
      rw [hsame.keys.clientInfo]
      exact hkey
    exact (hsame.hands hs).erase hkey'

omit [DecidableEq κ] in
theorem clientPowerSave_owners {key : κ} {data : ClientData ι} {s s' : LanState κ ι δ}
    (h : clientPowerSave d key data s = some s') : SameOwners s s' := by
  rw [clientPowerSave] at h
  split at h
  case h_1 =>
    cases h
    exact .refl s
  case h_2 client hkey =>
    simp only [Option.bind_eq_bind, Option.bind_eq_some_iff] at h
    obtain ⟨⟨res, t⟩, hremoved, h⟩ := h
    simp only [removeFltRules, Option.bind_eq_bind, Option.bind_eq_some_iff] at hremoved
    obtain ⟨_, _, hremoved⟩ := hremoved
    have hsame := SameOwners.of_shape (removeFltLoop_shape d _ hremoved)
    split at h
    · cases h
      exact hsame
    · simp only [Option.bind_eq_some_iff] at h
      obtain ⟨c, hc, h⟩ := h
      cases h
      refine hsame.trans (.setNode hc ?_)
      rfl

omit [DecidableEq κ] in
theorem clientPowerRecover_owners {key : κ} {data : ClientData ι} {s s' : LanState κ ι δ}
    (h : clientPowerRecover d key data s = some s') : SameOwners s s' := by
  rw [clientPowerRecover] at h
  split at h
  case h_1 =>
    cases h
    exact .refl s
  case h_2 client hkey =>
    simp only [Option.bind_eq_bind, Option.bind_eq_some_iff] at h
    obtain ⟨c, hc, h⟩ := h
    split at h
    · cases h
      exact .refl s
    · simp only [Option.bind_eq_some_iff] at h
      obtain ⟨⟨res, t⟩, hadded, h⟩ := h
      simp only [addFltRules, Option.bind_eq_bind, Option.bind_eq_some_iff] at hadded
      obtain ⟨_, _, hadded⟩ := hadded
      have hsame := SameOwners.of_shape (addFltLoop_shape d _ hadded)
      split at h
      · cases h
        exact hsame
      · simp only [Option.bind_eq_some_iff] at h
        obtain ⟨c', hc', h⟩ := h
        refine (hsame.trans (.setNode hc' ?_)).trans
          (.of_shape (checkPotentialLink_shape d _ h))
        rfl

omit [DecidableEq κ] in
theorem newLan2lanConnection_owners {iptype : IpType} {src dst : κ} {s s' : LanState κ ι δ}
    (h : newLan2lanConnection d iptype src dst s = some s') : SameOwners s s' := by
  rw [newLan2lanConnection] at h
  split at h
  case h_2 =>
    cases h
    exact .refl s
  case h_1 p q _ _ =>
    simp only [Option.bind_eq_bind, Option.bind_eq_some_iff] at h
    obtain ⟨⟨res, t⟩, hadded, c, hc, c', hc', h⟩ := h
    have hsame := addConnection_owners hadded
    split at h
    · simp only [Option.bind_eq_some_iff] at h
      obtain ⟨⟨_, u⟩, hthere, h⟩ := h
      have hone := hsame.trans (.of_shape (addOffloadLink_shape d _ hthere))
      split at h
      · cases h
        exact hone
      · simp only [Option.bind_eq_some_iff] at h
        obtain ⟨⟨_, v⟩, hback, h⟩ := h
        have htwo := hone.trans (.of_shape (addOffloadLink_shape d _ hback))
        split at h
        · cases h
          exact htwo
        · cases h
          exact htwo.trans ⟨⟨rfl, rfl, fun _ => rfl⟩, rfl⟩
    · cases h
      exact hsame

theorem eraseIdle_hands {P : κ → ι → Prop} {key : κ} {client : ClientPtr}
    {s s' : LanState κ ι δ} (hs : Hands P s) (h : eraseIdle key client s = some s') :
    Hands P s' := by
  simp only [eraseIdle, Option.bind_eq_bind, Option.bind_eq_some_iff] at h
  obtain ⟨c, hc, h⟩ := h
  cases h
  split
  case isTrue =>
    cases hkey : s.clientInfo key with
    | none =>
        rw [LanState.erase, hkey]
        exact hs
    | some client' => exact (hs.erase hkey).imp fun k i hk => hk.1
  case isFalse => exact hs

omit [DecidableEq κ] in
theorem eraseLastLinks_owners {iptype : IpType} {p q : ClientPtr} {s s' : LanState κ ι δ}
    (h : eraseLastLinks d iptype p q s = some s') : SameOwners s s' := by
  simp only [eraseLastLinks, Option.bind_eq_bind, Option.bind_eq_some_iff] at h
  obtain ⟨c, hc, c', hc', h⟩ := h
  split at h
  case isTrue => exact .of_shape (eraseOffloadLink_shape d _ h)
  case isFalse =>
    simp only [Option.bind_eq_some_iff] at h
    obtain ⟨t, hthere, hback⟩ := h
    have hone : SameOwners s t := by
      split at hthere
      case isTrue => exact .of_shape (eraseOffloadLink_shape d _ hthere)
      case isFalse =>
        cases hthere
        exact .refl s
    split at hback
    case isTrue => exact hone.trans (.of_shape (eraseOffloadLink_shape d _ hback))
    case isFalse =>
      cases hback
      exact hone

theorem delLan2lanConnection_hands {iptype : IpType} {src dst : κ} {s s' : LanState κ ι δ}
    (hs : WellKeyed s) (h : delLan2lanConnection d iptype src dst s = some s') :
    Hands (fun k i => s.owner k = some i) s' := by
  rw [delLan2lanConnection] at h
  split at h
  case h_2 =>
    cases h
    exact (SameOwners.refl s).hands hs
  case h_1 p q hsrc hdst =>
    simp only [Option.bind_eq_bind, Option.bind_eq_some_iff] at h
    obtain ⟨⟨res, t⟩, hremoved, h⟩ := h
    have hsame := removeConnection_owners hremoved
    split at h
    · simp only [Option.bind_eq_some_iff] at h
      obtain ⟨u, hlast, v, hone, htwo⟩ := h
      have hboth := hsame.trans (eraseLastLinks_owners hlast)
      exact eraseIdle_hands (eraseIdle_hands (hboth.hands hs) hone) htwo
    · cases h
      exact hsame.hands hs

theorem tableStep_hands {e : TableEvent κ ι} {s s' : LanState κ ι δ} (hs : WellKeyed s)
    (h : tableStep d s e = some s') : Hands (e.hands fun k i => s.owner k = some i) s' := by
  cases e with
  | client id key data =>
      cases id with
      | active => exact clientActive_hands hs h
      | inactive => exact clientInactive_hands hs h
      | disconnect => exact clientDisconnect_hands hs h
      | powerSave => exact (clientPowerSave_owners h).hands hs
      | powerRecover => exact (clientPowerRecover_owners h).hands hs
  | connection id iptype src dst =>
      cases id with
      | new => exact (newLan2lanConnection_owners h).hands hs
      | del => exact delLan2lanConnection_hands hs h

end

/-- The key of a client in one of the two tables. -/
inductive ClientKey where
  | v4 (key : UInt32)
  | v6 (key : UInt64)
deriving DecidableEq, Repr

section

variable {ι δ : Type} {d : LanDriver ι δ}

/-- The interface of the client under a key. -/
def Lan2Lan.owner (s : Lan2Lan ι δ) : ClientKey → Option ι
  | .v4 key => LanState.owner ⟨s.v4, s.driver⟩ key
  | .v6 key => LanState.owner ⟨s.v6, s.driver⟩ key

structure Lan2Lan.Keyed (s : Lan2Lan ι δ) : Prop where
  v4 : ∀ drv : δ, WellKeyed ⟨s.v4, drv⟩
  v6 : ∀ drv : δ, WellKeyed ⟨s.v6, drv⟩

def LanClientEvent.key (data : LanClientEvent ι) : ClientKey :=
  if data.iptype = .v4 then .v4 data.ipv4Addr else .v6 (v6Key data.ipv6Addr)

/-- What may be owned after an event. -/
def LanEvent.hands (own : ClientKey → ι → Prop) : LanEvent ι → ClientKey → ι → Prop
  | .client .active (some data) =>
      fun k i => own k i ∨ k = data.key ∧ data.pIface = some i
  | .client .disconnect (some data) =>
      fun k i => own k i ∧ (data.check.isSome → k ≠ data.key)
  | _ => own

theorem check_eq {raw : LanClientEvent ι} {data : ClientData ι} (h : raw.check = some data) :
    raw.pIface = some data.pIface ∧ raw.iptype = data.iptype ∧ raw.ipv4Addr = data.ipv4Addr ∧
      raw.ipv6Addr = data.ipv6Addr := by
  rw [LanClientEvent.check] at h
  split at h
  case h_1 => cases h
  case h_2 iface hiface =>
    split at h
    case isTrue => cases h
    case isFalse =>
      cases h
      exact ⟨hiface, rfl, rfl, rfl⟩

theorem v4Event_hands {e : LanEvent ι} {event : TableEvent UInt32 ι}
    (h : e.v4Event = some event) (own : ClientKey → ι → Prop) :
    (∀ k i, event.hands (fun k i => own (.v4 k) i) k i → e.hands own (.v4 k) i) ∧
      ∀ k i, own (.v6 k) i → e.hands own (.v6 k) i := by
  cases e with
  | connection id data =>
      simp only [LanEvent.v4Event] at h
      split at h
      case isTrue =>
        cases h
        exact ⟨fun _ _ hk => hk, fun _ _ hk => hk⟩
      case isFalse => cases h
  | client id data =>
      simp only [LanEvent.v4Event, Option.bind_eq_some_iff] at h
      obtain ⟨data', ⟨raw, rfl, hcheck⟩, h⟩ := h
      obtain ⟨hiface, hiptype, haddr, -⟩ := check_eq hcheck
      split at h
      case isFalse => cases h
      case isTrue hv4 =>
        cases h
        have hkey : raw.key = .v4 data'.ipv4Addr := by
          rw [LanClientEvent.key, hiptype, if_pos hv4, haddr]
        cases id with
        | active =>
            constructor
            · rintro k i (hown | ⟨rfl, rfl⟩)
              · exact Or.inl hown
              · exact Or.inr ⟨hkey.symm, hiface⟩
            · intro k i hown
              exact Or.inl hown
        | disconnect =>
            constructor
            · rintro k i ⟨hown, hne⟩
              refine ⟨hown, fun _ => ?_⟩
              rw [hkey]
              exact fun heq => hne (ClientKey.v4.inj heq)
            · intro k i hown
              refine ⟨hown, fun _ => ?_⟩
              rw [hkey]
              intro heq
              cases heq
        | inactive => exact ⟨fun _ _ hk => hk, fun _ _ hk => hk⟩
        | powerSave => exact ⟨fun _ _ hk => hk, fun _ _ hk => hk⟩
        | powerRecover => exact ⟨fun _ _ hk => hk, fun _ _ hk => hk⟩

theorem v6Event_hands {e : LanEvent ι} {event : TableEvent UInt64 ι}
    (h : e.v6Event = some event) (own : ClientKey → ι → Prop) :
    (∀ k i, event.hands (fun k i => own (.v6 k) i) k i → e.hands own (.v6 k) i) ∧
      ∀ k i, own (.v4 k) i → e.hands own (.v4 k) i := by
  cases e with
  | connection id data =>
      simp only [LanEvent.v6Event] at h
      split at h
      case isTrue => cases h
      case isFalse =>
        cases h
        exact ⟨fun _ _ hk => hk, fun _ _ hk => hk⟩
  | client id data =>
      simp only [LanEvent.v6Event, Option.bind_eq_some_iff] at h
      obtain ⟨data', ⟨raw, rfl, hcheck⟩, h⟩ := h
      obtain ⟨hiface, hiptype, -, haddr⟩ := check_eq hcheck
      split at h
      case isTrue => cases h
      case isFalse hv6 =>
        cases h
        have hkey : raw.key = .v6 (v6Key data'.ipv6Addr) := by
          rw [LanClientEvent.key, hiptype, if_neg hv6, haddr]
        cases id with
        | active =>
            constructor
            · rintro k i (hown | ⟨rfl, rfl⟩)
              · exact Or.inl hown
              · exact Or.inr ⟨hkey.symm, hiface⟩
            · intro k i hown
              exact Or.inl hown
        | disconnect =>
            constructor
            · rintro k i ⟨hown, hne⟩
              refine ⟨hown, fun _ => ?_⟩
              rw [hkey]
              exact fun heq => hne (ClientKey.v6.inj heq)
            · intro k i hown
              refine ⟨hown, fun _ => ?_⟩
              rw [hkey]
              intro heq
              cases heq
        | inactive => exact ⟨fun _ _ hk => hk, fun _ _ hk => hk⟩
        | powerSave => exact ⟨fun _ _ hk => hk, fun _ _ hk => hk⟩
        | powerRecover => exact ⟨fun _ _ hk => hk, fun _ _ hk => hk⟩

theorem hands_of_ignored {e : LanEvent ι} {own : ClientKey → ι → Prop} {k : ClientKey} {i : ι}
    (hv4 : e.v4Event = none) (hv6 : e.v6Event = none) (hown : own k i) : e.hands own k i := by
  cases e with
  | connection id data => exact hown
  | client id data =>
      cases data with
      | none => cases id <;> exact hown
      | some raw =>
          cases id with
          | active => exact Or.inl hown
          | disconnect =>
              refine ⟨hown, fun hsome => ?_⟩
              obtain ⟨data, hcheck⟩ := Option.isSome_iff_exists.mp hsome
              simp only [LanEvent.v4Event, LanEvent.v6Event, Option.bind_some, hcheck] at hv4 hv6
              split at hv4
              case isTrue => cases hv4
              case isFalse hne =>
                rw [if_neg hne] at hv6
                cases hv6
          | inactive => exact hown
          | powerSave => exact hown
          | powerRecover => exact hown

theorem WellKeyed.withDriver {κ : Type} {t : ClientTable κ ι} {drv : δ}
    (h : WellKeyed ⟨t, drv⟩) (drv' : δ) : WellKeyed ⟨t, drv'⟩ :=
  ⟨h.key_of_node, h.node_of_key, h.injective, h.lt_nextNode⟩

/-- A client comes to an interface with a message that it is active, and a message that it is
disconnected takes it away. -/
theorem eventCallback_hands {s s' : Lan2Lan ι δ} {e : LanEvent ι} (hs : s.Keyed)
    (h : eventCallback d s e = some s') :
    s'.Keyed ∧ ∀ k i, s'.owner k = some i → e.hands (fun k i => s.owner k = some i) k i := by
  rcases eventCallback_cases h with ⟨event, he, -, hv6, hstep⟩ | ⟨event, he, -, hv4, hstep⟩ |
    ⟨hv4, hv6, rfl⟩
  · have hhands := tableStep_hands (hs.v4 s.driver) hstep
    obtain ⟨hown, hother⟩ := v4Event_hands he fun k i => s.owner k = some i
    refine ⟨⟨hhands.keyed.withDriver, by rw [hv6]; exact hs.v6⟩, ?_⟩
    intro k i hk
    cases k with
    | v4 k => exact hown k i (hhands.owner k i hk)
    | v6 k =>
        apply hother
        rw [Lan2Lan.owner, hv6] at hk
        exact hk
  · have hhands := tableStep_hands (hs.v6 s.driver) hstep
    obtain ⟨hown, hother⟩ := v6Event_hands he fun k i => s.owner k = some i
    refine ⟨⟨by rw [hv4]; exact hs.v4, hhands.keyed.withDriver⟩, ?_⟩
    intro k i hk
    cases k with
    | v6 k => exact hown k i (hhands.owner k i hk)
    | v4 k =>
        apply hother
        rw [Lan2Lan.owner, hv4] at hk
        exact hk
  · exact ⟨hs, fun k i hk => hands_of_ignored hv4 hv6 hk⟩

theorem keyed_init (driver : δ) : (Lan2Lan.init driver : Lan2Lan ι δ).Keyed := by
  constructor
  all_goals
    intro drv
    constructor
    · intro p hp
      cases hp
    · intro k p hk
      cases hk
    · intro k k' p hk
      cases hk
    · intro p hp
      cases hp

theorem owner_init (driver : δ) (k : ClientKey) :
    (Lan2Lan.init driver : Lan2Lan ι δ).owner k = none := by
  cases k <;> rfl

end

end LibraDevice.LanToLan
