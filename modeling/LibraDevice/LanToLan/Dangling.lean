import LibraDevice.LanToLan.LinkMoves

/-!
No pointer dangles, as long as every client that goes takes along the links to
it. The deletions it depends on may fail in the middle.
-/

namespace LibraDevice.LanToLan

open LibraDevice.StepRun

section

variable {κ ι δ : Type} {d : LanDriver ι δ} {iptype : IpType}

theorem PeerList.eq_nil {l : List PeerInfo} (h : PeerList l) (hzero : ∀ q, countOf q l = 0) :
    l = [] := by
  rw [List.eq_nil_iff_forall_not_mem]
  intro e he
  exact h.countOf_ne_zero_of_mem he (hzero _)

theorem PeerList.eq_singleton {l : List PeerInfo} (h : PeerList l) {q : ClientPtr}
    (hone : countOf q l = 1) (hzero : ∀ y, y ≠ q → countOf y l = 0) : l = [⟨q, 1⟩] := by
  have hall : ∀ e ∈ l, e = ⟨q, 1⟩ := by
    intro e he
    have hcount := h.countOf_eq_of_mem he
    have hq : e.peerPointer = q := by
      by_contra hne
      exact h.countOf_ne_zero_of_mem he (hzero _ hne)
    rw [hq, hone] at hcount
    obtain ⟨peerPointer, numConnection⟩ := e
    subst hq
    subst hcount
    rfl
  match l, h, hone, hall with
  | [], _, hone, _ => cases hone
  | [e], _, _, hall => rw [hall e List.mem_cons_self]
  | e :: f :: l, h, _, hall =>
      have hnodup := h.nodup
      rw [hall e List.mem_cons_self, hall f (by simp)] at hnodup
      simp at hnodup

/-- An idle client goes with its last connection, to the other end. -/
def LeavesWith (s : LanState κ ι δ) (client peer : ClientPtr) : Prop :=
  s.flags client = some (false, false) ∧ s.peers client = [⟨peer, 1⟩]

instance (s : LanState κ ι δ) (client peer : ClientPtr) :
    Decidable (LeavesWith s client peer) :=
  inferInstanceAs (Decidable (_ ∧ _))

variable [DecidableEq κ]

/-- The condition on a state and an event: no client goes without the links to it. -/
def TakesLinksAlong (d : LanDriver ι δ) (s : LanState κ ι δ) : TableEvent κ ι → Prop
  | .client .disconnect key data =>
    ∀ client, s.clientInfo key = some client → LinksAnswered d data.iptype s client
  | .client .inactive key data =>
    ∀ client, s.clientInfo key = some client → s.peers client = [] →
      LinksAnswered d data.iptype s client
  | .connection .del _ src dst =>
    ∀ p q, s.clientInfo src = some p ∧ s.clientInfo dst = some q ∨
        s.clientInfo src = some q ∧ s.clientInfo dst = some p →
      LeavesWith s p q → ∀ x, linksWith p (s.links x) ≠ 0 → x = q ∧ LeavesWith s q p
  | _ => True

omit [DecidableEq κ] in
theorem LinkGraph.valid {s : LanState κ ι δ} (h : LinkGraph s.links) : LinksValid s := by
  intro p q hpq
  constructor
  · rintro rfl
    exact hpq (h.irrefl q)
  · rw [h.symm] at hpq
    obtain ⟨c, hc⟩ := node_of_linksWith_ne_zero hpq
    rw [hc]
    rfl

theorem LinksValid.erase {s : LanState κ ι δ} {key : κ} {client : ClientPtr}
    (hs : LinksValid s) (hkey : s.clientInfo key = some client)
    (hnone : ∀ q, q ≠ client → linksWith client (s.links q) = 0) : LinksValid (s.erase key) := by
  intro p q hq
  obtain ⟨c, hc⟩ := node_of_linksWith_ne_zero hq
  rw [links_of_node hc] at hq
  rw [node_erase hkey] at hc
  split at hc
  case isTrue => cases hc
  case isFalse hp =>
    rw [← links_of_node hc] at hq
    obtain ⟨hne, hsome⟩ := hs p q hq
    refine ⟨hne, ?_⟩
    rw [node_erase hkey, if_neg]
    · exact hsome
    · rintro rfl
      exact hq (hnone p hp)

theorem clientActive_valid {key : κ} {data : ClientData ι} {s s' : LanState κ ι δ}
    (hs : PeerInv s) (hv : LinksValid s) (h : clientActive d key data s = some s') :
    LinksValid s' := by
  rw [clientActive] at h
  split at h
  case h_1 hkey =>
    cases h
    have hfree : s.node s.nextNode = none := by
      rw [← Option.not_isSome_iff_eq_none]
      intro hsome
      exact Nat.lt_irrefl _ (hs.keyed.lt_nextNode _ hsome)
    intro p q hq
    change linksWith q ((s.setNode s.nextNode (newClient data)).links p) ≠ 0 at hq
    change q ≠ p ∧ ((s.setNode s.nextNode (newClient data)).node q).isSome
    rw [links_setNode] at hq
    rcases eq_or_ne p s.nextNode with rfl | hne
    · rw [Function.update_self] at hq
      exact absurd rfl hq
    · rw [Function.update_of_ne hne] at hq
      obtain ⟨hqp, hsome⟩ := hv p q hq
      exact ⟨hqp, isSome_setNode hsome⟩
  case h_2 client hkey =>
    simp only [Option.bind_eq_bind, Option.bind_eq_some_iff] at h
    obtain ⟨c, hc, h⟩ := h
    split at h
    · split at h
      · cases h
        exact hv
      · simp only [Option.bind_eq_some_iff] at h
        obtain ⟨⟨_, t⟩, hturned, ⟨_, u⟩, hcleared, c', hc', h⟩ := h
        cases h
        have hshape := turnoffOffloadLinks_shape d _ hturned
        have hturn := turnoffOffloadLinks_move hturned
        have hti := (PeerShrink.of_shape hs hshape).inv
        have hclear := LinkMove.of_linking (clearPeerList_count hti hcleared).1
          (clearPeerList_linking hcleared).links
        have hset := LinkMove.setNode hc' (x := c'.update data) rfl
        exact (hturn.trans (hclear.trans hset)).valid hv
    · simp only [checkPotentialLink, node_setNode_self, Option.bind_eq_bind,
        Option.bind_some] at h
      have hmove := checkPotentialLoop_move (fun e he => (hs.graph.of_mem hc he).1) h
      have hset := LinkMove.setNode hc (x := c.update data) rfl
      exact (hset.trans hmove).valid hv

theorem clientInactive_valid {key : κ} {data : ClientData ι} {s s' : LanState κ ι δ}
    (hv : LinksValid s)
    (hok : TakesLinksAlong d s (.client .inactive key data))
    (h : clientInactive d key data s = some s') : LinksValid s' := by
  rw [clientInactive] at h
  split at h
  case h_1 =>
    cases h
    exact hv
  case h_2 client hkey =>
    simp only [Option.bind_eq_bind, Option.bind_eq_some_iff] at h
    obtain ⟨⟨_, t⟩, hturned, c, hc, h⟩ := h
    cases h
    have hshape := turnoffOffloadLinks_shape d _ hturned
    have hmove := (turnoffOffloadLinks_move hturned).trans
      (LinkMove.setNode (x := { c with isActive := false }) hc rfl)
    split
    case isTrue hempty =>
      have hkey' : (t.setNode client { c with isActive := false }).clientInfo key =
          some client := by
        rw [clientInfo_setNode, hshape.clientInfo, hkey]
      apply (hmove.valid hv).erase hkey'
      · have hpeers : s.peers client = [] := by
          rw [← hshape.peers_eq, peers_of_node hc, hempty]
        have hclears := turnoffOffloadLinks_clears hv (hok client hkey hpeers) hturned
        intro q hq
        rw [links_setNode, Function.update_of_ne hq, hclears q hq]
    case isFalse => exact hmove.valid hv

theorem clientDisconnect_valid {key : κ} {data : ClientData ι} {s s' : LanState κ ι δ}
    (hs : PeerInv s) (hv : LinksValid s)
    (hok : TakesLinksAlong d s (.client .disconnect key data))
    (h : clientDisconnect d key data s = some s') : LinksValid s' := by
  rw [clientDisconnect] at h
  split at h
  case h_1 =>
    cases h
    exact hv
  case h_2 client hkey =>
    simp only [Option.bind_eq_bind, Option.bind_eq_some_iff] at h
    obtain ⟨⟨_, t⟩, hturned, ⟨_, u⟩, hcleared, h⟩ := h
    cases h
    have hshape := turnoffOffloadLinks_shape d _ hturned
    have hti := (PeerShrink.of_shape hs hshape).inv
    have hkeys := (clearPeerList_count hti hcleared).1
    have hlinks := (clearPeerList_linking hcleared).links
    have hmove := (turnoffOffloadLinks_move hturned).trans (.of_linking hkeys hlinks)
    have hkey' : u.clientInfo key = some client := by
      rw [hkeys.clientInfo, hshape.clientInfo, hkey]
    apply (hmove.valid hv).erase hkey'
    · have hclears := turnoffOffloadLinks_clears hv (hok client hkey) hturned
      intro q hq
      rw [hlinks, hclears q hq]

omit [DecidableEq κ] in
theorem clientPowerSave_valid {key : κ} {data : ClientData ι} {s s' : LanState κ ι δ}
    (hv : LinksValid s) (h : clientPowerSave d key data s = some s') : LinksValid s' := by
  rw [clientPowerSave] at h
  split at h
  case h_1 =>
    cases h
    exact hv
  case h_2 client hkey =>
    simp only [removeFltRules, Option.bind_eq_bind, Option.bind_eq_some_iff] at h
    obtain ⟨⟨_, t⟩, ⟨c, hc, hremoved⟩, h⟩ := h
    have htable := removeFltLoop_table hremoved
    have hsame : t.node = s.node := congrArg ClientTable.node htable
    have hvt : LinksValid t := by
      intro p q hq
      rw [links_congr hsame] at hq
      rw [hsame]
      exact hv p q hq
    split at h
    · cases h
      exact hvt
    · obtain ⟨c', hc', h⟩ := Option.bind_eq_some_iff.mp h
      cases h
      exact (LinkMove.setNode hc' (x := { c' with isActive := false, isPowersave := true })
        rfl).valid hvt

omit [DecidableEq κ] in
theorem clientPowerRecover_valid {key : κ} {data : ClientData ι} {s s' : LanState κ ι δ}
    (hs : PeerInv s) (hv : LinksValid s) (h : clientPowerRecover d key data s = some s') :
    LinksValid s' := by
  rw [clientPowerRecover] at h
  split at h
  case h_1 =>
    cases h
    exact hv
  case h_2 client hkey =>
    simp only [Option.bind_eq_bind, Option.bind_eq_some_iff] at h
    obtain ⟨c, hc, h⟩ := h
    split at h
    · cases h
      exact hv
    · simp only [addFltRules, Option.bind_eq_bind, Option.bind_eq_some_iff] at h
      obtain ⟨⟨_, t⟩, ⟨c₀, hc₀, hadded⟩, h⟩ := h
      have hshape := addFltLoop_shape d _ hadded
      have hti := (PeerShrink.of_shape hs hshape).inv
      have hmove : LinkMove s t := by
        apply LinkMove.of_fewer hshape.isSome
        intro p q
        apply Nat.le_of_eq
        rw [(addFltLoop_targets hadded).2.linksWith]
      split at h
      · cases h
        exact hmove.valid hv
      · obtain ⟨c', hc', h⟩ := Option.bind_eq_some_iff.mp h
        have hset := LinkMove.setNode hc' (x := { c' with isActive := true, isPowersave := false })
          rfl
        simp only [checkPotentialLink, node_setNode_self, Option.bind_eq_bind,
          Option.bind_some] at h
        have hcheck := checkPotentialLoop_move (fun e he => (hti.graph.of_mem hc' he).1) h
        exact (hmove.trans (hset.trans hcheck)).valid hv

omit [DecidableEq κ] in
theorem newLan2lanConnection_valid {src dst : κ} {s s' : LanState κ ι δ} (hne : src ≠ dst)
    (hs : PeerInv s) (hv : LinksValid s)
    (h : newLan2lanConnection d iptype src dst s = some s') : LinksValid s' := by
  rw [newLan2lanConnection] at h
  split at h
  case h_2 =>
    cases h
    exact hv
  case h_1 p q hsrc hdst =>
    have hptr : p ≠ q := fun heq => hne (hs.keyed.injective _ _ _ hsrc (heq ▸ hdst))
    simp only [Option.bind_eq_bind, Option.bind_eq_some_iff] at h
    obtain ⟨⟨res, t⟩, hadded, cp, hp, cq, hq, h⟩ := h
    have hmove := LinkMove.of_linking (addConnection_spec hptr hs hadded).1
      (addConnection_linking hadded).links
    split at h
    · simp only [Option.bind_eq_some_iff] at h
      obtain ⟨⟨_, u⟩, hthere, h⟩ := h
      have hu := hmove.trans (addOffloadLink_move hptr hthere)
      split at h
      · cases h
        exact hu.valid hv
      · obtain ⟨⟨_, v⟩, hback, h⟩ := Option.bind_eq_some_iff.mp h
        have hw := hu.trans (addOffloadLink_move hptr.symm hback)
        split at h
        · cases h
          exact hw.valid hv
        · cases h
          exact hw.valid hv
    · cases h
      exact hmove.valid hv

theorem eraseIdle_node {s s' : LanState κ ι δ} {key : κ} {client : ClientPtr}
    (hkey : s.clientInfo key = some client) (h : eraseIdle key client s = some s')
    (x : ClientPtr) :
    s'.node x = if x = client ∧ s.flags client = some (false, false) ∧ s.peers client = []
      then none else s.node x := by
  simp only [eraseIdle, Option.bind_eq_bind, Option.bind_eq_some_iff] at h
  obtain ⟨c, hc, h⟩ := h
  have hiff : (s.flags client = some (false, false) ∧ s.peers client = []) ↔
      c.isActive = false ∧ c.isPowersave = false ∧ c.peer = [] := by
    rw [LanState.flags, hc, peers_of_node hc, Option.map_some]
    simp only [Option.some.injEq, Prod.mk.injEq, and_assoc]
  cases h
  simp only [hiff]
  split
  case isTrue hidle =>
    rw [node_erase hkey]
    simp only [hidle, and_self, and_true]
  case isFalse hidle => rw [if_neg fun hx => hidle hx.2]

omit [DecidableEq κ] in
theorem removed_peers_nil_iff {p q : ClientPtr} {s t : LanState κ ι δ} {res : Bool}
    (hne : p ≠ q) (hs : PeerInv s) (h : removeConnection p q s = some (res, t))
    (hone : countOf q (s.peers p) = 1) :
    (t.peers p = [] ↔ s.peers p = [⟨q, 1⟩]) ∧ (t.peers q = [] ↔ s.peers q = [⟨p, 1⟩]) := by
  obtain ⟨-, -, hlist, hcount⟩ := removeConnection_spec hne hs h
  have hone' : countOf p (s.peers q) = 1 := by rw [hs.graph.symm, hone]
  have hside : ∀ x y, (x = p ∧ y = q ∨ x = q ∧ y = p) → countOf y (s.peers x) = 1 →
      (t.peers x = [] ↔ s.peers x = [⟨y, 1⟩]) := by
    intro x y hxy hxone
    have hxcount : ∀ z, countOf z (t.peers x) =
        countOf z (s.peers x) - if z = y then 1 else 0 := by
      intro z
      rw [hcount]
      congr 1
      apply if_congr _ rfl rfl
      rcases hxy with ⟨rfl, rfl⟩ | ⟨rfl, rfl⟩
      · simp [hne, hone]
      · simp [hne.symm, hone]
    constructor
    · intro hnil
      refine (hs.graph.list x).eq_singleton hxone ?_
      intro z hz
      have hzero := hxcount z
      rw [hnil, if_neg hz, countOf_nil, Int.sub_zero] at hzero
      exact hzero.symm
    · intro hsingle
      apply (hlist x).eq_nil
      intro z
      rw [hxcount, hsingle, countOf_cons, countOf_nil]
      rcases eq_or_ne z y with rfl | hz
      · simp
      · simp [hz, hz.symm]
  exact ⟨hside p q (Or.inl ⟨rfl, rfl⟩) hone, hside q p (Or.inr ⟨rfl, rfl⟩) hone'⟩

theorem delLan2lanConnection_valid {src dst : κ} {s s' : LanState κ ι δ} (hne : src ≠ dst)
    (hs : PeerInv s) (hv : LinksValid s)
    (hok : TakesLinksAlong d s (.connection .del iptype src dst))
    (h : delLan2lanConnection d iptype src dst s = some s') : LinksValid s' := by
  rw [delLan2lanConnection] at h
  split at h
  case h_2 =>
    cases h
    exact hv
  case h_1 p q hsrc hdst =>
    have hptr : p ≠ q := fun heq => hne (hs.keyed.injective _ _ _ hsrc (heq ▸ hdst))
    simp only [Option.bind_eq_bind, Option.bind_eq_some_iff] at h
    obtain ⟨⟨res, t⟩, hremoved, h⟩ := h
    obtain ⟨hkeys, hres, -, -⟩ := removeConnection_spec hptr hs hremoved
    have hlinking := removeConnection_linking hremoved
    have hmove := LinkMove.of_linking hkeys hlinking.links
    split at h
    case isFalse =>
      cases h
      exact hmove.valid hv
    case isTrue hlast =>
      simp only [Option.bind_eq_some_iff] at h
      obtain ⟨u, hlinks, v, hv', h⟩ := h
      have hshape := eraseLastLinks_shape hlinks
      have hui := (PeerShrink.of_shape (removeConnection_inv hptr hs hremoved) hshape).inv
      have hsrc' : u.clientInfo src = some p := by
        rw [hshape.clientInfo, hkeys.clientInfo, hsrc]
      have hdst' : v.clientInfo dst = some q := by
        rw [(eraseIdle_shrink hui hsrc' hv').2 dst hne.symm, hshape.clientInfo, hkeys.clientInfo,
          hdst]
      have hfirst := eraseIdle_node hsrc' hv'
      have hsecond := eraseIdle_node hdst' h
      obtain ⟨hpnil, hqnil⟩ := removed_peers_nil_iff hptr hs hremoved (hres.mp hlast)
      have huflags : ∀ x, u.flags x = s.flags x := fun x =>
        (hshape.flags_eq x).trans (hlinking.flags x)
      -- which of the two entries go
      have hleaves : (u.flags p = some (false, false) ∧ u.peers p = []) ↔ LeavesWith s p q := by
        rw [LeavesWith, huflags, hshape.peers_eq, hpnil]
      have hleaves' : (v.flags q = some (false, false) ∧ v.peers q = []) ↔ LeavesWith s q p := by
        have hsame : v.node q = u.node q := by
          rw [hfirst, if_neg fun hx => hptr hx.1.symm]
        rw [LeavesWith, ← huflags, ← hqnil, ← hshape.peers_eq, LanState.flags, LanState.peers,
          hsame]
        rfl
      have hnode : ∀ x, s'.node x = if x = q ∧ LeavesWith s q p ∨ x = p ∧ LeavesWith s p q
          then none else u.node x := by
        intro x
        rw [hsecond]
        simp only [hleaves', hfirst, hleaves]
        rcases Classical.em (x = q ∧ LeavesWith s q p) with hx | hx
        · rw [if_pos hx, if_pos (Or.inl hx)]
        · simp only [hx, if_false, false_or]
      have hsome : ∀ x, (u.node x).isSome = (s.node x).isSome := fun x =>
        (hshape.isSome x).trans (hkeys.isSome x)
      have hfewer := eraseLastLinks_fewer hlinks
      intro x y hxy
      obtain ⟨c, hc⟩ := node_of_linksWith_ne_zero hxy
      rw [links_of_node hc] at hxy
      rw [hnode] at hc
      split at hc
      case isTrue => cases hc
      case isFalse hxstays =>
        rw [← links_of_node hc] at hxy
        have hle := hfewer x y
        rw [hlinking.links] at hle
        have hold : linksWith y (s.links x) ≠ 0 := by omega
        obtain ⟨hyx, hysome⟩ := hv x y hold
        refine ⟨hyx, ?_⟩
        rw [hnode, if_neg]
        · rw [hsome]
          exact hysome
        · rintro (⟨rfl, hleave⟩ | ⟨rfl, hleave⟩)
          · obtain ⟨rfl, hother⟩ := hok y p (Or.inr ⟨hsrc, hdst⟩) hleave x hold
            exact hxstays (Or.inr ⟨rfl, hother⟩)
          · obtain ⟨rfl, hother⟩ := hok y q (Or.inl ⟨hsrc, hdst⟩) hleave x hold
            exact hxstays (Or.inl ⟨rfl, hother⟩)

theorem tableStep_valid {e : TableEvent κ ι} {s s' : LanState κ ι δ} (hdistinct : e.Distinct)
    (hs : PeerInv s) (hv : LinksValid s) (hok : TakesLinksAlong d s e)
    (h : tableStep d s e = some s') : LinksValid s' := by
  cases e with
  | client id key data =>
      cases id with
      | active => exact clientActive_valid hs hv h
      | inactive => exact clientInactive_valid hv hok h
      | disconnect => exact clientDisconnect_valid hs hv hok h
      | powerSave => exact clientPowerSave_valid hv h
      | powerRecover => exact clientPowerRecover_valid hs hv h
  | connection id iptype src dst =>
      cases id with
      | new => exact newLan2lanConnection_valid hdistinct hs hv h
      | del => exact delLan2lanConnection_valid hdistinct hs hv hok h

end

/-- Every pointer in a peer list or a link list leads to an entry. -/
structure PointersValid {κ ι : Type} (t : ClientTable κ ι) : Prop where
  peer : ∀ p c e, t.node p = some c → e ∈ c.peer → (t.node e.peerPointer).isSome
  link : ∀ p c l, t.node p = some c → l ∈ c.link → (t.node l.peerPointer).isSome

theorem pointersValid {κ ι δ : Type} {s : LanState κ ι δ} (hs : PeerInv s) (hv : LinksValid s) :
    PointersValid s.toClientTable :=
  ⟨fun _ _ _ hc he => (hs.graph.of_mem hc he).2, fun _ _ _ hc hl => (hv.of_mem hc hl).2⟩

section

variable {ι δ : Type}

/-- A condition on the events of the tables, for the event callback. -/
def OnTables (ok4 : LanState UInt32 ι δ → TableEvent UInt32 ι → Prop)
    (ok6 : LanState UInt64 ι δ → TableEvent UInt64 ι → Prop) (s : Lan2Lan ι δ) (e : LanEvent ι) :
    Prop :=
  (∀ event, e.v4Event = some event → ok4 ⟨s.v4, s.driver⟩ event) ∧
    ∀ event, e.v6Event = some event → ok6 ⟨s.v6, s.driver⟩ event

/-- The IP type of a client event that reaches a table. -/
def TableEvent.Checked {κ : Type} : TableEvent κ ι → Prop
  | .client _ _ data => data.iptype ≠ .max
  | .connection .. => True

theorem checked_of_v4Event {e : LanEvent ι} {event : TableEvent UInt32 ι}
    (h : e.v4Event = some event) : event.Checked := by
  cases e with
  | client id data =>
      simp only [LanEvent.v4Event, Option.bind_eq_some_iff] at h
      obtain ⟨data, -, h⟩ := h
      split at h
      case isTrue htype =>
        cases h
        change data.iptype ≠ .max
        rw [htype]
        decide
      case isFalse => cases h
  | connection id data =>
      simp only [LanEvent.v4Event] at h
      split at h
      · cases h
        trivial
      · cases h

theorem checked_of_v6Event {e : LanEvent ι} {event : TableEvent UInt64 ι}
    (h : e.v6Event = some event) : event.Checked := by
  cases e with
  | client id data =>
      simp only [LanEvent.v6Event, Option.bind_eq_some_iff] at h
      obtain ⟨data', ⟨raw, -, hcheck⟩, h⟩ := h
      rw [LanClientEvent.check] at hcheck
      split at hcheck
      · cases hcheck
      · split at hcheck
        · cases hcheck
        · rename_i htype
          cases hcheck
          split at h
          · cases h
          · cases h
            change raw.iptype ≠ .max
            intro hmax
            rw [hmax] at htype
            exact htype ⟨by decide, by decide⟩
  | connection id data =>
      simp only [LanEvent.v6Event] at h
      split at h
      · cases h
      · cases h
        trivial

variable {d : LanDriver ι δ} {ok4 : LanState UInt32 ι δ → TableEvent UInt32 ι → Prop}
  {ok6 : LanState UInt64 ι δ → TableEvent UInt64 ι → Prop}

variable (I4 : ClientTable UInt32 ι → Prop) (I6 : ClientTable UInt64 ι → Prop) in
/-- What the steps of each table preserve, the event callback does. -/
theorem invariant_of_run
    (h4 : ∀ e (s s' : LanState UInt32 ι δ), e.Distinct → e.Checked → ok4 s e →
      I4 s.toClientTable → tableStep d s e = some s' → I4 s'.toClientTable)
    (h6 : ∀ e (s s' : LanState UInt64 ι δ), e.Distinct → e.Checked → ok6 s e →
      I6 s.toClientTable → tableStep d s e = some s' → I6 s'.toClientTable)
    (h40 : I4 ClientTable.empty) (h60 : I6 ClientTable.empty) {drv : δ} {es : List (LanEvent ι)}
    {s : Lan2Lan ι δ}
    (hrun : Run (Guarded (OnTables ok4 ok6) (LanStep d)) (Lan2Lan.init drv) es s) :
    I4 s.v4 ∧ I6 s.v6 := by
  refine hrun.invariant (I := fun s => I4 s.v4 ∧ I6 s.v6) ⟨h40, h60⟩ ?_
  rintro s e s' ⟨hs4, hs6⟩ ⟨⟨hok4, hok6⟩, hdistinct, h⟩
  rcases eventCallback_cases h with ⟨event, he, -, hsame, ht⟩ | ⟨event, he, -, hsame, ht⟩ |
    ⟨-, -, rfl⟩
  · rw [hsame]
    exact ⟨h4 event _ _ (hdistinct.1 event he) (checked_of_v4Event he) (hok4 event he) hs4 ht, hs6⟩
  · rw [hsame]
    exact ⟨hs4, h6 event _ _ (hdistinct.2 event he) (checked_of_v6Event he) (hok6 event he) hs6 ht⟩
  · exact ⟨hs4, hs6⟩

end

/-- The pointers of a table and the tables of its peers, together. -/
def TableValid {κ ι : Type} (t : ClientTable κ ι) : Prop :=
  PeerInv (⟨t, ()⟩ : LanState κ ι Unit) ∧ LinksValid (⟨t, ()⟩ : LanState κ ι Unit)

section

variable {κ ι δ : Type}

theorem TableValid.at {t : ClientTable κ ι} (h : TableValid t) (drv : δ) :
    PeerInv (⟨t, drv⟩ : LanState κ ι δ) ∧ LinksValid (⟨t, drv⟩ : LanState κ ι δ) :=
  ⟨h.1.of_driver drv, h.2⟩

theorem tableValid_empty : TableValid (ClientTable.empty : ClientTable κ ι) :=
  ⟨peerInv_empty (), fun _ _ h => absurd rfl h⟩

variable [DecidableEq κ] {d : LanDriver ι δ}

theorem tableStep_tableValid {e : TableEvent κ ι} {s s' : LanState κ ι δ}
    (hdistinct : e.Distinct) (hok : TakesLinksAlong d s e) (hs : TableValid s.toClientTable)
    (h : tableStep d s e = some s') : TableValid s'.toClientTable := by
  obtain ⟨hp, hv⟩ := hs.at s.driver
  have hp' := (tableStep_peers hdistinct hp h).inv
  have hv' := tableStep_valid hdistinct hp hv hok h
  exact ⟨hp'.of_driver (), hv'⟩

end

section

variable {ι δ : Type} (d : LanDriver ι δ)

variable {d} in
theorem eventCallback_isSome {s : Lan2Lan ι δ} {e : LanEvent ι} (hdistinct : e.Distinct)
    (h4 : TableValid s.v4) (h6 : TableValid s.v6) : (eventCallback d s e).isSome := by
  obtain ⟨hp4, hv4⟩ := h4.at s.driver
  obtain ⟨hp6, hv6⟩ := h6.at s.driver
  rw [eventCallback]
  split
  case h_1 event heq =>
    rw [Option.isSome_map]
    exact tableStep_isSome (hdistinct.1 event heq) hp4 hv4
  case h_2 event hnone heq =>
    rw [Option.isSome_map]
    exact tableStep_isSome (hdistinct.2 event heq) hp6 hv6
  case h_3 => rfl

/-- As long as the clients that go take the links to them along, no pointer
dangles, and the next event is handled to its end. -/
theorem pointersValid_of_run (drv : δ) (es : List (LanEvent ι)) (s : Lan2Lan ι δ)
    (hrun : Run (Guarded (OnTables (TakesLinksAlong d) (TakesLinksAlong d)) (LanStep d))
      (Lan2Lan.init drv) es s) :
    PointersValid s.v4 ∧ PointersValid s.v6 ∧
      ∀ e : LanEvent ι, e.Distinct → (eventCallback d s e).isSome := by
  obtain ⟨h4, h6⟩ := invariant_of_run TableValid TableValid
    (fun e s s' hdistinct _ hok => tableStep_tableValid hdistinct hok)
    (fun e s s' hdistinct _ hok => tableStep_tableValid hdistinct hok)
    tableValid_empty tableValid_empty hrun
  exact ⟨pointersValid h4.1 h4.2, pointersValid h6.1 h6.2,
    fun e hdistinct => eventCallback_isSome hdistinct h4 h6⟩

end

/-- Two linked clients, one of which leaves. -/
def leavingRun : List (LanEvent Unit) :=
  [clientV4 .active 1, clientV4 .active 2, connectionV4 .new 1 2, clientV4 .disconnect 2]

def linkedTwo : Lan2Lan Unit Nat :=
  (leavingRun.take 3).foldl (afterEvent countingDriver) (Lan2Lan.init 0)

theorem takesLinksAlong_linkedTwo :
    OnTables (TakesLinksAlong countingDriver) (TakesLinksAlong countingDriver) linkedTwo
      (clientV4 .disconnect 2) := by
  constructor
  · intro event hevent
    cases hevent
    intro client hclient c hc
    cases hclient
    cases hc
    refine ⟨[(⟨0, 5, ⟨1, [4]⟩, 3⟩, ⟨1, 2, ⟨1, [1]⟩, 0⟩)], [], rfl, ?_, ?_⟩
    · intro q
      rcases q with _ | _ | q
      · rfl
      · rfl
      · rfl
    · exact ⟨(), rfl, rfl, rfl, trivial⟩
  · intro event hevent
    cases hevent

theorem pointersValid_leavingRun :
    PointersValid (afterEvent countingDriver linkedTwo (clientV4 .disconnect 2)).v4 ∧
      PointersValid (afterEvent countingDriver linkedTwo (clientV4 .disconnect 2)).v6 ∧
        ∀ e : LanEvent Unit, e.Distinct → (eventCallback countingDriver
          (afterEvent countingDriver linkedTwo (clientV4 .disconnect 2)) e).isSome := by
  have hv6 : ∀ (s : Lan2Lan Unit Nat) id addr event,
      (clientV4 id addr).v6Event = some event →
        TakesLinksAlong countingDriver ⟨s.v6, s.driver⟩ event := by
    intro s id addr event hevent
    cases hevent
  apply pointersValid_of_run countingDriver 0 leavingRun
  refine Run.snoc (Run.snoc (Run.snoc (Run.snoc .nil
    ⟨?_, ?_, eventCallback_afterEvent ?_⟩) ⟨?_, ?_, eventCallback_afterEvent ?_⟩)
    ⟨?_, ?_, eventCallback_afterEvent ?_⟩) ⟨?_, ?_, eventCallback_afterEvent ?_⟩
  · exact takesLinksAlong_linkedTwo
  · exact clientV4_distinct .disconnect 2
  · decide
  · refine ⟨?_, hv6 _ _ _⟩
    intro event hevent
    cases hevent
    trivial
  · exact clientV4_distinct .active 1
  · decide
  · refine ⟨?_, hv6 _ _ _⟩
    intro event hevent
    cases hevent
    trivial
  · exact clientV4_distinct .active 2
  · decide
  · constructor
    · intro event hevent
      cases hevent
      trivial
    · intro event hevent
      cases hevent
  · exact connectionV4_distinct .new (by decide)
  · decide

/-- A driver whose fourth addition, the header of the link back, fails. -/
def failingDriver : LanDriver Unit Nat :=
  { countingDriver with
    addLan2lanHdr := fun _ _ _ _ n => if n = 3 then (none, n) else (some n, n + 1) }

/-- The link to the client that leaves was never answered. -/
theorem not_pointersValid_unanswered :
    ¬ ∀ (d : LanDriver Unit Nat) (drv : Nat) (es : List (LanEvent Unit)) (s : Lan2Lan Unit Nat),
      Run (LanStep d) (Lan2Lan.init drv) es s → PointersValid s.v4 ∧ PointersValid s.v6 := by
  intro hall
  have hrun : Run (LanStep failingDriver) (Lan2Lan.init 0) leavingRun
      (leavingRun.foldl (afterEvent failingDriver) (Lan2Lan.init 0)) := by
    refine Run.snoc (Run.snoc (Run.snoc (Run.snoc .nil
      ⟨?_, eventCallback_afterEvent ?_⟩) ⟨?_, eventCallback_afterEvent ?_⟩)
      ⟨?_, eventCallback_afterEvent ?_⟩) ⟨?_, eventCallback_afterEvent ?_⟩
    · exact clientV4_distinct .disconnect 2
    · decide
    · exact clientV4_distinct .active 1
    · decide
    · exact clientV4_distinct .active 2
    · decide
    · exact connectionV4_distinct .new (by decide)
    · decide
  have hlink := (hall failingDriver 0 leavingRun _ hrun).1.link 0 _
    ⟨1, 2, ⟨1, [1]⟩, 0⟩ rfl (List.mem_singleton.mpr rfl)
  cases hlink

end LibraDevice.LanToLan
