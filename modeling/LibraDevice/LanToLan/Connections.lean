import LibraDevice.LanToLan.Peers
import LibraDevice.Lib.StepRun

/-!
The counts of the peer lists over whole runs: what two clients count for each
other is the number of connections opened and not closed since their entries
were made.
-/

namespace LibraDevice.LanToLan

open StepRun

section

variable {κ ι δ : Type}

theorem addConnection_spec {p q : ClientPtr} (hne : p ≠ q) {s s' : LanState κ ι δ} {res : Bool}
    (hs : PeerInv s) (h : addConnection p q s = some (res, s')) :
    SameKeys s s' ∧ (res = true ↔ countOf q (s.peers p) = 0) ∧ (∀ x, PeerList (s'.peers x)) ∧
      ∀ x y, countOf y (s'.peers x) =
        countOf y (s.peers x) + if x = p ∧ y = q ∨ x = q ∧ y = p then 1 else 0 := by
  simp only [addConnection, Option.bind_eq_bind, Option.bind_eq_some_iff] at h
  obtain ⟨c, hc, b, hb, h⟩ := h
  rw [node_setNode_of_ne s hne.symm] at hb
  cases h
  have hpeers : ∀ x, ((s.setNode p { c with peer := (countUp q c.peer).1 }).setNode q
      { b with peer := (countUp p b.peer).1 }).peers x =
        if x = q then (countUp p (s.peers q)).1
        else if x = p then (countUp q (s.peers p)).1 else s.peers x := by
    intro x
    rw [peers_setNode, peers_setNode, peers_of_node hc, peers_of_node hb]
    simp only [Function.update_apply]
  refine ⟨?_, ?_, ?_, ?_⟩
  · apply SameKeys.trans (.setNode (by rw [hc]; rfl) _)
    exact .setNode (by rw [node_setNode_of_ne s hne.symm, hb]; rfl) _
  · rw [Bool.or_eq_true, ← peers_of_node hc, ← peers_of_node hb,
      (hs.graph.list p).countUp_inserts_iff, (hs.graph.list q).countUp_inserts_iff,
      hs.graph.symm q p, or_self]
  · intro x
    rw [hpeers]
    split
    · exact (hs.graph.list q).countUp p
    · split
      · exact (hs.graph.list p).countUp q
      · exact hs.graph.list x
  · intro x y
    rw [hpeers]
    split
    case isTrue hx =>
      subst hx
      rw [countOf_countUp]
      simp only [hne.symm, false_and, true_and, false_or]
    case isFalse hx =>
      split
      case isTrue hxp =>
        subst hxp
        rw [countOf_countUp]
        simp only [hx, false_and, true_and, or_false]
      case isFalse hxp => simp only [hx, hxp, false_and, or_false, if_false, Int.add_zero]

theorem removeConnection_spec {p q : ClientPtr} (hne : p ≠ q) {s s' : LanState κ ι δ} {res : Bool}
    (hs : PeerInv s) (h : removeConnection p q s = some (res, s')) :
    SameKeys s s' ∧ (res = true ↔ countOf q (s.peers p) = 1) ∧ (∀ x, PeerList (s'.peers x)) ∧
      ∀ x y, countOf y (s'.peers x) = countOf y (s.peers x) -
        if (x = p ∧ y = q ∨ x = q ∧ y = p) ∧ countOf q (s.peers p) ≠ 0 then 1 else 0 := by
  simp only [removeConnection, Option.bind_eq_bind, Option.bind_eq_some_iff] at h
  obtain ⟨c, hc, b, hb, h⟩ := h
  rw [node_setNode_of_ne s hne.symm] at hb
  cases h
  have hpeers : ∀ x, ((s.setNode p { c with peer := (countDown q c.peer).1 }).setNode q
      { b with peer := (countDown p b.peer).1 }).peers x =
        if x = q then (countDown p (s.peers q)).1
        else if x = p then (countDown q (s.peers p)).1 else s.peers x := by
    intro x
    rw [peers_setNode, peers_setNode, peers_of_node hc, peers_of_node hb]
    simp only [Function.update_apply]
  refine ⟨?_, ?_, ?_, ?_⟩
  · apply SameKeys.trans (.setNode (by rw [hc]; rfl) _)
    exact .setNode (by rw [node_setNode_of_ne s hne.symm, hb]; rfl) _
  · rw [← peers_of_node hb, (hs.graph.list q).countDown_removes_iff, hs.graph.symm q p]
  · intro x
    rw [hpeers]
    split
    · exact (hs.graph.list q).countDown p
    · split
      · exact (hs.graph.list p).countDown q
      · exact hs.graph.list x
  · intro x y
    rw [hpeers]
    split
    case isTrue hx =>
      subst hx
      rw [(hs.graph.list x).countOf_countDown, hs.graph.symm x p]
      simp only [hne.symm, false_and, true_and, false_or]
    case isFalse hx =>
      split
      case isTrue hxp =>
        subst hxp
        rw [(hs.graph.list x).countOf_countDown]
        simp only [hx, false_and, true_and, or_false]
      case isFalse hxp => simp only [hx, hxp, false_and, or_false, if_false, Int.sub_zero]

theorem PeerInv.of_count {s s' : LanState κ ι δ} (hs : PeerInv s) (hkeys : SameKeys s s')
    (hlist : ∀ x, PeerList (s'.peers x)) {f : ClientPtr → ClientPtr → Int}
    (hcount : ∀ x y, countOf y (s'.peers x) = countOf y (s.peers x) + f x y)
    (hsymm : ∀ x y, f x y = f y x) (hirrefl : ∀ x, f x x = 0) : PeerInv s' := by
  refine ⟨hkeys.wellKeyed hs.keyed, hlist, ?_, ?_⟩
  · intro x y
    rw [hcount, hcount, hs.graph.symm x y, hsymm x y]
  · intro x
    rw [hcount, hs.graph.irrefl x, hirrefl x]
    rfl

theorem addConnection_inv {p q : ClientPtr} (hne : p ≠ q) {s s' : LanState κ ι δ} {res : Bool}
    (hs : PeerInv s) (h : addConnection p q s = some (res, s')) : PeerInv s' := by
  obtain ⟨hkeys, -, hlist, hcount⟩ := addConnection_spec hne hs h
  apply hs.of_count hkeys hlist hcount
  · intro x y
    simp only [or_comm, and_comm]
  · intro x
    apply if_neg
    rintro (⟨rfl, heq⟩ | ⟨rfl, heq⟩)
    · exact hne heq
    · exact hne heq.symm

theorem removeConnection_inv {p q : ClientPtr} (hne : p ≠ q) {s s' : LanState κ ι δ}
    {res : Bool} (hs : PeerInv s) (h : removeConnection p q s = some (res, s')) :
    PeerInv s' := by
  obtain ⟨hkeys, -, hlist, hcount⟩ := removeConnection_spec hne hs h
  apply hs.of_count hkeys hlist (fun x y => (hcount x y).trans (Int.sub_eq_add_neg ..))
  · intro x y
    simp only [or_comm, and_comm]
  · intro x
    rw [if_neg]
    · rfl
    · rintro ⟨⟨rfl, heq⟩ | ⟨rfl, heq⟩, -⟩
      · exact hne heq
      · exact hne heq.symm

end

section

variable {κ ι δ : Type} [DecidableEq κ]

theorem erase_eq {s : LanState κ ι δ} {key : κ} {client : ClientPtr}
    (h : s.clientInfo key = some client) :
    s.erase key =
      { s with
        clientInfo := Function.update s.clientInfo key none
        node := Function.update s.node client none } := by
  rw [LanState.erase, h]

theorem node_erase {s : LanState κ ι δ} {key : κ} {client : ClientPtr}
    (h : s.clientInfo key = some client) (p : ClientPtr) :
    (s.erase key).node p = if p = client then none else s.node p := by
  rw [erase_eq h]
  exact Function.update_apply _ _ _ _

theorem peers_erase {s : LanState κ ι δ} {key : κ} {client : ClientPtr}
    (h : s.clientInfo key = some client) (hpeers : s.peers client = []) :
    (s.erase key).peers = s.peers := by
  funext p
  rw [LanState.peers, node_erase h]
  split
  case isTrue heq =>
    rw [heq, hpeers]
    rfl
  case isFalse => rfl

theorem clientInfo_of_erase {s : LanState κ ι δ} {key k : κ} {client p : ClientPtr}
    (h : s.clientInfo key = some client) (hk : (s.erase key).clientInfo k = some p) :
    k ≠ key ∧ s.clientInfo k = some p := by
  rw [erase_eq h] at hk
  change Function.update s.clientInfo key none k = some p at hk
  rcases eq_or_ne k key with rfl | hne
  · rw [Function.update_self] at hk
    cases hk
  · rw [Function.update_of_ne hne] at hk
    exact ⟨hne, hk⟩

theorem erase_keyed {s : LanState κ ι δ} {key : κ} {client : ClientPtr} (hs : WellKeyed s)
    (h : s.clientInfo key = some client) : WellKeyed (s.erase key) := by
  have hnode : ∀ p, ((s.erase key).node p).isSome ↔ p ≠ client ∧ (s.node p).isSome := by
    intro p
    rw [node_erase h]
    split
    case isTrue heq => simp [heq]
    case isFalse hne => simp [hne]
  constructor
  · intro p hp
    obtain ⟨hne, hp⟩ := (hnode p).mp hp
    obtain ⟨k, hk⟩ := hs.key_of_node p hp
    refine ⟨k, ?_⟩
    rw [erase_eq h]
    change Function.update s.clientInfo key none k = some p
    rw [Function.update_of_ne, hk]
    rintro rfl
    rw [h] at hk
    exact hne (Option.some.inj hk).symm
  · intro k p hk
    obtain ⟨hne, hk⟩ := clientInfo_of_erase h hk
    refine (hnode p).mpr ⟨?_, hs.node_of_key k p hk⟩
    rintro rfl
    exact hne (hs.injective k key p hk h)
  · intro k k' p hk hk'
    exact hs.injective k k' p (clientInfo_of_erase h hk).2 (clientInfo_of_erase h hk').2
  · intro p hp
    rw [erase_eq h]
    exact hs.lt_nextNode p ((hnode p).mp hp).2

theorem erase_shrink {s : LanState κ ι δ} {key : κ} {client : ClientPtr} (hs : PeerInv s)
    (h : s.clientInfo key = some client) (hpeers : s.peers client = []) :
    PeerShrink s (s.erase key) := by
  have hsame := peers_erase h hpeers
  refine ⟨⟨erase_keyed hs.keyed h, hsame ▸ hs.graph⟩, ?_, ?_⟩
  · intro k p hk
    exact (clientInfo_of_erase h hk).2
  · intro p q
    rw [hsame]
    exact Or.inr rfl

theorem clientInfo_erase_of_ne {s : LanState κ ι δ} {key k : κ} (h : k ≠ key) :
    (s.erase key).clientInfo k = s.clientInfo k := by
  rw [LanState.erase]
  split
  · rfl
  · exact Function.update_of_ne h _ _

theorem eraseIdle_shrink {s s' : LanState κ ι δ} {key : κ} {client : ClientPtr} (hs : PeerInv s)
    (hkey : s.clientInfo key = some client) (h : eraseIdle key client s = some s') :
    PeerShrink s s' ∧ ∀ k, k ≠ key → s'.clientInfo k = s.clientInfo k := by
  simp only [eraseIdle, Option.bind_eq_bind, Option.bind_eq_some_iff] at h
  obtain ⟨c, hc, h⟩ := h
  cases h
  split
  case isTrue hidle =>
    refine ⟨erase_shrink hs hkey ?_, fun k hk => clientInfo_erase_of_ne hk⟩
    rw [peers_of_node hc]
    exact hidle.2.2
  case isFalse => exact ⟨.refl hs, fun _ _ => rfl⟩

/-- The endpoints of a connection event are two clients. -/
def TableEvent.Distinct : TableEvent κ ι → Prop
  | .client .. => True
  | .connection _ _ src dst => src ≠ dst

/-- The event is about a connection between the clients of the two keys. -/
def TableEvent.between (id : ConnectionEventId) (a b : κ) : TableEvent κ ι → Bool
  | .client .. => false
  | .connection id' _ src dst => id' = id ∧ (src = a ∧ dst = b ∨ src = b ∧ dst = a)

/-- What a step does to the peers: a connection event changes the counts of its
two ends by one, and clients may lose their peers or come without any. -/
structure PeerStep (s : LanState κ ι δ) (e : TableEvent κ ι) (s' : LanState κ ι δ) : Prop where
  inv : PeerInv s'
  key : ∀ k p, s'.clientInfo k = some p → s.clientInfo k = some p ∨ s'.peers p = []
  count : ∀ a b p q, s.clientInfo a = some p → s.clientInfo b = some q →
    countOf q (s'.peers p) = 0 ∨
      countOf q (s'.peers p) = countOf q (s.peers p)
        + (if e.between .new a b then 1 else 0)
        - (if e.between .del a b ∧ countOf q (s.peers p) ≠ 0 then 1 else 0)

theorem PeerShrink.step {s s' : LanState κ ι δ} (h : PeerShrink s s') (id : ClientEventId)
    (key : κ) (data : ClientData ι) : PeerStep s (.client id key data) s' := by
  refine ⟨h.inv, fun k p hk => Or.inl (h.key k p hk), ?_⟩
  intro a b p q _ _
  simpa [TableEvent.between] using h.count p q

variable {d : LanDriver ι δ}

omit [DecidableEq κ] in
theorem nextNode_free {s : LanState κ ι δ} (hs : WellKeyed s) : s.node s.nextNode = none := by
  rw [← Option.not_isSome_iff_eq_none]
  intro hsome
  exact Nat.lt_irrefl _ (hs.lt_nextNode _ hsome)

theorem insert_keyed {s : LanState κ ι δ} {key : κ} (data : ClientData ι) (hs : WellKeyed s)
    (hkey : s.clientInfo key = none) :
    WellKeyed { s with
      clientInfo := Function.update s.clientInfo key (some s.nextNode)
      node := Function.update s.node s.nextNode (some (newClient data))
      nextNode := s.nextNode + 1 } := by
  have hfree := nextNode_free hs
  constructor
  · intro p hp
    change (Function.update s.node s.nextNode _ p).isSome at hp
    change ∃ k, Function.update s.clientInfo key _ k = some p
    rcases eq_or_ne p s.nextNode with rfl | hne
    · exact ⟨key, Function.update_self _ _ _⟩
    · rw [Function.update_of_ne hne] at hp
      obtain ⟨k, hk⟩ := hs.key_of_node p hp
      refine ⟨k, ?_⟩
      rw [Function.update_of_ne, hk]
      rintro rfl
      rw [hkey] at hk
      cases hk
  · intro k p hk
    change Function.update s.clientInfo key _ k = some p at hk
    change (Function.update s.node s.nextNode _ p).isSome
    rcases eq_or_ne p s.nextNode with rfl | hne
    · rw [Function.update_self]
      rfl
    · rw [Function.update_of_ne hne]
      rcases eq_or_ne k key with rfl | hkne
      · rw [Function.update_self] at hk
        exact absurd (Option.some.inj hk).symm hne
      · rw [Function.update_of_ne hkne] at hk
        exact hs.node_of_key k p hk
  · have hold : ∀ k, k ≠ key → s.clientInfo k ≠ some s.nextNode := by
      intro k _ hk
      have hsome := hs.node_of_key k _ hk
      rw [hfree] at hsome
      cases hsome
    intro k k' p hk hk'
    change Function.update s.clientInfo key _ k = some p at hk
    change Function.update s.clientInfo key _ k' = some p at hk'
    rcases eq_or_ne k key with rfl | hkne
    · rw [Function.update_self] at hk
      rcases eq_or_ne k' k with rfl | hkne'
      · rfl
      · rw [Function.update_of_ne hkne', ← hk] at hk'
        exact absurd hk' (hold k' hkne')
    · rw [Function.update_of_ne hkne] at hk
      rcases eq_or_ne k' key with rfl | hkne'
      · rw [Function.update_self] at hk'
        rw [← hk'] at hk
        exact absurd hk (hold k hkne)
      · rw [Function.update_of_ne hkne'] at hk'
        exact hs.injective k k' p hk hk'
  · intro p hp
    change (Function.update s.node s.nextNode _ p).isSome at hp
    change p < s.nextNode + 1
    rcases eq_or_ne p s.nextNode with rfl | hne
    · exact Nat.lt_succ_self _
    · rw [Function.update_of_ne hne] at hp
      exact Nat.lt_succ_of_lt (hs.lt_nextNode p hp)

theorem newClient_step {s : LanState κ ι δ} {key : κ} (data : ClientData ι) (hs : PeerInv s)
    (hkey : s.clientInfo key = none) (id : ClientEventId) :
    PeerStep s (.client id key data)
      { s with
        clientInfo := Function.update s.clientInfo key (some s.nextNode)
        node := Function.update s.node s.nextNode (some (newClient data))
        nextNode := s.nextNode + 1 } := by
  have hfree := nextNode_free hs.keyed
  have hpeers : (LanState.peers { s with
      clientInfo := Function.update s.clientInfo key (some s.nextNode)
      node := Function.update s.node s.nextNode (some (newClient data))
      nextNode := s.nextNode + 1 }) = s.peers := by
    change (s.setNode s.nextNode (newClient data)).peers = s.peers
    rw [peers_setNode]
    conv_rhs => rw [← Function.update_eq_self s.nextNode s.peers]
    rw [peers_of_none hfree]
    rfl
  refine ⟨⟨insert_keyed data hs.keyed hkey, hpeers ▸ hs.graph⟩, ?_, ?_⟩
  · intro k p hk
    change Function.update s.clientInfo key _ k = some p at hk
    rcases eq_or_ne k key with rfl | hne
    · rw [Function.update_self] at hk
      cases hk
      rw [hpeers]
      exact Or.inr (peers_of_none hfree)
    · rw [Function.update_of_ne hne] at hk
      exact Or.inl hk
  · intro a b p q _ _
    rw [hpeers]
    simp [TableEvent.between]

theorem clientActive_step {key : κ} {data : ClientData ι} {s s' : LanState κ ι δ}
    (hs : PeerInv s) (h : clientActive d key data s = some s') :
    PeerStep s (.client .active key data) s' := by
  rw [clientActive] at h
  split at h
  case h_1 hkey =>
    cases h
    exact newClient_step data hs hkey .active
  case h_2 client hkey =>
    apply PeerShrink.step
    simp only [Option.bind_eq_bind, Option.bind_eq_some_iff] at h
    obtain ⟨c, hc, h⟩ := h
    split at h
    · split at h
      · cases h
        exact .refl hs
      · simp only [Option.bind_eq_some_iff] at h
        obtain ⟨⟨_, t⟩, hturned, ⟨_, u⟩, hcleared, c', hc', h⟩ := h
        cases h
        have hturn := PeerShrink.of_shape hs (turnoffOffloadLinks_shape d _ hturned)
        have hclear := (clearPeerList_shrink hturn.inv hcleared).1
        exact hturn.trans (hclear.trans (.setNode hclear.inv hc' rfl))
    · have hset := PeerShrink.setNode hs hc (x := c.update data) rfl
      exact hset.trans (.of_shape hset.inv (checkPotentialLink_shape d _ h))

theorem clientInactive_shrink {key : κ} {data : ClientData ι} {s s' : LanState κ ι δ}
    (hs : PeerInv s) (h : clientInactive d key data s = some s') : PeerShrink s s' := by
  rw [clientInactive] at h
  split at h
  case h_1 =>
    cases h
    exact .refl hs
  case h_2 client hkey =>
    simp only [Option.bind_eq_bind, Option.bind_eq_some_iff] at h
    obtain ⟨⟨_, t⟩, hturned, c, hc, h⟩ := h
    have hshape := turnoffOffloadLinks_shape d _ hturned
    have hturn := PeerShrink.of_shape hs hshape
    have hset := PeerShrink.setNode hturn.inv hc (x := { c with isActive := false }) rfl
    have hboth := hturn.trans hset
    cases h
    split
    case isTrue hempty =>
      apply hboth.trans
      apply erase_shrink hset.inv
      · rw [clientInfo_setNode, hshape.clientInfo]
        exact hkey
      · rw [peers_setNode, Function.update_self]
        exact hempty
    case isFalse => exact hboth

theorem clientDisconnect_shrink {key : κ} {data : ClientData ι} {s s' : LanState κ ι δ}
    (hs : PeerInv s) (h : clientDisconnect d key data s = some s') : PeerShrink s s' := by
  rw [clientDisconnect] at h
  split at h
  case h_1 =>
    cases h
    exact .refl hs
  case h_2 client hkey =>
    simp only [Option.bind_eq_bind, Option.bind_eq_some_iff] at h
    obtain ⟨⟨_, t⟩, hturned, ⟨_, u⟩, hcleared, h⟩ := h
    cases h
    have hshape := turnoffOffloadLinks_shape d _ hturned
    have hturn := PeerShrink.of_shape hs hshape
    obtain ⟨hclear, hempty⟩ := clearPeerList_shrink hturn.inv hcleared
    apply hturn.trans
    apply hclear.trans
    apply erase_shrink hclear.inv _ hempty
    rw [(clearPeerList_count hturn.inv hcleared).1.clientInfo, hshape.clientInfo]
    exact hkey

omit [DecidableEq κ] in
theorem clientPowerSave_shrink {key : κ} {data : ClientData ι} {s s' : LanState κ ι δ}
    (hs : PeerInv s) (h : clientPowerSave d key data s = some s') : PeerShrink s s' := by
  rw [clientPowerSave] at h
  split at h
  case h_1 =>
    cases h
    exact .refl hs
  case h_2 client hkey =>
    simp only [Option.bind_eq_bind, Option.bind_eq_some_iff, removeFltRules] at h
    obtain ⟨⟨_, t⟩, ⟨c, hc, hremoved⟩, h⟩ := h
    have hremove := PeerShrink.of_shape hs (removeFltLoop_shape d _ hremoved)
    split at h
    · cases h
      exact hremove
    · obtain ⟨c', hc', h⟩ := Option.bind_eq_some_iff.mp h
      cases h
      exact hremove.trans (.setNode hremove.inv hc' rfl)

omit [DecidableEq κ] in
theorem clientPowerRecover_shrink {key : κ} {data : ClientData ι} {s s' : LanState κ ι δ}
    (hs : PeerInv s) (h : clientPowerRecover d key data s = some s') : PeerShrink s s' := by
  rw [clientPowerRecover] at h
  split at h
  case h_1 =>
    cases h
    exact .refl hs
  case h_2 client hkey =>
    simp only [Option.bind_eq_bind, Option.bind_eq_some_iff] at h
    obtain ⟨c, hc, h⟩ := h
    split at h
    · cases h
      exact .refl hs
    · simp only [addFltRules, Option.bind_eq_bind, Option.bind_eq_some_iff] at h
      obtain ⟨⟨_, t⟩, ⟨c', hc', hadded⟩, h⟩ := h
      have hadd := PeerShrink.of_shape hs (addFltLoop_shape d _ hadded)
      split at h
      · cases h
        exact hadd
      · obtain ⟨c'', hc'', h⟩ := Option.bind_eq_some_iff.mp h
        have hset := PeerShrink.setNode hadd.inv hc''
          (x := { c'' with isActive := true, isPowersave := false }) rfl
        exact hadd.trans (hset.trans (.of_shape hset.inv (checkPotentialLink_shape d _ h)))

omit [DecidableEq κ] in
theorem between_iff {s : LanState κ ι δ} (hs : WellKeyed s) {src dst a b : κ}
    {srcClient dstClient p q : ClientPtr} (hsrc : s.clientInfo src = some srcClient)
    (hdst : s.clientInfo dst = some dstClient) (ha : s.clientInfo a = some p)
    (hb : s.clientInfo b = some q) :
    (src = a ∧ dst = b ∨ src = b ∧ dst = a) ↔
      (p = srcClient ∧ q = dstClient ∨ p = dstClient ∧ q = srcClient) := by
  have hkey : ∀ {k k' : κ} {x y : ClientPtr}, s.clientInfo k = some x → s.clientInfo k' = some y →
      (k = k' ↔ y = x) := by
    intro k k' x y hk hk'
    constructor
    · rintro rfl
      rw [hk] at hk'
      exact (Option.some.inj hk').symm
    · rintro rfl
      exact hs.injective k k' _ hk hk'
  rw [hkey hsrc ha, hkey hdst hb, hkey hsrc hb, hkey hdst ha, and_comm (a := q = srcClient)]

theorem newLan2lanConnection_step {iptype : IpType} {src dst : κ} {s s' : LanState κ ι δ}
    (hne : src ≠ dst) (hs : PeerInv s)
    (h : newLan2lanConnection d iptype src dst s = some s') :
    PeerStep s (.connection .new iptype src dst) s' := by
  rw [newLan2lanConnection] at h
  split at h
  case h_2 hnone =>
    cases h
    refine ⟨hs, fun _ _ hk => Or.inl hk, ?_⟩
    intro a b p q ha hb
    have hfalse : ¬(src = a ∧ dst = b ∨ src = b ∧ dst = a) := by
      rintro (⟨rfl, rfl⟩ | ⟨rfl, rfl⟩)
      · exact hnone p q ha hb
      · exact hnone q p hb ha
    simp [TableEvent.between, hfalse]
  case h_1 srcClient dstClient hsrc hdst =>
    have hptr : srcClient ≠ dstClient := fun heq =>
      hne (hs.keyed.injective _ _ _ hsrc (heq ▸ hdst))
    simp only [Option.bind_eq_bind, Option.bind_eq_some_iff] at h
    obtain ⟨⟨res, t⟩, hadded, c, hc, p, hp, h⟩ := h
    obtain ⟨hkeys, -, hlist, hcount⟩ := addConnection_spec hptr hs hadded
    have hinv := addConnection_inv hptr hs hadded
    have hshape : SameShape t s' := by
      split at h
      · simp only [Option.bind_eq_some_iff] at h
        obtain ⟨⟨_, u⟩, hthere, h⟩ := h
        have hu := addOffloadLink_shape d _ hthere
        split at h
        · cases h
          exact hu
        · obtain ⟨⟨_, v⟩, hback, h⟩ := Option.bind_eq_some_iff.mp h
          have hv := hu.trans (addOffloadLink_shape d _ hback)
          split at h
          · cases h
            exact hv
          · cases h
            exact hv.trans (.of_node_eq rfl rfl rfl)
      · cases h
        exact .refl _
    have hrest := PeerShrink.of_shape hinv hshape
    refine ⟨hrest.inv, ?_, ?_⟩
    · intro k x hk
      have hkt := hrest.key k x hk
      rw [hkeys.clientInfo] at hkt
      exact Or.inl hkt
    · intro a b x y ha hb
      have hpair := between_iff hs.keyed hsrc hdst ha hb
      rcases hrest.count x y with hzero | heq
      · exact Or.inl hzero
      · refine Or.inr ?_
        rw [heq, hcount]
        simp only [TableEvent.between, true_and, decide_eq_true_eq, hpair, reduceCtorEq, false_and,
          decide_false, Bool.false_eq_true, if_false, Int.sub_zero]

omit [DecidableEq κ] in
theorem eraseLastLinks_shape {iptype : IpType} {src dst : ClientPtr} {s s' : LanState κ ι δ}
    (h : eraseLastLinks d iptype src dst s = some s') : SameShape s s' := by
  simp only [eraseLastLinks, Option.bind_eq_bind, Option.bind_eq_some_iff] at h
  obtain ⟨c, hc, p, hp, h⟩ := h
  split at h
  · exact eraseOffloadLink_shape d _ h
  · obtain ⟨t, ht, h⟩ := Option.bind_eq_some_iff.mp h
    have hfirst : SameShape s t := by
      split at ht
      · exact eraseOffloadLink_shape d _ ht
      · cases ht
        exact .refl _
    apply hfirst.trans
    split at h
    · exact eraseOffloadLink_shape d _ h
    · cases h
      exact .refl _

theorem delLan2lanConnection_step {iptype : IpType} {src dst : κ} {s s' : LanState κ ι δ}
    (hne : src ≠ dst) (hs : PeerInv s)
    (h : delLan2lanConnection d iptype src dst s = some s') :
    PeerStep s (.connection .del iptype src dst) s' := by
  rw [delLan2lanConnection] at h
  split at h
  case h_2 hnone =>
    cases h
    refine ⟨hs, fun _ _ hk => Or.inl hk, ?_⟩
    intro a b p q ha hb
    have hfalse : ¬(src = a ∧ dst = b ∨ src = b ∧ dst = a) := by
      rintro (⟨rfl, rfl⟩ | ⟨rfl, rfl⟩)
      · exact hnone p q ha hb
      · exact hnone q p hb ha
    simp [TableEvent.between, hfalse]
  case h_1 srcClient dstClient hsrc hdst =>
    have hptr : srcClient ≠ dstClient := fun heq =>
      hne (hs.keyed.injective _ _ _ hsrc (heq ▸ hdst))
    simp only [Option.bind_eq_bind, Option.bind_eq_some_iff] at h
    obtain ⟨⟨res, t⟩, hremoved, h⟩ := h
    obtain ⟨hkeys, -, hlist, hcount⟩ := removeConnection_spec hptr hs hremoved
    have hinv := removeConnection_inv hptr hs hremoved
    have hrest : PeerShrink t s' := by
      split at h
      · simp only [Option.bind_eq_some_iff] at h
        obtain ⟨u, hlinks, v, hv, h⟩ := h
        have hshape := eraseLastLinks_shape hlinks
        have hu := PeerShrink.of_shape hinv hshape
        obtain ⟨hvs, hvkeys⟩ := eraseIdle_shrink hu.inv
          (by rw [hshape.clientInfo, hkeys.clientInfo]; exact hsrc) hv
        obtain ⟨hlast, -⟩ := eraseIdle_shrink hvs.inv
          (by rw [hvkeys dst hne.symm, hshape.clientInfo, hkeys.clientInfo]; exact hdst) h
        exact hu.trans (hvs.trans hlast)
      · cases h
        exact .refl hinv
    refine ⟨hrest.inv, ?_, ?_⟩
    · intro k x hk
      have hkt := hrest.key k x hk
      rw [hkeys.clientInfo] at hkt
      exact Or.inl hkt
    · intro a b x y ha hb
      have hpair := between_iff hs.keyed hsrc hdst ha hb
      rcases hrest.count x y with hzero | heq
      · exact Or.inl hzero
      · refine Or.inr ?_
        rw [heq, hcount]
        simp only [TableEvent.between, true_and, decide_eq_true_eq, hpair, reduceCtorEq, false_and,
          decide_false, Bool.false_eq_true, if_false, Int.add_zero]
        -- the counts compared to zero are those of the two ends
        have hends : (x = srcClient ∧ y = dstClient ∨ x = dstClient ∧ y = srcClient) →
            countOf dstClient (s.peers srcClient) = countOf y (s.peers x) := by
          rintro (⟨rfl, rfl⟩ | ⟨rfl, rfl⟩)
          · rfl
          · exact hs.graph.symm _ _
        congr 1
        apply if_congr _ rfl rfl
        constructor
        · rintro ⟨hp, hcountne⟩
          exact ⟨hp, hends hp ▸ hcountne⟩
        · rintro ⟨hp, hcountne⟩
          exact ⟨hp, (hends hp).symm ▸ hcountne⟩

theorem tableStep_peers {e : TableEvent κ ι} {s s' : LanState κ ι δ} (hdistinct : e.Distinct)
    (hs : PeerInv s) (h : tableStep d s e = some s') : PeerStep s e s' := by
  cases e with
  | client id key data =>
      cases id with
      | active => exact clientActive_step hs h
      | inactive => exact (clientInactive_shrink hs h).step _ _ _
      | disconnect => exact (clientDisconnect_shrink hs h).step _ _ _
      | powerSave => exact (clientPowerSave_shrink hs h).step _ _ _
      | powerRecover => exact (clientPowerRecover_shrink hs h).step _ _ _
  | connection id iptype src dst =>
      cases id with
      | new => exact newLan2lanConnection_step hdistinct hs h
      | del => exact delLan2lanConnection_step hdistinct hs h

end

/-- The peer lists of a table: no peer twice, and the entries of two clients for
each other come together with the same positive count. -/
structure PeersMatch {κ ι : Type} (t : ClientTable κ ι) : Prop where
  nodup : ∀ p c, t.node p = some c → (c.peer.map PeerInfo.peerPointer).Nodup
  symm : ∀ p c e, t.node p = some c → e ∈ c.peer →
    ∃ c', t.node e.peerPointer = some c' ∧ ⟨p, e.numConnection⟩ ∈ c'.peer
  pos : ∀ p c e, t.node p = some c → e ∈ c.peer → 1 ≤ e.numConnection

theorem PeerInv.peersMatch {κ ι δ : Type} {s : LanState κ ι δ} (h : PeerInv s) :
    PeersMatch s.toClientTable := by
  refine ⟨?_, ?_, ?_⟩
  · intro p c hc
    rw [← peers_of_node hc]
    exact (h.graph.list p).nodup
  · intro p c e hc he
    rw [← peers_of_node hc] at he
    have hcount := (h.graph.list p).countOf_eq_of_mem he
    have hne := (h.graph.list p).countOf_ne_zero_of_mem he
    rw [h.graph.symm] at hcount hne
    have hmem := mem_of_countOf_ne_zero hne
    rw [hcount] at hmem
    exact node_of_mem_peers hmem
  · intro p c e hc he
    rw [← peers_of_node hc] at he
    exact (h.graph.list p).pos e he

theorem PeerInv.of_driver {κ ι δ ε : Type} {t : ClientTable κ ι} {drv : δ} (drv' : ε)
    (h : PeerInv ⟨t, drv⟩) : PeerInv (⟨t, drv'⟩ : LanState κ ι ε) :=
  ⟨⟨h.keyed.key_of_node, h.keyed.node_of_key, h.keyed.injective, h.keyed.lt_nextNode⟩, h.graph⟩

theorem peerInv_empty {κ ι δ : Type} (drv : δ) :
    PeerInv (⟨ClientTable.empty, drv⟩ : LanState κ ι δ) := by
  refine ⟨⟨?_, ?_, ?_, ?_⟩, ⟨fun _ => .nil, fun _ _ => rfl, fun _ => rfl⟩⟩
  · intro p hp
    cases hp
  · intro k p hk
    cases hk
  · intro k k' p hk
    cases hk
  · intro p hp
    cases hp

/-- `p` has an entry for `q` with `n` connections. -/
def HasEntry {κ ι : Type} (t : ClientTable κ ι) (p q : ClientPtr) (n : Int) : Prop :=
  ∃ c, t.node p = some c ∧ ⟨q, n⟩ ∈ c.peer

section

variable {κ ι δ σ α : Type} [DecidableEq κ]

/-- Where two clients of the table have entries for each other, the run splits
where these were made, and the count is the number of connections opened since
then less the number closed. -/
def CountsSinceCreated (step : σ → α → σ → Prop) (table : σ → ClientTable κ ι)
    (event : α → Option (TableEvent κ ι)) (init : σ) (es : List α) (s : σ) : Prop :=
  ∀ a b p q n, (table s).clientInfo a = some p → (table s).clientInfo b = some q →
    HasEntry (table s) p q n →
    ∃ before since s₀, es = before ++ since ∧ Run step init before s₀ ∧
      (∀ m, ¬HasEntry (table s₀) p q m) ∧
      Run (fun s e s' => step s e s' ∧ ∃ m, HasEntry (table s') p q m) s₀ since s ∧
      n = (since.filterMap event).countP (TableEvent.between .new a b)
        - (since.filterMap event).countP (TableEvent.between .del a b)

omit [DecidableEq κ] in
theorem hasEntry_iff {s : LanState κ ι δ} (h : PeerInv s) {p q : ClientPtr} {n : Int} :
    HasEntry s.toClientTable p q n ↔ countOf q (s.peers p) = n ∧ n ≠ 0 := by
  constructor
  · rintro ⟨c, hc, hmem⟩
    rw [← peers_of_node (s := s) hc] at hmem
    have hcount := (h.graph.list p).countOf_eq_of_mem hmem
    have hne := (h.graph.list p).countOf_ne_zero_of_mem hmem
    rw [hcount] at hne
    exact ⟨hcount, hne⟩
  · rintro ⟨rfl, hne⟩
    exact node_of_mem_peers (mem_of_countOf_ne_zero hne)

/-- How the steps of a larger system move a client table. -/
def MovesTable (d : LanDriver ι δ) (step : σ → α → σ → Prop) (table : σ → ClientTable κ ι)
    (event : α → Option (TableEvent κ ι)) : Prop :=
  ∀ s x s', step s x s' →
    (∃ e drv drv', event x = some e ∧ e.Distinct ∧
      tableStep d ⟨table s, drv⟩ e = some ⟨table s', drv'⟩) ∨
    (event x = none ∧ table s' = table s)

variable {d : LanDriver ι δ} {step : σ → α → σ → Prop} {table : σ → ClientTable κ ι}
  {event : α → Option (TableEvent κ ι)}

theorem countsSinceCreated_of_run (hmoves : MovesTable d step table event) {init : σ} (drv : δ)
    (hinit : table init = ClientTable.empty) {es : List α} {s : σ} (hrun : Run step init es s) :
    PeerInv (⟨table s, drv⟩ : LanState κ ι δ) ∧
      CountsSinceCreated step table event init es s := by
  induction hrun with
  | nil =>
      constructor
      · rw [hinit]
        exact peerInv_empty drv
      · rintro a b p q n ha - -
        rw [hinit] at ha
        cases ha
  | @snoc es s s' x hrun hstep ih =>
      obtain ⟨hinv, hcounts⟩ := ih
      rcases hmoves s x s' hstep with ⟨e, drv₁, drv₂, hevent, hdistinct, htable⟩ | ⟨hevent, htable⟩
      · have hpeers := tableStep_peers hdistinct (hinv.of_driver drv₁) htable
        refine ⟨hpeers.inv.of_driver drv, ?_⟩
        intro a b p q n ha hb hentry
        obtain ⟨hcount, hn⟩ := (hasEntry_iff hpeers.inv).mp hentry
        -- the ends of an entry were in the table before the step
        have hold : ∀ k x y, (table s').clientInfo k = some x →
            countOf y ((⟨table s', drv₂⟩ : LanState κ ι δ).peers x) ≠ 0 →
            (table s).clientInfo k = some x := by
          intro k x y hk hy
          rcases hpeers.key k x hk with hk' | hnil
          · exact hk'
          · rw [hnil] at hy
            exact absurd rfl hy
        have ha' := hold a p q ha (hcount ▸ hn)
        have hb' := hold b q p hb (by rw [hpeers.inv.graph.symm, hcount]; exact hn)
        have hchange := (hpeers.count a b p q ha' hb').resolve_left (hcount ▸ hn)
        rw [hcount] at hchange
        rcases eq_or_ne (countOf q ((⟨table s, drv₁⟩ : LanState κ ι δ).peers p)) 0 with hzero | hne
        · -- the entry was made by this step
          rw [hzero] at hchange
          refine ⟨es, [x], s, rfl, hrun, ?_, Run.nil.snoc ⟨hstep, n, hentry⟩, ?_⟩
          · intro m hm
            obtain ⟨hm, hm0⟩ := (hasEntry_iff (hinv.of_driver drv₁)).mp hm
            exact hm0 (hm.symm.trans hzero)
          · cases e with
            | client id key data => simp [TableEvent.between] at hchange; exact absurd hchange hn
            | connection id iptype src dst =>
                cases id with
                | new =>
                    simp only [TableEvent.between, true_and, ne_eq, not_true_eq_false, and_false,
                      if_false, Int.zero_add, Int.sub_zero] at hchange
                    simp only [List.filterMap_cons, hevent, List.filterMap_nil,
                      List.countP_singleton, TableEvent.between, true_and, reduceCtorEq, false_and,
                      decide_false, Bool.false_eq_true, if_false]
                    rw [hchange]
                    split
                    · rfl
                    · rfl
                | del =>
                    simp [TableEvent.between] at hchange
                    exact absurd hchange hn
        · have hentry' : HasEntry (table s) p q _ :=
            (hasEntry_iff (hinv.of_driver drv₁)).mpr ⟨rfl, hne⟩
          obtain ⟨before, since, s₀, rfl, hbefore, hnone, hsince, hcounted⟩ :=
            hcounts a b p q _ ha' hb' hentry'
          refine ⟨before, since ++ [x], s₀, (List.append_assoc ..), hbefore, hnone,
            hsince.snoc ⟨hstep, n, hentry⟩, ?_⟩
          simp only [hne, ne_eq, not_false_eq_true, and_true] at hchange
          rw [hchange, hcounted]
          simp only [List.filterMap_append, List.countP_append, List.filterMap_cons, hevent,
            List.filterMap_nil, List.countP_singleton, Int.natCast_add]
          split
          · split
            · exact (by omega : ∀ x y : Int, x - y + 1 - 1 = x + 1 - (y + 1)) _ _
            · exact (by omega : ∀ x y : Int, x - y + 1 - 0 = x + 1 - (y + 0)) _ _
          · split
            · exact (by omega : ∀ x y : Int, x - y + 0 - 1 = x + 0 - (y + 1)) _ _
            · exact (by omega : ∀ x y : Int, x - y + 0 - 0 = x + 0 - (y + 0)) _ _
      · rw [htable]
        refine ⟨hinv, ?_⟩
        intro a b p q n ha hb hentry
        rw [htable] at ha hb
        have hentry' := hentry
        rw [htable] at hentry'
        obtain ⟨before, since, s₀, rfl, hbefore, hnone, hsince, hcounted⟩ :=
          hcounts a b p q n ha hb hentry'
        refine ⟨before, since ++ [x], s₀, (List.append_assoc ..), hbefore, hnone,
          hsince.snoc ⟨hstep, n, hentry⟩, ?_⟩
        simpa [hevent] using hcounted

end

/-- The endpoints of a connection event are two clients of its table. -/
def LanEvent.Distinct {ι : Type} (e : LanEvent ι) : Prop :=
  (∀ event, e.v4Event = some event → event.Distinct) ∧
    ∀ event, e.v6Event = some event → event.Distinct

section

variable {ι δ : Type} (d : LanDriver ι δ)

/-- The steps of `event_callback` on events between two clients. -/
def LanStep (s : Lan2Lan ι δ) (e : LanEvent ι) (s' : Lan2Lan ι δ) : Prop :=
  e.Distinct ∧ eventCallback d s e = some s'

theorem lanStep_movesV4 : MovesTable d (LanStep d) Lan2Lan.v4 LanEvent.v4Event := by
  rintro s x s' ⟨hdistinct, h⟩
  rcases eventCallback_cases h with ⟨e, he, -, -, ht⟩ | ⟨e, -, he, ht, -⟩ | ⟨he, -, rfl⟩
  · exact Or.inl ⟨e, s.driver, s'.driver, he, hdistinct.1 e he, ht⟩
  · exact Or.inr ⟨he, ht⟩
  · exact Or.inr ⟨he, rfl⟩

theorem lanStep_movesV6 : MovesTable d (LanStep d) Lan2Lan.v6 LanEvent.v6Event := by
  rintro s x s' ⟨hdistinct, h⟩
  rcases eventCallback_cases h with ⟨e, -, he, ht, -⟩ | ⟨e, he, -, -, ht⟩ | ⟨-, he, rfl⟩
  · exact Or.inr ⟨he, ht⟩
  · exact Or.inl ⟨e, s.driver, s'.driver, he, hdistinct.2 e he, ht⟩
  · exact Or.inr ⟨he, rfl⟩

/-- In every state reached the peer lists of both tables match and count the
connections since their entries were made, whatever the driver does. -/
theorem peersMatch_of_run (drv : δ) (es : List (LanEvent ι)) (s : Lan2Lan ι δ)
    (hrun : Run (LanStep d) (Lan2Lan.init drv) es s) :
    (PeersMatch s.v4 ∧
      CountsSinceCreated (LanStep d) Lan2Lan.v4 LanEvent.v4Event (Lan2Lan.init drv) es s) ∧
    (PeersMatch s.v6 ∧
      CountsSinceCreated (LanStep d) Lan2Lan.v6 LanEvent.v6Event (Lan2Lan.init drv) es s) := by
  have h4 := countsSinceCreated_of_run (lanStep_movesV4 d) drv rfl hrun
  have h6 := countsSinceCreated_of_run (lanStep_movesV6 d) drv rfl hrun
  exact ⟨⟨h4.1.peersMatch, h4.2⟩, h6.1.peersMatch, h6.2⟩

end

/-- A driver that never fails and counts the handles it gives out. -/
def countingDriver : LanDriver Unit Nat where
  addLan2lanHdr _ _ _ _ n := (some n, n + 1)
  addLan2lanRtRule _ _ _ _ _ n := (some ⟨1, [n]⟩, n + 1)
  addLan2lanFltRule _ _ _ _ n := (some n, n + 1)
  delLan2lanFltRule _ _ _ n := (true, n)
  delLan2lanRtRule _ _ _ n := (true, n)
  delLan2lanHdr _ _ _ n := (true, n)

/-- A client event for an IPv4 address. -/
def clientV4 (id : ClientEventId) (addr : UInt32) : LanEvent Unit :=
  .client id (some ⟨.v4, addr, ⟨0, 0, 0, 0⟩, Vector.replicate 6 addr.toUInt8, some ()⟩)

/-- A connection event between two IPv4 addresses. -/
def connectionV4 (id : ConnectionEventId) (src dst : UInt32) : LanEvent Unit :=
  .connection id ⟨.v4, src, dst, ⟨0, 0, 0, 0⟩, ⟨0, 0, 0, 0⟩⟩

theorem clientV4_distinct (id : ClientEventId) (addr : UInt32) :
    (clientV4 id addr).Distinct := by
  constructor
  · intro event h
    cases h
    trivial
  · intro event h
    cases h

theorem connectionV4_distinct (id : ConnectionEventId) {src dst : UInt32} (h : src ≠ dst) :
    (connectionV4 id src dst).Distinct := by
  constructor
  · intro event hevent
    cases hevent
    exact h
  · intro event hevent
    cases hevent

def afterEvent {δ : Type} (d : LanDriver Unit δ) (s : Lan2Lan Unit δ) (e : LanEvent Unit) :
    Lan2Lan Unit δ := (eventCallback d s e).getD s

theorem eventCallback_afterEvent {δ : Type} {d : LanDriver Unit δ} {s : Lan2Lan Unit δ}
    {e : LanEvent Unit} (h : (eventCallback d s e).isSome) :
    eventCallback d s e = some (afterEvent d s e) := by
  rw [afterEvent]
  obtain ⟨s', hs'⟩ := Option.isSome_iff_exists.mp h
  rw [hs']
  rfl

/-- Two clients with two connections, one of them closed. -/
def connectedRun : List (LanEvent Unit) :=
  [clientV4 .active 1, clientV4 .active 2, connectionV4 .new 1 2, connectionV4 .new 2 1,
    connectionV4 .del 1 2]

def connected : Lan2Lan Unit Nat := connectedRun.foldl (afterEvent countingDriver) (Lan2Lan.init 0)

theorem peersMatch_connected :
    (PeersMatch connected.v4 ∧
      CountsSinceCreated (LanStep countingDriver) Lan2Lan.v4 LanEvent.v4Event (Lan2Lan.init 0)
        connectedRun connected) ∧
    (PeersMatch connected.v6 ∧
      CountsSinceCreated (LanStep countingDriver) Lan2Lan.v6 LanEvent.v6Event (Lan2Lan.init 0)
        connectedRun connected) := by
  apply peersMatch_of_run countingDriver 0 connectedRun connected
  refine Run.snoc (Run.snoc (Run.snoc (Run.snoc (Run.snoc .nil
    ⟨?_, eventCallback_afterEvent ?_⟩) ⟨?_, eventCallback_afterEvent ?_⟩)
    ⟨?_, eventCallback_afterEvent ?_⟩) ⟨?_, eventCallback_afterEvent ?_⟩)
    ⟨?_, eventCallback_afterEvent ?_⟩
  · exact connectionV4_distinct .del (by decide)
  · decide
  · exact clientV4_distinct .active 1
  · decide
  · exact clientV4_distinct .active 2
  · decide
  · exact connectionV4_distinct .new (by decide)
  · decide
  · exact connectionV4_distinct .new (by decide)
  · decide

end LibraDevice.LanToLan
