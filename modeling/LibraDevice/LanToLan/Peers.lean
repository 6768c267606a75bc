import Mathlib.Data.List.Nodup
import LibraDevice.LanToLan.Client
import LibraDevice.LanToLan.Shape

/-!
Peer lists as connection counts: a list without repeated peers is determined by
the number of connections it has for each of them. The lists of a client table
form a symmetric graph with equal counts on both sides, and every event changes
the counts by what it says.
-/

namespace LibraDevice.LanToLan

/-- The connections a list has for `peer`; zero when it has no entry. -/
def countOf (peer : ClientPtr) (l : List PeerInfo) : Int :=
  ((l.find? fun e => e.peerPointer = peer).map PeerInfo.numConnection).getD 0

@[simp] theorem countOf_nil (peer : ClientPtr) : countOf peer [] = 0 := rfl

theorem countOf_cons (peer : ClientPtr) (e : PeerInfo) (l : List PeerInfo) :
    countOf peer (e :: l) = if e.peerPointer = peer then e.numConnection else countOf peer l := by
  rw [countOf, List.find?_cons]
  split
  case h_1 h => rw [if_pos (of_decide_eq_true h)]; rfl
  case h_2 h => rw [if_neg (of_decide_eq_false h)]; rfl

/-- At most one entry for a peer, and no entry without a connection. -/
structure PeerList (l : List PeerInfo) : Prop where
  nodup : (l.map PeerInfo.peerPointer).Nodup
  pos : ∀ e ∈ l, 1 ≤ e.numConnection

namespace PeerList

theorem nil : PeerList [] := ⟨List.nodup_nil, by simp⟩

theorem tail {e : PeerInfo} {l : List PeerInfo} (h : PeerList (e :: l)) : PeerList l :=
  ⟨(List.nodup_cons.mp h.nodup).2, fun b hb => h.pos b (List.mem_cons_of_mem e hb)⟩

theorem sublist {l l' : List PeerInfo} (h : PeerList l) (hsub : l'.Sublist l) : PeerList l' :=
  ⟨h.nodup.sublist (hsub.map _), fun e he => h.pos e (hsub.subset he)⟩

theorem countOf_head_tail {e : PeerInfo} {l : List PeerInfo} (h : PeerList (e :: l)) :
    countOf e.peerPointer l = 0 := by
  have hnot := (List.nodup_cons.mp h.nodup).1
  rw [countOf, List.find?_eq_none.mpr]
  · rfl
  · intro b hb
    have hne : b.peerPointer ≠ e.peerPointer := fun heq =>
      hnot (heq ▸ List.mem_map_of_mem (f := PeerInfo.peerPointer) hb)
    simpa using hne

theorem countOf_eq_of_mem {l : List PeerInfo} (h : PeerList l) {e : PeerInfo} (he : e ∈ l) :
    countOf e.peerPointer l = e.numConnection := by
  induction l with
  | nil => cases he
  | cons b l ih =>
      rw [countOf_cons]
      rcases List.mem_cons.mp he with rfl | he
      · rw [if_pos rfl]
      · have hne : b.peerPointer ≠ e.peerPointer := fun heq =>
          (List.nodup_cons.mp h.nodup).1
            (heq ▸ List.mem_map_of_mem (f := PeerInfo.peerPointer) he)
        rw [if_neg hne]
        exact ih h.tail he

end PeerList

theorem mem_of_countOf_ne_zero {peer : ClientPtr} {l : List PeerInfo} (h : countOf peer l ≠ 0) :
    (⟨peer, countOf peer l⟩ : PeerInfo) ∈ l := by
  induction l with
  | nil => exact absurd rfl h
  | cons b l ih =>
      rw [countOf_cons] at h ⊢
      split
      case isTrue hb =>
        rw [← hb]
        exact List.mem_cons_self
      case isFalse hb =>
        rw [if_neg hb] at h
        exact List.mem_cons_of_mem b (ih h)

theorem PeerList.countOf_ne_zero_of_mem {l : List PeerInfo} (h : PeerList l) {e : PeerInfo}
    (he : e ∈ l) : countOf e.peerPointer l ≠ 0 := by
  rw [h.countOf_eq_of_mem he]
  have hpos := h.pos e he
  omega

theorem PeerList.countOf_nonneg {l : List PeerInfo} (h : PeerList l) (peer : ClientPtr) :
    0 ≤ countOf peer l := by
  rcases eq_or_ne (countOf peer l) 0 with hzero | hne
  · exact Int.le_of_eq hzero.symm
  · have hpos : 1 ≤ countOf peer l := h.pos _ (mem_of_countOf_ne_zero hne)
    omega

theorem find?_of_countOf_ne_zero {peer : ClientPtr} {l : List PeerInfo} (h : countOf peer l ≠ 0) :
    ∃ e, l.find? (fun e => e.peerPointer = peer) = some e := by
  cases hf : l.find? (fun e => e.peerPointer = peer) with
  | none =>
      rw [countOf, hf] at h
      exact absurd rfl h
  | some e => exact ⟨e, rfl⟩

theorem countOf_countUp (peer other : ClientPtr) (l : List PeerInfo) :
    countOf other (countUp peer l).1 =
      countOf other l + if other = peer then 1 else 0 := by
  induction l with
  | nil =>
      rw [countUp, countOf_cons]
      rcases eq_or_ne other peer with rfl | hne
      · simp
      · simp [hne, hne.symm]
  | cons e l ih =>
      rw [countUp]
      split
      case isTrue he =>
        simp only [countOf_cons]
        rcases eq_or_ne other peer with rfl | hne
        · simp [he]
        · have hother : e.peerPointer ≠ other := he ▸ hne.symm
          simp [hne, hother]
      case isFalse he =>
        simp only [countOf_cons, ih]
        split
        case isTrue heq =>
          have hne : other ≠ peer := fun h => he (heq.trans h)
          simp [hne]
        case isFalse => rfl

theorem map_peerPointer_countUp (peer : ClientPtr) (l : List PeerInfo) :
    (countUp peer l).1.map PeerInfo.peerPointer =
      if peer ∈ l.map PeerInfo.peerPointer then l.map PeerInfo.peerPointer
      else l.map PeerInfo.peerPointer ++ [peer] := by
  induction l with
  | nil => rfl
  | cons e l ih =>
      rw [countUp]
      split
      case isTrue he => simp [he]
      case isFalse he =>
        simp only [List.map_cons, ih, List.mem_cons, Ne.symm he, false_or]
        split
        · rfl
        · rfl

theorem PeerList.countUp {l : List PeerInfo} (h : PeerList l) (peer : ClientPtr) :
    PeerList (countUp peer l).1 := by
  constructor
  · rw [map_peerPointer_countUp]
    split
    case isTrue => exact h.nodup
    case isFalse hnot => exact List.nodup_append_comm.mp (List.nodup_cons.mpr ⟨hnot, h.nodup⟩)
  · have hpos := h.pos
    clear h
    induction l with
    | nil => simp [LanToLan.countUp]
    | cons e l ih =>
        intro b hb
        rw [LanToLan.countUp] at hb
        split at hb
        · rcases List.mem_cons.mp hb with rfl | hb
          · have he := hpos e List.mem_cons_self
            change 1 ≤ e.numConnection + 1
            omega
          · exact hpos b (List.mem_cons_of_mem e hb)
        · rcases List.mem_cons.mp hb with rfl | hb
          · exact hpos b List.mem_cons_self
          · exact ih (fun b hb => hpos b (List.mem_cons_of_mem e hb)) b hb

theorem PeerList.countUp_inserts_iff {l : List PeerInfo} (h : PeerList l) (peer : ClientPtr) :
    (LanToLan.countUp peer l).2 = true ↔ countOf peer l = 0 := by
  induction l with
  | nil => simp [LanToLan.countUp]
  | cons e l ih =>
      rw [LanToLan.countUp, countOf_cons]
      split
      case isTrue he =>
        have hpos := h.pos e List.mem_cons_self
        simp only [Bool.false_eq_true, false_iff]
        omega
      case isFalse => exact ih h.tail

theorem PeerList.countOf_countDown {l : List PeerInfo} (h : PeerList l) (peer other : ClientPtr) :
    countOf other (countDown peer l).1 =
      countOf other l - if other = peer ∧ countOf peer l ≠ 0 then 1 else 0 := by
  induction l with
  | nil => simp [countDown]
  | cons e l ih =>
      rw [countDown]
      split
      case isTrue he =>
        subst he
        have hpos := h.pos e List.mem_cons_self
        have hself : countOf e.peerPointer (e :: l) = e.numConnection := by
          rw [countOf_cons, if_pos rfl]
        split
        case isTrue hlast =>
          rcases eq_or_ne other e.peerPointer with rfl | hne
          · rw [h.countOf_head_tail, hself, if_pos ⟨rfl, by omega⟩]
            omega
          · rw [countOf_cons, if_neg hne.symm, if_neg (fun hc => hne hc.1)]
            exact (Int.sub_zero _).symm
        case isFalse =>
          rcases eq_or_ne other e.peerPointer with rfl | hne
          · rw [hself, countOf_cons, if_pos rfl, if_pos ⟨rfl, by omega⟩]
          · rw [countOf_cons, countOf_cons, if_neg hne.symm, if_neg hne.symm,
              if_neg (fun hc => hne hc.1)]
            omega
      case isFalse he =>
        simp only [countOf_cons, if_neg he, ih h.tail]
        split
        case isTrue heq =>
          rw [if_neg (fun hc => he (heq.trans hc.1))]
          omega
        case isFalse => rfl

theorem countDown_cases (peer : ClientPtr) (l : List PeerInfo) :
    (countDown peer l).1.Sublist l ∨
      (countDown peer l).1.map PeerInfo.peerPointer = l.map PeerInfo.peerPointer := by
  induction l with
  | nil => exact Or.inl (List.Sublist.refl _)
  | cons e l ih =>
      rw [countDown]
      split
      · split
        · exact Or.inl (List.sublist_cons_self e l)
        · exact Or.inr rfl
      · rcases ih with hsub | hmap
        · exact Or.inl (hsub.cons_cons e)
        · refine Or.inr ?_
          simp only [List.map_cons, hmap]

theorem PeerList.countDown {l : List PeerInfo} (h : PeerList l) (peer : ClientPtr) :
    PeerList (countDown peer l).1 := by
  constructor
  · rcases countDown_cases peer l with hsub | hmap
    · exact h.nodup.sublist (hsub.map _)
    · rw [hmap]
      exact h.nodup
  · have hpos := h.pos
    clear h
    induction l with
    | nil => simp [LanToLan.countDown]
    | cons e l ih =>
        intro b hb
        have he := hpos e List.mem_cons_self
        rw [LanToLan.countDown] at hb
        split at hb
        · split at hb
          case isTrue => exact hpos b (List.mem_cons_of_mem e hb)
          case isFalse hmore =>
            rcases List.mem_cons.mp hb with rfl | hb
            · change 1 ≤ e.numConnection - 1
              omega
            · exact hpos b (List.mem_cons_of_mem e hb)
        · rcases List.mem_cons.mp hb with rfl | hb
          · exact he
          · exact ih (fun b hb => hpos b (List.mem_cons_of_mem e hb)) b hb

theorem PeerList.countDown_removes_iff {l : List PeerInfo} (h : PeerList l) (peer : ClientPtr) :
    (LanToLan.countDown peer l).2 = true ↔ countOf peer l = 1 := by
  induction l with
  | nil => simp [LanToLan.countDown]
  | cons e l ih =>
      rw [LanToLan.countDown, countOf_cons]
      split
      case isTrue he =>
        split
        case isTrue hlast =>
          simp only [true_iff]
          omega
        case isFalse hmore =>
          simp only [Bool.false_eq_true, false_iff]
          omega
      case isFalse => exact ih h.tail

theorem PeerList.countOf_eraseP {l : List PeerInfo} (h : PeerList l) (peer other : ClientPtr) :
    countOf other (l.eraseP fun e => e.peerPointer = peer) =
      if other = peer then 0 else countOf other l := by
  induction l with
  | nil => simp
  | cons e l ih =>
      rw [List.eraseP_cons]
      rcases eq_or_ne e.peerPointer peer with rfl | hne
      · simp only [decide_true, cond_true]
        rcases eq_or_ne other e.peerPointer with rfl | hother
        · rw [if_pos rfl]
          exact h.countOf_head_tail
        · rw [if_neg hother, countOf_cons, if_neg hother.symm]
      · simp only [decide_eq_false hne, cond_false, countOf_cons, ih h.tail]
        split
        case isTrue heq => rw [if_neg (heq ▸ hne)]
        case isFalse => rfl

section

variable {κ ι δ : Type}

/-- The table leads to every entry under one key. -/
structure WellKeyed (s : LanState κ ι δ) : Prop where
  key_of_node : ∀ p, (s.node p).isSome → ∃ k, s.clientInfo k = some p
  node_of_key : ∀ k p, s.clientInfo k = some p → (s.node p).isSome
  injective : ∀ k k' p, s.clientInfo k = some p → s.clientInfo k' = some p → k = k'
  lt_nextNode : ∀ p, (s.node p).isSome → p < s.nextNode

/-- Both ends of a connection count it, and no client is its own peer. -/
structure PeerGraph (peers : ClientPtr → List PeerInfo) : Prop where
  list : ∀ p, PeerList (peers p)
  symm : ∀ p q, countOf q (peers p) = countOf p (peers q)
  irrefl : ∀ p, countOf p (peers p) = 0

structure PeerInv (s : LanState κ ι δ) : Prop where
  keyed : WellKeyed s
  graph : PeerGraph s.peers

/-- The table and the set of entries are the same. -/
structure SameKeys (s s' : LanState κ ι δ) : Prop where
  clientInfo : s'.clientInfo = s.clientInfo
  nextNode : s'.nextNode = s.nextNode
  isSome : ∀ p, (s'.node p).isSome = (s.node p).isSome

namespace SameKeys

theorem refl (s : LanState κ ι δ) : SameKeys s s := ⟨rfl, rfl, fun _ => rfl⟩

theorem trans {s t u : LanState κ ι δ} (h : SameKeys s t) (h' : SameKeys t u) : SameKeys s u :=
  ⟨h'.clientInfo.trans h.clientInfo, h'.nextNode.trans h.nextNode,
    fun p => (h'.isSome p).trans (h.isSome p)⟩

theorem of_shape {s s' : LanState κ ι δ} (h : SameShape s s') : SameKeys s s' :=
  ⟨h.clientInfo, h.nextNode, h.isSome⟩

theorem setNode {s : LanState κ ι δ} {p : ClientPtr} (h : (s.node p).isSome)
    (c : ClientInfo ι) : SameKeys s (s.setNode p c) := by
  refine ⟨rfl, rfl, ?_⟩
  intro q
  rcases eq_or_ne q p with rfl | hne
  · rw [node_setNode_self, h]
    rfl
  · rw [node_setNode_of_ne s hne]

theorem wellKeyed {s s' : LanState κ ι δ} (h : SameKeys s s') (hs : WellKeyed s) :
    WellKeyed s' := by
  constructor
  · intro p hp
    rw [h.isSome] at hp
    rw [h.clientInfo]
    exact hs.key_of_node p hp
  · intro k p hk
    rw [h.clientInfo] at hk
    rw [h.isSome]
    exact hs.node_of_key k p hk
  · rw [h.clientInfo]
    exact hs.injective
  · intro p hp
    rw [h.isSome] at hp
    rw [h.nextNode]
    exact hs.lt_nextNode p hp

end SameKeys

theorem peers_setNode (s : LanState κ ι δ) (p : ClientPtr) (c : ClientInfo ι) :
    (s.setNode p c).peers = Function.update s.peers p c.peer := by
  funext q
  rcases eq_or_ne q p with rfl | hne
  · rw [Function.update_self, peers_of_node (node_setNode_self s q c)]
  · rw [Function.update_of_ne hne, LanState.peers, node_setNode_of_ne s hne]
    rfl

theorem peers_of_none {s : LanState κ ι δ} {p : ClientPtr} (h : s.node p = none) :
    s.peers p = [] := by
  rw [LanState.peers, h]
  rfl

theorem isSome_of_count_ne_zero {s : LanState κ ι δ} {p q : ClientPtr}
    (h : countOf q (s.peers p) ≠ 0) : (s.node p).isSome := by
  rw [Option.isSome_iff_ne_none]
  intro hnone
  rw [peers_of_none hnone] at h
  exact h rfl

/-- What the client events do to the peers: connections stay or go. -/
structure PeerShrink (s s' : LanState κ ι δ) : Prop where
  inv : PeerInv s'
  key : ∀ k p, s'.clientInfo k = some p → s.clientInfo k = some p
  count : ∀ p q, countOf q (s'.peers p) = 0 ∨ countOf q (s'.peers p) = countOf q (s.peers p)

namespace PeerShrink

theorem refl {s : LanState κ ι δ} (h : PeerInv s) : PeerShrink s s :=
  ⟨h, fun _ _ hk => hk, fun _ _ => Or.inr rfl⟩

theorem trans {s t u : LanState κ ι δ} (h : PeerShrink s t) (h' : PeerShrink t u) :
    PeerShrink s u := by
  refine ⟨h'.inv, fun k p hk => h.key k p (h'.key k p hk), ?_⟩
  intro p q
  rcases h'.count p q with hzero | heq
  · exact Or.inl hzero
  · rw [heq]
    exact h.count p q

theorem of_same {s s' : LanState κ ι δ} (h : PeerInv s) (hkeys : SameKeys s s')
    (hpeers : s'.peers = s.peers) : PeerShrink s s' := by
  refine ⟨⟨hkeys.wellKeyed h.keyed, hpeers ▸ h.graph⟩, ?_, ?_⟩
  · intro k p hk
    rwa [hkeys.clientInfo] at hk
  · intro p q
    rw [hpeers]
    exact Or.inr rfl

theorem of_shape {s s' : LanState κ ι δ} (h : PeerInv s) (hshape : SameShape s s') :
    PeerShrink s s' :=
  of_same h (.of_shape hshape) (funext hshape.peers_eq)

theorem setNode {s : LanState κ ι δ} (h : PeerInv s) {p : ClientPtr} {c x : ClientInfo ι}
    (hc : s.node p = some c) (hpeer : x.peer = c.peer) : PeerShrink s (s.setNode p x) := by
  apply of_same h (.setNode (by rw [hc]; rfl) x)
  rw [peers_setNode, hpeer, ← peers_of_node hc, Function.update_eq_self]

end PeerShrink

theorem clearPeerLoop_spec {client : ClientPtr} {rest : List PeerInfo} {s s' : LanState κ ι δ}
    {res : Bool} (h : clearPeerLoop client rest s = some (res, s'))
    (hnodup : (rest.map PeerInfo.peerPointer).Nodup)
    (hfound : ∀ e ∈ rest, e.peerPointer ≠ client ∧ countOf client (s.peers e.peerPointer) ≠ 0) :
    SameKeys s s' ∧ s'.peers client = [] ∧ ∀ p, p ≠ client → s'.peers p =
      if p ∈ rest.map PeerInfo.peerPointer
      then (s.peers p).eraseP fun b => b.peerPointer = client else s.peers p := by
  induction rest generalizing s with
  | nil =>
      simp only [clearPeerLoop, Option.bind_eq_bind, Option.bind_eq_some_iff] at h
      obtain ⟨c, hc, h⟩ := h
      cases h
      refine ⟨.setNode (by rw [hc]; rfl) _, ?_, ?_⟩
      · rw [peers_setNode, Function.update_self]
      · intro p hp
        rw [peers_setNode, Function.update_of_ne hp]
        rfl
  | cons e rest ih =>
      obtain ⟨hne, hcount⟩ := hfound e List.mem_cons_self
      rw [List.map_cons, List.nodup_cons] at hnodup
      simp only [clearPeerLoop, Option.bind_eq_bind, Option.bind_eq_some_iff] at h
      obtain ⟨c, hc, h⟩ := h
      obtain ⟨b, hb⟩ := find?_of_countOf_ne_zero hcount
      rw [peers_of_node hc] at hb
      simp only [hb, if_neg hne] at h
      have hpeers := peers_setNode s e.peerPointer
        { c with peer := c.peer.eraseP fun b => b.peerPointer = client }
      obtain ⟨hkeys, hclient, hothers⟩ := ih h hnodup.2 (by
        intro f hf
        obtain ⟨hfne, hfcount⟩ := hfound f (List.mem_cons_of_mem e hf)
        have hfe : f.peerPointer ≠ e.peerPointer := fun heq =>
          hnodup.1 (heq ▸ List.mem_map_of_mem (f := PeerInfo.peerPointer) hf)
        rw [hpeers, Function.update_of_ne hfe]
        exact ⟨hfne, hfcount⟩)
      refine ⟨SameKeys.trans (.setNode (by rw [hc]; rfl) _) hkeys, hclient, ?_⟩
      intro p hp
      rw [hothers p hp, hpeers]
      rcases eq_or_ne p e.peerPointer with rfl | hpe
      · rw [if_neg hnodup.1, Function.update_self, if_pos (by simp), peers_of_node hc]
      · rw [Function.update_of_ne hpe]
        simp only [List.map_cons, List.mem_cons, hpe, false_or]

theorem clearPeerList_count {client : ClientPtr} {s s' : LanState κ ι δ} {res : Bool}
    (hs : PeerInv s) (h : clearPeerList client s = some (res, s')) :
    SameKeys s s' ∧ s'.peers client = [] ∧ (∀ p, PeerList (s'.peers p)) ∧
      ∀ p q, countOf q (s'.peers p) =
        if p = client ∨ q = client then 0 else countOf q (s.peers p) := by
  simp only [clearPeerList, Option.bind_eq_bind, Option.bind_eq_some_iff] at h
  obtain ⟨c, hc, h⟩ := h
  rw [← peers_of_node hc] at h
  have hlist := hs.graph.list client
  obtain ⟨hkeys, hclient, hothers⟩ := clearPeerLoop_spec h hlist.nodup (by
    intro e he
    have hcount := hlist.countOf_ne_zero_of_mem he
    constructor
    · intro heq
      rw [heq] at hcount
      exact hcount (hs.graph.irrefl client)
    · rw [hs.graph.symm]
      exact hcount)
  refine ⟨hkeys, hclient, ?_, ?_⟩
  · intro p
    rcases eq_or_ne p client with rfl | hp
    · rw [hclient]
      exact .nil
    · rw [hothers p hp]
      split
      · exact (hs.graph.list p).sublist List.eraseP_sublist
      · exact hs.graph.list p
  · intro p q
    rcases eq_or_ne p client with rfl | hp
    · rw [hclient, if_pos (Or.inl rfl), countOf_nil]
    · rw [hothers p hp]
      split
      case isTrue =>
        rw [(hs.graph.list p).countOf_eraseP]
        simp only [hp, false_or]
      case isFalse hnot =>
        simp only [hp, false_or]
        split
        case isTrue hq =>
          -- a client that is not a peer of the cleared one has no entry for it
          subst hq
          rw [hs.graph.symm]
          rcases eq_or_ne (countOf p (s.peers q)) 0 with hzero | hcount
          · exact hzero
          · exact absurd (List.mem_map_of_mem (f := PeerInfo.peerPointer)
              (mem_of_countOf_ne_zero hcount)) hnot
        case isFalse => rfl

theorem clearPeerList_shrink {client : ClientPtr} {s s' : LanState κ ι δ} {res : Bool}
    (hs : PeerInv s) (h : clearPeerList client s = some (res, s')) :
    PeerShrink s s' ∧ s'.peers client = [] := by
  obtain ⟨hkeys, hclient, hlist, hcount⟩ := clearPeerList_count hs h
  refine ⟨⟨⟨hkeys.wellKeyed hs.keyed, hlist, ?_, ?_⟩, ?_, ?_⟩, hclient⟩
  · intro p q
    simp only [hcount, hs.graph.symm p q, or_comm]
  · intro p
    rw [hcount]
    split
    · rfl
    · exact hs.graph.irrefl p
  · intro k p hk
    rwa [hkeys.clientInfo] at hk
  · intro p q
    rw [hcount]
    split
    · exact Or.inl rfl
    · exact Or.inr rfl

end

end LibraDevice.LanToLan
