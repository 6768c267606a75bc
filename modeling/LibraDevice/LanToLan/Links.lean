import LibraDevice.LanToLan.Connections
import Mathlib.Logic.Relation

/-!
The link lists of a client table while no driver call fails: links come and go
in pairs, one in each direction.
-/

namespace LibraDevice.LanToLan

open Relation

/-- The number of links to `peer` in a list. -/
def linksWith (peer : ClientPtr) (l : List OffloadLinkInfo) : Nat :=
  l.countP fun x => x.peerPointer = peer

@[simp] theorem linksWith_nil (peer : ClientPtr) : linksWith peer [] = 0 := rfl

theorem linksWith_cons (peer : ClientPtr) (x : OffloadLinkInfo) (l : List OffloadLinkInfo) :
    linksWith peer (x :: l) = linksWith peer l + if x.peerPointer = peer then 1 else 0 := by
  rw [linksWith, List.countP_cons]
  simp only [decide_eq_true_eq]
  rfl

theorem linksWith_append (peer : ClientPtr) (l l' : List OffloadLinkInfo) :
    linksWith peer (l ++ l') = linksWith peer l + linksWith peer l' :=
  List.countP_append

theorem linksWith_eraseP (peer other : ClientPtr) (l : List OffloadLinkInfo) :
    linksWith other (l.eraseP fun x => x.peerPointer = peer) =
      linksWith other l - if other = peer then 1 else 0 := by
  induction l with
  | nil => simp
  | cons x l ih =>
      rw [List.eraseP_cons, linksWith_cons]
      rcases eq_or_ne x.peerPointer peer with rfl | hne
      · simp only [decide_true, cond_true, eq_comm (a := x.peerPointer)]
        omega
      · simp only [decide_eq_false hne, cond_false, linksWith_cons, ih]
        rcases eq_or_ne other peer with rfl | hother
        · rw [if_neg hne]
          rfl
        · rw [if_neg hother]
          rfl

theorem linksWith_eq_zero_iff {peer : ClientPtr} {l : List OffloadLinkInfo} :
    linksWith peer l = 0 ↔ l.find? (fun x => x.peerPointer = peer) = none := by
  rw [linksWith, List.countP_eq_zero, List.find?_eq_none]

theorem linksWith_pos_of_mem {l : List OffloadLinkInfo} {x : OffloadLinkInfo} (h : x ∈ l) :
    linksWith x.peerPointer l ≠ 0 := by
  intro hzero
  have hnot := List.countP_eq_zero.mp hzero x h
  simp at hnot

theorem find?_of_linksWith_ne_zero {peer : ClientPtr} {l : List OffloadLinkInfo}
    (h : linksWith peer l ≠ 0) : ∃ x, l.find? (fun x => x.peerPointer = peer) = some x := by
  cases hf : l.find? (fun x => x.peerPointer = peer) with
  | none => exact absurd (linksWith_eq_zero_iff.mpr hf) h
  | some x => exact ⟨x, rfl⟩

/-- As many links there as back, and none of a client to itself. -/
structure LinkGraph (links : ClientPtr → List OffloadLinkInfo) : Prop where
  symm : ∀ p q, linksWith q (links p) = linksWith p (links q)
  irrefl : ∀ p, linksWith p (links p) = 0

/-- One link in each direction is taken away. -/
def dropPair (links : ClientPtr → List OffloadLinkInfo) (p q : ClientPtr) :
    ClientPtr → List OffloadLinkInfo :=
  Function.update
    (Function.update links p ((links p).eraseP fun x => x.peerPointer = q))
    q ((links q).eraseP fun x => x.peerPointer = p)

/-- One link in each direction is added. -/
def addPair (links : ClientPtr → List OffloadLinkInfo) (p q : ClientPtr)
    (there back : OffloadLinkInfo) : ClientPtr → List OffloadLinkInfo :=
  Function.update (Function.update links p (links p ++ [there])) q (links q ++ [back])

theorem linksWith_dropPair {links : ClientPtr → List OffloadLinkInfo} {p q : ClientPtr}
    (hne : p ≠ q) (x y : ClientPtr) :
    linksWith y (dropPair links p q x) =
      linksWith y (links x) - if x = p ∧ y = q ∨ x = q ∧ y = p then 1 else 0 := by
  rw [dropPair]
  rcases eq_or_ne x q with rfl | hxq
  · rw [Function.update_self, linksWith_eraseP]
    simp only [hne.symm, false_and, true_and, false_or]
  · rw [Function.update_of_ne hxq]
    rcases eq_or_ne x p with rfl | hxp
    · rw [Function.update_self, linksWith_eraseP]
      simp only [hxq, false_and, true_and, or_false]
    · rw [Function.update_of_ne hxp]
      simp only [hxp, hxq, false_and, or_self, if_false, Nat.sub_zero]

theorem linksWith_addPair {links : ClientPtr → List OffloadLinkInfo} {p q : ClientPtr}
    (hne : p ≠ q) {there back : OffloadLinkInfo} (hthere : there.peerPointer = q)
    (hback : back.peerPointer = p) (x y : ClientPtr) :
    linksWith y (addPair links p q there back x) =
      linksWith y (links x) + if x = p ∧ y = q ∨ x = q ∧ y = p then 1 else 0 := by
  rw [addPair]
  rcases eq_or_ne x q with rfl | hxq
  · rw [Function.update_self, linksWith_append, linksWith_cons, hback]
    simp only [hne.symm, false_and, true_and, false_or, linksWith_nil, Nat.zero_add, eq_comm]
  · rw [Function.update_of_ne hxq]
    rcases eq_or_ne x p with rfl | hxp
    · rw [Function.update_self, linksWith_append, linksWith_cons, hthere]
      simp only [hxq, false_and, true_and, or_false, linksWith_nil, Nat.zero_add, eq_comm]
    · rw [Function.update_of_ne hxp]
      simp only [hxp, hxq, false_and, or_self, if_false, Nat.add_zero]

theorem LinkGraph.dropPair {links : ClientPtr → List OffloadLinkInfo} {p q : ClientPtr}
    (h : LinkGraph links) (hne : p ≠ q) : LinkGraph (dropPair links p q) := by
  constructor
  · intro x y
    rw [linksWith_dropPair hne, linksWith_dropPair hne, h.symm x y]
    simp only [or_comm, and_comm]
  · intro x
    rw [linksWith_dropPair hne, h.irrefl x, Nat.zero_sub]

theorem LinkGraph.addPair {links : ClientPtr → List OffloadLinkInfo} {p q : ClientPtr}
    (h : LinkGraph links) (hne : p ≠ q) {there back : OffloadLinkInfo}
    (hthere : there.peerPointer = q) (hback : back.peerPointer = p) :
    LinkGraph (addPair links p q there back) := by
  constructor
  · intro x y
    rw [linksWith_addPair hne hthere hback, linksWith_addPair hne hthere hback, h.symm x y]
    simp only [or_comm, and_comm]
  · intro x
    rw [linksWith_addPair hne hthere hback, h.irrefl x, if_neg]
    rintro (⟨rfl, heq⟩ | ⟨rfl, heq⟩)
    · exact hne heq
    · exact hne heq.symm

section

variable {κ ι δ : Type}

theorem links_setNode (s : LanState κ ι δ) (p : ClientPtr) (c : ClientInfo ι) :
    (s.setNode p c).links = Function.update s.links p c.link := by
  funext q
  rcases eq_or_ne q p with rfl | hne
  · rw [Function.update_self, links_of_node (node_setNode_self s q c)]
  · rw [Function.update_of_ne hne, LanState.links, node_setNode_of_ne s hne]
    rfl

theorem links_congr {s s' : LanState κ ι δ} (h : s'.node = s.node) : s'.links = s.links := by
  funext p
  rw [LanState.links, h]
  rfl

/-- Links, pairs, rules and flags are the same; the peers may differ. -/
structure SameLinking (s s' : LanState κ ι δ) : Prop where
  links : s'.links = s.links
  num : s'.numOffloadPair = s.numOffloadPair
  driver : s'.driver = s.driver
  flags : ∀ p, s'.flags p = s.flags p

namespace SameLinking

theorem refl (s : LanState κ ι δ) : SameLinking s s := ⟨rfl, rfl, rfl, fun _ => rfl⟩

theorem trans {s t u : LanState κ ι δ} (h : SameLinking s t) (h' : SameLinking t u) :
    SameLinking s u :=
  ⟨h'.links.trans h.links, h'.num.trans h.num, h'.driver.trans h.driver,
    fun p => (h'.flags p).trans (h.flags p)⟩

theorem setPeer {s : LanState κ ι δ} {p : ClientPtr} {c : ClientInfo ι} (hc : s.node p = some c)
    (peers : List PeerInfo) : SameLinking s (s.setNode p { c with peer := peers }) := by
  refine ⟨?_, rfl, rfl, ?_⟩
  · rw [links_setNode, ← links_of_node hc, Function.update_eq_self]
  · intro q
    rcases eq_or_ne q p with rfl | hne
    · rw [LanState.flags, LanState.flags, node_setNode_self, hc]
      rfl
    · rw [LanState.flags, LanState.flags, node_setNode_of_ne s hne]

end SameLinking

theorem clearPeerLoop_linking {client : ClientPtr} {rest : List PeerInfo} {s s' : LanState κ ι δ}
    {res : Bool} (h : clearPeerLoop client rest s = some (res, s')) : SameLinking s s' := by
  induction rest generalizing s with
  | nil =>
      simp only [clearPeerLoop, Option.bind_eq_bind, Option.bind_eq_some_iff] at h
      obtain ⟨c, hc, h⟩ := h
      cases h
      exact .setPeer hc []
  | cons e rest ih =>
      simp only [clearPeerLoop, Option.bind_eq_bind, Option.bind_eq_some_iff] at h
      obtain ⟨p, hp, h⟩ := h
      split at h
      · cases h
        exact .refl _
      · split at h
        · cases h
        · exact (SameLinking.setPeer hp _).trans (ih h)

theorem clearPeerList_linking {client : ClientPtr} {s s' : LanState κ ι δ} {res : Bool}
    (h : clearPeerList client s = some (res, s')) : SameLinking s s' := by
  simp only [clearPeerList, Option.bind_eq_bind, Option.bind_eq_some_iff] at h
  obtain ⟨c, hc, h⟩ := h
  exact clearPeerLoop_linking h

theorem addConnection_linking {p q : ClientPtr} {s s' : LanState κ ι δ} {res : Bool}
    (h : addConnection p q s = some (res, s')) : SameLinking s s' := by
  simp only [addConnection, Option.bind_eq_bind, Option.bind_eq_some_iff] at h
  obtain ⟨c, hc, b, hb, h⟩ := h
  cases h
  exact (SameLinking.setPeer hc _).trans (.setPeer hb _)

theorem removeConnection_linking {p q : ClientPtr} {s s' : LanState κ ι δ} {res : Bool}
    (h : removeConnection p q s = some (res, s')) : SameLinking s s' := by
  simp only [removeConnection, Option.bind_eq_bind, Option.bind_eq_some_iff] at h
  obtain ⟨c, hc, b, hb, h⟩ := h
  cases h
  exact (SameLinking.setPeer hc _).trans (.setPeer hb _)

/-- A driver none of whose calls fails. -/
structure AllSucceed (d : LanDriver ι δ) : Prop where
  addLan2lanHdr : ∀ iface t src dst s, (d.addLan2lanHdr iface t src dst s).1.isSome
  addLan2lanRtRule : ∀ iface t src dst hdr s, (d.addLan2lanRtRule iface t src dst hdr s).1.isSome
  addLan2lanFltRule : ∀ iface t src dst s, (d.addLan2lanFltRule iface t src dst s).1.isSome
  delLan2lanFltRule : ∀ iface t hdl s, (d.delLan2lanFltRule iface t hdl s).1 = true
  delLan2lanRtRule : ∀ iface t hdl s, (d.delLan2lanRtRule iface t hdl s).1 = true
  delLan2lanHdr : ∀ iface t hdl s, (d.delLan2lanHdr iface t hdl s).1 = true

variable (d : LanDriver ι δ) (iptype : IpType)

/-- A link in each direction is installed between two clients. -/
structure Linked (p q : ClientPtr) (s s' : LanState κ ι δ) : Prop where
  shape : SameShape s s'
  ne : p ≠ q
  room : s.numOffloadPair.toNat < maxOffloadPair
  num : s'.numOffloadPair = s.numOffloadPair + 1
  rules : ∃ cp cq there back drv, s.node p = some cp ∧ s.node q = some cq ∧
    addLinkRules d iptype cp cq s.driver = (some there, drv) ∧
    addLinkRules d iptype cq cp drv = (some back, s'.driver) ∧
    s'.links = addPair s.links p q ⟨q, there.1, there.2.1, there.2.2⟩
      ⟨p, back.1, back.2.1, back.2.2⟩

/-- The first links of two clients to each other are deleted. -/
structure Unlinked (p q : ClientPtr) (s s' : LanState κ ι δ) : Prop where
  shape : SameShape s s'
  ne : p ≠ q
  num : s'.numOffloadPair = s.numOffloadPair - 1
  links : s'.links = dropPair s.links p q
  rules : ∃ cp cq there back, s.node p = some cp ∧ s.node q = some cq ∧
    (s.links p).find? (fun x => x.peerPointer = q) = some there ∧
    (s.links q).find? (fun x => x.peerPointer = p) = some back ∧
    s'.driver = (delOffloadLink d iptype cq.pIface cp.pIface back
      (delOffloadLink d iptype cp.pIface cq.pIface there s.driver).2).2

variable {d iptype}

theorem Linked.graph {p q : ClientPtr} {s s' : LanState κ ι δ} (h : Linked d iptype p q s s')
    (hs : LinkGraph s.links) : LinkGraph s'.links := by
  obtain ⟨cp, cq, there, back, drv, -, -, -, -, hlinks⟩ := h.rules
  rw [hlinks]
  exact hs.addPair h.ne rfl rfl

theorem Linked.linksWith {p q : ClientPtr} {s s' : LanState κ ι δ}
    (h : Linked d iptype p q s s') (x y : ClientPtr) :
    linksWith y (s'.links x) =
      linksWith y (s.links x) + if x = p ∧ y = q ∨ x = q ∧ y = p then 1 else 0 := by
  obtain ⟨cp, cq, there, back, drv, -, -, -, -, hlinks⟩ := h.rules
  rw [hlinks]
  exact linksWith_addPair h.ne rfl rfl x y

theorem Unlinked.graph {p q : ClientPtr} {s s' : LanState κ ι δ}
    (h : Unlinked d iptype p q s s') (hs : LinkGraph s.links) : LinkGraph s'.links := by
  rw [h.links]
  exact hs.dropPair h.ne

theorem Unlinked.linksWith {p q : ClientPtr} {s s' : LanState κ ι δ}
    (h : Unlinked d iptype p q s s') (x y : ClientPtr) :
    linksWith y (s'.links x) =
      linksWith y (s.links x) - if x = p ∧ y = q ∨ x = q ∧ y = p then 1 else 0 := by
  rw [h.links]
  exact linksWith_dropPair h.ne x y

theorem delOffloadLink_ok (hd : AllSucceed d) (client peer : ι) (link : OffloadLinkInfo)
    (drv : δ) : (delOffloadLink d iptype client peer link drv).1 = true := by
  simp only [delOffloadLink, hd.delLan2lanFltRule, hd.delLan2lanRtRule, hd.delLan2lanHdr,
    Bool.and_self]

theorem exists_of_isSome {α : Type} {res : Option α × δ} (h : res.1.isSome) :
    ∃ a drv, res = (some a, drv) := by
  obtain ⟨a, ha⟩ := Option.isSome_iff_exists.mp h
  exact ⟨a, res.2, by rw [← ha]⟩

variable (iptype) in
theorem addLinkRules_ok (hd : AllSucceed d) (client peer : ClientInfo ι) (drv : δ) :
    ∃ rules drv', addLinkRules d iptype client peer drv = (some rules, drv') := by
  rw [addLinkRules]
  obtain ⟨hdr, drv₁, hhdr⟩ := exists_of_isSome
    (hd.addLan2lanHdr peer.pIface iptype client.macAddr peer.macAddr drv)
  rw [hhdr]
  dsimp only
  obtain ⟨rt, drv₂, hrt⟩ := exists_of_isSome
    (hd.addLan2lanRtRule peer.pIface iptype client.ip peer.ip hdr drv₁)
  rw [hrt]
  dsimp only
  obtain ⟨flt, drv₃, hflt⟩ := exists_of_isSome
    (hd.addLan2lanFltRule client.pIface iptype client.ip peer.ip drv₂)
  rw [hflt]
  exact ⟨_, _, rfl⟩

/-- Links of one client are deleted one after the other. -/
def Unlinks (d : LanDriver ι δ) (iptype : IpType) (client : ClientPtr) :
    LanState κ ι δ → LanState κ ι δ → Prop :=
  ReflTransGen fun s s' => ∃ q, Unlinked d iptype client q s s'

theorem Unlinks.shape {client : ClientPtr} {s s' : LanState κ ι δ}
    (h : Unlinks d iptype client s s') : SameShape s s' := by
  induction h with
  | refl => exact .refl s
  | tail _ hstep ih =>
      obtain ⟨q, hq⟩ := hstep
      exact ih.trans hq.shape

theorem Unlinks.graph {client : ClientPtr} {s s' : LanState κ ι δ}
    (h : Unlinks d iptype client s s') (hs : LinkGraph s.links) : LinkGraph s'.links := by
  induction h with
  | refl => exact hs
  | tail _ hstep ih =>
      obtain ⟨q, hq⟩ := hstep
      exact hq.graph ih

theorem node_of_linksWith_ne_zero {s : LanState κ ι δ} {p q : ClientPtr}
    (h : linksWith q (s.links p) ≠ 0) : ∃ c, s.node p = some c := by
  obtain ⟨x, hx⟩ := find?_of_linksWith_ne_zero h
  obtain ⟨c, hc, -⟩ := node_of_mem_links (List.mem_of_find?_eq_some hx)
  exact ⟨c, hc⟩

variable (iptype) in
theorem turnoffLoop_unlinks (hd : AllSucceed d) {client : ClientPtr}
    (todo : List OffloadLinkInfo) (s : LanState κ ι δ) (c : ClientInfo ι)
    (hc : s.node client = some c)
    (hgraph : LinkGraph (s.setNode client { c with link := todo }).links) :
    ∃ s', turnoffLoop d iptype client todo s = some (true, s') ∧
      Unlinks d iptype client (s.setNode client { c with link := todo }) s' ∧
      s'.links client = [] := by
  induction todo generalizing s with
  | nil =>
      refine ⟨s.setNode client { c with link := [] }, ?_, .refl, ?_⟩
      · rw [turnoffLoop, hc]
        rfl
      · rw [links_setNode, Function.update_self]
  | cons link rest ih =>
      have hlinks := links_setNode s client { c with link := link :: rest }
      have hhere : linksWith link.peerPointer
          ((s.setNode client { c with link := link :: rest }).links client) ≠ 0 := by
        rw [hlinks, Function.update_self]
        exact linksWith_pos_of_mem List.mem_cons_self
      have hne : link.peerPointer ≠ client := fun heq => by
        rw [heq, hgraph.irrefl client] at hhere
        exact hhere rfl
      have hback : linksWith client (s.links link.peerPointer) ≠ 0 := by
        have hsymm := hgraph.symm link.peerPointer client
        rw [hlinks, Function.update_of_ne hne] at hsymm
        rw [hsymm, ← hlinks]
        exact hhere
      obtain ⟨p, hp⟩ := node_of_linksWith_ne_zero hback
      obtain ⟨back, hfind⟩ := find?_of_linksWith_ne_zero hback
      have hplink := links_of_node hp
      rw [hplink] at hfind
      -- the state after one turn, with the links of the client as they will be
      generalize hnext : ({ s.setNode link.peerPointer
          { p with link := p.link.eraseP fun l => l.peerPointer = client } with
        numOffloadPair := s.numOffloadPair - 1
        driver := (delOffloadLink d iptype p.pIface c.pIface back
          (delOffloadLink d iptype c.pIface p.pIface link s.driver).2).2 } :
          LanState κ ι δ) = next
      have hnode : next.node = Function.update s.node link.peerPointer
          (some { p with link := p.link.eraseP fun l => l.peerPointer = client }) := by
        rw [← hnext]
        rfl
      have hcnext : next.node client = some c := by
        rw [hnode, Function.update_of_ne hne.symm, hc]
      have hturn : Unlinked d iptype client link.peerPointer
          (s.setNode client { c with link := link :: rest })
          (next.setNode client { c with link := rest }) := by
        refine ⟨?_, hne.symm, ?_, ?_, ?_⟩
        · refine ⟨by rw [← hnext]; rfl, by rw [← hnext]; rfl, ?_⟩
          intro x
          rcases eq_or_ne x client with rfl | hx
          · rw [node_setNode_self, node_setNode_self]
            rfl
          · rw [node_setNode_of_ne _ hx, node_setNode_of_ne _ hx, hnode]
            rcases eq_or_ne x link.peerPointer with rfl | hxl
            · rw [Function.update_self, hp]
              rfl
            · rw [Function.update_of_ne hxl]
        · rw [← hnext]
          rfl
        · funext x
          rw [dropPair, links_setNode, hlinks, Function.update_idem, Function.update_self,
            Function.update_of_ne hne, List.eraseP_cons_of_pos (by simp)]
          rcases eq_or_ne x link.peerPointer with rfl | hxl
          · rw [Function.update_self, Function.update_of_ne hne, hplink,
              links_of_node (c := { p with
                link := p.link.eraseP fun l => l.peerPointer = client })]
            rw [hnode, Function.update_self]
          · rw [Function.update_of_ne hxl]
            rcases eq_or_ne x client with rfl | hx
            · rw [Function.update_self, Function.update_self]
            · rw [Function.update_of_ne hx, Function.update_of_ne hx, LanState.links, hnode,
                Function.update_of_ne hxl]
              rfl
        · refine ⟨{ c with link := link :: rest }, p, link, back, node_setNode_self .., ?_, ?_, ?_,
            ?_⟩
          · rw [node_setNode_of_ne s hne, hp]
          · rw [hlinks, Function.update_self, List.find?_cons_of_pos (by simp)]
          · rw [hlinks, Function.update_of_ne hne, hplink, hfind]
          · rw [← hnext]
            rfl
      obtain ⟨s', hrun, hunlinks, hempty⟩ := ih next hcnext (hturn.graph hgraph)
      refine ⟨s', ?_, ReflTransGen.head ⟨_, hturn⟩ hunlinks, hempty⟩
      rw [turnoffLoop, hc]
      simp only [Option.bind_eq_bind, Option.bind_some, hp, delOffloadLink_ok hd, hfind,
        Bool.true_eq_false, if_false, if_neg hne]
      rw [hnext]
      exact hrun

variable (iptype) in
theorem turnoffOffloadLinks_unlinks (hd : AllSucceed d) {client : ClientPtr} {s : LanState κ ι δ}
    {c : ClientInfo ι} (hc : s.node client = some c) (hgraph : LinkGraph s.links) :
    ∃ s', turnoffOffloadLinks d iptype client s = some (true, s') ∧
      Unlinks d iptype client s s' ∧ s'.links client = [] := by
  have hself : s.setNode client { c with link := c.link } = s := by
    have hupdate : Function.update s.node client (some c) = s.node := by
      rw [← hc, Function.update_eq_self]
    rw [LanState.setNode]
    rw [hupdate]
  obtain ⟨s', hrun, hunlinks, hempty⟩ := turnoffLoop_unlinks iptype hd c.link s c hc
    (hself.symm ▸ hgraph)
  rw [hself] at hunlinks
  refine ⟨s', ?_, hunlinks, hempty⟩
  rw [turnoffOffloadLinks, hc]
  exact hrun

theorem addOffloadLink_full {p q : ClientPtr} {s : LanState κ ι δ}
    (h : iptype = .max ∨ maxOffloadPair ≤ s.numOffloadPair.toNat) :
    addOffloadLink d iptype p q s = some (false, s) :=
  if_pos h

theorem addOffloadLink_pair (hd : AllSucceed d) {p q : ClientPtr} (hne : p ≠ q)
    {s : LanState κ ι δ} {cp cq : ClientInfo ι} (hp : s.node p = some cp) (hq : s.node q = some cq)
    (htype : iptype ≠ .max) (hroom : s.numOffloadPair.toNat < maxOffloadPair) :
    ∃ t u, addOffloadLink d iptype p q s = some (true, t) ∧
      addOffloadLink d iptype q p t = some (true, u) ∧
      Linked d iptype p q s { u with numOffloadPair := u.numOffloadPair + 1 } := by
  have hopen : ¬(iptype = .max ∨ maxOffloadPair ≤ s.numOffloadPair.toNat) := by
    rintro (heq | hle)
    · exact htype heq
    · omega
  obtain ⟨there, drv, hthere⟩ := addLinkRules_ok iptype hd cp cq s.driver
  obtain ⟨back, drv', hback⟩ := addLinkRules_ok iptype hd cq cp drv
  generalize ht : ({ s.setNode p
    { cp with link := cp.link ++ [⟨q, there.1, there.2.1, there.2.2⟩] } with driver := drv } :
      LanState κ ι δ) = t
  generalize hu : ({ t.setNode q
    { cq with link := cq.link ++ [⟨p, back.1, back.2.1, back.2.2⟩] } with driver := drv' } :
      LanState κ ι δ) = u
  have htnode : t.node = Function.update s.node p
      (some { cp with link := cp.link ++ [⟨q, there.1, there.2.1, there.2.2⟩] }) := by
    rw [← ht]
    rfl
  have htq : t.node q = some cq := by
    rw [htnode, Function.update_of_ne hne.symm, hq]
  have htlinks : t.links =
      Function.update s.links p (s.links p ++ [⟨q, there.1, there.2.1, there.2.2⟩]) := by
    rw [links_of_node hp, ← ht]
    exact links_setNode s p _
  have hulinks : u.links = addPair s.links p q ⟨q, there.1, there.2.1, there.2.2⟩
      ⟨p, back.1, back.2.1, back.2.2⟩ := by
    rw [addPair, ← htlinks, links_of_node hq, ← hu]
    exact links_setNode t q _
  have hshape : SameShape s t := by
    rw [← ht]
    exact .of_setLink hp rfl rfl rfl
  have hshape' : SameShape t u := by
    rw [← hu]
    exact .of_setLink htq rfl rfl rfl
  have htnum : t.numOffloadPair = s.numOffloadPair := by
    rw [← ht]
    rfl
  have htdrv : t.driver = drv := by rw [← ht]
  refine ⟨t, u, ?_, ?_, ?_, hne, hroom, ?_, cp, cq, there, back, drv, hp, hq, hthere, ?_, ?_⟩
  · rw [addOffloadLink, if_neg hopen]
    simp only [hp, hq, Option.bind_eq_bind, Option.bind_some, hthere, ht]
  · rw [addOffloadLink, htnum, if_neg hopen]
    simp only [htnode, Function.update_self, Function.update_of_ne hne.symm, hq,
      Option.bind_eq_bind, Option.bind_some, htdrv]
    have hback' : addLinkRules d iptype cq
        { cp with link := cp.link ++ [⟨q, there.1, there.2.1, there.2.2⟩] } drv =
          (some back, drv') := hback
    rw [hback']
    exact congrArg (fun v => some (true, v)) hu
  · exact (hshape.trans hshape').trans (.of_node_eq rfl rfl rfl)
  · change u.numOffloadPair + 1 = s.numOffloadPair + 1
    rw [← hu, ← htnum]
    rfl
  · rw [hback, ← hu]
  · exact hulinks

theorem eraseLinkTo_none {p q : ClientPtr} {s : LanState κ ι δ} {cp : ClientInfo ι}
    (hp : s.node p = some cp) (hnone : linksWith q (s.links p) = 0) :
    eraseLinkTo d iptype p q s = some (false, s) := by
  rw [links_of_node hp, linksWith_eq_zero_iff] at hnone
  simp only [eraseLinkTo, hp, hnone, Option.bind_eq_bind, Option.bind_some]

variable (iptype) in
theorem eraseOffloadLink_spec (hd : AllSucceed d) {p q : ClientPtr} (hne : p ≠ q)
    {s : LanState κ ι δ} {cp cq : ClientInfo ι} (hp : s.node p = some cp) (hq : s.node q = some cq)
    (hgraph : LinkGraph s.links) :
    (linksWith q (s.links p) = 0 ∧ eraseOffloadLink d iptype p q s = some s) ∨
      (linksWith q (s.links p) ≠ 0 ∧
        ∃ s', eraseOffloadLink d iptype p q s = some s' ∧ Unlinked d iptype p q s s') := by
  rcases eq_or_ne (linksWith q (s.links p)) 0 with hzero | hlinked
  · refine Or.inl ⟨hzero, ?_⟩
    have hzero' : linksWith p (s.links q) = 0 := by rw [hgraph.symm q p, hzero]
    simp only [eraseOffloadLink, eraseLinkTo_none hp hzero, eraseLinkTo_none hq hzero',
      Option.bind_eq_bind, Option.bind_some, Bool.and_self, Bool.false_eq_true, if_false]
  · refine Or.inr ⟨hlinked, ?_⟩
    have hlinked' : linksWith p (s.links q) ≠ 0 := by rw [hgraph.symm q p]; exact hlinked
    obtain ⟨there, hthere⟩ := find?_of_linksWith_ne_zero hlinked
    obtain ⟨back, hback⟩ := find?_of_linksWith_ne_zero hlinked'
    have hthere' := hthere
    have hback' := hback
    rw [links_of_node hp] at hthere'
    rw [links_of_node hq] at hback'
    generalize ht :
      ({ s.setNode p { cp with link := cp.link.eraseP fun x => x.peerPointer = q } with
      driver := (delOffloadLink d iptype cp.pIface cq.pIface there s.driver).2 } :
        LanState κ ι δ) = t
    generalize hu :
      ({ t.setNode q { cq with link := cq.link.eraseP fun x => x.peerPointer = p } with
      driver := (delOffloadLink d iptype cq.pIface cp.pIface back t.driver).2 } :
        LanState κ ι δ) = u
    have htnode : t.node = Function.update s.node p
        (some { cp with link := cp.link.eraseP fun x => x.peerPointer = q }) := by
      rw [← ht]
      rfl
    have htq : t.node q = some cq := by
      rw [htnode, Function.update_of_ne hne.symm, hq]
    have hfirst : eraseLinkTo d iptype p q s = some (true, t) := by
      simp only [eraseLinkTo, hp, hq, hthere', Option.bind_eq_bind, Option.bind_some,
        delOffloadLink_ok hd, ht]
    have hsecond : eraseLinkTo d iptype q p t = some (true, u) := by
      simp only [eraseLinkTo, htq, hback', htnode, Function.update_self, Option.bind_eq_bind,
        Option.bind_some, delOffloadLink_ok hd]
      exact congrArg (fun v => some (true, v)) hu
    refine ⟨{ u with numOffloadPair := u.numOffloadPair - 1 }, ?_, ?_, hne, ?_, ?_,
      cp, cq, there, back, hp, hq, hthere, hback, ?_⟩
    · simp only [eraseOffloadLink, hfirst, hsecond, Option.bind_eq_bind, Option.bind_some,
        Bool.and_self, if_true]
    · refine ((eraseLinkTo_shape d _ hfirst).trans (eraseLinkTo_shape d _ hsecond)).trans ?_
      exact .of_node_eq rfl rfl rfl
    · rw [← hu, ← ht]
      rfl
    · have htlinks : t.links = Function.update s.links p
          ((s.links p).eraseP fun x => x.peerPointer = q) := by
        rw [links_of_node hp, ← ht]
        exact links_setNode s p _
      change u.links = _
      rw [dropPair, ← htlinks, links_of_node hq, ← hu]
      exact links_setNode t q _
    · rw [← hu, ← ht]

/-- The loop rule of `check_potential_link`: a pair is linked for every active
peer while there is room. -/
theorem checkPotentialLoop_rule (hd : AllSucceed d) (htype : iptype ≠ .max) {client : ClientPtr}
    {I : List PeerInfo → LanState κ ι δ → Prop}
    (hlink : ∀ e rest s s', I (e :: rest) s → s.awake e.peerPointer = true →
      Linked d iptype client e.peerPointer s s' → I rest s')
    (hskip : ∀ e rest s, I (e :: rest) s →
      (s.awake e.peerPointer = false ∨ maxOffloadPair ≤ s.numOffloadPair.toNat) → I rest s)
    (peers : List PeerInfo) (s : LanState κ ι δ) (hclient : (s.node client).isSome)
    (hpeers : ∀ e ∈ peers, e.peerPointer ≠ client ∧ (s.node e.peerPointer).isSome ∧
      0 < e.numConnection) (hI : I peers s) :
    ∃ s', checkPotentialLoop d iptype client peers s = some s' ∧ SameShape s s' ∧ I [] s' := by
  induction peers generalizing s with
  | nil => exact ⟨s, rfl, .refl s, hI⟩
  | cons e rest ih =>
      obtain ⟨hne, hsome, hpos⟩ := hpeers e List.mem_cons_self
      obtain ⟨p, hp⟩ := Option.isSome_iff_exists.mp hsome
      obtain ⟨c, hc⟩ := Option.isSome_iff_exists.mp hclient
      have hawake := awake_of_node hp
      have hrest : ∀ f ∈ rest, f.peerPointer ≠ client ∧ (s.node f.peerPointer).isSome ∧
          0 < f.numConnection := fun f hf => hpeers f (List.mem_cons_of_mem e hf)
      cases hactive : p.isActive with
      | false =>
          rw [hactive] at hawake
          obtain ⟨s', hrun, hshape, hI'⟩ := ih s hclient hrest (hskip e rest s hI (Or.inl hawake))
          refine ⟨s', ?_, hshape, hI'⟩
          simp only [checkPotentialLoop, hp, hactive, Option.bind_eq_bind, Option.bind_some,
            Bool.false_eq_true, false_and, if_false]
          exact hrun
      | true =>
          rw [hactive] at hawake
          rcases Nat.lt_or_ge s.numOffloadPair.toNat maxOffloadPair with hroom | hfull
          · obtain ⟨t, u, ht, hu, hlinked⟩ :=
              addOffloadLink_pair hd hne.symm hc hp htype hroom
            obtain ⟨s', hrun, hshape, hI'⟩ := ih _
              (by rw [hlinked.shape.isSome]; exact hclient)
              (by
                intro f hf
                rw [hlinked.shape.isSome]
                exact hrest f hf)
              (hlink e rest s _ hI hawake hlinked)
            refine ⟨s', ?_, hlinked.shape.trans hshape, hI'⟩
            simp only [checkPotentialLoop, hp, hactive, hpos, ht, hu, Option.bind_eq_bind,
              Option.bind_some, and_self, if_true]
            exact hrun
          · have hno : ∀ x y, addOffloadLink d iptype x y s = some (false, s) := fun x y =>
              addOffloadLink_full (Or.inr hfull)
            obtain ⟨s', hrun, hshape, hI'⟩ := ih s hclient hrest
              (hskip e rest s hI (Or.inr hfull))
            refine ⟨s', ?_, hshape, hI'⟩
            simp only [checkPotentialLoop, hp, hactive, hpos, hno, Option.bind_eq_bind,
              Option.bind_some, and_self, if_true, Bool.false_eq_true, if_false]
            exact hrun

end

end LibraDevice.LanToLan
