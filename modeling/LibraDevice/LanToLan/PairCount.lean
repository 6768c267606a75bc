import LibraDevice.LanToLan.Dangling
import LibraDevice.LanToLan.Effects
import LibraDevice.Lib.PairGraph

/-!
The offload pairs of a client table while no driver call fails: every two
clients are linked at most once, and the pairs are counted.
-/

namespace LibraDevice.LanToLan

open LibraDevice.StepRun
open LibraDevice.PairGraph

section

variable {κ ι δ : Type}

/-- How often two clients are linked. -/
def LanState.linked (s : LanState κ ι δ) (p q : ClientPtr) : Nat := linksWith q (s.links p)

/-- The pairs linked within `S` are counted, there is room for them, and no idle
client is linked. -/
structure Tally (S : Finset ClientPtr) (s : LanState κ ι δ) : Prop where
  simple : Simple S s.linked
  num : s.numOffloadPair.toNat = (pairs S s.linked).card
  room : s.numOffloadPair.toNat ≤ maxOffloadPair
  idle : ∀ p, s.flags p = some (false, false) → s.links p = []

namespace Tally

variable {S T : Finset ClientPtr} {s s' : LanState κ ι δ}

theorem graph (h : Tally S s) : LinkGraph s.links :=
  ⟨fun p q => h.simple.symm p q, fun p => h.simple.irrefl p⟩

theorem of_linked (h : Tally S s) (hlinked : s'.linked = s.linked)
    (hnum : s'.numOffloadPair = s.numOffloadPair)
    (hidle : ∀ p, s'.flags p = some (false, false) → s'.links p = []) : Tally S s' :=
  ⟨hlinked ▸ h.simple, by rw [hnum, hlinked, h.num], by rw [hnum]; exact h.room, hidle⟩

theorem tacit (h : Tally S s) (htacit : Tacit s s') : Tally S s' := by
  refine h.of_linked ?_ htacit.num ?_
  · funext p q
    rw [LanState.linked, htacit.links]
    rfl
  · intro p hp
    rw [htacit.links]
    rcases eq_or_ne (s.links p) [] with hnil | hsome
    · exact hnil
    · rw [htacit.flags p hsome] at hp
      exact h.idle p hp

theorem support_congr (h : Tally S s) (hT : ∀ p q, s.linked p q ≠ 0 → p ∈ T) : Tally T s := by
  have hsimple : Simple T s.linked := ⟨h.simple.symm, h.simple.irrefl, h.simple.le_one, hT⟩
  exact ⟨hsimple, by rw [h.num, h.simple.pairs_congr hsimple rfl], h.room, h.idle⟩

variable {d : LanDriver ι δ} {iptype : IpType} {p q : ClientPtr}

theorem unlinked (h : Tally S s) (hstep : Unlinked d iptype p q s s') : Tally S s' := by
  obtain ⟨-, -, there, -, -, -, hthere, -, -⟩ := hstep.rules
  have hone : s.linked p q ≠ 0 := by
    rw [LanState.linked, Ne, linksWith_eq_zero_iff, hthere]
    exact Option.some_ne_none there
  have hadj : ∀ x y, s'.linked x y = s.linked x y - if Ends p q x y then 1 else 0 :=
    hstep.linksWith
  have hcard := h.simple.card_part hstep.ne hadj hone
  have hpos : 1 ≤ s.numOffloadPair.toNat := by
    rw [h.num]
    omega
  have hnum : s'.numOffloadPair.toNat = s.numOffloadPair.toNat - 1 := by
    rw [hstep.num, UInt8.toNat_sub_of_le _ _ (by simpa [UInt8.le_iff_toNat_le] using hpos)]
    rfl
  refine ⟨h.simple.part hadj, ?_, ?_, ?_⟩
  · have hcount := h.num
    omega
  · have hroom := h.room
    omega
  · intro x hx
    rw [hstep.shape.flags_eq] at hx
    exact hstep.links_nil (h.idle x hx)

theorem unlinks {client : ClientPtr} (h : Tally S s) (hsteps : Unlinks d iptype client s s') :
    Tally S s' := by
  induction hsteps with
  | refl => exact h
  | tail _ hstep ih =>
      obtain ⟨q, hq⟩ := hstep
      exact ih.unlinked hq

theorem linked (h : Tally S s) (hstep : Linked d iptype p q s s') (hp : p ∈ S) (hq : q ∈ S)
    (hpawake : s.awake p = true) (hqawake : s.awake q = true) (hzero : s.linked p q = 0) :
    Tally S s' := by
  have hadj : ∀ x y, s'.linked x y = s.linked x y + if Ends p q x y then 1 else 0 :=
    hstep.linksWith
  have hcard := h.simple.card_join hstep.ne hadj hp hq hzero
  have hnum : s'.numOffloadPair.toNat = s.numOffloadPair.toNat + 1 := by
    have hroom := hstep.room
    rw [maxOffloadPair] at hroom
    rw [hstep.num, UInt8.toNat_add]
    change (s.numOffloadPair.toNat + 1) % 256 = _
    exact Nat.mod_eq_of_lt (by omega)
  refine ⟨h.simple.join hstep.ne hadj hp hq hzero, ?_, ?_, ?_⟩
  · rw [hnum, hcard, h.num]
  · have hroom := hstep.room
    omega
  · intro x hx
    rw [hstep.shape.flags_eq] at hx
    have hasleep : s.awake x = false := by
      rw [LanState.awake, hx]
      rfl
    have hnil := h.idle x hx
    rw [links_eq_nil_iff] at hnil ⊢
    intro y
    have hxy := hadj x y
    rw [if_neg] at hxy
    · exact hxy.trans (hnil y)
    · rintro (⟨rfl, -⟩ | ⟨rfl, -⟩)
      · rw [hasleep] at hpawake
        cases hpawake
      · rw [hasleep] at hqawake
        cases hqawake

end Tally

/-- Among the peers still to be looked at, one that is active and linked already
is reached while there is room. -/
def Relinks (s : LanState κ ι δ) (client : ClientPtr) (todo : List PeerInfo) : Prop :=
  ∃ before e after, todo = before ++ e :: after ∧ s.awake e.peerPointer = true ∧
    s.linked client e.peerPointer ≠ 0 ∧
      s.numOffloadPair.toNat + before.countP (fun b => s.awake b.peerPointer) < maxOffloadPair

/-- Linked clients are peers. -/
def Peered (s : LanState κ ι δ) : Prop := ∀ p q, s.linked p q ≠ 0 → countOf q (s.peers p) ≠ 0

theorem SameShape.awake_eq {s s' : LanState κ ι δ} (h : SameShape s s') (p : ClientPtr) :
    s'.awake p = s.awake p := by
  rw [LanState.awake, LanState.awake, h.flags_eq]

/-- What holds while the loop has `todo` before it. -/
structure Checking (S : Finset ClientPtr) (client : ClientPtr) (todo : List PeerInfo)
    (s : LanState κ ι δ) : Prop where
  tally : Tally S s
  graph : PeerGraph s.peers
  peered : Peered s
  mem : client ∈ S ∧ ∀ e ∈ todo, e.peerPointer ∈ S
  awake : s.awake client = true
  nodup : (todo.map PeerInfo.peerPointer).Nodup
  isPeer : ∀ e ∈ todo, countOf e.peerPointer (s.peers client) ≠ 0
  once : ¬Relinks s client todo

theorem Checking.skip {S : Finset ClientPtr} {client : ClientPtr} {e : PeerInfo}
    {rest : List PeerInfo} {s : LanState κ ι δ} (h : Checking S client (e :: rest) s)
    (hskip : s.awake e.peerPointer = false ∨ maxOffloadPair ≤ s.numOffloadPair.toNat) :
    Checking S client rest s := by
  refine ⟨h.tally, h.graph, h.peered, ⟨h.mem.1, fun x hx => h.mem.2 x (List.mem_cons_of_mem e hx)⟩,
    h.awake, (List.nodup_cons.mp h.nodup).2, fun x hx => h.isPeer x (List.mem_cons_of_mem e hx), ?_⟩
  rintro ⟨before, x, after, rfl, hx, hlinked, hroom⟩
  rcases hskip with hasleep | hfull
  · refine h.once ⟨e :: before, x, after, rfl, hx, hlinked, ?_⟩
    rw [List.countP_cons_of_neg (by rw [hasleep]; decide)]
    exact hroom
  · omega

theorem Checking.link {d : LanDriver ι δ} {iptype : IpType} {S : Finset ClientPtr}
    {client : ClientPtr} {e : PeerInfo} {rest : List PeerInfo} {s s' : LanState κ ι δ}
    (h : Checking S client (e :: rest) s) (hawake : s.awake e.peerPointer = true)
    (hstep : Linked d iptype client e.peerPointer s s') : Checking S client rest s' := by
  have hroom := hstep.room
  have hzero : s.linked client e.peerPointer = 0 := by
    by_contra hlinked
    exact h.once ⟨[], e, rest, rfl, hawake, hlinked, hroom⟩
  have hpeers : s'.peers = s.peers := funext hstep.shape.peers_eq
  have hnum : s'.numOffloadPair.toNat = s.numOffloadPair.toNat + 1 := by
    rw [maxOffloadPair] at hroom
    rw [hstep.num, UInt8.toNat_add]
    change (s.numOffloadPair.toNat + 1) % 256 = _
    exact Nat.mod_eq_of_lt (by omega)
  have hadj : ∀ x y, s'.linked x y =
      s.linked x y + if Ends client e.peerPointer x y then 1 else 0 := hstep.linksWith
  obtain ⟨hnot, hnodup⟩ := List.nodup_cons.mp h.nodup
  have hself := h.isPeer e List.mem_cons_self
  refine ⟨h.tally.linked hstep h.mem.1 (h.mem.2 e List.mem_cons_self) h.awake hawake hzero,
    hpeers ▸ h.graph, ?_, ⟨h.mem.1, fun x hx => h.mem.2 x (List.mem_cons_of_mem e hx)⟩, ?_,
    hnodup, ?_, ?_⟩
  · intro x y hxy
    rw [hpeers]
    rw [hadj] at hxy
    split at hxy
    case isTrue hends =>
      rcases hends with ⟨rfl, rfl⟩ | ⟨rfl, rfl⟩
      · exact hself
      · rw [h.graph.symm]
        exact hself
    case isFalse => exact h.peered x y hxy
  · rw [hstep.shape.awake_eq, h.awake]
  · intro x hx
    rw [hpeers]
    exact h.isPeer x (List.mem_cons_of_mem e hx)
  · rintro ⟨before, x, after, hrest, hx, hlinked, hroom'⟩
    rw [hstep.shape.awake_eq] at hx
    have hmem : x ∈ rest := by
      rw [hrest]
      exact List.mem_append_right _ List.mem_cons_self
    have hne : x.peerPointer ≠ e.peerPointer := fun heq =>
      hnot (heq ▸ List.mem_map_of_mem hmem)
    rw [hadj, if_neg] at hlinked
    · refine h.once ⟨e :: before, x, after, by rw [hrest, List.cons_append], hx, hlinked, ?_⟩
      rw [List.countP_cons_of_pos (by exact hawake)]
      have hsame : before.countP (fun b => s'.awake b.peerPointer) =
          before.countP (fun b => s.awake b.peerPointer) := by
        simp only [hstep.shape.awake_eq]
      omega
    · rintro (⟨-, heq⟩ | ⟨heq, -⟩)
      · exact hne heq
      · exact hstep.ne heq

theorem Checking.loop {d : LanDriver ι δ} {iptype : IpType} (hd : AllSucceed d)
    (htype : iptype ≠ .max) {S : Finset ClientPtr} {client : ClientPtr} {todo : List PeerInfo}
    {s s' : LanState κ ι δ} (h : Checking S client todo s)
    (hpos : ∀ e ∈ todo, 0 < e.numConnection)
    (hrun : checkPotentialLoop d iptype client todo s = some s') : Checking S client [] s' := by
  have hclient : (s.node client).isSome := by
    have hawake := h.awake
    rw [LanState.awake, LanState.flags] at hawake
    cases hc : s.node client with
    | none =>
        rw [hc] at hawake
        cases hawake
    | some c => rfl
  obtain ⟨t, ht, -, hcheck⟩ := checkPotentialLoop_rule hd htype
    (fun e rest u u' hu => hu.link) (fun e rest u hu => hu.skip) todo s hclient (by
      intro e he
      have hcount := h.isPeer e he
      refine ⟨?_, ?_, hpos e he⟩
      · intro heq
        rw [heq] at hcount
        exact hcount (h.graph.irrefl client)
      · rw [h.graph.symm] at hcount
        exact isSome_of_count_ne_zero hcount) h
  rw [ht] at hrun
  cases hrun
  exact hcheck

structure PairInv (s : LanState κ ι δ) : Prop where
  peers : PeerInv s
  tally : Tally (Finset.range s.nextNode) s
  peered : Peered s

theorem PairInv.base {s : LanState κ ι δ} (h : PairInv s) : LinkBase s :=
  ⟨h.peers, h.tally.graph, h.tally.idle⟩

theorem PairInv.mem_range {s : LanState κ ι δ} (h : PeerInv s) {p : ClientPtr}
    (hp : (s.node p).isSome) : p ∈ Finset.range s.nextNode :=
  Finset.mem_range.mpr (h.keyed.lt_nextNode p hp)

theorem PairInv.of_tally {s : LanState κ ι δ} {S : Finset ClientPtr} (hpeers : PeerInv s)
    (htally : Tally S s) (hpeered : Peered s) : PairInv s := by
  refine ⟨hpeers, htally.support_congr ?_, hpeered⟩
  intro p q hpq
  obtain ⟨c, hc⟩ := node_of_linksWith_ne_zero hpq
  apply PairInv.mem_range hpeers
  rw [hc]
  rfl

theorem Unlinks.fewer {d : LanDriver ι δ} {iptype : IpType} {client : ClientPtr}
    {s s' : LanState κ ι δ} (h : Unlinks d iptype client s s') : FewerLinks s s' := by
  induction h with
  | refl => exact fun _ _ => Nat.le_refl _
  | tail _ hstep ih =>
      obtain ⟨q, hq⟩ := hstep
      apply ih.trans
      intro x y
      rw [hq.linksWith]
      exact Nat.sub_le _ _

theorem Tally.setNode {S : Finset ClientPtr} {s : LanState κ ι δ} (h : Tally S s)
    {client : ClientPtr} {c x : ClientInfo ι} (hc : s.node client = some c)
    (hlink : x.link = c.link) (hflags : x.isActive = true ∨ x.isPowersave = true) :
    Tally S (s.setNode client x) := by
  have hlinks : (s.setNode client x).links = s.links := by
    rw [links_setNode, hlink, ← links_of_node hc, Function.update_eq_self]
  refine h.of_linked ?_ rfl ?_
  · funext p q
    rw [LanState.linked, hlinks]
    rfl
  · intro p hp
    rw [hlinks]
    rcases eq_or_ne p client with rfl | hne
    · rw [LanState.flags, node_setNode_self, Option.map_some, Option.some.injEq,
        Prod.mk.injEq] at hp
      rcases hflags with htrue | htrue
      · rw [htrue] at hp
        cases hp.1
      · rw [htrue] at hp
        cases hp.2
    · rw [LanState.flags, node_setNode_of_ne s hne] at hp
      exact h.idle p hp

theorem PairInv.checking {s t : LanState κ ι δ} {S : Finset ClientPtr} (hs : PeerInv s)
    (htally : Tally S t) {client : ClientPtr} {c c' x : ClientInfo ι} (hshape : SameShape s t)
    (hc : s.node client = some c) (hc' : t.node client = some c') (hlink : x.link = c'.link)
    (hpeer : x.peer = c'.peer) (hactive : x.isActive = true) (hlinked : t.linked = s.linked)
    (hnum : t.numOffloadPair = s.numOffloadPair) (hpeered : Peered s)
    (hS : S = Finset.range s.nextNode) (hok : ¬Relinks s client (s.peers client)) :
    Checking S client c.peer (t.setNode client x) := by
  have hcpeer := peers_of_node hc
  have hpeers : (t.setNode client x).peers = s.peers := by
    have ht : t.peers = s.peers := funext hshape.peers_eq
    rw [peers_setNode, hpeer, ← peers_of_node hc', Function.update_eq_self, ht]
  have hlinks : (t.setNode client x).linked = s.linked := by
    rw [← hlinked]
    funext p q
    rw [LanState.linked, links_setNode, hlink, ← links_of_node hc', Function.update_eq_self]
    rfl
  have hlist := hs.graph.list client
  rw [hcpeer] at hlist
  have hother : ∀ e ∈ c.peer, e.peerPointer ≠ client := fun e he => (hs.graph.of_mem hc he).1
  have hawake : ∀ p, p ≠ client → (t.setNode client x).awake p = s.awake p := by
    intro p hp
    rw [← hshape.awake_eq, LanState.awake, LanState.flags, node_setNode_of_ne t hp]
    rfl
  refine ⟨htally.setNode hc' hlink (Or.inl hactive), hpeers ▸ hs.graph, ?_, ?_, ?_, hlist.nodup,
    ?_, ?_⟩
  · intro p q hpq
    rw [hlinks] at hpq
    rw [hpeers]
    exact hpeered p q hpq
  · rw [hS]
    exact ⟨PairInv.mem_range hs (by rw [hc]; rfl),
      fun e he => PairInv.mem_range hs (hs.graph.of_mem hc he).2⟩
  · rw [awake_of_node (node_setNode_self t client x), hactive]
  · intro e he
    rw [hpeers, hcpeer]
    exact hlist.countOf_ne_zero_of_mem he
  · rintro ⟨before, e, after, hsplit, he, hlinked', hroom⟩
    have hmem : ∀ f ∈ before ++ e :: after, f.peerPointer ≠ client := hsplit ▸ hother
    refine hok ⟨before, e, after, hcpeer.trans hsplit, ?_, hlinks ▸ hlinked', ?_⟩
    · rw [← hawake _ (hmem e (by simp))]
      exact he
    · have hcount : before.countP (fun b => s.awake b.peerPointer) =
          before.countP (fun b => (t.setNode client x).awake b.peerPointer) := by
        apply List.countP_congr
        intro f hf
        rw [hawake _ (hmem f (List.mem_append_left _ hf))]
      rw [hcount, ← hnum]
      exact hroom

theorem PairInv.turnedOff {s t s' : LanState κ ι δ} (hs : PairInv s) {d : LanDriver ι δ}
    {iptype : IpType} {client : ClientPtr} (hunlinks : Unlinks d iptype client s t)
    (hempty : t.links client = []) (htacit : Tacit t s')
    (hcounts : ∀ p q, p ≠ client → q ≠ client →
      countOf q (s'.peers p) = countOf q (s.peers p)) :
    Tally (Finset.range s.nextNode) s' ∧ Peered s' := by
  have ht := hs.tally.unlinks hunlinks
  refine ⟨ht.tacit htacit, ?_⟩
  intro p q hpq
  rw [LanState.linked, htacit.links] at hpq
  have hp : p ≠ client := by
    rintro rfl
    rw [hempty] at hpq
    exact hpq rfl
  have hq : q ≠ client := by
    rintro rfl
    rw [ht.graph.symm, hempty] at hpq
    exact hpq rfl
  rw [hcounts p q hp hq]
  apply hs.peered
  have hle := hunlinks.fewer p q
  change linksWith q (s.links p) ≠ 0
  omega

theorem PairInv.suspended {s t : LanState κ ι δ} (hs : PairInv s) {d : LanDriver ι δ}
    {iptype : IpType} {client : ClientPtr} {c : ClientInfo ι} (hc : s.node client = some c)
    (hremoved : removeFltLoop d iptype client c.link s = some (true, t)) :
    Tally (Finset.range s.nextNode)
        (t.setNode client { c with isActive := false, isPowersave := true }) ∧
      Peered (t.setNode client { c with isActive := false, isPowersave := true }) := by
  have htable := removeFltLoop_table hremoved
  obtain ⟨table, drv⟩ := t
  cases htable
  have ht : Tally (Finset.range s.nextNode) (⟨s.toClientTable, drv⟩ : LanState κ ι δ) :=
    hs.tally.of_linked rfl rfl hs.tally.idle
  refine ⟨ht.setNode hc rfl (Or.inr rfl), ?_⟩
  intro p q hpq
  rw [LanState.linked, links_setNode] at hpq
  rw [peers_setNode]
  rcases eq_or_ne p client with rfl | hne
  · rw [Function.update_self] at hpq ⊢
    rw [← peers_of_node hc]
    exact hs.peered p q (by rw [LanState.linked, links_of_node hc]; exact hpq)
  · rw [Function.update_of_ne hne] at hpq ⊢
    exact hs.peered p q hpq

theorem PairInv.resumed {s t s' : LanState κ ι δ} (hs : PairInv s) {d : LanDriver ι δ}
    (hd : AllSucceed d) {iptype : IpType} (htype : iptype ≠ .max) {client : ClientPtr}
    {c c' : ClientInfo ι} (hok : ¬Relinks s client (s.peers client))
    (hc : s.node client = some c)
    (hadded : addFltLoop d iptype client c.link.length 0 s = some (true, t))
    (hc' : t.node client = some c')
    (hrun : checkPotentialLoop d iptype client c.peer
      (t.setNode client { c' with isActive := true, isPowersave := false }) = some s') :
    Tally (Finset.range s.nextNode) s' ∧ Peered s' := by
  have hshape := addFltLoop_shape d _ hadded
  obtain ⟨hnum, htargets⟩ := addFltLoop_targets hadded
  have hlinked : t.linked = s.linked := by
    funext p q
    exact htargets.linksWith p q
  have ht : Tally (Finset.range s.nextNode) t := by
    refine hs.tally.of_linked hlinked hnum ?_
    intro p hp
    rw [hshape.flags_eq] at hp
    have hnil := hs.tally.idle p hp
    rw [links_eq_nil_iff] at hnil ⊢
    intro q
    rw [htargets.linksWith, hnil]
  have hcheck := PairInv.checking (x := { c' with isActive := true, isPowersave := false })
    hs.peers ht hshape hc hc' rfl rfl rfl hlinked hnum hs.peered rfl hok
  have hlist := hs.peers.graph.list client
  rw [peers_of_node hc] at hlist
  have hdone := hcheck.loop hd htype hlist.pos hrun
  exact ⟨hdone.tally, hdone.peered⟩

theorem PairInv.connected {s t s' : LanState κ ι δ} (hs : PairInv s) (hpeers : PeerInv s')
    {d : LanDriver ι δ} {iptype : IpType} {src dst : κ} {p q : ClientPtr}
    (hsrc : s.clientInfo src = some p) (hdst : s.clientInfo dst = some q)
    (hzero : countOf q (s.peers p) = 0) (hlinking : SameLinking s t)
    (hpawake : t.awake p = true) (hqawake : t.awake q = true) (hlink : Linked d iptype p q t s')
    (hcounts : KeepsCounts s s') (hnew : countOf q (s'.peers p) ≠ 0) :
    Tally (Finset.range s.nextNode) s' ∧ Peered s' := by
  have ht := hs.tally.tacit (.of_linking hlinking)
  have hp := PairInv.mem_range hs.peers (hs.peers.keyed.node_of_key _ _ hsrc)
  have hq := PairInv.mem_range hs.peers (hs.peers.keyed.node_of_key _ _ hdst)
  have hapart : s.linked p q = 0 := by
    by_contra hlinked
    exact hs.peered p q hlinked hzero
  have hadj : ∀ x y, LanState.linked s' x y =
      s.linked x y + if Ends p q x y then 1 else 0 := by
    intro x y
    rw [LanState.linked, hlink.linksWith, hlinking.links]
    rfl
  refine ⟨ht.linked hlink hp hq hpawake hqawake ?_, ?_⟩
  · rw [LanState.linked, hlinking.links]
    exact hapart
  · intro x y hxy
    rw [hadj] at hxy
    split at hxy
    case isTrue hends =>
      rcases hends with ⟨rfl, rfl⟩ | ⟨rfl, rfl⟩
      · exact hnew
      · rw [hpeers.graph.symm]
        exact hnew
    case isFalse => exact hcounts x y (hs.peered x y hxy) hxy

theorem PairInv.parted {s t u v s' : LanState κ ι δ} (hs : PairInv s) {d : LanDriver ι δ}
    {iptype : IpType} {p q : ClientPtr} (hlinking : SameLinking s t)
    (hfirst : Unlinked d iptype p q t u ∨ Unlinked d iptype q p t u)
    (hagain : v = u ∨ ¬(s.awake p = true ∧ s.awake q = true) ∧ linksWith q (u.links p) ≠ 0 ∧
      Unlinked d iptype q p u v)
    (htacit : Tacit v s')
    (hcounts : ∀ x y, ¬Ends p q x y → countOf y (s'.peers x) = countOf y (s.peers x)) :
    Tally (Finset.range s.nextNode) s' ∧ Peered s' := by
  have ht := hs.tally.tacit (.of_linking hlinking)
  have hu : Tally (Finset.range s.nextNode) u ∧
      ∀ x y, u.linked x y = s.linked x y - if Ends p q x y then 1 else 0 := by
    have hsame : t.linked = s.linked := by
      funext x y
      rw [LanState.linked, hlinking.links]
      rfl
    rcases hfirst with hfirst | hfirst
    · refine ⟨ht.unlinked hfirst, ?_⟩
      intro x y
      rw [← hsame]
      exact hfirst.linksWith x y
    · refine ⟨ht.unlinked hfirst, ?_⟩
      intro x y
      rw [← hsame]
      refine (hfirst.linksWith x y).trans ?_
      simp only [Ends, or_comm]
      rfl
  have hapart : u.linked p q = 0 := by
    have hle := hs.tally.simple.le_one p q
    have hself : Ends p q p q := Or.inl ⟨rfl, rfl⟩
    rw [hu.2, if_pos hself]
    omega
  have hvu : v = u := by
    rcases hagain with heq | ⟨-, hmore, -⟩
    · exact heq
    · exact absurd hapart hmore
  subst hvu
  refine ⟨hu.1.tacit htacit, ?_⟩
  intro x y hxy
  rw [LanState.linked, htacit.links] at hxy
  change LanState.linked v x y ≠ 0 at hxy
  have hnot : ¬Ends p q x y := by
    rintro (⟨rfl, rfl⟩ | ⟨rfl, rfl⟩)
    · exact hxy hapart
    · rw [hu.1.simple.symm] at hxy
      exact hxy hapart
  rw [hcounts x y hnot]
  apply hs.peered
  rw [hu.2, if_neg hnot] at hxy
  exact hxy

variable [DecidableEq κ] {d : LanDriver ι δ}

/-- The condition on a state and an event: no pair is linked a second time. -/
def LinksOnce (s : LanState κ ι δ) : TableEvent κ ι → Prop
  | .client .active key _ =>
    ∀ client, s.clientInfo key = some client → s.awake client = false →
      ¬Relinks s client (s.peers client)
  | .client .powerRecover key _ =>
    ∀ client, s.clientInfo key = some client → s.flags client = some (false, true) →
      ¬Relinks s client (s.peers client)
  | _ => True

omit [DecidableEq κ] in
theorem Effect.tally (hd : AllSucceed d) {e : TableEvent κ ι} {s s' : LanState κ ι δ}
    (hchecked : e.Checked) (hok : LinksOnce s e) (hs : PairInv s) (hpeers : PeerInv s')
    (h : Effect d s e s') : Tally (Finset.range s.nextNode) s' ∧ Peered s' := by
  cases h with
  | tacit htacit hcounts =>
      refine ⟨hs.tally.tacit htacit, ?_⟩
      intro p q hpq
      rw [LanState.linked, htacit.links] at hpq
      exact hcounts p q (hs.peered p q hpq) hpq
  | turnedOff _ _ _ hunlinks hempty htacit hcounts =>
      exact hs.turnedOff hunlinks hempty htacit hcounts
  | @reactivated key data client c _ hkey hc hinactive hrun =>
      have hawake : s.awake client = false := by rw [awake_of_node hc, hinactive]
      have hcheck := PairInv.checking (x := c.update data) hs.peers hs.tally (.refl s) hc hc rfl
        rfl rfl rfl rfl hs.peered rfl (hok client hkey hawake)
      have hlist := hs.peers.graph.list client
      rw [peers_of_node hc] at hlist
      have hdone := hcheck.loop hd hchecked hlist.pos hrun
      exact ⟨hdone.tally, hdone.peered⟩
  | suspended _ hc hremoved => exact hs.suspended hc hremoved
  | @resumed key data client c c' t _ hkey hc hinactive hps hadded hc' hrun =>
      have hflags : s.flags client = some (false, true) := by
        rw [LanState.flags, hc, Option.map_some, hinactive, hps]
      exact hs.resumed hd hchecked (hok client hkey hflags) hc hadded hc' hrun
  | connected hsrc hdst hzero hlinking hpawake hqawake hlink hcounts hnew =>
      exact hs.connected hpeers hsrc hdst hzero hlinking hpawake hqawake hlink hcounts hnew
  | parted _ _ _ _ hlinking hfirst hagain htacit hcounts =>
      exact hs.parted hlinking hfirst hagain htacit hcounts

theorem tableStep_pairInv (hd : AllSucceed d) {e : TableEvent κ ι} {s s' : LanState κ ι δ}
    (hdistinct : e.Distinct) (hchecked : e.Checked) (hok : LinksOnce s e) (hs : PairInv s)
    (h : tableStep d s e = some s') : PairInv s' := by
  have hpeers := (tableStep_peers hdistinct hs.peers h).inv
  obtain ⟨htally, hpeered⟩ :=
    (tableStep_effect hd hdistinct hs.base h).tally hd hchecked hok hs hpeers
  exact .of_tally hpeers htally hpeered

end

/-- The unordered pairs of linked clients. -/
def linkedPairs {κ ι : Type} (t : ClientTable κ ι) : Finset (ClientPtr × ClientPtr) :=
  pairs (Finset.range t.nextNode) (⟨t, ()⟩ : LanState κ ι Unit).linked

/-- Links are unique, answered, counted and limited. -/
structure PairsCounted {κ ι : Type} (t : ClientTable κ ι) : Prop where
  unique : ∀ p q c, t.node p = some c → linksWith q c.link ≤ 1
  symm : ∀ p q c c', t.node p = some c → t.node q = some c' →
    (linksWith q c.link = 1 ↔ linksWith p c'.link = 1)
  num : t.numOffloadPair.toNat = (linkedPairs t).card
  room : t.numOffloadPair.toNat ≤ maxOffloadPair

theorem PairInv.pairsCounted {κ ι δ : Type} {s : LanState κ ι δ} (h : PairInv s) :
    PairsCounted s.toClientTable := by
  refine ⟨?_, ?_, h.tally.num, h.tally.room⟩
  · intro p q c hc
    rw [← links_of_node hc]
    exact h.tally.simple.le_one p q
  · intro p q c c' hc hc'
    rw [← links_of_node hc, ← links_of_node hc', h.tally.graph.symm]

theorem PairInv.of_driver {κ ι δ ε : Type} {t : ClientTable κ ι} {drv : δ} (drv' : ε)
    (h : PairInv (⟨t, drv⟩ : LanState κ ι δ)) : PairInv (⟨t, drv'⟩ : LanState κ ι ε) :=
  ⟨h.peers.of_driver drv', ⟨h.tally.simple, h.tally.num, h.tally.room, h.tally.idle⟩, h.peered⟩

theorem pairInv_empty {κ ι δ : Type} (drv : δ) :
    PairInv (⟨ClientTable.empty, drv⟩ : LanState κ ι δ) := by
  refine ⟨peerInv_empty drv, ⟨⟨?_, ?_, ?_, ?_⟩, rfl, Nat.zero_le _, ?_⟩, ?_⟩
  · exact fun _ _ => rfl
  · exact fun _ => rfl
  · exact fun _ _ => Nat.zero_le _
  · exact fun _ _ h => absurd rfl h
  · exact fun _ _ => rfl
  · exact fun _ _ h => absurd rfl h

section

variable {ι δ : Type} (d : LanDriver ι δ)

/-- As long as no event links a pair a second time, links are unique, answered
and counted in both tables, and the next event is handled to its end. -/
theorem pairsCounted_of_run (hd : AllSucceed d) (drv : δ) (es : List (LanEvent ι))
    (s : Lan2Lan ι δ)
    (hrun : Run (Guarded (OnTables LinksOnce LinksOnce) (LanStep d)) (Lan2Lan.init drv) es s) :
    PairsCounted s.v4 ∧ PairsCounted s.v6 ∧
      ∀ e : LanEvent ι, e.Distinct → (eventCallback d s e).isSome := by
  obtain ⟨h4, h6⟩ := invariant_of_run
    (fun t => PairInv (⟨t, ()⟩ : LanState UInt32 ι Unit))
    (fun t => PairInv (⟨t, ()⟩ : LanState UInt64 ι Unit))
    (fun e s s' hdistinct hchecked hok hs h =>
      (tableStep_pairInv hd hdistinct hchecked hok (hs.of_driver s.driver) h).of_driver ())
    (fun e s s' hdistinct hchecked hok hs h =>
      (tableStep_pairInv hd hdistinct hchecked hok (hs.of_driver s.driver) h).of_driver ())
    (pairInv_empty ()) (pairInv_empty ()) hrun
  refine ⟨h4.pairsCounted, h6.pairsCounted, ?_⟩
  intro e hdistinct
  apply eventCallback_isSome hdistinct
  · exact ⟨h4.peers, h4.tally.graph.valid⟩
  · exact ⟨h6.peers, h6.tally.graph.valid⟩

end

theorem allSucceed_countingDriver : AllSucceed countingDriver :=
  ⟨fun _ _ _ _ _ => rfl, fun _ _ _ _ _ _ => rfl, fun _ _ _ _ _ => rfl, fun _ _ _ _ => rfl,
    fun _ _ _ _ => rfl, fun _ _ _ _ => rfl⟩

/-- Two clients are linked; one leaves and comes back. -/
def returningRun : List (LanEvent Unit) :=
  [clientV4 .active 1, clientV4 .active 2, connectionV4 .new 1 2, clientV4 .inactive 2,
    clientV4 .active 2]

def returned : Lan2Lan Unit Nat :=
  returningRun.foldl (afterEvent countingDriver) (Lan2Lan.init 0)

theorem linksOnce_of_unlinked {κ ι δ : Type} {s : LanState κ ι δ} {id : ClientEventId} {key : κ}
    {data : ClientData ι} (h : ∀ client, s.clientInfo key = some client → s.links client = []) :
    LinksOnce s (.client id key data) := by
  have hnot : ∀ client, s.clientInfo key = some client → ¬Relinks s client (s.peers client) := by
    rintro client hkey ⟨before, e, after, -, -, hlinked, -⟩
    rw [LanState.linked, h client hkey] at hlinked
    exact hlinked rfl
  cases id with
  | active => exact fun client hkey _ => hnot client hkey
  | powerRecover => exact fun client hkey _ => hnot client hkey
  | inactive => trivial
  | disconnect => trivial
  | powerSave => trivial

theorem pairsCounted_returned :
    AllSucceed countingDriver ∧ PairsCounted returned.v4 ∧ PairsCounted returned.v6 ∧
      ∀ e : LanEvent Unit, e.Distinct → (eventCallback countingDriver returned e).isSome := by
  have hclient : ∀ (s : Lan2Lan Unit Nat) (id : ClientEventId) (addr : UInt32),
      (∀ client, s.v4.clientInfo addr = some client →
        (⟨s.v4, s.driver⟩ : LanState UInt32 Unit Nat).links client = []) →
      OnTables LinksOnce LinksOnce s (clientV4 id addr) := by
    intro s id addr h
    constructor
    · intro event hevent
      cases hevent
      exact linksOnce_of_unlinked h
    · intro event hevent
      cases hevent
  refine ⟨allSucceed_countingDriver, pairsCounted_of_run countingDriver allSucceed_countingDriver 0
    returningRun returned ?_⟩
  refine Run.snoc (Run.snoc (Run.snoc (Run.snoc (Run.snoc .nil
    ⟨?_, ?_, eventCallback_afterEvent ?_⟩) ⟨?_, ?_, eventCallback_afterEvent ?_⟩)
    ⟨?_, ?_, eventCallback_afterEvent ?_⟩) ⟨?_, ?_, eventCallback_afterEvent ?_⟩)
    ⟨?_, ?_, eventCallback_afterEvent ?_⟩
  · apply hclient
    intro client h
    cases h
    rfl
  · exact clientV4_distinct .active 2
  · decide
  · apply hclient
    intro client h
    cases h
  · exact clientV4_distinct .active 1
  · decide
  · apply hclient
    intro client h
    cases h
  · exact clientV4_distinct .active 2
  · decide
  · constructor
    · intro event hevent
      cases hevent
      trivial
    · intro event hevent
      cases hevent
  · exact connectionV4_distinct .new (by decide)
  · decide
  · constructor
    · intro event hevent
      cases hevent
      trivial
    · intro event hevent
      cases hevent
  · exact clientV4_distinct .inactive 2
  · decide

/-- Two linked clients, one of which saves power for a while. -/
def recoveringRun : List (LanEvent Unit) :=
  [clientV4 .active 1, clientV4 .active 2, connectionV4 .new 1 2, clientV4 .powerSave 1,
    clientV4 .powerRecover 1]

/-- The links are kept while the client saves power, and installed once more. -/
theorem not_pairsCounted_recovered :
    ¬ ∀ (d : LanDriver Unit Nat) (drv : Nat) (es : List (LanEvent Unit)) (s : Lan2Lan Unit Nat),
      AllSucceed d → Run (LanStep d) (Lan2Lan.init drv) es s →
        PairsCounted s.v4 ∧ PairsCounted s.v6 := by
  intro hall
  have hrun : Run (LanStep countingDriver) (Lan2Lan.init 0) recoveringRun
      (recoveringRun.foldl (afterEvent countingDriver) (Lan2Lan.init 0)) := by
    refine Run.snoc (Run.snoc (Run.snoc (Run.snoc (Run.snoc .nil
      ⟨?_, eventCallback_afterEvent ?_⟩) ⟨?_, eventCallback_afterEvent ?_⟩)
      ⟨?_, eventCallback_afterEvent ?_⟩) ⟨?_, eventCallback_afterEvent ?_⟩)
      ⟨?_, eventCallback_afterEvent ?_⟩
    · exact clientV4_distinct .powerRecover 1
    · decide
    · exact clientV4_distinct .active 1
    · decide
    · exact clientV4_distinct .active 2
    · decide
    · exact connectionV4_distinct .new (by decide)
    · decide
    · exact clientV4_distinct .powerSave 1
    · decide
  have hunique := (hall countingDriver 0 recoveringRun _ allSucceed_countingDriver hrun).1.unique
    0 1 _ rfl
  exact absurd hunique (by decide)

end LibraDevice.LanToLan
