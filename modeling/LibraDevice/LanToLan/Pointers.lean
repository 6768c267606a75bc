import LibraDevice.LanToLan.Links

/-!
The pointers of a client table, whatever the driver does: while they lead to
entries, no event follows one to nowhere, and they keep leading to entries as
long as no client goes while a link to it stays.
-/

namespace LibraDevice.LanToLan

open LibraDevice.StepRun

section

variable {κ ι δ : Type}

/-- Links lead to other clients of the table. -/
def LinksValid (s : LanState κ ι δ) : Prop :=
  ∀ p q, linksWith q (s.links p) ≠ 0 → q ≠ p ∧ (s.node q).isSome

theorem LinksValid.of_mem {s : LanState κ ι δ} (h : LinksValid s) {p : ClientPtr}
    {c : ClientInfo ι} {l : OffloadLinkInfo} (hc : s.node p = some c) (hl : l ∈ c.link) :
    l.peerPointer ≠ p ∧ (s.node l.peerPointer).isSome := by
  apply h
  rw [links_of_node hc]
  exact linksWith_pos_of_mem hl

theorem PeerGraph.of_mem {s : LanState κ ι δ} (h : PeerGraph s.peers) {p : ClientPtr}
    {c : ClientInfo ι} {e : PeerInfo} (hc : s.node p = some c) (he : e ∈ c.peer) :
    e.peerPointer ≠ p ∧ (s.node e.peerPointer).isSome := by
  rw [← peers_of_node hc] at he
  have hcount := (h.list p).countOf_ne_zero_of_mem he
  constructor
  · rintro rfl
    exact hcount (h.irrefl _)
  · rw [h.symm] at hcount
    exact isSome_of_count_ne_zero hcount

theorem isSome_bind_of {α β : Type} {o : Option α} {f : α → Option β} (h : o.isSome)
    (hf : ∀ a, o = some a → (f a).isSome) : (o.bind f).isSome := by
  obtain ⟨a, ha⟩ := Option.isSome_iff_exists.mp h
  rw [ha, Option.bind_some]
  exact hf a ha

variable {d : LanDriver ι δ} {iptype : IpType}

theorem isSome_setNode {s : LanState κ ι δ} {p q : ClientPtr} {c : ClientInfo ι}
    (h : (s.node q).isSome) : ((s.setNode p c).node q).isSome := by
  rcases eq_or_ne q p with rfl | hne
  · rw [node_setNode_self]
    rfl
  · rw [node_setNode_of_ne s hne]
    exact h

theorem turnoffLoop_isSome {client : ClientPtr} {todo : List OffloadLinkInfo}
    {s : LanState κ ι δ} (hclient : (s.node client).isSome)
    (htodo : ∀ l ∈ todo, l.peerPointer ≠ client ∧ (s.node l.peerPointer).isSome) :
    (turnoffLoop d iptype client todo s).isSome := by
  obtain ⟨c, hc⟩ := Option.isSome_iff_exists.mp hclient
  induction todo generalizing s c with
  | nil =>
      rw [turnoffLoop, hc]
      rfl
  | cons l rest ih =>
      obtain ⟨hne, hpeer⟩ := htodo l List.mem_cons_self
      obtain ⟨p, hp⟩ := Option.isSome_iff_exists.mp hpeer
      simp only [turnoffLoop, hc, hp, Option.bind_eq_bind, Option.bind_some, if_neg hne]
      split
      · rfl
      split
      · rfl
      split
      · rfl
      · have hnode := node_setNode_of_ne s hne.symm
          { p with link := p.link.eraseP fun l => l.peerPointer = client }
        refine ih ?_ ?_ c ?_
        · exact isSome_setNode hclient
        · intro x hx
          obtain ⟨hxne, hxsome⟩ := htodo x (List.mem_cons_of_mem l hx)
          exact ⟨hxne, isSome_setNode hxsome⟩
        · exact hnode.trans hc

theorem turnoffOffloadLinks_isSome {client : ClientPtr} {s : LanState κ ι δ}
    (hs : LinksValid s) (hclient : (s.node client).isSome) :
    (turnoffOffloadLinks d iptype client s).isSome := by
  obtain ⟨c, hc⟩ := Option.isSome_iff_exists.mp hclient
  rw [turnoffOffloadLinks, hc]
  exact turnoffLoop_isSome hclient fun l hl => hs.of_mem hc hl

theorem clearPeerLoop_isSome {client : ClientPtr} {todo : List PeerInfo} {s : LanState κ ι δ}
    (hclient : (s.node client).isSome)
    (htodo : ∀ e ∈ todo, e.peerPointer ≠ client ∧ (s.node e.peerPointer).isSome) :
    (clearPeerLoop client todo s).isSome := by
  induction todo generalizing s with
  | nil =>
      obtain ⟨c, hc⟩ := Option.isSome_iff_exists.mp hclient
      rw [clearPeerLoop, hc]
      rfl
  | cons e rest ih =>
      obtain ⟨hne, hpeer⟩ := htodo e List.mem_cons_self
      obtain ⟨p, hp⟩ := Option.isSome_iff_exists.mp hpeer
      simp only [clearPeerLoop, hp, Option.bind_eq_bind, Option.bind_some, if_neg hne]
      split
      · rfl
      · apply ih
        · exact isSome_setNode hclient
        · intro x hx
          obtain ⟨hxne, hxsome⟩ := htodo x (List.mem_cons_of_mem e hx)
          exact ⟨hxne, isSome_setNode hxsome⟩

theorem clearPeerList_isSome {client : ClientPtr} {s : LanState κ ι δ}
    (hs : PeerGraph s.peers) (hclient : (s.node client).isSome) :
    (clearPeerList client s).isSome := by
  obtain ⟨c, hc⟩ := Option.isSome_iff_exists.mp hclient
  rw [clearPeerList, hc]
  exact clearPeerLoop_isSome hclient fun e he => hs.of_mem hc he

theorem removeFltLoop_isSome {client : ClientPtr} {todo : List OffloadLinkInfo}
    {s : LanState κ ι δ} (hclient : (s.node client).isSome)
    (htodo : ∀ l ∈ todo, (s.node l.peerPointer).isSome) :
    (removeFltLoop d iptype client todo s).isSome := by
  obtain ⟨c, hc⟩ := Option.isSome_iff_exists.mp hclient
  induction todo generalizing s with
  | nil => rfl
  | cons l rest ih =>
      obtain ⟨p, hp⟩ := Option.isSome_iff_exists.mp (htodo l List.mem_cons_self)
      simp only [removeFltLoop, hc, hp, Option.bind_eq_bind, Option.bind_some]
      split
      · rfl
      · exact ih hclient (fun x hx => htodo x (List.mem_cons_of_mem l hx)) hc

theorem removeFltRules_isSome {client : ClientPtr} {s : LanState κ ι δ} (hs : LinksValid s)
    (hclient : (s.node client).isSome) : (removeFltRules d iptype client s).isSome := by
  obtain ⟨c, hc⟩ := Option.isSome_iff_exists.mp hclient
  rw [removeFltRules, hc]
  exact removeFltLoop_isSome hclient fun l hl => (hs.of_mem hc hl).2

theorem removeFltLoop_table {client : ClientPtr} {rest : List OffloadLinkInfo}
    {s s' : LanState κ ι δ} {res : Bool}
    (h : removeFltLoop d iptype client rest s = some (res, s')) :
    s'.toClientTable = s.toClientTable := by
  induction rest generalizing s with
  | nil =>
      cases h
      rfl
  | cons l rest ih =>
      simp only [removeFltLoop, Option.bind_eq_bind, Option.bind_eq_some_iff] at h
      obtain ⟨c, hc, p, hp, h⟩ := h
      split at h
      · cases h
        rfl
      · have hrest := ih h
        exact hrest

/-- The targets of all links are the same. -/
def SameTargets (s s' : LanState κ ι δ) : Prop :=
  ∀ p, (s'.links p).map OffloadLinkInfo.peerPointer = (s.links p).map OffloadLinkInfo.peerPointer

theorem linksWith_eq_count (peer : ClientPtr) (l : List OffloadLinkInfo) :
    linksWith peer l = (l.map OffloadLinkInfo.peerPointer).count peer := by
  rw [linksWith, List.count, List.countP_map]
  rfl

theorem SameTargets.linksWith {s s' : LanState κ ι δ} (h : SameTargets s s') (p q : ClientPtr) :
    linksWith q (s'.links p) = linksWith q (s.links p) := by
  rw [linksWith_eq_count, linksWith_eq_count, h p]

theorem map_peerPointer_setFltTo (peer : ClientPtr) (fltHdl : Nat) (l : List OffloadLinkInfo) :
    (setFltTo peer fltHdl l).map OffloadLinkInfo.peerPointer =
      l.map OffloadLinkInfo.peerPointer := by
  induction l with
  | nil => rfl
  | cons x l ih =>
      rw [setFltTo]
      split
      · rfl
      · rw [List.map_cons, List.map_cons, ih]

theorem map_peerPointer_set {l : List OffloadLinkInfo} {i : Nat} {x : OffloadLinkInfo}
    (h : l[i]? = some x) (fltHdl : Nat) :
    (l.set i { x with fltRuleHdl := fltHdl }).map OffloadLinkInfo.peerPointer =
      l.map OffloadLinkInfo.peerPointer := by
  induction l generalizing i with
  | nil => rfl
  | cons y l ih =>
      cases i with
      | zero =>
          cases h
          rfl
      | succ i =>
          rw [List.set_cons_succ, List.map_cons, List.map_cons, ih h]

/-- The filter handle of a link is overwritten, at its own place or as the first
link back. -/
theorem sameTargets_setNode {s : LanState κ ι δ} {p : ClientPtr} {c : ClientInfo ι}
    (hc : s.node p = some c) {links : List OffloadLinkInfo}
    (hlinks : links.map OffloadLinkInfo.peerPointer = c.link.map OffloadLinkInfo.peerPointer) :
    SameTargets s (s.setNode p { c with link := links }) := by
  intro x
  rw [links_setNode]
  rcases eq_or_ne x p with rfl | hne
  · rw [Function.update_self, links_of_node hc, hlinks]
  · rw [Function.update_of_ne hne]

theorem addFltLoop_targets {client : ClientPtr} {n i : Nat} {s s' : LanState κ ι δ} {res : Bool}
    (h : addFltLoop d iptype client n i s = some (res, s')) :
    s'.numOffloadPair = s.numOffloadPair ∧ SameTargets s s' := by
  induction n generalizing i s with
  | zero =>
      cases h
      exact ⟨rfl, fun _ => rfl⟩
  | succ n ih =>
      simp only [addFltLoop, Option.bind_eq_bind, Option.bind_eq_some_iff] at h
      obtain ⟨c, hc, l, hl, p, hp, h⟩ := h
      split at h
      · cases h
        exact ⟨rfl, fun _ => rfl⟩
      · rename_i fltHdl drv hadd
        simp only [Option.bind_eq_some_iff] at h
        obtain ⟨p', hp', h⟩ := h
        have hown := sameTargets_setNode hc (map_peerPointer_set hl fltHdl)
        split at h
        · cases h
          exact ⟨rfl, hown⟩
        split at h
        · cases h
          exact ⟨rfl, hown⟩
        · rename_i fltHdl' drv' hadd'
          obtain ⟨hnum, hrest⟩ := ih h
          have hpeer := sameTargets_setNode hp' (map_peerPointer_setFltTo client fltHdl' p'.link)
          exact ⟨hnum, fun x => (hrest x).trans ((hpeer x).trans (hown x))⟩

theorem addFltLoop_isSome {client : ClientPtr} {n i : Nat} {s : LanState κ ι δ}
    (hs : LinksValid s) (hlength : i + n ≤ (s.links client).length) :
    (addFltLoop d iptype client n i s).isSome := by
  induction n generalizing i s with
  | zero => rfl
  | succ n ih =>
      have hi : i < (s.links client).length := by omega
      obtain ⟨c, hc, -⟩ := node_of_mem_links (List.getElem_mem hi)
      rw [links_of_node hc] at hi
      have hl : c.link[i]? = some c.link[i] := List.getElem?_eq_getElem hi
      obtain ⟨hne, hpeer⟩ := hs.of_mem hc (List.getElem_mem hi)
      obtain ⟨p, hp⟩ := Option.isSome_iff_exists.mp hpeer
      simp only [addFltLoop, hc, hl, hp, Option.bind_eq_bind, Option.bind_some]
      split
      · rfl
      · rename_i fltHdl drv hadd
        have hown := sameTargets_setNode hc (map_peerPointer_set hl fltHdl)
        have hp' : (s.setNode client
            { c with link := c.link.set i { c.link[i] with fltRuleHdl := fltHdl } }).node
              c.link[i].peerPointer = some p :=
          (node_setNode_of_ne s hne _).trans hp
        simp only [hp', Option.bind_some]
        split
        · rfl
        split
        · rfl
        · rename_i fltHdl' drv' hadd'
          have hpeer := sameTargets_setNode hp' (map_peerPointer_setFltTo client fltHdl' p.link)
          have hboth : SameTargets s (LanState.setNode (LanState.setNode s client _) _ _) :=
            fun x => (hpeer x).trans (hown x)
          apply ih
          · intro x y hxy
            have hxy' : linksWith y (s.links x) ≠ 0 := by
              rw [← hboth.linksWith]
              exact hxy
            obtain ⟨hyne, hysome⟩ := hs x y hxy'
            exact ⟨hyne, isSome_setNode (isSome_setNode hysome)⟩
          · have hsame := congrArg List.length (hboth client)
            rw [List.length_map, List.length_map] at hsame
            refine Nat.le_trans ?_ (Nat.le_of_eq hsame.symm)
            omega

theorem addFltRules_isSome {client : ClientPtr} {s : LanState κ ι δ} (hs : LinksValid s)
    (hclient : (s.node client).isSome) : (addFltRules d iptype client s).isSome := by
  obtain ⟨c, hc⟩ := Option.isSome_iff_exists.mp hclient
  rw [addFltRules, hc]
  apply addFltLoop_isSome hs
  apply Nat.le_of_eq
  rw [links_of_node hc, Nat.zero_add]

theorem addOffloadLink_isSome {p q : ClientPtr} {s : LanState κ ι δ} (hp : (s.node p).isSome)
    (hq : (s.node q).isSome) : (addOffloadLink d iptype p q s).isSome := by
  obtain ⟨cp, hp⟩ := Option.isSome_iff_exists.mp hp
  obtain ⟨cq, hq⟩ := Option.isSome_iff_exists.mp hq
  rw [addOffloadLink]
  split
  · rfl
  · simp only [hp, hq, Option.bind_eq_bind, Option.bind_some]
    split
    · rfl
    · rfl

theorem checkPotentialLoop_isSome {client : ClientPtr} {todo : List PeerInfo}
    {s : LanState κ ι δ} (hclient : (s.node client).isSome)
    (htodo : ∀ e ∈ todo, (s.node e.peerPointer).isSome) :
    (checkPotentialLoop d iptype client todo s).isSome := by
  induction todo generalizing s with
  | nil => rfl
  | cons e rest ih =>
      have hpeer := htodo e List.mem_cons_self
      have hrest : ∀ x ∈ rest, (s.node x.peerPointer).isSome :=
        fun x hx => htodo x (List.mem_cons_of_mem e hx)
      obtain ⟨p, hp⟩ := Option.isSome_iff_exists.mp hpeer
      simp only [checkPotentialLoop, hp, Option.bind_eq_bind, Option.bind_some]
      split
      · apply isSome_bind_of (addOffloadLink_isSome hclient hpeer)
        rintro ⟨res, t⟩ ht
        have ht := addOffloadLink_shape d _ ht
        apply isSome_bind_of
        · apply addOffloadLink_isSome
          · rw [ht.isSome]
            exact hpeer
          · rw [ht.isSome]
            exact hclient
        · rintro ⟨res', u⟩ hu
          have hu := ht.trans (addOffloadLink_shape d _ hu)
          apply ih
          · split
            · exact (hu.isSome client).trans hclient
            · exact (hu.isSome client).trans hclient
          · intro x hx
            split
            · exact (hu.isSome _).trans (hrest x hx)
            · exact (hu.isSome _).trans (hrest x hx)
      · exact ih hclient hrest

theorem checkPotentialLink_isSome {client : ClientPtr} {s : LanState κ ι δ}
    (hs : PeerGraph s.peers) (hclient : (s.node client).isSome) :
    (checkPotentialLink d iptype client s).isSome := by
  apply isSome_bind_of hclient
  intro c hc
  exact checkPotentialLoop_isSome hclient fun e he => (hs.of_mem hc he).2

theorem addConnection_isSome {p q : ClientPtr} {s : LanState κ ι δ} (hp : (s.node p).isSome)
    (hq : (s.node q).isSome) : (addConnection p q s).isSome := by
  apply isSome_bind_of hp
  intro c _
  apply isSome_bind_of (isSome_setNode hq)
  intro b _
  rfl

theorem removeConnection_isSome {p q : ClientPtr} {s : LanState κ ι δ} (hp : (s.node p).isSome)
    (hq : (s.node q).isSome) : (removeConnection p q s).isSome := by
  apply isSome_bind_of hp
  intro c _
  apply isSome_bind_of (isSome_setNode hq)
  intro b _
  rfl

theorem eraseLinkTo_isSome {p q : ClientPtr} {s : LanState κ ι δ} (hp : (s.node p).isSome)
    (hq : (s.node q).isSome) : (eraseLinkTo d iptype p q s).isSome := by
  apply isSome_bind_of hp
  intro c _
  split
  · rfl
  · apply isSome_bind_of hq
    intro b _
    rfl

theorem eraseOffloadLink_isSome {p q : ClientPtr} {s : LanState κ ι δ} (hp : (s.node p).isSome)
    (hq : (s.node q).isSome) : (eraseOffloadLink d iptype p q s).isSome := by
  apply isSome_bind_of (eraseLinkTo_isSome hp hq)
  rintro ⟨res, t⟩ ht
  have ht := eraseLinkTo_shape d _ ht
  apply isSome_bind_of
  · apply eraseLinkTo_isSome
    · rw [ht.isSome]
      exact hq
    · rw [ht.isSome]
      exact hp
  · intro _ _
    rfl

theorem eraseLastLinks_isSome {p q : ClientPtr} {s : LanState κ ι δ} (hp : (s.node p).isSome)
    (hq : (s.node q).isSome) : (eraseLastLinks d iptype p q s).isSome := by
  apply isSome_bind_of hp
  intro cp _
  apply isSome_bind_of hq
  intro cq _
  split
  · exact eraseOffloadLink_isSome hp hq
  · apply isSome_bind_of
    · split
      · exact eraseOffloadLink_isSome hp hq
      · rfl
    · intro t ht
      split
      · have hshape : SameShape s t := by
          split at ht
          · exact eraseOffloadLink_shape d _ ht
          · cases ht
            exact .refl s
        apply eraseOffloadLink_isSome
        · rw [hshape.isSome]
          exact hq
        · rw [hshape.isSome]
          exact hp
      · rfl

variable [DecidableEq κ]

theorem clientActive_isSome {key : κ} {data : ClientData ι} {s : LanState κ ι δ}
    (hs : PeerInv s) (hv : LinksValid s) : (clientActive d key data s).isSome := by
  rw [clientActive]
  split
  case h_1 => rfl
  case h_2 client hkey =>
    have hclient := hs.keyed.node_of_key _ _ hkey
    apply isSome_bind_of hclient
    intro c hc
    split
    · split
      · rfl
      · apply isSome_bind_of (turnoffOffloadLinks_isSome hv hclient)
        rintro ⟨res, t⟩ ht
        have ht := turnoffOffloadLinks_shape d _ ht
        have hti := (PeerShrink.of_shape hs ht).inv
        have hclient' : (t.node client).isSome := (ht.isSome client).trans hclient
        apply isSome_bind_of (clearPeerList_isSome hti.graph hclient')
        rintro ⟨res', u⟩ hu
        have hkeys := (clearPeerList_count hti hu).1
        apply isSome_bind_of ((hkeys.isSome client).trans hclient')
        intro _ _
        rfl
    · have hset := PeerShrink.setNode hs hc (x := c.update data) rfl
      exact checkPotentialLink_isSome hset.inv.graph (isSome_setNode hclient)

theorem clientInactive_isSome {key : κ} {data : ClientData ι} {s : LanState κ ι δ}
    (hs : PeerInv s) (hv : LinksValid s) : (clientInactive d key data s).isSome := by
  rw [clientInactive]
  split
  case h_1 => rfl
  case h_2 client hkey =>
    have hclient := hs.keyed.node_of_key _ _ hkey
    apply isSome_bind_of (turnoffOffloadLinks_isSome hv hclient)
    rintro ⟨res, t⟩ ht
    have ht := turnoffOffloadLinks_shape d _ ht
    apply isSome_bind_of ((ht.isSome client).trans hclient)
    intro _ _
    rfl

theorem clientDisconnect_isSome {key : κ} {data : ClientData ι} {s : LanState κ ι δ}
    (hs : PeerInv s) (hv : LinksValid s) : (clientDisconnect d key data s).isSome := by
  rw [clientDisconnect]
  split
  case h_1 => rfl
  case h_2 client hkey =>
    have hclient := hs.keyed.node_of_key _ _ hkey
    apply isSome_bind_of (turnoffOffloadLinks_isSome hv hclient)
    rintro ⟨res, t⟩ ht
    have ht := turnoffOffloadLinks_shape d _ ht
    have hti := (PeerShrink.of_shape hs ht).inv
    apply isSome_bind_of (clearPeerList_isSome hti.graph ((ht.isSome client).trans hclient))
    intro _ _
    rfl

omit [DecidableEq κ] in
theorem clientPowerSave_isSome {key : κ} {data : ClientData ι} {s : LanState κ ι δ}
    (hs : PeerInv s) (hv : LinksValid s) : (clientPowerSave d key data s).isSome := by
  rw [clientPowerSave]
  split
  case h_1 => rfl
  case h_2 client hkey =>
    have hclient := hs.keyed.node_of_key _ _ hkey
    apply isSome_bind_of (removeFltRules_isSome hv hclient)
    rintro ⟨res, t⟩ ht
    split
    · rfl
    · obtain ⟨c, hc, ht⟩ := Option.bind_eq_some_iff.mp ht
      have ht := removeFltLoop_shape d _ ht
      apply isSome_bind_of ((ht.isSome client).trans hclient)
      intro _ _
      rfl

omit [DecidableEq κ] in
theorem clientPowerRecover_isSome {key : κ} {data : ClientData ι} {s : LanState κ ι δ}
    (hs : PeerInv s) (hv : LinksValid s) : (clientPowerRecover d key data s).isSome := by
  rw [clientPowerRecover]
  split
  case h_1 => rfl
  case h_2 client hkey =>
    have hclient := hs.keyed.node_of_key _ _ hkey
    apply isSome_bind_of hclient
    intro c _
    split
    · rfl
    · apply isSome_bind_of (addFltRules_isSome hv hclient)
      rintro ⟨res, t⟩ ht
      split
      · rfl
      · obtain ⟨_, _, ht⟩ := Option.bind_eq_some_iff.mp ht
        have ht := addFltLoop_shape d _ ht
        have hclient' : (t.node client).isSome := (ht.isSome client).trans hclient
        apply isSome_bind_of hclient'
        intro c' hc'
        have hset := PeerShrink.setNode (PeerShrink.of_shape hs ht).inv hc'
          (x := { c' with isActive := true, isPowersave := false }) rfl
        exact checkPotentialLink_isSome hset.inv.graph (isSome_setNode hclient')

omit [DecidableEq κ] in
theorem newLan2lanConnection_isSome {src dst : κ} {s : LanState κ ι δ} (hne : src ≠ dst)
    (hs : PeerInv s) : (newLan2lanConnection d iptype src dst s).isSome := by
  rw [newLan2lanConnection]
  split
  case h_2 => rfl
  case h_1 p q hsrc hdst =>
    have hptr : p ≠ q := fun heq => hne (hs.keyed.injective _ _ _ hsrc (heq ▸ hdst))
    have hp := hs.keyed.node_of_key _ _ hsrc
    have hq := hs.keyed.node_of_key _ _ hdst
    apply isSome_bind_of (addConnection_isSome hp hq)
    rintro ⟨res, t⟩ ht
    have hkeys := (addConnection_spec hptr hs ht).1
    rw [← hkeys.isSome] at hp hq
    apply isSome_bind_of hp
    intro cp _
    apply isSome_bind_of hq
    intro cq _
    split
    · apply isSome_bind_of (addOffloadLink_isSome hp hq)
      rintro ⟨res', u⟩ hu
      have hu := addOffloadLink_shape d _ hu
      split
      · rfl
      · rw [← hu.isSome] at hp hq
        apply isSome_bind_of (addOffloadLink_isSome hq hp)
        intro back _
        split
        · rfl
        · rfl
    · rfl

theorem delLan2lanConnection_isSome {src dst : κ} {s : LanState κ ι δ} (hne : src ≠ dst)
    (hs : PeerInv s) : (delLan2lanConnection d iptype src dst s).isSome := by
  rw [delLan2lanConnection]
  split
  case h_2 => rfl
  case h_1 p q hsrc hdst =>
    have hptr : p ≠ q := fun heq => hne (hs.keyed.injective _ _ _ hsrc (heq ▸ hdst))
    have hp := hs.keyed.node_of_key _ _ hsrc
    have hq := hs.keyed.node_of_key _ _ hdst
    apply isSome_bind_of (removeConnection_isSome hp hq)
    rintro ⟨res, t⟩ ht
    have hkeys := (removeConnection_spec hptr hs ht).1
    have hti := removeConnection_inv hptr hs ht
    rw [← hkeys.isSome] at hp hq
    split
    · apply isSome_bind_of (eraseLastLinks_isSome hp hq)
      intro u hu
      have hshape := eraseLastLinks_shape hu
      have hui := (PeerShrink.of_shape hti hshape).inv
      apply isSome_bind_of
      · apply isSome_bind_of ((hshape.isSome p).trans hp)
        intro _ _
        rfl
      · intro v hv
        have hsrc' : u.clientInfo src = some p := by
          rw [hshape.clientInfo, hkeys.clientInfo, hsrc]
        obtain ⟨hvs, hvkeys⟩ := eraseIdle_shrink hui hsrc' hv
        have hdst' : v.clientInfo dst = some q := by
          rw [hvkeys dst hne.symm, hshape.clientInfo, hkeys.clientInfo, hdst]
        apply isSome_bind_of (hvs.inv.keyed.node_of_key _ _ hdst')
        intro _ _
        rfl
    · rfl

theorem tableStep_isSome {e : TableEvent κ ι} {s : LanState κ ι δ} (hdistinct : e.Distinct)
    (hs : PeerInv s) (hv : LinksValid s) : (tableStep d s e).isSome := by
  cases e with
  | client id key data =>
      cases id with
      | active => exact clientActive_isSome hs hv
      | inactive => exact clientInactive_isSome hs hv
      | disconnect => exact clientDisconnect_isSome hs hv
      | powerSave => exact clientPowerSave_isSome hs hv
      | powerRecover => exact clientPowerRecover_isSome hs hv
  | connection id iptype src dst =>
      cases id with
      | new => exact newLan2lanConnection_isSome hdistinct hs
      | del => exact delLan2lanConnection_isSome hdistinct hs

end

end LibraDevice.LanToLan
