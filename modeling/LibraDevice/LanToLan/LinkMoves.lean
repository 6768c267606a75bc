import LibraDevice.LanToLan.Pointers

/-!
How the offload links of a client table move: what the removals leave, and that a
client whose links are answered ends with none.
-/

namespace LibraDevice.LanToLan

open LibraDevice.StepRun

section

variable {κ ι δ : Type}

/-- No client has more links to another than before. -/
def FewerLinks (s s' : LanState κ ι δ) : Prop :=
  ∀ p q, linksWith q (s'.links p) ≤ linksWith q (s.links p)

theorem FewerLinks.trans {s t u : LanState κ ι δ} (h : FewerLinks s t) (h' : FewerLinks t u) :
    FewerLinks s u :=
  fun p q => Nat.le_trans (h' p q) (h p q)

theorem fewerLinks_setNode {s : LanState κ ι δ} {p : ClientPtr} {c c' : ClientInfo ι}
    (hc : s.node p = some c) (hle : ∀ q, linksWith q c'.link ≤ linksWith q c.link) :
    FewerLinks s (s.setNode p c') := by
  intro x q
  rw [links_setNode]
  rcases eq_or_ne x p with rfl | hne
  · rw [Function.update_self, links_of_node hc]
    exact hle q
  · apply Nat.le_of_eq
    rw [Function.update_of_ne hne]

/-- The entries stay, and new links are between two of them. -/
structure LinkMove (s s' : LanState κ ι δ) : Prop where
  isSome : ∀ p, (s'.node p).isSome = (s.node p).isSome
  links : ∀ p q, linksWith q (s'.links p) ≤ linksWith q (s.links p) ∨
    q ≠ p ∧ (s.node q).isSome

namespace LinkMove

theorem refl (s : LanState κ ι δ) : LinkMove s s :=
    ⟨fun _ => rfl, fun _ _ => Or.inl (Nat.le_refl _)⟩

theorem trans {s t u : LanState κ ι δ} (h : LinkMove s t) (h' : LinkMove t u) :
    LinkMove s u := by
  refine ⟨fun p => (h'.isSome p).trans (h.isSome p), ?_⟩
  intro p q
  rcases h'.links p q with hle | hnew
  · rcases h.links p q with hle' | hnew
    · exact Or.inl (Nat.le_trans hle hle')
    · exact Or.inr hnew
  · rw [h.isSome] at hnew
    exact Or.inr hnew

theorem of_fewer {s s' : LanState κ ι δ} (hsome : ∀ p, (s'.node p).isSome = (s.node p).isSome)
    (h : FewerLinks s s') : LinkMove s s' :=
  ⟨hsome, fun p q => Or.inl (h p q)⟩

theorem setNode {s : LanState κ ι δ} {p : ClientPtr} {c x : ClientInfo ι}
    (hc : s.node p = some c) (hlink : x.link = c.link) : LinkMove s (s.setNode p x) := by
  apply of_fewer
  · exact (SameKeys.setNode (by rw [hc]; rfl) x).isSome
  · apply fewerLinks_setNode hc
    intro q
    apply Nat.le_of_eq
    rw [hlink]

theorem valid {s s' : LanState κ ι δ} (h : LinkMove s s') (hs : LinksValid s) :
    LinksValid s' := by
  intro p q hq
  rw [h.isSome]
  rcases h.links p q with hle | hnew
  · exact hs p q (by omega)
  · exact hnew

end LinkMove

variable {d : LanDriver ι δ} {iptype : IpType}

theorem addOffloadLink_move {p q : ClientPtr} (hne : p ≠ q) {s s' : LanState κ ι δ} {res : Bool}
    (h : addOffloadLink d iptype p q s = some (res, s')) : LinkMove s s' := by
  refine ⟨(addOffloadLink_shape d _ h).isSome, ?_⟩
  rw [addOffloadLink] at h
  split at h
  · cases h
    exact (LinkMove.refl s).links
  · simp only [Option.bind_eq_bind, Option.bind_eq_some_iff] at h
    obtain ⟨cp, hp, cq, hq, h⟩ := h
    split at h
    · cases h
      exact (LinkMove.refl s).links
    · rename_i fltHdl rtRuleHdl hdrHdl drv _
      cases h
      intro x y
      change linksWith y ((s.setNode p _).links x) ≤ _ ∨ _
      rw [links_setNode]
      rcases eq_or_ne x p with rfl | hx
      · rw [Function.update_self, linksWith_append, links_of_node hp, linksWith_cons]
        rcases eq_or_ne q y with rfl | hy
        · refine Or.inr ⟨hne.symm, ?_⟩
          rw [hq]
          rfl
        · rw [if_neg hy]
          exact Or.inl (Nat.le_refl _)
      · rw [Function.update_of_ne hx]
        exact Or.inl (Nat.le_refl _)

theorem checkPotentialLoop_move {client : ClientPtr} {todo : List PeerInfo}
    (htodo : ∀ e ∈ todo, e.peerPointer ≠ client) {s s' : LanState κ ι δ}
    (h : checkPotentialLoop d iptype client todo s = some s') : LinkMove s s' := by
  induction todo generalizing s with
  | nil =>
      cases h
      exact .refl _
  | cons e rest ih =>
      have hne := htodo e List.mem_cons_self
      have hrest : ∀ x ∈ rest, x.peerPointer ≠ client :=
        fun x hx => htodo x (List.mem_cons_of_mem e hx)
      simp only [checkPotentialLoop, Option.bind_eq_bind, Option.bind_eq_some_iff] at h
      obtain ⟨p, hp, h⟩ := h
      split at h
      · simp only [Option.bind_eq_some_iff] at h
        obtain ⟨there, hthere, back, hback, h⟩ := h
        have hboth := (addOffloadLink_move hne.symm hthere).trans (addOffloadLink_move hne hback)
        apply hboth.trans
        split at h
        · have hmove := ih hrest h
          exact ⟨hmove.isSome, hmove.links⟩
        · exact ih hrest h
      · exact ih hrest h

theorem turnoffLoop_fewer {client : ClientPtr} {todo : List OffloadLinkInfo}
    {s s' : LanState κ ι δ} {res : Bool}
    (h : turnoffLoop d iptype client todo s = some (res, s')) : FewerLinks s s' := by
  have hrefl : ∀ t : LanState κ ι δ, FewerLinks t t := fun _ _ _ => Nat.le_refl _
  induction todo generalizing s with
  | nil =>
      simp only [turnoffLoop, Option.bind_eq_bind, Option.bind_eq_some_iff] at h
      obtain ⟨c, hc, h⟩ := h
      cases h
      apply fewerLinks_setNode hc
      intro q
      exact Nat.zero_le _
  | cons l rest ih =>
      simp only [turnoffLoop, Option.bind_eq_bind, Option.bind_eq_some_iff] at h
      obtain ⟨c, hc, p, hp, h⟩ := h
      split at h
      · cases h
        exact hrefl s
      split at h
      · cases h
        exact hrefl s
      split at h
      · cases h
        exact hrefl s
      split at h
      · cases h
      · apply FewerLinks.trans _ (ih h)
        apply fewerLinks_setNode hp
        intro q
        rw [linksWith_eraseP]
        exact Nat.sub_le _ _

theorem turnoffOffloadLinks_move {client : ClientPtr} {s s' : LanState κ ι δ} {res : Bool}
    (h : turnoffOffloadLinks d iptype client s = some (res, s')) : LinkMove s s' := by
  simp only [turnoffOffloadLinks, Option.bind_eq_bind, Option.bind_eq_some_iff] at h
  obtain ⟨c, hc, h⟩ := h
  exact .of_fewer (turnoffLoop_shape d _ h).isSome (turnoffLoop_fewer h)

theorem eraseLinkTo_fewer {p q : ClientPtr} {s s' : LanState κ ι δ} {res : Bool}
    (h : eraseLinkTo d iptype p q s = some (res, s')) : FewerLinks s s' := by
  simp only [eraseLinkTo, Option.bind_eq_bind, Option.bind_eq_some_iff] at h
  obtain ⟨c, hc, h⟩ := h
  split at h
  · cases h
    exact fun _ _ => Nat.le_refl _
  · simp only [Option.bind_eq_some_iff] at h
    obtain ⟨b, hb, h⟩ := h
    cases h
    apply fewerLinks_setNode hc
    intro y
    rw [linksWith_eraseP]
    exact Nat.sub_le _ _

theorem eraseOffloadLink_fewer {p q : ClientPtr} {s s' : LanState κ ι δ}
    (h : eraseOffloadLink d iptype p q s = some s') : FewerLinks s s' := by
  simp only [eraseOffloadLink, Option.bind_eq_bind, Option.bind_eq_some_iff] at h
  obtain ⟨there, hthere, back, hback, h⟩ := h
  have hboth := (eraseLinkTo_fewer hthere).trans (eraseLinkTo_fewer hback)
  cases h
  split
  · exact hboth
  · exact hboth

theorem eraseLastLinks_fewer {p q : ClientPtr} {s s' : LanState κ ι δ}
    (h : eraseLastLinks d iptype p q s = some s') : FewerLinks s s' := by
  simp only [eraseLastLinks, Option.bind_eq_bind, Option.bind_eq_some_iff] at h
  obtain ⟨cp, hp, cq, hq, h⟩ := h
  split at h
  · exact eraseOffloadLink_fewer h
  · obtain ⟨t, ht, h⟩ := Option.bind_eq_some_iff.mp h
    have hfirst : FewerLinks s t := by
      split at ht
      · exact eraseOffloadLink_fewer ht
      · cases ht
        exact fun _ _ => Nat.le_refl _
    apply hfirst.trans
    split at h
    · exact eraseOffloadLink_fewer h
    · cases h
      exact fun _ _ => Nat.le_refl _

/-- The deletions of links and of the links back succeed, one after the other. -/
def DeletesPairs (d : LanDriver ι δ) (iptype : IpType) (iface : ClientPtr → Option ι) (own : ι) :
    List (OffloadLinkInfo × OffloadLinkInfo) → δ → Prop
  | [], _ => True
  | (link, back) :: rest, drv =>
    ∃ peer, iface link.peerPointer = some peer ∧
      (delOffloadLink d iptype own peer link drv).1 = true ∧
      (delOffloadLink d iptype peer own back
        (delOffloadLink d iptype own peer link drv).2).1 = true ∧
      DeletesPairs d iptype iface own rest
        (delOffloadLink d iptype peer own back
          (delOffloadLink d iptype own peer link drv).2).2

def LanState.iface (s : LanState κ ι δ) (client : ClientPtr) : Option ι :=
  (s.node client).map ClientInfo.pIface

/-- The first links of the client answer all links to it, in their order, and
these pairs can be deleted. -/
def LinksAnswered (d : LanDriver ι δ) (iptype : IpType) (s : LanState κ ι δ)
    (client : ClientPtr) : Prop :=
  ∀ c, s.node client = some c →
    ∃ pairs rest, c.link = pairs.map Prod.fst ++ rest ∧
      (∀ q, (s.links q).filter (fun l => l.peerPointer = client) =
        (pairs.filter fun x => x.1.peerPointer = q).map Prod.snd) ∧
      DeletesPairs d iptype s.iface c.pIface pairs s.driver

theorem SameShape.iface_eq {s s' : LanState κ ι δ} (h : SameShape s s') : s'.iface = s.iface := by
  funext p
  have hp := congrArg (Option.map ClientInfo.pIface) (h.node p)
  simp only [Option.map_map] at hp
  exact hp

theorem find?_eq_head?_filter {α : Type} (f : α → Bool) (l : List α) :
    l.find? f = (l.filter f).head? := by
  induction l with
  | nil => rfl
  | cons x l ih =>
      cases hx : f x with
      | true => rw [List.find?_cons_of_pos hx, List.filter_cons_of_pos hx, List.head?_cons]
      | false =>
          rw [List.find?_cons_of_neg (by rw [hx]; decide), ih,
            List.filter_cons_of_neg (by rw [hx]; decide)]

theorem filter_eraseP {α : Type} (f : α → Bool) (l : List α) :
    (l.eraseP f).filter f = (l.filter f).tail := by
  induction l with
  | nil => rfl
  | cons x l ih =>
      cases hx : f x with
      | true => rw [List.eraseP_cons_of_pos hx, List.filter_cons_of_pos hx, List.tail_cons]
      | false =>
          have hnot : ¬f x = true := by rw [hx]; decide
          rw [List.eraseP_cons_of_neg hnot, List.filter_cons_of_neg hnot,
            List.filter_cons_of_neg hnot, ih]

theorem linksWith_eq_zero_of_filter {peer : ClientPtr} {l : List OffloadLinkInfo}
    (h : l.filter (fun x => x.peerPointer = peer) = []) : linksWith peer l = 0 := by
  rw [linksWith, List.countP_eq_length_filter, h]
  rfl

theorem turnoffLoop_clears {client : ClientPtr}
    (pairs : List (OffloadLinkInfo × OffloadLinkInfo)) {rest : List OffloadLinkInfo}
    {s s' : LanState κ ι δ} {c : ClientInfo ι} {res : Bool} (hc : s.node client = some c)
    (hothers : ∀ x ∈ pairs, x.1.peerPointer ≠ client)
    (hback : ∀ q, q ≠ client → (s.links q).filter (fun l => l.peerPointer = client) =
      (pairs.filter fun x => x.1.peerPointer = q).map Prod.snd)
    (hdel : DeletesPairs d iptype s.iface c.pIface pairs s.driver)
    (h : turnoffLoop d iptype client (pairs.map Prod.fst ++ rest) s = some (res, s')) :
    ∀ q, q ≠ client → linksWith client (s'.links q) = 0 := by
  induction pairs generalizing s with
  | nil =>
      intro q hq
      have hnone := linksWith_eq_zero_of_filter (hback q hq)
      have hfewer := turnoffLoop_fewer h q client
      omega
  | cons x pairs ih =>
      obtain ⟨link, back⟩ := x
      have hne : link.peerPointer ≠ client := hothers _ List.mem_cons_self
      obtain ⟨peer, hpeer, hthere, hother, hdel⟩ := hdel
      simp only [List.map_cons, List.cons_append, turnoffLoop, hc, Option.bind_eq_bind,
        Option.bind_some, Option.bind_eq_some_iff] at h
      obtain ⟨p, hp, h⟩ := h
      rw [LanState.iface, hp] at hpeer
      cases hpeer
      have hfilter := hback link.peerPointer hne
      rw [links_of_node hp, List.filter_cons_of_pos (by simp), List.map_cons] at hfilter
      have hfind : p.link.find? (fun l => l.peerPointer = client) = some back := by
        rw [find?_eq_head?_filter, hfilter, List.head?_cons]
      simp only [hthere, hfind, hother, Bool.true_eq_false, if_false, if_neg hne] at h
      have hshape : SameShape s
          { s.setNode link.peerPointer
              { p with link := p.link.eraseP fun l => l.peerPointer = client } with
            numOffloadPair := s.numOffloadPair - 1
            driver := (delOffloadLink d iptype p.pIface c.pIface back
              (delOffloadLink d iptype c.pIface p.pIface link s.driver).2).2 } :=
        .of_setLink hp rfl rfl rfl
      refine ih ?_ ?_ ?_ ?_ h
      · exact (node_setNode_of_ne s hne.symm _).trans hc
      · exact fun x hx => hothers x (List.mem_cons_of_mem _ hx)
      · intro q hq
        change ((s.setNode link.peerPointer _).links q).filter _ = _
        rw [links_setNode]
        rcases eq_or_ne q link.peerPointer with rfl | hql
        · rw [Function.update_self, filter_eraseP, hfilter, List.tail_cons]
        · rw [Function.update_of_ne hql, hback q hq, List.filter_cons_of_neg]
          simpa using hql.symm
      · rw [hshape.iface_eq]
        exact hdel

theorem turnoffOffloadLinks_clears {client : ClientPtr} {s s' : LanState κ ι δ} {res : Bool}
    (hs : LinksValid s) (hanswered : LinksAnswered d iptype s client)
    (h : turnoffOffloadLinks d iptype client s = some (res, s')) :
    ∀ q, q ≠ client → linksWith client (s'.links q) = 0 := by
  simp only [turnoffOffloadLinks, Option.bind_eq_bind, Option.bind_eq_some_iff] at h
  obtain ⟨c, hc, h⟩ := h
  obtain ⟨pairs, rest, hlink, hback, hdel⟩ := hanswered c hc
  rw [hlink] at h
  refine turnoffLoop_clears pairs hc ?_ (fun q _ => hback q) hdel h
  intro x hx
  refine (hs.of_mem hc ?_).1
  rw [hlink]
  exact List.mem_append_left _ (List.mem_map_of_mem hx)

theorem LinkMove.of_linking {s s' : LanState κ ι δ} (hkeys : SameKeys s s')
    (hlinks : s'.links = s.links) : LinkMove s s' := by
  refine ⟨hkeys.isSome, ?_⟩
  intro p q
  rw [hlinks]
  exact Or.inl (Nat.le_refl _)

end

end LibraDevice.LanToLan
