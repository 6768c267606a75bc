import LibraDevice.LanToLan.Pointers

/-!
What an event does to the links of a client table while no driver call fails,
said once for all that is derived from it.
-/

namespace LibraDevice.LanToLan

open Relation

section

variable {κ ι δ : Type}

/-- Links, pairs and rules are the same, and so are the flags of linked clients. -/
structure Tacit (s s' : LanState κ ι δ) : Prop where
  links : s'.links = s.links
  num : s'.numOffloadPair = s.numOffloadPair
  driver : s'.driver = s.driver
  flags : ∀ p, s.links p ≠ [] → s'.flags p = s.flags p

namespace Tacit

theorem of_linking {s s' : LanState κ ι δ} (h : SameLinking s s') : Tacit s s' :=
  ⟨h.links, h.num, h.driver, fun p _ => h.flags p⟩

theorem refl (s : LanState κ ι δ) : Tacit s s := .of_linking (.refl s)

theorem trans {s t u : LanState κ ι δ} (h : Tacit s t) (h' : Tacit t u) : Tacit s u := by
  refine ⟨h'.links.trans h.links, h'.num.trans h.num, h'.driver.trans h.driver, ?_⟩
  intro p hp
  rw [h'.flags p (by rw [h.links]; exact hp), h.flags p hp]

theorem setNode {s : LanState κ ι δ} {p : ClientPtr} {c : ClientInfo ι} (hp : s.links p = [])
    (hc : c.link = []) : Tacit s (s.setNode p c) := by
  refine ⟨?_, rfl, rfl, ?_⟩
  · rw [links_setNode, hc, ← hp, Function.update_eq_self]
  · intro q hq
    have hne : q ≠ p := by
      rintro rfl
      exact hq hp
    rw [LanState.flags, LanState.flags, node_setNode_of_ne s hne]

theorem awake {s s' : LanState κ ι δ} (h : Tacit s s') {p : ClientPtr} (hp : s.links p ≠ []) :
    s'.awake p = s.awake p := by
  rw [LanState.awake, LanState.awake, h.flags p hp]

end Tacit

variable [DecidableEq κ]

theorem Tacit.erase {s : LanState κ ι δ} {key : κ} {client : ClientPtr}
    (hkey : s.clientInfo key = some client) (hlinks : s.links client = []) :
    Tacit s (s.erase key) := by
  refine ⟨?_, by rw [erase_eq hkey], by rw [erase_eq hkey], ?_⟩
  · funext p
    rw [LanState.links, node_erase hkey]
    split
    case isTrue heq =>
      rw [heq, hlinks]
      rfl
    case isFalse => rfl
  · intro p hp
    have hne : p ≠ client := by
      rintro rfl
      exact hp hlinks
    rw [LanState.flags, node_erase hkey, if_neg hne]
    rfl

/-- What holds between the events of a run in which no driver call fails: links
come in pairs, and idle clients have none. -/
structure LinkBase (s : LanState κ ι δ) : Prop where
  peers : PeerInv s
  graph : LinkGraph s.links
  idle : ∀ p, s.flags p = some (false, false) → s.links p = []

/-- Counts that matter to links are not lost. -/
def KeepsCounts (s s' : LanState κ ι δ) : Prop :=
  ∀ p q, countOf q (s.peers p) ≠ 0 → linksWith q (s.links p) ≠ 0 → countOf q (s'.peers p) ≠ 0

/-- The effects of an event on the links of a table. -/
inductive Effect (d : LanDriver ι δ) (s : LanState κ ι δ) :
    TableEvent κ ι → LanState κ ι δ → Prop
  | tacit {e : TableEvent κ ι} {s' : LanState κ ι δ} :
      Tacit s s' → KeepsCounts s s' → Effect d s e s'
  /-- All links of a client go: it has a new hardware address, or leaves. -/
  | turnedOff {id : ClientEventId} {key : κ} {data : ClientData ι} {client : ClientPtr}
      {c : ClientInfo ι} {t s' : LanState κ ι δ} :
      s.clientInfo key = some client → s.node client = some c →
      (id = .active ∧ c.isActive = true ∧ c.macAddr ≠ data.macAddr ∨ id = .inactive ∨
        id = .disconnect) →
      Unlinks d data.iptype client s t → t.links client = [] → Tacit t s' →
      (∀ p q, p ≠ client → q ≠ client → countOf q (s'.peers p) = countOf q (s.peers p)) →
      Effect d s (.client id key data) s'
  /-- An inactive client is active again. -/
  | reactivated {key : κ} {data : ClientData ι} {client : ClientPtr} {c : ClientInfo ι}
      {s' : LanState κ ι δ} :
      s.clientInfo key = some client → s.node client = some c → c.isActive = false →
      checkPotentialLoop d data.iptype client c.peer (s.setNode client (c.update data)) =
        some s' →
      Effect d s (.client .active key data) s'
  /-- A client goes to power save. -/
  | suspended {key : κ} {data : ClientData ι} {client : ClientPtr} {c : ClientInfo ι}
      {t : LanState κ ι δ} :
      s.clientInfo key = some client → s.node client = some c →
      removeFltLoop d data.iptype client c.link s = some (true, t) →
      Effect d s (.client .powerSave key data)
        (t.setNode client { c with isActive := false, isPowersave := true })
  /-- A client comes back from power save. -/
  | resumed {key : κ} {data : ClientData ι} {client : ClientPtr} {c c' : ClientInfo ι}
      {t s' : LanState κ ι δ} :
      s.clientInfo key = some client → s.node client = some c → c.isActive = false →
      c.isPowersave = true →
      addFltLoop d data.iptype client c.link.length 0 s = some (true, t) →
      t.node client = some c' →
      checkPotentialLoop d data.iptype client c.peer
        (t.setNode client { c' with isActive := true, isPowersave := false }) = some s' →
      Effect d s (.client .powerRecover key data) s'
  /-- The first connection of two active clients links them. -/
  | connected {iptype : IpType} {src dst : κ} {p q : ClientPtr} {t s' : LanState κ ι δ} :
      s.clientInfo src = some p → s.clientInfo dst = some q → countOf q (s.peers p) = 0 →
      SameLinking s t → t.awake p = true → t.awake q = true → Linked d iptype p q t s' →
      KeepsCounts s s' → countOf q (s'.peers p) ≠ 0 →
      Effect d s (.connection .new iptype src dst) s'
  /-- The links of two clients go with their last connection. -/
  | parted {iptype : IpType} {src dst : κ} {p q : ClientPtr} {t u v s' : LanState κ ι δ} :
      s.clientInfo src = some p → s.clientInfo dst = some q → countOf q (s.peers p) = 1 →
      linksWith q (s.links p) ≠ 0 → SameLinking s t →
      (Unlinked d iptype p q t u ∨ Unlinked d iptype q p t u) →
      (v = u ∨ ¬(s.awake p = true ∧ s.awake q = true) ∧ linksWith q (u.links p) ≠ 0 ∧
        Unlinked d iptype q p u v) →
      Tacit v s' →
      (∀ x y, ¬(x = p ∧ y = q ∨ x = q ∧ y = p) → countOf y (s'.peers x) = countOf y (s.peers x)) →
      Effect d s (.connection .del iptype src dst) s'

end

section

variable {κ ι δ : Type} {d : LanDriver ι δ} {iptype : IpType}

theorem removeFltLoop_true {client : ClientPtr} {rest : List OffloadLinkInfo}
    {s s' : LanState κ ι δ} {res : Bool}
    (h : removeFltLoop d iptype client rest s = some (res, s'))
    (hback : ∀ l ∈ rest, linksWith client (s.links l.peerPointer) ≠ 0) : res = true := by
  induction rest generalizing s with
  | nil =>
      cases h
      rfl
  | cons l rest ih =>
      simp only [removeFltLoop, Option.bind_eq_bind, Option.bind_eq_some_iff] at h
      obtain ⟨c, hc, p, hp, h⟩ := h
      have hl := hback l List.mem_cons_self
      rw [links_of_node hp] at hl
      split at h
      case h_1 hnone => exact absurd (linksWith_eq_zero_iff.mpr hnone) hl
      case h_2 => exact ih h fun x hx => hback x (List.mem_cons_of_mem l hx)

theorem SameTargets.graph {s s' : LanState κ ι δ} (h : SameTargets s s')
    (hs : LinkGraph s.links) : LinkGraph s'.links := by
  constructor
  · intro p q
    rw [h.linksWith, h.linksWith, hs.symm]
  · intro p
    rw [h.linksWith, hs.irrefl]

theorem addFltLoop_true (hd : AllSucceed d) {client : ClientPtr} {n i : Nat}
    {s s' : LanState κ ι δ} {res : Bool}
    (h : addFltLoop d iptype client n i s = some (res, s')) (hgraph : LinkGraph s.links) :
    res = true := by
  induction n generalizing i s with
  | zero =>
      cases h
      rfl
  | succ n ih =>
      simp only [addFltLoop, Option.bind_eq_bind, Option.bind_eq_some_iff] at h
      obtain ⟨c, hc, l, hl, p, hp, h⟩ := h
      split at h
      case h_1 drv hadd =>
        have hok := hd.addLan2lanFltRule c.pIface iptype c.ip p.ip s.driver
        rw [hadd] at hok
        cases hok
      case h_2 fltHdl drv hadd =>
        simp only [Option.bind_eq_some_iff] at h
        obtain ⟨p', hp', h⟩ := h
        have hown := sameTargets_setNode hc (map_peerPointer_set hl fltHdl)
        have hback : linksWith client p'.link ≠ 0 := by
          have hmem : l ∈ s.links client := by
            rw [links_of_node hc]
            exact List.mem_of_getElem? hl
          rw [← links_of_node hp']
          change linksWith client ((s.setNode client _).links l.peerPointer) ≠ 0
          rw [hown.linksWith, hgraph.symm]
          exact linksWith_pos_of_mem hmem
        split at h
        case h_1 hnone => exact absurd (linksWith_eq_zero_iff.mpr hnone) hback
        case h_2 =>
          split at h
          case h_1 drv' hadd' =>
            have hok := hd.addLan2lanFltRule p'.pIface iptype p'.ip c.ip drv
            rw [hadd'] at hok
            cases hok
          case h_2 fltHdl' drv' hadd' =>
            have hpeer := sameTargets_setNode hp' (map_peerPointer_setFltTo client fltHdl' p'.link)
            exact ih h (hpeer.graph (hown.graph hgraph))

theorem links_eq_nil_iff {s : LanState κ ι δ} {p : ClientPtr} :
    s.links p = [] ↔ ∀ q, linksWith q (s.links p) = 0 := by
  constructor
  · intro h q
    rw [h, linksWith_nil]
  · intro h
    rw [List.eq_nil_iff_forall_not_mem]
    intro x hx
    exact linksWith_pos_of_mem hx (h _)

theorem Unlinked.links_nil {p q x : ClientPtr} {s s' : LanState κ ι δ}
    (h : Unlinked d iptype p q s s') (hx : s.links x = []) : s'.links x = [] := by
  rw [links_eq_nil_iff] at hx ⊢
  intro y
  rw [h.linksWith, hx y, Nat.zero_sub]

theorem keepsCounts_of_eq {s s' : LanState κ ι δ} (h : s'.peers = s.peers) : KeepsCounts s s' := by
  intro p q hcount _
  rw [h]
  exact hcount

variable [DecidableEq κ]

theorem clientActive_effect (hd : AllSucceed d) {key : κ} {data : ClientData ι}
    {s s' : LanState κ ι δ} (hs : LinkBase s) (h : clientActive d key data s = some s') :
    Effect d s (.client .active key data) s' := by
  rw [clientActive] at h
  split at h
  case h_1 hkey =>
    cases h
    have hfree : s.node s.nextNode = none := by
      rw [← Option.not_isSome_iff_eq_none]
      intro hsome
      exact Nat.lt_irrefl _ (hs.peers.keyed.lt_nextNode _ hsome)
    have hlinks : s.links s.nextNode = [] := by
      rw [LanState.links, hfree]
      rfl
    have htacit := Tacit.setNode (c := newClient data) hlinks rfl
    apply Effect.tacit
    · exact ⟨htacit.links, rfl, rfl, htacit.flags⟩
    · apply keepsCounts_of_eq
      change (s.setNode s.nextNode (newClient data)).peers = s.peers
      rw [peers_setNode]
      conv_rhs => rw [← Function.update_eq_self s.nextNode s.peers]
      rw [peers_of_none hfree]
      rfl
  case h_2 client hkey =>
    simp only [Option.bind_eq_bind, Option.bind_eq_some_iff] at h
    obtain ⟨c, hc, h⟩ := h
    split at h
    case isTrue hactive =>
      split at h
      case isTrue =>
        cases h
        exact .tacit (.refl s) (keepsCounts_of_eq rfl)
      case isFalse hmac =>
        simp only [Option.bind_eq_some_iff] at h
        obtain ⟨turned, hturned, ⟨_, u⟩, hcleared, c', hc', h⟩ := h
        cases h
        obtain ⟨t, ht, hunlinks, hempty⟩ :=
          turnoffOffloadLinks_unlinks data.iptype hd hc hs.graph
        rw [ht] at hturned
        cases hturned
        have htpeers := (PeerShrink.of_shape hs.peers hunlinks.shape).inv
        have hlinking := clearPeerList_linking hcleared
        have hulinks : u.links client = [] := by rw [hlinking.links, hempty]
        have hc'link : c'.link = [] := by rw [← links_of_node hc', hulinks]
        refine .turnedOff hkey hc (Or.inl ⟨rfl, hactive, hmac⟩) hunlinks hempty
          ((Tacit.of_linking hlinking).trans (.setNode hulinks hc'link)) ?_
        intro p q hp hq
        obtain ⟨-, -, -, hcount⟩ := clearPeerList_count htpeers hcleared
        rw [peers_setNode, Function.update_of_ne hp, hcount, if_neg (not_or_intro hp hq),
          hunlinks.shape.peers_eq]
    case isFalse hinactive =>
      have hself : (s.setNode client (c.update data)).node client = some (c.update data) :=
        node_setNode_self ..
      simp only [checkPotentialLink, hself, Option.bind_eq_bind, Option.bind_some] at h
      exact .reactivated hkey hc (Bool.eq_false_iff.mpr hinactive) h

theorem clientInactive_effect (hd : AllSucceed d) {key : κ} {data : ClientData ι}
    {s s' : LanState κ ι δ} (hs : LinkBase s) (h : clientInactive d key data s = some s') :
    Effect d s (.client .inactive key data) s' := by
  rw [clientInactive] at h
  split at h
  case h_1 =>
    cases h
    exact .tacit (.refl s) (keepsCounts_of_eq rfl)
  case h_2 client hkey =>
    simp only [Option.bind_eq_bind, Option.bind_eq_some_iff] at h
    obtain ⟨turned, hturned, c', hc', h⟩ := h
    obtain ⟨c, hc⟩ := Option.isSome_iff_exists.mp (hs.peers.keyed.node_of_key _ _ hkey)
    obtain ⟨t, ht, hunlinks, hempty⟩ :=
      turnoffOffloadLinks_unlinks data.iptype hd hc hs.graph
    rw [ht] at hturned
    cases hturned
    have hc'link : c'.link = [] := by rw [← links_of_node hc', hempty]
    have hset : Tacit t (t.setNode client { c' with isActive := false }) :=
      .setNode hempty hc'link
    have hpeers : (t.setNode client { c' with isActive := false }).peers = s.peers := by
      rw [peers_setNode, ← peers_of_node hc', Function.update_eq_self]
      exact funext hunlinks.shape.peers_eq
    have hkey' : (t.setNode client { c' with isActive := false }).clientInfo key = some client := by
      rw [clientInfo_setNode, hunlinks.shape.clientInfo, hkey]
    cases h
    split
    case isTrue hnil =>
      have hnil' : (t.setNode client { c' with isActive := false }).peers client = [] := by
        rw [peers_setNode, Function.update_self]
        exact hnil
      refine .turnedOff hkey hc (Or.inr (Or.inl rfl)) hunlinks hempty
        (hset.trans (.erase hkey' ?_)) ?_
      · rw [hset.links, hempty]
      · intro p q _ _
        rw [peers_erase hkey' hnil', hpeers]
    case isFalse =>
      refine .turnedOff hkey hc (Or.inr (Or.inl rfl)) hunlinks hempty hset ?_
      intro p q _ _
      rw [hpeers]

theorem clientDisconnect_effect (hd : AllSucceed d) {key : κ} {data : ClientData ι}
    {s s' : LanState κ ι δ} (hs : LinkBase s) (h : clientDisconnect d key data s = some s') :
    Effect d s (.client .disconnect key data) s' := by
  rw [clientDisconnect] at h
  split at h
  case h_1 =>
    cases h
    exact .tacit (.refl s) (keepsCounts_of_eq rfl)
  case h_2 client hkey =>
    simp only [Option.bind_eq_bind, Option.bind_eq_some_iff] at h
    obtain ⟨turned, hturned, ⟨_, u⟩, hcleared, h⟩ := h
    cases h
    obtain ⟨c, hc⟩ := Option.isSome_iff_exists.mp (hs.peers.keyed.node_of_key _ _ hkey)
    obtain ⟨t, ht, hunlinks, hempty⟩ :=
      turnoffOffloadLinks_unlinks data.iptype hd hc hs.graph
    rw [ht] at hturned
    cases hturned
    have htpeers := (PeerShrink.of_shape hs.peers hunlinks.shape).inv
    have hlinking := clearPeerList_linking hcleared
    obtain ⟨hkeys, hnil, -, hcount⟩ := clearPeerList_count htpeers hcleared
    have hkey' : u.clientInfo key = some client := by
      rw [hkeys.clientInfo, hunlinks.shape.clientInfo, hkey]
    have hulinks : u.links client = [] := by rw [hlinking.links, hempty]
    refine .turnedOff hkey hc (Or.inr (Or.inr rfl)) hunlinks hempty
      ((Tacit.of_linking hlinking).trans (.erase hkey' hulinks)) ?_
    intro p q hp hq
    rw [peers_erase hkey' hnil, hcount, if_neg (not_or_intro hp hq), hunlinks.shape.peers_eq]

omit [DecidableEq κ] in
theorem clientPowerSave_effect {key : κ} {data : ClientData ι}
    {s s' : LanState κ ι δ} (hs : LinkBase s) (h : clientPowerSave d key data s = some s') :
    Effect d s (.client .powerSave key data) s' := by
  rw [clientPowerSave] at h
  split at h
  case h_1 =>
    cases h
    exact .tacit (.refl s) (keepsCounts_of_eq rfl)
  case h_2 client hkey =>
    simp only [Option.bind_eq_bind, Option.bind_eq_some_iff, removeFltRules] at h
    obtain ⟨⟨res, t⟩, ⟨c, hc, hremoved⟩, h⟩ := h
    have hres := removeFltLoop_true hremoved (by
      intro l hl
      rw [hs.graph.symm, links_of_node hc]
      exact linksWith_pos_of_mem hl)
    subst hres
    have htable := removeFltLoop_table hremoved
    have hct : t.node client = some c := by rw [htable, hc]
    simp only [Bool.true_eq_false, if_false, hct, Option.bind_some] at h
    cases h
    exact .suspended hkey hc hremoved

omit [DecidableEq κ] in
theorem clientPowerRecover_effect (hd : AllSucceed d) {key : κ} {data : ClientData ι}
    {s s' : LanState κ ι δ} (hs : LinkBase s) (h : clientPowerRecover d key data s = some s') :
    Effect d s (.client .powerRecover key data) s' := by
  rw [clientPowerRecover] at h
  split at h
  case h_1 =>
    cases h
    exact .tacit (.refl s) (keepsCounts_of_eq rfl)
  case h_2 client hkey =>
    simp only [Option.bind_eq_bind, Option.bind_eq_some_iff] at h
    obtain ⟨c, hc, h⟩ := h
    split at h
    case isTrue =>
      cases h
      exact .tacit (.refl s) (keepsCounts_of_eq rfl)
    case isFalse hstate =>
      rw [not_or, not_not] at hstate
      simp only [addFltRules, hc, Option.bind_eq_bind, Option.bind_some,
        Option.bind_eq_some_iff] at h
      obtain ⟨⟨res, t⟩, hadded, h⟩ := h
      have hres := addFltLoop_true hd hadded hs.graph
      subst hres
      simp only [Bool.true_eq_false, if_false, Option.bind_eq_some_iff] at h
      obtain ⟨c', hc', h⟩ := h
      have hself : (t.setNode client { c' with isActive := true, isPowersave := false }).node
          client = some { c' with isActive := true, isPowersave := false } :=
        node_setNode_self ..
      simp only [checkPotentialLink, hself, Option.bind_eq_bind, Option.bind_some] at h
      obtain ⟨links, hlinks⟩ := (addFltLoop_shape d _ hadded).node_some hc
      rw [hc'] at hlinks
      cases hlinks
      exact .resumed hkey hc (Bool.eq_false_iff.mpr hstate.1) hstate.2 hadded hc' h

omit [DecidableEq κ] in
theorem keepsCounts_of_add {p q : ClientPtr} {s t : LanState κ ι δ} (hs : PeerInv s)
    (hcount : ∀ x y, countOf y (t.peers x) =
      countOf y (s.peers x) + if x = p ∧ y = q ∨ x = q ∧ y = p then 1 else 0) :
    KeepsCounts s t := by
  intro x y hne _
  have hnonneg := (hs.graph.list x).countOf_nonneg y
  rw [hcount]
  split
  · omega
  · omega

omit [DecidableEq κ] in
theorem newLan2lanConnection_effect (hd : AllSucceed d) {iptype : IpType} {src dst : κ}
    {s s' : LanState κ ι δ} (hne : src ≠ dst) (hs : LinkBase s)
    (h : newLan2lanConnection d iptype src dst s = some s') :
    Effect d s (.connection .new iptype src dst) s' := by
  rw [newLan2lanConnection] at h
  split at h
  case h_2 =>
    cases h
    exact .tacit (.refl s) (keepsCounts_of_eq rfl)
  case h_1 p q hsrc hdst =>
    have hptr : p ≠ q := fun heq =>
      hne (hs.peers.keyed.injective _ _ _ hsrc (heq ▸ hdst))
    simp only [Option.bind_eq_bind, Option.bind_eq_some_iff] at h
    obtain ⟨⟨res, t⟩, hadded, cp, hp, cq, hq, h⟩ := h
    obtain ⟨-, hres, -, hcount⟩ := addConnection_spec hptr hs.peers hadded
    have hlinking := addConnection_linking hadded
    have hkeep := keepsCounts_of_add hs.peers hcount
    have htacit : Effect d s (.connection .new iptype src dst) t :=
      .tacit (.of_linking hlinking) hkeep
    split at h
    case isFalse =>
      cases h
      exact htacit
    case isTrue hfirst =>
      simp only [Bool.and_eq_true] at hfirst
      rcases Classical.em (iptype = .max ∨ maxOffloadPair ≤ t.numOffloadPair.toNat)
        with hfull | hopen
      · simp only [addOffloadLink_full hfull, Option.bind_some, if_true] at h
        cases h
        exact htacit
      · rw [not_or, Nat.not_le] at hopen
        obtain ⟨u, v, hu, hv, hlinked⟩ := addOffloadLink_pair hd hptr hp hq hopen.1 hopen.2
        simp only [hu, hv, Option.bind_some, Bool.true_eq_false, if_false] at h
        cases h
        have hpeers : ∀ x, ({ v with numOffloadPair := v.numOffloadPair + 1 } :
            LanState κ ι δ).peers x = t.peers x := hlinked.shape.peers_eq
        have hzero : countOf q (s.peers p) = 0 := hres.mp hfirst.1.1
        refine .connected hsrc hdst hzero hlinking ?_ ?_ hlinked ?_ ?_
        · rw [awake_of_node hp]
          exact hfirst.1.2
        · rw [awake_of_node hq]
          exact hfirst.2
        · intro x y hx hy
          rw [hpeers]
          exact hkeep x y hx hy
        · rw [hpeers, hcount, hzero, if_pos (Or.inl ⟨rfl, rfl⟩)]
          decide

theorem eraseIdle_tacit {s s' : LanState κ ι δ} {key : κ} {client : ClientPtr}
    (hkey : s.clientInfo key = some client)
    (hidle : s.flags client = some (false, false) → s.links client = [])
    (h : eraseIdle key client s = some s') :
    Tacit s s' ∧ s'.peers = s.peers := by
  simp only [eraseIdle, Option.bind_eq_bind, Option.bind_eq_some_iff] at h
  obtain ⟨c, hc, h⟩ := h
  cases h
  split
  case isTrue hcond =>
    have hflags : s.flags client = some (false, false) := by
      rw [LanState.flags, hc, Option.map_some, hcond.1, hcond.2.1]
    refine ⟨.erase hkey (hidle hflags), peers_erase hkey ?_⟩
    rw [peers_of_node hc]
    exact hcond.2.2
  case isFalse => exact ⟨.refl s, rfl⟩

omit [DecidableEq κ] in
theorem eraseLastLinks_unlinked (hd : AllSucceed d) {iptype : IpType} {p q : ClientPtr}
    (hne : p ≠ q) {t u : LanState κ ι δ} {cp cq : ClientInfo ι} (hp : t.node p = some cp)
    (hq : t.node q = some cq) (hgraph : LinkGraph t.links)
    (hidle : ∀ x, t.flags x = some (false, false) → t.links x = [])
    (hlinked : linksWith q (t.links p) ≠ 0)
    (h : eraseLastLinks d iptype p q t = some u) :
    ∃ v, (Unlinked d iptype p q t v ∨ Unlinked d iptype q p t v) ∧
      (u = v ∨ ¬(t.awake p = true ∧ t.awake q = true) ∧ linksWith q (v.links p) ≠ 0 ∧
        Unlinked d iptype q p v u) := by
  have hlinked' : linksWith p (t.links q) ≠ 0 := by rw [hgraph.symm]; exact hlinked
  have hawake : ∀ {x y : ClientPtr} {c : ClientInfo ι}, t.node x = some c →
      linksWith y (t.links x) ≠ 0 → c.isActive = true ∨ c.isPowersave = true := by
    intro x y c hc hy
    have hflags : t.flags x ≠ some (false, false) := fun hf => by
      rw [hidle x hf, linksWith_nil] at hy
      exact hy rfl
    rw [LanState.flags, hc, Option.map_some] at hflags
    rcases hca : c.isActive with _ | _
    · rcases hcp : c.isPowersave with _ | _
      · rw [hca, hcp] at hflags
        exact absurd rfl hflags
      · exact Or.inr rfl
    · exact Or.inl rfl
  have hpa := hawake hp hlinked
  have hqa := hawake hq hlinked'
  simp only [eraseLastLinks, hp, hq, Option.bind_eq_bind, Option.bind_some] at h
  split at h
  case isTrue =>
    rcases eraseOffloadLink_spec iptype hd hne hp hq hgraph with
      ⟨hzero, -⟩ | ⟨-, v, hv, hunlinked⟩
    · exact absurd hzero hlinked
    · rw [hv] at h
      cases h
      exact ⟨_, Or.inl hunlinked, Or.inl rfl⟩
  case isFalse hnot =>
    have hasleep : ¬(t.awake p = true ∧ t.awake q = true) := by
      rw [awake_of_node hp, awake_of_node hq, ← Bool.and_eq_true]
      exact hnot
    obtain ⟨v, hv, h⟩ := Option.bind_eq_some_iff.mp h
    cases hps : cp.isPowersave with
    | true =>
        have hcond : (cp.isPowersave && (cq.isActive || cq.isPowersave)) = true := by
          rw [hps, Bool.true_and, Bool.or_eq_true]
          exact hqa
        rw [if_pos hcond] at hv
        rcases eraseOffloadLink_spec iptype hd hne hp hq hgraph with
          ⟨hzero, -⟩ | ⟨-, v', hv', hunlinked⟩
        · exact absurd hzero hlinked
        · rw [hv'] at hv
          cases hv
          refine ⟨v, Or.inl hunlinked, ?_⟩
          split at h
          case isFalse =>
            cases h
            exact Or.inl rfl
          case isTrue =>
            obtain ⟨lp, hvp⟩ := hunlinked.shape.node_some hp
            obtain ⟨lq, hvq⟩ := hunlinked.shape.node_some hq
            have hvgraph := hunlinked.graph hgraph
            rcases eraseOffloadLink_spec iptype hd hne.symm hvq hvp hvgraph with
              ⟨-, hsame⟩ | ⟨hmore, w, hw, hagain⟩
            · rw [hsame] at h
              cases h
              exact Or.inl rfl
            · rw [hw] at h
              cases h
              refine Or.inr ⟨hasleep, ?_, hagain⟩
              rw [hvgraph.symm]
              exact hmore
    | false =>
        have hcp : cp.isActive = true := hpa.resolve_right (by rw [hps]; decide)
        have hcq : cq.isPowersave = true := by
          refine hqa.resolve_left fun hcq => hnot ?_
          rw [hcp, hcq]
          rfl
        rw [hps, Bool.false_and, if_neg Bool.false_ne_true] at hv
        cases hv
        rw [hcp, hcq, Bool.true_or, Bool.true_and, if_pos rfl] at h
        rcases eraseOffloadLink_spec iptype hd hne.symm hq hp hgraph with
          ⟨hzero, -⟩ | ⟨-, v, hv, hunlinked⟩
        · exact absurd hzero hlinked'
        · rw [hv] at h
          cases h
          exact ⟨_, Or.inr hunlinked, Or.inl rfl⟩

omit [DecidableEq κ] in
theorem eraseLastLinks_none (hd : AllSucceed d) {iptype : IpType} {p q : ClientPtr}
    (hne : p ≠ q) {t u : LanState κ ι δ} {cp cq : ClientInfo ι} (hp : t.node p = some cp)
    (hq : t.node q = some cq) (hgraph : LinkGraph t.links)
    (hzero : linksWith q (t.links p) = 0)
    (h : eraseLastLinks d iptype p q t = some u) : u = t := by
  have hzero' : linksWith p (t.links q) = 0 := by rw [hgraph.symm, hzero]
  have hthere : eraseOffloadLink d iptype p q t = some t := by
    rcases eraseOffloadLink_spec iptype hd hne hp hq hgraph with ⟨-, h⟩ | ⟨hno, -⟩
    · exact h
    · exact absurd hzero hno
  have hback : eraseOffloadLink d iptype q p t = some t := by
    rcases eraseOffloadLink_spec iptype hd hne.symm hq hp hgraph with ⟨-, h⟩ | ⟨hno, -⟩
    · exact h
    · exact absurd hzero' hno
  simp only [eraseLastLinks, hp, hq, hthere, hback, Option.bind_eq_bind, Option.bind_some,
    ite_self] at h
  exact (Option.some.inj h).symm

theorem clientInfo_eraseIdle {s s' : LanState κ ι δ} {key k : κ} {client : ClientPtr}
    (h : eraseIdle key client s = some s') (hk : k ≠ key) : s'.clientInfo k = s.clientInfo k := by
  simp only [eraseIdle, Option.bind_eq_bind, Option.bind_eq_some_iff] at h
  obtain ⟨c, hc, h⟩ := h
  cases h
  split
  · exact clientInfo_erase_of_ne hk
  · rfl

theorem delLan2lanConnection_effect (hd : AllSucceed d) {iptype : IpType} {src dst : κ}
    {s s' : LanState κ ι δ} (hne : src ≠ dst) (hs : LinkBase s)
    (h : delLan2lanConnection d iptype src dst s = some s') :
    Effect d s (.connection .del iptype src dst) s' := by
  rw [delLan2lanConnection] at h
  split at h
  case h_2 =>
    cases h
    exact .tacit (.refl s) (keepsCounts_of_eq rfl)
  case h_1 p q hsrc hdst =>
    have hptr : p ≠ q := fun heq =>
      hne (hs.peers.keyed.injective _ _ _ hsrc (heq ▸ hdst))
    simp only [Option.bind_eq_bind, Option.bind_eq_some_iff] at h
    obtain ⟨⟨res, t⟩, hremoved, h⟩ := h
    obtain ⟨hkeys, hres, -, hcount⟩ := removeConnection_spec hptr hs.peers hremoved
    have hlinking := removeConnection_linking hremoved
    have hothers : ∀ x y, ¬(x = p ∧ y = q ∨ x = q ∧ y = p) →
        countOf y (t.peers x) = countOf y (s.peers x) := by
      intro x y hxy
      rw [hcount, if_neg (fun hc => hxy hc.1), Int.sub_zero]
    split at h
    case isFalse hmore =>
      cases h
      refine .tacit (.of_linking hlinking) ?_
      intro x y hx _
      have hnot := mt hres.mpr hmore
      rw [hcount]
      split
      case isTrue hpair =>
        rcases hpair.1 with ⟨rfl, rfl⟩ | ⟨rfl, rfl⟩
        · omega
        · rw [hs.peers.graph.symm] at hx ⊢
          omega
      case isFalse => omega
    case isTrue hlast =>
      simp only [Option.bind_eq_some_iff] at h
      obtain ⟨u, hlinks, v, hv, h⟩ := h
      have hgraph : LinkGraph t.links := hlinking.links ▸ hs.graph
      have hidle : ∀ x, t.flags x = some (false, false) → t.links x = [] := by
        intro x hx
        rw [hlinking.links]
        exact hs.idle x (by rw [← hlinking.flags, hx])
      have hshape := eraseLastLinks_shape hlinks
      have hsrc' : u.clientInfo src = some p := by rw [hshape.clientInfo, hkeys.clientInfo, hsrc]
      have hdst' : v.clientInfo dst = some q := by
        rw [clientInfo_eraseIdle hv hne.symm, hshape.clientInfo, hkeys.clientInfo, hdst]
      obtain ⟨cp, hp⟩ := Option.isSome_iff_exists.mp
        ((hkeys.isSome p).trans (hs.peers.keyed.node_of_key _ _ hsrc))
      obtain ⟨cq, hq⟩ := Option.isSome_iff_exists.mp
        ((hkeys.isSome q).trans (hs.peers.keyed.node_of_key _ _ hdst))
      -- the entries that go have no links
      have hgone : (∀ x, u.flags x = some (false, false) → u.links x = []) →
          Tacit u s' ∧ ∀ x, s'.peers x = t.peers x := by
        intro huidle
        obtain ⟨hfirst, hpeers⟩ := eraseIdle_tacit hsrc' (huidle p) hv
        obtain ⟨hsecond, hpeers'⟩ := eraseIdle_tacit hdst' (by
          intro hflags
          rw [hfirst.links]
          rcases eq_or_ne (u.links q) [] with hnil | hsome
          · exact hnil
          · rw [hfirst.flags q hsome] at hflags
            exact huidle q hflags) h
        refine ⟨hfirst.trans hsecond, ?_⟩
        intro x
        rw [hpeers', hpeers, hshape.peers_eq]
      rcases eq_or_ne (linksWith q (s.links p)) 0 with hzero | hlinked
      · have hut : u = t := eraseLastLinks_none hd hptr hp hq hgraph
          (by rw [hlinking.links, hzero]) hlinks
        obtain ⟨htacit, hpeers⟩ := hgone (hut ▸ hidle)
        rw [hut] at htacit
        refine .tacit ((Tacit.of_linking hlinking).trans htacit) ?_
        intro x y hx hxy
        rw [hpeers, hothers]
        · exact hx
        · rintro (⟨rfl, rfl⟩ | ⟨rfl, rfl⟩)
          · exact hxy hzero
          · rw [hs.graph.symm] at hxy
            exact hxy hzero
      · have hlinked' : linksWith q (t.links p) ≠ 0 := by rw [hlinking.links]; exact hlinked
        obtain ⟨w, hw, hwu⟩ :=
          eraseLastLinks_unlinked hd hptr hp hq hgraph hidle hlinked' hlinks
        have huidle : ∀ x, u.flags x = some (false, false) → u.links x = [] := by
          intro x hx
          rw [hshape.flags_eq] at hx
          have hnil : w.links x = [] := by
            rcases hw with hw | hw
            · exact hw.links_nil (hidle x hx)
            · exact hw.links_nil (hidle x hx)
          rcases hwu with rfl | ⟨-, -, hwu⟩
          · exact hnil
          · exact hwu.links_nil hnil
        obtain ⟨htacit, hpeers⟩ := hgone huidle
        have hawake : ∀ x, t.awake x = s.awake x := by
          intro x
          rw [LanState.awake, LanState.awake, hlinking.flags]
        refine .parted hsrc hdst (hres.mp hlast) hlinked hlinking hw ?_ htacit ?_
        · rw [hawake, hawake] at hwu
          exact hwu
        · intro x y hxy
          rw [hpeers, hothers x y hxy]

theorem tableStep_effect (hd : AllSucceed d) {e : TableEvent κ ι} {s s' : LanState κ ι δ}
    (hdistinct : e.Distinct) (hs : LinkBase s) (h : tableStep d s e = some s') :
    Effect d s e s' := by
  cases e with
  | client id key data =>
      cases id with
      | active => exact clientActive_effect hd hs h
      | inactive => exact clientInactive_effect hd hs h
      | disconnect => exact clientDisconnect_effect hd hs h
      | powerSave => exact clientPowerSave_effect hs h
      | powerRecover => exact clientPowerRecover_effect hd hs h
  | connection id iptype src dst =>
      cases id with
      | new => exact newLan2lanConnection_effect hd hdistinct hs h
      | del => exact delLan2lanConnection_effect hd hdistinct hs h

end

end LibraDevice.LanToLan
