import LibraDevice.LanToLan.Events
import Mathlib.Data.List.Basic

/-!
What the operations on links leave alone: the entries of the table and all of
their contents except the link lists.
-/

namespace LibraDevice.LanToLan

section

variable {κ ι δ : Type}

def LanState.links (s : LanState κ ι δ) (client : ClientPtr) : List OffloadLinkInfo :=
  ((s.node client).map ClientInfo.link).getD []

def LanState.peers (s : LanState κ ι δ) (client : ClientPtr) : List PeerInfo :=
  ((s.node client).map ClientInfo.peer).getD []

/-- `is_active` and `is_powersave` of an entry. -/
def LanState.flags (s : LanState κ ι δ) (client : ClientPtr) : Option (Bool × Bool) :=
  (s.node client).map fun c => (c.isActive, c.isPowersave)

/-- The client has an entry and is active. -/
def LanState.awake (s : LanState κ ι δ) (client : ClientPtr) : Bool :=
  (s.flags client).any Prod.fst

theorem awake_of_node {s : LanState κ ι δ} {p : ClientPtr} {c : ClientInfo ι}
    (h : s.node p = some c) : s.awake p = c.isActive := by
  rw [LanState.awake, LanState.flags, h]
  rfl

theorem links_of_node {s : LanState κ ι δ} {p : ClientPtr} {c : ClientInfo ι}
    (h : s.node p = some c) : s.links p = c.link := by
  rw [LanState.links, h]
  rfl

theorem peers_of_node {s : LanState κ ι δ} {p : ClientPtr} {c : ClientInfo ι}
    (h : s.node p = some c) : s.peers p = c.peer := by
  rw [LanState.peers, h]
  rfl

theorem node_of_mem_links {s : LanState κ ι δ} {p : ClientPtr} {l : OffloadLinkInfo}
    (h : l ∈ s.links p) : ∃ c, s.node p = some c ∧ l ∈ c.link := by
  rw [LanState.links] at h
  cases hp : s.node p with
  | none =>
      rw [hp] at h
      cases h
  | some c =>
      rw [hp] at h
      exact ⟨c, rfl, h⟩

theorem node_of_mem_peers {s : LanState κ ι δ} {p : ClientPtr} {e : PeerInfo}
    (h : e ∈ s.peers p) : ∃ c, s.node p = some c ∧ e ∈ c.peer := by
  rw [LanState.peers] at h
  cases hp : s.node p with
  | none =>
      rw [hp] at h
      cases h
  | some c =>
      rw [hp] at h
      exact ⟨c, rfl, h⟩

@[simp] theorem node_setNode_self (s : LanState κ ι δ) (p : ClientPtr) (c : ClientInfo ι) :
    (s.setNode p c).node p = some c :=
  Function.update_self _ _ _

theorem node_setNode_of_ne (s : LanState κ ι δ) {p q : ClientPtr} (h : q ≠ p)
    (c : ClientInfo ι) : (s.setNode p c).node q = s.node q :=
  Function.update_of_ne h _ _

@[simp] theorem clientInfo_setNode (s : LanState κ ι δ) (p : ClientPtr) (c : ClientInfo ι) :
    (s.setNode p c).clientInfo = s.clientInfo := rfl

@[simp] theorem nextNode_setNode (s : LanState κ ι δ) (p : ClientPtr) (c : ClientInfo ι) :
    (s.setNode p c).nextNode = s.nextNode := rfl

@[simp] theorem numOffloadPair_setNode (s : LanState κ ι δ) (p : ClientPtr) (c : ClientInfo ι) :
    (s.setNode p c).numOffloadPair = s.numOffloadPair := rfl

@[simp] theorem driver_setNode (s : LanState κ ι δ) (p : ClientPtr) (c : ClientInfo ι) :
    (s.setNode p c).driver = s.driver := rfl

/-- An entry without its links. -/
def ClientInfo.unlinked (c : ClientInfo ι) : ClientInfo ι := { c with link := [] }

/-- The states differ in the links, the number of pairs and the driver only. -/
structure SameShape (s s' : LanState κ ι δ) : Prop where
  clientInfo : s'.clientInfo = s.clientInfo
  nextNode : s'.nextNode = s.nextNode
  node : ∀ p, (s'.node p).map ClientInfo.unlinked = (s.node p).map ClientInfo.unlinked

namespace SameShape

theorem refl (s : LanState κ ι δ) : SameShape s s := ⟨rfl, rfl, fun _ => rfl⟩

theorem trans {s t u : LanState κ ι δ} (h : SameShape s t) (h' : SameShape t u) :
    SameShape s u :=
  ⟨h'.clientInfo.trans h.clientInfo, h'.nextNode.trans h.nextNode,
    fun p => (h'.node p).trans (h.node p)⟩

theorem of_node_eq {s s' : LanState κ ι δ} (hc : s'.clientInfo = s.clientInfo)
    (hn : s'.nextNode = s.nextNode) (hnode : s'.node = s.node) : SameShape s s' :=
  ⟨hc, hn, fun p => by rw [hnode]⟩

theorem of_setLink {s s' : LanState κ ι δ} {p : ClientPtr} {c : ClientInfo ι}
    {links : List OffloadLinkInfo} (hc : s.node p = some c)
    (hclient : s'.clientInfo = s.clientInfo) (hnext : s'.nextNode = s.nextNode)
    (hnode : s'.node = (s.setNode p { c with link := links }).node) : SameShape s s' := by
  refine ⟨hclient, hnext, ?_⟩
  intro q
  rw [hnode]
  rcases eq_or_ne q p with rfl | hne
  · rw [node_setNode_self, hc]
    rfl
  · rw [node_setNode_of_ne s hne]

theorem isSome {s s' : LanState κ ι δ} (h : SameShape s s') (p : ClientPtr) :
    (s'.node p).isSome = (s.node p).isSome := by
  have hp := congrArg Option.isSome (h.node p)
  simpa using hp

theorem peers_eq {s s' : LanState κ ι δ} (h : SameShape s s') (p : ClientPtr) :
    s'.peers p = s.peers p := by
  have hp := congrArg (fun o => (o.map ClientInfo.peer).getD []) (h.node p)
  simp only [Option.map_map] at hp
  exact hp

theorem flags_eq {s s' : LanState κ ι δ} (h : SameShape s s') (p : ClientPtr) :
    s'.flags p = s.flags p := by
  have hp := congrArg (Option.map fun c => (c.isActive, c.isPowersave)) (h.node p)
  simp only [Option.map_map] at hp
  exact hp

theorem node_some {s s' : LanState κ ι δ} (h : SameShape s s') {p : ClientPtr} {c : ClientInfo ι}
    (hc : s.node p = some c) : ∃ links, s'.node p = some { c with link := links } := by
  have hp := h.node p
  rw [hc] at hp
  obtain ⟨c', hc', heq⟩ := Option.map_eq_some_iff.mp hp
  refine ⟨c'.link, hc'.trans ?_⟩
  have hcopy : c' = { c'.unlinked with link := c'.link } := rfl
  rw [hcopy, heq]
  rfl

end SameShape

variable (d : LanDriver ι δ) (iptype : IpType)

theorem addOffloadLink_shape {client peer : ClientPtr} {s s' : LanState κ ι δ} {res : Bool}
    (h : addOffloadLink d iptype client peer s = some (res, s')) : SameShape s s' := by
  rw [addOffloadLink] at h
  split at h
  · cases h
    exact .refl s
  · simp only [Option.bind_eq_bind, Option.bind_eq_some_iff] at h
    obtain ⟨c, hc, p, hp, h⟩ := h
    split at h
    · cases h
      exact .of_node_eq rfl rfl rfl
    · cases h
      exact .of_setLink hc rfl rfl rfl

theorem turnoffLoop_shape {client : ClientPtr} {links : List OffloadLinkInfo}
    {s s' : LanState κ ι δ} {res : Bool}
    (h : turnoffLoop d iptype client links s = some (res, s')) : SameShape s s' := by
  induction links generalizing s with
  | nil =>
      simp only [turnoffLoop, Option.bind_eq_bind, Option.bind_eq_some_iff] at h
      obtain ⟨c, hc, h⟩ := h
      cases h
      exact .of_setLink hc rfl rfl rfl
  | cons l rest ih =>
      simp only [turnoffLoop, Option.bind_eq_bind, Option.bind_eq_some_iff] at h
      obtain ⟨c, hc, p, hp, h⟩ := h
      split at h
      · cases h
        exact .of_node_eq rfl rfl rfl
      split at h
      · cases h
        exact .of_node_eq rfl rfl rfl
      split at h
      · cases h
        exact .of_node_eq rfl rfl rfl
      split at h
      · cases h
      · refine SameShape.trans ?_ (ih h)
        exact .of_setLink hp rfl rfl rfl

theorem turnoffOffloadLinks_shape {client : ClientPtr} {s s' : LanState κ ι δ} {res : Bool}
    (h : turnoffOffloadLinks d iptype client s = some (res, s')) : SameShape s s' := by
  simp only [turnoffOffloadLinks, Option.bind_eq_bind, Option.bind_eq_some_iff] at h
  obtain ⟨c, hc, h⟩ := h
  exact turnoffLoop_shape d iptype h

theorem removeFltLoop_shape {client : ClientPtr} {links : List OffloadLinkInfo}
    {s s' : LanState κ ι δ} {res : Bool}
    (h : removeFltLoop d iptype client links s = some (res, s')) : SameShape s s' := by
  induction links generalizing s with
  | nil =>
      cases h
      exact .refl _
  | cons l rest ih =>
      simp only [removeFltLoop, Option.bind_eq_bind, Option.bind_eq_some_iff] at h
      obtain ⟨c, hc, p, hp, h⟩ := h
      split at h
      · cases h
        exact .of_node_eq rfl rfl rfl
      · refine SameShape.trans ?_ (ih h)
        exact .of_node_eq rfl rfl rfl

theorem addFltLoop_shape {client : ClientPtr} {n i : Nat} {s s' : LanState κ ι δ} {res : Bool}
    (h : addFltLoop d iptype client n i s = some (res, s')) : SameShape s s' := by
  induction n generalizing i s with
  | zero =>
      cases h
      exact .refl _
  | succ n ih =>
      simp only [addFltLoop, Option.bind_eq_bind, Option.bind_eq_some_iff] at h
      obtain ⟨c, hc, l, hl, p, hp, h⟩ := h
      split at h
      · cases h
        exact .of_node_eq rfl rfl rfl
      · rename_i fltHdl drv hadd
        have hown : SameShape s
            { s.setNode client { c with link := c.link.set i { l with fltRuleHdl := fltHdl } }
              with driver := drv } :=
          .of_setLink hc rfl rfl rfl
        simp only [Option.bind_eq_some_iff] at h
        obtain ⟨p', hp', h⟩ := h
        split at h
        · cases h
          exact hown
        split at h
        · cases h
          exact hown.trans (.of_node_eq rfl rfl rfl)
        · refine SameShape.trans ?_ (ih h)
          refine hown.trans ?_
          exact .of_setLink hp' rfl rfl rfl

theorem checkPotentialLoop_shape {client : ClientPtr} {peers : List PeerInfo}
    {s s' : LanState κ ι δ} (h : checkPotentialLoop d iptype client peers s = some s') :
    SameShape s s' := by
  induction peers generalizing s with
  | nil =>
      cases h
      exact .refl _
  | cons e rest ih =>
      simp only [checkPotentialLoop, Option.bind_eq_bind, Option.bind_eq_some_iff] at h
      obtain ⟨p, hp, h⟩ := h
      split at h
      · simp only [Option.bind_eq_some_iff] at h
        obtain ⟨there, hthere, back, hback, h⟩ := h
        have hboth := (addOffloadLink_shape d iptype hthere).trans
          (addOffloadLink_shape d iptype hback)
        apply hboth.trans
        split at h
        · refine SameShape.trans ?_ (ih h)
          exact .of_node_eq rfl rfl rfl
        · exact ih h
      · exact ih h

theorem checkPotentialLink_shape {client : ClientPtr} {s s' : LanState κ ι δ}
    (h : checkPotentialLink d iptype client s = some s') : SameShape s s' := by
  simp only [checkPotentialLink, Option.bind_eq_bind, Option.bind_eq_some_iff] at h
  obtain ⟨c, hc, h⟩ := h
  exact checkPotentialLoop_shape d iptype h

theorem eraseLinkTo_shape {client peer : ClientPtr} {s s' : LanState κ ι δ} {res : Bool}
    (h : eraseLinkTo d iptype client peer s = some (res, s')) : SameShape s s' := by
  simp only [eraseLinkTo, Option.bind_eq_bind, Option.bind_eq_some_iff] at h
  obtain ⟨c, hc, h⟩ := h
  split at h
  · cases h
    exact .refl s
  · simp only [Option.bind_eq_some_iff] at h
    obtain ⟨p, hp, h⟩ := h
    cases h
    exact .of_setLink hc rfl rfl rfl

theorem eraseOffloadLink_shape {src dst : ClientPtr} {s s' : LanState κ ι δ}
    (h : eraseOffloadLink d iptype src dst s = some s') : SameShape s s' := by
  simp only [eraseOffloadLink, Option.bind_eq_bind, Option.bind_eq_some_iff] at h
  obtain ⟨there, hthere, back, hback, h⟩ := h
  have hboth := (eraseLinkTo_shape d iptype hthere).trans (eraseLinkTo_shape d iptype hback)
  cases h
  apply hboth.trans
  split
  · exact .of_node_eq rfl rfl rfl
  · exact .refl _

end

end LibraDevice.LanToLan
