import LibraDevice.LanToLan.Dangling
import LibraDevice.LanToLan.Owners

/-!
Offload links are added in two directions, each in three steps that may fail. A ledger beside
the driver holds what is installed.
-/

namespace LibraDevice.LanToLan

open LibraDevice.StepRun

/-- What is installed for a link: with the interface it is on, and its handle. -/
inductive LinkRule (ι : Type) where
  | hdr (iface : ι) (iptype : IpType) (hdl : Nat)
  | rt (iface : ι) (iptype : IpType) (hdl : RtRuleHdl)
  | flt (iface : ι) (iptype : IpType) (hdl : Nat)
deriving DecidableEq, Repr

section

variable {κ ι δ : Type} [DecidableEq ι]

/-- What a successful addition installs. -/
def installs {β : Type} (rule : β → LinkRule ι) (res : Option β × δ) (live : List (LinkRule ι)) :
    Option β × (δ × List (LinkRule ι)) :=
  (res.1, res.2, (res.1.map rule).toList ++ live)

/-- What a successful deletion removes. -/
def removes (rule : LinkRule ι) (res : Bool × δ) (live : List (LinkRule ι)) :
    Bool × (δ × List (LinkRule ι)) :=
  (res.1, res.2, if res.1 then live.erase rule else live)

/-- A driver with a ledger of what it has installed. -/
def ledger (d : LanDriver ι δ) : LanDriver ι (δ × List (LinkRule ι)) where
  addLan2lanHdr i t mac mac' x := installs (.hdr i t) (d.addLan2lanHdr i t mac mac' x.1) x.2
  addLan2lanRtRule i t ip ip' h x :=
    installs (.rt i t) (d.addLan2lanRtRule i t ip ip' h x.1) x.2
  addLan2lanFltRule i t ip ip' x := installs (.flt i t) (d.addLan2lanFltRule i t ip ip' x.1) x.2
  delLan2lanFltRule i t h x := removes (.flt i t h) (d.delLan2lanFltRule i t h x.1) x.2
  delLan2lanRtRule i t h x := removes (.rt i t h) (d.delLan2lanRtRule i t h x.1) x.2
  delLan2lanHdr i t h x := removes (.hdr i t h) (d.delLan2lanHdr i t h x.1) x.2

/-- No deletion fails. -/
structure DeletesSucceed (d : LanDriver ι δ) : Prop where
  delFlt : ∀ i t h x, (d.delLan2lanFltRule i t h x).1 = true
  delRt : ∀ i t h x, (d.delLan2lanRtRule i t h x).1 = true
  delHdr : ∀ i t h x, (d.delLan2lanHdr i t h x).1 = true

/-- What is installed for one direction of a link, on the interfaces of its ends. -/
def directionRules (iptype : IpType) (client peer : ι) (h : Nat × RtRuleHdl × Nat) :
    List (LinkRule ι) :=
  [.flt client iptype h.1, .rt peer iptype h.2.1, .hdr peer iptype h.2.2]

theorem addLinkRules_ledger {d : LanDriver ι δ} (hd : DeletesSucceed d) (iptype : IpType)
    (client peer : ClientInfo ι) (x : δ) (live : List (LinkRule ι)) :
    addLinkRules (ledger d) iptype client peer (x, live) =
      ((addLinkRules d iptype client peer x).1, (addLinkRules d iptype client peer x).2,
        ((addLinkRules d iptype client peer x).1.map
          (directionRules iptype client.pIface peer.pIface)).getD [] ++ live) := by
  rcases hhdr : d.addLan2lanHdr peer.pIface iptype client.macAddr peer.macAddr x with
    ⟨_ | hdr, x₁⟩
  · simp [addLinkRules, ledger, installs, hhdr]
  · rcases hrt : d.addLan2lanRtRule peer.pIface iptype client.ip peer.ip hdr x₁ with ⟨_ | rt, x₂⟩
    · simp [addLinkRules, ledger, installs, removes, hhdr, hrt, hd.delHdr]
    · rcases hflt : d.addLan2lanFltRule client.pIface iptype client.ip peer.ip x₂ with
        ⟨_ | flt, x₃⟩
      · simp [addLinkRules, ledger, installs, removes, hhdr, hrt, hflt, hd.delHdr, hd.delRt]
      · simp [addLinkRules, ledger, installs, hhdr, hrt, hflt, directionRules]

end

section

variable {κ ι δ : Type}

/-- What is installed for a link entry. -/
def OffloadLinkInfo.rules (iptype : IpType) (client peer : ι) (l : OffloadLinkInfo) :
    List (LinkRule ι) :=
  directionRules iptype client peer (l.fltRuleHdl, l.rtRuleHdl, l.hdrHdl)

/-- There is room for a pair of the IP type. -/
def Room (iptype : IpType) (num : UInt8) : Prop :=
  iptype ≠ .max ∧ num.toNat < maxOffloadPair

instance instDecidableRoom (iptype : IpType) (num : UInt8) : Decidable (Room iptype num) :=
  inferInstanceAs (Decidable (_ ∧ _))

/-- The entry that one direction is to get, and the interfaces behind it. -/
def direction (d : LanDriver ι δ) (iptype : IpType) (client peer : ClientInfo ι) (q : ClientPtr)
    (num : UInt8) (x : δ) : Option OffloadLinkInfo × δ :=
  if Room iptype num then
    ((addLinkRules d iptype client peer x).1.map fun h => ⟨q, h.1, h.2.1, h.2.2⟩,
      (addLinkRules d iptype client peer x).2)
  else (none, x)

theorem direction_target (d : LanDriver ι δ) (iptype : IpType) (c p : ClientInfo ι)
    (q : ClientPtr) (num : UInt8) (x : δ) :
    ∀ l ∈ (direction d iptype c p q num x).1, l.peerPointer = q := by
  intro l hl
  rw [direction] at hl
  split at hl
  · obtain ⟨h, -, rfl⟩ := Option.map_eq_some_iff.mp hl
    rfl
  · exact absurd hl (Option.not_mem_none l)

/-- One entry or none has been added to the links of a client. -/
structure Added (client : ClientPtr) (link : Option OffloadLinkInfo) (rules : List (LinkRule ι))
    (x : δ) (s s' : LanState κ ι (δ × List (LinkRule ι))) : Prop where
  shape : SameShape s s'
  links : s'.links client = s.links client ++ link.toList
  others : ∀ q ≠ client, s'.links q = s.links q
  num : s'.numOffloadPair = s.numOffloadPair
  driver : s'.driver = (x, rules ++ s.driver.2)

/-- What has become of a pair of clients: the entries that its two ends have got. -/
structure Outcome where
  peer : ClientPtr
  there : Option OffloadLinkInfo
  back : Option OffloadLinkInfo

/-- What is installed for the two directions of a pair. -/
def LanState.outcomeRules {ε : Type} (s : LanState κ ι ε) (iptype : IpType) (client : ClientPtr)
    (o : Outcome) : List (LinkRule ι) :=
  match s.iface client, s.iface o.peer with
  | some c, some p =>
      (o.back.map (OffloadLinkInfo.rules iptype p c)).getD [] ++
        (o.there.map (OffloadLinkInfo.rules iptype c p)).getD []
  | _, _ => []

/-- The entries, the count and the ledger change by what has become of the pairs. -/
structure PairsEffect (iptype : IpType) (client : ClientPtr) (outs : List Outcome)
    (s s' : LanState κ ι (δ × List (LinkRule ι))) : Prop where
  nodup : (outs.map Outcome.peer).Nodup
  ne : ∀ o ∈ outs, o.peer ≠ client
  targets : ∀ o ∈ outs, (∀ l ∈ o.there, l.peerPointer = o.peer) ∧
    ∀ l ∈ o.back, l.peerPointer = client
  own : s'.links client = s.links client ++ outs.filterMap Outcome.there
  others : ∀ q ≠ client, s'.links q =
    s.links q ++ (outs.filter fun o => decide (o.peer = q)).filterMap Outcome.back
  num : s'.numOffloadPair.toNat = s.numOffloadPair.toNat + outs.countP fun o => o.back.isSome
  live : s'.driver.2.Perm (outs.flatMap (s.outcomeRules iptype client) ++ s.driver.2)

/-- Each of the pairs has been linked in both directions and counted, or in none; what is
installed is what their entries hold. -/
def BothOrNeither (iptype : IpType) (client : ClientPtr) (touched : List ClientPtr)
    (s s' : LanState κ ι (δ × List (LinkRule ι))) : Prop :=
  ∃ outs, outs.map Outcome.peer = touched ∧ PairsEffect iptype client outs s s' ∧
    ∀ o ∈ outs, o.there.isSome = o.back.isSome

namespace PairsEffect

variable {iptype : IpType} {client : ClientPtr} {s s' : LanState κ ι (δ × List (LinkRule ι))}
  {outs outs' : List Outcome}

theorem there_isSome_iff (h : PairsEffect iptype client outs s s') {o : Outcome} (ho : o ∈ outs) :
    o.there.isSome = true ↔ ∃ l ∈ outs.filterMap Outcome.there, l.peerPointer = o.peer := by
  constructor
  · intro hsome
    obtain ⟨l, hl⟩ := Option.isSome_iff_exists.mp hsome
    exact ⟨l, List.mem_filterMap.mpr ⟨o, ho, hl⟩, (h.targets o ho).1 l hl⟩
  · rintro ⟨l, hmem, hpeer⟩
    obtain ⟨o', ho', hl⟩ := List.mem_filterMap.mp hmem
    have hsame : o' = o := List.inj_on_of_nodup_map h.nodup ho' ho
      (((h.targets o' ho').1 l hl).symm.trans hpeer)
    rw [← hsame, hl]
    rfl

theorem back_isSome_iff (h : PairsEffect iptype client outs s s') {o : Outcome} (ho : o ∈ outs) :
    o.back.isSome = true ↔
      (outs.filter fun x => decide (x.peer = o.peer)).filterMap Outcome.back ≠ [] := by
  constructor
  · intro hsome
    obtain ⟨l, hl⟩ := Option.isSome_iff_exists.mp hsome
    have hmem : l ∈ (outs.filter fun x => decide (x.peer = o.peer)).filterMap Outcome.back :=
      List.mem_filterMap.mpr ⟨o, List.mem_filter.mpr ⟨ho, decide_eq_true rfl⟩, hl⟩
    exact List.ne_nil_of_mem hmem
  · intro hne
    obtain ⟨l, hmem⟩ := List.exists_mem_of_ne_nil _ hne
    obtain ⟨o', ho', hl⟩ := List.mem_filterMap.mp hmem
    obtain ⟨hin, hpeer⟩ := List.mem_filter.mp ho'
    have hsame : o' = o := List.inj_on_of_nodup_map h.nodup hin ho (of_decide_eq_true hpeer)
    rw [← hsame, hl]
    rfl

theorem alike_congr (h : PairsEffect iptype client outs s s')
    (h' : PairsEffect iptype client outs' s s')
    (hpeers : outs.map Outcome.peer = outs'.map Outcome.peer)
    (halike : ∀ o ∈ outs', o.there.isSome = o.back.isSome) :
    ∀ o ∈ outs, o.there.isSome = o.back.isSome := by
  intro o ho
  have hmem : o.peer ∈ outs'.map Outcome.peer := hpeers ▸ List.mem_map_of_mem ho
  obtain ⟨o', ho', hpeer⟩ := List.mem_map.mp hmem
  have hown : outs.filterMap Outcome.there = outs'.filterMap Outcome.there :=
    List.append_cancel_left (h.own.symm.trans h'.own)
  have hother := List.append_cancel_left
    ((h.others o.peer (h.ne o ho)).symm.trans (h'.others o.peer (h.ne o ho)))
  have hthere : (o.there.isSome = true) = (o'.there.isSome = true) := by
    rw [eq_iff_iff, h.there_isSome_iff ho, h'.there_isSome_iff ho', hown, hpeer]
  have hback : (o.back.isSome = true) = (o'.back.isSome = true) := by
    rw [eq_iff_iff, h.back_isSome_iff ho, h'.back_isSome_iff ho', hother, hpeer]
  rw [Bool.eq_iff_iff, hthere, hback, halike o' ho']

theorem bothOrNeither_iff (h : PairsEffect iptype client outs s s') :
    BothOrNeither iptype client (outs.map Outcome.peer) s s' ↔
      ∀ o ∈ outs, o.there.isSome = o.back.isSome :=
  ⟨fun ⟨_, hpeers, h', halike⟩ => h.alike_congr h' hpeers.symm halike,
    fun halike => ⟨outs, rfl, h, halike⟩⟩

theorem nil (iptype : IpType) (client : ClientPtr) {s s' : LanState κ ι (δ × List (LinkRule ι))}
    (hlinks : s'.links = s.links) (hnum : s'.numOffloadPair = s.numOffloadPair)
    (hdriver : s'.driver = s.driver) : PairsEffect iptype client [] s s' := by
  refine ⟨List.nodup_nil, fun o ho => absurd ho List.not_mem_nil,
    fun o ho => absurd ho List.not_mem_nil, ?_, fun q _ => ?_, by rw [hnum]; rfl, ?_⟩
  · rw [hlinks, List.filterMap_nil, List.append_nil]
  · rw [hlinks]
    exact (List.append_nil _).symm
  · rw [hdriver]
    exact List.Perm.refl _

end PairsEffect

theorem outcomeRules_of_node {ε : Type} {s : LanState κ ι ε} (iptype : IpType)
    {client : ClientPtr} (o : Outcome) {c p : ClientInfo ι} (hc : s.node client = some c)
    (hp : s.node o.peer = some p) :
    s.outcomeRules iptype client o =
      (o.back.map (OffloadLinkInfo.rules iptype p.pIface c.pIface)).getD [] ++
        (o.there.map (OffloadLinkInfo.rules iptype c.pIface p.pIface)).getD [] := by
  rw [LanState.outcomeRules, LanState.iface, LanState.iface, hc, hp]
  rfl

theorem SameShape.outcomeRules_eq {ε : Type} {s s' : LanState κ ι ε} (h : SameShape s s')
    (iptype : IpType) (client : ClientPtr) (o : Outcome) :
    s'.outcomeRules iptype client o = s.outcomeRules iptype client o := by
  rw [LanState.outcomeRules, LanState.outcomeRules, h.iface_eq]

/-- The two directions of one pair. -/
structure PairAdded (iptype : IpType) (client : ClientPtr) (o : Outcome) (x : δ)
    (s s' : LanState κ ι (δ × List (LinkRule ι))) : Prop where
  shape : SameShape s s'
  own : s'.links client = s.links client ++ o.there.toList
  other : s'.links o.peer = s.links o.peer ++ o.back.toList
  rest : ∀ r ≠ client, r ≠ o.peer → s'.links r = s.links r
  num : s'.numOffloadPair = s.numOffloadPair
  driver : s'.driver = (x, s.outcomeRules iptype client o ++ s.driver.2)

theorem PairsEffect.cons {iptype : IpType} {client : ClientPtr} {o : Outcome} {outs : List Outcome}
    {x : δ} {s t u s' : LanState κ ι (δ × List (LinkRule ι))} (hne : o.peer ≠ client)
    (htargets : (∀ l ∈ o.there, l.peerPointer = o.peer) ∧ ∀ l ∈ o.back, l.peerPointer = client)
    (hpair : PairAdded iptype client o x s t) (hnode : u.node = t.node)
    (hdriver : u.driver = t.driver)
    (hnum : u.numOffloadPair.toNat = s.numOffloadPair.toNat + if o.back.isSome then 1 else 0)
    (hfresh : o.peer ∉ outs.map Outcome.peer) (h : PairsEffect iptype client outs u s') :
    PairsEffect iptype client (o :: outs) s s' := by
  have hlinks : u.links = t.links := by
    funext q
    rw [LanState.links, LanState.links, hnode]
  have hrules : ∀ o', u.outcomeRules iptype client o' = s.outcomeRules iptype client o' := by
    intro o'
    rw [← hpair.shape.outcomeRules_eq]
    simp only [LanState.outcomeRules, LanState.iface, hnode]
  refine ⟨?_, ?_, ?_, ?_, ?_, ?_, ?_⟩
  · rw [List.map_cons]
    exact List.nodup_cons.mpr ⟨hfresh, h.nodup⟩
  · exact List.forall_mem_cons.mpr ⟨hne, h.ne⟩
  · exact List.forall_mem_cons.mpr ⟨htargets, h.targets⟩
  · rw [h.own, hlinks, hpair.own, List.filterMap_cons, List.append_assoc]
    cases o.there with
    | none => rfl
    | some l => rfl
  · intro q hq
    rw [h.others q hq, hlinks, List.filter_cons]
    by_cases hpeer : o.peer = q
    · subst hpeer
      have hnone : (outs.filter fun o' => decide (o'.peer = o.peer)) = [] := by
        refine List.filter_eq_nil_iff.mpr fun o' ho' heq => hfresh ?_
        rw [← of_decide_eq_true heq]
        exact List.mem_map_of_mem ho'
      rw [if_pos (decide_eq_true rfl), hnone, hpair.other, List.filterMap_cons,
        List.filterMap_nil, List.append_nil]
      cases o.back with
      | none => rfl
      | some l => rfl
    · rw [if_neg (by simpa using hpeer), hpair.rest q hq (fun heq => hpeer heq.symm)]
  · rw [h.num, hnum, List.countP_cons]
    omega
  · have hlive := h.live
    rw [hdriver, hpair.driver] at hlive
    rw [List.flatMap_cons, List.append_assoc]
    refine hlive.trans ?_
    rw [← List.append_assoc, ← List.append_assoc]
    refine List.Perm.append_right _ ?_
    have hmap : outs.flatMap (u.outcomeRules iptype client) =
        outs.flatMap (s.outcomeRules iptype client) := by
      rw [funext hrules]
    rw [hmap]
    exact List.perm_append_comm

end

section

variable {κ ι δ : Type} [DecidableEq ι]

theorem addOffloadLink_added {d : LanDriver ι δ} (hd : DeletesSucceed d) {iptype : IpType}
    {client q : ClientPtr} {s : LanState κ ι (δ × List (LinkRule ι))} {c p : ClientInfo ι}
    (hc : s.node client = some c) (hp : s.node q = some p) {res : Option OffloadLinkInfo × δ}
    (hres : res = direction d iptype c p q s.numOffloadPair s.driver.1) :
    ∃ s', addOffloadLink (ledger d) iptype client q s = some (res.1.isSome, s') ∧
      Added client res.1 ((res.1.map (OffloadLinkInfo.rules iptype c.pIface p.pIface)).getD [])
        res.2 s s' := by
  rw [direction] at hres
  by_cases hroom : Room iptype s.numOffloadPair
  · have hno : ¬ (iptype = .max ∨ maxOffloadPair ≤ s.numOffloadPair.toNat) := by
      rintro (hmax | hfull)
      · exact hroom.1 hmax
      · exact absurd hroom.2 (Nat.not_lt.mpr hfull)
    rw [if_pos hroom] at hres
    have hrules : addLinkRules (ledger d) iptype c p s.driver = _ :=
      addLinkRules_ledger hd iptype c p s.driver.1 s.driver.2
    simp only [addOffloadLink, if_neg hno, hc, hp, Option.bind_eq_bind, Option.bind_some]
    rcases hadd : addLinkRules d iptype c p s.driver.1 with ⟨_ | ⟨flt, rt, hdr⟩, x⟩
    · rw [hadd] at hres hrules
      subst hres
      rw [hrules]
      exact ⟨_, rfl, .of_node_eq rfl rfl rfl, (List.append_nil _).symm, fun _ _ => rfl, rfl, rfl⟩
    · rw [hadd] at hres hrules
      subst hres
      rw [hrules]
      refine ⟨_, rfl, .of_setLink hc rfl rfl rfl, ?_, ?_, rfl, rfl⟩
      · rw [links_of_node hc]
        exact links_of_node (node_setNode_self s client _)
      · intro q' hq'
        change ((s.setNode client _).node q' |>.map ClientInfo.link).getD [] = _
        rw [node_setNode_of_ne s hq']
        rfl
  · have hfull : iptype = .max ∨ maxOffloadPair ≤ s.numOffloadPair.toNat := by
      rcases eq_or_ne iptype .max with hmax | hmax
      · exact Or.inl hmax
      · exact Or.inr (Nat.not_lt.mp fun hlt => hroom ⟨hmax, hlt⟩)
    rw [if_neg hroom] at hres
    subst hres
    refine ⟨s, ?_, .refl s, (List.append_nil _).symm, fun _ _ => rfl, rfl, rfl⟩
    rw [addOffloadLink, if_pos hfull]
    rfl

/-- What becomes of a pair when both directions are tried. -/
def pairOutcome (d : LanDriver ι δ) (iptype : IpType) (client : ClientPtr) (c p : ClientInfo ι)
    (q : ClientPtr) (num : UInt8) (x : δ) : Outcome × δ :=
  let there := direction d iptype c p q num x
  let back := direction d iptype p c client num there.2
  (⟨q, there.1, back.1⟩, back.2)

theorem addOffloadLink_pair_added {d : LanDriver ι δ} (hd : DeletesSucceed d) {iptype : IpType}
    {client q : ClientPtr} (hne : q ≠ client) {s : LanState κ ι (δ × List (LinkRule ι))}
    {c p : ClientInfo ι} (hc : s.node client = some c) (hp : s.node q = some p)
    {o : Outcome × δ} (ho : o = pairOutcome d iptype client c p q s.numOffloadPair s.driver.1) :
    ∃ t u, addOffloadLink (ledger d) iptype client q s = some (o.1.there.isSome, t) ∧
      addOffloadLink (ledger d) iptype q client t = some (o.1.back.isSome, u) ∧
      PairAdded iptype client o.1 o.2 s u := by
  subst ho
  obtain ⟨t, hthere, hadded⟩ := addOffloadLink_added hd hc hp
    (Eq.refl (direction d iptype c p q s.numOffloadPair s.driver.1))
  obtain ⟨links, hc'⟩ := hadded.shape.node_some hc
  obtain ⟨links', hp'⟩ := hadded.shape.node_some hp
  have hsame : direction d iptype { p with link := links' } { c with link := links } client
      t.numOffloadPair t.driver.1 = direction d iptype p c client s.numOffloadPair
        (direction d iptype c p q s.numOffloadPair s.driver.1).2 := by
    rw [hadded.num, hadded.driver]
    rfl
  obtain ⟨u, hback, hadded'⟩ := addOffloadLink_added hd hp' hc' hsame.symm
  refine ⟨t, u, hthere, hback, hadded.shape.trans hadded'.shape, ?_, ?_, ?_, ?_, ?_⟩
  · rw [hadded'.others client hne.symm, hadded.links]
    rfl
  · exact hadded'.links.trans (by rw [hadded.others q hne]; rfl)
  · intro r hr hr'
    rw [hadded'.others r hr', hadded.others r hr]
  · rw [hadded'.num, hadded.num]
  · have hrules := outcomeRules_of_node iptype
      (pairOutcome d iptype client c p q s.numOffloadPair s.driver.1).1 hc hp
    rw [hrules, hadded'.driver, hadded.driver, ← List.append_assoc]
    rfl

omit [DecidableEq ι] in
theorem PairsEffect.of_linking {iptype : IpType} {client : ClientPtr} {outs : List Outcome}
    {s t s' : LanState κ ι (δ × List (LinkRule ι))} (h : PairsEffect iptype client outs t s')
    (hlinks : t.links = s.links) (hnum : t.numOffloadPair = s.numOffloadPair)
    (hdriver : t.driver = s.driver) (hiface : t.iface = s.iface) :
    PairsEffect iptype client outs s s' := by
  have hrules : t.outcomeRules iptype client = s.outcomeRules iptype client := by
    funext o
    rw [LanState.outcomeRules, LanState.outcomeRules, hiface]
  refine ⟨h.nodup, h.ne, h.targets, ?_, ?_, ?_, ?_⟩
  · rw [← hlinks, h.own]
  · rw [← hlinks]
    exact h.others
  · rw [← hnum, h.num]
  · rw [← hrules, ← hdriver]
    exact h.live

/-- The pairs that `check_potential_link` tries to link. -/
def LanState.potential {ε : Type} (s : LanState κ ι ε) (todo : List PeerInfo) : List ClientPtr :=
  (todo.filter fun e => s.awake e.peerPointer && decide (0 < e.numConnection)).map
    PeerInfo.peerPointer

/-- For each pair in turn, the additions for both directions succeed or in both some fails,
as long as there is room. -/
def LinksAlike (d : LanDriver ι δ) (iptype : IpType) (client : ClientInfo ι)
    (peerOf : ClientPtr → Option (ClientInfo ι)) : List PeerInfo → UInt8 → δ → Prop
  | [], _, _ => True
  | e :: rest, num, x =>
      match peerOf e.peerPointer with
      | none => True
      | some p =>
          if p.isActive = true ∧ 0 < e.numConnection ∧ Room iptype num then
            let there := addLinkRules d iptype client p x
            let back := addLinkRules d iptype p client there.2
            there.1.isSome = back.1.isSome ∧
              LinksAlike d iptype client peerOf rest
                (if back.1.isSome then num + 1 else num) back.2
          else LinksAlike d iptype client peerOf rest num x

omit [DecidableEq ι] in
theorem pairOutcome_of_room (d : LanDriver ι δ) {iptype : IpType} (client : ClientPtr)
    (c p : ClientInfo ι) (q : ClientPtr) {num : UInt8} (x : δ) (h : Room iptype num) :
    (pairOutcome d iptype client c p q num x).1.there.isSome =
        (addLinkRules d iptype c p x).1.isSome ∧
      (pairOutcome d iptype client c p q num x).1.back.isSome =
        (addLinkRules d iptype p c (addLinkRules d iptype c p x).2).1.isSome ∧
      (pairOutcome d iptype client c p q num x).2 =
        (addLinkRules d iptype p c (addLinkRules d iptype c p x).2).2 := by
  simp only [pairOutcome, direction, if_pos h, Option.isSome_map, and_self]

omit [DecidableEq ι] in
theorem pairOutcome_of_full (d : LanDriver ι δ) {iptype : IpType} (client : ClientPtr)
    (c p : ClientInfo ι) (q : ClientPtr) {num : UInt8} (x : δ) (h : ¬ Room iptype num) :
    pairOutcome d iptype client c p q num x = (⟨q, none, none⟩, x) := by
  simp only [pairOutcome, direction, if_neg h]

omit [DecidableEq ι] in
theorem linksAlike_cons (d : LanDriver ι δ) {iptype : IpType} (client : ClientPtr)
    (c : ClientInfo ι) {peerOf : ClientPtr → Option (ClientInfo ι)} {e : PeerInfo}
    (rest : List PeerInfo) (num : UInt8) (x : δ) {p : ClientInfo ι}
    (hp : peerOf e.peerPointer = some p) (hgo : p.isActive = true ∧ 0 < e.numConnection)
    {o : Outcome × δ} (ho : o = pairOutcome d iptype client c p e.peerPointer num x) :
    LinksAlike d iptype c peerOf (e :: rest) num x ↔
      o.1.there.isSome = o.1.back.isSome ∧
        LinksAlike d iptype c peerOf rest (if o.1.back.isSome then num + 1 else num) o.2 := by
  subst ho
  rw [LinksAlike]
  simp only [hp]
  by_cases hroom : Room iptype num
  · obtain ⟨hthere, hback, hdriver⟩ := pairOutcome_of_room d client c p e.peerPointer x hroom
    rw [if_pos ⟨hgo.1, hgo.2, hroom⟩, hthere, hback, hdriver]
  · rw [if_neg (fun h => hroom h.2.2), pairOutcome_of_full d client c p e.peerPointer x hroom]
    simp

omit [DecidableEq ι] in
theorem pairOutcome_targets {d : LanDriver ι δ} {iptype : IpType} {client q : ClientPtr}
    {c p : ClientInfo ι} {num : UInt8} {x : δ} {o : Outcome × δ}
    (ho : o = pairOutcome d iptype client c p q num x) :
    (∀ l ∈ o.1.there, l.peerPointer = o.1.peer) ∧ ∀ l ∈ o.1.back, l.peerPointer = client := by
  subst ho
  exact ⟨direction_target d iptype c p q num x, direction_target d iptype p c client num _⟩

omit [DecidableEq ι] in
theorem pairOutcome_room {d : LanDriver ι δ} {iptype : IpType} {client q : ClientPtr}
    {c p : ClientInfo ι} {num : UInt8} {x : δ} {o : Outcome × δ}
    (ho : o = pairOutcome d iptype client c p q num x) :
    o.1.back.isSome = true → Room iptype num := by
  intro hsome
  by_contra hfull
  rw [ho, pairOutcome_of_full d client c p q x hfull] at hsome
  exact absurd hsome Bool.false_ne_true

theorem toNat_counted {iptype : IpType} {num : UInt8} {made : Bool}
    (h : made = true → Room iptype num) :
    (if made then num + 1 else num).toNat = num.toNat + if made then 1 else 0 := by
  cases made with
  | false => rfl
  | true =>
      have hroom := (h rfl).2
      rw [maxOffloadPair] at hroom
      rw [if_pos rfl, if_pos rfl, UInt8.toNat_add]
      change (num.toNat + 1) % 256 = _
      exact Nat.mod_eq_of_lt (by omega)

omit [DecidableEq ι] in
theorem mem_of_mem_potential {ε : Type} {s : LanState κ ι ε} {todo : List PeerInfo}
    {q : ClientPtr} (h : q ∈ s.potential todo) : q ∈ todo.map PeerInfo.peerPointer := by
  obtain ⟨e, he, rfl⟩ := List.mem_map.mp h
  exact List.mem_map_of_mem (List.mem_filter.mp he).1

theorem checkPotentialLoop_effect {d : LanDriver ι δ} (hd : DeletesSucceed d) (iptype : IpType)
    {client : ClientPtr} {s : LanState κ ι (δ × List (LinkRule ι))} {c : ClientInfo ι}
    (hc : s.node client = some c) (todo : List PeerInfo)
    (hvalid : ∀ e ∈ todo, e.peerPointer ≠ client ∧ (s.node e.peerPointer).isSome)
    (hnodup : (todo.map PeerInfo.peerPointer).Nodup)
    {t : LanState κ ι (δ × List (LinkRule ι))} (hshape : SameShape s t) :
    ∃ outs s', checkPotentialLoop (ledger d) iptype client todo t = some s' ∧
      outs.map Outcome.peer = s.potential todo ∧ PairsEffect iptype client outs t s' ∧
      (LinksAlike d iptype c s.node todo t.numOffloadPair t.driver.1 ↔
        ∀ o ∈ outs, o.there.isSome = o.back.isSome) := by
  induction todo generalizing t with
  | nil =>
      refine ⟨[], t, rfl, rfl, .nil iptype client rfl rfl rfl, ?_⟩
      exact iff_of_true trivial fun o ho => absurd ho List.not_mem_nil
  | cons e rest ih =>
      rw [List.forall_mem_cons] at hvalid
      obtain ⟨⟨hne, hsome⟩, hvalid⟩ := hvalid
      rw [List.map_cons, List.nodup_cons] at hnodup
      obtain ⟨p, hp⟩ := Option.isSome_iff_exists.mp hsome
      obtain ⟨links, hc'⟩ := hshape.node_some hc
      obtain ⟨links', hp'⟩ := hshape.node_some hp
      have hawake : s.awake e.peerPointer = p.isActive := awake_of_node hp
      by_cases hgo : p.isActive = true ∧ 0 < e.numConnection
      · have hpot : s.potential (e :: rest) = e.peerPointer :: s.potential rest := by
          rw [LanState.potential, List.filter_cons_of_pos (by simp [hawake, hgo])]
          rfl
        obtain ⟨o, ho⟩ : ∃ o, o =
            pairOutcome d iptype client c p e.peerPointer t.numOffloadPair t.driver.1 := ⟨_, rfl⟩
        obtain ⟨t₁, t₂, hthere, hback, hpair⟩ := addOffloadLink_pair_added hd hne hc' hp' ho
        have hpeer : o.1.peer = e.peerPointer := by rw [ho]; rfl
        -- the state behind the pair, counted when the second direction has succeeded
        obtain ⟨u, hu⟩ : ∃ u, u = if o.1.back.isSome then
            { t₂ with numOffloadPair := t₂.numOffloadPair + 1 } else t₂ := ⟨_, rfl⟩
        have hnode : u.node = t₂.node := by rw [hu]; split <;> rfl
        have hdriver : u.driver = t₂.driver := by rw [hu]; split <;> rfl
        have hnum : u.numOffloadPair =
            if o.1.back.isSome then t.numOffloadPair + 1 else t.numOffloadPair := by
          rw [hu, ← hpair.num]
          split <;> rfl
        have hu' : SameShape t₂ u := by
          rw [hu]
          split
          · exact .of_node_eq rfl rfl rfl
          · exact .refl t₂
        obtain ⟨outs, s', hrun, hpeers, heffect, halike⟩ :=
          ih hvalid hnodup.2 ((hshape.trans hpair.shape).trans hu')
        refine ⟨o.1 :: outs, s', ?_, ?_, ?_, ?_⟩
        · simp only [checkPotentialLoop, hp', Option.bind_eq_bind, Option.bind_some, if_pos hgo,
            hthere, hback]
          rw [← hu]
          exact hrun
        · rw [List.map_cons, hpeers, hpot, hpeer]
        · refine PairsEffect.cons (hpeer ▸ hne) (pairOutcome_targets ho)
            hpair hnode hdriver ?_ ?_ heffect
          · rw [hnum]
            exact toNat_counted (pairOutcome_room ho)
          · rw [hpeers, hpeer]
            exact fun hmem => hnodup.1 (mem_of_mem_potential hmem)
        · rw [linksAlike_cons d client c rest t.numOffloadPair t.driver.1 hp hgo ho,
            List.forall_mem_cons, ← halike, hnum, hdriver, hpair.driver]
      · have hpot : s.potential (e :: rest) = s.potential rest := by
          rw [LanState.potential, List.filter_cons_of_neg (by simpa [hawake] using hgo)]
          rfl
        obtain ⟨outs, s', hrun, hpeers, heffect, halike⟩ := ih hvalid hnodup.2 hshape
        refine ⟨outs, s', ?_, hpeers.trans hpot.symm, heffect, ?_⟩
        · simp only [checkPotentialLoop, hp', Option.bind_eq_bind, Option.bind_some, if_neg hgo]
          exact hrun
        · have hskip : ¬ (p.isActive = true ∧ 0 < e.numConnection ∧
              Room iptype t.numOffloadPair) := fun h => hgo ⟨h.1, h.2.1⟩
          rw [LinksAlike]
          simp only [hp, if_neg hskip]
          exact halike

/-- After `check_potential_link` each pair is linked in both directions or in none exactly when
the driver takes both directions of each pair alike. -/
theorem checkPotentialLink_right {d : LanDriver ι δ} (hd : DeletesSucceed d) (iptype : IpType)
    {client : ClientPtr} {s : LanState κ ι (δ × List (LinkRule ι))} (hs : PeerInv s)
    {c : ClientInfo ι} (hc : s.node client = some c) :
    ∃ s', checkPotentialLink (ledger d) iptype client s = some s' ∧
      (BothOrNeither iptype client (s.potential c.peer) s s' ↔
        LinksAlike d iptype c s.node c.peer s.numOffloadPair s.driver.1) := by
  have hnodup : (c.peer.map PeerInfo.peerPointer).Nodup := by
    rw [← peers_of_node hc]
    exact (hs.graph.list client).nodup
  obtain ⟨outs, s', hrun, hpeers, heffect, halike⟩ := checkPotentialLoop_effect hd iptype hc c.peer
    (fun e he => hs.graph.of_mem hc he) hnodup (.refl s)
  refine ⟨s', ?_, ?_⟩
  · rw [checkPotentialLink, hc]
    exact hrun
  · rw [halike, ← hpeers]
    exact heffect.bothOrNeither_iff

/-- The pair that a new connection tries to link. -/
def LanState.newPair {ε : Type} (s : LanState κ ι ε) (p q : ClientPtr) : List ClientPtr :=
  if countOf q (s.peers p) = 0 ∧ s.awake p = true ∧ s.awake q = true then [q] else []

/-- What is wanted of `handle_new_lan2lan_connection`. -/
def NewConnectionRight (iptype : IpType) (src dst : κ)
    (s s' : LanState κ ι (δ × List (LinkRule ι))) : Prop :=
  match s.clientInfo src, s.clientInfo dst with
  | some p, some q => BothOrNeither iptype p (s.newPair p q) s s'
  | _, _ => s' = s

/-- Where the first connection of two active clients finds room, and the driver takes the first
direction, it takes the second one too. -/
def AnswersBack (d : LanDriver ι δ) (iptype : IpType) (src dst : κ)
    (s : LanState κ ι (δ × List (LinkRule ι))) : Prop :=
  ∀ p q c b, s.clientInfo src = some p → s.clientInfo dst = some q → s.node p = some c →
    s.node q = some b → s.newPair p q = [q] → Room iptype s.numOffloadPair →
    (addLinkRules d iptype c b s.driver.1).1.isSome = true →
    (addLinkRules d iptype b c (addLinkRules d iptype c b s.driver.1).2).1.isSome = true

omit [DecidableEq ι] in
theorem Added.pairAdded {iptype : IpType} {p q : ClientPtr} (hne : q ≠ p) {x : δ}
    {s s' : LanState κ ι (δ × List (LinkRule ι))} {c b : ClientInfo ι} (hc : s.node p = some c)
    (hb : s.node q = some b) (h : Added p none [] x s s') :
    PairAdded iptype p ⟨q, none, none⟩ x s s' := by
  refine ⟨h.shape, h.links, ?_, fun r hr _ => h.others r hr, h.num, ?_⟩
  · rw [h.others q hne]
    exact (List.append_nil _).symm
  · rw [h.driver, outcomeRules_of_node iptype ⟨q, none, none⟩ hc hb]
    rfl

/-- The two directions of a new connection, the second one after the first has succeeded. -/
def linkBothWays (d : LanDriver ι δ) (iptype : IpType) (p q : ClientPtr) (s : LanState κ ι δ) :
    Option (LanState κ ι δ) := do
  let there ← addOffloadLink d iptype p q s
  if there.1 = false then some there.2
  else
    let back ← addOffloadLink d iptype q p there.2
    if back.1 = false then some back.2
    else some { back.2 with numOffloadPair := back.2.numOffloadPair + 1 }

theorem linkBothWays_effect {d : LanDriver ι δ} (hd : DeletesSucceed d) (iptype : IpType)
    {p q : ClientPtr} (hne : q ≠ p) {s : LanState κ ι (δ × List (LinkRule ι))}
    {c b : ClientInfo ι} (hc : s.node p = some c) (hb : s.node q = some b) :
    ∃ o s', linkBothWays (ledger d) iptype p q s = some s' ∧ o.peer = q ∧
      PairsEffect iptype p [o] s s' ∧
      (o.there.isSome = o.back.isSome ↔
        (Room iptype s.numOffloadPair →
          (addLinkRules d iptype c b s.driver.1).1.isSome = true →
          (addLinkRules d iptype b c (addLinkRules d iptype c b s.driver.1).2).1.isSome =
            true)) := by
  obtain ⟨o, ho⟩ : ∃ o, o = pairOutcome d iptype p c b q s.numOffloadPair s.driver.1 := ⟨_, rfl⟩
  obtain ⟨t, u, hthere, hback, hpair⟩ := addOffloadLink_pair_added hd hne hc hb ho
  have hpeer : o.1.peer = q := by rw [ho]; rfl
  have hcondition : (o.1.there.isSome = true → o.1.back.isSome = true) ↔
      (Room iptype s.numOffloadPair → (addLinkRules d iptype c b s.driver.1).1.isSome = true →
        (addLinkRules d iptype b c (addLinkRules d iptype c b s.driver.1).2).1.isSome = true) := by
    by_cases hroom : Room iptype s.numOffloadPair
    · obtain ⟨hthere', hback', -⟩ := pairOutcome_of_room d p c b q s.driver.1 hroom
      rw [ho, hthere', hback']
      simp only [hroom, true_implies]
    · rw [ho, pairOutcome_of_full d p c b q s.driver.1 hroom]
      simp [hroom]
  rw [← hcondition]
  rcases hfirst : o.1.there with _ | link
  · -- the second direction is not tried
    obtain ⟨t', ht', hadded⟩ := addOffloadLink_added hd hc hb
      (Eq.refl (direction d iptype c b q s.numOffloadPair s.driver.1))
    have hnone : (direction d iptype c b q s.numOffloadPair s.driver.1).1 = none := by
      rw [← hfirst, ho]
      rfl
    rw [hnone] at ht' hadded
    refine ⟨⟨q, none, none⟩, t', ?_, rfl, ?_, ?_⟩
    · simp only [linkBothWays, ht', Option.bind_eq_bind, Option.bind_some, Option.isSome_none,
        if_true]
    · exact PairsEffect.cons hne ⟨fun l hl => absurd hl (Option.not_mem_none l),
        fun l hl => absurd hl (Option.not_mem_none l)⟩ (Added.pairAdded hne hc hb hadded) rfl rfl
        (by rw [hadded.num]; rfl) List.not_mem_nil (.nil iptype p rfl rfl rfl)
    · simp
  · have hsome : o.1.there.isSome = true := by rw [hfirst]; rfl
    rw [hsome] at hthere
    have htargets := pairOutcome_targets ho
    rcases hsecond : o.1.back with _ | link'
    · refine ⟨o.1, u, ?_, hpeer, ?_, ?_⟩
      · simp only [linkBothWays, hthere, hback, hsecond, Option.bind_eq_bind, Option.bind_some,
          Option.isSome_none, Bool.true_eq_false, if_false, if_true]
      · exact PairsEffect.cons (hpeer ▸ hne) htargets hpair rfl rfl
          (by rw [hpair.num, hsecond]; rfl) List.not_mem_nil (.nil iptype p rfl rfl rfl)
      · simp [hfirst, hsecond]
    · have hcount := toNat_counted (pairOutcome_room ho)
      rw [hsecond] at hcount
      refine ⟨o.1, { u with numOffloadPair := u.numOffloadPair + 1 }, ?_, hpeer, ?_, ?_⟩
      · simp only [linkBothWays, hthere, hback, hsecond, Option.bind_eq_bind, Option.bind_some,
          Option.isSome_some, Bool.true_eq_false, if_false]
      · refine PairsEffect.cons (u := { u with numOffloadPair := u.numOffloadPair + 1 })
          (hpeer ▸ hne)
          htargets hpair rfl rfl ?_ List.not_mem_nil (.nil iptype p rfl rfl rfl)
        rw [hsecond]
        change (u.numOffloadPair + 1).toNat = _
        rw [hpair.num]
        exact hcount
      · simp [hfirst, hsecond]

theorem newConnection_pair {d : LanDriver ι δ} (hd : DeletesSucceed d) (iptype : IpType)
    {p q : ClientPtr} (hne : q ≠ p) {s : LanState κ ι (δ × List (LinkRule ι))} (hs : PeerInv s)
    {c b : ClientInfo ι} (hc : s.node p = some c) (hb : s.node q = some b) :
    ∃ s', ((addConnection p q s).bind fun added =>
        (added.2.node p).bind fun c => (added.2.node q).bind fun b =>
          if added.1 && c.isActive && b.isActive then linkBothWays (ledger d) iptype p q added.2
          else some added.2) = some s' ∧
      (BothOrNeither iptype p (s.newPair p q) s s' ↔
        (s.newPair p q = [q] → Room iptype s.numOffloadPair →
          (addLinkRules d iptype c b s.driver.1).1.isSome = true →
          (addLinkRules d iptype b c (addLinkRules d iptype c b s.driver.1).2).1.isSome =
            true)) := by
  obtain ⟨t, ht⟩ : ∃ t, t = (s.setNode p { c with peer := (countUp q c.peer).1 }).setNode q
      { b with peer := (countUp p b.peer).1 } := ⟨_, rfl⟩
  have hadd : addConnection p q s =
      some ((countUp q c.peer).2 || (countUp p b.peer).2, t) := by
    simp only [addConnection, hc, node_setNode_of_ne s hne, hb, Option.bind_eq_bind,
      Option.bind_some, ht]
  have htp : t.node p = some { c with peer := (countUp q c.peer).1 } := by
    rw [ht, node_setNode_of_ne _ hne.symm, node_setNode_self]
  have htq : t.node q = some { b with peer := (countUp p b.peer).1 } := by
    rw [ht, node_setNode_self]
  obtain ⟨-, hfirst, -⟩ := addConnection_spec hne.symm hs hadd
  have hlinking := addConnection_linking hadd
  have hiface := (addConnection_owners hadd).iface
  have hpair : s.newPair p q = if ((countUp q c.peer).2 || (countUp p b.peer).2) &&
      c.isActive && b.isActive then [q] else [] := by
    have hcount : countOf q (s.peers p) = 0 ↔
        ((countUp q c.peer).2 || (countUp p b.peer).2) = true := hfirst.symm
    simp only [LanState.newPair, hcount, awake_of_node hc, awake_of_node hb, Bool.and_eq_true,
      and_assoc]
  rw [hadd]
  simp only [Option.bind_some, htp, htq]
  by_cases hgo : (((countUp q c.peer).2 || (countUp p b.peer).2) && c.isActive && b.isActive) = true
  · obtain ⟨o, s', hrun, hpeer, heffect, halike⟩ := linkBothWays_effect hd iptype hne htp htq
    have hfrom : PairsEffect iptype p [o] s s' :=
      heffect.of_linking hlinking.links hlinking.num hlinking.driver hiface
    refine ⟨s', by rw [if_pos hgo, hrun], ?_⟩
    rw [hpair, if_pos hgo, ← hpeer]
    rw [hlinking.num, hlinking.driver] at halike
    have hiff := hfrom.bothOrNeither_iff
    rw [List.map_singleton, List.forall_mem_singleton, halike] at hiff
    rw [hiff]
    exact ⟨fun h _ => h, fun h => h rfl⟩
  · refine ⟨t, by rw [if_neg hgo], ?_⟩
    rw [hpair, if_neg hgo]
    refine iff_of_true ⟨[], rfl, .nil iptype p hlinking.links hlinking.num hlinking.driver,
      fun o ho => absurd ho List.not_mem_nil⟩ fun h => absurd h.symm (List.cons_ne_nil _ _)

/-- After a new connection the pair is linked in both directions or in none exactly when the
driver answers a direction that it takes. -/
theorem newLan2lanConnection_right [DecidableEq κ] {d : LanDriver ι δ} (hd : DeletesSucceed d)
    (iptype : IpType) {src dst : κ} (hne : src ≠ dst)
    {s : LanState κ ι (δ × List (LinkRule ι))} (hs : PeerInv s) :
    ∃ s', newLan2lanConnection (ledger d) iptype src dst s = some s' ∧
      (NewConnectionRight iptype src dst s s' ↔ AnswersBack d iptype src dst s) := by
  rw [newLan2lanConnection]
  rcases hsrc : s.clientInfo src with _ | p
  · refine ⟨s, rfl, ?_⟩
    simp only [NewConnectionRight, AnswersBack, hsrc]
    simp
  · rcases hdst : s.clientInfo dst with _ | q
    · refine ⟨s, rfl, ?_⟩
      simp only [NewConnectionRight, AnswersBack, hsrc, hdst]
      simp
    · have hnode := hs.keyed.node_of_key
      obtain ⟨c, hc⟩ := Option.isSome_iff_exists.mp (hnode src p hsrc)
      obtain ⟨b, hb⟩ := Option.isSome_iff_exists.mp (hnode dst q hdst)
      have hpq : q ≠ p := fun h => hne (hs.keyed.injective src dst p hsrc (h ▸ hdst))
      obtain ⟨s', hrun, hiff⟩ := newConnection_pair hd iptype hpq hs hc hb
      refine ⟨s', hrun, ?_⟩
      simp only [NewConnectionRight, AnswersBack, hsrc, hdst, Option.some.injEq]
      rw [hiff]
      constructor
      · rintro h p' q' c' b' rfl rfl hc' hb'
        rw [hc, Option.some.injEq] at hc'
        rw [hb, Option.some.injEq] at hb'
        exact hc' ▸ hb' ▸ h
      · exact fun h => h p q c b rfl rfl hc hb

/-- `check_potential_link` is called for a client in the state `t`, by the handlers of a state:
once the entry has been rewritten, and the filter rules of a client in power save are back. -/
inductive ChecksPotential (d : LanDriver ι δ) (s : LanState κ ι δ) :
    IpType → ClientPtr → LanState κ ι δ → Prop
  | active {key : κ} {client : ClientPtr} (c : ClientInfo ι) (data : ClientData ι) :
      s.clientInfo key = some client → s.node client = some c → c.isActive = false →
      ChecksPotential d s data.iptype client (s.setNode client (c.update data))
  | powerRecover {key : κ} {client : ClientPtr} {c : ClientInfo ι} (c' : ClientInfo ι)
      (iptype : IpType) {t : LanState κ ι δ} :
      s.clientInfo key = some client → s.node client = some c → c.isActive = false →
      c.isPowersave = true → addFltRules d iptype client s = some (true, t) →
      t.node client = some c' →
      ChecksPotential d s iptype client
        (t.setNode client { c' with isActive := true, isPowersave := false })
  | itself {client : ClientPtr} {c : ClientInfo ι} (iptype : IpType) :
      s.node client = some c → ChecksPotential d s iptype client s

omit [DecidableEq ι] in
theorem ChecksPotential.peerInv {d : LanDriver ι δ} {s t : LanState κ ι δ} {iptype : IpType}
    {client : ClientPtr} (hs : PeerInv s) (h : ChecksPotential d s iptype client t) :
    PeerInv t ∧ (t.node client).isSome := by
  cases h with
  | active c data hkey hc hactive =>
      have hsame : (c.update data).peer = c.peer := rfl
      exact ⟨(PeerShrink.setNode hs hc hsame).inv, by rw [node_setNode_self]; rfl⟩
  | powerRecover c' iptype hkey hc hactive hpower hadd hc' =>
      have hsame : ({ c' with isActive := true, isPowersave := false } : ClientInfo ι).peer =
          c'.peer := rfl
      simp only [addFltRules, hc, Option.bind_eq_bind, Option.bind_some] at hadd
      have hshape := addFltLoop_shape d iptype hadd
      exact ⟨(PeerShrink.setNode (PeerShrink.of_shape hs hshape).inv hc' hsame).inv,
        by rw [node_setNode_self]; rfl⟩
  | itself iptype hc => exact ⟨hs, by rw [hc]; rfl⟩

/-- From a state both functions link pairs in both directions or in none exactly when the driver
takes both directions alike. -/
structure LinksWhole (d : LanDriver ι δ) (s : LanState κ ι (δ × List (LinkRule ι))) : Prop where
  connection : ∀ iptype src dst, src ≠ dst → ∃ s',
    newLan2lanConnection (ledger d) iptype src dst s = some s' ∧
      (NewConnectionRight iptype src dst s s' ↔ AnswersBack d iptype src dst s)
  potential : ∀ iptype client t, ChecksPotential (ledger d) s iptype client t → ∃ c s',
    t.node client = some c ∧ checkPotentialLink (ledger d) iptype client t = some s' ∧
      (BothOrNeither iptype client (t.potential c.peer) t s' ↔
        LinksAlike d iptype c t.node c.peer t.numOffloadPair t.driver.1)

theorem linksWhole [DecidableEq κ] {d : LanDriver ι δ} (hd : DeletesSucceed d)
    {s : LanState κ ι (δ × List (LinkRule ι))} (hs : PeerInv s) : LinksWhole d s := by
  constructor
  · intro iptype src dst hne
    exact newLan2lanConnection_right hd iptype hne hs
  · intro iptype client t ht
    obtain ⟨hinv, hsome⟩ := ht.peerInv hs
    obtain ⟨c, hc⟩ := Option.isSome_iff_exists.mp hsome
    obtain ⟨s', hrun, hiff⟩ := checkPotentialLink_right hd iptype hinv hc
    exact ⟨c, s', hc, hrun, hiff⟩

/-- In every state reached, for both tables. -/
theorem linksWhole_of_run {d : LanDriver ι δ} (hd : DeletesSucceed d) (x : δ)
    (es : List (LanEvent ι)) (s : Lan2Lan ι (δ × List (LinkRule ι)))
    (hrun : Run (LanStep (ledger d)) (Lan2Lan.init (x, [])) es s) :
    LinksWhole d ⟨s.v4, s.driver⟩ ∧ LinksWhole d ⟨s.v6, s.driver⟩ := by
  have h4 := countsSinceCreated_of_run (lanStep_movesV4 (ledger d)) s.driver rfl hrun
  have h6 := countsSinceCreated_of_run (lanStep_movesV6 (ledger d)) s.driver rfl hrun
  exact ⟨linksWhole hd h4.1, linksWhole hd h6.1⟩

end

/-- Two clients that have become active. -/
def twoActive : List (LanEvent Unit) := [clientV4 .active 1, clientV4 .active 2]

def activeTwo (d : LanDriver Unit Nat) : Lan2Lan Unit (Nat × List (LinkRule Unit)) :=
  twoActive.foldl (afterEvent (ledger d)) (Lan2Lan.init (0, []))

theorem run_twoActive (d : LanDriver Unit Nat) :
    Run (LanStep (ledger d)) (Lan2Lan.init (0, [])) twoActive (activeTwo d) :=
  .snoc (.snoc .nil ⟨clientV4_distinct .active 1, eventCallback_afterEvent rfl⟩)
    ⟨clientV4_distinct .active 2, eventCallback_afterEvent rfl⟩

theorem linksWhole_activeTwo :
    LinksWhole countingDriver ⟨(activeTwo countingDriver).v4, (activeTwo countingDriver).driver⟩ ∧
      LinksWhole countingDriver
        ⟨(activeTwo countingDriver).v6, (activeTwo countingDriver).driver⟩ :=
  linksWhole_of_run ⟨fun _ _ _ _ => rfl, fun _ _ _ _ => rfl, fun _ _ _ _ => rfl⟩ 0 twoActive
    (activeTwo countingDriver) (run_twoActive countingDriver)

/-- No client is linked in one direction only. -/
def Answered {κ ι δ : Type} (s : LanState κ ι δ) : Prop :=
  ∀ p q, (∃ l ∈ s.links p, l.peerPointer = q) → ∃ l ∈ s.links q, l.peerPointer = p

/-- The header of the direction back fails after the first direction has succeeded. -/
theorem not_bothWays_failing :
    ¬ ∀ (d : LanDriver Unit Nat), DeletesSucceed d → ∀ x es s,
      Run (LanStep (ledger d)) (Lan2Lan.init (x, [])) es s →
      Answered (⟨s.v4, s.driver⟩ : LanState UInt32 Unit (Nat × List (LinkRule Unit))) →
      ∀ iptype src dst s', src ≠ dst →
        newLan2lanConnection (ledger d) iptype src dst ⟨s.v4, s.driver⟩ = some s' →
        NewConnectionRight iptype src dst ⟨s.v4, s.driver⟩ s' := by
  intro h
  have hdel : DeletesSucceed failingDriver :=
    ⟨fun _ _ _ _ => rfl, fun _ _ _ _ => rfl, fun _ _ _ _ => rfl⟩
  have hrun := run_twoActive failingDriver
  have hanswered : Answered (⟨(activeTwo failingDriver).v4, (activeTwo failingDriver).driver⟩ :
      LanState UInt32 Unit (Nat × List (LinkRule Unit))) := by
    rintro p q ⟨l, hl, -⟩
    rcases p with _ | _ | p
    · cases hl
    · cases hl
    · cases hl
  obtain ⟨s', hs', hiff⟩ := (linksWhole hdel (countsSinceCreated_of_run
    (lanStep_movesV4 (ledger failingDriver)) (activeTwo failingDriver).driver rfl
    hrun).1).connection .v4 1 2 (by decide)
  have hback := hiff.mp (h failingDriver hdel 0 twoActive _ hrun hanswered .v4 1 2 s'
    (by decide) hs')
  have hfail := hback 0 1 _ _ rfl rfl rfl rfl (by decide) (by decide) (by decide)
  exact absurd hfail (by decide)

end LibraDevice.LanToLan
