import LibraDevice.Lan.FltRules

/-!
What one family of a LAN interface holds while its backhaul is down, primed and up,
and how the uplink rules of a modem backhaul come in.
-/

namespace LibraDevice.Lan

open Backhaul KeyedList
open LanToLan (IpAddr)

/-- A rule, where it came with the backhaul. The rules of the interface itself are rewritten
in place, and are not told apart. -/
def FltRule.mark (rule : FltRule) : Option FltRule :=
  if rule.ruleClass = .base then none else some rule

def FltEntry.mark (e : FltEntry) : Hdl × Option FltRule := (e.hdl, e.rule.mark)

theorem FltRule.mark_of_base {rule : FltRule} (h : rule.ruleClass = .base) : rule.mark = none :=
  if_pos h

theorem FltRule.mark_eq_none {rule : FltRule} (h : rule.mark = none) : rule.ruleClass = .base := by
  by_contra hne
  rw [mark, if_neg hne] at h
  cases h

namespace FltDriver

variable {d d' : FltDriver} {ep : Nat} {f g : IpType} {rules : List FltRule} {hs : List Hdl}
  {new : List (Hdl × FltRule)}

def marks (d : FltDriver) (ep : Nat) (f : IpType) : List (Hdl × Option FltRule) :=
  (d.pipe ep f).map FltEntry.mark

theorem marks_map_fst (d : FltDriver) (ep : Nat) (f : IpType) :
    (d.marks ep f).map Prod.fst = (d.pipe ep f).map FltEntry.hdl := by
  rw [marks, List.map_map]
  rfl

theorem marks_sublist (d : FltDriver) (ep : Nat) (f : IpType) :
    ((d.marks ep f).map Prod.fst).Sublist (d.hdls f) := by
  rw [marks_map_fst]
  exact List.filter_sublist.map _

theorem Sound.marks_nodup (h : d.Sound) (ep : Nat) (f : IpType) :
    ((d.marks ep f).map Prod.fst).Nodup :=
  (h.nodup f).sublist (d.marks_sublist ep f)

theorem entries_mark (ep : Nat) (hs : List Hdl) (rules : List FltRule) :
    (entries ep hs rules).map FltEntry.mark = hs.zip (rules.map FltRule.mark) := by
  rw [entries, List.map_zipWith, List.zip_map_right, List.zip_eq_zipWith, List.map_zipWith]
  rfl

theorem Added.marks (h : d.Added ep f rules hs d') (g : IpType) :
    d'.marks ep g =
      if g = f then d.marks ep g ++ hs.zip (rules.map FltRule.mark) else d.marks ep g := by
  rw [FltDriver.marks, FltDriver.marks, h.pipe]
  split
  · rw [List.map_append, entries_mark]
  · rfl

theorem Deleted.marks (h : d.Deleted f hs d') (ep : Nat) (g : IpType) :
    d'.marks ep g =
      if g = f then without Prod.fst hs (d.marks ep g) else d.marks ep g := by
  rw [FltDriver.marks, FltDriver.marks, h.pipe]
  split
  · rw [without, without, List.filter_map]
    rfl
  · rfl

theorem foldl_rewrite_marks (ep : Nat) {l : List FltEntry}
    (hnew : ∀ p ∈ new, p.2.ruleClass = .base ∧ ∀ e ∈ l, e.hdl = p.1 → e.rule.ruleClass = .base) :
    ((new.foldl (fun l p => rewrite FltEntry.hdl p.1 (fun e => { e with rule := p.2 }) l)
      l).filter fun e => e.ep = ep).map FltEntry.mark =
      (l.filter fun e => e.ep = ep).map FltEntry.mark := by
  induction new generalizing l with
  | nil => rfl
  | cons p new ih =>
      obtain ⟨hrule, hold⟩ := hnew p List.mem_cons_self
      rw [List.foldl_cons, ih]
      · apply rewrite_filter_map
        intro e he hkey
        refine ⟨rfl, ?_⟩
        change (e.hdl, p.2.mark) = (e.hdl, e.rule.mark)
        rw [FltRule.mark_of_base hrule, FltRule.mark_of_base (hold e he hkey)]
      · intro p' hp'
        obtain ⟨hrule', hold'⟩ := hnew p' (List.mem_cons_of_mem p hp')
        refine ⟨hrule', ?_⟩
        intro e he hkey
        rcases mem_rewrite he with hmem | ⟨e', -, -, rfl⟩
        · exact hold' e hmem hkey
        · exact hrule

theorem modifyFilteringRule_marks (ep : Nat) (g : IpType)
    (hnew : ∀ p ∈ new, p.2.ruleClass = .base ∧ d.Base f p.1) :
    (d.modifyFilteringRule f new).2.marks ep g = d.marks ep g := by
  rcases eq_or_ne g f with rfl | hg
  · rw [marks, marks, pipe, pipe, modifyFilteringRule, Fam.get_set, if_pos rfl]
    exact foldl_rewrite_marks ep hnew
  · rw [marks, marks, pipe, pipe, modifyFilteringRule, Fam.get_set, if_neg hg]

theorem Sound.base_of_mark (h : d.Sound) {k : Hdl} (hk : k = 0 ∨ (k, none) ∈ d.marks ep f) :
    d.Base f k := by
  intro e he hkey
  rcases hk with rfl | hk
  · exact absurd (List.mem_map.mpr ⟨e, he, hkey⟩) (h.null f)
  · obtain ⟨e', he', hmark⟩ := List.mem_map.mp hk
    obtain ⟨rfl, hnone⟩ := Prod.mk.inj hmark
    rw [h.entry_unique he (mem_pipe.mp he').1 hkey]
    exact FltRule.mark_eq_none hnone

end FltDriver

/-- What an interface and the driver know of a family. The number of addresses is that of
IPv6; there is one IPv4 address. -/
structure FamView where
  supported : Bool
  addrs : Nat
  count : Int
  uplinkSet : Bool
  uplinkHdls : List Hdl
  prefixHdl : Hdl
  marks : List (Hdl × Option FltRule)
  notices : List Notice

def FltIface.addrs (i : FltIface) : IpType → Nat
  | .v4 => 1
  | .v6 => i.ipv6Addr.length

def FltIface.prefixHdl (i : FltIface) : IpType → Hdl
  | .v4 => 0
  | .v6 => i.ipv6PrefixFl

def FltSt.view (s : FltSt) (f : IpType) : FamView where
  supported := s.iface.ipType.supports f
  addrs := s.iface.addrs f
  count := s.iface.fltRuleCount.get f
  uplinkSet := s.iface.modemUlSet.get f
  uplinkHdls := s.iface.wanUlFl.get f
  prefixHdl := s.iface.prefixHdl f
  marks := s.ipa.marks s.iface.ep f
  notices := s.ipa.notices.filter fun x => x.iptype = f

/-- The rules an interface has of its own, private subnets apart. -/
def ownRules : IpType → Nat
  | .v4 => 6
  | .v6 => 10

/-- How far the count is ahead once the backhaul has gone down. -/
def surplus (f : IpType) (n : Nat) : Int := FltSt.wanDownCount f - (ownRules f + n)

/-- The indices sent are the positions of the rules, `off` added. -/
def Notice.Right (off : Int) (x : Notice) : Prop :=
  ∃ front, x.pipe.map FltEntry.hdl = front ++ x.hdls ∧
    x.filterIndex = (List.range x.hdls.length).map fun i => (front.length : Int) + off + (i : Int)

/-- The indices sent first are right, the later ones are ahead by the surplus. -/
def SentRight (f : IpType) (n : Nat) : List Notice → Prop
  | [] => True
  | first :: rest => first.Right 0 ∧ ∀ x ∈ rest, x.Right (surplus f n)

variable (st : FltStatics) (f : IpType)

def uplinkRules : List FltRule := (st.ext.props.get f).map (.uplink f)

/-- No address of the family. -/
structure FamView.Absent (v : FamView) : Prop where
  supported : v.supported = false
  addrs : f = .v6 → v.addrs = 0
  count : v.count = 0
  uplinkSet : v.uplinkSet = false
  uplinkHdls : v.uplinkHdls = []
  marks : v.marks = []
  notices : v.notices = []

/-- An address, and no backhaul. -/
structure FamView.Ready (n : Nat) (v : FamView) : Prop where
  supported : v.supported = true
  addrs : 1 ≤ v.addrs
  uplinkSet : v.uplinkSet = false
  uplinkHdls : v.uplinkHdls = []
  own : ∀ m ∈ v.marks, m.2 = none
  length : v.marks.length = ownRules f + n
  subnets : n ≤ 3 ∧ (f = .v6 → n = 0)
  count : uplinkRules st f ≠ [] →
    v.count = v.marks.length + if v.notices = [] then 0 else surplus f n
  sent : SentRight f n v.notices

/-- The rule for the prefix of the backhaul. -/
def FamView.IsPrefix (v : FamView) (pfx : List (Hdl × Option FltRule)) : Prop :=
  match f with
  | .v4 => pfx = []
  | .v6 => ∃ word0 word1, pfx = [(v.prefixHdl, some (.ipv6Prefix word0 word1))]

/-- An address, and the rule for the prefix of a backhaul. -/
structure FamView.Primed (n : Nat) (v : FamView) : Prop where
  supported : v.supported = true
  addrs : 1 ≤ v.addrs
  uplinkSet : v.uplinkSet = false
  uplinkHdls : v.uplinkHdls = []
  marks : ∃ own pfx, v.marks = own ++ pfx ∧ (∀ m ∈ own, m.2 = none) ∧
    own.length = ownRules f + n ∧ v.IsPrefix f pfx
  subnets : n ≤ 3 ∧ (f = .v6 → n = 0)
  count : uplinkRules st f ≠ [] →
    v.count = v.marks.length + if v.notices = [] then 0 else surplus f n
  sent : SentRight f n v.notices

/-- An address, and a backhaul. -/
structure FamView.Up (n : Nat) (v : FamView) : Prop where
  supported : v.supported = true
  addrs : 1 ≤ v.addrs
  marks : ∃ own pfx, v.marks = own ++ pfx ++ v.uplinkHdls.zip ((uplinkRules st f).map some) ∧
    (∀ m ∈ own, m.2 = none) ∧ own.length = ownRules f + n ∧ v.IsPrefix f pfx
  length : v.uplinkHdls.length = if v.uplinkSet then (uplinkRules st f).length else 0
  due : v.addrs ≤ 1 → v.uplinkSet = true
  subnets : n ≤ 3 ∧ (f = .v6 → n = 0)
  noticed : v.uplinkSet = true → uplinkRules st f ≠ [] → v.notices ≠ []
  sent : SentRight f n v.notices

def FamView.Fits (up : Bool) (v : FamView) : Prop :=
  v.Absent f ∨ ∃ n, if up then v.Up st f n else v.Ready st f n

/-- The invariant of a LAN interface; `up` tells for which families there is a backhaul. -/
structure LanInv (up : Fam Bool) (s : FltSt) : Prop where
  sound : s.ipa.Sound
  kind : s.iface.kind = .lan
  private_base : ∀ k ∈ s.iface.privateFl, k = 0 ∨ (k, none) ∈ (s.view .v4).marks
  fam : ∀ f, (s.view f).Fits st f (up.get f)

theorem fam_set_eq {α : Type} {x : Fam α} {b : α} {f : IpType} (h : x.get f = b) :
    x.set b f = x := by
  subst h
  cases f <;> rfl

theorem LanInv.of_family {st : FltStatics} {up : Fam Bool} {f : IpType} {b : Bool} {s s' : FltSt}
    (h : LanInv st up s) (hsound : s'.ipa.Sound) (hkind : s'.iface.kind = .lan)
    (hprivate : ∀ k ∈ s'.iface.privateFl, k = 0 ∨ (k, none) ∈ (s'.view .v4).marks)
    (hother : ∀ g ≠ f, s'.view g = s.view g) (hfits : (s'.view f).Fits st f b) :
    LanInv st (up.set b f) s' := by
  refine ⟨hsound, hkind, hprivate, fun g => ?_⟩
  rcases eq_or_ne g f with rfl | hg
  · rw [Fam.get_set, if_pos rfl]
    exact hfits
  · rw [Fam.get_set, if_neg hg, hother g hg]
    exact h.fam g

/-- The driver takes all rules, deletes them and answers the other calls. -/
structure Answers.Accepts (a : Answers) : Prop where
  ipv6Icmp : a.ipv6Icmp ≠ none
  rtRules : a.rtRules = true
  dft : a.dft ≠ none
  lan2lan : a.lan2lan ≠ none
  privateFl : a.privateFl ≠ none
  qmapId : a.qmapId = true
  ipv6Prefix : a.ipv6Prefix ≠ none
  filterIndex : a.filterIndex = true
  uplink : a.uplink ≠ none
  refused : a.refused = []

instance Answers.instDecidableAccepts (a : Answers) : Decidable a.Accepts :=
  decidable_of_iff (a.ipv6Icmp ≠ none ∧ a.rtRules = true ∧ a.dft ≠ none ∧ a.lan2lan ≠ none ∧
    a.privateFl ≠ none ∧ a.qmapId = true ∧ a.ipv6Prefix ≠ none ∧ a.filterIndex = true ∧
    a.uplink ≠ none ∧ a.refused = [])
    ⟨fun ⟨h1, h2, h3, h4, h5, h6, h7, h8, h9, h10⟩ => ⟨h1, h2, h3, h4, h5, h6, h7, h8, h9, h10⟩,
      fun ⟨h1, h2, h3, h4, h5, h6, h7, h8, h9, h10⟩ => ⟨h1, h2, h3, h4, h5, h6, h7, h8, h9, h10⟩⟩

namespace FltSt

variable {st : FltStatics} {a : Answers} {up : Fam Bool} {s s' : FltSt} {f g : IpType} {n k : Nat}

theorem install_added {answer : Answer} {rules : List FltRule}
    {store : List Hdl → FltIface → FltIface} (hans : answer ≠ none)
    (h : s.install f rules answer store = some s') :
    ∃ hdls d, s.ipa.Added s.iface.ep f rules hdls d ∧ s' = ⟨store hdls s.iface, d⟩ := by
  obtain ⟨hdls, rfl⟩ := Option.ne_none_iff_exists'.mp hans
  obtain ⟨d, hadd, heq⟩ := Option.bind_eq_some_iff.mp h
  exact ⟨hdls, d, FltDriver.added hadd, (Option.some.inj heq).symm⟩

theorem view_added {rules : List FltRule} {hdls : List Hdl} {d : FltDriver}
    (h : s.ipa.Added s.iface.ep f rules hdls d) {i : FltIface} (hep : i.ep = s.iface.ep)
    (g : IpType) :
    (FltSt.mk i d).view g =
      { (FltSt.mk i s.ipa).view g with
        marks := if g = f then (s.view g).marks ++ hdls.zip (rules.map FltRule.mark)
          else (s.view g).marks } := by
  rw [view, view, hep, h.marks, h.notices]
  rfl

theorem zip_base_mark {hdls : List Hdl} {rules : List FltRule}
    (hbase : ∀ r ∈ rules, r.ruleClass = .base) :
    ∀ m ∈ hdls.zip (rules.map FltRule.mark), m.2 = none := by
  intro m hm
  obtain ⟨r, hr, heq⟩ := List.mem_map.mp (List.of_mem_zip hm).2
  rw [← heq]
  exact FltRule.mark_of_base (hbase r hr)

theorem zip_mark_length {hdls : List Hdl} {rules : List FltRule}
    (hlen : hdls.length = rules.length) :
    (hdls.zip (rules.map FltRule.mark)).length = rules.length := by
  rw [List.length_zip, List.length_map, hlen, Nat.min_self]

theorem dftRules_base (f : IpType) : ∀ r ∈ dftRules f, r.ruleClass = .base := by
  intro r hr
  obtain ⟨i, -, rfl⟩ := List.mem_map.mp hr
  rfl

theorem dummies_base (c : Nat) : ∀ r ∈ List.replicate c FltRule.dummy, r.ruleClass = .base := by
  intro r hr
  rw [List.eq_of_mem_replicate hr]
  rfl

theorem subnets_base (t : SubnetTable) :
    ∀ r ∈ t.entries.map FltRule.privateSubnet, r.ruleClass = .base := by
  intro r hr
  obtain ⟨subnet, -, rfl⟩ := List.mem_map.mp hr
  rfl

/-- The indices from an offset on. -/
def indicesFrom (offset : Int) (count : Nat) : List Int :=
  (List.range count).map fun i => offset + (i : Int)

/-- The rules are added, and the modem is told. -/
structure UplinkAdded (st : FltStatics) (f : IpType) (hdls : List Hdl) (s s' : FltSt) : Prop where
  added : ∃ d, s.ipa.Added s.iface.ep f (uplinkRules st f) hdls d ∧
    s'.ipa = { d with
      notices := d.notices ++
        [⟨f, indicesFrom (s.iface.fltRuleCount.get f) (uplinkRules st f).length, hdls,
          d.pipe s.iface.ep f⟩] }
  iface : s'.iface = { s.iface with
    wanUlFl := s.iface.wanUlFl.set (s.iface.wanUlFl.get f ++ hdls) f
    fltRuleCount := s.iface.fltRuleCount.set
      (s.iface.fltRuleCount.get f + (uplinkRules st f).length) f
    modemUlSet := s.iface.modemUlSet.set true f }

theorem uplinkRules_eq_nil_iff : uplinkRules st f = [] ↔ st.ext.props.get f = [] := by
  rw [uplinkRules, List.map_eq_nil_iff]

theorem uplinkRules_length (st : FltStatics) (f : IpType) :
    (uplinkRules st f).length = (st.ext.props.get f).length := by
  rw [uplinkRules, List.length_map]

theorem handleWanUpEx_added (hkind : s.iface.kind = .lan) (hacc : a.Accepts)
    (hdue : UplinkDue f s.iface) (hrules : uplinkRules st f ≠ []) {m : Int}
    (h : s.handleWanUpEx st a m f = some s') : ∃ hdls, UplinkAdded st f hdls s s' := by
  obtain ⟨hdls, hans⟩ := Option.ne_none_iff_exists'.mp hacc.uplink
  rw [handleWanUpEx, if_neg (by rw [hacc.qmapId]; decide), if_pos hdue] at h
  obtain ⟨t, ht, heq⟩ := Option.bind_eq_some_iff.mp h
  obtain rfl := Option.some.inj heq
  rw [handleUplinkFilterRule] at ht
  dsimp only at ht
  rw [if_neg (mt uplinkRules_eq_nil_iff.mpr hrules), hkind] at ht
  dsimp only at ht
  rw [sendAndAdd] at ht
  dsimp only at ht
  rw [if_neg (by rw [hacc.filterIndex]; decide), hans] at ht
  obtain ⟨u, hu, heq⟩ := Option.bind_eq_some_iff.mp ht
  obtain rfl := Option.some.inj heq
  obtain ⟨d, hadd, heq⟩ := Option.bind_eq_some_iff.mp hu
  obtain rfl := Option.some.inj heq
  refine ⟨hdls, ⟨d, FltDriver.added hadd, ?_⟩, ?_⟩
  · simp [indicesFrom, uplinkRules_length]
    rfl
  · rw [uplinkRules_length]
    rfl

theorem handleWanUpEx_no_rules (hacc : a.Accepts)
    (hdue : UplinkDue f s.iface) (hrules : uplinkRules st f = []) {m : Int}
    (h : s.handleWanUpEx st a m f = some s') :
    s' = { s with iface := { s.iface with modemUlSet := s.iface.modemUlSet.set true f } } := by
  rw [handleWanUpEx, if_neg (by rw [hacc.qmapId]; decide), if_pos hdue,
    handleUplinkFilterRule] at h
  dsimp only at h
  rw [if_pos (uplinkRules_eq_nil_iff.mp hrules)] at h
  exact (Option.some.inj h).symm

theorem uplinkRules_mark (st : FltStatics) (f : IpType) :
    (uplinkRules st f).map FltRule.mark = (uplinkRules st f).map some := by
  apply List.map_congr_left
  intro r hr
  obtain ⟨p, -, rfl⟩ := List.mem_map.mp hr
  rfl

/-- What an event of one family leaves as it is. -/
structure Kept (f : IpType) (s s' : FltSt) : Prop where
  sound : s'.ipa.Sound
  kind : s'.iface.kind = s.iface.kind
  privateFl : s'.iface.privateFl = s.iface.privateFl
  other : ∀ g ≠ f, s'.view g = s.view g
  own : ∀ m ∈ (s.view f).marks, m.2 = none → m ∈ (s'.view f).marks

theorem Kept.refl (hsound : s.ipa.Sound) (f : IpType) : Kept f s s :=
  ⟨hsound, rfl, rfl, fun _ _ => rfl, fun _ hm _ => hm⟩

theorem Kept.trans {s'' : FltSt} (h : Kept f s s') (h' : Kept f s' s'') : Kept f s s'' where
  sound := h'.sound
  kind := h'.kind.trans h.kind
  privateFl := h'.privateFl.trans h.privateFl
  other g hg := (h'.other g hg).trans (h.other g hg)
  own m hm hnone := h'.own m (h.own m hm hnone) hnone

theorem Kept.private_base (h : Kept f s s')
    (hbase : ∀ k ∈ s.iface.privateFl, k = 0 ∨ (k, none) ∈ (s.view .v4).marks) :
    ∀ k ∈ s'.iface.privateFl, k = 0 ∨ (k, none) ∈ (s'.view .v4).marks := by
  rw [h.privateFl]
  intro k hk
  rcases hbase k hk with hzero | hmem
  · exact Or.inl hzero
  · right
    cases f with
    | v4 => exact h.own _ hmem rfl
    | v6 =>
        rw [h.other .v4 IpType.noConfusion]
        exact hmem

theorem UplinkAdded.view_other {hdls : List Hdl} (h : UplinkAdded st f hdls s s') (hg : g ≠ f) :
    s'.view g = s.view g := by
  obtain ⟨⟨d, hadded, hipa⟩, hiface⟩ := h
  have hmarks := (hadded.marks g).trans (if_neg hg)
  rw [view, view, hipa, hiface]
  congr 1
  · exact (Fam.get_set _ _ f g).trans (if_neg hg)
  · exact (Fam.get_set _ _ f g).trans (if_neg hg)
  · exact (Fam.get_set _ _ f g).trans (if_neg hg)
  · rw [List.filter_append, hadded.notices, List.filter_singleton, decide_eq_false (Ne.symm hg)]
    exact List.append_nil _

theorem UplinkAdded.view_self {hdls : List Hdl} (h : UplinkAdded st f hdls s s')
    (hnone : s.iface.wanUlFl.get f = []) :
    ∃ x : Notice, x.hdls = hdls ∧ hdls.length = (uplinkRules st f).length ∧
      x.pipe.map FltEntry.hdl = (s.view f).marks.map Prod.fst ++ hdls ∧
      x.filterIndex = indicesFrom (s.view f).count hdls.length ∧
      s'.view f =
        { s.view f with
          uplinkSet := true
          uplinkHdls := hdls
          count := (s.view f).count + (uplinkRules st f).length
          marks := (s.view f).marks ++ hdls.zip ((uplinkRules st f).map some)
          notices := (s.view f).notices ++ [x] } := by
  obtain ⟨⟨d, hadded, hipa⟩, hiface⟩ := h
  have hmarks : d.marks s.iface.ep f =
      s.ipa.marks s.iface.ep f ++ hdls.zip ((uplinkRules st f).map some) := by
    rw [hadded.marks, if_pos rfl, uplinkRules_mark]
  refine ⟨⟨f, indicesFrom (s.iface.fltRuleCount.get f) (uplinkRules st f).length, hdls,
    d.pipe s.iface.ep f⟩, rfl, hadded.length, ?_, ?_, ?_⟩
  · change (d.pipe s.iface.ep f).map FltEntry.hdl = (s.ipa.marks s.iface.ep f).map Prod.fst ++ hdls
    rw [← FltDriver.marks_map_fst, hmarks, List.map_append, List.map_fst_zip]
    apply Nat.le_of_eq
    rw [List.length_map, hadded.length]
  · rw [hadded.length]
    rfl
  · rw [view, view, hipa, hiface]
    congr 1
    · exact (Fam.get_set _ _ f f).trans (if_pos rfl)
    · exact (Fam.get_set _ _ f f).trans (if_pos rfl)
    · exact ((Fam.get_set _ _ f f).trans (if_pos rfl)).trans (by rw [hnone, List.nil_append])
    · rw [List.filter_append, hadded.notices, List.filter_singleton, decide_eq_true rfl]
      rfl

theorem sentRight_concat {n : Nat} {l : List Notice} {x : Notice} (h : SentRight f n l)
    (hx : x.Right (if l = [] then 0 else surplus f n)) : SentRight f n (l ++ [x]) := by
  cases l with
  | nil =>
      rw [if_pos rfl] at hx
      exact ⟨hx, by simp⟩
  | cons first rest =>
      rw [if_neg (List.cons_ne_nil _ _)] at hx
      refine ⟨h.1, ?_⟩
      intro y hy
      rcases List.mem_append.mp hy with hy | hy
      · exact h.2 y hy
      · rw [List.mem_singleton.mp hy]
        exact hx

theorem UplinkAdded.kept {hdls : List Hdl} (h : UplinkAdded st f hdls s s')
    (hsound : s.ipa.Sound) : Kept f s s' := by
  refine ⟨?_, ?_, ?_, fun g hg => h.view_other hg, ?_⟩
  · obtain ⟨⟨d, hadded, hipa⟩, -⟩ := h
    have hd := hadded.sound hsound
    rw [hipa]
    exact ⟨hd.nodup, hd.null⟩
  · rw [h.iface]
  · rw [h.iface]
  · obtain ⟨⟨d, hadded, hipa⟩, hiface⟩ := h
    intro m hm _
    have hmarks : (s'.view f).marks = d.marks s.iface.ep f := by rw [view, hipa, hiface]; rfl
    rw [hmarks, hadded.marks, if_pos rfl]
    exact List.mem_append_left _ hm

/-- The flag for the uplink rules of a family. -/
def setUplink (f : IpType) (b : Bool) (s : FltSt) : FltSt :=
  { s with iface := { s.iface with modemUlSet := s.iface.modemUlSet.set b f } }

theorem setUplink_view_self (f : IpType) (b : Bool) (s : FltSt) :
    (s.setUplink f b).view f = { s.view f with uplinkSet := b } := by
  rw [view, view]
  congr 1
  exact (Fam.get_set _ _ f f).trans (if_pos rfl)

theorem setUplink_kept (f : IpType) (b : Bool) (hsound : s.ipa.Sound) :
    Kept f s (s.setUplink f b) := by
  refine ⟨hsound, rfl, rfl, ?_, fun _ hm _ => hm⟩
  intro g hg
  rw [view, view]
  congr 1
  exact (Fam.get_set _ _ f g).trans (if_neg hg)

theorem handleWanUpEx_up (hkind : s.iface.kind = .lan) (hacc : a.Accepts)
    (hsound : s.ipa.Sound) (hprimed : (s.view f).Primed st f n) {m : Int}
    (h : s.handleWanUpEx st a m f = some s') : (s'.view f).Up st f n ∧ Kept f s s' := by
  obtain ⟨own, pfx, hmarks, hown, hlen, hpfx⟩ := hprimed.marks
  have hset : s.iface.modemUlSet.get f = false := hprimed.uplinkSet
  have hnone : s.iface.wanUlFl.get f = [] := hprimed.uplinkHdls
  by_cases hdue : UplinkDue f s.iface
  · by_cases hrules : uplinkRules st f = []
    · obtain rfl : s' = s.setUplink f true := handleWanUpEx_no_rules hacc hdue hrules h
      refine ⟨?_, setUplink_kept f true hsound⟩
      rw [setUplink_view_self]
      refine ⟨hprimed.supported, hprimed.addrs, ⟨own, pfx, ?_, hown, hlen, hpfx⟩, ?_,
        fun _ => rfl, hprimed.subnets, fun _ hne => absurd hrules hne, hprimed.sent⟩
      · dsimp only
        rw [hmarks, hrules, List.map_nil, List.zip_nil_right, List.append_nil]
      · dsimp only
        rw [hprimed.uplinkHdls, hrules]
        rfl
    · obtain ⟨hdls, hadd⟩ := handleWanUpEx_added hkind hacc hdue hrules h
      obtain ⟨x, hhdls, hlength, hpipe, hindex, hview⟩ := hadd.view_self hnone
      refine ⟨?_, hadd.kept hsound⟩
      rw [hview]
      refine ⟨hprimed.supported, hprimed.addrs, ⟨own, pfx, ?_, hown, hlen, hpfx⟩, hlength,
        fun _ => rfl, hprimed.subnets, fun _ _ => ?_, ?_⟩
      · dsimp only
        rw [hmarks]
      · exact List.append_ne_nil_of_right_ne_nil _ (List.cons_ne_nil x [])
      · apply sentRight_concat hprimed.sent
        refine ⟨(s.view f).marks.map Prod.fst, hhdls ▸ hpipe, ?_⟩
        rw [hindex, hprimed.count hrules, List.length_map, hhdls]
        rfl
  · have hmany : (s.view f).addrs ≠ 1 := by
      intro hone
      apply hdue
      refine ⟨hset, ?_⟩
      rintro rfl
      exact hone
    rw [handleWanUpEx, if_neg (by rw [hacc.qmapId]; decide), if_neg hdue] at h
    obtain rfl := Option.some.inj h
    refine ⟨⟨hprimed.supported, hprimed.addrs, ⟨own, pfx, ?_, hown, hlen, hpfx⟩, ?_, ?_,
      hprimed.subnets, ?_, hprimed.sent⟩, Kept.refl hsound f⟩
    · rw [hmarks, hprimed.uplinkHdls, List.zip_nil_left, List.append_nil]
    · rw [hprimed.uplinkHdls, hprimed.uplinkSet]
      rfl
    · intro hle
      exact absurd (Nat.le_antisymm hle hprimed.addrs) hmany
    · rw [hprimed.uplinkSet]
      rintro ⟨⟩

theorem installIpv6PrefixFltRule_view (hacc : a.Accepts) (hsound : s.ipa.Sound)
    {words : UInt32 × UInt32} (h : s.installIpv6PrefixFltRule a words = some s') :
    Kept .v6 s s' ∧ ∃ k, s'.view .v6 =
      { s.view .v6 with
        count := (s.view .v6).count + 1
        prefixHdl := k
        marks := (s.view .v6).marks ++ [(k, some (.ipv6Prefix words.1 words.2))] } := by
  obtain ⟨hdls, d, hadded, rfl⟩ := install_added hacc.ipv6Prefix h
  obtain ⟨k, rfl⟩ : ∃ k, hdls = [k] := List.length_eq_one_iff.mp hadded.length
  have hview := view_added hadded (i := { s.iface.addCount .v6 1 with ipv6PrefixFl := k }) rfl
  have hself := hview .v6
  rw [if_pos rfl] at hself
  refine ⟨⟨hadded.sound hsound, rfl, rfl, ?_, ?_⟩, k, hself⟩
  · intro g hg
    cases g with
    | v4 => exact hview .v4
    | v6 => exact absurd rfl hg
  · intro m hm _
    have hmarks := congrArg FamView.marks hself
    exact hmarks ▸ List.mem_append_left _ hm

theorem wanUpPrefix_primed (hkind : s.iface.kind = .lan) (hacc : a.Accepts)
    (hsound : s.ipa.Sound) (hready : (s.view f).Ready st f n) {words : UInt32 × UInt32}
    (h : s.wanUpPrefix a f words = some s') :
    (s'.view f).Primed st f n ∧ Kept f s s' := by
  cases f with
  | v4 =>
      obtain rfl := Option.some.inj h
      exact ⟨⟨hready.supported, hready.addrs, hready.uplinkSet, hready.uplinkHdls,
        ⟨_, [], (List.append_nil _).symm, hready.own, hready.length, rfl⟩, hready.subnets,
        hready.count, hready.sent⟩, Kept.refl hsound _⟩
  | v6 =>
      rw [wanUpPrefix, if_pos (by rw [hkind]; rfl)] at h
      obtain ⟨hkept, k, hview⟩ := installIpv6PrefixFltRule_view hacc hsound h
      refine ⟨?_, hkept⟩
      rw [hview]
      refine ⟨hready.supported, hready.addrs, hready.uplinkSet, hready.uplinkHdls,
        ⟨_, _, rfl, hready.own, hready.length, words.1, words.2, rfl⟩, hready.subnets, ?_,
        hready.sent⟩
      intro hrules
      dsimp only
      rw [hready.count hrules, List.length_append, List.length_singleton, Int.natCast_add]
      exact Int.add_right_comm _ _ _

theorem onWanUp_up (hkind : s.iface.kind = .lan) (hacc : a.Accepts) (hsound : s.ipa.Sound)
    (hready : (s.view f).Ready st f n) {m : Int} {words : UInt32 × UInt32}
    (h : s.onWanUp st a m f false words = some s') :
    (s'.view f).Up st f n ∧ Kept f s s' := by
  obtain ⟨t, ht, h⟩ := Option.bind_eq_some_iff.mp h
  obtain ⟨hprimed, hkept⟩ := wanUpPrefix_primed hkind hacc hsound hready ht
  obtain ⟨hup, hkept'⟩ := handleWanUpEx_up (hkept.kind.trans hkind) hacc hkept.sound hprimed h
  exact ⟨hup, hkept.trans hkept'⟩

end FltSt

end LibraDevice.Lan
