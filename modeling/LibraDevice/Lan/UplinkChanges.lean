import LibraDevice.Lan.UplinkView

/-!
What the other events leave of a family's rules: the backhaul goes down, the
interface gets an address, the private subnets change.
-/

namespace LibraDevice.Lan

open Backhaul KeyedList
open LanToLan (IpAddr)

namespace FltSt

variable {st : FltStatics} {a : Answers} {up : Fam Bool} {s s' : FltSt} {f g : IpType} {n k : Nat}

theorem delete_view (hacc : a.Accepts) (hsound : s.ipa.Sound)
    {front mid rear : List (Hdl × Option FltRule)}
    (hmarks : (s.view f).marks = front ++ mid ++ rear) (hmid : ∀ m ∈ mid, m.2 ≠ none) :
    ∃ t, s.delete a f (mid.map Prod.fst) = (true, t) ∧ t.iface = s.iface ∧ Kept f s t ∧
      t.view f = { s.view f with marks := front ++ rear } := by
  have hsplit : s.ipa.marks s.iface.ep f = front ++ mid ++ rear := hmarks
  have hnodup := hsound.marks_nodup s.iface.ep f
  rw [hsplit] at hnodup
  have hmem : ∀ h ∈ mid.map Prod.fst, h ∈ s.ipa.hdls f := by
    intro h hh
    apply (s.ipa.marks_sublist s.iface.ep f).subset
    rw [hsplit, List.map_append, List.map_append]
    exact List.mem_append_left _ (List.mem_append_right _ hh)
  have hmidnodup : (mid.map Prod.fst).Nodup := by
    rw [List.map_append, List.map_append, List.nodup_append, List.nodup_append] at hnodup
    exact hnodup.1.2.1
  have hrefused : ∀ h ∈ mid.map Prod.fst, h ∉ a.refused := by
    rw [hacc.refused]
    exact fun _ _ => List.not_mem_nil
  obtain ⟨d, hdelete, hdeleted, -⟩ := FltDriver.deleteFilteringHdls_spec hsound
    (fun h hh _ => hmem h hh) hrefused (hmidnodup.filter _)
  have hview : (FltSt.mk s.iface d).view f = { s.view f with marks := front ++ rear } := by
    have hleft := hdeleted.marks s.iface.ep f
    rw [if_pos rfl, hsplit, without_middle hnodup] at hleft
    rw [view, view, hleft, hdeleted.notices]
  refine ⟨⟨s.iface, d⟩, ?_, rfl, ⟨hdeleted.sound hsound, rfl, rfl, ?_, ?_⟩, hview⟩
  · rw [delete, hdelete]
  · intro g hg
    rw [view, view, hdeleted.marks, if_neg hg, hdeleted.notices]
  · intro m hm hnone
    rw [hview]
    rw [hmarks] at hm
    rcases List.mem_append.mp hm with hm | hm
    · rcases List.mem_append.mp hm with hm | hm
      · exact List.mem_append_left _ hm
      · exact absurd hnone (hmid m hm)
    · exact List.mem_append_right _ hm

theorem zip_some_ne_none {hdls : List Hdl} {rules : List FltRule} :
    ∀ m ∈ hdls.zip (rules.map some), m.2 ≠ none := by
  intro m hm
  obtain ⟨r, -, heq⟩ := List.mem_map.mp (List.of_mem_zip hm).2
  rw [← heq]
  exact Option.some_ne_none r

/-- The interface forgets its uplink rules. -/
def forgetUplink (f : IpType) (s : FltSt) : FltSt :=
  { s with
    iface := { s.iface with
      wanUlFl := s.iface.wanUlFl.set [] f
      modemUlSet := s.iface.modemUlSet.set false f } }

theorem forgetUplink_view_self (f : IpType) (s : FltSt) :
    (s.forgetUplink f).view f = { s.view f with uplinkSet := false, uplinkHdls := [] } := by
  rw [view, view]
  congr 1
  · exact (Fam.get_set _ _ f f).trans (if_pos rfl)
  · exact (Fam.get_set _ _ f f).trans (if_pos rfl)

theorem forgetUplink_kept (f : IpType) (hsound : s.ipa.Sound) :
    Kept f s (s.forgetUplink f) := by
  refine ⟨hsound, rfl, rfl, ?_, fun _ hm _ => hm⟩
  intro g hg
  rw [view, view]
  congr 1
  · exact (Fam.get_set _ _ f g).trans (if_neg hg)
  · exact (Fam.get_set _ _ f g).trans (if_neg hg)

theorem dropWanRules_view (hacc : a.Accepts) (hsound : s.ipa.Sound) {hdls : List Hdl}
    (hhdls : s.iface.wanUlFl.get f = hdls) (hfits : hdls.length ≤ maxWanUlFilterRules)
    {own : List (Hdl × Option FltRule)} {rules : List FltRule}
    (hlen : hdls.length ≤ rules.length)
    (hmarks : (s.view f).marks = own ++ hdls.zip (rules.map some)) :
    Kept f s (s.dropWanRules a f false) ∧ (s.dropWanRules a f false).view f =
      { s.view f with uplinkSet := false, uplinkHdls := [], marks := own } := by
  have hfst : (hdls.zip (rules.map some)).map Prod.fst = hdls := by
    apply List.map_fst_zip
    rw [List.length_map]
    exact hlen
  have hsplit : (s.view f).marks = own ++ hdls.zip (rules.map some) ++ [] := by
    rw [hmarks, List.append_nil]
  obtain ⟨t, hdelete, hiface, hkept, hview⟩ := delete_view hacc hsound hsplit zip_some_ne_none
  rw [hfst] at hdelete
  rw [List.append_nil] at hview
  have hdrop : s.dropWanRules a f false = t.forgetUplink f := by
    rw [dropWanRules, if_neg Bool.false_ne_true, hhdls, if_neg (Nat.not_lt.mpr hfits), hdelete]
    rfl
  rw [hdrop]
  refine ⟨hkept.trans (forgetUplink_kept f hkept.sound), ?_⟩
  rw [forgetUplink_view_self, hview]

/-- `flt_rule_count_v4` and `flt_rule_count_v6`, when the backhaul goes down. -/
def resetCount (f : IpType) (s : FltSt) : FltSt :=
  { s with iface := { s.iface with fltRuleCount := s.iface.fltRuleCount.set (wanDownCount f) f } }

theorem resetCount_view_self (f : IpType) (s : FltSt) :
    (s.resetCount f).view f = { s.view f with count := wanDownCount f } := by
  rw [view, view]
  congr 1
  exact (Fam.get_set _ _ f f).trans (if_pos rfl)

theorem resetCount_kept (f : IpType) (hsound : s.ipa.Sound) : Kept f s (s.resetCount f) := by
  refine ⟨hsound, rfl, rfl, ?_, fun _ hm _ => hm⟩
  intro g hg
  rw [view, view]
  congr 1
  exact (Fam.get_set _ _ f g).trans (if_neg hg)

theorem ready_of_down {v : FamView} (hup : v.Up st f n) (haddrs : f = .v4 → v.addrs ≤ 1)
    {own : List (Hdl × Option FltRule)} (hown : ∀ m ∈ own, m.2 = none)
    (hlen : own.length = ownRules f + n) :
    FamView.Ready st f n
      { v with count := wanDownCount f, uplinkSet := false, uplinkHdls := [], marks := own } := by
  refine ⟨hup.supported, hup.addrs, rfl, rfl, hown, hlen, hup.subnets, ?_, hup.sent⟩
  intro hrules
  dsimp only
  rw [hlen]
  split
  · rename_i hnil
    -- Without an index sent the rules were not due, so the family is IPv6.
    cases f with
    | v4 => exact absurd hnil (hup.noticed (hup.due (haddrs rfl)) hrules)
    | v6 =>
        rw [hup.subnets.2 rfl]
        rfl
  · rw [surplus]
    omega

theorem uplinkHdls_fit {v : FamView} (hup : v.Up st f n) :
    v.uplinkHdls.length ≤ (uplinkRules st f).length ∧
      v.uplinkHdls.length ≤ maxWanUlFilterRules := by
  have hle : v.uplinkHdls.length ≤ (uplinkRules st f).length := by
    rw [hup.length]
    split
    · exact Nat.le_refl _
    · exact Nat.zero_le _
  have hfits := st.ext.fits f
  rw [← uplinkRules_length] at hfits
  exact ⟨hle, Nat.le_trans hle (Nat.le_trans hfits (by decide))⟩

theorem handleWanDown_ready (hacc : a.Accepts) (hsound : s.ipa.Sound)
    (hup : (s.view f).Up st f n) :
    ((s.handleWanDown a f false).view f).Ready st f n ∧ Kept f s (s.handleWanDown a f false) := by
  obtain ⟨own, pfx, hmarks, hown, hlen, hpfx⟩ := hup.marks
  obtain ⟨hrules, hmax⟩ := uplinkHdls_fit hup
  have hreset := resetCount_view_self f s
  have hkept := resetCount_kept f hsound
  cases f with
  | v4 =>
      obtain rfl : pfx = [] := hpfx
      rw [List.append_nil] at hmarks
      obtain ⟨hkept', hview⟩ := dropWanRules_view (s := s.resetCount .v4) (f := .v4) hacc
        hkept.sound rfl hmax hrules hmarks
      refine ⟨?_, hkept.trans hkept'⟩
      change ((s.resetCount .v4).dropWanRules a .v4 false |>.view .v4).Ready st .v4 n
      rw [hview, hreset]
      exact ready_of_down hup (fun _ => Nat.le_refl 1) hown hlen
  | v6 =>
      obtain ⟨word0, word1, rfl⟩ := hpfx
      obtain ⟨t, hdelete, hiface, hkept', hview⟩ := delete_view (s := s.resetCount .v6) hacc
        hkept.sound hmarks (by simp)
      rw [hreset] at hview
      have hpast : s.handleWanDown a .v6 false = t.dropWanRules a .v6 false := by
        have hgone : (s.resetCount .v6).delete a .v6 [s.iface.ipv6PrefixFl] = (true, t) := hdelete
        rw [resetCount] at hgone
        rw [handleWanDown]
        dsimp only
        rw [hgone]
      have hhdls : t.iface.wanUlFl.get .v6 = (s.view .v6).uplinkHdls := by
        rw [hiface]
        rfl
      obtain ⟨hkept'', hview'⟩ := dropWanRules_view (f := .v6) hacc hkept'.sound hhdls hmax hrules
        (congrArg FamView.marks hview)
      rw [hpast]
      refine ⟨?_, (hkept.trans hkept').trans hkept''⟩
      rw [hview', hview]
      exact ready_of_down hup IpType.noConfusion hown hlen

/-- Rules of the interface itself are added, and counted. -/
structure Grows (f : IpType) (k : Nat) (b : Bool) (s s' : FltSt) : Prop where
  sound : s'.ipa.Sound
  kind : s'.iface.kind = s.iface.kind
  other : ∀ g ≠ f, s'.view g = s.view g
  self : ∃ own, own.length = k ∧ (∀ m ∈ own, m.2 = none) ∧ s'.view f =
    { s.view f with
      supported := b
      count := (s.view f).count + k
      marks := (s.view f).marks ++ own }

theorem Grows.trans {k k' : Nat} {b b' : Bool} {s'' : FltSt} (h : Grows f k b s s')
    (h' : Grows f k' b' s' s'') : Grows f (k + k') b' s s'' := by
  refine ⟨h'.sound, h'.kind.trans h.kind, fun g hg => (h'.other g hg).trans (h.other g hg), ?_⟩
  obtain ⟨own, hlen, hown, hview⟩ := h.self
  obtain ⟨own', hlen', hown', hview'⟩ := h'.self
  refine ⟨own ++ own', by rw [List.length_append, hlen, hlen'], ?_, ?_⟩
  · intro m hm
    rcases List.mem_append.mp hm with hm | hm
    · exact hown m hm
    · exact hown' m hm
  · rw [hview', hview]
    simp only [Int.natCast_add, Int.add_assoc, List.append_assoc]

theorem Grows.supported {b : Bool} (h : Grows f k b s s') : s'.iface.ipType.supports f = b := by
  obtain ⟨own, -, -, hview⟩ := h.self
  exact congrArg FamView.supported hview

theorem install_grows {answer : Answer} {rules : List FltRule}
    {store : List Hdl → FltIface → FltIface} {k : Nat} {b : Bool}
    (hbase : ∀ r ∈ rules, r.ruleClass = .base) (hlen : rules.length = k) (hans : answer ≠ none)
    (hsound : s.ipa.Sound) (h : s.install f rules answer store = some s')
    (hep : ∀ hdls, (store hdls s.iface).ep = s.iface.ep)
    (hkind : ∀ hdls, (store hdls s.iface).kind = s.iface.kind)
    (hother : ∀ hdls, ∀ g ≠ f, (FltSt.mk (store hdls s.iface) s.ipa).view g =
      { s.view g with marks := s.ipa.marks (store hdls s.iface).ep g })
    (hself : ∀ hdls, (FltSt.mk (store hdls s.iface) s.ipa).view f =
      { s.view f with
        supported := b
        count := (s.view f).count + k
        marks := s.ipa.marks (store hdls s.iface).ep f }) :
    Grows f k b s s' ∧ ∃ hdls, s'.iface = store hdls s.iface ∧ hdls.length = k ∧
      ∀ h ∈ hdls, (h, none) ∈ (s'.view f).marks := by
  obtain ⟨hdls, d, hadded, rfl⟩ := install_added hans h
  have hview := view_added hadded (hep hdls)
  have hmarks := (hview f).trans (by rw [if_pos rfl, hself])
  refine ⟨⟨hadded.sound hsound, hkind hdls, ?_, hdls.zip (rules.map FltRule.mark),
    (zip_mark_length hadded.length).trans hlen, zip_base_mark hbase, hmarks⟩, hdls, rfl,
    hadded.length.trans hlen, ?_⟩
  · intro g hg
    rw [hview g, if_neg hg, hother hdls g hg]
  · intro h hh
    rw [hmarks]
    apply List.mem_append_right
    have hfst : (hdls.zip (rules.map FltRule.mark)).map Prod.fst = hdls := by
      apply List.map_fst_zip
      apply Nat.le_of_eq
      rw [List.length_map, hadded.length]
    rw [← hfst] at hh
    obtain ⟨⟨h', rule⟩, hm, rfl⟩ := List.mem_map.mp hh
    obtain rfl : rule = none := zip_base_mark hbase _ hm
    exact hm

theorem installIpv6IcmpFltRule_grows (hacc : a.Accepts) (hsound : s.ipa.Sound)
    (h : s.installIpv6IcmpFltRule a = some s') :
    Grows .v6 1 (s.iface.ipType.supports .v6) s s' ∧
      s'.iface.ipType = s.iface.ipType ∧ s'.iface.privateFl = s.iface.privateFl ∧
        s'.iface.ipv6Addr = s.iface.ipv6Addr := by
  obtain ⟨hgrows, hdls, hiface, -⟩ := install_grows (k := 1) (b := s.iface.ipType.supports .v6)
    (by rintro r hr; rw [List.mem_singleton.mp hr]; rfl) rfl hacc.ipv6Icmp hsound h
    (fun _ => rfl) (fun _ => rfl)
    (by rintro hdls (_ | _) hg; exacts [rfl, absurd rfl hg]) (fun _ => rfl)
  rw [hiface]
  exact ⟨hgrows, rfl, rfl, rfl⟩

/-- The interface supports one more family. -/
def support (f : IpType) (s : FltSt) : FltSt :=
  { s with iface := { s.iface with ipType := s.iface.ipType.add f } }

theorem support_view_self (f : IpType) (s : FltSt) :
    (s.support f).view f = { s.view f with supported := true } := by
  rw [view, view]
  congr 1
  change (s.iface.ipType.add f).supports f = true
  rw [IfaceIpType.supports_add, decide_eq_true rfl, Bool.or_true]

theorem support_view_other (hg : g ≠ f) (s : FltSt) : (s.support f).view g = s.view g := by
  rw [view, view]
  congr 1
  change (s.iface.ipType.add f).supports g = _
  rw [IfaceIpType.supports_add, decide_eq_false hg, Bool.or_false]

theorem initFlRule_grows (hkind : s.iface.kind = .lan) (hacc : a.Accepts) (hsound : s.ipa.Sound)
    (hnot : s.iface.ipType.supports f = false) {m : Int} (h : s.initFlRule st a m f = some s') :
    Grows f (numDefaultRules f).toNat true s s' ∧
      s'.iface.privateFl = s.iface.privateFl ∧ s'.iface.ipv6Addr = s.iface.ipv6Addr := by
  have hinstall : (s.support f).install f (dftRules f) a.dft (fun hdls i =>
      { i.addCount f (numDefaultRules f) with dftFl := i.dftFl.set hdls f }) = some s' := by
    rw [initFlRule, if_neg (by rw [hnot]; exact Bool.false_ne_true)] at h
    dsimp only at h
    split at h
    · exact h
    · rename_i hwlan
      rw [hkind] at hwlan
      cases hwlan
  have hcount : numDefaultRules f = ((numDefaultRules f).toNat : Int) := by cases f <;> rfl
  obtain ⟨hgrows, hdls, hiface, -⟩ := install_grows (s := s.support f)
    (k := (numDefaultRules f).toNat) (b := true) (dftRules_base f)
    (by rw [dftRules, List.length_map, List.length_range]) hacc.dft hsound hinstall
    (fun _ => rfl) (fun _ => rfl)
    (by
      intro hdls g hg
      rw [view, view]
      congr 1
      exact (Fam.get_set _ _ f g).trans (if_neg hg))
    (by
      intro hdls
      rw [support_view_self, ← hcount, view, view]
      congr 1
      · exact congrArg FamView.supported (support_view_self f s)
      · exact (Fam.get_set _ _ f f).trans (if_pos rfl))
  refine ⟨⟨hgrows.sound, hgrows.kind, ?_, ?_⟩, by rw [hiface]; rfl, by rw [hiface]; rfl⟩
  · intro g hg
    rw [hgrows.other g hg, support_view_other hg]
  · obtain ⟨own, hlen, hown, hview⟩ := hgrows.self
    rw [support_view_self] at hview
    exact ⟨own, hlen, hown, hview⟩

theorem addDummyLan2lanFltRule_grows (hkind : s.iface.kind = .lan) (hacc : a.Accepts)
    (hsound : s.ipa.Sound) {m : Int} (h : s.addDummyLan2lanFltRule st a m f = some s') :
    Grows f 3 (s.iface.ipType.supports f) s s' ∧ s'.iface.ipType = s.iface.ipType ∧
      s'.iface.privateFl = s.iface.privateFl ∧ s'.iface.ipv6Addr = s.iface.ipv6Addr := by
  rw [addDummyLan2lanFltRule, hkind] at h
  dsimp only at h
  obtain ⟨hgrows, hdls, hiface, -⟩ := install_grows (k := 3) (b := s.iface.ipType.supports f)
    (dummies_base _) List.length_replicate hacc.lan2lan hsound h (fun _ => rfl) (fun _ => rfl)
    (by
      intro hdls g hg
      rw [view, view]
      congr 1
      exact (Fam.get_set _ _ f g).trans (if_neg hg))
    (by
      intro hdls
      rw [view, view]
      congr 1
      exact (Fam.get_set _ _ f f).trans (if_pos rfl))
  rw [hiface]
  exact ⟨hgrows, rfl, rfl, rfl⟩

theorem handlePrivateSubnet_grows (hacc : a.Accepts) (hsound : s.ipa.Sound) {t : SubnetTable}
    (h : s.handlePrivateSubnet a .v4 t = some s') :
    Grows .v4 t.entries.length (s.iface.ipType.supports .v4) s s' ∧
      ∀ k ∈ s'.iface.privateFl, k ∈ s.iface.privateFl ∨ (k, none) ∈ (s'.view .v4).marks := by
  rw [handlePrivateSubnet] at h
  obtain ⟨hgrows, hdls, hiface, hlen, hmarks⟩ := install_grows (k := t.entries.length)
    (b := s.iface.ipType.supports .v4) (subnets_base t) (List.length_map _) hacc.privateFl hsound
    h (fun _ => rfl) (fun _ => rfl)
    (by rintro hdls (_ | _) hg; exacts [absurd rfl hg, rfl]) (fun _ => rfl)
  refine ⟨hgrows, ?_⟩
  rw [hiface]
  intro k hk
  rcases List.mem_append.mp hk with hk | hk
  · exact Or.inr (hmarks k hk)
  · exact Or.inl (List.mem_of_mem_drop hk)

theorem ready_of_absent {v : FamView} (habsent : v.Absent f) {addrs : Nat} (haddrs : 1 ≤ addrs)
    (hn : n ≤ 3 ∧ (f = .v6 → n = 0)) {own : List (Hdl × Option FltRule)}
    (hown : ∀ m ∈ own, m.2 = none) (hlen : own.length = ownRules f + n) :
    FamView.Ready st f n
      { v with
        supported := true
        addrs := addrs
        count := v.count + (ownRules f + n : Nat)
        marks := v.marks ++ own } := by
  have hmarks : v.marks ++ own = own := by rw [habsent.marks, List.nil_append]
  rw [hmarks]
  refine ⟨rfl, haddrs, habsent.uplinkSet, habsent.uplinkHdls, hown, hlen, hn, ?_, ?_⟩
  · intro _
    dsimp only
    rw [habsent.count, habsent.notices, if_pos rfl, hlen, Int.zero_add, Int.add_zero]
  · dsimp only
    rw [habsent.notices]
    trivial

theorem fits_of_up {b : Bool} {v : FamView} (hb : b = true) (h : v.Up st f n) : v.Fits st f b := by
  subst hb
  exact Or.inr ⟨n, h⟩

theorem fits_of_ready {b : Bool} {v : FamView} (hb : b = false) (h : v.Ready st f n) :
    v.Fits st f b := by
  subst hb
  exact Or.inr ⟨n, h⟩

theorem absent_of_unsupported {b : Bool} {v : FamView} (h : v.Fits st f b)
    (hnot : v.supported = false) : v.Absent f := by
  rcases h with habsent | ⟨n, hfits⟩
  · exact habsent
  · cases b with
    | true => exact absurd (hfits.supported.symm.trans hnot) Bool.noConfusion
    | false => exact absurd (hfits.supported.symm.trans hnot) Bool.noConfusion

theorem settle {t : FltSt} (hinv : LanInv st up s) (hkind : t.iface.kind = .lan)
    (hacc : a.Accepts) (hsound : t.ipa.Sound)
    (hprivate : ∀ k ∈ t.iface.privateFl, k = 0 ∨ (k, none) ∈ (t.view .v4).marks)
    (hother : ∀ g ≠ f, t.view g = s.view g) (hready : (t.view f).Ready st f n) (m : Int)
    (words : UInt32 × UInt32)
    (h : (if up.get f = true then t.onWanUp st a m f false words else some t) = some s') :
    LanInv st up s' := by
  cases hup : up.get f with
  | true =>
      rw [hup, if_pos rfl] at h
      obtain ⟨hfam, hkept⟩ := onWanUp_up hkind hacc hsound hready h
      rw [← fam_set_eq hup]
      exact hinv.of_family hkept.sound (hkept.kind.trans hkind) (hkept.private_base hprivate)
        (fun g hg => (hkept.other g hg).trans (hother g hg)) (fits_of_up rfl hfam)
  | false =>
      rw [hup, if_neg Bool.false_ne_true] at h
      obtain rfl := Option.some.inj h
      rw [← fam_set_eq hup]
      exact hinv.of_family hsound hkind hprivate hother (fits_of_ready rfl hready)

theorem addrAdd_v4 (hinv : LanInv st up s) (hacc : a.Accepts) {addr : UInt32}
    {env : Surroundings} (hup : env.isWanUp = up) (hsta : env.backhaulIsStaMode = false)
    (h : s.addrAdd st a (.v4 addr) env = some s') : LanInv st up s' := by
  rw [addrAdd] at h
  split at h
  · obtain rfl := Option.some.inj h
    exact hinv
  · rename_i hok
    have haccepts : AcceptsAddr s.iface (.v4 addr) := by
      by_contra hnot
      exact hok (Or.inr hnot)
    have hnot : s.iface.ipType.supports .v4 = false := by
      rcases haccepts with hnull | hv6
      · rw [hnull]
        rfl
      · rw [hv6]
        rfl
    have habsent := absent_of_unsupported (hinv.fam .v4) hnot
    obtain ⟨s0, hs0, h⟩ := Option.bind_eq_some_iff.mp h
    obtain rfl := Option.some.inj hs0
    obtain ⟨⟨b, t⟩, ht, h⟩ := Option.bind_eq_some_iff.mp h
    rw [handleAddrEvt, if_neg (by rw [hacc.rtRules]; decide)] at ht
    obtain ⟨s1, hs1, ht⟩ := Option.bind_eq_some_iff.mp ht
    obtain ⟨s2, hs2, hpair⟩ := Option.bind_eq_some_iff.mp ht
    obtain ⟨rfl, rfl⟩ := Prod.mk.inj (Option.some.inj hpair)
    obtain ⟨s3, hs3, h⟩ := Option.bind_eq_some_iff.mp h
    -- the default rules, those for other interfaces, those for private subnets
    obtain ⟨hgrows, hprivate, -⟩ := initFlRule_grows hinv.kind hacc hinv.sound hnot hs1
    obtain ⟨hgrows', -, hprivate', -⟩ := addDummyLan2lanFltRule_grows
      (hgrows.kind.trans hinv.kind) hacc hgrows.sound hs2
    have hsup := hgrows'.supported.trans hgrows.supported
    have hkind := (hgrows'.kind.trans hgrows.kind).trans hinv.kind
    rw [addrPrivateSubnets, hkind] at hs3
    obtain ⟨hgrows'', hprivate''⟩ := handlePrivateSubnet_grows hacc hgrows'.sound hs3
    have hall := (hgrows.trans hgrows').trans hgrows''
    have hsame := hall.supported.symm.trans (hgrows''.supported.trans hsup)
    obtain ⟨own, hlen, hown, hview⟩ := hall.self
    have hready : (s3.view .v4).Ready st .v4
        (addrSubnets (.v4 addr) env.subnets).entries.length := by
      rw [hview, hsame]
      exact ready_of_absent habsent (Nat.le_refl 1)
        ⟨Int.ofNat_le.mp (addrSubnets (.v4 addr) env.subnets).fits, IpType.noConfusion⟩ hown hlen
    rw [hup, hsta] at h
    refine settle hinv (hall.kind.trans hinv.kind) hacc hall.sound ?_ hall.other hready
      (addrSubnets (.v4 addr) env.subnets).entries.length env.backhaulIpv6Prefix ?_
    · intro k hk
      rcases hprivate'' k hk with hold | hnew
      · rw [hprivate', hprivate] at hold
        rcases hinv.private_base k hold with hzero | hmem
        · exact Or.inl hzero
        · rw [habsent.marks] at hmem
          exact absurd hmem List.not_mem_nil
      · exact Or.inr hnew
    · by_cases hwan : up.get .v4 = true
      · rw [if_pos hwan]
        rwa [if_pos ⟨hwan, IpType.noConfusion⟩] at h
      · rw [if_neg hwan]
        rwa [if_neg fun hcond => hwan hcond.1] at h

/-- One more IPv6 address. -/
def appendAddr (addr : IpAddr) (s : FltSt) : FltSt :=
  { s with iface := { s.iface with ipv6Addr := s.iface.ipv6Addr ++ [addr] } }

theorem appendAddr_view_v6 (addr : IpAddr) (s : FltSt) :
    (s.appendAddr addr).view .v6 = { s.view .v6 with addrs := (s.view .v6).addrs + 1 } := by
  rw [view, view]
  congr 1
  exact List.length_append

theorem appendAddr_kept (addr : IpAddr) (hsound : s.ipa.Sound) :
    Kept .v6 s (s.appendAddr addr) := by
  refine ⟨hsound, rfl, rfl, ?_, fun _ hm _ => hm⟩
  rintro (_ | _) hg
  · rfl
  · exact absurd rfl hg

theorem more_addrs {b : Bool} {v : FamView} (h : v.Fits st .v6 b) (hsome : v.addrs ≠ 0) :
    FamView.Fits st .v6 b { v with addrs := v.addrs + 1 } := by
  rcases h with habsent | ⟨n, hfits⟩
  · exact absurd (habsent.addrs rfl) hsome
  · right
    refine ⟨n, ?_⟩
    cases b with
    | true =>
        refine ⟨hfits.supported, Nat.le_add_left 1 _, hfits.marks, hfits.length, ?_, hfits.subnets,
          hfits.noticed, hfits.sent⟩
        intro hle
        exact absurd (Nat.le_of_succ_le_succ hle) (Nat.not_le_of_gt hfits.addrs)
    | false =>
        exact ⟨hfits.supported, Nat.le_add_left 1 _, hfits.uplinkSet, hfits.uplinkHdls, hfits.own,
          hfits.length, hfits.subnets, hfits.count, hfits.sent⟩

theorem firstIpv6Rules_grows (hkind : s.iface.kind = .lan) (hacc : a.Accepts)
    (hsound : s.ipa.Sound) (hnot : s.iface.ipType.supports .v6 = false)
    (hfirst : s.iface.ipv6Addr = []) {m : Int} {t : FltSt}
    (h : s.addrIcmpRule a .v6 = some t) (h' : t.firstIpv6Rules st a m = some s') :
    Grows .v6 10 true s s' ∧ s'.iface.privateFl = s.iface.privateFl := by
  rw [addrIcmpRule, if_pos ⟨hfirst, by rw [hkind]; rfl⟩] at h
  obtain ⟨hgrows, htype, hprivate, haddr⟩ := installIpv6IcmpFltRule_grows hacc hsound h
  rw [firstIpv6Rules, if_pos (haddr.trans hfirst)] at h'
  obtain ⟨u, hu, h'⟩ := Option.bind_eq_some_iff.mp h'
  have hkind' := hgrows.kind.trans hkind
  obtain ⟨hgrows', htype', hprivate', -⟩ := addDummyLan2lanFltRule_grows hkind' hacc
    hgrows.sound hu
  have hnot' : u.iface.ipType.supports .v6 = false := by rw [htype', htype, hnot]
  obtain ⟨hgrows'', hprivate'', -⟩ := initFlRule_grows (hgrows'.kind.trans hkind') hacc
    hgrows'.sound hnot' h'
  exact ⟨(hgrows.trans hgrows').trans hgrows'', hprivate''.trans (hprivate'.trans hprivate)⟩

theorem absent_of_no_addrs {b : Bool} {v : FamView} (h : v.Fits st f b) (hnone : v.addrs = 0) :
    v.Absent f := by
  rcases h with habsent | ⟨n, hfits⟩
  · exact habsent
  · have haddrs : 1 ≤ v.addrs := by cases b <;> exact hfits.addrs
    rw [hnone] at haddrs
    exact absurd haddrs (by decide)

theorem addrPrivateSubnets_v6 (hkind : s.iface.kind = .lan) {t : SubnetTable}
    (h : s.addrPrivateSubnets st a .v6 t = some s') : s' = s := by
  rw [addrPrivateSubnets, hkind] at h
  exact (Option.some.inj h).symm

theorem addrAdd_v6 (hinv : LanInv st up s) (hacc : a.Accepts) {addr : IpAddr}
    {env : Surroundings} (hup : env.isWanUp = up) (hsta : env.backhaulIsStaMode = false)
    (h : s.addrAdd st a (.v6 addr) env = some s') : LanInv st up s' := by
  rw [addrAdd] at h
  split at h
  · obtain rfl := Option.some.inj h
    exact hinv
  · obtain ⟨s0, hs0, h⟩ := Option.bind_eq_some_iff.mp h
    obtain ⟨⟨b, t⟩, ht, h⟩ := Option.bind_eq_some_iff.mp h
    change s.addrIcmpRule a .v6 = some s0 at hs0
    by_cases hfirst : s.iface.ipv6Addr = []
    · have habsent := absent_of_no_addrs (hinv.fam .v6) (congrArg List.length hfirst)
      have haddr : s0.iface.ipv6Addr = [] := by
        rw [addrIcmpRule, if_pos ⟨hfirst, by rw [hinv.kind]; rfl⟩] at hs0
        exact (installIpv6IcmpFltRule_grows hacc hinv.sound hs0).2.2.2.trans hfirst
      rw [handleAddrEvt, if_neg (by rw [haddr, hacc.rtRules]; simp)] at ht
      obtain ⟨s1, hs1, hpair⟩ := Option.bind_eq_some_iff.mp ht
      obtain ⟨rfl, rfl⟩ := Prod.mk.inj (Option.some.inj hpair)
      obtain ⟨s2, hs2, h⟩ := Option.bind_eq_some_iff.mp h
      obtain ⟨hgrows, hprivate⟩ := firstIpv6Rules_grows hinv.kind hacc hinv.sound
        habsent.supported hfirst hs0 hs1
      obtain ⟨own, hlen, hown, hview⟩ := hgrows.self
      have hkept := appendAddr_kept addr hgrows.sound
      have hone := appendAddr_view_v6 addr s1
      rw [hview] at hone
      have hready : ((s1.appendAddr addr).view .v6).Ready st .v6 0 := by
        rw [hone]
        exact ready_of_absent habsent (Nat.le_add_left 1 _) ⟨Nat.zero_le 3, fun _ => rfl⟩ hown hlen
      have hkind := hkept.kind.trans (hgrows.kind.trans hinv.kind)
      obtain rfl := addrPrivateSubnets_v6 hkind hs2
      rw [hup, hsta] at h
      refine settle hinv hkind hacc hkept.sound ?_ ?_ hready env.subnets.entries.length
        env.backhaulIpv6Prefix ?_
      · apply hkept.private_base
        rw [hprivate, hgrows.other .v4 IpType.noConfusion]
        exact hinv.private_base
      · intro g hg
        rw [hkept.other g hg, hgrows.other g hg]
      · have hlength : (s1.appendAddr addr).iface.ipv6Addr.length = 1 := by
          have haddrs := congrArg FamView.addrs hone
          exact haddrs.trans (congrArg Nat.succ (congrArg List.length hfirst))
        by_cases hwan : up.get .v6 = true
        · rw [if_pos hwan]
          rwa [if_pos ⟨hwan, fun _ => hlength⟩] at h
        · rw [if_neg hwan]
          rwa [if_neg fun hcond => hwan hcond.1] at h
    · obtain rfl : s = s0 := by
        rw [addrIcmpRule, if_neg fun hcond => hfirst hcond.1] at hs0
        exact Option.some.inj hs0
      by_cases hdup : addr ∈ s.iface.ipv6Addr
      · rw [handleAddrEvt, if_pos (Or.inl hdup)] at ht
        obtain ⟨rfl, rfl⟩ := Prod.mk.inj (Option.some.inj ht)
        obtain rfl := Option.some.inj h
        exact hinv
      · rw [handleAddrEvt, if_neg (by rw [hacc.rtRules]; simp [hdup]), firstIpv6Rules,
          if_neg hfirst] at ht
        obtain ⟨rfl, rfl⟩ := Prod.mk.inj (Option.some.inj ht)
        obtain ⟨s2, hs2, h⟩ := Option.bind_eq_some_iff.mp h
        have hkept := appendAddr_kept addr hinv.sound
        obtain rfl : s2 = s.appendAddr addr :=
          addrPrivateSubnets_v6 (hkept.kind.trans hinv.kind) hs2
        have hmany : (s.appendAddr addr).iface.ipv6Addr.length ≠ 1 := by
          have haddrs := congrArg FamView.addrs (appendAddr_view_v6 addr s)
          intro hlength
          have hnil := Nat.succ.inj (haddrs.symm.trans hlength)
          exact hfirst (List.eq_nil_of_length_eq_zero hnil)
        obtain rfl : s.appendAddr addr = s' := by
          rw [if_neg fun hcond => hmany (hcond.2 rfl)] at h
          exact Option.some.inj h
        rw [← fam_set_eq (rfl : up.get .v6 = up.get .v6)]
        refine hinv.of_family hkept.sound (hkept.kind.trans hinv.kind)
          (hkept.private_base hinv.private_base) hkept.other ?_
        rw [appendAddr_view_v6]
        apply more_addrs (hinv.fam .v6)
        intro hnone
        exact hfirst (List.eq_nil_of_length_eq_zero hnone)

/-- Rules of the interface itself are rewritten, which is not seen. -/
structure Rewrites (s s' : FltSt) : Prop where
  iface : s'.iface = s.iface
  sound : s'.ipa.Sound
  view : ∀ g, s'.view g = s.view g

theorem Rewrites.refl (hsound : s.ipa.Sound) : Rewrites s s :=
  ⟨rfl, hsound, fun _ => rfl⟩

theorem Rewrites.trans {s'' : FltSt} (h : Rewrites s s') (h' : Rewrites s' s'') :
    Rewrites s s'' where
  iface := h'.iface.trans h.iface
  sound := h'.sound
  view g := (h'.view g).trans (h.view g)

theorem modify_rewrites (hsound : s.ipa.Sound) {new : List (Hdl × FltRule)}
    (hnew : ∀ p ∈ new, p.2.ruleClass = .base ∧ (p.1 = 0 ∨ (p.1, none) ∈ (s.view f).marks)) :
    Rewrites s (s.modify a f new).2 := by
  rw [modify]
  split
  · have hbase : ∀ p ∈ new, p.2.ruleClass = .base ∧ s.ipa.Base f p.1 := by
      intro p hp
      exact ⟨(hnew p hp).1, hsound.base_of_mark (hnew p hp).2⟩
    have hrewritten := FltDriver.modifyFilteringRule_rewritten hbase
    refine ⟨rfl, hrewritten.sound hsound, fun g => ?_⟩
    have hmarks := FltDriver.modifyFilteringRule_marks s.iface.ep g hbase
    change FamView.mk _ _ _ _ _ _ _ _ = _
    rw [hmarks, hrewritten.notices]
    rfl
  · exact Rewrites.refl hsound

theorem resetToDummy_rewrites {hdls : List Hdl} (hsound : s.ipa.Sound)
    (hbase : ∀ k ∈ hdls, k = 0 ∨ (k, none) ∈ (s.view f).marks) :
    Rewrites s (hdls.foldl (fun s h => (s.resetToDummyFltRule a f h).2) s) := by
  induction hdls generalizing s with
  | nil => exact Rewrites.refl hsound
  | cons h hdls ih =>
      have hhead : Rewrites s (s.resetToDummyFltRule a f h).2 := by
        apply modify_rewrites hsound
        intro p hp
        rw [List.mem_singleton.mp hp]
        exact ⟨rfl, hbase h List.mem_cons_self⟩
      apply hhead.trans
      apply ih hhead.sound
      intro k hk
      rw [hhead.view]
      exact hbase k (List.mem_cons_of_mem h hk)

theorem handlePrivateSubnetAndroid_rewrites (hsound : s.ipa.Sound)
    (hbase : ∀ k ∈ s.iface.privateFl, k = 0 ∨ (k, none) ∈ (s.view .v4).marks) (t : SubnetTable) :
    Rewrites s (s.handlePrivateSubnetAndroid a .v4 t) := by
  have hreset := resetToDummy_rewrites (a := a) hsound hbase
  apply hreset.trans
  apply modify_rewrites hreset.sound
  rintro ⟨k, r⟩ hp
  obtain ⟨hk, hr⟩ := List.of_mem_zip hp
  rw [hreset.iface] at hk
  rw [hreset.view]
  exact ⟨subnets_base t r hr, hbase k hk⟩

theorem LanInv.rewrites (hinv : LanInv st up s) (h : Rewrites s s') : LanInv st up s' := by
  refine ⟨h.sound, by rw [h.iface]; exact hinv.kind, ?_, ?_⟩
  · intro k hk
    rw [h.iface] at hk
    rw [h.view]
    exact hinv.private_base k hk
  · intro f
    rw [h.view]
    exact hinv.fam f

theorem wanUpTether_inv (hinv : LanInv st up s) (hacc : a.Accepts) (hdown : up.get f = false)
    {m : Int} {words : UInt32 × UInt32}
    (h : s.eventCallback st a m (.wanUpTether f false words) = some s') :
    LanInv st (up.set true f) s' := by
  rw [eventCallback] at h
  split at h
  · rename_i hsup
    obtain ⟨n, hready⟩ : ∃ n, (s.view f).Ready st f n := by
      have hfits := hinv.fam f
      rw [hdown] at hfits
      rcases hfits with habsent | hready
      · exact absurd (hsup.symm.trans habsent.supported) Bool.noConfusion
      · exact hready
    obtain ⟨hup, hkept⟩ := onWanUp_up hinv.kind hacc hinv.sound hready h
    exact hinv.of_family hkept.sound (hkept.kind.trans hinv.kind)
      (hkept.private_base hinv.private_base) hkept.other (Or.inr ⟨n, hup⟩)
  · rename_i hsup
    obtain rfl := Option.some.inj h
    have habsent := absent_of_unsupported (hinv.fam f) (Bool.eq_false_iff.mpr hsup)
    exact hinv.of_family hinv.sound hinv.kind hinv.private_base (fun _ _ => rfl)
      (Or.inl habsent)

theorem wanDownTether_inv (hinv : LanInv st up s) (hacc : a.Accepts) (hup : up.get f = true)
    {m : Int} (h : s.eventCallback st a m (.wanDownTether f false) = some s') :
    LanInv st (up.set false f) s' := by
  rw [eventCallback, if_neg (by rw [hinv.kind]; rintro ⟨-, ⟨⟩⟩)] at h
  split at h
  · rename_i hsup
    obtain rfl := Option.some.inj h
    obtain ⟨n, hfits⟩ : ∃ n, (s.view f).Up st f n := by
      have hfits := hinv.fam f
      rw [hup] at hfits
      rcases hfits with habsent | hfits
      · exact absurd (hsup.symm.trans habsent.supported) Bool.noConfusion
      · exact hfits
    obtain ⟨hready, hkept⟩ := handleWanDown_ready hacc hinv.sound hfits
    exact hinv.of_family hkept.sound (hkept.kind.trans hinv.kind)
      (hkept.private_base hinv.private_base) hkept.other (Or.inr ⟨n, hready⟩)
  · rename_i hsup
    obtain rfl := Option.some.inj h
    have habsent := absent_of_unsupported (hinv.fam f) (Bool.eq_false_iff.mpr hsup)
    exact hinv.of_family hinv.sound hinv.kind hinv.private_base (fun _ _ => rfl)
      (Or.inl habsent)

end FltSt

end LibraDevice.Lan
