import LibraDevice.Lan.UplinkChanges
import LibraDevice.Lib.StepRun

/-!
The uplink rules of a LAN interface under a modem backhaul, and the indices that the modem
is sent for them.
-/

namespace LibraDevice.Lan

open Backhaul KeyedList
open LanToLan (IpAddr)

/-- An uplink rule and its handle. -/
def pickUplink (m : Hdl × Option FltRule) : Option (Hdl × FltRule) :=
  m.2.bind fun rule => if rule.ruleClass = .uplink then some (m.1, rule) else none

theorem filterMap_pick_own {own : List (Hdl × Option FltRule)} (hown : ∀ m ∈ own, m.2 = none) :
    own.filterMap pickUplink = [] := by
  rw [List.filterMap_eq_nil_iff]
  intro m hm
  rw [pickUplink, hown m hm]
  rfl

theorem filterMap_pick_prefix {f : IpType} {v : FamView} {pfx : List (Hdl × Option FltRule)}
    (h : v.IsPrefix f pfx) : pfx.filterMap pickUplink = [] := by
  cases f with
  | v4 =>
      obtain rfl : pfx = [] := h
      rfl
  | v6 =>
      obtain ⟨word0, word1, rfl⟩ := h
      rfl

theorem filterMap_pick_uplink (st : FltStatics) (f : IpType) (hdls : List Hdl) :
    (hdls.zip ((uplinkRules st f).map some)).filterMap pickUplink =
      hdls.zip (uplinkRules st f) := by
  rw [uplinkRules]
  generalize st.ext.props.get f = props
  induction hdls generalizing props with
  | nil => rfl
  | cons h hdls ih =>
      cases props with
      | nil => rfl
      | cons p props =>
          simp only [List.map_cons, List.zip_cons_cons]
          rw [List.filterMap_cons, ih]
          rfl

theorem FltDriver.entriesOf_picked (d : FltDriver) (ep : Nat) (f : IpType) :
    (d.entriesOf ep .uplink f).map (fun e => (e.hdl, e.rule)) =
      (d.marks ep f).filterMap pickUplink := by
  rw [FltDriver.entriesOf, FltDriver.marks]
  induction d.pipe ep f with
  | nil => rfl
  | cons e l ih =>
      rw [List.map_cons, List.filterMap_cons, List.filter_cons, ← ih]
      cases hclass : e.rule.ruleClass <;> simp [FltEntry.mark, FltRule.mark, pickUplink, hclass]

theorem FltDriver.entriesOf_base (d : FltDriver) (ep : Nat) (f : IpType) :
    (d.entriesOf ep .base f).map FltEntry.mark = (d.marks ep f).filter fun m => m.2 = none := by
  rw [FltDriver.entriesOf, FltDriver.marks, List.filter_map]
  congr 1
  apply List.filter_congr
  intro e _
  cases hclass : e.rule.ruleClass <;> simp [FltEntry.mark, FltRule.mark, hclass]

theorem filter_own {own : List (Hdl × Option FltRule)} (hown : ∀ m ∈ own, m.2 = none) :
    (own.filter fun m => m.2 = none) = own := by
  rw [List.filter_eq_self]
  intro m hm
  exact decide_eq_true (hown m hm)

theorem FamView.Fits.picked {st : FltStatics} {f : IpType} {b : Bool} {v : FamView}
    (h : v.Fits st f b) :
    v.uplinkHdls.length = (if v.uplinkSet then uplinkRules st f else []).length ∧
      v.marks.filterMap pickUplink =
        v.uplinkHdls.zip (if v.uplinkSet then uplinkRules st f else []) := by
  rcases h with habsent | ⟨n, hfits⟩
  · rw [habsent.uplinkSet, habsent.uplinkHdls, habsent.marks]
    exact ⟨rfl, rfl⟩
  · cases b with
    | false =>
        have hready : v.Ready st f n := hfits
        rw [hready.uplinkSet, hready.uplinkHdls, filterMap_pick_own hready.own]
        exact ⟨rfl, rfl⟩
    | true =>
        have hup : v.Up st f n := hfits
        obtain ⟨own, pfx, hmarks, hown, -, hpfx⟩ := hup.marks
        have hlen := hup.length
        rw [hmarks, List.filterMap_append, List.filterMap_append, filterMap_pick_own hown,
          filterMap_pick_prefix hpfx, filterMap_pick_uplink, List.append_nil, List.nil_append]
        cases hset : v.uplinkSet with
        | true =>
            rw [hset] at hlen
            exact ⟨hlen, rfl⟩
        | false =>
            rw [hset] at hlen
            rw [List.eq_nil_of_length_eq_zero hlen]
            exact ⟨rfl, rfl⟩

theorem FamView.Fits.sent {st : FltStatics} {f : IpType} {b : Bool} {v : FamView}
    (h : v.Fits st f b) :
    ∃ n : Nat, n ≤ 3 ∧ (f = .v6 → n = 0) ∧ SentRight f n v.notices ∧
      (v.supported = true → (v.marks.filter fun m => m.2 = none).length = ownRules f + n) := by
  rcases h with habsent | ⟨n, hfits⟩
  · refine ⟨0, Nat.zero_le 3, fun _ => rfl, ?_, ?_⟩
    · rw [habsent.notices]
      trivial
    · intro hsup
      exact absurd (hsup.symm.trans habsent.supported) Bool.noConfusion
  · cases b with
    | false =>
        have hready : v.Ready st f n := hfits
        refine ⟨n, hready.subnets.1, hready.subnets.2, hready.sent, fun _ => ?_⟩
        rw [filter_own hready.own, hready.length]
    | true =>
        have hup : v.Up st f n := hfits
        refine ⟨n, hup.subnets.1, hup.subnets.2, hup.sent, fun _ => ?_⟩
        obtain ⟨own, pfx, hmarks, hown, hlen, hpfx⟩ := hup.marks
        have hrest : ((v.uplinkHdls.zip ((uplinkRules st f).map some)).filter
            fun m => m.2 = none) = [] := by
          rw [List.filter_eq_nil_iff]
          intro m hm heq
          exact FltSt.zip_some_ne_none m hm (of_decide_eq_true heq)
        have hpfx' : (pfx.filter fun m => m.2 = none) = [] := by
          cases f with
          | v4 =>
              obtain rfl : pfx = [] := hpfx
              rfl
          | v6 =>
              obtain ⟨word0, word1, rfl⟩ := hpfx
              rfl
        rw [hmarks, List.filter_append, List.filter_append, hrest, hpfx', filter_own hown,
          List.append_nil, List.append_nil, hlen]

theorem forall_iptype {p : IpType → Prop} : (∀ f, p f) ↔ p .v4 ∧ p .v6 := by
  constructor
  · intro h
    exact ⟨h .v4, h .v6⟩
  · rintro ⟨h4, h6⟩ (_ | _)
    · exact h4
    · exact h6

instance FltDriver.instDecidableSound (d : FltDriver) : Decidable d.Sound :=
  decidable_of_iff
    (((d.hdls .v4).Nodup ∧ (d.hdls .v6).Nodup) ∧ 0 ∉ d.hdls .v4 ∧ 0 ∉ d.hdls .v6) <| by
    rw [← forall_iptype (p := fun f => (d.hdls f).Nodup),
      ← forall_iptype (p := fun f => 0 ∉ d.hdls f)]
    exact ⟨fun h => ⟨h.1, h.2⟩, fun h => ⟨h.1, h.2⟩⟩

/-- An interface, and the families for which it was told of a backhaul last. -/
structure LanSys where
  flt : FltSt
  wanUp : Fam Bool

/-- What happens: an event of the interface, with the driver's answers and the number of
private subnets, or a change of other rules in the driver. -/
inductive LanAct where
  | event (e : FltEvent) (a : Answers) (n : Int)
  | elsewhere (d : FltDriver)

namespace LanSys

/-- The backhaul is a modem. It goes up and down in turn for a family, and `isWanUP` says
what the interface was told. -/
def AdmitsEvent (s : LanSys) : FltEvent → Prop
  | .addrAdd _ env => env.isWanUp = s.wanUp ∧ env.backhaulIsStaMode = false
  | .privateSubnetChange _ _ => True
  | .wanUpTether f isSta _ => s.wanUp.get f = false ∧ isSta = false
  | .wanDownTether f isSta => s.wanUp.get f = true ∧ isSta = false

/-- The driver takes what it is given, and no one else uses the pipe. -/
def Admits (s : LanSys) : LanAct → Prop
  | .event e a _ => a.Accepts ∧ s.AdmitsEvent e
  | .elsewhere d =>
      d.Sound ∧ (∀ f, d.pipe s.flt.iface.ep f = s.flt.ipa.pipe s.flt.iface.ep f) ∧
        d.notices = s.flt.ipa.notices

instance instDecidableAdmitsEvent (s : LanSys) (e : FltEvent) : Decidable (s.AdmitsEvent e) :=
  match e with
  | .addrAdd _ env =>
      inferInstanceAs (Decidable (env.isWanUp = s.wanUp ∧ env.backhaulIsStaMode = false))
  | .privateSubnetChange _ _ => isTrue trivial
  | .wanUpTether f isSta _ =>
      inferInstanceAs (Decidable (s.wanUp.get f = false ∧ isSta = false))
  | .wanDownTether f isSta =>
      inferInstanceAs (Decidable (s.wanUp.get f = true ∧ isSta = false))

instance instDecidableAdmits (s : LanSys) (x : LanAct) : Decidable (s.Admits x) :=
  match x with
  | .event _ a _ => inferInstanceAs (Decidable (a.Accepts ∧ _))
  | .elsewhere d =>
      have : Decidable (∀ f, d.pipe s.flt.iface.ep f = s.flt.ipa.pipe s.flt.iface.ep f) :=
        decidable_of_iff _ forall_iptype.symm
      inferInstanceAs (Decidable (d.Sound ∧ _ ∧ _))

/-- What the interface is told of the backhaul. -/
def told (up : Fam Bool) : FltEvent → Fam Bool
  | .wanUpTether f _ _ => up.set true f
  | .wanDownTether f _ => up.set false f
  | .addrAdd _ _ => up
  | .privateSubnetChange _ _ => up

def act (st : FltStatics) (s : LanSys) : LanAct → Option LanSys
  | .event e a n => (s.flt.eventCallback st a n e).map fun t => ⟨t, told s.wanUp e⟩
  | .elsewhere d => some ⟨{ s.flt with ipa := d }, s.wanUp⟩

/-- A new interface, without a backhaul. -/
def init (ep : Nat) (lanWanFl : Hdl) (d : FltDriver) : LanSys where
  flt := ⟨FltIface.new .lan ep lanWanFl, d⟩
  wanUp := ⟨false, false⟩

/-- A run of the interface with the other users of the driver. -/
abbrev Runs (st : FltStatics) : LanSys → List LanAct → LanSys → Prop :=
  StepRun.Run (StepRun.Guarded Admits fun s x s' => s.act st x = some s')

variable {st : FltStatics} {s s' : LanSys} {x : LanAct} {acts : List LanAct} {ep : Nat}
  {lanWanFl : Hdl} {d : FltDriver}

theorem init_inv (hsound : d.Sound) (hpipe : ∀ f, d.pipe ep f = []) (hnone : d.notices = []) :
    LanInv st (init ep lanWanFl d).wanUp (init ep lanWanFl d).flt := by
  refine ⟨hsound, rfl, fun k hk => Or.inl (List.eq_of_mem_replicate hk), fun f => Or.inl ?_⟩
  constructor
  · rfl
  · rintro rfl
    rfl
  · cases f <;> rfl
  · cases f <;> rfl
  · cases f <;> rfl
  · exact congrArg (List.map FltEntry.mark) (hpipe f)
  · exact congrArg (List.filter _) hnone

theorem act_inv (hinv : LanInv st s.wanUp s.flt) (hok : s.Admits x)
    (h : s.act st x = some s') : LanInv st s'.wanUp s'.flt := by
  cases x with
  | event e a m =>
      obtain ⟨t, ht, rfl⟩ := Option.map_eq_some_iff.mp h
      obtain ⟨hacc, hok⟩ := hok
      cases e with
      | addrAdd addr env =>
          cases addr with
          | v4 addr => exact FltSt.addrAdd_v4 hinv hacc hok.1 hok.2 ht
          | v6 addr => exact FltSt.addrAdd_v6 hinv hacc hok.1 hok.2 ht
      | privateSubnetChange fromItself subnets =>
          obtain rfl := Option.some.inj ht
          change LanInv st s.wanUp (if fromItself then s.flt else _)
          split
          · exact hinv
          · exact FltSt.LanInv.rewrites hinv
              (FltSt.handlePrivateSubnetAndroid_rewrites hinv.sound hinv.private_base subnets)
      | wanUpTether f isSta words =>
          obtain ⟨hdown, rfl⟩ := hok
          exact FltSt.wanUpTether_inv hinv hacc hdown ht
      | wanDownTether f isSta =>
          obtain ⟨hup, rfl⟩ := hok
          exact FltSt.wanDownTether_inv hinv hacc hup ht
  | elsewhere d =>
      obtain ⟨hsound, hpipe, hnotices⟩ := hok
      obtain rfl := Option.some.inj h
      apply FltSt.LanInv.rewrites hinv
      refine ⟨rfl, hsound, fun g => ?_⟩
      change FamView.mk _ _ _ _ _ _ (List.map _ (d.pipe _ g)) (List.filter _ d.notices) = _
      rw [hpipe, hnotices]
      rfl

theorem run_inv (hsound : d.Sound) (hpipe : ∀ f, d.pipe ep f = []) (hnone : d.notices = [])
    (h : Runs st (init ep lanWanFl d) acts s) : LanInv st s.wanUp s.flt :=
  StepRun.Run.invariant (I := fun s => LanInv st s.wanUp s.flt) (init_inv hsound hpipe hnone)
    (fun _ _ _ hinv hs => act_inv hinv hs.1 hs.2) h

/-- The rules in the pipe are those told by `modemUlSet`, under the handles kept, and with
the backhaul and one address they are there. -/
theorem run_uplinkRules (hsound : d.Sound) (hpipe : ∀ f, d.pipe ep f = [])
    (hnone : d.notices = []) (h : Runs st (init ep lanWanFl d) acts s) (f : IpType) :
    ((s.flt.ipa.entriesOf s.flt.iface.ep .uplink f).map FltEntry.hdl =
        s.flt.iface.wanUlFl.get f ∧
      (s.flt.ipa.entriesOf s.flt.iface.ep .uplink f).map FltEntry.rule =
        if s.flt.iface.modemUlSet.get f then uplinkRules st f else []) ∧
    (s.flt.iface.modemUlSet.get f = true →
      s.flt.iface.ipType.supports f = true ∧ s.wanUp.get f = true) ∧
    (s.flt.iface.ipType.supports f = true → s.wanUp.get f = true →
      (f = .v6 → s.flt.iface.ipv6Addr.length ≤ 1) → s.flt.iface.modemUlSet.get f = true) := by
  have hinv := run_inv hsound hpipe hnone h
  have hfits := hinv.fam f
  have hpicked := FltDriver.entriesOf_picked s.flt.ipa s.flt.iface.ep f
  refine ⟨?_, ?_, ?_⟩
  · obtain ⟨hlen, heq⟩ := hfits.picked
    have hzip := hpicked.trans heq
    constructor
    · have hfst := congrArg (List.map Prod.fst) hzip
      rw [List.map_map, List.map_fst_zip (Nat.le_of_eq hlen)] at hfst
      exact hfst
    · have hsnd := congrArg (List.map Prod.snd) hzip
      rw [List.map_map, List.map_snd_zip (Nat.le_of_eq hlen.symm)] at hsnd
      exact hsnd
  · intro hset
    rcases hfits with habsent | ⟨n, hfits⟩
    · exact absurd (hset.symm.trans habsent.uplinkSet) Bool.noConfusion
    · cases hup : s.wanUp.get f <;> rw [hup] at hfits
      · exact absurd (hset.symm.trans hfits.uplinkSet) Bool.noConfusion
      · exact ⟨hfits.supported, rfl⟩
  · intro hsup hup haddrs
    rcases hfits with habsent | ⟨n, hfits⟩
    · exact absurd (hsup.symm.trans habsent.supported) Bool.noConfusion
    · rw [hup] at hfits
      apply hfits.due
      cases f with
      | v4 => exact Nat.le_refl 1
      | v6 => exact haddrs rfl

/-- The indices sent for IPv6 are the positions of the rules. Those for IPv4 are the first
time, and then ahead by the private subnets there were fewer than three. -/
theorem run_filterIndex (hsound : d.Sound) (hpipe : ∀ f, d.pipe ep f = [])
    (hnone : d.notices = []) (h : Runs st (init ep lanWanFl d) acts s) :
    (∀ x ∈ s.flt.ipa.notices, x.iptype = .v6 → x.Right 0) ∧
    ∃ n : Nat, n ≤ 3 ∧
      (s.flt.iface.ipType.supports .v4 = true →
        (s.flt.ipa.entriesOf s.flt.iface.ep .base .v4).length = 6 + n) ∧
      ∀ first rest, s.flt.ipa.notices.filter (fun x => x.iptype = .v4) = first :: rest →
        first.Right 0 ∧ ∀ x ∈ rest, x.Right (3 - n) := by
  have hinv := run_inv hsound hpipe hnone h
  constructor
  · intro x hx hv6
    obtain ⟨n, -, hn, hsent, -⟩ := (hinv.fam .v6).sent
    obtain rfl := hn rfl
    have hmem : x ∈ (s.flt.view .v6).notices := List.mem_filter.mpr ⟨hx, decide_eq_true hv6⟩
    cases hlist : (s.flt.view .v6).notices with
    | nil =>
        rw [hlist] at hmem
        exact absurd hmem List.not_mem_nil
    | cons first rest =>
        rw [hlist] at hmem hsent
        rcases List.mem_cons.mp hmem with rfl | hrest
        · exact hsent.1
        · exact hsent.2 x hrest
  · obtain ⟨n, hn, -, hsent, hown⟩ := (hinv.fam .v4).sent
    refine ⟨n, hn, ?_, ?_⟩
    · intro hsup
      have hlength := congrArg List.length (FltDriver.entriesOf_base s.flt.ipa s.flt.iface.ep .v4)
      rw [List.length_map] at hlength
      exact hlength.trans (hown hsup)
    · intro first rest hlist
      change SentRight .v4 n (s.flt.ipa.notices.filter fun x => x.iptype = .v4) at hsent
      rw [hlist] at hsent
      refine ⟨hsent.1, ?_⟩
      intro x hx
      have hoff : surplus .v4 n = 3 - n := by
        change (9 : Int) - (6 + n) = 3 - n
        omega
      exact hoff ▸ hsent.2 x hx

/-- One IPv4 address and one private subnet; the backhaul goes up, down and up again. -/
def twiceUp : List LanAct :=
  let a : Answers :=
    { ipv6Icmp := some [20], rtRules := true, dft := some [1, 2, 3], lan2lan := some [4, 5, 6]
      privateFl := some [7], modify := true, qmapId := true, ipv6Prefix := some [21]
      filterIndex := true, uplink := some [10], wan := some [22], refused := [] }
  let env : Surroundings := ⟨⟨[], by decide⟩, ⟨false, false⟩, false, (0, 0)⟩
  [.event (.addrAdd (.v4 0xC0A80101) env) a 0, .event (.wanUpTether .v4 false (0, 0)) a 1,
    .event (.wanDownTether .v4 false) a 1, .event (.wanUpTether .v4 false (0, 0)) a 1]

/-- One uplink rule for IPv4. -/
def oneExtProp : FltStatics where
  ext := ⟨⟨[⟨1, 2, 3⟩], []⟩, by rintro (_ | _) <;> decide⟩
  dummyFltRuleHdl := ⟨[], []⟩

/-- The driver, as the interface finds it. -/
def noRules : FltDriver := ⟨⟨[], []⟩, [], []⟩

theorem twiceUp_runs : ∃ s, Runs oneExtProp (init 5 0 noRules) twiceUp s ∧
    (s.flt.iface.ipType = .v4 ∧ s.wanUp.v4 = true) ∧
      ∃ x y, s.flt.ipa.notices.filter (fun x => x.iptype = .v4) = [x, y] ∧
        x.filterIndex = [7] ∧ y.filterIndex = [9] := by
  let run : Option LanSys :=
    twiceUp.foldlM (fun s x => if s.Admits x then s.act oneExtProp x else none) (init 5 0 noRules)
  have hend : run.map (fun s => ((s.flt.iface.ipType, s.wanUp.v4),
      (s.flt.ipa.notices.filter fun x => x.iptype = .v4).map Notice.filterIndex)) =
      some ((.v4, true), [[7], [9]]) := by
    decide +kernel
  obtain ⟨s, hs, hend⟩ := Option.map_eq_some_iff.mp hend
  simp only [Prod.mk.injEq] at hend
  obtain ⟨hup, hsent⟩ := hend
  obtain ⟨x, l, hx, hfirst, hl⟩ := List.map_eq_cons_iff.mp hsent
  obtain ⟨y, l', hy, hsecond, hl'⟩ := List.map_eq_cons_iff.mp hl
  rw [List.map_eq_nil_iff] at hl'
  rw [hy, hl'] at hx
  exact ⟨s, StepRun.Run.of_guarded_foldlM (fun _ _ _ h => h) hs, hup, x, y, hx, hfirst, hsecond⟩

theorem run_uplinkRules_twiceUp : ∃ s, Runs oneExtProp (init 5 0 noRules) twiceUp s ∧
    (s.flt.ipa.entriesOf s.flt.iface.ep .uplink .v4).map FltEntry.rule =
      uplinkRules oneExtProp .v4 := by
  obtain ⟨s, hrun, ⟨hv4, hup⟩, -⟩ := twiceUp_runs
  have hrules := run_uplinkRules (by decide) (by rintro (_ | _) <;> rfl) rfl hrun .v4
  have hset := hrules.2.2 (by rw [hv4]; rfl) hup IpType.noConfusion
  refine ⟨s, hrun, hrules.1.2.trans ?_⟩
  rw [hset]
  rfl

theorem run_filterIndex_twiceUp : ∃ s, Runs oneExtProp (init 5 0 noRules) twiceUp s ∧
    ∃ x y, s.flt.ipa.notices.filter (fun x => x.iptype = .v4) = [x, y] ∧ x.Right 0 ∧
      x.filterIndex = [7] ∧ y.filterIndex = [9] ∧ ∃ n : Nat, n ≤ 3 ∧ y.Right (3 - n) := by
  obtain ⟨s, hrun, -, x, y, hsent, hx, hy⟩ := twiceUp_runs
  obtain ⟨-, n, hn, -, hright⟩ := run_filterIndex (by decide) (by rintro (_ | _) <;> rfl) rfl hrun
  obtain ⟨hfirst, hrest⟩ := hright x [y] hsent
  exact ⟨s, hrun, x, y, hsent, hfirst, hx, hy, n, hn, hrest y List.mem_cons_self⟩

end LanSys

end LibraDevice.Lan
