import LibraDevice.Firewall.CallbackLogs

/-!
The callbacks on the tables of the modem, and the number of the modem instances
over runs.
-/

namespace LibraDevice.Firewall

open Backhaul Broadcast StepRun

/-- One callback, on the tables; `ops` is what it does to the firewall. -/
def Downlink.callback (su : Setup) (conf : FirewallConf) (e : Event) (ops : List FirewallOp)
    (w : Wan) (d : Downlink) : Downlink :=
  match e with
  | .addrAdd index data =>
      if w.isSta = false ∧ index = w.ipaIfNum ∧ data.isZero = false ∧ w.takesAddr data = true then
        d.handleAddrEvt su data w
      else d
  | .linkDown index =>
      if w.isSta = false ∧ index = w.ipaIfNum then d.handleDownEvtEx su conf ops w else d
  | _ => ops.foldl (Downlink.firewall su conf w.ipaIfNum) d

/-- One callback, on all static members. -/
def react (su : Setup) (conf : FirewallConf) (e : Event) (w : Wan) (x : Static × Downlink) :
    Option Wan × (Static × Downlink) :=
  let r := w.eventCallback .succeeding e x.1
  (r.1, r.2, x.2.callback su conf e (r.2.firewallOps.drop x.1.firewallOps.length) w)

/-- What one callback leaves of the instance, and does to the tables. -/
inductive Called (su : Setup) (conf : FirewallConf) (e : Event) (w : Wan) (s : Static)
    (d : Downlink) : Option Wan → Downlink → Prop
  | routes {w' : Wan} {s' : Static} {ops : List FirewallOp} :
      addrPart w' = addrPart w → w'.kind = w.kind → w'.Fit → w.modemDown e = false →
      e ≠ .firewallChange →
      Logs w.ipaIfNum (modemActive · w) (modemActive · w') s s' ops →
      Called su conf e w s d (some w') (ops.foldl (Downlink.firewall su conf w.ipaIfNum) d)
  | stationGone : w.isSta = true → e ≠ .firewallChange → Called su conf e w s d none d
  | modemGone {s' : Static} {ops : List FirewallOp} :
      w.modemDown e = true → DownLogs w s s' ops →
      Called su conf e w s d none (d.handleDownEvtEx su conf ops w)
  | stationAddr (data : EventDataAddr) : w.isSta = true → e ≠ .firewallChange →
      Called su conf e w s d (some (w.handleAddrEvt .succeeding data)) d
  | modemAddr (data : EventDataAddr) : w.isSta = false → w.takesAddr data = true →
      w.modemDown e = false → e ≠ .firewallChange →
      Called su conf e w s d (some (w.handleAddrEvt .succeeding data)) (d.handleAddrEvt su data w)
  | changed : e = .firewallChange →
      Called su conf e w s d (some w)
        (w.handleFirewallChange.foldl (Downlink.firewall su conf w.ipaIfNum) d)

/-- The instance is a modem with an address of the family. -/
def modemSupports (f : IpType) (w : Wan) : Bool := !w.isSta && w.ipType.supports f

/-- A modem goes down and still counts. -/
def lingers (f : IpType) (e : Event) (w : Wan) : Bool :=
  w.modemDown e && w.ipType.supports f && !Downlink.dropsPdn w f

/-- A modem is for IPv6 once it has an IPv6 address, and it is not for eMBMS. -/
def AddrOk (w : Wan) : Prop :=
  w.isSta = false → w.isEmbmsIf = false ∧ (w.ipType.supports .v6 = true ↔ w.ipv6Addr ≠ [])

section

variable {su : Setup} {conf : FirewallConf} {e : Event} {w w' : Wan} {s : Static}
  {d : Downlink} {f : IpType}

theorem isSta_eq_false_iff : w.isSta = false ↔ w.mIsStaMode = .q6Wan := by
  rw [Wan.isSta]
  cases w.mIsStaMode <;> decide

theorem modemDown_station (h : w.isSta = true) (e : Event) : w.modemDown e = false := by
  cases e with
  | linkDown index =>
      rw [Wan.modemDown, Bool.and_eq_false_iff]
      left
      apply decide_eq_false
      intro hmode
      rw [isSta_eq_false_iff.mpr hmode] at h
      cases h
  | _ => rfl

theorem react_called (hw : w.Fit) (su : Setup) (conf : FirewallConf) (e : Event) (s : Static)
    (d : Downlink) :
    Called su conf e w s d (react su conf e w (s, d)).1 (react su conf e w (s, d)).2.2 := by
  have hdrop : ∀ {s' : Static} {ops : List FirewallOp}, s'.firewallOps = s.firewallOps ++ ops →
      s'.firewallOps.drop s.firewallOps.length = ops := by
    intro s' ops hlog
    rw [hlog, List.drop_left]
  by_cases hspecial : Event.Special w e
  · cases e with
    | wlanLinkDown index =>
        obtain ⟨hmode, hindex⟩ := hspecial
        have hsta : w.isSta = true := by rw [Wan.isSta, hmode]; rfl
        obtain ⟨ops, hlog, hops⟩ := handleDownEvt_station w s
        rw [react, Wan.eventCallback, if_pos ⟨hmode, hindex⟩]
        dsimp only
        have htable : d.callback su conf (.wlanLinkDown index) ops w = d :=
          foldl_station hops su conf w.ipaIfNum d
        rw [hdrop hlog, htable]
        exact .stationGone hsta (by simp)
    | linkDown index =>
        rcases hspecial with hmode | ⟨hmode, hindex⟩
        · have hsta : w.isSta = true := by rw [Wan.isSta, hmode]; rfl
          rw [react, Wan.eventCallback, hmode, Downlink.callback, hsta]
          exact .stationGone hsta (by simp)
        · have hsta := isSta_eq_false_iff.mpr hmode
          obtain ⟨ops, hops⟩ := handleDownEvtEx_logs w s
          rw [react, Wan.eventCallback, hmode, if_pos hindex]
          dsimp only
          rw [hdrop hops.log, Downlink.callback, if_pos ⟨hsta, hindex⟩]
          refine .modemGone ?_ hops
          rw [Wan.modemDown, decide_eq_true hmode, decide_eq_true hindex]
          rfl
    | addrAdd index data =>
        obtain ⟨hindex, hzero, htakes⟩ := hspecial
        rw [react, Wan.eventCallback, if_pos ⟨hindex, hzero, htakes⟩, Downlink.callback]
        dsimp only
        rcases hsta : w.isSta with _ | _
        · rw [if_pos ⟨rfl, hindex, hzero, htakes⟩]
          exact .modemAddr data hsta htakes rfl (by simp)
        · rw [if_neg fun hcond => Bool.false_ne_true hcond.1.symm]
          exact .stationAddr data hsta (by simp)
    | firewallChange =>
        have hops : (s.firewall w.handleFirewallChange).firewallOps =
            s.firewallOps ++ w.handleFirewallChange := rfl
        rw [react, Wan.eventCallback]
        dsimp only
        rw [hdrop hops]
        exact .changed rfl
    | _ => exact absurd hspecial id
  · obtain ⟨w', hleft, haddr, ops, hops⟩ := eventCallback_logs hw hspecial s
    have hkind := Wan.eventCallback_kind hleft
    have hquiet : w.modemDown e = false := by
      cases e with
      | linkDown index =>
          apply Bool.eq_false_iff.mpr
          intro hdown
          rw [Wan.modemDown, Bool.and_eq_true, decide_eq_true_eq, decide_eq_true_eq] at hdown
          exact hspecial (Or.inr hdown)
      | _ => rfl
    have htable : d.callback su conf e ops w =
        ops.foldl (Downlink.firewall su conf w.ipaIfNum) d := by
      cases e with
      | addrAdd index data =>
          have hother : ¬ (index = w.ipaIfNum ∧ data.isZero = false ∧ w.takesAddr data = true) :=
            hspecial
          have hnothing : ops = [] := by
            have hlog := hops.log
            rw [Wan.eventCallback, if_neg hother] at hlog
            exact List.self_eq_append_right.mp hlog
          rw [Downlink.callback, if_neg fun hcond => hother hcond.2, hnothing]
          rfl
      | linkDown index =>
          have hnothing : ops = [] := by
            have hlog := hops.log
            rw [Wan.eventCallback] at hlog
            split at hlog
            · rename_i hmode
              rw [if_neg fun hindex => hspecial (Or.inr ⟨hmode, hindex⟩)] at hlog
              exact List.self_eq_append_right.mp hlog
            · rename_i hmode
              exact absurd (Or.inl hmode) hspecial
            · exact List.self_eq_append_right.mp hlog
          rw [Downlink.callback, if_neg, hnothing]
          · rfl
          · rintro ⟨hsta, hindex⟩
            exact hspecial (Or.inr ⟨isSta_eq_false_iff.mp hsta, hindex⟩)
      | _ => rfl
    have hd : (react su conf e w (s, d)).2.2 =
        ops.foldl (Downlink.firewall su conf w.ipaIfNum) d := by
      rw [← htable]
      exact congrArg (d.callback su conf e · w) (hdrop hops.log)
    have hwan : (react su conf e w (s, d)).1 = some w' := hleft
    rw [hd, hwan]
    refine .routes haddr hkind (Wan.eventCallback_fit hw hleft) hquiet ?_ hops
    rintro rfl
    exact hspecial trivial

theorem initFlRuleEx_numModemPdn (index : Int) :
    (d.initFlRuleEx su w f index).numModemPdn = d.numModemPdn := by
  rw [Downlink.initFlRuleEx]
  split
  · rfl
  · dsimp only
    split <;> rfl

theorem addModemPdn_numModemPdn (g : IpType) :
    (d.addModemPdn su w f).numModemPdn.get g =
      if g = f then d.numModemPdn.get f + 1 else d.numModemPdn.get g := by
  rw [Downlink.addModemPdn, initFlRuleEx_numModemPdn, Fam.get_set]

theorem dropModemPdn_numModemPdn (g : IpType) :
    (d.dropModemPdn w f).numModemPdn.get g =
      d.numModemPdn.get g - if g = f ∧ Downlink.dropsPdn w f = true then 1 else 0 := by
  rw [Downlink.dropModemPdn]
  split
  · rename_i hdrops
    rw [Fam.get_set]
    rcases eq_or_ne g f with rfl | hg
    · rw [if_pos rfl, if_pos ⟨rfl, hdrops⟩]
    · rw [if_neg hg, if_neg fun hcond => hg hcond.1, Int.sub_zero]
  · rename_i hdrops
    rw [if_neg fun hcond => hdrops hcond.2, Int.sub_zero]

theorem clearLast_numModemPdn : (d.clearLast w f).numModemPdn = d.numModemPdn := by
  rw [Downlink.clearLast]
  split <;> rfl

theorem supports_of_dropsPdn (h : Downlink.dropsPdn w f = true) : w.ipType.supports f = true := by
  cases f with
  | v4 => exact h
  | v6 => exact (Bool.and_eq_true_iff.mp h).1

theorem handleDownEvtEx_numModemPdn (ops : List FirewallOp) (f : IpType) :
    (d.handleDownEvtEx su conf ops w).numModemPdn.get f =
      d.numModemPdn.get f - (Downlink.dropsPdn w f).toNat := by
  rw [Downlink.handleDownEvtEx]
  split
  · rename_i hnull
    have hnot : Downlink.dropsPdn w f = false := by
      apply Bool.eq_false_iff.mpr
      intro hdrops
      have hsup := supports_of_dropsPdn hdrops
      rw [hnull] at hsup
      cases hsup
    rw [hnot]
    exact (Int.sub_zero _).symm
  · dsimp only
    rw [clearLast_numModemPdn, clearLast_numModemPdn, Downlink.foldl_firewall_numModemPdn,
      dropModemPdn_numModemPdn, dropModemPdn_numModemPdn]
    cases f with
    | v4 => cases Downlink.dropsPdn w .v4 <;> simp
    | v6 => cases Downlink.dropsPdn w .v6 <;> simp

theorem handleAddrEvt_v6 (hsta : w.isSta = false) {data : EventDataAddr}
    (htype : data.iptype = .v6) (hnew : data.ipv6Addr ∉ w.ipv6Addr) :
    ∃ p, w.handleAddrEvt .succeeding data =
      { w with
        ipType := if w.ipv6Addr = [] then w.ipType.add .v6 else w.ipType
        ipv6Prefix := p
        ipv6Addr := w.ipv6Addr ++ [data.ipv6Addr] } := by
  refine ⟨if data.ipv6Addr.isGlobal then data.ipv6Addr.pfx else w.ipv6Prefix, ?_⟩
  have hnot : ({ w with ipType := w.ipType.add .v6 } : Wan).isSta = false := hsta
  rw [Wan.handleAddrEvt, htype]
  dsimp only
  rw [if_neg hnew, if_neg (by decide)]
  by_cases hfirst : w.ipv6Addr = []
  · simp only [if_pos hfirst]
    rw [hnot]
    rfl
  · simp only [if_neg hfirst]
    rw [hsta]
    rfl

theorem handleAddrEvt_v4 {data : EventDataAddr} (htype : data.iptype = .v4) :
    w.handleAddrEvt .succeeding data =
      { w with ipType := w.ipType.add .v4, wanV4Addr := data.ipv4Addr } := by
  rw [Wan.handleAddrEvt, htype]
  rfl

theorem takesAddr_v4 {data : EventDataAddr} (htype : data.iptype = .v4)
    (htakes : w.takesAddr data = true) : w.ipType.supports .v4 = false := by
  rw [Wan.takesAddr, htype] at htakes
  simp only [Bool.or_eq_true, decide_eq_true_eq] at htakes
  rcases htakes with hnull | hother
  · rw [hnull]
    rfl
  · rw [hother]
    rfl

theorem handleAddrEvt_counts (hsta : w.isSta = false) (hok : AddrOk w)
    {data : EventDataAddr} (htakes : w.takesAddr data = true) (su : Setup) :
    (∃ g, w.ipType.supports g = false ∧ d.handleAddrEvt su data w = d.addModemPdn su w g ∧
      (w.handleAddrEvt .succeeding data).ipType = w.ipType.add g) ∨
    (d.handleAddrEvt su data w = d ∧ (w.handleAddrEvt .succeeding data).ipType = w.ipType) := by
  obtain ⟨-, hv6⟩ := hok hsta
  rcases htype : data.iptype with _ | _
  · left
    refine ⟨.v4, takesAddr_v4 htype htakes, ?_, ?_⟩
    · rw [Downlink.handleAddrEvt, htype]
    · rw [handleAddrEvt_v4 htype]
  · rw [Downlink.handleAddrEvt, htype]
    dsimp only
    by_cases hdup : data.ipv6Addr ∈ w.ipv6Addr
    · right
      rw [if_pos hdup, Wan.handleAddrEvt, htype]
      dsimp only
      rw [if_pos hdup]
      exact ⟨rfl, rfl⟩
    · obtain ⟨p, heq⟩ := handleAddrEvt_v6 hsta htype hdup
      rw [if_neg hdup, heq]
      dsimp only
      by_cases hfirst : w.ipv6Addr = []
      · left
        rw [if_pos hfirst, if_pos hfirst]
        exact ⟨.v6, Bool.eq_false_iff.mpr fun hsup => hv6.mp hsup hfirst, rfl, rfl⟩
      · right
        rw [if_neg hfirst, if_neg hfirst]
        exact ⟨rfl, rfl⟩

theorem handleAddrEvt_addrOk (hok : AddrOk w) (data : EventDataAddr) :
    AddrOk (w.handleAddrEvt .succeeding data) := by
  obtain ⟨t, v4, l, p, n, heq, -⟩ := Wan.handleAddrEvt_eq .succeeding data w
  intro hsta
  have hsta' : w.isSta = false := by
    rw [heq] at hsta
    exact hsta
  obtain ⟨hembms, hv6⟩ := hok hsta'
  constructor
  · rw [heq]
    exact hembms
  · rcases htype : data.iptype with _ | _
    · rw [handleAddrEvt_v4 htype]
      dsimp only
      rw [IfaceIpType.supports_add]
      simpa using hv6
    · by_cases hdup : data.ipv6Addr ∈ w.ipv6Addr
      · rw [Wan.handleAddrEvt, htype]
        dsimp only
        rw [if_pos hdup]
        exact hv6
      · obtain ⟨p, heq⟩ := handleAddrEvt_v6 hsta' htype hdup
        rw [heq]
        dsimp only
        split
        · rw [IfaceIpType.supports_add]
          simp
        · rename_i hfirst
          exact ⟨fun _ => List.append_ne_nil_of_left_ne_nil hfirst _, fun _ => hv6.mpr hfirst⟩

theorem modemSupports_congr (haddr : addrPart w' = addrPart w) (hkind : w'.kind = w.kind)
    (f : IpType) : modemSupports f w' = modemSupports f w := by
  have htype : w'.ipType = w.ipType := congrArg Prod.fst haddr
  rw [modemSupports, modemSupports, kind_isSta hkind, htype]

theorem modemSupports_station (h : w.isSta = true) (f : IpType) : modemSupports f w = false := by
  rw [modemSupports, h]
  rfl

theorem modemSupports_modem (h : w.isSta = false) (f : IpType) :
    modemSupports f w = w.ipType.supports f := by
  rw [modemSupports, h]
  rfl

theorem lingers_of_not_down (h : w.modemDown e = false) (f : IpType) : lingers f e w = false := by
  rw [lingers, h]
  rfl

theorem handleAddrEvt_isSta (data : EventDataAddr) :
    (w.handleAddrEvt .succeeding data).isSta = w.isSta := by
  obtain ⟨t, v4, l, p, n, heq, -⟩ := Wan.handleAddrEvt_eq .succeeding data w
  rw [heq]
  rfl

theorem Called.counts {r : Option Wan} {d' : Downlink} (h : Called su conf e w s d r d')
    (hok : AddrOk w) (f : IpType) :
    d'.numModemPdn.get f + (modemSupports f w).toNat =
      d.numModemPdn.get f + (r.any (modemSupports f)).toNat + (lingers f e w).toNat := by
  cases h with
  | routes haddr hkind _ hquiet =>
      rw [Downlink.foldl_firewall_numModemPdn, Option.any_some,
        modemSupports_congr haddr hkind, lingers_of_not_down hquiet]
      exact (Int.add_zero _).symm
  | stationGone hsta =>
      rw [modemSupports_station hsta, lingers_of_not_down (modemDown_station hsta e)]
      exact (Int.add_zero _).symm
  | modemGone hdown =>
      have hsta : w.isSta = false := by
        rcases hsta : w.isSta with _ | _
        · rfl
        · rw [modemDown_station hsta e] at hdown
          cases hdown
      rw [handleDownEvtEx_numModemPdn, modemSupports_modem hsta, lingers, hdown]
      have hdrops := supports_of_dropsPdn (w := w) (f := f)
      revert hdrops
      cases Downlink.dropsPdn w f <;> cases w.ipType.supports f <;> simp
  | stationAddr data hsta =>
      rw [Option.any_some, modemSupports_station hsta,
        modemSupports_station ((handleAddrEvt_isSta data).trans hsta),
        lingers_of_not_down (modemDown_station hsta e)]
      exact (Int.add_zero _).symm
  | modemAddr data hsta htakes hquiet =>
      rw [Option.any_some, modemSupports_modem hsta,
        modemSupports_modem ((handleAddrEvt_isSta data).trans hsta), lingers_of_not_down hquiet]
      rcases handleAddrEvt_counts (d := d) hsta hok htakes su with
        ⟨g, hnot, htable, htype⟩ | ⟨htable, htype⟩
      · rw [htable, htype, addModemPdn_numModemPdn, IfaceIpType.supports_add]
        rcases eq_or_ne f g with rfl | hne
        · rw [if_pos rfl, hnot, decide_eq_true rfl]
          rfl
        · rw [if_neg hne, decide_eq_false hne, Bool.or_false]
          exact (Int.add_zero _).symm
      · rw [htable, htype]
        exact (Int.add_zero _).symm
  | changed hchange =>
      subst hchange
      rw [Downlink.foldl_firewall_numModemPdn, Option.any_some, lingers_of_not_down rfl]
      exact (Int.add_zero _).symm

theorem Called.addrOk {r : Option Wan} {d' : Downlink} (h : Called su conf e w s d r d')
    (hok : AddrOk w) : ∀ w' ∈ r, AddrOk w' := by
  rintro w' hw'
  cases h with
  | routes haddr hkind =>
      obtain rfl := Option.some.inj hw'
      simp only [addrPart, Prod.mk.injEq] at haddr
      obtain ⟨htype, hlist, hembms⟩ := haddr
      rw [AddrOk, kind_isSta hkind, htype, hlist, hembms]
      exact hok
  | stationGone => cases hw'
  | modemGone => cases hw'
  | stationAddr data =>
      obtain rfl := Option.some.inj hw'
      exact handleAddrEvt_addrOk hok data
  | modemAddr data =>
      obtain rfl := Option.some.inj hw'
      exact handleAddrEvt_addrOk hok data
  | changed =>
      obtain rfl := Option.some.inj hw'
      exact hok

end

/-- The live instances, all static members, and what the file says. -/
structure DlSystem where
  wans : List Wan
  static : Static
  dl : Downlink
  conf : FirewallConf

/-- An instance is constructed, or the callbacks take an event in some order while the file
says `conf`. -/
inductive DlCall where
  | construct (w : Wan)
  | event (e : Event) (order : List Wan) (conf : FirewallConf)

namespace DlSystem

def init (conf : FirewallConf) : DlSystem := ⟨[], .init, .init, conf⟩

def deliver (su : Setup) (conf : FirewallConf) (e : Event) (order : List Wan) (sys : DlSystem) :
    DlSystem :=
  let r := Broadcast.deliver (react su conf e) order (sys.static, sys.dl)
  ⟨r.1, r.2.1, r.2.2, conf⟩

/-- No modem is for eMBMS or without RX properties, and the file has room for the rules. -/
def Step (su : Setup) (sys : DlSystem) : DlCall → DlSystem → Prop
  | .construct w, sys' =>
      w.Constructed ∧ (∀ o ∈ sys.wans, o.ipaIfNum ≠ w.ipaIfNum) ∧
        (w.isSta = false → w.isEmbmsIf = false ∧ w.hasRxProp = true) ∧
        sys' = { sys with wans := sys.wans ++ [w] }
  | .event e order conf, sys' =>
      order.Perm sys.wans ∧ (∀ f, WanBudget conf su.algTable f) ∧
        sys' = sys.deliver su conf e order

end DlSystem

/-- The modems that the call takes down and leaves counted. -/
def DlCall.lingering (f : IpType) : DlCall → Nat
  | .construct _ => 0
  | .event e order _ => order.countP (lingers f e)

/-- The counter of a family is `k` ahead of the modems that have an address. -/
structure Counted (k : IpType → Nat) (sys : DlSystem) : Prop where
  fit : ∀ w ∈ sys.wans, w.Fit ∧ AddrOk w
  count : ∀ f, sys.dl.numModemPdn.get f = sys.wans.countP (modemSupports f) + k f

theorem deliver_counted {su : Setup} {conf : FirewallConf} {e : Event} {order : List Wan}
    {sys : DlSystem} {k : IpType → Nat} (h : Counted k sys) (hperm : order.Perm sys.wans) :
    Counted (fun f => k f + order.countP (lingers f e)) (sys.deliver su conf e order) := by
  have hfit : ∀ w ∈ order, w.Fit ∧ AddrOk w := fun w hw => h.fit w (hperm.mem_iff.mp hw)
  have hreact : ∀ w (x : Static × Downlink), w.Fit →
      Called su conf e w x.1 x.2 (react su conf e w x).1 (react su conf e w x).2.2 :=
    fun w x hw => react_called hw su conf e x.1 x.2
  -- what is left to call may still leave counted instances behind
  have hloop := @deliver_invariant _ _ (react su conf e)
    (fun done todo x => (∀ w ∈ todo, w.Fit ∧ AddrOk w) ∧
      ∀ f, x.2.numModemPdn.get f + todo.countP (lingers f e) =
        (done ++ todo).countP (modemSupports f) + (k f + order.countP (lingers f e)))
    (fun done w todo x hinv => by
      obtain ⟨htodo, hcount⟩ := hinv
      obtain ⟨hw, hok⟩ := htodo w List.mem_cons_self
      refine ⟨fun o ho => htodo o (List.mem_cons_of_mem w ho), fun f => ?_⟩
      have hstep := (hreact w x hw).counts hok f
      have hbefore := hcount f
      have hsplit : done ++ w :: todo = done ++ (some w).toList ++ todo := by simp
      rw [hsplit, countP_insert, Option.any_some, List.countP_cons] at hbefore
      rw [countP_insert]
      rcases hlingers : lingers f e w with _ | _
      · rw [hlingers] at hstep hbefore
        simp only [Bool.false_eq_true, if_false, Bool.toNat_false] at hstep hbefore
        omega
      · rw [hlingers] at hstep hbefore
        simp only [if_true, Bool.toNat_true] at hstep hbefore
        omega)
    order [] (sys.static, sys.dl) ⟨hfit, fun f => ?_⟩
  · refine ⟨?_, fun f => ?_⟩
    · refine deliver_forall ?_ order (sys.static, sys.dl) hfit
      rintro w x w' ⟨hw, hok⟩ hleft
      exact ⟨Wan.eventCallback_fit hw hleft, (hreact w x hw).addrOk hok w' hleft⟩
    · have hend := hloop.2 f
      rw [List.nil_append, List.append_nil, List.countP_nil] at hend
      exact (Int.add_zero _).symm.trans hend
  · rw [List.nil_append, h.count f, hperm.countP_eq (modemSupports f)]
    omega

theorem construct_counted {sys : DlSystem} {k : IpType → Nat} (h : Counted k sys) {w : Wan}
    (hw : w.Constructed) (hmodem : w.isSta = false → w.isEmbmsIf = false ∧ w.hasRxProp = true) :
    Counted k { sys with wans := sys.wans ++ [w] } := by
  refine ⟨fun o ho => ?_, fun f => ?_⟩
  · rcases List.mem_append.mp ho with ho | ho
    · exact h.fit o ho
    · rw [List.mem_singleton.mp ho]
      refine ⟨hw.fit, fun hsta => ⟨(hmodem hsta).1, ?_⟩⟩
      rw [hw.ipType, hw.ipv6Addr]
      decide
  · have hnone : modemSupports f w = false := by
      rw [modemSupports, hw.ipType]
      cases f <;> exact Bool.and_false _
    dsimp only
    rw [h.count f, List.countP_append, List.countP_singleton, hnone]
    rfl

theorem counted_of_run {su : Setup} {conf : FirewallConf} {calls : List DlCall} {sys : DlSystem}
    (hrun : Run (DlSystem.Step su) (.init conf) calls sys) :
    Counted (fun f => (calls.map (DlCall.lingering f)).sum) sys := by
  induction hrun with
  | nil => exact ⟨fun w hw => absurd hw List.not_mem_nil, fun f => by cases f <;> rfl⟩
  | @snoc calls sys sys' call _ hstep ih =>
      have hsum : ∀ f, ((calls ++ [call]).map (DlCall.lingering f)).sum =
          (calls.map (DlCall.lingering f)).sum + call.lingering f := by
        intro f
        rw [List.map_append, List.sum_append, List.map_singleton, List.sum_singleton]
      simp only [hsum]
      cases call with
      | construct w =>
          obtain ⟨hw, -, hmodem, rfl⟩ := hstep
          exact construct_counted ih hw hmodem
      | event e order conf =>
          obtain ⟨hperm, -, rfl⟩ := hstep
          exact deliver_counted ih hperm

end LibraDevice.Firewall
