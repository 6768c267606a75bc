import LibraDevice.Firewall.ModemPdn

/-!
What the table of one family stands for, and what each callback makes of it.
-/

namespace LibraDevice.Firewall

open Backhaul Broadcast StepRun

/-- What one family's table stands for: `P` is known of the firewall, `Q` of the instance whose
properties the default rules are made from. -/
structure Stores (su : Setup) (f : IpType) (P : Int × FirewallConf → Prop) (Q : Int → Prop)
    (wans : List Wan) (d : Downlink) (c : Content) : Prop where
  holds : (d.table.get f).Holds su f c
  dft : c.dft = none ↔ d.numModemPdn.get f = 0
  firewall : c.dft = none → c.firewall = none
  owned : Owned (modemActive f) Wan.ipaIfNum wans (c.firewall.map Prod.fst)
  known : ∀ x ∈ c.firewall, P x
  rx : ∀ i ∈ c.dft, Q i

/-- A family that a modem takes, or clears as it goes down, is left to it by the others; a
modem that is told of the file sees to the families it is active for. -/
structure Suits (f : IpType) (e : Event) (w : Wan) (r : Option Wan) (rest : List Wan) : Prop where
  raised : modemActive f w = false → r.any (modemActive f) = true →
    ∀ o ∈ rest, modemActive f o = false
  down : w.modemDown e = true →
    if w.clears f = true then ∀ o ∈ rest, modemActive f o = false else w.active.get f = false
  change : e = .firewallChange → w.isSta = false →
    (f ∈ w.firewallFamilies ↔ w.active.get f = true)

section

variable {su : Setup} {conf : FirewallConf} {e : Event} {w : Wan} {s : Static} {d d' : Downlink}
  {f : IpType} {P P' : Int × FirewallConf → Prop} {Q : Int → Prop}
  {wans wans' done todo : List Wan}
  {c : Content} {r : Option Wan} {j : Int} {ops : List FirewallOp}

theorem modemSupports_of_modemActive (hw : w.Fit) (h : modemActive f w = true) :
    modemSupports f w = true := by
  rw [modemActive, Bool.and_eq_true] at h
  rw [modemSupports, Bool.and_eq_true]
  exact ⟨h.1, hw.supports_of_active h.2⟩

theorem modemActive_of_not_supports (hw : w.Fit) (h : modemSupports f w = false) :
    modemActive f w = false := by
  rcases hactive : modemActive f w with _ | _
  · rfl
  · rw [modemSupports_of_modemActive hw hactive] at h
    cases h

theorem settled_move {alone : Prop} {b b' : Bool} (x : Option Int)
    (halone : b = false → b' = true → alone) :
    OwnerMove alone j b x b' (settled j b b' x) := by
  cases b with
  | false =>
      cases b' with
      | false => exact .same _ _
      | true => exact .raised _ (halone rfl rfl)
  | true =>
      cases b' with
      | false => exact .lowered _
      | true => exact .same _ _

theorem Stores.steps (h : Stores su f P Q wans d c)
    (htouch : (∃ op ∈ ops, Touches f op) → c.dft ≠ none)
    (hnone : c.dft = none → (c.run conf j f ops).firewall = none)
    (howned : Owned (modemActive f) Wan.ipaIfNum wans'
      ((c.run conf j f ops).firewall.map Prod.fst))
    (hknown : ∀ x ∈ (c.run conf j f ops).firewall, P' x) :
    Stores su f P' Q wans' (ops.foldl (Downlink.firewall su conf j) d) (c.run conf j f ops) where
  holds := Downlink.foldl_firewall_holds h.holds htouch
  dft := by rw [Content.run_dft, Downlink.foldl_firewall_numModemPdn, h.dft]
  firewall := by
    rw [Content.run_dft]
    exact hnone
  owned := howned
  known := hknown
  rx := by
    rw [Content.run_dft]
    exact h.rx

theorem Stores.keep (h : Stores su f P Q (done ++ w :: todo) d c)
    (htable : d'.table.get f = d.table.get f)
    (hzero : d'.numModemPdn.get f = 0 ↔ d.numModemPdn.get f = 0)
    (hname : ∀ w', r = some w' → w'.ipaIfNum = w.ipaIfNum)
    (hflag : r.any (modemActive f) = modemActive f w) (hknown : ∀ x, P x → P' x) :
    Stores su f P' Q (done ++ r.toList ++ todo) d' c where
  holds := by
    rw [htable]
    exact h.holds
  dft := h.dft.trans hzero.symm
  firewall := h.firewall
  owned := by
    apply h.owned.move hname
    rw [hflag]
    exact .same _ _
  known x hx := hknown x (h.known x hx)
  rx := h.rx

theorem Stores.dft_ne_none {k : Nat} (h : Stores su f P Q wans d c)
    (hcount : d.numModemPdn.get f = wans.countP (modemSupports f) + k) (hw : w ∈ wans)
    (hsup : modemSupports f w = true) : c.dft ≠ none := by
  have hpos : 0 < wans.countP (modemSupports f) := List.countP_pos_iff.mpr ⟨w, hw, hsup⟩
  intro hnone
  have hzero := h.dft.mp hnone
  omega

theorem Stores.routes {k : Nat} {w' : Wan} {s' : Static}
    (h : Stores su f P Q (done ++ w :: todo) d c)
    (hcount : d.numModemPdn.get f = (done ++ w :: todo).countP (modemSupports f) + k)
    (hw : w.Fit) (hw' : w'.Fit) (haddr : addrPart w' = addrPart w) (hkind : w'.kind = w.kind)
    (hops : Logs w.ipaIfNum (modemActive · w) (modemActive · w') s s' ops)
    (hraised : modemActive f w = false → modemActive f w' = true →
      ∀ o ∈ done ++ todo, modemActive f o = false)
    (hkeep : ∀ x, P x → P' x) (hnew : P' (w.ipaIfNum, conf)) :
    Stores su f P' Q (done ++ (some w').toList ++ todo)
      (ops.foldl (Downlink.firewall su conf w.ipaIfNum) d) (c.run conf w.ipaIfNum f ops) := by
  have hmem : w ∈ done ++ w :: todo := List.mem_append_right done List.mem_cons_self
  have hsup : ∀ hb : modemActive f w = true ∨ modemActive f w' = true,
      modemSupports f w = true := by
    rintro (hb | hb)
    · exact modemSupports_of_modemActive hw hb
    · rw [← modemSupports_congr haddr hkind]
      exact modemSupports_of_modemActive hw' hb
  apply h.steps
  · intro htouch
    exact h.dft_ne_none hcount hmem (hsup (hops.touched f htouch))
  · intro hnone
    have hidle : modemSupports f w = false := by
      rcases hs : modemSupports f w with _ | _
      · rfl
      · exact absurd hnone (h.dft_ne_none hcount hmem hs)
    have hidle' : modemSupports f w' = false := by
      rw [modemSupports_congr haddr hkind, hidle]
    have howner := @Content.run_owner conf w.ipaIfNum f c ops
    rw [hops.owner, modemActive_of_not_supports hw hidle,
      modemActive_of_not_supports hw' hidle', settled_self, h.firewall hnone] at howner
    exact Option.map_eq_none_iff.mp howner
  · rw [Content.run_owner, hops.owner]
    apply h.owned.move
    · rintro o ho
      rw [← Option.some.inj ho, kind_ipaIfNum hkind]
    · exact settled_move _ hraised
  · exact Content.run_forall (fun x hx => hkeep x (h.known x hx)) hnew ops

theorem initFlRuleEx_table (d : Downlink) (hnot : w.ipType.supports f = false) (index : Int)
    (g : IpType) :
    (d.initFlRuleEx su w f index).table.get g =
      if g = f ∧ index = 0 then
        { d.table.get f with num := 0 }.addDftFilteringRule (su.rx w.ipaIfNum) f
      else d.table.get g := by
  have hinstall : ∀ d : Downlink, d.installWanFilteringRule.table = d.table := fun _ => rfl
  rw [Downlink.initFlRuleEx, hnot, if_neg Bool.false_ne_true]
  dsimp only
  rw [hinstall]
  by_cases hindex : index = 0
  · rw [if_pos hindex, Downlink.onTable_get]
    by_cases hg : g = f
    · rw [if_pos hg, if_pos ⟨hg, hindex⟩, hg]
    · rw [if_neg hg, if_neg fun hcond => hg hcond.1]
  · rw [if_neg hindex, if_neg fun hcond => hindex hcond.2]

theorem Stores.modemAddr {k : Nat} {data : EventDataAddr}
    (h : Stores su f P Q (done ++ w :: todo) d c)
    (hcount : d.numModemPdn.get f = (done ++ w :: todo).countP (modemSupports f) + k)
    (hok : AddrOk w) (hsta : w.isSta = false) (htakes : w.takesAddr data = true)
    (hkeep : ∀ x, P x → P' x) (hQ : Q w.ipaIfNum) :
    ∃ c', Stores su f P' Q
      (done ++ (some (w.handleAddrEvt .succeeding data)).toList ++ todo)
      (d.handleAddrEvt su data w) c' := by
  obtain ⟨t, v4, l, p, n, heq, -⟩ := Wan.handleAddrEvt_eq .succeeding data w
  have hname : ∀ w', some (w.handleAddrEvt .succeeding data) = some w' →
      w'.ipaIfNum = w.ipaIfNum := by
    intro w' hw'
    rw [← Option.some.inj hw', heq]
  have hflag : (some (w.handleAddrEvt .succeeding data)).any (modemActive f) =
      modemActive f w := by
    rw [Option.any_some, modemActive, modemActive, handleAddrEvt_isSta, heq]
  rcases handleAddrEvt_counts (d := d) hsta hok htakes su with
    ⟨g, hnot, htable, -⟩ | ⟨htable, -⟩
  · rw [htable]
    have hnum := @addModemPdn_numModemPdn su w d g f
    have hentry : (d.addModemPdn su w g).table.get f =
        if f = g ∧ d.numModemPdn.get g = 0 then
          { d.table.get g with num := 0 }.addDftFilteringRule (su.rx w.ipaIfNum) g
        else d.table.get f :=
      initFlRuleEx_table
        { d with numModemPdn := d.numModemPdn.set (d.numModemPdn.get g + 1) g } hnot _ f
    by_cases hg : f = g
    · subst hg
      rw [if_pos rfl] at hnum
      by_cases hzero : d.numModemPdn.get f = 0
      · -- the first modem with an address writes the default rules
        rw [if_pos ⟨rfl, hzero⟩] at hentry
        have hnone := h.firewall (h.dft.mpr hzero)
        have hkept : Stores su f P Q _ d c := h.keep rfl Iff.rfl hname hflag fun _ hx => hx
        have howned := hkept.owned
        refine ⟨⟨some w.ipaIfNum, none⟩, ?_, ?_, fun _ => rfl, ?_, ?_, ?_⟩
        · rw [hentry]
          exact DlTable.holds_addDftFilteringRule _
        · rw [hnum, hzero]
          constructor
          · rintro ⟨⟩
          · intro hone
            omega
        · rw [hnone] at howned
          exact howned
        · rintro x ⟨⟩
        · rintro i ⟨⟩
          exact hQ
      · rw [if_neg fun hcond => hzero hcond.2] at hentry
        refine ⟨c, h.keep hentry ?_ hname hflag hkeep⟩
        rw [hnum]
        omega
    · rw [if_neg hg] at hnum
      rw [if_neg fun hcond => hg hcond.1] at hentry
      refine ⟨c, h.keep hentry ?_ hname hflag hkeep⟩
      rw [hnum]
  · rw [htable]
    exact ⟨c, h.keep rfl Iff.rfl hname hflag hkeep⟩

theorem dropModemPdn_table : (d.dropModemPdn w f).table = d.table := by
  rw [Downlink.dropModemPdn]
  split <;> rfl

theorem clearLast_table (g : IpType) :
    (d.clearLast w g).table.get f =
      if f = g ∧ w.ipType.supports g = true ∧ d.numModemPdn.get g = 0 then .empty
      else d.table.get f := by
  have hinstall : ∀ d : Downlink, d.installWanFilteringRule.table = d.table := fun _ => rfl
  rw [Downlink.clearLast]
  by_cases hlast : w.ipType.supports g = true ∧ d.numModemPdn.get g = 0
  · rw [if_pos hlast, hinstall, Downlink.onTable_get]
    by_cases hg : f = g
    · rw [if_pos hg, if_pos ⟨hg, hlast⟩]
    · rw [if_neg hg, if_neg fun hcond => hg hcond.1]
  · rw [if_neg hlast, if_neg fun hcond => hlast hcond.2]

theorem handleDownEvtEx_table (su : Setup) (conf : FirewallConf) (d : Downlink)
    (ops : List FirewallOp) (hnull : w.ipType ≠ .null) (f : IpType) :
    (d.handleDownEvtEx su conf ops w).table.get f =
      if w.ipType.supports f = true ∧
          (d.handleDownEvtEx su conf ops w).numModemPdn.get f = 0 then .empty
      else (ops.foldl (Downlink.firewall su conf w.ipaIfNum)
        ((d.dropModemPdn w .v4).dropModemPdn w .v6)).table.get f := by
  rw [Downlink.handleDownEvtEx, if_neg hnull]
  dsimp only
  rw [clearLast_numModemPdn, clearLast_numModemPdn, clearLast_table, clearLast_table,
    clearLast_numModemPdn]
  cases f with
  | v4 => rw [if_neg fun hcond => IpType.noConfusion hcond.1]; simp
  | v6 => simp

theorem Stores.lastGone (htable : d'.table.get f = .empty) (hzero : d'.numModemPdn.get f = 0)
    (hcount : wans.countP (modemSupports f) = 0) (hfit : ∀ o ∈ wans, o.Fit) :
    Stores su f P' Q wans d' ⟨none, none⟩ := by
  refine ⟨?_, ⟨fun _ => hzero, fun _ => rfl⟩, fun _ => rfl, ?_, ?_, ?_⟩
  · rw [htable]
    exact DlTable.holds_empty
  · have hnone : wans.filter (modemActive f) = [] := by
      apply List.filter_eq_nil_iff.mpr
      intro o ho
      have hsup := List.countP_eq_zero.mp hcount o ho
      rw [modemActive_of_not_supports (hfit o ho) (Bool.eq_false_iff.mpr hsup)]
      exact Bool.false_ne_true
    rw [Owned, hnone]
    rfl
  · rintro x ⟨⟩
  · rintro i ⟨⟩

theorem Stores.oneGone {k : Nat} {s' : Static} (h : Stores su f P Q (done ++ w :: todo) d c)
    (hcount : d.numModemPdn.get f = (done ++ w :: todo).countP (modemSupports f) + k)
    (hops : DownLogs w s s' ops) (hsta : w.isSta = false)
    (hdown : if w.clears f = true then ∀ o ∈ done ++ todo, modemActive f o = false
      else w.active.get f = false)
    (hkeep : ∀ x, P x → P' x) (hnew : P' (w.ipaIfNum, conf))
    (htable : d'.table.get f = (ops.foldl (Downlink.firewall su conf w.ipaIfNum)
      ((d.dropModemPdn w .v4).dropModemPdn w .v6)).table.get f)
    (hnum : d'.numModemPdn.get f = d.numModemPdn.get f - (Downlink.dropsPdn w f).toNat)
    (hlast : ¬ (w.ipType.supports f = true ∧ d'.numModemPdn.get f = 0)) :
    Stores su f P' Q (done ++ (none : Option Wan).toList ++ todo) d'
      (c.run conf w.ipaIfNum f ops) := by
  have hmem : w ∈ done ++ w :: todo := List.mem_append_right done List.mem_cons_self
  have htables : ((d.dropModemPdn w .v4).dropModemPdn w .v6).table = d.table := by
    rw [dropModemPdn_table, dropModemPdn_table]
  have hidle : c.dft = none → w.ipType.supports f = false := by
    intro hnone
    rcases hsup : w.ipType.supports f with _ | _
    · rfl
    · refine absurd hnone (h.dft_ne_none hcount hmem ?_)
      rw [modemSupports_modem hsta, hsup]
  have hdrops : w.ipType.supports f = false → Downlink.dropsPdn w f = false := by
    intro hsup
    rcases hd : Downlink.dropsPdn w f with _ | _
    · rfl
    · rw [supports_of_dropsPdn hd] at hsup
      cases hsup
  have howner := @Content.run_owner conf w.ipaIfNum f c ops
  rw [hops.owner] at howner
  refine ⟨?_, ?_, ?_, ?_, ?_, ?_⟩
  · rw [htable]
    apply Downlink.foldl_firewall_holds
    · rw [htables]
      exact h.holds
    · intro htouch
      apply h.dft_ne_none hcount hmem
      rw [modemSupports_modem hsta, hops.touched f htouch]
  · rw [Content.run_dft]
    constructor
    · intro hnone
      rw [hnum, hdrops (hidle hnone), h.dft.mp hnone]
      rfl
    · intro hzero
      have hsup : w.ipType.supports f = false := by
        rcases hs : w.ipType.supports f with _ | _
        · rfl
        · exact absurd ⟨hs, hzero⟩ hlast
      rw [hnum, hdrops hsup] at hzero
      exact h.dft.mpr ((Int.sub_zero _).symm.trans hzero)
  · rw [Content.run_dft]
    intro hnone
    rw [h.firewall hnone, Option.map_none, ite_self] at howner
    exact Option.map_eq_none_iff.mp howner
  · rw [howner]
    apply h.owned.move
    · rintro w' ⟨⟩
    · by_cases hclears : w.clears f = true
      · rw [if_pos hclears] at hdown ⊢
        rcases hactive : modemActive f w with _ | _
        · exact .cleared _ hdown
        · exact .lowered _
      · rw [if_neg hclears] at hdown ⊢
        rw [modemActive_modem hsta, hdown]
        exact .same _ _
  · exact Content.run_forall (fun x hx => hkeep x (h.known x hx)) hnew ops
  · rw [Content.run_dft]
    exact h.rx

theorem Stores.modemGone {k k' : Nat} {s' : Static}
    (h : Stores su f P Q (done ++ w :: todo) d c)
    (hcount : d.numModemPdn.get f = (done ++ w :: todo).countP (modemSupports f) + k)
    (hcount' : (d.handleDownEvtEx su conf ops w).numModemPdn.get f =
      (done ++ todo).countP (modemSupports f) + k')
    (hw : w.Fit) (hrest : ∀ o ∈ done ++ todo, o.Fit) (hops : DownLogs w s s' ops)
    (hsta : w.isSta = false)
    (hdown : if w.clears f = true then ∀ o ∈ done ++ todo, modemActive f o = false
      else w.active.get f = false)
    (hkeep : ∀ x, P x → P' x) (hnew : P' (w.ipaIfNum, conf)) :
    ∃ c', Stores su f P' Q (done ++ (none : Option Wan).toList ++ todo)
      (d.handleDownEvtEx su conf ops w) c' := by
  by_cases hnull : w.ipType = .null
  · have hidle : modemActive f w = false := by
      apply modemActive_of_not_supports hw
      rw [modemSupports_modem hsta, hnull]
      rfl
    rw [Downlink.handleDownEvtEx, if_pos hnull]
    refine ⟨c, h.keep rfl Iff.rfl ?_ hidle.symm hkeep⟩
    rintro w' ⟨⟩
  · have htable := handleDownEvtEx_table su conf d ops hnull f
    have hnum := @handleDownEvtEx_numModemPdn su conf w d ops f
    by_cases hlast : w.ipType.supports f = true ∧
        (d.handleDownEvtEx su conf ops w).numModemPdn.get f = 0
    · rw [if_pos hlast] at htable
      have hlist : done ++ (none : Option Wan).toList ++ todo = done ++ todo := by simp
      rw [hlist]
      exact ⟨_, Stores.lastGone htable hlast.2 (by omega) hrest⟩
    · rw [if_neg hlast] at htable
      exact ⟨_, h.oneGone hcount hops hsta hdown hkeep hnew htable hnum hlast⟩

theorem handleFirewallChange_station (hsta : w.isSta = true) :
    ∀ op ∈ w.handleFirewallChange, ∃ f, op = .delDftFirewallRules f ∨
      op = .configDftFirewallRules f := by
  intro op hop
  rw [Wan.handleFirewallChange, if_pos hsta] at hop
  obtain ⟨f, -, hop⟩ := List.mem_flatMap.mp hop
  simp only [List.mem_cons, List.not_mem_nil, or_false] at hop
  exact ⟨f, hop⟩

theorem firewallFamilies_cases (hsta : w.isSta = false) :
    w.firewallFamilies = [] ∨ w.firewallFamilies = [.v4] ∨ w.firewallFamilies = [.v6] ∨
      w.firewallFamilies = [.v4, .v6] := by
  rw [Wan.firewallFamilies, hsta, if_neg Bool.false_ne_true]
  cases w.isDefaultGateway <;> cases w.ipType <;> decide

theorem handleFirewallChange_modem (hsta : w.isSta = false) (conf : FirewallConf) (j : Int)
    (f : IpType) (c : Content) :
    (c.run conf j f w.handleFirewallChange).firewall =
        (if f ∈ w.firewallFamilies then some (j, conf) else c.firewall) ∧
      ((∃ op ∈ w.handleFirewallChange, Touches f op) → f ∈ w.firewallFamilies) ∧
      Downlink.Closed w.handleFirewallChange := by
  have hnot : ¬ w.isSta = true := by
    rw [hsta]
    exact Bool.false_ne_true
  rw [Wan.handleFirewallChange, if_neg hnot]
  rcases firewallFamilies_cases hsta with hnone | hv4 | hv6 | hboth
  · rw [hnone, if_pos rfl]
    refine ⟨rfl, ?_, Downlink.closed_nil⟩
    rintro ⟨op, ⟨⟩, -⟩
  · rw [hv4, if_neg (List.cons_ne_nil _ _)]
    refine ⟨by cases f <;> rfl, ?_, Downlink.closed_install [.delWanFirewallRule .v4,
      .configWanFirewallRule .v4]⟩
    rintro ⟨op, hop, rfl | rfl⟩ <;> cases f <;> revert hop <;> decide
  · rw [hv6, if_neg (List.cons_ne_nil _ _)]
    refine ⟨by cases f <;> rfl, ?_, Downlink.closed_install [.delWanFirewallRule .v6,
      .configWanFirewallRule .v6]⟩
    rintro ⟨op, hop, rfl | rfl⟩ <;> cases f <;> revert hop <;> decide
  · rw [hboth, if_neg (List.cons_ne_nil _ _)]
    refine ⟨by cases f <;> rfl, ?_, Downlink.closed_install [.delWanFirewallRule .v4,
      .configWanFirewallRule .v4, .delWanFirewallRule .v6, .configWanFirewallRule .v6]⟩
    intro _
    cases f <;> decide

theorem mem_firewallFamilies (hsta : w.isSta = false) (h : f ∈ w.firewallFamilies) :
    w.ipType.supports f = true := by
  rw [Wan.firewallFamilies, if_neg (by rw [hsta]; exact Bool.false_ne_true)] at h
  split at h
  · exact (List.mem_filter.mp h).2
  · cases h

theorem Stores.changed {k : Nat} (h : Stores su f P Q (done ++ w :: todo) d c)
    (hcount : d.numModemPdn.get f = (done ++ w :: todo).countP (modemSupports f) + k)
    (hfamilies : w.isSta = false → (f ∈ w.firewallFamilies ↔ w.active.get f = true))
    (hother : modemActive f w = false → ∀ x, P x → P' x) (hnew : P' (w.ipaIfNum, conf)) :
    ∃ c', Stores su f P' Q (done ++ (some w).toList ++ todo)
      (w.handleFirewallChange.foldl (Downlink.firewall su conf w.ipaIfNum) d) c' := by
  have hmem : w ∈ done ++ w :: todo := List.mem_append_right done List.mem_cons_self
  have hname : ∀ w', some w = some w' → w'.ipaIfNum = w.ipaIfNum := by
    rintro w' hw'
    rw [Option.some.inj hw']
  rcases hsta : w.isSta with _ | _
  · obtain ⟨hrun, htouched, -⟩ := handleFirewallChange_modem hsta conf w.ipaIfNum f c
    have hdft : f ∈ w.firewallFamilies → c.dft ≠ none := by
      intro hf
      apply h.dft_ne_none hcount hmem
      rw [modemSupports_modem hsta, mem_firewallFamilies hsta hf]
    refine ⟨c.run conf w.ipaIfNum f w.handleFirewallChange, ?_⟩
    apply h.steps
    · exact fun htouch => hdft (htouched htouch)
    · intro hnone
      rw [hrun, if_neg fun hf => hdft hf hnone]
      exact h.firewall hnone
    · rw [hrun]
      apply h.owned.move hname
      rw [Option.any_some, modemActive_modem hsta]
      by_cases hf : f ∈ w.firewallFamilies
      · rw [if_pos hf, (hfamilies hsta).mp hf]
        exact .renewed _
      · rw [if_neg hf]
        exact .same _ _
    · rw [hrun]
      by_cases hf : f ∈ w.firewallFamilies
      · rw [if_pos hf]
        rintro x ⟨⟩
        exact hnew
      · rw [if_neg hf]
        have hidle : modemActive f w = false := by
          rw [modemActive_modem hsta]
          exact Bool.eq_false_iff.mpr fun hactive => hf ((hfamilies hsta).mpr hactive)
        exact fun x hx => hother hidle x (h.known x hx)
  · rw [foldl_station (handleFirewallChange_station hsta)]
    exact ⟨c, h.keep rfl Iff.rfl hname rfl (hother (modemActive_station hsta f))⟩

theorem synced_handleDownEvtEx (hd : d.Synced) (hclosed : Downlink.Closed ops) :
    (d.handleDownEvtEx su conf ops w).Synced := by
  have hdrop : ∀ (d : Downlink) (g : IpType), d.Synced → (d.dropModemPdn w g).Synced := by
    intro d g hd
    rw [Downlink.dropModemPdn]
    split <;> exact hd
  have hclear : ∀ (d : Downlink) (g : IpType), d.Synced → (d.clearLast w g).Synced := by
    intro d g hd
    rw [Downlink.clearLast]
    split
    · exact Downlink.Synced.install _
    · exact hd
  rw [Downlink.handleDownEvtEx]
  split
  · exact hd
  · exact hclear _ _ (hclear _ _ (hclosed su conf w.ipaIfNum _ (hdrop _ _ (hdrop _ _ hd))))

theorem synced_handleAddrEvt (hd : d.Synced) (data : EventDataAddr) :
    (d.handleAddrEvt su data w).Synced := by
  have hadd : ∀ g, (d.addModemPdn su w g).Synced := by
    intro g
    rw [Downlink.addModemPdn, Downlink.initFlRuleEx]
    split
    · exact hd
    · exact Downlink.Synced.install _
  rw [Downlink.handleAddrEvt]
  split
  · exact hadd .v4
  · split
    · exact hd
    · split
      · exact hadd .v6
      · exact hd

theorem Called.synced (h : Called su conf e w s d r d') (hd : d.Synced) : d'.Synced := by
  cases h with
  | routes _ _ _ _ _ hops => exact hops.closed su conf w.ipaIfNum d hd
  | stationGone => exact hd
  | modemGone _ hops => exact synced_handleDownEvtEx hd hops.closed
  | stationAddr => exact hd
  | modemAddr data => exact synced_handleAddrEvt hd data
  | changed =>
      rcases hsta : w.isSta with _ | _
      · obtain ⟨-, -, hclosed⟩ :=
          handleFirewallChange_modem hsta conf w.ipaIfNum .v4 ⟨none, none⟩
        exact hclosed su conf w.ipaIfNum d hd
      · rw [foldl_station (handleFirewallChange_station hsta)]
        exact hd

theorem Stores.called {k k' : Nat} (h : Stores su f P Q (done ++ w :: todo) d c)
    (hcalled : Called su conf e w s d r d')
    (hcount : d.numModemPdn.get f = (done ++ w :: todo).countP (modemSupports f) + k)
    (hcount' : d'.numModemPdn.get f = (done ++ r.toList ++ todo).countP (modemSupports f) + k')
    (hw : w.Fit) (hok : AddrOk w) (hrest : ∀ o ∈ done ++ todo, o.Fit)
    (hsuits : Suits f e w r (done ++ todo)) (hQ : w.isSta = false → Q w.ipaIfNum)
    (hkeep : e ≠ .firewallChange → ∀ x, P x → P' x)
    (hother : modemActive f w = false → ∀ x, P x → P' x) (hnew : P' (w.ipaIfNum, conf)) :
    ∃ c', Stores su f P' Q (done ++ r.toList ++ todo) d' c' := by
  cases hcalled with
  | routes haddr hkind hw' _ hne hops =>
      exact ⟨_, h.routes hcount hw hw' haddr hkind hops hsuits.raised (hkeep hne) hnew⟩
  | stationGone hsta hne =>
      refine ⟨c, h.keep rfl Iff.rfl ?_ ?_ (hkeep hne)⟩
      · rintro w' ⟨⟩
      · exact (modemActive_station hsta f).symm
  | modemGone hdown hops =>
      have hsta : w.isSta = false := by
        rcases hsta : w.isSta with _ | _
        · rfl
        · rw [modemDown_station hsta e] at hdown
          cases hdown
      have hne : e ≠ .firewallChange := by
        rintro rfl
        cases hdown
      have hlist : done ++ (none : Option Wan).toList ++ todo = done ++ todo := by simp
      rw [hlist] at hcount'
      exact h.modemGone hcount hcount' hw hrest hops hsta (hsuits.down hdown) (hkeep hne) hnew
  | stationAddr data hsta hne =>
      obtain ⟨t, v4, l, p, n, heq, -⟩ := Wan.handleAddrEvt_eq .succeeding data w
      refine ⟨c, h.keep rfl Iff.rfl ?_ ?_ (hkeep hne)⟩
      · intro w' hw'
        rw [← Option.some.inj hw', heq]
      · rw [Option.any_some, modemActive_station hsta,
          modemActive_station ((handleAddrEvt_isSta data).trans hsta)]
  | modemAddr data hsta htakes _ hne =>
      exact h.modemAddr hcount hok hsta htakes (hkeep hne) (hQ hsta)
  | changed hchange =>
      exact h.changed hcount (hsuits.change hchange) hother hnew

end

end LibraDevice.Firewall
