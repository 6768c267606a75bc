import LibraDevice.Backhaul.Flags
import LibraDevice.Firewall.WanTables

/-!
What a callback of an `IPACM_Wan` instance does to the firewall, along with the
flags of the instance.
-/

namespace LibraDevice.Firewall

open Backhaul Broadcast StepRun

/-- The instance is a modem that has the default route of the family. -/
def modemActive (f : IpType) (w : Wan) : Bool := !w.isSta && w.active.get f

/-- Whose firewall there is, once the flag of the instance `j` has changed. -/
def settled (j : Int) (b b' : Bool) (x : Option Int) : Option Int :=
  if b' = b then x else if b' then some j else none

/-- What is done to the firewall along with a change of the flags of the instance `j`. -/
structure Logs (j : Int) (b b' : IpType → Bool) (s s' : Static) (ops : List FirewallOp) :
    Prop where
  log : s'.firewallOps = s.firewallOps ++ ops
  closed : Downlink.Closed ops
  owner : ∀ f x, owner j f ops x = settled j (b f) (b' f) x
  touched : ∀ f, (∃ op ∈ ops, Touches f op) → b f = true ∨ b' f = true

/-- The same, where no flag is lowered. -/
structure Raises (j : Int) (b b' : IpType → Bool) (s s' : Static) (ops : List FirewallOp) : Prop
    extends Logs j b b' s s' ops where
  mono : ∀ f, b f = true → b' f = true

section

variable {j : Int} {b b' b'' : IpType → Bool} {s s' s'' : Static} {ops ops' : List FirewallOp}

theorem settled_self (j : Int) (b : Bool) (x : Option Int) : settled j b b x = x := if_pos rfl

theorem Raises.none (hlog : s'.firewallOps = s.firewallOps) (hsame : ∀ f, b' f = b f) :
    Raises j b b' s s' [] where
  log := by rw [hlog, List.append_nil]
  closed := Downlink.closed_nil
  owner f x := by rw [hsame, settled_self]; rfl
  touched := by
    rintro f ⟨op, hop, -⟩
    cases hop
  mono f hf := by rw [hsame, hf]

theorem Raises.trans (h : Raises j b b' s s' ops) (h' : Raises j b' b'' s' s'' ops') :
    Raises j b b'' s s'' (ops ++ ops') where
  log := by rw [h'.log, h.log, List.append_assoc]
  closed := h.closed.append h'.closed
  owner f x := by
    rw [owner_append, h.owner, h'.owner]
    have hle := h.mono f
    have hle' := h'.mono f
    revert hle hle'
    cases b f <;> cases b' f <;> cases b'' f <;> simp [settled]
  touched f := by
    rintro ⟨op, hop, htouch⟩
    rcases List.mem_append.mp hop with hop | hop
    · rcases h.touched f ⟨op, hop, htouch⟩ with hb | hb
      · exact Or.inl hb
      · exact Or.inr (h'.mono f hb)
    · rcases h'.touched f ⟨op, hop, htouch⟩ with hb | hb
      · rcases hbf : b f with _ | _
        · exact Or.inr (h'.mono f hb)
        · exact Or.inl rfl
      · exact Or.inr hb
  mono f hf := h'.mono f (h.mono f hf)

end

theorem foldl_station {ops : List FirewallOp}
    (hops : ∀ op ∈ ops, ∃ f, op = .delDftFirewallRules f ∨ op = .configDftFirewallRules f)
    (su : Setup) (conf : FirewallConf) (j : Int) (d : Downlink) :
    ops.foldl (Downlink.firewall su conf j) d = d := by
  induction ops with
  | nil => rfl
  | cons op ops ih =>
      have hhead : d.firewall su conf j op = d := by
        obtain ⟨f, rfl | rfl⟩ := hops op List.mem_cons_self <;> rfl
      rw [List.foldl_cons, hhead]
      exact ih fun op' hop' => hops op' (List.mem_cons_of_mem op hop')

theorem Logs.station {j : Int} {b b' : IpType → Bool} {s s' : Static} {ops : List FirewallOp}
    (hlog : s'.firewallOps = s.firewallOps ++ ops)
    (hops : ∀ op ∈ ops, ∃ f, op = .delDftFirewallRules f ∨ op = .configDftFirewallRules f)
    (hsame : ∀ f, b' f = b f) : Logs j b b' s s' ops where
  log := hlog
  closed := by
    intro su conf j d hd
    rw [foldl_station hops]
    exact hd
  owner f x := by
    rw [hsame, settled_self]
    clear hlog
    induction ops with
    | nil => rfl
    | cons op ops ih =>
        have hhead : ownerStep j f x op = x := by
          obtain ⟨g, rfl | rfl⟩ := hops op List.mem_cons_self <;> rfl
        rw [Firewall.owner, List.foldl_cons, hhead]
        exact ih fun op' hop' => hops op' (List.mem_cons_of_mem op hop')
  touched := by
    rintro f ⟨op, hop, htouch⟩
    obtain ⟨g, rfl | rfl⟩ := hops op hop <;> rcases htouch with htouch | htouch <;> cases htouch

theorem modemActive_station {w : Wan} (h : w.isSta = true) (f : IpType) :
    modemActive f w = false := by
  rw [modemActive, h]
  rfl

theorem modemActive_modem {w : Wan} (h : w.isSta = false) (f : IpType) :
    modemActive f w = w.active.get f := by
  rw [modemActive, h]
  rfl

theorem routeAdded_raises {iptype : IpType} {w : Wan} {s : Static} {r : Wan × Static}
    (h : RouteAdded iptype w s r) (hidle : w.active.get iptype = false) :
    ∃ ops, Raises w.ipaIfNum (modemActive · w) (modemActive · r.1) s r.2 ops := by
  cases h with
  | ignored => exact ⟨[], Raises.none rfl fun _ => rfl⟩
  | failed => exact ⟨[], Raises.none rfl fun _ => rfl⟩
  | waits => exact ⟨[], Raises.none rfl fun _ => rfl⟩
  | up =>
      have hactive : ∀ f, ((w.asGateway.waiting iptype false).routeUp iptype
          (s.backhaul w)).1.active.get f = if f = iptype then true else w.active.get f :=
        fun f => Fam.get_set _ _ _ _
      rcases hsta : w.isSta with _ | _
      · refine ⟨[.configWanFirewallRule iptype, .installWanFilteringRule], ⟨?_,
          Downlink.closed_install [.configWanFirewallRule iptype], ?_, ?_⟩, ?_⟩
        · change s.firewallOps ++ (if w.isSta then _ else _) = _
          rw [hsta]
          rfl
        · intro f x
          rw [modemActive_modem hsta, modemActive_modem (w := Prod.fst _) hsta, hactive]
          rcases eq_or_ne f iptype with rfl | hf
          · rw [if_pos rfl, hidle]
            simp [Firewall.owner, ownerStep, settled]
          · rw [if_neg hf, settled_self]
            simp [Firewall.owner, ownerStep, hf.symm]
        · rintro f ⟨op, hop, htouch⟩
          right
          rw [modemActive_modem (w := Prod.fst _) hsta, hactive]
          rcases htouch with rfl | rfl
          · simp at hop
          · simp only [List.mem_cons, FirewallOp.configWanFirewallRule.injEq, reduceCtorEq,
              List.not_mem_nil, or_false] at hop
            exact if_pos hop
        · intro f hf
          rw [modemActive_modem hsta] at hf
          rw [modemActive_modem (w := Prod.fst _) hsta, hactive, hf, ite_self]
      · refine ⟨[.configDftFirewallRules iptype], ⟨Logs.station ?_ ?_ ?_, ?_⟩⟩
        · change s.firewallOps ++ (if w.isSta then _ else _) = _
          rw [hsta]
          rfl
        · intro op hop
          exact ⟨iptype, Or.inr (List.mem_singleton.mp hop)⟩
        · intro f
          rw [modemActive_station hsta, modemActive_station (w := Prod.fst _) hsta]
        · intro f hf
          rw [modemActive_station hsta] at hf
          cases hf

theorem kind_isSta {w w' : Wan} (h : w'.kind = w.kind) : w'.isSta = w.isSta := by
  have hmode : w'.mIsStaMode = w.mIsStaMode := congrArg Prod.snd h
  rw [Wan.isSta, hmode, Wan.isSta]

theorem modemActive_congr {w w' : Wan} (hkind : w'.kind = w.kind) (hactive : w'.active = w.active)
    (f : IpType) : modemActive f w' = modemActive f w := by
  rw [modemActive, modemActive, kind_isSta hkind, hactive]

theorem replayed_raises {iptype : IpType} {x y : Wan × Static} (h : Replayed iptype x y)
    (hx : x.1.Fit) :
    ∃ ops, Raises x.1.ipaIfNum (modemActive · x.1) (modemActive · y.1) x.2 y.2 ops := by
  rcases h with ⟨-, rfl⟩ | ⟨hwaits, hadd⟩
  · exact ⟨[], Raises.none rfl fun _ => rfl⟩
  · exact routeAdded_raises hadd (hx.idle iptype hwaits)

theorem kind_ipaIfNum {w w' : Wan} (h : w'.kind = w.kind) : w'.ipaIfNum = w.ipaIfNum :=
  congrArg Prod.fst h

theorem headerAdded_raises {w : Wan} {s : Static} {r : Wan × Static} (h : HeaderAdded w s r)
    (hw : w.Fit) : ∃ ops, Raises w.ipaIfNum (modemActive · w) (modemActive · r.1) s r.2 ops := by
  cases h with
  | already => exact ⟨[], Raises.none rfl fun _ => rfl⟩
  | @added x _ _ hv4 hv6 =>
      have hfit := Wan.withFullHeader_fit (Wan.withFullHeader_fit hw .v4) .v6
      have hkind : ((w.withFullHeader .v4).withFullHeader .v6).kind = w.kind := by
        rw [Wan.withFullHeader_kind, Wan.withFullHeader_kind]
      have hactive : ((w.withFullHeader .v4).withFullHeader .v6).active = w.active := by
        rw [(Wan.withFullHeader_members .v6 _).1, (Wan.withFullHeader_members .v4 w).1]
      obtain ⟨ops, hops⟩ := replayed_raises hv4 hfit
      obtain ⟨ops', hops'⟩ := replayed_raises hv6 (hv4.fit hfit)
      rw [kind_ipaIfNum hkind] at hops
      rw [kind_ipaIfNum (hv4.kind.trans hkind)] at hops'
      have hhead : Raises w.ipaIfNum (modemActive · w)
          (modemActive · ((w.withFullHeader .v4).withFullHeader .v6)) s s [] :=
        Raises.none rfl (modemActive_congr hkind hactive)
      exact ⟨_, (hhead.trans hops).trans hops'⟩

theorem handleNeighAddEvt_raises {w : Wan} (hw : w.Fit) (data : EventDataAddr) (validMac : Bool)
    (s : Static) :
    let r := w.handleNeighAddEvt .succeeding data validMac s
    ∃ ops, Raises w.ipaIfNum (modemActive · w) (modemActive · r.1) s r.2 ops := by
  obtain ⟨x, hfirst, hsecond⟩ := Wan.handleNeighAddEvt_cases data validMac w s
  obtain ⟨ops, hops⟩ := headerAdded_raises hfirst hw
  obtain ⟨ops', hops'⟩ := headerAdded_raises hsecond (hfirst.fit hw)
  rw [kind_ipaIfNum hfirst.kind] at hops'
  exact ⟨_, hops.trans hops'⟩

theorem cleanDefaultRoute_logs {w : Wan} (hw : w.Fit) {iptype : IpType}
    (hactive : w.active.get iptype = true) (s : Static) :
    let r := w.cleanDefaultRoute .succeeding iptype s
    ∃ ops, Logs w.ipaIfNum (modemActive · w) (modemActive · r.1) s r.2 ops := by
  have htx := hw.tx_of_active hactive
  have hdel : ∀ s, w.routeDel true iptype s =
      ({ w with isDefaultGateway := false } : Wan).routeDown iptype s := by
    intro s
    rw [Wan.routeDel, if_neg htx]
    simp [hactive]
  have hdown : ∀ s g, (({ w with isDefaultGateway := false } : Wan).routeDown iptype
      s).1.active.get g = if g = iptype then false else w.active.get g :=
    fun s g => Fam.get_set _ _ _ _
  rcases hsta : w.isSta with _ | _
  · have hclean : w.cleanDefaultRoute .succeeding iptype s =
        ({ w with isDefaultGateway := false } : Wan).routeDown iptype
          (s.firewall [.delWanFirewallRule iptype, .installWanFilteringRule]) := by
      rw [Wan.cleanDefaultRoute, hsta, if_neg Bool.false_ne_true]
      exact hdel _
    refine ⟨[.delWanFirewallRule iptype, .installWanFilteringRule], ?_,
      Downlink.closed_install [.delWanFirewallRule iptype], ?_, ?_⟩
    · rw [hclean]
      rfl
    · intro f x
      rw [hclean, modemActive_modem hsta, modemActive_modem (w := Prod.fst _) hsta, hdown]
      rcases eq_or_ne f iptype with rfl | hf
      · rw [if_pos rfl, hactive]
        simp [Firewall.owner, ownerStep, settled]
      · rw [if_neg hf, settled_self]
        simp [Firewall.owner, ownerStep, hf.symm]
    · rintro f ⟨op, hop, htouch⟩
      left
      rw [modemActive_modem hsta]
      rcases htouch with rfl | rfl
      · simp only [List.mem_cons, FirewallOp.delWanFirewallRule.injEq, reduceCtorEq,
          List.not_mem_nil, or_false] at hop
        rw [hop, hactive]
      · simp at hop
  · have hclean : w.cleanDefaultRoute .succeeding iptype s =
        ({ w with isDefaultGateway := false } : Wan).routeDown iptype
          (s.firewall [.delDftFirewallRules iptype]) := by
      rw [Wan.cleanDefaultRoute, hsta, if_pos rfl]
      exact hdel _
    refine ⟨[.delDftFirewallRules iptype], Logs.station ?_ ?_ ?_⟩
    · rw [hclean]
      rfl
    · intro op hop
      exact ⟨iptype, Or.inl (List.mem_singleton.mp hop)⟩
    · intro f
      rw [hclean, modemActive_station hsta, modemActive_station (w := Prod.fst _) hsta]

theorem postWanDownTethers_firewallOps (iptype : IpType) (w : Wan) (s : Static) :
    (w.postWanDownTethers iptype s).firewallOps = s.firewallOps := by
  rw [Wan.postWanDownTethers]
  generalize s.ipaIfNumTether.get iptype = l
  induction l generalizing s with
  | nil => rfl
  | cons t l ih =>
      rw [List.foldl_cons, ih, Wan.postWanDownTetherEvt]
      split <;> rfl

theorem routeDel_firewallOps (deleted : Bool) (iptype : IpType) (w : Wan) (s : Static) :
    (w.routeDel deleted iptype s).2.firewallOps = s.firewallOps := by
  rw [Wan.routeDel]
  split
  · rfl
  · dsimp only
    split <;> rfl

theorem downRouteEx_firewallOps (ops : List FirewallOp) (iptype : IpType) (w : Wan)
    (s : Static) :
    (w.downRouteEx .succeeding ops iptype s).2.firewallOps = s.firewallOps ++ ops := by
  rw [Wan.downRouteEx]
  dsimp only
  rw [postWanDownTethers_firewallOps, Wan.handleRouteDelEvtEx_succeeding, routeDel_firewallOps]
  rfl

/-- What `handle_down_evt_ex` does to the firewall. -/
structure DownLogs (w : Wan) (s s' : Static) (ops : List FirewallOp) : Prop where
  log : s'.firewallOps = s.firewallOps ++ ops
  closed : Downlink.Closed ops
  owner : ∀ f x, owner w.ipaIfNum f ops x = if w.clears f = true then none else x
  touched : ∀ f, (∃ op ∈ ops, Touches f op) → w.ipType.supports f = true

theorem handleDownEvtEx_logs (w : Wan) (s : Static) :
    ∃ ops, DownLogs w s (w.handleDownEvtEx .succeeding s) ops := by
  have hnothing : (∀ f, w.clears f = false) → w.handleDownEvtEx .succeeding s = s →
      ∃ ops, DownLogs w s (w.handleDownEvtEx .succeeding s) ops := by
    intro hclears hsame
    rw [hsame]
    refine ⟨[], (List.append_nil _).symm, Downlink.closed_nil, fun f x => ?_, ?_⟩
    · rw [hclears, if_neg Bool.false_ne_true]
      rfl
    · rintro f ⟨op, hop, -⟩
      cases hop
  rcases hembms : w.isEmbmsIf with _ | _
  · rcases hgateway : w.isDefaultGateway with _ | _
    · apply hnothing
      · intro f
        rw [Wan.clears, hgateway, Bool.and_false, Bool.false_and]
      · rw [Wan.handleDownEvtEx, hembms, hgateway]
        simp
    · have hclears : ∀ f, w.clears f = w.ipType.supports f := by
        intro f
        rw [Wan.clears, hembms, hgateway]
        rfl
      rcases htype : w.ipType with _ | _ | _ | _
      · apply hnothing
        · intro f
          rw [hclears, htype]
          rfl
        · rw [Wan.handleDownEvtEx, if_pos htype]
      · refine ⟨[.delWanFirewallRule .v4, .installWanFilteringRule], ?_,
          Downlink.closed_install [.delWanFirewallRule .v4], ?_, ?_⟩
        · rw [Wan.handleDownEvtEx, hembms, hgateway, htype]
          exact downRouteEx_firewallOps _ _ _ _
        · intro f x
          rw [hclears, htype]
          cases f <;> rfl
        · rw [htype]
          rintro (_ | _) ⟨op, hop, htouch⟩
          · rfl
          · rcases htouch with rfl | rfl <;> simp at hop
      · refine ⟨[.delWanFirewallRule .v6, .installWanFilteringRule], ?_,
          Downlink.closed_install [.delWanFirewallRule .v6], ?_, ?_⟩
        · rw [Wan.handleDownEvtEx, hembms, hgateway, htype]
          exact downRouteEx_firewallOps _ _ _ _
        · intro f x
          rw [hclears, htype]
          cases f <;> rfl
        · rw [htype]
          rintro (_ | _) ⟨op, hop, htouch⟩
          · rcases htouch with rfl | rfl <;> simp at hop
          · rfl
      · refine ⟨[.delWanFirewallRule .v4, .delWanFirewallRule .v6, .installWanFilteringRule], ?_,
          Downlink.closed_install [.delWanFirewallRule .v4, .delWanFirewallRule .v6], ?_, ?_⟩
        · rw [Wan.handleDownEvtEx, hembms, hgateway, htype]
          change (Wan.downRouteEx _ _ _ _ _).2.firewallOps ++ [_] = _
          rw [downRouteEx_firewallOps, downRouteEx_firewallOps, List.append_assoc,
            List.append_assoc]
          rfl
        · intro f x
          rw [hclears, htype]
          cases f <;> rfl
        · rw [htype]
          intro f _
          rfl
  · apply hnothing
    · intro f
      rw [Wan.clears, hembms]
      rfl
    · rw [Wan.handleDownEvtEx, hembms]
      simp

/-- What an instance takes in but its default routes. -/
def addrPart (w : Wan) : IfaceIpType × List Ipv6Addr × Bool := (w.ipType, w.ipv6Addr, w.isEmbmsIf)

theorem routeAdded_addrPart {iptype : IpType} {w : Wan} {s : Static} {r : Wan × Static}
    (h : RouteAdded iptype w s r) : addrPart r.1 = addrPart w := by
  cases h <;> rfl

theorem withFullHeader_addrPart (f : IpType) (w : Wan) :
    addrPart (w.withFullHeader f) = addrPart w := by
  rw [Wan.withFullHeader]
  split <;> rfl

theorem replayed_addrPart {iptype : IpType} {x y : Wan × Static} (h : Replayed iptype x y) :
    addrPart y.1 = addrPart x.1 := by
  rcases h with ⟨-, rfl⟩ | ⟨-, hadd⟩
  · rfl
  · exact routeAdded_addrPart hadd

theorem headerAdded_addrPart {w : Wan} {s : Static} {r : Wan × Static} (h : HeaderAdded w s r) :
    addrPart r.1 = addrPart w := by
  cases h with
  | already => rfl
  | added _ hv4 hv6 =>
      rw [replayed_addrPart hv6, replayed_addrPart hv4, withFullHeader_addrPart,
        withFullHeader_addrPart]

theorem cleanDefaultRoute_addrPart (iptype : IpType) (w : Wan) (s : Static) :
    addrPart (w.cleanDefaultRoute .succeeding iptype s).1 = addrPart w := by
  have hdel : ∀ s, addrPart (w.routeDel true iptype s).1 = addrPart w := by
    intro s
    rw [Wan.routeDel]
    split
    · rfl
    · dsimp only
      split <;> rfl
  rw [Wan.cleanDefaultRoute]
  split
  · exact hdel _
  · exact hdel _

/-- An instance goes down, or is a modem that takes an address, or is told of the file. -/
def Event.Special (w : Wan) : Event → Prop
  | .wlanLinkDown index => w.mIsStaMode = .wlanWan ∧ index = w.ipaIfNum
  | .linkDown index => w.mIsStaMode = .ecmWan ∨ w.mIsStaMode = .q6Wan ∧ index = w.ipaIfNum
  | .addrAdd index data => index = w.ipaIfNum ∧ data.isZero = false ∧ w.takesAddr data = true
  | .firewallChange => True
  | _ => False

theorem eventCallback_logs {w : Wan} (hw : w.Fit) {e : Event} (h : ¬ Event.Special w e)
    (s : Static) :
    ∃ w', (w.eventCallback .succeeding e s).1 = some w' ∧ addrPart w' = addrPart w ∧
      ∃ ops, Logs w.ipaIfNum (modemActive · w) (modemActive · w') s
        (w.eventCallback .succeeding e s).2 ops := by
  have hsame : ∃ w', some w = some w' ∧ addrPart w' = addrPart w ∧
      ∃ ops, Logs w.ipaIfNum (modemActive · w) (modemActive · w') s s ops :=
    ⟨w, rfl, rfl, [], (Raises.none rfl fun _ => rfl).toLogs⟩
  have hclean : ∀ iptype s s', w.active.get iptype = true → s'.firewallOps = s.firewallOps →
      ∃ w', some (w.cleanDefaultRoute .succeeding iptype s').1 = some w' ∧
        addrPart w' = addrPart w ∧ ∃ ops, Logs w.ipaIfNum (modemActive · w) (modemActive · w') s
          (w.cleanDefaultRoute .succeeding iptype s').2 ops := by
    intro iptype s s' hactive hlog
    obtain ⟨ops, hops⟩ := cleanDefaultRoute_logs hw hactive s'
    refine ⟨_, rfl, cleanDefaultRoute_addrPart iptype w s', ops, ?_, hops.closed, hops.owner,
      hops.touched⟩
    rw [← hlog]
    exact hops.log
  cases e with
  | wlanLinkDown index =>
      have hother : ¬ (w.mIsStaMode = .wlanWan ∧ index = w.ipaIfNum) := h
      rw [Wan.eventCallback, if_neg hother]
      exact hsame
  | linkDown index =>
      rw [Wan.eventCallback]
      split
      · rename_i hmode
        rw [if_neg fun hindex => h (Or.inr ⟨hmode, hindex⟩)]
        exact hsame
      · rename_i hmode
        exact absurd (Or.inl hmode) h
      · exact hsame
  | addrAdd index data =>
      have hother : ¬ (index = w.ipaIfNum ∧ data.isZero = false ∧ w.takesAddr data = true) := h
      rw [Wan.eventCallback, if_neg hother]
      exact hsame
  | upstreamRouteAdd index iptype indexTether =>
      rw [Wan.eventCallback]
      split
      · split
        · dsimp only
          rcases hactive : w.active.get iptype with _ | _
          · rw [if_neg Bool.false_ne_true]
            have hadd := Wan.handleRouteAddEvt_cases iptype w s
            obtain ⟨ops, hops⟩ := routeAdded_raises hadd hactive
            exact ⟨_, rfl, routeAdded_addrPart hadd, ops, hops.log, hops.closed, hops.owner,
              hops.touched⟩
          · have hlog : (w.postWanUpTetherEvt iptype indexTether s).firewallOps =
                s.firewallOps := rfl
            exact ⟨w, rfl, rfl, [], (Raises.none hlog fun _ => rfl).toLogs⟩
        · exact hsame
      · split
        · exact hclean iptype s s ‹_› rfl
        · exact hsame
  | upstreamRouteDel index iptype indexTether =>
      rw [Wan.eventCallback]
      split
      · rename_i hown
        have hlog : (w.postWanDownTetherEvt iptype indexTether s).firewallOps =
            s.firewallOps := by
          rw [Wan.postWanDownTetherEvt]
          split <;> rfl
        dsimp only
        split
        · exact ⟨w, rfl, rfl, [], (Raises.none hlog fun _ => rfl).toLogs⟩
        · exact hclean iptype s _ hown.2 hlog
      · exact hsame
  | routeAdd index data =>
      rw [Wan.eventCallback]
      split
      · exact hsame
      · split
        · split
          · rename_i hidle
            have hadd := Wan.handleRouteAddEvt_cases data.iptype w s
            obtain ⟨ops, hops⟩ := routeAdded_raises hadd hidle.1
            exact ⟨_, rfl, routeAdded_addrPart hadd, ops, hops.toLogs⟩
          · exact hsame
        · split
          · exact hclean data.iptype s s ‹_› rfl
          · exact hsame
  | routeDel index data =>
      rw [Wan.eventCallback]
      split
      · rename_i hown
        exact hclean data.iptype s s hown.2.2 rfl
      · exact hsame
  | neighClientIpAddrAdd index data validMac =>
      rw [Wan.eventCallback]
      split
      · obtain ⟨x, hfirst, hsecond⟩ := Wan.handleNeighAddEvt_cases data validMac w s
        obtain ⟨ops, hops⟩ := handleNeighAddEvt_raises hw data validMac s
        exact ⟨_, rfl, (headerAdded_addrPart hsecond).trans (headerAdded_addrPart hfirst), ops,
          hops.toLogs⟩
      · exact hsame
  | firewallChange => exact absurd trivial h

theorem handleDownEvt_station (w : Wan) (s : Static) :
    ∃ ops, (w.handleDownEvt .succeeding s).firewallOps = s.firewallOps ++ ops ∧
      ∀ op ∈ ops, ∃ f, op = .delDftFirewallRules f ∨ op = .configDftFirewallRules f := by
  have hroute : ∀ (f : IpType) (w : Wan) (s : Static),
      ∃ ops, (w.downRoute .succeeding f s).2.firewallOps = s.firewallOps ++ ops ∧
        ∀ op ∈ ops, op = .delDftFirewallRules f := by
    intro f w s
    rw [Wan.downRoute]
    split
    · dsimp only
      rw [Wan.handleRouteDelEvt_succeeding, routeDel_firewallOps]
      refine ⟨_, rfl, fun op hop => ?_⟩
      split at hop
      · exact List.mem_singleton.mp hop
      · cases hop
    · exact ⟨[], (List.append_nil _).symm, fun op hop => by cases hop⟩
  rw [Wan.handleDownEvt]
  split
  · exact ⟨[], (List.append_nil _).symm, fun op hop => by cases hop⟩
  · obtain ⟨ops, hlog, hops⟩ := hroute .v4 w s
    obtain ⟨ops', hlog', hops'⟩ :=
      hroute .v6 (w.downRoute .succeeding .v4 s).1 (w.downRoute .succeeding .v4 s).2
    refine ⟨ops ++ ops', ?_, fun op hop => ?_⟩
    · dsimp only
      rw [hlog', hlog, List.append_assoc]
    · rcases List.mem_append.mp hop with hop | hop
      · exact ⟨.v4, Or.inl (hops op hop)⟩
      · exact ⟨.v6, Or.inl (hops' op hop)⟩

end LibraDevice.Firewall
