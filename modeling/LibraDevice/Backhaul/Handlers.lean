import LibraDevice.Backhaul.Iface

/-!
What the handlers of `IPACM_Wan` can do while the driver calls succeed.
-/

namespace LibraDevice.Backhaul

namespace Static

@[simp] theorem post_wanUp (s : Static) (e : Posted) : (s.post e).wanUp = s.wanUp := rfl

@[simp] theorem post_ipaIfNumTether (s : Static) (e : Posted) :
    (s.post e).ipaIfNumTether = s.ipaIfNumTether := rfl

@[simp] theorem post_posted (s : Static) (e : Posted) : (s.post e).posted = s.posted ++ [e] := rfl

@[simp] theorem firewall_wanUp (s : Static) (ops : List FirewallOp) :
    (s.firewall ops).wanUp = s.wanUp := rfl

@[simp] theorem firewall_ipaIfNumTether (s : Static) (ops : List FirewallOp) :
    (s.firewall ops).ipaIfNumTether = s.ipaIfNumTether := rfl

@[simp] theorem firewall_posted (s : Static) (ops : List FirewallOp) :
    (s.firewall ops).posted = s.posted := rfl

@[simp] theorem resetDevName_wanUp (s : Static) (up : Bool) :
    (s.resetDevName up).wanUp = s.wanUp := rfl

@[simp] theorem resetDevName_ipaIfNumTether (s : Static) (up : Bool) :
    (s.resetDevName up).ipaIfNumTether = s.ipaIfNumTether := rfl

@[simp] theorem resetDevName_posted (s : Static) (up : Bool) :
    (s.resetDevName up).posted = s.posted := rfl

end Static

namespace Wan

/-- A route add of the family sets the routes up: the header is complete, and a modem's
extended properties are there. -/
def completesRoute (w : Wan) (iptype : IpType) : Bool :=
  (if w.isSta then w.headerSet.get iptype else decide (0 < w.numExtProps) && w.hasExtProp) &&
    w.headerIsPartial iptype = some false

/-- The interface becomes the default gateway, whatever comes of its routes. -/
def asGateway (w : Wan) : Wan := { w with isDefaultGateway := true }

/-- With the family's add noted as waiting for the header, or no longer. -/
def waiting (iptype : IpType) (b : Bool) (w : Wan) : Wan :=
  { w with headerPartialDefaultWan := w.headerPartialDefaultWan.set b iptype }

end Wan

/-- The static members that a route add writes first. -/
def Static.backhaul (w : Wan) (s : Static) : Static :=
  { s with backhaulIpv6Prefix := w.ipv6Prefix, backhaulIsStaMode := w.isSta }

/-- What `handle_route_add_evt` does. -/
inductive RouteAdded (iptype : IpType) (w : Wan) (s : Static) : Wan × Static → Prop
  | ignored : w.txProp = none → RouteAdded iptype w s (w, s)
  | failed : w.txProp ≠ none → w.completesRoute iptype = false →
      (w.isSta = true → w.headerSet.get iptype = true ∧ w.hasTx iptype = false) →
      RouteAdded iptype w s (w.asGateway, s.backhaul w)
  | waits : w.txProp ≠ none → w.completesRoute iptype = false →
      RouteAdded iptype w s (w.asGateway.waiting iptype true, s.backhaul w)
  | up : w.txProp ≠ none → w.completesRoute iptype = true →
      RouteAdded iptype w s ((w.asGateway.waiting iptype false).routeUp iptype (s.backhaul w))

namespace Wan

theorem headerIsPartial_eq_none {w : Wan} {iptype : IpType} (h : w.headerIsPartial iptype = none) :
    w.hasTx iptype = false := by
  rw [headerIsPartial, Option.map_eq_none_iff, List.find?_eq_none] at h
  rw [hasTx, List.any_eq_false]
  exact h

theorem routeAddRules_of_none {iptype : IpType} {w : Wan} (h : w.headerIsPartial iptype = none)
    (s : Static) : w.routeAddRules .succeeding iptype s = (w, s) := by
  rw [routeAddRules, h]

theorem routeAddRules_of_incomplete {iptype : IpType} {w : Wan}
    (h : w.headerIsPartial iptype = some true) (s : Static) :
    w.routeAddRules .succeeding iptype s = (w.waiting iptype true, s) := by
  rw [routeAddRules, h]
  rfl

theorem routeAddRules_of_full {iptype : IpType} {w : Wan}
    (h : w.headerIsPartial iptype = some false) (s : Static) :
    w.routeAddRules .succeeding iptype s = (w.waiting iptype false).routeUp iptype s := by
  rw [routeAddRules, h]
  simp [Io.succeeding, waiting]

theorem routeAddRules_cases {iptype : IpType} {w : Wan} (s : Static) (htx : w.txProp ≠ none)
    (hready : (if w.isSta then w.headerSet.get iptype
      else decide (0 < w.numExtProps) && w.hasExtProp) = true) :
    RouteAdded iptype w s (w.asGateway.routeAddRules .succeeding iptype (s.backhaul w)) := by
  rcases hpartial : w.headerIsPartial iptype with _ | isPartial
  · rw [routeAddRules_of_none (w := w.asGateway) hpartial]
    refine .failed htx ?_ fun hsta => ⟨?_, headerIsPartial_eq_none hpartial⟩
    · rw [completesRoute, hpartial]
      simp
    · rwa [if_pos hsta] at hready
  · cases isPartial with
    | false =>
        rw [routeAddRules_of_full (w := w.asGateway) hpartial]
        refine .up htx ?_
        rw [completesRoute, hready, hpartial]
        simp
    | true =>
        rw [routeAddRules_of_incomplete (w := w.asGateway) hpartial]
        refine .waits htx ?_
        rw [completesRoute, hpartial]
        simp

theorem handleRouteAddEvt_cases (iptype : IpType) (w : Wan) (s : Static) :
    RouteAdded iptype w s (w.handleRouteAddEvt .succeeding iptype s) := by
  rw [handleRouteAddEvt]
  rcases eq_or_ne w.txProp none with hnone | htx
  · rw [if_pos hnone]
    exact .ignored hnone
  rw [if_neg htx]
  change RouteAdded iptype w s (if w.isSta = true then
      if w.headerSet.get iptype = false then (w.asGateway.waiting iptype true, s.backhaul w)
      else w.asGateway.routeAddRules .succeeding iptype (s.backhaul w)
    else if 0 < w.numExtProps ∧ w.hasExtProp = true then
      w.asGateway.routeAddRules .succeeding iptype (s.backhaul w)
    else (w.asGateway, s.backhaul w))
  rcases hsta : w.isSta with _ | _
  · rw [if_neg Bool.false_ne_true]
    split
    · rename_i hext
      apply routeAddRules_cases s htx
      simp [hsta, hext.1, hext.2]
    · rename_i hext
      refine .failed htx ?_ fun h => absurd (hsta.symm.trans h) Bool.false_ne_true
      rw [completesRoute, hsta]
      simpa using fun h h' => absurd ⟨h, h'⟩ hext
  · rw [if_pos rfl]
    rcases hset : w.headerSet.get iptype with _ | _
    · rw [if_pos rfl]
      refine .waits htx ?_
      rw [completesRoute, hsta, if_pos rfl, hset, Bool.false_and]
    · rw [if_neg Bool.false_ne_true.symm]
      apply routeAddRules_cases s htx
      rw [hsta, if_pos rfl, hset]

theorem cleanDefaultRoute_eq {iptype : IpType} {w : Wan} (hactive : w.active.get iptype = true)
    (htx : w.txProp ≠ none) (s : Static) : ∃ ops,
    w.cleanDefaultRoute .succeeding iptype s =
      ({ w with isDefaultGateway := false } : Wan).routeDown iptype (s.firewall ops) := by
  have hdel : ∀ s, w.routeDel true iptype s =
      ({ w with isDefaultGateway := false } : Wan).routeDown iptype s := by
    intro s
    rw [routeDel, if_neg htx]
    simp [hactive]
  rw [cleanDefaultRoute]
  split
  · exact ⟨_, hdel _⟩
  · exact ⟨_, hdel _⟩

/-- With the family's full header, where a property names one. -/
def withFullHeader (iptype : IpType) (w : Wan) : Wan :=
  if w.hasTx iptype = false then w
  else
    { w with
      headerSet := w.headerSet.set true iptype
      txProp := w.txProp.map fun txs =>
        txs.map fun tx => if tx.ip = iptype then { tx with isPartial := false } else tx }

theorem addFullHeader_succeeding (iptype : IpType) (w : Wan) :
    w.addFullHeader .succeeding iptype = some (w.withFullHeader iptype) := by
  rw [addFullHeader, withFullHeader]
  split <;> rfl

end Wan

/-- What the replay of an add does that may wait for the header. -/
def Replayed (iptype : IpType) (x y : Wan × Static) : Prop :=
  (x.1.headerPartialDefaultWan.get iptype = false ∧ y = x) ∨
    (x.1.headerPartialDefaultWan.get iptype = true ∧ RouteAdded iptype x.1 x.2 y)

/-- What `handle_header_add_evt` does. -/
inductive HeaderAdded (w : Wan) (s : Static) : Wan × Static → Prop
  | already : HeaderAdded w s (w, s)
  | added {x y : Wan × Static} : w.headerSet = ⟨false, false⟩ →
      Replayed .v4 ((w.withFullHeader .v4).withFullHeader .v6, s) x → Replayed .v6 x y →
      HeaderAdded w s y

namespace Wan

theorem replayRouteAdd_cases (iptype : IpType) (w : Wan) (s : Static) :
    Replayed iptype (w, s) (w.replayRouteAdd .succeeding iptype s) := by
  rw [replayRouteAdd]
  split
  · rename_i hwaits
    exact Or.inr ⟨hwaits, handleRouteAddEvt_cases iptype w s⟩
  · rename_i hwaits
    exact Or.inl ⟨Bool.eq_false_iff.mpr hwaits, rfl⟩

theorem handleHeaderAddEvt_cases (w : Wan) (s : Static) :
    HeaderAdded w s (w.handleHeaderAddEvt .succeeding s) := by
  rw [handleHeaderAddEvt]
  split
  · exact .already
  · rename_i hset
    simp only [addFullHeader_succeeding]
    refine .added ?_ (replayRouteAdd_cases .v4 _ s) (replayRouteAdd_cases .v6 _ _)
    rcases hw : w.headerSet with ⟨b4, b6⟩
    rw [hw] at hset
    cases b4 <;> cases b6 <;> simp at hset ⊢

theorem handleNeighAddEvt_cases (data : EventDataAddr) (validMac : Bool) (w : Wan) (s : Static) :
    ∃ x, HeaderAdded w s x ∧
      HeaderAdded x.1 x.2 (w.handleNeighAddEvt .succeeding data validMac s) := by
  rw [handleNeighAddEvt]
  have hfirst : HeaderAdded w s
      (if w.mIsStaMode = .wlanWan then w.handleHeaderAddEvt .succeeding s else (w, s)) := by
    split
    · exact handleHeaderAddEvt_cases w s
    · exact .already
  generalize (if w.mIsStaMode = .wlanWan then w.handleHeaderAddEvt .succeeding s else (w, s)) = r
    at hfirst ⊢
  refine ⟨r, hfirst, ?_⟩
  split
  · exact .already
  · split
    · exact handleHeaderAddEvt_cases _ _
    · exact .already

theorem routeDel_wanUp (iptype g : IpType) (w : Wan) (s : Static) :
    (w.routeDel true iptype s).2.wanUp.get g =
      if g = iptype ∧ w.txProp ≠ none ∧ w.active.get iptype = true then false
      else s.wanUp.get g := by
  rw [routeDel]
  rcases eq_or_ne w.txProp none with hnone | htx
  · simp [hnone]
  rcases hactive : w.active.get iptype with _ | _
  · simp [htx, hactive]
  · simp [htx, hactive, routeDown]

theorem routeDel_wan (deleted : Bool) (iptype g : IpType) (w : Wan) (s : Static)
    (hne : g ≠ iptype) :
    (w.routeDel deleted iptype s).1.active.get g = w.active.get g ∧
      (w.routeDel deleted iptype s).1.txProp = w.txProp := by
  rw [routeDel]
  split
  · exact ⟨rfl, rfl⟩
  · dsimp only
    split
    · simp [routeDown, hne]
    · exact ⟨rfl, rfl⟩

theorem handleRouteDelEvt_succeeding (iptype : IpType) (w : Wan) (s : Static) :
    w.handleRouteDelEvt .succeeding iptype s = w.routeDel true iptype s := rfl

theorem handleRouteDelEvtEx_succeeding (iptype : IpType) (w : Wan) (s : Static) :
    w.handleRouteDelEvtEx .succeeding iptype s = w.routeDel true iptype s := rfl

/-- What the handlers keep up for one interface: an active or waiting family has TX
properties and an address, and none is both. -/
structure Fit (w : Wan) : Prop where
  tx : ∀ f, (w.active.get f || w.headerPartialDefaultWan.get f) = true → w.txProp ≠ none
  supports : ∀ f, (w.active.get f || w.headerPartialDefaultWan.get f) = true →
    w.ipType.supports f = true
  idle : ∀ f, w.headerPartialDefaultWan.get f = true → w.active.get f = false
  header : ∀ f, w.headerSet.get f = true → w.hasTx f = true

theorem Fit.tx_of_active {w : Wan} (hw : w.Fit) {f : IpType} (h : w.active.get f = true) :
    w.txProp ≠ none :=
  hw.tx f (by rw [h, Bool.true_or])

theorem Fit.supports_of_active {w : Wan} (hw : w.Fit) {f : IpType} (h : w.active.get f = true) :
    w.ipType.supports f = true :=
  hw.supports f (by rw [h, Bool.true_or])

theorem downRoute_wanUp {iptype : IpType} {w : Wan}
    (htx : w.active.get iptype = true → w.txProp ≠ none) (g : IpType) (s : Static) :
    (w.downRoute .succeeding iptype s).2.wanUp.get g =
      if g = iptype ∧ w.active.get iptype = true then false else s.wanUp.get g := by
  rw [downRoute]
  rcases hactive : w.active.get iptype with _ | _
  · simp
  · simp [handleRouteDelEvt_succeeding, routeDel_wanUp, hactive, htx hactive]

theorem downRoute_wan (iptype g : IpType) (w : Wan) (s : Static) (hne : g ≠ iptype) :
    (w.downRoute .succeeding iptype s).1.active.get g = w.active.get g ∧
      (w.downRoute .succeeding iptype s).1.txProp = w.txProp := by
  rw [downRoute]
  split
  · exact routeDel_wan _ iptype g w _ hne
  · exact ⟨rfl, rfl⟩

theorem handleDownEvt_wanUp {w : Wan} (hw : w.Fit) (s : Static) (g : IpType) :
    (w.handleDownEvt .succeeding s).wanUp.get g =
      if w.active.get g = true then false else s.wanUp.get g := by
  rw [handleDownEvt]
  split
  · rename_i hnull
    rcases hactive : w.active.get g with _ | _
    · rfl
    · have hsup := hw.supports_of_active hactive
      rw [hnull] at hsup
      cases hsup
  · have hv6 := downRoute_wan .v4 .v6 w s (by decide)
    dsimp only
    rw [downRoute_wanUp, hv6.1, downRoute_wanUp hw.tx_of_active]
    · cases g <;> simp
    · rw [hv6.1, hv6.2]
      exact hw.tx_of_active

/-- A modem going down clears the shared flag of the family. -/
def clears (w : Wan) (iptype : IpType) : Bool :=
  !w.isEmbmsIf && w.isDefaultGateway && w.ipType.supports iptype

theorem postWanDownTetherEvt_wanUp (iptype : IpType) (t : Int) (w : Wan) (s : Static) :
    (w.postWanDownTetherEvt iptype t s).wanUp = s.wanUp := by
  rw [postWanDownTetherEvt]
  split <;> rfl

theorem postWanDownTethers_wanUp (iptype : IpType) (w : Wan) (s : Static) :
    (w.postWanDownTethers iptype s).wanUp = s.wanUp := by
  rw [postWanDownTethers]
  generalize s.ipaIfNumTether.get iptype = l
  induction l generalizing s with
  | nil => rfl
  | cons t l ih =>
      rw [List.foldl_cons, ih, postWanDownTetherEvt_wanUp]

theorem downRouteEx_wanUp (ops : List FirewallOp) (iptype g : IpType) (w : Wan) (s : Static) :
    (w.downRouteEx .succeeding ops iptype s).2.wanUp.get g =
      if g = iptype then false else s.wanUp.get g := by
  rw [downRouteEx]
  dsimp only
  rw [postWanDownTethers_wanUp, handleRouteDelEvtEx_succeeding, routeDel_wanUp]
  rcases eq_or_ne g iptype with rfl | hne
  · simp
  · simp [hne]

theorem handleDownEvtEx_wanUp (w : Wan) (s : Static) (g : IpType) :
    (w.handleDownEvtEx .succeeding s).wanUp.get g =
      if w.clears g = true then false else s.wanUp.get g := by
  rw [handleDownEvtEx, clears]
  rcases htype : w.ipType with _ | _ | _ | _ <;> cases w.isEmbmsIf <;>
    cases w.isDefaultGateway <;> cases g <;>
    simp [IfaceIpType.supports, downRouteEx_wanUp]

end Wan

theorem RouteAdded.fit {iptype : IpType} {w : Wan} {s : Static} {r : Wan × Static}
    (h : RouteAdded iptype w s r) (hw : w.Fit) (hsup : w.ipType.supports iptype = true)
    (hidle : w.active.get iptype = false) : r.1.Fit := by
  cases h with
  | ignored => exact hw
  | failed => exact ⟨hw.tx, hw.supports, hw.idle, hw.header⟩
  | waits htx =>
      refine ⟨fun g _ => htx, fun g hg => ?_, fun g hg => ?_, hw.header⟩
      · rcases eq_or_ne g iptype with rfl | hne
        · exact hsup
        · apply hw.supports g
          simpa [Wan.waiting, Wan.asGateway, hne] using hg
      · rcases eq_or_ne g iptype with rfl | hne
        · exact hidle
        · apply hw.idle g
          simpa [Wan.waiting, Wan.asGateway, hne] using hg
  | up htx =>
      refine ⟨fun g _ => htx, fun g hg => ?_, fun g hg => ?_, hw.header⟩
      · rcases eq_or_ne g iptype with rfl | hne
        · exact hsup
        · apply hw.supports g
          simpa [Wan.routeUp, Wan.waiting, Wan.asGateway, hne] using hg
      · rcases eq_or_ne g iptype with rfl | hne
        · simp [Wan.routeUp, Wan.waiting, Wan.asGateway] at hg
        · simp only [Wan.routeUp, Wan.waiting, Wan.asGateway, Fam.get_set, if_neg hne] at hg ⊢
          exact hw.idle g hg

namespace Wan

theorem hasTx_withFullHeader (f g : IpType) (w : Wan) :
    (w.withFullHeader f).hasTx g = w.hasTx g := by
  rw [withFullHeader]
  split
  · rfl
  · rcases htx : w.txProp with _ | txs
    · simp [hasTx, htx]
    · simp only [hasTx, htx, Option.map_some, Option.getD_some, List.any_map]
      congr 1
      funext tx
      simp only [Function.comp]
      split <;> rfl

theorem withFullHeader_fit {w : Wan} (hw : w.Fit) (f : IpType) : (w.withFullHeader f).Fit := by
  rcases htx : w.hasTx f with _ | _
  · rw [withFullHeader, if_pos htx]
    exact hw
  · have hheader : ∀ g, (w.headerSet.set true f).get g = true → w.hasTx g = true := by
      intro g hg
      rcases eq_or_ne g f with rfl | hne
      · exact htx
      · apply hw.header g
        simpa [hne] using hg
    have heq : w.withFullHeader f = if w.hasTx f = false then w else _ := rfl
    rw [htx, if_neg Bool.false_ne_true.symm] at heq
    refine ⟨fun g hg => ?_, fun g hg => ?_, fun g hg => ?_, fun g hg => ?_⟩
    · rw [heq] at hg ⊢
      intro hnone
      exact hw.tx g hg (Option.map_eq_none_iff.mp hnone)
    · rw [heq] at hg ⊢
      exact hw.supports g hg
    · rw [heq] at hg ⊢
      exact hw.idle g hg
    · rw [hasTx_withFullHeader]
      rw [heq] at hg
      exact hheader g hg

end Wan

theorem Replayed.fit {iptype : IpType} {x y : Wan × Static} (h : Replayed iptype x y)
    (hx : x.1.Fit) : y.1.Fit := by
  rcases h with ⟨-, rfl⟩ | ⟨hwaits, hadd⟩
  · exact hx
  · exact hadd.fit hx (hx.supports iptype (by rw [hwaits, Bool.or_true])) (hx.idle iptype hwaits)

theorem HeaderAdded.fit {w : Wan} {s : Static} {r : Wan × Static} (h : HeaderAdded w s r)
    (hw : w.Fit) : r.1.Fit := by
  cases h with
  | already => exact hw
  | added _ hv4 hv6 =>
      exact hv6.fit (hv4.fit (Wan.withFullHeader_fit (Wan.withFullHeader_fit hw .v4) .v6))

namespace Wan

theorem routeDown_fit {w : Wan} (hw : w.Fit) (iptype : IpType) (b : Bool) (s : Static) :
    (({ w with isDefaultGateway := b } : Wan).routeDown iptype s).1.Fit := by
  have hle : ∀ g, (w.active.set false iptype).get g = true → w.active.get g = true := by
    intro g hg
    rcases eq_or_ne g iptype with rfl | hne
    · simp at hg
    · simpa [hne] using hg
  have hor : ∀ g, ((w.active.set false iptype).get g || w.headerPartialDefaultWan.get g) = true →
      (w.active.get g || w.headerPartialDefaultWan.get g) = true := by
    intro g hg
    rcases Bool.or_eq_true_iff.mp hg with hg | hg
    · rw [hle g hg, Bool.true_or]
    · rw [hg, Bool.or_true]
  refine ⟨fun g hg => hw.tx g (hor g hg), fun g hg => hw.supports g (hor g hg), fun g hg => ?_,
    hw.header⟩
  apply Bool.eq_false_iff.mpr
  intro hg'
  exact Bool.false_ne_true ((hw.idle g hg).symm.trans (hle g hg'))

theorem handleAddrEvt_eq (io : Io) (data : EventDataAddr) (w : Wan) : ∃ t v4 l p n,
    w.handleAddrEvt io data =
        { w with
          ipType := t
          wanV4Addr := v4
          ipv6Addr := l
          ipv6Prefix := p
          numIpv6DestFltRule := n } ∧
      (t = w.ipType ∨ t = w.ipType.add data.iptype) := by
  rw [handleAddrEvt]
  split
  · rename_i hv4
    split
    · exact ⟨_, _, _, _, _, rfl, Or.inr (congrArg _ hv4.symm)⟩
    · exact ⟨_, _, _, _, _, rfl, Or.inl rfl⟩
  · rename_i hv6
    split
    · exact ⟨_, _, _, _, _, rfl, Or.inl rfl⟩
    split
    · exact ⟨_, _, _, _, _, rfl, Or.inl rfl⟩
    have hfirst : ∃ t, (if w.ipv6Addr = [] then { w with ipType := w.ipType.add .v6 } else w) =
        { w with ipType := t } ∧ (t = w.ipType ∨ t = w.ipType.add data.iptype) := by
      split
      · exact ⟨_, rfl, Or.inr (congrArg _ hv6.symm)⟩
      · exact ⟨_, rfl, Or.inl rfl⟩
    obtain ⟨t, ht, htype⟩ := hfirst
    rw [ht]
    dsimp only
    split
    · split
      · exact ⟨_, _, _, _, _, rfl, htype⟩
      · exact ⟨_, _, _, _, _, rfl, htype⟩
    · exact ⟨_, _, _, _, _, rfl, htype⟩

theorem handleAddrEvt_fit {w : Wan} (hw : w.Fit) (io : Io) (data : EventDataAddr) :
    (w.handleAddrEvt io data).Fit := by
  obtain ⟨t, v4, l, p, n, heq, htype⟩ := handleAddrEvt_eq io data w
  rw [heq]
  refine ⟨hw.tx, fun g hg => ?_, hw.idle, hw.header⟩
  have hsup := hw.supports g hg
  rcases htype with rfl | rfl
  · exact hsup
  · change (w.ipType.add data.iptype).supports g = true
    rw [IfaceIpType.supports_add, hsup, Bool.true_or]

theorem cleanDefaultRoute_fit {w : Wan} (hw : w.Fit) {iptype : IpType}
    (hactive : w.active.get iptype = true) (s : Static) :
    (w.cleanDefaultRoute .succeeding iptype s).1.Fit := by
  obtain ⟨ops, heq⟩ := cleanDefaultRoute_eq hactive (hw.tx_of_active hactive) s
  rw [heq]
  exact routeDown_fit hw iptype false _

theorem eventCallback_fit {e : Event} {w w' : Wan} {s : Static} (hw : w.Fit)
    (h : (w.eventCallback .succeeding e s).1 = some w') : w'.Fit := by
  suffices hall : ∀ w' ∈ (w.eventCallback .succeeding e s).1, w'.Fit from hall w' h
  have hsame : ∀ w' ∈ some w, w'.Fit := fun w' hw' => Option.some.inj hw' ▸ hw
  have hnone : ∀ w' ∈ (none : Option Wan), w'.Fit := fun _ hw' => by cases hw'
  have hsome : ∀ w₁ : Wan, w₁.Fit → ∀ w' ∈ some w₁, w'.Fit :=
    fun w₁ h₁ w' hw' => Option.some.inj hw' ▸ h₁
  cases e with
  | wlanLinkDown index =>
      rw [eventCallback]
      split
      · exact hnone
      · exact hsame
  | linkDown index =>
      rw [eventCallback]
      split
      · split
        · exact hnone
        · exact hsame
      · exact hnone
      · exact hsame
  | addrAdd index data =>
      rw [eventCallback]
      split
      · exact hsome _ (handleAddrEvt_fit hw _ data)
      · exact hsame
  | upstreamRouteAdd index iptype indexTether =>
      rw [eventCallback]
      split
      · split
        · rename_i hsup
          rcases hactive : w.active.get iptype with _ | _
          · exact hsome _ ((handleRouteAddEvt_cases iptype w s).fit hw hsup hactive)
          · exact hsame
        · exact hsame
      · split
        · exact hsome _ (cleanDefaultRoute_fit hw ‹_› s)
        · exact hsame
  | upstreamRouteDel index iptype indexTether =>
      rw [eventCallback]
      split
      · rename_i hown
        dsimp only
        split
        · exact hsame
        · exact hsome _ (cleanDefaultRoute_fit hw hown.2 _)
      · exact hsame
  | routeAdd index data =>
      rw [eventCallback]
      split
      · exact hsame
      · split
        · split
          · rename_i hidle
            exact hsome _ ((handleRouteAddEvt_cases data.iptype w s).fit hw hidle.2 hidle.1)
          · exact hsame
        · split
          · exact hsome _ (cleanDefaultRoute_fit hw ‹_› s)
          · exact hsame
  | routeDel index data =>
      rw [eventCallback]
      split
      · rename_i hown
        exact hsome _ (cleanDefaultRoute_fit hw hown.2.2 s)
      · exact hsame
  | neighClientIpAddrAdd index data validMac =>
      rw [eventCallback]
      split
      · obtain ⟨x, hfirst, hsecond⟩ := handleNeighAddEvt_cases data validMac w s
        exact hsome _ (hsecond.fit (hfirst.fit hw))
      · exact hsame
  | firewallChange => exact hsame

/-- What the constructor sets for good. -/
def kind (w : Wan) : Int × WanIfaceType := (w.ipaIfNum, w.mIsStaMode)

end Wan

theorem RouteAdded.kind {iptype : IpType} {w : Wan} {s : Static} {r : Wan × Static}
    (h : RouteAdded iptype w s r) : r.1.kind = w.kind := by
  cases h <;> rfl

theorem Replayed.kind {iptype : IpType} {x y : Wan × Static} (h : Replayed iptype x y) :
    y.1.kind = x.1.kind := by
  rcases h with ⟨-, rfl⟩ | ⟨-, hadd⟩
  · rfl
  · exact hadd.kind

theorem Wan.withFullHeader_kind (f : IpType) (w : Wan) : (w.withFullHeader f).kind = w.kind := by
  rw [withFullHeader]
  split <;> rfl

theorem HeaderAdded.kind {w : Wan} {s : Static} {r : Wan × Static} (h : HeaderAdded w s r) :
    r.1.kind = w.kind := by
  cases h with
  | already => rfl
  | added _ hv4 hv6 =>
      rw [hv6.kind, hv4.kind, Wan.withFullHeader_kind, Wan.withFullHeader_kind]

namespace Wan

theorem cleanDefaultRoute_kind (iptype : IpType) (w : Wan) (s : Static) :
    (w.cleanDefaultRoute .succeeding iptype s).1.kind = w.kind := by
  have hdel : ∀ s, (w.routeDel true iptype s).1.kind = w.kind := by
    intro s
    rw [routeDel]
    split
    · rfl
    · dsimp only
      split <;> rfl
  rw [cleanDefaultRoute]
  split
  · exact hdel _
  · exact hdel _

theorem eventCallback_kind {e : Event} {w w' : Wan} {s : Static}
    (h : (w.eventCallback .succeeding e s).1 = some w') : w'.kind = w.kind := by
  suffices hall : ∀ w' ∈ (w.eventCallback .succeeding e s).1, w'.kind = w.kind from hall w' h
  have hsome : ∀ w₁ : Wan, w₁.kind = w.kind → ∀ w' ∈ some w₁, w'.kind = w.kind :=
    fun w₁ h₁ w' hw' => Option.some.inj hw' ▸ h₁
  have hnone : ∀ w' ∈ (none : Option Wan), w'.kind = w.kind := fun _ hw' => by cases hw'
  have hsame := hsome w rfl
  cases e with
  | wlanLinkDown index =>
      rw [eventCallback]
      split
      · exact hnone
      · exact hsame
  | linkDown index =>
      rw [eventCallback]
      split
      · split
        · exact hnone
        · exact hsame
      · exact hnone
      · exact hsame
  | addrAdd index data =>
      rw [eventCallback]
      split
      · obtain ⟨t, v4, l, p, n, heq, -⟩ := handleAddrEvt_eq .succeeding data w
        rw [heq]
        exact hsome _ rfl
      · exact hsame
  | upstreamRouteAdd index iptype indexTether =>
      rw [eventCallback]
      split
      · split
        · rcases w.active.get iptype with _ | _
          · exact hsome _ (handleRouteAddEvt_cases iptype w s).kind
          · exact hsame
        · exact hsame
      · split
        · exact hsome _ (cleanDefaultRoute_kind iptype w s)
        · exact hsame
  | upstreamRouteDel index iptype indexTether =>
      rw [eventCallback]
      split
      · dsimp only
        split
        · exact hsame
        · exact hsome _ (cleanDefaultRoute_kind iptype w _)
      · exact hsame
  | routeAdd index data =>
      rw [eventCallback]
      split
      · exact hsame
      · split
        · split
          · exact hsome _ (handleRouteAddEvt_cases data.iptype w s).kind
          · exact hsame
        · split
          · exact hsome _ (cleanDefaultRoute_kind data.iptype w s)
          · exact hsame
  | routeDel index data =>
      rw [eventCallback]
      split
      · exact hsome _ (cleanDefaultRoute_kind data.iptype w s)
      · exact hsame
  | neighClientIpAddrAdd index data validMac =>
      rw [eventCallback]
      split
      · obtain ⟨x, hfirst, hsecond⟩ := handleNeighAddEvt_cases data validMac w s
        exact hsome _ (hsecond.kind.trans hfirst.kind)
      · exact hsame
  | firewallChange => exact hsame

end Wan

end LibraDevice.Backhaul
