import LibraDevice.Backhaul.Flags

/-!
One WAN interface among the others: its active families against the default routes that
are added and deleted for it, and `is_default_gateway` against both.
-/

namespace LibraDevice.Backhaul

open StepRun

/-- The family whose default route is deleted. -/
def Event.deletes : Event → Option IpType
  | .upstreamRouteDel _ iptype _ => some iptype
  | .routeDel _ data => if data.isDefault then some data.iptype else none
  | _ => none

/-- The family that a firewall operation sets up. -/
def FirewallOp.configures : FirewallOp → Option IpType
  | .configWanFirewallRule iptype => some iptype
  | .configDftFirewallRules iptype => some iptype
  | _ => none

/-- The tethered interfaces with an upstream route through the interface, as the events
have it. -/
def tetheredAfter (tethered : IpType → List Int) (e : Event) (own : Bool) (f : IpType) :
    List Int :=
  match own, e with
  | true, .upstreamRouteAdd _ iptype t =>
      if iptype = f then (tethered f).insert t else tethered f
  | true, .upstreamRouteDel _ iptype t =>
      if iptype = f then (tethered f).filter (· ≠ t) else tethered f
  | _, _ => tethered f

/-- An instance, the static members, the tethered interfaces, and the families for which a
default route of this interface has been deleted since the last add, leaving no tethered
interface. -/
structure Watch where
  wan : Wan
  static : Static
  tethered : IpType → List Int
  noRoute : IpType → Bool

/-- A tethered interface is left, in the table and in fact. -/
def tethersLeft (s : Static) (tethered : IpType → List Int) (f : IpType) : Bool :=
  !(s.ipaIfNumTether.get f).isEmpty && !(tethered f).isEmpty

def noRouteAfter (noRoute : IpType → Bool) (e : Event) (own : Bool) (left : IpType → Bool)
    (f : IpType) : Bool :=
  if own && e.adds = some f then false
  else if own && e.deletes = some f && !left f then true
  else noRoute f

/-- An event reaches the instance, or others have changed the static members. -/
inductive Input where
  | event (io : Io) (e : Event)
  | others (s : Static)

def Watch.Step (x : Watch) : Input → Watch → Prop
  | .event io e, y =>
      x.wan.eventCallback io e x.static = (some y.wan, y.static) ∧
        y.tethered = tetheredAfter x.tethered e (e.index = x.wan.ipaIfNum) ∧
          y.noRoute = noRouteAfter x.noRoute e (e.index = x.wan.ipaIfNum)
            (tethersLeft y.static y.tethered)
  | .others s, y => y = { x with static := s }

/-- The condition on one event. -/
structure Watch.Fits (x : Watch) (e : Event) : Prop where
  /-- A modem takes a route for its only family, with a complete header. -/
  modemAdd : ∀ f, e.adds = some f → e.index = x.wan.ipaIfNum → x.wan.isSta = false →
    x.wan.txProp ≠ none → x.wan.active.get f = false → x.wan.ipType.supports f = true →
      x.wan.completesRoute f = true ∧ ∀ g, x.wan.ipType.supports g = true → g = f
  /-- A modem that is the default gateway gets no address of a new family. -/
  modemAddr : ∀ index data, e = .addrAdd index data → index = x.wan.ipaIfNum →
    x.wan.isSta = false → x.wan.isDefaultGateway = true →
      x.wan.ipType.supports data.iptype = true
  /-- A route is taken down, here or by a route elsewhere, while the other family has none. -/
  alone : ∀ f, x.wan.active.get f = true →
    (e.adds = some f ∧ e.index ≠ x.wan.ipaIfNum ∨
      e.deletes = some f ∧ e.index = x.wan.ipaIfNum ∧
        ∀ index t, e = .upstreamRouteDel index f t → (x.static.ipaIfNumTether.get f).erase t = []) →
    ∀ g, g ≠ f → x.wan.active.get g = false ∧ x.wan.headerPartialDefaultWan.get g = false
  /-- The last route is not deleted while its add waits for the header. -/
  waiting : ∀ f, e.deletes = some f → e.index = x.wan.ipaIfNum →
    x.wan.headerPartialDefaultWan.get f = true →
      tethersLeft x.static (tetheredAfter x.tethered e true) f = true
  /-- Where the last tethered interface goes, the table has no other entry. -/
  lastTether : ∀ index f t, e = .upstreamRouteDel index f t → index = x.wan.ipaIfNum →
    x.wan.active.get f = true → (x.tethered f).filter (· ≠ t) = [] →
      (x.static.ipaIfNumTether.get f).erase t = []

def Input.Fits (x : Watch) : Input → Prop
  | .event io e => io = .succeeding ∧ x.Fits e
  | .others _ => True

/-- An active or waiting family has its route, the gateway flag says that there is one, and
a modem that is the gateway is so for all its families. -/
structure Keeps (noRoute : IpType → Bool) (w : Wan) : Prop where
  fit : w.Fit
  route : ∀ f, (w.active.get f || w.headerPartialDefaultWan.get f) = true → noRoute f = false
  gateway : w.isDefaultGateway = true ↔
    ∃ f, (w.active.get f || w.headerPartialDefaultWan.get f) = true
  modem : w.isSta = false → ∀ f, w.headerPartialDefaultWan.get f = false ∧
    (w.active.get f = true → ∀ g, w.ipType.supports g = true → w.active.get g = true)

theorem RouteAdded.keeps {iptype : IpType} {w : Wan} {s : Static} {r : Wan × Static}
    (h : RouteAdded iptype w s r) {noRoute : IpType → Bool} (hk : Keeps noRoute w)
    (hsup : w.ipType.supports iptype = true) (hidle : w.active.get iptype = false)
    (hroute : noRoute iptype = false)
    (hmodem : w.isSta = false → w.txProp ≠ none → w.completesRoute iptype = true ∧
      ∀ g, w.ipType.supports g = true → g = iptype) : Keeps noRoute r.1 := by
  have hfit := h.fit hk.fit hsup hidle
  cases h with
  | ignored => exact hk
  | failed htx hfails hsta =>
      rcases hkind : w.isSta with _ | _
      · exact absurd (hfails.symm.trans (hmodem hkind htx).1) Bool.false_ne_true
      · obtain ⟨hset, hno⟩ := hsta hkind
        exact absurd (hno.symm.trans (hk.fit.header iptype hset)) Bool.false_ne_true
  | waits htx hfails =>
      refine ⟨hfit, fun g hg => ?_, ?_, fun hkind => ?_⟩
      · rcases eq_or_ne g iptype with rfl | hne
        · exact hroute
        · apply hk.route g
          simpa [Wan.waiting, Wan.asGateway, hne] using hg
      · refine iff_of_true rfl ⟨iptype, ?_⟩
        simp [Wan.waiting]
      · exact absurd (hfails.symm.trans (hmodem hkind htx).1) Bool.false_ne_true
  | up htx hcompletes =>
      refine ⟨hfit, fun g hg => ?_, ?_, fun hkind g => ⟨?_, fun _ g' hg' => ?_⟩⟩
      · rcases eq_or_ne g iptype with rfl | hne
        · exact hroute
        · apply hk.route g
          simpa [Wan.routeUp, Wan.waiting, Wan.asGateway, hne] using hg
      · refine iff_of_true rfl ⟨iptype, ?_⟩
        simp [Wan.routeUp]
      · rcases eq_or_ne g iptype with rfl | hne
        · simp [Wan.routeUp, Wan.waiting]
        · simpa [Wan.routeUp, Wan.waiting, Wan.asGateway, hne] using (hk.modem hkind g).1
      · rw [(hmodem hkind htx).2 g' hg']
        simp [Wan.routeUp]

theorem Replayed.keeps {iptype : IpType} {x y : Wan × Static} (h : Replayed iptype x y)
    {noRoute : IpType → Bool} (hk : Keeps noRoute x.1) : Keeps noRoute y.1 := by
  rcases h with ⟨-, rfl⟩ | ⟨hwaits, hadd⟩
  · exact hk
  · have hor : (x.1.active.get iptype || x.1.headerPartialDefaultWan.get iptype) = true := by
      rw [hwaits, Bool.or_true]
    refine hadd.keeps hk (hk.fit.supports iptype hor) (hk.fit.idle iptype hwaits)
      (hk.route iptype hor) fun hkind _ => ?_
    exact absurd ((hk.modem hkind iptype).1.symm.trans hwaits) Bool.false_ne_true

theorem Wan.withFullHeader_eq (f : IpType) (w : Wan) :
    ∃ set txs, w.withFullHeader f = { w with headerSet := set, txProp := txs } := by
  rw [withFullHeader]
  split
  · exact ⟨_, _, rfl⟩
  · exact ⟨_, _, rfl⟩

theorem Wan.withFullHeader_keeps {noRoute : IpType → Bool} {w : Wan} (hk : Keeps noRoute w)
    (f : IpType) : Keeps noRoute (w.withFullHeader f) := by
  have hfit := withFullHeader_fit hk.fit f
  obtain ⟨set, txs, heq⟩ := withFullHeader_eq f w
  rw [heq] at hfit ⊢
  exact ⟨hfit, hk.route, hk.gateway, hk.modem⟩

theorem HeaderAdded.keeps {w : Wan} {s : Static} {r : Wan × Static} (h : HeaderAdded w s r)
    {noRoute : IpType → Bool} (hk : Keeps noRoute w) : Keeps noRoute r.1 := by
  cases h with
  | already => exact hk
  | added _ hv4 hv6 =>
      exact hv6.keeps (hv4.keeps (Wan.withFullHeader_keeps (Wan.withFullHeader_keeps hk .v4) .v6))

namespace Wan

theorem cleanDefaultRoute_keeps {w : Wan} (hw : w.Fit) {iptype : IpType}
    (hactive : w.active.get iptype = true)
    (halone : ∀ g, g ≠ iptype → w.active.get g = false ∧ w.headerPartialDefaultWan.get g = false)
    (noRoute : IpType → Bool) (s : Static) :
    Keeps noRoute (w.cleanDefaultRoute .succeeding iptype s).1 := by
  have hfit := cleanDefaultRoute_fit hw hactive s
  obtain ⟨ops, heq⟩ := cleanDefaultRoute_eq hactive (hw.tx_of_active hactive) s
  rw [heq] at hfit ⊢
  have hwaits : ∀ g, w.headerPartialDefaultWan.get g = false := by
    intro g
    rcases eq_or_ne g iptype with rfl | hne
    · apply Bool.eq_false_iff.mpr
      intro hg
      exact Bool.false_ne_true ((hw.idle g hg).symm.trans hactive)
    · exact (halone g hne).2
  have hidle : ∀ g, (w.active.set false iptype).get g = false := by
    intro g
    rcases eq_or_ne g iptype with rfl | hne
    · simp
    · simp [hne, (halone g hne).1]
  have hnone : ∀ g,
      ((w.active.set false iptype).get g || w.headerPartialDefaultWan.get g) ≠ true := by
    intro g
    rw [hidle g, hwaits g]
    exact Bool.false_ne_true
  refine ⟨hfit, fun g hg => absurd hg (hnone g), ?_, fun _ g => ⟨hwaits g, fun hg => ?_⟩⟩
  · exact iff_of_false Bool.false_ne_true fun ⟨g, hg⟩ => hnone g hg
  · exact absurd ((hidle g).symm.trans hg) Bool.false_ne_true

theorem handleAddrEvt_keeps {noRoute : IpType → Bool} {w : Wan} (hk : Keeps noRoute w) (io : Io)
    {data : EventDataAddr} (hmodem : w.isSta = false → w.isDefaultGateway = true →
      w.ipType.supports data.iptype = true) : Keeps noRoute (w.handleAddrEvt io data) := by
  have hfit := handleAddrEvt_fit hk.fit io data
  obtain ⟨t, v4, l, p, n, heq, htype⟩ := handleAddrEvt_eq io data w
  rw [heq] at hfit ⊢
  refine ⟨hfit, hk.route, hk.gateway, fun hkind f => ⟨(hk.modem hkind f).1, fun hf g hg => ?_⟩⟩
  apply (hk.modem hkind f).2 hf g
  rcases htype with rfl | rfl
  · exact hg
  · change (w.ipType.add data.iptype).supports g = true at hg
    rw [IfaceIpType.supports_add] at hg
    rcases Bool.or_eq_true_iff.mp hg with hg | hg
    · exact hg
    · rw [of_decide_eq_true hg]
      apply hmodem hkind
      exact hk.gateway.mpr ⟨f, by rw [show w.active.get f = true from hf, Bool.true_or]⟩

end Wan

theorem Keeps.mono {noRoute noRoute' : IpType → Bool} {w : Wan} (hk : Keeps noRoute w)
    (h : ∀ f, (w.active.get f || w.headerPartialDefaultWan.get f) = true → noRoute' f = false) :
    Keeps noRoute' w :=
  ⟨hk.fit, h, hk.gateway, hk.modem⟩

theorem noRouteAfter_of_adds {noRoute : IpType → Bool} {e : Event} {own : Bool}
    {left : IpType → Bool} {f : IpType} (hadds : e.adds = some f) (hown : own = true) :
    noRouteAfter noRoute e own left f = false := by
  rw [noRouteAfter, hown, hadds]
  simp

theorem noRouteAfter_eq_false {noRoute : IpType → Bool} {e : Event} {own : Bool}
    {left : IpType → Bool} {f : IpType} (h : noRoute f = false)
    (hdel : own = true → e.deletes = some f → left f = true) :
    noRouteAfter noRoute e own left f = false := by
  rw [noRouteAfter]
  split
  · rfl
  · rw [if_neg, h]
    intro hlast
    simp only [Bool.and_eq_true, decide_eq_true_eq, Bool.not_eq_true'] at hlast
    exact Bool.false_ne_true (hlast.2.symm.trans (hdel hlast.1.1 hlast.1.2))

theorem Wan.postWanDownTetherEvt_tethers (f : IpType) (t : Int) (w : Wan) (s : Static) :
    (w.postWanDownTetherEvt f t s).ipaIfNumTether.get f = (s.ipaIfNumTether.get f).erase t := by
  rw [postWanDownTetherEvt]
  split
  · simp
  · exact (List.erase_of_not_mem ‹_›).symm

theorem keeps_some {noRoute : IpType → Bool} {w : Wan} (hk : Keeps noRoute w) :
    ∀ w' ∈ some w, Keeps noRoute w' :=
  fun _ hw' => Option.some.inj hw' ▸ hk

theorem keeps_none {noRoute : IpType → Bool} : ∀ w' ∈ (none : Option Wan), Keeps noRoute w' :=
  fun _ hw' => by cases hw'

/-- The instance stays as it is, and a deletion that reaches it leaves a tethered
interface. -/
theorem Keeps.stays {noRoute : IpType → Bool} {w : Wan} (hk : Keeps noRoute w) {e : Event}
    {left : IpType → Bool}
    (hdel : ∀ f, (w.active.get f || w.headerPartialDefaultWan.get f) = true →
      e.index = w.ipaIfNum → e.deletes = some f → left f = true) :
    Keeps (noRouteAfter noRoute e (e.index = w.ipaIfNum) left) w := by
  refine hk.mono fun f hf => noRouteAfter_eq_false (hk.route f hf) fun hown => ?_
  exact hdel f hf (of_decide_eq_true hown)

theorem Keeps.stays_of_none {noRoute : IpType → Bool} {w : Wan} (hk : Keeps noRoute w)
    {e : Event} {left : IpType → Bool} (hno : e.deletes = none) :
    Keeps (noRouteAfter noRoute e (e.index = w.ipaIfNum) left) w := by
  refine hk.stays fun f _ _ hdel => ?_
  rw [hno] at hdel
  cases hdel

/-- What the event leaves of the instance keeps to the routes. -/
def Watch.KeptBy (x : Watch) (e : Event) : Prop :=
  ∀ w' ∈ (x.wan.eventCallback .succeeding e x.static).1,
    Keeps (noRouteAfter x.noRoute e (e.index = x.wan.ipaIfNum)
      (tethersLeft (x.wan.eventCallback .succeeding e x.static).2
        (tetheredAfter x.tethered e (e.index = x.wan.ipaIfNum)))) w'

theorem keptBy_upstreamRouteAdd {x : Watch} {index : Int} {iptype : IpType} {indexTether : Int}
    (hk : Keeps x.noRoute x.wan)
    (hfits : x.Fits (.upstreamRouteAdd index iptype indexTether)) :
    x.KeptBy (.upstreamRouteAdd index iptype indexTether) := by
  obtain ⟨w, s, tethered, noRoute⟩ := x
  obtain ⟨hmodemAdd, -, halone, -, -⟩ := hfits
  dsimp only [Watch.KeptBy] at hk hmodemAdd halone ⊢
  rw [Wan.eventCallback]
  split
  · rename_i hindex
    split
    · rename_i hsup
      rcases hactive : w.active.get iptype with _ | _
      · apply keeps_some
        exact (Wan.handleRouteAddEvt_cases iptype w s).keeps (hk.stays_of_none rfl) hsup hactive
          (noRouteAfter_of_adds rfl (decide_eq_true hindex))
          fun hkind htx => hmodemAdd iptype rfl hindex hkind htx hactive hsup
      · exact keeps_some (hk.stays_of_none rfl)
    · exact keeps_some (hk.stays_of_none rfl)
  · rename_i hindex
    split
    · rename_i hactive
      apply keeps_some
      exact Wan.cleanDefaultRoute_keeps hk.fit hactive
        (halone iptype hactive (Or.inl ⟨rfl, hindex⟩)) _ s
    · exact keeps_some (hk.stays_of_none rfl)

theorem keptBy_upstreamRouteDel {x : Watch} {index : Int} {iptype : IpType} {indexTether : Int}
    (hk : Keeps x.noRoute x.wan)
    (hfits : x.Fits (.upstreamRouteDel index iptype indexTether)) :
    x.KeptBy (.upstreamRouteDel index iptype indexTether) := by
  obtain ⟨w, s, tethered, noRoute⟩ := x
  obtain ⟨-, -, halone, hwaiting, hlast⟩ := hfits
  dsimp only [Watch.KeptBy] at hk halone hwaiting hlast ⊢
  rw [Wan.eventCallback]
  split
  · rename_i hown
    have htethers := Wan.postWanDownTetherEvt_tethers iptype indexTether w s
    dsimp only
    split
    · rename_i hleft
      apply keeps_some
      apply hk.stays
      intro f _ _ hdel
      obtain rfl := Option.some.inj hdel
      rw [tethersLeft, Bool.and_eq_true, Bool.not_eq_true', Bool.not_eq_true',
        List.isEmpty_eq_false_iff, List.isEmpty_eq_false_iff]
      refine ⟨hleft, fun hnone => hleft ?_⟩
      rw [htethers]
      apply hlast index _ indexTether rfl hown.1 hown.2
      simpa [tetheredAfter, Event.index, hown.1] using hnone
    · rename_i hleft
      apply keeps_some
      refine Wan.cleanDefaultRoute_keeps hk.fit hown.2 (halone iptype hown.2
        (Or.inr ⟨rfl, hown.1, ?_⟩)) _ _
      rintro i t heq
      cases heq
      rw [← htethers]
      exact not_ne_iff.mp hleft
  · rename_i hother
    apply keeps_some
    apply hk.stays
    intro f hf hindex hdel
    obtain rfl := Option.some.inj hdel
    rcases Bool.or_eq_true_iff.mp hf with hf | hf
    · exact absurd ⟨hindex, hf⟩ hother
    · rw [decide_eq_true hindex]
      exact hwaiting _ rfl hindex hf

theorem keptBy_routeAdd {x : Watch} {index : Int} {data : EventDataAddr}
    (hk : Keeps x.noRoute x.wan) (hfits : x.Fits (.routeAdd index data)) :
    x.KeptBy (.routeAdd index data) := by
  obtain ⟨w, s, tethered, noRoute⟩ := x
  obtain ⟨hmodemAdd, -, halone, -, -⟩ := hfits
  dsimp only [Watch.KeptBy] at hk hmodemAdd halone ⊢
  rw [Wan.eventCallback]
  split
  · exact keeps_some (hk.stays_of_none rfl)
  · rename_i hdefault
    have hadds : (Event.routeAdd index data).adds = some data.iptype := by
      rw [Event.adds, if_pos (Bool.not_eq_false _ ▸ hdefault)]
    split
    · rename_i hindex
      split
      · rename_i hidle
        apply keeps_some
        exact (Wan.handleRouteAddEvt_cases data.iptype w s).keeps (hk.stays_of_none rfl)
          hidle.2 hidle.1 (noRouteAfter_of_adds hadds (decide_eq_true hindex))
          fun hkind htx => hmodemAdd _ hadds hindex hkind htx hidle.1 hidle.2
      · exact keeps_some (hk.stays_of_none rfl)
    · rename_i hindex
      split
      · rename_i hactive
        apply keeps_some
        exact Wan.cleanDefaultRoute_keeps hk.fit hactive
          (halone _ hactive (Or.inl ⟨hadds, hindex⟩)) _ s
      · exact keeps_some (hk.stays_of_none rfl)

theorem keptBy_routeDel {x : Watch} {index : Int} {data : EventDataAddr}
    (hk : Keeps x.noRoute x.wan) (hfits : x.Fits (.routeDel index data)) :
    x.KeptBy (.routeDel index data) := by
  obtain ⟨w, s, tethered, noRoute⟩ := x
  obtain ⟨-, -, halone, hwaiting, -⟩ := hfits
  dsimp only [Watch.KeptBy] at hk halone hwaiting ⊢
  rw [Wan.eventCallback]
  split
  · rename_i hown
    apply keeps_some
    refine Wan.cleanDefaultRoute_keeps hk.fit hown.2.2 (halone _ hown.2.2
      (Or.inr ⟨?_, hown.1, fun _ _ heq => by cases heq⟩)) _ s
    rw [Event.deletes, if_pos hown.2.1]
  · rename_i hother
    apply keeps_some
    apply hk.stays
    intro f hf hindex hdel
    rw [Event.deletes] at hdel
    split at hdel
    · rename_i hdefault
      obtain rfl := Option.some.inj hdel
      rcases Bool.or_eq_true_iff.mp hf with hf | hf
      · exact absurd ⟨hindex, hdefault, hf⟩ hother
      · rw [decide_eq_true hindex]
        apply hwaiting _ _ hindex hf
        rw [Event.deletes, if_pos hdefault]
    · cases hdel

theorem eventCallback_keeps {x : Watch} {e : Event} (hk : Keeps x.noRoute x.wan)
    (hfits : x.Fits e) : x.KeptBy e := by
  cases e with
  | upstreamRouteAdd => exact keptBy_upstreamRouteAdd hk hfits
  | upstreamRouteDel => exact keptBy_upstreamRouteDel hk hfits
  | routeAdd => exact keptBy_routeAdd hk hfits
  | routeDel => exact keptBy_routeDel hk hfits
  | wlanLinkDown index =>
      rw [Watch.KeptBy, Wan.eventCallback]
      split
      · exact keeps_none
      · exact keeps_some (hk.stays_of_none rfl)
  | linkDown index =>
      rw [Watch.KeptBy, Wan.eventCallback]
      split
      · split
        · exact keeps_none
        · exact keeps_some (hk.stays_of_none rfl)
      · exact keeps_none
      · exact keeps_some (hk.stays_of_none rfl)
  | addrAdd index data =>
      rw [Watch.KeptBy, Wan.eventCallback]
      split
      · rename_i hown
        exact keeps_some (Wan.handleAddrEvt_keeps (hk.stays_of_none rfl) .succeeding
          (hfits.modemAddr index data rfl hown.1))
      · exact keeps_some (hk.stays_of_none rfl)
  | neighClientIpAddrAdd index data validMac =>
      rw [Watch.KeptBy, Wan.eventCallback]
      split
      · obtain ⟨y, hfirst, hsecond⟩ := Wan.handleNeighAddEvt_cases data validMac x.wan x.static
        exact keeps_some (hsecond.keeps (hfirst.keeps (hk.stays_of_none rfl)))
      · exact keeps_some (hk.stays_of_none rfl)
  | firewallChange => exact keeps_some (hk.stays_of_none rfl)

theorem Wan.handleFirewallChange_configures (w : Wan) :
    w.handleFirewallChange.filterMap FirewallOp.configures = w.firewallFamilies := by
  have hsta : ∀ l : List IpType, (l.flatMap fun f =>
      [FirewallOp.delDftFirewallRules f, .configDftFirewallRules f]).filterMap
        FirewallOp.configures = l := by
    intro l
    induction l with
    | nil => rfl
    | cons f l ih => rw [List.flatMap_cons, List.filterMap_append, ih]; rfl
  have hmodem : ∀ l : List IpType, (l.flatMap fun f =>
      [FirewallOp.delWanFirewallRule f, .configWanFirewallRule f]).filterMap
        FirewallOp.configures = l := by
    intro l
    induction l with
    | nil => rfl
    | cons f l ih => rw [List.flatMap_cons, List.filterMap_append, ih]; rfl
  rw [handleFirewallChange]
  split
  · exact hsta _
  · split
    · rename_i hempty
      exact hempty.symm
    · rw [List.filterMap_append, hmodem]
      exact List.append_nil _

theorem Keeps.firewallFamilies {noRoute : IpType → Bool} {w : Wan} (hk : Keeps noRoute w) :
    w.firewallFamilies = [IpType.v4, IpType.v6].filter w.active.get := by
  rw [Wan.firewallFamilies]
  split
  · rfl
  · rename_i hkind
    have hmodem := hk.modem (Bool.eq_false_iff.mpr hkind)
    split
    · rename_i hgateway
      obtain ⟨f, hf⟩ := hk.gateway.mp hgateway
      rw [(hmodem f).1, Bool.or_false] at hf
      apply List.filter_congr
      intro g _
      apply Bool.eq_iff_iff.mpr
      exact ⟨fun hg => (hmodem f).2 hf g hg, fun hg => hk.fit.supports_of_active hg⟩
    · rename_i hgateway
      symm
      apply List.filter_eq_nil_iff.mpr
      intro g _ hg
      exact hgateway (hk.gateway.mpr ⟨g, by rw [hg, Bool.true_or]⟩)

/-- What the claim about one interface says of a state. -/
structure RoutesTrue (x : Watch) : Prop where
  route : ∀ f, x.wan.active.get f = true → x.noRoute f = false
  gateway : x.wan.isDefaultGateway = true ↔
    ∃ f, x.wan.active.get f = true ∨ x.wan.headerPartialDefaultWan.get f = true
  firewall : x.wan.handleFirewallChange.filterMap FirewallOp.configures =
    [IpType.v4, IpType.v6].filter x.wan.active.get

/-- A constructed instance, with `is_default_gateway` clear. -/
structure Watch.Starts (x : Watch) : Prop where
  constructed : x.wan.Constructed
  gateway : x.wan.isDefaultGateway = false
  noRoute : ∀ f, x.noRoute f = false

theorem Watch.Starts.keeps {x : Watch} (h : x.Starts) : Keeps x.noRoute x.wan := by
  have hnone : ∀ f, (x.wan.active.get f || x.wan.headerPartialDefaultWan.get f) = false := by
    intro f
    rw [h.constructed.active, h.constructed.headerPartialDefaultWan]
    cases f <;> rfl
  refine ⟨h.constructed.fit, fun f _ => h.noRoute f, ?_, fun _ f => ⟨?_, fun hf => ?_⟩⟩
  · rw [h.gateway]
    exact iff_of_false Bool.false_ne_true fun ⟨f, hf⟩ =>
      Bool.false_ne_true ((hnone f).symm.trans hf)
  · exact (Bool.or_eq_false_iff.mp (hnone f)).2
  · rw [(Bool.or_eq_false_iff.mp (hnone f)).1] at hf
    cases hf

/-- In every run of fit events, an interface is active only while it has a default route,
`is_default_gateway` says whether it has one or waits for its header, and a change of the
firewall reaches the active families. -/
theorem routesTrue_of_run (start : Watch) (inputs : List Input) (x : Watch) (hstart : start.Starts)
    (hrun : Run (Guarded (fun x input => input.Fits x) Watch.Step) start inputs x) :
    RoutesTrue x := by
  have hk : Keeps x.noRoute x.wan := by
    refine hrun.invariant (I := fun x => Keeps x.noRoute x.wan) hstart.keeps ?_
    rintro x input y hk ⟨hfits, hstep⟩
    cases input with
    | event io e =>
        obtain ⟨rfl, hfits⟩ := hfits
        obtain ⟨hcall, htethered, hnoRoute⟩ := hstep
        have hkeeps := eventCallback_keeps hk hfits
        rw [Watch.KeptBy, hcall] at hkeeps
        rw [hnoRoute, htethered]
        exact hkeeps y.wan rfl
    | others s =>
        rw [show y = { x with static := s } from hstep]
        exact hk
  refine ⟨fun f hf => hk.route f (by rw [hf, Bool.true_or]), ?_, ?_⟩
  · rw [hk.gateway]
    exact exists_congr fun f => Bool.or_eq_true_iff
  · rw [Wan.handleFirewallChange_configures, hk.firewallFamilies]

/-- The instance after an event that leaves it. -/
def Watch.next (x : Watch) (e : Event) : Watch :=
  let r := x.wan.eventCallback .succeeding e x.static
  let own := decide (e.index = x.wan.ipaIfNum)
  let tethered := tetheredAfter x.tethered e own
  ⟨r.1.getD x.wan, r.2, tethered,
    noRouteAfter x.noRoute e own (tethersLeft r.2 tethered)⟩

theorem Watch.run_next {ok : Watch → Input → Prop} {start x : Watch} {inputs : List Input}
    {e : Event} (h : Run (Guarded ok Watch.Step) start inputs x)
    (hok : ok x (.event .succeeding e))
    (hleft : (x.wan.eventCallback .succeeding e x.static).1.isSome = true) :
    Run (Guarded ok Watch.Step) start (inputs ++ [.event .succeeding e]) (x.next e) := by
  obtain ⟨w, hw⟩ := Option.isSome_iff_exists.mp hleft
  refine h.snoc ⟨hok, Prod.ext ?_ rfl, rfl, rfl⟩
  rw [Watch.next, hw]
  rfl

theorem fits_of_isSta {x : Watch} {e : Event} (hsta : x.wan.isSta = true)
    (halone : ∀ f, x.wan.active.get f = true → ∀ g, g ≠ f →
      x.wan.active.get g = false ∧ x.wan.headerPartialDefaultWan.get g = false)
    (hwaiting : ∀ f, e.deletes = some f → x.wan.headerPartialDefaultWan.get f = false)
    (hup : ∀ index f t, e ≠ .upstreamRouteDel index f t) : x.Fits e := by
  refine ⟨fun _ _ _ hmodem => ?_, fun _ _ _ _ hmodem => ?_, fun f hf _ => halone f hf,
    fun f hf _ hwaits => ?_, fun index f t heq => absurd heq (hup index f t)⟩
  · exact absurd (hmodem.symm.trans hsta) Bool.false_ne_true
  · exact absurd (hmodem.symm.trans hsta) Bool.false_ne_true
  · exact absurd ((hwaiting f hf).symm.trans hwaits) Bool.false_ne_true

/-- A station with a header for IPv4 that is not complete. -/
def station : Wan :=
  { modem 3 "wlan0" with
    mIsStaMode := .wlanWan
    txProp := some [⟨.v4, true⟩] }

def Watch.start (w : Wan) : Watch := ⟨w, .init, fun _ => [], fun _ => false⟩

/-- The route waits for the header, comes up with it and goes again. -/
def routed : Watch :=
  ((((Watch.start station).next (.addrAdd 3 (hostAddr .v4))).next
    (.routeAdd 3 (defaultRoute .v4))).next
      (.neighClientIpAddrAdd 3 (hostAddr .v6) true)).next (.routeDel 3 (defaultRoute .v4))

theorem routesTrue_routed : RoutesTrue routed := by
  refine routesTrue_of_run (Watch.start station) _ routed
    ⟨⟨rfl, rfl, rfl, rfl, rfl, rfl, fun _ => rfl⟩, rfl, fun _ => rfl⟩
    (Watch.run_next (Watch.run_next (Watch.run_next (Watch.run_next .nil
      ⟨rfl, ?_⟩ rfl) ⟨rfl, ?_⟩ rfl) ⟨rfl, ?_⟩ rfl) ⟨rfl, ?_⟩ rfl)
  all_goals exact fits_of_isSta rfl (by decide) (by decide) fun _ _ _ h => by cases h

/-- The states a constructed instance reaches while the driver calls succeed. -/
def Watch.Reached (x : Watch) : Prop :=
  ∃ w inputs, w.Constructed ∧ w.isDefaultGateway = false ∧ w.txProp ≠ none ∧
    Run (Guarded (fun _ input => ∃ e, input = .event .succeeding e) Watch.Step)
      (Watch.start w) inputs x

theorem Watch.Reached.next {x : Watch} (h : x.Reached) {e : Event}
    (hleft : (x.wan.eventCallback .succeeding e x.static).1.isSome = true) :
    (x.next e).Reached := by
  obtain ⟨w, inputs, hw, hgateway, htx, hrun⟩ := h
  exact ⟨w, _, hw, hgateway, htx, Watch.run_next hrun ⟨e, rfl⟩ hleft⟩

/-- The route is deleted while its add waits, and comes up with the header. -/
def stale : Watch :=
  ((((Watch.start station).next (.addrAdd 3 (hostAddr .v4))).next
    (.routeAdd 3 (defaultRoute .v4))).next (.routeDel 3 (defaultRoute .v4))).next
      (.neighClientIpAddrAdd 3 (hostAddr .v6) true)

/-- A modem with addresses of both families and an IPv4 route. -/
def halfRouted : Watch :=
  (((Watch.start (modem 1 "rmnet_data0")).next (.addrAdd 1 (hostAddr .v4))).next
    (.addrAdd 1 (hostAddr .v6))).next (.routeAdd 1 (defaultRoute .v4))

/-- It gets an IPv6 route and loses the other. -/
def unrouted : Watch :=
  (halfRouted.next (.routeAdd 1 (defaultRoute .v6))).next (.routeDel 1 (defaultRoute .v4))

/-- An interface is active without a route, or active and no default gateway; or a change
of the firewall sets up a family that is not active. -/
theorem not_routesTrue :
    (stale.Reached ∧ stale.wan.active.get .v4 = true ∧ stale.noRoute .v4 = true) ∧
    (unrouted.Reached ∧ unrouted.wan.active.get .v6 = true ∧
      unrouted.wan.isDefaultGateway = false) ∧
    (halfRouted.Reached ∧ halfRouted.wan.active.get .v6 = false ∧
      IpType.v6 ∈ halfRouted.wan.handleFirewallChange.filterMap FirewallOp.configures) := by
  have hstation : (Watch.start station).Reached :=
    ⟨station, [], ⟨rfl, rfl, rfl, rfl, rfl, rfl, fun _ => rfl⟩, rfl, by decide, .nil⟩
  have hmodem : (Watch.start (modem 1 "rmnet_data0")).Reached :=
    ⟨_, [], modem_constructed _ _, rfl, by decide, .nil⟩
  have hhalf : halfRouted.Reached := ((hmodem.next rfl).next rfl).next rfl
  refine ⟨⟨(((hstation.next rfl).next rfl).next rfl).next rfl, ?_⟩,
    ⟨(hhalf.next rfl).next rfl, ?_⟩, ⟨hhalf, ?_⟩⟩
  · decide
  · decide
  · decide

end LibraDevice.Backhaul
