import LibraDevice.Backhaul.Handlers
import LibraDevice.Lib.StepRun

/-!
`wan_up` and `wan_up_v6` against `active_v4` and `active_v6` of the live instances.
-/

namespace LibraDevice.Backhaul

open Broadcast StepRun

namespace Event

def index : Event → Int
  | .wlanLinkDown index => index
  | .linkDown index => index
  | .addrAdd index _ => index
  | .upstreamRouteAdd index _ _ => index
  | .upstreamRouteDel index _ _ => index
  | .routeAdd index _ => index
  | .routeDel index _ => index
  | .neighClientIpAddrAdd index _ _ => index
  | .firewallChange => 0

/-- The family whose default route is added. -/
def adds : Event → Option IpType
  | .upstreamRouteAdd _ iptype _ => some iptype
  | .routeAdd _ data => if data.isDefault then some data.iptype else none
  | _ => none

end Event

namespace Wan

/-- The event sets the interface's routes of the family up. -/
def takesRoute (w : Wan) (e : Event) (f : IpType) : Bool :=
  e.adds = some f && e.index = w.ipaIfNum && !w.active.get f && w.ipType.supports f &&
    w.completesRoute f

/-- The event may complete a header that the family's add waits for. -/
def replays (w : Wan) : Event → IpType → Bool
  | .neighClientIpAddrAdd index _ _, f => index = w.ipaIfNum && w.headerPartialDefaultWan.get f
  | _, _ => false

def modemDown (w : Wan) : Event → Bool
  | .linkDown index => w.mIsStaMode = .q6Wan && index = w.ipaIfNum
  | _ => false

/-- An `IPA_LINK_DOWN_EVENT` of any interface takes every cradle down. -/
def cradleDown (e : Event) (w : Wan) : Bool :=
  match e with
  | .linkDown _ => w.mIsStaMode = .ecmWan
  | _ => false

end Wan

theorem RouteAdded.flags {iptype : IpType} {w : Wan} {s : Static} {r : Wan × Static}
    (h : RouteAdded iptype w s r) (g : IpType) :
    (r.1.active.get g = w.active.get g ∧ r.2.wanUp.get g = s.wanUp.get g) ∨
      (g = iptype ∧ w.completesRoute iptype = true ∧ r.1.active.get g = true ∧
        r.2.wanUp.get g = true) := by
  cases h with
  | ignored => exact Or.inl ⟨rfl, rfl⟩
  | failed => exact Or.inl ⟨rfl, rfl⟩
  | waits => exact Or.inl ⟨rfl, rfl⟩
  | up _ hcompletes =>
      rcases eq_or_ne g iptype with rfl | hne
      · exact Or.inr ⟨rfl, hcompletes, by simp [Wan.routeUp], by simp [Wan.routeUp]⟩
      · refine Or.inl ⟨?_, ?_⟩
        · simp [Wan.routeUp, Wan.waiting, Wan.asGateway, hne]
        · simp [Wan.routeUp, Static.backhaul, hne]

theorem RouteAdded.waiting {iptype : IpType} {w : Wan} {s : Static} {r : Wan × Static}
    (h : RouteAdded iptype w s r) {g : IpType}
    (hg : r.1.headerPartialDefaultWan.get g = true) :
    g = iptype ∨ w.headerPartialDefaultWan.get g = true := by
  rcases eq_or_ne g iptype with rfl | hne
  · exact Or.inl rfl
  · right
    cases h with
    | ignored => exact hg
    | failed => exact hg
    | waits => simpa [Wan.waiting, Wan.asGateway, hne] using hg
    | up => simpa [Wan.routeUp, Wan.waiting, Wan.asGateway, hne] using hg

theorem Replayed.flags {iptype : IpType} {x y : Wan × Static} (h : Replayed iptype x y)
    (g : IpType) :
    (y.1.headerPartialDefaultWan.get g = true → x.1.headerPartialDefaultWan.get g = true) ∧
      ((y.1.active.get g = x.1.active.get g ∧ y.2.wanUp.get g = x.2.wanUp.get g) ∨
        (x.1.headerPartialDefaultWan.get g = true ∧ y.1.active.get g = true ∧
          y.2.wanUp.get g = true)) := by
  rcases h with ⟨-, rfl⟩ | ⟨hwaits, hadd⟩
  · exact ⟨id, Or.inl ⟨rfl, rfl⟩⟩
  · refine ⟨fun hg => ?_, ?_⟩
    · rcases hadd.waiting hg with rfl | hg
      · exact hwaits
      · exact hg
    · rcases hadd.flags g with hsame | ⟨rfl, -, hup⟩
      · exact Or.inl hsame
      · exact Or.inr ⟨hwaits, hup⟩

namespace Wan

theorem withFullHeader_members (f : IpType) (w : Wan) :
    (w.withFullHeader f).active = w.active ∧
      (w.withFullHeader f).headerPartialDefaultWan = w.headerPartialDefaultWan := by
  rw [withFullHeader]
  split <;> exact ⟨rfl, rfl⟩

end Wan

theorem HeaderAdded.flags {w : Wan} {s : Static} {r : Wan × Static} (h : HeaderAdded w s r)
    (g : IpType) :
    (r.1.headerPartialDefaultWan.get g = true → w.headerPartialDefaultWan.get g = true) ∧
      ((r.1.active.get g = w.active.get g ∧ r.2.wanUp.get g = s.wanUp.get g) ∨
        (w.headerPartialDefaultWan.get g = true ∧ r.1.active.get g = true ∧
          r.2.wanUp.get g = true)) := by
  cases h with
  | already => exact ⟨id, Or.inl ⟨rfl, rfl⟩⟩
  | @added x _ _ hv4 hv6 =>
      obtain ⟨hwaits4, hflags4⟩ := hv4.flags g
      obtain ⟨hwaits6, hflags6⟩ := hv6.flags g
      have hw := ((w.withFullHeader .v4).withFullHeader_members .v6)
      rw [(w.withFullHeader_members .v4).1, (w.withFullHeader_members .v4).2] at hw
      dsimp only at hwaits4 hflags4
      rw [hw.1, hw.2] at hflags4
      rw [hw.2] at hwaits4
      refine ⟨hwaits4 ∘ hwaits6, ?_⟩
      rcases hflags6 with hsame | ⟨hwaits, hup⟩
      · rw [hsame.1, hsame.2]
        exact hflags4
      · exact Or.inr ⟨hwaits4 hwaits, hup⟩

namespace Wan

section

variable {alone rest : Prop} {w : Wan} {s : Static} (g : IpType)

theorem cleanDefaultRoute_flagMove (hw : w.Fit) {iptype : IpType}
    (hactive : w.active.get iptype = true) :
    let r := w.cleanDefaultRoute .succeeding iptype s
    FlagMove alone rest (w.active.get g) (s.wanUp.get g) (r.1.active.get g) (r.2.wanUp.get g) := by
  obtain ⟨ops, heq⟩ := cleanDefaultRoute_eq hactive (hw.tx_of_active hactive) s
  rw [heq]
  rcases eq_or_ne g iptype with rfl | hne
  · simp only [routeDown, Static.resetDevName_wanUp, Static.post_wanUp, Fam.get_set, if_pos,
      hactive]
    exact .lowered _
  · simp only [routeDown, Static.resetDevName_wanUp, Static.post_wanUp, Fam.get_set, if_neg hne]
    exact .same _ _

theorem handleRouteAddEvt_flagMove {iptype : IpType} (hidle : w.active.get iptype = false)
    (halone : g = iptype → w.completesRoute iptype = true → alone) :
    let r := w.handleRouteAddEvt .succeeding iptype s
    FlagMove alone rest (w.active.get g) (s.wanUp.get g) (r.1.active.get g) (r.2.wanUp.get g) := by
  rcases (handleRouteAddEvt_cases iptype w s).flags g with ⟨hactive, hup⟩ | ⟨rfl, hcompletes, hup⟩
  · dsimp only
    rw [hactive, hup]
    exact .same _ _
  · dsimp only
    rw [hup.1, hup.2, hidle]
    exact .raised _ (halone rfl hcompletes)

theorem handleNeighAddEvt_flagMove (hw : w.Fit) (data : EventDataAddr) (validMac : Bool)
    (halone : w.headerPartialDefaultWan.get g = true → alone) :
    let r := w.handleNeighAddEvt .succeeding data validMac s
    FlagMove alone rest (w.active.get g) (s.wanUp.get g) (r.1.active.get g) (r.2.wanUp.get g) := by
  obtain ⟨x, hfirst, hsecond⟩ := handleNeighAddEvt_cases data validMac w s
  obtain ⟨hwaits, hflags⟩ := hfirst.flags g
  obtain ⟨-, hflags'⟩ := hsecond.flags g
  have hraised : w.headerPartialDefaultWan.get g = true → ∀ u,
      FlagMove alone rest (w.active.get g) u true true := by
    intro hg u
    rw [hw.idle g hg]
    exact .raised _ (halone hg)
  rcases hflags' with ⟨hactive, hup⟩ | ⟨hg, hup⟩
  · dsimp only
    rw [hactive, hup]
    rcases hflags with ⟨hactive, hup⟩ | ⟨hg, hup⟩
    · rw [hactive, hup]
      exact .same _ _
    · rw [hup.1, hup.2]
      exact hraised hg _
  · dsimp only
    rw [hup.1, hup.2]
    exact hraised (hwaits hg) _

theorem handleDownEvt_flagMove (hw : w.Fit) :
    FlagMove alone rest (w.active.get g) (s.wanUp.get g) false
      ((w.handleDownEvt .succeeding s).wanUp.get g) := by
  rw [handleDownEvt_wanUp hw]
  cases w.active.get g with
  | false => exact .same _ _
  | true => exact .lowered _

theorem handleDownEvtEx_flagMove
    (hdown : if w.clears g = true then rest else w.active.get g = false) :
    FlagMove alone rest (w.active.get g) (s.wanUp.get g) false
      ((w.handleDownEvtEx .succeeding s).wanUp.get g) := by
  rw [handleDownEvtEx_wanUp]
  rcases hclears : w.clears g with _ | _
  · rw [hclears, if_neg Bool.false_ne_true] at hdown
    rw [hdown]
    exact .same _ _
  · rw [hclears, if_pos rfl] at hdown
    cases w.active.get g with
    | false => exact .cleared _ hdown
    | true => exact .lowered _

/-- One callback moves the flags of a family together, where the interface is alone as far
as it has to be. -/
theorem eventCallback_flagMove (hw : w.Fit) {e : Event}
    (hroute : w.takesRoute e g = true → alone) (hreplay : w.replays e g = true → alone)
    (hdown : w.modemDown e = true → if w.clears g = true then rest else w.active.get g = false) :
    let r := w.eventCallback .succeeding e s
    FlagMove alone rest (w.active.get g) (s.wanUp.get g)
      (r.1.any fun w => w.active.get g) (r.2.wanUp.get g) := by
  have hsame : ∀ b u, FlagMove alone rest b u b u := fun b u => .same b u
  cases e with
  | wlanLinkDown index =>
      rw [eventCallback]
      split
      · exact handleDownEvt_flagMove g hw
      · exact hsame _ _
  | linkDown index =>
      rw [eventCallback]
      split
      · rename_i hmode
        split
        · rename_i hindex
          apply handleDownEvtEx_flagMove g
          apply hdown
          simp [modemDown, hmode, hindex]
        · exact hsame _ _
      · exact handleDownEvt_flagMove g hw
      · exact hsame _ _
  | addrAdd index data =>
      rw [eventCallback]
      split
      · obtain ⟨t, v4, l, p, n, heq, -⟩ := handleAddrEvt_eq .succeeding data w
        rw [heq]
        exact hsame _ _
      · exact hsame _ _
  | upstreamRouteAdd index iptype indexTether =>
      rw [eventCallback]
      split
      · rename_i hindex
        split
        · rename_i hsup
          rcases hactive : w.active.get iptype with _ | _
          · apply handleRouteAddEvt_flagMove g hactive
            rintro rfl hcompletes
            apply hroute
            simp [takesRoute, Event.adds, Event.index, hindex, hactive, hsup, hcompletes]
          · exact hsame _ _
        · exact hsame _ _
      · split
        · exact cleanDefaultRoute_flagMove g hw ‹_›
        · exact hsame _ _
  | upstreamRouteDel index iptype indexTether =>
      rw [eventCallback]
      split
      · rename_i hown
        have hup := congrArg (Fam.get · g) (postWanDownTetherEvt_wanUp iptype indexTether w s)
        dsimp only at hup ⊢
        rw [← hup]
        split
        · exact hsame _ _
        · exact cleanDefaultRoute_flagMove g hw hown.2
      · exact hsame _ _
  | routeAdd index data =>
      rw [eventCallback]
      split
      · exact hsame _ _
      · rename_i hdefault
        split
        · rename_i hindex
          split
          · rename_i hidle
            apply handleRouteAddEvt_flagMove g hidle.1
            rintro rfl hcompletes
            apply hroute
            simp [takesRoute, Event.adds, Event.index, hdefault, hindex, hidle.1, hidle.2,
              hcompletes]
          · exact hsame _ _
        · split
          · exact cleanDefaultRoute_flagMove g hw ‹_›
          · exact hsame _ _
  | routeDel index data =>
      rw [eventCallback]
      split
      · rename_i hown
        exact cleanDefaultRoute_flagMove g hw hown.2.2
      · exact hsame _ _
  | neighClientIpAddrAdd index data validMac =>
      rw [eventCallback]
      split
      · rename_i hindex
        apply handleNeighAddEvt_flagMove g hw
        intro hwaits
        apply hreplay
        simp [replays, hindex, hwaits]
      · exact hsame _ _
  | firewallChange => exact hsame _ _

end

/-- An interface that the event is not about loses at most the route that is added
elsewhere. -/
theorem eventCallback_other {e : Event} {w w' : Wan} {s : Static} (hw : w.Fit)
    (h : (w.eventCallback .succeeding e s).1 = some w') (hindex : e.index ≠ w.ipaIfNum) :
    (e.adds = none → w' = w) ∧ ∀ f, e.adds = some f → w'.active.get f = false := by
  have hclean : ∀ f s, w.active.get f = true →
      (w.cleanDefaultRoute .succeeding f s).1.active.get f = false := by
    intro f s hactive
    obtain ⟨ops, heq⟩ := cleanDefaultRoute_eq hactive (hw.tx_of_active hactive) s
    rw [heq]
    simp [routeDown]
  cases e with
  | wlanLinkDown index =>
      rw [eventCallback, if_neg fun hown => hindex hown.2] at h
      exact ⟨fun _ => (Option.some.inj h).symm, fun f hf => by cases hf⟩
  | linkDown index =>
      refine ⟨fun _ => ?_, fun f hf => by cases hf⟩
      rw [eventCallback] at h
      rw [Event.index] at hindex
      split at h
      · rw [if_neg hindex] at h
        exact (Option.some.inj h).symm
      · cases h
      · exact (Option.some.inj h).symm
  | addrAdd index data =>
      rw [eventCallback, if_neg fun hown => hindex hown.1] at h
      exact ⟨fun _ => (Option.some.inj h).symm, fun f hf => by cases hf⟩
  | upstreamRouteAdd index iptype indexTether =>
      refine ⟨fun hf => ?_, fun f hf => ?_⟩
      · cases hf
      · obtain rfl := Option.some.inj hf
        rw [Event.index] at hindex
        rw [eventCallback, if_neg hindex] at h
        split at h
        · rw [← Option.some.inj h]
          exact hclean _ _ ‹_›
        · rw [← Option.some.inj h]
          exact Bool.eq_false_iff.mpr ‹_›
  | upstreamRouteDel index iptype indexTether =>
      rw [eventCallback, if_neg fun hown => hindex hown.1] at h
      exact ⟨fun _ => (Option.some.inj h).symm, fun f hf => by cases hf⟩
  | routeAdd index data =>
      rw [eventCallback] at h
      rw [Event.index] at hindex
      rcases hdefault : data.isDefault with _ | _
      · rw [if_pos hdefault] at h
        refine ⟨fun _ => (Option.some.inj h).symm, fun f hf => ?_⟩
        simp [Event.adds, hdefault] at hf
      · rw [if_neg (by simp [hdefault]), if_neg hindex] at h
        refine ⟨fun hf => ?_, fun f hf => ?_⟩
        · simp [Event.adds, hdefault] at hf
        · simp only [Event.adds, hdefault, if_pos, Option.some.injEq] at hf
          subst hf
          split at h
          · rw [← Option.some.inj h]
            exact hclean _ _ ‹_›
          · rw [← Option.some.inj h]
            exact Bool.eq_false_iff.mpr ‹_›
  | routeDel index data =>
      rw [eventCallback, if_neg fun hown => hindex hown.1] at h
      exact ⟨fun _ => (Option.some.inj h).symm, fun f hf => by cases hf⟩
  | neighClientIpAddrAdd index data validMac =>
      rw [Event.index] at hindex
      rw [eventCallback, if_neg hindex] at h
      exact ⟨fun _ => (Option.some.inj h).symm, fun f hf => by cases hf⟩
  | firewallChange =>
      exact ⟨fun _ => (Option.some.inj h).symm, fun f hf => by cases hf⟩

theorem eventCallback_of_cradleDown {e : Event} {w : Wan} (h : w.cradleDown e = true) (s : Static) :
    (w.eventCallback .succeeding e s).1 = none := by
  cases e with
  | linkDown index =>
      simp only [cradleDown, decide_eq_true_eq] at h
      rw [eventCallback, h]
  | _ => cases h

theorem cradleDown_eq_false {e : Event} {w w' : Wan} {s : Static}
    (h : (w.eventCallback .succeeding e s).1 = some w') : w'.cradleDown e = false := by
  cases e with
  | linkDown index =>
      have hmode : w'.mIsStaMode = w.mIsStaMode := congrArg Prod.snd (eventCallback_kind h)
      rw [cradleDown, hmode]
      apply decide_eq_false
      intro hecm
      have hnone := eventCallback_of_cradleDown (e := .linkDown index) (w := w)
        (decide_eq_true hecm) s
      rw [h] at hnone
      cases hnone
  | _ => rfl

end Wan

/-- The callbacks are called in an order that suits the flags: no active interface comes
after the one whose routes are set up, and none is active when a header is completed or a
modem goes down that clears the shared flag, unless it goes down as well. -/
structure Event.Orderly (e : Event) (order : List Wan) : Prop where
  route : ∀ f, order.Pairwise fun w o => w.takesRoute e f = true → o.active.get f = false
  header : ∀ w ∈ order, ∀ f, w.replays e f = true →
    ∀ o ∈ order, o.ipaIfNum ≠ w.ipaIfNum → o.active.get f = false
  down : ∀ w ∈ order, w.modemDown e = true → ∀ f,
    if w.clears f = true then
      ∀ o ∈ order, o.ipaIfNum ≠ w.ipaIfNum → o.active.get f = true → o.cradleDown e = true
    else w.active.get f = false

/-- The loop invariant of `ProcessEvt`, for one family. -/
structure Underway (e : Event) (f : IpType) (order done todo : List Wan) : Prop where
  distinct : ((done ++ todo).map Wan.ipaIfNum).Nodup
  fit : ∀ w ∈ todo, w ∈ order ∧ w.Fit
  route : todo.Pairwise fun w o => w.takesRoute e f = true → o.active.get f = false
  called : ∀ w ∈ done, e.index ≠ w.ipaIfNum →
    (e.adds = none → w ∈ order) ∧ (e.adds = some f → w.active.get f = false)

theorem Underway.next {e : Event} {f : IpType} {order done todo : List Wan} {w : Wan} {s : Static}
    (h : Underway e f order done (w :: todo)) :
    Underway e f order (done ++ (w.eventCallback .succeeding e s).1.toList) todo := by
  obtain ⟨hdistinct, hfit, hroute, hcalled⟩ := h
  obtain ⟨horder, hw⟩ := hfit w List.mem_cons_self
  refine ⟨?_, fun o ho => hfit o (List.mem_cons_of_mem w ho), (List.pairwise_cons.mp hroute).2, ?_⟩
  · refine List.Nodup.sublist ?_ hdistinct
    rcases hleft : (w.eventCallback .succeeding e s).1 with _ | w'
    · simp
    · have hnum : w'.ipaIfNum = w.ipaIfNum := congrArg Prod.fst (Wan.eventCallback_kind hleft)
      simp [hnum]
  · intro o ho hindex
    rcases List.mem_append.mp ho with ho | ho
    · exact hcalled o ho hindex
    · have hleft := Option.mem_toList.mp ho
      have hnum : o.ipaIfNum = w.ipaIfNum := congrArg Prod.fst (Wan.eventCallback_kind hleft)
      rw [hnum] at hindex
      obtain ⟨hsame, hcleared⟩ := Wan.eventCallback_other hw hleft hindex
      exact ⟨fun hadds => hsame hadds ▸ horder, fun hadds => hcleared f hadds⟩

theorem Underway.ne {e : Event} {f : IpType} {order done todo : List Wan} {w o : Wan}
    (h : Underway e f order done (w :: todo)) (ho : o ∈ done ++ todo) :
    o.ipaIfNum ≠ w.ipaIfNum := by
  have hperm : (done ++ w :: todo).Perm (w :: (done ++ todo)) := List.perm_middle
  have hnodup := (hperm.map Wan.ipaIfNum).nodup_iff.mp h.distinct
  rw [List.map_cons, List.nodup_cons] at hnodup
  intro heq
  exact hnodup.1 (heq ▸ List.mem_map_of_mem ho)

theorem Underway.mem_order {e : Event} {f : IpType} {order done todo : List Wan} {w o : Wan}
    (h : Underway e f order done (w :: todo)) (hadds : e.adds = none)
    (hindex : e.index = w.ipaIfNum) (ho : o ∈ done ++ todo) : o ∈ order := by
  have hne := h.ne ho
  rcases List.mem_append.mp ho with hdone | htodo
  · exact (h.called o hdone (hindex ▸ hne.symm)).1 hadds
  · exact (h.fit o (List.mem_cons_of_mem w htodo)).1

theorem Underway.flagMove {e : Event} {f : IpType} {order done todo : List Wan} {w : Wan}
    {s : Static} (hok : e.Orderly order) (h : Underway e f order done (w :: todo)) :
    FlagMove (∀ o ∈ done ++ todo, o.active.get f = false)
      (∀ o ∈ done ++ todo, o.active.get f = true → o.cradleDown e = true)
      (w.active.get f) (s.wanUp.get f)
      ((w.eventCallback .succeeding e s).1.any fun w => w.active.get f)
      ((w.eventCallback .succeeding e s).2.wanUp.get f) := by
  obtain ⟨horder, hw⟩ := h.fit w List.mem_cons_self
  apply Wan.eventCallback_flagMove f hw
  · intro htakes o ho
    have hne := h.ne ho
    rcases List.mem_append.mp ho with hdone | htodo
    · simp only [Wan.takesRoute, Bool.and_eq_true, decide_eq_true_eq] at htakes
      obtain ⟨⟨⟨⟨hadds, hindex⟩, -⟩, -⟩, -⟩ := htakes
      exact (h.called o hdone (hindex ▸ hne.symm)).2 hadds
    · exact (List.pairwise_cons.mp h.route).1 o htodo htakes
  · intro hreplays o ho
    cases e with
    | neighClientIpAddrAdd index data validMac =>
        simp only [Wan.replays, Bool.and_eq_true, decide_eq_true_eq] at hreplays
        apply hok.header w horder f _ o (h.mem_order rfl hreplays.1 ho) (h.ne ho)
        simp [Wan.replays, hreplays.1, hreplays.2]
    | _ => cases hreplays
  · intro hdown
    have hclears := hok.down w horder hdown f
    split
    · rename_i hif
      rw [if_pos hif] at hclears
      intro o ho hactive
      cases e with
      | linkDown index =>
          simp only [Wan.modemDown, Bool.and_eq_true, decide_eq_true_eq] at hdown
          exact hclears o (h.mem_order rfl hdown.2 ho) (h.ne ho) hactive
      | _ => cases hdown
    · rename_i hif
      rwa [if_neg hif] at hclears

/-- The flags of the interfaces, and what the handlers keep up for each. -/
structure FlagsOk (sys : System) : Prop where
  distinct : (sys.wans.map Wan.ipaIfNum).Nodup
  fit : ∀ w ∈ sys.wans, w.Fit
  stands : ∀ f, Stands (fun w : Wan => w.active.get f) sys.wans (sys.static.wanUp.get f)

theorem deliver_flagsOk {e : Event} {order : List Wan} {sys : System} (h : FlagsOk sys)
    (hperm : order.Perm sys.wans) (hok : e.Orderly order) :
    FlagsOk (System.deliver .succeeding e order sys.static) := by
  have hdistinct : (order.map Wan.ipaIfNum).Nodup :=
    (hperm.map Wan.ipaIfNum).nodup_iff.mpr h.distinct
  have hfit : ∀ w ∈ order, w.Fit := fun w hw => h.fit w (hperm.mem_iff.mp hw)
  refine ⟨?_, ?_, fun f => ?_⟩
  · refine List.Nodup.sublist ?_ hdistinct
    exact deliver_map_sublist
      (fun w s w' hleft => congrArg Prod.fst (Wan.eventCallback_kind hleft)) order sys.static
  · exact deliver_forall (fun w s w' hw hleft => Wan.eventCallback_fit hw hleft) order
      sys.static hfit
  · apply deliver_stands (I := fun done todo _ => Underway e f order done todo)
      (fun done w todo s hinv => hinv.next)
      (fun w s hdown => Wan.eventCallback_of_cradleDown hdown s)
      (fun w s w' hleft => Wan.cradleDown_eq_false hleft)
      (fun done w todo s hinv => hinv.flagMove hok) order sys.static
    · exact (h.stands f).perm hperm
    · refine ⟨hdistinct, fun w hw => ⟨hw, hfit w hw⟩, hok.route f, ?_⟩
      intro w hw
      cases hw

/-- A new instance, or an event whose driver calls succeed and whose order suits. -/
def Call.Orderly : Call → Prop
  | .construct _ => True
  | .event io e order => io = .succeeding ∧ e.Orderly order

theorem Wan.Constructed.fit {w : Wan} (h : w.Constructed) : w.Fit := by
  have hactive : ∀ f, (w.active.get f || w.headerPartialDefaultWan.get f) = false := by
    intro f
    rw [h.active, h.headerPartialDefaultWan]
    cases f <;> rfl
  refine ⟨fun f hf => ?_, fun f hf => ?_, fun f hf => ?_, fun f hf => ?_⟩
  · exact absurd ((hactive f).symm.trans hf) Bool.false_ne_true
  · exact absurd ((hactive f).symm.trans hf) Bool.false_ne_true
  · exact (Bool.or_eq_false_iff.mp (hactive f)).1
  · rw [h.headerSet] at hf
    cases f <;> cases hf

theorem construct_flagsOk {sys : System} (h : FlagsOk sys) {w : Wan} (hw : w.Constructed)
    (hnew : ∀ o ∈ sys.wans, o.ipaIfNum ≠ w.ipaIfNum) :
    FlagsOk { sys with wans := sys.wans ++ [w] } := by
  refine ⟨?_, ?_, fun f => ?_⟩
  · rw [List.map_append, List.nodup_append]
    refine ⟨h.distinct, List.nodup_singleton _, ?_⟩
    intro n hn m hm
    obtain ⟨o, ho, rfl⟩ := List.mem_map.mp hn
    rw [List.mem_singleton.mp hm]
    exact hnew o ho
  · intro o ho
    rcases List.mem_append.mp ho with ho | ho
    · exact h.fit o ho
    · rw [List.mem_singleton.mp ho]
      exact hw.fit
  · have hidle : w.active.get f = false := by
      rw [hw.active]
      cases f <;> rfl
    have hstands := h.stands f
    rw [Stands] at hstands ⊢
    rw [List.countP_append, hstands, List.countP_singleton, hidle]
    rfl

theorem flagsOk_init : FlagsOk .init := by
  refine ⟨List.nodup_nil, fun w hw => absurd hw List.not_mem_nil, fun f => ?_⟩
  cases f <;> rfl

theorem FlagsOk.of_run {calls : List Call} {sys : System}
    (hrun : Run (Guarded (fun _ call => call.Orderly) System.Step) .init calls sys) :
    FlagsOk sys := by
  apply hrun.invariant flagsOk_init
  rintro sys call sys' h ⟨hok, hstep⟩
  cases call with
  | construct w =>
      obtain ⟨hw, hnew, rfl⟩ := hstep
      exact construct_flagsOk h hw hnew
  | event io e order =>
      obtain ⟨rfl, hok⟩ := hok
      obtain ⟨hperm, rfl⟩ := hstep
      exact deliver_flagsOk h hperm hok

/-- In every run whose events are delivered in a suitable order, `wan_up` and `wan_up_v6`
are true exactly when an interface is active, and one is at most. -/
theorem wanUp_iff_of_run (calls : List Call) (sys : System)
    (hrun : Run (Guarded (fun _ call => call.Orderly) System.Step) .init calls sys)
    (f : IpType) :
    (sys.static.wanUp.get f = true ↔ ∃ w ∈ sys.wans, w.active.get f = true) ∧
      sys.wans.countP (fun w => w.active.get f) ≤ 1 :=
  stands_iff.mp ((FlagsOk.of_run hrun).stands f)

/-- The driver calls of the event succeed. -/
def Call.Succeeds : Call → Prop
  | .construct _ => True
  | .event io _ _ => io = .succeeding

/-- An event delivered in the order the callbacks were registered in. -/
def System.next (sys : System) (e : Event) : System :=
  System.deliver .succeeding e sys.wans sys.static

theorem run_next {ok : Call → Prop} {calls : List Call} {sys : System} {e : Event}
    (h : Run (Guarded (fun _ call => ok call) System.Step) .init calls sys)
    (hok : ok (.event .succeeding e sys.wans)) :
    Run (Guarded (fun _ call => ok call) System.Step) .init
      (calls ++ [.event .succeeding e sys.wans]) (sys.next e) :=
  h.snoc ⟨hok, List.Perm.refl _, rfl⟩

instance decidableForallIpType (p : IpType → Prop) [DecidablePred p] :
    Decidable (∀ f, p f) :=
  decidable_of_iff (p .v4 ∧ p .v6) ⟨fun h f => by cases f; exacts [h.1, h.2], fun h => ⟨h _, h _⟩⟩

theorem orderly_iff {e : Event} {order : List Wan} :
    e.Orderly order ↔
      (∀ f, order.Pairwise fun w o => w.takesRoute e f = true → o.active.get f = false) ∧
        (∀ w ∈ order, ∀ f, w.replays e f = true →
          ∀ o ∈ order, o.ipaIfNum ≠ w.ipaIfNum → o.active.get f = false) ∧
        (∀ w ∈ order, w.modemDown e = true → ∀ f,
          if w.clears f = true then
            ∀ o ∈ order, o.ipaIfNum ≠ w.ipaIfNum → o.active.get f = true → o.cradleDown e = true
          else w.active.get f = false) :=
  ⟨fun h => ⟨h.route, h.header, h.down⟩, fun h => ⟨h.1, h.2.1, h.2.2⟩⟩

instance decidableOrderly (e : Event) (order : List Wan) : Decidable (e.Orderly order) :=
  decidable_of_iff _ orderly_iff.symm

/-- A modem with a complete header for either family. -/
def modem (ipaIfNum : Int) (devName : String) : Wan where
  ipaIfNum := ipaIfNum
  devName := devName
  mIsStaMode := .q6Wan
  isEmbmsIf := false
  txProp := some [⟨.v4, false⟩, ⟨.v6, false⟩]
  hasRxProp := true
  numExtProps := 1
  hasExtProp := true
  ipType := .null
  wanV4Addr := 0
  ipv6Addr := []
  ipv6Prefix := (0, 0)
  numIpv6DestFltRule := 0
  active := ⟨false, false⟩
  headerSet := ⟨false, false⟩
  headerPartialDefaultWan := ⟨false, false⟩
  isDefaultGateway := false

theorem modem_constructed (ipaIfNum : Int) (devName : String) :
    (modem ipaIfNum devName).Constructed :=
  ⟨rfl, rfl, rfl, rfl, rfl, rfl, fun _ => rfl⟩

def hostAddr (iptype : IpType) : EventDataAddr := ⟨iptype, 9, 0, ⟨1, 2, 3, 4⟩⟩

def defaultRoute (iptype : IpType) : EventDataAddr := ⟨iptype, 0, 0, .zero⟩

def modems : System := ⟨[modem 1 "rmnet_data0", modem 2 "rmnet_data1"], .init⟩

theorem run_modems {ok : Call → Prop} (hnew : ∀ w, ok (.construct w)) :
    Run (Guarded (fun _ call => ok call) System.Step) .init
      [.construct (modem 1 "rmnet_data0"), .construct (modem 2 "rmnet_data1")] modems := by
  have hfirst : Run (Guarded (fun _ call => ok call) System.Step) .init
      [.construct (modem 1 "rmnet_data0")] ⟨[modem 1 "rmnet_data0"], .init⟩ :=
    Run.snoc .nil ⟨hnew _, modem_constructed _ _, fun o ho => absurd ho List.not_mem_nil, rfl⟩
  exact hfirst.snoc ⟨hnew _, modem_constructed _ _, by decide, rfl⟩

/-- The default route moves from the first modem to the second, which then goes down. -/
def moved : System :=
  ((((modems.next (.addrAdd 1 (hostAddr .v4))).next (.addrAdd 2 (hostAddr .v4))).next
    (.routeAdd 1 (defaultRoute .v4))).next (.routeAdd 2 (defaultRoute .v4))).next (.linkDown 2)

theorem wanUp_iff_moved :
    (moved.static.wanUp.get .v4 = true ↔ ∃ w ∈ moved.wans, w.active.get .v4 = true) ∧
      moved.wans.countP (fun w => w.active.get .v4) ≤ 1 := by
  refine wanUp_iff_of_run _ moved (run_next (run_next (run_next (run_next (run_next
    (run_modems fun _ => trivial) ?_) ?_) ?_) ?_) ?_) .v4
  all_goals exact ⟨rfl, by decide⟩

/-- The states that runs reach while the driver calls succeed. -/
def Reached (sys : System) : Prop :=
  ∃ calls, Run (Guarded (fun _ call => call.Succeeds) System.Step) .init calls sys

theorem Reached.next {sys : System} (h : Reached sys) (e : Event) : Reached (sys.next e) := by
  obtain ⟨calls, hrun⟩ := h
  exact ⟨_, run_next hrun rfl⟩

theorem Reached.deliver {sys : System} (h : Reached sys) (e : Event) {order : List Wan}
    (hperm : order.Perm sys.wans) :
    Reached (System.deliver .succeeding e order sys.static) := by
  obtain ⟨calls, hrun⟩ := h
  have hstep : Guarded (fun _ call => call.Succeeds) System.Step sys
      (.event .succeeding e order) (System.deliver .succeeding e order sys.static) :=
    ⟨rfl, hperm, rfl⟩
  exact ⟨_, hrun.snoc hstep⟩

theorem reached_modems : Reached modems := ⟨_, run_modems fun _ => trivial⟩

def firstUp : System :=
  ((modems.next (.addrAdd 1 (hostAddr .v4))).next (.addrAdd 2 (hostAddr .v4))).next
    (.routeAdd 1 (defaultRoute .v4))

theorem reached_firstUp : Reached firstUp :=
  ((reached_modems.next _).next _).next _

/-- The route moves, and the new interface is called before the old one. -/
def overtaken : System :=
  System.deliver .succeeding (.routeAdd 2 (defaultRoute .v4)) firstUp.wans.reverse firstUp.static

/-- The second modem is the default gateway for IPv6 only, though it has both addresses. -/
def shared : System :=
  (firstUp.next (.addrAdd 2 (hostAddr .v6))).next (.routeAdd 2 (defaultRoute .v6))

/-- It takes IPv4 as well, and loses it again. -/
def halved : System :=
  (shared.next (.routeAdd 2 (defaultRoute .v4))).next (.routeDel 2 (defaultRoute .v4))

theorem reached_shared : Reached shared := (reached_firstUp.next _).next _

/-- With the flag down, one of the interfaces is active: the old one is called last, or
another one goes down that is a gateway for the other family. Or the flag is up although no
interface is active: one goes down that has lost one of its two routes. -/
theorem not_wanUp_iff :
    (Reached overtaken ∧ overtaken.static.wanUp.get .v4 = false ∧
      ∃ w ∈ overtaken.wans, w.active.get .v4 = true) ∧
    (Reached (shared.next (.linkDown 2)) ∧
      (shared.next (.linkDown 2)).static.wanUp.get .v4 = false ∧
        ∃ w ∈ (shared.next (.linkDown 2)).wans, w.active.get .v4 = true) ∧
    (Reached (halved.next (.linkDown 2)) ∧
      (halved.next (.linkDown 2)).static.wanUp.get .v6 = true ∧
        ∀ w ∈ (halved.next (.linkDown 2)).wans, w.active.get .v6 = false) := by
  refine ⟨⟨reached_firstUp.deliver _ (List.reverse_perm _), ?_⟩, ⟨reached_shared.next _, ?_⟩,
    ⟨((reached_shared.next _).next _).next _, ?_⟩⟩
  · decide
  · decide
  · decide

end LibraDevice.Backhaul
