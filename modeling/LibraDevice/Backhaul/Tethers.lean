import LibraDevice.Backhaul.Flags
import LibraDevice.Lib.Register

/-!
The tether tables: what is in them against the upstream routes through the active WAN
interface, and the events that are posted for each tethered interface.
-/

namespace LibraDevice.Backhaul

open Broadcast StepRun

/-- A tether event of the family, and whether it is for up. -/
def Posted.mark (f : IpType) : Posted → Option (Int × Bool)
  | .wanUpTether iptype t _ _ => if iptype = f then some (t, true) else none
  | .wanDownTether iptype t _ => if iptype = f then some (t, false) else none
  | _ => none

/-- The table of a family, with the tether events of the family. -/
def Static.book (s : Static) (f : IpType) : Register Int where
  held := s.ipaIfNumTether.get f
  marks := s.posted.filterMap (Posted.mark f)

theorem Static.book_post {e : Posted} {f : IpType} (h : e.mark f = none) (s : Static) :
    (s.post e).book f = s.book f := by
  simp [book, h]

namespace Wan

theorem postWanUpTetherEvt_book (iptype g : IpType) (t : Int) (w : Wan) (s : Static) :
    (w.postWanUpTetherEvt iptype t s).book g =
      if g = iptype then (s.book g).enter t else s.book g := by
  rcases eq_or_ne g iptype with rfl | hne
  · simp [postWanUpTetherEvt, Static.book, Register.enter, Posted.mark]
  · simp [postWanUpTetherEvt, Static.book, Posted.mark, hne, hne.symm]

theorem postWanDownTetherEvt_book (iptype g : IpType) (t : Int) (w : Wan) (s : Static) :
    (w.postWanDownTetherEvt iptype t s).book g =
      if g = iptype then (s.book g).leave t else s.book g := by
  rw [postWanDownTetherEvt, Register.leave]
  rcases eq_or_ne g iptype with rfl | hne
  · rw [if_pos rfl]
    split
    · rename_i ht
      rw [if_pos (show t ∈ (s.book g).held from ht)]
      simp [Static.book, Posted.mark]
    · rename_i ht
      rw [if_neg (show t ∉ (s.book g).held from ht)]
  · rw [if_neg hne]
    split
    · simp [Static.book, Posted.mark, hne, hne.symm]
    · rfl

theorem postWanDownTethers_book (iptype g : IpType) (w : Wan) (s : Static) :
    (w.postWanDownTethers iptype s).book g =
      if g = iptype then (s.book g).leaveAll else s.book g := by
  have hfold : ∀ (l : List Int) (s : Static),
      (l.foldl (fun s t => w.postWanDownTetherEvt iptype t s) s).book g =
        if g = iptype then l.foldl (fun r t => r.leave t) (s.book g) else s.book g := by
    intro l
    induction l with
    | nil =>
        intro s
        split <;> rfl
    | cons t l ih =>
        intro s
        rw [List.foldl_cons, ih, postWanDownTetherEvt_book]
        split <;> rfl
  rw [postWanDownTethers, hfold]
  rcases eq_or_ne g iptype with rfl | hne
  · rw [if_pos rfl, if_pos rfl]
    rfl
  · rw [if_neg hne, if_neg hne]

theorem routeDown_book (iptype g : IpType) (w : Wan) (s : Static) :
    (w.routeDown iptype s).2.book g = s.book g := by
  change (s.post _).book g = s.book g
  apply Static.book_post
  cases iptype <;> rfl

theorem routeDel_book (deleted : Bool) (iptype g : IpType) (w : Wan) (s : Static) :
    (w.routeDel deleted iptype s).2.book g = s.book g := by
  rw [routeDel]
  split
  · rfl
  · dsimp only
    split
    · exact routeDown_book iptype g _ s
    · rfl

theorem cleanDefaultRoute_book (iptype g : IpType) (w : Wan) (s : Static) :
    (w.cleanDefaultRoute .succeeding iptype s).2.book g = s.book g := by
  rw [cleanDefaultRoute]
  split
  · exact routeDel_book _ iptype g w _
  · exact routeDel_book _ iptype g w _

theorem downRoute_book (iptype g : IpType) (w : Wan) (s : Static) :
    (w.downRoute .succeeding iptype s).2.book g = s.book g := by
  rw [downRoute]
  split
  · exact routeDel_book _ iptype g w _
  · rfl

theorem handleDownEvt_book (g : IpType) (w : Wan) (s : Static) :
    (w.handleDownEvt .succeeding s).book g = s.book g := by
  rw [handleDownEvt]
  split
  · rfl
  · dsimp only
    rw [downRoute_book, downRoute_book]

theorem downRouteEx_book (ops : List FirewallOp) (iptype g : IpType) (w : Wan) (s : Static) :
    (w.downRouteEx .succeeding ops iptype s).2.book g =
      if g = iptype then (s.book g).leaveAll else s.book g := by
  rw [downRouteEx]
  dsimp only
  rw [postWanDownTethers_book, handleRouteDelEvtEx, routeDel_book]
  rfl

theorem handleDownEvtEx_book (g : IpType) (w : Wan) (s : Static) :
    (w.handleDownEvtEx .succeeding s).book g =
      if w.clears g = true then (s.book g).leaveAll else s.book g := by
  have hname : ∀ (s : Static) (up : Bool), (s.resetDevName up).book g = s.book g :=
    fun _ _ => rfl
  have hops : ∀ (s : Static) (ops : List FirewallOp), (s.firewall ops).book g = s.book g :=
    fun _ _ => rfl
  rw [handleDownEvtEx, clears]
  rcases htype : w.ipType with _ | _ | _ | _ <;> cases w.isEmbmsIf <;>
    cases w.isDefaultGateway <;> cases g <;>
    simp [IfaceIpType.supports, downRouteEx_book, hname, hops]

end Wan

theorem RouteAdded.book {iptype : IpType} {w : Wan} {s : Static} {r : Wan × Static}
    (h : RouteAdded iptype w s r) (g : IpType) : r.2.book g = s.book g := by
  cases h with
  | ignored => rfl
  | failed => rfl
  | waits => rfl
  | up =>
      change (Static.post _ _).book g = s.book g
      rw [Static.book_post]
      · rfl
      · cases iptype <;> rfl

theorem Replayed.book {iptype : IpType} {x y : Wan × Static} (h : Replayed iptype x y)
    (g : IpType) : y.2.book g = x.2.book g := by
  rcases h with ⟨-, rfl⟩ | ⟨-, hadd⟩
  · rfl
  · exact hadd.book g

theorem HeaderAdded.book {w : Wan} {s : Static} {r : Wan × Static} (h : HeaderAdded w s r)
    (g : IpType) : r.2.book g = s.book g := by
  cases h with
  | already => rfl
  | added _ hv4 hv6 =>
      rw [hv6.book g, hv4.book g]

namespace Wan

/-- A station that the event takes down. -/
def stationDown (w : Wan) : Event → Bool
  | .linkDown _ => w.mIsStaMode = .ecmWan
  | .wlanLinkDown index => w.mIsStaMode = .wlanWan && index = w.ipaIfNum
  | _ => false

/-- What a callback does to the table of a family. -/
def bookAfter (w : Wan) (e : Event) (g : IpType) (r : Register Int) : Register Int :=
  match e with
  | .upstreamRouteAdd index iptype t =>
      if index = w.ipaIfNum ∧ iptype = g ∧ w.ipType.supports iptype = true then r.enter t else r
  | .upstreamRouteDel index iptype t =>
      if index = w.ipaIfNum ∧ iptype = g ∧ w.active.get iptype = true then r.leave t else r
  | .linkDown index =>
      if w.modemDown (.linkDown index) = true ∧ w.clears g = true then r.leaveAll else r
  | _ => r

theorem eventCallback_book (e : Event) (w : Wan) (s : Static) (g : IpType) :
    (w.eventCallback .succeeding e s).2.book g = w.bookAfter e g (s.book g) := by
  cases e with
  | wlanLinkDown index =>
      rw [eventCallback]
      split
      · exact handleDownEvt_book g w s
      · rfl
  | linkDown index =>
      rw [eventCallback, bookAfter, modemDown]
      split
      · rename_i hmode
        split
        · rename_i hindex
          rw [handleDownEvtEx_book]
          simp [hmode, hindex]
        · rename_i hindex
          simp [hindex]
      · rename_i hmode
        rw [handleDownEvt_book]
        simp [hmode]
      · rename_i hmode
        simp [hmode]
  | addrAdd index data =>
      rw [eventCallback]
      split <;> rfl
  | upstreamRouteAdd index iptype indexTether =>
      rw [eventCallback, bookAfter]
      split
      · rename_i hindex
        split
        · rename_i hsup
          dsimp only
          rw [postWanUpTetherEvt_book]
          have hroute : (if w.active.get iptype = true then (w, s)
              else w.handleRouteAddEvt .succeeding iptype s).2.book g = s.book g := by
            split
            · rfl
            · exact (handleRouteAddEvt_cases iptype w s).book g
          rw [hroute]
          simp [hindex, hsup, eq_comm]
        · rename_i hsup
          simp [hsup]
      · rename_i hindex
        have hother : ¬(index = w.ipaIfNum ∧ iptype = g ∧ w.ipType.supports iptype = true) :=
          fun hown => hindex hown.1
        rw [if_neg hother]
        split
        · exact cleanDefaultRoute_book iptype g w s
        · rfl
  | upstreamRouteDel index iptype indexTether =>
      rw [eventCallback, bookAfter]
      split
      · rename_i hown
        have hleave := postWanDownTetherEvt_book iptype g indexTether w s
        dsimp only
        split
        · rw [hleave]
          simp [hown.1, hown.2, eq_comm]
        · rw [cleanDefaultRoute_book, hleave]
          simp [hown.1, hown.2, eq_comm]
      · rename_i hown
        rw [if_neg fun hboth => hown ⟨hboth.1, hboth.2.2⟩]
  | routeAdd index data =>
      rw [eventCallback]
      split
      · rfl
      · split
        · split
          · exact (handleRouteAddEvt_cases data.iptype w s).book g
          · rfl
        · split
          · exact cleanDefaultRoute_book data.iptype g w s
          · rfl
  | routeDel index data =>
      rw [eventCallback]
      split
      · exact cleanDefaultRoute_book data.iptype g w s
      · rfl
  | neighClientIpAddrAdd index data validMac =>
      rw [eventCallback]
      split
      · obtain ⟨x, hfirst, hsecond⟩ := handleNeighAddEvt_cases data validMac w s
        exact (hsecond.book g).trans (hfirst.book g)
      · rfl
  | firewallChange => rfl

theorem bookAfter_other {e : Event} {w : Wan} (h : e.index ≠ w.ipaIfNum) (g : IpType)
    (r : Register Int) : w.bookAfter e g r = r := by
  cases e with
  | upstreamRouteAdd index iptype t => exact if_neg fun hown => h hown.1
  | upstreamRouteDel index iptype t => exact if_neg fun hown => h hown.1
  | linkDown index =>
      refine if_neg fun hown => h ?_
      exact of_decide_eq_true (Bool.and_eq_true_iff.mp hown.1).2
  | _ => rfl

theorem eventCallback_goesDown {e : Event} {w : Wan}
    (h : (w.stationDown e || w.modemDown e) = true) (s : Static) :
    (w.eventCallback .succeeding e s).1 = none := by
  cases e with
  | wlanLinkDown index =>
      simp only [stationDown, modemDown, Bool.or_false, Bool.and_eq_true, decide_eq_true_eq] at h
      rw [eventCallback, if_pos h]
  | linkDown index =>
      simp only [stationDown, modemDown, Bool.or_eq_true, Bool.and_eq_true,
        decide_eq_true_eq] at h
      rcases h with hecm | ⟨hq6, hindex⟩
      · rw [eventCallback, hecm]
      · rw [eventCallback, hq6]
        simp [hindex]
  | _ => cases h

theorem eventCallback_isSome {e : Event} {w : Wan}
    (h : (w.stationDown e || w.modemDown e) = false) (s : Static) :
    ∃ w', (w.eventCallback .succeeding e s).1 = some w' := by
  cases e with
  | wlanLinkDown index =>
      simp only [stationDown, modemDown, Bool.or_false] at h
      refine ⟨w, ?_⟩
      rw [eventCallback, if_neg]
      rintro ⟨hmode, hindex⟩
      simp [hmode, hindex] at h
  | linkDown index =>
      refine ⟨w, ?_⟩
      rw [eventCallback]
      rcases hmode : w.mIsStaMode with _ | _ | _
      · dsimp only
        rw [if_neg]
        rintro hindex
        simp [modemDown, hmode, hindex] at h
      · rfl
      · simp [stationDown, hmode] at h
  | upstreamRouteDel index iptype indexTether =>
      rw [eventCallback]
      split
      · dsimp only
        split
        · exact ⟨_, rfl⟩
        · exact ⟨_, rfl⟩
      · exact ⟨_, rfl⟩
  | _ =>
      rw [eventCallback]
      repeat' split
      all_goals exact ⟨_, rfl⟩

theorem eventCallback_active {e : Event} {w w' : Wan} {s : Static} (hw : w.Fit)
    (h : (w.eventCallback .succeeding e s).1 = some w') {f : IpType}
    (hactive : w'.active.get f = true) :
    w.active.get f = true ∨ (w.takesRoute e f || w.replays e f) = true := by
  have hstays : w.modemDown e = true → if w.clears f = true then True
      else w.active.get f = false := by
    intro hdown
    have hnone := eventCallback_goesDown (e := e) (w := w) (by rw [hdown, Bool.or_true]) s
    rw [h] at hnone
    cases hnone
  have hmove : FlagMove ((w.takesRoute e f || w.replays e f) = true) True (w.active.get f)
      (s.wanUp.get f) ((w.eventCallback .succeeding e s).1.any fun w => w.active.get f)
      ((w.eventCallback .succeeding e s).2.wanUp.get f) :=
    eventCallback_flagMove f hw (fun h => by rw [h, Bool.true_or])
      (fun h => by rw [h, Bool.or_true]) hstays
  rw [h, Option.any_some, hactive] at hmove
  generalize hbefore : w.active.get f = b at hmove ⊢
  generalize (w.eventCallback .succeeding e s).2.wanUp.get f = up at hmove
  cases hmove with
  | same => exact Or.inl rfl
  | raised _ halone => exact Or.inr halone

end Wan

/-- The live instances and, for each family, the pairs of a WAN interface and a tethered
interface that has an upstream route through it. -/
structure Traffic where
  sys : System
  upstream : IpType → List (Int × Int)

/-- The routes after an event, but for those of the interfaces that it takes down. -/
def upstreamChange (e : Event) (f : IpType) (routes : List (Int × Int)) : List (Int × Int) :=
  match e with
  | .upstreamRouteAdd index iptype t => if iptype = f then routes.insert (index, t) else routes
  | .upstreamRouteDel index iptype t =>
      if iptype = f then routes.filter (· ≠ (index, t)) else routes
  | _ => routes

def upstreamAfter (upstream : IpType → List (Int × Int)) (e : Event) (order left : List Wan)
    (f : IpType) : List (Int × Int) :=
  (upstreamChange e f (upstream f)).filter fun route =>
    route.1 ∈ order.map Wan.ipaIfNum → route.1 ∈ left.map Wan.ipaIfNum

def Traffic.Step (x : Traffic) (call : Call) (y : Traffic) : Prop :=
  x.sys.Step call y.sys ∧
    match call with
    | .construct _ => y.upstream = x.upstream
    | .event _ e order => y.upstream = upstreamAfter x.upstream e order y.sys.wans

/-- The condition on one event. -/
structure Traffic.Fits (x : Traffic) (e : Event) (order : List Wan) : Prop where
  orderly : e.Orderly order
  /-- An upstream route is new, is for an interface with an address of the family, and finds
  room in the table and no other interface's routes. -/
  add : ∀ index f t, e = .upstreamRouteAdd index f t →
    (∃ w ∈ order, w.ipaIfNum = index ∧ w.ipType.supports f = true) ∧
      t ∉ x.sys.static.ipaIfNumTether.get f ∧
        (x.sys.static.ipaIfNumTether.get f).length < maxIfaceEntries ∧
          ∀ route ∈ x.upstream f, route.1 = index
  /-- An interface becomes active while no other has upstream routes. -/
  up : ∀ w ∈ order, ∀ f, (w.takesRoute e f || w.replays e f) = true →
    ∀ route ∈ x.upstream f, route.1 = w.ipaIfNum
  /-- An upstream route is deleted while its interface is active. -/
  del : ∀ index f t, e = .upstreamRouteDel index f t → (index, t) ∈ x.upstream f →
    ∃ w ∈ order, w.ipaIfNum = index ∧ w.active.get f = true
  /-- A station goes down without upstream routes. -/
  station : ∀ w ∈ order, w.stationDown e = true → ∀ f, ∀ route ∈ x.upstream f,
    route.1 ≠ w.ipaIfNum
  /-- A modem that goes down clears the table of its own routes and of no others. -/
  modem : ∀ w ∈ order, w.modemDown e = true → ∀ f, ∀ route ∈ x.upstream f,
    (route.1 = w.ipaIfNum ↔ w.clears f = true)

def Call.FitsTraffic (x : Traffic) : Call → Prop
  | .construct _ => True
  | .event io e order => io = .succeeding ∧ x.Fits e order

/-- A table holds the tethered interfaces of the routes. -/
structure BookHolds (r : Register Int) (routes : List (Int × Int)) : Prop where
  ok : r.Ok
  bound : r.held.length ≤ maxIfaceEntries
  mem : ∀ t, t ∈ r.held ↔ ∃ i, (i, t) ∈ routes

namespace BookHolds

variable {r : Register Int} {routes routes' : List (Int × Int)}

theorem congr (h : BookHolds r routes) (hroutes : ∀ p, p ∈ routes' ↔ p ∈ routes) :
    BookHolds r routes' :=
  ⟨h.ok, h.bound, fun t => (h.mem t).trans (exists_congr fun i => (hroutes (i, t)).symm)⟩

theorem enter (h : BookHolds r routes) {t : Int} (ht : t ∉ r.held)
    (hroom : r.held.length < maxIfaceEntries) (i : Int) :
    BookHolds (r.enter t) (routes.insert (i, t)) := by
  refine ⟨h.ok.enter ht, ?_, fun t' => ?_⟩
  · rw [Register.enter, List.length_append]
    exact hroom
  · simp only [Register.enter, List.mem_append, List.mem_singleton, List.mem_insert_iff,
      Prod.mk.injEq, h.mem t']
    constructor
    · rintro (⟨j, hj⟩ | rfl)
      · exact ⟨j, Or.inr hj⟩
      · exact ⟨i, Or.inl ⟨rfl, rfl⟩⟩
    · rintro ⟨j, ⟨-, rfl⟩ | hj⟩
      · exact Or.inr rfl
      · exact Or.inl ⟨j, hj⟩

theorem leave (h : BookHolds r routes) (t : Int) {i : Int} (howner : ∀ p ∈ routes, p.1 = i) :
    BookHolds (r.leave t) (routes.filter (· ≠ (i, t))) := by
  refine ⟨h.ok.leave t, ?_, fun t' => ?_⟩
  · rw [Register.leave_held]
    exact (List.length_erase_le).trans h.bound
  · rw [Register.leave_held, h.ok.nodup.mem_erase_iff, h.mem t']
    simp only [List.mem_filter, decide_eq_true_eq]
    constructor
    · rintro ⟨hne, j, hj⟩
      exact ⟨j, hj, fun heq => hne (Prod.mk.inj heq).2⟩
    · rintro ⟨j, hj, hne⟩
      refine ⟨?_, j, hj⟩
      rintro rfl
      exact hne (Prod.ext (howner _ hj) rfl)

theorem leaveAll (h : BookHolds r routes) : BookHolds r.leaveAll [] := by
  have hheld := Register.leaveAll_held h.ok
  refine ⟨h.ok.leaveAll, ?_, fun t => ?_⟩
  · rw [hheld]
    exact Nat.zero_le _
  · rw [hheld]
    exact iff_of_false List.not_mem_nil fun ⟨_, hi⟩ => List.not_mem_nil hi

end BookHolds

/-- The tables hold the upstream routes, all through one live interface, which is the
active one if there is one. -/
structure TethersOk (x : Traffic) : Prop where
  flags : FlagsOk x.sys
  book : ∀ f, BookHolds (x.sys.static.book f) (x.upstream f)
  owner : ∀ f, ∀ p ∈ x.upstream f, ∀ q ∈ x.upstream f, p.1 = q.1
  live : ∀ f, ∀ p ∈ x.upstream f, p.1 ∈ x.sys.wans.map Wan.ipaIfNum
  active : ∀ f, ∀ p ∈ x.upstream f, ∀ w ∈ x.sys.wans, w.active.get f = true → w.ipaIfNum = p.1

section

variable {e : Event} {order : List Wan} {s : Static}

theorem deliver_book (hdistinct : (order.map Wan.ipaIfNum).Nodup) {w : Wan} (hw : w ∈ order)
    (hindex : e.index = w.ipaIfNum) (g : IpType) :
    (System.deliver .succeeding e order s).static.book g = w.bookAfter e g (s.book g) := by
  obtain ⟨l, l', rfl⟩ := List.append_of_mem hw
  refine deliver_one (o := fun s : Static => s.book g) ?_
    (fun s => Wan.eventCallback_book e w s g) s
  intro o ho s
  rw [Wan.eventCallback_book, Wan.bookAfter_other]
  rw [hindex]
  intro heq
  have hperm : (l ++ w :: l').Perm (w :: (l ++ l')) := List.perm_middle
  have hnodup := (hperm.map Wan.ipaIfNum).nodup_iff.mp hdistinct
  rw [List.map_cons, List.nodup_cons] at hnodup
  exact hnodup.1 (heq ▸ List.mem_map_of_mem ho)

theorem mem_left_iff (hdistinct : (order.map Wan.ipaIfNum).Nodup) {w : Wan} (hw : w ∈ order) :
    w.ipaIfNum ∈ (System.deliver .succeeding e order s).wans.map Wan.ipaIfNum ↔
      (w.stationDown e || w.modemDown e) = false := by
  constructor
  · intro hmem
    obtain ⟨w', hw', hnum⟩ := List.mem_map.mp hmem
    obtain ⟨o, ho, s', hleft⟩ := mem_deliver hw'
    have hkind : w'.ipaIfNum = o.ipaIfNum := congrArg Prod.fst (Wan.eventCallback_kind hleft)
    obtain rfl : o = w := List.inj_on_of_nodup_map hdistinct ho hw (hkind.symm.trans hnum)
    apply Bool.eq_false_iff.mpr
    intro hdown
    rw [Wan.eventCallback_goesDown hdown] at hleft
    cases hleft
  · intro hstays
    obtain ⟨w', hw', hnum⟩ := exists_mem_deliver (P := fun w' : Wan => w'.ipaIfNum = w.ipaIfNum)
      hw (fun s => by
        obtain ⟨w', hleft⟩ := Wan.eventCallback_isSome hstays s
        exact ⟨w', hleft, congrArg Prod.fst (Wan.eventCallback_kind hleft)⟩) s
    exact List.mem_map.mpr ⟨w', hw', hnum⟩

theorem deliver_book_id (hid : ∀ (w : Wan) g r, w.bookAfter e g r = r) (g : IpType) :
    (System.deliver .succeeding e order s).static.book g = s.book g := by
  refine deliver_same (o := fun s : Static => s.book g) ?_ s
  intro w _ s
  rw [Wan.eventCallback_book, hid]

theorem mem_upstreamAfter {upstream : IpType → List (Int × Int)} {left : List Wan} {f : IpType}
    {p : Int × Int} :
    p ∈ upstreamAfter upstream e order left f ↔ p ∈ upstreamChange e f (upstream f) ∧
      (p.1 ∈ order.map Wan.ipaIfNum → p.1 ∈ left.map Wan.ipaIfNum) := by
  rw [upstreamAfter, List.mem_filter, decide_eq_true_eq]

theorem mem_upstreamAfter_of_stays {u : IpType → List (Int × Int)} {f : IpType}
    (hdistinct : (order.map Wan.ipaIfNum).Nodup)
    (hstays : ∀ w : Wan, (w.stationDown e || w.modemDown e) = false) (p : Int × Int) :
    p ∈ upstreamAfter u e order (System.deliver .succeeding e order s).wans f ↔
      p ∈ upstreamChange e f (u f) := by
  rw [mem_upstreamAfter]
  refine and_iff_left ?_
  intro hmem
  obtain ⟨w, hw, hnum⟩ := List.mem_map.mp hmem
  rw [← hnum]
  exact (mem_left_iff hdistinct hw).mpr (hstays w)

end

section

variable {x : Traffic} {e : Event} {order : List Wan}

theorem deliver_book_of_idle (h : TethersOk x) (hdistinct : (order.map Wan.ipaIfNum).Nodup)
    (hid : ∀ (w : Wan) g r, w.bookAfter e g r = r) (hchange : ∀ f l, upstreamChange e f l = l)
    (hstays : ∀ w : Wan, (w.stationDown e || w.modemDown e) = false) (f : IpType) :
    BookHolds ((System.deliver .succeeding e order x.sys.static).static.book f)
      (upstreamAfter x.upstream e order
        (System.deliver .succeeding e order x.sys.static).wans f) := by
  rw [deliver_book_id hid]
  refine (h.book f).congr fun p => ?_
  rw [mem_upstreamAfter_of_stays hdistinct hstays, hchange]

theorem deliver_book_add (h : TethersOk x) (hdistinct : (order.map Wan.ipaIfNum).Nodup)
    {index : Int} {iptype : IpType} {t : Int}
    (hfits : x.Fits (.upstreamRouteAdd index iptype t) order) (f : IpType) :
    BookHolds ((System.deliver .succeeding (.upstreamRouteAdd index iptype t) order
        x.sys.static).static.book f)
      (upstreamAfter x.upstream (.upstreamRouteAdd index iptype t) order
        (System.deliver .succeeding (.upstreamRouteAdd index iptype t) order
          x.sys.static).wans f) := by
  obtain ⟨⟨w, hw, hindex, hsup⟩, hnew, hroom, -⟩ := hfits.add index iptype t rfl
  have hroutes := mem_upstreamAfter_of_stays (s := x.sys.static) (u := x.upstream) (f := f)
    (e := .upstreamRouteAdd index iptype t) hdistinct fun _ => rfl
  rw [deliver_book (e := .upstreamRouteAdd index iptype t) hdistinct hw hindex.symm,
    Wan.bookAfter]
  rcases eq_or_ne iptype f with rfl | hne
  · rw [if_pos ⟨hindex.symm, rfl, hsup⟩]
    refine ((h.book iptype).enter hnew hroom index).congr fun p => ?_
    rw [hroutes, upstreamChange, if_pos rfl]
  · rw [if_neg fun hown => hne hown.2.1]
    refine (h.book f).congr fun p => ?_
    rw [hroutes, upstreamChange, if_neg hne]

theorem deliver_book_del (h : TethersOk x) (hperm : order.Perm x.sys.wans)
    (hdistinct : (order.map Wan.ipaIfNum).Nodup) {index : Int} {iptype : IpType} {t : Int}
    (hfits : x.Fits (.upstreamRouteDel index iptype t) order) (f : IpType) :
    BookHolds ((System.deliver .succeeding (.upstreamRouteDel index iptype t) order
        x.sys.static).static.book f)
      (upstreamAfter x.upstream (.upstreamRouteDel index iptype t) order
        (System.deliver .succeeding (.upstreamRouteDel index iptype t) order
          x.sys.static).wans f) := by
  have hroutes := mem_upstreamAfter_of_stays (s := x.sys.static) (u := x.upstream) (f := f)
    (e := .upstreamRouteDel index iptype t) hdistinct fun _ => rfl
  -- the route goes where its interface is active, and is not there otherwise
  rcases Classical.em (∃ w ∈ order, w.ipaIfNum = index ∧ w.active.get iptype = true) with
    ⟨w, hw, hindex, hactive⟩ | hidle
  · rw [deliver_book (e := .upstreamRouteDel index iptype t) hdistinct hw hindex.symm,
      Wan.bookAfter]
    rcases eq_or_ne iptype f with rfl | hne
    · rw [if_pos ⟨hindex.symm, rfl, hactive⟩]
      have howner : ∀ p ∈ x.upstream iptype, p.1 = index := fun p hp =>
        (h.active iptype p hp w (hperm.mem_iff.mp hw) hactive).symm.trans hindex
      refine ((h.book iptype).leave t howner).congr fun p => ?_
      rw [hroutes, upstreamChange, if_pos rfl]
    · rw [if_neg fun hown => hne hown.2.1]
      refine (h.book f).congr fun p => ?_
      rw [hroutes, upstreamChange, if_neg hne]
  · have hsame : ∀ w ∈ order, ∀ s, ((w.eventCallback .succeeding
        (.upstreamRouteDel index iptype t) s).2).book f = s.book f := by
      intro w hw s
      rw [Wan.eventCallback_book, Wan.bookAfter, if_neg]
      exact fun hown => hidle ⟨w, hw, hown.1.symm, hown.2.2⟩
    have hbook := deliver_same (o := fun s : Static => s.book f) hsame x.sys.static
    change BookHolds (Static.book (Broadcast.deliver _ order x.sys.static).2 f) _
    rw [show Static.book (Broadcast.deliver _ order x.sys.static).2 f = _ from hbook]
    refine (h.book f).congr fun p => ?_
    rw [hroutes, upstreamChange]
    split
    · rename_i heq
      subst heq
      simp only [List.mem_filter, decide_eq_true_eq]
      refine and_iff_left_of_imp ?_
      rintro hp rfl
      exact hidle (hfits.del index iptype t rfl hp)
    · exact Iff.rfl

theorem mem_upstreamAfter_of_down (h : TethersOk x) (hperm : order.Perm x.sys.wans)
    (hdistinct : (order.map Wan.ipaIfNum).Nodup) {f : IpType}
    (hchange : ∀ l, upstreamChange e f l = l) {p : Int × Int} :
    p ∈ upstreamAfter x.upstream e order
        (System.deliver .succeeding e order x.sys.static).wans f ↔
      p ∈ x.upstream f ∧ ∀ w ∈ order, w.ipaIfNum = p.1 →
        (w.stationDown e || w.modemDown e) = false := by
  rw [mem_upstreamAfter, hchange]
  refine and_congr_right fun hp => ?_
  have hlive : p.1 ∈ order.map Wan.ipaIfNum :=
    (hperm.map Wan.ipaIfNum).mem_iff.mpr (h.live f p hp)
  constructor
  · intro hleft w hw hnum
    have hmem := hleft hlive
    rw [← hnum] at hmem
    exact (mem_left_iff hdistinct hw).mp hmem
  · intro hstays _
    obtain ⟨w, hw, hnum⟩ := List.mem_map.mp hlive
    rw [← hnum]
    exact (mem_left_iff hdistinct hw).mpr (hstays w hw hnum)

theorem deliver_book_wlanLinkDown (h : TethersOk x) (hperm : order.Perm x.sys.wans)
    (hdistinct : (order.map Wan.ipaIfNum).Nodup) {index : Int}
    (hfits : x.Fits (.wlanLinkDown index) order) (f : IpType) :
    BookHolds ((System.deliver .succeeding (.wlanLinkDown index) order x.sys.static).static.book f)
      (upstreamAfter x.upstream (.wlanLinkDown index) order
        (System.deliver .succeeding (.wlanLinkDown index) order x.sys.static).wans f) := by
  rw [deliver_book_id fun _ _ _ => rfl]
  refine (h.book f).congr fun p => ?_
  rw [mem_upstreamAfter_of_down h hperm hdistinct fun _ => rfl]
  refine and_iff_left_of_imp fun hp w hw hnum => ?_
  apply Bool.eq_false_iff.mpr
  intro hdown
  rw [show w.modemDown (.wlanLinkDown index) = false from rfl, Bool.or_false] at hdown
  exact hfits.station w hw hdown f p hp hnum.symm

theorem deliver_book_linkDown (h : TethersOk x) (hperm : order.Perm x.sys.wans)
    (hdistinct : (order.map Wan.ipaIfNum).Nodup) {index : Int}
    (hfits : x.Fits (.linkDown index) order) (f : IpType) :
    BookHolds ((System.deliver .succeeding (.linkDown index) order x.sys.static).static.book f)
      (upstreamAfter x.upstream (.linkDown index) order
        (System.deliver .succeeding (.linkDown index) order x.sys.static).wans f) := by
  have hroutes := fun p => mem_upstreamAfter_of_down (e := .linkDown index) (f := f) (p := p)
    h hperm hdistinct fun _ => rfl
  rcases Classical.em (∃ w ∈ order, w.modemDown (.linkDown index) = true ∧ w.clears f = true) with
    ⟨w, hw, hdown, hclears⟩ | hkeeps
  · have hindex : index = w.ipaIfNum := of_decide_eq_true (Bool.and_eq_true_iff.mp hdown).2
    rw [deliver_book (e := .linkDown index) hdistinct hw hindex, Wan.bookAfter,
      if_pos ⟨hdown, hclears⟩]
    refine (h.book f).leaveAll.congr fun p => ?_
    rw [hroutes p]
    refine iff_of_false ?_ List.not_mem_nil
    rintro ⟨hp, hstays⟩
    have hgone := hstays w hw ((hfits.modem w hw hdown f p hp).mpr hclears).symm
    rw [hdown, Bool.or_true] at hgone
    cases hgone
  · have hsame : ∀ w ∈ order, ∀ s, ((w.eventCallback .succeeding (.linkDown index) s).2).book f
        = s.book f := by
      intro w hw s
      rw [Wan.eventCallback_book, Wan.bookAfter, if_neg]
      exact fun hown => hkeeps ⟨w, hw, hown⟩
    have hbook := deliver_same (o := fun s : Static => s.book f) hsame x.sys.static
    change BookHolds (Static.book (Broadcast.deliver _ order x.sys.static).2 f) _
    rw [show Static.book (Broadcast.deliver _ order x.sys.static).2 f = _ from hbook]
    refine (h.book f).congr fun p => ?_
    rw [hroutes p]
    refine and_iff_left_of_imp fun hp w hw hnum => ?_
    apply Bool.eq_false_iff.mpr
    intro hdown
    rcases Bool.or_eq_true_iff.mp hdown with hsta | hmodem
    · exact hfits.station w hw hsta f p hp hnum.symm
    · exact hkeeps ⟨w, hw, hmodem, (hfits.modem w hw hmodem f p hp).mp hnum.symm⟩

theorem deliver_bookHolds (h : TethersOk x) (hperm : order.Perm x.sys.wans)
    (hdistinct : (order.map Wan.ipaIfNum).Nodup) (hfits : x.Fits e order) (f : IpType) :
    BookHolds ((System.deliver .succeeding e order x.sys.static).static.book f)
      (upstreamAfter x.upstream e order
        (System.deliver .succeeding e order x.sys.static).wans f) := by
  cases e with
  | wlanLinkDown index => exact deliver_book_wlanLinkDown h hperm hdistinct hfits f
  | linkDown index => exact deliver_book_linkDown h hperm hdistinct hfits f
  | upstreamRouteAdd index iptype t => exact deliver_book_add h hdistinct hfits f
  | upstreamRouteDel index iptype t => exact deliver_book_del h hperm hdistinct hfits f
  | _ => exact deliver_book_of_idle h hdistinct (fun _ _ _ => rfl) (fun _ _ => rfl)
          (fun _ => rfl) f

theorem mem_upstreamChange {f : IpType} {l : List (Int × Int)} {p : Int × Int}
    (h : p ∈ upstreamChange e f l) :
    p ∈ l ∨ ∃ index t, e = .upstreamRouteAdd index f t ∧ p = (index, t) := by
  cases e with
  | upstreamRouteAdd index iptype t =>
      rw [upstreamChange] at h
      split at h
      · rename_i heq
        subst heq
        rcases List.mem_insert_iff.mp h with rfl | h
        · exact Or.inr ⟨index, t, rfl, rfl⟩
        · exact Or.inl h
      · exact Or.inl h
  | upstreamRouteDel index iptype t =>
      rw [upstreamChange] at h
      split at h
      · exact Or.inl (List.mem_filter.mp h).1
      · exact Or.inl h
  | _ => exact Or.inl h

theorem deliver_tethersOk (h : TethersOk x) (hperm : order.Perm x.sys.wans)
    (hfits : x.Fits e order) :
    TethersOk ⟨System.deliver .succeeding e order x.sys.static,
      upstreamAfter x.upstream e order
        (System.deliver .succeeding e order x.sys.static).wans⟩ := by
  have hdistinct : (order.map Wan.ipaIfNum).Nodup :=
    (hperm.map Wan.ipaIfNum).nodup_iff.mpr h.flags.distinct
  refine ⟨deliver_flagsOk h.flags hperm hfits.orderly, deliver_bookHolds h hperm hdistinct hfits,
    fun f p hp q hq => ?_, fun f p hp => ?_, fun f p hp w' hw' hactive => ?_⟩
  · rcases mem_upstreamChange (mem_upstreamAfter.mp hp).1 with hold | ⟨index, t, rfl, rfl⟩
    · rcases mem_upstreamChange (mem_upstreamAfter.mp hq).1 with hold' | ⟨index, t, rfl, rfl⟩
      · exact h.owner f p hold q hold'
      · exact (hfits.add index f t rfl).2.2.2 p hold
    · rcases mem_upstreamChange (mem_upstreamAfter.mp hq).1 with hold | ⟨index', t', heq, rfl⟩
      · exact ((hfits.add index f t rfl).2.2.2 q hold).symm
      · cases heq
        rfl
  · obtain ⟨hp, hleft⟩ := mem_upstreamAfter.mp hp
    apply hleft
    rcases mem_upstreamChange hp with hold | ⟨index, t, rfl, rfl⟩
    · exact (hperm.map Wan.ipaIfNum).mem_iff.mpr (h.live f p hold)
    · obtain ⟨w, hw, hindex, -⟩ := (hfits.add index f t rfl).1
      exact hindex ▸ List.mem_map_of_mem hw
  · obtain ⟨w, hw, s', hleft⟩ := mem_deliver hw'
    have hfit := h.flags.fit w (hperm.mem_iff.mp hw)
    have hnum : w'.ipaIfNum = w.ipaIfNum := congrArg Prod.fst (Wan.eventCallback_kind hleft)
    rw [hnum]
    rcases mem_upstreamChange (mem_upstreamAfter.mp hp).1 with hold | ⟨index, t, rfl, rfl⟩
    · rcases Wan.eventCallback_active hfit hleft hactive with hbefore | hup
      · exact h.active f p hold w (hperm.mem_iff.mp hw) hbefore
      · exact (hfits.up w hw f hup p hold).symm
    · -- the others lose the route
      rcases eq_or_ne index w.ipaIfNum with heq | hne
      · exact heq.symm
      · have hlost := (Wan.eventCallback_other hfit hleft hne).2 f rfl
        exact absurd (hlost.symm.trans hactive) Bool.false_ne_true

end

theorem construct_tethersOk {x : Traffic} (h : TethersOk x) {w : Wan} (hw : w.Constructed)
    (hnew : ∀ o ∈ x.sys.wans, o.ipaIfNum ≠ w.ipaIfNum) :
    TethersOk ⟨{ x.sys with wans := x.sys.wans ++ [w] }, x.upstream⟩ := by
  refine ⟨construct_flagsOk h.flags hw hnew, h.book, h.owner, fun f p hp => ?_,
    fun f p hp o ho hactive => ?_⟩
  · rw [List.map_append]
    exact List.mem_append_left _ (h.live f p hp)
  · rcases List.mem_append.mp ho with ho | ho
    · exact h.active f p hp o ho hactive
    · rw [List.mem_singleton.mp ho, hw.active] at hactive
      cases f <;> cases hactive

/-- What the claim about the tables says of a state. -/
structure TethersTrue (x : Traffic) : Prop where
  nodup : ∀ f, (x.sys.static.ipaIfNumTether.get f).Nodup
  bound : ∀ f, (x.sys.static.ipaIfNumTether.get f).length ≤ maxIfaceEntries
  isWanUP : ∀ f t, x.sys.static.isWanUP f t = true ↔
    ∃ w ∈ x.sys.wans, w.active.get f = true ∧ (w.ipaIfNum, t) ∈ x.upstream f
  alternates : ∀ f t, Register.Alternates ((x.sys.static.book f).marksOf t)

theorem TethersOk.true {x : Traffic} (h : TethersOk x) : TethersTrue x := by
  refine ⟨fun f => (h.book f).ok.nodup, fun f => (h.book f).bound, fun f t => ?_,
    fun f t => (h.book f).ok.alternates t⟩
  have hup := (stands_iff.mp (h.flags.stands f)).1
  have hmem : t ∈ x.sys.static.ipaIfNumTether.get f ↔ ∃ i, (i, t) ∈ x.upstream f :=
    (h.book f).mem t
  rw [Static.isWanUP]
  constructor
  · intro hwan
    split at hwan
    · rename_i ht
      obtain ⟨w, hw, hactive⟩ := hup.mp hwan
      obtain ⟨i, hi⟩ := hmem.mp ht
      exact ⟨w, hw, hactive, h.active f _ hi w hw hactive ▸ hi⟩
    · cases hwan
  · rintro ⟨w, hw, hactive, hroute⟩
    rw [if_pos (hmem.mpr ⟨_, hroute⟩)]
    exact hup.mpr ⟨w, hw, hactive⟩

def Traffic.init : Traffic := ⟨.init, fun _ => []⟩

theorem tethersOk_init : TethersOk .init := by
  refine ⟨flagsOk_init, fun f => ?_, fun _ _ hp => absurd hp List.not_mem_nil,
    fun _ _ hp => absurd hp List.not_mem_nil, fun _ _ hp => absurd hp List.not_mem_nil⟩
  have hbook : Static.init.book f = ⟨[], []⟩ := by cases f <;> rfl
  change BookHolds (Static.init.book f) []
  rw [hbook]
  refine ⟨⟨List.nodup_nil, fun t => ⟨List.isChain_nil, fun h => by cases h⟩, fun t => ?_⟩,
    Nat.zero_le _, fun t => ?_⟩
  · exact iff_of_false (fun h => by cases h) List.not_mem_nil
  · exact iff_of_false List.not_mem_nil fun ⟨_, hi⟩ => List.not_mem_nil hi

/-- In every run of fit events the tables hold each tethered interface once and within their
bound, `isWanUP` says whether it has an upstream route through the active WAN interface,
and the events posted for it alternate. -/
theorem tethersTrue_of_run (calls : List Call) (x : Traffic)
    (hrun : Run (Guarded (fun x call => call.FitsTraffic x) Traffic.Step) .init calls x) :
    TethersTrue x := by
  refine TethersOk.true ?_
  apply hrun.invariant tethersOk_init
  rintro x call ⟨sys', upstream'⟩ h ⟨hfits, hstep, hupstream⟩
  cases call with
  | construct w =>
      obtain ⟨hw, hnew, rfl⟩ := hstep
      obtain rfl : upstream' = x.upstream := hupstream
      exact construct_tethersOk h hw hnew
  | event io e order =>
      obtain ⟨rfl, hfits⟩ := hfits
      obtain ⟨hperm, rfl⟩ := hstep
      obtain rfl : upstream' = upstreamAfter x.upstream e order
        (System.deliver .succeeding e order x.sys.static).wans := hupstream
      exact deliver_tethersOk h hperm hfits

def Traffic.next (x : Traffic) (e : Event) : Traffic :=
  ⟨x.sys.next e, upstreamAfter x.upstream e x.sys.wans (x.sys.next e).wans⟩

theorem Traffic.run_next {ok : Traffic → Call → Prop} {calls : List Call} {x : Traffic} {e : Event}
    (h : Run (Guarded ok Traffic.Step) .init calls x)
    (hok : ok x (.event .succeeding e x.sys.wans)) :
    Run (Guarded ok Traffic.Step) .init (calls ++ [.event .succeeding e x.sys.wans]) (x.next e) :=
  h.snoc ⟨hok, ⟨List.Perm.refl _, rfl⟩, rfl⟩

def carriers : Traffic := ⟨modems, fun _ => []⟩

theorem run_carriers {ok : Traffic → Call → Prop} (hnew : ∀ x w, ok x (.construct w)) :
    Run (Guarded ok Traffic.Step) .init
      [.construct (modem 1 "rmnet_data0"), .construct (modem 2 "rmnet_data1")] carriers := by
  have hfirst : Run (Guarded ok Traffic.Step) .init
      [.construct (modem 1 "rmnet_data0")] ⟨⟨[modem 1 "rmnet_data0"], .init⟩, fun _ => []⟩ :=
    Run.snoc .nil ⟨hnew _ _,
      ⟨modem_constructed _ _, fun o ho => absurd ho List.not_mem_nil, rfl⟩, rfl⟩
  exact hfirst.snoc ⟨hnew _ _, ⟨modem_constructed _ _, by decide, rfl⟩, rfl⟩

/-- Two interfaces are tethered to the first modem and one leaves before it goes down. -/
def tethered : Traffic :=
  ((((carriers.next (.addrAdd 1 (hostAddr .v4))).next (.upstreamRouteAdd 1 .v4 7)).next
    (.upstreamRouteAdd 1 .v4 8)).next (.upstreamRouteDel 1 .v4 7)).next (.linkDown 1)

theorem tethersTrue_tethered : TethersTrue tethered := by
  refine tethersTrue_of_run _ tethered (Traffic.run_next (Traffic.run_next (Traffic.run_next
    (Traffic.run_next (Traffic.run_next (run_carriers fun _ _ => trivial) ?_) ?_) ?_) ?_) ?_)
  all_goals
    refine ⟨rfl, by decide, fun index f t heq => ?_, by decide, fun index f t heq => ?_,
      by decide, by decide⟩
    all_goals cases heq <;> decide

/-- The states that runs reach while the driver calls succeed. -/
def Traffic.Reached (x : Traffic) : Prop :=
  ∃ calls, Run (Guarded (fun _ call => call.Succeeds) Traffic.Step) .init calls x

theorem Traffic.Reached.next {x : Traffic} (h : x.Reached) (e : Event) : (x.next e).Reached := by
  obtain ⟨calls, hrun⟩ := h
  exact ⟨_, Traffic.run_next hrun rfl⟩

/-- The first modem with an upstream route for a tethered interface. -/
def firstRoute : Traffic :=
  (((carriers.next (.addrAdd 1 (hostAddr .v4))).next (.addrAdd 2 (hostAddr .v4))).next
    (.upstreamRouteAdd 1 .v4 7))

theorem reached_firstRoute : firstRoute.Reached :=
  (((show carriers.Reached from ⟨_, run_carriers fun _ _ => trivial⟩).next _).next _).next _

/-- Upstream routes for fifteen more tethered interfaces. -/
def crowded : Traffic :=
  (List.range 15).foldl (fun x (n : Nat) => x.next (.upstreamRouteAdd 1 .v4 (8 + n))) firstRoute

theorem reached_crowded : crowded.Reached := by
  have hfold : ∀ (l : List Nat) (x : Traffic), x.Reached →
      (l.foldl (fun x (n : Nat) => x.next (.upstreamRouteAdd 1 .v4 (8 + n))) x).Reached := by
    intro l
    induction l with
    | nil =>
        intro x hx
        exact hx
    | cons n l ih =>
        intro x hx
        exact ih _ (hx.next _)
  exact hfold (List.range 15) firstRoute reached_firstRoute

/-- A second add enters the interface twice and is announced twice; a sixteenth interface
is entered past the end of the table; and after the default route has moved the table still
has the interfaces whose upstream routes go elsewhere. -/
theorem not_tethersTrue :
    ((firstRoute.next (.upstreamRouteAdd 1 .v4 7)).Reached ∧
      ¬((firstRoute.next (.upstreamRouteAdd 1 .v4 7)).sys.static.ipaIfNumTether.get .v4).Nodup ∧
        ¬Register.Alternates
          (((firstRoute.next (.upstreamRouteAdd 1 .v4 7)).sys.static.book .v4).marksOf 7)) ∧
    (crowded.Reached ∧
      maxIfaceEntries < (crowded.sys.static.ipaIfNumTether.get .v4).length) ∧
    ((firstRoute.next (.routeAdd 2 (defaultRoute .v4))).Reached ∧
      (firstRoute.next (.routeAdd 2 (defaultRoute .v4))).sys.static.isWanUP .v4 7 = true ∧
        ∀ w ∈ (firstRoute.next (.routeAdd 2 (defaultRoute .v4))).sys.wans,
          w.active.get .v4 = true →
            (w.ipaIfNum, 7) ∉ (firstRoute.next (.routeAdd 2 (defaultRoute .v4))).upstream .v4) := by
  refine ⟨⟨reached_firstRoute.next _, by decide, fun h => absurd h.1 (by decide)⟩,
    ⟨reached_crowded, by decide⟩, ⟨reached_firstRoute.next _, by decide, by decide⟩⟩

end LibraDevice.Backhaul
