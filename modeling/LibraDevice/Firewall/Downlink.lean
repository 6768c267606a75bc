import LibraDevice.Firewall.Stores

/-!
The modem instances of `IPACM_Wan` over runs: their number, and the downlink rules that the
modem is given.
-/

namespace LibraDevice.Firewall

open Backhaul Broadcast StepRun

/-- The callbacks are called in an order that suits the flags. The file changes along with
the event that says so, and then each modem is the default gateway exactly for the families
it is active for. -/
def DlCall.Orderly (sys : DlSystem) : DlCall → Prop
  | .construct _ => True
  | .event e order conf =>
      e.Orderly order ∧
        if e = .firewallChange then
          ∀ w ∈ order, w.isSta = false → ∀ f, f ∈ w.firewallFamilies ↔ w.active.get f = true
        else conf = sys.conf

/-- The modems that the call takes down with an IPv6 address and no second one. -/
def DlCall.lone : DlCall → Nat
  | .construct _ => 0
  | .event e order _ =>
      order.countP fun w =>
        w.modemDown e && w.ipType.supports .v6 && decide (w.ipv6Addr.length ≤ 1)

theorem lingering_v4 (call : DlCall) : call.lingering .v4 = 0 := by
  cases call with
  | construct w => rfl
  | event e order conf =>
      apply List.countP_eq_zero.mpr
      intro w _
      rw [lingers, Downlink.dropsPdn, Bool.and_assoc, Bool.and_not_self, Bool.and_false]
      exact Bool.false_ne_true

theorem lingering_v6 (call : DlCall) : call.lingering .v6 = call.lone := by
  cases call with
  | construct w => rfl
  | event e order conf =>
      apply List.countP_congr
      intro w _
      rw [lingers, Downlink.dropsPdn]
      cases w.ipType.supports .v6 <;> simp

/-- In every run, `num_ipv4_modem_pdn` is the number of live modems with an IPv4 address, and
`num_ipv6_modem_pdn` is ahead of those with an IPv6 address by the modems that went down
with a single one. -/
theorem numModemPdn_of_run (su : Setup) (conf : FirewallConf) (calls : List DlCall)
    (sys : DlSystem) (hrun : Run (DlSystem.Step su) (.init conf) calls sys) :
    sys.dl.numModemPdn.v4 = sys.wans.countP (modemSupports .v4) ∧
      sys.dl.numModemPdn.v6 =
        sys.wans.countP (modemSupports .v6) + (calls.map DlCall.lone).sum := by
  have hcount := (counted_of_run hrun).count
  have hnone : ∀ l : List DlCall, (l.map (DlCall.lingering .v4)).sum = 0 := by
    intro l
    induction l with
    | nil => rfl
    | cons call l ih => rw [List.map_cons, List.sum_cons, lingering_v4, ih]
  have hlone : calls.map (DlCall.lingering .v6) = calls.map DlCall.lone :=
    List.map_congr_left fun call _ => lingering_v6 call
  constructor
  · have hv4 := hcount .v4
    rw [hnone] at hv4
    exact hv4
  · have hv6 := hcount .v6
    rw [hlone] at hv6
    exact hv6

/-- All rules are made from zero attributes, and there is no ALG. -/
def plainSetup : Setup := ⟨fun _ => ⟨fun _ => .zero⟩, []⟩

def DlSystem.next (sys : DlSystem) (e : Event) : DlSystem :=
  sys.deliver plainSetup sys.conf e sys.wans

def oneModem : DlSystem := ⟨[modem 1 "rmnet_data0"], .init, .init, .zero⟩

/-- The runs whose events come in an order that suits the tables. -/
def DlReached (calls : List DlCall) (sys : DlSystem) : Prop :=
  Run (Guarded DlCall.Orderly (DlSystem.Step plainSetup)) (.init .zero) calls sys

theorem reached_oneModem : DlReached [.construct (modem 1 "rmnet_data0")] oneModem := by
  refine Run.snoc .nil ⟨trivial, modem_constructed _ _, ?_, fun _ => ⟨rfl, rfl⟩, rfl⟩
  rintro o ⟨⟩

theorem DlReached.next {calls : List DlCall} {sys : DlSystem} (h : DlReached calls sys)
    (hconf : sys.conf = .zero) {e : Event} (hok : e.Orderly sys.wans)
    (hne : e ≠ .firewallChange) :
    DlReached (calls ++ [.event e sys.wans sys.conf]) (sys.next e) := by
  refine Run.snoc h ⟨⟨hok, ?_⟩, List.Perm.refl _, ?_, rfl⟩
  · rw [if_neg hne]
  · rw [hconf]
    rintro (_ | _) <;> rw [WanBudget] <;> decide

/-- The only modem gets one IPv6 address and goes down. -/
def addressed : DlSystem := oneModem.next (.addrAdd 1 (hostAddr .v6))

def countLeft : DlSystem := addressed.next (.linkDown 1)

theorem numModemPdn_countLeft :
    ∃ calls : List DlCall, (calls.map DlCall.lone).sum = 1 ∧ countLeft.wans = [] ∧
      countLeft.dl.numModemPdn.v4 = countLeft.wans.countP (modemSupports .v4) ∧
      countLeft.dl.numModemPdn.v6 =
        countLeft.wans.countP (modemSupports .v6) + (calls.map DlCall.lone).sum := by
  have haddressed := reached_oneModem.next (e := .addrAdd 1 (hostAddr .v6)) rfl (by decide) nofun
  have hrun := haddressed.next (e := .linkDown 1) rfl (by decide) nofun
  exact ⟨_, by decide, rfl, numModemPdn_of_run plainSetup .zero _ countLeft hrun.unguarded⟩

/-- The firewall was read from the file as it is, but for an instance still to be told. -/
def Told (f : IpType) (conf : FirewallConf) (e : Event) (todo : List Wan)
    (x : Int × FirewallConf) : Prop :=
  x.2 = conf ∨ e = .firewallChange ∧ x.1 ∈ (todo.filter (modemActive f)).map Wan.ipaIfNum

/-- Both tables, between two events. -/
structure TablesOk (su : Setup) (Q : Int → Prop) (sys : DlSystem) : Prop where
  flags : FlagsOk ⟨sys.wans, sys.static⟩
  counted : ∃ k, Counted k sys
  stores : ∀ f, ∃ c, Stores su f (fun x => x.2 = sys.conf) Q sys.wans sys.dl c
  synced : sys.dl.Synced
  rx : ∀ w ∈ sys.wans, w.isSta = false → Q w.ipaIfNum

section

variable {su : Setup} {conf : FirewallConf} {e : Event} {order done todo : List Wan} {w : Wan}
  {f : IpType} {Q : Int → Prop} {sys : DlSystem}

theorem Told.tail {x : Int × FirewallConf} (h : Told f conf e (w :: todo) x)
    (hw : e ≠ .firewallChange ∨ modemActive f w = false) : Told f conf e todo x := by
  rcases h with h | ⟨hchange, hmem⟩
  · exact Or.inl h
  · rcases hw with hne | hidle
    · exact absurd hchange hne
    · rw [List.filter_cons, hidle, if_neg Bool.false_ne_true] at hmem
      exact Or.inr ⟨hchange, hmem⟩

theorem modemActive_of_active {o : Wan} (h : o.active.get f = false) : modemActive f o = false := by
  rw [modemActive, h]
  exact Bool.and_false _

theorem suits_of_underway (hok : e.Orderly order)
    (hchange : e = .firewallChange → ∀ w ∈ order, w.isSta = false →
      ∀ f, f ∈ w.firewallFamilies ↔ w.active.get f = true)
    (h : Underway e f order done (w :: todo)) (s : Static) :
    Suits f e w (w.eventCallback .succeeding e s).1 (done ++ todo) := by
  obtain ⟨horder, hw⟩ := h.fit w List.mem_cons_self
  refine ⟨?_, ?_, fun he hsta => hchange he w horder hsta f⟩
  · intro hidle hraised o ho
    have hmove := h.flagMove (s := s) hok
    rcases hleft : (w.eventCallback .succeeding e s).1 with _ | w'
    · rw [hleft] at hraised
      cases hraised
    · rw [hleft, Option.any_some] at hraised hmove
      rw [modemActive, Bool.and_eq_true, Bool.not_eq_true',
        kind_isSta (Wan.eventCallback_kind hleft)] at hraised
      rw [modemActive_modem hraised.1] at hidle
      rw [hidle, hraised.2] at hmove
      generalize s.wanUp.get f = up at hmove
      generalize (w.eventCallback .succeeding e s).2.wanUp.get f = up' at hmove
      cases hmove with
      | raised _ halone => exact modemActive_of_active (halone o ho)
  · intro hdown
    have hclears := hok.down w horder hdown f
    by_cases hif : w.clears f = true
    · rw [if_pos hif] at hclears ⊢
      intro o ho
      cases e with
      | linkDown index =>
          have hindex : index = w.ipaIfNum := by
            rw [Wan.modemDown, Bool.and_eq_true, decide_eq_true_eq, decide_eq_true_eq] at hdown
            exact hdown.2
          rcases hactive : o.active.get f with _ | _
          · exact modemActive_of_active hactive
          · have hcradle := hclears o (h.mem_order rfl hindex ho) (h.ne ho) hactive
            rw [Wan.cradleDown, decide_eq_true_eq] at hcradle
            apply modemActive_station
            rw [Wan.isSta, hcradle]
            rfl
      | _ => cases hdown
    · rw [if_neg hif] at hclears ⊢
      exact hclears

/-- The loop of `ProcessEvt`, for one table. -/
structure Loaded (su : Setup) (conf : FirewallConf) (e : Event) (order : List Wan) (f : IpType)
    (Q : Int → Prop) (done todo : List Wan) (x : Static × Downlink) : Prop where
  underway : Underway e f order done todo
  live : ∀ w ∈ done ++ todo, w.Fit ∧ AddrOk w ∧ (w.isSta = false → Q w.ipaIfNum)
  count : ∃ k : Nat, x.2.numModemPdn.get f = (done ++ todo).countP (modemSupports f) + k
  stores : ∃ c, Stores su f (Told f conf e todo) Q (done ++ todo) x.2 c

theorem Called.counted {s : Static} {d d' : Downlink} {r : Option Wan} {k : Nat}
    (h : Called su conf e w s d r d') (hok : AddrOk w)
    (hcount : d.numModemPdn.get f = (done ++ w :: todo).countP (modemSupports f) + k) :
    ∃ k' : Nat,
      d'.numModemPdn.get f = (done ++ r.toList ++ todo).countP (modemSupports f) + k' := by
  have hstep := h.counts hok f
  have hsplit : done ++ w :: todo = done ++ (some w).toList ++ todo := by simp
  rw [hsplit, countP_insert, Option.any_some] at hcount
  refine ⟨k + (lingers f e w).toNat, ?_⟩
  rw [countP_insert]
  push_cast
  omega

theorem Loaded.next {s : Static} {d : Downlink}
    (h : Loaded su conf e order f Q done (w :: todo) (s, d)) (hok : e.Orderly order)
    (hchange : e = .firewallChange → ∀ w ∈ order, w.isSta = false →
      ∀ f, f ∈ w.firewallFamilies ↔ w.active.get f = true) :
    Loaded su conf e order f Q (done ++ (react su conf e w (s, d)).1.toList) todo
      (react su conf e w (s, d)).2 := by
  obtain ⟨hunderway, hlive, ⟨k, hcount⟩, c, hstores⟩ := h
  obtain ⟨hw, haddr, hQ⟩ := hlive w (List.mem_append_right done List.mem_cons_self)
  have hcalled := react_called hw su conf e s d
  have hrest : ∀ o ∈ done ++ todo, o ∈ done ++ w :: todo := by
    intro o ho
    rcases List.mem_append.mp ho with ho | ho
    · exact List.mem_append_left _ ho
    · exact List.mem_append_right _ (List.mem_cons_of_mem w ho)
  obtain ⟨k', hcount'⟩ := hcalled.counted haddr hcount
  refine ⟨hunderway.next, ?_, ⟨k', hcount'⟩, ?_⟩
  · intro o ho
    rw [List.append_assoc] at ho
    rcases List.mem_append.mp ho with ho | ho
    · exact hlive o (List.mem_append_left _ ho)
    · rcases List.mem_append.mp ho with ho | ho
      · have ho := Option.mem_toList.mp ho
        have hkind := Wan.eventCallback_kind ho
        refine ⟨Wan.eventCallback_fit hw ho, hcalled.addrOk haddr o ho, ?_⟩
        rw [kind_isSta hkind, kind_ipaIfNum hkind]
        exact hQ
      · exact hlive o (List.mem_append_right _ (List.mem_cons_of_mem w ho))
  · refine hstores.called hcalled hcount hcount' hw haddr
      (fun o ho => (hlive o (hrest o ho)).1)
      (suits_of_underway hok hchange hunderway s) hQ ?_ ?_ (Or.inl rfl)
    · exact fun hne x hx => hx.tail (Or.inl hne)
    · exact fun hidle x hx => hx.tail (Or.inr hidle)

/-- Before the first callback. The instance whose firewall is in the table is still to be
told of the file, if it changes. -/
theorem loaded_start (h : TablesOk su Q sys) (hperm : order.Perm sys.wans)
    (hok : DlCall.Orderly sys (.event e order conf)) (f : IpType) :
    Loaded su conf e order f Q [] order (sys.static, sys.dl) := by
  obtain ⟨horder, hfile⟩ := hok
  obtain ⟨k, hcounted⟩ := h.counted
  obtain ⟨c, hstores⟩ := h.stores f
  have howned := hstores.owned.perm hperm
  refine ⟨⟨?_, ?_, horder.route f, ?_⟩, ?_, ⟨k f, ?_⟩, c, hstores.holds, hstores.dft,
    hstores.firewall, howned, ?_, hstores.rx⟩
  · exact (hperm.map Wan.ipaIfNum).nodup_iff.mpr h.flags.distinct
  · exact fun w hw => ⟨hw, (hcounted.fit w (hperm.mem_iff.mp hw)).1⟩
  · rintro w ⟨⟩
  · intro w hw
    have hmem := hperm.mem_iff.mp hw
    exact ⟨(hcounted.fit w hmem).1, (hcounted.fit w hmem).2, h.rx w hmem⟩
  · rw [List.nil_append, hperm.countP_eq (modemSupports f)]
    exact hcounted.count f
  · intro x hx
    by_cases he : e = .firewallChange
    · have hname : x.1 ∈ c.firewall.map Prod.fst := by
        rw [hx]
        rfl
      refine Or.inr ⟨he, ?_⟩
      rw [Owned] at howned
      rw [howned]
      exact Option.mem_toList.mpr hname
    · left
      rw [if_neg he] at hfile
      rw [hfile]
      exact hstores.known x hx

theorem deliver_stores (h : TablesOk su Q sys) (hperm : order.Perm sys.wans)
    (hok : DlCall.Orderly sys (.event e order conf)) (f : IpType) :
    ∃ c, Stores su f (fun x => x.2 = conf) Q (sys.deliver su conf e order).wans
      (sys.deliver su conf e order).dl c := by
  have hchange : e = .firewallChange → ∀ w ∈ order, w.isSta = false →
      ∀ f, f ∈ w.firewallFamilies ↔ w.active.get f = true := by
    intro he
    have hfile := hok.2
    rwa [if_pos he] at hfile
  have hloop := @deliver_invariant _ _ (react su conf e) (Loaded su conf e order f Q)
    (fun _ _ _ _ hinv => hinv.next hok.1 hchange)
    order [] (sys.static, sys.dl) (loaded_start h hperm hok f)
  obtain ⟨c, hend⟩ := hloop.stores
  rw [List.nil_append, List.append_nil] at hend
  refine ⟨c, hend.holds, hend.dft, hend.firewall, hend.owned, ?_, hend.rx⟩
  intro x hx
  rcases hend.known x hx with htold | ⟨-, hmem⟩
  · exact htold
  · cases hmem

theorem react_fst (su : Setup) (conf : FirewallConf) (e : Event) (w : Wan) (s : Static)
    (d : Downlink) : (react su conf e w (s, d)).1 = (w.eventCallback .succeeding e s).1 ∧
      (react su conf e w (s, d)).2.1 = (w.eventCallback .succeeding e s).2 :=
  ⟨rfl, rfl⟩

theorem deliver_synced (h : TablesOk su Q sys) (hperm : order.Perm sys.wans) :
    (sys.deliver su conf e order).dl.Synced := by
  have hfit : ∀ w ∈ order, w.Fit := fun w hw => h.flags.fit w (hperm.mem_iff.mp hw)
  have hloop := @deliver_invariant _ _ (react su conf e)
    (fun _ todo x => (∀ w ∈ todo, w.Fit) ∧ x.2.Synced)
    (fun done w todo x hinv => by
      obtain ⟨s, d⟩ := x
      obtain ⟨htodo, hd⟩ := hinv
      refine ⟨fun o ho => htodo o (List.mem_cons_of_mem w ho), ?_⟩
      exact (react_called (htodo w List.mem_cons_self) su conf e s d).synced hd)
    order [] (sys.static, sys.dl) ⟨hfit, h.synced⟩
  exact hloop.2

theorem deliver_rx (h : TablesOk su Q sys) (hperm : order.Perm sys.wans) :
    ∀ w ∈ (sys.deliver su conf e order).wans, w.isSta = false → Q w.ipaIfNum := by
  refine deliver_forall ?_ order (sys.static, sys.dl) fun w hw => h.rx w (hperm.mem_iff.mp hw)
  intro w x w' hw hleft
  have hkind := Wan.eventCallback_kind hleft
  rw [kind_isSta hkind, kind_ipaIfNum hkind]
  exact hw

theorem deliver_tablesOk (h : TablesOk su Q sys) (hperm : order.Perm sys.wans)
    (hok : DlCall.Orderly sys (.event e order conf)) :
    TablesOk su Q (sys.deliver su conf e order) := by
  obtain ⟨k, hcounted⟩ := h.counted
  obtain ⟨hwans, hstatic⟩ := deliver_fst (react_fst su conf e) order sys.static sys.dl
  have hflags := deliver_flagsOk h.flags hperm hok.1
  refine ⟨?_, ⟨_, deliver_counted hcounted hperm⟩, deliver_stores h hperm hok,
    deliver_synced h hperm, deliver_rx h hperm⟩
  have hsame : System.mk (sys.deliver su conf e order).wans
      (sys.deliver su conf e order).static =
        System.deliver .succeeding e order sys.static := by
    rw [DlSystem.deliver, System.deliver]
    dsimp only
    rw [hwans, hstatic]
  rw [hsame]
  exact hflags

theorem construct_tablesOk (h : TablesOk su Q sys) (hw : w.Constructed)
    (hnew : ∀ o ∈ sys.wans, o.ipaIfNum ≠ w.ipaIfNum)
    (hmodem : w.isSta = false → w.isEmbmsIf = false ∧ w.hasRxProp = true)
    (hQ : w.isSta = false → Q w.ipaIfNum) :
    TablesOk su Q { sys with wans := sys.wans ++ [w] } := by
  obtain ⟨k, hcounted⟩ := h.counted
  refine ⟨construct_flagsOk h.flags hw hnew, ⟨k, construct_counted hcounted hw hmodem⟩, ?_,
    h.synced, ?_⟩
  · intro f
    obtain ⟨c, hstores⟩ := h.stores f
    refine ⟨c, hstores.holds, hstores.dft, hstores.firewall, ?_, hstores.known, hstores.rx⟩
    have hidle : modemActive f w = false := by
      rw [modemActive, hw.active]
      cases f <;> exact Bool.and_false _
    have howned := hstores.owned
    rw [Owned] at howned ⊢
    rw [List.filter_append, List.filter_singleton, hidle, cond_false, List.append_nil, howned]
  · intro o ho
    rcases List.mem_append.mp ho with ho | ho
    · exact h.rx o ho
    · rw [List.mem_singleton.mp ho]
      exact hQ

theorem tablesOk_init (su : Setup) (conf : FirewallConf) (Q : Int → Prop) :
    TablesOk su Q (.init conf) := by
  refine ⟨flagsOk_init, ⟨fun _ => 0, ?_⟩, ?_, rfl, fun w hw => absurd hw List.not_mem_nil⟩
  · exact ⟨fun w hw => absurd hw List.not_mem_nil, fun f => by cases f <;> rfl⟩
  · intro f
    refine ⟨⟨none, none⟩, ?_, ?_, fun _ => rfl, rfl, ?_, ?_⟩
    · cases f <;> exact DlTable.holds_empty
    · constructor
      · intro _
        cases f <;> rfl
      · intro _
        rfl
    · rintro x ⟨⟩
    · rintro i ⟨⟩

/-- Of a run, the default rules are a modem's that was constructed in it. -/
theorem TablesOk.of_run {calls : List DlCall}
    (hrun : Run (Guarded DlCall.Orderly (DlSystem.Step su)) (.init conf) calls sys) :
    TablesOk su (fun i => ∃ w, DlCall.construct w ∈ calls ∧ w.isSta = false ∧ w.ipaIfNum = i)
      sys := by
  apply (hrun.guarded fun _ hcall => hcall).invariant (tablesOk_init su conf _)
  rintro sys call sys' h ⟨hmem, hok, hstep⟩
  cases call with
  | construct w =>
      obtain ⟨hw, hnew, hmodem, rfl⟩ := hstep
      exact construct_tablesOk h hw hnew hmodem fun hsta => ⟨w, hmem, hsta, rfl⟩
  | event e order conf =>
      obtain ⟨hperm, -, rfl⟩ := hstep
      exact deliver_tablesOk h hperm hok

end

/-- The only modem gets an IPv4 address and the default route. -/
def routed : DlSystem :=
  (oneModem.next (.addrAdd 1 (hostAddr .v4))).next (.routeAdd 1 (defaultRoute .v4))

end LibraDevice.Firewall
