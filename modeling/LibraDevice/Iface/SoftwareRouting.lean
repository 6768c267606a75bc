import LibraDevice.Backhaul.Iface
import LibraDevice.Lib.StepRun

/-!
Software routing of `IPACM_Iface`: an exception rule for each IP family, added
and deleted one after the other, and one flag set at the end.
-/

namespace LibraDevice.Iface

open Backhaul (IpType Fam Hdl)
open LibraDevice.StepWise

/-- `live` are the exception rules of the interface in the driver, and `passed`
the handles given to `DeleteFilteringHdls`, with whether they were live. -/
structure Routing where
  rxProp : Bool
  softwareroutingAct : Bool
  softwareRoutingFlRuleHdl : Fam Hdl
  live : Fam (List Hdl)
  passed : List (IpType × Hdl × Bool)

namespace Routing

def new (rxProp : Bool) : Routing where
  rxProp := rxProp
  softwareroutingAct := false
  softwareRoutingFlRuleHdl := ⟨0, 0⟩
  live := ⟨[], []⟩
  passed := []

/-- The driver gives a handle that is not zero, and not in use. -/
def Accepts (s : Routing) (ip : IpType) (offer : Option Hdl) : Prop :=
  ∃ h, offer = some h ∧ h ≠ 0 ∧ h ∉ s.live.get ip

/-- `AddFilteringRule` for one rule. The driver refuses it by the result of the
call or by the status of the rule, which the callers take alike. -/
def addFilteringRule (s : Routing) (ip : IpType) (offer : Option Hdl) :
    Option Hdl × Routing :=
  match offer with
  | none => (none, s)
  | some h =>
      if h ≠ 0 ∧ h ∉ s.live.get ip then
        (some h, { s with live := s.live.set (h :: s.live.get ip) ip })
      else (none, s)

/-- `DeleteFilteringHdls` for one handle, which ignores the handle 0. The
driver refuses what is not live. -/
def deleteFilteringHdls (s : Routing) (ip : IpType) (h : Hdl) (willing : Bool) :
    Bool × Routing :=
  let s' := { s with passed := s.passed ++ [(ip, h, decide (h ∈ s.live.get ip))] }
  if h = 0 then (true, s')
  else if willing = true ∧ h ∈ s.live.get ip then
    (true, { s' with live := s.live.set ((s.live.get ip).erase h) ip })
  else (false, s')

def setHdl (s : Routing) (ip : IpType) (h : Hdl) : Routing :=
  { s with softwareRoutingFlRuleHdl := s.softwareRoutingFlRuleHdl.set h ip }

/-- The result is true for `IPACM_SUCCESS`. -/
def handleSoftwareRoutingEnable (s : Routing) (offer : Fam (Option Hdl)) :
    Bool × Routing :=
  if s.softwareroutingAct then (true, s)
  else if s.rxProp = false then (true, s)
  else
    let v4 := s.addFilteringRule .v4 offer.v4
    match v4.1 with
    | none => (false, v4.2)
    | some h4 =>
        let v6 := (v4.2.setHdl .v4 h4).addFilteringRule .v6 offer.v6
        match v6.1 with
        | none => (false, v6.2)
        | some h6 => (true, { v6.2.setHdl .v6 h6 with softwareroutingAct := true })

def handleSoftwareRoutingDisable (s : Routing) (willing : Fam Bool) : Bool × Routing :=
  if s.rxProp = false then (true, s)
  else if s.softwareroutingAct = false then (true, s)
  else
    let v4 := s.deleteFilteringHdls .v4 s.softwareRoutingFlRuleHdl.v4 willing.v4
    if v4.1 = false then (false, v4.2)
    else
      let v6 := v4.2.deleteFilteringHdls .v6 v4.2.softwareRoutingFlRuleHdl.v6 willing.v6
      if v6.1 = false then (false, v6.2)
      else (true, { v6.2 with softwareroutingAct := false })

end Routing

/-- A call, with what the driver answers to what it asks. -/
inductive Call
  | enable (offer : Fam (Option Hdl))
  | disable (willing : Fam Bool)

def exec (s : Routing) : Call → Bool × Routing
  | .enable offer => s.handleSoftwareRoutingEnable offer
  | .disable willing => s.handleSoftwareRoutingDisable willing

def next (s : Routing) (c : Call) : Routing :=
  (exec s c).2

/-- The same call, to a driver that accepts everything. -/
def Retries (s : Routing) : Call → Call → Prop
  | .enable _, .enable offer => ∀ ip, s.Accepts ip (offer.get ip)
  | .disable _, .disable willing => willing.v4 = true ∧ willing.v6 = true
  | _, _ => False

/-- What is to hold after every call. -/
structure Consistent (s : Routing) : Prop where
  act : s.softwareroutingAct = true ↔ s.live.v4 ≠ [] ∧ s.live.v6 ≠ []
  once : ∀ ip, (s.live.get ip).length ≤ 1
  passed : ∀ p ∈ s.passed, p.2.2 = true

/-- What is to hold of a call: it leaves things consistent, and when it fails
so does the same call again, and succeeds. -/
def Right (s : Routing) (c : Call) : Prop :=
  Consistent (next s c) ∧
    ((exec s c).1 = false → ∀ c', Retries (next s c) c c' →
      (exec (next s c) c').1 = true ∧ Consistent (next (next s c) c'))

/-- The IPv6 rule is not refused after the IPv4 rule has been switched. -/
def Whole (s : Routing) : Call → Prop
  | .enable offer => s.softwareroutingAct = false → s.rxProp = true →
      s.Accepts .v4 offer.v4 → s.Accepts .v6 offer.v6
  | .disable willing => s.softwareroutingAct = true → willing.v4 = true → willing.v6 = true

/-- Either both rules are live under the handles kept, or none is. -/
inductive Settled (s : Routing) : Prop
  | off : s.softwareroutingAct = false → s.live = ⟨[], []⟩ → Settled s
  | on : s.rxProp = true → s.softwareroutingAct = true →
      s.live = ⟨[s.softwareRoutingFlRuleHdl.v4], [s.softwareRoutingFlRuleHdl.v6]⟩ →
      s.softwareRoutingFlRuleHdl.v4 ≠ 0 → s.softwareRoutingFlRuleHdl.v6 ≠ 0 → Settled s

/-- The state between two calls. -/
structure Sound (s : Routing) : Prop where
  settled : Settled s
  passed : ∀ p ∈ s.passed, p.2.2 = true

namespace Routing

variable {s : Routing}

theorem addFilteringRule_refused {ip : IpType} {offer : Option Hdl}
    (h : ¬s.Accepts ip offer) : s.addFilteringRule ip offer = (none, s) := by
  rcases offer with _ | hdl
  · rfl
  · rw [addFilteringRule, if_neg]
    rintro ⟨hpos, hnew⟩
    exact h ⟨hdl, rfl, hpos, hnew⟩

theorem addFilteringRule_accepted {ip : IpType} {hdl : Hdl} (hpos : hdl ≠ 0)
    (hnew : hdl ∉ s.live.get ip) :
    s.addFilteringRule ip (some hdl) =
      (some hdl, { s with live := s.live.set (hdl :: s.live.get ip) ip }) := by
  rw [addFilteringRule, if_pos ⟨hpos, hnew⟩]

theorem deleteFilteringHdls_eq {ip : IpType} {hdl : Hdl} (hpos : hdl ≠ 0)
    (hlive : s.live.get ip = [hdl]) (willing : Bool) :
    s.deleteFilteringHdls ip hdl willing =
      (willing, { s with
        live := if willing then s.live.set [] ip else s.live
        passed := s.passed ++ [(ip, hdl, true)] }) := by
  rw [deleteFilteringHdls, if_neg hpos, hlive]
  rcases willing with _ | _
  · simp
  · simp

theorem enable_refused (hact : s.softwareroutingAct = false) (hrx : s.rxProp = true)
    {offer : Fam (Option Hdl)} (h : ¬s.Accepts .v4 offer.v4) :
    s.handleSoftwareRoutingEnable offer = (false, s) := by
  simp [handleSoftwareRoutingEnable, hact, hrx, addFilteringRule_refused h]

/-- The rule and the handle that the first addition leaves. -/
def firstAdded (s : Routing) (h4 : Hdl) : Routing :=
  { s with
    live := ⟨h4 :: s.live.v4, s.live.v6⟩
    softwareRoutingFlRuleHdl := ⟨h4, s.softwareRoutingFlRuleHdl.v6⟩ }

/-- What is left when both additions are accepted. -/
def bothAdded (s : Routing) (h4 h6 : Hdl) : Routing :=
  { s with
    live := ⟨h4 :: s.live.v4, h6 :: s.live.v6⟩
    softwareRoutingFlRuleHdl := ⟨h4, h6⟩
    softwareroutingAct := true }

theorem first_eq {h4 : Hdl} (hpos : h4 ≠ 0) (hnew : h4 ∉ s.live.get .v4) :
    (s.addFilteringRule .v4 (some h4)).1 = some h4 ∧
      (s.addFilteringRule .v4 (some h4)).2.setHdl .v4 h4 = s.firstAdded h4 := by
  rw [addFilteringRule_accepted hpos hnew]
  exact ⟨rfl, rfl⟩

theorem enable_half (hact : s.softwareroutingAct = false) (hrx : s.rxProp = true)
    {offer : Fam (Option Hdl)} {h4 : Hdl} (h4eq : offer.v4 = some h4) (h4pos : h4 ≠ 0)
    (h4new : h4 ∉ s.live.get .v4) (h : ¬s.Accepts .v6 offer.v6) :
    s.handleSoftwareRoutingEnable offer = (false, s.firstAdded h4) := by
  obtain ⟨hsome, hfirst⟩ := first_eq h4pos h4new
  have hrefused : (s.firstAdded h4).addFilteringRule .v6 offer.v6 = (none, s.firstAdded h4) :=
    addFilteringRule_refused h
  simp only [handleSoftwareRoutingEnable, hact, hrx, h4eq, hsome, hfirst, hrefused,
    Bool.false_eq_true, Bool.true_eq_false, if_false]

theorem enable_whole (hact : s.softwareroutingAct = false) (hrx : s.rxProp = true)
    {offer : Fam (Option Hdl)} {h4 h6 : Hdl} (h4eq : offer.v4 = some h4) (h4pos : h4 ≠ 0)
    (h4new : h4 ∉ s.live.get .v4) (h6eq : offer.v6 = some h6) (h6pos : h6 ≠ 0)
    (h6new : h6 ∉ s.live.get .v6) :
    s.handleSoftwareRoutingEnable offer = (true, s.bothAdded h4 h6) := by
  obtain ⟨hsome, hfirst⟩ := first_eq h4pos h4new
  have hadded : (s.firstAdded h4).addFilteringRule .v6 (some h6) =
      (some h6, { s.firstAdded h4 with live := (s.bothAdded h4 h6).live }) :=
    addFilteringRule_accepted h6pos h6new
  simp only [handleSoftwareRoutingEnable, hact, hrx, h4eq, hsome, hfirst, h6eq, hadded,
    Bool.false_eq_true, Bool.true_eq_false, if_false]
  rfl

theorem enable_cases (hact : s.softwareroutingAct = false) (hrx : s.rxProp = true)
    (offer : Fam (Option Hdl)) :
    (¬s.Accepts .v4 offer.v4 ∧ s.handleSoftwareRoutingEnable offer = (false, s)) ∨
    (∃ h4, h4 ∉ s.live.v4 ∧ s.Accepts .v4 offer.v4 ∧ ¬s.Accepts .v6 offer.v6 ∧
      s.handleSoftwareRoutingEnable offer = (false, s.firstAdded h4)) ∨
    (∃ h4 h6, h4 ≠ 0 ∧ h6 ≠ 0 ∧ s.Accepts .v6 offer.v6 ∧
      s.handleSoftwareRoutingEnable offer = (true, s.bothAdded h4 h6)) := by
  rcases em (s.Accepts .v4 offer.v4) with h4 | h4
  · obtain ⟨hdl4, h4eq, h4pos, h4new⟩ := id h4
    rcases em (s.Accepts .v6 offer.v6) with h6 | h6
    · obtain ⟨hdl6, h6eq, h6pos, h6new⟩ := id h6
      exact Or.inr (Or.inr ⟨hdl4, hdl6, h4pos, h6pos, h6,
        enable_whole hact hrx h4eq h4pos h4new h6eq h6pos h6new⟩)
    · exact Or.inr (Or.inl ⟨hdl4, h4new, h4, h6, enable_half hact hrx h4eq h4pos h4new h6⟩)
  · exact Or.inl ⟨h4, enable_refused hact hrx h4⟩

/-- What two deletions leave, for what the driver answers to them. -/
def bothDeleted (s : Routing) (willing : Fam Bool) : Routing :=
  { s with
    live := ⟨if willing.v4 then [] else s.live.v4,
      if willing.v4 && willing.v6 then [] else s.live.v6⟩
    softwareroutingAct := !(willing.v4 && willing.v6)
    passed := s.passed ++ (.v4, s.softwareRoutingFlRuleHdl.v4, true) ::
      if willing.v4 then [(.v6, s.softwareRoutingFlRuleHdl.v6, true)] else [] }

theorem disable_eq (hact : s.softwareroutingAct = true) (hrx : s.rxProp = true)
    (hlive : s.live = ⟨[s.softwareRoutingFlRuleHdl.v4], [s.softwareRoutingFlRuleHdl.v6]⟩)
    (h4 : s.softwareRoutingFlRuleHdl.v4 ≠ 0) (h6 : s.softwareRoutingFlRuleHdl.v6 ≠ 0)
    (willing : Fam Bool) :
    s.handleSoftwareRoutingDisable willing =
      (willing.v4 && willing.v6, s.bothDeleted willing) := by
  have hlive4 : s.live.get .v4 = [s.softwareRoutingFlRuleHdl.v4] := congrArg Fam.v4 hlive
  have hlive6 : s.live.get .v6 = [s.softwareRoutingFlRuleHdl.v6] := congrArg Fam.v6 hlive
  rcases willing with ⟨_ | _, w6⟩
  · have hv4 := deleteFilteringHdls_eq h4 hlive4 false
    simp only [handleSoftwareRoutingDisable, hact, hrx, hv4, Bool.true_eq_false, if_false,
      if_true]
    simpa [bothDeleted] using hrx
  · have hv4 := deleteFilteringHdls_eq h4 hlive4 true
    simp only [handleSoftwareRoutingDisable, hact, hrx, hv4, Bool.true_eq_false, if_false]
    rw [deleteFilteringHdls_eq h6]
    · rcases w6 with _ | _
      · simpa [bothDeleted, Fam.set] using hrx
      · simpa [bothDeleted, Fam.set] using hrx
    · exact hlive6

theorem enable_act (hact : s.softwareroutingAct = true) (offer : Fam (Option Hdl)) :
    s.handleSoftwareRoutingEnable offer = (true, s) := by
  rw [handleSoftwareRoutingEnable, if_pos hact]

theorem enable_rx (hrx : s.rxProp = false) (offer : Fam (Option Hdl)) :
    s.handleSoftwareRoutingEnable offer = (true, s) := by
  rw [handleSoftwareRoutingEnable, if_pos hrx, ite_self]

theorem disable_off (hact : s.softwareroutingAct = false) (willing : Fam Bool) :
    s.handleSoftwareRoutingDisable willing = (true, s) := by
  rw [handleSoftwareRoutingDisable, if_pos hact, ite_self]

end Routing

variable {s : Routing}

theorem sound_new (rxProp : Bool) : Sound (Routing.new rxProp) where
  settled := .off rfl rfl
  passed := by
    intro p hp
    exact absurd hp List.not_mem_nil

theorem Sound.consistent (h : Sound s) : Consistent s where
  act := by
    rcases h.settled with ⟨hact, hlive⟩ | ⟨-, hact, hlive, -, -⟩
    · simp [hact, hlive]
    · simp [hact, hlive]
  once := by
    intro ip
    rcases h.settled with ⟨-, hlive⟩ | ⟨-, -, hlive, -, -⟩
    · rcases ip with _ | _ <;> simp [hlive, Fam.get]
    · rcases ip with _ | _ <;> simp [hlive, Fam.get]
  passed := h.passed

theorem Retries.whole {c c' : Call} (h : Retries s c c') : Whole s c' := by
  rcases c with offer | willing <;> rcases c' with offer' | willing'
  · exact fun _ _ _ => h .v6
  · exact h.elim
  · exact h.elim
  · exact fun _ _ => h.2

/-- The call ends between two calls, and succeeds if it is accepted. -/
structure EndsWell (s : Routing) (c : Call) : Prop where
  sound : Sound (next s c)
  succeeds : ∀ c₀, Retries s c₀ c → (exec s c).1 = true

theorem Sound.endsWell_idle (h : Sound s) {c : Call} (heq : exec s c = (true, s)) :
    EndsWell s c where
  sound := by
    rw [next, heq]
    exact h
  succeeds := by
    intro c₀ _
    rw [heq]

theorem Sound.endsWell_enable (h : Sound s) {offer : Fam (Option Hdl)}
    (hwhole : Whole s (.enable offer)) : EndsWell s (.enable offer) := by
  rcases h.settled with ⟨hact, hlive⟩ | ⟨-, hact, -, -, -⟩
  · rcases hrx : s.rxProp with _ | _
    · exact h.endsWell_idle (Routing.enable_rx hrx offer)
    · rcases Routing.enable_cases hact hrx offer with
        ⟨hrefused, heq⟩ | ⟨h4, -, hfirst, hsecond, -⟩ | ⟨h4, h6, h4pos, h6pos, -, heq⟩
      · constructor
        · rw [next, exec, heq]
          exact h
        · rintro (offer₀ | willing₀) hretries
          · exact absurd (hretries .v4) hrefused
          · exact hretries.elim
      · exact absurd (hwhole hact hrx hfirst) hsecond
      · constructor
        · rw [next, exec, heq]
          refine ⟨.on hrx rfl ?_ h4pos h6pos, h.passed⟩
          rw [Routing.bothAdded, hlive]
        · intro c₀ _
          rw [exec, heq]
  · exact h.endsWell_idle (Routing.enable_act hact offer)

theorem Sound.endsWell_disable (h : Sound s) {willing : Fam Bool}
    (hwhole : Whole s (.disable willing)) : EndsWell s (.disable willing) := by
  rcases h.settled with ⟨hact, -⟩ | ⟨hrx, hact, hlive, h4, h6⟩
  · exact h.endsWell_idle (Routing.disable_off hact willing)
  · have heq := Routing.disable_eq hact hrx hlive h4 h6 willing
    constructor
    · rw [next, exec, heq]
      rcases willing with ⟨_ | _, w6⟩
      · refine ⟨.on hrx rfl hlive h4 h6, ?_⟩
        intro p hp
        rcases List.mem_append.mp hp with hold | hnew
        · exact h.passed p hold
        · rw [List.mem_singleton.mp hnew]
      · have hw6 : w6 = true := hwhole hact rfl
        subst hw6
        refine ⟨.off rfl rfl, ?_⟩
        intro p hp
        rcases List.mem_append.mp hp with hold | hnew
        · exact h.passed p hold
        · rcases List.mem_cons.mp hnew with rfl | hsecond
          · rfl
          · rw [List.mem_singleton.mp hsecond]
    · rintro (offer₀ | willing₀) hretries
      · exact hretries.elim
      · rw [exec, heq, hretries.1, hretries.2]
        rfl

theorem Sound.endsWell (h : Sound s) {c : Call} (hwhole : Whole s c) : EndsWell s c := by
  rcases c with offer | willing
  · exact h.endsWell_enable hwhole
  · exact h.endsWell_disable hwhole

theorem Sound.right (h : Sound s) {c : Call} (hwhole : Whole s c) : Right s c := by
  have hnext := (h.endsWell hwhole).sound
  refine ⟨hnext.consistent, fun _ c' hretries => ?_⟩
  have hagain := hnext.endsWell hretries.whole
  exact ⟨hagain.succeeds c hretries, hagain.sound.consistent⟩

theorem exists_fresh (h : Hdl) : ∃ h' : Hdl, h' ≠ 0 ∧ h' ∉ [h] := by
  rcases em (h = 1) with heq | hne
  · exact ⟨2, by decide, by rw [heq]; decide⟩
  · exact ⟨1, by decide, by simpa using Ne.symm hne⟩

theorem Sound.not_right_enable (h : Sound s) {offer : Fam (Option Hdl)}
    (hhalf : ¬Whole s (.enable offer)) : ¬Right s (.enable offer) := by
  rcases h.settled with ⟨hact, hlive⟩ | ⟨-, hact, -, -, -⟩
  · rcases hrx : s.rxProp with _ | _
    · exact absurd (fun _ htrue => absurd (hrx.symm.trans htrue) (by decide)) hhalf
    · rcases Routing.enable_cases hact hrx offer with
        ⟨hrefused, -⟩ | ⟨h4, -, -, -, heq⟩ | ⟨h4, h6, -, -, hsecond, -⟩
      · exact absurd (fun _ _ hfirst => absurd hfirst hrefused) hhalf
      · rintro ⟨-, hretry⟩
        have hnext : next s (.enable offer) = s.firstAdded h4 := by rw [next, exec, heq]
        have hfail : (exec s (.enable offer)).1 = false := by rw [exec, heq]
        obtain ⟨h4', hpos', hnew'⟩ := exists_fresh h4
        have hnew4 : h4' ∉ (s.firstAdded h4).live.get .v4 := by
          rw [Routing.firstAdded, hlive]
          exact hnew'
        have hnew6 : (1 : Hdl) ∉ (s.firstAdded h4).live.get .v6 := by
          rw [Routing.firstAdded, hlive]
          exact List.not_mem_nil
        have hagain : exec (s.firstAdded h4) (.enable ⟨some h4', some 1⟩) = (true, _) :=
          Routing.enable_whole (s := s.firstAdded h4) hact hrx rfl hpos' hnew4 rfl (by decide) hnew6
        have hretries : Retries (s.firstAdded h4) (.enable offer)
            (.enable ⟨some h4', some 1⟩) := by
          rintro (_ | _)
          · exact ⟨h4', rfl, hpos', hnew4⟩
          · exact ⟨1, rfl, by decide, hnew6⟩
        rw [hnext] at hretry
        have honce := (hretry hfail _ hretries).2.once .v4
        rw [next, hagain] at honce
        simp [Routing.bothAdded, Routing.firstAdded, hlive, Fam.get] at honce
      · exact absurd (fun _ _ _ => hsecond) hhalf
  · exact absurd (fun hoff => absurd (hact.symm.trans hoff) (by decide)) hhalf

theorem Sound.not_right_disable (h : Sound s) {willing : Fam Bool}
    (hhalf : ¬Whole s (.disable willing)) : ¬Right s (.disable willing) := by
  rcases h.settled with ⟨hact, -⟩ | ⟨hrx, hact, hlive, h4, h6⟩
  · exact absurd (fun hon => absurd (hact.symm.trans hon) (by decide)) hhalf
  · rcases willing with ⟨_ | _, _ | _⟩
    · exact absurd (fun _ hfalse => hfalse) hhalf
    · exact absurd (fun _ _ => rfl) hhalf
    · rintro ⟨hconsistent, -⟩
      have hact' := hconsistent.act
      rw [next, exec, Routing.disable_eq hact hrx hlive h4 h6] at hact'
      exact (hact'.mp rfl).1 rfl
    · exact absurd (fun _ _ => rfl) hhalf

theorem Sound.right_iff (h : Sound s) (c : Call) : Right s c ↔ Whole s c := by
  constructor
  · intro hright
    rcases em (Whole s c) with hwhole | hhalf
    · exact hwhole
    · rcases c with offer | willing
      · exact absurd hright (h.not_right_enable hhalf)
      · exact absurd hright (h.not_right_disable hhalf)
  · exact h.right

/-- Every call of a sequence is right exactly when every one is whole. -/
theorem calls_right_iff (rxProp : Bool) (calls : List Call) :
    Throughout next Right (Routing.new rxProp) calls ↔
      Throughout next Whole (Routing.new rxProp) calls :=
  StepWise.congr (fun _ _ hs hwhole => (hs.endsWell hwhole).sound) (fun _ c hs => hs.right_iff c)
    (sound_new rxProp)

/-- The IPv6 deletion is refused after the IPv4 one. -/
theorem calls_not_right :
    ¬Throughout next Right (Routing.new true)
      [.enable ⟨some 1, some 2⟩, .disable ⟨true, false⟩] := by
  rintro ⟨-, ⟨hconsistent, -⟩, -⟩
  exact absurd hconsistent.act (by decide)

end LibraDevice.Iface
