import LibraDevice.Lan.WlanAgree

/-!
The runs of one access point in which its clients, the driver and the NAT cache agree.
-/

namespace LibraDevice.Lan

open Backhaul Conntrack Ledger NatCache Rows StepRun
open LanToLan (IpAddr MacAddr ClientEventId LanClientEvent)

/-- The places of the rules a client is to have. -/
def IpaWlanClient.dueSlots (c : IpaWlanClient) : IpType → List RtSlot
  | .v4 => if c.ipv4Set && !c.powerSaveSet then [.v4] else []
  | .v6 => if c.powerSaveSet then [] else v6Slots (List.range c.ipv6Set)

/-- The rules a client is to have, with the handles in its slots. -/
def IpaWlanClient.dueRules (txProp : List IpType) (iptype : IpType) (c : IpaWlanClient) :
    List (Hdl × Resource) :=
  c.rulesAt (txIndices txProp iptype ×ˢ c.dueSlots iptype)

section

variable {δ : Type}

/-- The clients have their rules, each under a handle of its own, and those in power save are
listed. -/
structure Agrees (s : ClientIface WlanExt δ) : Prop where
  rules : ∀ iptype, Accounted (s.ipa.live (.rt iptype))
    ((rows s.client s.numClient).flatMap (IpaWlanClient.dueRules s.txProp iptype))
  dead : s.ipa.dead = []
  saving_iff : ∀ c ∈ rows s.client s.numClient, c.ipv4Set = true →
    (Saving s.ctList.natInst.pwrSaveIfs c.v4Addr ↔ IpaWlanClient.powerSaveSet c = true)
  saved : ∀ a, Saving s.ctList.natInst.pwrSaveIfs a →
    ∃ c ∈ rows s.client s.numClient,
      c.ipv4Set = true ∧ IpaWlanClient.powerSaveSet c = true ∧ c.v4Addr = a

theorem heldRules_eq {txProp : List IpType} {c : IpaWlanClient} (h : c.Sound txProp)
    (iptype : IpType) : c.heldRules txProp iptype = c.dueRules txProp iptype := by
  rw [Client.heldRules, IpaWlanClient.dueRules]
  cases iptype with
  | v4 =>
      rw [Client.rtSlots, h.routeRuleSetV4]
      rfl
  | v6 =>
      rcases Decidable.em (.v6 ∈ txProp) with htx | hno
      · rw [Client.rtSlots, h.routeRuleSetV6 htx, IpaWlanClient.dueSlots]
        cases c.powerSaveSet <;> rfl
      · have hnone : txIndices txProp .v6 = [] := by
          rw [txIndices, List.filter_eq_nil_iff]
          intro t _ ht
          exact hno (List.mem_of_getElem? (of_decide_eq_true ht))
        rw [hnone]
        rfl

theorem ApInv.agrees {s : ClientIface WlanExt δ} (h : ApInv s) : Agrees s := by
  have hsound : ∀ c ∈ rows s.client s.numClient, IpaWlanClient.Sound s.txProp c := by
    intro c hc
    exact h.roster.sound _ (List.mem_map_of_mem hc)
  have hsaves := h.roster.saves
  rw [List.filterMap_map] at hsaves
  have hmem : ∀ a b, (a, b) ∈ (rows s.client s.numClient).filterMap IpaWlanClient.address ↔
      ∃ c ∈ rows s.client s.numClient,
        c.ipv4Set = true ∧ IpaWlanClient.powerSaveSet c = b ∧ c.v4Addr = a := by
    intro a b
    rw [List.mem_filterMap]
    apply exists_congr
    intro c
    apply and_congr_right
    intro _
    rw [IpaWlanClient.address]
    split
    case isTrue hset => simp [hset, and_comm]
    case isFalse hunset => simp [hunset]
  constructor
  · intro iptype
    have hacc := h.roster.ipa.accounted (.rt iptype)
    rw [List.flatMap_map] at hacc
    have heq : ((rows s.client s.numClient).flatMap fun c =>
        (IpaWlanClient.view s.txProp c).held (.rt iptype)) =
        (rows s.client s.numClient).flatMap (IpaWlanClient.dueRules s.txProp iptype) := by
      apply List.flatMap_congr
      intro c hc
      exact heldRules_eq (hsound c hc) iptype
    rw [← heq]
    exact hacc
  · exact h.roster.ipa.dead
  · intro c hc hset
    rw [hsaves.saving_iff]
    cases hps : IpaWlanClient.powerSaveSet c with
    | true => exact iff_of_true ((hmem _ _).mpr ⟨c, hc, hset, hps, rfl⟩) rfl
    | false =>
        refine iff_of_false (hsaves.awake _ ?_) (by simp)
        exact (hmem _ _).mpr ⟨c, hc, hset, hps, rfl⟩
  · intro a ha
    exact (hmem a true).mp ((hsaves.saving_iff a).mp ha)

variable {s t : ClientIface WlanExt δ} {d : NatDriver δ} {cfg : Config}

theorem ApInv.posted (h : ApInv s) (posted : List (ClientEventId × LanClientEvent Nat)) :
    ApInv { s with posted := posted } :=
  ⟨h.roster, h.txProp, h.headers⟩

theorem postAll_eq {up : Bool} {msgs : List (ClientEventId × LanClientEvent Nat)}
    (hpost : (if msgs = [] then some s
      else if up then some { s with posted := s.posted ++ msgs } else none) = some t) :
    ∃ posted, t = { s with posted := posted } := by
  split at hpost
  case isTrue =>
    cases hpost
    exact ⟨s.posted, rfl⟩
  case isFalse =>
    split at hpost
    case isTrue =>
      cases hpost
      exact ⟨_, rfl⟩
    case isFalse => cases hpost

theorem handleLan2lanMsgPost_eq {mac : MacAddr} {id : ClientEventId} {iptype : IpType}
    (hpost : s.handleLan2lanMsgPost mac id iptype = some t) :
    ∃ posted, t = { s with posted := posted } := by
  rw [ClientIface.handleLan2lanMsgPost] at hpost
  split at hpost
  case h_1 =>
    cases hpost
    exact ⟨s.posted, rfl⟩
  case h_2 => exact postAll_eq hpost

theorem getD_msgPost_eq (mac : MacAddr) (id : ClientEventId) (iptype : IpType)
    (s : ClientIface WlanExt δ) :
    ∃ posted, (s.handleLan2lanMsgPost mac id iptype).getD s = { s with posted := posted } := by
  cases hpost : s.handleLan2lanMsgPost mac id iptype with
  | none => exact ⟨s.posted, rfl⟩
  | some t =>
      obtain ⟨posted, rfl⟩ := handleLan2lanMsgPost_eq hpost
      exact ⟨posted, rfl⟩

theorem postBoth_eq (mac : MacAddr) (id : ClientEventId) (s : ClientIface WlanExt δ) :
    ∃ posted, s.postBoth mac id = { s with posted := posted } := by
  obtain ⟨posted, heq⟩ := getD_msgPost_eq mac id .v4 s
  obtain ⟨posted', heq'⟩ := getD_msgPost_eq mac id .v6 { s with posted := posted }
  refine ⟨posted', ?_⟩
  rw [ClientIface.postBoth, heq]
  exact heq'

/-- A client joins with a new address. -/
def WlanEvent.Enabled (s : WlanIface δ) : WlanEvent → Prop
  | .clientAdd attribs => NewMac s.toClientIface attribs
  | _ => True

/-- The access point handles an event, and the driver refuses nothing. -/
def apStep (d : NatDriver δ) (cfg : Config) (s : WlanIface δ) (e : WlanEvent)
    (s' : WlanIface δ) : Prop :=
  e.Enabled s ∧ s.eventCallback d cfg e = some s'

/-- No other client has the address of the client `i` and the power save flag `b`. -/
def Alone (s : ClientIface WlanExt δ) (i : Nat) (b : Bool) : Prop :=
  (s.client i).ipv4Set = true → ((s.client i).v4Addr, b) ∉ otherAddresses s i

/-- The client `i` takes an IPv4 address: it is awake, and no other client in power save has
the address. -/
def TakesV4 (s : ClientIface WlanExt δ) (i : Nat) (addr : UInt32) : Prop :=
  IpaWlanClient.powerSaveSet (s.client i) = false ∧ (addr, true) ∉ otherAddresses s i

/-- An IPv4 address the client `i` does not have yet. -/
def NewV4 (s : ClientIface WlanExt δ) (i : Nat) (addr : UInt32) : Prop :=
  addr ≠ 0 ∧ ¬((s.client i).ipv4Set = true ∧ addr = (s.client i).v4Addr)

/-- The events after which clients, driver and NAT cache still agree. -/
def WlanEvent.Fits (s : WlanIface δ) : WlanEvent → Prop
  | .clientAdd _ => True
  | .clientDel mac => ∀ i, s.clientIndex mac = some i →
      MovesSafely s.toClientIface i ∧ Alone s.toClientIface i true
  | .powerSave mac => ∀ i, s.clientIndex mac = some i →
      IpaWlanClient.powerSaveSet (s.client i) = false → Alone s.toClientIface i false
  | .recover mac => ∀ i, s.clientIndex mac = some i →
      IpaWlanClient.powerSaveSet (s.client i) = true → Alone s.toClientIface i true
  | .neighAdd data => data.iptype = .v4 → ∀ i, s.clientIndex data.macAddr = some i →
      NewV4 s.toClientIface i data.ipv4Addr → TakesV4 s.toClientIface i data.ipv4Addr
  | .wanDownV6Tether => V6Resets s.toClientIface

instance decidableEnabled (w : WlanIface δ) : (e : WlanEvent) → Decidable (e.Enabled w)
  | .clientAdd _ => inferInstanceAs (Decidable (_ = none))
  | .clientDel _ => isTrue trivial
  | .powerSave _ => isTrue trivial
  | .recover _ => isTrue trivial
  | .neighAdd _ => isTrue trivial
  | .wanDownV6Tether => isTrue trivial

theorem movesSafely_iff {i : Nat} : MovesSafely s i ↔ ∀ j < s.numClient, i ≤ j →
    j + 1 < s.numClient → IpaWlanClient.Minds s.txProp (s.client (j + 1)) →
    IpaWlanClient.powerSaveSet (s.client j) = IpaWlanClient.powerSaveSet (s.client (j + 1)) :=
  ⟨fun h j _ => h j, fun h j hij hj => h j (Nat.lt_of_succ_lt hj) hij hj⟩

instance decidableMinds (txProp : List IpType) (c : IpaWlanClient) : Decidable (c.Minds txProp) :=
  inferInstanceAs (Decidable (_ ∨ _))

instance decidableMovesSafely (s : ClientIface WlanExt δ) (i : Nat) : Decidable (MovesSafely s i) :=
  decidable_of_iff' _ movesSafely_iff

instance decidableAlone (s : ClientIface WlanExt δ) (i : Nat) (b : Bool) :
    Decidable (Alone s i b) :=
  inferInstanceAs (Decidable (_ → _))

instance decidableTakesV4 (s : ClientIface WlanExt δ) (i : Nat) (addr : UInt32) :
    Decidable (TakesV4 s i addr) :=
  inferInstanceAs (Decidable (_ ∧ _))

instance decidableNewV4 (s : ClientIface WlanExt δ) (i : Nat) (addr : UInt32) :
    Decidable (NewV4 s i addr) :=
  inferInstanceAs (Decidable (_ ∧ ¬(_ ∧ _)))

instance decidableFirstV6Asleep (s : ClientIface WlanExt δ) : Decidable (FirstV6Asleep s) :=
  inferInstanceAs (Decidable (∀ i < _, _ → _ → _))

instance decidableV6Resets (s : ClientIface WlanExt δ) : Decidable (V6Resets s) :=
  inferInstanceAs (Decidable (_ ∨ _ ∨ _))

instance decidableWlanFits (w : WlanIface δ) : (e : WlanEvent) → Decidable (e.Fits w)
  | .clientAdd _ => isTrue trivial
  | .clientDel mac => inferInstanceAs (Decidable (∀ i ∈ w.clientIndex mac, _ ∧ _))
  | .powerSave mac => inferInstanceAs (Decidable (∀ i ∈ w.clientIndex mac, _ → _))
  | .recover mac => inferInstanceAs (Decidable (∀ i ∈ w.clientIndex mac, _ → _))
  | .neighAdd data =>
      inferInstanceAs (Decidable (_ → ∀ i ∈ w.clientIndex data.macAddr, _ → _))
  | .wanDownV6Tether => inferInstanceAs (Decidable (V6Resets _))

theorem neighClientAdd_inv {data : NeighData} (h : ApInv s)
    (htakes : data.iptype = .v4 → ∀ i, s.clientIndex data.macAddr = some i →
      NewV4 s i data.ipv4Addr → TakesV4 s i data.ipv4Addr)
    (hadd : s.neighClientAdd d cfg data = some t) : ApInv t := by
  cases hfamily : data.iptype with
  | v6 => exact neighV6_inv h hfamily hadd
  | v4 =>
      cases hip : s.handleClientIpaddr d data with
      | none =>
          rw [ClientIface.neighClientAdd] at hadd
          simp only [hip] at hadd
          cases hadd
          exact h
      | some s₁ =>
          refine neighV4_inv h hfamily hip ?_ hadd
          intro i hindex
          apply htakes hfamily i hindex
          rw [ClientIface.handleClientIpaddr] at hip
          simp only [hindex, hfamily] at hip
          constructor
          · rintro hzero
            rw [if_pos hzero] at hip
            cases hip
          · rintro ⟨hset, hsame⟩
            split at hip
            case isTrue => cases hip
            case isFalse =>
              rw [if_neg (by simp [hset])] at hip
              cases hip

theorem handleWlanClientDownEvt_inv {w : WlanIface δ} {mac : MacAddr}
    (h : ApInv w.toClientIface)
    (hfits : ∀ i, w.clientIndex mac = some i →
      MovesSafely w.toClientIface i ∧ Alone w.toClientIface i true) :
    ApInv (w.handleWlanClientDownEvt d mac).2.toClientIface := by
  rw [WlanIface.handleWlanClientDownEvt]
  cases hindex : w.clientIndex mac with
  | none => exact h
  | some i =>
      obtain ⟨hmoves, halone⟩ := hfits i hindex
      have hi := (clientIndex_some hindex).1
      have hdrop := dropClient_inv (d := d) h hi hmoves halone
      dsimp only
      split
      case h_1 t heq =>
        rw [heq] at hdrop
        exact hdrop
      case h_2 t heq =>
        rw [heq] at hdrop
        exact hdrop

theorem apStep_inv {w w' : WlanIface δ} {e : WlanEvent} (h : ApInv w.toClientIface)
    (hfits : e.Fits w) (hstep : apStep d cfg w e w') : ApInv w'.toClientIface := by
  obtain ⟨henabled, hstep⟩ := hstep
  cases e with
  | clientAdd attribs => exact handleWlanClientInitEx_inv h henabled hstep
  | clientDel mac =>
      cases hstep
      obtain ⟨posted, heq⟩ := postBoth_eq mac .disconnect w.toClientIface
      dsimp only
      rw [heq]
      exact handleWlanClientDownEvt_inv (w := { w with posted := posted }) (h.posted posted) hfits
  | powerSave mac =>
      cases hstep
      obtain ⟨posted, heq⟩ := postBoth_eq mac .powerSave w.toClientIface
      dsimp only
      rw [heq]
      apply handleWlanClientPwrsave_inv (h.posted posted)
      intro i hindex hset hawake
      exact hfits i hindex hawake hset
  | recover mac =>
      rw [WlanIface.eventCallback, Option.bind_eq_bind, Option.bind_eq_some_iff] at hstep
      obtain ⟨t, hrecover, hstep⟩ := hstep
      cases hstep
      obtain ⟨posted, heq⟩ := postBoth_eq mac .powerRecover w.toClientIface
      rw [heq] at hrecover
      refine recoverClient_inv (h.posted posted) ?_ hrecover
      intro i hindex hset hasleep
      exact hfits i hindex hasleep hset
  | neighAdd data =>
      rw [WlanIface.eventCallback, Option.bind_eq_bind, Option.bind_eq_some_iff] at hstep
      obtain ⟨t, hadd, hstep⟩ := hstep
      cases hstep
      exact neighClientAdd_inv h hfits hadd
  | wanDownV6Tether =>
      cases hstep
      change ApInv (w.toClientIface.resetRt .v6 (List.range w.numClient))
      rw [List.range_eq_range']
      refine resetRt_inv w.numClient h (Nat.zero_add _) hfits ?_
      intro _ j hj
      exact absurd hj (Nat.not_lt_zero j)

theorem init_inv (self : Nat) (txProp : List IpType) (ipType : IfaceIpType)
    (supply : List Hdl) (ctList : CtListener δ) (total : Int)
    (hifs : ctList.natInst.pwrSaveIfs = List.replicate ipaMaxNumWifiClients 0) :
    ApInv (WlanIface.init self txProp ipType supply ctList total).toClientIface := by
  constructor
  · constructor
    · exact .init supply
    · change Saves ctList.natInst.pwrSaveIfs []
      rw [hifs]
      exact .init
    · intro v hv
      cases hv
    · exact List.nodup_nil
    · exact Nat.zero_le _
  · intro hnum
    exact absurd hnum (Nat.lt_irrefl 0)
  · intro i iptype hset
    cases iptype <;> cases hset

/-- Clients, driver and NAT cache agree throughout a run whose events all fit. -/
theorem agrees_of_run {self : Nat} {txProp : List IpType} {ipType : IfaceIpType}
    {supply : List Hdl} {isSta : Bool} {wanIp : UInt32} {maxEntries : Nat}
    {algPorts : List (UInt8 × UInt16)} {driver : δ} {total : Int} {es : List WlanEvent}
    {w : WlanIface δ}
    (hrun : Run (Guarded (fun w e => e.Fits w) (apStep d cfg))
      (.init self txProp ipType supply
        (.init isSta wanIp (.init maxEntries algPorts driver)) total) es w) :
    Agrees w.toClientIface := by
  have hinv : ApInv w.toClientIface := by
    refine hrun.invariant (I := fun w => ApInv w.toClientIface) ?_ ?_
    · exact init_inv self txProp ipType supply _ total rfl
    · rintro w e w' h ⟨hfits, hstep⟩
      exact apStep_inv h hfits hstep
  exact hinv.agrees

end

/-- An IPv4 address of a WLAN client. -/
def wlanNeighAdd (mac : MacAddr) (addr : UInt32) : WlanEvent :=
  .neighAdd ⟨.v4, addr, ⟨0, 0, 0, 0⟩, mac, some "wlan0"⟩

/-- The next state, if the event can come. -/
def enabledStep (w : WlanIface (List (Nat × IpaNat.Ipv4Rule))) (e : WlanEvent) :
    Option (WlanIface (List (Nat × IpaNat.Ipv4Rule))) :=
  if e.Enabled w then w.eventCallback ruleMapDriver lanConfig e else none

theorem apStep_of_enabledStep (w : WlanIface (List (Nat × IpaNat.Ipv4Rule))) (e : WlanEvent)
    (w' : WlanIface (List (Nat × IpaNat.Ipv4Rule))) (h : enabledStep w e = some w') :
    apStep ruleMapDriver lanConfig w e w' := by
  rw [enabledStep] at h
  split at h
  case isTrue henabled => exact ⟨henabled, h⟩
  case isFalse => cases h

/-- The next state, if the event fits too. -/
def fittingStep (w : WlanIface (List (Nat × IpaNat.Ipv4Rule))) (e : WlanEvent) :
    Option (WlanIface (List (Nat × IpaNat.Ipv4Rule))) :=
  if e.Fits w then enabledStep w e else none

theorem guarded_of_fittingStep (w : WlanIface (List (Nat × IpaNat.Ipv4Rule))) (e : WlanEvent)
    (w' : WlanIface (List (Nat × IpaNat.Ipv4Rule))) (h : fittingStep w e = some w') :
    Guarded (fun w e => e.Fits w) (apStep ruleMapDriver lanConfig) w e w' := by
  rw [fittingStep] at h
  split at h
  case isTrue hfits => exact ⟨hfits, apStep_of_enabledStep w e w' h⟩
  case isFalse => cases h

theorem agrees_wakingClient :
    ∃ w, Run (Guarded (fun w e => e.Fits w) (apStep ruleMapDriver lanConfig)) newAp
        [.clientAdd [.macAddr macA], wlanNeighAdd macA 7, .powerSave macA, .recover macA,
          .wanDownV6Tether, .clientDel macA] w ∧
      Agrees w.toClientIface := by
  obtain ⟨w, hfold⟩ : ∃ w, [.clientAdd [.macAddr macA], wlanNeighAdd macA 7, .powerSave macA,
      .recover macA, .wanDownV6Tether, .clientDel macA].foldlM fittingStep newAp = some w :=
    Option.isSome_iff_exists.mp (by decide +kernel)
  have hrun := Run.of_foldlM guarded_of_fittingStep hfold
  exact ⟨w, hrun, agrees_of_run hrun⟩

/-- The second client is in power save when the first one leaves: it is taken for awake, while
its address is listed. -/
theorem not_agrees_powerSave :
    ∃ w, Run (apStep ruleMapDriver lanConfig) newAp
        [.clientAdd [.macAddr macA], .clientAdd [.macAddr macB], wlanNeighAdd macB 8,
          .powerSave macB, .clientDel macA] w ∧
      ¬ Agrees w.toClientIface := by
  obtain ⟨w, hfold, hlast⟩ : ∃ w, [.clientAdd [.macAddr macA], .clientAdd [.macAddr macB],
      wlanNeighAdd macB 8, .powerSave macB, .clientDel macA].foldlM enabledStep newAp = some w ∧
        (w.numClient, (w.client 0).ipv4Set, IpaWlanClient.powerSaveSet (w.client 0),
          (w.client 0).v4Addr, w.ctList.natInst.pwrSaveIfs.contains 8) =
        (1, true, false, 8, true) :=
    Option.map_eq_some_iff.mp (by decide +kernel)
  refine ⟨w, Run.of_foldlM apStep_of_enabledStep hfold, ?_⟩
  intro h
  simp only [Prod.mk.injEq, List.contains_iff_mem] at hlast
  obtain ⟨hnum, hset, hawake, haddr, hlisted⟩ := hlast
  have hmem : w.client 0 ∈ rows w.client w.numClient :=
    mem_rows.mpr ⟨0, by omega, rfl⟩
  have hiff := h.saving_iff _ hmem hset
  rw [haddr, hawake] at hiff
  have hps := hiff.mp ⟨by decide, hlisted⟩
  cases hps

end LibraDevice.Lan
