import LibraDevice.Lan.Clients
import LibraDevice.Lan.WlanClients

/-!
A client leaves: what the records of the other clients become.
-/

namespace LibraDevice.Lan

open Backhaul Conntrack NatCache Rows
open LanToLan (MacAddr)

section

variable {ε δ : Type}

namespace Client

/-- The handles of the rules that are set. -/
def rtHdls (c : Client ε) (txProp : List IpType) (iptype : IpType) : List Hdl :=
  (txIndices txProp iptype).flatMap fun t => (c.rtSlots iptype).map (c.rtHdl t)

/-- The handles of the headers that are set. -/
def headerHdls (c : Client ε) (iptype : IpType) : List Hdl :=
  if c.headerSet.get iptype then [c.hdrHdl.get iptype] else []

/-- The headers that are set have handles. -/
def HeadersHeld (c : Client ε) : Prop :=
  ∀ iptype, c.headerSet.get iptype = true → c.hdrHdl.get iptype ≠ 0

theorem HeadersHeld.congr {c c' : Client ε} (h : c.HeadersHeld) (hset : c'.headerSet = c.headerSet)
    (hhdl : c'.hdrHdl = c.hdrHdl) : c'.HeadersHeld := by
  intro iptype
  rw [hset, hhdl]
  exact h iptype

@[simp] theorem clearRouteRules_headerSet (c : Client ε) (iptype : IpType) :
    (c.clearRouteRules iptype).headerSet = c.headerSet := by
  cases iptype <;> rfl

@[simp] theorem clearRouteRules_hdrHdl (c : Client ε) (iptype : IpType) :
    (c.clearRouteRules iptype).hdrHdl = c.hdrHdl := by
  cases iptype <;> rfl

@[simp] theorem clearRouteRules_rtHdls (c : Client ε) (txProp : List IpType) :
    (c.clearRouteRules .v4).rtHdls txProp .v6 = c.rtHdls txProp .v6 := rfl

/-- What `dropClient` gives back to the driver. -/
def release (c : Client ε) (txProp : List IpType) (ipa : IpaDriver) : IpaDriver :=
  let ipa := (c.rtHdls txProp .v4).foldl (IpaDriver.deleteRoutingHdl .v4) ipa
  let ipa := (c.rtHdls txProp .v6).foldl (IpaDriver.deleteRoutingHdl .v6) ipa
  (c.headerHdls .v4 ++ c.headerHdls .v6).foldl (fun ipa h => ipa.delete .hdr h) ipa

end Client

namespace ClientIface

variable {d : NatDriver δ} {s : ClientIface ε δ} {i : Nat}

theorem deleteRtrules_eq (iptype : IpType) (i : Nat) (s : ClientIface ε δ) :
    s.deleteRtrules iptype i =
      { s with
        ipa := ((s.client i).rtHdls s.txProp iptype).foldl (IpaDriver.deleteRoutingHdl iptype) s.ipa
        client := Function.update s.client i ((s.client i).clearRouteRules iptype) } := rfl

theorem deleteHeader_eq {iptype : IpType} (h : (s.client i).HeadersHeld) :
    s.deleteHeader iptype i =
      (true, { s with
        ipa := ((s.client i).headerHdls iptype).foldl (fun ipa h => ipa.delete .hdr h) s.ipa
        client := Function.update s.client i
          { s.client i with headerSet := (s.client i).headerSet.set false iptype } }) := by
  rw [deleteHeader, Client.headerHdls]
  cases hset : (s.client i).headerSet.get iptype with
  | true =>
      rw [if_pos rfl, if_pos rfl, IpaDriver.deleteHeaderHdl, if_neg (h iptype hset)]
      rfl
  | false =>
      have hsame : (s.client i).headerSet.set false iptype = (s.client i).headerSet := by
        cases iptype with
        | v4 => exact congrArg (Fam.mk · (s.client i).headerSet.v6) hset.symm
        | v6 => exact congrArg (Fam.mk (s.client i).headerSet.v4) hset.symm
      rw [if_neg (by simp), if_neg (by simp), hsame]
      change (true, s) = (true, { s with client := Function.update s.client i (s.client i) })
      rw [Function.update_eq_self]

theorem dropRecord_eq (move : Client ε → Client ε → Client ε) (h : (s.client i).HeadersHeld) :
    (match ((s.deleteRtrules .v4 i).deleteRtrules .v6 i).deleteHeader .v4 i with
    | (false, s) => (false, s)
    | (true, s) =>
      match s.deleteHeader .v6 i with
      | (false, s) => (false, s)
      | (true, s) =>
        let s := s.setClient i (s.client i).reset
        (true, { s with
          client := moveDown move s.client i (s.numClient - 1 - i)
          numClient := s.numClient - 1 })) =
      (true, { s with
        client := moveDown move (Function.update s.client i (s.client i).reset) i
          (s.numClient - 1 - i)
        numClient := s.numClient - 1
        ipa := (s.client i).release s.txProp s.ipa }) := by
  have hrules : (((s.client i).clearRouteRules .v4).clearRouteRules .v6).HeadersHeld :=
    h.congr (by simp) (by simp)
  have hheader : ({ ((s.client i).clearRouteRules .v4).clearRouteRules .v6 with
      headerSet := (((s.client i).clearRouteRules .v4).clearRouteRules .v6).headerSet.set false
        .v4 } : Client ε).HeadersHeld := by
    intro iptype hset
    simp only [Fam.get_set] at hset
    split at hset
    case isTrue => cases hset
    case isFalse => exact hrules iptype hset
  simp only [deleteRtrules_eq, Function.update_self, Function.update_idem]
  rw [deleteHeader_eq (by simpa only [Function.update_self] using hrules)]
  simp only [Function.update_self, Function.update_idem]
  rw [deleteHeader_eq (by simpa only [Function.update_self] using hheader)]
  simp only [setClient, Function.update_self, Function.update_idem, Client.release,
    List.foldl_append, Client.clearRouteRules_rtHdls]
  congr 2

theorem dropClient_eq (move : Client ε → Client ε → Client ε)
    (h : (s.client i).HeadersHeld) :
    s.dropClient d move i =
      (true, { s with
        client := moveDown move (Function.update s.client i (s.client i).reset) i
          (s.numClient - 1 - i)
        numClient := s.numClient - 1
        ipa := (s.client i).release s.txProp s.ipa
        ctList :=
          if (s.client i).ipv4Set then handleNeighIpAddrDelEvt d (s.client i).v4Addr s.ctList
          else s.ctList }) := by
  rw [dropClient]
  cases (s.client i).ipv4Set with
  | true => exact dropRecord_eq move (s := s.neighIpAddrDel d (s.client i).v4Addr) h
  | false => exact dropRecord_eq move h

/-- `c` has every field of `c'`; the arrays agree where they are in use. -/
structure SameRecord (numTxProps : Nat) (c c' : Client ε) : Prop where
  mac : c.mac = c'.mac
  v4Addr : c.v4Addr = c'.v4Addr
  hdrHdl : c.hdrHdl = c'.hdrHdl
  headerSet : c.headerSet = c'.headerSet
  ipv4Set : c.ipv4Set = c'.ipv4Set
  ipv6Set : c.ipv6Set = c'.ipv6Set
  routeRuleSetV4 : c.routeRuleSetV4 = c'.routeRuleSetV4
  routeRuleSetV6 : c.routeRuleSetV6 = c'.routeRuleSetV6
  v6Addr : ∀ k < c'.ipv6Set, c.v6Addr k = c'.v6Addr k
  rtHdlV4 : ∀ t < numTxProps, c.rtHdl t .v4 = c'.rtHdl t .v4
  rtHdlV6 : ∀ t < numTxProps, ∀ k < c'.routeRuleSetV6,
    c.rtHdl t (.v6 k) = c'.rtHdl t (.v6 k) ∧ c.rtHdl t (.v6Wan k) = c'.rtHdl t (.v6Wan k)
  ext : c.ext = c'.ext

theorem SameRecord.refl (n : Nat) (c : Client ε) : SameRecord n c c := by
  constructor
  case rtHdlV6 =>
    intro t _ k _
    exact ⟨rfl, rfl⟩
  all_goals intros; rfl

/-- The client `i` has left successfully and the others are there, in their order. -/
structure Removed (i : Nat) (s : ClientIface ε δ) (res : Bool × ClientIface ε δ) : Prop where
  success : res.1 = true
  numClient : res.2.numClient = s.numClient - 1
  record : ∀ j < res.2.numClient,
    SameRecord s.txProp.length (res.2.client j) (s.client (if j < i then j else j + 1))

theorem dropClient_client (move : Client ε → Client ε → Client ε) (h : (s.client i).HeadersHeld)
    {j : Nat} (hj : j < s.numClient - 1) :
    if j < i then (s.dropClient d move i).2.client j = s.client j
    else ∃ c, c.ext = (s.client j).ext ∧
      (s.dropClient d move i).2.client j = move c (s.client (j + 1)) := by
  rw [dropClient_eq move h]
  split
  case isTrue hlt =>
    change moveDown _ _ _ _ j = _
    rw [moveDown_of_lt _ hlt, Function.update_of_ne (Nat.ne_of_lt hlt)]
  case isFalse hge =>
    refine ⟨Function.update s.client i (s.client i).reset j, ?_, ?_⟩
    · rcases eq_or_ne j i with rfl | hne
      · rw [Function.update_self]
        rfl
      · rw [Function.update_of_ne hne]
    · change moveDown _ _ _ _ j = _
      rw [moveDown_apply _ (by omega) (by omega), Function.update_of_ne (by omega : j + 1 ≠ i)]

theorem dropClient_removed_iff {move : Client ε → Client ε → Client ε} (same : ε → ε → Prop)
    (hmove : ∀ c next, SameRecord s.txProp.length (move c next) next ↔ same c.ext next.ext)
    (h : (s.client i).HeadersHeld) :
    s.Removed i (s.dropClient d move i) ↔
      ∀ j, i ≤ j → j < s.numClient - 1 → same (s.client j).ext (s.client (j + 1)).ext := by
  have hclient := fun j => dropClient_client (d := d) (j := j) move h
  have hnum : (s.dropClient d move i).2.numClient = s.numClient - 1 := by
    rw [dropClient_eq move h]
  constructor
  · intro hremoved j hij hj
    have hrecord := hremoved.record j (hnum.symm ▸ hj)
    have hmoved := hclient j hj
    rw [if_neg (Nat.not_lt.mpr hij)] at hrecord hmoved
    obtain ⟨c, hc, heq⟩ := hmoved
    rw [heq, hmove, hc] at hrecord
    exact hrecord
  · intro hsame
    constructor
    · rw [dropClient_eq move h]
    · exact hnum
    · intro j hj
      rw [hnum] at hj
      have hmoved := hclient j hj
      split at hmoved
      case isTrue hlt =>
        rw [if_pos hlt, hmoved]
        exact .refl _ _
      case isFalse hge =>
        obtain ⟨c, hc, heq⟩ := hmoved
        rw [if_neg hge, heq, hmove, hc]
        exact hsame j (Nat.not_lt.mp hge) hj

theorem takeOver_record (n : Nat) {c c' next : Client ε}
    (hbase : c' = { c.takeOver n next with ext := c'.ext }) (hext : c'.ext = next.ext) :
    SameRecord n c' next := by
  rw [hbase]
  constructor
  case ext => exact hext
  case v6Addr =>
    intro k hk
    exact if_pos hk
  case rtHdlV4 =>
    intro t ht
    exact if_pos ht
  case rtHdlV6 =>
    intro t ht k hk
    constructor
    · exact (if_pos ht).trans (if_pos hk)
    · exact (if_pos ht).trans (if_pos hk)
  all_goals rfl

end ClientIface

open ClientIface

theorem moveTo_record_iff (n : Nat) (c next : IpaWlanClient) :
    SameRecord n (IpaWlanClient.moveTo n c next) next ↔
      c.powerSaveSet = next.powerSaveSet := by
  constructor
  · intro h
    have hext := congrArg WlanExt.powerSaveSet h.ext
    exact hext
  · intro h
    apply takeOver_record n (c := c) rfl
    exact congrArg (WlanExt.mk next.ext.pHdrInfo) h

/-- As for any interface, and the access points have one client less. -/
def WlanIface.Removed (i : Nat) (s : WlanIface δ) (res : Bool × WlanIface δ) : Prop :=
  s.toClientIface.Removed i (res.1, res.2.toClientIface) ∧
    res.2.totalNumWifiClients = s.totalNumWifiClients - 1

/-- The clients behind `i` are in power save where `i` is. -/
def WlanIface.SamePowerSave (i : Nat) (s : WlanIface δ) : Prop :=
  ∀ j, i < j → j < s.numClient →
    IpaWlanClient.powerSaveSet (s.client j) = IpaWlanClient.powerSaveSet (s.client i)

theorem samePowerSave_iff {s : WlanIface δ} {i : Nat} :
    s.SamePowerSave i ↔ ∀ j, i ≤ j → j < s.numClient - 1 →
      (s.client j).ext.powerSaveSet = (s.client (j + 1)).ext.powerSaveSet := by
  constructor
  · intro h j hij hj
    have hnext := h (j + 1) (by omega) (by omega)
    rcases Nat.eq_or_lt_of_le hij with rfl | hlt
    · exact hnext.symm
    · exact (h j hlt (by omega)).trans hnext.symm
  · intro h j hij hj
    induction j with
    | zero => omega
    | succ j ih =>
        have hlast := h j (by omega) (by omega)
        rcases Nat.eq_or_lt_of_le (Nat.lt_succ_iff.mp hij) with rfl | hlt
        · exact hlast.symm
        · exact hlast.symm.trans (ih hlt (by omega))

variable (d : NatDriver δ)

/-- The record of a WLAN client takes over all but the power save flag, that of a LAN client
takes over everything. -/
theorem removed_iff (mac : MacAddr) (i : Nat) :
    (∀ s : WlanIface δ, s.clientIndex mac = some i → (s.client i).HeadersHeld →
      (s.Removed i (s.handleWlanClientDownEvt d mac) ↔ s.SamePowerSave i)) ∧
    (∀ s : ClientIface Unit δ, s.clientIndex mac = some i → (s.client i).HeadersHeld →
      s.Removed i (s.handleEthClientDownEvt d mac)) := by
  constructor
  · intro s hindex hheld
    have hiff := dropClient_removed_iff (d := d)
      (fun e e' : WlanExt => e.powerSaveSet = e'.powerSaveSet)
      (moveTo_record_iff s.txProp.length) hheld
    rw [samePowerSave_iff, ← hiff, WlanIface.handleWlanClientDownEvt]
    simp only [hindex, dropClient_eq _ hheld]
    exact and_iff_left rfl
  · intro s hindex hheld
    rw [handleEthClientDownEvt, hindex]
    apply (dropClient_removed_iff (fun _ _ => True) ?_ hheld).mpr
    · intro _ _ _
      trivial
    · intro c next
      exact iff_of_true (takeOver_record _ (c := c) rfl rfl) trivial

end

/-- A LAN interface with a TX property for each family, before any event. -/
def newLan : ClientIface Unit (List (Nat × IpaNat.Ipv4Rule)) :=
  .init 2 [.v4, .v6] .max () ((List.range 30).map fun n => UInt32.ofNat (n + 1))
    (.init false 0 smallApp)

/-- An IPv4 address of a LAN client. -/
def ethNeighAdd (mac : MacAddr) (addr : UInt32) : EthEvent :=
  .neighAdd ⟨.v4, addr, ⟨0, 0, 0, 0⟩, mac, some "rndis0"⟩

theorem removed_twoClients :
    (∃ s, afterEvents newAp [.clientAdd [.macAddr macA], .clientAdd [.macAddr macB]] = some s ∧
      s.Removed 0 (s.handleWlanClientDownEvt ruleMapDriver macA)) ∧
    (∃ s, [ethNeighAdd macA 7, ethNeighAdd macB 8].foldlM
        (ClientIface.ethEventCallback ruleMapDriver lanConfig) newLan = some s ∧
      s.Removed 0 (s.handleEthClientDownEvt ruleMapDriver macA)) := by
  constructor
  · refine ⟨_, rfl, ?_⟩
    apply ((removed_iff ruleMapDriver macA 0).1 _ (by decide) ?_).mpr
    · intro j hij hj
      have hone : j = 1 := by
        change j < 2 at hj
        omega
      subst hone
      rfl
    · intro iptype _
      cases iptype <;> decide
  · refine ⟨_, rfl, ?_⟩
    apply (removed_iff ruleMapDriver macA 0).2 _ (by decide)
    intro iptype _
    cases iptype <;> decide

/-- The second client is in power save when the first one leaves: it is taken for awake. -/
theorem not_removed_powerSave :
    ∃ s, afterEvents newAp
        [.clientAdd [.macAddr macA], .clientAdd [.macAddr macB], .powerSave macB] = some s ∧
      ¬ s.Removed 0 (s.handleWlanClientDownEvt ruleMapDriver macA) := by
  refine ⟨_, rfl, ?_⟩
  intro h
  have hrecord := h.1.record 0 (by decide)
  exact absurd (congrArg WlanExt.powerSaveSet hrecord.ext) (by decide)

end LibraDevice.Lan
