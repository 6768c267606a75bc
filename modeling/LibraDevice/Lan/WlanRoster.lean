import LibraDevice.Lan.Ledger
import LibraDevice.Lan.Sleepers

/-!
The clients of an access point with the routing rules and the NAT entries that each
of them accounts for, and what power save makes of them.
-/

namespace LibraDevice.Lan

open Backhaul Conntrack Ledger NatCache Rows StepRun
open LanToLan (IpAddr MacAddr ClientEventId LanClientEvent)

/-- The IPv4 address of a client that has one, and whether it is in power save. -/
def IpaWlanClient.address (c : IpaWlanClient) : Option (UInt32 × Bool) :=
  if c.ipv4Set then some (c.v4Addr, c.powerSaveSet) else none

/-- The rules of a client are set where it is awake. -/
structure IpaWlanClient.Sound (txProp : List IpType) (c : IpaWlanClient) : Prop where
  routeRuleSetV4 : c.routeRuleSetV4 = (c.ipv4Set && !c.powerSaveSet)
  routeRuleSetV6 : .v6 ∈ txProp → c.routeRuleSetV6 = if c.powerSaveSet then 0 else c.ipv6Set
  ipv6Set : c.routeRuleSetV6 ≤ c.ipv6Set
  v4Addr : c.ipv4Set = true → c.v4Addr ≠ 0

/-- What the others do not see of a client is left out. -/
structure ClientView where
  mac : MacAddr
  held : Kind → List (Hdl × Resource)
  address : Option (UInt32 × Bool)
  sound : Prop

def IpaWlanClient.view (txProp : List IpType) (c : IpaWlanClient) : ClientView where
  mac := c.mac
  held := c.held txProp
  address := c.address
  sound := c.Sound txProp

/-- The clients of an access point, against the driver and the NAT cache. -/
structure Roster (ipa : IpaDriver) (ifs : List UInt32) (vs : List ClientView) : Prop where
  ipa : ipa.Accounts fun kind => vs.flatMap fun v => v.held kind
  saves : Saves ifs (vs.filterMap ClientView.address)
  sound : ∀ v ∈ vs, v.sound
  macs : (vs.map ClientView.mac).Nodup
  count : vs.length ≤ ipaMaxNumWifiClients

namespace Roster

variable {ipa ipa' : IpaDriver} {ifs ifs' : List UInt32} {v v' : ClientView}
  {vs vs' : List ClientView}

theorem perm (h : Roster ipa ifs vs) (hp : vs.Perm vs') : Roster ipa ifs vs' := by
  constructor
  · exact h.ipa.perm fun kind => hp.flatMap_right _
  · exact h.saves.perm (hp.filterMap _)
  · intro v hv
    exact h.sound v (hp.mem_iff.mpr hv)
  · exact (hp.map _).nodup_iff.mp h.macs
  · rw [← hp.length_eq]
    exact h.count

theorem replace (h : Roster ipa ifs (v :: vs)) (hmac : v'.mac = v.mac)
    (hipa : ipa'.Accounts fun kind => v'.held kind ++ vs.flatMap fun v => v.held kind)
    (hsaves : Saves ifs' ((v' :: vs).filterMap ClientView.address)) (hsound : v'.sound) :
    Roster ipa' ifs' (v' :: vs) := by
  constructor
  · exact hipa
  · exact hsaves
  · intro w hw
    rcases List.mem_cons.mp hw with rfl | hw
    · exact hsound
    · exact h.sound w (List.mem_cons_of_mem _ hw)
  · have hnodup := h.macs
    rw [List.map_cons] at hnodup ⊢
    rw [hmac]
    exact hnodup
  · exact h.count

theorem join (h : Roster ipa ifs vs)
    (hipa : ipa'.Accounts fun kind => v.held kind ++ vs.flatMap fun v => v.held kind)
    (haddress : v.address = none) (hsound : v.sound) (hmac : v.mac ∉ vs.map ClientView.mac)
    (hcount : vs.length < ipaMaxNumWifiClients) : Roster ipa' ifs (v :: vs) := by
  constructor
  · exact hipa
  · rw [List.filterMap_cons_none haddress]
    exact h.saves
  · intro w hw
    rcases List.mem_cons.mp hw with rfl | hw
    · exact hsound
    · exact h.sound w hw
  · rw [List.map_cons]
    exact List.nodup_cons.mpr ⟨hmac, h.macs⟩
  · exact hcount

theorem leave (h : Roster ipa ifs (v :: vs))
    (hipa : ipa'.Accounts fun kind => vs.flatMap fun v => v.held kind)
    (hsaves : Saves ifs' (vs.filterMap ClientView.address)) : Roster ipa' ifs' vs := by
  constructor
  · exact hipa
  · exact hsaves
  · intro w hw
    exact h.sound w (List.mem_cons_of_mem _ hw)
  · exact (List.nodup_cons.mp h.macs).2
  · exact Nat.le_of_succ_le h.count

end Roster

section

variable {δ : Type}

structure ApInv (s : ClientIface WlanExt δ) : Prop where
  roster : Roster s.ipa s.ctList.natInst.pwrSaveIfs
    ((rows s.client s.numClient).map (IpaWlanClient.view s.txProp))
  txProp : 0 < s.numClient → s.txProp ≠ []
  headers : ∀ i iptype, (s.client i).headerSet.get iptype = true → iptype ∈ s.txProp

namespace ApInv

variable {s t : ClientIface WlanExt δ} {i : Nat}

theorem focus (h : ApInv s) (hi : i < s.numClient) :
    Roster s.ipa s.ctList.natInst.pwrSaveIfs
      (IpaWlanClient.view s.txProp (s.client i) ::
        (others s.client s.numClient i).map (IpaWlanClient.view s.txProp)) :=
  h.roster.perm ((rows_perm hi).map _)

theorem of_update {c : IpaWlanClient} (h : ApInv s) (hi : i < s.numClient)
    (htx : t.txProp = s.txProp) (hnum : t.numClient = s.numClient)
    (hclient : t.client = Function.update s.client i c)
    (hheaders : c.headerSet = (s.client i).headerSet)
    (hroster : Roster t.ipa t.ctList.natInst.pwrSaveIfs
      (IpaWlanClient.view s.txProp c ::
        (others s.client s.numClient i).map (IpaWlanClient.view s.txProp))) : ApInv t := by
  constructor
  · rw [hclient, hnum, htx]
    exact hroster.perm ((rows_update hi c).symm.map _)
  · rw [hnum, htx]
    exact h.txProp
  · intro j iptype
    rw [hclient, htx]
    rcases eq_or_ne j i with rfl | hne
    · rw [Function.update_self, hheaders]
      exact h.headers j iptype
    · rw [Function.update_of_ne hne]
      exact h.headers j iptype

theorem sound (h : ApInv s) (hi : i < s.numClient) :
    IpaWlanClient.Sound s.txProp (s.client i) :=
  h.roster.sound _ (List.mem_map_of_mem (mem_rows.mpr ⟨i, hi, rfl⟩))

end ApInv

theorem clientIndex_some {s : ClientIface WlanExt δ} {mac : MacAddr} {i : Nat}
    (h : s.clientIndex mac = some i) : i < s.numClient ∧ (s.client i).mac = mac := by
  rw [ClientIface.clientIndex] at h
  have hmem := List.mem_of_find?_eq_some h
  have hmac := List.find?_some h
  exact ⟨List.mem_range.mp hmem, by simpa using hmac⟩

theorem clientIndex_update {s t : ClientIface WlanExt δ} (mac : MacAddr) {i : Nat}
    {c : IpaWlanClient} (hnum : t.numClient = s.numClient)
    (hclient : t.client = Function.update s.client i c) (hmac : c.mac = (s.client i).mac) :
    t.clientIndex mac = s.clientIndex mac := by
  have hsame : ∀ j, (t.client j).mac = (s.client j).mac := by
    intro j
    rw [hclient]
    rcases eq_or_ne j i with rfl | hne
    · rw [Function.update_self, hmac]
    · rw [Function.update_of_ne hne]
  rw [ClientIface.clientIndex, ClientIface.clientIndex, hnum]
  simp only [hsame]

variable {s t : ClientIface WlanExt δ} {d : NatDriver δ} {mac : MacAddr} {i : Nat}

/-- The addresses of the clients but the client `i`. -/
def otherAddresses (s : ClientIface WlanExt δ) (i : Nat) : List (UInt32 × Bool) :=
  (others s.client s.numClient i).filterMap IpaWlanClient.address

theorem filterMap_view (txProp : List IpType) (c : IpaWlanClient) (cs : List IpaWlanClient) :
    (c.view txProp :: cs.map (IpaWlanClient.view txProp)).filterMap ClientView.address =
      c.address.toList ++ cs.filterMap IpaWlanClient.address := by
  rw [← List.map_cons (f := IpaWlanClient.view txProp), List.filterMap_map]
  change (c :: cs).filterMap IpaWlanClient.address = _
  rw [List.filterMap_cons]
  cases c.address <;> rfl

theorem address_of_set {c : IpaWlanClient} (h : c.ipv4Set = true) :
    c.address = some (c.v4Addr, c.powerSaveSet) := if_pos h

theorem address_of_unset {c : IpaWlanClient} (h : c.ipv4Set = false) : c.address = none :=
  if_neg (by simp [h])

theorem updatePwrSaveIf_pwrSaveIfs {addr : UInt32} (haddr : addr ≠ 0) (app : NatApp δ) :
    (updatePwrSaveIf d addr app).2.pwrSaveIfs =
      if app.pwrSaveIfs.contains addr then app.pwrSaveIfs
      else replaceFirst 0 addr app.pwrSaveIfs := by
  rw [updatePwrSaveIf, if_neg haddr]
  split <;> rfl

theorem deleteBoth_eq (s : ClientIface WlanExt δ) (i : Nat) :
    (s.deleteRtrules .v4 i).deleteRtrules .v6 i =
      { s with
        ipa := (((s.client i).clearRouteRules .v4).rtHdls s.txProp .v6).foldl
          (IpaDriver.deleteRoutingHdl .v6)
          (((s.client i).rtHdls s.txProp .v4).foldl (IpaDriver.deleteRoutingHdl .v4) s.ipa)
        client := Function.update s.client i
          (((s.client i).clearRouteRules .v4).clearRouteRules .v6) } := by
  simp only [ClientIface.deleteRtrules_eq, Function.update_self, Function.update_idem]

def IpaWlanClient.asleep (c : IpaWlanClient) : IpaWlanClient :=
  IpaWlanClient.setPowerSave ((c.clearRouteRules .v4).clearRouteRules .v6) true

theorem asleep_sound {txProp : List IpType} {c : IpaWlanClient} (h : c.Sound txProp) :
    c.asleep.Sound txProp := by
  constructor
  · change false = (c.ipv4Set && !true)
    simp
  · intro _
    rfl
  · exact Nat.zero_le _
  · exact h.v4Addr

theorem handleWlanClientPwrsave_inv (h : ApInv s)
    (halone : ∀ i, s.clientIndex mac = some i → (s.client i).ipv4Set = true →
      IpaWlanClient.powerSaveSet (s.client i) = false →
      ((s.client i).v4Addr, false) ∉ otherAddresses s i) :
    ApInv (s.handleWlanClientPwrsave d mac) := by
  rw [ClientIface.handleWlanClientPwrsave]
  split
  case h_1 => exact h
  case h_2 i hindex =>
  have hi := (clientIndex_some hindex).1
  have hroster := h.focus hi
  have hsound := h.sound hi
  have hipa := Client.accounts_clearRouteRules .v6
    (Client.accounts_clearRouteRules .v4 hroster.ipa)
  have hcount : (otherAddresses s i).length < ipaMaxNumWifiClients := by
    have hle := hroster.count
    rw [List.length_cons, List.length_map] at hle
    exact Nat.lt_of_le_of_lt (List.length_filterMap_le _ _) hle
  dsimp only
  split
  case isTrue => exact h
  case isFalse hps =>
  have hawake : IpaWlanClient.powerSaveSet (s.client i) = false := by simpa using hps
  have hsaves := hroster.saves
  rw [filterMap_view] at hsaves
  cases hset : (s.client i).ipv4Set with
  | false =>
      rw [if_neg (by simp), deleteBoth_eq]
      refine h.of_update hi (c := IpaWlanClient.asleep (s.client i)) rfl rfl ?_ rfl ?_
      · simp only [ClientIface.setClient, Function.update_self, Function.update_idem]
        rfl
      · refine hroster.replace ?_ hipa ?_ (asleep_sound hsound)
        · rfl
        rw [filterMap_view, address_of_unset (c := IpaWlanClient.asleep (s.client i)) hset]
        rw [address_of_unset hset] at hsaves
        exact hsaves
  | true =>
      rw [if_pos rfl, deleteBoth_eq]
      refine h.of_update hi (c := IpaWlanClient.asleep (s.client i)) rfl rfl ?_ rfl ?_
      · simp only [ClientIface.setClient, Function.update_self, Function.update_idem]
        rfl
      · refine hroster.replace ?_ hipa ?_ (asleep_sound hsound)
        · rfl
        rw [filterMap_view, address_of_set (c := IpaWlanClient.asleep (s.client i)) hset]
        rw [address_of_set hset, hawake] at hsaves
        have hne := hsound.v4Addr hset
        change Saves (updatePwrSaveIf d (s.client i).v4Addr s.ctList.natInst).2.pwrSaveIfs _
        rw [updatePwrSaveIf_pwrSaveIfs hne]
        exact hsaves.sleep hne (halone i hindex hset hawake) hcount

/-- A client with some handles stored, and the rules of a family marked as set. -/
def IpaWlanClient.withRules (c : IpaWlanClient) (rtHdl : Nat → RtSlot → Hdl) :
    IpType → IpaWlanClient
  | .v4 => { c with rtHdl := rtHdl, routeRuleSetV4 := c.routeRuleSetV4 || c.ipv4Set }
  | .v6 => { c with rtHdl := rtHdl, routeRuleSetV6 := max c.routeRuleSetV6 c.ipv6Set }

theorem handleWlanClientRouteRule_eq {iptype : IpType} (htx : s.txProp ≠ [])
    (hindex : s.clientIndex mac = some i)
    (hawake : IpaWlanClient.powerSaveSet (s.client i) = false)
    (hroute : s.handleWlanClientRouteRule mac iptype = some t) :
    ∃ rtHdl ipa, t = { s with
        ipa := ipa
        client := Function.update s.client i
          (IpaWlanClient.withRules (s.client i) rtHdl iptype) } ∧
      ∀ rest : Kind → List (Hdl × Resource),
        (s.ipa.Accounts fun kind => (s.client i).held s.txProp kind ++ rest kind) →
        ipa.Accounts fun kind =>
          Client.held s.txProp (IpaWlanClient.withRules (s.client i) rtHdl iptype) kind ++
            rest kind := by
  rw [ClientIface.handleWlanClientRouteRule, ClientIface.handleClientRouteRule, if_neg htx]
    at hroute
  simp only [hindex, hawake] at hroute
  rw [if_neg (by simp), ClientIface.addClientRules] at hroute
  simp only [Option.bind_eq_bind, Option.bind_eq_some_iff] at hroute
  obtain ⟨⟨c, ipa⟩, hadd, hroute⟩ := hroute
  cases hroute
  have hrecord := Client.addRtRules_record hadd
  have hmark : c.markRouteRules iptype =
      IpaWlanClient.withRules (s.client i) c.rtHdl iptype := by
    rw [hrecord]
    cases iptype with
    | v4 => rw [Client.markRouteRules_v4, IpaWlanClient.withRules]
    | v6 => rw [Client.markRouteRules_v6, IpaWlanClient.withRules]
  refine ⟨c.rtHdl, ipa, ?_, ?_⟩
  · rw [← hmark]
    rfl
  · intro rest hrest
    rw [← hmark]
    exact Client.accounts_markRouteRules hrest hadd

theorem withRules_of_unset {c : IpaWlanClient} (h : c.ipv4Set = false) :
    c.withRules c.rtHdl .v4 = c := by
  have hset : (c.routeRuleSetV4 || c.ipv4Set) = c.routeRuleSetV4 := by rw [h, Bool.or_false]
  rw [IpaWlanClient.withRules, hset]

theorem withRules_of_none {c : IpaWlanClient} (h : c.ipv6Set = 0) :
    c.withRules c.rtHdl .v6 = c := by
  have hset : max c.routeRuleSetV6 c.ipv6Set = c.routeRuleSetV6 := by rw [h, Nat.max_zero]
  rw [IpaWlanClient.withRules, hset]

/-- What is live is what a client and the others hold. -/
def Settled (s : ClientIface WlanExt δ) (ipa : IpaDriver) (c : IpaWlanClient)
    (rest : Kind → List (Hdl × Resource)) : Prop :=
  ipa.Accounts fun kind => c.held s.txProp kind ++ rest kind

/-- What the clients but the client `i` hold. -/
def heldByOthers (s : ClientIface WlanExt δ) (i : Nat) (kind : Kind) : List (Hdl × Resource) :=
  ((others s.client s.numClient i).map (IpaWlanClient.view s.txProp)).flatMap
    fun v => v.held kind

theorem recoverV4_eq (htx : s.txProp ≠ []) (hindex : s.clientIndex mac = some i)
    (hawake : IpaWlanClient.powerSaveSet (s.client i) = false)
    (hne : (s.client i).ipv4Set = true → (s.client i).v4Addr ≠ 0)
    (hroute : s.recoverV4 d mac (s.client i) = some t) :
    ∃ rtHdl ipa ctList, t = { s with
        ipa := ipa
        ctList := ctList
        client := Function.update s.client i
          (IpaWlanClient.withRules (s.client i) rtHdl .v4) } ∧
      (∀ rest, Settled s s.ipa (s.client i) rest →
        Settled s ipa (IpaWlanClient.withRules (s.client i) rtHdl .v4) rest) ∧
      ctList.natInst.pwrSaveIfs =
        if (s.client i).ipv4Set then
          replaceFirst (s.client i).v4Addr 0 s.ctList.natInst.pwrSaveIfs
        else s.ctList.natInst.pwrSaveIfs := by
  rw [ClientIface.recoverV4] at hroute
  cases hset : (s.client i).ipv4Set with
  | false =>
      rw [if_neg (by simp [hset])] at hroute
      cases hroute
      refine ⟨(s.client i).rtHdl, s.ipa, s.ctList, ?_, ?_, ?_⟩
      · rw [withRules_of_unset hset, Function.update_eq_self]
      · intro rest hrest
        rw [withRules_of_unset hset]
        exact hrest
      · rw [if_neg (by simp)]
  | true =>
      rw [if_pos hset] at hroute
      simp only [Option.bind_eq_bind, Option.bind_eq_some_iff, Option.some.injEq] at hroute
      obtain ⟨s', hrules, rfl⟩ := hroute
      obtain ⟨rtHdl, ipa, rfl, hheld⟩ := handleWlanClientRouteRule_eq htx hindex hawake hrules
      refine ⟨rtHdl, ipa, _, rfl, hheld, ?_⟩
      rw [if_pos rfl]
      exact resetPwrSaveIf_pwrSaveIfs (hne hset) _

theorem recoverV6_eq (htx : s.txProp ≠ []) (hindex : s.clientIndex mac = some i)
    (hawake : IpaWlanClient.powerSaveSet (s.client i) = false)
    (hroute : (if (s.client i).ipv6Set ≠ 0 then s.handleWlanClientRouteRule mac .v6
      else some s) = some t) :
    ∃ rtHdl ipa, t = { s with
        ipa := ipa
        client := Function.update s.client i
          (IpaWlanClient.withRules (s.client i) rtHdl .v6) } ∧
      ∀ rest, Settled s s.ipa (s.client i) rest →
        Settled s ipa (IpaWlanClient.withRules (s.client i) rtHdl .v6) rest := by
  rcases Nat.eq_zero_or_pos (s.client i).ipv6Set with hnone | hsome
  · rw [if_neg (by simp [hnone])] at hroute
    cases hroute
    refine ⟨(s.client i).rtHdl, s.ipa, ?_, ?_⟩
    · rw [withRules_of_none hnone, Function.update_eq_self]
    · intro rest hrest
      rw [withRules_of_none hnone]
      exact hrest
  · rw [if_pos (Nat.ne_of_gt hsome)] at hroute
    exact handleWlanClientRouteRule_eq htx hindex hawake hroute

theorem recovered_sound {txProp : List IpType} {c : IpaWlanClient} (h : c.Sound txProp)
    (hasleep : c.powerSaveSet = true) (g g' : Nat → RtSlot → Hdl) :
    (((c.setPowerSave false).withRules g .v4).withRules g' .v6).Sound txProp := by
  have h4 := h.routeRuleSetV4
  rw [hasleep, Bool.not_true, Bool.and_false] at h4
  constructor
  · change (c.routeRuleSetV4 || c.ipv4Set) = (c.ipv4Set && !false)
    rw [h4, Bool.false_or, Bool.not_false, Bool.and_true]
  · intro _
    exact Nat.max_eq_right h.ipv6Set
  · exact Nat.max_le.mpr ⟨h.ipv6Set, Nat.le_refl _⟩
  · exact h.v4Addr

theorem recoverClient_inv (h : ApInv s)
    (halone : ∀ i, s.clientIndex mac = some i → (s.client i).ipv4Set = true →
      IpaWlanClient.powerSaveSet (s.client i) = true →
      ((s.client i).v4Addr, true) ∉ otherAddresses s i)
    (hrecover : s.recoverClient d mac = some t) : ApInv t := by
  rw [ClientIface.recoverClient] at hrecover
  split at hrecover
  case h_1 =>
    cases hrecover
    exact h
  case h_2 i hindex =>
  have hi := (clientIndex_some hindex).1
  have htx := h.txProp (Nat.lt_of_le_of_lt (Nat.zero_le i) hi)
  have hroster := h.focus hi
  have hsound := h.sound hi
  dsimp only at hrecover
  split at hrecover
  case isTrue =>
    cases hrecover
    exact h
  case isFalse hps =>
  have hasleep : IpaWlanClient.powerSaveSet (s.client i) = true := by simpa using hps
  rw [Option.bind_eq_bind, Option.bind_eq_some_iff] at hrecover
  obtain ⟨s₁, hv4, hv6⟩ := hrecover
  let awake := s.setClient i (IpaWlanClient.setPowerSave (s.client i) false)
  have hclient : awake.client i = IpaWlanClient.setPowerSave (s.client i) false :=
    Function.update_self ..
  have hindex₀ : awake.clientIndex mac = some i :=
    (clientIndex_update mac rfl rfl rfl : awake.clientIndex mac = s.clientIndex mac).trans hindex
  have hawake : IpaWlanClient.powerSaveSet (awake.client i) = false := by
    rw [hclient]
    rfl
  have hne : (awake.client i).ipv4Set = true → (awake.client i).v4Addr ≠ 0 := by
    rw [hclient]
    exact hsound.v4Addr
  have hv4' : awake.recoverV4 d mac (awake.client i) = some s₁ := by
    rw [hclient]
    exact hv4
  obtain ⟨g, ipa₁, ctList, rfl, hheld₁, hifs⟩ :=
    recoverV4_eq (s := awake) htx hindex₀ hawake hne hv4'
  rw [hclient] at hheld₁ hifs hv6
  let c₁ := IpaWlanClient.withRules (IpaWlanClient.setPowerSave (s.client i) false) g .v4
  let s₁ : ClientIface WlanExt δ := { awake with
    ipa := ipa₁
    ctList := ctList
    client := Function.update awake.client i c₁ }
  have hclient₁ : s₁.client i = c₁ := Function.update_self ..
  have hindex₁ : s₁.clientIndex mac = some i := by
    rw [← hindex₀]
    refine clientIndex_update (s := awake) mac rfl rfl ?_
    rw [hclient]
    rfl
  have hawake₁ : IpaWlanClient.powerSaveSet (s₁.client i) = false := by
    rw [hclient₁]
    rfl
  have hv6' : (if (s₁.client i).ipv6Set ≠ 0 then s₁.handleWlanClientRouteRule mac .v6
      else some s₁) = some t := by
    rw [hclient₁]
    exact hv6
  obtain ⟨g', ipa₂, rfl, hheld₂⟩ := recoverV6_eq (s := s₁) htx hindex₁ hawake₁ hv6'
  rw [hclient₁] at hheld₂
  have hipa := hheld₂ _ (hheld₁ _ hroster.ipa)
  refine h.of_update hi (c := c₁.withRules g' .v6) rfl rfl ?_ rfl ?_
  · simp only [s₁, awake, ClientIface.setClient, Function.update_idem, Function.update_self]
  · refine hroster.replace ?_ hipa ?_ (recovered_sound hsound hasleep g g')
    · rfl
    rw [filterMap_view]
    have hsaves := hroster.saves
    rw [filterMap_view] at hsaves
    change Saves ctList.natInst.pwrSaveIfs _
    rw [hifs]
    cases hset : (s.client i).ipv4Set with
    | false =>
        rw [address_of_unset (c := c₁.withRules g' .v6) hset]
        rw [address_of_unset hset] at hsaves
        rw [if_neg (by rw [Bool.not_eq_true]; exact hset)]
        exact hsaves
    | true =>
        rw [address_of_set (c := c₁.withRules g' .v6) hset]
        rw [address_of_set hset, hasleep] at hsaves
        have hno := halone i hindex hset hasleep
        rw [if_pos (by exact hset)]
        exact (hsaves.leave (hsound.v4Addr hset) hno).join hno

end

end LibraDevice.Lan
