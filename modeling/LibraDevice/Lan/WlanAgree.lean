import LibraDevice.Lan.WlanRoster

/-!
The routing rules of WLAN clients, power save and the NAT cache, over the runs of one access
point.
-/

namespace LibraDevice.Lan

open Backhaul Conntrack Ledger NatCache Rows StepRun
open LanToLan (IpAddr MacAddr ClientEventId LanClientEvent)

section

variable {δ : Type} {s t : ClientIface WlanExt δ} {d : NatDriver δ} {mac : MacAddr} {i : Nat}

/-- A client with an IPv4 address whose rules are not set yet. -/
def IpaWlanClient.withV4Addr (c : IpaWlanClient) (addr : UInt32) : IpaWlanClient :=
  { c with v4Addr := addr, ipv4Set := true, routeRuleSetV4 := false }

theorem withV4Addr_held (txProp : List IpType) (c : IpaWlanClient) (addr : UInt32) :
    (c.withV4Addr addr).held txProp = (c.clearRouteRules .v4).held txProp := by
  apply Client.held_congr
  case haddr4 =>
    intro hset
    cases hset
  case hrt6 =>
    intro t _ k _
    exact ⟨rfl, rfl⟩
  all_goals intros; rfl

theorem not_mem_addresses (hawake : IpaWlanClient.powerSaveSet (s.client i) = false)
    {addr : UInt32} (hno : (addr, true) ∉ otherAddresses s i) :
    (addr, true) ∉ (IpaWlanClient.address (s.client i)).toList ++ otherAddresses s i := by
  rw [List.mem_append, not_or, Option.mem_toList]
  refine ⟨?_, hno⟩
  rw [IpaWlanClient.address]
  split
  · rw [hawake]
    intro heq
    cases heq
  · intro heq
    cases heq

theorem saves_of_awake {c : IpaWlanClient} {ifs : List UInt32} {addrs : List (UInt32 × Bool)}
    (hawake : c.powerSaveSet = false) (h : Saves ifs (c.address.toList ++ addrs)) :
    Saves ifs addrs := by
  cases hset : c.ipv4Set with
  | false =>
      rw [address_of_unset hset] at h
      exact h
  | true =>
      rw [address_of_set hset, hawake] at h
      exact h.part

theorem withV4Addr_sound {txProp : List IpType} {c : IpaWlanClient} (h : c.Sound txProp)
    (hawake : c.powerSaveSet = false) {addr : UInt32} (haddr : addr ≠ 0)
    (g : Nat → RtSlot → Hdl) : ((c.withV4Addr addr).withRules g .v4).Sound txProp := by
  constructor
  · change (false || true) = (true && !c.powerSaveSet)
    rw [hawake]
    rfl
  · exact h.routeRuleSetV6
  · exact h.ipv6Set
  · intro _
    exact haddr

theorem ipaddrV4_eq {data : NeighData} (h : ApInv s) (hfamily : data.iptype = .v4)
    (hindex : s.clientIndex data.macAddr = some i)
    (hawake : IpaWlanClient.powerSaveSet (s.client i) = false)
    (hip : s.handleClientIpaddr d data = some t) :
    data.ipv4Addr ≠ 0 ∧ ∃ ipa ctList, t = { s with
        ipa := ipa
        ctList := ctList
        client := Function.update s.client i
          (IpaWlanClient.withV4Addr (s.client i) data.ipv4Addr) } ∧
      (∀ rest, Settled s s.ipa (s.client i) rest →
        Settled s ipa (IpaWlanClient.withV4Addr (s.client i) data.ipv4Addr) rest) ∧
      ctList.natInst.pwrSaveIfs = s.ctList.natInst.pwrSaveIfs := by
  have hi := (clientIndex_some hindex).1
  have hsound := h.sound hi
  rw [ClientIface.handleClientIpaddr] at hip
  simp only [hindex, hfamily] at hip
  split at hip
  case isTrue => cases hip
  case isFalse hzero =>
  refine ⟨hzero, ?_⟩
  split at hip
  case isTrue hunset =>
    have hset4 : (s.client i).routeRuleSetV4 = false := by
      rw [hsound.routeRuleSetV4, hunset, Bool.false_and]
    cases hip
    refine ⟨s.ipa, s.ctList, ?_, ?_, rfl⟩
    · rw [IpaWlanClient.withV4Addr, ← hset4]
      rfl
    · intro rest hrest
      have hsame : (s.client i).clearRouteRules .v4 = s.client i := by
        rw [Client.clearRouteRules, ← hset4]
      rw [Settled, withV4Addr_held, hsame]
      exact hrest
  case isFalse hset =>
    rw [Bool.not_eq_false] at hset
    split at hip
    case isTrue => cases hip
    case isFalse hnew =>
      cases hip
      refine ⟨((s.client i).rtHdls s.txProp .v4).foldl (IpaDriver.deleteRoutingHdl .v4) s.ipa,
        handleNeighIpAddrDelEvt d (s.client i).v4Addr s.ctList, ?_, ?_, ?_⟩
      · simp only [ClientIface.setClient, ClientIface.deleteRtrules_eq,
          ClientIface.neighIpAddrDel, Function.update_self, Function.update_idem]
        rw [IpaWlanClient.withV4Addr, ← hset]
        rfl
      · intro rest hrest
        rw [Settled, withV4Addr_held]
        exact Client.accounts_clearRouteRules _ hrest
      · have hne := hsound.v4Addr hset
        have hsaves := (h.focus hi).saves
        rw [filterMap_view, address_of_set hset, hawake] at hsaves
        have hno := hsaves.awake (s.client i).v4Addr List.mem_cons_self
        rw [handleNeighIpAddrDelEvt_pwrSaveIfs hne,
          replaceFirst_of_not_mem (hsaves.not_mem hne hno)]

theorem handleLan2lanClientActive_eq (id : ClientEventId) (data : NeighData)
    (s : ClientIface WlanExt δ) :
    ∃ posted, s.handleLan2lanClientActive id data = { s with posted := posted } := by
  rw [ClientIface.handleLan2lanClientActive]
  split
  · exact ⟨_, rfl⟩
  · exact ⟨s.posted, rfl⟩

/-- `IPA_NEIGH_CLIENT_IP_ADDR_ADD_EVENT` with an IPv4 address that is stored, where the client
is awake and no client asleep has the address. -/
theorem neighV4_inv {cfg : Config} {data : NeighData} {s₁ : ClientIface WlanExt δ} (h : ApInv s)
    (hfamily : data.iptype = .v4) (hip : s.handleClientIpaddr d data = some s₁)
    (hawake : ∀ i, s.clientIndex data.macAddr = some i →
      IpaWlanClient.powerSaveSet (s.client i) = false ∧
        (data.ipv4Addr, true) ∉ otherAddresses s i)
    (hadd : s.neighClientAdd d cfg data = some t) : ApInv t := by
  cases hindex : s.clientIndex data.macAddr with
  | none =>
      rw [ClientIface.handleClientIpaddr] at hip
      simp only [hindex] at hip
      cases hip
  | some i =>
      obtain ⟨hps, hno⟩ := hawake i hindex
      have hi := (clientIndex_some hindex).1
      have htx := h.txProp (Nat.lt_of_le_of_lt (Nat.zero_le i) hi)
      have hroster := h.focus hi
      have hsound := h.sound hi
      rw [ClientIface.neighClientAdd] at hadd
      simp only [hip, hfamily, Option.bind_eq_bind, Option.bind_eq_some_iff,
        Option.some.injEq] at hadd
      obtain ⟨s₂, hroute, rfl⟩ := hadd
      obtain ⟨hne, ipa₁, ctList, rfl, hheld₁, hifs⟩ := ipaddrV4_eq h hfamily hindex hps hip
      obtain ⟨posted, hposted⟩ := handleLan2lanClientActive_eq .active data { s with
        ipa := ipa₁
        ctList := ctList
        client := Function.update s.client i
          (IpaWlanClient.withV4Addr (s.client i) data.ipv4Addr) }
      rw [hposted] at hroute
      let c₁ := IpaWlanClient.withV4Addr (s.client i) data.ipv4Addr
      let s₁ : ClientIface WlanExt δ := { s with
        ipa := ipa₁
        ctList := ctList
        client := Function.update s.client i c₁
        posted := posted }
      have hclient₁ : s₁.client i = c₁ := Function.update_self ..
      have hindex₁ : s₁.clientIndex data.macAddr = some i := by
        rw [← hindex]
        exact clientIndex_update (i := i) (c := c₁) data.macAddr rfl rfl rfl
      obtain ⟨g, ipa₂, rfl, hheld₂⟩ := handleWlanClientRouteRule_eq (s := s₁) htx hindex₁
        (by rw [hclient₁]; exact hps) hroute
      rw [hclient₁] at hheld₂
      have hipa := hheld₂ _ (hheld₁ _ hroster.ipa)
      have hsaves := hroster.saves
      rw [filterMap_view] at hsaves
      have hnew := not_mem_addresses hps hno
      refine h.of_update hi (c := c₁.withRules g .v4) rfl rfl ?_ rfl ?_
      · simp only [s₁, ClientIface.neighIpAddrAdd, Function.update_idem, Function.update_self]
      · refine hroster.replace ?_ hipa ?_ ?_
        · rfl
        · rw [filterMap_view, address_of_set (c := c₁.withRules g .v4) rfl]
          have hkeep : (handleNeighIpAddrAddEvt d cfg data.ipv4Addr .v4 data.ifrName
              ctList).natInst.pwrSaveIfs = s.ctList.natInst.pwrSaveIfs := by
            rw [handleNeighIpAddrAddEvt_pwrSaveIfs, hifs]
            rw [hifs]
            exact hsaves.not_mem hne hnew
          change Saves (handleNeighIpAddrAddEvt d cfg data.ipv4Addr .v4 data.ifrName
            ctList).natInst.pwrSaveIfs ((data.ipv4Addr, IpaWlanClient.powerSaveSet c₁) :: _)
          have hawake₁ : IpaWlanClient.powerSaveSet c₁ = false := hps
          rw [hkeep, hawake₁]
          exact (saves_of_awake hps hsaves).join hno
        · exact withV4Addr_sound hsound hps hne g

/-- A client with other IPv6 addresses. -/
def IpaWlanClient.withV6Addrs (c : IpaWlanClient) (v6Addr : Nat → IpAddr) (n : Nat) :
    IpaWlanClient :=
  { c with v6Addr := v6Addr, ipv6Set := n }

theorem ipaddrV6_eq {data : NeighData} (h : ApInv s) (hfamily : data.iptype = .v6)
    (hindex : s.clientIndex data.macAddr = some i)
    (hip : s.handleClientIpaddr d data = some t) :
    ∃ v6Addr n, t = { s with
        client := Function.update s.client i
          (IpaWlanClient.withV6Addrs (s.client i) v6Addr n) } ∧
      (s.client i).ipv6Set ≤ n ∧
      (IpaWlanClient.withV6Addrs (s.client i) v6Addr n).held s.txProp =
        (s.client i).held s.txProp := by
  have hsound := h.sound (clientIndex_some hindex).1
  rw [ClientIface.handleClientIpaddr] at hip
  simp only [hindex, hfamily] at hip
  split at hip
  case isTrue =>
    cases hip
    refine ⟨(s.client i).v6Addr, (s.client i).ipv6Set, ?_, Nat.le_refl _, rfl⟩
    rw [IpaWlanClient.withV6Addrs, Function.update_eq_self]
  case isFalse =>
  split at hip
  case isTrue => cases hip
  case isFalse =>
  split at hip
  case isTrue => cases hip
  case isFalse =>
  cases hip
  refine ⟨_, _, rfl, Nat.le_succ _, ?_⟩
  apply Client.held_congr
  case haddr6 =>
    intro k hk
    exact Function.update_of_ne (Nat.ne_of_lt (Nat.lt_of_lt_of_le hk hsound.ipv6Set)) _ _
  case hrt6 =>
    intro t _ k _
    exact ⟨rfl, rfl⟩
  all_goals intros; rfl

theorem handleWlanClientRouteRule_asleep {iptype : IpType}
    (hindex : s.clientIndex mac = some i)
    (hasleep : IpaWlanClient.powerSaveSet (s.client i) = true) :
    s.handleWlanClientRouteRule mac iptype = some s := by
  rw [ClientIface.handleWlanClientRouteRule, ClientIface.handleClientRouteRule]
  split
  case isTrue => rfl
  case isFalse =>
    simp only [hindex]
    rw [if_pos hasleep]

theorem withV6Addrs_sound {txProp : List IpType} {c : IpaWlanClient} (h : c.Sound txProp)
    (hasleep : c.powerSaveSet = true) {f : Nat → IpAddr} {n : Nat} (hn : c.ipv6Set ≤ n) :
    (c.withV6Addrs f n).Sound txProp := by
  constructor
  · exact h.routeRuleSetV4
  · intro htx
    have h6 := h.routeRuleSetV6 htx
    rw [hasleep, if_pos rfl] at h6
    change c.routeRuleSetV6 = if c.powerSaveSet then 0 else n
    rw [hasleep, if_pos rfl]
    exact h6
  · exact Nat.le_trans h.ipv6Set hn
  · exact h.v4Addr

theorem withV6Rules_sound {txProp : List IpType} {c : IpaWlanClient} (h : c.Sound txProp)
    (hawake : c.powerSaveSet = false) {f : Nat → IpAddr} {n : Nat} (hn : c.ipv6Set ≤ n)
    (g : Nat → RtSlot → Hdl) : ((c.withV6Addrs f n).withRules g .v6).Sound txProp := by
  have hmax : max c.routeRuleSetV6 n = n := Nat.max_eq_right (Nat.le_trans h.ipv6Set hn)
  constructor
  · exact h.routeRuleSetV4
  · intro _
    change max c.routeRuleSetV6 n = if c.powerSaveSet then 0 else n
    rw [hmax, hawake]
    rfl
  · exact Nat.le_of_eq hmax
  · exact h.v4Addr

theorem neighV6_inv {cfg : Config} {data : NeighData} (h : ApInv s) (hfamily : data.iptype = .v6)
    (hadd : s.neighClientAdd d cfg data = some t) : ApInv t := by
  rw [ClientIface.neighClientAdd] at hadd
  split at hadd
  case h_1 =>
    cases hadd
    exact h
  case h_2 s₁ hip =>
  cases hindex : s.clientIndex data.macAddr with
  | none =>
      rw [ClientIface.handleClientIpaddr] at hip
      simp only [hindex] at hip
      cases hip
  | some i =>
      have hi := (clientIndex_some hindex).1
      have htx := h.txProp (Nat.lt_of_le_of_lt (Nat.zero_le i) hi)
      have hroster := h.focus hi
      have hsound := h.sound hi
      have hsaves := hroster.saves
      rw [filterMap_view] at hsaves
      simp only [hfamily, Option.bind_eq_bind, Option.bind_eq_some_iff, Option.some.injEq] at hadd
      obtain ⟨s₂, hroute, rfl⟩ := hadd
      obtain ⟨f, n, rfl, hn, hheld⟩ := ipaddrV6_eq h hfamily hindex hip
      let c₁ := IpaWlanClient.withV6Addrs (s.client i) f n
      obtain ⟨posted, hposted⟩ := handleLan2lanClientActive_eq .active data
        { s with client := Function.update s.client i c₁ }
      rw [hposted] at hroute
      let s₁ : ClientIface WlanExt δ := { s with
        client := Function.update s.client i c₁
        posted := posted }
      have hclient₁ : s₁.client i = c₁ := Function.update_self ..
      have hindex₁ : s₁.clientIndex data.macAddr = some i := by
        rw [← hindex]
        exact clientIndex_update (i := i) (c := c₁) data.macAddr rfl rfl rfl
      have hipa : Settled s s.ipa c₁ (heldByOthers s i) := by
        rw [Settled, hheld]
        exact hroster.ipa
      have haddr : IpaWlanClient.address c₁ = IpaWlanClient.address (s.client i) := rfl
      cases hps : IpaWlanClient.powerSaveSet (s.client i) with
      | true =>
          rw [handleWlanClientRouteRule_asleep (s := s₁) hindex₁ (by rw [hclient₁]; exact hps)]
            at hroute
          have heq := Option.some.inj hroute
          subst heq
          refine h.of_update hi (c := c₁) rfl rfl rfl rfl ?_
          refine hroster.replace ?_ hipa ?_ (withV6Addrs_sound hsound hps hn)
          · rfl
          · rw [filterMap_view, haddr]
            exact hsaves
      | false =>
          obtain ⟨g, ipa₂, rfl, hheld₂⟩ := handleWlanClientRouteRule_eq (s := s₁) htx hindex₁
            (by rw [hclient₁]; exact hps) hroute
          rw [hclient₁] at hheld₂
          refine h.of_update hi (c := c₁.withRules g .v6) rfl rfl ?_ rfl ?_
          · simp only [s₁, Function.update_idem, Function.update_self]
          · refine hroster.replace ?_ (hheld₂ _ hipa) ?_ (withV6Rules_sound hsound hps hn g)
            · rfl
            · rw [filterMap_view]
              exact hsaves

theorem clientIndex_self (h : ApInv s) (hi : i < s.numClient) :
    s.clientIndex (s.client i).mac = some i := by
  have hmacs := h.roster.macs
  rw [List.map_map, rows, List.map_map] at hmacs
  cases hindex : s.clientIndex (s.client i).mac with
  | none =>
      rw [ClientIface.clientIndex, List.find?_eq_none] at hindex
      exact absurd (beq_self_eq_true _) (hindex i (List.mem_range.mpr hi))
  | some j =>
      obtain ⟨hj, hmac⟩ := clientIndex_some hindex
      rw [List.inj_on_of_nodup_map hmacs (List.mem_range.mpr hj) (List.mem_range.mpr hi) hmac]

theorem msgPostV6_some {id : ClientEventId} (hindex : s.clientIndex mac = some i)
    (hpost : s.handleLan2lanMsgPost mac id .v6 = some t) :
    (∃ posted, t = { s with posted := posted }) ∧
      (s.ipType.supports .v6 = false → (s.client i).ipv6Set = 0) := by
  rw [ClientIface.handleLan2lanMsgPost] at hpost
  simp only [hindex] at hpost
  split at hpost
  case isTrue hnone =>
    cases hpost
    refine ⟨⟨s.posted, rfl⟩, fun _ => ?_⟩
    simpa using hnone
  case isFalse =>
    split at hpost
    case isTrue hup =>
      cases hpost
      refine ⟨⟨_, rfl⟩, fun hdown => ?_⟩
      rw [hup] at hdown
      cases hdown
    case isFalse => cases hpost

theorem msgPostV6_none {id : ClientEventId} (hindex : s.clientIndex mac = some i)
    (hpost : s.handleLan2lanMsgPost mac id .v6 = none) :
    s.ipType.supports .v6 = false ∧ (s.client i).ipv6Set ≠ 0 := by
  rw [ClientIface.handleLan2lanMsgPost] at hpost
  simp only [hindex] at hpost
  split at hpost
  case isTrue => cases hpost
  case isFalse hsome =>
    split at hpost
    case isTrue => cases hpost
    case isFalse hdown =>
      refine ⟨by simpa using hdown, ?_⟩
      simpa using hsome

/-- A client whose IPv6 rules are deleted. -/
def IpaWlanClient.withoutV6 (c : IpaWlanClient) (n : Nat) : IpaWlanClient :=
  { c.clearRouteRules .v6 with ipv6Set := n }

theorem withoutV6_inv {n : Nat} (h : ApInv s) (hi : i < s.numClient)
    (hn : .v6 ∈ s.txProp → n = 0 ∨ IpaWlanClient.powerSaveSet (s.client i) = true)
    (posted : List (ClientEventId × LanClientEvent Nat)) :
    ApInv { s.deleteRtrules .v6 i with
      client := Function.update s.client i (IpaWlanClient.withoutV6 (s.client i) n)
      posted := posted } := by
  have hroster := h.focus hi
  have hsound := h.sound hi
  refine h.of_update hi (c := IpaWlanClient.withoutV6 (s.client i) n) rfl rfl rfl rfl ?_
  refine hroster.replace ?_ ?_ ?_ ?_
  · rfl
  · exact Client.accounts_clearRouteRules .v6 hroster.ipa
  · exact hroster.saves
  · constructor
    · exact hsound.routeRuleSetV4
    · intro htx
      change 0 = if IpaWlanClient.powerSaveSet (s.client i) then 0 else n
      rcases hn htx with rfl | hps
      · rw [ite_self]
      · rw [hps, if_pos rfl]
    · exact Nat.zero_le n
    · exact hsound.v4Addr

/-- The first client with IPv6 addresses is in power save. -/
def FirstV6Asleep (s : ClientIface WlanExt δ) : Prop :=
  ∀ i < s.numClient, (∀ j < i, (s.client j).ipv6Set = 0) → (s.client i).ipv6Set ≠ 0 →
    IpaWlanClient.powerSaveSet (s.client i) = true

/-- Where `handle_wlan_client_reset_rt` gets through the clients, or stops at one without
rules. -/
def V6Resets (s : ClientIface WlanExt δ) : Prop :=
  s.ipType.supports .v6 = true ∨ .v6 ∉ s.txProp ∨ FirstV6Asleep s

theorem FirstV6Asleep.congr (h : FirstV6Asleep s) (hnum : t.numClient = s.numClient)
    (hv6 : ∀ j, (t.client j).ipv6Set = (s.client j).ipv6Set)
    (hps : ∀ j, IpaWlanClient.powerSaveSet (t.client j) =
      IpaWlanClient.powerSaveSet (s.client j)) : FirstV6Asleep t := by
  intro i hi hbefore hsome
  rw [hps]
  apply h i (hnum ▸ hi)
  · intro j hj
    rw [← hv6]
    exact hbefore j hj
  · rw [← hv6]
    exact hsome

theorem resetRt_inv (n : Nat) (h : ApInv s) (hn : i + n = s.numClient)
    (hresets : V6Resets s)
    (hbefore : s.ipType.supports .v6 = false → ∀ j < i, (s.client j).ipv6Set = 0) :
    ApInv (s.resetRt .v6 (List.range' i n)) := by
  induction n generalizing s i with
  | zero => exact h
  | succ n ih =>
      have hi : i < s.numClient := by omega
      rw [List.range'_succ, ClientIface.resetRt]
      have hindex : (s.deleteRtrules .v6 i).clientIndex ((s.deleteRtrules .v6 i).client i).mac =
          some i := by
        rw [← clientIndex_self h hi, ClientIface.deleteRtrules_eq]
        simp only [Function.update_self]
        exact clientIndex_update (i := i) (c := (s.client i).clearRouteRules .v6) _ rfl rfl rfl
      have hclient : (s.deleteRtrules .v6 i).client i = (s.client i).clearRouteRules .v6 := by
        rw [ClientIface.deleteRtrules_eq]
        exact Function.update_self ..
      dsimp only
      split
      case h_1 hpost =>
        obtain ⟨hdown, hsome⟩ := msgPostV6_none hindex hpost
        rw [hclient] at hsome
        have hasleep : .v6 ∈ s.txProp → (s.client i).ipv6Set = 0 ∨
            IpaWlanClient.powerSaveSet (s.client i) = true := by
          intro htx
          rcases hresets with hup | hno | hfirst
          · exact absurd (hup.symm.trans hdown) (by simp)
          · exact absurd htx hno
          · exact Or.inr (hfirst i hi (hbefore hdown) hsome)
        exact withoutV6_inv (n := (s.client i).ipv6Set) h hi hasleep s.posted
      case h_2 s₂ hpost =>
        obtain ⟨⟨posted, rfl⟩, hnone⟩ := msgPostV6_some hindex hpost
        rw [hclient] at hnone ⊢
        let s₃ : ClientIface WlanExt δ := { s.deleteRtrules .v6 i with
          client := Function.update s.client i (IpaWlanClient.withoutV6 (s.client i) 0)
          posted := posted }
        have hs₃ : ({ s.deleteRtrules .v6 i with posted := posted } :
            ClientIface WlanExt δ).setClient i
              { (s.client i).clearRouteRules .v6 with ipv6Set := 0 } = s₃ := by
          simp only [ClientIface.setClient, ClientIface.deleteRtrules_eq, Function.update_idem, s₃]
          rfl
        have hinv : ApInv s₃ := withoutV6_inv h hi (fun _ => Or.inl rfl) posted
        have hother : ∀ j, j ≠ i → s₃.client j = s.client j :=
          fun j hj => Function.update_of_ne hj _ _
        have hself : s₃.client i = IpaWlanClient.withoutV6 (s.client i) 0 :=
          Function.update_self ..
        change ApInv (ClientIface.resetRt .v6 (List.range' (i + 1) n)
          (({ s.deleteRtrules .v6 i with posted := posted } : ClientIface WlanExt δ).setClient i
            { (s.client i).clearRouteRules .v6 with ipv6Set := 0 }))
        rw [hs₃]
        apply ih hinv
        · change i + 1 + n = s.numClient
          omega
        · rcases hresets with hup | hno | hfirst
          · exact Or.inl hup
          · exact Or.inr (Or.inl hno)
          · cases hdown : s.ipType.supports .v6 with
            | true => exact Or.inl hdown
            | false =>
                refine Or.inr (Or.inr (hfirst.congr rfl ?_ ?_))
                · intro j
                  rcases eq_or_ne j i with rfl | hne
                  · rw [hself]
                    exact (hnone hdown).symm
                  · rw [hother j hne]
                · intro j
                  rcases eq_or_ne j i with rfl | hne
                  · rw [hself]
                    rfl
                  · rw [hother j hne]
        · intro hdown j hj
          rcases Nat.lt_succ_iff_lt_or_eq.mp hj with hlt | rfl
          · rw [hother j (Nat.ne_of_lt hlt)]
            exact hbefore hdown j hlt
          · rw [hself]
            rfl

/-- The power save flag of a client matters for what is live. -/
def IpaWlanClient.Minds (txProp : List IpType) (c : IpaWlanClient) : Prop :=
  c.ipv4Set = true ∨ c.ipv6Set ≠ 0 ∧ .v6 ∈ txProp

theorem moveTo_view {txProp : List IpType} {c next : IpaWlanClient} (h : next.Sound txProp)
    (hsame : next.Minds txProp → c.powerSaveSet = next.powerSaveSet) :
    (IpaWlanClient.moveTo txProp.length c next).view txProp = next.view txProp := by
  have hheld : (IpaWlanClient.moveTo txProp.length c next).held txProp = next.held txProp := by
    apply Client.held_congr
    case haddr6 =>
      intro k hk
      exact if_pos (Nat.lt_of_lt_of_le hk h.ipv6Set)
    case hrt4 =>
      intro t ht
      exact if_pos ht
    case hrt6 =>
      intro t ht k hk
      exact ⟨(if_pos ht).trans (if_pos hk), (if_pos ht).trans (if_pos hk)⟩
    all_goals intros; rfl
  have haddress : (IpaWlanClient.moveTo txProp.length c next).address = next.address := by
    cases hset : next.ipv4Set with
    | false =>
        rw [address_of_unset hset]
        exact address_of_unset (c := IpaWlanClient.moveTo txProp.length c next) hset
    | true =>
        rw [address_of_set hset, ← hsame (Or.inl hset)]
        exact address_of_set (c := IpaWlanClient.moveTo txProp.length c next) hset
  have hsound : (IpaWlanClient.moveTo txProp.length c next).Sound txProp := by
    constructor
    · change next.routeRuleSetV4 = (next.ipv4Set && !c.powerSaveSet)
      rw [h.routeRuleSetV4]
      cases hset : next.ipv4Set with
      | false => rfl
      | true => rw [hsame (Or.inl hset)]
    · intro htx
      change next.routeRuleSetV6 = if c.powerSaveSet then 0 else next.ipv6Set
      rcases Nat.eq_zero_or_pos next.ipv6Set with hnone | hsome
      · have hle := h.ipv6Set
        rw [hnone, Nat.le_zero] at hle
        rw [hle, hnone, ite_self]
      · rw [hsame (Or.inr ⟨Nat.ne_of_gt hsome, htx⟩)]
        exact h.routeRuleSetV6 htx
    · exact h.ipv6Set
    · exact h.v4Addr
  rw [IpaWlanClient.view, IpaWlanClient.view, hheld, haddress, propext (iff_of_true hsound h)]
  rfl

/-- The records behind the client `i` move to slots with the same power save flag, where
that matters. -/
def MovesSafely (s : ClientIface WlanExt δ) (i : Nat) : Prop :=
  ∀ j, i ≤ j → j + 1 < s.numClient → IpaWlanClient.Minds s.txProp (s.client (j + 1)) →
    IpaWlanClient.powerSaveSet (s.client j) = IpaWlanClient.powerSaveSet (s.client (j + 1))

theorem ApInv.headersHeld (h : ApInv s) (hi : i < s.numClient) : (s.client i).HeadersHeld := by
  intro iptype hset
  have hone : ((s.client i).hdrHdl.get iptype, Resource.hdr iptype (s.client i).mac) ∈
      (s.client i).heldHeader iptype := by
    rw [Client.heldHeader, if_pos hset]
    exact List.mem_singleton_self _
  have hmem : ((s.client i).hdrHdl.get iptype, Resource.hdr iptype (s.client i).mac) ∈
      (s.client i).held s.txProp .hdr := by
    change _ ∈ (s.client i).heldHeader .v4 ++ (s.client i).heldHeader .v6
    cases iptype with
    | v4 => exact List.mem_append_left _ hone
    | v6 => exact List.mem_append_right _ hone
  exact (h.focus hi).ipa.ne_zero .hdr (List.mem_append_left _ hmem)

theorem saves_leave {c : IpaWlanClient} {lst : CtListener δ} {addrs : List (UInt32 × Bool)}
    (h : Saves lst.natInst.pwrSaveIfs (c.address.toList ++ addrs))
    (haddr : c.ipv4Set = true → c.v4Addr ≠ 0)
    (halone : c.ipv4Set = true → (c.v4Addr, true) ∉ addrs) :
    Saves (if c.ipv4Set then handleNeighIpAddrDelEvt d c.v4Addr lst
      else lst).natInst.pwrSaveIfs addrs := by
  cases hset : c.ipv4Set with
  | false =>
      rw [address_of_unset hset] at h
      exact h
  | true =>
      rw [address_of_set hset] at h
      have hne := haddr hset
      have hno := halone hset
      rw [if_pos rfl, handleNeighIpAddrDelEvt_pwrSaveIfs hne]
      cases hps : c.powerSaveSet with
      | true =>
          rw [hps] at h
          exact h.leave hne hno
      | false =>
          rw [hps] at h
          rw [replaceFirst_of_not_mem (h.part.not_mem hne hno)]
          exact h.part

theorem dropClient_inv (h : ApInv s) (hi : i < s.numClient) (hmoves : MovesSafely s i)
    (halone : (s.client i).ipv4Set = true → ((s.client i).v4Addr, true) ∉ otherAddresses s i) :
    ApInv (s.dropClient d (IpaWlanClient.moveTo s.txProp.length) i).2 := by
  have hroster := h.focus hi
  have hsound := h.sound hi
  rw [ClientIface.dropClient_eq _ (h.headersHeld hi)]
  have hview : (rows (moveDown (IpaWlanClient.moveTo s.txProp.length)
      (Function.update s.client i (s.client i).reset) i (s.numClient - 1 - i))
        (s.numClient - 1)).map (IpaWlanClient.view s.txProp) =
      (others s.client s.numClient i).map (IpaWlanClient.view s.txProp) := by
    rw [map_rows_moveDown hi, others_update]
    intro j hij hj
    have hnext : Function.update s.client i (s.client i).reset (j + 1) = s.client (j + 1) :=
      Function.update_of_ne (by omega) _ _
    have hflag : IpaWlanClient.powerSaveSet (Function.update s.client i (s.client i).reset j) =
        IpaWlanClient.powerSaveSet (s.client j) := by
      rcases eq_or_ne j i with rfl | hne
      · rw [Function.update_self]
        rfl
      · rw [Function.update_of_ne hne]
    rw [hnext]
    apply moveTo_view (h.sound (by omega))
    intro hminds
    rw [hflag]
    exact hmoves j hij (by omega) hminds
  constructor
  · change Roster _ _ (List.map _ (rows _ (s.numClient - 1)))
    rw [hview]
    apply hroster.leave
    · exact Client.accounts_release hroster.ipa
    · have hsaves := hroster.saves
      rw [filterMap_view] at hsaves
      rw [List.filterMap_map]
      exact saves_leave hsaves hsound.v4Addr halone
  · intro hnum
    exact h.txProp (Nat.lt_of_lt_of_le hnum (Nat.sub_le _ _))
  · have hreset : ∀ j iptype, (Function.update s.client i (s.client i).reset j).headerSet.get
        iptype = true → iptype ∈ s.txProp := by
      intro j iptype hset
      rcases eq_or_ne j i with rfl | hne
      · rw [Function.update_self] at hset
        cases iptype <;> cases hset
      · rw [Function.update_of_ne hne] at hset
        exact h.headers j iptype hset
    intro j iptype hset
    dsimp only at hset
    rcases Nat.lt_or_ge j i with hlt | hge
    · rw [moveDown_of_lt _ hlt] at hset
      exact hreset j iptype hset
    · rcases Nat.lt_or_ge j (i + (s.numClient - 1 - i)) with hmoved | hlast
      · rw [moveDown_apply _ hge hmoved] at hset
        exact hreset (j + 1) iptype hset
      · rw [moveDown_of_le _ hlast] at hset
        exact hreset j iptype hset

theorem attribMac_attribMac (attribs : List WlanHdrAttrib) (mac : MacAddr) :
    attribMac attribs (attribMac attribs mac) = attribMac attribs mac := by
  have hconst : (∀ mac mac' : MacAddr, attribMac attribs mac = attribMac attribs mac') ∨
      ∀ mac : MacAddr, attribMac attribs mac = mac := by
    induction attribs with
    | nil => exact Or.inr fun _ => rfl
    | cons attrib attribs ih =>
        rcases ih with hconst | hid
        · exact Or.inl fun mac mac' => hconst _ _
        · cases attrib with
          | macAddr m => exact Or.inl fun mac mac' => rfl
          | staId n => exact Or.inr hid
          | other => exact Or.inr hid
  rcases hconst with hconst | hid
  · exact hconst _ _
  · exact hid _

/-- A record whose header of a family is set, if the family has a TX property. -/
structure HeaderAdded (txProp : List IpType) (attribs : List WlanHdrAttrib) (iptype : IpType)
    (c c' : IpaWlanClient) : Prop where
  headerSet : c'.headerSet.get iptype =
    (c.headerSet.get iptype || decide (iptype ∈ txProp))
  mac : c'.mac = if iptype ∈ txProp then attribMac attribs c.mac else c.mac
  other : ∀ f, f ≠ iptype →
    c'.hdrHdl.get f = c.hdrHdl.get f ∧ c'.headerSet.get f = c.headerSet.get f

theorem addClientHeader_spec {w w' : WlanIface δ} {iptype : IpType}
    {attribs : List WlanHdrAttrib} {held : Kind → List (Hdl × Resource)}
    (hadd : w.addClientHeader iptype attribs i = some w') (h : w.ipa.Accounts held) :
    ∃ c ipa, w' = { w with ipa := ipa, client := Function.update w.client i c } ∧
      HeaderAdded w.txProp attribs iptype (w.client i) c ∧
      ipa.Accounts (Function.update held .hdr
        ((if iptype ∈ w.txProp then [(c.hdrHdl.get iptype, .hdr iptype c.mac)] else []) ++
          held .hdr)) := by
  rw [WlanIface.addClientHeader] at hadd
  split at hadd
  case isTrue htx =>
    simp only [Option.bind_eq_bind, Option.bind_eq_some_iff, Option.some.injEq] at hadd
    obtain ⟨⟨hdl, ipa⟩, hone, rfl⟩ := hadd
    refine ⟨_, ipa, rfl, ?_, ?_⟩
    · constructor
      · simp [htx]
      · rw [if_pos htx]
      · intro f hf
        simp [hf]
    · rw [if_pos htx]
      simpa using (h.add hone).2
  case isFalse htx =>
    cases hadd
    refine ⟨w.client i, w.ipa, ?_, ?_, ?_⟩
    · rw [Function.update_eq_self]
    · constructor
      · simp [htx]
      · rw [if_neg htx]
      · intro f _
        exact ⟨rfl, rfl⟩
    · rw [if_neg htx, List.nil_append, Function.update_eq_self]
      exact h

/-- The MAC address of a client that joins is new. -/
def NewMac (s : ClientIface WlanExt δ) (attribs : List WlanHdrAttrib) : Prop :=
  s.clientIndex (attribMac attribs (s.client s.numClient).mac) = none

theorem mem_v4_of_not_mem_v6 {txProp : List IpType} (h : txProp ≠ []) (hno : .v6 ∉ txProp) :
    .v4 ∈ txProp := by
  obtain ⟨iptype, hmem⟩ := List.exists_mem_of_ne_nil txProp h
  cases iptype with
  | v4 => exact hmem
  | v6 => exact absurd hmem hno

theorem handleWlanClientInitEx_inv {w w' : WlanIface δ} {attribs : List WlanHdrAttrib}
    (h : ApInv w.toClientIface) (hmac : NewMac w.toClientIface attribs)
    (hinit : w.handleWlanClientInitEx attribs = some w') : ApInv w'.toClientIface := by
  rw [WlanIface.handleWlanClientInitEx] at hinit
  split at hinit
  case isTrue =>
    cases hinit
    exact h
  case isFalse hroom =>
  split at hinit
  case isTrue =>
    cases hinit
    exact h
  case isFalse htx =>
  simp only [Option.bind_eq_bind, Option.bind_eq_some_iff, Option.some.injEq] at hinit
  obtain ⟨w₁, hv4, w₂, hv6, rfl⟩ := hinit
  obtain ⟨c₁, ipa₁, rfl, hadd₁, hipa₁⟩ := addClientHeader_spec hv4 h.roster.ipa
  obtain ⟨c₂, ipa₂, rfl, hadd₂, hipa₂⟩ := addClientHeader_spec hv6 hipa₁
  simp only [Function.update_self, Function.update_idem] at hadd₁ hadd₂ ⊢
  rw [not_or, Nat.not_le] at hroom
  let c₃ : IpaWlanClient := { c₂ with
    routeRuleSetV4 := false
    routeRuleSetV6 := 0
    ipv4Set := false
    ipv6Set := 0
    ext := { c₂.ext with powerSaveSet := false } }
  have hmac₁ : c₁.mac = if .v4 ∈ w.txProp then
      attribMac attribs (w.client w.numClient).mac else (w.client w.numClient).mac := hadd₁.mac
  have hmac₂ : c₂.mac = if .v6 ∈ w.txProp then attribMac attribs c₁.mac else c₁.mac := hadd₂.mac
  have hmac₃ : c₃.mac = attribMac attribs (w.client w.numClient).mac := by
    change c₂.mac = _
    rw [hmac₂, hmac₁]
    split
    case isTrue =>
      split
      case isTrue => exact attribMac_attribMac _ _
      case isFalse => rfl
    case isFalse hno6 =>
      rw [if_pos]
      exact mem_v4_of_not_mem_v6 htx hno6
  have hset : ∀ iptype, c₃.headerSet.get iptype = decide (iptype ∈ w.txProp) := by
    have hstale : ∀ iptype, ((w.client w.numClient).headerSet.get iptype ||
        decide (iptype ∈ w.txProp)) = decide (iptype ∈ w.txProp) := by
      intro iptype
      cases hold : (w.client w.numClient).headerSet.get iptype with
      | false => rfl
      | true => simp [h.headers _ _ hold]
    intro iptype
    rw [← hstale iptype]
    cases iptype with
    | v4 => exact (hadd₂.other .v4 (by simp)).2.trans hadd₁.headerSet
    | v6 =>
        have hone := (hadd₁.other .v6 (by simp)).2
        have htwo := hadd₂.headerSet
        rw [hone] at htwo
        exact htwo
  have hheld : c₃.held w.txProp .hdr =
      (if .v4 ∈ w.txProp then [(c₁.hdrHdl.get .v4, .hdr .v4 c₁.mac)] else []) ++
        (if .v6 ∈ w.txProp then [(c₂.hdrHdl.get .v6, .hdr .v6 c₂.mac)] else []) := by
    change c₃.heldHeader .v4 ++ c₃.heldHeader .v6 = _
    have hhdl : c₃.hdrHdl.get .v4 = c₁.hdrHdl.get .v4 := (hadd₂.other .v4 (by simp)).1
    rw [Client.heldHeader, Client.heldHeader, hset, hset, hhdl]
    simp only [decide_eq_true_eq]
    congr 1
    split
    case isTrue hv4 =>
      rw [if_pos hv4] at hmac₁
      rw [hmac₃, hmac₁]
    case isFalse => rfl
  constructor
  · change Roster ipa₂ w.ctList.natInst.pwrSaveIfs
      ((rows (Function.update w.client w.numClient c₃) (w.numClient + 1)).map
        (IpaWlanClient.view w.txProp))
    rw [rows_append, List.map_append, List.map_singleton]
    refine Roster.perm ?_ List.perm_append_comm
    refine h.roster.join ?_ rfl ?_ ?_ ?_
    · apply hipa₂.perm
      intro kind
      cases kind with
      | rt iptype =>
          have hnone : (IpaWlanClient.view w.txProp c₃).held (.rt iptype) = [] := by
            have hslots : c₃.rtSlots iptype = [] := by cases iptype <;> rfl
            change c₃.rulesAt _ = []
            rw [hslots, List.product_nil]
            rfl
          rw [Function.update_of_ne (by simp), Function.update_of_ne (by simp), hnone,
            List.nil_append]
      | hdr =>
          have hview : (IpaWlanClient.view w.txProp c₃).held .hdr = _ := hheld
          rw [Function.update_self, Function.update_self, hview, ← List.append_assoc]
          exact List.perm_append_comm.append_right _
    · constructor
      · rfl
      · intro _
        rfl
      · exact Nat.le_refl 0
      · intro hset
        cases hset
    · rw [List.map_map]
      intro hmem
      obtain ⟨c, hc, heq⟩ := List.mem_map.mp hmem
      obtain ⟨j, hj, rfl⟩ := mem_rows.mp hc
      rw [NewMac, ClientIface.clientIndex, List.find?_eq_none] at hmac
      apply hmac j (List.mem_range.mpr hj)
      rw [beq_iff_eq, ← hmac₃]
      exact heq
    · rw [List.length_map, length_rows]
      exact hroom.1
  · intro _
    exact htx
  · intro j iptype hj
    change (Function.update w.client w.numClient c₃ j).headerSet.get iptype = true at hj
    rcases eq_or_ne j w.numClient with rfl | hne
    · rw [Function.update_self, hset] at hj
      exact of_decide_eq_true hj
    · rw [Function.update_of_ne hne] at hj
      exact h.headers j iptype hj

end

end LibraDevice.Lan
