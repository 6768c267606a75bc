import LibraDevice.SetUp.Leaks

/-!
With a driver that refuses nothing for no reason the set-up is that of the client events,
and what a refusal in between does.
-/

namespace LibraDevice.SetUp

open Acquire Backhaul Lan
open LanToLan (MacAddr)

/-- The driver of the client events, but for what it is told to refuse. -/
def Driver.refusing (refused : Resource → Bool) : Driver where
  ipaHdrMaxSize := 0
  copyHeader _ _ := some 0
  add kind r d := if refused r then none else d.add kind r
  add_live := by
    intro kind r d h d' hadd
    split at hadd
    · cases hadd
    · rw [IpaDriver.add] at hadd
      split at hadd
      · cases hadd
      · split at hadd
        · cases hadd
          rfl
        · cases hadd

def Driver.obliging : Driver := .refusing fun _ => false

theorem obliging_add (kind : Kind) (r : Resource) (d : IpaDriver) :
    Driver.obliging.add kind r d = d.add kind r :=
  rfl

theorem obliging_copyHeader (iptype : IpType) (d : IpaDriver) :
    Driver.obliging.copyHeader iptype d = some 0 :=
  rfl

theorem obliging_ipaHdrMaxSize : Driver.obliging.ipaHdrMaxSize = 0 :=
  rfl

section

variable {ε δ σ : Type}

/-- The state of a call that came to its end. -/
def result (o : Outcome σ Installed) : Option σ :=
  if o.ok then some o.state else none

theorem result_andThen (o : Outcome σ Installed) (f : σ → Outcome σ Installed) :
    result (o.andThen f) = (result o).bind fun s => result (f s) := by
  cases hok : o.ok with
  | false =>
      rw [Outcome.andThen_of_fail hok, result, hok]
      rfl
  | true =>
      rw [Outcome.andThen_of_ok hok, result, result, hok]
      rfl

theorem result_map {τ : Type} (f : σ → τ) (o : Outcome σ Installed) :
    result (o.map f) = (result o).map f := by
  rw [result, result]
  cases hok : o.ok with
  | false =>
      simp [Outcome.map, hok]
  | true =>
      simp [Outcome.map, hok]

theorem addRtRules_eq {iptype : IpType} {i : Nat} {places : List (Nat × RtSlot)}
    {s : ClientIface ε δ} :
    result (Outcome.each (clientRule .obliging Client.rtRule iptype i) places s) =
      (ClientIface.addRtRules iptype places (s.client i, s.ipa)).map
        fun p => { s with ipa := p.2 }.setClient i p.1 := by
  induction places generalizing s with
  | nil =>
      change some s = some ({ s with ipa := s.ipa }.setClient i (s.client i))
      rw [ClientIface.setClient, Function.update_eq_self]
  | cons p places ih =>
      obtain ⟨t, slot⟩ := p
      rw [Outcome.each, result_andThen, ClientIface.addRtRules, clientRule, obliging_add]
      cases s.ipa.add (.rt iptype) (.rt ((s.client i).rtRule t slot)) with
      | none => rfl
      | some answer =>
          change (result (Outcome.each _ places _)) = _
          rw [ih]
          simp [ClientIface.setClient, Outcome.done]

theorem handleClientRouteRule_eq (powerSave : Client ε → Bool) (mac : MacAddr) (iptype : IpType)
    (s : ClientIface ε δ) :
    s.handleClientRouteRule powerSave mac iptype =
      result (clientRouteRule powerSave Client.rtRule mac iptype .obliging s) := by
  rw [ClientIface.handleClientRouteRule, clientRouteRule]
  split
  · rfl
  · cases s.clientIndex mac with
    | none => rfl
    | some i =>
        simp only
        split
        · rfl
        · rw [ClientIface.addClientRules, clientRules, result_andThen, newPlaces, addRtRules_eq]
          cases ClientIface.addRtRules iptype _ (s.client i, s.ipa) with
          | none => rfl
          | some p => simp [ClientIface.setClient, result, Outcome.done]

theorem clientHeader_obliging (iptype : IpType) (onCopy : Client ε → Client ε) (i : Nat)
    (s : ClientIface ε δ) :
    result (clientHeader .obliging iptype onCopy i s) =
      if iptype ∈ s.txProp then
        (s.ipa.add .hdr (.hdr iptype (onCopy (s.client i)).mac)).map fun answer =>
          { s with ipa := answer.2 }.setClient i
            { onCopy (s.client i) with
              hdrHdl := (onCopy (s.client i)).hdrHdl.set answer.1 iptype
              headerSet := (onCopy (s.client i)).headerSet.set true iptype }
      else some s := by
  rw [clientHeader]
  split
  · simp only [obliging_copyHeader, obliging_ipaHdrMaxSize, Nat.lt_irrefl, if_false, obliging_add]
    cases s.ipa.add .hdr (.hdr iptype (onCopy (s.client i)).mac) with
    | none => rfl
    | some answer => rfl
  · rfl

theorem addEthHeader_eq {iptype : IpType} {mac : MacAddr} {i : Nat} {s : ClientIface Unit δ}
    (hmac : (s.client i).mac = mac) :
    s.addEthHeader iptype mac i = result (clientHeader .obliging iptype id i s) := by
  rw [clientHeader_obliging, ClientIface.addEthHeader, ← hmac]
  simp only [id_eq]
  split
  · cases s.ipa.add .hdr (.hdr iptype (s.client i).mac) with
    | none => rfl
    | some answer => rfl
  · rfl

theorem addEthHeader_mac {iptype : IpType} {mac : MacAddr} {i : Nat} {s t : ClientIface Unit δ}
    (hmac : (s.client i).mac = mac) (hadd : s.addEthHeader iptype mac i = some t) :
    (t.client i).mac = mac := by
  rw [ClientIface.addEthHeader] at hadd
  split at hadd
  · cases hipa : s.ipa.add .hdr (.hdr iptype mac) with
    | none =>
        simp [hipa] at hadd
    | some answer =>
        simp only [hipa] at hadd
        cases hadd
        simp [ClientIface.setClient, hmac]
  · cases hadd
    exact hmac

theorem handleEthHdrInit_eq (mac : MacAddr) (s : ClientIface Unit δ)
    (hnew : s.clientIndex mac = none) (hroom : s.numClient < ipaMaxNumEthClients) :
    s.handleEthHdrInit mac = result (handleEthHdrInit mac .obliging s) := by
  rw [ClientIface.handleEthHdrInit, handleEthHdrInit, hdrInit]
  simp only [hnew, if_neg (Nat.not_le.mpr hroom)]
  split
  · rfl
  · have hmac : ((s.setClient s.numClient { s.client s.numClient with mac := mac }).client
        s.numClient).mac = mac := by
      simp only [ClientIface.setClient, Function.update_self]
    rw [result_andThen, clientHeaders, result_andThen, ← addEthHeader_eq hmac]
    cases hfirst : (s.setClient s.numClient { s.client s.numClient with mac := mac }).addEthHeader
      .v4 mac s.numClient with
    | none => rfl
    | some t =>
        change (t.addEthHeader .v6 mac s.numClient).bind _ =
          (result (clientHeader .obliging .v6 id _ t)).bind _
        rw [← addEthHeader_eq (addEthHeader_mac hmac hfirst)]
        cases t.addEthHeader .v6 mac s.numClient with
        | none => rfl
        | some t => rfl

theorem addClientHeader_eq (iptype : IpType) (attribs : List WlanHdrAttrib) (i : Nat)
    (s : WlanIface δ) :
    s.addClientHeader iptype attribs i =
      (result (clientHeader .obliging iptype (copyAttribs attribs) i s.toClientIface)).map
        fun t => { s with toClientIface := t } := by
  rw [clientHeader_obliging, WlanIface.addClientHeader]
  simp only [copyAttribs]
  split
  · cases s.ipa.add .hdr (.hdr iptype (attribMac attribs (s.client i).mac)) with
    | none => rfl
    | some answer => rfl
  · rfl

theorem handleWlanClientInitEx_eq (attribs : List WlanHdrAttrib) (s : WlanIface δ)
    (hroom : s.numClient < NatCache.ipaMaxNumWifiClients)
    (htotal : s.totalNumWifiClients < NatCache.ipaMaxNumWifiClients) :
    s.handleWlanClientInitEx attribs = result (handleWlanClientInitEx attribs .obliging s) := by
  have hturned : ¬ (NatCache.ipaMaxNumWifiClients ≤ s.numClient ∨
      NatCache.ipaMaxNumWifiClients ≤ s.totalNumWifiClients) :=
    not_or.mpr ⟨Nat.not_le.mpr hroom, Int.not_le.mpr htotal⟩
  rw [WlanIface.handleWlanClientInitEx, handleWlanClientInitEx, if_neg hturned, if_neg hturned]
  split
  · rfl
  · rw [result_andThen, result_map, clientHeaders, result_andThen]
    simp only [addClientHeader_eq, ClientIface.setClient]
    cases result (clientHeader .obliging .v4 (copyAttribs attribs) s.numClient
      { s.toClientIface with
        client := Function.update s.client s.numClient
          { s.client s.numClient with
            ext := { (s.client s.numClient).ext with pHdrInfo := attribs } } }) with
    | none => rfl
    | some t =>
        simp only [Option.map_some, Option.bind_some]
        change (Option.map _ (result (clientHeader .obliging .v6 _ _ t))).bind _ =
          (Option.map _ (result (clientHeader .obliging .v6 _ _ t))).bind _
        cases result (clientHeader .obliging .v6 (copyAttribs attribs) s.numClient t) with
        | none => rfl
        | some t =>
            simp [result, Outcome.done, enrol, ClientIface.setClient]

end

def isHeaderV6 : Resource → Bool
  | .hdr .v6 _ => true
  | _ => false

def isSecondRule : Resource → Bool
  | .rt rule => rule.dst = .tx 1
  | .hdr _ _ => false

/-- A LAN interface with two TX properties for IPv4 and a client with an address. -/
def lanWithClient : ClientIface Unit (List (Nat × IpaNat.Ipv4Rule)) :=
  let s : ClientIface Unit (List (Nat × IpaNat.Ipv4Rule)) :=
    .init 2 [.v4, .v4] .max () ((List.range 30).map fun n => UInt32.ofNat (n + 1))
      (.init false 0 NatCache.smallApp)
  let s := (handleEthHdrInit macA .obliging s).state
  s.setClient 0 { s.client 0 with v4Addr := 0xC0A80002, ipv4Set := true }

/-- The IPv4 header stays when that of IPv6 is refused, and the first rule stays, and is
installed again, when the second is. -/
theorem setUp_leaks :
    ((handleEthHdrInit macA (.refusing isHeaderV6) newLan).ok = false ∧
      ¬ LeaksNothing id (handleEthHdrInit macA) newLan.numClient (.refusing isHeaderV6) newLan) ∧
    (let o := handleEthClientRouteRule none macA .v4 (.refusing isSecondRule) lanWithClient
      let o' := handleEthClientRouteRule none macA .v4 .obliging o.state
      o.ok = false ∧ o'.ok = true ∧ ∃ h h' r, h ≠ h' ∧
        o'.state.ipa.live (.rt .v4) h = some r ∧ o'.state.ipa.live (.rt .v4) h' = some r) := by
  constructor
  · refine ⟨by decide, fun h => ?_⟩
    have hrecorded := h.accounted ⟨.hdr .v4, 1, .hdr .v4 macA⟩ (by decide)
      (Option.some_ne_none _)
    exact absurd hrecorded.1 (by decide)
  · refine ⟨by decide, by decide, 2, 3,
      .rt ⟨.lanV4, .tx 0, 1, .v4 0xC0A80002⟩, by decide, by decide, by decide⟩

theorem leaksNothing_headerV4 :
    LeaksNothing id (handleEthHdrInit macA) newLan.numClient
      (.refusing fun r => r = .hdr .v4 macA) newLan := by
  have hiff := (leaksNothing_iff_first (δ := List (Nat × IpaNat.Ipv4Rule))
    (.refusing fun r => r = .hdr .v4 macA)).2.1 macA newLan (by decide)
  exact hiff.mpr (Or.inr (Or.inr (Or.inr rfl)))

end LibraDevice.SetUp
