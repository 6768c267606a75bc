import LibraDevice.Lan.Ledger
import LibraDevice.SetUp.Headers

/-!
What a set-up that is refused leaves behind.
-/

namespace LibraDevice.SetUp

open Acquire Backhaul Lan
open LanToLan (MacAddr)

section

variable {ε δ σ : Type}

/-- What was installed is still there. -/
def Live (s : ClientIface ε δ) (e : Installed) : Prop :=
  s.ipa.live e.place.kind e.hdl ≠ none

/-- The record of the client `i` tells a client-down event to delete it. -/
def RecordedAt (s : ClientIface ε δ) (i : Nat) (e : Installed) : Prop :=
  i < s.numClient ∧
    match e.place with
    | .hdr iptype =>
        (s.client i).headerSet.get iptype = true ∧ (s.client i).hdrHdl.get iptype = e.hdl
    | .rt iptype txIndex slot =>
        txIndex ∈ txIndices s.txProp iptype ∧ slot ∈ (s.client i).rtSlots iptype ∧
          (s.client i).rtHdl txIndex slot = e.hdl

/-- A set-up leaks nothing: what it installed is gone or recorded, and another try does not
install again what is still there. `view` is the interface whose client `i` is set up. -/
structure LeaksNothing (view : σ → ClientIface ε δ) (call : Driver → σ → Outcome σ Installed)
    (i : Nat) (dr : Driver) (s : σ) : Prop where
  accounted : ∀ e ∈ (call dr s).acquired, Live (view (call dr s).state) e →
    RecordedAt (view (call dr s).state) i e
  retry : ∀ dr', ∀ e ∈ (call dr s).acquired, Live (view (call dr s).state) e →
    ∀ e' ∈ (call dr' (call dr s).state).acquired, e'.resource ≠ e.resource

theorem leaksNothing_iff {view : σ → ClientIface ε δ} {call : Driver → σ → Outcome σ Installed}
    {i : Nat} {dr : Driver} {s : σ}
    (hlive : (call dr s).Keeps fun t e => Live (view t) e)
    (hno : ∀ e ∈ (call dr s).acquired, ¬ RecordedAt (view (call dr s).state) i e) :
    LeaksNothing view call i dr s ↔ (call dr s).acquired = [] := by
  constructor
  · intro h
    refine List.eq_nil_iff_forall_not_mem.mpr fun e he => ?_
    exact hno e he (h.accounted e he (hlive e he))
  · intro hnil
    rw [List.eq_nil_iff_forall_not_mem] at hnil
    exact ⟨fun e he => absurd he (hnil e), fun _ e he => absurd he (hnil e)⟩

theorem delete_self (kind : Kind) (h : Hdl) (d : IpaDriver) :
    (d.delete kind h).live kind h = none := by
  rw [IpaDriver.delete]
  split
  · next hnone => exact hnone
  · simp only [Function.update_self]

theorem delete_none {kind kind' : Kind} {h h' : Hdl} {d : IpaDriver}
    (hnone : d.live kind h = none) :
    (d.delete kind' h').live kind h = none := by
  rw [IpaDriver.delete]
  split
  · exact hnone
  · rcases eq_or_ne kind kind' with rfl | hkind
    · simp only [Function.update_self]
      rcases eq_or_ne h h' with rfl | hne
      · rw [Function.update_self]
      · rw [Function.update_of_ne hne]
        exact hnone
    · simp only [Function.update_of_ne hkind]
      exact hnone

theorem deleteRoutingHdl_none {kind : Kind} {h h' : Hdl} {iptype : IpType} {d : IpaDriver}
    (hnone : d.live kind h = none) : (d.deleteRoutingHdl iptype h').live kind h = none := by
  rw [IpaDriver.deleteRoutingHdl]
  split
  · exact hnone
  · exact delete_none hnone

theorem foldl_none {f : IpaDriver → Hdl → IpaDriver} {kind : Kind} {h : Hdl} {hdls : List Hdl}
    {d : IpaDriver} (hkeep : ∀ d h', d.live kind h = none → (f d h').live kind h = none)
    (hnone : d.live kind h = none) : (hdls.foldl f d).live kind h = none := by
  induction hdls generalizing d with
  | nil => exact hnone
  | cons h' hdls ih => exact ih (hkeep d h' hnone)

theorem foldl_deletes {f : IpaDriver → Hdl → IpaDriver} {kind : Kind} {h : Hdl} {hdls : List Hdl}
    {d : IpaDriver} (hkeep : ∀ d h', d.live kind h = none → (f d h').live kind h = none)
    (hgone : ∀ d, (f d h).live kind h = none) (hmem : h ∈ hdls) :
    (hdls.foldl f d).live kind h = none := by
  induction hdls generalizing d with
  | nil => cases hmem
  | cons h' hdls ih =>
      rcases List.mem_cons.mp hmem with rfl | hrest
      · rw [List.foldl_cons]
        exact foldl_none hkeep (hgone d)
      · exact ih hrest

theorem RecordedAt.deleted {s : ClientIface ε δ} {i : Nat} {e : Installed}
    (h : RecordedAt s i e) (hhdl : e.hdl ≠ 0) (hheld : (s.client i).HeadersHeld)
    (d : NatCache.NatDriver δ) (move : Client ε → Client ε → Client ε) :
    (s.dropClient d move i).2.ipa.live e.place.kind e.hdl = none := by
  rw [ClientIface.dropClient_eq move hheld]
  change ((s.client i).release s.txProp s.ipa).live e.place.kind e.hdl = none
  rw [Client.release]
  obtain ⟨-, hrecord⟩ := h
  cases hplace : e.place with
  | hdr iptype =>
      rw [hplace] at hrecord
      refine foldl_deletes (fun d h' => delete_none) (fun d => delete_self _ _ d) ?_
      rw [List.mem_append]
      have hmem : e.hdl ∈ (s.client i).headerHdls iptype := by
        rw [Client.headerHdls, if_pos hrecord.1, hrecord.2]
        exact List.mem_singleton_self _
      cases iptype with
      | v4 => exact Or.inl hmem
      | v6 => exact Or.inr hmem
  | rt iptype txIndex slot =>
      rw [hplace] at hrecord
      obtain ⟨htx, hslot, hrt⟩ := hrecord
      have hmem : e.hdl ∈ (s.client i).rtHdls s.txProp iptype := by
        rw [Client.rtHdls, List.mem_flatMap]
        exact ⟨txIndex, htx, List.mem_map.mpr ⟨slot, hslot, hrt⟩⟩
      have hgone : ∀ d : IpaDriver,
          (d.deleteRoutingHdl iptype e.hdl).live (.rt iptype) e.hdl = none := by
        intro d
        rw [IpaDriver.deleteRoutingHdl, if_neg hhdl]
        exact delete_self _ _ d
      have hkeep : ∀ (iptype' : IpType) (d : IpaDriver) (h' : Hdl),
          d.live (.rt iptype) e.hdl = none →
          (d.deleteRoutingHdl iptype' h').live (.rt iptype) e.hdl = none :=
        fun _ _ _ => deleteRoutingHdl_none
      refine foldl_none (fun d h' => delete_none) ?_
      cases iptype with
      | v4 => exact foldl_none (hkeep .v6) (foldl_deletes (hkeep .v4) hgone hmem)
      | v6 => exact foldl_deletes (hkeep .v6) hgone hmem

variable {dr : Driver} {s : ClientIface ε δ}

theorem live_add {kind : Kind} {r : Resource} {d d' : IpaDriver} {h : Hdl}
    (hadd : dr.add kind r d = some (h, d')) : d'.live kind h = some r := by
  rw [dr.add_live hadd, Function.update_self, Function.update_self]

theorem live_of_add {kind kind' : Kind} {r : Resource} {d d' : IpaDriver} {h h' : Hdl}
    (hadd : dr.add kind r d = some (h, d')) (hlive : d.live kind' h' ≠ none) :
    d'.live kind' h' ≠ none := by
  rw [dr.add_live hadd]
  rcases eq_or_ne kind' kind with rfl | hkind
  · rw [Function.update_self]
    rcases eq_or_ne h' h with rfl | hne
    · rw [Function.update_self]
      exact Option.some_ne_none r
    · rw [Function.update_of_ne hne]
      exact hlive
  · rw [Function.update_of_ne hkind]
    exact hlive

/-- The driver's answer to the calls for one header. -/
def Driver.addHeader (dr : Driver) (iptype : IpType) (mac : MacAddr) (d : IpaDriver) :
    Option (Hdl × IpaDriver) :=
  (dr.copyHeader iptype d).bind fun hdrLen =>
    if dr.ipaHdrMaxSize < hdrLen then none else dr.add .hdr (.hdr iptype mac) d

variable {iptype : IpType} {onCopy : Client ε → Client ε} {i : Nat}

theorem clientHeader_cases (dr : Driver) (iptype : IpType) (onCopy : Client ε → Client ε) (i : Nat)
    (s : ClientIface ε δ) :
    (iptype ∉ s.txProp ∧ clientHeader dr iptype onCopy i s = .done s []) ∨
    (iptype ∈ s.txProp ∧ dr.addHeader iptype (onCopy (s.client i)).mac s.ipa = none ∧
      ∃ t, clientHeader dr iptype onCopy i s = .fail t ∧ t.numClient = s.numClient ∧
        t.ipa = s.ipa) ∨
    (iptype ∈ s.txProp ∧ ∃ h ipa,
      dr.addHeader iptype (onCopy (s.client i)).mac s.ipa = some (h, ipa) ∧
      dr.add .hdr (.hdr iptype (onCopy (s.client i)).mac) s.ipa = some (h, ipa) ∧
      ∃ t, clientHeader dr iptype onCopy i s =
          .done t [⟨.hdr iptype, h, .hdr iptype (onCopy (s.client i)).mac⟩] ∧
        t.numClient = s.numClient ∧ t.txProp = s.txProp ∧ t.ipa = ipa) := by
  rw [clientHeader, Driver.addHeader]
  split
  · next hmem =>
      refine Or.inr ?_
      cases hcopy : dr.copyHeader iptype s.ipa with
      | none => exact Or.inl ⟨hmem, rfl, s, rfl, rfl, rfl⟩
      | some hdrLen =>
          simp only [Option.bind_some]
          split
          · exact Or.inl ⟨hmem, rfl, s, rfl, rfl, rfl⟩
          · cases hadd : dr.add .hdr (.hdr iptype (onCopy (s.client i)).mac) s.ipa with
            | none => exact Or.inl ⟨hmem, rfl, _, rfl, rfl, rfl⟩
            | some answer =>
                exact Or.inr ⟨hmem, answer.1, answer.2, rfl, rfl, _, rfl, rfl, rfl, rfl⟩
  · next hmem => exact Or.inl ⟨hmem, rfl⟩

theorem clientHeader_numClient :
    (clientHeader dr iptype onCopy i s).state.numClient = s.numClient := by
  rcases clientHeader_cases dr iptype onCopy i s with ⟨-, h⟩ | ⟨-, -, t, h, hnum, -⟩ |
    ⟨-, _, _, -, -, t, h, hnum, -⟩
  · rw [h]
    rfl
  · rw [h]
    exact hnum
  · rw [h]
    exact hnum

theorem clientHeader_live {e : Installed} (hlive : Live s e) :
    Live (clientHeader dr iptype onCopy i s).state e := by
  rcases clientHeader_cases dr iptype onCopy i s with ⟨-, h⟩ | ⟨-, -, t, h, -, hipa⟩ |
    ⟨-, _, _, -, hadd, t, h, -, -, hipa⟩
  · rw [h]
    exact hlive
  · rw [h, Live]
    change t.ipa.live _ _ ≠ none
    rw [hipa]
    exact hlive
  · rw [h, Live]
    change t.ipa.live _ _ ≠ none
    rw [hipa]
    exact live_of_add hadd hlive

theorem clientHeader_keeps : (clientHeader dr iptype onCopy i s).Keeps Live := by
  intro e he
  rcases clientHeader_cases dr iptype onCopy i s with ⟨-, h⟩ | ⟨-, -, t, h, -, -⟩ |
    ⟨-, hdl, ipa, -, hadd, t, h, -, -, hipa⟩
  · rw [h] at he
    cases he
  · rw [h] at he
    cases he
  · rw [h] at he ⊢
    rw [List.mem_singleton.mp he, Live]
    change t.ipa.live .hdr hdl ≠ none
    rw [hipa, live_add hadd]
    exact Option.some_ne_none _

theorem clientHeaders_keeps : (clientHeaders dr onCopy i s).Keeps Live :=
  clientHeader_keeps.andThen clientHeader_keeps fun _ => clientHeader_live

theorem clientHeaders_numClient :
    (clientHeaders dr onCopy i s).state.numClient = s.numClient := by
  rw [clientHeaders, Outcome.andThen]
  split
  · exact clientHeader_numClient.trans clientHeader_numClient
  · exact clientHeader_numClient

theorem clientHeaders_acquired (hfail : (clientHeaders dr onCopy i s).ok = false) :
    (clientHeaders dr onCopy i s).acquired = [] ↔
      .v4 ∉ s.txProp ∨ dr.addHeader .v4 (onCopy (s.client i)).mac s.ipa = none := by
  rw [clientHeaders] at hfail ⊢
  rcases clientHeader_cases dr .v4 onCopy i s with ⟨hno, h⟩ | ⟨-, hrefused, t, h, -, -⟩ |
    ⟨hmem, hdl, ipa, hadds, -, t, h, -, htx, -⟩
  · rw [h] at hfail ⊢
    refine iff_of_true ?_ (Or.inl hno)
    rcases clientHeader_cases dr .v6 onCopy i s with ⟨-, h6⟩ | ⟨-, -, t, h6, -, -⟩ |
      ⟨-, _, _, -, -, t, h6, -, -, -⟩
    · change (clientHeader dr .v6 onCopy i s).ok = false at hfail
      rw [h6] at hfail
      cases hfail
    · change [] ++ (clientHeader dr .v6 onCopy i s).acquired = []
      rw [h6]
      rfl
    · change (clientHeader dr .v6 onCopy i s).ok = false at hfail
      rw [h6] at hfail
      cases hfail
  · rw [h]
    exact iff_of_true rfl (Or.inr hrefused)
  · rw [h]
    refine iff_of_false ?_ ?_
    · intro hnil
      change _ :: _ = [] at hnil
      cases hnil
    · rintro (hno | hrefused)
      · exact hno hmem
      · rw [hadds] at hrefused
        cases hrefused

/-- What a refused set-up of headers leaves. -/
structure Refused (view : σ → ClientIface ε δ) (o : Outcome σ Installed) (i : Nat)
    (nothing : Prop) : Prop where
  keeps : o.Keeps fun t e => Live (view t) e
  outside : (view o.state).numClient = i
  acquired : o.acquired = [] ↔ nothing

theorem Refused.leaksNothing_iff {view : σ → ClientIface ε δ}
    {call : Driver → σ → Outcome σ Installed} {s : σ} {nothing : Prop}
    (h : Refused view (call dr s) i nothing) : LeaksNothing view call i dr s ↔ nothing := by
  refine (SetUp.leaksNothing_iff h.keeps fun e _ hrecorded => ?_).trans h.acquired
  exact absurd hrecorded.1 (by rw [h.outside]; exact Nat.lt_irrefl i)

theorem refused_fail {view : σ → ClientIface ε δ} {t : σ} {nothing : Prop} (h : nothing) :
    Refused view (.fail t) (view t).numClient nothing :=
  ⟨fun e he => (by cases he), rfl, iff_of_true rfl h⟩

theorem hdrInit_refused {maxNumClients : Nat} {mac : MacAddr}
    (hfail : (hdrInit maxNumClients mac dr s).ok = false) :
    Refused id (hdrInit maxNumClients mac dr s) s.numClient
      ((s.clientIndex mac).isSome = true ∨ maxNumClients ≤ s.numClient ∨ .v4 ∉ s.txProp ∨
        dr.addHeader .v4 mac s.ipa = none) := by
  rw [hdrInit] at hfail ⊢
  cases hidx : s.clientIndex mac with
  | some j => exact refused_fail (Or.inl rfl)
  | none =>
      simp only [hidx] at hfail ⊢
      split at hfail
      · next hmax =>
          rw [if_pos hmax]
          exact refused_fail (Or.inr (Or.inl hmax))
      · next hmax =>
          rw [if_neg hmax]
          split at hfail
          · cases hfail
          · next htx =>
              rw [if_neg htx]
              rw [Outcome.andThen] at hfail ⊢
              split at hfail
              · cases hfail
              · next hok =>
                  rw [if_neg hok]
                  refine ⟨clientHeaders_keeps, clientHeaders_numClient, ?_⟩
                  rw [clientHeaders_acquired (Bool.eq_false_iff.mpr hok)]
                  simp only [Option.isSome_none, Bool.false_eq_true, false_or, hmax]
                  simp [ClientIface.setClient]

theorem handleWlanClientInitEx_refused {attribs : List WlanHdrAttrib} {s : WlanIface δ}
    (hfail : (handleWlanClientInitEx attribs dr s).ok = false) :
    Refused WlanIface.toClientIface (handleWlanClientInitEx attribs dr s) s.numClient
      (NatCache.ipaMaxNumWifiClients ≤ s.numClient ∨
        NatCache.ipaMaxNumWifiClients ≤ s.totalNumWifiClients ∨ .v4 ∉ s.txProp ∨
        dr.addHeader .v4 (attribMac attribs (s.client s.numClient).mac) s.ipa = none) := by
  rw [handleWlanClientInitEx] at hfail ⊢
  split at hfail
  · next hmax =>
      rw [if_pos hmax]
      exact refused_fail (or_assoc.mp (Or.inl hmax))
  · next hmax =>
      rw [if_neg hmax]
      split at hfail
      · cases hfail
      · next htx =>
          rw [if_neg htx]
          rw [Outcome.andThen] at hfail ⊢
          split at hfail
          · cases hfail
          · next hok =>
              rw [if_neg hok]
              refine ⟨?_, clientHeaders_numClient, ?_⟩
              · exact fun e he => clientHeaders_keeps e he
              · rw [not_or] at hmax
                refine (clientHeaders_acquired (Bool.eq_false_iff.mpr hok)).trans ?_
                simp [ClientIface.setClient, copyAttribs, hmax]

section

variable {rule : Client ε → Nat → RtSlot → RtRule} {p : Nat × RtSlot}

theorem clientRule_cases (dr : Driver) (rule : Client ε → Nat → RtSlot → RtRule)
    (iptype : IpType) (i : Nat) (p : Nat × RtSlot) (s : ClientIface ε δ) :
    (dr.add (.rt iptype) (.rt (rule (s.client i) p.1 p.2)) s.ipa = none ∧
      clientRule dr rule iptype i p s = .fail s) ∨
    ∃ h ipa, dr.add (.rt iptype) (.rt (rule (s.client i) p.1 p.2)) s.ipa = some (h, ipa) ∧
      clientRule dr rule iptype i p s =
        .done ({ s with ipa := ipa }.setClient i ((s.client i).setRtHdl p.1 p.2 h))
          [⟨.rt iptype p.1 p.2, h, .rt (rule (s.client i) p.1 p.2)⟩] := by
  rw [clientRule]
  cases hadd : dr.add (.rt iptype) (.rt (rule (s.client i) p.1 p.2)) s.ipa with
  | none => exact Or.inl ⟨rfl, rfl⟩
  | some answer => exact Or.inr ⟨answer.1, answer.2, rfl, rfl⟩

theorem clientRule_single : (clientRule dr rule iptype i p s).Single := by
  rcases clientRule_cases dr rule iptype i p s with ⟨-, h⟩ | ⟨hdl, ipa, -, h⟩
  · rw [h]
    exact ⟨fun hok => (by cases hok), fun _ => rfl⟩
  · rw [h]
    exact ⟨fun _ => List.cons_ne_nil _ _, fun hfail => (by cases hfail)⟩

theorem clientRule_live {e : Installed} (hlive : Live s e) :
    Live (clientRule dr rule iptype i p s).state e := by
  rcases clientRule_cases dr rule iptype i p s with ⟨-, h⟩ | ⟨hdl, ipa, hadd, h⟩
  · rw [h]
    exact hlive
  · rw [h]
    exact live_of_add hadd hlive

theorem clientRule_keeps : (clientRule dr rule iptype i p s).Keeps Live := by
  intro e he
  rcases clientRule_cases dr rule iptype i p s with ⟨-, h⟩ | ⟨hdl, ipa, hadd, h⟩
  · rw [h] at he
    cases he
  · rw [h] at he ⊢
    rw [List.mem_singleton.mp he]
    change ipa.live (.rt iptype) hdl ≠ none
    rw [live_add hadd]
    exact Option.some_ne_none _

theorem newRtSlots_disjoint {c : Client ε} {slot : RtSlot} (hnew : slot ∈ c.newRtSlots iptype) :
    slot ∉ c.rtSlots iptype := by
  cases iptype with
  | v4 =>
      rw [Client.newRtSlots] at hnew
      split at hnew
      · next hset =>
          rw [Client.rtSlots, hset.1]
          exact List.not_mem_nil
      · cases hnew
  | v6 =>
      rw [Client.newRtSlots] at hnew
      rw [Client.rtSlots]
      intro hold
      simp only [v6Slots, List.mem_flatMap, List.mem_range'_1, List.mem_range, List.mem_cons,
        List.not_mem_nil, or_false] at hnew hold
      obtain ⟨k, ⟨hk, -⟩, hslot⟩ := hnew
      obtain ⟨k', hk', hslot'⟩ := hold
      rcases hslot with rfl | rfl
      · rcases hslot' with heq | heq
        · cases heq
          omega
        · cases heq
      · rcases hslot' with heq | heq
        · cases heq
        · cases heq
          omega

theorem clientRule_rtSlots {places : List (Nat × RtSlot)} :
    ((Outcome.each (clientRule dr rule iptype i) places s).state.client i).rtSlots iptype =
      (s.client i).rtSlots iptype := by
  refine Outcome.each_invariant
    (P := fun t : ClientIface ε δ => (t.client i).rtSlots iptype =
      (s.client i).rtSlots iptype) ?_ rfl
  intro p t ht
  rcases clientRule_cases dr rule iptype i p t with ⟨-, h⟩ | ⟨hdl, ipa, -, h⟩
  · rw [h]
    exact ht
  · rw [h]
    refine Eq.trans ?_ ht
    change ((Function.update t.client i _) i).rtSlots iptype = _
    rw [Function.update_self]
    cases iptype <;> rfl

/-- The driver refuses the first rule that is to be set. -/
def FirstRefused (dr : Driver) (rule : Client ε → Nat → RtSlot → RtRule) (iptype : IpType)
    (i : Nat) (s : ClientIface ε δ) : Prop :=
  ∃ p, (newPlaces iptype i s).head? = some p ∧
    dr.add (.rt iptype) (.rt (rule (s.client i) p.1 p.2)) s.ipa = none

theorem clientRule_refused : (clientRule dr rule iptype i p s).ok = false ↔
    dr.add (.rt iptype) (.rt (rule (s.client i) p.1 p.2)) s.ipa = none := by
  rcases clientRule_cases dr rule iptype i p s with ⟨hnone, h⟩ | ⟨hdl, ipa, hadd, h⟩
  · rw [h, hnone]
    exact iff_of_true rfl rfl
  · rw [h, hadd]
    exact iff_of_false (fun hok => by cases hok) (fun hnone => by cases hnone)

theorem clientRules_leaksNothing_iff {call : Driver → ClientIface ε δ →
    Outcome (ClientIface ε δ) Installed} (hcall : call dr s = clientRules dr rule iptype i s)
    (hfail : (call dr s).ok = false) :
    LeaksNothing id call i dr s ↔ FirstRefused dr rule iptype i s := by
  have hloop : (Outcome.each (clientRule dr rule iptype i) (newPlaces iptype i s) s).ok = false ∧
      call dr s = Outcome.each (clientRule dr rule iptype i) (newPlaces iptype i s) s := by
    rw [hcall, clientRules, Outcome.andThen] at hfail
    rw [hcall, clientRules, Outcome.andThen]
    split at hfail
    · cases hfail
    · next hok =>
        rw [if_neg hok]
        exact ⟨hfail, rfl⟩
  obtain ⟨hloopFail, hloop⟩ := hloop
  rw [leaksNothing_iff, hloop, Outcome.each_acquired_eq_nil (fun _ _ => clientRule_single)
    hloopFail, FirstRefused]
  · simp only [clientRule_refused]
  · rw [hloop]
    exact Outcome.each_keeps (fun _ _ => clientRule_keeps) fun _ _ _ => clientRule_live
  · intro e he hrecorded
    rw [hloop] at he hrecorded
    obtain ⟨p, hp, t, hacquired⟩ := Outcome.mem_each_acquired he
    have hplace : e.place = .rt iptype p.1 p.2 := by
      rcases clientRule_cases dr rule iptype i p t with ⟨-, h⟩ | ⟨hdl, ipa, -, h⟩
      · rw [h] at hacquired
        cases hacquired
      · rw [h] at hacquired
        rw [List.mem_singleton.mp hacquired]
    rw [RecordedAt, hplace] at hrecorded
    obtain ⟨-, -, hslot, -⟩ := hrecorded
    rw [id_eq, clientRule_rtSlots] at hslot
    rw [newPlaces, List.mem_flatMap] at hp
    obtain ⟨t, -, hp⟩ := hp
    obtain ⟨slot, hnew, rfl⟩ := List.mem_map.mp hp
    exact newRtSlots_disjoint hnew hslot

theorem clientRouteRule_leaksNothing_iff {powerSave : Client ε → Bool} {mac : MacAddr}
    (hidx : s.clientIndex mac = some i)
    (hfail : (clientRouteRule powerSave rule mac iptype dr s).ok = false) :
    LeaksNothing id (clientRouteRule powerSave rule mac iptype) i dr s ↔
      FirstRefused dr rule iptype i s := by
  refine clientRules_leaksNothing_iff ?_ hfail
  rw [clientRouteRule] at hfail ⊢
  simp only [hidx] at hfail ⊢
  split at hfail
  · cases hfail
  · next htx =>
      rw [if_neg htx]
      split at hfail
      · cases hfail
      · next hawake => rw [if_neg hawake]

end

/-- A set-up that is refused leaks nothing just where the driver has accepted nothing before:
the header of IPv4, or the first routing rule, is what it refuses. -/
theorem leaksNothing_iff_first (dr : Driver) :
    (∀ attribs (s : WlanIface δ), (handleWlanClientInitEx attribs dr s).ok = false →
      (LeaksNothing WlanIface.toClientIface (handleWlanClientInitEx attribs) s.numClient dr s ↔
        NatCache.ipaMaxNumWifiClients ≤ s.numClient ∨
          NatCache.ipaMaxNumWifiClients ≤ s.totalNumWifiClients ∨ .v4 ∉ s.txProp ∨
          dr.addHeader .v4 (attribMac attribs (s.client s.numClient).mac) s.ipa = none)) ∧
    (∀ mac (s : ClientIface Unit δ), (handleEthHdrInit mac dr s).ok = false →
      (LeaksNothing id (handleEthHdrInit mac) s.numClient dr s ↔
        (s.clientIndex mac).isSome = true ∨ ipaMaxNumEthClients ≤ s.numClient ∨
          .v4 ∉ s.txProp ∨ dr.addHeader .v4 mac s.ipa = none)) ∧
    (∀ mac (s : ClientIface Unit δ), (handleWanHdrInit mac dr s).ok = false →
      (LeaksNothing id (handleWanHdrInit mac) s.numClient dr s ↔
        (s.clientIndex mac).isSome = true ∨ ipaMaxNumWanClients ≤ s.numClient ∨
          .v4 ∉ s.txProp ∨ dr.addHeader .v4 mac s.ipa = none)) ∧
    (∀ mac iptype i (s : ClientIface WlanExt δ), s.clientIndex mac = some i →
      (handleWlanClientRouteRule mac iptype dr s).ok = false →
      (LeaksNothing id (handleWlanClientRouteRule mac iptype) i dr s ↔
        FirstRefused dr Client.rtRule iptype i s)) ∧
    ∀ odu mac iptype i (s : ClientIface Unit δ), s.clientIndex mac = some i →
      (handleEthClientRouteRule odu mac iptype dr s).ok = false →
      (LeaksNothing id (handleEthClientRouteRule odu mac iptype) i dr s ↔
        FirstRefused dr (ethRtRule odu) iptype i s) := by
  refine ⟨?_, ?_, ?_, ?_, ?_⟩
  · intro attribs s hfail
    exact (handleWlanClientInitEx_refused hfail).leaksNothing_iff
  · intro mac s hfail
    exact (hdrInit_refused hfail).leaksNothing_iff
  · intro mac s hfail
    exact (hdrInit_refused hfail).leaksNothing_iff
  · intro mac iptype i s hidx hfail
    exact clientRouteRule_leaksNothing_iff hidx hfail
  · intro odu mac iptype i s hidx hfail
    exact clientRouteRule_leaksNothing_iff hidx hfail

end

end LibraDevice.SetUp
