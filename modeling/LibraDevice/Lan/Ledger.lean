import LibraDevice.Lan.ClientDown
import Mathlib.Data.List.Perm.Basic
import Mathlib.Data.List.ProdSigma

/-!
What the clients of an interface hold of the driver: their routing rules and headers.
-/

namespace LibraDevice.Lan

open Backhaul Ledger Rows

/-- What is live is what is held, and nothing was deleted that was not live. -/
structure IpaDriver.Accounts (ipa : IpaDriver) (held : Kind → List (Hdl × Resource)) :
    Prop where
  accounted : ∀ kind, Accounted (ipa.live kind) (held kind)
  null : ∀ kind, ipa.live kind 0 = none
  dead : ipa.dead = []

namespace IpaDriver.Accounts

variable {ipa ipa' : IpaDriver} {held kept : Kind → List (Hdl × Resource)} {kind : Kind}

theorem init (supply : List Hdl) : (IpaDriver.init supply).Accounts fun _ => [] := by
  constructor
  · intro kind
    exact Accounted.nil_iff.mpr fun _ => rfl
  · intro kind
    rfl
  · rfl

theorem perm (h : ipa.Accounts held) (hp : ∀ kind, (held kind).Perm (kept kind)) :
    ipa.Accounts kept :=
  ⟨fun kind => (h.accounted kind).perm (hp kind), h.null, h.dead⟩

theorem ne_zero (kind : Kind) (h : ipa.Accounts held) {hdl : Hdl} {r : Resource}
    (hm : (hdl, r) ∈ held kind) :
    hdl ≠ 0 := by
  rintro rfl
  have hlive := (h.accounted kind).live_of_mem hm
  rw [h.null kind] at hlive
  cases hlive

theorem add (h : ipa.Accounts held) {r : Resource} {hdl : Hdl}
    (hadd : ipa.add kind r = some (hdl, ipa')) :
    hdl ≠ 0 ∧ ipa'.Accounts (Function.update held kind ((hdl, r) :: held kind)) := by
  rw [IpaDriver.add] at hadd
  split at hadd
  case h_1 => cases hadd
  case h_2 hdl' supply _ =>
    split at hadd
    case isFalse => cases hadd
    case isTrue hfree =>
      cases hadd
      refine ⟨hfree.1, ?_, ?_, h.dead⟩
      · intro kind'
        rcases eq_or_ne kind' kind with rfl | hne
        · simp only [Function.update_self]
          exact (h.accounted kind').acquire_head
            (Option.isNone_iff_eq_none.mp hfree.2)
        · simp only [Function.update_of_ne hne]
          exact h.accounted kind'
      · intro kind'
        rcases eq_or_ne kind' kind with rfl | hne
        · simp only [Function.update_self, Function.update_of_ne hfree.1.symm]
          exact h.null kind'
        · simp only [Function.update_of_ne hne]
          exact h.null kind'

theorem delete (h : ipa.Accounts held) {r : Resource} {hdl : Hdl}
    {rest : List (Hdl × Resource)} (hheld : held kind = (hdl, r) :: rest) :
    (ipa.delete kind hdl).Accounts (Function.update held kind rest) := by
  have hacc := h.accounted kind
  rw [hheld] at hacc
  have hlive := hacc.live_of_mem List.mem_cons_self
  rw [IpaDriver.delete]
  simp only [hlive]
  refine ⟨?_, ?_, h.dead⟩
  · intro kind'
    rcases eq_or_ne kind' kind with rfl | hne
    · simp only [Function.update_self]
      exact hacc.release_head
    · simp only [Function.update_of_ne hne]
      exact h.accounted kind'
  · intro kind'
    rcases eq_or_ne kind' kind with rfl | hne
    · simp only [Function.update_self]
      rcases eq_or_ne hdl 0 with rfl | hzero
      · rw [Function.update_self]
      · rw [Function.update_of_ne hzero.symm]
        exact h.null kind'
    · simp only [Function.update_of_ne hne]
      exact h.null kind'

theorem deleteEach (kind : Kind) (h : ipa.Accounts held) {gone rest : List (Hdl × Resource)}
    (hheld : held kind = gone ++ rest) :
    ((gone.map Prod.fst).foldl (fun ipa hdl => ipa.delete kind hdl) ipa).Accounts
      (Function.update held kind rest) := by
  induction gone generalizing ipa held with
  | nil =>
      have hsame : Function.update held kind rest = held := by
        rw [List.nil_append] at hheld
        rw [← hheld, Function.update_eq_self]
      rw [hsame]
      exact h
  | cons x gone ih =>
      have hrest : held kind = x :: (gone ++ rest) := hheld
      have hnext := ih (h.delete hrest) (by rw [Function.update_self])
      rw [Function.update_idem] at hnext
      exact hnext

theorem deleteRules {iptype : IpType} (h : ipa.Accounts held)
    {gone rest : List (Hdl × Resource)} (hheld : held (.rt iptype) = gone ++ rest) :
    ((gone.map Prod.fst).foldl (IpaDriver.deleteRoutingHdl iptype) ipa).Accounts
      (Function.update held (.rt iptype) rest) := by
  have hsame : (gone.map Prod.fst).foldl (IpaDriver.deleteRoutingHdl iptype) ipa =
      (gone.map Prod.fst).foldl (fun ipa hdl => ipa.delete (.rt iptype) hdl) ipa := by
    apply List.foldl_ext
    intro ipa hdl hmem
    obtain ⟨⟨hdl, r⟩, hgone, rfl⟩ := List.mem_map.mp hmem
    exact if_neg (h.ne_zero _ (by rw [hheld]; exact List.mem_append_left _ hgone))
  rw [hsame]
  exact h.deleteEach _ hheld

end IpaDriver.Accounts

section

variable {ε : Type} {txProp : List IpType}

namespace Client

/-- The rules at given places, with their handles. -/
def rulesAt (c : Client ε) (places : List (Nat × RtSlot)) : List (Hdl × Resource) :=
  places.map fun p => (c.rtHdl p.1 p.2, .rt (c.rtRule p.1 p.2))

def heldRules (c : Client ε) (txProp : List IpType) (iptype : IpType) :
    List (Hdl × Resource) :=
  c.rulesAt (txIndices txProp iptype ×ˢ c.rtSlots iptype)

def heldHeader (c : Client ε) (iptype : IpType) : List (Hdl × Resource) :=
  if c.headerSet.get iptype then [(c.hdrHdl.get iptype, .hdr iptype c.mac)] else []

/-- What a client holds. -/
def held (txProp : List IpType) (c : Client ε) : Kind → List (Hdl × Resource)
  | .rt iptype => c.heldRules txProp iptype
  | .hdr => c.heldHeader .v4 ++ c.heldHeader .v6

theorem rtHdls_eq (c : Client ε) (iptype : IpType) :
    c.rtHdls txProp iptype = (c.heldRules txProp iptype).map Prod.fst := by
  rw [rtHdls, heldRules, rulesAt, List.map_map]
  change _ = ((txIndices txProp iptype).flatMap fun t =>
    (c.rtSlots iptype).map (Prod.mk t)).map _
  rw [List.map_flatMap]
  simp only [List.map_map]
  rfl

theorem headerHdls_eq (c : Client ε) (iptype : IpType) :
    c.headerHdls iptype = (c.heldHeader iptype).map Prod.fst := by
  rw [headerHdls, heldHeader]
  split <;> rfl

theorem clearRouteRules_held (c : Client ε) (iptype : IpType) :
    (c.clearRouteRules iptype).held txProp = Function.update (c.held txProp) (.rt iptype) [] := by
  funext kind
  cases iptype with
  | v4 =>
      rcases eq_or_ne kind (.rt .v4) with rfl | hne
      · rw [Function.update_self]
        change List.map _ (txIndices txProp .v4 ×ˢ []) = []
        rw [List.product_nil]
        rfl
      · rw [Function.update_of_ne hne]
        match kind, hne with
        | .rt .v6, _ => rfl
        | .hdr, _ => rfl
        | .rt .v4, hne => exact absurd rfl hne
  | v6 =>
      rcases eq_or_ne kind (.rt .v6) with rfl | hne
      · rw [Function.update_self]
        change List.map _ (txIndices txProp .v6 ×ˢ []) = []
        rw [List.product_nil]
        rfl
      · rw [Function.update_of_ne hne]
        match kind, hne with
        | .rt .v4, _ => rfl
        | .hdr, _ => rfl
        | .rt .v6, hne => exact absurd rfl hne

end Client

variable {c c' : Client ε} {ipa ipa' : IpaDriver} {rest : Kind → List (Hdl × Resource)}
  {iptype : IpType}

namespace Client

theorem accounts_clearRouteRules (iptype : IpType)
    (h : ipa.Accounts fun kind => c.held txProp kind ++ rest kind) :
    ((c.rtHdls txProp iptype).foldl (IpaDriver.deleteRoutingHdl iptype) ipa).Accounts
      fun kind => (c.clearRouteRules iptype).held txProp kind ++ rest kind := by
  rw [rtHdls_eq]
  apply (h.deleteRules rfl).perm
  intro kind
  rw [clearRouteRules_held]
  rcases eq_or_ne kind (.rt iptype) with rfl | hne
  · rw [Function.update_self, Function.update_self]
    exact .refl _
  · rw [Function.update_of_ne hne, Function.update_of_ne hne]

theorem accounts_release (h : ipa.Accounts fun kind => c.held txProp kind ++ rest kind) :
    (c.release txProp ipa).Accounts rest := by
  have hv4 := accounts_clearRouteRules .v4 h
  have hv6 := accounts_clearRouteRules .v6 hv4
  have hheaders : c.headerHdls .v4 ++ c.headerHdls .v6 = (c.held txProp .hdr).map Prod.fst := by
    rw [headerHdls_eq, headerHdls_eq, ← List.map_append]
    rfl
  rw [release, hheaders]
  rw [clearRouteRules_rtHdls] at hv6
  apply (hv6.deleteEach .hdr rfl).perm
  intro kind
  cases kind with
  | hdr =>
      rw [Function.update_self]
  | rt iptype =>
      rw [Function.update_of_ne (by simp), clearRouteRules_held, clearRouteRules_held]
      cases iptype <;> exact .refl _

@[simp] theorem rtRule_setRtHdl (t : Nat) (slot : RtSlot) (h : Hdl) (t' : Nat) (slot' : RtSlot) :
    (c.setRtHdl t slot h).rtRule t' slot' = c.rtRule t' slot' := by
  cases slot' <;> rfl

@[simp] theorem setRtHdl_self (t : Nat) (slot : RtSlot) (h : Hdl) :
    (c.setRtHdl t slot h).rtHdl t slot = h := by
  simp only [setRtHdl, Function.update_self]

theorem setRtHdl_of_ne {t t' : Nat} {slot slot' : RtSlot} (h : Hdl)
    (hne : (t', slot') ≠ (t, slot)) : (c.setRtHdl t slot h).rtHdl t' slot' = c.rtHdl t' slot' := by
  rw [setRtHdl]
  rcases eq_or_ne t' t with rfl | hrow
  · simp only [Function.update_self]
    rw [Function.update_of_ne]
    rintro rfl
    exact hne rfl
  · simp only [Function.update_of_ne hrow]

theorem addRtRules_record {places : List (Nat × RtSlot)}
    (hadd : ClientIface.addRtRules iptype places (c, ipa) = some (c', ipa')) :
    c' = { c with rtHdl := c'.rtHdl } := by
  induction places generalizing c ipa with
  | nil =>
      cases hadd
      rfl
  | cons p places ih =>
      rw [ClientIface.addRtRules, Option.bind_eq_bind, Option.bind_eq_some_iff] at hadd
      obtain ⟨⟨hdl, ipa₁⟩, -, hadd⟩ := hadd
      rw [ih hadd]
      rfl

theorem rtRule_congr (hrecord : c' = { c with rtHdl := c'.rtHdl }) (t : Nat) (slot : RtSlot) :
    c'.rtRule t slot = c.rtRule t slot := by
  rw [hrecord]
  cases slot <;> rfl

theorem accounts_addRtRules {held : Kind → List (Hdl × Resource)} {places : List (Nat × RtSlot)}
    (hnodup : places.Nodup) (h : ipa.Accounts held)
    (hadd : ClientIface.addRtRules iptype places (c, ipa) = some (c', ipa')) :
    (∀ p, p ∉ places → c'.rtHdl p.1 p.2 = c.rtHdl p.1 p.2) ∧
      ipa'.Accounts (Function.update held (.rt iptype)
        (c'.rulesAt places ++ held (.rt iptype))) := by
  induction places generalizing c ipa held with
  | nil =>
      cases hadd
      refine ⟨fun _ _ => rfl, ?_⟩
      change ipa'.Accounts (Function.update held (.rt iptype) (held (.rt iptype)))
      rw [Function.update_eq_self]
      exact h
  | cons p places ih =>
      rcases p with ⟨t, slot⟩
      have hrule := rtRule_congr (addRtRules_record hadd)
      rw [ClientIface.addRtRules, Option.bind_eq_bind, Option.bind_eq_some_iff] at hadd
      obtain ⟨⟨hdl, ipa₁⟩, hone, hadd⟩ := hadd
      have hacc := (h.add hone).2
      have hplaces := List.nodup_cons.mp hnodup
      obtain ⟨hkeep, hheld⟩ := ih hplaces.2 hacc hadd
      refine ⟨?_, ?_⟩
      · intro p hp
        rw [List.mem_cons, not_or] at hp
        rw [hkeep p hp.2, setRtHdl_of_ne hdl hp.1]
      · apply hheld.perm
        intro kind
        rcases eq_or_ne kind (.rt iptype) with rfl | hne
        · rw [Function.update_self, Function.update_self, Function.update_self]
          have hstored : c'.rtHdl t slot = hdl := by
            rw [hkeep (t, slot) hplaces.1, setRtHdl_self]
          rw [rulesAt, rulesAt, List.map_cons, hstored, hrule]
          exact List.perm_middle
        · rw [Function.update_of_ne hne, Function.update_of_ne hne, Function.update_of_ne hne]

theorem v6Slots_nodup {ks : List Nat} (h : ks.Nodup) : (v6Slots ks).Nodup := by
  apply List.nodup_flatMap.mpr
  constructor
  · intro k _
    simp
  · apply List.Pairwise.imp _ h
    intro k k' hne slot hslot hslot'
    simp only [List.mem_cons, List.not_mem_nil, or_false] at hslot hslot'
    rcases hslot with rfl | rfl <;> rcases hslot' with heq | heq <;> cases heq <;> exact hne rfl

theorem range_append_range' (m n : Nat) : List.range m ++ List.range' m n = List.range (m + n) := by
  rw [List.range_eq_range', List.range_eq_range', ← List.range'_append_1, Nat.zero_add]

theorem rtSlots_append_newRtSlots (c : Client ε) :
    c.rtSlots .v6 ++ c.newRtSlots .v6 =
      v6Slots (List.range (c.routeRuleSetV6 + (c.ipv6Set - c.routeRuleSetV6))) := by
  rw [rtSlots, newRtSlots, v6Slots, v6Slots, ← List.flatMap_append, range_append_range']
  rfl

theorem rtSlots_nodup (c : Client ε) (iptype : IpType) :
    (c.rtSlots iptype ++ c.newRtSlots iptype).Nodup := by
  cases iptype with
  | v4 =>
      rw [rtSlots, newRtSlots]
      cases c.routeRuleSetV4 <;> cases c.ipv4Set <;> decide
  | v6 =>
      rw [rtSlots_append_newRtSlots]
      exact v6Slots_nodup List.nodup_range

theorem markRouteRules_v4 (c : Client ε) :
    c.markRouteRules .v4 = { c with routeRuleSetV4 := c.routeRuleSetV4 || c.ipv4Set } := by
  rcases c with ⟨mac, v4Addr, v6Addr, hdrHdl, set4, set6, ipv4, ipv6, headers, rtHdl, ext⟩
  cases set4 <;> cases ipv4 <;> rfl

theorem markRouteRules_v6 (c : Client ε) :
    c.markRouteRules .v6 = { c with routeRuleSetV6 := max c.routeRuleSetV6 c.ipv6Set } := by
  rw [markRouteRules]
  split
  case isTrue h => rw [Nat.max_eq_right (Nat.le_of_lt h)]
  case isFalse h => rw [Nat.max_eq_left (Nat.not_lt.mp h)]

theorem markRouteRules_rtSlots (c : Client ε) (iptype : IpType) :
    (c.markRouteRules iptype).rtSlots iptype = c.rtSlots iptype ++ c.newRtSlots iptype := by
  cases iptype with
  | v4 =>
      rw [markRouteRules_v4]
      cases h4 : c.routeRuleSetV4 <;> cases hset : c.ipv4Set <;>
        simp [rtSlots, newRtSlots, h4, hset]
  | v6 =>
      have hall : c.routeRuleSetV6 + (c.ipv6Set - c.routeRuleSetV6) =
          max c.routeRuleSetV6 c.ipv6Set := by omega
      rw [rtSlots_append_newRtSlots, markRouteRules_v6, hall]
      rfl

theorem markRouteRules_rulesAt (c : Client ε) (iptype : IpType) (places : List (Nat × RtSlot)) :
    (c.markRouteRules iptype).rulesAt places = c.rulesAt places := by
  apply List.map_congr_left
  rintro ⟨t, slot⟩ _
  cases iptype with
  | v4 =>
      rw [markRouteRules_v4]
      cases slot <;> rfl
  | v6 =>
      rw [markRouteRules_v6]
      cases slot <;> rfl

theorem markRouteRules_held (c : Client ε) {iptype : IpType} {kind : Kind}
    (hne : kind ≠ .rt iptype) :
    (c.markRouteRules iptype).held txProp kind = c.held txProp kind := by
  cases iptype with
  | v4 =>
      rw [markRouteRules_v4]
      match kind, hne with
      | .rt .v6, _ => rfl
      | .hdr, _ => rfl
      | .rt .v4, hne => exact absurd rfl hne
  | v6 =>
      rw [markRouteRules_v6]
      match kind, hne with
      | .rt .v4, _ => rfl
      | .hdr, _ => rfl
      | .rt .v6, hne => exact absurd rfl hne

theorem mem_txIndices {t : Nat} : t ∈ txIndices txProp iptype ↔ txProp[t]? = some iptype := by
  rw [txIndices, List.mem_filter, List.mem_range, decide_eq_true_iff]
  constructor
  · exact And.right
  · intro h
    exact ⟨(List.getElem?_eq_some_iff.mp h).1, h⟩

theorem rulesAt_append (c : Client ε) (ts : List Nat) (slots slots' : List RtSlot) :
    (c.rulesAt (ts ×ˢ slots) ++ c.rulesAt (ts ×ˢ slots')).Perm
      (c.rulesAt (ts ×ˢ (slots ++ slots'))) := by
  rw [rulesAt, rulesAt, ← List.map_append]
  apply List.Perm.map
  have hsplit := List.flatMap_append_perm ts (fun t => slots.map (Prod.mk t))
    fun t => slots'.map (Prod.mk t)
  simp only [← List.map_append] at hsplit
  exact hsplit

theorem rulesAt_congr {places : List (Nat × RtSlot)} (hrecord : c' = { c with rtHdl := c'.rtHdl })
    (hplaces : ∀ p ∈ places, c'.rtHdl p.1 p.2 = c.rtHdl p.1 p.2) :
    c'.rulesAt places = c.rulesAt places := by
  apply List.map_congr_left
  rintro ⟨t, slot⟩ hmem
  rw [hplaces _ hmem, rtRule_congr hrecord]

theorem accounts_markRouteRules (h : ipa.Accounts fun kind => c.held txProp kind ++ rest kind)
    (hadd : ClientIface.addRtRules iptype (txIndices txProp iptype ×ˢ c.newRtSlots iptype)
      (c, ipa) = some (c', ipa')) :
    ipa'.Accounts fun kind => (c'.markRouteRules iptype).held txProp kind ++ rest kind := by
  have hslots := rtSlots_nodup c iptype
  have hplaces : (txIndices txProp iptype ×ˢ c.newRtSlots iptype).Nodup := by
    apply List.Nodup.product
    · exact List.nodup_range.filter _
    · exact (List.nodup_append.mp hslots).2.1
  have hrecord := addRtRules_record hadd
  obtain ⟨hkeep, hheld⟩ := accounts_addRtRules hplaces h hadd
  have hset : ∀ other, c'.rtSlots other = c.rtSlots other := by
    intro other
    rw [hrecord]
    rfl
  have hnew : c'.newRtSlots iptype = c.newRtSlots iptype := by
    rw [hrecord]
    rfl
  apply hheld.perm
  intro kind
  rcases eq_or_ne kind (.rt iptype) with rfl | hne
  · rw [Function.update_self, ← List.append_assoc]
    apply List.Perm.append_right
    have hold : c.heldRules txProp iptype =
        c'.rulesAt (txIndices txProp iptype ×ˢ c.rtSlots iptype) := by
      symm
      apply rulesAt_congr hrecord
      rintro ⟨t, slot⟩ hmem
      apply hkeep
      intro hmem'
      have hslot := (List.mem_product.mp hmem).2
      exact (List.nodup_append.mp hslots).2.2 slot hslot slot (List.mem_product.mp hmem').2 rfl
    change (c'.rulesAt _ ++ c.heldRules txProp iptype).Perm
      ((c'.markRouteRules iptype).rulesAt _)
    rw [hold, markRouteRules_rulesAt, markRouteRules_rtSlots, hset, hnew]
    exact List.perm_append_comm.trans (rulesAt_append _ _ _ _)
  · rw [Function.update_of_ne hne, markRouteRules_held c' hne]
    apply List.Perm.append_right
    apply List.Perm.of_eq
    cases kind with
    | hdr =>
        rw [hrecord]
        rfl
    | rt other =>
        change c.rulesAt _ = c'.rulesAt _
        rw [hset]
        symm
        apply rulesAt_congr hrecord
        rintro ⟨t, slot⟩ hmem
        apply hkeep
        intro hmem'
        have hfamily := mem_txIndices.mp (List.mem_product.mp hmem).1
        rw [mem_txIndices.mp (List.mem_product.mp hmem').1] at hfamily
        cases hfamily
        exact hne rfl

theorem mem_v6Slots {ks : List Nat} {slot : RtSlot} (h : slot ∈ v6Slots ks) :
    ∃ k ∈ ks, slot = .v6 k ∨ slot = .v6Wan k := by
  obtain ⟨k, hk, hslot⟩ := List.mem_flatMap.mp h
  refine ⟨k, hk, ?_⟩
  simpa using hslot

theorem held_congr (hmac : c'.mac = c.mac) (hhdr : c'.hdrHdl = c.hdrHdl)
    (hheaders : c'.headerSet = c.headerSet) (hset4 : c'.routeRuleSetV4 = c.routeRuleSetV4)
    (hset6 : c'.routeRuleSetV6 = c.routeRuleSetV6)
    (haddr4 : c.routeRuleSetV4 = true → c'.v4Addr = c.v4Addr)
    (haddr6 : ∀ k < c.routeRuleSetV6, c'.v6Addr k = c.v6Addr k)
    (hrt4 : ∀ t < txProp.length, c'.rtHdl t .v4 = c.rtHdl t .v4)
    (hrt6 : ∀ t < txProp.length, ∀ k < c.routeRuleSetV6,
      c'.rtHdl t (.v6 k) = c.rtHdl t (.v6 k) ∧ c'.rtHdl t (.v6Wan k) = c.rtHdl t (.v6Wan k)) :
    c'.held txProp = c.held txProp := by
  have hindex : ∀ {t iptype}, t ∈ txIndices txProp iptype → t < txProp.length :=
    fun ht => (List.getElem?_eq_some_iff.mp (mem_txIndices.mp ht)).1
  funext kind
  match kind with
  | .hdr =>
      change c'.heldHeader .v4 ++ c'.heldHeader .v6 = c.heldHeader .v4 ++ c.heldHeader .v6
      simp only [heldHeader, hmac, hhdr, hheaders]
  | .rt .v4 =>
      have hslots : c'.rtSlots .v4 = c.rtSlots .v4 := by
        rw [rtSlots, rtSlots, hset4]
      change c'.rulesAt _ = c.rulesAt _
      rw [hslots]
      apply List.map_congr_left
      rintro ⟨t, slot⟩ hmem
      obtain ⟨ht, hslot⟩ := List.mem_product.mp hmem
      rw [rtSlots] at hslot
      split at hslot
      case isFalse => cases hslot
      case isTrue hset =>
        cases List.mem_singleton.mp hslot
        dsimp only
        rw [hrt4 t (hindex ht), rtRule, rtRule, hhdr, haddr4 hset]
  | .rt .v6 =>
      have hslots : c'.rtSlots .v6 = c.rtSlots .v6 := by
        rw [rtSlots, rtSlots, hset6]
      change c'.rulesAt _ = c.rulesAt _
      rw [hslots]
      apply List.map_congr_left
      rintro ⟨t, slot⟩ hmem
      obtain ⟨ht, hslot⟩ := List.mem_product.mp hmem
      obtain ⟨k, hk, rfl | rfl⟩ := mem_v6Slots hslot
      · rw [List.mem_range] at hk
        dsimp only
        rw [(hrt6 t (hindex ht) k hk).1, rtRule, rtRule, haddr6 k hk]
      · rw [List.mem_range] at hk
        dsimp only
        rw [(hrt6 t (hindex ht) k hk).2, rtRule, rtRule, hhdr, haddr6 k hk]

end Client

end

end LibraDevice.Lan
