import Mathlib.Data.Finset.Card
import Mathlib.Data.Nat.Find
import LibraDevice.IpaNat.DelRule

/-!
Rule ids and handles. A handle is a position in `rule_id_array`, and the id kept
there names the slot of the rule.
-/

namespace LibraDevice.IpaNat

open LinkedChains Ip4TableCache

/-- The slot a rule id stands for. -/
def slotOfId (c : Ip4TableCache) (ruleId : Nat) : Nat :=
  if ruleId % 2 = 1 then c.tableEntries + ruleId / 2 else ruleId / 2

/-- The slot a handle stands for. -/
def slotOfHandle (c : Ip4TableCache) (ruleHdl : Nat) : Nat :=
  slotOfId c (c.ruleIdArray ((ruleHdl : Int) - 1))

/-- The client rule a handle stands for. -/
def ruleOfHandle (c : Ip4TableCache) (ruleHdl : Nat) : Option Ipv4Rule :=
  if 0 < ruleHdl ∧ ruleHdl ≤ c.total ∧ c.ruleIdArray ((ruleHdl : Int) - 1) ≠ 0 then
    some (c.slot (slotOfHandle c ruleHdl)).client
  else none

/-- One write to `rule_id_array`. -/
def setId (c : Ip4TableCache) (k : Int) (ruleId : Nat) : Ip4TableCache :=
  { c with ruleIdArray := Function.update c.ruleIdArray k ruleId }

section

variable {c c' : Ip4TableCache} {home rank ihome irank : Nat → Nat} {e k : Nat}

theorem slotOfId_ruleIdOf (c : Ip4TableCache) (e : Nat) : slotOfId c (ruleIdOf c e) = e := by
  unfold slotOfId ruleIdOf
  split <;> split <;> omega

theorem two_mul_lor_one (a : Nat) : 2 * a ||| 1 = 2 * a + 1 := by
  have h := Nat.two_pow_add_eq_or_of_lt (i := 1) (b := 1) (by decide) a
  simpa using h.symm

theorem cast_succ_sub_one (k : Nat) : ((k + 1 : Nat) : Int) - 1 = k := by
  omega

theorem makeRuleHdl_eq (hd : Dims c) (he : e < c.total) (hk : k < c.total)
    (hfree : c.ruleIdArray k = 0) (hmin : ∀ j : Nat, j < k → c.ruleIdArray j ≠ 0) :
    makeRuleHdl c e =
      (k + 1, setId c k (ruleIdOf c e)) := by
  have hfind : (List.range (c.tableEntries + c.expnTableEntries)).find?
      (fun cnt : Nat => c.ruleIdArray cnt == 0) = some k := by
    rw [List.find?_range_eq_some]
    refine ⟨by simpa using hfree, List.mem_range.mpr hk, fun j hj => ?_⟩
    simpa using hmin j hj
  have hid : (if c.tableEntries ≤ e then u16 (2 * subU16 e c.tableEntries) ||| 1
      else u16 (2 * e)) = ruleIdOf c e := by
    have hbase := hd.base_le
    have hexpn := hd.expn_le
    unfold ruleIdOf
    split
    · rename_i hN
      rw [hd.subU16_base hN he]
      unfold total at he
      rw [u16_of_lt (by omega), two_mul_lor_one]
    · exact u16_of_lt (by omega)
  unfold makeRuleHdl
  rw [hid]
  simp only [hfind]
  rfl

theorem parseIpv4RuleHdl_eq (hk : k + 1 < c.total) (hid : c.ruleIdArray k = ruleIdOf c e) :
    parseIpv4RuleHdl c (k + 1) = entryOf c e := by
  unfold total at hk
  unfold parseIpv4RuleHdl entryOf
  rw [if_neg (by omega), cast_succ_sub_one, hid]
  unfold ruleIdOf
  split
  · refine Prod.ext ?_ ?_
    · simp only [beq_iff_eq]
      omega
    · change (2 * (e - c.tableEntries) + 1) / 2 = e - c.tableEntries
      omega
  · refine Prod.ext ?_ ?_
    · simp only [beq_eq_false_iff_ne]
      omega
    · change 2 * e / 2 = e
      omega

theorem exists_free_id (h : TableInv c home rank ihome irank) (he0 : 0 < e)
    (heN : e ≠ c.tableEntries) (heT : e < c.total) (hfree : ¬ Live c e) :
    ∃ k : Nat, k + 2 < c.total ∧ c.ruleIdArray k = 0 := by
  classical
  by_contra hnone
  have hused : ∀ k : Nat, k + 2 < c.total → c.ruleIdArray k ≠ 0 :=
    fun k hk h0 => hnone ⟨k, hk, h0⟩
  have hN := h.dims.two_le_base
  have hM := h.dims.two_le_expn
  have hNT : c.tableEntries < c.total := by
    unfold total
    omega
  have hmaps : ∀ k ∈ Finset.range (c.total - 2), slotOfId c (c.ruleIdArray k) ∈
      (((Finset.range c.total).erase 0).erase c.tableEntries).erase e := by
    intro k hk
    have hkT : k + 2 < c.total := by
      rw [Finset.mem_range] at hk
      omega
    obtain ⟨x, hx, hid⟩ := h.id_live k (by omega) (hused k hkT)
    rw [hid, slotOfId_ruleIdOf]
    simp only [Finset.mem_erase, Finset.mem_range]
    refine ⟨?_, h.rules.ne_overflow_null hx.1, (h.rules.pos hx.1).ne', hx.1.1⟩
    rintro rfl
    exact hfree hx
  have hcard : ((((Finset.range c.total).erase 0).erase c.tableEntries).erase e).card <
      (Finset.range (c.total - 2)).card := by
    have h1 : (0 : Nat) ∈ Finset.range c.total := by
      rw [Finset.mem_range]
      omega
    have h2 : c.tableEntries ∈ (Finset.range c.total).erase 0 := by
      simp only [Finset.mem_erase, Finset.mem_range]
      omega
    have h3 : e ∈ ((Finset.range c.total).erase 0).erase c.tableEntries := by
      simp only [Finset.mem_erase, Finset.mem_range]
      omega
    rw [Finset.card_erase_of_mem h3, Finset.card_erase_of_mem h2, Finset.card_erase_of_mem h1,
      Finset.card_range, Finset.card_range]
    omega
  obtain ⟨j, hj, k, hk, hjk, heq⟩ := Finset.exists_ne_map_eq_of_card_lt_of_maps_to hcard hmaps
  rw [Finset.mem_range] at hj hk
  obtain ⟨x, _, hx⟩ := h.id_live j (by omega) (hused j (by omega))
  obtain ⟨y, _, hy⟩ := h.id_live k (by omega) (hused k (by omega))
  rw [hx, hy, slotOfId_ruleIdOf, slotOfId_ruleIdOf] at heq
  exact hjk (h.id_inj j k (by omega) (by omega) (hused j (by omega)) (by rw [hx, hy, heq]))

theorem exists_first_free_id (h : TableInv c home rank ihome irank) (he0 : 0 < e)
    (heN : e ≠ c.tableEntries) (heT : e < c.total) (hfree : ¬ Live c e) :
    ∃ k : Nat, k + 1 < c.total ∧ c.ruleIdArray k = 0 ∧
      ∀ j : Nat, j < k → c.ruleIdArray j ≠ 0 := by
  classical
  obtain ⟨k, hk, h0⟩ := exists_free_id h he0 heN heT hfree
  have hex : ∃ k : Nat, c.ruleIdArray k = 0 := ⟨k, h0⟩
  have hle := Nat.find_min' hex h0
  exact ⟨Nat.find hex, by omega, Nat.find_spec hex, fun j hj => Nat.find_min hex hj⟩

theorem IdInv.insert (h : IdInv c) (hf : SameFrame c c')
    (hlive : ∀ x, Live c' x ↔ x = e ∨ Live c x) (hpos : ∀ x, Live c x → 0 < x)
    (he0 : 0 < e) (hfree : ¬ Live c e) (hk : k + 1 < c.total) (hk0 : c.ruleIdArray k = 0)
    (hids : c'.ruleIdArray = Function.update c.ruleIdArray k (ruleIdOf c e)) : IdInv c' := by
  have hcell : ∀ j : Nat, c'.ruleIdArray j =
      if j = k then ruleIdOf c e else c.ruleIdArray j := by
    intro j
    rw [hids, Function.update_apply]
    simp only [Int.natCast_inj]
  have hnew : ∀ j : Nat, j < c.total → c.ruleIdArray j ≠ ruleIdOf c e := by
    intro j hj heq
    obtain ⟨x, hx, hid⟩ := h.id_live j hj (by rw [heq]; exact ruleIdOf_pos he0)
    rw [ruleIdOf_inj (heq.symm.trans hid)] at hfree
    exact hfree hx
  refine ⟨?_, ?_, ?_, ?_⟩
  · intro j hj hne
    rw [hf.total_eq] at hj ⊢
    rw [hcell] at hne
    by_cases hjk : j = k
    · omega
    · rw [if_neg hjk] at hne
      exact h.id_small j hj hne
  · intro j hj hne
    rw [hf.total_eq] at hj
    rw [hcell] at hne ⊢
    by_cases hjk : j = k
    · refine ⟨e, (hlive e).mpr (Or.inl rfl), ?_⟩
      rw [if_pos hjk, hf.ruleIdOf_eq]
    · rw [if_neg hjk] at hne ⊢
      obtain ⟨x, hx, hid⟩ := h.id_live j hj hne
      exact ⟨x, (hlive x).mpr (Or.inr hx), by rw [hf.ruleIdOf_eq, hid]⟩
  · intro i j hi hj hne heq
    rw [hf.total_eq] at hi hj
    rw [hcell] at hne
    rw [hcell, hcell] at heq
    by_cases hik : i = k
    · by_cases hjk : j = k
      · rw [hik, hjk]
      · rw [if_pos hik, if_neg hjk] at heq
        exact absurd heq.symm (hnew j hj)
    · rw [if_neg hik] at hne heq
      by_cases hjk : j = k
      · rw [if_pos hjk] at heq
        exact absurd heq (hnew i hi)
      · rw [if_neg hjk] at heq
        exact h.id_inj i j hi hj hne heq
  · intro x hx
    rcases (hlive x).mp hx with rfl | hx
    · exact ⟨k, by rw [hf.total_eq]; omega, by rw [hcell, if_pos rfl, hf.ruleIdOf_eq]⟩
    · obtain ⟨j, hj, hid⟩ := h.id_surj x hx
      have hjk : j ≠ k := by
        rintro rfl
        rw [hk0] at hid
        exact ruleIdOf_pos (hpos x hx) hid.symm
      exact ⟨j, by rw [hf.total_eq]; exact hj, by rw [hcell, if_neg hjk, hf.ruleIdOf_eq, hid]⟩

theorem IdInv.erase (h : IdInv c) (hf : SameFrame c c')
    (hlive : ∀ x, Live c' x ↔ x ≠ e ∧ Live c x) (he0 : 0 < e) (hk : k < c.total)
    (hke : c.ruleIdArray k = ruleIdOf c e)
    (hids : c'.ruleIdArray = Function.update c.ruleIdArray k 0) : IdInv c' := by
  have hcell : ∀ j : Nat, c'.ruleIdArray j = if j = k then 0 else c.ruleIdArray j := by
    intro j
    rw [hids, Function.update_apply]
    simp only [Int.natCast_inj]
  have hused : ∀ j : Nat, c'.ruleIdArray j ≠ 0 → j ≠ k ∧ c.ruleIdArray j ≠ 0 := by
    intro j hne
    rw [hcell] at hne
    split at hne
    · exact absurd rfl hne
    · rename_i hjk
      exact ⟨hjk, hne⟩
  refine ⟨?_, ?_, ?_, ?_⟩
  · intro j hj hne
    rw [hf.total_eq] at hj ⊢
    exact h.id_small j hj (hused j hne).2
  · intro j hj hne
    rw [hf.total_eq] at hj
    obtain ⟨hjk, hne⟩ := hused j hne
    obtain ⟨x, hx, hid⟩ := h.id_live j hj hne
    have hxe : x ≠ e := by
      rintro rfl
      exact hjk (h.id_inj j k hj hk hne (hid.trans hke.symm))
    exact ⟨x, (hlive x).mpr ⟨hxe, hx⟩, by rw [hcell, if_neg hjk, hf.ruleIdOf_eq, hid]⟩
  · intro i j hi hj hne heq
    rw [hf.total_eq] at hi hj
    obtain ⟨hik, hne'⟩ := hused i hne
    obtain ⟨hjk, -⟩ := hused j (heq ▸ hne)
    rw [hcell, hcell, if_neg hik, if_neg hjk] at heq
    exact h.id_inj i j hi hj hne' heq
  · intro x hx
    obtain ⟨hxe, hx⟩ := (hlive x).mp hx
    obtain ⟨j, hj, hid⟩ := h.id_surj x hx
    have hjk : j ≠ k := by
      rintro rfl
      exact hxe (ruleIdOf_inj (hid.symm.trans hke))
    exact ⟨j, by rw [hf.total_eq]; exact hj, by rw [hcell, if_neg hjk, hf.ruleIdOf_eq, hid]⟩

theorem slotOfHandle_eq (hid : c.ruleIdArray k = ruleIdOf c e) : slotOfHandle c (k + 1) = e := by
  unfold slotOfHandle
  rw [cast_succ_sub_one, hid, slotOfId_ruleIdOf]

theorem ruleOfHandle_zero (c : Ip4TableCache) : ruleOfHandle c 0 = none := by
  simp [ruleOfHandle]

theorem ruleOfHandle_of_live (hk : k < c.total) (he0 : 0 < e)
    (hid : c.ruleIdArray k = ruleIdOf c e) :
    ruleOfHandle c (k + 1) = some (c.slot e).client := by
  unfold ruleOfHandle
  rw [slotOfHandle_eq hid, cast_succ_sub_one, hid]
  exact if_pos ⟨Nat.succ_pos k, hk, ruleIdOf_pos he0⟩

theorem ruleOfHandle_of_zero (hid : c.ruleIdArray k = 0) : ruleOfHandle c (k + 1) = none := by
  unfold ruleOfHandle
  rw [cast_succ_sub_one, hid]
  exact if_neg fun h => h.2.2 rfl

theorem ruleOfHandle_of_total_le (hk : c.total ≤ k) : ruleOfHandle c (k + 1) = none := by
  unfold ruleOfHandle
  exact if_neg fun h => absurd h.2.1 (by omega)

theorem IdInv.live_of_handle (h : IdInv c) {ruleHdl : Nat} {r : Ipv4Rule}
    (hr : ruleOfHandle c ruleHdl = some r) :
    ∃ k e, ruleHdl = k + 1 ∧ k + 1 < c.total ∧ Live c e ∧ c.ruleIdArray k = ruleIdOf c e ∧
      (c.slot e).client = r := by
  cases ruleHdl with
  | zero =>
      rw [ruleOfHandle_zero] at hr
      cases hr
  | succ k =>
      unfold ruleOfHandle at hr
      rw [cast_succ_sub_one] at hr
      simp only [Option.ite_none_right_eq_some, Option.some.injEq] at hr
      obtain ⟨⟨-, hk, hne⟩, hr⟩ := hr
      obtain ⟨e, he, hid⟩ := h.id_live k hk hne
      rw [slotOfHandle_eq hid] at hr
      exact ⟨k, e, rfl, h.id_small k hk hne, he, hid, hr⟩

theorem ruleOfHandle_congr (h : IdInv c) (hpos : ∀ x, Live c x → 0 < x) (hf : SameFrame c c')
    (hclient : ∀ x, Live c x → c.ruleIdArray k = ruleIdOf c x →
      (c'.slot x).client = (c.slot x).client)
    (hid : c'.ruleIdArray k = c.ruleIdArray k) :
    ruleOfHandle c' (k + 1) = ruleOfHandle c (k + 1) := by
  rcases Nat.lt_or_ge k c.total with hk | hk
  · by_cases h0 : c.ruleIdArray k = 0
    · rw [ruleOfHandle_of_zero h0, ruleOfHandle_of_zero (hid.trans h0)]
    · obtain ⟨x, hx, hx'⟩ := h.id_live k hk h0
      have hx0 := hpos x hx
      rw [ruleOfHandle_of_live hk hx0 hx', ruleOfHandle_of_live (e := x)
        (by rw [hf.total_eq]; exact hk) hx0 (by rw [hid, hf.ruleIdOf_eq, hx']), hclient x hx hx']
  · rw [ruleOfHandle_of_total_le hk, ruleOfHandle_of_total_le (by rw [hf.total_eq]; exact hk)]

theorem ruleOfHandle_insert (h : IdInv c) (hpos : ∀ x, Live c x → 0 < x) (hf : SameFrame c c')
    (he0 : 0 < e) (hk : k < c.total)
    (hids : c'.ruleIdArray = Function.update c.ruleIdArray k (ruleIdOf c e))
    (hclient : ∀ x, Live c x → (c'.slot x).client = (c.slot x).client) :
    ruleOfHandle c' = Function.update (ruleOfHandle c) (k + 1) (some (c'.slot e).client) := by
  funext ruleHdl
  cases ruleHdl with
  | zero =>
      rw [Function.update_of_ne (Nat.succ_ne_zero k).symm, ruleOfHandle_zero, ruleOfHandle_zero]
  | succ j =>
      by_cases hjk : j = k
      · subst hjk
        rw [Function.update_self]
        exact ruleOfHandle_of_live (by rw [hf.total_eq]; exact hk) he0
          (by rw [hids, Function.update_self, hf.ruleIdOf_eq])
      · rw [Function.update_of_ne (by simpa using hjk)]
        exact ruleOfHandle_congr h hpos hf (fun x hx _ => hclient x hx)
          (by rw [hids, Function.update_of_ne (fun heq => hjk (Int.natCast_inj.mp heq))])

theorem ruleOfHandle_erase (h : IdInv c) (hpos : ∀ x, Live c x → 0 < x) (hf : SameFrame c c')
    (hk : k < c.total) (hke : c.ruleIdArray k = ruleIdOf c e) (he0 : 0 < e)
    (hids : c'.ruleIdArray = Function.update c.ruleIdArray k 0)
    (hclient : ∀ x, x ≠ e → Live c x → (c'.slot x).client = (c.slot x).client) :
    ruleOfHandle c' = Function.update (ruleOfHandle c) (k + 1) none := by
  funext ruleHdl
  cases ruleHdl with
  | zero =>
      rw [Function.update_of_ne (Nat.succ_ne_zero k).symm, ruleOfHandle_zero, ruleOfHandle_zero]
  | succ j =>
      by_cases hjk : j = k
      · subst hjk
        rw [Function.update_self, ruleOfHandle_of_zero (by rw [hids, Function.update_self])]
      · have hid : c'.ruleIdArray j = c.ruleIdArray j := by
          rw [hids, Function.update_of_ne (fun heq => hjk (Int.natCast_inj.mp heq))]
        rw [Function.update_of_ne (by simpa using hjk)]
        rcases Nat.lt_or_ge j c.total with hj | hj
        · refine ruleOfHandle_congr h hpos hf (fun x hx hx' => hclient x ?_ hx) hid
          rintro rfl
          refine hjk (h.id_inj j k hj hk ?_ (hx'.trans hke.symm))
          rw [hx']
          exact ruleIdOf_pos he0
        · rw [ruleOfHandle_of_total_le hj,
            ruleOfHandle_of_total_le (by rw [hf.total_eq]; exact hj)]

theorem setId_sameFrame (c : Ip4TableCache) (k : Int) (ruleId : Nat) :
    SameFrame c (setId c k ruleId) := ⟨rfl, rfl, rfl, rfl, rfl⟩

theorem LinkInv.setId (h : LinkInv c home rank ihome irank) (k : Int) (ruleId : Nat) :
    LinkInv (setId c k ruleId) home rank ihome irank where
  dims := h.dims.of_sameFrame (setId_sameFrame ..)
  rules := h.rules
  index := h.index
  dead_head := h.dead_head
  dst_home := h.dst_home
  index_of_rule := h.index_of_rule
  rule_of_index := h.rule_of_index

end

end LibraDevice.IpaNat
