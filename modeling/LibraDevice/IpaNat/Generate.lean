import Mathlib.Data.List.Range
import LibraDevice.IpaNat.Invariant

/-!
Where a new rule goes. In a table that satisfies the invariant the chain walks
end, and `ipa_nati_generate_rule` either finds a fresh slot in both tables or
reports that one of them is full.
-/

namespace LibraDevice.IpaNat

open LinkedChains Ip4TableCache

theorem find_range'_getD (p : Nat → Bool) (n : Nat) :
    (((List.range' 1 (n - 1)).find? p).getD 0 = 0 ∧ ∀ j, 1 ≤ j → j < n → p j = false) ∨
      (1 ≤ ((List.range' 1 (n - 1)).find? p).getD 0 ∧
        ((List.range' 1 (n - 1)).find? p).getD 0 < n ∧
        p (((List.range' 1 (n - 1)).find? p).getD 0) = true) := by
  rcases hf : (List.range' 1 (n - 1)).find? p with _ | k
  · left
    rw [List.find?_eq_none] at hf
    refine ⟨rfl, fun j h1 hn => ?_⟩
    have hmem : j ∈ List.range' 1 (n - 1) := by
      rw [List.mem_range'_1]
      omega
    simpa using hf j hmem
  · right
    have hmem := List.mem_of_find?_eq_some hf
    rw [List.mem_range'_1] at hmem
    exact ⟨hmem.1, by simp only [Option.getD_some]; omega, List.find?_some hf⟩

theorem expnTblFreeEntry_spec (tbl : Nat → NatRule) (n : Nat) :
    (expnTblFreeEntry tbl n = 0 ∧ ∀ k, 1 ≤ k → k < n → (tbl k).enable = true) ∨
      (1 ≤ expnTblFreeEntry tbl n ∧ expnTblFreeEntry tbl n < n ∧
        (tbl (expnTblFreeEntry tbl n)).enable = false) := by
  have h := find_range'_getD (fun cnt => !(tbl cnt).enable) n
  simp only [Bool.not_eq_false', Bool.not_eq_true'] at h
  exact h

theorem indexExpnGetFreeEntry_spec (tbl : Nat → IndxTblRule) (n : Nat) :
    (indexExpnGetFreeEntry tbl n = 0 ∧ ∀ k, 1 ≤ k → k < n → (tbl k).tblEntry ≠ 0) ∨
      (1 ≤ indexExpnGetFreeEntry tbl n ∧ indexExpnGetFreeEntry tbl n < n ∧
        (tbl (indexExpnGetFreeEntry tbl n)).tblEntry = 0) := by
  have h := find_range'_getD (fun cnt => (tbl cnt).tblEntry == 0) n
  simp only [beq_eq_false_iff_ne, beq_iff_eq] at h
  exact h

/-- The base slot of the rule is taken and no expansion slot is free. -/
def DstFull (c : Ip4TableCache) (r : Ipv4Rule) : Prop :=
  (c.ipv4Rules (dstSlot c r)).enable = true ∧
    ∀ k, 1 ≤ k → k < c.expnTableEntries → (c.ipv4ExpnRules k).enable = true

/-- The same for the index tables. -/
def SrcFull (c : Ip4TableCache) (r : Ipv4Rule) : Prop :=
  (c.indexTable (srcSlot c r)).tblEntry ≠ 0 ∧
    ∀ k, 1 ≤ k → k < c.expnTableEntries → (c.indexTableExpn k).tblEntry ≠ 0

theorem walkToLast_eq {N T : Nat} {L : Links} {home rank next : Nat → Nat}
    (h : WellLinked N T L home rank) (hnext : ∀ e, L.occupied e → N ≤ e → next e = L.next e)
    {l : List Nat} {e fuel prev : Nat} (he : L.occupied e) (hN : N ≤ e) (hl : L.Chain e l)
    (hfuel : l.length + 1 < fuel) :
    walkToLast next fuel prev e = some (some (l.getLastD e)) := by
  induction l generalizing e fuel prev with
  | nil =>
      obtain ⟨k, rfl⟩ : ∃ k, fuel = k + 2 :=
        ⟨fuel - 2, by simp only [List.length_nil] at hfuel; omega⟩
      have hz : next e = 0 := (hnext e he hN).trans hl
      rw [walkToLast, if_neg (h.pos he).ne', hz, if_neg (h.pos he).ne, walkToLast, if_pos rfl]
      rfl
  | cons x l ih =>
      obtain ⟨k, rfl⟩ : ∃ k, fuel = k + 1 := ⟨fuel - 1, by omega⟩
      obtain ⟨hx, hx0, hl⟩ := hl
      have hne : L.next e ≠ 0 := by rw [hx]; exact hx0
      obtain ⟨hNx, ho, _⟩ := h.next_link he hne
      rw [hx] at hNx ho
      have hself : x ≠ e := by rw [← hx]; exact h.next_ne_self he
      have hlen : l.length + 1 < k := by
        simp only [List.length_cons] at hfuel
        omega
      rw [walkToLast, if_neg (h.pos he).ne', hnext e he hN, hx, if_neg hself,
        ih ho hNx hl hlen, List.getLastD_cons]

theorem collisionPrev_eq {N T : Nat} {L : Links} {home rank next : Nat → Nat}
    (h : WellLinked N T L home rank) (hT : T ≤ 32768)
    (hnext : ∀ e, L.occupied e → N ≤ e → next e = L.next e) {b : Nat} (hb : L.occupied b) :
    ∃ p, collisionPrev next b (L.next b) = some (some p) ∧
      L.occupied p ∧ L.next p = 0 ∧ home p = home b := by
  obtain ⟨l, hl, _, _, _⟩ := h.exists_chain hb
  have hlen := h.chain_length hb hl
  have hlast := h.exists_last hb hl
  refine ⟨l.getLastD b, ?_, hlast⟩
  unfold collisionPrev
  cases l with
  | nil =>
      have hz : L.next b = 0 := hl
      rw [if_pos hz]
      rfl
  | cons x l =>
      obtain ⟨hx, hx0, hl⟩ := hl
      have hne : L.next b ≠ 0 := by rw [hx]; exact hx0
      obtain ⟨hN, ho, _⟩ := h.next_link hb hne
      rw [hx] at hN ho
      have hfuel : l.length + 1 < 65536 := by
        simp only [List.length_cons] at hlen
        omega
      rw [if_neg hne, hx, walkToLast_eq h hnext ho hN hl hfuel, List.getLastD_cons]

section

variable {c : Ip4TableCache} {home rank ihome irank : Nat → Nat}

theorem lt_total {b : Nat} (hb : b < c.tableEntries) : b < c.total :=
  hb.trans_le (Nat.le_add_right _ _)

theorem Dims.expn_entry (hd : Dims c) {k : Nat} (h1 : 1 ≤ k) (hk : k < c.expnTableEntries) :
    u16 (k + c.tableEntries) = k + c.tableEntries ∧ c.tableEntries < k + c.tableEntries ∧
      k + c.tableEntries < c.total ∧ c.slot (k + c.tableEntries) = c.ipv4ExpnRules k ∧
      c.indexSlot (k + c.tableEntries) = c.indexTableExpn k := by
  have := hd.base_le
  have := hd.expn_le
  refine ⟨u16_of_lt (by omega), by omega, by unfold total; omega, ?_, ?_⟩
  · rw [slot_of_le (by omega), Nat.add_sub_cancel]
  · rw [indexSlot_of_le (by omega), Nat.add_sub_cancel]

theorem generateTblRule_spec (h : LinkInv c home rank ihome irank) (r : Ipv4Rule) :
    ∃ p e, generateTblRule c r = some (p, e) ∧ (e = 0 ↔ DstFull c r) ∧
      (e ≠ 0 → (ruleLinks c).Fresh c.tableEntries c.total home (dstSlot c r) p e) := by
  obtain ⟨hpos, hlt⟩ := h.dims.dstSlot_mem r
  have hslot := slot_of_lt (c := c) hlt
  unfold generateTblRule
  by_cases hen : (c.ipv4Rules (dstSlot c r)).enable = false
  · refine ⟨0, dstSlot c r, if_pos hen, ⟨fun h0 => absurd h0 hpos.ne', fun hf => ?_⟩, ?_⟩
    · rw [hf.1] at hen
      cases hen
    · refine fun _ => Or.inl ⟨rfl, rfl, ?_⟩
      rintro ⟨_, hocc⟩
      rw [hslot, hen] at hocc
      cases hocc
  · have hen' : (c.ipv4Rules (dstSlot c r)).enable = true := by simpa using hen
    have hb : (ruleLinks c).occupied (dstSlot c r) := ⟨lt_total hlt, by rw [hslot, hen']⟩
    have hnext : ∀ e, (ruleLinks c).occupied e → c.tableEntries ≤ e →
        (c.ipv4ExpnRules (subU16 e c.tableEntries)).nextIndex = (ruleLinks c).next e := by
      intro e he hN
      rw [h.dims.subU16_base hN he.1, ← slot_of_le hN]
      rfl
    obtain ⟨p, hp, hpo, hplast, hphome⟩ :=
      collisionPrev_eq h.rules h.dims.total_le hnext hb
    rw [h.rules.home_head hb hlt] at hphome
    have hnb : (ruleLinks c).next (dstSlot c r) = (c.ipv4Rules (dstSlot c r)).nextIndex := by
      rw [← hslot]
      rfl
    rw [hnb] at hp
    simp only [if_neg hen, hp, Option.map_some]
    refine ⟨p, _, rfl, ?_⟩
    rcases expnTblFreeEntry_spec c.ipv4ExpnRules c.expnTableEntries with
      ⟨hz, hall⟩ | ⟨h1, hk, hfree⟩
    · rw [if_pos hz]
      exact ⟨⟨fun _ => ⟨hen', hall⟩, fun _ => rfl⟩, fun hne => absurd rfl hne⟩
    · obtain ⟨hu, hNe, heT, hes, _⟩ := h.dims.expn_entry h1 hk
      rw [if_neg (by omega), hu]
      refine ⟨⟨fun h0 => absurd h0 (by omega), fun hf => ?_⟩, fun _ => Or.inr ?_⟩
      · rw [hf.2 _ h1 hk] at hfree
        cases hfree
      · refine ⟨(h.rules.pos hpo).ne', hpo, hplast, hphome, hNe, heT, ?_⟩
        rintro ⟨_, hocc⟩
        rw [hes] at hocc
        rw [hocc] at hfree
        cases hfree

theorem generateIndexRule_spec (h : LinkInv c home rank ihome irank) (r : Ipv4Rule) :
    ∃ p i, generateIndexRule c r = some (p, i) ∧ (i = 0 ↔ SrcFull c r) ∧
      (i ≠ 0 → (indexLinks c).Fresh c.tableEntries c.total ihome (srcSlot c r) p i) := by
  obtain ⟨hpos, hlt⟩ := h.dims.srcSlot_mem r
  have hslot := indexSlot_of_lt (c := c) hlt
  unfold generateIndexRule
  by_cases hen : (c.indexTable (srcSlot c r)).tblEntry = 0
  · refine ⟨0, srcSlot c r, if_pos hen, ⟨fun h0 => absurd h0 hpos.ne', fun hf => ?_⟩, ?_⟩
    · exact absurd hen hf.1
    · refine fun _ => Or.inl ⟨rfl, rfl, ?_⟩
      rintro ⟨_, hocc⟩
      rw [hslot] at hocc
      exact hocc hen
  · have hb : (indexLinks c).occupied (srcSlot c r) := ⟨lt_total hlt, by rw [hslot]; exact hen⟩
    have hnext : ∀ i, (indexLinks c).occupied i → c.tableEntries ≤ i →
        (c.indexTableExpn (subU16 i c.tableEntries)).nextIndex = (indexLinks c).next i := by
      intro i hi hN
      rw [h.dims.subU16_base hN hi.1, ← indexSlot_of_le hN]
      rfl
    obtain ⟨p, hp, hpo, hplast, hphome⟩ :=
      collisionPrev_eq h.index h.dims.total_le hnext hb
    rw [h.index.home_head hb hlt] at hphome
    have hnb : (indexLinks c).next (srcSlot c r) = (c.indexTable (srcSlot c r)).nextIndex := by
      rw [← hslot]
      rfl
    rw [hnb] at hp
    simp only [if_neg hen, hp, Option.map_some]
    rcases indexExpnGetFreeEntry_spec c.indexTableExpn c.expnTableEntries with
      ⟨hz, hall⟩ | ⟨h1, hk, hfree⟩
    · rw [if_pos hz]
      exact ⟨p, 0, rfl, ⟨fun _ => ⟨hen, hall⟩, fun _ => rfl⟩, fun hne => absurd rfl hne⟩
    · obtain ⟨hu, hNe, heT, _, hes⟩ := h.dims.expn_entry h1 hk
      have hnocc : ¬ (indexLinks c).occupied
          (indexExpnGetFreeEntry c.indexTableExpn c.expnTableEntries + c.tableEntries) := by
        rintro ⟨_, hocc⟩
        rw [hes] at hocc
        exact hocc hfree
      have hpne : p ≠ indexExpnGetFreeEntry c.indexTableExpn c.expnTableEntries +
          c.tableEntries := fun heq => hnocc (heq ▸ hpo)
      rw [if_neg (by omega), hu, if_neg hpne]
      refine ⟨p, _, rfl, ⟨fun h0 => absurd h0 (by omega), fun hf => ?_⟩, fun _ => Or.inr ?_⟩
      · exact absurd hfree (hf.2 _ h1 hk)
      · exact ⟨(h.index.pos hpo).ne', hpo, hplast, hphome, hNe, heT, hnocc⟩

end

end LibraDevice.IpaNat
