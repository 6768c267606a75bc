import LibraDevice.IpaNat.Generate

/-!
Adding a rule. The writes of a successful addition are read off slot by slot,
and the invariant is carried over them.
-/

namespace LibraDevice.IpaNat

open LinkedChains Ip4TableCache

/-- `c'` is `c` with rule `r` in slot `e` behind `p` and its index entry in slot
`i` behind `ip`. -/
structure Added (c c' : Ip4TableCache) (r : Ipv4Rule) (p e ip i : Nat) : Prop where
  frame : SameFrame c c'
  slot_self : c'.slot e =
    { swRuleOf c r with prevIndex := p, indxTblEntry := i, enable := true }
  slot_prev : p ≠ 0 → c'.slot p = (c.slot p).withNext e
  slot_other : ∀ x, x ≠ e → p = 0 ∨ x ≠ p → c'.slot x = c.slot x
  index_self : c'.indexSlot i = ⟨e, 0⟩
  index_prev : ip ≠ 0 → c'.indexSlot ip = (c.indexSlot ip).withNext i
  index_other : ∀ x, x ≠ i → ip = 0 ∨ x ≠ ip → c'.indexSlot x = c.indexSlot x
  prev_self : c.tableEntries ≤ i → c'.indexPrev i = ip
  prev_other : ∀ x, c.tableEntries ≤ x → x ≠ i → c'.indexPrev x = c.indexPrev x

section

variable {c c' : Ip4TableCache} {r : Ipv4Rule} {p e ip i : Nat}

theorem SameFrame.dstSlot_eq (h : SameFrame c c') (r : Ipv4Rule) : dstSlot c' r = dstSlot c r := by
  unfold dstSlot
  rw [h.tableEntries]

theorem SameFrame.srcSlot_eq (h : SameFrame c c') (r : Ipv4Rule) : srcSlot c' r = srcSlot c r := by
  unfold srcSlot
  rw [h.tableEntries]

theorem SameFrame.ruleIdOf_eq (h : SameFrame c c') (e : Nat) : ruleIdOf c' e = ruleIdOf c e := by
  unfold ruleIdOf
  rw [h.tableEntries]

theorem Added.slot_withNext (h : Added c c' r p e ip i) {x : Nat} (hx : x ≠ e) :
    c'.slot x = (c.slot x).withNext (if p ≠ 0 ∧ x = p then e else (c.slot x).nextIndex) := by
  split
  · rename_i hp
    rw [hp.2, h.slot_prev hp.1]
  · rename_i hp
    exact h.slot_other x hx (by tauto)

theorem Added.index_withNext (h : Added c c' r p e ip i) {x : Nat} (hx : x ≠ i) :
    c'.indexSlot x =
      (c.indexSlot x).withNext (if ip ≠ 0 ∧ x = ip then i else (c.indexSlot x).nextIndex) := by
  split
  · rename_i hp
    rw [hp.2, h.index_prev hp.1]
  · rename_i hp
    exact h.index_other x hx (by tauto)

theorem Added.occupied_iff (h : Added c c' r p e ip i) (he : e < c.total) {x : Nat} :
    (ruleLinks c').occupied x ↔ x = e ∨ (ruleLinks c).occupied x := by
  by_cases hx : x = e
  · subst hx
    simp only [ruleLinks, h.frame.total_eq, h.slot_self, he, true_and, true_or]
  · simp only [ruleLinks, h.frame.total_eq, h.slot_withNext hx, hx, false_or, NatRule.withNext]

theorem Added.index_occupied_iff (h : Added c c' r p e ip i) (he : e ≠ 0) (hi : i < c.total)
    {x : Nat} : (indexLinks c').occupied x ↔ x = i ∨ (indexLinks c).occupied x := by
  by_cases hx : x = i
  · subst hx
    simp only [indexLinks, h.frame.total_eq, h.index_self, hi, he, true_and, true_or, ne_eq,
      not_false_eq_true]
  · simp only [indexLinks, h.frame.total_eq, h.index_withNext hx, hx, false_or,
      IndxTblRule.withNext]

theorem Added.live_iff (h : Added c c' r p e ip i) (he : e < c.total)
    (hproto : r.protocol ≠ invalidProtoFieldCmp) {x : Nat} :
    Live c' x ↔ x = e ∨ Live c x := by
  by_cases hx : x = e
  · subst hx
    simp only [Live, h.occupied_iff he, h.slot_self, swRuleOf, hproto, true_or, ne_eq,
      not_false_eq_true, and_self]
  · simp only [Live, h.occupied_iff he, h.slot_withNext hx, hx, false_or, NatRule.withNext]

theorem Added.rules {home rank : Nat → Nat} (h : Added c c' r p e ip i) {b : Nat}
    (hrules : WellLinked c.tableEntries c.total (ruleLinks c) home rank)
    (hb : 0 < b) (hbN : b < c.tableEntries)
    (hf : (ruleLinks c).Fresh c.tableEntries c.total home b p e) :
    ∃ rank',
      WellLinked c'.tableEntries c'.total (ruleLinks c') (Function.update home e b) rank' := by
  obtain ⟨rank', hw⟩ := hrules.insert hb hbN (Nat.le_add_right _ _) hf
  have he : e < c.total := hf.lt_total (lt_total hbN)
  refine ⟨rank', ?_⟩
  rw [h.frame.tableEntries, h.frame.total_eq]
  refine hw.congr (fun x => (h.occupied_iff he).trans Links.insert_occupied.symm) ?_ ?_
  · intro x hx
    by_cases hxe : x = e
    · subst hxe
      rw [Links.insert_next_self]
      simp only [ruleLinks, h.slot_self, swRuleOf]
    · simp only [ruleLinks, h.slot_withNext hxe, NatRule.withNext]
      by_cases hp : p = 0
      · subst hp
        simp [Links.insert_zero_next hxe]
      · simp [Links.insert_next hp hxe, hp]
  · intro x hx hN
    by_cases hxe : x = e
    · subst hxe
      have hp : p ≠ 0 := by
        rcases hf with ⟨_, rfl, _⟩ | ⟨hp, _⟩
        · omega
        · exact hp
      rw [Links.insert_prev_self hp]
      simp only [ruleLinks, h.slot_self]
    · rw [Links.insert_prev hxe]
      simp only [ruleLinks, h.slot_withNext hxe, NatRule.withNext]

theorem Added.index {home rank : Nat → Nat} (h : Added c c' r p e ip i) {b : Nat}
    (hindex : WellLinked c.tableEntries c.total (indexLinks c) home rank) (he : e ≠ 0)
    (hb : 0 < b) (hbN : b < c.tableEntries)
    (hf : (indexLinks c).Fresh c.tableEntries c.total home b ip i) :
    ∃ rank', WellLinked c'.tableEntries c'.total (indexLinks c') (Function.update home i b)
      rank' := by
  obtain ⟨rank', hw⟩ := hindex.insert hb hbN (Nat.le_add_right _ _) hf
  have hi : i < c.total := hf.lt_total (lt_total hbN)
  refine ⟨rank', ?_⟩
  rw [h.frame.tableEntries, h.frame.total_eq]
  refine hw.congr (fun x => (h.index_occupied_iff he hi).trans Links.insert_occupied.symm) ?_ ?_
  · intro x hx
    by_cases hxi : x = i
    · subst hxi
      rw [Links.insert_next_self]
      simp only [indexLinks, h.index_self]
    · simp only [indexLinks, h.index_withNext hxi, IndxTblRule.withNext]
      by_cases hp : ip = 0
      · subst hp
        simp [Links.insert_zero_next hxi]
      · simp [Links.insert_next hp hxi, hp]
  · intro x hx hN
    by_cases hxi : x = i
    · subst hxi
      have hp : ip ≠ 0 := by
        rcases hf with ⟨_, rfl, _⟩ | ⟨hp, _⟩
        · omega
        · exact hp
      rw [Links.insert_prev_self hp]
      exact h.prev_self hN
    · rw [Links.insert_prev hxi]
      exact h.prev_other x hN hxi

theorem Added.linkInv {home rank ihome irank : Nat → Nat} (h : Added c c' r p e ip i)
    (hinv : LinkInv c home rank ihome irank) (hproto : r.protocol ≠ invalidProtoFieldCmp)
    (hf : (ruleLinks c).Fresh c.tableEntries c.total home (dstSlot c r) p e)
    (hfi : (indexLinks c).Fresh c.tableEntries c.total ihome (srcSlot c r) ip i) :
    ∃ rank' irank', LinkInv c' (Function.update home e (dstSlot c r)) rank'
      (Function.update ihome i (srcSlot c r)) irank' := by
  obtain ⟨hd0, hdN⟩ := hinv.dims.dstSlot_mem r
  obtain ⟨hs0, hsN⟩ := hinv.dims.srcSlot_mem r
  have he : e < c.total := hf.lt_total (lt_total hdN)
  have he0 : e ≠ 0 := (hf.pos hd0).ne'
  have hi : i < c.total := hfi.lt_total (lt_total hsN)
  obtain ⟨rank', hrules⟩ := h.rules hinv.rules hd0 hdN hf
  obtain ⟨irank', hindex⟩ := h.index hinv.index he0 hs0 hsN hfi
  refine ⟨rank', irank', hinv.dims.of_sameFrame h.frame, hrules, hindex, ?_, ?_, ?_, ?_⟩
  · intro x hx hdead
    rw [h.frame.tableEntries]
    by_cases hxe : x = e
    · subst hxe
      rw [h.slot_self] at hdead
      exact absurd hdead hproto
    · rw [h.slot_withNext hxe] at hdead ⊢
      have hxo := ((h.occupied_iff he).mp hx).resolve_left hxe
      obtain ⟨hxN, hne⟩ := hinv.dead_head x hxo hdead
      refine ⟨hxN, ?_⟩
      simp only [NatRule.withNext]
      split <;> assumption
  · intro x hx
    rw [h.frame.dstSlot_eq]
    by_cases hxe : x = e
    · subst hxe
      rw [h.slot_self, Function.update_self]
      rfl
    · rw [h.slot_withNext hxe, Function.update_of_ne hxe]
      exact hinv.dst_home x (((h.live_iff he hproto).mp hx).resolve_left hxe)
  · intro x hx
    by_cases hxe : x = e
    · subst hxe
      rw [h.slot_self]
      exact ⟨(h.index_occupied_iff he0 hi).mpr (Or.inl rfl), by rw [h.index_self]⟩
    · obtain ⟨hio, hie⟩ := hinv.index_of_rule x
        (((h.live_iff he hproto).mp hx).resolve_left hxe)
      have hne : (c.slot x).indxTblEntry ≠ i := fun heq => hfi.not_occupied (heq ▸ hio)
      rw [h.slot_withNext hxe]
      refine ⟨(h.index_occupied_iff he0 hi).mpr (Or.inr hio), ?_⟩
      change (c'.indexSlot (c.slot x).indxTblEntry).tblEntry = x
      rw [h.index_withNext hne]
      exact hie
  · intro x hx
    by_cases hxi : x = i
    · subst hxi
      rw [h.index_self, h.frame.srcSlot_eq, Function.update_self]
      refine ⟨(h.live_iff he hproto).mpr (Or.inl rfl), ?_⟩
      simp only [h.slot_self]
      exact ⟨trivial, rfl⟩
    · obtain ⟨hl, hx1, hx2⟩ := hinv.rule_of_index x
        (((h.index_occupied_iff he0 hi).mp hx).resolve_left hxi)
      have hne : (c.indexSlot x).tblEntry ≠ e := fun heq => hf.not_occupied (heq ▸ hl.1)
      rw [h.index_withNext hxi, h.frame.srcSlot_eq, Function.update_of_ne hxi]
      refine ⟨(h.live_iff he hproto).mpr (Or.inr hl), ?_⟩
      simp only [IndxTblRule.withNext, h.slot_withNext hne]
      exact ⟨hx1, hx2⟩

end

/-- The predecessor's forward link, written unless the new entry heads a chain. -/
def linkSlot (c : Ip4TableCache) (p e : Nat) : Ip4TableCache :=
  if p = 0 then c else c.modifySlot p (·.withNext e)

def linkIndexSlot (c : Ip4TableCache) (p i : Nat) : Ip4TableCache :=
  if p = 0 then c else c.modifyIndexSlot p (·.withNext i)

section

variable {c : Ip4TableCache} (hd : Dims c)

include hd

theorem copyIpv4RuleToHw_eq (rule : NatRule) {e : Nat} (he : e < c.total)
    (hp : rule.prevIndex < c.total) :
    copyIpv4RuleToHw c true rule e =
      linkSlot (c.modifySlot e fun _ => rule) rule.prevIndex e := by
  have hcopy : (if e < c.tableEntries then
        c.setRules false (Function.update c.ipv4Rules e rule)
      else c.setRules true (Function.update c.ipv4ExpnRules (subU16 e c.tableEntries) rule)) =
      c.modifySlot e fun _ => rule := by
    unfold modifySlot
    split
    · rfl
    · rename_i hN
      rw [hd.subU16_base (Nat.le_of_not_lt hN) he]
      rfl
  have hs := modifySlot_sameFrame c e fun _ => rule
  have hd' := hd.of_sameFrame hs
  unfold copyIpv4RuleToHw linkSlot
  dsimp only
  rw [hcopy]
  split
  · rfl
  · rw [← hs.total_eq] at hp
    rw [← dmaOne_ruleNextCmd hd' (SameFrame.refl _) hp]
    unfold ruleNextCmd writeNextIndex
    split
    · rename_i hN
      rw [if_neg (Nat.not_le.mpr hN)]
      rfl
    · rename_i hN
      rw [if_pos (Nat.le_of_not_lt hN)]
      rfl

theorem Dims.indexOffset {k : Nat} (hk : k < 16384) :
    u16 (u16 (getIndexEntryOffset c k) + indexRuleNextFieldOffset) =
      u32 (getIndexEntryOffset c k + indexRuleNextFieldOffset) := by
  unfold getIndexEntryOffset indexTableEntrySize indexRuleNextFieldOffset u16 u32
  rw [hd.offset]
  omega

theorem copyIpv4IndexRuleToHw_eq (swRule : IndxTblSwRule) {i : Nat} (hi : i < c.total)
    (hp : swRule.prevIndex < c.total) :
    copyIpv4IndexRuleToHw c true swRule i =
      linkIndexSlot (c.modifyIndexSlot i fun _ => ⟨swRule.tblEntry, swRule.nextIndex⟩)
        swRule.prevIndex i := by
  have hcopy : (if i < c.tableEntries then
        c.setIndexRules false
          (Function.update c.indexTable i ⟨swRule.tblEntry, swRule.nextIndex⟩)
      else c.setIndexRules true
        (Function.update c.indexTableExpn (subU16 i c.tableEntries)
          ⟨swRule.tblEntry, swRule.nextIndex⟩)) =
      c.modifyIndexSlot i fun _ => ⟨swRule.tblEntry, swRule.nextIndex⟩ := by
    unfold modifyIndexSlot
    split
    · rfl
    · rename_i hN
      rw [hd.subU16_base (Nat.le_of_not_lt hN) hi]
      rfl
  have hs := modifyIndexSlot_sameFrame c i fun _ => ⟨swRule.tblEntry, swRule.nextIndex⟩
  have hd' := hd.of_sameFrame hs
  unfold copyIpv4IndexRuleToHw linkIndexSlot
  dsimp only
  rw [hcopy]
  split
  · rfl
  · rw [← hs.total_eq] at hp
    rw [← dmaOne_indexNextCmd hd' (SameFrame.refl _) hp]
    unfold indexNextCmd writeNextIndex
    have hbase := hd'.base_le
    have hexpn := hd'.expn_le
    split
    · rename_i hN
      rw [if_neg (Nat.not_le.mpr hN), hd'.indexOffset (by omega)]
      rfl
    · rename_i hN
      have hN := Nat.le_of_not_lt hN
      have hlt : subU16 swRule.prevIndex
          (c.modifyIndexSlot i fun _ => ⟨swRule.tblEntry, swRule.nextIndex⟩).tableEntries <
            16384 := by
        rw [hd'.subU16_base hN hp]
        unfold total at hp
        omega
      rw [if_pos hN, hd'.indexOffset hlt]
      rfl

end

theorem linkSlot_sameFrame (c : Ip4TableCache) (p e : Nat) : SameFrame c (linkSlot c p e) := by
  unfold linkSlot
  split
  · exact SameFrame.refl c
  · exact modifySlot_sameFrame ..

theorem linkIndexSlot_sameFrame (c : Ip4TableCache) (p i : Nat) :
    SameFrame c (linkIndexSlot c p i) := by
  unfold linkIndexSlot
  split
  · exact SameFrame.refl c
  · exact modifyIndexSlot_sameFrame ..

theorem linkSlot_slot (c : Ip4TableCache) {p e : Nat} (x : Nat) :
    (linkSlot c p e).slot x = if p ≠ 0 ∧ x = p then (c.slot p).withNext e else c.slot x := by
  unfold linkSlot
  split
  · rename_i hp
    simp [hp]
  · rename_i hp
    simp [hp, Function.update_apply]

theorem linkIndexSlot_indexSlot (c : Ip4TableCache) {p i : Nat} (x : Nat) :
    (linkIndexSlot c p i).indexSlot x =
      if p ≠ 0 ∧ x = p then (c.indexSlot p).withNext i else c.indexSlot x := by
  unfold linkIndexSlot
  split
  · rename_i hp
    simp [hp]
  · rename_i hp
    simp [hp, Function.update_apply]

@[simp] theorem linkSlot_indexSlot (c : Ip4TableCache) (p e : Nat) :
    (linkSlot c p e).indexSlot = c.indexSlot := by
  unfold linkSlot
  split <;> simp

@[simp] theorem linkIndexSlot_slot (c : Ip4TableCache) (p i : Nat) :
    (linkIndexSlot c p i).slot = c.slot := by
  unfold linkIndexSlot
  split <;> simp

@[simp] theorem linkSlot_meta (c : Ip4TableCache) (p e : Nat) :
    (linkSlot c p e).indexExpnTableMeta = c.indexExpnTableMeta := by
  unfold linkSlot
  split <;> simp

@[simp] theorem linkIndexSlot_meta (c : Ip4TableCache) (p i : Nat) :
    (linkIndexSlot c p i).indexExpnTableMeta = c.indexExpnTableMeta := by
  unfold linkIndexSlot
  split <;> simp

@[simp] theorem linkSlot_ruleIdArray (c : Ip4TableCache) (p e : Nat) :
    (linkSlot c p e).ruleIdArray = c.ruleIdArray := by
  unfold linkSlot
  split <;> simp

@[simp] theorem linkIndexSlot_ruleIdArray (c : Ip4TableCache) (p i : Nat) :
    (linkIndexSlot c p i).ruleIdArray = c.ruleIdArray := by
  unfold linkIndexSlot
  split <;> simp

/-- The predecessor of an expansion index entry is kept beside the table. -/
def recordPrev (c : Ip4TableCache) (i ip : Nat) : Ip4TableCache :=
  if c.tableEntries ≤ i then
    { c with
      indexExpnTableMeta := Function.update c.indexExpnTableMeta (subU16 i c.tableEntries) ip }
  else c

theorem recordPrev_sameFrame (c : Ip4TableCache) (i ip : Nat) :
    SameFrame c (recordPrev c i ip) := by
  unfold recordPrev
  split <;> exact ⟨rfl, rfl, rfl, rfl, rfl⟩

@[simp] theorem recordPrev_slot (c : Ip4TableCache) (i ip : Nat) :
    (recordPrev c i ip).slot = c.slot := by
  unfold recordPrev
  split <;> rfl

@[simp] theorem recordPrev_indexSlot (c : Ip4TableCache) (i ip : Nat) :
    (recordPrev c i ip).indexSlot = c.indexSlot := by
  unfold recordPrev
  split <;> rfl

@[simp] theorem recordPrev_ruleIdArray (c : Ip4TableCache) (i ip : Nat) :
    (recordPrev c i ip).ruleIdArray = c.ruleIdArray := by
  unfold recordPrev
  split <;> rfl

/-- The table before the enable command of an addition. -/
def placed (c : Ip4TableCache) (r : Ipv4Rule) (p e ip i : Nat) : Ip4TableCache :=
  let c := linkSlot
    ((recordPrev c i ip).modifySlot e fun _ =>
      { swRuleOf c r with prevIndex := p, indxTblEntry := i }) p e
  linkIndexSlot (c.modifyIndexSlot i fun _ => ⟨e, 0⟩) ip i

theorem placed_sameFrame (c : Ip4TableCache) (r : Ipv4Rule) (p e ip i : Nat) :
    SameFrame c (placed c r p e ip i) :=
  (recordPrev_sameFrame c i ip).trans <|
    (modifySlot_sameFrame ..).trans <| (linkSlot_sameFrame ..).trans <|
    (modifyIndexSlot_sameFrame ..).trans (linkIndexSlot_sameFrame ..)

@[simp] theorem placed_ruleIdArray (c : Ip4TableCache) (r : Ipv4Rule) (p e ip i : Nat) :
    (placed c r p e ip i).ruleIdArray = c.ruleIdArray := by
  simp [placed]

@[simp] theorem placed_meta (c : Ip4TableCache) (r : Ipv4Rule) (p e ip i : Nat) :
    (placed c r p e ip i).indexExpnTableMeta = (recordPrev c i ip).indexExpnTableMeta := by
  simp [placed]

section

variable {c : Ip4TableCache} {home rank ihome irank : Nat → Nat} {r : Ipv4Rule} {p e ip i : Nat}

theorem Links.Fresh.prev_ne {N T : Nat} {L : Links} {b : Nat} (hf : L.Fresh N T home b p e) :
    p ≠ 0 → p ≠ e := by
  rcases hf with ⟨rfl, _⟩ | ⟨_, hp, _, _, _, _, hfree⟩
  · exact fun h => absurd rfl h
  · rintro _ rfl
    exact hfree hp

theorem added_placed (hp : p ≠ 0 → p ≠ e) (hip : ip ≠ 0 → ip ≠ i) (hi : i < c.total)
    (hd : Dims c) : Added c ((placed c r p e ip i).modifySlot e NatRule.enabled) r p e ip i where
  frame := (placed_sameFrame ..).trans (modifySlot_sameFrame ..)
  slot_self := by
    have hne : ¬ (p ≠ 0 ∧ e = p) := fun h => hp h.1 h.2.symm
    simp only [placed, slot_modifySlot, linkIndexSlot_slot, slot_modifyIndexSlot,
      linkSlot_slot, Function.update_self, if_neg hne]
    rfl
  slot_prev := by
    intro hp0
    simp [placed, linkSlot_slot, hp hp0, hp0]
  slot_other := by
    intro x hx hxp
    have hne : ¬ (p ≠ 0 ∧ x = p) := by tauto
    simp only [placed, slot_modifySlot, linkIndexSlot_slot, slot_modifyIndexSlot,
      linkSlot_slot, if_neg hne, Function.update_of_ne hx, recordPrev_slot]
  index_self := by
    have hne : ¬ (ip ≠ 0 ∧ i = ip) := fun h => hip h.1 h.2.symm
    simp only [placed, indexSlot_modifySlot, linkIndexSlot_indexSlot, if_neg hne,
      indexSlot_modifyIndexSlot, Function.update_self]
  index_prev := by
    intro hp0
    simp [placed, linkIndexSlot_indexSlot, hip hp0, hp0]
  index_other := by
    intro x hx hxp
    have hne : ¬ (ip ≠ 0 ∧ x = ip) := by tauto
    simp only [placed, indexSlot_modifySlot, linkIndexSlot_indexSlot, if_neg hne,
      indexSlot_modifyIndexSlot, Function.update_of_ne hx, linkSlot_indexSlot,
      recordPrev_indexSlot]
  prev_self := by
    intro hN
    have hframe := (placed_sameFrame c r p e ip i).trans (modifySlot_sameFrame _ e NatRule.enabled)
    simp only [indexPrev, hframe.tableEntries, indexExpnTableMeta_modifySlot, placed_meta,
      recordPrev, if_pos hN, hd.subU16_base hN hi, Function.update_self]
  prev_other := by
    intro x hNx hx
    have hframe := (placed_sameFrame c r p e ip i).trans (modifySlot_sameFrame _ e NatRule.enabled)
    simp only [indexPrev, hframe.tableEntries, indexExpnTableMeta_modifySlot, placed_meta,
      recordPrev]
    split
    · rename_i hN
      have hne : x - c.tableEntries ≠ i - c.tableEntries := by omega
      simp only [hd.subU16_base hN hi, Function.update_of_ne hne]
    · rfl

theorem natiAddIpv4Rule_full (h : LinkInv c home rank ihome irank) (dma : AddDma)
    (hfull : DstFull c r ∨ SrcFull c r) :
    natiAddIpv4Rule c dma r = some (.error .einval, c) := by
  obtain ⟨p, e, hgen, he, _⟩ := generateTblRule_spec h r
  obtain ⟨ip, i, higen, hi, _⟩ := generateIndexRule_spec h r
  have hnone : generateRule c r = some none := by
    unfold generateRule
    rw [hgen, higen]
    by_cases he0 : e = 0
    · simp [he0]
    · have hi0 : i = 0 := hi.mpr (hfull.resolve_left fun hd => he0 (he.mpr hd))
      simp [hi0]
  unfold natiAddIpv4Rule
  rw [hnone]
  rfl

theorem natiAddIpv4Rule_placed (h : LinkInv c home rank ihome irank)
    (hdst : ¬ DstFull c r) (hsrc : ¬ SrcFull c r) :
    ∃ p e ip i, (ruleLinks c).Fresh c.tableEntries c.total home (dstSlot c r) p e ∧
      (indexLinks c).Fresh c.tableEntries c.total ihome (srcSlot c r) ip i ∧
      ∀ ok, natiAddIpv4Rule c ⟨true, true, ok⟩ r =
        some (match postIpv4DmaCmd (placed c r p e ip i) ok e with
          | (.error _, c) => (.error .eio, c)
          | (.ok _, c) =>
            match makeRuleHdl c e with
            | (0, c) => (.error .einval, c)
            | (ruleHdl, c) => (.ok ruleHdl, c)) := by
  obtain ⟨p, e, hgen, he, hf⟩ := generateTblRule_spec h r
  obtain ⟨ip, i, higen, hi, hfi⟩ := generateIndexRule_spec h r
  have he0 : e ≠ 0 := fun h0 => hdst (he.mp h0)
  have hi0 : i ≠ 0 := fun h0 => hsrc (hi.mp h0)
  have hf := hf he0
  have hfi := hfi hi0
  have heT : e < c.total := hf.lt_total (lt_total (h.dims.dstSlot_mem r).2)
  have hiT : i < c.total := hfi.lt_total (lt_total (h.dims.srcSlot_mem r).2)
  have hpT : p < c.total := by
    rcases hf with ⟨rfl, _⟩ | ⟨_, hp, _⟩
    · omega
    · exact hp.1
  have hipT : ip < c.total := by
    rcases hfi with ⟨rfl, _⟩ | ⟨_, hp, _⟩
    · omega
    · exact hp.1
  refine ⟨p, e, ip, i, hf, hfi, fun ok => ?_⟩
  have hgenr : generateRule c r = some (some
      (⟨{ swRuleOf c r with prevIndex := p, indxTblEntry := i }, ⟨e, 0, ip⟩, e, i⟩,
        recordPrev c i ip)) := by
    unfold generateRule recordPrev
    simp [hgen, higen, he0, hi0]
  have hs1 := recordPrev_sameFrame c i ip
  have hs2 := hs1.trans <| (modifySlot_sameFrame (recordPrev c i ip) e fun _ =>
    { swRuleOf c r with prevIndex := p, indxTblEntry := i }).trans (linkSlot_sameFrame _ p e)
  have hcopy := copyIpv4RuleToHw_eq (h.dims.of_sameFrame hs1)
    { swRuleOf c r with prevIndex := p, indxTblEntry := i } (hs1.total_eq ▸ heT)
    (hs1.total_eq ▸ hpT)
  have hicopy := copyIpv4IndexRuleToHw_eq (h.dims.of_sameFrame hs2) ⟨e, 0, ip⟩
    (hs2.total_eq ▸ hiT) (hs2.total_eq ▸ hipT)
  unfold natiAddIpv4Rule
  rw [hgenr]
  simp only [Option.map_some, hcopy, hicopy]
  rfl

end

end LibraDevice.IpaNat
