import LibraDevice.IpaNat.AddRule

/-!
The rule part of a deletion. The commands and the software fix-ups of
`ipa_nati_post_del_dma_cmd` on the rule tables are read off slot by slot, and so
is the sweep of `ipa_nati_del_dead_ipv4_head_nodes`.
-/

namespace LibraDevice.IpaNat

open LinkedChains Ip4TableCache

/-- Table and entry of a slot, as the handles encode them. -/
def entryOf (c : Ip4TableCache) (e : Nat) : Bool × Nat :=
  if c.tableEntries ≤ e then (true, e - c.tableEntries) else (false, e)

/-- The rule part of a deletion: a base slot is cleared or, with successors,
kept as a dead head; an expansion slot is unlinked. -/
def dropRule (c : Ip4TableCache) (e : Nat) : Ip4TableCache :=
  if e < c.tableEntries then
    if (c.slot e).nextIndex = 0 then c.modifySlot e fun _ => NatRule.zeroed
    else c.modifySlot e NatRule.deadHead
  else
    let p := (c.slot e).prevIndex
    let n := (c.slot e).nextIndex
    let c := c.modifySlot p (·.withNext n)
    let c := if n = 0 then c else c.modifySlot n (·.updatePrevIndx p)
    c.modifySlot e fun _ => NatRule.zeroed

section

variable {c : Ip4TableCache} {e : Nat}

theorem entryOf_of_le (h : c.tableEntries ≤ e) : entryOf c e = (true, e - c.tableEntries) :=
  if_pos h

theorem entryOf_of_lt (h : e < c.tableEntries) : entryOf c e = (false, e) :=
  if_neg (Nat.not_le.mpr h)

theorem rules_entryOf (c : Ip4TableCache) (e : Nat) :
    c.rules (entryOf c e).1 (entryOf c e).2 = c.slot e := by
  unfold entryOf slot
  split
  · rename_i h
    rw [if_neg (Nat.not_lt.mpr h)]
    rfl
  · rename_i h
    rw [if_pos (Nat.lt_of_not_le h)]
    rfl

theorem indexRules_entryOf (c : Ip4TableCache) (i : Nat) :
    c.indexRules (entryOf c i).1 (entryOf c i).2 = c.indexSlot i := by
  unfold entryOf indexSlot
  split
  · rename_i h
    rw [if_neg (Nat.not_lt.mpr h)]
    rfl
  · rename_i h
    rw [if_pos (Nat.lt_of_not_le h)]
    rfl

theorem setRules_entryOf (c : Ip4TableCache) (e : Nat) (f : NatRule → NatRule) :
    c.setRules (entryOf c e).1 (Function.update (c.rules (entryOf c e).1) (entryOf c e).2
      (f (c.rules (entryOf c e).1 (entryOf c e).2))) = c.modifySlot e f := by
  unfold entryOf modifySlot
  split
  · rename_i h
    rw [if_neg (Nat.not_lt.mpr h)]
    rfl
  · rename_i h
    rw [if_pos (Nat.lt_of_not_le h)]
    rfl

theorem SameFrame.entryOf_eq {c' : Ip4TableCache} (h : SameFrame c c') (e : Nat) :
    entryOf c' e = entryOf c e := by
  unfold entryOf
  rw [h.tableEntries]

theorem modifySlot_modifySlot (c : Ip4TableCache) (e : Nat) (f g : NatRule → NatRule) :
    (c.modifySlot e f).modifySlot e g = c.modifySlot e fun r => g (f r) := by
  unfold modifySlot
  split <;> simp_all

theorem findRulePos_entryOf (c : Ip4TableCache) (e : Nat) :
    findRulePos c (entryOf c e).1 (entryOf c e).2 =
      if e < c.tableEntries then if (c.slot e).nextIndex = 0 then .onlyOne else .head
      else if (c.slot e).nextIndex = 0 then .last else .middle := by
  unfold findRulePos
  rw [rules_entryOf]
  by_cases hN : c.tableEntries ≤ e
  · rw [entryOf_of_le hN, if_neg (Nat.not_lt.mpr hN)]
    by_cases hn : (c.slot e).nextIndex = 0 <;> simp [hn]
  · rw [entryOf_of_lt (Nat.lt_of_not_le hN), if_pos (Nat.lt_of_not_le hN)]
    by_cases hn : (c.slot e).nextIndex = 0 <;> simp [hn]

theorem delRuleFixup_middle (hd : Dims c) {p n : Nat} (hN : c.tableEntries ≤ e)
    (hp : (c.slot e).prevIndex = p) (hn : (c.slot e).nextIndex = n)
    (hnN : c.tableEntries ≤ n) (hnT : n < c.total) :
    delRuleFixup c true (entryOf c e).2 .middle =
      (c.modifySlot n (·.updatePrevIndx p)).modifySlot e fun _ => NatRule.zeroed := by
  have hcur : c.rules true (e - c.tableEntries) = c.slot e := (slot_of_le hN).symm
  have hmod : { c with
      ipv4ExpnRules := Function.update c.ipv4ExpnRules (n - c.tableEntries)
        ((c.ipv4ExpnRules (n - c.tableEntries)).updatePrevIndx p) } =
      c.modifySlot n (·.updatePrevIndx p) := by
    unfold modifySlot
    rw [if_neg (Nat.not_lt.mpr hnN)]
  have hset := setRules_entryOf (c.modifySlot n (·.updatePrevIndx p)) e fun _ => NatRule.zeroed
  rw [(modifySlot_sameFrame ..).entryOf_eq, entryOf_of_le hN] at hset
  rw [← hset, ← hmod]
  simp only [delRuleFixup, hcur, hp, hn, hd.subU16_base hnN hnT, entryOf_of_le hN]
  rfl

/-- The commands and fix-ups of the rule part, on a table `c'` that the index
commands have been applied to. -/
theorem delRuleFixup_eq {c' : Ip4TableCache} (hd : Dims c) (hs : SameFrame c c')
    (hslot : c'.slot = c.slot)
    (hp : c.tableEntries ≤ e → (c.slot e).prevIndex < c.total ∧ (c.slot e).prevIndex ≠ e)
    (hn : (c.slot e).nextIndex ≠ 0 → c.tableEntries ≤ (c.slot e).nextIndex ∧
      (c.slot e).nextIndex < c.total) :
    delRuleFixup
        (c'.dmaOne (delRuleCmd c (entryOf c e).1 (entryOf c e).2
          (findRulePos c (entryOf c e).1 (entryOf c e).2)))
        (entryOf c e).1 (entryOf c e).2 (findRulePos c (entryOf c e).1 (entryOf c e).2) =
      dropRule c' e := by
  rw [findRulePos_entryOf]
  unfold dropRule
  rw [hslot, hs.tableEntries]
  split
  · rename_i hN
    have hN' : e < c'.tableEntries := by rw [hs.tableEntries]; exact hN
    have hT : e < c.total := Nat.lt_of_lt_of_le hN (Nat.le_add_right ..)
    have hent := entryOf_of_lt hN
    split
    · -- the rule is alone in its base slot
      have hcmd : c'.dmaOne (delRuleCmd c (entryOf c e).1 (entryOf c e).2 .onlyOne) =
          c'.modifySlot e NatRule.disabled := by
        simp only [delRuleCmd, hent]
        rw [hd.entryOffset hT (by decide), dmaOne_baseTbl _ _ hN' (by decide)]
        rfl
      rw [hcmd, hent]
      change (c'.modifySlot e NatRule.disabled).setRules false _ = _
      have hset := setRules_entryOf (c'.modifySlot e NatRule.disabled) e fun _ => NatRule.zeroed
      rw [(hs.trans (modifySlot_sameFrame ..)).entryOf_eq, hent] at hset
      rw [hset, modifySlot_modifySlot]
    · -- the rule heads a chain
      simp only [delRuleCmd, hent, delRuleFixup]
      rw [hd.entryOffset hT (by decide), dmaOne_baseTbl _ _ hN' (by decide)]
      rfl
  · rename_i hN
    have hN : c.tableEntries ≤ e := Nat.le_of_not_lt hN
    have hent := entryOf_of_le hN
    obtain ⟨hpT, hpe⟩ := hp hN
    split
    · -- the last rule of a chain
      rename_i hz
      have hcmd : c'.dmaOne (delRuleCmd c (entryOf c e).1 (entryOf c e).2 .last) =
          c'.modifySlot (c.slot e).prevIndex (·.withNext 0) := by
        simp only [delRuleCmd, rules_entryOf]
        exact dmaOne_ruleNextCmd hd hs hpT 0
      rw [hcmd, hz, hent]
      change (c'.modifySlot (c.slot e).prevIndex (·.withNext 0)).setRules true _ = _
      have hset := setRules_entryOf (c'.modifySlot (c.slot e).prevIndex (·.withNext 0)) e
        fun _ => NatRule.zeroed
      rw [(hs.trans (modifySlot_sameFrame ..)).entryOf_eq, hent] at hset
      rw [hset]
      rfl
    · -- a rule in the middle of a chain
      rename_i hz
      obtain ⟨hnN, hnT⟩ := hn hz
      have hcmd : c'.dmaOne (delRuleCmd c (entryOf c e).1 (entryOf c e).2 .middle) =
          c'.modifySlot (c.slot e).prevIndex (·.withNext (c.slot e).nextIndex) := by
        simp only [delRuleCmd, rules_entryOf]
        exact dmaOne_ruleNextCmd hd hs hpT _
      rw [hcmd]
      have hs' := hs.trans (modifySlot_sameFrame c' (c.slot e).prevIndex
        (·.withNext (c.slot e).nextIndex))
      have hcur : (c'.modifySlot (c.slot e).prevIndex
          (·.withNext (c.slot e).nextIndex)).slot e = c.slot e := by
        rw [slot_modifySlot, Function.update_of_ne hpe.symm, hslot]
      have hN' := hN
      rw [← hs'.tableEntries] at hN'
      have hfix := delRuleFixup_middle (hd.of_sameFrame hs') hN' (by rw [hcur]) (by rw [hcur])
        (by rw [hs'.tableEntries]; exact hnN) (by rw [hs'.total_eq]; exact hnT)
      rw [hs'.entryOf_eq] at hfix
      rw [hent] at hfix ⊢
      simp only [if_neg hz]
      exact hfix

end

/-- A rule without its chain links. -/
def NatRule.body (r : NatRule) : NatRule := { r with nextIndex := 0, prevIndex := 0 }

theorem NatRule.of_body_eq {r s : NatRule} (h : r.body = s.body) :
    r.client = s.client ∧ r.enable = s.enable ∧ r.protocol = s.protocol ∧
      r.indxTblEntry = s.indxTblEntry := by
  have hc : r.body.client = s.body.client := by rw [h]
  have he : r.body.enable = s.body.enable := by rw [h]
  have hp : r.body.protocol = s.body.protocol := by rw [h]
  have hi : r.body.indxTblEntry = s.body.indxTblEntry := by rw [h]
  exact ⟨hc, he, hp, hi⟩

section

variable {c : Ip4TableCache} {home rank : Nat → Nat} {e : Nat}

theorem dropRule_sameFrame (c : Ip4TableCache) (e : Nat) : SameFrame c (dropRule c e) := by
  unfold dropRule
  split
  · split <;> exact modifySlot_sameFrame ..
  · dsimp only
    split
    · exact (modifySlot_sameFrame ..).trans (modifySlot_sameFrame ..)
    · exact (modifySlot_sameFrame ..).trans <|
        (modifySlot_sameFrame ..).trans (modifySlot_sameFrame ..)

@[simp] theorem dropRule_indexSlot (c : Ip4TableCache) (e : Nat) :
    (dropRule c e).indexSlot = c.indexSlot := by
  unfold dropRule
  split
  · split <;> simp
  · dsimp only
    split <;> simp

@[simp] theorem dropRule_meta (c : Ip4TableCache) (e : Nat) :
    (dropRule c e).indexExpnTableMeta = c.indexExpnTableMeta := by
  unfold dropRule
  split
  · split <;> simp
  · dsimp only
    split <;> simp

@[simp] theorem dropRule_ruleIdArray (c : Ip4TableCache) (e : Nat) :
    (dropRule c e).ruleIdArray = c.ruleIdArray := by
  unfold dropRule
  split
  · split <;> simp
  · dsimp only
    split <;> simp

/-- A base slot with successors keeps its place as a dead head. -/
def KeptAsHead (c : Ip4TableCache) (e : Nat) : Prop :=
  e < c.tableEntries ∧ (c.slot e).nextIndex ≠ 0

theorem dropRule_self (c : Ip4TableCache) (e : Nat) :
    (KeptAsHead c e ∧ (dropRule c e).slot e = (c.slot e).deadHead) ∨
      (¬ KeptAsHead c e ∧ (dropRule c e).slot e = NatRule.zeroed) := by
  unfold dropRule KeptAsHead
  split
  · split
    · right
      simp_all
    · left
      simp_all
  · right
    dsimp only
    split <;> simp_all

theorem dropRule_slot_of_ne {x : Nat} (hx : x ≠ e) :
    ((dropRule c e).slot x).body = (c.slot x).body ∧
      ((dropRule c e).slot x).nextIndex =
        (if c.tableEntries ≤ e ∧ x = (c.slot e).prevIndex then (c.slot e).nextIndex
          else (c.slot x).nextIndex) ∧
      ((dropRule c e).slot x).prevIndex =
        (if c.tableEntries ≤ e ∧ (c.slot e).nextIndex ≠ 0 ∧ x = (c.slot e).nextIndex then
            (c.slot e).prevIndex
          else (c.slot x).prevIndex) := by
  unfold dropRule
  split
  · rename_i hN
    have hN : ¬ c.tableEntries ≤ e := Nat.not_le.mpr hN
    split <;> simp [hx, hN]
  · rename_i hN
    have hN : c.tableEntries ≤ e := Nat.le_of_not_lt hN
    dsimp only
    split
    · rename_i hz
      simp only [slot_modifySlot, Function.update_of_ne hx, Function.update_apply, hz, hN]
      split <;> simp_all [NatRule.body, NatRule.withNext]
    · rename_i hz
      simp only [slot_modifySlot, Function.update_of_ne hx, Function.update_apply, hN]
      split <;> split <;>
        simp_all [NatRule.body, NatRule.withNext, NatRule.updatePrevIndx]

theorem dropRule_occupied (he : (ruleLinks c).occupied e) {x : Nat} :
    (ruleLinks (dropRule c e)).occupied x ↔
      (x ≠ e ∨ KeptAsHead c e) ∧ (ruleLinks c).occupied x := by
  have htotal := (dropRule_sameFrame c e).total_eq
  by_cases hx : x = e
  · subst hx
    rcases dropRule_self c x with ⟨hk, hs⟩ | ⟨hk, hs⟩
    · simp only [ruleLinks, htotal, hs, hk, or_true, true_and]
      rfl
    · simp only [ruleLinks, hs, hk, NatRule.zeroed]
      simp
  · have hen := (NatRule.of_body_eq (dropRule_slot_of_ne (c := c) hx).1).2.1
    simp only [ruleLinks, htotal, hen, ne_eq, hx, not_false_eq_true, true_or, true_and]

theorem dropRule_live (he : Live c e) {x : Nat} :
    Live (dropRule c e) x ↔ x ≠ e ∧ Live c x := by
  unfold Live
  rw [dropRule_occupied he.1]
  by_cases hx : x = e
  · subst hx
    rcases dropRule_self c x with ⟨hk, hs⟩ | ⟨hk, hs⟩
    · simp [hs, NatRule.deadHead]
    · simp [hk]
  · have hp := (NatRule.of_body_eq (dropRule_slot_of_ne (c := c) hx).1).2.2.1
    simp [hx, hp]

/-- The rules of the table are linked as before, with `e` closed, kept or
unlinked. -/
theorem dropRule_rules (hrules : WellLinked c.tableEntries c.total (ruleLinks c) home rank)
    (he : (ruleLinks c).occupied e) :
    WellLinked (dropRule c e).tableEntries (dropRule c e).total (ruleLinks (dropRule c e))
      home rank := by
  have hframe := dropRule_sameFrame c e
  rw [hframe.tableEntries, hframe.total_eq]
  by_cases hN : c.tableEntries ≤ e
  · -- an expansion slot
    have hk : ¬ KeptAsHead c e := fun hk => absurd hk.1 (Nat.not_lt.mpr hN)
    refine (hrules.unlink he hN).congr (fun x => ?_) ?_ ?_
    · rw [dropRule_occupied he]
      simp only [hk, or_false]
      rfl
    · rintro x ⟨hx, -⟩
      obtain ⟨-, hnext, -⟩ := dropRule_slot_of_ne (c := c) hx
      simp only [ruleLinks, Links.unlink, hnext, hN, true_and, Function.update_apply]
    · rintro x ⟨hx, hxo⟩ -
      obtain ⟨-, -, hprev⟩ := dropRule_slot_of_ne (c := c) hx
      simp only [ruleLinks, Links.unlink, hprev, hN, true_and, Function.update_apply]
      by_cases hxn : x = (c.slot e).nextIndex
      · have h0 : (c.slot e).nextIndex ≠ 0 := by
          rw [← hxn]
          exact (hrules.pos hxo).ne'
        simp [hxn, h0]
      · simp [hxn]
  · have hother : ∀ x, x ≠ e → ((dropRule c e).slot x).nextIndex = (c.slot x).nextIndex ∧
        ((dropRule c e).slot x).prevIndex = (c.slot x).prevIndex := by
      intro x hx
      obtain ⟨-, hnext, hprev⟩ := dropRule_slot_of_ne (c := c) hx
      simp only [hN, false_and, if_false] at hnext hprev
      exact ⟨hnext, hprev⟩
    rcases dropRule_self c e with ⟨hk, hs⟩ | ⟨hk, -⟩
    · -- a dead head
      refine hrules.congr (fun x => ?_) ?_ ?_
      · rw [dropRule_occupied he]
        simp only [hk, or_true, true_and]
      · intro x _
        by_cases hx : x = e
        · subst hx
          simp only [ruleLinks, hs]
          rfl
        · exact (hother x hx).1
      · intro x _ _
        by_cases hx : x = e
        · subst hx
          simp only [ruleLinks, hs]
          rfl
        · exact (hother x hx).2
    · -- a base slot without successors
      have hlast : (c.slot e).nextIndex = 0 := by
        by_contra hne
        exact hk ⟨Nat.lt_of_not_le hN, hne⟩
      refine (hrules.closeHeads (S := (· = e)) ?_).congr (fun x => ?_) ?_ ?_
      · rintro x _ rfl
        exact ⟨Nat.lt_of_not_le hN, hlast⟩
      · rw [dropRule_occupied he]
        simp only [hk, or_false]
        rfl
      · rintro x ⟨hx, -⟩
        exact (hother x hx).1
      · rintro x ⟨hx, -⟩ -
        exact (hother x hx).2

/-- A dead head whose last successor is gone. -/
def DeadEnd (c : Ip4TableCache) (e : Nat) : Prop :=
  e < c.tableEntries ∧ (c.slot e).protocol = invalidProtoFieldCmp ∧ (c.slot e).nextIndex = 0

theorem foldl_delDeadHeadNode (tbl : Nat → NatRule) (n x : Nat) :
    ((List.range n).foldl delDeadHeadNode tbl) x =
      if x < n ∧ (tbl x).protocol = invalidProtoFieldCmp ∧ (tbl x).nextIndex = 0 then
        NatRule.zeroed
      else tbl x := by
  induction n generalizing x with
  | zero => simp
  | succ n ih =>
      have hn : ((List.range n).foldl delDeadHeadNode tbl) n = tbl n := by
        simpa using ih n
      rw [List.range_succ, List.foldl_append, List.foldl_cons, List.foldl_nil, delDeadHeadNode, hn]
      by_cases hx : x = n
      · subst hx
        split
        · rename_i hd
          simp [hd]
        · rename_i hd
          rw [hn, if_neg (by tauto)]
      · have hlt : x < n + 1 ↔ x < n := by omega
        simp only [hlt]
        rw [← ih]
        split
        · exact Function.update_of_ne hx ..
        · rfl

theorem delDeadIpv4HeadNodes_slot (c : Ip4TableCache) (x : Nat) :
    (DeadEnd c x ∧ (delDeadIpv4HeadNodes c).slot x = NatRule.zeroed) ∨
      (¬ DeadEnd c x ∧ (delDeadIpv4HeadNodes c).slot x = c.slot x) := by
  unfold DeadEnd delDeadIpv4HeadNodes slot
  simp only [foldl_delDeadHeadNode]
  by_cases hx : x < c.tableEntries
  · simp only [hx, true_and, if_true]
    split <;> simp_all
  · simp [hx]

theorem delDeadIpv4HeadNodes_sameFrame (c : Ip4TableCache) :
    SameFrame c (delDeadIpv4HeadNodes c) := ⟨rfl, rfl, rfl, rfl, rfl⟩

theorem delDeadIpv4HeadNodes_occupied (c : Ip4TableCache) (x : Nat) :
    (ruleLinks (delDeadIpv4HeadNodes c)).occupied x ↔
      ¬ DeadEnd c x ∧ (ruleLinks c).occupied x := by
  change x < c.total ∧ ((delDeadIpv4HeadNodes c).slot x).enable = true ↔ _
  rcases delDeadIpv4HeadNodes_slot c x with ⟨hd, hs⟩ | ⟨hd, hs⟩
  · simp [hs, hd, NatRule.zeroed]
  · simp only [hs, hd, not_false_eq_true, true_and]
    rfl

theorem delDeadIpv4HeadNodes_rules
    (hrules : WellLinked c.tableEntries c.total (ruleLinks c) home rank) :
    WellLinked (delDeadIpv4HeadNodes c).tableEntries (delDeadIpv4HeadNodes c).total
      (ruleLinks (delDeadIpv4HeadNodes c)) home rank := by
  refine (hrules.closeHeads (S := DeadEnd c) fun x _ hx => ⟨hx.1, hx.2.2⟩).congr
    (delDeadIpv4HeadNodes_occupied c) ?_ ?_
  · rintro x ⟨hd, -⟩
    have hs := ((delDeadIpv4HeadNodes_slot c x).resolve_left fun h => hd h.1).2
    simp only [ruleLinks, hs]
    rfl
  · rintro x ⟨hd, -⟩ -
    have hs := ((delDeadIpv4HeadNodes_slot c x).resolve_left fun h => hd h.1).2
    simp only [ruleLinks, hs]
    rfl

theorem delDeadIpv4HeadNodes_live (c : Ip4TableCache) (x : Nat) :
    Live (delDeadIpv4HeadNodes c) x ↔ Live c x := by
  unfold Live
  rw [delDeadIpv4HeadNodes_occupied]
  rcases delDeadIpv4HeadNodes_slot c x with ⟨hd, hs⟩ | ⟨hd, hs⟩
  · simp [hd, hd.2.1]
  · simp [hd, hs]

end

/-- The invariant between a deletion and the sweep: a dead head may have lost
its last successor. -/
structure Unswept (c : Ip4TableCache) (home rank ihome irank : Nat → Nat) : Prop where
  dims : Dims c
  rules : WellLinked c.tableEntries c.total (ruleLinks c) home rank
  index : WellLinked c.tableEntries c.total (indexLinks c) ihome irank
  dead_base : ∀ e, (ruleLinks c).occupied e → (c.slot e).protocol = invalidProtoFieldCmp →
    e < c.tableEntries
  dst_home : ∀ e, Live c e → dstSlot c (c.slot e).client = home e
  index_of_rule : ∀ e, Live c e → (indexLinks c).occupied (c.slot e).indxTblEntry ∧
    (c.indexSlot (c.slot e).indxTblEntry).tblEntry = e
  rule_of_index : ∀ i, (indexLinks c).occupied i → Live c (c.indexSlot i).tblEntry ∧
    (c.slot (c.indexSlot i).tblEntry).indxTblEntry = i ∧
    srcSlot c (c.slot (c.indexSlot i).tblEntry).client = ihome i

/-- The invariant between the two parts of a deletion: the index entry in slot
`i` still names the rule that was in slot `e`. -/
structure Orphaned (c : Ip4TableCache) (e i : Nat) (home rank ihome irank : Nat → Nat) :
    Prop where
  dims : Dims c
  rules : WellLinked c.tableEntries c.total (ruleLinks c) home rank
  index : WellLinked c.tableEntries c.total (indexLinks c) ihome irank
  dead_base : ∀ e, (ruleLinks c).occupied e → (c.slot e).protocol = invalidProtoFieldCmp →
    e < c.tableEntries
  dst_home : ∀ e, Live c e → dstSlot c (c.slot e).client = home e
  index_of_rule : ∀ e, Live c e → (indexLinks c).occupied (c.slot e).indxTblEntry ∧
    (c.indexSlot (c.slot e).indxTblEntry).tblEntry = e
  not_live : ¬ Live c e
  orphan : (indexLinks c).occupied i
  orphan_entry : (c.indexSlot i).tblEntry = e
  rule_of_index : ∀ j, (indexLinks c).occupied j → j ≠ i → Live c (c.indexSlot j).tblEntry ∧
    (c.slot (c.indexSlot j).tblEntry).indxTblEntry = j ∧
    srcSlot c (c.slot (c.indexSlot j).tblEntry).client = ihome j

section

variable {c : Ip4TableCache} {home rank ihome irank : Nat → Nat} {e : Nat}

theorem LinkInv.dropRule (h : LinkInv c home rank ihome irank) (he : Live c e) :
    Orphaned (dropRule c e) e (c.slot e).indxTblEntry home rank ihome irank := by
  have hframe := dropRule_sameFrame c e
  have hindex : indexLinks (IpaNat.dropRule c e) = indexLinks c := by
    unfold indexLinks indexPrev
    rw [dropRule_indexSlot, dropRule_meta, hframe.total_eq, hframe.tableEntries]
  have hbody : ∀ x, x ≠ e → _ := fun x hx =>
    NatRule.of_body_eq (dropRule_slot_of_ne (c := c) hx).1
  obtain ⟨hio, hie⟩ := h.index_of_rule e he
  refine ⟨h.dims.of_sameFrame hframe, dropRule_rules h.rules he.1, ?_, ?_, ?_, ?_, ?_, ?_, ?_, ?_⟩
  · rw [hindex, hframe.tableEntries, hframe.total_eq]
    exact h.index
  · intro x hx hp
    rw [hframe.tableEntries]
    rw [dropRule_occupied he.1] at hx
    by_cases hxe : x = e
    · subst hxe
      exact (hx.1.resolve_left fun hne => hne rfl).1
    · rw [(hbody x hxe).2.2.1] at hp
      exact (h.dead_head x hx.2 hp).1
  · intro x hx
    obtain ⟨hxe, hxl⟩ := (dropRule_live he).mp hx
    rw [hframe.dstSlot_eq, (hbody x hxe).1]
    exact h.dst_home x hxl
  · intro x hx
    obtain ⟨hxe, hxl⟩ := (dropRule_live he).mp hx
    rw [hindex, dropRule_indexSlot, (hbody x hxe).2.2.2]
    exact h.index_of_rule x hxl
  · rw [dropRule_live he]
    exact fun hx => hx.1 rfl
  · rw [hindex]
    exact hio
  · rw [dropRule_indexSlot]
    exact hie
  · intro j hj hji
    rw [hindex] at hj
    rw [dropRule_indexSlot]
    obtain ⟨hl, hj1, hj2⟩ := h.rule_of_index j hj
    have hne : (c.indexSlot j).tblEntry ≠ e := by
      intro heq
      rw [heq] at hj1
      exact hji hj1.symm
    rw [dropRule_live he, (hbody _ hne).2.2.2, hframe.srcSlot_eq, (hbody _ hne).1]
    exact ⟨⟨hne, hl⟩, hj1, hj2⟩

theorem Unswept.delDead (h : Unswept c home rank ihome irank) :
    LinkInv (delDeadIpv4HeadNodes c) home rank ihome irank := by
  have hslot : ∀ x, Live c x → (delDeadIpv4HeadNodes c).slot x = c.slot x := by
    intro x hx
    exact ((delDeadIpv4HeadNodes_slot c x).resolve_left fun h => hx.2 h.1.2.1).2
  refine ⟨h.dims.of_sameFrame (delDeadIpv4HeadNodes_sameFrame c),
    delDeadIpv4HeadNodes_rules h.rules, h.index, ?_, ?_, ?_, ?_⟩
  · intro x hx hp
    obtain ⟨hde, hxo⟩ := (delDeadIpv4HeadNodes_occupied c x).mp hx
    have hs := ((delDeadIpv4HeadNodes_slot c x).resolve_left fun h => hde h.1).2
    rw [hs] at hp ⊢
    have hlt := h.dead_base x hxo hp
    exact ⟨hlt, fun hz => hde ⟨hlt, hp, hz⟩⟩
  · intro x hx
    rw [delDeadIpv4HeadNodes_live] at hx
    rw [hslot x hx]
    exact h.dst_home x hx
  · intro x hx
    rw [delDeadIpv4HeadNodes_live] at hx
    rw [hslot x hx]
    exact h.index_of_rule x hx
  · intro i hi
    obtain ⟨hl, h1, h2⟩ := h.rule_of_index i hi
    change Live _ (c.indexSlot i).tblEntry ∧
      ((delDeadIpv4HeadNodes c).slot (c.indexSlot i).tblEntry).indxTblEntry = i ∧
      srcSlot c ((delDeadIpv4HeadNodes c).slot (c.indexSlot i).tblEntry).client = ihome i
    rw [hslot _ hl, delDeadIpv4HeadNodes_live]
    exact ⟨hl, h1, h2⟩

end

end LibraDevice.IpaNat
