import LibraDevice.IpaNat.DropRule

/-!
The index part of a deletion. The head of an index chain takes over the entry of
its successor, and the rule that entry belongs to is told so.
-/

namespace LibraDevice.IpaNat

open LinkedChains Ip4TableCache

/-- The predecessor of an expansion index slot, as stored. -/
def setIndexPrev (c : Ip4TableCache) (i v : Nat) : Ip4TableCache :=
  { c with
    indexExpnTableMeta := Function.update c.indexExpnTableMeta (i - c.tableEntries) v }

/-- The head `i` of an index chain is overwritten by its successor `y`. -/
def pullIndex (c : Ip4TableCache) (i y : Nat) : Ip4TableCache :=
  let next := c.indexSlot y
  let c := c.modifyIndexSlot i fun _ => next
  let c := if next.nextIndex = 0 then c else setIndexPrev c next.nextIndex i
  let c := c.modifyIndexSlot y fun _ => IndxTblRule.zeroed
  c.modifySlot next.tblEntry (·.updateIndxTblEntry i)

/-- The expansion index slot `i` is unlinked. -/
def unlinkIndex (c : Ip4TableCache) (i : Nat) : Ip4TableCache :=
  let p := c.indexPrev i
  let n := (c.indexSlot i).nextIndex
  let c := c.modifyIndexSlot p (·.withNext n)
  let c := if n = 0 then c else setIndexPrev (setIndexPrev c n p) i 0
  c.modifyIndexSlot i fun _ => IndxTblRule.zeroed

/-- The index part of a deletion. -/
def dropIndex (c : Ip4TableCache) (i : Nat) : Ip4TableCache :=
  if i < c.tableEntries then
    if (c.indexSlot i).nextIndex = 0 then c.modifyIndexSlot i fun _ => IndxTblRule.zeroed
    else pullIndex c i (c.indexSlot i).nextIndex
  else unlinkIndex c i

section

variable {c c' : Ip4TableCache} {i : Nat}

theorem modifyIndexSlot_modifyIndexSlot (c : Ip4TableCache) (i : Nat)
    (f g : IndxTblRule → IndxTblRule) :
    (c.modifyIndexSlot i f).modifyIndexSlot i g = c.modifyIndexSlot i fun r => g (f r) := by
  unfold modifyIndexSlot
  split <;> simp_all

theorem findIndexRulePos_eq (hd : Dims c) (hi : i < c.total) :
    findIndexRulePos c i =
      if i < c.tableEntries then if (c.indexSlot i).nextIndex = 0 then .onlyOne else .head
      else if (c.indexSlot i).nextIndex = 0 then .last else .middle := by
  unfold findIndexRulePos
  by_cases hN : c.tableEntries ≤ i
  · rw [if_pos hN, if_neg (Nat.not_lt.mpr hN), hd.subU16_base hN hi, indexSlot_of_le hN]
  · have hlt := Nat.lt_of_not_le hN
    rw [if_neg hN, if_pos hlt, indexSlot_of_lt hlt]

theorem setIndexRules_expn (c : Ip4TableCache) {N : Nat} (hN : c.tableEntries = N) (hi : N ≤ i)
    (v : IndxTblRule) :
    c.setIndexRules true (Function.update (c.indexRules true) (i - N) v) =
      c.modifyIndexSlot i fun _ => v := by
  subst hN
  unfold modifyIndexSlot
  rw [if_neg (Nat.not_lt.mpr hi)]
  rfl

theorem setIndexPrev_sameFrame (c : Ip4TableCache) (i v : Nat) :
    SameFrame c (setIndexPrev c i v) := ⟨rfl, rfl, rfl, rfl, rfl⟩

theorem delIndexHeadFixup_eq (hd : Dims c) (y : Nat) (next : IndxTblRule)
    (hi : i < c.tableEntries) (hyN : c.tableEntries ≤ y)
    (hnext : c.indexSlot i = next) (hy : c.indexSlot y = next)
    (hn : next.nextIndex ≠ 0 → c.tableEntries ≤ next.nextIndex ∧ next.nextIndex < c.total)
    (he : next.tblEntry < c.total) :
    delIndexHeadFixup c i (y - c.tableEntries) =
      ((if next.nextIndex = 0 then c else setIndexPrev c next.nextIndex i).modifyIndexSlot y
        fun _ => IndxTblRule.zeroed).modifySlot next.tblEntry (·.updateIndxTblEntry i) := by
  have hyt : c.indexTableExpn (y - c.tableEntries) = next := by rw [← indexSlot_of_le hyN, hy]
  have hit : c.indexTable i = next := by rw [← indexSlot_of_lt hi, hnext]
  have hprev : (if next.nextIndex ≠ 0 ∧ c.tableEntries ≤ next.nextIndex then
        { c with
          indexExpnTableMeta := Function.update c.indexExpnTableMeta
            (subU16 next.nextIndex c.tableEntries) i }
      else c) = if next.nextIndex = 0 then c else setIndexPrev c next.nextIndex i := by
    by_cases h0 : next.nextIndex = 0
    · simp [h0]
    · obtain ⟨hnN, hnT⟩ := hn h0
      rw [if_pos ⟨h0, hnN⟩, if_neg h0, hd.subU16_base hnN hnT]
      rfl
  have hs : SameFrame c (if next.nextIndex = 0 then c else setIndexPrev c next.nextIndex i) := by
    split
    · exact SameFrame.refl c
    · exact setIndexPrev_sameFrame ..
  have htbl : (if next.nextIndex = 0 then c else setIndexPrev c next.nextIndex i).indexTable i =
      next := by
    rw [← hit]
    split <;> rfl
  unfold delIndexHeadFixup
  simp only [hyt, hprev]
  generalize (if next.nextIndex = 0 then c else setIndexPrev c next.nextIndex i) = d at hs htbl ⊢
  have hclear : d.setIndexRules true
      (Function.update d.indexTableExpn (y - c.tableEntries) IndxTblRule.zeroed) =
      d.modifyIndexSlot y fun _ => IndxTblRule.zeroed :=
    setIndexRules_expn d hs.tableEntries hyN _
  have hs' := hs.trans (modifyIndexSlot_sameFrame d y fun _ => IndxTblRule.zeroed)
  have htbl' : (d.modifyIndexSlot y fun _ => IndxTblRule.zeroed).indexTable i = next := by
    unfold modifyIndexSlot
    rw [hs.tableEntries, if_neg (Nat.not_lt.mpr hyN)]
    exact htbl
  rw [hclear, htbl', hs'.tableEntries]
  have hent : (if c.tableEntries ≤ next.tblEntry then
      (true, subU16 next.tblEntry c.tableEntries) else (false, next.tblEntry)) =
      entryOf (d.modifyIndexSlot y fun _ => IndxTblRule.zeroed) next.tblEntry := by
    rw [hs'.entryOf_eq]
    unfold entryOf
    split
    · rename_i hN
      rw [hd.subU16_base hN he]
    · rfl
  rw [hent]
  exact setRules_entryOf _ _ fun r => r.updateIndxTblEntry i

theorem dropIndex_head_eq (hd : Dims c) (hs : SameFrame c c')
    (hslot : c'.indexSlot = c.indexSlot) {y : Nat} (hi : i < c.tableEntries)
    (hy : (c.indexSlot i).nextIndex = y) (hyN : c.tableEntries ≤ y) (hyT : y < c.total)
    (hn : (c.indexSlot y).nextIndex ≠ 0 → c.tableEntries ≤ (c.indexSlot y).nextIndex ∧
      (c.indexSlot y).nextIndex < c.total)
    (he : (c.indexSlot y).tblEntry < c.total) :
    delIndexHeadFixup ((delIndexCmds c false i .head).foldl Ip4TableCache.dmaOne c') i
      (subU16 y c.tableEntries) = pullIndex c' i y := by
  have hi' : i < c'.tableEntries := by rw [hs.tableEntries]; exact hi
  have hiT : i < c.total := Nat.lt_of_lt_of_le hi (Nat.le_add_right ..)
  have hyi : y ≠ i := by omega
  have hnext : c.indexTableExpn (subU16 (c.indexRules false i).nextIndex c.tableEntries) =
      c.indexSlot y := by
    change c.indexTableExpn (subU16 (c.indexTable i).nextIndex c.tableEntries) = _
    rw [← indexSlot_of_lt hi, hy, hd.subU16_base hyN hyT, indexSlot_of_le hyN]
  have hcmds : (delIndexCmds c false i .head).foldl Ip4TableCache.dmaOne c' =
      c'.modifyIndexSlot i fun _ => c.indexSlot y := by
    simp only [delIndexCmds, hnext, List.foldl_cons, List.foldl_nil]
    rw [hd.indexEntryOffset hiT (by decide), hd.indexEntryOffset hiT (by decide),
      dmaOne_indxTbl _ _ hi' (by decide), dmaOne_indxTbl _ _ (by rwa [tableEntries_modifyIndexSlot])
      (by decide), modifyIndexSlot_modifyIndexSlot]
    rfl
  have hs' := hs.trans (modifyIndexSlot_sameFrame c' i fun _ => c.indexSlot y)
  have hfix := delIndexHeadFixup_eq (hd.of_sameFrame hs') y (c.indexSlot y)
    (by rw [hs'.tableEntries]; exact hi) (by rw [hs'.tableEntries]; exact hyN)
    (by rw [indexSlot_modifyIndexSlot, Function.update_self])
    (by rw [indexSlot_modifyIndexSlot, Function.update_of_ne hyi, hslot])
    (by rw [hs'.tableEntries, hs'.total_eq]; exact hn) (by rw [hs'.total_eq]; exact he)
  rw [hs'.tableEntries] at hfix
  rw [hcmds, hd.subU16_base hyN hyT, hfix]
  unfold pullIndex
  rw [hslot]

theorem delIndexFixup_expn_eq (hd : Dims c) (hN : c.tableEntries ≤ i)
    (hn : (c.indexSlot i).nextIndex ≠ 0 → c.tableEntries ≤ (c.indexSlot i).nextIndex ∧
      (c.indexSlot i).nextIndex < c.total) :
    delIndexFixup c true (i - c.tableEntries)
        (if (c.indexSlot i).nextIndex = 0 then .last else .middle) =
      (if (c.indexSlot i).nextIndex = 0 then c
        else setIndexPrev (setIndexPrev c (c.indexSlot i).nextIndex (c.indexPrev i)) i
          0).modifyIndexSlot i fun _ => IndxTblRule.zeroed := by
  have hcell : c.indexRules true (i - c.tableEntries) = c.indexSlot i := (indexSlot_of_le hN).symm
  unfold delIndexFixup
  by_cases h0 : (c.indexSlot i).nextIndex = 0
  · simp only [h0, if_true, reduceCtorEq, if_false]
    exact setIndexRules_expn c rfl hN _
  · obtain ⟨hnN, hnT⟩ := hn h0
    simp only [h0, if_false, if_true, hcell, if_pos hnN, hd.subU16_base hnN hnT]
    exact setIndexRules_expn
      (setIndexPrev (setIndexPrev c (c.indexSlot i).nextIndex (c.indexPrev i)) i 0) rfl hN _

theorem dropIndex_expn_eq (hd : Dims c) (hs : SameFrame c c')
    (hslot : c'.indexSlot = c.indexSlot) (hmeta : c'.indexExpnTableMeta = c.indexExpnTableMeta)
    (hN : c.tableEntries ≤ i) (hp : c.indexPrev i < c.total) (hpi : c.indexPrev i ≠ i)
    (hn : (c.indexSlot i).nextIndex ≠ 0 → c.tableEntries ≤ (c.indexSlot i).nextIndex ∧
      (c.indexSlot i).nextIndex < c.total) :
    delIndexFixup ((delIndexCmds c true (i - c.tableEntries)
        (if (c.indexSlot i).nextIndex = 0 then .last else .middle)).foldl
          Ip4TableCache.dmaOne c') true (i - c.tableEntries)
        (if (c.indexSlot i).nextIndex = 0 then .last else .middle) =
      unlinkIndex c' i := by
  have hcmds : (delIndexCmds c true (i - c.tableEntries)
      (if (c.indexSlot i).nextIndex = 0 then .last else .middle)).foldl Ip4TableCache.dmaOne c' =
      c'.modifyIndexSlot (c.indexPrev i) (·.withNext (c.indexSlot i).nextIndex) := by
    have hcell : c.indexRules true (i - c.tableEntries) = c.indexSlot i := (indexSlot_of_le hN).symm
    rw [← dmaOne_indexNextCmd hd hs hp]
    by_cases h0 : (c.indexSlot i).nextIndex = 0
    · simp only [h0, if_true]
      rfl
    · simp only [h0, if_false, delIndexCmds, hcell]
      rfl
  have hprev : c'.indexPrev = c.indexPrev := by
    unfold indexPrev
    rw [hs.tableEntries, hmeta]
  have hs' := hs.trans (modifyIndexSlot_sameFrame c' (c.indexPrev i)
    (·.withNext (c.indexSlot i).nextIndex))
  have hcell : (c'.modifyIndexSlot (c.indexPrev i)
      (·.withNext (c.indexSlot i).nextIndex)).indexSlot i = c.indexSlot i := by
    rw [indexSlot_modifyIndexSlot, Function.update_of_ne hpi.symm, hslot]
  have hprev' : (c'.modifyIndexSlot (c.indexPrev i)
      (·.withNext (c.indexSlot i).nextIndex)).indexPrev i = c.indexPrev i := by
    rw [← hprev]
    simp [indexPrev]
  have hN' := hN
  rw [← hs'.tableEntries] at hN'
  have hfix := delIndexFixup_expn_eq (hd.of_sameFrame hs') hN'
    (by rw [hcell, hs'.tableEntries, hs'.total_eq]; exact hn)
  rw [hcell, hprev', hs'.tableEntries] at hfix
  rw [hcmds, hfix]
  unfold unlinkIndex
  rw [hslot, hprev]

theorem dropIndex_onlyOne_eq (hd : Dims c) (hs : SameFrame c c') (hi : i < c.tableEntries) :
    delIndexFixup ((delIndexCmds c false i .onlyOne).foldl Ip4TableCache.dmaOne c') false i
      .onlyOne = c'.modifyIndexSlot i fun _ => IndxTblRule.zeroed := by
  have hi' : i < c'.tableEntries := by rw [hs.tableEntries]; exact hi
  have hiT : i < c.total := Nat.lt_of_lt_of_le hi (Nat.le_add_right ..)
  simp only [delIndexCmds, List.foldl_cons, List.foldl_nil]
  rw [hd.indexEntryOffset hiT (by decide), dmaOne_indxTbl _ _ hi' (by decide)]
  unfold delIndexFixup modifyIndexSlot
  simp only [reduceCtorEq, if_false, if_pos hi']
  simp [setIndexRules, indexRules]

end

section

variable {c : Ip4TableCache} {e i y : Nat}

theorem pullIndex_sameFrame (c : Ip4TableCache) (i y : Nat) : SameFrame c (pullIndex c i y) := by
  unfold pullIndex
  dsimp only
  split
  · exact (modifyIndexSlot_sameFrame ..).trans <|
      (modifyIndexSlot_sameFrame ..).trans (modifySlot_sameFrame ..)
  · exact (modifyIndexSlot_sameFrame ..).trans <| (setIndexPrev_sameFrame ..).trans <|
      (modifyIndexSlot_sameFrame ..).trans (modifySlot_sameFrame ..)

theorem unlinkIndex_sameFrame (c : Ip4TableCache) (i : Nat) : SameFrame c (unlinkIndex c i) := by
  unfold unlinkIndex
  dsimp only
  split
  · exact (modifyIndexSlot_sameFrame ..).trans (modifyIndexSlot_sameFrame ..)
  · exact (modifyIndexSlot_sameFrame ..).trans <| (setIndexPrev_sameFrame ..).trans <|
      (setIndexPrev_sameFrame ..).trans (modifyIndexSlot_sameFrame ..)

@[simp] theorem setIndexPrev_indexSlot (c : Ip4TableCache) (i v : Nat) :
    (setIndexPrev c i v).indexSlot = c.indexSlot := rfl

@[simp] theorem setIndexPrev_slot (c : Ip4TableCache) (i v : Nat) :
    (setIndexPrev c i v).slot = c.slot := rfl

@[simp] theorem setIndexPrev_ruleIdArray (c : Ip4TableCache) (i v : Nat) :
    (setIndexPrev c i v).ruleIdArray = c.ruleIdArray := rfl

theorem setIndexPrev_indexPrev (c : Ip4TableCache) {i x : Nat} (v : Nat)
    (hi : c.tableEntries ≤ i) (hx : c.tableEntries ≤ x) :
    (setIndexPrev c i v).indexPrev x = if x = i then v else c.indexPrev x := by
  have hiff : x - c.tableEntries = i - c.tableEntries ↔ x = i := by omega
  simp only [setIndexPrev, indexPrev, Function.update_apply, hiff]

@[simp] theorem modifyIndexSlot_indexPrev (c : Ip4TableCache) (i : Nat)
    (f : IndxTblRule → IndxTblRule) : (c.modifyIndexSlot i f).indexPrev = c.indexPrev := by
  funext x
  simp [indexPrev]

@[simp] theorem modifySlot_indexPrev (c : Ip4TableCache) (e : Nat) (f : NatRule → NatRule) :
    (c.modifySlot e f).indexPrev = c.indexPrev := by
  funext x
  simp [indexPrev]

theorem pullIndex_slot (c : Ip4TableCache) (i y : Nat) :
    (pullIndex c i y).slot = Function.update c.slot (c.indexSlot y).tblEntry
      ((c.slot (c.indexSlot y).tblEntry).updateIndxTblEntry i) := by
  unfold pullIndex
  dsimp only
  split <;> simp

theorem pullIndex_indexSlot (c : Ip4TableCache) {i y : Nat} (x : Nat) :
    (pullIndex c i y).indexSlot x =
      if x = y then IndxTblRule.zeroed else if x = i then c.indexSlot y else c.indexSlot x := by
  unfold pullIndex
  dsimp only
  split <;> simp [Function.update_apply]

theorem pullIndex_indexPrev (c : Ip4TableCache) {i y x : Nat} (hx : c.tableEntries ≤ x)
    (hn : (c.indexSlot y).nextIndex ≠ 0 → c.tableEntries ≤ (c.indexSlot y).nextIndex) :
    (pullIndex c i y).indexPrev x =
      if (c.indexSlot y).nextIndex ≠ 0 ∧ x = (c.indexSlot y).nextIndex then i
      else c.indexPrev x := by
  unfold pullIndex
  dsimp only
  split
  · rename_i h0
    simp [h0]
  · rename_i h0
    rw [modifySlot_indexPrev, modifyIndexSlot_indexPrev,
      setIndexPrev_indexPrev _ _ (by simpa using hn h0) (by simpa using hx),
      modifyIndexSlot_indexPrev]
    simp only [ne_eq, h0, not_false_eq_true, true_and]

@[simp] theorem pullIndex_ruleIdArray (c : Ip4TableCache) (i y : Nat) :
    (pullIndex c i y).ruleIdArray = c.ruleIdArray := by
  unfold pullIndex
  dsimp only
  split <;> simp

@[simp] theorem unlinkIndex_slot (c : Ip4TableCache) (i : Nat) :
    (unlinkIndex c i).slot = c.slot := by
  unfold unlinkIndex
  dsimp only
  split <;> simp

@[simp] theorem unlinkIndex_ruleIdArray (c : Ip4TableCache) (i : Nat) :
    (unlinkIndex c i).ruleIdArray = c.ruleIdArray := by
  unfold unlinkIndex
  dsimp only
  split <;> simp

theorem unlinkIndex_indexSlot (c : Ip4TableCache) {i : Nat} (x : Nat) :
    (unlinkIndex c i).indexSlot x =
      if x = i then IndxTblRule.zeroed
      else if x = c.indexPrev i then (c.indexSlot x).withNext (c.indexSlot i).nextIndex
      else c.indexSlot x := by
  unfold unlinkIndex
  dsimp only
  split <;> simp only [indexSlot_modifyIndexSlot, setIndexPrev_indexSlot, Function.update_apply] <;>
    split <;> try rfl
  · split
    · rename_i hx
      rw [hx]
    · rfl
  · split
    · rename_i hx
      rw [hx]
    · rfl

theorem unlinkIndex_indexPrev (c : Ip4TableCache) {i x : Nat} (hi : c.tableEntries ≤ i)
    (hx : c.tableEntries ≤ x) (hxi : x ≠ i)
    (hn : (c.indexSlot i).nextIndex ≠ 0 → c.tableEntries ≤ (c.indexSlot i).nextIndex) :
    (unlinkIndex c i).indexPrev x =
      if (c.indexSlot i).nextIndex ≠ 0 ∧ x = (c.indexSlot i).nextIndex then c.indexPrev i
      else c.indexPrev x := by
  unfold unlinkIndex
  dsimp only
  split
  · rename_i h0
    simp [h0]
  · rename_i h0
    have hs := modifyIndexSlot_sameFrame c (c.indexPrev i) (·.withNext (c.indexSlot i).nextIndex)
    rw [modifyIndexSlot_indexPrev, setIndexPrev_indexPrev _ _ (by simpa [setIndexPrev] using hi)
      (by simpa [setIndexPrev] using hx), if_neg hxi,
      setIndexPrev_indexPrev _ _ (by simpa using hn h0) (by simpa using hx),
      modifyIndexSlot_indexPrev]
    simp only [ne_eq, h0, not_false_eq_true, true_and]

variable {ihome irank : Nat → Nat}

theorem pullIndex_links
    (hw : WellLinked c.tableEntries c.total (indexLinks c) ihome irank)
    (hi : (indexLinks c).occupied i) (hy : (c.indexSlot i).nextIndex = y) (hy0 : y ≠ 0) :
    (∀ x, (indexLinks (pullIndex c i y)).occupied x ↔ x ≠ y ∧ (indexLinks c).occupied x) ∧
      WellLinked (pullIndex c i y).tableEntries (pullIndex c i y).total
        (indexLinks (pullIndex c i y)) ihome irank := by
  have hframe := pullIndex_sameFrame c i y
  have hne : (indexLinks c).next i ≠ 0 := by
    change (c.indexSlot i).nextIndex ≠ 0
    rw [hy]
    exact hy0
  obtain ⟨hyN, hyo, hyp⟩ := hw.next_link hi hne
  have hyi := hw.next_ne_self hi
  change c.tableEntries ≤ (c.indexSlot i).nextIndex at hyN
  change (indexLinks c).occupied (c.indexSlot i).nextIndex at hyo
  change c.indexPrev (c.indexSlot i).nextIndex = i at hyp
  change (c.indexSlot i).nextIndex ≠ i at hyi
  rw [hy] at hyN hyo hyp hyi
  have hocc : ∀ x, (indexLinks (pullIndex c i y)).occupied x ↔
      x ≠ y ∧ (indexLinks c).occupied x := by
    intro x
    simp only [indexLinks, hframe.total_eq, pullIndex_indexSlot]
    by_cases hxy : x = y
    · simp [hxy, IndxTblRule.zeroed]
    · by_cases hxi : x = i
      · subst hxi
        simp [hyi.symm, hyo.2, hi.2]
      · simp [hxy, hxi]
  have hnext : (c.indexSlot y).nextIndex ≠ 0 → c.tableEntries ≤ (c.indexSlot y).nextIndex :=
    fun h0 => (hw.next_link hyo h0).1
  refine ⟨hocc, ?_⟩
  rw [hframe.tableEntries, hframe.total_eq]
  refine (hw.unlink hyo hyN).congr hocc ?_ ?_
  · rintro x ⟨hxy, -⟩
    simp only [indexLinks, Links.unlink, pullIndex_indexSlot, hxy, if_false, hyp,
      Function.update_apply]
    split <;> rfl
  · rintro x ⟨hxy, hxo⟩ hxN
    change (pullIndex c i y).indexPrev x =
      Function.update c.indexPrev (c.indexSlot y).nextIndex (c.indexPrev y) x
    rw [pullIndex_indexPrev c hxN hnext, hyp, Function.update_apply]
    by_cases hxn : x = (c.indexSlot y).nextIndex
    · have h0 : (c.indexSlot y).nextIndex ≠ 0 := by
        rw [← hxn]
        exact (hw.pos hxo).ne'
      simp [hxn, h0]
    · simp [hxn]

theorem unlinkIndex_links
    (hw : WellLinked c.tableEntries c.total (indexLinks c) ihome irank)
    (hi : (indexLinks c).occupied i) (hN : c.tableEntries ≤ i) :
    (∀ x, (indexLinks (unlinkIndex c i)).occupied x ↔ x ≠ i ∧ (indexLinks c).occupied x) ∧
      WellLinked (unlinkIndex c i).tableEntries (unlinkIndex c i).total
        (indexLinks (unlinkIndex c i)) ihome irank := by
  have hframe := unlinkIndex_sameFrame c i
  have hocc : ∀ x, (indexLinks (unlinkIndex c i)).occupied x ↔
      x ≠ i ∧ (indexLinks c).occupied x := by
    intro x
    simp only [indexLinks, hframe.total_eq, unlinkIndex_indexSlot]
    by_cases hxi : x = i
    · simp [hxi, IndxTblRule.zeroed]
    · simp only [hxi, if_false]
      split <;> simp [IndxTblRule.withNext, hxi]
  have hnext : (c.indexSlot i).nextIndex ≠ 0 → c.tableEntries ≤ (c.indexSlot i).nextIndex :=
    fun h0 => (hw.next_link hi h0).1
  refine ⟨hocc, ?_⟩
  rw [hframe.tableEntries, hframe.total_eq]
  refine (hw.unlink hi hN).congr hocc ?_ ?_
  · rintro x ⟨hxi, -⟩
    simp only [indexLinks, Links.unlink, unlinkIndex_indexSlot, hxi, if_false,
      Function.update_apply]
    split <;> rfl
  · rintro x ⟨hxi, hxo⟩ hxN
    change (unlinkIndex c i).indexPrev x =
      Function.update c.indexPrev (c.indexSlot i).nextIndex (c.indexPrev i) x
    rw [unlinkIndex_indexPrev c hN hxN hxi hnext, Function.update_apply]
    by_cases hxn : x = (c.indexSlot i).nextIndex
    · have h0 : (c.indexSlot i).nextIndex ≠ 0 := by
        rw [← hxn]
        exact (hw.pos hxo).ne'
      simp [hxn, h0]
    · simp [hxn]

theorem clearIndex_links
    (hw : WellLinked c.tableEntries c.total (indexLinks c) ihome irank)
    (hN : i < c.tableEntries) (hlast : (c.indexSlot i).nextIndex = 0) :
    (∀ x, (indexLinks (c.modifyIndexSlot i fun _ => IndxTblRule.zeroed)).occupied x ↔
      x ≠ i ∧ (indexLinks c).occupied x) ∧
      WellLinked c.tableEntries c.total
        (indexLinks (c.modifyIndexSlot i fun _ => IndxTblRule.zeroed)) ihome irank := by
  have hframe := modifyIndexSlot_sameFrame c i fun _ => IndxTblRule.zeroed
  have hocc : ∀ x, (indexLinks (c.modifyIndexSlot i fun _ => IndxTblRule.zeroed)).occupied x ↔
      x ≠ i ∧ (indexLinks c).occupied x := by
    intro x
    simp only [indexLinks, hframe.total_eq, indexSlot_modifyIndexSlot, Function.update_apply]
    by_cases hxi : x = i
    · simp [hxi, IndxTblRule.zeroed]
    · simp [hxi]
  refine ⟨hocc, (hw.closeHeads (S := (· = i)) ?_).congr hocc ?_ ?_⟩
  · rintro x - rfl
    exact ⟨hN, hlast⟩
  · rintro x ⟨hxi, -⟩
    change x ≠ i at hxi
    simp only [indexLinks, Links.closeHeads, indexSlot_modifyIndexSlot, Function.update_of_ne hxi]
  · intro x _ _
    simp only [indexLinks, Links.closeHeads, modifyIndexSlot_indexPrev]

variable {home rank : Nat → Nat}

/-- What dropping the orphaned index entry keeps of the rules. -/
structure KeepsRules (c c' : Ip4TableCache) : Prop where
  frame : SameFrame c c'
  ids : c'.ruleIdArray = c.ruleIdArray
  links : ruleLinks c' = ruleLinks c
  protocol : ∀ x, (c'.slot x).protocol = (c.slot x).protocol
  client : ∀ x, (c'.slot x).client = (c.slot x).client

theorem KeepsRules.live {c' : Ip4TableCache} (h : KeepsRules c c') (x : Nat) :
    Live c' x ↔ Live c x := by
  unfold Live
  rw [h.links, h.protocol]

theorem keepsRules_of_slot_eq {c' : Ip4TableCache} (hf : SameFrame c c')
    (hids : c'.ruleIdArray = c.ruleIdArray) (hs : c'.slot = c.slot) : KeepsRules c c' where
  frame := hf
  ids := hids
  links := by
    unfold ruleLinks
    rw [hf.total_eq, hs]
  protocol := fun x => by rw [hs]
  client := fun x => by rw [hs]

theorem pullIndex_keepsRules (c : Ip4TableCache) (i y : Nat) :
    KeepsRules c (pullIndex c i y) := by
  have hcell : ∀ x, ∃ v, (pullIndex c i y).slot x = (c.slot x).updateIndxTblEntry v := by
    intro x
    rw [pullIndex_slot]
    by_cases hx : x = (c.indexSlot y).tblEntry
    · exact ⟨i, by rw [hx, Function.update_self]⟩
    · exact ⟨(c.slot x).indxTblEntry, by rw [Function.update_of_ne hx]; rfl⟩
  refine ⟨pullIndex_sameFrame c i y, pullIndex_ruleIdArray c i y, ?_, ?_, ?_⟩
  · unfold ruleLinks
    rw [(pullIndex_sameFrame c i y).total_eq]
    congr 1
    · funext x
      obtain ⟨v, hv⟩ := hcell x
      rw [hv]
      rfl
    · funext x
      obtain ⟨v, hv⟩ := hcell x
      rw [hv]
      rfl
    · funext x
      obtain ⟨v, hv⟩ := hcell x
      rw [hv]
      rfl
  · intro x
    obtain ⟨v, hv⟩ := hcell x
    rw [hv]
    rfl
  · intro x
    obtain ⟨v, hv⟩ := hcell x
    rw [hv]
    rfl

theorem Orphaned.remove {c' : Ip4TableCache} (h : Orphaned c e i home rank ihome irank)
    (hk : KeepsRules c c') (hs : c'.slot = c.slot)
    (hocc : ∀ x, (indexLinks c').occupied x ↔ x ≠ i ∧ (indexLinks c).occupied x)
    (hentry : ∀ x, x ≠ i → (c'.indexSlot x).tblEntry = (c.indexSlot x).tblEntry)
    (hw : WellLinked c'.tableEntries c'.total (indexLinks c') ihome irank) :
    Unswept c' home rank ihome irank := by
  have hne : ∀ x, Live c x → (c.slot x).indxTblEntry ≠ i := by
    intro x hx heq
    have hxe := (h.index_of_rule x hx).2
    rw [heq, h.orphan_entry] at hxe
    exact h.not_live (hxe ▸ hx)
  refine ⟨h.dims.of_sameFrame hk.frame, ?_, hw, ?_, ?_, ?_, ?_⟩
  · rw [hk.links, hk.frame.tableEntries, hk.frame.total_eq]
    exact h.rules
  · rw [hk.links, hs, hk.frame.tableEntries]
    exact h.dead_base
  · intro x hx
    rw [hk.live] at hx
    rw [hk.frame.dstSlot_eq, hs]
    exact h.dst_home x hx
  · intro x hx
    rw [hk.live] at hx
    obtain ⟨ho, hxe⟩ := h.index_of_rule x hx
    rw [hs, hocc, hentry _ (hne x hx)]
    exact ⟨⟨hne x hx, ho⟩, hxe⟩
  · intro j hj
    obtain ⟨hji, hjo⟩ := (hocc j).mp hj
    rw [hentry j hji, hk.live, hs, hk.frame.srcSlot_eq]
    exact h.rule_of_index j hjo hji

theorem Orphaned.pullIndex (h : Orphaned c e i home rank ihome irank)
    (hy : (c.indexSlot i).nextIndex = y) (hy0 : y ≠ 0) :
    Unswept (pullIndex c i y) home rank ihome irank := by
  have hk := pullIndex_keepsRules c i y
  obtain ⟨hocc, hw⟩ := pullIndex_links h.index h.orphan hy hy0
  have hne : (indexLinks c).next i ≠ 0 := by
    change (c.indexSlot i).nextIndex ≠ 0
    rw [hy]
    exact hy0
  obtain ⟨hyN, hyo, hyp⟩ := h.index.next_link h.orphan hne
  have hyi := h.index.next_ne_self h.orphan
  have hyh := h.index.home_prev hyo hyN
  rw [hyp] at hyh
  change (indexLinks c).occupied (c.indexSlot i).nextIndex at hyo
  change (c.indexSlot i).nextIndex ≠ i at hyi
  change ihome (c.indexSlot i).nextIndex = ihome i at hyh
  rw [hy] at hyo hyi hyh
  obtain ⟨hml, hmi, hms⟩ := h.rule_of_index y hyo hyi
  have hother : ∀ x, x ≠ (c.indexSlot y).tblEntry →
      (IpaNat.pullIndex c i y).slot x = c.slot x := by
    intro x hx
    rw [pullIndex_slot, Function.update_of_ne hx]
  have hmoved : ((IpaNat.pullIndex c i y).slot (c.indexSlot y).tblEntry).indxTblEntry = i := by
    rw [pullIndex_slot, Function.update_self]
    rfl
  refine ⟨h.dims.of_sameFrame hk.frame, ?_, hw, ?_, ?_, ?_, ?_⟩
  · rw [hk.links, hk.frame.tableEntries, hk.frame.total_eq]
    exact h.rules
  · intro x hx hp
    rw [hk.links] at hx
    rw [hk.protocol] at hp
    rw [hk.frame.tableEntries]
    exact h.dead_base x hx hp
  · intro x hx
    rw [hk.live] at hx
    rw [hk.frame.dstSlot_eq, hk.client]
    exact h.dst_home x hx
  · intro x hx
    rw [hk.live] at hx
    by_cases hxm : x = (c.indexSlot y).tblEntry
    · subst hxm
      rw [hmoved, hocc, pullIndex_indexSlot, if_neg hyi.symm, if_pos rfl]
      exact ⟨⟨hyi.symm, h.orphan⟩, rfl⟩
    · obtain ⟨ho, hxe⟩ := h.index_of_rule x hx
      have h1 : (c.slot x).indxTblEntry ≠ y := fun heq => hxm (heq ▸ hxe.symm)
      have h2 : (c.slot x).indxTblEntry ≠ i := by
        intro heq
        rw [heq, h.orphan_entry] at hxe
        exact h.not_live (hxe ▸ hx)
      rw [hother x hxm, hocc, pullIndex_indexSlot, if_neg h1, if_neg h2]
      exact ⟨⟨h1, ho⟩, hxe⟩
  · intro j hj
    obtain ⟨hjy, hjo⟩ := (hocc j).mp hj
    rw [hk.live, hk.client, hk.frame.srcSlot_eq, pullIndex_indexSlot, if_neg hjy]
    by_cases hji : j = i
    · subst hji
      rw [if_pos rfl]
      exact ⟨hml, hmoved, hms.trans hyh⟩
    · rw [if_neg hji]
      obtain ⟨hl, hj1, hj2⟩ := h.rule_of_index j hjo hji
      have hjm : (c.indexSlot j).tblEntry ≠ (c.indexSlot y).tblEntry := by
        intro heq
        rw [heq, hmi] at hj1
        exact hjy hj1.symm
      rw [hother _ hjm]
      exact ⟨hl, hj1, hj2⟩

theorem Orphaned.dropIndex (h : Orphaned c e i home rank ihome irank) :
    KeepsRules c (dropIndex c i) ∧ Unswept (dropIndex c i) home rank ihome irank := by
  unfold IpaNat.dropIndex
  split
  · rename_i hN
    split
    · rename_i hlast
      obtain ⟨hocc, hw⟩ := clearIndex_links h.index hN hlast
      have hf := modifyIndexSlot_sameFrame c i fun _ => IndxTblRule.zeroed
      have hk := keepsRules_of_slot_eq hf (by simp) (by simp)
      rw [← hf.tableEntries, ← hf.total_eq] at hw
      refine ⟨hk, h.remove hk (by simp) hocc (fun x hx => ?_) hw⟩
      rw [indexSlot_modifyIndexSlot, Function.update_of_ne hx]
    · rename_i hne
      exact ⟨pullIndex_keepsRules c i _, h.pullIndex rfl hne⟩
  · rename_i hN
    obtain ⟨hocc, hw⟩ := unlinkIndex_links h.index h.orphan (Nat.le_of_not_lt hN)
    have hk := keepsRules_of_slot_eq (unlinkIndex_sameFrame c i) (by simp) (by simp)
    refine ⟨hk, h.remove hk (by simp) hocc (fun x hx => ?_) hw⟩
    rw [unlinkIndex_indexSlot, if_neg hx]
    split <;> rfl

end

end LibraDevice.IpaNat
