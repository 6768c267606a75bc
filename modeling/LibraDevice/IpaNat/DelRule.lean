import LibraDevice.IpaNat.DropIndex

/-!
Deleting a rule: `ipa_nati_post_del_dma_cmd` is the rule part followed by the
index part, and `ipa_nati_del_ipv4_rule` ends with the sweep.
-/

namespace LibraDevice.IpaNat

open LinkedChains Ip4TableCache

theorem reorderCmds_cons (cmd i : NatDmaOne) (is : List NatDmaOne)
    (hcmd : cmd.baseAddr = .baseTbl ∨ cmd.baseAddr = .expnTbl)
    (hi : i.baseAddr = .indxTbl ∨ i.baseAddr = .indexExpnTbl) :
    reorderCmds (cmd :: i :: is) = i :: is ++ [cmd] := by
  have hfind : (cmd :: i :: is).findIdx? (fun cmd =>
      cmd.baseAddr == .indxTbl || cmd.baseAddr == .indexExpnTbl) = some 1 := by
    rcases hcmd with hcmd | hcmd <;> rcases hi with hi | hi <;> simp [List.findIdx?_cons, hcmd, hi]
  unfold reorderCmds
  rw [hfind]
  rfl

theorem modifySlot_modifyIndexSlot (c : Ip4TableCache) (e i : Nat) (f : NatRule → NatRule)
    (g : IndxTblRule → IndxTblRule) :
    (c.modifyIndexSlot i g).modifySlot e f = (c.modifySlot e f).modifyIndexSlot i g := by
  unfold modifyIndexSlot modifySlot
  by_cases he : e < c.tableEntries <;> by_cases hi : i < c.tableEntries <;> simp [he, hi]

theorem dropRule_modifyIndexSlot (c : Ip4TableCache) (e i : Nat) (g : IndxTblRule → IndxTblRule) :
    dropRule (c.modifyIndexSlot i g) e = (dropRule c e).modifyIndexSlot i g := by
  unfold dropRule
  simp only [tableEntries_modifyIndexSlot, slot_modifyIndexSlot]
  split
  · split <;> exact modifySlot_modifyIndexSlot ..
  · split <;> simp only [modifySlot_modifyIndexSlot]

section

variable {c : Ip4TableCache} {home rank ihome irank : Nat → Nat} {e : Nat}

theorem natDma_cons (c : Ip4TableCache) (cmd : NatDmaOne) (cmds : List NatDmaOne) :
    c.natDma true (cmds ++ [cmd]) = (cmds.foldl Ip4TableCache.dmaOne c).dmaOne cmd := by
  simp [natDma]

theorem delRuleCmd_baseAddr (c : Ip4TableCache) (expnTbl : Bool) (cur : Nat) (pos : DelType) :
    (delRuleCmd c expnTbl cur pos).baseAddr = .baseTbl ∨
      (delRuleCmd c expnTbl cur pos).baseAddr = .expnTbl := by
  cases pos <;> simp only [delRuleCmd, ruleNextCmd] <;> try split
  all_goals simp

/-- The index commands are one or two, all on the index tables; each is a write
of one index slot, so the rule part may as well come first. -/
theorem delIndexCmds_spec (hd : Dims c) (h : WellLinked c.tableEntries c.total (indexLinks c)
    ihome irank) {i : Nat} (hi : (indexLinks c).occupied i) :
    ∃ cmd cmds, delIndexCmds c (entryOf c i).1 (entryOf c i).2 (findIndexRulePos c i) =
        cmd :: cmds ∧ (cmd.baseAddr = .indxTbl ∨ cmd.baseAddr = .indexExpnTbl) ∧
      ∃ j g, ∀ d, SameFrame c d →
        (cmd :: cmds).foldl Ip4TableCache.dmaOne d = d.modifyIndexSlot j g := by
  rw [findIndexRulePos_eq hd hi.1]
  split
  · rename_i hN
    rw [entryOf_of_lt hN]
    split
    · refine ⟨_, _, rfl, Or.inl rfl, i, (·.withEntry 0), fun d hs => ?_⟩
      rw [List.foldl_cons, List.foldl_nil, hd.indexEntryOffset hi.1 (by decide),
        dmaOne_indxTbl _ _ (by rw [hs.tableEntries]; exact hN) (by decide)]
      rfl
    · refine ⟨_, _, rfl, Or.inl rfl, i, fun _ => c.indexTableExpn
        (subU16 (c.indexRules false i).nextIndex c.tableEntries), fun d hs => ?_⟩
      have hN' : i < d.tableEntries := by rw [hs.tableEntries]; exact hN
      rw [List.foldl_cons, List.foldl_cons, List.foldl_nil, hd.indexEntryOffset hi.1 (by decide),
        hd.indexEntryOffset hi.1 (by decide), dmaOne_indxTbl _ _ hN' (by decide),
        dmaOne_indxTbl _ _ (by rwa [tableEntries_modifyIndexSlot]) (by decide),
        modifyIndexSlot_modifyIndexSlot]
      rfl
  · rename_i hN
    have hN : c.tableEntries ≤ i := Nat.le_of_not_lt hN
    have hp : c.indexPrev i < c.total := (h.prev_link hi hN).1.1
    have hbase : ∀ v, (indexNextCmd c (c.indexPrev i) v).baseAddr = .indxTbl ∨
        (indexNextCmd c (c.indexPrev i) v).baseAddr = .indexExpnTbl := by
      intro v
      unfold indexNextCmd
      split <;> simp
    rw [entryOf_of_le hN]
    split
    · refine ⟨_, _, rfl, hbase _, c.indexPrev i, (·.withNext 0), fun d hs => ?_⟩
      exact dmaOne_indexNextCmd hd hs hp 0
    · refine ⟨_, _, rfl, hbase _, c.indexPrev i,
        (·.withNext (c.indexRules true (i - c.tableEntries)).nextIndex), fun d hs => ?_⟩
      exact dmaOne_indexNextCmd hd hs hp _

theorem postDelDmaCmd_eq (h : LinkInv c home rank ihome irank) (he : Live c e) :
    postDelDmaCmd c true (entryOf c e).2 (entryOf c e).1
        (findRulePos c (entryOf c e).1 (entryOf c e).2) =
      (.ok (), dropIndex (dropRule c e) (c.slot e).indxTblEntry) := by
  obtain ⟨hio, hie⟩ := h.index_of_rule e he
  generalize hi : (c.slot e).indxTblEntry = i at hio hie
  have hen : (c.slot e).enable = true := he.1.2
  obtain ⟨cmd, cmds, hcmds, hbase, j, g, hfold⟩ := delIndexCmds_spec h.dims h.index hio
  have hfull : (if c.tableEntries ≤ i then (true, subU16 i c.tableEntries) else (false, i)) =
      entryOf c i := by
    unfold entryOf
    split
    · rename_i hN
      rw [h.dims.subU16_base hN hio.1]
    · rfl
  -- the rule command is carried out last, on the table with the index commands applied
  have hs := modifyIndexSlot_sameFrame c j g
  have hrule := delRuleFixup_eq h.dims hs (slot_modifyIndexSlot ..) (e := e)
    (fun hN => ⟨(h.rules.prev_link he.1 hN).1.1, h.rules.prev_ne_self he.1 hN⟩)
    (fun hn => ⟨(h.rules.next_link he.1 hn).1, (h.rules.next_link he.1 hn).2.1.1⟩)
  have hframe := dropRule_sameFrame c e
  unfold postDelDmaCmd
  simp only [rules_entryOf, hen, hi, hfull, hcmds, Bool.true_eq_false, if_false]
  rw [reorderCmds_cons _ _ _ (delRuleCmd_baseAddr ..) hbase, natDma_cons,
    hfold c (SameFrame.refl c),
    hrule, dropRule_modifyIndexSlot, ← hfold _ hframe, ← hcmds, indexRules_entryOf]
  have hnext : (c.indexSlot i).nextIndex ≠ 0 → c.tableEntries ≤ (c.indexSlot i).nextIndex ∧
      (indexLinks c).occupied (c.indexSlot i).nextIndex :=
    fun hn => ⟨(h.index.next_link hio hn).1, (h.index.next_link hio hn).2.1⟩
  have hpos := findIndexRulePos_eq h.dims hio.1
  unfold dropIndex
  rw [hframe.tableEntries, dropRule_indexSlot]
  by_cases hN : i < c.tableEntries
  · rw [if_pos hN] at hpos ⊢
    rw [entryOf_of_lt hN]
    by_cases h0 : (c.indexSlot i).nextIndex = 0
    · rw [if_pos h0] at hpos ⊢
      rw [hpos, if_neg (by decide)]
      exact congrArg _ (dropIndex_onlyOne_eq h.dims hframe hN)
    · rw [if_neg h0] at hpos ⊢
      rw [hpos, if_pos rfl]
      obtain ⟨hyN, hyo⟩ := hnext h0
      have hy := h.index.next_link hyo
      exact congrArg _ (dropIndex_head_eq h.dims hframe (dropRule_indexSlot c e) hN rfl hyN hyo.1
        (fun hn => ⟨(hy hn).1, (hy hn).2.1.1⟩) (h.rule_of_index _ hyo).1.1.1)
  · rw [if_neg hN] at hpos ⊢
    have hN := Nat.le_of_not_lt hN
    have hne : findIndexRulePos c i ≠ .head := by
      rw [hpos]
      split <;> simp
    rw [if_neg hne, hpos, entryOf_of_le hN]
    exact congrArg _ (dropIndex_expn_eq h.dims hframe (dropRule_indexSlot c e) (dropRule_meta c e)
      hN (h.index.prev_link hio hN).1.1 (h.index.prev_ne_self hio hN)
      fun hn => ⟨(hnext hn).1, (hnext hn).2.1⟩)

/-- The table after `ipa_nati_post_del_dma_cmd` and the sweep. -/
def dropped (c : Ip4TableCache) (e : Nat) : Ip4TableCache :=
  delDeadIpv4HeadNodes (dropIndex (dropRule c e) (c.slot e).indxTblEntry)

theorem dropped_spec (h : LinkInv c home rank ihome irank) (he : Live c e) :
    SameFrame c (dropped c e) ∧ (dropped c e).ruleIdArray = c.ruleIdArray ∧
      LinkInv (dropped c e) home rank ihome irank ∧
      (∀ x, Live (dropped c e) x ↔ x ≠ e ∧ Live c x) ∧
      ∀ x, Live (dropped c e) x → ((dropped c e).slot x).client = (c.slot x).client := by
  obtain ⟨hk, hu⟩ := (h.dropRule he).dropIndex
  have hlive : ∀ x, Live (dropped c e) x ↔ x ≠ e ∧ Live c x := by
    intro x
    unfold dropped
    rw [delDeadIpv4HeadNodes_live, hk.live, dropRule_live he]
  refine ⟨(dropRule_sameFrame c e).trans (hk.frame.trans (delDeadIpv4HeadNodes_sameFrame _)),
    hk.ids.trans (dropRule_ruleIdArray c e), hu.delDead, hlive, fun x hx => ?_⟩
  have hxe := ((hlive x).mp hx).1
  unfold dropped at hx ⊢
  rw [delDeadIpv4HeadNodes_live] at hx
  rw [((delDeadIpv4HeadNodes_slot _ x).resolve_left fun hd => hx.2 hd.1.2.1).2, hk.client,
    (NatRule.of_body_eq (dropRule_slot_of_ne hxe).1).1]

theorem natiDelIpv4Rule_live (h : LinkInv c home rank ihome irank) (he : Live c e) {ruleHdl : Nat}
    (hid : parseIpv4RuleHdl c (u16 ruleHdl) = entryOf c e) :
    natiDelIpv4Rule c true ruleHdl = (.ok (), { dropped c e with
      ruleIdArray := Function.update c.ruleIdArray ((ruleHdl : Int) - 1) 0 }) := by
  have he0 : (entryOf c e).2 ≠ 0 := by
    have hpos := h.rules.pos he.1
    have hN := h.rules.ne_overflow_null he.1
    unfold entryOf
    split
    · rename_i hle
      change e - c.tableEntries ≠ 0
      omega
    · exact hpos.ne'
  unfold natiDelIpv4Rule
  simp only [hid, he0, if_false, h.dims.valid, Bool.true_eq_false, postDelDmaCmd_eq h he]
  have hids := (dropped_spec h he).2.1
  unfold dropped at hids ⊢
  rw [hids]

theorem natiDelIpv4Rule_invalid {ruleHdl : Nat}
    (hid : (parseIpv4RuleHdl c (u16 ruleHdl)).2 = 0) (ok : Bool) :
    natiDelIpv4Rule c ok ruleHdl = (.error .einval, c) := by
  unfold natiDelIpv4Rule
  simp only [hid, if_true]

end

end LibraDevice.IpaNat
