import LibraDevice.IpaNat.RuleStore

/-!
Additions that fail. A rule without a slot is refused before anything is written,
but the writes made before the enable command are not taken back. The results
hold in any state, whatever became of earlier commands.
-/

namespace LibraDevice.IpaNat

open LinkedChains Ip4TableCache

/-- The walk from slot `x` runs into an entry that is its own successor. -/
inductive RunsIntoLoop (next : Nat → Nat) : Nat → Prop
  | self {x : Nat} : x ≠ 0 → next x = x → RunsIntoLoop next x
  | step {x : Nat} : x ≠ 0 → RunsIntoLoop next (next x) → RunsIntoLoop next x

/-- The walk from slot `x` ends in slot `y`. -/
inductive EndsIn (next : Nat → Nat) (y : Nat) : Nat → Prop
  | last : y ≠ 0 → next y = 0 → EndsIn next y y
  | step {x : Nat} : x ≠ 0 → next x ≠ x → EndsIn next y (next x) → EndsIn next y x

/-- The successor of an expansion rule, as the walks read it. -/
def expnRuleNext (c : Ip4TableCache) (e : Nat) : Nat :=
  (c.ipv4ExpnRules (subU16 e c.tableEntries)).nextIndex

def expnIndexNext (c : Ip4TableCache) (i : Nat) : Nat :=
  (c.indexTableExpn (subU16 i c.tableEntries)).nextIndex

/-- No slot for the rule: its base slot is taken, and the chain there runs into
a loop or no expansion slot is free. -/
def DstBlocked (c : Ip4TableCache) (r : Ipv4Rule) : Prop :=
  (c.ipv4Rules (dstSlot c r)).enable = true ∧
    (RunsIntoLoop (expnRuleNext c) (c.ipv4Rules (dstSlot c r)).nextIndex ∨
      ∀ k, 1 ≤ k → k < c.expnTableEntries → (c.ipv4ExpnRules k).enable = true)

/-- No slot for its index entry, or only one that the chain already ends in. -/
def SrcBlocked (c : Ip4TableCache) (r : Ipv4Rule) : Prop :=
  (c.indexTable (srcSlot c r)).tblEntry ≠ 0 ∧
    (RunsIntoLoop (expnIndexNext c) (c.indexTable (srcSlot c r)).nextIndex ∨
      (∀ k, 1 ≤ k → k < c.expnTableEntries → (c.indexTableExpn k).tblEntry ≠ 0) ∨
      EndsIn (expnIndexNext c)
        (indexExpnGetFreeEntry c.indexTableExpn c.expnTableEntries + c.tableEntries)
        (c.indexTable (srcSlot c r)).nextIndex)

/-- `rule_id_array` has a free cell. -/
def IdFree (c : Ip4TableCache) : Prop := ∃ k : Nat, k < c.total ∧ c.ruleIdArray k = 0

section

variable {next : Nat → Nat} {x y : Nat}

theorem not_runsIntoLoop_zero : ¬ RunsIntoLoop next 0 := by
  intro h
  cases h with
  | self h0 _ => exact h0 rfl
  | step h0 _ => exact h0 rfl

theorem RunsIntoLoop.of_step (h : RunsIntoLoop next x) (hne : next x ≠ x) :
    RunsIntoLoop next (next x) := by
  cases h with
  | self _ heq => exact absurd heq hne
  | step _ h => exact h

theorem not_endsIn_zero (hy : y ≠ 0) : ¬ EndsIn next y 0 := by
  intro h
  cases h with
  | last h0 _ => exact h0 rfl
  | step h0 _ _ => exact h0 rfl

theorem walkToLast_none {fuel prev : Nat} (h : walkToLast next fuel prev x = some none) :
    RunsIntoLoop next x := by
  induction fuel generalizing prev x with
  | zero => cases h
  | succ fuel ih =>
      unfold walkToLast at h
      split at h
      · cases h
      · rename_i h0
        split at h
        · rename_i heq
          exact .self h0 heq
        · exact .step h0 (ih h)

theorem walkToLast_some {fuel prev p : Nat} (h : walkToLast next fuel prev x = some (some p)) :
    ¬ RunsIntoLoop next x ∧ (y ≠ 0 → x ≠ 0 → (p = y ↔ EndsIn next y x)) := by
  induction fuel generalizing prev x with
  | zero => cases h
  | succ fuel ih =>
      unfold walkToLast at h
      split at h
      · rename_i h0
        rw [h0]
        exact ⟨not_runsIntoLoop_zero, fun _ hne => absurd rfl hne⟩
      · rename_i h0
        split at h
        · cases h
        · rename_i hne
          obtain ⟨hloop, hend⟩ := ih h
          refine ⟨fun hl => hloop (hl.of_step hne), fun hy _ => ?_⟩
          by_cases hn0 : next x = 0
          · -- the walk stops here, at `x`
            have hp : p = x := by
              rw [hn0] at h
              cases fuel with
              | zero => cases h
              | succ fuel =>
                  simp only [walkToLast, if_true, Option.some.injEq] at h
                  exact h.symm
            rw [hp]
            constructor
            · rintro rfl
              exact .last hy hn0
            · intro hE
              cases hE with
              | last _ _ => rfl
              | step _ _ hE =>
                  rw [hn0] at hE
                  exact absurd hE (not_endsIn_zero hy)
          · rw [hend hy hn0]
            constructor
            · exact .step h0 hne
            · intro hE
              cases hE with
              | last _ hz => exact absurd hz hn0
              | step _ _ hE => exact hE

end

section

variable {c c' : Ip4TableCache} {r : Ipv4Rule}

theorem collisionPrev_cases {next : Nat → Nat} {entry nxtIndx : Nat} {res : Option Nat}
    (h : collisionPrev next entry nxtIndx = some res) :
    (res = none ∧ RunsIntoLoop next nxtIndx) ∨
      ∃ p, res = some p ∧ ¬ RunsIntoLoop next nxtIndx ∧
        ∀ y, y ≠ 0 → y ≠ entry → (p = y ↔ EndsIn next y nxtIndx) := by
  unfold collisionPrev at h
  split at h
  · rename_i h0
    obtain rfl : some entry = res := Option.some.inj h
    refine Or.inr ⟨entry, rfl, h0 ▸ not_runsIntoLoop_zero, fun y hy hne => ?_⟩
    rw [h0]
    exact ⟨fun heq => absurd heq.symm hne, fun hE => absurd hE (not_endsIn_zero hy)⟩
  · rename_i h0
    cases res with
    | none => exact Or.inl ⟨rfl, walkToLast_none h⟩
    | some p =>
        exact Or.inr ⟨p, rfl, (walkToLast_some (y := 0) h).1,
          fun y hy _ => (walkToLast_some h).2 hy h0⟩

theorem generateTblRule_cases (hd : Dims c) {p e : Nat} (h : generateTblRule c r = some (p, e)) :
    (e = 0 ∧ DstBlocked c r) ∨ (e ≠ 0 ∧ ¬ DstBlocked c r) := by
  obtain ⟨hpos, _⟩ := hd.dstSlot_mem r
  unfold generateTblRule at h
  dsimp only at h
  split at h
  · rename_i hen
    obtain ⟨-, rfl⟩ := Prod.mk.inj (Option.some.inj h)
    refine Or.inr ⟨hpos.ne', fun hb => ?_⟩
    rw [hb.1] at hen
    cases hen
  · rename_i hen
    have hen : (c.ipv4Rules (dstSlot c r)).enable = true := by simpa using hen
    obtain ⟨res, hres, hpe⟩ := Option.map_eq_some_iff.mp h
    rcases collisionPrev_cases hres with ⟨rfl, hloop⟩ | ⟨prev, rfl, hloop, -⟩
    · obtain ⟨-, rfl⟩ := Prod.mk.inj hpe
      exact Or.inl ⟨rfl, hen, Or.inl hloop⟩
    · obtain ⟨-, rfl⟩ := Prod.mk.inj hpe
      rcases expnTblFreeEntry_spec c.ipv4ExpnRules c.expnTableEntries with
        ⟨hz, hall⟩ | ⟨h1, hk, hfree⟩
      · rw [if_pos hz]
        exact Or.inl ⟨rfl, hen, Or.inr hall⟩
      · obtain ⟨hu, hNe, -⟩ := hd.expn_entry h1 hk
        rw [if_neg (by omega), hu]
        refine Or.inr ⟨by omega, ?_⟩
        rintro ⟨-, hl | hall⟩
        · exact hloop hl
        · rw [hall _ h1 hk] at hfree
          cases hfree

theorem generateIndexRule_cases (hd : Dims c) {p i : Nat}
    (h : generateIndexRule c r = some (p, i)) :
    (i = 0 ∧ SrcBlocked c r) ∨
      (i ≠ 0 ∧ ¬ SrcBlocked c r ∧ i < c.total ∧ (c.indexSlot i).tblEntry = 0) := by
  obtain ⟨hpos, hlt⟩ := hd.srcSlot_mem r
  unfold generateIndexRule at h
  dsimp only at h
  split at h
  · rename_i hen
    obtain ⟨-, rfl⟩ := Prod.mk.inj (Option.some.inj h)
    refine Or.inr ⟨hpos.ne', fun hb => absurd hen hb.1, lt_total hlt, ?_⟩
    rw [indexSlot_of_lt hlt, hen]
  · rename_i hen
    obtain ⟨res, hres, hpe⟩ := Option.map_eq_some_iff.mp h
    rcases collisionPrev_cases hres with ⟨rfl, hloop⟩ | ⟨prev, rfl, hloop, hend⟩
    · obtain ⟨-, rfl⟩ := Prod.mk.inj hpe
      exact Or.inl ⟨rfl, hen, Or.inl hloop⟩
    · rcases indexExpnGetFreeEntry_spec c.indexTableExpn c.expnTableEntries with
        ⟨hz, hall⟩ | ⟨h1, hk, hfree⟩
      · simp only [hz, if_true] at hpe
        obtain ⟨-, rfl⟩ := Prod.mk.inj hpe
        exact Or.inl ⟨rfl, hen, Or.inr (Or.inl hall)⟩
      · obtain ⟨hu, hNe, heT, -, hes⟩ := hd.expn_entry h1 hk
        have hf0 : indexExpnGetFreeEntry c.indexTableExpn c.expnTableEntries ≠ 0 := by omega
        have hiff := hend (indexExpnGetFreeEntry c.indexTableExpn c.expnTableEntries +
          c.tableEntries) (by omega) (by omega)
        simp only [hf0, if_false, hu] at hpe
        split at hpe
        · rename_i hp
          obtain ⟨-, rfl⟩ := Prod.mk.inj hpe
          exact Or.inl ⟨rfl, hen, Or.inr (Or.inr (hiff.mp hp))⟩
        · rename_i hp
          obtain ⟨-, rfl⟩ := Prod.mk.inj hpe
          refine Or.inr ⟨by omega, ?_, heT, by rw [hes, hfree]⟩
          rintro ⟨-, hl | hall | hE⟩
          · exact hloop hl
          · exact hall _ h1 hk hfree
          · exact hp (hiff.mpr hE)

/-- A command that writes a rule or the successor of an index entry leaves the
rules the index entries name. -/
theorem natDma_tblEntry (c : Ip4TableCache) (ok : Bool) (cmd : NatDmaOne)
    (hcmd : cmd.baseAddr = .baseTbl ∨ cmd.baseAddr = .expnTbl ∨ cmd.offset % 4 = 2) (i : Nat) :
    ((c.natDma ok [cmd]).indexSlot i).tblEntry = (c.indexSlot i).tblEntry := by
  obtain ⟨baseAddr, offset, data⟩ := cmd
  have hcell : ∀ tbl : Nat → IndxTblRule, offset % 4 = 2 → ∀ k,
      (Function.update tbl (offset / indexTableEntrySize)
        ((tbl (offset / indexTableEntrySize)).write16 (offset % indexTableEntrySize)
          data) k).tblEntry
          = (tbl k).tblEntry := by
    intro tbl hoff k
    rw [Function.update_apply]
    split
    · rename_i hk
      rw [hk, indexTableEntrySize, hoff]
      rfl
    · rfl
  cases ok with
  | false => rfl
  | true =>
      change ((c.dmaOne ⟨baseAddr, offset, data⟩).indexSlot i).tblEntry = _
      cases baseAddr with
      | baseTbl => rfl
      | expnTbl => rfl
      | indxTbl =>
          have hoff : offset % 4 = 2 := by simpa using hcmd
          unfold dmaOne indexSlot
          dsimp only
          split
          · exact hcell _ hoff i
          · rfl
      | indexExpnTbl =>
          have hoff : offset % 4 = 2 := by simpa using hcmd
          unfold dmaOne indexSlot
          dsimp only
          split
          · rfl
          · exact hcell _ hoff _

theorem natDma_sameFrame (c : Ip4TableCache) (ok : Bool) (cmd : NatDmaOne) :
    SameFrame c (c.natDma ok [cmd]) ∧ (c.natDma ok [cmd]).ruleIdArray = c.ruleIdArray := by
  obtain ⟨baseAddr, offset, data⟩ := cmd
  cases ok <;> cases baseAddr <;> exact ⟨⟨rfl, rfl, rfl, rfl, rfl⟩, rfl⟩

/-- What stays of a table while a rule is placed: everything but the rules, the
chains and the index entry `i`. -/
structure KeepsIndex (c c' : Ip4TableCache) : Prop where
  frame : SameFrame c c'
  ids : c'.ruleIdArray = c.ruleIdArray
  tblEntry : ∀ i, (c'.indexSlot i).tblEntry = (c.indexSlot i).tblEntry

theorem KeepsIndex.trans {a b d : Ip4TableCache} (h : KeepsIndex a b) (h' : KeepsIndex b d) :
    KeepsIndex a d where
  frame := h.frame.trans h'.frame
  ids := h'.ids.trans h.ids
  tblEntry := fun i => (h'.tblEntry i).trans (h.tblEntry i)

theorem natDma_keepsIndex (c : Ip4TableCache) (ok : Bool) (cmd : NatDmaOne)
    (hcmd : cmd.baseAddr = .baseTbl ∨ cmd.baseAddr = .expnTbl ∨ cmd.offset % 4 = 2) :
    KeepsIndex c (c.natDma ok [cmd]) where
  frame := (natDma_sameFrame c ok cmd).1
  ids := (natDma_sameFrame c ok cmd).2
  tblEntry := natDma_tblEntry c ok cmd hcmd

theorem copyIpv4RuleToHw_keepsIndex (c : Ip4TableCache) (ok : Bool) (rule : NatRule) (e : Nat) :
    KeepsIndex c (copyIpv4RuleToHw c ok rule e) := by
  have hcopy : KeepsIndex c (if e < c.tableEntries then
        c.setRules false (Function.update c.ipv4Rules e rule)
      else c.setRules true (Function.update c.ipv4ExpnRules (subU16 e c.tableEntries) rule)) := by
    split <;> exact ⟨⟨rfl, rfl, rfl, rfl, rfl⟩, rfl, fun _ => rfl⟩
  unfold copyIpv4RuleToHw
  dsimp only
  generalize (if e < c.tableEntries then
      c.setRules false (Function.update c.ipv4Rules e rule)
    else c.setRules true (Function.update c.ipv4ExpnRules (subU16 e c.tableEntries) rule)) = d
    at hcopy ⊢
  split
  · exact hcopy
  · split
    · exact hcopy.trans (natDma_keepsIndex _ _ _ (Or.inl rfl))
    · exact hcopy.trans (natDma_keepsIndex _ _ _ (Or.inr (Or.inl rfl)))

theorem copyIpv4IndexRuleToHw_tblEntry (hd : Dims c) (ok : Bool) (swRule : IndxTblSwRule) {i : Nat}
    (hi : i < c.total) :
    SameFrame c (copyIpv4IndexRuleToHw c ok swRule i) ∧
      (copyIpv4IndexRuleToHw c ok swRule i).ruleIdArray = c.ruleIdArray ∧
      ((copyIpv4IndexRuleToHw c ok swRule i).indexSlot i).tblEntry = swRule.tblEntry := by
  have hcopy : (if i < c.tableEntries then
        c.setIndexRules false
          (Function.update c.indexTable i ⟨swRule.tblEntry, swRule.nextIndex⟩)
      else c.setIndexRules true
        (Function.update c.indexTableExpn (subU16 i c.tableEntries)
          ⟨swRule.tblEntry, swRule.nextIndex⟩)) =
      c.modifyIndexSlot i fun _ => ⟨swRule.tblEntry, swRule.nextIndex⟩ := by
    unfold modifyIndexSlot
    split
    · rfl
    · rename_i hN
      rw [hd.subU16_base (Nat.le_of_not_lt hN) hi]
      rfl
  have hs := modifyIndexSlot_sameFrame c i fun _ => ⟨swRule.tblEntry, swRule.nextIndex⟩
  have hself : ((c.modifyIndexSlot i fun _ => ⟨swRule.tblEntry, swRule.nextIndex⟩).indexSlot
      i).tblEntry = swRule.tblEntry := by
    rw [indexSlot_modifyIndexSlot, Function.update_self]
  have hoff : ∀ k, u16 (u16 (getIndexEntryOffset
      (c.modifyIndexSlot i fun _ => ⟨swRule.tblEntry, swRule.nextIndex⟩) k) +
        indexRuleNextFieldOffset) % 4 = 2 := by
    intro k
    unfold getIndexEntryOffset u16 u32 indexTableEntrySize indexRuleNextFieldOffset
    rw [hs.tblAddrOffset, hd.offset]
    omega
  have hlink : ∀ d, KeepsIndex (c.modifyIndexSlot i fun _ =>
      ⟨swRule.tblEntry, swRule.nextIndex⟩) d → SameFrame c d ∧ d.ruleIdArray = c.ruleIdArray ∧
        (d.indexSlot i).tblEntry = swRule.tblEntry :=
    fun d hk => ⟨hs.trans hk.frame, hk.ids.trans (ruleIdArray_modifyIndexSlot ..),
      (hk.tblEntry i).trans hself⟩
  unfold copyIpv4IndexRuleToHw
  dsimp only
  rw [hcopy]
  split
  · exact ⟨hs, ruleIdArray_modifyIndexSlot .., hself⟩
  · split
    · exact hlink _ (natDma_keepsIndex _ _ _ (Or.inr (Or.inr (hoff _))))
    · exact hlink _ (natDma_keepsIndex _ _ _ (Or.inr (Or.inr (hoff _))))

end

/-- A request with the outcomes of its `ioctl`s. -/
inductive NatRequest where
  | add (dma : AddDma) (clntRule : Ipv4Rule)
  | del (ok : Bool) (ruleHdl : UInt32)

/-- What a request returns, a deletion the handle zero. -/
def reply (c : Ip4TableCache) : NatRequest → Option (Except Errno Nat × Ip4TableCache)
  | .add dma clntRule => ipaNatAddIpv4Rule c dma clntRule
  | .del ok ruleHdl =>
      let (res, c) := ipaNatDelIpv4Rule c ok ruleHdl.toNat
      some (res.map fun _ => 0, c)

/-- What a sequence of requests returns. -/
def replies (c : Ip4TableCache) : List NatRequest → Option (List (Except Errno Nat))
  | [] => some []
  | req :: reqs => do
      let (res, c) ← reply c req
      let rest ← replies c reqs
      return res :: rest

/-- `c'` cannot be told from `c`: the same occupied slots, chains and ids, and
the same replies to all further requests. -/
structure Unaffected (c c' : Ip4TableCache) : Prop where
  rule_occupied : ∀ e, (ruleLinks c').occupied e ↔ (ruleLinks c).occupied e
  rule_chain : ∀ b l, (ruleLinks c').Chain b l ↔ (ruleLinks c).Chain b l
  index_occupied : ∀ i, (indexLinks c').occupied i ↔ (indexLinks c).occupied i
  index_chain : ∀ b l, (indexLinks c').Chain b l ↔ (indexLinks c).Chain b l
  index_prev : c'.indexExpnTableMeta = c.indexExpnTableMeta
  ids : c'.ruleIdArray = c.ruleIdArray
  later : ∀ reqs, replies c' reqs = replies c reqs

theorem Unaffected.refl (c : Ip4TableCache) : Unaffected c c :=
  ⟨fun _ => Iff.rfl, fun _ _ => Iff.rfl, fun _ => Iff.rfl, fun _ _ => Iff.rfl, rfl, rfl,
    fun _ => rfl⟩

section

variable {c c' : Ip4TableCache} {r : Ipv4Rule}

theorem makeRuleHdl_of_idFree (e : Nat) (hfree : IdFree c) :
    ∃ k c', makeRuleHdl c e = (k + 1, c') := by
  obtain ⟨k, hk, h0⟩ := hfree
  unfold makeRuleHdl
  dsimp only
  rcases hfind : (List.range (c.tableEntries + c.expnTableEntries)).find?
    (fun cnt : Nat => c.ruleIdArray cnt == 0) with _ | cnt
  · rw [List.find?_eq_none] at hfind
    exact absurd (beq_iff_eq.mpr h0) (hfind k (List.mem_range.mpr hk))
  · exact ⟨cnt, _, rfl⟩

theorem makeRuleHdl_of_not_idFree (e : Nat) (hfull : ¬ IdFree c) : makeRuleHdl c e = (0, c) := by
  unfold makeRuleHdl
  dsimp only
  rcases hfind : (List.range (c.tableEntries + c.expnTableEntries)).find?
    (fun cnt : Nat => c.ruleIdArray cnt == 0) with _ | cnt
  · rfl
  · have hmem := List.mem_of_find?_eq_some hfind
    have h0 := List.find?_some hfind
    exact absurd ⟨cnt, List.mem_range.mp hmem, beq_iff_eq.mp h0⟩ hfull

theorem generateRule_cases (hd : Dims c) {gen : Option (GeneratedRule × Ip4TableCache)}
    (h : generateRule c r = some gen) :
    ((DstBlocked c r ∨ SrcBlocked c r) ∧ gen = none) ∨
      (¬ DstBlocked c r ∧ ¬ SrcBlocked c r ∧ ∃ p e ip i, e ≠ 0 ∧ i < c.total ∧
        (c.indexSlot i).tblEntry = 0 ∧
        gen = some (⟨{ swRuleOf c r with prevIndex := p, indxTblEntry := i }, ⟨e, 0, ip⟩, e, i⟩,
          recordPrev c i ip)) := by
  unfold generateRule at h
  obtain ⟨⟨p, e⟩, hdst, h⟩ := Option.bind_eq_some_iff.mp h
  dsimp only at h
  rcases generateTblRule_cases hd hdst with ⟨rfl, hb⟩ | ⟨he0, hdb⟩
  · exact Or.inl ⟨Or.inl hb, (Option.some.inj h).symm⟩
  · rw [if_neg he0] at h
    obtain ⟨⟨ip, i⟩, hsrc, h⟩ := Option.bind_eq_some_iff.mp h
    dsimp only at h
    rcases generateIndexRule_cases hd hsrc with ⟨rfl, hb⟩ | ⟨hi0, hsb, hiT, hizero⟩
    · exact Or.inl ⟨Or.inr hb, (Option.some.inj h).symm⟩
    · rw [if_neg hi0] at h
      exact Or.inr ⟨hdb, hsb, p, e, ip, i, he0, hiT, hizero, (Option.some.inj h).symm⟩

theorem copyToHw_occupied (hd : Dims c) (dma : AddDma) (rule : NatRule) (ip : Nat) {e i : Nat}
    (he0 : e ≠ 0) (hi : i < c.total) :
    let d := copyIpv4IndexRuleToHw
      (copyIpv4RuleToHw (recordPrev c i ip) dma.ruleNext rule e) dma.indexNext ⟨e, 0, ip⟩ i
    SameFrame c d ∧ d.ruleIdArray = c.ruleIdArray ∧ (indexLinks d).occupied i := by
  intro d
  have hk : KeepsIndex c (recordPrev c i ip) :=
    ⟨recordPrev_sameFrame c i ip, recordPrev_ruleIdArray c i ip,
      fun j => by rw [recordPrev_indexSlot]⟩
  have hk' := hk.trans (copyIpv4RuleToHw_keepsIndex (recordPrev c i ip) dma.ruleNext rule e)
  obtain ⟨hs, hids, hentry⟩ := copyIpv4IndexRuleToHw_tblEntry (hd.of_sameFrame hk'.frame)
    dma.indexNext ⟨e, 0, ip⟩ (i := i) (by rw [hk'.frame.total_eq]; exact hi)
  refine ⟨hk'.frame.trans hs, hids.trans hk'.ids, ?_, ?_⟩
  · rw [(hk'.frame.trans hs).total_eq]
    exact hi
  · rw [hentry]
    exact he0

/-- A call that returns either was refused untouched, or has set a free index
entry and then fails unless the rule is enabled and finds an id. -/
theorem ipaNatAddIpv4Rule_cases (hd : Dims c) {dma : AddDma} {res : Except Errno Nat}
    (h : ipaNatAddIpv4Rule c dma r = some (res, c')) :
    ((DstBlocked c r ∨ SrcBlocked c r) ∧ res = .error .einval ∧ c' = c) ∨
      (¬ DstBlocked c r ∧ ¬ SrcBlocked c r ∧
        ((∃ err, res = .error err) ↔ ¬ (dma.enable = true ∧ IdFree c)) ∧
        ∃ i, ¬ (indexLinks c).occupied i ∧
          ((∃ err, res = .error err) → (indexLinks c').occupied i)) := by
  obtain ⟨⟨res', d⟩, hnati, hres⟩ := Option.map_eq_some_iff.mp h
  obtain ⟨gen, hgen, hgen'⟩ := Option.map_eq_some_iff.mp hnati
  rcases generateRule_cases hd hgen with ⟨hb, rfl⟩ | ⟨hdb, hsb, p, e, ip, i, he0, hiT, hi0, rfl⟩
  · obtain ⟨rfl, rfl⟩ := Prod.mk.inj hgen'
    obtain ⟨rfl, rfl⟩ := Prod.mk.inj hres
    exact Or.inl ⟨hb, rfl, rfl⟩
  · refine Or.inr ⟨hdb, hsb, ?_⟩
    obtain ⟨hs, hids, hocc⟩ := copyToHw_occupied hd dma
      { swRuleOf c r with prevIndex := p, indxTblEntry := i } ip he0 hiT
    have hfree : ¬ (indexLinks c).occupied i := fun ho => ho.2 hi0
    dsimp only at hgen' hs hids hocc
    generalize copyIpv4IndexRuleToHw _ dma.indexNext ⟨e, 0, ip⟩ i = d₁ at hgen' hs hids hocc
    -- the enable command writes a rule, the index entry stays set
    have hk : KeepsIndex d₁ (d₁.natDma dma.enable [enableCmd d₁ e]) := by
      refine natDma_keepsIndex _ _ _ ?_
      unfold enableCmd
      split
      · exact Or.inl rfl
      · exact Or.inr (Or.inl rfl)
    have hocc' : (indexLinks (d₁.natDma dma.enable [enableCmd d₁ e])).occupied i := by
      refine ⟨?_, ?_⟩
      · rw [hk.frame.total_eq]
        exact hocc.1
      · rw [hk.tblEntry]
        exact hocc.2
    have hid : IdFree (d₁.natDma dma.enable [enableCmd d₁ e]) ↔ IdFree c := by
      unfold IdFree
      rw [hk.ids, hids, hk.frame.total_eq, hs.total_eq]
    unfold postIpv4DmaCmd at hgen'
    cases hen : dma.enable with
    | false =>
        simp only [hen] at hgen' hocc'
        obtain ⟨rfl, rfl⟩ := Prod.mk.inj hgen'
        obtain ⟨rfl, rfl⟩ := Prod.mk.inj hres
        refine ⟨⟨fun _ hok => absurd hok.1 (by decide), fun _ => ⟨_, rfl⟩⟩, i, hfree,
          fun _ => hocc'⟩
    | true =>
        simp only [hen, if_true] at hgen' hocc' hid
        by_cases hf : IdFree c
        · obtain ⟨k, d₂, hmake⟩ := makeRuleHdl_of_idFree e (hid.mpr hf)
          rw [hmake] at hgen'
          obtain ⟨rfl, rfl⟩ := Prod.mk.inj hgen'
          obtain ⟨rfl, rfl⟩ := Prod.mk.inj hres
          refine ⟨⟨?_, fun hno => absurd ⟨rfl, hf⟩ hno⟩, i, hfree, ?_⟩
          · rintro ⟨err, ⟨⟩⟩
          · rintro ⟨err, ⟨⟩⟩
        · rw [makeRuleHdl_of_not_idFree e (fun hf' => hf (hid.mp hf'))] at hgen'
          obtain ⟨rfl, rfl⟩ := Prod.mk.inj hgen'
          obtain ⟨rfl, rfl⟩ := Prod.mk.inj hres
          exact ⟨⟨fun _ hok => hf hok.2, fun _ => ⟨_, rfl⟩⟩, i, hfree, fun _ => hocc'⟩

/-- A failed addition goes unnoticed exactly when the rule had no slot; it is
no failure when the rule is enabled and finds an id. -/
theorem unaffected_of_failed_add_iff (hd : Dims c) {dma : AddDma} {res : Except Errno Nat}
    (h : ipaNatAddIpv4Rule c dma r = some (res, c')) :
    ((∃ err, res = .error err) → Unaffected c c') ↔
      DstBlocked c r ∨ SrcBlocked c r ∨ (dma.enable = true ∧ IdFree c) := by
  rcases ipaNatAddIpv4Rule_cases hd h with ⟨hb, -, rfl⟩ | ⟨hdst, hsrc, hres, i, hfree, hocc⟩
  · refine ⟨fun _ => ?_, fun _ _ => Unaffected.refl _⟩
    rcases hb with hb | hb
    · exact Or.inl hb
    · exact Or.inr (Or.inl hb)
  · constructor
    · intro hun
      refine Or.inr (Or.inr ?_)
      by_contra hno
      have herr := hres.mpr hno
      exact hfree (((hun herr).index_occupied i).mp (hocc herr))
    · rintro (hb | hb | hok) herr
      · exact absurd hb hdst
      · exact absurd hb hsrc
      · exact absurd hok (hres.mp herr)

end

/-- The table after an addition the enable command of which failed. -/
def tableHalf : Ip4TableCache :=
  ((ipaNatAddIpv4Rule smallTable ⟨true, true, false⟩ ruleA).map Prod.snd).getD smallTable

theorem ipaNatAddIpv4Rule_half : ipaNatAddIpv4Rule smallTable ⟨true, true, false⟩ ruleA =
    some (.error .einval, tableHalf) := rfl

theorem dims_smallTable : Dims smallTable :=
  ⟨by decide, by decide, by decide, by decide, rfl, rfl⟩

theorem unaffected_tableHalf_iff :
    ((∃ err, (Except.error Errno.einval : Except Errno Nat) = .error err) →
      Unaffected smallTable tableHalf) ↔
      DstBlocked smallTable ruleA ∨ SrcBlocked smallTable ruleA ∨
        (false = true ∧ IdFree smallTable) :=
  unaffected_of_failed_add_iff dims_smallTable ipaNatAddIpv4Rule_half

/-- The index entry of a rule that was never enabled stays behind. -/
theorem not_unaffected_failed_enable :
    ∃ c', ipaNatAddIpv4Rule smallTable ⟨true, true, false⟩ ruleA = some (.error .einval, c') ∧
      ¬ Unaffected smallTable c' := by
  refine ⟨tableHalf, ipaNatAddIpv4Rule_half, fun h => ?_⟩
  have hocc : (indexLinks tableHalf).occupied 1 := ⟨by decide, by decide⟩
  exact absurd ((h.index_occupied 1).mp hocc).2 (by decide)

end LibraDevice.IpaNat
