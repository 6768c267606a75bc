import LibraDevice.Lib.StepRun
import LibraDevice.IpaNat.RuleIds

/-!
The NAT driver as a store of rules. Over runs of additions and deletions the
tables stay well formed, and the store is a finite map from handles to rules.
-/

namespace LibraDevice.IpaNat

open LinkedChains Ip4TableCache StepRun

/-- The two requests on a table. -/
inductive NatCall where
  | add (clntRule : Ipv4Rule)
  | del (ruleHdl : UInt32)
deriving DecidableEq, Repr

/-- A request whose commands are all carried out. -/
def natCall (c : Ip4TableCache) : NatCall → Option Ip4TableCache
  | .add clntRule => (ipaNatAddIpv4Rule c .allOk clntRule).map Prod.snd
  | .del ruleHdl => some (ipaNatDelIpv4Rule c true ruleHdl.toNat).2

def NatStep (c : Ip4TableCache) (call : NatCall) (c' : Ip4TableCache) : Prop :=
  natCall c call = some c'

/-- No client rule carries the protocol value that marks dead heads. -/
def ValidCall : NatCall → Prop
  | .add clntRule => clntRule.protocol ≠ invalidProtoFieldCmp
  | .del _ => True

instance : DecidablePred ValidCall
  | .add clntRule => inferInstanceAs (Decidable (clntRule.protocol ≠ invalidProtoFieldCmp))
  | .del _ => inferInstanceAs (Decidable True)

/-- A handle with high bits set does not name a rule by its low half. -/
def HandleFits (c : Ip4TableCache) : NatCall → Prop
  | .add _ => True
  | .del ruleHdl => ruleHdl.toNat < 65536 ∨ (parseIpv4RuleHdl c (u16 ruleHdl.toNat)).2 = 0

/-- The requests under which the tables stay well formed. -/
def GoodCall (c : Ip4TableCache) (call : NatCall) : Prop := ValidCall call ∧ HandleFits c call

/-- The tables as chains of rules and of index entries. -/
structure WellFormed (c : Ip4TableCache) : Prop where
  rules : Chained c.tableEntries c.total (ruleLinks c)
  dst : ∀ b l, (ruleLinks c).occupied b → b < c.tableEntries → (ruleLinks c).Chain b l →
    ∀ e ∈ b :: l, (c.slot e).protocol ≠ invalidProtoFieldCmp → dstSlot c (c.slot e).client = b
  index : Chained c.tableEntries c.total (indexLinks c)
  src : ∀ b l, (indexLinks c).occupied b → b < c.tableEntries → (indexLinks c).Chain b l →
    ∀ i ∈ b :: l, srcSlot c (c.slot (c.indexSlot i).tblEntry).client = b
  index_of_rule : ∀ e, Live c e → (indexLinks c).occupied (c.slot e).indxTblEntry ∧
    (c.indexSlot (c.slot e).indxTblEntry).tblEntry = e
  rule_of_index : ∀ i, (indexLinks c).occupied i → Live c (c.indexSlot i).tblEntry ∧
    (c.slot (c.indexSlot i).tblEntry).indxTblEntry = i

section

variable {c c' : Ip4TableCache} {home rank ihome irank : Nat → Nat}

theorem LinkInv.wellFormed (h : LinkInv c home rank ihome irank) : WellFormed c where
  rules := h.rules.chained
  dst := by
    intro b l hb hbN hl e he hp
    obtain ⟨ho, hh⟩ := h.rules.home_of_chain hb hbN hl he
    exact (h.dst_home e ⟨ho, hp⟩).trans hh
  index := h.index.chained
  src := by
    intro b l hb hbN hl i hi
    obtain ⟨ho, hh⟩ := h.index.home_of_chain hb hbN hl hi
    exact (h.rule_of_index i ho).2.2.trans hh
  index_of_rule := h.index_of_rule
  rule_of_index := fun i hi => ⟨(h.rule_of_index i hi).1, (h.rule_of_index i hi).2.1⟩

theorem ipaNatAddIpv4Rule_full (h : TableInv c home rank ihome irank) {r : Ipv4Rule}
    (hfull : DstFull c r ∨ SrcFull c r) :
    ipaNatAddIpv4Rule c .allOk r = some (.error .einval, c) := by
  unfold ipaNatAddIpv4Rule
  rw [natiAddIpv4Rule_full h.toLinkInv .allOk hfull]
  rfl

theorem ipaNatAddIpv4Rule_ok (h : TableInv c home rank ihome irank) {r : Ipv4Rule}
    (hp : r.protocol ≠ invalidProtoFieldCmp) (hdst : ¬ DstFull c r) (hsrc : ¬ SrcFull c r) :
    ∃ ruleHdl c', ipaNatAddIpv4Rule c .allOk r = some (.ok ruleHdl, c') ∧ 0 < ruleHdl ∧
      ruleOfHandle c ruleHdl = none ∧
      ruleOfHandle c' = Function.update (ruleOfHandle c) ruleHdl (some r) ∧
      ∃ home' rank' ihome' irank', TableInv c' home' rank' ihome' irank' := by
  obtain ⟨p, e, ip, i, hf, hfi, hadd⟩ := natiAddIpv4Rule_placed h.toLinkInv hdst hsrc
  obtain ⟨hd0, hdN⟩ := h.dims.dstSlot_mem r
  have he0 := hf.pos hd0
  have heT := hf.lt_total (lt_total hdN)
  have heN : e ≠ c.tableEntries := by
    rcases hf with ⟨_, rfl, _⟩ | ⟨_, _, _, _, hNe, _⟩
    · exact hdN.ne
    · exact hNe.ne'
  have hnl : ¬ Live c e := fun hl => hf.not_occupied hl.1
  have hiT := hfi.lt_total (lt_total (h.dims.srcSlot_mem r).2)
  have hadded := added_placed (r := r) (Links.Fresh.prev_ne hf) (Links.Fresh.prev_ne hfi) hiT h.dims
  obtain ⟨k, hk, hk0, hmin⟩ := exists_first_free_id h he0 heN heT hnl
  -- the table with the rule enabled, and with its id filed
  generalize hd : (placed c r p e ip i).modifySlot e NatRule.enabled = d at hadded
  have hids : d.ruleIdArray = c.ruleIdArray := by
    rw [← hd]
    simp
  have hpost : postIpv4DmaCmd (placed c r p e ip i) true e = (.ok (), d) := by
    unfold postIpv4DmaCmd
    rw [← hd, ← dmaOne_enableCmd (h.dims.of_sameFrame (placed_sameFrame ..)) (SameFrame.refl _)
      (by rw [(placed_sameFrame ..).total_eq]; exact heT)]
    rfl
  have hmake := makeRuleHdl_eq (e := e) (k := k) (h.dims.of_sameFrame hadded.frame)
    (by rw [hadded.frame.total_eq]; exact heT) (by rw [hadded.frame.total_eq]; omega)
    (by rw [hids]; exact hk0) (by rw [hids]; exact hmin)
  rw [hadded.frame.ruleIdOf_eq] at hmake
  have hframe := hadded.frame.trans (setId_sameFrame d k (ruleIdOf c e))
  have hids' : (setId d k (ruleIdOf c e)).ruleIdArray =
      Function.update c.ruleIdArray k (ruleIdOf c e) := by rw [← hids]; rfl
  have hpos : ∀ x, Live c x → 0 < x := fun x hx => h.rules.pos hx.1
  obtain ⟨rank', irank', hlink⟩ := hadded.linkInv h.toLinkInv hp hf hfi
  have hidinv := h.toIdInv.insert hframe (fun x => hadded.live_iff heT hp) hpos he0 hnl hk hk0 hids'
  refine ⟨k + 1, setId d k (ruleIdOf c e), ?_, Nat.succ_pos k, ruleOfHandle_of_zero hk0, ?_,
    _, rank', _, irank', ⟨hlink.setId k (ruleIdOf c e), hidinv⟩⟩
  · unfold ipaNatAddIpv4Rule AddDma.allOk
    rw [hadd true, hpost]
    simp only [hmake]
    rfl
  · have hself : ((setId d k (ruleIdOf c e)).slot e).client = r := by
      change (d.slot e).client = r
      rw [hadded.slot_self]
      rfl
    have hother : ∀ x, Live c x →
        ((setId d k (ruleIdOf c e)).slot x).client = (c.slot x).client := by
      intro x hx
      change (d.slot x).client = _
      rw [hadded.slot_withNext (fun heq => hnl (heq ▸ hx))]
      rfl
    rw [ruleOfHandle_insert h.toIdInv hpos hframe he0 (by omega) hids' hother, hself]

theorem ipaNatDelIpv4Rule_live (h : TableInv c home rank ihome irank) {ruleHdl : Nat}
    {r : Ipv4Rule} (hr : ruleOfHandle c ruleHdl = some r) :
    ∃ c', ipaNatDelIpv4Rule c true ruleHdl = (.ok (), c') ∧
      ruleOfHandle c' = Function.update (ruleOfHandle c) ruleHdl none ∧
      (∀ x, Live c' x ↔ x ≠ slotOfHandle c ruleHdl ∧ Live c x) ∧
      TableInv c' home rank ihome irank := by
  obtain ⟨k, e, rfl, hk, he, hid, -⟩ := h.live_of_handle hr
  rw [slotOfHandle_eq hid]
  have htotal := h.dims.total_le
  have hpos : ∀ x, Live c x → 0 < x := fun x hx => h.rules.pos hx.1
  obtain ⟨hframe, hids, hlink, hlive, hclient⟩ := dropped_spec h.toLinkInv he
  have hparse : parseIpv4RuleHdl c (u16 (k + 1)) = entryOf c e := by
    rw [u16_of_lt (by omega), parseIpv4RuleHdl_eq hk hid]
  have hframe' := hframe.trans (setId_sameFrame (dropped c e) k 0)
  have hids' : (setId (dropped c e) k 0).ruleIdArray = Function.update c.ruleIdArray k 0 := by
    rw [← hids]
    rfl
  refine ⟨setId (dropped c e) k 0, ?_, ?_, hlive, ⟨hlink.setId k 0, ?_⟩⟩
  · unfold ipaNatDelIpv4Rule
    rw [if_neg (Nat.succ_ne_zero k), natiDelIpv4Rule_live h.toLinkInv he hparse, cast_succ_sub_one,
      ← hids]
    rfl
  · refine ruleOfHandle_erase h.toIdInv hpos hframe' (by omega) hid (hpos e he) hids' ?_
    exact fun x hxe hx => hclient x ((hlive x).mpr ⟨hxe, hx⟩)
  · exact h.toIdInv.erase hframe' hlive (hpos e he) (by omega) hid hids'

theorem ipaNatDelIpv4Rule_dead (h : TableInv c home rank ihome irank) {ruleHdl : Nat}
    (hgood : ruleHdl < 65536 ∨ (parseIpv4RuleHdl c (u16 ruleHdl)).2 = 0)
    (hr : ruleOfHandle c ruleHdl = none) :
    ipaNatDelIpv4Rule c true ruleHdl = (.error .einval, c) := by
  unfold ipaNatDelIpv4Rule
  split
  · rfl
  · rename_i h0
    refine natiDelIpv4Rule_invalid ?_ true
    rcases hgood with hlt | hz
    · obtain ⟨k, rfl⟩ := Nat.exists_eq_succ_of_ne_zero h0
      rw [u16_of_lt hlt]
      unfold parseIpv4RuleHdl
      split
      · rfl
      · rename_i hk
        change ¬ c.total ≤ k + 1 at hk
        have hz : c.ruleIdArray k = 0 := by
          by_contra hne
          obtain ⟨e, he, hid⟩ := h.id_live k (by omega) hne
          have hlive := ruleOfHandle_of_live (by omega) (h.rules.pos he.1) hid
          rw [hlive] at hr
          cases hr
        change c.ruleIdArray (((k + 1 : Nat) : Int) - 1) / 2 = 0
        rw [cast_succ_sub_one, hz]
    · exact hz

/-- Every rule with a handle is found from its hashes. -/
def Located (c : Ip4TableCache) : Prop :=
  ∀ ruleHdl r, ruleOfHandle c ruleHdl = some r →
    (∃ l, (ruleLinks c).Chain (dstSlot c r) l ∧ slotOfHandle c ruleHdl ∈ dstSlot c r :: l) ∧
    ∃ l i, (indexLinks c).Chain (srcSlot c r) l ∧ i ∈ srcSlot c r :: l ∧
      (c.indexSlot i).tblEntry = slotOfHandle c ruleHdl

theorem TableInv.located (h : TableInv c home rank ihome irank) : Located c := by
  intro ruleHdl r hr
  obtain ⟨k, e, rfl, -, he, hid, rfl⟩ := h.live_of_handle hr
  rw [slotOfHandle_eq hid]
  obtain ⟨hio, hie⟩ := h.index_of_rule e he
  obtain ⟨-, -, hsrc⟩ := h.rule_of_index _ hio
  rw [hie] at hsrc
  rw [h.dst_home e he, hsrc]
  obtain ⟨-, -, hchain⟩ := h.rules.on_home_chain he.1
  obtain ⟨-, -, l, hl, hmem⟩ := h.index.on_home_chain hio
  exact ⟨hchain, l, _, hl, hmem, hie⟩

/-- The store as its clients see it in state `c`: an addition fails exactly
when a slot is missing and else maps a new handle, and the deletion of a live
handle removes its rule and leaves all others in reach. -/
structure StoreSpec (c : Ip4TableCache) : Prop where
  add : ∀ r : Ipv4Rule, r.protocol ≠ invalidProtoFieldCmp →
    ∃ res c', ipaNatAddIpv4Rule c .allOk r = some (res, c') ∧
      ((∃ err, res = .error err) ↔ DstFull c r ∨ SrcFull c r) ∧
      (∀ err, res = .error err → ruleOfHandle c' = ruleOfHandle c) ∧
      ∀ ruleHdl, res = .ok ruleHdl → 1 ≤ ruleHdl ∧ ruleOfHandle c ruleHdl = none ∧
        ruleOfHandle c' = Function.update (ruleOfHandle c) ruleHdl (some r)
  del : ∀ ruleHdl : UInt32, ruleOfHandle c ruleHdl.toNat ≠ none →
    ∃ c', ipaNatDelIpv4Rule c true ruleHdl.toNat = (.ok (), c') ∧
      ruleOfHandle c' = Function.update (ruleOfHandle c) ruleHdl.toNat none ∧
      (∀ e, Live c' e ↔ e ≠ slotOfHandle c ruleHdl.toNat ∧ Live c e) ∧ Located c'

theorem TableInv.storeSpec (h : TableInv c home rank ihome irank) : StoreSpec c where
  add := by
    intro r hp
    by_cases hfull : DstFull c r ∨ SrcFull c r
    · refine ⟨.error .einval, c, ipaNatAddIpv4Rule_full h hfull, ?_, fun _ _ => rfl, ?_⟩
      · exact ⟨fun _ => hfull, fun _ => ⟨.einval, rfl⟩⟩
      · rintro ruleHdl ⟨⟩
    · rw [not_or] at hfull
      obtain ⟨ruleHdl, c', hadd, h0, hnone, hmap, -⟩ :=
        ipaNatAddIpv4Rule_ok h hp hfull.1 hfull.2
      refine ⟨.ok ruleHdl, c', hadd, ⟨?_, ?_⟩, ?_, ?_⟩
      · rintro ⟨err, ⟨⟩⟩
      · rintro (hf | hf)
        · exact absurd hf hfull.1
        · exact absurd hf hfull.2
      · rintro err ⟨⟩
      · rintro _ ⟨⟩
        exact ⟨h0, hnone, hmap⟩
  del := by
    intro ruleHdl hr
    obtain ⟨r, hr⟩ := Option.ne_none_iff_exists'.mp hr
    obtain ⟨c', hdel, hmap, hlive, hinv⟩ := ipaNatDelIpv4Rule_live h hr
    exact ⟨c', hdel, hmap, hlive, hinv.located⟩

/-- The invariant of the store. -/
def StoreInv (c : Ip4TableCache) : Prop :=
  ∃ home rank ihome irank, TableInv c home rank ihome irank

/-- What the requests mean to a client: a finite map from handles to rules. -/
inductive StoreStep (m : Nat → Option Ipv4Rule) :
    NatCall → (Nat → Option Ipv4Rule) → Prop
  | refused (clntRule : Ipv4Rule) : StoreStep m (.add clntRule) m
  | added (clntRule : Ipv4Rule) (ruleHdl : Nat) : 0 < ruleHdl → m ruleHdl = none →
      StoreStep m (.add clntRule) (Function.update m ruleHdl (some clntRule))
  | deleted (ruleHdl : UInt32) :
      StoreStep m (.del ruleHdl) (Function.update m ruleHdl.toNat none)

/-- One request: the invariant is preserved and the map changes as specified. -/
theorem natStep_refines (h : StoreInv c) {call : NatCall}
    (hstep : Guarded GoodCall NatStep c call c') :
    StoreStep (ruleOfHandle c) call (ruleOfHandle c') ∧ StoreInv c' := by
  obtain ⟨home, rank, ihome, irank, h⟩ := h
  obtain ⟨⟨hvalid, hfits⟩, hstep⟩ := hstep
  cases call with
  | add r =>
      change (ipaNatAddIpv4Rule c .allOk r).map Prod.snd = some c' at hstep
      by_cases hfull : DstFull c r ∨ SrcFull c r
      · rw [ipaNatAddIpv4Rule_full h hfull] at hstep
        cases hstep
        exact ⟨.refused r, home, rank, ihome, irank, h⟩
      · rw [not_or] at hfull
        obtain ⟨ruleHdl, d, hadd, h0, hnone, hmap, hinv⟩ :=
          ipaNatAddIpv4Rule_ok h hvalid hfull.1 hfull.2
        rw [hadd] at hstep
        cases hstep
        rw [hmap]
        exact ⟨.added r ruleHdl h0 hnone, hinv⟩
  | del ruleHdl =>
      change some (ipaNatDelIpv4Rule c true ruleHdl.toNat).2 = some c' at hstep
      rcases hr : ruleOfHandle c ruleHdl.toNat with _ | r
      · rw [ipaNatDelIpv4Rule_dead h hfits hr] at hstep
        cases hstep
        have hmap : Function.update (ruleOfHandle c) ruleHdl.toNat none = ruleOfHandle c := by
          rw [← hr, Function.update_eq_self]
        have hdel := StoreStep.deleted (m := ruleOfHandle c) ruleHdl
        rw [hmap] at hdel
        exact ⟨hdel, home, rank, ihome, irank, h⟩
      · obtain ⟨d, hdel, hmap, -, hinv⟩ := ipaNatDelIpv4Rule_live h hr
        rw [hdel] at hstep
        cases hstep
        rw [hmap]
        exact ⟨.deleted ruleHdl, home, rank, ihome, irank, hinv⟩

end

section

variable {publicAddr : UInt32} {tableEntries expnTableEntries : Nat} {outside : Int → Nat}
  {calls : List NatCall} {c : Ip4TableCache}

theorem storeInv_fresh (publicAddr : UInt32) (outside : Int → Nat)
    (hN : 2 ≤ tableEntries ∧ tableEntries ≤ 16384)
    (hM : 2 ≤ expnTableEntries ∧ expnTableEntries ≤ 16384) :
    StoreInv (freshTable publicAddr tableEntries expnTableEntries outside) :=
  ⟨id, id, id, id, tableInv_fresh publicAddr outside hN hM⟩

/-- Every run of good requests preserves the invariant. -/
theorem storeInv_of_run (hN : 2 ≤ tableEntries ∧ tableEntries ≤ 16384)
    (hM : 2 ≤ expnTableEntries ∧ expnTableEntries ≤ 16384)
    (hrun : Run (Guarded GoodCall NatStep)
      (freshTable publicAddr tableEntries expnTableEntries outside) calls c) : StoreInv c :=
  hrun.invariant (storeInv_fresh publicAddr outside hN hM)
    fun _ _ _ h hstep => (natStep_refines h hstep).2

/-- The tables are well formed after every run of good requests. -/
theorem wellFormed_of_run (hN : 2 ≤ tableEntries ∧ tableEntries ≤ 16384)
    (hM : 2 ≤ expnTableEntries ∧ expnTableEntries ≤ 16384)
    (hrun : Run (Guarded GoodCall NatStep)
      (freshTable publicAddr tableEntries expnTableEntries outside) calls c) : WellFormed c := by
  obtain ⟨_, _, _, _, h⟩ := storeInv_of_run hN hM hrun
  exact h.toLinkInv.wellFormed

/-- The store meets its specification after every run of good requests. -/
theorem storeSpec_of_run (hN : 2 ≤ tableEntries ∧ tableEntries ≤ 16384)
    (hM : 2 ≤ expnTableEntries ∧ expnTableEntries ≤ 16384)
    (hrun : Run (Guarded GoodCall NatStep)
      (freshTable publicAddr tableEntries expnTableEntries outside) calls c) : StoreSpec c := by
  obtain ⟨_, _, _, _, h⟩ := storeInv_of_run hN hM hrun
  exact h.storeSpec

theorem ruleOfHandle_fresh (publicAddr : UInt32) (tableEntries expnTableEntries : Nat)
    (outside : Int → Nat) :
    ruleOfHandle (freshTable publicAddr tableEntries expnTableEntries outside) =
      fun _ => none := by
  funext ruleHdl
  cases ruleHdl with
  | zero => exact ruleOfHandle_zero _
  | succ k =>
      rcases Nat.lt_or_ge k (freshTable publicAddr tableEntries expnTableEntries outside).total
        with hk | hk
      · exact ruleOfHandle_of_zero (ruleIdArray_fresh publicAddr outside hk)
      · exact ruleOfHandle_of_total_le hk

/-- Runs of good requests simulate the map, from the empty one on. -/
theorem run_simulates_store (hN : 2 ≤ tableEntries ∧ tableEntries ≤ 16384)
    (hM : 2 ≤ expnTableEntries ∧ expnTableEntries ≤ 16384)
    (hrun : Run (Guarded GoodCall NatStep)
      (freshTable publicAddr tableEntries expnTableEntries outside) calls c) :
    Run StoreStep (fun _ => none) calls (ruleOfHandle c) := by
  obtain ⟨m, hm, rfl, -⟩ := hrun.simulation
    (R := fun c m => m = ruleOfHandle c ∧ StoreInv c)
    ⟨(ruleOfHandle_fresh ..).symm, storeInv_fresh publicAddr outside hN hM⟩
    (by
      rintro s _ call s' ⟨rfl, hinv⟩ hstep
      obtain ⟨hs, hi⟩ := natStep_refines hinv hstep
      exact ⟨_, hs, rfl, hi⟩)
  exact hm

end

/-- The smallest table, and two rules that collide in it. -/
def smallTable : Ip4TableCache := freshTable 1 2 2 fun _ => 0

def ruleA : Ipv4Rule where
  targetIp := 1
  privateIp := 2
  targetPort := 3
  privatePort := 4
  publicPort := 5
  protocol := 6

def ruleB : Ipv4Rule := { ruleA with publicPort := 7 }

def afterCall (c : Ip4TableCache) (call : NatCall) : Ip4TableCache := (natCall c call).getD c

theorem natStep_afterCall {c : Ip4TableCache} {call : NatCall} (h : (natCall c call).isSome) :
    NatStep c call (afterCall c call) := by
  unfold NatStep afterCall
  obtain ⟨c', hc'⟩ := Option.isSome_iff_exists.mp h
  rw [hc']
  rfl

def tableAB : Ip4TableCache := afterCall (afterCall smallTable (.add ruleA)) (.add ruleB)

theorem run_tableAB : Run (Guarded GoodCall NatStep) smallTable [.add ruleA, .add ruleB] tableAB :=
  (Run.nil.snoc ⟨⟨by decide, trivial⟩, natStep_afterCall (by decide)⟩).snoc
    ⟨⟨by decide, trivial⟩, natStep_afterCall (by decide)⟩

theorem wellFormed_tableAB : WellFormed tableAB :=
  wellFormed_of_run ⟨by decide, by decide⟩ ⟨by decide, by decide⟩ run_tableAB

theorem storeSpec_tableAB : StoreSpec tableAB :=
  storeSpec_of_run ⟨by decide, by decide⟩ ⟨by decide, by decide⟩ run_tableAB

/-- The table after a deletion under a handle whose low half names `ruleA`: the
rule is gone, its id is not. -/
def tableStale : Ip4TableCache := afterCall tableAB (.del 65537)

theorem run_tableStale : Run (Guarded (fun _ => ValidCall) NatStep) smallTable
    [.add ruleA, .add ruleB, .del 65537] tableStale :=
  ((Run.nil.snoc ⟨(by decide : ValidCall _), natStep_afterCall (by decide)⟩).snoc
    ⟨(by decide : ValidCall _), natStep_afterCall (by decide)⟩).snoc
      ⟨trivial, natStep_afterCall rfl⟩

/-- Deleting the stale handle cuts `ruleB` off its index entry. -/
theorem not_wellFormed_wide_handle :
    ∃ c, Run (Guarded (fun _ => ValidCall) NatStep) smallTable
      [.add ruleA, .add ruleB, .del 65537, .del 1] c ∧ ¬ WellFormed c := by
  refine ⟨afterCall tableStale (.del 1), run_tableStale.snoc ⟨trivial, natStep_afterCall rfl⟩,
    fun h => ?_⟩
  have hlive : Live (afterCall tableStale (.del 1)) 3 := ⟨⟨by decide, by decide⟩, by decide⟩
  exact absurd (h.index_of_rule 3 hlive).2 (by decide)

/-- The stale handle counts as live, and its deletion loses another rule. -/
theorem not_storeSpec_wide_handle :
    ∃ c, Run (Guarded (fun _ => ValidCall) NatStep) smallTable
      [.add ruleA, .add ruleB, .del 65537] c ∧ ¬ StoreSpec c := by
  refine ⟨tableStale, run_tableStale, fun h => ?_⟩
  obtain ⟨c', hdel, -, -, hloc⟩ := h.del 1 (by decide)
  obtain rfl : (ipaNatDelIpv4Rule tableStale true 1).2 = c' := congrArg Prod.snd hdel
  obtain ⟨-, l, i, hl, hi, he⟩ := hloc 2 ruleB (by decide)
  cases l with
  | nil =>
      rw [List.mem_singleton.mp hi] at he
      exact absurd he (by decide)
  | cons x l => exact hl.2.1 (hl.1.symm.trans (by decide))

end LibraDevice.IpaNat
