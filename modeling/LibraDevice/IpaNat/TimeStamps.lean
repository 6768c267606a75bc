import LibraDevice.IpaNat.RuleStore
import Mathlib.Algebra.Group.Nat.Defs

/-!
The time stamps. The hardware writes the time of a packet into the rule that it matched, and
`ipa_nat_query_timestamp` reads it under the handle of the rule.
-/

namespace LibraDevice.IpaNat

open LinkedChains Ip4TableCache StepRun

/-- `ipa_nati_query_timestamp`. -/
def natiQueryTimestamp (c : Ip4TableCache) (ruleHdl : Nat) : Except Errno Nat :=
  if c.valid = false then .error .einval
  else
    let entry := parseIpv4RuleHdl c (u16 ruleHdl)
    .ok (if entry.1 then c.ipv4ExpnRules entry.2 else c.ipv4Rules entry.2).timeStamp

/-- A packet matched the rule in slot `e`; a time stamp has 24 bits. -/
def touched (c : Ip4TableCache) (e ts : Nat) : Ip4TableCache :=
  c.modifySlot e fun r => { r with timeStamp := ts % 2 ^ 24 }

/-- What happens to a table: a request, or a packet. -/
inductive NatEvent where
  | call (call : NatCall)
  | packet (e ts : Nat)
deriving DecidableEq, Repr

def eventResult (c : Ip4TableCache) : NatEvent → Option Ip4TableCache
  | .call call => natCall c call
  | .packet e ts => some (touched c e ts)

def EventStep (c : Ip4TableCache) (event : NatEvent) (c' : Ip4TableCache) : Prop :=
  eventResult c event = some c'

/-- A packet only matches a rule that is enabled and not a dead head. -/
def GoodEvent (c : Ip4TableCache) : NatEvent → Prop
  | .call call => GoodCall c call
  | .packet e _ => Live c e

/-- The rule of a handle, and its time stamp. -/
def stampOfHandle (c : Ip4TableCache) (ruleHdl : Nat) : Option (Ipv4Rule × Nat) :=
  (ruleOfHandle c ruleHdl).map fun r => (r, (c.slot (slotOfHandle c ruleHdl)).timeStamp)

/-- What the events mean to a client: a finite map from handles to rules with time stamps. -/
inductive StampStep (m : Nat → Option (Ipv4Rule × Nat)) :
    NatEvent → (Nat → Option (Ipv4Rule × Nat)) → Prop
  | refused (clntRule : Ipv4Rule) : StampStep m (.call (.add clntRule)) m
  | added (clntRule : Ipv4Rule) (ruleHdl : Nat) : 0 < ruleHdl → m ruleHdl = none →
      StampStep m (.call (.add clntRule)) (Function.update m ruleHdl (some (clntRule, 0)))
  | deleted (ruleHdl : UInt32) :
      StampStep m (.call (.del ruleHdl)) (Function.update m ruleHdl.toNat none)
  | stamped (e ts ruleHdl : Nat) (clntRule : Ipv4Rule) (old : Nat) :
      m ruleHdl = some (clntRule, old) →
      StampStep m (.packet e ts) (Function.update m ruleHdl (some (clntRule, ts % 2 ^ 24)))

section

variable {c c' : Ip4TableCache} {home rank ihome irank : Nat → Nat} {e : Nat}

theorem touched_slot (c : Ip4TableCache) (e ts x : Nat) :
    (touched c e ts).slot x =
      { c.slot x with timeStamp := ((touched c e ts).slot x).timeStamp } := by
  rw [touched, slot_modifySlot]
  rcases eq_or_ne x e with rfl | hne
  · rw [Function.update_self]
  · rw [Function.update_of_ne hne]

theorem touched_ruleLinks (c : Ip4TableCache) (e ts : Nat) :
    ruleLinks (touched c e ts) = ruleLinks c := by
  have htotal : (touched c e ts).total = c.total := (modifySlot_sameFrame ..).total_eq
  have hslot := touched_slot c e ts
  unfold ruleLinks
  rw [htotal]
  congr 1
  · funext x
    rw [hslot x]
  · funext x
    rw [hslot x]
  · funext x
    rw [hslot x]

theorem touched_client (c : Ip4TableCache) (e ts x : Nat) :
    ((touched c e ts).slot x).client = (c.slot x).client := by
  rw [touched_slot]
  rfl

theorem touched_live (c : Ip4TableCache) (e ts x : Nat) : Live (touched c e ts) x ↔ Live c x := by
  rw [Live, Live, touched_ruleLinks, touched_slot]

theorem touched_indexLinks (c : Ip4TableCache) (e ts : Nat) :
    indexLinks (touched c e ts) = indexLinks c := by
  have htotal : (touched c e ts).total = c.total := (modifySlot_sameFrame ..).total_eq
  have hslot : (touched c e ts).indexSlot = c.indexSlot := indexSlot_modifySlot ..
  have hprev : (touched c e ts).indexPrev = c.indexPrev := by
    funext i
    simp only [indexPrev, touched, indexExpnTableMeta_modifySlot, tableEntries_modifySlot]
  rw [indexLinks, indexLinks, htotal, hslot, hprev]

theorem TableInv.touched (h : TableInv c home rank ihome irank) (e ts : Nat) :
    TableInv (touched c e ts) home rank ihome irank := by
  have hframe : SameFrame c (IpaNat.touched c e ts) := modifySlot_sameFrame ..
  have hindexSlot : (IpaNat.touched c e ts).indexSlot = c.indexSlot := indexSlot_modifySlot ..
  have hids : (IpaNat.touched c e ts).ruleIdArray = c.ruleIdArray := ruleIdArray_modifySlot ..
  have hlive := touched_live c e ts
  have hentry : ∀ x, ((IpaNat.touched c e ts).slot x).indxTblEntry = (c.slot x).indxTblEntry := by
    intro x
    rw [touched_slot]
  refine
    { dims := h.dims.of_sameFrame hframe
      rules := ?_
      index := ?_
      dead_head := ?_
      dst_home := fun x hx => ?_
      index_of_rule := fun x hx => ?_
      rule_of_index := fun i hi => ?_
      id_small := ?_
      id_live := fun k hk hne => ?_
      id_inj := ?_
      id_surj := fun x hx => ?_ }
  · rw [touched_ruleLinks, hframe.tableEntries, hframe.total_eq]
    exact h.rules
  · rw [touched_indexLinks, hframe.tableEntries, hframe.total_eq]
    exact h.index
  · intro x hx hp
    rw [touched_ruleLinks] at hx
    rw [touched_slot] at hp ⊢
    rw [hframe.tableEntries]
    exact h.dead_head x hx hp
  · rw [hframe.dstSlot_eq, touched_client]
    exact h.dst_home x ((hlive x).mp hx)
  · rw [touched_indexLinks, hentry, hindexSlot]
    exact h.index_of_rule x ((hlive x).mp hx)
  · rw [touched_indexLinks] at hi
    rw [hindexSlot, hlive, hentry, hframe.srcSlot_eq, touched_client]
    exact h.rule_of_index i hi
  · rw [hids, hframe.total_eq]
    exact h.id_small
  · rw [hids] at hne ⊢
    rw [hframe.total_eq] at hk
    obtain ⟨x, hx, hid⟩ := h.id_live k hk hne
    exact ⟨x, (hlive x).mpr hx, by rw [hframe.ruleIdOf_eq]; exact hid⟩
  · rw [hids, hframe.total_eq]
    exact h.id_inj
  · rw [hids, hframe.total_eq, hframe.ruleIdOf_eq]
    exact h.id_surj x ((hlive x).mp hx)

theorem TableInv.natiQueryTimestamp (h : TableInv c home rank ihome irank) {ruleHdl : Nat}
    {r : Ipv4Rule} {ts : Nat} (hr : stampOfHandle c ruleHdl = some (r, ts)) :
    natiQueryTimestamp c ruleHdl = .ok ts := by
  rw [stampOfHandle, Option.map_eq_some_iff] at hr
  obtain ⟨r', hr', heq⟩ := hr
  obtain ⟨k, e, rfl, hk, he, hid, -⟩ := h.live_of_handle hr'
  have htotal := h.dims.total_le
  rw [slotOfHandle_eq hid] at heq
  rw [IpaNat.natiQueryTimestamp, if_neg (by rw [h.dims.valid]; decide),
    u16_of_lt (by omega), parseIpv4RuleHdl_eq hk hid]
  cases heq
  rcases Nat.lt_or_ge e c.tableEntries with hlt | hle
  · rw [slot_of_lt hlt, entryOf, if_neg (Nat.not_le.mpr hlt)]
    rfl
  · rw [slot_of_le hle, entryOf, if_pos hle]
    rfl

theorem touched_ruleOfHandle (c : Ip4TableCache) (e ts ruleHdl : Nat) :
    slotOfHandle (touched c e ts) ruleHdl = slotOfHandle c ruleHdl ∧
      ruleOfHandle (touched c e ts) ruleHdl = ruleOfHandle c ruleHdl := by
  have hframe : SameFrame c (touched c e ts) := modifySlot_sameFrame ..
  have hids : (touched c e ts).ruleIdArray = c.ruleIdArray := ruleIdArray_modifySlot ..
  have hslot : slotOfHandle (touched c e ts) ruleHdl = slotOfHandle c ruleHdl := by
    rw [slotOfHandle, slotOfHandle, slotOfId, slotOfId, hids, hframe.tableEntries]
  refine ⟨hslot, ?_⟩
  rw [ruleOfHandle, ruleOfHandle, hslot, hids, hframe.total_eq, touched_client]

theorem TableInv.stamp_touched (h : TableInv c home rank ihome irank) (he : Live c e) (ts : Nat) :
    StampStep (stampOfHandle c) (.packet e ts) (stampOfHandle (IpaNat.touched c e ts)) := by
  obtain ⟨k, hk, hid⟩ := h.id_surj e he
  have he0 := h.rules.pos he.1
  have hrule := ruleOfHandle_of_live hk he0 hid
  have hslot := slotOfHandle_eq hid
  have hmap : stampOfHandle (IpaNat.touched c e ts) =
      Function.update (stampOfHandle c) (k + 1) (some ((c.slot e).client, ts % 2 ^ 24)) := by
    funext ruleHdl
    obtain ⟨hsame, hclient⟩ := touched_ruleOfHandle c e ts ruleHdl
    rw [stampOfHandle, hsame, hclient]
    rcases eq_or_ne ruleHdl (k + 1) with rfl | hne
    · rw [Function.update_self, hrule, hslot, Option.map_some, IpaNat.touched, slot_modifySlot,
        Function.update_self]
    · rw [Function.update_of_ne hne, stampOfHandle]
      cases hr : ruleOfHandle c ruleHdl with
      | none => rfl
      | some r =>
          -- the slot of another handle is another slot
          obtain ⟨j, x, rfl, hj, hx, hjd, -⟩ := h.live_of_handle hr
          have hxe : x ≠ e := by
            rintro rfl
            have hjk := h.id_inj j k (by omega) hk (by rw [hjd]; exact ruleIdOf_pos he0)
              (hjd.trans hid.symm)
            exact hne (by rw [hjk])
          rw [slotOfHandle_eq hjd, IpaNat.touched, slot_modifySlot, Function.update_of_ne hxe]
  rw [hmap]
  refine .stamped e ts (k + 1) (c.slot e).client (c.slot e).timeStamp ?_
  rw [stampOfHandle, hrule, hslot]
  rfl

theorem stampOfHandle_congr {ruleHdl : Nat} (hr : ruleOfHandle c' ruleHdl = ruleOfHandle c ruleHdl)
    (hslot : ruleOfHandle c ruleHdl ≠ none → slotOfHandle c' ruleHdl = slotOfHandle c ruleHdl ∧
      (c'.slot (slotOfHandle c ruleHdl)).timeStamp = (c.slot (slotOfHandle c ruleHdl)).timeStamp) :
    stampOfHandle c' ruleHdl = stampOfHandle c ruleHdl := by
  rw [stampOfHandle, stampOfHandle, hr]
  cases hc : ruleOfHandle c ruleHdl with
  | none => rfl
  | some r =>
      obtain ⟨hsame, hts⟩ := hslot (by rw [hc]; exact Option.some_ne_none r)
      rw [hsame, hts]

theorem TableInv.added_slot (h : TableInv c home rank ihome irank) {r : Ipv4Rule}
    (hdst : ¬ DstFull c r) (hsrc : ¬ SrcFull c r) :
    ∃ (k e : Nat) (d : Ip4TableCache), ipaNatAddIpv4Rule c .allOk r =
      some (.ok (k + 1), setId d k (ruleIdOf c e)) ∧
      SameFrame c d ∧ d.ruleIdArray = c.ruleIdArray ∧ ¬ Live c e ∧
      (d.slot e).timeStamp = 0 ∧ ∀ x, x ≠ e → (d.slot x).timeStamp = (c.slot x).timeStamp := by
  obtain ⟨p, e, ip, i, hf, hfi, hadd⟩ := natiAddIpv4Rule_placed h.toLinkInv hdst hsrc
  obtain ⟨hd0, hdN⟩ := h.dims.dstSlot_mem r
  have he0 := hf.pos hd0
  have heT := hf.lt_total (lt_total hdN)
  have heN : e ≠ c.tableEntries := by
    rcases hf with ⟨_, rfl, _⟩ | ⟨_, _, _, _, hNe, _⟩
    · exact hdN.ne
    · exact hNe.ne'
  have hnl : ¬ Live c e := fun hl => hf.not_occupied hl.1
  have hiT := hfi.lt_total (lt_total (h.dims.srcSlot_mem r).2)
  have hadded := added_placed (r := r) (Links.Fresh.prev_ne hf) (Links.Fresh.prev_ne hfi) hiT h.dims
  obtain ⟨k, hk, hk0, hmin⟩ := exists_first_free_id h he0 heN heT hnl
  have hpost : postIpv4DmaCmd (placed c r p e ip i) true e =
      (.ok (), (placed c r p e ip i).modifySlot e NatRule.enabled) := by
    unfold postIpv4DmaCmd
    rw [← dmaOne_enableCmd (h.dims.of_sameFrame (placed_sameFrame ..)) (SameFrame.refl _)
      (by rw [(placed_sameFrame ..).total_eq]; exact heT)]
    rfl
  have hids : ((placed c r p e ip i).modifySlot e NatRule.enabled).ruleIdArray = c.ruleIdArray := by
    simp
  generalize (placed c r p e ip i).modifySlot e NatRule.enabled = d at *
  have hmake := makeRuleHdl_eq (e := e) (k := k) (h.dims.of_sameFrame hadded.frame)
    (by rw [hadded.frame.total_eq]; exact heT) (by rw [hadded.frame.total_eq]; omega)
    (by rw [hids]; exact hk0) (by rw [hids]; exact hmin)
  rw [hadded.frame.ruleIdOf_eq] at hmake
  refine ⟨k, e, d, ?_, hadded.frame, hids, hnl, by rw [hadded.slot_self]; rfl, fun x hx => ?_⟩
  · unfold ipaNatAddIpv4Rule AddDma.allOk
    rw [hadd true, hpost]
    simp only [hmake]
    rfl
  · rw [hadded.slot_withNext hx]
    rfl

theorem TableInv.stamp_add (h : TableInv c home rank ihome irank) {r : Ipv4Rule}
    (hp : r.protocol ≠ invalidProtoFieldCmp)
    (hstep : natCall c (.add r) = some c') :
    StampStep (stampOfHandle c) (.call (.add r)) (stampOfHandle c') := by
  change (ipaNatAddIpv4Rule c .allOk r).map Prod.snd = some c' at hstep
  by_cases hfull : DstFull c r ∨ SrcFull c r
  · rw [ipaNatAddIpv4Rule_full h hfull] at hstep
    cases hstep
    exact .refused r
  · rw [not_or] at hfull
    obtain ⟨k, e, d, hadd, hframe, hids, hnl, hzero, hother⟩ := h.added_slot hfull.1 hfull.2
    obtain ⟨ruleHdl, d', hadd', h0, hnone, hmap, -⟩ := ipaNatAddIpv4Rule_ok h hp hfull.1 hfull.2
    rw [hadd] at hadd' hstep
    cases hadd'
    cases hstep
    have hframe' := hframe.trans (setId_sameFrame d k (ruleIdOf c e))
    have hcell : ∀ j : Nat, (setId d k (ruleIdOf c e)).ruleIdArray j =
        if j = k then ruleIdOf c e else c.ruleIdArray j := by
      intro j
      change Function.update d.ruleIdArray k (ruleIdOf c e) j = _
      rw [hids, Function.update_apply]
      simp only [Int.natCast_inj]
    have hstamps : stampOfHandle (setId d k (ruleIdOf c e)) =
        Function.update (stampOfHandle c) (k + 1) (some (r, 0)) := by
      funext j
      rcases eq_or_ne j (k + 1) with rfl | hne
      · have hslot : slotOfHandle (setId d k (ruleIdOf c e)) (k + 1) = e :=
          slotOfHandle_eq (by rw [hcell, if_pos rfl, hframe'.ruleIdOf_eq])
        rw [stampOfHandle, hmap, Function.update_self, Function.update_self, hslot,
          Option.map_some]
        exact congrArg (fun ts => some (r, ts)) hzero
      · rw [Function.update_of_ne hne]
        refine stampOfHandle_congr (by rw [hmap, Function.update_of_ne hne]) fun hr => ?_
        obtain ⟨r', hr⟩ := Option.ne_none_iff_exists'.mp hr
        obtain ⟨i, x, rfl, hi, hx, hid, -⟩ := h.live_of_handle hr
        have hik : i ≠ k := fun heq => hne (by rw [heq])
        rw [slotOfHandle_eq hid,
          slotOfHandle_eq (e := x) (by rw [hcell, if_neg hik, hid, hframe'.ruleIdOf_eq])]
        exact ⟨rfl, hother x fun heq => hnl (heq ▸ hx)⟩
    rw [hstamps]
    refine .added r (k + 1) h0 ?_
    rw [stampOfHandle, hnone]
    rfl

theorem dropped_timeStamp (h : LinkInv c home rank ihome irank) (he : Live c e) {x : Nat}
    (hx : Live (dropped c e) x) : ((dropped c e).slot x).timeStamp = (c.slot x).timeStamp := by
  have hxe : x ≠ e := (((dropped_spec h he).2.2.2.1 x).mp hx).1
  have hindex : ∀ (d : Ip4TableCache) (i : Nat),
      ((dropIndex d i).slot x).timeStamp = (d.slot x).timeStamp := by
    intro d i
    unfold dropIndex
    split
    · split
      · simp
      · rw [pullIndex_slot, Function.update_apply]
        split
        · next heq => rw [heq]; rfl
        · rfl
    · rw [unlinkIndex_slot]
  unfold dropped at hx ⊢
  rw [delDeadIpv4HeadNodes_live] at hx
  rw [((delDeadIpv4HeadNodes_slot _ x).resolve_left fun hd => hx.2 hd.1.2.1).2, hindex]
  have hbody := congrArg NatRule.timeStamp (dropRule_slot_of_ne (c := c) hxe).1
  exact hbody

theorem TableInv.stamp_del (h : TableInv c home rank ihome irank) {ruleHdl : UInt32}
    (hfits : HandleFits c (.del ruleHdl)) (hstep : natCall c (.del ruleHdl) = some c') :
    StampStep (stampOfHandle c) (.call (.del ruleHdl)) (stampOfHandle c') := by
  change some (ipaNatDelIpv4Rule c true ruleHdl.toNat).2 = some c' at hstep
  rcases hr : ruleOfHandle c ruleHdl.toNat with _ | r
  · rw [ipaNatDelIpv4Rule_dead h hfits hr] at hstep
    cases hstep
    have hmap : Function.update (stampOfHandle c) ruleHdl.toNat none = stampOfHandle c := by
      have hnone : stampOfHandle c ruleHdl.toNat = none := by
        rw [stampOfHandle, hr]
        rfl
      rw [← hnone, Function.update_eq_self]
    have hdel := StampStep.deleted (m := stampOfHandle c) ruleHdl
    rw [hmap] at hdel
    exact hdel
  · obtain ⟨d, hdel, hmap, -⟩ := ipaNatDelIpv4Rule_live h hr
    obtain ⟨k, e, hk1, hk, he, hid, -⟩ := h.live_of_handle hr
    rw [hdel] at hstep
    cases hstep
    have htotal := h.dims.total_le
    obtain ⟨hframe, hids, -, -, -⟩ := dropped_spec h.toLinkInv he
    have hparse : parseIpv4RuleHdl c (u16 (k + 1)) = entryOf c e := by
      rw [u16_of_lt (by omega), parseIpv4RuleHdl_eq hk hid]
    have hd : d = setId (dropped c e) k 0 := by
      have hsame := congrArg Prod.snd hdel
      unfold ipaNatDelIpv4Rule at hsame
      rw [hk1, if_neg (Nat.succ_ne_zero k), natiDelIpv4Rule_live h.toLinkInv he hparse,
        cast_succ_sub_one, ← hids] at hsame
      exact hsame.symm
    have hframe' : SameFrame c d := by
      rw [hd]
      exact hframe.trans (setId_sameFrame (dropped c e) k 0)
    have hstamps : stampOfHandle d =
        Function.update (stampOfHandle c) ruleHdl.toNat none := by
      funext j
      rcases eq_or_ne j ruleHdl.toNat with rfl | hne
      · rw [Function.update_self, stampOfHandle, hmap, Function.update_self]
        rfl
      · rw [Function.update_of_ne hne]
        refine stampOfHandle_congr (by rw [hmap, Function.update_of_ne hne]) fun hr' => ?_
        obtain ⟨r', hr'⟩ := Option.ne_none_iff_exists'.mp hr'
        obtain ⟨i, x, rfl, hi, hx, hjd, -⟩ := h.live_of_handle hr'
        have hik : i ≠ k := fun heq => hne (by rw [heq, hk1])
        have hcell : d.ruleIdArray i = c.ruleIdArray i := by
          rw [hd]
          change Function.update (dropped c e).ruleIdArray k 0 i = _
          rw [hids, Function.update_of_ne fun heq => hik (Int.natCast_inj.mp heq)]
        have hxe : x ≠ e := by
          rintro rfl
          refine hik (h.id_inj i k (by omega) (by omega) ?_ (hjd.trans hid.symm))
          rw [hjd]
          exact ruleIdOf_pos (h.rules.pos he.1)
        rw [slotOfHandle_eq hjd,
          slotOfHandle_eq (e := x) (by rw [hcell, hjd, hframe'.ruleIdOf_eq])]
        refine ⟨rfl, ?_⟩
        rw [hd]
        exact dropped_timeStamp h.toLinkInv he
          (((dropped_spec h.toLinkInv he).2.2.2.1 x).mpr ⟨hxe, hx⟩)
    rw [hstamps]
    exact .deleted ruleHdl

end

/-- One event: the invariant is preserved, and the map changes as it should. -/
theorem eventStep_refines {c c' : Ip4TableCache} (h : StoreInv c) {event : NatEvent}
    (hstep : Guarded GoodEvent EventStep c event c') :
    StampStep (stampOfHandle c) event (stampOfHandle c') ∧ StoreInv c' := by
  obtain ⟨hgood, hstep⟩ := hstep
  cases event with
  | call call =>
      refine ⟨?_, (natStep_refines h ⟨hgood, hstep⟩).2⟩
      obtain ⟨home, rank, ihome, irank, hinv⟩ := h
      cases call with
      | add r => exact hinv.stamp_add hgood.1 hstep
      | del ruleHdl => exact hinv.stamp_del hgood.2 hstep
  | packet e ts =>
      obtain ⟨home, rank, ihome, irank, hinv⟩ := h
      cases hstep
      exact ⟨hinv.stamp_touched hgood ts, home, rank, ihome, irank, hinv.touched e ts⟩

section

variable {publicAddr : UInt32} {tableEntries expnTableEntries : Nat} {outside : Int → Nat}
  {events : List NatEvent} {c : Ip4TableCache}

theorem stampOfHandle_fresh (publicAddr : UInt32) (tableEntries expnTableEntries : Nat)
    (outside : Int → Nat) :
    stampOfHandle (freshTable publicAddr tableEntries expnTableEntries outside) =
      fun _ => none := by
  funext ruleHdl
  rw [stampOfHandle, ruleOfHandle_fresh]
  rfl

end

end LibraDevice.IpaNat
