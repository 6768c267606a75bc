import LibraDevice.EthBridge.Clients
import LibraDevice.Lib.HandlePool
import LibraDevice.Lib.Holders
import LibraDevice.Lib.StepRun

/-!
The rules of the clients of the Ethernet bridge are those in the tables, and
go with them.
-/

namespace LibraDevice.EthBridge

open Backhaul (IpType Fam Hdl)
open LanToLan (MacAddr)
open LibraDevice.HandlePool (split_of_findIdx?)
open LibraDevice.Holders
open LibraDevice.StepWise

/-- A call, with what the driver answers. -/
inductive Call
  | addFlt (mac : MacAddr) (ip : IpType) (getTable modify : Bool)
  | delFlt (mac : MacAddr) (reset : Fam Bool)
  | addRt (mac : MacAddr) (ip : IpType) (offer : Option (List Hdl))
  | delRt (mac : MacAddr) (willing : Fam (Hdl → Bool))

def exec (cfg : Config) (s : Bridge) : Call → Bool × Bridge
  | .addFlt mac ip getTable modify => s.addWlanClientFltRule cfg mac ip getTable modify
  | .delFlt mac reset => s.delWlanClientFltRule mac reset
  | .addRt mac ip offer => s.addUsbClientRtRule cfg mac ip offer
  | .delRt mac willing => s.delUsbClientRtRule cfg mac willing

def next (cfg : Config) (s : Bridge) (c : Call) : Bridge :=
  (exec cfg s c).2

/-- The dummy rules that the driver has installed for the pools. -/
structure DummyRules where
  hdls : List Hdl
  nodup : hdls.Nodup
  full : hdls.length = ipaLanToLanMaxWlanClient

def Bridge.init (rules : Fam DummyRules) : Bridge where
  wlanClientFltRuleHdl :=
    ⟨rules.v4.hdls.map fun h => ⟨h, true⟩, rules.v6.hdls.map fun h => ⟨h, true⟩⟩
  wlanClientFltInfo := []
  usbClientRtInfo := ⟨[], []⟩
  fltLive := ⟨fun _ => none, fun _ => none⟩
  rtLive := ⟨fun _ => none, fun _ => none⟩

/-- The handles of filter rules that a client's entry records. -/
def heldFlt (ip : IpType) (e : FltInfo) : List Hdl :=
  if e.fltRuleSet.get ip then [e.fltRuleHdl.get ip] else []

/-- Every driver call of a deletion succeeds. -/
def AllSucceed (s : Bridge) : Call → Prop
  | .delFlt mac reset => ∀ e ∈ s.wlanClientFltInfo, e.mac = mac →
      ∀ ip, e.fltRuleSet.get ip = true → reset.get ip = true
  | .delRt mac willing => ∀ ip, ∀ e ∈ s.usbClientRtInfo.get ip, e.mac = mac →
      ∀ h ∈ e.rtRuleHdl, willing.get ip h = true
  | _ => True

/-- The call leaves no rule of the client it deletes. -/
def LeavesNone (s : Bridge) : Call → Prop
  | .delFlt mac _ => ∀ ip h, s.fltLive.get ip h ≠ some mac
  | .delRt mac _ => ∀ ip h, s.rtLive.get ip h ≠ some mac
  | _ => True

/-- What is to hold of a call. -/
structure Right (cfg : Config) (s : Bridge) (c : Call) : Prop where
  distinctFlt : ((next cfg s c).wlanClientFltInfo.map FltInfo.mac).Nodup
  distinctRt : ∀ ip, (((next cfg s c).usbClientRtInfo.get ip).map RtInfo.mac).Nodup
  taken : ∀ ip, ∀ slot ∈ (next cfg s c).wlanClientFltRuleHdl.get ip, slot.valid = false ↔
    ∃ e ∈ (next cfg s c).wlanClientFltInfo, slot.ruleHdl ∈ heldFlt ip e
  deleted : AllSucceed s c → LeavesNone (next cfg s c) c

/-- The call comes to the modification of a filter rule. -/
def Modifies (cfg : Config) (s : Bridge) (mac : MacAddr) (ip : IpType) (getTable : Bool) : Prop :=
  cfg.rxProp = true ∧ cfg.usbToWlanHdrProcCtx = true ∧ s.fltRuleIsSet mac ip = false ∧
    ¬(s.findFlt mac = none ∧ s.wlanClientFltInfo.length = ipaLanToLanMaxWlanClient) ∧
    getTable = true ∧ cfg.usbHdrType ≠ .other ∧
    ((s.wlanClientFltRuleHdl.get ip).findIdx? Slot.valid).isSome = true

/-- No modification is refused, no second reset is refused after the first,
and routing rules are deleted without refusal, of a client with IPv4 rules if
it has IPv6 ones. -/
def Whole (cfg : Config) (s : Bridge) : Call → Prop
  | .addFlt mac ip getTable modify => Modifies cfg s mac ip getTable → modify = true
  | .delFlt mac reset => ∀ e ∈ s.wlanClientFltInfo, e.mac = mac →
      e.fltRuleSet.v4 = true → reset.v4 = true → e.fltRuleSet.v6 = true → reset.v6 = true
  | .addRt _ _ _ => True
  | .delRt mac willing => AllSucceed s (.delRt mac willing) ∧
      ((∃ e ∈ s.usbClientRtInfo.v6, e.mac = mac) → ∃ e ∈ s.usbClientRtInfo.v4, e.mac = mac)

/-- A slot is taken exactly when the rule under its handle is live. -/
structure PoolSound (pool : List Slot) (live : Hdl → Option MacAddr) : Prop where
  distinct : (pool.map Slot.ruleHdl).Nodup
  taken : ∀ slot ∈ pool, slot.valid = false ↔ live slot.ruleHdl ≠ none
  inPool : ∀ h, live h ≠ none → h ∈ pool.map Slot.ruleHdl

/-- The tables say what is live. -/
structure Sound (s : Bridge) : Prop where
  pool : ∀ ip, PoolSound (s.wlanClientFltRuleHdl.get ip) (s.fltLive.get ip)
  flt : ∀ ip, Reflects FltInfo.mac (heldFlt ip) (s.fltLive.get ip) s.wlanClientFltInfo
  rt : ∀ ip, Reflects RtInfo.mac RtInfo.rtRuleHdl (s.rtLive.get ip) (s.usbClientRtInfo.get ip)
  nonzero : ∀ ip, ∀ e ∈ s.usbClientRtInfo.get ip, ∀ h ∈ e.rtRuleHdl, h ≠ 0

theorem modify_middle {α : Type} (before after : List α) (x : α) (f : α → α) :
    (before ++ x :: after).modify before.length f = before ++ f x :: after := by
  induction before with
  | nil => rfl
  | cons b before ih => exact congrArg (b :: ·) ih

theorem getD_middle {α : Type} (before after : List α) (x d : α) :
    (before ++ x :: after).getD before.length d = x := by
  simp

theorem eraseIdx_middle {α : Type} (before after : List α) (x : α) :
    (before ++ x :: after).eraseIdx before.length = before ++ after := by
  rw [List.eraseIdx_append_of_length_le (Nat.le_refl _), Nat.sub_self, List.eraseIdx_cons_zero]

namespace PoolSound

variable {before after : List Slot} {slot : Slot} {live : Hdl → Option MacAddr}

theorem hdl_ne (h : PoolSound (before ++ slot :: after) live) {other : Slot}
    (hother : other ∈ before ++ after) : other.ruleHdl ≠ slot.ruleHdl := by
  have hnodup := h.distinct
  rw [List.map_append, List.map_cons] at hnodup
  have hfresh := (List.nodup_cons.mp (List.nodup_middle.mp hnodup)).1
  intro heq
  apply hfresh
  rw [← heq, ← List.map_append]
  exact List.mem_map_of_mem hother

theorem free (h : PoolSound (before ++ slot :: after) live) (hvalid : slot.valid = true) :
    live slot.ruleHdl = none := by
  rcases hlive : live slot.ruleHdl with _ | mac
  · rfl
  · have hfalse := (h.taken slot (mem_middle_iff.mpr (Or.inl rfl))).mpr (by simp [hlive])
    rw [hvalid] at hfalse
    exact absurd hfalse (by decide)

theorem change (h : PoolSound (before ++ slot :: after) live) {client : Option MacAddr}
    {valid : Bool} (hvalid : valid = false ↔ client ≠ none) :
    PoolSound (before ++ { slot with valid := valid } :: after)
      (Function.update live slot.ruleHdl client) where
  distinct := by
    have hnodup := h.distinct
    rw [List.map_append, List.map_cons] at hnodup ⊢
    exact hnodup
  taken := by
    intro other hother
    rcases mem_middle_iff.mp hother with rfl | hrest
    · rw [Function.update_self]
      exact hvalid
    · rw [Function.update_of_ne (h.hdl_ne hrest)]
      exact h.taken other (mem_middle_iff.mpr (Or.inr hrest))
  inPool := by
    intro x hx
    have hmap : (before ++ { slot with valid := valid } :: after).map Slot.ruleHdl =
        (before ++ slot :: after).map Slot.ruleHdl := by
      rw [List.map_append, List.map_append]
      rfl
    rw [hmap]
    rcases em (x = slot.ruleHdl) with heq | hne
    · rw [heq]
      exact List.mem_map_of_mem (mem_middle_iff.mpr (Or.inl rfl))
    · rw [Function.update_of_ne hne] at hx
      exact h.inPool x hx

end PoolSound

theorem heldFlt_set {e : FltInfo} {ip : IpType} (h : e.fltRuleSet.get ip = true) :
    heldFlt ip e = [e.fltRuleHdl.get ip] :=
  if_pos h

theorem heldFlt_unset {e : FltInfo} {ip : IpType} (h : e.fltRuleSet.get ip = false) :
    heldFlt ip e = [] := by
  rw [heldFlt, h]
  rfl

theorem heldFlt_record_self (e : FltInfo) (mac : MacAddr) (ip : IpType) (h : Hdl) :
    heldFlt ip (e.record mac ip h) = [h] := by
  simp [heldFlt, FltInfo.record]

theorem heldFlt_record_other (e : FltInfo) (mac : MacAddr) {ip ip' : IpType} (hne : ip' ≠ ip)
    (h : Hdl) : heldFlt ip' (e.record mac ip h) = heldFlt ip' e := by
  simp [heldFlt, FltInfo.record, hne]

theorem heldFlt_cleared (ip : IpType) : heldFlt ip .cleared = [] := by
  rcases ip with _ | _ <;> rfl

namespace Sound

variable {s : Bridge}

theorem pool_change (h : Sound s) {ip : IpType} {before after : List Slot} {slot : Slot}
    (hsplit : s.wlanClientFltRuleHdl.get ip = before ++ slot :: after)
    {client : Option MacAddr} {valid : Bool} (hvalid : valid = false ↔ client ≠ none)
    (ip' : IpType) :
    PoolSound ((s.setSlot ip before.length valid).wlanClientFltRuleHdl.get ip')
      ((s.modifyFlt ip slot.ruleHdl client).fltLive.get ip') := by
  simp only [Bridge.setSlot, Bridge.modifyFlt, Fam.get_set]
  rcases em (ip' = ip) with heq | hne
  · rw [if_pos heq, if_pos heq, hsplit, modify_middle]
    have hpool := h.pool ip
    rw [hsplit] at hpool
    exact hpool.change hvalid
  · rw [if_neg hne, if_neg hne]
    exact h.pool ip'

theorem unset_of_mem {mac : MacAddr} {ip : IpType} (hunset : s.fltRuleIsSet mac ip = false)
    {e : FltInfo} (he : e ∈ s.wlanClientFltInfo) (hmac : e.mac = mac) :
    e.fltRuleSet.get ip = false := by
  rcases hset : e.fltRuleSet.get ip with _ | _
  · rfl
  · have hany : s.fltRuleIsSet mac ip = true :=
      List.any_eq_true.mpr ⟨e, he, by simp [hmac, hset]⟩
    rw [hany] at hunset
    exact absurd hunset (by decide)

theorem not_mem_of_findFlt {mac : MacAddr} (hfind : s.findFlt mac = none) :
    mac ∉ s.wlanClientFltInfo.map FltInfo.mac := by
  intro hmem
  obtain ⟨e, he, hmac⟩ := List.mem_map.mp hmem
  have hnone := List.findIdx?_eq_none_iff.mp hfind e he
  simp [hmac] at hnone

theorem flt_record (h : Sound s) {mac : MacAddr} {ip : IpType} {x : Hdl}
    (hfree : s.fltLive.get ip x = none) (hunset : s.fltRuleIsSet mac ip = false)
    (ip' : IpType) :
    Reflects FltInfo.mac (heldFlt ip') ((s.modifyFlt ip x (some mac)).fltLive.get ip')
      (s.recordFlt mac ip x).wlanClientFltInfo := by
  have hlive : (s.modifyFlt ip x (some mac)).fltLive.get ip' =
      if ip' = ip then Function.update (s.fltLive.get ip) x (some mac)
      else s.fltLive.get ip' := Fam.get_set _ _ _ _
  have hflt := h.flt ip'
  rw [hlive]
  rcases hfind : s.findFlt mac with _ | i
  · have hnew : (FltInfo.record .cleared mac ip x).mac ∉ s.wlanClientFltInfo.map FltInfo.mac :=
      not_mem_of_findFlt hfind
    simp only [Bridge.recordFlt, hfind]
    rcases em (ip' = ip) with rfl | hne
    · rw [if_pos rfl]
      exact hflt.push_one hnew (heldFlt_record_self .cleared mac ip' x) hfree
    · rw [if_neg hne]
      exact hflt.push_none hnew
        ((heldFlt_record_other .cleared mac hne x).trans (heldFlt_cleared ip'))
  · obtain ⟨before, e, after, hsplit, rfl, -, hmac⟩ := split_of_findIdx? hfind
    have hmac' : e.mac = mac := of_decide_eq_true hmac
    have hunset' := unset_of_mem hunset (hsplit ▸ mem_middle_iff.mpr (Or.inl rfl)) hmac'
    simp only [Bridge.recordFlt, hfind]
    rw [hsplit, modify_middle]
    rw [hsplit] at hflt
    rcases em (ip' = ip) with rfl | hne
    · have hkey : (e.record mac ip' x).mac = e.mac := hmac'.symm
      have hgain := hflt.gain hkey (heldFlt_unset hunset') (heldFlt_record_self e mac ip' x) hfree
      rw [hmac'] at hgain
      rw [if_pos rfl]
      exact hgain
    · rw [if_neg hne]
      exact hflt.rewrite hmac'.symm (heldFlt_record_other e mac hne x)

theorem addFlt (h : Sound s) {cfg : Config} {mac : MacAddr} {ip : IpType}
    {getTable modify : Bool} (hwhole : Whole cfg s (.addFlt mac ip getTable modify)) :
    Sound (next cfg s (.addFlt mac ip getTable modify)) := by
  simp only [next, exec, Bridge.addWlanClientFltRule]
  split
  · exact h
  rename_i hrx
  split
  · exact h
  rename_i hctx
  split
  · exact h
  rename_i hset
  split
  · exact h
  rename_i hfull
  split
  · exact h
  rename_i htable
  split
  · exact h
  rename_i htype
  rcases hslot : (s.wlanClientFltRuleHdl.get ip).findIdx? Slot.valid with _ | j
  · exact h
  · obtain ⟨before, slot, after, hsplit, rfl, -, hvalid⟩ := split_of_findIdx? hslot
    have hunset : s.fltRuleIsSet mac ip = false := by simpa using hset
    have hmodify : modify = true :=
      hwhole ⟨by simpa using hrx, by simpa using hctx, hunset, hfull, by simpa using htable,
        htype, by rw [hslot]; rfl⟩
    have hpool := h.pool ip
    rw [hsplit] at hpool
    have hhdl : ((s.wlanClientFltRuleHdl.get ip).map Slot.ruleHdl).getD before.length 0 =
        slot.ruleHdl := by
      rw [hsplit]
      simp
    simp only [hmodify, Bool.true_eq_false, if_false, hhdl]
    constructor
    · exact h.pool_change hsplit (by simp)
    · exact h.flt_record (hpool.free hvalid) hunset
    · exact h.rt
    · exact h.nonzero

end Sound

/-- The rule that the entry has in one family is a dummy again. -/
structure Reset (s s' : Bridge) (e : FltInfo) (ip : IpType) : Prop where
  pool : PoolSound (s'.wlanClientFltRuleHdl.get ip) (s'.fltLive.get ip)
  live : s'.fltLive.get ip = fun x => if x ∈ heldFlt ip e then none else s.fltLive.get ip x
  others : ∀ ip', ip' ≠ ip → s'.wlanClientFltRuleHdl.get ip' = s.wlanClientFltRuleHdl.get ip' ∧
    s'.fltLive.get ip' = s.fltLive.get ip'
  info : s'.wlanClientFltInfo = s.wlanClientFltInfo
  rtInfo : s'.usbClientRtInfo = s.usbClientRtInfo
  rtLive : s'.rtLive = s.rtLive

namespace Bridge

variable {s : Bridge} {e : FltInfo} {ip : IpType} {reset : Bool}

theorem resetFlt_refused (hset : e.fltRuleSet.get ip = true) (hreset : reset = false) :
    s.resetFlt e ip reset = (false, s) := by
  rw [resetFlt, if_neg (by simp [hset]), if_pos hreset]

theorem resetFlt_done (hpool : PoolSound (s.wlanClientFltRuleHdl.get ip) (s.fltLive.get ip))
    (hlive : ∀ x ∈ heldFlt ip e, s.fltLive.get ip x ≠ none)
    (hreset : e.fltRuleSet.get ip = true → reset = true) :
    ∃ s', s.resetFlt e ip reset = (true, s') ∧ Reset s s' e ip := by
  rcases hset : e.fltRuleSet.get ip with _ | _
  · refine ⟨s, by rw [resetFlt, if_pos hset], hpool, ?_, fun _ _ => ⟨rfl, rfl⟩, rfl, rfl, rfl⟩
    rw [heldFlt_unset hset, Reflects.assign_nil]
  · have hheld := heldFlt_set hset
    have hin := hpool.inPool _ (hlive (e.fltRuleHdl.get ip) (by rw [hheld]; exact .head _))
    have hsome : ((s.wlanClientFltRuleHdl.get ip).findIdx? fun slot =>
        slot.ruleHdl = e.fltRuleHdl.get ip).isSome = true := by
      obtain ⟨slot, hslot, hhdl⟩ := List.mem_map.mp hin
      rw [List.findIdx?_isSome, List.any_eq_true]
      exact ⟨slot, hslot, by simp [hhdl]⟩
    obtain ⟨j, hj⟩ := Option.isSome_iff_exists.mp hsome
    obtain ⟨before, slot, after, hsplit, rfl, -, hhdl⟩ := split_of_findIdx? hj
    have hhdl' : slot.ruleHdl = e.fltRuleHdl.get ip := of_decide_eq_true hhdl
    refine ⟨(s.modifyFlt ip (e.fltRuleHdl.get ip) none).setSlot ip before.length true, ?_, ?_⟩
    · rw [resetFlt, if_neg (by simp [hset]), if_neg (by simp [hreset hset]), hj]
    · constructor
      · simp only [setSlot, modifyFlt, Fam.get_set, if_true]
        rw [hsplit, modify_middle, ← hhdl']
        rw [hsplit] at hpool
        exact hpool.change (by simp)
      · simp only [setSlot, modifyFlt, Fam.get_set, if_true]
        rw [hheld, Reflects.assign_singleton]
      · intro ip' hne
        simp only [setSlot, modifyFlt, Fam.get_set, if_neg hne]
        exact ⟨trivial, trivial⟩
      · rfl
      · rfl
      · rfl

end Bridge

namespace Sound

variable {s : Bridge}

theorem findFlt_some {mac : MacAddr} {i : Nat} (hfind : s.findFlt mac = some i) :
    ∃ before e after, s.wlanClientFltInfo = before ++ e :: after ∧ before.length = i ∧
      e.mac = mac := by
  obtain ⟨before, e, after, hsplit, hlen, -, hmac⟩ := split_of_findIdx? hfind
  exact ⟨before, e, after, hsplit, hlen, of_decide_eq_true hmac⟩

theorem forget (h : Sound s) {before after : List FltInfo} {e : FltInfo} {s₄ s₆ : Bridge}
    (hsplit : s.wlanClientFltInfo = before ++ e :: after) (h₄ : Reset s s₄ e .v4)
    (h₆ : Reset s₄ s₆ e .v6) :
    Sound { s₆ with wlanClientFltInfo := before ++ after } where
  pool := by
    rintro (_ | _)
    · change PoolSound (s₆.wlanClientFltRuleHdl.get .v4) (s₆.fltLive.get .v4)
      rw [(h₆.others .v4 (by decide)).1, (h₆.others .v4 (by decide)).2]
      exact h₄.pool
    · exact h₆.pool
  flt := by
    rintro (_ | _)
    · change Reflects FltInfo.mac (heldFlt .v4) (s₆.fltLive.get .v4) (before ++ after)
      rw [(h₆.others .v4 (by decide)).2, h₄.live]
      have hflt := h.flt .v4
      rw [hsplit] at hflt
      exact hflt.erase
    · change Reflects FltInfo.mac (heldFlt .v6) (s₆.fltLive.get .v6) (before ++ after)
      rw [h₆.live, (h₄.others .v6 (by decide)).2]
      have hflt := h.flt .v6
      rw [hsplit] at hflt
      exact hflt.erase
  rt := by
    intro ip
    change Reflects _ _ (s₆.rtLive.get ip) (s₆.usbClientRtInfo.get ip)
    rw [h₆.rtLive, h₆.rtInfo, h₄.rtLive, h₄.rtInfo]
    exact h.rt ip
  nonzero := by
    intro ip
    change ∀ e ∈ s₆.usbClientRtInfo.get ip, _
    rw [h₆.rtInfo, h₄.rtInfo]
    exact h.nonzero ip

theorem delFlt_refused {mac : MacAddr} {reset : Fam Bool} {i : Nat} {e : FltInfo}
    (hfind : s.findFlt mac = some i) (hget : s.wlanClientFltInfo.getD i .cleared = e)
    (hwhole : e.fltRuleSet.v4 = true → reset.v4 = true → e.fltRuleSet.v6 = true →
      reset.v6 = true) {ip : IpType} (hset : e.fltRuleSet.get ip = true)
    (hreset : reset.get ip = false) : s.delWlanClientFltRule mac reset = (false, s) := by
  have hfirst : e.fltRuleSet.v4 = true → reset.v4 = false →
      s.delWlanClientFltRule mac reset = (false, s) := by
    intro hset₄ hreset₄
    have hrefused : s.resetFlt e .v4 reset.v4 = (false, s) :=
      Bridge.resetFlt_refused hset₄ hreset₄
    simp only [Bridge.delWlanClientFltRule, hfind, hget, hrefused, if_true]
  rcases ip with _ | _
  · exact hfirst hset hreset
  · rcases hset₄ : e.fltRuleSet.v4 with _ | _
    · have hskip : s.resetFlt e .v4 reset.v4 = (true, s) := if_pos hset₄
      have hrefused : s.resetFlt e .v6 reset.v6 = (false, s) :=
        Bridge.resetFlt_refused hset hreset
      simp only [Bridge.delWlanClientFltRule, hfind, hget, hskip, hrefused, Bool.true_eq_false,
        if_false, if_true]
    · rcases hreset₄ : reset.v4 with _ | _
      · exact hfirst hset₄ hreset₄
      · have htrue := hwhole hset₄ hreset₄ hset
        exact absurd (htrue.symm.trans hreset) (by decide)

theorem delFlt (h : Sound s) {cfg : Config} {mac : MacAddr} {reset : Fam Bool}
    (hwhole : Whole cfg s (.delFlt mac reset)) :
    Sound (next cfg s (.delFlt mac reset)) ∧
      (AllSucceed s (.delFlt mac reset) →
        LeavesNone (next cfg s (.delFlt mac reset)) (.delFlt mac reset)) := by
  rcases hfind : s.findFlt mac with _ | i
  · have hnext : next cfg s (.delFlt mac reset) = s := by
      simp only [next, exec, Bridge.delWlanClientFltRule, hfind]
    rw [hnext]
    refine ⟨h, fun _ ip x hlive => ?_⟩
    obtain ⟨e, he, hmac, -⟩ := ((h.flt ip).live_iff x mac).mp hlive
    exact not_mem_of_findFlt hfind (hmac ▸ List.mem_map_of_mem he)
  · obtain ⟨before, e, after, hsplit, rfl, hmac⟩ := findFlt_some hfind
    have he : e ∈ s.wlanClientFltInfo := hsplit ▸ mem_middle_iff.mpr (Or.inl rfl)
    have hget : s.wlanClientFltInfo.getD before.length .cleared = e := by
      rw [hsplit, getD_middle]
    have hheld : ∀ ip, ∀ x ∈ heldFlt ip e, s.fltLive.get ip x ≠ none := by
      intro ip x hx
      rw [(h.flt ip).live_of_mem he hx]
      simp
    rcases em (∃ ip, e.fltRuleSet.get ip = true ∧ reset.get ip = false) with hrefused | hdone
    · obtain ⟨ip, hset, hreset⟩ := hrefused
      have hnext : next cfg s (.delFlt mac reset) = s := by
        rw [next, exec, delFlt_refused hfind hget (hwhole e he hmac) hset hreset]
      rw [hnext]
      refine ⟨h, fun hall => ?_⟩
      exact absurd ((hall e he hmac ip hset).symm.trans hreset) (by decide)
    · have hreset : ∀ ip, e.fltRuleSet.get ip = true → reset.get ip = true := by
        intro ip hset
        rcases hr : reset.get ip with _ | _
        · exact absurd ⟨ip, hset, hr⟩ hdone
        · rfl
      obtain ⟨s₄, heq₄, h₄⟩ := Bridge.resetFlt_done (h.pool .v4) (hheld .v4) (hreset .v4)
      have hpool₄ : PoolSound (s₄.wlanClientFltRuleHdl.get .v6) (s₄.fltLive.get .v6) := by
        rw [(h₄.others .v6 (by decide)).1, (h₄.others .v6 (by decide)).2]
        exact h.pool .v6
      have hheld₄ : ∀ x ∈ heldFlt .v6 e, s₄.fltLive.get .v6 x ≠ none := by
        rw [(h₄.others .v6 (by decide)).2]
        exact hheld .v6
      obtain ⟨s₆, heq₆, h₆⟩ := Bridge.resetFlt_done hpool₄ hheld₄ (hreset .v6)
      have hnext : next cfg s (.delFlt mac reset) =
          { s₆ with wlanClientFltInfo := before ++ after } := by
        have hpair₄ : s.resetFlt e .v4 reset.v4 = (true, s₄) := heq₄
        have hpair₆ : s₄.resetFlt e .v6 reset.v6 = (true, s₆) := heq₆
        simp only [next, exec, Bridge.delWlanClientFltRule, hfind, hget, hpair₄, hpair₆,
          Bool.true_eq_false, if_false]
        rw [hsplit, eraseIdx_middle]
      have hsound := h.forget hsplit h₄ h₆
      rw [hnext]
      refine ⟨hsound, fun _ ip x hlive => ?_⟩
      obtain ⟨e', he', hmac', -⟩ := ((hsound.flt ip).live_iff x mac).mp hlive
      have hflt := h.flt ip
      rw [hsplit] at hflt
      exact hflt.key_ne he' (hmac'.trans hmac.symm)

theorem recordRt (h : Sound s) {mac : MacAddr} {ip : IpType} {hdls : List Hdl}
    (hnew : mac ∉ (s.usbClientRtInfo.get ip).map RtInfo.mac)
    (hfree : ∀ x ∈ hdls, x ≠ 0 ∧ s.rtLive.get ip x = none) : Sound (s.recordRt mac ip hdls) where
  pool := h.pool
  flt := h.flt
  rt := by
    intro ip'
    simp only [Bridge.recordRt, Fam.get_set]
    rcases em (ip' = ip) with rfl | hne
    · rw [if_pos rfl, if_pos rfl]
      exact (h.rt ip').push (e := ⟨mac, hdls⟩) hnew fun x hx => (hfree x hx).2
    · rw [if_neg hne, if_neg hne]
      exact h.rt ip'
  nonzero := by
    intro ip'
    simp only [Bridge.recordRt, Fam.get_set]
    split
    · intro e he x hx
      rcases List.mem_append.mp he with hold | hnew
      · exact h.nonzero ip e hold x hx
      · rw [List.mem_singleton.mp hnew] at hx
        exact (hfree x hx).1
    · exact h.nonzero ip'

theorem addRt (h : Sound s) {cfg : Config} {mac : MacAddr} {ip : IpType}
    {offer : Option (List Hdl)} : Sound (next cfg s (.addRt mac ip offer)) := by
  simp only [next, exec, Bridge.addUsbClientRtRule]
  rcases cfg.txProp with _ | tx
  · exact h
  · simp only
    split
    · exact h
    split
    · exact h
    split
    · exact h
    rename_i hknown
    split
    · exact h
    rcases htakes : s.takesRt ip (Bridge.eachClientRtRuleCount tx ip) offer with _ | hdls
    · exact h
    · have hgiven := (Option.filter_eq_some_iff.mp htakes).2
      simp only [decide_eq_true_eq, List.all_eq_true] at hgiven
      apply h.recordRt _ hgiven.2.2
      intro hmem
      obtain ⟨e, he, hmac⟩ := List.mem_map.mp hmem
      exact hknown (List.any_eq_true.mpr ⟨e, he, by simp [hmac]⟩)

end Sound

theorem deleteRoutingHdls_eq {willing : Hdl → Bool} {hdls : List Hdl}
    {live : Hdl → Option MacAddr} (hall : ∀ h ∈ hdls, h ≠ 0 ∧ willing h = true) :
    Bridge.deleteRoutingHdls willing hdls live =
      (true, fun x => if x ∈ hdls then none else live x) := by
  induction hdls generalizing live with
  | nil =>
      rw [Reflects.assign_nil]
      rfl
  | cons h hdls ih =>
      have hone : Bridge.deleteRoutingHdl willing live h = (true, Function.update live h none) := by
        rw [Bridge.deleteRoutingHdl, if_neg (hall h (.head _)).1, if_pos (hall h (.head _)).2]
      simp only [Bridge.deleteRoutingHdls, hone, Bool.true_eq_false, if_false]
      rw [ih fun x hx => hall x (.tail _ hx)]
      congr 1
      funext x
      rw [Function.update_apply]
      simp only [List.mem_cons]
      rcases em (x = h) with heq | hne
      · simp [heq]
      · simp [hne]

namespace Sound

variable {s : Bridge}

theorem delRt (h : Sound s) {mac : MacAddr} {ip : IpType} {willing : Hdl → Bool}
    (hwilling : ∀ e ∈ s.usbClientRtInfo.get ip, e.mac = mac → ∀ x ∈ e.rtRuleHdl, willing x = true) :
    Sound (s.delRt mac ip willing).2 ∧
      ((s.delRt mac ip willing).1 = true ↔ ∃ e ∈ s.usbClientRtInfo.get ip, e.mac = mac) ∧
      (∀ e ∈ (s.delRt mac ip willing).2.usbClientRtInfo.get ip, e.mac ≠ mac) ∧
      (∀ ip', ip' ≠ ip → (s.delRt mac ip willing).2.usbClientRtInfo.get ip' =
        s.usbClientRtInfo.get ip') := by
  rcases hfind : (s.usbClientRtInfo.get ip).findIdx? fun e => e.mac = mac with _ | i
  · have hnone := List.findIdx?_eq_none_iff.mp hfind
    simp only [Bridge.delRt, hfind]
    refine ⟨h, ?_, ?_, fun _ _ => trivial⟩
    · constructor
      · intro hfalse
        exact absurd hfalse (by decide)
      · rintro ⟨e, he, hmac⟩
        have hne := hnone e he
        simp [hmac] at hne
    · intro e he hmac
      have hne := hnone e he
      simp [hmac] at hne
  · obtain ⟨before, e, after, hsplit, rfl, -, hmac⟩ := split_of_findIdx? hfind
    have hmac' : e.mac = mac := of_decide_eq_true hmac
    have he : e ∈ s.usbClientRtInfo.get ip := hsplit ▸ mem_middle_iff.mpr (Or.inl rfl)
    have hhdls : ((s.usbClientRtInfo.get ip).map RtInfo.rtRuleHdl).getD before.length [] =
        e.rtRuleHdl := by
      rw [hsplit]
      simp
    have hdeleted : Bridge.deleteRoutingHdls willing e.rtRuleHdl (s.rtLive.get ip) = (true, _) :=
      deleteRoutingHdls_eq fun x hx => ⟨h.nonzero ip e he x hx, hwilling e he hmac' x hx⟩
    have hrt := h.rt ip
    rw [hsplit] at hrt
    simp only [Bridge.delRt, hfind, hhdls, hdeleted, Bool.true_eq_false, if_false]
    rw [hsplit, eraseIdx_middle]
    refine ⟨?_, ?_, ?_, ?_⟩
    · constructor
      · exact h.pool
      · exact h.flt
      · intro ip'
        simp only [Fam.get_set]
        rcases em (ip' = ip) with rfl | hne
        · rw [if_pos rfl, if_pos rfl]
          exact hrt.erase
        · rw [if_neg hne, if_neg hne]
          exact h.rt ip'
      · intro ip'
        simp only [Fam.get_set]
        split
        · intro e' he'
          exact h.nonzero ip e' (hsplit ▸ mem_middle_iff.mpr (Or.inr he'))
        · exact h.nonzero ip'
    · simp only [true_iff]
      exact ⟨e, mem_middle_iff.mpr (Or.inl rfl), hmac'⟩
    · simp only [Fam.get_set, if_true]
      intro e' he' heq
      exact hrt.key_ne he' (heq.trans hmac'.symm)
    · intro ip' hne
      simp only [Fam.get_set, if_neg hne]

theorem delRts (h : Sound s) {cfg : Config} {mac : MacAddr} {willing : Fam (Hdl → Bool)}
    (htx : cfg.txProp = none → ∀ ip, s.usbClientRtInfo.get ip = [])
    (hwhole : Whole cfg s (.delRt mac willing)) :
    Sound (next cfg s (.delRt mac willing)) ∧
      LeavesNone (next cfg s (.delRt mac willing)) (.delRt mac willing) := by
  have hgone : ∀ {s' : Bridge}, Sound s' → (∀ ip, ∀ e ∈ s'.usbClientRtInfo.get ip, e.mac ≠ mac) →
      LeavesNone s' (.delRt mac willing) := by
    intro s' hs' hnone ip x hlive
    obtain ⟨e, he, hmac, -⟩ := ((hs'.rt ip).live_iff x mac).mp hlive
    exact hnone ip e he hmac
  rcases em (cfg.txProp = none) with htx' | htx'
  · have hnext : next cfg s (.delRt mac willing) = s := by
      simp only [next, exec, Bridge.delUsbClientRtRule, if_pos htx']
    rw [hnext]
    refine ⟨h, hgone h fun ip e he => ?_⟩
    rw [htx htx' ip] at he
    exact absurd he List.not_mem_nil
  · have hwilling₄ : ∀ e ∈ s.usbClientRtInfo.get .v4, e.mac = mac →
        ∀ x ∈ e.rtRuleHdl, willing.v4 x = true := hwhole.1 .v4
    obtain ⟨hsound₄, hfound₄, hnone₄, hother₄⟩ := h.delRt hwilling₄
    rcases hfirst : (s.delRt mac .v4 willing.v4).1 with _ | _
    · have hnext : next cfg s (.delRt mac willing) = (s.delRt mac .v4 willing.v4).2 := by
        simp only [next, exec, Bridge.delUsbClientRtRule, if_neg htx', hfirst, if_true]
      have habsent : ¬∃ e ∈ s.usbClientRtInfo.get .v4, e.mac = mac := by
        intro hfound
        have htrue := hfound₄.mpr hfound
        exact absurd (hfirst.symm.trans htrue) (by decide)
      rw [hnext]
      refine ⟨hsound₄, hgone hsound₄ ?_⟩
      rintro (_ | _)
      · exact hnone₄
      · intro e he hmac
        rw [hother₄ .v6 (by decide)] at he
        exact habsent (hwhole.2 ⟨e, he, hmac⟩)
    · have hnext : next cfg s (.delRt mac willing) =
          ((s.delRt mac .v4 willing.v4).2.delRt mac .v6 willing.v6).2 := by
        simp only [next, exec, Bridge.delUsbClientRtRule, if_neg htx', hfirst,
          Bool.true_eq_false, if_false]
      have hwilling₆ : ∀ e ∈ (s.delRt mac .v4 willing.v4).2.usbClientRtInfo.get .v6,
          e.mac = mac → ∀ x ∈ e.rtRuleHdl, willing.v6 x = true := by
        rw [hother₄ .v6 (by decide)]
        exact hwhole.1 .v6
      obtain ⟨hsound₆, -, hnone₆, hother₆⟩ := hsound₄.delRt hwilling₆
      rw [hnext]
      refine ⟨hsound₆, hgone hsound₆ ?_⟩
      rintro (_ | _)
      · rw [hother₆ .v4 (by decide)]
        exact hnone₄
      · exact hnone₆

end Sound

/-- What holds between two calls. -/
structure Kept (cfg : Config) (s : Bridge) : Prop where
  sound : Sound s
  noTx : cfg.txProp = none → ∀ ip, s.usbClientRtInfo.get ip = []

namespace Kept

variable {cfg : Config} {s : Bridge}

theorem init (rules : Fam DummyRules) : Kept cfg (.init rules) where
  sound := by
    have hpool : ∀ r : DummyRules,
        PoolSound (r.hdls.map fun h => ⟨h, true⟩) (fun _ => none) := by
      intro r
      constructor
      · rw [List.map_map]
        exact (List.map_id r.hdls).symm ▸ r.nodup
      · intro slot hslot
        obtain ⟨h, -, rfl⟩ := List.mem_map.mp hslot
        simp
      · exact fun h hne => absurd rfl hne
    constructor
    · rintro (_ | _)
      · exact hpool rules.v4
      · exact hpool rules.v6
    · rintro (_ | _)
      · exact reflects_nil
      · exact reflects_nil
    · rintro (_ | _)
      · exact reflects_nil
      · exact reflects_nil
    · rintro (_ | _) e he
      · exact absurd he List.not_mem_nil
      · exact absurd he List.not_mem_nil
  noTx := by
    rintro - (_ | _)
    · rfl
    · rfl

theorem addFlt_rtInfo (mac : MacAddr) (ip : IpType) (getTable modify : Bool) :
    (next cfg s (.addFlt mac ip getTable modify)).usbClientRtInfo = s.usbClientRtInfo := by
  simp only [next, exec, Bridge.addWlanClientFltRule]
  repeat' split
  all_goals rfl

theorem resetFlt_rtInfo (s : Bridge) (e : FltInfo) (ip : IpType) (reset : Bool) :
    (s.resetFlt e ip reset).2.usbClientRtInfo = s.usbClientRtInfo := by
  simp only [Bridge.resetFlt]
  repeat' split
  all_goals rfl

theorem delFlt_rtInfo (mac : MacAddr) (reset : Fam Bool) :
    (next cfg s (.delFlt mac reset)).usbClientRtInfo = s.usbClientRtInfo := by
  simp only [next, exec, Bridge.delWlanClientFltRule]
  rcases s.findFlt mac with _ | i
  · rfl
  · simp only
    split
    · exact resetFlt_rtInfo _ _ _ _
    split
    · rw [resetFlt_rtInfo, resetFlt_rtInfo]
    · change (Bridge.resetFlt _ _ _ _).2.usbClientRtInfo = _
      rw [resetFlt_rtInfo, resetFlt_rtInfo]

/-- A call that is whole keeps the tables in step with what is live, and a
deletion that succeeds leaves nothing of its client. -/
theorem next (h : Kept cfg s) {c : Call} (hwhole : Whole cfg s c) :
    Kept cfg (next cfg s c) ∧ (AllSucceed s c → LeavesNone (EthBridge.next cfg s c) c) := by
  rcases c with ⟨mac, ip, getTable, modify⟩ | ⟨mac, reset⟩ | ⟨mac, ip, offer⟩ | ⟨mac, willing⟩
  · refine ⟨⟨h.sound.addFlt hwhole, ?_⟩, fun _ => trivial⟩
    rw [addFlt_rtInfo]
    exact h.noTx
  · obtain ⟨hsound, hnone⟩ := h.sound.delFlt hwhole
    refine ⟨⟨hsound, ?_⟩, hnone⟩
    rw [delFlt_rtInfo]
    exact h.noTx
  · refine ⟨⟨h.sound.addRt, fun htx => ?_⟩, fun _ => trivial⟩
    have hnext : EthBridge.next cfg s (.addRt mac ip offer) = s := by
      simp only [EthBridge.next, exec, Bridge.addUsbClientRtRule, htx]
    rw [hnext]
    exact h.noTx htx
  · obtain ⟨hsound, hnone⟩ := h.sound.delRts h.noTx hwhole
    refine ⟨⟨hsound, fun htx => ?_⟩, fun _ => hnone⟩
    have hnext : EthBridge.next cfg s (.delRt mac willing) = s := by
      simp only [EthBridge.next, exec, Bridge.delUsbClientRtRule, if_pos htx]
    rw [hnext]
    exact h.noTx htx

theorem right (h : Kept cfg s) {c : Call} (hwhole : Whole cfg s c) : Right cfg s c := by
  obtain ⟨hkept, hdeleted⟩ := h.next hwhole
  refine ⟨(hkept.sound.flt .v4).distinct, fun ip => (hkept.sound.rt ip).distinct, ?_, hdeleted⟩
  intro ip slot hslot
  rw [(hkept.sound.pool ip).taken slot hslot]
  constructor
  · intro hlive
    obtain ⟨mac, hmac⟩ := Option.ne_none_iff_exists'.mp hlive
    obtain ⟨e, he, -, hheld⟩ := ((hkept.sound.flt ip).live_iff _ mac).mp hmac
    exact ⟨e, he, hheld⟩
  · rintro ⟨e, he, hheld⟩
    rw [(hkept.sound.flt ip).live_of_mem he hheld]
    simp

end Kept

/-- In a sequence of calls that are all whole, every call is right. -/
theorem bridge_calls_right (cfg : Config) (rules : Fam DummyRules) (calls : List Call)
    (hwhole : Throughout (next cfg) (Whole cfg) (.init rules) calls) :
    Throughout (next cfg) (Right cfg) (.init rules) calls :=
  mono (fun _ _ hkept hc => (hkept.next hc).1) (fun _ _ hkept hc => hkept.right hc)
    (Kept.init rules) hwhole

/-- Dummy rules under the handles below 32. -/
def someDummyRules : DummyRules where
  hdls := (List.range 32).map UInt32.ofNat
  nodup := by decide
  full := rfl

def someConfig : Config where
  rxProp := true
  txProp := some [.v4, .v6]
  usbToWlanHdrProcCtx := true
  wlanToUsbHdrProcCtx := true
  usbHdrType := .ethernetII
  wlanHdrType := .ethernetII

theorem bridge_calls_right_both :
    Throughout (next someConfig) (Right someConfig) (.init ⟨someDummyRules, someDummyRules⟩)
      [.addFlt #v[2, 0, 0, 0, 0, 1] .v4 true true, .addFlt #v[2, 0, 0, 0, 0, 1] .v6 true true,
        .delFlt #v[2, 0, 0, 0, 0, 1] ⟨true, true⟩, .addRt #v[2, 0, 0, 0, 0, 2] .v4 (some [7])] :=
  bridge_calls_right someConfig ⟨someDummyRules, someDummyRules⟩ _
    ⟨fun _ => rfl, fun _ => rfl, fun _ _ _ _ _ _ => rfl, trivial, trivial⟩

/-- A USB client has only an IPv6 rule, and is deleted. -/
theorem bridge_calls_not_right :
    ¬Throughout (next someConfig) (Right someConfig) (.init ⟨someDummyRules, someDummyRules⟩)
      [.addRt #v[2, 0, 0, 0, 0, 2] .v6 (some [7]),
        .delRt #v[2, 0, 0, 0, 0, 2] ⟨fun _ => true, fun _ => true⟩] := by
  rintro ⟨-, hright, -⟩
  have hall : AllSucceed (next someConfig (.init ⟨someDummyRules, someDummyRules⟩)
      (.addRt #v[2, 0, 0, 0, 0, 2] .v6 (some [7])))
      (.delRt #v[2, 0, 0, 0, 0, 2] ⟨fun _ => true, fun _ => true⟩) := by
    rintro (_ | _) _ _ _ _ _
    · rfl
    · rfl
  have hlive : ((next someConfig (next someConfig (.init ⟨someDummyRules, someDummyRules⟩)
      (.addRt #v[2, 0, 0, 0, 0, 2] .v6 (some [7])))
      (.delRt #v[2, 0, 0, 0, 0, 2] ⟨fun _ => true, fun _ => true⟩)).rtLive.get .v6 7 =
        some #v[2, 0, 0, 0, 0, 2]) := by
    decide +kernel
  exact hright.deleted hall .v6 7 hlive

end LibraDevice.EthBridge
