import LibraDevice.Lib.SlotTable
import LibraDevice.Lib.StepRun
import LibraDevice.Conntrack.Listener
import LibraDevice.NatCache.Coherence
import Mathlib.Data.Finset.Card

/-!
The list of STA clients, against the set of clients that have been added and not
deleted since.
-/

namespace LibraDevice.Conntrack

open LibraDevice.SlotTable
open NatCache StepRun Sweep

/-- The client of a slot. -/
def staKey (addr : UInt32) : Option UInt32 := if addr = 0 then none else some addr

@[simp] theorem staKey_zero : staKey 0 = none := rfl

theorem staKey_of_ne {c : UInt32} (hc : c ≠ 0) : staKey c = some c := if_neg hc

theorem keys_staKey (addrs : List UInt32) : keys staKey addrs = addrs.filter (· != 0) := by
  induction addrs with
  | nil => rfl
  | cons a addrs ih =>
      rcases eq_or_ne a 0 with rfl | ha
      · exact ih
      · rw [keys, List.filterMap_cons, staKey_of_ne ha,
          List.filter_cons_of_pos (p := (· != 0)) (bne_iff_ne.mpr ha)]
        exact congrArg (a :: ·) ih

theorem mem_keys_staKey {addrs : List UInt32} {c : UInt32} :
    c ∈ keys staKey addrs ↔ c ∈ addrs ∧ c ≠ 0 := by
  rw [keys_staKey, List.mem_filter, bne_iff_ne]

theorem idxOf_replace {before after : List UInt32} {a b c : UInt32} (ha : a ≠ c) (hb : b ≠ c) :
    (before ++ b :: after).idxOf c = (before ++ a :: after).idxOf c := by
  rw [List.idxOf_append, List.idxOf_append, List.idxOf_cons_ne after ha,
    List.idxOf_cons_ne after hb]

/-- With `first` in slot 0 and `n` slots to look at, the search of
`ProcessTCPorUDPMsg` does not miss the client. -/
def Scanned (addrs : List UInt32) (first : UInt32) (n : Int) (c : UInt32) : Prop :=
  staSubnet first = staSubnet c → (addrs.idxOf c : Int) < n

instance (addrs : List UInt32) (first : UInt32) (n : Int) (c : UInt32) :
    Decidable (Scanned addrs first n c) :=
  inferInstanceAs (Decidable (staSubnet first = staSubnet c → (addrs.idxOf c : Int) < n))

section

variable {δ : Type}

/-- A listener and the clients registered with it. -/
structure StaHistory (δ : Type) where
  lst : CtListener δ
  registered : Finset UInt32

/-- The clients registered after an event. -/
def registerClient (registered : Finset UInt32) : CtEvent → Finset UInt32
  | .staClientAdd c => insert c registered
  | .staClientDel c => registered.erase c
  | _ => registered

/-- The list holds each registered client once, the counter is right, and no
message to a registered client is ignored in STA mode. -/
structure StaClientsOk (cfg : Config) (s : StaHistory δ) : Prop where
  once : ∀ c ∈ s.registered, s.lst.staClntIpv4Addr.count c = 1
  count : s.lst.staClntCnt = s.registered.card
  passes : ∀ ct rule, rule.targetIp ∈ s.registered →
    ctVerdict cfg ct { s.lst with isStaMode := true } ≠ .notStaClnt rule

/-- Addresses are not zero and fit in the list; no free slot comes before the
slot of a client that is added again; and the clients in the subnet of slot 0
stay within the slots that are searched. -/
def CtEvent.StaChecked (s : StaHistory δ) : CtEvent → Prop
  | .staClientAdd c =>
    c ≠ 0 ∧ (insert c s.registered).card ≤ maxStaClntIfaces ∧
      (c ∈ s.registered → s.lst.staClntIpv4Addr.idxOf c < s.lst.staClntIpv4Addr.idxOf 0) ∧
      (s.lst.staClntIpv4Addr.headD 0 = 0 → ∀ c' ∈ s.registered,
        Scanned s.lst.staClntIpv4Addr c (s.lst.staClntCnt + 1) c')
  | .staClientDel c =>
    c ≠ 0 ∧ (c ∈ s.registered → ∀ c' ∈ s.registered, c' ≠ c →
      Scanned s.lst.staClntIpv4Addr
        (if s.lst.staClntIpv4Addr.headD 0 = c then 0 else s.lst.staClntIpv4Addr.headD 0)
        (s.lst.staClntCnt - 1) c')
  | _ => True

/-- What holds of the list throughout. -/
structure StaInv (addrs : List UInt32) (n : Int) (registered : Finset UInt32) : Prop where
  counted : Counted staKey addrs n
  mem : ∀ c, c ∈ keys staKey addrs ↔ c ∈ registered
  length : addrs.length = maxStaClntIfaces
  scanned : ∀ c ∈ registered, Scanned addrs (addrs.headD 0) n c

namespace StaInv

variable {addrs : List UInt32} {n : Int} {registered : Finset UInt32}

theorem card (h : StaInv addrs n registered) : n = registered.card := by
  have hfin : (keys staKey addrs).toFinset = registered := by
    ext c
    rw [List.mem_toFinset]
    exact h.mem c
  rw [h.counted.count, ← hfin, List.toFinset_card_of_nodup h.counted.nodup]

theorem ne_zero (h : StaInv addrs n registered) {c : UInt32} (hc : c ∈ registered) : c ≠ 0 :=
  (mem_keys_staKey.mp ((h.mem c).mpr hc)).2

theorem mem_addrs (h : StaInv addrs n registered) {c : UInt32} (hc : c ∈ registered) :
    c ∈ addrs :=
  (mem_keys_staKey.mp ((h.mem c).mpr hc)).1

theorem mem_registered (h : StaInv addrs n registered) {c : UInt32} (hc : c ∈ addrs)
    (hne : c ≠ 0) : c ∈ registered :=
  (h.mem c).mp (mem_keys_staKey.mpr ⟨hc, hne⟩)

theorem count_eq_one (h : StaInv addrs n registered) {c : UInt32} (hc : c ∈ registered) :
    addrs.count c = 1 := by
  have hkeys := List.count_eq_one_of_mem h.counted.nodup ((h.mem c).mpr hc)
  rw [keys_staKey, List.count_filter (p := (· != 0)) (bne_iff_ne.mpr (h.ne_zero hc))] at hkeys
  exact hkeys

theorem length_le {before after : List UInt32} {a : UInt32}
    (h : StaInv (before ++ a :: after) n registered) (hbefore : (0 : UInt32) ∉ before) :
    (before.length : Int) ≤ n := by
  have hself : before.filter (· != 0) = before := by
    apply List.filter_eq_self.mpr
    intro c hc
    apply bne_iff_ne.mpr
    rintro rfl
    exact hbefore hc
  rw [h.counted.count, keys_staKey, List.filter_append, hself, List.length_append]
  omega

theorem add (h : StaInv addrs n registered) {before after : List UInt32} {c : UInt32}
    (hsplit : addrs = before ++ 0 :: after) (hc : c ≠ 0) (hbefore : ∀ a ∈ before, a ≠ c ∧ a ≠ 0)
    (hnew : c ∉ registered)
    (hfirst : addrs.headD 0 = 0 → ∀ c' ∈ registered, Scanned addrs c (n + 1) c') :
    StaInv (before ++ c :: after) (n + 1) (insert c registered) := by
  subst hsplit
  have hmem : ∀ c', c' ∈ keys staKey (before ++ c :: after) ↔ c' ∈ insert c registered := by
    intro c'
    rw [Finset.mem_insert, ← h.mem c', keys_append_cons, keys_append_cons, staKey_of_ne hc]
    simp only [staKey_zero, Option.toList_some, Option.toList_none, List.mem_append,
      List.mem_singleton, List.not_mem_nil, false_or]
    tauto
  constructor
  · exact h.counted.fill rfl (staKey_of_ne hc) fun hkey => hnew ((h.mem c).mp hkey)
  · exact hmem
  · have hlength := h.length
    rw [List.length_append, List.length_cons] at hlength ⊢
    exact hlength
  · intro c' hc'
    rcases Finset.mem_insert.mp hc' with rfl | hc'
    · intro _
      have hidx : (before ++ c' :: after).idxOf c' = before.length := by
        rw [List.idxOf_append_of_notMem fun hin => (hbefore c' hin).1 rfl, List.idxOf_cons_self,
          Nat.add_zero]
      have hle := h.length_le fun hin => (hbefore 0 hin).2 rfl
      rw [hidx]
      omega
    · have hne : c ≠ c' := by
        rintro rfl
        exact hnew hc'
      have hidx : (before ++ c :: after).idxOf c' = (before ++ 0 :: after).idxOf c' :=
        idxOf_replace (h.ne_zero hc').symm hne
      cases before with
      | nil =>
          intro hsubnet
          rw [hidx]
          exact hfirst rfl c' hc' hsubnet
      | cons a before =>
          intro hsubnet
          have hlt := h.scanned c' hc' hsubnet
          rw [hidx]
          omega

theorem del (h : StaInv addrs n registered) {before after : List UInt32} {c : UInt32}
    (hsplit : addrs = before ++ c :: after) (hc : c ≠ 0)
    (hscanned : ∀ c' ∈ registered, c' ≠ c →
      Scanned addrs (if addrs.headD 0 = c then 0 else addrs.headD 0) (n - 1) c') :
    StaInv (before ++ 0 :: after) (n - 1) (registered.erase c) := by
  subst hsplit
  have hin : c ∈ before ++ c :: after := List.mem_append_right _ List.mem_cons_self
  have hcounted : Counted staKey (before ++ 0 :: after) (n - 1) := by
    refine h.counted.move (.clear ?_ rfl rfl)
    rw [staKey_of_ne hc]
    rfl
  have honce := h.count_eq_one (h.mem_registered hin hc)
  rw [List.count_append, List.count_cons_self] at honce
  have hbefore : c ∉ before := List.count_eq_zero.mp (by omega)
  have hafter : c ∉ after := List.count_eq_zero.mp (by omega)
  constructor
  · exact hcounted
  · intro c'
    rw [Finset.mem_erase, ← h.mem c', mem_keys_staKey, mem_keys_staKey]
    simp only [List.mem_append, List.mem_cons]
    constructor
    · rintro ⟨hmem | rfl | hmem, hne⟩
      · exact ⟨fun heq => hbefore (heq ▸ hmem), Or.inl hmem, hne⟩
      · exact absurd rfl hne
      · exact ⟨fun heq => hafter (heq ▸ hmem), Or.inr (Or.inr hmem), hne⟩
    · rintro ⟨hnec, hmem | rfl | hmem, hne⟩
      · exact ⟨Or.inl hmem, hne⟩
      · exact absurd rfl hnec
      · exact ⟨Or.inr (Or.inr hmem), hne⟩
  · have hlength := h.length
    rw [List.length_append, List.length_cons] at hlength ⊢
    exact hlength
  · intro c' hc' hsubnet
    obtain ⟨hne, hc'⟩ := Finset.mem_erase.mp hc'
    rw [idxOf_replace hne.symm (h.ne_zero hc').symm]
    apply hscanned c' hc' hne
    cases before with
    | nil =>
        change staSubnet (if c = c then 0 else c) = staSubnet c'
        rw [if_pos rfl]
        exact hsubnet
    | cons a before =>
        have ha : a ≠ c := fun heq => hbefore (heq ▸ List.mem_cons_self)
        change staSubnet (if a = c then 0 else a) = staSubnet c'
        rw [if_neg ha]
        exact hsubnet

end StaInv

theorem staInv_init {isStaMode : Bool} {wanIpaddr : UInt32} {natInst : NatApp δ} :
    StaInv (CtListener.init isStaMode wanIpaddr natInst).staClntIpv4Addr
      (CtListener.init isStaMode wanIpaddr natInst).staClntCnt ∅ := by
  constructor
  · exact counted_replicate rfl maxStaClntIfaces
  · intro c
    rw [mem_keys_staKey]
    constructor
    · rintro ⟨hmem, hne⟩
      exact absurd (List.eq_of_mem_replicate hmem) hne
    · intro hmem
      exact absurd hmem (Finset.notMem_empty c)
  · exact List.length_replicate
  · intro c hmem
    exact absurd hmem (Finset.notMem_empty c)

theorem StaInv.passes (lst : CtListener δ) {registered : Finset UInt32}
    (h : StaInv lst.staClntIpv4Addr lst.staClntCnt registered) {rule : NatTableEntry}
    (hrule : rule.targetIp ∈ registered) : passesStaClnt rule lst = true := by
  rw [passesStaClnt]
  simp only [Bool.or_eq_true, List.contains_iff_mem, bne_iff_ne, ne_eq, or_assoc]
  rcases eq_or_ne (staSubnet (lst.staClntIpv4Addr.headD 0)) (staSubnet rule.targetIp) with
    hsubnet | hsubnet
  · have hlt := h.scanned _ hrule hsubnet
    have hmem := (List.mem_take_iff_idxOf_lt (n := lst.staClntCnt.toNat) (h.mem_addrs hrule)).mpr
      (by omega)
    exact Or.inr (Or.inr (Or.inr hmem))
  · exact Or.inr (Or.inr (Or.inl hsubnet))

theorem staVerdict_of_passes {rule rule' : NatTableEntry} {isTempEntry : Bool}
    {lst : CtListener δ} (h : staVerdict rule isTempEntry lst = .notStaClnt rule') :
    rule' = rule ∧ passesStaClnt rule lst = false := by
  rw [staVerdict] at h
  split at h
  case isTrue => cases h
  case isFalse hnot =>
    cases h
    exact ⟨rfl, Bool.eq_false_iff.mpr hnot⟩

theorem passesStaClnt_of_ctVerdict {cfg : Config} {ct : NfConntrack} {lst : CtListener δ}
    {rule : NatTableEntry} (h : ctVerdict cfg ct lst = .notStaClnt rule) :
    passesStaClnt rule lst = false := by
  rw [ctVerdict] at h
  split at h
  case h_1 => cases h
  case h_2 =>
    dsimp only at h
    split at h
    case isTrue =>
      split at h
      case isTrue =>
        obtain ⟨rfl, hfails⟩ := staVerdict_of_passes h
        exact hfails
      case isFalse =>
        split at h
        case isTrue =>
          obtain ⟨rfl, hfails⟩ := staVerdict_of_passes h
          exact hfails
        case isFalse => cases h
    case isFalse =>
      split at h
      case isTrue => cases h
      case isFalse =>
        obtain ⟨rfl, hfails⟩ := staVerdict_of_passes h
        exact hfails

theorem StaInv.ok (cfg : Config) {s : StaHistory δ}
    (h : StaInv s.lst.staClntIpv4Addr s.lst.staClntCnt s.registered) : StaClientsOk cfg s := by
  constructor
  · intro c hc
    exact h.count_eq_one hc
  · exact h.card
  · intro ct rule hrule hverdict
    have hpasses := StaInv.passes { s.lst with isStaMode := true } h hrule
    rw [passesStaClnt_of_ctVerdict hverdict] at hpasses
    cases hpasses

theorem handleSTAClientAddEvt_inv {s : StaHistory δ} {c : UInt32}
    (hok : (CtEvent.staClientAdd c).StaChecked s)
    (h : StaInv s.lst.staClntIpv4Addr s.lst.staClntCnt s.registered) :
    StaInv (handleSTAClientAddEvt c s.lst).staClntIpv4Addr
      (handleSTAClientAddEvt c s.lst).staClntCnt (insert c s.registered) := by
  obtain ⟨hc, hcard, hhole, hfirst⟩ := hok
  have hkept : c ∈ s.registered →
      StaInv s.lst.staClntIpv4Addr s.lst.staClntCnt (insert c s.registered) := by
    intro hin
    rw [Finset.insert_eq_of_mem hin]
    exact h
  have hn := h.card
  rw [handleSTAClientAddEvt]
  split
  case isTrue hfull =>
    -- a new client would be one too many
    apply hkept
    by_contra hnew
    rw [Finset.card_insert_of_notMem hnew] at hcard
    omega
  case isFalse hroom =>
  split
  case h_1 hnone =>
    -- no slot is free, so that all are counted
    have hused : (0 : UInt32) ∉ s.lst.staClntIpv4Addr := by
      intro hin
      have hfalse := List.findIdx?_eq_none_iff.mp hnone 0 hin
      simp at hfalse
    have hself : s.lst.staClntIpv4Addr.filter (· != 0) = s.lst.staClntIpv4Addr := by
      apply List.filter_eq_self.mpr
      intro a ha
      apply bne_iff_ne.mpr
      rintro rfl
      exact hused ha
    have hcount := h.counted.count
    rw [keys_staKey, hself, h.length] at hcount
    omega
  case h_2 cnt hcnt =>
    obtain ⟨before, a, after, hsplit, rfl, ha, hbefore⟩ := split_of_findIdx?_eq_some hcnt
    have hslot : s.lst.staClntIpv4Addr.getD before.length 0 = a := by
      rw [hsplit, List.getD_eq_getElem?_getD, getElem?_append_cons, Option.getD_some]
    have hother : ∀ b ∈ before, b ≠ c ∧ b ≠ 0 := by
      intro b hb
      have hfalse := hbefore b hb
      simp only [Bool.or_eq_false_iff, Bool.and_eq_false_iff, bne_eq_false_iff_eq,
        beq_eq_false_iff_ne] at hfalse
      exact ⟨hfalse.1.resolve_left hfalse.2, hfalse.2⟩
    rw [hslot]
    split
    case isFalse hne =>
      apply hkept
      have hac : a = c := by simpa [hne] using ha
      apply h.mem_registered _ hc
      rw [hsplit, hac]
      exact List.mem_append_right _ List.mem_cons_self
    case isTrue hzero =>
      subst hzero
      have hnew : c ∉ s.registered := by
        intro hin
        have hlt := hhole hin
        rw [hsplit, List.idxOf_append_of_notMem fun hb => (hother c hb).1 rfl,
          List.idxOf_append_of_notMem fun hb => (hother 0 hb).2 rfl, List.idxOf_cons_self] at hlt
        omega
      have hadd := h.add hsplit hc hother hnew hfirst
      rw [hsplit, set_append_cons]
      exact hadd

theorem handleSTAClientDelEvt_inv (d : NatDriver δ) {s : StaHistory δ} {c : UInt32}
    (hok : (CtEvent.staClientDel c).StaChecked s)
    (h : StaInv s.lst.staClntIpv4Addr s.lst.staClntCnt s.registered) :
    StaInv (handleSTAClientDelEvt d c s.lst).staClntIpv4Addr
      (handleSTAClientDelEvt d c s.lst).staClntCnt (s.registered.erase c) := by
  obtain ⟨hc, hscanned⟩ := hok
  rw [handleSTAClientDelEvt]
  split
  case h_1 hnone =>
    have hnot : c ∉ s.registered := by
      intro hin
      have hfalse := List.findIdx?_eq_none_iff.mp hnone c (h.mem_addrs hin)
      simp [hc] at hfalse
    rw [Finset.erase_eq_of_notMem hnot]
    exact h
  case h_2 cnt hcnt =>
    obtain ⟨before, a, after, hsplit, rfl, ha, -⟩ := split_of_findIdx?_eq_some hcnt
    have hac : a = c := by
      simp only [Bool.and_eq_true, beq_iff_eq] at ha
      exact ha.2
    subst hac
    have hin : a ∈ s.registered := by
      apply h.mem_registered _ hc
      rw [hsplit]
      exact List.mem_append_right _ List.mem_cons_self
    have hdel := h.del hsplit hc (hscanned hin)
    dsimp only
    rw [hsplit, set_append_cons]
    exact hdel

theorem cacheNonNatIface_sta (d : NatDriver δ) (ipv4Addr : UInt32) (lst : CtListener δ) :
    (cacheNonNatIface d ipv4Addr lst).staClntIpv4Addr = lst.staClntIpv4Addr ∧
      (cacheNonNatIface d ipv4Addr lst).staClntCnt = lst.staClntCnt := by
  rw [cacheNonNatIface]
  split
  · exact ⟨rfl, rfl⟩
  · exact ⟨rfl, rfl⟩

theorem addNatIface_sta (d : NatDriver δ) (ipv4Addr : UInt32) (lst : CtListener δ) :
    (addNatIface d ipv4Addr lst).staClntIpv4Addr = lst.staClntIpv4Addr ∧
      (addNatIface d ipv4Addr lst).staClntCnt = lst.staClntCnt := by
  rw [addNatIface]
  split
  · exact cacheNonNatIface_sta d ipv4Addr lst
  split
  · exact ⟨rfl, rfl⟩
  · exact ⟨rfl, rfl⟩

/-- The other events leave the list of STA clients alone. -/
def CtEvent.IsSta : CtEvent → Prop
  | .staClientAdd _ => True
  | .staClientDel _ => True
  | _ => False

theorem eventCallback_sta (d : NatDriver δ) (cfg : Config) (lst : CtListener δ) {ev : CtEvent}
    (hev : ¬ev.IsSta) :
    (eventCallback d cfg lst ev).staClntIpv4Addr = lst.staClntIpv4Addr ∧
      (eventCallback d cfg lst ev).staClntCnt = lst.staClntCnt := by
  cases ev with
  | ctMessage ct type cnt =>
      rw [eventCallback, processCTMessage]
      split
      · exact ⟨rfl, rfl⟩
      rw [processTCPorUDPMsg]
      split
      · exact ⟨rfl, rfl⟩
      · exact ⟨rfl, rfl⟩
  | neighIpAddrAdd ipv4Addr iptype ifrName =>
      rw [eventCallback, handleNeighIpAddrAddEvt.eq_def]
      split
      · exact ⟨rfl, rfl⟩
      split
      · exact ⟨rfl, rfl⟩
      split
      · exact addNatIface_sta d ipv4Addr lst
      · exact cacheNonNatIface_sta d ipv4Addr lst
  | neighIpAddrDel ipv4Addr =>
      rw [eventCallback, handleNeighIpAddrDelEvt]
      split
      · exact ⟨rfl, rfl⟩
      · exact ⟨rfl, rfl⟩
  | wanUp ipv4Addr isSta =>
      rw [eventCallback, handleWanUp]
      split
      · exact ⟨rfl, rfl⟩
      split
      · exact ⟨rfl, rfl⟩
      · exact ⟨rfl, rfl⟩
  | wanDown wanAddr =>
      rw [eventCallback, handleWanDown]
      split
      · exact ⟨rfl, rfl⟩
      · exact ⟨rfl, rfl⟩
  | staClientAdd c => exact absurd trivial hev
  | staClientDel c => exact absurd trivial hev

/-- One event, with the clients registered after it. -/
def staStep (d : NatDriver δ) (cfg : Config) (s : StaHistory δ) (ev : CtEvent) : StaHistory δ where
  lst := eventCallback d cfg s.lst ev
  registered := registerClient s.registered ev

theorem staStep_other (d : NatDriver δ) (cfg : Config) {s : StaHistory δ} {ev : CtEvent}
    (hev : ¬ev.IsSta) (h : StaInv s.lst.staClntIpv4Addr s.lst.staClntCnt s.registered) :
    StaInv (staStep d cfg s ev).lst.staClntIpv4Addr (staStep d cfg s ev).lst.staClntCnt
      s.registered := by
  obtain ⟨haddr, hcnt⟩ := eventCallback_sta d cfg s.lst hev
  rw [staStep]
  dsimp only
  rw [haddr, hcnt]
  exact h

theorem staStep_inv (d : NatDriver δ) (cfg : Config) {s : StaHistory δ} {ev : CtEvent}
    (hok : ev.StaChecked s) (h : StaInv s.lst.staClntIpv4Addr s.lst.staClntCnt s.registered) :
    StaInv (staStep d cfg s ev).lst.staClntIpv4Addr (staStep d cfg s ev).lst.staClntCnt
      (staStep d cfg s ev).registered := by
  cases ev with
  | staClientAdd c => exact handleSTAClientAddEvt_inv hok h
  | staClientDel c => exact handleSTAClientDelEvt_inv d hok h
  | _ => exact staStep_other d cfg id h

/-- In every run whose changes of the client list are fit, the list is right and
STA mode passes every registered client. -/
theorem staClientsOk_of_run (d : NatDriver δ) (cfg : Config) (isStaMode : Bool)
    (wanIpaddr : UInt32) (natInst : NatApp δ) (evs : List CtEvent) (s : StaHistory δ)
    (hrun : Run (Guarded (fun s ev => ev.StaChecked s) fun s ev s' => s' = staStep d cfg s ev)
      ⟨CtListener.init isStaMode wanIpaddr natInst, ∅⟩ evs s) : StaClientsOk cfg s := by
  have hinv := hrun.invariant
    (I := fun s => StaInv s.lst.staClntIpv4Addr s.lst.staClntCnt s.registered) staInv_init (by
      rintro s ev s' h ⟨hok, rfl⟩
      exact staStep_inv d cfg hok h)
  exact hinv.ok cfg

end

def staListener : StaHistory (List (Nat × IpaNat.Ipv4Rule)) :=
  ⟨CtListener.init true 9 smallApp, ∅⟩

/-- Two clients come, and the later one leaves. -/
def staRun : List CtEvent :=
  [.staClientAdd 0xC0A80102, .staClientAdd 0xC0A80103, .staClientDel 0xC0A80103]

theorem staClientsOk_staRun :
    StaClientsOk lanConfig (staRun.foldl (staStep ruleMapDriver lanConfig) staListener) := by
  apply staClientsOk_of_run ruleMapDriver lanConfig true 9 smallApp staRun
  have hfirst : (CtEvent.staClientAdd 0xC0A80102).StaChecked staListener :=
    ⟨by decide, by decide, by decide, fun _ _ hmem => absurd hmem (Finset.notMem_empty _)⟩
  have hsecond : (CtEvent.staClientAdd 0xC0A80103).StaChecked
      (staStep ruleMapDriver lanConfig staListener (.staClientAdd 0xC0A80102)) :=
    ⟨by decide, by decide, by decide, by decide⟩
  have hthird : (CtEvent.staClientDel 0xC0A80103).StaChecked
      (staStep ruleMapDriver lanConfig
        (staStep ruleMapDriver lanConfig staListener (.staClientAdd 0xC0A80102))
        (.staClientAdd 0xC0A80103)) := by
    refine ⟨by decide, fun _ c' hmem hne => ?_⟩
    change c' ∈ insert (0xC0A80103 : UInt32) (insert 0xC0A80102 ∅) at hmem
    rcases Finset.mem_insert.mp hmem with heq | hmem
    · exact absurd heq hne
    · have heq : c' = 0xC0A80102 := by simpa using hmem
      subst heq
      decide
  exact Run.snoc (Run.snoc (Run.snoc .nil ⟨hfirst, rfl⟩) ⟨hsecond, rfl⟩) ⟨hthird, rfl⟩

/-- A client registered after a free slot is listed twice when it is added
again, and the last of three clients is missed once the middle one has left. -/
theorem not_staClientsOk_hole :
    (∃ s, Run (fun s ev s' => s' = staStep ruleMapDriver lanConfig s ev) staListener
      [.staClientAdd 2, .staClientAdd 3, .staClientDel 2, .staClientAdd 3] s ∧
        ¬ StaClientsOk lanConfig s) ∧
    ∃ s, Run (fun s ev s' => s' = staStep ruleMapDriver lanConfig s ev) staListener
      [.staClientAdd 2, .staClientAdd 3, .staClientAdd 4, .staClientDel 3] s ∧
        ¬ StaClientsOk lanConfig s := by
  refine ⟨⟨_, Run.snoc (Run.snoc (Run.snoc (Run.snoc .nil rfl) rfl) rfl) rfl, ?_⟩,
    ⟨_, Run.snoc (Run.snoc (Run.snoc (Run.snoc .nil rfl) rfl) rfl) rfl, ?_⟩⟩
  · intro h
    exact absurd h.count (by decide)
  · intro h
    let ct : NfConntrack :=
      { status := ipsSrcNat, origL4proto := 17, replL4proto := 17, origIpv4Src := 0xC0A80105,
        origIpv4Dst := 4, origPortSrc := 5, origPortDst := 6, replIpv4Src := 4, replPortSrc := 6,
        replPortDst := 7, tcpState := 0 }
    exact h.passes ct (ctRule .srcNat 0 ct) (by decide) (by decide)

end LibraDevice.Conntrack
