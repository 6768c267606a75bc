import LibraDevice.Backhaul.Iface
import LibraDevice.LanToLan.Client
import LibraDevice.Lib.StepRun

/-!
`IPACM_Wlan`: the index of an access point and its part of the dummy filter rules, in the
build for Android.
-/

namespace LibraDevice.Lan

open Backhaul StepRun
open LanToLan (maxOffloadPair)

def ipv4DefaultFilteringRules : Int := 3
def ipv6DefaultFilteringRules : Int := 6

/-- An instance of `IPACM_Wlan`. -/
structure WlanAp where
  ipaIfNum : Nat
  wlanApIndex : Int
deriving DecidableEq, Repr

/-- The instances alive, the static members, and the sizes of the two arrays while they are
allocated. -/
structure WlanAps where
  aps : List WlanAp
  numWlanApIface : Int
  dummyFltRuleHdl : Fam (Option Int)
deriving DecidableEq, Repr

/-- `n` is `ipa_num_private_subnet`. -/
def numDummyRule (n : Int) : IpType → Int
  | .v4 =>
      2 * (ipv4DefaultFilteringRules + maxOffloadPair + n) - 2 * n + 2 * maxPrivateSubnetEntries
  | .v6 => 2 * (ipv6DefaultFilteringRules + maxOffloadPair)

def addDummyFltRule (n : Int) (s : WlanAps) : WlanAps :=
  if s.numWlanApIface = 1 then
    if s.dummyFltRuleHdl.v4.isSome ∨ s.dummyFltRuleHdl.v6.isSome then s
    else { s with dummyFltRuleHdl := ⟨some (numDummyRule n .v4), some (numDummyRule n .v6)⟩ }
  else s

/-- `del` tells for each family whether the driver deletes the rules. -/
def delDummyFltRule (del : Fam Bool) (s : WlanAps) : WlanAps :=
  if s.numWlanApIface = 0 then
    if s.dummyFltRuleHdl.v4.isNone then s
    else if del.v4 ∧ del.v6 then { s with dummyFltRuleHdl := ⟨none, none⟩ }
    else s
  else s

/-- The constructor, for the interface `ipaIfNum`. -/
def newWlan (ipaIfNum : Nat) (n : Int) (s : WlanAps) : WlanAps :=
  let wlanApIndex := s.numWlanApIface
  if wlanApIndex < 0 ∨ wlanApIndex > 1 then s
  else addDummyFltRule n { s with
    aps := s.aps ++ [⟨ipaIfNum, wlanApIndex⟩]
    numWlanApIface := s.numWlanApIface + 1 }

/-- `IPA_LAN_DELETE_SELF` at the instance `ap`. -/
def deleteSelf (ap : WlanAp) (del : Fam Bool) (s : WlanAps) : WlanAps :=
  let s' := delDummyFltRule del { s with numWlanApIface := s.numWlanApIface - 1 }
  { s' with aps := s'.aps.erase ap }

/-- `offset` of `init_fl_rule`. -/
def initFlRuleOffset (ap : WlanAp) (n : Int) : IpType → Int
  | .v4 =>
      ap.wlanApIndex * (ipv4DefaultFilteringRules + maxOffloadPair + n)
        + ap.wlanApIndex * (maxPrivateSubnetEntries - n)
  | .v6 =>
      ap.wlanApIndex * (ipv6DefaultFilteringRules + maxOffloadPair) + maxOffloadPair

/-- `offset` of `add_dummy_lan2lan_flt_rule`. -/
def lan2lanOffset (ap : WlanAp) (n : Int) : IpType → Int
  | .v4 =>
      ap.wlanApIndex * (ipv4DefaultFilteringRules + maxOffloadPair + n)
        + ipv4DefaultFilteringRules + ap.wlanApIndex * (maxPrivateSubnetEntries - n)
  | .v6 => ap.wlanApIndex * (ipv6DefaultFilteringRules + maxOffloadPair)

/-- `offset` of `add_dummy_private_subnet_flt_rule`. -/
def privateSubnetOffset (ap : WlanAp) (n : Int) : Int :=
  ap.wlanApIndex * (ipv4DefaultFilteringRules + maxOffloadPair + n)
    + ipv4DefaultFilteringRules + maxOffloadPair
    + ap.wlanApIndex * (maxPrivateSubnetEntries - n)

/-- The entries from `offset` on that a loop over `count` rules reads. -/
def entriesFrom (offset count : Int) (i : Int) : Prop := offset ≤ i ∧ i < offset + count

/-- The entries an access point reads while `n` private subnets are configured. -/
def WlanAp.uses (ap : WlanAp) (n : Int) (iptype : IpType) (i : Int) : Prop :=
  match iptype with
  | .v4 =>
      entriesFrom (initFlRuleOffset ap n .v4) ipv4DefaultFilteringRules i ∨
        entriesFrom (lan2lanOffset ap n .v4) maxOffloadPair i ∨
          entriesFrom (privateSubnetOffset ap n) maxPrivateSubnetEntries i
  | .v6 =>
      entriesFrom (initFlRuleOffset ap n .v6) ipv6DefaultFilteringRules i ∨
        entriesFrom (lan2lanOffset ap n .v6) maxOffloadPair i

theorem WlanAp.uses_iff (ap : WlanAp) (n : Int) (iptype : IpType) (i : Int) :
    ap.uses n iptype i ↔ ap.wlanApIndex * 9 ≤ i ∧ i < ap.wlanApIndex * 9 + 9 := by
  have hadd : ap.wlanApIndex * (3 + 3 + n) + ap.wlanApIndex * (3 - n) = ap.wlanApIndex * 9 := by
    rw [← Int.mul_add]
    congr 1
    omega
  cases iptype with
  | v4 =>
      simp only [uses, entriesFrom, initFlRuleOffset, lan2lanOffset, privateSubnetOffset,
        ipv4DefaultFilteringRules, maxOffloadPair, maxPrivateSubnetEntries, Int.cast_ofNat_Int]
      omega
  | v6 =>
      simp only [uses, entriesFrom, initFlRuleOffset, lan2lanOffset, ipv6DefaultFilteringRules,
        maxOffloadPair, Int.cast_ofNat_Int]
      omega

theorem numDummyRule_eq (n : Int) (iptype : IpType) : numDummyRule n iptype = 18 := by
  cases iptype with
  | v4 =>
      simp only [numDummyRule, ipv4DefaultFilteringRules, maxOffloadPair, maxPrivateSubnetEntries,
        Int.cast_ofNat_Int]
      omega
  | v6 => rfl

inductive ApEvent where
  | create (ipaIfNum : Nat) (n : Int)
  | delete (ipaIfNum : Nat) (del : Fam Bool)

/-- An event at an access point. A new one is for an interface without an instance. -/
inductive WlanAps.Step : WlanAps → ApEvent → WlanAps → Prop
  | create {s : WlanAps} (ipaIfNum : Nat) (n : Int) :
      (∀ ap ∈ s.aps, ap.ipaIfNum ≠ ipaIfNum) → Step s (.create ipaIfNum n) (newWlan ipaIfNum n s)
  | delete {s : WlanAps} (ap : WlanAp) (del : Fam Bool) :
      ap ∈ s.aps → Step s (.delete ap.ipaIfNum del) (deleteSelf ap del s)

/-- No more than two access points at a time. -/
def WlanAps.AtMostTwo (s : WlanAps) : ApEvent → Prop
  | .create _ _ => s.aps.length < 2
  | .delete _ _ => True

instance (s : WlanAps) (e : ApEvent) : Decidable (s.AtMostTwo e) :=
  match e with
  | .create _ _ => inferInstanceAs (Decidable (s.aps.length < 2))
  | .delete _ _ => inferInstanceAs (Decidable True)

/-- The access point with the index `0` goes last. -/
def WlanAps.FirstLast (s : WlanAps) : ApEvent → Prop
  | .create _ _ => True
  | .delete ipaIfNum _ =>
      ∀ ap ∈ s.aps, ap.ipaIfNum = ipaIfNum → ap.wlanApIndex = 0 → s.aps = [ap]

instance (s : WlanAps) (e : ApEvent) : Decidable (s.FirstLast e) :=
  match e with
  | .create _ _ => inferInstanceAs (Decidable True)
  | .delete ipaIfNum _ => inferInstanceAs (Decidable (∀ ap ∈ s.aps, ap.ipaIfNum = ipaIfNum →
      ap.wlanApIndex = 0 → s.aps = [ap]))

def noAps : WlanAps where
  aps := []
  numWlanApIface := 0
  dummyFltRuleHdl := ⟨none, none⟩

/-- The access points have slots of their own. -/
structure WlanAps.SlotsOwned (s : WlanAps) : Prop where
  distinct : s.aps.Pairwise fun a b => a.wlanApIndex ≠ b.wlanApIndex
  index : ∀ ap ∈ s.aps, ap.wlanApIndex = 0 ∨ ap.wlanApIndex = 1
  first : s.aps ≠ [] → ∃ ap ∈ s.aps, ap.wlanApIndex = 0
  disjoint : s.aps.Pairwise fun a b => ∀ m n iptype i, a.uses m iptype i → ¬ b.uses n iptype i
  inside : ∀ ap ∈ s.aps, ∀ n iptype i, ap.uses n iptype i →
    ∃ size, s.dummyFltRuleHdl.get iptype = some size ∧ 0 ≤ i ∧ i < size

namespace WlanAps

variable {s s' : WlanAps}

/-- The indices are those up to the number of instances, in order. -/
structure Inv (s : WlanAps) : Prop where
  num : s.numWlanApIface = s.aps.length
  interfaces : s.aps.Pairwise fun a b => a.ipaIfNum ≠ b.ipaIfNum
  indices : s.aps.map WlanAp.wlanApIndex = (List.range s.aps.length).map Int.ofNat
  atMostTwo : s.aps.length ≤ 2
  arrays : s.dummyFltRuleHdl = ⟨some 18, some 18⟩ ∨
    s.aps = [] ∧ s.dummyFltRuleHdl = ⟨none, none⟩

theorem Inv.cases (h : s.Inv) : s.aps = [] ∨ (∃ a, s.aps = [a] ∧ a.wlanApIndex = 0) ∨
    ∃ a b, s.aps = [a, b] ∧ a.wlanApIndex = 0 ∧ b.wlanApIndex = 1 := by
  have hindices := h.indices
  have htwo := h.atMostTwo
  rcases haps : s.aps with _ | ⟨a, _ | ⟨b, _ | ⟨c, rest⟩⟩⟩
  · exact .inl rfl
  · rw [haps] at hindices
    exact .inr (.inl ⟨a, rfl, (List.cons.inj hindices).1⟩)
  · rw [haps] at hindices
    have hb := (List.cons.inj hindices).2
    exact .inr (.inr ⟨a, b, rfl, (List.cons.inj hindices).1, (List.cons.inj hb).1⟩)
  · rw [haps] at htwo
    simp at htwo

theorem Inv.slotsOwned (h : s.Inv) : s.SlotsOwned := by
  have hinside : ∀ ap ∈ s.aps, (ap.wlanApIndex = 0 ∨ ap.wlanApIndex = 1) →
      ∀ n iptype i, ap.uses n iptype i →
        ∃ size, s.dummyFltRuleHdl.get iptype = some size ∧ 0 ≤ i ∧ i < size := by
    intro ap hap hindex n iptype i huses
    rw [ap.uses_iff] at huses
    rcases h.arrays with harrays | ⟨hnone, -⟩
    · refine ⟨18, ?_, by omega, by omega⟩
      rw [harrays]
      cases iptype <;> rfl
    · rw [hnone] at hap
      cases hap
  rcases h.cases with haps | ⟨a, haps, ha⟩ | ⟨a, b, haps, ha, hb⟩
  · constructor <;> simp [haps]
  · constructor
    · rw [haps]
      exact List.pairwise_singleton _ _
    · rw [haps]
      exact List.forall_mem_singleton.mpr (.inl ha)
    · intro _
      exact ⟨a, haps ▸ List.mem_singleton_self a, ha⟩
    · rw [haps]
      exact List.pairwise_singleton _ _
    · intro ap hap
      refine hinside ap hap (.inl ?_)
      rw [haps] at hap
      rw [List.mem_singleton.mp hap]
      exact ha
  · have hindex : ∀ ap ∈ s.aps, ap.wlanApIndex = 0 ∨ ap.wlanApIndex = 1 := by
      rw [haps]
      intro ap hap
      rcases List.mem_pair.mp hap with rfl | rfl
      · exact .inl ha
      · exact .inr hb
    constructor
    · rw [haps, List.pairwise_pair, ha, hb]
      decide
    · exact hindex
    · intro _
      exact ⟨a, haps ▸ List.mem_cons_self, ha⟩
    · rw [haps, List.pairwise_pair]
      intro m n iptype i hi hi'
      rw [WlanAp.uses_iff] at hi hi'
      omega
    · exact fun ap hap => hinside ap hap (hindex ap hap)

theorem Inv.newWlan (h : s.Inv) (hroom : s.aps.length < 2) {ipaIfNum : Nat}
    (hnew : ∀ ap ∈ s.aps, ap.ipaIfNum ≠ ipaIfNum) (n : Int) :
    (Lan.newWlan ipaIfNum n s).Inv := by
  have hindex : ¬ (s.numWlanApIface < 0 ∨ s.numWlanApIface > 1) := by
    rw [h.num]
    omega
  have hall : ∀ arrays, arrays = (⟨some 18, some 18⟩ : Fam (Option Int)) →
      Inv ⟨s.aps ++ [⟨ipaIfNum, s.numWlanApIface⟩], s.numWlanApIface + 1, arrays⟩ := by
    rintro arrays rfl
    constructor
    · simp [h.num]
    · rw [List.pairwise_append]
      refine ⟨h.interfaces, List.pairwise_singleton _ _, ?_⟩
      intro a ha b hb
      rw [List.mem_singleton.mp hb]
      exact hnew a ha
    · simp [h.indices, h.num, List.range_succ]
    · rw [List.length_append, List.length_singleton]
      exact hroom
    · exact .inl rfl
  rw [Lan.newWlan, if_neg hindex, addDummyFltRule]
  split
  · split
    case isTrue hsome =>
      refine hall _ ?_
      rcases h.arrays with harrays | ⟨-, harrays⟩
      · exact harrays
      · simp [harrays] at hsome
    case isFalse =>
      rw [numDummyRule_eq, numDummyRule_eq]
      exact hall _ rfl
  · rename_i hone
    refine hall _ ?_
    rcases h.arrays with harrays | ⟨hnone, -⟩
    · exact harrays
    · change ¬ s.numWlanApIface + 1 = 1 at hone
      rw [h.num, hnone] at hone
      exact absurd rfl hone

theorem Inv.deleteSelf (h : s.Inv) {ap : WlanAp} (hap : ap ∈ s.aps)
    (hfirst : ap.wlanApIndex = 0 → s.aps = [ap]) (del : Fam Bool) :
    (Lan.deleteSelf ap del s).Inv := by
  have hnum := h.num
  have harrays : s.dummyFltRuleHdl = ⟨some 18, some 18⟩ := by
    rcases h.arrays with harrays | ⟨hnone, -⟩
    · exact harrays
    · rw [hnone] at hap
      cases hap
  rw [Lan.deleteSelf, delDummyFltRule]
  rcases h.cases with haps | ⟨a, haps, ha⟩ | ⟨a, b, haps, ha, hb⟩
  · rw [haps] at hap
    cases hap
  · rw [haps] at hap hnum
    cases List.mem_singleton.mp hap
    have hempty : s.aps.erase ap = [] := by
      rw [haps]
      simp
    have hall : ∀ arrays, (arrays = (⟨some 18, some 18⟩ : Fam (Option Int)) ∨
        arrays = ⟨none, none⟩) → Inv ⟨s.aps.erase ap, 0, arrays⟩ := by
      intro arrays harrays
      rw [hempty]
      refine ⟨rfl, List.Pairwise.nil, rfl, Nat.zero_le 2, harrays.imp_right fun hnone => ?_⟩
      exact ⟨rfl, hnone⟩
    simp only [hnum, List.length_singleton, harrays]
    split
    · split
      · exact hall _ (.inl rfl)
      · split
        · exact hall _ (.inr rfl)
        · exact hall _ (.inl rfl)
    · exact hall _ (.inl rfl)
  · have hne : ap ≠ a := by
      rintro rfl
      have hone := hfirst ha
      rw [haps] at hone
      cases hone
    have hb' : ap = b := by
      rw [haps] at hap
      exact (List.mem_pair.mp hap).resolve_left hne
    subst hb'
    have hrest : s.aps.erase ap = [a] := by
      rw [haps, List.erase_cons_tail (by simpa using hne.symm), List.erase_cons_head]
    rw [haps] at hnum
    have hone : ¬ s.numWlanApIface - 1 = 0 := by
      rw [hnum, List.length_cons, List.length_singleton]
      omega
    rw [if_neg hone]
    refine ⟨?_, ?_, ?_, ?_, .inl harrays⟩
    · simp [hrest, hnum]
    · simp [hrest]
    · simp [hrest, ha]
    · simp [hrest]

theorem Inv.step {e : ApEvent} (h : s.Inv) (htwo : s.AtMostTwo e) (hfirst : s.FirstLast e)
    (hstep : Step s e s') : s'.Inv := by
  cases hstep with
  | create ipaIfNum n hnew => exact h.newWlan htwo hnew n
  | delete ap del hap => exact h.deleteSelf hap (hfirst ap hap rfl) del

theorem Inv.slotsOwned_iff {e : ApEvent} (h : s.Inv) (htwo : s.AtMostTwo e)
    (hstep : Step s e s') : s'.SlotsOwned ↔ s.FirstLast e := by
  constructor
  · intro howned
    cases hstep with
    | create ipaIfNum n _ => trivial
    | delete ap del hap =>
        have hleft : (Lan.deleteSelf ap del s).aps = s.aps.erase ap := by
          rw [Lan.deleteSelf, delDummyFltRule]
          split
          · split
            · rfl
            · split <;> rfl
          · rfl
        intro a ha heq hzero
        have hinter := h.interfaces
        rcases h.cases with haps | ⟨b, haps, hb⟩ | ⟨b, c, haps, hb, hc⟩
        · rw [haps] at ha
          cases ha
        · rw [haps] at ha ⊢
          rw [List.mem_singleton.mp ha]
        · rw [haps] at ha hap hinter
          rw [List.pairwise_pair] at hinter
          have hab : a = b := by
            rcases List.mem_pair.mp ha with rfl | rfl
            · rfl
            · rw [hzero] at hc
              cases hc
          subst hab
          have hap' : ap = a := by
            rcases List.mem_pair.mp hap with rfl | rfl
            · rfl
            · exact absurd heq hinter
          subst hap'
          -- the second access point is left without the first one
          have hrest : (Lan.deleteSelf ap del s).aps = [c] := by
            rw [hleft, haps, List.erase_cons_head]
          obtain ⟨d, hd, hfirst⟩ := howned.first (by rw [hrest]; exact List.cons_ne_nil c [])
          rw [hrest] at hd
          rw [List.mem_singleton.mp hd, hc] at hfirst
          cases hfirst
  · intro hfirst
    exact (h.step htwo hfirst hstep).slotsOwned

/-- In a run in which the access point with the index `0` goes last, the slots are owned. -/
theorem slots_owned {es : List ApEvent}
    (hrun : Run (Guarded (fun s e => s.AtMostTwo e ∧ s.FirstLast e) Step) noAps es s) :
    s.SlotsOwned := by
  have hinv : s.Inv := by
    refine hrun.invariant (I := Inv) ⟨rfl, .nil, rfl, by decide, .inr ⟨rfl, rfl⟩⟩ ?_
    intro s e s' h hstep
    exact h.step hstep.1.1 hstep.1.2 hstep.2
  exact hinv.slotsOwned

theorem slots_owned_second : ∃ s, Run Step noAps [.create 3 2, .create 5 1,
    .delete 5 ⟨true, true⟩, .create 5 3] s ∧ s.aps.length = 2 ∧ s.SlotsOwned := by
  have hrun : Run (Guarded (fun s e => s.AtMostTwo e ∧ s.FirstLast e) Step) noAps
      [.create 3 2, .create 5 1, .delete 5 ⟨true, true⟩, .create 5 3] _ :=
    (((Run.nil.snoc ⟨⟨by decide, trivial⟩, .create 3 2 (by decide)⟩).snoc
      ⟨⟨by decide, trivial⟩, .create 5 1 (by decide)⟩).snoc
        ⟨⟨trivial, by decide⟩,
          .delete ⟨5, 1⟩ ⟨true, true⟩ (by decide)⟩).snoc
            ⟨⟨by decide, trivial⟩, .create 5 3 (by decide)⟩
  exact ⟨_, hrun.unguarded, by decide, slots_owned hrun⟩

/-- The first access point goes before the second one, and the next one gets the index of
the second. -/
theorem not_slots_owned : ¬ ∀ (es : List ApEvent) (s : WlanAps),
    Run (Guarded AtMostTwo Step) noAps es s → s.SlotsOwned := by
  intro hall
  have hrun : Run (Guarded AtMostTwo Step) noAps
      [.create 3 2, .create 5 1, .delete 3 ⟨true, true⟩, .create 3 2] _ :=
    (((Run.nil.snoc ⟨by decide, .create 3 2 (by decide)⟩).snoc
      ⟨by decide, .create 5 1 (by decide)⟩).snoc
        ⟨trivial, .delete ⟨3, 0⟩ ⟨true, true⟩ (by decide)⟩).snoc
            ⟨by decide, .create 3 2 (by decide)⟩
  have hdistinct := (hall _ _ hrun).distinct
  revert hdistinct
  decide

end WlanAps

end LibraDevice.Lan
