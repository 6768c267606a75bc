import LibraDevice.Conntrack.Listener
import LibraDevice.NatCache.PowerSave
import Mathlib.Data.List.Perm.Subperm

/-!
The list `PwrSaveIfs` of the NAT cache, against the addresses of clients that are awake or
in power save.
-/

namespace LibraDevice.Lan

open Conntrack NatCache
open LanToLan (IpType)

section

variable {δ : Type} {d : NatDriver δ}

theorem addEntry_pwrSaveIfs (rule : NatTableEntry) (app : NatApp δ) :
    (addEntry d rule app).2.pwrSaveIfs = app.pwrSaveIfs := by
  rw [addEntry]
  split <;> try rfl
  split <;> try rfl
  split <;> try rfl
  split <;> try rfl
  split <;> try rfl
  dsimp only
  split <;> try rfl
  split <;> rfl

theorem flushTempEntries_pwrSaveIfs (ipAddr : UInt32) (isAdd : Bool) (app : NatApp δ) :
    (flushTempEntries d ipAddr isAdd app).pwrSaveIfs = app.pwrSaveIfs := by
  apply flushTempEntries_rule (I := fun app' => app'.pwrSaveIfs = app.pwrSaveIfs)
  · intro rule app' h
    rw [addEntry_pwrSaveIfs, h]
  · intro app' temp h
    exact h
  · rfl

theorem handleNeighIpAddrDelEvt_pwrSaveIfs {addr : UInt32} (haddr : addr ≠ 0)
    (lst : CtListener δ) :
    (handleNeighIpAddrDelEvt d addr lst).natInst.pwrSaveIfs =
      replaceFirst addr 0 lst.natInst.pwrSaveIfs := by
  rw [handleNeighIpAddrDelEvt, if_neg haddr]
  dsimp only
  rw [delEntriesOnClntDiscon, if_neg haddr]
  dsimp only
  rw [flushTempEntries_pwrSaveIfs]

theorem replaceFirst_of_not_mem {old new : UInt32} {ifs : List UInt32} (h : old ∉ ifs) :
    replaceFirst old new ifs = ifs := by
  rcases replaceFirst_cases old new ifs with ⟨-, heq⟩ | ⟨before, after, rfl, -, -⟩
  · exact heq
  · exact absurd (by simp) h

theorem resetPwrSaveIf_pwrSaveIfs {addr : UInt32} (haddr : addr ≠ 0) (app : NatApp δ) :
    (resetPwrSaveIf d addr app).2.pwrSaveIfs = replaceFirst addr 0 app.pwrSaveIfs := by
  rw [resetPwrSaveIf, if_neg haddr]

theorem handleNeighIpAddrAddEvt_pwrSaveIfs {cfg : Config} {addr : UInt32} {iptype : IpType}
    {ifrName : Option String} {lst : CtListener δ} (h : addr ∉ lst.natInst.pwrSaveIfs) :
    (handleNeighIpAddrAddEvt d cfg addr iptype ifrName lst).natInst.pwrSaveIfs =
      lst.natInst.pwrSaveIfs := by
  have hnonnat : (cacheNonNatIface d addr lst).natInst.pwrSaveIfs = lst.natInst.pwrSaveIfs := by
    rw [cacheNonNatIface]
    split
    case h_1 => rfl
    case h_2 => exact flushTempEntries_pwrSaveIfs _ _ _
  rw [handleNeighIpAddrAddEvt.eq_def]
  split
  case isTrue => rfl
  case isFalse haddr =>
    split
    case h_1 => rfl
    case h_2 =>
      split
      case isFalse => exact hnonnat
      case isTrue =>
        rw [addNatIface]
        split
        case h_1 => exact hnonnat
        case h_2 =>
          split
          case isTrue => rfl
          case isFalse =>
            dsimp only
            rw [flushTempEntries_pwrSaveIfs,
              resetPwrSaveIf_pwrSaveIfs (fun hzero => haddr (Or.inl hzero)),
              replaceFirst_of_not_mem h]

end

/-- The list is that of the addresses in `addrs` with a client in power save, and no such
address has a client that is awake. -/
structure Saves (ifs : List UInt32) (addrs : List (UInt32 × Bool)) : Prop where
  length : ifs.length = ipaMaxNumWifiClients
  once : ListedOnce ifs
  saving_iff : ∀ a, Saving ifs a ↔ (a, true) ∈ addrs
  awake : ∀ a, (a, false) ∈ addrs → (a, true) ∉ addrs

theorem length_replaceFirst (old new : UInt32) (ifs : List UInt32) :
    (replaceFirst old new ifs).length = ifs.length := by
  rw [replaceFirst]
  split
  · rfl
  · exact List.length_set

theorem saving_leave_iff {ifs : List UInt32} {client ip : UInt32} (hclient : client ≠ 0)
    (h : ListedOnce ifs) :
    Saving (replaceFirst client 0 ifs) ip ↔ ip ≠ client ∧ Saving ifs ip := by
  refine ⟨saving_leave hclient h, ?_⟩
  rintro ⟨hne, hip, hmem⟩
  refine ⟨hip, ?_⟩
  rcases replaceFirst_cases client 0 ifs with ⟨-, heq⟩ | ⟨before, after, rfl, -, heq⟩
  · rw [heq]
    exact hmem
  · rw [heq]
    simp only [List.mem_append, List.mem_cons, hne, false_or] at hmem
    simp only [List.mem_append, List.mem_cons]
    tauto

theorem saving_enter_iff {ifs : List UInt32} {client ip : UInt32} (hclient : client ≠ 0)
    (hroom : 0 ∈ ifs) :
    Saving (replaceFirst 0 client ifs) ip ↔ ip = client ∨ Saving ifs ip := by
  refine ⟨saving_enter, ?_⟩
  rcases replaceFirst_cases 0 client ifs with ⟨hno, -⟩ | ⟨before, after, rfl, -, heq⟩
  · exact absurd hroom hno
  rw [heq]
  rintro (rfl | ⟨hip, hmem⟩)
  · exact ⟨hclient, by simp⟩
  · refine ⟨hip, ?_⟩
    simp only [List.mem_append, List.mem_cons, hip, false_or] at hmem
    simp only [List.mem_append, List.mem_cons]
    tauto

namespace Saves

variable {ifs : List UInt32} {addrs addrs' : List (UInt32 × Bool)} {a b : UInt32}

theorem init : Saves (List.replicate ipaMaxNumWifiClients 0) [] := by
  constructor
  · exact List.length_replicate
  · simp [ListedOnce]
  · intro a
    constructor
    · rintro ⟨hne, hmem⟩
      exact absurd (List.eq_of_mem_replicate hmem) hne
    · intro hmem
      cases hmem
  · intro a hmem
    cases hmem

theorem perm (h : Saves ifs addrs) (hp : addrs.Perm addrs') : Saves ifs addrs' := by
  constructor
  · exact h.length
  · exact h.once
  · intro a
    rw [h.saving_iff, hp.mem_iff]
  · intro a
    rw [← hp.mem_iff, ← hp.mem_iff]
    exact h.awake a

theorem not_mem (h : Saves ifs addrs) (ha : a ≠ 0) (hno : (a, true) ∉ addrs) : a ∉ ifs :=
  fun hmem => hno ((h.saving_iff a).mp ⟨ha, hmem⟩)

theorem join (h : Saves ifs addrs) (hno : (a, true) ∉ addrs) : Saves ifs ((a, false) :: addrs) := by
  constructor
  · exact h.length
  · exact h.once
  · intro b
    rw [h.saving_iff]
    simp
  · intro b hb
    simp only [List.mem_cons, Prod.mk.injEq, and_true, reduceCtorEq, and_false, false_or] at hb ⊢
    rcases hb with rfl | hb
    · exact hno
    · exact h.awake b hb

theorem part (h : Saves ifs ((a, false) :: addrs)) : Saves ifs addrs := by
  constructor
  · exact h.length
  · exact h.once
  · intro b
    rw [h.saving_iff]
    simp
  · intro b hb hb'
    exact h.awake b (List.mem_cons_of_mem _ hb) (List.mem_cons_of_mem _ hb')

theorem leave (h : Saves ifs ((a, true) :: addrs)) (ha : a ≠ 0) (hno : (a, true) ∉ addrs) :
    Saves (replaceFirst a 0 ifs) addrs := by
  constructor
  · rw [length_replaceFirst, h.length]
  · exact h.once.leave ha
  · intro b
    rw [saving_leave_iff ha h.once, h.saving_iff, List.mem_cons, Prod.mk.injEq]
    constructor
    · rintro ⟨hne, ⟨heq, -⟩ | hmem⟩
      · exact absurd heq hne
      · exact hmem
    · intro hmem
      refine ⟨?_, Or.inr hmem⟩
      rintro rfl
      exact hno hmem
  · intro b hb hb'
    exact h.awake b (List.mem_cons_of_mem _ hb) (List.mem_cons_of_mem _ hb')

theorem room (h : Saves ifs addrs) (hcount : addrs.length < ipaMaxNumWifiClients) : 0 ∈ ifs := by
  by_contra hfull
  have hall : ifs.filter (· != 0) = ifs := by
    apply List.filter_eq_self.mpr
    intro b hb
    simp only [bne_iff_ne, ne_eq]
    rintro rfl
    exact hfull hb
  have honce := h.once
  rw [ListedOnce, hall] at honce
  have hsub : ifs ⊆ addrs.map Prod.fst := by
    intro b hb
    have hne : b ≠ 0 := by
      rintro rfl
      exact hfull hb
    exact List.mem_map.mpr ⟨(b, true), (h.saving_iff b).mp ⟨hne, hb⟩, rfl⟩
  have hle := (honce.subperm hsub).length_le
  rw [List.length_map, h.length] at hle
  omega

theorem sleep (h : Saves ifs ((a, false) :: addrs)) (ha : a ≠ 0) (hno : (a, false) ∉ addrs)
    (hcount : addrs.length < ipaMaxNumWifiClients) :
    Saves (if ifs.contains a then ifs else replaceFirst 0 a ifs) ((a, true) :: addrs) := by
  have hsmall := h.part
  have hnew : a ∉ ifs := by
    apply h.not_mem ha
    exact h.awake a List.mem_cons_self
  rw [if_neg (by simpa using hnew)]
  constructor
  · rw [length_replaceFirst, h.length]
  · exact h.once.enter ha hnew
  · intro b
    rw [saving_enter_iff ha (hsmall.room hcount), hsmall.saving_iff]
    simp
  · intro b hb hb'
    simp only [List.mem_cons, Prod.mk.injEq, and_true, reduceCtorEq, and_false, false_or] at hb hb'
    rcases hb' with rfl | hb'
    · exact hno hb
    · exact hsmall.awake b hb hb'

end Saves

end LibraDevice.Lan
