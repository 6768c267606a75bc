import LibraDevice.Lib.PrefixMask
import LibraDevice.Netlink.Events
import LibraDevice.Xml.FirewallCfg

/-!
The masks of IPv6 prefixes: the two loops of the firewall file, which start
from a cleared entry, and those of the added and the deleted route, which leave
some words of the event as memory has them.
-/

namespace LibraDevice.Netlink

open LibraDevice.PrefixMask
open LibraDevice.Xml

/-- The words of an address. -/
def words (a : Backhaul.Ipv6Addr) : Addr
  | 0 => a.word0.toBitVec
  | 1 => a.word1.toBitVec
  | 2 => a.word2.toBitVec
  | 3 => a.word3.toBitVec

/-- The words that a loop over `mask_index` leaves in memory `mem`. -/
def maskIn (step : Nat × (Fin 4 → Option Word) → Fin 4 → Nat × (Fin 4 → Option Word))
    (dstLen : Nat) (mem : Addr) : Addr :=
  fun i => (([0, 1, 2, 3].foldl step (dstLen, fun _ => none)).2 i).getD (mem i)

/-- A word that is given what is left of the length, as a loop does that writes
each rest to its own word. -/
def lengthWord (v : Nat) (mem : Word) : Word :=
  if 32 ≤ v then 0xffffffff else (maskV6 v).getD mem

theorem maskV6_isSome {v : Nat} (hv : v < 32) : (maskV6 v).isSome = decide (4 ∣ v) := by
  revert v
  decide

theorem maskV6_exact {v : Nat} (hv : v < 32) (h4 : 4 ∣ v) (mem : Word) :
    WordExact v ((maskV6 v).getD mem) := by
  have hzero : ∀ v : Nat, v < 32 → 4 ∣ v → ∀ k < 32,
      ((maskV6 v).getD 0).getLsbD k = decide (32 - 1 - k < v) := by
    decide
  obtain ⟨word, hword⟩ : ∃ word, maskV6 v = some word := by
    rw [← Option.isSome_iff_exists, maskV6_isSome hv, decide_eq_true h4]
  have hexact := hzero v hv h4
  rw [hword] at hexact ⊢
  exact hexact

theorem lengthWord_exact {v : Nat} (hv : 32 ≤ v ∨ 4 ∣ v) (mem : Word) :
    WordExact v (lengthWord v mem) := by
  rw [lengthWord]
  split
  · next hle =>
      intro k hk
      rw [decide_eq_true (by omega)]
      revert k
      decide
  · next hlt => exact maskV6_exact (by omega) (hv.resolve_left hlt) mem

theorem of_lengthWord_exact {v : Nat} (h : WordExact v (lengthWord v 0)) : 32 ≤ v ∨ 4 ∣ v := by
  refine Classical.or_iff_not_imp_left.mpr fun hlt => Classical.not_not.mp fun h4 => ?_
  have hnone : maskV6 v = none := by
    rw [← Option.isNone_iff_eq_none, ← Option.not_isSome, maskV6_isSome (by omega),
      decide_eq_false h4]
    rfl
  have hword : lengthWord v 0 = 0 := by
    rw [lengthWord, if_neg hlt, hnone]
    rfl
  have hbit := h 31 (by decide)
  rw [hword, decide_eq_true (by omega)] at hbit
  revert hbit
  decide

theorem dvd_iff {n : Nat} (hn : n ≤ 128) :
    (∀ i : Fin 4, 32 ≤ n - 32 * i.val ∨ 4 ∣ n - 32 * i.val) ↔ 4 ∣ n := by
  constructor
  · intro h
    have h0 := h 0
    have h1 := h 1
    have h2 := h 2
    have h3 := h 3
    simp only [Fin.isValue, Fin.val_zero, Fin.val_one, Fin.val_two] at h0 h1 h2
    change 32 ≤ n - 32 * 3 ∨ 4 ∣ n - 32 * 3 at h3
    omega
  · intro h i
    omega

theorem lengthWords_exact {n : Nat} (hn : n ≤ 128) (mask : Addr → Addr)
    (hmask : ∀ mem i, mask mem i = lengthWord (n - 32 * i.val) (mem i)) :
    ((∀ mem, Exact n (mask mem)) ↔ 4 ∣ n) ∧ (Exact n (mask fun _ => 0) ↔ 4 ∣ n) := by
  have hall : 4 ∣ n → ∀ mem, Exact n (mask mem) := by
    intro h4 mem
    rw [exact_iff]
    intro i
    rw [hmask]
    exact lengthWord_exact ((dvd_iff hn).mpr h4 i) _
  have hcleared : Exact n (mask fun _ => 0) → 4 ∣ n := by
    intro h
    rw [exact_iff] at h
    refine (dvd_iff hn).mp fun i => of_lengthWord_exact ?_
    have hi := h i
    rw [hmask] at hi
    exact hi
  exact ⟨⟨fun h => hcleared (h _), hall⟩, ⟨hcleared, fun h4 => hall h4 _⟩⟩

theorem maskWord_length (v : Nat) (mask : UInt32) :
    (maskWord v mask).2 = ((v - 32 : Nat) : Int) ∧
      (maskWord v mask).1.toBitVec = lengthWord v mask.toBitVec := by
  rcases Nat.lt_or_ge v 32 with hlt | hge
  · have hneg : ¬ (v : Int) ≥ 32 := by omega
    rw [maskWord, if_neg hneg, lengthWord, if_neg (Nat.not_le.mpr hlt)]
    exact ⟨by omega, rfl⟩
  · have hpos : (v : Int) ≥ 32 := by omega
    rw [maskWord, if_pos hpos, lengthWord, if_pos hge]
    exact ⟨by omega, rfl⟩

theorem maskWords_length (n : Nat) (a : Backhaul.Ipv6Addr) (i : Fin 4) :
    words (maskWords n a) i = lengthWord (n - 32 * i.val) (words a i) := by
  obtain ⟨h0, w0⟩ := maskWord_length n a.word0
  obtain ⟨h1, w1⟩ := maskWord_length (n - 32) a.word1
  obtain ⟨h2, w2⟩ := maskWord_length (n - 32 - 32) a.word2
  obtain ⟨h3, w3⟩ := maskWord_length (n - 32 - 32 - 32) a.word3
  simp only [maskWords, h0, h1, h2]
  match i with
  | 0 => exact w0
  | 1 => exact w1
  | 2 => exact w2
  | 3 => exact w3

theorem writeMask_self {index : Nat} {i : Fin 4} {f : Fin 4 → Option Word} (hf : f i = none)
    (mem : Word) : (writeMask index i f i).getD mem = (maskV6 index).getD mem := by
  rw [writeMask]
  cases maskV6 index with
  | none =>
      change (f i).getD mem = mem
      rw [hf]
      rfl
  | some word =>
      change (Function.update f i (some word) i).getD mem = word
      rw [Function.update_self]
      rfl

section

variable (s : Nat × (Fin 4 → Option Word)) (i : Fin 4)

theorem addMaskStep_rest : (addMaskStep s i).1 = s.1 - 32 := by
  rw [addMaskStep]
  split
  · rfl
  · exact (Nat.sub_eq_zero_of_le (by omega)).symm

theorem addMaskStep_of_ne {j : Fin 4} (hj : j ≠ i) : (addMaskStep s i).2 j = s.2 j := by
  rw [addMaskStep]
  split
  · change writeMask 32 i s.2 j = s.2 j
    exact writeMask_of_ne hj
  · exact writeMask_of_ne hj

theorem addMaskStep_self (hs : s.2 i = none) (mem : Word) :
    ((addMaskStep s i).2 i).getD mem = lengthWord s.1 mem := by
  rw [addMaskStep, lengthWord]
  split
  · change (writeMask 32 i s.2 i).getD mem = (maskV6 32).getD mem
    exact writeMask_self hs mem
  · exact writeMask_self hs mem

end

theorem maskIn_add (n : Nat) (mem : Addr) (i : Fin 4) :
    maskIn addMaskStep n mem i = lengthWord (n - 32 * i.val) (mem i) := by
  rw [maskIn]
  simp only [List.foldl_cons, List.foldl_nil]
  match i with
  | 0 =>
      rw [addMaskStep_of_ne _ _ (by decide), addMaskStep_of_ne _ _ (by decide),
        addMaskStep_of_ne _ _ (by decide), addMaskStep_self _ _ rfl]
      rfl
  | 1 =>
      rw [addMaskStep_of_ne _ _ (by decide), addMaskStep_of_ne _ _ (by decide),
        addMaskStep_self, addMaskStep_rest]
      · rfl
      · exact addMaskStep_of_ne _ _ (by decide)
  | 2 =>
      rw [addMaskStep_of_ne _ _ (by decide), addMaskStep_self, addMaskStep_rest,
        addMaskStep_rest]
      · rfl
      · rw [addMaskStep_of_ne _ _ (by decide), addMaskStep_of_ne _ _ (by decide)]
  | 3 =>
      rw [addMaskStep_self, addMaskStep_rest, addMaskStep_rest, addMaskStep_rest]
      · rfl
      · rw [addMaskStep_of_ne _ _ (by decide), addMaskStep_of_ne _ _ (by decide),
          addMaskStep_of_ne _ _ (by decide)]

/-- The last word of a deleted route's mask is never written, unless the whole
address is the prefix. -/
theorem maskIn_del_last {n : Nat} (hn : n < 128) (mem : Addr) :
    maskIn delMaskStep n mem 3 = mem 3 := by
  rw [maskIn]
  simp only [List.foldl_cons, List.foldl_nil]
  rw [delMaskStep_self _ _ _ (by decide), delMaskStep_of_ne _ _ (by decide) (by decide),
    delMaskStep_of_ne _ _ (by decide) (by decide), delMaskStep_of_ne _ _ (by decide) (by decide)]
  · rfl
  · rw [delMaskStep_rest, delMaskStep_rest, delMaskStep_rest]
    change n - 32 - 32 - 32 < 32
    omega

theorem maskIn_del_exact {n : Nat} (hn : n ≤ 128) :
    (∀ mem, Exact n (maskIn delMaskStep n mem)) ↔ n = 128 := by
  constructor
  · intro h
    refine Classical.not_not.mp fun hne => ?_
    have hlt : n < 128 := by omega
    have hlast : ∀ mem : Addr, (mem 3).getLsbD 31 = decide (0 < n - 96) := by
      intro mem
      have h3 := (exact_iff.mp (h mem)) 3 31 (by decide)
      rw [maskIn_del_last hlt] at h3
      exact h3
    have hclear := hlast fun _ => 0
    rw [← hlast fun _ => 0xffffffff] at hclear
    revert hclear
    decide
  · rintro rfl mem
    rw [exact_iff]
    intro i
    have hword : maskIn delMaskStep 128 mem i = lengthWord (128 - 32 * i.val) 0 := by
      match i with
      | 0 => rfl
      | 1 => rfl
      | 2 => rfl
      | 3 => rfl
    rw [hword]
    exact lengthWord_exact (Or.inl (by omega)) 0

/-- Where the masks of a prefix of length `n` select exactly that prefix: those
of the firewall file from a cleared entry and that of an added route, whatever
memory held, for the lengths that `mask_v6` knows; that of a deleted route for
the whole address alone. -/
theorem prefixMasks_exact (n : Nat) (hn : n ≤ 128) :
    (∀ (libc : Libc) (ip6Addr : Backhaul.Ipv6Addr) (contentBuf : CString)
          (a : Firewall.RuleAttrib), atoi contentBuf = n → a.v6.srcAddrMask = .zero →
          (Exact n (words (attribField libc ip6Addr (.pfx .source) contentBuf a).v6.srcAddrMask) ↔
            4 ∣ n)) ∧
      (∀ (libc : Libc) (ip6Addr : Backhaul.Ipv6Addr) (contentBuf : CString)
          (a : Firewall.RuleAttrib), atoi contentBuf = n → a.v6.dstAddrMask = .zero →
          (Exact n
              (words (attribField libc ip6Addr (.pfx .destination) contentBuf a).v6.dstAddrMask) ↔
            4 ∣ n)) ∧
      ((∀ mem, Exact n (maskIn addMaskStep n mem)) ↔ 4 ∣ n) ∧
      ((∀ mem, Exact n (maskIn delMaskStep n mem)) ↔ n = 128) := by
  have hxml : Exact n (words (maskWords n .zero)) ↔ 4 ∣ n := by
    have hwords := (lengthWords_exact hn
      (fun mem i => lengthWord (n - 32 * i.val) (mem i)) fun _ _ => rfl).2
    have hsame : words (maskWords n .zero) = fun i => lengthWord (n - 32 * i.val) 0 := by
      funext i
      rw [maskWords_length]
      match i with
      | 0 => rfl
      | 1 => rfl
      | 2 => rfl
      | 3 => rfl
    rw [hsame]
    exact hwords
  refine ⟨?_, ?_, (lengthWords_exact hn (maskIn addMaskStep n) (maskIn_add n)).1,
    maskIn_del_exact hn⟩
  · intro libc ip6Addr contentBuf a hlength hcleared
    change Exact n (words (maskWords (atoi contentBuf) a.v6.srcAddrMask)) ↔ 4 ∣ n
    rw [hlength, hcleared]
    exact hxml
  · intro libc ip6Addr contentBuf a hlength hcleared
    change Exact n (words (maskWords (atoi contentBuf) a.v6.dstAddrMask)) ↔ 4 ∣ n
    rw [hlength, hcleared]
    exact hxml

theorem prefixMasks_exact_sixtyFour :
    Exact 64 (words (attribField ⟨fun _ => 0, fun _ => none⟩ .zero (.pfx .source) "64".toList
        Firewall.RuleAttrib.zero).v6.srcAddrMask) ∧
      ∀ mem, Exact 64 (maskIn addMaskStep 64 mem) := by
  obtain ⟨hsrc, -, hadd, -⟩ := prefixMasks_exact 64 (by decide)
  exact ⟨(hsrc _ _ _ _ (by decide) rfl).mpr (by decide), hadd.mpr (by decide)⟩

/-- The mask of a deleted route with that prefix does not look at its first
word, nor that of an added route with a prefix of two bits at anything. -/
theorem maskIn_not_exact :
    ¬ Exact 64 (maskIn delMaskStep 64 fun _ => 0) ∧
      ¬ Exact 2 (maskIn addMaskStep 2 fun _ => 0) := by
  constructor
  · intro h
    have hbit := exact_iff.mp h 0 31 (by decide)
    revert hbit
    decide
  · intro h
    have hbit := exact_iff.mp h 0 31 (by decide)
    revert hbit
    decide

end LibraDevice.Netlink
