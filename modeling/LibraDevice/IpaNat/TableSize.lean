import LibraDevice.IpaNat.Driver
import LibraDevice.IpaNat.Lifecycle
import Mathlib.Algebra.Group.Nat.Defs
import Mathlib.Data.Nat.Log

/-!
The sizes of a new table, and the slots that rules hash to in it.
-/

namespace LibraDevice.IpaNat

theorem nearest2PowerLoop_eq (number : UInt16) (k turns : Nat) (num tmp : UInt16)
    (hk : k < turns) (hlow : 2 ^ k ≤ num.toNat) (hhigh : num.toNat < 2 ^ (k + 1)) :
    nearest2PowerLoop number turns num tmp =
      if number ≠ tmp * UInt16.ofNat (2 ^ k) then tmp * UInt16.ofNat (2 ^ k) * 2
      else tmp * UInt16.ofNat (2 ^ k) := by
  induction k generalizing turns num tmp with
  | zero =>
      obtain ⟨turns, rfl⟩ : ∃ t, turns = t + 1 := ⟨turns - 1, by omega⟩
      have hone : num = 1 := by
        apply UInt16.toNat_inj.mp
        change num.toNat = 1
        omega
      rw [nearest2PowerLoop, if_pos hone]
      simp
  | succ k ih =>
      obtain ⟨turns, rfl⟩ : ∃ t, turns = t + 1 := ⟨turns - 1, by omega⟩
      have hhalf : (num >>> 1).toNat = num.toNat / 2 := by
        rw [UInt16.toNat_shiftRight]
        rfl
      have hmore : num ≠ 1 := by
        rintro rfl
        change 2 ^ (k + 1) ≤ 1 at hlow
        have hpos : 2 ^ 1 ≤ 2 ^ (k + 1) := Nat.pow_le_pow_right (by decide) (by omega)
        omega
      have hdouble : tmp * 2 * UInt16.ofNat (2 ^ k) = tmp * UInt16.ofNat (2 ^ (k + 1)) := by
        rw [UInt16.mul_assoc, Nat.pow_succ, Nat.mul_comm, UInt16.ofNat_mul]
        rfl
      rw [nearest2PowerLoop, if_neg hmore, ih turns (num >>> 1) (tmp * 2) (by omega), hdouble]
      · rw [hhalf, Nat.le_div_iff_mul_le (by decide), ← Nat.pow_succ]
        exact hlow
      · rw [hhalf, Nat.div_lt_iff_lt_mul (by decide), ← Nat.pow_succ]
        exact hhigh

/-- Up to the largest power of two of 16 bits the next power of two is found; above it the
doubling wraps to zero. -/
theorem getNearest2Power_eq {num : UInt16} (h : num ≠ 0) :
    (32768 < num.toNat ∧ getNearest2Power num = (0, 0)) ∨
      ∃ N, getNearest2Power num = (0, N) ∧ num.toNat ≤ N.toNat ∧ N.toNat ≤ 32768 ∧
        ∃ k, N.toNat = 2 ^ (k + 1) := by
  by_cases hone : num = 1
  · subst hone
    exact Or.inr ⟨2, rfl, by decide, by decide, 0, rfl⟩
  · have hpos : num.toNat ≠ 0 := fun hzero => h (UInt16.toNat_inj.mp hzero)
    have htwo : num.toNat ≠ 1 := fun h1 => hone (UInt16.toNat_inj.mp h1)
    have hlow := Nat.pow_log_le_self 2 hpos
    have hhigh := Nat.lt_pow_succ_log_self (b := 2) (by decide) num.toNat
    obtain ⟨k, hk⟩ : ∃ k, k = Nat.log 2 num.toNat := ⟨_, rfl⟩
    rw [← hk] at hlow hhigh
    have hk16 : k < 16 := by
      by_contra hge
      have hpow : 2 ^ 16 ≤ 2 ^ k := Nat.pow_le_pow_right (by decide) (by omega)
      have hlt := num.toNat_lt
      omega
    have hk0 : k ≠ 0 := by
      rintro rfl
      omega
    have ht : (UInt16.ofNat (2 ^ k)).toNat = 2 ^ k := by
      have hpow : 2 ^ k ≤ 2 ^ 15 := Nat.pow_le_pow_right (by decide) (by omega)
      exact UInt16.toNat_ofNat_of_lt (by rw [UInt16.size]; omega)
    have hloop := nearest2PowerLoop_eq num k 16 num 1 hk16 hlow hhigh
    rw [UInt16.one_mul] at hloop
    rw [getNearest2Power, if_neg h, if_neg hone, hloop]
    by_cases hnum : num = UInt16.ofNat (2 ^ k)
    · have hle : 2 ^ k ≤ 2 ^ 15 := Nat.pow_le_pow_right (by decide) (by omega)
      refine Or.inr ⟨UInt16.ofNat (2 ^ k), by rw [if_neg (not_not.mpr hnum)], ?_, ?_, k - 1, ?_⟩
      · exact Nat.le_of_eq (congrArg UInt16.toNat hnum)
      · rw [ht]
        exact hle
      · rw [ht]
        congr 1
        omega
    · have hne : num.toNat ≠ 2 ^ k := fun heq => hnum (UInt16.toNat_inj.mp (heq.trans ht.symm))
      have hdouble : (UInt16.ofNat (2 ^ k) * 2).toNat = 2 ^ (k + 1) % 65536 := by
        rw [UInt16.toNat_mul, ht, Nat.pow_succ]
        rfl
      rw [if_pos hnum]
      rcases Nat.lt_or_ge k 15 with hlt | hge
      · have hle : 2 ^ (k + 1) ≤ 2 ^ 15 := Nat.pow_le_pow_right (by decide) (by omega)
        have hmod : 2 ^ (k + 1) % 65536 = 2 ^ (k + 1) := Nat.mod_eq_of_lt (by omega)
        rw [hmod] at hdouble
        refine Or.inr ⟨_, rfl, ?_, ?_, k, hdouble⟩
        · omega
        · rw [hdouble]
          exact hle
      · obtain rfl : k = 15 := by omega
        refine Or.inl ⟨by omega, ?_⟩
        rfl

/-- What is wanted of the sizes of a new table, and of the slots that rules hash to in it. -/
structure SizesRight (numberOfEntries tableEntries expnTableEntries : UInt16) : Prop where
  base : 2 ≤ tableEntries.toNat ∧ ∃ k, tableEntries.toNat = 2 ^ k
  enough : numberOfEntries.toNat * 8 / 10 ≤ tableEntries.toNat
  expn : 2 ≤ expnTableEntries.toNat ∧ expnTableEntries.toNat % 2 = 0
  total : (tableEntries + expnTableEntries).toNat =
    tableEntries.toNat + expnTableEntries.toNat
  dst : ∀ trgtIp trgtPort publicPort proto,
    1 ≤ dstHash trgtIp trgtPort publicPort proto (tableEntries - 1).toNat ∧
      dstHash trgtIp trgtPort publicPort proto (tableEntries - 1).toNat < tableEntries.toNat
  src : ∀ privIp privPort trgtIp trgtPort proto,
    1 ≤ srcHash privIp privPort trgtIp trgtPort proto (tableEntries - 1).toNat ∧
      srcHash privIp privPort trgtIp trgtPort proto (tableEntries - 1).toNat <
        tableEntries.toNat

theorem masked_bounds (hash : Nat) {size : Nat} (hsize : 1 ≤ size) :
    1 ≤ (if hash &&& size = 0 then size else hash &&& size) ∧
      (if hash &&& size = 0 then size else hash &&& size) ≤ size := by
  have hle : hash &&& size ≤ size := Nat.and_le_right
  split <;> omega

theorem expnEntries_eq (numberOfEntries : UInt16) :
    2 ≤ (expnEntries numberOfEntries).toNat ∧ (expnEntries numberOfEntries).toNat % 2 = 0 ∧
      (expnEntries numberOfEntries).toNat ≤ 13108 := by
  have hlt := numberOfEntries.toNat_lt
  have hfifth : (UInt16.ofNat (numberOfEntries.toNat * 2 / 10)).toNat =
      numberOfEntries.toNat * 2 / 10 := UInt16.toNat_ofNat_of_lt (by rw [UInt16.size]; omega)
  rw [expnEntries, getNearestEven]
  by_cases hsmall : UInt16.ofNat (numberOfEntries.toNat * 2 / 10) < 2
  · rw [if_pos hsmall]
    decide
  · rw [if_neg hsmall]
    rw [UInt16.lt_iff_toNat_lt, hfifth] at hsmall
    change ¬ numberOfEntries.toNat * 2 / 10 < 2 at hsmall
    have hmod : (UInt16.ofNat (numberOfEntries.toNat * 2 / 10) % 2).toNat =
        numberOfEntries.toNat * 2 / 10 % 2 := by
      rw [UInt16.toNat_mod, hfifth]
      rfl
    by_cases hodd : UInt16.ofNat (numberOfEntries.toNat * 2 / 10) % 2 ≠ 0
    · have hone : numberOfEntries.toNat * 2 / 10 % 2 ≠ 0 := fun hzero =>
        hodd (UInt16.toNat_inj.mp (hmod.trans hzero))
      have hadd : (UInt16.ofNat (numberOfEntries.toNat * 2 / 10) + 1).toNat =
          numberOfEntries.toNat * 2 / 10 + 1 := by
        rw [UInt16.toNat_add, hfifth]
        change (numberOfEntries.toNat * 2 / 10 + 1) % 65536 = _
        omega
      rw [if_pos hodd, hadd]
      omega
    · have hzero : numberOfEntries.toNat * 2 / 10 % 2 = 0 := by
        rw [← hmod, not_not.mp hodd]
        rfl
      rw [if_neg hodd, hfifth]
      omega

theorem natiAllocTable_sizes {numberOfEntries tableEntries expnTableEntries : UInt16}
    {r : AddResults} {s s' : LibState} {mem : NatMem} {ret : Int}
    (h : natiAllocTable numberOfEntries r s = (ret, mem, tableEntries, expnTableEntries, s')) :
    tableEntries = (getNearest2Power (baseEntries numberOfEntries)).2 ∧
      expnTableEntries = expnEntries numberOfEntries := by
  rw [natiAllocTable] at h
  dsimp only at h
  split at h
  · cases h
    exact ⟨rfl, rfl⟩
  · split at h
    · cases h
      exact ⟨rfl, rfl⟩
    · cases h
      exact ⟨rfl, rfl⟩

theorem baseEntries_toNat (numberOfEntries : UInt16) :
    (baseEntries numberOfEntries).toNat = Nat.max (numberOfEntries.toNat * 8 / 10) 1 := by
  have hlt := numberOfEntries.toNat_lt
  have height : (UInt16.ofNat (numberOfEntries.toNat * 8 / 10)).toNat =
      numberOfEntries.toNat * 8 / 10 := UInt16.toNat_ofNat_of_lt (by rw [UInt16.size]; omega)
  rw [baseEntries]
  by_cases hzero : UInt16.ofNat (numberOfEntries.toNat * 8 / 10) = 0
  · rw [if_pos hzero]
    rw [hzero] at height
    rw [← height]
    rfl
  · have hpos : numberOfEntries.toNat * 8 / 10 ≠ 0 := fun h0 =>
      hzero (UInt16.toNat_inj.mp (height.trans h0))
    rw [if_neg hzero, height]
    exact (Nat.max_eq_left (Nat.one_le_iff_ne_zero.mpr hpos)).symm

/-- Sizes are right up to the number of entries above which the base table would need more
than half of the 16 bit range. -/
theorem sizesRight_iff {numberOfEntries tableEntries expnTableEntries : UInt16}
    (hpos : 1 ≤ numberOfEntries.toNat) {r : AddResults} {s s' : LibState} {mem : NatMem}
    (h : natiAllocTable numberOfEntries r s = (0, mem, tableEntries, expnTableEntries, s')) :
    SizesRight numberOfEntries tableEntries expnTableEntries ↔
      numberOfEntries.toNat ≤ 40961 := by
  obtain ⟨rfl, rfl⟩ := natiAllocTable_sizes h
  have hbase := baseEntries_toNat numberOfEntries
  change _ = max (numberOfEntries.toNat * 8 / 10) 1 at hbase
  have hlt := numberOfEntries.toNat_lt
  rcases getNearest2Power_eq (baseEntries_ne_zero numberOfEntries) with
    ⟨hlarge, hzero⟩ | ⟨N, hN, hle, hmax, k, hk⟩
  · rw [hzero]
    refine iff_of_false (fun hright => absurd hright.base.1 (by decide)) ?_
    omega
  · rw [hN]
    change SizesRight numberOfEntries N _ ↔ _
    refine iff_of_true ?_ (by omega)
    obtain ⟨hexpn, heven, hsmall⟩ := expnEntries_eq numberOfEntries
    have htwo : 2 ≤ N.toNat := by
      rw [hk, Nat.pow_succ]
      have hone := Nat.one_le_two_pow (n := k)
      omega
    have hsub : (N - 1).toNat = N.toNat - 1 :=
      UInt16.toNat_sub_of_le N 1 (UInt16.le_iff_toNat_le.mpr (by change 1 ≤ N.toNat; omega))
    have hmask : 1 ≤ (N - 1).toNat := by omega
    refine ⟨⟨htwo, k + 1, hk⟩, by omega, ⟨hexpn, heven⟩, ?_, ?_, ?_⟩
    · rw [UInt16.toNat_add]
      exact Nat.mod_eq_of_lt (by omega)
    · intro trgtIp trgtPort publicPort proto
      obtain ⟨hlow, hhigh⟩ := masked_bounds ((trgtIp.toUInt16 ^^^
        (trgtIp >>> 16).toUInt16 ^^^ trgtPort ^^^ publicPort ^^^ proto.toUInt16).toNat) hmask
      exact ⟨hlow, by rw [hsub] at hhigh ⊢; exact Nat.lt_of_le_of_lt hhigh (by omega)⟩
    · intro privIp privPort trgtIp trgtPort proto
      obtain ⟨hlow, hhigh⟩ := masked_bounds ((privIp.toUInt16 ^^^
        (privIp >>> 16).toUInt16 ^^^ privPort ^^^ trgtIp.toUInt16 ^^^ (trgtIp >>> 16).toUInt16 ^^^
        trgtPort ^^^ proto.toUInt16).toNat) hmask
      exact ⟨hlow, by rw [hsub] at hhigh ⊢; exact Nat.lt_of_le_of_lt hhigh (by omega)⟩

theorem sizesRight_iff_hundred :
    SizesRight 100 128 20 ↔ (100 : UInt16).toNat ≤ 40961 :=
  sizesRight_iff (r := addSucceeds) (s := .init) (by decide) rfl

/-- A table for 40962 entries gets no base entries at all. -/
theorem no_base_entries :
    ¬ ∀ numberOfEntries tableEntries expnTableEntries r s mem s',
      1 ≤ numberOfEntries.toNat →
      natiAllocTable numberOfEntries r s = (0, mem, tableEntries, expnTableEntries, s') →
      SizesRight numberOfEntries tableEntries expnTableEntries := by
  intro h
  have hright := h 40962 0 8192 addSucceeds .init _ _ (by decide) rfl
  exact absurd hright.base.1 (by decide)

end LibraDevice.IpaNat
