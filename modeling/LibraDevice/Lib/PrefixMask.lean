import Mathlib.Data.BitVec

/-!
Prefixes of addresses. An address is a sequence of words, whose bits count from
the highest of the first word on. A mask selects a prefix exactly if its bits
are those of the prefix.
-/

namespace LibraDevice.PrefixMask

variable {m w : Nat}

/-- The place of bit `k` of word `i`, `k` counting from the lowest bit on. -/
def place (w i k : Nat) : Nat :=
  w * i + (w - 1 - k)

/-- The first `n` bits of the two addresses agree. -/
def Agree (n : Nat) (p a : Fin m → BitVec w) : Prop :=
  ∀ (i : Fin m) (k : Nat), k < w → place w i k < n → (p i).getLsbD k = (a i).getLsbD k

/-- Under the mask two addresses are the same if their first `n` bits agree,
and only then. -/
def Exact (n : Nat) (mask : Fin m → BitVec w) : Prop :=
  ∀ p a : Fin m → BitVec w, (∀ i, p i &&& mask i = a i &&& mask i) ↔ Agree n p a

/-- The first `v` bits of the word, and no others, are set. -/
def WordExact (v : Nat) (word : BitVec w) : Prop :=
  ∀ k < w, word.getLsbD k = decide (w - 1 - k < v)

theorem place_lt_iff {n i k : Nat} : place w i k < n ↔ w - 1 - k < n - w * i := by
  simp only [place]
  omega

theorem and_eq_iff {x y mask : BitVec w} :
    x &&& mask = y &&& mask ↔ ∀ k < w, mask.getLsbD k = true → x.getLsbD k = y.getLsbD k := by
  constructor
  · intro h k _ hk
    have hbit := congrArg (fun v => v.getLsbD k) h
    simp only [BitVec.getLsbD_and, hk, Bool.and_true] at hbit
    exact hbit
  · intro h
    apply BitVec.eq_of_getLsbD_eq
    intro k hk
    simp only [BitVec.getLsbD_and]
    cases hm : mask.getLsbD k with
    | false => rw [Bool.and_false, Bool.and_false]
    | true => rw [h k hk hm]

/-- A mask is exact if each of its words has the bits of its part of the
prefix. -/
theorem exact_iff {n : Nat} {mask : Fin m → BitVec w} :
    Exact n mask ↔ ∀ i : Fin m, WordExact (n - w * i) (mask i) := by
  constructor
  · intro h i k hk
    -- two addresses that differ in this bit alone
    have hone : ∀ l < w, (BitVec.twoPow w k).getLsbD l = decide (k = l) := by
      intro l hl
      rw [BitVec.getLsbD_twoPow, decide_eq_true hk, Bool.true_and]
    have hagree : Agree n (fun _ => (0 : BitVec w))
        (Function.update (fun _ => 0) i (BitVec.twoPow w k)) ↔ ¬ place w i k < n := by
      constructor
      · intro hall hlt
        have hbit := hall i k hk hlt
        rw [Function.update_self, hone k hk, decide_eq_true rfl] at hbit
        simp at hbit
      · intro hge j l hl hlt
        rcases eq_or_ne j i with rfl | hj
        · have hne : k ≠ l := by
            rintro rfl
            exact hge hlt
          rw [Function.update_self, hone l hl, decide_eq_false hne]
          simp
        · rw [Function.update_of_ne hj]
    have hmask : (∀ j, (0 : BitVec w) &&& mask j =
        Function.update (fun _ => (0 : BitVec w)) i (BitVec.twoPow w k) j &&& mask j) ↔
          (mask i).getLsbD k = false := by
      simp only [and_eq_iff]
      constructor
      · intro hall
        rw [← Bool.not_eq_true]
        intro hset
        have hbit := hall i k hk hset
        rw [Function.update_self, hone k hk, decide_eq_true rfl] at hbit
        simp at hbit
      · intro hclear j l hl hset
        rcases eq_or_ne j i with rfl | hj
        · have hne : k ≠ l := by
            rintro rfl
            rw [hclear] at hset
            cases hset
          rw [Function.update_self, hone l hl, decide_eq_false hne]
          simp
        · rw [Function.update_of_ne hj]
    have hiff := hmask.symm.trans ((h _ _).trans hagree)
    rw [place_lt_iff] at hiff
    cases hbit : (mask i).getLsbD k with
    | false => rw [decide_eq_false (hiff.mp hbit)]
    | true =>
        refine (decide_eq_true ?_).symm
        refine Classical.not_not.mp fun hge => ?_
        rw [hiff.mpr hge] at hbit
        cases hbit
  · intro h p a
    have hbit : ∀ (i : Fin m) (k : Nat), k < w →
        ((mask i).getLsbD k = true ↔ place w i k < n) := by
      intro i k hk
      rw [h i k hk, decide_eq_true_eq, place_lt_iff]
    simp only [and_eq_iff]
    constructor
    · intro hall i k hk hlt
      exact hall i k hk ((hbit i k hk).mpr hlt)
    · intro hall i k hk hmask
      exact hall i k hk ((hbit i k hk).mp hmask)

end LibraDevice.PrefixMask
