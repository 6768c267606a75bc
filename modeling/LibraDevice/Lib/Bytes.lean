import Mathlib.Algebra.Group.Nat.Defs
import Mathlib.Tactic.Common

/-!
What a pointer points to, and numbers stored in little-endian order: those of
sixteen and thirty-two bits, and of any width; an `int`; and writes to a piece of
memory.
-/

namespace LibraDevice.Bytes

abbrev Byte := BitVec 8

/-- The byte at each offset from a pointer. -/
abbrev Ptr := Nat → Byte

/-- A value stored in an `int` of 32 bits. -/
def toInt (x : Int) : Int :=
  x.bmod 4294967296

theorem toInt_of_range {x : Int} (hlow : -2147483648 ≤ x) (hhigh : x < 2147483648) :
    toInt x = x := by
  rw [toInt, Int.bmod]
  split <;> omega

theorem toInt_natCast {n : Nat} (hn : n < 2147483648) : toInt n = n :=
  toInt_of_range (by omega) (by omega)

namespace Ptr

def advance (p : Ptr) (n : Nat) : Ptr :=
  fun i => p (n + i)

def u16 (p : Ptr) : Nat :=
  (p 0).toNat + 256 * (p 1).toNat

def u32 (p : Ptr) : BitVec 32 :=
  p 3 ++ p 2 ++ p 1 ++ p 0

@[simp] theorem advance_zero (p : Ptr) : p.advance 0 = p := by
  funext i
  rw [advance, Nat.zero_add]

theorem u32_congr {p q : Ptr} (h : ∀ i, i < 4 → p i = q i) : p.u32 = q.u32 := by
  rw [u32, u32, h 0 (by decide), h 1 (by decide), h 2 (by decide), h 3 (by decide)]

end Ptr

/-- Bytes, and behind them the rest of the memory. -/
def cat : List Byte → Ptr → Ptr
  | [], rest => rest
  | b :: bs, rest => fun i => i.casesOn b (cat bs rest)

theorem cat_append (as bs : List Byte) (rest : Ptr) :
    cat (as ++ bs) rest = cat as (cat bs rest) := by
  induction as with
  | nil => rfl
  | cons a as ih => rw [List.cons_append, cat, ih, cat]

theorem cat_advance (bs : List Byte) (rest : Ptr) : (cat bs rest).advance bs.length = rest := by
  induction bs with
  | nil => exact Ptr.advance_zero rest
  | cons b bs ih =>
      funext i
      have hi := congrFun ih i
      rw [Ptr.advance] at hi ⊢
      rw [List.length_cons, Nat.add_right_comm]
      exact hi

theorem cat_advance_append (as bs : List Byte) (rest : Ptr) :
    (cat (as ++ bs) rest).advance as.length = cat bs rest := by
  rw [cat_append, cat_advance]

theorem cat_apply {bs : List Byte} {i : Nat} (hi : i < bs.length) (rest : Ptr) :
    cat bs rest i = bs[i] := by
  induction bs generalizing i with
  | nil => cases hi
  | cons b bs ih =>
      cases i with
      | zero => rfl
      | succ i => exact ih (Nat.lt_of_succ_lt_succ hi)

/-- Sixteen bits in little-endian order. -/
def le16 (n : Nat) : List Byte :=
  [BitVec.ofNat 8 n, BitVec.ofNat 8 (n / 256)]

/-- Thirty-two bits in little-endian order. -/
def le32 (w : BitVec 32) : List Byte :=
  [w.extractLsb' 0 8, w.extractLsb' 8 8, w.extractLsb' 16 8, w.extractLsb' 24 8]

theorem u16_le16 {n : Nat} (hn : n < 2 ^ 16) (bs : List Byte) (rest : Ptr) :
    (cat (le16 n ++ bs) rest).u16 = n := by
  change (BitVec.ofNat 8 n).toNat + 256 * (BitVec.ofNat 8 (n / 256)).toNat = n
  rw [BitVec.toNat_ofNat, BitVec.toNat_ofNat]
  omega

theorem u32_le32 (w : BitVec 32) (bs : List Byte) (rest : Ptr) :
    (cat (le32 w ++ bs) rest).u32 = w := by
  change w.extractLsb' 24 8 ++ w.extractLsb' 16 8 ++ w.extractLsb' 8 8 ++ w.extractLsb' 0 8 = w
  ext i hi
  rw [← BitVec.getLsbD_eq_getElem (x := w) hi]
  simp only [BitVec.getElem_append, BitVec.getElem_extractLsb']
  split
  · exact congrArg w.getLsbD (Nat.zero_add i)
  · split
    · exact congrArg w.getLsbD (by omega)
    · split
      · exact congrArg w.getLsbD (by omega)
      · exact congrArg w.getLsbD (by omega)

/-- The number that the bytes hold. -/
def ofLe : List Byte → Nat
  | [] => 0
  | b :: bs => b.toNat + 256 * ofLe bs

/-- The `w` bytes of a number. -/
def toLe : Nat → Nat → List Byte
  | 0, _ => []
  | w + 1, n => BitVec.ofNat 8 n :: toLe w (n / 256)

@[simp] theorem length_toLe (w n : Nat) : (toLe w n).length = w := by
  induction w generalizing n with
  | zero => rfl
  | succ w ih => rw [toLe, List.length_cons, ih]

theorem ofLe_toLe {w n : Nat} (hn : n < 256 ^ w) : ofLe (toLe w n) = n := by
  induction w generalizing n with
  | zero =>
      rw [Nat.pow_zero, Nat.lt_one_iff] at hn
      rw [hn]
      rfl
  | succ w ih =>
      rw [Nat.pow_succ, Nat.mul_comm] at hn
      have hdiv : n / 256 < 256 ^ w := Nat.div_lt_of_lt_mul hn
      rw [toLe, ofLe, ih hdiv, BitVec.toNat_ofNat]
      exact Nat.mod_add_div n 256

namespace Ptr

/-- The memory after `bs` has been written at an offset. -/
def write (p : Ptr) (off : Nat) (bs : List Byte) : Ptr :=
  fun i => if i < off then p i else bs[i - off]?.getD (p i)

theorem write_lt {p : Ptr} {off i : Nat} {bs : List Byte} (hi : i < off) :
    p.write off bs i = p i :=
  if_pos hi

theorem write_ge {p : Ptr} {off i : Nat} {bs : List Byte} (hi : off ≤ i) :
    p.write off bs i = bs[i - off]?.getD (p i) :=
  if_neg (Nat.not_lt.mpr hi)

end Ptr

theorem cat_eq (bs : List Byte) (rest : Ptr) (i : Nat) :
    cat bs rest i = bs[i]?.getD (rest (i - bs.length)) := by
  induction bs generalizing i with
  | nil => rfl
  | cons b bs ih =>
      cases i with
      | zero => rfl
      | succ i =>
          rw [List.getElem?_cons_succ, List.length_cons, Nat.add_sub_add_right]
          exact ih i

theorem write_zero (p : Ptr) (bs : List Byte) :
    p.write 0 bs = cat bs (p.advance bs.length) := by
  funext i
  rw [Ptr.write_ge (Nat.zero_le i), cat_eq, Nat.sub_zero, Ptr.advance]
  rcases Nat.lt_or_ge i bs.length with hlt | hge
  · rw [List.getElem?_eq_getElem hlt]
    rfl
  · rw [List.getElem?_eq_none hge, Nat.add_sub_cancel' hge]

theorem write_write (p : Ptr) (as bs : List Byte) :
    (p.write 0 as).write as.length bs = p.write 0 (as ++ bs) := by
  funext i
  rcases Nat.lt_or_ge i as.length with hlt | hge
  · rw [Ptr.write_lt hlt, Ptr.write_ge (Nat.zero_le i), Ptr.write_ge (Nat.zero_le i),
      Nat.sub_zero, List.getElem?_append_left hlt]
  · rw [Ptr.write_ge hge, Ptr.write_ge (Nat.zero_le i), Ptr.write_ge (Nat.zero_le i),
      Nat.sub_zero, List.getElem?_append_right hge, List.getElem?_eq_none hge, Option.getD_none]

end LibraDevice.Bytes
