import Mathlib.Data.List.Basic
import Mathlib.Logic.Function.Basic

/-!
A circular array: the elements in use begin at `start` and go around the end.
-/

namespace LibraDevice.Ring

universe u

variable {α : Type u}

/-- The slot `i` places behind `start`. -/
def slot (cap start : Int) (i : Nat) : Int :=
  if start + i < cap then start + i else start + i - cap

/-- The elements in use, in order. -/
def contents (data : Int → α) (cap start : Int) (size : Nat) : List α :=
  (List.range size).map fun i => data (slot cap start i)

variable {data : Int → α} {cap start : Int} {size : Nat}

@[simp] theorem length_contents : (contents data cap start size).length = size := by
  rw [contents, List.length_map, List.length_range]

theorem slot_nonneg {i : Nat} (h0 : 0 ≤ start) : 0 ≤ slot cap start i := by
  rw [slot]
  split <;> omega

theorem slot_lt {i : Nat} (hstart : start < cap) (hi : i ≤ cap) : slot cap start i < cap := by
  rw [slot]
  split <;> omega

theorem tmod_eq_slot {i : Nat} (h0 : 0 ≤ start) (hstart : start < cap) (hi : i ≤ cap) :
    (start + i).tmod cap = slot cap start i := by
  rw [Int.tmod_eq_emod_of_nonneg (by omega), slot]
  split
  · next hlt => exact Int.emod_eq_of_lt (by omega) hlt
  · rw [← Int.sub_emod_right, Int.emod_eq_of_lt (by omega) (by omega)]

theorem contents_congr {data' : Int → α} (h : ∀ i < size,
    data' (slot cap start i) = data (slot cap start i)) :
    contents data' cap start size = contents data cap start size := by
  apply List.map_congr_left
  intro i hi
  exact h i (List.mem_range.mp hi)

theorem contents_add (k : Nat) :
    contents data cap start (size + k) =
      contents data cap start size ++
        (List.range k).map fun j => data (slot cap start (size + j)) := by
  rw [contents, List.range_add, List.map_append, List.map_map]
  rfl

theorem contents_succ (hstart : start < cap) (hsize : size < cap) :
    contents data cap start (size + 1) =
      data start :: contents data cap (slot cap start 1) size := by
  rw [contents, List.range_succ_eq_map, List.map_cons, List.map_map]
  have hfirst : slot cap start 0 = start := by
    rw [slot, if_pos (by omega)]
    omega
  rw [hfirst]
  congr 1
  apply List.map_congr_left
  intro i hi
  rw [List.mem_range] at hi
  have hnext : slot cap start (i + 1) = slot cap (slot cap start 1) i := by
    simp only [slot]
    split <;> split <;> split <;> omega
  exact congrArg data hnext

end LibraDevice.Ring
