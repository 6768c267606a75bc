import Mathlib.Data.List.Basic
import Mathlib.Logic.Function.Basic

/-!
An array with a counter: the rows up to the counter are in use, and a row is
removed by moving those behind it down.
-/

namespace LibraDevice.Rows

universe u v

variable {α : Type u} {β : Type v}

/-- The rows in use. -/
def rows (table : Nat → α) (n : Nat) : List α := (List.range n).map table

variable {table : Nat → α} {n i : Nat}

@[simp] theorem length_rows : (rows table n).length = n := by
  simp [rows]

theorem mem_rows {a : α} : a ∈ rows table n ↔ ∃ i < n, table i = a := by
  simp [rows]

/-- The rows in use but the row `i`. -/
def others (table : Nat → α) (n i : Nat) : List α :=
  rows table i ++ (List.range' (i + 1) (n - (i + 1))).map table

theorem rows_update_of_le (hi : n ≤ i) (a : α) :
    rows (Function.update table i a) n = rows table n := by
  apply List.map_congr_left
  intro j hj
  rw [List.mem_range] at hj
  rw [Function.update_of_ne (by omega)]

theorem rows_split (hi : i < n) :
    rows table n = rows table i ++ table i :: (List.range' (i + 1) (n - (i + 1))).map table := by
  have hrange : List.range n = List.range i ++ i :: List.range' (i + 1) (n - (i + 1)) := by
    have hn : n = i + (1 + (n - (i + 1))) := by omega
    rw [List.range_eq_range', List.range_eq_range', hn, ← List.range'_append_1,
      ← List.range'_append_1, Nat.zero_add]
    have hrest : i + (1 + (n - (i + 1))) - (i + 1) = n - (i + 1) := by omega
    rw [hrest]
    rfl
  rw [rows, hrange, List.map_append, List.map_cons]
  rfl

theorem rows_perm (hi : i < n) : (rows table n).Perm (table i :: others table n i) := by
  rw [rows_split hi]
  exact List.perm_middle

@[simp] theorem others_update (a : α) :
    others (Function.update table i a) n i = others table n i := by
  rw [others, rows_update_of_le (Nat.le_refl i), others]
  congr 1
  apply List.map_congr_left
  intro j hj
  rw [List.mem_range'_1] at hj
  rw [Function.update_of_ne (by omega)]

theorem rows_update (hi : i < n) (a : α) :
    (rows (Function.update table i a) n).Perm (a :: others table n i) := by
  have hperm : (rows (Function.update table i a) n).Perm _ := rows_perm hi
  rwa [Function.update_self, others_update] at hperm

theorem rows_succ (table : Nat → α) (n : Nat) : rows table (n + 1) = rows table n ++ [table n] := by
  rw [rows, List.range_succ, List.map_append]
  rfl

theorem rows_append (a : α) :
    rows (Function.update table n a) (n + 1) = rows table n ++ [a] := by
  rw [rows_succ, rows_update_of_le (Nat.le_refl n), Function.update_self]

theorem rows_eraseIdx {table' : Nat → α} (hi : i < n) (hlt : ∀ j < i, table' j = table j)
    (hge : ∀ j, i ≤ j → j + 1 < n → table' j = table (j + 1)) :
    rows table' (n - 1) = (rows table n).eraseIdx i := by
  apply List.ext_getElem
  · rw [length_rows, List.length_eraseIdx, length_rows, if_pos hi]
  · intro j hj _
    rw [length_rows] at hj
    rw [List.getElem_eraseIdx]
    split
    · next hji => simpa [rows] using hlt j hji
    · next hji => simpa [rows] using hge j (Nat.le_of_not_lt hji) (by omega)

/-- Each of `k` rows from `i` on takes over what `move` takes over from the next one. -/
def moveDown (move : α → α → α) (table : Nat → α) : Nat → Nat → Nat → α
  | _, 0 => table
  | i, k + 1 =>
      moveDown move (Function.update table i (move (table i) (table (i + 1)))) (i + 1) k

variable {move : α → α → α}

theorem moveDown_of_lt {j : Nat} (k : Nat) (hj : j < i) : moveDown move table i k j = table j := by
  induction k generalizing table i with
  | zero => rfl
  | succ k ih => rw [moveDown, ih (by omega), Function.update_of_ne (by omega)]

theorem moveDown_of_le {j : Nat} (k : Nat) (hj : i + k ≤ j) :
    moveDown move table i k j = table j := by
  induction k generalizing table i with
  | zero => rfl
  | succ k ih => rw [moveDown, ih (by omega), Function.update_of_ne (by omega)]

theorem moveDown_apply {j : Nat} (k : Nat) (hij : i ≤ j) (hjk : j < i + k) :
    moveDown move table i k j = move (table j) (table (j + 1)) := by
  induction k generalizing table i with
  | zero => omega
  | succ k ih =>
      rw [moveDown]
      rcases Nat.eq_or_lt_of_le hij with rfl | hlt
      · rw [moveDown_of_lt k (Nat.lt_succ_self i), Function.update_self]
      · rw [ih hlt (by omega), Function.update_of_ne (by omega), Function.update_of_ne (by omega)]

theorem map_rows_moveDown {view : α → β} (hi : i < n)
    (hview : ∀ j, i ≤ j → j + 1 < n →
      view (move (table j) (table (j + 1))) = view (table (j + 1))) :
    (rows (moveDown move table i (n - 1 - i)) (n - 1)).map view = (others table n i).map view := by
  have hsplit : List.range (n - 1) = List.range i ++ List.range' i (n - 1 - i) := by
    have hn : n - 1 = i + (n - 1 - i) := by omega
    rw [List.range_eq_range', List.range_eq_range', hn, ← List.range'_append_1, Nat.zero_add]
    congr 2
    omega
  have hnext : List.range' (i + 1) (n - (i + 1)) = (List.range' i (n - 1 - i)).map (· + 1) := by
    have hcount : n - (i + 1) = n - 1 - i := by omega
    rw [hcount, List.range'_succ_left]
  rw [rows, others, rows, hsplit, hnext, List.map_append, List.map_append, List.map_append]
  congr 1
  · rw [List.map_map, List.map_map]
    apply List.map_congr_left
    intro j hj
    exact congrArg view (moveDown_of_lt _ (List.mem_range.mp hj))
  · rw [List.map_map, List.map_map, List.map_map]
    apply List.map_congr_left
    intro j hj
    rw [List.mem_range'_1] at hj
    change view (moveDown move table i (n - 1 - i) j) = view (table (j + 1))
    rw [moveDown_apply _ hj.1 (by omega)]
    exact hview j hj.1 (by omega)

end LibraDevice.Rows
