import Mathlib.Data.List.Basic
import Mathlib.Data.List.Nodup
import Mathlib.Logic.Function.Basic

/-!
An array of optional entries without holes: a list, and nothing behind it. An
entry is added at the end, and removed by moving the last one to its place.
-/

namespace LibraDevice.PackedArray

universe u

variable {α : Type u}

/-- The array of `size` places holds the list. -/
structure Holds (size : Nat) (array : Nat → Option α) (list : List α) : Prop where
  fits : list.length ≤ size
  get : ∀ i < size, array i = list[i]?

variable {size : Nat} {array : Nat → Option α} {list : List α}

theorem holds_nil : Holds size (fun _ => none) ([] : List α) where
  fits := Nat.zero_le size
  get := fun _ _ => rfl

theorem Holds.push (h : Holds size array list) (hroom : list.length < size) (x : α) :
    Holds size (Function.update array list.length (some x)) (list ++ [x]) where
  fits := by
    rw [List.length_append, List.length_singleton]
    exact hroom
  get := by
    intro i hi
    rcases Nat.lt_trichotomy i list.length with hlt | rfl | hgt
    · rw [Function.update_of_ne (Nat.ne_of_lt hlt), h.get i hi, List.getElem?_append_left hlt]
    · rw [Function.update_self, List.getElem?_append_right (Nat.le_refl _), Nat.sub_self]
      rfl
    · have hlen : (list ++ [x]).length ≤ i := by
        rw [List.length_append, List.length_singleton]
        exact hgt
      rw [Function.update_of_ne (Nat.ne_of_gt hgt), h.get i hi,
        List.getElem?_eq_none (Nat.le_of_lt hgt), List.getElem?_eq_none hlen]

/-- The list after the last entry has been moved to the place `j`. -/
def swapRemove (list : List α) (j : Nat) : List α :=
  match list.getLast? with
  | none => list
  | some last => (list.set j last).dropLast

theorem swapRemove_append (front : List α) (last : α) (j : Nat) :
    swapRemove (front ++ [last]) j =
      if j < front.length then front.set j last else front := by
  rw [swapRemove, List.getLast?_append, List.getLast?_singleton]
  change ((front ++ [last]).set j last).dropLast = _
  rcases Nat.lt_or_ge j front.length with hlt | hge
  · rw [List.set_append_left j last hlt, List.dropLast_concat, if_pos hlt]
  · rw [List.set_append_right j last hge, if_neg (by omega)]
    rcases j - front.length with _ | k
    · exact List.dropLast_concat
    · exact List.dropLast_concat

theorem Holds.swapRemove (h : Holds size array list) {j : Nat} (hj : j < list.length) :
    Holds size
      (Function.update (Function.update array j (array (list.length - 1))) (list.length - 1) none)
      (swapRemove list j) := by
  rcases List.eq_nil_or_concat list with rfl | ⟨front, last, rfl⟩
  · simp at hj
  · have hfits := h.fits
    have hlast : array front.length = some last := by
      rw [h.get front.length (by simp at hfits; omega)]
      simp
    simp only [List.concat_eq_append, List.length_append, List.length_singleton,
      Nat.add_sub_cancel] at hj hfits ⊢
    rw [swapRemove_append, hlast]
    constructor
    · split
      · rw [List.length_set]
        omega
      · omega
    · intro i hi
      have hfront : ∀ k < front.length, array k = front[k]? := by
        intro k hk
        rw [h.get k (by omega)]
        simp [List.getElem?_append_left hk]
      have hbehind : front.length < i → array i = none := by
        intro hlt
        rw [h.get i hi]
        apply List.getElem?_eq_none
        simp only [List.concat_eq_append, List.length_append, List.length_singleton]
        omega
      rcases Nat.lt_trichotomy i front.length with hlt | rfl | hgt
      · rw [Function.update_of_ne (Nat.ne_of_lt hlt)]
        split
        · rcases Nat.decEq i j with hne | heq
          · rw [Function.update_of_ne hne, hfront i hlt,
              List.getElem?_set_ne (Ne.symm hne)]
          · rw [heq, Function.update_self, List.getElem?_set_self (by omega)]
        · rw [Function.update_of_ne (by omega), hfront i hlt]
      · rw [Function.update_self]
        split
        · exact (List.getElem?_eq_none (Nat.le_of_eq List.length_set)).symm
        · exact (List.getElem?_eq_none (Nat.le_refl _)).symm
      · rw [Function.update_of_ne (Nat.ne_of_gt hgt)]
        split
        · rw [Function.update_of_ne (by omega), hbehind hgt]
          exact (List.getElem?_eq_none (by rw [List.length_set]; omega)).symm
        · rw [Function.update_of_ne (by omega), hbehind hgt]
          exact (List.getElem?_eq_none (by omega)).symm

theorem swapRemove_perm {j : Nat} (hj : j < list.length) :
    (swapRemove list j).Perm (list.eraseIdx j) := by
  rcases List.eq_nil_or_concat list with rfl | ⟨front, last, rfl⟩
  · simp at hj
  · simp only [List.concat_eq_append, List.length_append, List.length_singleton] at hj ⊢
    rw [swapRemove_append]
    split
    · rename_i hlt
      rw [List.eraseIdx_append_of_lt_length hlt, List.set_eq_take_append_cons_drop, if_pos hlt,
        List.eraseIdx_eq_take_drop_succ]
      exact List.perm_middle.trans (List.perm_append_singleton last _).symm
    · rename_i hge
      have heq : j = front.length := by omega
      rw [heq, List.eraseIdx_append_of_length_le (Nat.le_refl _), Nat.sub_self]
      simp

theorem swapRemove_spec {before after : List α} {x : α} (hnodup : (before ++ x :: after).Nodup) :
    (swapRemove (before ++ x :: after) before.length).Nodup ∧
      ∀ y, y ∈ swapRemove (before ++ x :: after) before.length ↔
        y ∈ before ++ x :: after ∧ y ≠ x := by
  have hperm : (swapRemove (before ++ x :: after) before.length).Perm _ :=
    swapRemove_perm (by simp)
  have herase : (before ++ x :: after).eraseIdx before.length = before ++ after := by
    rw [List.eraseIdx_append_of_length_le (Nat.le_refl _), Nat.sub_self, List.eraseIdx_cons_zero]
  rw [herase] at hperm
  have hmiddle := List.nodup_middle.mp hnodup
  have hcons := List.nodup_cons.mp hmiddle
  refine ⟨hperm.nodup_iff.mpr hcons.2, ?_⟩
  intro y
  rw [hperm.mem_iff]
  constructor
  · intro hmem
    refine ⟨?_, ?_⟩
    · rcases List.mem_append.mp hmem with hb | ha
      · exact List.mem_append.mpr (Or.inl hb)
      · exact List.mem_append.mpr (Or.inr (List.mem_cons_of_mem x ha))
    · rintro rfl
      exact hcons.1 hmem
  · rintro ⟨hmem, hne⟩
    rcases List.mem_append.mp hmem with hb | ha
    · exact List.mem_append.mpr (Or.inl hb)
    · rcases List.mem_cons.mp ha with rfl | ha
      · exact absurd rfl hne
      · exact List.mem_append.mpr (Or.inr ha)

end LibraDevice.PackedArray
