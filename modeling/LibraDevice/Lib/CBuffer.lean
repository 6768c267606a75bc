import Mathlib.Data.List.Basic

/-!
Byte arrays that hold texts ended by a zero, and what `strlcpy` and `snprintf` do to them.
-/

namespace LibraDevice.CBuffer

def nul : Char := Char.ofNat 0

/-- Writes from a place on; `none` when a byte outside of the buffer would be written. -/
def write (pos : Nat) (s buf : List Char) : Option (List Char) :=
  if pos + s.length ≤ buf.length then
    some (buf.take pos ++ s ++ buf.drop (pos + s.length))
  else none

/-- What `strlcpy` copies of a string, without the end. -/
def strlcpy {α : Type*} (src : List α) (size : Nat) : List α :=
  src.take (size - 1)

/-- `snprintf` of a finished text. A negative size becomes a huge `size_t`. -/
def snprintf (pos : Nat) (size : Int) (s buf : List Char) : Option (List Char) :=
  if size = 0 then some buf
  else write pos ((if size < 0 then s else s.take (size.toNat - 1)) ++ [nul]) buf

/-- The text from a place on; `none` when it has no end inside the buffer. -/
def textAt (pos : Nat) (buf : List Char) : Option (List Char) :=
  if pos + ((buf.drop pos).takeWhile (fun c => decide (c ≠ nul))).length < buf.length then
    some ((buf.drop pos).takeWhile (fun c => decide (c ≠ nul)))
  else none

theorem takeWhile_ne_nul {t : List Char} (ht : nul ∉ t) (rest : List Char) :
    (t ++ nul :: rest).takeWhile (fun c => decide (c ≠ nul)) = t := by
  induction t with
  | nil => simp
  | cons c t ih =>
      simp only [List.mem_cons, not_or] at ht
      have hc : c ≠ nul := fun h => ht.1 h.symm
      rw [List.cons_append, List.takeWhile_cons_of_pos (by simpa using hc), ih ht.2]

theorem textAt_append {t : List Char} (ht : nul ∉ t) (pre rest : List Char) :
    textAt pre.length (pre ++ (t ++ nul :: rest)) = some t := by
  rw [textAt, List.drop_left, takeWhile_ne_nul ht, if_pos]
  simp only [List.length_append, List.length_cons]
  omega

theorem snprintf_append {t buf : List Char} (s : List Char) (hbuf : buf.take t.length = t)
    (hlt : t.length < buf.length) :
    ∃ rest, snprintf t.length ((buf.length : Int) - t.length) s buf =
        some (t ++ s.take (buf.length - t.length - 1) ++ nul :: rest) ∧
      (t ++ s.take (buf.length - t.length - 1) ++ nul :: rest).length = buf.length := by
  have hsize : ((buf.length : Int) - t.length) ≠ 0 := by omega
  have hneg : ¬ ((buf.length : Int) - t.length) < 0 := by omega
  have htoNat : ((buf.length : Int) - t.length).toNat - 1 = buf.length - t.length - 1 := by omega
  have hlen : t.length + (s.take (buf.length - t.length - 1) ++ [nul]).length ≤ buf.length := by
    simp only [List.length_append, List.length_take, List.length_singleton]
    omega
  refine ⟨buf.drop (t.length + (s.take (buf.length - t.length - 1) ++ [nul]).length), ?_, ?_⟩
  · rw [snprintf, if_neg hsize, if_neg hneg, htoNat, write, if_pos hlen, hbuf]
    simp
  · simp only [List.length_append, List.length_take, List.length_cons, List.length_drop,
      List.length_nil] at hlen ⊢
    omega

theorem set_middle {α : Type*} (pre rest : List α) (a b : α) :
    (pre ++ a :: rest).set pre.length b = pre ++ b :: rest := by
  rw [List.set_append_right _ _ (Nat.le_refl _), Nat.sub_self, List.set_cons_zero]

theorem getD_middle {α : Type*} (pre rest : List α) (a b : α) :
    (pre ++ a :: rest).getD pre.length b = a := by
  rw [List.getD_eq_getElem?_getD, List.getElem?_append_right (Nat.le_refl _), Nat.sub_self,
    List.getElem?_cons_zero, Option.getD_some]

theorem getElem?_middle {α : Type*} (pre rest : List α) (a : α) :
    (pre ++ a :: rest)[pre.length]? = some a := by
  rw [List.getElem?_append_right (Nat.le_refl _), Nat.sub_self, List.getElem?_cons_zero]

theorem write_middle (pre rest : List Char) (a b : Char) :
    write pre.length [b] (pre ++ a :: rest) = some (pre ++ b :: rest) := by
  rw [write, if_pos, List.take_left]
  · have hdrop : (pre ++ a :: rest).drop (pre.length + [b].length) = rest := by
      rw [← List.drop_drop, List.drop_left]
      rfl
    rw [hdrop, List.append_assoc, List.singleton_append]
  · simp only [List.length_append, List.length_cons, List.length_nil]
    omega

end LibraDevice.CBuffer
