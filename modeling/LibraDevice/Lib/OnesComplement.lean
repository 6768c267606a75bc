import Mathlib.Algebra.BigOperators.Group.List.Basic
import Mathlib.Data.Int.ModEq

/-!
One's-complement arithmetic on words below a base: a carry out of a sum is added at its lower
end, so that sums are right modulo one less than the base.
-/

namespace LibraDevice.OnesComplement

variable {b : Nat}

/-- One's-complement addition of two words. -/
def add (b x y : Nat) : Nat :=
  if x + y < b then x + y else x + y - b + 1

/-- One's-complement sum of words, from the first to the last. -/
def sum (b : Nat) (words : List Nat) : Nat :=
  words.foldl (add b) 0

theorem add_lt {x y : Nat} (hx : x < b) (hy : y < b) : add b x y < b := by
  rw [add]
  split <;> omega

theorem add_modEq (x y : Nat) : (add b x y : Int) ≡ x + y [ZMOD (b : Int) - 1] := by
  rw [add]
  split
  · rw [Nat.cast_add]
  · rw [Int.modEq_iff_dvd]
    refine ⟨1, ?_⟩
    omega

theorem foldl_add {words : List Nat} (hwords : ∀ w ∈ words, w < b) {x : Nat} (hx : x < b) :
    words.foldl (add b) x < b ∧
      ((words.foldl (add b) x : Nat) : Int) ≡
        x + (words.map Nat.cast).sum [ZMOD (b : Int) - 1] := by
  induction words generalizing x with
  | nil =>
      refine ⟨hx, ?_⟩
      simp [Int.ModEq.refl]
  | cons w words ih =>
      rw [List.forall_mem_cons] at hwords
      obtain ⟨hlt, hmod⟩ := ih hwords.2 (add_lt hx hwords.1)
      refine ⟨hlt, hmod.trans ?_⟩
      have hadd := add_modEq (b := b) x w
      rw [List.map_cons, List.sum_cons, ← Int.add_assoc]
      exact hadd.add_right _

theorem sum_modEq (hb : 0 < b) {words : List Nat} (hwords : ∀ w ∈ words, w < b) :
    (sum b words : Int) ≡ (words.map Nat.cast).sum [ZMOD (b : Int) - 1] := by
  have h := (foldl_add hwords hb).2
  rw [Nat.cast_zero, Int.zero_add] at h
  exact h

theorem sum_replace (hb : 0 < b) {old new rest before after : List Nat} {delta : Nat}
    (hbefore : before.Perm (old ++ rest)) (hafter : after.Perm (new ++ rest))
    (hold : ∀ w ∈ before, w < b) (hnew : ∀ w ∈ after, w < b)
    (hdiff : (delta : Int) ≡ (new.map Nat.cast).sum - (old.map Nat.cast).sum
      [ZMOD (b : Int) - 1]) :
    (add b (sum b before) delta : Int) ≡ sum b after [ZMOD (b : Int) - 1] := by
  have hsum : ((before.map Nat.cast).sum : Int) =
      (old.map Nat.cast).sum + (rest.map Nat.cast).sum := by
    rw [(hbefore.map Nat.cast).sum_eq, List.map_append, List.sum_append]
  have hsum' : ((after.map Nat.cast).sum : Int) =
      (new.map Nat.cast).sum + (rest.map Nat.cast).sum := by
    rw [(hafter.map Nat.cast).sum_eq, List.map_append, List.sum_append]
  calc (add b (sum b before) delta : Int)
      ≡ sum b before + delta [ZMOD (b : Int) - 1] := add_modEq _ _
    _ ≡ (before.map Nat.cast).sum + ((new.map Nat.cast).sum - (old.map Nat.cast).sum)
          [ZMOD (b : Int) - 1] := (sum_modEq hb hold).add hdiff
    _ = (after.map Nat.cast).sum := by
        rw [hsum, hsum']
        omega
    _ ≡ sum b after [ZMOD (b : Int) - 1] := (sum_modEq hb hnew).symm

end LibraDevice.OnesComplement
