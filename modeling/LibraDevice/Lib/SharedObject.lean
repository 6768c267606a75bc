import Mathlib.Data.Finset.Card

/-!
An object that several parties hold, with a count of them. Each lets go once,
and the one that finds the count at one deletes the object.
-/

namespace LibraDevice.SharedObject

universe u

variable {π : Type u}

/-- `last` has let go as the last one and has not deleted the object yet. -/
@[ext]
structure Shared (π : Type u) where
  holders : Finset π
  last : Option π
  deleted : Nat

namespace Shared

def letGo [DecidableEq π] (o : Shared π) (p : π) : Shared π :=
  { o with
    holders := o.holders.erase p
    last := if o.holders.card = 1 then some p else o.last }

def delete (o : Shared π) : Shared π :=
  { o with last := none, deleted := o.deleted + 1 }

/-- The count is that of the holders, and the object is there as long as there is one. -/
structure Counted (o : Shared π) (count : Nat) : Prop where
  card : o.holders.card = count
  alive : o.holders ≠ ∅ → o.last = none ∧ o.deleted = 0
  gone : o.holders = ∅ → (o.last.isSome = true ∧ o.deleted = 0) ∨ (o.last = none ∧ o.deleted = 1)

variable {o : Shared π} {count : Nat} {p : π}

theorem Counted.deleted_of_mem (h : o.Counted count) (hp : p ∈ o.holders) : o.deleted = 0 :=
  (h.alive (Finset.ne_empty_of_mem hp)).2

theorem Counted.count_pos (h : o.Counted count) (hp : p ∈ o.holders) : 0 < count := by
  rw [← h.card]
  exact Finset.card_pos.mpr ⟨p, hp⟩

theorem Counted.deleted_of_last (h : o.Counted count) (hlast : o.last = some p) :
    o.deleted = 0 := by
  rcases Classical.em (o.holders = ∅) with hempty | hsome
  · rcases h.gone hempty with ⟨-, hzero⟩ | ⟨hnone, -⟩
    · exact hzero
    · rw [hlast] at hnone
      cases hnone
  · exact (h.alive hsome).2

theorem Counted.deleted_le (h : o.Counted count) : o.deleted ≤ 1 := by
  rcases Classical.em (o.holders = ∅) with hempty | hsome
  · rcases h.gone hempty with ⟨-, hzero⟩ | ⟨-, hone⟩
    · rw [hzero]
      exact Nat.zero_le 1
    · exact Nat.le_of_eq hone
  · rw [(h.alive hsome).2]
    exact Nat.zero_le 1

theorem Counted.letGo [DecidableEq π] (h : o.Counted count) (hp : p ∈ o.holders) :
    (o.letGo p).Counted (count - 1) := by
  have halive := h.alive (Finset.ne_empty_of_mem hp)
  have hcard : (o.holders.erase p).card = count - 1 := by
    rw [Finset.card_erase_of_mem hp, h.card]
  refine ⟨hcard, ?_, ?_⟩
  · intro hsome
    have hone : o.holders.card ≠ 1 := by
      intro hone
      apply hsome
      rw [← Finset.card_eq_zero]
      change (o.holders.erase p).card = 0
      rw [Finset.card_erase_of_mem hp, hone]
    refine ⟨?_, halive.2⟩
    change (if o.holders.card = 1 then some p else o.last) = none
    rw [if_neg hone]
    exact halive.1
  · intro hempty
    have hone : o.holders.card = 1 := by
      have hzero := Finset.card_eq_zero.mpr hempty
      have hpos := Finset.card_pos.mpr ⟨p, hp⟩
      change (o.holders.erase p).card = 0 at hzero
      rw [Finset.card_erase_of_mem hp] at hzero
      omega
    refine Or.inl ⟨?_, halive.2⟩
    change (if o.holders.card = 1 then some p else o.last).isSome = true
    rw [if_pos hone]
    rfl

theorem Counted.delete (h : o.Counted count) (hlast : o.last = some p) :
    o.delete.Counted count := by
  have hempty : o.holders = ∅ := by
    refine Classical.not_not.mp fun hsome => ?_
    rw [(h.alive hsome).1] at hlast
    cases hlast
  refine ⟨h.card, fun hsome => absurd hempty hsome, fun _ => Or.inr ⟨rfl, ?_⟩⟩
  change o.deleted + 1 = 1
  rw [h.deleted_of_last hlast]

end Shared

end LibraDevice.SharedObject
