import Mathlib.Data.List.Basic
import Mathlib.Data.List.Count
import LibraDevice.Lib.ElementTree

/-!
Tables that a reader fills as it goes: some elements open the next entry of a table, others
write to the entry opened last. The entries are counted in a byte, and texts go through a
buffer on their way.
-/

namespace LibraDevice.CountedTables

open ElementTree

universe u v w

variable {τ : Type u} [DecidableEq τ] {α : Type v} {σ : Type w}

/-- What reading one element does: the bytes it copies, the smallest buffer that they go
through, the table it opens an entry of, and the table whose last entry it writes to. -/
structure Access (τ : Type u) where
  copied : Nat
  room : Nat
  opens : Option τ
  writes : Option τ

namespace Access

/-- The access is within bounds, after so many entries have been opened. -/
def Fits (size opened : τ → Nat) (a : Access τ) : Prop :=
  a.copied ≤ a.room ∧
    ∀ t, a.writes = some t → 1 ≤ opened t % 256 ∧ opened t % 256 ≤ size t

def count (n : τ → UInt8) (a : Access τ) : τ → UInt8 :=
  fun t => if a.opens = some t then n t + 1 else n t

end Access

/-- Each access is within bounds, after those before it. -/
def AllFit (size : τ → Nat) (l : List (Access τ)) : Prop :=
  ∀ before a after, l = before ++ a :: after →
    a.Fits size fun t => before.countP fun b => b.opens = some t

theorem toNat_foldl_count (l : List (Access τ)) (n : τ → UInt8) (t : τ) :
    (l.foldl Access.count n t).toNat =
      ((n t).toNat + l.countP fun a => a.opens = some t) % 256 := by
  induction l generalizing n with
  | nil =>
      have hlt : (n t).toNat < 256 := (n t).toNat_lt
      simp [Nat.mod_eq_of_lt hlt]
  | cons a l ih =>
      rw [List.foldl_cons, ih, List.countP_cons, Access.count]
      split
      next hopens =>
        have hone : (1 : UInt8).toNat = 1 := rfl
        rw [if_pos (decide_eq_true hopens), UInt8.toNat_add, hone]
        omega
      next hopens => rw [if_neg (by simpa using hopens), Nat.add_zero]

theorem foldlM_isSome_iff_allFit {size : τ → Nat} {access : α → Access τ}
    {step : σ → α → Option σ} {c : σ → τ → UInt8}
    (hfits : ∀ s a, (step s a).isSome = true ↔
      (access a).Fits size fun t => (c s t).toNat)
    (hcounts : ∀ s a s', step s a = some s' → c s' = (access a).count (c s))
    (l : List α) {s : σ} (hs : ∀ t, c s t = 0) :
    (l.foldlM step s).isSome = true ↔ AllFit size (l.map access) := by
  have hfold : ∀ (before : List α) (t : τ),
      (before.foldl (fun n a => (access a).count n) (c s) t).toNat =
        ((before.map access).countP fun a => a.opens = some t) % 256 := by
    intro before t
    have hcount := toNat_foldl_count (before.map access) (c s) t
    rw [List.foldl_map] at hcount
    rw [hcount, hs t]
    change (0 + _) % 256 = _
    rw [Nat.zero_add]
  have hsame : ∀ (before : List α) (a : α),
      ((access a).Fits size fun t =>
        (before.foldl (fun n a => (access a).count n) (c s) t).toNat) ↔
      (access a).Fits size fun t =>
        (before.map access).countP fun b => b.opens = some t := by
    intro before a
    simp only [Access.Fits, hfold, Nat.mod_mod]
  have hsome : (l.foldlM step s).isSome = true ↔
      AllOk (fun n a => (access a).Fits size fun t => (n t).toNat)
        (fun n a => (access a).count n) (c s) l := foldlM_isSome_iff hfits hcounts l s
  rw [hsome]
  constructor
  · intro h before a after hl
    obtain ⟨before, rest, rfl, rfl, hrest⟩ := List.map_eq_append_iff.mp hl
    obtain ⟨a, after, rfl, rfl, rfl⟩ := List.map_eq_cons_iff.mp hrest
    exact (hsame before a).mp (h before a after rfl)
  · intro h before a after hl
    refine (hsame before a).mpr (h (before.map access) (access a) (after.map access) ?_)
    rw [hl, List.map_append, List.map_cons]

end LibraDevice.CountedTables
