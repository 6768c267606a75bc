import Mathlib.Data.List.Induction
import Mathlib.Logic.Function.Basic

/-!
A store that lists of assignments are carried out on, the later ones over the
earlier ones. A place that is not open keeps its value.
-/

namespace LibraDevice.Assignments

universe u v

variable {κ : Type u} {ν : Type v} [DecidableEq κ]

def assign (isOpen : κ → Bool) (store : κ → ν) (a : κ × ν) : κ → ν :=
  if isOpen a.1 then Function.update store a.1 a.2 else store

def assignAll (isOpen : κ → Bool) (as : List (κ × ν)) (store : κ → ν) : κ → ν :=
  as.foldl (assign isOpen) store

/-- What the list assigns to the place, in the end. -/
def lastValue (k : κ) (as : List (κ × ν)) : Option ν :=
  (as.reverse.find? fun a => a.1 = k).map Prod.snd

/-- The store holds what the assignments leave behind. -/
def InForce (isOpen : κ → Bool) (as : List (κ × ν)) (store : κ → ν) : Prop :=
  ∀ k v, lastValue k as = some v → isOpen k = true → store k = v

theorem assignAll_append (isOpen : κ → Bool) (as bs : List (κ × ν)) (store : κ → ν) :
    assignAll isOpen (as ++ bs) store = assignAll isOpen bs (assignAll isOpen as store) :=
  List.foldl_append

theorem lastValue_append_singleton (k : κ) (as : List (κ × ν)) (a : κ × ν) :
    lastValue k (as ++ [a]) = if a.1 = k then some a.2 else lastValue k as := by
  rw [lastValue, List.reverse_append, List.reverse_singleton, List.singleton_append,
    List.find?_cons]
  by_cases h : a.1 = k
  · simp [h]
  · simp [h, lastValue]

theorem lastValue_eq_none {k : κ} {as : List (κ × ν)} (h : ∀ a ∈ as, a.1 ≠ k) :
    lastValue k as = none := by
  rw [lastValue, Option.map_eq_none_iff, List.find?_eq_none]
  intro a ha heq
  exact h a (List.mem_reverse.mp ha) (of_decide_eq_true heq)

theorem lastValue_mem {k : κ} {as : List (κ × ν)} {v : ν} (h : lastValue k as = some v) :
    (k, v) ∈ as := by
  rw [lastValue, Option.map_eq_some_iff] at h
  obtain ⟨a, hfind, rfl⟩ := h
  have hk : a.1 = k := by simpa using List.find?_some hfind
  rw [← hk]
  exact List.mem_reverse.mp (List.mem_of_find?_eq_some hfind)

theorem assignAll_apply (isOpen : κ → Bool) (as : List (κ × ν)) (store : κ → ν) (k : κ) :
    assignAll isOpen as store k =
      if isOpen k then (lastValue k as).getD (store k) else store k := by
  induction as using List.reverseRecOn with
  | nil => simp [assignAll, lastValue]
  | append_singleton as a ih =>
      rw [assignAll_append, lastValue_append_singleton]
      change assign isOpen (assignAll isOpen as store) a k = _
      by_cases hk : a.1 = k
      · subst hk
        cases hopen : isOpen a.1 with
        | false => simpa [assign, hopen] using ih
        | true => simp [assign, hopen]
      · rw [if_neg hk, ← ih, assign]
        split
        · rw [Function.update_of_ne (Ne.symm hk)]
        · rfl

theorem inForce_assignAll (isOpen : κ → Bool) (as : List (κ × ν)) (store : κ → ν) :
    InForce isOpen as (assignAll isOpen as store) := by
  intro k v hv hopen
  rw [assignAll_apply, if_pos hopen, hv]
  rfl

theorem assignAll_of_forall_ne (isOpen : κ → Bool) {as : List (κ × ν)} (store : κ → ν) {k : κ}
    (h : ∀ a ∈ as, a.1 ≠ k) : assignAll isOpen as store k = store k := by
  rw [assignAll_apply, lastValue_eq_none h, Option.getD_none, ite_self]

theorem InForce.frame {isOpen : κ → Bool} {as bs : List (κ × ν)} {store : κ → ν}
    (h : InForce isOpen as store) (hdisjoint : ∀ a ∈ as, ∀ b ∈ bs, b.1 ≠ a.1) :
    InForce isOpen as (assignAll isOpen bs store) := by
  intro k v hv hopen
  rw [assignAll_of_forall_ne isOpen store (hdisjoint _ (lastValue_mem hv))]
  exact h k v hv hopen

theorem assignAll_forall {isOpen : κ → Bool} {P : κ → ν → Prop} {as : List (κ × ν)}
    {store : κ → ν} (hstore : ∀ k, P k (store k)) (has : ∀ a ∈ as, P a.1 a.2) (k : κ) :
    P k (assignAll isOpen as store k) := by
  rw [assignAll_apply]
  split
  · cases hv : lastValue k as with
    | none => exact hstore k
    | some v => exact has _ (lastValue_mem hv)
  · exact hstore k

end LibraDevice.Assignments
