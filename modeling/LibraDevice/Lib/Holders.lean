import Mathlib.Data.List.Nodup
import Mathlib.Logic.Function.Basic

/-!
A table of users, each under its own key and with the handles it holds, and
what is live under each handle.
-/

namespace LibraDevice.Holders

universe u v w

variable {ε : Type u} {κ : Type v} {η : Type w}

/-- Under a handle that a user holds the user's key is live, and nothing else
is. -/
structure Reflects (key : ε → κ) (held : ε → List η) (live : η → Option κ) (table : List ε) :
    Prop where
  distinct : (table.map key).Nodup
  live_iff : ∀ h k, live h = some k ↔ ∃ e ∈ table, key e = k ∧ h ∈ held e

variable {key : ε → κ} {held : ε → List η} {live : η → Option κ} {table before after : List ε}
  {e e' : ε}

theorem reflects_nil : Reflects key held (fun _ => none) [] where
  distinct := List.nodup_nil
  live_iff := by simp

theorem mem_middle_iff {x : ε} : x ∈ before ++ e :: after ↔ x = e ∨ x ∈ before ++ after := by
  rw [List.mem_append, List.mem_cons, List.mem_append]
  constructor
  · rintro (hb | heq | ha)
    · exact Or.inr (Or.inl hb)
    · exact Or.inl heq
    · exact Or.inr (Or.inr ha)
  · rintro (heq | hb | ha)
    · exact Or.inr (Or.inl heq)
    · exact Or.inl hb
    · exact Or.inr (Or.inr ha)

namespace Reflects

theorem live_of_mem (h : Reflects key held live table) (he : e ∈ table) {x : η}
    (hx : x ∈ held e) : live x = some (key e) :=
  (h.live_iff x (key e)).mpr ⟨e, he, rfl, hx⟩

theorem key_ne (h : Reflects key held live (before ++ e :: after)) (he : e' ∈ before ++ after) :
    key e' ≠ key e := by
  have hnodup := h.distinct
  rw [List.map_append, List.map_cons] at hnodup
  have hfresh := (List.nodup_cons.mp (List.nodup_middle.mp hnodup)).1
  intro heq
  apply hfresh
  rw [← heq, ← List.map_append]
  exact List.mem_map_of_mem he

variable [DecidableEq η]

theorem push (h : Reflects key held live table) (hnew : key e ∉ table.map key)
    (hfree : ∀ x ∈ held e, live x = none) :
    Reflects key held (fun x => if x ∈ held e then some (key e) else live x) (table ++ [e]) where
  distinct := by
    rw [List.map_append, List.map_singleton, List.nodup_append]
    refine ⟨h.distinct, List.nodup_singleton _, ?_⟩
    intro a ha b hb heq
    rw [List.mem_singleton] at hb
    exact hnew (hb ▸ heq ▸ ha)
  live_iff := by
    intro x k
    simp only [List.mem_append, List.mem_singleton]
    split
    · rename_i hx
      constructor
      · intro hk
        exact ⟨e, Or.inr rfl, Option.some.inj hk, hx⟩
      · rintro ⟨e', he' | rfl, hk, hx'⟩
        · have hlive := h.live_of_mem he' hx'
          rw [hfree x hx] at hlive
          exact absurd hlive (by simp)
        · rw [hk]
    · rename_i hx
      rw [h.live_iff]
      constructor
      · rintro ⟨e', he', hrest⟩
        exact ⟨e', Or.inl he', hrest⟩
      · rintro ⟨e', he' | rfl, hrest⟩
        · exact ⟨e', he', hrest⟩
        · exact absurd hrest.2 hx

theorem erase (h : Reflects key held live (before ++ e :: after)) :
    Reflects key held (fun x => if x ∈ held e then none else live x) (before ++ after) where
  distinct := by
    have hnodup := h.distinct
    rw [List.map_append, List.map_cons] at hnodup
    rw [List.map_append]
    exact (List.nodup_cons.mp (List.nodup_middle.mp hnodup)).2
  live_iff := by
    intro x k
    split
    · rename_i hx
      constructor
      · intro hk
        exact absurd hk (by simp)
      · rintro ⟨e', he', -, hx'⟩
        have hother := h.live_of_mem (mem_middle_iff.mpr (Or.inr he')) hx'
        rw [h.live_of_mem (mem_middle_iff.mpr (Or.inl rfl)) hx] at hother
        exact absurd (Option.some.inj hother).symm (h.key_ne he')
    · rename_i hx
      rw [h.live_iff]
      constructor
      · rintro ⟨e', he', hk, hx'⟩
        rcases mem_middle_iff.mp he' with rfl | hrest
        · exact absurd hx' hx
        · exact ⟨e', hrest, hk, hx'⟩
      · rintro ⟨e', he', hrest⟩
        exact ⟨e', mem_middle_iff.mpr (Or.inr he'), hrest⟩

theorem replace (h : Reflects key held live (before ++ e :: after)) (hkey : key e' = key e)
    {live' : η → Option κ}
    (hlive : ∀ x, live' x = if x ∈ held e' then some (key e)
      else if x ∈ held e then none else live x)
    (hfree : ∀ x ∈ held e', x ∈ held e ∨ live x = none) :
    Reflects key held live' (before ++ e' :: after) where
  distinct := by
    have hnodup := h.distinct
    rw [List.map_append, List.map_cons] at hnodup ⊢
    rw [hkey]
    exact hnodup
  live_iff := by
    intro x k
    rw [hlive]
    split
    · rename_i hx
      constructor
      · intro hk
        refine ⟨e', mem_middle_iff.mpr (Or.inl rfl), ?_, hx⟩
        rw [hkey]
        exact Option.some.inj hk
      · rintro ⟨e'', he'', hk, hx''⟩
        rcases mem_middle_iff.mp he'' with rfl | hrest
        · rw [← hk, hkey]
        · have hother := h.live_of_mem (mem_middle_iff.mpr (Or.inr hrest)) hx''
          rcases hfree x hx with hold | hnone
          · rw [h.live_of_mem (mem_middle_iff.mpr (Or.inl rfl)) hold] at hother
            exact absurd (Option.some.inj hother).symm (h.key_ne hrest)
          · rw [hnone] at hother
            exact absurd hother (by simp)
    · rename_i hx
      refine (h.erase.live_iff x k).trans ?_
      constructor
      · rintro ⟨e'', he'', hrest⟩
        exact ⟨e'', mem_middle_iff.mpr (Or.inr he''), hrest⟩
      · rintro ⟨e'', he'', hk, hx''⟩
        rcases mem_middle_iff.mp he'' with rfl | hrest
        · exact absurd hx'' hx
        · exact ⟨e'', hrest, hk, hx''⟩

theorem assign_nil (v : Option κ) : (fun x => if x ∈ ([] : List η) then v else live x) = live := by
  funext x
  rw [if_neg List.not_mem_nil]

theorem assign_singleton (y : η) (v : Option κ) :
    (fun x => if x ∈ [y] then v else live x) = Function.update live y v := by
  funext x
  rw [Function.update_apply]
  simp only [List.mem_singleton]

theorem push_none (h : Reflects key held live table) (hnew : key e ∉ table.map key)
    (hheld : held e = []) : Reflects key held live (table ++ [e]) := by
  have hpush := h.push hnew (by simp [hheld])
  rw [hheld, assign_nil] at hpush
  exact hpush

theorem push_one (h : Reflects key held live table) (hnew : key e ∉ table.map key) {y : η}
    (hheld : held e = [y]) (hfree : live y = none) :
    Reflects key held (Function.update live y (some (key e))) (table ++ [e]) := by
  have hpush := h.push hnew (by simp [hheld, hfree])
  rw [hheld, assign_singleton] at hpush
  exact hpush

theorem rewrite (h : Reflects key held live (before ++ e :: after)) (hkey : key e' = key e)
    (hheld : held e' = held e) : Reflects key held live (before ++ e' :: after) := by
  apply h.replace hkey
  · intro x
    rw [hheld]
    split
    · rename_i hx
      exact h.live_of_mem (mem_middle_iff.mpr (Or.inl rfl)) hx
    · rfl
  · intro x hx
    rw [hheld] at hx
    exact Or.inl hx

theorem gain (h : Reflects key held live (before ++ e :: after)) (hkey : key e' = key e)
    (hnone : held e = []) {y : η} (hheld : held e' = [y]) (hfree : live y = none) :
    Reflects key held (Function.update live y (some (key e))) (before ++ e' :: after) := by
  apply h.replace hkey
  · intro x
    rw [hheld, hnone, ← assign_singleton]
    simp only [List.not_mem_nil, if_false]
  · intro x hx
    rw [hheld, List.mem_singleton] at hx
    rw [hx]
    exact Or.inr hfree

end Reflects

end LibraDevice.Holders
