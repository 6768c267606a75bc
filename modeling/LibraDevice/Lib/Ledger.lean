import Mathlib.Data.List.Nodup
import Mathlib.Logic.Function.Basic

/-!
A ledger of live resources, each under its key, and the list of the resources
its users hold.
-/

namespace LibraDevice.Ledger

universe u v

variable {κ : Type u} {ν : Type v}

/-- What is held is live, what is live is held, and nothing is held twice. -/
structure Accounted (live : κ → Option ν) (held : List (κ × ν)) : Prop where
  live_iff : ∀ k v, live k = some v ↔ (k, v) ∈ held
  nodup : (held.map Prod.fst).Nodup

namespace Accounted

variable {live : κ → Option ν} {held before after : List (κ × ν)} {k : κ} {v : ν}

theorem nil_iff : Accounted live [] ↔ ∀ k, live k = none := by
  constructor
  · intro h k
    rw [Option.eq_none_iff_forall_ne_some]
    intro v hv
    cases (h.live_iff k v).mp hv
  · intro h
    constructor
    · intro k v
      simp [h k]
    · exact List.nodup_nil

theorem live_of_mem (h : Accounted live held) (hm : (k, v) ∈ held) : live k = some v :=
  (h.live_iff k v).mpr hm

theorem not_held_of_free (h : Accounted live held) (hk : live k = none) :
    k ∉ held.map Prod.fst := by
  intro hm
  rcases List.mem_map.mp hm with ⟨⟨k', v⟩, hv, rfl⟩
  rw [h.live_of_mem hv] at hk
  cases hk

variable [DecidableEq κ]

theorem acquire (h : Accounted live (before ++ after)) (hk : live k = none) :
    Accounted (Function.update live k (some v)) (before ++ (k, v) :: after) := by
  have hfree := h.not_held_of_free hk
  constructor
  · intro k' v'
    by_cases hk' : k' = k
    · subst hk'
      rw [Function.update_self]
      constructor
      · intro hv
        cases hv
        simp
      · intro hm
        have hne : (k', v') ∉ before ++ after := fun hb =>
          hfree (List.mem_map_of_mem (f := Prod.fst) hb)
        simp only [List.mem_append, List.mem_cons, Prod.mk.injEq, true_and] at hm hne ⊢
        rcases hm with hm | rfl | hm
        · exact absurd (Or.inl hm) hne
        · rfl
        · exact absurd (Or.inr hm) hne
    · rw [Function.update_of_ne hk', h.live_iff]
      simp [hk']
  · have hnodup := h.nodup
    simp only [List.map_append, List.map_cons] at hnodup hfree ⊢
    exact List.nodup_middle.mpr (List.nodup_cons.mpr ⟨hfree, hnodup⟩)

theorem release (h : Accounted live (before ++ (k, v) :: after)) :
    Accounted (Function.update live k none) (before ++ after) := by
  have hnodup : (k :: (before ++ after).map Prod.fst).Nodup := by
    have hall := h.nodup
    simp only [List.map_append, List.map_cons] at hall ⊢
    exact List.nodup_middle.mp hall
  constructor
  · intro k' v'
    by_cases hk' : k' = k
    · subst hk'
      rw [Function.update_self]
      constructor
      · intro hv
        cases hv
      · intro hm
        exact absurd (List.mem_map_of_mem (f := Prod.fst) hm) (List.nodup_cons.mp hnodup).1
    · rw [Function.update_of_ne hk', h.live_iff]
      simp [hk']
  · exact (List.nodup_cons.mp hnodup).2

theorem acquire_head (h : Accounted live held) (hk : live k = none) :
    Accounted (Function.update live k (some v)) ((k, v) :: held) :=
  @acquire κ ν live [] held k v _ h hk

theorem release_head (h : Accounted live ((k, v) :: held)) :
    Accounted (Function.update live k none) held :=
  @release κ ν live [] held k v _ h

end Accounted

section

variable {live : κ → Option ν} {held held' : List (κ × ν)}

theorem Accounted.perm (h : Accounted live held) (hp : held.Perm held') :
    Accounted live held' := by
  constructor
  · intro k v
    rw [h.live_iff, hp.mem_iff]
  · exact (hp.map Prod.fst).nodup_iff.mp h.nodup

end

/-- What a deletion leaves, the keys it was given that were not live, and its result. -/
structure Deletion (κ : Type u) (ν : Type v) where
  live : κ → Option ν
  dead : List κ
  ok : Bool

/-- The next deletion follows only where this one succeeded. -/
def Deletion.andThen (d : Deletion κ ν) (next : (κ → Option ν) → Deletion κ ν) :
    Deletion κ ν :=
  if d.ok then
    let d' := next d.live
    ⟨d'.live, d.dead ++ d'.dead, d'.ok⟩
  else d

variable [DecidableEq κ]

/-- The keys are deleted in order. The key `null` is passed over, any other one that is not
live ends the deletion. -/
def deleteAll (null : κ) : List κ → (κ → Option ν) → Deletion κ ν
  | [], live => ⟨live, [], true⟩
  | k :: ks, live =>
      if k = null then
        let d := deleteAll null ks live
        { d with dead := k :: d.dead }
      else
        match live k with
        | none => ⟨live, [k], false⟩
        | some _ => deleteAll null ks (Function.update live k none)

theorem Accounted.deleteAll {live : κ → Option ν} {null : κ} (hnull : live null = none)
    {gone kept : List (κ × ν)} (h : Accounted live (gone ++ kept)) :
    ∃ live', Ledger.deleteAll null (gone.map Prod.fst) live = ⟨live', [], true⟩ ∧
      live' null = none ∧ Accounted live' kept := by
  induction gone generalizing live with
  | nil => exact ⟨live, rfl, hnull, h⟩
  | cons kv gone ih =>
      rcases kv with ⟨k, v⟩
      have hk : live k = some v := h.live_of_mem List.mem_cons_self
      have hne : k ≠ null := by
        rintro rfl
        rw [hnull] at hk
        cases hk
      have hrest : Accounted (Function.update live k none) (gone ++ kept) :=
        h.release_head
      obtain ⟨live', hdel, hnull', hkept⟩ := ih (by
        rw [Function.update_of_ne hne.symm, hnull]) hrest
      refine ⟨live', ?_, hnull', hkept⟩
      rw [List.map_cons, Ledger.deleteAll, if_neg hne]
      simp only [hk]
      exact hdel

end LibraDevice.Ledger
