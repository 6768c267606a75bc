import Mathlib.Data.List.Chain
import Mathlib.Data.List.Nodup

/-!
A register of keys that announces every entry it makes and every entry it takes out.
-/

namespace LibraDevice

universe u

/-- The keys entered, and the announcements: `true` for an entry. -/
structure Register (κ : Type u) where
  held : List κ
  marks : List (κ × Bool)

namespace Register

variable {κ : Type u} [DecidableEq κ]

def enter (k : κ) (r : Register κ) : Register κ :=
  ⟨r.held ++ [k], r.marks ++ [(k, true)]⟩

/-- A key that is not entered is passed over in silence. -/
def leave (k : κ) (r : Register κ) : Register κ :=
  if k ∈ r.held then ⟨r.held.erase k, r.marks ++ [(k, false)]⟩ else r

def leaveAll (r : Register κ) : Register κ :=
  r.held.foldl (fun r k => r.leave k) r

/-- The announcements about one key. -/
def marksOf (r : Register κ) (k : κ) : List Bool :=
  (r.marks.filter fun m => m.1 = k).map Prod.snd

/-- Entries and removals take turns, from an entry on. -/
def Alternates (l : List Bool) : Prop :=
  l.IsChain (· ≠ ·) ∧ l.head? ≠ some false

theorem Alternates.append {l : List Bool} (h : Alternates l) {b : Bool}
    (hlast : l.getLast? = some true ↔ b = false) : Alternates (l ++ [b]) := by
  obtain ⟨hchain, hhead⟩ := h
  constructor
  · apply hchain.append (List.isChain_singleton b)
    intro x hx y hy
    obtain rfl := Option.some.inj hy
    rintro rfl
    cases x with
    | false => exact absurd (hlast.mpr rfl ▸ hx : some true = some false) (by simp)
    | true => exact absurd (hlast.mp hx) Bool.false_ne_true.symm
  · cases l with
    | nil =>
        rintro ⟨⟩
        exact absurd (hlast.mpr rfl) (by simp)
    | cons a l => exact hhead

/-- No key is entered twice, and the announcements tell which keys are. -/
structure Ok (r : Register κ) : Prop where
  nodup : r.held.Nodup
  alternates : ∀ k, Alternates (r.marksOf k)
  last : ∀ k, (r.marksOf k).getLast? = some true ↔ k ∈ r.held

theorem marksOf_append (r : Register κ) (held : List κ) (k k' : κ) (b : Bool) :
    (⟨held, r.marks ++ [(k', b)]⟩ : Register κ).marksOf k =
      if k' = k then r.marksOf k ++ [b] else r.marksOf k := by
  rw [marksOf, List.filter_append, List.map_append]
  split
  · rename_i heq
    simp [marksOf, heq]
  · rename_i hne
    simp [marksOf, hne]

theorem Ok.enter {r : Register κ} (h : r.Ok) {k : κ} (hk : k ∉ r.held) : (r.enter k).Ok := by
  refine ⟨?_, fun k' => ?_, fun k' => ?_⟩
  · rw [Register.enter, List.nodup_append]
    refine ⟨h.nodup, List.nodup_singleton k, ?_⟩
    rintro a ha b hb rfl
    exact hk (List.mem_singleton.mp hb ▸ ha)
  · rw [Register.enter, marksOf_append]
    split
    · rename_i heq
      apply (h.alternates k').append
      rw [h.last k', ← heq]
      exact iff_of_false hk Bool.false_ne_true.symm
    · exact h.alternates k'
  · rw [Register.enter, marksOf_append]
    split
    · rename_i heq
      simp [heq]
    · rename_i hne
      rw [h.last k']
      simp [Ne.symm hne]

theorem Ok.leave {r : Register κ} (h : r.Ok) (k : κ) : (r.leave k).Ok := by
  rw [Register.leave]
  split
  · rename_i hk
    refine ⟨h.nodup.erase k, fun k' => ?_, fun k' => ?_⟩
    · rw [marksOf_append]
      split
      · rename_i heq
        apply (h.alternates k').append
        rw [h.last k', ← heq]
        exact iff_of_true hk rfl
      · exact h.alternates k'
    · rw [marksOf_append]
      split
      · rename_i heq
        subst heq
        simp [h.nodup.not_mem_erase]
      · rename_i hne
        rw [h.last k', List.mem_erase_of_ne (Ne.symm hne)]
  · exact h

theorem leave_held (k : κ) (r : Register κ) : (r.leave k).held = r.held.erase k := by
  rw [leave]
  split
  · rfl
  · exact (List.erase_of_not_mem ‹_›).symm

theorem foldl_leave (l : List κ) :
    ∀ r : Register κ, r.held = l → r.Ok →
      (l.foldl (fun r k => r.leave k) r).held = [] ∧ (l.foldl (fun r k => r.leave k) r).Ok := by
  induction l with
  | nil =>
      intro r hheld h
      exact ⟨hheld, h⟩
  | cons k l ih =>
      intro r hheld h
      apply ih (r.leave k) _ (h.leave k)
      rw [leave_held, hheld, List.erase_cons_head]

theorem leaveAll_held {r : Register κ} (h : r.Ok) : r.leaveAll.held = [] :=
  (foldl_leave r.held r rfl h).1

theorem Ok.leaveAll {r : Register κ} (h : r.Ok) : r.leaveAll.Ok :=
  (foldl_leave r.held r rfl h).2

end Register

end LibraDevice
