import Mathlib.Data.List.Nodup
import Mathlib.Data.List.Perm.Basic

/-!
Pools of slots that keep the handles of resources, where a slot that is given
back keeps its handle until it is taken again.
-/

namespace LibraDevice.HandlePool

universe u

structure Slot (η : Type u) where
  hdl : η
  valid : Bool
deriving DecidableEq, Repr

variable {η : Type u}

/-- The first slot that is not in use. -/
def free? (l : List (Slot η)) : Option Nat := l.findIdx? fun x => !x.valid

/-- The first slot with the handle, in use or not. -/
def slotOf? [DecidableEq η] (h : η) (l : List (Slot η)) : Option Nat := l.findIdx? (·.hdl = h)

/-- The handles of the slots in use. -/
def held (l : List (Slot η)) : List η := (l.filter (·.valid)).map Slot.hdl

/-- No slot in use comes behind a free one with its handle. -/
def Unstale (l : List (Slot η)) : Prop :=
  l.Pairwise fun a b => a.valid = false → b.valid = true → a.hdl ≠ b.hdl

variable {l a b : List (Slot η)} {x y : Slot η} {h : η} {j : Nat}

theorem split_of_findIdx? {α : Type u} {l : List α} {p : α → Bool}
    (hj : l.findIdx? p = some j) :
    ∃ a x b, l = a ++ x :: b ∧ a.length = j ∧ (∀ y ∈ a, p y = false) ∧ p x = true := by
  obtain ⟨hlt, hp, hbefore⟩ := List.findIdx?_eq_some_iff_getElem.mp hj
  refine ⟨l.take j, l[j], l.drop (j + 1), ?_, ?_, ?_, hp⟩
  · rw [List.getElem_cons_drop, List.take_append_drop]
  · rw [List.length_take, Nat.min_eq_left (Nat.le_of_lt hlt)]
  · intro y hy
    obtain ⟨i, hi, rfl⟩ := List.mem_take_iff_getElem.mp hy
    rw [Nat.lt_min] at hi
    simpa using hbefore i hi.1

theorem split_of_getElem? {α : Type u} {l : List α} {x : α} (hx : l[j]? = some x) :
    ∃ a b, l = a ++ x :: b ∧ a.length = j := by
  obtain ⟨hlt, rfl⟩ := List.getElem?_eq_some_iff.mp hx
  refine ⟨l.take j, l.drop (j + 1), ?_, ?_⟩
  · rw [List.getElem_cons_drop, List.take_append_drop]
  · rw [List.length_take, Nat.min_eq_left (Nat.le_of_lt hlt)]

theorem set_middle {α : Type u} (a b : List α) (x y : α) :
    (a ++ x :: b).set a.length y = a ++ y :: b := by
  rw [List.set_append_right _ _ (Nat.le_refl _), Nat.sub_self, List.set_cons_zero]

theorem held_middle_valid (hx : x.valid = true) :
    (held (a ++ x :: b)).Perm (x.hdl :: held (a ++ b)) := by
  rw [held, held, List.filter_append, List.filter_cons_of_pos hx, List.filter_append,
    List.map_append, List.map_cons, List.map_append]
  exact List.perm_middle

theorem held_middle_free (hx : x.valid = false) : held (a ++ x :: b) = held (a ++ b) := by
  rw [held, held, List.filter_append, List.filter_cons_of_neg (by rw [hx]; decide),
    List.filter_append]

theorem mem_held : h ∈ held l ↔ (⟨h, true⟩ : Slot η) ∈ l := by
  constructor
  · intro hh
    obtain ⟨⟨h', v⟩, hx, rfl⟩ := List.mem_map.mp hh
    obtain ⟨hx, hv⟩ := List.mem_filter.mp hx
    change v = true at hv
    rw [hv] at hx
    exact hx
  · exact fun hx => List.mem_map.mpr ⟨_, List.mem_filter.mpr ⟨hx, rfl⟩, rfl⟩

theorem held_length_le : (held l).length ≤ l.length := by
  rw [held, List.length_map]
  exact List.length_filter_le _ _

theorem held_replicate (n : Nat) (h : η) : held (List.replicate n ⟨h, false⟩) = [] := by
  rw [held, List.filter_replicate_of_neg Bool.false_ne_true, List.map_nil]

theorem unstale_replicate (n : Nat) (h : η) : Unstale (List.replicate n ⟨h, false⟩) := by
  rw [Unstale, List.pairwise_replicate]
  exact Or.inr fun _ hvalid => by cases hvalid

theorem getElem?_middle {α : Type u} (a b : List α) (x : α) :
    (a ++ x :: b)[a.length]? = some x := by
  rw [List.getElem?_append_right (Nat.le_refl _), Nat.sub_self, List.getElem?_cons_zero]

theorem unstale_middle : Unstale (a ++ x :: b) ↔
    Unstale (a ++ b) ∧
      (∀ y ∈ a, y.valid = false → x.valid = true → y.hdl ≠ x.hdl) ∧
      (∀ y ∈ b, x.valid = false → y.valid = true → x.hdl ≠ y.hdl) := by
  rw [Unstale, Unstale, List.pairwise_append, List.pairwise_append, List.pairwise_cons]
  constructor
  · rintro ⟨ha, ⟨hx, hb⟩, hab⟩
    exact ⟨⟨ha, hb, fun y hy z hz => hab y hy z (List.mem_cons_of_mem _ hz)⟩,
      fun y hy => hab y hy x List.mem_cons_self, hx⟩
  · rintro ⟨⟨ha, hb, hab⟩, hax, hxb⟩
    refine ⟨ha, ⟨hxb, hb⟩, ?_⟩
    intro y hy z hz
    rcases List.mem_cons.mp hz with rfl | hz
    · exact hax y hy
    · exact hab y hy z hz

theorem held_set_free (hx : l[j]? = some x) (hfree : x.valid = false) (hy : y.valid = true) :
    (held (l.set j y)).Perm (y.hdl :: held l) := by
  obtain ⟨a, b, rfl, rfl⟩ := split_of_getElem? hx
  rw [set_middle, held_middle_free hfree]
  exact held_middle_valid hy

theorem valid_of_free? (hj : free? l = some j) (hx : l[j]? = some x) : x.valid = false := by
  obtain ⟨a, z, b, rfl, rfl, -, hz⟩ := split_of_findIdx? hj
  rw [getElem?_middle] at hx
  cases hx
  exact Bool.not_eq_true' _ ▸ hz

theorem Unstale.take (hl : Unstale l) (hj : free? l = some j) (h : η) :
    Unstale (l.set j ⟨h, true⟩) := by
  obtain ⟨a, z, b, rfl, rfl, ha, -⟩ := split_of_findIdx? hj
  rw [set_middle, unstale_middle]
  refine ⟨(unstale_middle.mp hl).1, ?_, ?_⟩
  · intro y hy hfree
    have hvalid := ha y hy
    rw [hfree] at hvalid
    cases hvalid
  · intro y _ hfree
    cases hfree

theorem held_set_used (hx : l[j]? = some x) (hused : x.valid = true) (hy : y.valid = false) :
    (held l).Perm (x.hdl :: held (l.set j y)) := by
  obtain ⟨a, b, rfl, rfl⟩ := split_of_getElem? hx
  rw [set_middle, held_middle_free hy]
  exact held_middle_valid hused

theorem map_hdl_set (hx : l[j]? = some x) (hy : y.hdl = x.hdl) :
    (l.set j y).map Slot.hdl = l.map Slot.hdl := by
  obtain ⟨a, b, rfl, rfl⟩ := split_of_getElem? hx
  rw [set_middle, List.map_append, List.map_cons, hy, List.map_append, List.map_cons]

theorem Unstale.slotOf? [DecidableEq η] (hl : Unstale l) (hh : h ∈ held l) :
    ∃ j, HandlePool.slotOf? h l = some j ∧ l[j]? = some ⟨h, true⟩ := by
  rw [mem_held] at hh
  cases hj : HandlePool.slotOf? h l with
  | none => exact absurd rfl (of_decide_eq_false (List.findIdx?_eq_none_iff.mp hj _ hh))
  | some j =>
      refine ⟨j, rfl, ?_⟩
      obtain ⟨a, ⟨h', v⟩, b, rfl, rfl, ha, hx⟩ := split_of_findIdx? hj
      have hx : h' = h := of_decide_eq_true hx
      subst hx
      rw [getElem?_middle]
      cases v with
      | true => rfl
      | false =>
          -- the slot in use would come behind this free one
          rcases List.mem_append.mp hh with hh | hh
          · exact absurd rfl (of_decide_eq_false (ha _ hh))
          · rcases List.mem_cons.mp hh with heq | hh
            · cases heq
            · exact ((unstale_middle.mp hl).2.2 ⟨h', true⟩ hh rfl rfl rfl).elim

theorem Unstale.release (hl : Unstale l) (hnodup : (held l).Nodup)
    (hx : l[j]? = some ⟨h, true⟩) : Unstale (l.set j ⟨h, false⟩) := by
  obtain ⟨a, b, rfl, rfl⟩ := split_of_getElem? hx
  rw [set_middle, unstale_middle]
  refine ⟨(unstale_middle.mp hl).1, fun _ _ _ hvalid => (by cases hvalid), ?_⟩
  rintro ⟨h', v⟩ hy - hvalid
  change v = true at hvalid
  subst hvalid
  rintro heq
  change h = h' at heq
  subst heq
  rw [(held_middle_valid rfl).nodup_iff, List.nodup_cons] at hnodup
  exact hnodup.1 (mem_held.mpr (List.mem_append_right _ hy))

end LibraDevice.HandlePool
