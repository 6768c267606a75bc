import Mathlib.Data.Finset.Card
import Mathlib.Data.Finset.Prod

/-!
Symmetric multiplicities on an ordered type, and the number of pairs they join.
-/

namespace LibraDevice.PairGraph

universe u

variable {V : Type u} [LinearOrder V]

/-- The joined pairs within `S`, the smaller end first. -/
def pairs (S : Finset V) (adj : V → V → Nat) : Finset (V × V) :=
  (S ×ˢ S).filter fun x => x.1 < x.2 ∧ adj x.1 x.2 ≠ 0

/-- Nothing is joined to itself or more than once, and all of it is within `S`. -/
structure Simple (S : Finset V) (adj : V → V → Nat) : Prop where
  symm : ∀ x y, adj x y = adj y x
  irrefl : ∀ x, adj x x = 0
  le_one : ∀ x y, adj x y ≤ 1
  support : ∀ x y, adj x y ≠ 0 → x ∈ S

/-- Whether `x` and `y` are the two ends, in either order. -/
def Ends (p q x y : V) : Prop := x = p ∧ y = q ∨ x = q ∧ y = p

instance (p q x y : V) : Decidable (Ends p q x y) := inferInstanceAs (Decidable (_ ∨ _))

variable {S : Finset V} {adj adj' : V → V → Nat} {p q : V}

theorem Simple.mem_pairs (h : Simple S adj) {x : V × V} :
    x ∈ pairs S adj ↔ x.1 < x.2 ∧ adj x.1 x.2 ≠ 0 := by
  rw [pairs, Finset.mem_filter, Finset.mem_product, and_iff_right_iff_imp]
  rintro ⟨-, hadj⟩
  refine ⟨h.support _ _ hadj, h.support x.2 x.1 ?_⟩
  rw [h.symm]
  exact hadj

theorem Simple.pairs_congr {T : Finset V} (h : Simple S adj) (h' : Simple T adj')
    (heq : adj' = adj) :
    pairs T adj' = pairs S adj := by
  ext x
  rw [h.mem_pairs, h'.mem_pairs, heq]

/-- The pair of two ends. -/
def pair (p q : V) : V × V := (min p q, max p q)

theorem ends_iff_pair {x : V × V} (hx : x.1 < x.2) (hne : p ≠ q) :
    Ends p q x.1 x.2 ↔ x = pair p q := by
  obtain ⟨x, y⟩ := x
  change x < y at hx
  rw [pair, Prod.mk.injEq]
  rcases lt_or_gt_of_ne hne with hlt | hlt
  · rw [min_eq_left hlt.le, max_eq_right hlt.le]
    constructor
    · rintro (h | ⟨rfl, rfl⟩)
      · exact h
      · exact absurd hlt (not_lt_of_gt hx)
    · exact Or.inl
  · rw [min_eq_right hlt.le, max_eq_left hlt.le]
    constructor
    · rintro (⟨rfl, rfl⟩ | h)
      · exact absurd hlt (not_lt_of_gt hx)
      · exact h
    · exact Or.inr

theorem adj_pair (h : Simple S adj) : adj (pair p q).1 (pair p q).2 = adj p q := by
  rw [pair]
  rcases le_total p q with hle | hle
  · rw [min_eq_left hle, max_eq_right hle]
  · rw [min_eq_right hle, max_eq_left hle, h.symm]

theorem pair_lt (hne : p ≠ q) : (pair p q).1 < (pair p q).2 := by
  rw [pair]
  exact min_lt_max.mpr hne

section join

variable (hne : p ≠ q) (h : Simple S adj)
  (hadj : ∀ x y, adj' x y = adj x y + if Ends p q x y then 1 else 0)

include hne h hadj

theorem Simple.join (hp : p ∈ S) (hq : q ∈ S) (hzero : adj p q = 0) : Simple S adj' := by
  have hends : ∀ {x y}, Ends p q x y → adj x y = 0 := by
    rintro x y (⟨rfl, rfl⟩ | ⟨rfl, rfl⟩)
    · exact hzero
    · rw [h.symm, hzero]
  refine ⟨?_, ?_, ?_, ?_⟩
  · intro x y
    rw [hadj, hadj, h.symm x y]
    simp only [Ends, or_comm, and_comm]
  · intro x
    rw [hadj, h.irrefl, if_neg]
    rintro (⟨rfl, heq⟩ | ⟨rfl, heq⟩)
    · exact hne heq
    · exact hne heq.symm
  · intro x y
    rw [hadj]
    split
    case isTrue hxy => rw [hends hxy]
    case isFalse => exact h.le_one x y
  · intro x y hxy
    rw [hadj] at hxy
    split at hxy
    case isTrue hends =>
      rcases hends with ⟨rfl, rfl⟩ | ⟨rfl, rfl⟩
      · exact hp
      · exact hq
    case isFalse => exact h.support x y hxy

theorem Simple.card_join (hp : p ∈ S) (hq : q ∈ S) (hzero : adj p q = 0) :
    (pairs S adj').card = (pairs S adj).card + 1 := by
  have h' := h.join hne hadj hp hq hzero
  have hnot : pair p q ∉ pairs S adj := by
    rw [h.mem_pairs, adj_pair h, hzero]
    exact fun hmem => hmem.2 rfl
  rw [← Finset.card_insert_of_notMem hnot]
  congr 1
  ext x
  rw [Finset.mem_insert, h'.mem_pairs, h.mem_pairs, hadj]
  constructor
  · rintro ⟨hlt, hx⟩
    rcases eq_or_ne x (pair p q) with heq | hneq
    · exact Or.inl heq
    · rw [if_neg (mt (ends_iff_pair hlt hne).mp hneq)] at hx
      exact Or.inr ⟨hlt, hx⟩
  · rintro (rfl | ⟨hlt, hx⟩)
    · refine ⟨pair_lt hne, ?_⟩
      rw [if_pos ((ends_iff_pair (pair_lt hne) hne).mpr rfl)]
      exact Nat.succ_ne_zero _
    · exact ⟨hlt, Nat.ne_of_gt (Nat.lt_of_lt_of_le (Nat.pos_of_ne_zero hx) (Nat.le_add_right _ _))⟩

end join

section part

variable (hne : p ≠ q) (h : Simple S adj)
  (hadj : ∀ x y, adj' x y = adj x y - if Ends p q x y then 1 else 0)

include h hadj

theorem Simple.part : Simple S adj' := by
  have hle : ∀ x y, adj' x y ≤ adj x y := by
    intro x y
    rw [hadj]
    exact Nat.sub_le _ _
  refine ⟨?_, ?_, ?_, ?_⟩
  · intro x y
    rw [hadj, hadj, h.symm x y]
    simp only [Ends, or_comm, and_comm]
  · intro x
    exact Nat.eq_zero_of_le_zero (h.irrefl x ▸ hle x x)
  · intro x y
    exact (hle x y).trans (h.le_one x y)
  · intro x y hxy
    apply h.support x y
    have hxy' := hle x y
    omega

include hne

theorem Simple.card_part (hone : adj p q ≠ 0) : (pairs S adj').card + 1 = (pairs S adj).card := by
  have h' := h.part hadj
  have hmem : pair p q ∈ pairs S adj := by
    rw [h.mem_pairs, adj_pair h]
    exact ⟨pair_lt hne, hone⟩
  have herase : pairs S adj' = (pairs S adj).erase (pair p q) := by
    ext x
    rw [Finset.mem_erase, h'.mem_pairs, h.mem_pairs, hadj]
    constructor
    · rintro ⟨hlt, hx⟩
      split at hx
      case isTrue =>
        have hle := h.le_one x.1 x.2
        omega
      case isFalse hneq => exact ⟨mt (ends_iff_pair hlt hne).mpr hneq, hlt, hx⟩
    · rintro ⟨hneq, hlt, hx⟩
      rw [if_neg (mt (ends_iff_pair hlt hne).mp hneq)]
      exact ⟨hlt, hx⟩
  rw [herase, Finset.card_erase_add_one hmem]

end part

end LibraDevice.PairGraph
