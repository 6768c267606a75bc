import Mathlib.Data.List.Basic
import Mathlib.Data.List.Nodup

/-!
Tables of slots, each free or in use under a key: loops over the cells that may
rewrite each of them and thread a state, the search for a first cell, and a
counter of the slots in use that is kept beside the table.
-/

namespace LibraDevice.Sweep

universe u v

variable {α : Type u} {σ : Type v}

/-- The cells after the loop and the state it ends in. -/
def sweep (body : α → σ → α × σ) : List α → σ → List α × σ
  | [], s => ([], s)
  | a :: l, s =>
      let rest := sweep body l (body a s).2
      ((body a s).1 :: rest.1, rest.2)

/-- The loop rule: `I` relates the cells visited, those still to visit, and the
state. -/
theorem sweep_invariant {body : α → σ → α × σ} {I : List α → List α → σ → Prop}
    (hbody : ∀ done a todo s, I done (a :: todo) s →
      I (done ++ [(body a s).1]) todo (body a s).2) :
    ∀ (todo done : List α) (s : σ), I done todo s →
      I (done ++ (sweep body todo s).1) [] (sweep body todo s).2 := by
  intro todo
  induction todo with
  | nil =>
      intro done s h
      simpa [sweep] using h
  | cons a todo ih =>
      intro done s h
      have hrest := ih _ _ (hbody done a todo s h)
      simpa [sweep] using hrest

theorem sweep_forall {P Q : α → Prop} {body : α → σ → α × σ}
    (hbody : ∀ a s, P a → Q (body a s).1) (l : List α) (s : σ) (h : ∀ a ∈ l, P a) :
    ∀ a ∈ (sweep body l s).1, Q a := by
  induction l generalizing s with
  | nil =>
      intro b hb
      cases hb
  | cons a l ih =>
      intro b hb
      rcases List.mem_cons.mp hb with rfl | hb
      · exact hbody a s (h a List.mem_cons_self)
      · exact ih (body a s).2 (fun c hc => h c (List.mem_cons_of_mem a hc)) b hb

theorem sweep_append {body : α → σ → α × σ} (before after : List α) (s : σ) :
    (sweep body (before ++ after) s).2 = (sweep body after (sweep body before s).2).2 := by
  induction before generalizing s with
  | nil => rfl
  | cons a before ih => exact ih (body a s).2

theorem mem_sweep_of_fixed {body : α → σ → α × σ} {a : α} (hfixed : ∀ s, (body a s).1 = a)
    {l : List α} (h : a ∈ l) (s : σ) : a ∈ (sweep body l s).1 := by
  induction l generalizing s with
  | nil => cases h
  | cons b l ih =>
      rcases List.mem_cons.mp h with rfl | h
      · exact List.mem_cons.mpr (Or.inl (hfixed s).symm)
      · exact List.mem_cons_of_mem _ (ih h (body b s).2)

theorem sweep_eq_self {body : α → σ → α × σ} {l : List α} {s : σ}
    (h : ∀ a ∈ l, body a s = (a, s)) : sweep body l s = (l, s) := by
  induction l with
  | nil => rfl
  | cons a l ih =>
      have hl := ih fun b hb => h b (List.mem_cons_of_mem a hb)
      simp [sweep, h a List.mem_cons_self, hl]

theorem split_of_findIdx?_eq_some {p : α → Bool} {l : List α} {i : Nat}
    (h : l.findIdx? p = some i) :
    ∃ before a after, l = before ++ a :: after ∧ before.length = i ∧ p a = true ∧
      ∀ b ∈ before, p b = false := by
  induction l generalizing i with
  | nil => cases h
  | cons a l ih =>
      rw [List.findIdx?_cons] at h
      split at h
      · rename_i hp
        cases h
        exact ⟨[], a, l, rfl, rfl, hp, by simp⟩
      · rename_i hp
        obtain ⟨j, hj, rfl⟩ := Option.map_eq_some_iff.mp h
        obtain ⟨before, b, after, rfl, rfl, hb, hbefore⟩ := ih hj
        refine ⟨a :: before, b, after, rfl, rfl, hb, ?_⟩
        intro c hc
        rcases List.mem_cons.mp hc with rfl | hc
        · simpa using hp
        · exact hbefore c hc

theorem set_append_cons (before after : List α) (a b : α) :
    (before ++ a :: after).set before.length b = before ++ b :: after := by
  simp

/-- A cell that does not satisfy `p` is still there after the first one that does
has been overwritten. -/
theorem mem_set_of_findIdx? {p : α → Bool} {l : List α} {i : Nat}
    (h : l.findIdx? p = some i) {a : α} (ha : a ∈ l) (hp : p a = false) (b : α) :
    a ∈ l.set i b := by
  obtain ⟨before, c, after, rfl, rfl, hc, -⟩ := split_of_findIdx?_eq_some h
  rw [set_append_cons]
  rcases List.mem_append.mp ha with ha | ha
  · exact List.mem_append_left _ ha
  rcases List.mem_cons.mp ha with rfl | ha
  · rw [hp] at hc
    cases hc
  · exact List.mem_append_right _ (List.mem_cons_of_mem b ha)

theorem getElem?_append_cons (before after : List α) (a : α) :
    (before ++ a :: after)[before.length]? = some a := by
  simp

end LibraDevice.Sweep

namespace LibraDevice.SlotTable

open LibraDevice.Sweep

universe u v w

variable {α : Type u} {κ : Type v} (key : α → Option κ)

/-- The keys of the slots in use. -/
def keys (cells : List α) : List κ := cells.filterMap key

/-- No key is in use twice, and the counter is right. -/
structure Counted (cells : List α) (n : Int) : Prop where
  nodup : (keys key cells).Nodup
  count : n = (keys key cells).length

variable {key} {before after cells : List α} {a b : α} {n m : Int}

theorem keys_append_cons :
    keys key (before ++ a :: after) = keys key before ++ ((key a).toList ++ keys key after) := by
  rw [keys, List.filterMap_append, List.filterMap_cons]
  cases key a with
  | none => rfl
  | some k => rfl

theorem mem_keys {k : κ} : k ∈ keys key cells ↔ ∃ a ∈ cells, key a = some k :=
  List.mem_filterMap

theorem counted_replicate (hfree : key a = none) (len : Nat) :
    Counted key (List.replicate len a) 0 := by
  have hnil : keys key (List.replicate len a) = [] := by
    apply List.filterMap_eq_nil_iff.mpr
    intro b hb
    rw [List.eq_of_mem_replicate hb, hfree]
  constructor
  · rw [hnil]
    exact List.nodup_nil
  · rw [hnil]
    rfl

/-- What may happen to a slot that no new key comes to, and to the counter. -/
inductive Move (key : α → Option κ) (a b : α) (n m : Int) : Prop
  | keep : key b = key a → m = n → Move key a b n m
  | clear : (key a).isSome → key b = none → m = n - 1 → Move key a b n m

theorem Move.shift (h : Move key a b n m) (k : Int) : Move key a b (n + k) (m + k) := by
  cases h with
  | keep hkey hm => exact .keep hkey (congrArg (· + k) hm)
  | clear ha hb hm => exact .clear ha hb (by omega)

namespace Counted

theorem move (h : Counted key (before ++ a :: after) n) (hmove : Move key a b n m) :
    Counted key (before ++ b :: after) m := by
  obtain ⟨hnodup, hcount⟩ := h
  rw [keys_append_cons] at hnodup hcount
  cases hmove with
  | keep hkey hm =>
      constructor
      · rw [keys_append_cons, hkey]
        exact hnodup
      · rw [keys_append_cons, hkey, hm]
        exact hcount
  | clear ha hb hm =>
      obtain ⟨k, hk⟩ := Option.isSome_iff_exists.mp ha
      rw [hk] at hnodup hcount
      constructor
      · rw [keys_append_cons, hb]
        exact (List.nodup_cons.mp (List.nodup_middle.mp hnodup)).2
      · rw [keys_append_cons, hb, hm, hcount]
        simp only [List.length_append, Option.toList_some, Option.toList_none, List.length_cons,
          List.length_nil]
        omega

theorem fill {k : κ} (h : Counted key (before ++ a :: after) n) (ha : key a = none)
    (hb : key b = some k) (hk : k ∉ keys key (before ++ a :: after)) :
    Counted key (before ++ b :: after) (n + 1) := by
  obtain ⟨hnodup, hcount⟩ := h
  rw [keys_append_cons, ha] at hnodup hcount hk
  constructor
  · rw [keys_append_cons, hb]
    exact List.nodup_middle.mpr (List.nodup_cons.mpr ⟨hk, hnodup⟩)
  · rw [keys_append_cons, hb, hcount]
    simp only [List.length_append, Option.toList_some, Option.toList_none, List.length_cons,
      List.length_nil]
    omega

theorem sweep {σ : Type w} (count : σ → Int) {body : α → σ → α × σ}
    (hmove : ∀ a s, Move key a (body a s).1 (count s) (count (body a s).2)) {s : σ}
    (h : Counted key cells (count s)) :
    Counted key (Sweep.sweep body cells s).1 (count (Sweep.sweep body cells s).2) := by
  let I := fun (done todo : List α) (s : σ) => Counted key (done ++ todo) (count s)
  have hbody : ∀ done a todo s, I done (a :: todo) s →
      I (done ++ [(body a s).1]) todo (body a s).2 := by
    intro done a todo s hs
    change Counted key (done ++ [(body a s).1] ++ todo) _
    rw [List.append_assoc]
    exact hs.move (hmove a s)
  have hloop := sweep_invariant hbody cells [] s h
  simpa [I] using hloop

end Counted

end LibraDevice.SlotTable
