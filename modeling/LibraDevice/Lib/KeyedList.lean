import Mathlib.Data.List.Nodup

/-!
An ordered list whose entries have keys: what deleting by key and rewriting by key leave.
-/

namespace LibraDevice.KeyedList

universe u v

variable {κ : Type u} {ε : Type v} [DecidableEq κ] (key : ε → κ)

/-- The entries that are left when those with the given keys are gone. -/
def without (ks : List κ) (l : List ε) : List ε := l.filter fun e => key e ∉ ks

/-- What a deletion leaves, the keys it was given that were not in use, and its result. -/
structure Deletion (κ : Type u) (ε : Type v) where
  entries : List ε
  dead : List κ
  ok : Bool

/-- The keys are deleted in order. The key `null` is passed over; one that is not in use, or
that is refused, ends the deletion. -/
def deleteEach (null : κ) (refused : List κ) : List κ → List ε → Deletion κ ε
  | [], l => ⟨l, [], true⟩
  | k :: ks, l =>
      if k = null then deleteEach null refused ks l
      else if k ∉ l.map key then ⟨l, [k], false⟩
      else if k ∈ refused then ⟨l, [], false⟩
      else deleteEach null refused ks (without key [k] l)

/-- The entry with the key becomes another one. -/
def rewrite (k : κ) (f : ε → ε) (l : List ε) : List ε :=
  l.map fun e => if key e = k then f e else e

section

variable {key} {null k : κ} {refused ks ks' : List κ} {l l' : List ε} {e : ε}

theorem mem_without : e ∈ without key ks l ↔ e ∈ l ∧ key e ∉ ks := by
  rw [without, List.mem_filter, decide_eq_true_iff]

@[simp] theorem without_nil (l : List ε) : without key [] l = l := by
  rw [without, List.filter_eq_self]
  intro e _
  simp

theorem without_append (ks : List κ) (l l' : List ε) :
    without key ks (l ++ l') = without key ks l ++ without key ks l' :=
  List.filter_append l l'

theorem without_without : without key ks (without key ks' l) = without key (ks' ++ ks) l := by
  rw [without, without, without, List.filter_filter]
  apply List.filter_congr
  intro e _
  simp only [List.mem_append, not_or, Bool.decide_and]
  exact Bool.and_comm _ _

theorem without_eq_self (h : ∀ e ∈ l, key e ∉ ks) : without key ks l = l := by
  rw [without, List.filter_eq_self]
  intro e he
  exact decide_eq_true (h e he)

theorem without_eq_nil (h : ∀ e ∈ l, key e ∈ ks) : without key ks l = [] := by
  rw [without, List.filter_eq_nil_iff]
  intro e he
  simp [h e he]

theorem without_middle {l₁ l₂ l₃ : List ε} (h : ((l₁ ++ l₂ ++ l₃).map key).Nodup) :
    without key (l₂.map key) (l₁ ++ l₂ ++ l₃) = l₁ ++ l₃ := by
  rw [List.map_append, List.map_append, List.nodup_append, List.nodup_append] at h
  obtain ⟨⟨-, -, hfront⟩, -, hrear⟩ := h
  have h₁ : without key (l₂.map key) l₁ = l₁ := by
    apply without_eq_self
    intro e he hmem
    exact hfront _ (List.mem_map_of_mem he) _ hmem rfl
  have h₂ : without key (l₂.map key) l₂ = [] :=
    without_eq_nil fun e he => List.mem_map_of_mem he
  have h₃ : without key (l₂.map key) l₃ = l₃ := by
    apply without_eq_self
    intro e he hmem
    exact hrear _ (List.mem_append_right _ hmem) _ (List.mem_map_of_mem he) rfl
  rw [without_append, without_append, h₁, h₂, h₃, List.append_nil]

theorem without_sublist (ks : List κ) (l : List ε) : (without key ks l).Sublist l :=
  List.filter_sublist

theorem deleteEach_eq (hlive : ∀ k ∈ ks, k ≠ null → k ∈ l.map key)
    (hrefused : ∀ k ∈ ks, k ∉ refused) (hnull : null ∉ l.map key)
    (hnodup : (ks.filter (· ≠ null)).Nodup) :
    deleteEach key null refused ks l = ⟨without key ks l, [], true⟩ := by
  induction ks generalizing l with
  | nil => rw [without_nil, deleteEach]
  | cons k ks ih =>
      rw [deleteEach]
      rcases eq_or_ne k null with rfl | hk
      · rw [if_pos rfl]
        rw [ih (fun k' hk' => hlive k' (List.mem_cons_of_mem k hk'))
          (fun k' hk' => hrefused k' (List.mem_cons_of_mem k hk')) hnull (by simpa using hnodup)]
        congr 1
        apply List.filter_congr
        intro e he
        have hne : key e ≠ k := by
          rintro rfl
          exact hnull (List.mem_map_of_mem he)
        simp [hne]
      · rw [List.filter_cons_of_pos (by simpa using hk), List.nodup_cons] at hnodup
        rw [if_neg hk, if_neg (not_not.mpr (hlive k List.mem_cons_self hk)),
          if_neg (hrefused k List.mem_cons_self)]
        have hlive' : ∀ k' ∈ ks, k' ≠ null → k' ∈ (without key [k] l).map key := by
          intro k' hk' hne
          obtain ⟨e, he, rfl⟩ := List.mem_map.mp (hlive k' (List.mem_cons_of_mem k hk') hne)
          apply List.mem_map_of_mem
          rw [mem_without, List.mem_singleton]
          refine ⟨he, ?_⟩
          rintro heq
          apply hnodup.1
          rw [← heq, List.mem_filter]
          exact ⟨hk', decide_eq_true hne⟩
        have hnull' : null ∉ (without key [k] l).map key := fun hmem =>
          hnull ((without_sublist [k] l).map key |>.subset hmem)
        rw [ih hlive' (fun k' hk' => hrefused k' (List.mem_cons_of_mem k hk')) hnull' hnodup.2,
          without_without, List.singleton_append]

theorem rewrite_map_key {f : ε → ε} (hf : ∀ e, key (f e) = key e) (k : κ) (l : List ε) :
    (rewrite key k f l).map key = l.map key := by
  rw [rewrite, List.map_map]
  apply List.map_congr_left
  intro e _
  rw [Function.comp_apply]
  split
  · exact hf e
  · rfl

theorem rewrite_filter {p : ε → Bool} {f : ε → ε}
    (hp : ∀ e ∈ l, key e = k → p e = false ∧ p (f e) = false) :
    (rewrite key k f l).filter p = l.filter p := by
  induction l with
  | nil => rfl
  | cons e l ih =>
      have hrest := ih fun e' he' => hp e' (List.mem_cons_of_mem e he')
      have hhead := hp e List.mem_cons_self
      rw [rewrite, List.map_cons, ← rewrite]
      split
      case isTrue hk =>
        obtain ⟨hold, hnew⟩ := hhead hk
        rw [List.filter_cons_of_neg (by rw [hnew]; decide),
          List.filter_cons_of_neg (by rw [hold]; decide), hrest]
      case isFalse => rw [List.filter_cons, List.filter_cons, hrest]

theorem rewrite_filter_map_key {p : ε → Bool} {f : ε → ε} (hf : ∀ e, key (f e) = key e)
    (hp : ∀ e ∈ l, key e = k → p (f e) = p e) :
    ((rewrite key k f l).filter p).map key = (l.filter p).map key := by
  induction l with
  | nil => rfl
  | cons e l ih =>
      have hrest := ih fun e' he' => hp e' (List.mem_cons_of_mem e he')
      have hhead := hp e List.mem_cons_self
      rw [rewrite, List.map_cons, ← rewrite]
      split
      case isTrue hk =>
        rcases hcase : p e with _ | _
        · rw [List.filter_cons_of_neg (by rw [hhead hk, hcase]; decide),
            List.filter_cons_of_neg (by rw [hcase]; decide), hrest]
        · rw [List.filter_cons_of_pos (by rw [hhead hk, hcase]),
            List.filter_cons_of_pos hcase, List.map_cons, List.map_cons, hf, hrest]
      case isFalse =>
        rcases hcase : p e with _ | _
        · rw [List.filter_cons_of_neg (by rw [hcase]; decide),
            List.filter_cons_of_neg (by rw [hcase]; decide), hrest]
        · rw [List.filter_cons_of_pos hcase, List.filter_cons_of_pos hcase, List.map_cons,
            List.map_cons, hrest]

theorem rewrite_filter_map {β : Type*} {v : ε → β} {p : ε → Bool} {f : ε → ε}
    (hp : ∀ e ∈ l, key e = k → p (f e) = p e ∧ v (f e) = v e) :
    ((rewrite key k f l).filter p).map v = (l.filter p).map v := by
  induction l with
  | nil => rfl
  | cons e l ih =>
      have hrest := ih fun e' he' => hp e' (List.mem_cons_of_mem e he')
      have hhead := hp e List.mem_cons_self
      rw [rewrite, List.map_cons, ← rewrite]
      split
      case isTrue hk =>
        obtain ⟨hsame, hview⟩ := hhead hk
        rw [List.filter_cons, List.filter_cons, hsame]
        split
        · rw [List.map_cons, List.map_cons, hview, hrest]
        · exact hrest
      case isFalse =>
        rw [List.filter_cons, List.filter_cons]
        split
        · rw [List.map_cons, List.map_cons, hrest]
        · exact hrest

theorem mem_rewrite {f : ε → ε} (h : e ∈ rewrite key k f l) :
    e ∈ l ∨ ∃ e' ∈ l, key e' = k ∧ e = f e' := by
  obtain ⟨e', he', heq⟩ := List.mem_map.mp h
  split at heq
  case isTrue hk => exact .inr ⟨e', he', hk, heq.symm⟩
  case isFalse => exact .inl (heq ▸ he')

end

end LibraDevice.KeyedList
