import Mathlib.Data.List.Basic

/-!
Owners of keys, whose grants and releases wait in a queue. An owner that closes posts a last
note, behind which nothing may be its own.
-/

namespace LibraDevice.Mailbox

universe u v

variable {κ : Type u} {ι : Type v}

/-- What a message does to the owners of keys. -/
inductive Note (κ : Type u) (ι : Type v) where
  | grant (k : κ) (i : ι)
  | release (k : κ)
  | close (i : ι)
  | silent

/-- The most that is owned when a note has been read. A grant may be turned down. -/
def Note.after (own : κ → ι → Prop) : Note κ ι → κ → ι → Prop
  | .grant k i => fun k' i' => own k' i' ∨ k' = k ∧ i' = i
  | .release k => fun k' i' => own k' i' ∧ k' ≠ k
  | .close _ => own
  | .silent => own

/-- The most that is owned when the queue has been read. -/
def afterAll (own : κ → ι → Prop) (queue : List (Note κ ι)) : κ → ι → Prop :=
  queue.foldl Note.after own

/-- How far an owner is: it has a record of its keys while it is open. -/
inductive Phase (κ : Type u) where
  | gone
  | isOpen (keys : κ → Prop)
  | closing

/-- The notes that concern one owner alone. -/
def Note.IsOf (i : ι) : Note κ ι → Prop
  | .grant _ i' => i' = i
  | .close i' => i' = i
  | _ => False

/-- The owner `i` is kept track of: it has the keys it may own on record, and the queue is
clear of it when it is gone. -/
def Orderly (own : κ → ι → Prop) (queue : List (Note κ ι)) (i : ι) : Phase κ → Prop
  | .gone => (∀ k, ¬ own k i) ∧ ∀ n ∈ queue, ¬ n.IsOf i
  | .isOpen keys => (∀ k, afterAll own queue k i → keys k) ∧ .close i ∉ queue
  | .closing => ∃ before behind, queue = before ++ .close i :: behind ∧
      (∀ k, ¬ afterAll own before k i) ∧ .close i ∉ before ∧ ∀ n ∈ behind, ¬ n.IsOf i

section

variable {own own' : κ → ι → Prop} {queue posted : List (Note κ ι)} {n : Note κ ι} {i j : ι}

theorem afterAll_append (own : κ → ι → Prop) (queue posted : List (Note κ ι)) :
    afterAll own (queue ++ posted) = afterAll (afterAll own queue) posted :=
  List.foldl_append ..

theorem Note.after_mono (h : ∀ k, own k i → own' k i) (n : Note κ ι) (k : κ)
    (hk : n.after own k i) : n.after own' k i := by
  cases n with
  | grant k' i' => exact hk.imp_left (h k)
  | release k' => exact hk.imp_left (h k)
  | close i' => exact h k hk
  | silent => exact h k hk

theorem afterAll_mono (h : ∀ k, own k i → own' k i) (queue : List (Note κ ι)) (k : κ)
    (hk : afterAll own queue k i) : afterAll own' queue k i := by
  induction queue generalizing own own' with
  | nil => exact h k hk
  | cons n queue ih => exact ih (fun k => n.after_mono h k) hk

theorem own_of_afterAll (hposted : ∀ n ∈ posted, ¬ n.IsOf i) {k : κ}
    (hk : afterAll own posted k i) : own k i := by
  induction posted generalizing own with
  | nil => exact hk
  | cons n posted ih =>
      have hn := hposted n List.mem_cons_self
      have hafter := ih (fun m hm => hposted m (List.mem_cons_of_mem _ hm)) hk
      cases n with
      | grant k' i' =>
          rcases hafter with hown | ⟨-, rfl⟩
          · exact hown
          · exact absurd rfl hn
      | release k' => exact hafter.1
      | close i' => exact hafter
      | silent => exact hafter

theorem not_afterAll_of_release {k : κ} (hrelease : .release k ∈ posted)
    (hposted : ∀ n ∈ posted, ¬ n.IsOf i) : ¬ afterAll own posted k i := by
  obtain ⟨before, behind, rfl⟩ := List.append_of_mem hrelease
  rw [afterAll_append]
  intro hk
  have hbehind : ∀ n ∈ behind, ¬ n.IsOf i := fun n hn =>
    hposted n (List.mem_append_right _ (List.mem_cons_of_mem _ hn))
  have hlast : Note.after (afterAll own before) (.release k) k i := own_of_afterAll hbehind hk
  exact hlast.2 rfl

namespace Orderly

theorem deliver {phase : Phase κ} (h : Orderly own (n :: queue) i phase) (hn : n ≠ .close i)
    (hown : ∀ k, own' k i → n.after own k i) : Orderly own' queue i phase := by
  cases phase with
  | gone =>
      obtain ⟨hnone, hqueue⟩ := h
      refine ⟨?_, fun m hm => hqueue m (List.mem_cons_of_mem _ hm)⟩
      intro k hk
      have hhead : ∀ m ∈ [n], ¬ m.IsOf i := by
        intro m hm
        rw [List.mem_singleton.mp hm]
        exact hqueue n List.mem_cons_self
      exact hnone k (own_of_afterAll hhead (hown k hk))
  | isOpen keys =>
      obtain ⟨hkeys, hclose⟩ := h
      refine ⟨?_, fun hm => hclose (List.mem_cons_of_mem _ hm)⟩
      intro k hk
      exact hkeys k (afterAll_mono hown queue k hk)
  | closing =>
      obtain ⟨before, behind, heq, hnone, hclose, hbehind⟩ := h
      cases before with
      | nil =>
          cases heq
          exact absurd rfl hn
      | cons m before =>
          cases heq
          refine ⟨before, behind, rfl, ?_, fun hm => hclose (List.mem_cons_of_mem _ hm), hbehind⟩
          intro k hk
          exact hnone k (afterAll_mono hown before k hk)

theorem closed {phase : Phase κ} (h : Orderly own (.close i :: queue) i phase) :
    phase = .closing ∧ Orderly own queue i .gone := by
  cases phase with
  | gone => exact absurd rfl (h.2 _ List.mem_cons_self)
  | isOpen keys => exact absurd List.mem_cons_self h.2
  | closing =>
      obtain ⟨before, behind, heq, hnone, hclose, hbehind⟩ := h
      cases before with
      | nil =>
          cases heq
          exact ⟨rfl, hnone, hbehind⟩
      | cons m before =>
          cases heq
          exact absurd List.mem_cons_self hclose

theorem post_other {phase : Phase κ} (h : Orderly own queue i phase)
    (hposted : ∀ n ∈ posted, ¬ n.IsOf i) : Orderly own (queue ++ posted) i phase := by
  cases phase with
  | gone =>
      refine ⟨h.1, ?_⟩
      intro n hn
      rcases List.mem_append.mp hn with hn | hn
      · exact h.2 n hn
      · exact hposted n hn
  | isOpen keys =>
      refine ⟨?_, ?_⟩
      · intro k hk
        rw [afterAll_append] at hk
        exact h.1 k (own_of_afterAll hposted hk)
      · intro hn
        rcases List.mem_append.mp hn with hn | hn
        · exact h.2 hn
        · exact absurd rfl (hposted _ hn)
  | closing =>
      obtain ⟨before, behind, rfl, hnone, hclose, hbehind⟩ := h
      refine ⟨before, behind ++ posted, by simp, hnone, hclose, ?_⟩
      intro n hn
      rcases List.mem_append.mp hn with hn | hn
      · exact hbehind n hn
      · exact hposted n hn

theorem post {keys keys' : κ → Prop} (h : Orderly own queue i (.isOpen keys))
    (hkeys : ∀ k, afterAll (fun k _ => keys k) posted k i → keys' k)
    (hclose : .close i ∉ posted) : Orderly own (queue ++ posted) i (.isOpen keys') := by
  refine ⟨?_, ?_⟩
  · intro k hk
    rw [afterAll_append] at hk
    exact hkeys k (afterAll_mono h.1 posted k hk)
  · intro hn
    rcases List.mem_append.mp hn with hn | hn
    · exact h.2 hn
    · exact hclose hn

theorem shut {keys : κ → Prop} (h : Orderly own queue i (.isOpen keys))
    (hkeys : ∀ k, ¬ afterAll (fun k _ => keys k) posted k i) (hclose : .close i ∉ posted) :
    Orderly own (queue ++ (posted ++ [.close i])) i .closing := by
  refine ⟨queue ++ posted, [], by simp, ?_, ?_, by simp⟩
  · intro k hk
    rw [afterAll_append] at hk
    exact hkeys k (afterAll_mono h.1 posted k hk)
  · intro hn
    rcases List.mem_append.mp hn with hn | hn
    · exact h.2 hn
    · exact hclose hn

theorem start (h : Orderly own queue i .gone) (keys : κ → Prop) :
    Orderly own queue i (.isOpen keys) := by
  refine ⟨?_, fun hn => h.2 _ hn rfl⟩
  intro k hk
  exact absurd (own_of_afterAll h.2 hk) (h.1 k)

end Orderly

end

end LibraDevice.Mailbox
