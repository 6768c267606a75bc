import Mathlib.Data.List.Count
import Mathlib.Data.List.Nodup

/-!
An event that is delivered to listeners in turn. Each call changes the listener or
removes it, and changes a state that the listeners share; a flag of that state may
stand for the flags of the listeners.
-/

namespace LibraDevice.Broadcast

universe u v

variable {α : Type u} {σ : Type v}

/-- The listeners that are left and the state, once each listener has been called. -/
def deliver (react : α → σ → Option α × σ) : List α → σ → List α × σ
  | [], s => ([], s)
  | a :: l, s =>
      let rest := deliver react l (react a s).2
      ((react a s).1.toList ++ rest.1, rest.2)

theorem deliver_invariant {react : α → σ → Option α × σ} {I : List α → List α → σ → Prop}
    (hreact : ∀ done a todo s, I done (a :: todo) s →
      I (done ++ (react a s).1.toList) todo (react a s).2) :
    ∀ (todo done : List α) (s : σ), I done todo s →
      I (done ++ (deliver react todo s).1) [] (deliver react todo s).2 := by
  intro todo
  induction todo with
  | nil =>
      intro done s h
      simpa [deliver] using h
  | cons a todo ih =>
      intro done s h
      have hrest := ih _ _ (hreact done a todo s h)
      simpa [deliver] using hrest

theorem deliver_forall {react : α → σ → Option α × σ} {P : α → Prop}
    (hreact : ∀ a s b, P a → (react a s).1 = some b → P b) (l : List α) (s : σ)
    (h : ∀ a ∈ l, P a) : ∀ b ∈ (deliver react l s).1, P b := by
  induction l generalizing s with
  | nil =>
      intro b hb
      cases hb
  | cons a l ih =>
      intro b hb
      rcases List.mem_append.mp hb with hb | hb
      · exact hreact a s b (h a List.mem_cons_self) (Option.mem_toList.mp hb)
      · exact ih (react a s).2 (fun c hc => h c (List.mem_cons_of_mem a hc)) b hb

theorem mem_deliver {react : α → σ → Option α × σ} {l : List α} {s : σ} {b : α}
    (hb : b ∈ (deliver react l s).1) : ∃ a ∈ l, ∃ s', (react a s').1 = some b := by
  induction l generalizing s with
  | nil => cases hb
  | cons a l ih =>
      rcases List.mem_append.mp hb with hb | hb
      · exact ⟨a, List.mem_cons_self, s, Option.mem_toList.mp hb⟩
      · obtain ⟨a', ha', hleft⟩ := ih hb
        exact ⟨a', List.mem_cons_of_mem a ha', hleft⟩

theorem exists_mem_deliver {react : α → σ → Option α × σ} {P : α → Prop} {l : List α} {a : α}
    (ha : a ∈ l) (hleft : ∀ s, ∃ b, (react a s).1 = some b ∧ P b) (s : σ) :
    ∃ b ∈ (deliver react l s).1, P b := by
  induction l generalizing s with
  | nil => cases ha
  | cons a' l ih =>
      rcases List.mem_cons.mp ha with rfl | ha
      · obtain ⟨b, hb, hP⟩ := hleft s
        exact ⟨b, List.mem_append_left _ (Option.mem_toList.mpr hb), hP⟩
      · obtain ⟨b, hb, hP⟩ := ih ha (react a' s).2
        exact ⟨b, List.mem_append_right _ hb, hP⟩

theorem deliver_same {β : Type*} {react : α → σ → Option α × σ} {o : σ → β} {l : List α}
    (hsame : ∀ a ∈ l, ∀ s, o (react a s).2 = o s) (s : σ) :
    o (deliver react l s).2 = o s := by
  induction l generalizing s with
  | nil => rfl
  | cons a l ih =>
      have hrest := ih (fun a' ha' => hsame a' (List.mem_cons_of_mem a ha')) (react a s).2
      exact hrest.trans (hsame a List.mem_cons_self s)

theorem deliver_append_snd (react : α → σ → Option α × σ) (l l' : List α) (s : σ) :
    (deliver react (l ++ l') s).2 = (deliver react l' (deliver react l s).2).2 := by
  induction l generalizing s with
  | nil => rfl
  | cons a l ih => exact ih (react a s).2

theorem deliver_one {β : Type*} {react : α → σ → Option α × σ} {o : σ → β} {l l' : List α}
    {a : α} {g : β → β} (hsame : ∀ b ∈ l ++ l', ∀ s, o (react b s).2 = o s)
    (hone : ∀ s, o (react a s).2 = g (o s)) (s : σ) :
    o (deliver react (l ++ a :: l') s).2 = g (o s) := by
  have hbefore := deliver_same (fun b hb => hsame b (List.mem_append_left l' hb)) s
  have hafter := deliver_same (fun b hb => hsame b (List.mem_append_right l hb))
    (react a (deliver react l s).2).2
  rw [deliver_append_snd, ← hbefore, ← hone]
  exact hafter

theorem deliver_map_sublist {β : Type*} {react : α → σ → Option α × σ} {name : α → β}
    (hname : ∀ a s b, (react a s).1 = some b → name b = name a) (l : List α) (s : σ) :
    ((deliver react l s).1.map name).Sublist (l.map name) := by
  induction l generalizing s with
  | nil => exact List.Sublist.refl []
  | cons a l ih =>
      have hrest := ih (react a s).2
      rw [deliver, List.map_append, List.map_cons]
      rcases hleft : (react a s).1 with _ | b
      · exact hrest.cons (name a)
      · have hb := hname a s b hleft
        simpa [hb] using hrest.cons_cons (name a)

/-- The flag is up exactly when a listener's own is, and one listener's is at most. -/
def Stands (set : α → Bool) (l : List α) (up : Bool) : Prop :=
  l.countP set = up.toNat

theorem stands_iff {set : α → Bool} {l : List α} {up : Bool} :
    Stands set l up ↔ (up = true ↔ ∃ a ∈ l, set a = true) ∧ l.countP set ≤ 1 := by
  have hpos : (∃ a ∈ l, set a = true) ↔ 0 < l.countP set := List.countP_pos_iff.symm
  rw [hpos, Stands]
  cases up with
  | false =>
      simp only [Bool.toNat_false, Bool.false_eq_true, false_iff]
      omega
  | true =>
      simp only [Bool.toNat_true, true_iff]
      omega

theorem Stands.perm {set : α → Bool} {l l' : List α} {up : Bool} (h : Stands set l up)
    (hperm : l'.Perm l) : Stands set l' up :=
  (hperm.countP_eq set).trans h

/-- What one call makes of the listener's flag and of the shared one. `alone` says that
no other listener's flag is set, `rest` the same of those that stay. -/
inductive FlagMove (alone rest : Prop) : Bool → Bool → Bool → Bool → Prop
  | same (set up : Bool) : FlagMove alone rest set up set up
  | raised (up : Bool) : alone → FlagMove alone rest false up true true
  | lowered (up : Bool) : FlagMove alone rest true up false false
  | cleared (up : Bool) : rest → FlagMove alone rest false up false false

/-- While an event is delivered, listeners that it removes may have their flags set
although the shared flag is down. -/
structure Covers (set leaves : α → Bool) (l : List α) (up : Bool) : Prop where
  staying : l.countP (fun a => set a && !leaves a) ≤ up.toNat
  up_le : up.toNat ≤ l.countP set
  le_one : l.countP set ≤ 1

theorem FlagMove.counts {alone rest : Prop} {set up set' up' : Bool} {n m k : Nat}
    (h : FlagMove alone rest set up set' up') (halone : alone → n = 0) (hrest : rest → m = 0)
    (hle : m ≤ n) (hk : set' = true → k = set.toNat) (hstay : m + k ≤ up.toNat)
    (hup : up.toNat ≤ n + set.toNat) (hone : n + set.toNat ≤ 1) :
    m + set'.toNat ≤ up'.toNat ∧ up'.toNat ≤ n + set'.toNat ∧ n + set'.toNat ≤ 1 := by
  cases h with
  | same =>
      cases set with
      | false => exact ⟨by simp only [Bool.toNat_false]; omega, hup, hone⟩
      | true => exact ⟨hk rfl ▸ hstay, hup, hone⟩
  | raised _ hn =>
      have hn := halone hn
      rw [Bool.toNat_true]
      omega
  | lowered =>
      simp only [Bool.toNat_true, Bool.toNat_false] at hone ⊢
      omega
  | cleared _ hm =>
      simp only [Bool.toNat_false] at hone ⊢
      have hm := hrest hm
      omega

theorem countP_insert (p : α → Bool) (done todo : List α) (a : Option α) :
    (done ++ a.toList ++ todo).countP p = (done ++ todo).countP p + (a.any p).toNat := by
  rcases a with _ | a
  · simp
  · simp only [Option.toList_some, List.append_assoc, List.countP_append,
      List.singleton_append, List.countP_cons, Option.any_some]
    cases p a <;> simp
    omega

theorem FlagMove.covers {set leaves : α → Bool} {done todo : List α} {a : α} {a' : Option α}
    {up up' : Bool} (hgone : leaves a = true → a' = none) (hstay : ∀ b ∈ a', leaves b = false)
    (h : Covers set leaves (done ++ a :: todo) up)
    (hmove : FlagMove (∀ b ∈ done ++ todo, set b = false)
      (∀ b ∈ done ++ todo, set b = true → leaves b = true) (set a) up (a'.any set) up') :
    Covers set leaves (done ++ a'.toList ++ todo) up' := by
  have hsplit : done ++ a :: todo = done ++ (some a).toList ++ todo := by simp
  have hafter : (a'.any fun b => set b && !leaves b) = a'.any set := by
    rcases a' with _ | b
    · rfl
    · simp [hstay b rfl]
  obtain ⟨hstaying, hup, hone⟩ := h
  rw [hsplit, countP_insert] at hstaying hup hone
  have hcounts := hmove.counts (n := (done ++ todo).countP set) ?_ ?_
    (List.countP_mono_left fun b _ hb => (Bool.and_eq_true_iff.mp hb).1) ?_ hstaying hup hone
  · constructor <;> rw [countP_insert]
    · rw [hafter]
      exact hcounts.1
    · exact hcounts.2.1
    · exact hcounts.2.2
  · intro halone
    exact List.countP_eq_zero.mpr fun b hb => by simp [halone b hb]
  · intro hrest
    apply List.countP_eq_zero.mpr
    intro b hb hset
    obtain ⟨hset, hleaves⟩ := Bool.and_eq_true_iff.mp hset
    simp [hrest b hb hset] at hleaves
  · intro hset
    rcases hleft : leaves a with _ | _
    · simp [hleft]
    · rw [hgone hleft] at hset
      cases hset

theorem deliver_stands {set leaves : α → Bool} {flag : σ → Bool} {react : α → σ → Option α × σ}
    {I : List α → List α → σ → Prop}
    (hI : ∀ done a todo s, I done (a :: todo) s →
      I (done ++ (react a s).1.toList) todo (react a s).2)
    (hgone : ∀ a s, leaves a = true → (react a s).1 = none)
    (hstay : ∀ a s b, (react a s).1 = some b → leaves b = false)
    (hmove : ∀ done a todo s, I done (a :: todo) s →
      FlagMove (∀ b ∈ done ++ todo, set b = false)
        (∀ b ∈ done ++ todo, set b = true → leaves b = true)
        (set a) (flag s) ((react a s).1.any set) (flag (react a s).2))
    (l : List α) (s : σ) (h : Stands set l (flag s)) (h0 : I [] l s) :
    Stands set (deliver react l s).1 (flag (deliver react l s).2) := by
  have hloop : ∀ done a todo s,
      I done (a :: todo) s ∧ Covers set leaves (done ++ a :: todo) (flag s) ∧
        (∀ b ∈ done, leaves b = false) →
      I (done ++ (react a s).1.toList) todo (react a s).2 ∧
        Covers set leaves (done ++ (react a s).1.toList ++ todo) (flag (react a s).2) ∧
          ∀ b ∈ done ++ (react a s).1.toList, leaves b = false := by
    rintro done a todo s ⟨hinv, hcovers, hdone⟩
    refine ⟨hI done a todo s hinv, ?_, ?_⟩
    · exact (hmove done a todo s hinv).covers (hgone a s)
        (fun b hb => hstay a s b hb) hcovers
    · intro b hb
      rcases List.mem_append.mp hb with hb | hb
      · exact hdone b hb
      · exact hstay a s b (Option.mem_toList.mp hb)
  have hrun := deliver_invariant
    (I := fun done todo s => I done todo s ∧ Covers set leaves (done ++ todo) (flag s) ∧
      ∀ b ∈ done, leaves b = false)
    hloop l [] s ⟨h0, ?_, fun b hb => absurd hb List.not_mem_nil⟩
  · obtain ⟨-, ⟨hstaying, hup, -⟩, hleft⟩ := hrun
    simp only [List.nil_append, List.append_nil] at hstaying hup hleft
    have hall : (deliver react l s).1.countP (fun a => set a && !leaves a)
        = (deliver react l s).1.countP set :=
      List.countP_congr fun b hb => by simp [hleft b hb]
    rw [hall] at hstaying
    exact Nat.le_antisymm hstaying hup
  · refine ⟨?_, Nat.le_of_eq h.symm, ?_⟩
    · apply Nat.le_trans _ (Nat.le_of_eq h)
      exact List.countP_mono_left fun b _ hb => (Bool.and_eq_true_iff.mp hb).1
    · rw [List.nil_append, h]
      exact Bool.toNat_le (flag s)

section Owner

variable {ν : Type*} {ρ : Type*} {set : α → Bool} {name : α → ν}

/-- The register names the listener whose flag is set; there is one at most. -/
def Owned (set : α → Bool) (name : α → ν) (l : List α) (owner : Option ν) : Prop :=
  (l.filter set).map name = owner.toList

/-- What one call makes of the listener's flag and of the register; `a` is its name. -/
inductive OwnerMove (alone : Prop) (a : ν) : Bool → Option ν → Bool → Option ν → Prop
  | same (b : Bool) (x : Option ν) : OwnerMove alone a b x b x
  | raised (x : Option ν) : alone → OwnerMove alone a false x true (some a)
  | lowered (x : Option ν) : OwnerMove alone a true x false none
  | cleared (x : Option ν) : alone → OwnerMove alone a false x false none
  | renewed (x : Option ν) : OwnerMove alone a true x true (some a)

theorem filter_map_toList (set : α → Bool) (name : α → ν) (b : Option α) {a : ν}
    (hname : ∀ c, b = some c → name c = a) :
    (b.toList.filter set).map name = if b.any set then [a] else [] := by
  rcases b with _ | c
  · rfl
  · rw [Option.toList_some, Option.any_some, List.filter_singleton, ← hname c rfl]
    cases set c <;> rfl

theorem Owned.move {done todo : List α} {a : α} {b : Option α} {x y : Option ν}
    (h : Owned set name (done ++ a :: todo) x) (hname : ∀ c, b = some c → name c = name a)
    (hmove : OwnerMove (∀ o ∈ done ++ todo, set o = false) (name a) (set a) x (b.any set) y) :
    Owned set name (done ++ b.toList ++ todo) y := by
  have hbefore : done ++ a :: todo = done ++ (some a).toList ++ todo := by simp
  rw [Owned, hbefore, List.filter_append, List.filter_append, List.map_append, List.map_append,
    filter_map_toList set name (some a) fun c hc => congrArg name (Option.some.inj hc).symm,
    Option.any_some] at h
  rw [Owned, List.filter_append, List.filter_append, List.map_append, List.map_append,
    filter_map_toList set name b hname]
  have hnone : (∀ o ∈ done ++ todo, set o = false) →
      (done.filter set).map name = [] ∧ (todo.filter set).map name = [] := by
    intro halone
    constructor
    · rw [List.map_eq_nil_iff, List.filter_eq_nil_iff]
      intro o ho
      rw [halone o (List.mem_append_left todo ho)]
      exact Bool.false_ne_true
    · rw [List.map_eq_nil_iff, List.filter_eq_nil_iff]
      intro o ho
      rw [halone o (List.mem_append_right done ho)]
      exact Bool.false_ne_true
  -- a register holds one name at most
  have hone : ∀ {l l' : List ν}, l ++ [name a] ++ l' = x.toList → l = [] ∧ l' = [] := by
    intro l l' heq
    have hlen := congrArg List.length heq
    have hle : x.toList.length ≤ 1 := by cases x <;> simp
    rw [List.length_append, List.length_append, List.length_singleton] at hlen
    exact ⟨List.eq_nil_of_length_eq_zero (by omega), List.eq_nil_of_length_eq_zero (by omega)⟩
  generalize hflag : set a = flag at h hmove
  generalize hflag' : b.any set = flag' at hmove ⊢
  cases hmove with
  | same => exact h
  | raised _ halone =>
      obtain ⟨hdone, htodo⟩ := hnone halone
      rw [hdone, htodo]
      rfl
  | lowered =>
      obtain ⟨hdone, htodo⟩ := hone h
      rw [hdone, htodo]
      rfl
  | cleared _ halone =>
      obtain ⟨hdone, htodo⟩ := hnone halone
      rw [hdone, htodo]
      rfl
  | renewed =>
      obtain ⟨hdone, htodo⟩ := hone h
      rw [hdone, htodo]
      rfl

theorem Owned.perm {l l' : List α} {x : Option ν} (h : Owned set name l x) (hperm : l'.Perm l) :
    Owned set name l' x := by
  have hnames := (hperm.filter set).map name
  rw [Owned] at h ⊢
  rw [h] at hnames
  cases x with
  | none => exact List.perm_nil.mp hnames
  | some a => exact List.perm_singleton.mp hnames

theorem deliver_fst {react : α → σ → Option α × σ} {react' : α → σ × ρ → Option α × (σ × ρ)}
    (h : ∀ a s r, (react' a (s, r)).1 = (react a s).1 ∧ (react' a (s, r)).2.1 = (react a s).2)
    (l : List α) (s : σ) (r : ρ) :
    (deliver react' l (s, r)).1 = (deliver react l s).1 ∧
      (deliver react' l (s, r)).2.1 = (deliver react l s).2 := by
  induction l generalizing s r with
  | nil => exact ⟨rfl, rfl⟩
  | cons a l ih =>
      obtain ⟨hleft, hstate⟩ := h a s r
      have hpair : (react' a (s, r)).2 = ((react a s).2, (react' a (s, r)).2.2) :=
        Prod.ext hstate rfl
      obtain ⟨hl, hs⟩ := ih (react a s).2 (react' a (s, r)).2.2
      rw [deliver, deliver, hpair, hleft, hl]
      exact ⟨rfl, hs⟩

end Owner

end LibraDevice.Broadcast
