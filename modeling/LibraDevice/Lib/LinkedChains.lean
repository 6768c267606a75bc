import Mathlib.Data.Finset.Card
import Mathlib.Data.Finset.Range
import Mathlib.Data.List.Nodup
import Mathlib.Logic.Function.Basic

/-!
Buckets with overflow chains. The slots `1 .. N-1` head the buckets, the slots
from `N` on hold overflow elements, and slot `0` is the null link. Well
linkedness is stated slot by slot, with two ghost functions: the bucket a slot
belongs to and a rank that grows along every chain. The chains themselves, as
lists, are recovered from it once and for all.
-/

namespace LibraDevice.LinkedChains

/-- What a chained table shows of a slot. -/
structure Links where
  occupied : Nat → Prop
  next : Nat → Nat
  prev : Nat → Nat

/-- Every occupied overflow slot hangs below the slot its back link names, and
every forward link leads to an occupied overflow slot that points back. -/
structure WellLinked (N T : Nat) (L : Links) (home rank : Nat → Nat) : Prop where
  null_free : ¬ L.occupied 0
  overflow_null_free : ¬ L.occupied N
  lt_of_occupied : ∀ {e}, L.occupied e → e < T
  next_link : ∀ {e}, L.occupied e → L.next e ≠ 0 →
    N ≤ L.next e ∧ L.occupied (L.next e) ∧ L.prev (L.next e) = e
  prev_link : ∀ {e}, L.occupied e → N ≤ e →
    L.occupied (L.prev e) ∧ L.next (L.prev e) = e
  home_head : ∀ {e}, L.occupied e → e < N → home e = e
  home_prev : ∀ {e}, L.occupied e → N ≤ e → home e = home (L.prev e)
  rank_prev : ∀ {e}, L.occupied e → N ≤ e → rank (L.prev e) < rank e

/-- `L.Chain e l`: following `next` from `e` visits `l` and then ends. -/
def Links.Chain (L : Links) : Nat → List Nat → Prop
  | e, [] => L.next e = 0
  | e, x :: l => L.next e = x ∧ x ≠ 0 ∧ L.Chain x l

/-- `L.BackLinked e l`: each element of `l` names its predecessor. -/
def Links.BackLinked (L : Links) : Nat → List Nat → Prop
  | _, [] => True
  | e, x :: l => L.prev x = e ∧ L.BackLinked x l

/-- Head `b` joins the table as a bucket of its own. -/
def Links.openHead (L : Links) (b : Nat) : Links where
  occupied := fun e => e = b ∨ L.occupied e
  next := Function.update L.next b 0
  prev := L.prev

/-- Overflow slot `x` joins behind `t`. -/
def Links.append (L : Links) (t x : Nat) : Links where
  occupied := fun e => e = x ∨ L.occupied e
  next := Function.update (Function.update L.next t x) x 0
  prev := Function.update L.prev x t

/-- A slot `e` for a new element of bucket `b`, and its predecessor `p`: the
head of an empty bucket, or a free overflow slot behind the last element. -/
def Links.Fresh (L : Links) (N T : Nat) (home : Nat → Nat) (b p e : Nat) : Prop :=
  (p = 0 ∧ e = b ∧ ¬ L.occupied b) ∨
    (p ≠ 0 ∧ L.occupied p ∧ L.next p = 0 ∧ home p = b ∧ N < e ∧ e < T ∧ ¬ L.occupied e)

/-- The table with a new element in slot `e` behind `p`. -/
def Links.insert (L : Links) (p e : Nat) : Links :=
  if p = 0 then L.openHead e else L.append p e

/-- The slots in `S`, heads without successors, leave the table. -/
def Links.closeHeads (L : Links) (S : Nat → Prop) : Links where
  occupied := fun e => ¬ S e ∧ L.occupied e
  next := L.next
  prev := L.prev

/-- Overflow slot `x` leaves and its neighbours are joined. -/
def Links.unlink (L : Links) (x : Nat) : Links where
  occupied := fun e => e ≠ x ∧ L.occupied e
  next := Function.update L.next (L.prev x) (L.next x)
  prev := Function.update L.prev (L.next x) (L.prev x)

/-- The table as a set of chains: from every occupied head the links visit
pairwise distinct occupied overflow slots and end, back links retrace them, and
every occupied overflow slot lies on exactly one chain. -/
structure Chained (N T : Nat) (L : Links) : Prop where
  chain : ∀ b, L.occupied b → b < N → ∃ l, L.Chain b l ∧ L.BackLinked b l ∧ l.Nodup ∧
    ∀ x ∈ l, L.occupied x ∧ N < x ∧ x < T
  cover : ∀ x, L.occupied x → N ≤ x → ∃! b, L.occupied b ∧ b < N ∧ ∃ l, L.Chain b l ∧ x ∈ l

section

variable {N T : Nat} {L L' : Links} {home rank : Nat → Nat}

theorem WellLinked.congr (h : WellLinked N T L home rank)
    (hocc : ∀ e, L'.occupied e ↔ L.occupied e)
    (hnext : ∀ e, L.occupied e → L'.next e = L.next e)
    (hprev : ∀ e, L.occupied e → N ≤ e → L'.prev e = L.prev e) :
    WellLinked N T L' home rank where
  null_free := fun h0 => h.null_free ((hocc 0).mp h0)
  overflow_null_free := fun hN => h.overflow_null_free ((hocc N).mp hN)
  lt_of_occupied := fun he => h.lt_of_occupied ((hocc _).mp he)
  next_link := by
    intro e he hne
    have he' := (hocc e).mp he
    rw [hnext e he'] at hne ⊢
    obtain ⟨hN, ho, hp⟩ := h.next_link he' hne
    exact ⟨hN, (hocc _).mpr ho, by rw [hprev _ ho hN, hp]⟩
  prev_link := by
    intro e he hN
    have he' := (hocc e).mp he
    rw [hprev e he' hN]
    obtain ⟨ho, hn⟩ := h.prev_link he' hN
    exact ⟨(hocc _).mpr ho, by rw [hnext _ ho, hn]⟩
  home_head := fun he hlt => h.home_head ((hocc _).mp he) hlt
  home_prev := by
    intro e he hN
    have he' := (hocc e).mp he
    rw [hprev e he' hN]
    exact h.home_prev he' hN
  rank_prev := by
    intro e he hN
    have he' := (hocc e).mp he
    rw [hprev e he' hN]
    exact h.rank_prev he' hN

theorem WellLinked.pos (h : WellLinked N T L home rank) {e : Nat}
    (he : L.occupied e) : 0 < e := by
  rcases Nat.eq_zero_or_pos e with rfl | hpos
  · exact absurd he h.null_free
  · exact hpos

theorem WellLinked.ne_overflow_null (h : WellLinked N T L home rank) {e : Nat}
    (he : L.occupied e) : e ≠ N := by
  rintro rfl
  exact h.overflow_null_free he

theorem WellLinked.next_ne_self (h : WellLinked N T L home rank) {e : Nat}
    (he : L.occupied e) : L.next e ≠ e := by
  intro heq
  have hne : L.next e ≠ 0 := by rw [heq]; exact (h.pos he).ne'
  obtain ⟨hN, ho, hp⟩ := h.next_link he hne
  have hlt := h.rank_prev ho hN
  rw [hp, heq] at hlt
  exact lt_irrefl _ hlt

theorem WellLinked.prev_ne_self (h : WellLinked N T L home rank) {e : Nat}
    (he : L.occupied e) (hN : N ≤ e) : L.prev e ≠ e := by
  intro heq
  have hlt := h.rank_prev he hN
  rw [heq] at hlt
  exact lt_irrefl _ hlt

theorem WellLinked.next_inj (h : WellLinked N T L home rank) {e f : Nat}
    (he : L.occupied e) (hf : L.occupied f) (hne : L.next e ≠ 0)
    (heq : L.next e = L.next f) : e = f := by
  obtain ⟨_, _, hpe⟩ := h.next_link he hne
  obtain ⟨_, _, hpf⟩ := h.next_link hf (heq ▸ hne)
  rw [← hpe, ← hpf, heq]

theorem WellLinked.openHead (h : WellLinked N T L home rank) {b : Nat}
    (hb : 0 < b) (hbN : b < N) (hNT : N ≤ T) (hfree : ¬ L.occupied b) :
    WellLinked N T (L.openHead b) (Function.update home b b) rank where
  null_free := by
    rintro (h0 | h0)
    · omega
    · exact h.null_free h0
  overflow_null_free := by
    rintro (h0 | h0)
    · omega
    · exact h.overflow_null_free h0
  lt_of_occupied := by
    rintro e (rfl | he)
    · omega
    · exact h.lt_of_occupied he
  next_link := by
    intro e he hne
    by_cases heb : e = b
    · simp [Links.openHead, heb] at hne
    · have ho : L.occupied e := he.resolve_left heb
      simp only [Links.openHead, Function.update_of_ne heb] at hne ⊢
      obtain ⟨hN, ho', hp⟩ := h.next_link ho hne
      exact ⟨hN, Or.inr ho', hp⟩
  prev_link := by
    rintro e (rfl | he) hN
    · omega
    · obtain ⟨ho, hn⟩ := h.prev_link he hN
      have hpb : L.prev e ≠ b := fun heq => hfree (heq ▸ ho)
      exact ⟨Or.inr ho, by simpa [Links.openHead, Function.update_of_ne hpb] using hn⟩
  home_head := by
    intro e he hlt
    by_cases heb : e = b
    · simp [heb]
    · rw [Function.update_of_ne heb]
      exact h.home_head (he.resolve_left heb) hlt
  home_prev := by
    rintro e (rfl | he) hN
    · omega
    · have hpb : L.prev e ≠ b := fun heq => hfree (heq ▸ (h.prev_link he hN).1)
      have heb : e ≠ b := by omega
      simpa [Links.openHead, Function.update_of_ne hpb, Function.update_of_ne heb] using
        h.home_prev he hN
  rank_prev := by
    rintro e (rfl | he) hN
    · omega
    · exact h.rank_prev he hN

theorem WellLinked.append (h : WellLinked N T L home rank) {t x : Nat}
    (ht : L.occupied t) (hlast : L.next t = 0) (hNx : N < x) (hxT : x < T)
    (hfree : ¬ L.occupied x) :
    WellLinked N T (L.append t x) (Function.update home x (home t))
      (Function.update rank x (rank t + 1)) := by
  have hxt : t ≠ x := fun heq => hfree (heq ▸ ht)
  have hx0 : x ≠ 0 := by omega
  refine ⟨?_, ?_, ?_, ?_, ?_, ?_, ?_, ?_⟩
  · rintro (h0 | h0)
    · omega
    · exact h.null_free h0
  · rintro (h0 | h0)
    · omega
    · exact h.overflow_null_free h0
  · rintro e (rfl | he)
    · exact hxT
    · exact h.lt_of_occupied he
  · intro e he hne
    by_cases hex : e = x
    · simp [Links.append, hex] at hne
    · have ho : L.occupied e := he.resolve_left hex
      by_cases het : e = t
      · subst het
        simp only [Links.append, Function.update_of_ne hex, Function.update_self]
        exact ⟨by omega, Or.inl trivial, trivial⟩
      · simp only [Links.append, Function.update_of_ne hex, Function.update_of_ne het] at hne ⊢
        obtain ⟨hN, ho', hp⟩ := h.next_link ho hne
        have hnx : L.next e ≠ x := fun heq => hfree (heq ▸ ho')
        exact ⟨hN, Or.inr ho', by rw [Function.update_of_ne hnx, hp]⟩
  · intro e he hN
    by_cases hex : e = x
    · subst hex
      simp only [Links.append, Function.update_self, Function.update_of_ne hxt]
      exact ⟨Or.inr ht, trivial⟩
    · have ho : L.occupied e := he.resolve_left hex
      obtain ⟨hop, hn⟩ := h.prev_link ho hN
      have hpx : L.prev e ≠ x := fun heq => hfree (heq ▸ hop)
      have hpt : L.prev e ≠ t := by
        intro heq
        rw [heq, hlast] at hn
        exact (h.pos ho).ne hn
      simp only [Links.append, Function.update_of_ne hex, Function.update_of_ne hpx,
        Function.update_of_ne hpt]
      exact ⟨Or.inr hop, hn⟩
  · intro e he hlt
    have hex : e ≠ x := by omega
    rw [Function.update_of_ne hex]
    exact h.home_head (he.resolve_left hex) hlt
  · intro e he hN
    by_cases hex : e = x
    · subst hex
      simp [Links.append, Function.update_of_ne hxt]
    · have ho : L.occupied e := he.resolve_left hex
      have hpx : L.prev e ≠ x := fun heq => hfree (heq ▸ (h.prev_link ho hN).1)
      simpa [Links.append, Function.update_of_ne hex, Function.update_of_ne hpx] using
        h.home_prev ho hN
  · intro e he hN
    by_cases hex : e = x
    · subst hex
      simp [Links.append, Function.update_of_ne hxt]
    · have ho : L.occupied e := he.resolve_left hex
      have hpx : L.prev e ≠ x := fun heq => hfree (heq ▸ (h.prev_link ho hN).1)
      simpa [Links.append, Function.update_of_ne hex, Function.update_of_ne hpx] using
        h.rank_prev ho hN

theorem WellLinked.insert (h : WellLinked N T L home rank) {b p e : Nat}
    (hb : 0 < b) (hbN : b < N) (hNT : N ≤ T) (hf : L.Fresh N T home b p e) :
    ∃ rank', WellLinked N T (L.insert p e) (Function.update home e b) rank' := by
  rcases hf with ⟨rfl, rfl, hfree⟩ | ⟨hp0, hp, hlast, rfl, hNe, heT, hfree⟩
  · rw [Links.insert, if_pos rfl]
    exact ⟨rank, h.openHead hb hbN hNT hfree⟩
  · rw [Links.insert, if_neg hp0]
    exact ⟨_, h.append hp hlast hNe heT hfree⟩

theorem Links.Fresh.not_occupied {b p e : Nat} (hf : L.Fresh N T home b p e) :
    ¬ L.occupied e := by
  rcases hf with ⟨_, rfl, hfree⟩ | ⟨_, _, _, _, _, _, hfree⟩ <;> exact hfree

theorem Links.Fresh.lt_total {b p e : Nat} (hf : L.Fresh N T home b p e) (hb : b < T) :
    e < T := by
  rcases hf with ⟨_, rfl, _⟩ | ⟨_, _, _, _, _, heT, _⟩
  · exact hb
  · exact heT

theorem Links.Fresh.pos {b p e : Nat} (hf : L.Fresh N T home b p e) (hb : 0 < b) : 0 < e := by
  rcases hf with ⟨_, rfl, _⟩ | ⟨_, _, _, _, hNe, _, _⟩
  · exact hb
  · omega

theorem Links.insert_occupied {p e x : Nat} :
    (L.insert p e).occupied x ↔ x = e ∨ L.occupied x := by
  unfold Links.insert
  split <;> rfl

theorem Links.insert_next_self {p e : Nat} : (L.insert p e).next e = 0 := by
  unfold Links.insert
  split <;> exact Function.update_self ..

theorem Links.insert_next {p e x : Nat} (hp : p ≠ 0) (hx : x ≠ e) :
    (L.insert p e).next x = if x = p then e else L.next x := by
  rw [Links.insert, if_neg hp]
  simp only [Links.append, Function.update_of_ne hx, Function.update_apply]

theorem Links.insert_zero_next {e x : Nat} (hx : x ≠ e) :
    (L.insert 0 e).next x = L.next x := by
  rw [Links.insert, if_pos rfl]
  exact Function.update_of_ne hx ..

theorem Links.insert_prev {p e x : Nat} (hx : x ≠ e) :
    (L.insert p e).prev x = L.prev x := by
  unfold Links.insert
  split
  · rfl
  · exact Function.update_of_ne hx ..

theorem Links.insert_prev_self {p e : Nat} (hp : p ≠ 0) : (L.insert p e).prev e = p := by
  rw [Links.insert, if_neg hp]
  exact Function.update_self ..

theorem WellLinked.closeHeads (h : WellLinked N T L home rank) {S : Nat → Prop}
    (hS : ∀ e, L.occupied e → S e → e < N ∧ L.next e = 0) :
    WellLinked N T (L.closeHeads S) home rank where
  null_free := fun h0 => h.null_free h0.2
  overflow_null_free := fun h0 => h.overflow_null_free h0.2
  lt_of_occupied := fun he => h.lt_of_occupied he.2
  next_link := by
    rintro e ⟨_, he⟩ hne
    obtain ⟨hN, ho, hp⟩ := h.next_link he hne
    have hnS : ¬ S (L.next e) := fun hs => absurd (hS _ ho hs).1 (Nat.not_lt.mpr hN)
    exact ⟨hN, ⟨hnS, ho⟩, hp⟩
  prev_link := by
    rintro e ⟨_, he⟩ hN
    obtain ⟨ho, hn⟩ := h.prev_link he hN
    refine ⟨⟨?_, ho⟩, hn⟩
    intro (hs : S (L.prev e))
    rw [(hS _ ho hs).2] at hn
    exact (h.pos he).ne hn
  home_head := fun he hlt => h.home_head he.2 hlt
  home_prev := fun he hN => h.home_prev he.2 hN
  rank_prev := fun he hN => h.rank_prev he.2 hN

theorem WellLinked.unlink (h : WellLinked N T L home rank) {x : Nat}
    (hx : L.occupied x) (hNx : N ≤ x) :
    WellLinked N T (L.unlink x) home rank := by
  obtain ⟨hop, hnp⟩ := h.prev_link hx hNx
  have hpx : L.prev x ≠ x := h.prev_ne_self hx hNx
  have hnx : L.next x ≠ x := h.next_ne_self hx
  -- only the successor of `x` has `x` as its predecessor
  have hprev_of_ne : ∀ e, L.occupied e → N ≤ e → e ≠ L.next x → L.prev e ≠ x := by
    intro e he hN hne heq
    have := (h.prev_link he hN).2
    rw [heq] at this
    exact hne this.symm
  refine ⟨fun h0 => h.null_free h0.2, fun h0 => h.overflow_null_free h0.2,
    fun he => h.lt_of_occupied he.2, ?_, ?_, fun he hlt => h.home_head he.2 hlt, ?_, ?_⟩
  · rintro e ⟨hex, he⟩ hne
    by_cases hep : e = L.prev x
    · subst hep
      simp only [Links.unlink, Function.update_self] at hne ⊢
      obtain ⟨hN, ho, _⟩ := h.next_link hx hne
      exact ⟨hN, ⟨hnx, ho⟩, trivial⟩
    · simp only [Links.unlink, Function.update_of_ne hep] at hne ⊢
      obtain ⟨hN, ho, hp⟩ := h.next_link he hne
      have hnex : L.next e ≠ x := by
        intro heq
        rw [heq] at hp
        exact hep hp.symm
      have hne2 : L.next e ≠ L.next x := fun heq => hex (h.next_inj he hx hne heq)
      exact ⟨hN, ⟨hnex, ho⟩, by rw [Function.update_of_ne hne2, hp]⟩
  · rintro e ⟨hex, he⟩ hN
    by_cases hen : e = L.next x
    · subst hen
      simp only [Links.unlink, Function.update_self]
      exact ⟨⟨hpx, hop⟩, trivial⟩
    · obtain ⟨ho, hn⟩ := h.prev_link he hN
      have hpne : L.prev e ≠ x := hprev_of_ne e he hN hen
      have hpp : L.prev e ≠ L.prev x := by
        intro heq
        rw [heq, hnp] at hn
        exact hex hn.symm
      simp only [Links.unlink, Function.update_of_ne hen, Function.update_of_ne hpp]
      exact ⟨⟨hpne, ho⟩, hn⟩
  · rintro e ⟨hex, he⟩ hN
    by_cases hen : e = L.next x
    · have hnz : L.next x ≠ 0 := by rw [← hen]; exact (h.pos he).ne'
      obtain ⟨_, _, hp⟩ := h.next_link hx hnz
      simp only [Links.unlink, hen, Function.update_self]
      rw [← h.home_prev hx hNx, ← hen, h.home_prev he hN, hen, hp]
    · simpa [Links.unlink, Function.update_of_ne hen] using h.home_prev he hN
  · rintro e ⟨hex, he⟩ hN
    by_cases hen : e = L.next x
    · have hnz : L.next x ≠ 0 := by rw [← hen]; exact (h.pos he).ne'
      obtain ⟨_, _, hp⟩ := h.next_link hx hnz
      have h1 := h.rank_prev hx hNx
      have h2 := h.rank_prev he hN
      rw [hen, hp] at h2
      simp only [Links.unlink, hen, Function.update_self]
      omega
    · simpa [Links.unlink, Function.update_of_ne hen] using h.rank_prev he hN

/-- The overflow slots of higher rank, which the walk from a slot can still
visit. -/
noncomputable def above (T : Nat) (L : Links) (rank : Nat → Nat) (e : Nat) : Finset Nat := by
  classical
  exact (Finset.range T).filter fun x => L.occupied x ∧ rank e < rank x

theorem WellLinked.above_next_ssubset (h : WellLinked N T L home rank) {e : Nat}
    (he : L.occupied e) (hne : L.next e ≠ 0) :
    above T L rank (L.next e) ⊂ above T L rank e := by
  classical
  obtain ⟨hN, ho, hp⟩ := h.next_link he hne
  have hlt := h.rank_prev ho hN
  rw [hp] at hlt
  rw [Finset.ssubset_iff_of_subset]
  · refine ⟨L.next e, ?_, ?_⟩
    · simp [above, ho, hlt, h.lt_of_occupied ho]
    · simp [above]
  · intro x hx
    simp only [above, Finset.mem_filter, Finset.mem_range] at hx ⊢
    exact ⟨hx.1, hx.2.1, by omega⟩

theorem WellLinked.exists_chain (h : WellLinked N T L home rank) {e : Nat}
    (he : L.occupied e) :
    ∃ l, L.Chain e l ∧ L.BackLinked e l ∧
      (∀ x ∈ l, L.occupied x ∧ N ≤ x ∧ home x = home e ∧ rank e < rank x) ∧ l.Nodup := by
  induction hs : above T L rank e using Finset.strongInduction generalizing e with
  | H s ih =>
      by_cases hne : L.next e = 0
      · exact ⟨[], hne, trivial, by simp, List.nodup_nil⟩
      · obtain ⟨hN, ho, hp⟩ := h.next_link he hne
        have hlt := h.rank_prev ho hN
        have hhome := h.home_prev ho hN
        rw [hp] at hlt hhome
        obtain ⟨l, hchain, hback, hmem, hnd⟩ :=
          ih _ (hs ▸ h.above_next_ssubset he hne) ho rfl
        refine ⟨L.next e :: l, ⟨rfl, hne, hchain⟩, ⟨hp, hback⟩, ?_, ?_⟩
        · intro x hx
          rcases List.mem_cons.mp hx with rfl | hx
          · exact ⟨ho, hN, hhome, hlt⟩
          · obtain ⟨hxo, hxN, hxh, hxr⟩ := hmem x hx
            exact ⟨hxo, hxN, hxh.trans hhome, hlt.trans hxr⟩
        · refine List.nodup_cons.mpr ⟨fun hx => ?_, hnd⟩
          exact lt_irrefl _ (hmem _ hx).2.2.2

theorem Links.Chain.unique {l l' : List Nat} {e : Nat} (h : L.Chain e l)
    (h' : L.Chain e l') : l = l' := by
  induction l generalizing e l' with
  | nil =>
      cases l' with
      | nil => rfl
      | cons y l' => exact absurd (h'.1.symm.trans h) h'.2.1
  | cons x l ih =>
      cases l' with
      | nil => exact absurd (h.1.symm.trans h') h.2.1
      | cons y l' =>
          have hxy : x = y := h.1.symm.trans h'.1
          subst hxy
          rw [ih h.2.2 h'.2.2]

theorem Links.Chain.next_mem {l : List Nat} {e y : Nat} (h : L.Chain e l)
    (hy : y ∈ l) (hne : L.next y ≠ 0) : L.next y ∈ l := by
  induction l generalizing e with
  | nil => simp at hy
  | cons x l ih =>
      rcases List.mem_cons.mp hy with rfl | hy
      · cases l with
        | nil => exact absurd h.2.2 hne
        | cons z l => simp [h.2.2.1]
      · exact List.mem_cons_of_mem _ (ih h.2.2 hy)

theorem WellLinked.mem_home_chain (h : WellLinked N T L home rank) {x : Nat}
    (hx : L.occupied x) (hN : N ≤ x) :
    L.occupied (home x) ∧ home x < N ∧ ∀ l, L.Chain (home x) l → x ∈ l := by
  induction hr : rank x using Nat.strong_induction_on generalizing x with
  | _ r ih =>
      obtain ⟨ho, hn⟩ := h.prev_link hx hN
      have hhome := h.home_prev hx hN
      by_cases hpN : N ≤ L.prev x
      · obtain ⟨hoh, hlt, hmem⟩ := ih _ (hr ▸ h.rank_prev hx hN) ho hpN rfl
        rw [← hhome] at hoh hlt hmem
        refine ⟨hoh, hlt, fun l hl => ?_⟩
        have hne : L.next (L.prev x) ≠ 0 := by rw [hn]; exact (h.pos hx).ne'
        exact hn ▸ hl.next_mem (hmem l hl) hne
      · have hlt : L.prev x < N := by omega
        have heq : home x = L.prev x := hhome.trans (h.home_head ho hlt)
        rw [heq]
        refine ⟨ho, hlt, fun l hl => ?_⟩
        cases l with
        | nil => exact absurd (hn.symm.trans hl) (h.pos hx).ne'
        | cons y l =>
            have hy : y = x := hl.1.symm.trans hn
            simp [hy]

theorem WellLinked.exists_last (h : WellLinked N T L home rank) {e : Nat}
    (he : L.occupied e) {l : List Nat} (hl : L.Chain e l) :
    L.occupied (l.getLastD e) ∧ L.next (l.getLastD e) = 0 ∧
      home (l.getLastD e) = home e := by
  induction l generalizing e with
  | nil => exact ⟨he, hl, rfl⟩
  | cons x l ih =>
      obtain ⟨hne, hx0, hl⟩ := hl
      subst hne
      obtain ⟨hN, ho, hp⟩ := h.next_link he hx0
      have hhome := h.home_prev ho hN
      rw [hp] at hhome
      obtain ⟨hlast, hend, hh⟩ := ih ho hl
      rw [List.getLastD_cons]
      exact ⟨hlast, hend, hh.trans hhome⟩

theorem WellLinked.chain_length (h : WellLinked N T L home rank) {e : Nat}
    (he : L.occupied e) {l : List Nat} (hl : L.Chain e l) : l.length < T := by
  classical
  obtain ⟨l', hl', _, hmem, hnd⟩ := h.exists_chain he
  obtain rfl := hl.unique hl'
  have hsub : l.toFinset ⊆ (Finset.range T).erase 0 := by
    intro x hx
    have hxo := (hmem x (List.mem_toFinset.mp hx)).1
    simp [(h.pos hxo).ne', h.lt_of_occupied hxo]
  have hcard := Finset.card_le_card hsub
  have hT : 0 < T := (Nat.zero_le e).trans_lt (h.lt_of_occupied he)
  rw [List.toFinset_card_of_nodup hnd, Finset.card_erase_of_mem (by simpa using hT),
    Finset.card_range] at hcard
  omega

theorem WellLinked.home_of_chain (h : WellLinked N T L home rank) {b x : Nat} {l : List Nat}
    (hb : L.occupied b) (hbN : b < N) (hl : L.Chain b l) (hx : x ∈ b :: l) :
    L.occupied x ∧ home x = b := by
  obtain ⟨l', hl', _, hmem, _⟩ := h.exists_chain hb
  obtain rfl := hl.unique hl'
  rcases List.mem_cons.mp hx with rfl | hx
  · exact ⟨hb, h.home_head hb hbN⟩
  · obtain ⟨ho, _, hh, _⟩ := hmem x hx
    exact ⟨ho, hh.trans (h.home_head hb hbN)⟩

theorem WellLinked.on_home_chain (h : WellLinked N T L home rank) {x : Nat} (hx : L.occupied x) :
    L.occupied (home x) ∧ home x < N ∧ ∃ l, L.Chain (home x) l ∧ x ∈ home x :: l := by
  rcases Nat.lt_or_ge x N with hN | hN
  · obtain ⟨l, hl, _⟩ := h.exists_chain hx
    rw [h.home_head hx hN]
    exact ⟨hx, hN, l, hl, List.mem_cons_self⟩
  · obtain ⟨ho, hlt, hmem⟩ := h.mem_home_chain hx hN
    obtain ⟨l, hl, _⟩ := h.exists_chain ho
    exact ⟨ho, hlt, l, hl, List.mem_cons_of_mem _ (hmem l hl)⟩

theorem WellLinked.chained (h : WellLinked N T L home rank) : Chained N T L where
  chain := by
    intro b hb _
    obtain ⟨l, hl, hback, hmem, hnd⟩ := h.exists_chain hb
    refine ⟨l, hl, hback, hnd, fun x hx => ?_⟩
    obtain ⟨ho, hN, _⟩ := hmem x hx
    exact ⟨ho, lt_of_le_of_ne hN (h.ne_overflow_null ho).symm, h.lt_of_occupied ho⟩
  cover := by
    intro x hx hN
    obtain ⟨ho, hlt, hmem⟩ := h.mem_home_chain hx hN
    obtain ⟨l, hl, _⟩ := h.exists_chain ho
    refine ⟨home x, ⟨ho, hlt, l, hl, hmem l hl⟩, ?_⟩
    rintro b ⟨hb, hbN, l', hl', hx'⟩
    exact (h.home_of_chain hb hbN hl' (List.mem_cons_of_mem b hx')).2.symm

end

end LibraDevice.LinkedChains
