import LibraDevice.Lib.Bytes

/-!
A walk over records that begin with their length and are padded to four bytes,
as far as the length that remains allows. A visit may end the walk.
-/

namespace LibraDevice.Records

open LibraDevice.Bytes

universe u v

/-- The length with the padding. -/
def align (n : Nat) : Nat :=
  (n + 3) / 4 * 4

theorem le_align (n : Nat) : n ≤ align n := by
  rw [align]
  omega

theorem align_of_dvd {n : Nat} (h : 4 ∣ n) : align n = n := by
  rw [align]
  omega

theorem align_dvd (n : Nat) : 4 ∣ align n :=
  Nat.dvd_mul_left 4 _

theorem align_le {n len : Nat} (hn : n ≤ len) (hlen : 4 ∣ len) : align n ≤ len := by
  rw [align]
  omega

/-- What comes of a visit: no result, the end of the walk, or the next record. -/
inductive Visit (σ : Type u)
  | fault
  | done (s : σ)
  | next (s : σ)

/-- The same outcome, with related results. -/
def Visit.Rel {σ : Type u} {τ : Type v} (R : σ → τ → Prop) : Visit σ → Visit τ → Prop
  | .fault, .fault => True
  | .done s, .done t | .next s, .next t => R s t
  | _, _ => False

section

variable {σ : Type u} (size : Ptr → Nat) (least : Nat) (visit : Ptr → Nat → σ → Visit σ)

def walk : Nat → Ptr → Nat → σ → Option σ
  | 0, _, _, _ => none
  | fuel + 1, p, len, s =>
      if least ≤ len ∧ least ≤ size p ∧ size p ≤ len then
        match visit p len s with
        | .fault => none
        | .done s => some s
        | .next s =>
            -- the remaining length must not wrap around
            if align (size p) ≤ len then
              walk fuel (p.advance (align (size p))) (len - align (size p)) s
            else none
      else some s

/-- The walk from a pointer, with `len` bytes remaining. -/
def records (p : Ptr) (len : Nat) (s : σ) : Option σ :=
  walk size least visit (len + 1) p len s

end

section

variable {σ : Type u} {size : Ptr → Nat} {least : Nat} {visit : Ptr → Nat → σ → Visit σ}
  {p : Ptr} {len : Nat} {s : σ}

theorem walk_fuel (hleast : 0 < least) {fuel fuel' : Nat} (h : len < fuel) (h' : len < fuel') :
    walk size least visit fuel p len s = walk size least visit fuel' p len s := by
  induction fuel generalizing p len s fuel' with
  | zero => cases h
  | succ fuel ih =>
      cases fuel' with
      | zero => cases h'
      | succ fuel' =>
          simp only [walk]
          split
          · next hok =>
              cases visit p len s with
              | fault => rfl
              | done s => rfl
              | next s =>
                  simp only
                  split
                  · have hpos : 0 < align (size p) :=
                      Nat.lt_of_lt_of_le (Nat.lt_of_lt_of_le hleast hok.2.1) (le_align _)
                    exact ih (by omega) (by omega)
                  · rfl
          · rfl

theorem records_eq (hleast : 0 < least) :
    records size least visit p len s =
      if least ≤ len ∧ least ≤ size p ∧ size p ≤ len then
        match visit p len s with
        | .fault => none
        | .done s => some s
        | .next s =>
            if align (size p) ≤ len then
              records size least visit (p.advance (align (size p))) (len - align (size p)) s
            else none
      else some s := by
  rw [records, walk]
  split
  · next hok =>
      cases visit p len s with
      | fault => rfl
      | done s => rfl
      | next s =>
          simp only
          split
          · have hpos : 0 < align (size p) :=
              Nat.lt_of_lt_of_le (Nat.lt_of_lt_of_le hleast hok.2.1) (le_align _)
            exact walk_fuel hleast (by omega) (Nat.lt_succ_self _)
          · rfl
  · rfl

theorem records_stop (hstop : ¬ (least ≤ len ∧ least ≤ size p ∧ size p ≤ len)) :
    records size least visit p len s = some s := by
  rw [records, walk, if_neg hstop]

theorem records_cat (hleast : 0 < least) {record : List Byte} {rest : Ptr} {n : Nat}
    (hsize : align (size (cat record rest)) = record.length)
    (hmin : least ≤ size (cat record rest)) :
    records size least visit (cat record rest) (record.length + n) s =
      match visit (cat record rest) (record.length + n) s with
      | .fault => none
      | .done s => some s
      | .next s => records size least visit rest n s := by
  have hle : size (cat record rest) ≤ record.length := hsize ▸ le_align _
  rw [records_eq hleast, if_pos ⟨by omega, hmin, by omega⟩, hsize, cat_advance,
    Nat.add_sub_cancel_left]
  simp only [if_pos (Nat.le_add_right record.length n)]

/-- Where every length is padded, a walk without faults has a result, and keeps
what each visit keeps. -/
theorem records_invariant (hleast : 0 < least) {P : σ → Prop}
    (hvisit : ∀ p len s, P s → ∃ s', P s' ∧
      (visit p len s = .next s' ∨ visit p len s = .done s'))
    (hlen : 4 ∣ len) (hs : P s) : ∃ s', records size least visit p len s = some s' ∧ P s' := by
  induction len using Nat.strongRecOn generalizing p s with
  | ind len ih =>
      rw [records_eq hleast]
      split
      · next hok =>
          have hle : align (size p) ≤ len := align_le hok.2.2 hlen
          have hpos : 0 < align (size p) :=
            Nat.lt_of_lt_of_le (Nat.lt_of_lt_of_le hleast hok.2.1) (le_align _)
          obtain ⟨s', hs', hnext | hdone⟩ := hvisit p len s hs
          · rw [hnext]
            simp only [if_pos hle]
            exact ih _ (by omega) (Nat.dvd_sub hlen (align_dvd _)) hs'
          · rw [hdone]
            exact ⟨s', rfl, hs'⟩
      · exact ⟨s, rfl, hs⟩

end

end LibraDevice.Records
