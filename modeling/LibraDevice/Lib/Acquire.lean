/-!
Calls that acquire things one after the other and stop at the first refusal.
-/

namespace LibraDevice.Acquire

universe u v w

variable {σ : Type u} {τ : Type u} {ε : Type v} {α : Type w}

/-- Whether a call came to its end, the state it left and what it acquired. -/
structure Outcome (σ : Type u) (ε : Type v) where
  ok : Bool
  state : σ
  acquired : List ε

namespace Outcome

def done (s : σ) (es : List ε) : Outcome σ ε := ⟨true, s, es⟩

def fail (s : σ) : Outcome σ ε := ⟨false, s, []⟩

def map (f : σ → τ) (o : Outcome σ ε) : Outcome τ ε := ⟨o.ok, f o.state, o.acquired⟩

def andThen (o : Outcome σ ε) (f : σ → Outcome σ ε) : Outcome σ ε :=
  if o.ok then ⟨(f o.state).ok, (f o.state).state, o.acquired ++ (f o.state).acquired⟩ else o

/-- One step for each member of a list. -/
def each (step : α → σ → Outcome σ ε) : List α → σ → Outcome σ ε
  | [], s => done s []
  | a :: as, s => (step a s).andThen (each step as)

/-- What was acquired has the property `live` in the state that was left. -/
def Keeps (live : σ → ε → Prop) (o : Outcome σ ε) : Prop :=
  ∀ e ∈ o.acquired, live o.state e

/-- A step acquires one thing, or nothing if it is refused. -/
structure Single (o : Outcome σ ε) : Prop where
  ok : o.ok = true → o.acquired ≠ []
  fail : o.ok = false → o.acquired = []

variable {o : Outcome σ ε} {f : σ → Outcome σ ε} {live : σ → ε → Prop}

theorem andThen_of_ok (h : o.ok = true) : o.andThen f =
    ⟨(f o.state).ok, (f o.state).state, o.acquired ++ (f o.state).acquired⟩ := by
  rw [andThen, if_pos h]

theorem andThen_of_fail (h : o.ok = false) : o.andThen f = o := by
  rw [andThen, h]
  rfl

theorem Keeps.andThen (h : o.Keeps live) (hf : (f o.state).Keeps live)
    (hkeep : ∀ e, live o.state e → live (f o.state).state e) : (o.andThen f).Keeps live := by
  intro e he
  cases hok : o.ok with
  | false =>
      rw [andThen_of_fail hok] at he ⊢
      exact h e he
  | true =>
      rw [andThen_of_ok hok] at he ⊢
      rcases List.mem_append.mp he with hfirst | hsecond
      · exact hkeep e (h e hfirst)
      · exact hf e hsecond

theorem each_acquired_eq_nil {step : α → σ → Outcome σ ε} {as : List α} {s : σ}
    (hsingle : ∀ a s, (step a s).Single) (hfail : (each step as s).ok = false) :
    (each step as s).acquired = [] ↔ ∃ a, as.head? = some a ∧ (step a s).ok = false := by
  cases as with
  | nil => cases hfail
  | cons a as =>
      rw [each] at hfail ⊢
      cases hok : (step a s).ok with
      | false =>
          rw [andThen_of_fail hok]
          exact ⟨fun _ => ⟨a, rfl, hok⟩, fun _ => (hsingle a s).fail hok⟩
      | true =>
          rw [andThen_of_ok hok]
          constructor
          · intro hnil
            exact absurd (List.append_eq_nil_iff.mp hnil).1 ((hsingle a s).ok hok)
          · rintro ⟨a', ha', hrefused⟩
            cases ha'
            rw [hok] at hrefused
            cases hrefused

theorem each_invariant {step : α → σ → Outcome σ ε} {P : σ → Prop} {as : List α} {s : σ}
    (hkeep : ∀ a s, P s → P (step a s).state) (h : P s) : P (each step as s).state := by
  induction as generalizing s with
  | nil => exact h
  | cons a as ih =>
      rw [each]
      have hfirst := hkeep a s h
      cases hok : (step a s).ok with
      | false =>
          rw [andThen_of_fail hok]
          exact hfirst
      | true =>
          rw [andThen_of_ok hok]
          exact ih hfirst

theorem mem_each_acquired {step : α → σ → Outcome σ ε} {as : List α} {s : σ} {e : ε}
    (h : e ∈ (each step as s).acquired) : ∃ a ∈ as, ∃ s', e ∈ (step a s').acquired := by
  induction as generalizing s with
  | nil => cases h
  | cons a as ih =>
      rw [each] at h
      cases hok : (step a s).ok with
      | false =>
          rw [andThen_of_fail hok] at h
          exact ⟨a, List.mem_cons_self, s, h⟩
      | true =>
          rw [andThen_of_ok hok] at h
          rcases List.mem_append.mp h with hfirst | hrest
          · exact ⟨a, List.mem_cons_self, s, hfirst⟩
          · obtain ⟨a', ha', s', hs'⟩ := ih hrest
            exact ⟨a', List.mem_cons_of_mem a ha', s', hs'⟩

theorem each_keeps {step : α → σ → Outcome σ ε} {as : List α} {s : σ}
    (hstep : ∀ a s, (step a s).Keeps live)
    (hkeep : ∀ a s e, live s e → live (step a s).state e) : (each step as s).Keeps live := by
  induction as generalizing s with
  | nil =>
      intro e he
      cases he
  | cons a as ih =>
      refine (hstep a s).andThen ih fun e he => ?_
      exact each_invariant (P := fun s => live s e) (fun a s => hkeep a s e) he

end Outcome

end LibraDevice.Acquire
