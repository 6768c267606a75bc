import Mathlib.Data.List.Induction

/-!
Runs of a labelled transition system, their invariants and simulations; a property
of the steps of a deterministic program, each in the state it is taken in; and a
program that answers messages with effects beside one that watches it.
-/

namespace LibraDevice.StepRun

universe u v w

variable {σ : Type u} {τ : Type v} {α : Type w}

/-- `Run step init as s`: the steps `as`, in order, lead from `init` to `s`. -/
inductive Run (step : σ → α → σ → Prop) (init : σ) : List α → σ → Prop
  | nil : Run step init [] init
  | snoc {as : List α} {s s' : σ} {a : α} :
      Run step init as s → step s a s' → Run step init (as ++ [a]) s'

/-- The steps taken where the condition `ok` holds beforehand. -/
def Guarded (ok : σ → α → Prop) (step : σ → α → σ → Prop) : σ → α → σ → Prop :=
  fun s a s' => ok s a ∧ step s a s'

theorem Run.last {step : σ → α → σ → Prop} {init s' : σ} {as : List α} {a : α}
    (h : Run step init (as ++ [a]) s') : ∃ s, Run step init as s ∧ step s a s' := by
  generalize hl : as ++ [a] = l at h
  cases h with
  | nil => exact absurd hl (by simp)
  | snoc h hs =>
      obtain ⟨rfl, ha⟩ := List.append_inj' hl rfl
      cases ha
      exact ⟨_, h, hs⟩

theorem Run.eq_of_nil {step : σ → α → σ → Prop} {init s : σ} (h : Run step init [] s) :
    s = init := by
  generalize hl : ([] : List α) = l at h
  cases h with
  | nil => rfl
  | snoc _ _ => exact absurd hl (by simp)

theorem Run.eq_foldl {next : σ → α → σ} {init s : σ} {as : List α}
    (h : Run (fun s a s' => s' = next s a) init as s) : s = as.foldl next init := by
  induction h with
  | nil => rfl
  | snoc _ hs ih =>
      rw [List.foldl_append, ← ih]
      exact hs

theorem Run.invariant {step : σ → α → σ → Prop} {I : σ → Prop} {init s : σ} {as : List α}
    (h0 : I init) (hstep : ∀ s a s', I s → step s a s' → I s') (h : Run step init as s) :
    I s := by
  induction h with
  | nil => exact h0
  | snoc _ hs ih => exact hstep _ _ _ ih hs

theorem Run.of_foldlM {step : σ → α → σ → Prop} {f : σ → α → Option σ}
    (hf : ∀ s a s', f s a = some s' → step s a s') {init s : σ} {as : List α}
    (h : as.foldlM f init = some s) : Run step init as s := by
  induction as using List.reverseRecOn generalizing s with
  | nil =>
      cases h
      exact .nil
  | append_singleton as a ih =>
      rw [List.foldlM_append, Option.bind_eq_bind, Option.bind_eq_some_iff] at h
      obtain ⟨s', has, ha⟩ := h
      simp only [List.foldlM_cons, List.foldlM_nil, bind_pure] at ha
      exact (ih has).snoc (hf _ _ _ ha)

theorem Run.of_guarded_foldlM {ok : σ → α → Prop} [∀ s a, Decidable (ok s a)]
    {step : σ → α → σ → Prop} {f : σ → α → Option σ}
    (hf : ∀ s a s', f s a = some s' → step s a s') {init s : σ} {as : List α}
    (h : as.foldlM (fun s a => if ok s a then f s a else none) init = some s) :
    Run (Guarded ok step) init as s := by
  refine Run.of_foldlM ?_ h
  intro s a s' hs
  rw [Option.ite_none_right_eq_some] at hs
  exact ⟨hs.1, hf s a s' hs.2⟩

theorem Run.unguarded {ok : σ → α → Prop} {step : σ → α → σ → Prop} {init s : σ} {as : List α}
    (h : Run (Guarded ok step) init as s) : Run step init as s := by
  induction h with
  | nil => exact .nil
  | snoc _ hs ih => exact ih.snoc hs.2

theorem Run.guarded {step : σ → α → σ → Prop} {init s : σ} {as : List α}
    (h : Run step init as s) {P : α → Prop} (hP : ∀ a ∈ as, P a) :
    Run (Guarded (fun _ a => P a) step) init as s := by
  induction h with
  | nil => exact .nil
  | @snoc as _ _ a _ hs ih =>
      have hlast : P a := hP a (List.mem_append_right as (List.mem_singleton.mpr rfl))
      exact (ih fun b hb => hP b (List.mem_append_left [a] hb)).snoc ⟨hlast, hs⟩

theorem Run.guarded_congr {ok ok' : σ → α → Prop} (hok : ∀ s a, ok s a ↔ ok' s a)
    {step : σ → α → σ → Prop} {init s : σ} {as : List α} :
    Run (Guarded ok step) init as s ↔ Run (Guarded ok' step) init as s := by
  have hsame : Guarded ok step = Guarded ok' step := by
    funext s a s'
    exact propext (and_congr_left' (hok s a))
  rw [hsame]

/-- Steps matched by an abstract system make a run of that system. -/
theorem Run.simulation {step : σ → α → σ → Prop} {astep : τ → α → τ → Prop} {R : σ → τ → Prop}
    {init s : σ} {ainit : τ} {as : List α} (h0 : R init ainit)
    (hsim : ∀ s t a s', R s t → step s a s' → ∃ t', astep t a t' ∧ R s' t')
    (h : Run step init as s) : ∃ t, Run astep ainit as t ∧ R s t := by
  induction h with
  | nil => exact ⟨ainit, .nil, h0⟩
  | snoc _ hs ih =>
      obtain ⟨t, ht, hr⟩ := ih
      obtain ⟨t', hs', hr'⟩ := hsim _ _ _ _ hr hs
      exact ⟨t', ht.snoc hs', hr'⟩

end LibraDevice.StepRun

namespace LibraDevice.StepWise

universe u v

variable {σ : Type u} {α : Type v}

/-- Every step of the sequence has the property. -/
def Throughout (next : σ → α → σ) (P : σ → α → Prop) : σ → List α → Prop
  | _, [] => True
  | s, a :: as => P s a ∧ Throughout next P (next s a) as

theorem invariant {next : σ → α → σ} {P : σ → α → Prop} {I : σ → Prop}
    (hkeep : ∀ s a, I s → P s a → I (next s a)) {s : σ} (hs : I s) {as : List α}
    (h : Throughout next P s as) : I (as.foldl next s) := by
  induction as generalizing s with
  | nil => exact hs
  | cons a as ih => exact ih (hkeep s a hs h.1) h.2

theorem mono {next : σ → α → σ} {P Q : σ → α → Prop} {I : σ → Prop}
    (hkeep : ∀ s a, I s → P s a → I (next s a)) (himp : ∀ s a, I s → P s a → Q s a)
    {s : σ} (hs : I s) {as : List α} (h : Throughout next P s as) :
    Throughout next Q s as := by
  induction as generalizing s with
  | nil => trivial
  | cons a as ih => exact ⟨himp s a hs h.1, ih (hkeep s a hs h.1) h.2⟩

/-- Two properties that agree under an invariant hold throughout the same
sequences, if the steps with the one keep the invariant. -/
theorem congr {next : σ → α → σ} {P Q : σ → α → Prop} {I : σ → Prop}
    (hkeep : ∀ s a, I s → Q s a → I (next s a)) (hiff : ∀ s a, I s → (P s a ↔ Q s a))
    {s : σ} (hs : I s) {as : List α} :
    Throughout next P s as ↔ Throughout next Q s as := by
  constructor
  · apply mono (I := I) _ (fun s a hi hp => (hiff s a hi).mp hp) hs
    exact fun s a hi hp => hkeep s a hi ((hiff s a hi).mp hp)
  · exact mono hkeep (fun s a hi hq => (hiff s a hi).mpr hq) hs

end LibraDevice.StepWise

namespace LibraDevice.Watch

open StepRun

universe u

variable {σ τ μ ε ρ : Type u}

/-- `watch` is given the state before the message, and `record` what the watcher then
remembers. -/
structure Watcher (σ τ μ ε ρ : Type u) where
  react : σ → μ → σ × List ε
  watch : τ → σ → μ → List ε → τ
  record : τ → σ → μ → List ε → ρ

structure Watched (σ τ ρ : Type u) where
  prog : σ
  seen : τ
  log : List ρ

namespace Watcher

variable (w : Watcher σ τ μ ε ρ)

def next (s : Watched σ τ ρ) (m : μ) : Watched σ τ ρ where
  prog := (w.react s.prog m).1
  seen := w.watch s.seen s.prog m (w.react s.prog m).2
  log := s.log ++
    [w.record (w.watch s.seen s.prog m (w.react s.prog m).2) s.prog m (w.react s.prog m).2]

def Step (s : Watched σ τ ρ) (m : μ) (s' : Watched σ τ ρ) : Prop :=
  w.next s m = s'

/-- What one answer keeps, and what is true of each answer, of whole runs. -/
theorem run_right {w : Watcher σ τ μ ε ρ} {I : σ → τ → Prop} {R : ρ → Prop}
    {G : Watched σ τ ρ → μ → Prop} {p : σ} {t : τ} {s : Watched σ τ ρ} {ms : List μ}
    (h0 : I p t)
    (hkeep : ∀ s m, I s.prog s.seen → G s m → I (w.next s m).prog (w.next s m).seen)
    (hright : ∀ s m, I s.prog s.seen → G s m →
      R (w.record (w.next s m).seen s.prog m (w.react s.prog m).2))
    (h : Run (Guarded G w.Step) ⟨p, t, []⟩ ms s) : I s.prog s.seen ∧ ∀ r ∈ s.log, R r := by
  refine h.invariant (I := fun s => I s.prog s.seen ∧ ∀ r ∈ s.log, R r) ⟨h0, ?_⟩ ?_
  · intro r hr
    cases hr
  · rintro s m s' ⟨hi, hlog⟩ ⟨hg, rfl⟩
    refine ⟨hkeep s m hi hg, fun r hr => ?_⟩
    rcases List.mem_append.mp hr with hold | hnew
    · exact hlog r hold
    · rw [List.mem_singleton.mp hnew]
      exact hright s m hi hg

end Watcher

end LibraDevice.Watch
