import Mathlib.Data.List.Basic

/-!
A list of rules that is read by first match: the first rule that selects a packet says
what is done with it.
-/

namespace LibraDevice.RuleList

universe u v w

variable {ρ : Type u} {π : Type v} {α : Type w} (sel : ρ → π → Bool)

/-- The first rule that selects the packet. -/
def first (rules : List ρ) (p : π) : Option ρ :=
  rules.find? fun r => sel r p

/-- No rule of the list selects the packet. -/
def Skips (rules : List ρ) (p : π) : Prop :=
  ∀ r ∈ rules, sel r p = false

variable {sel}

theorem first_skip {rules : List ρ} {p : π} (h : Skips sel rules p) (rest : List ρ) :
    first sel (rules ++ rest) p = first sel rest p := by
  have hnone : rules.find? (fun r => sel r p) = none := by
    apply List.find?_eq_none.mpr
    intro r hr
    simp [h r hr]
  rw [first, first, List.find?_append, hnone, Option.none_or]

theorem first_cons_of_sel {r : ρ} {p : π} (h : sel r p = true) (rest : List ρ) :
    first sel (r :: rest) p = some r := by
  simp [first, h]

theorem first_cons_of_not_sel {r : ρ} {p : π} (h : sel r p = false) (rest : List ρ) :
    first sel (r :: rest) p = first sel rest p := by
  simp [first, h]

theorem first_append_skip {skipped : List ρ} {p : π} (h : Skips sel skipped p)
    (rules rest : List ρ) :
    first sel (rules ++ (skipped ++ rest)) p = first sel (rules ++ rest) p := by
  induction rules with
  | nil => exact first_skip h rest
  | cons r rules ih =>
      rw [List.cons_append, List.cons_append]
      rcases hsel : sel r p with _ | _
      · rw [first_cons_of_not_sel hsel, first_cons_of_not_sel hsel]
        exact ih
      · rw [first_cons_of_sel hsel, first_cons_of_sel hsel]

theorem map_first_uniform {does : ρ → α} {a : α} {rules : List ρ} {last : ρ} {p : π}
    (hdoes : ∀ r ∈ rules, does r = a) (hlast : sel last p = true) (rest : List ρ) :
    (first sel (rules ++ last :: rest) p).map does =
      some (if rules.any (fun r => sel r p) then a else does last) := by
  induction rules with
  | nil =>
      rw [List.nil_append, first_cons_of_sel hlast]
      rfl
  | cons r rules ih =>
      rw [List.cons_append, List.any_cons]
      rcases hsel : sel r p with _ | _
      · rw [first_cons_of_not_sel hsel, Bool.false_or]
        exact ih fun r' hr' => hdoes r' (List.mem_cons_of_mem r hr')
      · rw [first_cons_of_sel hsel, Bool.true_or, if_pos rfl, Option.map_some,
          hdoes r List.mem_cons_self]

end LibraDevice.RuleList
