import Mathlib.Data.List.Basic
import Mathlib.Data.List.TakeWhile

/-!
Texts cut at a separator: into tokens, into lines, and into what a buffer of a fixed size
takes of each line.
-/

namespace LibraDevice.TextLines

variable {α : Type*} [DecidableEq α]

/-- What stands between the separators, the empty parts too. -/
def split (d : α) : List α → List (List α)
  | [] => [[]]
  | c :: s =>
      if c = d then [] :: split d s
      else
        match split d s with
        | [] => [[c]]
        | part :: parts => (c :: part) :: parts

def tokens (d : α) (s : List α) : List (List α) :=
  (split d s).filter (fun part => !part.isEmpty)

/-- The next token and what is left of the text: `strtok_r` with one delimiter. -/
def strtok (d : α) (s : List α) : Option (List α × List α) :=
  match s.dropWhile (fun c => decide (c = d)) with
  | [] => none
  | c :: s => some (c :: s.takeWhile (fun c => !decide (c = d)),
      (s.dropWhile (fun c => !decide (c = d))).tail)

/-- Each line with the separator that ends it. -/
def lines (d : α) : List α → List (List α)
  | [] => []
  | c :: s =>
      if c = d then [c] :: lines d s
      else
        match lines d s with
        | [] => [[c]]
        | line :: rest => (c :: line) :: rest

/-- The lines as a buffer takes them that has `room` places left, and `size` for what follows:
what `fgets` delivers, call by call. -/
def fgets (d : α) (size : Nat) : Nat → List α → List (List α)
  | _, [] => []
  | room, c :: s =>
      if c = d ∨ room ≤ 1 then [c] :: fgets d size size s
      else
        match fgets d size (room - 1) s with
        | [] => [[c]]
        | line :: rest => (c :: line) :: rest

@[simp]
theorem tokens_nil (d : α) : tokens d [] = [] := rfl

@[simp]
theorem tokens_cons_self (d : α) (s : List α) : tokens d (d :: s) = tokens d s := by
  simp [tokens, split]

theorem split_eq (d : α) (s : List α) :
    split d s = s.takeWhile (fun c => !decide (c = d)) ::
      (split d s).tail ∧
    (split d s).tail.filter (fun part => !part.isEmpty) =
      tokens d (s.dropWhile (fun c => !decide (c = d))).tail := by
  induction s with
  | nil => exact ⟨rfl, rfl⟩
  | cons c s ih =>
      by_cases h : c = d
      · subst h
        simp [split, tokens]
      · obtain ⟨hsplit, htail⟩ := ih
        rw [split, if_neg h]
        rw [hsplit]
        simp only [List.tail_cons]
        constructor
        · simp [h]
        · rw [htail]
          simp [h]

theorem tokens_eq_strtok (d : α) (s : List α) :
    tokens d s = match strtok d s with
      | none => []
      | some r => r.1 :: tokens d r.2 := by
  induction s with
  | nil => rfl
  | cons c s ih =>
      by_cases h : c = d
      · subst h
        have hnext : strtok c (c :: s) = strtok c s := by simp [strtok]
        rw [tokens_cons_self, hnext]
        exact ih
      · have hfirst : strtok d (c :: s) =
            some (c :: s.takeWhile (fun c => !decide (c = d)),
              (s.dropWhile (fun c => !decide (c = d))).tail) := by
          simp [strtok, h]
        obtain ⟨hsplit, htail⟩ := split_eq d s
        rw [hfirst]
        change (split d (c :: s)).filter _ = _ :: _
        rw [split, if_neg h, hsplit, ← htail]
        simp

theorem split_ne_nil (d : α) (s : List α) : split d s ≠ [] := by
  rw [(split_eq d s).1]
  exact List.cons_ne_nil _ _

theorem split_cons_of_ne {c d : α} (h : c ≠ d) (s : List α) :
    split d (c :: s) = (split d s).modifyHead (c :: ·) := by
  rw [split, if_neg h]
  rcases hsplit : split d s with _ | ⟨part, parts⟩
  · exact absurd hsplit (split_ne_nil d s)
  · rfl

theorem length_split (d : α) (s : List α) : (split d s).length = s.count d + 1 := by
  induction s with
  | nil => rfl
  | cons c s ih =>
      by_cases h : c = d
      · subst h
        rw [split, if_pos rfl, List.length_cons, ih, List.count_cons_self]
      · rw [split_cons_of_ne h, List.length_modifyHead, ih, List.count_cons_of_ne h]

theorem mem_of_mem_split (d : α) (s : List α) :
    ∀ part ∈ split d s, ∀ c ∈ part, c ∈ s := by
  induction s with
  | nil => simp [split]
  | cons c s ih =>
      by_cases h : c = d
      · rw [split, if_pos h, List.forall_mem_cons]
        exact ⟨fun c hc => absurd hc List.not_mem_nil,
          fun part hpart c' hc' => List.mem_cons_of_mem _ (ih part hpart c' hc')⟩
      · rw [split_cons_of_ne h]
        rcases hsplit : split d s with _ | ⟨part, parts⟩
        · exact absurd hsplit (split_ne_nil d s)
        · rw [hsplit, List.forall_mem_cons] at ih
          rw [List.modifyHead_cons, List.forall_mem_cons]
          refine ⟨fun c' hc' => ?_, fun part' hpart' c' hc' =>
            List.mem_cons_of_mem _ (ih.2 part' hpart' c' hc')⟩
          rcases List.mem_cons.mp hc' with rfl | hmem
          · exact List.mem_cons_self
          · exact List.mem_cons_of_mem _ (ih.1 c' hmem)

theorem split_eq_splitOn (d : α) (s : List α) : split d s = s.splitOn d := by
  induction s with
  | nil => rfl
  | cons c s ih =>
      rw [List.splitOn_cons_eq_if_modifyHead, ← ih]
      by_cases h : c = d
      · rw [split, if_pos h, if_pos (beq_iff_eq.mpr h)]
      · rw [split_cons_of_ne h, if_neg (fun heq => h (beq_iff_eq.mp heq))]

theorem intercalate_split (d : α) (s : List α) : List.intercalate [d] (split d s) = s := by
  rw [split_eq_splitOn]
  exact List.intercalate_splitOn d

theorem split_append_cons {d : α} {part : List α} (h : d ∉ part) (s : List α) :
    split d (part ++ d :: s) = part :: split d s := by
  induction part with
  | nil => simp [split]
  | cons c part ih =>
      simp only [List.mem_cons, not_or] at h
      have hc : c ≠ d := fun heq => h.1 heq.symm
      rw [List.cons_append, split, if_neg hc, ih h.2]

theorem split_flatMap {d : α} {parts : List (List α)} (h : ∀ part ∈ parts, d ∉ part)
    (s : List α) :
    split d (parts.flatMap (fun part => part ++ [d]) ++ s) = parts ++ split d s := by
  induction parts with
  | nil => rfl
  | cons part parts ih =>
      rw [List.forall_mem_cons] at h
      rw [List.flatMap_cons, List.append_assoc, List.append_assoc, List.singleton_append,
        split_append_cons h.1, ih h.2, List.cons_append]

theorem strtok_append_cons {d : α} {part : List α} (hne : part ≠ []) (h : d ∉ part)
    (s : List α) : strtok d (part ++ d :: s) = some (part, s) := by
  rcases part with _ | ⟨c, part⟩
  · exact absurd rfl hne
  · simp only [List.mem_cons, not_or] at h
    have hc : c ≠ d := fun heq => h.1 heq.symm
    have hall : ∀ a ∈ part, (fun c => !decide (c = d)) a = true := by
      intro a ha
      have had : a ≠ d := fun heq => h.2 (heq ▸ ha)
      simp [had]
    simp [strtok, hc, List.takeWhile_append_of_pos hall, List.dropWhile_append_of_pos hall]

theorem strtok_of_not_mem {d : α} {part : List α} (hne : part ≠ []) (h : d ∉ part) :
    strtok d part = some (part, []) := by
  rcases part with _ | ⟨c, part⟩
  · exact absurd rfl hne
  · simp only [List.mem_cons, not_or] at h
    have hc : c ≠ d := fun heq => h.1 heq.symm
    have hall : ∀ a ∈ part, (fun c => !decide (c = d)) a = true := by
      intro a ha
      have had : a ≠ d := fun heq => h.2 (heq ▸ ha)
      simp [had]
    simp [strtok, hc, List.takeWhile_eq_self_iff.mpr hall, List.dropWhile_eq_nil_iff.mpr hall]

theorem ne_nil_of_mem_lines (d : α) (s : List α) : ∀ line ∈ lines d s, line ≠ [] := by
  induction s with
  | nil => simp [lines]
  | cons c s ih =>
      rw [lines]
      by_cases h : c = d
      · rw [if_pos h]
        simpa using ih
      · rw [if_neg h]
        rcases hlines : lines d s with _ | ⟨line, rest⟩
        · simp
        · rw [hlines] at ih
          simp only [List.mem_cons, forall_eq_or_imp] at ih ⊢
          exact ⟨by simp, ih.2⟩

theorem fgets_eq_lines (d : α) (size : Nat) (s : List α) (room : Nat)
    (hall : ∀ line ∈ lines d s, line.length ≤ size)
    (hfirst : ∀ line ∈ (lines d s).head?, line.length ≤ room) :
    fgets d size room s = lines d s := by
  induction s generalizing room with
  | nil => rfl
  | cons c s ih =>
      have hne := ne_nil_of_mem_lines d s
      rw [lines] at hall hfirst ⊢
      rw [fgets]
      by_cases h : c = d
      · rw [if_pos h] at hall hfirst ⊢
        rw [if_pos (Or.inl h)]
        have hrest : ∀ line ∈ lines d s, line.length ≤ size :=
          fun line hline => hall line (List.mem_cons_of_mem _ hline)
        rw [ih size hrest (fun line hline => hrest line (List.mem_of_mem_head? hline))]
      · rw [if_neg h] at hall hfirst ⊢
        rcases hlines : lines d s with _ | ⟨line, rest⟩
        · have hnil : s = [] := by
            rcases s with _ | ⟨c', s⟩
            · rfl
            · rw [lines] at hlines
              split_ifs at hlines
              · rcases hrest : lines d s with _ | ⟨line, rest⟩ <;> simp [hrest] at hlines
          subst hnil
          by_cases hroom : room ≤ 1 <;> simp [h, hroom, fgets]
        · simp only [hlines] at hall hfirst hne
          simp only [List.head?_cons, Option.mem_some_iff, forall_eq', List.length_cons,
            List.mem_cons, forall_eq_or_imp] at hall hfirst hne
          have hpos : 0 < line.length := List.length_pos_of_ne_nil hne.1
          have hroom : ¬ (c = d ∨ room ≤ 1) := by
            rintro (hc | hr)
            · exact h hc
            · omega
          have hread : fgets d size (room - 1) s = lines d s := by
            apply ih
            · rw [hlines]
              simp only [List.mem_cons, forall_eq_or_imp]
              exact ⟨by omega, hall.2⟩
            · rw [hlines]
              simp only [List.head?_cons, Option.mem_some_iff, forall_eq']
              omega
          rw [if_neg hroom, hread, hlines]

end LibraDevice.TextLines
