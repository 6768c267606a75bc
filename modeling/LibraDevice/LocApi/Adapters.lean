import LibraDevice.Lib.PackedArray

/-!
The adapters of `LocApiBase`: an array of pointers in which a removal moves
the last one into the hole, and the loops that call all of them or those up to
the first that handles the call.
-/

namespace LibraDevice.LocApi

open LibraDevice.PackedArray

universe u

def maxAdapters : Nat := 10

/-- What the list asks of the message task and of the location API. -/
inductive Effect
  | sendOpen (mask : BitVec 32)
  | close
deriving DecidableEq

/-- A null pointer is `none`. -/
structure LocApiBase (α : Type u) where
  mLocAdapters : Nat → Option α
  mExcludedMask : BitVec 32
  effects : List Effect

variable {α : Type u}

namespace LocApiBase

def new (excludedMask : BitVec 32) : LocApiBase α where
  mLocAdapters := fun _ => none
  mExcludedMask := excludedMask
  effects := []

def emit (s : LocApiBase α) (e : Effect) : LocApiBase α :=
  { s with effects := s.effects ++ [e] }

/-- `TO_ALL_LOCADAPTERS` from the index `i`: the adapters that are called. -/
def toAllFrom (s : LocApiBase α) : Nat → Nat → List α
  | 0, _ => []
  | left + 1, i =>
      match s.mLocAdapters i with
      | none => []
      | some adapter => adapter :: s.toAllFrom left (i + 1)

def toAllLocAdapters (s : LocApiBase α) : List α :=
  s.toAllFrom maxAdapters 0

/-- `TO_1ST_HANDLING_LOCADAPTERS` from the index `i`, where `call` is what each
adapter returns. -/
def to1stFrom (s : LocApiBase α) (call : α → Bool) : Nat → Nat → List α
  | 0, _ => []
  | left + 1, i =>
      match s.mLocAdapters i with
      | none => []
      | some adapter =>
          adapter :: if call adapter then [] else s.to1stFrom call left (i + 1)

def to1stHandlingLocAdapters (s : LocApiBase α) (call : α → Bool) : List α :=
  s.to1stFrom call maxAdapters 0

/-- `evtMask` is what `getEvtMask` of each adapter returns at the time. -/
def getEvtMask (s : LocApiBase α) (evtMask : α → BitVec 32) : BitVec 32 :=
  s.toAllLocAdapters.foldl (fun mask adapter => mask ||| evtMask adapter) 0 &&&
    ~~~s.mExcludedMask

section

variable [DecidableEq α]

/-- The loop of `addAdapter` from the index `i`. -/
def addFrom (s : LocApiBase α) (adapter : Option α) (evtMask : α → BitVec 32) :
    Nat → Nat → LocApiBase α
  | 0, _ => s
  | left + 1, i =>
      if s.mLocAdapters i = adapter then s
      else
        match s.mLocAdapters i with
        | some _ => s.addFrom adapter evtMask left (i + 1)
        | none =>
            match adapter with
            | some a =>
                { s with mLocAdapters := Function.update s.mLocAdapters i (some a) }.emit
                  (.sendOpen (evtMask a))
            | none => s

def addAdapter (s : LocApiBase α) (adapter : Option α) (evtMask : α → BitVec 32) :
    LocApiBase α :=
  s.addFrom adapter evtMask maxAdapters 0

/-- `while (++i < MAX_ADAPTERS && mLocAdapters[i] != NULL);` where `i` has been
incremented, and `left` places lie from it to the end. -/
def skipFrom (array : Nat → Option α) : Nat → Nat → Nat
  | 0, i => i
  | left + 1, i => if array i = none then i else skipFrom array left (i + 1)

/-- The loop of `removeAdapter` from the index `i`. The inner loop moves the
same index, and the outer one goes on behind it. -/
def removeFrom (s : LocApiBase α) (adapter : Option α) (evtMask : α → BitVec 32) :
    Nat → Nat → LocApiBase α
  | 0, _ => s
  | left + 1, i =>
      if i < maxAdapters ∧ s.mLocAdapters i ≠ none then
        if s.mLocAdapters i = adapter then
          let array := Function.update s.mLocAdapters i none
          let last := skipFrom array (maxAdapters - (i + 1)) (i + 1) - 1
          let moved := Function.update array i (array last)
          let removed := { s with mLocAdapters := Function.update moved last none }
          let told :=
            if last = 0 then removed.emit .close
            else removed.emit (.sendOpen (removed.getEvtMask evtMask))
          told.removeFrom adapter evtMask left (last + 1)
        else s.removeFrom adapter evtMask left (i + 1)
      else s

def removeAdapter (s : LocApiBase α) (adapter : Option α) (evtMask : α → BitVec 32) :
    LocApiBase α :=
  s.removeFrom adapter evtMask maxAdapters 0

end

variable {s : LocApiBase α} {adapters : List α}

theorem skipFrom_eq {array : Nat → Option α} {n : Nat} (hn : n ≤ maxAdapters)
    (hend : n < maxAdapters → array n = none) {left i : Nat} (hleft : i + left = maxAdapters)
    (hin : i ≤ n) (hset : ∀ k, i ≤ k → k < n → array k ≠ none) :
    skipFrom array left i = n := by
  induction left generalizing i with
  | zero =>
      rw [skipFrom]
      omega
  | succ left ih =>
      rw [skipFrom]
      rcases Nat.lt_or_ge i n with hlt | hge
      · rw [if_neg (hset i (Nat.le_refl i) hlt)]
        exact ih (by omega) hlt fun k hk hkn => hset k (by omega) hkn
      · have heq : i = n := by omega
        rw [heq, if_pos (hend (by omega))]

theorem get_length (h : Holds maxAdapters s.mLocAdapters adapters)
    (hroom : adapters.length < maxAdapters) : s.mLocAdapters adapters.length = none := by
  rw [h.get _ hroom]
  exact List.getElem?_eq_none (Nat.le_refl _)

theorem toAllFrom_eq (h : Holds maxAdapters s.mLocAdapters adapters) {left i : Nat}
    (hleft : i + left = maxAdapters) : s.toAllFrom left i = adapters.drop i := by
  induction left generalizing i with
  | zero =>
      have hfits := h.fits
      rw [List.drop_of_length_le (by omega)]
      rfl
  | succ left ih =>
      rw [toAllFrom, h.get i (by omega)]
      rcases Nat.lt_or_ge i adapters.length with hlt | hge
      · rw [List.getElem?_eq_getElem hlt, List.drop_eq_getElem_cons hlt, ← ih (by omega)]
      · rw [List.getElem?_eq_none hge, List.drop_of_length_le hge]

theorem toAll_eq (h : Holds maxAdapters s.mLocAdapters adapters) :
    s.toAllLocAdapters = adapters :=
  toAllFrom_eq h (Nat.zero_add _)

/-- The adapters up to the first that handles the call. -/
def upToFirst (call : α → Bool) : List α → List α
  | [] => []
  | adapter :: rest => adapter :: if call adapter then [] else upToFirst call rest

theorem to1stFrom_eq (h : Holds maxAdapters s.mLocAdapters adapters) (call : α → Bool)
    {left i : Nat} (hleft : i + left = maxAdapters) :
    s.to1stFrom call left i = upToFirst call (adapters.drop i) := by
  induction left generalizing i with
  | zero =>
      have hfits := h.fits
      rw [List.drop_of_length_le (by omega)]
      rfl
  | succ left ih =>
      rw [to1stFrom, h.get i (by omega)]
      rcases Nat.lt_or_ge i adapters.length with hlt | hge
      · rw [List.getElem?_eq_getElem hlt, List.drop_eq_getElem_cons hlt, upToFirst,
          ← ih (by omega)]
      · rw [List.getElem?_eq_none hge, List.drop_of_length_le hge]
        rfl

theorem to1st_eq (h : Holds maxAdapters s.mLocAdapters adapters) (call : α → Bool) :
    s.to1stHandlingLocAdapters call = upToFirst call adapters :=
  to1stFrom_eq h call (Nat.zero_add _)

/-- The adapters called are a prefix: none but the last of them handles the
call, and when adapters are left out the last one does. -/
theorem upToFirst_spec (call : α → Bool) (adapters : List α) :
    ∃ rest, adapters = upToFirst call adapters ++ rest ∧
      (∀ adapter ∈ (upToFirst call adapters).dropLast, call adapter = false) ∧
      (rest ≠ [] → ∃ adapter, (upToFirst call adapters).getLast? = some adapter ∧
        call adapter = true) := by
  induction adapters with
  | nil => exact ⟨[], rfl, by simp [upToFirst], fun h => absurd rfl h⟩
  | cons adapter adapters ih =>
      rcases hcall : call adapter with _ | _
      · obtain ⟨rest, happend, hbefore, hlast⟩ := ih
        refine ⟨rest, ?_, ?_, ?_⟩
        · simp only [upToFirst, hcall, Bool.false_eq_true, if_false, List.cons_append]
          rw [← happend]
        · intro b hb
          simp only [upToFirst, hcall, Bool.false_eq_true, if_false] at hb
          rcases hrest : upToFirst call adapters with _ | ⟨c, cs⟩
          · rw [hrest] at hb
            simp at hb
          · rw [hrest, List.dropLast_cons_cons] at hb
            rcases List.mem_cons.mp hb with rfl | hmem
            · exact hcall
            · rw [hrest] at hbefore
              exact hbefore b hmem
        · intro hrest
          obtain ⟨b, hb, hcallb⟩ := hlast hrest
          refine ⟨b, ?_, hcallb⟩
          simp only [upToFirst, hcall, Bool.false_eq_true, if_false]
          rw [List.getLast?_cons, hb]
          rfl
      · refine ⟨adapters, ?_, ?_, ?_⟩
        · simp only [upToFirst, hcall, if_true, List.singleton_append]
        · simp [upToFirst, hcall]
        · intro _
          exact ⟨adapter, by simp [upToFirst, hcall], hcall⟩

theorem getEvtMask_bit (h : Holds maxAdapters s.mLocAdapters adapters)
    (evtMask : α → BitVec 32) (k : Nat) :
    (s.getEvtMask evtMask).getLsbD k = true ↔
      (∃ adapter ∈ adapters, (evtMask adapter).getLsbD k = true) ∧
        (k < 32 ∧ s.mExcludedMask.getLsbD k = false) := by
  have hfold : ∀ mask : BitVec 32,
      (adapters.foldl (fun mask adapter => mask ||| evtMask adapter) mask).getLsbD k = true ↔
        mask.getLsbD k = true ∨ ∃ adapter ∈ adapters, (evtMask adapter).getLsbD k = true := by
    clear h
    induction adapters with
    | nil => simp
    | cons adapter adapters ih =>
        intro mask
        rw [List.foldl_cons, ih, BitVec.getLsbD_or, Bool.or_eq_true, List.exists_mem_cons_iff,
          or_assoc]
  rw [getEvtMask, toAll_eq h, BitVec.getLsbD_and, Bool.and_eq_true, hfold, BitVec.getLsbD_not]
  simp

end LocApiBase

end LibraDevice.LocApi
