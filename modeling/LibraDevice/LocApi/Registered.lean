import LibraDevice.LocApi.Adapters
import Mathlib.Data.Finset.Card
import Mathlib.Data.List.Infix

/-!
The adapters added and not removed since are the ones in the array, over any
sequence of additions and removals.
-/

namespace LibraDevice.LocApi

open LibraDevice.PackedArray

universe u

variable {α : Type u} [DecidableEq α]

/-- A call, with what `getEvtMask` of each adapter returns during it. -/
inductive Op (α : Type u)
  | add (adapter : Option α) (evtMask : α → BitVec 32)
  | remove (adapter : Option α) (evtMask : α → BitVec 32)

def exec (s : LocApiBase α) : Op α → LocApiBase α
  | .add adapter evtMask => s.addAdapter adapter evtMask
  | .remove adapter evtMask => s.removeAdapter adapter evtMask

def execAll (excludedMask : BitVec 32) (ops : List (Op α)) : LocApiBase α :=
  ops.foldl exec (LocApiBase.new excludedMask)

def register (registered : Finset α) : Op α → Finset α
  | .add none _ => registered
  | .add (some adapter) _ => insert adapter registered
  | .remove none _ => registered
  | .remove (some adapter) _ => registered.erase adapter

/-- The adapters added and not removed since. -/
def registered (ops : List (Op α)) : Finset α :=
  ops.foldl register ∅

/-- The array holds the registered adapters in some order. -/
structure Lists (s : LocApiBase α) (adapters : List α) (reg : Finset α) : Prop where
  holds : Holds maxAdapters s.mLocAdapters adapters
  nodup : adapters.Nodup
  mem : ∀ adapter, adapter ∈ adapters ↔ adapter ∈ reg

namespace Lists

variable {s : LocApiBase α} {adapters : List α} {reg : Finset α}

theorem card (h : Lists s adapters reg) : reg.card = adapters.length := by
  have heq : reg = adapters.toFinset := by
    ext adapter
    rw [List.mem_toFinset, h.mem]
  rw [heq, List.toFinset_card_of_nodup h.nodup]

end Lists

namespace LocApiBase

variable {s : LocApiBase α} {adapters : List α}

theorem addFrom_mem (h : Holds maxAdapters s.mLocAdapters adapters) {adapter : α}
    (evtMask : α → BitVec 32) {left i : Nat} (hleft : i + left = maxAdapters)
    (hmem : adapter ∈ adapters.drop i) : s.addFrom (some adapter) evtMask left i = s := by
  induction left generalizing i with
  | zero => rfl
  | succ left ih =>
      have hlt : i < adapters.length := by
        rcases Nat.lt_or_ge i adapters.length with hlt | hge
        · exact hlt
        · rw [List.drop_of_length_le hge] at hmem
          simp at hmem
      rw [addFrom, h.get i (by omega), List.getElem?_eq_getElem hlt]
      split
      · rfl
      · rename_i hne
        rw [List.drop_eq_getElem_cons hlt] at hmem
        apply ih (by omega)
        rcases List.mem_cons.mp hmem with heq | hrest
        · exact absurd (congrArg some heq.symm) hne
        · exact hrest

theorem addFrom_new (h : Holds maxAdapters s.mLocAdapters adapters) {adapter : α}
    (evtMask : α → BitVec 32) (hnew : adapter ∉ adapters)
    (hroom : adapters.length < maxAdapters) {left i : Nat} (hleft : i + left = maxAdapters)
    (hi : i ≤ adapters.length) :
    s.addFrom (some adapter) evtMask left i =
      { s with
        mLocAdapters :=
          Function.update s.mLocAdapters adapters.length (some adapter) }.emit
        (.sendOpen (evtMask adapter)) := by
  induction left generalizing i with
  | zero => omega
  | succ left ih =>
      rw [addFrom]
      rcases Nat.lt_or_ge i adapters.length with hlt | hge
      · have hget : s.mLocAdapters i = some (adapters[i]) := by
          rw [h.get i (by omega), List.getElem?_eq_getElem hlt]
        have hne : some (adapters[i]) ≠ some adapter := by
          intro heq
          apply hnew
          rw [← Option.some.inj heq]
          exact List.getElem_mem hlt
        rw [hget, if_neg hne]
        exact ih (by omega) hlt
      · have heq : i = adapters.length := by omega
        rw [heq, get_length h hroom, if_neg (by simp)]

theorem addAdapter_mem (h : Holds maxAdapters s.mLocAdapters adapters) {adapter : α}
    (evtMask : α → BitVec 32) (hmem : adapter ∈ adapters) :
    s.addAdapter (some adapter) evtMask = s :=
  addFrom_mem h evtMask (Nat.zero_add _) hmem

theorem addAdapter_new (h : Holds maxAdapters s.mLocAdapters adapters) {adapter : α}
    (evtMask : α → BitVec 32) (hnew : adapter ∉ adapters)
    (hroom : adapters.length < maxAdapters) :
    s.addAdapter (some adapter) evtMask =
      { s with
        mLocAdapters :=
          Function.update s.mLocAdapters adapters.length (some adapter) }.emit
        (.sendOpen (evtMask adapter)) :=
  addFrom_new h evtMask hnew hroom (Nat.zero_add _) (Nat.zero_le _)

theorem addFrom_none (s : LocApiBase α) (evtMask : α → BitVec 32) (left i : Nat) :
    s.addFrom none evtMask left i = s := by
  induction left generalizing i with
  | zero => rfl
  | succ left ih =>
      rw [addFrom]
      split
      · rfl
      · rcases s.mLocAdapters i with _ | adapter
        · rfl
        · exact ih (i + 1)

theorem addFrom_mExcludedMask (s : LocApiBase α) (adapter : Option α)
    (evtMask : α → BitVec 32) (left i : Nat) :
    (s.addFrom adapter evtMask left i).mExcludedMask = s.mExcludedMask := by
  induction left generalizing i with
  | zero => rfl
  | succ left ih =>
      rcases adapter with _ | a
      · rw [addFrom_none]
      · rw [addFrom]
        split
        · rfl
        · rcases s.mLocAdapters i with _ | b
          · rfl
          · exact ih (i + 1)

theorem removeFrom_mExcludedMask (s : LocApiBase α) (adapter : Option α)
    (evtMask : α → BitVec 32) (left i : Nat) :
    (s.removeFrom adapter evtMask left i).mExcludedMask = s.mExcludedMask := by
  induction left generalizing s i with
  | zero => rfl
  | succ left ih =>
      rw [removeFrom]
      split
      · split
        · simp only [ih]
          split
          · rfl
          · rfl
        · exact ih s (i + 1)
      · rfl

/-- The list after the adapter at the place `j` is removed. -/
def dropAt (s : LocApiBase α) (j last : Nat) : LocApiBase α :=
  { s with
    mLocAdapters :=
      Function.update (Function.update s.mLocAdapters j (s.mLocAdapters last)) last none }

/-- What a removal tells, once the last place in use was `last`. -/
def tellRemoved (s : LocApiBase α) (last : Nat) (evtMask : α → BitVec 32) : LocApiBase α :=
  if last = 0 then s.emit .close else s.emit (.sendOpen (s.getEvtMask evtMask))

theorem removeFrom_absent (h : Holds maxAdapters s.mLocAdapters adapters)
    {adapter : Option α} (hnew : ∀ a ∈ adapters, adapter ≠ some a) (evtMask : α → BitVec 32)
    (left i : Nat) : s.removeFrom adapter evtMask left i = s := by
  induction left generalizing i with
  | zero => rfl
  | succ left ih =>
      rw [removeFrom]
      split
      · rename_i hguard
        split
        · rename_i heq
          rw [h.get i hguard.1] at heq
          rcases hget : adapters[i]? with _ | a
          · rw [h.get i hguard.1, hget] at hguard
            exact absurd rfl hguard.2
          · rw [hget] at heq
            exact absurd heq.symm (hnew a (List.mem_of_getElem? hget))
        · exact ih (i + 1)
      · rfl

theorem removeFrom_end (adapter : Option α) (evtMask : α → BitVec 32) {n : Nat}
    (hend : n < maxAdapters → s.mLocAdapters n = none) (left : Nat) :
    s.removeFrom adapter evtMask left n = s := by
  rcases left with _ | left
  · rfl
  · rw [removeFrom, if_neg]
    rintro ⟨hlt, hset⟩
    exact hset (hend hlt)

theorem removeFrom_hit {before after : List α} {adapter : α}
    (h : Holds maxAdapters s.mLocAdapters (before ++ adapter :: after))
    (hfirst : adapter ∉ before) (evtMask : α → BitVec 32) {left i : Nat}
    (hleft : i + left = maxAdapters) (hi : i ≤ before.length) :
    s.removeFrom (some adapter) evtMask left i =
      (s.dropAt before.length (before.length + after.length)).tellRemoved
        (before.length + after.length) evtMask := by
  have hfits := h.fits
  rw [List.length_append, List.length_cons] at hfits
  induction left generalizing i with
  | zero => omega
  | succ left ih =>
      rw [removeFrom]
      rcases Nat.lt_or_ge i before.length with hlt | hge
      · have hget : s.mLocAdapters i = some (before[i]) := by
          rw [h.get i (by omega), List.getElem?_append_left hlt, List.getElem?_eq_getElem hlt]
        have hne : some (before[i]) ≠ some adapter := by
          intro heq
          apply hfirst
          rw [← Option.some.inj heq]
          exact List.getElem_mem hlt
        rw [hget, if_pos ⟨by omega, by simp⟩, if_neg hne]
        exact ih (by omega) hlt
      · have heq : i = before.length := by omega
        subst heq
        have hget : s.mLocAdapters before.length = some adapter := by
          rw [h.get _ (by omega)]
          simp
        have hset : ∀ k, before.length + 1 ≤ k → k < before.length + after.length + 1 →
            Function.update s.mLocAdapters before.length none k ≠ none := by
          intro k hk hkn
          rw [Function.update_of_ne (by omega), h.get k (by omega),
            List.getElem?_eq_getElem (by simp; omega)]
          simp
        have hbehind : before.length + after.length + 1 < maxAdapters →
            s.mLocAdapters (before.length + after.length + 1) = none := by
          intro hlt
          rw [h.get _ hlt]
          apply List.getElem?_eq_none
          rw [List.length_append, List.length_cons]
          omega
        have hskip : skipFrom (Function.update s.mLocAdapters before.length none)
            (maxAdapters - (before.length + 1)) (before.length + 1) =
              before.length + after.length + 1 := by
          apply skipFrom_eq (by omega) _ (by omega) (by omega) hset
          intro hlt
          rw [Function.update_of_ne (by omega), hbehind hlt]
        have hmoved : Function.update (Function.update
              (Function.update s.mLocAdapters before.length none) before.length
              (Function.update s.mLocAdapters before.length none
                (before.length + after.length))) (before.length + after.length) none =
            Function.update (Function.update s.mLocAdapters before.length
              (s.mLocAdapters (before.length + after.length)))
              (before.length + after.length) none := by
          rw [Function.update_idem]
          rcases after with _ | ⟨a, after⟩
          · simp only [List.length_nil, Nat.add_zero, Function.update_idem]
          · rw [Function.update_of_ne (by simp)]
        rw [hget, if_pos ⟨by omega, by simp⟩, if_pos rfl]
        simp only [hskip, Nat.add_sub_cancel, hmoved]
        rw [removeFrom_end]
        · rfl
        · intro hlt
          have hnone : (s.dropAt before.length (before.length + after.length)).mLocAdapters
              (before.length + after.length + 1) = none := by
            simp only [dropAt]
            rw [Function.update_of_ne (by omega), Function.update_of_ne (by omega), hbehind hlt]
          split
          · exact hnone
          · exact hnone

end LocApiBase

/-- `e` is what is to follow from removing `adapter`. -/
def TellsRemoval (excludedMask : BitVec 32) (evtMask : α → BitVec 32) (reg : Finset α)
    (adapter : α) : Effect → Prop
  | .close => reg = {adapter}
  | .sendOpen mask => reg ≠ {adapter} ∧ ∀ k < 32, mask.getLsbD k = true ↔
      (∃ other ∈ reg.erase adapter, (evtMask other).getLsbD k = true) ∧
        excludedMask.getLsbD k = false

/-- What is to hold of the list with these adapters registered. -/
structure Right (excludedMask : BitVec 32) (s : LocApiBase α) (reg : Finset α) : Prop where
  packed : ∃ n ≤ maxAdapters, ∀ i < maxAdapters, s.mLocAdapters i ≠ none ↔ i < n
  once : ∀ i < maxAdapters, ∀ j < maxAdapters, s.mLocAdapters i ≠ none →
    s.mLocAdapters i = s.mLocAdapters j → i = j
  mem : ∀ adapter, (∃ i < maxAdapters, s.mLocAdapters i = some adapter) ↔ adapter ∈ reg
  all : s.toAllLocAdapters.Nodup ∧ ∀ adapter, adapter ∈ s.toAllLocAdapters ↔ adapter ∈ reg
  first : ∀ call, ∃ rest, s.toAllLocAdapters = s.to1stHandlingLocAdapters call ++ rest ∧
    (∀ adapter ∈ (s.to1stHandlingLocAdapters call).dropLast, call adapter = false) ∧
    (rest ≠ [] → ∃ adapter,
      (s.to1stHandlingLocAdapters call).getLast? = some adapter ∧ call adapter = true)
  removes : ∀ adapter ∈ reg, ∀ evtMask, ∃ e,
    (s.removeAdapter (some adapter) evtMask).effects = s.effects ++ [e] ∧
      TellsRemoval excludedMask evtMask reg adapter e
  ignores : ∀ adapter : Option α, (∀ a ∈ reg, adapter ≠ some a) → ∀ evtMask,
    s.removeAdapter adapter evtMask = s

namespace Lists

variable {s : LocApiBase α} {adapters : List α} {reg : Finset α}

theorem add (h : Lists s adapters reg) (adapter : α) (evtMask : α → BitVec 32)
    (hroom : (insert adapter reg).card ≤ maxAdapters) :
    ∃ adapters', Lists (s.addAdapter (some adapter) evtMask) adapters' (insert adapter reg) := by
  rcases em (adapter ∈ adapters) with hmem | hnew
  · rw [LocApiBase.addAdapter_mem h.holds evtMask hmem,
      Finset.insert_eq_of_mem ((h.mem adapter).mp hmem)]
    exact ⟨adapters, h⟩
  · have hnot : adapter ∉ reg := fun hmem => hnew ((h.mem adapter).mpr hmem)
    rw [Finset.card_insert_of_notMem hnot, h.card] at hroom
    rw [LocApiBase.addAdapter_new h.holds evtMask hnew hroom]
    refine ⟨adapters ++ [adapter], h.holds.push hroom adapter, ?_, ?_⟩
    · rw [List.nodup_append]
      refine ⟨h.nodup, List.nodup_singleton adapter, ?_⟩
      intro a ha b hb heq
      rw [List.mem_singleton] at hb
      exact hnew (hb ▸ heq ▸ ha)
    · intro a
      rw [List.mem_append, List.mem_singleton, h.mem, Finset.mem_insert, or_comm]

theorem remove (h : Lists s adapters reg) {adapter : α} (hmem : adapter ∈ reg)
    (evtMask : α → BitVec 32) :
    ∃ removed adapters' last,
      s.removeAdapter (some adapter) evtMask = removed.tellRemoved last evtMask ∧
      Lists removed adapters' (reg.erase adapter) ∧ removed.effects = s.effects ∧
      removed.mExcludedMask = s.mExcludedMask ∧ (last = 0 ↔ reg = {adapter}) := by
  obtain ⟨before, after, hsplit⟩ := List.append_of_mem ((h.mem adapter).mpr hmem)
  have hholds := h.holds
  have hnodup := h.nodup
  have hcard := h.card
  rw [hsplit] at hholds hnodup hcard
  rw [List.length_append, List.length_cons] at hcard
  have hfirst : adapter ∉ before := by
    intro hb
    have hmiddle := List.nodup_cons.mp (List.nodup_middle.mp hnodup)
    exact hmiddle.1 (List.mem_append.mpr (Or.inl hb))
  obtain ⟨hleft, hothers⟩ := swapRemove_spec hnodup
  refine ⟨_, swapRemove (before ++ adapter :: after) before.length, _,
    LocApiBase.removeFrom_hit hholds hfirst evtMask (Nat.zero_add _) (Nat.zero_le _),
    ⟨?_, hleft, ?_⟩, rfl, rfl, ?_⟩
  · have hswap := hholds.swapRemove (j := before.length) (by simp)
    rw [List.length_append, List.length_cons] at hswap
    exact hswap
  · intro a
    rw [hothers, ← hsplit, h.mem, Finset.mem_erase, and_comm]
  · constructor
    · intro hlast
      have hone : reg.card = 1 := by omega
      obtain ⟨b, hb⟩ := Finset.card_eq_one.mp hone
      rw [hb, Finset.mem_singleton] at hmem
      rw [hb, hmem]
    · intro hreg
      rw [hreg, Finset.card_singleton] at hcard
      omega

omit [DecidableEq α] in
theorem tellRemoved (h : Lists s adapters reg) (last : Nat) (evtMask : α → BitVec 32) :
    Lists (s.tellRemoved last evtMask) adapters reg := by
  rw [LocApiBase.tellRemoved]
  split
  · exact ⟨h.holds, h.nodup, h.mem⟩
  · exact ⟨h.holds, h.nodup, h.mem⟩

theorem ignores (h : Lists s adapters reg) {adapter : Option α}
    (hnew : ∀ a ∈ reg, adapter ≠ some a) (evtMask : α → BitVec 32) :
    s.removeAdapter adapter evtMask = s :=
  LocApiBase.removeFrom_absent h.holds (fun a ha => hnew a ((h.mem a).mp ha)) evtMask _ _

theorem exec (h : Lists s adapters reg) (op : Op α)
    (hroom : (register reg op).card ≤ maxAdapters) :
    ∃ adapters', Lists (exec s op) adapters' (register reg op) := by
  rcases op with ⟨_ | adapter, evtMask⟩ | ⟨_ | adapter, evtMask⟩
  · refine ⟨adapters, ?_⟩
    have hsame := LocApiBase.addFrom_none s evtMask maxAdapters 0
    rw [LocApi.exec, LocApiBase.addAdapter, hsame]
    exact h
  · exact h.add adapter evtMask hroom
  · refine ⟨adapters, ?_⟩
    rw [LocApi.exec, h.ignores (fun _ _ => by simp)]
    exact h
  · rcases em (adapter ∈ reg) with hmem | hnew
    · obtain ⟨removed, adapters', last, heq, hlists, -⟩ := h.remove hmem evtMask
      refine ⟨adapters', ?_⟩
      rw [LocApi.exec, heq]
      exact hlists.tellRemoved last evtMask
    · refine ⟨adapters, ?_⟩
      have hsame : s.removeAdapter (some adapter) evtMask = s := by
        apply h.ignores
        rintro a ha heq
        exact hnew (Option.some.inj heq ▸ ha)
      rw [LocApi.exec, hsame, register, Finset.erase_eq_of_notMem hnew]
      exact h

theorem removes (h : Lists s adapters reg) {adapter : α} (hmem : adapter ∈ reg)
    (evtMask : α → BitVec 32) :
    ∃ e, (s.removeAdapter (some adapter) evtMask).effects = s.effects ++ [e] ∧
      TellsRemoval s.mExcludedMask evtMask reg adapter e := by
  obtain ⟨removed, adapters', last, heq, hlists, heffects, hmask, hlast⟩ := h.remove hmem evtMask
  rw [heq, ← heffects, LocApiBase.tellRemoved]
  split
  · rename_i hzero
    exact ⟨.close, rfl, hlast.mp hzero⟩
  · rename_i hpos
    refine ⟨.sendOpen (removed.getEvtMask evtMask), rfl, fun hreg => hpos (hlast.mpr hreg), ?_⟩
    intro k hk
    rw [LocApiBase.getEvtMask_bit hlists.holds, hmask]
    simp only [hlists.mem, hk, true_and]

theorem right (h : Lists s adapters reg) : Right s.mExcludedMask s reg where
  packed := by
    refine ⟨adapters.length, h.holds.fits, ?_⟩
    intro i hi
    rw [h.holds.get i hi, ne_eq, List.getElem?_eq_none_iff, Nat.not_le]
  once := by
    intro i hi j hj hset heq
    rw [h.holds.get i hi] at hset heq
    rw [h.holds.get j hj] at heq
    have hlt : i < adapters.length := by
      rw [ne_eq, List.getElem?_eq_none_iff, Nat.not_le] at hset
      exact hset
    exact (List.getElem?_inj hlt h.nodup).mp heq
  mem := by
    intro adapter
    rw [← h.mem, List.mem_iff_getElem?]
    constructor
    · rintro ⟨i, hi, hget⟩
      rw [h.holds.get i hi] at hget
      exact ⟨i, hget⟩
    · rintro ⟨i, hget⟩
      have hi : i < maxAdapters := by
        obtain ⟨hlt, -⟩ := List.getElem?_eq_some_iff.mp hget
        exact Nat.lt_of_lt_of_le hlt h.holds.fits
      refine ⟨i, hi, ?_⟩
      rw [h.holds.get i hi, hget]
  all := by
    rw [LocApiBase.toAll_eq h.holds]
    exact ⟨h.nodup, h.mem⟩
  first := by
    intro call
    rw [LocApiBase.to1st_eq h.holds, LocApiBase.toAll_eq h.holds]
    exact LocApiBase.upToFirst_spec call adapters
  removes := fun _ hmem evtMask => h.removes hmem evtMask
  ignores := fun _ hnew evtMask => h.ignores hnew evtMask

end Lists

theorem lists_execAll (excludedMask : BitVec 32) (ops : List (Op α))
    (hmax : ∀ first, first <+: ops → (registered first).card ≤ maxAdapters) :
    ∃ adapters, Lists (execAll excludedMask ops) adapters (registered ops) := by
  induction ops using List.reverseRecOn with
  | nil => exact ⟨[], holds_nil, List.nodup_nil, fun _ => by simp [registered]⟩
  | append_singleton ops op ih =>
      obtain ⟨adapters, hlists⟩ :=
        ih fun first hfirst => hmax first (hfirst.trans (List.prefix_append ops [op]))
      have hroom := hmax (ops ++ [op]) List.prefix_rfl
      rw [registered, List.foldl_append] at hroom
      rw [execAll, registered, List.foldl_append, List.foldl_append]
      exact hlists.exec op hroom

theorem execAll_mExcludedMask (excludedMask : BitVec 32) (ops : List (Op α)) :
    (execAll excludedMask ops).mExcludedMask = excludedMask := by
  induction ops using List.reverseRecOn with
  | nil => rfl
  | append_singleton ops op ih =>
      rw [execAll, List.foldl_append]
      change (exec (execAll excludedMask ops) op).mExcludedMask = excludedMask
      rcases op with ⟨adapter, evtMask⟩ | ⟨adapter, evtMask⟩
      · exact (LocApiBase.addFrom_mExcludedMask _ adapter evtMask _ _).trans ih
      · exact (LocApiBase.removeFrom_mExcludedMask _ adapter evtMask _ _).trans ih

/-- After any calls with at most `maxAdapters` registered at once, the list is
right. -/
theorem execAll_right (excludedMask : BitVec 32) (ops : List (Op α))
    (hmax : ∀ first, first <+: ops → (registered first).card ≤ maxAdapters) :
    Right excludedMask (execAll excludedMask ops) (registered ops) := by
  obtain ⟨adapters, hlists⟩ := lists_execAll excludedMask ops hmax
  have hright := hlists.right
  rw [execAll_mExcludedMask] at hright
  exact hright

theorem execAll_right_three :
    Right 2 (execAll 2 [.add (some 0) fun _ => 1, .add (some 1) fun _ => 2,
        .remove (some 0) fun _ => 3])
      (registered [.add (some 0) fun _ => 1, .add (some 1) fun _ => 2,
        .remove (some 0) fun _ => 3]) := by
  apply execAll_right
  intro first hfirst
  have hmem := (List.mem_inits _ _).mpr hfirst
  simp only [List.inits, List.map_cons, List.map_nil, List.mem_cons, List.not_mem_nil,
    or_false] at hmem
  rcases hmem with rfl | rfl | rfl | rfl <;> decide

end LibraDevice.LocApi
