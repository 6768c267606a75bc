import LibraDevice.Lib.StepRun
import LibraDevice.Utils.LinkedList
import Mathlib.Algebra.Order.Group.Multiset

/-!
Runs of operations on a linked list: the list stays well linked, each operation
serves as on the abstract sequence, and every object that was added is still
stored, was handed out once, or was passed once to its dealloc function; an
object without such a function may also just be dropped.
-/

namespace LibraDevice.Utils

open LibraDevice.NodeChain
open LibraDevice.StepRun

variable {α δ : Type}

/-- An operation with its arguments and, for `add`, the allocator's answer. -/
inductive ListOp (α δ : Type)
  | add (dataObj : Option α) (dealloc : Option δ) (elem : Option Nat)
  | remove (wanted : Bool)
  | search (equal : α → Bool) (copies rmIfFound : Bool)
  | flush

namespace ListOp

/-- A comparison without effects, as the search takes it. -/
def compare (equal : α → Bool) (_ : Unit) (x : α) : Option (Bool × Unit) :=
  some (equal x, ())

def perform (s : ListState α δ) : ListOp α δ → Option (Outcome α × ListState α δ)
  | add dataObj dealloc elem =>
      (s.add dataObj dealloc elem).map fun r => (⟨r.1, none⟩, r.2)
  | remove wanted => s.remove wanted
  | search equal copies rmIfFound =>
      (s.search (compare equal) copies rmIfFound ()).map fun r => (r.1, r.2.2)
  | flush => s.flush.map fun s' => (⟨.success, none⟩, s')

/-- The allocator gives no address that is in use. -/
def Fresh (s : ListState α δ) : ListOp α δ → Prop
  | add _ _ (some a) => s.elems a = none
  | _ => True

/-- What the operations do to the abstract sequence, head first: what they
return, what they leave, and which calls of dealloc functions they make. -/
inductive Serves :
    ListOp α δ → List (Entry α δ) → Outcome α → List (Entry α δ) → List (δ × α) → Prop
  | add (x : α) (f : Option δ) (a : Nat) (q : List (Entry α δ)) :
      Serves (.add (some x) f (some a)) q ⟨.success, none⟩ ((x, f) :: q) []
  | addNull (f : Option δ) (a : Option Nat) (q : List (Entry α δ)) :
      Serves (.add none f a) q ⟨.invalidParameter, none⟩ q []
  | addNoMemory (x : α) (f : Option δ) (q : List (Entry α δ)) :
      Serves (.add (some x) f none) q ⟨.failureGeneral, none⟩ q []
  | remove (q : List (Entry α δ)) (e : Entry α δ) :
      Serves (.remove true) (q ++ [e]) ⟨.success, some e.1⟩ q []
  | removeEmpty : Serves (.remove true) [] ⟨.unavailableResource, none⟩ [] []
  | removeNull (q : List (Entry α δ)) :
      Serves (.remove false) q ⟨.invalidParameter, none⟩ q []
  | searchEmpty (equal : α → Bool) (copies rmIfFound : Bool) :
      Serves (.search equal copies rmIfFound) [] ⟨.unavailableResource, none⟩ [] []
  | searchMiss (equal : α → Bool) (copies rmIfFound : Bool) (q : List (Entry α δ)) :
      q ≠ [] → (∀ e ∈ q, equal e.1 = false) →
      Serves (.search equal copies rmIfFound) q ⟨.success, none⟩ q []
  | searchLook (equal : α → Bool) (copies : Bool) (before : List (Entry α δ)) (e : Entry α δ)
      (behind : List (Entry α δ)) : (∀ y ∈ before, equal y.1 = false) → equal e.1 = true →
      Serves (.search equal copies false) (before ++ e :: behind)
        ⟨.success, if copies then some e.1 else none⟩ (before ++ e :: behind) []
  | searchRemove (equal : α → Bool) (copies : Bool) (before : List (Entry α δ)) (e : Entry α δ)
      (behind : List (Entry α δ)) : (∀ y ∈ before, equal y.1 = false) → equal e.1 = true →
      Serves (.search equal copies true) (before ++ e :: behind)
        ⟨.success, if copies then some e.1 else none⟩ (before ++ behind)
        (if copies then [] else deallocations [e])
  | flush (q : List (Entry α δ)) : Serves .flush q ⟨.success, none⟩ [] (deallocations q)

end ListOp

theorem searchSeq_compare (equal : α → Bool) (q : List (Entry α δ)) :
    (searchSeq (ListOp.compare equal) () q = some (none, ()) ∧ ∀ e ∈ q, equal e.1 = false) ∨
      ∃ before e behind, searchSeq (ListOp.compare equal) () q =
          some (some (before, e, behind), ()) ∧ q = before ++ e :: behind ∧
        (∀ y ∈ before, equal y.1 = false) ∧ equal e.1 = true := by
  induction q with
  | nil =>
      refine Or.inl ⟨rfl, ?_⟩
      intro e he
      cases he
  | cons e q ih =>
      simp only [searchSeq, ListOp.compare, Option.bind_eq_bind, Option.bind_some]
      cases he : equal e.1 with
      | true =>
          refine Or.inr ⟨[], e, q, rfl, rfl, ?_, he⟩
          intro y hy
          cases hy
      | false =>
          rcases ih with ⟨hseq, hmiss⟩ | ⟨before, x, behind, hseq, rfl, hbefore, hx⟩
          · refine Or.inl ⟨?_, ?_⟩
            · rw [hseq]
              rfl
            · intro y hy
              rcases List.mem_cons.mp hy with rfl | hy
              · exact he
              · exact hmiss y hy
          · refine Or.inr ⟨e :: before, x, behind, ?_, rfl, ?_, hx⟩
            · rw [hseq]
              rfl
            · intro y hy
              rcases List.mem_cons.mp hy with rfl | hy
              · exact he
              · exact hbefore y hy

namespace ListOp

theorem perform_serves {s : ListState α δ} {l : List (Nat × Entry α δ)} (h : s.Lists l)
    (op : ListOp α δ) (hfresh : op.Fresh s) :
    ∃ out s' q calls, op.perform s = some (out, s') ∧ s'.Holds q ∧
      s'.deallocated = s.deallocated ++ calls ∧ Serves op (l.map Prod.snd) out q calls := by
  have hsame : s.deallocated = s.deallocated ++ [] := (List.append_nil _).symm
  have hkept : s.Holds (l.map Prod.snd) := ⟨l, h, rfl⟩
  cases op with
  | add dataObj dealloc elem =>
      cases dataObj with
      | none => exact ⟨_, s, _, _, rfl, hkept, hsame, .addNull dealloc elem _⟩
      | some x =>
          cases elem with
          | none => exact ⟨_, s, _, _, rfl, hkept, hsame, .addNoMemory x dealloc _⟩
          | some a =>
              obtain ⟨s', hs', hl', hd'⟩ := h.add hfresh x dealloc
              refine ⟨_, s', _, _, ?_, ⟨_, hl', rfl⟩, ?_, .add x dealloc a _⟩
              · simp only [perform, hs', Option.map_some]
              · rw [hd', List.append_nil]
  | remove wanted =>
      cases wanted with
      | false => exact ⟨_, s, _, _, rfl, hkept, hsame, .removeNull _⟩
      | true =>
          rcases List.eq_nil_or_concat l with rfl | ⟨l, ⟨a, e⟩, rfl⟩
          · have htail := h.nil_iff.mpr rfl
            refine ⟨_, s, _, _, ?_, hkept, hsame, .removeEmpty⟩
            simp only [perform, ListState.remove, if_true, htail]
          · rw [List.concat_eq_append] at h ⊢
            obtain ⟨s', hs', hl', hd'⟩ := h.remove
            refine ⟨_, s', _, [], hs', ⟨_, hl', rfl⟩, ?_, ?_⟩
            · rw [hd', List.append_nil]
            · rw [List.map_append]
              exact .remove _ e
  | search equal copies rmIfFound =>
      have hsearch := h.search (compare equal) copies rmIfFound ()
      rcases searchSeq_compare equal (l.map Prod.snd) with
        ⟨hseq, hmiss⟩ | ⟨before, e, behind, hseq, hq, hbefore, he⟩
      · rw [hseq] at hsearch
        simp only at hsearch
        cases l with
        | nil =>
            refine ⟨_, s, _, _, ?_, hkept, hsame, .searchEmpty equal copies rmIfFound⟩
            simp only [perform, hsearch, Option.map_some, if_true]
        | cons e l =>
            refine ⟨_, s, _, _, ?_, hkept, hsame,
              .searchMiss equal copies rmIfFound _ (List.cons_ne_nil _ _) hmiss⟩
            simp only [perform, hsearch, Option.map_some, if_neg (List.cons_ne_nil e l)]
      · rw [hseq] at hsearch
        obtain ⟨s', hs', hsearched⟩ := hsearch
        rw [hq]
        cases rmIfFound with
        | false =>
            obtain rfl := hsearched.kept rfl
            rw [hq] at hkept
            refine ⟨_, s', _, _, ?_, hkept, hsame,
              .searchLook equal copies before e behind hbefore he⟩
            simp only [perform, hs', Option.map_some]
        | true =>
            refine ⟨_, s', _, _, ?_, hsearched.removed rfl, hsearched.dealloc rfl,
              .searchRemove equal copies before e behind hbefore he⟩
            simp only [perform, hs', Option.map_some]
  | flush =>
      obtain ⟨s', hs', hl', hd'⟩ := h.flush
      refine ⟨_, s', _, _, ?_, ⟨_, hl', rfl⟩, hd', .flush _⟩
      simp only [perform, hs', Option.map_some]

/-- The object that the operation puts into the list. -/
def adds (out : Outcome α) : ListOp α δ → Multiset (Entry α δ)
  | add (some x) f _ => if out.err = .success then {(x, f)} else 0
  | _ => 0

/-- The object that the operation takes out and gives to the caller. -/
def hands (out : Outcome α) : ListOp α δ → Multiset α
  | remove _ => out.data.toList
  | search _ _ true => out.data.toList
  | _ => 0

end ListOp

/-- The entry whose object a dealloc function was called with. -/
def entryOf (c : δ × α) : Entry α δ :=
  (c.2, some c.1)

theorem deallocations_rest (q : List (Entry α δ)) : ∃ dropped : Multiset (Entry α δ),
    (∀ e ∈ dropped, e.2 = none) ∧
      (q : Multiset (Entry α δ)) =
      Multiset.map entryOf (deallocations q : Multiset _) + dropped := by
  induction q with
  | nil => exact ⟨0, fun e he => absurd he (Multiset.notMem_zero e), rfl⟩
  | cons e q ih =>
      obtain ⟨dropped, hnone, hq⟩ := ih
      obtain ⟨x, f⟩ := e
      cases f with
      | none =>
          refine ⟨(x, none) ::ₘ dropped, ?_, ?_⟩
          · intro e he
            rcases Multiset.mem_cons.mp he with rfl | he
            · rfl
            · exact hnone e he
          · rw [← Multiset.cons_coe, hq, Multiset.add_cons]
            rfl
      | some f =>
          refine ⟨dropped, hnone, ?_⟩
          rw [← Multiset.cons_coe, hq, ← Multiset.cons_add]
          rfl

/-- Every object that was added is stored, was handed out, was passed to its
dealloc function, or was dropped for want of one, and only one of these. -/
def Accounted (added stored : Multiset (Entry α δ)) (handed : Multiset α)
    (deallocated : Multiset (δ × α)) : Prop :=
  ∃ gone dropped : Multiset (Entry α δ), gone.map Prod.fst = handed ∧
    (∀ e ∈ dropped, e.2 = none) ∧ added = stored + gone + deallocated.map entryOf + dropped

theorem not_mem_zero_dropped (e : Entry α δ) (he : e ∈ (0 : Multiset (Entry α δ))) :
    e.2 = none :=
  absurd he (Multiset.notMem_zero e)

theorem accounted_idle (q : Multiset (Entry α δ)) : Accounted (q + 0) q 0 0 := by
  refine ⟨0, 0, rfl, not_mem_zero_dropped, ?_⟩
  rw [Multiset.map_zero, add_zero, add_zero, add_zero]

theorem Accounted.trans {added added' q q' : Multiset (Entry α δ)} {handed handed' : Multiset α}
    {calls calls' : Multiset (δ × α)} (h : Accounted added q handed calls)
    (h' : Accounted (q + added') q' handed' calls') :
    Accounted (added + added') q' (handed + handed') (calls + calls') := by
  obtain ⟨gone, dropped, rfl, hnone, rfl⟩ := h
  obtain ⟨gone', dropped', rfl, hnone', hq⟩ := h'
  refine ⟨gone + gone', dropped + dropped', Multiset.map_add _ _ _, ?_, ?_⟩
  · intro e he
    rcases Multiset.mem_add.mp he with he | he
    · exact hnone e he
    · exact hnone' e he
  · calc
      q + gone + calls.map entryOf + dropped + added' =
          q + added' + (gone + calls.map entryOf + dropped) := by ac_rfl
      _ = q' + gone' + calls'.map entryOf + dropped' + (gone + calls.map entryOf + dropped) := by
        rw [hq]
      _ = q' + (gone + gone') + (calls.map entryOf + calls'.map entryOf) +
          (dropped + dropped') := by ac_rfl
      _ = q' + (gone + gone') + (calls + calls').map entryOf + (dropped + dropped') := by
        rw [Multiset.map_add]

theorem coe_middle (before behind : List (Entry α δ)) (e : Entry α δ) :
    ((before ++ e :: behind : List (Entry α δ)) : Multiset (Entry α δ)) =
      ((before ++ behind : List (Entry α δ)) : Multiset (Entry α δ)) + {e} := by
  rw [← Multiset.coe_singleton, Multiset.coe_add, Multiset.coe_eq_coe]
  exact List.perm_middle.trans (List.perm_append_singleton e _).symm

theorem ListOp.Serves.accounted {op : ListOp α δ} {q q' : List (Entry α δ)} {out : Outcome α}
    {calls : List (δ × α)} (h : op.Serves q out q' calls) :
    Accounted ((q : Multiset (Entry α δ)) + op.adds out) q' (op.hands out) calls := by
  cases h with
  | add x f a q =>
      refine ⟨0, 0, rfl, not_mem_zero_dropped, ?_⟩
      rw [Multiset.coe_nil, Multiset.map_zero, add_zero, add_zero, add_zero, ← Multiset.cons_coe,
        ← Multiset.singleton_add, add_comm]
      rfl
  | addNull f a q => exact accounted_idle _
  | addNoMemory x f q => exact accounted_idle _
  | remove q e =>
      refine ⟨{e}, 0, rfl, not_mem_zero_dropped, ?_⟩
      rw [Multiset.coe_nil, Multiset.map_zero, add_zero, add_zero, ← Multiset.coe_singleton,
        Multiset.coe_add]
      exact add_zero _
  | removeEmpty => exact accounted_idle _
  | removeNull q => exact accounted_idle _
  | searchEmpty equal copies rm =>
      cases rm with
      | false => exact accounted_idle _
      | true => exact accounted_idle _
  | searchMiss equal copies rm q hne hmiss =>
      cases rm with
      | false => exact accounted_idle _
      | true => exact accounted_idle _
  | searchLook equal copies before e behind hbefore he => exact accounted_idle _
  | searchRemove equal copies before e behind hbefore he =>
      rw [coe_middle]
      cases copies with
      | true =>
          refine ⟨{e}, 0, rfl, not_mem_zero_dropped, ?_⟩
          simp only [if_true]
          rw [Multiset.coe_nil, Multiset.map_zero, add_zero, add_zero]
          exact add_zero _
      | false =>
          obtain ⟨dropped, hnone, hq⟩ := deallocations_rest [e]
          refine ⟨0, dropped, rfl, hnone, ?_⟩
          rw [← Multiset.coe_singleton, hq, add_zero]
          exact (add_zero _).trans (add_assoc _ _ _).symm
  | flush q =>
      obtain ⟨dropped, hnone, hq⟩ := deallocations_rest q
      refine ⟨0, dropped, rfl, hnone, ?_⟩
      rw [hq, Multiset.coe_nil, add_zero, zero_add]
      exact add_zero _

/-- A list in use: what has been added to it and handed out of it so far. -/
structure Usage (α δ : Type) where
  list : ListState α δ
  added : Multiset (Entry α δ)
  handed : Multiset α

namespace Usage

def init (α δ : Type) : Usage α δ where
  list := ListState.init α δ
  added := 0
  handed := 0

def Step (u : Usage α δ) (op : ListOp α δ) (u' : Usage α δ) : Prop :=
  op.Fresh u.list ∧ ∃ out, op.perform u.list = some (out, u'.list) ∧
    u'.added = u.added + op.adds out ∧ u'.handed = u.handed + op.hands out

/-- The list in the heap describes a sequence, and every object is accounted. -/
def Sound (u : Usage α δ) : Prop :=
  ∃ l, u.list.Lists l ∧
    Accounted u.added (l.map Prod.snd : List (Entry α δ)) u.handed u.list.deallocated

theorem init_sound : (init α δ).Sound :=
  ⟨[], ListState.init_lists, 0, 0, rfl, not_mem_zero_dropped, rfl⟩

theorem Sound.step {u u' : Usage α δ} {op : ListOp α δ} (h : u.Sound) (hs : u.Step op u') :
    u'.Sound := by
  obtain ⟨l, hl, hacc⟩ := h
  obtain ⟨hfresh, out, hout, hadded, hhanded⟩ := hs
  obtain ⟨out', s', q, calls, hperform, ⟨l', hl', rfl⟩, hcalls, hserves⟩ :=
    ListOp.perform_serves hl op hfresh
  rw [hout] at hperform
  cases hperform
  refine ⟨l', hl', ?_⟩
  rw [hadded, hhanded, hcalls, ← Multiset.coe_add]
  exact hacc.trans hserves.accounted

theorem run_sound {ops : List (ListOp α δ)} {u : Usage α δ} (h : Run Step (init α δ) ops u) :
    u.Sound :=
  h.invariant init_sound fun _ _ _ hu hs => hu.step hs

end Usage

end LibraDevice.Utils
