import LibraDevice.Lib.NodeChain

/-!
The linked list of the GPS utilities. Elements are allocated in the heap and
linked both ways; new ones go in at the head, removal takes the tail. A read of
an element that is not allocated is a fault, and the operation then has no
result. Against the abstract sequence none of the operations faults, and each
leaves the pointers describing the sequence that it should leave.
-/

namespace LibraDevice.Utils

open LibraDevice.NodeChain

/-- `linked_list_err_type`. -/
inductive LinkedListErr
  | success
  | failureGeneral
  | invalidParameter
  | invalidHandle
  | unavailableResource
  | insufficientBuffer
deriving DecidableEq, Repr

structure ListElement (α δ : Type) where
  next : Option Nat
  prev : Option Nat
  dataPtr : α
  deallocFunc : Option δ
deriving DecidableEq, Repr

/-- What an element stores: the object and the function that deallocates it. -/
abbrev Entry (α δ : Type) := α × Option δ

/-- `list_state` with the elements in the heap, their number, and the calls of
the dealloc functions so far. -/
structure ListState (α δ : Type) where
  pHead : Option Nat
  pTail : Option Nat
  elems : Nat → Option (ListElement α δ)
  live : Nat
  deallocated : List (δ × α)

/-- What an operation returns, and what it stores behind its out parameter. -/
structure Outcome (α : Type) where
  err : LinkedListErr
  data : Option α
deriving DecidableEq, Repr

namespace ListState

variable {α δ σ : Type}

/-- `linked_list_init`. -/
def init (α δ : Type) : ListState α δ where
  pHead := none
  pTail := none
  elems := fun _ => none
  live := 0
  deallocated := []

/-- `free` of the element at `a`. -/
def free (a : Nat) (s : ListState α δ) : ListState α δ :=
  { s with elems := Function.update s.elems a none, live := s.live - 1 }

/-- The call of the dealloc function, where there is one. -/
def dealloc (e : ListElement α δ) (s : ListState α δ) : ListState α δ :=
  match e.deallocFunc with
  | none => s
  | some f => { s with deallocated := s.deallocated ++ [(f, e.dataPtr)] }

/-- The link that leads on from `b`, or the head, becomes `n`. -/
def linkNext (b n : Option Nat) (s : ListState α δ) : Option (ListState α δ) :=
  match b with
  | none => some { s with pHead := n }
  | some b => do
      let e ← s.elems b
      some { s with elems := Function.update s.elems b (some { e with next := n }) }

/-- The link that leads back from `b`, or the tail, becomes `r`. -/
def linkPrev (b r : Option Nat) (s : ListState α δ) : Option (ListState α δ) :=
  match b with
  | none => some { s with pTail := r }
  | some b => do
      let e ← s.elems b
      some { s with elems := Function.update s.elems b (some { e with prev := r }) }

/-- `linked_list_add`. The allocator gives the address `elem`, or none. -/
def add (dataObj : Option α) (dealloc : Option δ) (elem : Option Nat) (s : ListState α δ) :
    Option (LinkedListErr × ListState α δ) :=
  match dataObj, elem with
  | none, _ => some (.invalidParameter, s)
  | some _, none => some (.failureGeneral, s)
  | some dataObj, some elem => do
      let tmp := s.pHead
      let s : ListState α δ :=
        { s with
          elems := Function.update s.elems elem (some ⟨tmp, none, dataObj, dealloc⟩)
          live := s.live + 1
          pHead := some elem }
      let s ← s.linkPrev tmp (some elem)
      some (.success, s)

/-- `linked_list_remove`; `wanted` says whether there is an out parameter. -/
def remove (wanted : Bool) (s : ListState α δ) : Option (Outcome α × ListState α δ) :=
  if wanted then
    match s.pTail with
    | none => some (⟨.unavailableResource, none⟩, s)
    | some tmp => do
        let e ← s.elems tmp
        let s : ListState α δ := { s with pTail := e.prev }
        let s ← s.linkNext e.prev none
        some (⟨.success, some e.dataPtr⟩, s.free tmp)
  else
    some (⟨.invalidParameter, none⟩, s)

/-- `linked_list_empty`. -/
def isEmpty (s : ListState α δ) : Bool :=
  s.pHead.isNone

/-- The loop of `linked_list_flush`. -/
def flushFrom : Nat → ListState α δ → Option (ListState α δ)
  | 0, s =>
      match s.pHead with
      | none => some { s with pTail := none }
      | some _ => none
  | n + 1, s =>
      match s.pHead with
      | none => some { s with pTail := none }
      | some head => do
          let e ← s.elems head
          flushFrom n { (s.dealloc e).free head with pHead := e.next }

/-- `linked_list_flush`. -/
def flush (s : ListState α δ) : Option (ListState α δ) :=
  s.flushFrom s.live

/-- The element at `tmp` is taken out of the list. -/
def unlink (tmp : Nat) (s : ListState α δ) : Option (ListState α δ) := do
  let e ← s.elems tmp
  let s ← s.linkNext e.prev e.next
  let e ← s.elems tmp
  s.linkPrev e.next e.prev

/-- The loop of `linked_list_search`, from the element at `tmp`. The comparison
may itself have effects, on `c`, and may fault. -/
def searchFrom (equal : σ → α → Option (Bool × σ)) (copies rmIfFound : Bool) :
    Nat → Option Nat → σ → ListState α δ → Option (Option α × σ × ListState α δ)
  | _, none, c, s => some (none, c, s)
  | 0, some _, _, _ => none
  | n + 1, some tmp, c, s => do
      let e ← s.elems tmp
      let (found, c) ← equal c e.dataPtr
      if found then
        if rmIfFound then
          let s ← s.unlink tmp
          -- the data is deallocated if it is not copied out
          let s := if copies then s else s.dealloc e
          some (some e.dataPtr, c, s.free tmp)
        else
          some (some e.dataPtr, c, s)
      else
        searchFrom equal copies rmIfFound n e.next c s

/-- `linked_list_search`; `copies` says whether there is an out parameter. -/
def search (equal : σ → α → Option (Bool × σ)) (copies rmIfFound : Bool) (c : σ)
    (s : ListState α δ) : Option (Outcome α × σ × ListState α δ) :=
  match s.pTail with
  | none => some (⟨.unavailableResource, none⟩, c, s)
  | some _ => do
      let (found, c, s) ← s.searchFrom equal copies rmIfFound s.live s.pHead c
      some (⟨.success, if copies then found else none⟩, c, s)

/-- The elements as nodes of the list from the head on. -/
def nexts (s : ListState α δ) (a : Nat) : Option (Cell (Entry α δ)) :=
  (s.elems a).map fun e => ⟨(e.dataPtr, e.deallocFunc), e.next⟩

/-- The elements as nodes of the list from the tail on. -/
def prevs (s : ListState α δ) (a : Nat) : Option (Cell (Entry α δ)) :=
  (s.elems a).map fun e => ⟨(e.dataPtr, e.deallocFunc), e.prev⟩

/-- Head, tail and the links of the allocated elements describe the list `l`,
in both directions. -/
structure Lists (s : ListState α δ) (l : List (Nat × Entry α δ)) : Prop where
  linked : Linked s.nexts s.prevs s.pHead s.pTail l
  live : s.live = l.length
  owned : ∀ a e, s.elems a = some e → a ∈ addrs l

/-- The list in the heap is the abstract sequence `q`, head first. -/
def Holds (s : ListState α δ) (q : List (Entry α δ)) : Prop :=
  ∃ l, s.Lists l ∧ l.map Prod.snd = q

end ListState

/-- The calls that a flush of the sequence makes. -/
def deallocations (q : List (Entry α δ)) : List (δ × α) :=
  q.filterMap fun e => e.2.map fun f => (f, e.1)

namespace ListState

variable {s s' : ListState α δ} {l l' : List (Nat × Entry α δ)} {a : Nat} {x : α}
  {f : Option δ}

theorem nexts_eq_some {c : Cell (Entry α δ)} (h : s.nexts a = some c) :
    ∃ e, s.elems a = some e ∧ (e.dataPtr, e.deallocFunc) = c.data ∧ e.next = c.next := by
  obtain ⟨e, he, rfl⟩ := Option.map_eq_some_iff.mp h
  exact ⟨e, he, rfl, rfl⟩

theorem Lists.read (h : s.Lists (l ++ (a, (x, f)) :: l')) :
    s.elems a = some ⟨(addrs l').head?, (addrs l).getLast?, x, f⟩ := by
  obtain ⟨hn, hp⟩ := h.linked.links
  obtain ⟨e, he, hdata, hnext⟩ := nexts_eq_some hn
  rw [prevs, he, Option.map_some] at hp
  cases e
  cases hp
  cases hnext
  exact he

theorem Lists.isSome (h : s.Lists l) (ha : a ∈ addrs l) : ∃ e, s.elems a = some e := by
  obtain ⟨⟨b, y⟩, hy, rfl⟩ := List.mem_map.mp ha
  obtain ⟨n, hn⟩ := h.linked.forward.read hy
  obtain ⟨e, he, -, -⟩ := nexts_eq_some hn
  exact ⟨e, he⟩

theorem Lists.fresh (h : s.Lists l) (ha : s.elems a = none) : a ∉ addrs l := by
  intro hmem
  obtain ⟨e, he⟩ := h.isSome hmem
  rw [ha] at he
  cases he

theorem init_lists : (init α δ).Lists [] where
  linked := linked_nil _ _
  live := rfl
  owned := fun _ _ he => by cases he

theorem Lists.nil_iff (h : s.Lists l) : s.pTail = none ↔ l = [] := by
  rw [h.linked.tail_eq, List.getLast?_eq_none_iff]
  exact List.map_eq_nil_iff

theorem linkNext_spec {b : Option Nat} (n : Option Nat)
    (hb : ∀ c, b = some c → ∃ e, s.elems c = some e) :
    ∃ s', s.linkNext b n = some s' ∧ s'.nexts = (relinked s.nexts s.pHead b n).1 ∧
      s'.pHead = (relinked s.nexts s.pHead b n).2 ∧ s'.prevs = s.prevs ∧
      s'.pTail = s.pTail ∧ s'.live = s.live ∧ s'.deallocated = s.deallocated := by
  cases b with
  | none => exact ⟨_, rfl, rfl, rfl, rfl, rfl, rfl, rfl⟩
  | some b =>
      obtain ⟨e, he⟩ := hb b rfl
      refine ⟨{ s with elems := Function.update s.elems b (some { e with next := n }) }, ?_, ?_,
        rfl, ?_, rfl, rfl, rfl⟩
      · simp only [linkNext, he, Option.bind_eq_bind, Option.bind_some]
      · funext c
        rcases eq_or_ne c b with rfl | hc
        · simp only [nexts, relinked, Function.update_self, he, Option.map_some]
        · simp only [nexts, relinked, Function.update_of_ne hc]
      · funext c
        rcases eq_or_ne c b with rfl | hc
        · simp only [prevs, Function.update_self, he, Option.map_some]
        · simp only [prevs, Function.update_of_ne hc]

theorem linkPrev_spec {b : Option Nat} (r : Option Nat)
    (hb : ∀ c, b = some c → ∃ e, s.elems c = some e) :
    ∃ s', s.linkPrev b r = some s' ∧ s'.prevs = (relinked s.prevs s.pTail b r).1 ∧
      s'.pTail = (relinked s.prevs s.pTail b r).2 ∧ s'.nexts = s.nexts ∧
      s'.pHead = s.pHead ∧ s'.live = s.live ∧ s'.deallocated = s.deallocated := by
  cases b with
  | none => exact ⟨_, rfl, rfl, rfl, rfl, rfl, rfl, rfl⟩
  | some b =>
      obtain ⟨e, he⟩ := hb b rfl
      refine ⟨{ s with elems := Function.update s.elems b (some { e with prev := r }) }, ?_, ?_,
        rfl, ?_, rfl, rfl, rfl⟩
      · simp only [linkPrev, he, Option.bind_eq_bind, Option.bind_some]
      · funext c
        rcases eq_or_ne c b with rfl | hc
        · simp only [prevs, relinked, Function.update_self, he, Option.map_some]
        · simp only [prevs, relinked, Function.update_of_ne hc]
      · funext c
        rcases eq_or_ne c b with rfl | hc
        · simp only [nexts, Function.update_self, he, Option.map_some]
        · simp only [nexts, Function.update_of_ne hc]

theorem elems_of_nexts (h : s'.nexts = s.nexts) :
    (∃ e, s'.elems a = some e) ↔ ∃ e, s.elems a = some e := by
  have ha := congrFun h a
  rw [nexts, nexts] at ha
  rw [← Option.isSome_iff_exists, ← Option.isSome_iff_exists,
    ← Option.isSome_map (f := fun e : ListElement α δ =>
      (⟨(e.dataPtr, e.deallocFunc), e.next⟩ : Cell (Entry α δ))), ha, Option.isSome_map]

theorem elems_of_prevs (h : s'.prevs = s.prevs) :
    (∃ e, s'.elems a = some e) ↔ ∃ e, s.elems a = some e := by
  have ha := congrFun h a
  rw [prevs, prevs] at ha
  rw [← Option.isSome_iff_exists, ← Option.isSome_iff_exists,
    ← Option.isSome_map (f := fun e : ListElement α δ =>
      (⟨(e.dataPtr, e.deallocFunc), e.prev⟩ : Cell (Entry α δ))), ha, Option.isSome_map]

theorem free_lists (h : Linked s.nexts s.prevs s.pHead s.pTail l) (ha : a ∉ addrs l)
    (hlive : s.live = l.length + 1)
    (howned : ∀ b, (∃ e, s.elems b = some e) → b = a ∨ b ∈ addrs l) : (s.free a).Lists l where
  linked := by
    have hne : ∀ b ∈ addrs l, (s.free a).elems b = s.elems b := by
      intro b hb
      refine Function.update_of_ne ?_ _ _
      rintro rfl
      exact ha hb
    refine h.congr (fun b hb => ?_) (fun b hb => ?_)
    · rw [nexts, nexts, hne b hb]
    · rw [prevs, prevs, hne b hb]
  live := by
    change s.live - 1 = l.length
    omega
  owned := by
    intro b e he
    change Function.update s.elems a none b = some e at he
    rcases eq_or_ne b a with rfl | hne
    · rw [Function.update_self] at he
      cases he
    · rw [Function.update_of_ne hne] at he
      exact (howned b ⟨e, he⟩).resolve_left hne

theorem Lists.unlink (h : s.Lists (l ++ (a, (x, f)) :: l')) :
    ∃ s', s.unlink a = some s' ∧ (s'.free a).Lists (l ++ l') ∧
      s'.deallocated = s.deallocated := by
  have he := h.read
  have hnodup := h.linked.nodup
  rw [addrs_append, addrs_cons, List.nodup_middle, List.nodup_cons, ← addrs_append] at hnodup
  have hlast : ∀ c, (addrs l).getLast? = some c → c ∈ addrs l := fun c => List.mem_of_getLast?
  obtain ⟨s₁, hs₁, hn₁, hh₁, hp₁, ht₁, hl₁, hd₁⟩ :=
    linkNext_spec (s := s) (b := (addrs l).getLast?) (addrs l').head? (by
      intro c hc
      refine h.isSome ?_
      rw [addrs_append]
      exact List.mem_append_left _ (hlast c hc))
  have hsame₁ : ∀ b, (∃ e, s₁.elems b = some e) ↔ ∃ e, s.elems b = some e :=
    fun b => elems_of_prevs hp₁
  -- the element itself is not the one that was redirected
  have he₁ : s₁.elems a = some ⟨(addrs l').head?, (addrs l).getLast?, x, f⟩ := by
    have hnext : s₁.nexts a = s.nexts a := by
      rw [hn₁]
      cases hb : (addrs l).getLast? with
      | none => rfl
      | some b =>
          refine Function.update_of_ne ?_ _ _
          rintro rfl
          exact hnodup.1 (by
            rw [addrs_append]
            exact List.mem_append_left _ (hlast a hb))
    have hprev : s₁.prevs a = s.prevs a := congrFun hp₁ a
    rw [nexts, nexts, he] at hnext
    rw [prevs, prevs, he] at hprev
    obtain ⟨⟨n, r, y, g⟩, hy, hcell⟩ := Option.map_eq_some_iff.mp hnext
    rw [hy] at hprev ⊢
    cases hcell
    cases hprev
    rfl
  obtain ⟨s₂, hs₂, hp₂, ht₂, hn₂, hh₂, hl₂, hd₂⟩ :=
    linkPrev_spec (s := s₁) (b := (addrs l').head?) (addrs l).getLast? (by
      intro c hc
      rw [hsame₁]
      refine h.isSome ?_
      rw [addrs_append, addrs_cons]
      exact List.mem_append_right _ (List.mem_cons_of_mem _ (List.mem_of_mem_head? hc)))
  refine ⟨s₂, ?_, free_lists ?_ hnodup.1 ?_ ?_, hd₂.trans hd₁⟩
  · simp only [ListState.unlink, he, hs₁, he₁, hs₂, Option.bind_eq_bind, Option.bind_some]
  · rw [hn₂, hp₂, hh₂, ht₂, hn₁, hh₁, hp₁, ht₁]
    obtain ⟨hn, hp⟩ := h.linked.links
    exact h.linked.unlink hn hp
  · rw [hl₂, hl₁, h.live]
    simp only [List.length_append, List.length_cons]
    omega
  · intro b hb
    obtain ⟨e, hb⟩ := (hsame₁ b).mp ((elems_of_nexts hn₂).mp hb)
    have hmem := h.owned b e hb
    rw [addrs_append, addrs_cons, List.mem_append, List.mem_cons] at hmem
    rw [addrs_append, List.mem_append]
    rcases hmem with hmem | rfl | hmem
    · exact Or.inr (Or.inl hmem)
    · exact Or.inl rfl
    · exact Or.inr (Or.inr hmem)

theorem Lists.add (h : s.Lists l) (ha : s.elems a = none) (x : α) (f : Option δ) :
    ∃ s', s.add (some x) f (some a) = some (.success, s') ∧ s'.Lists ((a, (x, f)) :: l) ∧
      s'.deallocated = s.deallocated := by
  have hfresh := h.fresh ha
  have hhead := h.linked.head_eq
  let s₁ : ListState α δ :=
    { s with
      elems := Function.update s.elems a (some ⟨s.pHead, none, x, f⟩)
      live := s.live + 1
      pHead := some a }
  have hself : s₁.elems a = some ⟨s.pHead, none, x, f⟩ := Function.update_self ..
  have hne : ∀ b ∈ addrs l, s₁.elems b = s.elems b := by
    intro b hb
    refine Function.update_of_ne ?_ _ _
    rintro rfl
    exact hfresh hb
  obtain ⟨s₂, hs₂, hp₂, ht₂, hn₂, hh₂, hl₂, hd₂⟩ :=
    linkPrev_spec (s := s₁) (b := s.pHead) (some a) (by
      intro c hc
      have hmem : c ∈ addrs l := List.mem_of_mem_head? (hhead ▸ hc)
      rw [hne c hmem]
      exact h.isSome hmem)
  refine ⟨s₂, ?_, ⟨?_, ?_, ?_⟩, hd₂⟩
  · simp only [ListState.add, Option.bind_eq_bind, Option.bind_eq_some_iff]
    exact ⟨s₂, hs₂, rfl⟩
  · have hlinked : Linked s₁.nexts s₁.prevs s.pHead s.pTail l := by
      refine h.linked.congr (fun b hb => ?_) (fun b hb => ?_)
      · rw [nexts, nexts, hne b hb]
      · rw [prevs, prevs, hne b hb]
    rw [hn₂, hp₂, hh₂, ht₂]
    refine hlinked.pushFront hfresh ?_ ?_
    · rw [nexts, hself]
      rfl
    · rw [prevs, hself]
      rfl
  · rw [hl₂, List.length_cons, ← h.live]
  · intro b e he
    obtain ⟨e, he⟩ := (elems_of_nexts hn₂).mp ⟨e, he⟩
    rcases eq_or_ne b a with rfl | hb
    · exact List.mem_cons_self
    · change Function.update s.elems a _ b = some e at he
      rw [Function.update_of_ne hb] at he
      exact List.mem_cons_of_mem _ (h.owned b e he)

theorem Lists.remove (h : s.Lists (l ++ [(a, (x, f))])) :
    ∃ s', s.remove true = some (⟨.success, some x⟩, s') ∧ s'.Lists l ∧
      s'.deallocated = s.deallocated := by
  have he := h.read
  have htail : s.pTail = some a := by
    rw [h.linked.tail_eq, addrs_append, addrs_cons, addrs_nil, List.getLast?_concat]
  have hnodup := h.linked.nodup
  rw [addrs_append, addrs_cons, List.nodup_middle, List.nodup_cons, addrs_nil,
    List.append_nil] at hnodup
  obtain ⟨s₁, hs₁, hn₁, hh₁, hp₁, ht₁, hl₁, hd₁⟩ :=
    linkNext_spec (s := { s with pTail := (addrs l).getLast? }) (b := (addrs l).getLast?) none (by
      intro c hc
      refine h.isSome ?_
      rw [addrs_append]
      exact List.mem_append_left _ (List.mem_of_getLast? hc))
  refine ⟨s₁.free a, ?_, free_lists ?_ hnodup.1 ?_ ?_, hd₁⟩
  · simp only [ListState.remove, if_true, htail, he, Option.bind_eq_bind, Option.bind_some, hs₁]
  · obtain ⟨hn, hp⟩ := h.linked.links
    have hlinked := h.linked.unlink hn hp
    rw [List.append_nil] at hlinked
    rw [hn₁, hp₁, hh₁, ht₁]
    exact hlinked
  · rw [hl₁]
    change s.live = l.length + 1
    rw [h.live, List.length_append, List.length_singleton]
  · intro b hb
    obtain ⟨e, hb⟩ := (elems_of_prevs hp₁).mp hb
    have hmem := h.owned b e hb
    rw [addrs_append, addrs_cons, addrs_nil, List.mem_append, List.mem_singleton] at hmem
    exact hmem.symm

theorem dealloc_spec (e : ListElement α δ) (s : ListState α δ) :
    (s.dealloc e).elems = s.elems ∧ (s.dealloc e).live = s.live ∧
      (s.dealloc e).deallocated =
        s.deallocated ++ deallocations [(e.dataPtr, e.deallocFunc)] := by
  cases hf : e.deallocFunc with
  | none =>
      have hs : s.dealloc e = s := by simp only [dealloc, hf]
      rw [hs]
      exact ⟨rfl, rfl, (List.append_nil _).symm⟩
  | some f =>
      have hs : s.dealloc e = { s with deallocated := s.deallocated ++ [(f, e.dataPtr)] } := by
        simp only [dealloc, hf]
      rw [hs]
      exact ⟨rfl, rfl, rfl⟩

theorem Lists.dealloc (h : (s.free a).Lists l) (e : ListElement α δ) :
    ((s.dealloc e).free a).Lists l := by
  cases hf : e.deallocFunc with
  | none =>
      have hs : s.dealloc e = s := by simp only [ListState.dealloc, hf]
      rw [hs]
      exact h
  | some f =>
      have hs : s.dealloc e = { s with deallocated := s.deallocated ++ [(f, e.dataPtr)] } := by
        simp only [ListState.dealloc, hf]
      rw [hs]
      exact ⟨h.linked, h.live, h.owned⟩

/-- The loop of `linked_list_flush`, which only looks at the forward links, as
the backward ones go stale. -/
theorem flushFrom_spec {n : Nat} (h : Seg s.nexts s.pHead l none) (hnodup : (addrs l).Nodup)
    (hlive : s.live = l.length) (howned : ∀ a e, s.elems a = some e → a ∈ addrs l)
    (hn : l.length ≤ n) :
    ∃ s', s.flushFrom n = some s' ∧ s'.Lists [] ∧
      s'.deallocated = s.deallocated ++ deallocations (l.map Prod.snd) := by
  induction l generalizing s n with
  | nil =>
      have hhead : s.pHead = none := h
      refine ⟨{ s with pTail := none }, ?_, ⟨⟨hhead, rfl, List.nodup_nil⟩, hlive, howned⟩, ?_⟩
      · cases n <;> simp only [ListState.flushFrom, hhead]
      · exact (List.append_nil _).symm
  | cons e l ih =>
      obtain ⟨a, x, f⟩ := e
      obtain ⟨n, rfl⟩ := Nat.exists_eq_succ_of_ne_zero (Nat.ne_zero_of_lt hn)
      obtain ⟨hhead, m, hm, hs⟩ := h
      obtain ⟨e, he, hdata, rfl⟩ := nexts_eq_some hm
      rw [addrs_cons, List.nodup_cons] at hnodup
      obtain ⟨hdelems, hdlive, hdealloc⟩ := dealloc_spec e s
      let s₁ : ListState α δ := { (s.dealloc e).free a with pHead := e.next }
      have helems : s₁.elems = Function.update s.elems a none := by
        rw [← hdelems]
        rfl
      have hlive₁ : s₁.live = l.length := by
        change (s.dealloc e).live - 1 = l.length
        rw [hdlive, hlive]
        rfl
      obtain ⟨s', hs', hl', hd'⟩ := ih (s := s₁) (n := n) (by
          refine hs.congr fun b hb => ?_
          rw [nexts, nexts, helems, Function.update_of_ne]
          rintro rfl
          exact hnodup.1 hb) hnodup.2 hlive₁ (by
          intro b e hb
          rw [helems] at hb
          rcases eq_or_ne b a with rfl | hne
          · rw [Function.update_self] at hb
            cases hb
          · rw [Function.update_of_ne hne] at hb
            exact (List.mem_cons.mp (howned b e hb)).resolve_left hne) (Nat.le_of_succ_le_succ hn)
      refine ⟨s', ?_, hl', ?_⟩
      · simp only [ListState.flushFrom, hhead, he, Option.bind_eq_bind, Option.bind_some]
        exact hs'
      · have hd₁ : s₁.deallocated = s.deallocated ++ deallocations [(x, f)] := by
          change (e.dataPtr, e.deallocFunc) = (x, f) at hdata
          rw [← hdata]
          exact hdealloc
        rw [hd', hd₁, List.append_assoc]
        simp only [deallocations, ← List.filterMap_append]
        rfl

theorem Lists.flush (h : s.Lists l) :
    ∃ s', s.flush = some s' ∧ s'.Lists [] ∧
      s'.deallocated = s.deallocated ++ deallocations (l.map Prod.snd) :=
  flushFrom_spec h.linked.forward h.linked.nodup h.live h.owned (Nat.le_of_eq h.live.symm)

end ListState

/-- The search on the abstract sequence: what stands before the first match,
the match, and what stands behind it. -/
def searchSeq (equal : σ → α → Option (Bool × σ)) :
    σ → List (Entry α δ) →
      Option (Option (List (Entry α δ) × Entry α δ × List (Entry α δ)) × σ)
  | c, [] => some (none, c)
  | c, e :: q => do
      let (found, c) ← equal c e.1
      if found then
        some (some ([], e, q), c)
      else
        let (result, c) ← searchSeq equal c q
        some (result.map fun r => (e :: r.1, r.2), c)

namespace ListState

variable (equal : σ → α → Option (Bool × σ)) (copies rmIfFound : Bool) (c : σ)
  {s s' : ListState α δ} {l k : List (Nat × Entry α δ)}

/-- What a search that finds `e` leaves of the list. -/
structure Searched (copies rmIfFound : Bool) (s s' : ListState α δ) (before : List (Entry α δ))
    (e : Entry α δ) (behind : List (Entry α δ)) : Prop where
  kept : rmIfFound = false → s' = s
  removed : rmIfFound = true → s'.Holds (before ++ behind)
  dealloc : rmIfFound = true →
    s'.deallocated = s.deallocated ++ if copies then [] else deallocations [e]

/-- The loop of `linked_list_search`, the elements of `k` being behind it,
faults exactly where the comparison does. -/
theorem Lists.searchFrom {n : Nat} (h : s.Lists (k ++ l)) (hn : l.length ≤ n) :
    match searchSeq equal c (l.map Prod.snd) with
    | none => s.searchFrom equal copies rmIfFound n (addrs l).head? c = none
    | some (none, c') =>
        s.searchFrom equal copies rmIfFound n (addrs l).head? c = some (none, c', s)
    | some (some (before, e, behind), c') => ∃ s',
        s.searchFrom equal copies rmIfFound n (addrs l).head? c = some (some e.1, c', s') ∧
          Searched copies rmIfFound s s' (k.map Prod.snd ++ before) e behind := by
  induction l generalizing k n c with
  | nil =>
      cases n <;> rfl
  | cons e l ih =>
      obtain ⟨a, x, f⟩ := e
      obtain ⟨n, rfl⟩ := Nat.exists_eq_succ_of_ne_zero (Nat.ne_zero_of_lt hn)
      have he := h.read
      simp only [List.map_cons, searchSeq, addrs_cons, List.head?_cons, ListState.searchFrom, he,
        Option.bind_eq_bind, Option.bind_some]
      cases hequal : equal c x with
      | none => rfl
      | some r =>
          obtain ⟨found, c₁⟩ := r
          simp only [Option.bind_some]
          cases found with
          | true =>
              simp only [if_true]
              cases rmIfFound with
              | false =>
                  refine ⟨s, rfl, fun _ => rfl, ?_, ?_⟩
                  · intro h
                    cases h
                  · intro h
                    cases h
              | true =>
                  obtain ⟨s₁, hs₁, hl₁, hd₁⟩ := h.unlink
                  simp only [if_true, hs₁, Option.bind_some]
                  refine ⟨_, rfl, ?_, fun _ => ?_, fun _ => ?_⟩
                  · intro h
                    cases h
                  · refine ⟨k ++ l, ?_, ?_⟩
                    · cases copies with
                      | true => exact hl₁
                      | false => exact hl₁.dealloc _
                    · rw [List.map_append, List.append_nil]
                  · rw [← hd₁]
                    cases copies with
                    | true => exact (List.append_nil _).symm
                    | false => exact (dealloc_spec _ s₁).2.2
          | false =>
              have hrest := ih c₁ (k := k ++ [(a, (x, f))]) (n := n) (by
                rw [List.append_assoc]
                exact h) (Nat.le_of_succ_le_succ hn)
              cases hseq : searchSeq equal c₁ (l.map Prod.snd) with
              | none =>
                  rw [hseq] at hrest
                  exact hrest
              | some r =>
                  obtain ⟨found, c₂⟩ := r
                  rw [hseq] at hrest
                  cases found with
                  | none => exact hrest
                  | some r =>
                      obtain ⟨s', hs', hsearched⟩ := hrest
                      refine ⟨s', hs', ?_⟩
                      rw [List.map_append, List.append_assoc] at hsearched
                      exact hsearched

theorem Lists.search (h : s.Lists l) :
    match searchSeq equal c (l.map Prod.snd) with
    | none => s.search equal copies rmIfFound c = none
    | some (none, c') =>
        s.search equal copies rmIfFound c =
          some (⟨if l = [] then .unavailableResource else .success, none⟩, c', s)
    | some (some (before, e, behind), c') => ∃ s',
        s.search equal copies rmIfFound c =
            some (⟨.success, if copies then some e.1 else none⟩, c', s') ∧
          Searched copies rmIfFound s s' before e behind := by
  have hfrom := Lists.searchFrom equal copies rmIfFound c (k := []) h
    (Nat.le_of_eq h.live.symm)
  rw [← h.linked.head_eq] at hfrom
  cases l with
  | nil =>
      have htail := h.nil_iff.mpr rfl
      simp only [List.map_nil, searchSeq, ListState.search, htail]
      rfl
  | cons e l =>
      obtain ⟨a, htail⟩ := Option.ne_none_iff_exists'.mp (mt h.nil_iff.mp (List.cons_ne_nil e l))
      simp only [ListState.search, htail, if_neg (List.cons_ne_nil e l), Option.bind_eq_bind]
      cases hseq : searchSeq equal c ((e :: l).map Prod.snd) with
      | none =>
          rw [hseq] at hfrom
          simp only at hfrom
          rw [hfrom]
          rfl
      | some r =>
          obtain ⟨found, c₁⟩ := r
          rw [hseq] at hfrom
          cases found with
          | none =>
              simp only at hfrom
              rw [hfrom, Option.bind_some]
              cases copies <;> rfl
          | some r =>
              obtain ⟨s', hs', hsearched⟩ := hfrom
              refine ⟨s', ?_, hsearched⟩
              rw [hs', Option.bind_some]

end ListState

end LibraDevice.Utils
