import LibraDevice.Lib.NodeChain
import LibraDevice.Lib.StepRun

/-!
The event dispatcher: the listeners' registrations as nodes in the heap, in the
order they were made. `registr` appends, `deregistr` leaves the registrations of
the other listeners in their order. A read of a node that has been freed is a
fault, and the operation then has no result.
-/

namespace LibraDevice.Dispatch

open LibraDevice.NodeChain

universe u v

variable {ε : Type u} {ℓ : Type v}

/-- What a node of the list registers: an event and the listener for it. -/
structure Registration (ε : Type u) (ℓ : Type v) where
  event : ε
  obj : ℓ
deriving DecidableEq, Repr

/-- The list of registrations in the heap. A cell is `none` where no node is
allocated; `live` counts the nodes that are. -/
structure Dispatcher (ε : Type u) (ℓ : Type v) where
  cell : Nat → Option (Cell (Registration ε ℓ))
  head : Option Nat
  live : Nat
  stats : ε → Nat

variable (ε ℓ) in
/-- The dispatcher when the process starts. -/
def Dispatcher.init : Dispatcher ε ℓ where
  cell := fun _ => none
  head := none
  live := 0
  stats := fun _ => 0

/-- `free` of the node at `a`. -/
def Dispatcher.free (s : Dispatcher ε ℓ) (a : Nat) : Dispatcher ε ℓ :=
  { s with cell := Function.update s.cell a none, live := s.live - 1 }

/-- `a->next = next`. -/
def Dispatcher.setNext (s : Dispatcher ε ℓ) (a : Nat) (next : Option Nat) :
    Option (Dispatcher ε ℓ) := do
  let node ← s.cell a
  some { s with cell := Function.update s.cell a (some { node with next := next }) }

/-- The walk of `registr` to the last node, from the node at `tmp`. -/
def Dispatcher.last (s : Dispatcher ε ℓ) : Nat → Nat → Option Nat
  | 0, _ => none
  | n + 1, tmp =>
      match s.cell tmp with
      | none => none
      | some node =>
          match node.next with
          | none => some tmp
          | some next => s.last n next

/-- The end of `registr`: the new node `nw` becomes the head or the last node. -/
def Dispatcher.append (nw : Nat) (s : Dispatcher ε ℓ) : Option (Dispatcher ε ℓ) :=
  match s.head with
  | none => some { s with head := some nw }
  | some tmp =>
      match s.last s.live tmp with
      | none => none
      | some last => s.setNext last (some nw)

/-- `malloc` of a node at `nw` and its initialisation. -/
def Dispatcher.alloc (nw : Nat) (r : Registration ε ℓ) (s : Dispatcher ε ℓ) :
    Dispatcher ε ℓ :=
  { s with cell := Function.update s.cell nw (some ⟨r, none⟩), live := s.live + 1 }

/-- `registr`. The allocator gives the address `nw`, or none. -/
def Dispatcher.registr (event : ε) (obj : ℓ) (nw : Option Nat) (s : Dispatcher ε ℓ) :
    Option (Dispatcher ε ℓ) :=
  match nw with
  | none => some s
  | some nw => (s.alloc nw ⟨event, obj⟩).append nw

section

variable [DecidableEq ℓ]

/-- One matching node of `deregistr`: the node at `tmp` is unlinked and freed. -/
def Dispatcher.unlink (tmp prev : Nat) (next : Option Nat) (s : Dispatcher ε ℓ) :
    Option (Dispatcher ε ℓ) := do
  let s ←
    if s.head = some tmp then
      some { s with head := next }
    else
      s.setNext prev next
  some (s.free tmp)

/-- The loop of `deregistr`. -/
def Dispatcher.deregistrFrom (param : ℓ) :
    Nat → Option Nat → Nat → Dispatcher ε ℓ → Option (Dispatcher ε ℓ)
  | _, none, _, s => some s
  | 0, some _, _, _ => none
  | n + 1, some tmp, prev, s => do
      let node ← s.cell tmp
      if node.data.obj = param then
        let s ← s.unlink tmp prev node.next
        s.deregistrFrom param n node.next prev
      else
        s.deregistrFrom param n node.next tmp

/-- `deregistr`: `prev` starts as the head of the list. -/
def Dispatcher.deregistr (param : ℓ) (s : Dispatcher ε ℓ) : Option (Dispatcher ε ℓ) :=
  s.deregistrFrom param s.live s.head (s.head.getD 0)

/-- A listener's `event_callback`, as far as the dispatcher sees it: it may
delete the listener, whose destructor deregisters it. -/
def Dispatcher.eventCallback (removes : Bool) (obj : ℓ) (s : Dispatcher ε ℓ) :
    Option (Dispatcher ε ℓ) :=
  if removes then s.deregistr obj else some s

variable [DecidableEq ε]

/-- The loop of `ProcessEvt`. The node is copied before the callback and left
by the copy's link; `removes k` says whether call `k` deletes its listener. -/
def Dispatcher.processFrom (event : ε) (removes : Nat → Bool) :
    Nat → Option Nat → Nat → Dispatcher ε ℓ → Option (Dispatcher ε ℓ × List ℓ)
  | _, none, _, s => some (s, [])
  | 0, some _, _, _ => none
  | n + 1, some tmp, k, s => do
      let tmp1 ← s.cell tmp
      if tmp1.data.event = event then
        let s := { s with stats := Function.update s.stats event (s.stats event + 1) }
        let s ← s.eventCallback (removes k) tmp1.data.obj
        let (s, calls) ← s.processFrom event removes n tmp1.next (k + 1)
        some (s, tmp1.data.obj :: calls)
      else
        s.processFrom event removes n tmp1.next k

/-- `ProcessEvt`, with the listeners it called, in order. -/
def Dispatcher.processEvt (event : ε) (removes : Nat → Bool) (s : Dispatcher ε ℓ) :
    Option (Dispatcher ε ℓ × List ℓ) :=
  s.processFrom event removes s.live s.head 0

end

/-- The calls that build the list. -/
inductive Call (ε : Type u) (ℓ : Type v)
  | registr (event : ε) (obj : ℓ) (nw : Option Nat)
  | deregistr (param : ℓ)
deriving DecidableEq, Repr

/-- A call on the dispatcher; the allocator gives no address that is in use. -/
def Dispatcher.call [DecidableEq ℓ] (s : Dispatcher ε ℓ) :
    Call ε ℓ → Option (Dispatcher ε ℓ)
  | .registr event obj nw =>
      if nw.all fun a => (s.cell a).isNone then s.registr event obj nw else none
  | .deregistr param => s.deregistr param

/-- The registrations a sequence of calls leaves. -/
def registrations [DecidableEq ℓ] :
    List (Call ε ℓ) → List (Registration ε ℓ) → List (Registration ε ℓ)
  | [], l => l
  | .registr event obj (some _) :: calls, l => registrations calls (l ++ [⟨event, obj⟩])
  | .registr _ _ none :: calls, l => registrations calls l
  | .deregistr param :: calls, l => registrations calls (l.filter (·.obj ≠ param))

/-- The nodes of the list, from the head on, with their addresses. -/
structure Dispatcher.Listed (s : Dispatcher ε ℓ) (l : List (Nat × Registration ε ℓ)) : Prop where
  seg : Seg s.cell s.head l none
  nodup : (addrs l).Nodup
  live : s.live = l.length

/-- The list in the heap holds these registrations. -/
def Dispatcher.Holds (s : Dispatcher ε ℓ) (regs : List (Registration ε ℓ)) : Prop :=
  ∃ l, s.Listed l ∧ l.map Prod.snd = regs

open LibraDevice.StepRun

variable {s : Dispatcher ε ℓ} {l kept todo : List (Nat × Registration ε ℓ)}
variable {a prev : Nat} {r : Registration ε ℓ}

theorem init_listed : (Dispatcher.init ε ℓ).Listed [] where
  seg := rfl
  nodup := List.nodup_nil
  live := rfl

theorem Dispatcher.Listed.fresh (h : s.Listed l) (ha : s.cell a = none) : a ∉ addrs l := by
  intro hmem
  obtain ⟨⟨b, x⟩, hx, rfl⟩ := List.mem_map.mp hmem
  obtain ⟨n, hn⟩ := h.seg.read hx
  rw [ha] at hn
  cases hn

theorem last_eq {tmp n : Nat} (h : Seg s.cell (some tmp) (l ++ [(a, r)]) none)
    (hn : l.length < n) : s.last n tmp = some a := by
  induction l generalizing tmp n with
  | nil =>
      obtain ⟨ht, m, hm, rfl⟩ := h
      cases ht
      obtain ⟨n, rfl⟩ := Nat.exists_eq_succ_of_ne_zero (Nat.ne_of_gt hn)
      simp only [Dispatcher.last, hm]
  | cons e l ih =>
      obtain ⟨b, x⟩ := e
      obtain ⟨ht, m, hm, hs⟩ := h
      cases ht
      obtain ⟨n, rfl⟩ := Nat.exists_eq_succ_of_ne_zero (Nat.ne_zero_of_lt hn)
      obtain ⟨c, -, rfl⟩ := Seg.start_mem hs
      simp only [Dispatcher.last, hm]
      exact ih hs (by simpa using hn)

theorem registr_listed (h : s.Listed l) (ha : s.cell a = none) (event : ε) (obj : ℓ) :
    ∃ s', s.registr event obj (some a) = some s' ∧ s'.Listed (l ++ [(a, ⟨event, obj⟩)]) := by
  have hfresh := h.fresh ha
  have hnodup : (addrs (l ++ [(a, ⟨event, obj⟩)])).Nodup := by
    rw [addrs_append, addrs_cons, addrs_nil]
    exact List.nodup_append.mpr ⟨h.nodup, List.nodup_singleton a, by
      rintro b hb c hc rfl
      exact hfresh (List.mem_singleton.mp hc ▸ hb)⟩
  have hlive : (s.alloc a ⟨event, obj⟩).live = l.length + 1 := by
    rw [← h.live]
    rfl
  have hseg : Seg (s.alloc a ⟨event, obj⟩).cell (s.alloc a ⟨event, obj⟩).head l none :=
    h.seg.update hfresh _
  have hnew : (s.alloc a ⟨event, obj⟩).cell a = some ⟨⟨event, obj⟩, none⟩ :=
    Function.update_self ..
  change ∃ s', (s.alloc a ⟨event, obj⟩).append a = some s' ∧ _
  revert hlive hseg hnew
  generalize s.alloc a ⟨event, obj⟩ = s₁
  intro hlive hseg hnew
  rcases List.eq_nil_or_concat l with rfl | ⟨l, ⟨b, x⟩, rfl⟩
  · have hhead : s₁.head = none := hseg
    refine ⟨{ s₁ with head := some a }, ?_, ⟨rfl, none, hnew, rfl⟩, hnodup, hlive⟩
    simp only [Dispatcher.append, hhead]
  · rw [List.concat_eq_append] at *
    have hb : b ∉ addrs l := by
      have hnd := h.nodup
      rw [addrs_append, addrs_cons, addrs_nil] at hnd
      exact fun hmem => (List.nodup_append.mp hnd).2.2 b hmem b (List.mem_singleton_self b) rfl
    have hab : a ≠ b := by
      rintro rfl
      exact hfresh (by simp)
    obtain ⟨tmp, -, htmp⟩ := hseg.start_mem
    obtain ⟨m, hm⟩ := hseg.read (List.mem_append_right l List.mem_cons_self)
    have hlast : s₁.last s₁.live tmp = some b :=
      last_eq (htmp ▸ hseg) (by
        rw [hlive, List.length_append]
        exact Nat.lt_add_right _ (Nat.lt_add_one _))
    have hlen : s₁.live = (l ++ [(b, x)] ++ [(a, (⟨event, obj⟩ : Registration ε ℓ))]).length := by
      rw [hlive]
      simp only [List.length_append, List.length_singleton]
    refine ⟨{ s₁ with cell := Function.update s₁.cell b (some ⟨x, some a⟩) }, ?_, ?_,
      hnodup, hlen⟩
    · simp only [Dispatcher.append, htmp, hlast, Dispatcher.setNext, hm, Option.bind_eq_bind,
        Option.bind_some]
    · refine seg_append.mpr ⟨some a, hseg.redirect hb (some a), rfl, none, ?_, rfl⟩
      change Function.update s₁.cell b _ a = _
      rw [Function.update_of_ne hab, hnew]

theorem unlink_listed {m : Option Nat} (h : s.Listed (kept ++ (a, r) :: todo))
    (hprev : ∀ k b x, kept = k ++ [(b, x)] → prev = b) (hcell : s.cell a = some ⟨r, m⟩) :
    ∃ s', s.unlink a prev m = some s' ∧ s'.Listed (kept ++ todo) ∧ s'.cell a = none ∧
      s'.stats = s.stats ∧
      ∀ b, b ∉ addrs (kept ++ (a, r) :: todo) → s'.cell b = s.cell b := by
  obtain ⟨p, hkept, rfl, m', hm, htodo⟩ := seg_append.mp h.seg
  obtain rfl : m' = m := by
    rw [hcell] at hm
    cases hm
    rfl
  have hnd := h.nodup
  rw [addrs_append, addrs_cons, List.nodup_middle, List.nodup_cons, List.mem_append,
    not_or] at hnd
  obtain ⟨⟨hak, hat⟩, hnd⟩ := hnd
  have hlive : s.live - 1 = (kept ++ todo).length := by
    rw [h.live]
    simp only [List.length_append, List.length_cons]
    omega
  rw [← addrs_append] at hnd
  rcases List.eq_nil_or_concat kept with rfl | ⟨k, ⟨b, x⟩, rfl⟩
  · have hhead : s.head = some a := hkept
    refine ⟨({ s with head := m' } : Dispatcher ε ℓ).free a, ?_,
      ⟨htodo.update hat none, hnd, hlive⟩, Function.update_self .., rfl, ?_⟩
    · simp only [Dispatcher.unlink, hhead, if_true, Option.bind_eq_bind, Option.bind_some]
    intro c hc
    exact Function.update_of_ne (fun heq => hc (by simp [heq])) ..
  · rw [List.concat_eq_append] at *
    obtain rfl := hprev k b x rfl
    rw [addrs_append, addrs_cons, addrs_nil, List.mem_append, List.mem_singleton, not_or] at hak
    have hhead : s.head ≠ some a := by
      intro heq
      obtain ⟨c, hc, hp⟩ := hkept.start_mem
      rw [heq, Option.some_inj] at hp
      subst hp
      simp only [addrs_append, addrs_cons, addrs_nil, List.mem_append, List.mem_singleton] at hc
      exact hc.elim hak.1 hak.2
    obtain ⟨q, hk, rfl, mb, hb, hqa⟩ := seg_append.mp hkept
    have hbk : prev ∉ addrs k := by
      intro hmem
      have := hnd
      simp only [addrs_append, addrs_cons, addrs_nil] at this
      exact (List.nodup_append.mp (List.nodup_append.mp this).1).2.2 prev hmem prev
        (List.mem_singleton_self prev) rfl
    have hbt : prev ∉ addrs todo := by
      intro hmem
      have := hnd
      rw [addrs_append] at this
      exact (List.nodup_append.mp this).2.2 prev (by simp) prev hmem rfl
    let s₁ : Dispatcher ε ℓ :=
      { s with cell := Function.update s.cell prev (some ⟨x, m'⟩) }
    refine ⟨s₁.free a, ?_, ⟨?_, hnd, hlive⟩, Function.update_self .., rfl, ?_⟩
    · simp only [Dispatcher.unlink, hhead, if_false, Dispatcher.setNext, hb, Option.bind_eq_bind,
        Option.bind_some, s₁]
    · refine seg_append.mpr ⟨m', ?_, ?_⟩
      · exact (hkept.redirect hbk m').update (by simp [hak]) none
      · exact (htodo.update hbt _).update hat none
    · intro c hc
      simp only [addrs_append, addrs_cons, addrs_nil, List.mem_append, List.mem_cons,
        not_or] at hc
      change Function.update (Function.update s.cell prev _) a none c = s.cell c
      rw [Function.update_of_ne hc.2.1, Function.update_of_ne hc.1.2.1]

variable [DecidableEq ℓ]

theorem deregistrFrom_listed (param : ℓ) {n : Nat} (h : s.Listed (kept ++ todo))
    (hprev : ∀ k b x, kept = k ++ [(b, x)] → prev = b) (hn : todo.length ≤ n)
    (hseg : Seg s.cell s.head kept (addrs todo).head?) :
    ∃ s', s.deregistrFrom param n (addrs todo).head? prev = some s' ∧
      s'.Listed (kept ++ todo.filter (·.2.obj ≠ param)) ∧
      s'.stats = s.stats ∧
      (∀ e ∈ todo, e.2.obj = param → s'.cell e.1 = none) ∧
      ∀ b, b ∉ addrs (kept ++ todo) → s'.cell b = s.cell b := by
  induction todo generalizing s kept prev n with
  | nil =>
      refine ⟨s, ?_, by simpa using h, rfl, ?_, fun _ _ => rfl⟩
      · cases n <;> rfl
      · intro e he
        cases he
  | cons e todo ih =>
      obtain ⟨a, r⟩ := e
      obtain ⟨n, rfl⟩ : ∃ n', n = n' + 1 := ⟨n - 1, by simp at hn; omega⟩
      have hn' : todo.length ≤ n := by simpa using hn
      obtain ⟨q, -, -, m, hcell, htodo⟩ := seg_append.mp h.seg
      have hm := htodo.start_eq
      have hstep : s.deregistrFrom param (n + 1) (some a) prev =
          if r.obj = param then
            (s.unlink a prev m).bind fun s => s.deregistrFrom param n m prev
          else s.deregistrFrom param n m a := by
        simp only [Dispatcher.deregistrFrom, hcell, Option.bind_eq_bind, Option.bind_some]
      have hnd := h.nodup
      rw [addrs_append, addrs_cons, List.nodup_middle, List.nodup_cons, List.mem_append,
        not_or] at hnd
      change ∃ s', s.deregistrFrom param (n + 1) (some a) prev = some s' ∧ _
      rw [hstep]
      split
      · -- the node is the listener's: it is unlinked and freed
        next hr =>
          obtain ⟨s₁, hs₁, hl₁, hfree, hst, hframe⟩ := unlink_listed h hprev hcell
          obtain ⟨q', hkept₁, hq'⟩ := seg_append.mp hl₁.seg
          obtain ⟨s', hs', hl', hst', hfreed, hframe'⟩ := ih hl₁ hprev hn'
            (by rw [← hq'.start_eq]; exact hkept₁)
          refine ⟨s', ?_, ?_, hst'.trans hst, ?_, ?_⟩
          · rw [hs₁, Option.bind_some, hm, hs']
          · rwa [List.filter_cons_of_neg (by simp [hr])]
          · intro e he heq
            rcases List.mem_cons.mp he with rfl | he
            · rw [hframe' a (by simp [hnd.1])]
              exact hfree
            · exact hfreed e he heq
          · intro b hb
            rw [hframe' b fun hmem => hb ?_, hframe b hb]
            simp only [addrs_append, addrs_cons, List.mem_append, List.mem_cons] at hmem ⊢
            tauto
      · next hr =>
          have h' : s.Listed ((kept ++ [(a, r)]) ++ todo) := by
            rwa [List.append_assoc, List.singleton_append]
          obtain ⟨q', hkept', hq'⟩ := seg_append.mp h'.seg
          obtain ⟨s', hs', hl', hst', hfreed, hframe'⟩ := ih h'
            (fun k b x heq => by
              have := List.append_inj_right' heq rfl
              simp only [List.cons.injEq, Prod.mk.injEq, and_true] at this
              exact this.1)
            hn' (by rw [← hq'.start_eq]; exact hkept')
          refine ⟨s', ?_, ?_, hst', ?_, ?_⟩
          · rw [hm, hs']
          · rw [List.filter_cons_of_pos (by simpa using hr)]
            simpa using hl'
          · intro e he heq
            rcases List.mem_cons.mp he with rfl | he
            · exact absurd heq hr
            · exact hfreed e he heq
          · intro b hb
            exact hframe' b (by simpa using hb)

/-- `deregistr` leaves exactly the registrations of the other listeners, and
the nodes of this one are freed. -/
theorem deregistr_listed (h : s.Listed l) (param : ℓ) :
    ∃ s', s.deregistr param = some s' ∧ s'.Listed (l.filter (·.2.obj ≠ param)) ∧
      s'.stats = s.stats ∧ ∀ e ∈ l, e.2.obj = param → s'.cell e.1 = none := by
  have h0 : s.Listed ([] ++ l) := h
  have hprev : ∀ k b x, [] = k ++ [((b, x) : Nat × Registration ε ℓ)] → s.head.getD 0 = b := by
    intro k b x heq
    cases k <;> cases heq
  obtain ⟨s', hs', hl', hst, hfreed, -⟩ :=
    deregistrFrom_listed param h0 hprev (Nat.le_of_eq h.live.symm) h.seg.start_eq
  refine ⟨s', ?_, hl', hst, hfreed⟩
  rw [Dispatcher.deregistr, h.seg.start_eq]
  rw [h.seg.start_eq] at hs'
  exact hs'

theorem Dispatcher.Holds.deregistr {regs : List (Registration ε ℓ)} (h : s.Holds regs)
    (param : ℓ) :
    ∃ s', s.deregistr param = some s' ∧ s'.Holds (regs.filter (·.obj ≠ param)) := by
  obtain ⟨l, hl, rfl⟩ := h
  obtain ⟨s', hs', hl', -, -⟩ := deregistr_listed hl param
  refine ⟨s', hs', _, hl', ?_⟩
  rw [List.filter_map]
  rfl

/-- What a run of calls leaves in the heap. -/
theorem run_holds {calls : List (Call ε ℓ)} {regs : List (Registration ε ℓ)} {s' : Dispatcher ε ℓ}
    (h : s.Holds regs) (hrun : calls.foldlM Dispatcher.call s = some s') :
    s'.Holds (registrations calls regs) := by
  induction calls generalizing s regs with
  | nil =>
      cases hrun
      exact h
  | cons c calls ih =>
      rw [List.foldlM_cons, Option.bind_eq_bind, Option.bind_eq_some_iff] at hrun
      obtain ⟨s₁, hc, hrun⟩ := hrun
      cases c with
      | registr event obj nw =>
          simp only [Dispatcher.call, Option.ite_none_right_eq_some] at hc
          obtain ⟨hfree, hc⟩ := hc
          cases nw with
          | none =>
              cases hc
              exact ih h hrun
          | some a =>
              obtain ⟨l, hl, rfl⟩ := h
              obtain ⟨s₂, hs₂, hl₂⟩ := registr_listed hl
                (by simpa using hfree) event obj
              obtain rfl := Option.some.inj (hs₂.symm.trans hc)
              exact ih ⟨_, hl₂, by rw [List.map_append]; rfl⟩ hrun
      | deregistr param =>
          obtain ⟨s₂, hs₂, h₂⟩ := h.deregistr param
          obtain rfl := Option.some.inj (hs₂.symm.trans hc)
          exact ih h₂ hrun

end LibraDevice.Dispatch
