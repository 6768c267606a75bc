import LibraDevice.Dispatch.EvtDispatcher

/-!
The delivery of an event while its listeners delete themselves. The walk goes
on from a copy of the node it just handled, so it survives a deletion exactly
when the next node of the list is another listener's.
-/

namespace LibraDevice.Dispatch

open LibraDevice.NodeChain
open LibraDevice.StepRun

universe u v

variable {ε : Type u} {ℓ : Type v} [DecidableEq ε] [DecidableEq ℓ]
variable {s : Dispatcher ε ℓ}

/-- The listeners to be called for an event, in order: one call for every
registration of the event whose listener has not been removed by an earlier
call. `removed` are the listeners removed so far, `k` numbers the calls. -/
def due (event : ε) (removes : Nat → Bool) :
    Nat → List ℓ → List (Registration ε ℓ) → List ℓ
  | _, _, [] => []
  | k, removed, r :: regs =>
      if r.obj ∈ removed then
        due event removes k removed regs
      else if r.event = event then
        r.obj :: due event removes (k + 1) (if removes k then r.obj :: removed else removed) regs
      else
        due event removes k removed regs

/-- The listeners removed in the end. -/
def removedBy (event : ε) (removes : Nat → Bool) :
    Nat → List ℓ → List (Registration ε ℓ) → List ℓ
  | _, removed, [] => removed
  | k, removed, r :: regs =>
      if r.obj ∈ removed then
        removedBy event removes k removed regs
      else if r.event = event then
        removedBy event removes (k + 1) (if removes k then r.obj :: removed else removed) regs
      else
        removedBy event removes k removed regs

/-- No listener is deleted by its callback while the registration that comes
next in the list, as the list then is, is its own. -/
def Apart (event : ε) (removes : Nat → Bool) :
    Nat → List ℓ → List (Registration ε ℓ) → Prop
  | _, _, [] => True
  | k, removed, r :: regs =>
      if r.obj ∈ removed then
        Apart event removes k removed regs
      else if r.event = event then
        (removes k = true → ∀ q ∈ (regs.filter (·.obj ∉ removed)).head?, q.obj ≠ r.obj) ∧
          Apart event removes (k + 1) (if removes k then r.obj :: removed else removed) regs
      else
        Apart event removes k removed regs

omit [DecidableEq ε] in
/-- The nodes of the listeners that have not been removed. -/
def others (removed : List ℓ) (l : List (Nat × Registration ε ℓ)) :
    List (Nat × Registration ε ℓ) :=
  l.filter (·.2.obj ∉ removed)

section

omit [DecidableEq ε]

variable {removed : List ℓ} {l l' : List (Nat × Registration ε ℓ)} {a : Nat}
  {r : Registration ε ℓ}

theorem others_append : others removed (l ++ l') = others removed l ++ others removed l' :=
  List.filter_append ..

theorem others_cons_mem (h : r.obj ∈ removed) :
    others removed ((a, r) :: l) = others removed l :=
  List.filter_cons_of_neg (by simpa using h)

theorem others_cons_not_mem (h : r.obj ∉ removed) :
    others removed ((a, r) :: l) = (a, r) :: others removed l :=
  List.filter_cons_of_pos (by simpa using h)

theorem others_cons_removed (o : ℓ) :
    others (o :: removed) l = (others removed l).filter (·.2.obj ≠ o) := by
  rw [others, others, List.filter_filter]
  refine List.filter_congr fun e _ => ?_
  simp only [List.mem_cons, not_or, ne_eq, Bool.decide_and]

theorem map_others (l : List (Nat × Registration ε ℓ)) :
    (others removed l).map Prod.snd = (l.map Prod.snd).filter (·.obj ∉ removed) := by
  rw [others, List.filter_map]
  rfl

end

theorem processFrom_freed (event : ε) (removes : Nat → Bool) {a : Nat} (n k : Nat)
    (h : s.cell a = none) : s.processFrom event removes n (some a) k = none := by
  cases n with
  | zero => rfl
  | succ n => simp only [Dispatcher.processFrom, h, Option.bind_eq_bind, Option.bind_none]

omit [DecidableEq ε] in
theorem head_others_removed {removed : List ℓ} {o : ℓ} {l : List (Nat × Registration ε ℓ)}
    (h : ∀ q ∈ ((l.map Prod.snd).filter (·.obj ∉ removed)).head?, q.obj ≠ o) :
    (addrs (others (o :: removed) l)).head? = (addrs (others removed l)).head? := by
  rw [← map_others] at h
  rw [others_cons_removed]
  cases heq : others removed l with
  | nil => rfl
  | cons e t =>
      rw [heq] at h
      have he : e.2.obj ≠ o := h e.2 rfl
      rw [List.filter_cons_of_pos (by simpa using he)]
      rfl

/-- The walk of `ProcessEvt` from any point of the list: it reaches the end
and has made the due calls if the deletions are apart, and reads a freed node
if they are not. -/
theorem processFrom_spec (event : ε) (removes : Nat → Bool)
    {l kept todo : List (Nat × Registration ε ℓ)} {removed : List ℓ} {k n : Nat}
    (hl : kept ++ todo = l) (h : s.Listed (others removed l))
    (hn : (others removed todo).length ≤ n) :
    (Apart event removes k removed (todo.map Prod.snd) →
      ∃ s', s.processFrom event removes n (addrs (others removed todo)).head? k =
          some (s', due event removes k removed (todo.map Prod.snd)) ∧
        s'.Listed (others (removedBy event removes k removed (todo.map Prod.snd)) l)) ∧
    (¬ Apart event removes k removed (todo.map Prod.snd) →
      s.processFrom event removes n (addrs (others removed todo)).head? k = none) := by
  induction todo generalizing s kept removed k n with
  | nil =>
      constructor
      · intro _
        refine ⟨s, ?_, h⟩
        cases n <;> rfl
      · intro hnot
        exact absurd trivial hnot
  | cons e todo ih =>
      obtain ⟨a, r⟩ := e
      have hl' : (kept ++ [(a, r)]) ++ todo = l := by
        rw [← hl, List.append_assoc, List.singleton_append]
      simp only [List.map_cons, due, Apart, removedBy]
      by_cases hr : r.obj ∈ removed
      · simp only [hr, if_true]
        rw [others_cons_mem hr] at hn ⊢
        exact ih hl' h hn
      · simp only [hr, if_false]
        rw [others_cons_not_mem hr] at hn ⊢
        obtain ⟨n, rfl⟩ : ∃ n', n = n' + 1 := ⟨n - 1, by simp at hn; omega⟩
        have hn' : (others removed todo).length ≤ n := by simpa using hn
        have hnode : ∃ m, s.cell a = some ⟨r, m⟩ ∧ m = (addrs (others removed todo)).head? := by
          have hs := h.seg
          rw [← hl, others_append, others_cons_not_mem hr] at hs
          obtain ⟨q, -, -, m, hcell, htodo⟩ := seg_append.mp hs
          exact ⟨m, hcell, htodo.start_eq⟩
        obtain ⟨m, hcell, hm⟩ := hnode
        simp only [addrs_cons, List.head?_cons, Dispatcher.processFrom, hcell, Option.bind_eq_bind,
          Option.bind_some]
        by_cases hev : r.event = event
        · simp only [hev, if_true]
          have h0 : Dispatcher.Listed
              { s with stats := Function.update s.stats event (s.stats event + 1) }
              (others removed l) := ⟨h.seg, h.nodup, h.live⟩
          revert h0
          generalize ({ s with stats := _ } : Dispatcher ε ℓ) = s₀
          intro h0
          cases hrem : removes k with
          | false =>
              simp only [Dispatcher.eventCallback, Bool.false_eq_true, if_false, Option.bind_some,
                false_implies, true_and, hm]
              obtain ⟨hsome, hnone⟩ := ih (k := k + 1) hl' h0 hn'
              constructor
              · intro hap
                obtain ⟨s', hs', hl''⟩ := hsome hap
                exact ⟨s', by rw [hs', Option.bind_some], hl''⟩
              · intro hap
                rw [hnone hap, Option.bind_none]
          | true =>
              simp only [Dispatcher.eventCallback, if_true, true_implies, hm]
              obtain ⟨s₁, hs₁, hl₁, -, hfreed⟩ := deregistr_listed h0 r.obj
              rw [← others_cons_removed] at hl₁
              rw [hs₁, Option.bind_some]
              have hshort : (others (r.obj :: removed) todo).length ≤ n := by
                rw [others_cons_removed]
                exact Nat.le_trans (List.length_filter_le _ _) hn'
              obtain ⟨hsome, hnone⟩ := ih (k := k + 1) hl' hl₁ hshort
              constructor
              · rintro ⟨hnext, hap⟩
                obtain ⟨s', hs', hl''⟩ := hsome hap
                refine ⟨s', ?_, hl''⟩
                rw [← head_others_removed hnext, hs', Option.bind_some]
              · intro hap
                by_cases hnext : ∀ q ∈ ((todo.map Prod.snd).filter (·.obj ∉ removed)).head?,
                    q.obj ≠ r.obj
                · rw [← head_others_removed hnext, hnone fun hrest => hap ⟨hnext, hrest⟩,
                    Option.bind_none]
                · -- the copied link leads to a node that the callback freed
                  simp only [not_forall, not_not] at hnext
                  obtain ⟨q, hq, hqr⟩ := hnext
                  rw [← map_others, List.head?_map, Option.mem_def, Option.map_eq_some_iff] at hq
                  obtain ⟨⟨b, q⟩, hb, rfl⟩ := hq
                  have hmem : (b, q) ∈ others removed l := by
                    rw [← hl, others_append, others_cons_not_mem hr]
                    exact List.mem_append_right _
                      (List.mem_cons_of_mem _ (List.mem_of_mem_head? hb))
                  rw [addrs, List.head?_map, hb, Option.map_some,
                    processFrom_freed event removes n (k + 1) (hfreed _ hmem hqr),
                    Option.bind_none]
        · simp only [hev, if_false, hm]
          exact ih hl' h hn'

/-- Over the list any run of calls built, an event is delivered as it should,
with no freed node read, exactly when the deletions are apart. -/
theorem processEvt_delivers_iff (calls : List (Call ε ℓ)) (event : ε) (removes : Nat → Bool)
    (h : calls.foldlM Dispatcher.call (Dispatcher.init ε ℓ) = some s) :
    (∀ param, ∃ s', s.deregistr param = some s' ∧
      s'.Holds ((registrations calls []).filter (·.obj ≠ param))) ∧
    ((∃ s', s.processEvt event removes =
        some (s', due event removes 0 [] (registrations calls [])) ∧
        s'.Holds ((registrations calls []).filter
          (·.obj ∉ removedBy event removes 0 [] (registrations calls [])))) ↔
      Apart event removes 0 [] (registrations calls [])) := by
  have hinit : (Dispatcher.init ε ℓ).Holds [] := ⟨[], init_listed, rfl⟩
  have hholds := run_holds hinit h
  refine ⟨fun param => hholds.deregistr param, ?_⟩
  obtain ⟨l, hl, hregs⟩ := hholds
  rw [← hregs]
  have hall : others [] l = l := by
    simp [others]
  have hlive : (others [] l).length ≤ s.live := by
    rw [hall]
    exact Nat.le_of_eq hl.live.symm
  have hwalk := processFrom_spec event removes (k := 0) (List.nil_append l)
    (hall.symm ▸ hl : s.Listed (others [] l)) hlive
  rw [hall, ← hl.seg.start_eq] at hwalk
  constructor
  · rintro ⟨s', hs', -⟩
    by_contra hap
    rw [Dispatcher.processEvt, hwalk.2 hap] at hs'
    cases hs'
  · intro hap
    obtain ⟨s', hs', hl'⟩ := hwalk.1 hap
    exact ⟨s', hs', _, hl', map_others l⟩

/-- Listener `false` registers events `0` and `1`, listener `true` event `0`;
listener `true` deletes itself when it is called. -/
theorem processEvt_delivers_iff_last :
    ∃ s, [Call.registr 0 false (some 1), .registr 1 false (some 2), .registr 0 true (some 3)].foldlM
        Dispatcher.call (Dispatcher.init Nat Bool) = some s ∧
      ∃ s', s.processEvt 0 (fun k => k = 1) = some (s', [false, true]) := by
  obtain ⟨s, hs⟩ := Option.isSome_iff_exists.mp (by decide :
    ([Call.registr 0 false (some 1), .registr 1 false (some 2), .registr 0 true (some 3)].foldlM
      Dispatcher.call (Dispatcher.init Nat Bool)).isSome = true)
  have hap : Apart (0 : Nat) (fun k => k = 1) 0 []
      [⟨0, false⟩, ⟨1, false⟩, (⟨0, true⟩ : Registration Nat Bool)] := by
    simp [Apart]
  obtain ⟨s', hs', -⟩ :=
    (processEvt_delivers_iff _ 0 (fun k => decide (k = 1)) hs).2.mpr
      (by simpa [registrations] using hap)
  exact ⟨s, hs, s', by rw [hs']; rfl⟩

/-- A listener that registered its deletion event before its last one, as the
access point interfaces do: the copied link leads to a freed node. -/
theorem processEvt_reads_freed :
    ∃ s, [Call.registr 36 "wl" (some 1), .registr 54 "wl" (some 2)].foldlM
        Dispatcher.call (Dispatcher.init Nat String) = some s ∧
      s.processEvt 36 (fun _ => true) = none := by
  refine ⟨_, rfl, ?_⟩
  decide

end LibraDevice.Dispatch
