import LibraDevice.Agps.StateMachine
import Mathlib.Data.List.Pairwise

/-!
What the operations of the state machine do to the list of subscribers and to
the effects, one lemma an operation.
-/

namespace LibraDevice.Agps

universe u

variable {α : Type u} {p : α → Bool} {l : List α} {a : α}

theorem filter_of_find? (h : l.find? p = some a) :
    l.filter p = a :: (l.eraseP p).filter p ∧
      (l.eraseP p).filter (fun x => !p x) = l.filter fun x => !p x := by
  induction l with
  | nil => cases h
  | cons b l ih =>
      cases hb : p b with
      | true =>
          rw [List.find?_cons_of_pos hb] at h
          cases h
          simp [hb]
      | false =>
          rw [List.find?_cons_of_neg (by simp [hb])] at h
          obtain ⟨h1, h2⟩ := ih h
          constructor
          · rw [List.eraseP_cons_of_neg (by simp [hb]), List.filter_cons_of_neg (by simp [hb]),
              List.filter_cons_of_neg (by simp [hb]), h1]
          · rw [List.eraseP_cons_of_neg (by simp [hb]), List.filter_cons_of_pos (by simp [hb]),
              List.filter_cons_of_pos (by simp [hb]), h2]

theorem length_eraseP_of_find? (h : l.find? p = some a) :
    (l.eraseP p).length + 1 = l.length := by
  rw [List.length_eraseP_of_mem (List.mem_of_find?_eq_some h) (List.find?_some h)]
  exact Nat.sub_add_cancel (List.length_pos_of_mem (List.mem_of_find?_eq_some h))

section

variable [DecidableEq α] {b x : α}

theorem mem_replace_new (h : a ∈ l) : b ∈ l.replace a b := by
  induction l with
  | nil => cases h
  | cons c l ih =>
      rw [List.replace_cons]
      split
      · exact List.mem_cons_self
      · next hne =>
          rcases List.mem_cons.mp h with rfl | hl
          · simp at hne
          · exact List.mem_cons_of_mem _ (ih hl)

theorem mem_replace_of_ne (h : x ∈ l) (hne : x ≠ a) : x ∈ l.replace a b := by
  induction l with
  | nil => cases h
  | cons c l ih =>
      rw [List.replace_cons]
      split
      · next heq =>
          obtain rfl := eq_of_beq heq
          exact List.mem_cons_of_mem _ ((List.mem_cons.mp h).resolve_left hne)
      · rcases List.mem_cons.mp h with rfl | hl
        · exact List.mem_cons_self
        · exact List.mem_cons_of_mem _ (ih hl)

theorem mem_of_mem_replace (h : x ∈ l.replace a b) : x = b ∨ x ∈ l := by
  induction l with
  | nil => cases h
  | cons c l ih =>
      rw [List.replace_cons] at h
      split at h
      · rcases List.mem_cons.mp h with rfl | hl
        · exact Or.inl rfl
        · exact Or.inr (List.mem_cons_of_mem _ hl)
      · rcases List.mem_cons.mp h with rfl | hl
        · exact Or.inr List.mem_cons_self
        · exact (ih hl).imp_right (List.mem_cons_of_mem _)

end

namespace AgpsStateMachine

variable {m : AgpsStateMachine} {status : AgpsRsrcStatus} {s : Subscriber}

/-- What no operation on the subscribers touches. -/
structure SameFrame (m m' : AgpsStateMachine) : Prop where
  mState : m'.mState = m.mState
  single : m'.mEnforceSingleSubscriber = m.mEnforceSingleSubscriber
  nif : m'.nif = m.nif

theorem SameFrame.refl (m : AgpsStateMachine) : SameFrame m m :=
  ⟨rfl, rfl, rfl⟩

theorem SameFrame.trans {m m' m'' : AgpsStateMachine} (h : SameFrame m m')
    (h' : SameFrame m' m'') : SameFrame m m'' :=
  ⟨h'.mState.trans h.mState, h'.single.trans h.single, h'.nif.trans h.nif⟩

/-- The loop of `notifySubscribers` with deletion, whomever it names: it tells
the subscribers it deletes, each of them was named, and at the end none that
is left is. -/
theorem notifyDeleting_spec (target : List Subscriber → Target) (hstatus : status.Told) {n : Nat}
    (hn : m.mSubscribers.length ≤ n) :
    ∃ gone : List Subscriber,
      SameFrame m (m.notifyDeleting target status n) ∧
      (m.notifyDeleting target status n).log = m.log ++ gone.map (notice m.nif status) ∧
      (m.notifyDeleting target status n).mSubscribers.Sublist m.mSubscribers ∧
      (∀ e ∈ gone, e ∈ m.mSubscribers ∧ ∃ l, e.forMe (target l) = true) ∧
      (∀ e ∈ m.mSubscribers, e ∈ (m.notifyDeleting target status n).mSubscribers ∨ e ∈ gone) ∧
      ∀ e ∈ (m.notifyDeleting target status n).mSubscribers,
        e.forMe (target (m.notifyDeleting target status n).mSubscribers) = false := by
  induction n generalizing m with
  | zero =>
      have hnil : m.mSubscribers = [] := List.length_eq_zero_iff.mp (Nat.le_zero.mp hn)
      refine ⟨[], SameFrame.refl m, (List.append_nil _).symm, List.Sublist.refl _, ?_, ?_, ?_⟩
      · intro e he
        cases he
      · intro e he
        exact Or.inl he
      · intro e he
        change e ∈ m.mSubscribers at he
        rw [hnil] at he
        cases he
  | succ n ih =>
      cases hfind : m.mSubscribers.find? (·.takes m.nif (target m.mSubscribers) status) with
      | none =>
          have heq : m.notifyDeleting target status (n + 1) = m := by
            simp only [notifyDeleting, hfind]
          rw [heq]
          refine ⟨[], SameFrame.refl m, (List.append_nil _).symm, List.Sublist.refl _, ?_, ?_, ?_⟩
          · intro e he
            cases he
          · intro e he
            exact Or.inl he
          · intro e he
            have hno := List.find?_eq_none.mp hfind e he
            rw [Subscriber.takes_eq hstatus] at hno
            simpa using hno
      | some s =>
          have hmem := List.mem_of_find?_eq_some hfind
          have hs := List.find?_some hfind
          rw [Subscriber.takes_eq hstatus] at hs
          let m₁ : AgpsStateMachine := AgpsStateMachine.emit [notice m.nif status s]
            { m with
              mSubscribers :=
                m.mSubscribers.eraseP (·.takes m.nif (target m.mSubscribers) status) }
          have heq : m.notifyDeleting target status (n + 1) =
              m₁.notifyDeleting target status n := by
            simp only [notifyDeleting, hfind, m₁]
          have hlen : m₁.mSubscribers.length ≤ n := by
            have := length_eraseP_of_find? hfind
            change (m.mSubscribers.eraseP _).length ≤ n
            omega
          obtain ⟨gone, hframe, hlog, hsub, hgone, hkept, hend⟩ := ih hlen
          have hsub₁ : m₁.mSubscribers.Sublist m.mSubscribers := List.eraseP_sublist
          rw [heq]
          refine ⟨s :: gone, ?_, ?_, hsub.trans hsub₁, ?_, ?_, hend⟩
          · exact ⟨hframe.mState, hframe.single, hframe.nif⟩
          · rw [hlog]
            simp only [m₁, emit, List.append_assoc, List.map_cons, List.singleton_append]
          · intro e he
            rcases List.mem_cons.mp he with rfl | he
            · exact ⟨hmem, _, hs⟩
            · exact ⟨hsub₁.subset (hgone e he).1, (hgone e he).2⟩
          · intro e he
            by_cases hes : e = s
            · exact Or.inr (hes ▸ List.mem_cons_self)
            · have he₁ : e ∈ m₁.mSubscribers := by
                have hperm := filter_of_find? hfind
                cases ht : e.takes m.nif (target m.mSubscribers) status with
                | true =>
                    have hin : e ∈ m.mSubscribers.filter
                        (·.takes m.nif (target m.mSubscribers) status) :=
                      List.mem_filter.mpr ⟨he, ht⟩
                    rw [hperm.1] at hin
                    rcases List.mem_cons.mp hin with hin | hin
                    · exact absurd hin hes
                    · exact (List.mem_filter.mp hin).1
                | false =>
                    have hin : e ∈ m.mSubscribers.filter
                        fun e => !e.takes m.nif (target m.mSubscribers) status :=
                      List.mem_filter.mpr ⟨he, by simp [ht]⟩
                    rw [← hperm.2] at hin
                    exact (List.mem_filter.mp hin).1
              rcases hkept e he₁ with hk | hk
              · exact Or.inl hk
              · exact Or.inr (List.mem_cons_of_mem _ hk)

theorem notifyDeleting_group (target : Target) (hstatus : status.Told) {n : Nat}
    (hn : m.mSubscribers.length ≤ n) :
    m.notifyDeleting (fun _ => target) status n =
      ({ m with mSubscribers := m.mSubscribers.filter fun e => !e.forMe target } :
        AgpsStateMachine).emit
          ((m.mSubscribers.filter (·.forMe target)).map (notice m.nif status)) := by
  induction n generalizing m with
  | zero =>
      have hnil : m.mSubscribers = [] := List.length_eq_zero_iff.mp (Nat.le_zero.mp hn)
      rw [hnil]
      cases m
      simp_all [notifyDeleting, emit]
  | succ n ih =>
      have htakes : (fun e : Subscriber => e.takes m.nif target status) = (·.forMe target) :=
        funext fun e => Subscriber.takes_eq hstatus e
      simp only [notifyDeleting, htakes]
      cases hfind : m.mSubscribers.find? (·.forMe target) with
      | none =>
          have hno : ∀ e ∈ m.mSubscribers, e.forMe target = false := by
            intro e he
            simpa using List.find?_eq_none.mp hfind e he
          have hgone : m.mSubscribers.filter (·.forMe target) = [] :=
            List.filter_eq_nil_iff.mpr fun e he => by simp [hno e he]
          have hkept : (m.mSubscribers.filter fun e => !e.forMe target) = m.mSubscribers :=
            List.filter_eq_self.mpr fun e he => by simp [hno e he]
          rw [hgone, hkept]
          simp [emit]
      | some s =>
          obtain ⟨hgone, hkept⟩ := filter_of_find? hfind
          have hlen := length_eraseP_of_find? hfind
          let m₁ : AgpsStateMachine := AgpsStateMachine.emit [notice m.nif status s]
            { m with mSubscribers := m.mSubscribers.eraseP (·.forMe target) }
          have hlen₁ : m₁.mSubscribers.length ≤ n := by
            change (m.mSubscribers.eraseP _).length ≤ n
            omega
          change m₁.notifyDeleting (fun _ => target) status n = _
          rw [ih hlen₁]
          simp only [m₁, emit, hgone, hkept, List.map_cons, List.append_assoc,
            List.singleton_append]

theorem broadcastDeleting_eq (target : Target) (hstatus : status.Told) :
    m.broadcastDeleting target status =
      ({ m with mSubscribers := m.mSubscribers.filter fun e => !e.forMe target } :
        AgpsStateMachine).emit
          ((m.mSubscribers.filter (·.forMe target)).map (notice m.nif status)) :=
  notifyDeleting_group target hstatus (Nat.le_refl _)

/-- The entries an unsubscription may delete beside `s`: what names them is `s`
while it is listed and its freed memory afterwards. -/
def Named (s : Subscriber) (freed : Nat → Memory) (e : Subscriber) : Prop :=
  e.equals s.memory = true ∨ ∃ n, e.equals (freed n) = true

/-- What a leaving subscriber does to the list: an entry that waits becomes
inactive, another one is deleted, with entries it names. -/
structure Left (m : AgpsStateMachine) (s : Subscriber) (freed : Nat → Memory)
    (m' : AgpsStateMachine) : Prop where
  frame : SameFrame m m'
  log : ∃ gone : List Subscriber, m'.log = m.log ++ gone.map (notice m.nif .unsubscribe)
  waits : s.waitForCloseComplete = true →
    m'.mSubscribers = m.mSubscribers.replace s s.setInactive ∧ m'.log = m.log
  sublist : s.waitForCloseComplete = false → m'.mSubscribers.Sublist m.mSubscribers
  dropped : s.waitForCloseComplete = false →
    s ∉ m'.mSubscribers ∧ ∀ e ∈ m.mSubscribers, e ∈ m'.mSubscribers ∨ Named s freed e

theorem leave_left (freed : Nat → Memory) : Left m s freed (m.leave s freed) := by
  cases hw : s.waitForCloseComplete with
  | true =>
      have heq : m.leave s freed =
          { m with mSubscribers := m.mSubscribers.replace s s.setInactive } := by
        rw [leave, hw, if_pos rfl]
      rw [heq]
      exact {
        frame := ⟨rfl, rfl, rfl⟩
        log := ⟨[], (List.append_nil _).symm⟩
        waits := fun _ => ⟨rfl, rfl⟩
        sublist := fun h => by rw [hw] at h; cases h
        dropped := fun h => by rw [hw] at h; cases h }
  | false =>
      have heq : m.leave s freed = m.notifyDeletingOne s freed .unsubscribe := by
        rw [leave, hw, if_neg Bool.false_ne_true]
      rw [heq, notifyDeletingOne]
      have htold : AgpsRsrcStatus.unsubscribe.Told := trivial
      obtain ⟨gone, hframe, hlog, hsub, hgone, hkept, hend⟩ := notifyDeleting_spec (m := m)
        (fun l => .rcver (if s ∈ l then s.memory else freed l.length))
        htold (Nat.le_refl _)
      refine {
        frame := hframe
        log := ⟨gone, hlog⟩
        waits := fun h => by rw [hw] at h; cases h
        sublist := fun _ => hsub
        dropped := fun _ => ⟨?_, ?_⟩ }
      · intro hs
        have hself := hend s hs
        rw [if_pos hs] at hself
        change s.equals s.memory = false at hself
        rw [Subscriber.equals_memory] at hself
        cases hself
      · intro e he
        rcases hkept e he with hk | hk
        · exact Or.inl hk
        · obtain ⟨-, l, hl⟩ := hgone e hk
          refine Or.inr ?_
          by_cases hs : s ∈ l
          · rw [if_pos hs] at hl
            exact Or.inl hl
          · rw [if_neg hs] at hl
            exact Or.inr ⟨_, hl⟩

theorem hasActiveSubscribers_iff :
    m.hasActiveSubscribers = true ↔ ∃ e ∈ m.mSubscribers, e.isInactive = false := by
  rw [hasActiveSubscribers, List.find?_isSome]
  simp only [Subscriber.forMe, Bool.not_eq_true']

theorem hasSubscribers_iff : m.hasSubscribers = true ↔ m.mSubscribers ≠ [] := by
  rw [hasSubscribers, Bool.not_eq_true', List.isEmpty_eq_false_iff]

theorem sendRsrcRequest_eq (action : AGpsStatusValue) :
    ∃ r : AGpsExtStatus, r.status = action ∧ m.sendRsrcRequest action =
      if m.hasActiveSubscribers = decide (action = .requestAgpsDataConn) then
        m.emit [.requested r]
      else m := by
  refine ⟨m.nifRequest action (m.mSubscribers.find? (·.forMe .broadcastActive)), rfl, ?_⟩
  rw [sendRsrcRequest, hasActiveSubscribers]
  cases m.mSubscribers.find? (·.forMe .broadcastActive) <;> cases action <;> rfl

theorem addSubscriber_cases (tail : Bytes) :
    ((∃ e ∈ m.mSubscribers, e.equals s.memory = true) ∧ m.addSubscriber s tail = m) ∨
    ((∀ e ∈ m.mSubscribers, e.equals s.memory = false) ∧
      m.addSubscriber s tail = { m with mSubscribers := s.clone tail :: m.mSubscribers }) := by
  rw [addSubscriber]
  cases hfind : m.mSubscribers.find? (·.forMe (.rcver s.memory)) with
  | some e =>
      have he : e.forMe (.rcver s.memory) = true := List.find?_some hfind
      exact Or.inl ⟨⟨e, List.mem_of_find?_eq_some hfind, he⟩, rfl⟩
  | none =>
      refine Or.inr ⟨fun e he => ?_, rfl⟩
      simpa [Subscriber.forMe] using List.find?_eq_none.mp hfind e he

end AgpsStateMachine

end LibraDevice.Agps
