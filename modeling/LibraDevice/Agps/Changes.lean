import LibraDevice.Agps.DataCall

/-!
What a call can do to the list of subscribers and to the effects that concern
a subscription, in one statement.
-/

namespace LibraDevice.Agps

/-- The effects that end no subscription and report no call. -/
def Effect.Quiet : Effect → Prop
  | .subscribed _ _ => False
  | .unsubscribed _ _ => False
  | .processed _ _ => True
  | .notified _ status _ => status ≠ .denied ∧ status ≠ .released
  | .requested _ => True

namespace AgpsStateMachine

/-- What a call can do. -/
inductive Change (m : AgpsStateMachine) : Call → AgpsStateMachine → Prop
  | quiet {c : Call} {m' : AgpsStateMachine} (new : List Effect) (hnew : ∀ e ∈ new, e.Quiet)
      (hlog : m'.log = m.log ++ new) (hsubs : m'.mSubscribers = m.mSubscribers) : Change m c m'
  | refused {m' : AgpsStateMachine} (s : Subscriber) (tail : Bytes) (hrefuses : m.refuses = true)
      (hlog : m'.log = m.log ++ [.subscribed s false, notice m.nif .denied s])
      (hsubs : m'.mSubscribers = m.mSubscribers) : Change m (.subscribeRsrc s tail) m'
  | joined {m' : AgpsStateMachine} (s : Subscriber) (tail : Bytes) (new : List Effect)
      (hnew : ∀ e ∈ new, e.Quiet) (haccepts : m.refuses = false)
      (hlog : m'.log = m.log ++ .subscribed s true :: new)
      (hsubs : ((∃ e ∈ m.mSubscribers, e.equals s.memory = true) ∧
          m'.mSubscribers = m.mSubscribers) ∨
        ((∀ e ∈ m.mSubscribers, e.equals s.memory = false) ∧
          m'.mSubscribers = s.clone tail :: m.mSubscribers)) :
      Change m (.subscribeRsrc s tail) m'
  | missed {m' : AgpsStateMachine} (s : Subscriber) (freed : Nat → Memory)
      (hlog : m'.log = m.log ++ [.unsubscribed s false])
      (hsubs : m'.mSubscribers = m.mSubscribers) : Change m (.unsubscribeRsrc s freed) m'
  | left {m' : AgpsStateMachine} (s entry : Subscriber) (freed : Nat → Memory)
      (new : List Effect) (hnew : ∀ e ∈ new, e.Quiet) (hentry : m.entryOf s = some entry)
      (hlog : m'.log = m.log ++ .unsubscribed s true :: new)
      (hwaits : entry.waitForCloseComplete = true →
        m'.mSubscribers = m.mSubscribers.replace entry entry.setInactive)
      (hdropped : entry.waitForCloseComplete = false →
        m'.mSubscribers.Sublist m.mSubscribers ∧
          ∀ e ∈ m.mSubscribers, e ∈ m'.mSubscribers ∨ Named entry freed e) :
      Change m (.unsubscribeRsrc s freed) m'
  | told {c : Call} {m' : AgpsStateMachine} (group : Target) (status : AgpsRsrcStatus)
      (new : List Effect) (hnew : ∀ e ∈ new, e.Quiet)
      (hgroup : group = .broadcastAll ∨ group = .broadcastInactive)
      (hstatus : status = .denied ∧ (m.mState = .pending ∨ m.mState = .releasing) ∨
        status = .released)
      (hlog : m'.log = m.log ++ .processed m.mState status ::
        ((m.mSubscribers.filter (·.forMe group)).map (notice m.nif status) ++ new))
      (hsubs : m'.mSubscribers = m.mSubscribers.filter fun e => !e.forMe group) : Change m c m'

variable {m : AgpsStateMachine}

theorem quiet_nil : ∀ e ∈ ([] : List Effect), e.Quiet := by
  intro e he
  cases he

theorem emit_emit (l l' : List Effect) : (m.emit l).emit l' = m.emit (l ++ l') := by
  simp only [emit, List.append_assoc]

theorem sendRsrcRequest_log (action : AGpsStatusValue) :
    ∃ new : List Effect, (∀ e ∈ new, e.Quiet) ∧
      (m.sendRsrcRequest action).log = m.log ++ new := by
  obtain ⟨r, -, heq⟩ := m.sendRsrcRequest_eq action
  rw [heq]
  split
  · refine ⟨[.requested r], ?_, rfl⟩
    intro e he
    rw [List.mem_singleton.mp he]
    trivial
  · exact ⟨[], quiet_nil, (List.append_nil _).symm⟩

theorem notices_quiet (nif : Nif) {status : AgpsRsrcStatus} (hd : status ≠ .denied)
    (hr : status ≠ .released) (l : List Subscriber) :
    ∀ e ∈ l.map (notice nif status), e.Quiet := by
  intro e he
  obtain ⟨s, -, rfl⟩ := List.mem_map.mp he
  exact ⟨hd, hr⟩

theorem quiet_append {l l' : List Effect} (h : ∀ e ∈ l, e.Quiet) (h' : ∀ e ∈ l', e.Quiet) :
    ∀ e ∈ l ++ l', e.Quiet := by
  intro e he
  rcases List.mem_append.mp he with he | he
  · exact h e he
  · exact h' e he

theorem quiet_singleton {e : Effect} (h : e.Quiet) : ∀ e' ∈ [e], e'.Quiet := by
  intro e' he
  rw [List.mem_singleton.mp he]
  exact h

theorem afterLeave_log :
    ∃ new : List Effect, (∀ e ∈ new, e.Quiet) ∧ m.afterLeave.log = m.log ++ new ∧
      m.afterLeave.mSubscribers = m.mSubscribers := by
  rw [afterLeave]
  split
  · obtain ⟨new, hnew, hlog⟩ := sendRsrcRequest_log (m := m.moveTo .released) .releaseAgpsDataConn
    exact ⟨new, hnew, hlog, sendRsrcRequest_mSubscribers _⟩
  · split
    · obtain ⟨new, hnew, hlog⟩ :=
        sendRsrcRequest_log (m := m.moveTo .releasing) .releaseAgpsDataConn
      exact ⟨new, hnew, hlog, sendRsrcRequest_mSubscribers _⟩
    · exact ⟨[], quiet_nil, (List.append_nil _).symm, rfl⟩

theorem left_change {s entry : Subscriber} {freed : Nat → Memory} {m' : AgpsStateMachine}
    {state : AgpsState} {rest : List Effect} (hentry : m.entryOf s = some entry)
    (hrest : ∀ e ∈ rest, e.Quiet)
    (hlog : m'.log =
      (((m.emit [.unsubscribed s true]).emit [.processed state .unsubscribe]).leave
        entry freed).log ++ rest)
    (hsubs : m'.mSubscribers =
      (((m.emit [.unsubscribed s true]).emit [.processed state .unsubscribe]).leave
        entry freed).mSubscribers) :
    Change m (.unsubscribeRsrc s freed) m' := by
  have hleft := leave_left
    (m := (m.emit [.unsubscribed s true]).emit [.processed state .unsubscribe])
    (s := entry) freed
  obtain ⟨gone, hgone⟩ := hleft.log
  refine .left s entry freed
    (.processed state .unsubscribe :: (gone.map (notice m.nif .unsubscribe) ++ rest)) ?_ hentry ?_
    ?_ ?_
  · exact quiet_append (quiet_singleton (e := .processed state .unsubscribe) trivial)
      (quiet_append (notices_quiet m.nif (by decide) (by decide) gone) hrest)
  · rw [hlog, hgone]
    simp only [emit, List.append_assoc, List.cons_append, List.nil_append]
  · intro hw
    rw [hsubs, (hleft.waits hw).1]
    rfl
  · intro hw
    rw [hsubs]
    exact ⟨hleft.sublist hw, (hleft.dropped hw).2⟩

theorem joined_change {s : Subscriber} {tail : Bytes} {m' : AgpsStateMachine}
    {before after : List Effect} (haccepts : m.refuses = false)
    (hbefore : ∀ e ∈ before, e.Quiet) (hafter : ∀ e ∈ after, e.Quiet)
    (hlog : m'.log =
      (((m.emit [.subscribed s true]).emit before).addSubscriber s tail).log ++ after)
    (hsubs : m'.mSubscribers =
      (((m.emit [.subscribed s true]).emit before).addSubscriber s tail).mSubscribers) :
    Change m (.subscribeRsrc s tail) m' := by
  refine .joined s tail (before ++ after) (quiet_append hbefore hafter) haccepts ?_ ?_
  · rcases ((m.emit [.subscribed s true]).emit before).addSubscriber_cases (s := s) tail with
      ⟨-, heq⟩ | ⟨-, heq⟩
    all_goals
      rw [hlog, heq]
      simp only [emit, List.append_assoc, List.cons_append, List.nil_append]
  · rw [hsubs]
    rcases ((m.emit [.subscribed s true]).emit before).addSubscriber_cases (s := s) tail with
      ⟨hex, heq⟩ | ⟨hno, heq⟩
    · exact Or.inl ⟨hex, by rw [heq]; rfl⟩
    · exact Or.inr ⟨hno, by rw [heq]; rfl⟩

theorem closed_change {c : Call} {status : AgpsRsrcStatus} (hstate : m.mState = .releasing)
    (hstatus : status = .denied ∨ status = .released) :
    Change m c ((m.emit [.processed .releasing status]).closed status) := by
  have htold : status.Told := by
    rcases hstatus with rfl | rfl <;> trivial
  have hgroup : status = .denied ∧ (m.mState = .pending ∨ m.mState = .releasing) ∨
      status = .released :=
    hstatus.imp_left fun h => ⟨h, Or.inr hstate⟩
  rw [closed, broadcastDeleting_eq _ htold]
  split
  · obtain ⟨new, hnew, hlog⟩ := sendRsrcRequest_log (m := moveTo .pending
      (({ m.emit [.processed .releasing status] with
          mSubscribers := m.mSubscribers.filter fun e => !e.forMe .broadcastInactive } :
        AgpsStateMachine).emit
          ((m.mSubscribers.filter (·.forMe .broadcastInactive)).map (notice m.nif status))))
      .requestAgpsDataConn
    refine .told .broadcastInactive status new hnew (Or.inr rfl) hgroup ?_ ?_
    · refine hlog.trans ?_
      rw [hstate]
      simp only [emit, moveTo, List.append_assoc, List.cons_append, List.nil_append]
    · exact sendRsrcRequest_mSubscribers _
  · refine .told .broadcastInactive status [] quiet_nil (Or.inr rfl) hgroup ?_ rfl
    rw [hstate]
    simp only [emit, moveTo, List.append_assoc, List.cons_append, List.nil_append, List.append_nil]

theorem everyone_change {c : Call} {status : AgpsRsrcStatus}
    (hstatus : status = .denied ∧ (m.mState = .pending ∨ m.mState = .releasing) ∨
      status = .released) :
    Change m c
      (((m.emit [.processed m.mState status]).broadcastDeleting .broadcastAll status).moveTo
        .released) := by
  have htold : status.Told := by
    rcases hstatus with ⟨rfl, -⟩ | rfl <;> trivial
  rw [broadcastDeleting_eq _ htold]
  refine .told .broadcastAll status [] quiet_nil (Or.inl rfl) hstatus ?_ rfl
  simp only [emit, moveTo, List.append_assoc, List.cons_append, List.nil_append, List.append_nil]

theorem event_change {c : Call} {event : RsrcEvent}
    (hevent : event = .granted ∨ event = .released ∨ event = .denied) :
    Change m c (m.onRsrcEvent event) := by
  have hquiet : Change m c (m.emit [.processed m.mState event.status]) :=
    .quiet [.processed m.mState event.status] (quiet_singleton trivial) rfl rfl
  rw [onRsrcEvent]
  cases hstate : m.mState with
  | released =>
      rw [hstate] at hquiet
      rcases hevent with rfl | rfl | rfl <;> exact hquiet
  | pending =>
      rw [hstate] at hquiet
      rcases hevent with rfl | rfl | rfl
      · refine .quiet (.processed .pending .granted ::
          (m.mSubscribers.filter (·.takes m.nif .broadcastActive .granted)).map
            (notice m.nif .granted)) ?_ ?_ rfl
        · exact quiet_append (quiet_singleton (e := .processed .pending .granted) trivial)
            (notices_quiet m.nif (by decide) (by decide) _)
        · exact List.append_assoc ..
      · exact hquiet
      · have := everyone_change (m := m) (c := c) (Or.inl ⟨rfl, Or.inl hstate⟩)
        rwa [hstate] at this
  | acquired =>
      rw [hstate] at hquiet
      rcases hevent with rfl | rfl | rfl
      · exact hquiet
      · have := everyone_change (m := m) (c := c) (Or.inr rfl)
        rwa [hstate] at this
      · exact hquiet
  | releasing =>
      rw [hstate] at hquiet
      rcases hevent with rfl | rfl | rfl
      · exact hquiet
      · exact closed_change hstate (Or.inr rfl)
      · exact closed_change hstate (Or.inl rfl)

theorem subscribe_change (s : Subscriber) (tail : Bytes) :
    Change m (.subscribeRsrc s tail) (m.subscribeRsrc s tail) := by
  rw [subscribeRsrc]
  cases hrefuses : m.refuses with
  | true =>
      rw [if_pos rfl]
      exact .refused s tail hrefuses rfl rfl
  | false =>
      rw [if_neg Bool.false_ne_true, onRsrcEvent]
      cases hstate : (m.emit [.subscribed s true]).mState with
      | released =>
          obtain ⟨new, hnew, hlog⟩ := sendRsrcRequest_log
            (m := ((m.emit [.subscribed s true]).emit
                [.processed .released .subscribe]).addSubscriber
              s tail) .requestAgpsDataConn
          exact joined_change hrefuses
            (quiet_singleton (e := .processed .released .subscribe) trivial) hnew hlog
            (sendRsrcRequest_mSubscribers _)
      | pending =>
          exact joined_change hrefuses
            (quiet_singleton (e := .processed .pending .subscribe) trivial) quiet_nil
              (List.append_nil _).symm rfl
      | acquired =>
          have hnew : ∀ e ∈ [Effect.processed .acquired .subscribe, notice m.nif .granted s],
              e.Quiet :=
            quiet_append (quiet_singleton (e := .processed .acquired .subscribe) trivial)
              (notices_quiet m.nif (by decide) (by decide) [s])
          have heq : ((m.emit [.subscribed s true]).emit
              [.processed .acquired .subscribe]).acquiredOnRsrcEvent (.subscribe s tail) =
              ((m.emit [.subscribed s true]).emit
                [.processed .acquired .subscribe, notice m.nif .granted s]).addSubscriber s
                tail := by
            rw [acquiredOnRsrcEvent, emit_emit]
            rfl
          exact joined_change hrefuses hnew quiet_nil
            (by rw [List.append_nil]; exact congrArg log heq) (congrArg mSubscribers heq)
      | releasing =>
          exact joined_change hrefuses
            (quiet_singleton (e := .processed .releasing .subscribe) trivial) quiet_nil
              (List.append_nil _).symm rfl

theorem unsubscribe_change (h : m.mState = .released → m.mSubscribers = []) (s : Subscriber)
    (freed : Nat → Memory) : Change m (.unsubscribeRsrc s freed) (m.unsubscribeRsrc s freed) := by
  rw [unsubscribeRsrc]
  cases hentry : m.entryOf s with
  | none => exact .missed s freed rfl rfl
  | some entry =>
      simp only [onRsrcEvent]
      cases hstate : (m.emit [.unsubscribed s true]).mState with
      | released =>
          have hmem := List.mem_of_find?_eq_some hentry
          rw [h hstate] at hmem
          cases hmem
      | pending =>
          obtain ⟨new, hnew, hlog, hsubs⟩ := afterLeave_log (m :=
            ((m.emit [.unsubscribed s true]).emit [.processed .pending .unsubscribe]).leave
              entry freed)
          exact left_change hentry hnew hlog hsubs
      | acquired =>
          obtain ⟨new, hnew, hlog, hsubs⟩ := afterLeave_log (m :=
            ((m.emit [.unsubscribed s true]).emit [.processed .acquired .unsubscribe]).leave
              entry freed)
          exact left_change hentry hnew hlog hsubs
      | releasing =>
          simp only [releasingOnRsrcEvent]
          split
          · exact left_change hentry quiet_nil (List.append_nil _).symm rfl
          · exact left_change hentry quiet_nil (List.append_nil _).symm rfl

theorem call_change (h : Orderly m) (c : Call) : Change m c (m.call c) := by
  cases c with
  | subscribeRsrc s tail => exact subscribe_change s tail
  | unsubscribeRsrc s freed => exact unsubscribe_change h.released s freed
  | granted => exact event_change (Or.inl rfl)
  | released => exact event_change (Or.inr (Or.inl rfl))
  | denied => exact event_change (Or.inr (Or.inr rfl))

end AgpsStateMachine

end LibraDevice.Agps
