import LibraDevice.Agps.Steps

/-!
The data call and the states: which subscribers each state has, and that the
platform is asked for the call only when none is outstanding and told to
release it only when one is.
-/

namespace LibraDevice.Agps

/-- How an effect changes whether a data-call request is outstanding. -/
def Effect.outstanding (b : Bool) : Effect → Bool
  | .requested r => r.status = .requestAgpsDataConn
  | .processed .pending .denied => false
  | .processed .acquired .released => false
  | _ => b

/-- Whether a data-call request is outstanding after these effects. -/
def outstanding (log : List Effect) : Bool :=
  log.foldl Effect.outstanding false

/-- A request is sent only when none is outstanding, a release only when one
is; `b` says whether one is at the start. -/
def Disciplined : Bool → List Effect → Prop
  | _, [] => True
  | b, e :: log =>
      (∀ r, e = .requested r → (r.status = .requestAgpsDataConn ↔ b = false)) ∧
        Disciplined (e.outstanding b) log

theorem disciplined_append {b : Bool} {log log' : List Effect} :
    Disciplined b (log ++ log') ↔
      Disciplined b log ∧ Disciplined (log.foldl Effect.outstanding b) log' := by
  induction log generalizing b with
  | nil => simp [Disciplined]
  | cons e log ih =>
      change _ ∧ Disciplined _ (log ++ log') ↔ (_ ∧ Disciplined _ log) ∧ _
      rw [ih, and_assoc]
      rfl

/-- The effects so far are in order, and leave a request outstanding or not. -/
structure Books (log : List Effect) (b : Bool) : Prop where
  disciplined : Disciplined false log
  balance : outstanding log = b

theorem Books.snoc {log : List Effect} {b : Bool} {e : Effect} (h : Books log b)
    (he : ∀ r, e = .requested r → (r.status = .requestAgpsDataConn ↔ b = false)) :
    Books (log ++ [e]) (e.outstanding b) := by
  constructor
  · refine disciplined_append.mpr ⟨h.disciplined, ?_, trivial⟩
    rw [← h.balance] at he
    exact he
  · rw [outstanding, List.foldl_append]
    have hb : log.foldl Effect.outstanding false = b := h.balance
    rw [hb]
    rfl

theorem Books.notices {log : List Effect} {b : Bool} (h : Books log b) (nif : Nif)
    (status : AgpsRsrcStatus) (l : List Subscriber) :
    Books (log ++ l.map (AgpsStateMachine.notice nif status)) b := by
  induction l generalizing log with
  | nil => simpa using h
  | cons s l ih =>
      have hs : Books (log ++ [AgpsStateMachine.notice nif status s]) b :=
        h.snoc (by intro r hr; cases hr)
      have := ih hs
      rwa [List.append_assoc] at this

namespace AgpsStateMachine

variable {m : AgpsStateMachine}

theorem books_request (h : Books m.log false) (ha : m.hasActiveSubscribers = true) :
    Books (m.sendRsrcRequest .requestAgpsDataConn).log true := by
  obtain ⟨r, hr, heq⟩ := m.sendRsrcRequest_eq .requestAgpsDataConn
  rw [heq, if_pos (by rw [ha]; rfl)]
  have := h.snoc (e := .requested r) (by rintro r' ⟨⟩; simp [hr])
  simpa [Effect.outstanding, hr, emit] using this

theorem books_release (h : Books m.log true) (ha : m.hasActiveSubscribers = false) :
    Books (m.sendRsrcRequest .releaseAgpsDataConn).log false := by
  obtain ⟨r, hr, heq⟩ := m.sendRsrcRequest_eq .releaseAgpsDataConn
  rw [heq, if_pos (by rw [ha]; rfl)]
  have := h.snoc (e := .requested r) (by rintro r' ⟨⟩; simp [hr])
  simpa [Effect.outstanding, hr, emit] using this

@[simp] theorem sendRsrcRequest_mSubscribers (action : AGpsStatusValue) :
    (m.sendRsrcRequest action).mSubscribers = m.mSubscribers := by
  obtain ⟨r, -, heq⟩ := m.sendRsrcRequest_eq action
  rw [heq]
  split <;> rfl

@[simp] theorem sendRsrcRequest_mState (action : AGpsStatusValue) :
    (m.sendRsrcRequest action).mState = m.mState := by
  obtain ⟨r, -, heq⟩ := m.sendRsrcRequest_eq action
  rw [heq]
  split <;> rfl

/-- Whether a data call is asked for or up in this state. -/
def Holding (state : AgpsState) : Bool :=
  state = .pending || state = .acquired

/-- The subscribers a state has, and the books. -/
structure Orderly (m : AgpsStateMachine) : Prop where
  released : m.mState = .released → m.mSubscribers = []
  active : Holding m.mState = true → ∃ e ∈ m.mSubscribers, e.isInactive = false
  releasing : m.mState = .releasing → m.mSubscribers ≠ []
  books : Books m.log (Holding m.mState)

theorem Orderly.init (single : Bool) (nif : Nif) : Orderly (AgpsStateMachine.init single nif) where
  released := fun _ => rfl
  active := by intro h; cases h
  releasing := by intro h; cases h
  books := ⟨trivial, rfl⟩

theorem Orderly.emit {effects : List Effect} (h : Orderly m)
    (hb : Books (m.log ++ effects) (Holding m.mState)) : Orderly (m.emit effects) where
  released := h.released
  active := h.active
  releasing := h.releasing
  books := hb

theorem Orderly.addSubscriber (h : Orderly m) (hs : m.mState ≠ .released) (s : Subscriber)
    (tail : Bytes) : Orderly (m.addSubscriber s tail) := by
  rcases m.addSubscriber_cases (s := s) tail with ⟨-, heq⟩ | ⟨-, heq⟩
  · rwa [heq]
  · rw [heq]
    exact {
      released := fun hr => absurd hr hs
      active := fun ha => by
        obtain ⟨e, he, hi⟩ := h.active ha
        exact ⟨e, List.mem_cons_of_mem _ he, hi⟩
      releasing := fun _ => List.cons_ne_nil _ _
      books := h.books }

theorem afterLeave_orderly (hs : Holding m.mState = true) (hb : Books m.log true) :
    Orderly m.afterLeave := by
  rw [afterLeave]
  split
  · next hno =>
      have hnil : m.mSubscribers = [] := by
        have := hasSubscribers_iff (m := m)
        by_contra hne
        simp [this.mpr hne] at hno
      have hact : m.hasActiveSubscribers = false := by
        rw [hasActiveSubscribers, hnil]
        rfl
      exact {
        released := fun _ => by rw [sendRsrcRequest_mSubscribers]; exact hnil
        active := by intro h; rw [sendRsrcRequest_mState] at h; cases h
        releasing := by intro h; rw [sendRsrcRequest_mState] at h; cases h
        books := by
          rw [sendRsrcRequest_mState]
          exact books_release (m := m.moveTo .released) hb hact }
  · next hsub =>
      split
      · next hact =>
          rw [Bool.not_eq_true'] at hact
          exact {
            released := by intro h; rw [sendRsrcRequest_mState] at h; cases h
            active := by intro h; rw [sendRsrcRequest_mState] at h; cases h
            releasing := fun _ => by
              rw [sendRsrcRequest_mSubscribers]
              have hs : m.hasSubscribers = true := by simpa using hsub
              exact hasSubscribers_iff.mp hs
            books := by
              rw [sendRsrcRequest_mState]
              exact books_release (m := m.moveTo .releasing) hb hact }
      · next hact =>
          have hact' := hasActiveSubscribers_iff.mp (by simpa using hact)
          exact {
            released := by intro h; rw [h] at hs; cases hs
            active := fun _ => hact'
            releasing := by intro h; rw [h] at hs; cases hs
            books := by rw [hs]; exact hb }

theorem leave_books {s : Subscriber} {freed : Nat → Memory} {b : Bool} (h : Books m.log b) :
    Books (m.leave s freed).log b := by
  obtain ⟨gone, hlog⟩ := (leave_left (m := m) (s := s) freed).log
  rw [hlog]
  exact h.notices _ _ _

theorem closed_orderly {status : AgpsRsrcStatus} (hstatus : status.Told)
    (hb : Books m.log false) : Orderly (m.closed status) := by
  rw [closed, broadcastDeleting_eq _ hstatus]
  have hb' := hb.notices m.nif status (m.mSubscribers.filter (·.forMe .broadcastInactive))
  split
  · next hact =>
      exact {
        released := by intro h; rw [sendRsrcRequest_mState] at h; cases h
        active := fun _ => by
          rw [sendRsrcRequest_mSubscribers]
          exact hasActiveSubscribers_iff.mp hact
        releasing := by intro h; rw [sendRsrcRequest_mState] at h; cases h
        books := by
          rw [sendRsrcRequest_mState]
          exact books_request (m := moveTo .pending _) hb' hact }
  · next hact =>
      have hnil : (m.mSubscribers.filter fun e => !e.forMe .broadcastInactive) = [] := by
        refine List.filter_eq_nil_iff.mpr fun e he hin => hact ?_
        refine hasActiveSubscribers_iff.mpr ⟨e, List.mem_filter.mpr ⟨he, hin⟩, ?_⟩
        simpa [Subscriber.forMe] using hin
      exact {
        released := fun _ => hnil
        active := by intro h; cases h
        releasing := by intro h; cases h
        books := hb' }

theorem everyone_orderly {status : AgpsRsrcStatus} (hstatus : status.Told)
    (hb : Books m.log false) :
    Orderly ((m.broadcastDeleting .broadcastAll status).moveTo .released) := by
  rw [broadcastDeleting_eq _ hstatus]
  exact {
    released := fun _ => List.filter_eq_nil_iff.mpr fun e _ => by simp [Subscriber.forMe]
    active := by intro h; cases h
    releasing := by intro h; cases h
    books := hb.notices _ _ _ }

/-- The event of a state that has a data call asked for or up: an
unsubscription. -/
theorem leave_orderly (h : Orderly m) (hs : Holding m.mState = true) (s : Subscriber)
    (freed : Nat → Memory) : Orderly (m.leave s freed).afterLeave := by
  refine afterLeave_orderly ?_ (leave_books (hs ▸ h.books))
  rw [(leave_left freed).frame.mState, hs]

theorem released_orderly (h : Orderly m) (hstate : m.mState = .released) (event : RsrcEvent) :
    Orderly (m.releasedOnRsrcEvent event) := by
  have hbooks : Books m.log false := by
    simpa [hstate, Holding] using h.books
  cases event with
  | subscribe s tail =>
      have hnil := h.released hstate
      rcases m.addSubscriber_cases (s := s) tail with ⟨⟨e, he, -⟩, -⟩ | ⟨-, heq⟩
      · rw [hnil] at he
        cases he
      · simp only [releasedOnRsrcEvent, heq]
        have hact : AgpsStateMachine.hasActiveSubscribers
            { m with mSubscribers := s.clone tail :: m.mSubscribers } = true :=
          hasActiveSubscribers_iff.mpr
            ⟨s.clone tail, List.mem_cons_self, Subscriber.clone_isInactive s tail⟩
        exact {
          released := by intro hr; cases hr
          active := fun _ => by
            change ∃ e ∈ (sendRsrcRequest _ _).mSubscribers, _
            rw [sendRsrcRequest_mSubscribers]
            exact hasActiveSubscribers_iff.mp hact
          releasing := by intro hr; cases hr
          books := books_request hbooks hact }
  | unsubscribe s freed =>
      exact h.emit (hstate ▸ hbooks.notices m.nif .unsubscribe [s])
  | granted => exact h
  | released => exact h
  | denied => exact h

theorem releasing_orderly (h : Orderly m) (hstate : m.mState = .releasing) (event : RsrcEvent) :
    Orderly (m.releasingOnRsrcEvent event) := by
  have hbooks : Books m.log false := by
    simpa [hstate, Holding] using h.books
  cases event with
  | subscribe s tail => exact h.addSubscriber (by rw [hstate]; decide) s tail
  | unsubscribe s freed =>
      have hstate' : (m.leave s freed).mState = .releasing :=
        (leave_left freed).frame.mState.trans hstate
      simp only [releasingOnRsrcEvent]
      split
      · next hno =>
          have hnil : (m.leave s freed).mSubscribers = [] := by
            by_contra hne
            simp [hasSubscribers_iff.mpr hne] at hno
          exact {
            released := fun _ => hnil
            active := by intro hr; cases hr
            releasing := by intro hr; cases hr
            books := leave_books hbooks }
      · next hsub =>
          exact {
            released := by intro hr; rw [hstate'] at hr; cases hr
            active := by intro hr; rw [hstate'] at hr; cases hr
            releasing := fun _ => hasSubscribers_iff.mp (by simpa using hsub)
            books := by rw [hstate']; exact leave_books hbooks }
  | granted => exact h
  | released => exact closed_orderly trivial hbooks
  | denied => exact closed_orderly trivial hbooks

theorem onRsrcEvent_orderly (h : Orderly m) (event : RsrcEvent) :
    Orderly (m.onRsrcEvent event) := by
  have hlog := h.books.snoc (e := .processed m.mState event.status) (by intro r hr; cases hr)
  rw [onRsrcEvent]
  cases hstate : m.mState with
  | released =>
      rw [hstate] at hlog
      exact released_orderly (h.emit (by rw [hstate]; exact hlog)) hstate event
  | releasing =>
      rw [hstate] at hlog
      exact releasing_orderly (h.emit (by rw [hstate]; exact hlog)) hstate event
  | pending =>
      rw [hstate] at hlog
      -- a denial ends the request, every other event leaves it
      cases event with
      | denied => exact everyone_orderly trivial hlog
      | subscribe s tail =>
          exact (h.emit (by rw [hstate]; exact hlog)).addSubscriber
            (by rw [show (m.emit _).mState = _ from hstate]; decide) s tail
      | unsubscribe s freed =>
          exact leave_orderly (h.emit (by rw [hstate]; exact hlog))
            (by rw [show (m.emit _).mState = _ from hstate]; rfl) s freed
      | granted =>
          exact {
            released := by intro hr; cases hr
            active := fun _ => h.active (by rw [hstate]; rfl)
            releasing := by intro hr; cases hr
            books := hlog.notices _ _ _ }
      | released => exact h.emit (by rw [hstate]; exact hlog)
  | acquired =>
      rw [hstate] at hlog
      -- a forced release ends the request, every other event leaves it
      cases event with
      | released => exact everyone_orderly trivial hlog
      | subscribe s tail =>
          have hnotice := hlog.notices m.nif .granted [s]
          exact ((h.emit (by rw [hstate]; exact hlog)).emit
            (by rw [show (m.emit _).mState = _ from hstate]; exact hnotice)).addSubscriber
            (by rw [show (emit _ (m.emit _)).mState = _ from hstate]; decide) s tail
      | unsubscribe s freed =>
          exact leave_orderly (h.emit (by rw [hstate]; exact hlog))
            (by rw [show (m.emit _).mState = _ from hstate]; rfl) s freed
      | granted => exact h.emit (by rw [hstate]; exact hlog)
      | denied => exact h.emit (by rw [hstate]; exact hlog)

theorem call_orderly (h : Orderly m) (c : Call) : Orderly (m.call c) := by
  have hquiet : ∀ e : Effect, (∀ r, e ≠ .requested r) → e.outstanding (Holding m.mState) =
      Holding m.mState → Orderly (m.emit [e]) := by
    intro e he hout
    exact h.emit (hout ▸ h.books.snoc (e := e) fun r hr => absurd hr (he r))
  cases c with
  | granted => exact onRsrcEvent_orderly h .granted
  | released => exact onRsrcEvent_orderly h .released
  | denied => exact onRsrcEvent_orderly h .denied
  | subscribeRsrc s tail =>
      have hcalled : ∀ accepted, Orderly (m.emit [.subscribed s accepted]) := by
        intro accepted
        exact hquiet _ (by intro r hr; cases hr) rfl
      rw [call, subscribeRsrc]
      split
      · have hrefused : Orderly ((m.emit [.subscribed s false]).emit [notice m.nif .denied s]) :=
          (hcalled false).emit ((hcalled false).books.notices m.nif .denied [s])
        simpa [emit, List.append_assoc] using hrefused
      · exact onRsrcEvent_orderly (hcalled true) _
  | unsubscribeRsrc s freed =>
      have hcalled : ∀ found, Orderly (m.emit [.unsubscribed s found]) := by
        intro found
        exact hquiet _ (by intro r hr; cases hr) rfl
      rw [call, unsubscribeRsrc]
      split
      · exact hcalled false
      · exact onRsrcEvent_orderly (hcalled true) _

/-- Entries of one id are BIT subscribers without an IPv4 address, or one of
them is. -/
def Distinct (l : List Subscriber) : Prop :=
  l.Pairwise fun a b => a.ID = b.ID → a.ID = inaddrNone

theorem Distinct.replace {l : List Subscriber} (h : Distinct l) (s : Subscriber) :
    Distinct (l.replace s s.setInactive) := by
  have hid : (l.replace s s.setInactive).map (·.ID) = l.map (·.ID) := by
    clear h
    induction l with
    | nil => rfl
    | cons e l ih =>
        rw [List.replace_cons]
        split
        · next heq =>
            obtain rfl := eq_of_beq heq
            rw [List.map_cons, List.map_cons, Subscriber.setInactive_ID]
        · rw [List.map_cons, List.map_cons, ih]
  have hpair : (l.map (·.ID)).Pairwise fun a b => a = b → a = inaddrNone :=
    List.pairwise_map.mpr h
  rw [← hid] at hpair
  exact List.pairwise_map.mp hpair

theorem Distinct.cons {l : List Subscriber} (h : Distinct l) {s : Subscriber} (tail : Bytes)
    (hs : ∀ e ∈ l, e.equals s.memory = false) : Distinct (s.clone tail :: l) := by
  refine List.Pairwise.cons ?_ h
  intro e he heq
  rw [Subscriber.clone_ID] at heq ⊢
  by_contra hne
  have := Subscriber.equals_of_ID (s := e) (m := s.memory) (by simp [heq]) (by simpa using hne)
  rw [hs e he] at this
  cases this

theorem Distinct.eq_of_ID {l : List Subscriber} (h : Distinct l) {e e' : Subscriber} (he : e ∈ l)
    (he' : e' ∈ l) (hw : e.waitForCloseComplete = true) (hid : e'.ID = e.ID) : e' = e := by
  have hsymm : Std.Symm fun a b : Subscriber => a.ID = b.ID → a.ID = inaddrNone :=
    ⟨fun a b hab heq => heq.trans (hab heq.symm)⟩
  by_contra hne
  exact Subscriber.ID_ne_of_waits hw (List.Pairwise.forall h he he' (Ne.symm hne) hid.symm)

/-- The freed entries of a call still read as the id of its subscriber. -/
def Kept : Call → Prop
  | .unsubscribeRsrc s freed => ∀ n, (freed n).ID = s.ID
  | _ => True

/-- In Releasing somebody waits for the close. -/
structure Waited (m : AgpsStateMachine) : Prop where
  distinct : Distinct m.mSubscribers
  inactive : m.mState = .releasing → ∃ e ∈ m.mSubscribers, e.isInactive = true

theorem Waited.elsewhere {m' : AgpsStateMachine} (hd : Distinct m'.mSubscribers)
    (hs : m'.mState ≠ .releasing) : Waited m' where
  distinct := hd
  inactive := fun h => absurd h hs

theorem addSubscriber_waited (h : Waited m) (s : Subscriber) (tail : Bytes) :
    Waited (m.addSubscriber s tail) := by
  rcases m.addSubscriber_cases (s := s) tail with ⟨-, heq⟩ | ⟨hno, heq⟩
  · rwa [heq]
  · rw [heq]
    refine ⟨h.distinct.cons tail hno, fun hr => ?_⟩
    obtain ⟨e, he, hi⟩ := h.inactive hr
    exact ⟨e, List.mem_cons_of_mem _ he, hi⟩

theorem leave_distinct (h : Distinct m.mSubscribers) (s : Subscriber) (freed : Nat → Memory) :
    Distinct (m.leave s freed).mSubscribers := by
  have hleft := leave_left (m := m) (s := s) freed
  cases hw : s.waitForCloseComplete with
  | true =>
      rw [(hleft.waits hw).1]
      exact h.replace s
  | false => exact List.Pairwise.sublist (hleft.sublist hw) h

theorem leave_waited (h : Waited m) {s : Subscriber} (hs : s ∈ m.mSubscribers)
    {freed : Nat → Memory} (hkept : ∀ n, (freed n).ID = s.ID) : Waited (m.leave s freed) := by
  refine ⟨leave_distinct h.distinct s freed, fun hr => ?_⟩
  have hleft := leave_left (m := m) (s := s) freed
  rw [hleft.frame.mState] at hr
  cases hw : s.waitForCloseComplete with
  | true =>
      refine ⟨s.setInactive, ?_, Subscriber.setInactive_isInactive hw⟩
      rw [(hleft.waits hw).1]
      exact mem_replace_new hs
  | false =>
      obtain ⟨e, he, hi⟩ := h.inactive hr
      have hwe := Subscriber.waits_of_isInactive hi
      rcases (hleft.dropped hw).2 e he with hin | hnamed
      · exact ⟨e, hin, hi⟩
      · have hid : s.ID = e.ID := by
          rcases hnamed with heq | ⟨n, heq⟩
          · rw [Subscriber.ID_of_equals heq, Subscriber.memory_ID]
          · rw [Subscriber.ID_of_equals heq, hkept]
        rw [h.distinct.eq_of_ID he hs hwe hid, hwe] at hw
        cases hw

theorem afterLeave_waited (h : Waited m) : Waited m.afterLeave := by
  rw [afterLeave]
  split
  · refine Waited.elsewhere ?_ ?_
    · rw [sendRsrcRequest_mSubscribers]
      exact h.distinct
    · rw [sendRsrcRequest_mState]
      exact AgpsState.noConfusion
  · next hsub =>
      split
      · next hact =>
          refine ⟨by rw [sendRsrcRequest_mSubscribers]; exact h.distinct, fun _ => ?_⟩
          rw [sendRsrcRequest_mSubscribers]
          have hne := hasSubscribers_iff.mp (show m.hasSubscribers = true by simpa using hsub)
          obtain ⟨e, he⟩ := List.exists_mem_of_ne_nil _ hne
          refine ⟨e, he, ?_⟩
          by_contra hi
          rw [hasActiveSubscribers_iff.mpr ⟨e, he, by simpa using hi⟩] at hact
          cases hact
      · exact h

theorem closed_waited (h : Waited m) {status : AgpsRsrcStatus} (hstatus : status.Told) :
    Waited (m.closed status) := by
  have hd : Distinct (m.mSubscribers.filter fun e => !e.forMe .broadcastInactive) :=
    List.Pairwise.sublist List.filter_sublist h.distinct
  rw [closed, broadcastDeleting_eq _ hstatus]
  split
  · refine Waited.elsewhere ?_ ?_
    · rw [sendRsrcRequest_mSubscribers]
      exact hd
    · rw [sendRsrcRequest_mState]
      exact AgpsState.noConfusion
  · exact Waited.elsewhere hd (by change AgpsState.released ≠ _; decide)

theorem everyone_waited (h : Waited m) {status : AgpsRsrcStatus} (hstatus : status.Told) :
    Waited ((m.broadcastDeleting .broadcastAll status).moveTo .released) := by
  rw [broadcastDeleting_eq _ hstatus]
  exact Waited.elsewhere (List.Pairwise.sublist List.filter_sublist h.distinct)
    (by change AgpsState.released ≠ _; decide)

/-- An event with a listed subscriber whose freed memory keeps its id. -/
def EventKept (m : AgpsStateMachine) : RsrcEvent → Prop
  | .unsubscribe s freed => s ∈ m.mSubscribers ∧ ∀ n, (freed n).ID = s.ID
  | _ => True

theorem onRsrcEvent_waited (h : Waited m) {event : RsrcEvent} (hk : EventKept m event) :
    Waited (m.onRsrcEvent event) := by
  have hemit : ∀ effects, Waited (m.emit effects) := fun _ => ⟨h.distinct, h.inactive⟩
  have hsent : ∀ s tail, Distinct (m.addSubscriber s tail).mSubscribers :=
    fun s tail => (addSubscriber_waited h s tail).distinct
  rw [onRsrcEvent]
  cases hstate : m.mState with
  | released =>
      cases event with
      | subscribe s tail =>
          refine Waited.elsewhere ?_ (by change AgpsState.pending ≠ _; decide)
          change Distinct (sendRsrcRequest _ _).mSubscribers
          rw [sendRsrcRequest_mSubscribers]
          exact (addSubscriber_waited (hemit _) s tail).distinct
      | unsubscribe s freed => exact ⟨h.distinct, h.inactive⟩
      | granted => exact hemit _
      | released => exact hemit _
      | denied => exact hemit _
  | pending =>
      cases event with
      | subscribe s tail => exact addSubscriber_waited (hemit _) s tail
      | unsubscribe s freed =>
          exact afterLeave_waited (leave_waited (hemit _) hk.1 hk.2)
      | granted => exact Waited.elsewhere h.distinct (by change AgpsState.acquired ≠ _; decide)
      | released => exact hemit _
      | denied => exact everyone_waited (hemit _) trivial
  | acquired =>
      cases event with
      | subscribe s tail =>
          refine addSubscriber_waited (m := emit _ (m.emit _)) ?_ s tail
          exact ⟨h.distinct, h.inactive⟩
      | unsubscribe s freed =>
          exact afterLeave_waited (leave_waited (hemit _) hk.1 hk.2)
      | granted => exact hemit _
      | released => exact everyone_waited (hemit _) trivial
      | denied => exact hemit _
  | releasing =>
      cases event with
      | subscribe s tail => exact addSubscriber_waited (hemit _) s tail
      | unsubscribe s freed =>
          have hleave := leave_waited (hemit [.processed .releasing .unsubscribe]) hk.1 hk.2
          simp only [releasingOnRsrcEvent]
          split
          · exact Waited.elsewhere hleave.distinct (by change AgpsState.released ≠ _; decide)
          · exact hleave
      | granted => exact hemit _
      | released => exact closed_waited (hemit _) trivial
      | denied => exact closed_waited (hemit _) trivial

theorem call_waited (h : Waited m) {c : Call} (hk : Kept c) : Waited (m.call c) := by
  have hemit : ∀ effects, Waited (m.emit effects) := fun _ => ⟨h.distinct, h.inactive⟩
  cases c with
  | granted => exact onRsrcEvent_waited h trivial
  | released => exact onRsrcEvent_waited h trivial
  | denied => exact onRsrcEvent_waited h trivial
  | subscribeRsrc s tail =>
      rw [call, subscribeRsrc]
      split
      · exact hemit _
      · exact onRsrcEvent_waited (hemit _) trivial
  | unsubscribeRsrc s freed =>
      rw [call, unsubscribeRsrc]
      split
      · exact hemit _
      · next entry hentry =>
          refine onRsrcEvent_waited (hemit _) ⟨List.mem_of_find?_eq_some hentry, fun n => ?_⟩
          have heq : entry.forMe (.rcver s.memory) = true := List.find?_some hentry
          change entry.equals s.memory = true at heq
          rw [hk n, Subscriber.ID_of_equals heq, Subscriber.memory_ID]

/-- Over every sequence of calls: who is subscribed in each state, and that the
data call is requested only when no request is outstanding and released only
when one is. -/
theorem run_orderly (single : Bool) (nif : Nif) (calls : List Call) :
    let m := (AgpsStateMachine.init single nif).run calls
    (m.mState = .released → m.mSubscribers = []) ∧
      (m.mState = .pending ∨ m.mState = .acquired →
        ∃ e ∈ m.mSubscribers, e.isInactive = false) ∧
      (m.mState = .releasing → m.mSubscribers ≠ [] ∧
        ((∀ c ∈ calls, Kept c) → ∃ e ∈ m.mSubscribers, e.isInactive = true)) ∧
      Disciplined false m.log ∧
      (outstanding m.log = true ↔ m.mState = .pending ∨ m.mState = .acquired) := by
  have horderly : Orderly ((AgpsStateMachine.init single nif).run calls) := by
    refine List.foldlRecOn calls _ (Orderly.init single nif) ?_
    intro m h c _
    exact call_orderly h c
  have hwaited : (∀ c ∈ calls, Kept c) → Waited ((AgpsStateMachine.init single nif).run calls) := by
    intro hkept
    have hinit : Waited (AgpsStateMachine.init single nif) :=
      ⟨List.Pairwise.nil, by intro h; cases h⟩
    refine List.foldlRecOn calls _ hinit ?_
    intro m h c hc
    exact call_waited h (hkept c hc)
  have hholding : ∀ state, Holding state = true ↔ state = .pending ∨ state = .acquired := by
    intro state
    cases state <;> decide
  refine ⟨horderly.released, fun h => horderly.active ((hholding _).mpr h), fun h => ?_,
    horderly.books.disciplined, ?_⟩
  · exact ⟨horderly.releasing h, fun hkept => (hwaited hkept).inactive h⟩
  · rw [horderly.books.balance]
    exact hholding _

/-- A WIFI requester waits for the close and an ATL client subscribes
meanwhile: Releasing, with an active subscriber. -/
theorem run_releasing_active :
    let m := (AgpsStateMachine.init false ⟨.supl, none, .invalid⟩).run
      [.subscribeRsrc (.wifi .quipc none none false []) [], .granted,
        .unsubscribeRsrc (.wifi .quipc none none false []) (fun _ => ⟨0, []⟩),
        .subscribeRsrc (.atl 7 false []) []]
    m.mState = .releasing ∧ ∃ e ∈ m.mSubscribers, e.isInactive = false := by
  decide

end AgpsStateMachine

end LibraDevice.Agps
