import LibraDevice.Agps.DsStateMachine
import Mathlib.Data.List.Nodup

/-!
The fallback of the emergency data call. The Pending state deletes whom it
denies, and a subscriber that leaves waits as an inactive entry for the close.
-/

namespace LibraDevice.Agps

open LibraDevice.StepRun

namespace DsEffect

/-- How an effect changes whether the subscriber `ID` has been denied or has
left since it last subscribed. -/
def leftAfter (ID : BitVec 32) (left : Bool) : DsEffect → Bool
  | subscribed i => if i = ID then false else left
  | unsubscribed i => if i = ID then true else left
  | requestATL i => if i = ID then true else left
  | _ => left

/-- The same for being denied. -/
def deniedAfter (ID : BitVec 32) (denied : Bool) : DsEffect → Bool
  | subscribed i => if i = ID then false else denied
  | requestATL i => if i = ID then true else denied
  | _ => denied

/-- Nobody subscribes, leaves or is denied. -/
def Quiet : DsEffect → Prop
  | subscribed _ => False
  | unsubscribed _ => False
  | requestATL _ => False
  | _ => True

end DsEffect

/-- The subscriber has been denied or has left since it last subscribed. -/
def left (log : List DsEffect) (ID : BitVec 32) : Bool :=
  log.foldl (DsEffect.leftAfter ID) false

def denied (log : List DsEffect) (ID : BitVec 32) : Bool :=
  log.foldl (DsEffect.deniedAfter ID) false

/-- Nobody is granted the call after a denial or after having left. -/
def Granted (log : List DsEffect) : Prop :=
  ∀ n ID, log[n]? = some (.atlOpenStatus ID) → left (log.take n) ID = false

namespace DSStateMachine

/-- The fallback is final: a subscriber that was denied is not in the list, one
that has left waits at most as an inactive entry, neither is granted the call,
and an entry of the Released state is active and will be retried. -/
structure Final (m : DSStateMachine) : Prop where
  denied : ∀ ID, denied m.log ID = true → ∀ s ∈ m.mSubscribers, s.ID ≠ ID
  left : ∀ ID, left m.log ID = true → ∀ s ∈ m.mSubscribers, s.ID = ID → s.mIsInactive = true
  granted : Granted m.log
  waiting : m.mState = .released → ∀ s ∈ m.mSubscribers, s.mIsInactive = false
  retried : m.mState = .released → m.mSubscribers ≠ [] → 0 < m.timers ∨ m.requests ≠ []

/-- The data call is started, or will be tried again. -/
def Goes (m : DSStateMachine) (start : Start) : Prop :=
  start.ret = 0 ∨
    start.ret = errEngineBusy ∧ m.mRetries < maxStartDataCallRetries ∧ start.timer = true

instance instDecidableGoes (m : DSStateMachine) (start : Start) : Decidable (m.Goes start) :=
  inferInstanceAs (Decidable (_ ∨ _))

/-- The machine need not give up a request itself: no start of the data call
fails for good, nobody leaves while it is retried, and a retry finds its
subscriber. -/
def Handled (m : DSStateMachine) : DsCall → Prop
  | .subscribeRsrc _ start => m.Goes start
  | .unsubscribeRsrc ID => m.mState = .released → ∀ s ∈ m.mSubscribers, s.ID ≠ ID
  | .granted => True
  | .released start => m.Goes start
  | .denied start => m.Goes start
  | .retryCallback => True
  | .retried start =>
      m.Goes start ∧
        ∀ ID ∈ m.requests.head?, ∃ s ∈ m.mSubscribers, s.ID = ID ∧ s.mIsInactive = false

instance instDecidableHandled (m : DSStateMachine) : (c : DsCall) → Decidable (m.Handled c)
  | .subscribeRsrc _ start => instDecidableGoes m start
  | .unsubscribeRsrc ID =>
      inferInstanceAs (Decidable (m.mState = .released → ∀ s ∈ m.mSubscribers, s.ID ≠ ID))
  | .granted => isTrue trivial
  | .released start => instDecidableGoes m start
  | .denied start => instDecidableGoes m start
  | .retryCallback => isTrue trivial
  | .retried start =>
      let _ := instDecidableGoes m start
      let _ := Option.decidableForallMem (p := fun ID =>
        ∃ s ∈ m.mSubscribers, s.ID = ID ∧ s.mIsInactive = false) m.requests.head?
      instDecidableAnd

end DSStateMachine

variable {log : List DsEffect} {l : List DSSubscriber} {e : DsEffect} {ID : BitVec 32}

theorem left_concat (log : List DsEffect) (e : DsEffect) (ID : BitVec 32) :
    left (log ++ [e]) ID = e.leftAfter ID (left log ID) := by
  rw [left, List.foldl_append]
  rfl

theorem denied_concat (log : List DsEffect) (e : DsEffect) (ID : BitVec 32) :
    denied (log ++ [e]) ID = e.deniedAfter ID (denied log ID) := by
  rw [denied, List.foldl_append]
  rfl

theorem Granted.concat (h : Granted log)
    (he : ∀ ID, e = .atlOpenStatus ID → left log ID = false) : Granted (log ++ [e]) := by
  intro n ID hn
  rcases Nat.lt_trichotomy n log.length with hlt | rfl | hlt
  · rw [List.getElem?_append_left hlt] at hn
    rw [List.take_append_of_le_length (Nat.le_of_lt hlt)]
    exact h n ID hn
  · rw [List.getElem?_concat_length] at hn
    rw [List.take_left]
    exact he ID (Option.some.inj hn)
  · rw [List.getElem?_eq_none (by rw [List.length_append]; exact hlt)] at hn
    cases hn

/-- Who is in the list, by what has happened so far. -/
structure Ledger (l : List DSSubscriber) (log : List DsEffect) : Prop where
  distinct : (l.map DSSubscriber.ID).Nodup
  active : ∀ s ∈ l, s.mIsInactive = false → left log s.ID = false
  denied : ∀ s ∈ l, denied log s.ID = false
  granted : Granted log

theorem Ledger.concat (h : Ledger l log) (hleft : ∀ s ∈ l, ∀ b, e.leftAfter s.ID b = b)
    (hdenied : ∀ s ∈ l, ∀ b, e.deniedAfter s.ID b = b)
    (he : ∀ ID, e = .atlOpenStatus ID → left log ID = false) : Ledger l (log ++ [e]) := by
  refine ⟨h.distinct, ?_, ?_, h.granted.concat he⟩
  · intro s hs hactive
    rw [left_concat, hleft s hs]
    exact h.active s hs hactive
  · intro s hs
    rw [denied_concat, hdenied s hs]
    exact h.denied s hs

theorem Ledger.quiet (h : Ledger l log) (hquiet : e.Quiet)
    (he : ∀ ID, e = .atlOpenStatus ID → left log ID = false) : Ledger l (log ++ [e]) := by
  refine h.concat (fun s _ b => ?_) (fun s _ b => ?_) he
  · cases e <;> first | rfl | exact hquiet.elim
  · cases e <;> first | rfl | exact hquiet.elim

theorem Ledger.grants (h : Ledger l log) {l' : List DSSubscriber} (hl : ∀ s ∈ l',
    left log s.ID = false) : Ledger l (log ++ l'.map fun s => .atlOpenStatus s.ID) := by
  induction l' generalizing log with
  | nil =>
      rw [List.map_nil, List.append_nil]
      exact h
  | cons s l' ih =>
      have hs := hl s List.mem_cons_self
      rw [List.map_cons, List.append_cons]
      refine ih (h.quiet trivial ?_) ?_
      · rintro ID heq
        cases heq
        exact hs
      · intro s' hs'
        rw [left_concat]
        exact hl s' (List.mem_cons_of_mem _ hs')

theorem Ledger.subscribed (h : Ledger l log) (ID : BitVec 32) :
    Ledger l (log ++ [.subscribed ID]) := by
  refine ⟨h.distinct, ?_, ?_, h.granted.concat fun _ heq => by cases heq⟩
  · intro s hs hactive
    rw [left_concat, DsEffect.leftAfter]
    split
    · rfl
    · exact h.active s hs hactive
  · intro s hs
    rw [denied_concat, DsEffect.deniedAfter]
    split
    · rfl
    · exact h.denied s hs

theorem Ledger.sublist (h : Ledger l log) {l' : List DSSubscriber} (hl : l'.Sublist l) :
    Ledger l' log :=
  ⟨h.distinct.sublist (hl.map _), fun s hs => h.active s (hl.subset hs),
    fun s hs => h.denied s (hl.subset hs), h.granted⟩

/-- Some that are not in the list are told something, but not granted the
call. -/
theorem Ledger.tell (h : Ledger l log) (f : BitVec 32 → DsEffect)
    (hf : ∀ i ID, f i ≠ .atlOpenStatus ID) {l' : List DSSubscriber}
    (hl : ∀ s' ∈ l', ∀ s ∈ l, ∀ b, (f s'.ID).leftAfter s.ID b = b ∧
      (f s'.ID).deniedAfter s.ID b = b) :
    Ledger l (log ++ l'.map fun s => f s.ID) := by
  induction l' generalizing log with
  | nil =>
      rw [List.map_nil, List.append_nil]
      exact h
  | cons s' l' ih =>
      have hs' := hl s' List.mem_cons_self
      rw [List.map_cons, List.append_cons]
      refine ih ?_ fun s'' hs'' => hl s'' (List.mem_cons_of_mem _ hs'')
      exact h.concat (fun s hs b => (hs' s hs b).1) (fun s hs b => (hs' s hs b).2)
        fun ID heq => absurd heq (hf _ ID)

theorem Ledger.add (h : Ledger l log) (hnew : ∀ s ∈ l, s.ID ≠ ID) (hleft : left log ID = false)
    (hdenied : Agps.denied log ID = false) : Ledger (⟨ID, false⟩ :: l) log := by
  refine ⟨?_, ?_, ?_, h.granted⟩
  · rw [List.map_cons, List.nodup_cons]
    refine ⟨?_, h.distinct⟩
    intro hmem
    obtain ⟨s, hs, hid⟩ := List.mem_map.mp hmem
    exact hnew s hs hid
  · intro s hs hactive
    rcases List.mem_cons.mp hs with rfl | hs
    · exact hleft
    · exact h.active s hs hactive
  · intro s hs
    rcases List.mem_cons.mp hs with rfl | hs
    · exact hdenied
    · exact h.denied s hs

theorem map_replace_ID (s s' : DSSubscriber) (hid : s'.ID = s.ID) :
    (l.replace s s').map DSSubscriber.ID = l.map DSSubscriber.ID := by
  induction l with
  | nil => rfl
  | cons a l ih =>
      rw [List.replace_cons]
      split
      · next heq =>
          obtain rfl := eq_of_beq heq
          rw [List.map_cons, List.map_cons, hid]
      · rw [List.map_cons, List.map_cons, ih]

theorem Ledger.leave (h : Ledger l log) {s : DSSubscriber} (hs : s ∈ l) :
    Ledger (l.replace s { s with mIsInactive := true }) (log ++ [.unsubscribed s.ID]) := by
  have hdistinct : ((l.replace s { s with mIsInactive := true }).map DSSubscriber.ID).Nodup := by
    rw [map_replace_ID s { s with mIsInactive := true } rfl]
    exact h.distinct
  refine ⟨hdistinct, ?_, ?_, h.granted.concat fun _ heq => by cases heq⟩
  · intro a ha hactive
    rw [left_concat, DsEffect.leftAfter]
    split
    · next hid =>
        have heq : a = { s with mIsInactive := true } :=
          List.inj_on_of_nodup_map hdistinct ha (mem_replace_new hs) hid.symm
        rw [heq] at hactive
        cases hactive
    · next hne =>
        rcases mem_of_mem_replace ha with rfl | ha
        · exact absurd rfl hne
        · exact h.active a ha hactive
  · intro a ha
    rw [denied_concat]
    change Agps.denied log a.ID = false
    rcases mem_of_mem_replace ha with rfl | ha
    · exact h.denied s hs
    · exact h.denied a ha

theorem Ledger.absent (h : Ledger l log) (hnone : ∀ s ∈ l, s.ID ≠ ID) :
    Ledger l (log ++ [.unsubscribed ID]) :=
  h.concat (fun s hs _ => if_neg (hnone s hs).symm) (fun _ _ _ => rfl) fun _ heq => by cases heq

namespace DSStateMachine

variable {m m' : DSStateMachine} {start : Start} {status : AgpsRsrcStatus}

theorem informAll_log (f : BitVec 32 → DsEffect)
    (hf : ∀ (m : DSStateMachine) ID, (m.informStatus status ID).log = m.log ++ [f ID])
    (l : List DSSubscriber) :
    (m.informAll status l).log = m.log ++ l.map fun s => f s.ID := by
  induction l generalizing m with
  | nil => exact (List.append_nil _).symm
  | cons s l ih =>
      have htail : (m.informAll status (s :: l)).log =
          (m.informStatus status s.ID).log ++ l.map fun s => f s.ID := ih
      rw [htail, hf, List.map_cons, List.append_assoc]
      rfl

theorem sendRsrcRequest_release :
    m.sendRsrcRequest .releaseAgpsDataConn start =
      (0, m.emit (.requestRsrc .releaseAgpsDataConn)) :=
  rfl

/-- A request that goes leaves the list alone, and does not succeed only where
a retry timer runs. -/
theorem sendRsrcRequest_goes (h : m.Goes start) :
    ∃ ret m', m.sendRsrcRequest .requestAgpsDataConn start = (ret, m') ∧
      m'.mSubscribers = m.mSubscribers ∧ m'.mState = m.mState ∧
      m'.log = m.log ++ [.requestRsrc .requestAgpsDataConn] ∧ (ret = 0 ∨ 0 < m'.timers) := by
  obtain ⟨ret, timer⟩ := start
  rcases h with hret | ⟨hret, hretries, htimer⟩
  · obtain rfl : ret = 0 := hret
    exact ⟨_, _, rfl, rfl, rfl, rfl, Or.inl rfl⟩
  · obtain rfl : ret = errEngineBusy := hret
    obtain rfl : timer = true := htimer
    refine ⟨-1, { m.emit (.requestRsrc .requestAgpsDataConn) with
      mRetries := m.mRetries + 1, timers := m.timers + 1 }, ?_, rfl, rfl, rfl,
      Or.inr (Nat.succ_pos m.timers)⟩
    simp only [sendRsrcRequest, requestRsrc, if_pos, emit]
    rw [if_neg (Nat.not_lt_of_le hretries)]

theorem addSubscriber_cases (m : DSStateMachine) (ID : BitVec 32) :
    (∃ s ∈ m.mSubscribers, s.ID = ID) ∧ m.addSubscriber ID = m ∨
      (∀ s ∈ m.mSubscribers, s.ID ≠ ID) ∧
        m.addSubscriber ID = { m with mSubscribers := ⟨ID, false⟩ :: m.mSubscribers } := by
  cases hfind : m.mSubscribers.find? (·.ID = ID) with
  | some s =>
      refine Or.inl ⟨⟨s, List.mem_of_find?_eq_some hfind, ?_⟩, ?_⟩
      · simpa using List.find?_some hfind
      · rw [addSubscriber, hfind]
  | none =>
      refine Or.inr ⟨?_, ?_⟩
      · intro s hs hid
        exact List.find?_eq_none.mp hfind s hs (decide_eq_true hid)
      · rw [addSubscriber, hfind]

/-- The books of the list, and what the Released state keeps. -/
structure Settled (m : DSStateMachine) : Prop where
  ledger : Ledger m.mSubscribers m.log
  waiting : m.mState = .released → ∀ s ∈ m.mSubscribers, s.mIsInactive = false
  retried : m.mState = .released → m.mSubscribers ≠ [] → 0 < m.timers ∨ m.requests ≠ []

theorem Settled.elsewhere (h : Ledger m.mSubscribers m.log) (hstate : m.mState ≠ .released) :
    m.Settled :=
  ⟨h, fun hr => absurd hr hstate, fun hr => absurd hr hstate⟩

theorem Settled.empty (h : Ledger m.mSubscribers m.log) (hnil : m.mSubscribers = []) :
    m.Settled :=
  ⟨h, (fun _ s hs => by rw [hnil] at hs; cases hs), fun _ hne => absurd hnil hne⟩

theorem Settled.final (h : m.Settled) : m.Final where
  denied := by
    rintro ID hdenied s hs rfl
    rw [h.ledger.denied s hs] at hdenied
    cases hdenied
  left := by
    rintro ID hleft s hs rfl
    cases hinactive : s.mIsInactive with
    | true => rfl
    | false =>
        rw [h.ledger.active s hs hinactive] at hleft
        cases hleft
  granted := h.ledger.granted
  waiting := h.waiting
  retried := h.retried

theorem Ledger.addSubscriber (h : Ledger m.mSubscribers m.log) (hleft : left m.log ID = false)
    (hdenied : denied m.log ID = false) :
    Ledger (m.addSubscriber ID).mSubscribers (m.addSubscriber ID).log := by
  rcases m.addSubscriber_cases ID with ⟨-, heq⟩ | ⟨hnew, heq⟩
  · rw [heq]
    exact h
  · rw [heq]
    exact h.add hnew hleft hdenied

theorem addSubscriber_mState : (m.addSubscriber ID).mState = m.mState := by
  rcases m.addSubscriber_cases ID with ⟨-, heq⟩ | ⟨-, heq⟩ <;> rw [heq]

/-- A subscriber that has neither been denied nor left is subscribed, by its
client or by a retry. -/
theorem Settled.subscribeRsrc (h : Ledger m.mSubscribers m.log)
    (hwaiting : m.mState = .released → ∀ s ∈ m.mSubscribers, s.mIsInactive = false)
    (hleft : left m.log ID = false) (hdenied : denied m.log ID = false) (hgoes : m.Goes start) :
    (m.subscribeRsrc ID start).Settled := by
  rw [DSStateMachine.subscribeRsrc, stateOnRsrcEvent]
  cases hstate : m.mState with
  | released =>
      have hgoes' : (m.addSubscriber ID).Goes start := by
        rcases m.addSubscriber_cases ID with ⟨-, heq⟩ | ⟨-, heq⟩ <;> rw [heq] <;> exact hgoes
      obtain ⟨ret, m', hsent, hsubs, hstate', hlog, htimer⟩ := sendRsrcRequest_goes hgoes'
      have hledger : Ledger m'.mSubscribers m'.log := by
        rw [hsubs, hlog]
        exact (Ledger.addSubscriber h hleft hdenied).quiet trivial fun _ heq => by cases heq
      simp only [releasedOnRsrcEvent, hsent]
      split
      · exact Settled.elsewhere hledger (by change AgpsState.pending ≠ _; decide)
      · next hret =>
          refine ⟨hledger, ?_, fun _ _ => Or.inl (htimer.resolve_left hret)⟩
          intro _ s hs
          rw [hsubs] at hs
          rcases m.addSubscriber_cases ID with ⟨-, heq⟩ | ⟨-, heq⟩
          · rw [heq] at hs
            exact hwaiting hstate s hs
          · rw [heq] at hs
            rcases List.mem_cons.mp hs with rfl | hs
            · rfl
            · exact hwaiting hstate s hs
  | pending =>
      refine Settled.elsewhere (Ledger.addSubscriber h hleft hdenied) ?_
      change (m.addSubscriber ID).mState ≠ _
      rw [addSubscriber_mState, hstate]
      decide
  | acquired =>
      have hgranted : Ledger (m.informStatus .granted ID).mSubscribers
          (m.informStatus .granted ID).log := by
        refine h.quiet trivial ?_
        rintro i heq
        cases heq
        exact hleft
      refine Settled.elsewhere (Ledger.addSubscriber hgranted ?_ ?_) ?_
      · exact (left_concat _ _ _).trans hleft
      · exact (denied_concat _ _ _).trans hdenied
      · change ((m.informStatus .granted ID).addSubscriber ID).mState ≠ _
        rw [addSubscriber_mState, informStatus_mState, hstate]
        decide
  | releasing =>
      refine Settled.elsewhere (Ledger.addSubscriber h hleft hdenied) ?_
      change (m.addSubscriber ID).mState ≠ _
      rw [addSubscriber_mState, hstate]
      decide

theorem setInactive_ledger (h : Ledger m.mSubscribers m.log) {s : DSSubscriber}
    (hs : s ∈ m.mSubscribers) :
    Ledger ((m.emit (.unsubscribed s.ID)).setInactive s).mSubscribers
      ((m.emit (.unsubscribed s.ID)).setInactive s).log :=
  (h.leave hs).quiet trivial fun _ heq => by cases heq

theorem not_hasSubscribers (h : m.hasSubscribers = false) : m.mSubscribers = [] := by
  rw [hasSubscribers, Bool.not_eq_false'] at h
  exact List.isEmpty_iff.mp h

theorem Settled.leave {s : DSSubscriber}
    (h : Ledger (m.setInactive s).mSubscribers (m.setInactive s).log)
    (hstate : m.mState ≠ .released) : (m.leave s).Settled := by
  have hrelease : Ledger ((m.setInactive s).emit (.requestRsrc .releaseAgpsDataConn)).mSubscribers
      ((m.setInactive s).emit (.requestRsrc .releaseAgpsDataConn)).log :=
    h.quiet trivial fun _ heq => by cases heq
  rw [DSStateMachine.leave]
  simp only [sendRsrcRequest_release]
  split
  · next hnone =>
      have hnil := not_hasSubscribers (Bool.not_eq_true' _ ▸ hnone)
      exact Settled.empty hrelease hnil
  · split
    · exact Settled.elsewhere hrelease (by change AgpsState.releasing ≠ _; decide)
    · refine Settled.elsewhere h ?_
      rw [setInactive, informStatus_mState]
      exact hstate

theorem Settled.unsubscribeRsrc (h : m.Settled)
    (hkept : m.mState = .released → ∀ s ∈ m.mSubscribers, s.ID ≠ ID) :
    ((m.emit (.unsubscribed ID)).unsubscribeRsrc ID).Settled := by
  rw [DSStateMachine.unsubscribeRsrc]
  split
  · next s hfind =>
      have hs : s ∈ m.mSubscribers := List.mem_of_find?_eq_some hfind
      obtain rfl : s.ID = ID := by
        simpa using List.find?_some hfind
      have hledger := setInactive_ledger h.ledger hs
      rw [stateOnRsrcEvent]
      cases hstate : (m.emit (.unsubscribed s.ID)).mState with
      | released => exact absurd rfl (hkept hstate s hs)
      | pending =>
          exact Settled.leave hledger (by rw [hstate]; decide)
      | acquired =>
          exact Settled.leave hledger (by rw [hstate]; decide)
      | releasing =>
          simp only [releasingOnRsrcEvent]
          split
          · next hnone =>
              have hnil := not_hasSubscribers (Bool.not_eq_true' _ ▸ hnone)
              exact Settled.empty hledger hnil
          · refine Settled.elsewhere hledger ?_
            rw [setInactive, informStatus_mState]
            change (m.emit (.unsubscribed s.ID)).mState ≠ _
            rw [hstate]
            decide
  · next hnone =>
      refine ⟨h.ledger.absent ?_, h.waiting, h.retried⟩
      intro s hs hid
      exact List.find?_eq_none.mp hnone s hs (decide_eq_true hid)

theorem Settled.granted (h : m.Settled) : (m.stateOnRsrcEvent .granted).Settled := by
  rw [stateOnRsrcEvent]
  cases hstate : m.mState with
  | released => exact h
  | pending =>
      refine Settled.elsewhere ?_ (by change AgpsState.acquired ≠ _; decide)
      change Ledger (m.notifyActive .granted).mSubscribers (m.notifyActive .granted).log
      rw [notifyActive, informAll_mSubscribers, informAll_log .atlOpenStatus fun _ _ => rfl]
      refine h.ledger.grants ?_
      intro s hs
      obtain ⟨hs, hactive⟩ := List.mem_filter.mp hs
      exact h.ledger.active s hs ((Bool.not_eq_true' _).mp hactive)
  | acquired => exact h
  | releasing => exact h

theorem notifyDeleting_mSubscribers (forMe : DSSubscriber → Bool) :
    (m.notifyDeleting forMe status).mSubscribers = m.mSubscribers.filter fun s => !forMe s := by
  simp only [notifyDeleting, informAll_mSubscribers]

theorem Ledger.notifyDeleting (h : Ledger m.mSubscribers m.log) (forMe : DSSubscriber → Bool)
    (hstatus : status = .released ∨ status = .denied) :
    Ledger (m.notifyDeleting forMe status).mSubscribers (m.notifyDeleting forMe status).log := by
  have hrest : Ledger (m.mSubscribers.filter fun s => !forMe s) m.log :=
    h.sublist List.filter_sublist
  have hother : ∀ s' ∈ m.mSubscribers.filter forMe,
      ∀ s ∈ m.mSubscribers.filter fun s => !forMe s, s'.ID ≠ s.ID := by
    intro s' hs' s hs hid
    obtain ⟨hs', hfor⟩ := List.mem_filter.mp hs'
    obtain ⟨hs, hnot⟩ := List.mem_filter.mp hs
    obtain rfl := List.inj_on_of_nodup_map h.distinct hs' hs hid
    rw [hfor] at hnot
    cases hnot
  rw [notifyDeleting_mSubscribers]
  rcases hstatus with rfl | rfl
  · change Ledger _ (m.informAll .released _).log
    rw [informAll_log (fun _ => .closeDataCall) fun _ _ => rfl]
    exact hrest.tell (fun _ => .closeDataCall) (fun _ _ heq => by cases heq)
      fun _ _ _ _ _ => ⟨rfl, rfl⟩
  · change Ledger _ (m.informAll .denied _).log
    rw [informAll_log .requestATL fun _ _ => rfl]
    refine hrest.tell DsEffect.requestATL (fun _ _ heq => by cases heq) ?_
    intro s' hs' s hs b
    exact ⟨if_neg (hother s' hs' s hs), if_neg (hother s' hs' s hs)⟩

theorem Settled.everyone (h : m.Settled) (hstatus : status = .released ∨ status = .denied) :
    ((m.notifyDeleting (fun _ => true) status).moveTo .released).Settled := by
  refine Settled.empty (Ledger.notifyDeleting h.ledger (fun _ => true) hstatus) ?_
  change (m.notifyDeleting _ status).mSubscribers = []
  rw [notifyDeleting_mSubscribers]
  exact List.filter_false _

theorem informAll_mRetries_le (l : List DSSubscriber) :
    (m.informAll status l).mRetries ≤ m.mRetries := by
  induction l generalizing m with
  | nil => exact Nat.le_refl _
  | cons s l ih =>
      have hone : (m.informStatus status s.ID).mRetries ≤ m.mRetries := by
        cases status <;> first | exact Nat.le_refl _ | exact Nat.zero_le _
      exact Nat.le_trans ih hone

theorem closed_mState : (m.closed status start).mState ≠ .releasing := by
  simp only [closed]
  split
  · change AgpsState.pending ≠ _
    decide
  · change AgpsState.released ≠ _
    decide

theorem Settled.closed (h : m.Settled) (hstatus : status = .released ∨ status = .denied)
    (hgoes : m.Goes start) : (m.closed status start).Settled := by
  have hledger := Ledger.notifyDeleting h.ledger (·.mIsInactive) hstatus
  have hgoes' : (m.notifyDeleting (·.mIsInactive) status).Goes start := by
    rcases hgoes with hret | ⟨hret, hretries, htimer⟩
    · exact Or.inl hret
    · exact Or.inr ⟨hret, Nat.lt_of_le_of_lt (informAll_mRetries_le _) hretries, htimer⟩
  obtain ⟨ret, m', hsent, hsubs, -, hlog, -⟩ := sendRsrcRequest_goes hgoes'
  simp only [DSStateMachine.closed, hsent]
  split
  · refine Settled.elsewhere ?_ (by change AgpsState.pending ≠ _; decide)
    change Ledger m'.mSubscribers m'.log
    rw [hsubs, hlog]
    exact hledger.quiet trivial fun _ heq => by cases heq
  · next hnone =>
      refine Settled.empty hledger ?_
      rw [hasActiveSubscribers, activeSubscriber, Option.not_isSome_iff_eq_none,
        List.find?_eq_none] at hnone
      change (m.notifyDeleting _ status).mSubscribers = []
      rw [List.eq_nil_iff_forall_not_mem]
      intro s hs
      have hactive := hs
      rw [notifyDeleting_mSubscribers] at hactive
      exact hnone s hs (List.mem_filter.mp hactive).2

theorem Settled.denied (h : m.Settled) (hgoes : m.Goes start) :
    (m.stateOnRsrcEvent (.denied start)).Settled := by
  rw [stateOnRsrcEvent]
  cases hstate : m.mState with
  | released => exact h
  | pending => exact h.everyone (Or.inr rfl)
  | acquired => exact h
  | releasing => exact h.closed (Or.inr rfl) hgoes

theorem Settled.onReleased (h : m.Settled) (hgoes : m.Goes start) :
    (m.onReleased start).Settled := by
  have hunchanged : m.stateOnRsrcEvent (.released start) = m → (m.onReleased start).Settled := by
    intro heq
    rw [DSStateMachine.onReleased, heq, if_neg (not_not_intro rfl)]
    exact h.denied hgoes
  have hchanged : (m.stateOnRsrcEvent (.released start)).mState ≠ m.mState →
      (m.stateOnRsrcEvent (.released start)).Settled → (m.onReleased start).Settled := by
    intro hne hsettled
    rw [DSStateMachine.onReleased, if_pos hne]
    exact hsettled
  cases hstate : m.mState with
  | released =>
      apply hunchanged
      rw [stateOnRsrcEvent, hstate]
      rfl
  | pending =>
      apply hunchanged
      rw [stateOnRsrcEvent, hstate]
      rfl
  | acquired =>
      have heq : m.stateOnRsrcEvent (.released start) =
          (m.notifyDeleting (fun _ => true) .released).moveTo .released := by
        rw [stateOnRsrcEvent, hstate]
        rfl
      apply hchanged
      · rw [heq, hstate]
        change AgpsState.released ≠ _
        decide
      · rw [heq]
        exact h.everyone (Or.inl rfl)
  | releasing =>
      have heq : m.stateOnRsrcEvent (.released start) = m.closed .released start := by
        rw [stateOnRsrcEvent, hstate]
        rfl
      apply hchanged
      · rw [heq, hstate]
        exact closed_mState
      · rw [heq]
        exact h.closed (Or.inl rfl) hgoes

theorem Settled.retryCallback (h : m.Settled) (timers : Nat) :
    (DSStateMachine.retryCallback { m with timers := timers }).Settled := by
  rw [DSStateMachine.retryCallback]
  split
  · exact ⟨h.ledger, h.waiting, fun _ _ => Or.inr (List.append_ne_nil_of_right_ne_nil _ (by simp))⟩
  · next hnone =>
      refine ⟨h.ledger, h.waiting, fun hr hne => ?_⟩
      obtain ⟨s, hs⟩ := List.exists_mem_of_ne_nil _ hne
      have hinactive := List.find?_eq_none.mp hnone s hs
      rw [h.waiting hr s hs] at hinactive
      exact absurd rfl hinactive

theorem Settled.step (h : m.Settled) {c : DsCall} (hc : m.Handled c) (hstep : m.Steps c m') :
    m'.Settled := by
  rw [Steps] at hstep
  cases c with
  | subscribeRsrc ID start =>
      cases hstep
      refine Settled.subscribeRsrc (h.ledger.subscribed ID) h.waiting ?_ ?_ hc
      · exact (Agps.left_concat _ _ _).trans (if_pos rfl)
      · exact (Agps.denied_concat _ _ _).trans (if_pos rfl)
  | unsubscribeRsrc ID =>
      cases hstep
      exact h.unsubscribeRsrc hc
  | granted =>
      cases hstep
      exact h.granted
  | released start =>
      cases hstep
      exact h.onReleased hc
  | denied start =>
      cases hstep
      exact h.denied hc
  | retryCallback =>
      simp only [call] at hstep
      split at hstep
      · cases hstep
      · next timers _ =>
          cases hstep
          exact h.retryCallback timers
  | retried start =>
      simp only [call] at hstep
      split at hstep
      · cases hstep
      · next ID requests hrequests =>
          cases hstep
          obtain ⟨hgoes, hthere⟩ := hc
          obtain ⟨s, hs, rfl, hactive⟩ := hthere ID (by rw [hrequests]; rfl)
          exact Settled.subscribeRsrc h.ledger h.waiting (h.ledger.active s hs hactive)
            (h.ledger.denied s hs) hgoes

theorem Settled.init : init.Settled where
  ledger := ⟨List.nodup_nil, (fun _ hs => by cases hs), (fun _ hs => by cases hs),
    fun _ _ hn => by cases hn⟩
  waiting := fun _ _ hs => by cases hs
  retried := fun _ hne => absurd rfl hne

/-- Where the machine need not give up a request itself, the fallback is
final. -/
theorem run_final {calls : List DsCall} (hrun : Run (Guarded Handled Steps) init calls m) :
    m.Final := by
  have hsettled : m.Settled := by
    refine hrun.invariant Settled.init ?_
    rintro m c m' hm ⟨hc, hstep⟩
    exact hm.step hc hstep
  exact hsettled.final

/-- A busy data service is asked again, and the subscriber is granted the call
and leaves. -/
theorem run_final_retried :
    ∃ m : DSStateMachine,
      Run (Guarded Handled Steps) init
        [.subscribeRsrc 1 ⟨errEngineBusy, true⟩, .retryCallback, .retried ⟨0, false⟩, .granted,
          .unsubscribeRsrc 1, .released ⟨0, false⟩] m ∧
      (left m.log 1 = true ∧ m.mSubscribers = []) ∧ m.Final := by
  let asked : List DsEffect := [.subscribed 1, .requestRsrc .requestAgpsDataConn]
  let granted : List DsEffect :=
    asked ++ [.requestRsrc .requestAgpsDataConn, .atlOpenStatus 1]
  let gone : List DsEffect :=
    granted ++ [.unsubscribed 1, .atlCloseStatus 1, .requestRsrc .releaseAgpsDataConn]
  have h₁ : Run (Guarded Handled Steps) init [.subscribeRsrc 1 ⟨errEngineBusy, true⟩]
      ⟨[⟨1, false⟩], .released, 1, 1, [], asked⟩ := .snoc .nil ⟨by decide, by rfl⟩
  have h₂ : Run (Guarded Handled Steps) init [_, .retryCallback]
      ⟨[⟨1, false⟩], .released, 1, 0, [1], asked⟩ := .snoc h₁ ⟨by decide, by rfl⟩
  have h₃ : Run (Guarded Handled Steps) init [_, _, .retried ⟨0, false⟩]
      ⟨[⟨1, false⟩], .pending, 1, 0, [], asked ++ [.requestRsrc .requestAgpsDataConn]⟩ :=
    .snoc h₂ ⟨by decide, by rfl⟩
  have h₄ : Run (Guarded Handled Steps) init [_, _, _, .granted]
      ⟨[⟨1, false⟩], .acquired, 1, 0, [], granted⟩ := .snoc h₃ ⟨by decide, by rfl⟩
  have h₅ : Run (Guarded Handled Steps) init [_, _, _, _, .unsubscribeRsrc 1]
      ⟨[⟨1, true⟩], .releasing, 1, 0, [], gone⟩ := .snoc h₄ ⟨by decide, by rfl⟩
  have h₆ : Run (Guarded Handled Steps) init [_, _, _, _, _, .released ⟨0, false⟩]
      ⟨[], .released, 1, 0, [], gone ++ [.closeDataCall]⟩ := .snoc h₅ ⟨by decide, by rfl⟩
  exact ⟨_, h₆, ⟨by decide, rfl⟩, run_final h₆⟩

/-- A subscriber that has left is still in the list. -/
theorem run_waits_for_close :
    ∃ m : DSStateMachine,
      Run Steps init
        [.subscribeRsrc 1 ⟨0, false⟩, .granted, .unsubscribeRsrc 1] m ∧
      left m.log 1 = true ∧ ∃ s ∈ m.mSubscribers, s.ID = 1 := by
  let run : Option DSStateMachine :=
    [.subscribeRsrc 1 ⟨0, false⟩, .granted, .unsubscribeRsrc 1].foldlM call init
  have hleft : run.map (fun m => (left m.log 1, m.mSubscribers)) = some (true, [⟨1, true⟩]) := by
    decide
  obtain ⟨m, hm, hleft⟩ := Option.map_eq_some_iff.mp hleft
  simp only [Prod.mk.injEq] at hleft
  refine ⟨m, Run.of_foldlM (fun _ _ _ h => h) hm, hleft.1, ⟨1, true⟩, ?_, rfl⟩
  rw [hleft.2]
  exact List.mem_cons_self

/-- A start that fails for good sends the subscriber back to the ATL, and
leaves it in the list. -/
theorem subscribeRsrc_refused (hstate : m.mState = .released) (hnil : m.mSubscribers = [])
    (hret : start.ret = errUnsupported ∨ start.ret = -1) :
    (m.subscribeRsrc ID start).mState = .released ∧
      (m.subscribeRsrc ID start).mSubscribers = [⟨ID, false⟩] ∧
      (m.subscribeRsrc ID start).log =
        m.log ++ [.requestRsrc .requestAgpsDataConn, .requestATL ID] := by
  obtain ⟨subscribers, state, retries, timers, requests, log⟩ := m
  obtain ⟨ret, timer⟩ := start
  obtain rfl : subscribers = [] := hnil
  obtain rfl : state = .released := hstate
  rcases hret with hret | hret
  · obtain rfl : ret = errUnsupported := hret
    exact ⟨rfl, rfl, List.append_assoc _ _ _⟩
  · obtain rfl : ret = -1 := hret
    exact ⟨rfl, rfl, List.append_assoc _ _ _⟩

end DSStateMachine

end LibraDevice.Agps
