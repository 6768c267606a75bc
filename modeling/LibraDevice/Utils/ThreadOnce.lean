import LibraDevice.Utils.ThreadOwners

/-!
The reference count of a delegate against those who hold it.
-/

namespace LibraDevice.Utils.LocThread

open SharedObject StepRun

inductive Party where
  | client
  | thread
deriving DecidableEq, Repr

/-- The client has not been through the region of `destroy`. -/
def ClientPc.holds (mThread : Bool) : ClientPc → Bool
  | .idle | .taskThread | .taskUnblock _ | .taskForget => mThread
  | .noThread | .taskDelete | .done | .destroy (.last _) => false
  | _ => true

/-- Nor has the thread. -/
def SpawnedPc.holds : SpawnedPc → Bool
  | .ended | .destroy (.last _) => false
  | _ => true

namespace State

/-- While `pthread_create` may still fail the thread is counted already. -/
def holds (s : State) : Party → Bool
  | .client => s.client.holds s.mThread
  | .thread =>
      match s.spawned with
      | none => s.client = .pthreadCreate || s.client = .failed
      | some pc => pc.holds

def deleting (s : State) : Party → Bool
  | .client => s.client = .destroy (.last true)
  | .thread => s.spawned = some (.destroy (.last true))

/-- The delegate as its holders see it. -/
def object (s : State) : Shared Party where
  holders := ({.client, .thread} : Finset Party).filter fun p => s.holds p = true
  last :=
    if s.deleting .client then some .client
    else if s.deleting .thread then some .thread
    else none
  deleted := s.deleted

structure Owned (s : State) : Prop where
  counted : s.object.Counted s.delegate.mRefCount
  single : s.deleting .client = true → s.deleting .thread = false
  unused : s.usedDeleted = false

end State

variable {s s' t : State} {p : Party}

theorem mem_holders : p ∈ s.object.holders ↔ s.holds p = true := by
  rw [State.object, Finset.mem_filter]
  refine and_iff_right ?_
  cases p with
  | client => exact Finset.mem_insert_self _ _
  | thread => exact Finset.mem_insert_of_mem (Finset.mem_singleton_self _)

theorem last_eq_none : s.object.last = none ↔ ∀ q, s.deleting q = false := by
  rw [State.object]
  constructor
  · intro h q
    simp only at h
    split at h
    · cases h
    · next hclient =>
        split at h
        · cases h
        · next hthread =>
            cases q with
            | client => exact Bool.eq_false_iff.mpr hclient
            | thread => exact Bool.eq_false_iff.mpr hthread
  · intro h
    simp only [h .client, h .thread, Bool.false_eq_true, if_false]

theorem last_of_deleting (hsingle : s.deleting .client = true → s.deleting .thread = false)
    (h : s.deleting p = true) : s.object.last = some p := by
  rw [State.object]
  cases p with
  | client => simp only [h, if_true]
  | thread =>
      have hclient : s.deleting .client = false := by
        cases hc : s.deleting .client with
        | false => rfl
        | true => rw [hsingle hc] at h; cases h
      simp only [hclient, h, Bool.false_eq_true, if_false, if_true]

theorem State.Owned.congr (h : s.Owned) (hholds : ∀ q, t.holds q = s.holds q)
    (hdeleting : ∀ q, t.deleting q = s.deleting q) (hdeleted : t.deleted = s.deleted)
    (hused : t.usedDeleted = s.usedDeleted)
    (hcount : t.delegate.mRefCount = s.delegate.mRefCount) : t.Owned := by
  have hobject : t.object = s.object := by
    simp only [State.object, hholds, hdeleting, hdeleted]
  refine ⟨?_, ?_, hused.trans h.unused⟩
  · rw [hobject, hcount]
    exact h.counted
  · rw [hdeleting, hdeleting]
    exact h.single

theorem State.Owned.deleted_of_holds (h : s.Owned) (hp : s.holds p = true) : s.deleted = 0 :=
  h.counted.deleted_of_mem (mem_holders.mpr hp)

theorem State.Owned.touch_of_holds (h : s.Owned) (hp : s.holds p = true) : s.touch = s := by
  have hzero : ¬ 0 < s.deleted := by
    rw [h.deleted_of_holds hp]
    exact Nat.lt_irrefl 0
  rw [State.touch, decide_eq_false hzero, Bool.or_false]

theorem State.Owned.letGo (h : s.Owned) (hp : s.holds p = true) (hp' : t.holds p = false)
    (hq : ∀ q, q ≠ p → t.holds q = s.holds q)
    (hlast : t.deleting p = decide (s.delegate.mRefCount = 1))
    (hother : ∀ q, q ≠ p → t.deleting q = s.deleting q) (hdeleted : t.deleted = s.deleted)
    (hused : t.usedDeleted = s.usedDeleted)
    (hcount : t.delegate.mRefCount = s.delegate.mRefCount - 1) : t.Owned := by
  have hmem := mem_holders.mpr hp
  have hnone := last_eq_none.mp (h.counted.alive (Finset.ne_empty_of_mem hmem)).1
  have hquiet : ∀ q, q ≠ p → t.deleting q = false := fun q hne => (hother q hne).trans (hnone q)
  have hsingle : t.deleting .client = true → t.deleting .thread = false := by
    intro hc
    cases p with
    | client => exact hquiet .thread (by simp)
    | thread =>
        rw [hquiet .client (by simp)] at hc
        cases hc
  have hholders : t.object.holders = s.object.holders.erase p := by
    ext q
    rw [Finset.mem_erase, mem_holders, mem_holders]
    rcases eq_or_ne q p with rfl | hne
    · simp [hp']
    · rw [hq q hne]
      exact (and_iff_right hne).symm
  have hobject : t.object = s.object.letGo p := by
    have hl : t.object.last = (s.object.letGo p).last := by
      change _ = if s.object.holders.card = 1 then some p else s.object.last
      rw [h.counted.card]
      split
      · next hone =>
          rw [decide_eq_true hone] at hlast
          exact last_of_deleting hsingle hlast
      · next hmany =>
          rw [decide_eq_false hmany] at hlast
          rw [last_eq_none.mpr hnone, last_eq_none]
          intro q
          rcases eq_or_ne q p with rfl | hne
          · exact hlast
          · exact hquiet q hne
    exact Shared.ext hholders hl hdeleted
  refine ⟨?_, hsingle, hused.trans h.unused⟩
  rw [hobject, hcount]
  exact h.counted.letGo hmem

theorem State.Owned.delete (h : s.Owned) (hp : s.deleting p = true)
    (hholds : ∀ q, t.holds q = s.holds q) (hp' : t.deleting p = false)
    (hother : ∀ q, q ≠ p → t.deleting q = s.deleting q)
    (hdeleted : t.deleted = s.deleted + 1) (hused : t.usedDeleted = s.usedDeleted)
    (hcount : t.delegate.mRefCount = s.delegate.mRefCount) : t.Owned := by
  have hlast := last_of_deleting h.single hp
  have hquiet : ∀ q, t.deleting q = false := by
    intro q
    rcases eq_or_ne q p with rfl | hne
    · exact hp'
    · rw [hother q hne]
      cases p with
      | client =>
          cases q with
          | client => exact absurd rfl hne
          | thread => exact h.single hp
      | thread =>
          cases q with
          | client =>
              cases hc : s.deleting .client with
              | false => rfl
              | true =>
                  rw [h.single hc] at hp
                  cases hp
          | thread => exact absurd rfl hne
  have hobject : t.object = s.object.delete := by
    have hl : t.object.last = none := last_eq_none.mpr hquiet
    have hholders : t.object.holders = s.object.holders := by
      simp only [State.object, hholds]
    exact Shared.ext hholders hl hdeleted
  refine ⟨?_, ?_, hused.trans h.unused⟩
  · rw [hobject, hcount]
    exact h.counted.delete hlast
  · intro _
    exact hquiet .thread

theorem State.Owned.touch_of_deleting (h : s.Owned) (hp : s.deleting p = true) : s.touch = s := by
  have hzero : ¬ 0 < s.deleted := by
    rw [show s.deleted = 0 from h.counted.deleted_of_last (last_of_deleting h.single hp)]
    exact Nat.lt_irrefl 0
  rw [State.touch, decide_eq_false hzero, Bool.or_false]

theorem State.Owned.destroyTest_eq (h : s.Owned) (hp : s.holds p = true) :
    s.destroyTest = some .region :=
  if_pos (h.counted.count_pos (mem_holders.mpr hp))

theorem State.Owned.client (h : s.Owned) (hspawned : t.spawned = s.spawned)
    (hcreating : t.holds .thread = s.holds .thread) (hholds : t.holds .client = s.holds .client)
    (hdeleting : t.deleting .client = s.deleting .client) (hdeleted : t.deleted = s.deleted)
    (hused : t.usedDeleted = s.usedDeleted)
    (hcount : t.delegate.mRefCount = s.delegate.mRefCount) : t.Owned := by
  refine h.congr ?_ ?_ hdeleted hused hcount
  · intro q
    cases q with
    | client => exact hholds
    | thread => exact hcreating
  · intro q
    cases q with
    | client => exact hdeleting
    | thread => simp only [State.deleting, hspawned]

theorem State.Owned.thread (h : s.Owned) (hclient : t.client = s.client)
    (hmThread : t.mThread = s.mThread) (hholds : t.holds .thread = s.holds .thread)
    (hdeleting : t.deleting .thread = s.deleting .thread) (hdeleted : t.deleted = s.deleted)
    (hused : t.usedDeleted = s.usedDeleted)
    (hcount : t.delegate.mRefCount = s.delegate.mRefCount) : t.Owned := by
  refine h.congr ?_ ?_ hdeleted hused hcount
  · intro q
    cases q with
    | client => simp only [State.holds, hclient, hmThread]
    | thread => exact hholds
  · intro q
    cases q with
    | client => simp only [State.deleting, hclient]
    | thread => exact hdeleting

theorem holds_of_creating (hpc : s.client ≠ .pthreadCreate ∧ s.client ≠ .failed)
    (hpc' : t.client ≠ .pthreadCreate ∧ t.client ≠ .failed) (hspawned : t.spawned = s.spawned) :
    t.holds .thread = s.holds .thread := by
  simp only [State.holds, hspawned]
  cases s.spawned with
  | none => simp [hpc.1, hpc.2, hpc'.1, hpc'.2]
  | some pc => rfl

theorem mThread_of_create (h : s.ClientOk) {pc : DestroyPc} (hpc : s.client = .destroy pc)
    (hcaller : s.caller = .create) : s.mThread = false := by
  rw [State.ClientOk, hpc] at h
  rcases h with ⟨-, hcreating⟩ | ⟨-, ⟨hne, -⟩, -⟩
  · exact hcreating.mThread
  · exact absurd hcaller hne

theorem returned_mThread (h : s.caller = .create → s.mThread = false) :
    s.returned.mThread = false := by
  rw [State.returned]
  cases hcaller : s.caller with
  | create => exact h hcaller
  | stop | destructor => rfl

theorem returned_fields : s.returned.spawned = s.spawned ∧ s.returned.deleted = s.deleted ∧
    s.returned.usedDeleted = s.usedDeleted ∧ s.returned.delegate = s.delegate := by
  rw [State.returned]
  cases s.caller <;> exact ⟨rfl, rfl, rfl, rfl⟩

theorem returned_client : s.returned.client = .noThread ∨ s.returned.client = .idle ∨
    s.returned.client = .done := by
  rw [State.returned]
  cases s.caller with
  | create =>
      cases s.task with
      | false => exact Or.inr (Or.inl rfl)
      | true => exact Or.inl rfl
  | stop => exact Or.inr (Or.inl rfl)
  | destructor => exact Or.inr (Or.inr rfl)

theorem returned_holds (hm : s.returned.mThread = false) :
    s.returned.holds .client = false := by
  rw [State.holds, hm]
  rcases returned_client (s := s) with h | h | h
  · rw [h]
    rfl
  · rw [h]
    rfl
  · rw [h]
    rfl

theorem returned_deleting : s.returned.deleting .client = false := by
  rw [State.deleting]
  rcases returned_client (s := s) with h | h | h
  · rw [h]
    rfl
  · rw [h]
    rfl
  · rw [h]
    rfl

theorem returned_notCreating :
    s.returned.client ≠ .pthreadCreate ∧ s.returned.client ≠ .failed := by
  rcases returned_client (s := s) with h | h | h
  · rw [h]
    simp
  · rw [h]
    simp
  · rw [h]
    simp

theorem State.Owned.client_on (h : s.Owned) {c c' : ClientPc} (hpc : s.client = c)
    (hpc' : t.client = c') (hearly : c ≠ .pthreadCreate ∧ c ≠ .failed)
    (hearly' : c' ≠ .pthreadCreate ∧ c' ≠ .failed)
    (hlast : ∀ b, c ≠ .destroy (.last b) ∧ c' ≠ .destroy (.last b))
    (hholds : c'.holds t.mThread = c.holds s.mThread) (hspawned : t.spawned = s.spawned)
    (hdeleted : t.deleted = s.deleted) (hused : t.usedDeleted = s.usedDeleted)
    (hcount : t.delegate.mRefCount = s.delegate.mRefCount) : t.Owned := by
  refine h.client hspawned ?_ ?_ ?_ hdeleted hused hcount
  · refine holds_of_creating ?_ ?_ hspawned
    · rw [hpc]
      exact hearly
    · rw [hpc']
      exact hearly'
  · rw [State.holds, State.holds, hpc, hpc']
    exact hholds
  · rw [State.deleting, State.deleting, hpc, hpc', decide_eq_false (hlast true).1,
      decide_eq_false (hlast true).2]

theorem failed_owned (hok : s.ClientOk) (h : s.Owned) (hpc : s.client = .failed)
    (hstep : s.clientStep = some s') : s'.Owned := by
  rw [State.ClientOk, hpc] at hok
  obtain ⟨-, hnone, -⟩ := hok
  have hclient : s.holds .client = true := by
    rw [State.holds, hpc]
    rfl
  have hthread : s.holds .thread = true := by
    simp only [State.holds, hnone, hpc]
    rfl
  have hboth : s.delegate.mRefCount = 2 := by
    rw [← h.counted.card]
    have hall : s.object.holders = ({.client, .thread} : Finset Party) := by
      ext q
      rw [mem_holders]
      cases q with
      | client => simp [hclient]
      | thread => simp [hthread]
    rw [hall]
    rfl
  simp only [State.clientStep, hpc] at hstep
  cases hstep
  rw [h.touch_of_holds hclient]
  refine h.letGo hthread ?_ ?_ ?_ ?_ rfl rfl ?_
  · simp only [State.holds, hnone]
    rfl
  · intro q hne
    cases q with
    | client => exact hclient.symm
    | thread => exact absurd rfl hne
  · rw [hboth, State.deleting, hnone]
    rfl
  · intro q hne
    cases q with
    | client =>
        rw [State.deleting, State.deleting, hpc]
        rfl
    | thread => exact absurd rfl hne
  · rw [hboth]

theorem destroy_owned (hok : s.ClientOk) (h : s.Owned) {pc : DestroyPc}
    (hpc : s.client = .destroy pc) (hstep : s.clientStep = some s') : s'.Owned := by
  cases pc with
  | test =>
      have hclient : s.holds .client = true := by
        rw [State.holds, hpc]
        rfl
      simp only [State.clientStep, hpc, h.destroyTest_eq hclient] at hstep
      cases hstep
      rw [h.touch_of_holds hclient]
      exact h.client_on hpc rfl (by simp) (by simp) (by simp) rfl rfl rfl rfl rfl
  | region =>
      have hclient : s.holds .client = true := by
        rw [State.holds, hpc]
        rfl
      simp only [State.clientStep, hpc] at hstep
      cases hstep
      rw [h.touch_of_holds hclient]
      refine h.letGo hclient rfl ?_ ?_ ?_ rfl rfl rfl
      · intro q hne
        cases q with
        | client => exact absurd rfl hne
        | thread => exact holds_of_creating (by simp [hpc]) (by simp) rfl
      · simp only [State.deleting, State.destroyRegion]
        simp
      · intro q hne
        cases q with
        | client => exact absurd rfl hne
        | thread => rfl
  | last callDelete =>
      have hm := mThread_of_create hok hpc
      have hquiet : s.holds .client = false := by
        rw [State.holds, hpc]
        rfl
      simp only [State.clientStep, hpc] at hstep
      cases hstep
      cases callDelete with
      | false =>
          obtain ⟨hspawned, hdeleted, hused, hdelegate⟩ := returned_fields (s := s)
          refine h.client hspawned ?_ ?_ ?_ hdeleted hused
            (by rw [State.destroyLast]; simp [hdelegate])
          · exact holds_of_creating (by simp [hpc]) returned_notCreating hspawned
          · exact (returned_holds (returned_mThread hm)).trans hquiet.symm
          · refine returned_deleting.trans ?_
            rw [State.deleting, hpc]
            rfl
      | true =>
          have hdeleting : s.deleting .client = true := by
            rw [State.deleting, hpc]
            rfl
          rw [State.destroyLast, if_pos rfl, h.touch_of_deleting hdeleting]
          obtain ⟨hspawned, hdeleted, hused, hdelegate⟩ :=
            returned_fields (s := { s with deleted := s.deleted + 1 })
          refine h.delete hdeleting ?_ returned_deleting ?_ hdeleted hused
            (by rw [hdelegate])
          · intro q
            cases q with
            | client =>
                refine (returned_holds ?_).trans hquiet.symm
                exact returned_mThread hm
            | thread => exact holds_of_creating (by simp [hpc]) returned_notCreating hspawned
          · intro q hne
            cases q with
            | client => exact absurd rfl hne
            | thread => simp only [State.deleting, hspawned]

theorem clientStep_owned (hok : s.ClientOk) (h : s.Owned) (hstep : s.clientStep = some s') :
    s'.Owned := by
  have htouch : s.client.holds s.mThread = true → s.touch = s := h.touch_of_holds (p := .client)
  cases hpc : s.client with
  | pthreadCreate | idle | done =>
      simp only [State.clientStep, hpc] at hstep
      cases hstep
  | setName | stopRunnable | stopClear =>
      simp only [State.clientStep, hpc] at hstep
      rw [htouch (by rw [hpc]; rfl)] at hstep
      cases hstep
      exact h.client_on hpc rfl (by simp) (by simp) (by simp) rfl rfl rfl rfl rfl
  | detach =>
      simp only [State.clientStep, hpc] at hstep
      rw [htouch (by rw [hpc]; rfl), ite_self] at hstep
      cases hstep
      exact h.client_on hpc rfl (by simp) (by simp) (by simp) rfl rfl rfl rfl rfl
  | failed => exact failed_owned hok h hpc hstep
  | isRunning =>
      simp only [State.clientStep, hpc] at hstep
      rw [htouch (by rw [hpc]; rfl)] at hstep
      split at hstep
      · cases hstep
        exact h.client_on hpc rfl (by simp) (by simp) (by simp) rfl rfl rfl rfl rfl
      · cases hstep
        exact h.client_on hpc rfl (by simp) (by simp) (by simp) rfl rfl rfl rfl rfl
  | noThread =>
      rw [State.ClientOk, hpc] at hok
      simp only [State.clientStep, hpc] at hstep
      cases hstep
      exact h.client_on hpc rfl (by simp) (by simp) (by simp) hok.mThread rfl rfl rfl rfl
  | stopTest =>
      simp only [State.clientStep, hpc] at hstep
      rw [htouch (by rw [hpc]; rfl)] at hstep
      cases hstep
      cases hrun : s.delegate.mRunnable with
      | true => exact h.client_on hpc rfl (by simp) (by simp) (by simp) rfl rfl rfl rfl rfl
      | false => exact h.client_on hpc rfl (by simp) (by simp) (by simp) rfl rfl rfl rfl rfl
  | stopJoinable | bye =>
      simp only [State.clientStep, hpc] at hstep
      rw [htouch (by rw [hpc]; rfl)] at hstep
      cases hstep
      cases hjoin : s.delegate.mJoinable with
      | true => exact h.client_on hpc rfl (by simp) (by simp) (by simp) rfl rfl rfl rfl rfl
      | false => exact h.client_on hpc rfl (by simp) (by simp) (by simp) rfl rfl rfl rfl rfl
  | stopJoin =>
      simp only [State.clientStep, hpc] at hstep
      rw [htouch (by rw [hpc]; rfl)] at hstep
      split at hstep
      · cases hstep
        exact h.client_on hpc rfl (by simp) (by simp) (by simp) rfl rfl rfl rfl rfl
      · cases hstep
  | taskThread =>
      simp only [State.clientStep, hpc] at hstep
      cases hstep
      exact h.client_on hpc rfl (by simp) (by simp) (by simp) rfl rfl rfl rfl rfl
  | taskUnblock thread =>
      rw [State.ClientOk, hpc] at hok
      simp only [State.clientStep, hpc] at hstep
      cases hstep
      cases thread with
      | true =>
          exact h.client_on hpc rfl (by simp) (by simp) (by simp) rfl rfl rfl rfl rfl
      | false =>
          refine h.client_on hpc rfl (by simp) (by simp) (by simp) ?_ rfl rfl rfl rfl
          exact hok.mThread.symm
  | taskForget =>
      rw [State.ClientOk, hpc] at hok
      simp only [State.clientStep, hpc, if_pos hok.1.mThread] at hstep
      cases hstep
      refine h.client_on hpc rfl (by simp) (by simp) (by simp) ?_ rfl rfl rfl rfl
      exact hok.1.mThread.symm
  | taskDelete =>
      simp only [State.clientStep, hpc] at hstep
      cases hstep
      exact h.client_on hpc rfl (by simp) (by simp) (by simp) rfl rfl rfl rfl rfl
  | destroy pc => exact destroy_owned hok h hpc hstep

theorem State.Owned.thread_on (h : s.Owned) {c c' : SpawnedPc} (hpc : s.spawned = some c)
    (hpc' : t.spawned = some c') (hholds : c'.holds = c.holds)
    (hlast : c ≠ .destroy (.last true) ∧ c' ≠ .destroy (.last true))
    (hclient : t.client = s.client) (hmThread : t.mThread = s.mThread)
    (hdeleted : t.deleted = s.deleted) (hused : t.usedDeleted = s.usedDeleted)
    (hcount : t.delegate.mRefCount = s.delegate.mRefCount) : t.Owned := by
  refine h.thread hclient hmThread ?_ ?_ hdeleted hused hcount
  · simp only [State.holds, hpc, hpc']
    exact hholds
  · simp [State.deleting, hpc, hpc', hlast]

theorem spawnedDestroy_owned (h : s.Owned) {pc : DestroyPc} (hpc : s.spawned = some (.destroy pc))
    (hstep : s.spawnedStep (.destroy pc) = some s') : s'.Owned := by
  cases pc with
  | test =>
      have hthread : s.holds .thread = true := by
        simp only [State.holds, hpc]
        rfl
      simp only [State.spawnedStep, h.destroyTest_eq hthread] at hstep
      cases hstep
      rw [h.touch_of_holds hthread]
      exact h.thread_on hpc rfl rfl (by simp) rfl rfl rfl rfl rfl
  | region =>
      have hthread : s.holds .thread = true := by
        simp only [State.holds, hpc]
        rfl
      simp only [State.spawnedStep] at hstep
      cases hstep
      rw [h.touch_of_holds hthread]
      refine h.letGo hthread rfl ?_ ?_ ?_ rfl rfl rfl
      · intro q hne
        cases q with
        | client => rfl
        | thread => exact absurd rfl hne
      · simp only [State.deleting, State.destroyRegion]
        simp
      · intro q hne
        cases q with
        | client => rfl
        | thread => exact absurd rfl hne
  | last callDelete =>
      simp only [State.spawnedStep] at hstep
      cases hstep
      cases callDelete with
      | false =>
          exact h.thread_on hpc rfl rfl (by simp) rfl rfl rfl rfl rfl
      | true =>
          have hdeleting : s.deleting .thread = true := by
            rw [State.deleting, hpc]
            rfl
          rw [State.destroyLast, if_pos rfl, h.touch_of_deleting hdeleting]
          refine h.delete hdeleting ?_ rfl ?_ rfl rfl rfl
          · intro q
            cases q with
            | client => rfl
            | thread =>
                simp only [State.holds, hpc]
                rfl
          · intro q hne
            cases q with
            | client => rfl
            | thread => exact absurd rfl hne

theorem spawnedStep_owned (h : s.Owned) {pc : SpawnedPc} (hpc : s.spawned = some pc)
    (hstep : s.spawnedStep pc = some s') : s'.Owned := by
  have htouch : pc.holds = true → s.touch = s := by
    intro hholds
    apply h.touch_of_holds (p := .thread)
    simp only [State.holds, hpc]
    exact hholds
  cases pc with
  | run | ended =>
      simp only [State.spawnedStep] at hstep
      cases hstep
  | readRunnable | prerunTest | loopTest | postrunTest =>
      simp only [State.spawnedStep] at hstep
      rw [htouch rfl] at hstep
      cases hstep
      cases hrun : s.delegate.mRunnable with
      | true => exact h.thread_on hpc rfl rfl (by simp) rfl rfl rfl rfl rfl
      | false => exact h.thread_on hpc rfl rfl (by simp) rfl rfl rfl rfl rfl
  | prerun | postrun | deleteRunnable =>
      simp only [State.spawnedStep] at hstep
      cases hstep
      exact h.thread_on hpc rfl rfl (by simp) rfl rfl rfl rfl rfl
  | clear =>
      simp only [State.spawnedStep] at hstep
      rw [htouch rfl] at hstep
      cases hstep
      exact h.thread_on hpc rfl rfl (by simp) rfl rfl rfl rfl rfl
  | destroy pc => exact spawnedDestroy_owned h hpc hstep

theorem call_owned (h : s.Owned) (hpc : s.client = .idle) {c : Call} (hstep : s.call c = some s') :
    s'.Owned := by
  cases c with
  | stop =>
      simp only [State.call] at hstep
      split at hstep
      · cases hstep
      · split at hstep
        · next hm =>
            cases hstep
            exact h.client_on hpc rfl (by simp) (by simp) (by simp) hm.symm rfl rfl rfl rfl
        · cases hstep
          exact h
  | destructor =>
      simp only [State.call] at hstep
      split at hstep
      · cases hstep
      · split at hstep
        · next hm =>
            cases hstep
            exact h.client_on hpc rfl (by simp) (by simp) (by simp) hm.symm rfl rfl rfl rfl
        · next hm =>
            cases hstep
            refine h.client_on hpc rfl (by simp) (by simp) (by simp) ?_ rfl rfl rfl rfl
            exact (Bool.eq_false_iff.mpr hm).symm
  | destroy =>
      simp only [State.call] at hstep
      split at hstep
      · cases hstep
        exact h.client_on hpc rfl (by simp) (by simp) (by simp) rfl rfl rfl rfl rfl
      · cases hstep

theorem step_owned {a : Action} (hok : s.ClientOk) (h : s.Owned) (hstep : Step s a s') :
    s'.Owned := by
  rw [Step, State.step.eq_def] at hstep
  cases a with
  | pthreadCreate success =>
      simp only at hstep
      split at hstep
      · next hpc =>
          rw [State.ClientOk, hpc] at hok
          obtain ⟨-, hnone, -⟩ := hok
          cases success with
          | true =>
              cases hstep
              refine h.congr ?_ ?_ rfl rfl rfl
              · intro q
                cases q with
                | client => rw [State.holds, State.holds, hpc]; rfl
                | thread => simp [State.holds, hnone, hpc, SpawnedPc.holds]
              · intro q
                cases q with
                | client => simp [State.deleting, hpc]
                | thread => simp [State.deleting, hnone]
          | false =>
              cases hstep
              refine h.client rfl ?_ ?_ ?_ rfl rfl rfl
              · simp [State.holds, hnone, hpc]
              · rw [State.holds, State.holds, hpc]
                rfl
              · simp [State.deleting, hpc]
      · cases hstep
  | call c =>
      simp only at hstep
      split at hstep
      · next hpc => exact call_owned h hpc hstep
      · cases hstep
  | client => exact clientStep_owned hok h hstep
  | spawned =>
      obtain ⟨pc, hpc, hstep⟩ := Option.bind_eq_some_iff.mp hstep
      exact spawnedStep_owned h hpc hstep
  | ran again =>
      simp only at hstep
      split at hstep
      · next hpc =>
          cases hstep
          cases again with
          | true => exact h.thread_on hpc rfl rfl (by simp) rfl rfl rfl rfl rfl
          | false => exact h.thread_on hpc rfl rfl (by simp) rfl rfl rfl rfl rfl
      · cases hstep

theorem init_owned (joinable task : Bool) : (State.init joinable task).Owned := by
  refine ⟨⟨rfl, fun _ => ⟨rfl, rfl⟩, fun hempty => ?_⟩, fun _ => rfl, rfl⟩
  have hmem : Party.client ∈ (State.init joinable task).object.holders := mem_holders.mpr rfl
  rw [hempty] at hmem
  exact absurd hmem (Finset.notMem_empty _)

theorem State.Owned.once (h : s.Owned) : DelegateOnce s := by
  refine ⟨h.counted.deleted_le, h.unused, ?_⟩
  rintro ⟨hclient, hspawned⟩
  have hthrough : s.client = .idle ∨ s.client = .done := by
    rcases hclient with hdone | ⟨hidle, -⟩
    · exact Or.inr hdone
    · exact Or.inl hidle
  have hquiet : ∀ q, s.holds q = false ∧ s.deleting q = false := by
    intro q
    cases q with
    | client =>
        rcases hclient with hdone | ⟨hidle, hm⟩
        · simp [State.holds, State.deleting, hdone, ClientPc.holds]
        · simp [State.holds, State.deleting, hidle, hm, ClientPc.holds]
    | thread =>
        rcases hspawned with hnone | hended
        · rcases hthrough with hidle | hdone
          · simp [State.holds, State.deleting, hnone, hidle]
          · simp [State.holds, State.deleting, hnone, hdone]
        · simp [State.holds, State.deleting, hended, SpawnedPc.holds]
  have hempty : s.object.holders = ∅ := by
    refine Finset.eq_empty_of_forall_notMem fun q hq => ?_
    rw [mem_holders, (hquiet q).1] at hq
    cases hq
  rcases h.counted.gone hempty with ⟨hlast, -⟩ | ⟨-, hone⟩
  · rw [last_eq_none.mpr fun q => (hquiet q).2] at hlast
    cases hlast
  · exact hone

end LibraDevice.Utils.LocThread
