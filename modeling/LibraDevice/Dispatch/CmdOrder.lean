import LibraDevice.Dispatch.CmdPlaces

/-!
What holds of the command queue in every interleaving: the invariant over the places
is kept by the thread that processes as well, so by every step.
-/

namespace LibraDevice.Dispatch

open LibraDevice.NodeChain
open LibraDevice.StepRun

variable {ι ε : Type}

namespace CmdSys

variable {s s' : CmdSys ι ε} {lists : Nat → List (Nat × ε)} {own : Nat → Option (Place ι)}

theorem Exclusive.lockProcess (h : s.Exclusive) (hfree : s.mutex = none) {c : Consumer}
    (hholds : c.holds = true) :
    ({ s with mutex := some .process, consumer := c } : CmdSys ι ε).Exclusive := by
  refine ⟨fun t => iff_of_false nofun fun ht => ?_, iff_of_true rfl hholds⟩
  have hheld := (h.poster t).mpr ht
  rw [hfree] at hheld
  cases hheld

theorem Exclusive.unlockProcess (h : s.Exclusive) (hheld : s.consumer.holds = true)
    {c : Consumer} (hholds : c.holds = false) :
    ({ s with mutex := none, consumer := c } : CmdSys ι ε).Exclusive := by
  have hmutex := h.process.mpr hheld
  refine ⟨fun t => iff_of_false nofun fun ht => ?_, iff_of_false nofun ?_⟩
  · have hposter := (h.poster t).mpr ht
    rw [hmutex] at hposter
    cases hposter
  · rw [hholds]
    exact Bool.false_ne_true

theorem Exclusive.keepProcess (h : s.Exclusive) {c : Consumer}
    (hholds : c.holds = s.consumer.holds) :
    ({ s with consumer := c } : CmdSys ι ε).Exclusive :=
  ⟨h.poster, h.process.trans (by rw [hholds])⟩

/-- The queue without its first message, which the processing thread has. -/
def dequeued (q item : Nat) (Q : MessageQueue) (s : CmdSys ι ε) : CmdSys ι ε :=
  { s with
    queue := Function.update s.queue q (some Q)
    consumer := .unlocking q item }

section

variable {q item : Nat} {data : ε} {l : List (Nat × ε)} {Q : MessageQueue}

theorem at_dequeued_of_ne (hc : s.consumer = .dequeuing q) (hl : lists q = (item, data) :: l)
    {a : Nat} (hne : a ≠ item) (p : Place ι) :
    (s.dequeued q item Q).At (Function.update lists q l) p a ↔ s.At lists p a := by
  cases p with
  | queued q' =>
      change a ∈ addrs (Function.update lists q l q') ↔ a ∈ addrs (lists q')
      rcases eq_or_ne q' q with rfl | hne'
      · rw [Function.update_self, hl, addrs_cons, List.mem_cons]
        exact ⟨Or.inr, fun hor => hor.resolve_left hne⟩
      · rw [Function.update_of_ne hne']
  | poster t => exact Iff.rfl
  | process =>
      change some item = some a ↔ s.consumer.item = some a
      rw [hc]
      exact iff_of_false (fun heq => hne (Option.some.inj heq).symm) (Option.some_ne_none a).symm

theorem at_dequeued_self (hout : ∀ p, s.At lists p item → p = .queued q)
    (hfirst : item ∉ addrs l) (p : Place ι) :
    (s.dequeued q item Q).At (Function.update lists q l) p item ↔ some .process = some p := by
  cases p with
  | queued q' =>
      refine iff_of_false (fun hp => ?_) fun heq => by cases heq
      change item ∈ addrs (Function.update lists q l q') at hp
      rcases eq_or_ne q' q with rfl | hne'
      · rw [Function.update_self] at hp
        exact hfirst hp
      · rw [Function.update_of_ne hne'] at hp
        cases hout (.queued q') hp
        exact hne' rfl
  | poster t =>
      refine iff_of_false (fun hp => ?_) fun heq => by cases heq
      cases hout (.poster t) hp
  | process => exact iff_of_true rfl rfl

end

theorem Inv.dequeue (h : s.Inv lists own) {q : Nat} (hc : s.consumer = .dequeuing q) (nw : Nat) :
    ∃ s', s.process nw = some s' ∧ ∃ lists own, s'.Inv lists own := by
  have hok := h.consumer
  rw [hc] at hok
  obtain ⟨Q, hQ⟩ := Option.ne_none_iff_exists'.mp (hok q rfl)
  have hchain := h.chain q Q hQ
  cases hl : lists q with
  | nil =>
      rw [hl] at hchain
      refine ⟨{ s with mutex := none, consumer := .asleep q }, ?_, lists, own, ?_⟩
      · simp only [CmdSys.process, hc, hQ, hchain.dequeue_nil, Option.bind_eq_bind,
          Option.bind_some]
      · refine h.consume ?_ (Or.inl ?_) hok (h.exclusive.unlockProcess ?_ rfl) fun q' hq' => ?_
        · rw [hc]
          rfl
        · rw [hc]
          rfl
        · rw [hc]
          rfl
        · cases hq'
          exact hl
  | cons m l =>
      obtain ⟨item, data⟩ := m
      rw [hl] at hchain
      obtain ⟨Q', hdequeue, hchain'⟩ := hchain.dequeue_cons
      have hmem : s.At lists (.queued q) item := by
        change item ∈ addrs (lists q)
        rw [hl]
        exact List.mem_cons_self
      have hnodup := hchain.nodup
      rw [addrs_cons, List.nodup_cons] at hnodup
      obtain ⟨n, hcell⟩ := hchain.seg.read List.mem_cons_self
      have hout : ∀ p, s.At lists p item → p = .queued q := by
        intro p hp
        have heq := (h.located p item).mpr hp
        rw [(h.located _ item).mpr hmem] at heq
        exact (Option.some.inj heq).symm
      have hqueue : ∀ q', s.queue q' ≠ none →
          Function.update s.queue q (some Q') q' ≠ none := fun q' hq' => update_ne_none hq'
      refine ⟨s.dequeued q item Q', ?_, Function.update lists q l,
        Function.update own item (some .process),
        { chain := fun q' R hR => ?_
          empty := fun q' hR => ?_
          inst := fun q' hinst => hqueue q' (h.inst q' hinst)
          cell := fun a => (h.cell a).trans ?_
          located := located_move h.located (fun p a hne => at_dequeued_of_ne hc hl hne p)
            fun p => at_dequeued_self hout hnodup.1 p
          posters := fun t => (h.posters t).mono hqueue id fun _ _ => rfl
          consumer := fun q' hq' => hqueue q' (hok q' hq')
          exclusive := ?_
          awake := nofun
          history := fun q' => ?_
          fresh := nofun }⟩
      · simp only [CmdSys.process, hc, hQ, hdequeue, Option.bind_eq_bind, Option.bind_some,
          dequeued]
      · change Function.update s.queue q (some Q') q' = some R at hR
        rcases eq_or_ne q' q with rfl | hne
        · rw [Function.update_self] at hR ⊢
          cases hR
          exact hchain'
        · rw [Function.update_of_ne hne] at hR ⊢
          exact h.chain q' R hR
      · have hnew := hqueue q'
        rcases eq_or_ne q' q with rfl | hne
        · exact absurd hR (hnew (hok q' rfl))
        · rw [Function.update_of_ne hne]
          exact h.empty q' (not_not.mp fun hne' => hnew hne' hR)
      · rcases eq_or_ne a item with rfl | hne
        · rw [Function.update_self, (h.located _ a).mpr hmem]
          exact iff_of_false (Option.some_ne_none _) (Option.some_ne_none _)
        · rw [Function.update_of_ne hne]
      · exact ⟨h.exclusive.poster, h.exclusive.process.trans (by rw [hc]; rfl)⟩
      · change s.postedTo q' = (if some q = some q' then
          s.delivered ++ ((s.cell item).map Cell.data).toList else []) ++ _
        have hbefore := h.history q'
        rw [taken, held, hc] at hbefore
        change _ = (if some q = some q' then s.delivered ++ [] else []) ++ _ at hbefore
        rw [hbefore, hcell]
        rcases eq_or_ne q' q with rfl | hne
        · rw [if_pos rfl, if_pos rfl, Function.update_self, hl, List.append_nil, List.append_assoc]
          rfl
        · rw [if_neg fun heq => hne (Option.some.inj heq).symm,
            if_neg fun heq => hne (Option.some.inj heq).symm, Function.update_of_ne hne]

theorem Inv.deliver (h : s.Inv lists own) {q item : Nat} (hc : s.consumer = .processing q item)
    (nw : Nat) : ∃ s', s.process nw = some s' ∧ ∃ own, s'.Inv lists own := by
  have hmine : s.At lists .process item := by
    change s.consumer.item = some item
    rw [hc]
    rfl
  have hout : ∀ p, s.At lists p item → p = .process := by
    intro p hp
    have heq := (h.located p item).mpr hp
    rw [(h.located _ item).mpr hmine] at heq
    exact (Option.some.inj heq).symm
  have hthere : s.cell item ≠ none := by
    intro hnone
    have heq := (h.located _ item).mpr hmine
    rw [(h.cell item).mp hnone] at heq
    cases heq
  obtain ⟨node, hnode⟩ := Option.ne_none_iff_exists'.mp hthere
  have hcells : ∀ p a, p ≠ .process → s.At lists p a →
      Function.update s.cell item none a = s.cell a := by
    intro p a hne hp
    refine Function.update_of_ne ?_ ..
    rintro rfl
    exact hne (hout p hp)
  have hok := h.consumer
  rw [hc] at hok
  refine ⟨{ s with
      cell := Function.update s.cell item none
      delivered := s.delivered ++ [node.data]
      consumer := .locking q }, ?_, Function.update own item none,
    { chain := fun q' Q hQ =>
        (h.chain q' Q hQ).congr fun a ha => hcells (.queued q') a nofun ha
      empty := h.empty
      inst := h.inst
      cell := fun a => ?_
      located := located_move h.located ?_ ?_
      posters := fun t =>
        (h.posters t).mono (fun _ => id) id fun a ha => hcells (.poster t) a nofun ha
      consumer := hok
      exclusive := ?_
      awake := nofun
      history := fun q' => ?_
      fresh := nofun }⟩
  · simp only [CmdSys.process, hc, hnode, Option.bind_eq_bind, Option.bind_some]
  · change Function.update s.cell item none a = none ↔ _
    rcases eq_or_ne a item with rfl | hne
    · rw [Function.update_self, Function.update_self]
      exact iff_of_true rfl rfl
    · rw [Function.update_of_ne hne, Function.update_of_ne hne]
      exact h.cell a
  · intro p a hne
    cases p with
    | queued q' => exact Iff.rfl
    | poster t => exact Iff.rfl
    | process =>
        change none = some a ↔ s.consumer.item = some a
        rw [hc]
        exact iff_of_false nofun fun heq => hne (Option.some.inj heq).symm
  · intro p
    refine iff_of_false (fun hp => ?_) nofun
    cases p with
    | queued q' => exact nomatch hout (.queued q') hp
    | poster t => exact nomatch hout (.poster t) hp
    | process => exact nomatch hp
  · exact ⟨h.exclusive.poster, h.exclusive.process.trans (by rw [hc]; rfl)⟩
  · change s.postedTo q' = (if some q = some q' then s.delivered ++ [node.data] ++ [] else []) ++ _
    have hbefore := h.history q'
    rw [taken, held, hc] at hbefore
    change _ = (if some q = some q' then
      s.delivered ++ ((s.cell item).map Cell.data).toList else []) ++ _ at hbefore
    rw [hbefore, hnode, List.append_nil]
    rfl

theorem Inv.processOn (h : s.Inv lists own) {c c' : Consumer} (hc : s.consumer = c)
    (hitem : c'.item = c.item) (hqueue : c'.queue = c.queue ∨ c.queue = none)
    (hholds : c'.holds = c.holds) (hok : s.ConsumerOk c') (hawake : ∀ q, c' ≠ .asleep q) :
    ({ s with consumer := c' } : CmdSys ι ε).Inv lists own := by
  subst hc
  exact h.consume (m := s.mutex) hitem hqueue hok (h.exclusive.keepProcess hholds)
    fun q hq => absurd hq (hawake q)

theorem Inv.process (h : s.Inv lists own) {nw : Nat} (hallows : s.Allows (.process nw)) :
    ∃ s', s.process nw = some s' ∧ ∃ lists own, s'.Inv lists own := by
  have hok := h.consumer
  rw [Allows] at hallows
  cases hc : s.consumer <;> rw [hc] at hok hallows
  case testing =>
    refine ⟨_, by rw [CmdSys.process, hc], lists, own, ?_⟩
    refine h.processOn hc ?_ (Or.inl ?_) ?_ ?_ ?_ <;> split
    case refine_4.isFalse hinst =>
      exact fun hnone => hinst (Option.isNone_iff_eq_none.mpr hnone)
    all_goals first | rfl | exact fun _ hq => by cases hq
  case creating =>
    refine ⟨_, by rw [CmdSys.process, hc], lists, own, ?_⟩
    have hreturning : ({ s.create nw with consumer := .returning } : CmdSys ι ε).Inv lists own :=
      (h.create hallows).processOn hc rfl (Or.inl rfl) rfl (Option.some_ne_none nw) fun _ hq => by cases hq
    exact hreturning
  case returning =>
    obtain ⟨q, hq⟩ := Option.ne_none_iff_exists'.mp hok
    refine ⟨{ s with consumer := .locking q }, ?_, lists, own, ?_⟩
    · rw [CmdSys.process, hc]
      simp only [hq, Option.elim_some]
    · refine h.processOn hc rfl (Or.inr rfl) rfl (fun q' hq' => ?_) fun _ hq => by cases hq
      cases hq'
      exact h.inst q hq
  case locking q =>
    refine ⟨_, by rw [CmdSys.process, hc], lists, own, ?_⟩
    refine h.consume ?_ (Or.inl ?_) hok (h.exclusive.lockProcess hallows rfl) fun _ hq => by cases hq
    · rw [hc]
      rfl
    · rw [hc]
      rfl
  case dequeuing q => exact h.dequeue hc nw
  case asleep q =>
    have hwoken : ({ s with consumer := .woken q } : CmdSys ι ε).Inv lists own :=
      h.processOn hc rfl (Or.inl rfl) rfl hok fun _ hq => by cases hq
    exact ⟨_, by rw [CmdSys.process, hc], lists, own, hwoken⟩
  case woken q =>
    refine ⟨_, by rw [CmdSys.process, hc], lists, own, ?_⟩
    refine h.consume ?_ (Or.inl ?_) hok (h.exclusive.lockProcess hallows rfl) fun _ hq => by cases hq
    · rw [hc]
      rfl
    · rw [hc]
      rfl
  case waited q =>
    refine ⟨_, by rw [CmdSys.process, hc], lists, own, ?_⟩
    refine h.consume ?_ (Or.inl ?_) hok (h.exclusive.unlockProcess ?_ rfl) fun _ hq => by cases hq
    · rw [hc]
      rfl
    · rw [hc]
      rfl
    · rw [hc]
      rfl
  case unlocking q item =>
    refine ⟨_, by rw [CmdSys.process, hc], lists, own, ?_⟩
    refine h.consume ?_ (Or.inl ?_) hok (h.exclusive.unlockProcess ?_ rfl) fun _ hq => by cases hq
    · rw [hc]
      rfl
    · rw [hc]
      rfl
    · rw [hc]
      rfl
  case processing q item =>
    obtain ⟨s', hs', own', hinv⟩ := h.deliver hc nw
    exact ⟨s', hs', lists, own', hinv⟩
  case ended => exact hallows.elim

/-- No queue is made where there is one. -/
def Unraced (s : CmdSys ι ε) : CmdAct ι ε → Prop
  | .post _ _ => True
  | .run t _ => (∃ data, s.poster t = .creating data) → s.inst = none
  | .process _ => s.consumer = .creating → s.inst = none

/-- There is one queue at most. -/
def One (s : CmdSys ι ε) : Prop :=
  ∀ q, s.queue q ≠ none → s.inst = some q

theorem One.keep (h : s.One) (hinst : s'.inst = s.inst)
    (hqueue : ∀ q, s'.queue q ≠ none → s.queue q ≠ none) : s'.One := by
  intro q hq
  rw [hinst]
  exact h q (hqueue q hq)

theorem One.create (h : s.One) (hinst : s.inst = none) (nw : Nat) : (s.create nw).One := by
  intro q hq
  change Function.update s.queue nw _ q ≠ none at hq
  change some nw = some q
  rcases eq_or_ne q nw with rfl | hne
  · rfl
  · rw [Function.update_of_ne hne] at hq
    have heq := h q hq
    rw [hinst] at heq
    cases heq

theorem ne_none_of_update {α β : Type} [DecidableEq α] {f : α → Option β} {a : α} {b : β}
    (ha : f a ≠ none) {x : α} (h : Function.update f a (some b) x ≠ none) : f x ≠ none := by
  rcases eq_or_ne x a with rfl | hne
  · exact ha
  · rw [Function.update_of_ne hne] at h
    exact h

theorem One.process (h : s.One) {nw : Nat} (hraced : s.Unraced (.process nw))
    (hs : s.process nw = some s') : s'.One := by
  rw [CmdSys.process] at hs
  cases hpc : s.consumer <;> simp only [hpc, Option.bind_eq_bind, Option.some.injEq] at hs
  case creating =>
    subst hs
    exact (h.create (hraced hpc) nw).keep rfl fun _ => id
  case dequeuing q =>
    obtain ⟨Q, hQ, ⟨item, Q'⟩, -, heq⟩ := by
      simpa only [Option.bind_eq_some_iff] using hs
    cases item with
    | none =>
        cases heq
        exact h.keep rfl fun _ => id
    | some item =>
        cases heq
        refine h.keep rfl fun q' hq' => ne_none_of_update ?_ hq'
        rw [hQ]
        exact Option.some_ne_none Q
  case processing q item =>
    obtain ⟨node, -, heq⟩ := by
      simpa only [Option.bind_eq_some_iff, Option.some.injEq] using hs
    subst heq
    exact h.keep rfl fun _ => id
  all_goals
    subst hs
    exact h.keep rfl fun _ => id

theorem Inv.consumer_queue (h : s.Inv lists own) {q : Nat} (hq : s.consumer.queue = some q) :
    s.queue q ≠ none := by
  have hok := h.consumer
  cases hc : s.consumer <;> rw [hc] at hok hq
  case testing | creating | returning | ended => cases hq
  all_goals exact hok q hq

theorem Inv.posted_one (h : s.Inv lists own) {q : Nat}
    (honly : ∀ q', s.queue q' ≠ none → q' = q) :
    s.posted.map Prod.snd = s.delivered ++ s.held ++ (lists q).map Prod.snd := by
  have hother : ∀ q', q' ≠ q → s.queue q' = none :=
    fun q' hne => not_not.mp fun hq' => hne (honly q' hq')
  have hto : s.postedTo q = s.posted.map Prod.snd := by
    rw [postedTo, List.filter_eq_self.mpr]
    intro m hm
    refine decide_eq_true (not_not.mp fun hne => ?_)
    -- nothing is posted to a queue that is not there
    have hnone : s.postedTo m.1 = [] := by
      rw [h.history, taken, if_neg fun heq => hne (honly _ (h.consumer_queue heq)),
        h.empty _ (hother _ hne)]
      rfl
    rw [postedTo, List.map_eq_nil_iff, List.filter_eq_nil_iff] at hnone
    exact hnone m hm (decide_eq_true rfl)
  have htaken : s.taken q = s.delivered ++ s.held := by
    rw [taken]
    split
    · rfl
    · next hne =>
        have hnone : s.consumer.queue = none := by
          cases hc : s.consumer.queue with
          | none => rfl
          | some q' => exact absurd (by rw [hc, honly q' (h.consumer_queue hc)]) hne
        have hitem : s.consumer.item = none := by
          cases hc : s.consumer <;> rw [hc] at hnone <;> first | rfl | cases hnone
        rw [h.fresh hnone, held, hitem]
        rfl
  rw [← hto, h.history, htaken]

section

variable [DecidableEq ι]

theorem Inv.step (h : s.Inv lists own) {act : CmdAct ι ε} (hallows : s.Allows act) :
    ∃ s', s.perform act = some s' ∧ ∃ lists own, s'.Inv lists own := by
  cases act with
  | post t data =>
      have htesting : (s.put t (.testing data)).Inv lists own :=
        h.goesOn hallows nofun rfl rfl trivial
      exact ⟨s.put t (.testing data), rfl, lists, own, htesting⟩
  | run t nw => exact h.run hallows
  | process nw => exact h.process hallows

def Sound (s : CmdSys ι ε) : Prop :=
  ∃ lists own, s.Inv lists own

theorem Sound.step (h : s.Sound) {act : CmdAct ι ε} (hs : s.Step act s') : s'.Sound := by
  obtain ⟨lists, own, hinv⟩ := h
  obtain ⟨s₁, hs₁, hinv₁⟩ := hinv.step hs.1
  rw [hs.2, Option.some_inj] at hs₁
  exact hs₁ ▸ hinv₁

theorem run_sound {acts : List (CmdAct ι ε)} (h : Run Step (init ι ε) acts s) : s.Sound :=
  h.invariant ⟨_, _, init_inv⟩ fun _ _ _ hsound hs => hsound.step hs

/-- One thread at a time works on the queues; of each queue the messages leave in the order in
which they entered it, none is lost and none is left over. Whoever sleeps has nothing to do,
or is about to be woken. -/
structure InOrder (s : CmdSys ι ε) (lists : Nat → List (Nat × ε)) : Prop where
  exclusive : s.Exclusive
  chain : ∀ q Q, s.queue q = some Q → Q.Chain s.cell (lists q)
  noneLost : ∀ q, s.postedTo q = s.taken q ++ (lists q).map Prod.snd
  noneLeaked : ∀ a, s.cell a ≠ none ↔ ∃! p, s.At lists p a
  awake : ∀ q, s.consumer = .asleep q → lists q = [] ∨ ∃ t, s.poster t = .signalling
  faultless : ∀ act, s.Allows act → ∃ s', s.perform act = some s'

theorem Inv.inOrder (h : s.Inv lists own) : s.InOrder lists where
  exclusive := h.exclusive
  chain := h.chain
  noneLost := h.history
  noneLeaked a := by
    have hcell := (h.cell a).not
    constructor
    · intro ha
      obtain ⟨p, hp⟩ := Option.ne_none_iff_exists'.mp (hcell.mp ha)
      refine ⟨p, (h.located p a).mp hp, fun p' hp' => ?_⟩
      have heq := (h.located p' a).mpr hp'
      rw [hp] at heq
      exact (Option.some.inj heq).symm
    · rintro ⟨p, hp, -⟩
      refine hcell.mpr ?_
      rw [(h.located p a).mpr hp]
      exact Option.some_ne_none p
  awake := h.awake
  faultless act hallows := by
    obtain ⟨s', hs', -⟩ := h.step hallows
    exact ⟨s', hs'⟩

/-- What the queues do in any interleaving, whoever made them. -/
theorem cmdQueue_in_order {acts : List (CmdAct ι ε)} (h : Run Step (init ι ε) acts s) :
    ∃ lists, s.InOrder lists := by
  obtain ⟨lists, own, hinv⟩ := run_sound h
  exact ⟨lists, hinv.inOrder⟩

theorem One.run (h : s.One) {t : ι} {nw : Nat} (hraced : s.Unraced (.run t nw))
    (hs : s.run t nw = some s') : s'.One := by
  rw [CmdSys.run] at hs
  cases hpc : s.poster t <;> simp only [hpc, Option.bind_eq_bind, Option.some.injEq] at hs
  case creating data =>
    subst hs
    exact (h.create (hraced ⟨data, hpc⟩) nw).keep rfl fun _ => id
  case enqueuing q item data =>
    obtain ⟨Q, hQ, ⟨cell, Q'⟩, -, heq⟩ := by
      simpa only [Option.bind_eq_some_iff, Option.some.injEq] using hs
    subst heq
    refine h.keep rfl fun q' hq' => ne_none_of_update ?_ hq'
    rw [hQ]
    exact Option.some_ne_none Q
  case signalling =>
    subst hs
    refine h.keep ?_ fun q hq => ?_
    · change s.signal.inst = s.inst
      rw [CmdSys.signal]
      split <;> rfl
    · change s.signal.queue q ≠ none at hq
      rw [CmdSys.signal] at hq
      split at hq <;> exact hq
  all_goals
    subst hs
    exact h.keep rfl fun _ => id

theorem run_one {acts : List (CmdAct ι ε)} (h : Run (Guarded Unraced Step) (init ι ε) acts s) :
    s.One := by
  refine h.invariant (fun q hq => absurd rfl hq) ?_
  rintro s act s' hone ⟨hraced, -, hs'⟩
  cases act with
  | post t data =>
      cases hs'
      exact hone.keep rfl fun _ => id
  | run t nw => exact hone.run hraced hs'
  | process nw => exact hone.process hraced hs'

/-- The queue is made once: whatever is posted, in any interleaving, is processed in the order in
which it was posted, and while some of it waits nobody sleeps for long. -/
theorem unraced_posts_processed {acts : List (CmdAct ι ε)}
    (h : Run (Guarded Unraced Step) (init ι ε) acts s) :
    ∃ waiting : List (Nat × ε),
      s.posted.map Prod.snd = s.delivered ++ s.held ++ waiting.map Prod.snd ∧
      (∀ q Q, s.queue q = some Q → Q.Chain s.cell waiting) ∧
      ∀ q, s.consumer = .asleep q → waiting = [] ∨ ∃ t, s.poster t = .signalling := by
  obtain ⟨lists, own, hinv⟩ := run_sound h.unguarded
  have hone := run_one h
  let q := s.inst.getD 0
  have honly : ∀ q', s.queue q' ≠ none → q' = q := by
    intro q' hq'
    simp only [q, hone q' hq', Option.getD_some]
  refine ⟨lists q, hinv.posted_one honly, fun q' Q hQ => ?_, fun q' hc => ?_⟩
  · rw [← honly q' (by rw [hQ]; exact Option.some_ne_none Q)]
    exact hinv.chain q' Q hQ
  · rw [← honly q' (hinv.consumer_queue (by rw [hc]; rfl))]
    exact hinv.awake q' hc

end

section

variable [DecidableEq ε]

instance instDecidableAllows [DecidableEq ι] (s : CmdSys ι ε) :
    (act : CmdAct ι ε) → Decidable (s.Allows act)
  | .post t _ => inferInstanceAs (Decidable (s.poster t = .outside))
  | .run t nw =>
      match h : s.poster t with
      | .outside => isFalse (by simp [Allows, h])
      | .creating _ => decidable_of_iff (s.queue nw = none) (by simp [Allows, h])
      | .allocating _ _ => decidable_of_iff ((s.cell nw).isNone = true) (by simp [Allows, h])
      | .locking _ _ _ => decidable_of_iff (s.mutex.isNone = true) (by simp [Allows, h])
      | .testing _ | .returning _ | .enqueuing _ _ _ | .signalling | .unlocking =>
          isTrue (by simp [Allows, h])
  | .process nw =>
      match h : s.consumer with
      | .creating => decidable_of_iff (s.queue nw = none) (by simp [Allows, h])
      | .locking _ | .woken _ => decidable_of_iff (s.mutex.isNone = true) (by simp [Allows, h])
      | .ended => isFalse (by simp [Allows, h])
      | .testing | .returning | .dequeuing _ | .asleep _ | .waited _ | .unlocking _ _
      | .processing _ _ => isTrue (by simp [Allows, h])

instance instDecidableUnraced (s : CmdSys ι ε) : (act : CmdAct ι ε) → Decidable (s.Unraced act)
  | .post _ _ => isTrue trivial
  | .run t _ =>
      match h : s.poster t with
      | .creating data => decidable_of_iff (s.inst = none)
          ⟨fun hinst _ => hinst, fun hraced => hraced ⟨data, h⟩⟩
      | .outside | .testing _ | .returning _ | .allocating _ _ | .locking _ _ _
      | .enqueuing _ _ _ | .signalling | .unlocking => isTrue (by simp [Unraced, h])
  | .process _ => inferInstanceAs (Decidable (s.consumer = .creating → s.inst = none))

end

/-- A message is posted and processed, and another one waits. -/
def turn : List (CmdAct Unit Nat) :=
  [.process 0, .process 7, .process 0, .post () 5, .run () 0, .run () 0, .run () 3, .run () 0,
    .run () 0, .run () 0, .run () 0, .process 0, .process 0, .process 0, .process 0,
    .post () 6, .run () 0, .run () 0, .run () 3, .run () 0, .run () 0]

theorem run_turn : ∃ s, Run (Guarded Unraced Step) (init Unit Nat) turn s ∧
    s.delivered = [5] ∧ s.posted = [(7, 5), (7, 6)] := by
  have hrun : ∃ s, turn.foldlM (fun s act => if s.Unraced act then
      (if s.Allows act then s.perform act else none) else none) (init Unit Nat) = some s ∧
        s.delivered = [5] ∧ s.posted = [(7, 5), (7, 6)] :=
    ⟨_, rfl, rfl, rfl⟩
  obtain ⟨s, hs, hdone⟩ := hrun
  refine ⟨s, Run.of_guarded_foldlM (fun s act s' hs' => ?_) hs, hdone⟩
  rw [Option.ite_none_right_eq_some] at hs'
  exact hs'

theorem unraced_posts_processed_turn : ∃ s : CmdSys Unit Nat, s.delivered = [5] ∧
    ∃ waiting : List (Nat × Nat),
      s.posted.map Prod.snd = s.delivered ++ s.held ++ waiting.map Prod.snd := by
  obtain ⟨s, hrun, hdelivered, -⟩ := run_turn
  obtain ⟨waiting, hposted, -⟩ := unraced_posts_processed hrun
  exact ⟨s, hdelivered, waiting, hposted⟩

theorem cmdQueue_in_order_turn : ∃ s : CmdSys Unit Nat, s.delivered = [5] ∧
    ∃ lists, s.InOrder lists := by
  obtain ⟨s, hrun, hdelivered, -⟩ := run_turn
  exact ⟨s, hdelivered, cmdQueue_in_order hrun.unguarded⟩

end CmdSys

end LibraDevice.Dispatch
