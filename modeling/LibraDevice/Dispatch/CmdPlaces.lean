import LibraDevice.Dispatch.CmdQueue

/-!
The places where a message of the command queue can be, the invariant over them, and
the steps of the threads that post.
-/

namespace LibraDevice.Dispatch

open LibraDevice.NodeChain
open LibraDevice.StepRun

variable {ι ε : Type}

namespace Consumer

/-- The queue it works for. -/
def queue : Consumer → Option Nat
  | .testing | .creating | .returning | .ended => none
  | .locking q | .dequeuing q | .asleep q | .woken q | .waited q | .unlocking q _
  | .processing q _ => some q

/-- The message it has taken out. -/
def item : Consumer → Option Nat
  | .unlocking _ item | .processing _ item => some item
  | _ => none

def holds : Consumer → Bool
  | .dequeuing _ | .waited _ | .unlocking _ _ => true
  | _ => false

end Consumer

namespace Poster

/-- The message that is not in a queue yet. -/
def item : Poster ε → Option Nat
  | .locking _ item _ | .enqueuing _ item _ => some item
  | _ => none

def holds : Poster ε → Bool
  | .enqueuing _ _ _ | .signalling | .unlocking => true
  | _ => false

end Poster

/-- Where a message is that has been made and not yet processed. -/
inductive Place (ι : Type)
  | queued (q : Nat)
  | poster (t : ι)
  | process

namespace CmdSys

/-- The messages enqueued in the queue at `q`, in order. -/
def postedTo (s : CmdSys ι ε) (q : Nat) : List ε :=
  (s.posted.filter fun m => m.1 = q).map Prod.snd

/-- The message that has been taken out and is not yet processed. -/
def held (s : CmdSys ι ε) : List ε :=
  ((s.consumer.item.bind s.cell).map Cell.data).toList

/-- The messages taken out of the queue at `q`, in order. -/
def taken (s : CmdSys ι ε) (q : Nat) : List ε :=
  if s.consumer.queue = some q then s.delivered ++ s.held else []

/-- The mutex is held by the thread that it says, and no other. -/
structure Exclusive (s : CmdSys ι ε) : Prop where
  poster : ∀ t, s.mutex = some (.poster t) ↔ (s.poster t).holds = true
  process : s.mutex = some .process ↔ s.consumer.holds = true

/-- What a poster knows. -/
def PosterOk (s : CmdSys ι ε) : Poster ε → Prop
  | .returning _ => s.inst ≠ none
  | .allocating q _ => s.queue q ≠ none
  | .locking q item data | .enqueuing q item data =>
      s.queue q ≠ none ∧ s.cell item = some ⟨data, none⟩
  | _ => True

/-- What the thread that processes knows. -/
def ConsumerOk (s : CmdSys ι ε) : Consumer → Prop
  | .returning => s.inst ≠ none
  | .ended => False
  | c => ∀ q, c.queue = some q → s.queue q ≠ none

/-- A message is at a place. -/
def At (s : CmdSys ι ε) (lists : Nat → List (Nat × ε)) : Place ι → Nat → Prop
  | .queued q, a => a ∈ addrs (lists q)
  | .poster t, a => (s.poster t).item = some a
  | .process, a => s.consumer.item = some a

/-- The queues hold the messages `lists`, and every message is where `own` says. -/
structure Inv (s : CmdSys ι ε) (lists : Nat → List (Nat × ε)) (own : Nat → Option (Place ι)) :
    Prop where
  chain : ∀ q Q, s.queue q = some Q → Q.Chain s.cell (lists q)
  empty : ∀ q, s.queue q = none → lists q = []
  inst : ∀ q, s.inst = some q → s.queue q ≠ none
  cell : ∀ a, s.cell a = none ↔ own a = none
  located : ∀ p a, own a = some p ↔ s.At lists p a
  posters : ∀ t, s.PosterOk (s.poster t)
  consumer : s.ConsumerOk s.consumer
  exclusive : s.Exclusive
  awake : ∀ q, s.consumer = .asleep q → lists q = [] ∨ ∃ t, s.poster t = .signalling
  history : ∀ q, s.postedTo q = s.taken q ++ (lists q).map Prod.snd
  fresh : s.consumer.queue = none → s.delivered = []

theorem init_inv : (init ι ε).Inv (fun _ => []) fun _ => none where
  chain _ _ h := nomatch h
  empty _ _ := rfl
  inst _ h := nomatch h
  cell _ := iff_of_true rfl rfl
  located p a := by
    refine iff_of_false nofun ?_
    cases p with
    | queued q => exact List.not_mem_nil
    | poster t => exact nofun
    | process => exact nofun
  posters _ := trivial
  consumer := fun _ h => nomatch h
  exclusive := ⟨fun _ => iff_of_false nofun nofun, iff_of_false nofun nofun⟩
  awake _ h := nomatch h
  history _ := rfl
  fresh _ := rfl

variable {s s' : CmdSys ι ε} {lists : Nat → List (Nat × ε)} {own : Nat → Option (Place ι)}

theorem PosterOk.mono {pc : Poster ε} (h : s.PosterOk pc)
    (hqueue : ∀ q, s.queue q ≠ none → s'.queue q ≠ none) (hinst : s.inst ≠ none → s'.inst ≠ none)
    (hcell : ∀ a, pc.item = some a → s'.cell a = s.cell a) : s'.PosterOk pc := by
  cases pc with
  | returning data => exact hinst h
  | allocating q data => exact hqueue q h
  | locking q item data => exact ⟨hqueue q h.1, (hcell item rfl).trans h.2⟩
  | enqueuing q item data => exact ⟨hqueue q h.1, (hcell item rfl).trans h.2⟩
  | outside | testing | creating | signalling | unlocking => trivial

theorem ConsumerOk.mono {c : Consumer} (h : s.ConsumerOk c)
    (hqueue : ∀ q, s.queue q ≠ none → s'.queue q ≠ none)
    (hinst : s.inst ≠ none → s'.inst ≠ none) : s'.ConsumerOk c := by
  cases c with
  | returning => exact hinst h
  | ended => exact h
  | testing | creating | locking | dequeuing | asleep | woken | waited | unlocking | processing =>
      exact fun q hq => hqueue q (h q hq)

theorem located_move {At At' : Place ι → Nat → Prop} (h : ∀ p a, own a = some p ↔ At p a)
    {item : Nat} {place : Option (Place ι)}
    (hothers : ∀ p a, a ≠ item → (At' p a ↔ At p a))
    (hitem : ∀ p, At' p item ↔ place = some p) (p : Place ι) (a : Nat) :
    Function.update own item place a = some p ↔ At' p a := by
  rcases eq_or_ne a item with rfl | hne
  · rw [Function.update_self, hitem]
  · rw [Function.update_of_ne hne, hothers p a hne]
    exact h p a

theorem update_ne_none {α β : Type} [DecidableEq α] {f : α → Option β} {a : α} {b : β} {x : α}
    (h : f x ≠ none) : Function.update f a (some b) x ≠ none := by
  rcases eq_or_ne x a with rfl | hne
  · rw [Function.update_self]
    exact Option.some_ne_none _
  · rw [Function.update_of_ne hne]
    exact h

theorem Inv.create (h : s.Inv lists own) {nw : Nat} (hnw : s.queue nw = none) :
    (s.create nw).Inv lists own := by
  have hqueue : ∀ q, s.queue q ≠ none → (s.create nw).queue q ≠ none :=
    fun q hq => update_ne_none hq
  have hinst : s.inst ≠ none → (s.create nw).inst ≠ none := fun _ => Option.some_ne_none _
  refine
    { h with
      chain := fun q Q hQ => ?_
      empty := fun q hq => h.empty q (not_not.mp fun hne => hqueue q hne hq)
      inst := fun q hq => ?_
      posters := fun t => (h.posters t).mono hqueue hinst fun _ _ => rfl
      consumer := h.consumer.mono hqueue hinst
      exclusive := ⟨h.exclusive.poster, h.exclusive.process⟩ }
  · change Function.update s.queue nw _ q = some Q at hQ
    rcases eq_or_ne q nw with rfl | hne
    · rw [Function.update_self] at hQ
      cases hQ
      rw [h.empty q hnw]
      exact ⟨rfl, List.nodup_nil, fun hne => absurd rfl hne⟩
    · rw [Function.update_of_ne hne] at hQ
      exact h.chain q Q hQ
  · cases hq
    change Function.update s.queue nw _ nw ≠ none
    rw [Function.update_self]
    exact Option.some_ne_none _

section

variable [DecidableEq ι]

@[simp] theorem put_poster (t : ι) (pc : Poster ε) (s : CmdSys ι ε) :
    (s.put t pc).poster t = pc :=
  Function.update_self ..

theorem put_poster_of_ne {t t' : ι} (hne : t' ≠ t) (pc : Poster ε) (s : CmdSys ι ε) :
    (s.put t pc).poster t' = s.poster t' :=
  Function.update_of_ne hne ..

theorem put_signalling {t : ι} {pc : Poster ε} (ht : s.poster t ≠ .signalling)
    (h : ∃ t', s.poster t' = .signalling) : ∃ t', (s.put t pc).poster t' = .signalling := by
  obtain ⟨t', ht'⟩ := h
  refine ⟨t', ?_⟩
  rw [put_poster_of_ne]
  · exact ht'
  · rintro rfl
    exact ht ht'

theorem Inv.put (h : s.Inv lists own) {t : ι} {pc : Poster ε} {m : Option (Thread ι)}
    (hitem : pc.item = (s.poster t).item) (hok : s.PosterOk pc)
    (hexclusive : (({ s with mutex := m } : CmdSys ι ε).put t pc).Exclusive)
    (hawake : ∀ q, s.consumer = .asleep q → s.poster t ≠ .signalling) :
    (({ s with mutex := m } : CmdSys ι ε).put t pc).Inv lists own := by
  refine
    { h with
      located := fun p a => (h.located p a).trans ?_
      posters := fun t' => ?_
      exclusive := hexclusive
      awake := fun q hq => (h.awake q hq).imp_right (put_signalling (hawake q hq)) }
  · cases p with
    | queued q => exact Iff.rfl
    | poster t' =>
        change (s.poster t').item = some a ↔ ((CmdSys.put t pc _).poster t').item = some a
        rcases eq_or_ne t' t with rfl | hne
        · rw [put_poster, hitem]
        · rw [put_poster_of_ne hne]
    | process => exact Iff.rfl
  · rcases eq_or_ne t' t with rfl | hne
    · rw [put_poster]
      exact hok.mono (fun _ => id) id fun _ _ => rfl
    · rw [put_poster_of_ne hne]
      exact (h.posters t').mono (fun _ => id) id fun _ _ => rfl

theorem Exclusive.keep (h : s.Exclusive) {t : ι} {pc : Poster ε}
    (hholds : pc.holds = (s.poster t).holds) : (s.put t pc).Exclusive := by
  refine ⟨fun t' => ?_, h.process⟩
  rcases eq_or_ne t' t with rfl | hne
  · rw [put_poster, hholds]
    exact h.poster t'
  · rw [put_poster_of_ne hne]
    exact h.poster t'

theorem Exclusive.lock (h : s.Exclusive) (hfree : s.mutex = none) {t : ι} {pc : Poster ε}
    (hholds : pc.holds = true) :
    (({ s with mutex := some (.poster t) } : CmdSys ι ε).put t pc).Exclusive := by
  refine ⟨fun t' => ?_, iff_of_false (fun heq => nomatch heq) fun hc => ?_⟩
  · rcases eq_or_ne t' t with rfl | hne
    · rw [put_poster]
      exact iff_of_true rfl hholds
    · rw [put_poster_of_ne hne]
      refine iff_of_false (fun heq => hne ?_) fun ht => ?_
      · cases heq
        rfl
      · exact absurd ((h.poster t').mpr ht) (by rw [hfree]; exact fun heq => nomatch heq)
  · exact absurd (h.process.mpr hc) (by rw [hfree]; exact fun heq => nomatch heq)

theorem Exclusive.unlock (h : s.Exclusive) {t : ι} (hheld : (s.poster t).holds = true)
    {pc : Poster ε} (hholds : pc.holds = false) :
    (({ s with mutex := none } : CmdSys ι ε).put t pc).Exclusive := by
  have hmutex := (h.poster t).mpr hheld
  refine ⟨fun t' => ?_, iff_of_false (fun heq => nomatch heq) fun hc => ?_⟩
  · refine iff_of_false (fun heq => nomatch heq) ?_
    rcases eq_or_ne t' t with rfl | hne
    · rw [put_poster, hholds]
      exact Bool.false_ne_true
    · rw [put_poster_of_ne hne]
      intro ht
      have heq := (h.poster t').mpr ht
      rw [hmutex] at heq
      cases heq
      exact hne rfl
  · have heq := h.process.mpr hc
    rw [hmutex] at heq
    cases heq

end

theorem Inv.consume (h : s.Inv lists own) {c : Consumer} {m : Option (Thread ι)}
    (hitem : c.item = s.consumer.item)
    (hqueue : c.queue = s.consumer.queue ∨ s.consumer.queue = none)
    (hok : s.ConsumerOk c)
    (hexclusive : ({ s with mutex := m, consumer := c } : CmdSys ι ε).Exclusive)
    (hawake : ∀ q, c = .asleep q → lists q = []) :
    ({ s with mutex := m, consumer := c } : CmdSys ι ε).Inv lists own := by
  have hheld : ({ s with mutex := m, consumer := c } : CmdSys ι ε).held = s.held := by
    simp only [held, hitem]
  have htaken : ∀ q, ({ s with mutex := m, consumer := c } : CmdSys ι ε).taken q = s.taken q := by
    intro q
    simp only [taken, hheld]
    rcases hqueue with heq | hnone
    · rw [heq]
    · have hnothing : s.delivered ++ s.held = [] := by
        have hno : s.consumer.item = none := by
          cases hc : s.consumer <;> rw [hc] at hnone <;> first | rfl | cases hnone
        rw [h.fresh hnone, held, hno]
        rfl
      rw [hnothing, ite_self, ite_self]
  refine
    { h with
      located := fun p a => (h.located p a).trans ?_
      posters := fun t => (h.posters t).mono (fun _ => id) id fun _ _ => rfl
      consumer := hok.mono (fun _ => id) id
      exclusive := hexclusive
      awake := fun q hq => Or.inl (hawake q hq)
      history := fun q => by rw [htaken]; exact h.history q
      fresh := fun hnone => ?_ }
  · cases p with
    | queued q => exact Iff.rfl
    | poster t => exact Iff.rfl
    | process =>
        change s.consumer.item = some a ↔ c.item = some a
        rw [hitem]
  · rcases hqueue with heq | hnone'
    · exact h.fresh (heq.symm.trans hnone)
    · exact h.fresh hnone'

theorem Inv.signal (h : s.Inv lists own) : s.signal.Inv lists own := by
  rw [CmdSys.signal]
  split
  · next q hq =>
      have hok := h.consumer
      rw [hq] at hok
      have hprocess := h.exclusive.process
      rw [hq] at hprocess
      refine h.consume (m := s.mutex) ?_ (Or.inl ?_) hok ⟨h.exclusive.poster, hprocess⟩ nofun
      · rw [hq]
        rfl
      · rw [hq]
        rfl
  · exact h

section

variable [DecidableEq ι]

theorem Inv.alloc (h : s.Inv lists own) {t : ι} {nw q : Nat} {data : ε}
    (hpc : s.poster t = .allocating q data) (hnw : s.cell nw = none) :
    (({ s with cell := Function.update s.cell nw (some ⟨data, none⟩) } : CmdSys ι ε).put t
      (.locking q nw data)).Inv lists (Function.update own nw (some (.poster t))) := by
  have hfresh : ∀ p, ¬ s.At lists p nw := by
    intro p hp
    have heq := (h.located p nw).mpr hp
    rw [(h.cell nw).mp hnw] at heq
    cases heq
  have hcells : ∀ p a, s.At lists p a →
      Function.update s.cell nw (some ⟨data, none⟩) a = s.cell a := by
    intro p a hp
    refine Function.update_of_ne ?_ ..
    rintro rfl
    exact hfresh p hp
  have hitem : s.consumer.item.bind (Function.update s.cell nw (some ⟨data, none⟩)) =
      s.consumer.item.bind s.cell := by
    cases hc : s.consumer.item with
    | none => rfl
    | some a => exact hcells .process a hc
  refine
    { h with
      chain := fun q' Q hQ => (h.chain q' Q hQ).congr fun a ha => hcells (.queued q') a ha
      cell := fun a => ?_
      located := located_move h.located ?_ ?_
      posters := fun t' => ?_
      consumer := h.consumer.mono (fun _ => id) id
      exclusive := ?_
      awake := fun q' hq =>
        (h.awake q' hq).imp_right (put_signalling (by rw [hpc]; exact nofun))
      history := fun q' => ?_ }
  · change Function.update s.cell nw _ a = none ↔ _
    rcases eq_or_ne a nw with rfl | hne
    · rw [Function.update_self, Function.update_self]
      exact iff_of_false (Option.some_ne_none _) (Option.some_ne_none _)
    · rw [Function.update_of_ne hne, Function.update_of_ne hne]
      exact h.cell a
  · intro p a hne
    cases p with
    | queued q' => exact Iff.rfl
    | poster t' =>
        change ((CmdSys.put t _ _).poster t').item = some a ↔ (s.poster t').item = some a
        rcases eq_or_ne t' t with rfl | hne'
        · rw [put_poster, hpc]
          exact iff_of_false (fun heq => hne (Option.some.inj heq).symm) nofun
        · rw [put_poster_of_ne hne']
    | process => exact Iff.rfl
  · intro p
    cases p with
    | queued q' => exact iff_of_false (hfresh (.queued q')) nofun
    | poster t' =>
        change ((CmdSys.put t _ _).poster t').item = some nw ↔ _
        rcases eq_or_ne t' t with rfl | hne'
        · rw [put_poster]
          exact iff_of_true rfl rfl
        · rw [put_poster_of_ne hne']
          exact iff_of_false (hfresh (.poster t')) fun heq => hne' (by cases heq; rfl)
    | process => exact iff_of_false (hfresh .process) nofun
  · have ht := h.posters t'
    rcases eq_or_ne t' t with rfl | hne
    · rw [hpc] at ht
      rw [put_poster]
      exact ⟨ht, Function.update_self ..⟩
    · rw [put_poster_of_ne hne]
      exact ht.mono (fun _ => id) id fun a ha => hcells (.poster t') a ha
  · have hexclusive : (s.put t (.locking q nw data)).Exclusive :=
      h.exclusive.keep (by rw [hpc]; rfl)
    exact ⟨hexclusive.poster, hexclusive.process⟩
  · have hsame : (({ s with cell := Function.update s.cell nw (some ⟨data, none⟩) } :
        CmdSys ι ε).put t (.locking q nw data)).taken q' = s.taken q' := by
      change (if s.consumer.queue = some q' then s.delivered ++ ((s.consumer.item.bind
        (Function.update s.cell nw (some ⟨data, none⟩))).map Cell.data).toList else []) = _
      rw [hitem]
      rfl
    rw [hsame]
    exact h.history q'

/-- The state of `enqueuing`, when the message has been put into the queue. -/
def enqueued (t : ι) (q : Nat) (data : ε) (cell : Nat → Option (Cell ε)) (Q : MessageQueue)
    (s : CmdSys ι ε) : CmdSys ι ε :=
  ({ s with
    cell := cell
    queue := Function.update s.queue q (some Q)
    posted := s.posted ++ [(q, data)] }).put t .signalling

theorem postedTo_enqueued (t : ι) (q : Nat) (data : ε) (cell : Nat → Option (Cell ε))
    (Q : MessageQueue) (s : CmdSys ι ε) (q' : Nat) :
    (s.enqueued t q data cell Q).postedTo q' =
      s.postedTo q' ++ if q = q' then [data] else [] := by
  change ((s.posted ++ [(q, data)]).filter _).map Prod.snd = _
  rw [List.filter_append, List.map_append, List.filter_singleton]
  congr 1
  by_cases heq : q = q'
  · simp only [heq, decide_true, cond_true, if_true, List.map_cons, List.map_nil]
  · simp only [heq, decide_false, cond_false, if_false, List.map_nil]

section

variable {t : ι} {q item : Nat} {data : ε} {cell : Nat → Option (Cell ε)} {Q : MessageQueue}

theorem at_enqueued_of_ne (hpc : s.poster t = .enqueuing q item data) {a : Nat} (hne : a ≠ item)
    (p : Place ι) :
    (s.enqueued t q data cell Q).At (Function.update lists q (lists q ++ [(item, data)])) p a ↔
      s.At lists p a := by
  cases p with
  | queued q' =>
      change a ∈ addrs (Function.update lists q _ q') ↔ a ∈ addrs (lists q')
      rcases eq_or_ne q' q with rfl | hne'
      · rw [Function.update_self, addrs_append, addrs_cons, addrs_nil, List.mem_append,
          List.mem_singleton]
        exact ⟨fun hor => hor.resolve_right hne, Or.inl⟩
      · rw [Function.update_of_ne hne']
  | poster t' =>
      change ((CmdSys.put t _ _).poster t').item = some a ↔ (s.poster t').item = some a
      rcases eq_or_ne t' t with rfl | hne'
      · rw [put_poster, hpc]
        exact iff_of_false (Option.some_ne_none a).symm fun heq => hne (Option.some.inj heq).symm
      · rw [put_poster_of_ne hne']
  | process => exact Iff.rfl

theorem at_enqueued_self (hout : ∀ p, s.At lists p item → p = .poster t) (p : Place ι) :
    (s.enqueued t q data cell Q).At (Function.update lists q (lists q ++ [(item, data)])) p
      item ↔ some (.queued q) = some p := by
  cases p with
  | queued q' =>
      change item ∈ addrs (Function.update lists q _ q') ↔ _
      rcases eq_or_ne q' q with rfl | hne'
      · rw [Function.update_self]
        exact iff_of_true (by simp) rfl
      · rw [Function.update_of_ne hne']
        refine iff_of_false (fun hmem => ?_) fun heq => ?_
        · cases hout (.queued q') hmem
        · cases heq
          exact hne' rfl
  | poster t' =>
      refine iff_of_false (fun heq => ?_) fun heq => by cases heq
      change ((CmdSys.put t _ _).poster t').item = some item at heq
      rcases eq_or_ne t' t with rfl | hne'
      · rw [put_poster] at heq
        cases heq
      · rw [put_poster_of_ne hne'] at heq
        cases hout (.poster t') heq
        exact hne' rfl
  | process =>
      refine iff_of_false (fun hp => ?_) fun heq => by cases heq
      cases hout .process hp

end

theorem Inv.enqueue (h : s.Inv lists own) {t : ι} {q item : Nat} {data : ε}
    (hpc : s.poster t = .enqueuing q item data) (nw : Nat) :
    ∃ s', s.run t nw = some s' ∧
      s'.Inv (Function.update lists q (lists q ++ [(item, data)]))
        (Function.update own item (some (.queued q))) := by
  have ht := h.posters t
  rw [hpc] at ht
  obtain ⟨hq, hcell⟩ := ht
  obtain ⟨Q, hQ⟩ := Option.ne_none_iff_exists'.mp hq
  have hmine : own item = some (.poster t) := (h.located (.poster t) item).mpr (by
    change (s.poster t).item = some item
    rw [hpc]
    rfl)
  have hout : ∀ p, s.At lists p item → p = .poster t := by
    intro p hp
    have heq := (h.located p item).mpr hp
    rw [hmine] at heq
    exact (Option.some.inj heq).symm
  obtain ⟨cell, Q', henqueue, hchain, hsame, hnone⟩ :=
    (h.chain q Q hQ).enqueue (fun hmem => nomatch hout (.queued q) hmem) hcell
  have hcells : ∀ p a, p ≠ .queued q → s.At lists p a → cell a = s.cell a := by
    intro p a hne hp
    refine hsame a fun hmem => hne ?_
    have heq := (h.located (.queued q) a).mpr hmem
    rw [(h.located p a).mpr hp] at heq
    exact Option.some.inj heq
  have hitem : s.consumer.item.bind cell = s.consumer.item.bind s.cell := by
    cases hc : s.consumer.item with
    | none => rfl
    | some a => exact hcells .process a nofun hc
  have hrun : s.run t nw = some (s.enqueued t q data cell Q') := by
    simp only [run, hpc, hQ, henqueue, Option.bind_eq_bind, Option.bind_some, enqueued]
  have hqueue : ∀ q', s.queue q' ≠ none → (s.enqueued t q data cell Q').queue q' ≠ none :=
    fun q' hq' => update_ne_none hq'
  refine ⟨_, hrun,
    { chain := fun q' R hR => ?_
      empty := fun q' hR => ?_
      inst := fun q' hinst => hqueue q' (h.inst q' hinst)
      cell := fun a => (hnone a).trans ((h.cell a).trans ?_)
      located := located_move h.located (fun p a hne => at_enqueued_of_ne hpc hne p)
        fun p => at_enqueued_self hout p
      posters := fun t' => ?_
      consumer := h.consumer.mono hqueue id
      exclusive := ?_
      awake := fun _ _ => Or.inr ⟨t, put_poster ..⟩
      history := fun q' => ?_
      fresh := h.fresh }⟩
  · change Function.update s.queue q (some Q') q' = some R at hR
    rcases eq_or_ne q' q with rfl | hne
    · rw [Function.update_self] at hR ⊢
      cases hR
      exact hchain
    · rw [Function.update_of_ne hne] at hR ⊢
      refine (h.chain q' R hR).congr fun a ha => hcells (.queued q') a ?_ ha
      rintro heq
      cases heq
      exact hne rfl
  · have hnew := hqueue q'
    rcases eq_or_ne q' q with rfl | hne
    · exact absurd hR (hnew hq)
    · rw [Function.update_of_ne hne]
      exact h.empty q' (not_not.mp fun hne' => hnew hne' hR)
  · rcases eq_or_ne a item with rfl | hne
    · rw [Function.update_self, hmine]
      exact iff_of_false (Option.some_ne_none _) (Option.some_ne_none _)
    · rw [Function.update_of_ne hne]
  · rcases eq_or_ne t' t with rfl | hne
    · rw [enqueued, put_poster]
      trivial
    · rw [enqueued, put_poster_of_ne hne]
      exact (h.posters t').mono hqueue id fun a ha => hcells (.poster t') a nofun ha
  · have hexclusive : (s.put t .signalling).Exclusive := h.exclusive.keep (by rw [hpc]; rfl)
    exact ⟨hexclusive.poster, hexclusive.process⟩
  · have htaken : (s.enqueued t q data cell Q').taken q' = s.taken q' := by
      change (if s.consumer.queue = some q' then s.delivered ++
        ((s.consumer.item.bind cell).map Cell.data).toList else []) = _
      rw [hitem]
      rfl
    rw [htaken, postedTo_enqueued, h.history q', List.append_assoc]
    rcases eq_or_ne q q' with rfl | hne
    · rw [if_pos rfl, Function.update_self, List.map_append]
      rfl
    · rw [if_neg hne, Function.update_of_ne hne.symm, List.append_nil]

theorem Inv.goesOn (h : s.Inv lists own) {t : ι} {pc pc' : Poster ε} (hpc : s.poster t = pc)
    (hne : pc ≠ .signalling) (hitem : pc'.item = pc.item) (hholds : pc'.holds = pc.holds)
    (hok : s.PosterOk pc') : (s.put t pc').Inv lists own := by
  subst hpc
  exact h.put (m := s.mutex) hitem hok (h.exclusive.keep hholds) fun _ _ => hne

/-- No step of a thread that posts faults. -/
theorem Inv.run (h : s.Inv lists own) {t : ι} {nw : Nat} (hallows : s.Allows (.run t nw)) :
    ∃ s', s.run t nw = some s' ∧ ∃ lists own, s'.Inv lists own := by
  have hok := h.posters t
  rw [Allows] at hallows
  cases hpc : s.poster t <;> rw [hpc] at hok hallows
  case outside => exact hallows.elim
  case testing data =>
    refine ⟨_, by rw [CmdSys.run, hpc], lists, own, ?_⟩
    cases hinst : s.inst with
    | none => exact h.goesOn hpc nofun rfl rfl trivial
    | some q =>
        refine h.goesOn hpc nofun rfl rfl ?_
        rw [Option.isNone_some, if_neg Bool.false_ne_true, PosterOk, hinst]
        exact Option.some_ne_none q
  case creating data =>
    refine ⟨_, by rw [CmdSys.run, hpc], lists, own, ?_⟩
    have hreturning : ((s.create nw).put t (.returning data)).Inv lists own :=
      (h.create hallows).goesOn hpc nofun rfl rfl (Option.some_ne_none nw)
    exact hreturning
  case returning data =>
    refine ⟨_, by rw [CmdSys.run, hpc], lists, own, ?_⟩
    obtain ⟨q, hq⟩ := Option.ne_none_iff_exists'.mp hok
    rw [hq]
    exact h.goesOn hpc nofun rfl rfl (h.inst q hq)
  case allocating q data =>
    exact ⟨_, by rw [CmdSys.run, hpc], lists, _, h.alloc hpc hallows⟩
  case locking q item data =>
    refine ⟨_, by rw [CmdSys.run, hpc], lists, own, ?_⟩
    refine h.put ?_ hok (h.exclusive.lock hallows rfl) fun _ _ => ?_
    · rw [hpc]
      rfl
    · rw [hpc]
      exact nofun
  case enqueuing q item data =>
    obtain ⟨s', hs', hinv⟩ := h.enqueue hpc nw
    exact ⟨s', hs', _, _, hinv⟩
  case signalling =>
    refine ⟨_, by rw [CmdSys.run, hpc], lists, own, ?_⟩
    have hsame : s.signal.poster = s.poster := by
      rw [CmdSys.signal]
      split <;> rfl
    have hawake : ∀ q, s.signal.consumer ≠ .asleep q := by
      intro q
      rw [CmdSys.signal]
      split
      · exact nofun
      · next hc => exact hc q
    refine h.signal.put (m := s.signal.mutex) ?_ trivial (h.signal.exclusive.keep ?_)
      fun q hq => absurd hq (hawake q)
    · rw [hsame, hpc]
      rfl
    · rw [hsame, hpc]
      rfl
  case unlocking =>
    refine ⟨_, by rw [CmdSys.run, hpc], lists, own, ?_⟩
    refine h.put ?_ trivial (h.exclusive.unlock ?_ rfl) fun _ _ => ?_
    · rw [hpc]
      rfl
    · rw [hpc]
      rfl
    · rw [hpc]
      exact nofun

end

end CmdSys

end LibraDevice.Dispatch
