import LibraDevice.Lan.Retracts
import LibraDevice.Lan.WlanClients

/-!
The interfaces, `IPACM_LanToLan` and the queue between them: no client belongs to an interface
that is deleted.
-/

namespace LibraDevice.Lan

open Backhaul Mailbox StepRun
open LanToLan (IpAddr MacAddr ClientKey ConnectionEvent ConnectionEventId LanDriver LanEvent
  Lan2Lan)

/-- What comes from outside; `self` is the address of an instance. -/
inductive Arrival where
  | linkUp (self : Nat) (kind : IfaceKind)
  | iface (self : Nat) (e : IfaceEvent)
  | connection (id : ConnectionEventId) (data : ConnectionEvent)

inductive Msg where
  | arrival (a : Arrival)
  | post (p : Post)
  | deleteSelf (self : Nat)

/-- The instances, the queue and `IPACM_LanToLan`. -/
structure AddrNet (δ : Type) where
  iface : Nat → Option AddrIface
  queue : List Msg
  lan2lan : Lan2Lan Nat δ

/-- An event arrives, or the first one in the queue is handled. -/
inductive NetAct where
  | arrive (a : Arrival)
  | process

section

variable {δ : Type} (d : LanDriver Nat δ)

namespace AddrNet

def init (driver : δ) : AddrNet δ := ⟨fun _ => none, [], .init driver⟩

/-- An instance is created where there is none. -/
def linkUp (self : Nat) (kind : IfaceKind) (n : AddrNet δ) : AddrNet δ :=
  match n.iface self with
  | some _ => n
  | none => { n with iface := Function.update n.iface self (some ⟨kind, .null, [], true⟩) }

/-- An instance that is no longer active ignores the event. One that ends with it posts
`IPA_LAN_DELETE_SELF` last. -/
def handle (self : Nat) (e : IfaceEvent) (n : AddrNet δ) : AddrNet δ :=
  match n.iface self with
  | none => n
  | some s =>
    if s.isActive then
      let res := s.eventCallback self e
      { n with
        iface := Function.update n.iface self (some res.2)
        queue := n.queue ++
          (res.1.map .post ++ if res.2.isActive then [] else [.deleteSelf self]) }
    else n

def onLan2lan (e : LanEvent Nat) (n : AddrNet δ) : Option (AddrNet δ) :=
  (LanToLan.eventCallback d n.lan2lan e).map fun l => { n with lan2lan := l }

/-- A message that is taken from the queue. -/
def dispatch (n : AddrNet δ) : Msg → Option (AddrNet δ)
  | .arrival (.linkUp self kind) => some (n.linkUp self kind)
  | .arrival (.iface self e) => some (n.handle self e)
  | .arrival (.connection id data) => n.onLan2lan d (.connection id data)
  | .post p => n.onLan2lan d p.event
  | .deleteSelf self => some { n with iface := Function.update n.iface self none }

def step (n : AddrNet δ) : NetAct → Option (AddrNet δ)
  | .arrive a => some { n with queue := n.queue ++ [.arrival a] }
  | .process =>
    match n.queue with
    | [] => none
    | m :: rest => { n with queue := rest }.dispatch d m

end AddrNet

def Msg.note : Msg → Note ClientKey Nat
  | .arrival _ => .silent
  | .post p => p.note
  | .deleteSelf self => .close self

/-- An instance that is gone, up or down. -/
def ifacePhase : Option AddrIface → Phase ClientKey
  | none => .gone
  | some s => if s.isActive then .isOpen s.Holds else .closing

def AddrNet.own (n : AddrNet δ) : ClientKey → Nat → Prop :=
  fun k i => n.lan2lan.owner k = some i

structure NetInv (n : AddrNet δ) : Prop where
  keyed : n.lan2lan.Keyed
  orderly : ∀ i, Orderly n.own (n.queue.map Msg.note) i (ifacePhase (n.iface i))

/-- An event an instance is to handle fits its clients. -/
def AddrNet.HeadFits (n : AddrNet δ) : List Msg → Prop
  | .arrival (.iface self e) :: _ => ∀ s ∈ n.iface self, s.isActive = true → s.Fits e
  | _ => True

def NetAct.Fits (n : AddrNet δ) : NetAct → Prop
  | .arrive _ => True
  | .process => n.HeadFits n.queue

theorem map_note_post (posts : List Post) : (posts.map Msg.post).map Msg.note = notes posts :=
  List.map_map ..

theorem linkDown_or (e : IfaceEvent) :
    (∃ done, e = .linkDown done) ∨ ∀ done, e ≠ .linkDown done := by
  cases e with
  | linkDown done => exact Or.inl ⟨done, rfl⟩
  | _ =>
      refine Or.inr fun done heq => ?_
      cases heq

theorem not_isOf_of_pIface {posts : List Post} {self i : Nat} (h : ∀ p ∈ posts, p.pIface = self)
    (hne : i ≠ self) : ∀ note ∈ notes posts, ¬ note.IsOf i := by
  intro note hnote
  obtain ⟨p, hp, rfl⟩ := List.mem_map.mp hnote
  have hiface := h p hp
  rw [Post.note]
  cases p.id with
  | active =>
      change ¬ p.pIface = i
      rw [hiface]
      exact hne.symm
  | inactive => exact id
  | disconnect => exact id
  | powerSave => exact id
  | powerRecover => exact id

theorem not_afterAll_downEvt {s : AddrIface} {self done : Nat} (hfits : s.Fits (.linkDown done))
    (k : ClientKey) : ¬ afterAll (fun k _ => s.Holds k)
      (notes (s.eventCallback self (.linkDown done)).1) k self := by
  intro hk
  have hquiet : ∀ n ∈ notes (s.eventCallback self (.linkDown done)).1, ¬ n.IsOf self := by
    apply not_isOf_of_id
    intro p hp
    rw [(AddrIface.downEvt_id p hp).1]
    decide
  have hholds : s.Holds k := own_of_afterAll hquiet hk
  exact not_afterAll_of_release (AddrIface.downEvt_releases hfits hholds) hquiet hk

namespace NetInv

variable {d} {n n' : AddrNet δ} {m : Msg}

theorem drop (h : NetInv n) {m : Msg} {rest : List Msg} (hqueue : n.queue = m :: rest)
    (hnote : m.note = .silent) : NetInv { n with queue := rest } := by
  refine ⟨h.keyed, ?_⟩
  intro i
  have hi := h.orderly i
  rw [hqueue, List.map_cons, hnote] at hi
  refine hi.deliver ?_ fun k hk => hk
  intro heq
  cases heq

theorem arrive (h : NetInv n) (a : Arrival) :
    NetInv { n with queue := n.queue ++ [.arrival a] } := by
  refine ⟨h.keyed, ?_⟩
  intro i
  change Orderly n.own ((n.queue ++ [Msg.arrival a]).map Msg.note) i _
  rw [List.map_append]
  apply (h.orderly i).post_other
  intro note hnote
  cases List.mem_singleton.mp hnote
  exact id

theorem linkUp (h : NetInv n) (self : Nat) (kind : IfaceKind) : NetInv (n.linkUp self kind) := by
  rw [AddrNet.linkUp]
  split
  case h_1 => exact h
  case h_2 hgone =>
    refine ⟨h.keyed, ?_⟩
    intro i
    have hi := h.orderly i
    change Orderly n.own _ i (ifacePhase (Function.update n.iface self _ i))
    rcases eq_or_ne i self with rfl | hne
    · rw [Function.update_self]
      rw [hgone] at hi
      exact hi.start _
    · rw [Function.update_of_ne hne]
      exact hi

theorem handle (h : NetInv n) (self : Nat) (e : IfaceEvent)
    (hfits : ∀ s, n.iface self = some s → s.isActive = true → s.Fits e) :
    NetInv (n.handle self e) := by
  rw [AddrNet.handle]
  split
  case h_1 => exact h
  case h_2 s hs =>
    split
    case isFalse => exact h
    case isTrue hactive =>
      have hself := h.orderly self
      rw [hs, ifacePhase, if_pos hactive] at hself
      refine ⟨h.keyed, ?_⟩
      intro i
      change Orderly n.own ((n.queue ++ _).map Msg.note) i
        (ifacePhase (Function.update n.iface self _ i))
      rw [List.map_append, List.map_append, map_note_post]
      rcases eq_or_ne i self with rfl | hne
      · rw [Function.update_self, ifacePhase]
        rcases linkDown_or e with ⟨done, rfl⟩ | hup
        · exact hself.shut (not_afterAll_downEvt (hfits s hs hactive)) (close_not_mem_notes _ i)
        · have hstill := AddrIface.eventCallback_isActive i hup s
          rw [hactive] at hstill
          rw [hstill, if_pos rfl, if_pos rfl, List.map_nil, List.append_nil]
          refine hself.post ?_ (close_not_mem_notes _ i)
          intro k hk
          exact AddrIface.eventCallback_holds (hfits s hs hactive) hup hk
      · rw [Function.update_of_ne hne]
        apply (h.orderly i).post_other
        intro note hnote
        rcases List.mem_append.mp hnote with hnote | hnote
        · exact not_isOf_of_pIface (AddrIface.eventCallback_pIface e) hne note hnote
        · split at hnote
          · cases hnote
          · cases List.mem_singleton.mp hnote
            exact hne.symm

theorem deleteSelf (h : NetInv n) {self : Nat} {rest : List Msg}
    (hqueue : n.queue = .deleteSelf self :: rest) :
    NetInv { n with queue := rest, iface := Function.update n.iface self none } := by
  refine ⟨h.keyed, ?_⟩
  intro i
  have hi := h.orderly i
  rw [hqueue] at hi
  change Orderly n.own _ i (ifacePhase (Function.update n.iface self none i))
  rcases eq_or_ne i self with rfl | hne
  · rw [Function.update_self]
    exact hi.closed.2
  · rw [Function.update_of_ne hne]
    refine hi.deliver ?_ fun k hk => hk
    intro heq
    cases heq
    exact hne rfl

theorem onLan2lan (h : NetInv n) {m : Msg} {rest : List Msg} {e : LanEvent Nat}
    (hqueue : n.queue = m :: rest) (hclose : ∀ i, m.note ≠ .close i)
    (hhands : ∀ own k i, e.hands own k i → m.note.after own k i)
    (hstep : AddrNet.onLan2lan d e { n with queue := rest } = some n') : NetInv n' := by
  obtain ⟨l, hl, rfl⟩ := Option.map_eq_some_iff.mp hstep
  obtain ⟨hkeyed, hown⟩ := LanToLan.eventCallback_hands h.keyed hl
  refine ⟨hkeyed, ?_⟩
  intro i
  have hi := h.orderly i
  rw [hqueue] at hi
  exact hi.deliver (hclose i) fun k hk => hhands _ _ _ (hown k i hk)

end NetInv

variable {d} {n n' : AddrNet δ}

theorem netStep_inv {act : NetAct} (h : NetInv n) (hfits : act.Fits n)
    (hstep : n.step d act = some n') : NetInv n' := by
  cases act with
  | arrive a =>
      cases hstep
      exact h.arrive a
  | process =>
      rw [AddrNet.step] at hstep
      split at hstep
      case h_1 => cases hstep
      case h_2 m rest hqueue =>
        match m with
        | .arrival (.linkUp self kind) =>
            cases hstep
            exact (h.drop hqueue rfl).linkUp self kind
        | .arrival (.iface self e) =>
            cases hstep
            apply (h.drop hqueue rfl).handle self e
            have hhead : n.HeadFits n.queue := hfits
            rw [hqueue] at hhead
            exact hhead
        | .arrival (.connection id data) =>
            refine h.onLan2lan hqueue ?_ ?_ hstep
            · intro i heq
              cases heq
            · intro own k i hk
              exact hk
        | .post p =>
            refine h.onLan2lan hqueue ?_ ?_ hstep
            · intro i heq
              exact close_not_mem_notes [p] i (List.mem_singleton.mpr heq.symm)
            · intro own k i hk
              exact post_hands hk
        | .deleteSelf self =>
            cases hstep
            exact h.deleteSelf hqueue

theorem netInit_inv (driver : δ) : NetInv (AddrNet.init driver) := by
  refine ⟨LanToLan.keyed_init driver, ?_⟩
  intro i
  refine ⟨?_, ?_⟩
  · intro k hk
    rw [AddrNet.own, AddrNet.init, LanToLan.owner_init] at hk
    cases hk
  · intro note hnote
    cases hnote

/-- Every client in the tables belongs to an instance that exists. -/
structure AddrNet.NoneOutlives (n : AddrNet δ) : Prop where
  v4 : ∀ key client c, n.lan2lan.v4.clientInfo key = some client →
    n.lan2lan.v4.node client = some c → (n.iface c.pIface).isSome
  v6 : ∀ key client c, n.lan2lan.v6.clientInfo key = some client →
    n.lan2lan.v6.node client = some c → (n.iface c.pIface).isSome

theorem NetInv.isSome_of_own (h : NetInv n) {k : ClientKey} {i : Nat}
    (hown : n.lan2lan.owner k = some i) : (n.iface i).isSome := by
  have hi := h.orderly i
  cases hs : n.iface i with
  | none =>
      rw [hs] at hi
      exact absurd hown (hi.1 k)
  | some s => rfl

/-- No client outlives its interface, where the events fit the clients. -/
theorem noneOutlives_of_run {driver : δ} {acts : List NetAct}
    (hrun : Run (Guarded (fun n act => act.Fits n) fun n act n' => n.step d act = some n')
      (.init driver) acts n) : n.NoneOutlives := by
  have hinv : NetInv n := by
    refine hrun.invariant (netInit_inv driver) ?_
    rintro n act n' h ⟨hfits, hstep⟩
    exact netStep_inv h hfits hstep
  constructor
  · intro key client c hkey hnode
    apply hinv.isSome_of_own (k := .v4 key)
    change (n.lan2lan.v4.clientInfo key).bind _ = _
    rw [hkey, Option.bind_some, LanToLan.LanState.iface, hnode]
    rfl
  · intro key client c hkey hnode
    apply hinv.isSome_of_own (k := .v6 key)
    change (n.lan2lan.v6.clientInfo key).bind _ = _
    rw [hkey, Option.bind_some, LanToLan.LanState.iface, hnode]
    rfl

instance decidableHeadFits (n : AddrNet δ) : (queue : List Msg) → Decidable (n.HeadFits queue)
  | [] => isTrue trivial
  | .arrival (.linkUp _ _) :: _ => isTrue trivial
  | .arrival (.iface self e) :: _ =>
      inferInstanceAs (Decidable (∀ s ∈ n.iface self, s.isActive = true → s.Fits e))
  | .arrival (.connection _ _) :: _ => isTrue trivial
  | .post _ :: _ => isTrue trivial
  | .deleteSelf _ :: _ => isTrue trivial

instance decidableNetFits (n : AddrNet δ) : (act : NetAct) → Decidable (act.Fits n)
  | .arrive _ => isTrue trivial
  | .process => inferInstanceAs (Decidable (n.HeadFits n.queue))

end

/-- A driver that never fails. -/
def linkDriver : LanDriver Nat Unit where
  addLan2lanHdr _ _ _ _ drv := (some 1, drv)
  addLan2lanRtRule _ _ _ _ _ drv := (some ⟨1, [1]⟩, drv)
  addLan2lanFltRule _ _ _ _ drv := (some 1, drv)
  delLan2lanFltRule _ _ _ drv := (true, drv)
  delLan2lanRtRule _ _ _ drv := (true, drv)
  delLan2lanHdr _ _ _ drv := (true, drv)

def fittingNetStep (n : AddrNet Unit) (act : NetAct) : Option (AddrNet Unit) :=
  if act.Fits n then n.step linkDriver act else none

theorem guarded_of_fittingNetStep (n : AddrNet Unit) (act : NetAct) (n' : AddrNet Unit)
    (h : fittingNetStep n act = some n') :
    Guarded (fun n act => act.Fits n) (fun n act n' => n.step linkDriver act = some n') n act
      n' := by
  rw [fittingNetStep] at h
  split at h
  case isTrue hfits => exact ⟨hfits, h⟩
  case isFalse => cases h

/-- A LAN client and an address of it. -/
def lanNeighAdd (mac : MacAddr) (iptype : IpType) (v4 : UInt32) (v6 : IpAddr) : IfaceEvent :=
  .neighAdd ⟨iptype, v4, v6, mac, none⟩ true

/-- Events that arrive, and enough steps to handle them and what they post. -/
def netRun (as : List Arrival) (steps : Nat) : List NetAct :=
  as.map .arrive ++ List.replicate steps .process

/-- A client of an access point and one of a LAN interface are connected; then the links go
down. -/
def connectedIfaces : List NetAct :=
  netRun [.linkUp 1 .wlan, .iface 1 (.addrAdd .v4 true), .iface 1 (.clientAdd macA true),
    .iface 1 (lanNeighAdd macA .v4 7 ⟨0, 0, 0, 0⟩), .linkUp 2 .lan, .iface 2 (.addrAdd .v4 true),
    .iface 2 (lanNeighAdd macB .v4 8 ⟨0, 0, 0, 0⟩)] 9 ++
  netRun [.connection .new ⟨.v4, 7, 8, ⟨0, 0, 0, 0⟩, ⟨0, 0, 0, 0⟩⟩, .iface 1 (.powerSave macA),
    .iface 1 (.recover macA), .iface 2 (.linkDown 1), .iface 1 (.linkDown 1)] 11

theorem noneOutlives_connectedIfaces :
    ∃ n, Run (Guarded (fun n act => act.Fits n)
        fun n act n' => n.step linkDriver act = some n') (.init ()) connectedIfaces n ∧
      n.NoneOutlives := by
  obtain ⟨n, hfold⟩ : ∃ n, connectedIfaces.foldlM fittingNetStep (.init ()) = some n :=
    Option.isSome_iff_exists.mp (by decide +kernel)
  have hrun := Run.of_foldlM guarded_of_fittingNetStep hfold
  exact ⟨n, hrun, noneOutlives_of_run hrun⟩

/-- A LAN client has an IPv6 address when its interface goes down. -/
def lanV6Down : List NetAct :=
  netRun [.linkUp 2 .lan, .iface 2 (.addrAdd .v6 true),
    .iface 2 (lanNeighAdd macB .v6 0 ⟨0x20010DB8, 0, 0, 9⟩), .iface 2 (.linkDown 1)] 7

theorem not_noneOutlives_lanV6Down :
    ∃ n : AddrNet Unit, Run (fun n act n' => n.step linkDriver act = some n') (.init ())
        lanV6Down n ∧ ¬ n.NoneOutlives := by
  obtain ⟨n, hfold, hlast⟩ : ∃ n, lanV6Down.foldlM (AddrNet.step linkDriver) (.init ()) =
      some n ∧ (n.lan2lan.owner (.v6 (LanToLan.v6Key ⟨0x20010DB8, 0, 0, 9⟩)),
        (n.iface 2).isSome) = (some 2, false) :=
    Option.map_eq_some_iff.mp (by decide +kernel)
  refine ⟨n, Run.of_foldlM (fun _ _ _ h => h) hfold, ?_⟩
  intro h
  simp only [Prod.mk.injEq] at hlast
  obtain ⟨hown, hgone⟩ := hlast
  obtain ⟨client, hkey, hiface⟩ := Option.bind_eq_some_iff.mp hown
  obtain ⟨c, hnode, hc⟩ := Option.map_eq_some_iff.mp hiface
  have hexists := h.v6 _ client c hkey hnode
  rw [hc, hgone] at hexists
  cases hexists

end LibraDevice.Lan
