import LibraDevice.Agps.DsStateMachine
import LibraDevice.Utils.ListRuns

/-!
How a notification reaches the subscribers: a search through the linked list
whose comparison notifies each subscriber it comes by, and the deletion of
those that took the notification. Subscribers are objects in memory, and a
read of one that has been deleted is a fault.
-/

namespace LibraDevice.Agps

open LibraDevice.Utils

/-- A subscriber object of any of the classes. The object of a `DSSubscriber`
is followed by some bytes `tail`. -/
inductive AnySubscriber
  | agps (s : Subscriber)
  | ds (s : DSSubscriber) (tail : Bytes)
deriving DecidableEq, Repr

namespace AnySubscriber

def memory : AnySubscriber → Memory
  | agps s => s.memory
  | ds s tail => ⟨s.ID, tail⟩

def equals : AnySubscriber → Memory → Bool
  | agps s, m => s.equals m
  | ds s _, m => s.ID = m.ID

def isInactive : AnySubscriber → Bool
  | agps s => s.isInactive
  | ds s _ => s.mIsInactive

end AnySubscriber

/-- The statuses that the switches of `notifyRsrcStatus` have a case for. -/
def AgpsRsrcStatus.taken : AgpsRsrcStatus → Bool
  | .subscribe => false
  | .statusMax => false
  | _ => true

structure Notification where
  rcver : Option Nat
  groupID : BitVec 32
  rsrcStatus : AgpsRsrcStatus
  postNotifyDelete : Bool
deriving DecidableEq, Repr

namespace Notification

def broadcastAll : BitVec 32 := 0x80000000

def broadcastActive : BitVec 32 := 0x80000001

def broadcastInactive : BitVec 32 := 0x80000002

end Notification

/-- The objects in memory, the calls of `notifyRsrcStatus` with their answers,
and the objects deleted, in order. -/
structure Objects where
  objs : Nat → Option AnySubscriber
  calls : List (Nat × Bool)
  deleted : List Nat

namespace Notification

variable (n : Notification)

/-- `Subscriber::forMe`, which reads the object of the receiver. -/
def forMe (objs : Nat → Option AnySubscriber) (s : AnySubscriber) : Option Bool :=
  match n.rcver with
  | some rcver => (objs rcver).map fun r => s.equals r.memory
  | none =>
      some (n.groupID = broadcastAll || (n.groupID = broadcastActive && !s.isInactive) ||
        (n.groupID = broadcastInactive && s.isInactive))

/-- `notifyRsrcStatus` of the object at `a`, as its answer. -/
def notifyRsrcStatus (objs : Nat → Option AnySubscriber) (a : Nat) : Option Bool := do
  let s ← objs a
  let notify ← n.forMe objs s
  some (notify && n.rsrcStatus.taken)

/-- The comparison that `linked_list_search` is given. -/
def notifySubscriber (c : Objects) (a : Nat) : Option (Bool × Objects) := do
  let notify ← n.notifyRsrcStatus c.objs a
  some (notify && n.postNotifyDelete, { c with calls := c.calls ++ [(a, notify)] })

/-- `delete` of the object at `a`. -/
def delete (a : Nat) (c : Objects) : Option Objects := do
  let _ ← c.objs a
  some { c with objs := Function.update c.objs a none, deleted := c.deleted ++ [a] }

/-- The loop of `notifySubscribers`. -/
def notifyDeletingFrom :
    Nat → Objects → ListState Nat Unit → Option (Objects × ListState Nat Unit)
  | 0, _, _ => none
  | k + 1, c, l => do
      let (out, c, l) ← l.search n.notifySubscriber true true c
      match out.data with
      | none => some (c, l)
      | some s => do
          let c ← delete s c
          notifyDeletingFrom k c l

def notifySubscribers (c : Objects) (l : ListState Nat Unit) :
    Option (Objects × ListState Nat Unit) :=
  if n.postNotifyDelete then
    n.notifyDeletingFrom (l.live + 1) c l
  else
    (l.search n.notifySubscriber false false c).map fun r => r.2

/-- The notification is addressed to the subscriber at `a`. -/
def addressed (objs : Nat → Option AnySubscriber) (a : Nat) : Bool :=
  ((objs a).bind (n.forMe objs)).getD false

/-- The subscriber at `a` takes the notification: it is addressed to it, with a
status that subscribers take. -/
def takes (objs : Nat → Option AnySubscriber) (a : Nat) : Bool :=
  n.addressed objs a && n.rsrcStatus.taken

end Notification

variable {n : Notification} {c : Objects} {l : ListState Nat Unit} {q : List (Entry Nat Unit)}

/-- The subscribers that took a notification, in order. -/
def Objects.informed (c : Objects) : List Nat :=
  (c.calls.filter Prod.snd).map Prod.fst

/-- The calls a search makes on the subscribers of `q`. -/
def Notification.heard (n : Notification) (c : Objects) (q : List (Entry Nat Unit)) : Objects :=
  { c with calls := c.calls ++ q.map fun e => (e.1, n.takes c.objs e.1) }

theorem Notification.heard_nil (n : Notification) (c : Objects) : n.heard c [] = c := by
  rw [heard, List.map_nil, List.append_nil]

theorem Notification.heard_append (n : Notification) (c : Objects)
    (q q' : List (Entry Nat Unit)) : n.heard (n.heard c q) q' = n.heard c (q ++ q') := by
  simp only [heard, List.append_assoc, List.map_append]

/-- What the search reads is there: the subscribers, and the receiver unless
there is nobody to compare with it. -/
structure Notification.Readable (n : Notification) (objs : Nat → Option AnySubscriber)
    (q : List (Entry Nat Unit)) : Prop where
  listed : ∀ e ∈ q, ∃ s, objs e.1 = some s
  rcver : ∀ p, n.rcver = some p → q ≠ [] → ∃ r, objs p = some r

/-- The receiver is deleted last, if at all, and leaves nobody behind. -/
def Notification.Safe (n : Notification) (objs : Nat → Option AnySubscriber)
    (q : List (Entry Nat Unit)) : Prop :=
  n.postNotifyDelete = true → ∀ p, n.rcver = some p → p ∈ q.map Prod.fst →
    n.takes objs p = true →
      (q.map Prod.fst).getLast? = some p ∧ ∀ e ∈ q, n.takes objs e.1 = true

namespace Notification

theorem Readable.takes {objs : Nat → Option AnySubscriber} (h : n.Readable objs q)
    {e : Entry Nat Unit} (he : e ∈ q) :
    n.notifyRsrcStatus objs e.1 = some (n.takes objs e.1) := by
  obtain ⟨s, hs⟩ := h.listed e he
  have hmine : ∃ mine, n.forMe objs s = some mine := by
    simp only [forMe]
    cases hp : n.rcver with
    | none => exact ⟨_, rfl⟩
    | some p =>
        obtain ⟨r, hr⟩ := h.rcver p hp (List.ne_nil_of_mem he)
        exact ⟨_, congrArg (Option.map fun r => s.equals r.memory) hr⟩
  obtain ⟨mine, hmine⟩ := hmine
  simp only [notifyRsrcStatus, Notification.takes, addressed, hs, hmine, Option.bind_eq_bind,
    Option.bind_some, Option.getD_some]

theorem Readable.sublist {objs : Nat → Option AnySubscriber} (h : n.Readable objs q)
    {q' : List (Entry Nat Unit)} (hsub : ∀ e ∈ q', e ∈ q) : n.Readable objs q' where
  listed := fun e he => h.listed e (hsub e he)
  rcver := by
    intro p hp hne
    obtain ⟨e, he⟩ := List.exists_mem_of_ne_nil q' hne
    exact h.rcver p hp (List.ne_nil_of_mem (hsub e he))

theorem notifySubscriber_eq (h : n.Readable c.objs q) {e : Entry Nat Unit} (he : e ∈ q) :
    n.notifySubscriber c e.1 =
      some (n.takes c.objs e.1 && n.postNotifyDelete, n.heard c [e]) := by
  simp only [notifySubscriber, h.takes he, Option.bind_eq_bind, Option.bind_some]
  rfl

theorem searchSeq_miss (h : n.Readable c.objs q)
    (hmiss : ∀ e ∈ q, (n.takes c.objs e.1 && n.postNotifyDelete) = false) :
    searchSeq n.notifySubscriber c q = some (none, n.heard c q) := by
  induction q generalizing c with
  | nil => rw [heard_nil]; rfl
  | cons e q ih =>
      have hrest := ih (c := n.heard c [e]) (h.sublist fun _ => List.mem_cons_of_mem _)
        fun e he => hmiss e (List.mem_cons_of_mem _ he)
      simp only [searchSeq, notifySubscriber_eq h List.mem_cons_self, Option.bind_eq_bind,
        Option.bind_some, hmiss e List.mem_cons_self, Bool.false_eq_true, if_false, hrest,
        heard_append, List.singleton_append]
      rfl

theorem searchSeq_hit {before behind : List (Entry Nat Unit)} {e : Entry Nat Unit}
    (h : n.Readable c.objs (before ++ e :: behind))
    (hmiss : ∀ e ∈ before, (n.takes c.objs e.1 && n.postNotifyDelete) = false)
    (hhit : (n.takes c.objs e.1 && n.postNotifyDelete) = true) :
    searchSeq n.notifySubscriber c (before ++ e :: behind) =
      some (some (before, e, behind), n.heard c (before ++ [e])) := by
  induction before generalizing c with
  | nil =>
      simp only [List.nil_append, searchSeq, notifySubscriber_eq h List.mem_cons_self,
        Option.bind_eq_bind, Option.bind_some, hhit, if_true]
  | cons b before ih =>
      have hrest := ih (c := n.heard c [b]) (h.sublist fun _ => List.mem_cons_of_mem _)
        (fun e he => hmiss e (List.mem_cons_of_mem _ he)) hhit
      simp only [List.cons_append, searchSeq, notifySubscriber_eq h List.mem_cons_self,
        Option.bind_eq_bind, Option.bind_some, hmiss b List.mem_cons_self, Bool.false_eq_true,
        if_false, hrest, heard_append]
      rfl

end Notification

theorem Objects.informed_heard (n : Notification) (c : Objects) (q : List (Entry Nat Unit)) :
    (n.heard c q).informed = c.informed ++ (q.filter fun e => n.takes c.objs e.1).map Prod.fst := by
  rw [informed, Notification.heard, List.filter_append, List.map_append, informed]
  congr 1
  rw [List.filter_map, List.map_map]
  rfl

theorem split_first (p : Entry Nat Unit → Bool) (q : List (Entry Nat Unit)) :
    (∀ e ∈ q, p e = false) ∨ ∃ before e behind, q = before ++ e :: behind ∧
      (∀ y ∈ before, p y = false) ∧ p e = true := by
  cases h : q.find? p with
  | none =>
      refine Or.inl fun e he => ?_
      rw [← Bool.not_eq_true]
      exact List.find?_eq_none.mp h e he
  | some e =>
      obtain ⟨he, before, behind, rfl, hbefore⟩ := List.find?_eq_some_iff_append.mp h
      refine Or.inr ⟨before, e, behind, rfl, fun y hy => ?_, he⟩
      rw [← Bool.not_eq_true']
      exact hbefore y hy

namespace Notification

/-- What a notification with deletion has done. -/
structure Deleted (n : Notification) (c c' : Objects) (l' : ListState Nat Unit)
    (q : List (Entry Nat Unit)) : Prop where
  left : l'.Holds (q.filter fun e => !n.takes c.objs e.1)
  informed : c'.informed = c.informed ++ (q.filter fun e => n.takes c.objs e.1).map Prod.fst
  deleted : c'.deleted = c.deleted ++ (q.filter fun e => n.takes c.objs e.1).map Prod.fst
  gone : ∀ e ∈ q, n.takes c.objs e.1 = true → c'.objs e.1 = none
  kept : ∀ a, (∀ e ∈ q, n.takes c.objs e.1 = true → e.1 ≠ a) → c'.objs a = c.objs a

theorem takes_congr {objs objs' : Nat → Option AnySubscriber} {a : Nat}
    (ha : objs' a = objs a) (hrcver : ∀ p, n.rcver = some p → objs' p = objs p) :
    n.takes objs' a = n.takes objs a := by
  have hmine : n.forMe objs' = n.forMe objs := by
    funext s
    simp only [forMe]
    cases hp : n.rcver with
    | none => rfl
    | some p =>
        change (objs' p).map _ = (objs p).map _
        rw [hrcver p hp]
  rw [takes, takes, addressed, addressed, ha, hmine]

section

variable {objs : Nat → Option AnySubscriber} {before behind : List (Entry Nat Unit)}
  {e : Entry Nat Unit}

/-- After the deletion of `e` the receiver is another object, unless nobody is
left. -/
theorem Safe.rcver_ne (hsafe : n.Safe objs (before ++ e :: behind))
    (hdel : n.postNotifyDelete = true)
    (hnodup : ((before ++ e :: behind).map Prod.fst).Nodup)
    (hbefore : ∀ y ∈ before, n.takes objs y.1 = false) (he : n.takes objs e.1 = true) {p : Nat}
    (hp : n.rcver = some p) (hne : before ++ behind ≠ []) : p ≠ e.1 := by
  rintro rfl
  have hmem : e.1 ∈ (before ++ e :: behind).map Prod.fst :=
    List.mem_map_of_mem (List.mem_append_right _ List.mem_cons_self)
  obtain ⟨hlast, hall⟩ := hsafe hdel e.1 hp hmem he
  cases before with
  | cons b before =>
      have hb := hall b List.mem_cons_self
      rw [hbefore b List.mem_cons_self] at hb
      cases hb
  | nil =>
      rcases List.eq_nil_or_concat behind with rfl | ⟨behind, d, rfl⟩
      · exact hne rfl
      · rw [List.concat_eq_append] at *
        rw [List.nil_append, List.map_cons, List.map_append, List.map_singleton,
          ← List.cons_append, List.getLast?_concat] at hlast
        rw [List.nil_append, List.map_cons, List.nodup_cons, List.map_append] at hnodup
        have hd : d.1 = e.1 := Option.some.inj hlast
        rw [← hd] at hnodup
        exact hnodup.1 (List.mem_append_right _ List.mem_cons_self)

theorem ne_of_nodup (hnodup : ((before ++ e :: behind).map Prod.fst).Nodup)
    {y : Entry Nat Unit} (hy : y ∈ before ++ behind) : y.1 ≠ e.1 := by
  rw [List.map_append, List.map_cons, List.nodup_middle, List.nodup_cons, ← List.map_append]
    at hnodup
  intro heq
  exact hnodup.1 (heq ▸ List.mem_map_of_mem hy)

theorem mem_of_mem_rest {y : Entry Nat Unit} (hy : y ∈ before ++ behind) :
    y ∈ before ++ e :: behind := by
  rcases List.mem_append.mp hy with hy | hy
  · exact List.mem_append_left _ hy
  · exact List.mem_append_right _ (List.mem_cons_of_mem _ hy)

theorem rest_takes (hsafe : n.Safe objs (before ++ e :: behind))
    (hdel : n.postNotifyDelete = true)
    (hnodup : ((before ++ e :: behind).map Prod.fst).Nodup)
    (hbefore : ∀ y ∈ before, n.takes objs y.1 = false) (he : n.takes objs e.1 = true)
    {y : Entry Nat Unit} (hy : y ∈ before ++ behind) :
    n.takes (Function.update objs e.1 none) y.1 = n.takes objs y.1 := by
  refine takes_congr (Function.update_of_ne (ne_of_nodup hnodup hy) _ _) fun p hp => ?_
  exact Function.update_of_ne
    (hsafe.rcver_ne hdel hnodup hbefore he hp (List.ne_nil_of_mem hy)) _ _

theorem Readable.rest (hread : n.Readable objs (before ++ e :: behind))
    (hsafe : n.Safe objs (before ++ e :: behind)) (hdel : n.postNotifyDelete = true)
    (hnodup : ((before ++ e :: behind).map Prod.fst).Nodup)
    (hbefore : ∀ y ∈ before, n.takes objs y.1 = false) (he : n.takes objs e.1 = true) :
    n.Readable (Function.update objs e.1 none) (before ++ behind) where
  listed := by
    intro y hy
    rw [Function.update_of_ne (ne_of_nodup hnodup hy)]
    exact hread.listed y (mem_of_mem_rest hy)
  rcver := by
    intro p hp hne
    rw [Function.update_of_ne (hsafe.rcver_ne hdel hnodup hbefore he hp hne)]
    exact hread.rcver p hp (List.append_ne_nil_of_right_ne_nil _ (List.cons_ne_nil _ _))

theorem Safe.rest (hsafe : n.Safe objs (before ++ e :: behind))
    (hnodup : ((before ++ e :: behind).map Prod.fst).Nodup)
    (hbefore : ∀ y ∈ before, n.takes objs y.1 = false) (he : n.takes objs e.1 = true) :
    n.Safe (Function.update objs e.1 none) (before ++ behind) := by
  intro hdel p hp hmem htakes
  obtain ⟨y, hy, rfl⟩ := List.mem_map.mp hmem
  have hsame : ∀ z ∈ before ++ behind,
      n.takes (Function.update objs e.1 none) z.1 = n.takes objs z.1 :=
    fun z hz => rest_takes hsafe hdel hnodup hbefore he hz
  rw [hsame y hy] at htakes
  obtain ⟨hlast, hall⟩ := hsafe hdel y.1 hp (List.mem_map_of_mem (mem_of_mem_rest hy)) htakes
  refine ⟨?_, fun z hz => (hsame z hz).trans (hall z (mem_of_mem_rest hz))⟩
  cases before with
  | cons b before =>
      have hb := hall b List.mem_cons_self
      rw [hbefore b List.mem_cons_self] at hb
      cases hb
  | nil =>
      cases behind with
      | nil => cases hy
      | cons d behind =>
          rw [List.nil_append, List.map_cons, List.map_cons, List.getLast?_cons_cons] at hlast
          exact hlast

end

/-- The first one that takes the notification is gone, and then the rest of the loop has run. -/
theorem Deleted.first {before behind : List (Entry Nat Unit)} {e : Entry Nat Unit}
    {c c₁ c' : Objects} {l' : ListState Nat Unit} (hdone : n.Deleted c₁ c' l' (before ++ behind))
    (hobjs : c₁.objs = Function.update c.objs e.1 none)
    (hinformed : c₁.informed = c.informed ++ [e.1]) (hdeleted : c₁.deleted = c.deleted ++ [e.1])
    (hnodup : ((before ++ e :: behind).map Prod.fst).Nodup)
    (hbefore : ∀ y ∈ before, n.takes c.objs y.1 = false) (he : n.takes c.objs e.1 = true)
    (hsame : ∀ y ∈ before ++ behind, n.takes c₁.objs y.1 = n.takes c.objs y.1) :
    n.Deleted c c' l' (before ++ e :: behind) := by
  have hnone : (before.filter fun y => n.takes c.objs y.1) = [] :=
    List.filter_eq_nil_iff.mpr fun y hy => by
      rw [hbefore y hy]
      exact Bool.false_ne_true
  have htook : ((before ++ behind).filter fun y => n.takes c₁.objs y.1) =
      behind.filter fun y => n.takes c.objs y.1 := by
    rw [List.filter_congr hsame, List.filter_append, hnone, List.nil_append]
  have htake : ((before ++ e :: behind).filter fun y => n.takes c.objs y.1) =
      e :: behind.filter fun y => n.takes c.objs y.1 := by
    rw [List.filter_append, hnone, List.nil_append, List.filter_cons, if_pos he]
  refine ⟨?_, ?_, ?_, ?_, ?_⟩
  · have hleft := hdone.left
    rw [List.filter_congr fun y hy => congrArg (!·) (hsame y hy), List.filter_append] at hleft
    rw [List.filter_append, List.filter_cons, if_neg (by rw [he]; exact Bool.false_ne_true)]
    exact hleft
  · rw [hdone.informed, htook, htake, hinformed, List.map_cons, List.append_assoc]
    rfl
  · rw [hdone.deleted, htook, htake, hdeleted, List.map_cons, List.append_assoc]
    rfl
  · intro y hy htakes
    rcases eq_or_ne y.1 e.1 with heq | hne
    · rw [hdone.kept y.1, hobjs, heq]
      · exact Function.update_self ..
      · intro z hz _ hzy
        exact ne_of_nodup hnodup hz (hzy.trans heq)
    · have hrest : y ∈ before ++ behind := by
        rcases List.mem_append.mp hy with hy | hy
        · exact List.mem_append_left _ hy
        · rcases List.mem_cons.mp hy with rfl | hy
          · exact absurd rfl hne
          · exact List.mem_append_right _ hy
      exact hdone.gone y hrest ((hsame y hrest).trans htakes)
  · intro a ha
    rw [hdone.kept a fun y hy htakes =>
      ha y (mem_of_mem_rest hy) ((hsame y hy).symm.trans htakes), hobjs]
    refine Function.update_of_ne ?_ _ _
    exact (ha e (List.mem_append_right _ List.mem_cons_self) he).symm

theorem notifyDeletingFrom_deleted {k : Nat} (hdel : n.postNotifyDelete = true)
    (hl : l.Holds q) (hk : q.length < k) (hnodup : (q.map Prod.fst).Nodup)
    (hread : n.Readable c.objs q) (hsafe : n.Safe c.objs q) :
    ∃ c' l', n.notifyDeletingFrom k c l = some (c', l') ∧ n.Deleted c c' l' q := by
  induction k generalizing c l q with
  | zero => exact absurd hk (Nat.not_lt_zero _)
  | succ k ih =>
      obtain ⟨nodes, hnodes, hq⟩ := hl
      have hsearch := hnodes.search n.notifySubscriber true true c
      rw [hq] at hsearch
      rcases split_first (fun e => n.takes c.objs e.1) q with
        hnone | ⟨before, e, behind, rfl, hbefore, he⟩
      · rw [searchSeq_miss hread fun e he => by rw [hnone e he, Bool.false_and]] at hsearch
        simp only at hsearch
        refine ⟨n.heard c q, l, ?_, ?_⟩
        · simp only [notifyDeletingFrom, hsearch, Option.bind_eq_bind, Option.bind_some]
        · have hnil : (q.filter fun e => n.takes c.objs e.1) = [] :=
            List.filter_eq_nil_iff.mpr fun e he => by rw [hnone e he]; exact Bool.false_ne_true
          have hself : (q.filter fun e => !n.takes c.objs e.1) = q :=
            List.filter_eq_self.mpr fun e he => by rw [hnone e he]; rfl
          refine ⟨?_, ?_, ?_, ?_, fun a _ => rfl⟩
          · rw [hself]
            exact ⟨nodes, hnodes, hq⟩
          · exact Objects.informed_heard n c q
          · rw [hnil]
            exact (List.append_nil _).symm
          · intro e he htakes
            rw [hnone e he] at htakes
            cases htakes
      · rw [searchSeq_hit hread (fun e he => by rw [hbefore e he, Bool.false_and])
          (by rw [he, hdel]; rfl)] at hsearch
        obtain ⟨l₁, hl₁, hsearched⟩ := hsearch
        have hsame : ∀ y ∈ before ++ behind,
            n.takes (Function.update c.objs e.1 none) y.1 = n.takes c.objs y.1 :=
          fun y hy => rest_takes hsafe hdel hnodup hbefore he hy
        obtain ⟨s, hs⟩ := hread.listed e (List.mem_append_right _ List.mem_cons_self)
        let c₁ : Objects :=
          { n.heard c (before ++ [e]) with
            objs := Function.update c.objs e.1 none
            deleted := c.deleted ++ [e.1] }
        have hdelete : delete e.1 (n.heard c (before ++ [e])) = some c₁ := by
          change (c.objs e.1).bind _ = some c₁
          rw [hs]
          rfl
        obtain ⟨c', l', hloop, hdone⟩ := ih (c := c₁) (l := l₁) (q := before ++ behind)
          (hsearched.removed rfl)
          (by
            rw [List.length_append, List.length_cons] at hk
            rw [List.length_append]
            omega)
          (by
            rw [List.map_append, List.map_cons, List.nodup_middle, List.nodup_cons,
              ← List.map_append] at hnodup
            exact hnodup.2)
          (hread.rest hsafe hdel hnodup hbefore he) (hsafe.rest hnodup hbefore he)
        refine ⟨c', l', ?_, ?_⟩
        · simp only [notifyDeletingFrom, hl₁, Option.bind_eq_bind, Option.bind_some, if_true,
            hdelete, hloop]
        · have hheard := Objects.informed_heard n c (before ++ [e])
          rw [List.filter_append, List.filter_eq_nil_iff.mpr fun y hy => by
              rw [hbefore y hy]
              exact Bool.false_ne_true,
            List.nil_append, List.filter_cons, if_pos he, List.filter_nil] at hheard
          exact hdone.first rfl hheard rfl hnodup hbefore he hsame

end Notification

/-- The objects of the entries are, in order, the subscribers of a class. -/
def Listed {σ : Type} (view : AnySubscriber → Option σ) (objs : Nat → Option AnySubscriber)
    (q : List (Entry Nat Unit)) (subscribers : List σ) : Prop :=
  (q.map fun e => (objs e.1).bind view) = subscribers.map some

section

variable {σ : Type} {view : AnySubscriber → Option σ} {objs : Nat → Option AnySubscriber}
  {subscribers : List σ}

theorem Listed.isSome (h : Listed view objs q subscribers) {e : Entry Nat Unit} (he : e ∈ q) :
    ∃ s, objs e.1 = some s := by
  have hmem : (objs e.1).bind view ∈ subscribers.map some := h ▸ List.mem_map_of_mem he
  obtain ⟨s, -, hs⟩ := List.mem_map.mp hmem
  obtain ⟨object, hobject, -⟩ := Option.bind_eq_some_iff.mp hs.symm
  exact ⟨object, hobject⟩

theorem Listed.filter (h : Listed view objs q subscribers) {p : Entry Nat Unit → Bool}
    {p' : σ → Bool} (hp : ∀ e s, (objs e.1).bind view = some s → p e = p' s) :
    Listed view objs (q.filter p) (subscribers.filter p') := by
  induction q generalizing subscribers with
  | nil =>
      rw [List.map_eq_nil_iff.mp h.symm]
      exact rfl
  | cons e q ih =>
      cases subscribers with
      | nil => cases h
      | cons s subscribers =>
          obtain ⟨hs, hq⟩ := List.cons.inj h
          have hrest := ih hq
          rw [List.filter_cons, List.filter_cons, hp e s hs]
          split
          · exact congr (congrArg List.cons hs) hrest
          · exact hrest

theorem Listed.congr (h : Listed view objs q subscribers) {objs' : Nat → Option AnySubscriber}
    (hobjs : ∀ e ∈ q, objs' e.1 = objs e.1) : Listed view objs' q subscribers :=
  (List.map_congr_left fun e he => congrArg (Option.bind · view) (hobjs e he)).trans h

/-- A broadcast with deletion divides the subscribers as `forMe` does. -/
theorem Notification.notifySubscribers_listed {forMe : σ → Bool} (hdel : n.postNotifyDelete = true)
    (hrcver : n.rcver = none) (hl : l.Holds q) (hnodup : (q.map Prod.fst).Nodup)
    (hlisted : Listed view c.objs q subscribers)
    (hforMe : ∀ e s, (c.objs e).bind view = some s → n.takes c.objs e = forMe s) :
    ∃ c' l' left told, n.notifySubscribers c l = some (c', l') ∧ l'.Holds left ∧
      Listed view c'.objs left (subscribers.filter fun s => !forMe s) ∧
      Listed view c.objs told (subscribers.filter forMe) ∧
      c'.informed = c.informed ++ told.map Prod.fst := by
  have hread : n.Readable c.objs q := by
    refine ⟨fun e he => hlisted.isSome he, fun p hp => ?_⟩
    rw [hrcver] at hp
    cases hp
  have hsafe : n.Safe c.objs q := by
    intro _ p hp
    rw [hrcver] at hp
    cases hp
  obtain ⟨nodes, hnodes, rfl⟩ := id hl
  obtain ⟨c', l', hloop, hdone⟩ := notifyDeletingFrom_deleted (k := l.live + 1) hdel hl (by
    rw [hnodes.live, List.length_map]
    exact Nat.lt_succ_self _) hnodup hread hsafe
  refine ⟨c', l', _, _, ?_, hdone.left, ?_, hlisted.filter fun e s hs => hforMe e.1 s hs,
    hdone.informed⟩
  · rw [notifySubscribers, if_pos hdel, hloop]
  · refine (hlisted.filter fun e s hs => congrArg (!·) (hforMe e.1 s hs)).congr fun e he => ?_
    obtain ⟨hmem, hkeep⟩ := List.mem_filter.mp he
    refine hdone.kept e.1 fun y hy htakes heq => ?_
    rw [heq] at htakes
    rw [htakes] at hkeep
    cases hkeep

end

theorem AgpsRsrcStatus.Told.taken {status : AgpsRsrcStatus} (h : status.Told) :
    status.taken = true := by
  cases status <;> first | rfl | exact h.elim

def AnySubscriber.agpsOf : AnySubscriber → Option Subscriber
  | agps s => some s
  | ds _ _ => none

def AnySubscriber.dsOf : AnySubscriber → Option DSSubscriber
  | agps _ => none
  | ds s _ => some s

/-- The group that a broadcast names. -/
def Target.groupID : Target → Option (BitVec 32)
  | .rcver _ => none
  | .broadcastAll => some Notification.broadcastAll
  | .broadcastActive => some Notification.broadcastActive
  | .broadcastInactive => some Notification.broadcastInactive

theorem Target.forMe_agps {target : Target} {groupID : BitVec 32}
    (hgroup : target.groupID = some groupID) (status : AgpsRsrcStatus)
    (objs : Nat → Option AnySubscriber) (s : Subscriber) :
    Notification.forMe ⟨none, groupID, status, true⟩ objs (.agps s) = some (s.forMe target) := by
  cases target with
  | rcver m => cases hgroup
  | broadcastAll | broadcastActive | broadcastInactive =>
      cases hgroup
      cases hinactive : s.isInactive <;>
        simp [Notification.forMe, Subscriber.forMe, AnySubscriber.isInactive, hinactive,
          Notification.broadcastAll, Notification.broadcastActive, Notification.broadcastInactive]

/-- The broadcasts of the state machine are those of the linked list: the same
subscribers are told, in order, and the same ones are left. -/
theorem broadcastDeleting_refined {m : AgpsStateMachine} {target : Target} {groupID : BitVec 32}
    {status : AgpsRsrcStatus} (hgroup : target.groupID = some groupID) (hstatus : status.Told)
    (hl : l.Holds q) (hnodup : (q.map Prod.fst).Nodup)
    (hlisted : Listed AnySubscriber.agpsOf c.objs q m.mSubscribers) :
    ∃ c' l' left told gone,
      Notification.notifySubscribers ⟨none, groupID, status, true⟩ c l = some (c', l') ∧
      l'.Holds left ∧
      Listed AnySubscriber.agpsOf c'.objs left (m.broadcastDeleting target status).mSubscribers ∧
      Listed AnySubscriber.agpsOf c.objs told gone ∧
      c'.informed = c.informed ++ told.map Prod.fst ∧
      (m.broadcastDeleting target status).log =
        m.log ++ gone.map (AgpsStateMachine.notice m.nif status) := by
  have htakes : ∀ a s, (c.objs a).bind AnySubscriber.agpsOf = some s →
      Notification.takes ⟨none, groupID, status, true⟩ c.objs a = s.forMe target := by
    intro a s hs
    obtain ⟨object, hobject, hview⟩ := Option.bind_eq_some_iff.mp hs
    cases object with
    | ds d tail => cases hview
    | agps s' =>
        cases hview
        rw [Notification.takes, Notification.addressed, hobject, hstatus.taken, Bool.and_true,
          Option.bind_some, Target.forMe_agps hgroup, Option.getD_some]
  obtain ⟨c', l', left, told, hrun, hleft, hkept, htold, hinformed⟩ :=
    Notification.notifySubscribers_listed rfl rfl hl hnodup hlisted htakes
  rw [AgpsStateMachine.broadcastDeleting_eq target hstatus]
  exact ⟨c', l', left, told, _, hrun, hleft, hkept, htold, hinformed, rfl⟩

/-- Whether a data-services subscriber is one that a notification is for. -/
def Target.forDs (target : Target) (s : DSSubscriber) : Bool :=
  match target with
  | .rcver m => s.ID = m.ID
  | .broadcastAll => true
  | .broadcastActive => !s.mIsInactive
  | .broadcastInactive => s.mIsInactive

theorem Target.forMe_ds {target : Target} {groupID : BitVec 32}
    (hgroup : target.groupID = some groupID) (status : AgpsRsrcStatus)
    (objs : Nat → Option AnySubscriber) (s : DSSubscriber) (tail : Bytes) :
    Notification.forMe ⟨none, groupID, status, true⟩ objs (.ds s tail) = some (target.forDs s) := by
  cases target with
  | rcver m => cases hgroup
  | broadcastAll | broadcastActive | broadcastInactive =>
      cases hgroup
      cases hinactive : s.mIsInactive <;>
        simp [Notification.forMe, Target.forDs, AnySubscriber.isInactive, hinactive,
          Notification.broadcastAll, Notification.broadcastActive, Notification.broadcastInactive]

/-- The same for the state machine of the data services. -/
theorem dsNotifyDeleting_refined {m : DSStateMachine} {target : Target} {groupID : BitVec 32}
    {status : AgpsRsrcStatus} (hgroup : target.groupID = some groupID) (hstatus : status.Told)
    (hl : l.Holds q) (hnodup : (q.map Prod.fst).Nodup)
    (hlisted : Listed AnySubscriber.dsOf c.objs q m.mSubscribers) :
    ∃ c' l' left told kept gone,
      Notification.notifySubscribers ⟨none, groupID, status, true⟩ c l = some (c', l') ∧
      l'.Holds left ∧ Listed AnySubscriber.dsOf c'.objs left kept ∧
      Listed AnySubscriber.dsOf c.objs told gone ∧
      c'.informed = c.informed ++ told.map Prod.fst ∧
      m.notifyDeleting target.forDs status =
        { m.informAll status gone with mSubscribers := kept } := by
  have htakes : ∀ a s, (c.objs a).bind AnySubscriber.dsOf = some s →
      Notification.takes ⟨none, groupID, status, true⟩ c.objs a = target.forDs s := by
    intro a s hs
    obtain ⟨object, hobject, hview⟩ := Option.bind_eq_some_iff.mp hs
    cases object with
    | agps s' => cases hview
    | ds d tail =>
        cases hview
        rw [Notification.takes, Notification.addressed, hobject, hstatus.taken, Bool.and_true,
          Option.bind_some, Target.forMe_ds hgroup, Option.getD_some]
  obtain ⟨c', l', left, told, hrun, hleft, hkept, htold, hinformed⟩ :=
    Notification.notifySubscribers_listed rfl rfl hl hnodup hlisted htakes
  refine ⟨c', l', left, told, _, _, hrun, hleft, hkept, htold, hinformed, ?_⟩
  rw [DSStateMachine.notifyDeleting, DSStateMachine.informAll_mSubscribers]

namespace Notification

/-- A notification informs the subscribers that take it, once each and in their
order. With `postNotifyDelete` it removes and deletes these, and the others stay
in the list as they were; without it nothing changes. No deleted object is
read. -/
theorem notifySubscribers_exact (n : Notification) (c : Objects) (l : ListState Nat Unit)
    (q : List (Entry Nat Unit)) (hl : l.Holds q) (hnodup : (q.map Prod.fst).Nodup)
    (hread : n.Readable c.objs q) (hsafe : n.Safe c.objs q) :
    ∃ c' l', n.notifySubscribers c l = some (c', l') ∧
      c'.informed = c.informed ++ (q.filter fun e => n.takes c.objs e.1).map Prod.fst ∧
      (n.postNotifyDelete = true → n.Deleted c c' l' q) ∧
      (n.postNotifyDelete = false → l' = l ∧ c'.objs = c.objs ∧ c'.deleted = c.deleted) := by
  cases hdel : n.postNotifyDelete with
  | true =>
      obtain ⟨nodes, hnodes, rfl⟩ := id hl
      obtain ⟨c', l', hloop, hdone⟩ := notifyDeletingFrom_deleted (k := l.live + 1) hdel hl (by
        rw [hnodes.live, List.length_map]
        exact Nat.lt_succ_self _) hnodup hread hsafe
      refine ⟨c', l', ?_, hdone.informed, fun _ => hdone, ?_⟩
      · rw [notifySubscribers, if_pos hdel, hloop]
      · intro h
        cases h
  | false =>
      obtain ⟨nodes, hnodes, rfl⟩ := hl
      have hsearch := hnodes.search n.notifySubscriber false false c
      rw [searchSeq_miss hread fun e _ => by rw [hdel, Bool.and_false]] at hsearch
      simp only at hsearch
      refine ⟨n.heard c (nodes.map Prod.snd), l, ?_, Objects.informed_heard n c _, ?_,
        fun _ => ⟨rfl, rfl, rfl⟩⟩
      · rw [notifySubscribers, if_neg (by rw [hdel]; exact Bool.false_ne_true), hsearch]
        rfl
      · intro h
        cases h

/-- Two ATL subscribers, and a third one that is not in the list. -/
def threeObjects : Objects where
  objs := fun a =>
    if a = 10 then some (.agps (.atl 1 false []))
    else if a = 20 then some (.agps (.atl 2 false []))
    else if a = 30 then some (.agps (.atl 1 false []))
    else none
  calls := []
  deleted := []

/-- The list of the first two. -/
def twoListed : ListState Nat Unit where
  pHead := some 1
  pTail := some 2
  elems := fun a =>
    if a = 1 then some ⟨some 2, none, 10, some ()⟩
    else if a = 2 then some ⟨none, some 1, 20, some ()⟩
    else none
  live := 2
  deallocated := []

theorem twoListed_holds : twoListed.Holds [(10, some ()), (20, some ())] := by
  refine ⟨[(1, (10, some ())), (2, (20, some ()))], ⟨⟨?_, ?_, by decide⟩, rfl, ?_⟩, rfl⟩
  · exact ⟨rfl, _, rfl, rfl, _, rfl, rfl⟩
  · exact ⟨rfl, _, rfl, rfl, _, rfl, rfl⟩
  · intro a e he
    rcases eq_or_ne a 1 with rfl | h1
    · exact List.mem_cons_self
    · rcases eq_or_ne a 2 with rfl | h2
      · exact List.mem_cons_of_mem _ List.mem_cons_self
      · simp only [twoListed, if_neg h1, if_neg h2] at he
        cases he

theorem twoListed_readable (n : Notification)
    (hrcver : ∀ p, n.rcver = some p → ∃ r, threeObjects.objs p = some r) :
    n.Readable threeObjects.objs [(10, some ()), (20, some ())] where
  listed := by
    intro e he
    rcases List.mem_cons.mp he with rfl | he
    · exact ⟨_, rfl⟩
    · rw [List.mem_singleton.mp he]
      exact ⟨_, rfl⟩
  rcver := fun p hp _ => hrcver p hp

theorem notifySubscribers_exact_denied : ∃ c' l',
    Notification.notifySubscribers ⟨none, broadcastAll, .denied, true⟩ threeObjects twoListed =
      some (c', l') ∧ c'.informed = [10, 20] := by
  obtain ⟨c', l', heq, hinformed, -, -⟩ :=
    notifySubscribers_exact ⟨none, broadcastAll, .denied, true⟩ threeObjects twoListed _
      twoListed_holds (by decide) (twoListed_readable _ fun p hp => by cases hp)
      fun _ p hp => by cases hp
  exact ⟨c', l', heq, hinformed⟩

/-- A subscriber that the notification is not for is called too, and where the
receiver is one of the list its deleted object is read again. -/
theorem notifySubscribers_calls_all :
    (∃ c' l', Notification.notifySubscribers ⟨some 30, -1, .granted, false⟩ threeObjects twoListed =
        some (c', l') ∧ (20, false) ∈ c'.calls) ∧
      Notification.addressed ⟨some 30, -1, .granted, false⟩ threeObjects.objs 20 = false ∧
      Notification.notifySubscribers ⟨some 10, -1, .unsubscribe, true⟩ threeObjects twoListed =
        none := by
  refine ⟨⟨_, _, rfl, ?_⟩, rfl, rfl⟩
  exact List.mem_cons_of_mem _ List.mem_cons_self

end Notification

end LibraDevice.Agps
