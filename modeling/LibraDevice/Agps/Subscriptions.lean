import LibraDevice.Agps.Changes
import LibraDevice.Lib.StepRun

/-!
Whether a subscription can get lost. The list recognises a subscriber by an
equality that compares ids across the classes and does not look at the inactive
flag; where that equality finds another entry than the subscriber's own active
one, a subscription is lost.
-/

namespace LibraDevice.Agps

open LibraDevice.StepRun

/-- A client of the interface. -/
inductive Client
  | bit (ipv4 : BitVec 32) (ipv6 : Bytes)
  | atl (id : BitVec 32)
  | wifi (senderId : IfReqSenderId)
deriving DecidableEq, Repr

/-- Whose subscriber this is. The IPv6 address identifies a BIT client that has
no IPv4 address. -/
def Subscriber.client : Subscriber → Client
  | .bit ipv4 mIPv6Addr => .bit ipv4 (if ipv4 = inaddrNone then cstr mIPv6Addr else [])
  | .atl id _ _ => .atl id
  | .wifi senderId _ _ _ _ => .wifi senderId

/-- The notifications that end a subscription. -/
def Effect.closes (k : Client) : Effect → Bool
  | .notified s status _ => s.client = k && (status = .denied || status = .released)
  | _ => false

/-- The notifications of the release. -/
def Effect.releases (k : Client) : Effect → Bool
  | .notified s status _ => s.client = k && status = .released
  | _ => false

def closings (k : Client) (log : List Effect) : Nat :=
  log.countP (·.closes k)

def releases (k : Client) (log : List Effect) : Nat :=
  log.countP (·.releases k)

/-- How an effect changes whether a client's last call was an accepted
subscription that has not been ended by a notification since. -/
def Effect.subscribedIn (k : Client) (b : Bool) : Effect → Bool
  | .subscribed s accepted => if s.client = k then accepted else b
  | .unsubscribed s _ => if s.client = k then false else b
  | e => b && !e.closes k

def subscribedIn (k : Client) (log : List Effect) : Bool :=
  log.foldl (Effect.subscribedIn k) false

/-- No subscription is lost, and who waits for the close is told of it once. -/
structure NoneLost (m : AgpsStateMachine) : Prop where
  subscription : ∀ k, subscribedIn k m.log = true →
    (∃ e ∈ m.mSubscribers, e.client = k ∧ e.isInactive = false) ∧ m.mState ≠ .released
  closing : ∀ pre s post, m.log = pre ++ .unsubscribed s true :: post →
    s.waitForCloseComplete = true →
    (∀ s' accepted, .subscribed s' accepted ∈ post → s'.client ≠ s.client) →
    closings s.client post =
        (if m.mSubscribers.any (·.client = s.client) then 0 else 1) ∧
      ((∀ state, .processed state .denied ∈ post → state ≠ .pending ∧ state ≠ .releasing) →
        releases s.client post = closings s.client post)

/-- A subscription is only taken for one that is listed if that is the client's
own, still active entry; an unsubscription deactivates, or takes from the list,
only entries of its own client. -/
def Clear (m : AgpsStateMachine) : Call → Prop
  | .subscribeRsrc s _ => m.refuses = false →
      (∃ e ∈ m.mSubscribers, e.equals s.memory = true) →
        ∃ e ∈ m.mSubscribers, e.client = s.client ∧ e.isInactive = false
  | .unsubscribeRsrc s freed => ∀ entry, m.entryOf s = some entry →
      (entry.waitForCloseComplete = true → entry.client = s.client ∨ entry.isInactive = true) ∧
      (entry.waitForCloseComplete = false → ∀ e ∈ m.mSubscribers,
        AgpsStateMachine.Named entry freed e → e.client = s.client)
  | _ => True

namespace Subscriber

@[simp] theorem clone_client (s : Subscriber) (tail : Bytes) :
    (s.clone tail).client = s.client := by
  cases s <;> rfl

@[simp] theorem setInactive_client (s : Subscriber) : s.setInactive.client = s.client := by
  cases s <;> rfl

@[simp] theorem setInactive_waits (s : Subscriber) :
    s.setInactive.waitForCloseComplete = s.waitForCloseComplete := by
  cases s <;> rfl

theorem ID_of_client {s s' : Subscriber} (h : s.client = s'.client) : s.ID = s'.ID := by
  cases s <;> cases s' <;> simp only [client, Client.bit.injEq, Client.atl.injEq,
    Client.wifi.injEq, reduceCtorEq] at h
  · exact h.1
  · exact h
  · exact congrArg IfReqSenderId.toId h

theorem waits_of_client {s s' : Subscriber} (h : s.client = s'.client) :
    s.waitForCloseComplete = s'.waitForCloseComplete := by
  cases s <;> cases s' <;> first | rfl | cases h

theorem client_of_ID {s s' : Subscriber} (hs : s.waitForCloseComplete = true)
    (hs' : s'.waitForCloseComplete = true) (h : s.ID = s'.ID) : s.client = s'.client := by
  cases s with
  | bit ipv4 addr => cases hs
  | atl id mode tail => cases hs
  | wifi sender ssid password inactive tail =>
      cases s' with
      | bit ipv4 addr => cases hs'
      | atl id mode tail => cases hs'
      | wifi sender' ssid' password' inactive' tail' =>
          change sender.toId = sender'.toId at h
          change Client.wifi sender = Client.wifi sender'
          revert h
          cases sender <;> cases sender' <;> decide

end Subscriber

section

variable {k : Client} {log new : List Effect}

theorem subscribedIn_append :
    subscribedIn k (log ++ new) = new.foldl (Effect.subscribedIn k) (subscribedIn k log) :=
  List.foldl_append

theorem Effect.Quiet.closes {e : Effect} (h : e.Quiet) : e.closes k = false := by
  cases e with
  | notified s status message =>
      simp only [Effect.closes, decide_eq_false h.1, decide_eq_false h.2, Bool.or_self,
        Bool.and_false]
  | subscribed s accepted => rfl
  | unsubscribed s found => rfl
  | processed state event => rfl
  | requested r => rfl

theorem Effect.Quiet.subscribedIn {e : Effect} (h : e.Quiet) (b : Bool) :
    e.subscribedIn k b = b := by
  have hc := h.closes (k := k)
  cases e with
  | subscribed s accepted => exact h.elim
  | unsubscribed s found => exact h.elim
  | processed state event => exact Bool.and_true b
  | requested r => exact Bool.and_true b
  | notified s status message =>
      change (b && !Effect.closes k (.notified s status message)) = b
      rw [hc, Bool.not_false, Bool.and_true]

theorem foldl_quiet (h : ∀ e ∈ new, e.Quiet) (b : Bool) :
    new.foldl (Effect.subscribedIn k) b = b := by
  induction new generalizing b with
  | nil => rfl
  | cons e new ih =>
      rw [List.foldl_cons, (h e List.mem_cons_self).subscribedIn]
      exact ih (fun e' he' => h e' (List.mem_cons_of_mem _ he')) b

theorem closings_append : closings k (log ++ new) = closings k log + closings k new :=
  List.countP_append

theorem releases_append : releases k (log ++ new) = releases k log + releases k new :=
  List.countP_append

theorem releases_le_closings : releases k log ≤ closings k log := by
  refine List.countP_mono_left fun e _ h => ?_
  cases e with
  | notified s status message =>
      simp only [Effect.releases, Effect.closes, Bool.and_eq_true, Bool.or_eq_true] at h ⊢
      exact ⟨h.1, Or.inr h.2⟩
  | subscribed s accepted => cases h
  | unsubscribed s found => cases h
  | processed state event => cases h
  | requested r => cases h

theorem closings_quiet (h : ∀ e ∈ new, e.Quiet) : closings k new = 0 :=
  List.countP_eq_zero.mpr fun e he => by simp [(h e he).closes]

theorem releases_of_no_closing (h : closings k new = 0) : releases k new = closings k new :=
  Nat.le_antisymm releases_le_closings (by rw [h]; exact Nat.zero_le _)

variable {nif : Nif} {status : AgpsRsrcStatus} {l : List Subscriber}

theorem foldl_notices (hs : status = .denied ∨ status = .released) (b : Bool) :
    (l.map (AgpsStateMachine.notice nif status)).foldl (Effect.subscribedIn k) b =
      (b && !l.any (·.client = k)) := by
  have hstatus : (decide (status = .denied) || decide (status = .released)) = true := by
    simpa using hs
  induction l generalizing b with
  | nil => simp
  | cons s l ih =>
      rw [List.map_cons, List.foldl_cons, ih]
      simp only [AgpsStateMachine.notice, Effect.subscribedIn, Effect.closes, hstatus,
        Bool.and_true, List.any_cons, Bool.not_or, Bool.and_assoc]

theorem closings_notices (hs : status = .denied ∨ status = .released) :
    closings k (l.map (AgpsStateMachine.notice nif status)) = l.countP (·.client = k) := by
  have hstatus : (decide (status = .denied) || decide (status = .released)) = true := by
    simpa using hs
  rw [closings, List.countP_map]
  refine List.countP_congr fun s _ => ?_
  simp only [AgpsStateMachine.notice, Function.comp_apply, Effect.closes, hstatus, Bool.and_true]

theorem releases_notices :
    releases k (l.map (AgpsStateMachine.notice nif .released)) = l.countP (·.client = k) := by
  rw [releases, List.countP_map]
  refine List.countP_congr fun s _ => ?_
  simp only [AgpsStateMachine.notice, Function.comp_apply, Effect.releases, decide_true,
    Bool.and_true]

end

namespace AgpsStateMachine

variable {m m' : AgpsStateMachine} {c : Call}

/-- Every client that is subscribed has an active entry. -/
def Listed (m : AgpsStateMachine) : Prop :=
  ∀ k, subscribedIn k m.log = true →
    ∃ e ∈ m.mSubscribers, e.client = k ∧ e.isInactive = false

theorem Change.listed (hc : Change m c m') (hclear : Clear m c) (h : Listed m) : Listed m' := by
  intro k hk
  cases hc with
  | quiet new hnew hlog hsubs =>
      rw [hlog, subscribedIn_append, foldl_quiet hnew] at hk
      rw [hsubs]
      exact h k hk
  | refused s tail hrefuses hlog hsubs =>
      rw [hlog, subscribedIn_append] at hk
      rw [hsubs]
      by_cases hs : s.client = k
      · simp [Effect.subscribedIn, notice, Effect.closes, hs] at hk
      · simp [Effect.subscribedIn, notice, Effect.closes, hs] at hk
        exact h k hk
  | joined s tail new hnew haccepts hlog hsubs =>
      rw [hlog, subscribedIn_append, List.foldl_cons, foldl_quiet hnew] at hk
      by_cases hs : s.client = k
      · subst hs
        rcases hsubs with ⟨hex, heq⟩ | ⟨-, heq⟩
        · rw [heq]
          exact hclear haccepts hex
        · rw [heq]
          exact ⟨s.clone tail, List.mem_cons_self, Subscriber.clone_client s tail,
            Subscriber.clone_isInactive s tail⟩
      · rw [Effect.subscribedIn, if_neg hs] at hk
        obtain ⟨e, he, hek⟩ := h k hk
        rcases hsubs with ⟨-, heq⟩ | ⟨-, heq⟩
        · rw [heq]
          exact ⟨e, he, hek⟩
        · rw [heq]
          exact ⟨e, List.mem_cons_of_mem _ he, hek⟩
  | missed s freed hlog hsubs =>
      rw [hlog, subscribedIn_append, List.foldl_cons, List.foldl_nil, Effect.subscribedIn] at hk
      rw [hsubs]
      split at hk
      · cases hk
      · exact h k hk
  | left s entry freed new hnew hentry hlog hwaits hdropped =>
      rw [hlog, subscribedIn_append, List.foldl_cons, foldl_quiet hnew, Effect.subscribedIn] at hk
      split at hk
      · cases hk
      · next hs =>
          obtain ⟨e, he, hek, hi⟩ := h k hk
          obtain ⟨hcw, hcd⟩ := hclear entry hentry
          cases hw : entry.waitForCloseComplete with
          | true =>
              rw [hwaits hw]
              refine ⟨e, mem_replace_of_ne he ?_, hek, hi⟩
              rintro rfl
              rcases hcw hw with hcl | hin
              · exact hs (hcl.symm.trans hek)
              · rw [hi] at hin
                cases hin
          | false =>
              rcases (hdropped hw).2 e he with hin | hnamed
              · exact ⟨e, hin, hek, hi⟩
              · exact absurd ((hcd hw e he hnamed).symm.trans hek) hs
  | told group status new hnew hgroup hstatus hlog hsubs =>
      have hclosing : status = .denied ∨ status = .released := hstatus.imp_left And.left
      rw [hlog, subscribedIn_append, List.foldl_cons, List.foldl_append, foldl_quiet hnew,
        foldl_notices hclosing, Effect.Quiet.subscribedIn (e := .processed m.mState status) trivial,
        Bool.and_eq_true, Bool.not_eq_true', List.any_eq_false] at hk
      obtain ⟨e, he, hek, hi⟩ := h k hk.1
      have hout : e.forMe group = false := by
        by_contra hin
        exact hk.2 e (List.mem_filter.mpr ⟨he, by simpa using hin⟩) (by simpa using hek)
      rw [hsubs]
      exact ⟨e, List.mem_filter.mpr ⟨he, by simp [hout]⟩, hek, hi⟩

/-- A client that waits is listed, inactive, and has not been told of the
close, or has been told once and is gone. -/
def Settled (l : List Subscriber) (k : Client) (post : List Effect) : Prop :=
  (closings k post = 0 ∧ (∃ e ∈ l, e.client = k) ∧
      ∀ e ∈ l, e.client = k → e.isInactive = true) ∨
    (closings k post = 1 ∧ ∀ e ∈ l, e.client ≠ k)

theorem Settled.quiet {l : List Subscriber} {k : Client} {post new : List Effect}
    (h : Settled l k post) (hnew : closings k new = 0) : Settled l k (post ++ new) := by
  rw [Settled, closings_append, hnew, Nat.add_zero]
  exact h

theorem countP_client {l : List Subscriber} (hd : Distinct l) {s : Subscriber}
    (hs : s.waitForCloseComplete = true) (hex : ∃ e ∈ l, e.client = s.client) :
    l.countP (·.client = s.client) = 1 := by
  have hone : l.countP (·.client = s.client) ≤ 1 := by
    clear hex
    induction l with
    | nil => simp
    | cons e l ih =>
        obtain ⟨he, hl⟩ := List.pairwise_cons.mp hd
        by_cases hek : e.client = s.client
        · have hzero : l.countP (·.client = s.client) = 0 := by
            refine List.countP_eq_zero.mpr fun x hx hxk => ?_
            have hxs : x.client = s.client := by simpa using hxk
            have hid : e.ID = x.ID := Subscriber.ID_of_client (hek.trans hxs.symm)
            have hwe : e.waitForCloseComplete = true := (Subscriber.waits_of_client hek).trans hs
            exact Subscriber.ID_ne_of_waits hwe (he x hx hid)
          rw [List.countP_cons, hzero]
          split <;> decide
        · rw [List.countP_cons_of_neg (by simpa using hek)]
          exact ih hl
  obtain ⟨e, he, hek⟩ := hex
  have hpos : 0 < l.countP (·.client = s.client) :=
    List.countP_pos_iff.mpr ⟨e, he, by simpa using hek⟩
  omega

theorem Settled.told {l : List Subscriber} {s : Subscriber} {post : List Effect} {group : Target}
    (hgroup : group = .broadcastAll ∨ group = .broadcastInactive) (hd : Distinct l)
    (hs : s.waitForCloseComplete = true) (h : Settled l s.client post) {new : List Effect}
    (hnew : closings s.client new = (l.filter (·.forMe group)).countP (·.client = s.client)) :
    Settled (l.filter fun e => !e.forMe group) s.client (post ++ new) := by
  rw [Settled, closings_append, hnew]
  rcases h with ⟨hzero, ⟨e, he, hek⟩, hall⟩ | ⟨hone, hnone⟩
  · refine Or.inr ⟨?_, ?_⟩
    · have hin : e.forMe group = true := by
        rcases hgroup with rfl | rfl
        · rfl
        · exact hall e he hek
      rw [hzero, Nat.zero_add]
      exact countP_client (List.Pairwise.sublist List.filter_sublist hd) hs
        ⟨e, List.mem_filter.mpr ⟨he, hin⟩, hek⟩
    · intro x hx hxk
      obtain ⟨hxl, hout⟩ := List.mem_filter.mp hx
      have hin : x.forMe group = true := by
        rcases hgroup with rfl | rfl
        · rfl
        · exact hall x hxl hxk
      simp [hin] at hout
  · refine Or.inr ⟨?_, fun x hx => hnone x (List.mem_filter.mp hx).1⟩
    have hzero : (l.filter (·.forMe group)).countP (·.client = s.client) = 0 := by
      refine List.countP_eq_zero.mpr fun x hx hxk => ?_
      exact hnone x (List.mem_filter.mp hx).1 (by simpa using hxk)
    rw [hzero, hone]

theorem Settled.left {l l' : List Subscriber} {s entry : Subscriber} {k : Client}
    {freed : Nat → Memory} {post : List Effect} (h : Settled l k post) (hentry : entry ∈ l)
    (hk : ∀ e : Subscriber, e.client = k → e.waitForCloseComplete = true)
    (hwaits : entry.waitForCloseComplete = true → l' = l.replace entry entry.setInactive)
    (hdropped : entry.waitForCloseComplete = false →
      l'.Sublist l ∧ ∀ e ∈ l, e ∈ l' ∨ Named entry freed e)
    (hclear : entry.waitForCloseComplete = false →
      ∀ e ∈ l, Named entry freed e → e.client = s.client) :
    Settled l' k post := by
  cases hw : entry.waitForCloseComplete with
  | true =>
      rw [hwaits hw]
      have hset := Subscriber.setInactive_isInactive hw
      rcases h with ⟨hzero, ⟨e, he, hek⟩, hall⟩ | ⟨hone, hnone⟩
      · refine Or.inl ⟨hzero, ?_, ?_⟩
        · by_cases heq : e = entry
          · exact ⟨entry.setInactive, mem_replace_new hentry, by
              rw [Subscriber.setInactive_client, ← heq, hek]⟩
          · exact ⟨e, mem_replace_of_ne he heq, hek⟩
        · intro x hx hxk
          rcases mem_of_mem_replace hx with rfl | hx
          · exact hset
          · exact hall x hx hxk
      · refine Or.inr ⟨hone, fun x hx => ?_⟩
        rcases mem_of_mem_replace hx with rfl | hx
        · rw [Subscriber.setInactive_client]
          exact hnone entry hentry
        · exact hnone x hx
  | false =>
      obtain ⟨hsub, hkept⟩ := hdropped hw
      rcases h with ⟨hzero, ⟨e, he, hek⟩, hall⟩ | ⟨hone, hnone⟩
      · refine Or.inl ⟨hzero, ?_, fun x hx => hall x (hsub.subset hx)⟩
        rcases hkept e he with hin | hnamed
        · exact ⟨e, hin, hek⟩
        · -- what is taken along is of the client that leaves, which does not wait
          have hes := hclear hw e he hnamed
          have hself := hclear hw entry hentry (Or.inl (Subscriber.equals_memory entry))
          rw [hk entry (hself.trans (hes.symm.trans hek))] at hw
          cases hw
      · exact Or.inr ⟨hone, fun x hx => hnone x (hsub.subset hx)⟩

theorem Change.settled (hc : Change m c m') (hclear : Clear m c) (hd : Distinct m.mSubscribers)
    {s : Subscriber} (hs : s.waitForCloseComplete = true) {post : List Effect}
    (h : Settled m.mSubscribers s.client post) :
    ∃ new, m'.log = m.log ++ new ∧
      ((∀ s' accepted, .subscribed s' accepted ∈ new → s'.client ≠ s.client) →
        Settled m'.mSubscribers s.client (post ++ new) ∧
          ((∀ state, .processed state .denied ∈ new → state ≠ .pending ∧ state ≠ .releasing) →
            releases s.client new = closings s.client new)) := by
  have hfirst : ∀ {e : Effect} {new : List Effect}, e.closes s.client = false →
      (∀ e ∈ new, e.Quiet) → closings s.client (e :: new) = 0 := by
    intro e new he hnew
    rw [closings, List.countP_cons_of_neg (by simp [he])]
    exact closings_quiet hnew
  cases hc with
  | quiet new hnew hlog hsubs =>
      refine ⟨new, hlog, fun _ => ⟨?_, fun _ => releases_of_no_closing (closings_quiet hnew)⟩⟩
      rw [hsubs]
      exact h.quiet (closings_quiet hnew)
  | refused s' tail hrefuses hlog hsubs =>
      refine ⟨_, hlog, fun hno => ?_⟩
      have hne := hno s' false List.mem_cons_self
      have hzero : closings s.client [.subscribed s' false, notice m.nif .denied s'] = 0 := by
        simp [closings, notice, Effect.closes, hne]
      rw [hsubs]
      exact ⟨h.quiet hzero, fun _ => releases_of_no_closing hzero⟩
  | joined s' tail new hnew haccepts hlog hsubs =>
      refine ⟨_, hlog, fun hno => ?_⟩
      have hne := hno s' true List.mem_cons_self
      have hzero := hfirst (e := .subscribed s' true) rfl hnew
      refine ⟨?_, fun _ => releases_of_no_closing hzero⟩
      rcases hsubs with ⟨-, heq⟩ | ⟨-, heq⟩
      · rw [heq]
        exact h.quiet hzero
      · rw [heq]
        have hclone : (s'.clone tail).client ≠ s.client := by
          rw [Subscriber.clone_client]
          exact hne
        refine Settled.quiet ?_ hzero
        rcases h with ⟨h0, ⟨e, he, hek⟩, hall⟩ | ⟨h1, hnone⟩
        · refine Or.inl ⟨h0, ⟨e, List.mem_cons_of_mem _ he, hek⟩, fun x hx hxk => ?_⟩
          rcases List.mem_cons.mp hx with rfl | hx
          · exact absurd hxk hclone
          · exact hall x hx hxk
        · refine Or.inr ⟨h1, fun x hx => ?_⟩
          rcases List.mem_cons.mp hx with rfl | hx
          · exact hclone
          · exact hnone x hx
  | missed s' freed hlog hsubs =>
      have hzero := hfirst (e := .unsubscribed s' false) rfl quiet_nil
      refine ⟨_, hlog, fun _ => ⟨?_, fun _ => releases_of_no_closing hzero⟩⟩
      rw [hsubs]
      exact h.quiet hzero
  | left s' entry freed new hnew hentry hlog hwaits hdropped =>
      have hzero := hfirst (e := .unsubscribed s' true) rfl hnew
      refine ⟨_, hlog, fun _ => ⟨?_, fun _ => releases_of_no_closing hzero⟩⟩
      refine Settled.quiet ?_ hzero
      exact h.left (List.mem_of_find?_eq_some hentry)
        (fun e he => (Subscriber.waits_of_client he).trans hs) hwaits hdropped
        (hclear entry hentry).2
  | told group status new hnew hgroup hstatus hlog hsubs =>
      have hclosing : status = .denied ∨ status = .released := hstatus.imp_left And.left
      have hcount : closings s.client (.processed m.mState status ::
          ((m.mSubscribers.filter (·.forMe group)).map (notice m.nif status) ++ new)) =
          (m.mSubscribers.filter (·.forMe group)).countP (·.client = s.client) := by
        have htold : closings s.client
            ((m.mSubscribers.filter (·.forMe group)).map (notice m.nif status)) = _ :=
          closings_notices hclosing
        rw [← htold]
        change closings s.client ([_] ++ (_ ++ new)) = _
        rw [closings_append, closings_append, closings_quiet hnew,
          closings_quiet (quiet_singleton (e := .processed m.mState status) trivial),
          Nat.zero_add, Nat.add_zero]
      refine ⟨_, hlog, fun _ => ⟨?_, fun hno => ?_⟩⟩
      · rw [hsubs]
        exact h.told hgroup hd hs hcount
      · rcases hstatus with ⟨rfl, hstate⟩ | rfl
        · have := hno m.mState List.mem_cons_self
          rcases hstate with hp | hp
          · exact absurd hp this.1
          · exact absurd hp this.2
        · rw [hcount]
          change releases s.client ([_] ++ (_ ++ new)) = _
          have hquiet := releases_of_no_closing (k := s.client) (closings_quiet hnew)
          rw [releases_append, releases_append, releases_notices, hquiet, closings_quiet hnew]
          change 0 + _ = _
          rw [Nat.zero_add, Nat.add_zero]

theorem Change.waiting (hc : Change m c m') (hclear : Clear m c) (hd : Distinct m'.mSubscribers)
    {s : Subscriber} (hs : s.waitForCloseComplete = true) {a post : List Effect}
    (hlog : m'.log = m.log ++ (a ++ .unsubscribed s true :: post)) :
    Settled m'.mSubscribers s.client post ∧ closings s.client post = 0 := by
  have hmem : .unsubscribed s true ∈ a ++ .unsubscribed s true :: post :=
    List.mem_append_right _ List.mem_cons_self
  cases hc with
  | quiet new hnew hlog' hsubs =>
      rw [hlog', List.append_cancel_left_eq] at hlog
      rw [← hlog] at hmem
      exact (hnew _ hmem).elim
  | refused s' tail hrefuses hlog' hsubs =>
      rw [hlog', List.append_cancel_left_eq] at hlog
      rw [← hlog] at hmem
      simp [notice] at hmem
  | joined s' tail new hnew haccepts hlog' hsubs =>
      rw [hlog', List.append_cancel_left_eq] at hlog
      rw [← hlog] at hmem
      rcases List.mem_cons.mp hmem with heq | hin
      · cases heq
      · exact (hnew _ hin).elim
  | missed s' freed hlog' hsubs =>
      rw [hlog', List.append_cancel_left_eq] at hlog
      rw [← hlog] at hmem
      simp at hmem
  | told group status new hnew hgroup hstatus hlog' hsubs =>
      rw [hlog', List.append_cancel_left_eq] at hlog
      rw [← hlog] at hmem
      rcases List.mem_cons.mp hmem with heq | hin
      · cases heq
      · rcases List.mem_append.mp hin with hin | hin
        · obtain ⟨e, -, heq⟩ := List.mem_map.mp hin
          cases heq
        · exact (hnew _ hin).elim
  | left s' entry freed new hnew hentry hlog' hwaits hdropped =>
      rw [hlog', List.append_cancel_left_eq] at hlog
      obtain ⟨rfl, rfl⟩ : s' = s ∧ new = post := by
        cases a with
        | nil =>
            simp only [List.nil_append, List.cons.injEq, Effect.unsubscribed.injEq,
              and_true] at hlog
            exact hlog
        | cons e a =>
            simp only [List.cons_append, List.cons.injEq] at hlog
            have hin : .unsubscribed s true ∈ new := by
              rw [hlog.2]
              exact List.mem_append_right _ List.mem_cons_self
            exact (hnew _ hin).elim
      have hin : entry ∈ m.mSubscribers := List.mem_of_find?_eq_some hentry
      have heq : entry.forMe (.rcver s'.memory) = true := List.find?_some hentry
      change entry.equals s'.memory = true at heq
      have hid : entry.ID = s'.ID := by
        rw [Subscriber.ID_of_equals heq, Subscriber.memory_ID]
      have hw : entry.waitForCloseComplete = true := by
        by_contra hno
        have hw : entry.waitForCloseComplete = false := by simpa using hno
        have hself := (hclear entry hentry).2 hw entry hin
          (Or.inl (Subscriber.equals_memory entry))
        exact hno ((Subscriber.waits_of_client hself).trans hs)
      have hclient := Subscriber.client_of_ID hw hs hid
      have hset := Subscriber.setInactive_isInactive hw
      have hnew' : entry.setInactive ∈ m'.mSubscribers := by
        rw [hwaits hw]
        exact mem_replace_new hin
      refine ⟨Or.inl ⟨closings_quiet hnew, ⟨_, hnew', ?_⟩, fun x hx hxk => ?_⟩,
        closings_quiet hnew⟩
      · rw [Subscriber.setInactive_client, hclient]
      · have hxid : x.ID = entry.setInactive.ID := by
          rw [Subscriber.setInactive_ID, hid, Subscriber.ID_of_client hxk]
        rw [hd.eq_of_ID hnew' hx (by rw [Subscriber.setInactive_waits, hw]) hxid]
        exact hset

theorem Change.log (hc : Change m c m') : ∃ new, m'.log = m.log ++ new := by
  cases hc with
  | quiet new hnew hlog hsubs => exact ⟨_, hlog⟩
  | refused s tail hrefuses hlog hsubs => exact ⟨_, hlog⟩
  | joined s tail new hnew haccepts hlog hsubs => exact ⟨_, hlog⟩
  | missed s freed hlog hsubs => exact ⟨_, hlog⟩
  | left s entry freed new hnew hentry hlog hwaits hdropped => exact ⟨_, hlog⟩
  | told group status new hnew hgroup hstatus hlog hsubs => exact ⟨_, hlog⟩

theorem Change.distinct (hc : Change m c m') (h : Distinct m.mSubscribers) :
    Distinct m'.mSubscribers := by
  cases hc with
  | quiet new hnew hlog hsubs => rwa [hsubs]
  | refused s tail hrefuses hlog hsubs => rwa [hsubs]
  | missed s freed hlog hsubs => rwa [hsubs]
  | joined s tail new hnew haccepts hlog hsubs =>
      rcases hsubs with ⟨-, heq⟩ | ⟨hno, heq⟩
      · rwa [heq]
      · rw [heq]
        exact h.cons tail hno
  | left s entry freed new hnew hentry hlog hwaits hdropped =>
      cases hw : entry.waitForCloseComplete with
      | true =>
          rw [hwaits hw]
          exact h.replace entry
      | false => exact List.Pairwise.sublist (hdropped hw).1 h
  | told group status new hnew hgroup hstatus hlog hsubs =>
      rw [hsubs]
      exact List.Pairwise.sublist List.filter_sublist h

/-- What holds along a run of clear calls. -/
structure Faithful (m : AgpsStateMachine) : Prop where
  orderly : Orderly m
  distinct : Distinct m.mSubscribers
  listed : Listed m
  closing : ∀ pre s post, m.log = pre ++ .unsubscribed s true :: post →
    s.waitForCloseComplete = true →
    (∀ s' accepted, .subscribed s' accepted ∈ post → s'.client ≠ s.client) →
    Settled m.mSubscribers s.client post ∧
      ((∀ state, .processed state .denied ∈ post → state ≠ .pending ∧ state ≠ .releasing) →
        releases s.client post = closings s.client post)

theorem Faithful.init (single : Bool) (nif : Nif) :
    Faithful (AgpsStateMachine.init single nif) where
  orderly := Orderly.init single nif
  distinct := List.Pairwise.nil
  listed := by intro k hk; cases hk
  closing := by
    intro pre s post hlog
    exact absurd hlog.symm (by simp [AgpsStateMachine.init])

theorem Faithful.call (h : Faithful m) (hclear : Clear m c) : Faithful (m.call c) := by
  have hc := call_change h.orderly c
  refine ⟨call_orderly h.orderly c, hc.distinct h.distinct, hc.listed hclear h.listed, ?_⟩
  intro pre s post hlog hs hno
  -- the unsubscription was made before this call or in it
  have hold : ∀ rest new, m.log = pre ++ .unsubscribed s true :: rest →
      (m.call c).log = m.log ++ new → post = rest ++ new →
      Settled (m.call c).mSubscribers s.client post ∧
        ((∀ state, .processed state .denied ∈ post → state ≠ .pending ∧ state ≠ .releasing) →
          releases s.client post = closings s.client post) := by
    rintro rest new hrest hnew rfl
    obtain ⟨hsettled, hrel⟩ := h.closing pre s rest hrest hs fun s' accepted hin =>
      hno s' accepted (List.mem_append_left _ hin)
    obtain ⟨new', hnew', hstep⟩ := hc.settled hclear h.distinct hs hsettled
    rw [hnew, List.append_cancel_left_eq] at hnew'
    subst hnew'
    obtain ⟨hset, hrel'⟩ := hstep fun s' accepted hin =>
      hno s' accepted (List.mem_append_right _ hin)
    refine ⟨hset, fun hden => ?_⟩
    rw [releases_append, closings_append,
      hrel fun state hin => hden state (List.mem_append_left _ hin),
      hrel' fun state hin => hden state (List.mem_append_right _ hin)]
  have hinside : ∀ a, (m.call c).log = m.log ++ (a ++ .unsubscribed s true :: post) →
      Settled (m.call c).mSubscribers s.client post ∧
        ((∀ state, .processed state .denied ∈ post → state ≠ .pending ∧ state ≠ .releasing) →
          releases s.client post = closings s.client post) := by
    intro a ha
    obtain ⟨hset, hzero⟩ := hc.waiting hclear (hc.distinct h.distinct) hs ha
    exact ⟨hset, fun _ => releases_of_no_closing hzero⟩
  obtain ⟨new, hnew⟩ := hc.log
  rw [hnew] at hlog
  rcases List.append_eq_append_iff.mp hlog with ⟨a, rfl, ha⟩ | ⟨a, ha, hpost⟩
  · exact hinside a (by rw [hnew, ha])
  · cases a with
    | nil =>
        rw [List.nil_append] at hpost
        exact hinside [] (by rw [hnew, hpost, List.nil_append])
    | cons e a =>
        rw [List.cons_append, List.cons.injEq] at hpost
        obtain ⟨rfl, rfl⟩ := hpost
        exact hold a new ha hnew rfl

theorem Faithful.noneLost (h : Faithful m) : NoneLost m where
  subscription := by
    intro k hk
    obtain ⟨e, he, hek⟩ := h.listed k hk
    refine ⟨⟨e, he, hek⟩, fun hr => ?_⟩
    rw [h.orderly.released hr] at he
    cases he
  closing := by
    intro pre s post hlog hs hno
    obtain ⟨hset, hrel⟩ := h.closing pre s post hlog hs hno
    refine ⟨?_, hrel⟩
    rcases hset with ⟨hzero, ⟨e, he, hek⟩, -⟩ | ⟨hone, hnone⟩
    · rw [if_pos (List.any_eq_true.mpr ⟨e, he, by simpa using hek⟩), hzero]
    · rw [if_neg, hone]
      intro hany
      obtain ⟨e, he, hek⟩ := List.any_eq_true.mp hany
      exact hnone e he (by simpa using hek)

/-- In a run of clear calls no subscription is lost. -/
theorem run_noneLost (single : Bool) (nif : Nif) {calls : List Call}
    (h : Run (Guarded Clear fun m c m' => m' = m.call c) (AgpsStateMachine.init single nif)
      calls m) : NoneLost m := by
  have hfaithful : Faithful m := by
    refine h.invariant (Faithful.init single nif) ?_
    rintro m c m' hm ⟨hclear, rfl⟩
    exact hm.call hclear
  exact hfaithful.noneLost

/-- A WIFI requester subscribes, is granted the interface, leaves and is told
of the release. -/
theorem run_noneLost_wifi :
    NoneLost ((AgpsStateMachine.init false ⟨.supl, none, .invalid⟩).run
      [.subscribeRsrc (.wifi .quipc none none false []) [], .granted,
        .unsubscribeRsrc (.wifi .quipc none none false []) (fun _ => ⟨0, []⟩), .released]) := by
  let m₀ := AgpsStateMachine.init false ⟨.supl, none, .invalid⟩
  let m₂ := m₀.run [.subscribeRsrc (.wifi .quipc none none false []) [], .granted]
  have hjoin : Clear m₀ (.subscribeRsrc (.wifi .quipc none none false []) []) := by
    rintro - ⟨e, he, -⟩
    cases he
  have hleave : Clear m₂
      (.unsubscribeRsrc (.wifi .quipc none none false []) (fun _ => ⟨0, []⟩)) := by
    intro entry hentry
    have hfound : m₂.entryOf (.wifi .quipc none none false []) =
        some (.wifi .quipc none none false []) := by decide
    obtain rfl := Option.some.inj (hfound.symm.trans hentry)
    exact ⟨fun _ => Or.inl rfl, fun hw => by cases hw⟩
  have hgranted : ∀ m, Clear m .granted := fun _ => trivial
  have hreleased : ∀ m, Clear m .released := fun _ => trivial
  exact run_noneLost false ⟨.supl, none, .invalid⟩
    ((((Run.nil.snoc ⟨hjoin, rfl⟩).snoc ⟨hgranted _, rfl⟩).snoc ⟨hleave, rfl⟩).snoc
      ⟨hreleased _, rfl⟩)

/-- A WIFI requester that waits for the close subscribes again: its inactive
entry stays the only one. -/
theorem run_resubscribed_lost :
    ¬ NoneLost ((AgpsStateMachine.init false ⟨.supl, none, .invalid⟩).run
      [.subscribeRsrc (.wifi .quipc none none false []) [], .granted,
        .unsubscribeRsrc (.wifi .quipc none none false []) (fun _ => ⟨0, []⟩),
        .subscribeRsrc (.wifi .quipc none none false []) []]) := by
  intro h
  have hactive := (h.subscription (.wifi .quipc) (by decide)).1
  revert hactive
  decide

end AgpsStateMachine

end LibraDevice.Agps
