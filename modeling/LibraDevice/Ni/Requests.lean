import LibraDevice.Ni.Sessions
import Mathlib.Data.List.Nodup
import Mathlib.Data.List.Perm.Basic

/-!
The sessions with their workers, payloads and replies: what a request and the
user's response leave of them.
-/

namespace LibraDevice.Ni

open LibraDevice.StepRun

namespace Phase

/-- The critical section is still to come. -/
def Waits : Phase → Prop
  | .starting => True
  | .waiting _ => True
  | .leaving _ => False

end Phase

namespace SessionData

variable {d : SessionData}

theorem msg_eq_some {m : Msg} (h : d.msg = some m) :
    d.rawRequest = some m.mPayload ∧ m.mResponse = d.resp ∧ d.resp ≠ UserResponse.ignore := by
  rw [msg] at h
  split at h
  · cases h
  · next payload hraw =>
      rw [Option.ite_none_right_eq_some] at h
      obtain ⟨hresp, heq⟩ := h
      cases heq
      exact ⟨hraw, rfl, hresp⟩

theorem rawRequest_of_unsent {payload : Nat} (h : d.unsent = some payload) :
    d.rawRequest = some payload := by
  rw [unsent] at h
  split at h
  · cases h
  · next payload hraw =>
      rw [Option.ite_none_left_eq_some] at h
      rw [hraw, h.2]

theorem msg_or_unsent {payload : Nat} (h : d.rawRequest = some payload) :
    (∃ m, d.msg = some m ∧ m.mPayload = payload ∧ d.unsent = none) ∨
      d.msg = none ∧ d.unsent = some payload := by
  rw [msg, unsent, h]
  rcases eq_or_ne d.resp UserResponse.ignore with hresp | hresp
  · exact Or.inr ⟨if_neg (not_not_intro hresp), if_neg (not_not_intro hresp)⟩
  · exact Or.inl ⟨_, if_pos hresp, rfl, if_pos hresp⟩

end SessionData

namespace Sys

/-- A session is taken with a payload, and without a worker. -/
def Apart (s : Sys) : Act → Prop
  | .request emergency _ passThrough =>
      ∀ k ∈ s.sessionFor emergency,
        passThrough = true ∧ ∀ w < s.accepted.length, ∀ v ∈ s.worker w, v.pSession ≠ k
  | _ => True

instance instDecidableApart (s : Sys) : (a : Act) → Decidable (s.Apart a)
  | .request emergency _ passThrough =>
      inferInstanceAs (Decidable (∀ k ∈ s.sessionFor emergency,
        passThrough = true ∧ ∀ w < s.accepted.length, ∀ v ∈ s.worker w, v.pSession ≠ k))
  | .respond _ _ => isTrue trivial
  | .resetOnEngineRestart => isTrue trivial
  | .startWaiting _ => isTrue trivial
  | .wakeUp _ => isTrue trivial
  | .timeOut _ => isTrue trivial
  | .leave _ => isTrue trivial
  | .proc => isTrue trivial

/-- The payloads that are freed or in a message for the adapter. -/
def placed (s : Sys) : List Nat :=
  s.queue.map Msg.mPayload ++ s.freed

/-- A session has one worker, which is that of its request. -/
structure Threads (s : Sys) : Prop where
  known : ∀ w v, s.worker w = some v → w < s.accepted.length
  alone : ∀ w w' v v', s.worker w = some v → s.worker w' = some v' →
    v.pSession = v'.pSession → w = w'
  raw : ∀ k payload, (s.data k).rawRequest = some payload →
    ∃ phase, s.worker payload = some ⟨k, phase⟩ ∧ phase.Waits
  recvd : ∀ k, (s.data k).respRecvd = true →
    ∃ w phase, s.worker w = some ⟨k, phase⟩ ∧ phase.Waits
  reqID : ∀ k payload, (s.data k).rawRequest = some payload →
    ∃ request ∈ s.accepted[payload]?, (s.data k).reqID = request.notificationId
  hand : ∀ w k m, s.worker w = some ⟨k, .leaving (some m)⟩ → m.mPayload = w

/-- A payload is in its session, in the hand of its worker, in a message or
freed. -/
structure Payloads (s : Sys) : Prop where
  once : s.placed.Nodup
  known : ∀ payload ∈ s.placed, payload < s.accepted.length
  raw : ∀ k payload, (s.data k).rawRequest = some payload → payload ∉ s.placed
  hand : ∀ w k m, s.worker w = some ⟨k, .leaving (some m)⟩ → w ∉ s.placed
  all : ∀ payload < s.accepted.length, (∃ k, (s.data k).rawRequest = some payload) ∨
    (∃ k m, s.worker payload = some ⟨k, .leaving (some m)⟩) ∨ payload ∈ s.placed
  informed : ∀ m ∈ s.informed, m.mPayload ∈ s.freed
  informed_once : (s.informed.map Msg.mPayload).Nodup

/-- What a worker will send, or has sent, is an answer. -/
structure Replies (s : Sys) : Prop where
  recvd : ∀ k payload, (s.data k).respRecvd = true → (s.data k).rawRequest = some payload →
    (s.data k).resp ≠ UserResponse.ignore → s.Answer ⟨(s.data k).resp, payload⟩
  hand : ∀ w k m, s.worker w = some ⟨k, .leaving (some m)⟩ → s.Answer m
  sent : ∀ m ∈ s.queue ++ s.informed, s.Answer m

structure Sound (s : Sys) : Prop where
  threads : s.Threads
  payloads : s.Payloads
  replies : s.Replies

variable {s s' : Sys}

theorem Answer.mono {m : Msg} (h : s.Answer m) (haccepted : s.accepted <+: s'.accepted)
    (hresponds : ∀ call ∈ s.responds, call ∈ s'.responds)
    (htimedOut : ∀ w ∈ s.timedOut, w ∈ s'.timedOut) : s'.Answer m := by
  rcases h with ⟨hnoresp, htimed⟩ | ⟨request, hrequest, call, hcall, hanswer⟩
  · exact Or.inl ⟨hnoresp, htimedOut _ htimed⟩
  · obtain ⟨rest, hrest⟩ := haccepted
    refine Or.inr ⟨request, ?_, call, hresponds call hcall, hanswer⟩
    obtain ⟨hlt, -⟩ := List.getElem?_eq_some_iff.mp hrequest
    change _ = _
    rw [← hrest, List.getElem?_append_left hlt]
    exact hrequest

theorem Sound.init : init.Sound where
  threads :=
    { known := fun _ _ h => by cases h
      alone := fun _ _ _ _ h => by cases h
      raw := fun _ _ h => by cases h
      recvd := fun _ h => by cases h
      reqID := fun _ _ h => by cases h
      hand := fun _ _ _ h => by cases h }
  payloads :=
    { once := List.nodup_nil
      known := fun _ h => by cases h
      raw := fun _ _ h => by cases h
      hand := fun _ _ _ h => by cases h
      all := fun _ h => absurd h (Nat.not_lt_zero _)
      informed := fun _ h => by cases h
      informed_once := List.nodup_nil }
  replies :=
    { recvd := fun _ _ h => by cases h
      hand := fun _ _ _ h => by cases h
      sent := fun _ h => by cases h }

theorem Threads.own (h : s.Threads) {w payload : Nat} {k : Session} {phase : Phase}
    (hw : s.worker w = some ⟨k, phase⟩) (hraw : (s.data k).rawRequest = some payload) :
    payload = w := by
  obtain ⟨phase', hw', -⟩ := h.raw k payload hraw
  exact h.alone _ _ _ _ hw' hw rfl

theorem worker_update {f : Nat → Option Worker} {w w' : Nat} {o : Option Worker} {v : Worker}
    (h : Function.update f w o w' = some v) : w' = w ∧ o = some v ∨ w' ≠ w ∧ f w' = some v := by
  rcases eq_or_ne w' w with rfl | hne
  · rw [Function.update_self] at h
    exact Or.inl ⟨rfl, h⟩
  · rw [Function.update_of_ne hne] at h
    exact Or.inr ⟨hne, h⟩

theorem Threads.accept (h : s.Threads) {k : Session} (timeout : Int)
    (hfree : ∀ w v, s.worker w = some v → v.pSession ≠ k) :
    (s.accept k timeout true).Threads where
  known := by
    intro w v hw
    change w < (s.accepted ++ [_]).length
    rw [List.length_append]
    rcases worker_update hw with ⟨rfl, -⟩ | ⟨-, hw⟩
    · exact Nat.lt_add_one _
    · exact Nat.lt_add_right _ (h.known w v hw)
  alone := by
    intro w w' v v' hw hw' hsame
    rcases worker_update hw with ⟨rfl, hv⟩ | ⟨-, hw⟩ <;>
      rcases worker_update hw' with ⟨rfl, hv'⟩ | ⟨-, hw'⟩
    · rfl
    · cases hv
      exact absurd hsame.symm (hfree w' v' hw')
    · cases hv'
      exact absurd hsame (hfree w v hw)
    · exact h.alone w w' v v' hw hw' hsame
  raw := by
    intro k' payload hraw
    change (Function.update s.data k _ k').rawRequest = _ at hraw
    change ∃ phase, Function.update s.worker _ _ payload = _ ∧ _
    rcases eq_or_ne k' k with rfl | hne
    · rw [Function.update_self] at hraw
      cases hraw
      exact ⟨.starting, Function.update_self .., trivial⟩
    · rw [Function.update_of_ne hne] at hraw
      obtain ⟨phase, hw, hwaits⟩ := h.raw k' payload hraw
      refine ⟨phase, ?_, hwaits⟩
      rw [Function.update_of_ne (Nat.ne_of_lt (h.known _ _ hw)), hw]
  recvd := by
    intro k' hrecvd
    change (Function.update s.data k _ k').respRecvd = true at hrecvd
    change ∃ w phase, Function.update s.worker _ _ w = _ ∧ _
    have hold : (s.data k').respRecvd = true := by
      rcases eq_or_ne k' k with rfl | hne
      · rw [Function.update_self] at hrecvd
        exact hrecvd
      · rw [Function.update_of_ne hne] at hrecvd
        exact hrecvd
    obtain ⟨w, phase, hw, hwaits⟩ := h.recvd k' hold
    refine ⟨w, phase, ?_, hwaits⟩
    rw [Function.update_of_ne (Nat.ne_of_lt (h.known _ _ hw)), hw]
  reqID := by
    intro k' payload hraw
    change (Function.update s.data k _ k').rawRequest = _ at hraw
    change ∃ request ∈ (s.accepted ++ [_])[payload]?, (Function.update s.data k _ k').reqID = _
    rcases eq_or_ne k' k with rfl | hne
    · rw [Function.update_self] at hraw ⊢
      cases hraw
      exact ⟨_, List.getElem?_concat_length .., rfl⟩
    · rw [Function.update_of_ne hne] at hraw ⊢
      obtain ⟨request, hrequest, hid⟩ := h.reqID k' payload hraw
      obtain ⟨hlt, -⟩ := List.getElem?_eq_some_iff.mp hrequest
      refine ⟨request, ?_, hid⟩
      rw [List.getElem?_append_left hlt]
      exact hrequest
  hand := by
    intro w k' m hw
    rcases worker_update hw with ⟨-, hv⟩ | ⟨-, hw⟩
    · cases hv
    · exact h.hand w k' m hw

theorem Payloads.accept (h : s.Payloads) (ht : s.Threads) {k : Session} (timeout : Int)
    (hfree : ∀ w v, s.worker w = some v → v.pSession ≠ k) :
    (s.accept k timeout true).Payloads where
  once := h.once
  known := by
    intro payload hp
    change payload < (s.accepted ++ [_]).length
    rw [List.length_append]
    exact Nat.lt_add_right _ (h.known payload hp)
  raw := by
    intro k' payload hraw
    change (Function.update s.data k _ k').rawRequest = _ at hraw
    rcases eq_or_ne k' k with rfl | hne
    · rw [Function.update_self] at hraw
      cases hraw
      exact fun hp => Nat.lt_irrefl _ (h.known _ hp)
    · rw [Function.update_of_ne hne] at hraw
      exact h.raw k' payload hraw
  hand := by
    intro w k' m hw
    rcases worker_update hw with ⟨-, hv⟩ | ⟨-, hw⟩
    · cases hv
    · exact h.hand w k' m hw
  all := by
    intro payload hlt
    change payload < (s.accepted ++ [_]).length at hlt
    rw [List.length_append] at hlt
    change (∃ k', (Function.update s.data k _ k').rawRequest = _) ∨
      (∃ k' m, Function.update s.worker _ _ payload = some ⟨k', .leaving (some m)⟩) ∨ _
    rcases Nat.lt_succ_iff_lt_or_eq.mp hlt with hlt | rfl
    · rcases h.all payload hlt with ⟨k', hraw⟩ | ⟨k', m, hw⟩ | hp
      · refine Or.inl ⟨k', ?_⟩
        obtain ⟨phase, hw, -⟩ := ht.raw k' payload hraw
        rw [Function.update_of_ne (hfree _ _ hw), hraw]
      · refine Or.inr (Or.inl ⟨k', m, ?_⟩)
        rw [Function.update_of_ne (Nat.ne_of_lt hlt), hw]
      · exact Or.inr (Or.inr hp)
    · refine Or.inl ⟨k, ?_⟩
      rw [Function.update_self]
      rfl
  informed := h.informed
  informed_once := h.informed_once

theorem Replies.accept (h : s.Replies) (ht : s.Threads) {k : Session} (timeout : Int)
    (hfree : ∀ w v, s.worker w = some v → v.pSession ≠ k) :
    (s.accept k timeout true).Replies := by
  have hmono : ∀ m, s.Answer m → (s.accept k timeout true).Answer m := fun m hm =>
    hm.mono (List.prefix_append _ _) (fun _ hcall => hcall) fun _ hw => hw
  refine ⟨?_, ?_, fun m hm => hmono m (h.sent m hm)⟩
  · intro k' payload hrecvd hraw hresp
    change (Function.update s.data k _ k').respRecvd = true at hrecvd
    change (Function.update s.data k _ k').rawRequest = _ at hraw
    change (Function.update s.data k _ k').resp ≠ _ at hresp
    change (s.accept k timeout true).Answer ⟨(Function.update s.data k _ k').resp, payload⟩
    rcases eq_or_ne k' k with rfl | hne
    · rw [Function.update_self] at hrecvd
      obtain ⟨w, phase, hw, -⟩ := ht.recvd k' hrecvd
      exact absurd rfl (hfree w _ hw)
    · rw [Function.update_of_ne hne] at hrecvd hraw hresp ⊢
      exact hmono _ (h.recvd k' payload hrecvd hraw hresp)
  · intro w k' m hw
    rcases worker_update hw with ⟨-, hv⟩ | ⟨-, hw⟩
    · cases hv
    · exact hmono m (h.hand w k' m hw)

theorem Sound.request (h : s.Sound) {emergency passThrough : Bool} {timeout : Int}
    (hapart : s.Apart (.request emergency timeout passThrough)) :
    (s.request emergency timeout passThrough).Sound := by
  rw [Sys.request]
  split
  · exact h
  · next k hk =>
      obtain ⟨rfl, hworkers⟩ := hapart k hk
      have hfree : ∀ w v, s.worker w = some v → v.pSession ≠ k := fun w v hw =>
        hworkers w (h.threads.known w v hw) v hw
      exact ⟨h.threads.accept timeout hfree, h.payloads.accept h.threads timeout hfree,
        h.replies.accept h.threads timeout hfree⟩

theorem activeSession_eq_some {notifId : BitVec 32} {k : Session}
    (h : s.activeSession notifId = some k) :
    notifId = (s.data k).reqID ∧ (s.data k).rawRequest ≠ none := by
  rw [activeSession] at h
  split at h
  · next hes =>
      cases h
      exact hes
  · rw [Option.ite_none_right_eq_some] at h
    obtain ⟨hsession, heq⟩ := h
    cases heq
    exact hsession

theorem activeSession_ne_none {k : Session} (h : (s.data k).rawRequest ≠ none) :
    s.activeSession (s.data k).reqID ≠ none := by
  rw [activeSession]
  split
  · exact Option.some_ne_none _
  · next hes =>
      cases k with
      | sessionEs => exact absurd ⟨rfl, h⟩ hes
      | session =>
          rw [if_pos ⟨rfl, h⟩]
          exact Option.some_ne_none _

theorem Sound.call (h : s.Sound) (call : Call) :
    Sound { s with responds := s.responds ++ [call] } := by
  obtain ⟨⟨t1, t2, t3, t4, t5, t6⟩, ⟨p1, p2, p3, p4, p5, p6, p7⟩, hreplies⟩ := h
  refine ⟨⟨t1, t2, t3, t4, t5, t6⟩, ⟨p1, p2, p3, p4, p5, p6, p7⟩, ?_⟩
  have hmono : ∀ m, s.Answer m → Answer { s with responds := s.responds ++ [call] } m :=
    fun m hm => hm.mono (List.prefix_refl _) (fun _ hc => List.mem_append_left _ hc) fun _ hw => hw
  exact ⟨fun k p h1 h2 h3 => hmono _ (hreplies.recvd k p h1 h2 h3),
    fun w k m hw => hmono m (hreplies.hand w k m hw), fun m hm => hmono m (hreplies.sent m hm)⟩

theorem Sound.setResp (h : s.Sound) {k : Session} {payload : Nat} {resp : UserResponse}
    (hraw : (s.data k).rawRequest = some payload)
    (hresp : resp ≠ UserResponse.ignore → s.Answer ⟨resp, payload⟩) :
    Sound { s with data := Function.update s.data k ((s.data k).respond resp) } := by
  have hkeep : ∀ k', (Function.update s.data k ((s.data k).respond resp) k').rawRequest =
      (s.data k').rawRequest ∧ (Function.update s.data k ((s.data k).respond resp) k').reqID =
      (s.data k').reqID := by
    intro k'
    rcases eq_or_ne k' k with rfl | hne
    · rw [Function.update_self]
      exact ⟨rfl, rfl⟩
    · rw [Function.update_of_ne hne]
      exact ⟨rfl, rfl⟩
  obtain ⟨ht, hp, hreplies⟩ := h
  refine ⟨⟨ht.known, ht.alone, ?_, ?_, ?_, ht.hand⟩,
    ⟨hp.once, hp.known, ?_, hp.hand, ?_, hp.informed, hp.informed_once⟩,
    ⟨?_, hreplies.hand, hreplies.sent⟩⟩
  · intro k' p hraw'
    rw [(hkeep k').1] at hraw'
    exact ht.raw k' p hraw'
  · intro k' hrecvd
    simp only at hrecvd
    rcases eq_or_ne k' k with rfl | hne
    · obtain ⟨phase, hw, hwaits⟩ := ht.raw k' payload hraw
      exact ⟨payload, phase, hw, hwaits⟩
    · rw [Function.update_of_ne hne] at hrecvd
      exact ht.recvd k' hrecvd
  · intro k' p hraw'
    rw [(hkeep k').1] at hraw'
    simp only [(hkeep k').2]
    exact ht.reqID k' p hraw'
  · intro k' p hraw'
    rw [(hkeep k').1] at hraw'
    exact hp.raw k' p hraw'
  · intro p hlt
    rcases hp.all p hlt with ⟨k', hraw'⟩ | hrest
    · exact Or.inl ⟨k', (hkeep k').1.trans hraw'⟩
    · exact Or.inr hrest
  · intro k' p hrecvd hraw' hne'
    rw [(hkeep k').1] at hraw'
    simp only at hrecvd hne' ⊢
    rcases eq_or_ne k' k with rfl | hne
    · rw [Function.update_self] at hne' ⊢
      rw [hraw] at hraw'
      cases hraw'
      exact hresp hne'
    · rw [Function.update_of_ne hne] at hrecvd hne' ⊢
      exact hreplies.recvd k' p hrecvd hraw' hne'

theorem Sound.ignoreOther (h : s.Sound) (k : Session) (userResponse : UserResponse) :
    Sound { s with data := s.ignoreOther k userResponse } := by
  rw [Sys.ignoreOther]
  split
  · next hother =>
      obtain ⟨-, -, hraw⟩ := hother
      obtain ⟨payload, hraw⟩ := Option.ne_none_iff_exists'.mp hraw
      exact h.setResp hraw fun hne => absurd rfl hne
  · exact h

theorem ignoreOther_keeps (s : Sys) (k k' : Session) (userResponse : UserResponse) :
    (s.ignoreOther k userResponse k').rawRequest = (s.data k').rawRequest := by
  rw [Sys.ignoreOther]
  split
  · rcases eq_or_ne k' .session with rfl | hne
    · rw [Function.update_self]
      rfl
    · rw [Function.update_of_ne hne]
  · rfl

theorem Sound.respond (h : s.Sound) (notifId : BitVec 32) (userResponse : UserResponse) :
    (s.respond notifId userResponse).Sound := by
  rw [Sys.respond]
  have hcall := h.call ⟨notifId, userResponse, s.accepted.length⟩
  split
  · exact hcall
  · next k hk =>
      obtain ⟨rfl, hraw⟩ := activeSession_eq_some hk
      obtain ⟨payload, hraw⟩ := Option.ne_none_iff_exists'.mp hraw
      obtain ⟨request, hrequest, hid⟩ := h.threads.reqID k payload hraw
      obtain ⟨hlt, -⟩ := List.getElem?_eq_some_iff.mp hrequest
      refine (hcall.ignoreOther k userResponse).setResp
        ((ignoreOther_keeps s k k userResponse).trans hraw) fun _ => Or.inr ⟨request, hrequest, _,
          List.mem_append_right _ List.mem_cons_self, hid, rfl, hlt⟩

end Sys

end LibraDevice.Ni
