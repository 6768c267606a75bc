import LibraDevice.Ni.Requests

/-!
A session that is free may still have its last worker: after the critical
section until it leaves, and after an engine restart until it has woken up.
Where a session is taken only without a worker, each request gets its own
answer.
-/

namespace LibraDevice.Ni

open LibraDevice.StepRun

namespace Sys

variable {s s' : Sys}

theorem Sound.reset (h : s.Sound) (k : Session) : (s.reset k).Sound := by
  rw [Sys.reset]
  split
  · exact h
  · next payload hraw =>
      obtain ⟨ht, hp, hreplies⟩ := h
      obtain ⟨phase, hwork, hwaits⟩ := ht.raw k payload hraw
      have hold : ∀ {k' : Session} {p : Nat} {d : SessionData}, d.rawRequest = none →
          (Function.update s.data k d k').rawRequest = some p →
          k' ≠ k ∧ (s.data k').rawRequest = some p := by
        intro k' p d hd hraw'
        rcases eq_or_ne k' k with rfl | hne
        · rw [Function.update_self, hd] at hraw'
          cases hraw'
        · rw [Function.update_of_ne hne] at hraw'
          exact ⟨hne, hraw'⟩
      have hplaced : (s.queue.map Msg.mPayload ++ (s.freed ++ [payload])).Perm
          (payload :: s.placed) := by
        rw [placed, ← List.append_assoc]
        exact List.perm_append_singleton _ _
      refine ⟨⟨ht.known, ht.alone, ?_, ?_, ?_, ht.hand⟩, ⟨?_, ?_, ?_, ?_, ?_, ?_, hp.informed_once⟩,
        ⟨?_, hreplies.hand, hreplies.sent⟩⟩
      · intro k' p hraw'
        exact ht.raw k' p (hold rfl hraw').2
      · intro k' hrecvd
        simp only at hrecvd
        rcases eq_or_ne k' k with rfl | hne
        · exact ⟨payload, phase, hwork, hwaits⟩
        · rw [Function.update_of_ne hne] at hrecvd
          exact ht.recvd k' hrecvd
      · intro k' p hraw'
        obtain ⟨hne, hraw'⟩ := hold rfl hraw'
        simp only [Function.update_of_ne hne]
        exact ht.reqID k' p hraw'
      · exact hplaced.nodup_iff.mpr (List.nodup_cons.mpr ⟨hp.raw k payload hraw, hp.once⟩)
      · intro p hmem
        rcases List.mem_cons.mp (hplaced.subset hmem) with rfl | hmem
        · exact ht.known _ _ hwork
        · exact hp.known p hmem
      · intro k' p hraw' hmem
        obtain ⟨hne, hraw₀⟩ := hold rfl hraw'
        rcases List.mem_cons.mp (hplaced.subset hmem) with rfl | hmem
        · obtain ⟨phase', hwork', -⟩ := ht.raw k' p hraw₀
          rw [hwork] at hwork'
          cases hwork'
          exact hne rfl
        · exact hp.raw k' p hraw₀ hmem
      · intro w k' m hw hmem
        rcases List.mem_cons.mp (hplaced.subset hmem) with rfl | hmem
        · rw [hwork] at hw
          cases hw
          exact hwaits
        · exact hp.hand w k' m hw hmem
      · intro p hlt
        rcases hp.all p hlt with ⟨k', hraw'⟩ | hhand | hmem
        · rcases eq_or_ne k' k with rfl | hne
          · rw [hraw] at hraw'
            cases hraw'
            exact Or.inr (Or.inr (hplaced.symm.subset List.mem_cons_self))
          · refine Or.inl ⟨k', ?_⟩
            simp only [Function.update_of_ne hne, hraw']
        · exact Or.inr (Or.inl hhand)
        · exact Or.inr (Or.inr (hplaced.symm.subset (List.mem_cons_of_mem _ hmem)))
      · exact fun m hm => List.mem_append_left _ (hp.informed m hm)
      · intro k' p hrecvd hraw' hne'
        obtain ⟨hne, hraw'⟩ := hold rfl hraw'
        simp only [Function.update_of_ne hne] at hrecvd hne' ⊢
        exact hreplies.recvd k' p hrecvd hraw' hne'

theorem Threads.keep (h : s.Threads) {f : Nat → Option Worker}
    (hf : ∀ w v, f w = some v → ∃ v', s.worker w = some v' ∧ v'.pSession = v.pSession) :
    (∀ w v, f w = some v → w < s.accepted.length) ∧
      ∀ w w' v v', f w = some v → f w' = some v' → v.pSession = v'.pSession → w = w' := by
  constructor
  · intro w v hv
    obtain ⟨v', hv', -⟩ := hf w v hv
    exact h.known w v' hv'
  · intro w₁ w₂ v₁ v₂ hv₁ hv₂ heq
    obtain ⟨v₁', hv₁', heq₁⟩ := hf w₁ v₁ hv₁
    obtain ⟨v₂', hv₂', heq₂⟩ := hf w₂ v₂ hv₂
    exact h.alone w₁ w₂ v₁' v₂' hv₁' hv₂' (heq₁.trans (heq.trans heq₂.symm))

theorem worker_update_session {w : Nat} {k : Session} {phase : Phase} (phase' : Phase)
    (hw : s.worker w = some ⟨k, phase⟩) (w' : Nat) (v : Worker)
    (hv : Function.update s.worker w (some ⟨k, phase'⟩) w' = some v) :
    ∃ v', s.worker w' = some v' ∧ v'.pSession = v.pSession := by
  rcases worker_update hv with ⟨rfl, heq⟩ | ⟨-, hv⟩
  · cases heq
    exact ⟨_, hw, rfl⟩
  · exact ⟨v, hv, rfl⟩

theorem Sound.startWaiting (h : s.Sound) {w : Nat} {k : Session}
    (hw : s.worker w = some ⟨k, .starting⟩) (delay : Int) :
    Sound { s with worker := Function.update s.worker w (some ⟨k, .waiting delay⟩) } := by
  obtain ⟨ht, hp, hreplies⟩ := h
  have hwaits : ∀ {w' : Nat} {k' : Session} {phase : Phase}, phase.Waits →
      s.worker w' = some ⟨k', phase⟩ → ∃ phase', Function.update s.worker w
        (some ⟨k, .waiting delay⟩) w' = some ⟨k', phase'⟩ ∧ phase'.Waits := by
    intro w' k' phase hphase hw'
    rcases eq_or_ne w' w with rfl | hne
    · rw [hw] at hw'
      cases hw'
      exact ⟨_, Function.update_self .., trivial⟩
    · rw [Function.update_of_ne hne]
      exact ⟨phase, hw', hphase⟩
  obtain ⟨hknown, halone⟩ := ht.keep (worker_update_session _ hw)
  have hhand : ∀ {w' : Nat} {k' : Session} {m : Msg}, Function.update s.worker w
      (some ⟨k, .waiting delay⟩) w' = some ⟨k', .leaving (some m)⟩ →
        s.worker w' = some ⟨k', .leaving (some m)⟩ := by
    intro w' k' m hm
    rcases worker_update hm with ⟨-, heq⟩ | ⟨-, hm⟩
    · cases heq
    · exact hm
  refine ⟨⟨hknown, halone, ?_, ?_, ht.reqID, fun w' k' m hm => ht.hand w' k' m (hhand hm)⟩,
    ⟨hp.once, hp.known, hp.raw, fun w' k' m hm => hp.hand w' k' m (hhand hm), ?_, hp.informed,
      hp.informed_once⟩,
    ⟨hreplies.recvd, fun w' k' m hm => hreplies.hand w' k' m (hhand hm), hreplies.sent⟩⟩
  · intro k' p hraw
    obtain ⟨phase, hw', hphase⟩ := ht.raw k' p hraw
    exact hwaits hphase hw'
  · intro k' hrecvd
    obtain ⟨w', phase, hw', hphase⟩ := ht.recvd k' hrecvd
    exact ⟨w', hwaits hphase hw'⟩
  · intro p hlt
    rcases hp.all p hlt with hraw | ⟨k', m, hm⟩ | hmem
    · exact Or.inl hraw
    · refine Or.inr (Or.inl ⟨k', m, ?_⟩)
      have hne : p ≠ w := by
        rintro rfl
        rw [hw] at hm
        cases hm
      simp only [Function.update_of_ne hne, hm]
    · exact Or.inr (Or.inr hmem)

theorem leaving_inj {k k' : Session} {o o' : Option Msg}
    (h : some (Worker.mk k (.leaving o)) = some ⟨k', .leaving o'⟩) : k = k' ∧ o = o' := by
  injection h with h
  injection h with hk hphase
  injection hphase with ho
  exact ⟨hk, ho⟩

theorem Threads.finish (h : s.Threads) {w : Nat} {k : Session} {delay : Int}
    (hw : s.worker w = some ⟨k, .waiting delay⟩) {d : SessionData}
    (hd : d.rawRequest = (s.data k).rawRequest) : (s.finish w k d).Threads := by
  obtain ⟨hknown, halone⟩ := h.keep (worker_update_session (.leaving d.msg) hw)
  have hother : ∀ {k' : Session}, k' ≠ k → ∀ {w' : Nat} {phase : Phase},
      s.worker w' = some ⟨k', phase⟩ → w' ≠ w := by
    rintro k' hne w' phase hw' rfl
    rw [hw] at hw'
    cases hw'
    exact hne rfl
  refine ⟨hknown, halone, ?_, ?_, ?_, ?_⟩
  · intro k' p hraw
    change (Function.update s.data k _ k').rawRequest = _ at hraw
    change ∃ phase, Function.update s.worker w _ p = _ ∧ _
    rcases eq_or_ne k' k with rfl | hne
    · rw [Function.update_self] at hraw
      cases hraw
    · rw [Function.update_of_ne hne] at hraw
      obtain ⟨phase, hw', hwaits⟩ := h.raw k' p hraw
      refine ⟨phase, ?_, hwaits⟩
      rw [Function.update_of_ne (hother hne hw'), hw']
  · intro k' hrecvd
    change (Function.update s.data k _ k').respRecvd = true at hrecvd
    change ∃ w' phase, Function.update s.worker w _ w' = _ ∧ _
    rcases eq_or_ne k' k with rfl | hne
    · rw [Function.update_self] at hrecvd
      cases hrecvd
    · rw [Function.update_of_ne hne] at hrecvd
      obtain ⟨w', phase, hw', hwaits⟩ := h.recvd k' hrecvd
      refine ⟨w', phase, ?_, hwaits⟩
      rw [Function.update_of_ne (hother hne hw'), hw']
  · intro k' p hraw
    change (Function.update s.data k _ k').rawRequest = _ at hraw
    change ∃ request ∈ s.accepted[p]?, (Function.update s.data k _ k').reqID = _
    rcases eq_or_ne k' k with rfl | hne
    · rw [Function.update_self] at hraw
      cases hraw
    · rw [Function.update_of_ne hne] at hraw ⊢
      exact h.reqID k' p hraw
  · intro w' k' m hm
    rcases worker_update hm with ⟨rfl, heq⟩ | ⟨-, hm⟩
    · have hmsg : d.msg = some m := (leaving_inj heq).2
      exact h.own hw (hd.symm.trans (SessionData.msg_eq_some hmsg).1)
    · exact h.hand w' k' m hm

theorem Payloads.finish (h : s.Payloads) (ht : s.Threads) {w : Nat} {k : Session} {delay : Int}
    (hw : s.worker w = some ⟨k, .waiting delay⟩) {d : SessionData}
    (hd : d.rawRequest = (s.data k).rawRequest) : (s.finish w k d).Payloads := by
  have hplaced : (s.finish w k d).placed.Perm (d.unsent.toList ++ s.placed) := by
    change (s.queue.map Msg.mPayload ++ (s.freed ++ d.unsent.toList)).Perm _
    rw [placed, ← List.append_assoc]
    exact List.perm_append_comm
  have hunsent : ∀ p ∈ d.unsent.toList, p = w ∧ (s.data k).rawRequest = some p := by
    intro p hp
    have hraw := hd.symm.trans (SessionData.rawRequest_of_unsent (Option.mem_toList.mp hp))
    exact ⟨ht.own hw hraw, hraw⟩
  have hmem : ∀ p, p ∈ (s.finish w k d).placed ↔ p ∈ d.unsent.toList ∨ p ∈ s.placed := fun p =>
    hplaced.mem_iff.trans List.mem_append
  refine ⟨?_, ?_, ?_, ?_, ?_, fun m hm => List.mem_append_left _ (h.informed m hm), h.informed_once⟩
  · refine hplaced.nodup_iff.mpr (List.Nodup.append (by cases d.unsent <;> simp) h.once ?_)
    intro p hp
    exact h.raw k p (hunsent p hp).2
  · intro p hp
    rcases (hmem p).mp hp with hp | hp
    · rw [(hunsent p hp).1]
      exact ht.known w _ hw
    · exact h.known p hp
  · intro k' p hraw hp
    change (Function.update s.data k _ k').rawRequest = _ at hraw
    rcases eq_or_ne k' k with rfl | hne
    · rw [Function.update_self] at hraw
      cases hraw
    · rw [Function.update_of_ne hne] at hraw
      rcases (hmem p).mp hp with hp | hp
      · obtain ⟨phase, hw', -⟩ := ht.raw k' p hraw
        rw [(hunsent p hp).1, hw] at hw'
        cases hw'
        exact hne rfl
      · exact h.raw k' p hraw hp
  · intro w' k' m hm hp
    rcases worker_update hm with ⟨rfl, heq⟩ | ⟨hne, hm⟩
    · obtain ⟨hraw, -, -⟩ := SessionData.msg_eq_some (leaving_inj heq).2
      obtain ⟨m', hm', -, hnone⟩ | ⟨hnone, -⟩ := SessionData.msg_or_unsent hraw
      · have hown := ht.own hw (hd.symm.trans hraw)
        rcases (hmem w').mp hp with hp | hp
        · rw [hnone] at hp
          cases hp
        · exact h.raw k w' (hown ▸ hd.symm.trans hraw) hp
      · rw [(leaving_inj heq).2] at hnone
        cases hnone
    · rcases (hmem w').mp hp with hp | hp
      · exact hne (hunsent w' hp).1
      · exact h.hand w' k' m hm hp
  · intro p hlt
    change (∃ k', (Function.update s.data k _ k').rawRequest = _) ∨
      (∃ k' m, Function.update s.worker w _ p = some ⟨k', .leaving (some m)⟩) ∨ _
    rcases h.all p hlt with ⟨k', hraw⟩ | ⟨k', m, hm⟩ | hp
    · rcases eq_or_ne k' k with rfl | hne
      · obtain rfl := ht.own hw hraw
        rcases SessionData.msg_or_unsent (hd.trans hraw) with ⟨m, hmsg, -, -⟩ | ⟨-, hunsent'⟩
        · refine Or.inr (Or.inl ⟨k', m, ?_⟩)
          rw [Function.update_self, hmsg]
        · refine Or.inr (Or.inr ((hmem p).mpr (Or.inl ?_)))
          exact Option.mem_toList.mpr hunsent'
      · refine Or.inl ⟨k', ?_⟩
        rw [Function.update_of_ne hne, hraw]
    · have hne : p ≠ w := by
        rintro rfl
        rw [hw] at hm
        cases hm
      refine Or.inr (Or.inl ⟨k', m, ?_⟩)
      rw [Function.update_of_ne hne, hm]
    · exact Or.inr (Or.inr ((hmem p).mpr (Or.inr hp)))

theorem Replies.finish (h : s.Replies) {w : Nat} {k : Session} {d : SessionData}
    (hanswer : ∀ m, d.msg = some m → s.Answer m) : (s.finish w k d).Replies := by
  refine ⟨?_, ?_, h.sent⟩
  · intro k' p hrecvd hraw hresp
    change (Function.update s.data k _ k').respRecvd = true at hrecvd
    change (Function.update s.data k _ k').rawRequest = _ at hraw
    change (Function.update s.data k _ k').resp ≠ _ at hresp
    change s.Answer ⟨(Function.update s.data k _ k').resp, p⟩
    rcases eq_or_ne k' k with rfl | hne
    · rw [Function.update_self] at hrecvd
      cases hrecvd
    · rw [Function.update_of_ne hne] at hrecvd hraw hresp ⊢
      exact h.recvd k' p hrecvd hraw hresp
  · intro w' k' m hm
    rcases worker_update hm with ⟨-, heq⟩ | ⟨-, hm⟩
    · exact hanswer m (leaving_inj heq).2
    · exact h.hand w' k' m hm

theorem Sound.wakeUp (h : s.Sound) {w : Nat} {k : Session} {delay : Int}
    (hw : s.worker w = some ⟨k, .waiting delay⟩) (hrecvd : (s.data k).respRecvd = true) :
    (s.finish w k (s.data k)).Sound := by
  refine ⟨h.threads.finish hw rfl, h.payloads.finish h.threads hw rfl, h.replies.finish ?_⟩
  intro m hm
  obtain ⟨hraw, hresp, hne⟩ := SessionData.msg_eq_some hm
  have hanswer := h.replies.recvd k _ hrecvd hraw hne
  rw [← hresp] at hanswer
  exact hanswer

theorem Sound.timeOut (h : s.Sound) {w : Nat} {k : Session} {delay : Int}
    (hw : s.worker w = some ⟨k, .waiting delay⟩) :
    ({ s with timedOut := s.timedOut ++ [w] }.finish w k
      { s.data k with resp := UserResponse.noresp }).Sound := by
  have hlate : Sound { s with timedOut := s.timedOut ++ [w] } := by
    obtain ⟨⟨t1, t2, t3, t4, t5, t6⟩, ⟨p1, p2, p3, p4, p5, p6, p7⟩, hreplies⟩ := h
    have hmono : ∀ m, s.Answer m → Answer { s with timedOut := s.timedOut ++ [w] } m :=
      fun m hm => hm.mono (List.prefix_refl _) (fun _ hc => hc) fun _ hv =>
        List.mem_append_left _ hv
    exact ⟨⟨t1, t2, t3, t4, t5, t6⟩, ⟨p1, p2, p3, p4, p5, p6, p7⟩,
      ⟨fun k p h1 h2 h3 => hmono _ (hreplies.recvd k p h1 h2 h3),
        fun w k m hv => hmono m (hreplies.hand w k m hv),
        fun m hm => hmono m (hreplies.sent m hm)⟩⟩
  refine ⟨hlate.threads.finish hw rfl, hlate.payloads.finish hlate.threads hw rfl,
    hlate.replies.finish ?_⟩
  intro m hm
  obtain ⟨hraw, hresp, -⟩ := SessionData.msg_eq_some hm
  refine Or.inl ⟨hresp, ?_⟩
  rw [hlate.threads.own hw hraw]
  exact List.mem_append_right _ List.mem_cons_self

theorem Sound.leave (h : s.Sound) {w : Nat} {k : Session} {msg : Option Msg}
    (hw : s.worker w = some ⟨k, .leaving msg⟩) :
    Sound
      { s with
        data := Function.update s.data k { s.data k with respTimeLeft := 0, reqID := 0 }
        worker := Function.update s.worker w none
        queue := s.queue ++ msg.toList } := by
  obtain ⟨ht, hp, hreplies⟩ := h
  have hold : ∀ {w' : Nat} {v : Worker}, Function.update s.worker w none w' = some v →
      w' ≠ w ∧ s.worker w' = some v := by
    intro w' v hv
    rcases worker_update hv with ⟨-, heq⟩ | hv
    · cases heq
    · exact hv
  obtain ⟨hknown, halone⟩ := ht.keep fun w' v hv => ⟨v, (hold hv).2, rfl⟩
  have hkeep : ∀ k', (Function.update s.data k
      { s.data k with respTimeLeft := 0, reqID := 0 } k').rawRequest = (s.data k').rawRequest ∧
      (Function.update s.data k
        { s.data k with respTimeLeft := 0, reqID := 0 } k').respRecvd = (s.data k').respRecvd ∧
      (Function.update s.data k
        { s.data k with respTimeLeft := 0, reqID := 0 } k').resp = (s.data k').resp := by
    intro k'
    rcases eq_or_ne k' k with rfl | hne
    · rw [Function.update_self]
      exact ⟨rfl, rfl, rfl⟩
    · rw [Function.update_of_ne hne]
      exact ⟨rfl, rfl, rfl⟩
  have hwait : ∀ {w' : Nat} {k' : Session} {phase : Phase}, phase.Waits →
      s.worker w' = some ⟨k', phase⟩ → k' ≠ k ∧
        Function.update s.worker w none w' = some ⟨k', phase⟩ := by
    intro w' k' phase hwaits hw'
    have hne : w' ≠ w := by
      rintro rfl
      rw [hw] at hw'
      cases hw'
      exact hwaits
    refine ⟨fun heq => hne (ht.alone _ _ _ _ hw' hw heq), ?_⟩
    rw [Function.update_of_ne hne, hw']
  have hmsg : ∀ m ∈ msg.toList, m.mPayload = w ∧ s.Answer m := by
    intro m hm
    obtain rfl := Option.mem_toList.mp hm
    exact ⟨ht.hand w k m hw, hreplies.hand w k m hw⟩
  have hplaced : ((s.queue ++ msg.toList).map Msg.mPayload ++ s.freed).Perm
      (msg.toList.map Msg.mPayload ++ s.placed) := by
    rw [placed, List.map_append, List.append_assoc]
    exact List.perm_append_comm_assoc _ _ _
  have hnew : ∀ p ∈ msg.toList.map Msg.mPayload, p = w := by
    intro p hmem
    obtain ⟨m, hm, rfl⟩ := List.mem_map.mp hmem
    exact (hmsg m hm).1
  have hmem : ∀ p, p ∈ (s.queue ++ msg.toList).map Msg.mPayload ++ s.freed ↔
      p ∈ msg.toList.map Msg.mPayload ∨ p ∈ s.placed := fun p =>
    hplaced.mem_iff.trans List.mem_append
  refine ⟨⟨hknown, halone, ?_, ?_, ?_, ?_⟩, ⟨?_, ?_, ?_, ?_, ?_, hp.informed, hp.informed_once⟩,
    ⟨?_, ?_, ?_⟩⟩
  · intro k' p hraw
    obtain ⟨phase, hw', hwaits⟩ := ht.raw k' p ((hkeep k').1.symm.trans hraw)
    exact ⟨phase, (hwait hwaits hw').2, hwaits⟩
  · intro k' hrecvd
    obtain ⟨w', phase, hw', hwaits⟩ := ht.recvd k' ((hkeep k').2.1.symm.trans hrecvd)
    exact ⟨w', phase, (hwait hwaits hw').2, hwaits⟩
  · intro k' p hraw
    have hraw₀ := (hkeep k').1.symm.trans hraw
    obtain ⟨phase, hw', hwaits⟩ := ht.raw k' p hraw₀
    simp only [Function.update_of_ne (hwait hwaits hw').1]
    exact ht.reqID k' p hraw₀
  · exact fun w' k' m hm => ht.hand w' k' m (hold hm).2
  · refine hplaced.nodup_iff.mpr (List.Nodup.append (by cases msg <;> simp) hp.once ?_)
    intro p hmem hplace
    cases msg with
    | none => cases hmem
    | some m =>
        rw [hnew p hmem] at hplace
        exact hp.hand w k m hw hplace
  · intro p hplace
    rcases (hmem p).mp hplace with hplace | hplace
    · rw [hnew p hplace]
      exact ht.known w _ hw
    · exact hp.known p hplace
  · intro k' p hraw hplace
    have hraw₀ := (hkeep k').1.symm.trans hraw
    rcases (hmem p).mp hplace with hplace | hplace
    · obtain ⟨phase, hw', hwaits⟩ := ht.raw k' p hraw₀
      rw [hnew p hplace, hw] at hw'
      cases hw'
      exact hwaits
    · exact hp.raw k' p hraw₀ hplace
  · intro w' k' m hm hplace
    obtain ⟨hne, hm⟩ := hold hm
    rcases (hmem w').mp hplace with hplace | hplace
    · exact hne (hnew w' hplace)
    · exact hp.hand w' k' m hm hplace
  · intro p hlt
    rcases hp.all p hlt with ⟨k', hraw⟩ | ⟨k', m, hm⟩ | hplace
    · exact Or.inl ⟨k', (hkeep k').1.trans hraw⟩
    · rcases eq_or_ne p w with rfl | hne
      · rw [hw] at hm
        obtain ⟨-, rfl⟩ := leaving_inj hm
        refine Or.inr (Or.inr ((hmem p).mpr (Or.inl ?_)))
        exact List.mem_map.mpr ⟨m, Option.mem_toList.mpr rfl, ht.hand p k m hw⟩
      · refine Or.inr (Or.inl ⟨k', m, ?_⟩)
        simp only [Function.update_of_ne hne, hm]
    · exact Or.inr (Or.inr ((hmem p).mpr (Or.inr hplace)))
  · intro k' p hrecvd hraw hne
    simp only [(hkeep k').2.2] at hne ⊢
    exact hreplies.recvd k' p ((hkeep k').2.1.symm.trans hrecvd)
      ((hkeep k').1.symm.trans hraw) hne
  · exact fun w' k' m hm => hreplies.hand w' k' m (hold hm).2
  · intro m hm
    rcases List.mem_append.mp hm with hm | hm
    · rcases List.mem_append.mp hm with hm | hm
      · exact hreplies.sent m (List.mem_append_left _ hm)
      · exact (hmsg m hm).2
    · exact hreplies.sent m (List.mem_append_right _ hm)

theorem Sound.proc (h : s.Sound) {msg : Msg} {queue : List Msg} (hqueue : s.queue = msg :: queue) :
    Sound
      { s with
        queue := queue
        informed := s.informed ++ [msg]
        freed := s.freed ++ [msg.mPayload] } := by
  obtain ⟨ht, hp, hreplies⟩ := h
  have hplaced : (queue.map Msg.mPayload ++ (s.freed ++ [msg.mPayload])).Perm s.placed := by
    rw [placed, hqueue, ← List.append_assoc]
    exact List.perm_append_singleton _ _
  have hnot : msg.mPayload ∉ s.freed := by
    have honce := hp.once
    rw [placed, hqueue] at honce
    intro hmem
    exact List.disjoint_of_nodup_append honce List.mem_cons_self hmem
  refine ⟨⟨ht.known, ht.alone, ht.raw, ht.recvd, ht.reqID, ht.hand⟩,
    ⟨hplaced.nodup_iff.mpr hp.once, fun p hmem => hp.known p (hplaced.subset hmem),
      fun k p hraw hmem => hp.raw k p hraw (hplaced.subset hmem),
      fun w k m hm hmem => hp.hand w k m hm (hplaced.subset hmem), ?_, ?_, ?_⟩,
    ⟨hreplies.recvd, hreplies.hand, ?_⟩⟩
  · intro p hlt
    rcases hp.all p hlt with hraw | hhand | hmem
    · exact Or.inl hraw
    · exact Or.inr (Or.inl hhand)
    · exact Or.inr (Or.inr (hplaced.symm.subset hmem))
  · intro m hm
    rcases List.mem_append.mp hm with hm | hm
    · exact List.mem_append_left _ (hp.informed m hm)
    · rw [List.mem_singleton.mp hm]
      exact List.mem_append_right _ List.mem_cons_self
  · rw [List.map_append]
    refine (List.perm_append_singleton _ _).nodup_iff.mpr
      (List.nodup_cons.mpr ⟨?_, hp.informed_once⟩)
    intro hmem
    obtain ⟨m, hm, heq⟩ := List.mem_map.mp hmem
    exact hnot (heq ▸ hp.informed m hm)
  · intro m hm
    apply hreplies.sent
    rw [hqueue]
    rcases List.mem_append.mp hm with hm | hm
    · exact List.mem_append_left _ (List.mem_cons_of_mem _ hm)
    · rcases List.mem_append.mp hm with hm | hm
      · exact List.mem_append_right _ hm
      · rw [List.mem_singleton.mp hm]
        exact List.mem_append_left _ List.mem_cons_self

theorem Sound.step (h : s.Sound) {a : Act} (hapart : s.Apart a) (hstep : s.Steps a s') :
    s'.Sound := by
  rw [Steps] at hstep
  cases a with
  | request emergency timeout passThrough =>
      cases hstep
      exact h.request hapart
  | respond notifId userResponse =>
      cases hstep
      exact h.respond notifId userResponse
  | resetOnEngineRestart =>
      cases hstep
      exact (h.reset .sessionEs).reset .session
  | startWaiting w =>
      simp only [Sys.step] at hstep
      split at hstep
      · next k hw =>
          cases hstep
          exact h.startWaiting hw _
      · cases hstep
  | wakeUp w =>
      simp only [Sys.step] at hstep
      split at hstep
      · next k delay hw =>
          rw [Option.ite_none_right_eq_some] at hstep
          obtain ⟨hrecvd, heq⟩ := hstep
          cases heq
          exact h.wakeUp hw hrecvd
      · cases hstep
  | timeOut w =>
      simp only [Sys.step] at hstep
      split at hstep
      · next k delay hw =>
          cases hstep
          exact h.timeOut hw
      · cases hstep
  | leave w =>
      simp only [Sys.step] at hstep
      split at hstep
      · next k msg hw =>
          cases hstep
          exact h.leave hw
      · cases hstep
  | proc =>
      simp only [Sys.step] at hstep
      split at hstep
      · cases hstep
      · next msg queue hqueue =>
          cases hstep
          exact h.proc hqueue

theorem Sound.ownAnswers (h : s.Sound) : s.OwnAnswers := by
  obtain ⟨ht, hp, hreplies⟩ := h
  refine ⟨hp.informed_once, hp.once.of_append_right, ?_, hreplies.sent, ?_⟩
  · intro hended hqueue payload request hrequest _
    obtain ⟨hlt, -⟩ := List.getElem?_eq_some_iff.mp hrequest
    rcases hp.all payload hlt with ⟨k, hraw⟩ | ⟨k, m, hm⟩ | hmem
    · obtain ⟨phase, hw, -⟩ := ht.raw k payload hraw
      rw [hended] at hw
      cases hw
    · rw [hended] at hm
      cases hm
    · rw [placed, hqueue] at hmem
      exact hmem
  · intro payload request hrequest hunanswered
    obtain ⟨hfreed, hqueue, hhand⟩ := hunanswered
    obtain ⟨hlt, -⟩ := List.getElem?_eq_some_iff.mp hrequest
    rcases hp.all payload hlt with ⟨k, hraw⟩ | ⟨k, m, hm⟩ | hmem
    · obtain ⟨request', hrequest', hid⟩ := ht.reqID k payload hraw
      obtain rfl : request' = request := Option.some.inj (hrequest'.symm.trans hrequest)
      rw [← hid]
      apply activeSession_ne_none
      rw [hraw]
      exact Option.some_ne_none _
    · exact absurd (ht.hand payload k m hm) (hhand payload k m hm)
    · rcases List.mem_append.mp hmem with hmem | hmem
      · exact absurd hmem hqueue
      · exact absurd hmem hfreed

/-- In a run where sessions are taken only without a worker, each request gets
its own answer. -/
theorem run_ownAnswers {acts : List Act} (hrun : Run (Guarded Apart Steps) Sys.init acts s) :
    s.OwnAnswers := by
  have hsound : s.Sound := by
    refine hrun.invariant Sound.init ?_
    rintro s a s' hs ⟨hapart, hstep⟩
    exact hs.step hapart hstep
  exact hsound.ownAnswers

/-- Two requests are accepted one after the other; the second one is not
answered in time. -/
theorem run_ownAnswers_two :
    ∃ s : Sys,
      Run (Guarded Apart Steps) Sys.init
        [.request false 0 true, .startWaiting 0, .respond 1 UserResponse.accept, .wakeUp 0,
          .leave 0, .proc, .request false 30 true, .startWaiting 1, .timeOut 1, .leave 1,
          .proc] s ∧
      s.informed = [⟨UserResponse.accept, 0⟩, ⟨UserResponse.noresp, 1⟩] ∧ s.OwnAnswers := by
  let run : Option Sys :=
    [.request false 0 true, .startWaiting 0, .respond 1 UserResponse.accept, .wakeUp 0,
      .leave 0, .proc, .request false 30 true, .startWaiting 1, .timeOut 1, .leave 1,
      .proc].foldlM (fun s a => if s.Apart a then s.step a else none) Sys.init
  have hinformed : run.map (·.informed) =
      some [⟨UserResponse.accept, 0⟩, ⟨UserResponse.noresp, 1⟩] := by
    decide
  obtain ⟨s, hs, hinformed⟩ := Option.map_eq_some_iff.mp hinformed
  have hrun := Run.of_guarded_foldlM (fun _ _ _ h => h) hs
  exact ⟨s, hrun, hinformed, run_ownAnswers hrun⟩

/-- The engine restarts before the worker has woken up, and the worker of the
next request finds the answer to the last one. -/
theorem run_restart_swapped :
    ∃ s : Sys,
      Run Steps Sys.init
        [.request false 0 true, .startWaiting 0, .respond 1 UserResponse.accept,
          .resetOnEngineRestart, .request false 0 true, .startWaiting 1, .wakeUp 1, .leave 1,
          .proc] s ∧
      ¬ s.OwnAnswers := by
  let run : Option Sys :=
    [.request false 0 true, .startWaiting 0, .respond 1 UserResponse.accept,
      .resetOnEngineRestart, .request false 0 true, .startWaiting 1, .wakeUp 1, .leave 1,
      .proc].foldlM Sys.step Sys.init
  have hend : run.map (fun s => (s.informed, s.responds, s.accepted)) =
      some ([⟨UserResponse.accept, 1⟩], [⟨1, UserResponse.accept, 1⟩], [⟨1, true⟩, ⟨2, true⟩]) := by
    decide
  obtain ⟨s, hs, hend⟩ := Option.map_eq_some_iff.mp hend
  refine ⟨s, Run.of_foldlM (fun _ _ _ h => h) hs, fun hown => ?_⟩
  simp only [Prod.mk.injEq] at hend
  obtain ⟨hinformed, hresponds, haccepted⟩ := hend
  have hanswer := hown.answer ⟨UserResponse.accept, 1⟩
    (List.mem_append_right _ (hinformed ▸ List.mem_cons_self))
  rw [Answer, hresponds, haccepted] at hanswer
  rcases hanswer with ⟨hnoresp, -⟩ | ⟨request, hrequest, call, hcall, hid, -⟩
  · exact absurd hnoresp (by decide)
  · cases hrequest
    rw [List.mem_singleton.mp hcall] at hid
    exact absurd hid (by decide)

end Sys

end LibraDevice.Ni
