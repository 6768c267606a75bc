import LibraDevice.Netlink.Single
import Mathlib.Tactic.SplitIfs

/-!
The events of messages whose contents say the same, and the buffer of one
message.
-/

namespace LibraDevice.Netlink

open LibraDevice.Bytes
open LibraDevice.Records

variable {ifName : Word → Bool}

/-- From `s` and `t` the same events have been posted, and the mask that the next
route finds is the same. -/
structure Follows (type : MsgType) (s t s' t' : State) : Prop where
  msg : s'.msg = s.msg
  posted : ∃ new, s'.posted = s.posted ++ new ∧ t'.posted = t.posted ++ new
  mask : type = .newRoute → s'.ifIpipv4AddrMask = t'.ifIpipv4AddrMask

variable {type : MsgType} {s t s' t' : State} {a b : NlMsg}

theorem Follows.of_posted (hmsg : s'.msg = s.msg) (hs : s'.posted = s.posted)
    (ht : t'.posted = t.posted)
    (hmask : type = .newRoute → s'.ifIpipv4AddrMask = t'.ifIpipv4AddrMask) :
    Follows type s t s' t' where
  msg := hmsg
  posted := ⟨[], hs.trans (List.append_nil _).symm, ht.trans (List.append_nil _).symm⟩
  mask := hmask

theorem Follows.refl (hmask : type = .newRoute → s.ifIpipv4AddrMask = t.ifIpipv4AddrMask) :
    Follows type s t s t :=
  Follows.of_posted rfl rfl rfl hmask

theorem Follows.post (h : Follows type s t s' t') {e e' : Event} (he : e = e') :
    Follows type s t (s'.post e) (t'.post e') where
  msg := h.msg
  posted := by
    obtain ⟨new, hs, ht⟩ := h.posted
    refine ⟨new ++ [e], ?_, ?_⟩
    · rw [State.post, hs, List.append_assoc]
    · rw [State.post, ht, List.append_assoc, he]
  mask := h.mask

theorem neighData_same {a b : NeighInfo} (h : a.Same b) : neighData a = neighData b := by
  obtain ⟨haeq, hhead, hall⟩ := h
  have hfamily : a.localFamily = b.localFamily := by rw [haeq]
  have hindex : a.ndmIfindex = b.ndmIfindex := by rw [haeq]
  have hmac : a.lladdrHwaddr = b.lladdrHwaddr := by rw [haeq]
  simp only [neighData, hindex, hmac]
  rw [← hfamily]
  split_ifs with h6
  · rw [hall h6]
  · rw [hhead]
  · rfl

theorem newAddr_same (h : a.nlAddrInfo.Same b.nlAddrInfo) :
    (newAddr { s with msg := a }).Rel
      (Follows .newAddr { s with msg := a } { t with msg := b })
      (newAddr { t with msg := b }) := by
  obtain ⟨haeq, hhead, hall⟩ := h
  have hfamily : a.nlAddrInfo.prefixFamily = b.nlAddrInfo.prefixFamily := by rw [haeq]
  have hindex : a.nlAddrInfo.ifaIndex = b.nlAddrInfo.ifaIndex := by rw [haeq]
  have hrefl : Follows .newAddr { s with msg := a } { t with msg := b } { s with msg := a }
      { t with msg := b } := Follows.refl fun htype => nomatch htype
  apply hrefl.post
  simp only [hindex]
  rw [← hfamily]
  split_ifs with h6
  · rw [hall h6]
  · rw [hhead]

theorem delLink_same (h : a.nlLinkInfo = b.nlLinkInfo) :
    (delLink ifName { s with msg := a }).Rel
      (Follows .delLink { s with msg := a } { t with msg := b })
      (delLink ifName { t with msg := b }) := by
  have hrefl : Follows .delLink { s with msg := a } { t with msg := b } { s with msg := a }
      { t with msg := b } := Follows.refl fun htype => nomatch htype
  simp only [delLink, h]
  split_ifs
  · exact hrefl
  · exact hrefl.post rfl

theorem newLink_same (h : a.nlLinkInfo = b.nlLinkInfo) :
    (newLink ifName { s with msg := a }).Rel
      (Follows .newLink { s with msg := a } { t with msg := b })
      (newLink ifName { t with msg := b }) := by
  have hrefl : Follows .newLink { s with msg := a } { t with msg := b } { s with msg := a }
      { t with msg := b } := Follows.refl fun htype => nomatch htype
  simp only [newLink, h]
  split_ifs
  any_goals exact hrefl
  any_goals exact hrefl.post rfl
  all_goals exact (hrefl.post rfl).post rfl

theorem neigh_same {event : EventDataAll → Event} (htype : type ≠ .newRoute)
    (h : a.nlNeighInfo.Same b.nlNeighInfo) :
    (neigh ifName event { s with msg := a }).Rel
      (Follows type { s with msg := a } { t with msg := b })
      (neigh ifName event { t with msg := b }) := by
  have hrefl : Follows type { s with msg := a } { t with msg := b } { s with msg := a }
      { t with msg := b } := Follows.refl fun heq => (htype heq).elim
  have hindex : a.nlNeighInfo.ndmIfindex = b.nlNeighInfo.ndmIfindex := by rw [h.1]
  simp only [neigh, hindex, neighData_same h]
  split_ifs
  · exact hrefl.post rfl
  · exact hrefl

theorem RouteInfo.Same.eq_of_v6 {x y : RouteInfo} (h : x.Same y) (h6 : x.rtmFamily = afInet6) :
    x = y := by
  rw [h.1, h.2.2 h6]

theorem RouteInfo.Same.kernel {x y : RouteInfo} (h : x.Same y) : x.Kernel ↔ y.Kernel := by
  rw [h.1]
  exact Iff.rfl

theorem RouteInfo.Same.boot {x y : RouteInfo} (h : x.Same y) : x.Boot ↔ y.Boot := by
  rw [h.1]
  exact Iff.rfl

theorem v4AddrMask_same {x y : RouteInfo} (h : x.Same y) (mask : Word) :
    v4AddrMask x (x.dstAddr 0) mask = v4AddrMask y (y.dstAddr 0) mask := by
  have hoif : x.oifIndex = y.oifIndex := by rw [h.1]
  rw [v4AddrMask, v4AddrMask, hoif, h.2.1]

section

variable (h : a.nlRouteInfo.Same b.nlRouteInfo)

include h

theorem newRouteBoot_same (hmask : s.ifIpipv4AddrMask = t.ifIpipv4AddrMask) :
    (newRouteBoot ifName { s with msg := a }).Rel
      (Follows .newRoute { s with msg := a } { t with msg := b })
      (newRouteBoot ifName { t with msg := b }) := by
  have hoif : a.nlRouteInfo.oifIndex = b.nlRouteInfo.oifIndex := by rw [h.1]
  have hdst : a.nlRouteInfo.dst = b.nlRouteInfo.dst := by rw [h.1]
  have hfamily : a.nlRouteInfo.rtmFamily = b.nlRouteInfo.rtmFamily := by rw [h.1]
  simp only [newRouteBoot, hoif, hdst]
  rw [← hfamily]
  split_ifs with _ _ h6
  · exact Follows.refl fun _ => hmask
  · change Follows _ _ _ (State.post _ _) (State.post _ _)
    apply Follows.post
    · exact Follows.of_posted rfl rfl rfl fun _ => hmask
    · rw [v4AddrMask_same h, hmask]
  · change Follows _ _ _ (State.post _ _) (State.post _ _)
    apply Follows.post
    · exact Follows.refl fun _ => hmask
    · rw [h.eq_of_v6 h6]
  · change Follows _ _ _ (State.post _ _) (State.post _ _)
    apply Follows.post
    · exact Follows.of_posted rfl rfl rfl fun _ => h.2.1
    · rw [v4AddrMask_same h, h.2.1]

theorem newRouteKernel_same (hkernel : a.nlRouteInfo.Kernel)
    (hmask : s.ifIpipv4AddrMask = t.ifIpipv4AddrMask) :
    (newRouteKernel ifName { s with msg := a }).Rel
      (Follows .newRoute { s with msg := a } { t with msg := b })
      (newRouteKernel ifName { t with msg := b }) := by
  have hrefl : Follows .newRoute { s with msg := a } { t with msg := b } { s with msg := a }
      { t with msg := b } := Follows.refl fun _ => hmask
  simp only [newRouteKernel, h.eq_of_v6 hkernel.1]
  split_ifs
  any_goals exact hrefl
  any_goals exact hrefl.post rfl
  exact (hrefl.post rfl).post rfl

theorem delRouteBoot_same :
    (delRouteBoot ifName { s with msg := a }).Rel
      (Follows .delRoute { s with msg := a } { t with msg := b })
      (delRouteBoot ifName { t with msg := b }) := by
  have hrefl : Follows .delRoute { s with msg := a } { t with msg := b } { s with msg := a }
      { t with msg := b } := Follows.refl fun htype => nomatch htype
  have hoif : a.nlRouteInfo.oifIndex = b.nlRouteInfo.oifIndex := by rw [h.1]
  have hdst : a.nlRouteInfo.dst = b.nlRouteInfo.dst := by rw [h.1]
  have hfamily : a.nlRouteInfo.rtmFamily = b.nlRouteInfo.rtmFamily := by rw [h.1]
  simp only [delRouteBoot, hoif, hdst]
  rw [← hfamily]
  split_ifs with _ _ h6
  · exact hrefl
  · change Follows _ _ _ (State.post _ _) (State.post _ _)
    apply Follows.post
    · exact Follows.of_posted rfl rfl rfl nofun
    · rw [v4AddrMask_same h]
  · refine hrefl.post ?_
    rw [h.eq_of_v6 h6]
  · refine hrefl.post ?_
    rw [v4AddrMask_same h, h.2.1]

theorem delRouteKernel_same (hkernel : a.nlRouteInfo.Kernel) :
    (delRouteKernel ifName { s with msg := a }).Rel
      (Follows .delRoute { s with msg := a } { t with msg := b })
      (delRouteKernel ifName { t with msg := b }) := by
  have hrefl : Follows .delRoute { s with msg := a } { t with msg := b } { s with msg := a }
      { t with msg := b } := Follows.refl fun htype => nomatch htype
  simp only [delRouteKernel, h.eq_of_v6 hkernel.1]
  split_ifs
  · exact hrefl
  · exact hrefl.post rfl
  · exact hrefl

theorem route_same {boot kernel : State → Visit State}
    (hboot : (boot { s with msg := a }).Rel
      (Follows type { s with msg := a } { t with msg := b }) (boot { t with msg := b }))
    (hkernel : a.nlRouteInfo.Kernel → (kernel { s with msg := a }).Rel
      (Follows type { s with msg := a } { t with msg := b }) (kernel { t with msg := b }))
    (hmask : type = .newRoute → s.ifIpipv4AddrMask = t.ifIpipv4AddrMask) :
    (route boot kernel { s with msg := a }).Rel
      (Follows type { s with msg := a } { t with msg := b })
      (route boot kernel { t with msg := b }) := by
  simp only [route, ← h.boot, ← h.kernel]
  split_ifs with _ hk
  · exact hboot
  · exact hkernel hk
  · exact Follows.refl hmask

end

theorem act_same (h : a.Same type b)
    (hmask : type = .newRoute → s.ifIpipv4AddrMask = t.ifIpipv4AddrMask) :
    (act ifName type { s with msg := a }).Rel
      (Follows type { s with msg := a } { t with msg := b })
      (act ifName type { t with msg := b }) := by
  cases type with
  | newLink => exact newLink_same h
  | delLink => exact delLink_same h
  | newAddr => exact newAddr_same h
  | newRoute =>
      exact route_same h (newRouteBoot_same h (hmask rfl))
        (fun hkernel => newRouteKernel_same h hkernel (hmask rfl)) hmask
  | delRoute =>
      exact route_same h (delRouteBoot_same h) (fun hkernel => delRouteKernel_same h hkernel) hmask
  | newNeigh => exact neigh_same (fun htype => nomatch htype) h
  | delNeigh => exact neigh_same (fun htype => nomatch htype) h
  | other => exact Follows.refl hmask

end LibraDevice.Netlink
