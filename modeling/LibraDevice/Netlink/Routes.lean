import LibraDevice.Netlink.Message

/-!
The events of an added route against those of the same route deleted.
-/

namespace LibraDevice.Netlink

open LibraDevice.Bytes
open LibraDevice.Records

/-- The contents of a route message, added or deleted. -/
structure RouteContents where
  head : List Byte
  metainfo : List Byte
  attrs : List Attr
  head_length : head.length = 10
  metainfo_length : metainfo.length = 12
  data_length : ∀ a ∈ attrs, dataSize .newRoute (metainfo.headD 0) a.rtaType ≤ a.data.length
  len_le : 16 + metainfo.length + (encodeAttrs attrs).length ≤ 2048
deriving Repr

/-- Every field of the address and of the mask is written. -/
def EventDataAddr.Written (d : EventDataAddr) : Prop :=
  match d.iptype with
  | .v4 => d.ipv4Addr.isSome ∧ d.ipv4AddrMask.isSome
  | .v6 => d.ipv6Addr.isSome ∧ ∀ i : Fin 4, (d.ipv6AddrMask i).isSome

def EventDataAddr.AllZero (d : EventDataAddr) : Prop :=
  match d.iptype with
  | .v4 => d.ipv4Addr = some 0 ∧ d.ipv4AddrMask = some 0
  | .v6 => d.ipv6Addr = some noAddr ∧ d.ipv6AddrMask = fun _ => some 0

namespace RouteContents

/-- The `RTM_NEWROUTE` message. -/
def newRoute (r : RouteContents) : Message where
  nlmsgType := 24
  head := r.head
  metainfo := r.metainfo
  attrs := r.attrs
  type_lt := by decide
  head_length := r.head_length
  metainfo_length := r.metainfo_length
  data_length := r.data_length
  len_le := r.len_le

/-- The `RTM_DELROUTE` message. -/
def delRoute (r : RouteContents) : Message where
  nlmsgType := 25
  head := r.head
  metainfo := r.metainfo
  attrs := r.attrs
  type_lt := by decide
  head_length := r.head_length
  metainfo_length := r.metainfo_length
  data_length := r.data_length
  len_le := r.len_le

def info (r : RouteContents) : RouteInfo :=
  r.newRoute.routeInfo

/-- A default route has no destination. -/
def IsDefault (r : RouteContents) : Prop :=
  lastData 1 r.attrs = none

/-- The events of the two messages carry the same data, written throughout, and
an all-zero address and mask exactly for a default route. -/
def Mirrored (ifName : Word → Bool) (r : RouteContents) : Prop :=
  ∃ data : List EventDataAddr,
    r.newRoute.events ifName = data.map Event.routeAdd ∧
    r.delRoute.events ifName = data.map Event.routeDel ∧
    ∀ d ∈ data, d.Written ∧ (d.AllZero ↔ r.IsDefault)

/-- The data of an added route. -/
def addedData (info : RouteInfo) : List EventDataAddr :=
  if info.Boot then
    if info.dst then [v4AddrMask info (info.dstAddr 0) 0]
    else if info.rtmFamily = afInet6 then [sameAddrMask info]
    else [v4AddrMask info (info.dstAddr 0) (info.dstAddr 0)]
  else if info.Kernel then
    (if info.dst then
      [⟨.v6, info.oifIndex, none, none, some (ntohl ∘ info.dstAddr),
        maskOf addMaskStep info.rtmDstLen.toNat⟩]
    else []) ++ if info.gateway then [sameAddrMask info] else []
  else []

/-- The data of a deleted route. -/
def deletedData (info : RouteInfo) : List EventDataAddr :=
  if info.Boot then
    if info.dst then [v4AddrMask info (info.dstAddr 0) (ntohl (-1))]
    else if info.rtmFamily = afInet6 then [sameAddrMask info]
    else [v4AddrMask info (info.dstAddr 0) (info.dstAddr 0)]
  else if info.Kernel then
    if info.dst then
      [⟨.v6, info.oifIndex, none, none, some (ntohl ∘ info.dstAddr),
        maskOf delMaskStep info.rtmDstLen.toNat⟩]
    else []
  else []

variable {ifName : Word → Bool} {r : RouteContents}

theorem newRoute_events (hname : ifName r.info.oifIndex = true) :
    r.newRoute.events ifName = (addedData r.info).map Event.routeAdd := by
  change postedBy (route (newRouteBoot ifName) (newRouteKernel ifName)
    { State.init with msg := { NlMsg.zeroed with nlRouteInfo := r.info } }) = _
  simp only [route, addedData]
  split
  · simp only [newRouteBoot, hname, Bool.true_eq_false, if_false]
    split
    · rfl
    · split <;> rfl
  · split
    · simp only [newRouteKernel, hname, Bool.true_eq_false, if_false]
      cases r.info.dst <;> cases r.info.gateway <;> rfl
    · rfl

theorem delRoute_events (hname : ifName r.info.oifIndex = true) :
    r.delRoute.events ifName = (deletedData r.info).map Event.routeDel := by
  change postedBy (route (delRouteBoot ifName) (delRouteKernel ifName)
    { State.init with msg := { NlMsg.zeroed with nlRouteInfo := r.info } }) = _
  simp only [route, deletedData]
  split
  · simp only [delRouteBoot, hname, Bool.true_eq_false, if_false]
    split
    · rfl
    · split <;> rfl
  · split
    · simp only [delRouteKernel, hname, Bool.true_eq_false, if_false]
      cases r.info.dst <;> rfl
    · rfl

theorem events_nil (hname : ifName r.info.oifIndex = false) :
    r.newRoute.events ifName = [] ∧ r.delRoute.events ifName = [] := by
  constructor
  · change postedBy (route (newRouteBoot ifName) (newRouteKernel ifName)
      { State.init with msg := { NlMsg.zeroed with nlRouteInfo := r.info } }) = _
    simp only [route, newRouteBoot, newRouteKernel, hname, if_true]
    split
    · rfl
    · split <;> rfl
  · change postedBy (route (delRouteBoot ifName) (delRouteKernel ifName)
      { State.init with msg := { NlMsg.zeroed with nlRouteInfo := r.info } }) = _
    simp only [route, delRouteBoot, delRouteKernel, hname, if_true]
    split
    · rfl
    · split <;> rfl

theorem mirrored_iff_data (hname : ifName r.info.oifIndex = true) :
    r.Mirrored ifName ↔ addedData r.info = deletedData r.info ∧
      ∀ d ∈ deletedData r.info, d.Written ∧ (d.AllZero ↔ r.IsDefault) := by
  rw [Mirrored, newRoute_events hname, delRoute_events hname]
  constructor
  · rintro ⟨data, hadded, hdeleted, hdata⟩
    rw [List.map_inj_right fun _ _ h => Event.routeAdd.inj h] at hadded
    rw [List.map_inj_right fun _ _ h => Event.routeDel.inj h] at hdeleted
    rw [hadded, hdeleted]
    exact ⟨rfl, hdata⟩
  · rintro ⟨heq, hdata⟩
    exact ⟨deletedData r.info, by rw [heq], rfl, hdata⟩

theorem delMaskStep_last {m : Nat × (Fin 4 → Option Word)} {i : Fin 4}
    (h : 3 ≠ i ∨ m.1 < 32) : (delMaskStep m i).2 3 = m.2 3 := by
  rcases eq_or_ne 3 i with rfl | hne
  · exact delMaskStep_self m 3 (h.resolve_left fun hself => hself rfl) (by decide)
  · exact delMaskStep_of_ne m i hne (by decide)

/-- A deletion with a shorter length than that of a host leaves the last word of
the mask unwritten. -/
theorem delMask_last {dstLen : Nat} (hlen : dstLen < 128) :
    maskOf delMaskStep dstLen 3 = none := by
  rw [maskOf, Function.comp_apply, Option.map_eq_none_iff]
  simp only [List.foldl_cons, List.foldl_nil]
  rw [delMaskStep_last (Or.inr (by simp only [delMaskStep_rest]; omega)),
    delMaskStep_last (Or.inl (by decide)), delMaskStep_last (Or.inl (by decide)),
    delMaskStep_last (Or.inl (by decide))]

theorem hostMask {dstLen : Nat} (hlen : 128 ≤ dstLen) :
    (maskOf addMaskStep dstLen = fun _ => some 0xffffffff) ∧
      maskOf delMaskStep dstLen = fun _ => some 0xffffffff := by
  have h0 : 32 ≤ dstLen := by omega
  have h1 : 32 ≤ dstLen - 32 := by omega
  have h2 : 32 ≤ dstLen - 32 - 32 := by omega
  have h3 : 32 ≤ dstLen - 32 - 32 - 32 := by omega
  constructor
  · simp only [maskOf, List.foldl_cons, List.foldl_nil, addMaskStep, if_pos h0, if_pos h1,
      if_pos h2, if_pos h3]
    decide
  · simp only [maskOf, List.foldl_cons, List.foldl_nil, delMaskStep, if_pos h0, if_pos h1,
      if_pos h2, if_pos h3]
    decide

/-- A default route, or a host route of the IPv6 table without a gateway, or one
of its routes that says nothing; or an interface without a name. -/
def Plain (ifName : Word → Bool) (r : RouteContents) : Prop :=
  ifName r.info.oifIndex = false ∨ (r.info.Boot ∧ r.IsDefault) ∨
    (r.info.Kernel ∧ r.info.gateway = false ∧ (r.IsDefault ∨ 128 ≤ r.info.rtmDstLen.toNat))

theorem not_boot_of_kernel {info : RouteInfo} (h : info.Kernel) : ¬ info.Boot := by
  intro hboot
  have heq : rtprotKernel = rtprotBoot := h.2.2.1.symm.trans hboot.2.1
  exact absurd heq (by decide)

theorem isDefault_iff (r : RouteContents) : r.IsDefault ↔ r.info.dst = false := by
  change lastData 1 r.attrs = none ↔ (lastData 1 r.attrs).isSome = false
  rw [Option.isSome_eq_false_iff, Option.isNone_iff_eq_none]

theorem IsDefault.dstAddr (h : r.IsDefault) : r.info.dstAddr = noAddr := by
  change (lastData 1 r.attrs).elim noAddr _ = noAddr
  rw [h, Option.elim_none]

theorem sameAddrMask_noAddr {info : RouteInfo} (h : info.dstAddr = noAddr) :
    (sameAddrMask info).Written ∧ (sameAddrMask info).AllZero := by
  have hzero : ntohl ∘ info.dstAddr = noAddr := by
    rw [h]
    decide
  refine ⟨⟨rfl, fun _ => rfl⟩, congrArg some hzero, ?_⟩
  change some ∘ ntohl ∘ info.dstAddr = _
  rw [hzero]
  rfl

theorem v4AddrMask_noAddr {info : RouteInfo} (h : info.dstAddr = noAddr) :
    (v4AddrMask info (info.dstAddr 0) (info.dstAddr 0)).Written ∧
      (v4AddrMask info (info.dstAddr 0) (info.dstAddr 0)).AllZero := by
  have hzero : ntohl (info.dstAddr 0) = 0 := by
    rw [h]
    decide
  exact ⟨⟨rfl, rfl⟩, congrArg some hzero, congrArg some hzero⟩

theorem Plain.mirrored (h : r.Plain ifName) : r.Mirrored ifName := by
  rcases h with hname | hroute
  · obtain ⟨hadded, hdeleted⟩ := events_nil hname
    exact ⟨[], hadded, hdeleted, fun d hd => by cases hd⟩
  · cases hname : ifName r.info.oifIndex with
    | false =>
        obtain ⟨hadded, hdeleted⟩ := events_nil hname
        exact ⟨[], hadded, hdeleted, fun d hd => by cases hd⟩
    | true =>
        rw [mirrored_iff_data hname]
        rcases hroute with ⟨hboot, hdefault⟩ | ⟨hkernel, hgateway, hdst⟩
        · have hnone := (isDefault_iff r).mp hdefault
          have haddr := hdefault.dstAddr
          simp only [addedData, deletedData, if_pos hboot, hnone, Bool.false_eq_true, if_false]
          refine ⟨trivial, fun d hd => ?_⟩
          split at hd
          · obtain rfl := List.mem_singleton.mp hd
            obtain ⟨hwritten, hzero⟩ := sameAddrMask_noAddr haddr
            exact ⟨hwritten, fun _ => hdefault, fun _ => hzero⟩
          · obtain rfl := List.mem_singleton.mp hd
            obtain ⟨hwritten, hzero⟩ := v4AddrMask_noAddr haddr
            exact ⟨hwritten, fun _ => hdefault, fun _ => hzero⟩
        · have hboot := not_boot_of_kernel hkernel
          simp only [addedData, deletedData, if_neg hboot, if_pos hkernel, hgateway,
            Bool.false_eq_true, if_false, List.append_nil]
          rcases hdst with hdefault | hlen
          · simp only [(isDefault_iff r).mp hdefault, Bool.false_eq_true, if_false]
            exact ⟨trivial, fun d hd => by cases hd⟩
          · obtain ⟨hadd, hdel⟩ := hostMask hlen
            rw [hadd, hdel]
            refine ⟨rfl, fun d hd => ?_⟩
            split at hd
            · next hdst =>
                obtain rfl := List.mem_singleton.mp hd
                refine ⟨⟨rfl, fun _ => rfl⟩, fun hzero => ?_, fun hdefault => ?_⟩
                · have hmask : (some 0xffffffff : Option Word) = some 0 := congrFun hzero.2 0
                  exact absurd hmask (by decide)
                · rw [(isDefault_iff r).mp hdefault] at hdst
                  cases hdst
            · cases hd

/-- For a unicast route of the main table, added at boot or an IPv6 one of the
kernel, deleting mirrors adding exactly if it is plain. -/
theorem mirrored_iff_plain (hroute : r.info.Boot ∨ r.info.Kernel) :
    r.Mirrored ifName ↔ r.Plain ifName := by
  refine ⟨fun h => ?_, Plain.mirrored⟩
  cases hname : ifName r.info.oifIndex with
  | false => exact Or.inl hname
  | true =>
      rw [mirrored_iff_data hname] at h
      obtain ⟨heq, hdata⟩ := h
      refine Or.inr ?_
      rcases hroute with hboot | hkernel
      · refine Or.inl ⟨hboot, (isDefault_iff r).mpr ?_⟩
        cases hdst : r.info.dst with
        | false => rfl
        | true =>
            -- the mask of an added host is zero, of a deleted one all ones
            simp only [addedData, deletedData, if_pos hboot, hdst, if_true, List.cons.injEq,
              v4AddrMask, EventDataAddr.mk.injEq] at heq
            exact absurd heq.1.2.2.2.1 (by decide)
      · refine Or.inr ⟨hkernel, ?_⟩
        have hboot := not_boot_of_kernel hkernel
        simp only [addedData, deletedData, if_neg hboot, if_pos hkernel] at heq hdata
        cases hgateway : r.info.gateway with
        | true =>
            have hlength := congrArg List.length heq
            rw [hgateway] at hlength
            cases hdst : r.info.dst <;> simp [hdst] at hlength
        | false =>
            refine ⟨rfl, ?_⟩
            rw [isDefault_iff]
            cases hdst : r.info.dst with
            | false => exact Or.inl rfl
            | true =>
                refine Or.inr (Nat.not_lt.mp fun hlen => ?_)
                rw [if_pos hdst] at hdata
                obtain ⟨⟨-, hmask⟩, -⟩ := hdata _ (List.mem_singleton_self _)
                have hlast : (maskOf delMaskStep r.info.rtmDstLen.toNat 3).isSome := hmask 3
                rw [delMask_last hlen] at hlast
                cases hlast

/-- An attribute of four bytes. -/
def attr4 (rtaType : Nat) (data : List Byte) (h : rtaType < 2 ^ 16 ∧ data.length = 4) :
    Attr where
  rtaType := rtaType
  data := data
  pad := []
  type_lt := h.1
  len_lt := by rw [h.2]; decide
  pad_length := by rw [h.2]; rfl

/-- An IPv4 route through interface 3, added at boot. -/
def bootRoute (attrs : List Attr) (hattrs : ∀ a ∈ attrs, a.data.length = 4)
    (hlength : (encodeAttrs attrs).length ≤ 1000) : RouteContents where
  head := List.replicate 10 0
  metainfo := [2, 0, 0, 0, 254, 3, 0, 1, 0, 0, 0, 0]
  attrs := attr4 4 [3, 0, 0, 0] (by decide) :: attrs
  head_length := rfl
  metainfo_length := rfl
  data_length := by
    intro a ha
    have hdata : a.data.length = 4 := by
      rcases List.mem_cons.mp ha with rfl | ha
      · rfl
      · exact hattrs a ha
    rw [hdata]
    change (if a.rtaType = 1 then 4 else if a.rtaType = 4 then 4 else 0) ≤ 4
    split
    · exact Nat.le_refl 4
    · split <;> decide
  len_le := by
    have hcons : encodeAttrs (attr4 4 [3, 0, 0, 0] (by decide) :: attrs) =
        (attr4 4 [3, 0, 0, 0] (by decide)).encode ++ encodeAttrs attrs := List.flatMap_cons
    rw [hcons, List.length_append, Attr.encode_length]
    change 16 + 12 + (8 + _) ≤ 2048
    omega

theorem mirrored_default :
    (bootRoute [] (by decide) (by decide)).Mirrored fun _ => true :=
  (mirrored_iff_plain (r := bootRoute [] (by decide) (by decide)) (Or.inl (by decide))).mpr
    (Or.inr (Or.inl ⟨by decide, rfl⟩))

/-- The route to 10.0.0.1. -/
theorem not_mirrored_host :
    (bootRoute [attr4 1 [10, 0, 0, 1] (by decide)] (by decide) (by decide)).info.Boot ∧
      ¬ (bootRoute [attr4 1 [10, 0, 0, 1] (by decide)] (by decide) (by decide)).Mirrored
        fun _ => true := by
  refine ⟨by decide, fun h => ?_⟩
  have heq := ((mirrored_iff_data rfl).mp h).1
  revert heq
  decide

end RouteContents

end LibraDevice.Netlink
