import Mathlib.Data.List.TakeWhile
import LibraDevice.DmnConn.Server

/-!
Which messages settle what the server sends: the server looks at the fields of
the request whatever the length of the message, so that a short one leaves some
of them to the memory behind it.
-/

namespace LibraDevice.DmnConn

open Bytes

/-- Memory that holds one byte everywhere. -/
def filled (b : Byte) : Ptr :=
  fun _ => b

/-- All bytes that a copy of a string from `off` on may take are there, or the
end of the string is. -/
def StringSettled (bs : List Byte) (off : Nat) : Prop :=
  off + (ssidBufSize - 1) ≤ bs.length ∨ ∃ i, off ≤ i ∧ i < bs.length ∧ cat bs (filled 0) i = 0

/-- The fields of a sender are there. -/
def FieldsSettled (bs : List Byte) : SenderId → Prop
  | .wifi _ => StringSettled bs ssidOffset ∧ StringSettled bs passwordOffset
  | .gpsoneDaemon => ipv6AddrOffset + 16 ≤ bs.length

/-- The sender is there with its fields, or what there is of it names none. -/
def SenderSettled (bs : List Byte) : Prop :=
  match ifRequestSenderId ((cat bs (filled 0)).advance senderIdOffset).u32 with
  | none => True
  | some senderId => senderIdOffset + 4 ≤ bs.length ∧ FieldsSettled bs senderId

/-- The same of the type, before the sender. -/
def TypeSettled (bs : List Byte) : Prop :=
  match ifRequestType ((cat bs (filled 0)).advance typeOffset).u32 with
  | none => True
  | some _ => typeOffset + 4 ≤ bs.length ∧ SenderSettled bs

/-- The message is long enough for all that the server looks at. -/
def Settled (handle : Bool) (bs : List Byte) : Prop :=
  ctrlTypeOffset < bs.length ∧
    ((cat bs (filled 0) ctrlTypeOffset = gpsoneLocApiIfRequest ∧ handle = true ∨
        cat bs (filled 0) ctrlTypeOffset = gpsoneLocApiIfRelease) → TypeSettled bs)

section

variable {bs : List Byte} {rest rest' : Ptr} {off : Nat}

theorem cat_congr {i : Nat} (hi : i < bs.length) : cat bs rest i = cat bs rest' i := by
  rw [cat_apply hi, cat_apply hi]

theorem u32_there (h : off + 4 ≤ bs.length) :
    ((cat bs rest).advance off).u32 = ((cat bs rest').advance off).u32 :=
  Ptr.u32_congr fun i hi => cat_congr (by omega)

theorem memcpy_there {n : Nat} (h : off + n ≤ bs.length) :
    memcpy ((cat bs rest).advance off) n = memcpy ((cat bs rest').advance off) n := by
  apply List.map_congr_left
  intro i hi
  rw [List.mem_range] at hi
  exact cat_congr (by omega)

theorem takeWhile_congr {α : Type*} {p : α → Bool} {as cs ds : List α}
    (h : (∃ a ∈ as, p a = false) ∨ cs = ds) :
    (as ++ cs).takeWhile p = (as ++ ds).takeWhile p := by
  rcases h with ⟨a, ha, hp⟩ | rfl
  · induction as with
    | nil => cases ha
    | cons a' as ih =>
        rw [List.cons_append, List.cons_append, List.takeWhile_cons, List.takeWhile_cons]
        split
        · next hp' =>
            rcases List.mem_cons.mp ha with rfl | ha
            · rw [hp] at hp'
              cases hp'
            · rw [ih ha]
        · rfl
  · rfl

theorem strlcpyAt_congr {p q : Ptr} {k siz : Nat} (hk : k ≤ siz - 1) (hsame : ∀ i < k, p i = q i)
    (hend : k = siz - 1 ∨ ∃ i < k, p i = 0) : strlcpyAt p siz = strlcpyAt q siz := by
  obtain ⟨l, hl⟩ := Nat.exists_eq_add_of_le hk
  have hfirst : (List.range k).map p = (List.range k).map q :=
    List.map_congr_left fun i hi => hsame i (List.mem_range.mp hi)
  rw [strlcpyAt_eq, strlcpyAt_eq, stringAt, stringAt, hl, List.range_add, List.map_append,
    List.map_append, hfirst]
  apply takeWhile_congr
  rcases hend with hend | ⟨i, hi, hzero⟩
  · have hl0 : l = 0 := by omega
    rw [hl0]
    exact Or.inr rfl
  · refine Or.inl ⟨q i, List.mem_map_of_mem (List.mem_range.mpr hi), ?_⟩
    rw [← hsame i hi, hzero]
    rfl

theorem strlcpyAt_there (h : StringSettled bs off) (rest rest' : Ptr) :
    strlcpyAt ((cat bs rest).advance off) ssidBufSize =
      strlcpyAt ((cat bs rest').advance off) ssidBufSize := by
  have hsame : ∀ k, off + k ≤ bs.length → ∀ i < k,
      (cat bs rest).advance off i = (cat bs rest').advance off i :=
    fun k hk i hi => cat_congr (by omega)
  rcases h with hlong | ⟨i, hle, hlt, hzero⟩
  · exact strlcpyAt_congr (Nat.le_refl _) (hsame _ hlong) (Or.inl rfl)
  · rcases Nat.lt_or_ge (ssidBufSize - 1) (bs.length - off) with hlong | hshort
    · exact strlcpyAt_congr (Nat.le_refl _) (hsame _ (by omega)) (Or.inl rfl)
    · refine strlcpyAt_congr hshort (hsame _ (by omega)) (Or.inr ⟨i - off, by omega, ?_⟩)
      rw [Ptr.advance, Nat.add_sub_cancel' hle, ← hzero]
      exact cat_congr hlt

theorem stringSettled_of_eq (h : strlcpyAt ((cat bs (filled 0)).advance off) ssidBufSize =
    strlcpyAt ((cat bs (filled 255)).advance off) ssidBufSize) : StringSettled bs off := by
  refine Classical.or_iff_not_imp_left.mpr fun hshort => Classical.not_not.mp fun hend => ?_
  have hnonzero : ∀ i ∈ List.range (ssidBufSize - 1),
      (cat bs (filled 255)).advance off i ≠ 0 := by
    intro i _
    rw [Ptr.advance]
    rcases Nat.lt_or_ge (off + i) bs.length with hlt | hge
    · intro hzero
      refine hend ⟨off + i, Nat.le_add_right _ _, hlt, ?_⟩
      rw [← hzero]
      exact cat_congr hlt
    · rw [cat_eq, List.getElem?_eq_none hge]
      change (255 : Byte) ≠ 0
      decide
  have hwhole : strlcpyAt ((cat bs (filled 255)).advance off) ssidBufSize =
      (List.range (ssidBufSize - 1)).map ((cat bs (filled 255)).advance off) := by
    rw [strlcpyAt_eq, stringAt, List.takeWhile_eq_self_iff]
    intro b hb
    obtain ⟨i, hi, rfl⟩ := List.mem_map.mp hb
    exact decide_eq_true (hnonzero i hi)
  -- the copy of the cleared memory would be as long
  have hprefix := List.takeWhile_prefix (l := (List.range (ssidBufSize - 1)).map
    ((cat bs (filled 0)).advance off)) (fun b : Byte => decide (b ≠ 0))
  have heq := hprefix.eq_of_length (by
    change (stringAt ((cat bs (filled 0)).advance off) (ssidBufSize - 1)).length = _
    rw [← strlcpyAt_eq, h, hwhole, List.length_map, List.length_map])
  have hsiz : ssidBufSize = 33 := rfl
  have hk : bs.length - off ∈ List.range (ssidBufSize - 1) := by
    rw [List.mem_range]
    omega
  have hmem := List.mem_map_of_mem (f := (cat bs (filled 0)).advance off) hk
  rw [← heq] at hmem
  have hne := List.mem_takeWhile_imp hmem
  apply of_decide_eq_true hne
  rw [Ptr.advance, cat_eq, List.getElem?_eq_none (by omega)]
  rfl

theorem toNat_u32 (p : Ptr) : p.u32.toNat =
    (p 0).toNat + 256 * (p 1).toNat + 65536 * (p 2).toNat + 16777216 * (p 3).toNat := by
  have h0 := (p 0).isLt
  have h1 := (p 1).isLt
  have h2 := (p 2).isLt
  rw [Ptr.u32]
  simp only [BitVec.toNat_append]
  rw [← Nat.shiftLeft_add_eq_or_of_lt h2, ← Nat.shiftLeft_add_eq_or_of_lt h1,
    ← Nat.shiftLeft_add_eq_or_of_lt h0]
  simp only [Nat.shiftLeft_eq]
  omega

theorem toNat_advance (bs : List Byte) (rest : Ptr) (off i : Nat) :
    ((cat bs (filled 0)).advance off i).toNat =
      ((cat bs rest).advance off i).toNat ∨
    ((cat bs (filled 0)).advance off i).toNat = 0 := by
  rcases Nat.lt_or_ge (off + i) bs.length with hlt | hge
  · exact Or.inl (congrArg BitVec.toNat (cat_congr hlt))
  · refine Or.inr ?_
    rw [Ptr.advance, cat_eq, List.getElem?_eq_none hge]
    rfl

theorem u32_cleared (h : ((cat bs rest).advance off).u32.toNat < 256) :
    ((cat bs (filled 0)).advance off).u32 = ((cat bs rest).advance off).u32 ∨
      ((cat bs (filled 0)).advance off).u32 = 0 := by
  rw [toNat_u32] at h
  have h0 := toNat_advance bs rest off 0
  have h1 := toNat_advance bs rest off 1
  have h2 := toNat_advance bs rest off 2
  have h3 := toNat_advance bs rest off 3
  rw [← BitVec.toNat_inj, ← BitVec.toNat_inj, toNat_u32, toNat_u32]
  change _ ∨ _ = 0
  omega

theorem u32_set (h : bs.length < off + 4) :
    256 ≤ ((cat bs (filled 255)).advance off).u32.toNat := by
  have h3 : ((cat bs (filled 255)).advance off 3).toNat = 255 := by
    rw [Ptr.advance, cat_eq, List.getElem?_eq_none (by omega)]
    rfl
  rw [toNat_u32, h3]
  omega

theorem ifRequestType_lt {w : BitVec 32} {type : AgpsType} (h : ifRequestType w = some type) :
    w.toNat < 256 := by
  rw [ifRequestType] at h
  split at h
  · next hw =>
      rw [hw]
      decide
  · split at h
    · next hw =>
        rw [hw]
        decide
    · split at h
      · next hw =>
          rw [hw]
          decide
      · cases h

theorem ifRequestSenderId_lt {w : BitVec 32} {senderId : SenderId}
    (h : ifRequestSenderId w = some senderId) : w.toNat < 256 := by
  rw [ifRequestSenderId] at h
  split at h
  · next hw =>
      rw [hw]
      decide
  · split at h
    · next hw =>
        rw [hw]
        decide
    · split at h
      · next hw =>
          rw [hw]
          decide
      · split at h
        · next hw =>
            rw [hw]
            decide
        · cases h

theorem u32_missing (h : bs.length ≤ off) : ((cat bs (filled 0)).advance off).u32 = 0 := by
  rw [← BitVec.toNat_inj, toNat_u32]
  have hzero : ∀ i, ((cat bs (filled 0)).advance off i).toNat = 0 := by
    intro i
    rw [Ptr.advance, cat_eq, List.getElem?_eq_none (by omega)]
    rfl
  rw [hzero, hzero, hzero, hzero]
  rfl

theorem ifRequestType_none
    (h : ifRequestType ((cat bs (filled 0)).advance off).u32 = none) (rest : Ptr) :
    ifRequestType ((cat bs rest).advance off).u32 = none := by
  cases htype : ifRequestType ((cat bs rest).advance off).u32 with
  | none => rfl
  | some type =>
      rcases u32_cleared (ifRequestType_lt htype) with heq | heq
      · rw [heq, htype] at h
        cases h
      · rw [heq] at h
        cases h

theorem ifRequestSenderId_none
    (h : ifRequestSenderId ((cat bs (filled 0)).advance off).u32 = none) (rest : Ptr) :
    ifRequestSenderId ((cat bs rest).advance off).u32 = none := by
  cases hsender : ifRequestSenderId ((cat bs rest).advance off).u32 with
  | none => rfl
  | some senderId =>
      rcases u32_cleared (ifRequestSenderId_lt hsender) with heq | heq
      · rw [heq, hsender] at h
        cases h
      · rw [heq] at h
        cases h

theorem ifRequestType_set (h : bs.length < off + 4) :
    ifRequestType ((cat bs (filled 255)).advance off).u32 = none := by
  cases htype : ifRequestType ((cat bs (filled 255)).advance off).u32 with
  | none => rfl
  | some type => exact absurd (ifRequestType_lt htype) (Nat.not_lt.mpr (u32_set h))

theorem ifRequestSenderId_set (h : bs.length < off + 4) :
    ifRequestSenderId ((cat bs (filled 255)).advance off).u32 = none := by
  cases hsender : ifRequestSenderId ((cat bs (filled 255)).advance off).u32 with
  | none => rfl
  | some senderId => exact absurd (ifRequestSenderId_lt hsender) (Nat.not_lt.mpr (u32_set h))

theorem ifHandler_some {pmsg : Ptr} {type : AgpsType} {senderId : SenderId} (isReq : Bool)
    (htype : ifRequestType (pmsg.advance typeOffset).u32 = some type)
    (hsender : ifRequestSenderId (pmsg.advance senderIdOffset).u32 = some senderId) :
    ifHandler isReq pmsg = (0, some (reqRel type senderId pmsg isReq)) := by
  rw [ifHandler, htype]
  simp only [hsender]

theorem ifHandler_typeNone {pmsg : Ptr} (isReq : Bool)
    (htype : ifRequestType (pmsg.advance typeOffset).u32 = none) :
    ifHandler isReq pmsg = (-1, none) := by
  rw [ifHandler, htype]

theorem ifHandler_senderNone {pmsg : Ptr} (isReq : Bool)
    (hsender : ifRequestSenderId (pmsg.advance senderIdOffset).u32 = none) :
    ifHandler isReq pmsg = (-1, none) := by
  rw [ifHandler]
  split
  · rfl
  · rw [hsender]

theorem reqRel_there {type : AgpsType} {senderId : SenderId} {isReq : Bool}
    (h : FieldsSettled bs senderId) :
    reqRel type senderId (cat bs rest) isReq = reqRel type senderId (cat bs rest') isReq := by
  cases senderId with
  | wifi sender =>
      obtain ⟨hssid, hpassword⟩ := h
      simp only [reqRel, strlcpyAt_there hssid rest rest', strlcpyAt_there hpassword rest rest']
  | gpsoneDaemon =>
      change ipv6AddrOffset + 16 ≤ bs.length at h
      have hipv4 : ((cat bs rest).advance ipv4AddrOffset).u32 =
          ((cat bs rest').advance ipv4AddrOffset).u32 :=
        u32_there (Nat.le_trans (by decide) h)
      have hipv6 : memcpy ((cat bs rest).advance ipv6AddrOffset) 16 =
          memcpy ((cat bs rest').advance ipv6AddrOffset) 16 := memcpy_there h
      simp only [reqRel, hipv4, hipv6]

theorem ifHandler_there (h : TypeSettled bs) (isReq : Bool) :
    ifHandler isReq (cat bs rest) = ifHandler isReq (cat bs rest') := by
  rw [TypeSettled] at h
  split at h
  · next htype =>
      rw [ifHandler_typeNone _ (ifRequestType_none htype _),
        ifHandler_typeNone _ (ifRequestType_none htype _)]
  · next type htype =>
      obtain ⟨hthere, hsettled⟩ := h
      have htypes : ∀ r, ifRequestType ((cat bs r).advance typeOffset).u32 = some type := by
        intro r
        rw [u32_there hthere, htype]
      rw [SenderSettled] at hsettled
      split at hsettled
      · next hsender =>
          rw [ifHandler_senderNone _ (ifRequestSenderId_none hsender _),
            ifHandler_senderNone _ (ifRequestSenderId_none hsender _)]
      · next senderId hsender =>
          obtain ⟨hthere, hfields⟩ := hsettled
          have hsenders : ∀ r,
              ifRequestSenderId ((cat bs r).advance senderIdOffset).u32 = some senderId := by
            intro r
            rw [u32_there hthere, hsender]
          rw [ifHandler_some isReq (htypes _) (hsenders _),
            ifHandler_some isReq (htypes _) (hsenders _), reqRel_there hfields]

end

theorem fieldsSettled_of_eq {bs : List Byte} {type : AgpsType} {senderId : SenderId}
    {isReq : Bool} (h : reqRel type senderId (cat bs (filled 0)) isReq =
      reqRel type senderId (cat bs (filled 255)) isReq) : FieldsSettled bs senderId := by
  cases senderId with
  | wifi sender =>
      injection h with _ _ hssid hpassword
      exact ⟨stringSettled_of_eq hssid, stringSettled_of_eq hpassword⟩
  | gpsoneDaemon =>
      injection h with _ _ hipv6
      change ipv6AddrOffset + 16 ≤ bs.length
      refine Nat.le_of_not_lt fun hlt => ?_
      have hlast := congrArg (fun l => l[15]?) hipv6
      have hbyte : ∀ b, (memcpy ((cat bs (filled b)).advance ipv6AddrOffset) 16)[15]? =
          some b := by
        intro b
        rw [memcpy, List.getElem?_map, List.getElem?_range (by decide), Option.map_some,
          Ptr.advance, cat_eq, List.getElem?_eq_none (by omega)]
        rfl
      simp only [hbyte] at hlast
      cases hlast

theorem ifHandler_iff (bs : List Byte) (isReq : Bool) :
    (∀ rest rest', (ifHandler isReq (cat bs rest)).2 = (ifHandler isReq (cat bs rest')).2) ↔
      TypeSettled bs := by
  constructor
  · intro h
    have h := h (filled 0) (filled 255)
    rw [TypeSettled]
    split
    · trivial
    · next type htype =>
        have hthere : typeOffset + 4 ≤ bs.length := by
          refine Nat.le_of_not_lt fun hlt => ?_
          have hsender : ifRequestSenderId
              ((cat bs (filled 0)).advance senderIdOffset).u32 = some (.wifi .quipc) := by
            have hmissing : ((cat bs (filled 0)).advance senderIdOffset).u32 = 0 :=
              u32_missing (Nat.le_of_lt hlt)
            rw [hmissing]
            rfl
          rw [ifHandler_some isReq htype hsender, ifHandler_typeNone _ (ifRequestType_set hlt)] at h
          cases h
        have htype' : ifRequestType ((cat bs (filled 255)).advance typeOffset).u32 =
            some type := by
          rw [u32_there hthere, htype]
        refine ⟨hthere, ?_⟩
        rw [SenderSettled]
        split
        · trivial
        · next senderId hsender =>
            rw [ifHandler_some isReq htype hsender] at h
            have hwhole : senderIdOffset + 4 ≤ bs.length := by
              refine Nat.le_of_not_lt fun hlt => ?_
              rw [ifHandler_senderNone _ (ifRequestSenderId_set hlt)] at h
              cases h
            have hsender' : ifRequestSenderId
                ((cat bs (filled 255)).advance senderIdOffset).u32 = some senderId := by
              rw [u32_there hwhole, hsender]
            rw [ifHandler_some isReq htype' hsender'] at h
            exact ⟨hwhole, fieldsSettled_of_eq (Option.some.inj h)⟩
  · intro h rest rest'
    rw [ifHandler_there h]

theorem dispatch_iff (handle : Bool) (bs : List Byte) :
    (∀ rest rest', dispatch handle (cat bs rest) = dispatch handle (cat bs rest')) ↔
      Settled handle bs := by
  have hrelease : ∀ p : Ptr, p ctrlTypeOffset = gpsoneLocApiIfRelease →
      dispatch handle p = (ifHandler false p).2 := by
    intro p hp
    rw [dispatch, if_neg (by rw [hp]; decide), if_pos hp]
    rfl
  have hrequest : ∀ p : Ptr, p ctrlTypeOffset = gpsoneLocApiIfRequest → handle = true →
      dispatch handle p = (ifHandler true p).2 := by
    intro p hp hhandle
    rw [dispatch, if_pos hp, ifRequestHandler, if_pos hhandle]
  have hother : ∀ p : Ptr, ¬ (p ctrlTypeOffset = gpsoneLocApiIfRequest ∧ handle = true ∨
      p ctrlTypeOffset = gpsoneLocApiIfRelease) → dispatch handle p = none := by
    intro p hp
    rw [not_or] at hp
    rw [dispatch]
    split
    · next hreq =>
        rw [ifRequestHandler, if_neg fun hhandle => hp.1 ⟨hreq, hhandle⟩]
    · exact if_neg hp.2
  constructor
  · intro h
    have hlong : ctrlTypeOffset < bs.length := by
      refine Nat.lt_of_not_le fun hle => ?_
      -- the memory may hold a release, or nothing
      let release : Ptr := fun i => if i = ctrlTypeOffset - bs.length then 0xf1 else 0
      have hctrl : cat bs release ctrlTypeOffset = gpsoneLocApiIfRelease := by
        rw [cat_eq, List.getElem?_eq_none hle]
        exact if_pos rfl
      have hzero : ∀ off, ctrlTypeOffset < off →
          ((cat bs release).advance off).u32 = 0 := by
        intro off hoff
        have hbyte : ∀ i, (cat bs release).advance off i = 0 := by
          intro i
          rw [Ptr.advance, cat_eq, List.getElem?_eq_none (by omega)]
          exact if_neg (by omega)
        rw [Ptr.u32, hbyte, hbyte, hbyte, hbyte]
        rfl
      have hsome : ifHandler false (cat bs release) =
          (0, some (reqRel .supl (.wifi .quipc) (cat bs release) false)) :=
        ifHandler_some false (by rw [hzero _ (by decide)]; rfl)
          (by rw [hzero _ (by decide)]; rfl)
      have hsent := h release (filled 0)
      rw [hrelease _ hctrl, hsome, hother] at hsent
      · cases hsent
      · rw [cat_eq, List.getElem?_eq_none hle]
        change ¬ ((0 : Byte) = gpsoneLocApiIfRequest ∧ handle = true ∨
          (0 : Byte) = gpsoneLocApiIfRelease)
        rintro (⟨hreq, -⟩ | hrel)
        · revert hreq
          decide
        · revert hrel
          decide
    refine ⟨hlong, ?_⟩
    have hctrl : ∀ rest, cat bs rest ctrlTypeOffset = cat bs (filled 0) ctrlTypeOffset :=
      fun rest => cat_congr hlong
    rintro (⟨hreq, hhandle⟩ | hrel)
    · refine (ifHandler_iff bs true).mp fun rest rest' => ?_
      rw [← hrequest _ ((hctrl rest).trans hreq) hhandle,
        ← hrequest _ ((hctrl rest').trans hreq) hhandle]
      exact h rest rest'
    · refine (ifHandler_iff bs false).mp fun rest rest' => ?_
      rw [← hrelease _ ((hctrl rest).trans hrel), ← hrelease _ ((hctrl rest').trans hrel)]
      exact h rest rest'
  · rintro ⟨hlong, hsettled⟩ rest rest'
    have hctrl : ∀ rest, cat bs rest ctrlTypeOffset = cat bs (filled 0) ctrlTypeOffset :=
      fun rest => cat_congr hlong
    rcases Classical.em (cat bs (filled 0) ctrlTypeOffset = gpsoneLocApiIfRequest ∧
        handle = true ∨ cat bs (filled 0) ctrlTypeOffset = gpsoneLocApiIfRelease) with
          hhandled | hnot
    · have htype := hsettled hhandled
      rcases hhandled with ⟨hreq, hhandle⟩ | hrel
      · rw [hrequest _ ((hctrl rest).trans hreq) hhandle,
          hrequest _ ((hctrl rest').trans hreq) hhandle]
        exact (ifHandler_iff bs true).mpr htype rest rest'
      · rw [hrelease _ ((hctrl rest).trans hrel), hrelease _ ((hctrl rest').trans hrel)]
        exact (ifHandler_iff bs false).mpr htype rest rest'
    · rw [hother _ (by rw [hctrl]; exact hnot), hother _ (by rw [hctrl]; exact hnot)]

end LibraDevice.DmnConn
