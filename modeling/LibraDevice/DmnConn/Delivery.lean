import LibraDevice.DmnConn.Settled

/-!
The frames of a pipe against what the server makes of them. A frame that is too
large or too small ends the loop, and what a frame makes the server send is its
own as far as it is long enough.
-/

namespace LibraDevice.DmnConn

open Bytes

def fitting (fs : List Frame) : List Frame :=
  fs.filter fun f => f.Fits serverBufSize

/-- The bytes of a frame with what the server sends for it are received, frame
by frame, but for the frames that do not fit, and whatever the memory held. -/
def Survives (handle : Bool) (fs : List Frame) : Prop :=
  ∃ sent : Frame → Option LocEngReqRel, ∀ (malloc : Nat → Ptr) (n : Nat), fs.length < n →
    thelperMain handle malloc n (stream fs) =
      some ((fitting fs).map fun f => ⟨f.encode, sent f⟩)

/-- No frame that fits comes after one that does not, nor more bytes after a
size that is too small than there is room for. -/
def InOrder : List Frame → Prop
  | [] => True
  | f :: fs =>
      if f.Fits serverBufSize then InOrder fs
      else (∀ g ∈ fs, ¬ g.Fits serverBufSize) ∧
        (f.msgsz < sizeofSize → sizeofSize + (stream fs).length ≤ serverBufSize)

section

variable (handle : Bool)

theorem fitting_cons {f : Frame} (h : f.Fits serverBufSize) (fs : List Frame) :
    fitting (f :: fs) = f :: fitting fs :=
  List.filter_cons_of_pos (decide_eq_true h)

theorem fitting_eq_nil {fs : List Frame} :
    fitting fs = [] ↔ ∀ f ∈ fs, ¬ f.Fits serverBufSize := by
  rw [fitting, List.filter_eq_nil_iff]
  simp only [decide_eq_true_eq]

theorem memcpy_cat (bs : List Byte) (rest : Ptr) : memcpy (cat bs rest) bs.length = bs := by
  apply List.ext_getElem
  · rw [memcpy, List.length_map, List.length_range]
  · intro i _ hi
    simp only [memcpy, List.getElem_map, List.getElem_range]
    exact cat_apply hi rest

theorem locApiServerProc_nil (malloc : Ptr) :
    locApiServerProc handle malloc [] = .done (-1) none [] := by
  rw [locApiServerProc, msgrcv_nil]

theorem locApiServerProc_fits {f : Frame} (h : f.Fits serverBufSize) (malloc : Ptr)
    (rest : List Byte) : locApiServerProc handle malloc (f.encode ++ rest) =
      .done 0 (some ⟨f.encode, dispatch handle (cat f.encode (malloc.advance f.msgsz))⟩) rest := by
  have hpos : ¬ (f.msgsz : Int) ≤ 0 := by
    have hmin := h.1
    have hsize : sizeofSize = 8 := rfl
    omega
  rw [locApiServerProc, msgrcv_fits malloc (by decide) h]
  simp only [if_neg hpos, Int.toNat_natCast]
  rw [← Frame.length_of_fits h, memcpy_cat]

theorem locApiServerProc_not_fits {f : Frame} (h : ¬ f.Fits serverBufSize) (malloc : Ptr)
    (rest : List Byte) :
    (f.msgsz < sizeofSize ∧ serverBufSize < sizeofSize + rest.length ∧
        locApiServerProc handle malloc (f.encode ++ rest) = .overflow) ∨
      ¬ (f.msgsz < sizeofSize ∧ serverBufSize < sizeofSize + rest.length) ∧
        ∃ pipe, locApiServerProc handle malloc (f.encode ++ rest) = .done (-1) none pipe := by
  rcases Nat.lt_or_ge f.msgsz sizeofSize with hsmall | hge
  · rcases Nat.lt_or_ge serverBufSize (sizeofSize + rest.length) with hlt | hroom
    · refine Or.inl ⟨hsmall, hlt, ?_⟩
      rw [locApiServerProc, msgrcv_small malloc (by decide) (by decide) hsmall, if_pos hlt]
    · refine Or.inr ⟨fun hboth => absurd hboth.2 (Nat.not_lt.mpr hroom), [], ?_⟩
      rw [locApiServerProc, msgrcv_small malloc (by decide) (by decide) hsmall,
        if_neg (Nat.not_lt.mpr hroom)]
  · have hlarge : serverBufSize < f.msgsz := by
      rw [Frame.Fits] at h
      omega
    refine Or.inr ⟨fun hboth => absurd hboth.1 (Nat.not_lt.mpr hge), f.body ++ rest, ?_⟩
    rw [locApiServerProc, msgrcv_large malloc hlarge]

theorem thelperMain_nil (malloc : Nat → Ptr) (n : Nat) :
    thelperMain handle malloc n [] = some [] := by
  cases n with
  | zero => rfl
  | succ n =>
      rw [thelperMain, locApiServerProc_nil]
      rfl

theorem thelperMain_fits {f : Frame} (h : f.Fits serverBufSize) (malloc : Nat → Ptr) (n : Nat)
    (rest : List Byte) : thelperMain handle malloc (n + 1) (f.encode ++ rest) =
      (thelperMain handle malloc n rest).map
        (⟨f.encode, dispatch handle (cat f.encode ((malloc n).advance f.msgsz))⟩ :: ·) := by
  rw [thelperMain, locApiServerProc_fits handle h]
  rfl

theorem thelperMain_not_fits {f : Frame} (h : ¬ f.Fits serverBufSize) (malloc : Nat → Ptr)
    (n : Nat) (rest : List Byte) : thelperMain handle malloc (n + 1) (f.encode ++ rest) =
      if f.msgsz < sizeofSize ∧ serverBufSize < sizeofSize + rest.length then none
      else some [] := by
  rw [thelperMain]
  rcases locApiServerProc_not_fits handle h (malloc n) rest with
    ⟨hsmall, hlt, hturn⟩ | ⟨hnot, pipe, hturn⟩
  · rw [hturn, if_pos ⟨hsmall, hlt⟩]
  · rw [hturn, if_neg hnot]
    rfl

theorem stream_cons (f : Frame) (fs : List Frame) : stream (f :: fs) = f.encode ++ stream fs :=
  List.flatMap_cons

theorem thelperMain_of_inOrder {fs : List Frame} (horder : InOrder fs)
    (hsettled : ∀ f ∈ fs, f.Fits serverBufSize → Settled handle f.encode)
    (malloc : Nat → Ptr) (n : Nat) (hn : fs.length < n) :
    thelperMain handle malloc n (stream fs) =
      some ((fitting fs).map fun f =>
        ⟨f.encode, dispatch handle (cat f.encode (filled 0))⟩) := by
  induction fs generalizing n with
  | nil => exact thelperMain_nil handle malloc n
  | cons f fs ih =>
      obtain ⟨n, rfl⟩ := Nat.exists_eq_add_one_of_ne_zero (Nat.ne_of_gt (Nat.zero_lt_of_lt hn))
      rw [List.length_cons] at hn
      rw [stream_cons]
      rw [InOrder] at horder
      split at horder
      · next hfits =>
          have hsent := (dispatch_iff handle f.encode).mpr
            (hsettled f List.mem_cons_self hfits)
          rw [thelperMain_fits handle hfits, fitting_cons hfits,
            ih horder (fun g hg => hsettled g (List.mem_cons_of_mem _ hg)) n (by omega),
            hsent _ (filled 0)]
          rfl
      · next hfits =>
          obtain ⟨hnone, hroom⟩ := horder
          have hnil : fitting (f :: fs) = [] := by
            refine fitting_eq_nil.mpr fun g hg => ?_
            rcases List.mem_cons.mp hg with rfl | hg
            · exact hfits
            · exact hnone g hg
          rw [thelperMain_not_fits handle hfits, hnil, if_neg]
          · rfl
          · rintro ⟨hsmall, hlt⟩
            exact absurd (hroom hsmall) (Nat.not_le.mpr hlt)

theorem inOrder_of_thelperMain {fs : List Frame} {sent : Frame → Option LocEngReqRel}
    (h : ∀ (malloc : Nat → Ptr) (n : Nat), fs.length < n →
      thelperMain handle malloc n (stream fs) =
        some ((fitting fs).map fun f => ⟨f.encode, sent f⟩)) :
    InOrder fs ∧ ∀ f ∈ fs, f.Fits serverBufSize → Settled handle f.encode := by
  induction fs with
  | nil => exact ⟨trivial, fun f hf => absurd hf List.not_mem_nil⟩
  | cons f fs ih =>
      simp only [stream_cons] at h
      rcases Classical.em (f.Fits serverBufSize) with hfits | hfits
      · have hturn : ∀ (malloc : Nat → Ptr) (n : Nat), fs.length < n →
            (thelperMain handle malloc n (stream fs) =
                some ((fitting fs).map fun f => ⟨f.encode, sent f⟩)) ∧
              dispatch handle (cat f.encode ((malloc n).advance f.msgsz)) = sent f := by
          intro malloc n hn
          have hrun := h malloc (n + 1) (by rw [List.length_cons]; omega)
          rw [thelperMain_fits handle hfits, fitting_cons hfits] at hrun
          obtain ⟨out, hout, hcons⟩ := Option.map_eq_some_iff.mp hrun
          obtain ⟨hhead, htail⟩ := List.cons.inj hcons
          rw [htail] at hout
          exact ⟨hout, congrArg Received.sent hhead⟩
        obtain ⟨horder, hsettled⟩ := ih fun malloc n hn => (hturn malloc n hn).1
        refine ⟨by rw [InOrder, if_pos hfits]; exact horder, ?_⟩
        intro g hg hgfits
        rcases List.mem_cons.mp hg with rfl | hg
        · have hsent : ∀ rest : Ptr, dispatch handle (cat g.encode rest) = sent g := by
            intro rest
            have hmem := (hturn (fun _ i => rest (i - g.msgsz)) (fs.length + 1)
              (Nat.lt_succ_self _)).2
            have hrest : Ptr.advance (fun i => rest (i - g.msgsz)) g.msgsz = rest := by
              funext i
              rw [Ptr.advance, Nat.add_sub_cancel_left]
            rw [hrest] at hmem
            exact hmem
          exact (dispatch_iff handle g.encode).mp fun rest rest' =>
            (hsent rest).trans (hsent rest').symm
        · exact hsettled g hg hgfits
      · have hrun := h (fun _ => filled 0) (fs.length + 2) (by rw [List.length_cons]; omega)
        rw [thelperMain_not_fits handle hfits] at hrun
        split at hrun
        · cases hrun
        · next hroom =>
            have hnone : ∀ g ∈ f :: fs, ¬ g.Fits serverBufSize :=
              fitting_eq_nil.mp (List.map_eq_nil_iff.mp (Option.some.inj hrun).symm)
            refine ⟨?_, fun g hg hgfits => absurd hgfits (hnone g hg)⟩
            rw [InOrder, if_neg hfits]
            refine ⟨fun g hg => hnone g (List.mem_cons_of_mem _ hg), fun hsmall => ?_⟩
            exact Nat.le_of_not_lt fun hlt => hroom ⟨hsmall, hlt⟩

/-- The frames survive the pipe exactly if none that fits comes after one that
does not, no size that is too small lets in more bytes than there is room for,
and every one that fits is long enough for what the server looks at. A frame
that fits a buffer is received in it as it was sent. -/
theorem survives_iff (fs : List Frame) :
    (Survives handle fs ↔
        InOrder fs ∧ ∀ f ∈ fs, f.Fits serverBufSize → Settled handle f.encode) ∧
      ∀ (msgbufsz : Nat) (msgp buffer : Ptr) (msgsz : Nat) (pipe : List Byte),
        msgbufsz < 2147483648 → sizeofSize ≤ msgsz → msgsz ≤ msgbufsz →
          ∃ p, msgrcv msgbufsz buffer (msgsnd msgp msgsz ++ pipe) = .received msgsz p pipe ∧
            memcpy p msgsz = msgsnd msgp msgsz := by
  refine ⟨⟨?_, ?_⟩, ?_⟩
  · rintro ⟨sent, hsent⟩
    exact inOrder_of_thelperMain handle hsent
  · rintro ⟨horder, hsettled⟩
    exact ⟨_, thelperMain_of_inOrder handle horder hsettled⟩
  · intro msgbufsz msgp buffer msgsz pipe hbuf hmin hmax
    have hbound : sizeBound = 18446744073709551616 := by decide
    obtain ⟨f, rfl, hf⟩ := msgsnd_eq msgp hmin (by omega)
    rw [hf, msgrcv_fits buffer hbuf ⟨hmin, hmax⟩]
    refine ⟨_, rfl, ?_⟩
    rw [← Frame.length_of_fits ⟨hmin, hmax⟩, memcpy_cat]

end

/-- A frame of this size with this control type, and zeros elsewhere. -/
def typedFrame (msgsz : Nat) (ctrlType : Byte) (h : msgsz < sizeBound) : Frame where
  msgsz := msgsz
  body := (List.range (msgsz - sizeofSize)).map fun i =>
    if sizeofSize + i = ctrlTypeOffset then ctrlType else 0
  isLt := h
  length_body := by rw [List.length_map, List.length_range]

/-- A release by the first sender. -/
def releaseFrame : Frame :=
  typedFrame sizeofCtrlMsgbuf gpsoneLocApiIfRelease (by decide)

theorem releaseFrame_settled : Settled true releaseFrame.encode := by
  have hlen : releaseFrame.encode.length = 128 := by
    rw [Frame.length_encode]
    rfl
  refine ⟨by rw [hlen]; decide, fun _ => ?_⟩
  have htype : ifRequestType ((cat releaseFrame.encode (filled 0)).advance typeOffset).u32 =
      some .supl := by decide
  have hsender : ifRequestSenderId
      ((cat releaseFrame.encode (filled 0)).advance senderIdOffset).u32 = some (.wifi .quipc) := by
    decide
  rw [TypeSettled, htype]
  refine ⟨by rw [hlen]; decide, ?_⟩
  rw [SenderSettled, hsender]
  refine ⟨by rw [hlen]; decide, Or.inl ?_, Or.inl ?_⟩
  · rw [hlen]
    decide
  · rw [hlen]
    decide

theorem survives_iff_release :
    Survives true [releaseFrame, typedFrame 20 0 (by decide)] ∧
      ∃ p, msgrcv 384 (filled 0) (msgsnd (filled 7) 9 ++ []) = .received 9 p [] ∧
        memcpy p 9 = msgsnd (filled 7) 9 := by
  obtain ⟨hsurvives, hsnd⟩ := survives_iff true [releaseFrame, typedFrame 20 0 (by decide)]
  refine ⟨hsurvives.mpr ⟨?_, ?_⟩, hsnd 384 (filled 7) (filled 0) 9 [] (by decide) (by decide)
    (by decide)⟩
  · rw [InOrder, if_pos (by decide), InOrder, if_pos (by decide)]
    trivial
  · intro f hf _
    simp only [List.mem_cons, List.not_mem_nil, or_false] at hf
    rcases hf with rfl | rfl
    · exact releaseFrame_settled
    · have hctrl : cat (typedFrame 20 0 (by decide)).encode (filled 0) ctrlTypeOffset = 0 := by
        decide
      refine ⟨by rw [Frame.length_encode]; decide, ?_⟩
      rw [hctrl]
      rintro (⟨hreq, -⟩ | hrel)
      · exact absurd hreq (by decide)
      · exact absurd hrel (by decide)

/-- The release is lost behind a frame that is too large, it is written behind
the buffer after sizes that are too small, and without its control type it is a
release or not, as the memory has it. -/
theorem not_survives :
    ¬ Survives true [typedFrame 1000 0 (by decide), releaseFrame] ∧
      thelperMain true (fun _ => filled 0) 3
        (stream [typedFrame 0 0 (by decide), typedFrame 380 0 (by decide)]) = none ∧
      ¬ Survives true [typedFrame 16 0 (by decide)] := by
  refine ⟨?_, ?_, ?_⟩
  · rintro ⟨sent, hsent⟩
    obtain ⟨horder, -⟩ := inOrder_of_thelperMain true hsent
    rw [InOrder, if_neg (by decide)] at horder
    exact horder.1 releaseFrame List.mem_cons_self (by decide)
  · rw [stream_cons, thelperMain_not_fits true (by decide), if_pos]
    refine ⟨by decide, ?_⟩
    rw [stream_cons, List.length_append, Frame.length_encode]
    decide
  · rintro ⟨sent, hsent⟩
    obtain ⟨-, hsettled⟩ := inOrder_of_thelperMain true hsent
    obtain ⟨hlong, -⟩ := hsettled (typedFrame 16 0 (by decide)) List.mem_cons_self (by decide)
    rw [Frame.length_encode] at hlong
    revert hlong
    decide

end LibraDevice.DmnConn
