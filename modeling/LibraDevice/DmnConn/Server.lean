import LibraDevice.Lib.Bytes
import LibraDevice.Lib.CBuffer

/-!
The messages on the pipes of the location daemons, and the server that takes their
requests: the handlers, one turn of `loc_api_server_proc`, and the loop around it.
A pipe is a stream of bytes, and a read takes what is there, up to the number asked for.
-/

namespace LibraDevice.DmnConn

open Bytes
open CBuffer (strlcpy)

/-- `sizeof(size_t)`. -/
def sizeofSize : Nat := 8

/-- One more than the largest `size_t`. -/
def sizeBound : Nat := 256 ^ sizeofSize

/-- `read`: what it takes from the pipe, and what it leaves. -/
def piperead (pipe : List Byte) (sz : Nat) : List Byte × List Byte :=
  (pipe.take sz, pipe.drop sz)

/-- The bytes that `loc_eng_dmn_conn_glue_msgsnd` writes, the size first. -/
def msgsnd (msgp : Ptr) (msgsz : Nat) : List Byte :=
  (List.range msgsz).map (msgp.write 0 (toLe sizeofSize msgsz))

inductive Rcv where
  /-- A byte has been written behind the buffer. -/
  | overflow
  | failed (pipe : List Byte)
  | received (length : Int) (msgp : Ptr) (pipe : List Byte)

/-- `loc_eng_dmn_conn_glue_msgrcv`. The second read asks for a difference of two `size_t`. -/
def msgrcv (msgbufsz : Nat) (msgp : Ptr) (pipe : List Byte) : Rcv :=
  let (header, pipe) := piperead pipe sizeofSize
  let msgp := msgp.write 0 header
  if header.length ≠ sizeofSize then .failed pipe
  else
    let msgsz := ofLe header
    if msgbufsz < msgsz then .failed pipe
    else
      let rest := (msgsz + (sizeBound - sizeofSize)) % sizeBound
      let (body, pipe) := piperead pipe rest
      if msgbufsz < sizeofSize + body.length then .overflow
      else
        let msgp := msgp.write sizeofSize body
        if toInt body.length ≠ toInt rest then .failed pipe
        else .received (toInt msgsz) msgp pipe

/-- A size of any value, and as many bytes as it has room for. -/
structure Frame where
  msgsz : Nat
  body : List Byte
  isLt : msgsz < sizeBound
  length_body : body.length = msgsz - sizeofSize

namespace Frame

def encode (f : Frame) : List Byte :=
  toLe sizeofSize f.msgsz ++ f.body

/-- The size is neither too small nor too large. -/
def Fits (msgbufsz : Nat) (f : Frame) : Prop :=
  sizeofSize ≤ f.msgsz ∧ f.msgsz ≤ msgbufsz

instance decidableFits (msgbufsz : Nat) (f : Frame) : Decidable (f.Fits msgbufsz) :=
  inferInstanceAs (Decidable (_ ∧ _))

theorem length_encode (f : Frame) : f.encode.length = max f.msgsz sizeofSize := by
  rw [encode, List.length_append, length_toLe, f.length_body]
  omega

theorem length_of_fits {f : Frame} {msgbufsz : Nat} (h : f.Fits msgbufsz) :
    f.encode.length = f.msgsz := by
  rw [length_encode, Nat.max_eq_left h.1]

end Frame

/-- The frames as they follow each other in the pipe. -/
def stream (fs : List Frame) : List Byte :=
  fs.flatMap Frame.encode

section

variable {msgbufsz : Nat} (msgp : Ptr)

theorem msgrcv_nil : msgrcv msgbufsz msgp [] = .failed [] := by
  rw [msgrcv]
  exact if_pos (by decide)

theorem msgrcv_encode (f : Frame) (rest : List Byte) :
    msgrcv msgbufsz msgp (f.encode ++ rest) =
      if msgbufsz < f.msgsz then .failed (f.body ++ rest)
      else
        let n := (f.msgsz + (sizeBound - sizeofSize)) % sizeBound
        let body := (f.body ++ rest).take n
        if msgbufsz < sizeofSize + body.length then .overflow
        else
          if toInt body.length ≠ toInt n then .failed ((f.body ++ rest).drop n)
          else .received (toInt f.msgsz)
            (msgp.write 0 (toLe sizeofSize f.msgsz ++ body)) ((f.body ++ rest).drop n) := by
  have hlen : (toLe sizeofSize f.msgsz).length = sizeofSize := length_toLe _ _
  have htake : (f.encode ++ rest).take sizeofSize = toLe sizeofSize f.msgsz := by
    rw [Frame.encode, List.append_assoc, List.take_left' hlen]
  have hdrop : (f.encode ++ rest).drop sizeofSize = f.body ++ rest := by
    rw [Frame.encode, List.append_assoc, List.drop_left' hlen]
  simp only [msgrcv, piperead, htake, hdrop]
  rw [if_neg (not_not.mpr hlen), ofLe_toLe f.isLt]
  have hwrite : ∀ bs, (msgp.write 0 (toLe sizeofSize f.msgsz)).write sizeofSize bs =
      msgp.write 0 (toLe sizeofSize f.msgsz ++ bs) := by
    intro bs
    have h := write_write msgp (toLe sizeofSize f.msgsz) bs
    rw [hlen] at h
    exact h
  simp only [hwrite]

theorem msgrcv_fits (hsz : msgbufsz < 2147483648) {f : Frame} (h : f.Fits msgbufsz)
    (rest : List Byte) : msgrcv msgbufsz msgp (f.encode ++ rest) =
      .received f.msgsz (cat f.encode (msgp.advance f.msgsz)) rest := by
  obtain ⟨hmin, hmax⟩ := h
  have hn : (f.msgsz + (sizeBound - sizeofSize)) % sizeBound = f.msgsz - sizeofSize := by
    have hlt := f.isLt
    have hbound : sizeofSize ≤ sizeBound := by decide
    rw [show f.msgsz + (sizeBound - sizeofSize) = (f.msgsz - sizeofSize) + sizeBound by omega,
      Nat.add_mod_right, Nat.mod_eq_of_lt (by omega)]
  have htake : (f.body ++ rest).take (f.msgsz - sizeofSize) = f.body :=
    List.take_left' f.length_body
  have hdrop : (f.body ++ rest).drop (f.msgsz - sizeofSize) = rest :=
    List.drop_left' f.length_body
  rw [msgrcv_encode, if_neg (Nat.not_lt.mpr hmax), hn]
  simp only [htake, hdrop]
  rw [if_neg (by rw [f.length_body]; omega), f.length_body, if_neg (not_not.mpr rfl),
    toInt_natCast (by omega), write_zero]
  have hlen := Frame.length_of_fits ⟨hmin, hmax⟩
  rw [Frame.encode] at hlen ⊢
  rw [hlen]

theorem msgrcv_large {f : Frame} (h : msgbufsz < f.msgsz) (rest : List Byte) :
    msgrcv msgbufsz msgp (f.encode ++ rest) = .failed (f.body ++ rest) := by
  rw [msgrcv_encode, if_pos h]

theorem msgrcv_small (hmin : sizeofSize ≤ msgbufsz) (hsz : msgbufsz < 2147483648) {f : Frame}
    (h : f.msgsz < sizeofSize) (rest : List Byte) :
    msgrcv msgbufsz msgp (f.encode ++ rest) =
      if msgbufsz < sizeofSize + rest.length then .overflow else .failed [] := by
  have hbody : f.body = [] := by
    rw [← List.length_eq_zero_iff, f.length_body]
    omega
  have hbound : sizeBound = 18446744073709551616 := by decide
  have hsize : sizeofSize = 8 := rfl
  have hn : (f.msgsz + (sizeBound - sizeofSize)) % sizeBound =
      18446744073709551616 - 8 + f.msgsz := by
    rw [hbound, hsize, Nat.mod_eq_of_lt (by omega)]
    omega
  rw [msgrcv_encode, if_neg (by omega), hn, hbody]
  simp only [List.nil_append, List.length_take]
  rcases Nat.lt_or_ge msgbufsz (sizeofSize + rest.length) with hlt | hge
  · rw [if_pos hlt, if_pos (by omega)]
  · rw [if_neg (Nat.not_lt.mpr hge), if_neg (by omega), if_pos, List.drop_of_length_le (by omega)]
    rw [Nat.min_eq_right (by omega), toInt_natCast (by omega), toInt, Int.bmod]
    split
    · omega
    · omega

theorem msgsnd_eq {msgsz : Nat} (hmin : sizeofSize ≤ msgsz) (hmax : msgsz < sizeBound) :
    ∃ f : Frame, f.msgsz = msgsz ∧ msgsnd msgp msgsz = f.encode := by
  refine ⟨⟨msgsz, (List.range (msgsz - sizeofSize)).map (msgp.advance sizeofSize), hmax, ?_⟩,
    rfl, ?_⟩
  · rw [List.length_map, List.length_range]
  · apply List.ext_getElem
    · rw [msgsnd, List.length_map, List.length_range, Frame.encode, List.length_append,
        length_toLe, List.length_map, List.length_range, Nat.add_sub_cancel' hmin]
    · intro i hi _
      rw [msgsnd, List.length_map, List.length_range] at hi
      have hlen : (toLe sizeofSize msgsz).length = sizeofSize := length_toLe _ _
      simp only [msgsnd, Frame.encode, List.getElem_map, List.getElem_range]
      rw [Ptr.write_ge (Nat.zero_le i), Nat.sub_zero]
      rcases Nat.lt_or_ge i sizeofSize with hlt | hge
      · rw [List.getElem?_eq_getElem (by rw [hlen]; exact hlt), List.getElem_append_left]
        rfl
      · rw [List.getElem?_eq_none (by rw [hlen]; exact hge),
          List.getElem_append_right (by rw [hlen]; exact hge), List.getElem_map,
          List.getElem_range, Ptr.advance, hlen, Nat.add_sub_cancel' hge]
        rfl

end

def ctrlTypeOffset : Nat := 16
def typeOffset : Nat := 24
def senderIdOffset : Nat := 28
def ipv4AddrOffset : Nat := 32
def ipv6AddrOffset : Nat := 40
def ssidOffset : Nat := 56
def passwordOffset : Nat := 89

def sizeofCtrlMsgbuf : Nat := 128

def ssidBufSize : Nat := 33

def gpsoneLocApiIfRequest : Byte := 0xf0
def gpsoneLocApiIfRelease : Byte := 0xf1
def gpsoneUnblock : Byte := 0xf3

/-- `AGpsExtType`, as far as it is asked for. -/
inductive AgpsType where
  | supl
  | wifi
  | any
deriving DecidableEq, Repr

inductive WifiSender where
  | quipc
  | msapm
  | msapu
deriving DecidableEq, Repr

inductive SenderId where
  | wifi (sender : WifiSender)
  | gpsoneDaemon
deriving DecidableEq, Repr

/-- The cases of the switch over `type`. -/
def ifRequestType (type : BitVec 32) : Option AgpsType :=
  if type = 0 then some .supl
  else if type = 1 then some .wifi
  else if type = 2 then some .any
  else none

/-- The cases of the switch over `sender_id`. -/
def ifRequestSenderId (senderId : BitVec 32) : Option SenderId :=
  if senderId = 0 then some (.wifi .quipc)
  else if senderId = 1 then some (.wifi .msapm)
  else if senderId = 2 then some (.wifi .msapu)
  else if senderId = 3 then some .gpsoneDaemon
  else none

/-- The string at a pointer, up to its end or `n` bytes. -/
def stringAt (src : Ptr) (n : Nat) : List Byte :=
  ((List.range n).map src).takeWhile (· ≠ 0)

/-- `strlcpy` of the string at a pointer. -/
def strlcpyAt (src : Ptr) (siz : Nat) : List Byte :=
  strlcpy (stringAt src (siz - 1)) siz

theorem strlcpyAt_eq (src : Ptr) (siz : Nat) : strlcpyAt src siz = stringAt src (siz - 1) := by
  apply List.take_of_length_le
  have hle := (List.takeWhile_sublist (fun b => decide (b ≠ 0))
    (l := (List.range (siz - 1)).map src)).length_le
  rw [List.length_map, List.length_range] at hle
  exact hle

def memcpy (src : Ptr) (n : Nat) : List Byte :=
  (List.range n).map src

/-- `LocEngReqRelWifi` and `LocEngReqRelBIT`. -/
inductive LocEngReqRel where
  | wifi (type : AgpsType) (senderId : WifiSender) (ssid password : List Byte) (isReq : Bool)
  | bit (type : AgpsType) (ipv4Addr : BitVec 32) (ipv6Addr : List Byte) (isReq : Bool)
deriving DecidableEq

/-- The message of a sender, from the rest of the request. -/
def reqRel (type : AgpsType) (senderId : SenderId) (pmsg : Ptr) (isReq : Bool) : LocEngReqRel :=
  match senderId with
  | .wifi sender =>
      .wifi type sender (strlcpyAt (pmsg.advance ssidOffset) ssidBufSize)
        (strlcpyAt (pmsg.advance passwordOffset) ssidBufSize) isReq
  | .gpsoneDaemon =>
      .bit type (pmsg.advance ipv4AddrOffset).u32 (memcpy (pmsg.advance ipv6AddrOffset) 16) isReq

/-- The two switches, which the handlers share: what is returned, and the
message that is sent. -/
def ifHandler (isReq : Bool) (pmsg : Ptr) : Int × Option LocEngReqRel :=
  match ifRequestType (pmsg.advance typeOffset).u32 with
  | none => (-1, none)
  | some type =>
      match ifRequestSenderId (pmsg.advance senderIdOffset).u32 with
      | none => (-1, none)
      | some senderId => (0, some (reqRel type senderId pmsg isReq))

/-- `loc_eng_dmn_conn_loc_api_server_if_request_handler`. `handle` says that
`loc_api_handle` is set. -/
def ifRequestHandler (handle : Bool) (pmsg : Ptr) : Int × Option LocEngReqRel :=
  if handle then ifHandler true pmsg else (1, none)

/-- `loc_eng_dmn_conn_loc_api_server_if_release_handler`. -/
def ifReleaseHandler (pmsg : Ptr) : Int × Option LocEngReqRel :=
  ifHandler false pmsg

/-- The switch of `loc_api_server_proc`, which drops what the handlers return. -/
def dispatch (handle : Bool) (pmsg : Ptr) : Option LocEngReqRel :=
  if pmsg ctrlTypeOffset = gpsoneLocApiIfRequest then (ifRequestHandler handle pmsg).2
  else if pmsg ctrlTypeOffset = gpsoneLocApiIfRelease then (ifReleaseHandler pmsg).2
  else none

/-- A message that has been received: its bytes, and what it made the server send. -/
structure Received where
  bytes : List Byte
  sent : Option LocEngReqRel
deriving DecidableEq

inductive Turn where
  | overflow
  | done (result : Int) (received : Option Received) (pipe : List Byte)

/-- The size of the buffer. -/
def serverBufSize : Nat := sizeofCtrlMsgbuf + 256

/-- `loc_api_server_proc`, on the memory that `malloc` returns. -/
def locApiServerProc (handle : Bool) (malloc : Ptr) (pipe : List Byte) : Turn :=
  match msgrcv serverBufSize malloc pipe with
  | .overflow => .overflow
  | .failed pipe => .done (-1) none pipe
  | .received length p_cmsgbuf pipe =>
      if length ≤ 0 then .done (-1) none pipe
      else
        .done 0 (some ⟨memcpy p_cmsgbuf length.toNat, dispatch handle p_cmsgbuf⟩) pipe

/-- The loop of `thelper_main`, for at most `n` turns: what is received, or
`none` after a write behind the buffer. Turn by turn `malloc` returns a memory
of its own. -/
def thelperMain (handle : Bool) (malloc : Nat → Ptr) : Nat → List Byte → Option (List Received)
  | 0, _ => some []
  | n + 1, pipe =>
      match locApiServerProc handle (malloc n) pipe with
      | .overflow => none
      | .done result received pipe =>
          if result < 0 then some received.toList
          else (thelperMain handle malloc n pipe).map (received.toList ++ ·)

end LibraDevice.DmnConn
