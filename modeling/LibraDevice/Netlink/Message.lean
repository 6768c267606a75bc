import LibraDevice.Netlink.Events
import Mathlib.Data.List.Induction

/-!
Well-formed messages: their bytes, and what their own attributes say.
-/

namespace LibraDevice.Netlink

open LibraDevice.Bytes
open LibraDevice.Records

/-- An attribute, padded to four bytes. -/
structure Attr where
  rtaType : Nat
  data : List Byte
  pad : List Byte
  type_lt : rtaType < 2 ^ 16
  len_lt : data.length + 4 < 2 ^ 16
  pad_length : data.length + 4 + pad.length = align (data.length + 4)
deriving DecidableEq, Repr

def Attr.encode (a : Attr) : List Byte :=
  le16 (a.data.length + 4) ++ (le16 a.rtaType ++ (a.data ++ a.pad))

def encodeAttrs (attrs : List Attr) : List Byte :=
  attrs.flatMap Attr.encode

/-- The data of the last attribute of a type. -/
def lastData (rtaType : Nat) (attrs : List Attr) : Option (List Byte) :=
  attrs.foldl (fun last a => if a.rtaType = rtaType then some a.data else last) none

theorem Attr.encode_length (a : Attr) : a.encode.length = align (a.data.length + 4) := by
  rw [← a.pad_length]
  simp only [Attr.encode, le16, List.length_append, List.length_cons, List.length_nil]
  omega

theorem encodeAttrs_dvd (attrs : List Attr) : 4 ∣ (encodeAttrs attrs).length := by
  induction attrs with
  | nil => exact Nat.dvd_zero 4
  | cons a attrs ih =>
      rw [encodeAttrs, List.flatMap_cons, List.length_append, Attr.encode_length]
      exact Nat.dvd_add (align_dvd _) ih

theorem lastData_cons (rtaType : Nat) (a : Attr) (attrs : List Attr) :
    lastData rtaType (a :: attrs) =
      (lastData rtaType attrs).or (if a.rtaType = rtaType then some a.data else none) := by
  have hfold : ∀ last, attrs.foldl
      (fun last a => if a.rtaType = rtaType then some a.data else last) last =
        (lastData rtaType attrs).or last := by
    induction attrs using List.reverseRecOn with
    | nil => exact fun _ => rfl
    | append_singleton attrs b ih =>
        intro last
        simp only [lastData, List.foldl_append, List.foldl_cons, List.foldl_nil]
        split
        · rfl
        · exact ih last
  exact hfold _

theorem lastData_mem {rtaType : Nat} {attrs : List Attr} {data : List Byte}
    (h : lastData rtaType attrs = some data) :
    ∃ a ∈ attrs, a.rtaType = rtaType ∧ a.data = data := by
  induction attrs with
  | nil => cases h
  | cons a attrs ih =>
      rw [lastData_cons] at h
      cases hlast : lastData rtaType attrs with
      | some data' =>
          rw [hlast, Option.some_or] at h
          obtain ⟨b, hb, hdata⟩ := ih (hlast.trans h)
          exact ⟨b, List.mem_cons_of_mem a hb, hdata⟩
      | none =>
          rw [hlast, Option.none_or, Option.ite_none_right_eq_some, Option.some.injEq] at h
          exact ⟨a, List.mem_cons_self, h⟩

section

variable {σ : Type} {attr : Nat → Ptr → σ → σ}

/-- What the attributes do, with `p` behind them. -/
def foldAttrs (attr : Nat → Ptr → σ → σ) (p : Ptr) : List Attr → σ → σ
  | [], s => s
  | a :: attrs, s =>
      foldAttrs attr p attrs
        (attr a.rtaType (cat (a.data ++ a.pad) (cat (encodeAttrs attrs) p)) s)

theorem attributes_cat (attrs : List Attr) (p : Ptr) (n : Nat) (s : σ) :
    attributes attr (cat (encodeAttrs attrs) p) ((encodeAttrs attrs).length + n) s =
      attributes attr p n (foldAttrs attr p attrs s) := by
  induction attrs generalizing s with
  | nil => rw [encodeAttrs, List.flatMap_nil, List.length_nil, Nat.zero_add, cat, foldAttrs]
  | cons a attrs ih =>
      have hcons : encodeAttrs (a :: attrs) = a.encode ++ encodeAttrs attrs := List.flatMap_cons
      have hsize : (cat a.encode (cat (encodeAttrs attrs) p)).u16 = a.data.length + 4 :=
        u16_le16 a.len_lt _ _
      have htype : ((cat a.encode (cat (encodeAttrs attrs) p)).advance 2).u16 = a.rtaType := by
        rw [Attr.encode]
        exact (congrArg Ptr.u16 (cat_advance_append _ _ _)).trans (u16_le16 a.type_lt _ _)
      have hdata : (cat a.encode (cat (encodeAttrs attrs) p)).advance 4 =
          cat (a.data ++ a.pad) (cat (encodeAttrs attrs) p) := by
        rw [Attr.encode, ← List.append_assoc]
        exact cat_advance_append (le16 _ ++ le16 _) _ _
      rw [hcons, List.length_append, cat_append, Nat.add_assoc, attributes,
        records_cat (by decide) (by rw [hsize, a.encode_length]) (by rw [hsize]; omega)]
      simp only [htype, hdata]
      exact ih _

theorem foldAttrs_field {β : Type} {I : σ → Prop} (get : σ → β) (rtaType : Nat)
    (read : Ptr → β) (hI : ∀ t p s, I s → I (attr t p s))
    (hget : ∀ t p s, I s → get (attr t p s) = if t = rtaType then read p else get s)
    (p : Ptr) (attrs : List Attr) {s : σ} (hs : I s) :
    (lastData rtaType attrs = none ∧ get (foldAttrs attr p attrs s) = get s) ∨
      ∃ data q, lastData rtaType attrs = some data ∧
        get (foldAttrs attr p attrs s) = read (cat data q) := by
  induction attrs generalizing s with
  | nil => exact Or.inl ⟨rfl, rfl⟩
  | cons a attrs ih =>
      rw [foldAttrs, lastData_cons]
      rcases ih (hI _ _ _ hs) with ⟨hnone, heq⟩ | ⟨data, q, hsome, heq⟩
      · rw [hnone, Option.none_or, heq, hget _ _ _ hs]
        split
        · exact Or.inr ⟨a.data, _, rfl, by rw [cat_append]⟩
        · exact Or.inl ⟨rfl, rfl⟩
      · rw [hsome, Option.some_or]
        exact Or.inr ⟨data, q, rfl, heq⟩

theorem foldAttrs_invariant {I : σ → Prop} (hI : ∀ t p s, I s → I (attr t p s)) (p : Ptr)
    (attrs : List Attr) {s : σ} (hs : I s) : I (foldAttrs attr p attrs s) := by
  induction attrs generalizing s with
  | nil => exact hs
  | cons a attrs ih => exact ih (hI _ _ _ hs)

end

/-- What the own bytes say, where nothing lies behind them. -/
def zeros : Ptr :=
  fun _ => 0

/-- The length of the header of a type. -/
def MsgType.HasMeta (type : MsgType) (n : Nat) : Prop :=
  match type with
  | .newLink | .delLink => n = 16
  | .newAddr => n = 8
  | .newRoute | .delRoute | .newNeigh | .delNeigh => n = 12
  | .other => 4 ∣ n

instance MsgType.instDecidableHasMeta : (type : MsgType) → (n : Nat) → Decidable (type.HasMeta n)
  | .newLink, n | .delLink, n => inferInstanceAs (Decidable (n = 16))
  | .newAddr, n => inferInstanceAs (Decidable (n = 8))
  | .newRoute, n | .delRoute, n | .newNeigh, n | .delNeigh, n =>
      inferInstanceAs (Decidable (n = 12))
  | .other, n => inferInstanceAs (Decidable (4 ∣ n))

/-- The size of an address of a family. -/
def addrSize (family : Byte) : Nat :=
  if family = afInet6 then 16 else 4

/-- The least size of the data of an attribute that is read. -/
def dataSize (type : MsgType) (family : Byte) (rtaType : Nat) : Nat :=
  match type with
  | .newAddr => if rtaType = 1 then addrSize family else 0
  | .newRoute | .delRoute =>
      if rtaType = 1 then addrSize family else if rtaType = 4 then 4 else 0
  | .newNeigh | .delNeigh =>
      if rtaType = 1 then addrSize family else if rtaType = 2 then 6 else 0
  | .newLink | .delLink | .other => 0

/-- A well-formed message, no longer than a receive buffer. `head` is the header
behind the type, `metainfo` the header of the type. -/
structure Message where
  nlmsgType : Nat
  head : List Byte
  metainfo : List Byte
  attrs : List Attr
  type_lt : nlmsgType < 2 ^ 16
  head_length : head.length = 10
  metainfo_length : (MsgType.of nlmsgType).HasMeta metainfo.length
  data_length : ∀ a ∈ attrs,
    dataSize (MsgType.of nlmsgType) (metainfo.headD 0) a.rtaType ≤ a.data.length
  len_le : 16 + metainfo.length + (encodeAttrs attrs).length ≤ 2048
deriving DecidableEq, Repr

/-- The events posted when a message has been handled. -/
def postedBy : Visit State → List Event
  | .fault => []
  | .done s | .next s => s.posted

namespace Message

def type (m : Message) : MsgType :=
  MsgType.of m.nlmsgType

def family (m : Message) : Byte :=
  m.metainfo.headD 0

/-- `nlmsg_len`. -/
def len (m : Message) : Nat :=
  16 + m.metainfo.length + (encodeAttrs m.attrs).length

def encode (m : Message) : List Byte :=
  le32 (BitVec.ofNat 32 m.len) ++ (le16 m.nlmsgType ++ (m.head ++
    (m.metainfo ++ encodeAttrs m.attrs)))

/-- The header of the type, and nothing behind it. -/
def metaPtr (m : Message) : Ptr :=
  cat m.metainfo zeros

/-- The address of the last attribute of a type. -/
def lastAddr (m : Message) (rtaType : Nat) : Addr :=
  (lastData rtaType m.attrs).elim noAddr fun data => copyAddr (cat data zeros)

def linkInfo (m : Message) : LinkInfo where
  ifiFamily := m.metaPtr 0
  ifiIndex := (m.metaPtr.advance 4).u32
  ifiFlags := (m.metaPtr.advance 8).u32
  ifiChange := (m.metaPtr.advance 12).u32

def addrInfo (m : Message) : AddrInfo where
  ifaFamily := m.metaPtr 0
  ifaIndex := (m.metaPtr.advance 4).u32
  prefixFamily := if (lastData 1 m.attrs).isSome then m.metaPtr 0 else 0
  prefixAddr := m.lastAddr 1

def neighInfo (m : Message) : NeighInfo where
  ndmFamily := m.metaPtr 0
  ndmIfindex := (m.metaPtr.advance 4).u32
  localFamily := if (lastData 1 m.attrs).isSome then m.metaPtr 0 else 0
  localAddr := m.lastAddr 1
  lladdrHwaddr := (lastData 2 m.attrs).elim (fun _ => 0) fun data i => cat data zeros i

def routeInfo (m : Message) : RouteInfo where
  rtmFamily := m.metaPtr 0
  rtmDstLen := m.metaPtr 1
  rtmTable := m.metaPtr 4
  rtmProtocol := m.metaPtr 5
  rtmScope := m.metaPtr 6
  rtmType := m.metaPtr 7
  dst := (lastData 1 m.attrs).isSome
  gateway := (lastData 5 m.attrs).isSome
  dstAddr := m.lastAddr 1
  oifIndex := (lastData 4 m.attrs).elim 0 fun data => (cat data zeros).u32

/-- A zeroed `ipa_nl_msg_t` with what the message says. -/
def own (m : Message) : NlMsg :=
  match m.type with
  | .newLink | .delLink => { NlMsg.zeroed with nlLinkInfo := m.linkInfo }
  | .newAddr => { NlMsg.zeroed with nlAddrInfo := m.addrInfo }
  | .newRoute | .delRoute => { NlMsg.zeroed with nlRouteInfo := m.routeInfo }
  | .newNeigh | .delNeigh => { NlMsg.zeroed with nlNeighInfo := m.neighInfo }
  | .other => NlMsg.zeroed

/-- The events of what the message says. -/
def events (ifName : Word → Bool) (m : Message) : List Event :=
  postedBy (act ifName m.type { State.init with msg := m.own })

end Message

end LibraDevice.Netlink
