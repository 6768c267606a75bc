import LibraDevice.Netlink.Message

/-!
What the decoders make of a message at the start of a buffer.
-/

namespace LibraDevice.Netlink

open LibraDevice.Bytes
open LibraDevice.Records

namespace Message

variable {m : Message}

theorem encode_length (m : Message) : m.encode.length = m.len := by
  simp only [encode, len, le32, le16, List.length_append, List.length_cons, List.length_nil,
    m.head_length]
  omega

theorem len_dvd (m : Message) : 4 ∣ m.len := by
  have hattrs := encodeAttrs_dvd m.attrs
  have hmeta : 4 ∣ m.metainfo.length := by
    have h := m.metainfo_length
    cases htype : MsgType.of m.nlmsgType <;> simp only [htype, MsgType.HasMeta] at h <;>
      omega
  rw [len]
  omega

theorem len_lt (m : Message) : m.len < 2 ^ 16 :=
  Nat.lt_of_le_of_lt m.len_le (by decide)

theorem nlmsgLen_encode (m : Message) (p : Ptr) : nlmsgLen (cat m.encode p) = m.len := by
  rw [nlmsgLen, encode, u32_le32, BitVec.toNat_ofNat]
  exact Nat.mod_eq_of_lt (Nat.lt_trans m.len_lt (by decide))

theorem type_encode (m : Message) (p : Ptr) :
    MsgType.of ((cat m.encode p).advance 4).u16 = m.type := by
  rw [encode]
  exact congrArg MsgType.of
    ((congrArg Ptr.u16 (cat_advance_append (le32 _) _ _)).trans (u16_le16 m.type_lt _ _))

theorem nlmsgData_encode (m : Message) (p : Ptr) :
    nlmsgData (cat m.encode p) = cat m.metainfo (cat (encodeAttrs m.attrs) p) := by
  have hhead : (le32 (BitVec.ofNat 32 m.len) ++ (le16 m.nlmsgType ++ m.head)).length = 16 := by
    simp only [le32, le16, List.length_append, List.length_cons, List.length_nil, m.head_length]
  have hencode : m.encode = (le32 (BitVec.ofNat 32 m.len) ++ (le16 m.nlmsgType ++ m.head)) ++
      (m.metainfo ++ encodeAttrs m.attrs) := by
    simp only [encode, List.append_assoc]
  rw [nlmsgData, hencode, ← hhead, cat_advance_append, cat_append]

theorem meta_byte {i : Nat} (hi : i < m.metainfo.length) (p : Ptr) :
    nlmsgData (cat m.encode p) i = m.metaPtr i := by
  rw [nlmsgData_encode, metaPtr, cat_apply hi, cat_apply hi]

theorem meta_word {n : Nat} (hn : n + 4 ≤ m.metainfo.length) (p : Ptr) :
    ((nlmsgData (cat m.encode p)).advance n).u32 = (m.metaPtr.advance n).u32 := by
  apply Ptr.u32_congr
  intro i hi
  exact meta_byte (by omega) p

theorem attributes_encode {σ : Type} {attr : Nat → Ptr → σ → σ} (m : Message) (p : Ptr)
    (n : Nat) (s : σ) :
    attributes attr ((nlmsgData (cat m.encode p)).advance m.metainfo.length)
        (m.len + n - 16) s =
      attributes attr p (m.metainfo.length + n) (foldAttrs attr p m.attrs s) := by
  have hlen : m.len + n - 16 = (encodeAttrs m.attrs).length + (m.metainfo.length + n) := by
    rw [len]
    omega
  rw [nlmsgData_encode, cat_advance, hlen, attributes_cat]

end Message

theorem copyAddr_cat {data : List Byte} {i : Fin 4} (hi : 4 * (i : Nat) + 4 ≤ data.length)
    (p q : Ptr) : copyAddr (cat data p) i = copyAddr (cat data q) i := by
  apply Ptr.u32_congr
  intro j hj
  change cat data p (4 * i + j) = cat data q (4 * i + j)
  rw [cat_apply (by omega), cat_apply (by omega)]

/-- Two addresses of a family say the same: the first word, or all four. -/
def SameAddr (family : Byte) (a b : Addr) : Prop :=
  a 0 = b 0 ∧ (family = afInet6 → a = b)

theorem SameAddr.refl (family : Byte) (a : Addr) : SameAddr family a a :=
  ⟨rfl, fun _ => rfl⟩

theorem sameAddr_copyAddr {family : Byte} {data : List Byte}
    (hlen : addrSize family ≤ data.length) (p q : Ptr) :
    SameAddr family (copyAddr (cat data p)) (copyAddr (cat data q)) := by
  constructor
  · apply copyAddr_cat
    rw [addrSize] at hlen
    split at hlen <;> simp only [Fin.val_zero] <;> omega
  · intro hfamily
    rw [addrSize, if_pos hfamily] at hlen
    funext i
    exact copyAddr_cat (by omega) p q

def AddrInfo.Same (a b : AddrInfo) : Prop :=
  a = { b with prefixAddr := a.prefixAddr } ∧
    SameAddr a.prefixFamily a.prefixAddr b.prefixAddr

def NeighInfo.Same (a b : NeighInfo) : Prop :=
  a = { b with localAddr := a.localAddr } ∧ SameAddr a.localFamily a.localAddr b.localAddr

def RouteInfo.Same (a b : RouteInfo) : Prop :=
  a = { b with dstAddr := a.dstAddr } ∧ SameAddr a.rtmFamily a.dstAddr b.dstAddr

/-- The two say the same to a message of the type. -/
def NlMsg.Same (type : MsgType) (a b : NlMsg) : Prop :=
  match type with
  | .newLink | .delLink => a.nlLinkInfo = b.nlLinkInfo
  | .newAddr => a.nlAddrInfo.Same b.nlAddrInfo
  | .newRoute | .delRoute => a.nlRouteInfo.Same b.nlRouteInfo
  | .newNeigh | .delNeigh => a.nlNeighInfo.Same b.nlNeighInfo
  | .other => True

namespace Message

/-- What the message does not say is still zero. -/
def Fresh (m : Message) (msg : NlMsg) : Prop :=
  match m.type with
  | .newAddr =>
      lastData 1 m.attrs = none →
        msg.nlAddrInfo.prefixFamily = 0 ∧ msg.nlAddrInfo.prefixAddr = noAddr
  | .newRoute | .delRoute =>
      (lastData 1 m.attrs = none → msg.nlRouteInfo.dstAddr = noAddr) ∧
        (lastData 4 m.attrs = none → msg.nlRouteInfo.oifIndex = 0)
  | .newNeigh | .delNeigh =>
      (lastData 1 m.attrs = none →
        msg.nlNeighInfo.localFamily = 0 ∧ msg.nlNeighInfo.localAddr = noAddr) ∧
        (lastData 2 m.attrs = none → msg.nlNeighInfo.lladdrHwaddr = fun _ => 0)
  | .newLink | .delLink | .other => True

theorem fresh_zeroed (m : Message) : m.Fresh NlMsg.zeroed := by
  rw [Fresh]
  split
  · exact fun _ => ⟨rfl, rfl⟩
  · exact ⟨fun _ => rfl, fun _ => rfl⟩
  · exact ⟨fun _ => rfl, fun _ => rfl⟩
  · exact ⟨fun _ => ⟨rfl, rfl⟩, fun _ => rfl⟩
  · exact ⟨fun _ => ⟨rfl, rfl⟩, fun _ => rfl⟩
  all_goals trivial

/-- The own attributes, with `p` behind them. -/
def read (m : Message) (p : Ptr) (msg : NlMsg) : NlMsg :=
  match m.type with
  | .newLink | .delLink => { msg with nlLinkInfo := m.linkInfo }
  | .newAddr =>
      { msg with
        nlAddrInfo := foldAttrs addrAttr p m.attrs
          { msg.nlAddrInfo with
            ifaFamily := m.metaPtr 0
            ifaIndex := (m.metaPtr.advance 4).u32 } }
  | .newRoute | .delRoute =>
      { msg with
        nlRouteInfo := foldAttrs routeAttr p m.attrs
          { msg.nlRouteInfo with
            rtmFamily := m.metaPtr 0
            rtmDstLen := m.metaPtr 1
            rtmTable := m.metaPtr 4
            rtmProtocol := m.metaPtr 5
            rtmScope := m.metaPtr 6
            rtmType := m.metaPtr 7
            dst := false
            gateway := false } }
  | .newNeigh | .delNeigh =>
      { msg with
        nlNeighInfo := foldAttrs neighAttr p m.attrs
          { msg.nlNeighInfo with
            ndmFamily := m.metaPtr 0
            ndmIfindex := (m.metaPtr.advance 4).u32 } }
  | .other => msg

/-- The walk behind the own attributes. -/
def parseTail (type : MsgType) (p : Ptr) (n : Nat) (msg : NlMsg) : Option NlMsg :=
  match type with
  | .newAddr =>
      (attributes addrAttr p n msg.nlAddrInfo).map fun info =>
        { msg with nlAddrInfo := info }
  | .newRoute | .delRoute =>
      (attributes routeAttr p n msg.nlRouteInfo).map fun info =>
        { msg with nlRouteInfo := info }
  | .newNeigh | .delNeigh =>
      (attributes neighAttr p n msg.nlNeighInfo).map fun info =>
        { msg with nlNeighInfo := info }
  | .newLink | .delLink | .other => some msg

theorem parse_encode (m : Message) (p : Ptr) (n : Nat) (msg : NlMsg) :
    parse m.type (cat m.encode p) (m.len + n) msg =
      parseTail m.type p (m.metainfo.length + n) (m.read p msg) := by
  have hmeta : m.type.HasMeta m.metainfo.length := m.metainfo_length
  cases htype : m.type <;> simp only [htype, MsgType.HasMeta] at hmeta
  case newLink | delLink =>
    have hlink : decodeRtmLink (cat m.encode p) = m.linkInfo := by
      rw [decodeRtmLink, linkInfo, meta_byte (by omega), meta_word (by omega),
        meta_word (by omega), meta_word (by omega)]
    simp only [parse, parseTail, read, htype, hlink]
  case newAddr =>
    simp only [parse, parseTail, read, htype, decodeRtmAddr]
    rw [meta_byte (by omega), meta_word (by omega), ← hmeta, attributes_encode]
  case newRoute | delRoute =>
    simp only [parse, parseTail, read, htype, decodeRtmRoute]
    rw [meta_byte (by omega), meta_byte (by omega), meta_byte (by omega), meta_byte (by omega),
      meta_byte (by omega), meta_byte (by omega), ← hmeta, attributes_encode]
  case newNeigh | delNeigh =>
    simp only [parse, parseTail, read, htype, decodeRtmNeigh]
    rw [meta_byte (by omega), meta_word (by omega), ← hmeta, attributes_encode]
  case other => simp only [parse, parseTail, read, htype]

variable {m : Message}

theorem metaPtr_zero (m : Message) : m.metaPtr 0 = m.metainfo.headD 0 := by
  rw [metaPtr]
  cases m.metainfo <;> rfl

theorem lastData_length {rtaType : Nat} {data : List Byte}
    (h : lastData rtaType m.attrs = some data) :
    dataSize m.type (m.metaPtr 0) rtaType ≤ data.length := by
  obtain ⟨a, ha, rfl, rfl⟩ := lastData_mem h
  rw [metaPtr_zero]
  exact m.data_length a ha

theorem sameAddr_of_field {rtaType : Nat} {family : Byte} {a₀ a : Addr}
    (hsize : dataSize m.type (m.metaPtr 0) rtaType = addrSize (m.metaPtr 0))
    (h : (lastData rtaType m.attrs = none ∧ a = a₀) ∨
      ∃ data q, lastData rtaType m.attrs = some data ∧ a = copyAddr (cat data q))
    (hfresh : lastData rtaType m.attrs = none → a₀ = noAddr)
    (hfamily : lastData rtaType m.attrs ≠ none → family = m.metaPtr 0) :
    SameAddr family a (m.lastAddr rtaType) ∧
      (lastData rtaType m.attrs = none → a = noAddr) := by
  rw [lastAddr]
  rcases h with ⟨hnone, rfl⟩ | ⟨data, q, hsome, rfl⟩
  · rw [hnone, hfresh hnone]
    exact ⟨SameAddr.refl _ _, fun _ => rfl⟩
  · have hlen := lastData_length hsome
    rw [hsize, ← hfamily (by rw [hsome]; exact Option.some_ne_none data)] at hlen
    rw [hsome]
    exact ⟨sameAddr_copyAddr hlen q zeros, fun hnone => by cases hnone⟩

theorem const_of_field {β : Type} {rtaType : Nat} {b₀ b c : β}
    (h : (lastData rtaType m.attrs = none ∧ b = b₀) ∨
      ∃ data q, lastData rtaType m.attrs = some data ∧ b = (fun _ : Ptr => c) (cat data q)) :
    b = if (lastData rtaType m.attrs).isSome then c else b₀ := by
  rcases h with ⟨hnone, rfl⟩ | ⟨data, q, hsome, rfl⟩
  · rw [hnone]
    rfl
  · rw [hsome]
    rfl

theorem foldAttrs_addr (htype : m.type = .newAddr) (p : Ptr) {info : AddrInfo}
    (hfamily : info.ifaFamily = m.metaPtr 0)
    (hindex : info.ifaIndex = (m.metaPtr.advance 4).u32)
    (hfresh : lastData 1 m.attrs = none → info.prefixFamily = 0 ∧ info.prefixAddr = noAddr) :
    (foldAttrs addrAttr p m.attrs info).Same m.addrInfo ∧
      (lastData 1 m.attrs = none →
        (foldAttrs addrAttr p m.attrs info).prefixFamily = 0 ∧
          (foldAttrs addrAttr p m.attrs info).prefixAddr = noAddr) := by
  let I : AddrInfo → Prop := fun r =>
    r.ifaFamily = m.metaPtr 0 ∧ r.ifaIndex = (m.metaPtr.advance 4).u32
  have hI : ∀ t q r, I r → I (addrAttr t q r) := by
    intro t q r hr
    rw [addrAttr]
    split <;> exact hr
  obtain ⟨hrfamily, hrindex⟩ := foldAttrs_invariant hI p m.attrs ⟨hfamily, hindex⟩
  have hpfamily := const_of_field (foldAttrs_field AddrInfo.prefixFamily 1
    (fun _ => m.metaPtr 0) hI
    (by
      intro t q r hr
      rw [addrAttr]
      split
      · exact hr.1
      · rfl)
    p m.attrs ⟨hfamily, hindex⟩)
  have haddr := foldAttrs_field AddrInfo.prefixAddr 1 copyAddr hI
    (by
      intro t q r hr
      rw [addrAttr]
      split <;> rfl)
    p m.attrs ⟨hfamily, hindex⟩
  generalize foldAttrs addrAttr p m.attrs info = r at *
  have hsize : dataSize m.type (m.metaPtr 0) 1 = addrSize (m.metaPtr 0) := by rw [htype]; rfl
  have hsome : lastData 1 m.attrs ≠ none → r.prefixFamily = m.metaPtr 0 := by
    intro hne
    rw [hpfamily, if_pos (Option.isSome_iff_ne_none.mpr hne)]
  obtain ⟨hsame, hnone⟩ := sameAddr_of_field hsize haddr (fun h => (hfresh h).2) hsome
  have hzero : lastData 1 m.attrs = none → r.prefixFamily = 0 := by
    intro h
    rw [hpfamily, h]
    exact (hfresh h).1
  refine ⟨⟨?_, hsame⟩, fun h => ⟨hzero h, hnone h⟩⟩
  have hown : r.prefixFamily = m.addrInfo.prefixFamily := by
    rw [addrInfo]
    cases h : lastData 1 m.attrs with
    | none => exact hzero h
    | some data => exact hsome (by rw [h]; exact Option.some_ne_none data)
  obtain ⟨f, i, pf, pa⟩ := r
  exact AddrInfo.mk.injEq .. ▸ ⟨hrfamily, hrindex, hown, rfl⟩

theorem foldAttrs_neigh (htype : m.type = .newNeigh ∨ m.type = .delNeigh) (p : Ptr)
    {info : NeighInfo} (hfamily : info.ndmFamily = m.metaPtr 0)
    (hindex : info.ndmIfindex = (m.metaPtr.advance 4).u32)
    (hfresh : lastData 1 m.attrs = none → info.localFamily = 0 ∧ info.localAddr = noAddr)
    (hfresh₂ : lastData 2 m.attrs = none → info.lladdrHwaddr = fun _ => 0) :
    (foldAttrs neighAttr p m.attrs info).Same m.neighInfo ∧
      (lastData 1 m.attrs = none →
        (foldAttrs neighAttr p m.attrs info).localFamily = 0 ∧
          (foldAttrs neighAttr p m.attrs info).localAddr = noAddr) ∧
      (lastData 2 m.attrs = none →
        (foldAttrs neighAttr p m.attrs info).lladdrHwaddr = fun _ => 0) := by
  let I : NeighInfo → Prop := fun r =>
    r.ndmFamily = m.metaPtr 0 ∧ r.ndmIfindex = (m.metaPtr.advance 4).u32
  have hI : ∀ t q r, I r → I (neighAttr t q r) := by
    intro t q r hr
    rw [neighAttr]
    split
    · exact hr
    · split <;> exact hr
  obtain ⟨hrfamily, hrindex⟩ := foldAttrs_invariant hI p m.attrs ⟨hfamily, hindex⟩
  have hlocal := const_of_field (foldAttrs_field NeighInfo.localFamily 1
    (fun _ => m.metaPtr 0) hI
    (by
      intro t q r hr
      rw [neighAttr]
      split
      · exact hr.1
      · split <;> rfl)
    p m.attrs ⟨hfamily, hindex⟩)
  have haddr := foldAttrs_field NeighInfo.localAddr 1 copyAddr hI
    (by
      intro t q r hr
      rw [neighAttr]
      split
      · rfl
      · split <;> rfl)
    p m.attrs ⟨hfamily, hindex⟩
  have hmac := foldAttrs_field NeighInfo.lladdrHwaddr 2 (fun q i => q i) hI
    (by
      intro t q r hr
      rw [neighAttr]
      split
      · next h1 => rw [if_neg (by omega)]
      · split <;> rfl)
    p m.attrs ⟨hfamily, hindex⟩
  generalize foldAttrs neighAttr p m.attrs info = r at *
  have hsize : dataSize m.type (m.metaPtr 0) 1 = addrSize (m.metaPtr 0) := by
    rcases htype with htype | htype <;> rw [htype] <;> rfl
  have hsome : lastData 1 m.attrs ≠ none → r.localFamily = m.metaPtr 0 := by
    intro hne
    rw [hlocal, if_pos (Option.isSome_iff_ne_none.mpr hne)]
  obtain ⟨hsame, hnone⟩ := sameAddr_of_field hsize haddr (fun h => (hfresh h).2) hsome
  have hzero : lastData 1 m.attrs = none → r.localFamily = 0 := by
    intro h
    rw [hlocal, h]
    exact (hfresh h).1
  have hown : r.localFamily = m.neighInfo.localFamily := by
    rw [neighInfo]
    cases h : lastData 1 m.attrs with
    | none => exact hzero h
    | some data => exact hsome (by rw [h]; exact Option.some_ne_none data)
  have hownmac : r.lladdrHwaddr = m.neighInfo.lladdrHwaddr := by
    rw [neighInfo]
    rcases hmac with ⟨hnone, heq⟩ | ⟨data, q, hdata, heq⟩
    · rw [heq, hfresh₂ hnone, hnone]
      rfl
    · have hlen : 6 ≤ data.length := by
        have hlen := lastData_length hdata
        rcases htype with htype | htype <;> rw [htype] at hlen <;> exact hlen
      rw [heq, hdata]
      funext i
      change cat data q i = cat data zeros i
      rw [cat_apply (by omega), cat_apply (by omega)]
  refine ⟨⟨?_, hsame⟩, fun h => ⟨hzero h, hnone h⟩, fun h => ?_⟩
  · obtain ⟨f, i, lf, la, mac⟩ := r
    exact NeighInfo.mk.injEq .. ▸ ⟨hrfamily, hrindex, hown, rfl, hownmac⟩
  · rw [hownmac, neighInfo, h]
    rfl

/-- The header of a route message. -/
def RouteMeta (m : Message) (info : RouteInfo) : Prop :=
  info = { m.routeInfo with
    dst := info.dst
    gateway := info.gateway
    dstAddr := info.dstAddr
    oifIndex := info.oifIndex }

theorem foldAttrs_route (htype : m.type = .newRoute ∨ m.type = .delRoute) (p : Ptr)
    {info : RouteInfo} (hmeta : m.RouteMeta info) (hdst : info.dst = false)
    (hgateway : info.gateway = false)
    (hfresh : lastData 1 m.attrs = none → info.dstAddr = noAddr)
    (hfresh₄ : lastData 4 m.attrs = none → info.oifIndex = 0) :
    (foldAttrs routeAttr p m.attrs info).Same m.routeInfo ∧
      (lastData 1 m.attrs = none → (foldAttrs routeAttr p m.attrs info).dstAddr = noAddr) ∧
      (lastData 4 m.attrs = none → (foldAttrs routeAttr p m.attrs info).oifIndex = 0) := by
  have hI : ∀ t q r, m.RouteMeta r → m.RouteMeta (routeAttr t q r) := by
    intro t q r hr
    obtain ⟨f, l, tb, pr, sc, ty, ds, g, da, o⟩ := r
    obtain ⟨rfl, rfl, rfl, rfl, rfl, rfl, -, -, -, -⟩ := RouteInfo.mk.inj hr
    rw [routeAttr]
    split
    · rfl
    · split
      · rfl
      · split <;> rfl
  have hrmeta := foldAttrs_invariant hI p m.attrs hmeta
  have hrdst := const_of_field (foldAttrs_field RouteInfo.dst 1 (fun _ => true) hI
    (by
      intro t q r _
      rw [routeAttr]
      split
      · rfl
      · split
        · rfl
        · split <;> rfl)
    p m.attrs hmeta)
  have hrgateway := const_of_field (foldAttrs_field RouteInfo.gateway 5 (fun _ => true) hI
    (by
      intro t q r _
      rw [routeAttr]
      split
      · next h => rw [if_neg (by omega)]
      · split
        · next h => rw [if_neg (by omega)]
        · split <;> rfl)
    p m.attrs hmeta)
  have haddr := foldAttrs_field RouteInfo.dstAddr 1 copyAddr hI
    (by
      intro t q r _
      rw [routeAttr]
      split
      · rfl
      · split
        · rfl
        · split <;> rfl)
    p m.attrs hmeta
  have hroif := foldAttrs_field RouteInfo.oifIndex 4 Ptr.u32 hI
    (by
      intro t q r _
      rw [routeAttr]
      split
      · next h => rw [if_neg (by omega)]
      · split
        · rfl
        · split <;> rfl)
    p m.attrs hmeta
  generalize foldAttrs routeAttr p m.attrs info = r at *
  have hsize : dataSize m.type (m.metaPtr 0) 1 = addrSize (m.metaPtr 0) := by
    rcases htype with htype | htype <;> rw [htype] <;> rfl
  have hfamily : r.rtmFamily = m.metaPtr 0 := congrArg RouteInfo.rtmFamily hrmeta
  obtain ⟨hsame, hnone⟩ := sameAddr_of_field hsize haddr hfresh fun _ => hfamily
  have hoif : r.oifIndex = m.routeInfo.oifIndex := by
    rw [routeInfo]
    rcases hroif with ⟨h, heq⟩ | ⟨data, q, hdata, heq⟩
    · rw [heq, hfresh₄ h, h]
      rfl
    · have hlen : 4 ≤ data.length := by
        have hlen := lastData_length hdata
        rcases htype with htype | htype <;> rw [htype] at hlen <;> exact hlen
      rw [heq, hdata]
      apply Ptr.u32_congr
      intro i hi
      rw [cat_apply (by omega), cat_apply (by omega)]
  have hdst' : r.dst = m.routeInfo.dst := by
    rw [hrdst, hdst, routeInfo]
    cases lastData 1 m.attrs <;> rfl
  have hgateway' : r.gateway = m.routeInfo.gateway := by
    rw [hrgateway, hgateway, routeInfo]
    cases lastData 5 m.attrs <;> rfl
  refine ⟨⟨?_, hsame⟩, hnone, fun h => ?_⟩
  · rw [hrmeta, hdst', hgateway', hoif]
  · rw [hoif, routeInfo, h]
    rfl

theorem read_same {msg : NlMsg} (hfresh : m.Fresh msg) (p : Ptr) :
    (m.read p msg).Same m.type m.own ∧ m.Fresh (m.read p msg) := by
  cases htype : m.type <;> simp only [Fresh, read, NlMsg.Same, own, htype] at hfresh ⊢
  case newLink | delLink => exact ⟨trivial, trivial⟩
  case newAddr => exact foldAttrs_addr htype p rfl rfl hfresh
  case newRoute => exact foldAttrs_route (Or.inl htype) p rfl rfl rfl hfresh.1 hfresh.2
  case delRoute => exact foldAttrs_route (Or.inr htype) p rfl rfl rfl hfresh.1 hfresh.2
  case newNeigh => exact foldAttrs_neigh (Or.inl htype) p rfl rfl hfresh.1 hfresh.2
  case delNeigh => exact foldAttrs_neigh (Or.inr htype) p rfl rfl hfresh.1 hfresh.2
  case other => exact ⟨trivial, trivial⟩

end Message

end LibraDevice.Netlink
