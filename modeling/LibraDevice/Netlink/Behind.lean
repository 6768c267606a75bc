import LibraDevice.Netlink.Buffer

/-!
What lies behind a message: the walk over its attributes goes past its end by the length of the
type's header, so that the rest of the buffer is read as attributes too.
-/

namespace LibraDevice.Netlink

open LibraDevice.Bytes
open LibraDevice.Records

/-- No attribute begins here, for a walk that has twelve bytes left at most. -/
def Quiet (rest : Ptr) : Prop :=
  ¬ (4 ≤ rest.u16 ∧ rest.u16 ≤ 12)

section

variable {σ : Type} {attr : Nat → Ptr → σ → σ}

theorem attributes_quiet {rest : Ptr} (hquiet : Quiet rest) {n : Nat} (hn : n ≤ 12) (s : σ) :
    attributes attr rest n s = some s := by
  apply records_stop
  rintro ⟨-, hleast, hlen⟩
  exact hquiet ⟨hleast, by omega⟩

theorem attributes_zero (p : Ptr) (s : σ) : attributes attr p 0 s = some s := by
  apply records_stop
  rintro ⟨hleast, -⟩
  omega

theorem attributes_one (attr : Nat → Ptr → σ → σ) (data : List Byte) (hdata : 4 ∣ data.length)
    (hlen : data.length + 4 < 2 ^ 16) {rtaType : Nat} (htype : rtaType < 2 ^ 16) (rest : Ptr)
    (n : Nat) (s : σ) :
    attributes attr (cat (le16 (data.length + 4) ++ (le16 rtaType ++ data)) rest)
        (data.length + 4 + n) s =
      attributes attr rest n (attr rtaType (cat data rest) s) := by
  let a : Attr := ⟨rtaType, data, [], htype, hlen, by
    rw [align_of_dvd (by omega)]
    rfl⟩
  have hencode : encodeAttrs [a] = le16 (data.length + 4) ++ (le16 rtaType ++ data) := by
    rw [encodeAttrs, List.flatMap_cons, List.flatMap_nil, Attr.encode, List.append_nil,
      List.append_nil]
  have hlength : (encodeAttrs [a]).length = data.length + 4 := by
    rw [hencode]
    simp only [le16, List.length_append, List.length_cons, List.length_nil]
    omega
  have hwalk : attributes attr (cat (encodeAttrs [a]) rest) ((encodeAttrs [a]).length + n) s =
      attributes attr rest n (foldAttrs attr rest [a] s) := attributes_cat [a] rest n s
  rw [hlength, hencode] at hwalk
  rw [hwalk, foldAttrs, foldAttrs, List.append_nil]
  rfl

end

/-- No attribute has type zero. -/
def Ignores {σ : Type} (attr : Nat → Ptr → σ → σ) : Prop :=
  ∀ data s, attr 0 data s = s

theorem addrAttr_ignores : Ignores addrAttr := fun _ _ => rfl

theorem neighAttr_ignores : Ignores neighAttr := fun _ _ => rfl

theorem routeAttr_ignores : Ignores routeAttr := fun _ _ => rfl

/-- The bytes of messages one behind the other. -/
def encodeAll (ms : List Message) : List Byte :=
  ms.flatMap Message.encode

namespace Message

theorem u16_encode (m : Message) (p : Ptr) : (cat m.encode p).u16 = m.len := by
  have hlen := m.len_lt
  rw [encode]
  change ((BitVec.ofNat 32 m.len).extractLsb' 0 8).toNat +
    256 * ((BitVec.ofNat 32 m.len).extractLsb' 8 8).toNat = m.len
  simp only [BitVec.extractLsb'_toNat, BitVec.toNat_ofNat, Nat.shiftRight_eq_div_pow]
  omega

theorem attrType_encode (m : Message) (p : Ptr) : ((cat m.encode p).advance 2).u16 = 0 := by
  have hlen := m.len_lt
  rw [encode]
  change ((BitVec.ofNat 32 m.len).extractLsb' 16 8).toNat +
    256 * ((BitVec.ofNat 32 m.len).extractLsb' 24 8).toNat = 0
  simp only [BitVec.extractLsb'_toNat, BitVec.toNat_ofNat, Nat.shiftRight_eq_div_pow]
  omega

end Message

theorem attributes_messages {σ : Type} {attr : Nat → Ptr → σ → σ} (hattr : Ignores attr)
    (ms : List Message) {rest : Ptr} (hquiet : Quiet rest) {n : Nat}
    (hn : n ≤ (encodeAll ms).length + 12) (s : σ) :
    attributes attr (cat (encodeAll ms) rest) n s = some s := by
  induction ms generalizing n with
  | nil => exact attributes_quiet hquiet (by simpa [encodeAll] using hn) s
  | cons m ms ih =>
      have hcons : encodeAll (m :: ms) = m.encode ++ encodeAll ms := List.flatMap_cons
      rw [hcons, List.length_append, m.encode_length] at hn
      rw [hcons, cat_append]
      have hsize := m.u16_encode (cat (encodeAll ms) rest)
      have hmin : 16 ≤ m.len := by
        rw [Message.len]
        omega
      by_cases hfits : m.len ≤ n
      · obtain ⟨k, rfl⟩ := Nat.exists_eq_add_of_le hfits
        have halign : align (cat m.encode (cat (encodeAll ms) rest)).u16 = m.encode.length := by
          rw [hsize, m.encode_length, align_of_dvd m.len_dvd]
        rw [← m.encode_length, attributes,
          records_cat (by decide) halign (by rw [hsize]; omega)]
        simp only [m.attrType_encode, hattr _ _]
        exact ih (by omega)
      · apply records_stop
        rintro ⟨-, -, hle⟩
        rw [hsize] at hle
        exact hfits hle

theorem encodeAll_cons (m : Message) (ms : List Message) (rest : Ptr) :
    cat (encodeAll (m :: ms)) rest = cat m.encode (cat (encodeAll ms) rest) := by
  rw [encodeAll, List.flatMap_cons, cat_append]
  rfl

theorem encodeAll_length_cons (m : Message) (ms : List Message) :
    (encodeAll (m :: ms)).length = m.len + (encodeAll ms).length := by
  rw [encodeAll, List.flatMap_cons, List.length_append, m.encode_length]
  rfl

namespace Message

theorem parse_messages (m : Message) (ms : List Message) {rest : Ptr} (hquiet : Quiet rest)
    {n : Nat} (hn : n ≤ (encodeAll ms).length) (msg : NlMsg) :
    parse m.type (cat (encodeAll (m :: ms)) rest) (m.len + n) msg =
      some (m.read (cat (encodeAll ms) rest) msg) := by
  have hmeta : m.type.HasMeta m.metainfo.length := m.metainfo_length
  rw [encodeAll_cons, parse_encode]
  cases htype : m.type <;> simp only [htype, MsgType.HasMeta] at hmeta
  case newAddr =>
    rw [parseTail, attributes_messages addrAttr_ignores ms hquiet (by omega), Option.map_some]
  case newRoute | delRoute =>
    rw [parseTail, attributes_messages routeAttr_ignores ms hquiet (by omega), Option.map_some]
  case newNeigh | delNeigh =>
    rw [parseTail, attributes_messages neighAttr_ignores ms hquiet (by omega), Option.map_some]
  case newLink | delLink | other => rfl

end Message

variable {ifName : Word → Bool}

theorem act_done {type : MsgType} {s s' : State} (h : act ifName type s = .done s') :
    s'.posted = s.posted := by
  cases type with
  | newLink =>
      simp only [act, newLink] at h
      -- an interface that was named at first is still named
      split_ifs at h with _ hfirst <;> cases h
      any_goals rfl
      all_goals exact absurd ⟨‹_›, Bool.eq_false_iff.mpr ‹_›⟩ hfirst
  | delLink | newNeigh | delNeigh =>
      simp only [act, delLink, neigh] at h
      split_ifs at h
      cases h
      rfl
  | newAddr | other => cases h
  | newRoute =>
      simp only [act, route, newRouteBoot, newRouteKernel] at h
      split_ifs at h <;> cases h <;> rfl
  | delRoute =>
      simp only [act, route, delRouteBoot, delRouteKernel] at h
      split_ifs at h <;> cases h <;> rfl

theorem act_ne_fault {type : MsgType} {s : State} : act ifName type s ≠ .fault := by
  intro h
  cases type <;>
    simp only [act, newLink, delLink, newAddr, neigh, route, newRouteBoot, newRouteKernel,
      delRouteBoot, delRouteKernel] at h
  case newAddr | other => cases h
  all_goals split_ifs at h

namespace Message

variable {m : Message}

theorem act_own_mask (htype : m.type = .newRoute) {s : State}
    (h : act ifName m.type { State.init with msg := m.own } = .next s) :
    s.ifIpipv4AddrMask = 0 := by
  have haddr : m.own.nlRouteInfo.dst = false → m.own.nlRouteInfo.dstAddr 0 = 0 := by
    rw [own, htype]
    intro hdst
    change (lastData 1 m.attrs).isSome = false at hdst
    change m.lastAddr 1 0 = 0
    rw [lastAddr, Option.isNone_iff_eq_none.mp (Option.isSome_eq_false_iff.mp hdst)]
    rfl
  rw [htype] at h
  simp only [act, route, newRouteBoot, newRouteKernel] at h
  split_ifs at h with _ _ hdst <;> cases h
  any_goals rfl
  all_goals exact haddr (Bool.eq_false_iff.mpr hdst)

theorem handle_again (m : Message) (ms : List Message) {rest nlh : Ptr} (hquiet : Quiet rest)
    (htype : MsgType.of (nlh.advance 4).u16 = m.type) {n : Nat} (hn : n ≤ (encodeAll ms).length)
    {s : State} (hfresh : m.Fresh s.msg)
    (hmask : m.type = .newRoute → s.ifIpipv4AddrMask = 0) :
    (∃ s', handle ifName (cat (encodeAll (m :: ms)) rest) nlh (m.len + n) s = .next s' ∧
        s'.posted = s.posted ++ m.events ifName ∧ m.Fresh s'.msg ∧
        (m.type = .newRoute → s'.ifIpipv4AddrMask = 0)) ∨
      ∃ s', handle ifName (cat (encodeAll (m :: ms)) rest) nlh (m.len + n) s = .done s' ∧
        s'.posted = s.posted ∧ m.events ifName = [] := by
  obtain ⟨hsame, hfresh'⟩ := read_same hfresh (cat (encodeAll ms) rest)
  have hhandle : handle ifName (cat (encodeAll (m :: ms)) rest) nlh (m.len + n) s =
      act ifName m.type { s with msg := m.read (cat (encodeAll ms) rest) s.msg } := by
    simp only [handle, htype, m.parse_messages ms hquiet hn]
  have hrel : (act ifName m.type { s with msg := m.read (cat (encodeAll ms) rest) s.msg }).Rel
      (Follows m.type { s with msg := m.read (cat (encodeAll ms) rest) s.msg }
        { State.init with msg := m.own })
      (act ifName m.type { State.init with msg := m.own }) :=
    act_same hsame hmask
  have hevents : m.events ifName = postedBy (act ifName m.type { State.init with msg := m.own }) :=
    rfl
  rw [hhandle]
  cases hw : act ifName m.type { s with msg := m.read (cat (encodeAll ms) rest) s.msg } with
  | fault => exact absurd hw act_ne_fault
  | done s' =>
      cases hv : act ifName m.type { State.init with msg := m.own } <;> rw [hw, hv] at hrel
      case done t' =>
        have hs := act_done hw
        exact Or.inr ⟨s', rfl, hs, by rw [hevents, hv]; exact act_done hv⟩
      all_goals exact hrel.elim
  | next s' =>
      cases hv : act ifName m.type { State.init with msg := m.own } <;> rw [hw, hv] at hrel
      case next t' =>
        obtain ⟨new, hs, ht⟩ := hrel.posted
        refine Or.inl ⟨s', rfl, ?_, ?_, fun hroute => ?_⟩
        · rw [hevents, hv, hs, postedBy, ht]
          rfl
        · rw [hrel.msg]
          exact hfresh'
        · rw [hrel.mask hroute]
          exact act_own_mask hroute hv
      all_goals exact hrel.elim

end Message

/-- The messages of a buffer, the first of which is `m`: each is of the type of `m` and no shorter,
or of a type that is not handled. -/
def Repeats (m : Message) (ms : List Message) : Prop :=
  ∀ m' ∈ ms, m'.type = .other ∨ m'.type = m.type ∧ m.len ≤ m'.len

theorem records_messages (m : Message) (ms : List Message) {rest : Ptr} (hquiet : Quiet rest)
    {todo : List Message} (htodo : Repeats m todo)
    (hlen : (encodeAll todo).length ≤ (encodeAll (m :: ms)).length) {s : State}
    (hfresh : m.Fresh s.msg) (hmask : m.type = .newRoute → s.ifIpipv4AddrMask = 0) :
    (records nlmsgLen 16 (handle ifName (cat (encodeAll (m :: ms)) rest))
      (cat (encodeAll todo) rest) (encodeAll todo).length s).map State.posted =
      some (s.posted ++
        todo.flatMap fun m' => if m'.type = m.type then m.events ifName else []) := by
  induction todo generalizing s with
  | nil =>
      have hstop : ¬ (16 ≤ 0 ∧ 16 ≤ nlmsgLen rest ∧ nlmsgLen rest ≤ 0) := fun h => by omega
      change (records nlmsgLen 16 _ rest 0 s).map State.posted = _
      rw [records_stop hstop, Option.map_some, List.flatMap_nil, List.append_nil]
  | cons m' todo ih =>
      have hsize := m'.nlmsgLen_encode (cat (encodeAll todo) rest)
      have htype := m'.type_encode (cat (encodeAll todo) rest)
      rw [encodeAll_length_cons] at hlen
      have htodo' : Repeats m todo := fun m'' hm => htodo m'' (List.mem_cons_of_mem m' hm)
      have hleast : 16 ≤ m'.len := by
        rw [Message.len]
        omega
      have hpos : 0 < 16 := by decide
      have hpadded : align (nlmsgLen (cat m'.encode (cat (encodeAll todo) rest))) =
          m'.encode.length := by
        rw [hsize, m'.encode_length, align_of_dvd m'.len_dvd]
      rw [encodeAll_cons m', encodeAll_length_cons m', ← m'.encode_length,
        records_cat hpos hpadded (by rw [hsize]; exact hleast), m'.encode_length, List.flatMap_cons]
      rcases htodo m' List.mem_cons_self with hother | ⟨hsame, hle⟩
      · have hhandle : ∀ n, handle ifName (cat (encodeAll (m :: ms)) rest)
            (cat m'.encode (cat (encodeAll todo) rest)) n s = .next s := by
          intro n
          simp only [handle, htype, hother, parse, act]
        have hevents : (if m'.type = m.type then m.events ifName else []) = [] := by
          split
          · next hsame => rw [Message.events, ← hsame, hother]; rfl
          · rfl
        rw [hhandle, hevents, List.nil_append]
        exact ih htodo' (by omega) hfresh hmask
      · obtain ⟨n, hn⟩ := Nat.exists_eq_add_of_le (Nat.le_add_right_of_le hle :
          m.len ≤ m'.len + (encodeAll todo).length)
        rw [if_pos hsame, hn]
        rw [encodeAll_length_cons] at hlen
        rcases m.handle_again ms hquiet (htype.trans hsame) (n := n) (by omega) hfresh hmask with
          ⟨s', hs', hposted, hfresh', hmask'⟩ | ⟨s', hs', hposted, hnone⟩
        · rw [hs']
          change (records nlmsgLen 16 _ _ _ s').map State.posted = _
          rw [ih htodo' (by rw [encodeAll_length_cons]; omega) hfresh' hmask', hposted,
            List.append_assoc]
        · rw [hs', hnone, List.nil_append]
          change some s'.posted = _
          have hrest : todo.flatMap (fun m' => if m'.type = m.type then ([] : List Event) else []) =
              [] := by
            rw [List.flatMap_eq_nil_iff]
            intro m'' _
            exact ite_self []
          rw [hposted, hrest, List.append_nil]

/-- What comes of a buffer of messages of one type, none of which is shorter than the first: the
events of the first, once for every message, whatever the others say. -/
theorem decodeNlmsg_repeats (m : Message) (ms : List Message) (rest : Ptr) (hquiet : Quiet rest)
    (hms : Repeats m ms) :
    decodeNlmsg ifName (cat (encodeAll (m :: ms)) rest) (encodeAll (m :: ms)).length =
      some ((m :: ms).flatMap fun m' => if m'.type = m.type then m.events ifName else []) := by
  have hrepeats : Repeats m (m :: ms) := by
    intro m' hm'
    rcases List.mem_cons.mp hm' with rfl | hm'
    · exact Or.inr ⟨rfl, le_rfl⟩
    · exact hms m' hm'
  exact records_messages m ms hquiet hrepeats le_rfl m.fresh_zeroed fun _ => rfl

/-- An address of the interface 3. -/
def addrMessage (b : Byte) : Message where
  nlmsgType := 20
  head := List.replicate 10 0
  metainfo := [2, 24, 0, 0, 3, 0, 0, 0]
  attrs := [⟨1, [10, 0, 0, b], [], by decide, by change 8 < 2 ^ 16; decide,
    (align_of_dvd (by change 4 ∣ 8; decide)).symm⟩]
  type_lt := by decide
  head_length := by decide
  metainfo_length := by decide
  data_length := by
    intro a ha
    rw [List.mem_singleton.mp ha]
    change 4 ≤ 4
    exact le_rfl
  len_le := by
    change 16 + 8 + 8 ≤ 2048
    decide

theorem decodeNlmsg_repeats_addr :
    decodeNlmsg (fun _ => true) (cat (encodeAll [addrMessage 1, addrMessage 2]) zeros)
        (encodeAll [addrMessage 1, addrMessage 2]).length =
      some [.addrAdd ⟨.v4, 3, some 0x0a000001, none, none, fun _ => none⟩,
        .addrAdd ⟨.v4, 3, some 0x0a000001, none, none, fun _ => none⟩] := by
  have hquiet : Quiet zeros := by
    rw [Quiet]
    decide
  have hrepeats : Repeats (addrMessage 1) [addrMessage 2] := by
    intro m hm
    rw [List.mem_singleton.mp hm]
    exact Or.inr ⟨by decide, by decide⟩
  rw [decodeNlmsg_repeats _ _ _ hquiet hrepeats]
  decide

theorem records_none {size : Ptr → Nat} {visit : Ptr → Nat → State → Visit State} (p : Ptr)
    (s : State) : records size 16 visit p 0 s = some s := by
  apply records_stop
  rintro ⟨hleast, -⟩
  omega

/-- What the decoders read of a message and of what lies behind it. -/
def Message.tail (m : Message) (rest : Ptr) : Option NlMsg :=
  Message.parseTail m.type rest m.metainfo.length (m.read rest NlMsg.zeroed)

theorem decodeNlmsg_single (m : Message) (rest : Ptr) :
    decodeNlmsg ifName (cat m.encode rest) m.len =
      (m.tail rest).map fun msg =>
        postedBy (act ifName m.type { State.init with msg := msg }) := by
  have hsize := m.nlmsgLen_encode rest
  have hpos : 0 < 16 := by decide
  have hpadded : align (nlmsgLen (cat m.encode rest)) = m.encode.length := by
    rw [hsize, m.encode_length, align_of_dvd m.len_dvd]
  have hleast : 16 ≤ nlmsgLen (cat m.encode rest) := by
    rw [hsize, Message.len]
    omega
  have hparse := m.parse_encode rest 0 NlMsg.zeroed
  rw [Nat.add_zero, Nat.add_zero] at hparse
  have hlen : m.len = m.encode.length + 0 := m.encode_length.symm
  rw [decodeNlmsg, hlen, records_cat hpos hpadded hleast, Nat.add_zero, m.encode_length]
  cases hmsg : m.tail rest with
  | none =>
      have hhandle : handle ifName (cat m.encode rest) (cat m.encode rest) m.len State.init =
          .fault := by
        simp only [handle, m.type_encode, State.init, hparse.trans hmsg]
      rw [hhandle]
      rfl
  | some msg =>
      have hhandle : handle ifName (cat m.encode rest) (cat m.encode rest) m.len State.init =
          act ifName m.type { State.init with msg := msg } := by
        simp only [handle, m.type_encode, State.init, hparse.trans hmsg]
      rw [hhandle, Option.map_some]
      cases hact : act ifName m.type { State.init with msg := msg } with
      | fault => exact absurd hact act_ne_fault
      | done s => rfl
      | next s => exact congrArg (Option.map State.posted) (records_none rest s)

theorem attributes_total {σ : Type} (attr : Nat → Ptr → σ → σ) {P : σ → Prop}
    (hattr : ∀ t p s, P s → P (attr t p s)) {n : Nat} (hn : 4 ∣ n) (p : Ptr) {s : σ} (hs : P s) :
    ∃ s', attributes attr p n s = some s' ∧ P s' :=
  records_invariant (by decide) (fun p _ s h => ⟨_, hattr _ _ s h, Or.inl rfl⟩) hn hs

/-- A route that is not acted on. -/
def RouteInfo.Ignored (ifName : Word → Bool) (info : RouteInfo) : Prop :=
  (¬ info.Boot ∧ ¬ info.Kernel) ∨ ∀ i, ifName i = false

/-- What lies behind a message is not told from the message, unless no event comes of it, or
its type has no attributes. -/
def Message.Deaf (ifName : Word → Bool) (m : Message) : Prop :=
  match m.type with
  | .newLink | .delLink | .other => True
  | .newAddr => False
  | .newNeigh | .delNeigh => ifName m.neighInfo.ndmIfindex = false
  | .newRoute | .delRoute => m.routeInfo.Ignored ifName

theorem postedBy_ignored {type : MsgType} (htype : type = .newRoute ∨ type = .delRoute)
    {msg : NlMsg} (h : msg.nlRouteInfo.Ignored ifName) :
    postedBy (act ifName type { State.init with msg := msg }) = [] := by
  rcases h with ⟨hboot, hkernel⟩ | hname
  · rcases htype with rfl | rfl <;> simp only [act, route, hboot, hkernel, if_false] <;> rfl
  · rcases htype with rfl | rfl <;>
      simp only [act, route, newRouteBoot, newRouteKernel, delRouteBoot, delRouteKernel, hname,
        if_true] <;>
      split_ifs <;> rfl

theorem postedBy_nameless {type : MsgType} (htype : type = .newNeigh ∨ type = .delNeigh)
    {msg : NlMsg} (h : ifName msg.nlNeighInfo.ndmIfindex = false) :
    postedBy (act ifName type { State.init with msg := msg }) = [] := by
  rcases htype with rfl | rfl <;> simp only [act, neigh, h, Bool.false_eq_true, if_false] <;> rfl

theorem RouteInfo.Ignored.congr {a b : RouteInfo} (h : a.Ignored ifName) (hboot : a.Boot ↔ b.Boot)
    (hkernel : a.Kernel ↔ b.Kernel) : b.Ignored ifName :=
  h.imp_left fun ⟨hnb, hnk⟩ => ⟨fun hb => hnb (hboot.mpr hb), fun hk => hnk (hkernel.mpr hk)⟩

namespace Message

variable {m : Message}

theorem tail_route (htype : m.type = .newRoute ∨ m.type = .delRoute) (rest : Ptr) :
    m.tail rest = (attributes routeAttr rest 12 (m.read rest NlMsg.zeroed).nlRouteInfo).map
      fun info => { m.read rest NlMsg.zeroed with nlRouteInfo := info } := by
  have hmeta : m.type.HasMeta m.metainfo.length := m.metainfo_length
  rcases htype with htype | htype <;> rw [htype] at hmeta <;>
    rw [tail, htype, parseTail, hmeta]

theorem tail_neigh (htype : m.type = .newNeigh ∨ m.type = .delNeigh) (rest : Ptr) :
    m.tail rest = (attributes neighAttr rest 12 (m.read rest NlMsg.zeroed).nlNeighInfo).map
      fun info => { m.read rest NlMsg.zeroed with nlNeighInfo := info } := by
  have hmeta : m.type.HasMeta m.metainfo.length := m.metainfo_length
  rcases htype with htype | htype <;> rw [htype] at hmeta <;>
    rw [tail, htype, parseTail, hmeta]

theorem read_route (htype : m.type = .newRoute ∨ m.type = .delRoute) (rest : Ptr) :
    (m.read rest NlMsg.zeroed).nlRouteInfo.Same m.routeInfo := by
  have hread := (read_same m.fresh_zeroed rest).1
  rcases htype with htype | htype <;> rw [htype, own, htype] at hread <;> exact hread

theorem read_neigh (htype : m.type = .newNeigh ∨ m.type = .delNeigh) (rest : Ptr) :
    (m.read rest NlMsg.zeroed).nlNeighInfo.Same m.neighInfo := by
  have hread := (read_same m.fresh_zeroed rest).1
  rcases htype with htype | htype <;> rw [htype, own, htype] at hread <;> exact hread

theorem own_route (htype : m.type = .newRoute ∨ m.type = .delRoute) :
    m.own.nlRouteInfo = m.routeInfo := by
  rcases htype with htype | htype <;> rw [own, htype]

theorem own_neigh (htype : m.type = .newNeigh ∨ m.type = .delNeigh) :
    m.own.nlNeighInfo = m.neighInfo := by
  rcases htype with htype | htype <;> rw [own, htype]

theorem decodeNlmsg_ignored (htype : m.type = .newRoute ∨ m.type = .delRoute)
    (h : m.routeInfo.Ignored ifName) (rest : Ptr) :
    decodeNlmsg ifName (cat m.encode rest) m.len = some (m.events ifName) := by
  have hsame := read_route htype rest
  -- no attribute changes what a route is told by
  obtain ⟨info, hinfo, hboot, hkernel⟩ := attributes_total routeAttr
    (P := fun info => (m.routeInfo.Boot ↔ info.Boot) ∧
      (m.routeInfo.Kernel ↔ info.Kernel))
    (by
      intro t p s hs
      rw [routeAttr]
      split
      · exact hs
      · split
        · exact hs
        · split <;> exact hs)
    (by decide : 4 ∣ 12) rest ⟨hsame.boot.symm, hsame.kernel.symm⟩
  rw [decodeNlmsg_single, tail_route htype, hinfo, Option.map_some, Option.map_some, events,
    postedBy_ignored htype (h.congr hboot hkernel),
    postedBy_ignored htype (by rw [own_route htype]; exact h)]

theorem decodeNlmsg_nameless (htype : m.type = .newNeigh ∨ m.type = .delNeigh)
    (h : ifName m.neighInfo.ndmIfindex = false) (rest : Ptr) :
    decodeNlmsg ifName (cat m.encode rest) m.len = some (m.events ifName) := by
  have hread : (m.read rest NlMsg.zeroed).nlNeighInfo.ndmIfindex = m.neighInfo.ndmIfindex := by
    rw [(read_neigh htype rest).1]
  obtain ⟨info, hinfo, hindex⟩ := attributes_total neighAttr
    (P := fun info => info.ndmIfindex = m.neighInfo.ndmIfindex)
    (by
      intro t p s hs
      rw [neighAttr]
      split
      · exact hs
      · split <;> exact hs)
    (by decide : 4 ∣ 12) rest hread
  rw [decodeNlmsg_single, tail_neigh htype, hinfo, Option.map_some, Option.map_some, events,
    postedBy_nameless htype (by rw [← h, ← hindex]),
    postedBy_nameless htype (by rw [own_neigh htype, h])]

theorem Deaf.decodeNlmsg (h : m.Deaf ifName) (rest : Ptr) :
    decodeNlmsg ifName (cat m.encode rest) m.len = some (m.events ifName) := by
  cases htype : m.type <;> simp only [Deaf, htype] at h
  case newLink | delLink | other =>
    rw [decodeNlmsg_single, tail, events]
    simp only [parseTail, read, own, htype, Option.map_some]
  case newRoute => exact decodeNlmsg_ignored (Or.inl htype) h rest
  case delRoute => exact decodeNlmsg_ignored (Or.inr htype) h rest
  case newNeigh => exact decodeNlmsg_nameless (Or.inl htype) h rest
  case delNeigh => exact decodeNlmsg_nameless (Or.inr htype) h rest

end Message

/-- The first word of the address that the first event names. -/
def firstWord : List Event → Option Word
  | .addrAdd data :: _ | .routeAdd data :: _ | .routeDel data :: _ =>
      data.ipv4Addr.or (data.ipv6Addr.map fun addr => addr 0)
  | _ => none

def firstMac : List Event → Option Byte
  | .newNeigh data :: _ | .delNeigh data :: _ => some (data.macAddr 0)
  | _ => none

theorem exists_other_word (o : Option Word) : ∃ w, o ≠ some (ntohl w) := by
  by_cases h : o = some (ntohl 0)
  · refine ⟨1, ?_⟩
    rw [h]
    decide
  · exact ⟨0, h⟩

theorem exists_other_byte (o : Option Byte) : ∃ b, o ≠ some b := by
  by_cases h : o = some 0
  · exact ⟨1, by rw [h]; decide⟩
  · exact ⟨0, h⟩

theorem copyAddr_le32 (w : Word) (p : Ptr) : copyAddr (cat (le32 w) p) 0 = w := by
  have hword := u32_le32 w [] p
  rw [List.append_nil] at hword
  exact hword

/-- An address behind the message. -/
def addrBehind (w : Word) : Ptr :=
  cat (le16 8 ++ (le16 1 ++ le32 w)) zeros

theorem attributes_addrBehind (w : Word) (info : AddrInfo) :
    attributes addrAttr (addrBehind w) 8 info =
      some (addrAttr 1 (cat (le32 w) zeros) info) := by
  have hone := attributes_one addrAttr (le32 w) (by decide : 4 ∣ 4)
    (by decide : 4 + 4 < 2 ^ 16) (by decide : 1 < 2 ^ 16) zeros 0 info
  rw [attributes_zero] at hone
  exact hone

/-- An Ethernet address behind the message. -/
def macBehind (b : Byte) : Ptr :=
  cat (le16 12 ++ (le16 2 ++ [b, 0, 0, 0, 0, 0, 0, 0])) zeros

theorem attributes_macBehind (b : Byte) (info : NeighInfo) :
    attributes neighAttr (macBehind b) 12 info =
      some (neighAttr 2 (cat [b, 0, 0, 0, 0, 0, 0, 0] zeros) info) := by
  have hone := attributes_one neighAttr [b, 0, 0, 0, 0, 0, 0, 0]
    (by decide : 4 ∣ 8) (by decide : 8 + 4 < 2 ^ 16) (by decide : 2 < 2 ^ 16) zeros 0 info
  rw [attributes_zero] at hone
  exact hone

/-- An interface and a destination behind the message; the destination begins where the walk
ends. -/
def routeBehind (i w : Word) : Ptr :=
  cat (le16 8 ++ (le16 4 ++ le32 i)) (cat (le16 4 ++ (le16 1 ++ [])) (cat (le32 w) zeros))

theorem attributes_routeBehind (i w : Word) (info : RouteInfo) :
    attributes routeAttr (routeBehind i w) 12 info =
      some
        { info with
          oifIndex := i
          dst := true
          dstAddr := copyAddr (cat (le32 w) zeros) } := by
  have hone := attributes_one routeAttr (le32 i) (by decide : 4 ∣ 4)
    (by decide : 4 + 4 < 2 ^ 16) (by decide : 4 < 2 ^ 16)
    (cat (le16 4 ++ (le16 1 ++ [])) (cat (le32 w) zeros)) 4 info
  have htwo := attributes_one routeAttr [] (by decide : 4 ∣ 0)
    (by decide : 0 + 4 < 2 ^ 16) (by decide : 1 < 2 ^ 16) (cat (le32 w) zeros) 0
    (routeAttr 4 (cat (le32 i) (cat (le16 4 ++ (le16 1 ++ [])) (cat (le32 w) zeros))) info)
  rw [attributes_zero] at htwo
  refine hone.trans (htwo.trans ?_)
  have hoif := u32_le32 i [] (cat (le16 4 ++ (le16 1 ++ [])) (cat (le32 w) zeros))
  rw [List.append_nil] at hoif
  change some { info with
    dstAddr := copyAddr (cat [] (cat (le32 w) zeros)), dst := true,
    oifIndex := (cat (le32 i) _).u32 } = _
  rw [hoif, cat]

theorem neighData_mac (info : NeighInfo) : (neighData info).macAddr = info.lladdrHwaddr := by
  rw [neighData]
  split_ifs <;> rfl

theorem firstMac_neigh {type : MsgType} (htype : type = .newNeigh ∨ type = .delNeigh) {msg : NlMsg}
    (hname : ifName msg.nlNeighInfo.ndmIfindex = true) :
    firstMac (postedBy (act ifName type { State.init with msg := msg })) =
      some (msg.nlNeighInfo.lladdrHwaddr 0) := by
  rw [← neighData_mac]
  rcases htype with rfl | rfl <;> simp only [act, neigh, hname, if_true] <;> rfl

theorem firstWord_route {type : MsgType} (htype : type = .newRoute ∨ type = .delRoute)
    (msg : NlMsg) (hroute : msg.nlRouteInfo.Boot ∨ msg.nlRouteInfo.Kernel)
    (hname : ifName msg.nlRouteInfo.oifIndex = true) (hdst : msg.nlRouteInfo.dst = true) :
    firstWord (postedBy (act ifName type { State.init with msg := msg })) =
      some (ntohl (msg.nlRouteInfo.dstAddr 0)) := by
  by_cases hboot : msg.nlRouteInfo.Boot
  · rcases htype with rfl | rfl <;>
      simp only [act, route, newRouteBoot, delRouteBoot, hboot, hname, hdst, if_true,
        Bool.true_eq_false, if_false] <;>
      rfl
  · have hkernel := hroute.resolve_left hboot
    rcases htype with rfl | rfl <;>
      simp only [act, route, newRouteKernel, delRouteKernel, hboot, hkernel, hname, hdst, if_true,
        Bool.true_eq_false, if_false]
    · split <;> rfl
    · rfl

namespace Message

variable {m : Message}

theorem decodeNlmsg_addrBehind (htype : m.type = .newAddr) (w : Word) :
    ∃ events, decodeNlmsg ifName (cat m.encode (addrBehind w)) m.len = some events ∧
      firstWord events = some (ntohl w) := by
  have hmeta : m.type.HasMeta m.metainfo.length := m.metainfo_length
  rw [htype] at hmeta
  rw [decodeNlmsg_single, tail, htype, parseTail, hmeta, attributes_addrBehind, Option.map_some,
    Option.map_some]
  refine ⟨_, rfl, ?_⟩
  simp only [act, newAddr, addrAttr, if_true]
  split
  · exact congrArg (fun v => some (ntohl v)) (copyAddr_le32 w zeros)
  · exact congrArg (fun v => some (ntohl v)) (copyAddr_le32 w zeros)

theorem decodeNlmsg_macBehind (htype : m.type = .newNeigh ∨ m.type = .delNeigh)
    (hname : ifName m.neighInfo.ndmIfindex = true) (b : Byte) :
    ∃ events, decodeNlmsg ifName (cat m.encode (macBehind b)) m.len = some events ∧
      firstMac events = some b := by
  have hindex : (m.read (macBehind b) NlMsg.zeroed).nlNeighInfo.ndmIfindex =
      m.neighInfo.ndmIfindex := by
    rw [(read_neigh htype _).1]
  rw [decodeNlmsg_single, tail_neigh htype, attributes_macBehind, Option.map_some, Option.map_some]
  exact ⟨_, rfl, firstMac_neigh htype ((congrArg ifName hindex).trans hname)⟩

theorem decodeNlmsg_routeBehind (htype : m.type = .newRoute ∨ m.type = .delRoute)
    (hroute : m.routeInfo.Boot ∨ m.routeInfo.Kernel) {i : Word} (hname : ifName i = true)
    (w : Word) :
    ∃ events, decodeNlmsg ifName (cat m.encode (routeBehind i w)) m.len = some events ∧
      firstWord events = some (ntohl w) := by
  have hsame := read_route htype (routeBehind i w)
  rw [decodeNlmsg_single, tail_route htype, attributes_routeBehind, Option.map_some,
    Option.map_some]
  refine ⟨_, rfl, ?_⟩
  let info : RouteInfo :=
    { (m.read (routeBehind i w) NlMsg.zeroed).nlRouteInfo with
      oifIndex := i
      dst := true
      dstAddr := copyAddr (cat (le32 w) zeros) }
  have hword := firstWord_route htype
    { m.read (routeBehind i w) NlMsg.zeroed with nlRouteInfo := info }
    (hroute.imp hsame.boot.mpr hsame.kernel.mpr) hname rfl
  refine hword.trans ?_
  exact congrArg (fun v => some (ntohl v)) (copyAddr_le32 w zeros)

/-- Exactly when a message is read for what it says, whatever lies behind it in the buffer. -/
theorem decodeNlmsg_own_iff (m : Message) :
    (∀ rest, decodeNlmsg ifName (cat m.encode rest) m.len = some (m.events ifName)) ↔
      m.Deaf ifName := by
  refine ⟨fun h => ?_, Deaf.decodeNlmsg⟩
  have hwrong : ∀ {β : Type} (probe : List Event → Option β) (b : β) (rest : Ptr),
      (∃ events, decodeNlmsg ifName (cat m.encode rest) m.len = some events ∧
        probe events = some b) → probe (m.events ifName) = some b := by
    rintro β probe b rest ⟨events, hevents, hprobe⟩
    rw [h rest, Option.some_inj] at hevents
    rw [hevents, hprobe]
  obtain ⟨w, hw⟩ := exists_other_word (firstWord (m.events ifName))
  obtain ⟨b, hb⟩ := exists_other_byte (firstMac (m.events ifName))
  have hroute : m.type = .newRoute ∨ m.type = .delRoute → m.routeInfo.Ignored ifName := by
    intro htype
    refine not_not.mp fun hacted => ?_
    rw [RouteInfo.Ignored, not_or, not_and_or, not_not, not_not, not_forall] at hacted
    obtain ⟨hkind, i, hi⟩ := hacted
    rw [Bool.not_eq_false] at hi
    exact hw (hwrong firstWord _ _ (decodeNlmsg_routeBehind htype hkind hi w))
  rw [Deaf]
  cases htype : m.type
  case newLink | delLink | other => trivial
  case newAddr =>
    exact hw (hwrong firstWord _ _ (decodeNlmsg_addrBehind htype w))
  case newNeigh =>
    refine Bool.eq_false_iff.mpr fun hname => ?_
    exact hb (hwrong firstMac _ _ (decodeNlmsg_macBehind (Or.inl htype) hname b))
  case delNeigh =>
    refine Bool.eq_false_iff.mpr fun hname => ?_
    exact hb (hwrong firstMac _ _ (decodeNlmsg_macBehind (Or.inr htype) hname b))
  case newRoute => exact hroute (Or.inl htype)
  case delRoute => exact hroute (Or.inr htype)

end Message

end LibraDevice.Netlink
