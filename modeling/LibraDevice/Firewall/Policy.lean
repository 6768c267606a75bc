import LibraDevice.Firewall.Rules
import LibraDevice.Lib.RuleList

/-!
What the rules of the firewall do with a packet, and what the configuration asks for.
-/

namespace LibraDevice.Firewall

open Backhaul RuleList

variable {P : Type*} (R : Reading P)

/-- The RX properties tell the packets of an interface by their metadata alone. -/
def RxProp.OnlyMetaData (rx : RxProp) : Prop :=
  ∀ i, (rx.rx i).attribMask ⊆ {.metaData}

/-- The packet carries the metadata of the interface. -/
def Arrives (rx : RxProp) (p : P) : Prop :=
  ∀ i, R.metaData (rx.rx i).metaData (rx.rx i).metaDataMask p = true

def FltRule.accepts (r : FltRule) : Bool :=
  r.action = .passToDstNat || (r.action = .passToRouting && r.rtTbl = some .wanV6)

def Installed.sel (iptype : IpType) (i : Installed) (p : P) : Bool :=
  R.selects iptype i.rule.attrib p

/-- The modem reads the addresses in network order. -/
def FltRule.sel (iptype : IpType) (r : FltRule) (p : P) : Bool :=
  R.selects iptype (changeToNetworkOrder iptype r.attrib) p

def Write.sel (iptype : IpType) (w : Write) (p : P) : Bool :=
  w.rule.sel R iptype p

/-- What the first rule in station mode does with the packet. -/
def stationAccepts (iptype : IpType) (rules : List Installed) (p : P) : Option Bool :=
  (first (Installed.sel R iptype) rules p).map fun i => i.rule.accepts

/-- What the first rule of the modem does with the packet. -/
def modemAccepts (iptype : IpType) (rules : List Write) (p : P) : Option Bool :=
  (first (Write.sel R iptype) rules p).map fun w => w.rule.accepts

/-- Some entry of the family matches the packet. -/
def FirewallConf.matchesPacket (conf : FirewallConf) (iptype : IpType) (p : P) : Bool :=
  conf.entries.any fun e => e.ipVsn = ipVsn iptype && R.matchesEntry iptype e p

/-- What the configuration asks for. -/
def FirewallConf.accepts (conf : FirewallConf) (iptype : IpType) (p : P) : Bool :=
  !conf.firewallEnable || conf.matchesPacket R iptype p == conf.ruleActionAccept

section

variable {R}

theorem meets_setProtocol (iptype : IpType) (a : RuleAttrib) (x : UInt8) (p : P) (f : Flt) :
    R.meets iptype (a.setProtocol x iptype) p f =
      if f = protocolFlt iptype then decide (R.protocolOf p iptype = x)
      else R.meets iptype a p f := by
  cases iptype <;> cases f <;> rfl

theorem meets_onInterface (iptype : IpType) (rx a : RuleAttrib) (p : P) (f : Flt) :
    R.meets iptype (onInterface rx a) p f =
      if f = .metaData then R.metaData rx.metaData rx.metaDataMask p
      else R.meets iptype a p f := by
  cases f <;> rfl

theorem protocolFlt_ne_metaData (iptype : IpType) : protocolFlt iptype ≠ .metaData := by
  cases iptype <;> decide

@[simp]
theorem setProtocol_attribMask (a : RuleAttrib) (x : UInt8) (iptype : IpType) :
    (a.setProtocol x iptype).attribMask = a.attribMask := by
  cases iptype <;> rfl

/-- The flags of an entry besides the protocol and the metadata. -/
def MeetsOthers (R : Reading P) (iptype : IpType) (a : RuleAttrib) (p : P) : Prop :=
  ∀ f ∈ a.attribMask, f ≠ .metaData → f ≠ protocolFlt iptype → R.meets iptype a p f = true

theorem matchesEntry_iff (iptype : IpType) (e : ExtdFirewallEntry) (p : P) :
    R.matchesEntry iptype e p = true ↔
      MeetsOthers R iptype e.attrib p ∧
        (protocolFlt iptype ∈ e.attrib.attribMask →
          Reading.means (e.attrib.protocolOf iptype) (R.protocolOf p iptype) = true) := by
  simp only [Reading.matchesEntry, decide_eq_true_eq, MeetsOthers]
  constructor
  · intro h
    refine ⟨fun f hf hmeta hproto => ?_, fun hmem => ?_⟩
    · have hmeets := h f hf hmeta
      rwa [if_neg hproto] at hmeets
    · have hmeans := h _ hmem (protocolFlt_ne_metaData iptype)
      rwa [if_pos rfl] at hmeans
  · rintro ⟨hothers, hproto⟩ f hf hmeta
    rcases eq_or_ne f (protocolFlt iptype) with rfl | hne
    · rw [if_pos rfl]
      exact hproto hf
    · rw [if_neg hne]
      exact hothers f hf hmeta hne

theorem selects_setProtocol_iff {rx : RuleAttrib} (hrx : rx.attribMask ⊆ {.metaData})
    {p : P} (hp : R.metaData rx.metaData rx.metaDataMask p = true) (iptype : IpType)
    (a : RuleAttrib) (x : UInt8) :
    R.selects iptype ((onInterface rx a).setProtocol x iptype) p = true ↔
      MeetsOthers R iptype a p ∧
        (protocolFlt iptype ∈ a.attribMask → R.protocolOf p iptype = x) := by
  simp only [Reading.selects, decide_eq_true_eq, setProtocol_attribMask, meets_setProtocol,
    meets_onInterface]
  constructor
  · intro h
    refine ⟨fun f hf hmeta hproto => ?_, fun hmem => ?_⟩
    · have hmeets := h f (Finset.mem_union_left _ hf)
      rwa [if_neg hproto, if_neg hmeta] at hmeets
    · have hmeets := h _ (Finset.mem_union_left _ hmem)
      rw [if_pos rfl] at hmeets
      exact of_decide_eq_true hmeets
  · rintro ⟨hothers, hproto⟩ f hf
    rcases eq_or_ne f .metaData with rfl | hmeta
    · rw [if_neg (protocolFlt_ne_metaData iptype).symm, if_pos rfl]
      exact hp
    · have hmem : f ∈ a.attribMask := by
        rcases Finset.mem_union.mp hf with hmem | hmem
        · exact hmem
        · exact absurd (Finset.mem_singleton.mp (hrx hmem)) hmeta
      rcases eq_or_ne f (protocolFlt iptype) with rfl | hne
      · rw [if_pos rfl]
        exact decide_eq_true (hproto hmem)
      · rw [if_neg hne, if_neg hmeta]
        exact hothers f hmem hmeta hne

theorem setProtocol_protocolOf (a : RuleAttrib) (iptype : IpType) :
    a.setProtocol (a.protocolOf iptype) iptype = a := by
  cases iptype <;> rfl

theorem protocolOf_onInterface (rx a : RuleAttrib) (iptype : IpType) :
    (onInterface rx a).protocolOf iptype = a.protocolOf iptype := by
  cases iptype <;> rfl

theorem any_splitTcpUdp {rx : RuleAttrib} (hrx : rx.attribMask ⊆ {.metaData}) {p : P}
    (hp : R.metaData rx.metaData rx.metaDataMask p = true) (iptype : IpType)
    (e : ExtdFirewallEntry) :
    (splitTcpUdp iptype e (onInterface rx e.attrib)).any
      (fun a => R.selects iptype a p) = R.matchesEntry iptype e p := by
  apply Bool.eq_iff_iff.mpr
  rw [matchesEntry_iff, splitTcpUdp, Reading.means]
  rcases eq_or_ne (e.attrib.protocolOf iptype) ipprotoTcpUdp with htcpUdp | hother
  · rw [if_pos htcpUdp, if_pos htcpUdp]
    simp only [List.any_cons, List.any_nil, Bool.or_false, Bool.or_eq_true,
      selects_setProtocol_iff hrx hp, decide_eq_true_eq]
    tauto
  · have hset := selects_setProtocol_iff hrx hp iptype e.attrib (e.attrib.protocolOf iptype)
    have hsame := setProtocol_protocolOf (onInterface rx e.attrib) iptype
    rw [protocolOf_onInterface] at hsame
    rw [if_neg hother, if_neg hother, List.any_cons, List.any_nil, Bool.or_false]
    rw [hsame] at hset
    simpa using hset

theorem selects_anyDst {rx : RuleAttrib} (hrx : rx.attribMask ⊆ {.metaData}) {p : P}
    (hp : R.metaData rx.metaData rx.metaDataMask p = true) (iptype : IpType) :
    R.selects iptype (anyDst rx iptype) p = true := by
  apply decide_eq_true
  intro f hf
  have hmem : f ∈ insert Flt.dstAddr rx.attribMask := by
    cases iptype <;> exact hf
  rcases Finset.mem_insert.mp hmem with rfl | hmem
  · cases iptype with
    | v4 => exact R.dstAddr_zero p
    | v6 => exact R.dstAddrV6_zero p
  · have hmeta := Finset.mem_singleton.mp (hrx hmem)
    subst hmeta
    cases iptype <;> exact hp

theorem selects_withNextHdr {rx : RuleAttrib} (hrx : rx.attribMask ⊆ {.metaData}) {p : P}
    (hp : R.metaData rx.metaData rx.metaDataMask p = true) (x : UInt8) :
    R.selects .v6 (withNextHdr rx x) p = decide (R.nextHdr p = x) := by
  apply Bool.eq_iff_iff.mpr
  simp only [Reading.selects, decide_eq_true_eq]
  constructor
  · intro h
    exact of_decide_eq_true (h .nextHdr (Finset.mem_insert_self _ _))
  · intro h f hf
    rcases Finset.mem_insert.mp hf with rfl | hmem
    · exact decide_eq_true h
    · have hmeta := Finset.mem_singleton.mp (hrx hmem)
      subst hmeta
      exact hp

theorem changeToNetworkOrder_withNextHdr (rx : RuleAttrib) (x : UInt8) :
    changeToNetworkOrder .v6 (withNextHdr rx x) = withNextHdr (changeToNetworkOrder .v6 rx) x :=
  rfl

theorem changeToNetworkOrder_splitTcpUdp (iptype : IpType) (e : ExtdFirewallEntry)
    (a : RuleAttrib) :
    splitTcpUdp iptype e (changeToNetworkOrder iptype a) =
      (splitTcpUdp iptype e a).map (changeToNetworkOrder iptype) := by
  rw [splitTcpUdp, splitTcpUdp]
  split
  · simp
  · rfl

end

section

variable {R}

theorem any_zipIdx {α β : Type*} (l : List α) (n : Nat) (f : α × Nat → β) (q : β → Bool)
    (q' : α → Bool) (h : ∀ a i, q (f (a, i)) = q' a) :
    ((l.zipIdx n).map f).any q = l.any q' := by
  induction l generalizing n with
  | nil => rfl
  | cons a l ih =>
      rw [List.zipIdx_cons, List.map_cons, List.any_cons, List.any_cons, h, ih]

theorem Station.any_entriesRules {rx : RxProp} (hrx : rx.OnlyMetaData) {p : P}
    (hp : Arrives R rx p) (conf : FirewallConf) (iptype : IpType) (es : List ExtdFirewallEntry)
    (n : Nat) :
    (entriesRules rx conf iptype n es).any (fun i => Installed.sel R iptype i p) =
      es.any fun e => e.ipVsn = ipVsn iptype && R.matchesEntry iptype e p := by
  induction es generalizing n with
  | nil => rfl
  | cons e es ih =>
      rw [entriesRules, List.any_cons]
      rcases eq_or_ne e.ipVsn (ipVsn iptype) with hvsn | hvsn
      · have hentry : (entryRules rx conf iptype n e).any
            (fun i => Installed.sel R iptype i p) = R.matchesEntry iptype e p := by
          rw [← any_splitTcpUdp (hrx 0) (hp 0)]
          apply any_zipIdx
          intro a i
          cases iptype <;> rfl
        rw [if_pos hvsn, List.any_append, ih, hentry, decide_eq_true hvsn, Bool.true_and]
      · rw [if_neg hvsn, ih, decide_eq_false hvsn, Bool.false_and, Bool.false_or]

theorem Modem.any_entriesRules {rx : RxProp} (hrx : rx.OnlyMetaData) {p : P}
    (hp : Arrives R rx p) (conf : FirewallConf) (iptype : IpType) (es : List ExtdFirewallEntry)
    (pos : Nat) :
    (entriesRules rx conf iptype pos es).any (fun w => Write.sel R iptype w p) =
      es.any fun e => e.ipVsn = ipVsn iptype && R.matchesEntry iptype e p := by
  induction es generalizing pos with
  | nil => rfl
  | cons e es ih =>
      rw [entriesRules, List.any_cons]
      rcases eq_or_ne e.ipVsn (ipVsn iptype) with hvsn | hvsn
      · have hentry : (entryRules rx conf iptype pos e).any
            (fun w => Write.sel R iptype w p) = R.matchesEntry iptype e p := by
          rw [← any_splitTcpUdp (hrx 0) (hp 0), entryRules, changeToNetworkOrder_splitTcpUdp,
            any_zipIdx _ _ _ _ (fun a => R.selects iptype (changeToNetworkOrder iptype a) p)
              (fun a i => by cases iptype <;> rfl),
            List.any_map]
          congr 1
          funext a
          simp
        rw [if_pos hvsn, List.any_append, ih, hentry, decide_eq_true hvsn, Bool.true_and]
      · rw [if_neg hvsn, ih, decide_eq_false hvsn, Bool.false_and, Bool.false_or]

end

theorem Station.entriesRules_accepts (rx : RxProp) (conf : FirewallConf) (iptype : IpType)
    (es : List ExtdFirewallEntry) (n : Nat) :
    ∀ i ∈ entriesRules rx conf iptype n es, i.rule.accepts = conf.ruleActionAccept := by
  induction es generalizing n with
  | nil =>
      intro i hi
      cases hi
  | cons e es ih =>
      intro i hi
      rw [entriesRules] at hi
      split at hi
      · rcases List.mem_append.mp hi with hi | hi
        · obtain ⟨⟨a, k⟩, -, rfl⟩ := List.mem_map.mp hi
          cases iptype <;> rcases haccept : conf.ruleActionAccept with _ | _ <;>
            simp [entryRule, haccept, FltRule.accepts]
        · exact ih _ i hi
      · exact ih _ i hi

theorem Modem.entriesRules_accepts (rx : RxProp) (conf : FirewallConf) (iptype : IpType)
    (es : List ExtdFirewallEntry) (pos : Nat) :
    ∀ w ∈ entriesRules rx conf iptype pos es, w.rule.accepts = conf.ruleActionAccept := by
  induction es generalizing pos with
  | nil =>
      intro w hw
      cases hw
  | cons e es ih =>
      intro w hw
      rw [entriesRules] at hw
      split at hw
      · rcases List.mem_append.mp hw with hw | hw
        · obtain ⟨⟨a, k⟩, -, rfl⟩ := List.mem_map.mp hw
          cases iptype <;> rcases haccept : conf.ruleActionAccept with _ | _ <;>
            simp [entryRule, haccept, FltRule.accepts]
        · exact ih _ w hw
      · exact ih _ w hw

theorem Station.dftRule_accepts (rx : RxProp) (conf : FirewallConf) (iptype : IpType) :
    (dftRule rx conf iptype).accepts = !(conf.firewallEnable && conf.ruleActionAccept) := by
  cases iptype <;> rcases henable : conf.firewallEnable with _ | _ <;>
    rcases haccept : conf.ruleActionAccept with _ | _ <;>
    simp [dftRule, henable, haccept, FltRule.accepts]

theorem Modem.dftRule_accepts (rx : RxProp) (conf : FirewallConf) (iptype : IpType) :
    (dftRule rx conf iptype).accepts = !(conf.firewallEnable && conf.ruleActionAccept) := by
  cases iptype <;> rcases henable : conf.firewallEnable with _ | _ <;>
    rcases haccept : conf.ruleActionAccept with _ | _ <;>
    simp [dftRule, henable, haccept, FltRule.accepts]

end LibraDevice.Firewall
