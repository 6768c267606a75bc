import LibraDevice.Lib.StepRun
import LibraDevice.Conntrack.Routing

/-!
What the closing message of a connection leaves of it in the NAT cache and among
the temporary entries.
-/

namespace LibraDevice.Conntrack

open LibraDevice.SlotTable
open NatCache StepRun Sweep

/-- The first cell that satisfies `p` is cleared, as `DeleteEntry` and
`DeleteTempEntry` do. -/
def clearFirst (p : NatTableEntry → Bool) (l : List NatTableEntry) : List NatTableEntry :=
  match l.findIdx? p with
  | none => l
  | some cnt => l.set cnt NatTableEntry.zeroed

theorem countP_clearFirst {p : NatTableEntry → Bool} (hzero : p NatTableEntry.zeroed = false)
    (l : List NatTableEntry) : (clearFirst p l).countP p = l.countP p - 1 := by
  rw [clearFirst]
  split
  case h_1 hnone =>
    have hcount : l.countP p = 0 := by
      apply List.countP_eq_zero.mpr
      intro e he
      rw [List.findIdx?_eq_none_iff.mp hnone e he]
      exact Bool.false_ne_true
    rw [hcount]
  case h_2 cnt hcnt =>
    obtain ⟨before, e, after, rfl, rfl, he, -⟩ := split_of_findIdx?_eq_some hcnt
    rw [set_append_cons, List.countP_append, List.countP_append,
      List.countP_cons_of_neg (by rw [hzero]; exact Bool.false_ne_true),
      List.countP_cons_of_pos he]
    omega

theorem countP_clearFirst_of_disjoint {p q : NatTableEntry → Bool}
    (hzero : q NatTableEntry.zeroed = false) (hdisj : ∀ e, p e = true → q e = false)
    (l : List NatTableEntry) : (clearFirst p l).countP q = l.countP q := by
  rw [clearFirst]
  split
  case h_1 => rfl
  case h_2 cnt hcnt =>
    obtain ⟨before, e, after, rfl, rfl, he, -⟩ := split_of_findIdx?_eq_some hcnt
    rw [set_append_cons, List.countP_append, List.countP_append,
      List.countP_cons_of_neg (by rw [hzero]; exact Bool.false_ne_true),
      List.countP_cons_of_neg (by rw [hdisj e he]; exact Bool.false_ne_true)]

section

variable {δ : Type} {d : NatDriver δ}

theorem deleteEntry_cache (rule : NatTableEntry) (app : NatApp δ) :
    (deleteEntry d rule app).2.cache = clearFirst rule.sameTuple app.cache := by
  rw [deleteEntry, clearFirst]
  cases app.cache.findIdx? rule.sameTuple with
  | none => rfl
  | some cnt => rfl

theorem deleteEntry_temp (rule : NatTableEntry) (app : NatApp δ) :
    (deleteEntry d rule app).2.temp = app.temp := by
  rw [deleteEntry]
  split
  · rfl
  · rfl

theorem deleteTempEntry_temp (rule : NatTableEntry) (app : NatApp δ) :
    (deleteTempEntry rule app).temp = clearFirst rule.sameTuple app.temp := by
  rw [deleteTempEntry, clearFirst]
  cases app.temp.findIdx? rule.sameTuple with
  | none => rfl
  | some cnt => rfl

theorem deleteTempEntry_cache (rule : NatTableEntry) (app : NatApp δ) :
    (deleteTempEntry rule app).cache = app.cache := by
  rw [deleteTempEntry]
  split
  · rfl
  · rfl

/-- No connection is cached twice; the counter may be off. -/
def Distinct (app : NatApp δ) : Prop :=
  ∃ k, Counted NatTableEntry.key app.cache (app.curCnt + k)

theorem Distinct.step {app app' : NatApp δ} (h : Distinct app) (hstep : CacheStep app app') :
    Distinct app' := by
  obtain ⟨k, hk⟩ := h
  exact ⟨k, hstep.counted hk⟩

theorem Distinct.cacheEntry {app : NatApp δ} (h : Distinct app) (cnt : Nat)
    (rule : NatTableEntry) : Distinct (cacheEntry cnt rule app) := by
  rcases Nat.lt_or_ge app.cache.length cnt with hlt | hle
  · obtain ⟨k, hk⟩ := h
    have hdrop : app.cache.drop cnt = [] := List.drop_eq_nil_of_le (Nat.le_of_lt hlt)
    rw [NatCache.cacheEntry]
    split
    · exact ⟨k, hk⟩
    split
    · exact ⟨k, hk⟩
    rw [hdrop, List.findIdx?_nil]
    dsimp only
    split
    · exact ⟨k, hk⟩
    · refine ⟨k - 1, ?_⟩
      have hcount : app.curCnt + 1 + (k - 1) = app.curCnt + k := by omega
      dsimp only
      rw [hcount]
      exact hk
  · exact h.step (cacheEntry_cacheStep cnt rule (Or.inr (Or.inr hle)))

theorem Distinct.deleteEntry {app : NatApp δ} (h : Distinct app) {rule : NatTableEntry}
    (hrule : rule.isFree = false) : Distinct (deleteEntry d rule app).2 := by
  apply h.step
  apply deleteEntry_cacheStep
  intro hfree
  rw [hrule] at hfree
  cases hfree

theorem Distinct.deleteTempEntry {app : NatApp δ} (h : Distinct app) (rule : NatTableEntry) :
    Distinct (deleteTempEntry rule app) := by
  rw [NatCache.deleteTempEntry]
  split
  · exact h
  · exact h

theorem Distinct.flushTempEntries {app : NatApp δ} (h : Distinct app) (ipAddr : UInt32)
    (isAdd : Bool) : Distinct (flushTempEntries d ipAddr isAdd app) :=
  flushTempEntries_rule (fun rule app h => h.step (addEntry_cacheStep rule app)) (fun _ _ h => h)
    ipAddr isAdd h

theorem Distinct.countP_le_one {app : NatApp δ} (h : Distinct app) {rule : NatTableEntry}
    (hrule : rule.isFree = false) : app.cache.countP rule.sameTuple ≤ 1 := by
  obtain ⟨k, hk⟩ := h
  have htest : rule.sameTuple = fun e => e.key == some rule.tuple := by
    funext e
    rw [Bool.eq_iff_iff, NatTableEntry.sameTuple_iff, beq_iff_eq, NatTableEntry.key]
    split
    case isTrue hfree =>
      rw [NatTableEntry.isFree_iff] at hfree
      rw [Bool.eq_false_iff, Ne, NatTableEntry.isFree_iff] at hrule
      constructor
      · intro heq
        exact absurd (heq.symm.trans hfree) hrule
      · intro heq
        cases heq
    case isFalse =>
      rw [Option.some.injEq]
  have hcount := List.nodup_iff_count_le_one.mp hk.nodup rule.tuple
  rw [keys, List.count_filterMap] at hcount
  rw [htest]
  exact hcount

theorem isFree_of_protocol {rule : NatTableEntry} (h : rule.protocol ≠ 0) :
    rule.isFree = false := by
  rw [Bool.eq_false_iff, Ne, NatTableEntry.isFree_iff]
  intro hzero
  exact h (congrArg (fun x => x.2.2.2.2) hzero)

theorem protocol_of_ctChange {protocol x : UInt8} {t : MsgType}
    (h : ctChange protocol x t ≠ .other) : protocol ≠ 0 := by
  rintro rfl
  exact h rfl

theorem ctVerdict_protocol {cfg : Config} {ct : NfConntrack} {lst : CtListener δ}
    {rule : NatTableEntry} {isTempEntry : Bool}
    (h : ctVerdict cfg ct lst = .add rule isTempEntry) : rule.protocol = ct.replL4proto := by
  obtain ⟨⟨status, -, htuple⟩, -⟩ := ctVerdict_add h
  have hlast := congrArg (fun x => x.2.2.2.2) htuple
  cases status with
  | dstNat => exact hlast.symm
  | srcNat => exact hlast.symm

theorem addRule_distinct {lst : CtListener δ} (h : Distinct lst.natInst) (rule : NatTableEntry)
    (isTempEntry : Bool) (tcpState : UInt8) (type : MsgType) (cnt : Nat) :
    Distinct (addRule d rule isTempEntry (ctChange rule.protocol tcpState type) cnt lst) := by
  cases hchange : ctChange rule.protocol tcpState type with
  | opened =>
      rw [addRule]
      split
      · exact h.cacheEntry cnt rule
      split
      · exact h.step (addTempEntry_cacheStep rule lst.natInst)
      · exact h.step (addEntry_cacheStep rule lst.natInst)
  | closed =>
      rw [addRule]
      split
      · exact h.deleteTempEntry rule
      · apply h.deleteEntry
        apply isFree_of_protocol
        apply protocol_of_ctChange (x := tcpState) (t := type)
        rw [hchange]
        nofun
  | other => exact h

theorem cacheNonNatIface_distinct (ipv4Addr : UInt32) {lst : CtListener δ}
    (h : Distinct lst.natInst) : Distinct (cacheNonNatIface d ipv4Addr lst).natInst := by
  rw [cacheNonNatIface]
  split
  · exact h
  · exact h.flushTempEntries ipv4Addr false

theorem addNatIface_distinct (ipv4Addr : UInt32) {lst : CtListener δ}
    (h : Distinct lst.natInst) : Distinct (addNatIface d ipv4Addr lst).natInst := by
  rw [addNatIface]
  split
  · exact cacheNonNatIface_distinct ipv4Addr h
  split
  · exact h
  · exact (h.step (resetPwrSaveIf_cacheStep ipv4Addr lst.natInst)).flushTempEntries ipv4Addr true

theorem eventCallback_distinct (cfg : Config) {lst : CtListener δ} (h : Distinct lst.natInst)
    (ev : CtEvent) : Distinct (eventCallback d cfg lst ev).natInst := by
  cases ev with
  | ctMessage ct type cnt =>
      rw [eventCallback, processCTMessage]
      split
      · exact h
      rw [processTCPorUDPMsg]
      split
      case h_1 rule isTempEntry _ => exact addRule_distinct h rule isTempEntry ct.tcpState type cnt
      case h_2 => exact h
  | neighIpAddrAdd ipv4Addr iptype ifrName =>
      rw [eventCallback, handleNeighIpAddrAddEvt.eq_def]
      split
      · exact h
      split
      · exact h
      split
      · exact addNatIface_distinct ipv4Addr h
      · exact cacheNonNatIface_distinct ipv4Addr h
  | neighIpAddrDel ipv4Addr =>
      rw [eventCallback, handleNeighIpAddrDelEvt]
      split
      · exact h
      · exact (h.flushTempEntries ipv4Addr false).step (delEntriesOnClntDiscon_cacheStep ipv4Addr _)
  | wanUp ipv4Addr isSta =>
      rw [eventCallback, handleWanUp]
      split
      · exact h
      split
      · exact h
      · exact h.step (addTable_cacheStep ipv4Addr lst.natInst)
  | wanDown wanAddr =>
      rw [eventCallback, handleWanDown]
      split
      · exact h.step (deleteTable_cacheStep wanAddr lst.natInst)
      · exact h
  | staClientAdd c =>
      rw [eventCallback, handleSTAClientAddEvt]
      split
      · exact h
      split
      · exact h
      split
      · exact h
      · exact h
  | staClientDel c =>
      rw [eventCallback, handleSTAClientDelEvt]
      split
      · exact h
      · exact h.step (delEntriesOnSTAClntDiscon_cacheStep c lst.natInst)

theorem distinct_init (maxEntries : Nat) (algPorts : List (UInt8 × UInt16)) (drv : δ) :
    Distinct (NatApp.init maxEntries algPorts drv) :=
  ⟨0, (slotsOk_init maxEntries algPorts drv).counted⟩

/-- No entry has the addresses, ports and protocol of the rule. -/
structure Gone (rule : NatTableEntry) (app : NatApp δ) : Prop where
  cache : ∀ e ∈ app.cache, rule.sameTuple e = false
  temp : ∀ e ∈ app.temp, rule.sameTuple e = false

theorem gone_iff {rule : NatTableEntry} {app : NatApp δ} :
    Gone rule app ↔ app.cache.countP rule.sameTuple = 0 ∧ app.temp.countP rule.sameTuple = 0 := by
  simp only [List.countP_eq_zero, Bool.not_eq_true]
  constructor
  · intro h
    exact ⟨h.cache, h.temp⟩
  · rintro ⟨hcache, htemp⟩
    exact ⟨hcache, htemp⟩

/-- The tables lead a message about the connection of the rule to where the
connection is kept, and the temporary entries keep it once at most. -/
structure HandledWhereKept (cfg : Config) (ct : NfConntrack) (rule : NatTableEntry)
    (lst : CtListener δ) : Prop where
  cache : 0 < lst.natInst.cache.countP rule.sameTuple → ct.Names rule lst ∧ LedToCache rule lst
  temp : 0 < lst.natInst.temp.countP rule.sameTuple →
    lst.natInst.temp.countP rule.sameTuple = 1 ∧ ct.Names rule lst ∧ LedToTemp cfg rule lst

theorem sameTuple_congr {rule rule' : NatTableEntry} (h : rule'.tuple = rule.tuple) :
    rule'.sameTuple = rule.sameTuple := by
  funext e
  rw [Bool.eq_iff_iff, NatTableEntry.sameTuple_iff, NatTableEntry.sameTuple_iff, h]

theorem sameTuple_zeroed {rule : NatTableEntry} (h : rule.isFree = false) :
    rule.sameTuple NatTableEntry.zeroed = false := by
  rw [Bool.eq_false_iff, Ne, NatTableEntry.sameTuple_iff]
  intro heq
  rw [Bool.eq_false_iff, Ne, NatTableEntry.isFree_iff] at h
  exact h heq.symm

theorem countP_clearFirst_sameTuple {rule rule' : NatTableEntry} (h : rule.isFree = false)
    (l : List NatTableEntry) :
    (clearFirst rule'.sameTuple l).countP rule.sameTuple =
      if rule'.tuple = rule.tuple then l.countP rule.sameTuple - 1
      else l.countP rule.sameTuple := by
  split
  case isTrue heq =>
    rw [sameTuple_congr heq]
    exact countP_clearFirst (sameTuple_zeroed h) l
  case isFalse hne =>
    apply countP_clearFirst_of_disjoint (sameTuple_zeroed h)
    intro e he
    rw [Bool.eq_false_iff, Ne, NatTableEntry.sameTuple_iff]
    rw [NatTableEntry.sameTuple_iff] at he
    intro heq
    exact hne (he.symm.trans heq)

section

variable {cfg : Config} {lst : CtListener δ} {ct : NfConntrack} {rule : NatTableEntry}

theorem handledWhereKept_of_ignored (h : ∀ rule' isTempEntry,
    ctVerdict cfg ct lst ≠ .add rule' isTempEntry) :
    Gone rule lst.natInst ↔ HandledWhereKept cfg ct rule lst := by
  rw [gone_iff]
  constructor
  · rintro ⟨hc, ht⟩
    constructor
    · intro hpos
      omega
    · intro hpos
      omega
  · intro hkept
    constructor
    · apply Nat.eq_zero_of_not_pos
      intro hpos
      obtain ⟨rule', hverdict, -⟩ := ctVerdict_add_false_iff.mpr (hkept.cache hpos)
      exact h rule' false hverdict
    · apply Nat.eq_zero_of_not_pos
      intro hpos
      obtain ⟨rule', hverdict, -⟩ := ctVerdict_add_true_iff.mpr (hkept.temp hpos).2
      exact h rule' true hverdict

theorem gone_deleteTempEntry_iff (hrule : rule.isFree = false) {rule' : NatTableEntry}
    (hverdict : ctVerdict cfg ct lst = .add rule' true) :
    Gone rule (deleteTempEntry rule' lst.natInst) ↔ HandledWhereKept cfg ct rule lst := by
  rw [gone_iff, deleteTempEntry_cache, deleteTempEntry_temp, countP_clearFirst_sameTuple hrule]
  constructor
  · rintro ⟨hc, ht⟩
    constructor
    · intro hpos
      omega
    · intro hpos
      split at ht
      case isTrue heq => exact ⟨by omega, ctVerdict_add_true_iff.mp ⟨rule', hverdict, heq⟩⟩
      case isFalse => omega
  · intro hkept
    constructor
    · apply Nat.eq_zero_of_not_pos
      intro hpos
      obtain ⟨rule'', hverdict', -⟩ := ctVerdict_add_false_iff.mpr (hkept.cache hpos)
      rw [hverdict] at hverdict'
      cases hverdict'
    · rcases Nat.eq_zero_or_pos (lst.natInst.temp.countP rule.sameTuple) with hzero | hpos
      · rw [hzero]
        exact ite_self 0
      · obtain ⟨hone, hled⟩ := hkept.temp hpos
        obtain ⟨rule'', hverdict', heq⟩ := ctVerdict_add_true_iff.mpr hled
        rw [hverdict] at hverdict'
        cases hverdict'
        rw [if_pos heq, hone]

theorem gone_deleteEntry_iff (hdistinct : Distinct lst.natInst) (hrule : rule.isFree = false)
    {rule' : NatTableEntry} (hverdict : ctVerdict cfg ct lst = .add rule' false) :
    Gone rule (deleteEntry d rule' lst.natInst).2 ↔ HandledWhereKept cfg ct rule lst := by
  have hone := hdistinct.countP_le_one hrule
  rw [gone_iff, deleteEntry_cache, deleteEntry_temp, countP_clearFirst_sameTuple hrule]
  constructor
  · rintro ⟨hc, ht⟩
    constructor
    · intro hpos
      split at hc
      case isTrue heq => exact ctVerdict_add_false_iff.mp ⟨rule', hverdict, heq⟩
      case isFalse => omega
    · intro hpos
      omega
  · intro hkept
    constructor
    · rcases Nat.eq_zero_or_pos (lst.natInst.cache.countP rule.sameTuple) with hzero | hpos
      · rw [hzero]
        exact ite_self 0
      · obtain ⟨rule'', hverdict', heq⟩ := ctVerdict_add_false_iff.mpr (hkept.cache hpos)
        rw [hverdict] at hverdict'
        cases hverdict'
        rw [if_pos heq]
        omega
    · apply Nat.eq_zero_of_not_pos
      intro hpos
      obtain ⟨rule'', hverdict', -⟩ := ctVerdict_add_true_iff.mpr (hkept.temp hpos).2
      rw [hverdict] at hverdict'
      cases hverdict'

theorem gone_iff_handledWhereKept (hdistinct : Distinct lst.natInst) {type : MsgType}
    (hclosed : ctChange ct.replL4proto ct.tcpState type = .closed) (hrule : rule.isFree = false)
    (cnt : Nat) :
    Gone rule (processTCPorUDPMsg d cfg ct type cnt lst).natInst ↔
      HandledWhereKept cfg ct rule lst := by
  rw [processTCPorUDPMsg]
  cases hverdict : ctVerdict cfg ct lst with
  | ignore =>
      apply handledWhereKept_of_ignored
      intro rule' isTempEntry hadd
      rw [hverdict] at hadd
      cases hadd
  | notStaClnt rule' =>
      apply handledWhereKept_of_ignored
      intro rule'' isTempEntry hadd
      rw [hverdict] at hadd
      cases hadd
  | add rule' isTempEntry =>
      dsimp only
      rw [ctVerdict_protocol hverdict, hclosed, addRule]
      cases isTempEntry with
      | true => exact gone_deleteTempEntry_iff hrule hverdict
      | false => exact gone_deleteEntry_iff hdistinct hrule hverdict

end

variable (d) in
/-- After every run, a closing message leaves nothing of the connection behind
exactly when it is handled where the connection is kept. -/
theorem gone_iff_of_run (cfg : Config) (isStaMode : Bool) (wanIpaddr : UInt32)
    (maxEntries : Nat) (algPorts : List (UInt8 × UInt16)) (drv : δ) (evs : List CtEvent)
    (lst : CtListener δ)
    (hrun : Run (fun lst ev lst' => lst' = eventCallback d cfg lst ev)
      (CtListener.init isStaMode wanIpaddr (NatApp.init maxEntries algPorts drv)) evs lst)
    (ct : NfConntrack) (type : MsgType) (cnt : Nat)
    (hclosed : ctChange ct.replL4proto ct.tcpState type = .closed) (rule : NatTableEntry)
    (hrule : rule.protocol = ct.replL4proto) :
    Gone rule (processTCPorUDPMsg d cfg ct type cnt lst).natInst ↔
      HandledWhereKept cfg ct rule lst := by
  have hdistinct := hrun.invariant (I := fun lst => Distinct lst.natInst)
    (distinct_init maxEntries algPorts drv) (by
      rintro lst ev lst' h rfl
      exact eventCallback_distinct cfg h ev)
  apply gone_iff_handledWhereKept hdistinct hclosed
  apply isFree_of_protocol
  rw [hrule]
  apply protocol_of_ctChange (x := ct.tcpState) (t := type)
  rw [hclosed]
  nofun

end

/-- A connection of the client 192.168.1.2, with the source NAT flag. -/
def lanConntrack : NfConntrack where
  status := ipsSrcNat
  origL4proto := IpaNat.ipprotoUdp
  replL4proto := IpaNat.ipprotoUdp
  origIpv4Src := 0xC0A80102
  origIpv4Dst := 4
  origPortSrc := 5
  origPortDst := 6
  replIpv4Src := 4
  replPortSrc := 6
  replPortDst := 7
  tcpState := 0

def lanListener : CtListener (List (Nat × IpaNat.Ipv4Rule)) := .init false 0 smallApp

/-- The client is known, WAN comes up, and the connection is opened. -/
def openingRun : List CtEvent :=
  [.neighIpAddrAdd 0xC0A80102 .v4 (some "wlan0"), .wanUp 9 false, .ctMessage lanConntrack .new 0]

theorem gone_openingRun :
    Gone (ctRule .srcNat 0 lanConntrack)
      (processTCPorUDPMsg ruleMapDriver lanConfig lanConntrack .destroy 0
        (openingRun.foldl (eventCallback ruleMapDriver lanConfig) lanListener)).natInst := by
  apply (gone_iff_of_run ruleMapDriver lanConfig false 0 4 [] [] openingRun _
    (Run.snoc (Run.snoc (Run.snoc .nil rfl) rfl) rfl) lanConntrack .destroy 0 (by decide)
    (ctRule .srcNat 0 lanConntrack) (by decide)).mpr
  constructor
  · intro _
    refine ⟨⟨.srcNat, .srcFlag (by decide) (by decide), rfl⟩, ?_, ?_⟩
    · exact ⟨0xC0A80102, by decide, by decide, Or.inl rfl⟩
    · intro hsta
      exact absurd hsta (by decide)
  · intro htemp
    exact absurd htemp (by decide)

/-- The connection is opened while WAN is down and before its client is known:
it is cached, but closed as a temporary entry. -/
theorem not_gone_wanDown :
    ∃ lst, Run (fun lst ev lst' => lst' = eventCallback ruleMapDriver lanConfig lst ev)
      lanListener [.ctMessage lanConntrack .new 0] lst ∧
      ¬ Gone (ctRule .srcNat 0 lanConntrack)
        (processTCPorUDPMsg ruleMapDriver lanConfig lanConntrack .destroy 0 lst).natInst := by
  refine ⟨_, Run.snoc .nil rfl, ?_⟩
  intro h
  exact absurd h.cache (by decide)

end LibraDevice.Conntrack
