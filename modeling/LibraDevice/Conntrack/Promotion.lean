import LibraDevice.Conntrack.Parking

/-!
The temporary entries that reach the NAT cache when the address of their client
becomes known.
-/

namespace LibraDevice.Conntrack

open NatCache StepRun Sweep
open StepWise (Throughout)

section

variable {δ : Type}

/-- `AddEntry` accepts the rule, unless it is a duplicate. -/
structure Accepts (d : NatDriver δ) (rule : NatTableEntry) (app : NatApp δ) : Prop where
  table : app.natTableHdl ≠ 0
  privatePort : isAlgPort rule.protocol rule.privatePort app = false
  targetPort : isAlgPort rule.protocol rule.targetPort app = false
  valid : rule.invalid = false
  free : ∃ e ∈ app.cache, e.isFree = true
  driver : ∀ ruleHdl, 0 ≤ (d.addIpv4Rule app.natTableHdl rule.natRule ruleHdl app.driver).1

/-- `AddEntry` accepts what is parked of the rule's connection when its turn in
`FlushTempEntries` comes, unless the connection is cached by then. -/
def AcceptedInTurn (d : NatDriver δ) (addr : UInt32) (rule : NatTableEntry) (app : NatApp δ) :
    Prop :=
  ∀ before e after, app.temp = before ++ e :: after → e.tuple = rule.tuple →
    e.publicIp.toUInt32 = app.pubIpAddr →
    chkForDup rule (sweep (flushTempEntry d addr true) before app).2 = false →
    Accepts d e (sweep (flushTempEntry d addr true) before app).2

variable {d : NatDriver δ} {rule : NatTableEntry}

theorem chkForDup_iff {app : NatApp δ} :
    chkForDup rule app = true ↔ ∃ e ∈ app.cache, e.tuple = rule.tuple := by
  rw [chkForDup, List.any_eq_true]
  simp only [NatTableEntry.sameTuple_iff]

theorem chkForDup_set {app : NatApp δ} {e : NatTableEntry} {cnt : Nat} (app' : NatApp δ)
    (hcnt : cnt < app.cache.length) (hcache : app'.cache = app.cache.set cnt e)
    (he : e.tuple = rule.tuple) : chkForDup rule app' = true := by
  rw [chkForDup_iff, hcache]
  exact ⟨e, List.mem_set hcnt e, he⟩

theorem addEntry_of_accepts {app : NatApp δ} (h : Accepts d rule app)
    (hnew : chkForDup rule app = false) : chkForDup rule (addEntry d rule app).2 = true := by
  obtain ⟨cnt, hcnt⟩ : ∃ cnt, app.cache.findIdx? NatTableEntry.isFree = some cnt := by
    obtain ⟨e, he, hfree⟩ := h.free
    rw [← Option.isSome_iff_exists, List.findIdx?_isSome, List.any_eq_true]
    exact ⟨e, he, hfree⟩
  have hlt : cnt < app.cache.length := by
    obtain ⟨before, e, after, hsplit, rfl, -, -⟩ := split_of_findIdx?_eq_some hcnt
    rw [hsplit, List.length_append, List.length_cons]
    omega
  rw [addEntry, if_neg h.table, h.privatePort, h.targetPort, h.valid, hnew, hcnt]
  simp only [Bool.or_self, Bool.false_eq_true, if_false]
  split
  · exact chkForDup_set _ hlt rfl rfl
  · split
    case isTrue hlt0 =>
      have hret := h.driver (app.cache.getD cnt NatTableEntry.zeroed).ruleHdl
      exact absurd hret (Int.not_le.mpr hlt0)
    case isFalse => exact chkForDup_set _ hlt rfl rfl

theorem chkForDup_addEntry (hrule : rule.isFree = false) {app : NatApp δ}
    (h : chkForDup rule app = true) (rule' : NatTableEntry) :
    chkForDup rule (addEntry d rule' app).2 = true := by
  rw [chkForDup_iff] at h ⊢
  obtain ⟨e, he, htuple⟩ := h
  obtain ⟨i, hi⟩ := List.mem_iff_getElem?.mp he
  have hused : e.isFree = false := by
    rw [Bool.eq_false_iff, Ne, NatTableEntry.isFree_iff] at hrule ⊢
    rw [htuple]
    exact hrule
  have hkept := addEntry_keeps (d := d) rule' app i e hi hused
  exact ⟨e, List.mem_of_getElem? hkept, htuple⟩

theorem not_chkForDup_addEntry {app : NatApp δ} (h : chkForDup rule app = false)
    {rule' : NatTableEntry} (hrule' : rule'.tuple ≠ rule.tuple) :
    chkForDup rule (addEntry d rule' app).2 = false := by
  rw [Bool.eq_false_iff, Ne, chkForDup_iff] at h ⊢
  have hset : ∀ (app' : NatApp δ) (cnt : Nat) (e : NatTableEntry),
      app'.cache = app.cache.set cnt e → e.tuple ≠ rule.tuple →
      ¬∃ f ∈ app'.cache, f.tuple = rule.tuple := by
    rintro app' cnt e hcache he ⟨f, hf, htuple⟩
    rw [hcache] at hf
    rcases List.mem_or_eq_of_mem_set hf with hf | rfl
    · exact h ⟨f, hf, htuple⟩
    · exact he htuple
  rw [addEntry]
  split
  · exact h
  split
  · exact h
  split
  · exact h
  split
  · exact h
  split
  case h_1 => exact h
  case h_2 cnt hcnt =>
    split
    · exact hset _ cnt _ rfl hrule'
    · dsimp only
      split
      · apply hset _ cnt _ rfl
        obtain ⟨before, e, after, hsplit, rfl, -, -⟩ := split_of_findIdx?_eq_some hcnt
        rw [hsplit, List.getD_eq_getElem?_getD, getElem?_append_cons, Option.getD_some]
        intro htuple
        exact h ⟨e, by simp [hsplit], htuple⟩
      · exact hset _ cnt _ rfl hrule'

theorem addEntry_pubIpAddr (rule : NatTableEntry) (app : NatApp δ) :
    (addEntry d rule app).2.pubIpAddr = app.pubIpAddr := by
  rw [addEntry]
  split
  · rfl
  split
  · rfl
  split
  · rfl
  split
  · rfl
  split
  · rfl
  dsimp only
  split
  · rfl
  split
  · rfl
  · rfl

theorem flushTempEntry_app (ipAddr : UInt32) (isAdd : Bool) (e : NatTableEntry)
    (app : NatApp δ) :
    (flushTempEntry d ipAddr isAdd e app).2 =
      if (e.privateIp = ipAddr ∨ e.targetIp = ipAddr) ∧ isAdd = true ∧
          e.publicIp.toUInt32 = app.pubIpAddr then
        (addEntry d e app).2
      else app := by
  rw [flushTempEntry]
  split
  case isFalse hip => rw [if_neg (fun h => hip h.1)]
  case isTrue hip =>
  split
  case isFalse hpub => rw [if_neg (fun h => hpub h.2)]
  case isTrue hpub =>
    rw [if_pos ⟨hip, hpub⟩]
    dsimp only
    split
    · rfl
    · rfl

variable {i : UInt32} {a : Bool}

theorem flush_pubIpAddr (l : List NatTableEntry) (app : NatApp δ) :
    (sweep (flushTempEntry d i a) l app).2.pubIpAddr = app.pubIpAddr := by
  induction l generalizing app with
  | nil => rfl
  | cons e l ih =>
      refine (ih _).trans ?_
      rw [flushTempEntry_app]
      split
      · exact addEntry_pubIpAddr e app
      · rfl

theorem flush_keeps (hrule : rule.isFree = false) (l : List NatTableEntry) {app : NatApp δ}
    (h : chkForDup rule app = true) :
    chkForDup rule (sweep (flushTempEntry d i a) l app).2 = true := by
  induction l generalizing app with
  | nil => exact h
  | cons e l ih =>
      apply ih
      rw [flushTempEntry_app]
      split
      · exact chkForDup_addEntry hrule h e
      · exact h

/-- Entries of other connections, or with another public address, do not bring
the connection into the cache. -/
theorem flush_not_chkForDup {l : List NatTableEntry} {app : NatApp δ}
    (hl : ∀ e ∈ l, e.tuple = rule.tuple → e.publicIp.toUInt32 ≠ app.pubIpAddr)
    (h : chkForDup rule app = false) :
    chkForDup rule (sweep (flushTempEntry d i a) l app).2 = false := by
  induction l generalizing app with
  | nil => exact h
  | cons e l ih =>
      apply ih
      · intro f hf htuple
        have hpub := flush_pubIpAddr (d := d) (i := i) (a := a) [e] app
        rw [sweep, sweep] at hpub
        dsimp only at hpub
        rw [hpub]
        exact hl f (List.mem_cons_of_mem e hf) htuple
      · rw [flushTempEntry_app]
        split
        case isTrue hadd =>
          apply not_chkForDup_addEntry h
          intro htuple
          exact hl e List.mem_cons_self htuple hadd.2.2
        case isFalse => exact h

theorem chkForDup_congr {rule' : NatTableEntry} (h : rule'.tuple = rule.tuple)
    (app : NatApp δ) : chkForDup rule' app = chkForDup rule app := by
  rw [chkForDup, chkForDup, sameTuple_congr h]

/-- `FlushTempEntries` caches a new connection exactly when an entry with the
public address is parked of it. -/
theorem flushTempEntries_caches_iff {ipAddr : UInt32} {app : NatApp δ}
    (hrule : rule.isFree = false) (haddr : ipAddr = rule.privateIp ∨ ipAddr = rule.targetIp)
    (hnew : chkForDup rule app = false) (hacc : AcceptedInTurn d ipAddr rule app) :
    chkForDup rule (flushTempEntries d ipAddr true app) = true ↔
      ∃ e ∈ app.temp, e.tuple = rule.tuple ∧ e.publicIp.toUInt32 = app.pubIpAddr := by
  change chkForDup rule (sweep (flushTempEntry d ipAddr true) app.temp app).2 = true ↔ _
  constructor
  · intro hcached
    by_contra hnone
    rw [flush_not_chkForDup _ hnew] at hcached
    · cases hcached
    · intro e he htuple hpub
      exact hnone ⟨e, he, htuple, hpub⟩
  · rintro ⟨e, he, htuple, hpub⟩
    obtain ⟨before, after, htemp⟩ := List.append_of_mem he
    have hturn := hacc before e after htemp htuple hpub
    have hsame := flush_pubIpAddr (d := d) (i := ipAddr) (a := true) before app
    rw [htemp, sweep_append]
    generalize (sweep (flushTempEntry d ipAddr true) before app).2 = app₁ at hturn hsame
    cases hcached : chkForDup rule app₁ with
    | true => exact flush_keeps hrule (e :: after) hcached
    | false =>
        obtain ⟨hprivate, htarget⟩ := ends_of_tuple htuple
        change chkForDup rule (sweep _ after (flushTempEntry d ipAddr true e app₁).2).2 = true
        apply flush_keeps hrule
        rw [flushTempEntry_app, if_pos, ← chkForDup_congr htuple]
        · exact addEntry_of_accepts (hturn hcached) ((chkForDup_congr htuple app₁).trans hcached)
        · rw [hprivate, htarget, hsame]
          exact ⟨haddr.imp Eq.symm Eq.symm, rfl, hpub⟩

theorem toUInt32_toUInt16_eq_iff (addr : UInt32) :
    addr.toUInt16.toUInt32 = addr ↔ addr.toNat < 65536 := by
  rw [← UInt32.toNat_inj, UInt16.toNat_toUInt32, UInt32.toNat_toUInt16]
  omega

theorem natStatus_publicIp_iff {wanIpaddr : UInt32} (hwan : wanIpaddr ≠ 0) {ct : NfConntrack}
    {status : NatStatus} {publicIp : UInt16}
    (h : natStatus wanIpaddr ct = some (status, publicIp)) :
    publicIp.toUInt32 = wanIpaddr ↔ ct.NoNatFlag ∧ wanIpaddr.toNat < 65536 := by
  have hzero : ¬(0 : UInt16).toUInt32 = wanIpaddr := fun heq => hwan heq.symm
  rw [natStatus] at h
  split at h
  case isTrue hdst =>
    cases h
    exact ⟨fun heq => absurd heq hzero, fun hno => absurd hno.1.1 hdst⟩
  case isFalse hdst =>
  split at h
  case isTrue hsrc =>
    cases h
    exact ⟨fun heq => absurd heq hzero, fun hno => absurd hno.1.2 hsrc⟩
  case isFalse hsrc =>
  have hno : ct.NoNatFlag := ⟨not_not.mp hdst, not_not.mp hsrc⟩
  have hpub : publicIp = wanIpaddr.toUInt16 := by
    split at h
    · cases h
    split at h
    · cases h
    split at h
    · cases h
      rfl
    split at h
    · cases h
      rfl
    · cases h
  rw [hpub, toUInt32_toUInt16_eq_iff]
  exact ⟨fun hlt => ⟨hno, hlt⟩, fun hlt => hlt.2⟩

theorem ctRule_publicIp (status : NatStatus) (publicIp : UInt16) (ct : NfConntrack) :
    (ctRule status publicIp ct).publicIp = publicIp := by
  cases status with
  | dstNat => rfl
  | srcNat => rfl

theorem ctVerdict_temp {cfg : Config} {ct : NfConntrack} {lst : CtListener δ}
    (h : ctVerdict cfg ct lst = .add rule true) :
    ∃ status publicIp, natStatus lst.wanIpaddr ct = some (status, publicIp) ∧
      rule = ctRule status publicIp ct := by
  have hadd : ∀ {rule' : NatTableEntry} {isTempEntry : Bool},
      staVerdict rule' isTempEntry lst = .add rule true → rule = rule' ∧ isTempEntry = true := by
    intro rule' isTempEntry hsta
    rw [staVerdict] at hsta
    split at hsta
    · cases hsta
      exact ⟨rfl, rfl⟩
    · cases hsta
  rw [ctVerdict] at h
  split at h
  case h_1 => cases h
  case h_2 status publicIp hstatus =>
    dsimp only at h
    split at h
    · split at h
      · cases (hadd h).2
      split at h
      · exact ⟨status, publicIp, hstatus, (hadd h).1⟩
      · cases h
    · split at h
      · cases h
      · cases (hadd h).2

/-- While WAN is up there is a public address. -/
def CtListener.WanAddressed (lst : CtListener δ) : Prop := lst.wanUp = true → lst.wanIpaddr ≠ 0

theorem cacheNonNatIface_wan (ipv4Addr : UInt32) {lst : CtListener δ} (h : lst.WanAddressed) :
    (cacheNonNatIface d ipv4Addr lst).WanAddressed := by
  rw [cacheNonNatIface]
  split
  · exact h
  · exact h

theorem addNatIface_wan (ipv4Addr : UInt32) {lst : CtListener δ} (h : lst.WanAddressed) :
    (addNatIface d ipv4Addr lst).WanAddressed := by
  rw [addNatIface]
  split
  · exact cacheNonNatIface_wan ipv4Addr h
  split
  · exact h
  · exact h

theorem eventCallback_wan (cfg : Config) {lst : CtListener δ} (h : lst.WanAddressed)
    (ev : CtEvent) : (eventCallback d cfg lst ev).WanAddressed := by
  cases ev with
  | ctMessage ct type cnt =>
      rw [eventCallback, processCTMessage]
      split
      · exact h
      rw [processTCPorUDPMsg]
      split
      · exact h
      · exact h
  | neighIpAddrAdd ipv4Addr iptype ifrName =>
      rw [eventCallback, handleNeighIpAddrAddEvt.eq_def]
      split
      · exact h
      split
      · exact h
      split
      · exact addNatIface_wan ipv4Addr h
      · exact cacheNonNatIface_wan ipv4Addr h
  | neighIpAddrDel ipv4Addr =>
      rw [eventCallback, handleNeighIpAddrDelEvt]
      split
      · exact h
      · exact h
  | wanUp ipv4Addr isSta =>
      rw [eventCallback, handleWanUp]
      split
      case isTrue => exact h
      case isFalse =>
      split
      case isTrue => exact h
      case isFalse hne => exact fun _ => hne
  | wanDown wanAddr =>
      rw [eventCallback, handleWanDown]
      split
      · intro hdown
        cases hdown
      · exact h
  | staClientAdd c =>
      rw [eventCallback, handleSTAClientAddEvt]
      split
      · exact h
      split
      · exact h
      split
      · exact h
      · exact h
  | staClientDel c =>
      rw [eventCallback, handleSTAClientDelEvt]
      split
      · exact h
      · exact h

theorem handleNeighIpAddrAddEvt_new (cfg : Config) {lst : CtListener δ} {addr : UInt32}
    {name : String} (hname : cfg.natIfaces.contains name = true)
    (hnew : addr ∉ lst.natIfaceIpv4Addr) (hroom : 0 ∈ lst.natIfaceIpv4Addr) :
    (handleNeighIpAddrAddEvt d cfg addr .v4 (some name) lst).natInst =
      flushTempEntries d addr true (resetPwrSaveIf d addr lst.natInst).2 := by
  have hne : addr ≠ 0 := by
    rintro rfl
    exact hnew hroom
  obtain ⟨j, hj⟩ : ∃ j, (lst.natIfaceIpv4Addr.findIdx? fun a => a == addr || a == 0) = some j := by
    rw [← Option.isSome_iff_exists, List.findIdx?_isSome, List.any_eq_true]
    exact ⟨0, hroom, by simp⟩
  obtain ⟨before, a, after, hsplit, rfl, ha, -⟩ := split_of_findIdx?_eq_some hj
  have hzero : a = 0 := by
    rcases eq_or_ne a addr with rfl | haddr
    · exact absurd (hsplit ▸ List.mem_append_right _ List.mem_cons_self) hnew
    · simpa [haddr] using ha
  have hslot : lst.natIfaceIpv4Addr.getD before.length 0 = 0 := by
    rw [hsplit, List.getD_eq_getElem?_getD, getElem?_append_cons, Option.getD_some, hzero]
  rw [handleNeighIpAddrAddEvt, if_neg (by simp [hne]), if_pos hname, addNatIface, hj]
  dsimp only
  rw [hslot, if_neg hne.symm]

theorem resetPwrSaveIf_pubIpAddr (ipAddr : UInt32) (app : NatApp δ) :
    (resetPwrSaveIf d ipAddr app).2.pubIpAddr = app.pubIpAddr := by
  rw [resetPwrSaveIf]
  split
  · rfl
  · rfl

theorem resetPwrSaveIf_new (hrule : rule.isFree = false) (ipAddr : UInt32) {app : NatApp δ}
    (h : chkForDup rule app = false) : chkForDup rule (resetPwrSaveIf d ipAddr app).2 = false := by
  rw [chkForDup, List.any_eq_false] at h ⊢
  rw [resetPwrSaveIf]
  split
  · exact h
  · refine sweep_forall (P := fun e => ¬rule.sameTuple e = true) ?_ app.cache
      (app.curCnt, app.driver) h
    intro e s he
    split
    · rw [restoreEntry]
      dsimp only
      split
      · rw [sameTuple_zeroed hrule]
        exact Bool.false_ne_true
      · rw [NatTableEntry.sameTuple_iff] at he ⊢
        exact he
    · exact he

variable (d) in
/-- A connection is parked while WAN is up with address `P`, and later one of its
addresses is registered, with the same `P`. It is cached then exactly when an entry
with the public address `P` is still parked of it. The entry the message parks is
one if neither NAT flag is set and `P` has 16 bits, and is there if it found room
and the events in between spared it. -/
theorem promoted_iff_of_run (cfg : Config) (isStaMode : Bool) (wanIpaddr : UInt32)
    (natInst : NatApp δ) (evs₀ : List CtEvent) (lst₀ : CtListener δ)
    (hrun₀ : Run (fun lst ev lst' => lst' = eventCallback d cfg lst ev)
      (CtListener.init isStaMode wanIpaddr natInst) evs₀ lst₀) (hup : lst₀.wanUp = true)
    (ct : NfConntrack) (type : MsgType) (cnt : Nat) (rule : NatTableEntry)
    (hpark : ctVerdict cfg ct lst₀ = .add rule true)
    (hopened : ctChange ct.replL4proto ct.tcpState type = .opened)
    (evs : List CtEvent) (lst : CtListener δ)
    (hrun : Run (fun lst ev lst' => lst' = eventCallback d cfg lst ev)
      (processTCPorUDPMsg d cfg ct type cnt lst₀) evs lst)
    (hpub : lst.natInst.pubIpAddr = lst₀.wanIpaddr) (addr : UInt32) (name : String)
    (haddr : addr = rule.privateIp ∨ addr = rule.targetIp)
    (hname : cfg.natIfaces.contains name = true) (hfresh : addr ∉ lst.natIfaceIpv4Addr)
    (hroom : 0 ∈ lst.natIfaceIpv4Addr) (hnew : chkForDup rule lst.natInst = false)
    (hacc : AcceptedInTurn d addr rule (resetPwrSaveIf d addr lst.natInst).2) :
    (chkForDup rule (handleNeighIpAddrAddEvt d cfg addr .v4 (some name) lst).natInst = true ↔
      ∃ e ∈ lst.natInst.temp,
        e.tuple = rule.tuple ∧ e.publicIp.toUInt32 = lst₀.wanIpaddr) ∧
    (rule.publicIp.toUInt32 = lst₀.wanIpaddr ↔
      ct.NoNatFlag ∧ lst₀.wanIpaddr.toNat < 65536) ∧
    (rule.invalid = false → TempRoom lst₀.natInst →
      Throughout (eventCallback d cfg) (Spares rule)
        (processTCPorUDPMsg d cfg ct type cnt lst₀) evs →
      rule ∈ lst.natInst.temp) := by
  have hwan := hrun₀.invariant (I := CtListener.WanAddressed) (fun h => Bool.noConfusion h) (by
    rintro lst ev lst' h rfl
    exact eventCallback_wan cfg h ev) hup
  have hrule : rule.isFree = false := by
    apply isFree_of_protocol
    rw [ctVerdict_protocol hpark]
    apply protocol_of_ctChange (x := ct.tcpState) (t := type)
    rw [hopened]
    nofun
  refine ⟨?_, ?_, ?_⟩
  · have hflush := flushTempEntries_caches_iff hrule haddr (resetPwrSaveIf_new hrule addr hnew) hacc
    rw [resetPwrSaveIf_temp, resetPwrSaveIf_pubIpAddr, hpub] at hflush
    rw [handleNeighIpAddrAddEvt_new cfg hname hfresh hroom]
    exact hflush
  · obtain ⟨status, publicIp, hstatus, rfl⟩ := ctVerdict_temp hpark
    rw [ctRule_publicIp]
    exact natStatus_publicIp_iff hwan hstatus
  · intro hvalid htemp hspared
    exact parked_of_run cfg hup cnt hpark hopened hvalid htemp hspared hrun

end

/-- A connection to the WAN address 9 that no flag marks as NATed. -/
def inboundConntrack : NfConntrack where
  status := 0
  origL4proto := IpaNat.ipprotoUdp
  replL4proto := IpaNat.ipprotoUdp
  origIpv4Src := 4
  origIpv4Dst := 9
  origPortSrc := 6
  origPortDst := 7
  replIpv4Src := 0xC0A80102
  replPortSrc := 5
  replPortDst := 6
  tcpState := 0

def inboundRule : NatTableEntry := ctRule .dstNat 9 inboundConntrack

theorem promoted_parkingRun :
    chkForDup inboundRule (handleNeighIpAddrAddEvt ruleMapDriver lanConfig 0xC0A80102 .v4
      (some "wlan0") ([.wanUp 9 false, .ctMessage inboundConntrack .new 0,
        .neighIpAddrAdd 0xC0A80103 .v4 (some "wlan0")].foldl
          (eventCallback ruleMapDriver lanConfig) lanListener)).natInst = true := by
  have hpromoted := promoted_iff_of_run ruleMapDriver lanConfig false 0 smallApp [.wanUp 9 false] _
    (Run.snoc .nil rfl) (by decide) inboundConntrack .new 0 inboundRule (by decide) (by decide)
    [.neighIpAddrAdd 0xC0A80103 .v4 (some "wlan0")] _ (Run.snoc .nil rfl) (by decide)
    0xC0A80102 "wlan0" (Or.inl rfl) (by decide) (by decide) (by decide) (by decide) (by
      intro before e after hsplit htuple _ _
      have hbefore : before = [] := by
        cases before with
        | nil => rfl
        | cons f before =>
            have hrest : List.replicate 24 NatTableEntry.zeroed = before ++ e :: after := by
              exact (List.cons.inj hsplit).2
            have he : e ∈ List.replicate 24 NatTableEntry.zeroed := by
              rw [hrest]
              exact List.mem_append_right before List.mem_cons_self
            rw [List.eq_of_mem_replicate he] at htuple
            exact absurd htuple (by decide)
      subst hbefore
      obtain ⟨rfl, -⟩ := List.cons.inj hsplit
      constructor
      · decide
      · decide
      · decide
      · decide
      · exact ⟨NatTableEntry.zeroed, by decide, rfl⟩
      · exact fun _ => Int.le_refl 0)
  obtain ⟨hiff, hpublic, hstays⟩ := hpromoted
  apply hiff.mpr
  refine ⟨inboundRule, ?_, rfl, hpublic.mpr ⟨⟨by decide, by decide⟩, by decide⟩⟩
  exact hstays (by decide) ⟨NatTableEntry.zeroed, by decide, rfl, rfl⟩
    ⟨⟨by decide, by decide⟩, trivial⟩

/-- A connection with the source NAT flag is parked and dropped. -/
theorem not_promoted_srcNat :
    ∃ lst, Run (fun lst ev lst' => lst' = eventCallback ruleMapDriver lanConfig lst ev)
      lanListener [.wanUp 9 false, .ctMessage lanConntrack .new 0] lst ∧
      lst.natInst.pubIpAddr = 9 ∧ ctRule .srcNat 0 lanConntrack ∈ lst.natInst.temp ∧
      Accepts ruleMapDriver (ctRule .srcNat 0 lanConntrack) lst.natInst ∧
      chkForDup (ctRule .srcNat 0 lanConntrack) lst.natInst = false ∧
      chkForDup (ctRule .srcNat 0 lanConntrack) (handleNeighIpAddrAddEvt ruleMapDriver lanConfig
        0xC0A80102 .v4 (some "wlan0") lst).natInst = false := by
  refine ⟨_, Run.snoc (Run.snoc .nil rfl) rfl, by decide, by decide, ?_, by decide, by decide⟩
  constructor
  · decide
  · decide
  · decide
  · decide
  · exact ⟨NatTableEntry.zeroed, by decide, rfl⟩
  · exact fun _ => Int.le_refl 0

end LibraDevice.Conntrack
