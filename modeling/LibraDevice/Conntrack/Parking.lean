import LibraDevice.Conntrack.Closing

/-!
How long an entry stays among the temporary entries.
-/

namespace LibraDevice.Conntrack

open NatCache StepRun Sweep
open StepWise (Throughout)

section

variable {δ : Type} {d : NatDriver δ} {rule : NatTableEntry}

/-- A slot of the temporary entries that `AddTempEntry` fills. -/
def TempRoom (app : NatApp δ) : Prop := ∃ e ∈ app.temp, e.privateIp = 0 ∧ e.targetIp = 0

/-- Neither a closing message of the rule's connection, nor an address event with
one of its addresses. -/
def Spares (rule : NatTableEntry) (lst : CtListener δ) : CtEvent → Prop
  | .ctMessage ct type _ =>
    ctChange ct.replL4proto ct.tcpState type = .closed → ¬ct.Names rule lst
  | .neighIpAddrAdd ipv4Addr _ _ => ipv4Addr ≠ rule.privateIp ∧ ipv4Addr ≠ rule.targetIp
  | .neighIpAddrDel ipv4Addr => ipv4Addr ≠ rule.privateIp ∧ ipv4Addr ≠ rule.targetIp
  | _ => True

theorem privateIp_ne_zero (hvalid : rule.invalid = false) : rule.privateIp ≠ 0 := by
  intro hzero
  simp [NatTableEntry.invalid, hzero] at hvalid

theorem addEntry_temp (rule : NatTableEntry) (app : NatApp δ) :
    (addEntry d rule app).2.temp = app.temp := by
  rw [addEntry]
  split
  · rfl
  split
  · rfl
  split
  · rfl
  split
  · rfl
  split
  · rfl
  dsimp only
  split
  · rfl
  split
  · rfl
  · rfl

theorem cacheEntry_temp (cnt : Nat) (rule : NatTableEntry) (app : NatApp δ) :
    (cacheEntry cnt rule app).temp = app.temp := by
  rw [cacheEntry]
  split
  · rfl
  split
  · rfl
  split
  · split
    · rfl
    · rfl
  · rfl

theorem addTable_temp (pubIp : UInt32) (app : NatApp δ) :
    (addTable d pubIp app).2.temp = app.temp := by
  rw [addTable]
  dsimp only
  split
  · rfl
  · rfl

theorem deleteTable_temp (pubIp : UInt32) (app : NatApp δ) :
    (deleteTable d pubIp app).2.temp = app.temp := by
  rw [deleteTable]
  split
  · rfl
  split
  · rfl
  dsimp only
  split
  · rfl
  · rfl

theorem resetPwrSaveIf_temp (ipAddr : UInt32) (app : NatApp δ) :
    (resetPwrSaveIf d ipAddr app).2.temp = app.temp := by
  rw [resetPwrSaveIf]
  split
  · rfl
  · rfl

theorem delEntriesOnClntDiscon_temp (ipAddr : UInt32) (app : NatApp δ) :
    (delEntriesOnClntDiscon d ipAddr app).2.temp = app.temp := by
  rw [delEntriesOnClntDiscon]
  split
  · rfl
  · rfl

theorem delEntriesOnSTAClntDiscon_temp (ipAddr : UInt32) (app : NatApp δ) :
    (delEntriesOnSTAClntDiscon d ipAddr app).2.temp = app.temp := by
  rw [delEntriesOnSTAClntDiscon]
  split
  · rfl
  · rfl

theorem mem_addTempEntry {app : NatApp δ} (hroom : TempRoom app) :
    rule ∈ (addTempEntry rule app).temp := by
  rw [addTempEntry]
  split
  case h_1 hnone =>
    obtain ⟨e, he, hprivate, htarget⟩ := hroom
    have hfree := List.findIdx?_eq_none_iff.mp hnone e he
    simp [hprivate, htarget] at hfree
  case h_2 cnt hcnt =>
    obtain ⟨before, e, after, hsplit, rfl, -, -⟩ := split_of_findIdx?_eq_some hcnt
    dsimp only
    rw [hsplit, set_append_cons]
    exact List.mem_append_right before List.mem_cons_self

theorem addTempEntry_keeps (hvalid : rule.invalid = false) {app : NatApp δ}
    (h : rule ∈ app.temp) (newEntry : NatTableEntry) :
    rule ∈ (addTempEntry newEntry app).temp := by
  rw [addTempEntry]
  split
  case h_1 => exact h
  case h_2 cnt hcnt =>
    apply mem_set_of_findIdx? hcnt h
    simp [privateIp_ne_zero hvalid]

theorem deleteTempEntry_keeps {rule' : NatTableEntry} (hne : rule.tuple ≠ rule'.tuple)
    {app : NatApp δ} (h : rule ∈ app.temp) : rule ∈ (deleteTempEntry rule' app).temp := by
  rw [deleteTempEntry]
  split
  case h_1 => exact h
  case h_2 cnt hcnt =>
    apply mem_set_of_findIdx? hcnt h
    rw [Bool.eq_false_iff, Ne, NatTableEntry.sameTuple_iff]
    exact hne

theorem flushTempEntries_keeps {ipAddr : UInt32}
    (haddr : ipAddr ≠ rule.privateIp ∧ ipAddr ≠ rule.targetIp) (isAdd : Bool) {app : NatApp δ}
    (h : rule ∈ app.temp) : rule ∈ (flushTempEntries d ipAddr isAdd app).temp := by
  apply mem_sweep_of_fixed _ h
  intro app'
  rw [flushTempEntry, if_neg]
  rintro (hprivate | htarget)
  · exact haddr.1 hprivate.symm
  · exact haddr.2 htarget.symm

variable {lst : CtListener δ}

theorem addRule_keeps {cfg : Config} {ct : NfConntrack} {rule' : NatTableEntry}
    {isTempEntry : Bool} {type : MsgType} (hvalid : rule.invalid = false)
    (h : rule ∈ lst.natInst.temp)
    (hspares : ctChange ct.replL4proto ct.tcpState type = .closed → ¬ct.Names rule lst)
    (hverdict : ctVerdict cfg ct lst = .add rule' isTempEntry) (cnt : Nat) :
    rule ∈
      (addRule d rule' isTempEntry (ctChange rule'.protocol ct.tcpState type) cnt lst).temp := by
  rw [ctVerdict_protocol hverdict]
  cases hchange : ctChange ct.replL4proto ct.tcpState type with
  | opened =>
      rw [addRule]
      split
      · rw [cacheEntry_temp]
        exact h
      split
      · exact addTempEntry_keeps hvalid h rule'
      · rw [addEntry_temp]
        exact h
  | closed =>
      rw [addRule]
      split
      · apply deleteTempEntry_keeps _ h
        intro htuple
        obtain ⟨⟨status, htrans, hnames⟩, -⟩ := ctVerdict_add hverdict
        exact hspares hchange ⟨status, htrans, hnames.trans htuple.symm⟩
      · rw [deleteEntry_temp]
        exact h
  | other => exact h

theorem cacheNonNatIface_keeps {ipv4Addr : UInt32}
    (haddr : ipv4Addr ≠ rule.privateIp ∧ ipv4Addr ≠ rule.targetIp)
    (h : rule ∈ lst.natInst.temp) : rule ∈ (cacheNonNatIface d ipv4Addr lst).natInst.temp := by
  rw [cacheNonNatIface]
  split
  · exact h
  · exact flushTempEntries_keeps haddr false h

theorem addNatIface_keeps {ipv4Addr : UInt32}
    (haddr : ipv4Addr ≠ rule.privateIp ∧ ipv4Addr ≠ rule.targetIp)
    (h : rule ∈ lst.natInst.temp) : rule ∈ (addNatIface d ipv4Addr lst).natInst.temp := by
  rw [addNatIface]
  split
  · exact cacheNonNatIface_keeps haddr h
  split
  · exact h
  · apply flushTempEntries_keeps haddr
    rw [resetPwrSaveIf_temp]
    exact h

theorem eventCallback_keeps (cfg : Config) (hvalid : rule.invalid = false)
    (h : rule ∈ lst.natInst.temp) {ev : CtEvent} (hspares : Spares rule lst ev) :
    rule ∈ (eventCallback d cfg lst ev).natInst.temp := by
  cases ev with
  | ctMessage ct type cnt =>
      rw [eventCallback, processCTMessage]
      split
      · exact h
      rw [processTCPorUDPMsg]
      split
      case h_1 rule' isTempEntry hverdict => exact addRule_keeps hvalid h hspares hverdict cnt
      case h_2 => exact h
  | neighIpAddrAdd ipv4Addr iptype ifrName =>
      rw [eventCallback, handleNeighIpAddrAddEvt.eq_def]
      split
      · exact h
      split
      · exact h
      split
      · exact addNatIface_keeps hspares h
      · exact cacheNonNatIface_keeps hspares h
  | neighIpAddrDel ipv4Addr =>
      rw [eventCallback, handleNeighIpAddrDelEvt]
      split
      · exact h
      · dsimp only
        rw [delEntriesOnClntDiscon_temp]
        exact flushTempEntries_keeps hspares false h
  | wanUp ipv4Addr isSta =>
      rw [eventCallback, handleWanUp]
      split
      · exact h
      split
      · exact h
      · dsimp only
        rw [addTable_temp]
        exact h
  | wanDown wanAddr =>
      rw [eventCallback, handleWanDown]
      split
      · dsimp only
        rw [deleteTable_temp]
        exact h
      · exact h
  | staClientAdd c =>
      rw [eventCallback, handleSTAClientAddEvt]
      split
      · exact h
      split
      · exact h
      split
      · exact h
      · exact h
  | staClientDel c =>
      rw [eventCallback, handleSTAClientDelEvt]
      split
      · exact h
      · dsimp only
        rw [delEntriesOnSTAClntDiscon_temp]
        exact h

/-- What a message parks while WAN is up is still there after every run of events
that spare it. -/
theorem parked_of_run (cfg : Config) {lst₀ : CtListener δ} (hup : lst₀.wanUp = true)
    {ct : NfConntrack} {type : MsgType} (cnt : Nat)
    (hpark : ctVerdict cfg ct lst₀ = .add rule true)
    (hopened : ctChange ct.replL4proto ct.tcpState type = .opened)
    (hvalid : rule.invalid = false) (hroom : TempRoom lst₀.natInst) {evs : List CtEvent}
    (hspared : Throughout (eventCallback d cfg) (Spares rule)
      (processTCPorUDPMsg d cfg ct type cnt lst₀) evs)
    (hrun : Run (fun lst ev lst' => lst' = eventCallback d cfg lst ev)
      (processTCPorUDPMsg d cfg ct type cnt lst₀) evs lst) :
    rule ∈ lst.natInst.temp := by
  rw [hrun.eq_foldl]
  apply StepWise.invariant (I := fun lst => rule ∈ lst.natInst.temp) _ _ hspared
  · intro lst ev h hspares
    exact eventCallback_keeps cfg hvalid h hspares
  · rw [processTCPorUDPMsg, hpark]
    dsimp only
    rw [ctVerdict_protocol hpark, hopened, addRule, hup]
    exact mem_addTempEntry hroom

end

end LibraDevice.Conntrack
