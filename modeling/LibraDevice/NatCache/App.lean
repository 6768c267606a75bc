import LibraDevice.Lib.SlotTable
import LibraDevice.IpaNat.Table

/-!
`NatApp`, the NAT cache of the configuration manager. The calls into `libipanat`
are those of a driver the cache is given.
-/

namespace LibraDevice.NatCache

open Sweep IpaNat

def maxTempEntries : Nat := 25
def ipaMaxNumWifiClients : Nat := 32

/-- `nat_table_entry`; the public address has only 16 bits. -/
structure NatTableEntry where
  privateIp : UInt32
  privatePort : UInt16
  targetIp : UInt32
  targetPort : UInt16
  publicIp : UInt16
  publicPort : UInt16
  protocol : UInt8
  timestamp : UInt32
  dstNat : Bool
  enabled : Bool
  ruleHdl : Nat
deriving DecidableEq, Repr

/-- An entry after `memset(.., 0, ..)`. -/
def NatTableEntry.zeroed : NatTableEntry where
  privateIp := 0
  privatePort := 0
  targetIp := 0
  targetPort := 0
  publicIp := 0
  publicPort := 0
  protocol := 0
  timestamp := 0
  dstNat := false
  enabled := false
  ruleHdl := 0

/-- The rule an entry is installed as. -/
def NatTableEntry.natRule (e : NatTableEntry) : Ipv4Rule where
  targetIp := e.targetIp
  privateIp := e.privateIp
  targetPort := e.targetPort
  privatePort := e.privatePort
  publicPort := e.publicPort
  protocol := e.protocol

/-- The comparison of `ChkForDup`, `DeleteEntry` and `DeleteTempEntry`. -/
def NatTableEntry.sameTuple (rule e : NatTableEntry) : Bool :=
  e.privateIp == rule.privateIp && e.targetIp == rule.targetIp &&
    e.privatePort == rule.privatePort && e.targetPort == rule.targetPort &&
    e.protocol == rule.protocol

/-- The test for an unused cache slot. -/
def NatTableEntry.isFree (e : NatTableEntry) : Bool :=
  e.privateIp == 0 && e.targetIp == 0 && e.privatePort == 0 && e.targetPort == 0 &&
    e.protocol == 0

/-- "Invalid Connection, ignoring it". -/
def NatTableEntry.invalid (rule : NatTableEntry) : Bool :=
  rule.privateIp == 0 || rule.targetIp == 0 || rule.privatePort == 0 || rule.targetPort == 0 ||
    rule.protocol == 0

/-- The fields a slot takes over from a new rule. -/
def NatTableEntry.fill (slot rule : NatTableEntry) : NatTableEntry :=
  { slot with
    privateIp := rule.privateIp
    targetIp := rule.targetIp
    targetPort := rule.targetPort
    privatePort := rule.privatePort
    protocol := rule.protocol
    timestamp := 0
    publicPort := rule.publicPort
    dstNat := rule.dstNat }

@[simp] theorem NatTableEntry.fill_privateIp (slot rule : NatTableEntry) :
    (slot.fill rule).privateIp = rule.privateIp := rfl

@[simp] theorem NatTableEntry.fill_enabled (slot rule : NatTableEntry) :
    (slot.fill rule).enabled = slot.enabled := rfl

@[simp] theorem NatTableEntry.fill_ruleHdl (slot rule : NatTableEntry) :
    (slot.fill rule).ruleHdl = slot.ruleHdl := rfl

@[simp] theorem NatTableEntry.fill_natRule (slot rule : NatTableEntry) :
    (slot.fill rule).natRule = rule.natRule := rfl

/-- The calls of `libipanat` on a driver state: return code, out parameter and
new state. `addIpv4Rule` is given the old contents of its out parameter. -/
structure NatDriver (δ : Type) where
  addIpv4Tbl : UInt32 → Nat → δ → Int × UInt32 × δ
  delIpv4Tbl : UInt32 → δ → Int × δ
  addIpv4Rule : UInt32 → Ipv4Rule → Nat → δ → Int × Nat × δ
  delIpv4Rule : UInt32 → Nat → δ → Int × δ

/-- The members of `NatApp`; `max_entries` is the length of `cache`. -/
structure NatApp (δ : Type) where
  cache : List NatTableEntry
  temp : List NatTableEntry
  pubIpAddr : UInt32
  pubIpAddrPre : UInt32
  natTableHdl : UInt32
  curCnt : Int
  algPorts : List (UInt8 × UInt16)
  pwrSaveIfs : List UInt32
  driver : δ

/-- After `Init`; `pub_ip_addr_pre` and `PwrSaveIfs` start at zero. -/
def NatApp.init {δ : Type} (maxEntries : Nat) (algPorts : List (UInt8 × UInt16)) (driver : δ) :
    NatApp δ where
  cache := List.replicate maxEntries NatTableEntry.zeroed
  temp := List.replicate maxTempEntries NatTableEntry.zeroed
  pubIpAddr := 0
  pubIpAddrPre := 0
  natTableHdl := 0
  curCnt := 0
  algPorts := algPorts
  pwrSaveIfs := List.replicate ipaMaxNumWifiClients 0
  driver := driver

section

variable {δ : Type} (d : NatDriver δ)

/-- Adding back one cached entry, in `AddTable` and `ResetPwrSaveIf`: a rule the
driver refuses leaves the cache. -/
def restoreEntry (tblHdl : UInt32) (e : NatTableEntry) (s : Int × δ) : NatTableEntry × Int × δ :=
  match d.addIpv4Rule tblHdl e.natRule e.ruleHdl s.2 with
  | (ret, ruleHdl, drv) =>
    if ret < 0 then (NatTableEntry.zeroed, s.1 - 1, drv)
    else ({ e with ruleHdl := ruleHdl, enabled := true }, s.1, drv)

/-- `NatApp::AddTable`. -/
def addTable (pubIp : UInt32) (app : NatApp δ) : Int × NatApp δ :=
  match d.addIpv4Tbl pubIp app.cache.length app.driver with
  | (ret, tblHdl, drv) =>
    if ret ≠ 0 then (ret, { app with natTableHdl := tblHdl, driver := drv })
    else
      let restored :=
        if pubIp = app.pubIpAddrPre then
          sweep (fun e s => if e.privateIp ≠ 0 then restoreEntry d tblHdl e s else (e, s))
            app.cache (app.curCnt, drv)
        else (app.cache, app.curCnt, drv)
      (0, { app with
        cache := restored.1
        curCnt := restored.2.1
        driver := restored.2.2
        natTableHdl := tblHdl
        pubIpAddr := pubIp })

/-- `NatApp::Reset`. The statement on `enabled` is a comparison, which has no
effect. -/
def reset (app : NatApp δ) : NatApp δ := { app with natTableHdl := 0, pubIpAddr := 0 }

/-- `NatApp::DeleteTable`. -/
def deleteTable (pubIp : UInt32) (app : NatApp δ) : Int × NatApp δ :=
  if app.natTableHdl = 0 then (-1, app)
  else if app.pubIpAddr ≠ pubIp then (-1, app)
  else
    match d.delIpv4Tbl app.natTableHdl app.driver with
    | (ret, drv) =>
      if ret ≠ 0 then (ret, { app with driver := drv })
      else (0, reset { app with driver := drv, pubIpAddrPre := app.pubIpAddr })

/-- `NatApp::ChkForDup`. -/
def chkForDup (rule : NatTableEntry) (app : NatApp δ) : Bool :=
  app.cache.any rule.sameTuple

/-- `NatApp::isAlgPort`. -/
def isAlgPort (proto : UInt8) (port : UInt16) (app : NatApp δ) : Bool :=
  app.algPorts.any fun alg => proto == alg.1 && port == alg.2

/-- `NatApp::isPwrSaveIf`. -/
def isPwrSaveIf (ipAddr : UInt32) (app : NatApp δ) : Bool :=
  app.pwrSaveIfs.any fun iface => iface != 0 && ipAddr == iface

/-- `NatApp::DeleteEntry`; a failing deletion is only logged. -/
def deleteEntry (rule : NatTableEntry) (app : NatApp δ) : Int × NatApp δ :=
  match app.cache.findIdx? rule.sameTuple with
  | none => (0, app)
  | some cnt =>
    let e := app.cache.getD cnt NatTableEntry.zeroed
    let drv :=
      if e.enabled then (d.delIpv4Rule app.natTableHdl e.ruleHdl app.driver).2 else app.driver
    (0, { app with
      cache := app.cache.set cnt NatTableEntry.zeroed
      curCnt := app.curCnt - 1
      driver := drv })

/-- `NatApp::AddEntry`. -/
def addEntry (rule : NatTableEntry) (app : NatApp δ) : Int × NatApp δ :=
  if app.natTableHdl = 0 then (-1, app)
  else if isAlgPort rule.protocol rule.privatePort app ||
      isAlgPort rule.protocol rule.targetPort app then (-1, app)
  else if rule.invalid then (0, app)
  else if chkForDup rule app then (-1, app)
  else
    match app.cache.findIdx? NatTableEntry.isFree with
    | none => (-1, app)
    | some cnt =>
      let slot := app.cache.getD cnt NatTableEntry.zeroed
      if isPwrSaveIf rule.privateIp app || isPwrSaveIf rule.targetIp app then
        (0, { app with
          cache := app.cache.set cnt ({ slot with enabled := false, ruleHdl := 0 }.fill rule)
          curCnt := app.curCnt + 1 })
      else
        match d.addIpv4Rule app.natTableHdl rule.natRule slot.ruleHdl app.driver with
        | (ret, ruleHdl, drv) =>
          if ret < 0 then
            (-1, { app with
              cache := app.cache.set cnt { slot with ruleHdl := ruleHdl }
              driver := drv })
          else
            (0, { app with
              cache := app.cache.set cnt
                ({ slot with ruleHdl := ruleHdl, enabled := true }.fill rule)
              curCnt := app.curCnt + 1
              driver := drv })

/-- The first element of `PwrSaveIfs` that equals `old` becomes `new`. -/
def replaceFirst (old new : UInt32) (ifs : List UInt32) : List UInt32 :=
  match ifs.findIdx? (· == old) with
  | none => ifs
  | some cnt => ifs.set cnt new

/-- `NatApp::UpdatePwrSaveIf`. -/
def updatePwrSaveIf (clientLanIp : UInt32) (app : NatApp δ) : Int × NatApp δ :=
  if clientLanIp = 0 then (-1, app)
  else if app.pwrSaveIfs.contains clientLanIp then (0, app)
  else
    let swept := sweep
      (fun e drv =>
        if e.privateIp = clientLanIp ∧ e.enabled = true then
          match d.delIpv4Rule app.natTableHdl e.ruleHdl drv with
          | (ret, drv) =>
            if ret < 0 then (e, drv) else ({ e with enabled := false, ruleHdl := 0 }, drv)
        else (e, drv))
      app.cache app.driver
    (0, { app with
      pwrSaveIfs := replaceFirst 0 clientLanIp app.pwrSaveIfs
      cache := swept.1
      driver := swept.2 })

/-- `NatApp::ResetPwrSaveIf`, which always returns `-1`. -/
def resetPwrSaveIf (clientLanIp : UInt32) (app : NatApp δ) : Int × NatApp δ :=
  if clientLanIp = 0 then (-1, app)
  else
    let swept := sweep
      (fun e s =>
        if e.privateIp = clientLanIp ∧ e.enabled = false then restoreEntry d app.natTableHdl e s
        else (e, s))
      app.cache (app.curCnt, app.driver)
    (-1, { app with
      pwrSaveIfs := replaceFirst clientLanIp 0 app.pwrSaveIfs
      cache := swept.1
      curCnt := swept.2.1
      driver := swept.2.2 })

/-- `NatApp::AddTempEntry`. -/
def addTempEntry (newEntry : NatTableEntry) (app : NatApp δ) : NatApp δ :=
  match app.temp.findIdx? fun e => e.privateIp == 0 && e.targetIp == 0 with
  | none => app
  | some cnt => { app with temp := app.temp.set cnt newEntry }

/-- `NatApp::DeleteTempEntry`. -/
def deleteTempEntry (entry : NatTableEntry) (app : NatApp δ) : NatApp δ :=
  match app.temp.findIdx? entry.sameTuple with
  | none => app
  | some cnt => { app with temp := app.temp.set cnt NatTableEntry.zeroed }

/-- One turn of the loop of `NatApp::FlushTempEntries`; the comparison widens
the 16 bit `public_ip`. -/
def flushTempEntry (ipAddr : UInt32) (isAdd : Bool) (e : NatTableEntry) (app : NatApp δ) :
    NatTableEntry × NatApp δ :=
  if e.privateIp = ipAddr ∨ e.targetIp = ipAddr then
    if isAdd ∧ e.publicIp.toUInt32 = app.pubIpAddr then
      match addEntry d e app with
      | (ret, app) => if ret ≠ 0 then (e, app) else (NatTableEntry.zeroed, app)
    else (NatTableEntry.zeroed, app)
  else (e, app)

/-- `NatApp::FlushTempEntries`. -/
def flushTempEntries (ipAddr : UInt32) (isAdd : Bool) (app : NatApp δ) : NatApp δ :=
  let swept := sweep (flushTempEntry d ipAddr isAdd) app.temp app
  { swept.2 with temp := swept.1 }

/-- `NatApp::DelEntriesOnClntDiscon`: the entries stay cached. -/
def delEntriesOnClntDiscon (ipAddr : UInt32) (app : NatApp δ) : Int × NatApp δ :=
  if ipAddr = 0 then (-1, app)
  else
    let swept := sweep
      (fun e drv =>
        if e.privateIp = ipAddr ∧ e.enabled = true then
          match d.delIpv4Rule app.natTableHdl e.ruleHdl drv with
          | (ret, drv) => if ret < 0 then (e, drv) else ({ e with enabled := false }, drv)
        else (e, drv))
      app.cache app.driver
    (0, { app with
      pwrSaveIfs := replaceFirst ipAddr 0 app.pwrSaveIfs
      cache := swept.1
      driver := swept.2 })

/-- `NatApp::DelEntriesOnSTAClntDiscon`. -/
def delEntriesOnSTAClntDiscon (ipAddr : UInt32) (app : NatApp δ) : Int × NatApp δ :=
  if ipAddr = 0 then (-1, app)
  else
    let swept := sweep
      (fun e (s : Int × δ) =>
        if e.targetIp = ipAddr then
          if e.enabled then
            match d.delIpv4Rule app.natTableHdl e.ruleHdl s.2 with
            | (ret, drv) =>
              if ret < 0 then (e, s.1, drv) else (NatTableEntry.zeroed, s.1 - 1, drv)
          else (NatTableEntry.zeroed, s.1 - 1, s.2)
        else (e, s))
      app.cache (app.curCnt, app.driver)
    (0, { app with
      cache := swept.1
      curCnt := swept.2.1
      driver := swept.2.2 })

/-- `NatApp::CacheEntry`. The search starts at the value `cnt` an uninitialised
variable happens to have; past the end the entry is written outside the cache. -/
def cacheEntry (cnt : Nat) (rule : NatTableEntry) (app : NatApp δ) : NatApp δ :=
  if rule.invalid then app
  else if chkForDup rule app then app
  else
    match (app.cache.drop cnt).findIdx? NatTableEntry.isFree with
    | none => if cnt ≤ app.cache.length then app else { app with curCnt := app.curCnt + 1 }
    | some i =>
      let slot := app.cache.getD (cnt + i) NatTableEntry.zeroed
      { app with
        cache := app.cache.set (cnt + i) ({ slot with enabled := false, ruleHdl := 0 }.fill rule)
        curCnt := app.curCnt + 1 }

/-- The operations of `NatApp` that touch the cache, the temporary entries or
the NAT table. -/
inductive NatOp where
  | addTable (pubIp : UInt32)
  | deleteTable (pubIp : UInt32)
  | addEntry (rule : NatTableEntry)
  | cacheEntry (cnt : Nat) (rule : NatTableEntry)
  | deleteEntry (rule : NatTableEntry)
  | updatePwrSaveIf (clientLanIp : UInt32)
  | resetPwrSaveIf (clientLanIp : UInt32)
  | delEntriesOnClntDiscon (ipAddr : UInt32)
  | delEntriesOnSTAClntDiscon (ipAddr : UInt32)
  | addTempEntry (newEntry : NatTableEntry)
  | flushTempEntries (ipAddr : UInt32) (isAdd : Bool)

/-- The state an operation leaves. -/
def natStep (app : NatApp δ) : NatOp → NatApp δ
  | .addTable pubIp => (addTable d pubIp app).2
  | .deleteTable pubIp => (deleteTable d pubIp app).2
  | .addEntry rule => (addEntry d rule app).2
  | .cacheEntry cnt rule => cacheEntry cnt rule app
  | .deleteEntry rule => (deleteEntry d rule app).2
  | .updatePwrSaveIf clientLanIp => (updatePwrSaveIf d clientLanIp app).2
  | .resetPwrSaveIf clientLanIp => (resetPwrSaveIf d clientLanIp app).2
  | .delEntriesOnClntDiscon ipAddr => (delEntriesOnClntDiscon d ipAddr app).2
  | .delEntriesOnSTAClntDiscon ipAddr => (delEntriesOnSTAClntDiscon d ipAddr app).2
  | .addTempEntry newEntry => addTempEntry newEntry app
  | .flushTempEntries ipAddr isAdd => flushTempEntries d ipAddr isAdd app

end

end LibraDevice.NatCache
