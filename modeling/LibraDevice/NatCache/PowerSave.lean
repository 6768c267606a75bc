import LibraDevice.NatCache.Slots

/-!
The cache entries of clients in power save: they have no rule in the NAT table
unless a restored table brings them back.
-/

namespace LibraDevice.NatCache

open Sweep StepRun

/-- A client is listed; a zero is an unused element. -/
def Saving (ifs : List UInt32) (ip : UInt32) : Prop := ip ≠ 0 ∧ ip ∈ ifs

/-- No client is listed twice. -/
def ListedOnce (ifs : List UInt32) : Prop := (ifs.filter (· != 0)).Nodup

theorem isPwrSaveIf_iff {δ : Type} {ip : UInt32} {app : NatApp δ} :
    isPwrSaveIf ip app = true ↔ Saving app.pwrSaveIfs ip := by
  rw [isPwrSaveIf, List.any_eq_true, Saving]
  constructor
  · rintro ⟨iface, hmem, hmatch⟩
    simp only [Bool.and_eq_true, bne_iff_ne, beq_iff_eq] at hmatch
    rw [hmatch.2]
    exact ⟨hmatch.1, hmem⟩
  · rintro ⟨hne, hmem⟩
    exact ⟨ip, hmem, by simp [hne]⟩

theorem replaceFirst_cases (old new : UInt32) (ifs : List UInt32) :
    (old ∉ ifs ∧ replaceFirst old new ifs = ifs) ∨
      ∃ before after, ifs = before ++ old :: after ∧ old ∉ before ∧
        replaceFirst old new ifs = before ++ new :: after := by
  rw [replaceFirst]
  split
  case h_1 hnone =>
    refine Or.inl ⟨?_, rfl⟩
    intro hmem
    rw [List.findIdx?_eq_none_iff] at hnone
    have hno := hnone old hmem
    simp at hno
  case h_2 cnt hcnt =>
    obtain ⟨before, a, after, hsplit, rfl, ha, hbefore⟩ := split_of_findIdx?_eq_some hcnt
    have heq : a = old := by simpa using ha
    subst heq
    refine Or.inr ⟨before, after, hsplit, ?_, ?_⟩
    · intro hmem
      have hno := hbefore a hmem
      simp at hno
    · rw [hsplit, set_append_cons]

theorem saving_enter {ifs : List UInt32} {client ip : UInt32}
    (h : Saving (replaceFirst 0 client ifs) ip) : ip = client ∨ Saving ifs ip := by
  obtain ⟨hne, hmem⟩ := h
  rcases replaceFirst_cases 0 client ifs with ⟨-, heq⟩ | ⟨before, after, rfl, -, heq⟩
  · rw [heq] at hmem
    exact Or.inr ⟨hne, hmem⟩
  · rw [heq] at hmem
    simp only [List.mem_append, List.mem_cons] at hmem
    rcases hmem with hmem | rfl | hmem
    · exact Or.inr ⟨hne, by simp [hmem]⟩
    · exact Or.inl rfl
    · exact Or.inr ⟨hne, by simp [hmem]⟩

theorem ListedOnce.enter {ifs : List UInt32} {client : UInt32} (h : ListedOnce ifs)
    (hclient : client ≠ 0) (hnew : client ∉ ifs) :
    ListedOnce (replaceFirst 0 client ifs) := by
  rcases replaceFirst_cases 0 client ifs with ⟨-, heq⟩ | ⟨before, after, rfl, -, heq⟩
  · rw [heq]
    exact h
  · rw [heq]
    rw [ListedOnce, List.filter_append, List.filter_cons_of_neg (by simp)] at h
    rw [ListedOnce, List.filter_append, List.filter_cons_of_pos (by simpa using hclient)]
    apply List.nodup_middle.mpr
    rw [List.nodup_cons]
    refine ⟨?_, h⟩
    intro hmem
    simp only [List.mem_append, List.mem_filter] at hmem
    apply hnew
    rcases hmem with hmem | hmem
    · simp [hmem.1]
    · simp [hmem.1]

theorem saving_leave {ifs : List UInt32} {client ip : UInt32} (hclient : client ≠ 0)
    (h : ListedOnce ifs) (hsaving : Saving (replaceFirst client 0 ifs) ip) :
    ip ≠ client ∧ Saving ifs ip := by
  obtain ⟨hne, hmem⟩ := hsaving
  rcases replaceFirst_cases client 0 ifs with ⟨hno, heq⟩ | ⟨before, after, rfl, -, heq⟩
  · rw [heq] at hmem
    refine ⟨?_, hne, hmem⟩
    rintro rfl
    exact hno hmem
  · rw [heq] at hmem
    rw [ListedOnce, List.filter_append, List.filter_cons_of_pos (by simpa using hclient)] at h
    have hnot := (List.nodup_cons.mp (List.nodup_middle.mp h)).1
    simp only [List.mem_append, List.mem_cons, hne, false_or] at hmem
    refine ⟨?_, hne, ?_⟩
    · rintro rfl
      apply hnot
      simp only [List.mem_append, List.mem_filter, bne_iff_ne, ne_eq, hne, not_false_eq_true,
        and_true]
      exact hmem
    · rcases hmem with hmem | hmem
      · simp [hmem]
      · simp [hmem]

theorem ListedOnce.leave {ifs : List UInt32} {client : UInt32} (hclient : client ≠ 0)
    (h : ListedOnce ifs) : ListedOnce (replaceFirst client 0 ifs) := by
  rcases replaceFirst_cases client 0 ifs with ⟨-, heq⟩ | ⟨before, after, rfl, -, heq⟩
  · rw [heq]
    exact h
  · rw [heq]
    rw [ListedOnce, List.filter_append, List.filter_cons_of_pos (by simpa using hclient)] at h
    rw [ListedOnce, List.filter_append, List.filter_cons_of_neg (by simp)]
    exact (List.nodup_cons.mp (List.nodup_middle.mp h)).2

/-- A saving client's entry is not in the table. -/
def OffWhileSaving (ifs : List UInt32) (e : NatTableEntry) : Prop :=
  Saving ifs e.privateIp → e.enabled = false

theorem OffWhileSaving.of_off {ifs : List UInt32} {e : NatTableEntry} (h : e.enabled = false) :
    OffWhileSaving ifs e := fun _ => h

/-- Every client is listed once, and the listed ones have no rule. -/
structure PwrSaveInv {δ : Type} (app : NatApp δ) : Prop where
  once : ListedOnce app.pwrSaveIfs
  off : ∀ e ∈ app.cache, OffWhileSaving app.pwrSaveIfs e

section

variable {δ : Type}

theorem PwrSaveInv.of_eq {app app' : NatApp δ} (h : PwrSaveInv app)
    (hifs : app'.pwrSaveIfs = app.pwrSaveIfs) (hcache : app'.cache = app.cache) :
    PwrSaveInv app' := by
  constructor
  · rw [hifs]
    exact h.once
  · rw [hifs, hcache]
    exact h.off

theorem PwrSaveInv.of_set {app app' : NatApp δ} {before after : List NatTableEntry}
    {e e' : NatTableEntry} (h : PwrSaveInv app) (hsplit : app.cache = before ++ e :: after)
    (hifs : app'.pwrSaveIfs = app.pwrSaveIfs) (hcache : app'.cache = before ++ e' :: after)
    (he' : OffWhileSaving app.pwrSaveIfs e') : PwrSaveInv app' := by
  constructor
  · rw [hifs]
    exact h.once
  · rw [hifs, hcache]
    exact forall_mem_append_cons (hsplit ▸ h.off) he'

variable {d : NatDriver δ}

theorem addTable_pwrSave (pubIp : UInt32) {app : NatApp δ}
    (hok : pubIp = app.pubIpAddrPre →
      ∀ e ∈ app.cache, ¬Saving app.pwrSaveIfs e.privateIp)
    (h : PwrSaveInv app) : PwrSaveInv (addTable d pubIp app).2 := by
  rw [addTable]
  dsimp only
  split
  · exact h.of_eq rfl rfl
  · split
    case isTrue hpre =>
      refine ⟨h.once, ?_⟩
      refine sweep_forall (P := fun e => ¬Saving app.pwrSaveIfs e.privateIp) ?_ _ _ (hok hpre)
      intro e s he hsaving
      split at hsaving
      case isTrue =>
        rw [restoreEntry] at hsaving
        dsimp only at hsaving
        split at hsaving
        · exact absurd rfl hsaving.1
        · exact absurd hsaving he
      case isFalse => exact absurd hsaving he
    case isFalse => exact h.of_eq rfl rfl

theorem deleteTable_pwrSave (pubIp : UInt32) {app : NatApp δ} (h : PwrSaveInv app) :
    PwrSaveInv (deleteTable d pubIp app).2 := by
  rw [deleteTable]
  split
  · exact h
  split
  · exact h
  dsimp only
  split
  · exact h.of_eq rfl rfl
  · exact h.of_eq rfl rfl

theorem addEntry_pwrSave (rule : NatTableEntry) {app : NatApp δ} (h : PwrSaveInv app) :
    PwrSaveInv (addEntry d rule app).2 := by
  rw [addEntry]
  split
  case isTrue => exact h
  case isFalse =>
  split
  case isTrue => exact h
  case isFalse =>
  split
  case isTrue => exact h
  case isFalse =>
  split
  case isTrue => exact h
  case isFalse =>
  split
  case h_1 => exact h
  case h_2 cnt hcnt =>
    obtain ⟨before, e, after, hsplit, rfl, -, -⟩ := split_of_findIdx?_eq_some hcnt
    have hslot : app.cache.getD before.length NatTableEntry.zeroed = e := by
      rw [hsplit, List.getD_eq_getElem?_getD, getElem?_append_cons, Option.getD_some]
    have hset : ∀ e', app.cache.set before.length e' = before ++ e' :: after := by
      intro e'
      rw [hsplit, set_append_cons]
    dsimp only
    rw [hslot]
    split
    case isTrue => exact h.of_set hsplit rfl (hset _) (.of_off rfl)
    case isFalse hawake =>
      split
      case isTrue => exact h.of_set hsplit rfl (hset _) (h.off e (by simp [hsplit]))
      case isFalse =>
        refine h.of_set hsplit rfl (hset _) ?_
        intro hsaving
        exfalso
        apply hawake
        rw [Bool.or_eq_true]
        exact Or.inl (isPwrSaveIf_iff.mpr hsaving)

theorem cacheEntry_pwrSave (cnt : Nat) (rule : NatTableEntry) {app : NatApp δ}
    (h : PwrSaveInv app) : PwrSaveInv (cacheEntry cnt rule app) := by
  rw [cacheEntry]
  split
  · exact h
  split
  · exact h
  split
  case h_1 =>
    split
    · exact h
    · exact h.of_eq rfl rfl
  case h_2 i hi =>
    obtain ⟨before, e, after, hsplit, hlength, -⟩ := cacheEntry_split hi
    have hset : ∀ e', app.cache.set (cnt + i) e' = before ++ e' :: after := by
      intro e'
      rw [← hlength, hsplit, set_append_cons]
    exact h.of_set hsplit rfl (hset _) (.of_off rfl)

theorem deleteEntry_pwrSave (rule : NatTableEntry) {app : NatApp δ} (h : PwrSaveInv app) :
    PwrSaveInv (deleteEntry d rule app).2 := by
  rw [deleteEntry]
  split
  case h_1 => exact h
  case h_2 cnt hcnt =>
    obtain ⟨before, e, after, hsplit, rfl, -, -⟩ := split_of_findIdx?_eq_some hcnt
    refine h.of_set hsplit rfl ?_ (.of_off (e := NatTableEntry.zeroed) rfl)
    change app.cache.set before.length _ = _
    rw [hsplit, set_append_cons]

/-- The one place that depends on the driver: the rules of a client that goes to
power save must go. -/
theorem updatePwrSaveIf_pwrSave (hdel : ∀ tblHdl hdl s, 0 ≤ (d.delIpv4Rule tblHdl hdl s).1)
    (clientLanIp : UInt32) {app : NatApp δ} (h : PwrSaveInv app) :
    PwrSaveInv (updatePwrSaveIf d clientLanIp app).2 := by
  rw [updatePwrSaveIf]
  split
  case isTrue => exact h
  case isFalse hip =>
  split
  case isTrue => exact h
  case isFalse hnew =>
  rw [List.contains_iff_mem] at hnew
  refine ⟨h.once.enter hip hnew, ?_⟩
  refine sweep_forall (P := OffWhileSaving app.pwrSaveIfs) ?_ _ _ h.off
  intro e s he
  split
  case isTrue hmatch =>
    dsimp only
    rw [if_neg (Int.not_lt.mpr (hdel app.natTableHdl e.ruleHdl s))]
    exact .of_off rfl
  case isFalse hmatch =>
    intro hsaving
    rcases saving_enter hsaving with heq | hold
    · rw [← Bool.not_eq_true]
      exact fun hon => hmatch ⟨heq, hon⟩
    · exact he hold

theorem resetPwrSaveIf_pwrSave (clientLanIp : UInt32) {app : NatApp δ} (h : PwrSaveInv app) :
    PwrSaveInv (resetPwrSaveIf d clientLanIp app).2 := by
  rw [resetPwrSaveIf]
  split
  case isTrue => exact h
  case isFalse hip =>
  refine ⟨h.once.leave hip, ?_⟩
  refine sweep_forall (P := OffWhileSaving app.pwrSaveIfs) ?_ _ _ h.off
  intro e s he
  split
  case isTrue hmatch =>
    rw [restoreEntry]
    dsimp only
    split
    · exact .of_off rfl
    · intro hsaving
      exact absurd hmatch.1 (saving_leave hip h.once hsaving).1
  case isFalse =>
    intro hsaving
    exact he (saving_leave hip h.once hsaving).2

theorem delEntriesOnClntDiscon_pwrSave (ipAddr : UInt32) {app : NatApp δ} (h : PwrSaveInv app) :
    PwrSaveInv (delEntriesOnClntDiscon d ipAddr app).2 := by
  rw [delEntriesOnClntDiscon]
  split
  case isTrue => exact h
  case isFalse hip =>
  refine ⟨h.once.leave hip, ?_⟩
  refine sweep_forall (P := OffWhileSaving app.pwrSaveIfs) ?_ _ _ h.off
  intro e s he
  have hkeep : OffWhileSaving (replaceFirst ipAddr 0 app.pwrSaveIfs) e :=
    fun hsaving => he (saving_leave hip h.once hsaving).2
  split
  · dsimp only
    split
    · exact hkeep
    · exact .of_off rfl
  · exact hkeep

theorem delEntriesOnSTAClntDiscon_pwrSave (ipAddr : UInt32) {app : NatApp δ}
    (h : PwrSaveInv app) : PwrSaveInv (delEntriesOnSTAClntDiscon d ipAddr app).2 := by
  rw [delEntriesOnSTAClntDiscon]
  split
  · exact h
  refine ⟨h.once, ?_⟩
  refine sweep_forall (P := OffWhileSaving app.pwrSaveIfs) ?_ _ _ h.off
  intro e s he
  split
  · split
    · dsimp only
      split
      · exact he
      · exact .of_off rfl
    · exact .of_off rfl
  · exact he

theorem addTempEntry_pwrSave (newEntry : NatTableEntry) {app : NatApp δ} (h : PwrSaveInv app) :
    PwrSaveInv (addTempEntry newEntry app) := by
  rw [addTempEntry]
  split
  · exact h
  · exact h.of_eq rfl rfl

theorem flushTempEntries_pwrSave (ipAddr : UInt32) (isAdd : Bool) {app : NatApp δ}
    (h : PwrSaveInv app) : PwrSaveInv (flushTempEntries d ipAddr isAdd app) :=
  flushTempEntries_rule (fun rule _ h => addEntry_pwrSave rule h)
    (fun _ _ h => h.of_eq rfl rfl) ipAddr isAdd h

/-- Where an operation installs no rule of a saving client: a table for the last
public address is made only while no such client has a cached entry. -/
def restoresAwake (app : NatApp δ) : NatOp → Prop
  | .addTable pubIp =>
      pubIp = app.pubIpAddrPre → ∀ e ∈ app.cache, isPwrSaveIf e.privateIp app = false
  | _ => True

theorem natStep_pwrSave (hdel : ∀ tblHdl hdl s, 0 ≤ (d.delIpv4Rule tblHdl hdl s).1) (op : NatOp)
    {app : NatApp δ} (hok : restoresAwake app op) (h : PwrSaveInv app) :
    PwrSaveInv (natStep d app op) := by
  cases op with
  | addTable pubIp =>
      refine addTable_pwrSave pubIp ?_ h
      intro hpre e he hsaving
      have hawake := hok hpre e he
      rw [isPwrSaveIf_iff.mpr hsaving] at hawake
      cases hawake
  | deleteTable pubIp => exact deleteTable_pwrSave pubIp h
  | addEntry rule => exact addEntry_pwrSave rule h
  | cacheEntry cnt rule => exact cacheEntry_pwrSave cnt rule h
  | deleteEntry rule => exact deleteEntry_pwrSave rule h
  | updatePwrSaveIf clientLanIp => exact updatePwrSaveIf_pwrSave hdel clientLanIp h
  | resetPwrSaveIf clientLanIp => exact resetPwrSaveIf_pwrSave clientLanIp h
  | delEntriesOnClntDiscon ipAddr => exact delEntriesOnClntDiscon_pwrSave ipAddr h
  | delEntriesOnSTAClntDiscon ipAddr => exact delEntriesOnSTAClntDiscon_pwrSave ipAddr h
  | addTempEntry newEntry => exact addTempEntry_pwrSave newEntry h
  | flushTempEntries ipAddr isAdd => exact flushTempEntries_pwrSave ipAddr isAdd h

theorem pwrSaveInv_init (maxEntries : Nat) (algPorts : List (UInt8 × UInt16)) (drv : δ) :
    PwrSaveInv (NatApp.init maxEntries algPorts drv) := by
  constructor
  · have hnil : (NatApp.init maxEntries algPorts drv).pwrSaveIfs.filter (· != 0) = [] := by
      apply List.filter_eq_nil_iff.mpr
      intro a ha
      rw [List.eq_of_mem_replicate ha]
      decide
    rw [ListedOnce, hnil]
    exact List.nodup_nil
  · intro e he
    rw [List.eq_of_mem_replicate he]
    exact .of_off rfl

/-- No entry of a client in power save is enabled while there is a table. -/
def NoSavedRule (app : NatApp δ) : Prop :=
  app.natTableHdl ≠ 0 → ∀ e ∈ app.cache, isPwrSaveIf e.privateIp app = true → e.enabled = false

/-- In every run in which deletions succeed and no table is restored over the
entries of a client in power save. -/
theorem noSavedRule_of_run (hdel : ∀ tblHdl hdl s, 0 ≤ (d.delIpv4Rule tblHdl hdl s).1)
    (maxEntries : Nat) (algPorts : List (UInt8 × UInt16)) (drv : δ) (ops : List NatOp)
    (app : NatApp δ)
    (hrun : Run (Guarded restoresAwake fun app op app' => app' = natStep d app op)
      (NatApp.init maxEntries algPorts drv) ops app) : NoSavedRule app := by
  have hinv := hrun.invariant (I := PwrSaveInv) (pwrSaveInv_init maxEntries algPorts drv) (by
    rintro app op app' h ⟨hok, rfl⟩
    exact natStep_pwrSave hdel op hok h)
  exact fun _ e he hsaving => hinv.off e he (isPwrSaveIf_iff.mp hsaving)

end

theorem noSavedRule_smallRun : NoSavedRule (smallRun.foldl (natStep ruleMapDriver) smallApp) := by
  apply noSavedRule_of_run (d := ruleMapDriver) (fun _ _ _ => Int.le_refl 0) 4 [] [] smallRun
  refine Run.snoc (Run.snoc (Run.snoc (Run.snoc (Run.snoc (Run.snoc .nil
    ⟨?_, rfl⟩) ⟨?_, rfl⟩) ⟨?_, rfl⟩) ⟨?_, rfl⟩) ⟨?_, rfl⟩) ⟨?_, rfl⟩
  · trivial
  · intro _
    decide
  · trivial
  · trivial
  · trivial
  · trivial

/-- The table is restored while the client of a cached entry saves power. -/
theorem not_noSavedRule_restored :
    ∃ app, Run (fun app op app' => app' = natStep ruleMapDriver app op) smallApp
      [.addTable 9, .addEntry entryA, .deleteTable 9, .updatePwrSaveIf 2, .addTable 9] app ∧
      ¬ NoSavedRule app := by
  refine ⟨_, Run.snoc (Run.snoc (Run.snoc (Run.snoc (Run.snoc .nil rfl) rfl) rfl) rfl) rfl, ?_⟩
  intro h
  have hoff := h (by decide)
  exact absurd hoff (by decide)

end LibraDevice.NatCache
