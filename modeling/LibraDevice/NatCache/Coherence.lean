import LibraDevice.Lib.Ledger
import LibraDevice.Lib.StepRun
import LibraDevice.NatCache.App

/-!
The enabled cache entries and the rules of the IPA NAT table, over a driver
that is a map from handles to rules.
-/

namespace LibraDevice.NatCache

open IpaNat Ledger StepRun Sweep

/-- What a cache entry has in the NAT table: its rule under its handle. -/
def NatTableEntry.installed (e : NatTableEntry) : Option (Nat × Ipv4Rule) :=
  if e.enabled then some (e.ruleHdl, e.natRule) else none

theorem NatTableEntry.installed_eq_none_iff {e : NatTableEntry} :
    e.installed = none ↔ e.enabled = false := by
  simp [NatTableEntry.installed]

theorem NatTableEntry.installed_of_enabled {e : NatTableEntry} (h : e.enabled = true) :
    e.installed = some (e.ruleHdl, e.natRule) :=
  if_pos h

theorem NatTableEntry.installed_of_disabled {e : NatTableEntry} (h : e.enabled = false) :
    e.installed = none :=
  NatTableEntry.installed_eq_none_iff.mpr h

@[simp] theorem NatTableEntry.installed_zeroed : NatTableEntry.zeroed.installed = none := rfl

/-- The rules the enabled entries have in the table. -/
def installedRules (cache : List NatTableEntry) : List (Nat × Ipv4Rule) :=
  cache.filterMap NatTableEntry.installed

theorem installedRules_append_cons (before after : List NatTableEntry) (e : NatTableEntry) :
    installedRules (before ++ e :: after) =
      installedRules before ++ (e.installed.toList ++ installedRules after) := by
  rw [installedRules, List.filterMap_append, List.filterMap_cons]
  cases e.installed <;> rfl

section

variable {δ : Type}

/-- A driver whose calls never fail and whose state is a map from handles to
rules. -/
structure RuleMap (d : NatDriver δ) (rules : δ → Nat → Option Ipv4Rule) : Prop where
  addIpv4Tbl : ∀ pubIp entries s,
    (d.addIpv4Tbl pubIp entries s).1 = 0 ∧ (d.addIpv4Tbl pubIp entries s).2.1 ≠ 0 ∧
      ∀ hdl, rules (d.addIpv4Tbl pubIp entries s).2.2 hdl = none
  delIpv4Tbl : ∀ tblHdl s,
    (d.delIpv4Tbl tblHdl s).1 = 0 ∧ ∀ hdl, rules (d.delIpv4Tbl tblHdl s).2 hdl = none
  addIpv4Rule : ∀ tblHdl rule old s,
    0 ≤ (d.addIpv4Rule tblHdl rule old s).1 ∧
      rules s (d.addIpv4Rule tblHdl rule old s).2.1 = none ∧
      rules (d.addIpv4Rule tblHdl rule old s).2.2 =
        Function.update (rules s) (d.addIpv4Rule tblHdl rule old s).2.1 (some rule)
  delIpv4Rule : ∀ tblHdl hdl s,
    0 ≤ (d.delIpv4Rule tblHdl hdl s).1 ∧
      rules (d.delIpv4Rule tblHdl hdl s).2 = Function.update (rules s) hdl none

/-- The cache and the NAT table agree. -/
structure Coherent (rules : δ → Nat → Option Ipv4Rule) (app : NatApp δ) : Prop where
  table : app.natTableHdl ≠ 0 → Accounted (rules app.driver) (installedRules app.cache)
  noTable : app.natTableHdl = 0 → ∀ e ∈ app.cache, e.enabled = false

/-- What one loop body or one operation may do to an entry. -/
inductive CellMove (rules : δ → Nat → Option Ipv4Rule) (e e' : NatTableEntry) (s s' : δ) : Prop
  | keep : e'.installed = e.installed → rules s' = rules s → CellMove rules e e' s s'
  | release (hdl : Nat) (rule : Ipv4Rule) :
      e.installed = some (hdl, rule) → e'.installed = none →
      rules s' = Function.update (rules s) hdl none → CellMove rules e e' s s'
  | acquire (hdl : Nat) (rule : Ipv4Rule) :
      e.installed = none → e'.installed = some (hdl, rule) → rules s hdl = none →
      rules s' = Function.update (rules s) hdl (some rule) → CellMove rules e e' s s'

variable {rules : δ → Nat → Option Ipv4Rule}

theorem CellMove.accounted {e e' : NatTableEntry} {s s' : δ} {before after : List NatTableEntry}
    (hmove : CellMove rules e e' s s')
    (h : Accounted (rules s) (installedRules (before ++ e :: after))) :
    Accounted (rules s') (installedRules (before ++ e' :: after)) := by
  rw [installedRules_append_cons] at h ⊢
  cases hmove with
  | keep he hs =>
      rw [he, hs]
      exact h
  | release hdl rule he he' hs =>
      rw [he', hs]
      rw [he] at h
      exact h.release
  | acquire hdl rule he he' hfree hs =>
      rw [he', hs]
      rw [he] at h
      exact h.acquire hfree

/-- An entry without a private address is not in the table. -/
def NatTableEntry.VacantDisabled (e : NatTableEntry) : Prop :=
  e.privateIp = 0 → e.enabled = false

theorem forall_mem_append_cons {P : NatTableEntry → Prop} {before after : List NatTableEntry}
    {e e' : NatTableEntry} (h : ∀ f ∈ before ++ e :: after, P f) (he' : P e') :
    ∀ f ∈ before ++ e' :: after, P f := by
  intro f hf
  rcases List.mem_append.mp hf with hf | hf
  · exact h f (List.mem_append_left _ hf)
  · rcases List.mem_cons.mp hf with rfl | hf
    · exact he'
    · exact h f (List.mem_append_right _ (List.mem_cons_of_mem _ hf))

theorem sweep_accounted {σ : Type} (drv : σ → δ) {body : NatTableEntry → σ → NatTableEntry × σ}
    (hmove : ∀ e s, CellMove rules e (body e s).1 (drv s) (drv (body e s).2))
    (cache : List NatTableEntry) (s : σ)
    (h : Accounted (rules (drv s)) (installedRules cache)) :
    Accounted (rules (drv (sweep body cache s).2)) (installedRules (sweep body cache s).1) := by
  let I := fun (done todo : List NatTableEntry) (s : σ) =>
    Accounted (rules (drv s)) (installedRules (done ++ todo))
  have hbody : ∀ done e todo s, I done (e :: todo) s →
      I (done ++ [(body e s).1]) todo (body e s).2 := by
    intro done e todo s hs
    change Accounted _ (installedRules (done ++ [(body e s).1] ++ todo))
    rw [List.append_assoc]
    exact (hmove e s).accounted hs
  have hloop := sweep_invariant hbody cache [] s h
  simpa [I] using hloop

theorem sweep_refills {σ : Type} (drv : σ → δ) {body : NatTableEntry → σ → NatTableEntry × σ}
    {P : NatTableEntry → Prop}
    (hmove : ∀ e s, P e → CellMove rules NatTableEntry.zeroed (body e s).1 (drv s)
      (drv (body e s).2))
    (cache : List NatTableEntry) (s : σ) (hP : ∀ e ∈ cache, P e)
    (hempty : ∀ hdl, rules (drv s) hdl = none) :
    Accounted (rules (drv (sweep body cache s).2)) (installedRules (sweep body cache s).1) := by
  let I := fun (done todo : List NatTableEntry) (s : σ) =>
    (∀ e ∈ todo, P e) ∧ Accounted (rules (drv s)) (installedRules done)
  have hbody : ∀ done e todo s, I done (e :: todo) s →
      I (done ++ [(body e s).1]) todo (body e s).2 := by
    rintro done e todo s ⟨hP, hs⟩
    constructor
    · intro f hf
      exact hP f (List.mem_cons_of_mem e hf)
    · have hzeroed : Accounted (rules (drv s))
          (installedRules (done ++ NatTableEntry.zeroed :: [])) := by
        rw [installedRules_append_cons]
        simpa [installedRules] using hs
      exact (hmove e s (hP e List.mem_cons_self)).accounted hzeroed
  have hloop := sweep_invariant hbody cache [] s ⟨hP, Accounted.nil_iff.mpr hempty⟩
  exact hloop.2

variable {d : NatDriver δ}

theorem delIpv4Rule_move (hd : RuleMap d rules) (tblHdl : UInt32) {e e' : NatTableEntry} (s : δ)
    (he : e.enabled = true) (he' : e'.enabled = false) :
    CellMove rules e e' s (d.delIpv4Rule tblHdl e.ruleHdl s).2 := by
  apply CellMove.release e.ruleHdl e.natRule
  · exact e.installed_of_enabled he
  · exact e'.installed_of_disabled he'
  · exact (hd.delIpv4Rule tblHdl e.ruleHdl s).2

theorem addIpv4Rule_move (hd : RuleMap d rules) (tblHdl : UInt32) {e e' : NatTableEntry} (s : δ)
    (old : Nat) (he : e.enabled = false) (he' : e'.enabled = true)
    (hhdl : e'.ruleHdl = (d.addIpv4Rule tblHdl e'.natRule old s).2.1) :
    CellMove rules e e' s (d.addIpv4Rule tblHdl e'.natRule old s).2.2 := by
  have hadd := hd.addIpv4Rule tblHdl e'.natRule old s
  rw [← hhdl] at hadd
  apply CellMove.acquire e'.ruleHdl e'.natRule
  · exact e.installed_of_disabled he
  · exact e'.installed_of_enabled he'
  · exact hadd.2.1
  · exact hadd.2.2

theorem CellMove.keep_disabled {e e' : NatTableEntry} (s : δ) (he : e.enabled = false)
    (he' : e'.enabled = false) : CellMove rules e e' s s := by
  apply CellMove.keep _ rfl
  rw [e.installed_of_disabled he, e'.installed_of_disabled he']

theorem restoreEntry_eq (hd : RuleMap d rules) (tblHdl : UInt32) (e : NatTableEntry)
    (s : Int × δ) :
    restoreEntry d tblHdl e s =
      ({ e with
          ruleHdl := (d.addIpv4Rule tblHdl e.natRule e.ruleHdl s.2).2.1
          enabled := true },
        s.1, (d.addIpv4Rule tblHdl e.natRule e.ruleHdl s.2).2.2) := by
  have hret : ¬(d.addIpv4Rule tblHdl e.natRule e.ruleHdl s.2).1 < 0 :=
    Int.not_lt.mpr (hd.addIpv4Rule tblHdl e.natRule e.ruleHdl s.2).1
  simp only [restoreEntry, if_neg hret]

theorem restoreEntry_move (hd : RuleMap d rules) (tblHdl : UInt32) {f : NatTableEntry}
    (hf : f.enabled = false) (e : NatTableEntry) (s : Int × δ) :
    CellMove rules f (restoreEntry d tblHdl e s).1 s.2 (restoreEntry d tblHdl e s).2.2 := by
  rw [restoreEntry_eq hd]
  exact addIpv4Rule_move hd tblHdl s.2 e.ruleHdl hf rfl rfl

/-- The agreement of cache and table, with what carries it through a run. -/
structure CacheInv (rules : δ → Nat → Option Ipv4Rule) (app : NatApp δ) : Prop where
  vacant : ∀ e ∈ app.cache, e.VacantDisabled
  coherent : Coherent rules app

theorem CacheInv.of_drops {app app' : NatApp δ} {σ : Type} (drv : σ → δ)
    {body : NatTableEntry → σ → NatTableEntry × σ}
    (hmove : ∀ e s, CellMove rules e (body e s).1 (drv s) (drv (body e s).2))
    (hdrop : ∀ e s, (body e s).1 = e ∨ (body e s).1.enabled = false)
    {s : σ} (hs : drv s = app.driver) (h : CacheInv rules app)
    (hcache : app'.cache = (sweep body app.cache s).1)
    (hdriver : app'.driver = drv (sweep body app.cache s).2)
    (hhdl : app'.natTableHdl = app.natTableHdl) : CacheInv rules app' := by
  have hkeep : ∀ (P : NatTableEntry → Prop), (∀ e, e.enabled = false → P e) →
      (∀ e ∈ app.cache, P e) → ∀ e ∈ app'.cache, P e := by
    intro P hP hall
    rw [hcache]
    refine sweep_forall (P := P) (Q := P) ?_ _ _ hall
    intro e s he
    rcases hdrop e s with heq | hoff
    · rw [heq]
      exact he
    · exact hP _ hoff
  constructor
  · exact hkeep _ (fun e he _ => he) h.vacant
  · constructor
    · intro htbl
      rw [hcache, hdriver]
      apply sweep_accounted drv hmove
      rw [hs]
      exact h.coherent.table (hhdl ▸ htbl)
    · intro htbl
      exact hkeep _ (fun e he => he) (h.coherent.noTable (hhdl ▸ htbl))

theorem updatePwrSaveIf_inv (hd : RuleMap d rules) (clientLanIp : UInt32) {app : NatApp δ}
    (h : CacheInv rules app) : CacheInv rules (updatePwrSaveIf d clientLanIp app).2 := by
  rw [updatePwrSaveIf]
  split
  · exact h
  split
  · exact h
  refine h.of_drops id ?_ ?_ rfl rfl rfl rfl
  · intro e s
    dsimp only [id]
    split
    case isTrue he =>
      rw [if_neg (Int.not_lt.mpr (hd.delIpv4Rule app.natTableHdl e.ruleHdl s).1)]
      exact delIpv4Rule_move hd app.natTableHdl s he.2 rfl
    case isFalse => exact .keep rfl rfl
  · intro e s
    dsimp only
    split
    case isTrue he =>
      split
      · exact Or.inl rfl
      · exact Or.inr rfl
    case isFalse => exact Or.inl rfl

theorem delEntriesOnClntDiscon_inv (hd : RuleMap d rules) (ipAddr : UInt32) {app : NatApp δ}
    (h : CacheInv rules app) : CacheInv rules (delEntriesOnClntDiscon d ipAddr app).2 := by
  rw [delEntriesOnClntDiscon]
  split
  · exact h
  refine h.of_drops id ?_ ?_ rfl rfl rfl rfl
  · intro e s
    dsimp only [id]
    split
    case isTrue he =>
      rw [if_neg (Int.not_lt.mpr (hd.delIpv4Rule app.natTableHdl e.ruleHdl s).1)]
      exact delIpv4Rule_move hd app.natTableHdl s he.2 rfl
    case isFalse => exact .keep rfl rfl
  · intro e s
    dsimp only
    split
    case isTrue he =>
      split
      · exact Or.inl rfl
      · exact Or.inr rfl
    case isFalse => exact Or.inl rfl

theorem delEntriesOnSTAClntDiscon_inv (hd : RuleMap d rules) (ipAddr : UInt32)
    {app : NatApp δ} (h : CacheInv rules app) :
    CacheInv rules (delEntriesOnSTAClntDiscon d ipAddr app).2 := by
  rw [delEntriesOnSTAClntDiscon]
  split
  · exact h
  refine h.of_drops Prod.snd ?_ ?_ rfl rfl rfl rfl
  · intro e s
    dsimp only
    split
    case isFalse => exact .keep rfl rfl
    split
    case isTrue he =>
      rw [if_neg (Int.not_lt.mpr (hd.delIpv4Rule app.natTableHdl e.ruleHdl s.2).1)]
      exact delIpv4Rule_move hd app.natTableHdl s.2 he rfl
    case isFalse he => exact CellMove.keep_disabled s.2 (Bool.eq_false_iff.mpr he) rfl
  · intro e s
    dsimp only
    split
    case isFalse => exact Or.inl rfl
    split
    case isTrue =>
      split
      · exact Or.inl rfl
      · exact Or.inr rfl
    case isFalse => exact Or.inr rfl

theorem CacheInv.of_set {app app' : NatApp δ} {before after : List NatTableEntry}
    {e : NatTableEntry} (h : CacheInv rules app) (e' : NatTableEntry)
    (hsplit : app.cache = before ++ e :: after) (hcache : app'.cache = before ++ e' :: after)
    (hhdl : app'.natTableHdl = app.natTableHdl)
    (hmove : CellMove rules e e' app.driver app'.driver) (hvacant : e'.VacantDisabled)
    (hoff : app.natTableHdl = 0 → e'.enabled = false) : CacheInv rules app' := by
  constructor
  · rw [hcache]
    exact forall_mem_append_cons (hsplit ▸ h.vacant) hvacant
  · constructor
    · intro htbl
      rw [hcache]
      apply hmove.accounted
      rw [← hsplit]
      exact h.coherent.table (hhdl ▸ htbl)
    · intro htbl
      rw [hcache]
      rw [hhdl] at htbl
      exact forall_mem_append_cons (hsplit ▸ h.coherent.noTable htbl) (hoff htbl)

theorem deleteEntry_inv (hd : RuleMap d rules) (rule : NatTableEntry) {app : NatApp δ}
    (h : CacheInv rules app) : CacheInv rules (deleteEntry d rule app).2 := by
  rw [deleteEntry]
  split
  case h_1 => exact h
  case h_2 cnt hcnt =>
    obtain ⟨before, e, after, hsplit, rfl, -, -⟩ := split_of_findIdx?_eq_some hcnt
    have hslot : app.cache.getD before.length NatTableEntry.zeroed = e := by
      rw [hsplit, List.getD_eq_getElem?_getD, getElem?_append_cons, Option.getD_some]
    apply h.of_set NatTableEntry.zeroed hsplit
    · change app.cache.set before.length _ = _
      rw [hsplit, set_append_cons]
    · rfl
    · dsimp only
      rw [hslot]
      split
      case isTrue he => exact delIpv4Rule_move hd app.natTableHdl app.driver he rfl
      case isFalse he => exact CellMove.keep_disabled _ (Bool.eq_false_iff.mpr he) rfl
    · intro _
      rfl
    · intro _
      rfl

theorem privateIp_ne_zero_of_valid {rule : NatTableEntry} (h : ¬rule.invalid = true) :
    rule.privateIp ≠ 0 := by
  intro hzero
  apply h
  simp [NatTableEntry.invalid, hzero]

theorem CacheInv.disabled_of_isFree {app : NatApp δ} {e : NatTableEntry} (h : CacheInv rules app)
    (he : e ∈ app.cache) (hfree : e.isFree = true) : e.enabled = false := by
  apply h.vacant e he
  simp only [NatTableEntry.isFree, Bool.and_eq_true, beq_iff_eq] at hfree
  exact hfree.1.1.1.1

theorem addEntry_inv (hd : RuleMap d rules) (rule : NatTableEntry) {app : NatApp δ}
    (h : CacheInv rules app) : CacheInv rules (addEntry d rule app).2 := by
  rw [addEntry]
  split
  case isTrue => exact h
  case isFalse htbl =>
  split
  case isTrue => exact h
  case isFalse =>
  split
  case isTrue => exact h
  case isFalse hvalid =>
  split
  case isTrue => exact h
  case isFalse =>
  split
  case h_1 => exact h
  case h_2 cnt hcnt =>
    obtain ⟨before, e, after, hsplit, rfl, hfree, -⟩ := split_of_findIdx?_eq_some hcnt
    have hslot : app.cache.getD before.length NatTableEntry.zeroed = e := by
      rw [hsplit, List.getD_eq_getElem?_getD, getElem?_append_cons, Option.getD_some]
    have hoff : e.enabled = false := h.disabled_of_isFree (by simp [hsplit]) hfree
    have hprivate := privateIp_ne_zero_of_valid hvalid
    dsimp only
    rw [hslot, hsplit, set_append_cons, set_append_cons, set_append_cons]
    split
    case isTrue =>
      refine h.of_set _ hsplit rfl rfl ?_ ?_ ?_
      · exact CellMove.keep_disabled app.driver hoff rfl
      · intro _
        rfl
      · intro _
        rfl
    case isFalse =>
      have hadd := hd.addIpv4Rule app.natTableHdl rule.natRule e.ruleHdl app.driver
      rw [if_neg (Int.not_lt.mpr hadd.1)]
      refine h.of_set _ hsplit rfl rfl ?_ ?_ ?_
      · exact addIpv4Rule_move hd app.natTableHdl app.driver e.ruleHdl hoff rfl rfl
      · intro hzero
        exact absurd hzero hprivate
      · intro hzero
        exact absurd hzero htbl

theorem cacheEntry_inv (cnt : Nat) (rule : NatTableEntry) {app : NatApp δ}
    (h : CacheInv rules app) : CacheInv rules (cacheEntry cnt rule app) := by
  rw [cacheEntry]
  split
  case isTrue => exact h
  case isFalse hvalid =>
  split
  case isTrue => exact h
  case isFalse =>
  split
  case h_1 =>
    split
    · exact h
    · exact ⟨h.vacant, h.coherent.table, h.coherent.noTable⟩
  case h_2 i hi =>
    obtain ⟨between, e, after, hdrop, rfl, hfree, -⟩ := split_of_findIdx?_eq_some hi
    have hcnt : cnt ≤ app.cache.length := by
      rcases Nat.lt_or_ge app.cache.length cnt with hlt | hle
      · rw [List.drop_eq_nil_of_le (Nat.le_of_lt hlt)] at hdrop
        simp at hdrop
      · exact hle
    have hsplit : app.cache = (app.cache.take cnt ++ between) ++ e :: after := by
      rw [List.append_assoc, ← hdrop, List.take_append_drop]
    have hlength : cnt + between.length = (app.cache.take cnt ++ between).length := by
      rw [List.length_append, List.length_take_of_le hcnt]
    have hoff : e.enabled = false := h.disabled_of_isFree (by rw [hsplit]; simp) hfree
    apply h.of_set ({ e with enabled := false, ruleHdl := 0 }.fill rule) hsplit
    · dsimp only
      rw [hlength]
      generalize app.cache.take cnt ++ between = before at hsplit
      rw [hsplit, set_append_cons, List.getD_eq_getElem?_getD, getElem?_append_cons,
        Option.getD_some]
    · rfl
    · exact CellMove.keep_disabled app.driver hoff rfl
    · intro _
      rfl
    · intro _
      rfl

theorem restoreEntry_vacantDisabled (hd : RuleMap d rules) (tblHdl : UInt32)
    {e : NatTableEntry} (he : e.privateIp ≠ 0) (s : Int × δ) :
    (restoreEntry d tblHdl e s).1.VacantDisabled := by
  intro hzero
  rw [restoreEntry_eq hd] at hzero
  exact absurd hzero he

theorem resetPwrSaveIf_inv (hd : RuleMap d rules) (clientLanIp : UInt32) {app : NatApp δ}
    (hok : app.natTableHdl ≠ 0 ∨
      ∀ e ∈ app.cache, e.privateIp = clientLanIp → e.enabled = true)
    (h : CacheInv rules app) : CacheInv rules (resetPwrSaveIf d clientLanIp app).2 := by
  rw [resetPwrSaveIf]
  split
  case isTrue => exact h
  case isFalse hip =>
  dsimp only
  generalize hbody : (fun (e : NatTableEntry) (s : Int × δ) =>
    if e.privateIp = clientLanIp ∧ e.enabled = false then restoreEntry d app.natTableHdl e s
    else (e, s)) = body
  constructor
  · refine sweep_forall (P := NatTableEntry.VacantDisabled) ?_ _ _ h.vacant
    intro e s he
    rw [← hbody]
    dsimp only
    split
    case isTrue hmatch => exact restoreEntry_vacantDisabled hd _ (hmatch.1 ▸ hip) s
    case isFalse => exact he
  · constructor
    · intro htbl
      apply sweep_accounted Prod.snd _ _ _ (h.coherent.table htbl)
      intro e s
      rw [← hbody]
      dsimp only
      split
      case isTrue hmatch => exact restoreEntry_move hd _ hmatch.2 e s
      case isFalse => exact .keep rfl rfl
    · -- without a table no entry is enabled, so none may match
      intro htbl
      have hoff := h.coherent.noTable htbl
      have hself : sweep body app.cache (app.curCnt, app.driver) =
          (app.cache, app.curCnt, app.driver) := by
        apply sweep_eq_self
        intro e he
        rw [← hbody]
        apply if_neg
        rintro ⟨hmatch, -⟩
        have hon := (hok.resolve_left (not_not_intro htbl)) e he hmatch
        rw [hoff e he] at hon
        cases hon
      dsimp only
      rw [hself]
      exact hoff

theorem addTable_inv (hd : RuleMap d rules) (pubIp : UInt32) {app : NatApp δ}
    (hok : pubIp = app.pubIpAddrPre ∨ ∀ e ∈ app.cache, e.enabled = false)
    (h : CacheInv rules app) : CacheInv rules (addTable d pubIp app).2 := by
  have htbl := hd.addIpv4Tbl pubIp app.cache.length app.driver
  rw [addTable]
  generalize d.addIpv4Tbl pubIp app.cache.length app.driver = tbl at htbl ⊢
  rcases tbl with ⟨ret, tblHdl, drv⟩
  dsimp only at htbl ⊢
  rw [if_neg (not_not_intro htbl.1)]
  split
  case isTrue =>
    constructor
    · refine sweep_forall (P := NatTableEntry.VacantDisabled) ?_ _ _ h.vacant
      intro e s he
      split
      case isTrue hip => exact restoreEntry_vacantDisabled hd _ hip s
      case isFalse => exact he
    · constructor
      · intro _
        refine sweep_refills Prod.snd ?_ _ _ h.vacant htbl.2.2
        intro e s he
        split
        case isTrue => exact restoreEntry_move hd _ rfl e s
        case isFalse hip => exact CellMove.keep_disabled s.2 rfl (he (not_not.mp hip))
      · intro hzero
        exact absurd hzero htbl.2.1
  case isFalse hpre =>
    have hoff := hok.resolve_left hpre
    constructor
    · exact h.vacant
    · constructor
      · intro _
        have hnone : installedRules app.cache = [] := by
          apply List.filterMap_eq_nil_iff.mpr
          intro e he
          exact e.installed_of_disabled (hoff e he)
        rw [hnone]
        exact Accounted.nil_iff.mpr htbl.2.2
      · intro _
        exact hoff

theorem deleteTable_inv (pubIp : UInt32) {app : NatApp δ}
    (hd : RuleMap d rules)
    (hok : app.natTableHdl ≠ 0 → app.pubIpAddr = pubIp → ∀ e ∈ app.cache, e.enabled = false)
    (h : CacheInv rules app) : CacheInv rules (deleteTable d pubIp app).2 := by
  rw [deleteTable]
  split
  case isTrue => exact h
  case isFalse htbl =>
  split
  case isTrue => exact h
  case isFalse hpub =>
  have hdel := hd.delIpv4Tbl app.natTableHdl app.driver
  dsimp only
  rw [if_neg (not_not_intro hdel.1)]
  constructor
  · exact h.vacant
  · constructor
    · intro hne
      exact absurd rfl hne
    · intro _
      exact hok htbl (not_not.mp hpub)

theorem CacheInv.of_eq {app app' : NatApp δ} (h : CacheInv rules app)
    (hcache : app'.cache = app.cache) (hhdl : app'.natTableHdl = app.natTableHdl)
    (hdriver : app'.driver = app.driver) : CacheInv rules app' := by
  constructor
  · rw [hcache]
    exact h.vacant
  · constructor
    · rw [hcache, hhdl, hdriver]
      exact h.coherent.table
    · rw [hcache, hhdl]
      exact h.coherent.noTable

theorem addTempEntry_inv (newEntry : NatTableEntry) {app : NatApp δ} (h : CacheInv rules app) :
    CacheInv rules (addTempEntry newEntry app) := by
  rw [addTempEntry]
  split
  · exact h
  · exact h.of_eq rfl rfl rfl

theorem flushTempEntries_inv (hd : RuleMap d rules) (ipAddr : UInt32) (isAdd : Bool)
    {app : NatApp δ} (h : CacheInv rules app) :
    CacheInv rules (flushTempEntries d ipAddr isAdd app) := by
  have hbody : ∀ e app, CacheInv rules app →
      CacheInv rules (flushTempEntry d ipAddr isAdd e app).2 := by
    intro e app happ
    rw [flushTempEntry]
    split
    case isFalse => exact happ
    split
    case isFalse => exact happ
    dsimp only
    have hadd := addEntry_inv hd e happ
    split
    · exact hadd
    · exact hadd
  have hloop := sweep_invariant (I := fun _ _ app => CacheInv rules app)
    (fun _ e _ app happ => hbody e app happ) app.temp [] app h
  exact hloop.of_eq rfl rfl rfl

/-- Where an operation keeps cache and table in agreement. `DeleteTable` must
find no enabled entry, as `Reset` does not clear the flags; an `AddTable` that
replaces a table must bring the cached entries back; `ResetPwrSaveIf` must not
enable entries while there is no table. -/
def opAllowed (app : NatApp δ) : NatOp → Prop
  | .addTable pubIp => pubIp = app.pubIpAddrPre ∨ ∀ e ∈ app.cache, e.enabled = false
  | .deleteTable pubIp =>
      app.natTableHdl ≠ 0 → app.pubIpAddr = pubIp → ∀ e ∈ app.cache, e.enabled = false
  | .resetPwrSaveIf clientLanIp => app.natTableHdl ≠ 0 ∨
      ∀ e ∈ app.cache, e.privateIp = clientLanIp → e.enabled = true
  | _ => True

theorem natStep_inv (hd : RuleMap d rules) (op : NatOp) {app : NatApp δ}
    (hok : opAllowed app op) (h : CacheInv rules app) : CacheInv rules (natStep d app op) := by
  cases op with
  | addTable pubIp => exact addTable_inv hd pubIp hok h
  | deleteTable pubIp => exact deleteTable_inv pubIp hd hok h
  | addEntry rule => exact addEntry_inv hd rule h
  | cacheEntry cnt rule => exact cacheEntry_inv cnt rule h
  | deleteEntry rule => exact deleteEntry_inv hd rule h
  | updatePwrSaveIf clientLanIp => exact updatePwrSaveIf_inv hd clientLanIp h
  | resetPwrSaveIf clientLanIp => exact resetPwrSaveIf_inv hd clientLanIp hok h
  | delEntriesOnClntDiscon ipAddr => exact delEntriesOnClntDiscon_inv hd ipAddr h
  | delEntriesOnSTAClntDiscon ipAddr => exact delEntriesOnSTAClntDiscon_inv hd ipAddr h
  | addTempEntry newEntry => exact addTempEntry_inv newEntry h
  | flushTempEntries ipAddr isAdd => exact flushTempEntries_inv hd ipAddr isAdd h

theorem cacheInv_init (maxEntries : Nat) (algPorts : List (UInt8 × UInt16)) (drv : δ) :
    CacheInv rules (NatApp.init maxEntries algPorts drv) := by
  have hoff : ∀ e ∈ (NatApp.init maxEntries algPorts drv).cache, e.enabled = false := by
    intro e he
    rw [List.eq_of_mem_replicate he]
    rfl
  constructor
  · intro e he _
    exact hoff e he
  · constructor
    · intro hne
      exact absurd rfl hne
    · intro _
      exact hoff

/-- In every run whose operations are allowed, the enabled entries are the rules
of the table. -/
theorem coherent_of_run (hd : RuleMap d rules) (maxEntries : Nat)
    (algPorts : List (UInt8 × UInt16)) (drv : δ) (ops : List NatOp) (app : NatApp δ)
    (hrun : Run (Guarded opAllowed fun app op app' => app' = natStep d app op)
      (NatApp.init maxEntries algPorts drv) ops app) : Coherent rules app := by
  have hinv := hrun.invariant (I := CacheInv rules) (cacheInv_init maxEntries algPorts drv) (by
    rintro app op app' h ⟨hok, rfl⟩
    exact natStep_inv hd op hok h)
  exact hinv.coherent

end

/-- Handles above every handle in use. -/
def freshHdl (s : List (Nat × Ipv4Rule)) : Nat := s.foldr (fun e m => max (e.1 + 1) m) 1

/-- The map driver: its state lists the live handles with their rules. -/
def ruleMapDriver : NatDriver (List (Nat × Ipv4Rule)) where
  addIpv4Tbl _ _ _ := (0, 1, [])
  delIpv4Tbl _ _ := (0, [])
  addIpv4Rule _ rule _ s := (0, freshHdl s, (freshHdl s, rule) :: s)
  delIpv4Rule _ hdl s := (0, s.filter fun e => e.1 != hdl)

def liveRules (s : List (Nat × Ipv4Rule)) (hdl : Nat) : Option Ipv4Rule :=
  (s.find? fun e => e.1 == hdl).map Prod.snd

theorem lt_freshHdl {s : List (Nat × Ipv4Rule)} {e : Nat × Ipv4Rule} (he : e ∈ s) :
    e.1 < freshHdl s := by
  induction s with
  | nil => cases he
  | cons f s ih =>
      rw [freshHdl, List.foldr_cons]
      rcases List.mem_cons.mp he with rfl | he
      · exact Nat.lt_of_lt_of_le (Nat.lt_succ_self e.1) (Nat.le_max_left _ _)
      · exact Nat.lt_of_lt_of_le (ih he) (Nat.le_max_right _ _)

theorem ruleMap_ruleMapDriver : RuleMap ruleMapDriver liveRules where
  addIpv4Tbl _ _ _ := ⟨rfl, (by decide : (1 : UInt32) ≠ 0), fun _ => rfl⟩
  delIpv4Tbl _ _ := ⟨rfl, fun _ => rfl⟩
  addIpv4Rule _ rule _ s := by
    refine ⟨Int.le_refl 0, ?_, ?_⟩
    · change liveRules s (freshHdl s) = none
      apply Option.map_eq_none_iff.mpr
      apply List.find?_eq_none.mpr
      intro e he
      simpa using Nat.ne_of_lt (lt_freshHdl he)
    · funext hdl
      change liveRules ((freshHdl s, rule) :: s) hdl =
        Function.update (liveRules s) (freshHdl s) (some rule) hdl
      rcases eq_or_ne hdl (freshHdl s) with rfl | hne
      · rw [Function.update_self, liveRules, List.find?_cons_of_pos (by simp)]
        rfl
      · rw [Function.update_of_ne hne, liveRules,
          List.find?_cons_of_neg (by simpa using hne.symm)]
        rfl
  delIpv4Rule _ hdl s := by
    refine ⟨Int.le_refl 0, ?_⟩
    funext hdl'
    change liveRules (s.filter fun e => e.1 != hdl) hdl' = _
    rw [liveRules, List.find?_filter]
    rcases eq_or_ne hdl' hdl with rfl | hne
    · rw [Function.update_self, List.find?_eq_none.mpr (by simp)]
      rfl
    · rw [Function.update_of_ne hne]
      have htest : (fun e : Nat × Ipv4Rule => decide ((e.1 != hdl) = true ∧ (e.1 == hdl') = true)) =
          fun e => e.1 == hdl' := by
        funext e
        rcases eq_or_ne e.1 hdl' with heq | he
        · simp [heq, hne]
        · simp [he]
      rw [htest]
      rfl

/-- A fresh cache of four entries, and a connection. -/
def smallApp : NatApp (List (Nat × Ipv4Rule)) := NatApp.init 4 [] []

def entryA : NatTableEntry :=
  { NatTableEntry.zeroed with
    privateIp := 2
    privatePort := 3
    targetIp := 4
    targetPort := 5
    publicPort := 6
    protocol := 17 }

/-- A connection goes through power save and is closed before the table goes. -/
def smallRun : List NatOp :=
  [.addTable 9, .addEntry entryA, .updatePwrSaveIf 2, .resetPwrSaveIf 2, .deleteEntry entryA,
    .deleteTable 9]

theorem coherent_smallRun :
    Coherent liveRules (smallRun.foldl (natStep ruleMapDriver) smallApp) := by
  apply coherent_of_run ruleMap_ruleMapDriver 4 [] [] smallRun
  refine Run.snoc (Run.snoc (Run.snoc (Run.snoc (Run.snoc (Run.snoc .nil
    ⟨?_, rfl⟩) ⟨?_, rfl⟩) ⟨?_, rfl⟩) ⟨?_, rfl⟩) ⟨?_, rfl⟩) ⟨?_, rfl⟩
  · intro _ _
    decide
  · exact Or.inr (by decide)
  · trivial
  · trivial
  · exact Or.inl (by decide)
  · trivial

/-- The table is deleted under a cached connection, which stays enabled. -/
theorem not_coherent_deleted_table :
    ∃ app, Run (fun app op app' => app' = natStep ruleMapDriver app op) smallApp
      [.addTable 9, .addEntry entryA, .deleteTable 9] app ∧ ¬ Coherent liveRules app := by
  refine ⟨_, Run.snoc (Run.snoc (Run.snoc .nil rfl) rfl) rfl, ?_⟩
  intro h
  have hoff := h.noTable (by decide)
  exact absurd hoff (by decide)

end LibraDevice.NatCache
