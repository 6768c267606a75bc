import LibraDevice.Lib.SlotTable
import LibraDevice.NatCache.Coherence

/-!
The slots of the NAT cache and their counter, whatever the driver does.
-/

namespace LibraDevice.NatCache

open LibraDevice.SlotTable
open Sweep StepRun

/-- The five fields that tell connections apart. -/
def NatTableEntry.tuple (e : NatTableEntry) : UInt32 × UInt32 × UInt16 × UInt16 × UInt8 :=
  (e.privateIp, e.targetIp, e.privatePort, e.targetPort, e.protocol)

/-- The connection of a slot in use. -/
def NatTableEntry.key (e : NatTableEntry) :
    Option (UInt32 × UInt32 × UInt16 × UInt16 × UInt8) :=
  if e.isFree then none else some e.tuple

theorem NatTableEntry.isFree_iff {e : NatTableEntry} :
    e.isFree = true ↔ e.tuple = (0, 0, 0, 0, 0) := by
  simp only [NatTableEntry.isFree, NatTableEntry.tuple, Bool.and_eq_true, beq_iff_eq,
    Prod.mk.injEq, and_assoc]

theorem NatTableEntry.sameTuple_iff {rule e : NatTableEntry} :
    rule.sameTuple e = true ↔ e.tuple = rule.tuple := by
  simp only [NatTableEntry.sameTuple, NatTableEntry.tuple, Bool.and_eq_true, beq_iff_eq,
    Prod.mk.injEq, and_assoc]

theorem NatTableEntry.key_congr {e e' : NatTableEntry} (h : e'.tuple = e.tuple) :
    e'.key = e.key := by
  have hfree : e'.isFree = e.isFree := by
    rw [Bool.eq_iff_iff, NatTableEntry.isFree_iff, NatTableEntry.isFree_iff, h]
  rw [NatTableEntry.key, NatTableEntry.key, hfree, h]

theorem NatTableEntry.key_isSome {e : NatTableEntry} (h : e.isFree = false) : e.key.isSome := by
  rw [NatTableEntry.key, h]
  rfl

theorem NatTableEntry.isFree_of_privateIp {e : NatTableEntry} (h : e.privateIp ≠ 0) :
    e.isFree = false := by
  rw [Bool.eq_false_iff, Ne, NatTableEntry.isFree_iff]
  intro hzero
  exact h (congrArg Prod.fst hzero)

theorem NatTableEntry.isFree_of_targetIp {e : NatTableEntry} (h : e.targetIp ≠ 0) :
    e.isFree = false := by
  rw [Bool.eq_false_iff, Ne, NatTableEntry.isFree_iff]
  intro hzero
  exact h (congrArg (fun x => x.2.1) hzero)

/-- A slot is free, or all five fields are set. -/
def NatTableEntry.FreeOrFull (e : NatTableEntry) : Prop := e.isFree = true ∨ e.invalid = false

theorem NatTableEntry.FreeOrFull.congr {e e' : NatTableEntry} (h : e.FreeOrFull)
    (htuple : e'.tuple = e.tuple) : e'.FreeOrFull := by
  have hfree : e'.isFree = e.isFree := by
    rw [Bool.eq_iff_iff, NatTableEntry.isFree_iff, NatTableEntry.isFree_iff, htuple]
  have hinvalid : e'.invalid = e.invalid := by
    simp only [NatTableEntry.tuple, Prod.mk.injEq] at htuple
    obtain ⟨h1, h2, h3, h4, h5⟩ := htuple
    simp only [NatTableEntry.invalid, h1, h2, h3, h4, h5]
  rw [NatTableEntry.FreeOrFull, hfree, hinvalid]
  exact h

/-- Every slot is free or filled, no connection is cached twice, and `curCnt`
counts the slots in use. -/
structure SlotsOk {δ : Type} (app : NatApp δ) : Prop where
  slot : ∀ e ∈ app.cache, e.FreeOrFull
  counted : Counted NatTableEntry.key app.cache app.curCnt

/-- What a loop of `NatApp` may do to a slot and the counter. -/
inductive SlotMove (e e' : NatTableEntry) (n n' : Int) : Prop
  | keep : e'.tuple = e.tuple → n' = n → SlotMove e e' n n'
  | clear : e.isFree = false → e' = NatTableEntry.zeroed → n' = n - 1 → SlotMove e e' n n'

theorem SlotMove.move {e e' : NatTableEntry} {n n' : Int} (h : SlotMove e e' n n') :
    Move NatTableEntry.key e e' n n' := by
  cases h with
  | keep htuple hn => exact .keep (NatTableEntry.key_congr htuple) hn
  | clear he he' hn =>
      refine .clear (NatTableEntry.key_isSome he) ?_ hn
      rw [he']
      rfl

theorem SlotMove.freeOrFull {e e' : NatTableEntry} {n n' : Int} (h : SlotMove e e' n n')
    (he : e.FreeOrFull) : e'.FreeOrFull := by
  cases h with
  | keep htuple _ => exact he.congr htuple
  | clear _ he' _ =>
      rw [he']
      exact Or.inl rfl

section

variable {δ : Type}

/-- What an operation may do to the cache and its counter: nothing, a loop that
moves every slot, a move of one slot, or a new connection in a free slot. -/
inductive CacheStep (app app' : NatApp δ) : Prop
  | same : app'.cache = app.cache → app'.curCnt = app.curCnt → CacheStep app app'
  | swept {σ : Type} (count : σ → Int) {body : NatTableEntry → σ → NatTableEntry × σ} {s : σ} :
      (∀ e s, SlotMove e (body e s).1 (count s) (count (body e s).2)) → count s = app.curCnt →
      app'.cache = (sweep body app.cache s).1 →
      app'.curCnt = count (sweep body app.cache s).2 → CacheStep app app'
  | moved {before after : List NatTableEntry} {e e' : NatTableEntry} :
      app.cache = before ++ e :: after → app'.cache = before ++ e' :: after →
      SlotMove e e' app.curCnt app'.curCnt → CacheStep app app'
  | filled {before after : List NatTableEntry} {e e' : NatTableEntry} (rule : NatTableEntry) :
      app.cache = before ++ e :: after → app'.cache = before ++ e' :: after → e.isFree = true →
      e'.tuple = rule.tuple → ¬rule.invalid = true → ¬chkForDup rule app = true →
      app'.curCnt = app.curCnt + 1 → CacheStep app app'

theorem CacheStep.counted {app app' : NatApp δ} (hstep : CacheStep app app') {k : Int}
    (h : Counted NatTableEntry.key app.cache (app.curCnt + k)) :
    Counted NatTableEntry.key app'.cache (app'.curCnt + k) := by
  cases hstep with
  | same hcache hcnt =>
      rw [hcache, hcnt]
      exact h
  | swept count hmove hs hcache hcnt =>
      rw [hcache, hcnt]
      apply Counted.sweep (fun s => count s + k) (fun e s => (hmove e s).move.shift k)
      rw [hs]
      exact h
  | moved hsplit hcache hmove =>
      rw [hsplit] at h
      rw [hcache]
      exact h.move (hmove.move.shift k)
  | @filled before after e e' rule hsplit hcache hfree htuple hvalid hnew hcnt =>
      have hused : rule.isFree = false := by
        apply NatTableEntry.isFree_of_privateIp
        intro hzero
        apply hvalid
        simp [NatTableEntry.invalid, hzero]
      have hkey : e'.key = some rule.tuple := by
        rw [NatTableEntry.key_congr htuple, NatTableEntry.key, hused]
        rfl
      have hnot : rule.tuple ∉ keys NatTableEntry.key app.cache := by
        rw [mem_keys]
        rintro ⟨f, hf, hfkey⟩
        apply hnew
        rw [chkForDup, List.any_eq_true]
        refine ⟨f, hf, ?_⟩
        rw [NatTableEntry.sameTuple_iff]
        rw [NatTableEntry.key] at hfkey
        split at hfkey
        · cases hfkey
        · exact Option.some.inj hfkey
      rw [hsplit] at h hnot
      have hfill := h.fill (if_pos hfree) hkey hnot
      have hcount : app'.curCnt + k = app.curCnt + k + 1 := by omega
      rw [hcache, hcount]
      exact hfill

theorem CacheStep.freeOrFull {app app' : NatApp δ} (hstep : CacheStep app app')
    (h : ∀ e ∈ app.cache, e.FreeOrFull) : ∀ e ∈ app'.cache, e.FreeOrFull := by
  have hset : ∀ {before after : List NatTableEntry} {e e' : NatTableEntry},
      app.cache = before ++ e :: after → e'.FreeOrFull → ∀ f ∈ before ++ e' :: after,
      f.FreeOrFull := by
    intro before after e e' hsplit he' f hf
    rw [hsplit] at h
    rcases List.mem_append.mp hf with hf | hf
    · exact h f (List.mem_append_left _ hf)
    · rcases List.mem_cons.mp hf with rfl | hf
      · exact he'
      · exact h f (List.mem_append_right _ (List.mem_cons_of_mem _ hf))
  cases hstep with
  | same hcache _ =>
      rw [hcache]
      exact h
  | swept count hmove _ hcache _ =>
      rw [hcache]
      exact sweep_forall (fun e s he => (hmove e s).freeOrFull he) _ _ h
  | moved hsplit hcache hmove =>
      rw [hcache]
      exact hset hsplit (hmove.freeOrFull (h _ (by simp [hsplit])))
  | filled rule hsplit hcache _ htuple hvalid _ _ =>
      rw [hcache]
      exact hset hsplit
        (NatTableEntry.FreeOrFull.congr (Or.inr (Bool.eq_false_iff.mpr hvalid)) htuple)

theorem CacheStep.slotsOk {app app' : NatApp δ} (hstep : CacheStep app app') (h : SlotsOk app) :
    SlotsOk app' := by
  constructor
  · exact hstep.freeOrFull h.slot
  · have hcounted := hstep.counted (k := 0) (by rw [Int.add_zero]; exact h.counted)
    rw [Int.add_zero] at hcounted
    exact hcounted

variable {d : NatDriver δ}

theorem restoreEntry_slotMove (tblHdl : UInt32) {e : NatTableEntry} (he : e.privateIp ≠ 0)
    (s : Int × δ) :
    SlotMove e (restoreEntry d tblHdl e s).1 s.1 (restoreEntry d tblHdl e s).2.1 := by
  rw [restoreEntry]
  dsimp only
  split
  · exact .clear (NatTableEntry.isFree_of_privateIp he) rfl rfl
  · exact .keep rfl rfl

theorem addTable_cacheStep (pubIp : UInt32) (app : NatApp δ) :
    CacheStep app (addTable d pubIp app).2 := by
  rw [addTable]
  dsimp only
  split
  · exact .same rfl rfl
  · split
    · refine .swept Prod.fst ?_ rfl rfl rfl
      intro e s
      split
      case isTrue he => exact restoreEntry_slotMove _ he s
      case isFalse => exact .keep rfl rfl
    · exact .same rfl rfl

theorem deleteTable_cacheStep (pubIp : UInt32) (app : NatApp δ) :
    CacheStep app (deleteTable d pubIp app).2 := by
  rw [deleteTable]
  split
  · exact .same rfl rfl
  split
  · exact .same rfl rfl
  dsimp only
  split
  · exact .same rfl rfl
  · exact .same rfl rfl

theorem updatePwrSaveIf_cacheStep (clientLanIp : UInt32) (app : NatApp δ) :
    CacheStep app (updatePwrSaveIf d clientLanIp app).2 := by
  rw [updatePwrSaveIf]
  split
  · exact .same rfl rfl
  split
  · exact .same rfl rfl
  refine .swept (fun _ => app.curCnt) ?_ rfl rfl rfl
  intro e s
  refine .keep ?_ rfl
  split
  · dsimp only
    split
    · rfl
    · rfl
  · rfl

theorem resetPwrSaveIf_cacheStep (clientLanIp : UInt32) (app : NatApp δ) :
    CacheStep app (resetPwrSaveIf d clientLanIp app).2 := by
  rw [resetPwrSaveIf]
  split
  case isTrue => exact .same rfl rfl
  case isFalse hip =>
  refine .swept Prod.fst ?_ rfl rfl rfl
  intro e s
  split
  case isTrue he => exact restoreEntry_slotMove _ (he.1 ▸ hip) s
  case isFalse => exact .keep rfl rfl

theorem delEntriesOnClntDiscon_cacheStep (ipAddr : UInt32) (app : NatApp δ) :
    CacheStep app (delEntriesOnClntDiscon d ipAddr app).2 := by
  rw [delEntriesOnClntDiscon]
  split
  · exact .same rfl rfl
  refine .swept (fun _ => app.curCnt) ?_ rfl rfl rfl
  intro e s
  refine .keep ?_ rfl
  split
  · dsimp only
    split
    · rfl
    · rfl
  · rfl

theorem delEntriesOnSTAClntDiscon_cacheStep (ipAddr : UInt32) (app : NatApp δ) :
    CacheStep app (delEntriesOnSTAClntDiscon d ipAddr app).2 := by
  rw [delEntriesOnSTAClntDiscon]
  split
  case isTrue => exact .same rfl rfl
  case isFalse hip =>
  refine .swept Prod.fst ?_ rfl rfl rfl
  intro e s
  split
  case isFalse => exact .keep rfl rfl
  case isTrue he =>
    have hused := NatTableEntry.isFree_of_targetIp (he ▸ hip)
    split
    · dsimp only
      split
      · exact .keep rfl rfl
      · exact .clear hused rfl rfl
    · exact .clear hused rfl rfl

theorem deleteEntry_cacheStep (rule : NatTableEntry) {app : NatApp δ}
    (hok : rule.isFree = true → ∀ e ∈ app.cache, e.isFree = false) :
    CacheStep app (deleteEntry d rule app).2 := by
  rw [deleteEntry]
  split
  case h_1 => exact .same rfl rfl
  case h_2 cnt hcnt =>
    obtain ⟨before, e, after, hsplit, rfl, hsame, -⟩ := split_of_findIdx?_eq_some hcnt
    have hused : e.isFree = false := by
      rw [Bool.eq_false_iff]
      intro hfree
      rw [NatTableEntry.isFree_iff] at hfree
      rw [NatTableEntry.sameTuple_iff, hfree] at hsame
      have hnone := hok (NatTableEntry.isFree_iff.mpr hsame.symm) e (by simp [hsplit])
      rw [NatTableEntry.isFree_iff.mpr hfree] at hnone
      cases hnone
    refine .moved hsplit ?_ (.clear hused rfl rfl)
    change app.cache.set before.length _ = _
    rw [hsplit, set_append_cons]

theorem addEntry_cacheStep (rule : NatTableEntry) (app : NatApp δ) :
    CacheStep app (addEntry d rule app).2 := by
  rw [addEntry]
  split
  case isTrue => exact .same rfl rfl
  case isFalse =>
  split
  case isTrue => exact .same rfl rfl
  case isFalse =>
  split
  case isTrue => exact .same rfl rfl
  case isFalse hvalid =>
  split
  case isTrue => exact .same rfl rfl
  case isFalse hnew =>
  split
  case h_1 => exact .same rfl rfl
  case h_2 cnt hcnt =>
    obtain ⟨before, e, after, hsplit, rfl, hfree, -⟩ := split_of_findIdx?_eq_some hcnt
    have hslot : app.cache.getD before.length NatTableEntry.zeroed = e := by
      rw [hsplit, List.getD_eq_getElem?_getD, getElem?_append_cons, Option.getD_some]
    have hset : ∀ e', app.cache.set before.length e' = before ++ e' :: after := by
      intro e'
      rw [hsplit, set_append_cons]
    dsimp only
    rw [hslot]
    split
    case isTrue => exact .filled rule hsplit (hset _) hfree rfl hvalid hnew rfl
    case isFalse =>
      split
      case isTrue => exact .moved hsplit (hset _) (.keep rfl rfl)
      case isFalse => exact .filled rule hsplit (hset _) hfree rfl hvalid hnew rfl

theorem cacheEntry_split {cnt i : Nat} {app : NatApp δ}
    (hi : (app.cache.drop cnt).findIdx? NatTableEntry.isFree = some i) :
    ∃ before e after, app.cache = before ++ e :: after ∧ before.length = cnt + i ∧
      e.isFree = true := by
  obtain ⟨between, e, after, hdrop, rfl, hfree, -⟩ := split_of_findIdx?_eq_some hi
  have hcnt : cnt ≤ app.cache.length := by
    rcases Nat.lt_or_ge app.cache.length cnt with hlt | hle
    · rw [List.drop_eq_nil_of_le (Nat.le_of_lt hlt)] at hdrop
      simp at hdrop
    · exact hle
  refine ⟨app.cache.take cnt ++ between, e, after, ?_, ?_, hfree⟩
  · rw [List.append_assoc, ← hdrop, List.take_append_drop]
  · rw [List.length_append, List.length_take_of_le hcnt]

theorem cacheEntry_cacheStep (cnt : Nat) (rule : NatTableEntry) {app : NatApp δ}
    (hok : rule.invalid = true ∨ chkForDup rule app = true ∨ cnt ≤ app.cache.length) :
    CacheStep app (cacheEntry cnt rule app) := by
  rw [cacheEntry]
  split
  case isTrue => exact .same rfl rfl
  case isFalse hvalid =>
  split
  case isTrue => exact .same rfl rfl
  case isFalse hnew =>
  split
  case h_1 =>
    rw [if_pos ((hok.resolve_left hvalid).resolve_left hnew)]
    exact .same rfl rfl
  case h_2 i hi =>
    obtain ⟨before, e, after, hsplit, hlength, hfree⟩ := cacheEntry_split hi
    have hslot : app.cache.getD (cnt + i) NatTableEntry.zeroed = e := by
      rw [← hlength, hsplit, List.getD_eq_getElem?_getD, getElem?_append_cons, Option.getD_some]
    have hset : ∀ e', app.cache.set (cnt + i) e' = before ++ e' :: after := by
      intro e'
      rw [← hlength, hsplit, set_append_cons]
    dsimp only
    rw [hslot]
    exact .filled rule hsplit (hset _) hfree rfl hvalid hnew rfl

theorem addTempEntry_cacheStep (newEntry : NatTableEntry) (app : NatApp δ) :
    CacheStep app (addTempEntry newEntry app) := by
  rw [addTempEntry]
  split
  · exact .same rfl rfl
  · exact .same rfl rfl

theorem flushTempEntries_rule {I : NatApp δ → Prop}
    (hadd : ∀ rule app, I app → I (addEntry d rule app).2)
    (htemp : ∀ app temp, I app → I { app with temp := temp }) (ipAddr : UInt32) (isAdd : Bool)
    {app : NatApp δ} (h : I app) : I (flushTempEntries d ipAddr isAdd app) := by
  have hbody : ∀ e app, I app → I (flushTempEntry d ipAddr isAdd e app).2 := by
    intro e app happ
    rw [flushTempEntry]
    split
    case isFalse => exact happ
    split
    case isFalse => exact happ
    dsimp only
    split
    · exact hadd e app happ
    · exact hadd e app happ
  have hloop := sweep_invariant (I := fun _ _ app => I app)
    (fun _ e _ app happ => hbody e app happ) app.temp [] app h
  exact htemp _ _ hloop

theorem flushTempEntries_slots (ipAddr : UInt32) (isAdd : Bool) {app : NatApp δ}
    (h : SlotsOk app) : SlotsOk (flushTempEntries d ipAddr isAdd app) :=
  flushTempEntries_rule (fun rule app h => (addEntry_cacheStep rule app).slotsOk h)
    (fun _ _ h => ⟨h.slot, h.counted⟩) ipAddr isAdd h

/-- Where an operation keeps the slots and the counter right: a connection of
zeros is not deleted while it matches a free slot, and the uninitialised start
of the search in `CacheEntry` lies within the cache. -/
def slotOpOk (app : NatApp δ) : NatOp → Prop
  | .deleteEntry rule => rule.isFree = true → ∀ e ∈ app.cache, e.isFree = false
  | .cacheEntry cnt rule =>
      rule.invalid = true ∨ chkForDup rule app = true ∨ cnt ≤ app.cache.length
  | _ => True

theorem natStep_slots (op : NatOp) {app : NatApp δ} (hok : slotOpOk app op) (h : SlotsOk app) :
    SlotsOk (natStep d app op) := by
  cases op with
  | addTable pubIp => exact (addTable_cacheStep pubIp app).slotsOk h
  | deleteTable pubIp => exact (deleteTable_cacheStep pubIp app).slotsOk h
  | addEntry rule => exact (addEntry_cacheStep rule app).slotsOk h
  | cacheEntry cnt rule => exact (cacheEntry_cacheStep cnt rule hok).slotsOk h
  | deleteEntry rule => exact (deleteEntry_cacheStep rule hok).slotsOk h
  | updatePwrSaveIf clientLanIp => exact (updatePwrSaveIf_cacheStep clientLanIp app).slotsOk h
  | resetPwrSaveIf clientLanIp => exact (resetPwrSaveIf_cacheStep clientLanIp app).slotsOk h
  | delEntriesOnClntDiscon ipAddr => exact (delEntriesOnClntDiscon_cacheStep ipAddr app).slotsOk h
  | delEntriesOnSTAClntDiscon ipAddr =>
      exact (delEntriesOnSTAClntDiscon_cacheStep ipAddr app).slotsOk h
  | addTempEntry newEntry => exact (addTempEntry_cacheStep newEntry app).slotsOk h
  | flushTempEntries ipAddr isAdd => exact flushTempEntries_slots ipAddr isAdd h

theorem slotsOk_init (maxEntries : Nat) (algPorts : List (UInt8 × UInt16)) (drv : δ) :
    SlotsOk (NatApp.init maxEntries algPorts drv) := by
  constructor
  · intro e he
    rw [List.eq_of_mem_replicate he]
    exact Or.inl rfl
  · exact counted_replicate rfl maxEntries

/-- The operations that bring connections into the cache. -/
def NatOp.Inserts : NatOp → Prop
  | .addEntry _ => True
  | .cacheEntry _ _ => True
  | .flushTempEntries _ _ => True
  | _ => False

/-- The slots in use are as they were. -/
def KeepsOccupied (cache cache' : List NatTableEntry) : Prop :=
  ∀ (i : Nat) (e : NatTableEntry), cache[i]? = some e → e.isFree = false → cache'[i]? = some e

theorem keepsOccupied_set {cache before after : List NatTableEntry} {e : NatTableEntry}
    (hsplit : cache = before ++ e :: after) (hfree : e.isFree = true) (e' : NatTableEntry) :
    KeepsOccupied cache (before ++ e' :: after) := by
  intro i f hf hused
  rw [hsplit] at hf
  rcases Nat.lt_trichotomy i before.length with hlt | rfl | hgt
  · rw [List.getElem?_append_left hlt] at hf ⊢
    exact hf
  · rw [getElem?_append_cons] at hf
    cases hf
    rw [hfree] at hused
    cases hused
  · obtain ⟨j, rfl⟩ : ∃ j, i = before.length + (j + 1) := ⟨i - before.length - 1, by omega⟩
    rw [List.getElem?_append_right (Nat.le_add_right _ _), Nat.add_sub_cancel_left,
      List.getElem?_cons_succ] at hf ⊢
    exact hf

theorem addEntry_keeps (rule : NatTableEntry) (app : NatApp δ) :
    KeepsOccupied app.cache (addEntry d rule app).2.cache := by
  have hrefl : KeepsOccupied app.cache app.cache := fun _ _ h _ => h
  rw [addEntry]
  split
  · exact hrefl
  split
  · exact hrefl
  split
  · exact hrefl
  split
  · exact hrefl
  split
  case h_1 => exact hrefl
  case h_2 cnt hcnt =>
    obtain ⟨before, e, after, hsplit, rfl, hfree, -⟩ := split_of_findIdx?_eq_some hcnt
    have hset : ∀ e', KeepsOccupied app.cache (app.cache.set before.length e') := by
      intro e'
      rw [hsplit, set_append_cons]
      exact keepsOccupied_set rfl hfree e'
    split
    · exact hset _
    · dsimp only
      split
      · exact hset _
      · exact hset _

theorem cacheEntry_keeps (cnt : Nat) (rule : NatTableEntry) (app : NatApp δ) :
    KeepsOccupied app.cache (cacheEntry cnt rule app).cache := by
  have hrefl : KeepsOccupied app.cache app.cache := fun _ _ h _ => h
  rw [cacheEntry]
  split
  · exact hrefl
  split
  · exact hrefl
  split
  case h_1 =>
    split
    · exact hrefl
    · exact hrefl
  case h_2 i hi =>
    obtain ⟨before, e, after, hsplit, hlength, hfree⟩ := cacheEntry_split hi
    dsimp only
    rw [← hlength, hsplit, set_append_cons]
    exact keepsOccupied_set rfl hfree _

theorem natStep_keeps {op : NatOp} (hop : op.Inserts) (app : NatApp δ) :
    KeepsOccupied app.cache (natStep d app op).cache := by
  cases op with
  | addEntry rule => exact addEntry_keeps rule app
  | cacheEntry cnt rule => exact cacheEntry_keeps cnt rule app
  | flushTempEntries ipAddr isAdd =>
      refine flushTempEntries_rule (I := fun app' : NatApp δ => KeepsOccupied app.cache app'.cache)
        ?_ (fun _ _ h => h) ipAddr isAdd (fun _ _ h _ => h)
      intro rule app' h i e he hused
      exact addEntry_keeps rule app' i e (h i e he hused) hused
  | _ => cases hop

variable (d) in
/-- In every run whose operations are fit, whatever the driver does, the slots
and the counter are right, and an insertion overwrites no slot in use. -/
theorem slotsOk_of_run (maxEntries : Nat) (algPorts : List (UInt8 × UInt16)) (drv : δ)
    (ops : List NatOp) (app : NatApp δ)
    (hrun : Run (Guarded slotOpOk fun app op app' => app' = natStep d app op)
      (NatApp.init maxEntries algPorts drv) ops app) :
    SlotsOk app ∧ ∀ op : NatOp, op.Inserts → KeepsOccupied app.cache (natStep d app op).cache := by
  constructor
  · refine hrun.invariant (slotsOk_init maxEntries algPorts drv) ?_
    rintro app op app' h ⟨hok, rfl⟩
    exact natStep_slots op hok h
  · exact fun op hop => natStep_keeps hop app

end

theorem slotsOk_smallRun :
    SlotsOk (smallRun.foldl (natStep ruleMapDriver) smallApp) ∧
      ∀ op : NatOp, op.Inserts →
        KeepsOccupied (smallRun.foldl (natStep ruleMapDriver) smallApp).cache
          (natStep ruleMapDriver (smallRun.foldl (natStep ruleMapDriver) smallApp) op).cache := by
  apply slotsOk_of_run ruleMapDriver 4 [] [] smallRun
  refine Run.snoc (Run.snoc (Run.snoc (Run.snoc (Run.snoc (Run.snoc .nil
    ⟨?_, rfl⟩) ⟨?_, rfl⟩) ⟨?_, rfl⟩) ⟨?_, rfl⟩) ⟨?_, rfl⟩) ⟨?_, rfl⟩
  · trivial
  · trivial
  · trivial
  · trivial
  · trivial
  · intro hfree
    exact absurd hfree (by decide)

/-- A closed connection without addresses and ports takes a free slot away from
the counter, and an entry cached past the end is counted. -/
theorem not_slotsOk_miscounted :
    (∃ app, Run (fun app op app' => app' = natStep ruleMapDriver app op) smallApp
      [.deleteEntry NatTableEntry.zeroed] app ∧ ¬ SlotsOk app) ∧
    ∃ app, Run (fun app op app' => app' = natStep ruleMapDriver app op) smallApp
      [.cacheEntry 5 entryA] app ∧ ¬ SlotsOk app := by
  refine ⟨⟨_, Run.snoc .nil rfl, ?_⟩, ⟨_, Run.snoc .nil rfl, ?_⟩⟩
  · intro h
    exact absurd h.counted.count (by decide)
  · intro h
    exact absurd h.counted.count (by decide)

end LibraDevice.NatCache
