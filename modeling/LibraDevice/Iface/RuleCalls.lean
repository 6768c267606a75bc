import LibraDevice.Iface.SoftwareRouting
import Mathlib.Data.List.TakeWhile

/-!
Adding, modifying and deleting rules through the driver's ioctls. A call may fail as a whole,
by the code that the ioctl returns, or for single rules, by their status.
-/

namespace LibraDevice.Iface

open Backhaul (Hdl)

/-- An ioctl's answer to a table of rules: the code that it returns, and the status that it
leaves in each rule. -/
structure Reply where
  retval : Int
  status : Nat → Int

/-- The driver has done for rule `i` what it was asked to. -/
def Reply.done (r : Reply) (i : Nat) : Bool :=
  decide (r.retval = 0) && decide (r.status i = 0)

/-- A rule of a table as the wrappers see it. -/
structure RuleEntry where
  hdl : Hdl
  status : Int
deriving DecidableEq, Repr

abbrev RuleTable := List RuleEntry

def ioctl (r : Reply) (ruleTable : RuleTable) : Int × RuleTable :=
  (r.retval, ruleTable.mapIdx fun i e => { e with status := r.status i })

/-- The rules that are reported to the log, with their status. -/
def failures (ruleTable : RuleTable) : List (Nat × Int) :=
  (ruleTable.mapIdx fun i e => (i, e.status)).filter fun f => decide (f.2 ≠ 0)

/-- `IPACM_Filtering::AddFilteringRule`, with what it logs. -/
def addFilteringRule (r : Reply) (ruleTable : RuleTable) : Bool × List (Nat × Int) :=
  let (retval, ruleTable) := ioctl r ruleTable
  if retval ≠ 0 then (false, failures ruleTable) else (true, failures ruleTable)

/-- `IPACM_Filtering::ModifyFilteringRule`, with what it logs. -/
def modifyFilteringRule (r : Reply) (ruleTable : RuleTable) : Bool × List (Nat × Int) :=
  let (ret, ruleTable) := ioctl r ruleTable
  if ret ≠ 0 then (false, failures ruleTable) else (true, [])

/-- `IPACM_Filtering::DeleteFilteringRule`, with the table that is left. -/
def deleteFilteringRule (r : Reply) (ruleTable : RuleTable) : Bool × RuleTable :=
  let (retval, ruleTable) := ioctl r ruleTable
  if retval ≠ 0 then (false, ruleTable) else (true, ruleTable)

/-- The descriptor of `IPACM_Routing`, and what `fcntl` answers for it. -/
structure RoutingDevice where
  mFd : Int
  res : Int

def RoutingDevice.deviceNodeIsOpened (d : RoutingDevice) : Bool :=
  decide (d.mFd > 0) && decide (d.res ≥ 0)

/-- The driver is asked, and has done for rule `i` what it was asked to. -/
def RoutingDevice.done (d : RoutingDevice) (r : Reply) (i : Nat) : Bool :=
  d.deviceNodeIsOpened && r.done i

/-- `AddRoutingRule` and `DeleteRoutingRule` of `IPACM_Routing`, with the table that is left. -/
def routingCall (d : RoutingDevice) (r : Reply) (ruleTable : RuleTable) : Bool × RuleTable :=
  if !d.deviceNodeIsOpened then (false, ruleTable)
  else
    let (retval, ruleTable) := ioctl r ruleTable
    if retval ≠ 0 then (false, ruleTable) else (true, ruleTable)

def addRoutingRule := routingCall

def deleteRoutingRule := routingCall

/-- `IPACM_Routing::DeleteRoutingHdl`; `malloc` tells whether the request could be allocated. -/
def deleteRoutingHdl (malloc : Bool) (d : RoutingDevice) (r : Reply) (rtRuleHdl : Hdl) : Bool :=
  let res := true
  if rtRuleHdl = 0 then res
  else if !malloc then false
  else
    match deleteRoutingRule d r [⟨rtRuleHdl, -1⟩] with
    | (deleted, rtRule) =>
        -- `goto fail` stands in front of `res = false`
        if deleted = false ∨ rtRule.any (fun e => decide (e.status ≠ 0)) then res
        else res

/-- What an ioctl for one handle of a list deletes, with its position. -/
def deletedBy (r : Reply) (cnt : Nat) (hdl : Hdl) : List (Hdl × Nat) :=
  if r.done 0 then [(hdl, cnt)] else []

/-- The loop of `DeleteFilteringHdls` from a position on, with what the driver deletes. -/
def deleteHdls (reply : Nat → Reply) : Nat → List Hdl → Bool × List (Hdl × Nat)
  | _, [] => (true, [])
  | cnt, hdl :: hdls =>
      if hdl = 0 then deleteHdls reply (cnt + 1) hdls
      else
        match deleteFilteringRule (reply cnt) [⟨hdl, -1⟩] with
        | (deleted, fltRule) =>
            if deleted = false then (false, deletedBy (reply cnt) cnt hdl)
            else if fltRule.any (fun e => decide (e.status ≠ 0)) then
              (false, deletedBy (reply cnt) cnt hdl)
            else
              let rest := deleteHdls reply (cnt + 1) hdls
              (rest.1, deletedBy (reply cnt) cnt hdl ++ rest.2)

/-- `IPACM_Filtering::DeleteFilteringHdls`. -/
def deleteFilteringHdls (malloc : Bool) (reply : Nat → Reply) (fltRuleHdls : List Hdl) :
    Bool × List (Hdl × Nat) :=
  if !malloc then (false, []) else deleteHdls reply 0 fltRuleHdls

/-- The handles that are not zero, with their positions. -/
def toDelete (cnt : Nat) (hdls : List Hdl) : List (Hdl × Nat) :=
  (hdls.zipIdx cnt).filter fun e => decide (e.1 ≠ 0)

theorem toDelete_cons (cnt : Nat) (hdl : Hdl) (hdls : List Hdl) :
    toDelete cnt (hdl :: hdls) =
      if hdl = 0 then toDelete (cnt + 1) hdls else (hdl, cnt) :: toDelete (cnt + 1) hdls := by
  rw [toDelete, List.zipIdx_cons, List.filter_cons]
  by_cases h : hdl = 0
  · simp [h, toDelete]
  · simp [h, toDelete]

theorem toDelete_ne_nil (cnt : Nat) (hdls : List Hdl) :
    toDelete cnt hdls ≠ [] ↔ ∃ hdl ∈ hdls, hdl ≠ 0 := by
  induction hdls generalizing cnt with
  | nil => simp [toDelete]
  | cons hdl hdls ih =>
      rw [toDelete_cons]
      by_cases h : hdl = 0
      · rw [if_pos h, ih]
        simp [h]
      · simp [h]

theorem done_eq_false_or (r : Reply) :
    (r.done 0 = true ∧ r.retval = 0 ∧ r.status 0 = 0) ∨
      r.done 0 = false ∧ (r.retval ≠ 0 ∨ r.retval = 0 ∧ r.status 0 ≠ 0) := by
  simp only [Reply.done]
  by_cases hcode : r.retval = 0
  · by_cases hstatus : r.status 0 = 0
    · simp [hcode, hstatus]
    · simp [hcode, hstatus]
  · simp [hcode]

theorem deleteHdls_cons (reply : Nat → Reply) (cnt : Nat) {hdl : Hdl} (h : hdl ≠ 0)
    (hdls : List Hdl) :
    deleteHdls reply cnt (hdl :: hdls) =
      if (reply cnt).done 0 then
        ((deleteHdls reply (cnt + 1) hdls).1,
          (hdl, cnt) :: (deleteHdls reply (cnt + 1) hdls).2)
      else (false, []) := by
  rw [deleteHdls, if_neg h]
  rcases done_eq_false_or (reply cnt) with ⟨hdone, hcode, hstatus⟩ |
    ⟨hdone, hcode | ⟨hcode, hstatus⟩⟩
  · simp [deleteFilteringRule, ioctl, hcode, hstatus, deletedBy, hdone]
  · simp [deleteFilteringRule, ioctl, hcode, deletedBy, hdone]
  · simp [deleteFilteringRule, ioctl, hcode, hstatus, deletedBy, hdone]

theorem deleteHdls_eq (reply : Nat → Reply) (cnt : Nat) (hdls : List Hdl) :
    deleteHdls reply cnt hdls =
      ((toDelete cnt hdls).all fun e => (reply e.2).done 0,
        (toDelete cnt hdls).takeWhile fun e => (reply e.2).done 0) := by
  induction hdls generalizing cnt with
  | nil => rfl
  | cons hdl hdls ih =>
      rw [toDelete_cons]
      by_cases h : hdl = 0
      · rw [deleteHdls, if_pos h, if_pos h, ih]
      · rw [deleteHdls_cons reply cnt h, if_neg h, ih, List.all_cons, List.takeWhile_cons]
        by_cases hdone : (reply cnt).done 0 = true
        · simp [hdone]
        · simp [hdone]

/-- What is wanted of an answer about `n` rules. -/
def ReportsAll (answer : Bool) (done : Nat → Bool) (n : Nat) : Prop :=
  answer = true ↔ ∀ i < n, done i = true

theorem reportsAll_code_iff (code : Bool) (status : Nat → Int) (n : Nat) :
    ReportsAll code (fun i => code && decide (status i = 0)) n ↔
      if code = true then ∀ i < n, status i = 0 else 0 < n := by
  cases code with
  | true => simp [ReportsAll]
  | false =>
      simp only [ReportsAll, Bool.false_and, Bool.false_eq_true, false_iff, if_false,
        not_forall]
      constructor
      · rintro ⟨i, hi, -⟩
        omega
      · intro hn
        exact ⟨0, hn, id⟩

theorem addFilteringRule_answer (r : Reply) (ruleTable : RuleTable) :
    (addFilteringRule r ruleTable).1 = decide (r.retval = 0) := by
  simp only [addFilteringRule, ioctl]
  split_ifs with h
  · simp [h]
  · simp [not_not.mp h]

theorem modifyFilteringRule_answer (r : Reply) (ruleTable : RuleTable) :
    (modifyFilteringRule r ruleTable).1 = decide (r.retval = 0) := by
  simp only [modifyFilteringRule, ioctl]
  split_ifs with h
  · simp [h]
  · simp [not_not.mp h]

theorem routingCall_answer (d : RoutingDevice) (r : Reply) (ruleTable : RuleTable) :
    (routingCall d r ruleTable).1 = (d.deviceNodeIsOpened && decide (r.retval = 0)) := by
  cases hopen : d.deviceNodeIsOpened with
  | true =>
      by_cases hcode : r.retval = 0
      · simp [routingCall, ioctl, hopen, hcode]
      · simp [routingCall, ioctl, hopen, hcode]
  | false => simp [routingCall, hopen]

theorem deleteRoutingHdl_answer (malloc : Bool) (d : RoutingDevice) (r : Reply) (hdl : Hdl) :
    deleteRoutingHdl malloc d r hdl = (decide (hdl = 0) || malloc) := by
  by_cases h : hdl = 0
  · simp [deleteRoutingHdl, h]
  · cases malloc with
    | true => simp [deleteRoutingHdl, h]
    | false => simp [deleteRoutingHdl, h]

/-- The handle has been deleted, if there was one to delete. -/
def HdlDeleted (malloc : Bool) (d : RoutingDevice) (r : Reply) (hdl : Hdl) : Prop :=
  hdl ≠ 0 → malloc = true ∧ d.done r 0 = true

theorem deleteRoutingHdl_right_iff (malloc : Bool) (d : RoutingDevice) (r : Reply) (hdl : Hdl) :
    (deleteRoutingHdl malloc d r hdl = true ↔ HdlDeleted malloc d r hdl) ↔
      (hdl ≠ 0 → malloc = true → d.done r 0 = true) := by
  rw [deleteRoutingHdl_answer]
  by_cases h : hdl = 0
  · simp [HdlDeleted, h]
  · cases malloc with
    | true => simp [HdlDeleted, h]
    | false => simp [HdlDeleted, h]

/-- The handle at a position cannot be deleted. -/
def FailsAt (ok : Nat → Bool) (hdls : List Hdl) (pos : Nat) : Prop :=
  ∃ hdl, hdls[pos]? = some hdl ∧ hdl ≠ 0 ∧ ok pos = false

theorem failsAt_succ (ok : Nat → Bool) (hdl : Hdl) (hdls : List Hdl) (pos : Nat) :
    FailsAt ok (hdl :: hdls) (pos + 1) ↔ FailsAt (fun i => ok (i + 1)) hdls pos := by
  simp only [FailsAt, List.getElem?_cons_succ]

theorem takeWhile_toDelete (ok : Nat → Bool) (cnt : Nat) (hdls : List Hdl)
    (h : ((toDelete cnt hdls).all fun e => ok e.2) = false) :
    ∃ pos, FailsAt (fun i => ok (cnt + i)) hdls pos ∧
      (∀ q < pos, ¬ FailsAt (fun i => ok (cnt + i)) hdls q) ∧
      ((toDelete cnt hdls).takeWhile fun e => ok e.2) = toDelete cnt (hdls.take pos) := by
  induction hdls generalizing cnt with
  | nil => exact absurd h Bool.false_ne_true.symm
  | cons hdl hdls ih =>
      have hshift : (fun i => ok (cnt + 1 + i)) = fun i => ok (cnt + (i + 1)) := by
        funext i
        rw [Nat.add_assoc, Nat.add_comm 1]
      -- behind a first handle that does not fail, the failure is the rest's
      have hbehind : ((toDelete (cnt + 1) hdls).all fun e => ok e.2) = false →
          ¬ FailsAt (fun i => ok (cnt + i)) (hdl :: hdls) 0 →
          ∃ pos, FailsAt (fun i => ok (cnt + i)) (hdl :: hdls) (pos + 1) ∧
            (∀ q < pos + 1, ¬ FailsAt (fun i => ok (cnt + i)) (hdl :: hdls) q) ∧
            ((toDelete (cnt + 1) hdls).takeWhile fun e => ok e.2) =
              toDelete (cnt + 1) (hdls.take pos) := by
        intro hrest hfirst
        obtain ⟨pos, hfails, hbefore, htake⟩ := ih (cnt + 1) hrest
        rw [hshift] at hfails hbefore
        refine ⟨pos, (failsAt_succ _ _ _ _).mpr hfails, fun q hq => ?_, htake⟩
        cases q with
        | zero => exact hfirst
        | succ q =>
            rw [failsAt_succ]
            exact hbefore q (by omega)
      rw [toDelete_cons] at h ⊢
      by_cases hzero : hdl = 0
      · rw [if_pos hzero] at h ⊢
        obtain ⟨pos, hfails, hbefore, htake⟩ := hbehind h (by simp [FailsAt, hzero])
        refine ⟨pos + 1, hfails, hbefore, ?_⟩
        rw [htake, List.take_succ_cons, toDelete_cons, if_pos hzero]
      · rw [if_neg hzero, List.all_cons] at h
        rw [if_neg hzero, List.takeWhile_cons]
        by_cases hok : ok cnt = true
        · rw [hok, Bool.true_and] at h
          obtain ⟨pos, hfails, hbefore, htake⟩ := hbehind h (by simp [FailsAt, hok])
          refine ⟨pos + 1, hfails, hbefore, ?_⟩
          rw [if_pos hok, htake, List.take_succ_cons, toDelete_cons, if_neg hzero]
        · refine ⟨0, ⟨hdl, rfl, hzero, (Bool.not_eq_true _).mp hok⟩,
            fun q hq => absurd hq (Nat.not_lt_zero q), ?_⟩
          rw [if_neg hok]
          rfl

/-- What is wanted of deleting a list of handles. -/
structure DeletesRight (malloc : Bool) (reply : Nat → Reply) (hdls : List Hdl) : Prop where
  answer : (deleteFilteringHdls malloc reply hdls).1 = true ↔
    ∀ e ∈ toDelete 0 hdls, e ∈ (deleteFilteringHdls malloc reply hdls).2
  stopped : (deleteFilteringHdls malloc reply hdls).1 = false →
    ∃ pos, FailsAt (fun i => malloc && (reply i).done 0) hdls pos ∧
      (∀ q < pos, ¬ FailsAt (fun i => malloc && (reply i).done 0) hdls q) ∧
      (deleteFilteringHdls malloc reply hdls).2 = toDelete 0 (hdls.take pos)

theorem deleteFilteringHdls_right {malloc : Bool} {reply : Nat → Reply} {hdls : List Hdl}
    (h : malloc = true ∨ toDelete 0 hdls ≠ []) : DeletesRight malloc reply hdls := by
  have hrun : deleteFilteringHdls malloc reply hdls =
      ((toDelete 0 hdls).all fun e => malloc && (reply e.2).done 0,
        (toDelete 0 hdls).takeWhile fun e => malloc && (reply e.2).done 0) := by
    cases malloc with
    | true =>
        simp only [Bool.true_and]
        exact deleteHdls_eq reply 0 hdls
    | false =>
        rcases hlist : toDelete 0 hdls with _ | ⟨e, es⟩
        · rcases h with h | h
          · exact absurd h Bool.false_ne_true
          · exact absurd hlist h
        · rfl
  constructor
  · rw [hrun]
    constructor
    · intro hall
      rw [List.takeWhile_eq_self_iff.mpr fun e he => List.all_eq_true.mp hall e he]
      exact fun e he => he
    · intro hin
      refine List.all_eq_true.mpr fun e he => ?_
      exact List.mem_takeWhile_imp (p := fun e : Hdl × Nat => malloc && (reply e.2).done 0)
        (hin e he)
  · intro hfalse
    rw [hrun] at hfalse ⊢
    obtain ⟨pos, hfails, hbefore, htake⟩ :=
      takeWhile_toDelete (fun i => malloc && (reply i).done 0) 0 hdls hfalse
    simp only [Nat.zero_add] at hfails hbefore
    exact ⟨pos, hfails, hbefore, htake⟩

theorem deleteFilteringHdls_right_iff (malloc : Bool) (reply : Nat → Reply) (hdls : List Hdl) :
    DeletesRight malloc reply hdls ↔ (malloc = true ∨ toDelete 0 hdls ≠ []) := by
  constructor
  · intro h
    cases malloc with
    | true => exact Or.inl rfl
    | false =>
        refine Or.inr fun hnil => ?_
        have hanswer := h.answer
        rw [hnil] at hanswer
        exact absurd (hanswer.mpr fun e he => absurd he List.not_mem_nil) Bool.false_ne_true
  · exact deleteFilteringHdls_right

/-- The conditions under which the wrappers tell the truth. -/
theorem wrappers_right_iff (malloc : Bool) (d : RoutingDevice) (r : Reply) (reply : Nat → Reply)
    (ruleTable : RuleTable) (hdl : Hdl) (hdls : List Hdl) :
    (ReportsAll (addFilteringRule r ruleTable).1 r.done ruleTable.length ↔
      if r.retval = 0 then ∀ i < ruleTable.length, r.status i = 0 else 0 < ruleTable.length) ∧
    (ReportsAll (modifyFilteringRule r ruleTable).1 r.done ruleTable.length ↔
      if r.retval = 0 then ∀ i < ruleTable.length, r.status i = 0 else 0 < ruleTable.length) ∧
    (ReportsAll (addRoutingRule d r ruleTable).1 (d.done r) ruleTable.length ↔
      if d.deviceNodeIsOpened = true ∧ r.retval = 0 then
        ∀ i < ruleTable.length, r.status i = 0
      else 0 < ruleTable.length) ∧
    ((deleteRoutingHdl malloc d r hdl = true ↔ HdlDeleted malloc d r hdl) ↔
      (hdl ≠ 0 → malloc = true → d.done r 0 = true)) ∧
    (DeletesRight malloc reply hdls ↔ (malloc = true ∨ ∃ hdl ∈ hdls, hdl ≠ 0)) := by
  refine ⟨?_, ?_, ?_, deleteRoutingHdl_right_iff malloc d r hdl, ?_⟩
  · have h := reportsAll_code_iff (decide (r.retval = 0)) r.status ruleTable.length
    simp only [decide_eq_true_eq] at h
    rw [addFilteringRule_answer]
    exact h
  · have h := reportsAll_code_iff (decide (r.retval = 0)) r.status ruleTable.length
    simp only [decide_eq_true_eq] at h
    rw [modifyFilteringRule_answer]
    exact h
  · have h := reportsAll_code_iff (d.deviceNodeIsOpened && decide (r.retval = 0)) r.status
      ruleTable.length
    have hdone : d.done r = fun i =>
        d.deviceNodeIsOpened && decide (r.retval = 0) && decide (r.status i = 0) := by
      funext i
      rw [RoutingDevice.done, Reply.done, Bool.and_assoc]
    simp only [Bool.and_eq_true, decide_eq_true_eq] at h
    rw [addRoutingRule, routingCall_answer, hdone]
    exact h
  · rw [deleteFilteringHdls_right_iff]
    refine or_congr Iff.rfl ?_
    exact toDelete_ne_nil 0 hdls

/-- The driver refuses to delete the routing rule 5, and the wrapper reports success. -/
theorem refused_reported_deleted :
    ¬ ((∀ r ruleTable, ReportsAll (addFilteringRule r ruleTable).1 r.done ruleTable.length) ∧
      (∀ r ruleTable, ReportsAll (modifyFilteringRule r ruleTable).1 r.done ruleTable.length) ∧
      (∀ d r ruleTable, ReportsAll (addRoutingRule d r ruleTable).1 (d.done r)
        ruleTable.length) ∧
      (∀ malloc d r hdl,
        (deleteRoutingHdl malloc d r hdl = true ↔ HdlDeleted malloc d r hdl)) ∧
      ∀ malloc reply hdls, DeletesRight malloc reply hdls) := by
  rintro ⟨-, -, -, hdelete, -⟩
  have hright := hdelete true ⟨3, 0⟩ ⟨-1, fun _ => 0⟩ 5
  rw [deleteRoutingHdl_right_iff] at hright
  exact absurd (hright (by decide) rfl) (by decide)

end LibraDevice.Iface
