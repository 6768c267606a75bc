import Mathlib.Data.Finset.Basic
import LibraDevice.Lib.StepRun
import LibraDevice.Lib.SlotTable

/-!
The resource manager dependencies of `IPACM_Config`, against the set of the
dependencies that have been added and not deleted.
-/

namespace LibraDevice.Rm

open StepRun Sweep

/-- `ipa_rm_resource_name`; the names the table does not use are numbered. -/
inductive RmResource where
  | q6Prod
  | usbProd
  | hsicProd
  | wlanProd
  | q6Cons
  | usbCons
  | wlanCons
  | other (n : Nat)
deriving DecidableEq, Repr

/-- `ipa_ioc_rm_dependency`: `resource_name` and `depends_on_name`. -/
abbrev Dependency := RmResource × RmResource

/-- `ipa_rm_client`. -/
structure RmClient where
  producerRm1 : RmResource
  consumerRm1 : RmResource
  producerRm2 : RmResource
  consumerRm2 : RmResource
  producer1Up : Bool
  consumer1Up : Bool
  rmSet : Bool
  rxBypassIpa : Bool
deriving DecidableEq, Repr

def RmClient.init (producerRm1 consumerRm1 producerRm2 consumerRm2 : RmResource) : RmClient where
  producerRm1 := producerRm1
  consumerRm1 := consumerRm1
  producerRm2 := producerRm2
  consumerRm2 := consumerRm2
  producer1Up := false
  consumer1Up := false
  rmSet := false
  rxBypassIpa := false

/-- The dependencies present; there are none to speak of once one has been added
while it was present or deleted while it was not. -/
abbrev Dependencies := Option (Finset Dependency)

/-- `IPA_IOC_RM_ADD_DEPENDENCY`. -/
def addDependency (dep : Dependency) : Dependencies → Dependencies
  | none => none
  | some deps => if dep ∈ deps then none else some (insert dep deps)

/-- `IPA_IOC_RM_DEL_DEPENDENCY`. -/
def delDependency (dep : Dependency) : Dependencies → Dependencies
  | none => none
  | some deps => if dep ∈ deps then some (deps.erase dep) else none

/-- The entries of `ipa_rm_tbl` that are in use, `ipa_rm_a2_check`, and what the
calls have led to. -/
structure RmState where
  rmTbl : List RmClient
  rmA2Check : Int
  deps : Dependencies

/-- After `IPACM_Config::Init`. -/
def RmState.init : RmState where
  rmTbl :=
    [.init .wlanProd .q6Cons .q6Prod .wlanCons,
      .init .usbProd .q6Cons .q6Prod .usbCons,
      .init .wlanProd .usbCons .usbProd .wlanCons]
  rmA2Check := 0
  deps := some ∅

namespace RmClient

/-- The dependency that `rx_bypass_ipa` skips. -/
def dep1 (e : RmClient) : Dependency := (e.producerRm1, e.consumerRm1)

def dep2 (e : RmClient) : Dependency := (e.producerRm2, e.consumerRm2)

/-- "SETUP RM_table entry's bi-direction dependency". -/
def setup (e : RmClient) (deps : Dependencies) : RmClient × Dependencies :=
  let deps := if e.rxBypassIpa then deps else addDependency e.dep1 deps
  ({ e with rmSet := true }, addDependency e.dep2 deps)

/-- "delete bi-directional dependency". -/
def teardown (e : RmClient) (deps : Dependencies) : RmClient × Dependencies :=
  let deps := if e.rxBypassIpa then deps else delDependency e.dep1 deps
  ({ e with rmSet := false }, delDependency e.dep2 deps)

/-- One turn of `AddRmDepend`, where the entry's producer has come up. -/
def addProducer (rxBypassIpa : Bool) (e : RmClient) (deps : Dependencies) :
    RmClient × Dependencies :=
  if e.consumer1Up = true ∧ e.rmSet = false then
    RmClient.setup { e with producer1Up := true, rxBypassIpa := rxBypassIpa } deps
  else ({ e with producer1Up := true, rxBypassIpa := rxBypassIpa }, deps)

def addConsumer (e : RmClient) (deps : Dependencies) : RmClient × Dependencies :=
  if e.producer1Up = true ∧ e.rmSet = false then
    RmClient.setup { e with consumer1Up := true } deps
  else ({ e with consumer1Up := true }, deps)

/-- One turn of `DelRmDepend`, where the entry's producer has gone down. -/
def delProducer (e : RmClient) (deps : Dependencies) : RmClient × Dependencies :=
  let r := if e.rmSet then e.teardown deps else (e, deps)
  ({ r.1 with producer1Up := false, rxBypassIpa := false }, r.2)

/-- `rmA2Check` is compared with 1, so that the entry goes down while two or more
routes are left. -/
def delConsumer (rmA2Check : Int) (e : RmClient) (deps : Dependencies) :
    RmClient × Dependencies :=
  if e.consumerRm1 = .q6Cons ∧ rmA2Check = 1 then (e, deps)
  else
    let r := if e.rmSet then e.teardown deps else (e, deps)
    ({ r.1 with consumer1Up := false }, r.2)

def addTurn (rm1 : RmResource) (rxBypassIpa : Bool) (e : RmClient) (deps : Dependencies) :
    RmClient × Dependencies :=
  let r := if rm1 = e.producerRm1 then e.addProducer rxBypassIpa deps else (e, deps)
  if rm1 = r.1.consumerRm1 then r.1.addConsumer r.2 else r

def delTurn (rm1 : RmResource) (rmA2Check : Int) (e : RmClient) (deps : Dependencies) :
    RmClient × Dependencies :=
  let r := if rm1 = e.producerRm1 then e.delProducer deps else (e, deps)
  if rm1 = r.1.consumerRm1 then r.1.delConsumer rmA2Check r.2 else r

end RmClient

/-- `IPACM_Config::AddRmDepend`. -/
def addRmDepend (rm1 : RmResource) (rxBypassIpa : Bool) (s : RmState) : RmState :=
  let swept := sweep (RmClient.addTurn rm1 rxBypassIpa) s.rmTbl s.deps
  { rmTbl := swept.1
    rmA2Check := if rm1 = .q6Cons then s.rmA2Check + 1 else s.rmA2Check
    deps := swept.2 }

/-- `IPACM_Config::DelRmDepend`. -/
def delRmDepend (rm1 : RmResource) (s : RmState) : RmState :=
  let rmA2Check := if rm1 = .q6Cons then s.rmA2Check - 1 else s.rmA2Check
  let swept := sweep (RmClient.delTurn rm1 rmA2Check) s.rmTbl s.deps
  { rmTbl := swept.1
    rmA2Check := rmA2Check
    deps := swept.2 }

inductive RmCall where
  | add (rm1 : RmResource) (rxBypassIpa : Bool)
  | del (rm1 : RmResource)

def rmStep (s : RmState) : RmCall → RmState
  | .add rm1 rxBypassIpa => addRmDepend rm1 rxBypassIpa s
  | .del rm1 => delRmDepend rm1 s

/-- The dependencies of an entry are present exactly while it is set up, except
for the one that it skips. -/
structure EntryOk (deps : Finset Dependency) (e : RmClient) : Prop where
  dep1 : e.dep1 ∈ deps ↔ e.rmSet = true ∧ e.rxBypassIpa = false
  dep2 : e.dep2 ∈ deps ↔ e.rmSet = true
  ne : e.dep1 ≠ e.dep2

/-- What one turn may do: the calls are in place, only the dependencies of the
entry change, and it keeps its names. -/
structure EntryStep (deps : Finset Dependency) (e : RmClient)
    (r : RmClient × Dependencies) : Prop where
  ok : ∃ deps', r.2 = some deps' ∧ EntryOk deps' r.1 ∧
    ∀ dep, dep ≠ e.dep1 → dep ≠ e.dep2 → (dep ∈ deps' ↔ dep ∈ deps)
  dep1 : r.1.dep1 = e.dep1
  dep2 : r.1.dep2 = e.dep2

namespace EntryOk

variable {deps : Finset Dependency} {e : RmClient}

theorem stay (h : EntryOk deps e) : EntryStep deps e (e, some deps) :=
  ⟨⟨deps, rfl, h, fun _ _ _ => Iff.rfl⟩, rfl, rfl⟩

theorem setup (h : EntryOk deps e) (hset : e.rmSet = false) :
    EntryStep deps e (e.setup (some deps)) := by
  have h1 : e.dep1 ∉ deps := by
    rw [h.dep1, hset]
    exact fun hno => Bool.noConfusion hno.1
  have h2 : e.dep2 ∉ deps := by
    rw [h.dep2, hset]
    exact Bool.noConfusion
  rw [RmClient.setup]
  cases hbypass : e.rxBypassIpa with
  | true =>
      rw [if_pos rfl, addDependency, if_neg h2]
      refine ⟨⟨_, rfl, ⟨?_, ?_, h.ne⟩, ?_⟩, rfl, rfl⟩
      · change e.dep1 ∈ insert e.dep2 deps ↔ true = true ∧ true = false
        rw [Finset.mem_insert]
        constructor
        · rintro (heq | hin)
          · exact absurd heq h.ne
          · exact absurd hin h1
        · exact fun hno => Bool.noConfusion hno.2
      · exact iff_of_true (Finset.mem_insert_self _ _) rfl
      · intro dep _ hne
        rw [Finset.mem_insert]
        exact or_iff_right hne
  | false =>
      have h2' : e.dep2 ∉ insert e.dep1 deps := by
        rw [Finset.mem_insert]
        rintro (heq | hin)
        · exact h.ne heq.symm
        · exact h2 hin
      rw [if_neg Bool.false_ne_true, addDependency, if_neg h1,
        addDependency, if_neg h2']
      refine ⟨⟨_, rfl, ⟨?_, ?_, h.ne⟩, ?_⟩, rfl, rfl⟩
      · exact iff_of_true (Finset.mem_insert_of_mem (Finset.mem_insert_self _ _)) ⟨rfl, rfl⟩
      · exact iff_of_true (Finset.mem_insert_self _ _) rfl
      · intro dep hne1 hne2
        rw [Finset.mem_insert, Finset.mem_insert]
        exact (or_iff_right hne2).trans (or_iff_right hne1)

theorem teardown (h : EntryOk deps e) (hset : e.rmSet = true) :
    EntryStep deps e (e.teardown (some deps)) := by
  have h2 : e.dep2 ∈ deps := h.dep2.mpr hset
  rw [RmClient.teardown]
  cases hbypass : e.rxBypassIpa with
  | true =>
      have h1 : e.dep1 ∉ deps := by
        rw [h.dep1, hbypass]
        exact fun hno => Bool.noConfusion hno.2
      rw [if_pos rfl, delDependency, if_pos h2]
      refine ⟨⟨_, rfl, ⟨?_, ?_, h.ne⟩, ?_⟩, rfl, rfl⟩
      · exact iff_of_false (fun hin => h1 (Finset.mem_of_mem_erase hin))
          fun hno => Bool.noConfusion hno.1
      · exact iff_of_false (Finset.notMem_erase _ _) Bool.noConfusion
      · intro dep _ hne
        rw [Finset.mem_erase]
        exact and_iff_right hne
  | false =>
      have h1 : e.dep1 ∈ deps := h.dep1.mpr ⟨hset, hbypass⟩
      have h2' : e.dep2 ∈ deps.erase e.dep1 := Finset.mem_erase.mpr ⟨h.ne.symm, h2⟩
      rw [if_neg Bool.false_ne_true, delDependency, if_pos h1,
        delDependency, if_pos h2']
      refine ⟨⟨_, rfl, ⟨?_, ?_, h.ne⟩, ?_⟩, rfl, rfl⟩
      · exact iff_of_false
          (fun hin => Finset.notMem_erase _ _ (Finset.mem_of_mem_erase hin))
          fun hno => Bool.noConfusion hno.1
      · exact iff_of_false (Finset.notMem_erase _ _) Bool.noConfusion
      · intro dep hne1 hne2
        rw [Finset.mem_erase, Finset.mem_erase]
        exact (and_iff_right hne2).trans (and_iff_right hne1)

theorem addConsumer (h : EntryOk deps e) : EntryStep deps e (e.addConsumer (some deps)) := by
  have hup : EntryOk deps { e with consumer1Up := true } := ⟨h.dep1, h.dep2, h.ne⟩
  rw [RmClient.addConsumer]
  split
  case isTrue hset =>
    obtain ⟨hok, hdep1, hdep2⟩ := hup.setup hset.2
    exact ⟨hok, hdep1, hdep2⟩
  case isFalse => exact ⟨⟨deps, rfl, hup, fun _ _ _ => Iff.rfl⟩, rfl, rfl⟩

theorem addProducer (h : EntryOk deps e) {rxBypassIpa : Bool}
    (hbypass : e.rmSet = true → e.rxBypassIpa = rxBypassIpa) :
    EntryStep deps e (e.addProducer rxBypassIpa (some deps)) := by
  have hup : EntryOk deps { e with producer1Up := true, rxBypassIpa := rxBypassIpa } := by
    refine ⟨?_, h.dep2, h.ne⟩
    change e.dep1 ∈ deps ↔ e.rmSet = true ∧ rxBypassIpa = false
    rw [h.dep1]
    constructor
    · rintro ⟨hset, hno⟩
      exact ⟨hset, (hbypass hset).symm.trans hno⟩
    · rintro ⟨hset, hno⟩
      exact ⟨hset, (hbypass hset).trans hno⟩
  rw [RmClient.addProducer]
  split
  case isTrue hset =>
    obtain ⟨hok, hdep1, hdep2⟩ := hup.setup hset.2
    exact ⟨hok, hdep1, hdep2⟩
  case isFalse => exact ⟨⟨deps, rfl, hup, fun _ _ _ => Iff.rfl⟩, rfl, rfl⟩

theorem down (h : EntryOk deps e) :
    EntryStep deps e (if e.rmSet then e.teardown (some deps) else (e, some deps)) ∧
      (if e.rmSet then e.teardown (some deps) else (e, some deps)).1.rmSet = false := by
  cases hset : e.rmSet with
  | true => exact ⟨h.teardown hset, rfl⟩
  | false => exact ⟨h.stay, hset⟩

theorem delProducer (h : EntryOk deps e) : EntryStep deps e (e.delProducer (some deps)) := by
  obtain ⟨⟨⟨deps', hdeps, hok, hframe⟩, hdep1, hdep2⟩, hdown⟩ := h.down
  refine ⟨⟨deps', hdeps, ⟨?_, hok.dep2, hok.ne⟩, hframe⟩, hdep1, hdep2⟩
  apply iff_of_false
  · intro hin
    have hset := (hok.dep1.mp hin).1
    rw [hdown] at hset
    cases hset
  · rintro ⟨hset, -⟩
    exact Bool.noConfusion (hdown.symm.trans hset)

theorem delConsumer (h : EntryOk deps e) (rmA2Check : Int) :
    EntryStep deps e (e.delConsumer rmA2Check (some deps)) := by
  rw [RmClient.delConsumer]
  split
  case isTrue => exact h.stay
  case isFalse =>
    obtain ⟨⟨⟨deps', hdeps, hok, hframe⟩, hdep1, hdep2⟩, -⟩ := h.down
    exact ⟨⟨deps', hdeps, ⟨hok.dep1, hok.dep2, hok.ne⟩, hframe⟩, hdep1, hdep2⟩

end EntryOk

theorem EntryStep.trans {deps : Finset Dependency} {e : RmClient} {r r' : RmClient × Dependencies}
    (h : EntryStep deps e r)
    (h' : ∀ deps', EntryOk deps' r.1 → r.2 = some deps' → EntryStep deps' r.1 r') :
    EntryStep deps e r' := by
  obtain ⟨⟨deps', hdeps, hok, hframe⟩, hdep1, hdep2⟩ := h
  obtain ⟨⟨deps'', hdeps', hok', hframe'⟩, hdep1', hdep2'⟩ := h' deps' hok hdeps
  refine ⟨⟨deps'', hdeps', hok', ?_⟩, hdep1'.trans hdep1, hdep2'.trans hdep2⟩
  intro dep hne1 hne2
  rw [hframe' dep (hdep1.symm ▸ hne1) (hdep2.symm ▸ hne2)]
  exact hframe dep hne1 hne2

theorem addTurn_step {deps : Finset Dependency} {e : RmClient} (h : EntryOk deps e)
    {rm1 : RmResource} {rxBypassIpa : Bool}
    (hbypass : e.producerRm1 = rm1 → e.rmSet = true → e.rxBypassIpa = rxBypassIpa) :
    EntryStep deps e (e.addTurn rm1 rxBypassIpa (some deps)) := by
  have hproducer : EntryStep deps e
      (if rm1 = e.producerRm1 then e.addProducer rxBypassIpa (some deps) else (e, some deps)) := by
    split
    case isTrue hrm => exact h.addProducer (hbypass hrm.symm)
    case isFalse => exact h.stay
  rw [RmClient.addTurn]
  generalize (if rm1 = e.producerRm1 then e.addProducer rxBypassIpa (some deps)
    else (e, some deps)) = r at hproducer ⊢
  split
  case isFalse => exact hproducer
  case isTrue =>
    apply hproducer.trans
    intro deps' hok hdeps
    rw [hdeps]
    exact hok.addConsumer

theorem delTurn_step {deps : Finset Dependency} {e : RmClient} (h : EntryOk deps e)
    (rm1 : RmResource) (rmA2Check : Int) :
    EntryStep deps e (e.delTurn rm1 rmA2Check (some deps)) := by
  have hproducer : EntryStep deps e
      (if rm1 = e.producerRm1 then e.delProducer (some deps) else (e, some deps)) := by
    split
    case isTrue => exact h.delProducer
    case isFalse => exact h.stay
  rw [RmClient.delTurn]
  generalize (if rm1 = e.producerRm1 then e.delProducer (some deps)
    else (e, some deps)) = r at hproducer ⊢
  split
  case isFalse => exact hproducer
  case isTrue =>
    apply hproducer.trans
    intro deps' hok hdeps
    rw [hdeps]
    exact hok.delConsumer rmA2Check

/-- Two entries have no dependency in common. -/
def Apart (e f : RmClient) : Prop :=
  e.dep1 ≠ f.dep1 ∧ e.dep1 ≠ f.dep2 ∧ e.dep2 ≠ f.dep1 ∧ e.dep2 ≠ f.dep2

/-- Every entry is in order, and no two of them share a dependency. -/
structure TableOk (rmTbl : List RmClient) (deps : Finset Dependency) : Prop where
  entry : ∀ e ∈ rmTbl, EntryOk deps e
  apart : rmTbl.Pairwise Apart

theorem Apart.symm {e f : RmClient} (h : Apart e f) : Apart f e :=
  ⟨h.1.symm, h.2.2.1.symm, h.2.1.symm, h.2.2.2.symm⟩

theorem EntryOk.frame {deps deps' : Finset Dependency} {e f : RmClient} (h : EntryOk deps f)
    (hapart : Apart f e)
    (hframe : ∀ dep, dep ≠ e.dep1 → dep ≠ e.dep2 → (dep ∈ deps' ↔ dep ∈ deps)) :
    EntryOk deps' f :=
  ⟨(hframe f.dep1 hapart.1 hapart.2.1).trans h.dep1,
    (hframe f.dep2 hapart.2.2.1 hapart.2.2.2).trans h.dep2, h.ne⟩

theorem TableOk.turn {done todo : List RmClient} {e : RmClient} {deps : Finset Dependency}
    (h : TableOk (done ++ e :: todo) deps) {r : RmClient × Dependencies}
    (hstep : EntryStep deps e r) :
    ∃ deps', r.2 = some deps' ∧ TableOk (done ++ [r.1] ++ todo) deps' := by
  obtain ⟨⟨deps', hdeps, hok, hframe⟩, hdep1, hdep2⟩ := hstep
  obtain ⟨hentry, hapart⟩ := h
  obtain ⟨hdone, hrest, hcross⟩ := List.pairwise_append.mp hapart
  obtain ⟨htodo, hpair⟩ := List.pairwise_cons.mp hrest
  have hsame : ∀ f, Apart f e → Apart f r.1 := by
    intro f hf
    rw [Apart, hdep1, hdep2]
    exact hf
  have hbefore : ∀ f ∈ done, Apart f e := fun f hf => hcross f hf e List.mem_cons_self
  refine ⟨deps', hdeps, ?_, ?_⟩
  · intro f hf
    rw [List.append_assoc, List.singleton_append] at hf
    rcases List.mem_append.mp hf with hf | hf
    · exact (hentry f (List.mem_append_left _ hf)).frame (hbefore f hf) hframe
    · rcases List.mem_cons.mp hf with rfl | hf
      · exact hok
      · exact (hentry f (List.mem_append_right _ (List.mem_cons_of_mem e hf))).frame
          (htodo f hf).symm hframe
  · rw [List.append_assoc, List.singleton_append]
    apply List.pairwise_append.mpr
    refine ⟨hdone, List.pairwise_cons.mpr ⟨?_, hpair⟩, ?_⟩
    · intro f hf
      exact (hsame f (htodo f hf).symm).symm
    · intro f hf g hg
      rcases List.mem_cons.mp hg with rfl | hg
      · exact hsame f (hbefore f hf)
      · exact hcross f hf g (List.mem_cons_of_mem e hg)

/-- The loop over the table, for a body that is in order on every entry it may
come to. -/
theorem TableOk.sweep {rmTbl : List RmClient} {deps : Finset Dependency}
    {body : RmClient → Dependencies → RmClient × Dependencies} {P : RmClient → Prop}
    (hbody : ∀ e deps, P e → EntryOk deps e → EntryStep deps e (body e (some deps)))
    (hP : ∀ e ∈ rmTbl, P e) (h : TableOk rmTbl deps) :
    ∃ deps', (Sweep.sweep body rmTbl (some deps)).2 = some deps' ∧
      TableOk (Sweep.sweep body rmTbl (some deps)).1 deps' := by
  let I := fun (done todo : List RmClient) (s : Dependencies) =>
    (∀ e ∈ todo, P e) ∧ ∃ deps, s = some deps ∧ TableOk (done ++ todo) deps
  have hturn : ∀ done e todo s, I done (e :: todo) s →
      I (done ++ [(body e s).1]) todo (body e s).2 := by
    rintro done e todo s ⟨htodo, deps, rfl, hok⟩
    have hmem : e ∈ done ++ e :: todo := List.mem_append_right _ List.mem_cons_self
    refine ⟨fun f hf => htodo f (List.mem_cons_of_mem e hf), ?_⟩
    exact hok.turn (hbody e deps (htodo e List.mem_cons_self) (hok.entry e hmem))
  obtain ⟨-, deps', hdeps, hok⟩ := sweep_invariant hturn rmTbl [] (some deps) ⟨hP, deps, rfl, h⟩
  rw [List.append_nil, List.nil_append] at hok
  exact ⟨deps', hdeps, hok⟩

/-- The entries for `Q6_CONS` see it up while routes are left. -/
def Q6Up (rmA2Check : Int) (e : RmClient) : Prop :=
  e.consumerRm1 = .q6Cons → 0 < rmA2Check → e.consumer1Up = true

theorem addProducer_consumer (rxBypassIpa : Bool) (e : RmClient) (deps : Dependencies) :
    (e.addProducer rxBypassIpa deps).1.consumerRm1 = e.consumerRm1 ∧
      (e.addProducer rxBypassIpa deps).1.consumer1Up = e.consumer1Up := by
  rw [RmClient.addProducer]
  split
  · exact ⟨rfl, rfl⟩
  · exact ⟨rfl, rfl⟩

theorem delProducer_consumer (e : RmClient) (deps : Dependencies) :
    (e.delProducer deps).1.consumerRm1 = e.consumerRm1 ∧
      (e.delProducer deps).1.consumer1Up = e.consumer1Up := by
  rw [RmClient.delProducer]
  split
  · exact ⟨rfl, rfl⟩
  · exact ⟨rfl, rfl⟩

theorem addConsumer_up (e : RmClient) (deps : Dependencies) :
    (e.addConsumer deps).1.consumer1Up = true := by
  rw [RmClient.addConsumer]
  split
  · rfl
  · rfl

theorem delConsumer_name (rmA2Check : Int) (e : RmClient) (deps : Dependencies) :
    (e.delConsumer rmA2Check deps).1.consumerRm1 = e.consumerRm1 := by
  rw [RmClient.delConsumer]
  split
  · rfl
  dsimp only
  split
  · rfl
  · rfl

theorem addTurn_q6Up {e : RmClient} {rmA2Check : Int} (h : Q6Up rmA2Check e) (rm1 : RmResource)
    (rxBypassIpa : Bool) (deps : Dependencies) :
    Q6Up (if rm1 = .q6Cons then rmA2Check + 1 else rmA2Check)
      (e.addTurn rm1 rxBypassIpa deps).1 := by
  have hproducer : (if rm1 = e.producerRm1 then e.addProducer rxBypassIpa deps
        else (e, deps)).1.consumerRm1 = e.consumerRm1 ∧
      (if rm1 = e.producerRm1 then e.addProducer rxBypassIpa deps
        else (e, deps)).1.consumer1Up = e.consumer1Up := by
    split
    · exact addProducer_consumer rxBypassIpa e deps
    · exact ⟨rfl, rfl⟩
  rw [RmClient.addTurn]
  generalize (if rm1 = e.producerRm1 then e.addProducer rxBypassIpa deps
    else (e, deps)) = r at hproducer ⊢
  obtain ⟨hname, hup⟩ := hproducer
  rcases eq_or_ne rm1 r.1.consumerRm1 with hrm | hrm
  · rw [if_pos hrm]
    exact fun _ _ => addConsumer_up r.1 r.2
  · rw [if_neg hrm]
    intro hq6 hleft
    rw [if_neg (fun heq => hrm (heq.trans hq6.symm))] at hleft
    rw [hup]
    exact h (hname ▸ hq6) hleft

theorem delTurn_q6Up {e : RmClient} {rmA2Check : Int} (h : Q6Up rmA2Check e) {rm1 : RmResource}
    (hlast : rm1 = .q6Cons → rmA2Check ≤ 2) (deps : Dependencies) :
    Q6Up (if rm1 = .q6Cons then rmA2Check - 1 else rmA2Check)
      (e.delTurn rm1 (if rm1 = .q6Cons then rmA2Check - 1 else rmA2Check) deps).1 := by
  have hproducer : (if rm1 = e.producerRm1 then e.delProducer deps
        else (e, deps)).1.consumerRm1 = e.consumerRm1 ∧
      (if rm1 = e.producerRm1 then e.delProducer deps
        else (e, deps)).1.consumer1Up = e.consumer1Up := by
    split
    · exact delProducer_consumer e deps
    · exact ⟨rfl, rfl⟩
  rw [RmClient.delTurn]
  generalize (if rm1 = e.producerRm1 then e.delProducer deps
    else (e, deps)) = r at hproducer ⊢
  obtain ⟨hname, hup⟩ := hproducer
  rcases eq_or_ne rm1 r.1.consumerRm1 with hrm | hrm
  · rw [if_pos hrm]
    rcases eq_or_ne r.1.consumerRm1 .q6Cons with hq6 | hq6
    · rw [RmClient.delConsumer]
      have heq := hrm.trans hq6
      have hle := hlast heq
      rw [if_pos heq]
      split
      case isTrue hone =>
        -- one route is left, and there were two before
        intro _ _
        rw [hup]
        apply h (hname ▸ hq6)
        omega
      case isFalse hnot =>
        intro _ hleft
        exact absurd ⟨hq6, by omega⟩ hnot
    · intro hq6' _
      rw [delConsumer_name] at hq6'
      exact absurd hq6' hq6
  · rw [if_neg hrm]
    intro hq6 hleft
    rw [if_neg (fun heq => hrm (heq.trans hq6.symm))] at hleft
    rw [hup]
    exact h (hname ▸ hq6) hleft

/-- A producer that comes up again keeps the bypass flag of an entry that is set
up, and a route goes while two are left at most. -/
def RmCall.Checked (s : RmState) : RmCall → Prop
  | .add rm1 rxBypassIpa =>
    ∀ e ∈ s.rmTbl, e.producerRm1 = rm1 → e.rmSet = true → e.rxBypassIpa = rxBypassIpa
  | .del rm1 => rm1 = .q6Cons → s.rmA2Check ≤ 2

/-- Every dependency call was in place, the dependencies of each entry are there
exactly while it is set up, and `Q6_CONS` is up while routes are left. -/
structure Balanced (s : RmState) : Prop where
  deps : ∃ deps, s.deps = some deps ∧ TableOk s.rmTbl deps
  q6Up : ∀ e ∈ s.rmTbl, Q6Up s.rmA2Check e

theorem balanced_init : Balanced RmState.init := by
  have hentry : ∀ e ∈ RmState.init.rmTbl, e.rmSet = false ∧ e.dep1 ≠ e.dep2 := by decide
  have hapart : RmState.init.rmTbl.Pairwise fun e f =>
      e.dep1 ≠ f.dep1 ∧ e.dep1 ≠ f.dep2 ∧ e.dep2 ≠ f.dep1 ∧ e.dep2 ≠ f.dep2 := by decide
  refine ⟨⟨∅, rfl, ?_, hapart⟩, ?_⟩
  · intro e he
    obtain ⟨hset, hne⟩ := hentry e he
    refine ⟨?_, ?_, hne⟩
    · rw [hset]
      exact iff_of_false (Finset.notMem_empty _) fun hno => Bool.noConfusion hno.1
    · rw [hset]
      exact iff_of_false (Finset.notMem_empty _) Bool.noConfusion
  · intro e _ _ hleft
    cases hleft

theorem addRmDepend_balanced {s : RmState} (h : Balanced s) {rm1 : RmResource}
    {rxBypassIpa : Bool} (hok : (RmCall.add rm1 rxBypassIpa).Checked s) :
    Balanced (addRmDepend rm1 rxBypassIpa s) := by
  obtain ⟨⟨deps, hdeps, htable⟩, hup⟩ := h
  constructor
  · rw [addRmDepend]
    dsimp only
    rw [hdeps]
    apply htable.sweep (P := fun e =>
      e.producerRm1 = rm1 → e.rmSet = true → e.rxBypassIpa = rxBypassIpa) _ hok
    intro e deps hbypass hentry
    exact addTurn_step hentry hbypass
  · exact sweep_forall (fun e deps he => addTurn_q6Up he rm1 rxBypassIpa deps) _ _ hup

theorem delRmDepend_balanced {s : RmState} (h : Balanced s) {rm1 : RmResource}
    (hok : (RmCall.del rm1).Checked s) : Balanced (delRmDepend rm1 s) := by
  obtain ⟨⟨deps, hdeps, htable⟩, hup⟩ := h
  constructor
  · rw [delRmDepend]
    dsimp only
    rw [hdeps]
    apply htable.sweep (P := fun _ => True) _ fun _ _ => trivial
    intro e deps _ hentry
    exact delTurn_step hentry rm1 _
  · exact sweep_forall (fun e deps he => delTurn_q6Up he hok deps) _ _ hup

/-- In every run whose calls are fit, the dependencies are balanced. -/
theorem balanced_of_run (calls : List RmCall) (s : RmState)
    (hrun : Run (Guarded (fun s call => call.Checked s) fun s call s' => s' = rmStep s call)
      RmState.init calls s) : Balanced s := by
  apply hrun.invariant balanced_init
  rintro s call s' h ⟨hok, rfl⟩
  cases call with
  | add rm1 rxBypassIpa => exact addRmDepend_balanced h hok
  | del rm1 => exact delRmDepend_balanced h hok

/-- WLAN comes up behind a route and goes again. -/
def wlanRun : List RmCall :=
  [.add .q6Cons false, .add .wlanProd false, .del .wlanProd, .del .q6Cons]

theorem balanced_wlanRun : Balanced (wlanRun.foldl rmStep RmState.init) := by
  apply balanced_of_run wlanRun
  refine Run.snoc (Run.snoc (Run.snoc (Run.snoc .nil ⟨?_, rfl⟩) ⟨?_, rfl⟩) ⟨?_, rfl⟩) ⟨?_, rfl⟩
  · intro _
    decide
  · change ∀ e ∈ RmState.init.rmTbl, e.producerRm1 = .q6Cons → e.rmSet = true →
      e.rxBypassIpa = false
    decide
  · change ∀ e ∈ (rmStep RmState.init (.add .q6Cons false)).rmTbl,
      e.producerRm1 = .wlanProd → e.rmSet = true → e.rxBypassIpa = false
    decide
  · intro heq
    cases heq

/-- The dependency that a bypassed entry skipped is deleted once the flag has
changed, and with three routes the first to go takes `Q6_CONS` down. -/
theorem not_balanced_bypass :
    (∃ s, Run (fun s call s' => s' = rmStep s call) RmState.init
      [.add .q6Cons false, .add .wlanProd true, .add .wlanProd false, .del .wlanProd] s ∧
        s.deps = none) ∧
    ∃ s, Run (fun s call s' => s' = rmStep s call) RmState.init
      [.add .q6Cons false, .add .q6Cons false, .add .q6Cons false, .del .q6Cons] s ∧
        s.rmA2Check = 2 ∧ ¬ ∀ e ∈ s.rmTbl, Q6Up s.rmA2Check e := by
  refine ⟨⟨_, Run.snoc (Run.snoc (Run.snoc (Run.snoc .nil rfl) rfl) rfl) rfl, by decide⟩,
    ⟨_, Run.snoc (Run.snoc (Run.snoc (Run.snoc .nil rfl) rfl) rfl) rfl, by decide, ?_⟩⟩
  intro h
  have hup := h (.init .wlanProd .q6Cons .q6Prod .wlanCons) (by decide) rfl (by decide)
  exact absurd hup (by decide)

end LibraDevice.Rm
