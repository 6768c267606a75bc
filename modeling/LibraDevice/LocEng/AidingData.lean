import LibraDevice.Lib.StepRun
import LibraDevice.LocEng.Engine

/-!
Deletion of aiding data: one mask waits until the engine is not on, and is
written by requests and flushed by some of the messages that change the status
of the engine.
-/

namespace LibraDevice.LocEng

open LibraDevice.StepWise

/-- The engine with `aiding_data_for_deletion`. -/
structure AidingEngine (w : Nat) where
  eng : LocEngData
  aidingDataForDeletion : BitVec w

/-- `LocEngDelAidData`, `LocEngReportStatus` and `LocEngDown`. -/
inductive AidingMsg (w : Nat)
  | delAidData (mType : BitVec w)
  | reportStatus (status : GpsStatusValue)
  | engineDown

/-- A call of `deleteAidingData`, with the status of the engine at the time. -/
structure Deletion (w : Nat) where
  engineStatus : GpsStatusValue
  mask : BitVec w

variable {w : Nat}

namespace AidingEngine

def init : AidingEngine w where
  eng := .init
  aidingDataForDeletion := 0

def updateAidingDataForDeletion (s : AidingEngine w) : AidingEngine w × List (Deletion w) :=
  if s.eng.engineStatus ≠ .engineOn ∧ s.aidingDataForDeletion ≠ 0 then
    ({ s with aidingDataForDeletion := 0 }, [⟨s.eng.engineStatus, s.aidingDataForDeletion⟩])
  else (s, [])

/-- The mask and the status of the engine after a message, and the deletions. -/
def proc (cfg : Config) (s : AidingEngine w) : AidingMsg w → AidingEngine w × List (Deletion w)
  | .delAidData mType =>
      updateAidingDataForDeletion { s with aidingDataForDeletion := mType }
  | .reportStatus status =>
      updateAidingDataForDeletion { s with eng := (s.eng.reportStatus cfg status).1 }
  | .engineDown => ({ s with eng := (s.eng.handleEngineDown cfg).1 }, [])

end AidingEngine

/-- Every bit of the one mask is in the other. -/
def Within (a b : BitVec w) : Prop :=
  ∀ k, a.getLsbD k = true → b.getLsbD k = true

/-- The bits that a message requests. -/
def AidingMsg.requested : AidingMsg w → BitVec w
  | .delAidData mType => mType
  | _ => 0

/-- The bits still to be passed after these calls. -/
def unpassed (asked : BitVec w) (calls : List (Deletion w)) : BitVec w :=
  calls.foldl (fun bits call => bits &&& ~~~call.mask) asked

/-- Every call passes bits that are still to be passed. -/
def OnlyAsked : BitVec w → List (Deletion w) → Prop
  | _, [] => True
  | asked, call :: calls => Within call.mask asked ∧ OnlyAsked (asked &&& ~~~call.mask) calls

/-- `outstanding` are the bits requested since they were last passed. -/
structure Tracked (w : Nat) where
  prog : AidingEngine w
  outstanding : BitVec w

namespace Tracked

def init : Tracked w := ⟨.init, 0⟩

def asked (s : Tracked w) (m : AidingMsg w) : BitVec w :=
  s.outstanding ||| m.requested

def next (cfg : Config) (s : Tracked w) (m : AidingMsg w) : Tracked w where
  prog := (s.prog.proc cfg m).1
  outstanding := unpassed (s.asked m) (s.prog.proc cfg m).2

/-- What is to hold of a message. -/
structure Right (cfg : Config) (s : Tracked w) (m : AidingMsg w) : Prop where
  neverOn : ∀ call ∈ (s.prog.proc cfg m).2, call.engineStatus ≠ .engineOn
  onlyAsked : OnlyAsked (s.asked m) (s.prog.proc cfg m).2
  noneLeft : (s.next cfg m).prog.eng.engineStatus ≠ .engineOn → (s.next cfg m).outstanding = 0

/-- The engine goes down with nothing outstanding, and is reported off with
all that is outstanding in the last request. -/
def Timely (s : Tracked w) : AidingMsg w → Prop
  | .delAidData _ => True
  | .reportStatus status =>
      status = .engineOff → Within s.outstanding s.prog.aidingDataForDeletion
  | .engineDown => s.outstanding = 0

/-- The waiting mask is outstanding, and only while the engine is on. -/
structure Sound (s : Tracked w) : Prop where
  waiting : Within s.prog.aidingDataForDeletion s.outstanding
  off : s.prog.eng.engineStatus ≠ .engineOn → s.outstanding = 0

end Tracked

theorem Within.refl (a : BitVec w) : Within a a :=
  fun _ h => h

theorem within_zero_iff {a : BitVec w} : Within a 0 ↔ a = 0 := by
  constructor
  · intro h
    apply BitVec.eq_of_getLsbD_eq
    intro k _
    rcases hk : a.getLsbD k with _ | _
    · simp
    · exact absurd (h k hk) (by simp)
  · rintro rfl
    exact Within.refl 0

theorem zero_within (a : BitVec w) : Within 0 a := by
  intro k hk
  simp at hk

theorem within_or_right (a b : BitVec w) : Within b (a ||| b) := by
  intro k hk
  rw [BitVec.getLsbD_or, hk, Bool.or_true]

theorem and_not_eq_zero_iff {a b : BitVec w} : a &&& ~~~b = 0 ↔ Within a b := by
  rw [← within_zero_iff]
  constructor
  · intro h k hk
    rcases hb : b.getLsbD k with _ | _
    · have hleft := h k
      rw [BitVec.getLsbD_and, BitVec.getLsbD_not, hk, hb] at hleft
      have hlt := BitVec.lt_of_getLsbD hk
      simp [hlt] at hleft
    · rfl
  · intro h k hk
    rw [BitVec.getLsbD_and, Bool.and_eq_true] at hk
    have hb := h k hk.1
    rw [BitVec.getLsbD_not, hb] at hk
    simp at hk

/-- What `update_aiding_data_for_deletion` does when the waiting mask is among
the bits still to be passed. -/
structure Flushes (s : AidingEngine w) (bits : BitVec w) : Prop where
  eng : s.updateAidingDataForDeletion.1.eng = s.eng
  neverOn : ∀ call ∈ s.updateAidingDataForDeletion.2, call.engineStatus ≠ .engineOn
  onlyAsked : OnlyAsked bits s.updateAidingDataForDeletion.2
  waiting : Within s.updateAidingDataForDeletion.1.aidingDataForDeletion
    (unpassed bits s.updateAidingDataForDeletion.2)
  left : s.eng.engineStatus ≠ .engineOn →
    (unpassed bits s.updateAidingDataForDeletion.2 = 0 ↔ Within bits s.aidingDataForDeletion)

theorem flushes {s : AidingEngine w} {bits : BitVec w}
    (h : Within s.aidingDataForDeletion bits) : Flushes s bits := by
  rcases em (s.eng.engineStatus ≠ .engineOn ∧ s.aidingDataForDeletion ≠ 0) with hflush | hkeep
  · have heq : s.updateAidingDataForDeletion =
        ({ s with aidingDataForDeletion := 0 },
          [⟨s.eng.engineStatus, s.aidingDataForDeletion⟩]) := if_pos hflush
    constructor
    · rw [heq]
    · rw [heq]
      intro call hcall
      rw [List.mem_singleton.mp hcall]
      exact hflush.1
    · rw [heq]
      exact ⟨h, trivial⟩
    · rw [heq]
      exact zero_within _
    · rw [heq]
      exact fun _ => and_not_eq_zero_iff
  · have heq : s.updateAidingDataForDeletion = (s, []) := if_neg hkeep
    constructor
    · rw [heq]
    · rw [heq]
      exact fun call hcall => absurd hcall List.not_mem_nil
    · rw [heq]
      trivial
    · rw [heq]
      exact h
    · rw [heq]
      intro hoff
      have hzero : s.aidingDataForDeletion = 0 :=
        Classical.not_not.mp fun hne => hkeep ⟨hoff, hne⟩
      rw [hzero, within_zero_iff]
      rfl

namespace Tracked

variable {cfg : Config} {s : Tracked w}

theorem sound_init : Sound (init : Tracked w) where
  waiting := Within.refl 0
  off := fun _ => rfl

theorem Sound.delAidData (h : s.Sound) (mType : BitVec w) :
    s.Right cfg (.delAidData mType) ∧ (s.next cfg (.delAidData mType)).Sound := by
  have hflushes : Flushes { s.prog with aidingDataForDeletion := mType }
      (s.asked (.delAidData mType)) := flushes (within_or_right s.outstanding mType)
  have hleft : (s.next cfg (.delAidData mType)).prog.eng.engineStatus ≠ .engineOn →
      (s.next cfg (.delAidData mType)).outstanding = 0 := by
    intro hoff
    have hsame : s.prog.eng.engineStatus ≠ .engineOn := by
      intro hon
      apply hoff
      rw [next, AidingEngine.proc, hflushes.eng]
      exact hon
    apply (hflushes.left hsame).mpr
    intro k hk
    rw [asked, h.off hsame] at hk
    simpa [AidingMsg.requested] using hk
  exact ⟨⟨hflushes.neverOn, hflushes.onlyAsked, hleft⟩, ⟨hflushes.waiting, hleft⟩⟩

theorem asked_none {m : AidingMsg w} (hm : m.requested = 0) : s.asked m = s.outstanding := by
  rw [asked, hm]
  exact BitVec.or_zero

theorem engineStatus_report (status : GpsStatusValue) :
    (s.prog.eng.reportStatus cfg status).1.engineStatus =
      if status = .engineOn ∨ status = .engineOff then status else s.prog.eng.engineStatus := by
  simp [LocEngData.reportStatus]

/-- A status report is right when it leaves the engine on, or the waiting mask
is all that is outstanding. -/
theorem Sound.reportStatus (h : s.Sound) (status : GpsStatusValue) :
    (s.Right cfg (.reportStatus status) ↔ s.Timely (.reportStatus status)) ∧
      (s.Timely (.reportStatus status) → (s.next cfg (.reportStatus status)).Sound) := by
  have hasked : s.asked (.reportStatus status) = s.outstanding := asked_none rfl
  have hflushes : Flushes { s.prog with eng := (s.prog.eng.reportStatus cfg status).1 }
      s.outstanding := flushes h.waiting
  have heng : (s.next cfg (.reportStatus status)).prog.eng =
      (s.prog.eng.reportStatus cfg status).1 := hflushes.eng
  have hnext : (s.next cfg (.reportStatus status)).outstanding = unpassed s.outstanding
      (s.prog.proc cfg (.reportStatus status)).2 := by
    rw [next, hasked]
  have hleft : (s.prog.eng.reportStatus cfg status).1.engineStatus ≠ .engineOn →
      ((s.next cfg (.reportStatus status)).outstanding = 0 ↔
        Within s.outstanding s.prog.aidingDataForDeletion) := by
    rw [hnext]
    exact hflushes.left
  have htimely : (s.Timely (.reportStatus status) ↔
      ((s.next cfg (.reportStatus status)).prog.eng.engineStatus ≠ .engineOn →
        (s.next cfg (.reportStatus status)).outstanding = 0)) := by
    rw [heng]
    constructor
    · intro ht hoff
      apply (hleft hoff).mpr
      rcases em (status = .engineOff) with heq | hne
      · exact ht heq
      · rw [engineStatus_report] at hoff
        split at hoff
        · rename_i hset
          exact absurd (hset.resolve_right hne) hoff
        · rw [h.off hoff]
          exact zero_within _
    · rintro hzero rfl
      have hoff : (s.prog.eng.reportStatus cfg .engineOff).1.engineStatus ≠ .engineOn := by
        rw [engineStatus_report, if_pos (Or.inr rfl)]
        decide
      exact (hleft hoff).mp (hzero hoff)
  constructor
  · rw [htimely]
    constructor
    · exact fun hright => hright.noneLeft
    · intro hzero
      refine ⟨hflushes.neverOn, ?_, hzero⟩
      rw [hasked]
      exact hflushes.onlyAsked
  · intro ht
    refine ⟨?_, htimely.mp ht⟩
    rw [hnext]
    exact hflushes.waiting

theorem Sound.engineDown (h : s.Sound) :
    (s.Right cfg .engineDown ↔ s.Timely .engineDown) ∧
      (s.Timely .engineDown → (s.next cfg .engineDown).Sound) := by
  have hasked : s.asked .engineDown = s.outstanding := asked_none rfl
  have hnext : (s.next cfg .engineDown).outstanding = s.outstanding := hasked
  have hoff : (s.next cfg .engineDown).prog.eng.engineStatus ≠ .engineOn := by
    have heq : (s.next cfg .engineDown).prog.eng.engineStatus = .engineOff := rfl
    rw [heq]
    decide
  constructor
  · constructor
    · intro hright
      rw [Timely, ← hnext]
      exact hright.noneLeft hoff
    · intro hzero
      refine ⟨fun call hcall => absurd hcall List.not_mem_nil, trivial, fun _ => ?_⟩
      rw [hnext]
      exact hzero
  · intro hzero
    refine ⟨?_, fun _ => ?_⟩
    · rw [hnext]
      exact h.waiting
    · rw [hnext]
      exact hzero

theorem Sound.right_iff (h : s.Sound) (m : AidingMsg w) : s.Right cfg m ↔ s.Timely m := by
  rcases m with mType | status | _
  · exact ⟨fun _ => trivial, fun _ => (h.delAidData mType).1⟩
  · exact (h.reportStatus status).1
  · exact h.engineDown.1

theorem Sound.next (h : s.Sound) {m : AidingMsg w} (ht : s.Timely m) : (s.next cfg m).Sound := by
  rcases m with mType | status | _
  · exact (h.delAidData mType).2
  · exact (h.reportStatus status).2 ht
  · exact h.engineDown.2 ht

end Tracked

/-- Every message of a sequence is right exactly when every one is timely. -/
theorem aidingData_right_iff (cfg : Config) (ms : List (AidingMsg w)) :
    Throughout (Tracked.next cfg) (Tracked.Right cfg) Tracked.init ms ↔
      Throughout (Tracked.next cfg) Tracked.Timely Tracked.init ms :=
  StepWise.congr (fun _ _ hs ht => hs.next ht) (fun _ m hs => hs.right_iff m) Tracked.sound_init

/-- A second request comes in while the engine is on. -/
theorem aidingData_not_right :
    ¬Throughout (Tracked.next ⟨true, true, true, true, true, 0, 0⟩)
      (Tracked.Right ⟨true, true, true, true, true, 0, 0⟩) (Tracked.init : Tracked 16)
      [.reportStatus .engineOn, .delAidData 1, .delAidData 2, .reportStatus .engineOff] := by
  rintro ⟨-, -, -, hright, -⟩
  have hleft := hright.noneLeft (by decide)
  exact absurd hleft (by decide)

end LibraDevice.LocEng
