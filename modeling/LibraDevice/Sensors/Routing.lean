import LibraDevice.Sensors.Handles
import Mathlib.Data.List.Count
import Mathlib.Data.List.NodupEquivFin

/-!
When the events of a device and the calls for its sensors go to the same sensors.
-/

namespace LibraDevice.Sensors

theorem openSensors_getElem? {modules : List SubModule} {i j m : Nat}
    (h : ((modules.zipIdx i).filterMap fun (m, moduleIndex) =>
      if m.opens then some moduleIndex else none)[j]? = some m) :
    ∃ k subModule, m = i + k ∧ modules[k]? = some subModule ∧ subModule.opens = true ∧
      j = (modules.take k).countP SubModule.opens := by
  induction modules generalizing i j with
  | nil => cases h
  | cons x modules ih =>
      rw [List.zipIdx_cons, List.filterMap_cons] at h
      cases hopens : x.opens with
      | false =>
          simp only [hopens] at h
          obtain ⟨k, subModule, rfl, hmod, hopen, rfl⟩ := ih h
          refine ⟨k + 1, subModule, by omega, hmod, hopen, ?_⟩
          rw [List.take_succ_cons, List.countP_cons_of_neg (by rw [hopens]; decide)]
      | true =>
          simp only [hopens] at h
          cases j with
          | zero => exact ⟨0, x, (Option.some.inj h).symm, rfl, hopens, rfl⟩
          | succ j =>
              obtain ⟨k, subModule, rfl, hmod, hopen, rfl⟩ := ih h
              refine ⟨k + 1, subModule, by omega, hmod, hopen, ?_⟩
              rw [List.take_succ_cons, List.countP_cons_of_pos hopens]

theorem device_index {modules : List SubModule} {j m : Nat}
    (h : (openSensors modules)[j]? = some m) :
    ∃ subModule, modules[m]? = some subModule ∧ subModule.opens = true ∧
      j = (modules.take m).countP SubModule.opens := by
  obtain ⟨k, subModule, hm, hmod, hopens, hj⟩ := openSensors_getElem? h
  rw [Nat.zero_add] at hm
  subst hm
  exact ⟨subModule, hmod, hopens, hj⟩

theorem exists_device {modules : List SubModule} {m : Nat} {subModule : SubModule}
    (hmod : modules[m]? = some subModule) (hopens : subModule.opens = true) :
    ∃ j : Nat, (openSensors modules)[j]? = some m := by
  apply List.mem_iff_getElem?.mp
  rw [openSensors, List.mem_filterMap]
  exact ⟨(subModule, m), List.mk_mem_zipIdx_iff_getElem?.mpr hmod, if_pos hopens⟩

theorem two_le_count_iff {α : Type} [DecidableEq α] {l : List α} {x : α} :
    2 ≤ l.count x ↔ ∃ i j : Nat, i < j ∧ l[i]? = some x ∧ l[j]? = some x := by
  rw [← List.duplicate_iff_two_le_count, List.duplicate_iff_exists_distinct_get]
  constructor
  · rintro ⟨i, j, hij, hi, hj⟩
    exact ⟨i, j, hij, List.getElem?_eq_some_iff.mpr ⟨i.isLt, hi.symm⟩,
      List.getElem?_eq_some_iff.mpr ⟨j.isLt, hj.symm⟩⟩
  · rintro ⟨i, j, hij, hi, hj⟩
    obtain ⟨hilt, hi⟩ := List.getElem?_eq_some_iff.mp hi
    obtain ⟨hjlt, hj⟩ := List.getElem?_eq_some_iff.mp hj
    exact ⟨⟨i, hilt⟩, ⟨j, hjlt⟩, hij, hi.symm, hj.symm⟩

def SubModule.handles (m : SubModule) : List Int :=
  m.sensorsList.map Sensor.handle

theorem count_listed (modules : List SubModule) (m : Nat) (l : Int) :
    (listed modules).count ⟨m, l⟩ = (modules[m]?.elim [] SubModule.handles).count l := by
  induction modules using List.reverseRecOn with
  | nil => rfl
  | append_singleton modules x ih =>
      have hlisted : listed (modules ++ [x]) = listed modules ++
          x.handles.map fun l => ⟨modules.length, l⟩ := by
        rw [listed, List.zipIdx_append, List.flatMap_append, SubModule.handles, List.map_map,
          Nat.zero_add]
        exact congrArg (listed modules ++ ·) (List.append_nil _)
      rw [hlisted, List.count_append, ih]
      rcases Nat.lt_trichotomy m modules.length with hlt | rfl | hgt
      · have hblock : (x.handles.map fun l => (⟨modules.length, l⟩ : FullHandle)).count ⟨m, l⟩ =
            0 := by
          rw [List.count_eq_zero, List.mem_map]
          rintro ⟨l', -, heq⟩
          have hindex := congrArg FullHandle.moduleIndex heq
          simp only at hindex
          omega
        rw [hblock, Nat.add_zero, List.getElem?_append_left hlt]
      · have hinj : Function.Injective fun l : Int => (⟨modules.length, l⟩ : FullHandle) :=
          fun _ _ heq => congrArg FullHandle.localHandle heq
        rw [List.count_map_of_injective _ _ hinj, List.getElem?_eq_none (Nat.le_refl _),
          List.getElem?_concat_length]
        exact Nat.zero_add _
      · have hblock : (x.handles.map fun l => (⟨modules.length, l⟩ : FullHandle)).count ⟨m, l⟩ =
            0 := by
          rw [List.count_eq_zero, List.mem_map]
          rintro ⟨l', -, heq⟩
          have hindex := congrArg FullHandle.moduleIndex heq
          simp only at hindex
          omega
        rw [hblock, Nat.add_zero, List.getElem?_eq_none (by omega), List.getElem?_eq_none]
        rw [List.length_append, List.length_singleton]
        omega

open PollContext

/-- The advertised handles are distinct; what a device reports for a sensor of its
module gets the handle of the sensor, and the calls on that handle go back to the
device, with the local handle. -/
structure Coherent (modules : List SubModule) : Prop where
  distinct : ((start modules).hal.sensors.map Sensor.handle).Nodup
  routed : ∀ subIndex m : Nat, (start modules).subHwDevices[subIndex]? = some m →
    ∀ (k : Nat) (l g : Int), (listed modules)[k]? = some ⟨m, l⟩ →
      ((start modules).hal.sensors.map Sensor.handle)[k]? = some g →
      (start modules).hal.getGlobalHandle ⟨subIndex, l⟩ = g ∧
        (∀ enabled, (start modules).activate g enabled = some (m, l, .activate enabled)) ∧
        (∀ ns, (start modules).setDelay g ns = some (m, l, .setDelay ns)) ∧
        (∀ flags periodNs timeout, (start modules).batch g flags periodNs timeout =
          some (m, l, .batch flags periodNs timeout)) ∧
        (start modules).flush g = some (m, l, .flush)

/-- Before a module with sensors that opens, every module opens, and its sensors
have different local handles. -/
def Aligned (modules : List SubModule) : Prop :=
  ∀ (m : Nat) (subModule : SubModule), modules[m]? = some subModule → subModule.opens = true →
    subModule.handles ≠ [] →
      (∀ other ∈ modules.take m, other.opens = true) ∧ subModule.handles.Nodup

variable {modules : List SubModule}

theorem handle_getElem? {k : Nat} {g : Int} :
    ((start modules).hal.sensors.map Sensor.handle)[k]? = some g ↔
      k < (listed modules).length ∧ g = k + 1 := by
  rw [(listing_start modules).2, List.getElem?_map]
  rcases Nat.lt_or_ge k (listed modules).length with hlt | hge
  · rw [List.getElem?_range hlt, Option.map_some, Option.some.injEq, eq_comm]
    exact (and_iff_right hlt).symm
  · rw [List.getElem?_eq_none (by rwa [List.length_range])]
    constructor
    · intro h
      cases h
    · intro h
      exact absurd h.1 (Nat.not_lt_of_le hge)

theorem globalToFull_handle (k : Nat) :
    (start modules).hal.globalToFull ((k : Int) + 1) = (listed modules)[k]? := by
  rw [(listing_start modules).1.globalToFull, if_pos (by omega)]
  have hk : ((k : Int) + 1 - 1).toNat = k := by omega
  rw [hk]

theorem listed_of_fullToGlobal {f : FullHandle} {k : Nat}
    (h : (start modules).hal.fullToGlobal f = some ((k : Int) + 1)) :
    (listed modules)[k]? = some f := by
  rw [← globalToFull_handle]
  exact (listing_start modules).1.inverse f _ h

theorem getGlobalHandle_eq {m k : Nat} {l : Int} (hk : (listed modules)[k]? = some ⟨m, l⟩)
    (hone : (listed modules).count ⟨m, l⟩ ≤ 1) :
    (start modules).hal.getGlobalHandle ⟨m, l⟩ = k + 1 := by
  have hmem : (⟨m, l⟩ : FullHandle) ∈ listed modules := List.mem_of_getElem? hk
  obtain ⟨g, hg⟩ := Option.isSome_iff_exists.mp ((listing_start modules).1.isSome _ hmem)
  have hinv := (listing_start modules).1.inverse _ g hg
  rw [(listing_start modules).1.globalToFull, Option.ite_none_right_eq_some] at hinv
  obtain ⟨hpos, hindex⟩ := hinv
  have hsame : (g - 1).toNat = k := by
    rcases Nat.lt_trichotomy (g - 1).toNat k with hlt | heq | hgt
    · have htwo := two_le_count_iff.mpr ⟨_, _, hlt, hindex, hk⟩
      omega
    · exact heq
    · have htwo := two_le_count_iff.mpr ⟨_, _, hgt, hk, hindex⟩
      omega
  rw [Hal.getGlobalHandle, hg]
  change g = k + 1
  omega

theorem call_eq {m k : Nat} {l : Int} (hk : (listed modules)[k]? = some ⟨m, l⟩)
    (hdevice : (openSensors modules)[m]? = some m) (c : Call) :
    (start modules).call ((k : Int) + 1) c = some (m, l, c) := by
  have hfull : (start modules).hal.globalToFull ((k : Int) + 1) = some ⟨m, l⟩ :=
    (globalToFull_handle k).trans hk
  have hlt : m < (openSensors modules).length := (List.getElem?_eq_some_iff.mp hdevice).1
  have hdev : (start modules).getDeviceByHandle ((k : Int) + 1) = some m := by
    rw [getDeviceByHandle, Hal.getModuleIndex, hfull]
    change (if (m : Int) < 0 ∨ ((openSensors modules).length : Int) ≤ m then none
      else (openSensors modules)[(m : Int).toNat]?) = some m
    rw [if_neg (by omega), Int.toNat_natCast, hdevice]
  rw [call, hdev, Hal.getLocalHandle, hfull]
  rfl

theorem coherent_of_aligned (h : Aligned modules) : Coherent modules where
  distinct := by
    rw [(listing_start modules).2]
    refine List.Nodup.map ?_ List.nodup_range
    intro k k' heq
    have heq' : (k : Int) + 1 = k' + 1 := heq
    omega
  routed := by
    intro subIndex m hdevice k l g hk hg
    obtain ⟨hlen, rfl⟩ := handle_getElem?.mp hg
    obtain ⟨subModule, hmod, hopens, hsub⟩ := device_index hdevice
    have hcount := count_listed modules m l
    rw [hmod] at hcount
    have hmem : l ∈ subModule.handles := by
      rw [← List.count_pos_iff]
      exact Nat.lt_of_lt_of_eq (List.count_pos_iff.mpr (List.mem_of_getElem? hk)) hcount
    obtain ⟨hbefore, hnodup⟩ := h m subModule hmod hopens (List.ne_nil_of_mem hmem)
    have hindex : subIndex = m := by
      rw [hsub, List.countP_eq_length.mpr hbefore, List.length_take]
      have hm := (List.getElem?_eq_some_iff.mp hmod).1
      omega
    subst hindex
    have hcall := call_eq hk hdevice
    refine ⟨getGlobalHandle_eq hk ?_, fun _ => hcall _, fun _ => hcall _, fun _ _ _ => hcall _,
      hcall _⟩
    rw [hcount]
    exact List.nodup_iff_count_le_one.mp hnodup l

theorem aligned_of_coherent (h : Coherent modules) : Aligned modules := by
  intro m subModule hmod hopens hne
  obtain ⟨subIndex, hdevice⟩ := exists_device hmod hopens
  -- every sensor of the module is found under the index of the device
  have hfound : ∀ (k : Nat) (l : Int), (listed modules)[k]? = some ⟨m, l⟩ →
      (start modules).hal.fullToGlobal ⟨subIndex, l⟩ = some ((k : Int) + 1) := by
    intro k l hk
    have hlen := (List.getElem?_eq_some_iff.mp hk).1
    have hglobal := (h.routed subIndex m hdevice k l _ hk (handle_getElem?.mpr ⟨hlen, rfl⟩)).1
    rw [Hal.getGlobalHandle] at hglobal
    cases hf : (start modules).hal.fullToGlobal ⟨subIndex, l⟩ with
    | none =>
        rw [hf] at hglobal
        change (-1 : Int) = k + 1 at hglobal
        omega
    | some g =>
        rw [hf] at hglobal
        exact congrArg some hglobal
  have hlisted : ∀ l ∈ subModule.handles, ∃ k : Nat, (listed modules)[k]? = some ⟨m, l⟩ := by
    intro l hl
    apply List.mem_iff_getElem?.mp
    rw [← List.count_pos_iff, count_listed, hmod]
    exact List.count_pos_iff.mpr hl
  constructor
  · obtain ⟨l, hl⟩ := List.exists_mem_of_ne_nil _ hne
    obtain ⟨k, hk⟩ := hlisted l hl
    have hsame := (listed_of_fullToGlobal (hfound k l hk)).symm.trans hk
    have hindex : subIndex = m := by
      have hm := congrArg FullHandle.moduleIndex (Option.some.inj hsame)
      exact Int.ofNat.inj hm
    obtain ⟨-, -, -, hsub⟩ := device_index hdevice
    apply List.countP_eq_length.mp
    rw [← hsub, hindex, List.length_take]
    have hm := (List.getElem?_eq_some_iff.mp hmod).1
    omega
  · rw [List.nodup_iff_count_le_one]
    intro l
    by_contra hcount
    have htwo : 2 ≤ (listed modules).count ⟨m, l⟩ := by
      rw [count_listed, hmod]
      exact Nat.lt_of_not_le hcount
    obtain ⟨i, j, hij, hi, hj⟩ := two_le_count_iff.mp htwo
    have hsame := (hfound i l hi).symm.trans (hfound j l hj)
    have hindices := Option.some.inj hsame
    omega

/-- The handles are routed coherently exactly where the modules are aligned. -/
theorem coherent_iff_aligned (modules : List SubModule) : Coherent modules ↔ Aligned modules :=
  ⟨aligned_of_coherent, coherent_of_aligned⟩

/-- A module with one sensor, whose local handle is 7, behind one that does not
open. -/
def secondOpens : List SubModule :=
  [⟨[], false⟩, ⟨[⟨7, 1, 1, 0, 0, 0⟩], true⟩]

theorem not_coherent_secondOpens : ¬ Coherent secondOpens := by
  intro h
  exact absurd (h.routed 0 1 (by decide) 0 7 1 (by decide) (by decide)).1 (by decide)

end LibraDevice.Sensors
