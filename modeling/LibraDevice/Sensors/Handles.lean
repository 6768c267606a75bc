import Mathlib.Data.List.Basic
import Mathlib.Data.List.Induction
import Mathlib.Data.Rat.Defs
import Mathlib.Logic.Function.Basic

/-!
The handles of the sensors: local to a sub-HAL module, and global. The tables of
handles count the modules, and the calls and the events the opened devices.
-/

namespace LibraDevice.Sensors

/-- The fields of `sensor_t` that are read or changed. -/
structure Sensor where
  handle : Int
  type : Int
  maxRange : Rat
  flags : Nat
  fifoReservedEventCount : Nat
  fifoMaxEventCount : Nat
deriving DecidableEq

/-- A sub-HAL module: its sensors, and whether its `open` succeeds. -/
structure SubModule where
  sensorsList : List Sensor
  opens : Bool
deriving DecidableEq

structure FullHandle where
  moduleIndex : Int
  localHandle : Int
deriving DecidableEq

/-- The tables of handles and the list of the sensors. -/
structure Hal where
  globalToFull : Int → Option FullHandle
  fullToGlobal : FullHandle → Option Int
  nextGlobalHandle : Int
  globalSensorsList : Option (List Sensor)

namespace Hal

def new : Hal where
  globalToFull := fun _ => none
  fullToGlobal := fun _ => none
  nextGlobalHandle := 1
  globalSensorsList := none

/-- The global handle of a full handle, which is the next one. -/
def assignGlobalHandle (hal : Hal) (full : FullHandle) : Int × Hal :=
  (hal.nextGlobalHandle,
    { hal with
      globalToFull := Function.update hal.globalToFull hal.nextGlobalHandle (some full)
      fullToGlobal := Function.update hal.fullToGlobal full (some hal.nextGlobalHandle)
      nextGlobalHandle := hal.nextGlobalHandle + 1 })

def getLocalHandle (hal : Hal) (globalHandle : Int) : Int :=
  (hal.globalToFull globalHandle).elim (-1) FullHandle.localHandle

def getModuleIndex (hal : Hal) (globalHandle : Int) : Int :=
  (hal.globalToFull globalHandle).elim (-1) FullHandle.moduleIndex

def getGlobalHandle (hal : Hal) (full : FullHandle) : Int :=
  (hal.fullToGlobal full).getD (-1)

def sensorTypeProximity : Int := 8

def sensorTypeTiltDetector : Int := 22

def sensorFlagWakeUp : Nat := 1

def sensorFlagOnChangeMode : Nat := 2

def fixSensorFields (sensor : Sensor) : Sensor :=
  let sensor :=
    { sensor with
      fifoReservedEventCount := 0
      fifoMaxEventCount := 0 }
  if sensor.type = sensorTypeTiltDetector then
    { sensor with flags := sensorFlagWakeUp ||| sensorFlagOnChangeMode }
  else if sensor.type = sensorTypeProximity then
    { sensor with maxRange := 5 }
  else sensor

/-- One sensor of a module is copied, with a global handle. -/
def addSensor (moduleIndex : Nat) (r : List Sensor × Hal) (localSensor : Sensor) :
    List Sensor × Hal :=
  let (globalHandle, hal) := r.2.assignGlobalHandle ⟨moduleIndex, localSensor.handle⟩
  (r.1 ++ [fixSensorFields { localSensor with handle := globalHandle }], hal)

def lazyInitSensorsList (hal : Hal) (modules : List SubModule) : Hal :=
  match hal.globalSensorsList with
  | some _ => hal
  | none =>
      let r := modules.zipIdx.foldl
        (fun r (m, moduleIndex) => m.sensorsList.foldl (addSensor moduleIndex) r) ([], hal)
      { r.2 with globalSensorsList := some r.1 }

end Hal

/-- The devices of the modules that opened; a device is the index of its module. -/
def openSensors (modules : List SubModule) : List Nat :=
  modules.zipIdx.filterMap fun (m, moduleIndex) => if m.opens then some moduleIndex else none

/-- The calls that are passed on. -/
inductive Call
  | activate (enabled : Int)
  | setDelay (ns : Int)
  | batch (flags : Int) (periodNs timeout : Int)
  | flush
deriving DecidableEq

/-- `sensors_poll_context_t`, as far as the calls read it. -/
structure PollContext where
  hal : Hal
  subHwDevices : List Nat

namespace PollContext

/-- `get_v0_device_by_handle` and `get_v1_device_by_handle`. -/
def getDeviceByHandle (ctx : PollContext) (globalHandle : Int) : Option Nat :=
  let subIndex := ctx.hal.getModuleIndex globalHandle
  if subIndex < 0 ∨ (ctx.subHwDevices.length : Int) ≤ subIndex then none
  else ctx.subHwDevices[subIndex.toNat]?

/-- The device that is called, the handle it is given, and the call; none where
the device is a null pointer. -/
def call (ctx : PollContext) (handle : Int) (c : Call) : Option (Nat × Int × Call) :=
  let localHandle := ctx.hal.getLocalHandle handle
  (ctx.getDeviceByHandle handle).map fun device => (device, localHandle, c)

def activate (ctx : PollContext) (handle enabled : Int) : Option (Nat × Int × Call) :=
  ctx.call handle (.activate enabled)

def setDelay (ctx : PollContext) (handle ns : Int) : Option (Nat × Int × Call) :=
  ctx.call handle (.setDelay ns)

def batch (ctx : PollContext) (handle flags periodNs timeout : Int) :
    Option (Nat × Int × Call) :=
  ctx.call handle (.batch flags periodNs timeout)

def flush (ctx : PollContext) (handle : Int) : Option (Nat × Int × Call) :=
  ctx.call handle .flush

/-- After `lazy_init_sensors_list` and `open_sensors`. -/
def start (modules : List SubModule) : PollContext where
  hal := Hal.new.lazyInitSensorsList modules
  subHwDevices := openSensors modules

end PollContext

/-- The sensors of all modules, in order, as full handles. -/
def listed (modules : List SubModule) : List FullHandle :=
  modules.zipIdx.flatMap fun (m, moduleIndex) =>
    m.sensorsList.map fun sensor => ⟨moduleIndex, sensor.handle⟩

/-- The tables after the handles of `full` have been assigned, in order. -/
structure Hal.Assigned (hal : Hal) (full : List FullHandle) : Prop where
  next : hal.nextGlobalHandle = full.length + 1
  globalToFull : ∀ g, hal.globalToFull g = if 1 ≤ g then full[(g - 1).toNat]? else none
  isSome : ∀ f ∈ full, (hal.fullToGlobal f).isSome
  inverse : ∀ f g, hal.fullToGlobal f = some g → hal.globalToFull g = some f

namespace Hal

variable {hal : Hal} {full : List FullHandle}

theorem Assigned.new : Hal.new.Assigned [] where
  next := rfl
  globalToFull := by
    intro g
    rw [List.getElem?_nil, ite_self]
    rfl
  isSome := fun _ h => nomatch h
  inverse := fun _ _ h => nomatch h

theorem Assigned.assignGlobalHandle (h : hal.Assigned full) (f : FullHandle) :
    (hal.assignGlobalHandle f).1 = full.length + 1 ∧
      (hal.assignGlobalHandle f).2.Assigned (full ++ [f]) := by
  refine ⟨h.next, ?_, ?_, ?_, ?_⟩
  · change hal.nextGlobalHandle + 1 = _
    rw [h.next, List.length_append, List.length_singleton]
    omega
  · intro g
    change Function.update hal.globalToFull hal.nextGlobalHandle (some f) g = _
    rw [h.next, Function.update_apply, h.globalToFull]
    split
    · next hg =>
        subst hg
        have hlast : ((full.length : Int) + 1 - 1).toNat = full.length := by omega
        rw [if_pos (by omega), hlast, List.getElem?_concat_length]
    · next hg =>
        split
        · rw [List.getElem?_append]
          split
          · rfl
          · next hlen =>
              rw [List.getElem?_eq_none (by omega), List.getElem?_eq_none]
              rw [List.length_singleton]
              omega
        · rfl
  · intro f' hf'
    change (Function.update hal.fullToGlobal f (some hal.nextGlobalHandle) f').isSome = true
    rw [Function.update_apply]
    split
    · rfl
    · next hne =>
        rw [List.mem_append, List.mem_singleton] at hf'
        exact h.isSome f' (hf'.resolve_right hne)
  · intro f' g hg
    change Function.update hal.globalToFull hal.nextGlobalHandle (some f) g = some f'
    change Function.update hal.fullToGlobal f (some hal.nextGlobalHandle) f' = some g at hg
    rw [Function.update_apply] at hg
    split at hg
    · next heq =>
        cases hg
        rw [Function.update_self, heq]
    · have hold := h.inverse f' g hg
      rw [Function.update_of_ne, hold]
      rintro rfl
      rw [h.globalToFull, h.next, if_pos (by omega), List.getElem?_eq_none (by omega)] at hold
      cases hold

@[simp] theorem fixSensorFields_handle (sensor : Sensor) :
    (fixSensorFields sensor).handle = sensor.handle := by
  simp only [fixSensorFields]
  split
  · rfl
  · split <;> rfl

/-- The sensors copied so far have the handles from 1 on. -/
structure Listing (r : List Sensor × Hal) (full : List FullHandle) : Prop where
  assigned : r.2.Assigned full
  handles : r.1.map Sensor.handle = (List.range full.length).map fun k : Nat => (k : Int) + 1

variable {r : List Sensor × Hal}

theorem Listing.addSensor (h : Listing r full) (moduleIndex : Nat) (sensor : Sensor) :
    Listing (Hal.addSensor moduleIndex r sensor) (full ++ [⟨moduleIndex, sensor.handle⟩]) := by
  obtain ⟨hglobal, hassigned⟩ := h.assigned.assignGlobalHandle ⟨moduleIndex, sensor.handle⟩
  refine ⟨hassigned, ?_⟩
  simp only [Hal.addSensor, List.map_append, List.map_cons, List.map_nil, h.handles,
    fixSensorFields_handle, hglobal, List.length_append, List.length_singleton, List.range_succ]

theorem Listing.addSensors (h : Listing r full) (moduleIndex : Nat) (sensors : List Sensor) :
    Listing (sensors.foldl (Hal.addSensor moduleIndex) r)
      (full ++ sensors.map fun sensor => ⟨moduleIndex, sensor.handle⟩) := by
  induction sensors generalizing r full with
  | nil =>
      rw [List.map_nil, List.append_nil]
      exact h
  | cons sensor sensors ih =>
      have hrest := ih (h.addSensor moduleIndex sensor)
      rwa [List.append_assoc] at hrest

theorem Listing.addModules (h : Listing r full) (modules : List (SubModule × Nat)) :
    Listing
      (modules.foldl (fun r (m, moduleIndex) =>
        m.sensorsList.foldl (Hal.addSensor moduleIndex) r) r)
      (full ++ modules.flatMap fun (m, moduleIndex) =>
        m.sensorsList.map fun sensor => ⟨moduleIndex, sensor.handle⟩) := by
  induction modules generalizing r full with
  | nil =>
      rw [List.flatMap_nil, List.append_nil]
      exact h
  | cons m modules ih =>
      have hrest := ih (h.addSensors m.2 m.1.sensorsList)
      rwa [List.append_assoc] at hrest

end Hal

/-- The sensors that `get_sensors_list` gives. -/
def Hal.sensors (hal : Hal) : List Sensor :=
  hal.globalSensorsList.getD []

theorem listing_start (modules : List SubModule) :
    (PollContext.start modules).hal.Assigned (listed modules) ∧
      (PollContext.start modules).hal.sensors.map Sensor.handle =
        (List.range (listed modules).length).map fun k : Nat => (k : Int) + 1 := by
  have h := (Hal.Listing.mk Hal.Assigned.new (by rfl)).addModules (r := ([], Hal.new))
    modules.zipIdx
  rw [List.nil_append] at h
  obtain ⟨⟨hnext, hglobal, hsome, hinv⟩, hhandles⟩ := h
  exact ⟨⟨hnext, hglobal, hsome, hinv⟩, hhandles⟩

end LibraDevice.Sensors
