import LibraDevice.Lib.StepRun
import LibraDevice.Xml.Cfg

/-!
The interface manager: it opens an instance for an interface whose link comes
up, and the instance closes itself when the link goes down. The events, those
that an instance posts included, wait in one queue.
-/

namespace LibraDevice.Ifaces

open LibraDevice.StepRun
open LibraDevice.Xml (IfaceType)

universe u

variable {ν : Type u}

/-- An entry of `iface_table`; `ν` is the type of the names. -/
structure IfaceEntry (ν : Type u) where
  ifaceName : ν
  ifCat : IfaceType
  netlinkInterfaceIndex : Int
deriving DecidableEq, Repr

/-- What stays as it is: the configuration, whether the build is the Android
one, and the names that the kernel has for the interface indices. -/
structure Config (ν : Type u) where
  ipacmOduEnable : Bool
  ipacmOduRouterMode : Bool
  android : Bool
  ifrName : Int → Option ν

namespace Config

/-- The condition for an instance of a WAN interface. -/
def opensWan (cfg : Config ν) : Bool :=
  !cfg.ipacmOduEnable || cfg.ipacmOduRouterMode

end Config

/-- The modes of an `IPACM_Wan`. -/
inductive WanMode
  | q6
  | wlan
  | ecm
deriving DecidableEq, Repr

inductive Kind
  | lan
  | wlan
  | wan (mode : WanMode)
deriving DecidableEq, Repr

/-- An entry of the manager's list with the object it refers to, and whether
that object has not been deleted. -/
structure Instance where
  ipaIfNum : Nat
  kind : Kind
  isActive : Bool
  live : Bool
deriving DecidableEq, Repr

/-- The link events, each with the interface index it comes with. -/
inductive LinkEvent
  | linkUp (ifIndex : Int)
  | usbLinkUp (ifIndex : Int)
  | wlanApLinkUp (ifIndex : Int)
  | wlanStaLinkUp (ifIndex : Int)
  | linkDown (ifIndex : Int)
  | wlanLinkDown (ifIndex : Int)
deriving DecidableEq, Repr

def LinkEvent.ifIndex : LinkEvent → Int
  | linkUp i => i
  | usbLinkUp i => i
  | wlanApLinkUp i => i
  | wlanStaLinkUp i => i
  | linkDown i => i
  | wlanLinkDown i => i

def LinkEvent.isDown : LinkEvent → Bool
  | linkDown _ => true
  | wlanLinkDown _ => true
  | _ => false

inductive Event
  | link (event : LinkEvent)
  | lanDeleteSelf (ifIndex : Nat)
deriving DecidableEq, Repr

/-- What an instance does on an event: nothing, or it turns inactive and posts
`IPA_LAN_DELETE_SELF`, or it deletes itself. -/
inductive Reaction
  | keep
  | close
  | delete
deriving DecidableEq, Repr

namespace Instance

/-- `IPA_LINK_DOWN_EVENT` for the interface `r`, if it is a known one. What the
callback of a deleted object does is not modelled. -/
def onLinkDown (r : Option Nat) (x : Instance) : Reaction :=
  if x.live then
    match x.kind with
    | .lan => if x.isActive ∧ r = some x.ipaIfNum then .close else .keep
    | .wan .q6 => if r = some x.ipaIfNum then .delete else .keep
    | .wan .ecm => .delete
    | .wlan => .keep
    | .wan .wlan => .keep
  else .keep

/-- `IPA_WLAN_LINK_DOWN_EVENT`. -/
def onWlanLinkDown (r : Option Nat) (x : Instance) : Reaction :=
  if x.live then
    match x.kind with
    | .wlan => if x.isActive ∧ r = some x.ipaIfNum then .close else .keep
    | .wan .wlan => if r = some x.ipaIfNum then .delete else .keep
    | .lan => .keep
    | .wan .q6 => .keep
    | .wan .ecm => .keep
  else .keep

/-- `IPA_LAN_DELETE_SELF`. -/
def onLanDeleteSelf (ifIndex : Nat) (x : Instance) : Reaction :=
  if x.live then
    match x.kind with
    | .lan => if ifIndex = x.ipaIfNum then .delete else .keep
    | .wlan => if ifIndex = x.ipaIfNum then .delete else .keep
    | .wan _ => .keep
  else .keep

/-- The instance after a reaction. -/
def after (x : Instance) : Reaction → Option Instance
  | .keep => some x
  | .close => some { x with isActive := false }
  | .delete => none

end Instance

/-- The state of the daemon. The last three fields are what has happened:
whether `iface_table` was indexed outside of its range, the instances that were
torn down while active, each with the interface of the event, and for each
interface whether a link event has opened it since its link last went down. -/
structure Sys (ν : Type u) where
  ifaceTable : List (IfaceEntry ν)
  instances : List Instance
  numWlanApIface : Int
  queue : List Event
  outside : Bool
  torn : List (Nat × Option Nat)
  up : Nat → Bool

namespace Sys

/-- No instance is open, and no linux index is known. -/
def init (table : List (ν × IfaceType)) : Sys ν where
  ifaceTable := table.map fun e => ⟨e.1, e.2, 0⟩
  instances := []
  numWlanApIface := 0
  queue := []
  outside := false
  torn := []
  up := fun _ => false

variable [DecidableEq ν]

/-- `iface_ipa_index_query`: the linux index is searched for, and else mapped by
the name of the interface. -/
def query (cfg : Config ν) (interfaceIndex : Int) (s : Sys ν) : Option Nat × Sys ν :=
  match s.ifaceTable.findIdx? (·.netlinkInterfaceIndex = interfaceIndex) with
  | some i => (some i, s)
  | none =>
      match cfg.ifrName interfaceIndex with
      | none => (none, s)
      | some name =>
          match s.ifaceTable.findIdx? (·.ifaceName = name) with
          | none => (none, s)
          | some i =>
              (some i,
                { s with
                  ifaceTable := s.ifaceTable.modify i fun e =>
                    { e with netlinkInterfaceIndex := interfaceIndex } })

omit [DecidableEq ν] in
/-- The category of an interface. -/
def catOf (s : Sys ν) (i : Nat) : Option IfaceType :=
  s.ifaceTable[i]?.map IfaceEntry.ifCat

def setCat (i : Nat) (cat : IfaceType) (s : Sys ν) : Sys ν :=
  { s with ifaceTable := s.ifaceTable.modify i fun e => { e with ifCat := cat } }

/-- The registrations of an instance. -/
def registr (x : Instance) (s : Sys ν) : Sys ν :=
  { s with instances := s.instances ++ [x] }

/-- `new IPACM_Wlan`. The constructor deletes the object where there are two
already, and goes back to its caller. -/
def newWlan (i : Nat) (s : Sys ν) : Sys ν :=
  if 0 ≤ s.numWlanApIface ∧ s.numWlanApIface ≤ 1 then
    registr ⟨i, .wlan, true, true⟩ { s with numWlanApIface := s.numWlanApIface + 1 }
  else
    s.registr ⟨i, .wlan, true, false⟩

def createIfaceInstance (cfg : Config ν) (ifIndex : Int) (mode : WanMode) (s : Sys ν) : Sys ν :=
  match s.query cfg ifIndex with
  | (none, s) => s
  | (some i, s) =>
      if s.instances.any (·.ipaIfNum = i) then s
      else
        match s.catOf i with
        | some .lanIf => s.registr ⟨i, .lan, true, true⟩
        | some .ethIf => s.registr ⟨i, .lan, true, true⟩
        | some .oduIf => s.registr ⟨i, .lan, true, true⟩
        | some .wlanIf => s.newWlan i
        | some .wanIf => if cfg.opensWan then s.registr ⟨i, .wan mode, true, true⟩ else s
        | some .embmsIf => s.registr ⟨i, .wan mode, true, true⟩
        | _ => s

/-- `iface_table` is indexed with what the query returned. What is read outside
of the table is not known, and the event ends there. -/
def withIndex (r : Option Nat × Sys ν) (f : Nat → Sys ν → Sys ν) : Sys ν :=
  match r with
  | (none, s) => { s with outside := true }
  | (some i, s) => f i s

/-- `IPACM_IfaceManager::event_callback` for the links that come up. -/
def manage (cfg : Config ν) (s : Sys ν) : LinkEvent → Sys ν
  | .linkUp ifIndex =>
      withIndex (s.query cfg ifIndex) fun i s =>
        if s.catOf i = some .wanIf then s.createIfaceInstance cfg ifIndex .q6 else s
  | .usbLinkUp ifIndex =>
      withIndex (s.query cfg ifIndex) fun i s =>
        if s.catOf i = some .wanIf then
          s.createIfaceInstance cfg ifIndex .ecm
        else
          s.createIfaceInstance cfg ifIndex .q6
  | .wlanApLinkUp ifIndex =>
      withIndex (s.query cfg ifIndex) fun i s =>
        if s.catOf i = some .unknownIf then
          (s.setCat i .wlanIf).createIfaceInstance cfg ifIndex .q6
        else s
  | .wlanStaLinkUp ifIndex =>
      -- the Android build does not register for this event
      if cfg.android then s
      else
        withIndex (s.query cfg ifIndex) fun i s =>
          if s.catOf i = some .unknownIf then
            (s.setCat i .wanIf).createIfaceInstance cfg ifIndex .wlan
          else s
  | .linkDown _ => s
  | .wlanLinkDown _ => s

/-- The instances react to an event of the interface `r`. -/
def react (f : Instance → Reaction) (r : Option Nat) (s : Sys ν) : Sys ν :=
  { s with
    instances := s.instances.filterMap fun x => x.after (f x)
    queue := s.queue ++
      (s.instances.filter (f · = .close)).map fun x => .lanDeleteSelf x.ipaIfNum
    torn := s.torn ++
      (s.instances.filter fun x => x.isActive ∧ f x ≠ .keep).map fun x => (x.ipaIfNum, r) }

/-- The query of the listeners, where one of them asks. -/
def listenersQuery (cfg : Config ν) (ifIndex : Int) (asks : Instance → Bool) (s : Sys ν) :
    Option Nat × Sys ν :=
  let r := s.query cfg ifIndex
  if s.instances.any asks then r else (r.1, s)

/-- The callbacks of the instances for the links that go down. -/
def listen (cfg : Config ν) (s : Sys ν) : LinkEvent → Sys ν
  | .linkDown ifIndex =>
      let asks (x : Instance) :=
        x.live && (x.kind = .lan && x.isActive || x.kind = .wan .q6)
      match s.listenersQuery cfg ifIndex asks with
      | (r, s) => s.react (·.onLinkDown r) r
  | .wlanLinkDown ifIndex =>
      let asks (x : Instance) :=
        x.live && (x.kind = .wlan && x.isActive || x.kind = .wan .wlan)
      match s.listenersQuery cfg ifIndex asks with
      | (r, s) =>
          let s' := s.react (·.onWlanLinkDown r) r
          -- whoever goes down leaves its interface without a category
          match r with
          | some i =>
              if s.instances.any (·.onWlanLinkDown r ≠ .keep) then s'.setCat i .unknownIf else s'
          | none => s'
  | _ => s

/-- `IPA_LAN_DELETE_SELF`. -/
def lanDeleteSelf (ifIndex : Nat) (s : Sys ν) : Sys ν :=
  let f (x : Instance) := x.onLanDeleteSelf ifIndex
  let gone := s.instances.filter fun x => x.kind = .wlan ∧ f x = .delete
  react f none { s with numWlanApIface := s.numWlanApIface - gone.length }

omit [DecidableEq ν] in
/-- The event opens an instance of an interface of this category. -/
def opens (cfg : Config ν) (cat : Option IfaceType) : LinkEvent → Bool
  | .linkUp _ => cat = some .wanIf && cfg.opensWan
  | .usbLinkUp _ =>
      match cat with
      | some .lanIf => true
      | some .ethIf => true
      | some .oduIf => true
      | some .wlanIf => true
      | some .wanIf => cfg.opensWan
      | some .embmsIf => true
      | _ => false
  | .wlanApLinkUp _ => cat = some .unknownIf
  | .wlanStaLinkUp _ => !cfg.android && cat = some .unknownIf && cfg.opensWan
  | .linkDown _ => false
  | .wlanLinkDown _ => false

/-- The record of a link event for its interface. -/
def mark (cfg : Config ν) (event : LinkEvent) (s : Sys ν) : Nat → Bool :=
  match (s.query cfg event.ifIndex).1 with
  | none => s.up
  | some i =>
      Function.update s.up i (opens cfg (s.catOf i) event || !event.isDown && s.up i)

/-- A link event is processed. -/
def processLink (cfg : Config ν) (event : LinkEvent) (s : Sys ν) : Sys ν :=
  { (s.manage cfg event).listen cfg event with up := s.mark cfg event }

end Sys

/-- The steps: a link event is posted, or the first event is processed. -/
inductive Act
  | post (event : LinkEvent)
  | process
deriving DecidableEq, Repr

namespace Sys

variable [DecidableEq ν]

def step (cfg : Config ν) (s : Sys ν) : Act → Option (Sys ν)
  | .post event => some { s with queue := s.queue ++ [.link event] }
  | .process =>
      match s.queue with
      | [] => none
      | .link event :: queue => some (processLink cfg event { s with queue := queue })
      | .lanDeleteSelf i :: queue => some (lanDeleteSelf i { s with queue := queue })

def Steps (cfg : Config ν) (s : Sys ν) (a : Act) (s' : Sys ν) : Prop :=
  s.step cfg a = some s'

end Sys

end LibraDevice.Ifaces
