import LibraDevice.Firewall.Budget
import LibraDevice.Lib.Ledger
import LibraDevice.Lib.StepRun
import LibraDevice.Xml.FirewallCfg

/-!
`IPACM_Wan` in station mode: the handles of its firewall rules over default routes and
changes of the firewall. The driver keeps a ledger of the live rules.
-/

namespace LibraDevice.Firewall

open Backhaul Ledger StepRun
open Xml (maxFirewallEntries)

def HdlSlot.isFirewall : HdlSlot → Bool
  | .firewall _ _ => true
  | _ => false

/-- The members of the instance that concern its filter rules, and the live rules of each
family. -/
structure StaFirewall where
  active : IpType → Bool
  numFirewall : IpType → Nat
  hdl : HdlSlot → Hdl
  live : IpType → Hdl → Option FltRule

namespace StaFirewall

/-- The driver gives a handle that is in use for no rule. -/
def addFilteringRule (s : StaFirewall) (iptype : IpType) (i : Installed) (h : Hdl) :
    Option StaFirewall :=
  if h ≠ 0 ∧ (s.live .v4 h).isNone ∧ (s.live .v6 h).isNone then
    some { s with
      live := Function.update s.live iptype (Function.update (s.live iptype) h (some i.rule))
      hdl := Function.update s.hdl i.hdl h
      numFirewall :=
        match i.hdl with
        | .firewall f _ => Function.update s.numFirewall f (s.numFirewall f + 1)
        | _ => s.numFirewall }
  else none

/-- The rules one by one, with the handles the driver gives. -/
def addFilteringRules (iptype : IpType) :
    List Installed → List Hdl → StaFirewall → Option StaFirewall
  | [], [], s => some s
  | i :: is, h :: hs, s => (s.addFilteringRule iptype i h).bind (addFilteringRules iptype is hs)
  | _, _, _ => none

def firewallHdls (s : StaFirewall) (iptype : IpType) : List Hdl :=
  (List.range (s.numFirewall iptype)).map fun i => s.hdl (.firewall iptype i)

/-- With the handles passed to `DeleteFilteringHdls` that are not live. -/
def delDftFirewallRules (rxProp : Option RxProp) (iptype : IpType) (s : StaFirewall) :
    StaFirewall × List Hdl :=
  match rxProp with
  | none => (s, [])
  | some _ =>
      if s.active iptype = false ∨ maxFirewallEntries < s.numFirewall iptype then (s, [])
      else
        let user := deleteAll 0 (s.firewallHdls iptype) (s.live iptype)
        match iptype with
        | .v4 =>
            let d := user.andThen (deleteAll 0 [s.hdl (.dftWan 0)])
            ({ s with
              live := Function.update s.live .v4 d.live
              numFirewall := if d.ok then Function.update s.numFirewall .v4 0
                else s.numFirewall }, d.dead)
        | .v6 =>
            let d := (user.andThen (deleteAll 0 [s.hdl (.dftWan 1)])).andThen
              (deleteAll 0 [s.hdl (.dftWan 2)])
            if d.ok then
              -- a failure here is only logged
              let frag := deleteAll 0 [s.hdl .ipv6FragFirewall] d.live
              ({ s with
                live := Function.update s.live .v6 frag.live
                numFirewall := Function.update s.numFirewall .v6 0 }, d.dead ++ frag.dead)
            else ({ s with live := Function.update s.live .v6 d.live }, d.dead)

end StaFirewall

/-- A call that returned, with the state it left. -/
inductive Call where
  | deleted (iptype : IpType) (dead : List Hdl) (after : StaFirewall)
  | configured (iptype : IpType) (conf : FirewallConf) (after : StaFirewall)

/-- `hdrSet` tells that the header of the interface is complete; `conf` is what the file
holds when it is read. -/
inductive StaEvent where
  | routeAdd (iptype : IpType) (hdrSet : Bool) (conf : FirewallConf)
  | routeDel (iptype : IpType)
  | firewallChange (conf : IpType → FirewallConf)

namespace StaFirewall

def config (rxProp : Option RxProp) (iptype : IpType) (conf : FirewallConf) (hdls : List Hdl)
    (s : StaFirewall) : Option (StaFirewall × List Call) :=
  (addFilteringRules iptype (configDftFirewallRules rxProp conf iptype) hdls s).map
    fun s' => (s', [.configured iptype conf s'])

def handleRouteAddEvt (rxProp : Option RxProp) (iptype : IpType) (conf : FirewallConf)
    (hdls : List Hdl) (s : StaFirewall) : Option (StaFirewall × List Call) :=
  config rxProp iptype conf hdls { s with active := Function.update s.active iptype true }

/-- One family at `IPA_FIREWALL_CHANGE_EVENT`. -/
def handleFirewallChange (rxProp : Option RxProp) (iptype : IpType) (conf : FirewallConf)
    (hdls : List Hdl) (s : StaFirewall) : Option (StaFirewall × List Call) :=
  if s.active iptype then
    let (s', dead) := delDftFirewallRules rxProp iptype s
    (config rxProp iptype conf hdls s').map fun (s'', calls) =>
      (s'', .deleted iptype dead s' :: calls)
  else some (s, [])

/-- `hdls` are the handles the driver gives for the rules of each family. -/
def eventCallback (rxProp : Option RxProp) (hdls : IpType → List Hdl) (s : StaFirewall) :
    StaEvent → Option (StaFirewall × List Call)
  | .routeAdd iptype hdrSet conf =>
      if s.active iptype = false ∧ hdrSet then
        handleRouteAddEvt rxProp iptype conf (hdls iptype) s
      else some (s, [])
  | .routeDel iptype =>
      if s.active iptype then
        let (s', dead) := delDftFirewallRules rxProp iptype s
        some ({ s' with active := Function.update s'.active iptype false },
          [.deleted iptype dead s'])
      else some (s, [])
  | .firewallChange conf => do
      let (s4, calls4) ← handleFirewallChange rxProp .v4 (conf .v4) (hdls .v4) s
      let (s6, calls6) ← handleFirewallChange rxProp .v6 (conf .v6) (hdls .v6) s4
      return (s6, calls4 ++ calls6)

/-- The instance when it is made: the handles are not initialised. -/
structure New (s : StaFirewall) : Prop where
  active : ∀ f, s.active f = false
  numFirewall : ∀ f, s.numFirewall f = 0
  live : ∀ f h, s.live f h = none

/-- The rules `rules` and no others are live in the family, each under the handle in its
slot, and those of the entries are counted. -/
structure Holds (s : StaFirewall) (iptype : IpType) (rules : List Installed) : Prop where
  accounted : Accounted (s.live iptype) (rules.map fun i => (s.hdl i.hdl, i.rule))
  counted : s.numFirewall iptype = rules.countP fun i => i.hdl.isFirewall

end StaFirewall

/-- A deletion passes live handles and leaves no rule; a configuration leaves its rules. -/
def Call.Ok (rxProp : Option RxProp) : Call → Prop
  | .deleted iptype dead after => dead = [] ∧ ∀ h, after.live iptype h = none
  | .configured iptype conf after => after.Holds iptype (configDftFirewallRules rxProp conf iptype)

end LibraDevice.Firewall
