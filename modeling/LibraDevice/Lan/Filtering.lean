import LibraDevice.Backhaul.Iface
import LibraDevice.LanToLan.Client
import LibraDevice.Lib.Ledger
import LibraDevice.Lib.KeyedList

/-!
The resources a LAN or WLAN interface has in the IPA driver, and its filter rules, as
`IPACM_Filtering` adds, rewrites and deletes them. Additions and deletions succeed;
a deletion of what is not live is recorded.
-/

namespace LibraDevice.Lan

open Backhaul Ledger
open LanToLan (IpAddr MacAddr)

/-- The tables of `IPACM_Config` that the rules of clients go to. -/
inductive RtTbl where
  | lanV4
  | v6
  | wanV6
deriving DecidableEq, Repr

/-- `IPA_CLIENT_APPS_LAN_CONS`, or the pipe of a TX property, with its attributes. -/
inductive RtDst where
  | appsLanCons
  | tx (txIndex : Nat)
deriving DecidableEq, Repr

inductive DstAddr where
  | v4 (addr : UInt32)
  | v6 (addr : IpAddr)
deriving DecidableEq, Repr

/-- `ipa_rt_rule_add`. The destination mask is all ones. -/
structure RtRule where
  rtTbl : RtTbl
  dst : RtDst
  hdrHdl : Hdl
  dstAddr : DstAddr
deriving DecidableEq, Repr

/-- What has handles of its own. -/
inductive Kind where
  | rt (iptype : IpType)
  | hdr
deriving DecidableEq, Repr

inductive Resource where
  | rt (rule : RtRule)
  | hdr (iptype : IpType) (mac : MacAddr)
deriving DecidableEq, Repr

/-- The live resources, the handles that will be given out next, and those deleted while
they were not live. -/
structure IpaDriver where
  live : Kind → Hdl → Option Resource
  supply : List Hdl
  dead : List (Kind × Hdl)

namespace IpaDriver

/-- Nothing is live yet. -/
def init (supply : List Hdl) : IpaDriver := ⟨fun _ _ => none, supply, []⟩

/-- `AddRoutingRule` and `AddHeader`: the handle is not in use. -/
def add (kind : Kind) (r : Resource) (d : IpaDriver) : Option (Hdl × IpaDriver) :=
  match d.supply with
  | [] => none
  | h :: supply =>
      if h ≠ 0 ∧ (d.live kind h).isNone then
        some (h, { d with
          live := Function.update d.live kind (Function.update (d.live kind) h (some r))
          supply := supply })
      else none

/-- `IPA_IOC_DEL_RT_RULE` and `IPA_IOC_DEL_HDR`. -/
def delete (kind : Kind) (h : Hdl) (d : IpaDriver) : IpaDriver :=
  match d.live kind h with
  | none => { d with dead := (kind, h) :: d.dead }
  | some _ =>
      { d with live := Function.update d.live kind (Function.update (d.live kind) h none) }

/-- `DeleteRoutingHdl`, which ignores the handle 0. -/
def deleteRoutingHdl (iptype : IpType) (d : IpaDriver) (h : Hdl) : IpaDriver :=
  if h = 0 then d else d.delete (.rt iptype) h

/-- `DeleteHeaderHdl`, which fails on the handle 0. -/
def deleteHeaderHdl (h : Hdl) (d : IpaDriver) : Bool × IpaDriver :=
  if h = 0 then (false, d) else (true, d.delete .hdr h)

end IpaDriver

open KeyedList

/-- `ipa_private_subnet`. -/
structure PrivateSubnet where
  subnetAddr : UInt32
  subnetMask : UInt32
deriving DecidableEq, Repr

/-- `ipa_ioc_ext_intf_prop`, without what is the same for all properties of a family.
`eqAttrib` stands for the equation, which is only copied. -/
structure ExtProp where
  eqAttrib : Nat
  rtTblIdx : UInt32
  filterHdl : UInt32
deriving DecidableEq, Repr

/-- What a filter rule of a LAN or WLAN pipe matches. The rules `init_fl_rule` installs are
counted, `wan` is the default rule for a station backhaul. -/
inductive FltRule where
  | dummy
  | dft (iptype : IpType) (i : Nat)
  | privateSubnet (subnet : PrivateSubnet)
  | ipv6Icmp
  | ipv6Prefix (word0 word1 : UInt32)
  | uplink (iptype : IpType) (prop : ExtProp)
  | wan (iptype : IpType)
deriving DecidableEq, Repr

/-- The rules of an interface, and those that come and go with the backhaul. -/
inductive RuleClass where
  | base
  | ipv6Prefix
  | uplink
  | wan
deriving DecidableEq, Repr

def FltRule.ruleClass : FltRule → RuleClass
  | .ipv6Prefix _ _ => .ipv6Prefix
  | .uplink _ _ => .uplink
  | .wan _ => .wan
  | _ => .base

/-- A filter rule on the pipe `ep`. -/
structure FltEntry where
  hdl : Hdl
  ep : Nat
  rule : FltRule
deriving DecidableEq, Repr

/-- The indices `SendFilteringRuleIndex` has sent for the uplink rules of a family, the
handles these rules were given and the list of their pipe once they were added. -/
structure Notice where
  iptype : IpType
  filterIndex : List Int
  hdls : List Hdl
  pipe : List FltEntry
deriving DecidableEq, Repr

/-- The lists of all pipes, in their order, the indices sent, and the handles that were
passed while they were not live. -/
structure FltDriver where
  rules : Fam (List FltEntry)
  notices : List Notice
  dead : List Hdl
deriving DecidableEq, Repr

/-- The handles the driver gives for new rules; none where it refuses them. -/
abbrev Answer := Option (List Hdl)

namespace FltDriver

def hdls (d : FltDriver) (f : IpType) : List Hdl := (d.rules.get f).map FltEntry.hdl

/-- The list of a pipe. -/
def pipe (d : FltDriver) (ep : Nat) (f : IpType) : List FltEntry :=
  (d.rules.get f).filter fun e => e.ep = ep

/-- The handles are not in use. -/
def Fresh (d : FltDriver) (hdls : List Hdl) : Prop :=
  hdls.Nodup ∧ ∀ h ∈ hdls, h ≠ 0 ∧ h ∉ d.hdls .v4 ∧ h ∉ d.hdls .v6

instance instDecidableFresh (d : FltDriver) (hdls : List Hdl) : Decidable (d.Fresh hdls) :=
  -- over the list, and not over all handles
  have : Decidable (∀ h ∈ hdls, h ≠ 0 ∧ h ∉ d.hdls .v4 ∧ h ∉ d.hdls .v6) :=
    List.decidableBAll _ hdls
  inferInstanceAs (Decidable (hdls.Nodup ∧ _))

/-- `AddFilteringRule` with `at_rear` set, where the driver takes the rules. -/
def addFilteringRule (ep : Nat) (f : IpType) (rules : List FltRule) (hdls : List Hdl)
    (d : FltDriver) : Option FltDriver :=
  if hdls.length = rules.length ∧ d.Fresh hdls then
    some { d with
      rules := d.rules.set
        (d.rules.get f ++ List.zipWith (fun h rule => ⟨h, ep, rule⟩) hdls rules) f }
  else none

/-- `DeleteFilteringHdls`. It passes over the handle 0, the driver may refuse others. -/
def deleteFilteringHdls (f : IpType) (refused hdls : List Hdl) (d : FltDriver) :
    Bool × FltDriver :=
  let deletion := deleteEach FltEntry.hdl 0 refused hdls (d.rules.get f)
  (deletion.ok, { d with
    rules := d.rules.set deletion.entries f
    dead := d.dead ++ deletion.dead })

/-- `ModifyFilteringRule`, where the driver does not refuse the call: the rules with live
handles become new ones. -/
def modifyFilteringRule (f : IpType) (new : List (Hdl × FltRule)) (d : FltDriver) :
    Bool × FltDriver :=
  let dead := (new.map Prod.fst).filter (· ∉ d.hdls f)
  (dead = [], { d with
    rules := d.rules.set
      (new.foldl (fun l p => rewrite FltEntry.hdl p.1 (fun e => { e with rule := p.2 }) l)
        (d.rules.get f)) f
    dead := d.dead ++ dead })

variable {d d' : FltDriver} {ep : Nat} {f g : IpType} {rules : List FltRule}
  {hs refused : List Hdl} {new : List (Hdl × FltRule)}

/-- Every handle is in use once, and 0 is none. -/
structure Sound (d : FltDriver) : Prop where
  nodup : ∀ f, (d.hdls f).Nodup
  null : ∀ f, 0 ∉ d.hdls f

theorem mem_hdls {h : Hdl} : h ∈ d.hdls f ↔ ∃ e ∈ d.rules.get f, e.hdl = h := List.mem_map

theorem mem_pipe {e : FltEntry} : e ∈ d.pipe ep f ↔ e ∈ d.rules.get f ∧ e.ep = ep := by
  rw [pipe, List.mem_filter, decide_eq_true_iff]

theorem Sound.entry_unique (h : d.Sound) {e e' : FltEntry} (he : e ∈ d.rules.get f)
    (he' : e' ∈ d.rules.get f) (heq : e.hdl = e'.hdl) : e = e' :=
  List.inj_on_of_nodup_map (h.nodup f) he he' heq

/-- The entries of new rules. -/
def entries (ep : Nat) (hs : List Hdl) (rules : List FltRule) : List FltEntry :=
  List.zipWith (fun h rule => ⟨h, ep, rule⟩) hs rules

theorem entries_hdl (hlen : hs.length = rules.length) :
    (entries ep hs rules).map FltEntry.hdl = hs := by
  rw [entries, List.map_zipWith]
  induction hs generalizing rules with
  | nil => rfl
  | cons h hs ih =>
      rcases rules with _ | ⟨rule, rules⟩
      · cases hlen
      · rw [List.zipWith_cons_cons, ih (Nat.succ.inj hlen)]

theorem entries_ep {e : FltEntry} (he : e ∈ entries ep hs rules) : e.ep = ep := by
  obtain ⟨i, hi, rfl⟩ := List.mem_iff_getElem.mp he
  simp [entries]

theorem entries_mem_rule {e : FltEntry} (he : e ∈ entries ep hs rules) : e.rule ∈ rules := by
  obtain ⟨i, hi, rfl⟩ := List.mem_iff_getElem.mp he
  simp [entries]

/-- What `AddFilteringRule` leaves. -/
structure Added (ep : Nat) (f : IpType) (rules : List FltRule) (hs : List Hdl)
    (d d' : FltDriver) : Prop where
  length : hs.length = rules.length
  fresh : d.Fresh hs
  rules_self : d'.rules.get f = d.rules.get f ++ entries ep hs rules
  rules_other : ∀ g ≠ f, d'.rules.get g = d.rules.get g
  notices : d'.notices = d.notices
  dead : d'.dead = d.dead

theorem added (h : d.addFilteringRule ep f rules hs = some d') : d.Added ep f rules hs d' := by
  rw [addFilteringRule] at h
  split at h
  case isFalse => cases h
  case isTrue hfits =>
    cases h
    refine ⟨hfits.1, hfits.2, ?_, ?_, rfl, rfl⟩
    · simp [entries]
    · intro g hg
      simp [hg]

theorem Fresh.not_mem (h : d.Fresh hs) {k : Hdl} (hk : k ∈ hs) (f : IpType) : k ∉ d.hdls f := by
  cases f
  · exact (h.2 k hk).2.1
  · exact (h.2 k hk).2.2

theorem Added.hdls (h : d.Added ep f rules hs d') (g : IpType) :
    d'.hdls g = if g = f then d.hdls g ++ hs else d.hdls g := by
  rw [FltDriver.hdls, FltDriver.hdls]
  split
  case isTrue heq =>
    rw [heq, h.rules_self, List.map_append, entries_hdl h.length]
  case isFalse hne => rw [h.rules_other g hne]

theorem Added.sound (h : d.Added ep f rules hs d') (hd : d.Sound) : d'.Sound := by
  constructor
  · intro g
    rw [h.hdls]
    split
    case isTrue =>
      refine List.nodup_append.mpr ⟨hd.nodup g, h.fresh.1, ?_⟩
      rintro k hk k' hk' rfl
      exact h.fresh.not_mem hk' g hk
    case isFalse => exact hd.nodup g
  · intro g
    rw [h.hdls]
    split
    case isTrue =>
      rw [List.mem_append, not_or]
      exact ⟨hd.null g, fun hmem => (h.fresh.2 0 hmem).1 rfl⟩
    case isFalse => exact hd.null g

theorem pipe_append (l l' : List FltEntry) (ep : Nat) :
    (l ++ l').filter (fun e => decide (e.ep = ep)) =
      l.filter (fun e => decide (e.ep = ep)) ++ l'.filter (fun e => decide (e.ep = ep)) :=
  List.filter_append l l'

theorem Added.pipe (h : d.Added ep f rules hs d') (g : IpType) :
    d'.pipe ep g = if g = f then d.pipe ep g ++ entries ep hs rules else d.pipe ep g := by
  rw [FltDriver.pipe, FltDriver.pipe]
  split
  case isTrue heq =>
    rw [heq, h.rules_self, pipe_append]
    congr 1
    rw [List.filter_eq_self]
    intro e he
    exact decide_eq_true (entries_ep he)
  case isFalse hne => rw [h.rules_other g hne]

/-- What `DeleteFilteringHdls` leaves where it deletes all it is given. -/
structure Deleted (f : IpType) (hs : List Hdl) (d d' : FltDriver) : Prop where
  rules_self : d'.rules.get f = without FltEntry.hdl hs (d.rules.get f)
  rules_other : ∀ g ≠ f, d'.rules.get g = d.rules.get g
  notices : d'.notices = d.notices

theorem deleteFilteringHdls_spec (hd : d.Sound) (hlive : ∀ h ∈ hs, h ≠ 0 → h ∈ d.hdls f)
    (hrefused : ∀ h ∈ hs, h ∉ refused) (hnodup : (hs.filter (· ≠ 0)).Nodup) :
    ∃ d', d.deleteFilteringHdls f refused hs = (true, d') ∧ d.Deleted f hs d' ∧
      d'.dead = d.dead := by
  rw [deleteFilteringHdls, deleteEach_eq hlive hrefused (hd.null f) hnodup]
  refine ⟨_, rfl, ⟨?_, ?_, rfl⟩, List.append_nil _⟩
  · simp
  · intro g hg
    simp [hg]

theorem Deleted.hdls_sublist (h : d.Deleted f hs d') (g : IpType) :
    (d'.hdls g).Sublist (d.hdls g) := by
  rw [hdls, hdls]
  rcases eq_or_ne g f with rfl | hne
  · rw [h.rules_self]
    exact (without_sublist hs _).map _
  · rw [h.rules_other g hne]

theorem Deleted.sound (h : d.Deleted f hs d') (hd : d.Sound) : d'.Sound :=
  ⟨fun g => (hd.nodup g).sublist (h.hdls_sublist g),
    fun g hmem => hd.null g ((h.hdls_sublist g).subset hmem)⟩

theorem Deleted.pipe (h : d.Deleted f hs d') (ep : Nat) (g : IpType) :
    d'.pipe ep g = if g = f then without FltEntry.hdl hs (d.pipe ep g) else d.pipe ep g := by
  rw [FltDriver.pipe, FltDriver.pipe]
  split
  case isTrue heq =>
    rw [heq, h.rules_self, without, without, List.filter_filter, List.filter_filter]
    apply List.filter_congr
    intro e _
    exact Bool.and_comm _ _
  case isFalse hne => rw [h.rules_other g hne]

end FltDriver

end LibraDevice.Lan
