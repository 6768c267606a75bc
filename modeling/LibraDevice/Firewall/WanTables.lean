import LibraDevice.Firewall.Budget

/-!
`flt_rule_v4` and `flt_rule_v6`: the tables of downlink rules that the modem instances share,
and the number of instances that have an address. Every driver call succeeds.
-/

namespace LibraDevice.Firewall

open Backhaul

inductive TcpCtl where
  | fin
  | syn
  | rst
deriving DecidableEq, Repr

/-- An entry of the tables. The rules for TCP have an equation and no attributes. -/
inductive DlRule where
  | rule (rule : FltRule)
  | tcpCtl (flag : TcpCtl)
deriving DecidableEq

/-- `flt_rule_v4` and `num_v4_flt_rule`, or those for IPv6. -/
structure DlTable where
  num : Nat
  rules : Nat → Option DlRule

namespace DlTable

def empty : DlTable := ⟨0, fun _ => none⟩

/-- What the entries are that count. -/
def contents (t : DlTable) : List (Option DlRule) := (List.range t.num).map t.rules

def put (pos : Nat) (r : DlRule) (t : DlTable) : DlTable :=
  { t with rules := Function.update t.rules pos (some r) }

/-- The next entry. -/
def push (t : DlTable) (r : DlRule) : DlTable :=
  { t.put t.num r with num := t.num + 1 }

/-- A destination, and its mask. -/
def setDstV4 (addr mask : UInt32) (attrib : RuleAttrib) : RuleAttrib :=
  { attrib with v4 := { attrib.v4 with dstAddr := addr, dstAddrMask := mask } }

def setDstV6 (word0 mask0 : UInt32) (attrib : RuleAttrib) : RuleAttrib :=
  { attrib with
    v6 := { attrib.v6 with dstAddr := ⟨word0, 0, 0, 0⟩, dstAddrMask := ⟨mask0, 0, 0, 0⟩ } }

/-- The attributes of the default rules, each made from those of the rule before. -/
def dftAttribs (rx : RxProp) (iptype : IpType) : List RuleAttrib :=
  let attrib := Modem.withoutMetaData (rx.rx ⟨0, Nat.zero_lt_two⟩)
  let attrib := { attrib with attribMask := insert .dstAddr attrib.attribMask }
  match iptype with
  | .v4 =>
      let multicast := changeToNetworkOrder .v4 (setDstV4 0xE0000000 0xF0000000 attrib)
      let broadcast := changeToNetworkOrder .v4 (setDstV4 0xFFFFFFFF 0xFFFFFFFF multicast)
      [multicast, broadcast]
  | .v6 =>
      let multicast := changeToNetworkOrder .v6 (setDstV6 0xFF000000 0xFF000000 attrib)
      let linkScoped := changeToNetworkOrder .v6 (setDstV6 0xFE800000 0xFFC00000 multicast)
      let reserved := changeToNetworkOrder .v6 (setDstV6 0xFEC00000 0xFFC00000 linkScoped)
      [multicast, linkScoped, reserved]

def dftFilteringRules (rx : RxProp) (iptype : IpType) : List DlRule :=
  (dftAttribs rx iptype).map (fun attrib => .rule (Modem.toWanDl attrib)) ++
    match iptype with
    | .v4 => []
    | .v6 => [.tcpCtl .fin, .tcpCtl .syn, .tcpCtl .rst]

/-- `add_dft_filtering_rule` on a table whose number is the offset. -/
def addDftFilteringRule (rx : RxProp) (iptype : IpType) (t : DlTable) : DlTable :=
  (dftFilteringRules rx iptype).foldl push t

def delWanFirewallRule (iptype : IpType) (t : DlTable) : DlTable where
  num := numDefaultWanFilterRule iptype
  rules pos := if pos < numDefaultWanFilterRule iptype then t.rules pos else none

def configWanFirewallRule (rx : RxProp) (conf : FirewallConf) (algTable : List Alg)
    (iptype : IpType) (t : DlTable) : DlTable :=
  (Firewall.configWanFirewallRule rx conf algTable iptype).foldl
    (fun t w => { t.put w.pos (.rule w.rule) with num := t.num + 1 })
    { t with num := numDefaultWanFilterRule iptype }

variable {rx : RxProp} {conf : FirewallConf} {algTable : List Alg} {iptype : IpType}
  {t : DlTable}

theorem contents_push (t : DlTable) (r : DlRule) :
    (t.push r).contents = t.contents ++ [some r] := by
  rw [contents, contents, push, List.range_succ, List.map_append]
  congr 1
  · apply List.map_congr_left
    intro pos hpos
    exact Function.update_of_ne (Nat.ne_of_lt (List.mem_range.mp hpos)) _ _
  · exact congrArg (fun r => [r]) (Function.update_self _ _ _)

theorem contents_foldl_push (l : List DlRule) (t : DlTable) :
    (l.foldl push t).contents = t.contents ++ l.map some := by
  induction l generalizing t with
  | nil => exact (List.append_nil _).symm
  | cons r l ih =>
      rw [List.foldl_cons, ih, contents_push, List.append_assoc]
      rfl

theorem foldl_write {l : List Write} (hpos : l.map Write.pos = List.range' t.num l.length) :
    l.foldl (fun t w => { t.put w.pos (.rule w.rule) with num := t.num + 1 }) t =
      (l.map fun w => DlRule.rule w.rule).foldl push t := by
  induction l generalizing t with
  | nil => rfl
  | cons w l ih =>
      rw [List.map_cons, List.length_cons, List.range'_succ] at hpos
      obtain ⟨hw, hl⟩ := List.cons.inj hpos
      have hpush : { t.put w.pos (.rule w.rule) with num := t.num + 1 } =
          t.push (.rule w.rule) := by
        rw [hw]
        rfl
      rw [List.foldl_cons, List.map_cons, List.foldl_cons, hpush]
      exact ih hl

theorem length_dftFilteringRules (rx : RxProp) (iptype : IpType) :
    (dftFilteringRules rx iptype).length = numDefaultWanFilterRule iptype := by
  cases iptype <;> rfl

theorem contents_addDftFilteringRule (h : t.num = 0) :
    (t.addDftFilteringRule rx iptype).contents = (dftFilteringRules rx iptype).map some := by
  have hnone : t.contents = [] := by rw [contents, h]; rfl
  rw [addDftFilteringRule, contents_foldl_push, hnone, List.nil_append]

theorem contents_take {n : Nat} (h : n ≤ t.num) :
    (List.range n).map t.rules = t.contents.take n := by
  rw [contents, ← List.map_take, List.take_range, Nat.min_eq_left h]

/-- The rules of the firewall, which come after the default ones. -/
def firewallRules (rx : RxProp) (conf : FirewallConf) (algTable : List Alg) (iptype : IpType) :
    List DlRule :=
  (Firewall.configWanFirewallRule rx conf algTable iptype).map fun w => .rule w.rule

theorem contents_configWanFirewallRule (h : numDefaultWanFilterRule iptype ≤ t.num) :
    (t.configWanFirewallRule rx conf algTable iptype).contents =
      t.contents.take (numDefaultWanFilterRule iptype) ++
        (firewallRules rx conf algTable iptype).map some := by
  have hpos := configWanFirewallRule_pos rx conf algTable iptype
  have hlen := congrArg List.length hpos
  rw [List.length_map, List.length_range'] at hlen
  rw [← hlen] at hpos
  rw [configWanFirewallRule, foldl_write hpos, contents_foldl_push, ← contents_take h]
  rfl

theorem contents_delWanFirewallRule (h : numDefaultWanFilterRule iptype ≤ t.num) :
    (t.delWanFirewallRule iptype).contents =
      t.contents.take (numDefaultWanFilterRule iptype) := by
  rw [← contents_take h, contents, delWanFirewallRule]
  apply List.map_congr_left
  intro pos hpos
  exact if_pos (List.mem_range.mp hpos)

end DlTable

/-- The properties of the interfaces, and the ports of the ALGs. -/
structure Setup where
  rx : Int → RxProp
  algTable : List Alg

/-- `num_ipv4_modem_pdn`, the tables, and those last given to `AddWanDLFilteringRule`, each
with its counterpart for IPv6. -/
structure Downlink where
  numModemPdn : Fam Int
  table : Fam DlTable
  passed : Fam (List (Option DlRule))

namespace Downlink

def init : Downlink := ⟨⟨0, 0⟩, ⟨.empty, .empty⟩, ⟨[], []⟩⟩

def onTable (g : DlTable → DlTable) (iptype : IpType) (d : Downlink) : Downlink :=
  { d with table := d.table.set (g (d.table.get iptype)) iptype }

/-- `install_wan_filtering_rule`, without eMBMS and while `ipa_sw_rt_enable` is false: software
routing gives the modem another table. -/
def installWanFilteringRule (d : Downlink) : Downlink :=
  { d with passed := ⟨d.table.v4.contents, d.table.v6.contents⟩ }

/-- What is done to the tables for the instance `j`, while the file says `conf`. -/
def firewall (su : Setup) (conf : FirewallConf) (j : Int) (d : Downlink) : FirewallOp → Downlink
  | .delWanFirewallRule iptype => d.onTable (.delWanFirewallRule iptype) iptype
  | .configWanFirewallRule iptype =>
      d.onTable (.configWanFirewallRule (su.rx j) conf su.algTable iptype) iptype
  | .installWanFilteringRule => d.installWanFilteringRule
  | .delDftFirewallRules _ => d
  | .configDftFirewallRules _ => d

/-- `init_fl_rule_ex` of an instance with the index `index`. -/
def initFlRuleEx (su : Setup) (w : Wan) (iptype : IpType) (index : Int) (d : Downlink) :
    Downlink :=
  if w.ipType.supports iptype then d
  else
    let d :=
      if index = 0 then
        d.onTable (fun t =>
          { t with num := 0 }.addDftFilteringRule (su.rx w.ipaIfNum) iptype) iptype
      else d
    d.installWanFilteringRule

/-- One more instance has an address of the family. -/
def addModemPdn (su : Setup) (w : Wan) (iptype : IpType) (d : Downlink) : Downlink :=
  let index := d.numModemPdn.get iptype
  { d with numModemPdn := d.numModemPdn.set (index + 1) iptype }.initFlRuleEx su w iptype index

/-- `handle_addr_evt`, of a modem. -/
def handleAddrEvt (su : Setup) (data : EventDataAddr) (w : Wan) (d : Downlink) : Downlink :=
  match data.iptype with
  | .v4 => d.addModemPdn su w .v4
  | .v6 =>
      if data.ipv6Addr ∈ w.ipv6Addr then d
      else if w.ipv6Addr = [] then d.addModemPdn su w .v6
      else d

/-- The instances that count as gone: for IPv6, one that has had two addresses. -/
def dropsPdn (w : Wan) : IpType → Bool
  | .v4 => w.ipType.supports .v4
  | .v6 => w.ipType.supports .v6 && decide (1 < w.ipv6Addr.length)

def dropModemPdn (w : Wan) (iptype : IpType) (d : Downlink) : Downlink :=
  if dropsPdn w iptype then
    { d with numModemPdn := d.numModemPdn.set (d.numModemPdn.get iptype - 1) iptype }
  else d

/-- "only when the last modem interface goes down, delete default flt rules". -/
def clearLast (w : Wan) (iptype : IpType) (d : Downlink) : Downlink :=
  if w.ipType.supports iptype ∧ d.numModemPdn.get iptype = 0 then
    (d.onTable (fun _ => .empty) iptype).installWanFilteringRule
  else d

/-- `handle_down_evt_ex`, of an instance that is not for eMBMS; `ops` is what it does to the
firewall in between. -/
def handleDownEvtEx (su : Setup) (conf : FirewallConf) (ops : List FirewallOp) (w : Wan)
    (d : Downlink) : Downlink :=
  if w.ipType = .null then d
  else
    let d := (d.dropModemPdn w .v4).dropModemPdn w .v6
    let d := ops.foldl (firewall su conf w.ipaIfNum) d
    (d.clearLast w .v4).clearLast w .v6

end Downlink

/-- Whose properties the default rules are made from, and the firewall that comes after
them: of which instance, and read from which file. -/
structure Content where
  dft : Option Int
  firewall : Option (Int × FirewallConf)

namespace Content

variable {su : Setup} {conf : FirewallConf} {j : Int} {f : IpType} {t : DlTable} {c : Content}

def rules (su : Setup) (f : IpType) (c : Content) : List DlRule :=
  match c.dft with
  | none => []
  | some i =>
      DlTable.dftFilteringRules (su.rx i) f ++
        match c.firewall with
        | none => []
        | some (j, conf) => DlTable.firewallRules (su.rx j) conf su.algTable f

/-- What is done to the firewall of one family. -/
def step (conf : FirewallConf) (j : Int) (f : IpType) (c : Content) : FirewallOp → Content
  | .delWanFirewallRule g => if g = f then { c with firewall := none } else c
  | .configWanFirewallRule g => if g = f then { c with firewall := some (j, conf) } else c
  | _ => c

end Content

/-- The table holds the rules it stands for. -/
def DlTable.Holds (su : Setup) (f : IpType) (t : DlTable) (c : Content) : Prop :=
  t.contents = (c.rules su f).map some

namespace DlTable

variable {su : Setup} {conf : FirewallConf} {i j : Int} {f : IpType} {t : DlTable} {c : Content}

theorem length_contents (t : DlTable) : t.contents.length = t.num := by
  rw [contents, List.length_map, List.length_range]

theorem Holds.dft_le (h : t.Holds su f c) (hdft : c.dft = some i) :
    numDefaultWanFilterRule f ≤ t.num ∧
      t.contents.take (numDefaultWanFilterRule f) = (dftFilteringRules (su.rx i) f).map some := by
  have hlen := length_dftFilteringRules (su.rx i) f
  rw [Holds, Content.rules, hdft, List.map_append] at h
  constructor
  · rw [← length_contents, h, List.length_append, List.length_map, hlen]
    exact Nat.le_add_right _ _
  · rw [h]
    apply List.take_left'
    rw [List.length_map, hlen]

theorem Holds.delWanFirewallRule (h : t.Holds su f c) (hdft : c.dft ≠ none) :
    (t.delWanFirewallRule f).Holds su f { c with firewall := none } := by
  obtain ⟨i, hi⟩ := Option.ne_none_iff_exists'.mp hdft
  obtain ⟨hle, htake⟩ := h.dft_le hi
  rw [Holds, contents_delWanFirewallRule hle, htake, Content.rules]
  dsimp only
  rw [hi]
  exact congrArg (List.map some) (List.append_nil _).symm

theorem Holds.configWanFirewallRule (h : t.Holds su f c) (hdft : c.dft ≠ none) :
    (t.configWanFirewallRule (su.rx j) conf su.algTable f).Holds su f
      { c with firewall := some (j, conf) } := by
  obtain ⟨i, hi⟩ := Option.ne_none_iff_exists'.mp hdft
  obtain ⟨hle, htake⟩ := h.dft_le hi
  rw [Holds, contents_configWanFirewallRule hle, htake, Content.rules]
  dsimp only
  rw [hi]
  exact List.map_append.symm

theorem holds_addDftFilteringRule (t : DlTable) :
    ({ t with num := 0 }.addDftFilteringRule (su.rx i) f).Holds su f ⟨some i, none⟩ := by
  rw [Holds, contents_addDftFilteringRule rfl]
  exact congrArg (List.map some) (List.append_nil _).symm

theorem holds_empty : DlTable.empty.Holds su f ⟨none, none⟩ := rfl

end DlTable

/-- What is done concerns the family. -/
def Touches (f : IpType) (op : FirewallOp) : Prop :=
  op = .delWanFirewallRule f ∨ op = .configWanFirewallRule f

namespace Downlink

variable {su : Setup} {conf : FirewallConf} {j : Int} {f g : IpType} {d : Downlink} {w : Wan}
  {ops : List FirewallOp}

theorem onTable_get (h : DlTable → DlTable) (f g : IpType) (d : Downlink) :
    (d.onTable h f).table.get g = if g = f then h (d.table.get g) else d.table.get g := by
  rw [onTable, Fam.get_set]
  split
  case isTrue heq => rw [heq]
  case isFalse => rfl

theorem firewall_holds {op : FirewallOp} {c : Content} (h : (d.table.get f).Holds su f c)
    (hdft : Touches f op → c.dft ≠ none) :
    ((d.firewall su conf j op).table.get f).Holds su f (c.step conf j f op) := by
  cases op with
  | delWanFirewallRule g =>
      rw [firewall, Content.step, onTable_get]
      rcases eq_or_ne g f with rfl | hg
      · rw [if_pos rfl, if_pos rfl]
        exact h.delWanFirewallRule (hdft (Or.inl rfl))
      · rw [if_neg hg, if_neg hg.symm]
        exact h
  | configWanFirewallRule g =>
      rw [firewall, Content.step, onTable_get]
      rcases eq_or_ne g f with rfl | hg
      · rw [if_pos rfl, if_pos rfl]
        exact h.configWanFirewallRule (hdft (Or.inr rfl))
      · rw [if_neg hg, if_neg hg.symm]
        exact h
  | installWanFilteringRule => exact h
  | delDftFirewallRules _ => exact h
  | configDftFirewallRules _ => exact h

theorem firewall_numModemPdn (op : FirewallOp) :
    (d.firewall su conf j op).numModemPdn = d.numModemPdn := by
  cases op <;> rfl

theorem foldl_firewall_numModemPdn (ops : List FirewallOp) (d : Downlink) :
    (ops.foldl (firewall su conf j) d).numModemPdn = d.numModemPdn := by
  induction ops generalizing d with
  | nil => rfl
  | cons op ops ih => rw [List.foldl_cons, ih, firewall_numModemPdn]

end Downlink

namespace Content

variable {conf : FirewallConf} {j : Int} {f : IpType} {op : FirewallOp} {ops : List FirewallOp}

def run (conf : FirewallConf) (j : Int) (f : IpType) (ops : List FirewallOp) (c : Content) :
    Content :=
  ops.foldl (step conf j f) c

theorem step_dft (c : Content) (op : FirewallOp) : (c.step conf j f op).dft = c.dft := by
  cases op with
  | delWanFirewallRule g =>
      rw [step]
      split <;> rfl
  | configWanFirewallRule g =>
      rw [step]
      split <;> rfl
  | _ => rfl

theorem run_dft (c : Content) (ops : List FirewallOp) : (c.run conf j f ops).dft = c.dft := by
  induction ops generalizing c with
  | nil => rfl
  | cons op ops ih => exact (ih (c.step conf j f op)).trans (step_dft c op)

/-- A firewall that is there afterwards was there, or is the one of the instance. -/
theorem run_forall {P : Int × FirewallConf → Prop} {c : Content} (h : ∀ x ∈ c.firewall, P x)
    (hnew : P (j, conf)) (ops : List FirewallOp) : ∀ x ∈ (c.run conf j f ops).firewall, P x := by
  induction ops generalizing c with
  | nil => exact h
  | cons op ops ih =>
      apply ih
      cases op with
      | delWanFirewallRule g =>
          rw [step]
          split
          · rintro x ⟨⟩
          · exact h
      | configWanFirewallRule g =>
          rw [step]
          split
          · rintro x ⟨⟩
            exact hnew
          · exact h
      | _ => exact h

end Content

/-- Whose firewall there is, after a step for the instance `j`. -/
def ownerStep (j : Int) (f : IpType) (owner : Option Int) : FirewallOp → Option Int
  | .delWanFirewallRule g => if g = f then none else owner
  | .configWanFirewallRule g => if g = f then some j else owner
  | _ => owner

def owner (j : Int) (f : IpType) (ops : List FirewallOp) (x : Option Int) : Option Int :=
  ops.foldl (ownerStep j f) x

theorem owner_append (j : Int) (f : IpType) (ops ops' : List FirewallOp) (x : Option Int) :
    owner j f (ops ++ ops') x = owner j f ops' (owner j f ops x) :=
  List.foldl_append

theorem Content.run_owner {conf : FirewallConf} {j : Int} {f : IpType} (c : Content)
    (ops : List FirewallOp) :
    (c.run conf j f ops).firewall.map Prod.fst = owner j f ops (c.firewall.map Prod.fst) := by
  induction ops generalizing c with
  | nil => rfl
  | cons op ops ih =>
      have hstep : (c.step conf j f op).firewall.map Prod.fst =
          ownerStep j f (c.firewall.map Prod.fst) op := by
        cases op with
        | delWanFirewallRule g =>
            rw [Content.step, ownerStep]
            split <;> rfl
        | configWanFirewallRule g =>
            rw [Content.step, ownerStep]
            split <;> rfl
        | _ => rfl
      exact (ih (c.step conf j f op)).trans (congrArg (owner j f ops) hstep)

namespace Downlink

variable {su : Setup} {conf : FirewallConf} {j : Int} {f : IpType} {d : Downlink}
  {ops ops' : List FirewallOp}

theorem foldl_firewall_holds {c : Content} (h : (d.table.get f).Holds su f c)
    (hdft : (∃ op ∈ ops, Touches f op) → c.dft ≠ none) :
    ((ops.foldl (firewall su conf j) d).table.get f).Holds su f (c.run conf j f ops) := by
  induction ops generalizing d c with
  | nil => exact h
  | cons op ops ih =>
      apply ih (firewall_holds h fun htouch => hdft ⟨op, List.mem_cons_self, htouch⟩)
      rintro ⟨op', hop', htouch⟩
      rw [Content.step_dft]
      exact hdft ⟨op', List.mem_cons_of_mem op hop', htouch⟩

/-- The modem has the tables as they are. -/
def Synced (d : Downlink) : Prop :=
  d.passed = ⟨d.table.v4.contents, d.table.v6.contents⟩

/-- The steps leave nothing untold. -/
def Closed (ops : List FirewallOp) : Prop :=
  ∀ (su : Setup) (conf : FirewallConf) (j : Int) (d : Downlink), d.Synced →
    (ops.foldl (firewall su conf j) d).Synced

theorem closed_nil : Closed [] := fun _ _ _ _ h => h

theorem Closed.append (h : Closed ops) (h' : Closed ops') : Closed (ops ++ ops') := by
  intro su conf j d hd
  rw [List.foldl_append]
  exact h' su conf j _ (h su conf j d hd)

theorem closed_install (ops : List FirewallOp) : Closed (ops ++ [.installWanFilteringRule]) := by
  intro su conf j d hd
  rw [List.foldl_append]
  rfl

theorem Synced.install (d : Downlink) : d.installWanFilteringRule.Synced := rfl

end Downlink

end LibraDevice.Firewall
