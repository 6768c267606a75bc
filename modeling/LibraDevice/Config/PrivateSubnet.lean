import LibraDevice.Lib.Rows
import LibraDevice.Lib.StepRun
import LibraDevice.Xml.Cfg
import Mathlib.Data.List.Induction

/-!
The private subnets of `IPACM_Config`: a table of addresses with their masks.
A deletion moves the addresses behind it down, and leaves the masks in place.
-/

namespace LibraDevice.Config

open LibraDevice.Rows
open LibraDevice.StepRun
open LibraDevice.Xml
open Backhaul (maxPrivateSubnetEntries)

/-- The address is in the subnet, under the subnet's own mask. -/
def Matches (subnet : PrivateSubnet) (ipAddr : UInt32) : Prop :=
  subnet.subnetAddr = subnet.subnetMask &&& ipAddr

instance instDecidableMatches (subnet : PrivateSubnet) (ipAddr : UInt32) :
    Decidable (Matches subnet ipAddr) :=
  inferInstanceAs (Decidable (_ = _))

/-- `posted` are the interfaces of the `IPA_PRIVATE_SUBNET_CHANGE_EVENT`s, and
the table goes on with what lies behind it. -/
structure SubnetConfig where
  privateSubnetTable : Nat → PrivateSubnet
  ipaNumPrivateSubnet : Nat
  posted : List Int

namespace SubnetConfig

def new : SubnetConfig where
  privateSubnetTable := fun _ => ⟨0, 0⟩
  ipaNumPrivateSubnet := 0
  posted := []

/-- The part of `IPACM_Config::Init` after the file has been read. -/
def init (c : SubnetConfig) (cfg : IpacmConf) : SubnetConfig :=
  { c with
    privateSubnetTable := fun i =>
      if i < cfg.numSubnetEntries.toNat then cfg.privateSubnetEntries i
      else if i < maxPrivateSubnetEntries then ⟨0, 0⟩
      else c.privateSubnetTable i
    ipaNumPrivateSubnet := cfg.numSubnetEntries.toNat }

/-- The entries in use. -/
def entries (c : SubnetConfig) : List PrivateSubnet :=
  rows c.privateSubnetTable c.ipaNumPrivateSubnet

def isPrivateSubnet (c : SubnetConfig) (ipAddr : UInt32) : Bool :=
  c.entries.any fun entry => decide (Matches entry ipAddr)

/-- The first entry with the address. -/
def find? (c : SubnetConfig) (ipAddr : UInt32) : Option Nat :=
  c.entries.findIdx? fun entry => decide (entry.subnetAddr = ipAddr)

/-- The mask of every added subnet, `(subnet_mask >> 8) << 8`. -/
def addedMask : UInt32 :=
  (~~~(0 : UInt32) >>> 8) <<< 8

/-- Where no memory is left for the event, the result is still true. -/
def post (c : SubnetConfig) (malloc : Bool) (ipaIfIndex : Int) : SubnetConfig :=
  if malloc then { c with posted := c.posted ++ [ipaIfIndex] } else c

def addPrivateSubnet (c : SubnetConfig) (malloc : Bool) (ipAddr : UInt32) (ipaIfIndex : Int) :
    Bool × SubnetConfig :=
  if (c.find? ipAddr).isSome then
    (true, c)
  else if c.ipaNumPrivateSubnet < maxPrivateSubnetEntries then
    let c :=
      { c with
        privateSubnetTable :=
          Function.update c.privateSubnetTable c.ipaNumPrivateSubnet ⟨ipAddr, addedMask⟩
        ipaNumPrivateSubnet := c.ipaNumPrivateSubnet + 1 }
    (true, c.post malloc ipaIfIndex)
  else
    (false, c)

/-- Only the address of the next entry is copied. -/
def moveAddr (entry next : PrivateSubnet) : PrivateSubnet :=
  { entry with subnetAddr := next.subnetAddr }

def delPrivateSubnet (c : SubnetConfig) (malloc : Bool) (ipAddr : UInt32) (ipaIfIndex : Int) :
    Bool × SubnetConfig :=
  match c.find? ipAddr with
  | some cnt =>
      let c :=
        { c with
          privateSubnetTable :=
            moveDown moveAddr c.privateSubnetTable cnt (c.ipaNumPrivateSubnet - 1 - cnt)
          ipaNumPrivateSubnet := c.ipaNumPrivateSubnet - 1 }
      (true, c.post malloc ipaIfIndex)
  | none => (false, c)

@[simp] theorem post_privateSubnetTable (c : SubnetConfig) (malloc : Bool) (i : Int) :
    (c.post malloc i).privateSubnetTable = c.privateSubnetTable := by
  cases malloc <;> rfl

@[simp] theorem post_ipaNumPrivateSubnet (c : SubnetConfig) (malloc : Bool) (i : Int) :
    (c.post malloc i).ipaNumPrivateSubnet = c.ipaNumPrivateSubnet := by
  cases malloc <;> rfl

@[simp] theorem post_entries (c : SubnetConfig) (malloc : Bool) (i : Int) :
    (c.post malloc i).entries = c.entries := by
  rw [entries, post_privateSubnetTable, post_ipaNumPrivateSubnet, entries]

end SubnetConfig

inductive SubnetAct
  | init (cfg : IpacmConf)
  | addPrivateSubnet (malloc : Bool) (ipAddr : UInt32) (ipaIfIndex : Int)
  | delPrivateSubnet (malloc : Bool) (ipAddr : UInt32) (ipaIfIndex : Int)

/-- The table, and the subnets that were loaded or added and not deleted since:
an address that is already there is not added again. -/
structure Subnets where
  config : SubnetConfig
  live : List PrivateSubnet

namespace Subnets

def new : Subnets where
  config := SubnetConfig.new
  live := []

def step (s : Subnets) : SubnetAct → Subnets
  | .init cfg =>
      ⟨s.config.init cfg, (List.range cfg.numSubnetEntries.toNat).map cfg.privateSubnetEntries⟩
  | .addPrivateSubnet malloc ipAddr ipaIfIndex =>
      let r := s.config.addPrivateSubnet malloc ipAddr ipaIfIndex
      ⟨r.2,
        if r.1 ∧ ∀ subnet ∈ s.live, subnet.subnetAddr ≠ ipAddr then
          s.live ++ [⟨ipAddr, SubnetConfig.addedMask⟩]
        else s.live⟩
  | .delPrivateSubnet malloc ipAddr ipaIfIndex =>
      let r := s.config.delPrivateSubnet malloc ipAddr ipaIfIndex
      ⟨r.2,
        if r.1 then s.live.eraseP fun subnet => decide (subnet.subnetAddr = ipAddr) else s.live⟩

def Step (s : Subnets) (a : SubnetAct) (s' : Subnets) : Prop :=
  s' = s.step a

/-- The table says of every address whether a live subnet has it, and counts the
live subnets. -/
structure Mirrored (s : Subnets) : Prop where
  isPrivateSubnet : ∀ ipAddr,
    s.config.isPrivateSubnet ipAddr = true ↔ ∃ subnet ∈ s.live, Matches subnet ipAddr
  count : s.config.ipaNumPrivateSubnet = s.live.length
  bound : s.config.ipaNumPrivateSubnet ≤ maxPrivateSubnetEntries

/-- The file has no more subnets than the table, and no address moves to an entry
with another mask. -/
def Fits (s : Subnets) : SubnetAct → Prop
  | .init cfg => cfg.numSubnetEntries.toNat ≤ maxPrivateSubnetEntries
  | .addPrivateSubnet .. => True
  | .delPrivateSubnet _ ipAddr _ =>
      ∀ cnt ∈ s.config.find? ipAddr, ∀ j < s.config.ipaNumPrivateSubnet - 1, cnt ≤ j →
        (s.config.privateSubnetTable j).subnetMask =
          (s.config.privateSubnetTable (j + 1)).subnetMask

instance instDecidableFits (s : Subnets) : (a : SubnetAct) → Decidable (s.Fits a)
  | .init cfg => inferInstanceAs (Decidable (cfg.numSubnetEntries.toNat ≤ maxPrivateSubnetEntries))
  | .addPrivateSubnet .. => .isTrue trivial
  | .delPrivateSubnet _ ipAddr _ =>
      inferInstanceAs (Decidable (∀ cnt ∈ s.config.find? ipAddr,
        ∀ j < s.config.ipaNumPrivateSubnet - 1, cnt ≤ j →
          (s.config.privateSubnetTable j).subnetMask =
            (s.config.privateSubnetTable (j + 1)).subnetMask))

/-- The entries in use are the live subnets. -/
structure Same (s : Subnets) : Prop where
  entries : s.config.entries = s.live
  bound : s.config.ipaNumPrivateSubnet ≤ maxPrivateSubnetEntries

variable {s : Subnets}

theorem Same.mirrored (h : s.Same) : s.Mirrored where
  isPrivateSubnet := by
    intro ipAddr
    rw [SubnetConfig.isPrivateSubnet, h.entries, List.any_eq_true]
    simp only [decide_eq_true_eq]
  count := by
    rw [← h.entries, SubnetConfig.entries, length_rows]
  bound := h.bound

theorem find?_isSome {c : SubnetConfig} {ipAddr : UInt32} :
    (c.find? ipAddr).isSome = true ↔ ∃ entry ∈ c.entries, entry.subnetAddr = ipAddr := by
  rw [SubnetConfig.find?, List.findIdx?_isSome, List.any_eq_true]
  simp only [decide_eq_true_eq]

theorem Same.init {cfg : IpacmConf}
    (hfits : cfg.numSubnetEntries.toNat ≤ maxPrivateSubnetEntries) : (s.step (.init cfg)).Same where
  entries := by
    apply List.map_congr_left
    intro i hi
    exact if_pos (List.mem_range.mp hi)
  bound := hfits

theorem Same.addPrivateSubnet (h : s.Same) (malloc : Bool) (ipAddr : UInt32) (ipaIfIndex : Int) :
    (s.step (.addPrivateSubnet malloc ipAddr ipaIfIndex)).Same := by
  rw [step, SubnetConfig.addPrivateSubnet]
  split
  · next hfound =>
      obtain ⟨entry, hentry, haddr⟩ := find?_isSome.mp hfound
      rw [if_neg fun hnew => hnew.2 entry (h.entries ▸ hentry) haddr]
      exact h
  · next hfound =>
      have hnew : ∀ subnet ∈ s.live, subnet.subnetAddr ≠ ipAddr := by
        intro subnet hsubnet haddr
        exact hfound (find?_isSome.mpr ⟨subnet, h.entries ▸ hsubnet, haddr⟩)
      split
      · next hroom =>
          rw [if_pos ⟨rfl, hnew⟩]
          refine ⟨?_, ?_⟩
          · rw [SubnetConfig.post_entries, ← h.entries]
            exact rows_append _
          · rw [SubnetConfig.post_ipaNumPrivateSubnet]
            exact hroom
      · rw [if_neg fun hnew => Bool.false_ne_true hnew.1]
        exact h

theorem moveDown_rows {table : Nat → PrivateSubnet} {n cnt : Nat} (hcnt : cnt < n)
    (hmask : ∀ j < n - 1, cnt ≤ j → (table j).subnetMask = (table (j + 1)).subnetMask) :
    rows (moveDown SubnetConfig.moveAddr table cnt (n - 1 - cnt)) (n - 1) =
      (rows table n).eraseIdx cnt := by
  refine rows_eraseIdx hcnt (fun j hj => moveDown_of_lt _ hj) ?_
  intro j hj hlt
  have hsame := hmask j (by omega) hj
  rw [moveDown_apply _ hj (by omega), SubnetConfig.moveAddr, hsame]

theorem Same.delPrivateSubnet (h : s.Same) {malloc : Bool} {ipAddr : UInt32} {ipaIfIndex : Int}
    (hfits : s.Fits (.delPrivateSubnet malloc ipAddr ipaIfIndex)) :
    (s.step (.delPrivateSubnet malloc ipAddr ipaIfIndex)).Same := by
  rw [step, SubnetConfig.delPrivateSubnet]
  split
  · next cnt hfind =>
      have hcnt : cnt < s.config.ipaNumPrivateSubnet := by
        have hlt := (List.findIdx?_eq_some_iff_findIdx_eq.mp hfind).1
        rwa [SubnetConfig.entries, length_rows] at hlt
      refine ⟨?_, ?_⟩
      · rw [SubnetConfig.post_entries, if_pos rfl, ← h.entries, List.eraseP_eq_eraseIdx]
        rw [show s.config.entries.findIdx? _ = some cnt from hfind]
        exact moveDown_rows hcnt fun j hj hle => hfits cnt hfind j hj hle
      · rw [SubnetConfig.post_ipaNumPrivateSubnet]
        exact Nat.le_trans (Nat.sub_le _ 1) h.bound
  · exact ⟨h.entries, h.bound⟩

theorem Same.step (h : s.Same) {a : SubnetAct} (hfits : s.Fits a) : (s.step a).Same := by
  cases a with
  | init cfg => exact Same.init hfits
  | addPrivateSubnet malloc ipAddr ipaIfIndex => exact h.addPrivateSubnet malloc ipAddr ipaIfIndex
  | delPrivateSubnet malloc ipAddr ipaIfIndex => exact h.delPrivateSubnet hfits

/-- In every run of initialisations, additions and deletions that fit, the table
mirrors the live subnets. -/
theorem run_mirrored {acts : List SubnetAct}
    (hrun : Run (Guarded Fits Step) Subnets.new acts s) : s.Mirrored := by
  refine Same.mirrored (Run.invariant (I := Same) ⟨rfl, Nat.zero_le _⟩ ?_ hrun)
  rintro s a s' h ⟨hfits, rfl⟩
  exact h.step hfits

/-- A file with one subnet. -/
def oneSubnet (subnet : PrivateSubnet) : IpacmConf :=
  { IpacmConf.zero with
    numSubnetEntries := 1
    privateSubnetEntries := fun _ => subnet }

/-- A subnet is loaded, another one added, and the first one deleted. -/
def replaced (subnet : PrivateSubnet) (ipAddr : UInt32) : List SubnetAct :=
  [.init (oneSubnet subnet), .addPrivateSubnet true ipAddr 2,
    .delPrivateSubnet true subnet.subnetAddr 2]

theorem run_mirrored_replaced :
    ((replaced ⟨0xC0A8E100, 0xFFFFFF00⟩ 0xC0A82B00).foldl step new).Mirrored := by
  have hrun : Run (Guarded Fits Step) new (replaced ⟨0xC0A8E100, 0xFFFFFF00⟩ 0xC0A82B00) _ :=
    .snoc (.snoc (.snoc .nil ⟨by decide, rfl⟩) ⟨by decide, rfl⟩) ⟨by decide, rfl⟩
  exact run_mirrored hrun

/-- Behind 10.0.0.0/8, the subnet 192.168.1.0 is left with the mask 255.0.0.0. -/
theorem not_mirrored_replaced :
    ¬ ∀ acts s, Run Step Subnets.new acts s → s.Mirrored := by
  intro h
  have hrun : Run Step new (replaced ⟨0x0A000000, 0xFF000000⟩ 0xC0A80100) _ :=
    .snoc (.snoc (.snoc .nil rfl) rfl) rfl
  have hsame := (h _ _ hrun).isPrivateSubnet 0xC0A80105
  revert hsame
  decide

end Subnets

end LibraDevice.Config
