import LibraDevice.Lib.Rows
import LibraDevice.Lib.StepRun
import Mathlib.Data.Finset.Erase
import Mathlib.Data.Finset.Lattice.Lemmas
import Mathlib.Data.List.Nodup

/-!
The NAT interfaces of `IPACM_Config`. An addition counts the name before it knows
whether there is an element for it, and a new array does not change the count.
-/

namespace LibraDevice.Config

open LibraDevice.Rows
open LibraDevice.StepRun

/-- A name that fits in `IPA_IFACE_NAME_LEN` bytes. -/
structure IfaceName where
  chars : List Char
  length_lt : chars.length < 16
deriving DecidableEq

namespace IfaceName

/-- A zeroed element. -/
def zero : IfaceName where
  chars := []
  length_lt := by decide

end IfaceName

/-- `pNatIfaces` goes on with what lies behind the array, and is none where no
memory was left for it. -/
structure NatConfig where
  pNatIfaces : Option (Nat → IfaceName)
  ipaNatIfaceEntries : Nat
  ipaNumIpaInterfaces : Nat

/-- How far a reading of the file comes, and the number of its interfaces: the
file is not read, there is no memory for a table before `pNatIfaces`, there is
none for `pNatIfaces`, or it is done. -/
inductive InitResult
  | unread
  | noTable (numIfaceEntries : Nat)
  | noNatIfaces (numIfaceEntries : Nat)
  | done (numIfaceEntries : Nat)

namespace NatConfig

/-- As `GetInstance` leaves it. -/
def new (numIfaceEntries : Nat) : NatConfig where
  pNatIfaces := some fun _ => IfaceName.zero
  ipaNatIfaceEntries := 0
  ipaNumIpaInterfaces := numIfaceEntries

/-- `IPACM_Config::Init`. -/
def init (c : NatConfig) : InitResult → NatConfig
  | .unread => c
  | .noTable numIfaceEntries => { c with ipaNumIpaInterfaces := numIfaceEntries }
  | .noNatIfaces numIfaceEntries =>
      { c with
        pNatIfaces := none
        ipaNumIpaInterfaces := numIfaceEntries }
  | .done numIfaceEntries =>
      { c with
        pNatIfaces := some fun _ => IfaceName.zero
        ipaNumIpaInterfaces := numIfaceEntries }

/-- The elements up to the count. -/
def elements (c : NatConfig) : List IfaceName :=
  c.pNatIfaces.elim [] fun pNatIfaces => rows pNatIfaces c.ipaNatIfaceEntries

/-- The names it gives, if any, and the elements it reads. -/
def getNatIfaces (c : NatConfig) (nIfaces : Int) (pIfaces : Bool) :
    Option (Option (List IfaceName) × List Nat) :=
  if nIfaces ≤ 0 ∨ pIfaces = false then some (none, [])
  else
    c.pNatIfaces.map fun pNatIfaces =>
      (some (rows pNatIfaces nIfaces.toNat), List.range nIfaces.toNat)

/-- The configuration it leaves, and the element it writes. -/
def addNatIfaces (c : NatConfig) (devName : IfaceName) : Option (NatConfig × List Nat) :=
  let c := { c with ipaNatIfaceEntries := c.ipaNatIfaceEntries + 1 }
  if c.ipaNatIfaceEntries < c.ipaNumIpaInterfaces then
    c.pNatIfaces.map fun pNatIfaces =>
      ({ c with
          pNatIfaces := some (Function.update pNatIfaces (c.ipaNatIfaceEntries - 1) devName) },
        [c.ipaNatIfaceEntries - 1])
  else some (c, [])

/-- `k` elements from `i` on take over the next one, which is reset. -/
def shift (pNatIfaces : Nat → IfaceName) : Nat → Nat → Nat → IfaceName
  | _, 0 => pNatIfaces
  | i, k + 1 =>
      shift (Function.update (Function.update pNatIfaces i (pNatIfaces (i + 1))) (i + 1)
        IfaceName.zero) (i + 1) k

/-- The configuration it leaves, and the elements it reads and writes. -/
def delNatIfaces (c : NatConfig) (devName : IfaceName) : Option (NatConfig × List Nat) :=
  match c.pNatIfaces with
  | none => if c.ipaNatIfaceEntries = 0 then some (c, []) else none
  | some pNatIfaces =>
      match (rows pNatIfaces c.ipaNatIfaceEntries).idxOf? devName with
      | none => some (c, List.range c.ipaNatIfaceEntries)
      | some i =>
          let k := c.ipaNatIfaceEntries - 1 - i
          some
            ({ c with
                pNatIfaces := some (shift (Function.update pNatIfaces i IfaceName.zero) i k)
                ipaNatIfaceEntries := c.ipaNatIfaceEntries - 1 },
              List.range (i + 1) ++ (List.range' i k).flatMap fun j => [j + 1, j])

end NatConfig

inductive NatAct
  | init (result : InitResult)
  | addNatIfaces (devName : IfaceName)
  | delNatIfaces (devName : IfaceName)
  | getNatIfaces (nIfaces : Int) (pIfaces : Bool)

/-- The configuration, the names added and not deleted since, and the elements
read or written with the number of elements there were. -/
structure NatIfaces where
  config : NatConfig
  live : Finset IfaceName
  accesses : List (Nat × Nat)

namespace NatIfaces

def new (numIfaceEntries : Nat) : NatIfaces where
  config := NatConfig.new numIfaceEntries
  live := ∅
  accesses := []

def access (s : NatIfaces) (touched : List Nat) : List (Nat × Nat) :=
  s.accesses ++ touched.map fun i => (i, s.config.ipaNumIpaInterfaces)

/-- None where `pNatIfaces` is needed and there is none. -/
def step (s : NatIfaces) : NatAct → Option NatIfaces
  | .init result => some { s with config := s.config.init result }
  | .addNatIfaces devName =>
      (s.config.addNatIfaces devName).map fun r => ⟨r.1, insert devName s.live, s.access r.2⟩
  | .delNatIfaces devName =>
      (s.config.delNatIfaces devName).map fun r => ⟨r.1, s.live.erase devName, s.access r.2⟩
  | .getNatIfaces nIfaces pIfaces =>
      (s.config.getNatIfaces nIfaces pIfaces).map fun r => { s with accesses := s.access r.2 }

def Step (s : NatIfaces) (a : NatAct) (s' : NatIfaces) : Prop :=
  s.step a = some s'

/-- The array lists the names, each once, within its bounds. -/
structure Listed (s : NatIfaces) : Prop where
  bound : s.config.ipaNatIfaceEntries ≤ s.config.ipaNumIpaInterfaces
  elements : s.config.elements.toFinset = s.live
  nodup : s.config.elements.Nodup
  inBounds : ∀ p ∈ s.accesses, p.1 < p.2

/-- The name is new and more than one element is free, no more elements are asked
for than there are, and the array is not replaced while it lists a name. -/
def Fits (s : NatIfaces) : NatAct → Prop
  | .init .unread => True
  | .init (.noTable numIfaceEntries) => s.config.ipaNatIfaceEntries ≤ numIfaceEntries
  | .init (.noNatIfaces _) | .init (.done _) => s.config.ipaNatIfaceEntries = 0
  | .addNatIfaces devName =>
      s.config.ipaNatIfaceEntries + 1 < s.config.ipaNumIpaInterfaces ∧ devName ∉ s.live
  | .delNatIfaces _ => True
  | .getNatIfaces nIfaces pIfaces => pIfaces = true → nIfaces ≤ s.config.ipaNumIpaInterfaces

instance instDecidableFits (s : NatIfaces) : (a : NatAct) → Decidable (s.Fits a)
  | .init .unread => .isTrue trivial
  | .init (.noTable numIfaceEntries) =>
      inferInstanceAs (Decidable (s.config.ipaNatIfaceEntries ≤ numIfaceEntries))
  | .init (.noNatIfaces _) | .init (.done _) =>
      inferInstanceAs (Decidable (s.config.ipaNatIfaceEntries = 0))
  | .addNatIfaces devName =>
      inferInstanceAs (Decidable
        (s.config.ipaNatIfaceEntries + 1 < s.config.ipaNumIpaInterfaces ∧ devName ∉ s.live))
  | .delNatIfaces _ => .isTrue trivial
  | .getNatIfaces nIfaces pIfaces =>
      inferInstanceAs (Decidable (pIfaces = true → nIfaces ≤ s.config.ipaNumIpaInterfaces))

end NatIfaces

namespace NatConfig

variable {pNatIfaces : Nat → IfaceName} {i j : Nat}

theorem shift_of_lt (k : Nat) (hj : j < i) : shift pNatIfaces i k j = pNatIfaces j := by
  induction k generalizing pNatIfaces i with
  | zero => rfl
  | succ k ih =>
      rw [shift, ih (by omega), Function.update_of_ne (by omega), Function.update_of_ne (by omega)]

theorem shift_apply (k : Nat) (hij : i ≤ j) (hjk : j < i + k) :
    shift pNatIfaces i k j = pNatIfaces (j + 1) := by
  induction k generalizing pNatIfaces i with
  | zero => omega
  | succ k ih =>
      rw [shift]
      rcases Nat.eq_or_lt_of_le hij with rfl | hlt
      · rw [shift_of_lt k (Nat.lt_succ_self i), Function.update_of_ne (by omega),
          Function.update_self]
      · rw [ih hlt (by omega), Function.update_of_ne (by omega), Function.update_of_ne (by omega)]

theorem rows_shift {n : Nat} (hi : i < n) :
    rows (shift (Function.update pNatIfaces i IfaceName.zero) i (n - 1 - i)) (n - 1) =
      (rows pNatIfaces n).eraseIdx i := by
  apply rows_eraseIdx hi
  · intro j hj
    rw [shift_of_lt _ hj, Function.update_of_ne (by omega)]
  · intro j hj hjn
    rw [shift_apply _ hj (by omega), Function.update_of_ne (by omega)]

theorem delNatIfaces_spec {c : NatConfig} {devName : IfaceName} {r : NatConfig × List Nat}
    (h : c.delNatIfaces devName = some r) :
    r.1.elements = c.elements.erase devName ∧
      r.1.ipaNumIpaInterfaces = c.ipaNumIpaInterfaces ∧
      (c.elements.length = c.ipaNatIfaceEntries →
        r.1.elements.length = r.1.ipaNatIfaceEntries) ∧
      r.1.ipaNatIfaceEntries ≤ c.ipaNatIfaceEntries ∧
      ∀ i ∈ r.2, i < c.ipaNatIfaceEntries := by
  rw [delNatIfaces] at h
  split at h
  · next hnone =>
      have helem : c.elements = [] := by
        rw [elements, hnone]
        rfl
      rw [Option.ite_none_right_eq_some] at h
      obtain ⟨hzero, heq⟩ := h
      cases heq
      rw [helem]
      exact ⟨rfl, rfl, id, Nat.le_refl _, fun i hi => nomatch hi⟩
  · next t hsome =>
      have helem : c.elements = rows t c.ipaNatIfaceEntries := by
        rw [elements, hsome]
        rfl
      rw [helem, List.erase_eq_eraseIdx]
      split at h
      · next hfind =>
          cases h
          rw [hfind]
          exact ⟨helem, rfl, fun hlen => helem ▸ hlen, Nat.le_refl _, fun i hi =>
            List.mem_range.mp hi⟩
      · next i hfind =>
          cases h
          have hi : i < c.ipaNatIfaceEntries := by
            have hlt := (List.idxOf?_eq_some_iff.mp hfind).1
            rwa [length_rows] at hlt
          rw [hfind]
          refine ⟨rows_shift hi, rfl, fun _ => length_rows, Nat.sub_le _ 1, ?_⟩
          intro j hj
          rw [List.mem_append, List.mem_range, List.mem_flatMap] at hj
          rcases hj with hj | ⟨j', hj', hmem⟩
          · omega
          · rw [List.mem_range'_1] at hj'
            simp only [List.mem_cons, List.not_mem_nil, or_false] at hmem
            omega

theorem addNatIfaces_spec {c : NatConfig} {devName : IfaceName} {r : NatConfig × List Nat}
    (hroom : c.ipaNatIfaceEntries + 1 < c.ipaNumIpaInterfaces)
    (h : c.addNatIfaces devName = some r) :
    r.1.elements = c.elements ++ [devName] ∧
      r.1.ipaNumIpaInterfaces = c.ipaNumIpaInterfaces ∧
      r.1.ipaNatIfaceEntries = c.ipaNatIfaceEntries + 1 ∧
      r.2 = [c.ipaNatIfaceEntries] := by
  rw [addNatIfaces] at h
  simp only [if_pos hroom, Option.map_eq_some_iff] at h
  obtain ⟨t, hsome, rfl⟩ := h
  refine ⟨?_, rfl, rfl, rfl⟩
  rw [elements, elements, hsome]
  exact rows_append devName

theorem getNatIfaces_spec {c : NatConfig} {nIfaces : Int} {pIfaces : Bool}
    {r : Option (List IfaceName) × List Nat} (h : c.getNatIfaces nIfaces pIfaces = some r) :
    ∀ i ∈ r.2, pIfaces = true ∧ i < nIfaces := by
  intro i hi
  rw [getNatIfaces] at h
  split at h
  · cases h
    cases hi
  · next hgiven =>
      rw [Option.map_eq_some_iff] at h
      obtain ⟨t, -, rfl⟩ := h
      have hlt := List.mem_range.mp hi
      exact ⟨by simpa using (not_or.mp hgiven).2, by omega⟩

end NatConfig

namespace NatIfaces

/-- As many elements as are counted. -/
structure Sound (s : NatIfaces) : Prop extends s.Listed where
  length : s.config.elements.length = s.config.ipaNatIfaceEntries

variable {s s' : NatIfaces}

theorem mem_access {p : Nat × Nat} {touched : List Nat} :
    p ∈ s.access touched ↔
      p ∈ s.accesses ∨ p.1 ∈ touched ∧ p.2 = s.config.ipaNumIpaInterfaces := by
  obtain ⟨i, n⟩ := p
  simp [access, eq_comm]

theorem Sound.new (numIfaceEntries : Nat) : (NatIfaces.new numIfaceEntries).Sound where
  bound := Nat.zero_le _
  elements := rfl
  nodup := List.nodup_nil
  inBounds := fun _ hp => nomatch hp
  length := rfl

theorem Sound.empty (h : s.Sound) (hzero : s.config.ipaNatIfaceEntries = 0) {c : NatConfig}
    (hc : c.ipaNatIfaceEntries = s.config.ipaNatIfaceEntries) :
    Sound { s with config := c } := by
  have hnone : c.elements = [] := by
    rw [NatConfig.elements, hc, hzero]
    cases c.pNatIfaces <;> rfl
  have hlive : s.live = ∅ := by
    rw [← h.elements, List.eq_nil_of_length_eq_zero (h.length.trans hzero)]
    rfl
  refine ⟨⟨?_, ?_, ?_, h.inBounds⟩, ?_⟩
  · rw [hc, hzero]
    exact Nat.zero_le _
  · rw [hnone, hlive]
    rfl
  · rw [hnone]
    exact List.nodup_nil
  · rw [hnone, hc, hzero]
    rfl

theorem Sound.init (h : s.Sound) {result : InitResult} (hfits : s.Fits (.init result)) :
    Sound { s with config := s.config.init result } := by
  cases result with
  | unread => exact h
  | noTable numIfaceEntries => exact ⟨⟨hfits, h.elements, h.nodup, h.inBounds⟩, h.length⟩
  | noNatIfaces numIfaceEntries => exact h.empty hfits rfl
  | done numIfaceEntries => exact h.empty hfits rfl

theorem Sound.addNatIfaces (h : s.Sound) {devName : IfaceName}
    (hfits : s.Fits (.addNatIfaces devName)) (hs : s.Step (.addNatIfaces devName) s') :
    s'.Sound := by
  obtain ⟨r, hr, rfl⟩ := Option.map_eq_some_iff.mp hs
  obtain ⟨helem, hnum, hcount, htouched⟩ := NatConfig.addNatIfaces_spec hfits.1 hr
  have hnew : devName ∉ s.config.elements := by
    intro hmem
    exact hfits.2 (h.elements ▸ List.mem_toFinset.mpr hmem)
  refine ⟨⟨?_, ?_, ?_, ?_⟩, ?_⟩
  · change r.1.ipaNatIfaceEntries ≤ r.1.ipaNumIpaInterfaces
    have hroom := hfits.1
    omega
  · change r.1.elements.toFinset = insert devName s.live
    rw [helem, List.toFinset_append, h.elements, Finset.union_comm]
    rfl
  · change r.1.elements.Nodup
    rw [helem]
    exact List.nodup_append_comm.mp (List.nodup_cons.mpr ⟨hnew, h.nodup⟩)
  · intro p hp
    rcases mem_access.mp hp with hp | ⟨hp, hn⟩
    · exact h.inBounds p hp
    · rw [htouched, List.mem_singleton] at hp
      rw [hp, hn]
      exact Nat.lt_of_succ_lt hfits.1
  · change r.1.elements.length = r.1.ipaNatIfaceEntries
    rw [helem, List.length_append, h.length, hcount]
    rfl

theorem Sound.delNatIfaces (h : s.Sound) {devName : IfaceName}
    (hs : s.Step (.delNatIfaces devName) s') : s'.Sound := by
  obtain ⟨r, hr, rfl⟩ := Option.map_eq_some_iff.mp hs
  obtain ⟨helem, hnum, hlen, hcount, htouched⟩ := NatConfig.delNatIfaces_spec hr
  refine ⟨⟨?_, ?_, ?_, ?_⟩, hlen h.length⟩
  · change r.1.ipaNatIfaceEntries ≤ r.1.ipaNumIpaInterfaces
    exact hnum ▸ Nat.le_trans hcount h.bound
  · change r.1.elements.toFinset = s.live.erase devName
    rw [helem, ← h.elements]
    ext name
    rw [List.mem_toFinset, h.nodup.mem_erase_iff, Finset.mem_erase, List.mem_toFinset]
  · change r.1.elements.Nodup
    exact helem ▸ h.nodup.erase devName
  · intro p hp
    rcases mem_access.mp hp with hp | ⟨hp, hn⟩
    · exact h.inBounds p hp
    · exact hn ▸ Nat.lt_of_lt_of_le (htouched _ hp) h.bound

theorem Sound.getNatIfaces (h : s.Sound) {nIfaces : Int} {pIfaces : Bool}
    (hfits : s.Fits (.getNatIfaces nIfaces pIfaces))
    (hs : s.Step (.getNatIfaces nIfaces pIfaces) s') : s'.Sound := by
  obtain ⟨r, hr, rfl⟩ := Option.map_eq_some_iff.mp hs
  refine ⟨⟨h.bound, h.elements, h.nodup, ?_⟩, h.length⟩
  intro p hp
  rcases mem_access.mp hp with hp | ⟨hp, hn⟩
  · exact h.inBounds p hp
  · obtain ⟨hgiven, hlt⟩ := NatConfig.getNatIfaces_spec hr _ hp
    have hle := hfits hgiven
    omega

theorem Sound.step (h : s.Sound) {a : NatAct} (hfits : s.Fits a) (hs : s.Step a s') :
    s'.Sound := by
  cases a with
  | init result =>
      cases hs
      exact h.init hfits
  | addNatIfaces devName => exact h.addNatIfaces hfits hs
  | delNatIfaces devName => exact h.delNatIfaces hs
  | getNatIfaces nIfaces pIfaces => exact h.getNatIfaces hfits hs

/-- In every run whose steps fit, the array lists the names. -/
theorem run_listed {numIfaceEntries : Nat} {acts : List NatAct}
    (hrun : Run (Guarded Fits Step) (NatIfaces.new numIfaceEntries) acts s) : s.Listed := by
  refine (Run.invariant (I := Sound) (Sound.new numIfaceEntries) ?_ hrun).toListed
  rintro s a s' h ⟨hfits, hs⟩
  exact h.step hfits hs

/-- `n` names, all different. -/
def names (n : Nat) : IfaceName :=
  ⟨List.replicate (n % 16) 'w', by
    rw [List.length_replicate]
    exact Nat.mod_lt _ (by decide)⟩

theorem run_listed_twoNames :
    ∃ s : NatIfaces, s.Listed ∧ s.config.elements = [names 2] := by
  have h₁ : Run (Guarded Fits Step) (NatIfaces.new 5) [.addNatIfaces (names 1)] _ :=
    .snoc .nil ⟨by decide, by rfl⟩
  have h₂ : Run (Guarded Fits Step) (NatIfaces.new 5) [_, .addNatIfaces (names 2)] _ :=
    .snoc h₁ ⟨by decide, by rfl⟩
  have h₃ : Run (Guarded Fits Step) (NatIfaces.new 5) [_, _, .getNatIfaces 2 true] _ :=
    .snoc h₂ ⟨by decide, by rfl⟩
  have h₄ : Run (Guarded Fits Step) (NatIfaces.new 5) [_, _, _, .delNatIfaces (names 1)] _ :=
    .snoc h₃ ⟨by decide, by rfl⟩
  exact ⟨_, run_listed h₄, by decide⟩

/-- With one interface, the second addition counts beyond the array. -/
theorem not_listed_twice :
    ¬ ∀ numIfaceEntries acts s, Run Step (NatIfaces.new numIfaceEntries) acts s → s.Listed := by
  intro h
  have hrun : Run Step (NatIfaces.new 1) [.addNatIfaces (names 1), .addNatIfaces (names 2)] _ :=
    .snoc (.snoc .nil (by rfl)) (by rfl)
  exact absurd (h _ _ _ hrun).bound (by decide)

end NatIfaces

end LibraDevice.Config
