import LibraDevice.Lan2Lan.SlotPools

/-!
The slots mirror the driver where every header that has got a slot is added
under a name that no other interface has in use, and no answer of the driver is
passed over.
-/

namespace LibraDevice.Lan2Lan

open LibraDevice.HandlePool
open CBuffer (strlcpy)
open LibraDevice.StepRun
open Backhaul (Hdl)
open LanToLan (IpType MacAddr maxOffloadPair)

namespace Driver

variable {ι : Type}

def Rewritten (d : Driver ι) (h : Hdl) : Prop := ∃ pair, d.flt h = some (.pair pair)

/-- The live headers of an interface for an IP type. -/
def headersOf [DecidableEq ι] (d : Driver ι) (i : ι) (ip : IpType) : List Hdl :=
  (d.headers.filter fun x => x.iface = i ∧ x.ip = ip).map Header.hdrHdl

end Driver

def AddAnswer.isDone : AddAnswer → Bool
  | done _ => true
  | _ => false

namespace Sys

section

variable {ι : Type} [DecidableEq ι]

/-- The filter slots in use are those of the rewritten rules, and the counter
has their number; the header slots in use are, one to one, those of the live
headers; and no two live headers have the same name. -/
structure Mirrors (s : Sys ι) : Prop where
  flt : ∀ i ip, ∀ x ∈ (s.pools i ip).lan2lanFltRuleHdl,
    x.valid = true ↔ s.driver.Rewritten x.hdl
  count : ∀ i ip, (s.pools i ip).numLan2lanFltRule =
    (held (s.pools i ip).lan2lanFltRuleHdl).length
  hdr : ∀ i ip, (held (s.pools i ip).lan2lanHdrHdl).Perm (s.driver.headersOf i ip)
  once : (s.driver.headers.map Header.hdrHdl).Nodup
  names : (s.driver.headers.map Header.name).Nodup

/-- The condition on a call and the answers of the driver. -/
def Clear (setup : Setup ι) (lim : Limits) (s : Sys ι) : Call ι → Prop
  | .addLan2lanFltRule _ _ _ _ mdfy => mdfy ≠ .badStatus
  | .delLan2lanFltRule _ _ _ mdfy => mdfy ≠ .badStatus
  | .addLan2lanHdr i iptype dstMac clients copy add =>
      match s.hdrSlot setup lim i iptype dstMac clients copy with
      | .error _ => True
      | .ok j =>
          add.isDone = true ∧ ∀ x ∈ s.driver.headers, x.iface ≠ i →
            x.name ≠ (slotName lim (setup.ifaces i).kind iptype j).1
  | .delLan2lanHdr i iptype hdrHdl accepts =>
      accepts = true → ∀ x ∈ s.driver.headers, x.hdrHdl = hdrHdl → x.iface = i ∧ x.ip = iptype
  | .addLan2lanRtRule _ _ _ _ adds =>
      adds.Pairwise fun a b => a.isDone = true → b ≠ .refused
  | .delLan2lanRtRule _ _ _ _ => True

instance instDecidableClear (setup : Setup ι) (lim : Limits) (s : Sys ι) :
    (c : Call ι) → Decidable (Clear setup lim s c)
  | .addLan2lanFltRule _ _ _ _ mdfy => inferInstanceAs (Decidable (mdfy ≠ .badStatus))
  | .delLan2lanFltRule _ _ _ mdfy => inferInstanceAs (Decidable (mdfy ≠ .badStatus))
  | .addLan2lanHdr i iptype dstMac clients copy add =>
      match h : s.hdrSlot setup lim i iptype dstMac clients copy with
      | .error _ => isTrue (by rw [Clear, h]; trivial)
      | .ok j =>
          decidable_of_iff (add.isDone = true ∧ ∀ x ∈ s.driver.headers, x.iface ≠ i →
            x.name ≠ (slotName lim (setup.ifaces i).kind iptype j).1) (by rw [Clear, h])
  | .delLan2lanHdr _ _ _ _ => inferInstanceAs (Decidable (_ → _))
  | .addLan2lanRtRule _ _ _ _ adds => inferInstanceAs (Decidable (adds.Pairwise _))
  | .delLan2lanRtRule _ _ _ _ => isTrue trivial

end

/-- The slots mirror the driver, a search among them finds the slot in use, and
a header has the name of its slot. -/
structure Sound {ι : Type} [DecidableEq ι] (setup : Setup ι) (lim : Limits) (s : Sys ι) : Prop
    extends Mirrors s where
  rules : ∀ h, (s.driver.flt h).isSome = setup.rules h
  hdls : ∀ i ip, (s.pools i ip).lan2lanFltRuleHdl.map Slot.hdl = setup.fltHdls i ip
  returned : ∀ h ∈ s.fltReturned, s.driver.Rewritten h
  nodup : s.fltReturned.Nodup
  length : ∀ i ip, (s.pools i ip).lan2lanHdrHdl.length = maxOffloadPair
  unstale : ∀ i ip, Unstale (s.pools i ip).lan2lanHdrHdl
  named : ∀ x ∈ s.driver.headers, x.ip ≠ .max ∧
    ∃ j : Nat, (s.pools x.iface x.ip).lan2lanHdrHdl[j]? = some ⟨x.hdrHdl, true⟩ ∧
      x.name = (slotName lim (setup.ifaces x.iface).kind x.ip j).1

theorem slotName_eq (lim : Limits) (kind : Kind) (ip : IpType) {j : Nat}
    (hj : j < maxOffloadPair) :
    (slotName lim kind ip j).1 = hdrName kind ip ++ index j ∧
      (slotName lim kind ip j).2 ≤ lim.ipaResourceNameMax := by
  have hfits := lim.name_fits
  have hname : (hdrName kind ip).length ≤ 15 := by
    cases kind <;> cases ip <;> decide
  have hindex : (index j).length = 1 := by
    rw [index, Nat.toDigits_of_lt_base (Nat.lt_trans hj (by decide))]
    rfl
  rw [slotName, strlcpy, List.take_of_length_le (by omega), strlcat]
  refine ⟨List.take_of_length_le ?_, ?_⟩
  · rw [List.length_append]
    omega
  · change _ + _ ≤ _
    omega

theorem slotName_injective {lim : Limits} {kind kind' : Kind} {ip ip' : IpType} {j j' : Nat}
    (hj : j < maxOffloadPair) (hj' : j' < maxOffloadPair) (hip : ip ≠ .max) (hip' : ip' ≠ .max)
    (heq : (slotName lim kind ip j).1 = (slotName lim kind' ip' j').1) :
    kind = kind' ∧ ip = ip' ∧ j = j' := by
  rw [(slotName_eq lim kind ip hj).1, (slotName_eq lim kind' ip' hj').1] at heq
  have hall : ∀ j j' : Fin maxOffloadPair,
      hdrName kind ip ++ index j = hdrName kind' ip' ++ index j' →
        kind = kind' ∧ ip = ip' ∧ j = j' := by
    cases kind <;> cases kind' <;> cases ip <;> cases ip' <;>
      first | exact absurd rfl hip | exact absurd rfl hip' | decide
  obtain ⟨hkind, hip, hj⟩ := hall ⟨j, hj⟩ ⟨j', hj'⟩ heq
  exact ⟨hkind, hip, congrArg Fin.val hj⟩

variable {ι : Type} [DecidableEq ι] {setup : Setup ι} {lim : Limits} {s s' : Sys ι}

theorem Sound.init (setup : Setup ι) (lim : Limits) : (init setup).Sound setup lim := by
  have hdummy : ∀ h, ¬ (Sys.init setup).driver.Rewritten h := by
    rintro h ⟨pair, hpair⟩
    change (if setup.rules h then some FltRule.dummy else none) = _ at hpair
    split at hpair <;> cases hpair
  have hfree : ∀ hdls : List Hdl, held (hdls.map fun h => (⟨h, false⟩ : Slot Hdl)) = [] := by
    intro hdls
    rw [held, List.filter_eq_nil_iff.mpr, List.map_nil]
    intro x hx
    obtain ⟨h, -, rfl⟩ := List.mem_map.mp hx
    exact Bool.false_ne_true
  refine ⟨⟨?_, ?_, ?_, List.nodup_nil, List.nodup_nil⟩, ?_, ?_, ?_, List.nodup_nil, ?_, ?_, ?_⟩
  · intro i ip x hx
    obtain ⟨h, -, rfl⟩ := List.mem_map.mp hx
    exact ⟨fun hvalid => (Bool.false_ne_true hvalid).elim, fun hr => (hdummy h hr).elim⟩
  · intro i ip
    exact (congrArg List.length (hfree (setup.fltHdls i ip))).symm
  · intro i ip
    change (held (List.replicate _ _)).Perm []
    rw [held_replicate]
  · intro h
    change (if setup.rules h then some FltRule.dummy else none).isSome = _
    cases setup.rules h <;> rfl
  · intro i ip
    change List.map _ (List.map _ _) = _
    rw [List.map_map]
    exact List.map_id _
  · intro h hh
    cases hh
  · exact fun _ _ => List.length_replicate
  · exact fun _ _ => unstale_replicate _ _
  · intro x hx
    cases hx

section

omit [DecidableEq ι]

theorem modifyFilteringRule_cases {h : Hdl} {rule : FltRule} {answer : Answer} {ok : Bool}
    (hcall : s.modifyFilteringRule h rule answer = some (ok, s')) (hanswer : answer ≠ .badStatus) :
    ok = false ∧ s' = s ∨
      ok = true ∧ s.driver.flt h ≠ none ∧
        s' = { s with
          driver := { s.driver with flt := Function.update s.driver.flt h (some rule) } } := by
  cases answer with
  | refused =>
      cases hcall
      exact Or.inl ⟨rfl, rfl⟩
  | badStatus => exact absurd rfl hanswer
  | done =>
      rw [modifyFilteringRule] at hcall
      simp only at hcall
      split at hcall
      · cases hcall
      · next hrule =>
          cases hcall
          exact Or.inr ⟨rfl, hrule, rfl⟩

theorem once_middle {l : List Hdl} {p : Hdl → Bool} {a b : List Hdl} {h : Hdl}
    (hl : (l.filter p).Nodup) (hab : l = a ++ h :: b) (hp : p h = true) : h ∉ a ++ b := by
  rw [hab, List.filter_append, List.filter_cons_of_pos hp, List.nodup_middle, List.nodup_cons,
    ← List.filter_append] at hl
  exact fun hmem => hl.1 (List.mem_filter.mpr ⟨hmem, hp⟩)

end

@[simp] theorem setPool_self (s : Sys ι) (i : ι) (ip : IpType) (p : Pool) :
    (s.setPool i ip p).pools i ip = p := by
  simp [setPool]

theorem setPool_of_ne (s : Sys ι) {i i' : ι} {ip ip' : IpType} (p : Pool)
    (hne : (i', ip') ≠ (i, ip)) : (s.setPool i ip p).pools i' ip' = s.pools i' ip' := by
  rw [setPool]
  simp only
  rcases eq_or_ne i' i with rfl | hi
  · rw [Function.update_self, Function.update_of_ne]
    exact fun heq => hne (by rw [heq])
  · rw [Function.update_of_ne hi]

theorem Sound.mem_hdls (h : s.Sound setup lim) {i : ι} {ip : IpType} {x : Slot Hdl}
    (hx : x ∈ (s.pools i ip).lan2lanFltRuleHdl) : x.hdl ∈ setup.fltHdls i ip := by
  rw [← h.hdls]
  exact List.mem_map_of_mem hx

theorem Sound.rewrite (h : s.Sound setup lim) {i : ι} {ip : IpType} {j : Nat} {x : Slot Hdl}
    (hx : (s.pools i ip).lan2lanFltRuleHdl[j]? = some x) (hrule : s.driver.flt x.hdl ≠ none)
    {rule : FltRule} {v : Bool} (hv : v = true ↔ ∃ pair, rule = .pair pair) {num : Nat}
    (hnum : num = (held ((s.pools i ip).lan2lanFltRuleHdl.set j ⟨x.hdl, v⟩)).length)
    {returned : List Hdl} (hnodup : returned.Nodup)
    (hreturned : ∀ g ∈ returned, g = x.hdl ∧ v = true ∨ g ≠ x.hdl ∧ g ∈ s.fltReturned) :
    Sound setup lim
      { Sys.setPool i ip
          { s.pools i ip with
            lan2lanFltRuleHdl := (s.pools i ip).lan2lanFltRuleHdl.set j ⟨x.hdl, v⟩
            numLan2lanFltRule := num }
          { s with
            driver := { s.driver with flt := Function.update s.driver.flt x.hdl (some rule) } } with
        fltReturned := returned } := by
  have hlive : setup.rules x.hdl = true := by
    rw [← h.rules]
    exact Option.isSome_iff_ne_none.mpr hrule
  have hself : ∀ g, Driver.Rewritten
      { s.driver with flt := Function.update s.driver.flt x.hdl (some rule) } g ↔
        g = x.hdl ∧ v = true ∨ g ≠ x.hdl ∧ s.driver.Rewritten g := by
    intro g
    rw [Driver.Rewritten]
    simp only
    rcases eq_or_ne g x.hdl with rfl | hne
    · rw [Function.update_self, hv]
      simp
    · rw [Function.update_of_ne hne]
      simp [hne, Driver.Rewritten]
  obtain ⟨a, b, hab, rfl⟩ := split_of_getElem? hx
  have hmem : x ∈ (s.pools i ip).lan2lanFltRuleHdl := List.mem_of_getElem? hx
  have honce : x.hdl ∉ a.map Slot.hdl ++ b.map Slot.hdl := by
    refine once_middle (h.hdls i ip ▸ setup.once i ip) ?_ hlive
    rw [hab, List.map_append, List.map_cons]
  -- the other slots are those of other rules
  have hothers : ∀ y ∈ a ++ b, y.hdl ≠ x.hdl := by
    intro y hy heq
    rw [← List.map_append] at honce
    exact honce (heq ▸ List.mem_map_of_mem hy)
  have hapart : ∀ i' ip', (i', ip') ≠ (i, ip) →
      ∀ y ∈ (s.pools i' ip').lan2lanFltRuleHdl, y.hdl ≠ x.hdl := by
    intro i' ip' hne y hy heq
    have hnot := setup.apart i' ip' i ip hne y.hdl (h.mem_hdls hy)
      (heq ▸ h.mem_hdls hmem)
    rw [heq, hlive] at hnot
    cases hnot
  have hset : (s.pools i ip).lan2lanFltRuleHdl.set a.length ⟨x.hdl, v⟩ =
      a ++ ⟨x.hdl, v⟩ :: b := by
    rw [hab, set_middle]
  have hhdr : ∀ i' ip', (Sys.pools (Sys.setPool i ip
      { s.pools i ip with
        lan2lanFltRuleHdl := (s.pools i ip).lan2lanFltRuleHdl.set a.length ⟨x.hdl, v⟩
        numLan2lanFltRule := num } s) i' ip').lan2lanHdrHdl =
      (s.pools i' ip').lan2lanHdrHdl := by
    intro i' ip'
    rcases eq_or_ne (i', ip') (i, ip) with heq | hne
    · cases heq
      rw [setPool_self]
    · rw [setPool_of_ne _ _ hne]
  refine ⟨⟨?_, ?_, ?_, h.once, h.names⟩, ?_, ?_, ?_, hnodup, ?_, ?_, ?_⟩
  · intro i' ip' y hy
    refine Iff.trans ?_ (hself y.hdl).symm
    rcases eq_or_ne (i', ip') (i, ip) with heq | hne
    · cases heq
      change y ∈ (Sys.pools (Sys.setPool _ _ _ _) _ _).lan2lanFltRuleHdl at hy
      rw [setPool_self] at hy
      change y ∈ (s.pools i ip).lan2lanFltRuleHdl.set _ _ at hy
      rw [hset] at hy
      rcases List.mem_cons.mp (List.perm_middle.mem_iff.mp hy) with rfl | hy
      · simp
      · have hne := hothers y hy
        rw [h.flt i ip y (hab ▸ List.perm_middle.mem_iff.mpr (List.mem_cons_of_mem _ hy))]
        simp [hne]
    · change y ∈ (Sys.pools (Sys.setPool _ _ _ _) _ _).lan2lanFltRuleHdl at hy
      rw [setPool_of_ne _ _ hne] at hy
      have hne := hapart i' ip' hne y hy
      rw [h.flt i' ip' y hy]
      simp [hne]
  · intro i' ip'
    change (Sys.pools (Sys.setPool _ _ _ _) _ _).numLan2lanFltRule =
      (held (Sys.pools (Sys.setPool _ _ _ _) _ _).lan2lanFltRuleHdl).length
    rcases eq_or_ne (i', ip') (i, ip) with heq | hne
    · cases heq
      rw [setPool_self]
      exact hnum
    · rw [setPool_of_ne _ _ hne]
      exact h.count i' ip'
  · intro i' ip'
    exact (hhdr i' ip').symm ▸ h.hdr i' ip'
  · intro g
    change (Function.update s.driver.flt x.hdl (some rule) g).isSome = _
    rcases eq_or_ne g x.hdl with rfl | hne
    · rw [Function.update_self, hlive]
      rfl
    · rw [Function.update_of_ne hne]
      exact h.rules g
  · intro i' ip'
    change (Sys.pools (Sys.setPool _ _ _ _) _ _).lan2lanFltRuleHdl.map _ = _
    rcases eq_or_ne (i', ip') (i, ip) with heq | hne
    · cases heq
      rw [setPool_self, ← h.hdls]
      exact map_hdl_set hx rfl
    · rw [setPool_of_ne _ _ hne]
      exact h.hdls i' ip'
  · intro g hg
    refine (hself g).mpr ?_
    rcases hreturned g hg with hg | ⟨hne, hg⟩
    · exact Or.inl hg
    · exact Or.inr ⟨hne, h.returned g hg⟩
  · intro i' ip'
    exact (hhdr i' ip').symm ▸ h.length i' ip'
  · intro i' ip'
    exact (hhdr i' ip').symm ▸ h.unstale i' ip'
  · intro y hy
    obtain ⟨hip, j, hj, hname⟩ := h.named y hy
    exact ⟨hip, j, (congrArg (·[j]?) (hhdr y.iface y.ip)).trans hj, hname⟩

theorem Sound.held_le (h : s.Sound setup lim) (i : ι) (ip : IpType) :
    (held (s.pools i ip).lan2lanFltRuleHdl).length ≤ maxOffloadPair := by
  calc
    _ ≤ (s.pools i ip).lan2lanFltRuleHdl.length := held_length_le
    _ = ((s.pools i ip).lan2lanFltRuleHdl.map Slot.hdl).length := (List.length_map _).symm
    _ = maxOffloadPair := by rw [h.hdls, setup.length]

theorem Sound.addLan2lanFltRule (h : s.Sound setup lim) {i : ι} {iptype : IpType} {pair : Pair}
    {table : Bool} {mdfy : Answer} {result : Result} (hclear : mdfy ≠ .badStatus)
    (hcall : s.addLan2lanFltRule setup i iptype pair table mdfy = some (result, s')) :
    s'.Sound setup lim ∧ (result = .failure → s' = s) := by
  rw [Sys.addLan2lanFltRule] at hcall
  simp only at hcall
  split at hcall
  · cases hcall
    exact ⟨h, fun _ => rfl⟩
  split at hcall
  · cases hcall
    exact ⟨h, fun _ => rfl⟩
  split at hcall
  · cases hcall
    exact ⟨h, fun _ => rfl⟩
  split at hcall
  · cases hcall
    exact ⟨h, fun _ => rfl⟩
  split at hcall
  · cases hcall
    exact ⟨h, fun _ => rfl⟩
  split at hcall
  · cases hcall
    exact ⟨h, fun _ => rfl⟩
  next j hj =>
    obtain ⟨x, hx, hcall⟩ := Option.bind_eq_some_iff.mp hcall
    obtain ⟨⟨ok, t⟩, hmodify, hcall⟩ := Option.bind_eq_some_iff.mp hcall
    simp only at hcall
    rcases modifyFilteringRule_cases hmodify hclear with ⟨rfl, rfl⟩ | ⟨rfl, hrule, rfl⟩
    · cases hcall
      exact ⟨h, fun _ => rfl⟩
    · cases hcall
      have hfree := valid_of_free? hj hx
      have hmem := List.mem_of_getElem? hx
      refine ⟨?_, fun hfailure => by cases hfailure⟩
      refine h.rewrite hx hrule ⟨fun _ => ⟨pair, rfl⟩, fun _ => rfl⟩ ?_ ?_ ?_
      · have hle := h.held_le i iptype
        rw [(held_set_free hx hfree rfl).length_eq, List.length_cons, ← h.count]
        rw [← h.count, maxOffloadPair] at hle
        omega
      · refine List.nodup_cons.mpr ⟨fun hreturned => ?_, h.nodup⟩
        have hvalid := (h.flt i iptype x hmem).mpr (h.returned _ hreturned)
        rw [hfree] at hvalid
        cases hvalid
      · intro g hg
        rcases eq_or_ne g x.hdl with heq | hne
        · exact Or.inl ⟨heq, rfl⟩
        · exact Or.inr ⟨hne, (List.mem_cons.mp hg).resolve_left hne⟩

theorem Sound.delLan2lanFltRule (h : s.Sound setup lim) {i : ι} {iptype : IpType} {ruleHdl : Hdl}
    {mdfy : Answer} {result : Result} (hreturned : ruleHdl ∈ s.fltReturned)
    (hclear : mdfy ≠ .badStatus)
    (hcall : s.delLan2lanFltRule i iptype ruleHdl mdfy = some (result, s')) :
    s'.Sound setup lim ∧ (result = .failure → s' = s) := by
  rw [Sys.delLan2lanFltRule] at hcall
  simp only at hcall
  split at hcall
  · cases hcall
    exact ⟨h, fun _ => rfl⟩
  split at hcall
  · cases hcall
    exact ⟨h, fun _ => rfl⟩
  next j hj =>
    obtain ⟨⟨ok, t⟩, hmodify, hcall⟩ := Option.bind_eq_some_iff.mp hcall
    simp only at hcall
    rcases modifyFilteringRule_cases hmodify hclear with ⟨rfl, rfl⟩ | ⟨rfl, hrule, rfl⟩
    · cases hcall
      exact ⟨h, fun _ => rfl⟩
    · cases hcall
      refine ⟨?_, fun hfailure => by cases hfailure⟩
      obtain ⟨a, ⟨g, v⟩, b, hab, hlen, -, hx⟩ := split_of_findIdx? hj
      have hx : g = ruleHdl := of_decide_eq_true hx
      subst hx
      have hmem : ⟨g, v⟩ ∈ (s.pools i iptype).lan2lanFltRuleHdl := by
        rw [hab]
        exact List.mem_append_right _ List.mem_cons_self
      -- what has been returned is rewritten, so the slot is in use
      have hvalid : v = true := (h.flt i iptype _ hmem).mpr (h.returned g hreturned)
      subst hvalid
      have hslot : (s.pools i iptype).lan2lanFltRuleHdl[j]? = some ⟨g, true⟩ := by
        rw [hab, ← hlen, getElem?_middle]
      have hdummy : false = true ↔ ∃ pair, FltRule.dummy = .pair pair :=
        ⟨fun hv => (Bool.false_ne_true hv).elim, fun ⟨_, hpair⟩ => FltRule.noConfusion hpair⟩
      refine h.rewrite hslot hrule hdummy ?_ (h.nodup.erase g) ?_
      · have hused := (held_set_used (y := ⟨g, false⟩) hslot rfl rfl).length_eq
        have hle := h.held_le i iptype
        rw [List.length_cons] at hused
        rw [maxOffloadPair] at hle
        change _ = (held (List.set _ j ⟨g, false⟩)).length
        rw [h.count]
        omega
      · intro g' hg'
        obtain ⟨hne, hg'⟩ := h.nodup.mem_erase_iff.mp hg'
        exact Or.inr ⟨hne, hg'⟩

theorem Sound.setHdr (h : s.Sound setup lim) {i : ι} {ip : IpType} {l : List (Slot Hdl)}
    {headers : List (Header ι)} {returned : List Hdl}
    (hhdr : (held l).Perm (Driver.headersOf { s.driver with headers := headers } i ip))
    (hothers : ∀ i' ip', (i', ip') ≠ (i, ip) →
      Driver.headersOf { s.driver with headers := headers } i' ip' = s.driver.headersOf i' ip')
    (honce : (headers.map Header.hdrHdl).Nodup) (hnames : (headers.map Header.name).Nodup)
    (hlength : l.length = maxOffloadPair) (hunstale : Unstale l)
    (hnamed : ∀ x ∈ headers, x.ip ≠ .max ∧
      ((x.iface, x.ip) = (i, ip) → ∃ j : Nat, l[j]? = some ⟨x.hdrHdl, true⟩ ∧
        x.name = (slotName lim (setup.ifaces i).kind ip j).1) ∧
      ((x.iface, x.ip) ≠ (i, ip) → x ∈ s.driver.headers)) :
    Sound setup lim
      { Sys.setPool i ip { s.pools i ip with lan2lanHdrHdl := l } s with
        driver := { s.driver with headers := headers }
        hdrReturned := returned } := by
  have hflt : ∀ i' ip', ∃ l', (Sys.setPool i ip { s.pools i ip with lan2lanHdrHdl := l } s).pools
      i' ip' = { s.pools i' ip' with lan2lanHdrHdl := l' } := by
    intro i' ip'
    rcases eq_or_ne (i', ip') (i, ip) with heq | hne
    · cases heq
      exact ⟨l, setPool_self _ _ _ _⟩
    · exact ⟨(s.pools i' ip').lan2lanHdrHdl, setPool_of_ne _ _ hne⟩
  refine ⟨⟨?_, ?_, ?_, honce, hnames⟩, h.rules, ?_, h.returned, h.nodup, ?_, ?_, ?_⟩
  · intro i' ip'
    obtain ⟨l', hl'⟩ := hflt i' ip'
    simp only [hl']
    exact h.flt i' ip'
  · intro i' ip'
    obtain ⟨l', hl'⟩ := hflt i' ip'
    simp only [hl']
    exact h.count i' ip'
  · intro i' ip'
    rcases eq_or_ne (i', ip') (i, ip) with heq | hne
    · cases heq
      simp only [setPool_self]
      exact hhdr
    · simp only [setPool_of_ne _ _ hne]
      exact (hothers i' ip' hne).symm ▸ h.hdr i' ip'
  · intro i' ip'
    obtain ⟨l', hl'⟩ := hflt i' ip'
    simp only [hl']
    exact h.hdls i' ip'
  · intro i' ip'
    rcases eq_or_ne (i', ip') (i, ip) with heq | hne
    · cases heq
      simp only [setPool_self]
      exact hlength
    · simp only [setPool_of_ne _ _ hne]
      exact h.length i' ip'
  · intro i' ip'
    rcases eq_or_ne (i', ip') (i, ip) with heq | hne
    · cases heq
      simp only [setPool_self]
      exact hunstale
    · simp only [setPool_of_ne _ _ hne]
      exact h.unstale i' ip'
  · intro x hx
    obtain ⟨hip, hself, hold⟩ := hnamed x hx
    refine ⟨hip, ?_⟩
    rcases eq_or_ne (x.iface, x.ip) (i, ip) with heq | hne
    · obtain ⟨j, hj, hname⟩ := hself heq
      obtain ⟨hi, hip⟩ := Prod.mk.inj heq
      subst hi hip
      simp only [setPool_self]
      exact ⟨j, hj, hname⟩
    · simp only [setPool_of_ne _ _ hne]
      exact (h.named x (hold hne)).2

theorem Sound.named_set (h : s.Sound setup lim) {i : ι} {ip : IpType} {j : Nat} {y z : Slot Hdl}
    (hy : (s.pools i ip).lan2lanHdrHdl[j]? = some y) {x : Header ι}
    (hx : x ∈ s.driver.headers) (hown : (x.iface, x.ip) = (i, ip)) (hne : y ≠ ⟨x.hdrHdl, true⟩) :
    ∃ k : Nat, ((s.pools i ip).lan2lanHdrHdl.set j z)[k]? = some ⟨x.hdrHdl, true⟩ ∧
      x.name = (slotName lim (setup.ifaces i).kind ip k).1 := by
  obtain ⟨-, k, hk, hname⟩ := h.named x hx
  obtain ⟨hi, hip⟩ := Prod.mk.inj hown
  subst hi hip
  refine ⟨k, ?_, hname⟩
  rw [List.getElem?_set_ne, hk]
  rintro rfl
  rw [hy] at hk
  exact hne (Option.some.inj hk)

theorem Sound.addHeader (h : s.Sound setup lim) {i : ι} {iptype : IpType} (hip : iptype ≠ .max)
    {j : Nat} (hj : free? (s.pools i iptype).lan2lanHdrHdl = some j) {hdl : Hdl}
    (hfresh : hdl ∉ s.driver.headers.map Header.hdrHdl)
    (hname : ∀ x ∈ s.driver.headers, x.iface ≠ i →
      x.name ≠ (slotName lim (setup.ifaces i).kind iptype j).1) {returned : List Hdl} :
    Sound setup lim
      { Sys.setPool i iptype
          { s.pools i iptype with
            lan2lanHdrHdl := (s.pools i iptype).lan2lanHdrHdl.set j ⟨hdl, true⟩ } s with
        driver := { s.driver with
          headers := ⟨i, iptype, hdl, (slotName lim (setup.ifaces i).kind iptype j).1⟩ ::
            s.driver.headers }
        hdrReturned := returned } := by
  obtain ⟨y, hy⟩ : ∃ y, (s.pools i iptype).lan2lanHdrHdl[j]? = some y := by
    obtain ⟨a, y, b, hab, hlen, -⟩ := split_of_findIdx? hj
    exact ⟨y, by rw [hab, ← hlen, getElem?_middle]⟩
  have hfree := valid_of_free? hj hy
  have hlt : j < maxOffloadPair := by
    rw [← h.length i iptype]
    exact (List.getElem?_eq_some_iff.mp hy).1
  refine h.setHdr ?_ ?_ ?_ ?_ ?_ ?_ ?_
  · refine (held_set_free hy hfree rfl).trans ?_
    rw [Driver.headersOf, List.filter_cons_of_pos (by simp), List.map_cons]
    exact (h.hdr i iptype).cons hdl
  · intro i' ip' hne
    rw [Driver.headersOf, List.filter_cons_of_neg]
    · rfl
    · intro hown
      obtain ⟨hi, hip⟩ := of_decide_eq_true hown
      exact hne (Prod.ext hi.symm hip.symm)
  · exact List.nodup_cons.mpr ⟨hfresh, h.once⟩
  · refine List.nodup_cons.mpr ⟨?_, h.names⟩
    intro hmem
    obtain ⟨x, hx, heq⟩ := List.mem_map.mp hmem
    obtain ⟨hmax, k, hk, hxname⟩ := h.named x hx
    have hi : x.iface = i := by
      by_contra hne
      exact hname x hx hne heq
    have hklt : k < maxOffloadPair := by
      rw [← h.length x.iface x.ip]
      exact (List.getElem?_eq_some_iff.mp hk).1
    -- the name would be that of the same slot, which is in use
    obtain ⟨-, hip', rfl⟩ := slotName_injective hklt hlt hmax hip (hxname.symm.trans heq)
    rw [hi, hip', hy] at hk
    cases hk
    cases hfree
  · rw [List.length_set]
    exact h.length i iptype
  · exact (h.unstale i iptype).take hj hdl
  · intro x hx
    rcases List.mem_cons.mp hx with rfl | hx
    · refine ⟨hip, fun _ => ⟨j, ?_, rfl⟩, fun hne => absurd rfl hne⟩
      rw [List.getElem?_set_self (List.getElem?_eq_some_iff.mp hy).1]
    · refine ⟨(h.named x hx).1, fun hown => h.named_set hy hx hown ?_, fun _ => hx⟩
      rintro rfl
      cases hfree

theorem headersOf_filter (d : Driver ι) (h : Hdl) (i : ι) (ip : IpType) :
    Driver.headersOf { d with headers := d.headers.filter fun x => x.hdrHdl ≠ h } i ip =
      (d.headersOf i ip).filter fun g => g ≠ h := by
  rw [Driver.headersOf, Driver.headersOf, List.filter_map, List.filter_comm]
  rfl

theorem Sound.delHeader (h : s.Sound setup lim) {x : Header ι} (hx : x ∈ s.driver.headers) {j : Nat}
    (hslot : (s.pools x.iface x.ip).lan2lanHdrHdl[j]? = some ⟨x.hdrHdl, true⟩)
    {returned : List Hdl} :
    Sound setup lim
      { Sys.setPool x.iface x.ip
          { s.pools x.iface x.ip with
            lan2lanHdrHdl :=
              (s.pools x.iface x.ip).lan2lanHdrHdl.set j ⟨x.hdrHdl, false⟩ } s with
        driver := { s.driver with
          headers := s.driver.headers.filter fun y => y.hdrHdl ≠ x.hdrHdl }
        hdrReturned := returned } := by
  have hsub : (s.driver.headers.filter fun y => y.hdrHdl ≠ x.hdrHdl).Sublist s.driver.headers :=
    List.filter_sublist
  have hnodup : (held (s.pools x.iface x.ip).lan2lanHdrHdl).Nodup :=
    (h.hdr x.iface x.ip).nodup_iff.mpr (h.once.sublist (List.filter_sublist.map _))
  have hheld := held_set_used (y := ⟨x.hdrHdl, false⟩) hslot rfl rfl
  refine h.setHdr ?_ ?_ (h.once.sublist (hsub.map _)) (h.names.sublist (hsub.map _)) ?_
    ((h.unstale x.iface x.ip).release hnodup hslot) ?_
  · rw [headersOf_filter]
    have hperm := (hheld.symm.trans (h.hdr x.iface x.ip)).filter fun g => g ≠ x.hdrHdl
    rw [List.filter_cons_of_neg (by simp), List.filter_eq_self.mpr] at hperm
    · exact hperm
    · intro g hg
      refine decide_eq_true fun heq => ?_
      exact (List.nodup_cons.mp (hheld.nodup_iff.mp hnodup)).1 (heq ▸ hg)
  · intro i' ip' hne
    rw [headersOf_filter, List.filter_eq_self.mpr]
    intro g hg
    obtain ⟨y, hmem, rfl⟩ := List.mem_map.mp hg
    obtain ⟨hy, hown⟩ := List.mem_filter.mp hmem
    obtain ⟨rfl, rfl⟩ := of_decide_eq_true hown
    refine decide_eq_true fun heq => hne ?_
    rw [List.inj_on_of_nodup_map h.once hy hx heq]
  · rw [List.length_set]
    exact h.length x.iface x.ip
  · intro y hy
    obtain ⟨hy, hne⟩ := List.mem_filter.mp hy
    refine ⟨(h.named y hy).1, fun hown => h.named_set hslot hy hown ?_, fun _ => hy⟩
    intro heq
    exact of_decide_eq_true hne (Slot.mk.inj heq).1.symm

omit [DecidableEq ι] in
theorem hdrSlot_ok {i : ι} {iptype : IpType} {dstMac : MacAddr} {clients : List MacAddr}
    {copy : Option Nat} {j : Nat}
    (hslot : s.hdrSlot setup lim i iptype dstMac clients copy = .ok j) :
    iptype ≠ .max ∧ free? (s.pools i iptype).lan2lanHdrHdl = some j := by
  rw [hdrSlot.eq_def] at hslot
  split at hslot
  · cases hslot
  split at hslot
  · cases hslot
  next hip =>
    split at hslot
    · cases hslot
    split at hslot
    · cases hslot
    split at hslot
    · cases hslot
    split at hslot
    · cases hslot
    split at hslot
    · cases hslot
    next k hk =>
      cases hslot
      exact ⟨hip, hk⟩

theorem Sound.addLan2lanHdr (h : s.Sound setup lim) {i : ι} {iptype : IpType} {dstMac : MacAddr}
    {clients : List MacAddr} {copy : Option Nat} {add : AddAnswer} {result : Result}
    (hclear : Clear setup lim s (.addLan2lanHdr i iptype dstMac clients copy add))
    (hcall : s.addLan2lanHdr setup lim i iptype dstMac clients copy add = some (result, s')) :
    s'.Sound setup lim ∧ (result = .failure → s' = s) := by
  rw [Sys.addLan2lanHdr] at hcall
  rw [Clear] at hclear
  cases hslot : s.hdrSlot setup lim i iptype dstMac clients copy with
  | error r =>
      rw [hslot] at hcall
      cases hcall
      exact ⟨h, fun _ => rfl⟩
  | ok j =>
      rw [hslot] at hcall hclear
      obtain ⟨hdone, hname⟩ := hclear
      obtain ⟨hip, hj⟩ := hdrSlot_ok hslot
      obtain ⟨x, hx, hcall⟩ := Option.bind_eq_some_iff.mp hcall
      have hlt : j < maxOffloadPair := by
        rw [← h.length i iptype]
        exact (List.getElem?_eq_some_iff.mp hx).1
      simp only at hcall
      rw [if_neg (Nat.not_lt.mpr (slotName_eq lim _ iptype hlt).2)] at hcall
      cases add with
      | refused => cases hdone
      | badStatus => cases hdone
      | done hdl =>
          simp only at hcall
          split at hcall
          · cases hcall
          · next hfresh =>
              cases hcall
              exact ⟨h.addHeader hip hj hfresh hname, fun hfailure => by cases hfailure⟩

theorem Sound.delLan2lanHdr (h : s.Sound setup lim) {i : ι} {iptype : IpType} {hdrHdl : Hdl}
    {accepts : Bool} {result : Result}
    (hclear : accepts = true →
      ∀ x ∈ s.driver.headers, x.hdrHdl = hdrHdl → x.iface = i ∧ x.ip = iptype)
    (hcall : s.delLan2lanHdr i iptype hdrHdl accepts = some (result, s')) :
    s'.Sound setup lim ∧ (result = .failure → s' = s) := by
  rw [Sys.delLan2lanHdr] at hcall
  split at hcall
  · cases hcall
    exact ⟨h, fun _ => rfl⟩
  next haccepts =>
    split at hcall
    · cases hcall
    next hlive =>
      rw [not_or, Bool.not_eq_false] at haccepts
      have hown := hclear haccepts.2
      obtain ⟨x, hx, rfl⟩ := List.mem_map.mp (not_not.mp hlive)
      obtain ⟨rfl, rfl⟩ := hown x hx rfl
      have hheld : x.hdrHdl ∈ held (s.pools x.iface x.ip).lan2lanHdrHdl := by
        refine (h.hdr x.iface x.ip).mem_iff.mpr (List.mem_map_of_mem ?_)
        exact List.mem_filter.mpr ⟨hx, by simp⟩
      obtain ⟨j, hj, hslot⟩ := (h.unstale x.iface x.ip).slotOf? hheld
      simp only [if_neg (h.named x hx).1, hj] at hcall
      cases hcall
      exact ⟨h.delHeader hx hslot, fun hfailure => by cases hfailure⟩

theorem Sound.setRt (h : s.Sound setup lim) (rt : List RtRule) (returned : List (List Hdl)) :
    Sound setup lim
      { s with driver := { s.driver with rt := rt }, rtReturned := returned } :=
  ⟨⟨h.flt, h.count, h.hdr, h.once, h.names⟩, h.rules, h.hdls, h.returned, h.nodup, h.length,
    h.unstale, h.named⟩

theorem addRoutingRules_refused {iptype : IpType} {pair : Pair} {hdrHdl : Hdl}
    {props : List TxProp} {adds : List AddAnswer} {entry : Hdl} {ruleHdl ruleHdl' : List Hdl}
    {rt rt' : List RtRule}
    (hcall : addRoutingRules iptype pair hdrHdl props adds entry ruleHdl rt =
      some (.failure, ruleHdl', rt')) : AddAnswer.refused ∈ adds := by
  fun_induction addRoutingRules iptype pair hdrHdl props adds entry ruleHdl rt with
  | case1 => cases hcall
  | case2 => exact List.mem_singleton_self _
  | case3 _ _ _ _ _ _ ih => exact List.mem_cons_of_mem _ (ih hcall)
  | case4 => cases hcall
  | case5 _ _ _ _ _ _ _ _ ih => exact List.mem_cons_of_mem _ (ih hcall)
  | case6 => cases hcall

theorem addRoutingRules_failure {iptype : IpType} {pair : Pair} {hdrHdl : Hdl}
    {props : List TxProp} {adds : List AddAnswer} {entry : Hdl} {ruleHdl ruleHdl' : List Hdl}
    {rt rt' : List RtRule} (hadds : adds.Pairwise fun a b => a.isDone = true → b ≠ .refused)
    (hcall : addRoutingRules iptype pair hdrHdl props adds entry ruleHdl rt =
      some (.failure, ruleHdl', rt')) : rt' = rt := by
  fun_induction addRoutingRules iptype pair hdrHdl props adds entry ruleHdl rt with
  | case1 => cases hcall
  | case2 =>
      cases hcall
      rfl
  | case3 _ _ _ _ _ _ ih => exact ih (List.pairwise_cons.mp hadds).2 hcall
  | case4 => cases hcall
  | case5 =>
      have hnone := (List.pairwise_cons.mp hadds).1 .refused (addRoutingRules_refused hcall)
      exact absurd rfl (hnone rfl)
  | case6 => cases hcall

theorem Sound.addLan2lanRtRule (h : s.Sound setup lim) {i : ι} {iptype : IpType} {pair : Pair}
    {hdrHdl : Hdl} {adds : List AddAnswer} {result : Result}
    (hclear : adds.Pairwise fun a b => a.isDone = true → b ≠ .refused)
    (hcall : s.addLan2lanRtRule setup i iptype pair hdrHdl adds = some (result, s')) :
    s'.Sound setup lim ∧ (result = .failure → s' = s) := by
  rw [Sys.addLan2lanRtRule.eq_def] at hcall
  split at hcall
  · cases hcall
    exact ⟨h, fun _ => rfl⟩
  split at hcall
  · cases hcall
    exact ⟨h.setRt s.driver.rt _, fun hfailure => by cases hfailure⟩
  split at hcall
  · cases hcall
    exact ⟨h, fun _ => rfl⟩
  obtain ⟨⟨r, ruleHdl, rt⟩, hadd, hcall⟩ := Option.bind_eq_some_iff.mp hcall
  cases r with
  | success =>
      cases hcall
      exact ⟨h.setRt rt _, fun hfailure => by cases hfailure⟩
  | failure =>
      cases hcall
      rw [addRoutingRules_failure hclear hadd]
      exact ⟨h, fun _ => rfl⟩

theorem Sound.delLan2lanRtRule (h : s.Sound setup lim) {ruleHdl : List Hdl} {accepts : List Bool}
    {result : Result} (hcall : s.delLan2lanRtRule ruleHdl accepts = some (result, s')) :
    s'.Sound setup lim ∧ (result = .failure → s' = s) := by
  rw [Sys.delLan2lanRtRule.eq_def] at hcall
  split at hcall
  · cases hcall
    exact ⟨h, fun _ => rfl⟩
  · cases hcall
    exact ⟨h.setRt _ _, fun hfailure => by cases hfailure⟩

theorem Sound.call (h : s.Sound setup lim) {c : Call ι} {result : Result}
    (hreturned : s.Returned c) (hclear : Clear setup lim s c)
    (hcall : s.call setup lim c = some (result, s')) :
    s'.Sound setup lim ∧ (result = .failure → s' = s) := by
  cases c with
  | addLan2lanFltRule i iptype pair table mdfy => exact h.addLan2lanFltRule hclear hcall
  | delLan2lanFltRule i iptype ruleHdl mdfy => exact h.delLan2lanFltRule hreturned hclear hcall
  | addLan2lanHdr i iptype dstMac clients copy add => exact h.addLan2lanHdr hclear hcall
  | delLan2lanHdr i iptype hdrHdl accepts => exact h.delLan2lanHdr hclear hcall
  | addLan2lanRtRule i iptype pair hdrHdl adds => exact h.addLan2lanRtRule hclear hcall
  | delLan2lanRtRule i iptype ruleHdl accepts => exact h.delLan2lanRtRule hcall

/-- In every run of clear calls the slots mirror the driver, and a clear call
that fails leaves the driver and the slots as they were. -/
theorem run_mirrors {calls : List (Call ι × Result)}
    (hrun : Run (Guarded (fun s c => Clear setup lim s c.1) (Steps setup lim))
      (Sys.init setup) calls s) :
    s.Mirrors ∧ ∀ c s', s.Returned c → Clear setup lim s c →
      s.call setup lim c = some (.failure, s') → s' = s := by
  have h : s.Sound setup lim :=
    hrun.invariant (Sound.init setup lim) fun _ _ _ h ⟨hclear, hreturned, hcall⟩ =>
      (h.call hreturned hclear hcall).1
  exact ⟨h.toMirrors, fun c s' hreturned hclear hcall => (h.call hreturned hclear hcall).2 rfl⟩

/-- A LAN and a WLAN interface. -/
def lanAndWlan : Setup Bool where
  ifaces := fun i => ⟨if i then .wlan else .lan, true, some [⟨.v4, 5⟩, ⟨.v6, 5⟩, ⟨.v4, 6⟩]⟩
  rules := fun h => h ≠ 0
  fltHdls := fun i ip =>
    match i, ip with
    | false, .v4 => [1, 2, 3]
    | false, .v6 => [4, 5, 6]
    | true, .v4 => [7, 8, 9]
    | true, .v6 => [10, 11, 12]
    | _, .max => [0, 0, 0]
  length := by intro i ip; cases i <;> cases ip <;> rfl
  once := by intro i ip; cases i <;> cases ip <;> decide
  apart := by
    intro i ip i' ip'
    cases i <;> cases ip <;> cases i' <;> cases ip' <;> simp

def sizes : Limits := ⟨255, 20, by decide⟩

def pair : Pair := ⟨1, 2, none, none⟩

def mac (n : UInt8) : MacAddr := Vector.replicate 6 n

/-- The rules of a pair come and go, a handle is used again, and some calls
fail. -/
def pairCalls : List (Call Bool × Result) :=
  [(.addLan2lanFltRule false .v4 pair true .done, .success),
    (.addLan2lanHdr true .v4 (mac 7) [mac 7] (some 14) (.done 30), .success),
    (.addLan2lanHdr false .v4 (mac 8) [] (some 14) (.done 31), .success),
    (.addLan2lanHdr true .v4 (mac 9) [mac 7] (some 14) .refused, .failure),
    (.addLan2lanRtRule true .v4 pair 30 [.done 20, .done 21], .success),
    (.delLan2lanHdr false .v4 31 true, .success),
    (.addLan2lanHdr false .v6 (mac 8) [] (some 14) (.done 31), .success),
    (.addLan2lanRtRule false .v4 pair 31 [.refused], .failure),
    (.delLan2lanFltRule false .v4 1 .refused, .failure),
    (.delLan2lanFltRule false .v4 1 .done, .success)]

instance instDecidableReturned {ι : Type} (s : Sys ι) : (c : Call ι) → Decidable (s.Returned c)
  | .delLan2lanFltRule _ _ ruleHdl _ => inferInstanceAs (Decidable (ruleHdl ∈ s.fltReturned))
  | .delLan2lanHdr _ _ hdrHdl _ => inferInstanceAs (Decidable (hdrHdl ∈ s.hdrReturned))
  | .delLan2lanRtRule _ _ ruleHdl _ => inferInstanceAs (Decidable (ruleHdl ∈ s.rtReturned))
  | .addLan2lanFltRule _ _ _ _ _ => isTrue trivial
  | .addLan2lanHdr _ _ _ _ _ _ => isTrue trivial
  | .addLan2lanRtRule _ _ _ _ _ => isTrue trivial

/-- A call that ends as it is said to. -/
def runCall (s : Sys Bool) (c : Call Bool × Result) : Option (Sys Bool) :=
  if s.Returned c.1 then
    (s.call lanAndWlan sizes c.1).bind fun t => if t.1 = c.2 then some t.2 else none
  else none

theorem runCall_steps (s : Sys Bool) (c : Call Bool × Result) (s' : Sys Bool)
    (hrun : runCall s c = some s') : Steps lanAndWlan sizes s c s' := by
  rw [runCall, Option.ite_none_right_eq_some] at hrun
  obtain ⟨hreturned, hrun⟩ := hrun
  obtain ⟨⟨r, t⟩, hcall, hrun⟩ := Option.bind_eq_some_iff.mp hrun
  rw [Option.ite_none_right_eq_some] at hrun
  obtain ⟨heq, ht⟩ := hrun
  change r = c.2 at heq
  cases ht
  exact ⟨hreturned, heq ▸ hcall⟩

theorem run_mirrors_pair :
    ∃ s, Run (Guarded (fun s c => Clear lanAndWlan sizes s c.1) (Steps lanAndWlan sizes))
        (Sys.init lanAndWlan) pairCalls s ∧
      s.driver.headers.map Header.hdrHdl = [31, 30] ∧ s.Mirrors := by
  let run : Option (Sys Bool) := pairCalls.foldlM
    (fun s c => if Clear lanAndWlan sizes s c.1 then runCall s c else none) (Sys.init lanAndWlan)
  have hheaders : run.map (fun s => s.driver.headers.map Header.hdrHdl) = some [31, 30] := by
    decide +kernel
  obtain ⟨s, hs, hheaders⟩ := Option.map_eq_some_iff.mp hheaders
  have hrun := Run.of_guarded_foldlM runCall_steps hs
  exact ⟨s, hrun, hheaders, (run_mirrors hrun).1⟩

/-- The driver refuses a header, and its slot stays in use. -/
theorem run_refused_kept :
    ∃ s, Run (Steps lanAndWlan sizes) (Sys.init lanAndWlan)
        [(.addLan2lanHdr false .v4 (mac 8) [] (some 14) .refused, .failure)] s ∧ ¬ s.Mirrors := by
  let run : Option (Sys Bool) :=
    [(Call.addLan2lanHdr false .v4 (mac 8) [] (some 14) .refused, Result.failure)].foldlM runCall
      (Sys.init lanAndWlan)
  have hkept : run.map (fun s =>
      (held (s.pools false .v4).lan2lanHdrHdl, s.driver.headersOf false .v4)) =
        some ([0], []) := by
    decide +kernel
  obtain ⟨s, hs, hkept⟩ := Option.map_eq_some_iff.mp hkept
  obtain ⟨hheld, hnone⟩ := Prod.mk.inj hkept
  refine ⟨s, Run.of_foldlM runCall_steps hs, fun hmirrors => ?_⟩
  have hperm := hmirrors.hdr false .v4
  rw [hheld, hnone] at hperm
  cases hperm.length_eq

end Sys

end LibraDevice.Lan2Lan
