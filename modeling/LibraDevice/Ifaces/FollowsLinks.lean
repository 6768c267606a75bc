import LibraDevice.Ifaces.IfaceManager
import Mathlib.Data.List.Nodup

/-!
The instances follow the links, where a link that comes up is that of a known
interface without an instance on its way out, at most two access points are up,
and a link goes down of the interface that a cradle instance has.
-/

namespace LibraDevice.Ifaces

open LibraDevice.StepRun
open LibraDevice.Xml (IfaceType)

universe u

variable {ν : Type u}

def LinkEvent.isLinkDown : LinkEvent → Bool
  | linkDown _ => true
  | _ => false

/-- The interface that an instance closes itself for. -/
def Event.lanDeleteSelf? : Event → Option Nat
  | lanDeleteSelf i => some i
  | link _ => none

namespace Sys

/-- The table is indexed inside, the listeners are live objects, an interface
has at most one active instance, which is torn down only by its own link, and
where no event waits an interface whose link is up has one. -/
structure FollowsLinks (s : Sys ν) : Prop where
  inside : s.outside = false
  live : ∀ x ∈ s.instances, x.live = true
  one : ((s.instances.filter fun x => x.isActive).map Instance.ipaIfNum).Nodup
  own : ∀ t ∈ s.torn, t.2 = some t.1
  opened : s.queue = [] → ∀ i, s.up i = true →
    ∃ x ∈ s.instances, x.ipaIfNum = i ∧ x.isActive = true

/-- The manager is registered for the event and looks its interface up. -/
def asked (cfg : Config ν) : LinkEvent → Bool
  | .linkUp _ => true
  | .usbLinkUp _ => true
  | .wlanApLinkUp _ => true
  | .wlanStaLinkUp _ => !cfg.android
  | .linkDown _ => false
  | .wlanLinkDown _ => false

/-- The instance that the event opens is that of an access point. -/
def opensAp (cat : Option IfaceType) : LinkEvent → Bool
  | .usbLinkUp _ => cat = some .wlanIf
  | .wlanApLinkUp _ => cat = some .unknownIf
  | _ => false

section

variable [DecidableEq ν]

/-- The condition on a link event. -/
def ClearLink (cfg : Config ν) (s : Sys ν) (e : LinkEvent) : Prop :=
  (asked cfg e = true → (s.query cfg e.ifIndex).1 ≠ none) ∧
    (∀ i ∈ (s.query cfg e.ifIndex).1, opens cfg (s.catOf i) e = true →
      ∀ x ∈ s.instances, x.ipaIfNum = i → x.isActive = true) ∧
    (∀ i ∈ (s.query cfg e.ifIndex).1, opensAp (s.catOf i) e = true →
      s.numWlanApIface ≤ 1 ∨ ∃ x ∈ s.instances, x.ipaIfNum = i) ∧
    (e.isLinkDown = true → ∀ x ∈ s.instances, x.kind = .wan .ecm →
      (s.query cfg e.ifIndex).1 = some x.ipaIfNum)

instance instDecidableClearLink (cfg : Config ν) (s : Sys ν) (e : LinkEvent) :
    Decidable (ClearLink cfg s e) :=
  inferInstanceAs (Decidable (_ ∧ _))

def Clear (cfg : Config ν) (s : Sys ν) : Act → Prop
  | .post _ => True
  | .process =>
      match s.queue with
      | .link e :: queue => ClearLink cfg { s with queue := queue } e
      | _ => True

instance instDecidableClear (cfg : Config ν) (s : Sys ν) : (a : Act) → Decidable (Clear cfg s a)
  | .post _ => isTrue trivial
  | .process =>
      match h : s.queue with
      | .link e :: queue =>
          decidable_of_iff (ClearLink cfg { s with queue := queue } e) (by rw [Clear, h])
      | [] => isTrue (by rw [Clear, h]; trivial)
      | .lanDeleteSelf _ :: _ => isTrue (by rw [Clear, h]; trivial)

end

/-- One instance an interface, an inactive one with its event in the queue. -/
structure Sound (s : Sys ν) : Prop where
  inside : s.outside = false
  live : ∀ x ∈ s.instances, x.live = true
  distinct : (s.instances.map Instance.ipaIfNum).Nodup
  kind : ∀ x ∈ s.instances, x.isActive = false → ∀ mode, x.kind ≠ .wan mode
  count : s.numWlanApIface = (s.instances.filter fun x => x.kind = .wlan).length
  posted : (s.queue.filterMap Event.lanDeleteSelf?).Perm
    ((s.instances.filter fun x => !x.isActive).map Instance.ipaIfNum)
  own : ∀ t ∈ s.torn, t.2 = some t.1
  opened : ∀ i, s.up i = true → ∃ x ∈ s.instances, x.ipaIfNum = i ∧ x.isActive = true

variable {cfg : Config ν} {s s' : Sys ν} {i : Nat} {ifIndex : Int}

theorem Sound.init (table : List (ν × IfaceType)) : (init table).Sound where
  inside := rfl
  live := fun _ hx => by cases hx
  distinct := List.nodup_nil
  kind := fun _ hx => by cases hx
  count := rfl
  posted := List.Perm.nil
  own := fun _ ht => by cases ht
  opened := fun _ hup => by cases hup

theorem Sound.followsLinks (h : s.Sound) : s.FollowsLinks where
  inside := h.inside
  live := h.live
  one := h.distinct.sublist (List.filter_sublist.map _)
  own := h.own
  opened := fun _ => h.opened

theorem Sound.table (h : s.Sound) (table : List (IfaceEntry ν)) :
    Sound { s with ifaceTable := table } :=
  ⟨h.inside, h.live, h.distinct, h.kind, h.count, h.posted, h.own, h.opened⟩

/-- The linux index is that of the interface `i`. -/
def Known (s : Sys ν) (ifIndex : Int) (i : Nat) : Prop :=
  s.ifaceTable.findIdx? (·.netlinkInterfaceIndex = ifIndex) = some i

theorem findIdx?_modify {α : Type u} (l : List α) (i : Nat) (f : α → α) (p : α → Bool)
    (hf : ∀ a, p (f a) = p a) : (l.modify i f).findIdx? p = l.findIdx? p := by
  induction l generalizing i with
  | nil => cases i <;> rfl
  | cons a l ih =>
      cases i with
      | zero =>
          rw [List.modify_zero_cons, List.findIdx?_cons, List.findIdx?_cons, hf]
      | succ i =>
          rw [List.modify_succ_cons, List.findIdx?_cons, List.findIdx?_cons, ih]

theorem Known.setCat (h : s.Known ifIndex i) (j : Nat) (cat : IfaceType) :
    (s.setCat j cat).Known ifIndex i :=
  (findIdx?_modify s.ifaceTable j (fun e => { e with ifCat := cat }) _ fun _ => rfl).trans h

theorem map_if_cat_modify (l : List (IfaceEntry ν)) (i j : Nat) (f : IfaceEntry ν → IfaceEntry ν)
    (hf : ∀ e, (f e).ifCat = e.ifCat) :
    (l.modify i f)[j]?.map IfaceEntry.ifCat = l[j]?.map IfaceEntry.ifCat := by
  rw [List.getElem?_modify]
  cases l[j]? with
  | none => rfl
  | some e =>
      rcases eq_or_ne i j with rfl | hne
      · simp [hf]
      · simp [hne]

theorem catOf_setCat (cat : IfaceType) {cat' : IfaceType} (h : s.catOf i = some cat') :
    (s.setCat i cat).catOf i = some cat := by
  rw [catOf, Option.map_eq_some_iff] at h
  obtain ⟨e, he, -⟩ := h
  change Option.map _ (s.ifaceTable.modify i _)[i]? = _
  rw [List.getElem?_modify_eq, he]
  rfl

variable [DecidableEq ν]

theorem Known.query (h : s.Known ifIndex i) (cfg : Config ν) :
    s.query cfg ifIndex = (some i, s) := by
  rw [Sys.query, show s.ifaceTable.findIdx? _ = some i from h]

theorem query_cases (cfg : Config ν) (s : Sys ν) (ifIndex : Int) :
    s.query cfg ifIndex = (none, s) ∨
      ∃ i table, s.query cfg ifIndex = (some i, { s with ifaceTable := table }) ∧
        Known { s with ifaceTable := table } ifIndex i ∧
        ∀ j, catOf { s with ifaceTable := table } j = s.catOf j := by
  rw [query]
  split
  · next i hi => exact Or.inr ⟨i, s.ifaceTable, rfl, hi, fun _ => rfl⟩
  · next hnone =>
      split
      · exact Or.inl rfl
      · next name _ =>
          split
          · exact Or.inl rfl
          · next i hi =>
              refine Or.inr ⟨i, _, rfl, ?_, ?_⟩
              · obtain ⟨hlt, -, -⟩ := List.findIdx?_eq_some_iff_getElem.mp hi
                rw [Known, List.findIdx?_eq_some_iff_getElem]
                refine ⟨by rw [List.length_modify]; exact hlt, ?_, ?_⟩
                · simp
                · intro j hj
                  have hjlt := Nat.lt_trans hj hlt
                  have hne := List.findIdx?_eq_none_iff.mp hnone s.ifaceTable[j]
                    (List.getElem_mem hjlt)
                  simpa [List.getElem_modify, Nat.ne_of_gt hj] using hne
              · exact fun j => map_if_cat_modify _ _ _ _ fun _ => rfl

omit [DecidableEq ν] in
theorem Sound.registr (h : s.Sound) (hnew : ∀ x ∈ s.instances, x.ipaIfNum ≠ i) (kind : Kind)
    {num : Int} (hnum : num = s.numWlanApIface + if kind = .wlan then 1 else 0) :
    Sound (Sys.registr ⟨i, kind, true, true⟩ { s with numWlanApIface := num }) := by
  refine ⟨h.inside, ?_, ?_, ?_, ?_, ?_, h.own, ?_⟩
  · intro x hx
    rcases List.mem_append.mp hx with hx | hx
    · exact h.live x hx
    · rw [List.mem_singleton.mp hx]
  · change ((s.instances ++ [_]).map _).Nodup
    rw [List.map_append, List.map_cons, List.map_nil, (List.perm_append_singleton _ _).nodup_iff,
      List.nodup_cons]
    refine ⟨?_, h.distinct⟩
    intro hmem
    obtain ⟨x, hx, hid⟩ := List.mem_map.mp hmem
    exact hnew x hx hid
  · intro x hx hinactive
    rcases List.mem_append.mp hx with hx | hx
    · exact h.kind x hx hinactive
    · rw [List.mem_singleton.mp hx] at hinactive
      cases hinactive
  · change num = (((s.instances ++ [_]).filter _).length : Int)
    rw [List.filter_append, List.length_append, hnum, h.count]
    cases kind with
    | lan => simp
    | wlan => simp
    | wan mode => simp
  · change (s.queue.filterMap _).Perm (((s.instances ++ [_]).filter _).map _)
    rw [List.filter_append]
    simpa using h.posted
  · intro j hup
    obtain ⟨x, hx, hid, hactive⟩ := h.opened j hup
    exact ⟨x, List.mem_append_left _ hx, hid, hactive⟩

theorem Sound.createIfaceInstance (cfg : Config ν) (h : s.Sound)
    (hknown : s.Known ifIndex i) (mode : WanMode)
    (hap : s.catOf i = some .wlanIf →
      s.numWlanApIface ≤ 1 ∨ ∃ x ∈ s.instances, x.ipaIfNum = i) :
    (s.createIfaceInstance cfg ifIndex mode).Sound ∧
      (opens cfg (s.catOf i) (.usbLinkUp ifIndex) = true →
        (∀ x ∈ s.instances, x.ipaIfNum = i → x.isActive = true) →
        ∃ x ∈ (s.createIfaceInstance cfg ifIndex mode).instances,
          x.ipaIfNum = i ∧ x.isActive = true) := by
  rw [Sys.createIfaceInstance, hknown.query]
  simp only
  split
  · next hany =>
      refine ⟨h, fun _ hactive => ?_⟩
      obtain ⟨x, hx, hid⟩ := List.any_eq_true.mp hany
      exact ⟨x, hx, of_decide_eq_true hid, hactive x hx (of_decide_eq_true hid)⟩
  · next hany =>
      have hnew : ∀ x ∈ s.instances, x.ipaIfNum ≠ i := by
        intro x hx hid
        exact hany (List.any_eq_true.mpr ⟨x, hx, decide_eq_true hid⟩)
      have hregistr : ∀ kind, kind ≠ .wlan →
          (s.registr ⟨i, kind, true, true⟩).Sound ∧
            ((opens cfg (s.catOf i) (.usbLinkUp ifIndex) = true →
              (∀ x ∈ s.instances, x.ipaIfNum = i → x.isActive = true) →
              ∃ x ∈ (s.registr ⟨i, kind, true, true⟩).instances,
                x.ipaIfNum = i ∧ x.isActive = true)) := by
        intro kind hkind
        refine ⟨?_, fun _ _ => ⟨_, List.mem_append_right _ List.mem_cons_self, rfl, rfl⟩⟩
        exact h.registr hnew kind (by rw [if_neg hkind, Int.add_zero])
      split
      · exact hregistr .lan (by decide)
      · exact hregistr .lan (by decide)
      · exact hregistr .lan (by decide)
      · next hcat =>
          have hfew : s.numWlanApIface ≤ 1 := by
            rcases hap hcat with hfew | ⟨x, hx, hid⟩
            · exact hfew
            · exact absurd hid (hnew x hx)
          have hnonneg : 0 ≤ s.numWlanApIface := by
            rw [h.count]
            exact Int.natCast_nonneg _
          rw [newWlan, if_pos ⟨hnonneg, hfew⟩]
          refine ⟨h.registr hnew .wlan rfl, fun _ _ => ?_⟩
          exact ⟨_, List.mem_append_right _ List.mem_cons_self, rfl, rfl⟩
      · next hcat =>
          split
          · exact hregistr (.wan mode) (by simp)
          · next hopens =>
              refine ⟨h, fun hopen => absurd ?_ hopens⟩
              rw [hcat] at hopen
              exact hopen
      · exact hregistr (.wan mode) (by simp)
      · next h1 h2 h3 h4 h5 h6 =>
          refine ⟨h, fun hopen => ?_⟩
          rw [opens] at hopen
          · cases hopen
          · exact h1
          · exact h2
          · exact h3
          · exact h4
          · exact h5
          · exact h6

omit [DecidableEq ν] in
theorem Sound.setCat (h : s.Sound) (i : Nat) (cat : IfaceType) : (s.setCat i cat).Sound :=
  h.table _

theorem Sound.manage (h : s.Sound) {e : LinkEvent} (hclear : ClearLink cfg s e) :
    (s.manage cfg e).Sound ∧
      ∀ i ∈ (s.query cfg e.ifIndex).1, opens cfg (s.catOf i) e = true →
        ∃ x ∈ (s.manage cfg e).instances, x.ipaIfNum = i ∧ x.isActive = true := by
  obtain ⟨hasked, hactive, hap, -⟩ := hclear
  rcases s.query_cases cfg e.ifIndex with hnone | ⟨i, table, hquery, hknown, hcat⟩
  · -- the event is one that nobody asks for
    refine ⟨?_, fun i hi => by rw [hnone] at hi; cases hi⟩
    have hnot : asked cfg e = false := by
      cases hask : asked cfg e with
      | false => rfl
      | true => exact absurd (by rw [hnone]) (hasked hask)
    cases e with
    | linkUp ifIndex => cases hnot
    | usbLinkUp ifIndex => cases hnot
    | wlanApLinkUp ifIndex => cases hnot
    | wlanStaLinkUp ifIndex =>
        rw [asked, Bool.not_eq_false'] at hnot
        rw [Sys.manage, if_pos hnot]
        exact h
    | linkDown ifIndex => exact h
    | wlanLinkDown ifIndex => exact h
  · have hopened : ∀ j ∈ (s.query cfg e.ifIndex).1, j = i := by
      intro j hj
      rw [hquery] at hj
      exact (Option.some.inj hj).symm
    have hi : i ∈ (s.query cfg e.ifIndex).1 := by
      rw [hquery]
      rfl
    have hactive := hactive i hi
    have hap := hap i hi
    suffices hmanage : (s.manage cfg e).Sound ∧ (opens cfg (s.catOf i) e = true →
        ∃ x ∈ (s.manage cfg e).instances, x.ipaIfNum = i ∧ x.isActive = true) by
      refine ⟨hmanage.1, fun j hj => ?_⟩
      rw [hopened j hj]
      exact hmanage.2
    have ht := h.table table
    rw [← hcat i] at hactive hap ⊢
    cases e with
    | linkUp ifIndex =>
        change s.query cfg ifIndex = _ at hquery
        simp only [Sys.manage, hquery, withIndex]
        split
        · next hwan =>
            have hnot : catOf { s with ifaceTable := table } i = some .wlanIf → False := by
              rw [hwan]
              exact fun heq => by cases heq
            obtain ⟨hsound, hactive'⟩ := ht.createIfaceInstance cfg hknown .q6
              fun heq => (hnot heq).elim
            refine ⟨hsound, fun hopen => hactive' ?_ (hactive hopen)⟩
            rw [opens, hwan] at hopen
            rw [hwan]
            exact (Bool.and_eq_true_iff.mp hopen).2
        · next hwan =>
            refine ⟨ht, fun hopen => absurd ?_ hwan⟩
            exact of_decide_eq_true (Bool.and_eq_true_iff.mp hopen).1
    | usbLinkUp ifIndex =>
        change s.query cfg ifIndex = _ at hquery
        simp only [Sys.manage, hquery, withIndex]
        have hcreate : ∀ mode, _ := fun mode =>
          ht.createIfaceInstance cfg hknown mode fun heq => hap (decide_eq_true heq)
        split
        · exact ⟨(hcreate .ecm).1, fun hopen => (hcreate .ecm).2 hopen (hactive hopen)⟩
        · exact ⟨(hcreate .q6).1, fun hopen => (hcreate .q6).2 hopen (hactive hopen)⟩
    | wlanApLinkUp ifIndex =>
        change s.query cfg ifIndex = _ at hquery
        simp only [Sys.manage, hquery, withIndex]
        split
        · next hunknown =>
            have hnew := catOf_setCat .wlanIf hunknown
            obtain ⟨hsound, hactive'⟩ := (ht.setCat i .wlanIf).createIfaceInstance cfg
              (hknown.setCat i .wlanIf) .q6 fun _ => hap (decide_eq_true hunknown)
            refine ⟨hsound, fun hopen => hactive' ?_ (hactive hopen)⟩
            rw [hnew]
            rfl
        · next hunknown => exact ⟨ht, fun hopen => absurd (of_decide_eq_true hopen) hunknown⟩
    | wlanStaLinkUp ifIndex =>
        change s.query cfg ifIndex = _ at hquery
        simp only [Sys.manage, hquery, withIndex]
        split
        · next handroid =>
            refine ⟨h, fun hopen => ?_⟩
            rw [opens, handroid] at hopen
            cases hopen
        · split
          · next hunknown =>
              have hnew := catOf_setCat .wanIf hunknown
              obtain ⟨hsound, hactive'⟩ := (ht.setCat i .wanIf).createIfaceInstance cfg
                (hknown.setCat i .wanIf) .wlan fun heq => by rw [hnew] at heq; cases heq
              refine ⟨hsound, fun hopen => hactive' ?_ (hactive hopen)⟩
              rw [hnew]
              exact (Bool.and_eq_true_iff.mp hopen).2
          · next hunknown =>
              refine ⟨ht, fun hopen => absurd ?_ hunknown⟩
              exact of_decide_eq_true
                (Bool.and_eq_true_iff.mp (Bool.and_eq_true_iff.mp hopen).1).2
    | linkDown ifIndex => exact ⟨h, fun hopen => by cases hopen⟩
    | wlanLinkDown ifIndex => exact ⟨h, fun hopen => by cases hopen⟩

section

variable {f : Instance → Reaction} {l : List Instance} {x : Instance}

omit [DecidableEq ν]

theorem mem_after (h : x ∈ l.filterMap fun x => x.after (f x)) :
    ∃ y ∈ l, x.ipaIfNum = y.ipaIfNum ∧ x.kind = y.kind ∧ x.live = y.live ∧
      (f y = .keep ∧ x = y ∨ f y = .close ∧ x.isActive = false) := by
  obtain ⟨y, hy, hafter⟩ := List.mem_filterMap.mp h
  refine ⟨y, hy, ?_⟩
  cases hf : f y with
  | keep =>
      rw [hf] at hafter
      cases hafter
      exact ⟨rfl, rfl, rfl, Or.inl ⟨rfl, rfl⟩⟩
  | close =>
      rw [hf] at hafter
      cases hafter
      exact ⟨rfl, rfl, rfl, Or.inr ⟨rfl, rfl⟩⟩
  | delete =>
      rw [hf] at hafter
      cases hafter

theorem map_after_sublist (f : Instance → Reaction) (l : List Instance) :
    ((l.filterMap fun x => x.after (f x)).map Instance.ipaIfNum).Sublist
      (l.map Instance.ipaIfNum) := by
  induction l with
  | nil => exact List.Sublist.refl _
  | cons x l ih =>
      rw [List.filterMap_cons]
      cases hf : f x with
      | keep => exact ih.cons_cons _
      | close => exact ih.cons_cons _
      | delete => exact ih.cons _

theorem length_after (hdelete : ∀ x ∈ l, f x = .delete → x.kind ≠ .wlan) :
    ((l.filterMap fun x => x.after (f x)).filter fun x => x.kind = .wlan).length =
      (l.filter fun x => x.kind = .wlan).length := by
  induction l with
  | nil => rfl
  | cons x l ih =>
      have ih := ih fun y hy => hdelete y (List.mem_cons_of_mem _ hy)
      have hx := hdelete x List.mem_cons_self
      rw [List.filterMap_cons]
      cases hf : f x with
      | keep =>
          simp only [Instance.after, List.filter_cons]
          split
          · exact congrArg (· + 1) ih
          · exact ih
      | close =>
          simp only [Instance.after, List.filter_cons]
          split
          · exact congrArg (· + 1) ih
          · exact ih
      | delete =>
          rw [List.filter_cons_of_neg (by simpa using hx hf)]
          exact ih

theorem inactive_after (hactive : ∀ x ∈ l, f x ≠ .keep → x.isActive = true) :
    (((l.filterMap fun x => x.after (f x)).filter fun x => !x.isActive).map
      Instance.ipaIfNum).Perm
    ((l.filter fun x => !x.isActive).map Instance.ipaIfNum ++
      (l.filter fun x => f x = .close).map Instance.ipaIfNum) := by
  induction l with
  | nil => exact List.Perm.nil
  | cons x l ih =>
      have ih := ih fun y hy => hactive y (List.mem_cons_of_mem _ hy)
      have hx := hactive x List.mem_cons_self
      rw [List.filterMap_cons]
      cases hf : f x with
      | keep =>
          rw [List.filter_cons_of_neg (p := fun x => decide (f x = .close)) (by simp [hf])]
          simp only [Instance.after, List.filter_cons]
          split
          · exact ih.cons _
          · exact ih
      | close =>
          have hactive : x.isActive = true := hx (by rw [hf]; decide)
          rw [List.filter_cons_of_pos (p := fun x => decide (f x = .close)) (by simp [hf])]
          simp only [Instance.after, List.filter_cons, hactive]
          exact (ih.cons _).trans List.perm_middle.symm
      | delete =>
          have hactive : x.isActive = true := hx (by rw [hf]; decide)
          rw [List.filter_cons_of_neg (p := fun x => decide (f x = .close)) (by simp [hf])]
          simp only [Instance.after, List.filter_cons, hactive]
          exact ih

end

omit [DecidableEq ν] in
theorem Sound.react (h : s.Sound) {f : Instance → Reaction} {r : Option Nat} {up : Nat → Bool}
    (hown : ∀ x ∈ s.instances, f x ≠ .keep → x.isActive = true ∧ r = some x.ipaIfNum)
    (hclose : ∀ x ∈ s.instances, f x = .close → ∀ mode, x.kind ≠ .wan mode)
    (hdelete : ∀ x ∈ s.instances, f x = .delete → x.kind ≠ .wlan)
    (hup : ∀ j, up j = true → s.up j = true ∧ r ≠ some j) :
    Sound { s.react f r with up := up } := by
  refine ⟨h.inside, ?_, h.distinct.sublist (map_after_sublist f _), ?_, ?_, ?_, ?_, ?_⟩
  · intro x hx
    obtain ⟨y, hy, -, -, hlive, -⟩ := mem_after hx
    rw [hlive]
    exact h.live y hy
  · intro x hx hinactive mode hkind
    obtain ⟨y, hy, -, hkind', -, ⟨-, rfl⟩ | ⟨hf, -⟩⟩ := mem_after hx
    · exact h.kind x hy hinactive mode hkind
    · exact hclose y hy hf mode (hkind'.symm.trans hkind)
  · change s.numWlanApIface = _
    rw [h.count]
    exact congrArg Nat.cast (length_after hdelete).symm
  · change ((s.queue ++ _).filterMap _).Perm _
    have hself : ∀ l : List Instance,
        (l.map fun x => Event.lanDeleteSelf x.ipaIfNum).filterMap Event.lanDeleteSelf? =
          l.map Instance.ipaIfNum := by
      intro l
      rw [List.filterMap_map]
      exact congrFun (List.filterMap_eq_map (f := Instance.ipaIfNum)) l
    rw [List.filterMap_append, hself]
    exact (h.posted.append_right _).trans
      (inactive_after fun x hx hf => (hown x hx hf).1).symm
  · intro t ht
    rcases List.mem_append.mp ht with ht | ht
    · exact h.own t ht
    · obtain ⟨x, hx, rfl⟩ := List.mem_map.mp ht
      obtain ⟨hx, hf⟩ := List.mem_filter.mp hx
      exact (hown x hx (of_decide_eq_true hf).2).2
  · intro j hj
    obtain ⟨hj, hne⟩ := hup j hj
    obtain ⟨x, hx, rfl, hactive⟩ := h.opened j hj
    refine ⟨x, List.mem_filterMap.mpr ⟨x, hx, ?_⟩, rfl, hactive⟩
    cases hf : f x with
    | keep => rfl
    | close => exact absurd (hown x hx (by rw [hf]; decide)).2 hne
    | delete => exact absurd (hown x hx (by rw [hf]; decide)).2 hne

theorem listenersQuery_cases (cfg : Config ν) (s : Sys ν) (ifIndex : Int)
    (asks : Instance → Bool) :
    ∃ table, s.listenersQuery cfg ifIndex asks =
      ((s.query cfg ifIndex).1, { s with ifaceTable := table }) := by
  rw [listenersQuery]
  split
  · rcases s.query_cases cfg ifIndex with hnone | ⟨i, table, hquery, -⟩
    · exact ⟨s.ifaceTable, by rw [hnone]⟩
    · exact ⟨table, by rw [hquery]⟩
  · exact ⟨s.ifaceTable, rfl⟩

omit [DecidableEq ν] in
theorem Sound.onLinkDown (h : s.Sound) {r : Option Nat} {up : Nat → Bool}
    (hecm : ∀ x ∈ s.instances, x.kind = .wan .ecm → r = some x.ipaIfNum)
    (hup : ∀ j, up j = true → s.up j = true ∧ r ≠ some j) :
    Sound { s.react (·.onLinkDown r) r with up := up } := by
  have hwan : ∀ x ∈ s.instances, ∀ mode, x.kind = .wan mode → x.isActive = true := by
    intro x hx mode hkind
    cases hactive : x.isActive with
    | true => rfl
    | false => exact absurd hkind (h.kind x hx hactive mode)
  refine h.react ?_ ?_ ?_ hup
  · intro x hx hf
    rw [Instance.onLinkDown, if_pos (h.live x hx)] at hf
    split at hf
    · split at hf
      · next hdown => exact hdown
      · exact absurd rfl hf
    · next hkind =>
        split at hf
        · next hr => exact ⟨hwan x hx _ hkind, hr⟩
        · exact absurd rfl hf
    · next hkind => exact ⟨hwan x hx _ hkind, hecm x hx hkind⟩
    · exact absurd rfl hf
    · exact absurd rfl hf
  · intro x hx hf mode hkind
    rw [Instance.onLinkDown, if_pos (h.live x hx), hkind] at hf
    cases mode with
    | q6 =>
        simp only at hf
        split at hf <;> cases hf
    | wlan => cases hf
    | ecm => cases hf
  · intro x hx hf hkind
    rw [Instance.onLinkDown, if_pos (h.live x hx), hkind] at hf
    cases hf

omit [DecidableEq ν] in
theorem Sound.onWlanLinkDown (h : s.Sound) {r : Option Nat} {u : Nat → Bool}
    (hup : ∀ j, u j = true → s.up j = true ∧ r ≠ some j) :
    Sound { s.react (·.onWlanLinkDown r) r with up := u } := by
  have hwan : ∀ x ∈ s.instances, ∀ mode, x.kind = .wan mode → x.isActive = true := by
    intro x hx mode hkind
    cases hactive : x.isActive with
    | true => rfl
    | false => exact absurd hkind (h.kind x hx hactive mode)
  refine h.react ?_ ?_ ?_ hup
  · intro x hx hf
    rw [Instance.onWlanLinkDown, if_pos (h.live x hx)] at hf
    split at hf
    · split at hf
      · next hdown => exact hdown
      · exact absurd rfl hf
    · next hkind =>
        split at hf
        · next hr => exact ⟨hwan x hx _ hkind, hr⟩
        · exact absurd rfl hf
    · exact absurd rfl hf
    · exact absurd rfl hf
    · exact absurd rfl hf
  · intro x hx hf mode hkind
    rw [Instance.onWlanLinkDown, if_pos (h.live x hx), hkind] at hf
    cases mode with
    | q6 => cases hf
    | wlan =>
        simp only at hf
        split at hf <;> cases hf
    | ecm => cases hf
  · intro x hx hf hkind
    rw [Instance.onWlanLinkDown, if_pos (h.live x hx), hkind] at hf
    simp only at hf
    split at hf <;> cases hf

theorem mark_none {e : LinkEvent} (h : (s.query cfg e.ifIndex).1 = none) :
    s.mark cfg e = s.up := by
  rw [mark, h]

theorem mark_some {e : LinkEvent} (h : (s.query cfg e.ifIndex).1 = some i) :
    s.mark cfg e =
      Function.update s.up i (opens cfg (s.catOf i) e || !e.isDown && s.up i) := by
  rw [mark, h]

theorem mark_down {e : LinkEvent} (hdown : e.isDown = true) {j : Nat}
    (hj : s.mark cfg e j = true) :
    s.up j = true ∧ (s.query cfg e.ifIndex).1 ≠ some j := by
  cases hr : (s.query cfg e.ifIndex).1 with
  | none =>
      rw [mark_none hr] at hj
      exact ⟨hj, fun heq => by cases heq⟩
  | some i =>
      rw [mark_some hr] at hj
      rcases eq_or_ne j i with rfl | hne
      · rw [Function.update_self] at hj
        cases e with
        | linkDown ifIndex => cases hj
        | wlanLinkDown ifIndex => cases hj
        | linkUp ifIndex => cases hdown
        | usbLinkUp ifIndex => cases hdown
        | wlanApLinkUp ifIndex => cases hdown
        | wlanStaLinkUp ifIndex => cases hdown
      · rw [Function.update_of_ne hne] at hj
        exact ⟨hj, fun heq => hne (Option.some.inj heq).symm⟩

theorem createIfaceInstance_up (cfg : Config ν) (s : Sys ν) (ifIndex : Int) (mode : WanMode) :
    (s.createIfaceInstance cfg ifIndex mode).up = s.up := by
  rw [Sys.createIfaceInstance]
  rcases s.query_cases cfg ifIndex with hnone | ⟨i, table, hquery, -⟩
  · rw [hnone]
  · rw [hquery]
    simp only
    split
    · rfl
    · split <;> try rfl
      · rw [newWlan]
        split <;> rfl
      · split <;> rfl

theorem manage_up (cfg : Config ν) (s : Sys ν) (e : LinkEvent) :
    (s.manage cfg e).up = s.up := by
  have hindex : ∀ (ifIndex : Int) (f : Nat → Sys ν → Sys ν),
      (∀ i t, (f i t).up = t.up) → (withIndex (s.query cfg ifIndex) f).up = s.up := by
    intro ifIndex f hf
    rcases s.query_cases cfg ifIndex with hnone | ⟨i, table, hquery, -⟩
    · rw [hnone]
      rfl
    · rw [hquery]
      exact hf i _
  cases e with
  | linkUp ifIndex =>
      refine hindex ifIndex _ fun i t => ?_
      split
      · exact t.createIfaceInstance_up cfg ifIndex .q6
      · rfl
  | usbLinkUp ifIndex =>
      refine hindex ifIndex _ fun i t => ?_
      split
      · exact t.createIfaceInstance_up cfg ifIndex .ecm
      · exact t.createIfaceInstance_up cfg ifIndex .q6
  | wlanApLinkUp ifIndex =>
      refine hindex ifIndex _ fun i t => ?_
      split
      · exact (t.setCat i .wlanIf).createIfaceInstance_up cfg ifIndex .q6
      · rfl
  | wlanStaLinkUp ifIndex =>
      rw [Sys.manage]
      split
      · rfl
      · refine hindex ifIndex _ fun i t => ?_
        split
        · exact (t.setCat i .wanIf).createIfaceInstance_up cfg ifIndex .wlan
        · rfl
  | linkDown ifIndex => rfl
  | wlanLinkDown ifIndex => rfl

theorem Sound.comesUp (h : s.Sound) {e : LinkEvent} (hclear : ClearLink cfg s e)
    (hlisten : (s.manage cfg e).listen cfg e = s.manage cfg e) :
    (processLink cfg e s).Sound := by
  obtain ⟨hmanage, hopened⟩ := h.manage hclear
  rw [processLink, hlisten]
  refine ⟨hmanage.inside, hmanage.live, hmanage.distinct, hmanage.kind, hmanage.count,
    hmanage.posted, hmanage.own, ?_⟩
  intro j hj
  change s.mark cfg e j = true at hj
  have hold : s.up j = true → ∃ x ∈ (s.manage cfg e).instances,
      x.ipaIfNum = j ∧ x.isActive = true := fun huj =>
    hmanage.opened j ((congrFun (s.manage_up cfg e) j).trans huj)
  cases hr : (s.query cfg e.ifIndex).1 with
  | none =>
      rw [mark_none hr] at hj
      exact hold hj
  | some i =>
      rw [mark_some hr] at hj
      rcases eq_or_ne j i with rfl | hne
      · rw [Function.update_self, Bool.or_eq_true, Bool.and_eq_true] at hj
        rcases hj with hj | ⟨-, hj⟩
        · exact hopened j hr hj
        · exact hold hj
      · rw [Function.update_of_ne hne] at hj
        exact hold hj

theorem Sound.goesDown (h : s.Sound) (hclear : ClearLink cfg s (.linkDown ifIndex)) :
    (processLink cfg (.linkDown ifIndex) s).Sound := by
  obtain ⟨-, -, -, hecm⟩ := hclear
  rw [processLink, Sys.manage, listen]
  simp only
  obtain ⟨table, hquery⟩ := s.listenersQuery_cases cfg ifIndex fun x =>
    x.live && (x.kind = .lan && x.isActive || x.kind = .wan .q6)
  rw [hquery]
  exact (h.table table).onLinkDown (hecm rfl) fun j hj => mark_down rfl hj

theorem Sound.goesWlanDown (h : s.Sound) :
    (processLink cfg (.wlanLinkDown ifIndex) s).Sound := by
  rw [processLink, Sys.manage, listen]
  simp only
  obtain ⟨table, hquery⟩ := s.listenersQuery_cases cfg ifIndex fun x =>
    x.live && (x.kind = .wlan && x.isActive || x.kind = .wan .wlan)
  rw [hquery]
  have hreact := (h.table table).onWlanLinkDown (r := (s.query cfg ifIndex).1)
    (u := s.mark cfg (.wlanLinkDown ifIndex)) fun j hj => mark_down rfl hj
  simp only
  split
  · split
    · exact hreact.setCat _ _
    · exact hreact
  · exact hreact

theorem Sound.processLink (h : s.Sound) {e : LinkEvent} (hclear : ClearLink cfg s e) :
    (processLink cfg e s).Sound := by
  cases e with
  | linkUp ifIndex => exact h.comesUp hclear rfl
  | usbLinkUp ifIndex => exact h.comesUp hclear rfl
  | wlanApLinkUp ifIndex => exact h.comesUp hclear rfl
  | wlanStaLinkUp ifIndex => exact h.comesUp hclear rfl
  | linkDown ifIndex => exact h.goesDown hclear
  | wlanLinkDown ifIndex => exact h.goesWlanDown

theorem onLanDeleteSelf_of_ne {x : Instance} (hne : i ≠ x.ipaIfNum) :
    x.onLanDeleteSelf i = .keep := by
  simp only [Instance.onLanDeleteSelf, if_neg hne]
  split
  · split <;> rfl
  · rfl

theorem onLanDeleteSelf_self {x : Instance} (hlive : x.live = true)
    (hkind : ∀ mode, x.kind ≠ .wan mode) : x.onLanDeleteSelf x.ipaIfNum = .delete := by
  rw [Instance.onLanDeleteSelf, if_pos hlive]
  cases hk : x.kind with
  | lan => exact if_pos rfl
  | wlan => exact if_pos rfl
  | wan mode => exact absurd hk (hkind mode)

omit [DecidableEq ν] in
theorem react_delete {f : Instance → Reaction} {a b : List Instance} {x : Instance}
    (hab : s.instances = a ++ x :: b) (hkeep : ∀ y ∈ a ++ b, f y = .keep) (hx : f x = .delete)
    (hinactive : x.isActive = false) : s.react f none = { s with instances := a ++ b } := by
  have hafter : ∀ l : List Instance, (∀ y ∈ l, f y = .keep) →
      (l.filterMap fun y => y.after (f y)) = l := by
    intro l hl
    rw [List.filterMap_congr (g := some) fun y hy => by rw [hl y hy]; rfl]
    exact List.filterMap_some
  have hkept : (s.instances.filterMap fun y => y.after (f y)) = a ++ b := by
    rw [hab, List.filterMap_append, List.filterMap_cons_none (by rw [hx]; rfl),
      ← List.filterMap_append, hafter _ hkeep]
  have hclose : s.instances.filter (f · = .close) = [] := by
    rw [List.filter_eq_nil_iff, hab]
    intro y hy
    rcases List.mem_cons.mp (List.perm_middle.mem_iff.mp hy) with rfl | hy
    · simp [hx]
    · simp [hkeep y hy]
  have htorn : (s.instances.filter fun y => y.isActive ∧ f y ≠ .keep) = [] := by
    rw [List.filter_eq_nil_iff, hab]
    intro y hy
    rcases List.mem_cons.mp (List.perm_middle.mem_iff.mp hy) with rfl | hy
    · simp [hinactive]
    · simp [hkeep y hy]
  rw [Sys.react, hkept, hclose, htorn, List.map_nil, List.map_nil, List.append_nil,
    List.append_nil]

omit [DecidableEq ν] in
theorem Sound.lanDeleteSelf (h : s.Sound) {queue : List Event}
    (hqueue : s.queue = .lanDeleteSelf i :: queue) :
    (Sys.lanDeleteSelf i { s with queue := queue }).Sound := by
  have hposted : (i :: queue.filterMap Event.lanDeleteSelf?).Perm
      ((s.instances.filter fun x => !x.isActive).map Instance.ipaIfNum) := by
    have hposted := h.posted
    rw [hqueue] at hposted
    exact hposted
  obtain ⟨x, hx, rfl⟩ := List.mem_map.mp (hposted.mem_iff.mp List.mem_cons_self)
  obtain ⟨hx, hinactive⟩ := List.mem_filter.mp hx
  rw [Bool.not_eq_true'] at hinactive
  obtain ⟨a, b, hab⟩ := List.append_of_mem hx
  have hsub : (a ++ b).Sublist s.instances := by
    rw [hab]
    exact (List.sublist_cons_self x b).append_left a
  have hdistinct := h.distinct
  rw [hab, List.map_append, List.map_cons, List.nodup_middle, List.nodup_cons,
    ← List.map_append] at hdistinct
  -- the other instances are of other interfaces
  have hkeep : ∀ y ∈ a ++ b, y.onLanDeleteSelf x.ipaIfNum = .keep := by
    intro y hy
    refine onLanDeleteSelf_of_ne fun heq => hdistinct.1 ?_
    rw [heq]
    exact List.mem_map_of_mem hy
  have hdelete := onLanDeleteSelf_self (h.live x hx) (h.kind x hx hinactive)
  rw [show Sys.lanDeleteSelf x.ipaIfNum { s with queue := queue } = _ from
    react_delete hab hkeep hdelete hinactive]
  refine ⟨h.inside, fun y hy => h.live y (hsub.subset hy), hdistinct.2,
    fun y hy => h.kind y (hsub.subset hy), ?_, ?_, h.own, ?_⟩
  · change s.numWlanApIface - _ = _
    have hgone : (s.instances.filter fun y =>
        y.kind = .wlan ∧ y.onLanDeleteSelf x.ipaIfNum = .delete) =
        [x].filter fun y => y.kind = .wlan := by
      have hnone : ∀ l : List Instance, (∀ y ∈ l, y ∈ a ++ b) → (l.filter fun y =>
          y.kind = .wlan ∧ y.onLanDeleteSelf x.ipaIfNum = .delete) = [] := by
        intro l hl
        rw [List.filter_eq_nil_iff]
        intro y hy
        rw [hkeep y (hl y hy)]
        simp
      rw [hab, List.filter_append, List.filter_cons, hnone a fun y hy => List.mem_append_left _ hy,
        hnone b fun y hy => List.mem_append_right _ hy, hdelete]
      simp only [List.filter_cons, List.filter_nil, List.nil_append, and_true]
    rw [hgone, h.count, hab, List.filter_append, List.filter_cons, List.filter_append,
      List.filter_cons, List.filter_nil]
    split
    · simp only [List.length_append, List.length_cons, List.length_nil]
      omega
    · simp only [List.length_append, List.length_nil]
      omega
  · change (queue.filterMap _).Perm _
    rw [hab, List.filter_append, List.filter_cons_of_pos (by rw [hinactive]; rfl),
      List.map_append, List.map_cons] at hposted
    have hrest := (hposted.trans List.perm_middle).cons_inv
    rw [← List.map_append, ← List.filter_append] at hrest
    exact hrest
  · intro j hj
    obtain ⟨y, hy, hid, hactive⟩ := h.opened j hj
    rw [hab] at hy
    rcases List.mem_cons.mp (List.perm_middle.mem_iff.mp hy) with rfl | hy
    · rw [hinactive] at hactive
      cases hactive
    · exact ⟨y, hy, hid, hactive⟩

omit [DecidableEq ν] in
theorem Sound.queue (h : s.Sound) {queue : List Event}
    (hqueue : queue.filterMap Event.lanDeleteSelf? = s.queue.filterMap Event.lanDeleteSelf?) :
    Sound { s with queue := queue } := by
  refine ⟨h.inside, h.live, h.distinct, h.kind, h.count, ?_, h.own, h.opened⟩
  change (queue.filterMap _).Perm _
  rw [hqueue]
  exact h.posted

theorem Sound.step (h : s.Sound) {a : Act} (hstep : Guarded (Clear cfg) (Steps cfg) s a s') :
    s'.Sound := by
  obtain ⟨hclear, hstep⟩ := hstep
  cases a with
  | post e =>
      cases hstep
      refine h.queue ?_
      rw [List.filterMap_append]
      exact List.append_nil _
  | process =>
      rw [Steps, Sys.step] at hstep
      rw [Clear] at hclear
      cases hqueue : s.queue with
      | nil =>
          rw [hqueue] at hstep
          cases hstep
      | cons event queue =>
          rw [hqueue] at hstep hclear
          cases event with
          | link e =>
              cases hstep
              have hrest : Sound { s with queue := queue } := h.queue (by rw [hqueue]; rfl)
              exact hrest.processLink hclear
          | lanDeleteSelf i =>
              cases hstep
              exact h.lanDeleteSelf hqueue

/-- The instances follow the links in every run of clear events. -/
theorem run_followsLinks {table : List (ν × IfaceType)} {acts : List Act}
    (hrun : Run (Guarded (Clear cfg) (Steps cfg)) (init table) acts s) : s.FollowsLinks :=
  (hrun.invariant (I := Sound) (.init table) fun _ _ _ h hstep => h.step hstep).followsLinks

/-- Two interfaces, with the linux indices 10 and 11. -/
def twoIfaces : Config Nat where
  ipacmOduEnable := false
  ipacmOduRouterMode := false
  android := false
  ifrName := fun i => if i = 10 then some 0 else if i = 11 then some 1 else none

/-- An access point comes up, a LAN interface goes down and up again. -/
def upAndDown : List Act :=
  [.post (.usbLinkUp 11), .process, .post (.wlanApLinkUp 10), .process, .post (.linkDown 11),
    .process, .process, .post (.usbLinkUp 11), .process]

theorem run_followsLinks_upAndDown :
    ∃ s, Run (Guarded (Clear twoIfaces) (Steps twoIfaces))
        (init [(0, .unknownIf), (1, .lanIf)]) upAndDown s ∧
      s.instances = [⟨0, .wlan, true, true⟩, ⟨1, .lan, true, true⟩] ∧ s.FollowsLinks := by
  let run : Option (Sys Nat) := upAndDown.foldlM
    (fun s a => if Clear twoIfaces s a then s.step twoIfaces a else none)
    (init [(0, .unknownIf), (1, .lanIf)])
  have hopen : run.map Sys.instances =
      some [⟨0, .wlan, true, true⟩, ⟨1, .lan, true, true⟩] := by
    decide
  obtain ⟨s, hs, hopen⟩ := Option.map_eq_some_iff.mp hopen
  have hrun := Run.of_guarded_foldlM (fun _ _ _ h => h) hs
  exact ⟨s, hrun, hopen, run_followsLinks hrun⟩

/-- An access point goes down and comes up while the events wait. -/
theorem run_quick_lost :
    ∃ s, Run (Steps twoIfaces) (init [(0, .unknownIf)])
        [.post (.wlanApLinkUp 10), .process, .post (.wlanLinkDown 10), .post (.wlanApLinkUp 10),
          .process, .process, .process] s ∧ ¬ s.FollowsLinks := by
  let run : Option (Sys Nat) :=
    [.post (.wlanApLinkUp 10), .process, .post (.wlanLinkDown 10), .post (.wlanApLinkUp 10),
      .process, .process, .process].foldlM (Sys.step twoIfaces) (init [(0, .unknownIf)])
  have hlost : run.map (fun s => (s.queue, s.up 0, s.instances)) = some ([], true, []) := by
    decide
  obtain ⟨s, hs, hlost⟩ := Option.map_eq_some_iff.mp hlost
  simp only [Prod.mk.injEq] at hlost
  obtain ⟨hqueue, hup, hnone⟩ := hlost
  refine ⟨s, Run.of_foldlM (fun _ _ _ h => h) hs, fun h => ?_⟩
  obtain ⟨x, hx, -⟩ := h.opened hqueue 0 hup
  rw [hnone] at hx
  cases hx

end Sys

end LibraDevice.Ifaces
