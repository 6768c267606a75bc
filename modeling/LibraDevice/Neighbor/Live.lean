import LibraDevice.Lib.StepRun
import LibraDevice.Neighbor.Cache

/-!
Which addresses are announced from the cache. Deleting an address writes it to
the cache as adding one does, and an entry takes the interface index of an event
that is then abandoned.
-/

namespace LibraDevice.Neighbor

open LibraDevice.StepRun
open LanToLan (MacAddr)

/-- The IPv4 address an event announces or deletes for the client. -/
def Event.v4Of (mac : MacAddr) : Event → Option (AddrEvent × BitVec 32)
  | .clientAddEx .. => none
  | .newNeigh data =>
      if data.iptype = .v4 ∧ data.ipv4Addr ≠ 0 ∧ data.macAddr = mac then
        some (.add, data.ipv4Addr)
      else none
  | .delNeigh data =>
      if data.iptype = .v4 ∧ data.ipv4Addr ≠ 0 ∧ data.macAddr = mac then
        some (.del, data.ipv4Addr)
      else none

/-- The last IPv4 address that was announced or deleted for the client. -/
def lastV4 (mac : MacAddr) (history : List Event) : Option (AddrEvent × BitVec 32) :=
  history.foldl (fun last ev => (ev.v4Of mac).or last) none

/-- The IPv4 address most recently announced for the client and not deleted
since. -/
def live (mac : MacAddr) (history : List Event) : Option (BitVec 32) :=
  history.foldl
    (fun live ev =>
      match ev.v4Of mac with
      | some (.add, addr) => some addr
      | some (.del, addr) => if live = some addr then none else live
      | none => live)
    none

theorem lastV4_snoc (mac : MacAddr) (history : List Event) (ev : Event) :
    lastV4 mac (history ++ [ev]) = (ev.v4Of mac).or (lastV4 mac history) := by
  rw [lastV4, List.foldl_append]
  rfl

theorem live_of_lastV4 {mac : MacAddr} {history : List Event} {addr : BitVec 32}
    (h : lastV4 mac history = some (.add, addr)) : live mac history = some addr := by
  induction history using List.reverseRecOn with
  | nil => cases h
  | append_singleton history ev ih =>
      rw [lastV4_snoc] at h
      rw [live, List.foldl_append, ← live]
      simp only [List.foldl_cons, List.foldl_nil]
      cases hev : ev.v4Of mac with
      | none =>
          rw [hev, Option.none_or] at h
          exact ih h
      | some p =>
          rw [hev, Option.some_or, Option.some.injEq] at h
          rw [h]

def Event.isDel : Event → Bool
  | .delNeigh _ => true
  | _ => false

/-- The client and the interface index of an event without an address. -/
def Event.addressless : Event → Option (MacAddr × Int)
  | .clientAddEx ifIndex attribs uninit => some (clientMacAddr attribs uninit, ifIndex)
  | .newNeigh data | .delNeigh data =>
      if data.iptype = .v6 ∧ data.ipv6Addr = Vector.replicate 4 0 then
        some (data.macAddr, data.ifIndex)
      else none

theorem Event.v4Of_of_addressless {ev : Event} {p : MacAddr × Int} (h : ev.addressless = some p)
    (mac : MacAddr) : ev.v4Of mac = none := by
  cases ev with
  | clientAddEx ifIndex attribs uninit => rfl
  | newNeigh data | delNeigh data =>
      simp only [addressless, Option.ite_none_right_eq_some] at h
      exact if_neg fun hv4 => by rw [h.1.1] at hv4; cases hv4.1

/-- The cache, the events it has handled, and each post with the events up to
the one it was posted for. -/
structure Sys where
  cache : List Client
  history : List Event
  posted : List (List Event × Post)

namespace Sys

def init : Sys := ⟨[], [], []⟩

def step (ifs : Ifaces) (s : Sys) (ev : Event) : Sys where
  cache := (eventCallback ifs s.cache ev).1
  history := s.history ++ [ev]
  posted := s.posted ++
    (eventCallback ifs s.cache ev).2.map fun p => (s.history ++ [ev], p)

def Steps (ifs : Ifaces) (s : Sys) (ev : Event) (s' : Sys) : Prop :=
  s' = s.step ifs ev

/-- One entry for each client, at an interface of its number; no address event
is posted for a deletion, and an IPv4 address that is posted is live. -/
structure OnlyLive (ifs : Ifaces) (s : Sys) : Prop where
  distinct : (s.cache.map Client.macAddr).Nodup
  indexed : ∀ c ∈ s.cache, ifs.ifaceIpaIndexQuery c.ifaceIndex = c.ipaIfNum
  handled : ∀ h p, (h, p) ∈ s.posted → p.event = .add →
    ∃ ev, h.getLast? = some ev ∧ ev.isDel = false
  live : ∀ h p, (h, p) ∈ s.posted → p.event = .add → p.iptype = .v4 →
    live p.macAddr h = some p.ipv4Addr

/-- An event without an address finds its client at the interface it is cached
for; if it has an IPv4 address, the event is no deletion, and the last one was
not either. -/
def Clean (ifs : Ifaces) (s : Sys) (ev : Event) : Prop :=
  ∀ p ∈ ev.addressless, ∀ c ∈ lookup p.1 s.cache,
    ifs.isBridge (ifs.ifaceIpaIndexQuery p.2) = false →
      ifs.ifaceIpaIndexQuery p.2 = c.ipaIfNum ∧
        (c.v4Addr ≠ 0 → ev.isDel = false ∧ (lastV4 p.1 s.history).map Prod.fst = some .add)

instance instDecidableClean (ifs : Ifaces) (s : Sys) (ev : Event) : Decidable (s.Clean ifs ev) :=
  inferInstanceAs (Decidable (∀ p ∈ ev.addressless, ∀ c ∈ lookup p.1 s.cache, _ → _ ∧ (_ → _)))

/-- A cached address is the last one that was announced or deleted. -/
structure Kept (ifs : Ifaces) (s : Sys) : Prop extends OnlyLive ifs s where
  last : ∀ c ∈ s.cache, c.v4Addr ≠ 0 → ∃ e, lastV4 c.macAddr s.history = some (e, c.v4Addr)

/-- What handling an event may leave. -/
structure Leaves (ifs : Ifaces) (history : List Event) (r : List Client × List Post) (ev : Event) :
    Prop where
  distinct : (r.1.map Client.macAddr).Nodup
  indexed : ∀ c ∈ r.1, ifs.ifaceIpaIndexQuery c.ifaceIndex = c.ipaIfNum
  last : ∀ c ∈ r.1, c.v4Addr ≠ 0 →
    ∃ e, lastV4 c.macAddr (history ++ [ev]) = some (e, c.v4Addr)
  posted : ∀ p ∈ r.2, p.event = .add → ev.isDel = false ∧
    (p.iptype = .v4 → lastV4 p.macAddr (history ++ [ev]) = some (.add, p.ipv4Addr))

variable {ifs : Ifaces} {s : Sys} {ev : Event}

theorem Kept.leaves_same (h : s.Kept ifs) (hv4 : ∀ c ∈ s.cache, ev.v4Of c.macAddr = none)
    {posts : List Post}
    (hposts : ∀ p ∈ posts, p.event = .add → ev.isDel = false ∧
      (p.iptype = .v4 → lastV4 p.macAddr (s.history ++ [ev]) = some (.add, p.ipv4Addr))) :
    Leaves ifs s.history (s.cache, posts) ev where
  distinct := h.distinct
  indexed := h.indexed
  last := by
    intro c hc hne
    obtain ⟨e, he⟩ := h.last c hc hne
    exact ⟨e, by rw [lastV4_snoc, hv4 c hc, Option.none_or, he]⟩
  posted := hposts

theorem Kept.reconnect (h : s.Kept ifs) {mac : MacAddr} {ifIndex : Int} {c : Client}
    (hev : ev.addressless = some (mac, ifIndex)) (hc : lookup mac s.cache = some c)
    (hclean : s.Clean ifs ev) :
    Leaves ifs s.history (Neighbor.reconnect ifs ifIndex c s.cache) ev := by
  have hv4 := Event.v4Of_of_addressless hev
  obtain rfl := lookup_mac hc
  have hcl := hclean (c.macAddr, ifIndex) hev c hc
  simp only [Neighbor.reconnect]
  split
  · exact h.leaves_same (fun c _ => hv4 _) (fun p hp => by cases hp)
  · next hbridge =>
      obtain ⟨hindex, hlive⟩ := hcl (Bool.not_eq_true _ ▸ hbridge)
      rw [if_neg (not_not.mpr hindex)]
      have hwrite : ∀ posts, (∀ p ∈ posts, p.event = .add → ev.isDel = false ∧
          (p.iptype = .v4 → lastV4 p.macAddr (s.history ++ [ev]) = some (.add, p.ipv4Addr))) →
          Leaves ifs s.history
            (write c.macAddr (fun c => { c with ifaceIndex := ifIndex }) s.cache, posts)
            ev := by
        intro posts hposts
        refine ⟨?_, ?_, ?_, hposts⟩
        · exact write_nodup h.distinct fun _ hmac => hmac
        · intro d hd
          rcases mem_write h.distinct hd with ⟨c', hc', rfl⟩ | ⟨hd, -⟩
          · cases hc.symm.trans hc'
            exact hindex
          · exact h.indexed d hd
        · intro d hd hne
          rw [lastV4_snoc, hv4, Option.none_or]
          rcases mem_write h.distinct hd with ⟨c', hc', rfl⟩ | ⟨hd, -⟩
          · exact h.last c' (lookup_mem hc') hne
          · exact h.last d hd hne
      split
      · next hne =>
          apply hwrite
          intro p hp _
          obtain rfl := List.mem_singleton.mp hp
          obtain ⟨hdel, hadd⟩ := hlive hne
          obtain ⟨e, he⟩ := h.last c (lookup_mem hc) hne
          refine ⟨hdel, fun _ => ?_⟩
          rw [he] at hadd
          cases hadd
          rw [lastV4_snoc, hv4, Option.none_or, he]
      · exact hwrite [] fun p hp => by cases hp

theorem Kept.leaves_v4 (h : s.Kept ifs) {e : AddrEvent} {data : EventDataAll}
    (hv4 : ∀ mac, ev.v4Of mac =
      if data.macAddr = mac then some (e, data.ipv4Addr) else none)
    (hdel : e = .add → ev.isDel = false) {cache : List Client}
    (hd : (cache.map Client.macAddr).Nodup)
    (hcache : ∀ c ∈ cache, (c ∈ s.cache ∧ c.macAddr ≠ data.macAddr) ∨
      (c.macAddr = data.macAddr ∧ c.v4Addr = data.ipv4Addr ∧
        ifs.ifaceIpaIndexQuery c.ifaceIndex = c.ipaIfNum))
    {posts : List Post}
    (hposts : ∀ p ∈ posts, p.event = e ∧ p.macAddr = data.macAddr ∧
      p.ipv4Addr = data.ipv4Addr) :
    Leaves ifs s.history (cache, posts) ev where
  distinct := hd
  indexed := by
    intro c hc
    rcases hcache c hc with ⟨hc, -⟩ | ⟨-, -, hindex⟩
    · exact h.indexed c hc
    · exact hindex
  last := by
    intro c hc hne
    rcases hcache c hc with ⟨hc, hmac⟩ | ⟨hmac, haddr, -⟩
    · obtain ⟨e', he'⟩ := h.last c hc hne
      exact ⟨e', by rw [lastV4_snoc, hv4, if_neg (Ne.symm hmac), Option.none_or, he']⟩
    · exact ⟨e, by rw [lastV4_snoc, hv4, if_pos hmac.symm, Option.some_or, haddr]⟩
  posted := by
    intro p hp hadd
    obtain ⟨he, hmac, haddr⟩ := hposts p hp
    have headd : e = .add := he.symm.trans hadd
    refine ⟨hdel headd, fun _ => ?_⟩
    rw [lastV4_snoc, hv4, if_pos hmac.symm, Option.some_or, haddr, headd]

section

variable {e : AddrEvent} {data : EventDataAll}

/-- The event is one of a neighbour, new or gone. -/
def NeighEvent (e : AddrEvent) (data : EventDataAll) (ev : Event) : Prop :=
  (e = .add ∧ ev = .newNeigh data) ∨ (e = .del ∧ ev = .delNeigh data)

theorem NeighEvent.isDel (hev : NeighEvent e data ev) (he : e = .add) : ev.isDel = false := by
  rcases hev with ⟨-, rfl⟩ | ⟨rfl, -⟩
  · rfl
  · cases he

theorem NeighEvent.v4Of (hev : NeighEvent e data ev) (mac : MacAddr) :
    ev.v4Of mac =
      if data.iptype = .v4 ∧ data.ipv4Addr ≠ 0 ∧ data.macAddr = mac then some (e, data.ipv4Addr)
      else none := by
  rcases hev with ⟨rfl, rfl⟩ | ⟨rfl, rfl⟩ <;> rfl

theorem NeighEvent.addressless (hev : NeighEvent e data ev) :
    ev.addressless =
      if data.iptype = .v6 ∧ data.ipv6Addr = Vector.replicate 4 0 then
        some (data.macAddr, data.ifIndex)
      else none := by
  rcases hev with ⟨rfl, rfl⟩ | ⟨rfl, rfl⟩ <;> rfl

theorem Kept.neighV4 (h : s.Kept ifs) (hev : NeighEvent e data ev) (htype : data.iptype = .v4) :
    Leaves ifs s.history (Neighbor.neigh ifs e data s.cache) ev := by
  simp only [Neighbor.neigh, htype]
  split
  · next hzero =>
      refine h.leaves_same (fun c _ => ?_) (fun p hp => by cases hp)
      rw [hev.v4Of, if_neg fun hv => hv.2.1 hzero]
  · next hzero =>
      have hv4' : ∀ mac, ev.v4Of mac =
          if data.macAddr = mac then some (e, data.ipv4Addr) else none := by
        intro mac
        rw [hev.v4Of]
        simp only [htype, hzero, ne_eq, not_false_eq_true, true_and]
      split
      · cases hlookup : lookup data.macAddr s.cache with
        | some c =>
            refine h.leaves_v4 hv4' hev.isDel ?_ ?_ ?_
            · exact write_nodup h.distinct fun _ hmac => hmac
            · intro d hd
              rcases mem_write h.distinct hd with ⟨c', hc', rfl⟩ | hd
              · have hmac := lookup_mac hc'
                exact Or.inr ⟨hmac, rfl, h.indexed c' (lookup_mem hc')⟩
              · exact Or.inl hd
            · intro p hp
              obtain rfl := List.mem_singleton.mp hp
              exact ⟨rfl, rfl, rfl⟩
        | none =>
            refine h.leaves_same (fun c hc => ?_) (fun p hp => by cases hp)
            rw [hv4', if_neg]
            intro hmac
            exact lookup_eq_none hlookup (hmac ▸ List.mem_map_of_mem hc)
      · have hposts : ∀ p ∈ [postOf e data], p.event = e ∧ p.macAddr = data.macAddr ∧
            p.ipv4Addr = data.ipv4Addr := by
          intro p hp
          obtain rfl := List.mem_singleton.mp hp
          exact ⟨rfl, rfl, rfl⟩
        cases hlookup : lookup data.macAddr s.cache with
        | some c =>
            refine h.leaves_v4 hv4' hev.isDel ?_ ?_ hposts
            · exact write_nodup h.distinct fun _ _ => rfl
            · intro d hd
              rcases mem_write h.distinct hd with ⟨c', -, rfl⟩ | hd
              · exact Or.inr ⟨rfl, rfl, rfl⟩
              · exact Or.inl hd
        | none =>
            have hnew := lookup_eq_none hlookup
            refine h.leaves_v4 hv4' hev.isDel (append_nodup h.distinct hnew) ?_ hposts
            intro d hd
            rcases mem_append hd with hd | rfl
            · exact Or.inl ⟨hd, fun hmac => hnew (hmac ▸ List.mem_map_of_mem hd)⟩
            · exact Or.inr ⟨rfl, rfl, rfl⟩

theorem Kept.neighV6 (h : s.Kept ifs) (hev : NeighEvent e data ev) (htype : data.iptype = .v6)
    (hclean : s.Clean ifs ev) :
    Leaves ifs s.history (Neighbor.neigh ifs e data s.cache) ev := by
  have hnone : ∀ mac, ev.v4Of mac = none := by
    intro mac
    rw [hev.v4Of, htype]
    exact if_neg fun hv => by cases hv.1
  have hpost : ∀ d : EventDataAll, d.iptype = .v6 → ∀ p ∈ [postOf e d], p.event = .add →
      ev.isDel = false ∧ (p.iptype = .v4 →
        lastV4 p.macAddr (s.history ++ [ev]) = some (.add, p.ipv4Addr)) := by
    intro d hd p hp hadd
    obtain rfl := List.mem_singleton.mp hp
    exact ⟨hev.isDel hadd, fun hv => absurd (hd.symm.trans hv) (by decide)⟩
  simp only [Neighbor.neigh, htype]
  split
  · split
    · cases hlookup : lookup data.macAddr s.cache with
      | some c => exact h.leaves_same (fun c _ => hnone _) (hpost _ rfl)
      | none => exact h.leaves_same (fun c _ => hnone _) (fun p hp => by cases hp)
    · exact h.leaves_same (fun c _ => hnone _) (hpost _ htype)
  · next hzero =>
      have hless' : ev.addressless = some (data.macAddr, data.ifIndex) := by
        rw [hev.addressless, if_pos ⟨htype, not_not.mp hzero⟩]
      cases hlookup : lookup data.macAddr s.cache with
      | some c => exact h.reconnect hless' hlookup hclean
      | none =>
          have hnew := lookup_eq_none hlookup
          simp only
          split
          · exact h.leaves_same (fun c _ => hnone _) (fun p hp => by cases hp)
          · refine ⟨append_nodup h.distinct hnew, ?_, ?_, fun p hp => by cases hp⟩
            · intro d hd
              rcases mem_append hd with hd | rfl
              · exact h.indexed d hd
              · rfl
            · intro d hd hne
              rw [lastV4_snoc, hnone, Option.none_or]
              rcases mem_append hd with hd | rfl
              · exact h.last d hd hne
              · exact absurd rfl hne

end

theorem Kept.neigh (h : s.Kept ifs) {e : AddrEvent} {data : EventDataAll}
    (hev : NeighEvent e data ev) (hclean : s.Clean ifs ev) :
    Leaves ifs s.history (Neighbor.neigh ifs e data s.cache) ev := by
  cases htype : data.iptype with
  | v4 => exact h.neighV4 hev htype
  | v6 => exact h.neighV6 hev htype hclean

theorem Kept.handle (h : s.Kept ifs) (hclean : s.Clean ifs ev) :
    Leaves ifs s.history (eventCallback ifs s.cache ev) ev := by
  cases ev with
  | clientAddEx ifIndex attribs uninit =>
      simp only [eventCallback, clientAdd]
      cases hlookup : lookup (clientMacAddr attribs uninit) s.cache with
      | some c => exact h.reconnect rfl hlookup hclean
      | none => exact h.leaves_same (fun c _ => rfl) (fun p hp => by cases hp)
  | newNeigh data => exact h.neigh (Or.inl ⟨rfl, rfl⟩) hclean
  | delNeigh data => exact h.neigh (Or.inr ⟨rfl, rfl⟩) hclean

theorem Kept.step (h : s.Kept ifs) (hclean : s.Clean ifs ev) : (s.step ifs ev).Kept ifs := by
  have hl := h.handle hclean
  have hold : ∀ hist p, (hist, p) ∈ (s.step ifs ev).posted → (hist, p) ∈ s.posted ∨
      (hist = s.history ++ [ev] ∧ p ∈ (eventCallback ifs s.cache ev).2) := by
    intro hist p hp
    rcases List.mem_append.mp hp with hp | hp
    · exact Or.inl hp
    · obtain ⟨p', hp', heq⟩ := List.mem_map.mp hp
      cases heq
      exact Or.inr ⟨rfl, hp'⟩
  refine ⟨⟨hl.distinct, hl.indexed, ?_, ?_⟩, hl.last⟩
  · intro hist p hp hadd
    rcases hold hist p hp with hp' | ⟨rfl, hp'⟩
    · exact h.handled hist p hp' hadd
    · exact ⟨ev, List.getLast?_concat .., (hl.posted p hp' hadd).1⟩
  · intro hist p hp hadd hv4
    rcases hold hist p hp with hp' | ⟨rfl, hp'⟩
    · exact h.live hist p hp' hadd hv4
    · exact live_of_lastV4 ((hl.posted p hp' hadd).2 hv4)

theorem Kept.init (ifs : Ifaces) : Sys.init.Kept ifs where
  distinct := List.nodup_nil
  indexed := fun _ hc => by cases hc
  handled := fun _ _ hp => by cases hp
  live := fun _ _ hp => by cases hp
  last := fun _ hc => by cases hc

/-- In a run of clean events only live addresses are announced. -/
theorem run_onlyLive {events : List Event}
    (h : Run (Guarded (Clean ifs) (Steps ifs)) Sys.init events s) : s.OnlyLive ifs := by
  have hkept : s.Kept ifs := by
    refine h.invariant (Kept.init ifs) ?_
    rintro s ev s' hs ⟨hclean, rfl⟩
    exact hs.step hclean
  exact hkept.toOnlyLive

/-- A bridge and two interfaces. -/
def bridged : Ifaces where
  ifaceIpaIndexQuery := Int.toNat
  ifaceName := fun i => if i = 0 then "bridge0" else if i = 1 then "wlan0" else "wlan1"
  ipaVirtualIfaceName := "bridge0"

def mac (n : UInt8) : MacAddr := Vector.replicate 6 n

/-- The data of an event of the client with MAC address 1. -/
def dataOf (ifIndex : Int) (ipv4Addr : BitVec 32) : EventDataAll where
  iptype := if ipv4Addr = 0 then .v6 else .v4
  ifIndex := ifIndex
  ipv4Addr := ipv4Addr
  ipv6Addr := Vector.replicate 4 0
  macAddr := mac 1

/-- A client gets an address, loses it, gets another one and connects again. -/
theorem run_onlyLive_reconnected :
    ∃ s, Run (Guarded (Clean bridged) (Steps bridged)) Sys.init
        [.newNeigh (dataOf 1 10), .delNeigh (dataOf 0 10), .newNeigh (dataOf 0 11),
          .clientAddEx 1 [.other, .macAddr (mac 1)] (mac 0)] s ∧
      s.posted.length = 4 ∧ s.OnlyLive bridged := by
  let run : Option Sys :=
    [.newNeigh (dataOf 1 10), .delNeigh (dataOf 0 10), .newNeigh (dataOf 0 11),
      .clientAddEx 1 [.other, .macAddr (mac 1)] (mac 0)].foldlM
        (fun s ev => if s.Clean bridged ev then some (s.step bridged ev) else none) Sys.init
  have hposted : run.map (·.posted.length) = some 4 := by decide
  obtain ⟨s, hs, hlength⟩ := Option.map_eq_some_iff.mp hposted
  have hrun := Run.of_guarded_foldlM (fun _ _ _ h => (Option.some.inj h).symm) hs
  exact ⟨s, hrun, hlength, run_onlyLive hrun⟩

/-- The address of a client is deleted and announced when it connects again. -/
theorem run_deleted_announced :
    ∃ s, Run (Steps bridged) Sys.init
        [.newNeigh (dataOf 1 10), .delNeigh (dataOf 1 10),
          .clientAddEx 1 [.macAddr (mac 1)] (mac 0)] s ∧
      ¬ s.OnlyLive bridged := by
  let run : Option Sys :=
    [.newNeigh (dataOf 1 10), .delNeigh (dataOf 1 10),
      .clientAddEx 1 [.macAddr (mac 1)] (mac 0)].foldlM
        (fun s ev => some (s.step bridged ev)) Sys.init
  let post : Post := ⟨.add, .v4, 1, 10, none, mac 1⟩
  have hposted : run.map (·.posted.getLast?) = some (some
      ([.newNeigh (dataOf 1 10), .delNeigh (dataOf 1 10),
        .clientAddEx 1 [.macAddr (mac 1)] (mac 0)], post)) := by
    decide
  obtain ⟨s, hs, hlast⟩ := Option.map_eq_some_iff.mp hposted
  refine ⟨s, Run.of_foldlM (fun _ _ _ h => (Option.some.inj h).symm) hs, fun h => ?_⟩
  have hlive := h.live _ post (List.mem_of_getLast? hlast) rfl rfl
  revert hlive
  decide

end Sys

end LibraDevice.Neighbor
