import LibraDevice.IpaNat.Driver
import LibraDevice.Lib.OnesComplement

/-!
The checksum differences of a rule, as one's-complement numbers.
-/

namespace LibraDevice.IpaNat

open OnesComplement (add sum)

/-- The values that `cksum` goes through: each word is added and the carry folded in. -/
def runningSums (cksum : UInt32) : List UInt32 → List UInt32
  | [] => [cksum]
  | w :: words => cksum :: runningSums (foldCarry (cksum + w)) words

/-- The values of `cksum` in `ipa_nati_calc_ip_cksum`. -/
def ipCksumSums (pubIpAddr privIpAddr : UInt32) : List UInt32 :=
  runningSums (pubIpAddr &&& (0xFFFF : UInt32))
    [pubIpAddr >>> 16, ~~~privIpAddr &&& (0xFFFF : UInt32), ~~~privIpAddr >>> 16]

/-- The values of `cksum` in `ipa_nati_calc_tcp_udp_cksum`. -/
def tcpUdpCksumSums (pubIpAddr : UInt32) (pubPort : UInt16) (privIpAddr : UInt32)
    (privPort : UInt16) : List UInt32 :=
  runningSums (pubIpAddr &&& (0xFFFF : UInt32))
    [pubIpAddr >>> 16, pubPort.toUInt32, ~~~privIpAddr &&& (0xFFFF : UInt32),
      ~~~privIpAddr >>> 16, (~~~privPort).toUInt32]

theorem calcIpCksum_eq (pubIpAddr privIpAddr : UInt32) :
    calcIpCksum pubIpAddr privIpAddr =
      ((ipCksumSums pubIpAddr privIpAddr).getLastD 0).toUInt16 := rfl

theorem calcTcpUdpCksum_eq (pubIpAddr : UInt32) (pubPort : UInt16) (privIpAddr : UInt32)
    (privPort : UInt16) :
    calcTcpUdpCksum pubIpAddr pubPort privIpAddr privPort =
      ((tcpUdpCksumSums pubIpAddr pubPort privIpAddr privPort).getLastD 0).toUInt16 := rfl

def hi16 (addr : UInt32) : UInt16 := (addr >>> 16).toUInt16

def lo16 (addr : UInt32) : UInt16 := addr.toUInt16

theorem toNat_hi16 (addr : UInt32) : (hi16 addr).toNat = addr.toNat / 65536 := by
  have hlt := addr.toNat_lt
  rw [hi16, UInt32.toNat_toUInt16, UInt32.toNat_shiftRight]
  change addr.toNat >>> 16 % 65536 = _
  rw [Nat.shiftRight_eq_div_pow]
  exact Nat.mod_eq_of_lt (by omega)

theorem toNat_lo16 (addr : UInt32) : (lo16 addr).toNat = addr.toNat % 65536 :=
  UInt32.toNat_toUInt16 addr

theorem toNat_shiftRight_16 (addr : UInt32) : (addr >>> 16).toNat = addr.toNat / 65536 := by
  rw [UInt32.toNat_shiftRight]
  change addr.toNat >>> 16 = _
  exact Nat.shiftRight_eq_div_pow _ _

theorem toNat_and_16 (addr : UInt32) :
    (addr &&& (0xFFFF : UInt32)).toNat = addr.toNat % 65536 := by
  rw [UInt32.toNat_and]
  exact Nat.and_two_pow_sub_one_eq_mod addr.toNat 16

theorem toNat_foldCarry {x y : UInt32} (hx : x.toNat < 65536) (hy : y.toNat < 65536) :
    (foldCarry (x + y)).toNat = add 65536 x.toNat y.toNat := by
  have hsum : (x + y).toNat = x.toNat + y.toNat := by
    rw [UInt32.toNat_add]
    exact Nat.mod_eq_of_lt (by omega)
  have hhigh := toNat_shiftRight_16 (x + y)
  rw [hsum] at hhigh
  rw [foldCarry, add]
  by_cases hcarry : x.toNat + y.toNat < 65536
  · have hzero : (x + y) >>> 16 = 0 := by
      apply UInt32.toNat_inj.mp
      rw [hhigh]
      change _ = 0
      omega
    rw [if_pos hzero, if_pos hcarry, hsum]
  · have hone : (x + y) >>> 16 ≠ 0 := by
      intro hzero
      rw [hzero] at hhigh
      change 0 = _ at hhigh
      omega
    rw [if_neg hone, if_neg hcarry, UInt32.toNat_add, toNat_and_16, hsum]
    change ((x.toNat + y.toNat) % 65536 + 1) % 4294967296 = _
    omega

theorem runningSums_spec {words : List UInt32} (hwords : ∀ w ∈ words, w.toNat < 65536)
    {cksum : UInt32} (hcksum : cksum.toNat < 65536) :
    (∀ c ∈ runningSums cksum words, c.toNat < 65536) ∧
      ((runningSums cksum words).getLastD 0).toNat =
        (words.map UInt32.toNat).foldl (add 65536) cksum.toNat := by
  induction words generalizing cksum with
  | nil =>
      refine ⟨?_, rfl⟩
      rw [runningSums, List.forall_mem_singleton]
      exact hcksum
  | cons w words ih =>
      rw [List.forall_mem_cons] at hwords
      have hfold := toNat_foldCarry hcksum hwords.1
      have hlt : (foldCarry (cksum + w)).toNat < 65536 := by
        rw [hfold]
        exact OnesComplement.add_lt hcksum hwords.1
      obtain ⟨hall, hlast⟩ := ih hwords.2 hlt
      refine ⟨?_, ?_⟩
      · rw [runningSums, List.forall_mem_cons]
        exact ⟨hcksum, hall⟩
      · rw [List.map_cons, List.foldl_cons, ← hfold, ← hlast, runningSums]
        cases words with
        | nil => rfl
        | cons w' words => rfl

theorem toNat_not_lo (addr : UInt32) :
    (~~~addr &&& (0xFFFF : UInt32)).toNat = 65535 - (lo16 addr).toNat := by
  have hlt := addr.toNat_lt
  rw [toNat_and_16, UInt32.toNat_not, toNat_lo16]
  change (4294967296 - 1 - addr.toNat) % 65536 = _
  omega

theorem toNat_not_hi (addr : UInt32) :
    (~~~addr >>> 16).toNat = 65535 - (hi16 addr).toNat := by
  have hlt := addr.toNat_lt
  rw [toNat_shiftRight_16, UInt32.toNat_not, toNat_hi16]
  change (4294967296 - 1 - addr.toNat) / 65536 = _
  omega

theorem toNat_port (port : UInt16) : port.toUInt32.toNat = port.toNat :=
  UInt16.toNat_toUInt32 port

theorem toNat_not_port (port : UInt16) : (~~~port).toUInt32.toNat = 65535 - port.toNat := by
  rw [toNat_port, UInt16.toNat_not]
  rfl

/-- The sum of the words of a header. -/
def onesSum (header : List UInt16) : Nat := sum 65536 (header.map UInt16.toNat)

/-- The words of a header that an address takes. -/
def addrWords (addr : UInt32) : List UInt16 := [hi16 addr, lo16 addr]

/-- Adding `delta` to the sum of a header that has the words `old` gives the sum of the header
with the words `new` in their place. -/
def Rewrites (delta : UInt16) (old new : List UInt16) : Prop :=
  ∀ rest before after : List UInt16, before.Perm (old ++ rest) → after.Perm (new ++ rest) →
    (add 65536 (onesSum before) delta.toNat : Int) ≡ onesSum after [ZMOD 65535]

/-- What a checksum function is for: the values it goes through have no carry left, and its
result is the difference between the words `new` and the words `old` of a header. -/
structure IsDelta (delta : UInt16) (sums : List UInt32) (old new : List UInt16) : Prop where
  folded : ∀ cksum ∈ sums, cksum.toNat < 65536
  last : (sums.getLastD 0).toNat = delta.toNat
  diff : (delta.toNat : Int) ≡
    (new.map fun w => (w.toNat : Int)).sum - (old.map fun w => (w.toNat : Int)).sum [ZMOD 65535]
  rewrites : Rewrites delta old new

theorem header_lt (header : List UInt16) : ∀ w ∈ header.map UInt16.toNat, w < 65536 := by
  rw [List.forall_mem_map]
  exact fun w _ => w.toNat_lt

theorem rewrites_of_diff {delta : UInt16} {old new : List UInt16}
    (hdiff : (delta.toNat : Int) ≡
      (new.map fun w => (w.toNat : Int)).sum - (old.map fun w => (w.toNat : Int)).sum
        [ZMOD 65535]) :
    Rewrites delta old new := by
  intro rest before after hbefore hafter
  have hb := hbefore.map UInt16.toNat
  have ha := hafter.map UInt16.toNat
  rw [List.map_append] at hb ha
  refine OnesComplement.sum_replace (b := 65536) (by decide) hb ha (header_lt before)
    (header_lt after) ?_
  rw [List.map_map, List.map_map]
  exact hdiff

theorem isDelta_of_words {cksum : UInt32} {words : List UInt32} {old new : List UInt16}
    (hcksum : cksum.toNat < 65536) (hwords : ∀ w ∈ words, w.toNat < 65536)
    (hdiff : (cksum.toNat : Int) + (words.map fun w => (w.toNat : Int)).sum ≡
      (new.map fun w => (w.toNat : Int)).sum - (old.map fun w => (w.toNat : Int)).sum
        [ZMOD 65535]) :
    IsDelta ((runningSums cksum words).getLastD 0).toUInt16 (runningSums cksum words) old new := by
  obtain ⟨hfolded, hlast⟩ := runningSums_spec hwords hcksum
  have hbound : ∀ w ∈ words.map UInt32.toNat, w < 65536 := by
    rw [List.forall_mem_map]
    exact hwords
  obtain ⟨hlt, hmod⟩ := OnesComplement.foldl_add (b := 65536) hbound hcksum
  rw [← hlast] at hlt hmod
  have hdelta : (((runningSums cksum words).getLastD 0).toUInt16).toNat =
      ((runningSums cksum words).getLastD 0).toNat := by
    rw [UInt32.toNat_toUInt16]
    exact Nat.mod_eq_of_lt hlt
  have hsum : ((((runningSums cksum words).getLastD 0).toUInt16).toNat : Int) ≡
      (new.map fun w => (w.toNat : Int)).sum - (old.map fun w => (w.toNat : Int)).sum
        [ZMOD 65535] := by
    rw [hdelta]
    refine hmod.trans ?_
    rw [List.map_map]
    exact hdiff
  exact ⟨hfolded, hdelta.symm, hsum, rewrites_of_diff hsum⟩

/-- The two functions of `ipa_nati_generate_tbl_rule` give one's-complement differences. -/
theorem cksums_are_deltas (pubIpAddr privIpAddr : UInt32) (pubPort privPort : UInt16) :
    IsDelta (calcIpCksum pubIpAddr privIpAddr) (ipCksumSums pubIpAddr privIpAddr)
        (addrWords privIpAddr) (addrWords pubIpAddr) ∧
      IsDelta (calcTcpUdpCksum pubIpAddr pubPort privIpAddr privPort)
        (tcpUdpCksumSums pubIpAddr pubPort privIpAddr privPort)
        (addrWords privIpAddr ++ [privPort]) (addrWords pubIpAddr ++ [pubPort]) := by
  have hpub := pubIpAddr.toNat_lt
  have hhi := (hi16 privIpAddr).toNat_lt
  have hlo := (lo16 privIpAddr).toNat_lt
  have hport := pubPort.toNat_lt
  have hport' := privPort.toNat_lt
  have hlow : (pubIpAddr &&& (0xFFFF : UInt32)).toNat < 65536 := by
    rw [toNat_and_16]
    omega
  have hhigh : (pubIpAddr >>> 16).toNat < 65536 := by
    rw [toNat_shiftRight_16]
    omega
  constructor
  · rw [calcIpCksum_eq]
    refine isDelta_of_words hlow ?_ ?_
    · simp only [List.forall_mem_cons, List.not_mem_nil, false_imp_iff, implies_true, and_true]
      rw [toNat_not_lo, toNat_not_hi]
      exact ⟨hhigh, by omega, by omega⟩
    · simp only [List.map_cons, List.map_nil, List.sum_cons, List.sum_nil, addrWords]
      rw [toNat_not_lo, toNat_not_hi, toNat_and_16, toNat_shiftRight_16, ← toNat_lo16,
        ← toNat_hi16, Int.modEq_iff_dvd]
      refine ⟨-2, ?_⟩
      omega
  · rw [calcTcpUdpCksum_eq]
    refine isDelta_of_words hlow ?_ ?_
    · simp only [List.forall_mem_cons, List.not_mem_nil, false_imp_iff, implies_true, and_true]
      rw [toNat_not_lo, toNat_not_hi, toNat_port, toNat_not_port]
      exact ⟨hhigh, by omega, by omega, by omega, by omega⟩
    · simp only [List.map_cons, List.map_nil, List.map_append, List.sum_cons, List.sum_nil,
        List.sum_append, addrWords]
      rw [toNat_not_lo, toNat_not_hi, toNat_port, toNat_not_port, toNat_and_16,
        toNat_shiftRight_16, ← toNat_lo16, ← toNat_hi16, Int.modEq_iff_dvd]
      refine ⟨-3, ?_⟩
      omega

end LibraDevice.IpaNat
