import Mathlib.Data.List.Basic

/-!
Hexadecimal texts: the conversion `%02X` of `printf`, upper-case digits, at least
two of them; and percent-encoded texts, where a character stands for itself or for
`%` and two hexadecimal digits.
-/

namespace LibraDevice.Hex

/-- The upper-case digit of a number below sixteen. -/
def hexDigit (n : Nat) : Char :=
  ['0', '1', '2', '3', '4', '5', '6', '7', '8', '9', 'A', 'B', 'C', 'D', 'E', 'F'].getD n '0'

/-- The digits of a number, the most significant first and at most `width`. -/
def hexDigits : Nat → Nat → List Char
  | 0, _ => []
  | width + 1, n =>
      if n < 16 then [hexDigit n]
      else hexDigits width (n / 16) ++ [hexDigit (n % 16)]

/-- `%02X` on an unsigned number of 32 bits. -/
def hex02 (n : Nat) : List Char :=
  List.replicate (2 - (hexDigits 8 n).length) '0' ++ hexDigits 8 n

/-- The two digits of a byte. -/
def hexByte (b : UInt8) : List Char :=
  [hexDigit (b.toNat / 16), hexDigit (b.toNat % 16)]

def IsUpperHex (c : Char) : Prop :=
  c ∈ ['0', '1', '2', '3', '4', '5', '6', '7', '8', '9', 'A', 'B', 'C', 'D', 'E', 'F']

theorem hexDigit_isUpperHex (n : Nat) : IsUpperHex (hexDigit n) := by
  rw [hexDigit, IsUpperHex, List.getD_eq_getElem?_getD]
  rcases h : ['0', '1', '2', '3', '4', '5', '6', '7', '8', '9', 'A', 'B', 'C', 'D', 'E',
      'F'][n]? with _ | c
  · decide
  · exact List.mem_of_getElem? h

theorem hexDigit_inj {m n : Nat} (hm : m < 16) (hn : n < 16)
    (heq : hexDigit m = hexDigit n) : m = n := by
  have hall : ∀ a b : Fin 16, hexDigit a.val = hexDigit b.val → a = b := by decide
  have hfin := hall ⟨m, hm⟩ ⟨n, hn⟩ heq
  exact congrArg Fin.val hfin

@[simp] theorem hexByte_length (b : UInt8) : (hexByte b).length = 2 :=
  rfl

theorem hexByte_inj {a b : UInt8} (heq : hexByte a = hexByte b) : a = b := by
  have ha := a.toNat_lt
  have hb := b.toNat_lt
  simp only [hexByte, List.cons.injEq, and_true] at heq
  have hhigh := hexDigit_inj (by omega) (by omega) heq.1
  have hlow := hexDigit_inj (by omega) (by omega) heq.2
  apply UInt8.toNat_inj.mp
  omega

theorem hex02_of_lt {n : Nat} (hn : n < 256) :
    hex02 n = [hexDigit (n / 16), hexDigit (n % 16)] := by
  rcases Nat.lt_or_ge n 16 with hlt | hge
  · have hdiv : n / 16 = 0 := by omega
    have hmod : n % 16 = n := by omega
    rw [hex02, hexDigits, if_pos hlt, hdiv, hmod]
    rfl
  · have hdiv : n / 16 < 16 := by omega
    rw [hex02, hexDigits, if_neg (by omega), hexDigits, if_pos hdiv]
    rfl

theorem hex02_byte (b : UInt8) : hex02 b.toNat = hexByte b :=
  hex02_of_lt b.toNat_lt

theorem hex02_carry : hex02 256 = ['1', '0', '0'] :=
  rfl

theorem flatMap_hexByte_length (bytes : List UInt8) :
    (bytes.flatMap hexByte).length = 2 * bytes.length := by
  induction bytes with
  | nil => rfl
  | cons b bytes ih =>
      rw [List.flatMap_cons, List.length_append, ih, hexByte_length, List.length_cons]
      omega

theorem flatMap_hexByte_inj {as bs : List UInt8}
    (heq : as.flatMap hexByte = bs.flatMap hexByte) : as = bs := by
  induction as generalizing bs with
  | nil =>
      rcases bs with _ | ⟨b, bs⟩
      · rfl
      · simp [hexByte] at heq
  | cons a as ih =>
      rcases bs with _ | ⟨b, bs⟩
      · simp [hexByte] at heq
      · rw [List.flatMap_cons, List.flatMap_cons] at heq
        have hboth := List.append_inj heq rfl
        rw [hexByte_inj hboth.1, ih hboth.2]

end LibraDevice.Hex

namespace LibraDevice.PercentCoding

def hexValue (c : Char) : Option Nat :=
  if 48 ≤ c.toNat ∧ c.toNat ≤ 57 then some (c.toNat - 48)
  else if 65 ≤ c.toNat ∧ c.toNat ≤ 70 then some (c.toNat - 55)
  else if 97 ≤ c.toNat ∧ c.toNat ≤ 102 then some (c.toNat - 87)
  else none

def decode : List Char → List Char
  | [] => []
  | [c] => [c]
  | [c, c'] => [c, c']
  | c :: h :: l :: s =>
      if c = '%' then
        match hexValue h, hexValue l with
        | some a, some b => Char.ofNat (16 * a + b) :: decode s
        | _, _ => c :: decode (h :: l :: s)
      else c :: decode (h :: l :: s)

/-- A code that can be read back: what stands for itself is not `%`, and the digits behind a
`%` name the character. -/
def Readable (code : Char → List Char) : Prop :=
  ∀ c, (code c = [c] ∧ c ≠ '%') ∨
    ∃ h l a b, code c = ['%', h, l] ∧ hexValue h = some a ∧ hexValue l = some b ∧
      Char.ofNat (16 * a + b) = c

theorem decode_cons_of_ne {c : Char} (h : c ≠ '%') (s : List Char) :
    decode (c :: s) = c :: decode s := by
  rcases s with _ | ⟨x, _ | ⟨y, s⟩⟩
  · rfl
  · rfl
  · rw [decode, if_neg h]

theorem decode_code {code : Char → List Char} (hcode : Readable code) (c : Char)
    (rest : List Char) : decode (code c ++ rest) = c :: decode rest := by
  rcases hcode c with ⟨heq, hne⟩ | ⟨h, l, a, b, heq, ha, hb, hc⟩
  · rw [heq, List.singleton_append, decode_cons_of_ne hne]
  · rw [heq, List.cons_append, List.cons_append, List.cons_append, List.nil_append, decode,
      if_pos rfl, ha, hb]
    simp only [hc]

theorem decode_flatMap {code : Char → List Char} (hcode : Readable code) (s rest : List Char) :
    decode (s.flatMap code ++ rest) = s ++ decode rest := by
  induction s with
  | nil => rfl
  | cons c s ih =>
      rw [List.flatMap_cons, List.append_assoc, decode_code hcode, ih, List.cons_append]

theorem length_pos {code : Char → List Char} (hcode : Readable code) (c : Char) :
    0 < (code c).length := by
  rcases hcode c with ⟨heq, -⟩ | ⟨h, l, a, b, heq, -⟩
  · rw [heq]
    exact Nat.one_pos
  · rw [heq]
    exact Nat.succ_pos _

theorem prefix_of_fits {code : Char → List Char} {size : Nat} {p q s : List Char}
    (hp : p <+: s) (hstop : ∀ c, p ++ [c] <+: s → size ≤ ((p ++ [c]).flatMap code).length)
    (hq : q <+: s) (hfits : (q.flatMap code).length < size) : q <+: p := by
  rcases List.prefix_or_prefix_of_prefix hp hq with ⟨r, rfl⟩ | hqp
  · rcases r with _ | ⟨c, r⟩
    · exact ⟨[], by rw [List.append_nil, List.append_nil]⟩
    · have hnext : p ++ [c] <+: s :=
        List.IsPrefix.trans ⟨r, by rw [List.append_assoc, List.singleton_append]⟩ hq
      have hlong := hstop c hnext
      have hsplit : p ++ c :: r = p ++ [c] ++ r := by
        rw [List.append_assoc, List.singleton_append]
      rw [hsplit, List.flatMap_append, List.length_append] at hfits
      omega
  · exact hqp

end LibraDevice.PercentCoding
