import LibraDevice.Lib.Hex

/-!
The Wi-Fi addresses of `xiaomi_readmac.c`: the modem's address is turned
around when only its reversal has a listed OUI, and goes into the file with
the next address.
-/

namespace LibraDevice.Wifi

open LibraDevice.Hex

abbrev Mac := Vector UInt8 6

def xiaomiOuiList : List (UInt8 × UInt8 × UInt8) :=
  [(0x00, 0x9E, 0xC8), (0x00, 0xEC, 0x0A), (0x0C, 0x1D, 0xAF), (0x10, 0x2A, 0xB3),
   (0x14, 0xF6, 0x5A), (0x18, 0x59, 0x36), (0x20, 0x82, 0xC0), (0x28, 0x6C, 0x07),
   (0x28, 0xE3, 0x1F), (0x34, 0x80, 0xB3), (0x34, 0xCE, 0x00), (0x38, 0xA4, 0xED),
   (0x3C, 0xBD, 0x3E), (0x4C, 0x49, 0xE3), (0x50, 0x64, 0x2B), (0x50, 0x8F, 0x4C),
   (0x58, 0x44, 0x98), (0x64, 0x09, 0x80), (0x64, 0xB4, 0x73), (0x64, 0xCC, 0x2E),
   (0x68, 0xDF, 0xDD), (0x74, 0x23, 0x44), (0x74, 0x51, 0xBA), (0x78, 0x02, 0xF8),
   (0x78, 0x11, 0xDC), (0x7C, 0x1D, 0xD9), (0x8C, 0xBE, 0xBE), (0x98, 0xFA, 0xE3),
   (0x9C, 0x99, 0xA0), (0xA0, 0x86, 0xC6), (0xAC, 0xC1, 0xEE), (0xAC, 0xF7, 0xF3),
   (0xB0, 0xE2, 0x35), (0xC4, 0x0B, 0xCB), (0xC4, 0x6A, 0xB7), (0xD4, 0x97, 0x0B),
   (0xEC, 0xD0, 0x9F), (0xF0, 0xB4, 0x29), (0xF4, 0x8B, 0x32), (0xF8, 0xA4, 0x5F),
   (0xFC, 0x64, 0xBA)]

def zeromac : Mac :=
  Vector.replicate 6 0

/-- The source returns 1 for `true`, and takes a null pointer for `none`. -/
def xiaomiIsMacInCorrectOrder (mac : Option Mac) : Bool :=
  match mac with
  | none => true
  | some mac =>
      if mac = zeromac then true
      else if xiaomiOuiList.any fun oui => mac[0] == oui.1 && mac[1] == oui.2.1 &&
        mac[2] == oui.2.2 then true
      else if xiaomiOuiList.any fun oui => mac[5] == oui.1 && mac[4] == oui.2.1 &&
        mac[3] == oui.2.2 then false
      else true

/-- Each line stands for one use of `tmp`, which is `mac[0]` every time. -/
def xiaomiReadmacReverseMac (mac : Mac) : Mac :=
  let mac₁ := (mac.set 0 mac[5]).set 5 mac[0]
  let mac₂ := (mac₁.set 1 mac₁[4]).set 4 mac₁[0]
  (mac₂.set 2 mac₂[3]).set 3 mac₂[0]

/-- The six conversions of one line; the arguments are promoted to `int`. -/
def macDigits (b₀ b₁ b₂ b₃ b₄ b₅ : Nat) : List Char :=
  [b₀, b₁, b₂, b₃, b₄, b₅].flatMap hex02

/-- The lines of the file around the digits of the two addresses. -/
def fileLines (digits0 digits1 : List Char) : List Char :=
  "Intf0MacAddress=".toList ++ digits0 ++ "\nIntf1MacAddress=".toList ++ digits1 ++
    "\nEND\n".toList

/-- What the three calls of `fprintf` write. -/
def macFile (mac : Mac) : List Char :=
  fileLines
    (macDigits mac[0].toNat mac[1].toNat mac[2].toNat mac[3].toNat mac[4].toNat mac[5].toNat)
    (macDigits mac[0].toNat mac[1].toNat mac[2].toNat mac[3].toNat mac[4].toNat
      (mac[5].toNat + 1))

/-- The address that is written. -/
def macWritten (mac : Mac) : Mac :=
  if xiaomiIsMacInCorrectOrder (some mac) then mac else xiaomiReadmacReverseMac mac

/-- The result of `main` and the contents of the file, for what the modem
returned and whether the file could be opened. -/
def main (macAddr : Option Mac) (fopen : Bool) : Int × Option (List Char) :=
  match macAddr with
  | none => (1, none)
  | some mac =>
      if mac = zeromac then (1, none)
      else if fopen then (0, some (macFile (macWritten mac)))
      else (1, none)

/-- The bytes in the opposite order. -/
def byteReversal (mac : Mac) : Mac :=
  #v[mac[5], mac[4], mac[3], mac[2], mac[1], mac[0]]

/-- The first three bytes are a listed OUI. -/
def Listed (mac : Mac) : Prop :=
  (mac[0], mac[1], mac[2]) ∈ xiaomiOuiList

instance instDecidableListed (mac : Mac) : Decidable (Listed mac) :=
  inferInstanceAs (Decidable (_ ∈ _))

/-- The twelve digits of an address. -/
def hexOf (mac : Mac) : List Char :=
  mac.toList.flatMap hexByte

/-- What the file is to hold for the address of the modem. -/
structure ValidFile (mac intf0 intf1 : Mac) (file : List Char) : Prop where
  lines : file = fileLines (hexOf intf0) (hexOf intf1)
  either : intf0 = mac ∨ intf0 = byteReversal mac
  turned : ¬Listed mac ∧ Listed (byteReversal mac) → intf0 = byteReversal mac
  kept : ¬(¬Listed mac ∧ Listed (byteReversal mac)) → intf0 = mac
  listed : Listed mac ∨ Listed (byteReversal mac) → Listed intf0
  differ : intf0 ≠ intf1
  sameFirst : ∀ i : Fin 5, intf0[i.val] = intf1[i.val]

theorem any_oui_iff {a b c : UInt8} :
    (xiaomiOuiList.any fun oui => a == oui.1 && b == oui.2.1 && c == oui.2.2) = true ↔
      (a, b, c) ∈ xiaomiOuiList := by
  rw [List.any_eq_true]
  constructor
  · rintro ⟨⟨x, y, z⟩, hmem, heq⟩
    simp only [Bool.and_eq_true, beq_iff_eq] at heq
    rcases heq with ⟨⟨rfl, rfl⟩, rfl⟩
    exact hmem
  · intro hmem
    refine ⟨(a, b, c), hmem, ?_⟩
    simp

theorem listed_reverse_iff (mac : Mac) :
    Listed (byteReversal mac) ↔ (mac[5], mac[4], mac[3]) ∈ xiaomiOuiList :=
  Iff.rfl

theorem correctOrder_iff {mac : Mac} (hmac : mac ≠ zeromac) :
    xiaomiIsMacInCorrectOrder (some mac) = true ↔ ¬(¬Listed mac ∧ Listed (byteReversal mac)) := by
  rw [listed_reverse_iff, Listed, ← any_oui_iff, ← any_oui_iff]
  simp only [xiaomiIsMacInCorrectOrder, if_neg hmac]
  split
  · rename_i hown
    simp [hown]
  · rename_i hown
    split
    · rename_i hrev
      simp [hown, hrev]
    · rename_i hrev
      simp [hrev]

theorem reverseMac_eq (mac : Mac) :
    xiaomiReadmacReverseMac mac = #v[mac[5], mac[4], mac[3], mac[5], mac[5], mac[0]] := by
  apply Vector.ext
  intro i hi
  have hcases : i = 0 ∨ i = 1 ∨ i = 2 ∨ i = 3 ∨ i = 4 ∨ i = 5 := by omega
  rcases hcases with rfl | rfl | rfl | rfl | rfl | rfl <;>
    simp [xiaomiReadmacReverseMac]

theorem reverseMac_right_iff (mac : Mac) :
    xiaomiReadmacReverseMac mac = byteReversal mac ↔ mac[1] = mac[5] ∧ mac[2] = mac[5] := by
  rw [reverseMac_eq]
  constructor
  · intro heq
    have h₃ := congrArg (fun v : Mac => v[3]) heq
    have h₄ := congrArg (fun v : Mac => v[4]) heq
    exact ⟨h₄.symm, h₃.symm⟩
  · rintro ⟨h₁, h₂⟩
    rw [byteReversal, h₁, h₂]

theorem toList_eq (mac : Mac) :
    mac.toList = [mac[0], mac[1], mac[2], mac[3], mac[4], mac[5]] := by
  apply List.ext_getElem
  · simp
  · intro i hi hi'
    have hcases : i = 0 ∨ i = 1 ∨ i = 2 ∨ i = 3 ∨ i = 4 ∨ i = 5 := by
      simp only [Vector.length_toList] at hi
      omega
    rcases hcases with rfl | rfl | rfl | rfl | rfl | rfl <;> simp

theorem hexOf_length (mac : Mac) : (hexOf mac).length = 12 := by
  rw [hexOf, flatMap_hexByte_length, Vector.length_toList]

theorem hexOf_inj {a b : Mac} (heq : hexOf a = hexOf b) : a = b :=
  Vector.toList_inj.mp (flatMap_hexByte_inj heq)

theorem macDigits_eq (mac : Mac) :
    macDigits mac[0].toNat mac[1].toNat mac[2].toNat mac[3].toNat mac[4].toNat mac[5].toNat =
      hexOf mac := by
  rw [hexOf, toList_eq]
  simp only [macDigits, List.flatMap_cons, List.flatMap_nil, hex02_byte]

/-- The address after this one, which the second line is to hold. -/
def nextMac (mac : Mac) : Mac :=
  mac.set 5 (mac[5] + 1)

theorem macDigits_next {mac : Mac} (hlast : mac[5] ≠ 0xFF) :
    macDigits mac[0].toNat mac[1].toNat mac[2].toNat mac[3].toNat mac[4].toNat
      (mac[5].toNat + 1) = hexOf (nextMac mac) := by
  have hlt := mac[5].toNat_lt
  have hne : mac[5].toNat ≠ 255 := by
    intro heq
    apply hlast
    apply UInt8.toNat_inj.mp
    rw [heq]
    rfl
  have hadd : mac[5].toNat + 1 = (mac[5] + 1).toNat := by
    rw [UInt8.toNat_add, UInt8.toNat_one]
    omega
  rw [hadd, ← macDigits_eq]
  simp [nextMac]

theorem nextMac_ne (mac : Mac) : mac ≠ nextMac mac := by
  intro heq
  have hlast := congrArg (fun v : Mac => v[5]) heq
  simp only [nextMac, Vector.getElem_set_self] at hlast
  have hnat := congrArg UInt8.toNat hlast
  rw [UInt8.toNat_add, UInt8.toNat_one] at hnat
  have hlt := mac[5].toNat_lt
  omega

theorem macDigits_carry {mac : Mac} (hlast : mac[5] = 0xFF) :
    (macDigits mac[0].toNat mac[1].toNat mac[2].toNat mac[3].toNat mac[4].toNat
      (mac[5].toNat + 1)).length = 13 := by
  have hcarry : hex02 (mac[5].toNat + 1) = ['1', '0', '0'] := by
    rw [hlast]
    exact hex02_carry
  simp only [macDigits, List.flatMap_cons, List.flatMap_nil, hex02_byte, hcarry,
    List.length_append, hexByte_length, List.length_cons, List.length_nil]

theorem append_five_inj {α : Type} {p q r a b a' b' : List α} (hlen : a.length = a'.length)
    (heq : p ++ a ++ q ++ b ++ r = p ++ a' ++ q ++ b' ++ r) : a = a' ∧ b = b' := by
  have hlines := List.append_cancel_right heq
  have hfirst := List.append_inj hlines (by simp only [List.length_append, hlen])
  have hnumber := List.append_cancel_right hfirst.1
  exact ⟨List.append_cancel_left hnumber, hfirst.2⟩

theorem fileLines_inj {a b a' b' : List Char} (hlen : a.length = a'.length)
    (heq : fileLines a b = fileLines a' b') : a = a' ∧ b = b' :=
  append_five_inj hlen heq

theorem macFile_valid_iff (mac written : Mac) :
    (∃ intf0 intf1, ValidFile mac intf0 intf1 (macFile written)) ↔
      written = (if ¬Listed mac ∧ Listed (byteReversal mac) then byteReversal mac else mac) ∧
        written[5] ≠ 0xFF := by
  constructor
  · rintro ⟨intf0, intf1, hvalid⟩
    have hlines := hvalid.lines
    rw [macFile, macDigits_eq] at hlines
    have hboth := fileLines_inj (by rw [hexOf_length, hexOf_length]) hlines
    have hwritten : written = intf0 := hexOf_inj hboth.1
    constructor
    · rw [hwritten]
      split
      · rename_i hturned
        exact hvalid.turned hturned
      · rename_i hkept
        exact hvalid.kept hkept
    · intro hcarry
      have hlength := congrArg List.length hboth.2
      rw [macDigits_carry hcarry, hexOf_length] at hlength
      omega
  · rintro ⟨hwritten, hlast⟩
    refine ⟨written, nextMac written, ?_, ?_, ?_, ?_, ?_, nextMac_ne written, ?_⟩
    · rw [macFile, macDigits_eq, macDigits_next hlast]
    · rw [hwritten]
      split
      · exact Or.inr rfl
      · exact Or.inl rfl
    · intro hturned
      rw [hwritten, if_pos hturned]
    · intro hkept
      rw [hwritten, if_neg hkept]
    · rintro hlisted
      rw [hwritten]
      split
      · rename_i hturned
        exact hturned.2
      · rename_i hkept
        rcases hlisted with hown | hrev
        · exact hown
        · exact Classical.not_not.mp fun hown => hkept ⟨hown, hrev⟩
    · intro i
      have hi := i.isLt
      rw [nextMac, Vector.getElem_set_ne]
      omega

theorem macWritten_right_iff {mac : Mac} (hmac : mac ≠ zeromac) :
    macWritten mac = (if ¬Listed mac ∧ Listed (byteReversal mac) then byteReversal mac else mac) ↔
      (xiaomiIsMacInCorrectOrder (some mac) = false → mac[1] = mac[5] ∧ mac[2] = mac[5]) := by
  rw [macWritten]
  have horder := correctOrder_iff hmac
  rcases hcorrect : xiaomiIsMacInCorrectOrder (some mac) with _ | _
  · rw [hcorrect] at horder
    have hturned : ¬Listed mac ∧ Listed (byteReversal mac) :=
      Classical.not_not.mp fun hkept => Bool.false_ne_true (horder.mpr hkept)
    rw [if_pos hturned, if_neg Bool.false_ne_true, reverseMac_right_iff]
    exact ⟨fun heq _ => heq, fun heq => heq rfl⟩
  · rw [if_neg (horder.mp hcorrect), if_pos rfl]
    exact ⟨fun _ h => absurd h (by decide), fun _ => rfl⟩

theorem macWritten_last (mac : Mac) :
    (macWritten mac)[5] =
      if xiaomiIsMacInCorrectOrder (some mac) then mac[5] else mac[0] := by
  rw [macWritten]
  split
  · rfl
  · rw [reverseMac_eq]
    rfl

/-- The file of a non-zero address is right exactly when the address is kept
and does not end in `FF`, or is turned around, has its last byte in the places
of the two bytes behind the first too, and does not begin with `FF`. -/
theorem main_file_valid_iff (mac : Mac) (hmac : mac ≠ zeromac) :
    (∃ file intf0 intf1, main (some mac) true = (0, some file) ∧
        ValidFile mac intf0 intf1 file) ↔
      if xiaomiIsMacInCorrectOrder (some mac) then mac[5] ≠ 0xFF
      else mac[1] = mac[5] ∧ mac[2] = mac[5] ∧ mac[0] ≠ 0xFF := by
  have hmain : main (some mac) true = (0, some (macFile (macWritten mac))) := by
    simp only [main, if_neg hmac, if_true]
  have hvalid := macFile_valid_iff mac (macWritten mac)
  rw [macWritten_right_iff hmac, macWritten_last] at hvalid
  have hiff : (∃ file intf0 intf1, main (some mac) true = (0, some file) ∧
      ValidFile mac intf0 intf1 file) ↔
      ∃ intf0 intf1, ValidFile mac intf0 intf1 (macFile (macWritten mac)) := by
    constructor
    · rintro ⟨file, intf0, intf1, hfile, hholds⟩
      rw [hmain, Prod.mk.injEq, Option.some.injEq] at hfile
      rw [hfile.2]
      exact ⟨intf0, intf1, hholds⟩
    · rintro ⟨intf0, intf1, hholds⟩
      exact ⟨_, intf0, intf1, hmain, hholds⟩
  rw [hiff, hvalid]
  rcases xiaomiIsMacInCorrectOrder (some mac) with _ | _
  · simp [and_assoc]
  · simp

theorem main_file_valid_iff_kept :
    #v[0x64, 0x09, 0x80, 1, 2, 3] ≠ zeromac ∧
      ((∃ file intf0 intf1, main (some #v[0x64, 0x09, 0x80, 1, 2, 3]) true = (0, some file) ∧
          ValidFile #v[0x64, 0x09, 0x80, 1, 2, 3] intf0 intf1 file) ↔
        if xiaomiIsMacInCorrectOrder (some #v[0x64, 0x09, 0x80, 1, 2, 3]) then (3 : UInt8) ≠ 0xFF
        else (9 : UInt8) = 3 ∧ (0x80 : UInt8) = 3 ∧ (0x64 : UInt8) ≠ 0xFF) :=
  ⟨by decide, main_file_valid_iff #v[0x64, 0x09, 0x80, 1, 2, 3] (by decide)⟩

/-- The address `03 02 01 80 09 64`, whose reversal has a listed OUI, is
written as `64 09 80 64 64 03`. -/
theorem main_file_not_valid :
    ¬∃ file intf0 intf1, main (some #v[3, 2, 1, 0x80, 0x09, 0x64]) true = (0, some file) ∧
      ValidFile #v[3, 2, 1, 0x80, 0x09, 0x64] intf0 intf1 file := by
  rintro ⟨file, intf0, intf1, hfile, hvalid⟩
  have hmain : main (some #v[3, 2, 1, 0x80, 0x09, 0x64]) true =
      (0, some (macFile #v[0x64, 0x09, 0x80, 0x64, 0x64, 3])) := rfl
  rw [hmain, Prod.mk.injEq, Option.some.injEq] at hfile
  rw [← hfile.2] at hvalid
  have hright := ((macFile_valid_iff _ _).mp ⟨intf0, intf1, hvalid⟩).1
  rw [if_pos (by decide)] at hright
  have hwrong : (#v[0x64, 0x09, 0x80, 0x64, 0x64, 3] : Mac) ≠
      byteReversal #v[3, 2, 1, 0x80, 0x09, 0x64] := by decide
  exact hwrong hright

end LibraDevice.Wifi
