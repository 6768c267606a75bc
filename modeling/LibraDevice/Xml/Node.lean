import Mathlib.Logic.Function.Basic
import LibraDevice.Firewall.Attrib
import LibraDevice.Lib.ElementTree

/-!
The element trees of libxml, and what the parsers do with names and texts.
-/

namespace LibraDevice.Xml

open ElementTree

/-- A C string, without its end. -/
abbrev CString := List Char

def maxXmlStrLen : Nat := 120

inductive XmlElementType where
  | element
  | text
  | other
deriving DecidableEq, Repr

/-- The members of an `xmlNode` besides the pointers. -/
structure XmlLabel where
  type : XmlElementType
  name : Option CString
  content : Option CString
deriving DecidableEq, Repr

abbrev XmlNode := NodeTree XmlLabel

/-- The content of the first text among the children. -/
def readContentElement : XmlNode → Option CString
  | .null => none
  | .node label _ next =>
      if label.type = .text then label.content else readContentElement next

/-- `strncasecmp` finds no difference. -/
def strncasecmp (s t : CString) (n : Nat) : Bool :=
  (s.take n).map Char.toLower = (t.take n).map Char.toLower

/-- `IPACM_util_icmp_string` finds no difference. -/
def utilIcmpString (xmlStr : Option CString) (str : CString) : Bool :=
  match xmlStr with
  | none => false
  | some xmlStr => xmlStr.length = str.length && strncasecmp xmlStr str str.length

/-- `strncpy` over a member that ends in zeros. -/
def strncpy (dst src : CString) : CString :=
  src ++ dst.drop src.length

def digitsValue (s : CString) : Int :=
  (s.takeWhile Char.isDigit).foldl (fun n c => 10 * n + (c.toNat - '0'.toNat : Int)) 0

def isSpace (c : Char) : Bool :=
  c = ' ' || (9 ≤ c.toNat && c.toNat ≤ 13)

def atoi (s : CString) : Int :=
  match s.dropWhile isSpace with
  | '-' :: s => -digitsValue s
  | '+' :: s => digitsValue s
  | s => digitsValue s

example : atoi " 42 ".toList = 42 := by decide

/-- The library calls that read addresses. `inet_pton` stores nothing where it fails. -/
structure Libc where
  inetAddr : CString → UInt32
  inetPton : CString → Option Backhaul.Ipv6Addr

/-- `memset`, then `memcpy` of the whole text; `none` when it is longer than the buffer. -/
def copyContent (content : CString) : Option CString :=
  if content.length ≤ maxXmlStrLen then some content else none

theorem copyContent_bind_isSome {α : Type*} (content : CString) (f : CString → Option α) :
    ((copyContent content).bind f).isSome = true ↔
      content.length ≤ maxXmlStrLen ∧ (f content).isSome = true := by
  rw [copyContent]
  split
  next h => exact (and_iff_right h).symm
  next h => exact iff_of_false Bool.false_ne_true fun hboth => h hboth.1

/-- The buffer with its last byte cleared. -/
def clearLast (contentBuf : CString) : CString :=
  contentBuf.take (maxXmlStrLen - 1)

/-- A write to the entry `num - 1` of an array; `none` outside the array. -/
def modifyLast {α : Type*} (size : Nat) (num : UInt8) (entries : Nat → α) (f : α → α) :
    Option (Nat → α) :=
  if 1 ≤ num.toNat ∧ num.toNat ≤ size then
    some (Function.update entries (num.toNat - 1) (f (entries (num.toNat - 1))))
  else none

theorem modifyLast_isSome {α : Type*} (size : Nat) (num : UInt8) (entries : Nat → α)
    (f : α → α) : (modifyLast size num entries f).isSome = true ↔
      1 ≤ num.toNat ∧ num.toNat ≤ size := by
  rw [modifyLast]
  split
  next h => exact iff_of_true rfl h
  next h => exact iff_of_false Bool.false_ne_true h

end LibraDevice.Xml
