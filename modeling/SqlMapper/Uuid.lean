import SqlMapper.Text.Hex
import SqlMapper.Text.Utf8

/-!
# Universally unique identifiers

Identifiers of 128 bits, written as 32 hexadecimal digits or in five groups of them, and read from either form, from
the groups inside braces, or from the groups after `urn:uuid:`.
-/

namespace SqlMapper

/-- An identifier of 128 bits. -/
structure Uuid where
  bits : BitVec 128
deriving DecidableEq, Inhabited

namespace Uuid

/-- The identifier whose bits are all zero. -/
def nil : Uuid := ⟨0⟩

/-- The 32 digits of an identifier. -/
def digits (u : Uuid) : List Char := Text.Hex.digits 32 u.bits.toNat

/-- The identifier as one run of digits. -/
def simple (u : Uuid) : String := String.ofList u.digits

/-- Groups of 8, 4, 4, 4 and 12 digits with hyphens between them. -/
def groups (ds : List Char) : List Char :=
  ds.take 8 ++ '-' :: (ds.drop 8).take 4 ++ '-' :: (ds.drop 12).take 4 ++ '-' :: (ds.drop 16).take 4 ++ '-' :: ds.drop 20

/-- The identifier in five groups. -/
def text (u : Uuid) : String := String.ofList (groups u.digits)

/-- The identifier with the given digits, if there are 32. -/
def ofDigits? (ds : List Char) : Option Uuid :=
  if ds.length = 32 then (Text.Hex.value? ds).map fun n => ⟨BitVec.ofNat 128 n⟩ else none

/-- The identifier with the given five groups. -/
def ofGroups? (cs : List Char) : Option Uuid :=
  let ds := cs.take 8 ++ (cs.drop 9).take 4 ++ (cs.drop 14).take 4 ++ (cs.drop 19).take 4 ++ cs.drop 24
  if groups ds = cs then ofDigits? ds else none

/-- Reads an identifier in any of its forms. -/
def read (s : String) : Option Uuid :=
  let cs := s.toList
  if cs.length = 32 then ofDigits? cs
  else if cs.length = 36 then ofGroups? cs
  else if cs.length = 38 && cs.head? = some '\x7b' && cs.getLast? = some '\x7d' then ofGroups? ((cs.drop 1).take 36)
  else if cs.length = 45 && cs.take 9 = "urn:uuid:".toList then ofGroups? (cs.drop 9)
  else none

/-- The identifier whose bytes are given, the most significant first. -/
def ofBytes? (bytes : List UInt8) : Option Uuid :=
  if bytes.length = 16 then some ⟨BitVec.ofNat 128 (bytes.foldl (fun n b => n * 256 + b.toNat) 0)⟩ else none

end Uuid

end SqlMapper
