import SqlMapper.Text.Utf8
import SqlMapper.Text.Hex

/-!
# Percent encoding

Text in which a percent sign and two hexadecimal digits stand for a byte, as addresses use it, and the names with
values that the query part of an address lists.
-/

namespace SqlMapper.Text.Percent

/-- The value of a byte that is a hexadecimal digit. -/
def digitValue? (b : UInt8) : Option Nat := if b < 0x80 then Hex.digitValue? (Char.ofNat b.toNat) else none

/-- The bytes that some bytes stand for. A percent sign without two digits stands for itself. -/
def decodeBytes : List UInt8 → List UInt8
  | 0x25 :: a :: b :: rest =>
    match digitValue? a, digitValue? b with
    | some high, some low => UInt8.ofNat (high * 16 + low) :: decodeBytes rest
    | _, _ => 0x25 :: decodeBytes (a :: b :: rest)
  | b :: rest => b :: decodeBytes rest
  | [] => []

/-- The text that a text stands for; bytes that are no text become replacement characters. -/
def decode (s : String) : String := Utf8.decodeLossy (decodeBytes (Utf8.encode s))

/-- The percent sign and the digits of a byte. -/
def encodeByte (b : UInt8) : List Char := '%' :: Hex.encodeUpper [b]

/-- The text with control characters and everything outside of ASCII percent-encoded. -/
def encodeControls (s : String) : String :=
  String.ofList ((Utf8.encode s).flatMap fun b =>
    if b < 0x20 || 0x7e < b then encodeByte b else [Char.ofNat b.toNat])

/-- The characters before the first separator and those behind it, none without a separator. -/
def cut (separator : Char) : List Char → List Char × Option (List Char)
  | [] => ([], none)
  | c :: rest => if c = separator then ([], some rest) else ((c :: (cut separator rest).1), (cut separator rest).2)

/-- The text of a name or a value in a query, where a plus sign is a blank. -/
def formText (cs : List Char) : String := decode (String.ofList (cs.map fun c => if c = '+' then ' ' else c))

/-- The names with values that a query lists. A name without an equals sign has the empty value. -/
def formPairs (query : String) : List (String × String) :=
  ((query.splitOn "&").filter (!·.isEmpty)).map fun item =>
    let (name, value) := cut '=' item.toList
    (formText name, formText (value.getD []))

end SqlMapper.Text.Percent
