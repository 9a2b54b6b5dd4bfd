import SqlMapper.Text.Printable

/-!
# Quoted text in messages

A text between double quotes, as error messages show it: quotes, backslashes and the common controls have short
escapes, every other character without a visible form is written by its code point in hexadecimal.
-/

namespace SqlMapper.Text.Quoted

/-- A code point in lower case hexadecimal without padding. -/
def hexNumber (n : Nat) : List Char := Nat.toDigits 16 n

/-- The written form of one character. -/
def escape (c : Char) : List Char :=
  if c = '\x22' then ['\x5c', '\x22']
  else if c = '\x5c' then ['\x5c', '\x5c']
  else if c = '\n' then ['\x5c', 'n']
  else if c = '\r' then ['\x5c', 'r']
  else if c = '\t' then ['\x5c', 't']
  else if c = '\x00' then ['\x5c', '0']
  else if isPrintable c then [c]
  else '\x5c' :: 'u' :: '\x7b' :: hexNumber c.toNat ++ ['\x7d']

/-- The text between double quotes, each character escaped. -/
def quote (s : String) : String := String.ofList ('\x22' :: s.toList.flatMap escape ++ ['\x22'])

end SqlMapper.Text.Quoted
