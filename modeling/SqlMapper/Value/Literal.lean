import SqlMapper.Value.Basic
import SqlMapper.Text.Joined
import SqlMapper.Log

/-!
# Literals

Values and identifiers as they stand in statement text. Texts are quoted with quotes and backslashes doubled, bytes
are written in hexadecimal, dates, times and identifiers of 128 bits between quotes. A floating point number that the
database cannot represent is written as `NULL` and reported.
-/

namespace SqlMapper

open Number

namespace Literal

/-- A character inside a quoted text. -/
def escape (c : Char) : List Char :=
  if c = '\x27' then ['\x27', '\x27']
  else if c = '\x5c' then ['\x5c', '\x5c']
  else [c]

/-- The content of a quoted text. -/
def escaped (s : String) : String := String.ofList (s.toList.flatMap escape)

/-- A text between single quotes. -/
def quoted (s : String) : String := "'" ++ escaped s ++ "'"

/-- A character inside a quoted identifier. -/
def escapeIdentifier (c : Char) : List Char := if c = '\x60' then ['\x60', '\x60'] else [c]

/-- The name of a table, column, index or alias between backticks. -/
def identifier (s : String) : String := String.ofList ('\x60' :: s.toList.flatMap escapeIdentifier ++ ['\x60'])

/-- A text as the fixed part of a search pattern: the wild cards and the backslash lose their meaning. -/
def escapePattern (s : String) : String :=
  String.ofList (s.toList.flatMap fun c => if c = '%' ∨ c = '_' ∨ c = '\x5c' then ['\x5c', c] else [c])

end Literal

namespace Value

mutual

/-- The literal of a value. A moment is written on clocks of universal time; there is none if it is outside their
calendar. -/
def literal : Value → Option String
  | null => some "NULL"
  | boolean b => some (if b then "1" else "0")
  | int n => some (integerText n.toInt)
  | uint n => some (Nat.repr n.toNat)
  | float x => some (if x.isFinite then floatText .statement x else "NULL")
  | decimal d => some d.text
  | text s => some (Literal.quoted s)
  | bytes bs => some ("X'" ++ String.ofList (Text.Hex.encodeUpper bs) ++ "'")
  | date d => some ("'" ++ d.literal ++ "'")
  | time t => some ("'" ++ t.literal ++ "'")
  | datetime d => some ("'" ++ d.literal ++ "'")
  | timestamp m => m.utc?.map fun d => "'" ++ d.literal ++ "'"
  | uuid u => some ("'" ++ u.simple ++ "'")
  | list items => (literals items).map fun ls => "(" ++ Text.joinedBy ", " ls ++ ")"

/-- The literals of some values, if each has one. -/
def literals : List Value → Option (List String)
  | [] => some []
  | v :: vs => do return (← literal v) :: (← literals vs)

end

mutual

/-- The floating point numbers of a value that have no literal, in order. -/
def unrepresentable : Value → List Float
  | float x => if x.isFinite then [] else [x]
  | list items => unrepresentableAll items
  | _ => []

/-- The floating point numbers of some values that have no literal, in order. -/
def unrepresentableAll : List Value → List Float
  | [] => []
  | v :: vs => unrepresentable v ++ unrepresentableAll vs

end

/-- What writing the literal of a value reports. -/
def literalLog (v : Value) : Log :=
  v.unrepresentable.map fun x => .error s!"MySQL cannot represent the float value {floatText .message x}"

end Value

end SqlMapper
