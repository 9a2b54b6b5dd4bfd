import SqlMapper.Value.Basic
import SqlMapper.Text.Quoted

/-!
# Values in messages

How error messages show a value: the name of its kind with the content in parentheses.
-/

namespace SqlMapper

open Number

namespace Value

mutual

/-- The value as messages show it. -/
def shown : Value → String
  | null => "Null"
  | boolean b => if b then "Boolean(true)" else "Boolean(false)"
  | int n => "Int(" ++ integerText n.toInt ++ ")"
  | uint n => "UInt(" ++ Nat.repr n.toNat ++ ")"
  | float x => "Float(" ++ floatText .message x ++ ")"
  | decimal d => "Decimal(" ++ d.text ++ ")"
  | text s => "Text(" ++ Text.Quoted.quote s ++ ")"
  | bytes bs => "Bytes([" ++ String.intercalate ", " (bs.map fun b => Nat.repr b.toNat) ++ "])"
  | date d => "Date(" ++ d.text ++ ")"
  | time t => "Time(" ++ t.text ++ ")"
  | datetime d => "DateTime(" ++ d.text ++ ")"
  | timestamp m => "Timestamp(" ++ m.text ++ ")"
  | uuid u => "Uuid(" ++ u.text ++ ")"
  | list items => "List([" ++ String.intercalate ", " (shownAll items) ++ "])"

/-- Each value as messages show it. -/
def shownAll : List Value → List String
  | [] => []
  | v :: vs => shown v :: shownAll vs

end

end Value

end SqlMapper
