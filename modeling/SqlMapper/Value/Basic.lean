import SqlMapper.Number.Decimal
import SqlMapper.Calendar.Moment
import SqlMapper.Uuid

/-!
# Values

The dynamically typed values that move between application records, statements and the wire. Fields convert between
what records hold and what is bound to placeholders; both sides use this type.
-/

namespace SqlMapper

open Number Calendar

/-- A value of a column, of a parameter, or a list of values for a membership test. -/
inductive Value where
  | null
  | boolean (b : Bool)
  | int (n : Int64)
  | uint (n : UInt64)
  | float (x : Float)
  | decimal (d : Decimal)
  | text (s : String)
  | bytes (bs : List UInt8)
  | date (d : Date)
  | time (t : Time)
  | datetime (d : DateTime)
  | timestamp (m : Moment)
  | uuid (u : Uuid)
  | list (items : List Value)
deriving Inhabited

namespace Value

/-- The absence of a value. -/
def isNull : Value → Bool
  | null => true
  | _ => false

/-- A list of values. -/
def isList : Value → Bool
  | list _ => true
  | _ => false

/-- The name of the kind of a value, as messages use it. -/
def kindName : Value → String
  | null => "NULL"
  | boolean _ => "boolean"
  | int _ => "int"
  | uint _ => "unsigned int"
  | float _ => "float"
  | decimal _ => "decimal"
  | text _ => "text"
  | bytes _ => "bytes"
  | date _ => "date"
  | time _ => "time"
  | datetime _ => "datetime"
  | timestamp _ => "timestamp"
  | uuid _ => "uuid"
  | list _ => "list"

/-- The content of a text, or of bytes that are UTF-8, since a database may deliver any column as bytes. -/
def asText? : Value → Option String
  | text s => some s
  | bytes bs => Text.Utf8.decode? bs
  | _ => none

/-- The integer that fits into 64 bits with a sign. -/
def int64? (n : Int) : Option Int64 :=
  if -Int.pow 2 63 ≤ n ∧ n < Int.pow 2 63 then some (Int64.ofInt n) else none

/-- The integer that fits into 64 bits without a sign. -/
def uint64? (n : Int) : Option UInt64 :=
  if 0 ≤ n ∧ n < Int.pow 2 64 then some (UInt64.ofNat n.toNat) else none

/-- An integer or a truth value as a signed integer of 64 bits. -/
def asInt64? : Value → Option Int64
  | int n => some n
  | uint n => int64? n.toNat
  | boolean b => some (if b then 1 else 0)
  | _ => none

/-- An integer or a truth value as an unsigned integer of 64 bits. -/
def asUInt64? : Value → Option UInt64
  | int n => uint64? n.toInt
  | uint n => some n
  | boolean b => some (if b then 1 else 0)
  | _ => none

mutual

/-- Both are of one kind and equal. Numbers, moments and floating point numbers compare by what they denote. -/
def same : Value → Value → Bool
  | null, null => true
  | boolean a, boolean b => a == b
  | int a, int b => a == b
  | uint a, uint b => a == b
  | float a, float b => a == b
  | decimal a, decimal b => a.same b
  | text a, text b => a == b
  | bytes a, bytes b => a == b
  | date a, date b => a == b
  | time a, time b => a == b
  | datetime a, datetime b => a == b
  | timestamp a, timestamp b => a.same b
  | uuid a, uuid b => a == b
  | list a, list b => sameAll a b
  | _, _ => false

/-- The lists have one length and equal items. -/
def sameAll : List Value → List Value → Bool
  | [], [] => true
  | a :: as, b :: bs => same a b && sameAll as bs
  | _, _ => false

end

end Value

end SqlMapper
