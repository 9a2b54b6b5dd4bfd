import SqlMapper.Connection.Fault

/-!
# Placeholders of the server

A rendered statement marks its parameters with `%s` and a percent sign with `%%`. The server wants a question mark
for each bound value. A list becomes as many question marks as it has values, in parentheses, or `NULL` if it has
none.
-/

namespace SqlMapper.Placeholder

/-- A part of a rendered statement. -/
inductive Token where
  | char (c : Char)
  | percent
  | parameter
deriving DecidableEq, Repr

/-- The parts of a rendered statement, from left to right. -/
def tokens : List Char → List Token
  | '%' :: '%' :: rest => .percent :: tokens rest
  | '%' :: 's' :: rest => .parameter :: tokens rest
  | c :: rest => .char c :: tokens rest
  | [] => []

/-- The text for a parameter. -/
def marks : Value → String
  | .list [] => "(NULL)"
  | .list items => "(" ++ String.intercalate ", " (items.map fun _ => "?") ++ ")"
  | _ => "?"

/-- The values that are bound for a parameter. -/
def values : Value → List Value
  | .list items => items
  | v => [v]

/-- The statement text and the bound values, when `bound` values come before. -/
def place : (bound : Nat) → List Token → List Value → Result (List Char × List Value)
  | _, [], [] => .ok ([], [])
  | _, [], params => .error (ConnectionFault.leftParameters params.length).error
  | bound, .parameter :: _, [] => .error (ConnectionFault.missingParameter bound).error
  | bound, .parameter :: rest, v :: params => do
    let (text, after) ← place (bound + (values v).length) rest params
    return ((marks v).toList ++ text, values v ++ after)
  | bound, .percent :: rest, params => do
    let (text, after) ← place bound rest params
    return ('%' :: text, after)
  | bound, .char c :: rest, params => do
    let (text, after) ← place bound rest params
    return (c :: text, after)

/-- The statement as the server wants it, with the values that are bound to its question marks. -/
def bind (sql : String) (params : List Value) : Result (String × List Value) := do
  let (text, bound) ← place 0 (tokens sql.toList) params
  return (String.ofList text, bound)

end SqlMapper.Placeholder
