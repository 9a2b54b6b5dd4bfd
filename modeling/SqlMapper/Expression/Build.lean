import SqlMapper.Expression.Basic

/-!
# Building expressions

The operators that expressions are composed with. Equality with `NULL` becomes a test for it, patterns are made from
fixed text, and membership and existence take nothing but sequences.
-/

namespace SqlMapper

namespace Operand

/-- What an operand is called when it is not a sequence. -/
def foundName : Operand → String
  | value v => v.kindName
  | expr _ => "scalar expression"
  | raw _ => "raw sql"

/-- Refuses an operand that is not a sequence. -/
def requireSequence (o : Operand) (operator : String) : Result Unit :=
  if o.isSequence then .ok () else fail (.operandType operator o.foundName)

/-- An operand that exists, for rows of a select. -/
def existing (o : Operand) : Result Expr := do
  o.requireSequence "EXISTS"
  return .unary .exists o

/-- An operand that has no rows. -/
def missing (o : Operand) : Result Expr := do
  o.requireSequence "NOT EXISTS"
  return .unary .notExists o

end Operand

namespace Expr

/-- An operator with the expression on its left. -/
def withOp (e : Expr) (op : BinaryOp) (rhs : Operand) : Expr := .binary op (.expr e) rhs

/-- Equality; with `NULL` it is a test for `NULL`. -/
def equal (e : Expr) (rhs : Operand) : Expr := e.withOp (if rhs.isNull then .isOp else .equal) rhs

/-- Inequality; with `NULL` it is a test for a value. -/
def notEqual (e : Expr) (rhs : Operand) : Expr := e.withOp (if rhs.isNull then .isNot else .notEqual) rhs

/-- Membership in a sequence. -/
def isIn (e : Expr) (rhs : Operand) : Result Expr := do
  rhs.requireSequence "IN"
  return e.withOp .inOp rhs

/-- Absence from a sequence. -/
def isNotIn (e : Expr) (rhs : Operand) : Result Expr := do
  rhs.requireSequence "NOT IN"
  return e.withOp .notIn rhs

/-- A pattern match with fixed text between two parts of a pattern. -/
def matching (e : Expr) (caseSensitive : Bool) (before fixed after : String) : Expr :=
  e.withOp (if caseSensitive then .like else .ilike)
    (.value (.text (before ++ Literal.escapePattern fixed ++ after)))

/-- The text contains a fragment. -/
def containing (e : Expr) (caseSensitive : Bool) (fragment : String) : Expr :=
  e.matching caseSensitive "%" fragment "%"

/-- The text begins with a fragment. -/
def startingWith (e : Expr) (caseSensitive : Bool) (fragment : String) : Expr :=
  e.matching caseSensitive "" fragment "%"

/-- The text ends with a fragment. -/
def endingWith (e : Expr) (caseSensitive : Bool) (fragment : String) : Expr :=
  e.matching caseSensitive "%" fragment ""

/-- Some conditions joined by an operator, left to right; there must be one. -/
def combine (op : BinaryOp) : List Expr → Result Expr
  | [] => fail (.usage (.noConditions op.symbol))
  | first :: rest => .ok (rest.foldl (fun acc e => .binary op (.expr acc) (.expr e)) first)

/-- All conditions hold. -/
def allOf (conditions : List Expr) : Result Expr := combine .and conditions

/-- Some condition holds. -/
def anyOf (conditions : List Expr) : Result Expr := combine .or conditions

/-- The number of rows. -/
def countAll : Expr := .call "COUNT" false [.raw "1"]

end Expr

namespace Select

/-- All columns of all rows of a table. -/
def ofTable (table : Table) : Select :=
  { table := table, columns := [], distinct := false, joins := [], filter := none, groupBy := [], having := none
    orderBy := [], limit := none, offset := none, shape := .model, window := none }

instance : Inhabited Select := ⟨ofTable default⟩

/-- Only the rows that meet all conditions. -/
def filterAll (s : Select) (conditions : List Expr) : Result Select := do
  return { s with filter := some (← Expr.allOf conditions) }

/-- One more column. -/
def addColumn (s : Select) (column : Expr) : Select := { s with columns := s.columns ++ [column] }

/-- Orders rows that are equal so far by further columns. -/
def addOrder (s : Select) (columns : List Expr) : Select := { s with orderBy := s.orderBy ++ columns }

/-- Joins a second table. -/
def join (s : Select) (kind : JoinKind) (table : Table) (condition : Expr) : Select :=
  { s with joins := s.joins ++ [.mk kind table condition] }

/-- Leaves out the first rows; only a select with a limit can. -/
def withOffset (s : Select) (offset : Nat) : Result Select :=
  if s.limit.isNone then fail (.usage (.offsetWithoutLimit s.table.name)) else .ok { s with offset := some offset }

/-- The offsets of a row by row walk. -/
def slice (s : Select) (start stop step : Nat) : Result Select :=
  if stop ≤ start then fail (.usage (.emptySlice start stop))
  else if step = 0 then fail (.usage .zeroStep)
  else .ok { s with window := some ⟨start, stop, step⟩ }

end Select

end SqlMapper
