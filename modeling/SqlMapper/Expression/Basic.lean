import SqlMapper.Table.Basic

/-!
# Expressions

The trees that conditions, projections and assignments are made of. An operand is a literal value, an expression, or
text that is written as it is. A select is an expression too, so selects nest to any depth.
-/

namespace SqlMapper

/-- Operators between two operands. -/
inductive BinaryOp where
  | multiplication
  | division
  | remainder
  | addition
  | subtraction
  | bitwiseAnd
  | bitwiseOr
  | bitwiseXor
  | isOp
  | isNot
  /-- A pattern match that tells cases apart. -/
  | like
  | notLike
  /-- A pattern match by the collation of the column. -/
  | ilike
  | notIlike
  | regexp
  | notRegexp
  | inOp
  | notIn
  | equal
  | notEqual
  | less
  | greater
  | lessEqual
  | greaterEqual
  | and
  | or
deriving DecidableEq, Repr

namespace BinaryOp

/-- Every operator between two operands. -/
def all : List BinaryOp :=
  [multiplication, division, remainder, addition, subtraction, bitwiseAnd, bitwiseOr, bitwiseXor, isOp, isNot, like,
    notLike, ilike, notIlike, regexp, notRegexp, inOp, notIn, equal, notEqual, less, greater, lessEqual, greaterEqual,
    and, or]

/-- The operator joins conditions. -/
def isLogical : BinaryOp → Bool
  | and | or => true
  | _ => false

/-- The operator tests for membership. -/
def isMembership : BinaryOp → Bool
  | inOp | notIn => true
  | _ => false

/-- The operator compares with `NULL`. -/
def isNullTest : BinaryOp → Bool
  | isOp | isNot => true
  | _ => false

/-- The word for an operator in a description of an expression. -/
def word : BinaryOp → String
  | multiplication => "mul"
  | division => "div"
  | remainder => "rem"
  | addition => "add"
  | subtraction => "sub"
  | bitwiseAnd => "bit_and"
  | bitwiseOr => "bit_or"
  | bitwiseXor => "bit_xor"
  | isOp => "is"
  | isNot => "is_not"
  | like => "like"
  | notLike => "not_like"
  | ilike => "ilike"
  | notIlike => "not_ilike"
  | regexp => "regexp"
  | notRegexp => "not_regexp"
  | inOp => "in"
  | notIn => "not_in"
  | equal => "equal"
  | notEqual => "not_equal"
  | less => "less"
  | greater => "greater"
  | lessEqual => "less_eq"
  | greaterEqual => "greater_eq"
  | and => "and"
  | or => "or"

/-- The operator as it is written. -/
def symbol : BinaryOp → String
  | multiplication => "*"
  | division => "/"
  | remainder => "%"
  | addition => "+"
  | subtraction => "-"
  | bitwiseAnd => "&"
  | bitwiseOr => "|"
  | bitwiseXor => "^"
  | isOp => "IS"
  | isNot => "IS NOT"
  | like => "LIKE BINARY"
  | notLike => "NOT LIKE BINARY"
  | ilike => "LIKE"
  | notIlike => "NOT LIKE"
  | regexp => "REGEXP"
  | notRegexp => "NOT REGEXP"
  | inOp => "IN"
  | notIn => "NOT IN"
  | equal => "="
  | notEqual => "!="
  | less => "<"
  | greater => ">"
  | lessEqual => "<="
  | greaterEqual => ">="
  | and => "AND"
  | or => "OR"

end BinaryOp

/-- Operators with one operand. -/
inductive UnaryOp where
  | negative
  | not
  | isNull
  | isNotNull
  | exists
  | notExists
deriving DecidableEq, Repr

/-- Every operator with one operand. -/
def UnaryOp.all : List UnaryOp := [.negative, .not, .isNull, .isNotNull, .exists, .notExists]

/-- The word for an operator in a description of an expression. -/
def UnaryOp.word : UnaryOp → String
  | .negative => "neg"
  | .not => "not"
  | .isNull => "is_null"
  | .isNotNull => "is_not_null"
  | .exists => "exists"
  | .notExists => "not_exists"

/-- The direction of an order. -/
inductive Order where
  | ascending
  | descending
deriving DecidableEq, Repr

/-- What a fetched row becomes. -/
inductive Shape where
  /-- A record of the table, its values converted by their fields. -/
  | model
  /-- Values by attribute, as delivered. -/
  | map
  /-- Values by position, as delivered. -/
  | tuple
deriving DecidableEq, Repr, Inhabited

/-- Which rows of a second table are joined. -/
inductive JoinKind where
  | inner
  | left
deriving DecidableEq, Repr

/-- The offsets that a row by row walk visits: from `start` up to, not including, `stop`. -/
structure Window where
  start : Nat
  stop : Nat
  step : Nat
deriving DecidableEq, Repr

mutual

/-- A node of an expression tree. -/
inductive Expr where
  | column (c : Column)
  | raw (sql : String)
  | call (function : String) (distinct : Bool) (args : List Operand)
  | binary (op : BinaryOp) (lhs rhs : Operand)
  | unary (op : UnaryOp) (arg : Operand)
  | between (negated : Bool) (operand low high : Operand)
  | ordered (e : Expr) (order : Order)
  | aliased (e : Expr) (label : String)
  | select (s : Select)

/-- A side of an operator, or an argument. -/
inductive Operand where
  | value (v : Value)
  | expr (e : Expr)
  | raw (sql : String)

/-- A second table with the condition that its rows have to meet. -/
inductive Join where
  | mk (kind : JoinKind) (table : Table) (condition : Expr)

/-- A query for rows of a table. -/
structure Select where
  table : Table
  columns : List Expr
  distinct : Bool
  joins : List Join
  filter : Option Expr
  groupBy : List Expr
  having : Option Expr
  orderBy : List Expr
  limit : Option Nat
  offset : Option Nat
  shape : Shape
  window : Option Window

end

instance : Inhabited Expr := ⟨.raw ""⟩

instance : Inhabited Operand := ⟨.raw ""⟩

namespace Operand

/-- The operand is the literal `NULL`. -/
def isNull : Operand → Bool
  | value v => v.isNull
  | _ => false

end Operand

namespace Expr

/-- The expression denotes a sequence of rows. -/
def isSequence : Expr → Bool
  | select _ => true
  | _ => false

mutual

/-- The field whose conversion applies to the values that an expression is compared with. -/
def field? : Expr → Option Field
  | column c => some c.field
  | binary op lhs rhs => if op.isLogical then none else (operandField? lhs).or (operandField? rhs)
  | unary op arg =>
    match op with
    | .negative => operandField? arg
    | _ => none
  | ordered e _ => field? e
  | aliased e _ => field? e
  | raw _ | call .. | between .. | select _ => none

/-- The field of an operand that is an expression. -/
def operandField? : Operand → Option Field
  | .expr e => field? e
  | .value _ | .raw _ => none

end

end Expr

namespace Operand

/-- The field whose conversion applies to the values that an operand is compared with. -/
def field? (o : Operand) : Option Field := Expr.operandField? o

/-- The operand denotes a list or rows, so that membership in it can be tested. -/
def isSequence : Operand → Bool
  | value v => v.isList
  | expr e => e.isSequence
  | raw _ => false

end Operand

end SqlMapper
