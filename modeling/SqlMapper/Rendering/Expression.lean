import SqlMapper.Expression.Build
import SqlMapper.Rendering.Options

/-!
# Rendering of expressions

The piece that an expression adds to a statement depends on the options alone. Operators stand in parentheses, so the
text shows how an expression is grouped, and a value beside an operator is converted by the field that its operator
finds. A select inside another statement names the tables of its columns, and so does one that joins.
-/

namespace SqlMapper

open Piece

/-- A column with or without its table. -/
def Column.written (c : Column) (qualify : Bool) : String :=
  (if qualify then c.table.text ++ "." else "") ++ Literal.identifier c.name

/-- The word in front of an operand that has to have rows, or none. -/
def UnaryOp.existsWord : UnaryOp → String
  | .notExists => "NOT EXISTS "
  | _ => "EXISTS "

/-- The clause for the number of rows. -/
def limitClause (limit offset : Option Nat) : Piece :=
  match limit with
  | none => nothing
  | some n =>
    ofText (" LIMIT " ++ Nat.repr n ++
      match offset with
      | some m => " OFFSET " ++ Nat.repr m
      | none => "")

mutual

/-- What an expression adds to a statement. -/
def Expr.piece (o : Options) : Expr → Piece
  | .column c => ofText (c.written o.qualify)
  | .raw sql => ofText sql
  | .call function distinct args =>
    ofText (function ++ "(" ++ if distinct then "DISTINCT " else "") ++
      separated (Operand.pieces { o with converter := none } args) ++ ofText ")"
  | .binary op lhs rhs =>
    let inner := { o with parenthesize := false, converter := Expr.field? (.binary op lhs rhs) }
    (Operand.piece inner lhs ++ ofText (" " ++ op.symbol ++ " ") ++
      (if op.isMembership then Operand.piece { inner with nested := true } rhs
      else if op.isNullTest && rhs.isNull then ofText "NULL"
      else Operand.piece inner rhs)).inParens
  | .unary op arg =>
    let inner := { o with parenthesize := false, converter := arg.field? }
    (match op with
      | .negative => ofText "-" ++ Operand.piece inner arg
      | .not => ofText "NOT " ++ Operand.piece inner arg
      | .isNull => Operand.piece inner arg ++ ofText " IS NULL"
      | .isNotNull => Operand.piece inner arg ++ ofText " IS NOT NULL"
      | .exists | .notExists =>
        ofText op.existsWord ++ Operand.piece { inner with nested := true } arg).inParens
  | .between negated operand low high =>
    let inner := { o with parenthesize := false, converter := operand.field? }
    (Operand.piece inner operand ++ ofText (if negated then " NOT BETWEEN " else " BETWEEN ") ++
      Operand.piece inner low ++ ofText " AND " ++ Operand.piece inner high).inParens
  | .ordered e order =>
    Expr.piece o e ++ ofText (match order with
      | .ascending => " ASC"
      | .descending => " DESC")
  | .aliased e label => Expr.piece o e ++ ofText (" AS " ++ Literal.identifier label)
  | .select s => (Select.piece { o with parenthesize := false, qualify := true } s).inParens

/-- What an operand adds to a statement. -/
def Operand.piece (o : Options) : Operand → Piece
  | .value v => o.value v
  | .expr e => Expr.piece o e
  | .raw sql => ofText sql

/-- What each of some operands adds. -/
def Operand.pieces (o : Options) : List Operand → List Piece
  | [] => []
  | a :: rest => Operand.piece o a :: Operand.pieces o rest

/-- What each of some expressions adds. -/
def Expr.pieces (o : Options) : List Expr → List Piece
  | [] => []
  | e :: rest => Expr.piece o e :: Expr.pieces o rest

/-- What a condition adds behind its keyword. -/
def Expr.clause (o : Options) (keyword : String) : Option Expr → Piece
  | none => nothing
  | some e => ofText keyword ++ Expr.piece o e

/-- What the joined tables add. -/
def Join.pieces (o : Options) : List Join → Piece
  | [] => nothing
  | .mk kind table condition :: rest =>
    ofText ((match kind with
      | .inner => " JOIN "
      | .left => " LEFT JOIN ") ++ table.ref.text ++ " ON ") ++ Expr.piece o condition ++ Join.pieces o rest

/-- What a select adds, without parentheses. -/
def Select.piece (o : Options) : Select → Piece
  | ⟨table, columns, distinct, joins, filter, groupBy, having, orderBy, limit, offset, _, _⟩ =>
    let inner :=
      { o with qualify := o.qualify || !joins.isEmpty, bind := true, nested := false, converter := none }
    ofText (if distinct then "SELECT DISTINCT " else "SELECT ") ++
      (if columns.isEmpty then ofText (Text.commaSeparated (table.columns.map (·.written inner.qualify)))
      else separated (Expr.pieces inner columns)) ++
      ofText (" FROM " ++ table.ref.text) ++ Join.pieces inner joins ++ Expr.clause inner " WHERE " filter ++
      (if groupBy.isEmpty then nothing else ofText " GROUP BY " ++ separated (Expr.pieces inner groupBy)) ++
      Expr.clause inner " HAVING " having ++
      (if orderBy.isEmpty then nothing else ofText " ORDER BY " ++ separated (Expr.pieces inner orderBy)) ++
      limitClause limit offset

end

end SqlMapper
