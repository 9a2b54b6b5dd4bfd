import SqlMapper.Rendering.Context

/-!
# Writers

Rendering as it goes along: a writer changes a statement in the making, and an error stops it. A scope has options of
its own, which are dropped when the scope is left, and so is its parenthesis closed, whether the scope came to an error
or not.
-/

namespace SqlMapper

/-- A part of rendering: it changes the statement in the making, and may stop with an error. -/
abbrev Writing := Context → Context × Option Error

namespace Writing

/-- Writes a text. -/
def text (s : String) : Writing := fun c => ({ c with text := c.text ++ s }, none)

/-- Writes nothing. -/
def nothing : Writing := fun c => (c, none)

instance : Inhabited Writing := ⟨nothing⟩

/-- One writer after another. Nothing follows an error. -/
def andThen (v w : Writing) : Writing := fun c =>
  match v c with
  | (d, none) => w d
  | (d, some e) => (d, some e)

instance : Append Writing := ⟨andThen⟩

/-- Writers with commas between them. -/
def separated : List Writing → Writing
  | [] => nothing
  | [w] => w
  | w :: rest => w ++ text ", " ++ separated rest

/-- Writes a placeholder and binds the value that it stands for. -/
def placeholder (v : Value) : Writing := fun c =>
  ({ c with text := c.text ++ "%s", params := c.params ++ [v] }, none)

/-- Writes a converted value: its literal, a placeholder, or for a list a placeholder for each item. -/
def placed (v : Value) : Writing := fun c =>
  if c.options.bind then
    match v, c.options.nested with
    | .list items, false => separated (items.map placeholder) c
    | v, _ => placeholder v c
  else
    match v.literal with
    | some s => text s c
    | none => (c, some .outOfCalendar)

/-- Writes a value after its conversion. -/
def value (v : Value) : Writing := fun c =>
  match c.options.converted v with
  | .ok w => placed w c
  | .error e => (c, some e)

/-- Writes a column, with its table where the scope asks for it. -/
def column (col : Column) : Writing := fun c => text (col.written c.options.qualify) c

/-- Writes in a scope with options of its own. The scope is left even after an error. -/
def inScope (update : Options → Options) (w : Writing) : Writing := fun c =>
  let o := update c.options
  let (d, e) := w (c.openScope o)
  (d.closeScope o.parenthesize, e)

/-- Writes a clause of its own. -/
def inClause (fragment : Fragment) (w : Writing) : Writing := inScope (fun o => { o with fragment := fragment }) w

/-- Writes an operator with its operands, in parentheses. Values beside it are converted by the field. -/
def inOperator (converter : Option Field) (w : Writing) : Writing :=
  inScope (fun o => { o with parenthesize := true, converter := converter }) w

/-- Writes an operand in which a list is one parameter. -/
def inNested (w : Writing) : Writing := inScope (fun o => { o with nested := true }) w

end Writing

open Writing

/-- Writes the clause for the number of rows. -/
def writeLimit (limit offset : Option Nat) : Writing :=
  match limit with
  | none => nothing
  | some n =>
    text (" LIMIT " ++ Nat.repr n ++
      match offset with
      | some m => " OFFSET " ++ Nat.repr m
      | none => "")

mutual

/-- Writes an expression. -/
def Expr.write : Expr → Writing
  | .column c => column c
  | .raw sql => text sql
  | .call function distinct args =>
    text (function ++ "(" ++ if distinct then "DISTINCT " else "") ++
      inScope (fun o => { o with converter := none }) (separated (Operand.writes args) ++ text ")")
  | .binary op lhs rhs =>
    inOperator (Expr.field? (.binary op lhs rhs))
      (Operand.write lhs ++ text (" " ++ op.symbol ++ " ") ++
        (if op.isMembership then inNested (Operand.write rhs)
        else if op.isNullTest && rhs.isNull then text "NULL"
        else Operand.write rhs))
  | .unary op arg =>
    inOperator arg.field?
      (match op with
      | .negative => text "-" ++ Operand.write arg
      | .not => text "NOT " ++ Operand.write arg
      | .isNull => Operand.write arg ++ text " IS NULL"
      | .isNotNull => Operand.write arg ++ text " IS NOT NULL"
      | .exists | .notExists => text op.existsWord ++ inNested (Operand.write arg))
  | .between negated operand low high =>
    inOperator operand.field?
      (Operand.write operand ++ text (if negated then " NOT BETWEEN " else " BETWEEN ") ++ Operand.write low ++
        text " AND " ++ Operand.write high)
  | .ordered e order =>
    Expr.write e ++ text (match order with
      | .ascending => " ASC"
      | .descending => " DESC")
  | .aliased e label => Expr.write e ++ text (" AS " ++ Literal.identifier label)
  | .select s => inScope (fun o => { o with parenthesize := true, qualify := true }) (Select.write s)

/-- Writes an operand. -/
def Operand.write : Operand → Writing
  | .value v => value v
  | .expr e => Expr.write e
  | .raw sql => text sql

/-- Writers of some operands. -/
def Operand.writes : List Operand → List Writing
  | [] => []
  | a :: rest => Operand.write a :: Operand.writes rest

/-- Writers of some expressions. -/
def Expr.writes : List Expr → List Writing
  | [] => []
  | e :: rest => Expr.write e :: Expr.writes rest

/-- Writes a condition behind its keyword. -/
def Expr.writeClause (fragment : Fragment) (keyword : String) : Option Expr → Writing
  | none => nothing
  | some e => inClause fragment (text keyword ++ Expr.write e)

/-- Writes the joined tables. -/
def Join.write : List Join → Writing
  | [] => nothing
  | .mk kind table condition :: rest =>
    inClause .join (text ((match kind with
      | .inner => " JOIN "
      | .left => " LEFT JOIN ") ++ table.ref.text ++ " ON ") ++ Expr.write condition) ++ Join.write rest

/-- Writes a select without parentheses. -/
def Select.write : Select → Writing
  | ⟨table, columns, distinct, joins, filter, groupBy, having, orderBy, limit, offset, _, _⟩ =>
    inScope (fun o =>
        { o with fragment := .select, qualify := o.qualify || !joins.isEmpty, bind := true, nested := false,
                 converter := none })
      (text (if distinct then "SELECT DISTINCT " else "SELECT ") ++
        (if columns.isEmpty then separated (table.columns.map column) else separated (Expr.writes columns)) ++
        inClause .selectFrom (text (" FROM " ++ table.ref.text)) ++ Join.write joins ++
        Expr.writeClause .selectWhere " WHERE " filter ++
        (if groupBy.isEmpty then nothing
        else inClause .selectGroupBy (text " GROUP BY " ++ separated (Expr.writes groupBy))) ++
        Expr.writeClause .selectHaving " HAVING " having ++
        (if orderBy.isEmpty then nothing
        else inClause .selectOrderBy (text " ORDER BY " ++ separated (Expr.writes orderBy))) ++
        writeLimit limit offset)

end

end SqlMapper
