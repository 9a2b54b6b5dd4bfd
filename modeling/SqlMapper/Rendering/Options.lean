import SqlMapper.Field.Wire
import SqlMapper.Value.Literal
import SqlMapper.Rendering.Piece

/-!
# Rendering options

The options under which a part of a statement is rendered, and how they decide what a literal value becomes.
-/

namespace SqlMapper

/-- The clause that is being written. -/
inductive Fragment where
  | none
  | select
  | selectFrom
  | join
  | selectWhere
  | selectGroupBy
  | selectHaving
  | selectOrderBy
  | limit
  | insertInto
  | insertIntoValues
  | updateSet
  | updateWhere
  | deleteFrom
  | deleteFromWhere
  | createTable
  | dropTable
  | showTable
deriving DecidableEq, Repr

/-- Every clause. -/
def Fragment.all : List Fragment :=
  [.none, .select, .selectFrom, .join, .selectWhere, .selectGroupBy, .selectHaving, .selectOrderBy, .limit, .insertInto,
    .insertIntoValues, .updateSet, .updateWhere, .deleteFrom, .deleteFromWhere, .createTable, .dropTable, .showTable]

/-- The options of a scope. -/
structure Options where
  fragment : Fragment := .none
  /-- The scope stands in parentheses. -/
  parenthesize : Bool := false
  /-- Values become placeholders with parameters; otherwise they are written as literals. -/
  bind : Bool := true
  /-- A list is one parameter, and not one for each item. -/
  nested : Bool := false
  /-- Columns are written with their tables. -/
  qualify : Bool := false
  /-- The field whose conversion applies to values. -/
  converter : Option Field := Option.none
deriving Inhabited

namespace Options

/-- Renders a part in a scope of its own. Parentheses belong to the scope alone. -/
def scope (o : Options) (part : Options → Piece) : Piece :=
  if o.parenthesize then (part { o with parenthesize := false }).inParens else part o

/-- A value after its conversion. -/
def converted (o : Options) (v : Value) : Result Value :=
  match o.converter with
  | some f => f.toWire v
  | none => .ok v

/-- A converted value: a literal, a placeholder, or for a list a placeholder for each item. A value without a literal
is a panic where it has to be written as one. -/
def placed (o : Options) (v : Value) : Piece :=
  if o.bind then
    match v, o.nested with
    | .list items, false => Piece.separated (items.map Piece.placeholder)
    | v, _ => Piece.placeholder v
  else
    match v.literal with
    | some s => Piece.ofText s
    | none => Piece.failed .outOfCalendar

/-- A literal value in a statement. -/
def value (o : Options) (v : Value) : Piece :=
  match o.converted v with
  | .ok w => o.placed w
  | .error e => Piece.failed e

end Options

end SqlMapper
