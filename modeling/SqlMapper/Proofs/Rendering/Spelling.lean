import SqlMapper.Statement

/-!
# Spelling

A rule for the names of an expression or a statement and another for the texts that it writes as they are. Names are
those of tables, databases, columns and aliases; function names and raw texts stand as they are. A rule that all of
them obey holds in every select inside, at any depth.
-/

namespace SqlMapper

/-- What names and texts that are written as they are have to look like. -/
structure Spelling where
  name : String → Prop
  verbatim : String → Prop

/-- The name of a table and the database around it. -/
def TableRef.Spelled (r : Spelling) (t : TableRef) : Prop := (∀ db ∈ t.db, r.name db) ∧ r.name t.name

/-- A column and the table that it is written with. -/
def Column.Spelled (r : Spelling) (c : Column) : Prop := c.table.Spelled r ∧ r.name c.name

/-- A table with all its columns. -/
def Table.Spelled (r : Spelling) (t : Table) : Prop := t.ref.Spelled r ∧ ∀ p ∈ t.fields.pairs, r.name p.2.name

mutual

/-- An expression with all its parts. -/
def Expr.Spelled (r : Spelling) : Expr → Prop
  | .column c => c.Spelled r
  | .raw sql => r.verbatim sql
  | .call function _ args => r.verbatim function ∧ Operand.SpelledAll r args
  | .binary _ lhs rhs => Operand.Spelled r lhs ∧ Operand.Spelled r rhs
  | .unary _ arg => Operand.Spelled r arg
  | .between _ operand low high => Operand.Spelled r operand ∧ Operand.Spelled r low ∧ Operand.Spelled r high
  | .ordered e _ => Expr.Spelled r e
  | .aliased e label => Expr.Spelled r e ∧ r.name label
  | .select s => Select.Spelled r s

/-- An operand with all its parts. -/
def Operand.Spelled (r : Spelling) : Operand → Prop
  | .value _ => True
  | .expr e => Expr.Spelled r e
  | .raw sql => r.verbatim sql

/-- Some operands. -/
def Operand.SpelledAll (r : Spelling) : List Operand → Prop
  | [] => True
  | a :: rest => Operand.Spelled r a ∧ Operand.SpelledAll r rest

/-- Some expressions. -/
def Expr.SpelledAll (r : Spelling) : List Expr → Prop
  | [] => True
  | e :: rest => Expr.Spelled r e ∧ Expr.SpelledAll r rest

/-- A condition, if there is one. -/
def Expr.SpelledIn (r : Spelling) : Option Expr → Prop
  | none => True
  | some e => Expr.Spelled r e

/-- The joined tables with their conditions. -/
def Join.SpelledAll (r : Spelling) : List Join → Prop
  | [] => True
  | .mk _ table condition :: rest => table.ref.Spelled r ∧ Expr.Spelled r condition ∧ Join.SpelledAll r rest

/-- A select with all its clauses. -/
def Select.Spelled (r : Spelling) : Select → Prop
  | ⟨table, columns, _, joins, filter, groupBy, having, orderBy, _, _, _, _⟩ =>
    table.Spelled r ∧ Expr.SpelledAll r columns ∧ Join.SpelledAll r joins ∧ Expr.SpelledIn r filter ∧
      Expr.SpelledAll r groupBy ∧ Expr.SpelledIn r having ∧ Expr.SpelledAll r orderBy

end

/-- A statement that reads or changes rows, with all its parts. -/
inductive Statement.Spelled (r : Spelling) : Statement → Prop
  | select {s : Select} : s.Spelled r → Spelled r (.select s)
  | insert {i : Insert} : i.table.Spelled r → Spelled r (.insert i)
  | update {u : Update} : u.table.ref.Spelled r → (∀ a ∈ u.assignments, r.name a.1.name ∧ a.2.Spelled r) →
      Expr.SpelledIn r u.filter → Spelled r (.update u)
  | delete {d : Delete} : d.table.ref.Spelled r → Expr.SpelledIn r d.filter → Spelled r (.delete d)

end SqlMapper
