import SqlMapper.Statement

/-!
# Places of columns

A place in a statement is a gap in one of its clauses and the nodes of the expression in that gap, from the outside to
the inside. Every column of a statement stands at a place (`Statement.exists_place`). The selects around a place are
those that it leads through (`Statement.Place.enclosures`).
-/

namespace SqlMapper

/-! ## Gaps -/

/-- A clause of a select with a gap for an expression. -/
inductive Select.Gap where
  | column (before after : List Expr)
  | condition (before : List Join) (kind : JoinKind) (table : Table) (after : List Join)
  | filter
  | groupBy (before after : List Expr)
  | having
  | orderBy (before after : List Expr)

/-- The select with an expression in the gap. -/
def Select.put (s : Select) (e : Expr) : Select.Gap → Select
  | .column before after => { s with columns := before ++ e :: after }
  | .condition before kind table after => { s with joins := before ++ .mk kind table e :: after }
  | .filter => { s with filter := some e }
  | .groupBy before after => { s with groupBy := before ++ e :: after }
  | .having => { s with having := some e }
  | .orderBy before after => { s with orderBy := before ++ e :: after }

/-- The select joins a table, be it in the gap. -/
def Select.joinsAround (s : Select) : Select.Gap → Bool
  | .condition .. => true
  | _ => !s.joins.isEmpty

/-- A node of an expression with a gap for one of its parts. -/
inductive Frame where
  | argument (function : String) (distinct : Bool) (before after : List Operand)
  | left (op : BinaryOp) (rhs : Operand)
  | right (op : BinaryOp) (lhs : Operand)
  | unary (op : UnaryOp)
  | tested (negated : Bool) (low high : Operand)
  | lowest (negated : Bool) (operand high : Operand)
  | highest (negated : Bool) (operand low : Operand)
  | ordered (order : Order)
  | aliased (label : String)
  | select (s : Select) (gap : Select.Gap)

/-- The node with an expression in the gap. -/
def Frame.put (e : Expr) : Frame → Expr
  | .argument function distinct before after => .call function distinct (before ++ .expr e :: after)
  | .left op rhs => .binary op (.expr e) rhs
  | .right op lhs => .binary op lhs (.expr e)
  | .unary op => .unary op (.expr e)
  | .tested negated low high => .between negated (.expr e) low high
  | .lowest negated operand high => .between negated operand (.expr e) high
  | .highest negated operand low => .between negated operand low (.expr e)
  | .ordered order => .ordered e order
  | .aliased label => .aliased e label
  | .select s gap => .select (s.put e gap)

/-- An expression inside of nodes, the outermost first. -/
def Expr.inside (e : Expr) (frames : List Frame) : Expr := frames.foldr (fun frame e => frame.put e) e

/-- A statement that reads, updates or deletes rows, with a gap for an expression. -/
inductive Statement.Gap where
  | select (s : Select) (gap : Select.Gap)
  | assignment (u : Update) (before : List (Field × Operand)) (f : Field) (after : List (Field × Operand))
  | updated (u : Update)
  | deleted (d : Delete)

/-- The statement with an expression in the gap. -/
def Statement.Gap.put (e : Expr) : Statement.Gap → Statement
  | .select s gap => .select (s.put e gap)
  | .assignment u before f after => .update { u with assignments := before ++ (f, .expr e) :: after }
  | .updated u => .update { u with filter := some e }
  | .deleted d => .delete { d with filter := some e }

/-- A place in a statement. -/
structure Statement.Place where
  gap : Statement.Gap
  /-- The nodes around the place, the outermost first. -/
  frames : List Frame

/-- The statement with an expression at the place. -/
def Statement.Place.put (p : Statement.Place) (e : Expr) : Statement := p.gap.put (e.inside p.frames)

/-! ## Selects around a place -/

/-- What a select around a place is like. -/
structure Enclosure where
  /-- It joins a table. -/
  joins : Bool
  /-- It is an expression of another statement. -/
  embedded : Bool
deriving DecidableEq, Repr

/-- Columns inside of the select are written with their tables. -/
def Enclosure.qualifies (s : Enclosure) : Bool := s.joins || s.embedded

/-- The select that a node is. -/
def Frame.enclosure? : Frame → Option Enclosure
  | .select s gap => some ⟨s.joinsAround gap, true⟩
  | _ => none

/-- The select that a statement is. -/
def Statement.Gap.enclosure? : Statement.Gap → Option Enclosure
  | .select s gap => some ⟨s.joinsAround gap, false⟩
  | _ => none

/-- The selects around a place. -/
def Statement.Place.enclosures (p : Statement.Place) : List Enclosure :=
  p.gap.enclosure?.toList ++ p.frames.filterMap Frame.enclosure?

/-! ## Columns -/

mutual

/-- The columns of an expression, in the order of its text. -/
def Expr.columnNodes : Expr → List Column
  | .column c => [c]
  | .raw _ => []
  | .call _ _ args => Operand.columnNodesAll args
  | .binary _ lhs rhs => Operand.columnNodes lhs ++ Operand.columnNodes rhs
  | .unary _ arg => Operand.columnNodes arg
  | .between _ operand low high =>
    Operand.columnNodes operand ++ Operand.columnNodes low ++ Operand.columnNodes high
  | .ordered e _ => e.columnNodes
  | .aliased e _ => e.columnNodes
  | .select s => s.columnNodes

def Operand.columnNodes : Operand → List Column
  | .value _ | .raw _ => []
  | .expr e => e.columnNodes

def Operand.columnNodesAll : List Operand → List Column
  | [] => []
  | a :: rest => Operand.columnNodes a ++ Operand.columnNodesAll rest

def Expr.columnNodesAll : List Expr → List Column
  | [] => []
  | e :: rest => e.columnNodes ++ Expr.columnNodesAll rest

def Expr.columnNodesIn : Option Expr → List Column
  | none => []
  | some e => e.columnNodes

def Join.columnNodesAll : List Join → List Column
  | [] => []
  | .mk _ _ condition :: rest => condition.columnNodes ++ Join.columnNodesAll rest

/-- The columns of the clauses of a select. -/
def Select.columnNodes : Select → List Column
  | ⟨_, columns, _, joins, filter, groupBy, having, orderBy, _, _, _, _⟩ =>
    Expr.columnNodesAll columns ++ Join.columnNodesAll joins ++ Expr.columnNodesIn filter ++
      Expr.columnNodesAll groupBy ++ Expr.columnNodesIn having ++ Expr.columnNodesAll orderBy

end

/-- The columns of a statement that reads, updates or deletes rows. -/
def Statement.columnNodes : Statement → List Column
  | .select s => s.columnNodes
  | .update u => u.assignments.flatMap (fun a => a.2.columnNodes) ++ Expr.columnNodesIn u.filter
  | .delete d => Expr.columnNodesIn d.filter
  | _ => []

section Columns

variable {c : Column}

mutual

/-- A column of an expression stands inside of some nodes. -/
theorem Expr.exists_inside : ∀ {e : Expr}, c ∈ e.columnNodes → ∃ frames, (Expr.column c).inside frames = e
  | .column d, h => ⟨[], by rw [List.mem_singleton.1 h]; rfl⟩
  | .raw _, h => absurd h List.not_mem_nil
  | .call function distinct _, h => by
    obtain ⟨before, frames, after, rfl⟩ := Operand.exists_inside_all h
    exact ⟨.argument function distinct before after :: frames, rfl⟩
  | .binary op lhs rhs, h => by
    rcases List.mem_append.1 h with h | h
    · obtain ⟨frames, rfl⟩ := Operand.exists_inside h
      exact ⟨.left op rhs :: frames, rfl⟩
    · obtain ⟨frames, rfl⟩ := Operand.exists_inside h
      exact ⟨.right op lhs :: frames, rfl⟩
  | .unary op _, h => by
    obtain ⟨frames, rfl⟩ := Operand.exists_inside h
    exact ⟨.unary op :: frames, rfl⟩
  | .between negated operand low high, h => by
    rcases List.mem_append.1 h with h | h
    · rcases List.mem_append.1 h with h | h
      · obtain ⟨frames, rfl⟩ := Operand.exists_inside h
        exact ⟨.tested negated low high :: frames, rfl⟩
      · obtain ⟨frames, rfl⟩ := Operand.exists_inside h
        exact ⟨.lowest negated operand high :: frames, rfl⟩
    · obtain ⟨frames, rfl⟩ := Operand.exists_inside h
      exact ⟨.highest negated operand low :: frames, rfl⟩
  | .ordered e order, h => by
    obtain ⟨frames, rfl⟩ := Expr.exists_inside (e := e) h
    exact ⟨.ordered order :: frames, rfl⟩
  | .aliased e label, h => by
    obtain ⟨frames, rfl⟩ := Expr.exists_inside (e := e) h
    exact ⟨.aliased label :: frames, rfl⟩
  | .select s, h => by
    obtain ⟨gap, frames, hs⟩ := Select.exists_inside h
    exact ⟨.select s gap :: frames, congrArg Expr.select hs⟩

theorem Operand.exists_inside : ∀ {a : Operand}, c ∈ a.columnNodes →
    ∃ frames, .expr ((Expr.column c).inside frames) = a
  | .value _, h | .raw _, h => absurd h List.not_mem_nil
  | .expr _, h => by
    obtain ⟨frames, rfl⟩ := Expr.exists_inside h
    exact ⟨frames, rfl⟩

theorem Operand.exists_inside_all : ∀ {args : List Operand}, c ∈ Operand.columnNodesAll args →
    ∃ before frames after, before ++ .expr ((Expr.column c).inside frames) :: after = args
  | [], h => absurd h List.not_mem_nil
  | a :: rest, h => by
    rcases List.mem_append.1 h with h | h
    · obtain ⟨frames, rfl⟩ := Operand.exists_inside h
      exact ⟨[], frames, rest, rfl⟩
    · obtain ⟨before, frames, after, rfl⟩ := Operand.exists_inside_all h
      exact ⟨a :: before, frames, after, rfl⟩

theorem Expr.exists_inside_all : ∀ {es : List Expr}, c ∈ Expr.columnNodesAll es →
    ∃ before frames after, before ++ (Expr.column c).inside frames :: after = es
  | [], h => absurd h List.not_mem_nil
  | e :: rest, h => by
    rcases List.mem_append.1 h with h | h
    · obtain ⟨frames, rfl⟩ := Expr.exists_inside h
      exact ⟨[], frames, rest, rfl⟩
    · obtain ⟨before, frames, after, rfl⟩ := Expr.exists_inside_all h
      exact ⟨e :: before, frames, after, rfl⟩

theorem Expr.exists_inside_in : ∀ {e : Option Expr}, c ∈ Expr.columnNodesIn e →
    ∃ frames, some ((Expr.column c).inside frames) = e
  | none, h => absurd h List.not_mem_nil
  | some _, h => by
    obtain ⟨frames, rfl⟩ := Expr.exists_inside h
    exact ⟨frames, rfl⟩

theorem Join.exists_inside_all : ∀ {joins : List Join}, c ∈ Join.columnNodesAll joins →
    ∃ before kind table frames after, before ++ .mk kind table ((Expr.column c).inside frames) :: after = joins
  | [], h => absurd h List.not_mem_nil
  | .mk kind table condition :: rest, h => by
    rcases List.mem_append.1 h with h | h
    · obtain ⟨frames, rfl⟩ := Expr.exists_inside h
      exact ⟨[], kind, table, frames, rest, rfl⟩
    · obtain ⟨before, kind', table', frames, after, rfl⟩ := Join.exists_inside_all h
      exact ⟨.mk kind table condition :: before, kind', table', frames, after, rfl⟩

/-- A column of a select stands in the gap of a clause. -/
theorem Select.exists_inside : ∀ {s : Select}, c ∈ s.columnNodes →
    ∃ gap frames, s.put ((Expr.column c).inside frames) gap = s
  | ⟨_, _, _, _, _, _, _, _, _, _, _, _⟩, h => by
    simp only [Select.columnNodes, List.mem_append] at h
    rcases h with ((((h | h) | h) | h) | h) | h
    · obtain ⟨before, frames, after, rfl⟩ := Expr.exists_inside_all h
      exact ⟨.column before after, frames, rfl⟩
    · obtain ⟨before, kind, table, frames, after, rfl⟩ := Join.exists_inside_all h
      exact ⟨.condition before kind table after, frames, rfl⟩
    · obtain ⟨frames, rfl⟩ := Expr.exists_inside_in h
      exact ⟨.filter, frames, rfl⟩
    · obtain ⟨before, frames, after, rfl⟩ := Expr.exists_inside_all h
      exact ⟨.groupBy before after, frames, rfl⟩
    · obtain ⟨frames, rfl⟩ := Expr.exists_inside_in h
      exact ⟨.having, frames, rfl⟩
    · obtain ⟨before, frames, after, rfl⟩ := Expr.exists_inside_all h
      exact ⟨.orderBy before after, frames, rfl⟩

end

/-- **Every column of a statement stands at a place.** -/
theorem Statement.exists_place {st : Statement} (h : c ∈ st.columnNodes) :
    ∃ p : Statement.Place, p.put (.column c) = st := by
  cases st with
  | select s =>
    obtain ⟨gap, frames, hs⟩ := Select.exists_inside h
    exact ⟨⟨.select s gap, frames⟩, congrArg Statement.select hs⟩
  | update u =>
    rcases List.mem_append.1 h with h | h
    · obtain ⟨⟨f, value⟩, ha, hc⟩ := List.mem_flatMap.1 h
      obtain ⟨frames, rfl⟩ := Operand.exists_inside hc
      obtain ⟨before, after, hsplit⟩ := List.append_of_mem ha
      exact ⟨⟨.assignment u before f after, frames⟩, congrArg Statement.update (by rw [← hsplit])⟩
    · obtain ⟨frames, hframes⟩ := Expr.exists_inside_in h
      exact ⟨⟨.updated u, frames⟩, congrArg Statement.update (by rw [hframes])⟩
  | delete d =>
    obtain ⟨frames, hframes⟩ := Expr.exists_inside_in h
    exact ⟨⟨.deleted d, frames⟩, congrArg Statement.delete (by rw [hframes])⟩
  | _ => cases h

end Columns

end SqlMapper
